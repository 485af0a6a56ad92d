import Wardnet.Zone.Gates

/-!
# The gates follow the devices

A present device that has its address for itself has the gates of its zone.
An event touches the gates of the addresses it is about, so that the gates of
every other device need a frame argument only; the condition on the steps says
that no other device is at those addresses.
-/

namespace Wardnet.Zone

open HashMap List Net Table Transition

/-! ## The invariant -/

variable {lanIp addr other : Ipv4Addr} {db : Database} {gates : List Gate}
  {device : Uuid} {zone : NetworkZone} {fleet after : Fleet}

theorem Fleet.alone_iff : fleet.Alone device addr ↔
    ∀ other, fleet.present.get other = some addr → other = device := by
  constructor
  · intro halone other hother
    exact halone (other, addr) (mem_toList.mpr hother) rfl
  · rintro halone ⟨other, found⟩ hentry rfl
    exact halone other (mem_toList.mp hentry)

/-- A present device is stored with its address and has its gates. -/
structure Guarded (lanIp : Ipv4Addr) (fleet : Fleet) : Prop where
  keyed : fleet.db.Keyed
  stored : ∀ device addr, fleet.present.get device = some addr →
    ∃ row, fleet.db.findDevice device = some row ∧ row.lastIp = some addr
  gated : ∀ device addr, fleet.present.get device = some addr → fleet.Owns lanIp device addr →
    (fleet.db.rulesOf device).map (fun rules => rules.gates addr) =
      some (installed fleet.gates addr)

/-- A device that held its address before keeps its gates when nothing
touches them. -/
theorem Guarded.frame (hguarded : Guarded lanIp fleet)
    (hpresent : fleet.present.get device = some addr) (howns : fleet.Owns lanIp device addr)
    (hrules : after.db.rulesOf device = fleet.db.rulesOf device)
    (hsame : installed after.gates addr = installed fleet.gates addr) :
    (after.db.rulesOf device).map (fun rules => rules.gates addr) =
      some (installed after.gates addr) := by
  rw [hrules, hsame]
  exact hguarded.gated device addr hpresent howns

/-! ## Addresses -/

section

variable (hguarded : Guarded lanIp fleet)
include hguarded

/-- One device comes, moves or leaves, and gets the gates of its zone.  The
others stay where they were, and the gates of their addresses are not touched. -/
theorem Guarded.move (hkeyed : after.db.Keyed) (hzones : after.db.zones = fleet.db.zones)
    (hrows : ∀ other, other ≠ device → after.db.findDevice other = fleet.db.findDevice other)
    (hpresent : ∀ other, other ≠ device → after.present.get other = fleet.present.get other)
    (hself : ∀ found, after.present.get device = some found →
      ∃ row, after.db.findDevice device = some row ∧ row.lastIp = some found ∧
        ∀ zone, after.db.findZone row.zoneId = some zone →
          isOwnAddress lanIp after.db.zones found = false →
          installed after.gates found = (zoneRules zone).gates found)
    (hothers : ∀ other found, other ≠ device → fleet.present.get other = some found →
      after.present.get device ≠ some found → fleet.present.get device ≠ some found ∧
        installed after.gates found = installed fleet.gates found) : Guarded lanIp after := by
  refine ⟨hkeyed, ?_, ?_⟩
  · intro other found hfound
    by_cases hother : other = device
    · subst hother
      obtain ⟨row, hrow, hip, -⟩ := hself found hfound
      exact ⟨row, hrow, hip⟩
    · rw [hrows other hother]
      exact hguarded.stored other found (hpresent other hother ▸ hfound)
  · intro other found hfound howns
    by_cases hother : other = device
    · subst hother
      obtain ⟨row, hrow, -, hgates⟩ := hself found hfound
      obtain ⟨zone, hzone, hrules⟩ := hkeyed.rulesOf hrow
      rw [hrules, hgates zone hzone howns.2]
      rfl
    · have hold := hpresent other hother ▸ hfound
      have haway : after.present.get device ≠ some found :=
        fun hthere => hother (Fleet.alone_iff.mp howns.1 device hthere).symm
      obtain ⟨helsewhere, hsame⟩ := hothers other found hother hold haway
      have hbefore : fleet.Owns lanIp other found := by
        refine ⟨Fleet.alone_iff.mpr fun third hthird => ?_, hzones ▸ howns.2⟩
        by_cases hdevice : third = device
        · exact absurd (hdevice ▸ hthird) helsewhere
        · exact Fleet.alone_iff.mp howns.1 third ((hpresent third hdevice).trans hthird)
      apply hguarded.frame hold hbefore _ hsame
      simp only [Database.rulesOf, hrows other hother, Database.findZone, hzones]

theorem Guarded.deviceDiscovered (hnext : fleet.next lanIp (.deviceDiscovered device addr) =
      some after) : Guarded lanIp after := by
  simp only [Fleet.next] at hnext
  split at hnext
  · cases hnext
  rename_i habsent
  obtain ⟨db, hregister, rfl⟩ := Option.map_eq_some_iff.mp hnext
  obtain ⟨hkeyed, hzones, ⟨row, hrow, hip⟩, hrows⟩ := register_eq_some hguarded.keyed hregister
  refine hguarded.move hkeyed hzones hrows (fun _ => get_insert_of_ne fleet.present addr) ?_ ?_
  · intro found hfound
    obtain rfl : addr = found := by simpa using hfound
    exact ⟨row, hrow, hip, fun zone hzone => installed_applyDevice hrow hzone hip⟩
  · intro other found _ _ haway
    refine ⟨fun hthere => habsent (by simp [hthere]), installed_applyDevice_of_ne ?_⟩
    intro stored hstored hlast
    cases hrow.symm.trans hstored
    exact haway (by simpa using hip.symm.trans hlast)

theorem Guarded.deviceIpChanged
    (huncontested : fleet.Uncontested lanIp (.deviceIpChanged device addr))
    (hnext : fleet.next lanIp (.deviceIpChanged device addr) =
      some after) : Guarded lanIp after := by
  simp only [Fleet.next, Option.bind_eq_some_iff] at hnext
  obtain ⟨oldIp, holdIp, hnext⟩ := hnext
  split at hnext
  · cases hnext
  cases hnext
  obtain ⟨row, hrow, -⟩ := hguarded.stored device oldIp holdIp
  have hmoved : (fleet.db.setLastIp device (some addr)).findDevice device =
      some { row with lastIp := some addr } := by
    rw [findDevice_setLastIp, if_pos rfl, hrow]
    rfl
  refine hguarded.move hguarded.keyed.setLastIp rfl
    (fun other hne => (findDevice_setLastIp other).trans (if_neg hne))
    (fun _ => get_insert_of_ne fleet.present addr) ?_ ?_
  · intro found hfound
    obtain rfl : addr = found := by simpa using hfound
    refine ⟨_, hmoved, rfl, fun zone hzone hown => ?_⟩
    simp only [handleIpChange, loadDeviceAndZone_eq_some.mpr ⟨_, hmoved, hzone, rfl, hown⟩]
    rw [installed_applyOne, if_pos ⟨rfl, hown⟩]
  · intro other found hne hold haway
    have hleft : found ≠ oldIp := by
      rintro rfl
      exact hne (huncontested (other, found) (mem_toList.mpr hold) holdIp)
    have haddr : found ≠ addr := fun heq => haway (by simp [heq])
    refine ⟨fun hthere => hleft (Option.some.inj (hthere.symm.trans holdIp)), ?_⟩
    simp only [handleIpChange]
    split
    · rw [installed_applyOne, if_neg fun htouched => haddr htouched.1,
        installed_removeDevice_of_ne hleft]
    · rw [installed_removeDevice_of_ne hleft]

theorem Guarded.deviceGone (huncontested : fleet.Uncontested lanIp (.deviceGone device))
    (hnext : fleet.next lanIp (.deviceGone device) = some after) : Guarded lanIp after := by
  simp only [Fleet.next, Option.map_eq_some_iff] at hnext
  obtain ⟨lastIp, hlastIp, rfl⟩ := hnext
  refine hguarded.move hguarded.keyed.setLastIp rfl
    (fun other hne => (findDevice_setLastIp other).trans (if_neg hne))
    (fun other hne => (get_remove ..).trans (if_neg hne)) ?_ ?_
  · simp
  · intro other found hne hold _
    have hleft : found ≠ lastIp := by
      rintro rfl
      exact hne (huncontested (other, found) (mem_toList.mpr hold) hlastIp)
    exact ⟨fun hthere => hleft (Option.some.inj (hthere.symm.trans hlastIp)),
      installed_removeDevice_of_ne hleft⟩

end

/-! ## Zones -/

variable {zones : List NetworkZone}

theorem isOwnAddress_mono {later : List NetworkZone}
    (hkept : ∀ zone ∈ zones, ∃ kept ∈ later, kept.subnet = zone.subnet)
    (hlater : isOwnAddress lanIp later addr = false) : isOwnAddress lanIp zones addr = false := by
  rw [Bool.eq_false_iff] at hlater ⊢
  intro hown
  apply hlater
  simp only [isOwnAddress, Bool.or_eq_true, any_eq_true, mem_filterMap] at hown ⊢
  apply hown.imp_right
  rintro ⟨net, ⟨zone, hzone, hnet⟩, hgateway⟩
  obtain ⟨kept, hmem, hsubnet⟩ := hkept zone hzone
  exact ⟨net, ⟨kept, hmem, hsubnet ▸ hnet⟩, hgateway⟩

variable {id : Uuid}

theorem installed_applyZone (hzone : db.findZone id = some zone) :
    installed (applyZone lanIp db gates id) addr =
      if (∃ row ∈ db.devices, row.zoneId = id ∧ row.lastIp = some addr) ∧
          isOwnAddress lanIp db.zones addr = false then
        (zoneRules zone).gates addr
      else installed gates addr := by
  simp only [applyZone, hzone]
  rw [installed_foldl_applyMember]
  simp only [mem_filter, decide_eq_true_eq, and_assoc]

/-- A changed zone: its members get its rules, and nobody else is affected. -/
theorem Guarded.zoneChanged (hguarded : Guarded lanIp fleet)
    (hkeyed : (fleet.db.setZones zones).Keyed)
    (hrules : ∀ other, other ≠ id → (Table.find NetworkZone.id zones other).map zoneRules =
        (fleet.db.findZone other).map zoneRules) (hstale : fleet.NoStaleMember id)
    (hown : ∀ device addr row, fleet.present.get device = some addr →
      fleet.db.findDevice device = some row → row.zoneId ≠ id →
      isOwnAddress lanIp zones addr = false → isOwnAddress lanIp fleet.db.zones addr = false) :
    Guarded lanIp
      { fleet with
        db := fleet.db.setZones zones
        gates := applyZone lanIp (fleet.db.setZones zones) fleet.gates id } := by
  refine ⟨hkeyed, hguarded.stored, ?_⟩
  intro device addr hpresent howns
  obtain ⟨row, hrow, hip⟩ := hguarded.stored device addr hpresent
  have hrowMem := (find_eq_some hrow).1
  by_cases hmember : row.zoneId = id
  · obtain ⟨zone, hzone, hrulesOf⟩ := hkeyed.rulesOf hrow
    rw [hmember] at hzone
    rw [hrulesOf, installed_applyZone hzone, if_pos ⟨⟨row, hrowMem, hmember, hip⟩, howns.2⟩]
    rfl
  · have hbefore : fleet.Owns lanIp device addr :=
      ⟨howns.1, hown device addr row hpresent hrow hmember howns.2⟩
    have huntouched : ¬ ∃ member ∈ fleet.db.devices,
        member.zoneId = id ∧ member.lastIp = some addr := by
      rintro ⟨member, hmem, hid, hlast⟩
      have hfind : fleet.db.findDevice member.id = some member :=
        find_of_mem hguarded.keyed.devices hmem
      cases hget : fleet.present.get member.id with
      | none =>
        exact hstale member hmem hid hget (device, addr) (mem_toList.mpr hpresent) hlast
      | some found =>
        obtain ⟨stored, hstored, hfound⟩ := hguarded.stored member.id found hget
        cases hfind.symm.trans hstored
        cases hlast.symm.trans hfound
        have hsame := Fleet.alone_iff.mp howns.1 member.id hget
        rw [hsame, hrow] at hfind
        cases hfind
        exact hmember hid
    apply hguarded.frame hpresent hbefore
    · have hsame : (fleet.db.setZones zones).findDevice device = some row := hrow
      simp only [Database.rulesOf, hrow, hsame, Option.bind_some]
      exact hrules row.zoneId hmember
    · cases hzone : (fleet.db.setZones zones).findZone id with
      | none => simp only [applyZone, hzone]
      | some zone => rw [installed_applyZone hzone, if_neg fun htouched => huntouched htouched.1]

variable {change : NetworkZone → NetworkZone} {req : UpdateNetworkZoneRequest}

section

variable (hguarded : Guarded lanIp fleet)
include hguarded

theorem Guarded.updateZone {old : NetworkZone}
    (hold : old ∈ fleet.db.zones) (hchange : ∀ zone : NetworkZone, (change zone).UpToFlags
      (if zone.id = old.id then old.patch req else zone)) (huncontested : fleet.Uncontested lanIp
      (.operation (.updateZone old.id req)))
    (hkeyed : (fleet.db.setZones (fleet.db.zones.map change)).Keyed) : Guarded lanIp
      { fleet with
        db := fleet.db.setZones (fleet.db.zones.map change)
        gates := applyZone lanIp (fleet.db.setZones (fleet.db.zones.map change)) fleet.gates
          old.id } := by
  obtain ⟨hstale, hoff⟩ := huncontested
  apply hguarded.zoneChanged hkeyed
  · intro other hne
    refine (congrArg _ (find_map (id_of_rewritten hchange) other)).trans ?_
    rw [Option.map_map]
    apply Option.map_congr
    intro zone hzone
    have hsame := hchange zone
    rw [if_neg ((find_eq_some hzone).2.symm ▸ hne)] at hsame
    simp only [Function.comp_apply, zoneRules, NetworkZone.permitsKind,
      hsame.allowedTargets, hsame.adminUiReachable]
  · exact hstale
  · intro device addr row hpresent hrow hid hown
    by_cases hsubnet : req.subnet = none
    · apply isOwnAddress_mono _ hown
      intro zone hzone
      refine ⟨change zone, mem_map_of_mem hzone, ?_⟩
      rw [subnet_of_rewritten hchange]
      split
      next hsame =>
        rw [inj_on_of_nodup_map hguarded.keyed.zoneIds hzone hold hsame]
        simp [NetworkZone.patch, hsubnet]
      · rfl
    · have hentry := hoff hsubnet (device, addr)
        (mem_toList.mpr hpresent) (by simpa [hrow] using hid)
      rw [← hentry]
      apply isOwnAddress_mono _ hown
      intro zone hzone
      obtain ⟨hmem, hne⟩ := mem_filter.mp hzone
      refine ⟨change zone, mem_map_of_mem hmem, ?_⟩
      rw [subnet_of_rewritten hchange, if_neg (by simpa using hne)]

theorem Guarded.assignDevice {row : Device} {zoneId : Uuid}
    (hrow : fleet.db.findDevice device = some row)
    (huncontested : fleet.Uncontested lanIp (.operation (.assignDevice device zoneId)))
    {moved : Database} (hkeyed : moved.Keyed) (hmoved : moved = { fleet.db with
      devices := Table.update Device.id fleet.db.devices device
        fun device => { device with zoneId := zoneId } }) :
    Guarded lanIp
      { fleet with
        db := moved
        gates := handleZoneChange lanIp moved fleet.gates device } := by
  have hfind : ∀ other, moved.findDevice other =
      if other = device then some { row with zoneId := zoneId }
      else fleet.db.findDevice other := by
    intro other
    have hkey : ∀ row : Device, { row with zoneId := zoneId }.id = row.id := fun _ => rfl
    rw [hmoved, Database.findDevice, find_update hkey]
    split
    · exact congrArg (Option.map _) hrow
    · rfl
  have hnow := (hfind device).trans (if_pos rfl)
  have hstored : ∀ found, fleet.present.get device = some found → row.lastIp = some found := by
    intro found hfound
    obtain ⟨stored, hstored, hip⟩ := hguarded.stored device found hfound
    cases hrow.symm.trans hstored
    exact hip
  refine hguarded.move hkeyed (by rw [hmoved])
    (fun other hne => (hfind other).trans (if_neg hne)) (fun _ _ => rfl) ?_ ?_
  · intro found hfound
    have hip := hstored found hfound
    exact ⟨_, hnow, hip, fun zone hzone => installed_applyDevice hnow hzone hip⟩
  · intro other found hne hpresent haway
    refine ⟨haway, installed_applyDevice_of_ne ?_⟩
    intro stored hthere hlast
    cases hnow.symm.trans hthere
    cases hget : fleet.present.get device with
    | none =>
      exact huncontested hget row hrow (other, found) (mem_toList.mpr hpresent) hlast
    | some held => exact haway (hget.trans ((hstored held hget).symm.trans hlast))

theorem Guarded.operation {operation : Operation}
    (huncontested : fleet.Uncontested lanIp (.operation operation))
    (hnext : fleet.next lanIp (.operation operation) = some after) : Guarded lanIp after := by
  simp only [Fleet.next, Option.map_eq_some_iff, Prod.exists] at hnext
  obtain ⟨db, event, haccept, rfl⟩ := hnext
  have hkeyed := hguarded.keyed.accept haccept
  cases effect_of_accept haccept with
  | createZone id req hfresh =>
    have hnone : fleet.db.findZone (req.zone id).id = none := hfresh
    apply hguarded.zoneChanged hkeyed
    · intro other hne
      have hother : other ≠ (req.zone id).id := hne
      rw [findZone_append hnone, if_neg hother]
    · intro row hrow hid
      obtain ⟨zone, hzone⟩ := hguarded.keyed.zones row hrow
      rw [hid, hfresh] at hzone
      cases hzone
    · intro device addr row _ _ _
      apply isOwnAddress_mono
      intro zone hzone
      exact ⟨zone, mem_append_left _ hzone, rfl⟩
  | updateZone old req change hold _ _ hchange =>
    exact hguarded.updateZone (find_eq_some hold).1 hchange huncontested hkeyed
  | deleteZone id hmembers =>
    apply hguarded.zoneChanged hkeyed
    · intro other hne
      rw [find_delete, if_neg hne]
      rfl
    · intro row hrow hid
      exact absurd hid (hmembers row hrow)
    · intro device addr row hpresent hrow hid hown
      have hentry :=
        huncontested (device, addr) (mem_toList.mpr hpresent) (by simpa [hrow] using hid)
      exact hentry ▸ hown
  | unmoved => exact hguarded
  | assignDevice device zoneId row zone hrow =>
    exact hguarded.assignDevice hrow huncontested hkeyed rfl
  | exceptions =>
    exact ⟨hkeyed, hguarded.stored, hguarded.gated⟩

theorem Guarded.next {change : Change}
    (huncontested : fleet.Uncontested lanIp change) (hnext : fleet.next lanIp change = some after) :
    Guarded lanIp after := by
  cases change with
  | deviceDiscovered device addr => exact hguarded.deviceDiscovered hnext
  | deviceIpChanged device addr => exact hguarded.deviceIpChanged huncontested hnext
  | deviceGone device => exact hguarded.deviceGone huncontested hnext
  | operation operation => exact hguarded.operation huncontested hnext

end

/-- After every event, each present device that has its address for itself has
the gates of its zone, provided that devices leave addresses nobody else has,
that a device which is moved or whose zone is changed is not stored with the
address of another device that is present, and that no device outside a zone
sits at the gateway the zone loses. -/
theorem gates_follow_devices (lanIp : Ipv4Addr) (db : Database)
    (hkeyed : db.Keyed) (gates : List Gate) (changes : List Change) (final : Fleet)
    (hmeets : Meets (Fleet.next lanIp) (Fleet.Uncontested lanIp) (.start db gates) changes)
    (hrun : run (Fleet.next lanIp) (.start db gates) changes = some final) : final.Gated lanIp := by
  have hstart : Guarded lanIp (.start db gates) :=
    ⟨hkeyed, by simp [Fleet.start], by simp [Fleet.start]⟩
  have hguarded : Guarded lanIp final := by
    apply run_invariant_of_meets _ hstart hmeets hrun
    intro fleet change after hbefore huncontested hnext
    exact hbefore.next huncontested hnext
  rintro ⟨device, addr⟩ hentry
  exact hguarded.gated device addr (mem_toList.mp hentry)

/-- Two devices in the zone without the admin interface and one in the default
zone; the last two are absent, one of them with a stored address. -/
def knownDevices : Database :=
  .seeded [⟨1, 0x202, none, none⟩, ⟨2, 0x202, some (ipv4 192 168 1 20), none⟩,
    ⟨3, 0x201, none, none⟩] none

theorem knownDevices_keyed : knownDevices.Keyed := by
  refine ⟨by decide +kernel, by decide +kernel, ?_⟩
  have hzones : ∀ device ∈ knownDevices.devices,
      (knownDevices.findZone device.zoneId).isSome = true := by
    decide +kernel
  intro device hdevice
  exact Option.isSome_iff_exists.mp (hzones device hdevice)

def swapped : List Change :=
  [.deviceDiscovered 1 (ipv4 192 168 1 10), .deviceDiscovered 2 (ipv4 192 168 1 11),
    .deviceIpChanged 1 (ipv4 192 168 1 11), .deviceIpChanged 2 (ipv4 192 168 1 10)]

/-- A device takes an address before its former holder is found gone. -/
def reused : List Change :=
  [.deviceDiscovered 1 (ipv4 192 168 1 10), .deviceDiscovered 2 (ipv4 192 168 1 10), .deviceGone 1]

/-- A device has the address that an absent one is stored with, and the zone
of the absent one is saved. -/
def savedOver : List Change :=
  [.deviceDiscovered 3 (ipv4 192 168 1 20), .operation (.updateZone 0x202
      ⟨none, none, none, none, none, none, none, none⟩)]

/-- The gates of a device are torn down when another one leaves its address,
and replaced by those of an absent one. -/
theorem gates_lost_to_other_devices :
    (∃ final, run (Fleet.next (ipv4 192 168 1 1)) (.start knownDevices []) swapped = some final ∧
      final.present.get 1 = some (ipv4 192 168 1 11) ∧
      installed final.gates (ipv4 192 168 1 11) = [] ∧ ¬ final.Gated (ipv4 192 168 1 1)) ∧
    (∃ final, run (Fleet.next (ipv4 192 168 1 1)) (.start knownDevices [])
        reused = some final ∧ ¬ final.Gated (ipv4 192 168 1 1)) ∧
    ∃ final, run (Fleet.next (ipv4 192 168 1 1)) (.start knownDevices [])
        savedOver = some final ∧ ¬ final.Gated (ipv4 192 168 1 1) := by
  refine ⟨⟨_, rfl, ?_⟩, ⟨_, rfl, ?_⟩, ⟨_, rfl, ?_⟩⟩
  · decide +kernel
  · decide +kernel
  · decide +kernel

/-- A device moves to a free address, another one leaves, and a device is
assigned to another zone. -/
def orderly : List Change :=
  [.deviceDiscovered 1 (ipv4 192 168 1 10), .deviceDiscovered 2 (ipv4 192 168 1 11),
    .deviceIpChanged 1 (ipv4 192 168 1 12), .deviceGone 2, .operation (.assignDevice 1 0x203)]

theorem gates_follow_devices_orderly :
    ∃ final, run (Fleet.next (ipv4 192 168 1 1)) (.start knownDevices [])
        orderly = some final ∧ final.Gated (ipv4 192 168 1 1) := by
  refine ⟨_, rfl, ?_⟩
  exact gates_follow_devices (ipv4 192 168 1 1) knownDevices
    knownDevices_keyed [] orderly _ (by decide +kernel) rfl

end Wardnet.Zone
