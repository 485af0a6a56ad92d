import Wardnet.Zone.Isolation

/-!
# Zone gates

The enforcer installs the packet policy of a zone for the address of each
device in it: drops on a forbidden way out, and a reject on the ports of the
admin interface.  The gates of an address are torn down when a device leaves
it, whoever else is there by then, and set up for the stored address of a
device, whether it is present or not.
-/

namespace Wardnet.Zone

open List Net Table Transition

structure ZoneRules where
  allowDirect : Bool
  allowTunnel : Bool
  adminUiReachable : Bool
  deriving DecidableEq

def zoneRules (zone : NetworkZone) : ZoneRules where
  allowDirect := zone.permitsKind .direct
  allowTunnel := zone.permitsKind .tunnel
  adminUiReachable := zone.adminUiReachable

inductive GateKind
  | dropTunnel
  | dropDirect
  | rejectAdmin (port : ℕ)
  deriving DecidableEq

/-- A rule of the forward or input chain, keyed by the source address. -/
structure Gate where
  addr : Ipv4Addr
  kind : GateKind
  deriving DecidableEq

def adminUiPorts : List ℕ := [443, 7411]

def ZoneRules.gates (rules : ZoneRules) (addr : Ipv4Addr) : List Gate :=
  (if rules.allowTunnel then [] else [⟨addr, .dropTunnel⟩]) ++
    (if rules.allowDirect then [] else [⟨addr, .dropDirect⟩]) ++
    if rules.adminUiReachable then []
    else adminUiPorts.map fun port => ⟨addr, .rejectAdmin port⟩

def removeZoneRules (gates : List Gate) (addr : Ipv4Addr) : List Gate :=
  gates.filter fun gate => gate.addr ≠ addr

/-- `apply_zone_rules`: one transaction that replaces the rules of the
address. -/
def applyZoneRules (gates : List Gate) (addr : Ipv4Addr) (rules : ZoneRules) : List Gate :=
  removeZoneRules gates addr ++ rules.gates addr

def installed (gates : List Gate) (addr : Ipv4Addr) : List Gate :=
  gates.filter fun gate => gate.addr = addr

/-! ## The enforcer -/

/-- `is_own_address`: the daemon's own address, or the gateway of a zone. -/
def isOwnAddress (lanIp : Ipv4Addr) (zones : List NetworkZone) (addr : Ipv4Addr) : Bool :=
  (lanIp != 0 && addr == lanIp) ||
    (zones.filterMap NetworkZone.subnet).any fun net => gatewayFor net == addr

def applyOne (lanIp : Ipv4Addr) (db : Database) (gates : List Gate)
    (addr : Ipv4Addr) (zone : NetworkZone) : List Gate :=
  if isOwnAddress lanIp db.zones addr then gates
  else applyZoneRules gates addr (zoneRules zone)

/-- `load_device_and_zone`: the stored address of the device and its zone,
when the enforcer may act on them. -/
def loadDeviceAndZone (lanIp : Ipv4Addr) (db : Database) (device : Uuid) :
    Option (Ipv4Addr × NetworkZone) :=
  (db.findDevice device).bind fun row =>
    (db.findZone row.zoneId).bind fun zone =>
      row.lastIp.bind fun addr =>
        if isOwnAddress lanIp db.zones addr then none else some (addr, zone)

def applyDevice (lanIp : Ipv4Addr) (db : Database) (gates : List Gate)
    (device : Uuid) : List Gate :=
  match loadDeviceAndZone lanIp db device with
  | some (addr, zone) => applyOne lanIp db gates addr zone
  | none => gates

/-- `handle_zone_change`, as far as the gates go. -/
def handleZoneChange (lanIp : Ipv4Addr) (db : Database) (gates : List Gate)
    (device : Uuid) : List Gate :=
  applyDevice lanIp db gates device

def removeDevice (lanIp : Ipv4Addr) (db : Database) (gates : List Gate)
    (lastIp : Ipv4Addr) : List Gate :=
  if isOwnAddress lanIp db.zones lastIp then gates
  else removeZoneRules gates lastIp

/-- `handle_ip_change`: the new address is that of the event. -/
def handleIpChange (lanIp : Ipv4Addr) (db : Database) (gates : List Gate)
    (device : Uuid) (oldIp newIp : Ipv4Addr) : List Gate :=
  let gates := removeDevice lanIp db gates oldIp
  match loadDeviceAndZone lanIp db device with
  | some (_, zone) => applyOne lanIp db gates newIp zone
  | none => gates

/-- `apply_one` for a row of the zone; the rules of an empty address cannot be
applied, which is logged. -/
def applyMember (lanIp : Ipv4Addr) (db : Database) (zone : NetworkZone)
    (gates : List Gate) (row : Device) : List Gate :=
  match row.lastIp with
  | some addr => applyOne lanIp db gates addr zone
  | none => gates

/-- `apply_zone`: every row of the zone.  A deleted zone is skipped. -/
def applyZone (lanIp : Ipv4Addr) (db : Database) (gates : List Gate) (zoneId : Uuid) : List Gate :=
  match db.findZone zoneId with
  | some zone =>
    (db.devices.filter fun row => row.zoneId = zoneId).foldl (applyMember lanIp db zone) gates
  | none => gates

def handleZoneEvent (lanIp : Ipv4Addr) (db : Database) (gates : List Gate) : ZoneEvent → List Gate
  | .networkZoneChanged zoneId => applyZone lanIp db gates zoneId
  | .deviceZoneChanged device _ _ => handleZoneChange lanIp db gates device
  | .zoneExceptionsChanged => gates

/-! ## Devices that come, move and leave -/

/-- The tables, where discovery tracks each present device, and the installed
gates. -/
structure Fleet where
  db : Database
  present : HashMap Uuid Ipv4Addr
  gates : List Gate
  deriving DecidableEq

/-- An event that concerns the gates, with the change of the tables that comes
before it. -/
inductive Change
  | deviceDiscovered (device : Uuid) (addr : Ipv4Addr)
  | deviceIpChanged (device : Uuid) (addr : Ipv4Addr)
  | deviceGone (device : Uuid)
  | operation (operation : Operation)
  deriving DecidableEq

/-- The `devices` table with the address of one device rewritten. -/
def Database.setLastIp (db : Database) (device : Uuid) (lastIp : Option Ipv4Addr) : Database :=
  { db with
    devices := Table.update Device.id db.devices device fun row => { row with lastIp := lastIp } }

def Database.defaultForNew (db : Database) : Option NetworkZone :=
  db.zones.find? NetworkZone.isDefaultForNew

/-- Discovery stores the address of a device that (re)appears; a new device
lands in the zone for new ones. -/
def Database.register (db : Database) (device : Uuid) (addr : Ipv4Addr) : Option Database :=
  match db.findDevice device with
  | some _ => some (db.setLastIp device (some addr))
  | none =>
    db.defaultForNew.map fun zone =>
      { db with
        devices := db.devices ++ [⟨device, zone.id, some addr, none⟩] }

/-- The tables change, the event is published, and the enforcer handles it. -/
def Fleet.next (lanIp : Ipv4Addr) (fleet : Fleet) : Change → Option Fleet
  | .deviceDiscovered device addr =>
    if (fleet.present.get device).isSome then none
    else (fleet.db.register device addr).map fun db =>
      { db := db
        present := fleet.present.insert device addr
        gates := applyDevice lanIp db fleet.gates device }
  | .deviceIpChanged device addr =>
    (fleet.present.get device).bind fun oldIp =>
      if oldIp = addr then none
      else
        let db := fleet.db.setLastIp device (some addr)
        some
          { db := db
            present := fleet.present.insert device addr
            gates := handleIpChange lanIp db fleet.gates device oldIp addr }
  | .deviceGone device =>
    (fleet.present.get device).map fun lastIp =>
      let db := fleet.db.setLastIp device none
      { db := db
        present := fleet.present.remove device
        gates := removeDevice lanIp db fleet.gates lastIp }
  | .operation operation =>
    (accept fleet.db operation).map fun result =>
      { fleet with
        db := result.1
        gates :=
          match result.2 with
          | some event => handleZoneEvent lanIp result.1 fleet.gates event
          | none => fleet.gates }

/-- No device is present yet; the rows may still hold the addresses of an
earlier run. -/
def Fleet.start (db : Database) (gates : List Gate) : Fleet := ⟨db, .empty, gates⟩

def Fleet.Alone (fleet : Fleet) (device : Uuid) (addr : Ipv4Addr) : Prop :=
  ∀ entry ∈ fleet.present.toList, entry.2 = addr → entry.1 = device
  deriving Decidable

def Database.rulesOf (db : Database) (device : Uuid) : Option ZoneRules :=
  (db.findDevice device).bind fun row => (db.findZone row.zoneId).map zoneRules

/-- The address belongs to the device alone, and is not the daemon's. -/
def Fleet.Owns (lanIp : Ipv4Addr) (fleet : Fleet) (device : Uuid) (addr : Ipv4Addr) : Prop :=
  fleet.Alone device addr ∧ isOwnAddress lanIp fleet.db.zones addr = false
  deriving Decidable

/-- The gates of every present device that holds its address are those of its
zone. -/
def Fleet.Gated (lanIp : Ipv4Addr) (fleet : Fleet) : Prop :=
  ∀ entry ∈ fleet.present.toList, fleet.Owns lanIp entry.1 entry.2 →
    (fleet.db.rulesOf entry.1).map (fun rules => rules.gates entry.2) =
      some (installed fleet.gates entry.2)
  deriving Decidable

/-- Whether the address of each present device outside the zone is one of the
daemon's own does not depend on the zone. -/
def Fleet.OffGateway (lanIp : Ipv4Addr) (fleet : Fleet) (zoneId : Uuid) : Prop :=
  ∀ entry ∈ fleet.present.toList,
    (fleet.db.findDevice entry.1).all (fun row => row.zoneId ≠ zoneId) →
    isOwnAddress lanIp (Table.delete NetworkZone.id fleet.db.zones zoneId)
        entry.2 = isOwnAddress lanIp fleet.db.zones entry.2
  deriving Decidable

/-- No present device has an address that an absent device of the zone is
still stored with. -/
def Fleet.NoStaleMember (fleet : Fleet) (zoneId : Uuid) : Prop :=
  ∀ row ∈ fleet.db.devices, row.zoneId = zoneId → fleet.present.get row.id = none →
    ∀ entry ∈ fleet.present.toList, row.lastIp ≠ some entry.2
  deriving Decidable

/-- A device leaves an address that no other present device has; an absent
device that is moved, or a member of a zone that is changed, is not stored with
the address of a present one; and no present device outside a zone sits at the
gateway that the zone loses. -/
def Fleet.Uncontested (lanIp : Ipv4Addr) (fleet : Fleet) : Change → Prop
  | .deviceDiscovered .. => True
  | .deviceIpChanged device _ | .deviceGone device =>
    ∀ entry ∈ fleet.present.toList, fleet.present.get device = some entry.2 → entry.1 = device
  | .operation (.assignDevice device _) =>
    fleet.present.get device = none → ∀ row ∈ fleet.db.findDevice device,
      ∀ entry ∈ fleet.present.toList, row.lastIp ≠ some entry.2
  | .operation (.updateZone id req) => fleet.NoStaleMember id ∧
      (req.subnet ≠ none → fleet.OffGateway lanIp id)
  | .operation (.deleteZone id) => fleet.OffGateway lanIp id
  | .operation _ => True

instance (lanIp : Ipv4Addr) (fleet : Fleet) (change) :
    Decidable (fleet.Uncontested lanIp change) := by
  delta Fleet.Uncontested
  split <;> infer_instance

/-! ## What the enforcer touches -/

variable {lanIp addr other : Ipv4Addr} {db : Database} {gates : List Gate}
  {device : Uuid} {zone : NetworkZone}

theorem installed_removeZoneRules : installed (removeZoneRules gates addr) other =
      if other = addr then [] else installed gates other := by
  simp only [installed, removeZoneRules, filter_filter]
  split
  next heq =>
    simp [heq]
  next hne =>
    apply filter_congr
    intro gate _
    by_cases hgate : gate.addr = other
    · simp [hgate, hne]
    · simp [hgate]

theorem addr_of_mem_gates {rules : ZoneRules} {gate : Gate}
    (hgate : gate ∈ rules.gates addr) : gate.addr = addr := by
  simp only [ZoneRules.gates, mem_append] at hgate
  rcases hgate with (htunnel | hdirect) | hadmin
  · split at htunnel
    · cases htunnel
    · rw [mem_singleton.mp htunnel]
  · split at hdirect
    · cases hdirect
    · rw [mem_singleton.mp hdirect]
  · split at hadmin
    · cases hadmin
    · obtain ⟨port, -, rfl⟩ := mem_map.mp hadmin
      rfl

theorem installed_applyZoneRules {rules : ZoneRules} :
    installed (applyZoneRules gates addr rules) other =
      if other = addr then rules.gates addr else installed gates other := by
  have happend : installed (applyZoneRules gates addr rules) other =
      installed (removeZoneRules gates addr) other ++
        installed (rules.gates addr) other := filter_append _ _
  rw [happend, installed_removeZoneRules]
  split
  next heq =>
    rw [nil_append, heq]
    apply filter_eq_self.mpr
    intro gate hgate
    simp [addr_of_mem_gates hgate]
  next hne =>
    have hnone : installed (rules.gates addr) other = [] := by
      apply filter_eq_nil_iff.mpr
      intro gate hgate
      rw [addr_of_mem_gates hgate]
      simpa using fun heq => hne heq.symm
    rw [hnone, append_nil]

theorem installed_applyOne : installed (applyOne lanIp db gates addr zone) other =
      if other = addr ∧ isOwnAddress lanIp db.zones addr = false then (zoneRules zone).gates addr
      else installed gates other := by
  unfold applyOne
  cases hown : isOwnAddress lanIp db.zones addr with
  | true => simp
  | false =>
    rw [if_neg Bool.false_ne_true, installed_applyZoneRules]
    simp

theorem installed_removeDevice_of_ne (hne : other ≠ addr) :
    installed (removeDevice lanIp db gates addr) other = installed gates other := by
  unfold removeDevice
  split
  · rfl
  · rw [installed_removeZoneRules, if_neg hne]

theorem loadDeviceAndZone_eq_some : loadDeviceAndZone lanIp db device = some (addr, zone) ↔
      ∃ row, db.findDevice device = some row ∧
        db.findZone row.zoneId = some zone ∧ row.lastIp = some addr ∧
        isOwnAddress lanIp db.zones addr = false := by
  simp only [loadDeviceAndZone, Option.bind_eq_some_iff]
  constructor
  · rintro ⟨row, hrow, found, hzone, ip, hip, hload⟩
    split at hload
    · cases hload
    next hown =>
      cases hload
      exact ⟨row, hrow, hzone, hip, by simpa using hown⟩
  · rintro ⟨row, hrow, hzone, hip, hown⟩
    exact ⟨row, hrow, zone, hzone, addr, hip, by simp [hown]⟩

/-- `apply_device` touches the stored address of the device only. -/
theorem installed_applyDevice_of_ne (hne : ∀ row ∈ db.findDevice device, row.lastIp ≠ some other) :
    installed (applyDevice lanIp db gates device) other = installed gates other := by
  unfold applyDevice
  cases hload : loadDeviceAndZone lanIp db device with
  | none => rfl
  | some loaded =>
    obtain ⟨addr, zone⟩ := loaded
    obtain ⟨row, hrow, -, hip, -⟩ := loadDeviceAndZone_eq_some.mp hload
    have haddr : other ≠ addr := by
      rintro rfl
      exact hne row hrow hip
    rw [installed_applyOne, if_neg fun htouched => haddr htouched.1]

theorem installed_applyDevice {row : Device} (hrow : db.findDevice device = some row)
    (hzone : db.findZone row.zoneId = some zone) (hip : row.lastIp = some addr)
    (hown : isOwnAddress lanIp db.zones addr = false) :
    installed (applyDevice lanIp db gates device) addr = (zoneRules zone).gates addr := by
  have hload : loadDeviceAndZone lanIp db device = some (addr, zone) :=
    loadDeviceAndZone_eq_some.mpr ⟨row, hrow, hzone, hip, hown⟩
  simp only [applyDevice, hload]
  rw [installed_applyOne, if_pos ⟨rfl, hown⟩]

/-- `apply_zone` touches the stored addresses of the members. -/
theorem installed_foldl_applyMember {rows : List Device} :
    installed (rows.foldl (applyMember lanIp db zone) gates) other =
      if (∃ row ∈ rows, row.lastIp = some other) ∧ isOwnAddress lanIp db.zones other = false then
        (zoneRules zone).gates other
      else installed gates other := by
  induction rows generalizing gates with
  | nil => simp
  | cons row rows ih =>
    have hmember : installed (applyMember lanIp db zone gates row) other =
        if row.lastIp = some other ∧ isOwnAddress lanIp db.zones other = false then
          (zoneRules zone).gates other
        else installed gates other := by
      unfold applyMember
      cases hip : row.lastIp with
      | none => simp
      | some addr =>
        rw [installed_applyOne]
        by_cases heq : other = addr
        · subst heq
          simp
        · have hne : ¬ addr = other := fun h => heq h.symm
          simp [heq, hne]
    rw [foldl_cons, ih, hmember]
    by_cases hown : isOwnAddress lanIp db.zones other = false
    · by_cases hrow : row.lastIp = some other <;>
        by_cases hrest : ∃ row ∈ rows, row.lastIp = some other <;>
        simp [hown, hrow, hrest]
    · simp [hown]

/-! ## Addresses -/

theorem Database.Keyed.rulesOf (hkeyed : db.Keyed) {row : Device}
    (hrow : db.findDevice device = some row) :
    ∃ zone, db.findZone row.zoneId = some zone ∧ db.rulesOf device = some (zoneRules zone) := by
  obtain ⟨zone, hzone⟩ := hkeyed.zones row (find_eq_some hrow).1
  exact ⟨zone, hzone, by simp [Database.rulesOf, hrow, hzone]⟩

variable {lastIp : Option Ipv4Addr}

theorem findDevice_setLastIp (other : Uuid) : (db.setLastIp device lastIp).findDevice other =
      if other = device then (db.findDevice device).map fun row => { row with lastIp := lastIp }
      else db.findDevice other := by
  have hkey : ∀ row : Device, { row with lastIp := lastIp }.id = row.id := fun _ => rfl
  exact find_update hkey other

theorem Database.Keyed.setLastIp (hkeyed : db.Keyed) : (db.setLastIp device lastIp).Keyed where
  zoneIds := hkeyed.zoneIds
  devices := nodup_update (fun _ => rfl) hkeyed.devices
  zones := by
    intro row hrow
    rcases mem_update.mp hrow with ⟨hold, -⟩ | ⟨old, hold, -, rfl⟩
    · exact hkeyed.zones row hold
    · exact hkeyed.zones old hold

theorem register_eq_some {registered : Database} (hkeyed : db.Keyed)
    (hregister : db.register device addr = some registered) :
    registered.Keyed ∧ registered.zones = db.zones ∧
      (∃ row, registered.findDevice device = some row ∧ row.lastIp = some addr) ∧
      ∀ other, other ≠ device → registered.findDevice other = db.findDevice other := by
  unfold Database.register at hregister
  cases hfind : db.findDevice device with
  | some row =>
    rw [hfind] at hregister
    cases hregister
    refine ⟨hkeyed.setLastIp, rfl, ?_, ?_⟩
    · rw [findDevice_setLastIp, if_pos rfl, hfind]
      exact ⟨_, rfl, rfl⟩
    · intro other hne
      rw [findDevice_setLastIp, if_neg hne]
  | none =>
    rw [hfind] at hregister
    obtain ⟨zone, hzone, rfl⟩ := Option.map_eq_some_iff.mp hregister
    let row : Device := ⟨device, zone.id, some addr, none⟩
    have hfresh : ∀ old ∈ db.devices, old.id ≠ row.id := find_eq_none.mp hfind
    have hfound : ∀ other, find Device.id (db.devices ++ [row])
        other = if other = device then some row
          else db.findDevice other := find_append hfresh
    refine ⟨⟨hkeyed.zoneIds, nodup_append hkeyed.devices hfresh, ?_⟩, rfl, ?_, ?_⟩
    · intro old hold
      rcases mem_append.mp hold with hold | hnew
      · exact hkeyed.zones old hold
      · have hmem : zone ∈ db.zones := mem_of_find?_eq_some hzone
        rw [mem_singleton.mp hnew]
        cases hzones : db.findZone zone.id with
        | none => exact absurd rfl (find_eq_none.mp hzones zone hmem)
        | some found => exact ⟨found, hzones⟩
    · exact ⟨row, (hfound device).trans (if_pos rfl), rfl⟩
    · intro other hne
      exact (hfound other).trans (if_neg hne)

end Wardnet.Zone
