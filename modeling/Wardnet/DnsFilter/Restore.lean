import Wardnet.DnsFilter.Patch

/-!
# Each rebuild restores a part

A coherent state may lag behind the tables in some profiles, some devices or
the default context.  The rebuild of a profile, of a device and of the default
context each take one part off that list; a full rebuild starts with
everything on it and ends with nothing.
-/

namespace Wardnet.Filter

open HashMap Heap List Option
open Net (IpAddr)

/-! ## Devices and their addresses -/

section Addresses

variable {parsers : Parsers} {tables : Tables}

variable {settings : DeviceDnsFilterSettings}

theorem deviceId_of_findDeviceSettings {device : Uuid}
    (hsettings : tables.findDeviceSettings device = some settings) :
    settings.deviceId = device := by
  unfold Tables.findDeviceSettings at hsettings
  simp only [ite_none_left_eq_some] at hsettings
  obtain ⟨-, hsome⟩ := hsettings
  exact some.inj hsome ▸ rfl

/-- No two devices with settings have the same address. -/
def AddressesApart (parsers : Parsers) (tables : Tables) : Prop :=
  ∀ left ∈ tables.devices, ∀ right ∈ tables.devices, (tables.findDeviceSettings left.id).isSome →
    (tables.findDeviceSettings right.id).isSome →
    (parsers.parseIp left.lastIp).isSome →
    parsers.parseIp left.lastIp = parsers.parseIp right.lastIp →
    left = right
  deriving Decidable

theorem occupant_eq_some {ip : IpAddr} (hoccupant : tables.occupant parsers ip = some settings) :
    ∃ device ∈ tables.devices, parsers.parseIp device.lastIp = some ip ∧
      tables.findDeviceSettings device.id = some settings := by
  obtain ⟨device, hmem, hfound⟩ := exists_of_findSome?_eq_some hoccupant
  simp only [ite_none_right_eq_some] at hfound
  exact ⟨device, hmem, hfound⟩

theorem occupant_of_mem (hapart : AddressesApart parsers tables)
    {device : Device} (hmem : device ∈ tables.devices) {ip : IpAddr}
    (hip : parsers.parseIp device.lastIp = some ip)
    (hsettings : tables.findDeviceSettings device.id = some settings) :
    tables.occupant parsers ip = some settings := by
  cases hoccupant : tables.occupant parsers ip with
  | none =>
    have hnone := findSome?_eq_none_iff.mp hoccupant device hmem
    simp [hip, hsettings] at hnone
  | some found =>
    obtain ⟨other, hother, hotherIp, hfound⟩ := occupant_eq_some hoccupant
    have hsame : device = other := hapart device hmem other hother
      (by simp [hsettings]) (by simp [hfound]) (by simp [hip])
      (hip.trans hotherIp.symm)
    rw [← hsame, hsettings] at hfound
    exact hfound.symm

end Addresses

/-! ## Each rebuild makes one part coherent -/

section Rebuilds

variable {parsers : Parsers} {tables : Tables} {stale : Stale} {state : State}

variable {settings : DeviceDnsFilterSettings}

/-- Less may be asked of a coherent state. -/
theorem Coherent.weaken (hcoherent : Coherent parsers tables stale state)
    {other : Stale} (hprofile : ∀ id, stale.profile id → other.profile id)
    (hdevice : ∀ id, stale.device id → other.device id) (hdefault : stale.default → other.default) :
    Coherent parsers tables other state :=
  { hcoherent with
    profiles := fun id hfresh => hcoherent.profiles id fun hstale => hfresh (hprofile id hstale)
    devices := fun device hfresh =>
      hcoherent.devices device fun hstale => hfresh (hdevice device hstale)
    addresses := fun ip hfresh =>
      hcoherent.addresses ip fun settings hsettings hstale =>
        hfresh settings hsettings (hdevice _ hstale)
    default := fun hfresh => hcoherent.default fun hstale => hfresh (hdefault hstale) }

section

variable (hcoherent : Coherent parsers tables stale state)
include hcoherent

/-- The rebuild of a profile that no fresh context refers to. -/
theorem Coherent.rebuildProfileFilters (hwell : tables.WellFormed) {profileId : Uuid}
    (hdevices : ∀ device settings, ¬ stale.device device →
      tables.findDeviceSettings device = some settings → profileId ∉ settings.profileIds)
    (hdefault : ¬ stale.default → profileId ∉ state.config.defaultProfileIds) :
    Coherent parsers tables
      { stale with
        profile := fun id => stale.profile id ∧ id ≠ profileId }
      { state with
        toCells := Filter.rebuildProfileFilters parsers tables state.toCells profileId } := by
  have hlinked := hcoherent.linked
  have hpatch : Patch tables profileId state.toCells
      (Filter.rebuildProfileFilters parsers tables state.toCells profileId) :=
    patch_rebuildProfileFilters hwell hlinked
  have hcontext : ∀ device settings, ¬ stale.device device →
      tables.findDeviceSettings device = some settings →
      materialiseContext (Filter.rebuildProfileFilters parsers tables
        state.toCells profileId).profiles settings =
      materialiseContext state.profiles settings := by
    intro device settings hfresh hsettings
    unfold materialiseContext
    rw [filterMap_congr fun id hid => hpatch.profiles id ?_]
    rintro rfl
    exact hdevices device settings hfresh hsettings hid
  refine
    { linked := hpatch.linked hlinked
      profiles := ?_
      devices := ?_
      addresses := ?_
      default := ?_
      enabled := hcoherent.enabled
      defaultIds := hcoherent.defaultIds }
  · intro id hfresh
    by_cases hid : id = profileId
    · exact hid ▸ servesProfile_rebuildProfileFilters hwell hlinked
    · have hserved := hcoherent.profiles id fun hstale => hfresh ⟨hstale, hid⟩
      cases hcontent : tables.content parsers id with
      | none =>
        rw [hcontent] at hserved
        exact (hpatch.profiles id hid).trans hserved
      | some content =>
        rw [hcontent] at hserved
        refine hpatch.serves hlinked id content hid ?_ hserved
        intro entry hentry blocklist hblocklist hsame
        simp only [Tables.content, ite_none_right_eq_some] at hcontent
        cases hcontent.2
        obtain ⟨own, hown, rfl⟩ := mem_map.mp hentry
        obtain ⟨hownMem, hownProfile⟩ := mem_filter.mp (mem_of_mem_filter hown)
        obtain ⟨hmem, hprofile⟩ := mem_filter.mp hblocklist
        obtain rfl := inj_on_of_nodup_map hwell.blocklistIds hownMem hmem hsame
        simp only [decide_eq_true_eq] at hownProfile hprofile
        exact hid (hownProfile.symm.trans hprofile)
  · intro device hfresh
    refine (hcoherent.devices device hfresh).trans ?_
    cases hsettings : tables.findDeviceSettings device with
    | none => rfl
    | some settings => exact congrArg some (hcontext device settings hfresh hsettings).symm
  · intro ip hfresh
    refine (hcoherent.addresses ip hfresh).trans ?_
    cases hoccupant : tables.occupant parsers ip with
    | none => rfl
    | some settings =>
      obtain ⟨device, -, -, hsettings⟩ := occupant_eq_some hoccupant
      rw [← deviceId_of_findDeviceSettings hsettings] at hsettings
      exact congrArg some (hcontext settings.deviceId settings
        (hfresh settings hoccupant) hsettings).symm
  · intro hfresh
    refine (hcoherent.default hfresh).trans ?_
    refine congrArg (DeviceFilterContext.mk true · none) ?_
    refine filterMap_congr fun id hid => (hpatch.profiles id ?_).symm
    rintro rfl
    exact hdefault hfresh hid

/-- Setting the context of a device with settings. -/
theorem Coherent.insertContext (hwell : tables.WellFormed) (hapart : AddressesApart parsers tables)
    {device : Device} (hmem : device ∈ tables.devices)
    (hsettings : tables.findDeviceSettings device.id = some settings) : Coherent parsers tables
      { stale with
        device := fun id => stale.device id ∧ id ≠ device.id }
      (state.insertContext (parsers.parseIp device.lastIp) device.id
        (materialiseContext state.profiles settings)) := by
  refine { hcoherent with devices := ?_, addresses := ?_ }
  · intro other hfresh
    simp only [State.insertContext, get_insert]
    by_cases hother : other = device.id
    · rw [if_pos hother, hother, hsettings]
      rfl
    · rw [if_neg hother]
      exact hcoherent.devices other fun hstale => hfresh ⟨hstale, hother⟩
  · intro ip hfresh
    by_cases hip : parsers.parseIp device.lastIp = some ip
    · simp only [State.insertContext, hip, get_insert, if_true]
      rw [occupant_of_mem hapart hmem hip hsettings]
      rfl
    · have hsame : (state.insertContext (parsers.parseIp device.lastIp)
          device.id (materialiseContext state.profiles
            settings)).contexts.get ip = state.contexts.get ip := by
        simp only [State.insertContext]
        split
        next own hown =>
          apply get_insert_of_ne
          rintro rfl
          exact hip hown
        · rfl
      refine hsame.trans (hcoherent.addresses ip ?_)
      intro found hfound hstale
      refine hfresh found hfound ⟨hstale, fun hid => ?_⟩
      obtain ⟨other, hother, hotherIp, hotherSettings⟩ := occupant_eq_some hfound
      rw [deviceId_of_findDeviceSettings hotherSettings] at hid
      exact hip (hwell.device_ext hother hmem hid ▸ hotherIp)

theorem Coherent.rebuildDeviceInner (hwell : tables.WellFormed)
    (hapart : AddressesApart parsers tables) {device : Device} (hmem : device ∈ tables.devices)
    (hsettings : (tables.findDeviceSettings device.id).isSome) : Coherent parsers tables
      { stale with
        device := fun id => stale.device id ∧ id ≠ device.id }
      (Filter.rebuildDeviceInner parsers tables state device.id) := by
  obtain ⟨settings, hsome⟩ := isSome_iff_exists.mp hsettings
  have hinsert := hcoherent.insertContext hwell hapart hmem hsome
  unfold Filter.rebuildDeviceInner deviceContext
  rw [hwell.findDevice_of_mem hmem, hsome]
  exact hinsert

end

theorem Coherent.rebuildDefaultContextInner (hcoherent : Coherent parsers tables stale state) :
    Coherent parsers tables { stale with default := False }
      (Filter.rebuildDefaultContextInner state) := by
  refine { hcoherent with default := fun _ => ?_ }
  simp only [Filter.rebuildDefaultContextInner]
  split
  next hempty => simp [hempty, DeviceFilterContext.unfiltered]
  · split
    next hnone =>
      rw [hnone]
      rfl
    · rfl

theorem mem_listDeviceSettingsWithIps {entry : DeviceDnsFilterSettings × Text} :
    entry ∈ tables.listDeviceSettingsWithIps ↔ ∃ device ∈ tables.devices,
        tables.findDeviceSettings device.id = some entry.1 ∧ device.lastIp = entry.2 := by
  simp only [Tables.listDeviceSettingsWithIps, mem_filterMap, map_eq_some_iff]
  constructor
  · rintro ⟨device, hmem, settings, hsettings, rfl⟩
    exact ⟨device, hmem, hsettings, rfl⟩
  · rintro ⟨device, hmem, hsettings, hip⟩
    exact ⟨device, hmem, entry.1, hsettings, Prod.ext rfl hip⟩

/-- Settings belong to a device that exists. -/
theorem exists_device_of_assigned (hwell : tables.WellFormed)
    {deviceId : Uuid} (hassigned : (tables.findDeviceSettings deviceId).isSome) :
    ∃ device ∈ tables.devices, device.id = deviceId := by
  obtain ⟨settings, hsettings⟩ := isSome_iff_exists.mp hassigned
  have hfound : (tables.findDevice deviceId).isSome := by
    unfold Tables.findDeviceSettings at hsettings
    simp only [ite_none_left_eq_some, not_and] at hsettings
    cases henabled : tables.deviceSettings.get deviceId with
    | some enabled => exact hwell.settingsDevices deviceId enabled henabled
    | none =>
      have hprofiles := hsettings.1 (by simp [henabled])
      obtain ⟨profileId, hprofileId⟩ := exists_mem_of_ne_nil _ hprofiles
      obtain ⟨row, hrow, -⟩ := mem_map.mp hprofileId
      obtain ⟨hmem, hdevice⟩ := mem_filter.mp hrow
      have hrowDevice := hwell.profileDevices row hmem
      rwa [of_decide_eq_true hdevice] at hrowDevice
  obtain ⟨device, hdevice⟩ := isSome_iff_exists.mp hfound
  exact ⟨device, Table.find_eq_some hdevice⟩

/-- A device with settings is listed. -/
theorem exists_listed (hwell : tables.WellFormed) {device : Uuid}
    (hsettings : tables.findDeviceSettings device = some settings) :
    ∃ entry ∈ tables.listDeviceSettingsWithIps, entry.1 = settings := by
  obtain ⟨row, hmem, rfl⟩ := exists_device_of_assigned hwell
    (isSome_iff_exists.mpr ⟨settings, hsettings⟩)
  exact ⟨(settings, row.lastIp), mem_listDeviceSettingsWithIps.mpr ⟨row, hmem, hsettings, rfl⟩, rfl⟩

end Rebuilds

/-! ## Full rebuild -/

section FullRebuild

variable {parsers : Parsers} {tables : Tables} {state : State}

/-- Everything the tables mention is behind. -/
def Stale.all (tables : Tables) : Stale where
  profile := fun id => tables.hasProfile id
  device := fun id => (tables.findDeviceSettings id).isSome
  default := True

theorem coherent_clear (parsers : Parsers) (tables : Tables) (state : State) :
    Coherent parsers tables (.all tables) (refreshConfig tables state).clear where
  linked :=
    { blocklists := indexes_empty _
      aux := indexes_empty _
      profiles := indexes_empty _
      apart := fun key other cell hkey => by simp [State.clear] at hkey }
  profiles := by
    intro id hmissing
    have hnone : ¬ tables.hasProfile id = true := hmissing
    rw [Tables.content, if_neg hnone]
    exact get_empty id
  devices := by
    intro device hnone
    rw [not_isSome_iff_eq_none.mp hnone]
    exact get_empty device
  addresses := by
    intro ip hfresh
    cases hoccupant : tables.occupant parsers ip with
    | none => exact get_empty ip
    | some settings =>
      obtain ⟨device, -, -, hsettings⟩ := occupant_eq_some hoccupant
      refine absurd ?_ (hfresh settings hoccupant)
      rw [← deviceId_of_findDeviceSettings hsettings] at hsettings
      exact isSome_iff_exists.mpr ⟨settings, hsettings⟩
  default := fun hfresh => absurd trivial hfresh
  enabled := rfl
  defaultIds := rfl

/-- Rebuilding profiles while no context refers to any. -/
theorem Coherent.rebuildProfiles {stale : Stale} (hcoherent : Coherent parsers tables stale state)
    (hwell : tables.WellFormed) (hdefault : stale.default)
    (hdevice : ∀ id, (tables.findDeviceSettings id).isSome →
      stale.device id) (profiles : List DnsFilterProfile) : Coherent parsers tables
      { stale with
        profile := fun id => stale.profile id ∧ ∀ profile ∈ profiles, id ≠ profile.id }
      (Filter.rebuildProfiles parsers tables state profiles) := by
  induction profiles generalizing stale state with
  | nil =>
    exact hcoherent.weaken (fun id hstale => ⟨hstale, by simp⟩) (fun _ => id) (id)
  | cons profile profiles ih =>
    have hunused : ∀ device settings, ¬ stale.device device →
        tables.findDeviceSettings device = some settings →
        profile.id ∉ settings.profileIds :=
      fun device settings hfresh hsettings => absurd (hdevice device (by simp [hsettings])) hfresh
    have hhead := hcoherent.rebuildProfileFilters hwell hunused
      (fun hfresh => absurd hdefault hfresh)
    refine (ih hhead hdefault hdevice).weaken ?_ (fun _ => id) (id)
    rintro id ⟨⟨hstale, hne⟩, hrest⟩
    exact ⟨hstale, forall_mem_cons.mpr ⟨hne, hrest⟩⟩

theorem Coherent.insertContexts {stale : Stale} (hcoherent : Coherent parsers tables stale state)
    (hwell : tables.WellFormed) (hapart : AddressesApart parsers tables)
    {entries : List (DeviceDnsFilterSettings × Text)}
    (hlisted : ∀ entry ∈ entries, entry ∈ tables.listDeviceSettingsWithIps) :
    Coherent parsers tables
      { stale with
        device := fun id => stale.device id ∧ ∀ entry ∈ entries, id ≠ entry.1.deviceId }
      (Filter.insertContexts parsers state entries) := by
  induction entries generalizing stale state with
  | nil =>
    exact hcoherent.weaken (fun _ => id) (fun id hstale => ⟨hstale, by simp⟩) (id)
  | cons entry entries ih =>
    obtain ⟨device, hmem, hsettings, hip⟩ :=
      mem_listDeviceSettingsWithIps.mp (hlisted entry (mem_cons_self ..))
    have hid := deviceId_of_findDeviceSettings hsettings
    have hhead := hcoherent.insertContext hwell hapart hmem hsettings
    rw [hip, ← hid] at hhead
    refine (ih hhead fun other hother =>
      hlisted other (mem_cons_of_mem _ hother)).weaken
      (fun _ => id) ?_ (id)
    rintro id ⟨⟨hstale, hne⟩, hrest⟩
    exact ⟨hstale, forall_mem_cons.mpr ⟨hne, hrest⟩⟩

/-- A full rebuild makes the state coherent, whatever it was. -/
theorem coherent_rebuildAll (hwell : tables.WellFormed)
    (hapart : AddressesApart parsers tables) (state : State) :
    Coherent parsers tables .none (rebuildAll parsers tables state) := by
  have hprofiles := (coherent_clear parsers tables state).rebuildProfiles
    hwell trivial (fun _ => id) tables.listProfiles
  have hcontexts := hprofiles.insertContexts hwell hapart (fun _ => id)
  refine hcontexts.rebuildDefaultContextInner.weaken ?_ ?_ id
  · rintro id ⟨hprofile, hmissing⟩
    obtain ⟨profile, hfound⟩ := isSome_iff_exists.mp hprofile
    obtain ⟨hmem, hid⟩ := Table.find_eq_some hfound
    exact hmissing profile ((mem_insertionSort _).mpr hmem) hid.symm
  · rintro id ⟨hsome, hmissing⟩
    obtain ⟨settings, hsettings⟩ := isSome_iff_exists.mp hsome
    obtain ⟨entry, hentry, rfl⟩ := exists_listed hwell hsettings
    exact hmissing entry hentry (deviceId_of_findDeviceSettings hsettings).symm

end FullRebuild

/-! ## Rebuilding what an event names -/

section Events

variable {parsers : Parsers} {tables : Tables} {state : State}

/-- What a change of a profile leaves behind: the profile, and every context
that refers to it. -/
def Stale.ofProfile (tables : Tables) (state : State) (profileId : Uuid) : Stale where
  profile := fun id => id = profileId
  device := fun id => ∃ settings,
    tables.findDeviceSettings id = some settings ∧ profileId ∈ settings.profileIds
  default := profileId ∈ state.config.defaultProfileIds

theorem Coherent.rebuildAssigned {stale : Stale} (hcoherent : Coherent parsers tables stale state)
    (hwell : tables.WellFormed) (hapart : AddressesApart parsers tables)
    (profileId : Uuid) {entries : List (DeviceDnsFilterSettings × Text)}
    (hlisted : ∀ entry ∈ entries, entry ∈ tables.listDeviceSettingsWithIps) :
    Coherent parsers tables
      { stale with
        device := fun id => stale.device id ∧
          ∀ entry ∈ entries, profileId ∈ entry.1.profileIds → id ≠ entry.1.deviceId }
      (Filter.rebuildAssigned parsers tables profileId state entries) := by
  induction entries generalizing stale state with
  | nil =>
    exact hcoherent.weaken (fun _ => id) (fun id hstale => ⟨hstale, by simp⟩) (id)
  | cons entry entries ih =>
    have hrest : ∀ other ∈ entries, other ∈ tables.listDeviceSettingsWithIps :=
      fun other hother => hlisted other (mem_cons_of_mem _ hother)
    unfold Filter.rebuildAssigned
    rw [foldl_cons]
    by_cases hassigned : profileId ∈ entry.1.profileIds
    · rw [if_pos hassigned]
      obtain ⟨device, hmem, hsettings, -⟩ :=
        mem_listDeviceSettingsWithIps.mp (hlisted entry (mem_cons_self ..))
      have hhead := hcoherent.rebuildDeviceInner hwell hapart hmem
        (isSome_iff_exists.mpr ⟨_, hsettings⟩)
      rw [← deviceId_of_findDeviceSettings hsettings] at hhead
      refine (ih hhead hrest).weaken (fun _ => id) ?_ (id)
      rintro id ⟨⟨hstale, hne⟩, htail⟩
      exact ⟨hstale, forall_mem_cons.mpr ⟨fun _ => hne, htail⟩⟩
    · rw [if_neg hassigned]
      refine (ih hcoherent hrest).weaken (fun _ => id) ?_ (id)
      rintro id ⟨hstale, htail⟩
      exact ⟨hstale, forall_mem_cons.mpr ⟨fun hmem => absurd hmem hassigned, htail⟩⟩

/-- After a change of one profile, its rebuild makes everything coherent. -/
theorem Coherent.rebuildProfile {profileId : Uuid}
    (hcoherent : Coherent parsers tables (.ofProfile tables state profileId) state)
    (hwell : tables.WellFormed) (hapart : AddressesApart parsers tables) :
    Coherent parsers tables .none (Filter.rebuildProfile parsers tables state profileId) := by
  have hfiltered := hcoherent.rebuildProfileFilters hwell
    (fun device settings hfresh hsettings hassigned => hfresh ⟨settings, hsettings, hassigned⟩) id
  have hdefaulted : Coherent parsers tables
      { Stale.ofProfile tables state profileId with
        profile := fun _ => False
        default := False }
      (if profileId ∈ state.config.defaultProfileIds then
        Filter.rebuildDefaultContextInner
          { state with
            toCells := Filter.rebuildProfileFilters parsers tables state.toCells profileId }
      else
        { state with
          toCells := Filter.rebuildProfileFilters parsers tables state.toCells profileId }) := by
    split
    · exact hfiltered.rebuildDefaultContextInner.weaken
        (fun _ hstale => hstale.2 hstale.1) (fun _ => id) id
    next hunused =>
      exact hfiltered.weaken (fun _ hstale => hstale.2 hstale.1) (fun _ => id) hunused
  refine (hdefaulted.rebuildAssigned hwell hapart profileId
    (fun _ => id)).weaken (fun _ => id) ?_ id
  rintro id ⟨⟨settings, hsettings, hassigned⟩, hdone⟩
  obtain ⟨entry, hentry, rfl⟩ := exists_listed hwell hsettings
  exact hdone entry hentry hassigned (deviceId_of_findDeviceSettings hsettings).symm

end Events

end Wardnet.Filter
