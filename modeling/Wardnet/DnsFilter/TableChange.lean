import Wardnet.DnsFilter.Restore

/-!
# Changes of the tables

An admin operation that succeeds changes the tables in one place: the rows of
one profile, or the settings of one device.  Everything else reads the same
before and after it, so the runtime state lags behind the tables in what that
place concerns and nowhere else.
-/

namespace Wardnet.Filter

open List
open Net (IpAddr)

/-! ## Mutations of one profile -/

/-- A change of the tables that concerns one profile; `ids` are the default
profiles in memory. -/
structure ProfileChange (parsers : Parsers) (profileId : Uuid)
    (ids : List Uuid) (before after : Tables) : Prop where
  content : ∀ id, id ≠ profileId → after.content parsers id = before.content parsers id
  devices : after.devices = before.devices
  settings : ∀ id, after.findDeviceSettings id = before.findDeviceSettings id
  enabled : after.config.enabled = before.config.enabled
  defaultIds : ids.filter before.hasProfile =
      before.config.defaultProfileIds.filter before.hasProfile →
    ids.filter after.hasProfile = after.config.defaultProfileIds.filter after.hasProfile

section Changes

variable {parsers : Parsers} {before after : Tables} {profileId : Uuid} {ids : List Uuid}

theorem Coherent.change {state : State} (hcoherent : Coherent parsers before .none state)
    (hchange : ProfileChange parsers profileId state.config.defaultProfileIds before after) :
    Coherent parsers after (.ofProfile after state profileId) state where
  linked := hcoherent.linked
  profiles := by
    intro id hid
    rw [hchange.content id hid]
    exact hcoherent.profiles id not_false
  devices := by
    intro device _
    rw [hchange.settings]
    exact hcoherent.devices device not_false
  addresses := by
    intro ip _
    simp only [Tables.occupant, hchange.devices, hchange.settings]
    exact hcoherent.addresses ip fun _ _ => not_false
  default := fun _ => hcoherent.default not_false
  enabled := hcoherent.enabled.trans hchange.enabled.symm
  defaultIds := hchange.defaultIds hcoherent.defaultIds

/-- The content of a profile depends on its own rows only. -/
theorem content_congr {id : Uuid} (hprofile : after.hasProfile id = before.hasProfile id)
    (hblocklists : after.listBlocklists id = before.listBlocklists id)
    (hinputs : after.loadFilterInputsForProfile id = before.loadFilterInputsForProfile id) :
    after.content parsers id = before.content parsers id := by
  simp only [Tables.content, auxFilter, hprofile, hblocklists, hinputs]

/-- A change of the rows of a profile, with the profiles, the devices and the
configuration left alone. -/
theorem profileChange_of_rows (hprofiles : after.hasProfile = before.hasProfile)
    (hblocklists : ∀ id, id ≠ profileId → after.listBlocklists id = before.listBlocklists id)
    (hinputs : ∀ id, id ≠ profileId → after.loadFilterInputsForProfile id =
        before.loadFilterInputsForProfile id) (hdevices : after.devices = before.devices)
    (hsettings : after.findDeviceSettings = before.findDeviceSettings)
    (hconfig : after.config = before.config) :
    ProfileChange parsers profileId ids before after where
  content := fun id hne => content_congr (congrFun hprofiles id)
    (hblocklists id hne) (hinputs id hne)
  devices := hdevices
  settings := congrFun hsettings
  enabled := congrArg DnsFilterConfig.enabled hconfig
  defaultIds := by
    rw [hprofiles, hconfig]
    exact id

end Changes

section Rows

variable {Row : Type*} {keep stay : Row → Bool} {rows : List Row}

theorem filter_append_singleton {row : Row} (hdrop : keep row = false) :
    (rows ++ [row]).filter keep = rows.filter keep := by
  simp [filter_append, hdrop]

/-- An update that changes only rows that are dropped before and after. -/
theorem filter_map_of_dropped {update : Row → Row} (hdropped : ∀ row ∈ rows, update row = row ∨
      keep row = false ∧ keep (update row) = false) :
    (rows.map update).filter keep = rows.filter keep := by
  induction rows with
  | nil => rfl
  | cons row rows ih =>
    rw [map_cons, filter_cons, filter_cons,
      ih fun other hother => hdropped other (mem_cons_of_mem _ hother)]
    rcases hdropped row (mem_cons_self ..) with hsame | ⟨hold, hnew⟩
    · rw [hsame]
    · simp [hold, hnew]

theorem filter_filter_of_imp (hstay : ∀ row ∈ rows, keep row = true → stay row = true) :
    (rows.filter stay).filter keep = rows.filter keep := by
  rw [filter_filter]
  refine filter_congr fun row hrow => ?_
  cases hkept : keep row with
  | false => rfl
  | true => simp [hstay row hrow hkept]

end Rows

theorem hasProfile_iff {tables : Tables} {id : Uuid} :
    tables.hasProfile id = true ↔ ∃ profile ∈ tables.profiles, profile.id = id := by
  simp [Tables.hasProfile, Tables.getProfile]

section ProfileOperations

variable {parsers : Parsers} {tables after : Tables} {ids : List Uuid} {id : Uuid}

theorem profileChange_createProfile {name : Text}
    {description : Option Text} (hcreate : tables.createProfile id name description = some after)
    (hmemory : id ∉ ids) (hstored : id ∉ tables.config.defaultProfileIds) :
    ProfileChange parsers id ids tables after := by
  simp only [Tables.createProfile, Option.ite_none_left_eq_some] at hcreate
  cases hcreate.2
  have hprofile : ∀ other, other ≠ id →
      Tables.hasProfile { tables with
        profiles := tables.profiles ++ [⟨id, name, description, false⟩] }
        other = tables.hasProfile other := by
    intro other hne
    rw [Bool.eq_iff_iff, hasProfile_iff, hasProfile_iff]
    simp only [mem_append, mem_singleton]
    constructor
    · rintro ⟨profile, hmem | rfl, rfl⟩
      · exact ⟨profile, hmem, rfl⟩
      · exact absurd rfl hne
    · rintro ⟨profile, hmem, rfl⟩
      exact ⟨profile, .inl hmem, rfl⟩
  have hfilter : ∀ list : List Uuid, id ∉ list →
      list.filter (Tables.hasProfile { tables with
        profiles := tables.profiles ++ [⟨id, name, description, false⟩] }) =
        list.filter tables.hasProfile := by
    intro list hnotMem
    refine filter_congr fun other hother => hprofile other ?_
    rintro rfl
    exact hnotMem hother
  exact
    { content := fun other hne => content_congr (hprofile other hne) rfl rfl
      devices := rfl
      settings := fun _ => rfl
      enabled := rfl
      defaultIds := by
        intro hsame
        rw [hfilter ids hmemory, hsame]
        exact (hfilter _ hstored).symm }

theorem profileChange_updateProfileFields {name : Option Text} {description : Option (Option Text)}
    (hupdate : tables.updateProfileFields id name description = some after) :
    ProfileChange parsers id ids tables after := by
  simp only [Tables.updateProfileFields, Option.ite_none_left_eq_some] at hupdate
  cases hupdate.2
  refine profileChange_of_rows ?_ (fun _ _ => rfl) (fun _ _ => rfl) rfl rfl rfl
  funext other
  rw [Bool.eq_iff_iff, hasProfile_iff, hasProfile_iff]
  simp only [mem_map, exists_exists_and_eq_and]
  refine exists_congr fun profile => and_congr_right fun _ => ?_
  split <;> rfl

theorem hasProfile_withoutProfile (tables : Tables) (id other : Uuid) :
    (tables.withoutProfile id).hasProfile other =
      (decide (other ≠ id) && tables.hasProfile other) := by
  rw [Bool.eq_iff_iff, Bool.and_eq_true, hasProfile_iff, hasProfile_iff]
  simp only [Tables.withoutProfile, mem_filter, decide_eq_true_eq]
  constructor
  · rintro ⟨profile, ⟨hmem, hne⟩, rfl⟩
    exact ⟨hne, profile, hmem, rfl⟩
  · rintro ⟨hne, profile, hmem, rfl⟩
    exact ⟨profile, ⟨hmem, hne⟩, rfl⟩

/-- The deletion of a profile that no device is assigned. -/
theorem profileChange_withoutProfile (hunassigned : ∀ row ∈ tables.deviceProfiles, row.2 ≠ id) :
    ProfileChange parsers id ids tables (tables.withoutProfile id) where
  content := by
    intro other hne
    refine content_congr ?_ ?_ ?_
    · simp [hasProfile_withoutProfile, hne]
    · refine filter_filter_of_imp fun row _ hrow => ?_
      simpa [of_decide_eq_true hrow] using hne
    · refine Prod.ext (congrArg (map _) ?_) (congrArg (map _) ?_)
      · refine filter_filter_of_imp fun row _ hrow => ?_
        simpa [of_decide_eq_true hrow] using hne
      · refine filter_filter_of_imp fun row _ hrow => ?_
        simpa [(of_decide_eq_true hrow).1] using hne
  devices := rfl
  settings := by
    intro device
    have hrows : (tables.withoutProfile id).deviceProfiles = tables.deviceProfiles :=
      filter_eq_self.mpr fun row hrow => by simpa using hunassigned row hrow
    simp only [Tables.findDeviceSettings, Tables.profileIdsOf, hrows]
    rfl
  enabled := rfl
  defaultIds := by
    intro hsame
    have hfilter : (tables.withoutProfile id).hasProfile =
        fun other => decide (other ≠ id) && tables.hasProfile other :=
      funext (hasProfile_withoutProfile tables id)
    simp only [hfilter, ← filter_filter, hsame]
    simp [Tables.withoutProfile, filter_filter, Bool.and_comm]

theorem profileChange_createBlocklist {row : Blocklist}
    (hcreate : tables.createBlocklist row = some after) :
    ProfileChange parsers row.profileId ids tables after := by
  simp only [Tables.createBlocklist, Option.ite_none_left_eq_some] at hcreate
  cases hcreate.2.2
  refine profileChange_of_rows rfl (fun id hne => ?_) (fun _ _ => rfl) rfl rfl rfl
  exact filter_append_singleton (by simpa using hne.symm)

variable {blocklist : Blocklist}

theorem profileChange_updateBlocklist (hwell : tables.WellFormed)
    (hfound : tables.getBlocklist id = some blocklist) {update : Tables.BlocklistUpdate}
    (hupdate : tables.updateBlocklist id update = some after) :
    ProfileChange parsers blocklist.profileId ids tables after := by
  simp only [Tables.updateBlocklist, Option.ite_none_left_eq_some] at hupdate
  cases hupdate.2
  refine profileChange_of_rows rfl (fun other hne => ?_) (fun _ _ => rfl) rfl rfl rfl
  refine filter_map_of_dropped fun row hmem => ?_
  split
  next hid =>
    cases Table.eq_of_find hwell.blocklistIds hfound hmem hid
    exact .inr ⟨decide_eq_false hne.symm, decide_eq_false hne.symm⟩
  · exact .inl rfl

theorem profileChange_deleteBlocklist (hwell : tables.WellFormed)
    (hfound : tables.getBlocklist id = some blocklist) :
    ProfileChange parsers blocklist.profileId ids tables (tables.deleteBlocklist id).1 := by
  refine profileChange_of_rows rfl (fun other hne => ?_) (fun _ _ => rfl) rfl rfl rfl
  refine filter_filter_of_imp fun row hmem hrow => decide_eq_true fun hid => ?_
  cases Table.eq_of_find hwell.blocklistIds hfound hmem hid
  exact hne (of_decide_eq_true hrow).symm

theorem profileChange_createAllowlistEntry {row : AllowlistEntry}
    (hcreate : tables.createAllowlistEntry row = some after) :
    ProfileChange parsers row.profileId ids tables after := by
  simp only [Tables.createAllowlistEntry, Option.ite_none_left_eq_some] at hcreate
  cases hcreate.2.2
  refine profileChange_of_rows rfl (fun _ _ => rfl) (fun id hne => ?_) rfl rfl rfl
  refine Prod.ext (congrArg (map _) ?_) rfl
  exact filter_append_singleton (by simpa using hne.symm)

/-- The deletion of an allowlist entry of the profile that is named. -/
theorem profileChange_deleteAllowlistEntry {profileId : Uuid}
    (howned : ∀ entry ∈ tables.allowlist, entry.id = id → entry.profileId = profileId) :
    ProfileChange parsers profileId ids tables (tables.deleteAllowlistEntry id).1 := by
  refine profileChange_of_rows rfl (fun _ _ => rfl) (fun other hne => ?_) rfl rfl rfl
  refine Prod.ext (congrArg (map _) ?_) rfl
  refine filter_filter_of_imp fun row hmem hrow => decide_eq_true fun hid => ?_
  rw [howned row hmem hid] at hrow
  exact hne (of_decide_eq_true hrow).symm

theorem profileChange_createCustomRule {row : CustomFilterRule}
    (hcreate : tables.createCustomRule row = some after) :
    ProfileChange parsers row.profileId ids tables after := by
  simp only [Tables.createCustomRule, Option.ite_none_left_eq_some] at hcreate
  cases hcreate.2.2
  refine profileChange_of_rows rfl (fun _ _ => rfl) (fun id hne => ?_) rfl rfl rfl
  refine Prod.ext rfl (congrArg (map _) ?_)
  exact filter_append_singleton (by simpa using fun heq => absurd heq hne.symm)

variable {rule : CustomFilterRule}

theorem profileChange_updateCustomRule (hwell : tables.WellFormed)
    (hfound : tables.getCustomRule id = some rule) (update : Tables.CustomRuleUpdate) :
    ProfileChange parsers rule.profileId ids tables (tables.updateCustomRule id update) := by
  refine profileChange_of_rows rfl (fun _ _ => rfl) (fun other hne => ?_) rfl rfl rfl
  refine Prod.ext rfl (congrArg (map _) ?_)
  refine filter_map_of_dropped fun row hmem => ?_
  split
  next hid =>
    cases Table.eq_of_find hwell.customRuleIds hfound hmem hid
    exact .inr ⟨decide_eq_false fun hkept => hne hkept.1.symm,
      decide_eq_false fun hkept => hne hkept.1.symm⟩
  · exact .inl rfl

theorem profileChange_deleteCustomRule (hwell : tables.WellFormed)
    (hfound : tables.getCustomRule id = some rule) :
    ProfileChange parsers rule.profileId ids tables (tables.deleteCustomRule id).1 := by
  refine profileChange_of_rows rfl (fun _ _ => rfl) (fun other hne => ?_) rfl rfl rfl
  refine Prod.ext rfl (congrArg (map _) ?_)
  refine filter_filter_of_imp fun row hmem hrow => decide_eq_true fun hid => ?_
  cases Table.eq_of_find hwell.customRuleIds hfound hmem hid
  exact hne (of_decide_eq_true hrow).1.symm

end ProfileOperations

/-! ## Device settings -/

/-- A change of the settings of one device. -/
structure DeviceChange (parsers : Parsers) (deviceId : Uuid) (before after : Tables) : Prop where
  content : ∀ id, after.content parsers id = before.content parsers id
  hasProfile : after.hasProfile = before.hasProfile
  devices : after.devices = before.devices
  settings : ∀ id, id ≠ deviceId → after.findDeviceSettings id = before.findDeviceSettings id
  assigned : (after.findDeviceSettings deviceId).isSome
  config : after.config = before.config

/-- No other device with settings is at the address. -/
def AddressUnclaimed (parsers : Parsers) (tables : Tables) (deviceId : Uuid) (ip : Text) : Prop :=
  ∀ other ∈ tables.devices, other.id ≠ deviceId → (tables.findDeviceSettings other.id).isSome →
    (parsers.parseIp ip).isSome →
    parsers.parseIp ip ≠ parsers.parseIp other.lastIp
  deriving Decidable

/-- No other device with settings has the address of the device. -/
def AddressFree (parsers : Parsers) (tables : Tables) (deviceId : Uuid) : Prop :=
  ∀ device ∈ tables.devices, device.id = deviceId →
    AddressUnclaimed parsers tables deviceId device.lastIp
  deriving Decidable

section DeviceOperations

variable {parsers : Parsers} {before after : Tables} {deviceId : Uuid}

section

variable (hapart : AddressesApart parsers before)
variable (hchange : DeviceChange parsers deviceId before after)
include hapart hchange

theorem AddressesApart.assign (hwell : before.WellFormed)
    (hfree : AddressFree parsers before deviceId) : AddressesApart parsers after := by
  intro left hleft right hright hleftSome hrightSome hip hsame
  rw [hchange.devices] at hleft hright
  by_cases hleftId : left.id = deviceId <;> by_cases hrightId : right.id = deviceId
  · exact hwell.device_ext hleft hright (hleftId.trans hrightId.symm)
  · rw [hchange.settings _ hrightId] at hrightSome
    exact absurd hsame (hfree left hleft hleftId right hright hrightId hrightSome hip)
  · rw [hchange.settings _ hleftId] at hleftSome
    exact absurd hsame.symm (hfree right hright hrightId left hleft hleftId hleftSome (hsame ▸ hip))
  · rw [hchange.settings _ hleftId] at hleftSome
    rw [hchange.settings _ hrightId] at hrightSome
    exact hapart left hleft right hright hleftSome hrightSome hip hsame

/-- An address whose device keeps its settings keeps its occupant. -/
theorem occupant_of_change {ip : IpAddr}
    (hother : ∀ settings ∈ after.occupant parsers ip, settings.deviceId ≠ deviceId) :
    after.occupant parsers ip = before.occupant parsers ip := by
  cases hoccupant : after.occupant parsers ip with
  | some settings =>
    obtain ⟨device, hmem, hip, hsettings⟩ := occupant_eq_some hoccupant
    have hne : device.id ≠ deviceId := by
      rw [← deviceId_of_findDeviceSettings hsettings]
      exact hother settings hoccupant
    rw [hchange.settings _ hne] at hsettings
    rw [hchange.devices] at hmem
    exact (occupant_of_mem hapart hmem hip hsettings).symm
  | none =>
    cases hbefore : before.occupant parsers ip with
    | none => rfl
    | some settings =>
      obtain ⟨device, hmem, hip, hsettings⟩ := occupant_eq_some hbefore
      rw [← hchange.devices] at hmem
      have hnone := findSome?_eq_none_iff.mp hoccupant device hmem
      rw [if_pos hip] at hnone
      by_cases hid : device.id = deviceId
      · have hassigned := hchange.assigned
        rw [← hid, hnone] at hassigned
        cases hassigned
      · rw [hchange.settings _ hid, hsettings] at hnone
        cases hnone

theorem Coherent.changeDevice {state : State} (hcoherent : Coherent parsers before .none state) :
    Coherent parsers after { Stale.none with device := fun id => id = deviceId } state where
  linked := hcoherent.linked
  profiles := by
    intro id _
    rw [hchange.content id]
    exact hcoherent.profiles id not_false
  devices := by
    intro device hne
    rw [hchange.settings device hne]
    exact hcoherent.devices device not_false
  addresses := by
    intro ip hother
    rw [occupant_of_change hapart hchange hother]
    exact hcoherent.addresses ip fun _ _ => not_false
  default := fun _ => hcoherent.default not_false
  enabled := hchange.config ▸ hcoherent.enabled
  defaultIds := by
    rw [hchange.hasProfile, hchange.config]
    exact hcoherent.defaultIds

end

theorem deviceChange_setDeviceProfiles {upserted : Tables} {enabled : Bool} {profileIds : List Uuid}
    (hupsert : before.upsertDeviceSettings deviceId enabled = some upserted)
    (hset : upserted.setDeviceProfiles deviceId profileIds = some after) :
    DeviceChange parsers deviceId before after := by
  simp only [Tables.upsertDeviceSettings, Option.ite_none_right_eq_some] at hupsert
  cases hupsert.2
  simp only [Tables.setDeviceProfiles, Option.ite_none_right_eq_some] at hset
  cases hset.2
  refine ⟨fun _ => rfl, rfl, rfl, fun id hne => ?_, ?_, rfl⟩
  · have hrows : ((before.deviceProfiles.filter fun row =>
        row.1 ≠ deviceId) ++ profileIds.map fun profileId =>
          (deviceId, profileId)).filter (fun row => row.1 = id) =
        before.deviceProfiles.filter fun row => row.1 = id := by
      rw [filter_append, filter_filter_of_imp]
      · simp [filter_map, Function.comp_def, hne.symm]
      · intro row _ hrow
        simpa [of_decide_eq_true hrow] using hne
    have hget : (before.deviceSettings.insert deviceId enabled).get id =
        before.deviceSettings.get id :=
      HashMap.get_insert_of_ne _ _ hne
    simp only [Tables.findDeviceSettings, Tables.profileIdsOf, hrows, hget]
    rfl
  · simp [Tables.findDeviceSettings]

end DeviceOperations

end Wardnet.Filter
