import Wardnet.DnsFilter.Administration
import Wardnet.DnsFilter.TableChange

/-!
# Incremental and full rebuilds

A full rebuild makes the runtime state coherent with the tables.  A mutation
followed by the handling of its events keeps it coherent, unless the mutation
deletes a profile that a device is assigned, deletes an allowlist entry of
another profile, lists a profile twice for a device, or gives settings to a
device whose address is that of another device with settings.  In all other
runs the patched state answers every query as a full rebuild would.
-/

namespace Wardnet.Filter

open Transition
open Net (IpAddr)

/-! ## Handling the events of one mutation -/

/-- The runtime state is coherent with the tables, and no address has two
devices to choose from. -/
structure Synced (parsers : Parsers) (tables : Tables) (state : State) : Prop where
  coherent : Coherent parsers tables .none state
  apart : AddressesApart parsers tables

/-- Success changes one profile, and the event names it. -/
def ChangesProfile (parsers : Parsers) (ids : List Uuid) (tables : Tables)
    (outcome : Outcome) : Prop :=
  ∀ after changes, outcome = .ok (after, changes) →
    ∃ profileId, ProfileChange parsers profileId ids tables after ∧
      (changes = [.profileContent profileId] ∨ changes = [.profileMembership profileId])

section Events

variable {parsers : Parsers} {tables after : Tables} {state : State}

/-- An operation on one profile, with its event handled. -/
theorem Synced.commit {outcome : Outcome} {mutation : Mutation}
    (hsynced : Synced parsers tables state) (hwell : (commit tables outcome).1.WellFormed)
    (hchanges : ChangesProfile parsers state.config.defaultProfileIds tables outcome)
    (hstore : ∀ stored, storeConfig stored state mutation = state) :
    Synced parsers (Filter.commit tables outcome).1
      (handleChanges parsers (Filter.commit tables outcome).1 state mutation
        (Filter.commit tables outcome).2) := by
  cases outcome with
  | error error => exact hsynced
  | ok result =>
    obtain ⟨after, changes⟩ := result
    obtain ⟨profileId, hchange, hevent⟩ := hchanges after changes rfl
    have hapart : AddressesApart parsers after := by
      simpa only [AddressesApart, hchange.devices, hchange.settings] using hsynced.apart
    have hrebuilt := (hsynced.coherent.change hchange).rebuildProfile hwell hapart
    rcases hevent with rfl | rfl
    all_goals
      simp only [Filter.commit, handleChanges, hstore, List.foldl_cons,
        List.foldl_nil, handleFilterChange]
      exact ⟨hrebuilt, hapart⟩

theorem Synced.assign {deviceId : Uuid}
    (hsynced : Synced parsers tables state) (hbefore : tables.WellFormed)
    (hwell : after.WellFormed) (hfree : AddressFree parsers tables deviceId)
    (hchange : DeviceChange parsers deviceId tables after) :
    Synced parsers after (rebuildDeviceInner parsers after state deviceId) := by
  have hapart : AddressesApart parsers after := hsynced.apart.assign hchange hbefore hfree
  refine ⟨?_, hapart⟩
  obtain ⟨device, hmem, rfl⟩ := exists_device_of_assigned hwell hchange.assigned
  have hstale := hsynced.coherent.changeDevice hsynced.apart hchange
  have hrebuilt := hstale.rebuildDeviceInner hwell hapart hmem hchange.assigned
  exact hrebuilt.weaken (fun _ => id) (fun _ hdone => hdone.2 hdone.1) id

/-! ## The filter configuration -/

theorem Coherent.filterMap_filter_hasProfile
    (hcoherent : Coherent parsers tables .none state) (ids : List Uuid) :
    (ids.filter tables.hasProfile).filterMap state.profiles.get =
      ids.filterMap state.profiles.get := by
  rw [List.filterMap_filter]
  refine List.filterMap_congr fun id _ => ?_
  cases hprofile : tables.hasProfile id with
  | true => simp
  | false =>
    have hserved := hcoherent.profiles id not_false
    rw [Tables.content, if_neg (by simp [hprofile])] at hserved
    exact hserved.symm

/-- Storing a configuration leaves at most the default context behind. -/
theorem Coherent.setConfig (hcoherent : Coherent parsers tables .none state)
    (config : DnsFilterConfig) :
    Coherent parsers { tables with config := config }
      { Stale.none with
        default := config.defaultProfileIds ≠ tables.config.defaultProfileIds }
      { state with config := config } :=
  { hcoherent with
    enabled := rfl
    defaultIds := rfl
    default := by
      intro hfresh
      refine (hcoherent.default not_false).trans ?_
      rw [of_not_not hfresh, ← hcoherent.filterMap_filter_hasProfile,
        hcoherent.defaultIds, hcoherent.filterMap_filter_hasProfile] }

theorem Coherent.rebuildDefaultContext {stale : Stale}
    (hcoherent : Coherent parsers tables stale state) :
    Coherent parsers tables { stale with default := False }
      (Filter.rebuildDefaultContext tables state) := by
  have hrefreshed : Coherent parsers tables
      { stale with default := True } (refreshConfig tables state) :=
    { hcoherent with
      enabled := rfl
      defaultIds := rfl
      default := fun hfresh => absurd trivial hfresh }
  exact hrefreshed.rebuildDefaultContextInner

variable {changes : List DnsFilterChange}

/-- Any event about the default context brings it up to date. -/
theorem Coherent.foldl_defaultChanges {stale : Stale}
    (hcoherent : Coherent parsers tables stale state)
    (hdefault : ∀ change ∈ changes, change = .defaultProfile ∨ change = .globalToggle) :
    Coherent parsers tables { stale with default := stale.default ∧ changes = [] }
      (changes.foldl (handleFilterChange parsers tables) state) := by
  induction changes generalizing stale state with
  | nil => exact hcoherent.weaken (fun _ => id) (fun _ => id) fun hstale => ⟨hstale, rfl⟩
  | cons change changes ih =>
    obtain ⟨hhead, htail⟩ := List.forall_mem_cons.mp hdefault
    have hhandled : handleFilterChange parsers tables state change =
        Filter.rebuildDefaultContext tables state := by
      rcases hhead with rfl | rfl <;> rfl
    rw [List.foldl_cons, hhandled]
    exact (ih hcoherent.rebuildDefaultContext htail).weaken (fun _ => id)
      (fun _ => id) fun hstale => hstale.1.elim

theorem Synced.updateFilterConfig {enabled : Option Bool} {defaultProfileIds : Option (List Uuid)}
    (hsynced : Synced parsers tables state) (hwell : tables.WellFormed)
    (hok : updateFilterConfig tables enabled defaultProfileIds = .ok (after, changes)) :
    Synced parsers after (changes.foldl (handleFilterChange parsers after)
        { state with config := after.config }) := by
  obtain ⟨⟨config, hset, -, hids⟩, hdefault⟩ := updateFilterConfig_ok hwell.defaultIdsSorted hok
  simp only [Tables.setDnsFilterConfig, Option.ite_none_right_eq_some] at hset
  cases hset.2
  refine ⟨?_, hsynced.apart⟩
  have hstored := hsynced.coherent.setConfig config
  refine (hstored.foldl_defaultChanges hdefault).weaken (fun _ => id) (fun _ => id) ?_
  rintro ⟨hchanged, hnone⟩
  rcases hids with hevent | hsame
  · rw [hnone] at hevent
    cases hevent
  · exact hchanged hsame

end Events

/-! ## Runs -/

/-- The mutations after which every part of the state that is behind the
tables is named by an event; what the service refuses is among them. -/
def Covered (parsers : Parsers) (world : World) : Mutation → Prop
  | .deleteProfile id =>
    (world.tables.getProfile id).any (fun profile => profile.builtin = false) →
      ∀ row ∈ world.tables.deviceProfiles, row.2 ≠ id
  | .deleteAllowlistEntry profileId id =>
    (world.tables.getProfile profileId).isSome →
      ∀ entry ∈ world.tables.allowlist, entry.id = id → entry.profileId = profileId
  | .updateDeviceSettings deviceId _ profileIds =>
    (world.tables.findDevice deviceId).isSome →
      (∀ profileId ∈ profileIds, (world.tables.getProfile profileId).isSome) →
        profileIds.Nodup ∧ AddressFree parsers world.tables deviceId
  | _ => True

instance (parsers : Parsers) (world : World) (mutation) :
    Decidable (Covered parsers world mutation) := by
  cases mutation <;> delta Covered <;> infer_instance

section Runs

variable {parsers : Parsers} {world after : World} {mutation : Mutation}

theorem next_eq_some (hnext : next parsers world mutation = some after) :
    (∀ id ∈ mutation.newId, world.mentions id = false) ∧
      after.tables = (mutate parsers world.tables mutation).1 ∧
      after.service = handleChanges parsers
        (mutate parsers world.tables mutation).1 world.service mutation
        (mutate parsers world.tables mutation).2 := by
  simp only [next, Option.ite_none_left_eq_some] at hnext
  obtain ⟨hnew, hafter⟩ := hnext
  cases hafter
  refine ⟨fun id hid => ?_, rfl, rfl⟩
  rw [Option.mem_def.mp hid] at hnew
  simpa using hnew

/-- A covered mutation, with its events handled, keeps the state coherent. -/
theorem synced_mutate (hsynced : Synced parsers world.tables world.service)
    (hcovered : Covered parsers world mutation)
    (hnew : ∀ id ∈ mutation.newId, world.mentions id = false) :
    Synced parsers (mutate parsers world.tables mutation).1
      (handleChanges parsers (mutate parsers world.tables mutation).1 world.service mutation
        (mutate parsers world.tables mutation).2) := by
  have hbefore := world.wellFormed
  have hwell := wellFormed_mutate parsers hbefore mutation
  have hwrote := mutate_wrote parsers world.tables mutation
  cases mutation
  case updateDeviceSettings deviceId enabled profileIds =>
    simp only [mutate] at hwell ⊢
    rcases updateDeviceSettings_cases world.tables deviceId enabled
      profileIds with ⟨error, hresult⟩ | ⟨upserted, hupsert, hprofiles, hresult⟩
    · rw [hresult]
      exact hsynced
    have hdevice : (world.tables.findDevice deviceId).isSome := by
      unfold Tables.upsertDeviceSettings at hupsert
      split at hupsert
      · assumption
      · cases hupsert
    obtain ⟨hnodup, hfree⟩ := hcovered hdevice hprofiles
    rcases hresult with ⟨assigned, hassigned, hresult⟩ | ⟨hrepeated, -⟩
    · rw [hresult] at hwell ⊢
      exact hsynced.assign hbefore hwell hfree (deviceChange_setDeviceProfiles hupsert hassigned)
    · exact absurd hnodup hrepeated
  case updateFilterConfig enabled defaultProfileIds =>
    simp only [mutate]
    cases hresult : updateFilterConfig world.tables enabled defaultProfileIds with
    | error error => exact hsynced
    | ok result => exact hsynced.updateFilterConfig hbefore hresult
  all_goals
    refine hsynced.commit hwell (fun after changes hok => ?_) fun _ => rfl
    replace hwrote := hwrote after changes (commit_eq_ok.mpr hok)
  case createProfile id _ _ =>
    obtain ⟨hcreate, hevent⟩ := hwrote
    obtain ⟨-, hstored, hmemory⟩ := by simpa [World.mentions] using hnew id rfl
    exact ⟨id, profileChange_createProfile hcreate hmemory hstored, .inr hevent⟩
  case updateProfile =>
    obtain ⟨hupdate, hevent⟩ := hwrote
    exact ⟨_, profileChange_updateProfileFields hupdate, .inr hevent⟩
  case deleteProfile =>
    obtain ⟨hexists, rfl, hevent⟩ := hwrote
    exact ⟨_, profileChange_withoutProfile (hcovered hexists), .inr hevent⟩
  case createBlocklist =>
    obtain ⟨hcreate, hevent⟩ := hwrote
    exact ⟨_, profileChange_createBlocklist hcreate, .inl hevent⟩
  case updateBlocklist =>
    obtain ⟨⟨blocklist, hfound, rfl⟩, hupdate, hevent⟩ := hwrote
    exact ⟨_, profileChange_updateBlocklist hbefore hfound hupdate, .inl hevent⟩
  case deleteBlocklist =>
    obtain ⟨⟨blocklist, hfound, rfl⟩, rfl, hevent⟩ := hwrote
    exact ⟨_, profileChange_deleteBlocklist hbefore hfound, .inl hevent⟩
  case createAllowlistEntry =>
    obtain ⟨hcreate, hevent⟩ := hwrote
    exact ⟨_, profileChange_createAllowlistEntry hcreate, .inl hevent⟩
  case deleteAllowlistEntry =>
    obtain ⟨hexists, rfl, hevent⟩ := hwrote
    exact ⟨_, profileChange_deleteAllowlistEntry (hcovered hexists), .inl hevent⟩
  case createCustomRule =>
    obtain ⟨hcreate, hevent⟩ := hwrote
    exact ⟨_, profileChange_createCustomRule hcreate, .inl hevent⟩
  case updateCustomRule request =>
    obtain ⟨⟨rule, hfound, rfl⟩, rfl, hevent⟩ := hwrote
    exact ⟨_, profileChange_updateCustomRule hbefore hfound request, .inl hevent⟩
  case deleteCustomRule =>
    obtain ⟨⟨rule, hfound, rfl⟩, rfl, hevent⟩ := hwrote
    exact ⟨_, profileChange_deleteCustomRule hbefore hfound, .inl hevent⟩

end Runs

/-! ## Agreement with a full rebuild -/

/-- The service as a full rebuild of the tables leaves it. -/
def World.rebuilt (parsers : Parsers) (tables : Tables) (state : State)
    (hwell : tables.WellFormed) : World where
  tables := tables
  service := rebuildAll parsers tables state
  wellFormed := hwell

/-- A full rebuild would not change any verdict. -/
def RefinesRebuildAll (parsers : Parsers) (world : World) : Prop :=
  ∀ (domain : Text) (qtype : RecordType) (device : Uuid) (client : IpAddr),
    checkForDevice world.service domain qtype device client =
      checkForDevice (rebuildAll parsers world.tables world.service) domain qtype device client

/-- Whatever covered mutations have been made and handled since the last full
rebuild, every verdict is the one another full rebuild would give. -/
theorem incremental_refines_rebuildAll (parsers : Parsers) (tables : Tables)
    (state : State) (hwell : tables.WellFormed)
    (hapart : AddressesApart parsers tables) (labels : List Mutation) (final : World)
    (hcovered : Meets (next parsers) (Covered parsers) (.rebuilt parsers tables state hwell) labels)
    (hrun : run (next parsers) (.rebuilt parsers tables state hwell) labels = some final) :
    RefinesRebuildAll parsers final := by
  have hstart : Synced parsers tables (rebuildAll parsers tables state) :=
    ⟨coherent_rebuildAll hwell hapart state, hapart⟩
  have hfinal : Synced parsers final.tables final.service := by
    refine run_invariant_of_meets (fun (world : World) _ _
      (hbefore : Synced parsers world.tables world.service) hcond hnext => ?_) hstart hcovered hrun
    obtain ⟨hnew, htables, hservice⟩ := next_eq_some hnext
    rw [htables, hservice]
    exact synced_mutate hbefore hcond hnew
  have hfull := coherent_rebuildAll final.wellFormed hfinal.apart final.service
  intro domain qtype device client
  rw [hfinal.coherent.checkForDevice_eq, hfull.checkForDevice_eq]

/-! ## A household -/

/-- Parsers for the addresses of the household; it has no custom rules. -/
def householdParsers : Parsers where
  parseLine := fun _ => .ok none
  parseIp := fun text =>
    if text = "10.0.0.6".toList then some (.v4 (Net.ipv4 10 0 0 6))
    else if text = "10.0.0.7".toList then some (.v4 (Net.ipv4 10 0 0 7))
    else if text = "10.0.0.8".toList then some (.v4 (Net.ipv4 10 0 0 8))
    else none
  parseSchedule := fun _ => .ok ()

/-- Two profiles that block `ads.example`, the second of which also allows it,
and three devices, two of them at the same address. -/
def household : Tables where
  profiles := [⟨1, "strict".toList, none, false⟩, ⟨2, "lenient".toList, none, false⟩]
  blocklists :=
    [⟨3, 1, "ads".toList, "https://lists.example/ads".toList, true,
        "0 3 * * *".toList, ["ads.example".toList]⟩,
      ⟨4, 2, "ads".toList, "https://lists.example/ads".toList, true,
        "0 3 * * *".toList, ["ads.example".toList]⟩]
  allowlist := [⟨5, 2, "ads.example".toList, none⟩]
  customRules := []
  devices := [⟨8, "10.0.0.6".toList⟩, ⟨6, "10.0.0.6".toList⟩, ⟨7, "10.0.0.7".toList⟩]
  deviceSettings := .empty
  deviceProfiles := []
  config := ⟨true, []⟩

theorem wellFormed_household : household.WellFormed where
  blocklistIds := by decide
  customRuleIds := by decide
  deviceIds := by decide
  settingsDevices := fun deviceId _ hstored => by simp [household] at hstored
  profileDevices := fun row hrow => by simp [household] at hrow
  defaultIdsSorted := by simp [household]

/-- The household after its first full rebuild. -/
def householdStart : World := .rebuilt householdParsers household .new wellFormed_household

/-- Two devices are assigned profiles, one profile loses its allowlist entry
and the other one is deleted once no device is assigned it. -/
def coveredRun : List Mutation :=
  [.updateDeviceSettings 6 true [1], .updateDeviceSettings 7 true [2],
    .deleteAllowlistEntry 2 5, .updateDeviceSettings 6 true [2],
    .deleteProfile 1, .updateFilterConfig none (some [2])]

theorem incremental_refines_rebuildAll_coveredRun :
    ∃ final, run (next householdParsers) householdStart coveredRun =
        some final ∧ RefinesRebuildAll householdParsers final := by
  obtain ⟨final, hrun⟩ : ∃ final,
      run (next householdParsers) householdStart coveredRun = some final :=
    Option.isSome_iff_exists.mp (by decide +kernel)
  exact ⟨final, hrun, incremental_refines_rebuildAll householdParsers
    household .new wellFormed_household (by decide +kernel) coveredRun final
    (by decide +kernel) hrun⟩

/-- The verdicts on `ads.example` after the mutations: the one in effect, and
the one after another full rebuild. -/
def householdVerdicts (labels : List Mutation) (device : Uuid)
    (client : IpAddr) : Option (CheckOutcome × CheckOutcome) :=
  (run (next householdParsers) householdStart labels).map fun final =>
    (checkForDevice final.service "ads.example".toList .a device client,
      checkForDevice (rebuildAll householdParsers final.tables final.service)
        "ads.example".toList .a device client)

/-- A device keeps a deleted profile; an allowlist entry deleted under the
name of another profile stays in force; a device whose profiles are refused
keeps its old kill switch; a shared address follows the device that was
updated last. -/
theorem incremental_rebuild_diverges :
    householdVerdicts [.updateDeviceSettings 6 true [1], .deleteProfile 1] 6
        (.v4 (Net.ipv4 10 0 0 6)) = some (⟨.block, false⟩, ⟨.pass, false⟩) ∧
      householdVerdicts [.updateDeviceSettings 7 true [2],
          .deleteAllowlistEntry 1 5] 7 (.v4 (Net.ipv4 10 0 0 7)) =
        some (⟨.pass, false⟩, ⟨.block, false⟩) ∧
      householdVerdicts [.updateFilterConfig none (some [1]), .updateDeviceSettings 6 true [1],
          .updateDeviceSettings 6 false [1, 1]] 6 (.v4 (Net.ipv4 10 0 0 6)) =
        some (⟨.block, false⟩, ⟨.pass, true⟩) ∧ householdVerdicts [.updateDeviceSettings 6 true [1],
          .updateDeviceSettings 8 true [2]] 9 (.v4 (Net.ipv4 10 0 0 6)) =
        some (⟨.pass, false⟩, ⟨.block, false⟩) := by
  decide +kernel

end Wardnet.Filter
