import Mathlib.Data.List.Destutter
import Wardnet.Common.Error
import Wardnet.Core.Transition
import Wardnet.DnsFilter.Rebuild

/-!
# Changing the filters

The admin operations of the filter service, the events they publish, and the
runner that rebuilds what an event names.  An operation that fails leaves the
tables as they are, except that `updateDeviceSettings` writes in two
transactions.  New identifiers are inputs.
-/

namespace Wardnet.Filter

open Net (IpAddr)

inductive DnsFilterChange
  | profileContent (profileId : Uuid)
  | profileMembership (profileId : Uuid)
  | deviceAssignment (deviceId : Uuid)
  | defaultProfile
  | globalToggle
  deriving DecidableEq

/-! ## Validation -/

def validateDomain (domain : Text) : Except AppError Unit := do
  ensure (domain ≠ []) (.badRequest "domain must not be empty")
  ensure (domain.len ≤ 253) (.badRequest "domain must be <= 253 characters")
  ensure ('.' ∈ domain) (.badRequest "domain must contain at least one '.'")
  ensure (domain.all fun char => char.isAlphanum || char == '.' || char == '-' || char == '_')
    (.badRequest ("domain contains invalid characters " ++
      "(allowed: alphanumeric, '.', '-', '_')"))

def validateUrl (url : Text) : Except AppError Unit :=
  ensure (url.startsWith "http://".toList ∨ url.startsWith "https://".toList)
    (.badRequest "URL must start with http:// or https://")

def validateCron (parsers : Parsers) (schedule : Text) : Except AppError Unit :=
  match parsers.parseSchedule schedule with
  | .ok _ => .ok ()
  | .error error => .error (.badRequest s!"Invalid cron expression: {error}")

def validateRuleText (parsers : Parsers) (ruleText : Text) : Except AppError Unit :=
  match parsers.parseLine ruleText with
  | .error error => .error (.badRequest s!"Invalid filter rule: {error}")
  | .ok none => .error (.badRequest "Rule parses as a comment or blank line")
  | .ok (some _) => .ok ()

/-- Run a validator on a field that the request may leave out. -/
def validateField (validate : Text → Except AppError Unit)
    (field : Option Text) : Except AppError Unit :=
  match field with
  | some text => validate text
  | none => .ok ()

def validateName (name : Text) : Except AppError Unit :=
  ensure (name.trim ≠ []) (.badRequest "name must not be empty")

def validateDescription (description : Text) : Except AppError Unit :=
  ensure (description.len ≤ 200) (.badRequest "description must not exceed 200 characters")

def ensureProfileExists (tables : Tables) (profileId : Uuid) : Except AppError DnsFilterProfile :=
  require (tables.getProfile profileId) (.notFound s!"profile {profileId} not found")

def ensureBlocklistInProfile (tables : Tables) (profileId id : Uuid) :
    Except AppError Blocklist := do
  let blocklist ← require (tables.getBlocklist id) (.notFound s!"blocklist {id} not found")
  ensure (blocklist.profileId = profileId)
    (.notFound s!"blocklist {id} not found in profile {profileId}")
  return blocklist

def ensureRuleInProfile (tables : Tables) (profileId id : Uuid) :
    Except AppError CustomFilterRule := do
  let rule ← require (tables.getCustomRule id) (.notFound s!"rule {id} not found")
  ensure (rule.profileId = profileId) (.notFound s!"rule {id} not found in profile {profileId}")
  return rule

/-! ## Operations -/

/-- The tables after an operation and the events it publishes. -/
abbrev Outcome := Except AppError (Tables × List DnsFilterChange)

def createProfile (tables : Tables) (id : Uuid) (name : Text)
    (description : Option Text) : Outcome := do
  validateName name
  validateField validateDescription description
  let tables ← require (tables.createProfile id name description) .internal
  return (tables, [.profileMembership id])

def updateProfile (tables : Tables) (id : Uuid) (name : Option Text)
    (description : Option (Option Text)) : Outcome := do
  let existing ← ensureProfileExists tables id
  ensure (existing.builtin = false) (.conflict "builtin profiles cannot be modified")
  validateField validateName name
  validateField validateDescription description.join
  let tables ← require (tables.updateProfileFields id name description) .internal
  return (tables, [.profileMembership id])

def deleteProfile (tables : Tables) (id : Uuid) : Outcome := do
  let existing ← ensureProfileExists tables id
  ensure (existing.builtin = false) (.conflict "builtin profiles cannot be deleted")
  let deleted := tables.deleteProfile id
  ensure deleted.2 (.notFound s!"profile {id} not found")
  return (deleted.1, [.profileMembership id])

structure CreateBlocklistRequest where
  name : Text
  url : Text
  cronSchedule : Text
  enabled : Bool

def createBlocklist (parsers : Parsers) (tables : Tables)
    (id profileId : Uuid) (request : CreateBlocklistRequest) : Outcome := do
  let _ ← ensureProfileExists tables profileId
  validateUrl request.url
  validateCron parsers request.cronSchedule
  let tables ← require (tables.createBlocklist
    ⟨id, profileId, request.name, request.url, request.enabled, request.cronSchedule, []⟩) .internal
  return (tables, [.profileContent profileId])

def updateBlocklist (parsers : Parsers) (tables : Tables)
    (profileId id : Uuid) (request : Tables.BlocklistUpdate) : Outcome := do
  let _ ← ensureBlocklistInProfile tables profileId id
  validateField validateUrl request.url
  validateField (validateCron parsers) request.cronSchedule
  let tables ← require (tables.updateBlocklist id request) .internal
  return (tables, [.profileContent profileId])

def deleteBlocklist (tables : Tables) (profileId id : Uuid) : Outcome := do
  let _ ← ensureBlocklistInProfile tables profileId id
  let deleted := tables.deleteBlocklist id
  ensure deleted.2 (.notFound s!"blocklist {id} not found")
  return (deleted.1, [.profileContent profileId])

def createAllowlistEntry (tables : Tables) (id profileId : Uuid)
    (domain : Text) (reason : Option Text) : Outcome := do
  let _ ← ensureProfileExists tables profileId
  validateDomain domain
  let tables ← require (tables.createAllowlistEntry ⟨id, profileId, domain, reason⟩) .internal
  return (tables, [.profileContent profileId])

/-- `delete_allowlist_entry`: only the profile is checked, not that the entry
belongs to it. -/
def deleteAllowlistEntry (tables : Tables) (profileId id : Uuid) :
    Outcome := do
  let _ ← ensureProfileExists tables profileId
  let deleted := tables.deleteAllowlistEntry id
  ensure deleted.2 (.notFound s!"allowlist entry {id} not found")
  return (deleted.1, [.profileContent profileId])

def createCustomRule (parsers : Parsers) (tables : Tables)
    (id profileId : Uuid) (ruleText : Text) (enabled : Bool) (comment : Option Text) : Outcome := do
  let _ ← ensureProfileExists tables profileId
  validateRuleText parsers ruleText
  let tables ← require (tables.createCustomRule
    ⟨id, profileId, ruleText, enabled, comment⟩) .internal
  return (tables, [.profileContent profileId])

def updateCustomRule (parsers : Parsers) (tables : Tables)
    (profileId id : Uuid) (request : Tables.CustomRuleUpdate) :
    Outcome := do
  let _ ← ensureRuleInProfile tables profileId id
  validateField (validateRuleText parsers) request.ruleText
  return (tables.updateCustomRule id request, [.profileContent profileId])

def deleteCustomRule (tables : Tables) (profileId id : Uuid) :
    Outcome := do
  let _ ← ensureRuleInProfile tables profileId id
  let deleted := tables.deleteCustomRule id
  ensure deleted.2 (.notFound s!"rule {id} not found")
  return (deleted.1, [.profileContent profileId])

/-- The tables after an operation, changed or not, and what it published. -/
def commit (tables : Tables) : Outcome → Tables × Except AppError (List DnsFilterChange)
  | .ok (after, changes) => (after, .ok changes)
  | .error error => (tables, .error error)

/-- `update_device_settings`: the kill switch is stored before the profiles,
and stays stored when those cannot be. -/
def updateDeviceSettings (tables : Tables) (deviceId : Uuid) (enabled : Bool)
    (profileIds : List Uuid) : Tables × Except AppError (List DnsFilterChange) :=
  match (do
    profileIds.forM fun profileId => do
      let _ ← ensureProfileExists tables profileId
    require (tables.upsertDeviceSettings deviceId enabled) .internal : Except AppError Tables) with
  | .error error => (tables, .error error)
  | .ok upserted => commit upserted do
      let assigned ← require (upserted.setDeviceProfiles deviceId profileIds) .internal
      return (assigned, [.deviceAssignment deviceId])

/-- `Vec::sort` and `Vec::dedup`. -/
def sortDedup (ids : List Uuid) : List Uuid := (ids.insertionSort (· ≤ ·)).destutter (· ≠ ·)

def updateFilterConfig (tables : Tables) (enabled : Option Bool)
    (defaultProfileIds : Option (List Uuid)) : Outcome := do
  let current := tables.config
  let ids := defaultProfileIds.map sortDedup
  (ids.getD []).forM fun profileId => do
    let _ ← ensureProfileExists tables profileId
  let changedGlobal := enabled.any fun enabled => current.enabled ≠ enabled
  let changedDefault := ids.any fun ids => current.defaultProfileIds.insertionSort (· ≤ ·) ≠ ids
  let tables ← require (tables.setDnsFilterConfig
    ⟨enabled.getD current.enabled, ids.getD current.defaultProfileIds⟩)
    .internal
  return (tables, (if changedDefault then [.defaultProfile] else []) ++
      if changedGlobal then [.globalToggle] else [])

/-! ## Mutations and the runner -/

inductive Mutation
  | createProfile (id : Uuid) (name : Text) (description : Option Text)
  | updateProfile (id : Uuid) (name : Option Text) (description : Option (Option Text))
  | deleteProfile (id : Uuid)
  | createBlocklist (id profileId : Uuid) (request : CreateBlocklistRequest)
  | updateBlocklist (profileId id : Uuid) (request : Tables.BlocklistUpdate)
  | deleteBlocklist (profileId id : Uuid)
  | createAllowlistEntry (id profileId : Uuid) (domain : Text) (reason : Option Text)
  | deleteAllowlistEntry (profileId id : Uuid)
  | createCustomRule (id profileId : Uuid) (ruleText : Text) (enabled : Bool)
      (comment : Option Text)
  | updateCustomRule (profileId id : Uuid) (request : Tables.CustomRuleUpdate)
  | deleteCustomRule (profileId id : Uuid)
  | updateDeviceSettings (deviceId : Uuid) (enabled : Bool) (profileIds : List Uuid)
  | updateFilterConfig (enabled : Option Bool) (defaultProfileIds : Option (List Uuid))

/-- The tables after a mutation and the events it published. -/
def mutate (parsers : Parsers) (tables : Tables) :
    Mutation → Tables × Except AppError (List DnsFilterChange)
  | .createProfile id name description => commit tables (createProfile tables id name description)
  | .updateProfile id name description => commit tables (updateProfile tables id name description)
  | .deleteProfile id => commit tables (deleteProfile tables id)
  | .createBlocklist id profileId request =>
    commit tables (createBlocklist parsers tables id profileId request)
  | .updateBlocklist profileId id request =>
    commit tables (updateBlocklist parsers tables profileId id request)
  | .deleteBlocklist profileId id => commit tables (deleteBlocklist tables profileId id)
  | .createAllowlistEntry id profileId domain reason =>
    commit tables (createAllowlistEntry tables id profileId domain reason)
  | .deleteAllowlistEntry profileId id => commit tables (deleteAllowlistEntry tables profileId id)
  | .createCustomRule id profileId ruleText enabled comment =>
    commit tables (createCustomRule parsers tables id profileId ruleText enabled comment)
  | .updateCustomRule profileId id request =>
    commit tables (updateCustomRule parsers tables profileId id request)
  | .deleteCustomRule profileId id => commit tables (deleteCustomRule tables profileId id)
  | .updateDeviceSettings deviceId enabled profileIds =>
    updateDeviceSettings tables deviceId enabled profileIds
  | .updateFilterConfig enabled defaultProfileIds =>
    commit tables (updateFilterConfig tables enabled defaultProfileIds)

/-- `update_filter_config` stores the configuration it has written without
waiting for the runner; no other operation touches the runtime state. -/
def storeConfig (tables : Tables) (state : State) : Mutation → State
  | .updateFilterConfig .. => { state with config := tables.config }
  | _ => state

def handleFilterChange (parsers : Parsers) (tables : Tables) (state : State) :
    DnsFilterChange → State
  | .profileContent profileId | .profileMembership profileId =>
    rebuildProfile parsers tables state profileId
  | .deviceAssignment deviceId => rebuildDeviceInner parsers tables state deviceId
  | .defaultProfile | .globalToggle => rebuildDefaultContext tables state

/-! ## What a successful operation has done -/

/-- What a mutation of one profile writes and publishes when it succeeds. -/
def Mutation.Wrote (tables after : Tables) (changes : List DnsFilterChange) : Mutation → Prop
  | .createProfile id name description =>
    tables.createProfile id name description = some after ∧ changes = [.profileMembership id]
  | .updateProfile id name description =>
    tables.updateProfileFields id name description = some after ∧ changes = [.profileMembership id]
  | .deleteProfile id =>
    (tables.getProfile id).any (fun profile => profile.builtin = false) ∧
      tables.withoutProfile id = after ∧ changes = [.profileMembership id]
  | .createBlocklist id profileId request =>
    tables.createBlocklist ⟨id, profileId, request.name, request.url, request.enabled,
      request.cronSchedule, []⟩ = some after ∧ changes = [.profileContent profileId]
  | .updateBlocklist profileId id request =>
    (∃ blocklist, tables.getBlocklist id = some blocklist ∧ blocklist.profileId = profileId) ∧
      tables.updateBlocklist id request = some after ∧ changes = [.profileContent profileId]
  | .deleteBlocklist profileId id =>
    (∃ blocklist, tables.getBlocklist id = some blocklist ∧ blocklist.profileId = profileId) ∧
      (tables.deleteBlocklist id).1 = after ∧ changes = [.profileContent profileId]
  | .createAllowlistEntry id profileId domain reason =>
    tables.createAllowlistEntry ⟨id, profileId, domain, reason⟩ = some after ∧
      changes = [.profileContent profileId]
  | .deleteAllowlistEntry profileId id =>
    (tables.getProfile profileId).isSome ∧ (tables.deleteAllowlistEntry id).1 = after ∧
      changes = [.profileContent profileId]
  | .createCustomRule id profileId ruleText enabled comment =>
    tables.createCustomRule ⟨id, profileId, ruleText, enabled, comment⟩ = some after ∧
      changes = [.profileContent profileId]
  | .updateCustomRule profileId id request =>
    (∃ rule, tables.getCustomRule id = some rule ∧ rule.profileId = profileId) ∧
      tables.updateCustomRule id request = after ∧ changes = [.profileContent profileId]
  | .deleteCustomRule profileId id =>
    (∃ rule, tables.getCustomRule id = some rule ∧ rule.profileId = profileId) ∧
      (tables.deleteCustomRule id).1 = after ∧ changes = [.profileContent profileId]
  | .updateDeviceSettings .. | .updateFilterConfig .. => True

section Succeeded

variable {tables after : Tables} {changes : List DnsFilterChange}

theorem commit_eq_ok {outcome : Outcome} :
    commit tables outcome = (after, .ok changes) ↔ outcome = .ok (after, changes) := by
  rcases outcome with error | ⟨written, published⟩ <;> simp [commit]

theorem mutate_wrote (parsers : Parsers) (tables : Tables) (mutation : Mutation)
    (after : Tables) (changes : List DnsFilterChange)
    (hok : mutate parsers tables mutation = (after, .ok changes)) :
    mutation.Wrote tables after changes := by
  cases mutation <;>
    simp only [mutate, commit_eq_ok, createProfile, updateProfile, deleteProfile, createBlocklist,
      updateBlocklist, deleteBlocklist, ensureBlocklistInProfile, createAllowlistEntry,
      deleteAllowlistEntry, createCustomRule, updateCustomRule, deleteCustomRule,
      ensureRuleInProfile, bind_eq_ok, require_eq_ok, ensure_eq_ok, pure_eq_ok,
      Prod.mk.injEq] at hok
  case createProfile =>
    obtain ⟨-, -, -, -, created, hcreated, rfl, rfl⟩ := hok
    exact ⟨hcreated, rfl⟩
  case updateProfile =>
    obtain ⟨-, -, -, -, -, -, -, -, updated, hupdated, rfl, rfl⟩ := hok
    exact ⟨hupdated, rfl⟩
  case deleteProfile =>
    obtain ⟨existing, hexisting, -, hbuiltin, -, hdeleted, rfl, rfl⟩ := hok
    rw [ensureProfileExists, require_eq_ok] at hexisting
    refine ⟨by simpa [hexisting] using hbuiltin, ?_, rfl⟩
    unfold Tables.deleteProfile at hdeleted ⊢
    split at hdeleted
    · rw [if_pos ‹_›]
    · cases hdeleted
  case createBlocklist =>
    obtain ⟨-, -, -, -, -, -, created, hcreated, rfl, rfl⟩ := hok
    exact ⟨hcreated, rfl⟩
  case updateBlocklist =>
    obtain ⟨_, ⟨blocklist, hfound, -, hprofile, -⟩, -, -, -, -, updated, hupdated, rfl, rfl⟩ := hok
    exact ⟨⟨blocklist, hfound, hprofile⟩, hupdated, rfl⟩
  case deleteBlocklist =>
    obtain ⟨_, ⟨blocklist, hfound, -, hprofile, -⟩, -, -, rfl, rfl⟩ := hok
    exact ⟨⟨blocklist, hfound, hprofile⟩, rfl, rfl⟩
  case createAllowlistEntry =>
    obtain ⟨-, -, -, -, created, hcreated, rfl, rfl⟩ := hok
    exact ⟨hcreated, rfl⟩
  case deleteAllowlistEntry =>
    obtain ⟨existing, hexisting, -, -, rfl, rfl⟩ := hok
    rw [ensureProfileExists, require_eq_ok] at hexisting
    exact ⟨by simp [hexisting], rfl, rfl⟩
  case createCustomRule =>
    obtain ⟨-, -, -, -, created, hcreated, rfl, rfl⟩ := hok
    exact ⟨hcreated, rfl⟩
  case updateCustomRule =>
    obtain ⟨_, ⟨rule, hfound, -, hprofile, -⟩, -, -, rfl, rfl⟩ := hok
    exact ⟨⟨rule, hfound, hprofile⟩, rfl, rfl⟩
  case deleteCustomRule =>
    obtain ⟨_, ⟨rule, hfound, -, hprofile, -⟩, -, -, rfl, rfl⟩ := hok
    exact ⟨⟨rule, hfound, hprofile⟩, rfl, rfl⟩
  all_goals trivial

/-- Without an event the default profiles are the ones stored before. -/
theorem updateFilterConfig_ok {enabled : Option Bool} {defaultProfileIds : Option (List Uuid)}
    (hsorted : tables.config.defaultProfileIds.Pairwise (· ≤ ·))
    (hok : updateFilterConfig tables enabled defaultProfileIds = .ok (after, changes)) :
    (∃ config, tables.setDnsFilterConfig config = some after ∧
      config.defaultProfileIds.Pairwise (· ≤ ·) ∧ (.defaultProfile ∈ changes ∨
        config.defaultProfileIds = tables.config.defaultProfileIds)) ∧
      ∀ change ∈ changes, change = .defaultProfile ∨ change = .globalToggle := by
  simp only [updateFilterConfig, bind_eq_ok, require_eq_ok, pure_eq_ok, Prod.mk.injEq] at hok
  obtain ⟨-, -, stored, hstored, rfl, rfl⟩ := hok
  refine ⟨⟨_, hstored, ?_⟩, ?_⟩
  · cases defaultProfileIds with
    | none => exact ⟨hsorted, .inr rfl⟩
    | some ids =>
      simp only [Option.map_some, Option.getD_some, Option.any_some, hsorted.insertionSort_eq]
      refine ⟨(List.pairwise_insertionSort (· ≤ ·) ids).sublist (List.destutter_sublist _ _), ?_⟩
      by_cases hsame : tables.config.defaultProfileIds = sortDedup ids
      · exact .inr hsame.symm
      · simp [hsame]
  · intro change hchange
    rcases List.mem_append.mp hchange with hmem | hmem <;> split at hmem <;> simp_all

/-- The profiles are checked before anything is stored, so that the second
transaction fails only for a profile listed twice. -/
theorem updateDeviceSettings_cases (tables : Tables) (deviceId : Uuid)
    (enabled : Bool) (profileIds : List Uuid) :
    (∃ error, updateDeviceSettings tables deviceId enabled profileIds = (tables, .error error)) ∨
      ∃ upserted, tables.upsertDeviceSettings deviceId enabled = some upserted ∧
        (∀ profileId ∈ profileIds, (tables.getProfile profileId).isSome) ∧
        ((∃ assigned, upserted.setDeviceProfiles deviceId profileIds = some assigned ∧
          updateDeviceSettings tables deviceId enabled profileIds =
            (assigned, .ok [.deviceAssignment deviceId])) ∨ (¬ profileIds.Nodup ∧
          updateDeviceSettings tables deviceId enabled profileIds =
            (upserted, .error .internal))) := by
  unfold updateDeviceSettings
  split
  next error _ =>
    exact .inl ⟨error, rfl⟩
  next upserted hok =>
    rw [bind_eq_ok] at hok
    obtain ⟨_, hchecked, hupserted⟩ := hok
    rw [require_eq_ok] at hupserted
    have hprofiles : ∀ profileId ∈ profileIds, (tables.getProfile profileId).isSome := by
      intro profileId hmem
      have hexists := forM_eq_ok.mp hchecked profileId hmem
      rw [bind_eq_ok] at hexists
      obtain ⟨profile, hfound, -⟩ := hexists
      exact Option.isSome_iff_exists.mpr ⟨profile, require_eq_ok.mp hfound⟩
    refine .inr ⟨upserted, hupserted, hprofiles, ?_⟩
    cases hset : upserted.setDeviceProfiles deviceId profileIds with
    | some assigned => exact .inl ⟨assigned, rfl, rfl⟩
    | none =>
      refine .inr ⟨fun hnodup => ?_, rfl⟩
      simp only [Tables.upsertDeviceSettings, Option.ite_none_right_eq_some] at hupserted
      obtain ⟨hdevice, hstored⟩ := hupserted
      cases hstored
      rw [Tables.setDeviceProfiles, if_pos ⟨hdevice, hnodup, hprofiles⟩] at hset
      cases hset

end Succeeded

theorem commit_wellFormed {tables : Tables} {outcome : Outcome} (hwell : tables.WellFormed)
    (hok : ∀ after changes, outcome = .ok (after, changes) →
      after.WellFormed) : (commit tables outcome).1.WellFormed := by
  cases outcome with
  | error error => exact hwell
  | ok result => exact hok result.1 result.2 rfl

/-- Every mutation keeps the constraints of the schema. -/
theorem wellFormed_mutate (parsers : Parsers) {tables : Tables}
    (hwell : tables.WellFormed) (mutation : Mutation) :
    (mutate parsers tables mutation).1.WellFormed := by
  have hwrote := mutate_wrote parsers tables mutation
  cases mutation
  case updateDeviceSettings deviceId enabled profileIds =>
    simp only [mutate]
    rcases updateDeviceSettings_cases tables deviceId enabled profileIds
      with ⟨error, hresult⟩ | ⟨upserted, hupsert, -, ⟨assigned, hassigned, hresult⟩ |
        ⟨-, hresult⟩⟩ <;>
      rw [hresult]
    · exact hwell
    · exact (hwell.upsertDeviceSettings hupsert).setDeviceProfiles hassigned
    · exact hwell.upsertDeviceSettings hupsert
  all_goals refine commit_wellFormed hwell fun after changes hok => ?_
  case updateFilterConfig =>
    obtain ⟨⟨config, hset, hsorted, -⟩, -⟩ := updateFilterConfig_ok hwell.defaultIdsSorted hok
    simp only [Tables.setDnsFilterConfig, Option.ite_none_right_eq_some] at hset
    cases hset.2
    exact { hwell with defaultIdsSorted := hsorted }
  all_goals replace hwrote := hwrote after changes (commit_eq_ok.mpr hok)
  case createProfile => exact hwell.createProfile hwrote.1
  case updateProfile => exact hwell.updateProfileFields hwrote.1
  case deleteProfile => exact hwrote.2.1 ▸ hwell.withoutProfile _
  case createBlocklist => exact hwell.createBlocklist hwrote.1
  case updateBlocklist => exact hwell.updateBlocklist hwrote.2.1
  case deleteBlocklist => exact hwrote.2.1 ▸ hwell.deleteBlocklist _
  case createAllowlistEntry => exact hwell.createAllowlistEntry hwrote.1
  case deleteAllowlistEntry => exact hwrote.2.1 ▸ hwell.deleteAllowlistEntry _
  case createCustomRule => exact hwell.createCustomRule hwrote.1
  case updateCustomRule => exact hwrote.2.1 ▸ hwell.updateCustomRule _ _
  case deleteCustomRule => exact hwrote.2.1 ▸ hwell.deleteCustomRule _

/-- The tables, under their constraints, and the runtime state. -/
structure World where
  tables : Tables
  service : State
  wellFormed : tables.WellFormed

/-- The identifier a mutation takes from `Uuid::new_v4`. -/
def Mutation.newId : Mutation → Option Uuid
  | .createProfile id .. | .createBlocklist id ..
  | .createAllowlistEntry id .. | .createCustomRule id .. => some id
  | _ => none

/-- The identifier occurs in the tables or in memory. -/
def World.mentions (world : World) (id : Uuid) : Bool :=
  (world.tables.profiles.any fun profile => profile.id = id) ||
    (world.tables.blocklists.any fun blocklist => blocklist.id = id ∨ blocklist.profileId = id) ||
    (world.tables.allowlist.any fun entry => entry.id = id ∨ entry.profileId = id) ||
    (world.tables.customRules.any fun rule => rule.id = id ∨ rule.profileId = id) ||
    (world.tables.deviceProfiles.any fun row => row.2 = id) ||
    decide (id ∈ world.tables.config.defaultProfileIds ∨
      id ∈ world.service.config.defaultProfileIds)

/-- The runtime state after the events of a mutation have been handled. -/
def handleChanges (parsers : Parsers) (tables : Tables) (state : State) (mutation : Mutation) :
    Except AppError (List DnsFilterChange) → State
  | .error _ => state
  | .ok changes => changes.foldl (handleFilterChange parsers tables)
      (storeConfig tables state mutation)

/-- A mutation and the runner's handling of the events it published.  A new
identifier is one that occurs nowhere yet. -/
def next (parsers : Parsers) (world : World) (mutation : Mutation) : Option World :=
  if mutation.newId.any world.mentions then none
  else
    let mutated := mutate parsers world.tables mutation
    some
      { tables := mutated.1
        service := handleChanges parsers mutated.1 world.service mutation mutated.2
        wellFormed := wellFormed_mutate parsers world.wellFormed mutation }

end Wardnet.Filter
