import Wardnet.Common.Dns
import Wardnet.Core.HashMap
import Wardnet.Core.Table
import Wardnet.Core.Transition

/-!
# The published view of the routing profiles

A mutation writes to the repository and then compiles a new view from two reads
and stores it.  Nothing orders these refreshes, so one that has read before
another's write may store after it.  The view is current again once all calls
have returned if no write falls between the first read of another call and its
store.
-/

namespace Wardnet.Profiles

open HashMap Transition

inductive DomainRoutingTarget
  | tunnel (tunnelId : Uuid)
  | direct
  deriving DecidableEq

structure RoutingProfile where
  id : Uuid
  name : Text
  deriving DecidableEq

structure DomainRoutingRule where
  id : Uuid
  profileId : Uuid
  pattern : Text
  target : DomainRoutingTarget
  enabled : Bool
  deriving DecidableEq

/-- The tables, with the profiles of each device that has any in their order. -/
structure Repository where
  profiles : List RoutingProfile
  rules : List DomainRoutingRule
  assignments : List (Uuid × List Uuid)
  deriving DecidableEq

/-- A mutation whose checks on its arguments have passed. -/
inductive Mutation
  | createProfile (profile : RoutingProfile)
  | renameProfile (id : Uuid) (name : Text)
  | deleteProfile (id : Uuid)
  | createRule (rule : DomainRoutingRule)
  | updateRule (id : Uuid) (pattern : Option Text) (target : Option DomainRoutingTarget)
    (enabled : Option Bool)
  | deleteRule (id : Uuid)
  | setDeviceProfiles (device : Uuid) (profileIds : List Uuid)
  deriving DecidableEq

/-- What the mutation writes, or nothing when a row is missing or a constraint
of the tables is violated. -/
def Repository.write (repo : Repository) : Mutation → Option Repository
  | .createProfile profile =>
    if ∃ old ∈ repo.profiles, old.id = profile.id ∨ old.name = profile.name then none
    else some { repo with profiles := repo.profiles ++ [profile] }
  | .renameProfile id name => do
    let _ ← Table.find RoutingProfile.id repo.profiles id
    if ∃ old ∈ repo.profiles, old.id ≠ id ∧ old.name = name then none
    else some { repo with
      profiles := Table.update RoutingProfile.id repo.profiles id ({ · with name := name }) }
  | .deleteProfile id => do
    let _ ← Table.find RoutingProfile.id repo.profiles id
    let left := repo.assignments.map fun (device, ids) => (device, ids.filter (· ≠ id))
    some {
      profiles := Table.delete RoutingProfile.id repo.profiles id
      rules := Table.delete DomainRoutingRule.profileId repo.rules id
      assignments := left.filter (·.2 ≠ []) }
  | .createRule rule => do
    let _ ← Table.find RoutingProfile.id repo.profiles rule.profileId
    if ∃ old ∈ repo.rules, old.id = rule.id ∨
        old.profileId = rule.profileId ∧ old.pattern = rule.pattern then none
    else some { repo with rules := repo.rules ++ [rule] }
  | .updateRule id pattern target enabled => do
    let old ← Table.find DomainRoutingRule.id repo.rules id
    let rule := { old with
      pattern := pattern.getD old.pattern
      target := target.getD old.target
      enabled := enabled.getD old.enabled }
    if ∃ other ∈ repo.rules, other.id ≠ id ∧
        other.profileId = rule.profileId ∧ other.pattern = rule.pattern then none
    else some { repo with
      rules := Table.update DomainRoutingRule.id repo.rules id fun _ => rule }
  | .deleteRule id => do
    let _ ← Table.find DomainRoutingRule.id repo.rules id
    some { repo with rules := Table.delete DomainRoutingRule.id repo.rules id }
  | .setDeviceProfiles device profileIds =>
    if profileIds.Nodup ∧ ∀ id ∈ profileIds, ∃ profile ∈ repo.profiles, profile.id = id then
      let others := Table.delete Prod.fst repo.assignments device
      some { repo with
        assignments := if profileIds = [] then others else others ++ [(device, profileIds)] }
    else none

structure CompiledRule where
  pattern : Text
  target : DomainRoutingTarget
  deriving DecidableEq

/-- The enabled rules of each profile of a device, in the order of priority. -/
abbrev DeviceRoutingContext := List (List CompiledRule)

abbrev RoutingView := HashMap Uuid DeviceRoutingContext

/-- The view `refresh_view` compiles from what it has read. -/
def compile (assignments : List (Uuid × List Uuid)) (rules : List DomainRoutingRule) :
    RoutingView :=
  let byProfile (id : Uuid) : List CompiledRule :=
    (rules.filter fun rule => rule.enabled && rule.profileId == id).map fun rule =>
      ⟨rule.pattern, rule.target⟩
  assignments.foldl (fun view (device, ids) => view.insert device (ids.map byProfile)) .empty

/-- How far a call has come: about to write, about to read the assignments, about
to read the rules, about to store. -/
inductive Phase
  | write (mutation : Mutation)
  | readAssignments
  | readRules (assignments : List (Uuid × List Uuid))
  | store (assignments : List (Uuid × List Uuid)) (rules : List DomainRoutingRule)
  deriving DecidableEq

def Phase.isWrite : Phase → Bool
  | .write _ => true
  | _ => false

/-- The call is between its first read and its store. -/
def Phase.hasRead : Phase → Bool
  | .readRules _ | .store .. => true
  | _ => false

structure Service where
  repo : Repository
  view : RoutingView
  calls : HashMap ℕ Phase
  deriving DecidableEq

/-- The service after the refresh at start-up. -/
def Service.new (repo : Repository) : Service :=
  ⟨repo, compile repo.assignments repo.rules, .empty⟩

inductive Label
  | start (call : ℕ) (mutation : Mutation)
  | step (call : ℕ)

def Label.call : Label → ℕ
  | .start call _ | .step call => call

/-- A call that is rejected returns without a refresh. -/
def next (service : Service) : Label → Option Service
  | .start call mutation =>
    if (service.calls.get call).isSome then none
    else some { service with calls := service.calls.insert call (.write mutation) }
  | .step call => do
    match ← service.calls.get call with
    | .write mutation =>
      match service.repo.write mutation with
      | none => some { service with calls := service.calls.remove call }
      | some repo => some { service with
          repo := repo
          calls := service.calls.insert call .readAssignments }
    | .readAssignments =>
      some { service with
        calls := service.calls.insert call (.readRules service.repo.assignments) }
    | .readRules assignments =>
      some { service with
        calls := service.calls.insert call (.store assignments service.repo.rules) }
    | .store assignments rules =>
      some { service with
        view := compile assignments rules
        calls := service.calls.remove call }

/-- No write falls between another call's first read and its store. -/
def Apart (service : Service) (label : Label) : Prop :=
  (∃ phase ∈ service.calls.get label.call, phase.isWrite) →
    ∀ entry ∈ service.calls.toList, entry.2.hasRead = false
  deriving Decidable

/-- What the call has read is what the repository has. -/
def Phase.Current (repo : Repository) : Phase → Prop
  | .write _ | .readAssignments => True
  | .readRules assignments => assignments = repo.assignments
  | .store assignments rules => assignments = repo.assignments ∧ rules = repo.rules

/-- The view is current, or a call that has written will still store. -/
structure Service.Coherent (service : Service) : Prop where
  current : ∀ call phase, service.calls.get call = some phase → phase.Current service.repo
  view : service.view = compile service.repo.assignments service.repo.rules ∨
    ∃ call phase, service.calls.get call = some phase ∧ phase.isWrite = false

variable {service after : Service} {call : ℕ} {phase : Phase} {label : Label}

theorem Service.Coherent.insert (hcoherent : service.Coherent)
    (hcurrent : phase.Current service.repo)
    (hwaits : phase.isWrite = false ∨ service.calls.get call = none) :
    Service.Coherent { service with calls := service.calls.insert call phase } where
  current other found hfound := by
    rcases get_insert_eq_some.mp hfound with ⟨-, rfl⟩ | ⟨-, hfound⟩
    · exact hcurrent
    · exact hcoherent.current other found hfound
  view := by
    refine hcoherent.view.imp_right ?_
    rintro ⟨other, found, hfound, hwritten⟩
    by_cases hother : other = call
    · rcases hwaits with hwaits | hwaits
      · exact ⟨call, phase, by simp, hwaits⟩
      · cases (hother ▸ hfound).symm.trans hwaits
    · exact ⟨other, found, by simpa [hother] using hfound, hwritten⟩

theorem Service.Coherent.step (hcoherent : service.Coherent) (hapart : Apart service label)
    (hnext : next service label = some after) : after.Coherent := by
  cases label with
  | start call mutation =>
    simp only [next] at hnext
    split at hnext
    · cases hnext
    next hfresh =>
      cases hnext
      exact hcoherent.insert trivial (.inr (by simpa using hfresh))
  | step call =>
    obtain ⟨phase, hphase, hnext⟩ := Option.bind_eq_some_iff.mp hnext
    cases phase with
    | write mutation =>
      have hunread : ∀ other found, service.calls.get other = some found → found.hasRead = false :=
        fun other found hfound =>
          hapart ⟨_, hphase, rfl⟩ (other, found) (mem_toList.mpr hfound)
      simp only at hnext
      split at hnext
      · cases hnext
        refine ⟨fun other found hfound => hcoherent.current other found ?_,
          hcoherent.view.imp_right ?_⟩
        · exact (get_remove_eq_some.mp hfound).2
        · rintro ⟨other, found, hfound, hwritten⟩
          refine ⟨other, found, get_remove_eq_some.mpr ⟨?_, hfound⟩, hwritten⟩
          rintro rfl
          cases hphase.symm.trans hfound
          cases hwritten
      · cases hnext
        refine ⟨fun other found hfound => ?_, .inr ⟨call, .readAssignments, by simp, rfl⟩⟩
        rcases get_insert_eq_some.mp hfound with ⟨-, rfl⟩ | ⟨-, hfound⟩
        · trivial
        · have hread := hunread other found hfound
          cases found with
          | write | readAssignments => trivial
          | readRules | store => cases hread
    | readAssignments =>
      cases hnext
      exact hcoherent.insert rfl (.inl rfl)
    | readRules assignments =>
      cases hnext
      exact hcoherent.insert ⟨hcoherent.current call _ hphase, rfl⟩ (.inl rfl)
    | store assignments rules =>
      cases hnext
      obtain ⟨rfl, rfl⟩ := hcoherent.current call _ hphase
      refine ⟨fun other found hfound => hcoherent.current other found ?_, .inl rfl⟩
      exact (get_remove_eq_some.mp hfound).2

/-- Once every call has returned, the view is the one of the repository. -/
theorem view_is_current {repo : Repository} {labels : List Label}
    (hrun : run next (.new repo) labels = some service)
    (hapart : Meets next Apart (.new repo) labels) (hreturned : service.calls = .empty) :
    service.view = compile service.repo.assignments service.repo.rules := by
  have hstart : (Service.new repo).Coherent := ⟨by simp [Service.new], .inl rfl⟩
  have hcoherent := run_invariant_of_meets (fun _ _ _ => Service.Coherent.step) hstart hapart hrun
  rcases hcoherent.view with hview | ⟨call, phase, hphase, -⟩
  · exact hview
  · simp [hreturned] at hphase

def sample : Repository :=
  ⟨[⟨1, []⟩], [⟨2, 1, "a".toList, .direct, true⟩], [(3, [1])]⟩

def oneByOne : List Label :=
  [.start 0 (.deleteRule 2), .step 0, .step 0, .step 0, .step 0, .start 1 (.deleteProfile 1),
    .step 1, .step 1, .step 1, .step 1]

theorem view_is_current_oneByOne :
    ∃ service, run next (.new sample) oneByOne = some service ∧ service.repo ≠ sample ∧
      service.view = compile service.repo.assignments service.repo.rules := by
  have hapart : Meets next Apart (.new sample) oneByOne := by decide
  refine ⟨_, rfl, by decide, view_is_current ?_ hapart ?_⟩
  · rfl
  · rfl

/-- A call that has read the rule stores after another that deletes it. -/
theorem stale_view_stays :
    ∃ service, run next (.new sample) [.start 0 (.renameProfile 1 "b".toList), .step 0, .step 0,
        .step 0, .start 1 (.deleteRule 2), .step 1, .step 1, .step 1, .step 1, .step 0] =
        some service ∧
      service.calls = .empty ∧ service.view ≠ compile service.repo.assignments service.repo.rules :=
  ⟨_, rfl, by decide, by decide⟩

end Wardnet.Profiles
