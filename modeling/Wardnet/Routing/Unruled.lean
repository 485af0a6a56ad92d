import Wardnet.Routing.Listener

/-!
# Devices without a rule

The default policy is documented as the routing of a device that has no rule
of its own.  Discovery and the startup reconcile apply nothing to such a
device, and `clear_rule` announces `Direct` for it, so it is routed directly
whatever the policy says; only devices with an explicit `Default` rule follow
the policy.
-/

namespace Wardnet.Routing

open Transition

structure Daemon where
  store : Store
  routing : State
  deriving DecidableEq

/-- A call or a change of the network, with the event it causes; the
environment answers the kernel calls made for each device. -/
inductive Step
  | setRule (device : Uuid) (target : RoutingTarget) (env : Uuid → Env)
  | clearRule (device : Uuid) (env : Uuid → Env)
  | deviceDiscovered (device : Uuid) (ip : Text) (env : Uuid → Env)
  | deviceIpChanged (device : Uuid) (ip : Text) (env : Uuid → Env)
  | deviceGone (device : Uuid)
  | setDefaultPolicy (policy : PolicyText) (env : Uuid → Env)
  | tunnelUp (tunnel : Uuid) (env : Uuid → Env)
  | tunnelDown (tunnel : Uuid)
  | reconcile (env : Uuid → Env)

/-- The database changes, and the listener handles the event. -/
def Daemon.publish (daemon : Daemon) (store : Store) (env : Uuid → Env) (event : Event) : Daemon :=
  ⟨store, handleEvent store env daemon.routing event⟩

/-- One step, its event handled.  `from_str` is how a text is read as a
JSON routing target; no call on an unknown device or with an invalid policy
gets through. -/
def Daemon.next (fromStr : Text → Option RoutingTarget) (daemon : Daemon) : Step → Option Daemon
  | .setRule device target env =>
    (daemon.store.findById device).map fun _ =>
      daemon.publish (daemon.store.setRule device (some target)) env
        (.routingRuleChanged device target)
  | .clearRule device env =>
    match daemon.store.ruleFor device with
    | none => some daemon
    | some _ =>
      some (daemon.publish (daemon.store.setRule device none) env
        (.routingRuleChanged device (clearedTarget fromStr daemon.store.policy)))
  | .deviceDiscovered device ip env =>
    some (daemon.publish (daemon.store.register device ip) env (.deviceDiscovered device ip))
  | .deviceIpChanged device ip env =>
    some (daemon.publish (daemon.store.setLastIp device ip) env (.deviceIpChanged device ip))
  | .deviceGone device =>
    some (daemon.publish (daemon.store.setLastIp device []) (fun _ =>
      healthyEnv) (.deviceGone device))
  | .setDefaultPolicy policy env =>
    if acceptsPolicy policy then
      some (daemon.publish { daemon.store with policy := policy } env
        (.defaultPolicyChanged policy))
    else none
  | .tunnelUp tunnel env => some (daemon.publish daemon.store env (.tunnelUp tunnel))
  | .tunnelDown tunnel =>
    some (daemon.publish daemon.store (fun _ => healthyEnv) (.tunnelDown tunnel))
  | .reconcile env => some ⟨daemon.store, Routing.reconcile daemon.store env daemon.routing⟩

/-- What a device is bound to: its applied entry, or direct without one. -/
def effective (state : State) (device : Uuid) : RoutingTarget :=
  ((state.applied.get device).map AppliedRule.target).getD .direct

/-- A daemon that has applied nothing yet, with a valid database. -/
def Daemon.start (store : Store) : Daemon where
  store := store
  routing := .new (policyTunnel store.policy)

/-- The database has its primary key and an accepted policy. -/
structure Store.Valid (store : Store) : Prop where
  ids : (store.devices.map StoredDevice.id).Nodup
  policy : acceptsPolicy store.policy = true

/-- Devices without a rule are routed directly. -/
structure UnruledDirect (daemon : Daemon) : Prop where
  valid : daemon.store.Valid
  direct : ∀ device, daemon.store.ruleFor device = none → effective daemon.routing device = .direct

variable {state : State} {device : Uuid} {store : Store} {env : Uuid → Env} {event : Event}

/-- An event that applies nothing but direct targets to a device leaves it
direct. -/
theorem effective_handleEvent (hids : (store.devices.map StoredDevice.id).Nodup)
    (hbefore : assigned store state device event = none → effective state device = .direct)
    (hassigned : ∀ ip target, assigned store state device event = some (ip, target) →
      resolveTarget (policyAfter store state event) target = .direct) :
    effective (handleEvent store env state event) device = .direct := by
  cases happlied : assigned store state device event with
  | none =>
    rcases handleEvent_of_unassigned hids happlied with hsame | hgone
    · rw [effective, hsame]
      exact hbefore happlied
    · rw [effective, hgone]
      rfl
  | some pair =>
    obtain ⟨ip, target⟩ := pair
    have hdirect := hassigned ip target happlied
    obtain ⟨rule, houtcome, hget⟩ := handleEvent_of_assigned hids happlied
    rw [effective, hget]
    cases houtcome with
    | kept rule hrule htarget hip => exact htarget.trans hdirect
    | bound tunnel table dnsUpstream hresolved =>
      rw [hdirect] at hresolved
      cases hresolved
    | direct => rfl

variable {daemon : Daemon}

/-- Handling an event keeps the devices without a rule direct, if no rule is
removed without the event saying so. -/
theorem UnruledDirect.publish (hdirect : UnruledDirect daemon) (hvalid : store.Valid)
    (hevent : ∀ device, store.ruleFor device = none →
      (daemon.store.ruleFor device = none ∧ ∀ target, event ≠ .routingRuleChanged device target) ∨
      ∃ ip, assigned store daemon.routing device event = some (ip, .direct)) :
    UnruledDirect (daemon.publish store env event) := by
  refine ⟨hvalid, ?_⟩
  intro device hunruled
  rcases hevent device hunruled with ⟨hbefore, hother⟩ | ⟨ip, hassigned⟩
  · have heffective := hdirect.direct device hbefore
    apply effective_handleEvent hvalid.ids fun _ => heffective
    intro ip target hassigned
    rcases assigned_source hassigned with heq | hrule | ⟨rule, hget, htarget⟩
    · exact absurd heq (hother target)
    · cases hunruled.symm.trans hrule
    · rw [effective, hget] at heffective
      rw [htarget.symm.trans heffective]
      rfl
  · apply effective_handleEvent hvalid.ids
    · intro hnone
      rw [hnone] at hassigned
      cases hassigned
    · intro found target hfound
      rw [hassigned] at hfound
      cases hfound
      rfl

/-- An event that announces no rule, after a write that removes none. -/
theorem UnruledDirect.publish_other (hdirect : UnruledDirect daemon) (hvalid : store.Valid)
    (hrules : ∀ device, store.ruleFor device = none → daemon.store.ruleFor device = none)
    (hother : ∀ device target, event ≠ .routingRuleChanged device target) :
    UnruledDirect (daemon.publish store env event) := by
  apply hdirect.publish hvalid
  intro device hunruled
  exact .inl ⟨hrules device hunruled, hother device⟩

theorem Store.Valid.setRule (hvalid : store.Valid)
    {rule : Option RoutingTarget} : (store.setRule device rule).Valid :=
  ⟨Table.nodup_update (fun _ => rfl) hvalid.ids, hvalid.policy⟩

theorem Store.Valid.setLastIp (hvalid : store.Valid) {ip : Text} :
    (store.setLastIp device ip).Valid :=
  ⟨nodup_setLastIp hvalid.ids, hvalid.policy⟩

theorem Store.Valid.register (hvalid : store.Valid) {ip : Text} :
    (store.register device ip).Valid := by
  refine ⟨nodup_register hvalid.ids, ?_⟩
  unfold Store.register
  split <;> exact hvalid.policy

theorem UnruledDirect.next {fromStr : Text → Option RoutingTarget}
    (hfromStr : ∀ raw target, fromStr raw = some target → looksLikeTarget raw = true)
    {after : Daemon} {step : Step} (hdirect : UnruledDirect daemon)
    (hnext : daemon.next fromStr step = some after) : UnruledDirect after := by
  have hvalid := hdirect.valid
  revert hnext
  fun_cases daemon.next fromStr step
  any_goals rintro ⟨⟩
  · intro hnext
    obtain ⟨row, hrow, rfl⟩ := Option.map_eq_some_iff.mp hnext
    apply hdirect.publish hvalid.setRule
    intro other hunruled
    left
    rw [ruleFor_setRule] at hunruled
    split at hunruled
    · simp [hrow] at hunruled
    next hne =>
      refine ⟨hunruled, fun found heq => ?_⟩
      cases heq
      exact hne rfl
  · exact hdirect
  · rename_i device env rule hrule
    rw [clearedTarget_eq_direct hfromStr hvalid.policy]
    apply hdirect.publish hvalid.setRule
    intro other hunruled
    by_cases heq : other = device
    · right
      obtain ⟨row, hrow, -⟩ := Option.bind_eq_some_iff.mp hrule
      simp [assigned, heq, findById_setRule, hrow]
    · left
      rw [ruleFor_setRule, if_neg heq] at hunruled
      refine ⟨hunruled, fun target hevent => ?_⟩
      cases hevent
      exact heq rfl
  · apply hdirect.publish_other hvalid.register _ (by simp)
    exact fun other hunruled => ruleFor_register other ▸ hunruled
  iterate 2
    · apply hdirect.publish_other hvalid.setLastIp _ (by simp)
      exact fun other hunruled => ruleFor_setLastIp other ▸ hunruled
  · exact hdirect.publish_other ⟨hvalid.ids, ‹_›⟩ (fun _ => id) (by simp)
  iterate 2 exact hdirect.publish_other hvalid (fun _ => id) (by simp)
  · refine ⟨hvalid, ?_⟩
    intro other hunruled
    have hmissing : other ∉ daemon.store.ruled.map RuledDevice.id := by
      intro hmem
      obtain ⟨entry, hentry, rfl⟩ := List.mem_map.mp hmem
      obtain ⟨row, hrow, -, hrule⟩ := (mem_ruled hvalid.ids).mp hentry
      simp [Store.ruleFor, hrow, hrule] at hunruled
    simp only [effective, reconcile_applied]
    rw [applyAll_get_of_notMem hmissing]
    simp [forgetApplied]

/-- Whatever happens to a device that ends up without a rule, it follows the
stored policy exactly when the policy is `direct`. -/
theorem unruled_follows_policy_iff (fromStr : Text → Option RoutingTarget)
    (hfromStr : ∀ raw target, fromStr raw = some target → looksLikeTarget raw = true)
    (store : Store) (hvalid : store.Valid) (steps : List Step) (final : Daemon)
    (hrun : run (Daemon.next fromStr) (.start store) steps = some final)
    (device : Uuid) (hunruled : final.store.ruleFor device = none) :
    effective final.routing device = fromDefaultPolicy final.store.policy ↔
      final.store.policy = directPolicy := by
  have hstart : UnruledDirect (.start store) :=
    ⟨hvalid, fun device _ => by simp [effective, Daemon.start, State.new]⟩
  have hdirect : UnruledDirect final := by
    apply run_invariant _ hstart hrun
    intro daemon step after hbefore hnext
    exact hbefore.next hfromStr hnext
  rw [hdirect.direct device hunruled, eq_comm, fromDefaultPolicy, eq_directPolicy_iff]
  have haccepts := hdirect.valid.policy
  simp only [acceptsPolicy, Bool.or_eq_true, decide_eq_true_eq] at haccepts
  by_cases hpolicy : final.store.policy.text = directPolicy.text
  · simp [hpolicy]
  · obtain ⟨tunnel, htunnel⟩ := Option.isSome_iff_exists.mp (haccepts.resolve_left hpolicy)
    simp [hpolicy, htunnel]

/-- The policy routes through tunnel 9; one device has a rule, the other has
none. -/
def tunnelPolicy : Store where
  devices := [⟨1, "10.0.0.5".toList, some (.tunnel 9)⟩, ⟨2, "10.0.0.6".toList, none⟩]
  policy := ⟨"00000000-0000-0000-0000-000000000009".toList, some 9, by decide, by decide⟩

def allHealthy : Uuid → Env := fun _ => healthyEnv

/-- Neither a new device nor one whose rule is cleared follows the policy. -/
theorem unruled_devices_stay_direct : ∃ final, run (Daemon.next fun _ => none) (.start tunnelPolicy)
        [.reconcile allHealthy, .clearRule 1 allHealthy,
          .deviceDiscovered 2 "10.0.0.6".toList allHealthy] = some final ∧
      fromDefaultPolicy final.store.policy = .tunnel 9 ∧
      final.store.ruleFor 1 = none ∧ final.store.ruleFor 2 = none ∧
      effective final.routing 1 = .direct ∧ effective final.routing 2 = .direct := by
  decide +kernel

/-- The policy is set to `direct` and the rule of a device is cleared. -/
def clearedUnderDirect : List Step :=
  [.reconcile allHealthy, .setDefaultPolicy directPolicy allHealthy, .clearRule 1 allHealthy]

theorem unruled_follows_policy_iff_clearedUnderDirect :
    ∃ final, run (Daemon.next fun _ => none) (.start tunnelPolicy) clearedUnderDirect = some final ∧
      (effective final.routing 1 = fromDefaultPolicy final.store.policy ↔
        final.store.policy = directPolicy) := by
  refine ⟨_, rfl, ?_⟩
  exact unruled_follows_policy_iff (fun _ => none) nofun tunnelPolicy
    ⟨by decide, by decide +kernel⟩ clearedUnderDirect _ rfl 1
    (by decide +kernel)

end Wardnet.Routing
