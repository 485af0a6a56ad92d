import Wardnet.Core.Transition
import Wardnet.Routing.Service

/-!
# The routing of one device and the rules of the others

A kernel rule carries a source address and a table but no device, so tearing
one device down may delete the rule that another device with the same address
relies on.  Every handler of the routing service is a sequence of operations
on single devices; what such an operation does to the applied map and to the
device rules is stated once, and decides exactly when the rules of the other
devices survive.
-/

namespace Wardnet.Routing

open Option Transition

/-- Every binding in the applied map has its kernel rule. -/
def Covers (state : State) : Prop :=
  ∀ device binding, Bound state device binding → binding ∈ state.deviceRules

/-- An operation on one device leaves the other entries alone, deletes the
rule of the device's old binding, and adds the rule of its new one. -/
structure DeviceStep (state : State) (device : Uuid) (after : State) : Prop where
  others : ∀ other, other ≠ device → after.applied.get other = state.applied.get other
  rules : ∀ binding, binding ∈ after.deviceRules ↔
    (binding ∈ state.deviceRules ∧ ¬ Bound state device binding) ∨ Bound after device binding

variable {state : State}

theorem deviceStep_removeDeviceKernelState (state : State) (device : Uuid) :
    DeviceStep state device (removeDeviceKernelState state device) where
  others := by
    intro other hother
    simp [hother]
  rules := by
    intro binding
    have hnone : ¬ Bound (removeDeviceKernelState state device) device binding := by
      simp [Bound]
    simp [mem_removeDeviceKernelState, hnone]

variable {device : Uuid} {after : State}

theorem DeviceStep.record {torn : State} (htorn : DeviceStep state device torn)
    (habsent : torn.applied.get device = none) {rule : AppliedRule}
    (happlied : after.applied = torn.applied.insert device rule)
    (hrules : (rule.table = none ∧ after.deviceRules = torn.deviceRules) ∨
      ∃ table, rule.table = some table ∧ after.deviceRules =
          addRule torn.deviceRules (rule.deviceIp, table)) : DeviceStep state device after := by
  have hbound : ∀ binding, Bound after device binding ↔
      rule.deviceIp = binding.1 ∧ rule.table = some binding.2 := by
    simp [Bound, happlied]
  have htornRules : ∀ binding, binding ∈ torn.deviceRules ↔
      binding ∈ state.deviceRules ∧ ¬ Bound state device binding := by
    intro binding
    rw [htorn.rules binding]
    simp [Bound, habsent]
  constructor
  · intro other hother
    rw [happlied, HashMap.get_insert_of_ne _ _ hother, htorn.others other hother]
  · intro binding
    rw [hbound binding, ← htornRules binding]
    rcases hrules with ⟨hnone, heq⟩ | ⟨table, hsome, heq⟩
    · simp [heq, hnone]
    · rw [heq, mem_addRule, hsome]
      refine or_congr_right ?_
      constructor
      · rintro rfl
        exact ⟨rfl, rfl⟩
      · rintro ⟨hip, htable⟩
        exact Prod.ext hip.symm (some.inj htable).symm

theorem deviceStep_applyRule (hcovers : Covers state) (device : Uuid) (ip : Text)
    (target : RoutingTarget) (env : Env) :
    DeviceStep state device (applyRule state device ip target env) := by
  rcases applyRule_cases state device ip target env with ⟨hskip, -⟩ | ⟨rule, rfl, happlied, hrules⟩
  · rw [hskip]
    refine ⟨fun _ _ => rfl, fun binding => ?_⟩
    by_cases hbound : Bound state device binding
    · simp [hbound, hcovers device binding hbound]
    · simp [hbound]
  · exact (deviceStep_removeDeviceKernelState state device).record (by simp) happlied hrules

theorem applyRule_of_absent (habsent : state.applied.get device = none) (ip : Text)
    (target : RoutingTarget) (env : Env) :
    DeviceStep state device (applyRule state device ip target env) ∧
      ∃ rule, (applyRule state device ip target env).applied.get device =
        some rule ∧ rule.deviceIp = ip := by
  rcases applyRule_cases state device ip target env
    with ⟨-, rule, hrule, -⟩ | ⟨rule, rfl, happlied, hrules⟩
  · simp [habsent] at hrule
  · exact ⟨(deviceStep_removeDeviceKernelState state device).record
      (by simp) happlied hrules, rule, by simp [happlied], rfl⟩

/-- A step that keeps the applied map and the device rules keeps what an
operation did before it. -/
theorem DeviceStep.congr {middle : State} (hstep : DeviceStep state device middle)
    (happlied : after.applied = middle.applied) (hrules : after.deviceRules = middle.deviceRules) :
    DeviceStep state device after := by
  constructor
  · intro other hother
    rw [happlied, hstep.others other hother]
  · intro binding
    rw [hrules, hstep.rules binding, bound_congr (congrArg (HashMap.get · device) happlied)]

/-! ## Handlers as sequences of operations on single devices -/

/-- `tearDown` is one device of `handle_tunnel_down`, `forgetTable` the first
half of `handle_route_table_lost`, and `dropTable` the bookkeeping after a
tunnel went down.  The last three are the steps of `reconcile` around the rules
it applies. -/
inductive DeviceOp
  | applyRule (device : Uuid) (ip : Text) (target : RoutingTarget) (env : Env)
  | removeDeviceRoutes (device : Uuid)
  | handleIpChange (device : Uuid) (newIp : Text) (env : Env)
  | tearDown (device : Uuid)
  | forgetTable (table : ℕ)
  | dropTable (table : ℕ)
  | setDefaultPolicy (policy : Option Uuid)
  | forgetApplied
  | removeOrphans
  | restoreSwitchback (env : Uuid → Env)

def DeviceOp.device? : DeviceOp → Option Uuid
  | .applyRule device .. | .removeDeviceRoutes device
  | .handleIpChange device .. | .tearDown device => some device
  | .forgetTable _ | .dropTable _ | .setDefaultPolicy _ | .forgetApplied | .removeOrphans
  | .restoreSwitchback _ => none

def dropTable (state : State) (table : ℕ) : State :=
  { state with
    tunnelTables := state.tunnelTables.filter fun known => known ≠ table }

def forgetTable (state : State) (table : ℕ) : State :=
  { state with
    tunnelTables := state.tunnelTables.filter fun known => known ≠ table
    applied := (devicesOnTable state table).foldl
      (fun applied device => applied.remove device.id) state.applied }

def operate (state : State) : DeviceOp → State
  | .applyRule device ip target env => applyRule state device ip target env
  | .removeDeviceRoutes device => removeDeviceRoutes state device
  | .handleIpChange device newIp env => handleIpChange state device newIp env
  | .tearDown device => removeDeviceKernelState state device
  | .forgetTable table => forgetTable state table
  | .dropTable table => dropTable state table
  | .setDefaultPolicy policy => { state with defaultPolicy := policy }
  | .forgetApplied => forgetApplied state
  | .removeOrphans => removeOrphans state
  | .restoreSwitchback env => restoreSwitchback state env

theorem applyAll_eq_operate (state : State) (env : Uuid → Env) (devices : List RuledDevice) :
    applyAll state env devices =
      (devices.map fun device => DeviceOp.applyRule device.id device.lastIp
        device.target (env device.id)).foldl operate state := by
  induction devices generalizing state with
  | nil => rfl
  | cons device devices ih => exact ih _

theorem removeAll_eq_operate (state : State) (devices : List Uuid) :
    removeAll state devices = (devices.map DeviceOp.tearDown).foldl operate state := by
  induction devices generalizing state with
  | nil => rfl
  | cons device devices ih => exact ih _

theorem handleTunnelUp_eq_operate (state : State) (tunnel : Uuid)
    (devices : List RuledDevice) (env : Uuid → Env) :
    ∃ ops : List DeviceOp, handleTunnelUp state tunnel devices env = ops.foldl operate state :=
  ⟨_, applyAll_eq_operate state env _⟩

/-- `handle_tunnel_down` tears devices down one after the other and then drops
the table. -/
theorem handleTunnelDown_eq_operate (state : State) (tunnel : Uuid) :
    ∃ ops : List DeviceOp, handleTunnelDown state tunnel = ops.foldl operate state := by
  unfold handleTunnelDown
  simp only
  split
  · exact ⟨_, removeAll_eq_operate state _⟩
  next table _ =>
    let affected := (state.applied.toList.filter fun entry =>
      entry.2.tunnelId = some tunnel).map Prod.fst
    refine ⟨affected.map DeviceOp.tearDown ++ [.dropTable table], ?_⟩
    rw [List.foldl_append, ← removeAll_eq_operate]
    rfl

/-- `handle_route_table_lost` forgets the table and then applies rules one
after the other. -/
theorem handleRouteTableLost_eq_operate (state : State) (table : ℕ) (env : Uuid → Env) :
    ∃ ops : List DeviceOp, handleRouteTableLost state table env = ops.foldl operate state := by
  refine ⟨.forgetTable table :: (devicesOnTable state table).map
    fun device => .applyRule device.id device.lastIp device.target (env device.id), ?_⟩
  exact applyAll_eq_operate (forgetTable state table) env _

/-! ## The rules of the other devices -/

theorem deviceStep_handleIpChange (state : State) (device : Uuid) (newIp : Text) (env : Env) :
    DeviceStep state device (handleIpChange state device newIp env) := by
  have htorn := deviceStep_removeDeviceKernelState state device
  unfold handleIpChange
  simp only
  generalize hrekeyed : ({ removeDeviceKernelState state device with
    switchbackTargets := _ } : State) = rekeyed
  have happlied : rekeyed.applied = (removeDeviceKernelState state device).applied := by
    rw [← hrekeyed]
  have hstep : DeviceStep state device rekeyed := htorn.congr happlied (by rw [← hrekeyed])
  have habsent : rekeyed.applied.get device = none := by
    simp [happlied]
  cases (state.applied.get device).map AppliedRule.target with
  | none => exact hstep
  | some target =>
    have hafter := (applyRule_of_absent habsent newIp target env).1
    have hnone : ∀ binding, ¬ Bound rekeyed device binding := by
      simp [Bound, habsent]
    constructor
    · intro other hother
      rw [hafter.others other hother, hstep.others other hother]
    · intro binding
      rw [hafter.rules binding, hstep.rules binding]
      simp [hnone binding]

theorem forgetTable_get (state : State) (table : ℕ) (device : Uuid) :
    (forgetTable state table).applied.get device =
      if device ∈ (devicesOnTable state table).map RuledDevice.id then none
      else state.applied.get device := by
  unfold forgetTable
  generalize devicesOnTable state table = devices
  generalize state.applied = applied
  induction devices generalizing applied with
  | nil => simp
  | cons gone devices ih =>
    rw [List.foldl_cons, ih, List.map_cons]
    by_cases hgone : device = gone.id
    · simp [hgone]
    · simp [hgone]

variable {op : DeviceOp}

theorem deviceStep_operate (hcovers : Covers state) (hdevice : op.device? = some device) :
    DeviceStep state device (operate state op) := by
  cases op with
  | applyRule _ ip target env =>
    cases hdevice
    exact deviceStep_applyRule hcovers device ip target env
  | removeDeviceRoutes =>
    cases hdevice
    exact (deviceStep_removeDeviceKernelState state device).congr rfl rfl
  | handleIpChange _ newIp env =>
    cases hdevice
    exact deviceStep_handleIpChange state device newIp env
  | tearDown =>
    cases hdevice
    exact deviceStep_removeDeviceKernelState state device
  | forgetTable | dropTable | setDefaultPolicy | forgetApplied | removeOrphans
  | restoreSwitchback => cases hdevice

/-- An operation on no particular device keeps the rules of all bindings and
adds no binding. -/
theorem operate_of_no_device (hcovers : Covers state) (hdevice : op.device? = none) :
    (∀ device binding, Bound state device binding → binding ∈ (operate state op).deviceRules) ∧
      ∀ device binding, Bound (operate state op) device binding → Bound state device binding := by
  cases op with
  | forgetTable table =>
    refine ⟨hcovers, ?_⟩
    rintro device binding ⟨rule, hrule, hbinding⟩
    rw [operate, forgetTable_get, ite_none_left_eq_some] at hrule
    exact ⟨rule, hrule.2, hbinding⟩
  | dropTable | setDefaultPolicy => exact ⟨hcovers, fun _ _ => id⟩
  | forgetApplied =>
    refine ⟨hcovers, ?_⟩
    rintro device binding ⟨rule, hrule, -⟩
    simp [operate, forgetApplied] at hrule
  | removeOrphans =>
    refine ⟨fun device binding hbound => ?_, fun _ _ => id⟩
    have hrule := hcovers device binding hbound
    obtain ⟨rule, happlied, hip, htable⟩ := hbound
    have hwanted : ∃ entry ∈ state.applied.toList,
        entry.2.table.map (fun table => (entry.2.deviceIp, table)) = some binding :=
      ⟨(device, rule), HashMap.mem_toList.mpr happlied, by simp [hip, htable]⟩
    simpa [operate, removeOrphans, hrule] using hwanted
  | restoreSwitchback env =>
    obtain ⟨happlied, hrules, -⟩ := restoreSwitchback_frame state env
    simp only [operate, Bound, happlied, hrules]
    exact ⟨hcovers, fun _ _ => id⟩
  | applyRule | removeDeviceRoutes | handleIpChange | tearDown => cases hdevice

/-- The operation leaves in the kernel the rule of every other device that is
bound to a table. -/
def LeavesOthers (state : State) (op : DeviceOp) : Prop :=
  ∀ other binding, op.device? ≠ some other → Bound state other binding →
    binding ∈ (operate state op).deviceRules

/-- `apply_rule` finds its rule applied and does nothing. -/
def AlreadyApplied (state : State) (device : Uuid) (ip : Text) (target : RoutingTarget) : Prop :=
  ∃ rule, state.applied.get device = some rule ∧
    rule.target = resolveTarget state.defaultPolicy target ∧
    rule.deviceIp = ip

/-- What it takes for an operation to leave its device with a binding that it
has: the rule is applied already, or it is applied under the same address and
the environment lets it bind the device to the same table. -/
def RebindsTo (state : State) (binding : Text × ℕ) : DeviceOp → Prop
  | .applyRule device ip target env =>
    AlreadyApplied state device ip target ∨
      ip = binding.1 ∧ BindsTo state.defaultPolicy state.tunnelTables target env binding.2
  | .handleIpChange device newIp env =>
    newIp = binding.1 ∧ ∃ rule, state.applied.get device = some rule ∧
      BindsTo state.defaultPolicy state.tunnelTables rule.target env binding.2
  | .removeDeviceRoutes _ | .tearDown _ => False
  | .forgetTable _ | .dropTable _ | .setDefaultPolicy _ | .forgetApplied | .removeOrphans
  | .restoreSwitchback _ => True

/-- A binding that the device shares with another one is one that the
operation binds it to again. -/
def SharedKept (state : State) (op : DeviceOp) : Prop :=
  ∀ device ∈ op.device?, ∀ other, other ≠ device → ∀ binding,
    Bound state other binding → Bound state device binding →
    RebindsTo state binding op

section Rebinding

variable {state : State} {device : Uuid} {binding : Text × ℕ}

/-- A rule that is not applied yet is applied to the device as if it had
none. -/
theorem applyRule_after_teardown {ip : Text} {target : RoutingTarget}
    (hmissing : ¬ AlreadyApplied state device ip target) (env : Env) :
    applyRule state device ip target env =
      applyRule (removeDeviceKernelState state device) device ip target env := by
  have habsent : (removeDeviceKernelState state device).applied.get device = none := by simp
  have hskip : (state.applied.get device).any (fun rule =>
      rule.target = resolveTarget state.defaultPolicy target ∧ rule.deviceIp = ip) = false := by
    cases hrule : state.applied.get device with
    | none => rfl
    | some rule => simpa using fun htarget hip => hmissing ⟨rule, hrule, htarget, hip⟩
  have htorn : removeDeviceKernelState (removeDeviceKernelState state device) device =
      removeDeviceKernelState state device := by
    rw [removeDeviceKernelState, habsent]
  simp only [applyRule, hskip, habsent, any_none, htorn,
    removeDeviceKernelState_defaultPolicy, Bool.false_eq_true, if_false]

theorem bound_applyRule_of_absent (habsent : state.applied.get device = none) (ip : Text)
    (target : RoutingTarget) (env : Env) :
    Bound (applyRule state device ip target env) device binding ↔ ip = binding.1 ∧
        BindsTo state.defaultPolicy state.tunnelTables target env binding.2 := by
  obtain ⟨address, table⟩ := binding
  obtain ⟨-, rule, hrule, hip⟩ := applyRule_of_absent habsent ip target env
  constructor
  · intro hbound
    obtain ⟨found, hfound, haddress, -⟩ := id hbound
    cases hrule.symm.trans hfound
    obtain rfl : ip = address := hip.symm.trans haddress
    exact ⟨rfl, (bound_applyRule_iff habsent ip target env table).mp hbound⟩
  · rintro ⟨rfl, hbinds⟩
    exact (bound_applyRule_iff habsent ip target env table).mpr hbinds

/-- An operation on a bound device leaves it with its binding exactly when it
rebinds the device. -/
theorem bound_operate_iff {op : DeviceOp} (hdevice : op.device? = some device)
    (hbound : Bound state device binding) :
    Bound (operate state op) device binding ↔ RebindsTo state binding op := by
  have hgone : ¬ Bound (removeDeviceKernelState state device) device binding := by
    simp [Bound]
  cases op with
  | applyRule target ip rule env =>
    cases hdevice
    by_cases happlied : AlreadyApplied state device ip rule
    · refine ⟨fun _ => .inl happlied, fun _ => ?_⟩
      obtain ⟨held, hheld, htarget, hip⟩ := happlied
      simpa [operate, applyRule, hheld, htarget, hip] using hbound
    · rw [operate, applyRule_after_teardown happlied, bound_applyRule_of_absent (by simp)]
      simp [RebindsTo, happlied]
  | removeDeviceRoutes | tearDown =>
    cases hdevice
    exact iff_of_false hgone not_false
  | handleIpChange target newIp env =>
    cases hdevice
    obtain ⟨held, hheld, -⟩ := hbound
    simp only [operate, handleIpChange, RebindsTo, hheld, map_some, some.injEq, exists_eq_left']
    rw [bound_applyRule_of_absent (by simp)]
    simp
  | forgetTable | dropTable | setDefaultPolicy | forgetApplied | removeOrphans
  | restoreSwitchback => cases hdevice

end Rebinding

theorem sharedKept_iff_leavesOthers (hcovers : Covers state) (op : DeviceOp) :
    SharedKept state op ↔ LeavesOthers state op := by
  cases hdevice : op.device? with
  | none =>
    have hkept := (operate_of_no_device hcovers hdevice).1
    simp only [SharedKept, LeavesOthers, hdevice, mem_def,
      reduceCtorEq, false_imp_iff, implies_true, true_iff]
    exact fun other binding _ => hkept other binding
  | some device =>
    have hstep := deviceStep_operate hcovers hdevice
    simp only [SharedKept, LeavesOthers, hdevice, mem_def, some.injEq, forall_eq', hstep.rules]
    constructor
    · intro hshared other binding hother hbound
      by_cases hdeviceBound : Bound state device binding
      · have hne : other ≠ device := fun heq => hother (by rw [heq])
        exact .inr ((bound_operate_iff hdevice hdeviceBound).mpr
          (hshared other hne binding hbound hdeviceBound))
      · exact .inl ⟨hcovers other binding hbound, hdeviceBound⟩
    · intro hleaves other hother binding hbound hdeviceBound
      have hne : some device ≠ some other := fun heq => hother (some.inj heq).symm
      rcases hleaves other binding hne hbound with hkept | hrebound
      · exact absurd hdeviceBound hkept.2
      · exact (bound_operate_iff hdevice hdeviceBound).mp hrebound

theorem covers_operate (hcovers : Covers state) (hshared : SharedKept state op) :
    Covers (operate state op) := by
  cases hdevice : op.device? with
  | none =>
    obtain ⟨hkept, hbound⟩ := operate_of_no_device hcovers hdevice
    exact fun device binding hafter => hkept device binding (hbound device binding hafter)
  | some device =>
    have hstep := deviceStep_operate hcovers hdevice
    intro other binding hbound
    by_cases hother : other = device
    · subst hother
      exact (hstep.rules binding).mpr (.inr hbound)
    · have hbefore := (bound_congr (hstep.others other hother)).mp hbound
      by_cases hboth : Bound state device binding
      · exact (hstep.rules binding).mpr (.inr ((bound_operate_iff hdevice hboth).mpr
          (hshared device hdevice other hother binding hbefore hboth)))
      · exact (hstep.rules binding).mpr (.inl ⟨hcovers other binding hbefore, hboth⟩)

/-- The daemon has just started, and the kernel has the rules of an earlier
one. -/
def State.start (policy : Option Uuid) (rules : List (Text × ℕ)) : State :=
  { State.new policy with deviceRules := rules }

/-- In a run of operations from the start of the daemon, every operation leaves
the rules of the other devices in the kernel exactly when each of them rebinds
its device to what that shares with another one. -/
theorem leavesOthers_iff_sharedKept (policy : Option Uuid) (rules : List (Text × ℕ))
    (ops : List DeviceOp) :
    Meets (fun state op => some (operate state op)) LeavesOthers (.start policy rules) ops ↔
      Meets (fun state op => some (operate state op)) SharedKept (.start policy rules) ops := by
  have hstep : ∀ state op after, Covers state → SharedKept state op →
      some (operate state op) = some after → Covers after := by
    intro state op after hcovers hshared hnext
    cases hnext
    exact covers_operate hcovers hshared
  refine (meets_iff_of_invariant (fun _ op hcovers => sharedKept_iff_leavesOthers hcovers op) hstep
    ?_ ops).symm
  rintro device binding ⟨rule, hrule, -⟩
  simp [State.start, State.new] at hrule

/-- An environment in which the tunnel is up on the first interface and every
call succeeds. -/
def healthyEnv : Env where
  getTunnel := some ⟨"wg_ward0".toList, false⟩
  bringUp := true
  refetch := none
  dnsOverride := false
  hasRouteTable := some true
  addRouteTable := fun _ => .added
  addMasquerade := true
  addIpRule := true
  addSwitchbackRule := fun _ => true

def sharedAddress : State :=
  applyRule (applyRule (State.new none) 1 "10.0.0.5".toList (.tunnel 9)
    healthyEnv) 2 "10.0.0.5".toList (.tunnel 9) healthyEnv

/-- Removing the first of two devices that share an address deletes the rule
of the second one, which stays recorded as bound to the tunnel. -/
theorem removal_unbinds_other_device :
    run (fun state op => some (operate state op)) (.start none [])
        [.applyRule 1 "10.0.0.5".toList (.tunnel 9) healthyEnv,
          .applyRule 2 "10.0.0.5".toList (.tunnel 9) healthyEnv] = some sharedAddress ∧
      ¬ LeavesOthers sharedAddress (.removeDeviceRoutes 1) ∧
      Bound (operate sharedAddress (.removeDeviceRoutes 1)) 2 ("10.0.0.5".toList, 100) ∧
      (operate sharedAddress (.removeDeviceRoutes 1)).deviceRules = [] := by
  have hbound : Bound sharedAddress 2 ("10.0.0.5".toList, 100) := ⟨_, rfl, by decide, by decide⟩
  have hempty : (operate sharedAddress (.removeDeviceRoutes 1)).deviceRules = [] := by decide
  refine ⟨rfl, ?_, ⟨_, rfl, by decide, by decide⟩, hempty⟩
  intro hleaves
  have hmem := hleaves 2 _ (by decide) hbound
  simp [hempty] at hmem

end Wardnet.Routing
