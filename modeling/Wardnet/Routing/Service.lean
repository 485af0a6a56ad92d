import Wardnet.Common.Dns
import Wardnet.Core.HashMap

/-!
# Device routing and kernel rules

`RoutingServiceImpl` keeps a map of applied rules and mirrors it into kernel
`ip rule`s, one per tunnel-bound device, at a fixed priority.  Every call of
the environment that may fail (tunnel bring-up, route table, masquerade, rule
insertion) is an input here; removals succeed.  The kernel state is the list
of rules at the device priority and the list of switchback carve-outs.
-/

namespace Wardnet.Routing

open Option

inductive RoutingTarget
  | tunnel (id : Uuid)
  | direct
  | default
  deriving DecidableEq

structure AppliedRule where
  deviceIp : Text
  target : RoutingTarget
  table : Option ℕ
  tunnelId : Option Uuid
  dnsUpstream : UpstreamId
  deriving DecidableEq

/-- `RoutingState` with the default policy and the two bands of kernel rules
it is mirrored into. -/
structure State where
  applied : HashMap Uuid AppliedRule
  tunnelTables : List ℕ
  switchbackTargets : HashMap Uuid (Text × List Text)
  appliedSwitchback : HashMap Uuid (Text × List Text)
  defaultPolicy : Option Uuid
  deviceRules : List (Text × ℕ)
  switchbackRules : List (Text × Text)
  deriving DecidableEq

def State.new (defaultPolicy : Option Uuid) : State where
  applied := .empty
  tunnelTables := []
  switchbackTargets := .empty
  appliedSwitchback := .empty
  defaultPolicy := defaultPolicy
  deviceRules := []
  switchbackRules := []

/-! ## Environment -/

structure TunnelRow where
  interfaceName : Text
  isDown : Bool
  deriving DecidableEq

inductive AddRoute
  | added
  | notUp
  | failed
  deriving DecidableEq

/-- What the environment answers to the calls of one `apply_rule`. -/
structure Env where
  getTunnel : Option TunnelRow
  bringUp : Bool
  refetch : Option TunnelRow
  dnsOverride : Bool
  hasRouteTable : Option Bool
  addRouteTable : ℕ → AddRoute
  addMasquerade : Bool
  addIpRule : Bool
  addSwitchbackRule : Text → Bool

/-! ## Kernel rules -/

/-- Adding a rule on success: one that exists already is kept. -/
def addRule {Rule : Type} [DecidableEq Rule] (rules : List Rule) (rule : Rule) : List Rule :=
  if rule ∈ rules then rules else rules ++ [rule]

@[simp]
theorem mem_addRule {Rule : Type} [DecidableEq Rule] {rules : List Rule}
    {rule other : Rule} : other ∈ addRule rules rule ↔ other ∈ rules ∨ other = rule := by
  unfold addRule
  split
  next hmem =>
    constructor
    · exact .inl
    · rintro (h | rfl)
      · exact h
      · exact hmem
  · simp

/-- `remove_ip_rule`: delete one matching rule, or fail when none matches. -/
def removeIpRule (rules : List (Text × ℕ)) (rule : Text × ℕ) : Option (List (Text × ℕ)) :=
  if rule ∈ rules then some (rules.erase rule) else none

/-- The loop that deletes until the kernel reports no matching rule. -/
def drainIpRules (rule : Text × ℕ) : ℕ → List (Text × ℕ) → List (Text × ℕ)
  | 0, rules => rules
  | fuel + 1, rules =>
    match removeIpRule rules rule with
    | none => rules
    | some rest => drainIpRules rule fuel rest

/-- With fuel for every copy, the loop leaves exactly the other rules. -/
theorem mem_drainIpRules {rule other : Text × ℕ} {fuel : ℕ}
    {rules : List (Text × ℕ)} (hfuel : rules.count rule ≤ fuel) :
    other ∈ drainIpRules rule fuel rules ↔ other ∈ rules ∧ other ≠ rule := by
  induction fuel generalizing rules with
  | zero =>
    have hnone : rule ∉ rules := List.count_eq_zero.mp (Nat.le_zero.mp hfuel)
    simp only [drainIpRules, iff_self_and]
    exact fun hmem heq => hnone (heq ▸ hmem)
  | succ fuel ih =>
    by_cases hmem : rule ∈ rules
    · have hrest : (rules.erase rule).count rule ≤ fuel := by
        rw [List.count_erase_self]
        omega
      simp only [drainIpRules, removeIpRule, hmem, if_true]
      rw [ih hrest]
      exact and_congr_left fun hne => List.mem_erase_of_ne hne
    · simp only [drainIpRules, removeIpRule, hmem, if_false, iff_self_and]
      exact fun hother heq => hmem (heq ▸ hother)

/-! ## Switchback carve-outs -/

def selfCidr (deviceIp : Text) : Text := deviceIp ++ "/32".toList

def removeSwitchbackForDevice (state : State) (device : Uuid) : State :=
  match state.appliedSwitchback.get device with
  | none => state
  | some (ip, cidrs) =>
    { state with
      appliedSwitchback := state.appliedSwitchback.remove device
      switchbackRules := state.switchbackRules.filter fun rule => ¬ (rule.1 = ip ∧ rule.2 ∈ cidrs) }

/-- `reconcile_switchback_for_device`: carve-outs exist only while the device
is bound to a tunnel, and never for its own address. -/
def reconcileSwitchbackForDevice (state : State) (device : Uuid) (accepts : Text → Bool) : State :=
  match state.switchbackTargets.get device with
  | none => removeSwitchbackForDevice state device
  | some (ip, targets) =>
    let bound := (state.applied.get device).any fun rule => rule.table.isSome
    let desired := if bound then targets.filter fun cidr => cidr ≠ selfCidr ip else []
    let present :=
      match state.appliedSwitchback.get device with
      | some (oldIp, cidrs) => if oldIp = ip then cidrs else []
      | none => []
    let state :=
      match state.appliedSwitchback.get device with
      | some (oldIp, _) =>
        if oldIp = ip then state
        else removeSwitchbackForDevice state device
      | none => state
    let installed := desired.filter fun cidr => cidr ∈ present ∨ accepts cidr
    let stale := present.filter fun cidr => cidr ∉ desired
    let added := installed.filter fun cidr => cidr ∉ present
    { state with
      switchbackRules :=
        (added.map fun cidr => (ip, cidr)).foldl addRule
          (state.switchbackRules.filter fun rule => ¬ (rule.1 = ip ∧ rule.2 ∈ stale))
      appliedSwitchback :=
        if installed = [] then state.appliedSwitchback.remove device
        else state.appliedSwitchback.insert device (ip, installed) }

/-! ## Applying a rule -/

def resolveTarget (policy : Option Uuid) : RoutingTarget → RoutingTarget
  | .default =>
    match policy with
    | some tunnel => .tunnel tunnel
    | none => .direct
  | target => target

def removeDeviceKernelState (state : State) (device : Uuid) : State :=
  match state.applied.get device with
  | none => state
  | some rule =>
    let state := removeSwitchbackForDevice
      { state with applied := state.applied.remove device } device
    match rule.table with
    | none => state
    | some table =>
      { state with
        deviceRules := drainIpRules (rule.deviceIp, table)
          state.deviceRules.length state.deviceRules }

def tunnelInterfacePrefix : Text := "wg_ward".toList

def parseInterfaceIndex (name : Text) : Option ℕ :=
  if tunnelInterfacePrefix.isPrefixOf name then
    Text.parseUint (2 ^ 32) (name.drop tunnelInterfacePrefix.length)
  else none

def tableForIndex (index : ℕ) : ℕ := (100 + index) % 2 ^ 32

/-- The interface of the tunnel that phase two of `apply_rule` ends up with:
none when the tunnel is unknown, cannot be brought up, or is gone after the
bring-up. -/
def tunnelInterface (env : Env) : Option Text :=
  env.getTunnel.bind fun row =>
    if row.isDown then if env.bringUp then env.refetch.map TunnelRow.interfaceName else none
    else some row.interfaceName

def routeAddMaxRetries : ℕ := 5

/-- The retry loop around `add_route_table`, with `left` retries to go. -/
def addRouteTable (outcome : ℕ → AddRoute) : ℕ → Bool
  | 0 => outcome routeAddMaxRetries = .added
  | left + 1 =>
    match outcome (routeAddMaxRetries - (left + 1)) with
    | .added => true
    | .notUp => addRouteTable outcome left
    | .failed => false

/-- `ensure_tunnel_table`: the configured tables after the call, and whether
it succeeded. -/
def ensureTunnelTable (tables : List ℕ) (env : Env) (table : ℕ) : List ℕ × Bool :=
  if table ∈ tables ∧ env.hasRouteTable = some true then (tables, true)
  else
    let missing := tables.filter fun known => known ≠ table
    if addRouteTable env.addRouteTable routeAddMaxRetries ∧ env.addMasquerade then
      (missing ++ [table], true)
    else (missing, false)

def directRule (ip : Text) : AppliedRule where
  deviceIp := ip
  target := .direct
  table := none
  tunnelId := none
  dnsUpstream := .default

def recordRule (state : State) (device : Uuid) (rule : AppliedRule) : State :=
  { state with applied := state.applied.insert device rule }

/-- The tunnel branch of phase three of `apply_rule`; each failure falls back
to recording a direct rule. -/
def bindToTunnel (state : State) (device : Uuid) (ip : Text) (tunnel : Uuid)
    (interfaceName : Text) (env : Env) : State :=
  match parseInterfaceIndex interfaceName with
  | none => recordRule state device (directRule ip)
  | some index =>
    let table := tableForIndex index
    let ensured := ensureTunnelTable state.tunnelTables env table
    let state := { state with tunnelTables := ensured.1 }
    if ensured.2 = false ∨ env.addIpRule = false then recordRule state device (directRule ip)
    else
      reconcileSwitchbackForDevice (recordRule { state with
            deviceRules := addRule state.deviceRules (ip, table) } device
          { deviceIp := ip
            target := .tunnel tunnel
            table := some table
            tunnelId := some tunnel
            dnsUpstream := if env.dnsOverride then .tunnel tunnel else .default })
        device env.addSwitchbackRule

def applyRule (state : State) (device : Uuid) (ip : Text)
    (target : RoutingTarget) (env : Env) : State :=
  let resolved := resolveTarget state.defaultPolicy target
  if (state.applied.get device).any fun rule =>
      rule.target = resolved ∧ rule.deviceIp = ip then state
  else
    let state := removeDeviceKernelState state device
    match resolved, tunnelInterface env with
    | .tunnel tunnel, some interfaceName => bindToTunnel state device ip tunnel interfaceName env
    | _, _ =>
      reconcileSwitchbackForDevice (recordRule state device (directRule ip))
        device env.addSwitchbackRule

/-! ## Events -/

def removeDeviceRoutes (state : State) (device : Uuid) : State :=
  let state := removeDeviceKernelState state device
  { state with switchbackTargets := state.switchbackTargets.remove device }

def handleIpChange (state : State) (device : Uuid) (newIp : Text) (env : Env) : State :=
  let target := (state.applied.get device).map AppliedRule.target
  let state := removeDeviceKernelState state device
  let state := { state with
    switchbackTargets :=
      match state.switchbackTargets.get device with
      | some (_, cidrs) => state.switchbackTargets.insert device (newIp, cidrs)
      | none => state.switchbackTargets }
  match target with
  | some target => applyRule state device newIp target env
  | none => state

structure RuledDevice where
  id : Uuid
  lastIp : Text
  target : RoutingTarget
  deriving DecidableEq

def applyAll (state : State) (env : Uuid → Env) : List RuledDevice → State
  | [] => state
  | device :: devices =>
    applyAll (applyRule state device.id device.lastIp device.target (env device.id)) env devices

/-- `handle_tunnel_up`: re-apply the rule of every device that targets the
tunnel. -/
def handleTunnelUp (state : State) (tunnel : Uuid)
    (devices : List RuledDevice) (env : Uuid → Env) : State :=
  applyAll state env (devices.filter fun device =>
    resolveTarget state.defaultPolicy device.target = .tunnel tunnel)

/-- Tear down the kernel state of the listed devices in turn. -/
def removeAll (state : State) : List Uuid → State
  | [] => state
  | device :: devices => removeAll (removeDeviceKernelState state device) devices

def handleTunnelDown (state : State) (tunnel : Uuid) : State :=
  let affected := state.applied.toList.filter fun entry => entry.2.tunnelId = some tunnel
  let table := affected.head?.bind fun entry => entry.2.table
  let state := removeAll state (affected.map Prod.fst)
  match table with
  | none => state
  | some table =>
    { state with
      tunnelTables := state.tunnelTables.filter fun known => known ≠ table }

def devicesOnTable (state : State) (table : ℕ) : List RuledDevice :=
  (state.applied.toList.filter fun entry => entry.2.table = some table).map
    fun entry => ⟨entry.1, entry.2.deviceIp, entry.2.target⟩

/-- `handle_route_table_lost`: forget the applied entries that use the table,
so that re-applying them is not skipped, and re-apply them. -/
def handleRouteTableLost (state : State) (table : ℕ) (env : Uuid → Env) : State :=
  let affected := devicesOnTable state table
  let state := { state with
    tunnelTables := state.tunnelTables.filter fun known => known ≠ table
    applied := affected.foldl (fun applied device => applied.remove device.id) state.applied }
  applyAll state env affected

/-! ## The steps of `reconcile` -/

/-- What the service tracks is forgotten; the rules stay in the kernel. -/
def forgetApplied (state : State) : State :=
  { state with
    applied := .empty
    tunnelTables := []
    appliedSwitchback := .empty }

/-- Kernel rules that are the binding of no applied entry are removed. -/
def removeOrphans (state : State) : State :=
  let wanted := state.applied.toList.filterMap fun entry =>
    entry.2.table.map fun table => (entry.2.deviceIp, table)
  { state with deviceRules := state.deviceRules.filter fun rule => rule ∈ wanted }

/-- Carve-outs that no tunnel-bound device wants are removed, and those that
one wants are ensured. -/
def restoreSwitchback (state : State) (env : Uuid → Env) : State :=
  let desired := state.switchbackTargets.toList.flatMap fun (device, ip, cidrs) =>
    if (state.applied.get device).any fun rule => rule.table.isSome then
      (cidrs.filter fun cidr => cidr ≠ selfCidr ip).map fun cidr => (ip, cidr)
    else []
  (state.switchbackTargets.toList.map Prod.fst).foldl
    (fun state device => reconcileSwitchbackForDevice state device (env device).addSwitchbackRule)
    { state with
      switchbackRules := state.switchbackRules.filter fun rule => rule ∈ desired }

/-! ## What the operations do to the applied map and the device rules -/

/-- The carve-outs have their own bookkeeping and their own band of rules. -/
def SwitchbackOnly (state after : State) : Prop :=
  ∃ appliedSwitchback switchbackRules,
    after = { state with
      appliedSwitchback := appliedSwitchback
      switchbackRules := switchbackRules }

theorem switchbackOnly_removeSwitchbackForDevice (state : State) (device : Uuid) :
    SwitchbackOnly state (removeSwitchbackForDevice state device) := by
  unfold removeSwitchbackForDevice
  split
  · exact ⟨_, _, rfl⟩
  · exact ⟨_, _, rfl⟩

theorem switchbackOnly_reconcileSwitchbackForDevice (state : State)
    (device : Uuid) (accepts : Text → Bool) :
    SwitchbackOnly state (reconcileSwitchbackForDevice state device accepts) := by
  obtain ⟨appliedSwitchback, switchbackRules, hremoved⟩ :=
    switchbackOnly_removeSwitchbackForDevice state device
  unfold reconcileSwitchbackForDevice
  rw [hremoved]
  split
  · exact ⟨_, _, rfl⟩
  · split
    · split
      · exact ⟨_, _, rfl⟩
      · exact ⟨_, _, rfl⟩
    · exact ⟨_, _, rfl⟩

theorem switchbackOnly_restoreSwitchback (state : State) (env : Uuid → Env) :
    SwitchbackOnly state (restoreSwitchback state env) := by
  unfold restoreSwitchback
  generalize state.switchbackTargets.toList.map Prod.fst = devices
  apply List.foldlRecOn (motive := SwitchbackOnly state)
  · exact ⟨_, _, rfl⟩
  · rintro before ⟨_, _, rfl⟩ device -
    obtain ⟨_, _, hafter⟩ :=
      switchbackOnly_reconcileSwitchbackForDevice _ device (env device).addSwitchbackRule
    exact ⟨_, _, hafter⟩

section Switchback

variable (state : State) (device : Uuid) (accepts : Text → Bool)

@[simp]
theorem removeSwitchbackForDevice_frame :
    (removeSwitchbackForDevice state device).applied = state.applied ∧
      (removeSwitchbackForDevice state device).deviceRules = state.deviceRules ∧
      (removeSwitchbackForDevice state device).tunnelTables = state.tunnelTables ∧
      (removeSwitchbackForDevice state device).defaultPolicy = state.defaultPolicy := by
  obtain ⟨_, _, hremoved⟩ := switchbackOnly_removeSwitchbackForDevice state device
  simp [hremoved]

@[simp]
theorem reconcileSwitchbackForDevice_frame :
    (reconcileSwitchbackForDevice state device accepts).applied = state.applied ∧
      (reconcileSwitchbackForDevice state device accepts).deviceRules = state.deviceRules ∧
      (reconcileSwitchbackForDevice state device accepts).tunnelTables = state.tunnelTables ∧
      (reconcileSwitchbackForDevice state device accepts).defaultPolicy = state.defaultPolicy := by
  obtain ⟨_, _, hreconciled⟩ := switchbackOnly_reconcileSwitchbackForDevice state device accepts
  simp [hreconciled]

@[simp]
theorem restoreSwitchback_frame (env : Uuid → Env) :
    (restoreSwitchback state env).applied = state.applied ∧
      (restoreSwitchback state env).deviceRules = state.deviceRules ∧
      (restoreSwitchback state env).defaultPolicy = state.defaultPolicy := by
  obtain ⟨_, _, hrestored⟩ := switchbackOnly_restoreSwitchback state env
  simp [hrestored]

end Switchback

@[simp]
theorem removeDeviceKernelState_defaultPolicy (state : State) (device : Uuid) :
    (removeDeviceKernelState state device).defaultPolicy = state.defaultPolicy := by
  unfold removeDeviceKernelState
  split
  · rfl
  · split <;> simp

@[simp]
theorem removeDeviceKernelState_tunnelTables (state : State) (device : Uuid) :
    (removeDeviceKernelState state device).tunnelTables = state.tunnelTables := by
  unfold removeDeviceKernelState
  split
  · rfl
  · split <;> simp

theorem applyRule_defaultPolicy (state : State) (device : Uuid) (ip : Text)
    (target : RoutingTarget) (env : Env) :
    (applyRule state device ip target env).defaultPolicy = state.defaultPolicy := by
  have htorn := removeDeviceKernelState_defaultPolicy state device
  fun_cases applyRule state device ip target env
  · rfl
  · fun_cases bindToTunnel
    · exact htorn
    · exact htorn
    · exact (reconcileSwitchbackForDevice_frame ..).2.2.2.trans htorn
  · exact (reconcileSwitchbackForDevice_frame ..).2.2.2.trans htorn

/-- The device has an applied rule that binds this address to this table. -/
def Bound (state : State) (device : Uuid) (binding : Text × ℕ) : Prop :=
  ∃ rule, state.applied.get device = some rule ∧
    rule.deviceIp = binding.1 ∧ rule.table = some binding.2

variable {state : State} {device : Uuid}

theorem Bound.unique {left right : Text × ℕ} (hleft : Bound state device left)
    (hright : Bound state device right) : left = right := by
  obtain ⟨rule, hrule, hip, htable⟩ := hleft
  obtain ⟨other, hother, hotherIp, hotherTable⟩ := hright
  cases hrule.symm.trans hother
  rw [htable, some.injEq] at hotherTable
  exact Prod.ext (hip.symm.trans hotherIp) hotherTable

variable {binding : Text × ℕ}

theorem bound_congr {after : State} (heq : after.applied.get device = state.applied.get device) :
    Bound after device binding ↔ Bound state device binding := by
  simp only [Bound, heq]

@[simp]
theorem removeDeviceKernelState_get (state : State) (device other : Uuid) :
    (removeDeviceKernelState state device).applied.get other =
      if other = device then none else state.applied.get other := by
  unfold removeDeviceKernelState
  cases hrule : state.applied.get device with
  | none =>
    by_cases hother : other = device
    · simp [hother, hrule]
    · simp [hother]
  | some rule =>
    simp only
    cases rule.table <;> simp

theorem removeAll_get {devices : List Uuid} : (removeAll state devices).applied.get device =
      if device ∈ devices then none else state.applied.get device := by
  induction devices generalizing state with
  | nil => simp [removeAll]
  | cons first devices ih =>
    rw [removeAll, ih, removeDeviceKernelState_get]
    by_cases hrest : device ∈ devices
    · simp [hrest]
    · by_cases hfirst : device = first
      · simp [hfirst]
      · simp [hrest, hfirst]

theorem mem_removeDeviceKernelState : binding ∈ (removeDeviceKernelState state device).deviceRules ↔
      binding ∈ state.deviceRules ∧ ¬ Bound state device binding := by
  unfold removeDeviceKernelState
  cases hrule : state.applied.get device with
  | none => simp [Bound, hrule]
  | some rule =>
    simp only [Bound, hrule, some.injEq]
    cases htable : rule.table with
    | none => simp [htable]
    | some table =>
      simp only [removeSwitchbackForDevice_frame]
      rw [mem_drainIpRules List.count_le_length]
      refine and_congr_right fun _ => not_congr ?_
      constructor
      · rintro rfl
        exact ⟨rule, rfl, rfl, htable⟩
      · rintro ⟨found, rfl, hip, hfound⟩
        rw [htable, some.injEq] at hfound
        exact Prod.ext hip.symm hfound.symm

/-- What `apply_rule` does: nothing when the rule is applied already, and
otherwise it tears the device down and records either a rule without a table
or a binding whose kernel rule it adds. -/
theorem applyRule_cases (state : State) (device : Uuid) (ip : Text)
    (target : RoutingTarget) (env : Env) : (applyRule state device ip target env = state ∧
      ∃ rule, state.applied.get device = some rule ∧ rule.deviceIp = ip) ∨
    ∃ rule, rule.deviceIp = ip ∧ (applyRule state device ip target env).applied =
        (removeDeviceKernelState state device).applied.insert device rule ∧ ((rule.table = none ∧
          (applyRule state device ip target env).deviceRules =
            (removeDeviceKernelState state device).deviceRules) ∨ ∃ table, rule.table = some table ∧
          (applyRule state device ip target env).deviceRules =
            addRule (removeDeviceKernelState state device).deviceRules (ip, table)) := by
  fun_cases applyRule state device ip target env
  · obtain ⟨rule, hrule, hsame⟩ := (any_eq_true _ _).mp ‹_›
    exact .inl ⟨rfl, rule, hrule, (of_decide_eq_true hsame).2⟩
  · right
    fun_cases bindToTunnel
    · exact ⟨directRule ip, rfl, rfl, .inl ⟨rfl, rfl⟩⟩
    · exact ⟨directRule ip, rfl, rfl, .inl ⟨rfl, rfl⟩⟩
    · obtain ⟨happlied, hrules, -⟩ :=
        reconcileSwitchbackForDevice_frame _ device env.addSwitchbackRule
      exact ⟨⟨ip, .tunnel _, _, _, _⟩, rfl, happlied, .inr ⟨_, rfl, hrules⟩⟩
  · obtain ⟨happlied, hrules, -⟩ :=
      reconcileSwitchbackForDevice_frame _ device env.addSwitchbackRule
    exact .inr ⟨directRule ip, rfl, happlied, .inl ⟨rfl, hrules⟩⟩

/-! ## What a rule binds its device to -/

/-- The table that applying a rule would bind the device to. -/
def bindingTable (policy : Option Uuid) (target : RoutingTarget) (env : Env) : Option ℕ :=
  match resolveTarget policy target, tunnelInterface env with
  | .tunnel _, some interfaceName => (parseInterfaceIndex interfaceName).map tableForIndex
  | _, _ => none

/-- The environment lets a rule bind its device to the table. -/
def BindsTo (policy : Option Uuid) (tables : List ℕ) (target : RoutingTarget)
    (env : Env) (table : ℕ) : Prop :=
  bindingTable policy target env = some table ∧
    (ensureTunnelTable tables env table).2 = true ∧ env.addIpRule = true

/-- A device without a rule ends up bound to the one table the environment
lets it bind to, or to none. -/
theorem applyRule_binds_or_not (habsent : state.applied.get device = none) (ip : Text)
    (target : RoutingTarget) (env : Env) :
    (∃ table, BindsTo state.defaultPolicy state.tunnelTables target env table ∧
      Bound (applyRule state device ip target env) device (ip, table) ∧
      (applyRule state device ip target env).tunnelTables =
        (ensureTunnelTable state.tunnelTables env table).1) ∨
    ∀ table, ¬ BindsTo state.defaultPolicy state.tunnelTables target env table ∧
      ¬ Bound (applyRule state device ip target env) device (ip, table) := by
  have htorn : removeDeviceKernelState state device = state := by
    simp [removeDeviceKernelState, habsent]
  unfold BindsTo bindingTable applyRule
  simp only [habsent, any_none, Bool.false_eq_true, if_false, htorn]
  split
  next tunnel interfaceName _ _ =>
    unfold bindToTunnel
    cases parseInterfaceIndex interfaceName with
    | none => simp [Bound, recordRule, directRule]
    | some index =>
      simp only [map_some, some.injEq]
      by_cases hfails : (ensureTunnelTable state.tunnelTables env
          (tableForIndex index)).2 = false ∨ env.addIpRule = false
      · refine .inr fun table => ⟨?_, ?_⟩
        · rintro ⟨rfl, hensured, hadded⟩
          simp [hensured, hadded] at hfails
        · simp [if_pos hfails, Bound, recordRule, directRule]
      · have hsucceeds := hfails
        simp only [not_or, Bool.not_eq_false] at hsucceeds
        refine .inl ⟨tableForIndex index, ⟨rfl, hsucceeds⟩, ?_, ?_⟩
        · simp [if_neg hfails, Bound, recordRule]
        · simp [if_neg hfails, recordRule]
  · refine .inr fun table => ⟨?_, ?_⟩
    · rintro ⟨htable, -⟩
      cases htable
    · simp [Bound, recordRule, directRule]

theorem BindsTo.unique {policy : Option Uuid} {tables : List ℕ}
    {target : RoutingTarget} {env : Env} {left right : ℕ}
    (hleft : BindsTo policy tables target env left)
    (hright : BindsTo policy tables target env right) : left = right :=
  some.inj (hleft.1.symm.trans hright.1)

theorem bound_applyRule_iff (habsent : state.applied.get device = none) (ip : Text)
    (target : RoutingTarget) (env : Env) (table : ℕ) :
    Bound (applyRule state device ip target env) device (ip, table) ↔
      BindsTo state.defaultPolicy state.tunnelTables target env table := by
  rcases applyRule_binds_or_not habsent ip target env with ⟨other, hbinds, hbound, -⟩ | hnone
  · constructor
    · intro htable
      have heq : other = table := congrArg Prod.snd (hbound.unique htable)
      exact heq ▸ hbinds
    · intro htable
      exact hbinds.unique htable ▸ hbound
  · simp [hnone table]

end Wardnet.Routing
