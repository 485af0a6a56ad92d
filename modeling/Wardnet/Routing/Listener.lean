import Wardnet.Core.Table
import Wardnet.Routing.Frame
import Wardnet.Routing.Policy

/-!
# The routing listener

The listener hands each event to the routing service, which looks up the
device and its rule in the database and applies it.  What an event does to the
applied entry of a device follows from what one `apply_rule` does to it.
-/

namespace Wardnet.Routing

open List Option Table

/-! ## The database -/

/-- A `devices` row with its routing rule, if it has one. -/
structure StoredDevice where
  id : Uuid
  lastIp : Text
  rule : Option RoutingTarget
  deriving DecidableEq

/-- The tables the service reads: the devices with their rules, and the stored
default policy. -/
structure Store where
  devices : List StoredDevice
  policy : PolicyText
  deriving DecidableEq

def Store.findById (store : Store) (device : Uuid) : Option StoredDevice :=
  Table.find StoredDevice.id store.devices device

def Store.ruleFor (store : Store) (device : Uuid) : Option RoutingTarget :=
  (store.findById device).bind StoredDevice.rule

/-- What the stored rule of a device resolves to; without one, the default
policy. -/
def Store.resolution (store : Store) (device : Uuid) : RoutingTarget :=
  resolveTarget (policyTunnel store.policy) ((store.ruleFor device).getD .default)

def StoredDevice.ruled (row : StoredDevice) : Option RuledDevice :=
  row.rule.map fun target => ⟨row.id, row.lastIp, target⟩

def Store.ruled (store : Store) : List RuledDevice := store.devices.filterMap StoredDevice.ruled

def Store.setRule (store : Store) (device : Uuid) (rule : Option RoutingTarget) : Store :=
  { store with
    devices := Table.update StoredDevice.id store.devices device fun row =>
      { row with rule := rule } }

def Store.setLastIp (store : Store) (device : Uuid) (ip : Text) : Store :=
  { store with
    devices := Table.update StoredDevice.id store.devices device fun row =>
      { row with lastIp := ip } }

/-- Discovery stores the address of a device; a new one has no rule. -/
def Store.register (store : Store) (device : Uuid) (ip : Text) : Store :=
  match store.findById device with
  | some _ => store.setLastIp device ip
  | none => { store with devices := store.devices ++ [⟨device, ip, none⟩] }

/-! ## Events -/

/-- The events the listener acts on, with the fields it reads. -/
inductive Event
  | routingRuleChanged (device : Uuid) (target : RoutingTarget)
  | deviceDiscovered (device : Uuid) (ip : Text)
  | deviceIpChanged (device : Uuid) (newIp : Text)
  | deviceGone (device : Uuid)
  | tunnelUp (tunnel : Uuid)
  | tunnelDown (tunnel : Uuid)
  | defaultPolicyChanged (policy : PolicyText)
  deriving DecidableEq

/-- `apply_rule_for_device`: the target of the event under the stored
address. -/
def applyRuleForDevice (store : Store) (env : Uuid → Env) (state : State)
    (device : Uuid) (target : RoutingTarget) : State :=
  match store.findById device with
  | some row => applyRule state device row.lastIp target (env device)
  | none => state

/-- `apply_rule_for_discovered_device`: the stored rule under the address of
the event. -/
def applyRuleForDiscoveredDevice (store : Store) (env : Uuid → Env)
    (state : State) (device : Uuid) (ip : Text) : State :=
  match store.ruleFor device with
  | some target => applyRule state device ip target (env device)
  | none => state

/-- `handle_default_policy_changed`: the stored policy is read again, and every
device with a `Default` rule is re-applied. -/
def handleDefaultPolicyChanged (store : Store) (env : Uuid → Env) (state : State) : State :=
  applyAll { state with defaultPolicy := policyTunnel store.policy } env
    (store.ruled.filter fun device => device.target = .default)

def handleEvent (store : Store) (env : Uuid → Env) (state : State) : Event → State
  | .routingRuleChanged device target => applyRuleForDevice store env state device target
  | .deviceDiscovered device ip => applyRuleForDiscoveredDevice store env state device ip
  | .deviceIpChanged device newIp => handleIpChange state device newIp (env device)
  | .deviceGone device => removeDeviceRoutes state device
  | .tunnelUp tunnel => handleTunnelUp state tunnel store.ruled env
  | .tunnelDown tunnel => handleTunnelDown state tunnel
  | .defaultPolicyChanged _ => handleDefaultPolicyChanged store env state

/-- `reconcile` on startup: the in-memory state is dropped, every stored rule
applied, and what the kernel has beyond that removed. -/
def reconcile (store : Store) (env : Uuid → Env) (state : State) : State :=
  restoreSwitchback (removeOrphans (applyAll (forgetApplied state) env store.ruled)) env

theorem reconcile_eq_operate (store : Store) (env : Uuid → Env) (state : State) :
    ∃ ops : List DeviceOp, reconcile store env state = ops.foldl operate state := by
  refine ⟨.forgetApplied :: ((store.ruled.map fun device => .applyRule device.id device.lastIp
    device.target (env device.id)) ++ [.removeOrphans, .restoreSwitchback env]), ?_⟩
  rw [foldl_cons, foldl_append, ← applyAll_eq_operate]
  rfl

theorem reconcile_applied (store : Store) (env : Uuid → Env) (state : State) :
    (reconcile store env state).applied =
      (applyAll (forgetApplied state) env store.ruled).applied :=
  (restoreSwitchback_frame ..).1

/-! ## Applied entries -/

/-- Every kernel operation of an `apply_rule` succeeds, and the tunnel is found
under an interface of the daemon. -/
structure Env.Healthy (env : Env) : Prop where
  interface : ((tunnelInterface env).bind parseInterfaceIndex).isSome = true
  routeTable : ∀ attempt, env.addRouteTable attempt = .added
  masquerade : env.addMasquerade = true
  ipRule : env.addIpRule = true

def tunnelRule (ip : Text) (tunnel : Uuid) (table : ℕ)
    (dnsUpstream : UpstreamId) : AppliedRule where
  deviceIp := ip
  target := .tunnel tunnel
  table := some table
  tunnelId := some tunnel
  dnsUpstream := dnsUpstream

/-- What `apply_rule` leaves for a device with a given entry: that entry, a
binding to the resolved tunnel, or a direct entry. -/
inductive Outcome (policy : Option Uuid) (entry : Option AppliedRule)
    (ip : Text) (target : RoutingTarget) (env : Env) : AppliedRule → Prop
  | kept (rule : AppliedRule) : entry = some rule → rule.target = resolveTarget policy target →
      rule.deviceIp = ip → Outcome policy entry ip target env rule
  | bound (tunnel : Uuid) (table : ℕ) (dnsUpstream : UpstreamId) :
      resolveTarget policy target = .tunnel tunnel →
      Outcome policy entry ip target env (tunnelRule ip tunnel table dnsUpstream)
  | direct : (resolveTarget policy target = .direct ∨ ¬ env.Healthy) →
      Outcome policy entry ip target env (directRule ip)

variable {state : State} {device other : Uuid} {ip : Text} {target : RoutingTarget} {env : Env}

theorem Env.Healthy.ensureTunnelTable (hhealthy : env.Healthy) (tables : List ℕ) (table : ℕ) :
    (ensureTunnelTable tables env table).2 = true := by
  unfold Routing.ensureTunnelTable
  split
  · rfl
  · simp [Routing.addRouteTable, routeAddMaxRetries, hhealthy.routeTable, hhealthy.masquerade]

theorem applyRule_outcome :
    ∃ rule, Outcome state.defaultPolicy (state.applied.get device) ip target env rule ∧
      ∀ other, (applyRule state device ip target env).applied.get other =
        if other = device then some rule else state.applied.get other := by
  have hrecord : ∀ (torn : State) (rule : AppliedRule) (other : Uuid),
      torn.applied = (removeDeviceKernelState state device).applied →
      (torn.applied.insert device rule).get other =
        if other = device then some rule else state.applied.get other := by
    intro torn rule other htorn
    rw [HashMap.get_insert, htorn, removeDeviceKernelState_get]
    split <;> rfl
  fun_cases applyRule state device ip target env
  · obtain ⟨rule, hrule, hsame⟩ := (any_eq_true _ _).mp ‹_›
    obtain ⟨htarget, hip⟩ := of_decide_eq_true hsame
    refine ⟨rule, .kept rule hrule htarget hip, fun other => ?_⟩
    split
    next heq =>
      rw [heq, hrule]
    · rfl
  next tunnel interfaceName hinterface hresolved =>
    fun_cases bindToTunnel
    next hindex =>
      refine ⟨directRule ip, .direct (.inr fun hhealthy => ?_), fun other => hrecord _ _ other rfl⟩
      have hsome := hhealthy.interface
      simp [hinterface, hindex] at hsome
    next hfails =>
      refine ⟨directRule ip, .direct (.inr fun hhealthy => ?_), fun other => hrecord _ _ other rfl⟩
      rw [hhealthy.ensureTunnelTable, hhealthy.ipRule] at hfails
      simp at hfails
    · refine ⟨_, .bound tunnel ?_ ?_ hresolved, fun other => ?_⟩
      rotate_left 2
      · rw [(reconcileSwitchbackForDevice_frame ..).1]
        exact hrecord _ (tunnelRule ip tunnel _ _) other rfl
  next hnone =>
    refine ⟨directRule ip, .direct ?_, fun other => ?_⟩
    · cases hresolved : resolveTarget state.defaultPolicy target with
      | direct => exact .inl rfl
      | default =>
        cases target <;> cases hpolicy : state.defaultPolicy <;>
          simp [resolveTarget, hpolicy] at hresolved
      | tunnel tunnel =>
        refine .inr fun hhealthy => ?_
        have hsome := hhealthy.interface
        cases hinterface : tunnelInterface env with
        | none => simp [hinterface] at hsome
        | some interfaceName => exact hnone tunnel interfaceName hresolved hinterface
    · rw [(reconcileSwitchbackForDevice_frame ..).1]
      exact hrecord _ _ other rfl

theorem applyRule_get_of_ne (hne : other ≠ device) :
    (applyRule state device ip target env).applied.get other = state.applied.get other := by
  obtain ⟨rule, -, hget⟩ := applyRule_outcome
  rw [hget, if_neg hne]

variable {envs : Uuid → Env} {devices : List RuledDevice}

theorem applyAll_defaultPolicy :
    (applyAll state envs devices).defaultPolicy = state.defaultPolicy := by
  induction devices generalizing state with
  | nil => rfl
  | cons first devices ih => rw [applyAll, ih, applyRule_defaultPolicy]

theorem reconcile_defaultPolicy (store : Store) (envs : Uuid → Env) (state : State) :
    (reconcile store envs state).defaultPolicy = state.defaultPolicy := by
  rw [reconcile, (restoreSwitchback_frame ..).2.2]
  exact applyAll_defaultPolicy

theorem applyAll_get_of_notMem (hmem : device ∉ devices.map RuledDevice.id) :
    (applyAll state envs devices).applied.get device = state.applied.get device := by
  induction devices generalizing state with
  | nil => rfl
  | cons first devices ih =>
    rw [map_cons, mem_cons, not_or] at hmem
    rw [applyAll, ih hmem.2, applyRule_get_of_ne hmem.1]

variable {entry : RuledDevice}

theorem applyAll_outcome (hnodup : (devices.map RuledDevice.id).Nodup) (hentry : entry ∈ devices) :
    ∃ rule, Outcome state.defaultPolicy (state.applied.get entry.id)
        entry.lastIp entry.target (envs entry.id) rule ∧
      (applyAll state envs devices).applied.get entry.id = some rule := by
  induction devices generalizing state with
  | nil => cases hentry
  | cons first devices ih =>
    rw [map_cons, nodup_cons] at hnodup
    rw [applyAll]
    rcases mem_cons.mp hentry with rfl | hrest
    · obtain ⟨rule, houtcome, hget⟩ := applyRule_outcome
      refine ⟨rule, houtcome, ?_⟩
      rw [applyAll_get_of_notMem hnodup.1, hget, if_pos rfl]
    · have hne : entry.id ≠ first.id := by
        intro heq
        exact hnodup.1 (heq ▸ mem_map_of_mem hrest)
      obtain ⟨rule, houtcome, hget⟩ := ih hnodup.2 hrest
      rw [applyRule_get_of_ne hne, applyRule_defaultPolicy] at houtcome
      exact ⟨rule, houtcome, hget⟩

/-! ## Stored rules -/

variable {store : Store}

theorem StoredDevice.ruled_eq_some {row : StoredDevice} :
    row.ruled = some entry ↔ row.id = entry.id ∧ row.lastIp = entry.lastIp ∧
      row.rule = some entry.target := by
  cases row with
  | mk id lastIp rule =>
    cases entry with
    | mk entryId entryIp entryTarget =>
      cases rule with
      | none | some => simp [StoredDevice.ruled]

theorem mem_ruled (hids : (store.devices.map StoredDevice.id).Nodup) :
    entry ∈ store.ruled ↔ ∃ row, store.findById entry.id = some row ∧
      row.lastIp = entry.lastIp ∧ row.rule = some entry.target := by
  simp only [Store.ruled, mem_filterMap, StoredDevice.ruled_eq_some]
  constructor
  · rintro ⟨row, hrow, hid, hip, hrule⟩
    refine ⟨row, ?_, hip, hrule⟩
    rw [← hid]
    exact find_of_mem hids hrow
  · rintro ⟨row, hfind, hip, hrule⟩
    obtain ⟨hrow, hid⟩ := find_eq_some hfind
    exact ⟨row, hrow, hid, hip, hrule⟩

theorem nodup_ruled (hids : (store.devices.map StoredDevice.id).Nodup) :
    (store.ruled.map RuledDevice.id).Nodup := by
  rw [Nodup, pairwise_map] at hids ⊢
  refine pairwise_filterMap.mpr (hids.imp fun hne entry hentry entry' hentry' => ?_)
  rwa [← (StoredDevice.ruled_eq_some.mp hentry).1, ← (StoredDevice.ruled_eq_some.mp hentry').1]

variable {rule : Option RoutingTarget}

theorem findById_setRule (other : Uuid) : (store.setRule device rule).findById other =
      if other = device then (store.findById device).map fun row => { row with rule := rule }
      else store.findById other := by
  have hkey : ∀ row : StoredDevice, { row with rule := rule }.id = row.id := fun _ => rfl
  exact find_update hkey other

theorem ruleFor_setRule (other : Uuid) : (store.setRule device rule).ruleFor other =
      if other = device then (store.findById device).bind fun _ => rule
      else store.ruleFor other := by
  simp only [Store.ruleFor, findById_setRule]
  split
  · rw [Option.bind_map]
    rfl
  · rfl

@[simp]
theorem ruleFor_setLastIp (other : Uuid) :
    (store.setLastIp device ip).ruleFor other = store.ruleFor other := by
  have hkey : ∀ row : StoredDevice, { row with lastIp := ip }.id = row.id := fun _ => rfl
  simp only [Store.ruleFor, Store.findById, Store.setLastIp, find_update hkey]
  split
  next heq =>
    rw [heq, Option.bind_map]
    rfl
  · rfl

section

variable (hids : (store.devices.map StoredDevice.id).Nodup)
include hids

theorem nodup_setLastIp : ((store.setLastIp device ip).devices.map StoredDevice.id).Nodup :=
  nodup_update (fun _ => rfl) hids

theorem nodup_register : ((store.register device ip).devices.map StoredDevice.id).Nodup := by
  unfold Store.register
  cases hfind : store.findById device with
  | some row => exact nodup_setLastIp hids
  | none => exact nodup_append hids (find_eq_none.mp hfind)

end

@[simp]
theorem ruleFor_register (other : Uuid) :
    (store.register device ip).ruleFor other = store.ruleFor other := by
  unfold Store.register
  cases hfind : store.findById device with
  | some row => exact ruleFor_setLastIp other
  | none =>
    let row : StoredDevice := ⟨device, ip, none⟩
    have hfresh : ∀ old ∈ store.devices, old.id ≠ row.id := find_eq_none.mp hfind
    have hfound : find StoredDevice.id (store.devices ++ [row])
        other = if other = device then some row
          else store.findById other := find_append hfresh other
    simp only [Store.ruleFor, Store.findById] at hfind hfound ⊢
    rw [hfound]
    split
    next heq =>
      rw [heq, hfind]
      rfl
    · rfl

variable {select : RuledDevice → Bool}

theorem applyAll_ruled_outcome (state : State) (hids : (store.devices.map StoredDevice.id).Nodup)
    {row : StoredDevice} (hrow : store.findById device = some row) (hrule : row.rule = some target)
    (hselect : select ⟨device, row.lastIp, target⟩ = true) :
    ∃ rule, Outcome state.defaultPolicy (state.applied.get device)
        row.lastIp target (envs device) rule ∧
      (applyAll state envs (store.ruled.filter select)).applied.get device = some rule := by
  have hnodup : ((store.ruled.filter select).map RuledDevice.id).Nodup :=
    (nodup_ruled hids).sublist (filter_sublist.map _)
  have hentry : (⟨device, row.lastIp, target⟩ : RuledDevice) ∈ store.ruled.filter select :=
    mem_filter.mpr ⟨(mem_ruled hids).mpr ⟨row, hrow, rfl, hrule⟩, hselect⟩
  exact applyAll_outcome hnodup hentry

theorem applyAll_ruled_get (state : State) (hids : (store.devices.map StoredDevice.id).Nodup)
    (hskip : ∀ row target, store.findById device = some row →
      row.rule = some target → select ⟨device, row.lastIp, target⟩ = false) :
    (applyAll state envs (store.ruled.filter select)).applied.get device =
      state.applied.get device := by
  apply applyAll_get_of_notMem
  intro hmem
  obtain ⟨⟨id, lastIp, target⟩, hentry, rfl⟩ := mem_map.mp hmem
  obtain ⟨hruled, hselected⟩ := mem_filter.mp hentry
  obtain ⟨row, hrow, rfl, hrule⟩ := (mem_ruled hids).mp hruled
  rw [hskip row target hrow hrule] at hselected
  cases hselected

/-! ## What an event applies -/

/-- The address and the target that an event applies to a device. -/
def assigned (store : Store) (state : State) (device : Uuid) : Event → Option (Text × RoutingTarget)
  | .routingRuleChanged changed target =>
    if changed = device then (store.findById device).map fun row => (row.lastIp, target)
    else none
  | .deviceDiscovered found ip =>
    if found = device then (store.ruleFor device).map fun target => (ip, target)
    else none
  | .deviceIpChanged moved newIp =>
    if moved = device then (state.applied.get device).map fun rule => (newIp, rule.target)
    else none
  | .deviceGone _ | .tunnelDown _ => none
  | .tunnelUp tunnel =>
    (store.findById device).bind fun row => row.rule.bind fun target =>
      if resolveTarget state.defaultPolicy target = .tunnel tunnel then some (row.lastIp, target)
      else none
  | .defaultPolicyChanged _ =>
    (store.findById device).bind fun row =>
      if row.rule = some .default then some (row.lastIp, .default)
      else none

variable {event : Event}

/-- An event assigns a device the target it announces, the stored rule of the
device, or the target the device is bound to. -/
theorem assigned_source (hassigned : assigned store state device event = some (ip, target)) :
    event = .routingRuleChanged device target ∨ store.ruleFor device = some target ∨
      ∃ rule, state.applied.get device = some rule ∧ rule.target = target := by
  revert hassigned
  fun_cases assigned store state device event
  any_goals rintro ⟨⟩
  · rw [map_eq_some_iff]
    rintro ⟨row, -, ⟨⟩⟩
    exact .inl rfl
  · rw [map_eq_some_iff]
    rintro ⟨stored, hrule, ⟨⟩⟩
    exact .inr (.inl hrule)
  · rw [map_eq_some_iff]
    rintro ⟨rule, hget, ⟨⟩⟩
    exact .inr (.inr ⟨rule, hget, rfl⟩)
  · simp only [bind_eq_some_iff, ite_none_right_eq_some]
    rintro ⟨row, hrow, stored, hrule, -, ⟨⟩⟩
    exact .inr (.inl (bind_eq_some_iff.mpr ⟨row, hrow, hrule⟩))
  · simp only [bind_eq_some_iff, ite_none_right_eq_some]
    rintro ⟨row, hrow, hrule, ⟨⟩⟩
    exact .inr (.inl (bind_eq_some_iff.mpr ⟨row, hrow, hrule⟩))

/-- The policy that the targets of an event are resolved with. -/
def policyAfter (store : Store) (state : State) : Event → Option Uuid
  | .defaultPolicyChanged _ => policyTunnel store.policy
  | _ => state.defaultPolicy

theorem removeAll_defaultPolicy {devices : List Uuid} :
    (removeAll state devices).defaultPolicy = state.defaultPolicy := by
  induction devices generalizing state with
  | nil => rfl
  | cons first devices ih => rw [removeAll, ih, removeDeviceKernelState_defaultPolicy]

theorem handleEvent_defaultPolicy (event : Event) :
    (handleEvent store envs state event).defaultPolicy = policyAfter store state event := by
  cases event with
  | routingRuleChanged device target =>
    simp only [handleEvent, applyRuleForDevice, policyAfter]
    split
    · exact applyRule_defaultPolicy ..
    · rfl
  | deviceDiscovered device ip =>
    simp only [handleEvent, applyRuleForDiscoveredDevice, policyAfter]
    split
    · exact applyRule_defaultPolicy ..
    · rfl
  | deviceIpChanged device newIp =>
    simp only [handleEvent, handleIpChange, policyAfter]
    split
    · rw [applyRule_defaultPolicy, removeDeviceKernelState_defaultPolicy]
    · exact removeDeviceKernelState_defaultPolicy ..
  | deviceGone device => exact removeDeviceKernelState_defaultPolicy state device
  | tunnelUp | defaultPolicyChanged => exact applyAll_defaultPolicy
  | tunnelDown tunnel =>
    simp only [handleEvent, handleTunnelDown, policyAfter]
    split <;> exact removeAll_defaultPolicy

/-- A device to which an event applies nothing keeps its entry, or loses
it. -/
theorem handleEvent_of_unassigned (hids : (store.devices.map StoredDevice.id).Nodup)
    (hassigned : assigned store state device event = none) :
    (handleEvent store envs state event).applied.get device = state.applied.get device ∨
      (handleEvent store envs state event).applied.get device = none := by
  cases event with
  | routingRuleChanged changed | deviceDiscovered changed =>
    left
    simp only [handleEvent, applyRuleForDevice, applyRuleForDiscoveredDevice]
    simp only [assigned] at hassigned
    split at hassigned
    next heq =>
      rw [map_eq_none_iff] at hassigned
      rw [heq, hassigned]
    next hne =>
      split
      · exact applyRule_get_of_ne fun heq => hne heq.symm
      · rfl
  | deviceIpChanged moved newIp =>
    simp only [handleEvent, handleIpChange]
    simp only [assigned] at hassigned
    split at hassigned
    next heq =>
      rw [map_eq_none_iff] at hassigned
      simp [heq, hassigned, removeDeviceKernelState_get]
    next hne =>
      have hother : device ≠ moved := fun heq => hne heq.symm
      left
      split
      · rw [applyRule_get_of_ne hother, removeDeviceKernelState_get, if_neg hother]
      · rw [removeDeviceKernelState_get, if_neg hother]
  | deviceGone gone =>
    simp only [handleEvent, removeDeviceRoutes, removeDeviceKernelState_get]
    split
    · exact .inr rfl
    · exact .inl rfl
  | tunnelUp tunnel =>
    left
    apply applyAll_ruled_get state hids
    intro row target hrow hrule
    simpa [assigned, hrow, hrule] using hassigned
  | tunnelDown tunnel =>
    have hget : (handleEvent store envs state (.tunnelDown tunnel)).applied.get device =
        if device ∈ (state.applied.toList.filter fun entry =>
          entry.2.tunnelId = some tunnel).map Prod.fst then none
        else state.applied.get device := by
      simp only [handleEvent, handleTunnelDown]
      split <;> exact removeAll_get
    rw [hget]
    split
    · exact .inr rfl
    · exact .inl rfl
  | defaultPolicyChanged policy =>
    left
    apply applyAll_ruled_get { state with defaultPolicy := policyTunnel store.policy } hids
    intro row target hrow hrule
    simpa [assigned, hrow, hrule] using hassigned

/-- A device to which an event applies a target ends up with an outcome of
applying it. -/
theorem handleEvent_of_assigned (hids : (store.devices.map StoredDevice.id).Nodup)
    (hassigned : assigned store state device event = some (ip, target)) :
    ∃ rule, Outcome (policyAfter store state event)
        (state.applied.get device) ip target (envs device) rule ∧
      (handleEvent store envs state event).applied.get device = some rule := by
  revert hassigned
  fun_cases assigned store state device event
  any_goals rintro ⟨⟩
  · rw [map_eq_some_iff]
    rintro ⟨row, hrow, ⟨⟩⟩
    obtain ⟨rule, houtcome, hget⟩ := applyRule_outcome
    refine ⟨rule, houtcome, ?_⟩
    simp only [handleEvent, applyRuleForDevice, hrow]
    exact (hget device).trans (if_pos rfl)
  · rw [map_eq_some_iff]
    rintro ⟨stored, hrule, ⟨⟩⟩
    obtain ⟨rule, houtcome, hget⟩ := applyRule_outcome
    refine ⟨rule, houtcome, ?_⟩
    simp only [handleEvent, applyRuleForDiscoveredDevice, hrule]
    exact (hget device).trans (if_pos rfl)
  · rw [map_eq_some_iff]
    rintro ⟨old, hold, ⟨⟩⟩
    simp only [handleEvent, handleIpChange, hold, map_some]
    obtain ⟨rule, houtcome, hget⟩ := applyRule_outcome
    refine ⟨rule, ?_, (hget device).trans (if_pos rfl)⟩
    cases houtcome with
    | kept rule hrule => simp [removeDeviceKernelState_get] at hrule
    | bound tunnel table dnsUpstream hresolved =>
      simp only [removeDeviceKernelState_defaultPolicy] at hresolved
      exact .bound tunnel table dnsUpstream hresolved
    | direct hdirect =>
      simp only [removeDeviceKernelState_defaultPolicy] at hdirect
      exact .direct hdirect
  · simp only [bind_eq_some_iff, ite_none_right_eq_some]
    rintro ⟨row, hrow, stored, hrule, hresolved, ⟨⟩⟩
    exact applyAll_ruled_outcome state hids hrow hrule (by simpa using hresolved)
  · simp only [bind_eq_some_iff, ite_none_right_eq_some]
    rintro ⟨row, hrow, hrule, ⟨⟩⟩
    apply applyAll_ruled_outcome { state with defaultPolicy := policyTunnel store.policy } hids hrow
      hrule
    exact decide_eq_true rfl

end Wardnet.Routing
