import Wardnet.Routing.Unruled
import Wardnet.Zone.Gates

/-!
# Clamped default bindings

A zone may forbid tunnels to its devices.  The write-time checks of rules and
zones keep to that, but a change of the default policy gives every `Default`
rule another target at once, so the zone enforcer then pins the devices of such
zones back to direct.  It does so when it handles the policy change and at no
other time, while the routing listener re-applies `Default` rules on several
events and without regard to zones.  Both listeners write the same bindings,
each in the order of its own queue.

The packet rules that the enforcer installs on the same events are those of the
zone gates; here only its effect on the bindings is followed.
-/

namespace Wardnet.Clamp

open Net Transition Routing Zone

/-! ## Events and the database -/

/-- The events the two listeners act on. -/
inductive Event
  | defaultPolicyChanged (policy : PolicyText)
  | deviceDiscovered (device : Uuid) (addr : Ipv4Addr)
  | deviceIpChanged (device : Uuid) (addr : Ipv4Addr)
  | deviceGone (device : Uuid)
  | tunnelUp (tunnel : Uuid)
  | tunnelDown (tunnel : Uuid)
  | zoneChanged (event : ZoneEvent)
  deriving DecidableEq

def addressText (addr : Ipv4Addr) : Text := (display addr).toList

/-- What the routing listener makes of an event; those of zones it ignores. -/
def Event.routing : Event → Option Routing.Event
  | .defaultPolicyChanged policy => some (.defaultPolicyChanged policy)
  | .deviceDiscovered device addr => some (.deviceDiscovered device (addressText addr))
  | .deviceIpChanged device addr => some (.deviceIpChanged device (addressText addr))
  | .deviceGone device => some (.deviceGone device)
  | .tunnelUp tunnel => some (.tunnelUp tunnel)
  | .tunnelDown tunnel => some (.tunnelDown tunnel)
  | .zoneChanged _ => none

/-- A `devices` row as the routing service reads it; an absent device is stored
with an empty address. -/
def stored (row : Device) : StoredDevice where
  id := row.id
  lastIp := (row.lastIp.map addressText).getD []
  rule := row.rule

/-- The tables with the stored default policy, the routing service, and the
events each listener has still to handle. -/
structure Network where
  db : Database
  policy : PolicyText
  routing : State
  toRoute : List Event
  toEnforce : List Event
  deriving DecidableEq

def Network.store (network : Network) : Store where
  devices := network.db.devices.map stored
  policy := network.policy

def Network.setPolicy (network : Network) (policy : PolicyText) : Network :=
  { network with
    db := { network.db with defaultPolicy := policyTunnel policy }
    policy := policy }

def Network.setRouting (network : Network) (routing : State) : Network :=
  { network with routing := routing }

def Network.publish (network : Network) (event : Event) : Network :=
  { network with
    toRoute := network.toRoute ++ [event]
    toEnforce := network.toEnforce ++ [event] }

/-! ## The enforcer -/

/-- A row that `clamp_default_bindings` pins to direct: it has a `Default` rule
and its zone forbids the kind the policy resolves to, but permits direct. -/
def clamps (db : Database) (kind : AllowedTargetKind) (row : Device) : Bool :=
  row.rule = some .default &&
    (db.findZone row.zoneId).any fun zone => !zone.permitsKind kind && zone.permitsKind .direct

/-- `apply_rule_for_device` with `Direct` for the listed rows in turn. -/
def pinAll (store : Store) (env : Uuid → Env) : State → List Device → State
  | state, [] => state
  | state, row :: rows => pinAll store env (applyRuleForDevice store env state row.id .direct) rows

def clampDefaultBindings (network : Network) (env : Uuid → Env) (policy : PolicyText) : State :=
  match AllowedTargetKind.ofTarget (fromDefaultPolicy policy) with
  | none => network.routing
  | some kind =>
    pinAll network.store env network.routing (network.db.devices.filter (clamps network.db kind))

/-- `handle_event` of the zone enforcement listener, as far as the bindings
go: the policy is that of the event. -/
def enforceEvent (network : Network) (env : Uuid → Env) : Event → State
  | .defaultPolicyChanged policy => clampDefaultBindings network env policy
  | .deviceDiscovered .. | .deviceIpChanged .. | .deviceGone _ | .tunnelUp _
  | .tunnelDown _ | .zoneChanged _ => network.routing

def routeEvent (network : Network) (env : Uuid → Env) (event : Event) : State :=
  match event.routing with
  | some routed => handleEvent network.store env network.routing routed
  | none => network.routing

/-! ## Runs -/

/-- A call or a change of the network, which writes the tables and publishes
its event, or a step of one of the listeners. -/
inductive Label
  | setDefaultPolicy (policy : PolicyText)
  | deleteTunnel (tunnel : Uuid)
  | deviceDiscovered (device : Uuid) (addr : Ipv4Addr)
  | deviceIpChanged (device : Uuid) (addr : Ipv4Addr)
  | deviceGone (device : Uuid)
  | tunnelUp (tunnel : Uuid)
  | tunnelDown (tunnel : Uuid)
  | operation (operation : Operation)
  | route (env : Uuid → Env)
  | enforce (env : Uuid → Env)

def Network.write (network : Network) (db : Database) (event : Event) : Network :=
  Network.publish { network with db := db } event

/-- One step.  `set_default_policy` updates the cached policy at once; the
deletion of the tunnel that the policy names leaves that to the listener. -/
def Network.next (network : Network) : Label → Option Network
  | .setDefaultPolicy policy =>
    if acceptsPolicy policy then
      some (((network.setPolicy policy).setRouting { network.routing with
          defaultPolicy := policyTunnel policy }).publish
        (.defaultPolicyChanged policy))
    else none
  | .deleteTunnel tunnel =>
    if policyTunnel network.policy = some tunnel then
      some ((network.setPolicy directPolicy).publish (.defaultPolicyChanged directPolicy))
    else some network
  | .deviceDiscovered device addr =>
    (network.db.register device addr).map fun db => network.write db (.deviceDiscovered device addr)
  | .deviceIpChanged device addr =>
    some (network.write (network.db.setLastIp device (some addr)) (.deviceIpChanged device addr))
  | .deviceGone device =>
    some (network.write (network.db.setLastIp device none) (.deviceGone device))
  | .tunnelUp tunnel => some (network.publish (.tunnelUp tunnel))
  | .tunnelDown tunnel => some (network.publish (.tunnelDown tunnel))
  | .operation operation =>
    (accept network.db operation).map fun result =>
      match result.2 with
      | some event => network.write result.1 (.zoneChanged event)
      | none => { network with db := result.1 }
  | .route env =>
    match network.toRoute with
    | [] => none
    | event :: rest =>
      some { network with
        routing := routeEvent network env event
        toRoute := rest }
  | .enforce env =>
    match network.toEnforce with
    | [] => none
    | event :: rest =>
      some { network with
        routing := enforceEvent network env event
        toEnforce := rest }

/-- The daemon has just started: the routing service has applied the stored
rules, and the enforcer has clamped them to the stored policy. -/
def Network.boot (db : Database) (policy : PolicyText) (env : Uuid → Env) : Network :=
  let fresh : Network :=
    { db := { db with defaultPolicy := policyTunnel policy }
      policy := policy
      routing := .new (policyTunnel policy)
      toRoute := []
      toEnforce := [] }
  let reconciled := fresh.setRouting (Routing.reconcile fresh.store env fresh.routing)
  reconciled.setRouting (clampDefaultBindings reconciled env policy)

/-- The device has a `Default` rule, and its zone forbids tunnels but permits
direct. -/
def Clamped (db : Database) (device : Uuid) : Prop :=
  ∃ row ∈ db.findDevice device, clamps db .tunnel row = true
  deriving Decidable

def Event.isPolicyChange : Event → Bool
  | .defaultPolicyChanged _ => true
  | .deviceDiscovered .. | .deviceIpChanged .. | .deviceGone _ | .tunnelUp _
  | .tunnelDown _ | .zoneChanged _ => false

/-- The event announces a policy that routes through a tunnel. -/
def Event.isTunnelPolicy : Event → Bool
  | .defaultPolicyChanged policy => (policyTunnel policy).isSome
  | .deviceDiscovered .. | .deviceIpChanged .. | .deviceGone _ | .tunnelUp _
  | .tunnelDown _ | .zoneChanged _ => false

def Network.ClampPending (network : Network) : Prop :=
  ∃ event ∈ network.toEnforce, event.isTunnelPolicy = true
  deriving Decidable

/-- The routing listener is about to apply the `Default` rule of the device. -/
def Network.Reapplies (network : Network) (event : Event) (device : Uuid) : Prop :=
  ∃ routed ∈ event.routing,
    ∃ applied ∈ assigned network.store network.routing device routed, applied.2 = .default
  deriving Decidable

/-- The condition on a step: when the stored policy is a tunnel, the routing
listener applies the `Default` rule of a device whose zone forbids it only
while the enforcer is still going to clamp. -/
def Network.Orderly (network : Network) : Label → Prop
  | .route _ => ∀ event ∈ network.toRoute.head?, policyTunnel network.policy ≠ none →
        ∀ row ∈ network.db.devices, Clamped network.db row.id →
          network.Reapplies event row.id → network.ClampPending
  | _ => True

instance (network : Network) (label) : Decidable (network.Orderly label) := by
  cases label <;> delta Network.Orderly <;> infer_instance

/-! ## Entries -/

variable {network after : Network} {env : Uuid → Env} {device : Uuid}
  {event : Event} {state : State}

@[simp]
theorem store_ids (network : Network) :
    network.store.devices.map StoredDevice.id = network.db.devices.map Device.id := by
  simp [Network.store, stored, Function.comp_def]

theorem findById_store (network : Network) (device : Uuid) :
    network.store.findById device = (network.db.findDevice device).map stored := by
  unfold Store.findById Network.store Table.find
  rw [List.find?_map]
  rfl

/-- A direct entry has no routing table. -/
def Shaped (state : State) : Prop :=
  ∀ device rule, state.applied.get device = some rule → rule.target = .direct → rule.table = none

variable {target : RoutingTarget}

section

variable (hshaped : Shaped state)
include hshaped

theorem Shaped.of_outcome {policy : Option Uuid} {ip : Text} {env : Env}
    {rule : AppliedRule} (houtcome : Routing.Outcome policy (state.applied.get device) ip target
      env rule) (hdirect : rule.target = .direct) : rule.table = none := by
  cases houtcome with
  | kept rule hentry => exact hshaped device rule hentry hdirect
  | bound tunnel table dnsUpstream => cases hdirect
  | direct => rfl

theorem Shaped.applyRule {ip : Text} {env : Env} :
    Shaped (applyRule state device ip target env) := by
  obtain ⟨rule, houtcome, hget⟩ := applyRule_outcome
  intro other found hfound
  rw [hget] at hfound
  split at hfound
  · cases hfound
    exact hshaped.of_outcome houtcome
  · exact hshaped other found hfound

theorem Shaped.applyAll {devices : List RuledDevice} : Shaped (applyAll state env devices) := by
  induction devices generalizing state with
  | nil => exact hshaped
  | cons first devices ih => exact ih hshaped.applyRule

theorem Shaped.applyRuleForDevice {store : Store} :
    Shaped (applyRuleForDevice store env state device target) := by
  unfold Routing.applyRuleForDevice
  split
  · exact hshaped.applyRule
  · exact hshaped

theorem Shaped.handleEvent {store : Store} {event : Routing.Event}
    (hids : (store.devices.map StoredDevice.id).Nodup) :
    Shaped (handleEvent store env state event) := by
  intro device rule hrule
  cases hassigned : assigned store state device event with
  | none =>
    rcases handleEvent_of_unassigned hids hassigned with hsame | hgone
    · rw [hsame] at hrule
      exact hshaped device rule hrule
    · rw [hgone] at hrule
      cases hrule
  | some applied =>
    obtain ⟨found, houtcome, hget⟩ := handleEvent_of_assigned hids hassigned
    cases hget.symm.trans hrule
    exact hshaped.of_outcome houtcome

end

/-! ## Pinning -/

variable {store : Store} {rows : List Device}

/-- The listed devices end up direct, and those that are direct stay so. -/
theorem effective_pinAll (hstored : ∀ row ∈ rows, store.findById row.id ≠ none)
    (hdirect : effective state device = .direct ∨ device ∈ rows.map Device.id) :
    effective (pinAll store env state rows) device = .direct := by
  induction rows generalizing state with
  | nil => exact hdirect.resolve_right List.not_mem_nil
  | cons row rows ih =>
    have hrest : ∀ row ∈ rows, store.findById row.id ≠ none :=
      fun row hrow => hstored row (List.mem_cons_of_mem _ hrow)
    apply ih hrest
    by_cases heq : device = row.id
    · left
      subst heq
      obtain ⟨found, hfound⟩ := Option.ne_none_iff_exists'.mp (hstored row List.mem_cons_self)
      obtain ⟨rule, houtcome, hget⟩ :=
        @applyRule_outcome state row.id found.lastIp .direct (env row.id)
      simp only [applyRuleForDevice, hfound]
      rw [effective, hget, if_pos rfl]
      cases houtcome with
      | kept rule hentry htarget => exact htarget
      | bound tunnel table dnsUpstream hresolved => cases hresolved
      | direct => rfl
    · refine hdirect.imp (Eq.trans ?_) fun hmem => (List.mem_cons.mp hmem).resolve_left heq
      unfold applyRuleForDevice
      split
      · rw [effective, applyRule_get_of_ne heq]
        rfl
      · rfl

theorem pinAll_defaultPolicy :
    (pinAll store env state rows).defaultPolicy = state.defaultPolicy := by
  induction rows generalizing state with
  | nil => rfl
  | cons row rows ih =>
    rw [pinAll, ih, applyRuleForDevice]
    split
    · exact applyRule_defaultPolicy ..
    · rfl

theorem Shaped.pinAll (hshaped : Shaped state) : Shaped (pinAll store env state rows) := by
  induction rows generalizing state with
  | nil => exact hshaped
  | cons row rows ih => exact ih hshaped.applyRuleForDevice

end Wardnet.Clamp
