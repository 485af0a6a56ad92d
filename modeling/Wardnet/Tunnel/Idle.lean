import Wardnet.Routing.Listener

/-!
# The idle-tunnel watcher

The watcher starts a countdown for a tunnel that no applied rule is bound to,
and a periodic sweep tears down the tunnels whose countdown has run out.  A
countdown is cancelled by the announcement of a rule with that very tunnel and
by the tunnel going down; the sweep does not ask again who uses the tunnel.
The routing listener binds devices to tunnels on other events as well, so a
tunnel may come back into use while its countdown goes on.

The watcher and the routing listener each have their own queue of the published
events and handle one event in one step.
-/

namespace Wardnet.Idle

open HashMap List Routing Transition

/-! ## The watcher -/

/-- `IdleState`: the countdowns by their start, and the tunnels that are up. -/
structure IdleState where
  idleSince : HashMap Uuid ℕ
  activeTunnels : List Uuid
  deriving DecidableEq

def IdleState.new : IdleState where
  idleSince := .empty
  activeTunnels := []

/-- An event; `previous_target` is that of a rule change. -/
structure Published where
  event : Event
  previousTarget : Option RoutingTarget
  deriving DecidableEq

def devicesUsingTunnel (routing : State) (tunnel : Uuid) : List Uuid :=
  (routing.applied.toList.filter fun entry => entry.2.tunnelId = some tunnel).map Prod.fst

/-- A tunnel without devices starts its countdown, unless it has one. -/
def IdleState.startIfUnused (routing : State) (now : ℕ) (idle : IdleState)
    (tunnel : Uuid) : IdleState :=
  if devicesUsingTunnel routing tunnel = [] ∧ idle.idleSince.get tunnel = none then
    { idle with idleSince := idle.idleSince.insert tunnel now }
  else idle

def IdleState.stop (idle : IdleState) (tunnel : Uuid) : IdleState :=
  { idle with idleSince := idle.idleSince.remove tunnel }

/-- `handle_event` of the watcher. -/
def IdleState.handleEvent (routing : State) (now : ℕ) (idle : IdleState)
    (published : Published) : IdleState :=
  match published.event with
  | .routingRuleChanged _ target =>
    let checked :=
      match published.previousTarget with
      | some (.tunnel tunnel) => idle.startIfUnused routing now tunnel
      | _ => idle
    match target with
    | .tunnel tunnel => checked.stop tunnel
    | _ => checked
  | .deviceGone _ => idle.activeTunnels.foldl (IdleState.startIfUnused routing now) idle
  | .tunnelUp tunnel => { idle with activeTunnels := idle.activeTunnels.insert tunnel }
  | .tunnelDown tunnel =>
    { idle.stop tunnel with
      activeTunnels := idle.activeTunnels.filter (· ≠ tunnel) }
  | .deviceDiscovered .. | .deviceIpChanged .. | .defaultPolicyChanged _ => idle

/-- The tunnels that `sweep_idle` is going to tear down. -/
def IdleState.expired (idle : IdleState) (timeout now : ℕ) : List Uuid :=
  (idle.idleSince.toList.filter fun entry => timeout ≤ now - entry.2).map Prod.fst

/-! ## The watcher and the routing listener -/

/-- The database, the routing service and the watcher, the events each of the
two has still to handle, the rest of the sweep in progress, and the tunnels
torn down so far, each with the devices that were bound to it. -/
structure Daemon where
  store : Store
  routing : State
  idle : IdleState
  toRoute : List Event
  toWatch : List Published
  expired : List Uuid
  tornDown : List (Uuid × List Uuid)
  deriving DecidableEq

def Daemon.start (store : Store) (routing : State) : Daemon where
  store := store
  routing := routing
  idle := .new
  toRoute := []
  toWatch := []
  expired := []
  tornDown := []

inductive Label
  /-- Other services change the database. -/
  | persist (store : Store)
  | publish (published : Published)
  /-- The routing listener handles its next event. -/
  | route (env : Uuid → Env)
  /-- The watcher handles its next event. -/
  | watch (now : ℕ)
  /-- A sweep begins. -/
  | sweep (now : ℕ)
  /-- The sweep calls `tear_down_internal` for its next tunnel, which is up or
  not. -/
  | tearDown (isUp : Bool)

def Daemon.publish (daemon : Daemon) (published : Published) : Daemon :=
  { daemon with
    toRoute := daemon.toRoute ++ [published.event]
    toWatch := daemon.toWatch ++ [published] }

/-- `tear_down_core`: a tunnel that is up goes down with an event. -/
def Daemon.tearDownCore (daemon : Daemon) (tunnel : Uuid) (isUp : Bool) : Daemon :=
  if isUp then daemon.publish ⟨.tunnelDown tunnel, none⟩ else daemon

def Daemon.next (timeout : ℕ) (daemon : Daemon) : Label → Option Daemon
  | .persist store =>
    if (store.devices.map StoredDevice.id).Nodup then some { daemon with store := store }
    else none
  | .publish published => some (daemon.publish published)
  | .route env =>
    match daemon.toRoute with
    | [] => none
    | event :: rest =>
      some { daemon with
        routing := handleEvent daemon.store env daemon.routing event
        toRoute := rest }
  | .watch now =>
    match daemon.expired, daemon.toWatch with
    | [], published :: rest =>
      some { daemon with
        idle := daemon.idle.handleEvent daemon.routing now published
        toWatch := rest }
    | _, _ => none
  | .sweep now =>
    match daemon.expired with
    | [] => some { daemon with expired := daemon.idle.expired timeout now }
    | _ :: _ => none
  | .tearDown isUp =>
    match daemon.expired with
    | [] => none
    | tunnel :: rest =>
      some (Daemon.tearDownCore { daemon with
          idle := daemon.idle.stop tunnel
          expired := rest
          tornDown :=
            (tunnel, devicesUsingTunnel daemon.routing tunnel) :: daemon.tornDown } tunnel isUp)

/-- The watcher ends the countdown of the tunnel when it handles the event. -/
def cancels (tunnel : Uuid) : Event → Bool
  | .routingRuleChanged _ target => target = .tunnel tunnel
  | .tunnelDown down => down = tunnel
  | .deviceDiscovered .. | .deviceIpChanged .. | .deviceGone _ | .tunnelUp _
  | .defaultPolicyChanged _ => false

/-- The watcher has such an event still to handle. -/
def Daemon.Reclaimed (daemon : Daemon) (tunnel : Uuid) : Prop :=
  ∃ published ∈ daemon.toWatch, cancels tunnel published.event = true
  deriving Decidable

/-- The devices an event may concern. -/
def Daemon.knownDevices (daemon : Daemon) : List Uuid :=
  daemon.store.devices.map StoredDevice.id ++ daemon.routing.applied.toList.map Prod.fst

/-- The routing listener is about to apply to some device a target that
resolves to the tunnel. -/
def Daemon.Retargets (daemon : Daemon) (event : Event) (tunnel : Uuid) : Prop :=
  ∃ device ∈ daemon.knownDevices, ∃ applied ∈ assigned daemon.store daemon.routing device event,
      resolveTarget (policyAfter daemon.store daemon.routing event) applied.2 = .tunnel tunnel
  deriving Decidable

/-- The condition on a step: a tunnel that counts down is put to use only by an
event the watcher has still to see and cancels the countdown for, and no tunnel
is torn down while such an event is waiting. -/
def Daemon.Orderly (daemon : Daemon) : Label → Prop
  | .route _ => ∀ event ∈ daemon.toRoute.head?, ∀ countdown ∈ daemon.idle.idleSince.toList,
        daemon.Retargets event countdown.1 → daemon.Reclaimed countdown.1
  | .tearDown _ => ∀ tunnel ∈ daemon.expired.head?, ¬ daemon.Reclaimed tunnel
  | .persist _ | .publish _ | .watch _ | .sweep _ => True

instance (daemon : Daemon) (label) : Decidable (daemon.Orderly label) := by
  cases label <;> delta Daemon.Orderly <;> infer_instance

/-! ## Countdowns -/

variable {routing : State} {idle : IdleState} {tunnel other : Uuid} {now : ℕ}

theorem devicesUsingTunnel_eq_nil :
    devicesUsingTunnel routing tunnel = [] ↔ ∀ device rule, routing.applied.get device = some rule →
        rule.tunnelId ≠ some tunnel := by
  simp only [devicesUsingTunnel, map_eq_nil_iff, filter_eq_nil_iff,
    decide_eq_true_eq, Prod.forall, mem_toList]

/-- A countdown is started for an unused tunnel only. -/
theorem startIfUnused_counting
    (hcounting : (idle.startIfUnused routing now other).idleSince.get tunnel ≠ none) :
    idle.idleSince.get tunnel ≠ none ∨ devicesUsingTunnel routing tunnel = [] := by
  unfold IdleState.startIfUnused at hcounting
  split at hcounting
  next hunused =>
    rw [get_insert] at hcounting
    by_cases heq : tunnel = other
    · exact .inr (heq ▸ hunused.1)
    · rw [if_neg heq] at hcounting
      exact .inl hcounting
  · exact .inl hcounting

theorem startAll_counting {tunnels : List Uuid}
    (hcounting : (tunnels.foldl (IdleState.startIfUnused routing now)
      idle).idleSince.get tunnel ≠ none) :
    idle.idleSince.get tunnel ≠ none ∨ devicesUsingTunnel routing tunnel = [] := by
  induction tunnels generalizing idle with
  | nil => exact .inl hcounting
  | cons first tunnels ih =>
    rcases ih hcounting with hstarted | hunused
    · exact startIfUnused_counting hstarted
    · exact .inr hunused

theorem stop_counting (hcounting : (idle.stop other).idleSince.get tunnel ≠ none) :
    tunnel ≠ other ∧ idle.idleSince.get tunnel ≠ none := by
  simp only [IdleState.stop, get_remove] at hcounting
  by_cases heq : tunnel = other
  · rw [if_pos heq] at hcounting
    exact absurd rfl hcounting
  · rw [if_neg heq] at hcounting
    exact ⟨heq, hcounting⟩

variable {published : Published}

/-- A tunnel that counts down after an event was not reclaimed by it, and
counted down before or is unused. -/
theorem handleEvent_counting
    (hcounting : (idle.handleEvent routing now published).idleSince.get tunnel ≠ none) :
    cancels tunnel published.event = false ∧ (idle.idleSince.get tunnel ≠ none ∨
        devicesUsingTunnel routing tunnel = []) := by
  obtain ⟨event, previous⟩ := published
  cases event with
  | routingRuleChanged device target =>
    have hchecked : ∀ {counted : Uuid},
        (match previous with
          | some (.tunnel before) => idle.startIfUnused routing now before
          | _ => idle).idleSince.get counted ≠ none →
        idle.idleSince.get counted ≠ none ∨ devicesUsingTunnel routing counted = [] := by
      intro counted hcounted
      split at hcounted
      · exact startIfUnused_counting hcounted
      · exact .inl hcounted
    cases target with
    | tunnel target =>
      obtain ⟨hne, hcounted⟩ := stop_counting hcounting
      refine ⟨?_, hchecked hcounted⟩
      simpa [cancels] using fun heq => hne heq.symm
    | direct | default => exact ⟨rfl, hchecked hcounting⟩
  | deviceGone device => exact ⟨rfl, startAll_counting hcounting⟩
  | tunnelUp | deviceDiscovered | deviceIpChanged | defaultPolicyChanged =>
    exact ⟨rfl, .inl hcounting⟩
  | tunnelDown down =>
    obtain ⟨hne, hcounted⟩ := stop_counting hcounting
    refine ⟨?_, .inl hcounted⟩
    simpa [cancels] using fun heq => hne heq.symm

/-! ## Routing -/

variable {daemon after : Daemon} {event : Event}

/-- Only known devices are assigned a target. -/
theorem mem_knownDevices {device : Uuid}
    (hassigned : assigned daemon.store daemon.routing device event ≠ none) :
    device ∈ daemon.knownDevices := by
  by_contra hunknown
  have hstored : daemon.store.findById device = none := by
    by_contra hfind
    obtain ⟨row, hrow⟩ := Option.ne_none_iff_exists'.mp hfind
    obtain ⟨hmem, rfl⟩ := Table.find_eq_some hrow
    exact hunknown (mem_append_left _ (mem_map_of_mem hmem))
  have happlied : daemon.routing.applied.get device = none := by
    by_contra hget
    obtain ⟨rule, hrule⟩ := Option.ne_none_iff_exists'.mp hget
    exact hunknown (mem_append_right _ (mem_map_of_mem (mem_toList.mpr hrule)))
  cases event <;> simp [assigned, Store.ruleFor, hstored, happlied] at hassigned

/-! ## Runs -/

/-- Every tunnel that counts down is unused, or the watcher is about to hear
of its use; the sweep in progress is over such tunnels, and no tunnel was torn
down in use. -/
structure Daemon.Safe (daemon : Daemon) : Prop where
  ids : (daemon.store.devices.map StoredDevice.id).Nodup
  counting : ∀ tunnel, daemon.idle.idleSince.get tunnel ≠ none →
    devicesUsingTunnel daemon.routing tunnel = [] ∨ daemon.Reclaimed tunnel
  expired : ∀ tunnel ∈ daemon.expired, daemon.idle.idleSince.get tunnel ≠ none
  distinct : daemon.expired.Nodup
  unused : ∀ torn ∈ daemon.tornDown, torn.2 = []

theorem Daemon.Safe.publish (hsafe : daemon.Safe) (published : Published) :
    (daemon.publish published).Safe where
  ids := hsafe.ids
  counting := fun tunnel hcounting => (hsafe.counting tunnel hcounting).imp_right
    fun ⟨waiting, hwaiting, hcancels⟩ => ⟨waiting, mem_append_left _ hwaiting, hcancels⟩
  expired := hsafe.expired
  distinct := hsafe.distinct
  unused := hsafe.unused

theorem Daemon.Safe.tearDown {rest : List Uuid} (hsafe : daemon.Safe)
    (hexpired : daemon.expired = tunnel :: rest) (horderly : ¬ daemon.Reclaimed tunnel) :
    Daemon.Safe
      { daemon with
        idle := daemon.idle.stop tunnel
        expired := rest
        tornDown := (tunnel, devicesUsingTunnel daemon.routing tunnel) :: daemon.tornDown } := by
  have hdistinct := hsafe.distinct
  rw [hexpired, nodup_cons] at hdistinct
  refine
    { ids := hsafe.ids
      counting := ?_
      expired := ?_
      distinct := hdistinct.2
      unused := ?_ }
  · intro counted hcounting
    exact hsafe.counting counted (stop_counting hcounting).2
  · intro waiting hwaiting
    have hne : waiting ≠ tunnel := fun heq => hdistinct.1 (heq ▸ hwaiting)
    simp only [IdleState.stop, get_remove, if_neg hne]
    exact hsafe.expired waiting (hexpired ▸ mem_cons_of_mem _ hwaiting)
  · intro torn htorn
    rcases mem_cons.mp htorn with rfl | hearlier
    · have hcounting : daemon.idle.idleSince.get tunnel ≠ none :=
        hsafe.expired tunnel (hexpired ▸ mem_cons_self)
      exact (hsafe.counting tunnel hcounting).resolve_right horderly
    · exact hsafe.unused torn hearlier

theorem Daemon.Safe.next {timeout : ℕ} {label : Label}
    (hsafe : daemon.Safe) (horderly : daemon.Orderly label)
    (hnext : daemon.next timeout label = some after) : after.Safe := by
  revert hnext
  fun_cases Daemon.next timeout daemon label <;> rintro ⟨⟩
  · exact ⟨‹_›, hsafe.counting, hsafe.expired, hsafe.distinct, hsafe.unused⟩
  · exact hsafe.publish _
  next event rest hqueue =>
    refine { hsafe with counting := fun tunnel hcounting => ?_ }
    by_cases hretargets : daemon.Retargets event tunnel
    · obtain ⟨since, hsince⟩ := Option.ne_none_iff_exists'.mp hcounting
      exact .inr (horderly event (by rw [hqueue]; rfl) (tunnel, since)
        (mem_toList.mpr hsince) hretargets)
    · apply (hsafe.counting tunnel hcounting).imp_left
      intro hunused
      rw [devicesUsingTunnel_eq_nil] at hunused ⊢
      intro device rule hrule
      cases hassigned : assigned daemon.store daemon.routing device event with
      | none =>
        rcases handleEvent_of_unassigned hsafe.ids hassigned with hsame | hgone
        · rw [hsame] at hrule
          exact hunused device rule hrule
        · rw [hgone] at hrule
          cases hrule
      | some applied =>
        obtain ⟨ip, target⟩ := applied
        obtain ⟨left, houtcome, hget⟩ := handleEvent_of_assigned hsafe.ids hassigned
        obtain rfl : left = rule := Option.some.inj (hget.symm.trans hrule)
        cases houtcome with
        | kept _ hentry => exact hunused device left hentry
        | bound bound table dnsUpstream hresolved =>
          intro hbound
          obtain rfl : bound = tunnel := Option.some.inj hbound
          have hknown : device ∈ daemon.knownDevices := by
            apply mem_knownDevices
            rw [hassigned]
            exact nofun
          exact hretargets ⟨device, hknown, (ip, target), hassigned, hresolved⟩
        | direct => exact nofun
  next published rest hqueue hidle =>
    refine { hsafe with counting := fun tunnel hcounting => ?_, expired := by simp [hidle] }
    obtain ⟨hkept, hcounted | hunused⟩ := handleEvent_counting hcounting
    · apply (hsafe.counting tunnel hcounted).imp_right
      rintro ⟨waiting, hwaiting, hcancels⟩
      rw [hqueue] at hwaiting
      rcases mem_cons.mp hwaiting with rfl | hrest
      · simp [hkept] at hcancels
      · exact ⟨waiting, hrest, hcancels⟩
    · exact .inl hunused
  · refine ⟨hsafe.ids, hsafe.counting, fun tunnel hmem => ?_, ?_, hsafe.unused⟩
    · obtain ⟨countdown, hcountdown, rfl⟩ := mem_map.mp hmem
      simp [mem_toList.mp (mem_filter.mp hcountdown).1]
    · exact (nodup_keys _).sublist (filter_sublist.map Prod.fst)
  next tunnel rest hexpired =>
    have htorn := hsafe.tearDown hexpired (horderly tunnel (by rw [hexpired]; rfl))
    unfold Daemon.tearDownCore
    split
    · exact htorn.publish _
    · exact htorn

/-- In every run in which a tunnel that counts down is put to use only by an
event for which the watcher cancels the countdown, and the watcher has handled
that event before it tears the tunnel down, no tunnel is torn down while an
applied rule is bound to it. -/
theorem used_tunnels_stay_up (timeout : ℕ) (store : Store)
    (hids : (store.devices.map StoredDevice.id).Nodup) (routing : State)
    (labels : List Label) (final : Daemon) (hmeets : Meets (Daemon.next timeout) Daemon.Orderly
      (.start store routing) labels)
    (hrun : run (Daemon.next timeout) (.start store routing) labels = some final) :
    ∀ torn ∈ final.tornDown, torn.2 = [] := by
  have hstart : (Daemon.start store routing).Safe :=
    { ids := hids
      counting := fun _ hcounting => absurd (get_empty _) hcounting
      expired := nofun
      distinct := .nil
      unused := nofun }
  have hfinal : final.Safe := run_invariant_of_meets
      (fun _ _ _ hsafe horderly hnext => hsafe.next horderly hnext)
      hstart hmeets hrun
  exact hfinal.unused

/-- One device with a rule for a tunnel. -/
def tunnelDevice : Store where
  devices := [⟨1, "10.0.0.5".toList, some (.tunnel 9)⟩]
  policy := directPolicy

/-- Both listeners handle an event as soon as it is published. -/
def handled (now : ℕ) (event : Event) : List Label :=
  [.publish ⟨event, none⟩, .route fun _ => healthyEnv, .watch now]

/-- The tunnel comes up, its device is found, leaves and returns within the
timeout; the sweep comes later. -/
def returns : List Label :=
  handled 0 (.tunnelUp 9) ++ handled 0 (.deviceDiscovered 1 "10.0.0.5".toList) ++
    handled 10 (.deviceGone 1) ++
    handled 20 (.deviceDiscovered 1 "10.0.0.5".toList) ++
    [.sweep 400, .tearDown true]

/-- A sweep begins when the routing listener has handled every event. -/
def Daemon.Routed (daemon : Daemon) : Label → Prop
  | .sweep _ => daemon.toRoute = []
  | _ => True

instance (daemon : Daemon) (label) : Decidable (daemon.Routed label) := by
  cases label <;> delta Daemon.Routed <;> infer_instance

/-- The tunnel is torn down although its device is back and bound to it. -/
theorem returned_device_loses_tunnel : Meets (Daemon.next 300) Daemon.Routed
        (.start tunnelDevice (.new none)) returns ∧
      ∃ final, run (Daemon.next 300) (.start tunnelDevice (.new none))
          returns = some final ∧ final.tornDown = [(9, [1])] := by
  decide +kernel

/-- The device leaves and is given its rule again before it returns. -/
def reclaims : List Label :=
  handled 0 (.tunnelUp 9) ++ handled 0 (.deviceDiscovered 1 "10.0.0.5".toList) ++
    handled 10 (.deviceGone 1) ++
    handled 20 (.routingRuleChanged 1 (.tunnel 9)) ++
    handled 30 (.deviceGone 1) ++ [.sweep 400, .tearDown true]

theorem used_tunnels_stay_up_reclaims :
    ∃ final, run (Daemon.next 300) (.start tunnelDevice (.new none))
        reclaims = some final ∧ ∀ torn ∈ final.tornDown, torn.2 = [] := by
  refine ⟨_, rfl, ?_⟩
  exact used_tunnels_stay_up 300 tunnelDevice (by decide) (.new none)
    reclaims _ (by decide +kernel) rfl

end Wardnet.Idle
