import Wardnet.Device.Lifecycle

/-!
# Undisturbed discovery calls

What a call does when no other call runs beside it.  Each function is the
composition of the steps of `advance`, as the run lemmas at the end show.
-/

namespace Wardnet.Discovery

open Net Transition

inductive ObservationResult
  | newDevice (device : Uuid)
  | reappeared (device : Uuid)
  | ipChanged (device : Uuid) (oldIp : Option Ipv4Addr)
  | seen (device : Uuid)
  | ignored
  deriving DecidableEq

/-- The event an observation publishes after its write. -/
def ObsAction.event (mac : Mac) (ip : Ipv4Addr) : ObsAction → Option Event
  | .reappear device => some (.discovered device mac ip)
  | .ipChanged device oldIp => some (.ipChanged device mac oldIp ip)
  | .justSeen _ | .unknown => none

/-- `update_last_seen_and_ip`, then the event. -/
def persist (registry : Registry) (mode : ConnectionMode) (device : Uuid)
    (ip : Ipv4Addr) (now : ℕ) (event : Option Event) : Registry :=
  { registry with
    rows := updateLastSeenAndIp registry.rows device ip now mode
    log := event.toList ++ registry.log }

def reappearDevice (registry : Registry) (device : Uuid) (mac : Mac)
    (ip : Ipv4Addr) (now : ℕ) : Registry :=
  persist { registry with memory := registry.memory.insert mac (.present device ip now) }
    .lan device ip now (some (.discovered device mac ip))

/-- `insert_new_device`, for the id that was drawn. -/
def insertNewDevice (registry : Registry) (device : Uuid) (mac : Mac)
    (ip : Ipv4Addr) (now : ℕ) : Registry :=
  { registry with
    rows := registry.rows ++ [⟨device, mac, some ip, now, .lan⟩]
    memory := registry.memory.insert mac (.present device ip now)
    log := .discovered device mac ip :: registry.log }

def handleUnknownMac (registry : Registry) (mac : Mac) (ip : Ipv4Addr)
    (now : ℕ) (fresh : Uuid) : Registry × ObservationResult :=
  match findByMac registry.rows mac with
  | some row => (reappearDevice registry row.id mac ip now, .reappeared row.id)
  | none => (insertNewDevice registry fresh mac ip now, .newDevice fresh)

def processObservation (config : Config) (registry : Registry) (mac : Mac)
    (ip : Ipv4Addr) (now : ℕ) (fresh : Uuid) : Registry × ObservationResult :=
  if admitted config mac ip then
    let claimed := isFlapping registry.history mac ip now
    let registry := { registry with history := claimed.1 }
    if ip = config.lanIp ∨ claimed.2 then
      ({ registry with memory := touchPresence registry.memory mac now }, .ignored)
    else
      let acted := observationAction registry.memory mac ip none now
      let registry := { registry with memory := acted.1 }
      match acted.2 with
      | .unknown => handleUnknownMac registry mac ip now fresh
      | .reappear device =>
        (persist registry .lan device ip now (acted.2.event mac ip), .reappeared device)
      | .ipChanged device oldIp =>
        (persist registry .lan device ip now (acted.2.event mac ip), .ipChanged device oldIp)
      | .justSeen device => (registry, .seen device)
  else (registry, .ignored)

/-- `process_peer_observation`; the result is `none` when the device has no
row. -/
def processPeerObservation (registry : Registry) (device : Uuid)
    (ip : Ipv4Addr) (now : ℕ) : Registry × Option ObservationResult :=
  match findById registry.rows device with
  | some row =>
    let acted := observationAction registry.memory row.mac ip (some device) now
    (persist { registry with memory := acted.1 } .remote device ip now (acted.2.event row.mac ip),
      match acted.2 with
      | .reappear device => some (.reappeared device)
      | .ipChanged device oldIp => some (.ipChanged device oldIp)
      | .justSeen device => some (.seen device)
      | .unknown => none)
  | none => (registry, none)

/-- The devices `flush_last_seen` writes the current time for. -/
def presentDevices (memory : HashMap Mac Entry) : List Uuid :=
  (memory.toList.filter fun entry => !entry.2.gone).map fun entry => entry.2.deviceId

def flushLastSeen (registry : Registry) (now : ℕ) : Registry :=
  { registry with
    rows := updateLastSeenBatch registry.rows (presentDevices registry.memory) now }

def clearDepartedIp (registry : Registry) (departed : Departed) : Registry :=
  if stillGone registry.memory departed.mac then
    { registry with rows := clearLastIp registry.rows departed.device }
  else registry

/-- Clear and announce the departures one after the other. -/
def reportDepartures (registry : Registry) (departed : List Departed) : Registry :=
  departed.foldl (fun registry departure =>
    let cleared := clearDepartedIp registry departure
    { cleared with log := departure.event :: cleared.log }) registry

/-- Mark the listed devices gone and report them. -/
def depart (registry : Registry) (departed : List Departed) : Registry :=
  reportDepartures { registry with memory := markGone registry.memory departed } departed

def scanDepartures (registry : Registry) (timeout now : ℕ) : Registry :=
  depart registry (departures registry.memory timeout now)

def markPeerGone (registry : Registry) (device : Uuid) (timeout now : ℕ) : Registry :=
  match findById registry.rows device with
  | some row => depart registry (peerDepartures registry.memory row.mac timeout now)
  | none => registry

/-! ## A call that runs alone -/

variable {config : Config} {registry : Registry} {call : ℕ} {task : Task} {mac : Mac}
  {ip : Ipv4Addr} {now : ℕ} {fresh : Uuid}

/-- One call is in progress. -/
def State.busy (registry : Registry) (call : ℕ) (task : Task) : State where
  registry := registry
  tasks := HashMap.empty.insert call task

/-- The call goes on alone, or has returned. -/
def State.after (registry : Registry) (call : ℕ) : Option Task → State
  | some task => .busy registry call task
  | none => .idle registry

/-- Steps of the call lead from one state to the other. -/
def Completes (config : Config) (call now : ℕ) (fresh : Uuid) (before after : State) : Prop :=
  ∃ steps, run (next config) before (List.replicate steps (.step call now fresh)) = some after

theorem Completes.refl (state : State) : Completes config call now fresh state state := ⟨0, rfl⟩

theorem proceed_busy (later : Option Task) (changed : Registry) :
    (State.busy registry call task).proceed call changed later = .after changed call later := by
  cases later with
  | none =>
    have herase : (HashMap.empty.insert call task).remove call = .empty :=
      AList.ext (List.kerase_cons_eq rfl)
    simp [State.proceed, State.busy, State.after, State.idle, herase]
  | some later =>
    have hinsert : (HashMap.empty.insert call task).insert call later =
        HashMap.empty.insert call later := AList.insert_insert _
    simp [State.proceed, State.busy, State.after, hinsert]

theorem Completes.head {result : Registry × Option Task} {final : State}
    (hadvance : advance config (.busy registry call task) now fresh task = some result)
    (hrest : Completes config call now fresh (.after result.1 call result.2) final) :
    Completes config call now fresh (.busy registry call task) final := by
  obtain ⟨steps, hrun⟩ := hrest
  have hget : (State.busy registry call task).tasks.get call = some task := by
    simp [State.busy]
  refine ⟨steps + 1, run_cons_eq_some.mpr ⟨_, ?_, hrun⟩⟩
  simp only [next, hget, Option.bind_some, hadvance, Option.map_some, proceed_busy]

theorem not_locked_busy (htask : task.locks = none) :
    ¬ (State.busy registry call task).locked mac := by
  have hlist : (State.busy registry call task).tasks.toList = [(call, task)] := by
    simp [State.busy, HashMap.toList, HashMap.empty, HashMap.insert, AList.insert]
  simp [State.locked, hlist, htask]

/-- The rest of an observation after `observation_action`. -/
theorem completes_persisting (mode : ConnectionMode) (device : Uuid) (event : Option Event) :
    Completes config call now fresh (.busy registry call (.persisting mode device mac ip event))
      (.idle (persist registry mode device ip now event)) := by
  cases event with
  | none => exact .head rfl (.refl _)
  | some event => exact .head rfl (.head rfl (.refl _))

theorem completes_unknown (hfresh : findById registry.rows fresh = none) :
    Completes config call now fresh (.busy registry call (.unknown mac ip))
      (.idle (handleUnknownMac registry mac ip now fresh).1) := by
  cases hrow : findByMac registry.rows mac with
  | some row =>
    have hfound : advance config (.busy registry call (.unknown mac ip)) now fresh
        (.unknown mac ip) = some (registry, some (.returning row.id mac ip)) := by
      simp [advance, State.busy, hrow]
    simp only [handleUnknownMac, hrow]
    exact .head hfound (.head rfl (completes_persisting _ _ _))
  | none =>
    have hfound : advance config (.busy registry call (.unknown mac ip)) now fresh
        (.unknown mac ip) = some (registry, some (.registering mac ip)) := by
      simp [advance, State.busy, hrow]
    have hinsert : advance config (.busy registry call (.registering mac ip)) now fresh
        (.registering mac ip) = some ({ registry with
          rows := registry.rows ++ [⟨fresh, mac, some ip, now, .lan⟩] },
          some (.entering fresh mac ip)) := by
      simp [advance, State.busy, hfresh]
    simp only [handleUnknownMac, hrow]
    exact .head hfound (.head hinsert (.head rfl (.head rfl (.refl _))))

/-- An observation that is let in waits for no other call. -/
theorem advance_observing (source : Source) :
    advance config (.busy registry call (.observing source mac ip)) now fresh
      (.observing source mac ip) = some (acquire config registry source mac ip now) := by
  have hfree : ¬ (State.busy registry call (.observing source mac ip)).locked mac :=
    not_locked_busy rfl
  simp only [advance, if_neg hfree]
  rfl

theorem completes_processObservation (hfresh : findById registry.rows fresh = none) :
    Completes config call now fresh
      (if admitted config mac ip then .busy registry call (.observing .capture mac ip)
        else .idle registry)
      (.idle (processObservation config registry mac ip now fresh).1) := by
  unfold processObservation
  split
  · apply Completes.head (advance_observing .capture)
    simp only [acquire]
    split
    · exact .refl _
    · apply Completes.head rfl
      simp only [Source.device?]
      split
      next haction =>
        simp only [State.busy, haction, afterAction, State.after]
        exact completes_unknown hfresh
      next haction =>
        simp only [State.busy, haction, afterAction, State.after]
        exact completes_persisting _ _ _
      next haction =>
        simp only [State.busy, haction, afterAction, State.after]
        exact completes_persisting _ _ _
      next haction =>
        simp only [State.busy, haction, afterAction, State.after]
        exact .refl _
  · exact .refl _

/-- With a device to fall back on no observation is of an unknown one. -/
theorem observationAction_known (memory : HashMap Mac Entry) (device : Uuid) :
    (observationAction memory mac ip (some device) now).2 ≠ .unknown := by
  unfold observationAction
  split
  · split
    · simp
    · split <;> simp
  · simp

theorem afterAction_peer {device : Uuid} {action : ObsAction} (hknown : action ≠ .unknown) :
    afterAction (.peer device) mac ip action =
      some (.persisting .remote device mac ip (action.event mac ip)) := by
  cases action with
  | unknown => exact absurd rfl hknown
  | reappear | ipChanged | justSeen => rfl

theorem completes_processPeerObservation {device : Uuid} {row : Row}
    (hrow : findById registry.rows device = some row) :
    Completes config call now fresh (.busy registry call (.observing (.peer device) row.mac ip))
      (.idle (processPeerObservation registry device ip now).1) := by
  apply Completes.head (advance_observing (.peer device))
  apply Completes.head rfl
  simp only [Source.device?, State.busy, afterAction_peer (observationAction_known _ _),
    State.after, processPeerObservation, hrow]
  exact completes_persisting _ _ _

/-- A departure call clears and announces one device after the other. -/
theorem completes_departures (registry : Registry) (departed : List Departed) :
    Completes config call now fresh (.after registry call (nextDeparture departed))
      (.idle (reportDepartures registry departed)) := by
  induction departed generalizing registry with
  | nil => exact .refl _
  | cons departure departed ih =>
    have hclear : advance config (.busy registry call (.clearing departure departed)) now fresh
        (.clearing departure departed) =
        some (registry, some (.checking departure departed)) := by
      have hfree : ¬ (State.busy registry call
          (.clearing departure departed)).locked departure.mac := not_locked_busy rfl
      simp only [advance, if_neg hfree]
      rfl
    have hreport := ih { clearDepartedIp registry departure with
      log := departure.event :: (clearDepartedIp registry departure).log }
    apply Completes.head hclear
    by_cases hgone : stillGone registry.memory departure.mac
    · have hcheck : advance config (.busy registry call (.checking departure departed)) now fresh
          (.checking departure departed) =
          some (registry, some (.wiping departure departed)) := by
        simp [advance, State.busy, hgone]
      simp only [clearDepartedIp, hgone, if_true] at hreport
      simp only [reportDepartures, List.foldl_cons, clearDepartedIp, hgone, if_true]
      exact .head hcheck (.head rfl (.head rfl hreport))
    · have hcheck : advance config (.busy registry call (.checking departure departed)) now fresh
          (.checking departure departed) =
          some (registry, some (.announcing departure departed)) := by
        simp [advance, State.busy, hgone]
      simp only [clearDepartedIp, hgone, Bool.false_eq_true, if_false] at hreport
      simp only [reportDepartures, List.foldl_cons, clearDepartedIp, hgone, Bool.false_eq_true,
        if_false]
      exact .head hcheck (.head rfl hreport)

/-! ## From an idle service to an idle service -/

theorem proceed_idle (later : Option Task) (changed : Registry) :
    (State.idle registry).proceed call changed later = .after changed call later := by
  cases later <;> rfl

theorem Completes.after_label {label : Label} {before between final : State}
    (hnext : next config before label = some between)
    (hrest : Completes config call now fresh between final) :
    ∃ steps, run (next config) before (label :: List.replicate steps (.step call now fresh)) =
      some final := by
  obtain ⟨steps, hrun⟩ := hrest
  exact ⟨steps, run_cons_eq_some.mpr ⟨between, hnext, hrun⟩⟩

theorem run_processObservation (config : Config) (registry : Registry) (call : ℕ) (mac : Mac)
    (ip : Ipv4Addr) (now : ℕ) (hfresh : findById registry.rows fresh = none) :
    ∃ steps, run (next config) (.idle registry)
      (.processObservation call mac ip :: List.replicate steps (.step call now fresh)) =
      some (.idle (processObservation config registry mac ip now fresh).1) := by
  apply Completes.after_label _ (completes_processObservation hfresh)
  by_cases hadmitted : admitted config mac ip
  · simp only [next, hadmitted, if_true]
    rfl
  · simp [next, State.idle, hadmitted]

theorem run_processPeerObservation (config : Config) (registry : Registry) (call : ℕ)
    (device : Uuid) (ip : Ipv4Addr) (now : ℕ) (fresh : Uuid) :
    ∃ steps, run (next config) (.idle registry)
      (.processPeerObservation call device ip :: List.replicate steps (.step call now fresh)) =
      some (.idle (processPeerObservation registry device ip now).1) := by
  cases hrow : findById registry.rows device with
  | some row =>
    apply Completes.after_label _ (completes_processPeerObservation hrow)
    have hidle : findById (State.idle registry).registry.rows device = some row := hrow
    simp only [next, hidle]
    rfl
  | none =>
    simp only [processPeerObservation, hrow]
    apply Completes.after_label _ (.refl _)
    simp [next, State.idle, hrow]

theorem run_scanDepartures (config : Config) (registry : Registry) (call timeout now : ℕ)
    (fresh : Uuid) :
    ∃ steps, run (next config) (.idle registry)
      (.scanDepartures call timeout now :: List.replicate steps (.step call now fresh)) =
      some (.idle (scanDepartures registry timeout now)) := by
  apply Completes.after_label _ (completes_departures _ _)
  simp only [next, State.depart, proceed_idle]
  rfl

theorem run_markPeerGone (config : Config) (registry : Registry) (call : ℕ) (device : Uuid)
    (timeout now : ℕ) (fresh : Uuid) :
    ∃ steps, run (next config) (.idle registry)
      (.markPeerGone call device timeout now :: List.replicate steps (.step call now fresh)) =
      some (.idle (markPeerGone registry device timeout now)) := by
  cases hrow : findById registry.rows device with
  | some row =>
    simp only [markPeerGone, hrow]
    apply Completes.after_label _ (completes_departures _ _)
    have hidle : findById (State.idle registry).registry.rows device = some row := hrow
    simp only [next, hidle, State.depart, proceed_idle]
    rfl
  | none =>
    simp only [markPeerGone, hrow]
    apply Completes.after_label _ (.refl _)
    simp [next, State.idle, hrow]

end Wardnet.Discovery
