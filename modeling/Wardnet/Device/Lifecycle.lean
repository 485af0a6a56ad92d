import Wardnet.Core.Transition
import Wardnet.Device.Discovery

/-!
# Interleaved discovery calls

Observations of one hardware address are serialised by a lock that is held
from the flap check to the published event.  Departures are marked without
that lock; it is taken only to clear the stored address, and the `DeviceGone`
event is published after it has been released.  Each call is a task that takes
one step between two suspension points.
-/

namespace Wardnet.Discovery

open Net Transition

/-- Which path an observation came by: packet capture, or the handshake of a
peer whose device is known. -/
inductive Source
  | capture
  | peer (device : Uuid)
  deriving DecidableEq

def Source.mode : Source → ConnectionMode
  | .capture => .lan
  | .peer _ => .remote

def Source.device? : Source → Option Uuid
  | .capture => none
  | .peer device => some device

/-- Where a call stands. -/
inductive Task
  /-- Waits for the lock. -/
  | observing (source : Source) (mac : Mac) (ip : Ipv4Addr)
  /-- Holds the lock; `observation_action` is next. -/
  | locked (source : Source) (mac : Mac) (ip : Ipv4Addr)
  /-- The address is not tracked; `find_by_mac` is next. -/
  | unknown (mac : Mac) (ip : Ipv4Addr)
  /-- `reappear_device`: the row exists, the tracking entry is next. -/
  | returning (device : Uuid) (mac : Mac) (ip : Ipv4Addr)
  /-- `insert_new_device`: the row is next. -/
  | registering (mac : Mac) (ip : Ipv4Addr)
  /-- `insert_new_device`: the row is written, the tracking entry is next. -/
  | entering (device : Uuid) (mac : Mac) (ip : Ipv4Addr)
  /-- `update_last_seen_and_ip` is next, then the event. -/
  | persisting (mode : ConnectionMode) (device : Uuid) (mac : Mac)
      (ip : Ipv4Addr) (event : Option Event)
  /-- The event is next; publishing it ends the call. -/
  | publishing (mac : Mac) (event : Event)
  /-- `clear_departed_ip` waits for the lock. -/
  | clearing (departed : Departed) (rest : List Departed)
  /-- `clear_departed_ip` holds the lock; its re-check is next. -/
  | checking (departed : Departed) (rest : List Departed)
  /-- The device is still gone; `clear_last_ip` is next. -/
  | wiping (departed : Departed) (rest : List Departed)
  /-- The lock is free again; `publish_device_gone` is next. -/
  | announcing (departed : Departed) (rest : List Departed)
  deriving DecidableEq

/-- The hardware address whose lock the call holds. -/
def Task.locks : Task → Option Mac
  | .locked _ mac _ | .unknown mac _ | .returning _ mac _
  | .registering mac _ | .entering _ mac _ | .persisting _ _ mac _ _
  | .publishing mac _ => some mac
  | .checking departed _ | .wiping departed _ => some departed.mac
  | .observing .. | .clearing .. | .announcing .. => none

/-- The departures whose stored address the call has still to clear. -/
def Task.toClear : Task → List Departed
  | .clearing departed rest | .checking departed rest
  | .wiping departed rest => departed :: rest
  | .announcing _ rest => rest
  | _ => []

/-- The departures the call has still to announce. -/
def Task.toAnnounce : Task → List Departed
  | .clearing departed rest | .checking departed rest
  | .wiping departed rest | .announcing departed rest => departed :: rest
  | _ => []

structure State where
  registry : Registry
  tasks : HashMap ℕ Task
  deriving DecidableEq

/-- No call is in progress. -/
def State.idle (registry : Registry) : State where
  registry := registry
  tasks := .empty

def State.locked (state : State) (mac : Mac) : Prop :=
  ∃ task ∈ state.tasks.toList, task.2.locks = some mac
  deriving Decidable

/-- The call goes on with the given task, or returns. -/
def State.proceed (state : State) (call : ℕ) (registry : Registry) : Option Task → State
  | some task => ⟨registry, state.tasks.insert call task⟩
  | none => ⟨registry, state.tasks.remove call⟩

/-- Clear and announce the next departure, if there is one. -/
def nextDeparture : List Departed → Option Task
  | [] => none
  | departed :: rest => some (.clearing departed rest)

/-! ## Steps of a call -/

/-- The lock has been acquired: a packet-capture observation records its claim
and is dropped when it is about the daemon's own address or the hardware
address is flapping. -/
def acquire (config : Config) (registry : Registry) (source : Source)
    (mac : Mac) (ip : Ipv4Addr) (now : ℕ) : Registry × Option Task :=
  match source with
  | .peer _ => (registry, some (.locked source mac ip))
  | .capture =>
    let claimed := isFlapping registry.history mac ip now
    if ip = config.lanIp ∨ claimed.2 then
      ({ registry with
          history := claimed.1
          memory := touchPresence registry.memory mac now }, none)
    else ({ registry with history := claimed.1 }, some (.locked source mac ip))

/-- What follows `observation_action`. -/
def afterAction (source : Source) (mac : Mac) (ip : Ipv4Addr) : ObsAction → Option Task
  | .unknown => some (.unknown mac ip)
  | .reappear device =>
    some (.persisting source.mode (source.device?.getD device) mac ip
      (some (.discovered device mac ip)))
  | .ipChanged device oldIp =>
    some (.persisting source.mode (source.device?.getD device) mac ip
      (some (.ipChanged device mac oldIp ip)))
  | .justSeen _ => source.device?.map fun device => .persisting source.mode device mac ip none

/-- One step of a call.  `fresh` is the id that `Uuid::new_v4` would return,
and a call that waits for a lock someone holds has no step. -/
def advance (config : Config) (state : State) (now : ℕ) (fresh : Uuid) :
    Task → Option (Registry × Option Task)
  | .observing source mac ip =>
    if state.locked mac then none
    else some (acquire config state.registry source mac ip now)
  | .locked source mac ip =>
    let acted := observationAction state.registry.memory mac ip source.device? now
    some ({ state.registry with memory := acted.1 }, afterAction source mac ip acted.2)
  | .unknown mac ip =>
    match findByMac state.registry.rows mac with
    | some row => some (state.registry, some (.returning row.id mac ip))
    | none => some (state.registry, some (.registering mac ip))
  | .returning device mac ip =>
    some ({ state.registry with
        memory := state.registry.memory.insert mac
          (.present device ip now) }, some (.persisting .lan device mac ip
        (some (.discovered device mac ip))))
  | .registering mac ip =>
    if (findById state.registry.rows fresh).isSome then none
    else some ({ state.registry with
        rows := state.registry.rows ++ [⟨fresh, mac, some ip, now, .lan⟩] },
      some (.entering fresh mac ip))
  | .entering device mac ip =>
    some ({ state.registry with
        memory := state.registry.memory.insert mac
          (.present device ip now) }, some (.publishing mac (.discovered device mac ip)))
  | .persisting mode device mac ip event =>
    some ({ state.registry with
        rows := updateLastSeenAndIp state.registry.rows device ip now
          mode }, event.map fun event => .publishing mac event)
  | .publishing _ event => some ({ state.registry with log := event :: state.registry.log }, none)
  | .clearing departed rest =>
    if state.locked departed.mac then none
    else some (state.registry, some (.checking departed rest))
  | .checking departed rest =>
    if stillGone state.registry.memory departed.mac then
      some (state.registry, some (.wiping departed rest))
    else some (state.registry, some (.announcing departed rest))
  | .wiping departed rest =>
    some ({ state.registry with
        rows := clearLastIp state.registry.rows departed.device }, some (.announcing departed rest))
  | .announcing departed rest =>
    some ({ state.registry with
        log := departed.event :: state.registry.log }, nextDeparture rest)

/-- A call starts under a number no running call has, or a running call takes
its next step. -/
inductive Label
  | processObservation (call : ℕ) (mac : Mac) (ip : Ipv4Addr)
  | processPeerObservation (call : ℕ) (device : Uuid) (ip : Ipv4Addr)
  | scanDepartures (call : ℕ) (timeout now : ℕ)
  | markPeerGone (call : ℕ) (device : Uuid) (timeout now : ℕ)
  | step (call : ℕ) (now : ℕ) (fresh : Uuid)
  deriving DecidableEq

/-- A departure call marks its devices gone and begins to clear them. -/
def State.depart (state : State) (call : ℕ) (departed : List Departed) : State :=
  state.proceed call
    { state.registry with
      memory := markGone state.registry.memory departed }
    (nextDeparture departed)

def next (config : Config) (state : State) : Label → Option State
  | .processObservation call mac ip =>
    if (state.tasks.get call).isSome then none
    else if admitted config mac ip then
      some (state.proceed call state.registry (some (.observing .capture mac ip)))
    else some state
  | .processPeerObservation call device ip =>
    if (state.tasks.get call).isSome then none
    else
      match findById state.registry.rows device with
      | some row => some (state.proceed call state.registry
          (some (.observing (.peer device) row.mac ip)))
      | none => some state
  | .scanDepartures call timeout now =>
    if (state.tasks.get call).isSome then none
    else some (state.depart call (departures state.registry.memory timeout now))
  | .markPeerGone call device timeout now =>
    if (state.tasks.get call).isSome then none
    else
      match findById state.registry.rows device with
      | some row => some (state.depart call
          (peerDepartures state.registry.memory row.mac timeout now))
      | none => some state
  | .step call now fresh =>
    (state.tasks.get call).bind fun task =>
      (advance config state now fresh task).map fun result => state.proceed call result.1 result.2

end Wardnet.Discovery
