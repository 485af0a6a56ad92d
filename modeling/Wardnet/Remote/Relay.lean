import Wardnet.Core.HashMap
import Wardnet.Core.Transition

/-!
# Relayed flows

The reverse tunnel relays many flows over one connection.  Its loop keeps a map
from the id of a flow to its local end, and a task for each flow forwards what
comes back.  The loop closes a flow by dropping its entry and cancelling the
task, which may be in the middle of a send; the task cannot touch the map.
Times are in seconds.
-/

namespace Wardnet.Relay

open HashMap Transition

structure Conn where
  flow : ℕ
  tcp : Bool
  deadline : ℕ

/-- Where `udp_reader` or `tcp_relay` stands. -/
inductive Stage
  | waiting
  /-- A frame with what was read is being sent. -/
  | sending
  /-- The local end is at its end, and a close frame is being sent. -/
  | closing
  deriving DecidableEq

structure Task where
  connId : ℕ
  tcp : Bool
  stage : Stage

inductive Kind
  | opened
  | ready
  /-- Bytes from the node were handed to the local end: to the socket over UDP,
  to the channel of `tcp_relay` over TCP. -/
  | received
  | data
  | close
  /-- A close frame of the idle sweep. -/
  | idle
  /-- A close frame for a connect over the cap, and how many flows are live. -/
  | capped (live : ℕ)
  deriving DecidableEq

/-- What happened to a flow, and when. -/
structure Entry where
  flow : ℕ
  connId : ℕ
  tcp : Bool
  kind : Kind
  time : ℕ

structure Tunnel where
  now : ℕ
  conns : HashMap ℕ Conn
  tasks : HashMap ℕ Task
  nextFlow : ℕ
  /-- The latest entry first. -/
  log : List Entry

def Tunnel.new : Tunnel := ⟨0, .empty, .empty, 0, []⟩

def idleTimeout : ℕ := 120

def maxConns (tcp : Bool) : ℕ := if tcp then 16 else 8

def dotPort : ℕ := 853

def httpsPort : ℕ := 443

/-- What a task reads. -/
inductive Event
  | bytes
  | eof
  /-- An error or the cancellation. -/
  | stop

inductive Label
  | tick (seconds : ℕ)
  /-- `gate` says whether the feature is on, `opens` whether the local end is. -/
  | connect (connId destPort : ℕ) (gate opens : Bool)
  | data (connId : ℕ) (sent : Bool)
  | close (connId : ℕ)
  | sweep (connId : ℕ)
  | read (flow : ℕ) (event : Event)
  | send (flow : ℕ)

namespace Tunnel

variable (tunnel : Tunnel)

def note (flow connId : ℕ) (tcp : Bool) (kind : Kind) : Tunnel :=
  { tunnel with log := ⟨flow, connId, tcp, kind, tunnel.now⟩ :: tunnel.log }

def countKind (tcp : Bool) : ℕ := (tunnel.conns.toList.filter fun entry => entry.2.tcp = tcp).length

/-- The task of the flow has seen neither the end nor an error. -/
def live (conn : Conn) : Bool := (tunnel.tasks.get conn.flow).any fun task => task.stage ≠ .closing

/-- The flows of a transport that are relayed. -/
def countLive (tcp : Bool) : ℕ :=
  (tunnel.conns.toList.filter fun entry => entry.2.tcp = tcp ∧ tunnel.live entry.2).length

/-- `connect_udp` and `connect_tcp`. -/
def connect (connId : ℕ) (tcp gate opens : Bool) : Tunnel :=
  if !gate then tunnel.note tunnel.nextFlow connId tcp .close
  else if maxConns tcp ≤ tunnel.countKind tcp then
    tunnel.note tunnel.nextFlow connId tcp (.capped (tunnel.countLive tcp))
  else if !opens then tunnel.note tunnel.nextFlow connId tcp .close
  else
    let opened := tunnel.note tunnel.nextFlow connId tcp .opened
    let opened := if tcp then opened.note tunnel.nextFlow connId tcp .ready else opened
    { opened with
      conns := tunnel.conns.insert connId ⟨tunnel.nextFlow, tcp, tunnel.now + idleTimeout⟩
      tasks := tunnel.tasks.insert tunnel.nextFlow ⟨connId, tcp, .waiting⟩
      nextFlow := tunnel.nextFlow + 1 }

end Tunnel

def next (tunnel : Tunnel) : Label → Option Tunnel
  | .tick seconds => some { tunnel with now := tunnel.now + seconds }
  | .connect connId destPort gate opens =>
    if (tunnel.conns.get connId).isSome then some tunnel
    else if destPort = httpsPort then some (tunnel.note tunnel.nextFlow connId false .close)
    else some (tunnel.connect connId (destPort = dotPort) gate opens)
  | .data connId sent =>
    match tunnel.conns.get connId with
    | none => some tunnel
    | some conn =>
      if sent then
        some { tunnel.note conn.flow connId conn.tcp .received with
          conns := tunnel.conns.insert connId { conn with deadline := tunnel.now + idleTimeout } }
      else
        some { tunnel.note conn.flow connId conn.tcp .close with
          conns := tunnel.conns.remove connId }
  | .close connId => some { tunnel with conns := tunnel.conns.remove connId }
  | .sweep connId =>
    match tunnel.conns.get connId with
    | none => none
    | some conn =>
      if conn.deadline ≤ tunnel.now then
        some { tunnel.note conn.flow connId conn.tcp .idle with
          conns := tunnel.conns.remove connId }
      else none
  | .read flow event =>
    match tunnel.tasks.get flow, event with
    | some ⟨connId, tcp, .waiting⟩, .bytes =>
      some { tunnel with tasks := tunnel.tasks.insert flow ⟨connId, tcp, .sending⟩ }
    | some ⟨connId, true, .waiting⟩, .eof =>
      some { tunnel with tasks := tunnel.tasks.insert flow ⟨connId, true, .closing⟩ }
    | some ⟨_, _, .waiting⟩, .stop => some { tunnel with tasks := tunnel.tasks.remove flow }
    | _, _ => none
  | .send flow =>
    match tunnel.tasks.get flow with
    | some ⟨connId, tcp, .sending⟩ =>
      some { tunnel.note flow connId tcp .data with
        tasks := tunnel.tasks.insert flow ⟨connId, tcp, .waiting⟩ }
    | some ⟨connId, tcp, .closing⟩ =>
      some { tunnel.note flow connId tcp .close with tasks := tunnel.tasks.remove flow }
    | _ => none

section Each

variable (right : Entry → List Entry → Prop)

/-- Each entry is right in view of the earlier ones. -/
def Each (log : List Entry) : Prop :=
  ∀ rest ∈ log.tails, ∀ entry ∈ rest.head?, right entry rest.tail

theorem each_cons (entry : Entry) (earlier : List Entry) :
    Each right (entry :: earlier) ↔ right entry earlier ∧ Each right earlier := by
  simp [Each]

instance [∀ entry earlier, Decidable (right entry earlier)] (log : List Entry) :
    Decidable (Each right log) := by
  delta Each
  infer_instance

end Each

/-! ## Flows under one id -/

/-- No flow that was opened earlier under the id of the entry is later than its own
flow, and over TCP the flow was ready before its data. -/
def FromLatest (entry : Entry) (earlier : List Entry) : Prop :=
  (∀ first ∈ earlier, first.kind = .opened → first.connId = entry.connId →
    first.flow ≤ entry.flow) ∧
  (entry.kind = .data → entry.tcp → ∃ ready ∈ earlier,
    ready.kind = .ready ∧ ready.flow = entry.flow)
  deriving Decidable

/-- An id is connected again when the tasks of its earlier flows are over. -/
def Finished (tunnel : Tunnel) : Label → Prop
  | .connect connId .. => (tunnel.conns.get connId).isNone →
    ∀ task ∈ tunnel.tasks.toList, task.2.connId ≠ connId
  | _ => True

instance (tunnel : Tunnel) (label : Label) : Decidable (Finished tunnel label) := by
  cases label <;> delta Finished <;> infer_instance

/-- What is relayed belongs to the latest flow of its id. -/
structure Separate (tunnel : Tunnel) : Prop where
  log : Each FromLatest tunnel.log
  opened : ∀ first ∈ tunnel.log, first.kind = .opened → first.flow < tunnel.nextFlow
  conns : ∀ connId conn, tunnel.conns.get connId = some conn → ∀ first ∈ tunnel.log,
    first.kind = .opened → first.connId = connId → first.flow ≤ conn.flow
  tasks : ∀ flow task, tunnel.tasks.get flow = some task → (∀ first ∈ tunnel.log,
    first.kind = .opened → first.connId = task.connId → first.flow ≤ flow) ∧
      (task.tcp → ∃ ready ∈ tunnel.log, ready.kind = .ready ∧ ready.flow = flow)

variable {tunnel after : Tunnel} {label : Label}

section Separate

variable (hseparate : Separate tunnel)
include hseparate

/-- An entry that opens no flow is noted. -/
theorem Separate.note (kind : Kind) (hkind : kind ≠ .opened) {flow connId : ℕ} {tcp : Bool}
    (hentry : FromLatest ⟨flow, connId, tcp, kind, tunnel.now⟩ tunnel.log) :
    Separate (tunnel.note flow connId tcp kind) := by
  have hearlier : ∀ first ∈ (tunnel.note flow connId tcp kind).log, first.kind = .opened →
      first ∈ tunnel.log := by
    intro first hfirst hopen
    rcases List.mem_cons.mp hfirst with rfl | hfirst
    · exact absurd hopen hkind
    · exact hfirst
  refine ⟨(each_cons ..).mpr ⟨hentry, hseparate.log⟩, ?_, ?_, ?_⟩
  · exact fun first hfirst hopen => hseparate.opened first (hearlier first hfirst hopen) hopen
  · exact fun connId conn hconn first hfirst hopen =>
      hseparate.conns connId conn hconn first (hearlier first hfirst hopen) hopen
  · intro flow task htask
    obtain ⟨hlatest, hready⟩ := hseparate.tasks flow task htask
    refine ⟨fun first hfirst hopen => hlatest first (hearlier first hfirst hopen) hopen, ?_⟩
    intro htcp
    obtain ⟨ready, hmem, hready⟩ := hready htcp
    exact ⟨ready, List.mem_cons_of_mem _ hmem, hready⟩

/-- Flows are closed, and tasks stay with their flows. -/
theorem Separate.frame (hlog : after.log = tunnel.log) (hflow : after.nextFlow = tunnel.nextFlow)
    (hconns : ∀ connId conn, after.conns.get connId = some conn →
      ∃ before, tunnel.conns.get connId = some before ∧ before.flow = conn.flow)
    (htasks : ∀ flow task, after.tasks.get flow = some task → ∃ before,
      tunnel.tasks.get flow = some before ∧ before.connId = task.connId ∧ before.tcp = task.tcp) :
    Separate after := by
  refine ⟨hlog ▸ hseparate.log, ?_, ?_, ?_⟩
  · rw [hlog, hflow]
    exact hseparate.opened
  · intro connId conn hconn
    obtain ⟨before, hbefore, hsame⟩ := hconns connId conn hconn
    rw [hlog, ← hsame]
    exact hseparate.conns connId before hbefore
  · intro flow task htask
    obtain ⟨before, hbefore, hconnId, htcp⟩ := htasks flow task htask
    rw [hlog, ← hconnId, ← htcp]
    exact hseparate.tasks flow before hbefore

/-- A frame about a flow that is not opened. -/
theorem Separate.refuse {connId : ℕ} {tcp : Bool} {kind : Kind} (hkind : kind ≠ .opened)
    (hdata : kind ≠ .data) : Separate (tunnel.note tunnel.nextFlow connId tcp kind) :=
  hseparate.note kind hkind
    ⟨fun first hfirst hopen _ => Nat.le_of_lt (hseparate.opened first hfirst hopen),
      fun heq => absurd heq hdata⟩

/-- The map has the new flow, the task is still to come. -/
theorem Separate.opening {connId : ℕ} (tcp : Bool) (conn : Conn)
    (hfree : ∀ flow task, tunnel.tasks.get flow = some task → task.connId ≠ connId)
    (hconn : conn.flow = tunnel.nextFlow) :
    Separate { tunnel.note tunnel.nextFlow connId tcp .opened with
      conns := tunnel.conns.insert connId conn, nextFlow := tunnel.nextFlow + 1 } := by
  have hopened : ∀ first ∈ (tunnel.note tunnel.nextFlow connId tcp .opened).log,
      first.kind = .opened → first.flow ≤ tunnel.nextFlow := by
    intro first hfirst hopen
    rcases List.mem_cons.mp hfirst with rfl | hfirst
    · exact le_rfl
    · exact Nat.le_of_lt (hseparate.opened first hfirst hopen)
  refine ⟨(each_cons ..).mpr ⟨⟨?_, nofun⟩, hseparate.log⟩, ?_, ?_, ?_⟩
  · exact fun first hfirst hopen _ => Nat.le_of_lt (hseparate.opened first hfirst hopen)
  · exact fun first hfirst hopen => Nat.lt_succ_of_le (hopened first hfirst hopen)
  · intro other found hfound first hfirst hopen hid
    rcases get_insert_eq_some.mp hfound with ⟨rfl, rfl⟩ | ⟨hne, hfound⟩
    · exact hconn ▸ hopened first hfirst hopen
    · rcases List.mem_cons.mp hfirst with rfl | hfirst
      · exact absurd hid.symm hne
      · exact hseparate.conns other found hfound first hfirst hopen hid
  · intro flow task htask
    obtain ⟨hlatest, hready⟩ := hseparate.tasks flow task htask
    refine ⟨fun first hfirst hopen hid => ?_, fun htcp => ?_⟩
    · rcases List.mem_cons.mp hfirst with rfl | hfirst
      · exact absurd hid.symm (hfree flow task htask)
      · exact hlatest first hfirst hopen hid
    · obtain ⟨ready, hmem, hready⟩ := hready htcp
      exact ⟨ready, List.mem_cons_of_mem _ hmem, hready⟩

theorem Separate.spawn {flow : ℕ} {task : Task} (hflow : flow + 1 = tunnel.nextFlow)
    (hready : task.tcp → ∃ ready ∈ tunnel.log, ready.kind = .ready ∧ ready.flow = flow) :
    Separate { tunnel with tasks := tunnel.tasks.insert flow task } := by
  refine ⟨hseparate.log, hseparate.opened, hseparate.conns, fun other found hfound => ?_⟩
  rcases get_insert_eq_some.mp hfound with ⟨rfl, rfl⟩ | ⟨-, hfound⟩
  · refine ⟨fun first hfirst hopen _ => ?_, hready⟩
    have hlt := hseparate.opened first hfirst hopen
    omega
  · exact hseparate.tasks other found hfound

theorem Separate.connect {connId : ℕ}
    (hfree : ∀ flow task, tunnel.tasks.get flow = some task → task.connId ≠ connId)
    (tcp gate opens : Bool) : Separate (tunnel.connect connId tcp gate opens) := by
  unfold Tunnel.connect
  split
  · exact hseparate.refuse nofun nofun
  split
  · exact hseparate.refuse nofun nofun
  split
  · exact hseparate.refuse nofun nofun
  have hopening :=
    hseparate.opening tcp ⟨tunnel.nextFlow, tcp, tunnel.now + idleTimeout⟩ hfree rfl
  cases tcp with
  | false => exact hopening.spawn rfl nofun
  | true =>
    have hlatest : FromLatest ⟨tunnel.nextFlow, connId, true, .ready, tunnel.now⟩
        (tunnel.note tunnel.nextFlow connId true .opened).log :=
      ⟨fun first hfirst hopen _ => Nat.lt_succ_iff.mp (hopening.opened first hfirst hopen), nofun⟩
    exact (hopening.note .ready nofun hlatest).spawn rfl fun _ =>
      ⟨_, List.mem_cons_self .., rfl, rfl⟩

/-- What is noted about a flow of the map comes from the latest flow. -/
theorem Separate.noteConn (kind : Kind) (hopened : kind ≠ .opened) (hdata : kind ≠ .data)
    {connId : ℕ} {conn : Conn} (hconn : tunnel.conns.get connId = some conn) :
    Separate (tunnel.note conn.flow connId conn.tcp kind) :=
  hseparate.note kind hopened
    ⟨hseparate.conns connId conn hconn, fun heq => absurd heq hdata⟩

theorem Separate.next (hfinished : Finished tunnel label)
    (hnext : Relay.next tunnel label = some after) : Separate after := by
  have hheld : ∀ connId conn, tunnel.conns.get connId = some conn →
      ∃ before, tunnel.conns.get connId = some before ∧ before.flow = conn.flow :=
    fun _ conn hconn => ⟨conn, hconn, rfl⟩
  have hremoved (connId : ℕ) : ∀ other conn, (tunnel.conns.remove connId).get other = some conn →
      ∃ before, tunnel.conns.get other = some before ∧ before.flow = conn.flow :=
    fun other conn hconn => hheld other conn (get_remove_eq_some.mp hconn).2
  have hkept : ∀ flow task, tunnel.tasks.get flow = some task → ∃ before,
      tunnel.tasks.get flow = some before ∧ before.connId = task.connId ∧ before.tcp = task.tcp :=
    fun _ task htask => ⟨task, htask, rfl, rfl⟩
  have hmoved {flow connId : ℕ} {tcp : Bool} {stage : Stage} (later : Stage)
      (htask : tunnel.tasks.get flow = some ⟨connId, tcp, stage⟩) : ∀ other task,
      (tunnel.tasks.insert flow ⟨connId, tcp, later⟩).get other = some task → ∃ before,
        tunnel.tasks.get other = some before ∧ before.connId = task.connId ∧
          before.tcp = task.tcp := by
    intro other task hother
    rcases get_insert_eq_some.mp hother with ⟨rfl, rfl⟩ | ⟨-, hother⟩
    · exact ⟨_, htask, rfl, rfl⟩
    · exact hkept other task hother
  have hended (flow : ℕ) : ∀ other task, (tunnel.tasks.remove flow).get other = some task →
      ∃ before, tunnel.tasks.get other = some before ∧ before.connId = task.connId ∧
        before.tcp = task.tcp :=
    fun other task hother => hkept other task (get_remove_eq_some.mp hother).2
  revert hnext
  fun_cases Relay.next tunnel label <;> rintro ⟨⟩
  · exact hseparate.frame rfl rfl hheld hkept
  · exact hseparate
  · exact hseparate.refuse (by decide) (by decide)
  next hnone _ =>
    exact hseparate.connect (fun flow task htask =>
      hfinished (by simpa using hnone) (flow, task) (mem_toList.mpr htask)) _ _ _
  · exact hseparate
  next hconn =>
    refine (hseparate.noteConn .received (by decide) (by decide) hconn).frame rfl rfl ?_ hkept
    intro other found hfound
    rcases get_insert_eq_some.mp hfound with ⟨rfl, rfl⟩ | ⟨-, hfound⟩
    · exact ⟨_, hconn, rfl⟩
    · exact ⟨found, hfound, rfl⟩
  next hconn _ =>
    exact (hseparate.noteConn .close (by decide) (by decide) hconn).frame rfl rfl (hremoved _)
      hkept
  · exact hseparate.frame rfl rfl (hremoved _) hkept
  next hconn _ =>
    exact (hseparate.noteConn .idle (by decide) (by decide) hconn).frame rfl rfl (hremoved _)
      hkept
  next htask => exact hseparate.frame rfl rfl hheld (hmoved .sending htask)
  next htask => exact hseparate.frame rfl rfl hheld (hmoved .closing htask)
  · exact hseparate.frame rfl rfl hheld (hended _)
  next htask =>
    obtain ⟨hlatest, hready⟩ := hseparate.tasks _ _ htask
    exact (hseparate.note .data (by decide) ⟨hlatest, fun _ => hready⟩).frame rfl rfl hheld
      (hmoved .waiting htask)
  next htask =>
    obtain ⟨hlatest, -⟩ := hseparate.tasks _ _ htask
    refine (hseparate.note .close (by decide) ⟨hlatest, ?_⟩).frame rfl rfl hheld (hended _)
    intro hdata
    cases hdata

end Separate

/-- Once a flow is open, nothing of an earlier flow with its id is sent any
more, and TCP data follows the ready frame. -/
theorem flows_do_not_mix {labels : List Label} (hrun : run next .new labels = some tunnel)
    (hfinished : Meets next Finished .new labels) : Each FromLatest tunnel.log := by
  have hstart : Separate .new := by constructor <;> simp [Tunnel.new, Each]
  exact (run_invariant_of_meets (fun _ _ _ => Separate.next) hstart hfinished hrun).log

/-- A flow over TCP, and another one under its id when its task is over. -/
def reconnected : List Label :=
  [.connect 1 dotPort true true, .read 0 .bytes, .send 0, .close 1, .read 0 .stop,
    .connect 1 dotPort true true, .read 1 .bytes, .send 1]

theorem flows_do_not_mix_reconnected :
    ∃ tunnel, run next .new reconnected = some tunnel ∧ tunnel.log.length = 6 ∧
      Each FromLatest tunnel.log := by
  have hfinished : Meets next Finished .new reconnected := by decide
  exact ⟨_, rfl, rfl, flows_do_not_mix rfl hfinished⟩

/-- The reader of a closed flow finishes its send under the next one. -/
theorem old_flow_under_new_id :
    ∃ tunnel ∈ run next .new [.connect 1 51820 true true, .read 0 .bytes, .close 1,
      .connect 1 51820 true true, .send 0], ¬ Each FromLatest tunnel.log := by
  decide

/-! ## Activity -/

/-- A swept flow has relayed nothing for the whole timeout, and a connect is
over the cap if that many flows are live. -/
def Active (entry : Entry) (earlier : List Entry) : Prop :=
  match entry.kind with
  | .idle => ∀ byte ∈ earlier, byte.flow = entry.flow → byte.kind = .received ∨ byte.kind = .data →
    byte.time + idleTimeout ≤ entry.time
  | .capped live => maxConns entry.tcp ≤ live
  | _ => True

/-- A flow is swept if nothing came back since the last bytes of the node, and
when a flow is connected all the others are live. -/
def Attended (tunnel : Tunnel) : Label → Prop
  | .sweep connId => ∀ conn ∈ tunnel.conns.get connId, ∀ byte ∈ tunnel.log,
    byte.flow = conn.flow → byte.kind = .data → byte.time + idleTimeout ≤ conn.deadline
  | .connect .. => ∀ entry ∈ tunnel.conns.toList, tunnel.live entry.2
  | _ => True

instance (entry : Entry) (earlier : List Entry) : Decidable (Active entry earlier) := by
  delta Active
  split <;> infer_instance

instance (tunnel : Tunnel) (label : Label) : Decidable (Attended tunnel label) := by
  cases label <;> delta Attended <;> infer_instance

/-- The deadline of a flow is a timeout after the last bytes of the node. -/
structure Timed (tunnel : Tunnel) : Prop where
  log : Each Active tunnel.log
  known : ∀ byte ∈ tunnel.log, byte.kind = .received →
    byte.flow < tunnel.nextFlow ∧ byte.time ≤ tunnel.now
  conns : ∀ connId conn, tunnel.conns.get connId = some conn → conn.flow < tunnel.nextFlow ∧
    ∀ byte ∈ tunnel.log, byte.flow = conn.flow → byte.kind = .received →
      byte.time + idleTimeout ≤ conn.deadline
  unique : ∀ connId conn connId' conn', tunnel.conns.get connId = some conn →
    tunnel.conns.get connId' = some conn' → conn.flow = conn'.flow → connId = connId'

section Timed

variable (htimed : Timed tunnel)
include htimed

/-- An entry that brings no bytes of the node is noted. -/
theorem Timed.note (kind : Kind) (hkind : kind ≠ .received) {flow connId : ℕ} {tcp : Bool}
    (hentry : Active ⟨flow, connId, tcp, kind, tunnel.now⟩ tunnel.log) :
    Timed (tunnel.note flow connId tcp kind) := by
  have hearlier : ∀ byte ∈ (tunnel.note flow connId tcp kind).log, byte.kind = .received →
      byte ∈ tunnel.log := by
    intro byte hbyte hreceived
    rcases List.mem_cons.mp hbyte with rfl | hbyte
    · exact absurd hreceived hkind
    · exact hbyte
  refine ⟨(each_cons ..).mpr ⟨hentry, htimed.log⟩, ?_, ?_, htimed.unique⟩
  · exact fun byte hbyte hreceived => htimed.known byte (hearlier byte hbyte hreceived) hreceived
  · intro connId conn hconn
    obtain ⟨hflow, hbytes⟩ := htimed.conns connId conn hconn
    exact ⟨hflow, fun byte hbyte hsame hreceived =>
      hbytes byte (hearlier byte hbyte hreceived) hsame hreceived⟩

/-- Time passes, flows are closed and tasks move on. -/
theorem Timed.frame (hlog : after.log = tunnel.log) (hflow : after.nextFlow = tunnel.nextFlow)
    (hnow : tunnel.now ≤ after.now)
    (hconns : ∀ connId conn, after.conns.get connId = some conn →
      tunnel.conns.get connId = some conn) : Timed after := by
  refine ⟨hlog ▸ htimed.log, ?_, ?_, ?_⟩
  · rw [hlog, hflow]
    intro byte hbyte hreceived
    obtain ⟨hknown, htime⟩ := htimed.known byte hbyte hreceived
    exact ⟨hknown, Nat.le_trans htime hnow⟩
  · rw [hlog, hflow]
    exact fun connId conn hconn => htimed.conns connId conn (hconns connId conn hconn)
  · exact fun connId conn connId' conn' hconn hconn' =>
      htimed.unique connId conn connId' conn' (hconns connId conn hconn)
        (hconns connId' conn' hconn')

/-- A flow with a fresh number has had no bytes yet. -/
theorem Timed.fresh (connId : ℕ) (conn : Conn) (hconn : conn.flow = tunnel.nextFlow) :
    Timed { tunnel with
      conns := tunnel.conns.insert connId conn, nextFlow := tunnel.nextFlow + 1 } := by
  have hother : ∀ other found, tunnel.conns.get other = some found → found.flow ≠ conn.flow :=
    fun other found hfound => hconn ▸ Nat.ne_of_lt (htimed.conns other found hfound).1
  refine ⟨htimed.log, ?_, ?_, ?_⟩
  · intro byte hbyte hreceived
    obtain ⟨hknown, htime⟩ := htimed.known byte hbyte hreceived
    exact ⟨Nat.lt_succ_of_lt hknown, htime⟩
  · intro other found hfound
    rcases get_insert_eq_some.mp hfound with ⟨rfl, rfl⟩ | ⟨-, hfound⟩
    · refine ⟨hconn ▸ Nat.lt_succ_self _, fun byte hbyte hsame hreceived => ?_⟩
      have hknown := (htimed.known byte hbyte hreceived).1
      omega
    · obtain ⟨hflow, hbytes⟩ := htimed.conns other found hfound
      exact ⟨Nat.lt_succ_of_lt hflow, hbytes⟩
  · intro first conn₁ second conn₂ hget hget' hsame
    rcases get_insert_eq_some.mp hget with ⟨hid, rfl⟩ | ⟨-, hfirst⟩ <;>
      rcases get_insert_eq_some.mp hget' with ⟨hid', rfl⟩ | ⟨-, hsecond⟩
    · exact hid.trans hid'.symm
    · exact absurd hsame.symm (hother second conn₂ hsecond)
    · exact absurd hsame (hother first conn₁ hfirst)
    · exact htimed.unique first conn₁ second conn₂ hfirst hsecond hsame

/-- Bytes of the node put off the deadline of their flow, and of no other. -/
theorem Timed.received {connId : ℕ} {conn : Conn} (hconn : tunnel.conns.get connId = some conn) :
    Timed { tunnel.note conn.flow connId conn.tcp .received with
      conns := tunnel.conns.insert connId { conn with deadline := tunnel.now + idleTimeout } } := by
  refine ⟨(each_cons ..).mpr ⟨trivial, htimed.log⟩, ?_, ?_, ?_⟩
  · intro byte hbyte hreceived
    rcases List.mem_cons.mp hbyte with rfl | hbyte
    · exact ⟨(htimed.conns connId conn hconn).1, le_rfl⟩
    · exact htimed.known byte hbyte hreceived
  · intro other found hfound
    rcases get_insert_eq_some.mp hfound with ⟨rfl, rfl⟩ | ⟨hne, hfound⟩
    · refine ⟨(htimed.conns other conn hconn).1, fun byte hbyte _ hreceived => ?_⟩
      rcases List.mem_cons.mp hbyte with rfl | hbyte
      · exact le_rfl
      · exact Nat.add_le_add_right (htimed.known byte hbyte hreceived).2 _
    · obtain ⟨hflow, hbytes⟩ := htimed.conns other found hfound
      refine ⟨hflow, fun byte hbyte hsame hreceived => ?_⟩
      rcases List.mem_cons.mp hbyte with rfl | hbyte
      · exact absurd (htimed.unique _ _ _ _ hfound hconn hsame.symm) hne
      · exact hbytes byte hbyte hsame hreceived
  · intro first conn₁ second conn₂ hget hget' hsame
    rcases get_insert_eq_some.mp hget with ⟨hid, rfl⟩ | ⟨-, hfirst⟩ <;>
      rcases get_insert_eq_some.mp hget' with ⟨hid', rfl⟩ | ⟨-, hsecond⟩
    · exact hid.trans hid'.symm
    · exact hid.trans (htimed.unique connId conn second conn₂ hconn hsecond hsame)
    · exact (htimed.unique first conn₁ connId conn hfirst hconn hsame).trans hid'.symm
    · exact htimed.unique first conn₁ second conn₂ hfirst hsecond hsame

theorem Timed.connect (hlive : ∀ entry ∈ tunnel.conns.toList, tunnel.live entry.2) (connId : ℕ)
    (tcp gate opens : Bool) : Timed (tunnel.connect connId tcp gate opens) := by
  have hcount : tunnel.countLive tcp = tunnel.countKind tcp := by
    unfold Tunnel.countLive Tunnel.countKind
    congr 1
    refine List.filter_congr fun entry hentry => ?_
    simp [hlive entry hentry]
  unfold Tunnel.connect
  split
  · exact htimed.note .close nofun trivial
  split
  next hcap => exact htimed.note (.capped _) nofun (hcount ▸ hcap)
  split
  · exact htimed.note .close nofun trivial
  have hfresh := htimed.fresh connId ⟨tunnel.nextFlow, tcp, tunnel.now + idleTimeout⟩ rfl
  cases tcp with
  | false =>
    exact (hfresh.note .opened nofun trivial).frame rfl rfl le_rfl fun _ _ hconn => hconn
  | true =>
    exact ((hfresh.note .opened nofun trivial).note .ready nofun trivial).frame rfl rfl le_rfl
      fun _ _ hconn => hconn

theorem Timed.next (hattended : Attended tunnel label)
    (hnext : Relay.next tunnel label = some after) : Timed after := by
  have hheld : ∀ connId conn, tunnel.conns.get connId = some conn →
      tunnel.conns.get connId = some conn := fun _ _ hconn => hconn
  have hremoved (connId : ℕ) : ∀ other conn, (tunnel.conns.remove connId).get other = some conn →
      tunnel.conns.get other = some conn := fun _ _ hconn => (get_remove_eq_some.mp hconn).2
  revert hnext
  fun_cases Relay.next tunnel label <;> rintro ⟨⟩
  · exact htimed.frame rfl rfl (Nat.le_add_right ..) hheld
  · exact htimed
  · exact htimed.note .close nofun trivial
  · exact htimed.connect hattended _ _ _ _
  · exact htimed
  next hconn => exact htimed.received hconn
  · exact (htimed.note .close nofun trivial).frame rfl rfl le_rfl (hremoved _)
  · exact htimed.frame rfl rfl le_rfl (hremoved _)
  next conn hconn hdue =>
    refine (htimed.note .idle nofun ?_).frame rfl rfl le_rfl (hremoved _)
    intro byte hbyte hsame hkind
    refine Nat.le_trans ?_ hdue
    rcases hkind with hreceived | hdata
    · exact (htimed.conns _ _ hconn).2 byte hbyte hsame hreceived
    · exact hattended _ hconn byte hbyte hsame hdata
  · exact htimed.frame rfl rfl le_rfl hheld
  · exact htimed.frame rfl rfl le_rfl hheld
  · exact htimed.frame rfl rfl le_rfl hheld
  · exact (htimed.note .data nofun trivial).frame rfl rfl le_rfl hheld
  · exact (htimed.note .close nofun trivial).frame rfl rfl le_rfl hheld

end Timed

/-- If every sweep and every connect is attended, a swept flow has relayed
nothing for the whole timeout, and a refused connect finds the cap reached by
live flows. -/
theorem relay_follows_activity {labels : List Label} (hrun : run next .new labels = some tunnel)
    (hattended : Meets next Attended .new labels) : Each Active tunnel.log := by
  have hstart : Timed .new := by constructor <;> simp [Tunnel.new, Each]
  exact (run_invariant_of_meets (fun _ _ _ => Timed.next) hstart hattended hrun).log

/-- A flow that is quiet from its start on. -/
def quiet : List Label := [.connect 1 51820 true true, .data 1 true, .tick 120, .sweep 1]

theorem relay_follows_activity_quiet :
    ∃ tunnel, run next .new quiet = some tunnel ∧ tunnel.log.length = 3 ∧
      Each Active tunnel.log := by
  have hattended : Meets next Attended .new quiet := by decide
  exact ⟨_, rfl, rfl, relay_follows_activity rfl hattended⟩

/-- A flow is swept after bytes of the local end, and one is refused because of
a flow whose task is over. -/
theorem relay_ignores_activity :
    (∃ tunnel ∈ run next .new [.connect 1 51820 true true, .tick 100, .read 0 .bytes,
      .send 0, .tick 20, .sweep 1], ¬ Each Active tunnel.log) ∧
    ∃ tunnel ∈ run next .new ((List.range 8).map (.connect · 51820 true true) ++
      [.read 0 .stop, .connect 8 51820 true true]), ¬ Each Active tunnel.log := by
  decide

end Wardnet.Relay
