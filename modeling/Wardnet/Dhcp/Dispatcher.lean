import Wardnet.Core.HashMap
import Wardnet.Core.Transition

/-!
# DHCP packet dispatcher

The receive loop hands every packet to `Dispatcher::dispatch`, which runs one
handler task per MAC and parks at most one packet behind it.  Each critical
section of the slot map is one step here, and the points where a task is
outside the lock are its phases, so a run of the model is one interleaving of
the receive loop with any number of handler tasks.  No critical section can
panic, so the mutex is never poisoned.
-/

namespace Wardnet.Dispatcher

open HashMap Transition

inductive MessageType
  | discover
  | offer
  | request
  | decline
  | ack
  | nak
  | release
  | inform
  deriving DecidableEq

/-- A packet with its message type; the message body and the sender are
opaque to the dispatcher. -/
structure Packet (Message : Type) where
  msgType : MessageType
  message : Message
  deriving DecidableEq

/-- The value of a MAC in the slot map.  `owner` is the task started by the
`dispatch` call that inserted the entry; no step reads it. -/
structure Slot (Message : Type) where
  owner : ℕ
  pending : Option (Packet Message)
  deriving DecidableEq

/-- Where a handler task stands.  `exiting` is a task whose locked section
removed its own entry and disarmed the guard, `unwinding` one whose
`handle_packet` panicked with the guard still armed, and `released` one that
has dropped its guard and still holds its permit. -/
inductive Phase (Message : Type)
  | spawned (current : Packet Message)
  | handling (current : Packet Message)
  | returned
  | unwinding
  | exiting
  | released
  deriving DecidableEq

/-- The task has not given up its slot in the map. -/
def Phase.holdsSlot {Message : Type} : Phase Message → Bool
  | .spawned _ | .handling _ | .returned | .unwinding => true
  | .exiting | .released => false

structure Task (Mac Message : Type) where
  mac : Mac
  phase : Phase Message
  deriving DecidableEq

structure State (Mac Message : Type) where
  inflight : HashMap Mac (Slot Message)
  tasks : HashMap ℕ (Task Mac Message)
  permits : ℕ
  nextTask : ℕ
  deriving DecidableEq

def maxConcurrentHandlers : ℕ := 64

variable {Mac Message : Type} [DecidableEq Mac]

omit [DecidableEq Mac] in
def State.new : State Mac Message where
  inflight := .empty
  tasks := .empty
  permits := maxConcurrentHandlers
  nextTask := 0

/-- The effect of a packet on an occupied slot: a queued DHCPRELEASE is kept,
anything else gives way to the newer packet. -/
def Slot.offer (slot : Slot Message) (packet : Packet Message) : Slot Message :=
  match slot.pending with
  | some queued =>
    if queued.msgType = .release then slot
    else { slot with pending := some packet }
  | none => { slot with pending := some packet }

/-- `Dispatcher::dispatch`, one critical section of the slot map. -/
def dispatch (state : State Mac Message) (mac : Mac)
    (packet : Packet Message) : State Mac Message :=
  match state.inflight.get mac with
  | some slot => { state with inflight := state.inflight.insert mac (slot.offer packet) }
  | none =>
    if state.permits = 0 then state
    else
      { inflight := state.inflight.insert mac { owner := state.nextTask, pending := none }
        tasks := state.tasks.insert state.nextTask { mac := mac, phase := .spawned packet }
        permits := state.permits - 1
        nextTask := state.nextTask + 1 }

def setPhase (state : State Mac Message) (id : ℕ) (mac : Mac)
    (phase : Phase Message) : State Mac Message :=
  { state with tasks := state.tasks.insert id { mac := mac, phase := phase } }

omit [DecidableEq Mac] in
@[simp]
theorem setPhase_inflight (state : State Mac Message) (id : ℕ) (mac : Mac) (phase : Phase Message) :
    (setPhase state id mac phase).inflight = state.inflight := rfl

omit [DecidableEq Mac] in
@[simp]
theorem setPhase_tasks_get_self (state : State Mac Message) (id : ℕ)
    (mac : Mac) (phase : Phase Message) :
    (setPhase state id mac phase).tasks.get id = some ⟨mac, phase⟩ := by
  simp [setPhase]

/-- The locked section of the handler loop: take the pending packet, or
remove the entry and disarm the guard. -/
def takeNext (state : State Mac Message) (id : ℕ) (mac : Mac) : State Mac Message :=
  match state.inflight.get mac with
  | some { owner := owner, pending := some packet } =>
    setPhase { state with
      inflight := state.inflight.insert mac
        { owner := owner, pending := none } } id mac (.handling packet)
  | _ => setPhase { state with inflight := state.inflight.remove mac } id mac .exiting

inductive Label (Mac Message : Type)
  | dispatch (mac : Mac) (packet : Packet Message)
  | start (id : ℕ)
  | complete (id : ℕ)
  | panic (id : ℕ)
  | takeNext (id : ℕ)
  | dropGuard (id : ℕ)
  | dropPermit (id : ℕ)

/-- One step of the receive loop or of a handler task. -/
def next (state : State Mac Message) : Label Mac Message → Option (State Mac Message)
  | .dispatch mac packet => some (dispatch state mac packet)
  | .start id =>
    match state.tasks.get id with
    | some { mac := mac, phase := .spawned current } =>
      some (setPhase state id mac (.handling current))
    | _ => none
  | .complete id =>
    match state.tasks.get id with
    | some { mac := mac, phase := .handling _ } => some (setPhase state id mac .returned)
    | _ => none
  | .panic id =>
    match state.tasks.get id with
    | some { mac := mac, phase := .handling _ } => some (setPhase state id mac .unwinding)
    | _ => none
  | .takeNext id =>
    match state.tasks.get id with
    | some { mac := mac, phase := .returned } => some (takeNext state id mac)
    | _ => none
  | .dropGuard id =>
    match state.tasks.get id with
    | some { mac := mac, phase := .exiting } => some (setPhase state id mac .released)
    | some { mac := mac, phase := .unwinding } =>
      some (setPhase { state with inflight := state.inflight.remove mac } id mac .released)
    | _ => none
  | .dropPermit id =>
    match state.tasks.get id with
    | some { phase := .released, .. } =>
      some { state with
        tasks := state.tasks.remove id
        permits := state.permits + 1 }
    | _ => none

/-! ## Slot ownership -/

/-- Slots and the tasks that have not given theirs up correspond one to
one. -/
structure Owned (state : State Mac Message) : Prop where
  slot_owned : ∀ mac slot, state.inflight.get mac = some slot →
    ∃ phase, state.tasks.get slot.owner = some { mac := mac, phase := phase } ∧
      phase.holdsSlot = true
  task_owns : ∀ id mac phase, state.tasks.get id = some { mac := mac, phase := phase } →
    phase.holdsSlot = true →
    ∃ slot, state.inflight.get mac = some slot ∧ slot.owner = id
  fresh : ∀ id task, state.tasks.get id = some task → id < state.nextTask

variable {state : State Mac Message} {id : ℕ} {mac : Mac} {slot : Slot Message}

theorem Owned.insert_slot (howned : Owned state)
    {slot' : Slot Message} (hslot : state.inflight.get mac = some slot)
    (howner : slot'.owner = slot.owner) :
    Owned { state with inflight := state.inflight.insert mac slot' } := by
  constructor
  · intro mac' found hfound
    rcases get_insert_eq_some.mp hfound with ⟨rfl, rfl⟩ | ⟨-, hfound⟩
    · rw [howner]
      exact howned.slot_owned _ slot hslot
    · exact howned.slot_owned mac' found hfound
  · intro id mac' phase htask hholds
    obtain ⟨found, hfound, hid⟩ := howned.task_owns id mac' phase htask hholds
    by_cases hmac : mac' = mac
    · subst hmac
      rw [hslot, Option.some.injEq] at hfound
      exact ⟨slot', by simp, by rw [howner, hfound, hid]⟩
    · exact ⟨found, by simpa [hmac] using hfound, hid⟩
  · exact howned.fresh

variable {phase : Phase Message} {phase' : Phase Message}

/-- Moving a task between two phases that both hold the slot, or that both do
not, keeps the correspondence. -/
theorem Owned.set_phase (howned : Owned state)
    (htask : state.tasks.get id = some { mac := mac, phase := phase })
    (hholds : phase'.holdsSlot = phase.holdsSlot) :
    Owned (setPhase state id mac phase') := by
  constructor
  · intro mac' slot hslot
    obtain ⟨found, hfound, hfoundHolds⟩ := howned.slot_owned mac' slot hslot
    by_cases hid : slot.owner = id
    · rw [hid, htask, Option.some.injEq, Task.mk.injEq] at hfound
      obtain ⟨rfl, rfl⟩ := hfound
      exact ⟨phase', by simp [setPhase, hid], hholds ▸ hfoundHolds⟩
    · exact ⟨found, by simpa [setPhase, hid] using hfound, hfoundHolds⟩
  · intro id' mac' found hfound hfoundHolds
    rcases get_insert_eq_some.mp hfound with ⟨rfl, ⟨⟩⟩ | ⟨-, hfound⟩
    · exact howned.task_owns _ mac phase htask (hholds ▸ hfoundHolds)
    · exact howned.task_owns id' mac' found hfound hfoundHolds
  · intro id' task hfound
    rcases get_insert_eq_some.mp hfound with ⟨rfl, -⟩ | ⟨-, hfound⟩
    · exact howned.fresh _ _ htask
    · exact howned.fresh id' task hfound

theorem Owned.release (howned : Owned state)
    (htask : state.tasks.get id = some { mac := mac, phase := phase })
    (hheld : phase.holdsSlot = true) (hfree : phase'.holdsSlot = false) :
    Owned (setPhase { state with inflight := state.inflight.remove mac } id mac phase') := by
  obtain ⟨own, hown, hownId⟩ := howned.task_owns id mac phase htask hheld
  constructor
  · intro mac' slot hslot
    obtain ⟨hmac, hslot⟩ := get_remove_eq_some.mp hslot
    obtain ⟨found, hfound, hfoundHolds⟩ := howned.slot_owned mac' slot hslot
    have hid : slot.owner ≠ id := by
      intro hid
      cases (hid ▸ hfound).symm.trans htask
      exact hmac rfl
    exact ⟨found, by simpa [setPhase, hid] using hfound, hfoundHolds⟩
  · intro id' mac' found hfound hfoundHolds
    rcases get_insert_eq_some.mp hfound with ⟨-, ⟨⟩⟩ | ⟨hid, hfound⟩
    · cases hfree.symm.trans hfoundHolds
    · obtain ⟨slot, hslot, hslotId⟩ := howned.task_owns id' mac' found hfound hfoundHolds
      have hmac : mac' ≠ mac := by
        rintro rfl
        cases hown.symm.trans hslot
        exact hid (hslotId.symm.trans hownId)
      exact ⟨slot, by simpa [setPhase, hmac] using hslot, hslotId⟩
  · intro id' task hfound
    rcases get_insert_eq_some.mp hfound with ⟨rfl, -⟩ | ⟨-, hfound⟩
    · exact howned.fresh _ _ htask
    · exact howned.fresh id' task hfound

theorem Owned.of_dispatch (howned : Owned state)
    (mac : Mac) (packet : Packet Message) : Owned (dispatch state mac packet) := by
  unfold dispatch
  cases hslot : state.inflight.get mac with
  | some slot =>
    apply howned.insert_slot hslot
    unfold Slot.offer
    split
    · split <;> rfl
    · rfl
  | none =>
    by_cases hpermits : state.permits = 0
    · simpa [hpermits] using howned
    simp only [hpermits, if_false]
    constructor
    · intro mac' found hfound
      rcases get_insert_eq_some.mp hfound with ⟨rfl, rfl⟩ | ⟨-, hfound⟩
      · exact ⟨.spawned packet, by simp, rfl⟩
      · obtain ⟨phase, hphase, hholds⟩ := howned.slot_owned mac' found hfound
        have hid := Nat.ne_of_lt (howned.fresh _ _ hphase)
        exact ⟨phase, by simpa [hid] using hphase, hholds⟩
    · intro id mac' phase htask hholds
      rcases get_insert_eq_some.mp htask with ⟨rfl, ⟨⟩⟩ | ⟨-, htask⟩
      · exact ⟨_, by simp; rfl, rfl⟩
      · obtain ⟨found, hfound, hfoundId⟩ := howned.task_owns id mac' phase htask hholds
        have hmac : mac' ≠ mac := by
          rintro rfl
          simp [hslot] at hfound
        exact ⟨found, by simpa [hmac] using hfound, hfoundId⟩
    · intro id task htask
      rcases get_insert_eq_some.mp htask with ⟨rfl, -⟩ | ⟨-, htask⟩
      · exact Nat.lt_succ_self state.nextTask
      · exact Nat.lt_succ_of_lt (howned.fresh id task htask)

/-! ## What one step does -/

/-- Every step is a packet dispatched, or a task moved from one phase to the
next by the code that runs there. -/
inductive StepSpec (state : State Mac Message) :
    Label Mac Message → State Mac Message → Prop
  | dispatch (mac : Mac) (packet : Packet Message) :
      StepSpec state (.dispatch mac packet) (dispatch state mac packet)
  | start {id : ℕ} {mac : Mac} {current : Packet Message}
      (htask : state.tasks.get id = some ⟨mac, .spawned current⟩) :
      StepSpec state (.start id) (setPhase state id mac (.handling current))
  | complete {id : ℕ} {mac : Mac} {current : Packet Message}
      (htask : state.tasks.get id = some ⟨mac, .handling current⟩) :
      StepSpec state (.complete id) (setPhase state id mac .returned)
  | panic {id : ℕ} {mac : Mac} {current : Packet Message}
      (htask : state.tasks.get id = some ⟨mac, .handling current⟩) :
      StepSpec state (.panic id) (setPhase state id mac .unwinding)
  | takeNext {id : ℕ} {mac : Mac} (htask : state.tasks.get id = some ⟨mac, .returned⟩) :
      StepSpec state (.takeNext id) (takeNext state id mac)
  | dropDisarmed {id : ℕ} {mac : Mac} (htask : state.tasks.get id = some ⟨mac, .exiting⟩) :
      StepSpec state (.dropGuard id) (setPhase state id mac .released)
  | dropArmed {id : ℕ} {mac : Mac} (htask : state.tasks.get id = some ⟨mac, .unwinding⟩) :
      StepSpec state (.dropGuard id)
        (setPhase { state with inflight := state.inflight.remove mac } id mac .released)
  | dropPermit {id : ℕ} {mac : Mac} (htask : state.tasks.get id = some ⟨mac, .released⟩) :
      StepSpec state (.dropPermit id)
        { state with
          tasks := state.tasks.remove id
          permits := state.permits + 1 }

variable {label : Label Mac Message} {after : State Mac Message}

theorem stepSpec_of_next (hnext : next state label = some after) : StepSpec state label after := by
  revert hnext
  fun_cases next state label <;> rintro ⟨⟩
  · exact .dispatch _ _
  · exact .start ‹_›
  · exact .complete ‹_›
  · exact .panic ‹_›
  · exact .takeNext ‹_›
  · exact .dropDisarmed ‹_›
  · exact .dropArmed ‹_›
  · exact .dropPermit ‹_›

theorem owned_step (howned : Owned state) (hnext : next state label = some after) :
    Owned after := by
  cases stepSpec_of_next hnext with
  | dispatch mac packet => exact howned.of_dispatch mac packet
  | start htask | complete htask | panic htask | dropDisarmed htask =>
    exact howned.set_phase htask rfl
  | @takeNext id mac htask =>
    unfold takeNext
    split
    next owner packet hslot =>
      have htaken : Owned { state with inflight := state.inflight.insert mac ⟨owner, none⟩ } :=
        howned.insert_slot hslot rfl
      exact htaken.set_phase htask rfl
    · exact howned.release htask rfl rfl
  | dropArmed htask => exact howned.release htask rfl rfl
  | @dropPermit id _ htask =>
    constructor
    · intro mac' slot hslot
      obtain ⟨phase, hphase, hholds⟩ := howned.slot_owned mac' slot hslot
      have hid : slot.owner ≠ id := by
        intro hid
        cases (hid ▸ hphase).symm.trans htask
        cases hholds
      exact ⟨phase, by simpa [hid] using hphase, hholds⟩
    · intro id' mac' phase hphase hholds
      exact howned.task_owns id' mac' phase (get_remove_eq_some.mp hphase).2 hholds
    · intro id' task hfound
      exact howned.fresh id' task (get_remove_eq_some.mp hfound).2

/-! ## Serialisation of the packets of one MAC -/

/-- At most one task is inside `handle_packet` for a MAC. -/
def OneHandlerPerMac (state : State Mac Message) : Prop :=
  ∀ mac left right leftPacket rightPacket, state.tasks.get left = some ⟨mac, .handling leftPacket⟩ →
    state.tasks.get right = some ⟨mac, .handling rightPacket⟩ →
    left = right

omit [DecidableEq Mac] in
/-- The step is one the task takes when its `handle_packet` does not panic. -/
def Label.IsNormalStepOf (id : ℕ) (label : Label Mac Message) : Prop :=
  label = .start id ∨ label = .complete id ∨ label = .takeNext id

/-- The task reaches `handle_packet` with this packet by its own steps, if it
does not panic. -/
def WillTake (state : State Mac Message) (id : ℕ) (mac : Mac) (packet : Packet Message) : Prop :=
  ∃ labels final, (∀ label ∈ labels, Label.IsNormalStepOf id label) ∧
    run next state labels = some final ∧
    final.tasks.get id = some ⟨mac, .handling packet⟩

/-- Every parked packet has a live task that will take it. -/
def NoPacketStranded (state : State Mac Message) : Prop :=
  ∀ mac slot packet, state.inflight.get mac = some slot → slot.pending = some packet →
    ∃ id phase, state.tasks.get id = some ⟨mac, phase⟩ ∧ WillTake state id mac packet

/-- Every parked packet has a live task, the owner of its slot, and that task
will take it unless it is unwinding from a panic. -/
def PendingServedUnlessPanic (state : State Mac Message) : Prop :=
  ∀ mac slot packet, state.inflight.get mac = some slot → slot.pending = some packet →
    ∃ phase, state.tasks.get slot.owner = some ⟨mac, phase⟩ ∧
      (phase = .unwinding ∨ WillTake state slot.owner mac packet)

/-- A parked packet stays parked in its slot until it is superseded by a newer
packet, taken by the slot's owner, or discarded with the slot by the guard of
an owner that panicked. -/
def PendingKept (state : State Mac Message) : Prop :=
  ∀ mac slot packet label after, state.inflight.get mac = some slot →
    slot.pending = some packet → next state label = some after →
    after.inflight.get mac = some slot ∨
    (packet.msgType ≠ .release ∧ ∃ newer, label = .dispatch mac newer ∧
      after.inflight.get mac = some { slot with pending := some newer }) ∨
    (label = .takeNext slot.owner ∧ after.tasks.get slot.owner = some ⟨mac, .handling packet⟩) ∨
    (label = .dropGuard slot.owner ∧ state.tasks.get slot.owner = some ⟨mac, .unwinding⟩)

/-- A queued DHCPRELEASE is replaced by no packet that arrives behind it. -/
def ReleaseKept (state : State Mac Message) : Prop :=
  ∀ mac slot queued, state.inflight.get mac = some slot →
    slot.pending = some queued → queued.msgType = .release →
    ∀ mac' packet, (dispatch state mac' packet).inflight.get mac = some slot

/-- The exit of a task that did not panic, its locked section and the drop of
its guard, leaves every entry that belongs to another task in place. -/
def ExitKeepsOthers (state : State Mac Message) : Prop :=
  ∀ id mac phase label after, state.tasks.get id = some ⟨mac, phase⟩ →
    phase ≠ .unwinding → (label = .takeNext id ∨ label = .dropGuard id) →
    next state label = some after →
    ∀ mac' slot, state.inflight.get mac' = some slot → slot.owner ≠ id →
      after.inflight.get mac' = some slot

theorem Owned.oneHandlerPerMac (howned : Owned state) : OneHandlerPerMac state := by
  intro mac left right leftPacket rightPacket hleft hright
  obtain ⟨slot, hslot, hslotLeft⟩ := howned.task_owns left mac _ hleft rfl
  obtain ⟨other, hother, hotherRight⟩ := howned.task_owns right mac _ hright rfl
  cases hslot.symm.trans hother
  exact hslotLeft.symm.trans hotherRight

variable {packet : Packet Message}

theorem WillTake.cons (hlabel : Label.IsNormalStepOf id label)
    (hnext : next state label = some after) (hafter : WillTake after id mac packet) :
    WillTake state id mac packet := by
  obtain ⟨labels, final, hlabels, hrun, hfinal⟩ := hafter
  refine ⟨label :: labels, final, ?_, ?_, hfinal⟩
  · intro other hother
    rcases List.mem_cons.mp hother with rfl | hmem
    · exact hlabel
    · exact hlabels other hmem
  · exact run_cons_eq_some.mpr ⟨after, hnext, hrun⟩

theorem willTake_of_returned (htask : state.tasks.get id = some ⟨mac, .returned⟩)
    (hslot : state.inflight.get mac = some slot) (hpending : slot.pending = some packet) :
    WillTake state id mac packet := by
  obtain ⟨owner, pending⟩ := slot
  subst hpending
  have hnext : next state (.takeNext id) = some (takeNext state id mac) := by simp [next, htask]
  refine ⟨[.takeNext id], takeNext state id mac, ?_, ?_, ?_⟩
  · simp [Label.IsNormalStepOf]
  · exact run_cons_eq_some.mpr ⟨_, hnext, rfl⟩
  · simp [takeNext, hslot, setPhase]

theorem willTake_of_handling {current : Packet Message}
    (htask : state.tasks.get id = some ⟨mac, .handling current⟩)
    (hslot : state.inflight.get mac = some slot) (hpending : slot.pending = some packet) :
    WillTake state id mac packet := by
  have hnext : next state (.complete id) = some (setPhase state id mac .returned) := by
    simp [next, htask]
  refine WillTake.cons (.inr (.inl rfl)) hnext ?_
  exact willTake_of_returned (setPhase_tasks_get_self ..) hslot hpending

theorem Owned.pendingServedUnlessPanic (howned : Owned state) : PendingServedUnlessPanic state := by
  intro mac slot packet hslot hpending
  obtain ⟨phase, htask, hholds⟩ := howned.slot_owned mac slot hslot
  refine ⟨phase, htask, ?_⟩
  cases phase with
  | spawned current =>
    have hnext : next state (.start slot.owner) =
        some (setPhase state slot.owner mac (.handling current)) := by
      simp [next, htask]
    refine .inr (WillTake.cons (.inl rfl) hnext ?_)
    exact willTake_of_handling (setPhase_tasks_get_self ..) hslot hpending
  | handling current => exact .inr (willTake_of_handling htask hslot hpending)
  | returned => exact .inr (willTake_of_returned htask hslot hpending)
  | unwinding => exact .inl rfl
  | exiting | released => cases hholds

theorem releaseKept (state : State Mac Message) : ReleaseKept state := by
  intro mac slot queued hslot hpending hrelease mac' packet
  unfold dispatch
  cases hslot' : state.inflight.get mac' with
  | some found =>
    by_cases hmac : mac = mac'
    · subst hmac
      cases hslot.symm.trans hslot'
      simp [Slot.offer, hpending, hrelease]
    · simpa [hmac] using hslot
  | none =>
    have hmac : mac ≠ mac' := by
      rintro rfl
      simp [hslot] at hslot'
    by_cases hpermits : state.permits = 0
    · simpa [hpermits] using hslot
    · simpa [hpermits, hmac] using hslot

theorem Owned.owner_eq (howned : Owned state) (htask : state.tasks.get id = some ⟨mac, phase⟩)
    (hholds : phase.holdsSlot = true) (hslot : state.inflight.get mac = some slot) :
    slot.owner = id := by
  obtain ⟨found, hfound, hid⟩ := howned.task_owns id mac phase htask hholds
  cases hslot.symm.trans hfound
  exact hid

theorem takeNext_inflight_of_ne (state : State Mac Message) (id : ℕ)
    {mac' : Mac} (hmac : mac' ≠ mac) :
    (takeNext state id mac).inflight.get mac' = state.inflight.get mac' := by
  unfold takeNext
  split <;> simp [hmac]

theorem Owned.pendingKept (howned : Owned state) : PendingKept state := by
  intro mac slot packet label after hslot hpending hnext
  cases stepSpec_of_next hnext with
  | dispatch mac' newer =>
    by_cases hrelease : packet.msgType = .release
    · exact .inl (releaseKept state mac slot packet hslot hpending hrelease mac' newer)
    by_cases hmac : mac = mac'
    · subst hmac
      simp [dispatch, hslot, Slot.offer, hpending, hrelease]
    · left
      unfold dispatch
      split
      · simpa [hmac] using hslot
      · split
        · exact hslot
        · simpa [hmac] using hslot
  | start | complete | panic | dropDisarmed | dropPermit => exact .inl hslot
  | @takeNext id mac' htask =>
    by_cases hmac : mac = mac'
    · subst hmac
      have howner := howned.owner_eq htask rfl hslot
      obtain ⟨owner, pending⟩ := slot
      subst hpending howner
      simp [takeNext, hslot]
    · exact .inl (by rw [takeNext_inflight_of_ne state id hmac, hslot])
  | @dropArmed id mac' htask =>
    by_cases hmac : mac = mac'
    · subst hmac
      have howner := howned.owner_eq htask rfl hslot
      exact .inr (.inr (.inr ⟨by rw [howner], by rw [howner, htask]⟩))
    · exact .inl (by simpa [hmac] using hslot)

theorem Owned.exitKeepsOthers (howned : Owned state) : ExitKeepsOthers state := by
  intro id mac phase label after htask hphase hlabel hnext mac' slot hslot howner
  rcases hlabel with rfl | rfl
  · cases stepSpec_of_next hnext with
    | @takeNext _ own hreturned =>
      have hmac : mac' ≠ own := by
        rintro rfl
        exact howner (howned.owner_eq hreturned rfl hslot)
      rw [takeNext_inflight_of_ne state id hmac, hslot]
  · cases stepSpec_of_next hnext with
    | dropDisarmed hexiting => exact hslot
    | dropArmed hunwinding =>
      cases htask.symm.trans hunwinding
      exact absurd rfl hphase

/-- In every interleaving of dispatched packets with handlers that complete or
panic: one handler per MAC is inside `handle_packet`; a parked packet has a
live handler that takes it unless that handler panics, and leaves its slot
only by being superseded, taken, or discarded by the guard of the panicked
owner; a queued DHCPRELEASE is never superseded; and a normal exit removes no
entry of another handler. -/
theorem dispatcher_serialises {labels : List (Label Mac Message)} {state : State Mac Message}
    (hrun : run next State.new labels = some state) :
    OneHandlerPerMac state ∧ PendingServedUnlessPanic state ∧
      PendingKept state ∧ ReleaseKept state ∧ ExitKeepsOthers state := by
  have howned : Owned state :=
    run_invariant (fun _ _ _ => owned_step) (by constructor <;> simp [State.new]) hrun
  exact ⟨howned.oneHandlerPerMac, howned.pendingServedUnlessPanic,
    howned.pendingKept, releaseKept state, howned.exitKeepsOthers⟩

def requestFor (message : ℕ) : Packet ℕ := ⟨.request, message⟩

/-- One packet being handled, a second one parked behind it. -/
def parkedRun : List (Label ℕ ℕ) :=
  [.dispatch 1 (requestFor 10), .start 0, .dispatch 1 (requestFor 11)]

def parkedState : State ℕ ℕ :=
  dispatch (setPhase (dispatch State.new 1 (requestFor 10)) 0 1
    (.handling (requestFor 10))) 1 (requestFor 11)

theorem dispatcher_serialises_parkedRun : run next State.new parkedRun = some parkedState ∧
      OneHandlerPerMac parkedState ∧ PendingServedUnlessPanic parkedState ∧
      PendingKept parkedState ∧ ReleaseKept parkedState ∧ ExitKeepsOthers parkedState := by
  have hrun : run next State.new parkedRun = some parkedState := by decide
  exact ⟨hrun, dispatcher_serialises hrun⟩

def panickedState : State ℕ ℕ := setPhase parkedState 0 1 .unwinding

/-- A handler that panics while a packet is parked behind it never takes that
packet: its guard removes the slot with the packet in it. -/
theorem panic_strands_parked_packet :
    run next State.new (parkedRun ++ [.panic 0]) = some panickedState ∧
      ¬ NoPacketStranded panickedState ∧ (run next panickedState [.dropGuard 0]).map
        (fun after => after.inflight.get 1) = some none := by
  refine ⟨by decide, ?_, by decide⟩
  intro hserved
  obtain ⟨id, phase, htask, htake⟩ := hserved 1 ⟨0, some (requestFor 11)⟩
    (requestFor 11) (by decide) rfl
  have hid : id = 0 := by
    by_contra hne
    have hnone : panickedState.tasks.get id = none := by
      have htasks : panickedState.tasks = insert .empty 0 ⟨1, .unwinding⟩ := by decide
      simp [htasks, hne]
    simp [hnone] at htask
  subst hid
  have hunwinding : panickedState.tasks.get 0 = some ⟨1, .unwinding⟩ := by decide
  obtain ⟨labels, final, hlabels, hrun, hfinal⟩ := htake
  cases labels with
  | nil =>
    cases hrun
    simp [hunwinding] at hfinal
  | cons label labels =>
    obtain ⟨after, hnext, -⟩ := run_cons_eq_some.mp hrun
    rcases hlabels label (List.mem_cons_self ..) with rfl | rfl | rfl <;>
      simp [next, hunwinding] at hnext

end Wardnet.Dispatcher
