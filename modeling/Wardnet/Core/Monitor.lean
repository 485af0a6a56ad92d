import Wardnet.Core.Pool

/-!
# Programs under a monitor

A monitor watches the operations of a program and their answers and keeps a
phase of its own: what the program has found out, or what it still has to do.
It says which operations the program may perform in which phase.  `Obeys` is
defined along the tree of the program and does not mention the state the
operations act on, so that other programs may interleave with it freely.
-/

namespace Wardnet

variable {Op : Type} {Answer : Op → Type}
variable {Choice State Request Error Result Value Phase : Type}

structure Monitor (Op : Type) (Answer : Op → Type) (Phase : Type) where
  allows : Op → Phase → Prop
  /-- The phase after an answer, or `none` for an answer that is not
  considered. -/
  advance : (op : Op) → Answer op → Phase → Option Phase

namespace Program

/-- Whatever the answers, the program performs only allowed operations and
returns in a phase with `post`. -/
def Obeys (monitor : Monitor Op Answer Phase) (post : Except Error Result → Phase → Prop) :
    Program Op Answer Error Result → Phase → Prop
  | done result, phase => post result phase
  | call op next, phase =>
    monitor.allows op phase ∧ ∀ answer after, monitor.advance op answer phase = some after →
        Obeys monitor post (next answer) after

variable {monitor : Monitor Op Answer Phase}
variable {post : Except Error Result → Phase → Prop} {phase : Phase}

/-- Sequencing: the first part returns in a phase the second one may start
from. -/
theorem Obeys.bind {program : Program Op Answer Error Value}
    {next : Value → Program Op Answer Error Result} (middle : Except Error Value → Phase → Prop)
    (hobeys : program.Obeys monitor middle phase) (hok : ∀ value phase, middle (.ok value) phase →
      (next value).Obeys monitor post phase) (herror : ∀ error phase, middle (.error error) phase →
      post (.error error) phase) : (program >>= next).Obeys monitor post phase := by
  induction program generalizing phase with
  | done result =>
    cases result with
    | ok value => exact hok value phase hobeys
    | error error => exact herror error phase hobeys
  | call op answered ih =>
    exact ⟨hobeys.1, fun answer after hadvance => ih answer (hobeys.2 answer after hadvance)⟩

/-- A program whose operations are allowed and keep an invariant of the phase
returns with the invariant. -/
theorem Obeys.of_performs {allowed : Op → Prop}
    {program : Program Op Answer Error Result} (invariant : Phase → Prop)
    (hallowed : ∀ op, allowed op → ∀ phase, invariant phase → monitor.allows op phase ∧
        ∀ answer after, monitor.advance op answer phase = some after → invariant after)
    (hpost : ∀ result phase, invariant phase → post result phase)
    (hperforms : program.Performs allowed) (hphase : invariant phase) :
    program.Obeys monitor post phase := by
  induction program generalizing phase with
  | done result => exact hpost result phase hphase
  | call op next ih =>
    have hop := hallowed op hperforms.1 phase hphase
    exact ⟨hop.1, fun answer after hadvance =>
      ih answer (hperforms.2 answer) (hop.2 answer after hadvance)⟩

end Program

namespace Pool

variable {exec : Choice → (op : Op) → State → Option (Answer op × State)}
variable {pool : Pool Op Answer State Request Error Result}
variable {monitor : Request → Monitor Op Answer Phase}
variable {post : Except Error Result → Phase → Prop}
variable {phases : ℕ → Phase} {id : ℕ} {request : Request} {phase : Phase}
variable {store : State} {program : Program Op Answer Error Result}

/-- Every call in progress obeys the monitor of its request from the phase it
is in. -/
def Watched (monitor : Request → Monitor Op Answer Phase)
    (post : Except Error Result → Phase → Prop)
    (pool : Pool Op Answer State Request Error Result) (phases : ℕ → Phase) : Prop :=
  ∀ id request program, pool.calls.get id = some (request, program) →
    program.Obeys (monitor request) post (phases id)

theorem Watched.settle (hpool : Watched monitor post pool phases)
    (hprogram : program.Obeys (monitor request) post phase) :
    Watched monitor post (pool.settle id request store program)
      (Function.update phases id phase) := by
  intro other active left hcall
  rcases settle_calls hcall with ⟨rfl, hactive⟩ | ⟨hother, hcall⟩
  · cases hactive
    simpa using hprogram
  · simpa [hother] using hpool other active left hcall

end Pool

end Wardnet
