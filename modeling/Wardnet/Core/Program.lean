import Mathlib.Order.Basic

/-!
# Programs of atomic operations

A program is a tree: a result, or one atomic operation together with what
follows each of its answers.  The state the operations act on belongs to an
executor that also takes a `choice`, so that an operation may have several
outcomes, failures among them.  Between two operations of a program others may
change the state.

A contract says what a program relies on the others for, what each of its own
operations guarantees, which outcomes of an operation in which states it
covers, and what holds of its result.  `Fulfils` is the weakest condition on the state under
which a program keeps its contract; it is defined along the tree, so the rules
below follow the shape of the program.
-/

namespace Wardnet

/-- A computation of a `Result` or an `Error` out of atomic operations, each
of which is answered before the computation goes on. -/
inductive Program (Op : Type) (Answer : Op → Type) (Error Result : Type)
  | done (result : Except Error Result)
  | call (op : Op) (next : Answer op → Program Op Answer Error Result)

/-- An error is no result. -/
theorem error_ne_ok {Error Value : Type} {error : Error} {value : Value} :
    (Except.error error : Except Error Value) ≠ .ok value := by
  intro heq
  cases heq

namespace Program

variable {Op : Type} {Answer : Op → Type}
variable {Error Failure Result Value : Type}

def bind : Program Op Answer Error Value → (Value → Program Op Answer Error Result) →
      Program Op Answer Error Result
  | done (.ok value), next => next value
  | done (.error error), _ => done (.error error)
  | call op answered, next => call op fun answer => (answered answer).bind next

instance : Monad (Program Op Answer Error) where
  pure value := done (.ok value)
  bind := bind

theorem bind_bind {Middle : Type} (program : Program Op Answer Error Middle)
    (first : Middle → Program Op Answer Error Value)
    (second : Value → Program Op Answer Error Result) :
    (program.bind first).bind second = program.bind fun middle => (first middle).bind second := by
  induction program with
  | done result => cases result <;> rfl
  | call op answered ih =>
    simp only [bind]
    congr 1
    funext answer
    exact ih answer

theorem bind_done (program : Program Op Answer Error Result) :
    (program.bind fun result => done (.ok result)) = program := by
  induction program with
  | done result => cases result <;> rfl
  | call op answered ih =>
    simp only [bind]
    congr 1
    funext answer
    exact ih answer

instance : LawfulMonad (Program Op Answer Error) :=
  LawfulMonad.mk' (Program Op Answer Error) bind_done (fun _ _ => rfl) bind_bind

/-- Stop with an error. -/
def fail (error : Error) : Program Op Answer Error Result := done (.error error)

/-- One operation, whose answer is the result. -/
def perform (op : Op) : Program Op Answer Error (Answer op) :=
  call op fun answer => done (.ok answer)

/-- Go on with the result or stop with the error. -/
def ofExcept (result : Except Error Result) : Program Op Answer Error Result := done result

/-- Run a program and hand its result on, whether or not it failed. -/
def attempt : Program Op Answer Failure Result → Program Op Answer Error (Except Failure Result)
  | done result => done (.ok result)
  | call op next => call op fun answer => (next answer).attempt

/-- Every operation of the program, whatever the answers, is `allowed`. -/
def Performs (allowed : Op → Prop) : Program Op Answer Error Result → Prop
  | done _ => True
  | call op next => allowed op ∧ ∀ answer, (next answer).Performs allowed

theorem Performs.bind {allowed : Op → Prop} {program : Program Op Answer Error Value}
    {next : Value → Program Op Answer Error Result} (hprogram : program.Performs allowed)
    (hnext : ∀ value, (next value).Performs allowed) : (program.bind next).Performs allowed := by
  induction program with
  | done result =>
    cases result with
    | ok value => exact hnext value
    | error error => trivial
  | call op answered ih => exact ⟨hprogram.1, fun answer => ih answer (hprogram.2 answer)⟩

theorem Performs.mono {allowed wider : Op → Prop} {program : Program Op Answer Error Result}
    (hprogram : program.Performs allowed) (hwider : ∀ op, allowed op → wider op) :
    program.Performs wider := by
  induction program with
  | done result => trivial
  | call op next ih => exact ⟨hwider op hprogram.1, fun answer => ih answer (hprogram.2 answer)⟩

theorem performs_any (program : Program Op Answer Error Result) :
    program.Performs fun _ => True := by
  induction program with
  | done result => trivial
  | call op next ih => exact ⟨trivial, ih⟩

theorem Performs.attempt {allowed : Op → Prop}
    {program : Program Op Answer Failure Result} (hprogram : program.Performs allowed) :
    (program.attempt : Program Op Answer Error _).Performs allowed := by
  induction program with
  | done result => trivial
  | call op next ih => exact ⟨hprogram.1, fun answer => ih answer (hprogram.2 answer)⟩

end Program

variable {Op : Type} {Answer : Op → Type}
variable {Choice State Error Failure Result Value : Type}

/-- What a program relies on and what it promises. -/
structure Contract (Choice Op State Error Result : Type) where
  /-- What the others may do between two operations. -/
  rely : State → State → Prop
  /-- What an operation of the program does. -/
  guarantee : State → State → Prop
  /-- The outcomes an operation may have, and the states it may be taken in. -/
  admits : Choice → Op → State → Prop
  /-- What holds when the program returns. -/
  post : Except Error Result → State → Prop

namespace Program

variable (exec : Choice → (op : Op) → State → Option (Answer op × State))

/-- The program, about to go on in `state`, keeps its contract. -/
def Fulfils (contract : Contract Choice Op State Error Result) :
    Program Op Answer Error Result → State → Prop
  | done result, state => contract.post result state
  | call op next, state =>
    ∀ before, contract.rely state before → ∀ choice, contract.admits choice op before →
        ∀ answer after, exec choice op before = some (answer, after) →
          contract.guarantee before after ∧ Fulfils contract (next answer) after

variable {exec} {contract : Contract Choice Op State Error Result}

variable {state : State} {program : Program Op Answer Error Result}

/-- A program whose operations each keep the guarantee and an invariant, which
the others keep as well, returns with the invariant. -/
theorem Fulfils.of_performs {allowed : Op → Prop} (invariant : State → Prop)
    (hrely : ∀ state before, invariant state → contract.rely state before → invariant before)
    (hallowed : ∀ op, allowed op → ∀ choice before answer after,
      invariant before → exec choice op before = some (answer, after) →
        contract.guarantee before after ∧ invariant after)
    (hpost : ∀ result state, invariant state → contract.post result state)
    (hperforms : program.Performs allowed) (hstate : invariant state) :
    Fulfils exec contract program state := by
  induction program generalizing state with
  | done result => exact hpost result state hstate
  | call op next ih =>
    intro before hbefore choice _ answer after hexec
    obtain ⟨hguarantee, hafter⟩ := hallowed op hperforms.1 choice before
      answer after (hrely state before hstate hbefore) hexec
    exact ⟨hguarantee, ih answer (hperforms.2 answer) hafter⟩

/-- A program that has not returned may be interrupted by the others. -/
theorem Fulfils.of_rely {op : Op} {next : Answer op → Program Op Answer Error Result}
    {state' : State} (htrans : ∀ first second third, contract.rely first second →
      contract.rely second third → contract.rely first third)
    (hfulfils : Fulfils exec contract (call op next) state) (hrely : contract.rely state state') :
    Fulfils exec contract (call op next) state' := by
  intro before hbefore
  exact hfulfils before (htrans state state' before hrely hbefore)

/-- A program keeps a contract with a weaker promise about its result. -/
theorem Fulfils.mono {post : Except Error Result → State → Prop}
    (hfulfils : Fulfils exec contract program state)
    (hpost : ∀ result state, contract.post result state → post result state) :
    Fulfils exec { contract with post := post } program state := by
  induction program generalizing state with
  | done result => exact hpost result state hfulfils
  | call op next ih =>
    intro before hrely choice hadmits answer after hexec
    obtain ⟨hguarantee, hnext⟩ := hfulfils before hrely choice hadmits answer after hexec
    exact ⟨hguarantee, ih answer hnext⟩

/-- Sequencing: the first part promises what the second one starts from. -/
theorem Fulfils.bind {program : Program Op Answer Error Value}
    {next : Value → Program Op Answer Error Result}
    (post : Except Error Value → State → Prop) (hfulfils : Fulfils exec
      ⟨contract.rely, contract.guarantee, contract.admits, post⟩ program state)
    (hok : ∀ value state, post (.ok value) state → Fulfils exec contract (next value) state)
    (herror : ∀ error state, post (.error error) state → contract.post (.error error) state) :
    Fulfils exec contract (program >>= next) state := by
  induction program generalizing state with
  | done result =>
    cases result with
    | ok value => exact hok value state hfulfils
    | error error => exact herror error state hfulfils
  | call op answered ih =>
    intro before hrely choice hadmits answer after hexec
    obtain ⟨hguarantee, hnext⟩ := hfulfils before hrely choice hadmits answer after hexec
    exact ⟨hguarantee, ih answer hnext⟩

/-- What holds of the result of a program holds of the result handed on. -/
theorem Fulfils.attempt {program : Program Op Answer Failure Value}
    {contract : Contract Choice Op State Error (Except Failure Value)}
    (hfulfils : Fulfils exec ⟨contract.rely, contract.guarantee, contract.admits,
        fun result => contract.post (.ok result)⟩ program state) :
    Fulfils exec contract program.attempt state := by
  induction program generalizing state with
  | done result => exact hfulfils
  | call op next ih =>
    intro before hrely choice hadmits answer after hexec
    obtain ⟨hguarantee, hnext⟩ := hfulfils before hrely choice hadmits answer after hexec
    exact ⟨hguarantee, ih answer hnext⟩

end Program

end Wardnet
