import Wardnet.Core.Program

/-!
# Programs that run alone

A program whose operations nobody interrupts.  A run is given by the choices of
its operations, one after another; `Ensures` is the weakest condition on the
state under which every admitted run ends as it should.  It is the contract of
a program that relies on nobody else, so its rules are those of contracts with
the interference left out.
-/

namespace Wardnet.Program

variable {Op : Type} {Answer : Op → Type}
variable {Choice State Error Failure Result Value : Type}
variable (exec : Choice → (op : Op) → State → Option (Answer op × State))

/-- The result of a run and the state it leaves; a run has as many choices as
operations. -/
def eval : Program Op Answer Error Result → State → List Choice →
    Option (Except Error Result × State)
  | done result, state, [] => some (result, state)
  | call op next, state, choice :: choices =>
    (exec choice op state).bind fun (answer, after) => (next answer).eval after choices
  | _, _, _ => none

/-- Every operation of the run meets the condition. -/
def Along (cond : Choice → Op → State → Prop) :
    Program Op Answer Error Result → State → List Choice → Prop
  | call op next, state, choice :: choices =>
    cond choice op state ∧ ∀ answer after,
      exec choice op state = some (answer, after) → (next answer).Along cond after choices
  | _, _, _ => True

/-- Every run whose operations are admitted ends in `post`. -/
def Ensures (admits : Choice → Op → State → Prop)
    (program : Program Op Answer Error Result) (state : State)
    (post : Except Error Result → State → Prop) : Prop :=
  program.Fulfils exec ⟨fun before after => after = before, fun _ _ => True, admits, post⟩ state

/-- The run in which each operation has the outcome that `perform` gives it. -/
def alone (perform : (op : Op) → State → Answer op × State) :
    Program Op Answer Error Result → State → Except Error Result × State
  | done result, state => (result, state)
  | call op next, state => (next (perform op state).1).alone perform (perform op state).2

@[simp]
theorem alone_ofExcept (perform : (op : Op) → State → Answer op × State)
    (result : Except Error Result) (state : State) :
    (ofExcept result).alone perform state = (result, state) := rfl

@[simp]
theorem alone_pure (perform : (op : Op) → State → Answer op × State) (result : Result)
    (state : State) :
    (pure result : Program Op Answer Error Result).alone perform state = (.ok result, state) := rfl

@[simp]
theorem alone_perform (perform : (op : Op) → State → Answer op × State) (op : Op)
    (state : State) :
    (Program.perform op : Program Op Answer Error (Answer op)).alone perform state =
      (.ok (perform op state).1, (perform op state).2) := rfl

@[simp]
theorem alone_bind (perform : (op : Op) → State → Answer op × State)
    (program : Program Op Answer Error Value) (next : Value → Program Op Answer Error Result)
    (state : State) :
    (program >>= next).alone perform state =
      match program.alone perform state with
      | (.ok value, after) => (next value).alone perform after
      | (.error error, after) => (.error error, after) := by
  induction program generalizing state with
  | done result => cases result <;> rfl
  | call op answered ih => exact ih (perform op state).1 (perform op state).2

variable {exec} {admits : Choice → Op → State → Prop}
variable {state : State} {post : Except Error Result → State → Prop}

theorem eval_alone {choice : Choice} {perform : (op : Op) → State → Answer op × State}
    (hexec : ∀ op state, exec choice op state = some (perform op state))
    (program : Program Op Answer Error Result) (state : State) :
    ∃ length, program.eval exec state (List.replicate length choice) =
      some (program.alone perform state) := by
  induction program generalizing state with
  | done result => exact ⟨0, rfl⟩
  | call op next ih =>
    obtain ⟨length, hrest⟩ := ih (perform op state).1 (perform op state).2
    refine ⟨length + 1, ?_⟩
    simp only [List.replicate_succ, eval, hexec, Option.bind_some]
    exact hrest

/-- A contract is kept by the run that nobody disturbs. -/
theorem Fulfils.alone {choice : Choice} {perform : (op : Op) → State → Answer op × State}
    {contract : Contract Choice Op State Error Result} (hrely : ∀ state, contract.rely state state)
    (hadmits : ∀ op state, contract.admits choice op state)
    (hexec : ∀ op state, exec choice op state = some (perform op state))
    {program : Program Op Answer Error Result} (hprogram : program.Fulfils exec contract state) :
    contract.post (program.alone perform state).1 (program.alone perform state).2 := by
  induction program generalizing state with
  | done result => exact hprogram
  | call op next ih =>
    exact ih _ (hprogram state (hrely state) choice (hadmits op state) _ _ (hexec op state)).2

theorem ensures_call {op : Op} {next : Answer op → Program Op Answer Error Result}
    (hnext : ∀ choice, admits choice op state → ∀ answer after,
      exec choice op state = some (answer, after) → (next answer).Ensures exec admits after post) :
    (call op next).Ensures exec admits state post := by
  rintro before rfl choice hadmits answer after hexec
  exact ⟨trivial, hnext choice hadmits answer after hexec⟩

variable {program : Program Op Answer Error Result}

theorem Ensures.mono {weaker : Except Error Result → State → Prop}
    (hprogram : program.Ensures exec admits state post)
    (hpost : ∀ result after, post result after → weaker result after) :
    program.Ensures exec admits state weaker :=
  Fulfils.mono hprogram hpost

section Sequencing

variable {next : Value → Program Op Answer Error Result} {program : Program Op Answer Error Value}
  {middle : Except Error Value → State → Prop}

theorem Ensures.bind (hprogram : program.Ensures exec admits state middle)
    (hok : ∀ value after, middle (.ok value) after → (next value).Ensures exec admits after post)
    (herror : ∀ error after, middle (.error error) after → post (.error error) after) :
    (program >>= next).Ensures exec admits state post :=
  Fulfils.bind middle hprogram hok herror

/-- Sequencing where only a success has to say something. -/
theorem Ensures.chain {wanted : Result} {reached : State → Prop}
    (hprogram : program.Ensures exec admits state middle)
    (hok : ∀ value after, middle (.ok value) after → (next value).Ensures exec admits after
      fun result final => result = .ok wanted → reached final) :
    (program >>= next).Ensures exec admits state fun result final =>
      result = .ok wanted → reached final :=
  hprogram.bind hok fun _ _ _ hresult => absurd hresult error_ne_ok

/-- Sequencing after a program whose result is known. -/
theorem Ensures.seq {value : Value}
    {middle : State → Prop} (hprogram : program.Ensures exec admits state fun result after =>
      result = .ok value ∧ middle after) (hnext : ∀ after, middle after →
      (next value).Ensures exec admits after post) :
    (program >>= next).Ensures exec admits state post := by
  apply hprogram.bind
  · rintro found after ⟨hfound, hmiddle⟩
    cases hfound
    exact hnext after hmiddle
  · rintro error after ⟨hfound, -⟩
    cases hfound

variable (exec admits) in
/-- The program returns the value and leaves the state `after`. -/
def Leads (program : Program Op Answer Error Result) (state : State) (value : Result)
    (after : State) : Prop :=
  program.Ensures exec admits state fun result final => result = .ok value ∧ final = after

theorem Leads.seq {value : Value} {after : State}
    (hprogram : program.Leads exec admits state value after)
    (hnext : (next value).Ensures exec admits after post) :
    (program >>= next).Ensures exec admits state post :=
  Ensures.seq hprogram fun _ hafter => hafter ▸ hnext

/-- Sequencing after a program that may fail. -/
theorem Ensures.attempt {program : Program Op Answer Failure Value}
    {next : Except Failure Value → Program Op Answer Error Result}
    {middle : Except Failure Value → State → Prop}
    (hprogram : program.Ensures exec admits state middle)
    (hnext : ∀ found after, middle found after → (next found).Ensures exec admits after post) :
    (program.attempt >>= next).Ensures exec admits state post := by
  induction program generalizing state with
  | done found => exact hnext found state hprogram
  | call op answered ih =>
    apply ensures_call
    intro choice hadmits answer after hexec
    exact ih answer (hprogram state rfl choice hadmits answer after hexec).2

end Sequencing

/-- A property that every operation of the program keeps. -/
theorem Ensures.of_performs {allowed : Op → Prop} (invariant : State → Prop)
    (hallowed : ∀ op, allowed op → ∀ choice before answer after,
      admits choice op before → invariant before →
        exec choice op before = some (answer, after) → invariant after)
    (hprogram : program.Performs allowed) (hstate : invariant state) :
    program.Ensures exec admits state fun _ => invariant := by
  induction program generalizing state with
  | done result => exact hstate
  | call op next ih =>
    apply ensures_call
    intro choice hadmits answer after hexec
    exact ih answer (hprogram.2 answer)
      (hallowed op hprogram.1 choice state answer after hadmits hstate hexec)

theorem ensures_any (program : Program Op Answer Error Result) :
    program.Ensures exec admits state fun _ _ => True :=
  .of_performs (fun _ => True) (fun _ _ _ _ _ _ _ _ _ => trivial) (performs_any program) trivial

variable {choices : List Choice}

/-- A run of two programs one after the other is a run of the first one and,
unless that fails, a run of the second one. -/
theorem eval_bind {program : Program Op Answer Error Value}
    {next : Value → Program Op Answer Error Result} {result : Except Error Result} {final : State}
    (heval : (program >>= next).eval exec state choices = some (result, final)) :
    ∃ first rest, choices = first ++ rest ∧
      ((∃ value middle, program.eval exec state first = some (.ok value, middle) ∧
        (next value).eval exec middle rest = some (result, final)) ∨
        ∃ error, program.eval exec state first = some (.error error, final) ∧
          result = .error error ∧ rest = []) := by
  induction program generalizing state choices with
  | done found =>
    cases found with
    | ok value => exact ⟨[], choices, rfl, .inl ⟨value, state, rfl, heval⟩⟩
    | error error =>
      cases choices with
      | nil =>
        cases heval
        exact ⟨[], [], rfl, .inr ⟨error, rfl, rfl, rfl⟩⟩
      | cons choice choices => cases heval
  | call op answered ih =>
    cases choices with
    | nil => cases heval
    | cons choice choices =>
      obtain ⟨⟨answer, after⟩, hexec, hrest⟩ := Option.bind_eq_some_iff.mp heval
      obtain ⟨first, rest, rfl, hruns⟩ := ih answer hrest
      refine ⟨choice :: first, rest, rfl, ?_⟩
      simpa only [eval, hexec, Option.bind_some] using hruns

/-- What a program ensures holds after each of its runs. -/
theorem Ensures.eval {result : Except Error Result} {final : State}
    (hprogram : program.Ensures exec admits state post)
    (halong : program.Along exec admits state choices)
    (heval : program.eval exec state choices = some (result, final)) : post result final := by
  induction program generalizing state choices with
  | done found =>
    cases choices with
    | nil =>
      cases heval
      exact hprogram
    | cons choice choices => cases heval
  | call op next ih =>
    cases choices with
    | nil => cases heval
    | cons choice choices =>
      obtain ⟨⟨answer, after⟩, hexec, hrest⟩ := Option.bind_eq_some_iff.mp heval
      exact ih answer (hprogram state rfl choice halong.1 answer after hexec).2
        (halong.2 answer after hexec) hrest

variable {cond : Choice → Op → State → Prop}

/-- A condition met by every choice is met along every run. -/
theorem along_of_forall (hcond : ∀ choice ∈ choices, ∀ op state, cond choice op state) :
    program.Along exec cond state choices := by
  induction program generalizing state choices with
  | done result => trivial
  | call op next ih =>
    cases choices with
    | nil => trivial
    | cons choice choices =>
      exact ⟨hcond choice (by simp) op state, fun answer after _ =>
        ih answer fun later hlater => hcond later (by simp [hlater])⟩

end Wardnet.Program
