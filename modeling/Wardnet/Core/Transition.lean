import Mathlib.Logic.Function.Basic
import Mathlib.Data.List.Basic

/-!
# Runs of labelled transition functions

A component is given by a partial function `next` from a state and a labelled
step to the state after it; `none` means that the step is not enabled.  A run
is a finite list of labels.  The rules below turn a fact about one step into a
fact about every state a run reaches, with or without a condition that each
step of the run has to meet in the state before it.
-/

namespace Wardnet.Transition

variable {State Label : Type*} {next : State → Label → Option State} {cond : State → Label → Prop}

/-- The state reached by taking the steps in order, or `none` as soon as one
of them is not enabled. -/
def run (next : State → Label → Option State) : State → List Label → Option State
  | state, [] => some state
  | state, label :: labels => (next state label).bind fun after => run next after labels

/-- Every step of the run meets `cond` in the state it is taken from. -/
def Meets (next : State → Label → Option State)
    (cond : State → Label → Prop) : State → List Label → Prop
  | _, [] => True
  | state, label :: labels =>
    cond state label ∧ ∀ after ∈ next state label, Meets next cond after labels

def decidableMeets (next : State → Label → Option State) (cond : State → Label → Prop)
    [hcond : ∀ state label, Decidable (cond state label)] :
    ∀ (state : State) (labels : List Label), Decidable (Meets next cond state labels)
  | _, [] => .isTrue trivial
  | state, label :: labels =>
    have := fun after => decidableMeets next cond after labels
    inferInstanceAs (Decidable (cond state label ∧
      ∀ after ∈ next state label, Meets next cond after labels))

instance [∀ state label, Decidable (cond state label)] (state : State)
    (labels : List Label) : Decidable (Meets next cond state labels) :=
  decidableMeets next cond state labels

@[simp]
theorem run_nil (state : State) : run next state [] = some state := rfl

theorem run_cons (state : State) (label : Label) (labels : List Label) :
    run next state (label :: labels) =
      (next state label).bind fun after => run next after labels := rfl

variable {invariant : State → Prop} {labels : List Label}

theorem run_cons_eq_some {state final : State} {label : Label} :
    run next state (label :: labels) = some final ↔ ∃ after, next state label = some after ∧
        run next after labels = some final := by
  simp only [run_cons, Option.bind_eq_some_iff]

theorem run_append {state : State} {first second : List Label} : run next state (first ++ second) =
      (run next state first).bind fun middle => run next middle second := by
  induction first generalizing state with
  | nil => rfl
  | cons label first ih =>
    simp only [List.cons_append, run_cons, Option.bind_assoc]
    congr 1
    funext after
    exact ih

variable {start : State}

theorem meets_append {first second : List Label} : Meets next cond start (first ++ second) ↔
    Meets next cond start first ∧
      ∀ middle, run next start first = some middle → Meets next cond middle second := by
  induction first generalizing start with
  | nil => simp [Meets]
  | cons label first ih =>
    simp only [List.cons_append, Meets, ih, run_cons_eq_some, and_assoc]
    refine and_congr_right fun _ => ⟨fun hrest => ⟨fun after hnext => (hrest after hnext).1, ?_⟩,
      fun hrest after hnext => ⟨hrest.1 after hnext, fun middle hrun => ?_⟩⟩
    · rintro middle ⟨after, hnext, hrun⟩
      exact (hrest after hnext).2 middle hrun
    · exact hrest.2 middle ⟨after, hnext, hrun⟩

/-- An invariant kept by every step that meets the condition holds in every
state reached by a run whose steps all meet it. -/
theorem run_invariant_of_meets (hstep : ∀ state label after, invariant state → cond state label →
      next state label = some after → invariant after) {final : State} (hstart : invariant start)
    (hmeets : Meets next cond start labels)
    (hrun : run next start labels = some final) : invariant final := by
  induction labels generalizing start with
  | nil =>
    simp only [run_nil, Option.some.injEq] at hrun
    exact hrun ▸ hstart
  | cons label labels ih =>
    obtain ⟨after, hnext, hrest⟩ := run_cons_eq_some.mp hrun
    exact ih (hstep start label after hstart hmeets.1 hnext) (hmeets.2 after hnext) hrest

/-- A condition on labels alone is met by a run of labels that satisfy it. -/
theorem meets_of_forall {cond : Label → Prop}
    (hcond : ∀ label ∈ labels, cond label) (start : State) :
    Meets next (fun _ label => cond label) start labels := by
  induction labels generalizing start with
  | nil => trivial
  | cons label labels ih =>
    refine ⟨hcond label (List.mem_cons_self ..), fun after _ => ?_⟩
    exact ih (fun other hother => hcond other (List.mem_cons_of_mem _ hother)) after

variable {other : State → Label → Prop}

/-- With an invariant that the steps meeting one condition keep, a condition
that holds wherever the first one does is met by the same runs. -/
theorem meets_of_invariant (hother : ∀ state label, invariant state → cond state label →
      other state label) (hstep : ∀ state label after, invariant state → cond state label →
      next state label = some after → invariant after) (hstart : invariant start)
    (hmeets : Meets next cond start labels) : Meets next other start labels := by
  induction labels generalizing start with
  | nil => trivial
  | cons label labels ih =>
    refine ⟨hother start label hstart hmeets.1, fun after hnext => ?_⟩
    exact ih (hstep start label after hstart hmeets.1 hnext) (hmeets.2 after hnext)

/-- An invariant kept by every step holds in every state a run reaches. -/
theorem run_invariant (hstep : ∀ state label after, invariant state →
      next state label = some after → invariant after) {final : State} (hstart : invariant start)
    (hrun : run next start labels = some final) : invariant final := by
  have hmeets : Meets next (fun _ _ => True) start labels :=
    meets_of_forall (fun _ _ => trivial) start
  exact run_invariant_of_meets
    (fun state label after hinv _ hnext => hstep state label after hinv hnext)
    hstart hmeets hrun

theorem meets_and :
    Meets next (fun state label => cond state label ∧ other state label) start labels ↔
      Meets next cond start labels ∧ Meets next other start labels := by
  induction labels generalizing start with
  | nil => simp [Meets]
  | cons label labels ih =>
    simp only [Meets, ih]
    constructor
    · rintro ⟨⟨hcond, hother⟩, hrest⟩
      exact ⟨⟨hcond, fun after hnext => (hrest after hnext).1⟩,
        hother, fun after hnext => (hrest after hnext).2⟩
    · rintro ⟨⟨hcond, hcondRest⟩, hother, hotherRest⟩
      exact ⟨⟨hcond, hother⟩, fun after hnext => ⟨hcondRest after hnext, hotherRest after hnext⟩⟩

/-- Two conditions that agree wherever an invariant holds are met by the same
runs, if steps that meet the first keep the invariant. -/
theorem meets_iff_of_invariant
    (hiff : ∀ state label, invariant state → (cond state label ↔ other state label))
    (hstep : ∀ state label after, invariant state → cond state label →
      next state label = some after → invariant after)
    (hstart : invariant start) (labels : List Label) :
    Meets next cond start labels ↔ Meets next other start labels := by
  constructor
  · exact meets_of_invariant (fun _ _ hinv => (hiff _ _ hinv).mp) hstep hstart
  · exact meets_of_invariant (fun _ _ hinv => (hiff _ _ hinv).mpr)
      (fun _ _ _ hinv hother => hstep _ _ _ hinv ((hiff _ _ hinv).mpr hother)) hstart

end Wardnet.Transition
