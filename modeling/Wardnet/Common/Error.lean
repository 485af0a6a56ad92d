import Mathlib.Logic.Basic

/-!
# Request errors

The errors the services return, and the two checks their requests are made
of: a condition that must hold and a lookup that must succeed.
-/

namespace Wardnet

inductive AppError
  | badRequest (message : String)
  | conflict (message : String)
  | notFound (message : String)
  | unauthorized (message : String)
  | forbidden (message : String)
  | internal
  deriving DecidableEq

section Checks

variable {Error Value Result : Type*}

/-- Fail with the error unless the condition holds. -/
def ensure (condition : Prop) [Decidable condition] (error : Error) : Except Error Unit :=
  if condition then .ok () else .error error

/-- Fail with the error when there is no value. -/
def require (value : Option Value) (error : Error) : Except Error Value :=
  match value with
  | some value => .ok value
  | none => .error error

theorem ensure_eq_ok {condition : Prop} [Decidable condition]
    {error : Error} {value : Unit} : ensure condition error = .ok value ↔ condition := by
  unfold ensure
  split <;> simp_all

theorem require_eq_ok {value : Option Value} {error : Error}
    {result : Value} : require value error = .ok result ↔ value = some result := by
  cases value <;> simp [require]

theorem pure_eq_ok {Value : Type} {value result : Value} :
    (pure value : Except Error Value) = .ok result ↔ value = result := by
  simp [pure, Except.pure]

theorem bind_eq_ok {Value Result : Type} {computation : Except Error Value}
    {continuation : Value → Except Error Result} {result : Result} :
    (computation >>= continuation) = .ok result ↔ ∃ value, computation = .ok value ∧
        continuation value = .ok result := by
  cases computation <;> simp [bind, Except.bind]

theorem toOption_eq_some {computation : Except Error Value} {result : Value} :
    computation.toOption = some result ↔ computation = .ok result := by
  cases computation <;> simp [Except.toOption]

/-- A loop of checks succeeds when each of them does. -/
theorem forM_eq_ok {Error Value : Type} {values : List Value} {check : Value → Except Error Unit} :
    values.forM check = .ok () ↔ ∀ value ∈ values, check value = .ok () := by
  induction values with
  | nil => simp [List.forM, pure_eq_ok]
  | cons value values ih =>
    rw [List.forM, bind_eq_ok, List.forall_mem_cons, ← ih]
    exact ⟨fun ⟨_, hvalue, hvalues⟩ => ⟨hvalue, hvalues⟩,
      fun ⟨hvalue, hvalues⟩ => ⟨(), hvalue, hvalues⟩⟩

end Checks

end Wardnet
