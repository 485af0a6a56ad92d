import Wardnet.Core.HashMap
import Wardnet.Core.Program

/-!
# Calls in progress

A pool is a store together with the calls that work on it: each is a request
and what is left of its program.  A step takes the next operation of one of
them, so a run of steps is an interleaving of the calls.  The main rule is the
parallel one: if what the stepping call guarantees is what every other call
relies on, all of them keep their contracts.
-/

namespace Wardnet

open HashMap

variable {Op : Type} {Answer : Op → Type}
variable {Choice State Request Error Result : Type}

structure Pool (Op : Type) (Answer : Op → Type) (State Request Error Result : Type) where
  store : State
  calls : HashMap ℕ (Request × Program Op Answer Error Result)
  /-- What the calls that are over have returned, the latest first. -/
  returned : List (Request × Except Error Result)

namespace Pool

/-- A store without calls. -/
def idle (store : State) : Pool Op Answer State Request Error Result where
  store := store
  calls := .empty
  returned := []

/-- The requests of the calls in progress. -/
def requests (pool : Pool Op Answer State Request Error Result) : List Request :=
  pool.calls.toList.map fun call => call.2.1

/-- The call goes on with `program`, or is over when nothing is left of it. -/
def settle (pool : Pool Op Answer State Request Error Result) (id : ℕ)
    (request : Request) (store : State) :
    Program Op Answer Error Result → Pool Op Answer State Request Error Result
  | .done result =>
    { store := store
      calls := pool.calls.remove id
      returned := (request, result) :: pool.returned }
  | program =>
    { pool with
      store := store
      calls := pool.calls.insert id (request, program) }

/-- A call comes in under a number that is not in use. -/
def start (pool : Pool Op Answer State Request Error Result)
    (program : Request → Program Op Answer Error Result) (id : ℕ)
    (request : Request) : Option (Pool Op Answer State Request Error Result) :=
  if (pool.calls.get id).isNone then some (pool.settle id request pool.store (program request))
  else none

/-- A call takes its next operation. -/
def step (exec : Choice → (op : Op) → State → Option (Answer op × State))
    (pool : Pool Op Answer State Request Error Result) (id : ℕ)
    (choice : Choice) : Option (Pool Op Answer State Request Error Result) :=
  match pool.calls.get id with
  | some (request, .call op next) =>
    (exec choice op pool.store).map fun (answer, store) =>
      pool.settle id request store (next answer)
  | _ => none

/-- A call is cut off between two of its operations. -/
def abort (pool : Pool Op Answer State Request Error Result) (id : ℕ) :
    Pool Op Answer State Request Error Result :=
  { pool with calls := pool.calls.remove id }

variable {exec : Choice → (op : Op) → State → Option (Answer op × State)}
variable {pool after : Pool Op Answer State Request Error Result}
variable {id other : ℕ} {request : Request} {choice : Choice}
variable {store : State} {program : Program Op Answer Error Result}

@[simp]
theorem settle_store : (pool.settle id request store program).store = store := by
  cases program <;> rfl

theorem settle_calls_of_ne (hother : other ≠ id) :
    (pool.settle id request store program).calls.get other = pool.calls.get other := by
  cases program <;> simp [settle, hother]

variable {active : Request × Program Op Answer Error Result}

theorem settle_calls
    (hactive : (pool.settle id request store program).calls.get other = some active) :
    (other = id ∧ active = (request, program)) ∨
      (other ≠ id ∧ pool.calls.get other = some active) := by
  by_cases hother : other = id
  · subst hother
    cases program <;> simp [settle] at hactive
    exact .inl ⟨rfl, hactive.symm⟩
  · rw [settle_calls_of_ne hother] at hactive
    exact .inr ⟨hother, hactive⟩

theorem start_eq_some {body : Request → Program Op Answer Error Result} :
    pool.start body id request = some after ↔ pool.calls.get id = none ∧
        after = pool.settle id request pool.store (body request) := by
  cases hcall : pool.calls.get id with
  | none => simpa [start, hcall] using eq_comm
  | some active => simp [start, hcall]

theorem step_eq_some : pool.step exec id choice = some after ↔
      ∃ request op next answer store, pool.calls.get id = some (request, .call op next) ∧
          exec choice op pool.store = some (answer, store) ∧
            after = pool.settle id request store (next answer) := by
  constructor
  · intro hstep
    unfold step at hstep
    split at hstep
    next request op next hcall =>
      obtain ⟨⟨answer, store⟩, hexec, rfl⟩ := Option.map_eq_some_iff.mp hstep
      exact ⟨request, op, next, answer, store, hcall, hexec, rfl⟩
    · cases hstep
  · rintro ⟨request, op, next, answer, store, hcall, hexec, rfl⟩
    simp [step, hcall, hexec]

theorem mem_requests {request : Request} :
    request ∈ pool.requests ↔ ∃ id program, pool.calls.get id = some (request, program) := by
  simp only [requests, List.mem_map, Prod.exists]
  constructor
  · rintro ⟨id, found, program, hcall, rfl⟩
    exact ⟨id, program, mem_toList.mp hcall⟩
  · rintro ⟨id, program, hcall⟩
    exact ⟨id, request, program, mem_toList.mpr hcall, rfl⟩

/-! ## Requests that may run together -/

/-- Any two calls in progress are `compatible`. -/
def Compatible (compatible : Request → Request → Prop)
    (pool : Pool Op Answer State Request Error Result) : Prop :=
  ∀ id other request request' program program', id ≠ other →
    pool.calls.get id = some (request, program) →
      pool.calls.get other = some (request', program') → compatible request request'

variable {compatible : Request → Request → Prop}

section

variable (hpool : Compatible compatible pool)
include hpool

theorem Compatible.put (hothers : ∀ other active, other ≠ id → pool.calls.get other = some active →
      compatible request active.1 ∧ compatible active.1 request) :
    Compatible compatible (pool.settle id request store program) := by
  intro first second request₁ request₂ program₁ program₂ hne hfirst hsecond
  rcases settle_calls hfirst with ⟨rfl, ⟨⟩⟩ | ⟨-, hfirst'⟩
  · rw [settle_calls_of_ne hne.symm] at hsecond
    exact (hothers second _ hne.symm hsecond).1
  · rcases settle_calls hsecond with ⟨rfl, ⟨⟩⟩ | ⟨-, hsecond'⟩
    · exact (hothers first _ hne hfirst').2
    · exact hpool first second _ _ _ _ hne hfirst' hsecond'

theorem Compatible.settle {started : Program Op Answer Error Result}
    (hstarted : pool.calls.get id = some (request, started)) :
    Compatible compatible (pool.settle id request store program) :=
  hpool.put fun other _ hne hcall =>
    ⟨hpool id other _ _ _ _ hne.symm hstarted hcall, hpool other id _ _ _ _ hne hcall hstarted⟩

theorem Compatible.start (hnew : ∀ active ∈ pool.requests,
      compatible request active ∧ compatible active request) :
    Compatible compatible (pool.settle id request store program) :=
  hpool.put fun other _ _ hcall => hnew _ (mem_requests.mpr ⟨other, _, hcall⟩)

theorem Compatible.abort : Compatible compatible (pool.abort id) := by
  intro first second request₁ request₂ program₁ program₂ hne hfirst hsecond
  obtain ⟨-, hfirst⟩ := get_remove_eq_some.mp hfirst
  obtain ⟨-, hsecond⟩ := get_remove_eq_some.mp hsecond
  exact hpool first second _ _ _ _ hne hfirst hsecond

end

/-! ## What the programs consist of -/

/-- Every call in progress performs only what its request allows. -/
def Performing (allowed : Request → Op → Prop)
    (pool : Pool Op Answer State Request Error Result) : Prop :=
  ∀ id request program, pool.calls.get id = some (request, program) →
    program.Performs (allowed request)

variable {allowed : Request → Op → Prop}

theorem Performing.idle (store : State) :
    Performing allowed (Pool.idle store : Pool Op Answer State Request Error Result) := by
  intro id request program hcall
  simp [Pool.idle] at hcall

theorem Performing.settle (hpool : Performing allowed pool)
    (hprogram : program.Performs (allowed request)) :
    Performing allowed (pool.settle id request store program) := by
  intro other active left hcall
  rcases settle_calls hcall with ⟨rfl, ⟨⟩⟩ | ⟨-, hcall⟩
  · exact hprogram
  · exact hpool other active left hcall

theorem Performing.abort (hpool : Performing allowed pool) :
    Performing allowed (pool.abort id) := by
  intro other request program hcall
  exact hpool other request program (get_remove_eq_some.mp hcall).2

/-! ## The parallel rule -/

variable {contract : Request → Contract Choice Op State Error Result}

/-- Every call in progress keeps the contract of its request. -/
def Sound (exec : Choice → (op : Op) → State → Option (Answer op × State))
    (contract : Request → Contract Choice Op State Error Result)
    (pool : Pool Op Answer State Request Error Result) : Prop :=
  ∀ id request program, pool.calls.get id = some (request, program) →
    (∃ op next, program = .call op next) ∧ program.Fulfils exec (contract request) pool.store

theorem Sound.idle (store : State) :
    Sound exec contract (Pool.idle store : Pool Op Answer State Request Error Result) := by
  intro id request program hcall
  simp [Pool.idle] at hcall

section

variable (htrans : ∀ request first second third, (contract request).rely first second →
    (contract request).rely second third → (contract request).rely first third)
  (hpool : Sound exec contract pool)
include htrans hpool

/-- The others may change the store as every call in progress relies on. -/
theorem Sound.disturb (hrely : ∀ id request program, pool.calls.get id = some (request, program) →
        (contract request).rely pool.store store) :
    Sound exec contract { pool with store := store } := by
  intro id request program hcall
  obtain ⟨⟨op, next, rfl⟩, hfulfils⟩ := hpool id request program hcall
  exact ⟨⟨op, next, rfl⟩, hfulfils.of_rely (htrans request) (hrely id request _ hcall)⟩

theorem Sound.settle (hfulfils : program.Fulfils exec (contract request) store)
    (hrely : ∀ other active, other ≠ id → pool.calls.get other = some active →
        (contract active.1).rely pool.store store) :
    Sound exec contract (pool.settle id request store program) := by
  intro other active left hcall
  rw [settle_store]
  rcases settle_calls hcall with ⟨rfl, ⟨⟩⟩ | ⟨hother, hcall⟩
  · cases program with
    | done result => simp [Pool.settle] at hcall
    | call op next => exact ⟨⟨op, next, rfl⟩, hfulfils⟩
  · obtain ⟨⟨op, next, rfl⟩, hleft⟩ := hpool other active left hcall
    exact ⟨⟨op, next, rfl⟩, hleft.of_rely (htrans active) (hrely other _ hother hcall)⟩

end

theorem Sound.abort (hpool : Sound exec contract pool) : Sound exec contract (pool.abort id) := by
  intro other request program hcall
  exact hpool other request program (get_remove_eq_some.mp hcall).2

/-- What a step of a sound pool does: the stepping call keeps its guarantee and
goes on fulfilling its contract. -/
theorem Sound.step_cases (hpool : Sound exec contract pool)
    (hrefl : ∀ request state, (contract request).rely state state)
    (hadmits : ∀ request op next, pool.calls.get id = some (request, .call op next) →
        (contract request).admits choice op pool.store)
    (hstep : pool.step exec id choice = some after) :
    ∃ request op next answer store, pool.calls.get id = some (request, .call op next) ∧
        exec choice op pool.store = some (answer, store) ∧
          (contract request).guarantee pool.store store ∧
            (next answer).Fulfils exec (contract request) store ∧
              after = pool.settle id request store (next answer) := by
  obtain ⟨request, op, next, answer, store, hcall, hexec, rfl⟩ := step_eq_some.mp hstep
  obtain ⟨-, hfulfils⟩ := hpool id request _ hcall
  obtain ⟨hguarantee, hnext⟩ :=
    hfulfils pool.store (hrefl request pool.store) choice
      (hadmits request op next hcall) answer store hexec
  exact ⟨request, op, next, answer, store, hcall, hexec, hguarantee, hnext, rfl⟩

end Pool

end Wardnet
