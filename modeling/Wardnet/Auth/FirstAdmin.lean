import Wardnet.Auth.Setup

/-!
# At most one first admin

When the calls of `setup_admin` read and insert one after another, one call at
a time is past its check.  Its row is then the only user, and stays the only
one once the call has succeeded.
-/

namespace Wardnet.Setup

open HashMap Pool Transition
open User (Tables UserRow Hashing plainHashing)

variable {hashing : Hashing} {daemon after : Daemon} {request : Request} {call : ℕ}
variable {store : Box}

/-- The users while a call is at a stage behind its check. -/
def Stage.users (request : Request) : Stage → List UserRow
  | .checking | .creating _ => []
  | .enrolling _ | .undoing | .reading | .saving => [request.row]

/-- The successful calls. -/
def successes (daemon : Daemon) : ℕ := daemon.returned.countP fun entry => entry.2 = .ok ()

/-- Nobody is past the check, or one call is and no other has succeeded. -/
inductive Owned (hashing : Hashing) (daemon : Daemon) : Prop
  | free (hcalls : ∀ id request program, daemon.calls.get id = some (request, program) →
        program = setupAdmin hashing request)
      (husers : daemon.store.tables.users.rows.length ≤ 1)
      (hkept : ∀ request, (request, .ok ()) ∈ daemon.returned →
        daemon.store.tables.users.rows = [request.row])
      (honce : successes daemon ≤ 1)
  | held (call : ℕ) (holder : Request) (stage : Stage)
      (hcall : daemon.calls.get call = some (holder, stage.rest hashing holder))
      (hbusy : stage ≠ .checking)
      (hcalls : ∀ id request program, id ≠ call →
        daemon.calls.get id = some (request, program) → program = setupAdmin hashing request)
      (husers : daemon.store.tables.users.rows = stage.users holder)
      (hnone : successes daemon = 0)

/-! ## What is left of a call -/

theorem settle_goesOn (stage : Stage) :
    daemon.settle call request store ((Outcome.goesOn stage).rest hashing request) =
      { store := store
        calls := daemon.calls.insert call (request, stage.rest hashing request)
        returned := daemon.returned } := by
  cases stage <;> rfl

variable {stage : Stage}

theorem notMem_of_successes_eq_zero (hnone : successes daemon = 0) :
    (request, .ok ()) ∉ daemon.returned := by
  intro hmem
  have hall := List.countP_eq_zero.mp hnone _ hmem
  simp at hall

/-! ## One call moves -/

/-- Beside one call every other is at its check. -/
def OthersCheck (hashing : Hashing) (daemon : Daemon) (call : ℕ) : Prop :=
  ∀ id request program, id ≠ call → daemon.calls.get id = some (request, program) →
    program = setupAdmin hashing request

section

variable (hothers : OthersCheck hashing daemon call)
include hothers

theorem OthersCheck.remove (id : ℕ) (request : Request) (program : Action Unit)
    (hactive : (daemon.calls.remove call).get id = some (request, program)) :
    program = setupAdmin hashing request := by
  obtain ⟨hne, hactive⟩ := get_remove_eq_some.mp hactive
  exact hothers id request program hne hactive

theorem owned_of_error {error : AppError} (husers : store.tables.users.rows.length ≤ 1)
    (hkept : ∀ winner, (winner, .ok ()) ∈ daemon.returned → store.tables.users.rows = [winner.row])
    (honce : successes daemon ≤ 1) : Owned hashing
      { store := store
        calls := daemon.calls.remove call
        returned := (request, .error error) :: daemon.returned } := by
  refine .free hothers.remove husers (fun winner hwinner => ?_) ?_
  · exact hkept winner (by simpa using hwinner)
  · simpa [successes] using honce

theorem owned_of_goesOn (hbusy : stage ≠ .checking)
    (husers : store.tables.users.rows = stage.users request) (hnone : successes daemon = 0) :
    Owned hashing
      { store := store
        calls := daemon.calls.insert call (request, stage.rest hashing request)
        returned := daemon.returned } := by
  refine .held call request stage (by simp) hbusy (fun id active program hne hactive => ?_)
    husers hnone
  rw [get_insert, if_neg hne] at hactive
  exact hothers id active program hne hactive

/-- The call past its check moves. -/
theorem owned_of_holder {outcome : Outcome} (hbusy : stage ≠ .checking)
    (husers : daemon.store.tables.users.rows = stage.users request)
    (hnone : successes daemon = 0) (hmoves : Moves request daemon.store stage store outcome) :
    Owned hashing (daemon.settle call request store (outcome.rest hashing request)) := by
  have hkept : ∀ winner, (winner, .ok ()) ∈ daemon.returned →
      store.tables.users.rows = [winner.row] :=
    fun winner hwinner => absurd hwinner (notMem_of_successes_eq_zero hnone)
  have honce : successes daemon ≤ 1 := by omega
  cases hmoves with
  | checkFailed | refused | invalid | checked => exact absurd rfl hbusy
  | createFailed | undoFailed | readFailed | saveFailed =>
    exact owned_of_error hothers (by simp [husers, Stage.users]) hkept honce
  | created secret hcreate =>
    rw [settle_goesOn]
    obtain ⟨users, hinsert, rfl⟩ := Tables.create_eq_ok hcreate
    refine owned_of_goesOn hothers (by simp) ?_ hnone
    have hempty : daemon.store.tables.users.rows = [] := husers
    rw [Keyed.rows_insert hinsert, hempty]
    rfl
  | enrolFailed | readFirst =>
    rw [settle_goesOn]
    exact owned_of_goesOn hothers (by simp) husers hnone
  | enrolled secret hsame =>
    rw [settle_goesOn]
    refine owned_of_goesOn hothers (by simp) ?_ hnone
    rw [hsame]
    exact husers
  | undone =>
    refine owned_of_error hothers ?_ hkept honce
    have hfew := List.length_filter_le (fun row : UserRow => !decide (row.id = request.id))
      daemon.store.tables.users.rows
    have hlength : daemon.store.tables.users.rows.length = 1 := by simp [husers, Stage.users]
    exact hfew.trans hlength.le
  | readLater | saved =>
    change Owned hashing
      { store := _
        calls := daemon.calls.remove call
        returned := (request, .ok ()) :: daemon.returned }
    refine .free hothers.remove (congrArg List.length husers).le ?_ ?_
    · intro winner hwinner
      rcases List.mem_cons.mp hwinner with heq | hmem
      · rw [(Prod.mk.inj heq).1]
        exact husers
      · exact absurd hmem (notMem_of_successes_eq_zero hnone)
    · simpa [successes] using hnone.le

end

/-- The call past its check is not one that is at it. -/
theorem holder_ne_checking {holding : ℕ} {holder : Request}
    (hholder : daemon.calls.get holding = some (holder, stage.rest hashing holder))
    (hbusy : stage ≠ .checking)
    (hcall : daemon.calls.get call = some (request, setupAdmin hashing request)) :
    holding ≠ call := by
  intro heq
  rw [heq, hcall] at hholder
  have hrest := (Prod.mk.inj (Option.some.inj hholder)).2
  have hchecking : isChecking (stage.rest hashing holder) = true := by
    rw [← hrest]
    rfl
  cases stage <;> first | exact hbusy rfl | cases hchecking

section

variable (howned : Owned hashing daemon)
include howned

/-- A call passes its check only where nobody else has. -/
theorem Owned.check {secret : Text} {fault : Bool} (hserial : Serial daemon (.step call fault))
    (hcall : daemon.calls.get call = some (request, setupAdmin hashing request))
    (hempty : daemon.store.tables.users.rows = []) : Owned hashing
      { store := daemon.store
        calls := daemon.calls.insert call (request, (Stage.creating secret).rest hashing request)
        returned := daemon.returned } := by
  have hchecking : (daemon.calls.get call).any (fun active => isChecking active.2) =
      true := by
    rw [hcall]
    rfl
  cases howned with
  | free hcalls husers hkept honce =>
    have hnone : successes daemon = 0 := by
      apply List.countP_eq_zero.mpr
      intro entry hentry hok
      have hwon := hkept entry.1 (by simpa [← of_decide_eq_true hok] using hentry)
      rw [hempty] at hwon
      cases hwon
    exact owned_of_goesOn (fun id active program _ => hcalls id active program) (by simp)
      hempty hnone
  | held holding holder stage hholder hbusy hcalls husers hnone =>
    have hne := holder_ne_checking hholder hbusy hcall
    have hcreating := hserial hchecking _ (mem_toList.mpr hholder) hne
    rw [hempty] at husers
    cases stage with
    | checking => exact absurd rfl hbusy
    | creating secret => cases hcreating
    | enrolling | undoing | reading | saving => cases husers

/-- A new call is at its check. -/
theorem Owned.start (hfresh : daemon.calls.get call = none) : Owned hashing
      { daemon with
        calls := daemon.calls.insert call (request, setupAdmin hashing request) } := by
  cases howned with
  | free hcalls husers hkept honce =>
    refine .free (fun id active program hactive => ?_) husers hkept honce
    rcases get_insert_eq_some.mp hactive with ⟨-, ⟨⟩⟩ | ⟨-, hactive⟩
    · rfl
    · exact hcalls id active program hactive
  | held holding holder stage hholder hbusy hcalls husers hnone =>
    have hne : holding ≠ call := by
      intro heq
      rw [heq, hfresh] at hholder
      cases hholder
    refine .held holding holder stage ((get_insert_of_ne _ _ hne).trans hholder) hbusy ?_
      husers hnone
    intro id active program hid hactive
    rcases get_insert_eq_some.mp hactive with ⟨-, ⟨⟩⟩ | ⟨-, hactive⟩
    · rfl
    · exact hcalls id active program hid hactive

theorem Owned.next {label : Label} (hserial : Serial daemon label)
    (hnext : Setup.next hashing daemon label = some after) : Owned hashing after := by
  cases label with
  | start call request =>
    obtain ⟨hfresh, rfl⟩ := start_eq_some.mp hnext
    exact howned.start hfresh
  | step call fault =>
    obtain ⟨request, op, next, answer, store, hcall, hexec, rfl⟩ := step_eq_some.mp hnext
    have hchecks (hrest : Program.call op next = setupAdmin hashing request) :
        Owned hashing (daemon.settle call request store (next answer)) := by
      have hstage : Stage.checking.rest hashing request = .call op next := hrest.symm
      obtain ⟨outcome, hmoves, hleft⟩ := exists_moves hstage hexec
      rw [hleft]
      cases hmoves with
      | checkFailed | refused | invalid =>
        cases howned with
        | free hcalls husers hkept honce =>
          exact owned_of_error (fun id active program _ => hcalls id active program) husers hkept
            honce
        | held holding holder stage hholder hbusy hcalls husers hnone =>
          have hne := holder_ne_checking hholder hbusy (hrest ▸ hcall)
          refine .held holding holder stage (get_remove_eq_some.mpr ⟨hne, hholder⟩) hbusy ?_
            husers (by simpa [successes, Pool.settle, Outcome.rest] using hnone)
          intro id active program hid hactive
          exact hcalls id active program hid (get_remove_eq_some.mp hactive).2
      | checked hempty secret => exact howned.check hserial (hrest ▸ hcall) hempty
    cases howned with
    | free hcalls husers hkept honce => exact hchecks (hcalls call request _ hcall)
    | held holding holder stage hholder hbusy hcalls husers hnone =>
      by_cases heq : call = holding
      · rw [heq, hholder] at hcall
        obtain ⟨rfl, hrest⟩ := Prod.mk.inj (Option.some.inj hcall)
        obtain ⟨outcome, hmoves, hleft⟩ := exists_moves hrest hexec
        rw [hleft, heq]
        exact owned_of_holder hcalls hbusy husers hnone hmoves
      · exact hchecks (hcalls call request _ heq hcall)

end

/-! ## Runs -/

theorem owned_idle {box : Box} (hempty : box.tables.users.rows = []) :
    Owned hashing (.idle box) := by
  refine .free (by simp [idle]) ?_ (by simp [idle]) ?_
  · simp [idle, hempty]
  · simp [successes, idle]

/-- When no call reads between another's read and its insert, at most one call
succeeds and at most one user exists, that of the successful call if there is
one; and a call that finds a user at its check fails at once. -/
theorem setup_mints_one_admin (hashing : Hashing) {box : Box} {labels : List Label}
    {final : Daemon} (hempty : box.tables.users.rows = [])
    (hserial : Meets (next hashing) Serial (.idle box) labels)
    (hrun : run (next hashing) (.idle box) labels = some final) :
    successes final ≤ 1 ∧ final.store.tables.users.rows.length ≤ 1 ∧
      (∀ request, (request, .ok ()) ∈ final.returned →
        final.store.tables.users.rows = [request.row]) ∧
      ∀ call request, final.calls.get call = some (request, setupAdmin hashing request) →
        final.store.tables.users.rows ≠ [] →
        ∀ fault after, next hashing final (.step call fault) = some after →
          after.store = final.store ∧
            ∃ error, after.returned = (request, .error error) :: final.returned := by
  have howned : Owned hashing final :=
    run_invariant_of_meets (fun _ _ _ howned hcond hnext => howned.next hcond hnext)
      (owned_idle hempty) hserial hrun
  refine and_assoc.mp (and_assoc.mp ⟨?_, fun call request hcall hexists fault after hnext => ?_⟩)
  · cases howned with
    | free hcalls husers hkept honce => exact ⟨⟨honce, husers⟩, hkept⟩
    | held call holder stage hholder hbusy hcalls husers hnone =>
      refine ⟨⟨by omega, ?_⟩, fun _ hmem => absurd hmem (notMem_of_successes_eq_zero hnone)⟩
      rw [husers]
      cases stage <;> simp [Stage.users]
  obtain ⟨found, op, rest, answer, store, hfound, hexec, rfl⟩ := step_eq_some.mp hnext
  rw [hcall] at hfound
  obtain ⟨rfl, hrest⟩ := Prod.mk.inj (Option.some.inj hfound)
  have hstage : Stage.checking.rest hashing request = .call op rest := hrest
  obtain ⟨outcome, hmoves, hleft⟩ := exists_moves hstage hexec
  rw [hleft]
  cases hmoves with
  | checkFailed | refused => exact ⟨rfl, _, rfl⟩
  | invalid hempty | checked hempty => exact absurd hempty hexists

/-! ## One call after another, and two side by side -/

def emptyBox : Box where
  tables := ⟨.empty, .empty, .empty, .empty⟩
  wizardStep := none

/-- A call for the user with the number `id`. -/
def requestOf (id : Uuid) (username : Text) : Request where
  username := username
  password := "password".toList
  salt := []
  id := id
  credentialId := id
  now := 0

/-- The whole of one call, then the check of another. -/
def serialCalls : List Label :=
  [.start 0 (requestOf 1 "ann".toList), .step 0 false, .step 0 false, .step 0 false,
    .step 0 false, .step 0 false, .start 1 (requestOf 2 "bob".toList), .step 1 false]

theorem setup_mints_one_admin_serialCalls :
    ∃ final ∈ run (next plainHashing) (.idle emptyBox) serialCalls,
      successes final ≤ 1 ∧ final.returned.length = 2 := by
  have hserial : Meets (next plainHashing) Serial (.idle emptyBox) serialCalls := by decide +kernel
  have hfinal : ∃ final ∈ run (next plainHashing) (.idle emptyBox) serialCalls,
      final.returned.length = 2 := by
    decide +kernel
  obtain ⟨final, hrun, hlength⟩ := hfinal
  exact ⟨final, hrun, (setup_mints_one_admin plainHashing rfl hserial hrun).1, hlength⟩

/-- Two calls check before either inserts: both succeed, and there are two
admins. -/
theorem setup_mints_two_admins : ∃ final ∈ run (next plainHashing) (.idle emptyBox)
        [.start 0 (requestOf 1 "ann".toList), .start 1 (requestOf 2 "bob".toList),
          .step 0 false, .step 1 false, .step 0 false, .step 1 false, .step 0 false,
          .step 1 false, .step 0 false, .step 1 false, .step 0 false, .step 1 false],
      successes final = 2 ∧ final.store.tables.users.rows.length = 2 ∧ final.calls.toList = [] := by
  decide +kernel

end Wardnet.Setup
