import Wardnet.Core.HashMap
import Wardnet.Core.Transition

/-!
# Blocklist refresh reservations

`refresh_blocklist` collapses concurrent refreshes of one blocklist onto one
job.  A call holds `refresh_dispatch_gate` from its check of
`in_flight_refreshes` until it has recorded the job it dispatched, while the
job itself may end at any moment and then drops its `InFlightRefreshGuard`
under the lock of the map.  A call that waits for the gate has no effect, so
the state keeps only the call that holds it.  Tokens and job identifiers are
fresh UUIDs; here they are drawn from counters.
-/

namespace Wardnet.Refresh

open HashMap Option Transition

structure RefreshReservation where
  token : ℕ
  jobId : ℕ
  deriving DecidableEq

/-- How the future of a job came to its end. -/
inductive Outcome
  | succeeded
  | failed
  | dropped
  deriving DecidableEq

/-- A dispatched refresh job.  It is unfinished until its future has ended,
which includes the drop of the guard it owns. -/
structure Job (Blocklist : Type) where
  blocklist : Blocklist
  token : ℕ
  outcome : Option Outcome
  deriving DecidableEq

/-- Where the call that holds the gate stands: before its check of the map,
with a guard built and the dispatch awaited, with the job spawned and not yet
recorded, or about to return. -/
inductive Phase
  | checking
  | dispatching (token : ℕ)
  | dispatched (token jobId : ℕ)
  | returning
  deriving DecidableEq

structure Caller (Blocklist : Type) where
  blocklist : Blocklist
  phase : Phase
  deriving DecidableEq

/-- `released` lists the tokens whose guard has set its flag. -/
structure State (Blocklist : Type) where
  inFlight : HashMap Blocklist RefreshReservation
  gate : Option (Caller Blocklist)
  jobs : HashMap ℕ (Job Blocklist)
  released : List ℕ
  nextToken : ℕ
  nextJob : ℕ
  deriving DecidableEq

variable {Blocklist : Type} [DecidableEq Blocklist]

omit [DecidableEq Blocklist] in
def State.new : State Blocklist where
  inFlight := .empty
  gate := none
  jobs := .empty
  released := []
  nextToken := 0
  nextJob := 0

/-- `InFlightRefreshGuard::drop`: set the flag, and clear the reservation only
if it carries the guard's own token. -/
def dropGuard (state : State Blocklist) (blocklist : Blocklist) (token : ℕ) : State Blocklist :=
  { state with
    released := token :: state.released
    inFlight :=
      if (state.inFlight.get blocklist).any (·.token = token) then state.inFlight.remove blocklist
      else state.inFlight }

variable {state : State Blocklist} {blocklist : Blocklist} {token : ℕ} {blocklist' : Blocklist}

theorem dropGuard_get_eq_some {reservation : RefreshReservation} :
    (dropGuard state blocklist token).inFlight.get blocklist' = some reservation ↔
      state.inFlight.get blocklist' = some reservation ∧
        (blocklist' = blocklist → reservation.token ≠ token) := by
  by_cases hsame : blocklist' = blocklist
  · subst hsame
    cases hentry : state.inFlight.get blocklist' with
    | none => simp [dropGuard, hentry]
    | some found =>
      by_cases htoken : found.token = token
      · have hdropped : (dropGuard state blocklist' token).inFlight.get blocklist' = none := by
          simp [dropGuard, hentry, htoken]
        simpa [hdropped] using fun heq => heq ▸ htoken
      · have hkept : (dropGuard state blocklist' token).inFlight = state.inFlight := by
          simp [dropGuard, hentry, htoken]
        simpa [hkept, hentry] using fun heq => heq ▸ htoken
  · have hget : (dropGuard state blocklist token).inFlight.get blocklist' =
        state.inFlight.get blocklist' := by
      simp only [dropGuard]
      split <;> simp [hsame]
    simp [hget, hsame]

theorem dropGuard_get_eq_none (hnone : state.inFlight.get blocklist' = none) :
    (dropGuard state blocklist token).inFlight.get blocklist' = none := by
  rw [eq_none_iff_forall_not_mem]
  intro reservation hmem
  have hentry := (dropGuard_get_eq_some.mp hmem).1
  simp [hnone] at hentry

inductive Label (Blocklist : Type)
  | acquireGate (blocklist : Blocklist)
  | checkInFlight
  | spawnJob
  | abandon
  | record
  | returnCall
  | endJob (jobId : ℕ) (outcome : Outcome)

/-- One step of a call of `refresh_blocklist` or of a job.  `abandon` is the
caller's future being dropped while the dispatch is awaited, before the job is
spawned; the closure that owns the guard goes with it. -/
def next (state : State Blocklist) : Label Blocklist → Option (State Blocklist)
  | .acquireGate blocklist =>
    match state.gate with
    | none => some { state with gate := some ⟨blocklist, .checking⟩ }
    | some _ => none
  | .checkInFlight =>
    match state.gate with
    | some ⟨blocklist, .checking⟩ =>
      match state.inFlight.get blocklist with
      | some _ => some { state with gate := some ⟨blocklist, .returning⟩ }
      | none =>
        some { state with
          gate := some ⟨blocklist, .dispatching state.nextToken⟩
          nextToken := state.nextToken + 1 }
    | _ => none
  | .spawnJob =>
    match state.gate with
    | some ⟨blocklist, .dispatching token⟩ =>
      some { state with
        gate := some ⟨blocklist, .dispatched token state.nextJob⟩
        jobs := state.jobs.insert state.nextJob ⟨blocklist, token, none⟩
        nextJob := state.nextJob + 1 }
    | _ => none
  | .abandon =>
    match state.gate with
    | some ⟨blocklist, .dispatching token⟩ =>
      some (dropGuard { state with gate := none } blocklist token)
    | _ => none
  | .record =>
    match state.gate with
    | some ⟨blocklist, .dispatched token jobId⟩ =>
      some { state with
        gate := some ⟨blocklist, .returning⟩
        inFlight :=
          if token ∈ state.released then state.inFlight
          else state.inFlight.insert blocklist ⟨token, jobId⟩ }
    | _ => none
  | .returnCall =>
    match state.gate with
    | some ⟨_, .returning⟩ => some { state with gate := none }
    | _ => none
  | .endJob jobId outcome =>
    match state.jobs.get jobId with
    | some ⟨blocklist, token, none⟩ =>
      some (dropGuard { state with
        jobs := state.jobs.insert jobId ⟨blocklist, token, some outcome⟩ }
        blocklist token)
    | _ => none

/-! ## The reservation invariant -/

/-- An unfinished job is named by the reservation of its blocklist, or it was
dispatched by the call that still holds the gate and has not recorded it; that
call sees no reservation for its blocklist. -/
structure Reserved (state : State Blocklist) : Prop where
  entry_unfinished : ∀ blocklist reservation, state.inFlight.get blocklist = some reservation →
    state.jobs.get reservation.jobId = some ⟨blocklist, reservation.token, none⟩
  job_recorded : ∀ jobId blocklist token, state.jobs.get jobId = some ⟨blocklist, token, none⟩ →
    state.inFlight.get blocklist = some ⟨token, jobId⟩ ∨
      state.gate = some ⟨blocklist, .dispatched token jobId⟩
  dispatching_free : ∀ blocklist token, state.gate = some ⟨blocklist, .dispatching token⟩ →
    state.inFlight.get blocklist = none
  dispatching_unused : ∀ blocklist token, state.gate = some ⟨blocklist, .dispatching token⟩ →
    token ∉ state.released ∧ ∀ jobId job, state.jobs.get jobId = some job → job.token ≠ token
  dispatched_free : ∀ blocklist token jobId,
    state.gate = some ⟨blocklist, .dispatched token jobId⟩ →
    state.inFlight.get blocklist = none ∧
      ∃ outcome, state.jobs.get jobId = some ⟨blocklist, token, outcome⟩
  job_released : ∀ jobId job, state.jobs.get jobId = some job →
    (job.token ∈ state.released ↔ job.outcome.isSome = true)
  token_injective : ∀ left right leftJob rightJob, state.jobs.get left = some leftJob →
    state.jobs.get right = some rightJob →
    leftJob.token = rightJob.token → left = right
  gate_token_fresh : ∀ blocklist token, state.gate = some ⟨blocklist, .dispatching token⟩ →
    token < state.nextToken
  job_fresh : ∀ jobId job, state.jobs.get jobId = some job →
    jobId < state.nextJob ∧ job.token < state.nextToken
  released_fresh : ∀ token ∈ state.released, token < state.nextToken

/-- The call holding the gate is neither dispatching nor waiting to record. -/
def IsIdle (gate : Option (Caller Blocklist)) : Prop :=
  ∀ caller ∈ gate, caller.phase = .checking ∨ caller.phase = .returning

variable {jobId : ℕ}

section

variable (hreserved : Reserved state)
include hreserved

/-- A job that no call is about to record is already recorded. -/
theorem Reserved.recorded_of_not_dispatched (hgate : ∀ blocklist token jobId,
      state.gate ≠ some ⟨blocklist, .dispatched token jobId⟩)
    (hjob : state.jobs.get jobId = some ⟨blocklist, token, none⟩) :
    state.inFlight.get blocklist = some ⟨token, jobId⟩ := by
  rcases hreserved.job_recorded jobId blocklist token hjob with h | h
  · exact h
  · exact absurd h (hgate blocklist token jobId)

variable {gate : Option (Caller Blocklist)}

/-- The gate is left idle with every unfinished job recorded. -/
theorem Reserved.set_gate {inFlight : HashMap Blocklist RefreshReservation} (hidle : IsIdle gate)
    (hentries : ∀ blocklist reservation, inFlight.get blocklist = some reservation →
      state.jobs.get reservation.jobId = some ⟨blocklist, reservation.token, none⟩)
    (hrecorded : ∀ jobId blocklist token, state.jobs.get jobId = some ⟨blocklist, token, none⟩ →
      inFlight.get blocklist = some ⟨token, jobId⟩) :
    Reserved { state with gate := gate, inFlight := inFlight } := by
  have hnotDispatching : ∀ blocklist token, gate ≠ some ⟨blocklist, .dispatching token⟩ := by
    intro blocklist token heq
    simpa using hidle _ heq
  exact { hreserved with
    entry_unfinished := hentries
    job_recorded := fun jobId blocklist token hjob => .inl (hrecorded jobId blocklist token hjob)
    dispatching_free := fun _ _ heq => absurd heq (hnotDispatching _ _)
    dispatching_unused := fun _ _ heq => absurd heq (hnotDispatching _ _)
    dispatched_free := fun _ _ _ heq => by simpa using hidle _ heq
    gate_token_fresh := fun _ _ heq => absurd heq (hnotDispatching _ _) }

/-- A call that dispatches nothing takes or leaves the gate. -/
theorem Reserved.pass_gate (hbefore : ∀ blocklist token jobId,
      state.gate ≠ some ⟨blocklist, .dispatched token jobId⟩) (hidle : IsIdle gate) :
    Reserved { state with gate := gate } :=
  hreserved.set_gate hidle hreserved.entry_unfinished
    fun _ _ _ => hreserved.recorded_of_not_dispatched hbefore

theorem Reserved.spawn_job (hgate : state.gate = some ⟨blocklist, .dispatching token⟩) :
    Reserved { state with
      gate := some ⟨blocklist, .dispatched token state.nextJob⟩
      jobs := state.jobs.insert state.nextJob ⟨blocklist, token, none⟩
      nextJob := state.nextJob + 1 } := by
  have hfree := hreserved.dispatching_free blocklist token hgate
  obtain ⟨hunreleased, hunused⟩ := hreserved.dispatching_unused blocklist token hgate
  have hold : ∀ jobId job, state.jobs.get jobId = some job →
      jobId ≠ state.nextJob := fun jobId job hjob =>
    Nat.ne_of_lt (hreserved.job_fresh jobId job hjob).1
  constructor
  · intro blocklist' reservation hentry
    have hjob := hreserved.entry_unfinished blocklist' reservation hentry
    simpa [hold _ _ hjob] using hjob
  · intro jobId blocklist' token' hjob
    by_cases hid : jobId = state.nextJob
    · simp only [get_insert, hid, if_true, some.injEq, Job.mk.injEq] at hjob
      obtain ⟨rfl, rfl, -⟩ := hjob
      exact .inr (by rw [hid])
    · simp only [get_insert, hid, if_false] at hjob
      exact .inl (hreserved.recorded_of_not_dispatched (by simp [hgate]) hjob)
  · simp
  · simp
  · rintro blocklist' token' jobId ⟨rfl, rfl, rfl⟩
    exact ⟨hfree, none, by simp⟩
  · intro jobId job hjob
    simp only [get_insert] at hjob
    split at hjob
    · cases hjob
      simp [hunreleased]
    · exact hreserved.job_released jobId job hjob
  · intro left right leftJob rightJob hleft hright htoken
    simp only [get_insert] at hleft hright
    split at hleft <;> split at hright
    next hl hr =>
      rw [hl, hr]
    · cases hleft
      exact absurd htoken.symm (hunused right rightJob hright)
    · cases hright
      exact absurd htoken (hunused left leftJob hleft)
    · exact hreserved.token_injective left right leftJob rightJob hleft hright htoken
  · simp
  · intro jobId job hjob
    simp only [get_insert] at hjob
    split at hjob
    next hid =>
      cases hjob
      exact ⟨hid ▸ Nat.lt_succ_self _, hreserved.gate_token_fresh blocklist token hgate⟩
    · obtain ⟨hid, htoken⟩ := hreserved.job_fresh jobId job hjob
      exact ⟨Nat.lt_succ_of_lt hid, htoken⟩
  · exact hreserved.released_fresh

theorem Reserved.abandon (hgate : state.gate = some ⟨blocklist, .dispatching token⟩) :
    Reserved (dropGuard { state with gate := none } blocklist token) := by
  have hfree := hreserved.dispatching_free blocklist token hgate
  obtain ⟨-, hunused⟩ := hreserved.dispatching_unused blocklist token hgate
  have hleft : Reserved { state with gate := none } :=
    hreserved.pass_gate (by simp [hgate]) (by simp [IsIdle])
  simp only [dropGuard, hfree, any_none, Bool.false_eq_true, if_false]
  exact { hleft with
    dispatching_unused := by simp
    job_released := by
      intro jobId job hjob
      simpa [hunused jobId job hjob] using hreserved.job_released jobId job hjob
    released_fresh := by
      intro token' hmem
      rcases List.mem_cons.mp hmem with rfl | hmem
      · exact hreserved.gate_token_fresh blocklist token' hgate
      · exact hreserved.released_fresh token' hmem }

/-- The job is recorded unless it has ended. -/
theorem Reserved.record (hgate : state.gate = some ⟨blocklist, .dispatched token jobId⟩) :
    Reserved { state with
      gate := some ⟨blocklist, .returning⟩
      inFlight :=
        if token ∈ state.released then state.inFlight
        else state.inFlight.insert blocklist ⟨token, jobId⟩ } := by
  obtain ⟨hfree, outcome, hdispatched⟩ := hreserved.dispatched_free blocklist token jobId hgate
  have hiff := hreserved.job_released jobId _ hdispatched
  have hrecorded : ∀ jobId' blocklist' token',
      state.jobs.get jobId' = some ⟨blocklist', token', none⟩ →
        state.inFlight.get blocklist' = some ⟨token', jobId'⟩ ∨
          blocklist' = blocklist ∧ token' = token ∧ jobId' = jobId := by
    intro jobId' blocklist' token' hjob
    apply (hreserved.job_recorded jobId' blocklist' token' hjob).imp_right
    intro hdispatched
    cases hgate.symm.trans hdispatched
    exact ⟨rfl, rfl, rfl⟩
  apply hreserved.set_gate (by simp [IsIdle])
  · intro blocklist' reservation hentry
    split at hentry
    · exact hreserved.entry_unfinished blocklist' reservation hentry
    next hunreleased =>
      obtain rfl : outcome = none := by simpa [hunreleased] using hiff
      rcases get_insert_eq_some.mp hentry with ⟨rfl, rfl⟩ | ⟨-, hold⟩
      · exact hdispatched
      · exact hreserved.entry_unfinished blocklist' reservation hold
  · intro jobId' blocklist' token' hjob
    rcases hrecorded jobId' blocklist' token' hjob with hentry | ⟨rfl, rfl, rfl⟩
    · have hsame : blocklist' ≠ blocklist := by
        rintro rfl
        simp [hfree] at hentry
      split
      · exact hentry
      · simpa [hsame] using hentry
    · have hunreleased : token' ∉ state.released := by
        simpa using hreserved.job_released _ _ hjob
      simp [hunreleased]

end

omit [DecidableEq Blocklist] in
/-- A job that ends stays in the table under its blocklist and token. -/
theorem job_before_end {jobs : HashMap ℕ (Job Blocklist)} {other : ℕ} {blocklist : Blocklist}
    {token : ℕ} {outcome : Outcome} {job : Job Blocklist}
    (hjob : jobs.get jobId = some ⟨blocklist, token, none⟩)
    (hother : (jobs.insert jobId ⟨blocklist, token, some outcome⟩).get other = some job) :
    ∃ before, jobs.get other = some before ∧ before.token = job.token ∧
      (other ≠ jobId → before = job) ∧ (other = jobId → job.outcome = some outcome) := by
  by_cases hid : other = jobId
  · simp only [get_insert, hid, if_true, some.injEq] at hother
    subst hother
    exact ⟨⟨blocklist, token, none⟩, hid ▸ hjob, rfl, fun hne => absurd hid hne, fun _ => rfl⟩
  · simp only [get_insert, hid, if_false] at hother
    exact ⟨job, hother, rfl, fun _ => rfl, fun heq => absurd heq hid⟩

section

variable (hreserved : Reserved state)
include hreserved

theorem Reserved.end_job
    (hjob : state.jobs.get jobId = some ⟨blocklist, token, none⟩) (outcome : Outcome) :
    Reserved (dropGuard { state with
      jobs := state.jobs.insert jobId ⟨blocklist, token, some outcome⟩ }
      blocklist token) where
  entry_unfinished := by
    intro blocklist' reservation hentry
    obtain ⟨hbefore, htoken⟩ := dropGuard_get_eq_some.mp hentry
    have hnamed := hreserved.entry_unfinished blocklist' reservation hbefore
    have hid : reservation.jobId ≠ jobId := by
      intro hid
      rw [hid, hjob, some.injEq, Job.mk.injEq] at hnamed
      exact htoken hnamed.1.symm hnamed.2.1.symm
    simpa [dropGuard, hid] using hnamed
  job_recorded := by
    intro other blocklist' token' hother
    have hid : other ≠ jobId := by
      rintro rfl
      simp [dropGuard] at hother
    have hbefore : state.jobs.get other = some ⟨blocklist', token', none⟩ := by
      simpa [dropGuard, hid] using hother
    rcases hreserved.job_recorded other blocklist' token' hbefore with h | h
    · refine .inl (dropGuard_get_eq_some.mpr ⟨h, fun _ htoken => ?_⟩)
      exact hid (hreserved.token_injective other jobId _ _ hbefore hjob htoken)
    · exact .inr h
  dispatching_free := by
    intro blocklist' token' hgate
    exact dropGuard_get_eq_none (hreserved.dispatching_free blocklist' token' hgate)
  dispatching_unused := by
    intro blocklist' token' hgate
    obtain ⟨hunreleased, hunused⟩ := hreserved.dispatching_unused blocklist' token' hgate
    refine ⟨?_, fun other job hother => ?_⟩
    · have hne : token ≠ token' := hunused jobId _ hjob
      simpa [dropGuard, hne.symm] using hunreleased
    · obtain ⟨before, hbefore, htoken, -⟩ := job_before_end hjob hother
      exact htoken ▸ hunused other before hbefore
  dispatched_free := by
    intro blocklist' token' other hgate
    obtain ⟨hfree, before, hbefore⟩ := hreserved.dispatched_free blocklist' token' other hgate
    refine ⟨dropGuard_get_eq_none hfree, ?_⟩
    by_cases hid : other = jobId
    · rw [hid, hjob, some.injEq, Job.mk.injEq] at hbefore
      obtain ⟨rfl, rfl, -⟩ := hbefore
      exact ⟨some outcome, by simp [dropGuard, hid]⟩
    · exact ⟨before, by simpa [dropGuard, hid] using hbefore⟩
  job_released := by
    intro other job hother
    obtain ⟨before, hbefore, htoken, hsame, hended⟩ := job_before_end hjob hother
    by_cases hid : other = jobId
    · subst hid
      cases hjob.symm.trans hbefore
      simp [dropGuard, ← htoken, hended rfl]
    · have hne : job.token ≠ token := by
        intro heq
        exact hid (hreserved.token_injective other jobId _ _ hbefore hjob (htoken.trans heq))
      have hiff := hreserved.job_released other before hbefore
      rw [hsame hid] at hiff
      simpa [dropGuard, hne] using hiff
  token_injective := by
    intro left right leftJob rightJob hleft hright htokens
    obtain ⟨leftBefore, hleftBefore, hleftToken, -⟩ := job_before_end hjob hleft
    obtain ⟨rightBefore, hrightBefore, hrightToken, -⟩ := job_before_end hjob hright
    exact hreserved.token_injective left right _ _ hleftBefore hrightBefore
      (by rw [hleftToken, hrightToken, htokens])
  gate_token_fresh := hreserved.gate_token_fresh
  job_fresh := by
    intro other job hother
    obtain ⟨before, hbefore, htoken, -⟩ := job_before_end hjob hother
    exact htoken ▸ hreserved.job_fresh other before hbefore
  released_fresh := by
    intro token' hmem
    rcases List.mem_cons.mp hmem with rfl | hmem
    · exact (hreserved.job_fresh jobId _ hjob).2
    · exact hreserved.released_fresh token' hmem

theorem reserved_step {after : State Blocklist} {label : Label Blocklist}
    (hnext : next state label = some after) : Reserved after := by
  revert hnext
  fun_cases next state label <;> rintro ⟨⟩
  · exact hreserved.pass_gate (by simp [*]) (by simp [IsIdle])
  · exact hreserved.pass_gate (by simp [*]) (by simp [IsIdle])
  next blocklist hgate hfree =>
    exact { hreserved with
      job_recorded := fun _ _ _ hjob =>
        .inl (hreserved.recorded_of_not_dispatched (by simp [hgate]) hjob)
      dispatching_free := by
        rintro _ _ ⟨rfl, -⟩
        exact hfree
      dispatching_unused := by
        rintro blocklist' token ⟨-, rfl⟩
        refine ⟨fun hmem => ?_, fun jobId job hjob heq => ?_⟩
        · exact Nat.lt_irrefl _ (hreserved.released_fresh _ hmem)
        · exact Nat.ne_of_lt (hreserved.job_fresh jobId job hjob).2 heq
      dispatched_free := by simp
      gate_token_fresh := by
        rintro _ _ ⟨-, rfl⟩
        exact Nat.lt_succ_self _
      job_fresh := fun jobId job hjob =>
        (hreserved.job_fresh jobId job hjob).imp_right Nat.lt_succ_of_lt
      released_fresh := fun token hmem => Nat.lt_succ_of_lt (hreserved.released_fresh token hmem) }
  · exact hreserved.spawn_job ‹_›
  · exact hreserved.abandon ‹_›
  · exact hreserved.record ‹_›
  · exact hreserved.pass_gate (by simp [*]) (by simp [IsIdle])
  · exact hreserved.end_job ‹_› _

/-! ## One refresh at a time, and no wedged blocklist -/

/-- At most one dispatched and unfinished job exists per blocklist. -/
def OneJobPerBlocklist (state : State Blocklist) : Prop :=
  ∀ blocklist left right leftToken rightToken,
    state.jobs.get left = some ⟨blocklist, leftToken, none⟩ →
    state.jobs.get right = some ⟨blocklist, rightToken, none⟩ →
    left = right

/-- A reservation names a job of its blocklist that has not finished. -/
def EntriesUnfinished (state : State Blocklist) : Prop :=
  ∀ blocklist reservation, state.inFlight.get blocklist = some reservation →
    state.jobs.get reservation.jobId = some ⟨blocklist, reservation.token, none⟩

/-- A finished job leaves no reservation behind, whether or not the call that
dispatched it has returned; and a call that checks the map when every job of
its blocklist has finished goes on to dispatch a new one. -/
def NeverWedged (state : State Blocklist) : Prop :=
  (∀ jobId blocklist token outcome, state.jobs.get jobId = some ⟨blocklist, token, some outcome⟩ →
    ∀ reservation, state.inFlight.get blocklist = some reservation → reservation.jobId ≠ jobId) ∧
  (∀ blocklist, (∀ jobId token, state.jobs.get jobId ≠ some ⟨blocklist, token, none⟩) →
    state.inFlight.get blocklist = none ∧ (state.gate = some ⟨blocklist, .checking⟩ →
        ∃ after token, next state .checkInFlight = some after ∧
          after.gate = some ⟨blocklist, .dispatching token⟩))

theorem Reserved.oneJobPerBlocklist : OneJobPerBlocklist state := by
  intro blocklist left right leftToken rightToken hleft hright
  rcases hreserved.job_recorded left blocklist leftToken hleft with hl | hl
  · rcases hreserved.job_recorded right blocklist rightToken hright with hr | hr
    · rw [hl, some.injEq, RefreshReservation.mk.injEq] at hr
      exact hr.2
    · have hfree := (hreserved.dispatched_free blocklist rightToken right hr).1
      simp [hl] at hfree
  · have hfree := (hreserved.dispatched_free blocklist leftToken left hl).1
    rcases hreserved.job_recorded right blocklist rightToken hright with hr | hr
    · simp [hr] at hfree
    · rw [hl, some.injEq, Caller.mk.injEq, Phase.dispatched.injEq] at hr
      exact hr.2.2

theorem Reserved.neverWedged : NeverWedged state := by
  refine ⟨?_, ?_⟩
  · rintro jobId blocklist token outcome hjob reservation hentry rfl
    have hnamed := hreserved.entry_unfinished blocklist reservation hentry
    simp [hjob] at hnamed
  · intro blocklist hfinished
    have hfree : state.inFlight.get blocklist = none := by
      rw [eq_none_iff_forall_not_mem]
      intro reservation hentry
      exact hfinished reservation.jobId reservation.token
        (hreserved.entry_unfinished blocklist reservation hentry)
    refine ⟨hfree, fun hgate => ?_⟩
    have hnext : next state .checkInFlight = some { state with
        gate := some ⟨blocklist, .dispatching state.nextToken⟩
        nextToken := state.nextToken + 1 } := by
      simp only [next, hgate, hfree]
    exact ⟨_, state.nextToken, hnext, rfl⟩

end

/-- In every interleaving of `refresh_blocklist` calls with the ends of their
jobs, each blocklist has at most one unfinished job, every reservation names
an unfinished job, and a finished job never wedges its blocklist. -/
theorem refresh_reservation_protocol {labels : List (Label Blocklist)} {state : State Blocklist}
    (hrun : run next State.new labels = some state) :
    OneJobPerBlocklist state ∧ EntriesUnfinished state ∧ NeverWedged state := by
  have hreserved : Reserved state :=
    run_invariant (fun _ _ _ hreserved => reserved_step hreserved)
      (by constructor <;> simp [State.new]) hrun
  exact ⟨hreserved.oneJobPerBlocklist, hreserved.entry_unfinished, hreserved.neverWedged⟩

/-- A job that fails before the call that dispatched it records it. -/
def earlyFailure : List (Label ℕ) :=
  [.acquireGate 7, .checkInFlight, .spawnJob, .endJob 0 .failed, .record,
    .returnCall, .acquireGate 7]

def afterEarlyFailure : State ℕ where
  inFlight := .empty
  gate := some ⟨7, .checking⟩
  jobs := HashMap.insert .empty 0 ⟨7, 0, some .failed⟩
  released := [0]
  nextToken := 1
  nextJob := 1

theorem refresh_reservation_protocol_earlyFailure :
    run next State.new earlyFailure = some afterEarlyFailure ∧
      OneJobPerBlocklist afterEarlyFailure ∧ EntriesUnfinished afterEarlyFailure ∧
      NeverWedged afterEarlyFailure := by
  have hrun : run next State.new earlyFailure = some afterEarlyFailure := by decide
  exact ⟨hrun, refresh_reservation_protocol hrun⟩

end Wardnet.Refresh
