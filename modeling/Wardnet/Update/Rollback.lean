import Wardnet.Update.Verified

/-!
# A rollback that stays

The runner honours a rollback request without looking at the staged release and
leaves that release where it is.  What a rollback does leave is a machine
without a previous binary.  So a later runner changes nothing as long as no
complete release is staged: there is nothing to swap in and nothing to go back
to, whoever asks for it.
-/

namespace Wardnet.Update

open Files List Pool Transition
open Program (Fulfils Performs)

variable {releases : Releases} {disk before after : Disk Path UInt8}
variable {Result : Type}

/-! ## What a rollback leaves -/

/-- The runner is told truly whether there is a previous binary. -/
def rollbackContract (post : Except Failure Result → Disk Path UInt8 → Prop) :
    Contract (Option ℕ) Op (Disk Path UInt8) Failure Result where
  rely := SameRoot
  guarantee _ _ := True
  admits fault op _ := fault = none ∨ op ≠ .pathExists .oldBinary
  post := post

section Leaves

variable {post : Except Failure Result → Disk Path UInt8 → Prop}

/-- With this result there is no previous binary any more. -/
def Clears (cleared : Result) (result : Except Failure Result) (after : Disk Path UInt8) : Prop :=
  result = .ok cleared → after .oldBinary = .missing

variable {Value : Type} {cleared : Result}

/-- What goes before does not matter. -/
theorem fulfils_last {first : Action Value} {last : Value → Action Result} (hlast : ∀ value after,
      (last value).Fulfils exec (rollbackContract (Clears cleared)) after) :
    (first >>= last).Fulfils exec (rollbackContract (Clears cleared)) disk :=
  Fulfils.bind (fun _ _ => True) (Fulfils.of_performs (fun _ => True) (fun _ _ _ _ => trivial)
      (fun _ _ _ _ _ _ _ _ => ⟨trivial, trivial⟩) (fun _ _ _ => trivial) first.performs_any trivial)
    (fun value after _ => hlast value after) fun _ _ _ => nofun

theorem fulfils_attempt {program : Action Result}
    (hprogram : program.Fulfils exec (rollbackContract (Clears cleared)) disk) :
    (program.attempt : Action _).Fulfils exec (rollbackContract (Clears (.ok cleared))) disk :=
  Fulfils.attempt (hprogram.mono fun _ _ hpost hok => hpost (Except.ok.inj hok))

theorem fulfils_testOld :
    (pathExists .oldBinary).Fulfils exec (rollbackContract (Clears false)) disk := by
  intro before _ fault hadmits answer after hexec
  refine ⟨trivial, ?_⟩
  intro hanswer
  cases hanswer
  obtain rfl := hadmits.resolve_right fun hne => hne rfl
  have hperform := Option.some.inj hexec
  simp only [perform] at hperform
  split at hperform
  · obtain ⟨-, rfl⟩ := Prod.mk.inj hperform
    assumption
  · cases (Prod.mk.inj hperform).1

theorem fulfils_renameOld :
    (rename .oldBinary .liveBinary).Fulfils exec (rollbackContract (Clears ())) disk := by
  intro before _ fault _ answer after hexec
  refine ⟨trivial, ?_⟩
  match answer with
  | .error _ => exact nofun
  | .ok () =>
    intro _
    rcases Files.exec_rename hexec with ⟨-, -, rfl⟩ | ⟨⟨kind, herror, -⟩, -⟩
    · simp
    · cases herror

theorem fulfils_restoreOld : restoreOld.Fulfils exec (rollbackContract (Clears (.ok ()))) disk := by
  refine Fulfils.bind _ fulfils_testOld ?_ fun _ _ _ => nofun
  intro present tested htested
  cases present with
  | false => exact fun _ => htested rfl
  | true =>
    refine fulfils_last fun live found => ?_
    split
    · exact fulfils_last fun _ _ => fulfils_attempt fulfils_renameOld
    · exact fulfils_attempt fulfils_renameOld

theorem fulfils_performRollback :
    performRollback.Fulfils exec (rollbackContract (Clears ())) disk := by
  refine Fulfils.bind _ fulfils_restoreOld ?_ fun _ _ _ => nofun
  intro result restored hrestored
  let kept (disk : Disk Path UInt8) : Prop := result = .ok () → disk .oldBinary = .missing
  have hdiscard : (discard .rollbackRequest).Fulfils exec
      (rollbackContract fun _ => kept) restored := by
    refine Fulfils.of_performs kept ?_ ?_ (fun _ _ => id)
      (performs_discard (rfl : _ = FileOp.remove Path.rollbackRequest))
      fun hok => hrestored (congrArg Except.ok hok)
    · intro before after hkept hrely hok
      exact (hrely .oldBinary rfl).trans (hkept hok)
    · rintro _ rfl fault before answer after hkept hexec
      refine ⟨trivial, fun hok => ?_⟩
      rw [exec_of_notMem_touches hexec (by simp [FileOp.touches])]
      exact hkept hok
  refine Fulfils.bind _ hdiscard ?_ fun _ _ _ => nofun
  intro _ discarded hdiscarded
  cases result with
  | ok value => exact fun _ => hdiscarded rfl
  | error error => exact nofun

theorem fulfils_swapRun_rolledBack :
    (swapRun releases).Fulfils exec (rollbackContract (Clears .rolledBack)) disk := by
  refine fulfils_last fun requested asked => ?_
  split
  · refine Fulfils.bind _ (fulfils_attempt fulfils_performRollback) ?_ fun _ _ _ => nofun
    intro result after hafter
    match result with
    | .ok () => exact fun _ => hafter rfl
    | .error _ => exact nofun
  · refine fulfils_last fun artifacts read => ?_
    match artifacts with
    | .error _ | .ok none => exact nofun
    | .ok (some (tarball, signature)) =>
      by_cases hverify : releases.verify tarball signature = true
      · simp only [hverify]
        refine fulfils_last fun result after => ?_
        match result with
        | .ok () | .error _ => exact nofun
      · simp only [hverify]
        exact nofun

end Leaves

/-! ## Nothing to swap in and nothing to go back to -/

/-- The operation leaves everything but the rollback request alone. -/
def Op.Notes (op : Op) : Prop :=
  ∀ path ∈ op.touches, path = .rollbackRequest ∨ path = .rollbackRequestTmp

theorem notes_requestRollback : requestRollback.Performs Op.Notes := by
  apply performs_requestRollback
  all_goals simp [Op.Notes, FileOp.touches]

/-- The live binary is `live`, there is no previous one, and a file of the
staged release is missing. -/
structure Settled (live : Entry UInt8) (lacking : Path) (disk : Disk Path UInt8) : Prop where
  live : disk .liveBinary = live
  old : disk .oldBinary = .missing
  lacking : disk lacking = .missing

section Settled

variable {live : Entry UInt8} {lacking : Path}

/-- One of the two staged files. -/
def Path.Staged (path : Path) : Prop := path = .pendingTarball ∨ path = .pendingSignature

theorem Settled.exec {op : Op} {fault : Option ℕ} {answer : Answer op}
    (hsettled : Settled live lacking before) (hlacking : lacking.Staged)
    (hop : op.Notes) (hexec : exec fault op before = some (answer, after)) :
    Settled live lacking after := by
  have hsame : ∀ path, path ≠ .rollbackRequest ∧ path ≠ .rollbackRequestTmp →
      after path = before path := by
    intro path hpath
    apply exec_of_notMem_touches hexec
    intro hmem
    exact (hop path hmem).elim hpath.1 hpath.2
  have hstaged : lacking ≠ .rollbackRequest ∧ lacking ≠ .rollbackRequestTmp := by
    rcases hlacking with rfl | rfl <;> decide
  exact ⟨(hsame _ (by decide)).trans hsettled.live, (hsame _ (by decide)).trans hsettled.old,
    (hsame _ hstaged).trans hsettled.lacking⟩

/-- Every program keeps what is settled. -/
def settledContract (live : Entry UInt8) (lacking : Path) (post : Except Failure Result → Prop) :
    Contract (Option ℕ) Op (Disk Path UInt8) Failure Result where
  rely before after := Settled live lacking before → Settled live lacking after
  guarantee before after := Settled live lacking before → Settled live lacking after
  admits _ _ _ := True
  post result after := post result ∧ Settled live lacking after

variable {post : Except Failure Result → Prop}

section

variable (hlacking : lacking.Staged)
include hlacking

section

variable (hsettled : Settled live lacking disk)
include hsettled

theorem fulfils_notes {program : Action Result} (hprogram : program.Performs Op.Notes)
    (hpost : ∀ result, post result) :
    program.Fulfils exec (settledContract live lacking post) disk := by
  refine Fulfils.of_performs (Settled live lacking) ?_ ?_
    (fun result _ hafter => ⟨hpost result, hafter⟩) hprogram hsettled
  · exact fun _ _ hbefore hrely => hrely hbefore
  · intro op hop fault before answer after hbefore hexec
    have hafter := hbefore.exec hlacking hop hexec
    exact ⟨fun _ => hafter, hafter⟩

/-- A step that concerns the notes at most, with what its answer shows. -/
theorem fulfils_call {op : Op} {next : Answer op → Action Result} (hop : op.Notes)
    (hnext : ∀ fault before answer after, Settled live lacking before →
      exec fault op before = some (answer, after) →
        Settled live lacking after → (next answer).Fulfils exec
          (settledContract live lacking post) after) :
    (Program.call op next).Fulfils exec (settledContract live lacking post) disk := by
  intro before hrely fault _ answer after hexec
  have hbefore := hrely hsettled
  have hafter := hbefore.exec hlacking hop hexec
  exact ⟨fun _ => hafter, hnext fault before answer after hbefore hexec hafter⟩

theorem fulfils_performRollback_settled :
    performRollback.Fulfils exec (settledContract live lacking fun _ => True) disk := by
  apply fulfils_call hlacking hsettled (by simp [Op.Notes, FileOp.touches])
  intro fault before present after hbefore hexec hafter
  obtain rfl := exec_pathExists_of_missing hbefore.old hexec
  exact fulfils_notes hlacking hafter ((performs_discard
    (by simp [Op.Notes, FileOp.touches])).bind fun _ => trivial) fun _ => trivial

/-- No complete release is found. -/
theorem fulfils_readArtifacts_settled : readArtifacts.Fulfils exec
      (settledContract live lacking fun result => ∀ pair, result ≠ .ok (some pair)) disk := by
  apply fulfils_call hlacking hsettled (by simp [Op.Notes, FileOp.touches])
  intro fault before answer after hbefore hexec hafter
  cases answer with
  | error kind => cases kind <;> exact ⟨fun _ => by simp, hafter⟩
  | ok signature =>
    have htarball : lacking = .pendingTarball := by
      apply hlacking.resolve_right
      rintro rfl
      exact exec_read_of_missing hbefore.lacking hexec
    apply fulfils_call hlacking hafter (by simp [Op.Notes, FileOp.touches])
    intro fault before answer after hbefore hexec hafter
    cases answer with
    | error kind => cases kind <;> exact ⟨fun _ => by simp, hafter⟩
    | ok tarball => exact absurd hexec (exec_read_of_missing (htarball ▸ hbefore.lacking))

theorem fulfils_swapRun_settled :
    (swapRun releases).Fulfils exec (settledContract live lacking fun _ => True) disk := by
  have hasked : (pathExists .rollbackRequest).Fulfils exec
      (settledContract live lacking fun _ => True) disk :=
    fulfils_notes hlacking hsettled (performs_pathExists (by simp [Op.Notes, FileOp.touches]))
      fun _ => trivial
  refine Fulfils.bind _ hasked ?_ fun _ _ => id
  rintro requested after ⟨-, hafter⟩
  cases requested with
  | true =>
    refine Fulfils.bind (fun _ => Settled live lacking) (Fulfils.attempt
      ((fulfils_performRollback_settled hlacking hafter).mono
        fun _ _ hpost => hpost.2)) ?_ fun _ _ hpost => ⟨trivial, hpost⟩
    intro result rolled hrolled
    cases result <;> exact ⟨trivial, hrolled⟩
  | false =>
    refine Fulfils.bind (fun result after =>
      (∀ pair, result ≠ .ok (.ok (some pair))) ∧ Settled live lacking after) (Fulfils.attempt
      ((fulfils_readArtifacts_settled hlacking hafter).mono
        fun _ _ hpost => ⟨fun pair hok => hpost.1 pair (Except.ok.inj hok), hpost.2⟩)) ?_
      fun _ _ hpost => ⟨trivial, hpost.2⟩
    intro artifacts read hread
    cases artifacts with
    | error error => exact ⟨trivial, hread.2⟩
    | ok found =>
      cases found with
      | none => exact ⟨trivial, hread.2⟩
      | some pair => exact absurd rfl (hread.1 pair)

end

end

end Settled

/-! ## Runs -/

/-- The runner is told truly whether there is a previous binary. -/
def Tested (host : Host) : Label → Prop
  | .step call fault => fault = none ∨ host.pendingOp call ≠ some (.pathExists .oldBinary)
  | _ => True

instance (host : Host) (label : Label) : Decidable (Tested host label) := by
  cases label <;> delta Tested <;> infer_instance

def Request.stages : Request → Bool
  | .apply .. => true
  | .run | .rollback => false

/-- Nothing is staged. -/
def Label.Unstaged : Label → Prop
  | .start _ request => request.stages = false
  | .tamper .. => False
  | .step .. | .crash _ => True

instance (label : Label) : Decidable label.Unstaged := by
  cases label <;> delta Label.Unstaged <;> infer_instance

/-- What the programs of the daemon that ask for a rollback consist of. -/
def Request.Allowed : Request → Op → Prop
  | .rollback => Op.Notes
  | .run | .apply .. => fun _ => True

variable {host final : Host} {label : Label}

theorem performing_next (hpool : host.Performing Request.Allowed)
    (hnext : next releases host label = some final) : final.Performing Request.Allowed := by
  cases label with
  | start call request =>
    simp only [next] at hnext
    split at hnext
    case isFalse => cases hnext
    obtain ⟨-, rfl⟩ := start_eq_some.mp hnext
    apply hpool.settle
    cases request with
    | run | apply => exact Program.performs_any _
    | rollback => exact notes_requestRollback.bind fun _ => trivial
  | step call fault =>
    obtain ⟨request, op, left, answer, store, hcall, -, rfl⟩ := step_eq_some.mp hnext
    exact hpool.settle ((hpool call request _ hcall).2 answer)
  | crash call =>
    cases hnext
    exact hpool.abort
  | tamper path entry =>
    simp only [next] at hnext
    split at hnext
    case isTrue => cases hnext
    cases hnext
    exact hpool

/-- Until the rollback: what a runner that reports one leaves. -/
def reportsRollback : Contract (Option ℕ) Op (Disk Path UInt8) Failure Response :=
  rollbackContract fun result after =>
    result = .ok (.outcome .rolledBack) → after .oldBinary = .missing

theorem fulfils_reportsRollback (disk : Disk Path UInt8) :
    (Request.program releases .run).Fulfils exec (Request.contract reportsRollback .run) disk := by
  refine Fulfils.bind _ fulfils_swapRun_rolledBack ?_ fun _ _ _ => nofun
  intro outcome after hafter hresult
  obtain rfl : outcome = .rolledBack := by simpa using hresult
  exact hafter rfl

structure Host.Undoing (host : Host) : Prop where
  sharing : host.Sharing reportsRollback
  performing : host.Performing Request.Allowed

theorem Host.admits_of_tested (htested : Tested host label) :
    host.Admits reportsRollback label := by
  cases label with
  | start | crash | tamper => trivial
  | step call fault =>
    intro op left hcall
    cases htested with
    | inl hnone => exact .inl hnone
    | inr hother =>
      refine .inr ?_
      rintro rfl
      simp [Host.pendingOp, hcall] at hother

theorem Host.Undoing.next (hundoing : host.Undoing) (htested : Tested host label)
    (hnext : Update.next releases host label = some final) : final.Undoing :=
  ⟨(hundoing.sharing.next (fulfils_reportsRollback host.store)
    (Host.admits_of_tested htested) hnext).1,
    performing_next hundoing.performing hnext⟩

/-- The step with which a runner reports a rollback leaves no previous binary
and no other runner. -/
theorem Host.Undoing.rolledBack {call : ℕ} {fault : Option ℕ} (hundoing : host.Undoing)
    (htested : Tested host (.step call fault))
    (hnext : Update.next releases host (.step call fault) = some final)
    (hreturned : final.returned = (.run, .ok (.outcome .rolledBack)) :: host.returned) :
    final.store .oldBinary = .missing ∧
      ∀ other program, final.calls.get other ≠ some (.run, program) := by
  have hadmits : ∀ request op left, host.calls.get call = some (request, .call op left) →
        (Request.contract reportsRollback request).admits fault op host.store := by
    intro request op left hcall
    cases request with
    | run => exact Host.admits_of_tested htested op left hcall
    | apply | rollback => trivial
  obtain ⟨request, op, left, answer, store, hcall, -, -, hleft, rfl⟩ :=
    hundoing.sharing.sound.step_cases Request.contract_refl hadmits hnext
  generalize left answer = rest at *
  cases rest with
  | call op next =>
    have hlength := congrArg length hreturned
    simp [settle] at hlength
  | done result =>
    obtain ⟨hrequest, -⟩ := cons.inj hreturned
    cases hrequest
    refine ⟨hleft rfl, ?_⟩
    intro other program hother
    rcases settle_calls hother with ⟨rfl, -⟩ | ⟨hne, hother⟩
    · simp [settle] at hother
    · exact hundoing.sharing.compatible other call _ _ _ _ hne hother hcall rfl rfl

/-- After the rollback. -/
structure Host.Rested (live : Entry UInt8) (lacking : Path) (host : Host) : Prop where
  sound : host.Sound exec fun _ => settledContract live lacking fun _ => True
  settled : Settled live lacking host.store

theorem Host.Rested.next {live : Entry UInt8} {lacking : Path} (hlacking : lacking.Staged)
    (hrested : host.Rested live lacking) (hlabel : label.Unstaged)
    (hnext : Update.next releases host label = some final) : final.Rested live lacking := by
  have htrans : ∀ first second third : Disk Path UInt8,
      (Settled live lacking first → Settled live lacking second) →
        (Settled live lacking second → Settled live lacking third) →
          Settled live lacking first → Settled live lacking third :=
    fun _ _ _ hfirst hsecond => hsecond ∘ hfirst
  cases label with
  | tamper => exact hlabel.elim
  | start call request =>
    have hprogram : (request.program releases).Fulfils exec
        (settledContract live lacking fun _ => True) host.store := by
      cases request with
      | apply => exact nomatch hlabel
      | run =>
        exact Fulfils.bind _ (fulfils_swapRun_settled hlacking hrested.settled)
          (fun _ _ => id) fun _ _ hpost => hpost
      | rollback =>
        exact fulfils_notes hlacking hrested.settled
          (notes_requestRollback.bind fun _ => trivial) fun _ => trivial
    simp only [Update.next] at hnext
    split at hnext
    case isFalse => cases hnext
    obtain ⟨-, rfl⟩ := start_eq_some.mp hnext
    refine ⟨hrested.sound.settle (fun _ => htrans) hprogram (fun _ _ _ _ => id), ?_⟩
    rw [settle_store]
    exact hrested.settled
  | step call fault =>
    obtain ⟨request, op, left, answer, store, hcall, -, hguarantee, hleft,
      rfl⟩ := hrested.sound.step_cases (fun _ _ => id) (fun _ _ _ _ => trivial) hnext
    refine ⟨hrested.sound.settle (fun _ => htrans) hleft (fun _ _ _ _ => hguarantee), ?_⟩
    rw [settle_store]
    exact hguarantee hrested.settled
  | crash call =>
    cases hnext
    exact ⟨hrested.sound.abort, hrested.settled⟩

/-- Once a runner has reported a rollback, and no complete release is staged at
that moment and none is being staged, no runner changes the live binary until
the daemon stages another: neither through a release nor through a further
request. -/
theorem rollback_not_undone (releases : Releases)
    {initial : Disk Path UInt8} {earlier later : List Label}
    {running host final : Host} {call : ℕ} {fault : Option ℕ}
    (hearlier : run (next releases) (.idle initial) earlier = some running)
    (htested : Meets (next releases) Tested (.idle initial) earlier)
    (hfault : Tested running (.step call fault))
    (hstep : next releases running (.step call fault) = some host) (hreturned : host.returned =
      (.run, .ok (.outcome .rolledBack)) :: running.returned)
    (hstaged : host.store .pendingTarball = .missing ∨ host.store .pendingSignature = .missing)
    (hstaging : ∀ request ∈ host.requests, request.stages = false)
    (hlater : ∀ label ∈ later, label.Unstaged)
    (hrun : run (next releases) host later = some final) :
    final.store .liveBinary = host.store .liveBinary := by
  have hidle : Host.Undoing (.idle initial) :=
    ⟨Host.Sharing.idle initial, Pool.Performing.idle initial⟩
  have hundoing : running.Undoing := run_invariant_of_meets
    (fun _ _ _ hundoing htested hnext => hundoing.next htested hnext)
    hidle htested hearlier
  obtain ⟨hold, hnone⟩ := hundoing.rolledBack hfault hstep hreturned
  obtain ⟨lacking, hlacking, hmissing⟩ : ∃ lacking : Path,
      lacking.Staged ∧ host.store lacking = .missing := by
    cases hstaged with
    | inl hmissing => exact ⟨_, .inl rfl, hmissing⟩
    | inr hmissing => exact ⟨_, .inr rfl, hmissing⟩
  have hrested : host.Rested (host.store .liveBinary) lacking := by
    have hsettled : Settled (host.store .liveBinary) lacking host.store := ⟨rfl, hold, hmissing⟩
    refine ⟨?_, hsettled⟩
    intro id request program hcall
    have hnotes : program.Performs Op.Notes := by
      have hperforms := (hundoing.next hfault hstep).performing id request program hcall
      cases request with
      | rollback => exact hperforms
      | run => exact absurd hcall (hnone id program)
      | apply tarball signature =>
        exact nomatch hstaging _ (mem_requests.mpr ⟨id, program, hcall⟩)
    exact ⟨((hundoing.next hfault hstep).sharing.sound id request program
      hcall).1, fulfils_notes hlacking hsettled hnotes fun _ => trivial⟩
  have hfinal : final.Rested (host.store .liveBinary) lacking :=
    run_invariant_of_meets (fun _ _ _ hrested hlabel hnext => hrested.next hlacking hlabel hnext)
      hrested (meets_of_forall hlater host) hrun
  exact hfinal.settled.live

/-- A live binary and a previous one. -/
def updatedHost : Disk Path UInt8
  | .liveBinary => .file [7]
  | .oldBinary => .file [5]
  | _ => .missing

/-- The operator asks for the previous binary and the machine boots; the
runner's last step is left out. -/
def askedAndBooted : List Label :=
  .start 0 .rollback :: replicate 5 (.step 0 none) ++
    .start 1 .run :: replicate 5 (.step 1 none)

/-- The operator asks once more, and the machine boots once more. -/
def askedAgain : List Label :=
  [.start 2 .rollback, .step 2 none, .start 3 .run, .step 3 none, .step 3 none]

theorem rollback_not_undone_askedAgain : ∃ running host final,
      run (next sampleReleases) (.idle updatedHost) askedAndBooted = some running ∧
      next sampleReleases running (.step 1 none) = some host ∧
      host.returned = (.run, .ok (.outcome .rolledBack)) :: running.returned ∧
      run (next sampleReleases) host askedAgain = some final ∧ host.store .liveBinary = .file [5] ∧
      final.store .liveBinary = host.store .liveBinary :=
  ⟨_, _, _, rfl, rfl, by decide +kernel, rfl, by decide +kernel,
    @rollback_not_undone sampleReleases updatedHost askedAndBooted askedAgain
      _ _ _ 1 none rfl (by decide +kernel) (by decide +kernel) rfl
      (by decide +kernel) (by decide +kernel) (by decide +kernel)
      (by decide +kernel) rfl⟩

/-- A release is staged before the operator asks for the previous binary. -/
def stagedThenAsked : List Label :=
  .start 0 (.apply [9] [1]) :: replicate 8 (.step 0 none) ++
    .start 1 .rollback :: replicate 5 (.step 1 none) ++
      .start 2 .run :: replicate 6 (.step 2 none)

/-- The runner goes back and leaves the release of before staged; at the next
boot it swaps that release in. -/
theorem rollback_undone_by_staged :
    ∃ host ∈ run (next sampleReleases) (.idle updatedHost) stagedThenAsked,
      host.returned.head? = some (.run, .ok (.outcome .rolledBack)) ∧
        host.store .liveBinary = .file [5] ∧ ∃ final ∈ run (next sampleReleases) host
            (.start 3 .run :: replicate 12 (.step 3 none)),
          final.returned.head? = some (.run, .ok (.outcome .swapped)) ∧
            final.store .liveBinary = .file [9] := by
  decide +kernel

end Wardnet.Update
