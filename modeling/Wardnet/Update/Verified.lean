import Wardnet.Update.Swap

/-!
# Only verified binaries go live

The runner reads a release once, verifies the bytes it has read and extracts
the binary from the same bytes into a file nobody else can write to.  From then
on it only moves files about in a directory that is its own.  So the live
binary is one that was there at the start or one that came out of a release
with an accepted signature, whatever happens to the staged files meanwhile and
wherever the runner is cut off.
-/

namespace Wardnet.Update

open Files Program Transition

variable (releases : Releases) (initial : Disk Path UInt8)

/-- An entry that may be the live binary. -/
def Trusted (entry : Entry UInt8) : Prop :=
  entry = .missing ∨ entry = initial .liveBinary ∨ entry = initial .oldBinary ∨
      ∃ tarball signature bytes, releases.verify tarball signature = true ∧
        releases.wardnetd tarball = some bytes ∧ entry = .file bytes

/-- The two binaries. -/
def Path.binary (path : Path) : Prop := path = .liveBinary ∨ path = .oldBinary

/-- Both binaries are trusted. -/
def Guarded (disk : Disk Path UInt8) : Prop :=
  ∀ path : Path, path.binary → Trusted releases initial (disk path)

/-- The file to be moved into place is trusted as well. -/
def Staged (disk : Disk Path UInt8) : Prop :=
  ∀ path : Path, path.rootOwned = true → Trusted releases initial (disk path)

/-- Nobody but the runner changes the root-owned files. -/
def SameRoot (before after : Disk Path UInt8) : Prop :=
  ∀ path : Path, path.rootOwned = true → after path = before path

variable {releases initial} {disk before after : Disk Path UInt8}

theorem rootOwned_of_binary {path : Path} (hpath : path.binary) : path.rootOwned = true := by
  rcases hpath with rfl | rfl <;> rfl

theorem Staged.guarded (hstaged : Staged releases initial disk) : Guarded releases initial disk :=
  fun path hpath => hstaged path (rootOwned_of_binary hpath)

theorem Guarded.same (hguarded : Guarded releases initial before)
    (hsame : SameRoot before after) : Guarded releases initial after := by
  intro path hpath
  rw [hsame path (rootOwned_of_binary hpath)]
  exact hguarded path hpath

theorem Staged.same (hstaged : Staged releases initial before)
    (hsame : SameRoot before after) : Staged releases initial after := by
  intro path hpath
  rw [hsame path hpath]
  exact hstaged path hpath

section Runner

variable {Result Error : Type}

/-- The contract of a part of the runner. -/
def runnerContract (releases : Releases) (initial : Disk Path UInt8)
    (post : Except Error Result → Disk Path UInt8 → Prop) :
    Contract (Option ℕ) Op (Disk Path UInt8) Error Result where
  rely := SameRoot
  guarantee _ after := Guarded releases initial after
  admits _ _ _ := True
  post := post

variable {program : Program Op Answer Error Result}

/-- A part that only moves the two binaries. -/
theorem fulfils_of_guarded (hprogram : program.Performs (FileOp.Shuffles Path.binary))
    (hguarded : Guarded releases initial disk) :
    program.Fulfils exec (runnerContract releases initial fun _ => Guarded releases initial)
      disk := by
  refine Fulfils.of_performs (Guarded releases initial)
    (fun _ _ hbefore hsame => hbefore.same hsame) ?_ (fun _ _ => id)
    hprogram hguarded
  intro op hop fault before answer after hbefore hexec
  have hafter : Guarded releases initial after := fun path =>
    exec_of_shuffles hexec hop (.inl rfl) hbefore path
  exact ⟨hafter, hafter⟩

/-- Once it has been written, the file to be moved is the extracted binary. -/
theorem fulfils_writeExecutable {bytes : Bytes} (hbytes : Trusted releases initial (.file bytes))
    (hguarded : Guarded releases initial disk) : (writeExecutable .swapStaging bytes).Fulfils exec
      (runnerContract releases initial fun result after => Guarded releases initial after ∧
          (result = .ok () → Staged releases initial after)) disk := by
  have hfree : ¬ Path.binary .swapStaging := by rintro (h | h) <;> cases h
  intro created hsame fault _ answer after hexec
  have hguarded := hguarded.same hsame
  have hafter : Guarded releases initial after := exec_of_shuffles hexec hfree (.inl rfl) hguarded
  refine ⟨hafter, ?_⟩
  match answer with
  | .error _ => exact ⟨hafter, nofun⟩
  | .ok () =>
  obtain ⟨-, rfl⟩ := (exec_create hexec).resolve_right (by rintro ⟨⟨_, ⟨⟩⟩, -⟩)
  intro written hsame fault _ answer after hexec
  have hguarded := hafter.same hsame
  have hempty : written .swapStaging = .file [] := by
    rw [hsame .swapStaging rfl]
    simp
  have hafter : Guarded releases initial after := exec_of_shuffles hexec hfree (.inl rfl) hguarded
  refine ⟨hafter, ?_⟩
  match answer with
  | .error _ => exact ⟨hafter, nofun⟩
  | .ok () =>
  obtain ⟨-, rfl⟩ := (Files.exec_writeAll hempty hexec).resolve_right (by simp)
  have hstaged : Staged releases initial (Function.update written .swapStaging (.file bytes)) := by
    intro path hpath
    by_cases hstaging : path = .swapStaging
    · subst hstaging
      simpa using hbytes
    · cases path with
      | liveBinary => exact hafter _ (.inl rfl)
      | oldBinary => exact hafter _ (.inr rfl)
      | swapStaging => exact absurd rfl hstaging
      | _ => cases hpath
  intro executable hsame fault _ answer after hexec
  have hstaged := hstaged.same hsame
  have hafter : Staged releases initial after := fun path hpath =>
    exec_of_shuffles hexec trivial (.inl rfl) hstaged path hpath
  refine ⟨hafter.guarded, ?_⟩
  match answer with
  | .error _ => exact ⟨hafter.guarded, nofun⟩
  | .ok () => exact ⟨hafter.guarded, fun _ => hafter⟩

theorem fulfils_performSwap {tarball signature : Bytes}
    (hverify : releases.verify tarball signature = true)
    (hguarded : Guarded releases initial disk) : (performSwap releases tarball).Fulfils exec
      (runnerContract releases initial fun _ => Guarded releases initial) disk := by
  unfold performSwap
  cases hbytes : releases.wardnetd tarball with
  | none => exact hguarded
  | some bytes =>
    have htrusted : Trusted releases initial (.file bytes) :=
      .inr (.inr (.inr ⟨tarball, signature, bytes, hverify, hbytes, rfl⟩))
    have hmoves : (do
        preserveLive
        rename .swapStaging .liveBinary
        discard .pendingTarball
        discard .pendingSignature : Action Unit).Performs
          (FileOp.Shuffles fun path => path.rootOwned = true) := by
      have hpreserve : preserveLive.Performs
          (FileOp.Shuffles fun path => path.rootOwned = true) := by
        refine (performs_pathExists trivial).bind fun live => ?_
        split
        · refine (performs_pathExists trivial).bind fun old => ?_
          split
          · exact (performs_removeFile trivial).bind fun _ => performs_rename fun _ => rfl
          · exact performs_rename fun _ => rfl
        · trivial
      refine hpreserve.bind fun _ => ?_
      refine (performs_rename fun _ => rfl).bind fun _ => ?_
      exact (performs_discard trivial).bind fun _ => performs_discard trivial
    refine Fulfils.bind _ (fulfils_writeExecutable htrusted hguarded) ?_ fun _ _ hafter => hafter.1
    intro _ after hafter
    refine Fulfils.of_performs (Staged releases initial)
      (fun _ _ hbefore hsame => hbefore.same hsame) ?_
      (fun _ _ hafter => hafter.guarded) hmoves (hafter.2 rfl)
    intro op hop fault before answer after hbefore hexec
    have hafter : Staged releases initial after := fun path =>
      exec_of_shuffles hexec hop (.inl rfl) hbefore path
    exact ⟨hafter.guarded, hafter⟩

theorem fulfils_orFailed {part : Action Unit} (outcome : SwapOutcome) (hpart : part.Fulfils exec
      (runnerContract releases initial fun _ => Guarded releases initial) disk) :
    (orFailed outcome part).Fulfils exec
      (runnerContract releases initial fun _ => Guarded releases initial) disk := by
  refine Fulfils.bind (fun _ => Guarded releases initial) (Fulfils.attempt hpart) ?_ fun _ _ => id
  intro result after hafter
  match result with
  | .ok () | .error _ => exact hafter

theorem fulfils_swapRun (hguarded : Guarded releases initial disk) : (swapRun releases).Fulfils exec
      (runnerContract releases initial fun _ => Guarded releases initial) disk := by
  refine Fulfils.bind (fun _ => Guarded releases initial)
    (fulfils_of_guarded (performs_pathExists trivial) hguarded) ?_
    fun _ _ => id
  intro requested asked hasked
  split
  · apply fulfils_orFailed
    refine fulfils_of_guarded (Program.Performs.bind ?_ fun _ =>
      (performs_discard trivial).bind fun _ => trivial) hasked
    refine (performs_pathExists trivial).bind fun old => ?_
    split
    · refine (performs_pathExists trivial).bind fun live => ?_
      split
      · exact (performs_removeFile trivial).bind fun _ =>
          (performs_rename fun _ => .inr rfl).attempt
      · exact (performs_rename fun _ => .inr rfl).attempt
    · trivial
  · refine Fulfils.bind (fun _ => Guarded releases initial) (Fulfils.attempt (fulfils_of_guarded
        (performs_readArtifacts trivial trivial) hasked)) ?_
      fun _ _ => id
    intro artifacts read hread
    match artifacts with
    | .error _ | .ok none => exact hread
    | .ok (some (tarball, signature)) =>
      by_cases hverify : releases.verify tarball signature = true
      · simp only [hverify]
        exact fulfils_orFailed .swapped (fulfils_performSwap hverify hread)
      · simp only [hverify]
        exact hread

end Runner

/-! ## Both programs -/

/-- An operation of the daemon. -/
def Op.Unprivileged (op : Op) : Prop := ∀ path ∈ op.touches, path.rootOwned = false

theorem performs_stagePending (tarball signature : Bytes) :
    (stagePending releases tarball signature).Performs Op.Unprivileged := by
  refine Performs.bind ⟨by simp [Op.Unprivileged, FileOp.touches], performs_orFail⟩ fun _ => ?_
  split
  · refine (performs_writeAtomic ?_ ?_ ?_).bind fun _ =>
      (performs_writeAtomic ?_ ?_ ?_).bind fun _ => performs_discard ?_
    all_goals simp [Op.Unprivileged, FileOp.touches, Path.rootOwned]
  · trivial

/-- The runner keeps a contract of its own and relies on its directory; the
daemon leaves that directory alone. -/
def Request.contract (runner : Contract (Option ℕ) Op (Disk Path UInt8) Failure Response) :
    Request → Contract (Option ℕ) Op (Disk Path UInt8) Failure Response
  | .run => { runner with rely := SameRoot }
  | .apply .. | .rollback =>
    { rely := fun _ _ => True
      guarantee := SameRoot
      admits := fun _ _ _ => True
      post := fun _ _ => True }

section Sharing

variable {runner : Contract (Option ℕ) Op (Disk Path UInt8) Failure Response}

theorem Request.fulfils_program (request : Request)
    (hrun : (Request.program releases .run).Fulfils exec (Request.contract runner .run) disk) :
    (request.program releases).Fulfils exec (request.contract runner) disk := by
  have hdaemon : ∀ {program : Action Response}, program.Performs Op.Unprivileged →
        program.Fulfils exec (Request.contract runner .rollback) disk := by
    intro program hprogram
    refine Fulfils.of_performs (fun _ => True) (fun _ _ _ _ => trivial) ?_
      (fun _ _ _ => trivial) hprogram trivial
    intro op hop fault before answer after _ hexec
    refine ⟨fun path hpath => exec_of_notMem_touches hexec fun hmem => ?_, trivial⟩
    rw [hop path hmem] at hpath
    cases hpath
  cases request with
  | run => exact hrun
  | apply tarball signature =>
    exact hdaemon ((performs_stagePending tarball signature).bind fun _ => trivial)
  | rollback =>
    refine hdaemon (.bind (performs_requestRollback ?_ ?_ ?_ ?_ ?_) fun _ => trivial)
    all_goals simp [Op.Unprivileged, FileOp.touches, Path.rootOwned]

/-- At most one of two programs is the runner. -/
def Request.Compatible (request other : Request) : Prop := request = .run → other ≠ .run

theorem SameRoot.refl (disk : Disk Path UInt8) : SameRoot disk disk := fun _ _ => rfl

theorem Request.contract_refl (request : Request) (disk : Disk Path UInt8) :
    (request.contract runner).rely disk disk := by
  cases request with
  | run => exact SameRoot.refl disk
  | apply | rollback => trivial

theorem Request.contract_trans (request : Request) (first second third : Disk Path UInt8)
    (hfirst : (request.contract runner).rely first second)
    (hsecond : (request.contract runner).rely second third) :
    (request.contract runner).rely first third := by
  cases request with
  | run => exact fun path hpath => (hsecond path hpath).trans (hfirst path hpath)
  | apply | rollback => trivial

theorem Host.compatible_of_free {host : Host} {request : Request}
    (hfree : host.free request = true) :
    ∀ active ∈ host.requests, request.Compatible active ∧ active.Compatible request := by
  intro active hactive
  cases request with
  | run =>
    have hnone : Request.run ∉ host.requests := by simpa [Host.free] using hfree
    have hne : active ≠ .run := fun heq => hnone (heq ▸ hactive)
    exact ⟨fun _ => hne, fun heq => absurd heq hne⟩
  | apply | rollback => exact ⟨nofun, fun _ => nofun⟩

/-- Every program in progress keeps its contract, and one runner at most is
among them. -/
structure Host.Sharing (runner : Contract (Option ℕ) Op (Disk Path UInt8) Failure Response)
    (host : Host) : Prop where
  sound : host.Sound exec (Request.contract runner)
  compatible : host.Compatible Request.Compatible

theorem Host.Sharing.idle (disk : Disk Path UInt8) : Host.Sharing runner (.idle disk) := by
  refine ⟨Pool.Sound.idle disk, ?_⟩
  intro _ _ _ _ _ _ _ hcall
  simp [Pool.idle] at hcall

/-- The step of a program is one that its contract allows. -/
def Host.Admits (runner : Contract (Option ℕ) Op (Disk Path UInt8) Failure Response)
    (host : Host) : Label → Prop
  | .step id fault => ∀ op left,
      host.calls.get id = some (.run, .call op left) → runner.admits fault op host.store
  | _ => True

/-- A step changes root-owned files only as the runner promises. -/
theorem Host.Sharing.next {host final : Host} {label : Label} (hsharing : host.Sharing runner)
    (hrun : (Request.program releases .run).Fulfils exec (Request.contract runner .run) host.store)
    (hadmits : host.Admits runner label) (hnext : Update.next releases host label = some final) :
    final.Sharing runner ∧ (SameRoot host.store final.store ∨
        runner.guarantee host.store final.store) := by
  cases label with
  | start call request =>
    simp only [Update.next] at hnext
    split at hnext
    case isFalse => cases hnext
    rename_i hfree
    obtain ⟨-, rfl⟩ := Pool.start_eq_some.mp hnext
    rw [Pool.settle_store]
    exact ⟨⟨hsharing.sound.settle Request.contract_trans (request.fulfils_program hrun)
      (fun _ active _ _ => active.1.contract_refl _),
      hsharing.compatible.start (host.compatible_of_free hfree)⟩, .inl (SameRoot.refl _)⟩
  | step call fault =>
    have hadmitted : ∀ request op left, host.calls.get call = some (request, .call op left) →
          (request.contract runner).admits fault op host.store := by
      intro request op left hcall
      cases request with
      | run => exact hadmits op left hcall
      | apply | rollback => trivial
    obtain ⟨request, op, left, answer, store, hcall, -, hguarantee, hleft,
      rfl⟩ := hsharing.sound.step_cases Request.contract_refl hadmitted hnext
    rw [Pool.settle_store]
    refine ⟨⟨hsharing.sound.settle Request.contract_trans hleft ?_,
      hsharing.compatible.settle hcall⟩, ?_⟩
    · rintro other ⟨asked, program⟩ hne hother
      have hcompatible := hsharing.compatible call other _ _ _ _ hne.symm hcall hother
      cases asked with
      | apply | rollback => trivial
      | run =>
        cases request with
        | run => exact absurd rfl (hcompatible rfl)
        | apply | rollback => exact hguarantee
    · cases request with
      | run => exact .inr hguarantee
      | apply | rollback => exact .inl hguarantee
  | crash call =>
    cases hnext
    exact ⟨⟨hsharing.sound.abort, hsharing.compatible.abort⟩, .inl (SameRoot.refl _)⟩
  | tamper path entry =>
    simp only [Update.next] at hnext
    split at hnext
    case isTrue => cases hnext
    rename_i hpath
    cases hnext
    have hsame : SameRoot host.store (Function.update host.store path entry) := by
      intro other hother
      have hne : other ≠ path := by
        rintro rfl
        exact hpath hother
      exact Function.update_of_ne hne _ _
    refine ⟨⟨hsharing.sound.disturb Request.contract_trans ?_, hsharing.compatible⟩, .inl hsame⟩
    intro call request program _
    cases request with
    | run => exact hsame
    | apply | rollback => trivial

end Sharing

/-! ## Runs -/

structure Host.Safe (releases : Releases) (initial : Disk Path UInt8) (host : Host) : Prop where
  sharing : host.Sharing (runnerContract releases initial fun _ _ => True)
  guarded : Guarded releases initial host.store

theorem Host.Safe.next {host final : Host} {label : Label} (hsafe : host.Safe releases initial)
    (hnext : Update.next releases host label = some final) : final.Safe releases initial := by
  have hadmits : host.Admits (runnerContract releases initial fun _ _ => True) label := by
    cases label with
    | step => exact fun _ _ _ => trivial
    | start | crash | tamper => trivial
  obtain ⟨hsharing, hstore⟩ := hsafe.sharing.next (Fulfils.bind (fun _ => Guarded releases initial)
    (fulfils_swapRun hsafe.guarded) (fun _ _ _ => trivial) fun _ _ _ => trivial) hadmits hnext
  refine ⟨hsharing, ?_⟩
  cases hstore with
  | inl hsame => exact hsafe.guarded.same hsame
  | inr hguarded => exact hguarded

/-- Whatever happens to the staged files between two steps of the runner, and
wherever the runner is cut off or a step of it fails, the live binary is
missing, one of the two binaries there were, or the binary of a release whose
signature was accepted. -/
theorem live_binary_verified (releases : Releases)
    {initial : Disk Path UInt8} {labels : List Label} {final : Host}
    (hrun : run (next releases) (.idle initial) labels = some final) :
    final.store .liveBinary = .missing ∨ final.store .liveBinary = initial .liveBinary ∨
      final.store .liveBinary = initial .oldBinary ∨
      ∃ tarball signature bytes, releases.verify tarball signature = true ∧
        releases.wardnetd tarball = some bytes ∧ final.store .liveBinary = .file bytes := by
  have hidle : Host.Safe releases initial (.idle initial) := by
    refine ⟨Host.Sharing.idle initial, ?_⟩
    intro path hpath
    rcases hpath with rfl | rfl
    · exact .inr (.inl rfl)
    · exact .inr (.inr (.inl rfl))
  have hfinal : final.Safe releases initial := run_invariant
    (fun _ _ _ hsafe hnext => hsafe.next hnext) hidle hrun
  exact hfinal.guarded .liveBinary (.inl rfl)

/-- Releases of one entry, signed by a single byte. -/
def sampleReleases : Releases where
  verify _ signature := signature = [1]
  entries tarball := [some ⟨"bin/wardnetd".toList, some tarball⟩]

/-- A live binary and a staged release. -/
def stagedHost : Disk Path UInt8
  | .liveBinary => .file [7]
  | .pendingTarball => .file [9]
  | .pendingSignature => .file [1]
  | _ => .missing

/-- The staged release is replaced after the runner has read it. -/
def replacedAfterRead : List Label :=
  .start 0 .run :: List.replicate 3 (.step 0 none) ++
    .tamper .pendingTarball (.file [6, 6]) :: List.replicate 9 (.step 0 none)

theorem live_binary_verified_replacedAfterRead :
    ∃ final, run (next sampleReleases) (.idle stagedHost) replacedAfterRead = some final ∧
      final.store .liveBinary = .file [9] ∧
      (final.store .liveBinary = .missing ∨ final.store .liveBinary = stagedHost .liveBinary ∨
        final.store .liveBinary = stagedHost .oldBinary ∨
        ∃ tarball signature bytes, sampleReleases.verify tarball signature = true ∧
            sampleReleases.wardnetd tarball = some bytes ∧ final.store .liveBinary = .file bytes) :=
  ⟨_, rfl, by decide +kernel,
    @live_binary_verified sampleReleases stagedHost replacedAfterRead _ rfl⟩

end Wardnet.Update
