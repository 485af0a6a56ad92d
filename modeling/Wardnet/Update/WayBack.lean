import Wardnet.Update.Verified

/-!
# The way back

A swap goes through three states: the old binary is live, it has been moved
aside, the new binary is live beside it.  A runner that is cut off leaves one
of them behind, and the next one goes on from there.  Only in the last state
does it matter whether the release is still staged: a runner that starts then
swaps once more, and the binary that ran before the update is lost.
-/

namespace Wardnet.Update

open Files Function Transition
open Program (Fulfils)

/-- A verified release with a new binary, and the binary it replaces. -/
structure Scene (releases : Releases) where
  live : Bytes
  new : Bytes
  different : new ≠ live
  tarball : Bytes
  signature : Bytes
  verified : releases.verify tarball signature = true
  extracted : releases.wardnetd tarball = some new

namespace Scene

variable {releases : Releases} (scene : Scene releases)
variable (disk : Disk Path UInt8)

/-- The release is staged. -/
def Paired : Prop :=
  disk .pendingTarball = .file scene.tarball ∧ disk .pendingSignature = .file scene.signature

/-- The old binary is live. -/
def Waiting : Prop := disk .liveBinary = .file scene.live ∧ scene.Paired disk

/-- The old binary has been moved aside. -/
def Moved : Prop :=
  disk .liveBinary = .missing ∧ disk .oldBinary = .file scene.live ∧ scene.Paired disk

/-- The new binary is live and the old one beside it. -/
def Swapped : Prop := disk .liveBinary = .file scene.new ∧ disk .oldBinary = .file scene.live

instance : Decidable (scene.Paired disk) := inferInstanceAs (Decidable (_ ∧ _))

instance : Decidable (scene.Swapped disk) := inferInstanceAs (Decidable (_ ∧ _))

/-- What holds all the time: nobody asks for a rollback, nothing but the
release is staged, and files are files. -/
structure Kept : Prop where
  request : disk .rollbackRequest = .missing
  tarball : disk .pendingTarball = .missing ∨ disk .pendingTarball = .file scene.tarball
  signature : disk .pendingSignature = .missing ∨ disk .pendingSignature = .file scene.signature
  old : disk .oldBinary ≠ .other
  staging : disk .swapStaging ≠ .other
  progress : scene.Waiting disk ∨ scene.Moved disk ∨ scene.Swapped disk

variable {scene disk} {Result Error : Type}

/-- A step leaves one of the three states and does not leave the last. -/
def Follows (scene : Scene releases) (before after : Disk Path UInt8) : Prop :=
  scene.Kept after ∧ (scene.Swapped before → scene.Swapped after)

/-- A runner that has not got the new binary into place yet. -/
def Pending (scene : Scene releases) (disk : Disk Path UInt8) : Prop :=
  scene.Kept disk ∧ (scene.Waiting disk ∨ scene.Moved disk)

theorem Pending.not_swapped (hpending : scene.Pending disk) : ¬ scene.Swapped disk := by
  intro hswapped
  cases hpending.2 with
  | inl hwaiting => exact scene.different (Entry.file.inj (hswapped.1.symm.trans hwaiting.1))
  | inr hmoved => exact nomatch hswapped.1.symm.trans hmoved.1

variable {after : Disk Path UInt8}

theorem Pending.follows (hpending : scene.Pending disk) (hkept : scene.Kept after) :
    scene.Follows disk after :=
  ⟨hkept, fun hswapped => absurd hswapped hpending.not_swapped⟩

/-! ## The contract of a runner -/

/-- The removals at the end of a swap, whose failure is ignored. -/
def Op.cleanup (op : Op) : Prop := op = .remove .pendingTarball ∨ op = .remove .pendingSignature

/-- Nobody interferes, and only the removals at the end may fail. -/
def contract (scene : Scene releases) (post : Except Error Result → Disk Path UInt8 → Prop) :
    Contract (Option ℕ) Op (Disk Path UInt8) Error Result where
  rely before after := after = before
  guarantee := scene.Follows
  admits fault op _ := fault = none ∨ Op.cleanup op
  post := post

variable {post : Except Error Result → Disk Path UInt8 → Prop}

/-- A step that cannot fail. -/
theorem fulfils_call {op : Op} {answer : Answer op}
    {next : Answer op → Program Op Answer Error Result}
    (hperform : perform op disk = (answer, after)) (hop : ¬ Op.cleanup op)
    (hfollows : scene.Follows disk after)
    (hnext : (next answer).Fulfils exec (scene.contract post) after) :
    (Program.call op next).Fulfils exec (scene.contract post) disk := by
  intro before hrely fault hadmits answer' after' hexec
  obtain rfl : before = disk := hrely
  obtain rfl := hadmits.resolve_right hop
  cases hperform.symm.trans (Option.some.inj hexec)
  exact ⟨hfollows, hnext⟩

/-- A part that succeeds, and what comes after it. -/
theorem fulfils_bind {Value : Type} {value : Value} {program : Program Op Answer Error Value}
    {next : Value → Program Op Answer Error Result} {middle : Disk Path UInt8 → Prop}
    (hprogram : program.Fulfils exec (scene.contract fun result after =>
      result = .ok value ∧ middle after) disk)
    (hnext : ∀ after, middle after → (next value).Fulfils exec (scene.contract post) after) :
    (program >>= next).Fulfils exec (scene.contract post) disk := by
  apply Fulfils.bind _ hprogram
  · intro found after hmiddle
    cases hmiddle.1
    exact hnext after hmiddle.2
  · intro error after hmiddle
    cases hmiddle.1

/-! ## What the steps find and leave -/

theorem perform_pathExists (path : Path) :
    perform (.pathExists path) disk = (decide (disk path ≠ .missing), disk) := by
  simp only [perform]
  split
  next hmissing =>
    simp [hmissing]
  next hpresent =>
    simpa using hpresent

theorem perform_rename_file {source target : Path} {bytes : Bytes}
    (hsource : disk source = .file bytes) (htarget : disk target ≠ .other) :
    perform (.rename source target) disk =
      (.ok (), Function.update (Function.update disk source .missing) target (.file bytes)) := by
  have hmoves : (Entry.file bytes).movesOver (disk target) = true := by
    cases hentry : disk target with
    | missing | file => rfl
    | other => exact absurd hentry htarget
  simp [perform, hsource, hmoves]

theorem Pending.update_staging (hpending : scene.Pending disk) (bytes : Bytes) :
    scene.Pending (Function.update disk .swapStaging (.file bytes)) := by
  have hkept := hpending.1
  refine ⟨⟨hkept.request, hkept.tarball, hkept.signature, hkept.old, ?_,
    hkept.progress⟩, hpending.2⟩
  simp

/-- The disk once the live binary is moved aside. -/
def movedAside (scene : Scene releases) (disk : Disk Path UInt8) : Disk Path UInt8 :=
  Function.update (Function.update disk .liveBinary .missing) .oldBinary (.file scene.live)

theorem Kept.movedAside (hkept : scene.Kept disk) (hwaiting : scene.Waiting disk) :
    scene.Kept (scene.movedAside disk) ∧ scene.Moved (scene.movedAside disk) := by
  have hmoved : scene.Moved (scene.movedAside disk) := ⟨rfl, by simp [Scene.movedAside], hwaiting.2⟩
  refine ⟨⟨hkept.request, hkept.tarball, hkept.signature, ?_, hkept.staging,
    .inr (.inl hmoved)⟩, hmoved⟩
  simp [Scene.movedAside]

/-! ## The swap -/

theorem fulfils_writeExecutable (hpending : scene.Pending disk) :
    (writeExecutable .swapStaging scene.new).Fulfils exec
      (scene.contract fun result after => result = .ok () ∧
        scene.Pending after ∧ after .swapStaging = .file scene.new) disk := by
  have hcreate : perform (.create .swapStaging) disk =
      (.ok (), update disk .swapStaging (.file [])) := by
    simp only [perform]
    split
    · exact absurd ‹_› hpending.1.staging
    · rfl
  have hwrite : perform (.writeAll .swapStaging scene.new) (update disk .swapStaging (.file [])) =
        (.ok (), update disk .swapStaging (.file scene.new)) := by
    simp [perform]
  have hpermissions : perform (.setPermissions .swapStaging)
      (update disk .swapStaging (.file scene.new)) =
        (.ok (), update disk .swapStaging (.file scene.new)) := by
    simp [perform]
  have hcreated := hpending.update_staging []
  have hwritten := hpending.update_staging scene.new
  apply fulfils_call hcreate (by simp [Op.cleanup]) (hpending.follows hcreated.1)
  apply fulfils_call hwrite (by simp [Op.cleanup]) (hcreated.follows hwritten.1)
  apply fulfils_call hpermissions (by simp [Op.cleanup]) (hwritten.follows hwritten.1)
  exact ⟨rfl, hwritten, by simp⟩

/-- The new binary is about to be moved into place. -/
def Ready (scene : Scene releases) (disk : Disk Path UInt8) : Prop :=
  scene.Kept disk ∧ scene.Moved disk ∧ disk .swapStaging = .file scene.new

/-- Moving the live binary aside, once nothing is in its way. -/
theorem fulfils_renameLive (hkept : scene.Kept disk) (hwaiting : scene.Waiting disk)
    (hstaging : disk .swapStaging = .file scene.new) : (rename .liveBinary .oldBinary).Fulfils exec
      (scene.contract fun result after => result = .ok () ∧ scene.Ready after) disk := by
  have hpending : scene.Pending disk := ⟨hkept, .inl hwaiting⟩
  have hmoved := hkept.movedAside hwaiting
  exact fulfils_call (perform_rename_file hwaiting.1 hkept.old)
    (by simp [Op.cleanup]) (hpending.follows hmoved.1)
    ⟨rfl, hmoved.1, hmoved.2, hstaging⟩

theorem fulfils_preserveLive (hpending : scene.Pending disk)
    (hstaging : disk .swapStaging = .file scene.new) : preserveLive.Fulfils exec
      (scene.contract fun result after => result = .ok () ∧ scene.Ready after) disk := by
  have hkept := hpending.1
  apply fulfils_call (perform_pathExists _) (by simp [Op.cleanup]) (hpending.follows hkept)
  cases hpending.2 with
  | inr hmoved =>
    simp only [hmoved.1]
    exact ⟨rfl, hkept, hmoved, hstaging⟩
  | inl hwaiting =>
    simp only [hwaiting.1]
    apply fulfils_call (perform_pathExists _) (by simp [Op.cleanup]) (hpending.follows hkept)
    cases hold : disk .oldBinary with
    | other => exact absurd hold hkept.old
    | missing => exact fulfils_renameLive hkept hwaiting hstaging
    | file bytes =>
      have hremove : perform (.remove .oldBinary) disk =
          (.ok (), update disk .oldBinary .missing) := by
        simp [perform, hold]
      have hremoved : scene.Kept (update disk .oldBinary .missing) :=
        ⟨hkept.request, hkept.tarball, hkept.signature, by simp, hkept.staging, .inl hwaiting⟩
      apply fulfils_call hremove (by simp [Op.cleanup]) (hpending.follows hremoved)
      exact fulfils_renameLive hremoved hwaiting hstaging

theorem fulfils_renameStaging (hready : scene.Ready disk) :
    (rename .swapStaging .liveBinary).Fulfils exec
      (scene.contract fun result after => result = .ok () ∧
        scene.Kept after ∧ scene.Swapped after) disk := by
  obtain ⟨hkept, hmoved, hstaging⟩ := hready
  have hpending : scene.Pending disk := ⟨hkept, .inr hmoved⟩
  have hswapped : scene.Swapped (update (update disk .swapStaging .missing) .liveBinary
        (.file scene.new)) :=
    ⟨rfl, hmoved.2.1⟩
  have hafter : scene.Kept (update (update disk .swapStaging .missing) .liveBinary
        (.file scene.new)) :=
    ⟨hkept.request, hkept.tarball, hkept.signature, hkept.old, by simp, .inr (.inr hswapped)⟩
  have hfree : disk .liveBinary ≠ .other := by simp [hmoved.1]
  exact fulfils_call (perform_rename_file hstaging hfree)
    (by simp [Op.cleanup]) (hpending.follows hafter) ⟨rfl, hafter, hswapped⟩

/-- The removals at the end leave the binaries alone, whether or not they
succeed. -/
theorem Kept.cleanup {op : Op} {fault : Option ℕ} {answer : Answer op} (hop : Op.cleanup op)
    (hkept : scene.Kept disk) (hswapped : scene.Swapped disk)
    (hexec : exec fault op disk = some (answer, after)) :
    scene.Kept after ∧ scene.Swapped after := by
  have hsame : ∀ path, path ≠ .pendingTarball ∧ path ≠ .pendingSignature →
      after path = disk path := by
    intro path hpath
    apply exec_of_notMem_touches hexec
    rcases hop with rfl | rfl
    · simpa [FileOp.touches] using hpath.1
    · simpa [FileOp.touches] using hpath.2
  have hstaged : ∀ path content, (disk path = .missing ∨ disk path = .file content) →
        after path = .missing ∨ after path = .file content := by
    intro path content hpath
    have hshuffles : op.Shuffles (· = path) := by rcases hop with rfl | rfl <;> trivial
    let staged (entry : Entry UInt8) : Prop := entry = .missing ∨ entry = .file content
    have hmissing : staged .missing := .inl rfl
    exact exec_of_shuffles hexec hshuffles hmissing (fun _ heq => heq ▸ hpath) path rfl
  have hswapped' : scene.Swapped after :=
    ⟨(hsame _ (by decide)).trans hswapped.1, (hsame _ (by decide)).trans hswapped.2⟩
  exact ⟨{
    request := (hsame _ (by decide)).trans hkept.request
    tarball := hstaged _ _ hkept.tarball
    signature := hstaged _ _ hkept.signature
    old := hsame .oldBinary (by decide) ▸ hkept.old
    staging := hsame .swapStaging (by decide) ▸ hkept.staging
    progress := .inr (.inr hswapped') }, hswapped'⟩

theorem fulfils_performSwap (hpending : scene.Pending disk) :
    (performSwap releases scene.tarball).Fulfils exec
      (scene.contract fun _ => scene.Swapped) disk := by
  simp only [performSwap, scene.extracted]
  refine fulfils_bind (fulfils_writeExecutable hpending) ?_
  intro written hwritten
  refine fulfils_bind (fulfils_preserveLive hwritten.1 hwritten.2) ?_
  intro aside hready
  refine fulfils_bind (fulfils_renameStaging hready) ?_
  intro swapped hswapped
  refine Fulfils.of_performs (fun after => scene.Kept after ∧ scene.Swapped after) ?_
    (fun op (hop : Op.cleanup op) => ?_) (fun _ _ hafter => hafter.2)
    ((performs_discard (.inl rfl)).bind fun _ => performs_discard (.inr rfl)) hswapped
  · intro before after hbefore hrely
    exact hrely ▸ hbefore
  · intro fault before answer after hbefore hexec
    have hafter := hbefore.1.cleanup hop hbefore.2 hexec
    exact ⟨⟨hafter.1, fun _ => hafter.2⟩, hafter⟩

/-! ## A run -/

theorem fulfils_readArtifacts (hkept : scene.Kept disk) : readArtifacts.Fulfils exec
      (scene.contract fun result after =>
        result = .ok (if scene.Paired disk then
          some (scene.tarball, scene.signature) else none) ∧
          after = disk) disk := by
  have hstays : scene.Follows disk disk := ⟨hkept, id⟩
  cases hkept.signature with
  | inl hmissing =>
    have hread : perform (.read .pendingSignature) disk = (.error .notFound, disk) := by
      simp [perform, hmissing]
    apply fulfils_call hread (by simp [Op.cleanup]) hstays
    exact ⟨by simp [Paired, hmissing], rfl⟩
  | inr hsignature =>
    have hread : perform (.read .pendingSignature) disk = (.ok scene.signature, disk) := by
      simp [perform, hsignature]
    apply fulfils_call hread (by simp [Op.cleanup]) hstays
    cases hkept.tarball with
    | inl hmissing =>
      have hread : perform (.read .pendingTarball) disk = (.error .notFound, disk) := by
        simp [perform, hmissing]
      apply fulfils_call hread (by simp [Op.cleanup]) hstays
      exact ⟨by simp [Paired, hmissing], rfl⟩
    | inr htarball =>
      have hread : perform (.read .pendingTarball) disk = (.ok scene.tarball, disk) := by
        simp [perform, htarball]
      apply fulfils_call hread (by simp [Op.cleanup]) hstays
      exact ⟨by simp [Paired, hsignature, htarball], rfl⟩

/-- A runner that does not find the release staged beside its own binary ends
with the new binary live and the old one kept. -/
theorem fulfils_swapRun (hkept : scene.Kept disk)
    (hfresh : ¬ (scene.Swapped disk ∧ scene.Paired disk)) :
    (swapRun releases).Fulfils exec (scene.contract fun _ => scene.Swapped) disk := by
  have hnote : perform (.pathExists .rollbackRequest) disk = (false, disk) := by
    simp [perform, hkept.request]
  have hasked : (pathExists .rollbackRequest).Fulfils exec
      (scene.contract fun result after => result = .ok false ∧ after = disk)
      disk :=
    fulfils_call hnote (by simp [Op.cleanup]) ⟨hkept, id⟩ ⟨rfl, rfl⟩
  have hread : (readArtifacts.attempt : Action _).Fulfils exec (scene.contract fun result after =>
        result = .ok (.ok (if scene.Paired disk then
          some (scene.tarball, scene.signature) else none)) ∧
          after = disk) disk :=
    Fulfils.attempt ((fulfils_readArtifacts hkept).mono
      fun _ _ hpost => ⟨congrArg Except.ok hpost.1, hpost.2⟩)
  apply fulfils_bind hasked
  rintro asked rfl
  apply fulfils_bind hread
  rintro after rfl
  by_cases hpaired : scene.Paired after
  · have hpending : scene.Pending after := by
      refine ⟨hkept, ?_⟩
      rcases hkept.progress with hwaiting | hmoved | hswapped
      · exact .inl hwaiting
      · exact .inr hmoved
      · exact absurd ⟨hswapped, hpaired⟩ hfresh
    simp only [hpaired, if_true, scene.verified]
    refine Fulfils.bind (fun _ => scene.Swapped) (Fulfils.attempt
      (fulfils_performSwap hpending)) ?_ (fun _ _ => id)
    intro result swapped hswapped
    cases result <;> exact hswapped
  · simp only [hpaired, if_false]
    rcases hkept.progress with hwaiting | hmoved | hswapped
    · exact absurd hwaiting.2 hpaired
    · exact absurd hmoved.2.2 hpaired
    · exact hswapped

/-! ## Runs -/

/-- Runners come one after another, each may be cut off anywhere, only the
removals at the end may fail, and none starts while the new binary is live and
the release still staged. -/
def Orderly (scene : Scene releases) (host : Host) : Label → Prop
  | .start _ request => request = .run ∧ ¬ (scene.Swapped host.store ∧ scene.Paired host.store)
  | .step call fault => fault = none ∨ ∃ op ∈ host.pendingOp call, Op.cleanup op
  | .crash _ => True
  | .tamper .. => False

instance (host : Host) (label : Label) : Decidable (scene.Orderly host label) :=
  match label with
  | .start .. => inferInstanceAs (Decidable (_ ∧ _))
  | .step call fault => inferInstanceAs (Decidable (fault = none ∨
      ∃ op, host.pendingOp call = some op ∧ (op = _ ∨ op = _)))
  | .crash _ => inferInstanceAs (Decidable True)
  | .tamper .. => inferInstanceAs (Decidable False)

/-- Between two steps: nothing but one runner, and once a runner has returned
the new binary is live beside the old one. -/
structure Safe (scene : Scene releases) (host : Host) : Prop where
  sound : host.Sound exec fun _ => scene.contract fun _ => scene.Swapped
  running : ∀ call request program, host.calls.get call = some (request, program) → request = .run
  compatible : host.Compatible Request.Compatible
  kept : scene.Kept host.store
  returned : host.returned ≠ [] → scene.Swapped host.store

/-- The runner goes on with `program`, or is over. -/
theorem Safe.settle {host : Host} {call : ℕ} {program : Action Response}
    {store : Disk Path UInt8} (hsafe : scene.Safe host)
    (halone : ∀ other active, other ≠ call → host.calls.get other ≠ some active)
    (hcompatible : (host.settle call .run store program).Compatible Request.Compatible)
    (hprogram : program.Fulfils exec (scene.contract fun _ => scene.Swapped) store)
    (hfollows : scene.Follows host.store store) :
    scene.Safe (host.settle call .run store program) where
  sound := hsafe.sound.settle (fun _ _ _ _ hfirst hsecond => hsecond.trans hfirst) hprogram
    fun other active hne hother => absurd hother (halone other active hne)
  running := by
    intro other request left hcall
    cases Pool.settle_calls hcall with
    | inl hself => exact congrArg Prod.fst hself.2
    | inr hother => exact hsafe.running other request left hother.2
  compatible := hcompatible
  kept := Pool.settle_store ▸ hfollows.1
  returned := by
    cases program with
    | done result => exact fun _ => hprogram
    | call op next =>
      intro hreturned
      exact hfollows.2 (hsafe.returned hreturned)

theorem Safe.next {host final : Host} {label : Label}
    (hsafe : scene.Safe host) (horderly : scene.Orderly host label)
    (hnext : Update.next releases host label = some final) : scene.Safe final := by
  cases label with
  | start call request =>
    obtain ⟨rfl, hfresh⟩ := horderly
    simp only [Update.next] at hnext
    split at hnext
    case isFalse => cases hnext
    rename_i hfree
    obtain ⟨-, rfl⟩ := Pool.start_eq_some.mp hnext
    have hnone : ∀ other active, host.calls.get other ≠ some active := by
      intro other active hother
      have hrequest := hsafe.running other _ _ hother
      have hmem := Pool.mem_requests.mpr ⟨other, active.2, hother⟩
      simp [Host.free, ← hrequest, hmem] at hfree
    refine hsafe.settle (fun other active _ => hnone other active)
      (hsafe.compatible.start (host.compatible_of_free hfree)) ?_
      ⟨hsafe.kept, id⟩
    exact Fulfils.bind (fun _ => scene.Swapped) (fulfils_swapRun hsafe.kept hfresh) (fun _ _ => id)
      fun _ _ => id
  | step call fault =>
    have hadmits : ∀ request op left,
        host.calls.get call = some (request, .call op left) → fault = none ∨ Op.cleanup op := by
      intro request op left hcall
      simpa [Orderly, Host.pendingOp, hcall] using horderly
    obtain ⟨request, op, left, answer, store, hcall, -, hfollows, hleft,
      rfl⟩ := hsafe.sound.step_cases (fun _ _ => rfl) hadmits hnext
    obtain rfl := hsafe.running call request _ hcall
    refine hsafe.settle ?_ (hsafe.compatible.settle hcall) hleft hfollows
    intro other active hne hother
    exact hsafe.compatible other call _ _ _ _ hne hother hcall (hsafe.running other _ _ hother)
      (hsafe.running call _ _ hcall)
  | crash call =>
    cases hnext
    refine ⟨hsafe.sound.abort, ?_, hsafe.compatible.abort, hsafe.kept, hsafe.returned⟩
    intro other request program hcall
    exact hsafe.running other request program (HashMap.get_remove_eq_some.mp hcall).2
  | tamper path entry => exact horderly.elim

end Scene

/-- A verified release is staged, the old binary is live and no rollback is
asked for; runners are cut off anywhere and started again, as long as none
starts with the new binary live and the release still staged.  Once one of them
has returned, the new binary is live and the old one is kept. -/
theorem swap_keeps_way_back {releases : Releases} (scene : Scene releases)
    {initial : Disk Path UInt8} {labels : List Label} {final : Host}
    (hwaiting : scene.Waiting initial) (hrequest : initial .rollbackRequest = .missing)
    (hold : initial .oldBinary ≠ .other) (hstaging : initial .swapStaging ≠ .other)
    (horderly : Meets (next releases) scene.Orderly (.idle initial) labels)
    (hrun : run (next releases) (.idle initial) labels = some final)
    (hreturned : final.returned ≠ []) :
    final.store .liveBinary = .file scene.new ∧ final.store .oldBinary = .file scene.live := by
  have hkept : scene.Kept initial :=
    { request := hrequest
      tarball := .inr hwaiting.2.1
      signature := .inr hwaiting.2.2
      old := hold
      staging := hstaging
      progress := .inl hwaiting }
  have hidle : scene.Safe (.idle initial) :=
    { sound := Pool.Sound.idle initial
      running := by
        intro call request program hcall
        simp [Pool.idle] at hcall
      compatible := by
        intro call _ _ _ _ _ _ hcall
        simp [Pool.idle] at hcall
      kept := hkept
      returned := fun hne => absurd rfl hne }
  have hfinal : scene.Safe final := run_invariant_of_meets
    (fun _ _ _ hsafe horderly hnext => hsafe.next horderly hnext)
    hidle horderly hrun
  exact hfinal.returned hreturned

/-- The release of `stagedHost` and the binary it replaces. -/
def sampleScene : Scene sampleReleases where
  live := [7]
  new := [9]
  different := by decide
  tarball := [9]
  signature := [1]
  verified := by decide
  extracted := by decide +kernel

/-- The first runner is cut off with the live binary moved aside; the second
one swaps, and one of its removals fails. -/
def cutOffAside : List Label :=
  .start 0 .run :: List.replicate 9 (.step 0 none) ++ .crash 0 ::
    .start 1 .run :: List.replicate 8 (.step 1 none) ++
      [.step 1 (some 0), .step 1 none, .start 2 .run, .step 2 none, .step 2 none]

theorem swap_keeps_way_back_cutOffAside :
    ∃ final, run (next sampleReleases) (.idle stagedHost) cutOffAside = some final ∧
      final.returned.length = 2 ∧
      final.store .liveBinary = .file [9] ∧ final.store .oldBinary = .file [7] :=
  ⟨_, rfl, by decide +kernel,
    @swap_keeps_way_back _ sampleScene stagedHost cutOffAside _
      ⟨rfl, rfl, rfl⟩ rfl (by decide) (by decide)
      (by decide +kernel) rfl (by decide +kernel)⟩

/-- The first runner is cut off with the new binary in place. -/
def cutOffInPlace : List Label :=
  .start 0 .run :: List.replicate 10 (.step 0 none) ++ .crash 0 ::
    .start 1 .run :: List.replicate 13 (.step 1 none)

/-- A runner that is cut off between moving the new binary into place and
removing the staged release swaps again at the next boot: the previous binary
is then the new one too. -/
theorem swap_loses_way_back : ∃ final ∈ run (next sampleReleases) (.idle stagedHost) cutOffInPlace,
      final.returned = [(.run, .ok (.outcome .swapped))] ∧ final.store .liveBinary = .file [9] ∧
          final.store .oldBinary = .file [9] := by
  decide +kernel

end Wardnet.Update
