import Wardnet.Common.Text
import Wardnet.Core.Files
import Wardnet.Core.Pool
import Wardnet.Core.Transition

/-!
# The privileged swap of the daemon's binary

The daemon stages a signed release in a directory it may write to and leaves a
note when the operator wants the previous binary back.  At the next boot a
runner with root rights honours the note, or verifies the release and moves its
binary into place, keeping the previous one beside it.  The two programs share
nothing but the files.

Signatures, archives and the paths of the post-upgrade payload are not
modelled: whether a signature is accepted and what an archive contains are
parameters, and the daemon is the one without a post-upgrade directory.
-/

namespace Wardnet.Update

open Files

abbrev Bytes := List UInt8

/-- The files of both programs.  The daemon writes its files under a temporary
name first. -/
inductive Path
  | pendingTarball
  | pendingTarballTmp
  | pendingSignature
  | pendingSignatureTmp
  | rollbackRequest
  | rollbackRequestTmp
  | liveBinary
  | oldBinary
  | swapStaging
  deriving DecidableEq

/-- Whether the path is in the directory that only root writes to. -/
def Path.rootOwned : Path → Bool
  | .liveBinary | .oldBinary | .swapStaging => true
  | _ => false

/-! ## Archives -/

structure TarEntry where
  path : Text
  /-- `none` when the body cannot be read. -/
  body : Option Bytes
  deriving DecidableEq

def fileName (path : Text) : Option Text :=
  match ((path.splitOn '/').filter fun part => part ≠ [] ∧ part ≠ ['.']).getLast? with
  | some ['.', '.'] => none
  | last => last

/-- What the runner and the daemon know of releases. -/
structure Releases where
  /-- `verify` with the embedded public key. -/
  verify : Bytes → Bytes → Bool
  /-- The entries of an archive; `none` is one whose header cannot be read. -/
  entries : Bytes → List (Option TarEntry)

def pluckWardnetd : List (Option TarEntry) → Option Bytes
  | [] => none
  | none :: _ => none
  | some entry :: rest =>
    if (fileName entry.path).getD [] = "wardnetd".toList then entry.body
    else pluckWardnetd rest

def Releases.wardnetd (releases : Releases) (tarball : Bytes) : Option Bytes :=
  pluckWardnetd (releases.entries tarball)

/-! ## The runner -/

/-- The one kind of error of a filesystem step. -/
inductive Failure
  | failed
  deriving DecidableEq

abbrev Op := FileOp Path UInt8

abbrev Action (Result : Type) := Program Op Answer Failure Result

open Program (Performs fail)

def send (op : Op) : Action (Answer op) := Program.perform op

/-- The `?` after a filesystem step. -/
def orFail : Except IoError Unit → Action Unit
  | .ok () => pure ()
  | .error _ => fail .failed

def pathExists (path : Path) : Action Bool := send (.pathExists path)

def createFile (path : Path) : Action Unit := do
  orFail (← send (.create path))

def writeAll (path : Path) (bytes : Bytes) : Action Unit := do
  orFail (← send (.writeAll path bytes))

def setPermissions (path : Path) : Action Unit := do
  orFail (← send (.setPermissions path))

def removeFile (path : Path) : Action Unit := do
  orFail (← send (.remove path))

def rename (source target : Path) : Action Unit := do
  orFail (← send (.rename source target))

def createDirAll : Action Unit := do
  orFail (← send .createDirAll)

/-- `let _ = remove_file(path)`. -/
def discard (path : Path) : Action Unit := do
  let _ ← send (.remove path)
  pure ()

def readOptional (path : Path) : Action (Option Bytes) := do
  match ← send (.read path) with
  | .ok bytes => pure (some bytes)
  | .error .notFound => pure none
  | .error .failed => fail .failed

/-- `read_artifacts`, which reads the signature first. -/
def readArtifacts : Action (Option (Bytes × Bytes)) := do
  match ← readOptional .pendingSignature with
  | none => pure none
  | some signature =>
    match ← readOptional .pendingTarball with
    | none => pure none
    | some tarball => pure (some (tarball, signature))

def writeExecutable (path : Path) (bytes : Bytes) : Action Unit := do
  createFile path
  writeAll path bytes
  setPermissions path

/-- Keep the live binary as the previous one. -/
def preserveLive : Action Unit := do
  if ← pathExists .liveBinary then
    if ← pathExists .oldBinary then removeFile .oldBinary
    else pure ()
    rename .liveBinary .oldBinary
  else pure ()

def performSwap (releases : Releases) (tarball : Bytes) : Action Unit := do
  match releases.wardnetd tarball with
  | none => fail .failed
  | some bytes =>
    writeExecutable .swapStaging bytes
    preserveLive
    rename .swapStaging .liveBinary
    discard .pendingTarball
    discard .pendingSignature

/-- Put the previous binary back, if there is one. -/
def restoreOld : Action (Except Failure Unit) := do
  if ← pathExists .oldBinary then
    if ← pathExists .liveBinary then removeFile .liveBinary
    else pure ()
    (rename .oldBinary .liveBinary).attempt
  else pure (.ok ())

/-- `perform_rollback`: the request is cleared whether or not the last rename
went through. -/
def performRollback : Action Unit := do
  let result ← restoreOld
  discard .rollbackRequest
  Program.ofExcept result

inductive SwapOutcome
  | noOp
  | swapped
  | rolledBack
  | failed
  deriving DecidableEq

/-- The outcome of a part of `run` whose error makes the run fail. -/
def orFailed (outcome : SwapOutcome) (part : Action Unit) : Action SwapOutcome := do
  match ← part.attempt with
  | .ok () => pure outcome
  | .error _ => pure .failed

/-- `swap::run`. -/
def swapRun (releases : Releases) : Action SwapOutcome := do
  if ← pathExists .rollbackRequest then orFailed .rolledBack performRollback
  else
    match ← readArtifacts.attempt with
    | .error _ => pure .failed
    | .ok none => pure .noOp
    | .ok (some (tarball, signature)) =>
      if releases.verify tarball signature then orFailed .swapped (performSwap releases tarball)
      else pure .failed

/-! ## The daemon -/

def writeAtomic (temporary path : Path) (bytes : Bytes) : Action Unit := do
  createFile temporary
  writeAll temporary bytes
  rename temporary path

/-- The archive can be read to its end. -/
def Releases.readable (releases : Releases) (tarball : Bytes) : Bool :=
  (releases.entries tarball).all Option.isSome

def stagePending (releases : Releases) (tarball signature : Bytes) : Action Unit := do
  createDirAll
  if releases.readable tarball then
    writeAtomic .pendingTarballTmp .pendingTarball tarball
    writeAtomic .pendingSignatureTmp .pendingSignature signature
    discard .rollbackRequest
  else fail .failed

/-- `FsBinaryApplier::rollback`. -/
def requestRollback : Action Unit := do
  if ← pathExists .oldBinary then
    createDirAll
    writeAtomic .rollbackRequestTmp .rollbackRequest []
  else fail .failed

/-! ## Both together -/

inductive Request
  | run
  | apply (tarball signature : Bytes)
  | rollback
  deriving DecidableEq

inductive Response
  | outcome (outcome : SwapOutcome)
  | done
  deriving DecidableEq

def Request.program (releases : Releases) : Request → Action Response
  | .run => return .outcome (← swapRun releases)
  | .apply tarball signature => do
    stagePending releases tarball signature
    return .done
  | .rollback => do
    requestRollback
    return .done

abbrev Host := Pool Op Answer (Disk Path UInt8) Request Failure Response

/-- A program starts, takes its next filesystem step, perhaps with a fault, or
is cut off; or somebody without root rights changes a file. -/
inductive Label
  | start (call : ℕ) (request : Request)
  | step (call : ℕ) (fault : Option ℕ)
  | crash (call : ℕ)
  | tamper (path : Path) (entry : Entry UInt8)
  deriving DecidableEq

/-- The operation a call is about to take. -/
def Host.pendingOp (host : Host) (call : ℕ) : Option Op :=
  match host.calls.get call with
  | some (_, .call op _) => some op
  | _ => none

/-- The runner is started by the service manager, which runs one at a time. -/
def Host.free (host : Host) : Request → Bool
  | .run => .run ∉ host.requests
  | _ => true

def next (releases : Releases) (host : Host) : Label → Option Host
  | .start call request =>
    if host.free request then Pool.start host (Request.program releases) call request
    else none
  | .step call fault => Pool.step exec host call fault
  | .crash call => some (Pool.abort host call)
  | .tamper path entry =>
    if path.rootOwned then none
    else some { host with store := Function.update host.store path entry }

/-! ## What the programs consist of -/

section Performs

variable {allowed : Op → Prop}

theorem performs_orFail (answer : Except IoError Unit) : (orFail answer).Performs allowed := by
  cases answer <;> trivial

variable {path : Path}

theorem performs_pathExists (hop : allowed (.pathExists path)) :
    (pathExists path).Performs allowed :=
  ⟨hop, fun _ => trivial⟩

theorem performs_discard (hop : allowed (.remove path)) : (discard path).Performs allowed :=
  ⟨hop, fun _ => trivial⟩

theorem performs_rename {source target : Path} (hop : allowed (.rename source target)) :
    (rename source target).Performs allowed :=
  ⟨hop, performs_orFail⟩

theorem performs_removeFile (hop : allowed (.remove path)) : (removeFile path).Performs allowed :=
  ⟨hop, performs_orFail⟩

theorem performs_readArtifacts (hsignature : allowed (.read .pendingSignature))
    (htarball : allowed (.read .pendingTarball)) : readArtifacts.Performs allowed := by
  refine ⟨hsignature, fun answer => ?_⟩
  match answer with
  | .error .notFound | .error .failed => trivial
  | .ok signature =>
    refine ⟨htarball, fun answer => ?_⟩
    match answer with
    | .error .notFound | .error .failed | .ok _ => trivial

theorem performs_writeAtomic {temporary : Path} {bytes : Bytes}
    (hcreate : allowed (.create temporary)) (hwrite : allowed (.writeAll temporary bytes))
    (hrename : allowed (.rename temporary path)) :
    (writeAtomic temporary path bytes).Performs allowed := by
  refine Performs.bind ⟨hcreate, performs_orFail⟩ fun _ => ?_
  exact Performs.bind ⟨hwrite, performs_orFail⟩ fun _ => performs_rename hrename

theorem performs_requestRollback (hold : allowed (.pathExists .oldBinary))
    (hdir : allowed .createDirAll) (hcreate : allowed (.create .rollbackRequestTmp))
    (hwrite : allowed (.writeAll .rollbackRequestTmp []))
    (hrename : allowed (.rename .rollbackRequestTmp .rollbackRequest)) :
    requestRollback.Performs allowed := by
  refine (performs_pathExists hold).bind fun old => ?_
  split
  · exact Performs.bind ⟨hdir, performs_orFail⟩ fun _ => performs_writeAtomic hcreate hwrite hrename
  · trivial

end Performs

end Wardnet.Update
