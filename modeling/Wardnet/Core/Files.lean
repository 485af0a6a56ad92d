import Mathlib.Logic.Function.Basic
import Mathlib.Data.List.Basic
import Wardnet.Core.Program

/-!
# File operations

A disk maps paths to what is there.  Each operation is one system call: it
succeeds or fails as the disk says, or it fails for a reason of its own, in
which case a write may have got through in part.  Renaming is atomic.  What an
operation has done is on the disk at once; that a cache may lose it is not
modelled.
-/

namespace Wardnet.Files

open Function Option

inductive IoError
  | notFound
  | failed
  deriving DecidableEq

/-- What is at a path; `other` is anything but a regular file. -/
inductive Entry (Byte : Type)
  | missing
  | file (bytes : List Byte)
  | other
  deriving DecidableEq

abbrev Disk (Path Byte : Type) : Type := Path → Entry Byte

inductive FileOp (Path Byte : Type)
  | pathExists (path : Path)
  | read (path : Path)
  | create (path : Path)
  | writeAll (path : Path) (bytes : List Byte)
  | setPermissions (path : Path)
  | remove (path : Path)
  | rename (source target : Path)
  | createDirAll
  deriving DecidableEq

variable {Path Byte : Type}

@[reducible]
def Answer : FileOp Path Byte → Type
  | .pathExists _ => Bool
  | .read _ => Except IoError (List Byte)
  | _ => Except IoError Unit

/-- Whether an entry can be moved over another one. -/
def Entry.movesOver : Entry Byte → Entry Byte → Bool
  | _, .other => false
  | .other, .file _ => false
  | _, _ => true

section

variable [DecidableEq Path]

/-- What an operation answers and leaves when nothing goes wrong. -/
def perform (op : FileOp Path Byte) (disk : Disk Path Byte) : Answer op × Disk Path Byte :=
  match op with
  | .pathExists path =>
    match disk path with
    | .missing => (false, disk)
    | _ => (true, disk)
  | .read path =>
    match disk path with
    | .missing => (.error .notFound, disk)
    | .file bytes => (.ok bytes, disk)
    | .other => (.error .failed, disk)
  | .create path =>
    match disk path with
    | .other => (.error .failed, disk)
    | _ => (.ok (), update disk path (.file []))
  | .writeAll path bytes =>
    match disk path with
    | .file _ => (.ok (), update disk path (.file bytes))
    | _ => (.ok (), disk)
  | .setPermissions path =>
    match disk path with
    | .missing => (.error .notFound, disk)
    | _ => (.ok (), disk)
  | .remove path =>
    match disk path with
    | .missing => (.error .notFound, disk)
    | .file _ => (.ok (), update disk path .missing)
    | .other => (.error .failed, disk)
  | .rename source target =>
    match disk source with
    | .missing => (.error .notFound, disk)
    | entry =>
      if entry.movesOver (disk target) then
        (.ok (), update (update disk source .missing) target entry)
      else (.error .failed, disk)
  | .createDirAll => (.ok (), disk)

/-- An operation that fails for a reason of its own; a write has then got
through up to `written`, and a test finds nothing. -/
def failure (written : ℕ) (op : FileOp Path Byte) (disk : Disk Path Byte) :
    Answer op × Disk Path Byte :=
  match op with
  | .pathExists _ => (false, disk)
  | .read _ => (.error .failed, disk)
  | .writeAll path bytes =>
    match disk path with
    | .file _ => (.error .failed, update disk path (.file (bytes.take written)))
    | _ => (.error .failed, disk)
  | .create _ | .setPermissions _ | .remove _ | .rename .. | .createDirAll => (.error .failed, disk)

def exec (fault : Option ℕ) (op : FileOp Path Byte) (disk : Disk Path Byte) :
    Option (Answer op × Disk Path Byte) :=
  some (match fault with
    | none => perform op disk
    | some written => failure written op disk)

end

/-- What may be at a path after an operation. -/
inductive Change (op : FileOp Path Byte) (disk : Disk Path Byte)
    (path : Path) : Entry Byte → Prop
  | kept : Change op disk path (disk path)
  | created (hop : op = .create path) : Change op disk path (.file [])
  | written (bytes : List Byte) (hop : op = .writeAll path bytes) :
      Change op disk path (.file bytes)
  | torn (bytes : List Byte) (written : ℕ) (hop : op = .writeAll path bytes) :
      Change op disk path (.file (bytes.take written))
  | removed (hop : op = .remove path) : Change op disk path .missing
  | movedAway (target : Path) (hop : op = .rename path target) : Change op disk path .missing
  | movedIn (source : Path) (hop : op = .rename source path) : Change op disk path (disk source)

section

variable [DecidableEq Path] {op : FileOp Path Byte} {fault : Option ℕ}
variable {disk after : Disk Path Byte} {answer : Answer op}

/-- Only the entry of one path is replaced. -/
theorem Change.update {wanted : Path} {entry : Entry Byte}
    (hentry : Change op disk wanted entry) (path : Path) :
    Change op disk path (update disk wanted entry path) := by
  by_cases hpath : path = wanted
  · subst hpath
    rw [update_self]
    exact hentry
  · rw [update_of_ne hpath]
    exact .kept

theorem change_perform (op : FileOp Path Byte) (disk : Disk Path Byte)
    (path : Path) : Change op disk path ((perform op disk).2 path) := by
  cases op with
  | pathExists | read | setPermissions =>
    simp only [perform]
    split <;> exact .kept
  | createDirAll => exact .kept
  | create wanted =>
    simp only [perform]
    split
    · exact .kept
    · exact (Change.created rfl).update path
  | writeAll wanted bytes =>
    simp only [perform]
    split
    · exact (Change.written bytes rfl).update path
    · exact .kept
  | remove wanted =>
    simp only [perform]
    split
    · exact .kept
    · exact (Change.removed rfl).update path
    · exact .kept
  | rename source target =>
    simp only [perform]
    split
    · exact .kept
    split
    · by_cases htarget : path = target
      · subst htarget
        simpa using Change.movedIn source rfl
      · simpa [htarget] using (Change.movedAway target rfl).update path
    · exact .kept

theorem change_exec (hexec : exec fault op disk = some (answer, after))
    (path : Path) : Change op disk path (after path) := by
  cases fault with
  | none =>
    have hafter : (perform op disk).2 = after := congrArg Prod.snd (some.inj hexec)
    exact hafter ▸ change_perform op disk path
  | some written =>
    have hafter : (failure written op disk).2 = after := congrArg Prod.snd (some.inj hexec)
    subst hafter
    cases op with
    | writeAll wanted bytes =>
      simp only [failure]
      split
      · exact (Change.torn bytes written rfl).update path
      · exact .kept
    | _ => exact .kept

/-! ## Every outcome -/

variable {path : Path} {bytes : List Byte}

theorem exec_read {answer : Except IoError (List Byte)}
    (hexec : exec fault (.read path) disk = some (answer, after)) :
    after = disk ∧ (∀ bytes, answer = .ok bytes → disk path = .file bytes) ∧
      (answer = .error .notFound → disk path = .missing) ∧
        (fault = none → ∀ bytes, disk path = .file bytes → answer = .ok bytes) := by
  cases fault with
  | some written =>
    cases hexec
    exact ⟨rfl, nofun, nofun, nofun⟩
  | none =>
    simp only [exec, perform] at hexec
    cases hpath : disk path with
    | missing | file | other =>
      rw [hpath] at hexec
      cases hexec
      simp

section Changes

variable {answer : Except IoError Unit}

theorem exec_create (hexec : exec fault (.create path) disk = some (answer, after)) :
    (answer = .ok () ∧ after = update disk path (.file [])) ∨
      (∃ kind, answer = .error kind) ∧ after = disk ∧ (fault = none → disk path = .other) := by
  cases fault with
  | some written =>
    cases hexec
    exact .inr ⟨⟨_, rfl⟩, rfl, nofun⟩
  | none =>
    simp only [exec, perform] at hexec
    split at hexec
    next hother =>
      cases hexec
      exact .inr ⟨⟨_, rfl⟩, rfl, fun _ => hother⟩
    · cases hexec
      exact .inl ⟨rfl, rfl⟩

theorem exec_writeAll {old : List Byte} (hfile : disk path = .file old)
    (hexec : exec fault (.writeAll path bytes) disk = some (answer, after)) :
    (answer = .ok () ∧ after = update disk path (.file bytes)) ∨
      (∃ kind, answer = .error kind) ∧ (∃ torn, after = update disk path (.file torn)) ∧
          fault ≠ none := by
  cases fault with
  | some written =>
    simp only [exec, failure, hfile] at hexec
    cases hexec
    exact .inr ⟨⟨_, rfl⟩, ⟨_, rfl⟩, nofun⟩
  | none =>
    simp only [exec, perform, hfile] at hexec
    cases hexec
    exact .inl ⟨rfl, rfl⟩

theorem exec_rename {source target : Path}
    (hexec : exec fault (.rename source target) disk = some (answer, after)) :
    (answer = .ok () ∧ disk source ≠ .missing ∧
      after = update (update disk source .missing) target (disk source)) ∨
      (∃ kind, answer = .error kind ∧ (kind = .notFound → disk source = .missing)) ∧ after = disk ∧
          (fault = none → ∀ bytes, disk source = .file bytes → disk target = .other) := by
  cases fault with
  | some written =>
    cases hexec
    exact .inr ⟨⟨_, rfl, nofun⟩, rfl, nofun⟩
  | none =>
    simp only [exec, perform] at hexec
    split at hexec
    next hmissing =>
      cases hexec
      exact .inr ⟨⟨_, rfl, fun _ => hmissing⟩, rfl, by simp [hmissing]⟩
    rename_i hfound
    split at hexec
    · cases hexec
      exact .inl ⟨rfl, hfound, rfl⟩
    next hover =>
      cases hexec
      refine .inr ⟨⟨_, rfl, nofun⟩, rfl, fun _ bytes hbytes => ?_⟩
      rw [hbytes] at hover
      cases htarget : disk target with
      | other => rfl
      | missing | file => simp [htarget, Entry.movesOver] at hover

end Changes

/-! ## What an answer shows -/

theorem exec_pathExists_of_missing {answer : Bool} (hmissing : disk path = .missing)
    (hexec : exec fault (.pathExists path) disk = some (answer, after)) : answer = false := by
  cases fault with
  | some written => exact (Prod.mk.inj (some.inj hexec)).1.symm
  | none =>
    simp only [exec, perform, hmissing] at hexec
    exact (Prod.mk.inj (some.inj hexec)).1.symm

theorem exec_read_of_missing (hmissing : disk path = .missing) :
    exec fault (.read path) disk ≠ some (.ok bytes, after) := by
  intro hexec
  cases hmissing.symm.trans ((exec_read hexec).2.1 bytes rfl)

/-- The paths whose entry an operation may change. -/
def FileOp.touches : FileOp Path Byte → List Path
  | .create path | .writeAll path _ | .remove path => [path]
  | .rename source target => [source, target]
  | _ => []

theorem exec_of_notMem_touches (hexec : exec fault op disk = some (answer, after))
    (hpath : path ∉ op.touches) : after path = disk path := by
  have hchange := change_exec hexec path
  generalize after path = entry at hchange ⊢
  cases hchange with
  | kept => rfl
  | created hop | written _ hop | torn _ _ hop | removed hop
  | movedAway _ hop | movedIn _ hop =>
    subst hop
    simp [FileOp.touches] at hpath

/-- The operation moves entries among the paths or takes them away, and puts
nothing else there. -/
def FileOp.Shuffles (paths : Path → Prop) : FileOp Path Byte → Prop
  | .create path | .writeAll path _ => ¬ paths path
  | .rename source target => paths target → paths source
  | _ => True

/-- A property of every entry on some paths, which a missing one has, survives
an operation that shuffles them. -/
theorem exec_of_shuffles {paths : Path → Prop} {property : Entry Byte → Prop}
    (hexec : exec fault op disk = some (answer, after))
    (hop : op.Shuffles paths) (hmissing : property .missing)
    (hdisk : ∀ path, paths path → property (disk path)) (path : Path)
    (hpath : paths path) : property (after path) := by
  have hchange := change_exec hexec path
  generalize after path = entry at hchange ⊢
  cases hchange with
  | kept => exact hdisk path hpath
  | created hcreate => subst hcreate; exact absurd hpath hop
  | written _ hwrite | torn _ _ hwrite => subst hwrite; exact absurd hpath hop
  | removed | movedAway => exact hmissing
  | movedIn source hrename => subst hrename; exact hdisk source (hop hpath)

end

end Wardnet.Files
