import Mathlib.Logic.Function.Basic
import Wardnet.Common.Text
import Wardnet.Core.Transition

/-!
# The record of an update

An install that has staged a release leaves a marker, and the next daemon
compares it with the version it is.  The staged files, the marker, the history
and the record of the applied version are written one after the other, so a
crash may separate any two of them.
-/

namespace Wardnet.Update.Outcome

open Transition

inductive UpdateHistoryStatus
  | started
  | succeeded
  | failed
  deriving DecidableEq

structure UpdateHistoryRow where
  fromVersion : Text
  toVersion : Text
  phase : String
  status : UpdateHistoryStatus
  error : Option String
  deriving DecidableEq

/-- The settings that an update writes; an empty one is unset. -/
inductive Key
  | previousBinaryPath
  | pendingVersion
  | lastInstallAt
  | appliedVersion
  | appliedAt
  deriving DecidableEq

structure Box where
  live : Text
  staged : Option Text
  config : Key → Text
  /-- A row is known by its place. -/
  history : List UpdateHistoryRow

inductive Write
  | set (key : Key) (value : Text)
  | insert (row : UpdateHistoryRow)
  | finalize (id : ℕ) (status : UpdateHistoryStatus) (phase : String) (error : Option String)

def Box.write (box : Box) : Write → Box
  | .set key value => { box with config := Function.update box.config key value }
  | .insert row => { box with history := box.history ++ [row] }
  | .finalize id status phase error =>
    { box with
      history := box.history.modify id fun row =>
        { row with status := status, phase := phase, error := error } }

/-- What `run_install` writes after `apply`; `id` is the row of the attempt. -/
def installWrites (id : ℕ) (target previous now : Text) : List Write :=
  [.set .previousBinaryPath previous, .set .pendingVersion target, .set .lastInstallAt now,
    .finalize id .succeeded "restart_pending" none]

/-- `run_install` staged the release and crashed after some of its writes. -/
def Box.crashInstall (box : Box) (target previous now : Text) (writes : ℕ) : Box :=
  ((installWrites box.history.length target previous now).take writes).foldl Box.write
    { box with
      staged := target
      history := box.history ++ [⟨box.live, target, "started", .started, none⟩] }

/-- What `reconcile_pending_install` writes. -/
def Box.reconcileWrites (box : Box) (now : Text) : List Write :=
  let pending := box.config .pendingVersion
  if pending = [] then []
  else if pending = box.live then
    [.set .appliedVersion box.live, .set .appliedAt now, .set .pendingVersion []]
  else
    let reason := "update to " ++ String.ofList pending ++ " did not take effect; running " ++
      String.ofList box.live
    [.insert ⟨box.live, pending, "restart_pending", .started, none⟩,
      .finalize box.history.length .failed "restart_pending" reason, .set .pendingVersion []]

/-- A boot: whether the runner swaps the staged binary, the time, and the
number of writes after which the daemon crashes, if it does. -/
structure Boot where
  swaps : Bool
  now : Text
  crash : Option ℕ

def Box.swap (box : Box) (swaps : Bool) : Box :=
  match swaps, box.staged with
  | true, some version => { box with live := version, staged := none }
  | _, _ => box

def Box.boot (box : Box) (boot : Boot) : Option Box :=
  let box := box.swap boot.swaps
  let writes := box.reconcileWrites boot.now
  match boot.crash with
  | none => some (writes.foldl Box.write box)
  | some count =>
    if count < writes.length then some ((writes.take count).foldl Box.write box) else none

/-- The failures recorded for the attempts to update to a version. -/
def failures (target : Text) (history : List UpdateHistoryRow) : ℕ :=
  history.countP fun row =>
    row.toVersion = target ∧ row.phase = "restart_pending" ∧ row.status = .failed

/-- No crash falls between the record of a failure and the removal of the
marker. -/
def Cleared (box : Box) (boot : Boot) : Prop :=
  boot.crash = some 2 → (box.swap boot.swaps).live = box.config .pendingVersion

instance (box : Box) (boot : Boot) : Decidable (Cleared box boot) := by
  delta Cleared
  infer_instance

/-! ## Crashed boots and the last one -/

variable {box after : Box} {boot : Boot} {target : Text} {count : ℕ}

/-- The install is still to be reconciled. -/
structure Owed (target : Text) (count : ℕ) (box : Box) : Prop where
  pending : box.config .pendingVersion = target
  failures : failures target box.history = count

theorem modify_length {Row : Type*} (rows : List Row) (row : Row) (change : Row → Row) :
    (rows ++ [row]).modify rows.length change = rows ++ [change row] := by
  simp [List.modify_eq_take_drop]

theorem Owed.install {previous now : Text} {writes : ℕ} (hwrites : 2 ≤ writes) :
    Owed target (Outcome.failures target box.history)
      (box.crashInstall target previous now writes) := by
  obtain ⟨more, rfl⟩ := Nat.exists_eq_add_of_le' hwrites
  rcases more with - | - | more <;> constructor <;>
    simp [Box.crashInstall, installWrites, Box.write, Outcome.failures, modify_length]

/-- The runner touches neither the settings nor the history. -/
theorem Owed.swap (howed : Owed target count box) (swaps : Bool) :
    Owed target count (box.swap swaps) := by
  unfold Box.swap
  split
  · exact ⟨howed.pending, howed.failures⟩
  · exact howed

theorem Owed.crash (htarget : target ≠ []) (hcrash : boot.crash.isSome)
    (howed : Owed target count box) (hcleared : Cleared box boot)
    (hboot : box.boot boot = some after) : Owed target count after := by
  obtain ⟨writes, hcrash⟩ := Option.isSome_iff_exists.mp hcrash
  simp only [Box.boot, hcrash] at hboot
  obtain ⟨hlength, ⟨⟩⟩ := Option.ite_none_right_eq_some.mp hboot
  simp only [Cleared, howed.pending, hcrash, Option.some.injEq] at hcleared
  obtain ⟨hpending, hfailures⟩ := howed.swap boot.swaps
  simp only [Box.reconcileWrites, hpending, htarget, if_false] at hlength ⊢
  have hthree : writes < 3 := by
    split at hlength <;> exact hlength
  rcases writes with - | - | - | writes
  · exact ⟨hpending, hfailures⟩
  · split
    · exact ⟨by simpa [Box.write] using hpending, hfailures⟩
    · exact ⟨hpending, by simpa [Box.write, Outcome.failures] using hfailures⟩
  · rw [if_pos (hcleared rfl).symm]
    exact ⟨by simpa [Box.write] using hpending, hfailures⟩
  · omega

/-- After the first boot that is not cut off, the marker is gone, and the
update is recorded as applied or, once, as failed. -/
theorem outcome_is_recorded_once {previous now : Text} {writes : ℕ} {final : Box}
    (boots : List Boot) (last : Boot) (htarget : target ≠ []) (hwrites : 2 ≤ writes)
    (hcrashed : ∀ boot ∈ boots, boot.crash.isSome) (hlast : last.crash = none)
    (hcleared : Meets Box.boot Cleared (box.crashInstall target previous now writes) boots)
    (hrun : run Box.boot (box.crashInstall target previous now writes) (boots ++ [last]) =
      some final) : final.config .pendingVersion = [] ∧
      (final.live = target → final.config .appliedVersion = target) ∧ (final.live ≠ target →
          failures target final.history = failures target box.history + 1) := by
  simp only [run_append, Option.bind_eq_some_iff] at hrun
  obtain ⟨crashed, hrun, hlastRun⟩ := hrun
  have howed := run_invariant_of_meets
    (fun _ _ _ howed hcond hboot => Owed.crash htarget hcond.1 howed hcond.2 hboot)
    (Owed.install hwrites) (meets_and.mpr ⟨meets_of_forall hcrashed _, hcleared⟩) hrun
  obtain ⟨_, hboot, ⟨⟩⟩ := run_cons_eq_some.mp hlastRun
  simp only [Box.boot, hlast, Option.some.injEq] at hboot
  obtain ⟨hpending, hfailures⟩ := howed.swap last.swaps
  simp only [Box.reconcileWrites, hpending, htarget, if_false] at hboot
  subst hboot
  split
  · next hlive => simp [Box.write, hlive]
  · next hlive =>
    simpa [Box.write, Outcome.failures, modify_length, Ne.symm hlive] using hfailures

/-- A box on version 1 before its first update. -/
def fresh : Box := ⟨['1'], none, fun _ => [], []⟩

/-- The runner fails to swap, and the daemon is cut off before it records that. -/
theorem outcome_is_recorded_once_refused : ∃ final, run Box.boot (fresh.crashInstall ['2'] [] [] 4)
        [⟨false, [], some 1⟩, ⟨false, [], none⟩] = some final ∧
      final.live ≠ ['2'] ∧ failures ['2'] final.history = 1 := by
  have hcleared : Meets Box.boot Cleared (fresh.crashInstall ['2'] [] [] 4)
      [⟨false, [], some 1⟩] := by decide
  have hrecorded := outcome_is_recorded_once _ ⟨false, [], none⟩ (by decide) (by decide)
    (by decide) rfl hcleared rfl
  exact ⟨_, rfl, by decide, hrecorded.2.2 (by decide)⟩

/-- The daemon runs the staged version without a record of it after a crash
before the marker, and a failure is recorded twice after one behind it. -/
theorem outcome_is_lost_or_repeated :
    (∃ final, run Box.boot (fresh.crashInstall ['2'] [] [] 1) [⟨true, [], none⟩] = some final ∧
      final.live = ['2'] ∧ final.config .appliedVersion = []) ∧
    (∃ final, run Box.boot (fresh.crashInstall ['2'] [] [] 4)
        [⟨false, [], some 2⟩, ⟨false, [], none⟩] = some final ∧
      final.live ≠ ['2'] ∧ failures ['2'] final.history = 2) :=
  ⟨⟨_, rfl, rfl, rfl⟩, _, rfl, by decide, by decide⟩

end Wardnet.Update.Outcome
