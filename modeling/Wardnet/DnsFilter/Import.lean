import Mathlib.Data.List.Dedup
import Wardnet.Common.Text
import Wardnet.Core.Keyed
import Wardnet.Core.Transition

/-!
# Importing a blocklist

An import stores the domains of a blocklist under the generation after the one
that readers see, statement by statement, and then flips the list to it.  It
may end after any statement.  What it leaves behind no reader sees, and the
next import clears it.
-/

namespace Wardnet.Filter.Import

open List Transition

/-- A row that the blocklist has in `dns_filter_blocked_domains`; all of it is
the primary key. -/
structure Row where
  domain : Text
  generation : BitVec 64
  deriving DecidableEq

inductive DomainScope
  | all
  | generation (wanted : BitVec 64)
  | allExcept (kept : BitVec 64)

def DomainScope.covers : DomainScope → Row → Bool
  | .all, _ => true
  | .generation wanted, row => row.generation = wanted
  | .allExcept kept, row => row.generation ≠ kept

def importBatchRows : ℕ := 2000

def deleteBatchRows : ℕ := 2000

abbrev Rows := Keyed (id : Row → Row)

/-- The domains of a generation, in the order in which they were stored. -/
def domainsOf (rows : Rows) (generation : BitVec 64) : List Text :=
  (rows.rows.filter fun row => row.generation = generation).map Row.domain

/-- One pass of `delete_domains_in_batches`: how many rows it removes, and the
rows that are left. -/
def deleteBatch (rows : Rows) (scope : DomainScope) : ℕ × Rows :=
  let doomed := (rows.rows.filter scope.covers).take deleteBatchRows
  (doomed.length, rows.deleteWhere fun row => row ∈ doomed)

/-- The inserts of a batch are one transaction. -/
def insertBatch (rows : Rows) (generation : BitVec 64) (batch : List Text) : Option Rows :=
  batch.foldlM (fun rows domain => rows.insert ⟨domain, generation⟩) rows

/-- Where a call of `replace_blocklist_domains` stands: what it is about to do,
the domains it was given, those it stores and, while it writes, those that are
left. -/
inductive Stage
  | idle
  | clearing (next : BitVec 64) (given domains : List Text)
  | writing (next : BitVec 64) (given domains rest : List Text)
  | reclaiming (next : BitVec 64)

structure Blocklist where
  activeGeneration : BitVec 64
  entryCount : ℕ
  rows : Rows
  stage : Stage
  /-- The domains given to the last import that flipped the list. -/
  imported : List Text

def Blocklist.new : Blocklist := ⟨0, 0, .empty, .idle, []⟩

/-- `load_blocklist_domains`. -/
def Blocklist.load (list : Blocklist) : List Text := domainsOf list.rows list.activeGeneration

inductive Label
  | replace (domains : List Text)
  | statement
  /-- The call fails, or the daemon is killed. -/
  | stop

/-- The next statement of the call that runs. -/
def Blocklist.perform (list : Blocklist) : Stage → Option Blocklist
  | .idle => none
  | .clearing next given domains =>
    let (affected, rows) := deleteBatch list.rows (.generation next)
    some { list with
      rows := rows
      stage := if affected = 0 then .writing next given domains domains
        else .clearing next given domains }
  | .writing next given domains [] =>
    some { list with
      activeGeneration := next
      entryCount := domains.length
      stage := .reclaiming next
      imported := given }
  | .writing next given domains rest =>
    match insertBatch list.rows next (rest.take importBatchRows) with
    | none => some { list with stage := .idle }
    | some rows =>
      some { list with
        rows := rows
        stage := .writing next given domains (rest.drop importBatchRows) }
  | .reclaiming next =>
    let (affected, rows) := deleteBatch list.rows (.allExcept next)
    some { list with rows := rows, stage := if affected = 0 then .idle else .reclaiming next }

/-- A call stores each domain once, however often it is given. -/
def next (list : Blocklist) : Label → Option Blocklist
  | .replace domains =>
    match list.stage with
    | .idle =>
      some { list with
        stage := .clearing (list.activeGeneration + 1) domains domains.reverse.dedup.reverse }
    | _ => none
  | .statement => list.perform list.stage
  | .stop => some { list with stage := .idle }

/-! ## What a statement does to the rows -/

variable {rows after : Rows} {scope : DomainScope}

/-- Rows outside the scope stay. -/
theorem domainsOf_deleteBatch {generation : BitVec 64}
    (hscope : ∀ row, row.generation = generation → scope.covers row = false) :
    domainsOf (deleteBatch rows scope).2 generation = domainsOf rows generation := by
  simp only [domainsOf, deleteBatch, Keyed.deleteWhere, filter_filter]
  congr 1
  refine filter_congr fun row _ => ?_
  by_cases hrow : row.generation = generation
  · have hdoomed : row ∉ (rows.rows.filter scope.covers).take deleteBatchRows := fun hmem => by
      simpa [hscope row hrow] using mem_of_mem_take hmem
    simp [hdoomed]
  · simp [hrow]

/-- The last pass finds no row of the scope. -/
theorem covers_eq_false (hnone : (deleteBatch rows scope).1 = 0) {row : Row}
    (hrow : row ∈ (deleteBatch rows scope).2.rows) : scope.covers row = false := by
  have hempty : rows.rows.filter scope.covers = [] := by
    simpa [deleteBatch, deleteBatchRows] using hnone
  simpa using filter_eq_nil_iff.mp hempty row (mem_of_mem_filter hrow)

theorem domainsOf_insertBatch {written generation : BitVec 64} {batch : List Text}
    (hinsert : insertBatch rows written batch = some after) : domainsOf after generation =
      domainsOf rows generation ++ if written = generation then batch else [] := by
  induction batch generalizing rows with
  | nil => simp [← Option.some.inj hinsert]
  | cons domain batch ih =>
    obtain ⟨between, hbetween, hrest⟩ := Option.bind_eq_some_iff.mp hinsert
    rw [ih hrest, domainsOf, Keyed.rows_insert hbetween]
    by_cases hsame : written = generation <;> simp [domainsOf, hsame]

/-! ## What holds between two statements -/

/-- The stored domains are those given, each once. -/
def Lists (stored given : List Text) : Prop :=
  stored.Nodup ∧ ∀ domain, domain ∈ stored ↔ domain ∈ given

/-- What the call has stored is under a generation that no reader sees. -/
def Prepared (list : Blocklist) : Stage → Prop
  | .clearing next given domains => next ≠ list.activeGeneration ∧ Lists domains given
  | .writing next given domains rest =>
    (next ≠ list.activeGeneration ∧ Lists domains given) ∧
      domainsOf list.rows next ++ rest = domains
  | .reclaiming next => next = list.activeGeneration
  | .idle => True

structure Sound (list : Blocklist) : Prop where
  load : Lists list.load list.imported
  count : list.entryCount = list.load.length
  prepared : Prepared list list.stage

/-- A statement that leaves what readers see. -/
theorem Sound.of_load {list after : Blocklist} (hsound : Sound list)
    (hload : after.load = list.load) (himported : after.imported = list.imported)
    (hcount : after.entryCount = list.entryCount)
    (hprepared : Prepared after after.stage) : Sound after :=
  ⟨hload ▸ himported ▸ hsound.load, hload ▸ hcount ▸ hsound.count, hprepared⟩

theorem sound_perform {list after : Blocklist} {stage : Stage} (hsound : Sound list)
    (hprepared : Prepared list stage) (hnext : list.perform stage = some after) : Sound after := by
  cases stage with
  | idle => cases hnext
  | clearing next given domains =>
    cases hnext
    refine hsound.of_load (domainsOf_deleteBatch ?_) rfl rfl ?_
    · exact fun row hrow => by simpa [DomainScope.covers, hrow] using Ne.symm hprepared.1
    · dsimp only
      split
      next hnone =>
        have hclear : domainsOf (deleteBatch list.rows (.generation next)).2 next = [] := by
          rw [domainsOf, map_eq_nil_iff, filter_eq_nil_iff]
          exact fun row hrow => by simpa [DomainScope.covers] using covers_eq_false hnone hrow
        exact ⟨hprepared, congrArg (· ++ domains) hclear⟩
      · exact hprepared
  | writing next given domains rest =>
    obtain ⟨⟨hfresh, hlists⟩, hdomains⟩ := hprepared
    cases rest with
    | nil =>
      cases hnext
      have hload : domainsOf list.rows next = domains := (append_nil _).symm.trans hdomains
      exact ⟨hload ▸ hlists, congrArg length hload.symm, rfl⟩
    | cons first rest =>
      simp only [Blocklist.perform] at hnext
      split at hnext <;> cases hnext
      · exact hsound.of_load rfl rfl rfl trivial
      next written hinsert =>
        refine hsound.of_load ?_ rfl rfl ⟨⟨hfresh, hlists⟩, ?_⟩
        · simp [Blocklist.load, domainsOf_insertBatch hinsert, hfresh]
        · rw [domainsOf_insertBatch hinsert, if_pos rfl, append_assoc, take_append_drop,
            hdomains]
  | reclaiming next =>
    cases hnext
    refine hsound.of_load (domainsOf_deleteBatch ?_) rfl rfl ?_
    · exact fun row hrow => by simpa [DomainScope.covers, hrow] using hprepared.symm
    · dsimp only
      split
      · trivial
      · exact hprepared

theorem sound_next (list : Blocklist) (label : Label) (after : Blocklist) (hsound : Sound list)
    (hnext : next list label = some after) : Sound after := by
  cases label with
  | replace domains =>
    simp only [next] at hnext
    split at hnext <;> cases hnext
    refine hsound.of_load rfl rfl rfl ⟨by simp, ?_, by simp⟩
    exact nodup_reverse.mpr (nodup_dedup _)
  | statement => exact sound_perform hsound hsound.prepared hnext
  | stop =>
    cases hnext
    exact hsound.of_load rfl rfl rfl trivial

/-- Between any two statements a reader sees the domains given to the last import
that flipped the list, each once, and the list counts them.  An import that ends
its cleanup leaves no row of another generation. -/
theorem imports_are_atomic (labels : List Label) (list : Blocklist)
    (hrun : run next .new labels = some list) :
    list.load.Nodup ∧ (∀ domain, domain ∈ list.load ↔ domain ∈ list.imported) ∧
      list.entryCount = list.load.length ∧
      ∀ generation after, list.stage = .reclaiming generation →
        next list .statement = some after → after.stage = .idle →
          ∀ row ∈ after.rows.rows, row.generation = after.activeGeneration := by
  have hnew : Sound .new := ⟨⟨nodup_nil, fun _ => Iff.rfl⟩, rfl, trivial⟩
  obtain ⟨hload, hcount, hprepared⟩ := run_invariant sound_next hnew hrun
  refine ⟨hload.1, hload.2, hcount, ?_⟩
  intro generation after hstage hnext hidle row hrow
  simp only [next, hstage, Blocklist.perform, Option.some.injEq] at hnext hprepared
  subst hnext
  have hnone : (deleteBatch list.rows (.allExcept generation)).1 = 0 := by
    by_contra hsome
    simp [hsome] at hidle
  have hkept : row.generation = generation := by
    simpa [DomainScope.covers] using covers_eq_false hnone hrow
  exact hkept.trans hprepared

/-- An import stops before its flip, and the next one clears what it left. -/
def stoppedOnce : List Label :=
  [.replace ["a".toList, "b".toList], .statement, .statement, .stop,
    .replace ["c".toList, "a".toList, "c".toList], .statement, .statement, .statement, .statement]

theorem imports_are_atomic_stoppedOnce : ∃ list, run next .new stoppedOnce = some list ∧
      list.load = ["c".toList, "a".toList] ∧
      list.imported = ["c".toList, "a".toList, "c".toList] ∧
      list.load.Nodup ∧ ∀ domain, domain ∈ list.load ↔ domain ∈ list.imported := by
  refine ⟨_, rfl, by decide +kernel, by decide +kernel, ?_⟩
  have hatomic := imports_are_atomic stoppedOnce _ rfl
  exact ⟨hatomic.1, hatomic.2.1⟩

end Wardnet.Filter.Import
