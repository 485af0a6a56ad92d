import Mathlib.Data.List.Nodup

/-!
# Tables of keyed rows

A database table is the list of its rows in storage order, with a function
that reads the primary key of a row.  Rows are looked up, rewritten, appended
and deleted by key; rewriting keeps the order and never changes a key.
-/

namespace Wardnet.Table

variable {Row Key : Type*} [DecidableEq Key] {key : Row → Key} {rows : List Row}

/-- `SELECT … WHERE key = ?` on the primary key. -/
def find (key : Row → Key) (rows : List Row) (wanted : Key) : Option Row :=
  rows.find? fun row => key row = wanted

/-- `UPDATE … WHERE key = ?`. -/
def update (key : Row → Key) (rows : List Row) (wanted : Key) (change : Row → Row) : List Row :=
  rows.map fun row => if key row = wanted then change row else row

/-- `DELETE … WHERE key = ?`. -/
def delete (key : Row → Key) (rows : List Row) (wanted : Key) : List Row :=
  rows.filter fun row => key row ≠ wanted

variable {wanted : Key} {row : Row}

theorem find_eq_some (hfind : find key rows wanted = some row) : row ∈ rows ∧ key row = wanted := by
  refine ⟨List.mem_of_find?_eq_some hfind, ?_⟩
  simpa using List.find?_some hfind

theorem find_eq_none : find key rows wanted = none ↔ ∀ row ∈ rows, key row ≠ wanted := by
  simp [find]

/-- A key occurs in one row only. -/
theorem find_of_mem (hnodup : (rows.map key).Nodup) (hmem : row ∈ rows) :
    find key rows (key row) = some row := by
  cases hfind : find key rows (key row) with
  | none => exact absurd rfl (find_eq_none.mp hfind row hmem)
  | some found =>
    obtain ⟨hfound, hkey⟩ := find_eq_some hfind
    exact congrArg some (List.inj_on_of_nodup_map hnodup hfound hmem hkey)

variable {change : Row → Row}

/-- The row found under a key is the only one with it. -/
theorem eq_of_find {found : Row} (hnodup : (rows.map key).Nodup)
    (hfind : find key rows wanted = some found) (hmem : row ∈ rows) (hrow : key row = wanted) :
    row = found :=
  Option.some.inj ((find_of_mem hnodup hmem).symm.trans (hrow ▸ hfind))

section

variable (hkey : ∀ row, key (change row) = key row)
include hkey

theorem key_rewritten (row : Row) :
    key (if key row = wanted then change row else row) = key row := by
  split
  · exact hkey row
  · rfl

/-- Rows that are rewritten under their keys are found rewritten. -/
theorem find_map (wanted : Key) :
    find key (rows.map change) wanted = (find key rows wanted).map change := by
  have hcomp : (fun row => decide (key row = wanted)) ∘ change =
      fun row => decide (key row = wanted) := by
    funext row
    simp [hkey]
  rw [find, List.find?_map, hcomp, find]

theorem find_update (other : Key) : find key (update key rows wanted change) other =
      if other = wanted then (find key rows wanted).map change
      else find key rows other := by
  rw [update, find_map (key_rewritten hkey)]
  by_cases hother : other = wanted
  · rw [if_pos hother, hother]
    exact Option.map_congr fun row hrow => if_pos (find_eq_some hrow).2
  · rw [if_neg hother]
    refine (Option.map_congr fun row hrow => if_neg ?_).trans (Option.map_id_apply ..)
    rwa [(find_eq_some hrow).2]

end

theorem mem_update : row ∈ update key rows wanted change ↔ (row ∈ rows ∧ key row ≠ wanted) ∨
        ∃ old ∈ rows, key old = wanted ∧ change old = row := by
  simp only [update, List.mem_map]
  constructor
  · rintro ⟨old, hold, rfl⟩
    by_cases hkey : key old = wanted
    · exact .inr ⟨old, hold, hkey, (if_pos hkey).symm⟩
    · rw [if_neg hkey]
      exact .inl ⟨hold, hkey⟩
  · rintro (⟨hrow, hkey⟩ | ⟨old, hold, hkey, rfl⟩)
    · exact ⟨row, hrow, if_neg hkey⟩
    · exact ⟨old, hold, if_pos hkey⟩

theorem map_key_update (hkey : ∀ row, key (change row) = key row) :
    (update key rows wanted change).map key = rows.map key := by
  rw [update, List.map_map]
  exact List.map_congr_left fun row _ => key_rewritten hkey row

theorem nodup_update (hkey : ∀ row, key (change row) = key row) (hnodup : (rows.map key).Nodup) :
    ((update key rows wanted change).map key).Nodup := by
  rwa [map_key_update hkey]

theorem find_delete (wanted other : Key) : find key (delete key rows wanted) other =
      if other = wanted then none else find key rows other := by
  simp only [find, delete, List.find?_filter]
  by_cases hother : other = wanted
  · subst hother
    simp
  · rw [if_neg hother]
    congr 1
    funext row
    by_cases hrow : key row = other
    · simp [hrow, hother]
    · simp [hrow]

/-- A new row is found under its key, and hides no other. -/
theorem find_append (hfresh : ∀ old ∈ rows, key old ≠ key row) (other : Key) :
    find key (rows ++ [row]) other = if other = key row then some row else find key rows other := by
  unfold find
  by_cases hother : other = key row
  · have hnone : rows.find? (fun old => decide (key old = key row)) = none := by simpa using hfresh
    subst hother
    simp [hnone]
  · have hne : ¬ key row = other := fun heq => hother heq.symm
    simp [hother, hne]

omit [DecidableEq Key] in
theorem nodup_append (hnodup : (rows.map key).Nodup) (hfresh : ∀ old ∈ rows, key old ≠ key row) :
    ((rows ++ [row]).map key).Nodup := by
  rw [List.map_append, List.map_singleton, List.nodup_append]
  refine ⟨hnodup, List.nodup_singleton _, ?_⟩
  intro found hfound last hlast
  obtain ⟨old, hold, rfl⟩ := List.mem_map.mp hfound
  rw [List.mem_singleton.mp hlast]
  exact hfresh old hold

end Wardnet.Table
