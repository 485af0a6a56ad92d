import Wardnet.Core.Table

/-!
# Tables with a primary key

A table whose rows have distinct keys, as the database keeps it: an insert of
a key that is there is refused, an update leaves the keys alone, a delete takes
rows away.  Since a key has one row, what a statement does to the table is
said by what it does to the row found under each key.
-/

namespace Wardnet

/-- The rows of a table, no two of them under one key. -/
@[ext]
structure Keyed {Row Key : Type*} (key : Row → Key) where
  rows : List Row
  nodup : (rows.map key).Nodup

namespace Keyed

variable {Row Key : Type*} {key : Row → Key}

instance [DecidableEq Row] : DecidableEq (Keyed key) := fun left right =>
  decidable_of_iff (left.rows = right.rows) Keyed.ext_iff.symm

/-- The table without rows. -/
def empty : Keyed key where
  rows := []
  nodup := List.nodup_nil

/-- `DELETE … WHERE`. -/
def deleteWhere (table : Keyed key) (condition : Row → Bool) : Keyed key where
  rows := table.rows.filter fun row => !condition row
  nodup := table.nodup.sublist (List.filter_sublist.map key)

/-- `UPDATE … WHERE` of columns outside the key. -/
def updateWhere (table : Keyed key) (condition : Row → Bool)
    (change : Row → Row) (hkey : ∀ row, key (change row) = key row) : Keyed key where
  rows := table.rows.map fun row => if condition row then change row else row
  nodup := by
    have hkeys : (table.rows.map fun row =>
        if condition row then change row else row).map key = table.rows.map key := by
      rw [List.map_map]
      apply List.map_congr_left
      intro row _
      by_cases hrow : condition row <;> simp [hrow, hkey]
    exact hkeys ▸ table.nodup

variable [DecidableEq Key]

/-- `SELECT … WHERE key = ?`. -/
def find (table : Keyed key) (wanted : Key) : Option Row := Table.find key table.rows wanted

/-- `INSERT`, refused when the key is taken. -/
def insert (table : Keyed key) (row : Row) : Option (Keyed key) :=
  if hfresh : table.find (key row) = none then
    some
      { rows := table.rows ++ [row]
        nodup := Table.nodup_append table.nodup (Table.find_eq_none.mp hfresh) }
  else none

/-- `UPDATE … WHERE key = ?` of columns outside the key. -/
def update (table : Keyed key) (wanted : Key) (change : Row → Row)
    (hkey : ∀ row, key (change row) = key row) : Keyed key :=
  table.updateWhere (fun row => key row = wanted) change hkey

variable {table after : Keyed key} {wanted : Key} {row : Row}

theorem find_eq_some : table.find wanted = some row ↔ row ∈ table.rows ∧ key row = wanted := by
  constructor
  · exact Table.find_eq_some
  · rintro ⟨hmem, rfl⟩
    exact Table.find_of_mem table.nodup hmem

theorem find_insert (hinsert : table.insert row = some after) (wanted : Key) :
    after.find wanted = if wanted = key row then some row else table.find wanted := by
  unfold insert at hinsert
  split at hinsert
  next hfresh =>
    cases hinsert
    exact Table.find_append (Table.find_eq_none.mp hfresh) wanted
  · cases hinsert

theorem insert_of_find_eq_none (hfresh : table.find (key row) = none) :
    ∃ after, table.insert row = some after ∧ after.rows = table.rows ++ [row] :=
  ⟨_, dif_pos hfresh, rfl⟩

theorem rows_insert (hinsert : table.insert row = some after) :
    after.rows = table.rows ++ [row] := by
  unfold insert at hinsert
  split at hinsert
  · rw [← Option.some.inj hinsert]
  · cases hinsert

theorem find_of_insert (hinsert : table.insert row = some after) : table.find (key row) = none := by
  unfold insert at hinsert
  split at hinsert
  · assumption
  · cases hinsert

@[simp]
theorem find_updateWhere (condition : Row → Bool) (change : Row → Row)
    (hkey : ∀ row, key (change row) = key row) (wanted : Key) :
    (table.updateWhere condition change hkey).find wanted =
      (table.find wanted).map fun row => if condition row then change row else row := by
  apply Table.find_map
  intro row
  by_cases hrow : condition row <;> simp [hrow, hkey]

@[simp]
theorem find_update (change : Row → Row) (hkey : ∀ row, key (change row) = key row) (other : Key) :
    (table.update wanted change hkey).find other =
      if other = wanted then (table.find wanted).map change
      else table.find other := by
  unfold update
  rw [find_updateWhere]
  by_cases hother : other = wanted
  · subst hother
    rw [if_pos rfl]
    cases hfind : table.find other with
    | none => rfl
    | some row => simp [(find_eq_some.mp hfind).2]
  · rw [if_neg hother]
    cases hfind : table.find other with
    | none => rfl
    | some row => simp [(find_eq_some.mp hfind).2, hother]

theorem countP_eq_zero :
    table.rows.countP (fun row => key row = wanted) = 0 ↔ table.find wanted = none := by
  have hrows : table.find wanted = none ↔ ∀ row ∈ table.rows, key row ≠ wanted := Table.find_eq_none
  rw [List.countP_eq_zero, hrows]
  simp

/-- An update of a key that is not there changes nothing. -/
theorem update_of_find_eq_none {change : Row → Row}
    {hkey : ∀ row, key (change row) = key row} (hnone : table.find wanted = none) :
    table.update wanted change hkey = table := by
  apply Keyed.ext
  calc (table.update wanted change hkey).rows
    _ = table.rows.map id := by
      apply List.map_congr_left
      intro row hrow
      simp [Table.find_eq_none.mp hnone row hrow]
    _ = table.rows := List.map_id table.rows

@[simp]
theorem find_deleteWhere (condition : Row → Bool) (wanted : Key) :
    (table.deleteWhere condition).find wanted =
      (table.find wanted).filter fun row => !condition row := by
  apply Option.ext
  intro row
  simp only [Option.filter_eq_some_iff, find_eq_some, deleteWhere, List.mem_filter]
  exact and_right_comm

/-! ## Unique columns -/

/-- No two rows agree on the column. -/
def Distinct {Value : Type*} (column : Row → Value) (table : Keyed key) : Prop :=
  (table.rows.map column).Nodup

variable {Value : Type*} {column : Row → Value} {condition : Row → Bool}

omit [DecidableEq Key] in
theorem Distinct.deleteWhere (hdistinct : table.Distinct column) :
    (table.deleteWhere condition).Distinct column :=
  hdistinct.sublist (List.filter_sublist.map column)

omit [DecidableEq Key] in
theorem Distinct.updateWhere {change : Row → Row}
    {hkey : ∀ row, key (change row) = key row} (hdistinct : table.Distinct column)
    (hcolumn : ∀ row, column (change row) = column row) :
    (table.updateWhere condition change hkey).Distinct column := by
  have hcolumns : (table.updateWhere condition change hkey).rows.map column =
      table.rows.map column := by
    simp only [Keyed.updateWhere, List.map_map]
    apply List.map_congr_left
    intro row _
    by_cases hrow : condition row <;> simp [hrow, hcolumn]
  unfold Distinct
  rwa [hcolumns]

theorem Distinct.insert (hdistinct : table.Distinct column)
    (hinsert : table.insert row = some after) (hfresh : column row ∉ table.rows.map column) :
    after.Distinct column := by
  unfold Keyed.insert at hinsert
  split at hinsert
  · rw [← Option.some.inj hinsert]
    refine Table.nodup_append hdistinct fun old hold heq => hfresh ?_
    exact heq ▸ List.mem_map_of_mem hold
  · cases hinsert

end Keyed

end Wardnet
