import Mathlib.Data.List.Infix
import Mathlib.Order.Lattice

/-!
# Documents

A document is a tree of tables and arrays with scalars at its leaves.  A table
keeps its entries in the order of their keys.  A path names the entry found by
going from table to table; this module has the operations that read, write and
remove the entry at a path, and what each of them leaves at every other path.
-/

namespace Wardnet.Document

inductive Value (Key Scalar : Type)
  | scalar (scalar : Scalar)
  | array (values : List (Value Key Scalar))
  | table (entries : List (Key × Value Key Scalar))

abbrev Table (Key Scalar : Type) := List (Key × Value Key Scalar)

variable {Key Scalar : Type}

/-! ## Scalars -/

section Scalars

variable (holds : Scalar → Bool)

mutual

/-- Every scalar of the value has the property. -/
def Value.all : Value Key Scalar → Bool
  | .scalar scalar => holds scalar
  | .array values => valuesAll values
  | .table entries => entriesAll entries

def valuesAll : List (Value Key Scalar) → Bool
  | [] => true
  | value :: values => value.all && valuesAll values

def entriesAll : Table Key Scalar → Bool
  | [] => true
  | (_, value) :: entries => value.all && entriesAll entries

end

end Scalars

/-! ## Equality -/

section Equality

variable [DecidableEq Key] (equal : Scalar → Scalar → Bool)

mutual

/-- Equality of values, by an equality of scalars that need not be
reflexive. -/
def Value.eq : Value Key Scalar → Value Key Scalar → Bool
  | .scalar first, .scalar second => equal first second
  | .array first, .array second => valuesEq first second
  | .table first, .table second => entriesEq first second
  | _, _ => false

def valuesEq : List (Value Key Scalar) → List (Value Key Scalar) → Bool
  | [], [] => true
  | first :: firsts, second :: seconds => first.eq second && valuesEq firsts seconds
  | _, _ => false

def entriesEq : Table Key Scalar → Table Key Scalar → Bool
  | [], [] => true
  | (key, first) :: firsts, (key', second) :: seconds =>
    decide (key = key') && first.eq second && entriesEq firsts seconds
  | _, _ => false

end

/-- Equality of optional values. -/
def optionEq : Option (Value Key Scalar) → Option (Value Key Scalar) → Bool
  | some first, some second => first.eq equal second
  | none, none => true
  | _, _ => false

variable {equal}

section PartialEquivalence

/-- The equality of scalars is symmetric and transitive. -/
def Partial (equal : Scalar → Scalar → Bool) : Prop :=
  ∀ first second, equal first second = true →
    equal second first = true ∧ ∀ third, equal second third = true → equal first third = true

mutual

theorem Value.partial_eq (hequal : Partial equal) : ∀ first second : Value Key Scalar,
    first.eq equal second = true → second.eq equal first = true ∧
      ∀ third : Value Key Scalar, second.eq equal third = true → first.eq equal third = true
  | .scalar first, .scalar second, heq =>
    ⟨(hequal first second heq).1, fun
      | .scalar third, hnext => (hequal first second heq).2 third hnext⟩
  | .array firsts, .array seconds, heq =>
    ⟨(partial_valuesEq hequal firsts seconds heq).1, fun
      | .array thirds, hnext => (partial_valuesEq hequal firsts seconds heq).2 thirds hnext⟩
  | .table firsts, .table seconds, heq =>
    ⟨(partial_entriesEq hequal firsts seconds heq).1, fun
      | .table thirds, hnext => (partial_entriesEq hequal firsts seconds heq).2 thirds hnext⟩

theorem partial_valuesEq (hequal : Partial equal) : ∀ firsts seconds : List (Value Key Scalar),
    valuesEq equal firsts seconds = true → valuesEq equal seconds firsts = true ∧
      ∀ thirds : List (Value Key Scalar),
        valuesEq equal seconds thirds = true → valuesEq equal firsts thirds = true
  | [], [], _ => ⟨rfl, fun _ hnext => hnext⟩
  | first :: firsts, second :: seconds, heq => by
    simp only [valuesEq, Bool.and_eq_true] at heq ⊢
    have hhead := Value.partial_eq hequal first second heq.1
    have htail := partial_valuesEq hequal firsts seconds heq.2
    refine ⟨⟨hhead.1, htail.1⟩, fun thirds hnext => ?_⟩
    cases thirds with
    | nil => cases hnext
    | cons third thirds =>
      simp only [valuesEq, Bool.and_eq_true] at hnext ⊢
      exact ⟨hhead.2 third hnext.1, htail.2 thirds hnext.2⟩

theorem partial_entriesEq (hequal : Partial equal) : ∀ firsts seconds : Table Key Scalar,
    entriesEq equal firsts seconds = true → entriesEq equal seconds firsts = true ∧
      ∀ thirds : Table Key Scalar,
        entriesEq equal seconds thirds = true → entriesEq equal firsts thirds = true
  | [], [], _ => ⟨rfl, fun _ hnext => hnext⟩
  | (key, first) :: firsts, (key', second) :: seconds, heq => by
    simp only [entriesEq, Bool.and_eq_true, decide_eq_true_eq] at heq ⊢
    have hhead := Value.partial_eq hequal first second heq.1.2
    have htail := partial_entriesEq hequal firsts seconds heq.2
    refine ⟨⟨⟨heq.1.1.symm, hhead.1⟩, htail.1⟩, fun thirds hnext => ?_⟩
    cases thirds with
    | nil => cases hnext
    | cons third thirds =>
      simp only [entriesEq, Bool.and_eq_true, decide_eq_true_eq] at hnext ⊢
      exact ⟨⟨heq.1.1.trans hnext.1.1, hhead.2 third.2 hnext.1.2⟩, htail.2 thirds hnext.2⟩

end

variable (hequal : Partial equal) {first second third : Option (Value Key Scalar)}
include hequal

theorem optionEq_symm (heq : optionEq equal first second = true) :
    optionEq equal second first = true := by
  cases first <;> cases second <;> try cases heq
  · rfl
  · exact (Value.partial_eq hequal _ _ heq).1

theorem optionEq_trans (heq : optionEq equal first second = true)
    (hnext : optionEq equal second third = true) : optionEq equal first third = true := by
  cases first <;> cases second <;> try cases heq
  · exact hnext
  · cases third with
    | none => cases hnext
    | some third => exact (Value.partial_eq hequal _ _ heq).2 third hnext

end PartialEquivalence

end Equality

variable [LinearOrder Key]

/-! ## Tables -/

namespace Table

def get : Table Key Scalar → Key → Option (Value Key Scalar)
  | [], _ => none
  | (found, value) :: rest, key => if found = key then some value else get rest key

/-- The entry takes the place of one with the same key. -/
def insert (key : Key) (value : Value Key Scalar) : Table Key Scalar → Table Key Scalar
  | [] => [(key, value)]
  | (found, old) :: rest =>
    if found = key then (key, value) :: rest
    else if key < found then (key, value) :: (found, old) :: rest
    else (found, old) :: insert key value rest

def remove (table : Table Key Scalar) (key : Key) : Table Key Scalar :=
  table.filter fun entry => entry.1 ≠ key

/-- The table under a key; an empty one when there is none. -/
def child (table : Table Key Scalar) (key : Key) : Table Key Scalar :=
  match get table key with
  | some (.table entries) => entries
  | _ => []

theorem get_insert (table : Table Key Scalar) (key wanted : Key) (value : Value Key Scalar) :
    get (insert key value table) wanted =
      if key = wanted then some value else get table wanted := by
  induction table with
  | nil => rfl
  | cons entry rest ih =>
    obtain ⟨found, old⟩ := entry
    by_cases hfound : found = key
    · subst hfound
      by_cases hwanted : found = wanted <;> simp [insert, get, hwanted]
    · by_cases hlt : key < found
      · simp [insert, hfound, hlt, get]
      · by_cases hwanted : found = wanted
        · subst hwanted
          simp [insert, hfound, hlt, get, Ne.symm hfound]
        · simp [insert, hfound, hlt, get, hwanted, ih]

theorem get_remove (table : Table Key Scalar) (key wanted : Key) :
    get (remove table key) wanted = if key = wanted then none else get table wanted := by
  induction table with
  | nil => simp [remove, get]
  | cons entry rest ih =>
    obtain ⟨found, old⟩ := entry
    by_cases hfound : found = key
    · subst hfound
      by_cases hwanted : found = wanted <;> simpa [remove, get, hwanted] using ih
    · by_cases hwanted : found = wanted
      · subst hwanted
        simp [remove, hfound, get, Ne.symm hfound]
      · simpa [remove, hfound, get, hwanted] using ih

end Table

open List Table

/-! ## Paths -/

/-- The value at a path, if every table on the way is there. -/
def valueAt (table : Table Key Scalar) : List Key → Option (Value Key Scalar)
  | [] => none
  | [last] => get table last
  | segment :: next :: rest =>
    match get table segment with
    | some (.table entries) => valueAt entries (next :: rest)
    | _ => none

/-- Write the value at a path; what is on the way and is no table becomes
one. -/
def setValue (value : Value Key Scalar) (table : Table Key Scalar) : List Key → Table Key Scalar
  | [] => table
  | [last] => insert last value table
  | segment :: next :: rest =>
    insert segment (.table (setValue value (child table segment) (next :: rest))) table

/-- Remove the value at a path, and every table on the way that is empty
then. -/
def removeValue (table : Table Key Scalar) : List Key → Table Key Scalar
  | [] => table
  | [last] => remove table last
  | segment :: next :: rest =>
    match get table segment with
    | some (.table entries) =>
      match removeValue entries (next :: rest) with
      | [] => remove table segment
      | left => insert segment (.table left) table
    | _ => table

/-- Neither path leads through the other. -/
def Apart (path other : List Key) : Prop := ¬ path <+: other ∧ ¬ other <+: path

instance (path other : List Key) : Decidable (Apart path other) :=
  inferInstanceAs (Decidable (_ ∧ _))

variable (table : Table Key Scalar) {path other : List Key}

omit [LinearOrder Key] in
theorem apart_cons {key : Key} : Apart (key :: path) (key :: other) ↔ Apart path other := by
  simp [Apart, cons_prefix_cons]

omit [LinearOrder Key] in
theorem Apart.ne_nil (hapart : Apart path other) : path ≠ [] ∧ other ≠ [] := by
  constructor
  · rintro rfl
    exact hapart.1 nil_prefix
  · rintro rfl
    exact hapart.2 nil_prefix

omit [LinearOrder Key] in
theorem Apart.symm (hapart : Apart path other) : Apart other path := ⟨hapart.2, hapart.1⟩

theorem valueAt_nil_table (path : List Key) : valueAt ([] : Table Key Scalar) path = none := by
  match path with
  | [] | [_] | _ :: _ :: _ => rfl

theorem valueAt_cons_cons (segment next : Key) (rest : List Key) :
    valueAt table (segment :: next :: rest) = valueAt (child table segment) (next :: rest) := by
  simp only [valueAt, child]
  split
  · rfl
  · rw [valueAt_nil_table]

/-- What a path leads to depends on the entry of its first segment. -/
theorem valueAt_congr {table other : Table Key Scalar} {segment : Key}
    (hget : get table segment = get other segment) (rest : List Key) :
    valueAt table (segment :: rest) = valueAt other (segment :: rest) := by
  cases rest with
  | nil => exact hget
  | cons next rest => simp only [valueAt, hget]

theorem valueAt_setValue (value : Value Key Scalar) (table : Table Key Scalar) (hpath : path ≠ []) :
    valueAt (setValue value table path) path = some value := by
  induction path generalizing table with
  | nil => exact absurd rfl hpath
  | cons segment rest ih =>
    cases rest with
    | nil => simp [setValue, valueAt, get_insert]
    | cons next rest =>
      have hchild := ih (child table segment) (by simp)
      simpa [setValue, valueAt, get_insert] using hchild

theorem valueAt_removeValue (path : List Key) : valueAt (removeValue table path) path = none := by
  induction path generalizing table with
  | nil => rfl
  | cons segment rest ih =>
    cases rest with
    | nil => simp [removeValue, valueAt, get_remove]
    | cons next rest =>
      simp only [removeValue]
      split
      next entries hentries =>
        have hchild := ih entries
        split
        · simp [valueAt, get_remove]
        · simpa [valueAt, get_insert] using hchild
      · simp only [valueAt]

/-- Writing at one path leaves every path apart from it as it was. -/
theorem valueAt_setValue_of_apart (value : Value Key Scalar)
    (table : Table Key Scalar) (hapart : Apart path other) :
    valueAt (setValue value table path) other = valueAt table other := by
  induction path generalizing table other with
  | nil => exact absurd rfl hapart.ne_nil.1
  | cons segment rest ih =>
    obtain ⟨segment', rest', rfl⟩ := exists_cons_of_ne_nil hapart.ne_nil.2
    by_cases hsegment : segment = segment'
    · subst hsegment
      have hrest := apart_cons.mp hapart
      obtain ⟨next, rest, rfl⟩ := exists_cons_of_ne_nil hrest.ne_nil.1
      obtain ⟨next', rest', rfl⟩ := exists_cons_of_ne_nil hrest.ne_nil.2
      rw [valueAt_cons_cons, valueAt_cons_cons]
      simpa [setValue, child, get_insert] using ih (child table segment) hrest
    · apply valueAt_congr
      cases rest <;> simp [setValue, get_insert, hsegment]

/-- Removing at one path leaves every path apart from it as it was. -/
theorem valueAt_removeValue_of_apart (hapart : Apart path other) :
    valueAt (removeValue table path) other = valueAt table other := by
  induction path generalizing table other with
  | nil => exact absurd rfl hapart.ne_nil.1
  | cons segment rest ih =>
    obtain ⟨segment', rest', rfl⟩ := exists_cons_of_ne_nil hapart.ne_nil.2
    by_cases hsegment : segment = segment'
    · subst hsegment
      have hrest := apart_cons.mp hapart
      obtain ⟨next, rest, rfl⟩ := exists_cons_of_ne_nil hrest.ne_nil.1
      obtain ⟨next', rest', rfl⟩ := exists_cons_of_ne_nil hrest.ne_nil.2
      simp only [removeValue]
      split
      next entries hentries =>
        have hchild := ih entries hrest
        rw [valueAt_cons_cons, valueAt_cons_cons]
        split
        next hempty =>
          rw [hempty, valueAt_nil_table] at hchild
          simpa [child, get_remove, hentries, valueAt_nil_table] using hchild
        · simpa [child, get_insert, hentries] using hchild
      · rfl
    · apply valueAt_congr
      cases rest with
      | nil => simp [removeValue, get_remove, hsegment]
      | cons next rest =>
        simp only [removeValue]
        split
        · split <;> simp [get_remove, get_insert, hsegment]
        · rfl

end Wardnet.Document
