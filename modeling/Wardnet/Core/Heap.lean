import Wardnet.Core.HashMap

/-!
# Swappable cells

A heap numbers its cells in order of allocation.  Whoever holds the number of
a cell sees every later swap of its value.  An index names cells by keys:
`put` swaps the value of a key that has a cell and allocates one for a key
that has none, and `link` is the index after it.
-/

namespace Wardnet

open HashMap

/-- Cells with their values; no cell from `next` on is allocated. -/
structure Heap (Value : Type*) where
  cells : HashMap ℕ Value
  next : ℕ
  unallocated : ∀ cell, next ≤ cell → cells.get cell = none

namespace Heap

variable {Key Other Value : Type*} [DecidableEq Key] [DecidableEq Other]

def empty : Heap Value where
  cells := .empty
  next := 0
  unallocated := fun cell _ => get_empty cell

def load (heap : Heap Value) (cell : ℕ) : Option Value := heap.cells.get cell

/-- A new cell, numbered `heap.next`. -/
def alloc (heap : Heap Value) (value : Value) : Heap Value where
  cells := heap.cells.insert heap.next value
  next := heap.next + 1
  unallocated := by
    intro cell hcell
    rw [get_insert, if_neg (by omega)]
    exact heap.unallocated cell (by omega)

/-- Swap the value of an allocated cell. -/
def store (heap : Heap Value) (cell : ℕ) (value : Value) : Heap Value :=
  if hcell : cell < heap.next then
    { cells := heap.cells.insert cell value
      next := heap.next
      unallocated := by
        intro other hother
        rw [get_insert, if_neg (by omega)]
        exact heap.unallocated other hother }
  else heap

/-- The cell of a key, or the one a store for it allocates. -/
def cellOf (heap : Heap Value) (index : HashMap Key ℕ) (key : Key) : ℕ :=
  (index.get key).getD heap.next

/-- Store the value of a key. -/
def put (heap : Heap Value) (index : HashMap Key ℕ) (key : Key) (value : Value) : Heap Value :=
  match index.get key with
  | some cell => heap.store cell value
  | none => heap.alloc value

/-- The index after a store for a key. -/
def link (heap : Heap Value) (index : HashMap Key ℕ) (key : Key) : HashMap Key ℕ :=
  match index.get key with
  | some _ => index
  | none => index.insert key heap.next

/-- The index names allocated cells, and no cell twice. -/
structure Indexes (heap : Heap Value) (index : HashMap Key ℕ) : Prop where
  allocated : ∀ key cell, index.get key = some cell → cell < heap.next
  injective : ∀ left right cell, index.get left = some cell →
    index.get right = some cell → left = right

/-- The two indexes have no cell in common. -/
def Apart (left : HashMap Key ℕ) (right : HashMap Other ℕ) : Prop :=
  ∀ key other cell, left.get key = some cell → right.get other ≠ some cell

/-- The key has a cell, and the cell has the value. -/
def Holds (heap : Heap Value) (index : HashMap Key ℕ) (key : Key) (value : Value) : Prop :=
  ∃ cell, index.get key = some cell ∧ heap.load cell = some value

variable {index : HashMap Key ℕ}

theorem Holds.bind_load {heap : Heap Value}
    {key : Key} {value : Value} (hholds : Holds heap index key value) :
    (index.get key).bind heap.load = some value := by
  obtain ⟨cell, hget, hload⟩ := hholds
  rw [hget]
  exact hload

theorem indexes_empty (heap : Heap Value) : Indexes heap (.empty : HashMap Key ℕ) where
  allocated := by simp
  injective := by simp

theorem Indexes.remove {heap : Heap Value}
    (hindexes : Indexes heap index) (key : Key) : Indexes heap (index.remove key) where
  allocated := by
    intro other cell hget
    exact hindexes.allocated other cell (get_remove_eq_some.mp hget).2
  injective := by
    intro left right cell hleft hright
    rw [get_remove] at hleft hright
    split at hleft
    · cases hleft
    · split at hright
      · cases hright
      · exact hindexes.injective left right cell hleft hright

theorem get_link (heap : Heap Value) (index : HashMap Key ℕ) (key other : Key) :
    (heap.link index key).get other = if other = key then some (heap.cellOf index key)
      else index.get other := by
  unfold link cellOf
  cases hget : index.get key with
  | none => exact get_insert ..
  | some cell =>
    by_cases hkey : other = key
    · simp [hkey, hget]
    · simp [hkey]

section Put

variable {heap : Heap Value} {index : HashMap Key ℕ}

theorem cellOf_eq {key : Key} {cell : ℕ} (hget : index.get key = some cell) :
    heap.cellOf index key = cell := by
  simp [cellOf, hget]

/-- The cell of a key is its own or a new one. -/
theorem cellOf_cases (heap : Heap Value) (index : HashMap Key ℕ) (key : Key) :
    index.get key = some (heap.cellOf index key) ∨ heap.cellOf index key = heap.next := by
  unfold cellOf
  cases hget : index.get key with
  | none => exact .inr rfl
  | some cell => exact .inl rfl

theorem load_put (hindexes : Indexes heap index) (key : Key) (value : Value) (cell : ℕ) :
    (heap.put index key value).load cell = if cell = heap.cellOf index key then some value
      else heap.load cell := by
  unfold put cellOf
  cases hget : index.get key with
  | none => exact get_insert ..
  | some own =>
    have hallocated := hindexes.allocated key own hget
    simp only [store, hallocated, dif_pos, Option.getD_some]
    exact get_insert ..

theorem next_le_put (heap : Heap Value) (index : HashMap Key ℕ) (key : Key)
    (value : Value) : heap.next ≤ (heap.put index key value).next := by
  unfold put store
  split
  · split <;> exact le_rfl
  · exact Nat.le_succ _

theorem cellOf_lt_put (hindexes : Indexes heap index) (key : Key) (value : Value) :
    heap.cellOf index key < (heap.put index key value).next := by
  cases hget : index.get key with
  | none =>
    simp only [put, cellOf, hget, Option.getD_none]
    exact Nat.lt_succ_self _
  | some cell =>
    rw [cellOf_eq hget]
    exact Nat.lt_of_lt_of_le (hindexes.allocated key cell hget) (next_le_put heap index key value)

variable {other : HashMap Other ℕ}

/-- Another index of the heap is not affected by a store. -/
theorem Indexes.of_put (hother : Indexes heap other) (index : HashMap Key ℕ) (key : Key)
    (value : Value) : Indexes (heap.put index key value) other where
  allocated := fun found cell hget => Nat.lt_of_lt_of_le
    (hother.allocated found cell hget) (next_le_put heap index key value)
  injective := hother.injective

theorem Indexes.put (hindexes : Indexes heap index) (key : Key) (value : Value) :
    Indexes (heap.put index key value) (heap.link index key) where
  allocated := by
    intro other cell hget
    rw [get_link] at hget
    split at hget
    · exact Option.some.inj hget ▸ cellOf_lt_put hindexes key value
    · exact (hindexes.of_put index key value).allocated other cell hget
  injective := by
    have hown : ∀ other, other ≠ key → index.get other ≠ some (heap.cellOf index key) := by
      intro other hne hget
      rcases cellOf_cases heap index key with hkey | hnew
      · exact hne (hindexes.injective other key _ hget hkey)
      · exact absurd (hindexes.allocated other _ hget) (by omega)
    intro left right cell hleft hright
    rw [get_link] at hleft hright
    by_cases hleftKey : left = key <;> by_cases hrightKey : right = key
    · rw [hleftKey, hrightKey]
    · rw [if_pos hleftKey] at hleft
      rw [if_neg hrightKey, ← hleft] at hright
      exact absurd hright (hown right hrightKey)
    · rw [if_neg hleftKey] at hleft
      rw [if_pos hrightKey] at hright
      rw [← hright] at hleft
      exact absurd hleft (hown left hleftKey)
    · rw [if_neg hleftKey] at hleft
      rw [if_neg hrightKey] at hright
      exact hindexes.injective left right cell hleft hright

/-- A store for a key of one index keeps it apart from another one. -/
theorem Apart.link (hapart : Apart index other)
    (hother : Indexes heap other) (key : Key) : Apart (heap.link index key) other := by
  intro found foreign cell hfound hforeign
  rw [get_link] at hfound
  split at hfound
  · rcases cellOf_cases heap index key with hkey | hnew
    · exact hapart key foreign cell (hkey.trans hfound) hforeign
    · have hallocated := hother.allocated foreign cell hforeign
      rw [← Option.some.inj hfound, hnew] at hallocated
      exact absurd hallocated (Nat.lt_irrefl _)
  · exact hapart found foreign cell hfound hforeign

theorem Apart.symm (hapart : Apart index other) : Apart other index :=
  fun foreign key cell hforeign hkey => hapart key foreign cell hkey hforeign

theorem Apart.remove (hapart : Apart index other) (key : Key) : Apart (index.remove key) other := by
  intro found foreign cell hfound
  exact hapart found foreign cell (get_remove_eq_some.mp hfound).2

theorem holds_put (hindexes : Indexes heap index) (key : Key) (value : Value) :
    Holds (heap.put index key value) (heap.link index key) key value := by
  refine ⟨heap.cellOf index key, ?_, ?_⟩
  · rw [get_link, if_pos rfl]
  · rw [load_put hindexes, if_pos rfl]

/-- A store for one key leaves the value of every other key. -/
theorem Holds.put_ne {found key : Key} {content : Value}
    (hholds : Holds heap index found content) (hindexes : Indexes heap index)
    (hne : found ≠ key) (value : Value) :
    Holds (heap.put index key value) (heap.link index key) found content := by
  obtain ⟨cell, hget, hload⟩ := hholds
  refine ⟨cell, ?_, ?_⟩
  · rw [get_link, if_neg hne]
    exact hget
  · rw [load_put hindexes, if_neg]
    · exact hload
    · rintro rfl
      rcases cellOf_cases heap index key with hkey | hnew
      · exact hne (hindexes.injective found key _ hget hkey)
      · exact absurd (hindexes.allocated found _ hget) (by omega)

/-- A store through one index leaves what an index apart from it holds. -/
theorem Holds.put_apart {found : Other} {content : Value} (hholds : Holds heap other found content)
    (hindexes : Indexes heap index) (hother : Indexes heap other)
    (hapart : Apart index other) (key : Key) (value : Value) :
    Holds (heap.put index key value) other found content := by
  obtain ⟨cell, hget, hload⟩ := hholds
  refine ⟨cell, hget, ?_⟩
  rw [load_put hindexes, if_neg]
  · exact hload
  · rintro rfl
    rcases cellOf_cases heap index key with hkey | hnew
    · exact hapart key found _ hkey hget
    · exact absurd (hother.allocated found _ hget) (by omega)

end Put

end Heap

end Wardnet
