import Mathlib.Data.List.AList

/-!
# Finite maps

A finite map is an association list whose keys are distinct, with the lookup,
insertion and removal of Mathlib's `AList`.  The order of the entries is not
observable through `get`; only `toList` exposes one enumeration of them.
-/

namespace Wardnet

/-- A finite map from keys to values. -/
def HashMap (Key Value : Type*) := AList fun _ : Key => Value

namespace HashMap

variable {Key Value : Type*} [DecidableEq Key]

omit [DecidableEq Key] in
/-- The map without entries. -/
def empty : HashMap Key Value := (∅ : AList fun _ : Key => Value)

def get (map : HashMap Key Value) (key : Key) : Option Value := AList.lookup key map

def insert (map : HashMap Key Value) (key : Key) (value : Value) : HashMap Key Value :=
  AList.insert key value map

def remove (map : HashMap Key Value) (key : Key) : HashMap Key Value := AList.erase key map

omit [DecidableEq Key] in
/-- One enumeration of the entries. -/
def toList (map : HashMap Key Value) : List (Key × Value) :=
  (AList.entries map).map fun entry => (entry.1, entry.2)

omit [DecidableEq Key] in
theorem toList_injective :
    Function.Injective (toList : HashMap Key Value → List (Key × Value)) := by
  intro left right heq
  have hpair : Function.Injective fun entry : Sigma fun _ : Key => Value => (entry.1, entry.2) := by
    rintro ⟨leftKey, leftValue⟩ ⟨rightKey, rightValue⟩ hentry
    obtain ⟨rfl, rfl⟩ := hentry
    rfl
  exact AList.ext (List.map_injective_iff.mpr hpair heq)

instance [DecidableEq Value] : DecidableEq (HashMap Key Value) :=
  fun left right => decidable_of_iff (left.toList = right.toList) toList_injective.eq_iff

omit [DecidableEq Key] in
/-- The entries that satisfy `keep`. -/
def retain (map : HashMap Key Value) (keep : Key → Value → Bool) : HashMap Key Value where
  entries := (AList.entries map).filter fun entry => keep entry.1 entry.2
  nodupKeys := (AList.nodupKeys map).sublist List.filter_sublist

variable (map : HashMap Key Value) (key : Key)

@[simp]
theorem get_empty : (empty : HashMap Key Value).get key = none := AList.lookup_empty key

@[simp]
theorem get_insert (key' : Key) (value : Value) :
    (map.insert key value).get key' = if key' = key then some value else map.get key' := by
  by_cases hkey : key' = key
  · subst hkey
    rw [if_pos rfl]
    exact AList.lookup_insert map
  · rw [if_neg hkey]
    exact AList.lookup_insert_ne hkey

variable (value : Value)

theorem get_insert_of_ne {key key' : Key}
    (hkey : key' ≠ key) : (map.insert key value).get key' = map.get key' := by
  rw [get_insert, if_neg hkey]

theorem get_insert_eq_some {map : HashMap Key Value} {key key' : Key} {value value' : Value} :
    (map.insert key value).get key' = some value' ↔ (key' = key ∧ value' = value) ∨
        (key' ≠ key ∧ map.get key' = some value') := by
  by_cases hkey : key' = key
  · simp [hkey, eq_comm]
  · simp [hkey]

@[simp]
theorem get_remove (key' : Key) :
    (map.remove key).get key' = if key' = key then none else map.get key' := by
  by_cases hkey : key' = key
  · subst hkey
    rw [if_pos rfl]
    exact AList.lookup_erase key' map
  · rw [if_neg hkey]
    exact AList.lookup_erase_ne hkey

theorem get_remove_eq_some {map : HashMap Key Value} {key key' : Key} {value : Value} :
    (map.remove key).get key' = some value ↔ key' ≠ key ∧ map.get key' = some value := by
  rw [get_remove, Option.ite_none_left_eq_some]

theorem mem_toList {map : HashMap Key Value} {key : Key} {value : Value} :
    (key, value) ∈ map.toList ↔ map.get key = some value := by
  have hlookup : map.get key = some value ↔
      (⟨key, value⟩ : Sigma fun _ : Key => Value) ∈ AList.entries map :=
    AList.mem_lookup_iff
  simp only [hlookup, toList, List.mem_map, Prod.mk.injEq]
  constructor
  · rintro ⟨⟨entryKey, entryValue⟩, hmem, rfl, rfl⟩
    exact hmem
  · exact fun hmem => ⟨_, hmem, rfl, rfl⟩

omit [DecidableEq Key] in
theorem nodup_keys : (map.toList.map Prod.fst).Nodup := by
  have hkeys : map.toList.map Prod.fst = AList.keys map := by simp [toList, AList.keys, List.keys]
  exact hkeys ▸ AList.keys_nodup map

omit [DecidableEq Key] in
@[simp]
theorem toList_retain (map : HashMap Key Value) (keep : Key → Value → Bool) :
    (map.retain keep).toList = map.toList.filter fun entry => keep entry.1 entry.2 := by
  simp only [toList, retain, List.filter_map]
  rfl

@[simp]
theorem get_retain (keep : Key → Value → Bool) (key : Key) :
    (map.retain keep).get key = (map.get key).filter (keep key) := by
  apply Option.ext
  intro value
  rw [Option.filter_eq_some_iff, ← mem_toList, ← mem_toList, toList_retain, List.mem_filter]

/-! ## How many entries there are -/

theorem length_remove : (map.remove key).toList.length =
      if (map.get key).isSome then map.toList.length - 1 else map.toList.length := by
  have hkeys (other : HashMap Key Value) : other.toList.length = (AList.keys other).length := by
    simp [toList, AList.keys, List.keys]
  have herase : AList.keys (map.remove key) = (AList.keys map).erase key := AList.keys_erase key map
  have hmem : (map.get key).isSome ↔ key ∈ AList.keys map := AList.lookup_isSome
  simp only [hkeys, herase, List.length_erase, hmem]

theorem length_insert :
    (map.insert key value).toList.length = (map.remove key).toList.length + 1 := rfl

theorem length_insert_of_none {map : HashMap Key Value} {key : Key} (hnone : map.get key = none) :
    (map.insert key value).toList.length = map.toList.length + 1 := by
  simp [length_insert, length_remove, hnone]

theorem length_insert_of_some {map : HashMap Key Value} {key : Key}
    (hsome : (map.get key).isSome) : (map.insert key value).toList.length = map.toList.length := by
  obtain ⟨found, hfound⟩ := Option.isSome_iff_exists.mp hsome
  have hpos := List.length_pos_of_mem (mem_toList.mpr hfound)
  rw [length_insert, length_remove, if_pos hsome, Nat.sub_add_cancel hpos]

end HashMap

end Wardnet
