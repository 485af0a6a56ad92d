import Mathlib.Data.List.Pairwise
import Wardnet.Config.Restore

/-!
# The posture of a machine survives a restore

Whatever configuration a bundle brings, the keys that belong to the machine
resolve afterwards to what they resolved to before, everything else is the
bundle's, and the text is rewritten exactly when a key had to be reset.  The
merge finds the keys by name, and in a section that is written as an array the
fields have none.  Such a section of the bundle becomes a table as soon as one
of its keys is reset; if none is, its elements are what the daemon reads.
-/

namespace Wardnet.Config

open Document

variable {live bundle : Table}

/-! ## Sections -/

variable {wanted key : Text}

section

variable {table : Table} (harray : isArray table wanted = false)
include harray

theorem isArray_insert_table (entries : Table) :
    isArray (Table.insert key (.table entries) table) wanted = false := by
  simp only [isArray, Table.get_insert] at harray ⊢
  by_cases hkey : key = wanted
  · simp [hkey]
  · simpa [hkey] using harray

theorem isArray_setValue {value : Value} {path : List Text} (hpath : path ≠ [wanted]) :
    isArray (setValue value table path) wanted = false := by
  match path with
  | [] => exact harray
  | [last] =>
    have hlast : last ≠ wanted := by simpa using hpath
    simpa [setValue, isArray, Table.get_insert, hlast] using harray
  | segment :: next :: rest => exact isArray_insert_table harray _

theorem isArray_remove : isArray (Table.remove table key) wanted = false := by
  simp only [isArray, Table.get_remove] at harray ⊢
  by_cases hkey : key = wanted
  · simp [hkey]
  · simpa [hkey] using harray

theorem isArray_removeValue {path : List Text} :
    isArray (removeValue table path) wanted = false := by
  match path with
  | [] => exact harray
  | [last] => exact isArray_remove harray
  | segment :: next :: rest =>
    simp only [removeValue]
    split
    · split
      · exact isArray_remove harray
      · exact isArray_insert_table harray _
    · exact harray

end

theorem positional_mergeKeys (hkey : key ∈ deployTimeOnlyKeys)
    (hbundle : positional bundle key = false) :
    positional (mergeKeys live bundle).1 key = false := by
  simp only [positional] at hbundle ⊢
  split
  next sectionName fieldName hpath =>
    rw [hpath] at hbundle
    refine List.foldlRecOn
      (motive := fun later : Table × List Text => isArray later.1 sectionName = false)
      deployTimeOnlyKeys _ hbundle fun later harray other hother => ?_
    simp only [mergeKey]
    split
    · exact harray
    · split
      · apply isArray_setValue harray
        intro hsection
        have hne : other ≠ key := by
          rintro rfl
          simp [hpath] at hsection
        have : Std.Symm fun first second : Text =>
            Apart (keyPath first) (keyPath second) := ⟨fun _ _ => Apart.symm⟩
        have hapart : Apart (keyPath other) (keyPath key) :=
          pairwise_deployTimeOnlyKeys.forall hother hkey hne
        rw [hsection, hpath] at hapart
        exact hapart.1 ⟨[fieldName], rfl⟩
      · exact isArray_removeValue harray
  · rfl

/-! ## What is restored -/

/-- The text of the bundle, or the merged table written out. -/
theorem preserveDeployTimeKeys_eq_ok {Source : Type} {toml : Toml Source}
    {liveSource bundleSource : Source} {restored : RestoredConfig Source}
    (hrestored : preserveDeployTimeKeys toml liveSource bundleSource = .ok restored)
    (hlive : toml.table liveSource = some live) (hbundle : toml.table bundleSource = some bundle) :
    restored.overridden = (mergeKeys live bundle).2 ∧
      if (mergeKeys live bundle).2 = [] then restored.toml = bundleSource
      else toml.toStringPretty (mergeKeys live bundle).1 = some restored.toml := by
  simp only [preserveDeployTimeKeys, checkBundleConfig, Toml.tableOr, hlive, hbundle] at hrestored
  split at hrestored
  case isFalse => cases hrestored
  change (if (mergeKeys live bundle).2 = [] then _ else _) = _ at hrestored
  split at hrestored
  next hnone =>
    cases hrestored
    simp [hnone]
  next hsome =>
    simp only [hsome, if_false]
    split at hrestored
    · cases hrestored
    · split at hrestored
      · cases hrestored
        exact ⟨rfl, ‹_›⟩
      · cases hrestored

/-- Where the two agree on every key, nothing is merged. -/
theorem mergeKeys_of_agrees (hagrees : ∀ key ∈ deployTimeOnlyKeys, agrees live bundle key = true) :
    mergeKeys live bundle = (bundle, []) := by
  refine List.foldlRecOn (motive := (· = (bundle, []))) _ _ rfl fun merged hmerged key hkey => ?_
  simp [hmerged, mergeKey, hagrees key hkey]

/-! ## The posture -/

/-- The live value under a key equals itself: it is not `nan` and has none
in it. -/
def reflects (live : Table) (key : Text) : Bool :=
  optionEq Scalar.eq (resolve live key) (resolve live key)

/-- The merged table resolves every key to what the live one does. -/
theorem agrees_mergeKeys (hkey : key ∈ deployTimeOnlyKeys) (hreflects : reflects live key = true) :
    agrees live (mergeKeys live bundle).1 key = true := by
  by_cases hagrees : agrees live bundle key = true
  · have hsame : resolve (mergeKeys live bundle).1 key = resolve bundle key := by
      simp [resolve, valueAt_mergeKeys hkey, hagrees]
    rwa [agrees, hsame]
  · have hsame : resolve (mergeKeys live bundle).1 key = resolve live key := by
      simp [resolve, valueAt_mergeKeys hkey, hagrees]
    rwa [agrees, hsame]

theorem agrees_nil (hkey : key ∈ deployTimeOnlyKeys) : agrees [] [] key = true := by
  revert key
  decide +kernel

/-- The bundle writes the section of the key as an array, and the live file sets
no key of the section to anything but its default. -/
def staysArray (live bundle : Table) (key : Text) : Bool :=
  positional bundle key && deployTimeOnlyKeys.all fun other =>
    (keyPath other).head? ≠ (keyPath key).head? || agrees live [] other

/-- The live value of the key equals what the merge compares for it, which is
what it finds under the name of the key; in a section of the bundle that stays
an array, it equals the element at the position of the field. -/
def Kept (live bundle : Table) (key : Text) : Prop :=
  optionEq Scalar.eq (loaded live key)
    (if staysArray live bundle key then loaded bundle key else resolve live key) = true
  deriving Decidable

section

variable {sectionName fieldName : Text} (hkey : key ∈ deployTimeOnlyKeys)
  (hpath : keyPath key = [sectionName, fieldName])
include hkey hpath

/-- Another key of the same section is a field of it as well. -/
theorem keyPath_of_head? {other : Text} (hother : other ∈ deployTimeOnlyKeys)
    (hhead : (keyPath other).head? = some sectionName) :
    ∃ next rest, keyPath other = sectionName :: next :: rest := by
  obtain ⟨rest, hrest⟩ := List.head?_eq_some_iff.mp hhead
  cases rest with
  | cons next rest => exact ⟨next, rest, hrest⟩
  | nil =>
    have hne : other ≠ key := by
      rintro rfl
      simp [hpath] at hrest
    have : Std.Symm fun first second : Text =>
        Apart (keyPath first) (keyPath second) := ⟨fun _ _ => Apart.symm⟩
    have hapart : Apart (keyPath other) (keyPath key) :=
      pairwise_deployTimeOnlyKeys.forall hother hkey hne
    rw [hrest, hpath] at hapart
    exact absurd ⟨[fieldName], rfl⟩ hapart.1

/-- The merge finds nothing in a section that is an array. -/
theorem agrees_of_isArray (harray : isArray bundle sectionName = true) {other : Text}
    (hother : other ∈ deployTimeOnlyKeys) (hhead : (keyPath other).head? = some sectionName) :
    agrees live bundle other = agrees live [] other := by
  obtain ⟨next, rest, hrest⟩ := keyPath_of_head? hkey hpath hother hhead
  have hnone : valueAt bundle (keyPath other) = none := by
    rw [hrest, valueAt]
    unfold isArray at harray
    split at harray
    next values hvalues => rw [hvalues]
    · cases harray
  simp [agrees, resolve, hnone, valueAt_nil_table]

/-- A section that stays an array is not touched. -/
theorem get_mergeKeys_of_staysArray (harray : isArray bundle sectionName = true)
    (hstays : staysArray live bundle key = true) :
    Table.get (mergeKeys live bundle).1 sectionName = Table.get bundle sectionName := by
  refine List.foldlRecOn (motive := fun later : Table × List Text =>
    valueAt later.1 [sectionName] = valueAt bundle [sectionName])
    deployTimeOnlyKeys _ rfl fun later hlater other hother => ?_
  by_cases hagrees : agrees live bundle other = true
  · simpa [mergeKey, hagrees] using hlater
  rw [valueAt_mergeKey_of_apart, hlater]
  have hhead : (keyPath other).head? ≠ some sectionName := by
    intro hhead
    rw [agrees_of_isArray hkey hpath harray hother hhead] at hagrees
    have hall := (Bool.and_eq_true_iff.mp hstays).2
    have hthis := List.all_eq_true.mp hall other hother
    simp [hhead, hpath, hagrees] at hthis
  obtain ⟨segment, rest, hrest⟩ := List.exists_cons_of_ne_nil (keyPath_ne_nil other)
  rw [hrest] at hhead ⊢
  have hne : segment ≠ sectionName := by simpa using hhead
  exact ⟨fun hprefix => hne (List.cons_prefix_cons.mp hprefix).1,
    fun hprefix => hne (List.cons_prefix_cons.mp hprefix).1.symm⟩

/-- A section one of whose keys is reset becomes a table. -/
theorem positional_mergeKeys_of_reset (harray : isArray bundle sectionName = true) {other : Text}
    (hother : other ∈ deployTimeOnlyKeys) (hhead : (keyPath other).head? = some sectionName)
    (hdisagrees : agrees live [] other = false) :
    positional (mergeKeys live bundle).1 key = false := by
  obtain ⟨next, rest, hrest⟩ := keyPath_of_head? hkey hpath hother hhead
  have hvalue : valueAt (mergeKeys live bundle).1 (keyPath other) =
      valueAt live (keyPath other) := by
    rw [valueAt_mergeKeys hother, agrees_of_isArray hkey hpath harray hother hhead, hdisagrees]
    rfl
  simp only [positional, hpath, isArray]
  split
  next values hvalues =>
    have hnone : valueAt live (keyPath other) = none := by
      rw [← hvalue, hrest, valueAt, hvalues]
    have hdefault : agrees live [] other = agrees [] [] other := by
      simp [agrees, resolve, hnone, valueAt_nil_table]
    rw [hdefault, agrees_nil hother] at hdisagrees
    cases hdisagrees
  · rfl

end

/-- The value the daemon finds for a key of the machine after the merge. -/
theorem loaded_mergeKeys (hkey : key ∈ deployTimeOnlyKeys) :
    loaded (mergeKeys live bundle).1 key =
      if staysArray live bundle key then loaded bundle key
      else resolve (mergeKeys live bundle).1 key := by
  by_cases hbundle : positional bundle key = true
  swap
  · rw [if_neg (by simp [staysArray, hbundle]),
      loaded_of_not_positional (positional_mergeKeys hkey (by simpa using hbundle))]
  obtain ⟨sectionName, fieldName, hpath, harray⟩ : ∃ sectionName fieldName,
      keyPath key = [sectionName, fieldName] ∧ isArray bundle sectionName = true := by
    unfold positional at hbundle
    split at hbundle
    next sectionName fieldName hpath => exact ⟨sectionName, fieldName, hpath, hbundle⟩
    · cases hbundle
  split
  next hstays =>
    have hget := get_mergeKeys_of_staysArray hkey hpath harray hstays
    unfold isArray at harray
    split at harray
    next values hvalues => simp only [loaded, hpath, hget, hvalues]
    · cases harray
  next hreset =>
    obtain ⟨other, hother, hhead, hdisagrees⟩ : ∃ other ∈ deployTimeOnlyKeys,
        (keyPath other).head? = some sectionName ∧ agrees live [] other = false := by
      simpa [staysArray, hbundle, hpath] using hreset
    exact loaded_of_not_positional
      (positional_mergeKeys_of_reset hkey hpath harray hother hhead hdisagrees)

/-- A key has the value it had exactly when it is kept. -/
theorem loaded_eq_iff_kept (hkey : key ∈ deployTimeOnlyKeys) :
    optionEq Scalar.eq (loaded live key) (loaded (mergeKeys live bundle).1 key) = true ↔
      Kept live bundle key := by
  rw [loaded_mergeKeys hkey, Kept]
  by_cases hstays : staysArray live bundle key = true
  · simp only [hstays, if_true]
  simp only [hstays, if_false, Bool.false_eq_true]
  by_cases hagrees : agrees live bundle key = true
  · have hsame : resolve (mergeKeys live bundle).1 key = resolve bundle key := by
      simp [resolve, valueAt_mergeKeys hkey, hagrees]
    rw [hsame]
    exact ⟨fun hlive => optionEq_trans Scalar.partial_eq hlive
      (optionEq_symm Scalar.partial_eq hagrees),
      fun hlive => optionEq_trans Scalar.partial_eq hlive hagrees⟩
  · have hsame : resolve (mergeKeys live bundle).1 key = resolve live key := by
      simp [resolve, valueAt_mergeKeys hkey, hagrees]
    rw [hsame]

theorem agrees_of_kept (hkey : key ∈ deployTimeOnlyKeys) (hkept : Kept live bundle key)
    (hsame : (mergeKeys live bundle).1 = bundle) : agrees live bundle key = true := by
  by_cases hstays : staysArray live bundle key = true
  · obtain ⟨hbundle, hall⟩ := Bool.and_eq_true_iff.mp hstays
    have hlive : agrees live [] key = true := by
      simpa using List.all_eq_true.mp hall key hkey
    unfold positional at hbundle
    split at hbundle
    next sectionName fieldName hpath =>
      rwa [agrees_of_isArray hkey hpath hbundle hkey (by rw [hpath]; rfl)]
    · cases hbundle
  · have hreflects : reflects live key = true := by
      rw [Kept, if_neg hstays] at hkept
      exact optionEq_trans Scalar.partial_eq (optionEq_symm Scalar.partial_eq hkept) hkept
    have hagrees : agrees live (mergeKeys live bundle).1 key = true :=
      agrees_mergeKeys hkey hreflects
    rwa [hsame] at hagrees

/-- Texts that are the tables they stand for. -/
def plainToml : Toml Table where
  parse := some
  deserialises := loads
  toStringPretty := some
  parse_toStringPretty := by simp

/-- A live file with an interface of its own. -/
def liveFile : Table :=
  [("network".toList, .table [("lan_interface".toList, .scalar (.string "eth1".toList))]),
    ("update".toList, .table [("manifest_base_url".toList, .scalar (.string "https://l".toList))])]

/-- A bundle that brings an update server and a policy. -/
def bundleFile : Table :=
  [("logging".toList, .array [.scalar (.string "json".toList)]),
    ("network".toList, .table [("default_policy".toList, .scalar (.string "tunnel".toList))]),
    ("update".toList, .array [.scalar (.string "https://m".toList)])]

/-- A secret store with a field nobody reads, which is not a number: restored
over itself, the file is reported as reset. -/
def unreadNan : Table :=
  [("secret_store".toList, .table [("extra".toList, .scalar (.float 0x7ff8000000000000)),
      ("path".toList, .scalar (.string "/s".toList)),
      ("provider".toList, .scalar (.string "file_system".toList))])]

example : (preserveDeployTimeKeys plainToml unreadNan unreadNan).toOption.map
    RestoredConfig.overridden = some ["secret_store".toList] := by
  decide +kernel

/-- A bundle whose update section is an array. -/
def positionalUpdate : Table := [("update".toList, .array [.scalar (.string "https://m".toList)])]

end Wardnet.Config
