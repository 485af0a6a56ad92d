import Mathlib.Data.List.Sort
import Wardnet.Device.Identity

/-!
# The snapshot of the addresses

The DNS path resolves an address in a map built from the whole table, in the
order of the times, and the API resolves it with `find_by_ip`.  Both take the
device seen last there.  Neither query orders the devices seen at once, as a
flush leaves those that are present, and the plan of each decides.
-/

namespace Wardnet.Discovery

open HashMap List Net Transition

abbrev Row.SeenBefore : Row → Row → Prop := Order.Preimage Row.lastSeen (· ≤ ·)

/-- What `find_all` may list: the latest rows first. -/
def FindsAll (rows listed : List Row) : Prop :=
  listed.Perm rows ∧ listed.Pairwise fun left right => right.SeenBefore left
  deriving Decidable

/-- `DeviceIpSnapshot::rebuild`, from what `find_all` has listed. -/
def rebuild (listed : List Row) : HashMap Ipv4Addr Uuid :=
  (listed.insertionSort Row.SeenBefore).foldl
    (fun map device => device.lastIp.elim map fun ip => map.insert ip device.id) .empty

/-- At the address no two devices were seen last at once. -/
def Untied (rows : List Row) (ip : Ipv4Addr) : Prop :=
  ∀ left ∈ rows, ∀ right ∈ rows, FindsByIp rows ip (some left) → FindsByIp rows ip (some right) →
    left.id = right.id
  deriving Decidable

variable {rows listed : List Row} {ip : Ipv4Addr}

theorem get_foldl_insert (devices : List Row) (map : HashMap Ipv4Addr Uuid) :
    (devices.foldl (fun map device =>
      device.lastIp.elim map fun ip => map.insert ip device.id) map).get ip =
      ((devices.filter (·.lastIp = some ip)).getLast?.map Row.id).or (map.get ip) := by
  induction devices generalizing map with
  | nil => rfl
  | cons device devices ih =>
    rw [foldl_cons, ih, filter_cons]
    cases hlast : device.lastIp with
    | none => simp
    | some at_ =>
      by_cases hat : at_ = ip
      · simp [hat, getLast?_cons]
      · simp [hat, Ne.symm hat]

/-- The device of the snapshot is one that `find_by_ip` may find. -/
theorem exists_of_rebuild (hlisted : FindsAll rows listed) (ip : Ipv4Addr) :
    ∃ stays, FindsByIp rows ip stays ∧ (rebuild listed).get ip = stays.map Row.id := by
  let sorted := (listed.insertionSort Row.SeenBefore).filter (·.lastIp = some ip)
  have hmem : ∀ row, row ∈ sorted ↔ row ∈ rows ∧ row.lastIp = some ip := by
    simp [sorted, hlisted.1.mem_iff]
  have hsorted : sorted.Pairwise Row.SeenBefore := (pairwise_insertionSort _ _).filter _
  refine ⟨sorted.getLast?, ⟨fun hnone row hrow hat => ?_, fun last hlast => ?_⟩, ?_⟩
  · rw [getLast?_eq_none_iff] at hnone
    simpa [hnone] using (hmem row).mpr ⟨hrow, hat⟩
  · obtain ⟨hrow, hat⟩ := (hmem last).mp (mem_of_getLast? hlast)
    refine ⟨hrow, hat, fun other hother hotherAt => ?_⟩
    obtain ⟨earlier, hsplit⟩ := getLast?_eq_some_iff.mp hlast
    have hin := (hmem other).mpr ⟨hother, hotherAt⟩
    rw [hsplit] at hsorted hin
    rcases mem_append.mp hin with hbefore | hsame
    · exact (pairwise_append.mp hsorted).2.2 other hbefore last (by simp)
    · rw [mem_singleton.mp hsame]
  · rw [rebuild, get_foldl_insert]
    exact Option.or_none

theorem agrees_of_untied {found : Option Row} (huntied : Untied rows ip)
    (hlisted : FindsAll rows listed) (hfound : FindsByIp rows ip found) :
    (rebuild listed).get ip = found.map Row.id := by
  obtain ⟨stays, hstays, hget⟩ := exists_of_rebuild hlisted ip
  rw [hget]
  cases stays with
  | none =>
    cases found with
    | none => rfl
    | some row =>
      obtain ⟨hrow, hat, -⟩ := hfound.2 row rfl
      exact absurd hat (hstays.1 rfl row hrow)
  | some last =>
    obtain ⟨hlast, hat, -⟩ := hstays.2 last rfl
    cases found with
    | none => exact absurd hat (hfound.1 rfl last hlast)
    | some row => exact congrArg some (huntied last hlast row (hfound.2 row rfl).1 hstays hfound)

theorem exists_findsAll (rows : List Row) : ∃ listed, FindsAll rows listed :=
  ⟨_, perm_insertionSort _ _, pairwise_insertionSort (Order.Preimage Row.lastSeen (· ≥ ·)) rows⟩

/-- Whatever the two queries answer, the snapshot gives the address to the
device `find_by_ip` finds, exactly when no two devices were seen last there at
once. -/
theorem snapshot_agrees_iff (rows : List Row) (ip : Ipv4Addr) :
    (∀ listed found, FindsAll rows listed → FindsByIp rows ip found →
      (rebuild listed).get ip = found.map Row.id) ↔ Untied rows ip := by
  constructor
  · intro hagree left _ right _ hleft hright
    obtain ⟨listed, hlisted⟩ := exists_findsAll rows
    have hsame := (hagree listed _ hlisted hleft).symm.trans (hagree listed _ hlisted hright)
    exact Option.some.inj hsame
  · intro huntied listed found hlisted hfound
    exact agrees_of_untied huntied hlisted hfound

/-- After a flush, both queries read the index of the times from its end:
`find_by_ip` finds the second device and the snapshot keeps the first. -/
theorem snapshot_disagrees_flushed :
    ∃ final, run (Watch.next lan) (.begin emptyRegistry 0)
        (handedOver ++ [(3, .flushLastSeen)]) = some final ∧
      FindsAll final.registry.rows final.registry.rows.reverse ∧
      FindsByIp final.registry.rows (ipv4 192 168 1 10) final.registry.rows.getLast? ∧
      final.registry.rows.getLast?.map Row.id = some 60 ∧
      (rebuild final.registry.rows.reverse).get (ipv4 192 168 1 10) = some 50 :=
  ⟨_, rfl, by decide +kernel, by decide +kernel, by decide +kernel, by decide +kernel⟩

end Wardnet.Discovery
