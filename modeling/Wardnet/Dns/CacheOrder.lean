import Wardnet.Dns.Authoritative
import Wardnet.Dns.Cache

/-!
# The eviction queue

Overwrites, invalidations and sweeps leave stale slots in the queue.  What the
eviction relies on is that the queue is sorted by sequence number and that
every entry has a slot with its own number: then the entry that is evicted next
is the one written first, and popping the whole queue empties the cache.
-/

namespace Wardnet.Dns.DnsCache

open HashMap List Option

variable {Wire : Type} {cache : DnsCache Wire}

/-- The names that `invalidate_subtree` removes. -/
def covered (domain name : Text) : Bool :=
  atOrBelow name (normalize ((domain.stripPrefix "*.".toList).getD domain))

/-- `invalidate_subtree`, with the number of entries it removes. -/
def invalidateSubtree (cache : DnsCache Wire) (domain : Text) : ℕ × DnsCache Wire :=
  let entries := cache.entries.retain fun key _ => !covered domain key.2.1
  (cache.entries.toList.length - entries.toList.length,
    compactInsertionOrder { cache with entries := entries })

/-- The operations on a cache, with the clock where they read it. -/
inductive Op (Wire : Type)
  | insert (now : ℕ) (upstream : UpstreamId) (domain : Text) (rtype : RecordType) (wire : Wire)
      (ttlSecs ttlMin ttlMax : ℕ)
  | get (now : ℕ) (upstream : UpstreamId) (domain : Text) (rtype : RecordType) (id : ℕ)
  | invalidateSubtree (domain : Text)
  | flush

def perform (cache : DnsCache Wire) : Op Wire → DnsCache Wire
  | .insert now upstream domain rtype wire ttlSecs ttlMin ttlMax =>
    cache.insert now upstream domain rtype wire ttlSecs ttlMin ttlMax
  | .get .. => cache
  | .invalidateSubtree domain => (cache.invalidateSubtree domain).2
  | .flush => cache.flush

/-- The operation neither overwrites, invalidates nor flushes the entry, and
the entry is not expired when it runs; an insert of a response without a
lifetime does nothing. -/
def Op.Spares (key : CacheKey) (entry : CachedEntry Wire) : Op Wire → Prop
  | .insert now upstream domain rtype _ ttlSecs ttlMin ttlMax =>
    min (max ttlSecs ttlMin) ttlMax = 0 ∨
      key ≠ DnsCache.key upstream domain rtype ∧ entry.isExpired now = false
  | .get .. => True
  | .invalidateSubtree domain => covered domain key.2.1 = false
  | .flush => False

/-! ## Sorted queues -/

abbrev Entries (Wire : Type) := HashMap CacheKey (CachedEntry Wire)

/-- Every entry has its slot, and the queue is sorted. -/
structure Queued (entries : Entries Wire) (slots : List (CacheKey × ℕ)) : Prop where
  slot : ∀ key entry, entries.get key = some entry → (key, entry.seq) ∈ slots
  sorted : slots.Pairwise fun first second => first.2 < second.2

variable {entries : Entries Wire} {slots : List (CacheKey × ℕ)}

theorem liveSlot_iff {slot : CacheKey × ℕ} :
    liveSlot entries slot = true ↔
      ∃ entry, entries.get slot.1 = some entry ∧ entry.seq = slot.2 := by
  simp [liveSlot, Option.any_eq_true]

theorem Queued.filter {kept : Entries Wire} (hqueued : Queued entries slots)
    (hkept : ∀ key entry, kept.get key = some entry → entries.get key = some entry) :
    Queued kept (slots.filter (liveSlot kept)) where
  slot := fun key entry hget => mem_filter.mpr
    ⟨hqueued.slot key entry (hkept key entry hget), liveSlot_iff.mpr ⟨entry, hget, rfl⟩⟩
  sorted := hqueued.sorted.filter _

theorem length_live_le (hsorted : slots.Pairwise fun first second => first.2 < second.2) :
    (slots.filter (liveSlot entries)).length ≤ entries.toList.length := by
  have hnodup : ((slots.filter (liveSlot entries)).map Prod.fst).Nodup := by
    apply (pairwise_map).mpr
    apply (hsorted.filter _).imp_of_mem
    intro first second hfirst hsecond hlt heq
    obtain ⟨entry, hget, hseq⟩ := liveSlot_iff.mp (mem_filter.mp hfirst).2
    obtain ⟨other, hother, hseq'⟩ := liveSlot_iff.mp (mem_filter.mp hsecond).2
    rw [heq, hother] at hget
    cases hget
    omega
  have hsubset : (slots.filter (liveSlot entries)).map Prod.fst ⊆ entries.toList.map Prod.fst := by
    intro key hkey
    obtain ⟨slot, hslot, rfl⟩ := mem_map.mp hkey
    obtain ⟨entry, hget, -⟩ := liveSlot_iff.mp (mem_filter.mp hslot).2
    exact mem_map.mpr ⟨_, mem_toList.mpr hget, rfl⟩
  simpa using (subperm_of_subset hnodup hsubset).length_le

/-- What the loop of `evict_oldest` leaves: a sorted queue, room for one entry,
and of what it removed nothing that is younger than what is left. -/
structure Evicted (capacity : ℕ) (entries : Entries Wire) (slots : List (CacheKey × ℕ))
    (after : Entries Wire × List (CacheKey × ℕ)) : Prop where
  queued : Queued after.1 after.2
  suffix : after.2 <:+ slots
  room : after.1.toList.length < max capacity 1
  oldest : ∀ key entry, entries.get key = some entry → after.1.get key = some entry ∨
    ∀ other left, after.1.get other = some left → entry.seq < left.seq

theorem evicted_evictSlots (capacity : ℕ) (hqueued : Queued entries slots) :
    Evicted capacity entries slots (evictSlots capacity entries slots) := by
  induction slots generalizing entries with
  | nil =>
    have hnone : entries.toList = [] :=
      eq_nil_iff_forall_not_mem.mpr fun entry hmem =>
        absurd (hqueued.slot entry.1 entry.2 (mem_toList.mp hmem)) (by simp)
    exact ⟨hqueued, suffix_rfl, by simp [evictSlots, hnone, Nat.pos_iff_ne_zero],
      fun _ _ hget => .inl hget⟩
  | cons slot slots ih =>
    rw [evictSlots]
    split
    next hroom =>
      exact ⟨hqueued, suffix_rfl, Nat.lt_of_lt_of_le hroom (Nat.le_max_left ..),
        fun _ _ hget => .inl hget⟩
    · obtain ⟨hfirst, hsorted⟩ := pairwise_cons.mp hqueued.sorted
      split
      next hlive =>
        obtain ⟨evicted, hevicted, hseq⟩ := liveSlot_iff.mp hlive
        have hrest : Queued (entries.remove slot.1) slots := by
          refine ⟨fun key entry hget => ?_, hsorted⟩
          rw [get_remove, ite_none_left_eq_some] at hget
          rcases mem_cons.mp (hqueued.slot key entry hget.2) with rfl | hmem
          · exact absurd rfl hget.1
          · exact hmem
        have hafter := ih hrest
        refine ⟨hafter.queued, hafter.suffix.trans (suffix_cons ..), hafter.room, ?_⟩
        intro key entry hget
        by_cases hkey : key = slot.1
        · right
          intro other left hleft
          rw [hkey, hevicted] at hget
          rw [← some.inj hget, hseq]
          exact hfirst _ (hafter.suffix.subset (hafter.queued.slot other left hleft))
        · exact hafter.oldest key entry (by simpa [hkey] using hget)
      next hstale =>
        have hrest : Queued entries slots := by
          refine ⟨fun key entry hget => ?_, hsorted⟩
          rcases mem_cons.mp (hqueued.slot key entry hget) with rfl | hmem
          · exact absurd (liveSlot_iff.mpr ⟨entry, hget, rfl⟩) hstale
          · exact hmem
        have hafter := ih hrest
        exact ⟨hafter.queued, hafter.suffix.trans (suffix_cons ..), hafter.room, hafter.oldest⟩

/-! ## The invariant of the cache -/

structure Sound (capacity : ℕ) (cache : DnsCache Wire) : Prop where
  capacity_eq : cache.capacity = capacity
  queued : Queued cache.entries cache.insertionOrder
  fresh : ∀ slot ∈ cache.insertionOrder, slot.2 < cache.nextSeq
  bounded : cache.entries.toList.length ≤ max capacity 1
  short : cache.insertionOrder.length ≤ max (2 * cache.entries.toList.length) orderCompactFloor

variable {capacity : ℕ} {entry : CachedEntry Wire} {key : CacheKey}

theorem Sound.seq_lt (hsound : Sound capacity cache) (hget : cache.entries.get key = some entry) :
    entry.seq < cache.nextSeq :=
  hsound.fresh _ (hsound.queued.slot key entry hget)

theorem sound_empty (hcapacity : cache.capacity = capacity) (hentries : cache.entries = .empty)
    (horder : cache.insertionOrder = []) : Sound capacity cache where
  capacity_eq := hcapacity
  queued := by simp [hentries, horder, Queued.mk]
  fresh := by simp [horder]
  bounded := by simp [hentries, HashMap.toList, HashMap.empty]
  short := by simp [horder]

/-- Compaction keeps what the queue is for and bounds its length. -/
theorem sound_compact (hcapacity : cache.capacity = capacity)
    (hqueued : Queued cache.entries cache.insertionOrder)
    (hfresh : ∀ slot ∈ cache.insertionOrder, slot.2 < cache.nextSeq)
    (hbounded : cache.entries.toList.length ≤ max capacity 1) :
    Sound capacity (compactInsertionOrder cache) := by
  unfold compactInsertionOrder
  simp only
  split
  next hshort =>
    exact ⟨hcapacity, hqueued, hfresh, hbounded, hshort.le⟩
  · refine ⟨hcapacity, hqueued.filter fun _ _ => id, fun slot hslot => ?_, hbounded, ?_⟩
    · exact hfresh slot (mem_filter.mp hslot).1
    · have hlive : _ ≤ cache.entries.toList.length := length_live_le hqueued.sorted
      simp only
      omega

structure Roomy (cache : DnsCache Wire) (now : ℕ) (newKey : CacheKey) (roomy : DnsCache Wire) :
    Prop where
  capacity_eq : roomy.capacity = cache.capacity
  queued : Queued roomy.entries roomy.insertionOrder
  subset : roomy.insertionOrder ⊆ cache.insertionOrder
  room : (roomy.entries.get newKey).isSome = true ∧
      roomy.entries.toList.length ≤ max cache.capacity 1 ∨
    roomy.entries.get newKey = none ∧ roomy.entries.toList.length < max cache.capacity 1
  oldest : ∀ key entry, cache.entries.get key = some entry → entry.isExpired now = false →
    roomy.entries.get key = some entry ∨
      ∀ other left, roomy.entries.get other = some left → entry.seq < left.seq

section

variable (hsound : Sound capacity cache)
include hsound

theorem roomy_makeRoom (now : ℕ) (newKey : CacheKey) :
    Roomy cache now newKey (makeRoom cache now newKey) := by
  obtain ⟨rfl, hqueued, hfresh, hbounded, -⟩ := hsound
  have hgone : ∀ after : Entries Wire, cache.entries.get newKey = none →
      (∀ entry, after.get newKey = some entry → cache.entries.get newKey = some entry) →
      after.get newKey = none := by
    intro after hnone hkept
    rw [eq_none_iff_forall_ne_some] at hnone ⊢
    exact fun entry hget => hnone entry (hkept entry hget)
  unfold makeRoom
  split
  next hfull =>
    have hnone := isNone_iff_eq_none.mp hfull.2
    simp only
    split
    · have hswept : Queued (evictExpired cache now).entries
          (evictExpired cache now).insertionOrder :=
        hqueued.filter fun _ _ => get_evictExpired
      have hevicted := evicted_evictSlots cache.capacity hswept
      refine ⟨rfl, hevicted.queued, fun slot hslot => ?_, .inr ⟨?_, hevicted.room⟩, ?_⟩
      · exact (mem_filter.mp (hevicted.suffix.subset hslot)).1
      · exact hgone _ hnone fun _ hget => get_evictExpired (get_evictSlots hget)
      · intro key entry hget hexpired
        apply hevicted.oldest key entry
        simp [evictExpired, hget, Option.filter, hexpired]
    · have hevicted := evicted_evictSlots cache.capacity hqueued
      exact ⟨rfl, hevicted.queued, hevicted.suffix.subset,
        .inr ⟨hgone _ hnone fun _ hget => get_evictSlots hget, hevicted.room⟩,
        fun key entry hget _ => hevicted.oldest key entry hget⟩
  next hroom =>
    refine ⟨rfl, hqueued, fun _ => id, ?_, fun _ _ hget _ => .inl hget⟩
    cases hget : cache.entries.get newKey with
    | some entry => exact .inl ⟨rfl, hbounded⟩
    | none =>
      simp only [hget, isNone_none, and_true, not_le] at hroom
      exact .inr ⟨rfl, by omega⟩

theorem Sound.insert (now : ℕ) (upstream : UpstreamId)
    (domain : Text) (rtype : RecordType) (wire : Wire) (ttlSecs ttlMin ttlMax : ℕ) :
    Sound capacity (cache.insert now upstream domain rtype wire ttlSecs ttlMin ttlMax) := by
  unfold DnsCache.insert
  simp only
  split
  · exact hsound
  · have hroomy := roomy_makeRoom hsound now (DnsCache.key upstream domain rtype)
    have hseq := makeRoom_nextSeq cache now (DnsCache.key upstream domain rtype)
    have hold : ∀ slot ∈ (makeRoom cache now (DnsCache.key upstream domain rtype)).insertionOrder,
        slot.2 < cache.nextSeq := fun slot hslot => hsound.fresh slot (hroomy.subset hslot)
    apply sound_compact
    · exact hroomy.capacity_eq.trans hsound.capacity_eq
    · refine ⟨fun key entry hget => ?_, pairwise_append.mpr ⟨hroomy.queued.sorted,
        pairwise_singleton _ _, fun slot hslot later hlater => ?_⟩⟩
      · rcases get_insert_eq_some.mp hget with ⟨rfl, rfl⟩ | ⟨-, hget⟩
        · simp
        · exact mem_append_left _ (hroomy.queued.slot key entry hget)
      · rw [mem_singleton.mp hlater, hseq]
        exact hold slot hslot
    · intro slot hslot
      rw [hseq]
      rcases mem_append.mp hslot with hslot | hslot
      · exact Nat.lt_succ_of_lt (hold slot hslot)
      · rw [mem_singleton.mp hslot, hseq]
        exact Nat.lt_succ_self _
    · have hcapacity := hsound.capacity_eq
      rcases hroomy.room with ⟨hsome, hlength⟩ | ⟨hnone, hlength⟩
      · rw [length_insert_of_some _ hsome]
        omega
      · rw [length_insert_of_none _ hnone]
        omega

theorem Sound.perform (op : Op Wire) : Sound capacity (cache.perform op) := by
  cases op with
  | insert now upstream domain rtype wire ttlSecs ttlMin ttlMax => exact hsound.insert ..
  | get now upstream domain rtype id => exact hsound
  | flush => exact sound_empty hsound.capacity_eq rfl rfl
  | invalidateSubtree domain =>
    apply sound_compact
    · exact hsound.capacity_eq
    · refine ⟨fun key entry hget => hsound.queued.slot key entry ?_, hsound.queued.sorted⟩
      rw [get_retain, filter_eq_some_iff] at hget
      exact hget.1
    · exact hsound.fresh
    · rw [toList_retain]
      exact (length_filter_le ..).trans hsound.bounded

/-- An entry that an operation spares stays, or is older than all that stay. -/
theorem Sound.spared {op : Op Wire}
    (hget : cache.entries.get key = some entry) (hspares : op.Spares key entry) :
    (cache.perform op).entries.get key = some entry ∨
      ∀ other left, (cache.perform op).entries.get other = some left → entry.seq < left.seq := by
  cases op with
  | get now upstream domain rtype id => exact .inl hget
  | flush => cases hspares
  | invalidateSubtree domain =>
    have hkept : covered domain key.2.1 = false := hspares
    simp [DnsCache.perform, invalidateSubtree, compactInsertionOrder_entries, hget, Option.filter,
      hkept]
  | insert now upstream domain rtype wire ttlSecs ttlMin ttlMax =>
    simp only [DnsCache.perform, DnsCache.insert]
    split
    · exact .inl hget
    next hlives =>
      obtain ⟨hkey, hfresh⟩ := hspares.resolve_left hlives
      simp only [compactInsertionOrder_entries, HashMap.get_insert, if_neg hkey]
      have hroomy := roomy_makeRoom hsound now (DnsCache.key upstream domain rtype)
      refine (hroomy.oldest key entry hget hfresh).imp_right fun holdest other left hleft => ?_
      split at hleft
      · rw [← some.inj hleft, makeRoom_nextSeq]
        exact hsound.seq_lt hget
      · exact holdest other left hleft

/-- An entry that was not there before is numbered above all that were. -/
theorem Sound.written {op : Op Wire} (hget : (cache.perform op).entries.get key = some entry) :
    cache.entries.get key = some entry ∨
      ∀ other old, cache.entries.get other = some old → old.seq < entry.seq := by
  cases op with
  | get now upstream domain rtype id => exact .inl hget
  | flush => cases hget
  | invalidateSubtree domain =>
    simp only [DnsCache.perform, invalidateSubtree, compactInsertionOrder_entries,
      get_retain, filter_eq_some_iff] at hget
    exact .inl hget.1
  | insert now upstream domain rtype wire ttlSecs ttlMin ttlMax =>
    rcases get_insert hget with ⟨-, rfl, -⟩ | hbefore
    · exact .inr fun other old hold => hsound.seq_lt hold
    · exact .inl hbefore

end

/-- After any operations the cache is within its capacity, every entry has
exactly one slot, popping slots makes room, and the queue is short.  One more
operation removes a spared entry only if all that stay were written after it,
and numbers what it writes above everything before. -/
theorem cache_representation (capacity : ℕ) (ops : List (Op Wire)) (op : Op Wire) :
    let before := ops.foldl DnsCache.perform (new capacity)
    let after := before.perform op
    after.entries.toList.length ≤ max capacity 1 ∧
      (∀ key entry, after.entries.get key = some entry →
        after.insertionOrder.count (key, entry.seq) = 1) ∧
      (evictOldest after).entries.toList.length < max capacity 1 ∧
      after.insertionOrder.length ≤ max (2 * after.entries.toList.length) 64 ∧
      (∀ key entry, before.entries.get key = some entry → op.Spares key entry →
        after.entries.get key = some entry ∨
          ∀ other left, after.entries.get other = some left → entry.seq < left.seq) ∧
      ∀ key entry, after.entries.get key = some entry → before.entries.get key = some entry ∨
          ∀ other old, before.entries.get other = some old → old.seq < entry.seq := by
  intro before after
  have hbefore : Sound capacity before :=
    foldlRecOn ops _ (sound_empty rfl rfl rfl) fun cache hsound op _ => hsound.perform op
  have hafter : Sound capacity after := hbefore.perform op
  have hroom := (evicted_evictSlots after.capacity hafter.queued).room
  refine ⟨hafter.bounded, fun key entry hget => ?_, hafter.capacity_eq ▸ hroom, hafter.short,
    fun _ _ hget hspares => hbefore.spared hget hspares, fun _ _ hget => hbefore.written hget⟩
  have hnodup : after.insertionOrder.Nodup := by
    apply hafter.queued.sorted.imp
    rintro first second hlt rfl
    exact lt_irrefl _ hlt
  exact count_eq_one_of_mem hnodup (hafter.queued.slot key entry hget)

theorem cache_representation_overwritten :
    let insert (domain : String) : Op Unit :=
      .insert 0 .default domain.toList .a () 60 0 60
    ((new 1).perform (insert "a.b") |>.perform (insert "c.d")).entries.toList.length ≤ 1 := by
  intro insert
  exact (cache_representation 1 [insert "a.b"] (insert "c.d")).1

/-! ## The cache as a store that forgets -/

/-- The responses written last, each with its instant and lifetime. -/
abbrev Written (Wire : Type) := CacheKey → Option (Wire × ℕ × ℕ)

/-- An operation on a store without a capacity. -/
def Written.perform (written : Written Wire) : Op Wire → Written Wire
  | .insert now upstream domain rtype wire ttlSecs ttlMin ttlMax =>
    let ttl := min (max ttlSecs ttlMin) ttlMax
    if ttl = 0 then written
    else Function.update written (DnsCache.key upstream domain rtype) (some (wire, now, ttl))
  | .get .. => written
  | .invalidateSubtree domain => fun key => if covered domain key.2.1 then none else written key
  | .flush => fun _ => none

/-- What the cache holds is what was written. -/
def Reflects (cache : DnsCache Wire) (written : Written Wire) : Prop :=
  ∀ key entry, cache.entries.get key = some entry →
    written key = some (entry.wire, entry.insertedAt, entry.ttl)

theorem get_makeRoom {now : ℕ} {newKey : CacheKey}
    (hget : (makeRoom cache now newKey).entries.get key = some entry) :
    cache.entries.get key = some entry := by
  unfold makeRoom at hget
  simp only at hget
  split at hget
  · split at hget
    · exact get_evictExpired (get_evictSlots hget)
    · exact get_evictSlots hget
  · exact hget

section

variable {written : Written Wire} (hreflects : Reflects cache written)
include hreflects

theorem Reflects.perform (op : Op Wire) :
    Reflects (cache.perform op) (written.perform op) := by
  intro key entry hget
  cases op with
  | insert now upstream domain rtype wire ttlSecs ttlMin ttlMax =>
    simp only [DnsCache.perform, DnsCache.insert, Written.perform] at hget ⊢
    split at hget
    next hzero =>
      rw [if_pos hzero]
      exact hreflects key entry hget
    next hzero =>
      rw [if_neg hzero]
      rw [compactInsertionOrder_entries] at hget
      rcases get_insert_eq_some.mp hget with ⟨rfl, rfl⟩ | ⟨hne, hget⟩
      · simp
      · rw [Function.update_of_ne hne]
        exact hreflects key entry (get_makeRoom hget)
  | get => exact hreflects key entry hget
  | invalidateSubtree domain =>
    simp only [DnsCache.perform, invalidateSubtree, compactInsertionOrder_entries,
      get_retain] at hget
    obtain ⟨hget, hkept⟩ := filter_eq_some_iff.mp hget
    have hwritten := hreflects key entry hget
    simpa [Written.perform, (Bool.not_eq_true' _).mp hkept] using hwritten
  | flush => simp [DnsCache.perform, flush] at hget

theorem Reflects.run (ops : List (Op Wire)) :
    Reflects (ops.foldl DnsCache.perform cache) (ops.foldl Written.perform written) := by
  induction ops generalizing cache written with
  | nil => exact hreflects
  | cons op ops ih => exact ih (hreflects.perform op)

end

/-- A hit is the response written last under its key and neither invalidated
nor flushed since, within its lifetime.  What the capacity costs is only that
the cache may have forgotten it. -/
theorem hit_is_last_written (capacity : ℕ) (ops : List (Op Wire)) (stamp : ℕ → ℕ → ℕ → Wire → Wire)
    (now : ℕ) (upstream : UpstreamId) (domain : Text) (rtype : RecordType) (id : ℕ) {hit : Wire}
    (hhit : (ops.foldl DnsCache.perform (new capacity)).get stamp now upstream domain rtype id =
      some hit) :
    ∃ wire insertedAt ttl, ops.foldl Written.perform (fun _ => none)
        (DnsCache.key upstream domain rtype) = some (wire, insertedAt, ttl) ∧
      now - insertedAt < ttl * nanosPerSec ∧ hit = stamp id ((now - insertedAt) / nanosPerSec)
        (ttl - (now - insertedAt) / nanosPerSec) wire := by
  have hnew : Reflects (new capacity) fun _ => (none : Option (Wire × ℕ × ℕ)) := by
    simp [Reflects, new]
  have hreflects := hnew.run ops
  unfold DnsCache.get at hhit
  split at hhit
  · cases hhit
  next entry hentry =>
    split at hhit
    · cases hhit
    next hlive =>
      refine ⟨_, _, _, hreflects _ entry hentry, ?_, (Option.some.inj hhit).symm⟩
      simpa [CachedEntry.isExpired] using hlive

theorem hit_is_last_written_overwritten :
    ∃ wire insertedAt ttl, ([.insert 0 .default ['a'] .a 1 60 0 300,
        .insert 5 .default ['a'] .a 2 60 0 300] : List (Op ℕ)).foldl Written.perform
          (fun _ => none) (DnsCache.key .default ['a'] .a) = some (wire, insertedAt, ttl) ∧
      6 - insertedAt < ttl * nanosPerSec ∧ 2 = wire := by
  refine hit_is_last_written 1 _ (fun _ _ _ wire => wire) 6 .default ['a'] .a 0 ?_
  decide +kernel

end Wardnet.Dns.DnsCache
