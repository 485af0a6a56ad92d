import Wardnet.Common.Dns
import Wardnet.Core.HashMap

/-!
# The response cache

A cache of responses with a time to live and first-in-first-out eviction at
capacity.  The cache keeps a response as an opaque buffer; how a hit stamps
the transaction identifier and ages the record lifetimes is a parameter of
`get`.  The clock counts nanoseconds.
-/

namespace Wardnet.Dns

abbrev CacheKey := UpstreamId × Text × RecordType

structure CachedEntry (Wire : Type) where
  wire : Wire
  insertedAt : ℕ
  ttl : ℕ
  seq : ℕ

def nanosPerSec : ℕ := 10 ^ 9

def CachedEntry.isExpired {Wire : Type} (entry : CachedEntry Wire) (now : ℕ) : Bool :=
  entry.ttl * nanosPerSec ≤ now - entry.insertedAt

structure DnsCache (Wire : Type) where
  entries : HashMap CacheKey (CachedEntry Wire)
  insertionOrder : List (CacheKey × ℕ)
  nextSeq : ℕ
  capacity : ℕ
  insertsSinceSweep : ℕ

namespace DnsCache

variable {Wire : Type}

def new (capacity : ℕ) : DnsCache Wire where
  entries := .empty
  insertionOrder := []
  nextSeq := 0
  capacity := capacity
  insertsSinceSweep := 0

def expiredSweepDivisor : ℕ := 4

def orderCompactFloor : ℕ := 64

/-- The cache key of a query: `canonical_domain` normalises the name. -/
def key (upstream : UpstreamId) (domain : Text) (rtype : RecordType) : CacheKey :=
  (upstream, normalize domain, rtype)

/-- `DnsCache::get`: `stamp id elapsed remaining` readies a buffer for the
caller, with both times in whole seconds. -/
def get (cache : DnsCache Wire) (stamp : ℕ → ℕ → ℕ → Wire → Wire) (now : ℕ)
    (upstream : UpstreamId) (domain : Text) (rtype : RecordType) (id : ℕ) : Option Wire :=
  match cache.entries.get (key upstream domain rtype) with
  | none => none
  | some entry =>
    if entry.isExpired now then none
    else
      let elapsed := (now - entry.insertedAt) / nanosPerSec
      some (stamp id elapsed (entry.ttl - elapsed) entry.wire)

/-- A queue slot is live while its entry still carries its sequence number. -/
def liveSlot (entries : HashMap CacheKey (CachedEntry Wire)) (slot : CacheKey × ℕ) : Bool :=
  (entries.get slot.1).any fun entry => entry.seq = slot.2

def evictExpired (cache : DnsCache Wire) (now : ℕ) : DnsCache Wire :=
  let entries := cache.entries.retain fun _ entry => !entry.isExpired now
  { cache with
    entries := entries
    insertionOrder := cache.insertionOrder.filter (liveSlot entries) }

/-- The loop of `evict_oldest` over the remaining slots. -/
def evictSlots (capacity : ℕ) (entries : HashMap CacheKey (CachedEntry Wire)) :
    List (CacheKey × ℕ) → HashMap CacheKey (CachedEntry Wire) × List (CacheKey × ℕ)
  | [] => (entries, [])
  | slot :: slots =>
    if entries.toList.length < capacity then (entries, slot :: slots)
    else
      evictSlots capacity (if liveSlot entries slot then entries.remove slot.1 else entries) slots

def evictOldest (cache : DnsCache Wire) : DnsCache Wire :=
  let evicted := evictSlots cache.capacity cache.entries cache.insertionOrder
  { cache with entries := evicted.1, insertionOrder := evicted.2 }

def compactInsertionOrder (cache : DnsCache Wire) : DnsCache Wire :=
  let threshold := max (2 * cache.entries.toList.length) orderCompactFloor
  if cache.insertionOrder.length < threshold then cache
  else
    { cache with
      insertionOrder := cache.insertionOrder.filter (liveSlot cache.entries) }

/-- The part of `insert` that makes room for a new key. -/
def makeRoom (cache : DnsCache Wire) (now : ℕ) (newKey : CacheKey) : DnsCache Wire :=
  if cache.capacity ≤ cache.entries.toList.length ∧ (cache.entries.get newKey).isNone then
    let inserts := cache.insertsSinceSweep + 1
    if max (cache.capacity / expiredSweepDivisor) 1 ≤ inserts then
      evictOldest (evictExpired { cache with insertsSinceSweep := 0 } now)
    else evictOldest { cache with insertsSinceSweep := inserts }
  else cache

def insert (cache : DnsCache Wire) (now : ℕ) (upstream : UpstreamId)
    (domain : Text) (rtype : RecordType) (wire : Wire)
    (ttlSecs ttlMin ttlMax : ℕ) : DnsCache Wire :=
  let ttl := min (max ttlSecs ttlMin) ttlMax
  if ttl = 0 then cache
  else
    let newKey := key upstream domain rtype
    let roomy := makeRoom cache now newKey
    compactInsertionOrder
      { roomy with
        entries := roomy.entries.insert newKey ⟨wire, now, ttl, roomy.nextSeq⟩
        insertionOrder := roomy.insertionOrder ++ [(newKey, roomy.nextSeq)]
        nextSeq := roomy.nextSeq + 1 }

def flush (cache : DnsCache Wire) : DnsCache Wire :=
  { cache with entries := .empty, insertionOrder := [] }

/-! ## What an insert can leave behind -/

variable (cache : DnsCache Wire) {entry : CachedEntry Wire} {found : CacheKey}

theorem get_evictSlots {capacity : ℕ} {entries : HashMap CacheKey (CachedEntry Wire)}
    {slots : List (CacheKey × ℕ)}
    (hget : (evictSlots capacity entries slots).1.get found = some entry) :
    entries.get found = some entry := by
  induction slots generalizing entries with
  | nil => exact hget
  | cons slot slots ih =>
    rw [evictSlots] at hget
    split at hget
    · exact hget
    · have hevicted := ih hget
      split at hevicted
      · exact (HashMap.get_remove_eq_some.mp hevicted).2
      · exact hevicted

theorem get_evictExpired {cache : DnsCache Wire} {now : ℕ}
    (hget : (evictExpired cache now).entries.get found = some entry) :
    cache.entries.get found = some entry := by
  simp only [evictExpired, HashMap.get_retain, Option.filter_eq_some_iff] at hget
  exact hget.1

theorem compactInsertionOrder_entries : (compactInsertionOrder cache).entries = cache.entries := by
  unfold compactInsertionOrder
  simp only
  split <;> rfl

theorem compactInsertionOrder_nextSeq : (compactInsertionOrder cache).nextSeq = cache.nextSeq := by
  unfold compactInsertionOrder
  simp only
  split <;> rfl

theorem makeRoom_nextSeq (now : ℕ) (newKey : CacheKey) :
    (makeRoom cache now newKey).nextSeq = cache.nextSeq := by
  unfold makeRoom
  simp only
  split
  · split <;> rfl
  · rfl

/-- An entry after an insert is the inserted response, under its key, with its
clamped lifetime and the next sequence number, or was there before. -/
theorem get_insert {cache : DnsCache Wire} {now : ℕ} {upstream : UpstreamId} {domain : Text}
    {rtype : RecordType} {wire : Wire} {ttlSecs ttlMin ttlMax : ℕ}
    (hget : (cache.insert now upstream domain rtype wire ttlSecs ttlMin
      ttlMax).entries.get found = some entry) :
    (found = key upstream domain rtype ∧
      entry = ⟨wire, now, min (max ttlSecs ttlMin) ttlMax, cache.nextSeq⟩ ∧
      min (max ttlSecs ttlMin) ttlMax ≠ 0 ∧
      cache.nextSeq < (cache.insert now upstream domain rtype wire ttlSecs ttlMin ttlMax).nextSeq) ∨
      cache.entries.get found = some entry := by
  unfold insert at hget ⊢
  simp only at hget ⊢
  split at hget
  · exact .inr hget
  next hpositive =>
    rw [compactInsertionOrder_entries, HashMap.get_insert_eq_some] at hget
    rw [if_neg hpositive, compactInsertionOrder_nextSeq]
    simp only [makeRoom_nextSeq]
    rcases hget with ⟨hkey, rfl⟩ | ⟨-, hbefore⟩
    · exact .inl ⟨hkey, by rw [makeRoom_nextSeq], hpositive, Nat.lt_succ_self _⟩
    · right
      unfold makeRoom at hbefore
      split at hbefore
      · simp only at hbefore
        split at hbefore
        · exact get_evictExpired (get_evictSlots hbefore)
        · exact get_evictSlots hbefore
      · exact hbefore

theorem get_insert_new {now : ℕ} {upstream : UpstreamId} {domain : Text} {rtype : RecordType}
    {wire : Wire} {ttlSecs ttlMin ttlMax : ℕ} (hpositive : min (max ttlSecs ttlMin) ttlMax ≠ 0) :
    ((new 1).insert now upstream domain rtype wire ttlSecs ttlMin ttlMax).entries.get
      (key upstream domain rtype) = some ⟨wire, now, min (max ttlSecs ttlMin) ttlMax, 0⟩ := by
  unfold insert
  rw [if_neg hpositive, compactInsertionOrder_entries, HashMap.get_insert, if_pos rfl,
    makeRoom_nextSeq]
  rfl

theorem nextSeq_le_insert (now : ℕ)
    (upstream : UpstreamId) (domain : Text) (rtype : RecordType) (wire : Wire)
    (ttlSecs ttlMin ttlMax : ℕ) :
    cache.nextSeq ≤ (cache.insert now upstream domain rtype wire ttlSecs
      ttlMin ttlMax).nextSeq := by
  unfold insert
  simp only
  split
  · exact le_rfl
  · rw [compactInsertionOrder_nextSeq]
    simp only [makeRoom_nextSeq]
    exact Nat.le_succ _

end DnsCache

end Wardnet.Dns
