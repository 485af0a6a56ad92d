import Wardnet.Core.Transition
import Wardnet.Dns.Pipeline

/-!
# Filtering behind the shared cache

The cache is keyed by upstream pool, name and type, and is consulted before
the filter.  Only responses to queries the filter passed are stored, but the
client that stored one need not be the client that is asking: a query that the
filter would block or rewrite is answered from the cache when an earlier query
with the same key has left a live entry there.
-/

namespace Wardnet.Dns

open Transition

/-- The results of a query whose response holds what an upstream returned. -/
def DnsQueryResult.fromUpstream : DnsQueryResult → Bool
  | .forwarded | .cacheHit | .blockedSkipped | .negative => true
  | _ => false

/-- The query has a verdict of its own, and it is not to pass. -/
def Filtered (pipeline : QueryPipeline) (query : Query) : Prop :=
  ∃ request question, pending pipeline query = some (request, question) ∧
    (verdict pipeline query question).action ≠ .pass

/-- A query that its own verdict blocks or rewrites is not answered with what
an upstream returned. -/
def Enforced (pipeline : QueryPipeline) (cache : DnsCache Message) (query : Query) : Prop :=
  Filtered pipeline query →
    (handle pipeline cache query).result.all fun result => !result.fromUpstream

/-- What a query leaves under its key when an empty cache sends it on. -/
def storedAnswer (pipeline : QueryPipeline) (query : Query) (request : Message)
    (question : Question) : Option (CachedEntry Message) :=
  (filterAndForward pipeline (.new 1) query request question).cache.entries.get
    (cacheKey pipeline query question)

/-- The filter passes the earlier query, the two share upstream pool, name and
type, and what the earlier one stores is alive when the later one looks. -/
def LeavesLive (pipeline : QueryPipeline) (earlier later : Query) : Prop :=
  ∃ passed ∈ pending pipeline earlier, ∃ asked ∈ pending pipeline later,
    (verdict pipeline earlier passed.2).action = .pass ∧
      cacheKey pipeline earlier passed.2 = cacheKey pipeline later asked.2 ∧
      ∃ entry ∈ storedAnswer pipeline earlier passed.1 passed.2,
        entry.isExpired later.env.lookupAt = false

/-- No query before a blocked or rewritten one has left it a live answer. -/
def Apart (pipeline : QueryPipeline) (queries : List Query) : Prop :=
  queries.Pairwise fun earlier later =>
    Filtered pipeline later → ¬ LeavesLive pipeline earlier later

def serve (pipeline : QueryPipeline) (cache : DnsCache Message)
    (query : Query) : Option (DnsCache Message) :=
  some (handle pipeline cache query).cache

theorem send_result {library : Library} {message : Message}
    {result : DnsQueryResult} {cache : DnsCache Message} (hlocal : result.fromUpstream = false) :
    (send library message result cache).result.all fun result => !result.fromUpstream := by
  unfold send
  split
  · simp [hlocal]
  · rfl

variable {pipeline : QueryPipeline} {cache : DnsCache Message} {query : Query}

theorem enforced_of_uncached (huncached : ∀ asked ∈ pending pipeline query,
    cached pipeline cache query asked.1 asked.2 = none) : Enforced pipeline cache query := by
  rintro ⟨request, question, hpending, haction⟩
  rw [handle_of_pending cache hpending, huncached _ hpending]
  simp only [filterAndForward]
  cases hverdict : (verdict pipeline query question).action with
  | pass => exact absurd hverdict haction
  | block => exact send_result rfl
  | rewrite ip =>
    simp only
    split
    · exact send_result rfl
    · rfl

/-! ## Where the entries come from -/

/-- Every entry was stored for an earlier query that the filter passed: it has
that query's key, and the time and lifetime of its stored answer. -/
def Sourced (pipeline : QueryPipeline) (earlier : List Query) (cache : DnsCache Message) : Prop :=
  ∀ key entry, cache.entries.get key = some entry →
    ∃ query ∈ earlier, ∃ passed ∈ pending pipeline query,
      (verdict pipeline query passed.2).action = .pass ∧
        cacheKey pipeline query passed.2 = key ∧
        ∃ stored ∈ storedAnswer pipeline query passed.1 passed.2,
          stored.insertedAt = entry.insertedAt ∧ stored.ttl = entry.ttl

theorem Sourced.mono {earlier later : List Query} (hsourced : Sourced pipeline earlier cache)
    (hsubset : earlier ⊆ later) : Sourced pipeline later cache := by
  intro key entry hentry
  obtain ⟨query, hquery, hsource⟩ := hsourced key entry hentry
  exact ⟨query, hsubset hquery, hsource⟩

/-- An entry that forwarding adds is the query's stored answer. -/
theorem filterAndForward_entries {request : Message} {question : Question}
    (haction : (verdict pipeline query question).action = .pass) {key : CacheKey}
    {entry : CachedEntry Message}
    (hentry : (filterAndForward pipeline cache query request question).cache.entries.get key =
      some entry) :
    cache.entries.get key = some entry ∨ cacheKey pipeline query question = key ∧
      ∃ stored ∈ storedAnswer pipeline query request question,
        stored.insertedAt = entry.insertedAt ∧ stored.ttl = entry.ttl := by
  obtain ⟨stored, hstores⟩ := storesAtMost_filterAndForward pipeline query request haction
  rw [hstores] at hentry
  cases stored with
  | none => exact .inl hentry
  | some answer =>
    rcases DnsCache.get_insert hentry with ⟨rfl, rfl, hpositive, -⟩ | hbefore
    · refine .inr ⟨rfl, ⟨answer.1, _, _, 0⟩, ?_, rfl, rfl⟩
      rw [storedAnswer, hstores]
      exact DnsCache.get_insert_new hpositive
    · exact .inl hbefore

theorem Sourced.handle {earlier : List Query} (hsourced : Sourced pipeline earlier cache)
    (query : Query) :
    Sourced pipeline (earlier ++ [query]) (handle pipeline cache query).cache := by
  have hkept := hsourced.mono (List.subset_append_left earlier [query])
  cases hpending : pending pipeline query with
  | none => rwa [handle_cache_of_not_pending cache hpending]
  | some asked =>
    rw [handle_of_pending cache hpending]
    split
    · exact hkept
    · by_cases haction : (verdict pipeline query asked.2).action = .pass
      · intro key entry hentry
        rcases filterAndForward_entries haction hentry with hbefore | hstored
        · exact hkept key entry hbefore
        · exact ⟨query, by simp, asked, hpending, haction, hstored⟩
      · rwa [filterAndForward_cache_of_filtered cache asked.1 haction]

/-- A live entry under the key of a later query was left for it. -/
theorem Sourced.uncached {earlier : List Query} (hsourced : Sourced pipeline earlier cache)
    (hapart : ∀ before ∈ earlier, ¬ LeavesLive pipeline before query) :
    ∀ asked ∈ pending pipeline query, cached pipeline cache query asked.1 asked.2 = none := by
  intro asked hasked
  unfold cached DnsCache.get
  split
  · rfl
  next entry hentry =>
    obtain ⟨before, hbefore, passed, hpassed, haction, hkey, stored, hstored, hinserted, httl⟩ :=
      hsourced _ entry hentry
    rw [if_pos]
    by_contra hlive
    refine hapart before hbefore
      ⟨passed, hpassed, asked, hasked, haction, hkey, stored, hstored, ?_⟩
    simpa [CachedEntry.isExpired, hinserted, httl] using hlive

/-- The induction is on the queries still to come, with those already handled
as the sources of the cache. -/
theorem Sourced.enforced {earlier queries : List Query} (hsourced : Sourced pipeline earlier cache)
    (hapart : Apart pipeline (earlier ++ queries)) :
    Meets (serve pipeline) (Enforced pipeline) cache queries := by
  induction queries generalizing earlier cache with
  | nil => trivial
  | cons query queries ih =>
    refine ⟨fun hfiltered => ?_, fun next hnext => ?_⟩
    · refine enforced_of_uncached (hsourced.uncached fun before hbefore => ?_) hfiltered
      exact (List.pairwise_append.mp hapart).2.2 before hbefore query
        List.mem_cons_self hfiltered
    · cases hnext
      refine ih (hsourced.handle query) ?_
      rwa [List.append_assoc]

/-- A pipeline without local records, limits or tunnels, whose filter lets the
client at `10.0.0.1` bypass filtering and blocks `ads.example` for the client
at `10.0.0.2`. -/
def twoClients : QueryPipeline where
  library :=
    { nameFromStrRelaxed := some
      nameFromUtf8 := some
      parseIpv4 := fun _ => none
      parseIpv6 := fun _ => none
      isSocketAddr := fun _ => false
      encodes := fun _ => true }
  config :=
    { resolutionMode := .forwarding
      upstreamServers := ["9.9.9.9".toList]
      forwarderSelectionMode := .failover
      singleUpstream := none
      dnssecEnabled := false
      rebindingProtection := true
      cacheTtlMinSecs := 0
      cacheTtlMaxSecs := 86400 }
  filter :=
    { Filter.State.new with
      filterHeap := Heap.empty.alloc (.ofBlocklist ["ads.example".toList])
      profileHeap := Heap.empty.alloc [0]
      contexts :=
        (HashMap.empty.insert (.v4 (Net.ipv4 10 0 0 1))
          ⟨false, [], some 1⟩).insert (.v4 (Net.ipv4 10 0 0 2))
          ⟨true, [0], some 2⟩ }
  routingSnapshot := .empty
  deviceRoutingSnapshot := .empty
  authoritativeView := .empty

def adsRecord (ttl : ℕ) : Record := ⟨"ads.example.".toList, ttl, .a (Net.ipv4 93 184 216 34)⟩

/-- A query for `ads.example` from the given address, at the given second. -/
def adsQuery (src : Net.IpAddr) (second : ℕ) : Query where
  packet := .decoded { response 7 [⟨"ads.example.".toList, .a⟩] with id := 7 }
  src := src
  client := .ip src
  env :=
    { lookupAt := second * nanosPerSec
      insertAt := second * nanosPerSec
      admitted := true
      ladder := [.answered [adsRecord 300]]
      deadlineExpired := false
      recursor := none
      tunnel := none
      conditional := [] }

/-- The blocked client asks before the other one, and again when that one's
answer has expired. -/
def adsQueries : List Query :=
  [adsQuery (.v4 (Net.ipv4 10 0 0 2)) 0, adsQuery (.v4 (Net.ipv4 10 0 0 1)) 1,
    adsQuery (.v4 (Net.ipv4 10 0 0 2)) 301]

end Wardnet.Dns
