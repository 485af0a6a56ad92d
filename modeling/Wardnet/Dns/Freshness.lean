import Wardnet.Dns.Enforcement
import Wardnet.Dns.Invalidation

/-!
# Freshness of cached responses

A flush empties the cache, but a query that was passed by the old filter, or
that has read the old settings, stores its response whenever the upstream
answers.  An entry served after the flush is as new as the flush in every run
whose flushes find no such query in flight and in which no query reads the
configuration between the flush of an update and the store of its
configuration; both conditions are needed.
-/

namespace Wardnet.Dns.Invalidation

open HashMap List Transition

/-! ## Fresh entries -/

def Setting.Agrees (config : DnsConfig) : Setting → Prop
  | .rebinding protection => protection = config.rebindingProtection
  | .upstreams pool => pool = .build config
  | .recursion => config.resolutionMode = .recursive
  | .validation enabled => enabled = config.dnssecEnabled

instance (config : DnsConfig) (setting : Setting) : Decidable (setting.Agrees config) := by
  cases setting <;> delta Setting.Agrees <;> infer_instance

/-- The configurations a setting may come from: the last one flushed for and,
during an update, the one that is being installed. -/
def State.configs (state : State) : List DnsConfig :=
  state.flushedConfig :: (state.update.map Update.config).toList

def Configured (state : State) (settings : List Setting) : Prop :=
  ∀ setting ∈ settings, ∃ config ∈ state.configs, setting.Agrees config
  deriving Decidable

/-- As new as the last completed flushes. -/
def Current (state : State) (origin : Origin) : Prop :=
  state.flushedVersion ≤ origin.version ∧ Configured state origin.settings

/-- A query served from the cache gets a response that was obtained under
settings no older than the last flushed ones, and that was passed by a filter
no older than the last flushed one unless the filter passes the query now. -/
def FreshServe (state : State) : Label → Prop
  | .lookup _ query =>
    ∀ asked ∈ pending state.pipeline query,
      ∀ entry ∈ state.cache.entries.get (cacheKey state.pipeline query asked.2),
      entry.isExpired query.env.lookupAt = false →
      ∃ origin ∈ state.origins.get entry.seq, Configured state origin.settings ∧
        (state.flushedVersion ≤ origin.version ∨
          (verdict state.pipeline query asked.2).action = .pass)
  | _ => True

instance (state : State) (label) : Decidable (FreshServe state label) := by
  cases label <;> delta FreshServe <;> infer_instance

def QueryStep.readsConfig : QueryStep → Bool
  | .readMode | .readConfig | .readDnssec | .readOutcome => true
  | _ => false

/-- No query is disturbed by a flush: none that an older filter has passed is
in flight when the cache is flushed for a newer one, none that has read other
settings is in flight when it is flushed for new ones, and none reads the
configuration between that flush and the store of the new configuration. -/
def Undisturbed (state : State) : Label → Prop
  | .receive count =>
    ∀ version ∈ (state.published.take count).getLast?, ∀ flight ∈ state.flights.toList,
      ∀ origin ∈ flight.2.phase.origin, version ≤ origin.version
  | .update .flush =>
    ∀ update ∈ state.update, ∀ flight ∈ state.flights.toList,
      ∀ origin ∈ flight.2.phase.origin, ∀ setting ∈ origin.settings,
      setting.Agrees update.config
  | .advance _ step =>
    step.readsConfig → ∀ update ∈ state.update, update.phase = .flushed →
      flushNeeded update.previous update.config = false
  | _ => True

instance (state : State) (label) : Decidable (Undisturbed state label) := by
  delta Undisturbed
  split <;> infer_instance

/-! ## What a query can have read -/

/-- The setting is that of the pool or the recursor in force. -/
def Installed (state : State) : Setting → Prop
  | .upstreams pool => pool = state.pool
  | .validation enabled => state.recursor = some enabled
  | _ => False

variable {config : DnsConfig} {flight : Flight} {state : State} {origin : Origin}

theorem advance_origin {step : QueryStep} {phase : Phase}
    (hadvance : state.advance flight step = some (some phase))
    (horigin : phase.origin = some origin) :
    origin = ⟨state.version, []⟩ ∨ ∃ before, flight.phase.origin = some before ∧
        origin.version = before.version ∧ ∀ setting ∈ origin.settings, setting ∈ before.settings ∨
          Installed state setting ∨ (step.readsConfig ∧ setting.Agrees state.pipeline.config) := by
  unfold State.advance at hadvance
  all_goals grind [Phase.origin, State.afterCheck, Source.settings, Installed,
      Setting.Agrees, QueryStep.readsConfig, Option.map_eq_some_iff]

/-- The configuration in force, the pool and the recursor at each point of an
update. -/
def Ordered (state : State) : Prop :=
  match state.update with
  | none =>
    state.pipeline.config = state.flushedConfig ∧ state.pool = .build state.flushedConfig ∧
      state.recursor = buildRecursor state.flushedConfig
  | some update =>
    state.pipeline.config = update.previous ∧
      state.flushedConfig = (if update.phase = .flushed then update.config
        else update.previous) ∧
      state.pool = .build (if update.phase = .started then update.previous
        else update.config) ∧
      state.recursor = buildRecursor (
        if update.phase = .started ∨ update.phase = .poolStored then update.previous
        else update.config)

variable {previous : DnsConfig}

theorem agrees_congr (hsame : flushNeeded previous config = false) (setting : Setting) :
    setting.Agrees previous ↔ setting.Agrees config := by
  simp only [flushNeeded, poolChanged, recursorChanged, Bool.or_eq_false_iff,
    decide_eq_false_iff_not, not_or, not_not] at hsame
  cases setting <;> simp only [Setting.Agrees, UpstreamPool.build, *]

theorem build_congr (hsame : poolChanged previous config = false) :
    UpstreamPool.build previous = .build config := by
  simp only [poolChanged, decide_eq_false_iff_not, not_or, not_not] at hsame
  simp only [UpstreamPool.build, *]

theorem buildRecursor_congr (hsame : recursorChanged previous config = false) :
    buildRecursor previous = buildRecursor config := by
  simp only [recursorChanged, decide_eq_false_iff_not, not_or, not_not] at hsame
  simp only [buildRecursor, hsame.1, hsame.2]

/-- Whatever a query finds installed was built from an allowed
configuration. -/
theorem Ordered.installed (hordered : Ordered state) {setting : Setting}
    (hinstalled : Installed state setting) : ∃ config ∈ state.configs, setting.Agrees config := by
  unfold Ordered at hordered
  have hbuilt : ∃ pooled ∈ state.configs, state.pool = .build pooled ∧
      ∃ recursing ∈ state.configs, state.recursor = buildRecursor recursing := by
    cases hupdate : state.update with
    | none =>
      simp only [hupdate] at hordered
      exact ⟨_, mem_cons_self .., hordered.2.1, _, mem_cons_self .., hordered.2.2⟩
    | some update =>
      simp only [hupdate] at hordered
      obtain ⟨-, hflushed, hpool, hrecursor⟩ := hordered
      refine ⟨_, ?_, hpool, _, ?_, hrecursor⟩ <;>
        simp only [State.configs, hupdate, hflushed] <;>
        cases update.phase <;> simp
  obtain ⟨pooled, hpooled, hpool, recursing, hrecursing, hrecursor⟩ := hbuilt
  cases setting with
  | rebinding | recursion => exact absurd hinstalled id
  | upstreams pool => exact ⟨pooled, hpooled, hinstalled.trans hpool⟩
  | validation enabled =>
    refine ⟨recursing, hrecursing, ?_⟩
    have hbuilt := hrecursor.symm.trans hinstalled
    unfold buildRecursor at hbuilt
    split at hbuilt
    · exact (Option.some.inj hbuilt).symm
    · cases hbuilt

/-! ## Steps keep the cache and the queries current -/

structure Sound (state : State) : Prop where
  entries : ∀ key entry, state.cache.entries.get key = some entry →
    entry.seq < state.cache.nextSeq ∧
      ∃ origin, state.origins.get entry.seq = some origin ∧ Current state origin
  flights : ∀ task flight, state.flights.get task = some flight →
    ∀ origin, flight.phase.origin = some origin → Current state origin
  queued : ∀ version ∈ state.unpublished ++ state.published, version ≤ state.version
  flushed : state.flushedVersion ≤ state.version
  ordered : Ordered state

theorem sound_new (pipeline : QueryPipeline) (capacity : ℕ) :
    Sound (State.new pipeline capacity) where
  entries := by
    intro key entry hentry
    simp [State.new, DnsCache.new] at hentry
  flights := by
    intro task flight hflight
    simp [State.new] at hflight
  queued := by simp [State.new]
  flushed := le_rfl
  ordered := ⟨rfl, rfl, rfl⟩

/-- Every setting that could be read is still allowed. -/
def KeepsSettings (state after : State) : Prop :=
  ∀ setting : Setting, (∃ config ∈ state.configs, setting.Agrees config) →
    ∃ config ∈ after.configs, setting.Agrees config

variable {after : State}

theorem Current.mono (hcurrent : Current state origin)
    (hversion : after.flushedVersion = state.flushedVersion) (hkeeps : KeepsSettings state after) :
    Current after origin := by
  refine ⟨hversion ▸ hcurrent.1, fun setting hsetting => ?_⟩
  exact hkeeps setting (hcurrent.2 setting hsetting)

section

variable (hsound : Sound state)
include hsound

theorem Sound.congr (hcache : after.cache = state.cache)
    (horigins : after.origins = state.origins) (hflights : after.flights = state.flights)
    (hqueued : ∀ version ∈ after.unpublished ++ after.published, version ≤ after.version)
    (hstamp : state.version ≤ after.version)
    (hversion : after.flushedVersion = state.flushedVersion) (hkeeps : KeepsSettings state after)
    (hordered : Ordered after) : Sound after where
  entries := by
    intro key entry hentry
    simp only [hcache, horigins] at hentry ⊢
    obtain ⟨hseq, origin, horigin, hcurrent⟩ := hsound.entries key entry hentry
    exact ⟨hseq, origin, horigin, hcurrent.mono hversion hkeeps⟩
  flights := by
    intro task flight hflight origin horigin
    rw [hflights] at hflight
    exact (hsound.flights task flight hflight origin horigin).mono hversion hkeeps
  queued := hqueued
  flushed := by
    rw [hversion]
    exact Nat.le_trans hsound.flushed hstamp
  ordered := hordered

theorem Sound.insert_flight (task : ℕ)
    (hcurrent : ∀ origin, flight.phase.origin = some origin → Current state origin) :
    Sound { state with flights := state.flights.insert task flight } :=
  { hsound with
    flights := by
      intro other found hfound
      rcases get_insert_eq_some.mp hfound with ⟨-, rfl⟩ | ⟨-, hfound⟩
      · exact hcurrent
      · exact hsound.flights other found hfound }

theorem Sound.remove_flight (task : ℕ) :
    Sound { state with flights := state.flights.remove task } :=
  { hsound with
    flights := by
      intro other found hfound
      exact hsound.flights other found (get_remove_eq_some.mp hfound).2 }

theorem Sound.lookup (task : ℕ) (query : Query) : Sound (state.lookup task query) := by
  unfold State.lookup
  split
  · exact hsound
  · split
    · exact hsound
    · refine hsound.insert_flight task fun origin horigin => ?_
      cases horigin

theorem Sound.advance {task : ℕ} {step : QueryStep} {phase : Option Phase}
    (hundisturbed : Undisturbed state (.advance task step))
    (hflight : state.flights.get task = some flight)
    (hadvance : state.advance flight step = some phase) :
    Sound (state.settle task flight phase) := by
  cases phase with
  | none => exact hsound.remove_flight task
  | some phase =>
    refine hsound.insert_flight task fun origin horigin => ?_
    rcases advance_origin hadvance horigin with
      rfl | ⟨before, hbefore, hversion, hsettings⟩
    · exact ⟨hsound.flushed, fun setting hsetting => by cases hsetting⟩
    · have hcurrent := hsound.flights task flight hflight before hbefore
      refine ⟨hversion ▸ hcurrent.1, fun setting hsetting => ?_⟩
      rcases hsettings setting hsetting with hold | hinstalled | hread
      · exact hcurrent.2 setting hold
      · exact hsound.ordered.installed hinstalled
      · refine ⟨state.flushedConfig, mem_cons_self .., ?_⟩
        have hagrees := hread.2
        have hordered := hsound.ordered
        unfold Ordered at hordered
        cases hupdate : state.update with
        | none =>
          simp only [hupdate] at hordered
          exact hordered.1 ▸ hagrees
        | some update =>
          simp only [hupdate] at hordered
          obtain ⟨hconfig, hflushed, -, -⟩ := hordered
          rw [hconfig] at hagrees
          rw [hflushed]
          split
          next hphase =>
            exact (agrees_congr (hundisturbed hread.1 update hupdate hphase) setting).mp hagrees
          · exact hagrees

end

variable {cache : DnsCache Message}

theorem stored_cache (hstored : state.stored flight = some cache) :
    ∃ config forward stage, StoresAtMost config forward stage ∧
      (stage state.cache).cache = cache := by
  unfold State.stored at hstored
  split at hstored
  · exact ⟨_, _, _, storesAtMost_deliver .., Option.some.inj hstored⟩
  · exact ⟨_, _, _, storesAtMost_relayDatagram .., Option.some.inj hstored⟩
  · cases hstored

theorem Sound.store (hsound : Sound state) {task : ℕ}
    (hflight : state.flights.get task = some flight) (hstored : state.stored flight = some cache)
    (horigin : flight.phase.origin = some origin) :
    Sound { state.settle task flight none with
      cache := cache
      origins := state.origins.insert state.cache.nextSeq origin } :=
  { hsound with
    entries := by
      intro key entry hentry
      obtain ⟨config, forward, stage, ⟨stored, hstores⟩, rfl⟩ := stored_cache hstored
      by_cases hbefore : state.cache.entries.get key = some entry
      · obtain ⟨hseq, before, hbeforeOrigin, hcurrent⟩ := hsound.entries key entry hbefore
        refine ⟨Nat.lt_of_lt_of_le hseq ?_, before, ?_, hcurrent⟩
        · rw [hstores]
          cases stored with
          | none => exact le_rfl
          | some answer => exact DnsCache.nextSeq_le_insert ..
        · rw [get_insert_of_ne _ _ (Nat.ne_of_lt hseq)]
          exact hbeforeOrigin
      · rw [hstores] at hentry ⊢
        cases stored with
        | none => exact absurd hentry hbefore
        | some answer =>
          obtain ⟨-, rfl, -, hlt⟩ := (DnsCache.get_insert hentry).resolve_right hbefore
          refine ⟨hlt, origin, ?_, hsound.flights task flight hflight origin horigin⟩
          simp
    flights := (hsound.remove_flight task).flights }

theorem Sound.receive (hsound : Sound state) {count : ℕ} {version : ℕ}
    (hundisturbed : Undisturbed state (.receive count))
    (hlast : (state.published.take count).getLast? = some version) :
    Sound { state with
      published := state.published.drop count
      cache := state.cache.flush
      flushedVersion := version } where
  entries := by
    intro key entry hentry
    simp [DnsCache.flush] at hentry
  flights := by
    intro task flight hflight origin horigin
    have hmem := mem_toList.mpr hflight
    exact ⟨hundisturbed version hlast (task, flight) hmem origin horigin,
      (hsound.flights task flight hflight origin horigin).2⟩
  queued := by
    intro queued hqueued
    refine hsound.queued queued ?_
    rcases mem_append.mp hqueued with hmem | hmem
    · exact mem_append_left _ hmem
    · exact mem_append_right _ (mem_of_mem_drop hmem)
  flushed := by
    have hmem := mem_of_mem_take (mem_of_getLast? hlast)
    exact hsound.queued version (mem_append_right _ hmem)
  ordered := hsound.ordered

theorem Sound.beginUpdate (hsound : Sound state) (hidle : state.update = none)
    (config : DnsConfig) :
    Sound { state with
      update := some ⟨state.pipeline.config, config, .started⟩ } := by
  have hordered := hsound.ordered
  simp only [Ordered, hidle] at hordered
  obtain ⟨hconfig, hpool, hrecursor⟩ := hordered
  refine hsound.congr rfl rfl rfl hsound.queued le_rfl rfl ?_ ?_
  · rintro setting ⟨allowed, hallowed, hagrees⟩
    simp only [State.configs, hidle, Option.map_none, Option.toList_none, mem_singleton] at hallowed
    exact ⟨allowed, hallowed ▸ mem_cons_self .., hagrees⟩
  · simp [Ordered, hconfig, hpool, hrecursor]

theorem keepsSettings_of_eq (hconfigs : after.configs = state.configs) :
    KeepsSettings state after := by
  intro setting hallowed
  rw [hconfigs]
  exact hallowed

/-- A step of an update.  Its flush drops what older settings left in the cache;
the queries in flight hold none. -/
theorem Sound.stepUpdate {update : Update} {step : UpdateStep} (hsound : Sound state)
    (hupdate : state.update = some update) (hundisturbed : Undisturbed state (.update step))
    (hstep : Invalidation.stepUpdate state update step = some after) : Sound after := by
  have hordered := hsound.ordered
  simp only [Ordered, hupdate] at hordered
  obtain ⟨hconfig, hflushed, hpool, hrecursor⟩ := hordered
  revert hstep
  fun_cases Invalidation.stepUpdate state update step <;> rintro ⟨⟩ <;> rename_i hphase
  · simp only [hphase] at hflushed hpool hrecursor
    refine hsound.congr rfl rfl rfl hsound.queued le_rfl rfl
      (keepsSettings_of_eq (by simp [State.configs, hupdate]))
      ⟨hconfig, by simpa using hflushed, ?_, by simpa using hrecursor⟩
    split
    · rfl
    next hsame =>
      rw [hpool]
      exact build_congr (Bool.eq_false_iff.mpr hsame)
  · simp only [hphase.1] at hflushed hpool hrecursor
    refine hsound.congr rfl rfl rfl hsound.queued le_rfl rfl
      (keepsSettings_of_eq (by simp [State.configs, hupdate]))
      ⟨hconfig, by simpa using hflushed, by simpa using hpool, ?_⟩
    split
    · rfl
    next hsame =>
      rw [hrecursor]
      exact buildRecursor_congr (Bool.eq_false_iff.mpr hsame)
  · simp only [hphase] at hflushed hpool hrecursor
    have hnew : ∀ {origin : Origin}, state.flushedVersion ≤ origin.version →
        (∀ setting ∈ origin.settings, setting.Agrees update.config) →
        Current { state with
          flushedConfig := update.config
          update := some { update with phase := .flushed } } origin :=
      fun hversion hagrees => ⟨hversion, fun setting hsetting =>
        ⟨update.config, mem_cons_self .., hagrees setting hsetting⟩⟩
    refine ⟨?_, ?_, hsound.queued, hsound.flushed, hconfig, by simp,
      by simpa using hpool, by simpa using hrecursor⟩
    · intro key entry hentry
      split at hentry
      · simp [DnsCache.flush] at hentry
      next hunchanged =>
        rw [if_neg hunchanged]
        obtain ⟨hseq, origin, horigin, hversion, hsettings⟩ := hsound.entries key entry hentry
        refine ⟨hseq, origin, horigin, hnew hversion fun setting hsetting => ?_⟩
        obtain ⟨config, hmem, hagrees⟩ := hsettings setting hsetting
        simp only [State.configs, hupdate, hflushed, reduceCtorEq, if_false,
          Option.map_some, Option.toList_some, mem_cons, not_mem_nil, or_false] at hmem
        rcases hmem with rfl | rfl
        · exact (agrees_congr (Bool.eq_false_iff.mpr hunchanged) setting).mp hagrees
        · exact hagrees
    · intro task flight hflight origin horigin
      exact hnew (hsound.flights task flight hflight origin horigin).1
        (hundisturbed update hupdate (task, flight) (mem_toList.mpr hflight) origin horigin)
  · simp only [hphase] at hflushed hpool hrecursor
    refine hsound.congr rfl rfl rfl hsound.queued le_rfl rfl ?_ ?_
    · rintro setting ⟨config, hmem, hagrees⟩
      simp only [State.configs, hupdate, hflushed, if_true, Option.map_some,
        Option.toList_some, mem_cons, not_mem_nil, or_false, or_self] at hmem
      exact ⟨state.flushedConfig, mem_cons_self .., hflushed ▸ hmem ▸ hagrees⟩
    · simp [Ordered, hflushed, hpool, hrecursor]

theorem sound_next {label : Label} (hsound : Sound state) (hundisturbed : Undisturbed state label)
    (hnext : next state label = some after) : Sound after := by
  cases label with
  | lookup task query =>
    simp only [next, Option.ite_none_left_eq_some] at hnext
    exact Option.some.inj hnext.2 ▸ hsound.lookup task query
  | advance task step =>
    simp only [next, Option.bind_eq_some_iff, Option.map_eq_some_iff] at hnext
    obtain ⟨flight, hflight, phase, hadvance, rfl⟩ := hnext
    exact hsound.advance hundisturbed hflight hadvance
  | store task =>
    simp only [next, Option.bind_eq_some_iff, Option.map_eq_some_iff] at hnext
    obtain ⟨flight, hflight, cache, hstored, origin, horigin, rfl⟩ := hnext
    exact hsound.store hflight hstored horigin
  | swapFilter filter =>
    cases hnext
    refine hsound.congr rfl rfl rfl ?_ (Nat.le_succ _) rfl (keepsSettings_of_eq rfl) hsound.ordered
    intro version hmem
    simp only [mem_append, mem_singleton] at hmem
    rcases hmem with (hmem | rfl) | hmem
    · exact Nat.le_succ_of_le (hsound.queued version (mem_append_left _ hmem))
    · exact le_rfl
    · exact Nat.le_succ_of_le (hsound.queued version (mem_append_right _ hmem))
  | publish =>
    simp only [next] at hnext
    split at hnext
    · cases hnext
    next version rest hunpublished =>
      cases hnext
      refine hsound.congr rfl rfl rfl ?_ le_rfl rfl (keepsSettings_of_eq rfl) hsound.ordered
      intro queued hmem
      refine hsound.queued queued ?_
      simp only [hunpublished, mem_append, mem_cons] at hmem ⊢
      tauto
  | receive count =>
    simp only [next, Option.map_eq_some_iff] at hnext
    obtain ⟨version, hlast, rfl⟩ := hnext
    exact hsound.receive hundisturbed hlast
  | beginUpdate config =>
    simp only [next, Option.ite_none_right_eq_some, Option.isNone_iff_eq_none] at hnext
    exact Option.some.inj hnext.2 ▸ hsound.beginUpdate hnext.1 config
  | update step =>
    simp only [next, Option.bind_eq_some_iff] at hnext
    obtain ⟨update, hupdate, hstep⟩ := hnext
    exact hsound.stepUpdate hupdate hundisturbed hstep

theorem Sound.freshServe (hsound : Sound state) (label : Label) : FreshServe state label := by
  cases label with
  | lookup task query =>
    intro asked _ entry hentry _
    obtain ⟨-, origin, horigin, hcurrent⟩ := hsound.entries _ entry hentry
    exact ⟨origin, horigin, hcurrent.2, .inl hcurrent.1⟩
  | _ => trivial

/-- In a run whose flushes disturb no query, nothing stale is served. -/
theorem freshServe_of_undisturbed (pipeline : QueryPipeline) (capacity : ℕ) (labels : List Label)
    (hundisturbed : Meets next Undisturbed (.new pipeline capacity) labels) :
    Meets next FreshServe (.new pipeline capacity) labels := by
  have hfresh : ∀ state label, Sound state → Undisturbed state label → FreshServe state label :=
    fun _ label hsound _ => hsound.freshServe label
  have hstep : ∀ state label after, Sound state → Undisturbed state label →
      next state label = some after → Sound after :=
    fun _ _ _ hsound hcond hnext => sound_next hsound hcond hnext
  exact meets_of_invariant hfresh hstep (sound_new pipeline capacity) hundisturbed

/-! ## Queries that wait for a flush, and queries overtaken by one -/

def clientQuery (second : ℕ) : Query := adsQuery (.v4 (Net.ipv4 10 0 0 2)) second

/-- A query that misses, passes the filter and asks the pool. -/
def forwarded (task : ℕ) (attempt : Attempt) : List Label :=
  [.advance task .readMode, .advance task .readConfig,
    .advance task .loadPool, .advance task (.answer attempt), .store task]

def rebindingConfig (protection : Bool) : DnsConfig :=
  { twoClients.config with rebindingProtection := protection }

def privateRecord : Record := ⟨"ads.example.".toList, 300, .a (Net.ipv4 192 168 1 1)⟩

def unfiltered (config : DnsConfig) : QueryPipeline :=
  { twoClients with filter := .new, config := config }

theorem handled_alone_clientQuery : ∃ looked,
    next (.new (unfiltered twoClients.config) 1000) (.lookup 1 (clientQuery 0)) = some looked ∧
      (alone 10 looked 1).flights.get 1 = none ∧
      (alone 10 looked 1).cache =
        (handle (unfiltered twoClients.config) (.new 1000) (clientQuery 0)).cache :=
  handled_alone _ 1 (clientQuery 0) rfl rfl

/-- A response is stored and served again, the filter is swapped and the cache
flushed for it, and an update turns the rebinding protection off. -/
def undisturbedRun : List Label :=
  [.lookup 1 (clientQuery 0), .advance 1 .check] ++ forwarded 1 (.answered [adsRecord 300]) ++
    [.lookup 2 (clientQuery 1), .swapFilter twoClients.filter, .publish,
      .receive 1, .lookup 3 (clientQuery 2), .advance 3 .check,
      .beginUpdate (rebindingConfig false), .update .storePool,
      .update .storeRecursor, .update .flush, .update .storeConfig]

theorem freshServe_of_undisturbed_undisturbedRun :
    (run next (.new (unfiltered twoClients.config) 1000) undisturbedRun).isSome ∧
      Meets next Undisturbed (.new (unfiltered twoClients.config) 1000) undisturbedRun ∧
      Meets next FreshServe (.new (unfiltered twoClients.config) 1000) undisturbedRun :=
  ⟨by decide +kernel, by decide +kernel, freshServe_of_undisturbed _ _ _ (by decide +kernel)⟩

/-- The filter that blocks `ads.example` for the client is installed, and the
cache flushed for it, while a query that the old filter passed waits. -/
def overtakenByFilter : List Label :=
  [.lookup 1 (clientQuery 0), .advance 1 .check,
    .swapFilter twoClients.filter, .publish, .receive 1] ++
    forwarded 1 (.answered [adsRecord 300])

/-- A query reads the configuration between the flush of the update that turns
the rebinding protection on and the store of its configuration. -/
def overtakenByUpdate : List Label :=
  [.beginUpdate (rebindingConfig true), .update .storePool,
    .update .storeRecursor, .update .flush, .lookup 1 (clientQuery 0),
    .advance 1 .check, .advance 1 .readMode, .advance 1 .readConfig,
    .update .storeConfig, .advance 1 .loadPool,
    .advance 1 (.answer (.answered [privateRecord])), .store 1]

/-- After each flush has completed, the client is served a response that the
filter in force blocks, or a private address that the configuration in force
rejects. -/
theorem stale_responses_served : (∃ state ∈ run next (.new (unfiltered twoClients.config) 1000)
        overtakenByFilter,
      state.flushedVersion = state.version ∧
        (handle state.pipeline state.cache (clientQuery 1)).result = some .cacheHit ∧
        ¬ FreshServe state (.lookup 2 (clientQuery 1))) ∧
    ∃ state ∈ run next (.new (unfiltered (rebindingConfig false)) 1000) overtakenByUpdate,
      state.flushedConfig = state.pipeline.config ∧
        (handle state.pipeline state.cache (clientQuery 1)).result = some .cacheHit ∧
        ¬ FreshServe state (.lookup 2 (clientQuery 1)) := by
  decide +kernel

end Wardnet.Dns.Invalidation
