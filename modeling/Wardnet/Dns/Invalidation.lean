import Wardnet.Core.Transition
import Wardnet.Dns.Pipeline

/-!
# Queries in flight and the flushes of the cache

A query looks up the cache, asks the filter, reads the configuration and the
upstream pool or the recursor, waits for an answer, and stores it; each of
these is a step of its own.  Between them the filter may be swapped and the
cache flushed for it, and the configuration may be updated: the pool and the
recursor are replaced, the cache is flushed, and only then is the new
configuration stored.  Filters are numbered by the swaps that installed them,
and `origins` remembers, per sequence number of the cache, under which filter
and which settings a response was obtained.
-/

namespace Wardnet.Dns.Invalidation

open Transition

/-- What `UpstreamPool::build` takes from the configuration. -/
structure UpstreamPool where
  upstreamServers : List Text
  forwarderSelectionMode : ForwarderSelectionMode
  singleUpstream : Option Text
  dnssecEnabled : Bool
  deriving DecidableEq

def UpstreamPool.build (config : DnsConfig) : UpstreamPool where
  upstreamServers := config.upstreamServers
  forwarderSelectionMode := config.forwarderSelectionMode
  singleUpstream := config.singleUpstream
  dnssecEnabled := config.dnssecEnabled

/-- Who answered: a pool, or a recursor built and asked with or without
validation. -/
inductive Source
  | pool (pool : UpstreamPool)
  | recursor (built asked : Bool)
  deriving DecidableEq

/-- A setting that a response depends on, with the value it was obtained
under. -/
inductive Setting
  | rebinding (protection : Bool)
  | upstreams (pool : UpstreamPool)
  | recursion
  | validation (enabled : Bool)
  deriving DecidableEq

def Source.settings : Source → List Setting
  | .pool loaded => [.upstreams loaded]
  | .recursor built asked => [.recursion, .validation built, .validation asked]

/-- The filter that passed a response, by number, and the settings it was
obtained under. -/
structure Origin where
  version : ℕ
  settings : List Setting
  deriving DecidableEq

/-- Where a query is between the cache miss and the store.  The forwarding
path is `routed`, `configured`, `asking`; the recursive path is `recursive`,
`entering`, `recursing`, `recursed` and may fall back to `routed`. -/
inductive Phase
  | looked
  | checked (version : ℕ) (forward : Forward)
  | routed (version : ℕ) (forward : Forward)
  | configured (version : ℕ) (forward : Forward) (config : DnsConfig)
  | asking (version : ℕ) (forward : Forward) (config : DnsConfig) (pool : UpstreamPool)
  | recursive (version : ℕ) (forward : Forward)
  | entering (version : ℕ) (forward : Forward) (asked : Bool)
  | recursing (version : ℕ) (forward : Forward) (built asked : Bool)
  | recursed (version : ℕ) (forward : Forward) (source : Source) (attempt : Attempt)
  | resolved (version : ℕ) (forward : Forward) (config : DnsConfig)
      (source : Source) (attempt : Attempt)
  | relayed (version : ℕ) (forward : Forward) (datagram : Datagram)

/-- What a query has passed and read so far; a relayed datagram depends on no
setting. -/
def Phase.origin : Phase → Option Origin
  | .looked => none
  | .checked version _ | .routed version _ | .relayed version _ _ => some ⟨version, []⟩
  | .configured version _ config => some ⟨version, [.rebinding config.rebindingProtection]⟩
  | .asking version _ config pool =>
    some ⟨version, [.rebinding config.rebindingProtection, .upstreams pool]⟩
  | .recursive version _ => some ⟨version, [.recursion]⟩
  | .entering version _ asked => some ⟨version, [.recursion, .validation asked]⟩
  | .recursing version _ built asked =>
    some ⟨version, [.recursion, .validation built, .validation asked]⟩
  | .recursed version _ source _ => some ⟨version, source.settings⟩
  | .resolved version _ config source _ =>
    some ⟨version, .rebinding config.rebindingProtection :: source.settings⟩

structure Flight where
  query : Query
  request : Message
  question : Question
  phase : Phase

inductive UpdatePhase
  | started
  | poolStored
  | recursorStored
  | flushed
  deriving DecidableEq

structure Update where
  previous : DnsConfig
  config : DnsConfig
  phase : UpdatePhase

/-- `flushedVersion` and `flushedConfig` are the filter and the configuration
of the last completed flushes. -/
structure State where
  pipeline : QueryPipeline
  pool : UpstreamPool
  recursor : Option Bool
  cache : DnsCache Message
  version : ℕ
  unpublished : List ℕ
  published : List ℕ
  update : Option Update
  flights : HashMap ℕ Flight
  origins : HashMap ℕ Origin
  flushedVersion : ℕ
  flushedConfig : DnsConfig

/-- `build_recursor`, or none outside recursive mode. -/
def buildRecursor (config : DnsConfig) : Option Bool :=
  if config.resolutionMode = .recursive then some config.dnssecEnabled
  else none

def State.new (pipeline : QueryPipeline) (capacity : ℕ) : State where
  pipeline := pipeline
  pool := .build pipeline.config
  recursor := buildRecursor pipeline.config
  cache := .new capacity
  version := 0
  unpublished := []
  published := []
  update := none
  flights := .empty
  origins := .empty
  flushedVersion := 0
  flushedConfig := pipeline.config

/-- The steps of a query that has missed the cache, apart from the store. -/
inductive QueryStep
  | check
  | readMode
  | readConfig
  | loadPool
  | readDnssec
  | enterRecursor
  | answer (attempt : Attempt)
  | readOutcome
  | relay (datagram : Option Datagram)

/-- The steps of `update_config` after it compared the settings. -/
inductive UpdateStep
  | storePool
  | storeRecursor
  | flush
  | storeConfig

inductive Label
  | lookup (task : ℕ) (query : Query)
  | advance (task : ℕ) (step : QueryStep)
  | store (task : ℕ)
  | swapFilter (filter : Filter.State)
  | publish
  | receive (count : ℕ)
  | beginUpdate (config : DnsConfig)
  | update (step : UpdateStep)

/-! ## Query steps -/

namespace State

def settle (state : State) (task : ℕ) (flight : Flight) : Option Phase → State
  | some phase =>
    { state with
      flights := state.flights.insert task { flight with phase := phase } }
  | none => { state with flights := state.flights.remove task }

/-- The filter's verdict and the rate limiter decide whether a query goes on
to an upstream. -/
def afterCheck (state : State) (flight : Flight) : Option Phase :=
  let pipeline := state.pipeline
  if (verdict pipeline flight.query flight.question).action = .pass ∧ admits flight.query then
    some (.checked state.version (forwardOf pipeline flight.query flight.request flight.question))
  else none

/-- The query is relayed through a tunnel or a conditional upstream. -/
def relays (state : State) (forward : Forward) : Bool :=
  (conditionalUpstream state.pipeline.library
    state.pipeline.authoritativeView forward.question).isSome ||
    forward.upstreamId ≠ .default

/-- The phase after a step of a query, if the step is enabled; no phase
means that the query has ended. -/
def advance (state : State) (flight : Flight) (step : QueryStep) : Option (Option Phase) :=
  match step, flight.phase with
  | .check, .looked => some (state.afterCheck flight)
  | .readMode, .checked version forward =>
    if state.relays forward then none
    else if state.pipeline.config.resolutionMode = .recursive then
      some (some (.recursive version forward))
    else some (some (.routed version forward))
  | .readConfig, .routed version forward =>
    some (some (.configured version forward state.pipeline.config))
  | .loadPool, .configured version forward config =>
    some (some (.asking version forward config state.pool))
  | .readDnssec, .recursive version forward =>
    some (some (.entering version forward state.pipeline.config.dnssecEnabled))
  | .enterRecursor, .entering version forward asked =>
    match state.recursor with
    | some built => some (some (.recursing version forward built asked))
    | none => some (some (.recursed version forward (.recursor asked asked) .failed))
  | .answer attempt, .asking version forward config pool =>
    some (some (.resolved version forward config (.pool pool) attempt))
  | .answer attempt, .recursing version forward built asked =>
    some (some (.recursed version forward (.recursor built asked) attempt))
  | .readOutcome, .recursed version forward _ .failed =>
    if state.pipeline.config.upstreamServers = [] then some none
    else some (some (.routed version forward))
  | .readOutcome, .recursed version forward source attempt =>
    some (some (.resolved version forward state.pipeline.config source attempt))
  | .relay datagram, .checked version forward =>
    if state.relays forward then some (datagram.map (.relayed version forward))
    else none
  | _, _ => none

/-- The cache after a query stores its answer.  A relayed datagram is stored
under the bounds of the configuration at that moment. -/
def stored (state : State) (flight : Flight) : Option (DnsCache Message) :=
  match flight.phase with
  | .resolved _ forward config _ attempt =>
    some (deliver state.pipeline.library config state.cache forward attempt).cache
  | .relayed _ forward datagram =>
    some (relayDatagram state.pipeline.config state.cache forward datagram).cache
  | _ => none

/-- A query between the local stages and the cache. -/
def lookup (state : State) (task : ℕ) (query : Query) : State :=
  match pending state.pipeline query with
  | none => state
  | some (request, question) =>
    match cached state.pipeline state.cache query request question with
    | some _ => state
    | none =>
      { state with
        flights := state.flights.insert task ⟨query, request, question, .looked⟩ }

end State

/-! ## Configuration updates -/

/-- The settings an update compares before it rebuilds the pool. -/
def poolChanged (previous config : DnsConfig) : Bool :=
  previous.upstreamServers ≠ config.upstreamServers ∨
    previous.dnssecEnabled ≠ config.dnssecEnabled ∨
    previous.forwarderSelectionMode ≠ config.forwarderSelectionMode ∨
    previous.singleUpstream ≠ config.singleUpstream

def recursorChanged (previous config : DnsConfig) : Bool :=
  previous.resolutionMode ≠ config.resolutionMode ∨ previous.dnssecEnabled ≠ config.dnssecEnabled

def flushNeeded (previous config : DnsConfig) : Bool :=
  poolChanged previous config || recursorChanged previous config ||
    previous.rebindingProtection ≠ config.rebindingProtection

/-- The recursor is held for reading while a query recurses. -/
def State.recursorFree (state : State) : Bool :=
  state.flights.toList.all fun entry =>
    match entry.2.phase with
    | .recursing .. => false
    | _ => true

def stepUpdate (state : State) (update : Update) : UpdateStep → Option State
  | .storePool =>
    if update.phase = .started then
      some { state with
        pool :=
          if poolChanged update.previous update.config then .build update.config
          else state.pool
        update := some { update with phase := .poolStored } }
    else none
  | .storeRecursor =>
    if update.phase = .poolStored ∧ state.recursorFree then
      some { state with
        recursor :=
          if recursorChanged update.previous update.config then buildRecursor update.config
          else state.recursor
        update := some { update with phase := .recursorStored } }
    else none
  | .flush =>
    if update.phase = .recursorStored then
      some { state with
        cache :=
          if flushNeeded update.previous update.config then state.cache.flush
          else state.cache
        flushedConfig := update.config
        update := some { update with phase := .flushed } }
    else none
  | .storeConfig =>
    if update.phase = .flushed then
      some { state with
        pipeline := { state.pipeline with config := update.config }
        update := none }
    else none

/-- One step of the system.  A `receive` of more than one event is a lagging
invalidator, which flushes once for all of them. -/
def next (state : State) : Label → Option State
  | .lookup task query =>
    if (state.flights.get task).isSome then none
    else some (state.lookup task query)
  | .advance task step =>
    (state.flights.get task).bind fun flight =>
      (state.advance flight step).map (state.settle task flight)
  | .store task =>
    (state.flights.get task).bind fun flight =>
      (state.stored flight).bind fun cache =>
        flight.phase.origin.map fun origin =>
          { state.settle task flight none with
            cache := cache
            origins := state.origins.insert state.cache.nextSeq origin }
  | .swapFilter filter =>
    some { state with
      pipeline := { state.pipeline with filter := filter }
      version := state.version + 1
      unpublished := state.unpublished ++ [state.version + 1] }
  | .publish =>
    match state.unpublished with
    | [] => none
    | version :: rest =>
      some { state with
        unpublished := rest
        published := state.published ++ [version] }
  | .receive count =>
    (state.published.take count).getLast?.map fun version =>
      { state with
        published := state.published.drop count
        cache := state.cache.flush
        flushedVersion := version }
  | .beginUpdate config =>
    if state.update.isNone then
      some { state with update := some ⟨state.pipeline.config, config, .started⟩ }
    else none
  | .update step => state.update.bind fun update => stepUpdate state update step

/-! ## A query that runs alone -/

/-- What a tunnel or a conditional upstream sends back. -/
def State.relayedBy (state : State) (forward : Forward) (env : Env) : Option Datagram :=
  if (conditionalUpstream state.pipeline.library
      state.pipeline.authoritativeView forward.question).isSome then
    readConditional forward true env.conditional
  else env.tunnel

/-- The step a query takes next, answered as its environment answers it. -/
def State.ownLabel (state : State) (task : ℕ) (flight : Flight) : Label :=
  match flight.phase with
  | .looked => .advance task .check
  | .checked _ forward =>
    if state.relays forward then
      .advance task (.relay (state.relayedBy forward flight.query.env))
    else .advance task .readMode
  | .routed .. => .advance task .readConfig
  | .configured .. => .advance task .loadPool
  | .asking .. => .advance task (.answer (ladderOutcome flight.query.env))
  | .recursive .. => .advance task .readDnssec
  | .entering .. => .advance task .enterRecursor
  | .recursing .. => .advance task (.answer (flight.query.env.recursor.getD .failed))
  | .recursed .. => .advance task .readOutcome
  | .resolved .. | .relayed .. => .store task

/-- The query takes its steps until it has ended or cannot take the next. -/
def alone : ℕ → State → ℕ → State
  | 0, state, _ => state
  | steps + 1, state, task =>
    match state.flights.get task with
    | none => state
    | some flight =>
      match next state (state.ownLabel task flight) with
      | none => state
      | some after => alone steps after task

/-- Within so many steps of its own the query has ended and left the cache. -/
def Ends (steps : ℕ) (state : State) (task : ℕ) (cache : DnsCache Message) : Prop :=
  (alone steps state task).flights.get task = none ∧ (alone steps state task).cache = cache

section Alone

variable {state : State} {task steps : ℕ} {flight : Flight} {cache : DnsCache Message}

theorem ends_of_ended (hended : state.flights.get task = none) :
    Ends steps state task state.cache := by
  cases steps with
  | zero => exact ⟨hended, rfl⟩
  | succ steps => simp [Ends, alone, hended]

theorem Ends.cons {after : State} (hends : Ends steps after task cache)
    (hflight : state.flights.get task = some flight)
    (hnext : next state (state.ownLabel task flight) = some after) :
    Ends (steps + 1) state task cache := by
  simpa only [Ends, alone, hflight, hnext] using hends

theorem Ends.advance (step : QueryStep) {phase : Phase}
    (hends : Ends steps (state.settle task flight (some phase)) task cache)
    (hflight : state.flights.get task = some flight)
    (hlabel : state.ownLabel task flight = .advance task step)
    (hadvance : state.advance flight step = some (some phase)) :
    Ends (steps + 1) state task cache := by
  refine hends.cons hflight ?_
  simp [hlabel, next, hflight, hadvance]

/-- The last step of a query that stores nothing. -/
theorem ends_of_advance (step : QueryStep) (hflight : state.flights.get task = some flight)
    (hlabel : state.ownLabel task flight = .advance task step)
    (hadvance : state.advance flight step = some none) :
    Ends (steps + 1) state task state.cache := by
  have hended : Ends steps (state.settle task flight none) task state.cache :=
    ends_of_ended (by simp [State.settle])
  refine hended.cons hflight ?_
  simp [hlabel, next, hflight, hadvance]

@[simp]
theorem get_settle (phase : Phase) : (state.settle task flight (some phase)).flights.get task =
      some { flight with phase := phase } := by
  simp [State.settle]

theorem ends_stored {origin : Origin} (hflight : state.flights.get task = some flight)
    (hlabel : state.ownLabel task flight = .store task)
    (hstored : state.stored flight = some cache) (horigin : flight.phase.origin = some origin) :
    Ends (steps + 1) state task cache := by
  have hended : Ends steps { state.settle task flight none with
      cache := cache
      origins := state.origins.insert state.cache.nextSeq origin } task cache :=
    ends_of_ended (by simp [State.settle])
  refine hended.cons hflight ?_
  simp [hlabel, next, hflight, hstored, horigin]

variable {forward : Forward} {version : ℕ}

theorem ends_resolved {config : DnsConfig} {source : Source} {attempt : Attempt}
    (hflight : state.flights.get task =
      some { flight with phase := .resolved version forward config source attempt }) :
    Ends (steps + 1) state task
      (deliver state.pipeline.library config state.cache forward attempt).cache :=
  ends_stored hflight rfl rfl rfl

theorem ends_routed
    (hflight : state.flights.get task = some { flight with phase := .routed version forward }) :
    Ends (steps + 4) state task (forwardViaDefaultResolver state.pipeline.library
      state.pipeline.config state.cache forward flight.query.env).cache := by
  refine Ends.advance .readConfig ?_ hflight rfl rfl
  refine Ends.advance .loadPool ?_ (get_settle _) rfl rfl
  refine Ends.advance (.answer (ladderOutcome flight.query.env)) ?_ (get_settle _) rfl rfl
  exact ends_resolved (get_settle _)

theorem ends_recursed {source : Source} {attempt : Attempt}
    (hflight : state.flights.get task =
      some { flight with phase := .recursed version forward source attempt })
    (hattempt : attempt = flight.query.env.recursor.getD .failed) :
    Ends (steps + 5) state task (handleRecursorOutcome state.pipeline.library
      state.pipeline.config state.cache forward flight.query.env).cache := by
  unfold handleRecursorOutcome
  rw [← hattempt]
  cases attempt with
  | failed =>
    simp only
    split
    next hservers =>
      refine Ends.advance .readOutcome ?_ hflight rfl (if_neg hservers)
      exact ends_routed (get_settle _)
    next hservers =>
      rw [sendServfail, sendCode, send_cache]
      exact ends_of_advance .readOutcome hflight rfl (if_pos (not_not.mp hservers))
  | _ =>
    refine Ends.advance .readOutcome ?_ hflight rfl rfl
    exact ends_resolved (get_settle _)

theorem ends_relayed
    (hflight : state.flights.get task = some { flight with phase := .checked version forward })
    (hrelays : state.relays forward = true) :
    Ends (steps + 2) state task (match state.relayedBy forward flight.query.env with
      | some datagram => relayDatagram state.pipeline.config state.cache forward datagram
      | none => sendServfail state.pipeline.library state.cache forward .upstreamError).cache := by
  have hlabel : state.ownLabel task { flight with phase := .checked version forward } =
      .advance task (.relay (state.relayedBy forward flight.query.env)) := if_pos hrelays
  have hadvance : state.advance { flight with phase := .checked version forward }
      (.relay (state.relayedBy forward flight.query.env)) =
        some ((state.relayedBy forward flight.query.env).map (.relayed version forward)) :=
    if_pos hrelays
  cases hdatagram : state.relayedBy forward flight.query.env with
  | none =>
    rw [sendServfail, sendCode, send_cache]
    exact ends_of_advance _ hflight hlabel (by rw [hadvance, hdatagram]; rfl)
  | some datagram =>
    rw [hdatagram] at hadvance hlabel
    refine Ends.advance _ ?_ hflight hlabel hadvance
    exact ends_stored (get_settle _) rfl rfl rfl

theorem ends_checked
    (hflight : state.flights.get task = some { flight with phase := .checked version forward })
    (hrecursor : flight.query.env.recursor.isSome = state.recursor.isSome) :
    Ends (steps + 9) state task
      (forwardQuery state.pipeline state.cache flight.query forward).cache := by
  unfold forwardQuery
  simp only
  split
  next hconditional =>
    have hends : Ends (steps + 9) state task _ :=
      ends_relayed hflight (by simp [State.relays, hconditional])
    rwa [State.relayedBy, if_pos hconditional] at hends
  next hconditional =>
    split
    next hdefault =>
      have hroute : state.relays forward = false := by
        simp [State.relays, hdefault, hconditional]
      have hlabel : state.ownLabel task { flight with phase := .checked version forward } =
          .advance task .readMode := if_neg (by simp [hroute])
      split
      next hmode =>
        refine Ends.advance .readMode ?_ hflight hlabel
          (by simp only [State.advance, hroute, hmode]; rfl)
        refine Ends.advance .readDnssec ?_ (get_settle _) rfl rfl
        cases hbuilt : state.recursor with
        | none =>
          have hnone : flight.query.env.recursor = none := by simpa [hbuilt] using hrecursor
          refine Ends.advance .enterRecursor ?_ (get_settle _) rfl
            (by simp only [State.advance, State.settle, hbuilt]; rfl)
          exact ends_recursed (get_settle _) (by simp [hnone])
        | some built =>
          refine Ends.advance .enterRecursor ?_ (get_settle _) rfl
            (by simp only [State.advance, State.settle, hbuilt]; rfl)
          refine Ends.advance (.answer (flight.query.env.recursor.getD .failed)) ?_
            (get_settle _) rfl rfl
          exact ends_recursed (get_settle _) rfl
      next hmode =>
        refine Ends.advance .readMode ?_ hflight hlabel
          (by simp only [State.advance, hroute, hmode]; rfl)
        exact ends_routed (get_settle _)
    next htunnel =>
      have hends : Ends (steps + 9) state task _ :=
        ends_relayed hflight (by simp [State.relays, htunnel])
      rwa [State.relayedBy, if_neg hconditional] at hends

end Alone

/-- A query that no other step interrupts ends, and leaves the cache that
`handle` leaves: it takes at most ten steps after the lookup, each of them
answered as its environment answers it. -/
theorem handled_alone (state : State) (task : ℕ) (query : Query)
    (hfree : state.flights.get task = none)
    (hrecursor : query.env.recursor.isSome = state.recursor.isSome) :
    ∃ looked, next state (.lookup task query) = some looked ∧
      (alone 10 looked task).flights.get task = none ∧
      (alone 10 looked task).cache = (handle state.pipeline state.cache query).cache := by
  refine ⟨state.lookup task query, by simp [next, hfree], ?_⟩
  change Ends 10 (state.lookup task query) task (handle state.pipeline state.cache query).cache
  unfold State.lookup
  cases hpending : pending state.pipeline query with
  | none =>
    rw [handle_cache_of_not_pending _ hpending]
    exact ends_of_ended hfree
  | some asked =>
    rw [handle_of_pending _ hpending]
    simp only
    cases hcached : cached state.pipeline state.cache query asked.1 asked.2 with
    | some message => exact ends_of_ended hfree
    | none =>
      have hflight : (state.flights.insert task ⟨query, asked.1, asked.2, .looked⟩).get task =
          some ⟨query, asked.1, asked.2, .looked⟩ := (HashMap.get_insert ..).trans (if_pos rfl)
      by_cases hpass : (verdict state.pipeline query asked.2).action = .pass ∧ admits query = true
      · simp only [filterAndForward, hpass.1, hpass.2, if_true]
        refine Ends.advance .check ?_ hflight rfl (congrArg some (if_pos hpass))
        exact ends_checked (get_settle _) hrecursor
      · have hcache : (filterAndForward state.pipeline state.cache query asked.1
            asked.2).cache = state.cache := by
          by_cases haction : (verdict state.pipeline query asked.2).action = .pass
          · have hadmits : ¬ admits query = true := fun hadmits => hpass ⟨haction, hadmits⟩
            simp only [filterAndForward, haction, hadmits]
            exact send_cache ..
          · exact filterAndForward_cache_of_filtered _ _ haction
        rw [hcache]
        exact ends_of_advance .check hflight rfl (congrArg some (if_neg hpass))

end Wardnet.Dns.Invalidation
