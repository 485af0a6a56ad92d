import Wardnet.Dns.Authoritative
import Wardnet.Dns.Cache
import Wardnet.DnsFilter.Runtime

/-!
# The query pipeline

`QueryPipeline::handle` from a decoded query to the response it sends and the
cache it leaves: local answers first, then the response cache, then the
filter, the rate limiter, and the upstreams.  Parsers of the standard library
and of the DNS library are parameters, and so are the answers of the upstreams
and the clock.  The reply socket accepts every response.
-/

namespace Wardnet.Dns

open Net (IpAddr Ipv4Addr Ipv6Addr)

structure Library where
  nameFromStrRelaxed : Text → Option Text
  nameFromUtf8 : Text → Option Text
  parseIpv4 : Text → Option Ipv4Addr
  parseIpv6 : Text → Option Ipv6Addr
  isSocketAddr : Text → Bool
  encodes : Message → Bool

inductive ClientIdentity
  | ip (addr : IpAddr)
  | device (id : Uuid)
  deriving DecidableEq

inductive DnsResolutionMode
  | forwarding
  | recursive
  deriving DecidableEq

inductive ForwarderSelectionMode
  | failover
  | fastest
  | single
  deriving DecidableEq

structure DnsConfig where
  resolutionMode : DnsResolutionMode
  upstreamServers : List Text
  forwarderSelectionMode : ForwarderSelectionMode
  singleUpstream : Option Text
  dnssecEnabled : Bool
  rebindingProtection : Bool
  cacheTtlMinSecs : ℕ
  cacheTtlMaxSecs : ℕ
  deriving DecidableEq

/-- The shared state a query reads, apart from the cache. -/
structure QueryPipeline where
  library : Library
  config : DnsConfig
  filter : Filter.State
  routingSnapshot : HashMap IpAddr UpstreamId
  deviceRoutingSnapshot : HashMap Uuid UpstreamId
  authoritativeView : AuthoritativeView

inductive DnsQueryResult
  | forwarded
  | cacheHit
  | blocked
  | blockedSkipped
  | rewritten
  | upstreamError
  | negative
  | authoritative
  | authoritativeNodata
  | authoritativeNxdomain
  | rateLimited
  | rebindingBlocked
  | recursorFailed
  deriving DecidableEq

/-! ## What the environment answers -/

inductive Datagram
  | decoded (message : Message)
  | undecodable
  deriving DecidableEq

inductive Attempt
  | answered (answers : List Record)
  | negative (nxDomain : Bool) (soa : Option Record)
  | failed

/-- The environment of one query: the clock at the cache lookup and at the
insert, the rate limiter's answer, and what each kind of upstream returns. -/
structure Env where
  lookupAt : ℕ
  insertAt : ℕ
  admitted : Bool
  ladder : List Attempt
  deadlineExpired : Bool
  recursor : Option Attempt
  tunnel : Option Datagram
  conditional : List Datagram

structure Query where
  packet : Datagram
  src : IpAddr
  client : ClientIdentity
  env : Env

inductive Reply
  | message (message : Message)
  | raw
  deriving DecidableEq

/-- What handling a query sends, logs, and leaves in the cache. -/
structure Outcome where
  reply : Option Reply
  result : Option DnsQueryResult
  cache : DnsCache Message

def silent (cache : DnsCache Message) : Outcome := ⟨none, none, cache⟩

/-- Send a response that encodes, and log its result. -/
def send (library : Library) (message : Message) (result : DnsQueryResult)
    (cache : DnsCache Message) : Outcome :=
  if library.encodes message then ⟨some (.message message), some result, cache⟩
  else silent cache

/-! ## Local answers -/

/-- A step that may claim a query: with the response and its result, or with
nothing when building the response fails. -/
abbrev LocalAnswer := Option (Option (Message × DnsQueryResult))

def negativeTtl : ℕ := 300

def buildSoa (library : Library) (zone : Text) (serial : ℕ) : Option Record := do
  let apex ← library.nameFromUtf8 (zone ++ ['.'])
  let mname ← library.nameFromUtf8 ("ns.".toList ++ zone ++ ['.'])
  let rname ← library.nameFromUtf8 ("hostmaster.".toList ++ zone ++ ['.'])
  return ⟨apex, negativeTtl, .soa mname rname serial 3600 600 604800 negativeTtl⟩

/-- Stage 0.4: a reverse query for a private address is answered locally. -/
def privateReverse (library : Library) (view : AuthoritativeView)
    (request : Message) (question : Question) : LocalAnswer :=
  let domain := normalize question.name
  if question.qtype = .ptr ∨ question.qtype = .any then
    match parsePtrIpv4 domain with
    | none => none
    | some ip =>
      match privateReverseZone ip, view.matchForwardingRule domain with
      | some zone, none =>
        some ((library.nameFromStrRelaxed question.name).map fun name =>
          let records := (view.reverseLookup ip).getD []
          let answers := records.filterMap fun record =>
            (library.nameFromStrRelaxed record.domain).map fun target =>
              (⟨name, record.ttl, .ptr target⟩ : Record)
          let base := { response request.id request.queries with
            authoritative := true, answers := answers }
          if answers = [] then
            ({ base with
                responseCode := if records = [] then .nxDomain else .noError
                authorities := (buildSoa library zone 1).toList },
              if records = [] then .authoritativeNxdomain
              else .authoritativeNodata)
          else (base, .authoritative))
      | _, _ => none
  else none

def rtypeFromHickory : RecordType → Option DnsRecordType
  | .a => some .a
  | .aaaa => some .aaaa
  | .cname => some .cname
  | .txt => some .txt
  | .mx => some .mx
  | .srv => some .srv
  | _ => none

/-- `str::split_once` at a blank. -/
def splitOnce (text : Text) : Option (Text × Text) :=
  let head := text.takeWhile (· ≠ ' ')
  match text.dropWhile (· ≠ ' ') with
  | [] => none
  | _ :: rest => some (head, rest)

def makeRdata (library : Library) (rtype : DnsRecordType) (value : Text) : Option RData :=
  let parseU16 := Text.parseUint (2 ^ 16)
  match rtype with
  | .a => (library.parseIpv4 value).map .a
  | .aaaa => (library.parseIpv6 value).map .aaaa
  | .cname => (library.nameFromStrRelaxed value).map .cname
  | .txt => some (.txt value)
  | .mx => do
    let (preference, exchange) ← splitOnce value
    return .mx (← parseU16 preference) (← library.nameFromStrRelaxed exchange)
  | .srv => do
    let (priority, rest) ← splitOnce value
    let (weight, rest) ← splitOnce rest
    let (port, target) ← splitOnce rest
    return .srv (← parseU16 priority) (← parseU16 weight) (← parseU16 port)
      (← library.nameFromStrRelaxed target)

def localZoneSuffix : Text := "lan".toList

/-- The records of a name for the queried type, or all of them. -/
def lookupFor (view : AuthoritativeView) (qtype : RecordType)
    (name : Text) : Option (List CustomDnsRecord) :=
  if qtype = .any then view.lookupAll name
  else (rtypeFromHickory qtype).bind (view.lookup name)

/-- The authoritative lookup with the local search-domain hop: a single label
without records is retried under the local zone, where only records of the
daemon itself count. -/
def authLookup (view : AuthoritativeView) (question : Question) : Option (List CustomDnsRecord) :=
  let domain := normalize question.name
  let direct := lookupFor view question.qtype domain
  if direct.all (· = []) ∧ domain ≠ [] ∧ '.' ∉ domain then
    match lookupFor view question.qtype (domain ++ ['.'] ++ localZoneSuffix) with
    | some records =>
      if records ≠ [] ∧ records.all (·.source = .system) then some records
      else direct
    | none => direct
  else direct

def renderRecords (library : Library) (name : Text)
    (records : List CustomDnsRecord) : List Record :=
  records.filterMap fun record =>
    (makeRdata library record.recordType record.value).map fun data => ⟨name, record.ttl, data⟩

/-- The answer and additional sections of an authoritative response. -/
def authSections (library : Library) (view : AuthoritativeView)
    (question : Question) (name : Text) (records : List CustomDnsRecord) :
    List Record × List Record :=
  let answers := renderRecords library name records
  let rtype := rtypeFromHickory question.qtype
  if answers = [] ∧ (rtype = some .a ∨ rtype = some .aaaa) then
    match view.lookupCname (normalize question.name), rtype with
    | some cname, some rtype =>
      (((makeRdata library .cname cname.value).map fun data =>
          (⟨name, cname.ttl, data⟩ : Record)).toList,
        match view.lookup (normalize cname.value) rtype, library.nameFromStrRelaxed cname.value with
        | some targets, some target => renderRecords library target targets
        | _, _ => [])
    | _, _ => (answers, [])
  else (answers, [])

/-- Stage 0.5: an authoritative answer. -/
def authoritativeAnswer (library : Library) (view : AuthoritativeView)
    (request : Message) (question : Question) : LocalAnswer :=
  (authLookup view question).map fun records =>
    (library.nameFromStrRelaxed question.name).map fun name =>
      let base := { response request.id request.queries with authoritative := true }
      if records = [] then
        ({ base with
          authorities :=
            ((view.authoritativeZone (normalize question.name)).bind
              ZoneAuthority.soa).toList }, .authoritative)
      else
        let sections := authSections library view question name records
        ({ base with answers := sections.1, additionals := sections.2 }, .authoritative)

def parseConditionalUpstream (library : Library) (upstream : Text) : Option Text :=
  let withPort :=
    if upstream.head? = some '[' then
      if library.isSocketAddr upstream then upstream
      else upstream ++ ":53".toList
    else if ':' ∈ upstream then
      if library.isSocketAddr upstream then upstream
      else '[' :: upstream ++ "]:53".toList
    else upstream ++ ":53".toList
  if library.isSocketAddr withPort then some withPort else none

/-- Stage 0.6: the conditional upstream of a name. -/
def conditionalUpstream (library : Library) (view : AuthoritativeView)
    (question : Question) : Option Text :=
  (view.matchForwardingRule (normalize question.name)).bind fun rule =>
    parseConditionalUpstream library rule.upstream

/-- Stage 0.7: a name under an authoritative zone never leaves. -/
def zoneNegative (library : Library) (view : AuthoritativeView)
    (request : Message) (question : Question) : LocalAnswer :=
  let domain := normalize question.name
  if (conditionalUpstream library view question).isSome then none
  else
    (view.authoritativeZone domain).map fun zone =>
      let exists? := (view.lookupAll domain).isSome ∨ domain = zone.name
      some ({ response request.id request.queries with
        authoritative := true
        responseCode := if exists? then .noError else .nxDomain
        authorities := zone.soa.toList },
        if exists? then .authoritativeNodata else .authoritativeNxdomain)

/-- The stages that answer without cache, filter or upstream. -/
def localAnswer (pipeline : QueryPipeline) (request : Message)
    (question : Question) : LocalAnswer :=
  let library := pipeline.library
  let view := pipeline.authoritativeView
  (privateReverse library view request question).or
    ((authoritativeAnswer library view request question).or
      (zoneNegative library view request question))

/-! ## Who is asking -/

/-- Stage 0: the upstream pool of the client. -/
def upstreamId (pipeline : QueryPipeline) (query : Query) : UpstreamId :=
  let byIp := pipeline.routingSnapshot.get query.src
  (match query.client with
    | .ip _ => byIp
    | .device id => (pipeline.deviceRoutingSnapshot.get id).or byIp).getD
    .default

/-- Stage 2: the filter's verdict for the client. -/
def verdict (pipeline : QueryPipeline) (query : Query)
    (question : Question) : Filter.CheckOutcome :=
  let domain := normalize question.name
  match query.client with
  | .ip _ => Filter.check pipeline.filter domain question.qtype query.src
  | .device id => Filter.checkForDevice pipeline.filter domain question.qtype id query.src

def blockResponse (request : Message) : Message :=
  { response request.id request.queries with responseCode := .nxDomain }

def rewriteResponse (request : Message) (name : Text) (ip : IpAddr) : Message :=
  { response request.id request.queries with
    answers := [⟨name, 60, match ip with
      | .v4 addr => .a addr
      | .v6 addr => .aaaa addr⟩] }

/-! ## Upstreams -/

/-- What the upstream stages share about one query. -/
structure Forward where
  request : Message
  question : Question
  upstreamId : UpstreamId
  passResult : DnsQueryResult
  insertAt : ℕ

def relayedResult (isNegative : Bool) (passResult : DnsQueryResult) : DnsQueryResult :=
  if isNegative ∧ passResult ≠ .blockedSkipped then .negative else passResult

section Upstreams

variable (library : Library) (config : DnsConfig) (cache : DnsCache Message) (forward : Forward)

def store (message : Message) (ttl : ℕ) : DnsCache Message :=
  cache.insert forward.insertAt forward.upstreamId forward.question.name
    forward.question.qtype message ttl config.cacheTtlMinSecs
    config.cacheTtlMaxSecs

/-- The shared shape of the failure responses. -/
def sendCode (code : ResponseCode) (result : DnsQueryResult) : Outcome :=
  send library
    { response forward.request.id forward.request.queries with
      responseCode := code } result cache

def sendServfail (result : DnsQueryResult) : Outcome :=
  sendCode library cache forward .servFail result

def sendRefused : Outcome := sendCode library cache forward .refused .rateLimited

/-- `send_resolved`: answers with a private address are withheld under
rebinding protection. -/
def sendResolved (answers : List Record) : Outcome :=
  if config.rebindingProtection ∧ answers.any fun record => record.address?.any Net.isPrivateIp then
    sendCode library cache forward .noError .rebindingBlocked
  else
    let message := { response forward.request.id forward.request.queries with answers := answers }
    let minTtl := answers.foldl (fun ttl record => min ttl record.ttl) u32Max
    if library.encodes message then
      ⟨some (.message message), some forward.passResult,
        if minTtl < u32Max ∧ 0 < minTtl then store config cache forward message minTtl
        else cache⟩
    else silent cache

/-- The lifetime of a negative answer: zero forbids caching, any other one is
clamped to the configured bounds. -/
def negativeLifetime (soa : Record) : ℕ :=
  match soa.data with
  | .soa _ _ _ _ _ _ minimum =>
    let raw := min soa.ttl minimum
    if raw = 0 then 0
    else min (max raw config.cacheTtlMinSecs) config.cacheTtlMaxSecs
  | _ => 0

def relayNegative (nxDomain : Bool) (soa : Option Record) : Outcome :=
  let ttl := (soa.map (negativeLifetime config)).getD 0
  let message := { response forward.request.id forward.request.queries with
    responseCode := if nxDomain then .nxDomain else .noError
    authorities := (soa.map fun record => { record with ttl := ttl }).toList }
  if library.encodes message then
    ⟨some (.message message), some (relayedResult true forward.passResult),
      if 0 < ttl then store config cache forward message ttl else cache⟩
  else silent cache

/-- `walk_ladder`: only a failure advances to the next upstream. -/
def walkLadder : List Attempt → Attempt
  | [] => .failed
  | .failed :: attempts => walkLadder attempts
  | attempt :: _ => attempt

def deliver : Attempt → Outcome
  | .answered answers => sendResolved library config cache forward answers
  | .negative nxDomain soa => relayNegative library config cache forward nxDomain soa
  | .failed => sendServfail library cache forward .upstreamError

/-- What the forwarding ladder returns before its deadline. -/
def ladderOutcome (env : Env) : Attempt :=
  if env.deadlineExpired then .failed else walkLadder env.ladder

def forwardViaDefaultResolver (env : Env) : Outcome :=
  deliver library config cache forward (ladderOutcome env)

/-- `handle_recursor_outcome`: a failure falls back to forwarding only when
upstreams are configured. -/
def handleRecursorOutcome (env : Env) : Outcome :=
  match env.recursor.getD .failed with
  | .failed =>
    if config.upstreamServers ≠ [] then forwardViaDefaultResolver library config cache forward env
    else sendServfail library cache forward .recursorFailed
  | attempt => deliver library config cache forward attempt

/-- The common end of `forward_via_tunnel` and `forward_via_conditional`: the
datagram is relayed as it is, and cached when it decodes. -/
def relayDatagram : Datagram → Outcome
  | .undecodable => ⟨some .raw, some forward.passResult, cache⟩
  | .decoded message =>
    let classified := classifyResponse message
    ⟨some (.message message), some (relayedResult classified.1 forward.passResult),
      if 0 < classified.2 then store config cache forward message classified.2
      else cache⟩

def forwardViaTunnel (env : Env) : Outcome :=
  match env.tunnel with
  | some datagram => relayDatagram config cache forward datagram
  | none => sendServfail library cache forward .upstreamError

/-- The receive loop of `forward_via_conditional`: datagrams that answer
another query are skipped, and only the first one may be undecodable. -/
def readConditional (first : Bool) : List Datagram → Option Datagram
  | [] => none
  | .undecodable :: datagrams =>
    if first then some .undecodable else readConditional false datagrams
  | .decoded message :: datagrams =>
    if message.id = forward.request.id ∧ message.queries.head?.map (fun query =>
          query.name.toAsciiLowercase) =
          some forward.question.name.toAsciiLowercase then
      some (.decoded message)
    else readConditional false datagrams

def forwardViaConditional (env : Env) : Outcome :=
  match readConditional forward true env.conditional with
  | some datagram => relayDatagram config cache forward datagram
  | none => sendServfail library cache forward .upstreamError

end Upstreams

/-- Stage 3: forward a query the filter passed. -/
def forwardQuery (pipeline : QueryPipeline) (cache : DnsCache Message)
    (query : Query) (forward : Forward) : Outcome :=
  let library := pipeline.library
  let config := pipeline.config
  let view := pipeline.authoritativeView
  if (conditionalUpstream library view forward.question).isSome then
    forwardViaConditional library config cache forward query.env
  else
    match forward.upstreamId with
    | .default =>
      if config.resolutionMode = .recursive then
        handleRecursorOutcome library config cache forward query.env
      else forwardViaDefaultResolver library config cache forward query.env
    | .tunnel _ => forwardViaTunnel library config cache forward query.env

/-- Stage 2.5: the rate limiter applies to clients known by address only. -/
def admits (query : Query) : Bool :=
  match query.client with
  | .ip _ => query.env.admitted
  | .device _ => true

def forwardOf (pipeline : QueryPipeline) (query : Query) (request : Message)
    (question : Question) : Forward where
  request := request
  question := question
  upstreamId := upstreamId pipeline query
  passResult :=
    if (verdict pipeline query question).wouldHaveBlocked then .blockedSkipped
    else .forwarded
  insertAt := query.env.insertAt

/-- Stages 2 to 3: the filter, the rate limiter and the upstreams. -/
def filterAndForward (pipeline : QueryPipeline) (cache : DnsCache Message)
    (query : Query) (request : Message) (question : Question) : Outcome :=
  match (verdict pipeline query question).action with
  | .block => send pipeline.library (blockResponse request) .blocked cache
  | .rewrite ip =>
    match pipeline.library.nameFromStrRelaxed question.name with
    | some name => send pipeline.library (rewriteResponse request name ip) .rewritten cache
    | none => silent cache
  | .pass =>
    let forward := forwardOf pipeline query request question
    if admits query then forwardQuery pipeline cache query forward
    else sendRefused pipeline.library cache forward

/-- The cache entry a query reads and may write. -/
def cacheKey (pipeline : QueryPipeline) (query : Query) (question : Question) : CacheKey :=
  DnsCache.key (upstreamId pipeline query) question.name question.qtype

/-- Stage 1: the response cache. -/
def cached (pipeline : QueryPipeline) (cache : DnsCache Message)
    (query : Query) (request : Message) (question : Question) : Option Message :=
  cache.get stamp query.env.lookupAt (upstreamId pipeline query)
    question.name question.qtype request.id

def handle (pipeline : QueryPipeline) (cache : DnsCache Message) (query : Query) : Outcome :=
  match query.packet with
  | .undecodable => silent cache
  | .decoded request =>
    match request.queries.head? with
    | none => silent cache
    | some question =>
      match localAnswer pipeline request question with
      | some (some (message, result)) => send pipeline.library message result cache
      | some none => silent cache
      | none =>
        match cached pipeline cache query request question with
        | some message => ⟨some (.message message), some .cacheHit, cache⟩
        | none => filterAndForward pipeline cache query request question

/-! ## Queries that reach the cache -/

/-- The request and question of a query that no local stage answers. -/
def pending (pipeline : QueryPipeline) (query : Query) : Option (Message × Question) :=
  match query.packet with
  | .undecodable => none
  | .decoded request =>
    request.queries.head?.bind fun question =>
      if (localAnswer pipeline request question).isSome then none
      else some (request, question)

variable {pipeline : QueryPipeline} {query : Query}

theorem handle_of_pending (cache : DnsCache Message) {request : Message} {question : Question}
    (hpending : pending pipeline query = some (request, question)) :
    handle pipeline cache query = match cached pipeline cache query request question with
      | some message => ⟨some (.message message), some .cacheHit, cache⟩
      | none => filterAndForward pipeline cache query request question := by
  unfold pending at hpending
  unfold handle
  cases hpacket : query.packet with
  | undecodable => simp [hpacket] at hpending
  | decoded decoded =>
    simp only [hpacket, Option.bind_eq_some_iff] at hpending
    obtain ⟨asked, hasked, hlocal⟩ := hpending
    split at hlocal
    · cases hlocal
    next hnone =>
      simp only [Option.some.injEq, Prod.mk.injEq] at hlocal
      obtain ⟨rfl, rfl⟩ := hlocal
      have hlocalNone : localAnswer pipeline decoded asked = none := by simpa using hnone
      simp only [hasked, hlocalNone]

/-! ## What handling a query can do to the cache -/

/-- An upstream stage leaves the cache as it was, or stores one response for
the query, and which of the two does not depend on the cache. -/
def StoresAtMost (config : DnsConfig) (forward : Forward)
    (stage : DnsCache Message → Outcome) : Prop :=
  ∃ stored : Option (Message × ℕ), ∀ cache, (stage cache).cache =
    stored.elim cache fun answer => store config cache forward answer.1 answer.2

theorem send_cache (library : Library) (message : Message)
    (result : DnsQueryResult) (cache : DnsCache Message) :
    (send library message result cache).cache = cache := by
  unfold send
  split <;> rfl

section Stores

variable (library : Library) (config : DnsConfig) (forward : Forward)

theorem storesAtMost_sendCode (code : ResponseCode) (result : DnsQueryResult) :
    StoresAtMost config forward fun cache => sendCode library cache forward code result :=
  ⟨none, fun _ => send_cache ..⟩

theorem storesAtMost_encoded (message : Message) (result : DnsQueryResult)
    (ttl : ℕ) (cacheable : Prop) [Decidable cacheable] :
    StoresAtMost config forward fun cache => if library.encodes message then
        ⟨some (.message message), some result,
          if cacheable then store config cache forward message ttl else cache⟩
      else silent cache := by
  split
  · split
    · exact ⟨some (message, ttl), fun _ => rfl⟩
    · exact ⟨none, fun _ => rfl⟩
  · exact ⟨none, fun _ => rfl⟩

theorem storesAtMost_relayDatagram (datagram : Datagram) :
    StoresAtMost config forward fun cache => relayDatagram config cache forward datagram := by
  cases datagram with
  | undecodable => exact ⟨none, fun _ => rfl⟩
  | decoded message =>
    simp only [StoresAtMost, relayDatagram]
    split
    · exact ⟨some (message, _), fun _ => rfl⟩
    · exact ⟨none, fun _ => rfl⟩

theorem storesAtMost_deliver (attempt : Attempt) :
    StoresAtMost config forward fun cache => deliver library config cache forward attempt := by
  cases attempt with
  | answered answers =>
    simp only [deliver, sendResolved]
    split
    · exact storesAtMost_sendCode ..
    · exact storesAtMost_encoded ..
  | negative nxDomain soa => exact storesAtMost_encoded ..
  | failed => exact storesAtMost_sendCode ..

/-- Relaying at most one datagram is the end of both datagram stages. -/
theorem storesAtMost_datagram (received : Option Datagram) :
    StoresAtMost config forward fun cache => match received with
      | some datagram => relayDatagram config cache forward datagram
      | none => sendServfail library cache forward .upstreamError := by
  cases received with
  | none => exact storesAtMost_sendCode ..
  | some datagram => exact storesAtMost_relayDatagram ..

theorem storesAtMost_forwardQuery (pipeline : QueryPipeline) (query : Query) :
    StoresAtMost pipeline.config forward fun cache =>
      forwardQuery pipeline cache query forward := by
  simp only [forwardQuery]
  split
  · exact storesAtMost_datagram ..
  · split
    · split
      · simp only [handleRecursorOutcome]
        split
        · split
          · exact storesAtMost_deliver ..
          · exact storesAtMost_sendCode ..
        · exact storesAtMost_deliver ..
      · exact storesAtMost_deliver ..
    · exact storesAtMost_datagram ..

theorem storesAtMost_filterAndForward (pipeline : QueryPipeline) (query : Query)
    (request : Message) {question : Question}
    (haction : (verdict pipeline query question).action = .pass) :
    StoresAtMost pipeline.config (forwardOf pipeline query request question) fun cache =>
      filterAndForward pipeline cache query request question := by
  simp only [filterAndForward, haction]
  split
  · exact storesAtMost_forwardQuery ..
  · exact storesAtMost_sendCode ..

end Stores

theorem filterAndForward_cache_of_filtered (cache : DnsCache Message) (request : Message)
    {question : Question} (haction : (verdict pipeline query question).action ≠ .pass) :
    (filterAndForward pipeline cache query request question).cache = cache := by
  unfold filterAndForward
  cases hverdict : (verdict pipeline query question).action with
  | pass => exact absurd hverdict haction
  | block =>
    exact send_cache ..
  | rewrite ip =>
    simp only
    split
    · exact send_cache ..
    · rfl

theorem handle_cache_of_not_pending (cache : DnsCache Message)
    (hpending : pending pipeline query = none) : (handle pipeline cache query).cache = cache := by
  unfold pending at hpending
  unfold handle
  cases hpacket : query.packet with
  | undecodable => rfl
  | decoded request =>
    simp only
    cases hquestion : request.queries.head? with
    | none => rfl
    | some question =>
      simp only [hpacket, hquestion, Option.bind_some] at hpending
      simp only
      split
      · exact send_cache ..
      · rfl
      next hlocal =>
        simp [hlocal] at hpending

end Wardnet.Dns
