import Wardnet.Core.HashMap
import Wardnet.Core.Transition

/-!
# DoT sessions and grant revocation

A DoT connection authenticates by the token in its SNI, is registered for
revocation, and then serves queries until its cancellation token fires.
Revoking a grant deletes its row, publishes `PrivateDnsGrantRevoked`, and the
runner answers the event with `ConnRegistry::disconnect`.  Resolving the
token and registering the connection are separate steps of the connection
task, so both may be interleaved with a revocation.
-/

namespace Wardnet.Dot

open HashMap List Option Transition

structure Grant (Device Token : Type) where
  id : ℕ
  deviceId : Device
  token : Token
  deriving DecidableEq

/-- Where `handle_connection` stands: the handshake is over and the token is
known, `resolve_token` has returned the grant, the connection is registered
under a connection id and serves queries, `serve_stream` has returned, or the
connection is gone. -/
inductive Phase (Device Token : Type)
  | handshaken (token : Token)
  | authenticated (grant : Grant Device Token)
  | serving (grant : Grant Device Token) (connId : ℕ)
  | draining (grant : Grant Device Token) (connId : ℕ)
  | closed
  deriving DecidableEq

/-- The grant that authenticated the connection, while the connection lives. -/
def Phase.grant? {Device Token : Type} : Phase Device Token → Option (Grant Device Token)
  | .authenticated grant | .serving grant _ | .draining grant _ => some grant
  | .handshaken _ | .closed => none

/-- The id under which the registry knows the connection. -/
def Phase.connId? {Device Token : Type} : Phase Device Token → Option ℕ
  | .serving _ connId | .draining _ connId => some connId
  | .handshaken _ | .authenticated _ | .closed => none

/-- A connection task with the state of its cancellation token. -/
structure Conn (Device Token : Type) where
  phase : Phase Device Token
  cancelled : Bool
  deriving DecidableEq

/-- `registry` is `ConnRegistry::by_device`, a cancellation token being named
by its connection.  `revoking` and `events` hold the deleted rows whose event
has not been published and not been handled; of an event only the device is
read.  `closing` is the `disconnect` call in progress with the entries it took
out of the registry, and `disconnected` records the grants whose `disconnect`
call has completed; no step reads it. -/
structure State (Device Token : Type) where
  grants : List (Grant Device Token)
  revoking : List (Grant Device Token)
  events : List (Grant Device Token)
  closing : Option (Grant Device Token × List (ℕ × ℕ))
  disconnected : List (Grant Device Token)
  registry : HashMap Device (List (ℕ × ℕ))
  conns : HashMap ℕ (Conn Device Token)
  nextGrant : ℕ
  nextConnId : ℕ
  nextConn : ℕ
  deriving DecidableEq

variable {Device Token : Type} [DecidableEq Device]

omit [DecidableEq Device] in
def State.new : State Device Token where
  grants := []
  revoking := []
  events := []
  closing := none
  disconnected := []
  registry := .empty
  conns := .empty
  nextGrant := 0
  nextConnId := 0
  nextConn := 0

def register (registry : HashMap Device (List (ℕ × ℕ))) (device : Device)
    (connId conn : ℕ) : HashMap Device (List (ℕ × ℕ)) :=
  registry.insert device ((registry.get device).getD [] ++ [(connId, conn)])

def deregister (registry : HashMap Device (List (ℕ × ℕ))) (device : Device)
    (connId : ℕ) : HashMap Device (List (ℕ × ℕ)) :=
  match registry.get device with
  | none => registry
  | some conns =>
    let kept := conns.filter fun entry => entry.1 ≠ connId
    if kept = [] then registry.remove device
    else registry.insert device kept

variable {registry : HashMap Device (List (ℕ × ℕ))} {entry : ℕ × ℕ}

theorem mem_register {device device' : Device} {connId conn : ℕ} :
    entry ∈ ((register registry device connId conn).get device').getD [] ↔
      entry ∈ (registry.get device').getD [] ∨ (device' = device ∧ entry = (connId, conn)) := by
  by_cases hdevice : device' = device
  · subst hdevice
    simp [register]
  · simp [register, hdevice]

theorem mem_deregister {device device' : Device} {connId : ℕ} :
    entry ∈ ((deregister registry device connId).get device').getD [] ↔
      entry ∈ (registry.get device').getD [] ∧ (device' = device → entry.1 ≠ connId) := by
  unfold deregister
  by_cases hdevice : device' = device
  · subst hdevice
    cases hconns : registry.get device' with
    | none => simp [hconns]
    | some conns =>
      simp only [getD_some, forall_const]
      split
      next hempty =>
        simp only [get_remove, if_true, getD_none, not_mem_nil, false_iff, not_and]
        intro hmem hne
        have hkept : entry ∈ conns.filter fun entry => entry.1 ≠ connId := by simp [hmem, hne]
        rw [hempty] at hkept
        cases hkept
      · simp
  · cases hconns : registry.get device with
    | none => simp [hdevice]
    | some conns =>
      simp only
      split <;> simp [hdevice]

/-- `token.cancel()` for every entry taken out of the registry. -/
def cancelAll (conns : HashMap ℕ (Conn Device Token)) : List (ℕ × ℕ) → HashMap ℕ (Conn Device Token)
  | [] => conns
  | (_, conn) :: entries =>
    match conns.get conn with
    | none => cancelAll conns entries
    | some found => cancelAll (conns.insert conn { found with cancelled := true }) entries

variable {conn : Conn Device Token}

omit [DecidableEq Device] in
/-- Cancelling moves no connection to another phase, never clears a token, and
fires the token of every entry. -/
theorem cancelAll_get_eq_some {entries : List (ℕ × ℕ)}
    {conns : HashMap ℕ (Conn Device Token)} {id : ℕ}
    (hget : (cancelAll conns entries).get id = some conn) :
    ∃ before, conns.get id = some before ∧ before.phase = conn.phase ∧
      (before.cancelled = true → conn.cancelled = true) ∧
      (∀ connId, (connId, id) ∈ entries → conn.cancelled = true) := by
  induction entries generalizing conns with
  | nil => exact ⟨conn, hget, rfl, fun h => h, by simp⟩
  | cons entry entries ih =>
    obtain ⟨entryId, target⟩ := entry
    simp only [cancelAll] at hget
    cases htarget : conns.get target with
    | none =>
      simp only [htarget] at hget
      obtain ⟨before, hbefore, hphase, hmono, hfired⟩ := ih hget
      refine ⟨before, hbefore, hphase, hmono, fun connId hmem => ?_⟩
      rcases mem_cons.mp hmem with heq | hmem
      · cases heq
        cases htarget.symm.trans hbefore
      · exact hfired connId hmem
    | some found =>
      simp only [htarget] at hget
      obtain ⟨before, hbefore, hphase, hmono, hfired⟩ := ih hget
      rcases get_insert_eq_some.mp hbefore with ⟨rfl, rfl⟩ | ⟨hid, hbefore⟩
      · exact ⟨found, htarget, hphase, fun _ => hmono rfl, fun _ _ => hmono rfl⟩
      · refine ⟨before, hbefore, hphase, hmono, fun connId hmem => ?_⟩
        rcases mem_cons.mp hmem with heq | hmem
        · exact absurd (Prod.mk.inj heq).2 hid
        · exact hfired connId hmem

inductive Label (Device Token : Type)
  | grantDevice (device : Device) (token : Token)
  | deleteGrant (id : ℕ)
  | publishRevoked (id : ℕ)
  | takeRevoked
  | cancelTaken
  | accept (token : Token)
  | resolveToken (conn : ℕ)
  | register (conn : ℕ)
  | finishStream (conn : ℕ)
  | deregister (conn : ℕ)

/-- One step of the admin, the runner or a connection task.  `takeRevoked` and
`cancelTaken` are the two halves of `ConnRegistry::disconnect`: the removal
under the lock, and the cancellations after it.  Two revocations may be
published in another order than their rows were deleted. -/
def next [DecidableEq Token] (state : State Device Token) :
    Label Device Token → Option (State Device Token)
  | .grantDevice device token =>
    if state.grants.any fun grant => grant.deviceId = device ∨ grant.token = token then none
    else
      some { state with
        grants := state.grants ++ [⟨state.nextGrant, device, token⟩]
        nextGrant := state.nextGrant + 1 }
  | .deleteGrant id =>
    match state.grants.find? fun grant => grant.id = id with
    | none => none
    | some row =>
      some { state with
        grants := state.grants.filter fun grant => grant.id ≠ id
        revoking := state.revoking ++ [row] }
  | .publishRevoked id =>
    match state.revoking.find? fun grant => grant.id = id with
    | none => none
    | some row =>
      some { state with
        revoking := state.revoking.filter fun grant => grant.id ≠ id
        events := state.events ++ [row] }
  | .takeRevoked =>
    match state.closing, state.events with
    | none, row :: rest =>
      some { state with
        events := rest
        closing := some (row, (state.registry.get row.deviceId).getD [])
        registry := state.registry.remove row.deviceId }
    | _, _ => none
  | .cancelTaken =>
    match state.closing with
    | none => none
    | some (row, entries) =>
      some { state with
        closing := none
        disconnected := row :: state.disconnected
        conns := cancelAll state.conns entries }
  | .accept token =>
    some { state with
      conns := state.conns.insert state.nextConn { phase := .handshaken token, cancelled := false }
      nextConn := state.nextConn + 1 }
  | .resolveToken conn =>
    match state.conns.get conn with
    | some ⟨.handshaken token, cancelled⟩ =>
      match state.grants.find? fun grant => grant.token = token with
      | some grant =>
        some { state with conns := state.conns.insert conn ⟨.authenticated grant, cancelled⟩ }
      | none => some { state with conns := state.conns.insert conn ⟨.closed, cancelled⟩ }
    | _ => none
  | .register conn =>
    match state.conns.get conn with
    | some ⟨.authenticated grant, cancelled⟩ =>
      some { state with
        conns := state.conns.insert conn ⟨.serving grant state.nextConnId, cancelled⟩
        registry := register state.registry grant.deviceId state.nextConnId conn
        nextConnId := state.nextConnId + 1 }
    | _ => none
  | .finishStream conn =>
    match state.conns.get conn with
    | some ⟨.serving grant connId, _⟩ =>
      some { state with conns := state.conns.insert conn ⟨.draining grant connId, true⟩ }
    | _ => none
  | .deregister conn =>
    match state.conns.get conn with
    | some ⟨.draining grant connId, cancelled⟩ =>
      some { state with
        conns := state.conns.insert conn ⟨.closed, cancelled⟩
        registry := deregister state.registry grant.deviceId connId }
    | _ => none

/-- Once the `disconnect` call of a revoked grant has completed, every living
connection that the grant authenticated is cancelled. -/
def SessionsClosed (state : State Device Token) : Prop :=
  ∀ grant ∈ state.disconnected, ∀ id conn,
    state.conns.get id = some conn → conn.phase.grant? = some grant →
    conn.cancelled = true

/-- When `disconnect` takes the device's entries out of the registry, no
connection that resolved the revoked grant is still on its way to being
registered. -/
def NoneUnregistered (state : State Device Token) : Label Device Token → Prop
  | .takeRevoked => ∀ row ∈ state.events.head?, ∀ entry ∈ state.conns.toList,
      entry.2.phase ≠ .authenticated row
  | _ => True

instance [DecidableEq Token] (state : State Device Token) (label : Label Device Token) :
    Decidable (NoneUnregistered state label) := by
  cases label <;> unfold NoneUnregistered <;> infer_instance

/-! ## Every serving connection can be reached by its revocation -/

/-- The grant's row is deleted and its revocation is under way or over. -/
def Revoked (state : State Device Token) (grant : Grant Device Token) : Prop :=
  grant ∈ state.revoking ∨ grant ∈ state.events ∨
    (∃ entries, state.closing = some (grant, entries)) ∨
    grant ∈ state.disconnected

/-- A serving connection is registered, held by the `disconnect` call in
progress, or cancelled; the call in progress holds every connection of the
grant it closes that is not cancelled yet. -/
structure Tracked (state : State Device Token) : Prop where
  rows_fresh : ∀ grant ∈ state.grants, grant.id < state.nextGrant
  revoked_gone : ∀ grant, Revoked state grant → grant.id < state.nextGrant ∧ grant ∉ state.grants
  conn_fresh : ∀ id conn, state.conns.get id = some conn → id < state.nextConn
  connId_fresh : ∀ id conn connId, state.conns.get id = some conn →
    conn.phase.connId? = some connId → connId < state.nextConnId
  connId_injective : ∀ left right leftConn rightConn connId, state.conns.get left = some leftConn →
    state.conns.get right = some rightConn →
    leftConn.phase.connId? = some connId →
    rightConn.phase.connId? = some connId → left = right
  serving_tracked : ∀ id conn grant connId,
    state.conns.get id = some conn → conn.phase = .serving grant connId →
    conn.cancelled = true ∨
    (connId, id) ∈ (state.registry.get grant.deviceId).getD [] ∨
    ∃ row entries, state.closing = some (row, entries) ∧ (connId, id) ∈ entries
  draining_cancelled : ∀ id conn grant connId,
    state.conns.get id = some conn → conn.phase = .draining grant connId →
    conn.cancelled = true
  closing_covers : ∀ row entries, state.closing = some (row, entries) →
    ∀ id conn, state.conns.get id = some conn → conn.phase.grant? = some row →
      conn.cancelled = true ∨
      ∃ connId, conn.phase = .serving row connId ∧ (connId, id) ∈ entries
  sessions_closed : SessionsClosed state

structure Held (state : State Device Token) (id : ℕ) (conn : Conn Device Token) : Prop where
  fresh : id < state.nextConn
  connId_fresh : ∀ connId, conn.phase.connId? = some connId → connId < state.nextConnId
  serving : ∀ grant connId, conn.phase = .serving grant connId → conn.cancelled = true ∨
    (connId, id) ∈ (state.registry.get grant.deviceId).getD [] ∨
    ∃ row entries, state.closing = some (row, entries) ∧ (connId, id) ∈ entries
  draining : ∀ grant connId, conn.phase = .draining grant connId → conn.cancelled = true
  closing : ∀ row entries, state.closing = some (row, entries) → conn.phase.grant? = some row →
    conn.cancelled = true ∨ ∃ connId, conn.phase = .serving row connId ∧ (connId, id) ∈ entries
  closed : ∀ grant ∈ state.disconnected, conn.phase.grant? = some grant → conn.cancelled = true

variable {state : State Device Token}

theorem Tracked.held (htracked : Tracked state) {id : ℕ}
    (hconn : state.conns.get id = some conn) : Held state id conn where
  fresh := htracked.conn_fresh id conn hconn
  connId_fresh := fun connId => htracked.connId_fresh id conn connId hconn
  serving := fun grant connId => htracked.serving_tracked id conn grant connId hconn
  draining := fun grant connId => htracked.draining_cancelled id conn grant connId hconn
  closing := fun row entries heq => htracked.closing_covers row entries heq id conn hconn
  closed := fun grant hmem => htracked.sessions_closed grant hmem id conn hconn

theorem tracked_of_held (hrows : ∀ grant ∈ state.grants, grant.id < state.nextGrant)
    (hgone : ∀ grant, Revoked state grant → grant.id < state.nextGrant ∧ grant ∉ state.grants)
    (hinjective : ∀ left right leftConn rightConn connId, state.conns.get left = some leftConn →
      state.conns.get right = some rightConn → leftConn.phase.connId? = some connId →
      rightConn.phase.connId? = some connId → left = right)
    (hheld : ∀ id conn, state.conns.get id = some conn → Held state id conn) : Tracked state where
  rows_fresh := hrows
  revoked_gone := hgone
  conn_fresh := fun id conn hconn => (hheld id conn hconn).fresh
  connId_fresh := fun id conn connId hconn => (hheld id conn hconn).connId_fresh connId
  connId_injective := hinjective
  serving_tracked := fun id conn grant connId hconn => (hheld id conn hconn).serving grant connId
  draining_cancelled := fun id conn grant connId hconn =>
    (hheld id conn hconn).draining grant connId
  closing_covers := fun row entries heq id conn hconn =>
    (hheld id conn hconn).closing row entries heq
  sessions_closed := fun grant hmem id conn hconn => (hheld id conn hconn).closed grant hmem

/-- A step that only changes the grant table and the queue of revocations
keeps the sessions tracked. -/
theorem Tracked.set_grants (htracked : Tracked state)
    (grants revoking events : List (Grant Device Token)) (nextGrant : ℕ)
    (hrows : ∀ grant ∈ grants, grant.id < nextGrant) (hgone : ∀ grant, Revoked
      { state with grants, revoking, events, nextGrant } grant →
      grant.id < nextGrant ∧ grant ∉ grants) :
    Tracked { state with grants, revoking, events, nextGrant } := by
  refine tracked_of_held hrows hgone htracked.connId_injective fun id conn hconn => ?_
  have hheld := htracked.held hconn
  exact ⟨hheld.fresh, hheld.connId_fresh, hheld.serving, hheld.draining, hheld.closing,
    hheld.closed⟩

theorem Tracked.grantDevice (htracked : Tracked state) (device : Device) (token : Token) :
    Tracked { state with
      grants := state.grants ++ [⟨state.nextGrant, device, token⟩]
      nextGrant := state.nextGrant + 1 } := by
  refine htracked.set_grants _ _ _ _ (fun grant hmem => ?_) (fun grant hrevoked => ?_)
  · rcases mem_append.mp hmem with hmem | hmem
    · exact Nat.lt_succ_of_lt (htracked.rows_fresh grant hmem)
    · cases mem_singleton.mp hmem
      exact Nat.lt_succ_self _
  · obtain ⟨hfresh, hgone⟩ := htracked.revoked_gone grant hrevoked
    refine ⟨Nat.lt_succ_of_lt hfresh, fun hmem => ?_⟩
    rcases mem_append.mp hmem with hmem | hmem
    · exact hgone hmem
    · cases mem_singleton.mp hmem
      exact Nat.lt_irrefl _ hfresh

variable {row : Grant Device Token}

section

variable (htracked : Tracked state)
include htracked

theorem Tracked.deleteGrant {id : ℕ}
    (hrow : state.grants.find? (fun grant => grant.id = id) = some row) :
    Tracked { state with
      grants := state.grants.filter fun grant => grant.id ≠ id
      revoking := state.revoking ++ [row] } := by
  have hmem := mem_of_find?_eq_some hrow
  have hid : row.id = id := by simpa using find?_some hrow
  refine htracked.set_grants _ _ _ _ (fun grant hkept => ?_) (fun grant hrevoked => ?_)
  · exact htracked.rows_fresh grant (mem_of_mem_filter hkept)
  · by_cases hsame : grant = row
    · subst hsame
      refine ⟨htracked.rows_fresh grant hmem, ?_⟩
      simp [hid]
    · have hbefore : Revoked state grant := by simpa [Revoked, hsame] using hrevoked
      obtain ⟨hfresh, hgone⟩ := htracked.revoked_gone grant hbefore
      exact ⟨hfresh, fun hkept => hgone (mem_of_mem_filter hkept)⟩

theorem Tracked.takeRevoked {rest : List (Grant Device Token)} (hclosing : state.closing = none)
    (hevents : state.events = row :: rest)
    (hregistered : ∀ id conn, state.conns.get id = some conn → conn.phase ≠ .authenticated row) :
    Tracked { state with
      events := rest
      closing := some (row, (state.registry.get row.deviceId).getD [])
      registry := state.registry.remove row.deviceId } := by
  refine tracked_of_held htracked.rows_fresh (fun grant hrevoked => ?_) htracked.connId_injective
    fun id conn hconn => ?_
  · apply htracked.revoked_gone grant
    simp only [Revoked, some.injEq, Prod.mk.injEq, exists_and_left] at hrevoked
    simp only [Revoked, hevents, mem_cons]
    tauto
  have hheld := htracked.held hconn
  have hserving : ∀ grant connId, conn.phase = .serving grant connId → conn.cancelled = true ∨
      (connId, id) ∈ (state.registry.get grant.deviceId).getD [] := by
    intro grant connId hphase
    apply (hheld.serving grant connId hphase).imp_right
    rintro (hentry | ⟨_, _, heq, -⟩)
    · exact hentry
    · cases hclosing.symm.trans heq
  refine ⟨hheld.fresh, hheld.connId_fresh, ?_, hheld.draining, ?_, hheld.closed⟩
  · intro grant connId hphase
    apply (hserving grant connId hphase).imp_right
    intro hentry
    by_cases hdevice : grant.deviceId = row.deviceId
    · exact .inr ⟨row, _, rfl, hdevice ▸ hentry⟩
    · exact .inl (by simpa [hdevice] using hentry)
  · intro found entries heq hgrant
    cases heq
    cases hphase : conn.phase with
    | handshaken | closed => simp [hphase, Phase.grant?] at hgrant
    | authenticated grant =>
      simp only [hphase, Phase.grant?, some.injEq] at hgrant
      exact absurd (hgrant ▸ hphase) (hregistered id conn hconn)
    | draining grant connId => exact .inl (hheld.draining grant connId hphase)
    | serving grant connId =>
      simp only [hphase, Phase.grant?, some.injEq] at hgrant
      subst hgrant
      exact (hserving grant connId hphase).imp_right fun hentry => ⟨connId, rfl, hentry⟩

theorem Tracked.cancelTaken {entries : List (ℕ × ℕ)}
    (hclosing : state.closing = some (row, entries)) :
    Tracked { state with
      closing := none
      disconnected := row :: state.disconnected
      conns := cancelAll state.conns entries } := by
  refine tracked_of_held htracked.rows_fresh (fun grant hrevoked => ?_) ?_ fun id conn hconn => ?_
  · apply htracked.revoked_gone grant
    simp only [Revoked, mem_cons, reduceCtorEq, exists_false, false_or] at hrevoked
    simp only [Revoked, hclosing, some.injEq, Prod.mk.injEq, exists_and_left, exists_eq', and_true]
    tauto
  · intro left right leftConn rightConn connId hleft hright hleftId hrightId
    obtain ⟨leftBefore, hleftBefore, hleftPhase, -⟩ := cancelAll_get_eq_some hleft
    obtain ⟨rightBefore, hrightBefore, hrightPhase, -⟩ := cancelAll_get_eq_some hright
    exact htracked.connId_injective left right _ _ connId hleftBefore
      hrightBefore (hleftPhase ▸ hleftId) (hrightPhase ▸ hrightId)
  obtain ⟨before, hbefore, hphase, hmono, hfired⟩ := cancelAll_get_eq_some hconn
  have hheld := htracked.held hbefore
  refine ⟨hheld.fresh, hphase ▸ hheld.connId_fresh, ?_, ?_, nofun, ?_⟩
  · intro grant connId hserving
    rcases hheld.serving grant connId (hphase.trans hserving)
      with hcancelled | hentry | ⟨_, _, heq, hmem⟩
    · exact .inl (hmono hcancelled)
    · exact .inr (.inl hentry)
    · cases hclosing.symm.trans heq
      exact .inl (hfired connId hmem)
  · exact fun grant connId hdraining => hmono (hheld.draining grant connId (hphase.trans hdraining))
  · intro grant hmem hgrant
    rw [← hphase] at hgrant
    rcases mem_cons.mp hmem with rfl | hmem
    · rcases hheld.closing grant entries hclosing hgrant with hcancelled | ⟨connId, -, hentry⟩
      · exact hmono hcancelled
      · exact hfired connId hentry
    · exact hmono (hheld.closed grant hmem hgrant)

/-- Moving one connection to a new phase keeps the sessions tracked, provided
the new phase meets for this connection what the invariant asks of each one
and no other serving connection loses its registry entry. -/
theorem Tracked.set_conn {id : ℕ} {conn : Conn Device Token}
    {registry : HashMap Device (List (ℕ × ℕ))} {nextConnId nextConn : ℕ}
    (hnextConn : state.nextConn ≤ nextConn) (hnextConnId : state.nextConnId ≤ nextConnId)
    (hheld : Held { state with
      conns := state.conns.insert id conn
      registry, nextConnId, nextConn } id conn)
    (hconnId : ∀ connId, conn.phase.connId? = some connId → ∀ other otherConn, other ≠ id →
      state.conns.get other = some otherConn → otherConn.phase.connId? ≠ some connId)
    (hregistry : ∀ other otherConn grant connId, other ≠ id →
      state.conns.get other = some otherConn → otherConn.phase = .serving grant connId →
      (connId, other) ∈ (state.registry.get grant.deviceId).getD [] →
      (connId, other) ∈ (registry.get grant.deviceId).getD []) :
    Tracked { state with
      conns := state.conns.insert id conn
      registry, nextConnId, nextConn } := by
  refine tracked_of_held htracked.rows_fresh htracked.revoked_gone ?_ fun other found hfound => ?_
  · intro left right leftConn rightConn connId hleft hright hleftId hrightId
    rcases get_insert_eq_some.mp hleft with ⟨rfl, rfl⟩ | ⟨hleftNe, hleftOld⟩ <;>
      rcases get_insert_eq_some.mp hright with ⟨rfl, rfl⟩ | ⟨hrightNe, hrightOld⟩
    · rfl
    · exact absurd hrightId (hconnId connId hleftId right rightConn hrightNe hrightOld)
    · exact absurd hleftId (hconnId connId hrightId left leftConn hleftNe hleftOld)
    · exact htracked.connId_injective left right leftConn rightConn connId
        hleftOld hrightOld hleftId hrightId
  rcases get_insert_eq_some.mp hfound with ⟨rfl, rfl⟩ | ⟨hne, hfound⟩
  · exact hheld
  · have hold := htracked.held hfound
    refine ⟨Nat.lt_of_lt_of_le hold.fresh hnextConn,
      fun connId hphase => Nat.lt_of_lt_of_le (hold.connId_fresh connId hphase) hnextConnId,
      fun grant connId hphase => ?_, hold.draining, hold.closing, hold.closed⟩
    exact (hold.serving grant connId hphase).imp_right
      (.imp_left (hregistry other found grant connId hne hfound hphase))

end

theorem held_closed {id : ℕ} (hid : id < state.nextConn) (cancelled : Bool) :
    Held state id ⟨.closed, cancelled⟩ := by
  constructor <;> simp [Phase.connId?, Phase.grant?, hid]

theorem Tracked.register (htracked : Tracked state) {id : ℕ} {cancelled : Bool}
    {grant : Grant Device Token}
    (hconn : state.conns.get id = some ⟨.authenticated grant, cancelled⟩) :
    Tracked { state with
      conns := state.conns.insert id ⟨.serving grant state.nextConnId, cancelled⟩
      registry := Dot.register state.registry grant.deviceId state.nextConnId id
      nextConnId := state.nextConnId + 1 } := by
  have hheld := htracked.held hconn
  apply htracked.set_conn le_rfl (Nat.le_succ _)
  · refine ⟨hheld.fresh, ?_, ?_, by simp, ?_, hheld.closed⟩
    · rintro connId ⟨⟩
      exact Nat.lt_succ_self _
    · rintro found connId ⟨⟩
      exact .inr (.inl (mem_register.mpr (.inr ⟨rfl, rfl⟩)))
    · intro row entries hclosing hgrant
      rcases hheld.closing row entries hclosing hgrant with hcancelled | ⟨connId, hserving, -⟩
      · exact .inl hcancelled
      · cases hserving
  · rintro connId ⟨⟩ other found _ hfound hphase
    exact Nat.lt_irrefl _ ((htracked.held hfound).connId_fresh _ hphase)
  · exact fun _ _ _ _ _ _ _ hentry => mem_register.mpr (.inl hentry)

theorem tracked_step [DecidableEq Token] {after : State Device Token}
    {label : Label Device Token} (htracked : Tracked state)
    (hsettled : NoneUnregistered state label)
    (hnext : next state label = some after) : Tracked after := by
  revert hnext
  fun_cases next state label <;> rintro ⟨⟩
  · exact htracked.grantDevice _ _
  · exact htracked.deleteGrant ‹_›
  next row hrow =>
    refine htracked.set_grants _ _ _ _ htracked.rows_fresh
      (fun grant hrevoked => htracked.revoked_gone grant ?_)
    rcases hrevoked with hwaiting | hevent | hrest
    · exact .inl (mem_of_mem_filter hwaiting)
    · rcases mem_append.mp hevent with hevent | hevent
      · exact .inr (.inl hevent)
      · cases mem_singleton.mp hevent
        exact .inl (mem_of_find?_eq_some hrow)
    · exact .inr (.inr hrest)
  next row rest hevents hclosing =>
    refine htracked.takeRevoked hclosing hevents fun id conn hconn => ?_
    exact hsettled row (by simp [hevents]) (id, conn) (mem_toList.mpr hconn)
  · exact htracked.cancelTaken ‹_›
  · apply htracked.set_conn (Nat.le_succ _) le_rfl
    · constructor <;> simp [Phase.connId?, Phase.grant?]
    · simp [Phase.connId?]
    · exact fun _ _ _ _ _ _ _ => id
  · rename_i hconn grant hgrant
    have hlive : ∀ row, Revoked state row → some grant ≠ some row := by
      rintro row hrevoked heq
      cases heq
      exact (htracked.revoked_gone grant hrevoked).2 (mem_of_find?_eq_some hgrant)
    apply htracked.set_conn le_rfl le_rfl
    · refine ⟨(htracked.held hconn).fresh, by simp [Phase.connId?], by simp, by simp, ?_, ?_⟩
      · intro row entries hclosing hrow
        exact absurd hrow (hlive row (.inr (.inr (.inl ⟨entries, hclosing⟩))))
      · intro row hmem hrow
        exact absurd hrow (hlive row (.inr (.inr (.inr hmem))))
    · simp [Phase.connId?]
    · exact fun _ _ _ _ _ _ _ => id
  next hconn _ =>
    apply htracked.set_conn le_rfl le_rfl
    · apply held_closed
      exact (htracked.held hconn).fresh
    · simp [Phase.connId?]
    · exact fun _ _ _ _ _ _ _ => id
  · exact htracked.register ‹_›
  next hconn =>
    have hheld := htracked.held hconn
    apply htracked.set_conn le_rfl le_rfl
    · exact ⟨hheld.fresh, hheld.connId_fresh, by simp, by simp, by simp, by simp⟩
    · intro found hfound other otherConn hne hother hphase
      exact hne (htracked.connId_injective other _ _ _ found hother hconn hphase hfound)
    · exact fun _ _ _ _ _ _ _ => id
  next grant connId _ hconn =>
    apply htracked.set_conn le_rfl le_rfl
    · apply held_closed
      exact (htracked.held hconn).fresh
    · simp [Phase.connId?]
    · intro other found otherGrant otherId hne hfound hphase hentry
      refine mem_deregister.mpr ⟨hentry, fun _ heq => hne ?_⟩
      have hotherId : found.phase.connId? = some connId := by
        rw [hphase, ← heq, Phase.connId?]
      exact htracked.connId_injective other _ found _ connId hfound hconn hotherId rfl

/-- In every interleaving in which no connection of the revoked grant is
between `resolve_token` and `register` when `disconnect` empties the registry,
a completed `disconnect` leaves every session of the grant cancelled. -/
theorem sessionsClosed_of_noneUnregistered [DecidableEq Token]
    {labels : List (Label Device Token)} {state : State Device Token}
    (hsettled : Meets next NoneUnregistered State.new labels)
    (hrun : run next State.new labels = some state) : SessionsClosed state :=
  (run_invariant_of_meets (fun _ _ _ htracked hcond hnext => tracked_step htracked hcond hnext)
    (by constructor <;> simp [State.new, Revoked, SessionsClosed]) hsettled hrun).sessions_closed

/-- A session that is registered before its grant is revoked. -/
def revokedSession : List (Label ℕ ℕ) :=
  [.grantDevice 1 5, .accept 5, .resolveToken 0, .register 0, .deleteGrant 0,
    .publishRevoked 0, .takeRevoked, .cancelTaken]

theorem sessionsClosed_of_noneUnregistered_revokedSession :
    ∃ state, run next State.new revokedSession = some state ∧
      state.disconnected = [⟨0, 1, 5⟩] ∧ SessionsClosed state := by
  have hrun : ∃ state, run next State.new revokedSession = some state ∧
      state.disconnected = [⟨0, 1, 5⟩] := by
    decide
  obtain ⟨state, hrun, hdisconnected⟩ := hrun
  exact ⟨state, hrun, hdisconnected, sessionsClosed_of_noneUnregistered (by decide) hrun⟩

/-- A connection whose token is resolved before the revocation and which is
registered after the `disconnect` call serves on, uncancelled. -/
theorem late_register_survives_revocation : ∃ state, run next (State.new : State ℕ ℕ)
        [.grantDevice 1 5, .accept 5, .resolveToken 0, .deleteGrant 0,
          .publishRevoked 0, .takeRevoked, .cancelTaken, .register 0] = some state ∧
      state.conns.get 0 = some ⟨.serving ⟨0, 1, 5⟩ 0, false⟩ ∧ ¬ SessionsClosed state := by
  refine ⟨_, rfl, by decide, ?_⟩
  intro hclosed
  have hcancelled := hclosed ⟨0, 1, 5⟩ (by decide) 0 ⟨.serving ⟨0, 1, 5⟩ 0, false⟩ (by decide) rfl
  cases hcancelled

end Wardnet.Dot
