import Wardnet.Inbound.Service

/-!
# What the calls rely on

When no call is in progress, the interface should admit the keys of the
enabled peers if the server is enabled, and nobody otherwise.  A call on one
peer works on the row of that peer and on its key; it relies on the others for
the flag, that row and that key.  Bringing the server up or down works on all
keys at once, so it relies on nothing else running.
-/

namespace Wardnet.Inbound

open Keyed

namespace Server

/-- An enabled row has the key. -/
def Granted (server : Server) (key : PublicKey) : Prop :=
  ∃ row ∈ server.peers.rows, row.publicKey = key ∧ row.enabled = true
  deriving Decidable

/-- The key is admitted exactly when it should be. -/
def Exact (server : Server) (key : PublicKey) : Prop :=
  key ∈ server.admitted ↔ server.enabled = true ∧ server.Granted key
  deriving Decidable

/-- The row of the peer has the key. -/
def Holds (server : Server) (id : Uuid) (key : PublicKey) : Prop :=
  ∃ row ∈ server.peers.find id, row.publicKey = key

/-- The key of the peer, if it has a row, is admitted as it should be. -/
def Settled (server : Server) (id : Uuid) : Prop := ∀ key, server.Holds id key → server.Exact key

end Server

/-! ## Rows and keys -/

namespace PeerTable

variable {table after : PeerTable} {row other : InboundWgPeerRow} {id : Uuid}

theorem find_eq_some : table.find id = some row ↔ row ∈ table.rows ∧ row.id = id :=
  Keyed.find_eq_some

/-- A key is in one row only. -/
theorem eq_of_publicKey (hrow : row ∈ table.rows) (hother : other ∈ table.rows)
    (hkey : row.publicKey = other.publicKey) : row = other :=
  List.inj_on_of_nodup_map table.distinct hrow hother hkey

theorem find_setEnabled (enabled : Bool) (wanted : Uuid) :
    (table.setEnabled id enabled).find wanted =
      if wanted = id then (table.find id).map fun row => { row with enabled := enabled }
      else table.find wanted := by
  unfold find setEnabled
  rw [find_update]

theorem find_delete (wanted : Uuid) :
    (table.delete id).find wanted = if wanted = id then none else table.find wanted := by
  unfold find delete
  rw [find_deleteWhere]
  apply Option.ext
  intro row
  by_cases hwanted : wanted = id
  · simp only [hwanted, if_true, Option.filter_eq_some_iff, reduceCtorEq, iff_false, not_and]
    intro hfind
    simp [(find_eq_some.mp hfind).2]
  · simp only [hwanted, if_false, Option.filter_eq_some_iff, and_iff_left_iff_imp]
    intro hfind
    simp [(find_eq_some.mp hfind).2, hwanted]

theorem insert_eq_some (hinsert : table.insert row = some after) :
    table.find row.id = none ∧ ∀ wanted, after.find wanted =
      if wanted = row.id then some row else table.find wanted := by
  unfold insert at hinsert
  split at hinsert
  · split at hinsert
    · cases hinsert
    · split at hinsert
      next keyed hkeyed =>
        cases hinsert
        exact ⟨find_of_insert hkeyed, find_insert hkeyed⟩
      · cases hinsert
  · cases hinsert

end PeerTable

namespace Server

variable {server after : Server} {id other : Uuid} {key : PublicKey} {row : InboundWgPeerRow}

theorem granted_iff : server.Granted key ↔
      ∃ id, ∃ row ∈ server.peers.find id, row.publicKey = key ∧ row.enabled = true := by
  constructor
  · rintro ⟨row, hrow, hkey⟩
    exact ⟨row.id, row, PeerTable.find_eq_some.mpr ⟨hrow, rfl⟩, hkey⟩
  · rintro ⟨id, row, hfind, hkey⟩
    exact ⟨row, (PeerTable.find_eq_some.mp hfind).1, hkey⟩

/-- The row of a peer decides whether its key is granted. -/
theorem granted_publicKey (hfind : server.peers.find id = some row) :
    server.Granted row.publicKey ↔ row.enabled = true := by
  have hrow := (PeerTable.find_eq_some.mp hfind).1
  constructor
  · rintro ⟨other, hother, hkey, henabled⟩
    rwa [PeerTable.eq_of_publicKey hrow hother hkey.symm]
  · exact fun henabled => ⟨row, hrow, rfl, henabled⟩

theorem holds_iff (hfind : server.peers.find id = some row) :
    server.Holds id key ↔ row.publicKey = key := by
  simp [Holds, hfind]

theorem not_holds (hfind : server.peers.find id = none) : ¬ server.Holds id key := by
  simp [Holds, hfind]

theorem settled_iff (hfind : server.peers.find id = some row) :
    server.Settled id ↔ (row.publicKey ∈ server.admitted ↔
        server.enabled = true ∧ row.enabled = true) := by
  simp only [Settled, holds_iff hfind, forall_eq', Exact, granted_publicKey hfind]

/-- Two peers never hold one key. -/
theorem holds_unique (hid : server.Holds id key)
    (hother : server.Holds other key) : id = other := by
  obtain ⟨row, hrow, rfl⟩ := hid
  obtain ⟨row', hrow', hkey⟩ := hother
  obtain ⟨hmem, rfl⟩ := PeerTable.find_eq_some.mp hrow
  obtain ⟨hmem', rfl⟩ := PeerTable.find_eq_some.mp hrow'
  rw [PeerTable.eq_of_publicKey hmem hmem' hkey.symm]

end Server

/-! ## What a call relies on and guarantees -/

/-- The peer a call works on; a call that brings the server up or down works
on all of them. -/
def Request.peer : Request → Option Uuid
  | .addPeer _ _ _ id _ _ => some id
  | .removePeer _ id => some id
  | .setPeerEnabled _ id _ => some id
  | .setConfig .. | .reconcile _ => none

/-- Calls on different peers may run together. -/
def Request.Compatible (left right : Request) : Prop :=
  left.peer ≠ none ∧ right.peer ≠ none ∧ left.peer ≠ right.peer
  deriving Decidable

theorem Request.Compatible.symm {left right : Request}
    (hcompatible : left.Compatible right) : right.Compatible left :=
  ⟨hcompatible.2.1, hcompatible.1, hcompatible.2.2.symm⟩

/-- The keys a call may leave wrong until it returns. -/
def Request.Owns (request : Request) (server : Server) (key : PublicKey) : Prop :=
  ∀ id ∈ request.peer, server.Holds id key

/-- The flag, the row of the peer and its key are left alone. -/
structure Leaves (id : Uuid) (before after : Server) : Prop where
  enabled : after.enabled = before.enabled
  row : after.peers.find id = before.peers.find id
  admitted : ∀ row ∈ before.peers.find id,
    (row.publicKey ∈ after.admitted ↔ row.publicKey ∈ before.admitted)

/-- Nothing but the row of the peer and its key changes, and a key that the
peer gives up is as it should be. -/
structure WorksOn (id : Uuid) (before after : Server) : Prop where
  enabled : after.enabled = before.enabled
  rows : ∀ other, other ≠ id → after.peers.find other = before.peers.find other
  admitted : ∀ key, ¬ before.Holds id key → ¬ after.Holds id key →
    (key ∈ after.admitted ↔ key ∈ before.admitted)
  givenUp : ∀ key, before.Holds id key → ¬ after.Holds id key → after.Exact key

/-- The operations whose failure leaves a call half done. -/
def Op.critical : Op → Bool
  | .findEnabled | .delete _ | .setEnabled .. | .setInboundWgEnabled _
  | .addMasquerade | .addInboundWgAccept _ => true
  | _ => false

def Request.contractTo {Result : Type} (request : Request)
    (post : Except AppError Result → Server → Prop) : Contract Bool Op Server AppError Result where
  rely before after :=
    match request.peer with
    | none => after = before
    | some id => Leaves id before after
  guarantee before after := ∀ id ∈ request.peer, WorksOn id before after
  admits fault op _ := fault = true → op.critical = false
  post := post

/-- The keys the call works on are admitted as they should be. -/
def Request.Rested (request : Request) (server : Server) : Prop :=
  ∀ key, request.Owns server key → server.Exact key

/-- A call starts and returns with the keys it works on at rest. -/
def Request.contract (request : Request) : Contract Bool Op Server AppError Response :=
  request.contractTo fun _ server => request.Rested server

/-- A part of a call leaves the keys the call works on at rest. -/
abbrev Request.Rests {Result : Type} (request : Request) (action : Action Result)
    (server : Server) : Prop :=
  action.Fulfils exec (request.contractTo fun _ after => request.Rested after) server

/-! ## What is stable -/

/-- Neither the peers nor the flag nor the interface change. -/
structure Same (before after : Server) : Prop where
  peers : after.peers = before.peers
  enabled : after.enabled = before.enabled
  admitted : after.admitted = before.admitted

section Stable

variable {request : Request} {before after : Server} {id : Uuid}

theorem Same.holds_iff (hsame : Same before after) (key : PublicKey) :
    after.Holds id key ↔ before.Holds id key := by
  simp only [Server.Holds, hsame.peers]

theorem Same.rested (hsame : Same before after)
    (hrested : request.Rested before) : request.Rested after := by
  intro key howns
  simp only [Server.Exact, Server.Granted, hsame.peers, hsame.enabled, hsame.admitted]
  apply hrested
  intro id hid
  rw [← hsame.holds_iff]
  exact howns id hid

theorem Same.worksOn (hsame : Same before after) : WorksOn id before after where
  enabled := hsame.enabled
  rows other _ := by rw [hsame.peers]
  admitted key _ _ := by rw [hsame.admitted]
  givenUp key hbefore hafter := absurd ((hsame.holds_iff key).mpr hbefore) hafter

theorem Request.rested_some (hpeer : request.peer = some id) :
    request.Rested before ↔ before.Settled id := by
  simp [Request.Rested, Request.Owns, Server.Settled, hpeer]

theorem Request.rested_none (hpeer : request.peer = none) :
    request.Rested before ↔ ∀ key, before.Exact key := by
  simp [Request.Rested, Request.Owns, hpeer]

theorem Leaves.settled (hleaves : Leaves id before after)
    (hsettled : before.Settled id) : after.Settled id := by
  cases hfind : before.peers.find id with
  | none =>
    have hafter : after.peers.find id = none := hleaves.row.trans hfind
    exact fun key hkey => absurd hkey (Server.not_holds hafter)
  | some row =>
    have hafter : after.peers.find id = some row := hleaves.row.trans hfind
    rw [Server.settled_iff hafter, hleaves.enabled, hleaves.admitted row hfind]
    exact (Server.settled_iff hfind).mp hsettled

theorem rely_some (hpeer : request.peer = some id) :
    request.contract.rely before after ↔ Leaves id before after := by
  simp only [Request.contract, Request.contractTo, hpeer]

theorem rely_none (hpeer : request.peer = none) :
    request.contract.rely before after ↔ after = before := by
  simp only [Request.contract, Request.contractTo, hpeer]

theorem guarantee_some (hpeer : request.peer = some id) :
    request.contract.guarantee before after ↔ WorksOn id before after := by
  simp [Request.contract, Request.contractTo, hpeer]

theorem guarantee_none (hpeer : request.peer = none) : request.contract.guarantee before after := by
  simp [Request.contract, Request.contractTo, hpeer]

theorem rely_rested (hrely : request.contract.rely before after)
    (hrested : request.Rested before) : request.Rested after := by
  cases hpeer : request.peer with
  | none => exact (rely_none hpeer).mp hrely ▸ hrested
  | some id =>
    rw [Request.rested_some hpeer] at hrested ⊢
    exact ((rely_some hpeer).mp hrely).settled hrested

theorem rely_enabled (hrely : request.contract.rely before after) :
    after.enabled = before.enabled := by
  cases hpeer : request.peer with
  | none => rw [(rely_none hpeer).mp hrely]
  | some id => exact ((rely_some hpeer).mp hrely).enabled

end Stable

/-! ## Operations that change nothing here -/

/-- The operations that leave the peers, the flag and the interface alone. -/
def Op.quiet : Op → Bool
  | .setInboundWgEnabled _ | .insert _ | .delete _ | .setEnabled ..
  | .ensureServer .. | .tearDownServer | .addPeer .. | .removePeer _ => false
  | _ => true

variable {op : Op} {answer : Answer op} {before after : Server}

/-- An operation fails and leaves everything as it is, or does its work. -/
theorem exec_cases {fault : Bool} (hexec : exec fault op before = some (answer, after)) :
    (fault = true ∧ op.onInterface = false ∧ after = before) ∨
      perform op before = (answer, after) := by
  unfold exec at hexec
  split at hexec
  next hfault =>
    refine .inl ⟨hfault.1, by simpa using hfault.2, ?_⟩
    split at hexec <;> exact (Prod.mk.inj (Option.some.inj hexec)).2.symm
  · exact .inr (Option.some.inj hexec)

abbrev Quiet {Result : Type} (action : Action Result) : Prop :=
  action.Performs fun op => op.quiet = true

theorem quiet_send (hop : op.quiet = true) : Quiet (send op) := ⟨hop, fun _ => trivial⟩

theorem quiet_call (hop : op.quiet = true) : Quiet (call op) := by
  refine ⟨hop, fun answer => ?_⟩
  cases answer <;> trivial

theorem quiet_requireEntitled : Quiet requireEntitled := by
  refine .bind (quiet_call rfl) fun entitled => ?_
  cases entitled <;> trivial

theorem quiet_ensureServerKeypair (publicOf : PrivateKey → PublicKey)
    (generated : PrivateKey) : Quiet (ensureServerKeypair publicOf generated) := by
  refine .bind (quiet_call rfl) fun found => ?_
  cases found with
  | some key => exact .bind (quiet_call rfl) fun _ => trivial
  | none => exact .bind (quiet_call rfl) fun _ => .bind (quiet_call rfl) fun _ => trivial

theorem quiet_resetPeerConnectionMode (row : InboundWgPeerRow) :
    Quiet (resetPeerConnectionMode row) := by
  unfold resetPeerConnectionMode
  split
  · refine .bind (Program.Performs.attempt (.bind (quiet_call rfl) fun found => ?_))
      fun _ => trivial
    cases found with
    | none => trivial
    | some device =>
      simp only
      split
      · exact .bind (quiet_call rfl) fun _ => trivial
      · trivial
  · trivial

section Rules

variable {Value Result : Type} {request : Request} {server : Server} {known : Server → Prop}

/-- What a call knows about the keys it works on, and neither the others nor
its own quiet operations change. -/
structure Stable (request : Request) (known : Server → Prop) : Prop where
  rely : ∀ before after, known before → request.contract.rely before after → known after
  same : ∀ before after, Same before after → known before → known after
  rested : ∀ server, known server → request.Rested server

theorem stable_rested : Stable request request.Rested where
  rely _ _ hknown hrely := rely_rested hrely hknown
  same _ _ hsame hknown := hsame.rested hknown
  rested _ hknown := hknown

theorem stable_up : Stable request fun server => request.Rested server ∧ server.enabled = true where
  rely _ _ hknown hrely := ⟨rely_rested hrely hknown.1, (rely_enabled hrely).trans hknown.2⟩
  same _ _ hsame hknown := ⟨hsame.rested hknown.1, hsame.enabled.trans hknown.2⟩
  rested _ hknown := hknown.1

variable {action : Action Result}

/-- A part of a call that changes nothing here keeps what is stable. -/
theorem Stable.fulfils (hstable : Stable request known)
    (hquiet : Quiet action) (hknown : known server) :
    action.Fulfils exec (request.contractTo fun _ after => known after) server := by
  refine Program.Fulfils.of_performs known hstable.rely ?_ (fun _ _ => id) hquiet hknown
  intro op hop fault before answer after hbefore hexec
  have hsame : Same before after := by
    rcases exec_cases hexec with ⟨-, -, rfl⟩ | hperform
    · exact ⟨rfl, rfl, rfl⟩
    · obtain rfl : (perform op before).2 = after := congrArg Prod.snd hperform
      cases op <;> first
        | exact ⟨rfl, rfl, rfl⟩
        | cases hop
  exact ⟨fun _ _ => hsame.worksOn, hstable.same before after hsame hbefore⟩

theorem Stable.bind {action : Action Value} {next : Value → Action Result}
    (hstable : Stable request known) (hquiet : Quiet action) (hknown : known server)
    (hnext : ∀ value after, known after → request.Rests (next value) after) :
    request.Rests (action >>= next) server :=
  Program.Fulfils.bind _ (hstable.fulfils hquiet hknown) hnext fun _ => hstable.rested

/-- A read returns what is in the store at that moment. -/
theorem Stable.bind_read {op : Op} {next : Inbound.Value op → Action Result}
    (hstable : Stable request known) (read : Server → Inbound.Value op) (hop : op ≠ .isEntitled)
    (hperform : ∀ before, perform op before = (.ok (read before), before)) (hknown : known server)
    (hnext : ∀ after, known after → request.Rests (next (read after)) after) :
    request.Rests (call op >>= next) server := by
  intro before hbefore fault _ answer after hexec
  obtain ⟨rfl, hanswer⟩ :
      after = before ∧ (answer = .error .failed ∨ answer = .ok (read before)) := by
    unfold exec at hexec
    split at hexec
    · split at hexec
      · exact absurd rfl hop
      · cases hexec
        exact ⟨rfl, .inl rfl⟩
    · rw [hperform] at hexec
      cases hexec
      exact ⟨rfl, .inr rfl⟩
  have hafter : known after := hstable.rely server after hknown hbefore
  refine ⟨fun _ _ => Same.worksOn ⟨rfl, rfl, rfl⟩, ?_⟩
  rcases hanswer with rfl | rfl
  · exact hstable.rested after hafter
  · exact hnext after hafter

/-- A call returns with the keys it works on at rest if what computes its
response does. -/
theorem fulfils_return {respond : Result → Response} (hfulfils : request.Rests action server) :
    Program.Fulfils exec request.contract (do
      let result ← action
      return respond result) server :=
  Program.Fulfils.bind _ hfulfils (fun _ _ => id) fun _ _ => id

end Rules

end Wardnet.Inbound
