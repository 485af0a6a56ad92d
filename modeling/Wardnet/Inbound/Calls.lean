import Wardnet.Inbound.Contract

/-!
# The calls keep their contracts

One theorem for each call: from a state in which the keys it works on are
admitted as they should be, it returns to one, whatever the calls on other
peers do in between.
-/

namespace Wardnet.Inbound

/-! ## Calls on one peer -/

/-- An operation that cannot fail is performed. -/
theorem exec_sure {fault : Bool} {op : Op} {before after : Server} {answer : Answer op}
    (hop : op.onInterface = true ∨ op.critical = true)
    (hadmits : fault = true → op.critical = false)
    (hexec : exec fault op before = some (answer, after)) :
    perform op before = (answer, after) := by
  rcases exec_cases hexec with ⟨hfault, hnot, -⟩ | hperform
  · simp [hnot, hadmits hfault] at hop
  · exact hperform

section WorksOn

variable {before : Server} {id : Uuid} {row : InboundWgPeerRow}

/-- Only the key of the peer is admitted or evicted. -/
theorem worksOn_admitted (admitted : Finset PublicKey) (hadmitted : ∀ key, ¬ before.Holds id key →
      (key ∈ admitted ↔ key ∈ before.admitted)) :
    WorksOn id before { before with admitted := admitted } where
  enabled := rfl
  rows _ _ := rfl
  admitted key hkey _ := hadmitted key hkey
  givenUp _ hbefore hafter := absurd hbefore hafter

theorem worksOn_evict (hfind : before.peers.find id = some row) :
    WorksOn id before { before with admitted := before.admitted.erase row.publicKey } := by
  apply worksOn_admitted
  intro key hkey
  rw [Server.holds_iff hfind] at hkey
  simp [Ne.symm hkey]

theorem worksOn_admits (hfind : before.peers.find id = some row) :
    WorksOn id before { before with admitted := insert row.publicKey before.admitted } := by
  apply worksOn_admitted
  intro key hkey
  rw [Server.holds_iff hfind] at hkey
  simp [Ne.symm hkey]

end WorksOn

section PeerCalls

variable {request : Request} {server : Server} {id : Uuid}

/-- `remove_peer`: the key is evicted before the row goes. -/
theorem fulfils_removePeer (caller : AuthContext)
    (hpeer : request.peer = some id) (hrested : request.Rested server) :
    request.Rests (removePeer caller id) server := by
  refine stable_rested.bind trivial hrested fun _ checked hchecked => ?_
  refine stable_rested.bind_read (·.peers.find id) (by simp) (fun _ => rfl) hchecked ?_
  intro loaded hloaded
  cases hfind : loaded.peers.find id with
  | none => exact hloaded
  | some row =>
    intro before hrely fault hadmits answer evicted hexec
    have hbefore : before.peers.find id = some row := ((rely_some hpeer).mp hrely).row.trans hfind
    obtain ⟨-, rfl⟩ := Prod.mk.inj (exec_sure (.inl rfl) hadmits hexec)
    refine ⟨(guarantee_some hpeer).mpr (worksOn_evict hbefore), ?_⟩
    intro deleting hrely fault hadmits answer after hexec
    have hleaves := (rely_some hpeer).mp hrely
    have hdeleting : deleting.peers.find id = some row := hleaves.row.trans hbefore
    have hevicted : row.publicKey ∉ deleting.admitted := by
      rw [hleaves.admitted row hbefore]
      exact Finset.notMem_erase row.publicKey before.admitted
    cases exec_sure (.inr rfl) hadmits hexec
    refine ⟨(guarantee_some hpeer).mpr ⟨rfl, ?_, fun _ _ _ => Iff.rfl, ?_⟩, ?_⟩
    · intro other hother
      rw [PeerTable.find_delete, if_neg hother]
    · intro key hkey _
      obtain rfl := (Server.holds_iff hdeleting).mp hkey
      refine iff_of_false hevicted ?_
      rintro ⟨-, hgranted⟩
      obtain ⟨wanted, other, hother, hsame, -⟩ := Server.granted_iff.mp hgranted
      rw [Option.mem_def, PeerTable.find_delete] at hother
      split at hother
      · cases hother
      next hwanted =>
        exact hwanted (Server.holds_unique ⟨other, hother, hsame⟩ ⟨row, hdeleting, rfl⟩)
    refine stable_rested.fulfils (quiet_resetPeerConnectionMode row) ?_
    rw [Request.rested_some hpeer]
    intro key hkey
    refine absurd hkey (Server.not_holds ?_)
    rw [PeerTable.find_delete, if_pos rfl]

variable {row : InboundWgPeerRow}

/-- The row is written when its key is already as the row will say. -/
theorem fulfils_setEnabled {Result : Type} {rest : Unit → Action Result} {enabled : Bool}
    (hquiet : ∀ answer, Quiet (rest answer)) (hpeer : request.peer = some id)
    (hfind : server.peers.find id = some row) (hadmitted : row.publicKey ∈ server.admitted ↔
      server.enabled = true ∧ enabled = true) :
    request.Rests (do
        let answer ← call (.setEnabled id enabled)
        rest answer) server := by
  intro before hrely fault hadmits answer after hexec
  have hleaves := (rely_some hpeer).mp hrely
  have hbefore : before.peers.find id = some row := hleaves.row.trans hfind
  cases exec_sure (.inr rfl) hadmits hexec
  have hafter : (before.peers.setEnabled id enabled).find id =
      some { row with enabled := enabled } := by
    simp [PeerTable.find_setEnabled, hbefore]
  refine ⟨(guarantee_some hpeer).mpr ⟨rfl, ?_, fun _ _ _ => Iff.rfl, ?_⟩, ?_⟩
  · intro other hother
    rw [PeerTable.find_setEnabled, if_neg hother]
  · intro key hkey hnot
    obtain rfl := (Server.holds_iff hbefore).mp hkey
    exact absurd ⟨_, hafter, rfl⟩ hnot
  refine stable_rested.fulfils (hquiet ()) ?_
  rw [Request.rested_some hpeer, Server.settled_iff hafter]
  rw [← hleaves.admitted row hfind, ← hleaves.enabled] at hadmitted
  exact hadmitted

/-- `set_peer_enabled`: the interface first, then the row. -/
theorem fulfils_setPeerEnabled (caller : AuthContext) (enabled : Bool)
    (hpeer : request.peer = some id) (hrested : request.Rested server) :
    request.Rests (setPeerEnabled caller id enabled) server := by
  refine stable_rested.bind trivial hrested fun _ checked hchecked => ?_
  refine stable_rested.bind_read (·.peers.find id) (by simp) (fun _ => rfl) hchecked ?_
  intro loaded hloaded
  cases hfind : loaded.peers.find id with
  | none => exact hloaded
  | some row =>
    simp only
    split
    · exact hloaded
    have hquiet : ∀ answer : Unit, Quiet (if enabled = true then
        (pure { row with enabled := enabled } : Action InboundWgPeerRow)
        else do
          resetPeerConnectionMode row
          pure { row with enabled := enabled }) := by
      intro _
      split
      · trivial
      · exact .bind (quiet_resetPeerConnectionMode row) fun _ => trivial
    have hstable : Stable request fun server =>
        request.Rested server ∧ server.peers.find id = some row := by
      refine ⟨?_, ?_, fun _ hknown => hknown.1⟩
      · exact fun _ _ hknown hrely =>
          ⟨rely_rested hrely hknown.1, ((rely_some hpeer).mp hrely).row.trans hknown.2⟩
      · exact fun _ _ hsame hknown => ⟨hsame.rested hknown.1, hsame.peers ▸ hknown.2⟩
    refine hstable.bind_read Server.enabled (by simp) (fun _ => rfl) ⟨hloaded, hfind⟩ ?_
    rintro asked ⟨hasked, hrow⟩
    cases hflag : asked.enabled with
    | false =>
      refine fulfils_setEnabled hquiet hpeer hrow ?_
      rw [Request.rested_some hpeer, Server.settled_iff hrow] at hasked
      simpa [hflag] using hasked
    | true =>
      cases enabled with
      | true =>
        intro before hrely fault hadmits answer after hexec
        have hbefore := (hstable.rely asked before ⟨hasked, hrow⟩ hrely).2
        have hon : before.enabled = true := (rely_enabled hrely).trans hflag
        cases exec_sure (.inl rfl) hadmits hexec
        refine ⟨(guarantee_some hpeer).mpr (worksOn_admits hbefore), ?_⟩
        exact fulfils_setEnabled hquiet hpeer hbefore (by simp [hon])
      | false =>
        intro before hrely fault hadmits answer after hexec
        have hbefore := (hstable.rely asked before ⟨hasked, hrow⟩ hrely).2
        obtain ⟨-, rfl⟩ := Prod.mk.inj (exec_sure (.inl rfl) hadmits hexec)
        refine ⟨(guarantee_some hpeer).mpr (worksOn_evict hbefore), ?_⟩
        exact fulfils_setEnabled hquiet hpeer hbefore (by simp)

theorem exec_insert {fault : Bool} {before after : Server} {answer : Answer (.insert row)}
    (hexec : exec fault (.insert row) before = some (answer, after)) :
    (∃ error, answer = .error error ∧ after = before) ∨
      (answer = .ok () ∧ ∃ peers, before.peers.insert row = some peers ∧
        after = { before with peers := peers }) := by
  cases fault with
  | true =>
    cases hexec
    exact .inl ⟨_, rfl, rfl⟩
  | false =>
    simp only [exec, Bool.false_eq_true, false_and, if_false, perform, Option.some.injEq] at hexec
    split at hexec
    next written hwritten =>
      cases hexec
      refine .inr ⟨rfl, ?_⟩
      unfold Server.insertPeer at hwritten
      split at hwritten
      · cases hwritten
      · split at hwritten
        next peers hinsert =>
          exact ⟨peers, hinsert, (Except.ok.inj hwritten).symm⟩
        · cases hwritten
    · cases hexec
      exact .inl ⟨_, rfl, rfl⟩

theorem exec_addPeer {fault : Bool} {key : PublicKey} {allowedIp : Net.Ipv4Addr}
    {before after : Server} {answer : Answer (.addPeer key allowedIp)}
    (hadmits : fault = true → Op.critical (.addPeer key allowedIp) = false)
    (hexec : exec fault (.addPeer key allowedIp) before = some (answer, after)) :
    answer = .ok () ∧ after = { before with admitted := insert key before.admitted } := by
  cases exec_sure (.inl rfl) hadmits hexec
  exact ⟨rfl, rfl⟩

/-- `add_peer`: the row first, then the interface, while the server is up. -/
theorem fulfils_addPeer (publicOf : PrivateKey → PublicKey)
    (caller : AuthContext) (deviceId : Uuid) (endpoint : Option Text)
    (key : PrivateKey) (now : ℕ) (hpeer : request.peer = some id)
    (hrested : request.Rested server) :
    request.Rests (addPeer publicOf caller deviceId endpoint id key now) server := by
  refine stable_rested.bind trivial hrested fun _ checked hchecked => ?_
  refine stable_rested.bind quiet_requireEntitled hchecked fun _ entitled hentitled => ?_
  refine stable_rested.bind_read Server.enabled (by simp) (fun _ => rfl) hentitled
    fun asked hasked => ?_
  split
  · exact hasked
  rename_i hon
  have hasked : request.Rested asked ∧ asked.enabled = true := ⟨hasked, by simpa using hon⟩
  refine stable_up.bind (quiet_call rfl) hasked fun device loaded hloaded => ?_
  split
  · exact hloaded.1
  refine stable_up.bind (quiet_call rfl) hloaded fun granted looked hlooked => ?_
  split
  · exact hlooked.1
  split
  · exact hlooked.1
  refine stable_up.bind (quiet_call rfl) hlooked fun existing listed hlisted => ?_
  refine stable_up.bind trivial hlisted fun allowedIp allocated hallocated => ?_
  intro before hrely fault _ answer inserted hexec
  have hbefore := stable_up.rely allocated before hallocated hrely
  rcases exec_insert hexec with ⟨error, rfl, rfl⟩ | ⟨rfl, peers, hinsert, rfl⟩
  · refine ⟨(guarantee_some hpeer).mpr (Same.worksOn ⟨rfl, rfl, rfl⟩), ?_⟩
    cases error <;> exact hbefore.1
  obtain ⟨hfresh, hfind⟩ := PeerTable.insert_eq_some hinsert
  refine ⟨(guarantee_some hpeer).mpr ⟨rfl, fun other hother => ?_, fun _ _ _ => Iff.rfl,
    fun key hkey _ => absurd hkey (Server.not_holds hfresh)⟩, ?_⟩
  · rw [hfind, if_neg hother]
  intro admitting hrely fault hadmits answer after hexec
  have hleaves := (rely_some hpeer).mp hrely
  have hrow : admitting.peers.find id = some _ := hleaves.row.trans ((hfind id).trans (if_pos rfl))
  have hon : admitting.enabled = true := hleaves.enabled.trans hbefore.2
  obtain ⟨rfl, rfl⟩ := exec_addPeer hadmits hexec
  refine ⟨(guarantee_some hpeer).mpr (worksOn_admits hrow), ?_⟩
  change Program.Fulfils exec _ (call (.setManaged deviceId) >>= _) _
  refine stable_rested.fulfils
    (.bind (quiet_call rfl) fun _ => .bind (quiet_call rfl) fun _ => trivial) ?_
  have hadmitted : Server.Settled { admitting with
      admitted := insert (publicOf key) admitting.admitted } id ↔ _ :=
    Server.settled_iff hrow
  rw [Request.rested_some hpeer, hadmitted]
  simp [hon]

end PeerCalls

/-! ## Calls on the whole server -/

section ServerCalls

variable {request : Request} {server : Server}

/-- The admitted keys are those of the enabled rows. -/
def Server.Loaded (server : Server) : Prop := ∀ key, key ∈ server.admitted ↔ server.Granted key

theorem Server.Loaded.exact (hloaded : server.Loaded)
    (hon : server.enabled = true) (key : PublicKey) : server.Exact key := by
  rw [Server.Exact, hloaded key]
  simp [hon]

/-- The loop of `bring_up_server`. -/
theorem fulfils_admitAll (hpeer : request.peer = none) (rows : List InboundWgPeerRow) :
    Program.Fulfils exec (request.contractTo fun result after =>
        result = .ok () ∧ after.peers = server.peers ∧
          after.enabled = server.enabled ∧ ∀ key, key ∈ after.admitted ↔
            key ∈ server.admitted ∨ key ∈ rows.map InboundWgPeerRow.publicKey)
      (rows.forM fun row => do
        let _ ← send (.addPeer row.publicKey row.allowedIp)
        pure ()) server := by
  induction rows generalizing server with
  | nil => exact ⟨rfl, rfl, rfl, by simp⟩
  | cons row rows ih =>
    intro before hrely fault hadmits answer after hexec
    obtain rfl := (rely_none hpeer).mp hrely
    obtain ⟨rfl, rfl⟩ := exec_addPeer hadmits hexec
    refine ⟨guarantee_none hpeer, ih.mono ?_⟩
    rintro result after ⟨hresult, hpeers, henabled, hadmitted⟩
    refine ⟨hresult, hpeers, henabled, fun key => ?_⟩
    rw [hadmitted, Finset.mem_insert, List.map_cons, List.mem_cons]
    tauto

section Alone

variable {Result : Type} {op : Op} {value : Value op} {left : Server}
  {post : Except AppError Result → Server → Prop}

theorem fulfils_send_alone {next : Answer op → Action Result} (hpeer : request.peer = none)
    (hop : op.onInterface = true ∨ op.critical = true)
    (hperform : perform op server = (.ok value, left))
    (hnext : (next (.ok value)).Fulfils exec (request.contractTo post) left) :
    (send op >>= next).Fulfils exec (request.contractTo post) server := by
  intro before hrely fault hadmits answer after hexec
  obtain rfl := (rely_none hpeer).mp hrely
  cases hperform.symm.trans (exec_sure hop hadmits hexec)
  exact ⟨guarantee_none hpeer, hnext⟩

theorem fulfils_call_alone {next : Value op → Action Result} (hpeer : request.peer = none)
    (hop : op.onInterface = true ∨ op.critical = true)
    (hperform : perform op server = (.ok value, left))
    (hnext : (next value).Fulfils exec (request.contractTo post) left) :
    (call op >>= next).Fulfils exec (request.contractTo post) server := by
  apply fulfils_send_alone hpeer hop hperform
  exact hnext

end Alone

/-- With nothing running beside it, `bring_up_server` admits the enabled
peers. -/
theorem fulfils_bringUpServer (hpeer : request.peer = none) (key : PrivateKey) (port : ℕ) :
    (bringUpServer key port).Fulfils exec (request.contractTo fun result after =>
      result = .ok () ∧ after.enabled = server.enabled ∧ after.Loaded) server := by
  refine fulfils_call_alone hpeer (.inl rfl) rfl ?_
  refine fulfils_call_alone hpeer (.inr rfl) rfl ?_
  refine (fulfils_admitAll hpeer _).mono ?_
  rintro result after ⟨hresult, hpeers, henabled, hadmitted⟩
  refine ⟨hresult, henabled, fun key => ?_⟩
  rw [hadmitted key]
  simp only [Server.Granted, hpeers, Finset.notMem_empty, false_or, List.mem_map, List.mem_filter]
  exact exists_congr fun row => by tauto

theorem fulfils_setConfig (publicOf : PrivateKey → PublicKey)
    (caller : AuthContext) (enabled : Bool) (port : ℕ)
    (generated : PrivateKey) (hpeer : request.peer = none) (hrested : request.Rested server) :
    request.Rests (setConfig publicOf caller enabled port generated) server := by
  refine stable_rested.bind trivial hrested fun _ checked hchecked => ?_
  cases enabled with
  | true =>
    refine stable_rested.bind quiet_requireEntitled hchecked fun _ entitled hentitled => ?_
    refine stable_rested.bind (quiet_ensureServerKeypair publicOf generated) hentitled
      fun keys keyed hkeyed => ?_
    refine Program.Fulfils.bind _ (fulfils_bringUpServer hpeer keys.1 port) ?_
      fun _ _ h => by cases h.1
    rintro - loaded ⟨-, -, hloaded⟩
    refine fulfils_call_alone hpeer (.inr rfl) rfl ?_
    refine fulfils_call_alone hpeer (.inr rfl) rfl ?_
    refine fulfils_call_alone hpeer (.inr rfl) rfl ?_
    refine stable_rested.fulfils (.bind (quiet_call rfl) fun _ => trivial) ?_
    rw [Request.rested_none hpeer]
    exact Server.Loaded.exact hloaded rfl
  | false =>
    refine stable_rested.bind (quiet_call rfl) hchecked fun _ unmasked hunmasked => ?_
    refine stable_rested.bind (quiet_call rfl) hunmasked fun _ refusing _ => ?_
    refine fulfils_send_alone hpeer (.inl rfl) rfl ?_
    refine fulfils_call_alone hpeer (.inr rfl) rfl ?_
    refine stable_rested.fulfils (.bind (quiet_call rfl) fun _ => trivial) ?_
    rw [Request.rested_none hpeer]
    simp [Server.Exact]

theorem fulfils_reconcile (publicOf : PrivateKey → PublicKey)
    (generated : PrivateKey) (hpeer : request.peer = none) (hrested : request.Rested server) :
    request.Rests (reconcile publicOf generated) server := by
  refine stable_rested.bind_read Server.enabled (by simp) (fun _ => rfl) hrested
    fun asked hasked => ?_
  split
  · exact hasked
  rename_i hon
  have hasked : request.Rested asked ∧ asked.enabled = true := ⟨hasked, by simpa using hon⟩
  refine stable_up.bind (quiet_call rfl) hasked fun entitled judged hjudged => ?_
  split
  · refine fulfils_call_alone hpeer (.inr rfl) rfl ?_
    refine fulfils_send_alone hpeer (.inl rfl) rfl ?_
    refine stable_rested.fulfils (.bind (quiet_send rfl) fun _ =>
      .bind (quiet_send rfl) fun _ => trivial) ?_
    rw [Request.rested_none hpeer]
    simp [Server.Exact]
  · refine stable_up.bind (quiet_call rfl) hjudged fun port ported hported => ?_
    refine stable_up.bind (quiet_ensureServerKeypair publicOf generated) hported
      fun keys keyed hkeyed => ?_
    refine Program.Fulfils.bind _ (fulfils_bringUpServer hpeer keys.1 port) ?_
      fun _ _ h => by cases h.1
    rintro - loaded ⟨-, henabled, hloaded⟩
    refine stable_rested.fulfils
      (.bind (quiet_call rfl) fun _ => .bind (quiet_call rfl) fun _ => trivial) ?_
    rw [Request.rested_none hpeer]
    exact hloaded.exact (henabled.trans hkeyed.2)

end ServerCalls

end Wardnet.Inbound
