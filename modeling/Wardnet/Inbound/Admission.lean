import Wardnet.Core.Sequential
import Wardnet.Inbound.Calls

/-!
# Who is admitted

Calls on different peers may interleave freely; bringing the server up or down
has to run alone.  Otherwise a key that is revoked between the read of the rows
and the end of the loop is admitted again.
-/

namespace Wardnet.Inbound

open List Pool Transition
open Program (alone_bind alone_perform alone_pure)

/-! ## Runs -/

variable (publicOf : PrivateKey → PublicKey)

theorem Request.fulfils_program (request : Request) {server : Server}
    (hrested : request.Rested server) :
    (request.program publicOf).Fulfils exec request.contract server := by
  cases request with
  | setConfig caller enabled port generated =>
    exact fulfils_return (fulfils_setConfig publicOf caller enabled port generated rfl hrested)
  | addPeer caller deviceId endpoint id key now =>
    exact fulfils_return (fulfils_addPeer publicOf caller deviceId endpoint key now rfl hrested)
  | removePeer caller id => exact fulfils_return (fulfils_removePeer caller rfl hrested)
  | setPeerEnabled caller id enabled =>
    exact fulfils_return (fulfils_setPeerEnabled caller enabled rfl hrested)
  | reconcile generated => exact fulfils_return (fulfils_reconcile publicOf generated rfl hrested)

/-- Whether a call is about to take an operation whose failure leaves it half
done. -/
def Service.critical (service : Service) (call : ℕ) : Bool :=
  match service.calls.get call with
  | some (_, .call op _) => op.critical
  | _ => false

/-- A call comes in only beside calls on other peers, and none of the
operations whose failure leaves a call half done fails. -/
def Service.Separate (service : Service) : Label → Prop
  | .start _ request => ∀ other ∈ service.requests, request.Compatible other
  | .step call fault => fault = true → service.critical call = false

instance (service : Service) (label : Label) : Decidable (service.Separate label) := by
  cases label <;> delta Service.Separate <;> infer_instance

theorem rely_refl (request : Request) (server : Server) : request.contract.rely server server := by
  cases hpeer : request.peer with
  | none => exact (rely_none hpeer).mpr rfl
  | some id => exact (rely_some hpeer).mpr ⟨rfl, rfl, fun _ _ => Iff.rfl⟩

theorem rely_trans (request : Request) (first second third : Server)
    (hfirst : request.contract.rely first second) (hsecond : request.contract.rely second third) :
    request.contract.rely first third := by
  cases hpeer : request.peer with
  | none =>
    rw [rely_none hpeer] at hfirst hsecond ⊢
    exact hsecond.trans hfirst
  | some id =>
    rw [rely_some hpeer] at hfirst hsecond ⊢
    refine ⟨hsecond.enabled.trans hfirst.enabled, hsecond.row.trans hfirst.row, fun row hrow => ?_⟩
    rw [hsecond.admitted row (hfirst.row ▸ hrow)]
    exact hfirst.admitted row hrow

variable {after before : Server}

/-- Work on one peer leaves another one alone. -/
theorem WorksOn.leaves {id other : Uuid} (hworks : WorksOn id before after) (hne : other ≠ id) :
    Leaves other before after where
  enabled := hworks.enabled
  row := hworks.rows other hne
  admitted row hrow := by
    have hbefore : before.Holds other row.publicKey := ⟨row, hrow, rfl⟩
    have hafter : after.Holds other row.publicKey := ⟨row, (hworks.rows other hne).trans hrow, rfl⟩
    exact hworks.admitted _ (fun hholds => hne (Server.holds_unique hbefore hholds))
      (fun hholds => hne (Server.holds_unique hafter hholds))

variable {service : Service} {request : Request}

theorem Request.Compatible.rely {other : Request} (hcompatible : request.Compatible other)
    (hguarantee : request.contract.guarantee before after) : other.contract.rely before after := by
  obtain ⟨hrequest, hother, hne⟩ := hcompatible
  obtain ⟨id, hid⟩ := Option.ne_none_iff_exists'.mp hrequest
  obtain ⟨otherId, hotherId⟩ := Option.ne_none_iff_exists'.mp hother
  rw [guarantee_some hid] at hguarantee
  rw [rely_some hotherId]
  refine hguarantee.leaves fun heq => hne ?_
  rw [hid, hotherId, heq]

/-- A key that nobody works on before and after is as admitted as before. -/
theorem WorksOn.exact {id : Uuid} {key : PublicKey} (hworks : WorksOn id before after)
    (hbefore : ¬ before.Holds id key) (hafter : ¬ after.Holds id key) (hexact : before.Exact key) :
    after.Exact key := by
  have hgranted : after.Granted key ↔ before.Granted key := by
    rw [Server.granted_iff, Server.granted_iff]
    apply exists_congr
    intro wanted
    by_cases hwanted : wanted = id
    · subst hwanted
      constructor
      · rintro ⟨row, hrow, hkey, -⟩
        exact absurd ⟨row, hrow, hkey⟩ hafter
      · rintro ⟨row, hrow, hkey, -⟩
        exact absurd ⟨row, hrow, hkey⟩ hbefore
    · rw [hworks.rows wanted hwanted]
  unfold Server.Exact
  rw [hworks.admitted key hbefore hafter, hworks.enabled, hgranted]
  exact hexact

/-- Every key that no call in progress works on is admitted as it should be. -/
structure Service.Safe (service : Service) : Prop where
  sound : service.Sound exec Request.contract
  compatible : service.Compatible Request.Compatible
  exact : ∀ key,
    (∀ request ∈ service.requests, ¬ request.Owns service.store key) → service.store.Exact key

/-- A call that comes in beside compatible ones finds its keys at rest. -/
theorem Service.Safe.rested (hsafe : service.Safe)
    (hcompatible : ∀ other ∈ service.requests, request.Compatible other) :
    request.Rested service.store := by
  intro key howns
  refine hsafe.exact key fun other hother hotherOwns => ?_
  obtain ⟨hrequest, hpeer, hne⟩ := hcompatible other hother
  obtain ⟨id, hid⟩ := Option.ne_none_iff_exists'.mp hrequest
  obtain ⟨otherId, hotherId⟩ := Option.ne_none_iff_exists'.mp hpeer
  refine hne ?_
  rw [hid, hotherId, Server.holds_unique (howns id hid) (hotherOwns otherId hotherId)]

theorem Service.Safe.settle {call : ℕ} {started left : Action Response} (hsafe : service.Safe)
    (hcall : service.calls.get call = some (request, started))
    (hguarantee : request.contract.guarantee service.store after)
    (hleft : left.Fulfils exec request.contract after) :
    Service.Safe (service.settle call request after left) where
  sound := hsafe.sound.settle rely_trans hleft fun other active hne hother =>
    (hsafe.compatible call other _ _ _ _ hne.symm hcall hother).rely hguarantee
  compatible := hsafe.compatible.settle hcall
  exact key hkey := by
    rw [settle_store] at hkey ⊢
    by_cases howns : request.Owns after key
    · cases left with
      | done result => exact hleft key howns
      | call op next =>
        refine absurd howns (hkey request ?_)
        exact Pool.mem_requests.mpr ⟨call, .call op next, by simp [Pool.settle]⟩
    obtain ⟨id, hid, hafter⟩ : ∃ id, request.peer = some id ∧ ¬ after.Holds id key := by
      simpa [Request.Owns] using howns
    have hworks : WorksOn id service.store after := (guarantee_some hid).mp hguarantee
    by_cases hbefore : service.store.Holds id key
    · exact hworks.givenUp key hbefore hafter
    refine hworks.exact hbefore hafter (hsafe.exact key ?_)
    intro other hother hotherOwns
    obtain ⟨otherCall, program, hotherCall⟩ := mem_requests.mp hother
    by_cases hsameCall : otherCall = call
    · subst hsameCall
      rw [hcall] at hotherCall
      obtain rfl := (Prod.mk.inj (Option.some.inj hotherCall)).1
      exact hbefore (hotherOwns id hid)
    · have hcompatible := hsafe.compatible otherCall call _ _ _ _ hsameCall hotherCall hcall
      refine hkey other (mem_requests.mpr ⟨otherCall, program, ?_⟩) ?_
      · rwa [settle_calls_of_ne hsameCall]
      · intro otherId hotherId
        have hne : otherId ≠ id := by
          rintro rfl
          exact hcompatible.2.2 (hotherId.trans hid.symm)
        obtain ⟨row, hrow, hrowKey⟩ := hotherOwns otherId hotherId
        exact ⟨row, (hworks.rows otherId hne).trans hrow, hrowKey⟩

theorem Service.Safe.next {after : Service} {label : Label}
    (hsafe : service.Safe) (hseparate : service.Separate label)
    (hnext : Inbound.next publicOf service label = some after) : after.Safe := by
  cases label with
  | start call request =>
    obtain ⟨hfresh, rfl⟩ := start_eq_some.mp hnext
    exact {
      sound := hsafe.sound.settle rely_trans
        (request.fulfils_program publicOf (hsafe.rested hseparate))
        fun _ active _ _ => rely_refl active.1 _
      compatible := hsafe.compatible.start fun other hother =>
        ⟨hseparate other hother, (hseparate other hother).symm⟩
      exact := by
        intro key hkey
        rw [settle_store] at hkey ⊢
        refine hsafe.exact key fun other hother => hkey other ?_
        obtain ⟨id, program, hcall⟩ := mem_requests.mp hother
        have hne : id ≠ call := by
          rintro rfl
          rw [hfresh] at hcall
          cases hcall
        refine mem_requests.mpr ⟨id, program, ?_⟩
        rwa [settle_calls_of_ne hne] }
  | step call fault =>
    have hadmits : ∀ request op next, service.calls.get call = some (request, .call op next) →
          request.contract.admits fault op service.store := by
      intro request op next hcall hfault
      simpa [Service.critical, hcall] using hseparate hfault
    obtain ⟨request, op, next, answer, store, hcall, -, hguarantee, hleft,
      rfl⟩ := hsafe.sound.step_cases rely_refl hadmits hnext
    exact hsafe.settle hcall hguarantee hleft

/-! ## The start of the daemon -/

theorem alone_bringUpServer (server : Server) (key : PrivateKey) (port : ℕ) :
    ∃ after, (bringUpServer key port).alone perform server = (.ok (), after) ∧
      after.enabled = server.enabled ∧ after.Loaded := by
  have hfulfils : (bringUpServer key port).Fulfils exec ((Request.reconcile 0).contractTo
      fun result after => result = .ok () ∧ after.enabled = server.enabled ∧ after.Loaded) server :=
    fulfils_bringUpServer rfl key port
  have hexec : ∀ op server, exec false op server = some (perform op server) := fun _ _ => rfl
  obtain ⟨hresult, hafter⟩ :=
    hfulfils.alone (fun _ => rfl) (fun _ _ => by simp [Request.contractTo]) hexec
  exact ⟨_, Prod.ext hresult rfl, hafter⟩

/-- Once `reconcile` has run undisturbed, the right keys are admitted whatever
was admitted before, if a server that is off had no interface. -/
theorem exact_reconcile (generated : PrivateKey) {server : Server}
    (hoff : server.enabled = false → server.admitted = ∅) (key : PublicKey) :
    ((reconcile publicOf generated).alone perform server).2.Exact key := by
  obtain ⟨keys, keyed, hkeyed, hsame⟩ : ∃ keys keyed,
      (ensureServerKeypair publicOf generated).alone perform server = (.ok keys, keyed) ∧
        keyed.enabled = server.enabled := by
    simp only [ensureServerKeypair, alone_bind, call, send, alone_perform, perform, alone_pure]
    cases server.key <;> exact ⟨_, _, rfl, rfl⟩
  obtain ⟨up, hup, hupEnabled, hloaded⟩ := alone_bringUpServer keyed keys.1 server.listenPort
  simp only [reconcile, alone_bind, call, send, alone_perform, perform, alone_pure]
  cases henabled : server.enabled with
  | false => simp [Server.Exact, hoff henabled, henabled]
  | true =>
    simp only [not_true_eq_false, if_false, alone_bind, alone_perform, perform, alone_pure, hkeyed,
      hup]
    exact hloaded.exact (hupEnabled.trans (hsame.trans henabled)) key

/-- The right keys are admitted, or the daemon has just started and reconciled
an interface in whatever state it was, unless the server is off. -/
def Server.Started (server : Server) : Prop :=
  (∀ key, server.Exact key) ∨ ∃ before generated, (before.enabled = false → before.admitted = ∅) ∧
    server = ((reconcile publicOf generated).alone perform before).2

/-- As long as calls on one peer do not overlap and bringing the server up or
down runs alone, the interface admits, whenever no call is in progress, the
keys of the enabled peers of an enabled server and nobody else. -/
theorem admitted_iff_granted {server : Server} {labels : List Label}
    {final : Service} (hstart : server.Started publicOf)
    (hseparate : Meets (next publicOf) Service.Separate (.idle server) labels)
    (hrun : run (next publicOf) (.idle server) labels = some final)
    (hquiet : final.requests = []) (key : PublicKey) :
    key ∈ final.store.admitted ↔ final.store.enabled = true ∧ ∃ row ∈ final.store.peers.rows,
        row.publicKey = key ∧ row.enabled = true := by
  have hexact : ∀ key, server.Exact key := by
    rcases hstart with hexact | ⟨before, generated, hoff, rfl⟩
    · exact hexact
    · exact exact_reconcile publicOf generated hoff
  have hidle : Service.Safe (.idle server) := by
    refine ⟨Pool.Sound.idle server, ?_, fun key _ => hexact key⟩
    intro _ _ _ _ _ _ _ hcall
    simp [idle] at hcall
  have hfinal : final.Safe := run_invariant_of_meets
    (fun _ _ _ hsafe hcond hnext => hsafe.next publicOf hcond hnext)
    hidle hseparate hrun
  exact hfinal.exact key (by simp [hquiet])

/-! ## A revoked key that comes back -/

/-- A server that is off, with one named device. -/
def offServer : Server where
  peers := ⟨.empty, nodup_nil⟩
  devices := ⟨[⟨5, some "phone".toList, .lan, false⟩], by decide⟩
  enabled := false
  listenPort := 51820
  serverPubkey := none
  key := none
  admitted := ∅
  masquerade := false
  acceptPort := none

def adminCaller : AuthContext := .user 1 .admin

/-- An enabled server with one granted peer, whose key is admitted. -/
def servingOne : Server :=
  { offServer with
    peers := ⟨⟨[⟨1, 7, hostAddress 2, "phone".toList, true, 0, none⟩],
      nodup_singleton _⟩, nodup_singleton _⟩
    enabled := true
    serverPubkey := some 3
    key := some 3
    admitted := {7} }

/-- The daemon starts over an interface that admits another key. -/
def restarted : Server :=
  ((reconcile id 3).alone perform { servingOne with admitted := {8} }).2

def grantSecond : List Label :=
  .start 1 (.addPeer adminCaller 5 none 9 11 0) :: replicate 9 (.step 1 false)

theorem admitted_iff_granted_restarted :
    ∃ final, run (next id) (.idle restarted) grantSecond = some final ∧
      final.requests = [] ∧ final.store.admitted = {7, 11} ∧ ∀ key, key ∈ final.store.admitted ↔
        final.store.enabled = true ∧ ∃ row ∈ final.store.peers.rows,
          row.publicKey = key ∧ row.enabled = true :=
  ⟨_, rfl, by decide +kernel, by decide +kernel,
    @admitted_iff_granted id restarted grantSecond _ (.inr ⟨_, 3, by decide, rfl⟩)
      (by decide +kernel) rfl (by decide +kernel)⟩

/-- The peer is removed after a bring-up has read the rows and before it has
admitted them: the call has returned, no row has the key, and it is admitted
when both calls are over. -/
theorem removed_peer_admitted_again : (∀ key, servingOne.Exact key) ∧
      ∃ final ∈ run (next id) (.idle servingOne) (.start 0 (.setConfig adminCaller true 51820 3) ::
            replicate 5 (.step 0 false) ++ .start 1 (.removePeer adminCaller 1) ::
            replicate 3 (.step 1 false) ++ replicate 5 (.step 0 false)),
        final.requests = [] ∧ final.store.peers.rows = [] ∧ 7 ∈ final.store.admitted := by
  constructor
  · intro key
    simpa [Server.Exact, Server.Granted, servingOne] using eq_comm
  · decide +kernel

end Wardnet.Inbound
