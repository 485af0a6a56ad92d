import Wardnet.Core.HashMap
import Wardnet.Core.Transition
import Wardnet.Dhcp.Service

/-!
# Concurrent lease allocation

`assign_lease` and `renew_lease` are sequences of statements over the lease
and reservation tables.  Calls for different clients run at the same time and
only the choice of an address and the insertion of its lease are serialised,
by `alloc_lock`.  Each statement is one step here; the admin operations and
the cleanup are single steps that may fall between any two of them.
-/

namespace Wardnet.Dhcp

open List Net Transition

/-- Where the address of a new lease comes from. -/
inductive Source
  | reservation
  | pool
  deriving DecidableEq

/-- The next thing a call does.  `renewing` tells a `renew_lease` call from an
`assign_lease` call until it falls through to a fresh assignment. -/
inductive Phase
  | resolving (renewing : Bool)
  | finding (renewing : Bool) (scope : DhcpScope)
  | judging (renewing : Bool) (scope : DhcpScope) (lease : DhcpLease)
  | reusing (renewing : Bool) (scope : DhcpScope) (lease : DhcpLease)
  | expiring (renewing : Bool) (scope : DhcpScope) (lease : DhcpLease)
  | reserving (scope : DhcpScope)
  | waiting (scope : DhcpScope) (reservation : Option DhcpReservation)
  | locked (scope : DhcpScope) (reservation : Option DhcpReservation)
  | scanning (scope : DhcpScope) (leased : List Ipv4Addr)
  | chosen (scope : DhcpScope) (source : Source) (ip : Ipv4Addr)
  deriving DecidableEq

/-- The reserved address that the call is about to lease. -/
def Phase.reservedIp? : Phase → Option Ipv4Addr
  | .chosen _ .reservation ip => some ip
  | _ => none

/-- The call is inside the section that `alloc_lock` guards. -/
def Phase.holdsLock : Phase → Bool
  | .locked .. | .scanning .. | .chosen .. => true
  | _ => false

structure Call where
  mac : Text
  hostname : Option Text
  phase : Phase
  deriving DecidableEq

structure State where
  db : Database
  calls : HashMap ℕ Call
  allocLock : Option ℕ
  nextCall : ℕ
  deriving DecidableEq

/-- Any database with its lease table emptied, and no call in progress. -/
def State.new (db : Database) : State where
  db := { db with leases := [] }
  calls := .empty
  allocLock := none
  nextCall := 0

inductive Label
  | call (mac : Text) (hostname : Option Text) (renewing : Bool)
  | resolveScope (id : ℕ)
  | findLease (id : ℕ)
  | judgeLease (id : ℕ)
  | expireLease (id : ℕ)
  | reuseLease (id now : ℕ)
  | findReservation (id : ℕ)
  | lock (id : ℕ)
  | listLeases (id : ℕ)
  | chooseIp (id : ℕ)
  | insertLease (id now : ℕ)
  | fail (id : ℕ)
  | releaseLease (mac : Text)
  | revokeLease (id : ℕ)
  | cleanupExpired (now : ℕ)
  | createReservation (mac : Text) (ip : Ipv4Addr)
  | deleteReservation (id : ℕ)
  | updateConfig (request : UpdateConfigRequest)

namespace State

def setPhase (state : State) (id : ℕ) (call : Call) (phase : Phase) : State :=
  { state with calls := state.calls.insert id { call with phase := phase } }

/-- The call returns; a guard it holds is dropped. -/
def finish (state : State) (id : ℕ) : State :=
  { state with
    calls := state.calls.remove id
    allocLock := if state.allocLock = some id then none else state.allocLock }

/-- A rejected request changes nothing. -/
def commit (state : State) (result : Except AppError Database) : State :=
  match result with
  | .ok db => { state with db := db }
  | .error _ => state

end State

/-- One statement of a call in progress. -/
def stepCall (state : State) (id : ℕ) (call : Call) : Label → Option State
  | .resolveScope _ =>
    match call.phase with
    | .resolving renewing =>
      some (state.setPhase id call (.finding renewing (resolveScope state.db call.mac)))
    | _ => none
  | .findLease _ =>
    match call.phase with
    | .finding renewing scope =>
      match findActiveLeaseByMac state.db call.mac with
      | some lease => some (state.setPhase id call (.judging renewing scope lease))
      | none =>
        some (state.setPhase id call (if renewing then .resolving false else .reserving scope))
    | _ => none
  | .judgeLease _ =>
    match call.phase with
    | .judging renewing scope lease =>
      let reservation := findReservationByMac state.db call.mac
      some (state.setPhase id call
        (if stillValid lease reservation scope.poolStart scope.poolEnd then
          .reusing renewing scope lease
        else .expiring renewing scope lease))
    | _ => none
  | .expireLease _ =>
    match call.phase with
    | .expiring renewing scope lease =>
      some (({ state with
        db := updateLeaseStatus state.db lease.id .expired }).setPhase id
          call (if renewing then .resolving false else .reserving scope))
    | _ => none
  | .reuseLease _ now =>
    match call.phase with
    | .reusing renewing scope lease =>
      some (({ state with
        db := reuseLease state.db lease call.hostname
          (if renewing then some (now + scope.leaseDurationSecs)
          else none) }).finish id)
    | _ => none
  | .findReservation _ =>
    match call.phase with
    | .reserving scope =>
      some (state.setPhase id call (.waiting scope
        ((findReservationByMac state.db call.mac).filter (reservationCompatible scope))))
    | _ => none
  | .lock _ =>
    match call.phase, state.allocLock with
    | .waiting scope reservation, none =>
      some (({ state with allocLock := some id }).setPhase id call (.locked scope reservation))
    | _, _ => none
  | .listLeases _ =>
    match call.phase with
    | .locked scope (some reservation) =>
      some (state.setPhase id call (.chosen scope .reservation reservation.ip))
    | .locked scope none =>
      some (state.setPhase id call (.scanning scope ((listActiveLeases state.db).map DhcpLease.ip)))
    | _ => none
  | .chooseIp _ =>
    match call.phase with
    | .scanning scope leased =>
      match firstFree leased (state.db.reservations.map DhcpReservation.ip)
          scope.poolStart scope.poolEnd with
      | some ip => some (state.setPhase id call (.chosen scope .pool ip))
      | none => some (state.finish id)
    | _ => none
  | .insertLease _ now =>
    match call.phase with
    | .chosen scope _ ip =>
      some (({ state with
        db := insertLease state.db call.mac ip call.hostname now
          (now + scope.leaseDurationSecs) }).finish id)
    | _ => none
  | .fail _ => some (state.finish id)
  | _ => none

/-- One step of a call, of an admin operation, or of the cleanup. -/
def next (state : State) (label : Label) : Option State :=
  match label with
  | .call mac hostname renewing =>
    some { state with
      calls := state.calls.insert state.nextCall
        { mac := mac
          hostname := normalisedHostname hostname
          phase := .resolving renewing }
      nextCall := state.nextCall + 1 }
  | .releaseLease mac => some (state.commit (.ok (releaseLease state.db mac)))
  | .revokeLease id => some (state.commit (revokeLease state.db id))
  | .cleanupExpired now => some (state.commit (.ok (expireStaleLeases state.db now)))
  | .createReservation mac ip => some (state.commit (createReservation state.db mac ip))
  | .deleteReservation id => some (state.commit (deleteReservation state.db id))
  | .updateConfig request => some (state.commit (updateConfig state.db request))
  | .resolveScope id | .findLease id | .judgeLease id | .expireLease id
  | .reuseLease id _ | .findReservation id | .lock id | .listLeases id
  | .chooseIp id | .insertLease id _ | .fail id =>
    (state.calls.get id).bind fun call => stepCall state id call label

/-! ## Statements that add no active lease -/

/-- No address is leased twice: two active leases of different clients have
different addresses. -/
def NoDoubleLease (db : Database) : Prop :=
  ∀ left ∈ db.leases, ∀ right ∈ db.leases, left.IsActive → right.IsActive →
    left.mac ≠ right.mac → left.ip ≠ right.ip
  deriving Decidable

/-- Every active lease of `after` was an active lease of `before`, with the
same client and address. -/
def Shrinks (before after : Database) : Prop :=
  ∀ lease ∈ after.leases, lease.IsActive →
    ∃ old ∈ before.leases, old.IsActive ∧ old.mac = lease.mac ∧ old.ip = lease.ip

variable {before after : Database}

theorem NoDoubleLease.shrink (hunique : NoDoubleLease before)
    (hshrinks : Shrinks before after) : NoDoubleLease after := by
  intro left hleft right hright hleftActive hrightActive hmac
  obtain ⟨oldLeft, holdLeft, holdLeftActive, hleftMac, hleftIp⟩ := hshrinks left hleft hleftActive
  obtain ⟨oldRight, holdRight, holdRightActive, hrightMac, hrightIp⟩ :=
    hshrinks right hright hrightActive
  rw [← hleftIp, ← hrightIp]
  exact hunique oldLeft holdLeft oldRight holdRight holdLeftActive
    holdRightActive (by rwa [hleftMac, hrightMac])

/-- A change of a lease that keeps its key, client and address and does not
revive it. -/
def Retains (change : DhcpLease → DhcpLease) : Prop :=
  ∀ lease, (change lease).id = lease.id ∧ (change lease).mac = lease.mac ∧
    (change lease).ip = lease.ip ∧ ((change lease).IsActive → lease.IsActive)

/-- The rows of `after` are those of `before`, each changed in this way. -/
def Rewrites (before after : Database) : Prop :=
  after.nextLease = before.nextLease ∧
    ∃ change, Retains change ∧ after.leases = before.leases.map change

theorem Rewrites.of_eq (hleases : after.leases = before.leases)
    (hnext : after.nextLease = before.nextLease) : Rewrites before after :=
  ⟨hnext, id, fun _ => ⟨rfl, rfl, rfl, id⟩, by rw [hleases, map_id]⟩

theorem Rewrites.trans {first second third : Database}
    (hleft : Rewrites first second) (hright : Rewrites second third) : Rewrites first third := by
  obtain ⟨hnext, change, hchange, hleases⟩ := hleft
  obtain ⟨hnext', change', hchange', hleases'⟩ := hright
  refine ⟨hnext'.trans hnext, change' ∘ change, fun lease => ?_, ?_⟩
  · obtain ⟨hid, hmac, hip, hactive⟩ := hchange lease
    obtain ⟨hid', hmac', hip', hactive'⟩ := hchange' (change lease)
    exact ⟨hid'.trans hid, hmac'.trans hmac, hip'.trans hip, hactive ∘ hactive'⟩
  · rw [hleases', hleases, map_map]

theorem Rewrites.shrinks (hrewrites : Rewrites before after) : Shrinks before after := by
  obtain ⟨-, change, hchange, hleases⟩ := hrewrites
  intro lease hmem hactive
  rw [hleases, mem_map] at hmem
  obtain ⟨old, hold, rfl⟩ := hmem
  obtain ⟨-, hmac, hip, hrevives⟩ := hchange old
  exact ⟨old, hold, hrevives hactive, hmac.symm, hip.symm⟩

variable (db : Database) {change : DhcpLease → DhcpLease}

theorem rewrites_updateLeaseStatus (id : ℕ) {status : LeaseStatus} (hstatus : status ≠ .active) :
    Rewrites db (updateLeaseStatus db id status) := by
  refine ⟨rfl, _, fun lease => ?_, rfl⟩
  split
  · exact ⟨rfl, rfl, rfl, fun hactive => absurd hactive hstatus⟩
  · exact ⟨rfl, rfl, rfl, fun hactive => hactive⟩

theorem rewrites_expireStaleLeases (now : ℕ) : Rewrites db (expireStaleLeases db now) := by
  refine ⟨rfl, _, fun lease => ?_, rfl⟩
  split
  · refine ⟨rfl, rfl, rfl, fun hactive => ?_⟩
    cases hactive
  · exact ⟨rfl, rfl, rfl, id⟩

/-- A change of the other columns of a lease. -/
def Touches (change : DhcpLease → DhcpLease) : Prop :=
  ∀ lease, (change lease).id = lease.id ∧ (change lease).mac = lease.mac ∧
    (change lease).ip = lease.ip ∧ (change lease).status = lease.status

theorem reuseLease_eq (lease : DhcpLease) (hostname : Option Text) (newEnd : Option ℕ) :
    ∃ change, Touches change ∧
      reuseLease db lease hostname newEnd = { db with leases := db.leases.map change } := by
  have hend : ∃ change, Touches change ∧
      newEnd.elim db (renewLeaseRow db lease.id) = { db with leases := db.leases.map change } := by
    cases newEnd with
    | none => exact ⟨id, fun _ => ⟨rfl, rfl, rfl, rfl⟩, by simp⟩
    | some leaseEnd =>
      refine ⟨_, fun row => ?_, rfl⟩
      split <;> exact ⟨rfl, rfl, rfl, rfl⟩
  obtain ⟨change, hchange, heq⟩ := hend
  unfold reuseLease
  cases hostname with
  | none => exact ⟨change, hchange, heq⟩
  | some name =>
    simp only [heq]
    split
    · exact ⟨change, hchange, rfl⟩
    · refine ⟨_, fun row => ?_, by rw [updateLeaseHostname, updateLease, map_map]⟩
      dsimp only [Function.comp_apply]
      split <;> exact hchange row

theorem Touches.rewrites (hchange : Touches change) :
    Rewrites db { db with leases := db.leases.map change } := by
  refine ⟨rfl, change, fun row => ?_, rfl⟩
  obtain ⟨hid, hmac, hip, hstatus⟩ := hchange row
  exact ⟨hid, hmac, hip, fun hactive => hstatus.symm.trans hactive⟩

theorem rewrites_releaseLease (mac : Text) : Rewrites db (releaseLease db mac) := by
  unfold releaseLease
  split
  · exact rewrites_updateLeaseStatus db _ (by simp)
  · exact .of_eq rfl rfl

variable {db} {id : ℕ}

theorem rewrites_revokeLease (hrevoke : revokeLease db id = .ok after) : Rewrites db after := by
  unfold revokeLease at hrevoke
  split at hrevoke
  · cases hrevoke
  · split at hrevoke <;> cases hrevoke
    exact rewrites_updateLeaseStatus db id (by simp)

variable {ip : Ipv4Addr}

theorem rewrites_createReservation {mac : Text}
    (hcreate : createReservation db mac ip = .ok after) : Rewrites db after := by
  unfold createReservation at hcreate
  split at hcreate
  · cases hcreate
  · split at hcreate <;> cases hcreate
    exact .of_eq rfl rfl

theorem rewrites_deleteReservation (hdelete : deleteReservation db id = .ok after) :
    Rewrites db after := by
  unfold deleteReservation at hdelete
  split at hdelete <;> cases hdelete
  exact .of_eq rfl rfl

variable {request : UpdateConfigRequest}

/-- An accepted change stores the requested values and expires the leases that
the new pool strands; what is accepted depends on the request alone. -/
theorem updateConfig_eq_ok : updateConfig db request = .ok after ↔
    (checkPoolRange request.poolStart request.poolEnd = .ok () ∧
      ¬ (request.routerIp.any fun router => ¬ isPrivate router) = true) ∧
    after = revokeLeasesOutsidePool
      { db with
        config := { db.config with
          poolStart := request.poolStart
          poolEnd := request.poolEnd
          leaseDurationSecs := request.leaseDurationSecs
          routerIp := request.routerIp } } request.poolStart request.poolEnd := by
  unfold updateConfig
  cases checkPoolRange request.poolStart request.poolEnd with
  | error error => simp [bind, Except.bind]
  | ok _ =>
    simp only [bind, Except.bind, pure, Except.pure, true_and]
    split
    next hrouter => exact ⟨nofun, fun haccepts => absurd hrouter haccepts.1⟩
    next hrouter => exact ⟨fun hok => ⟨hrouter, (Except.ok.inj hok).symm⟩, fun hok => by rw [hok.2]⟩

theorem rewrites_updateConfig (hupdate : updateConfig db request = .ok after) :
    Rewrites db after := by
  rw [(updateConfig_eq_ok.mp hupdate).2]
  refine foldlRecOn _ _ (.of_eq rfl rfl) fun later hlater lease _ => ?_
  exact hlater.trans (rewrites_updateLeaseStatus later lease.id (by simp))

/-! ## The section guarded by the allocation lock -/

/-- No address is leased twice, and the one call that holds the lock has seen
every active lease, or has picked an address of the pool that none of them
has. -/
structure Allocating (state : State) : Prop where
  no_double : NoDoubleLease state.db
  lock_held : ∀ id call, state.calls.get id = some call →
    call.phase.holdsLock = true → state.allocLock = some id
  scanned : ∀ id call scope leased, state.calls.get id = some call →
    call.phase = .scanning scope leased →
    ∀ lease ∈ state.db.leases, lease.IsActive → lease.ip ∈ leased
  pool_free : ∀ id call scope ip, state.calls.get id = some call →
    call.phase = .chosen scope .pool ip →
    ∀ lease ∈ state.db.leases, lease.IsActive → lease.ip ≠ ip

/-- What the invariant asks of one call. -/
structure Settled (lock : Option ℕ) (leases : List DhcpLease) (id : ℕ) (phase : Phase) : Prop where
  lock : phase.holdsLock = true → lock = some id
  scanned : ∀ scope leased, phase = .scanning scope leased →
    ∀ lease ∈ leases, lease.IsActive → lease.ip ∈ leased
  pool : ∀ scope ip, phase = .chosen scope .pool ip →
    ∀ lease ∈ leases, lease.IsActive → lease.ip ≠ ip

variable {state : State} {phase : Phase} {call : Call}

theorem Allocating.settled (hstate : Allocating state) (hcall : state.calls.get id = some call) :
    Settled state.allocLock state.db.leases id call.phase where
  lock := hstate.lock_held id call hcall
  scanned scope leased := hstate.scanned id call scope leased hcall
  pool scope ip := hstate.pool_free id call scope ip hcall

theorem allocating_of_settled (hunique : NoDoubleLease state.db)
    (hsettled : ∀ id call, state.calls.get id = some call →
      Settled state.allocLock state.db.leases id call.phase) : Allocating state where
  no_double := hunique
  lock_held id call hcall := (hsettled id call hcall).lock
  scanned id call scope leased hcall := (hsettled id call hcall).scanned scope leased
  pool_free id call scope ip hcall := (hsettled id call hcall).pool scope ip

theorem settled_of_outside {lock : Option ℕ} {leases : List DhcpLease}
    (houtside : phase.holdsLock = false) : Settled lock leases id phase := by
  constructor
  · simp [houtside]
  · rintro scope leased rfl
    cases houtside
  · rintro scope ip rfl
    cases houtside

section

variable (hstate : Allocating state)
include hstate

theorem Allocating.rewrite {db : Database} (hrewrites : Rewrites state.db db) : Allocating
    { state with db := db } := by
  have hshrinks := hrewrites.shrinks
  refine allocating_of_settled (hstate.no_double.shrink hshrinks) fun id call hcall => ?_
  have hsettled := hstate.settled hcall
  refine ⟨hsettled.lock, ?_, ?_⟩
  · intro scope leased hphase lease hmem hactive
    obtain ⟨old, hold, holdActive, -, hip⟩ := hshrinks lease hmem hactive
    exact hip ▸ hsettled.scanned scope leased hphase old hold holdActive
  · intro scope ip hphase lease hmem hactive
    obtain ⟨old, hold, holdActive, -, hip⟩ := hshrinks lease hmem hactive
    exact hip ▸ hsettled.pool scope ip hphase old hold holdActive

theorem Allocating.commit {result : Except AppError Database}
    (hrewrites : ∀ db, result = .ok db → Rewrites state.db db) :
    Allocating (state.commit result) := by
  cases result with
  | error error => exact hstate
  | ok db => exact hstate.rewrite (hrewrites db rfl)

theorem Allocating.set_phase (id : ℕ) (call : Call)
    (hsettled : Settled state.allocLock state.db.leases id phase) :
    Allocating (state.setPhase id call phase) := by
  refine allocating_of_settled hstate.no_double fun other found hfound => ?_
  rcases HashMap.get_insert_eq_some.mp hfound with ⟨rfl, rfl⟩ | ⟨-, hfound⟩
  · exact hsettled
  · exact hstate.settled hfound

theorem Allocating.finish (id : ℕ) : Allocating (state.finish id) := by
  refine allocating_of_settled hstate.no_double fun other call hcall => ?_
  obtain ⟨hne, hbefore⟩ := HashMap.get_remove_eq_some.mp hcall
  have hsettled := hstate.settled hbefore
  refine { hsettled with lock := fun hholds => ?_ }
  simp [State.finish, hsettled.lock hholds, hne]

/-- The insertion that ends a guarded section, when no other client has an
active lease of the chosen address. -/
theorem Allocating.insert (hcall : state.calls.get id = some call)
    (hholds : call.phase.holdsLock = true)
    (hunleased : ∀ lease ∈ state.db.leases, lease.IsActive → lease.ip = ip →
      lease.mac = call.mac.toAsciiLowercase) (hostname : Option Text) (leaseStart leaseEnd : ℕ) :
    Allocating (({ state with
      db := insertLease state.db call.mac ip hostname leaseStart leaseEnd }).finish id) := by
  have hheld := hstate.lock_held id call hcall hholds
  refine allocating_of_settled ?_ fun other found hfound => settled_of_outside ?_
  · intro left hleft right hright hleftActive hrightActive hmac hip
    simp only [State.finish, insertLease, mem_append, mem_singleton] at hleft hright
    rcases hleft with hleft | rfl <;> rcases hright with hright | rfl
    · exact hstate.no_double left hleft right hright hleftActive hrightActive hmac hip
    · exact hmac (hunleased left hleft hleftActive hip)
    · exact hmac (hunleased right hright hrightActive hip.symm).symm
    · exact hmac rfl
  · obtain ⟨hne, hfound⟩ := HashMap.get_remove_eq_some.mp hfound
    by_contra hother
    have hlock := hstate.lock_held other found hfound (by simpa using hother)
    exact hne (Option.some.inj (hlock.symm.trans hheld))

end

/-- When a call leases a reserved address, no other client has an active lease
of it. -/
def ReservedAddressFree (state : State) : Label → Prop
  | .insertLease id _ =>
    ∀ call ∈ state.calls.get id, ∀ ip ∈ call.phase.reservedIp?,
      ∀ lease ∈ state.db.leases, lease.IsActive → lease.ip = ip →
        lease.mac = call.mac.toAsciiLowercase
  | _ => True

theorem allocating_stepCall {after : State} (hstate : Allocating state)
    (hcall : state.calls.get id = some call) {label : Label}
    (hlabel : ∀ other now, label = .insertLease other now → other = id)
    (hreserved : ReservedAddressFree state label)
    (hstep : stepCall state id call label = some after) : Allocating after := by
  revert hstep
  fun_cases stepCall state id call label <;> rintro ⟨⟩
  · exact hstate.set_phase id call (settled_of_outside rfl)
  · exact hstate.set_phase id call (settled_of_outside rfl)
  · refine hstate.set_phase id call (settled_of_outside ?_)
    split <;> rfl
  · refine hstate.set_phase id call (settled_of_outside ?_)
    split <;> rfl
  next lease _ =>
    have hrewrites : Rewrites state.db (updateLeaseStatus state.db lease.id .expired) :=
      rewrites_updateLeaseStatus state.db lease.id (by simp)
    refine (hstate.rewrite hrewrites).set_phase id call (settled_of_outside ?_)
    split <;> rfl
  · obtain ⟨change, hchange, heq⟩ := reuseLease_eq state.db _ _ _
    exact (hstate.rewrite (heq ▸ hchange.rewrites _)).finish id
  · exact hstate.set_phase id call (settled_of_outside rfl)
  next hfree _ =>
    have hlocked : Allocating { state with allocLock := some id } := by
      refine { hstate with lock_held := fun other found hfound hholds => ?_ }
      cases hfree.symm.trans (hstate.lock_held other found hfound hholds)
    apply hlocked.set_phase id call
    constructor <;> simp
  next scope reservation hphase =>
    refine hstate.set_phase id call ⟨fun _ => (hstate.settled hcall).lock ?_, by simp, by simp⟩
    simp [hphase, Phase.holdsLock]
  next scope hphase =>
    refine hstate.set_phase id call ⟨fun _ => (hstate.settled hcall).lock ?_, ?_, by simp⟩
    · simp [hphase, Phase.holdsLock]
    · rintro scope' leased ⟨⟩ lease hmem hactive
      exact mem_map_of_mem (by simp [listActiveLeases, hmem, hactive])
  next scope leased hphase ip hfree =>
    refine hstate.set_phase id call ⟨fun _ => (hstate.settled hcall).lock ?_, by simp, ?_⟩
    · simp [hphase, Phase.holdsLock]
    · rintro scope' ip' ⟨⟩ lease hmem hactive hip
      have hseen := (hstate.settled hcall).scanned scope leased hphase lease hmem hactive
      rw [hip] at hseen
      have hnot : ip ∉ leased ∧ ip ∉ state.db.reservations.map DhcpReservation.ip := by
        simpa using find?_some hfree
      exact hnot.1 hseen
  · exact hstate.finish id
  next other now scope source ip hphase =>
    obtain rfl := hlabel other now rfl
    apply hstate.insert hcall (by simp [hphase, Phase.holdsLock])
    intro lease hmem hactive hip
    cases source with
    | reservation =>
      exact hreserved call hcall ip (by simp [hphase, Phase.reservedIp?]) lease hmem hactive hip
    | pool =>
      exact absurd hip (hstate.pool_free other call scope ip hcall hphase lease hmem hactive)
  · exact hstate.finish id

theorem allocating_step {after : State} {label : Label}
    (hstate : Allocating state) (hreserved : ReservedAddressFree state label)
    (hnext : next state label = some after) : Allocating after := by
  cases label with
  | call mac hostname renewing =>
    cases hnext
    have hcalled : Allocating (state.setPhase state.nextCall
        ⟨mac, normalisedHostname hostname, .resolving renewing⟩ (.resolving renewing)) :=
      hstate.set_phase state.nextCall _ (settled_of_outside rfl)
    exact ⟨hcalled.no_double, hcalled.lock_held, hcalled.scanned, hcalled.pool_free⟩
  | releaseLease mac =>
    cases hnext
    refine hstate.commit fun db heq => ?_
    cases heq
    exact rewrites_releaseLease state.db mac
  | revokeLease id =>
    cases hnext
    exact hstate.commit fun db heq => rewrites_revokeLease heq
  | cleanupExpired now =>
    cases hnext
    refine hstate.commit fun db heq => ?_
    cases heq
    exact rewrites_expireStaleLeases state.db now
  | createReservation mac ip =>
    cases hnext
    exact hstate.commit fun db heq => rewrites_createReservation heq
  | deleteReservation id =>
    cases hnext
    exact hstate.commit fun db heq => rewrites_deleteReservation heq
  | updateConfig request =>
    cases hnext
    exact hstate.commit fun db heq => rewrites_updateConfig heq
  | insertLease id now =>
    obtain ⟨call, hcall, hstep⟩ := Option.bind_eq_some_iff.mp hnext
    refine allocating_stepCall hstate hcall ?_ hreserved hstep
    simp
  | resolveScope id | findLease id | judgeLease id | expireLease id
  | reuseLease id now | findReservation id | lock id | listLeases id
  | chooseIp id | fail id =>
    obtain ⟨call, hcall, hstep⟩ := Option.bind_eq_some_iff.mp hnext
    exact allocating_stepCall hstate hcall (by simp) hreserved hstep

/-- A step from a state without double leases creates one exactly when it
leases a reserved address that another client holds. -/
theorem reservedAddressFree_iff (hstate : Allocating state) (label : Label) :
    ReservedAddressFree state label ↔ ∀ after ∈ next state label, NoDoubleLease after.db := by
  constructor
  · intro hreserved after hnext
    exact (allocating_step hstate hreserved hnext).no_double
  · intro hunique
    cases label with
    | insertLease id now =>
      intro call hcall ip hip lease hmem hactive heq
      obtain ⟨scope, hphase⟩ : ∃ scope, call.phase = .chosen scope .reservation ip := by
        cases hphase : call.phase with
        | chosen scope source chosenIp =>
          cases source with
          | pool => simp [hphase, Phase.reservedIp?] at hip
          | reservation =>
            simp only [hphase, Phase.reservedIp?, Option.mem_def, Option.some.injEq] at hip
            exact ⟨scope, by rw [hip]⟩
        | _ => simp [hphase, Phase.reservedIp?] at hip
      have hnext : next state (.insertLease id now) =
          some (({ state with
            db := insertLease state.db call.mac ip call.hostname now
              (now + scope.leaseDurationSecs) }).finish id) := by
        rw [Option.mem_def] at hcall
        simp [next, hcall, stepCall, hphase]
      have hafter := hunique _ hnext
      by_contra hmac
      refine hafter lease ?_ ⟨state.db.nextLease, call.mac.toAsciiLowercase, ip, call.hostname, now,
        now + scope.leaseDurationSecs, .active⟩ ?_ hactive rfl hmac heq
      · simp [State.finish, insertLease, hmem]
      · simp [State.finish, insertLease]
    | _ => trivial

/-- From an empty lease table, every state that a run of interleaved calls and
admin operations reaches is free of double leases exactly when each lease of a
reserved address is inserted while no other client holds that address. -/
theorem no_address_leased_twice_iff (db : Database) (labels : List Label) :
    Meets next (fun state label => ∀ after ∈ next state label, NoDoubleLease after.db)
        (State.new db) labels ↔ Meets next ReservedAddressFree (State.new db) labels :=
  (meets_iff_of_invariant (fun _ label hstate => reservedAddressFree_iff hstate label)
    (fun _ _ _ hstate hreserved hnext =>
      allocating_step hstate hreserved hnext)
    (by constructor <;> simp [State.new, NoDoubleLease]) labels).symm

/-- A base pool of eleven addresses and no zones. -/
def smallPool : Database where
  leases := []
  reservations := []
  config :=
    { gatewayIp := ipv4 192 168 1 1
      poolStart := ipv4 192 168 1 100
      poolEnd := ipv4 192 168 1 110
      leaseDurationSecs := 86400
      routerIp := none }
  members := []
  zones := []
  defaultZone := none
  nextLease := 0
  nextReservation := 0

/-- One client leases the first address of the pool, the admin reserves that
address for a second client, and the second client asks for a lease. -/
def reserveLeasedAddress : List Label :=
  [.call ['a'] none false, .resolveScope 0, .findLease 0, .findReservation 0,
    .lock 0, .listLeases 0, .chooseIp 0, .insertLease 0 10,
    .createReservation ['b'] (ipv4 192 168 1 100),
    .call ['b'] none false, .resolveScope 1, .findLease 1, .findReservation 1,
    .lock 1, .listLeases 1, .insertLease 1 20]

theorem reserved_address_leased_twice :
    ∃ state, run next (State.new smallPool) reserveLeasedAddress = some state ∧
      ((listActiveLeases state.db).map fun lease => (lease.mac, lease.ip)) =
        [(['a'], ipv4 192 168 1 100), (['b'], ipv4 192 168 1 100)] ∧ ¬ NoDoubleLease state.db := by
  refine ⟨_, rfl, ?_, ?_⟩
  · decide
  · decide

end Wardnet.Dhcp
