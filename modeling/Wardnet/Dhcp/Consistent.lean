import Wardnet.Common.Subnet
import Wardnet.Dhcp.Stability

/-!
# Answers that agree with themselves

An OFFER or ACK carries an address, from the call that leases it, and the
options of a scope that is resolved again afterwards.  Between the two, and
before the assignment that a renewal falls through to, a device may be moved
and a zone edited.
-/

namespace Wardnet.Dhcp

open List Net Transition

/-- Where the devices are, and the subnets of the zones. -/
structure Layout where
  members : List ZoneMember
  zones : List Zone
  defaultZone : Option Zone

def Layout.on (layout : Layout) (db : Database) : Database :=
  { db with
    members := layout.members
    zones := layout.zones
    defaultZone := layout.defaultZone }

/-- The layouts a scope is resolved from: for the lease, for the assignment
that a renewal falls through to, and for the message. -/
structure Reads where
  asked : Layout
  assigned : Layout
  rendered : Layout

/-- An OFFER or ACK with its address, or a NAK. -/
inductive Reply
  | lease (ip : Ipv4Addr) (scope : DhcpScope)
  | nak (scope : DhcpScope)
  deriving DecidableEq

/-- `assign_lease` or `renew_lease` while zones are edited. -/
def leaseAcross (db : Database) (reads : Reads) (renewing : Bool) (mac : Text)
    (hostname : Option Text) (now : ℕ) : Except AppError DhcpLease × Database :=
  let scope := resolveScope (reads.asked.on db) mac
  match renewing, leaseIfStillValid (reads.asked.on db) mac scope.poolStart scope.poolEnd with
  | true, (none, cleared) =>
    assignLease (reads.assigned.on cleared) mac (normalisedHostname hostname) now
  | _, _ => askLease (reads.asked.on db) renewing mac hostname now

/-- `handle_discover` and, for a renewal, `handle_request`, which refuses a
client that asked for another address. -/
def handle (db : Database) (reads : Reads) (renewing : Bool) (mac : Text) (hostname : Option Text)
    (requested : Ipv4Addr) (now : ℕ) : Except AppError Reply :=
  (leaseAcross db reads renewing mac hostname now).1.map fun lease =>
    let scope := resolveScope (reads.rendered.on db) mac
    if renewing ∧ requested ≠ 0 ∧ lease.ip ≠ requested then .nak scope else .lease lease.ip scope

/-- The address lies in the network of the gateway, under the mask of the
zone's subnet or the base mask, and is not the gateway's. -/
def DhcpScope.Serves (scope : DhcpScope) (baseLength : ℕ) (ip : Ipv4Addr) : Prop :=
  inBlock ip (scope.gatewayIp &&& maskOf (scope.subnetLength.getD baseLength))
    (scope.subnetLength.getD baseLength) = true ∧ ip ≠ scope.gatewayIp
  deriving Decidable

/-- The base pool lies in the network of the gateway and does not hold it. -/
def DhcpConfig.Clear (config : DhcpConfig) (length : ℕ) : Prop :=
  inBlock config.poolStart (config.gatewayIp &&& maskOf length) length = true ∧
    inBlock config.poolEnd (config.gatewayIp &&& maskOf length) length = true ∧
    ipInPool config.gatewayIp config.poolStart config.poolEnd = false
  deriving Decidable

/-- The base pool is clear, the subnet of the client's zone is private, and the
client's scope serves its reservation. -/
def Placed (db : Database) (mac : Text) (length : ℕ) : Prop :=
  db.config.Clear length ∧
    (∀ net ∈ (resolveZoneForMac db mac).bind Zone.subnet, isRfc1918Subnet net = true) ∧
    ∀ reservation ∈ findReservationByMac db mac,
      (resolveScope db mac).Serves length reservation.ip
  deriving Decidable

variable {db after : Database} {mac : Text} {length : ℕ} {ip : Ipv4Addr}

theorem serves_of_inPool (hplaced : Placed db mac length)
    (hpool : ipInPool ip (resolveScope db mac).poolStart (resolveScope db mac).poolEnd = true) :
    (resolveScope db mac).Serves length ip := by
  obtain ⟨hclear, hprivate, -⟩ := hplaced
  have hbase : ipInPool ip db.config.poolStart db.config.poolEnd = true →
      (baseScope db.config).Serves length ip := by
    intro hpool
    have hends : db.config.poolStart ≤ ip ∧ ip ≤ db.config.poolEnd := by
      simpa [ipInPool] using hpool
    refine ⟨inBlock_of_between hclear.1 hclear.2.1 hends.1 hends.2, ?_⟩
    rintro rfl
    cases hpool.symm.trans hclear.2.2
  unfold resolveScope at hpool ⊢
  split at hpool
  · exact hbase hpool
  next net hnet =>
    split at hpool
    · exact hbase hpool
    next poolStart poolEnd hbounds =>
      have hnetwork := isRfc1918Subnet_network_lt (hprivate net hnet)
      have hlength := length_lt_of_poolBounds (hprivate net hnet) (by simp [hbounds])
      have hbroadcast : net.contains net.broadcast = true := by
        rw [Ipv4Network.contains_iff, Ipv4Network.broadcast, BitVec.and_or_distrib_right]
        simp [Ipv4Network.network]
      simp only [poolBounds, Option.ite_none_left_eq_some] at hbounds
      cases hbounds.2
      simp only [ipInPool, BitVec.le_def, BitVec.toNat_add, BitVec.toNat_ofNat, Bool.decide_and,
        Bool.and_eq_true, decide_eq_true_eq] at hpool
      have h10 : (10 : BitVec 32).toNat = 10 := rfl
      have hlt := net.broadcast.isLt
      refine ⟨?_, ?_⟩
      · change inBlock ip (gatewayFor net &&& net.mask) net.length = true
        rw [gatewayFor_and_mask hlength]
        refine inBlock_of_between Ipv4Network.contains_network hbroadcast ?_ ?_
        · rw [BitVec.le_def]
          omega
        · rw [BitVec.le_def]
          omega
      · rintro rfl
        simp only [gatewayFor, BitVec.toNat_add] at hpool
        have h1 : (1 : BitVec 32).toNat = 1 := rfl
        omega

theorem serves_of_askLease (hstored : Stored db) (hplaced : Placed db mac length)
    {renewing : Bool} {hostname : Option Text} {now : ℕ} {lease : DhcpLease}
    (hask : askLease db renewing mac hostname now = (.ok lease, after)) :
    (resolveScope db mac).Serves length lease.ip := by
  have hplaceable : Placeable db mac := by
    intro reservation hreservation
    have hserves := (hplaced.2.2 reservation hreservation).1
    unfold reservationCompatible
    split
    · rfl
    next zoneLength hlength =>
      rw [hlength] at hserves
      split
      · exact hserves
      · rfl
  obtain ⟨row, hvalid, -, hip, hreservation, hscope⟩ :=
    valid_askLease hstored (.inr hplaceable) hask
  have hjudged := hvalid.2
  rw [hreservation, hscope] at hjudged
  rw [← hip]
  unfold stillValid at hjudged
  split at hjudged
  next reservation hfound =>
    rw [← of_decide_eq_true hjudged]
    exact hplaced.2.2 reservation hfound
  · exact serves_of_inPool hplaced hjudged

/-- From an empty lease table, after any operations, an OFFER or ACK carries an
address that its scope serves, if everything is placed well and the scope of
the client does not change during the call. -/
theorem answers_agree (start : Database) (operations : List Operation)
    (hrun : run perform { start with leases := [] } operations = some db) (reads : Reads)
    (mac : Text) (hkept : ∀ layout ∈ [reads.asked, reads.assigned],
      Placed (layout.on db) mac length ∧
        resolveScope (layout.on db) mac = resolveScope (reads.rendered.on db) mac)
    (renewing : Bool) (hostname : Option Text) (requested : Ipv4Addr) (now : ℕ) (scope : DhcpScope)
    (hanswer : handle db reads renewing mac hostname requested now = .ok (.lease ip scope)) :
    scope.Serves length ip := by
  have hstored := stored_run start hrun
  have hon (layout : Layout) : Stored (layout.on db) := ⟨hstored.fresh, hstored.apart⟩
  simp only [mem_cons, not_mem_nil, or_false, forall_eq_or_imp, forall_eq] at hkept
  obtain ⟨⟨hasked, haskedScope⟩, hassigned, hassignedScope⟩ := hkept
  have hserves : ∀ lease, (leaseAcross db reads renewing mac hostname now).1 = .ok lease →
      (resolveScope (reads.rendered.on db) mac).Serves length lease.ip := by
    intro lease hlease
    unfold leaseAcross at hlease
    simp only at hlease
    split at hlease
    next cleared hlooked =>
      rcases leaseIfStillValid_cases (reads.asked.on db) mac with
        ⟨old, -, hfound⟩ | ⟨leases, hrewrites, hcleared, -⟩
      · cases hlooked.symm.trans hfound
      · cases hlooked.symm.trans hcleared
        have hrewritten := (hon reads.asked).rewrite hrewrites
        have hleft : Stored (reads.assigned.on { reads.asked.on db with leases := leases }) :=
          ⟨hrewritten.fresh, hrewritten.apart⟩
        rw [← hassignedScope]
        exact @serves_of_askLease _ _ _ _ hleft hassigned false _ _ _ (Prod.ext hlease rfl)
    · rw [← haskedScope]
      exact serves_of_askLease (hon reads.asked) hasked (Prod.ext hlease rfl)
  unfold handle at hanswer
  cases hlease : (leaseAcross db reads renewing mac hostname now).1 with
  | error error => simp [hlease, Except.map] at hanswer
  | ok lease =>
    simp only [hlease, Except.map] at hanswer
    split at hanswer <;> cases hanswer
    exact hserves lease hlease

/-- The client in its zone, and outside it. -/
def inZone : Layout := ⟨zonedClient.members, zonedClient.zones, none⟩

def outside : Layout := { inZone with members := [] }

theorem answers_agree_inZone :
    ∃ db scope, run perform { zonedClient with leases := [] } [.ask false ['a'] none 5] = some db ∧
      handle db ⟨inZone, inZone, inZone⟩ true ['a'] none 0 10 =
        .ok (.lease (ipv4 10 0 5 10) scope) ∧ scope.Serves 24 (ipv4 10 0 5 10) := by
  refine ⟨_, _, rfl, rfl, ?_⟩
  exact answers_agree zonedClient [.ask false ['a'] none 5] rfl ⟨inZone, inZone, inZone⟩ ['a']
    (by decide) true none 0 10 _ rfl

/-- A client that leaves its zone before the message is rendered is offered an
address of the zone with the base gateway, and one with a reservation for the
gateway's address is offered that address. -/
theorem answers_disagree : (∃ db scope,
      run perform { zonedClient with leases := [] } [.ask false ['a'] none 5] = some db ∧
      handle db ⟨inZone, inZone, outside⟩ false ['a'] none 0 10 =
        .ok (.lease (ipv4 10 0 5 10) scope) ∧ ¬ scope.Serves 24 (ipv4 10 0 5 10)) ∧
    ∃ db scope, run perform { smallPool with leases := [] }
        [.createReservation ['a'] (ipv4 192 168 1 1)] = some db ∧
      handle db ⟨outside, outside, outside⟩ false ['a'] none 0 10 =
        .ok (.lease (ipv4 192 168 1 1) scope) ∧ ¬ scope.Serves 24 (ipv4 192 168 1 1) :=
  ⟨⟨_, _, rfl, rfl, by decide⟩, _, _, rfl, rfl, by decide⟩

end Wardnet.Dhcp
