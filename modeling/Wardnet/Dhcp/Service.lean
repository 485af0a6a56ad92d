import Wardnet.Common.Error
import Wardnet.Common.Net
import Wardnet.Common.Text

/-!
# DHCP leases, reservations and scopes

The tables behind `DhcpServiceImpl` and the decisions it takes over them:
which scope a client leases from, whether its lease still reflects the
configuration, and which address of the pool is free.  The lease table has no
uniqueness constraint on the address; the reservation table has one on the MAC
and one on the address.  MACs are stored in lower case.
-/

namespace Wardnet.Dhcp

open Net

inductive LeaseStatus
  | active
  | expired
  | released
  deriving DecidableEq

/-- A row of `dhcp_leases`; times are in seconds. -/
structure DhcpLease where
  id : ℕ
  mac : Text
  ip : Ipv4Addr
  hostname : Option Text
  leaseStart : ℕ
  leaseEnd : ℕ
  status : LeaseStatus
  deriving DecidableEq

def DhcpLease.IsActive (lease : DhcpLease) : Prop := lease.status = .active
  deriving Decidable

/-- A row of `dhcp_reservations`. -/
structure DhcpReservation where
  id : ℕ
  mac : Text
  ip : Ipv4Addr
  deriving DecidableEq

structure DhcpConfig where
  gatewayIp : Ipv4Addr
  poolStart : Ipv4Addr
  poolEnd : Ipv4Addr
  leaseDurationSecs : ℕ
  routerIp : Option Ipv4Addr
  deriving DecidableEq

/-- The part of a network zone that decides a scope; `none` also stands for a
stored subnet that does not parse. -/
structure Zone where
  id : ℕ
  subnet : Option Ipv4Network
  deriving DecidableEq

structure ZoneMember where
  mac : Text
  zoneId : ℕ
  deriving DecidableEq

structure DhcpScope where
  gatewayIp : Ipv4Addr
  poolStart : Ipv4Addr
  poolEnd : Ipv4Addr
  leaseDurationSecs : ℕ
  routerIp : Option Ipv4Addr
  subnetLength : Option ℕ
  deriving DecidableEq

structure Database where
  leases : List DhcpLease
  reservations : List DhcpReservation
  config : DhcpConfig
  members : List ZoneMember
  zones : List Zone
  defaultZone : Option Zone
  nextLease : ℕ
  nextReservation : ℕ
  deriving DecidableEq

/-! ## Queries -/

def findLeaseById (db : Database) (id : ℕ) : Option DhcpLease :=
  db.leases.find? fun lease => lease.id = id

def findActiveLeaseByMac (db : Database) (mac : Text) : Option DhcpLease :=
  db.leases.find? fun lease => lease.mac = mac.toAsciiLowercase ∧ lease.IsActive

def listActiveLeases (db : Database) : List DhcpLease :=
  db.leases.filter fun lease => lease.IsActive

def findReservationByMac (db : Database) (mac : Text) : Option DhcpReservation :=
  db.reservations.find? fun reservation => reservation.mac = mac.toAsciiLowercase

def findReservationByIp (db : Database) (ip : Ipv4Addr) : Option DhcpReservation :=
  db.reservations.find? fun reservation => reservation.ip = ip

/-! ## Statements -/

def updateLease (db : Database) (id : ℕ) (change : DhcpLease → DhcpLease) : Database :=
  { db with
    leases := db.leases.map fun lease => if lease.id = id then change lease else lease }

def updateLeaseStatus (db : Database) (id : ℕ) (status : LeaseStatus) : Database :=
  updateLease db id fun lease => { lease with status := status }

def renewLeaseRow (db : Database) (id leaseEnd : ℕ) : Database :=
  updateLease db id fun lease => { lease with leaseEnd := leaseEnd }

def updateLeaseHostname (db : Database) (id : ℕ) (hostname : Option Text) : Database :=
  updateLease db id fun lease => { lease with hostname := hostname }

/-- `expire_stale_leases`.  The stored end carries an offset where the bound
ends in `Z`, so ends in the same second compare as earlier. -/
def expireStaleLeases (db : Database) (now : ℕ) : Database :=
  { db with
    leases := db.leases.map fun lease =>
      if lease.IsActive ∧ lease.leaseEnd ≤ now then { lease with status := .expired }
      else lease }

def insertLease (db : Database) (mac : Text) (ip : Ipv4Addr)
    (hostname : Option Text) (leaseStart leaseEnd : ℕ) : Database :=
  { db with
    leases := db.leases ++ [{
      id := db.nextLease
      mac := mac.toAsciiLowercase
      ip := ip
      hostname := hostname
      leaseStart := leaseStart
      leaseEnd := leaseEnd
      status := .active }]
    nextLease := db.nextLease + 1 }

def insertReservation (db : Database) (mac : Text) (ip : Ipv4Addr) : Database :=
  { db with
    reservations := db.reservations ++ [{
      id := db.nextReservation
      mac := mac.toAsciiLowercase
      ip := ip }]
    nextReservation := db.nextReservation + 1 }

def deleteReservationRow (db : Database) (id : ℕ) : Database :=
  { db with
    reservations := db.reservations.filter fun row => row.id ≠ id }

/-! ## Decisions -/

/-- `normalised_hostname`: blank values count as absent. -/
def normalisedHostname (hostname : Option Text) : Option Text :=
  (hostname.map Text.trim).filter fun name => name ≠ []

/-- `resolve_zone_for_mac`: the zone of the device with this MAC, or the
default zone when the device is unknown. -/
def resolveZoneForMac (db : Database) (mac : Text) : Option Zone :=
  match db.members.find? fun member => member.mac = mac.toAsciiLowercase with
  | some member => db.zones.find? fun zone => zone.id = member.zoneId
  | none => db.defaultZone

def baseScope (config : DhcpConfig) : DhcpScope where
  gatewayIp := config.gatewayIp
  poolStart := config.poolStart
  poolEnd := config.poolEnd
  leaseDurationSecs := config.leaseDurationSecs
  routerIp := config.routerIp
  subnetLength := none

/-- `resolve_scope`: the subnet of the client's zone when it has one that
holds a pool, the base pool otherwise. -/
def resolveScope (db : Database) (mac : Text) : DhcpScope :=
  match (resolveZoneForMac db mac).bind Zone.subnet with
  | none => baseScope db.config
  | some net =>
    match poolBounds net with
    | none => baseScope db.config
    | some (poolStart, poolEnd) =>
      { gatewayIp := gatewayFor net
        poolStart := poolStart
        poolEnd := poolEnd
        leaseDurationSecs := db.config.leaseDurationSecs
        routerIp := none
        subnetLength := some net.length }

def ipInPool (ip poolStart poolEnd : Ipv4Addr) : Bool := poolStart ≤ ip ∧ ip ≤ poolEnd

/-- Whether a lease still reflects the configuration: it matches the
reservation of its MAC, or there is none and it lies in the pool. -/
def stillValid (lease : DhcpLease) (reservation : Option DhcpReservation)
    (poolStart poolEnd : Ipv4Addr) : Bool :=
  match reservation with
  | some reservation => reservation.ip = lease.ip
  | none => ipInPool lease.ip poolStart poolEnd

/-- A reservation is honoured only inside the subnet of the client's zone. -/
def reservationCompatible (scope : DhcpScope) (reservation : DhcpReservation) : Bool :=
  match scope.subnetLength with
  | none => true
  | some length =>
    if h : length ≤ 32 then (Ipv4Network.mk scope.gatewayIp length h).contains reservation.ip
    else true

/-- `find_available_ip` over the addresses in use: the first address of the
pool that is in neither list. -/
def firstFree (leased reserved : List Ipv4Addr) (poolStart poolEnd : Ipv4Addr) : Option Ipv4Addr :=
  ((List.range' poolStart.toNat (poolEnd.toNat + 1 - poolStart.toNat)).map
    (BitVec.ofNat 32)).find? fun candidate => candidate ∉ leased ∧ candidate ∉ reserved

/-- `leases_outside_pool`: active leases outside the range that no reservation
of their MAC pins. -/
def leasesOutsidePool (db : Database) (poolStart poolEnd : Ipv4Addr) : List DhcpLease :=
  (listActiveLeases db).filter fun lease =>
    ¬ ipInPool lease.ip poolStart poolEnd ∧ ¬ db.reservations.any fun reservation =>
        reservation.mac = lease.mac ∧ reservation.ip = lease.ip

def revokeLeasesOutsidePool (db : Database) (poolStart poolEnd : Ipv4Addr) : Database :=
  (leasesOutsidePool db poolStart poolEnd).foldl
    (fun db lease => updateLeaseStatus db lease.id .expired) db

/-- What a reused lease is updated with: the new end on a renewal, and the
client's hostname when it sent one that differs from the stored one. -/
def reuseLease (db : Database) (lease : DhcpLease) (hostname : Option Text)
    (newEnd : Option ℕ) : Database :=
  let renewed := newEnd.elim db (renewLeaseRow db lease.id)
  match hostname with
  | some name =>
    if lease.hostname = some name then renewed
    else updateLeaseHostname renewed lease.id (some name)
  | none => renewed

/-! ## Admin operations -/

def privateRangeHint : String := "a private range (10.x, 172.16-31.x, or 192.168.x)"

/-- A configuration request whose addresses have been parsed. -/
structure UpdateConfigRequest where
  poolStart : Ipv4Addr
  poolEnd : Ipv4Addr
  leaseDurationSecs : ℕ
  routerIp : Option Ipv4Addr
  deriving DecidableEq

/-- `parse_pool_range` on parsed addresses. -/
def checkPoolRange (poolStart poolEnd : Ipv4Addr) : Except AppError Unit :=
  if poolEnd < poolStart then .error (.badRequest "pool_end must be >= pool_start")
  else if ¬ isPrivate poolStart then
    .error (.badRequest ("pool_start must be " ++ privateRangeHint))
  else if ¬ isPrivate poolEnd then .error (.badRequest ("pool_end must be " ++ privateRangeHint))
  else .ok ()

/-- `update_config`: validate, store, and expire the leases that the new pool
strands. -/
def updateConfig (db : Database) (request : UpdateConfigRequest) : Except AppError Database := do
  checkPoolRange request.poolStart request.poolEnd
  if (request.routerIp.any fun router => ¬ isPrivate router) then
    throw (.badRequest ("router_ip must be " ++ privateRangeHint))
  let config := { db.config with
    poolStart := request.poolStart
    poolEnd := request.poolEnd
    leaseDurationSecs := request.leaseDurationSecs
    routerIp := request.routerIp }
  return revokeLeasesOutsidePool { db with config := config } request.poolStart request.poolEnd

def revokeLease (db : Database) (id : ℕ) : Except AppError Database :=
  match findLeaseById db id with
  | none => .error (.notFound s!"lease {id} not found")
  | some lease =>
    if lease.IsActive then .ok (updateLeaseStatus db id .released)
    else .error (.badRequest "lease is not active")

def releaseLease (db : Database) (mac : Text) : Database :=
  match findActiveLeaseByMac db mac with
  | some lease => updateLeaseStatus db lease.id .released
  | none => db

/-- `create_reservation`: the MAC and the address must not be reserved yet.
Active leases are not consulted. -/
def createReservation (db : Database) (mac : Text) (ip : Ipv4Addr) : Except AppError Database :=
  if (findReservationByMac db mac).isSome then
    .error (.conflict ("reservation for MAC " ++ String.ofList mac ++ " already exists"))
  else if (findReservationByIp db ip).isSome then
    .error (.conflict ("reservation for IP " ++ display ip ++ " already exists"))
  else .ok (insertReservation db mac ip)

def deleteReservation (db : Database) (id : ℕ) : Except AppError Database :=
  if db.reservations.any fun row => row.id = id then .ok (deleteReservationRow db id)
  else .error (.notFound s!"reservation {id} not found")

end Wardnet.Dhcp
