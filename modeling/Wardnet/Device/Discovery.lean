import Wardnet.Common.Dns
import Wardnet.Core.HashMap
import Wardnet.Core.Table

/-!
# Device discovery

`DeviceDiscoveryServiceImpl` keeps one in-memory entry per hardware address,
mirrors addresses and sighting times into the `devices` table, and publishes
what happens to a device.  Hardware addresses are numbers (packet capture
writes them in one canonical form); a stored address is `none` when the column
holds the empty string.  Time is the reading of one clock in milliseconds.
-/

namespace Wardnet.Discovery

open Net

abbrev Mac := ℕ

/-- `DeviceConnectionMode`. -/
inductive ConnectionMode
  | lan
  | remote
  deriving DecidableEq

/-- The columns of a `devices` row that discovery reads or writes. -/
structure Row where
  id : Uuid
  mac : Mac
  lastIp : Option Ipv4Addr
  lastSeen : ℕ
  mode : ConnectionMode
  deriving DecidableEq

/-- `DeviceMemoryState`. -/
structure Entry where
  deviceId : Uuid
  lastIp : Option Ipv4Addr
  lastSeen : ℕ
  gone : Bool
  deriving DecidableEq

/-- The lifecycle events, with the fields the listeners read. -/
inductive Event
  | discovered (device : Uuid) (mac : Mac) (ip : Ipv4Addr)
  | ipChanged (device : Uuid) (mac : Mac) (oldIp : Option Ipv4Addr) (newIp : Ipv4Addr)
  | gone (device : Uuid) (mac : Mac) (lastIp : Option Ipv4Addr)
  deriving DecidableEq

def Event.device : Event → Uuid
  | .discovered device _ _ | .ipChanged device _ _ _ | .gone device _ _ => device

def Event.isGone : Event → Bool
  | .gone .. => true
  | _ => false

/-- The address the event says the device has. -/
def Event.address : Event → Option Ipv4Addr
  | .discovered _ _ ip | .ipChanged _ _ _ ip => some ip
  | .gone .. => none

/-- What the service owns or writes: the tracking map, the recent claims of
each hardware address, the table, and the events published so far, the latest
first. -/
structure Registry where
  memory : HashMap Mac Entry
  history : HashMap Mac (List (Ipv4Addr × ℕ))
  rows : List Row
  log : List Event
  deriving DecidableEq

/-- What the observation filters read. -/
structure Config where
  trustedSubnets : List Ipv4Network
  gateway : Option (Mac × Ipv4Addr)
  lanIp : Ipv4Addr

/-! ## The table -/

def findById (rows : List Row) (id : Uuid) : Option Row := Table.find Row.id rows id

def findByMac (rows : List Row) (mac : Mac) : Option Row := rows.find? fun row => row.mac = mac

def updateLastSeenAndIp (rows : List Row) (id : Uuid) (ip : Ipv4Addr)
    (now : ℕ) (mode : ConnectionMode) : List Row :=
  Table.update Row.id rows id fun row =>
    { row with lastSeen := now, lastIp := some ip, mode := mode }

def clearLastIp (rows : List Row) (id : Uuid) : List Row :=
  Table.update Row.id rows id fun row => { row with lastIp := none }

/-- `update_last_seen_batch`, with one time for the whole batch. -/
def updateLastSeenBatch (rows : List Row) (ids : List Uuid) (now : ℕ) : List Row :=
  ids.foldl (fun rows id =>
    Table.update Row.id rows id fun row => { row with lastSeen := now }) rows

/-- What `find_by_ip` may find: a row with the address, and none of the others
there was seen later.  The query does not order rows that were seen at once. -/
def FindsByIp (rows : List Row) (ip : Ipv4Addr) (found : Option Row) : Prop :=
  (found = none → ∀ row ∈ rows, row.lastIp ≠ some ip) ∧
    ∀ row ∈ found, row ∈ rows ∧ row.lastIp = some ip ∧
      ∀ other ∈ rows, other.lastIp = some ip → other.lastSeen ≤ row.lastSeen
  deriving Decidable

/-! ## Observations -/

def flapWindow : ℕ := 60000

def flapMaxDistinctIps : ℕ := 3

/-- The claims of a hardware address after one more: those that left the
window are dropped, and a known address only moves its time. -/
def recordClaim (claims : List (Ipv4Addr × ℕ)) (ip : Ipv4Addr) (now : ℕ) : List (Ipv4Addr × ℕ) :=
  let recent := claims.filter fun claim => now - claim.2 < flapWindow
  if recent.any fun claim => claim.1 = ip then
    recent.map fun claim => if claim.1 = ip then (ip, now) else claim
  else recent ++ [(ip, now)]

/-- `is_flapping`: the history with the claim recorded, and the verdict. -/
def isFlapping (history : HashMap Mac (List (Ipv4Addr × ℕ))) (mac : Mac) (ip : Ipv4Addr) (now : ℕ) :
    HashMap Mac (List (Ipv4Addr × ℕ)) × Bool :=
  let claims := recordClaim ((history.get mac).getD []) ip now
  (history.insert mac claims, flapMaxDistinctIps < claims.length)

/-- The two filters `process_observation` applies before it takes the lock:
the address lies in a trusted subnet, and the gateway is believed about its
own address only. -/
def admitted (config : Config) (mac : Mac) (ip : Ipv4Addr) : Bool :=
  (config.trustedSubnets.any fun subnet => subnet.contains ip) &&
    !(config.gateway.any fun gateway =>
      gateway.1 = mac ∧ gateway.2 ≠ ip)

def touchPresence (memory : HashMap Mac Entry) (mac : Mac) (now : ℕ) : HashMap Mac Entry :=
  match memory.get mac with
  | some entry =>
    if entry.gone then memory
    else memory.insert mac { entry with lastSeen := now }
  | none => memory

inductive ObsAction
  | unknown
  | reappear (device : Uuid)
  | ipChanged (device : Uuid) (oldIp : Option Ipv4Addr)
  | justSeen (device : Uuid)
  deriving DecidableEq

/-- A tracking entry for a device that is present. -/
def Entry.present (device : Uuid) (ip : Ipv4Addr) (now : ℕ) : Entry where
  deviceId := device
  lastIp := some ip
  lastSeen := now
  gone := false

def observationAction (memory : HashMap Mac Entry) (mac : Mac)
    (ip : Ipv4Addr) (onUnknown : Option Uuid) (now : ℕ) : HashMap Mac Entry × ObsAction :=
  match memory.get mac with
  | some entry =>
    let seen := memory.insert mac (.present entry.deviceId ip now)
    if entry.gone then (seen, .reappear entry.deviceId)
    else if entry.lastIp ≠ some ip then (seen, .ipChanged entry.deviceId entry.lastIp)
    else (seen, .justSeen entry.deviceId)
  | none =>
    match onUnknown with
    | some device => (memory.insert mac (.present device ip now), .reappear device)
    | none => (memory, .unknown)

/-! ## Departures -/

/-- A device that a sweep or a stale handshake has just marked gone. -/
structure Departed where
  device : Uuid
  mac : Mac
  lastIp : Option Ipv4Addr
  deriving DecidableEq

def Entry.stale (entry : Entry) (timeout now : ℕ) : Bool :=
  !entry.gone && timeout < now - entry.lastSeen

def Entry.depart (entry : Entry) : Entry := { entry with gone := true }

/-- Mark the listed entries gone. -/
def markGone (memory : HashMap Mac Entry) (departed : List Departed) : HashMap Mac Entry :=
  departed.foldl (fun memory departure =>
    match memory.get departure.mac with
    | some entry => memory.insert departure.mac entry.depart
    | none => memory) memory

/-- The entries a departure sweep finds stale. -/
def departures (memory : HashMap Mac Entry) (timeout now : ℕ) : List Departed :=
  (memory.toList.filter fun entry => entry.2.stale timeout now).map
    fun entry => ⟨entry.2.deviceId, entry.1, entry.2.lastIp⟩

/-- The entry that `mark_peer_gone` finds stale, if any. -/
def peerDepartures (memory : HashMap Mac Entry) (mac : Mac) (timeout now : ℕ) : List Departed :=
  match memory.get mac with
  | some entry =>
    if entry.stale timeout now then [⟨entry.deviceId, mac, entry.lastIp⟩]
    else []
  | none => []

/-- The re-check of `clear_departed_ip`. -/
def stillGone (memory : HashMap Mac Entry) (mac : Mac) : Bool := (memory.get mac).all Entry.gone

def Departed.event (departed : Departed) : Event :=
  .gone departed.device departed.mac departed.lastIp

end Wardnet.Discovery
