import Mathlib.Data.Finset.Basic
import Wardnet.Common.Auth
import Wardnet.Core.Keyed
import Wardnet.Core.Pool
import Wardnet.Core.Transition

/-!
# Inbound WireGuard

The server that remote devices dial into.  Three stores say who may: the rows
of the granted peers, the persisted flag of the server, and the public keys
that the kernel admits on the interface.  Every call changes them one after the
other, in an order of its own, and nothing serialises the calls.  Bringing the
server up drops all admitted keys and admits those of the rows it has read.

The operations on the interface succeed; any other operation may fail.  New
identifiers, key pairs and times are inputs.  The order in which rows are
listed is that of the table.
-/

namespace Wardnet.Inbound

open Net (Ipv4Addr ipv4)

abbrev PublicKey := ℕ

abbrev PrivateKey := ℕ

/-! ## The stores -/

structure InboundWgPeerRow where
  id : Uuid
  publicKey : PublicKey
  allowedIp : Ipv4Addr
  name : Text
  enabled : Bool
  createdAt : ℕ
  deviceId : Option Uuid
  deriving DecidableEq

/-- The table of peers: the columns `id` and `public_key` are unique. -/
structure PeerTable extends Keyed InboundWgPeerRow.id where
  distinct : toKeyed.Distinct InboundWgPeerRow.publicKey

inductive ConnectionMode
  | lan
  | remote
  deriving DecidableEq

structure Device where
  id : Uuid
  name : Option Text
  connectionMode : ConnectionMode
  managed : Bool
  deriving DecidableEq

structure Server where
  peers : PeerTable
  devices : Keyed Device.id
  /-- The `inbound_wg_*` entries of the system configuration. -/
  enabled : Bool
  listenPort : ℕ
  serverPubkey : Option PublicKey
  key : Option PrivateKey
  /-- The keys that `wg_wardin0` admits. -/
  admitted : Finset PublicKey
  masquerade : Bool
  acceptPort : Option ℕ

namespace PeerTable

def find (table : PeerTable) (id : Uuid) : Option InboundWgPeerRow := table.toKeyed.find id

def setEnabled (table : PeerTable) (id : Uuid) (enabled : Bool) : PeerTable where
  toKeyed := table.toKeyed.update id (fun row => { row with enabled := enabled }) fun _ => rfl
  distinct := table.distinct.updateWhere fun _ => rfl

def delete (table : PeerTable) (id : Uuid) : PeerTable where
  toKeyed := table.toKeyed.deleteWhere fun row => row.id = id
  distinct := table.distinct.deleteWhere

/-- The insert when no unique column but the device's is in the way. -/
def insert (table : PeerTable) (row : InboundWgPeerRow) : Option PeerTable :=
  if hkey : row.publicKey ∉ table.rows.map InboundWgPeerRow.publicKey then
    if table.rows.any (·.allowedIp = row.allowedIp) then none
    else
      match hinsert : table.toKeyed.insert row with
      | some keyed =>
        some
          { toKeyed := keyed
            distinct := table.distinct.insert hinsert hkey }
      | none => none
  else none

end PeerTable

/-! ## Operations -/

inductive StoreError
  | failed
  | deviceAlreadyGranted
  deriving DecidableEq

inductive Op
  | isEntitled
  | inboundWgEnabled
  | setInboundWgEnabled (enabled : Bool)
  | inboundWgListenPort
  | setInboundWgListenPort (port : ℕ)
  | inboundWgServerPubkey
  | setInboundWgServerPubkey (key : PublicKey)
  | loadKey
  | saveKey (key : PrivateKey)
  | getDevice (id : Uuid)
  | setManaged (id : Uuid)
  | updateConnectionMode (id : Uuid) (mode : ConnectionMode)
  | findByDeviceId (id : Uuid)
  | findById (id : Uuid)
  | findAll
  | findEnabled
  | insert (row : InboundWgPeerRow)
  | delete (id : Uuid)
  | setEnabled (id : Uuid) (enabled : Bool)
  | ensureServer (key : PrivateKey) (port : ℕ)
  | tearDownServer
  | addPeer (key : PublicKey) (allowedIp : Ipv4Addr)
  | removePeer (key : PublicKey)
  | addMasquerade
  | removeMasquerade
  | addInboundWgAccept (port : ℕ)
  | removeInboundWgAccept

@[reducible]
def Value : Op → Type
  | .isEntitled | .inboundWgEnabled => Bool
  | .inboundWgListenPort => ℕ
  | .inboundWgServerPubkey => Option PublicKey
  | .loadKey => Option PrivateKey
  | .getDevice _ => Option Device
  | .findByDeviceId _ | .findById _ => Option InboundWgPeerRow
  | .findAll | .findEnabled => List InboundWgPeerRow
  | _ => Unit

abbrev Answer (op : Op) : Type := Except StoreError (Value op)

/-- The operations on the interface, which succeed. -/
def Op.onInterface : Op → Bool
  | .ensureServer .. | .tearDownServer | .addPeer .. | .removePeer _ => true
  | _ => false

namespace Server

def insertPeer (server : Server) (row : InboundWgPeerRow) : Except StoreError Server :=
  if row.deviceId.isSome ∧ row.deviceId ∈ server.peers.rows.map InboundWgPeerRow.deviceId then
    .error .deviceAlreadyGranted
  else
    match server.peers.insert row with
    | some peers => .ok { server with peers := peers }
    | none => .error .failed

end Server

/-- What an operation answers and leaves when it succeeds. -/
def perform (op : Op) (server : Server) : Answer op × Server :=
  match op with
  | .isEntitled => (.ok true, server)
  | .inboundWgEnabled => (.ok server.enabled, server)
  | .setInboundWgEnabled enabled => (.ok (), { server with enabled := enabled })
  | .inboundWgListenPort => (.ok server.listenPort, server)
  | .setInboundWgListenPort port => (.ok (), { server with listenPort := port })
  | .inboundWgServerPubkey => (.ok server.serverPubkey, server)
  | .setInboundWgServerPubkey key => (.ok (), { server with serverPubkey := some key })
  | .loadKey => (.ok server.key, server)
  | .saveKey key => (.ok (), { server with key := some key })
  | .getDevice id => (.ok (server.devices.find id), server)
  | .setManaged id =>
    (.ok (), { server with
      devices := server.devices.update id
        (fun device => { device with managed := true }) fun _ => rfl })
  | .updateConnectionMode id mode =>
    (.ok (), { server with
      devices := server.devices.update id
        (fun device => { device with connectionMode := mode }) fun _ => rfl })
  | .findByDeviceId id => (.ok (server.peers.rows.find? (·.deviceId = some id)), server)
  | .findById id => (.ok (server.peers.find id), server)
  | .findAll => (.ok server.peers.rows, server)
  | .findEnabled => (.ok (server.peers.rows.filter (·.enabled)), server)
  | .insert row =>
    match server.insertPeer row with
    | .ok after => (.ok (), after)
    | .error error => (.error error, server)
  | .delete id => (.ok (), { server with peers := server.peers.delete id })
  | .setEnabled id enabled => (.ok (), { server with peers := server.peers.setEnabled id enabled })
  | .ensureServer .. => (.ok (), { server with admitted := ∅ })
  | .tearDownServer => (.ok (), { server with admitted := ∅ })
  | .addPeer key _ => (.ok (), { server with admitted := insert key server.admitted })
  | .removePeer key => (.ok (), { server with admitted := server.admitted.erase key })
  | .addMasquerade => (.ok (), { server with masquerade := true })
  | .removeMasquerade => (.ok (), { server with masquerade := false })
  | .addInboundWgAccept port => (.ok (), { server with acceptPort := some port })
  | .removeInboundWgAccept => (.ok (), { server with acceptPort := none })

/-- An operation that may fail does so on a fault; a fault of the entitlement
is that there is none. -/
def exec (fault : Bool) (op : Op) (server : Server) : Option (Answer op × Server) :=
  if fault ∧ ¬ op.onInterface then
    match op with
    | .isEntitled => some (.ok false, server)
    | _ => some (.error .failed, server)
  else some (perform op server)

/-! ## The service -/

abbrev Action (Result : Type) := Program Op Answer AppError Result

open Program (fail ofExcept)

/-- One operation, whose failure the caller looks at. -/
def send (op : Op) : Action (Answer op) := Program.perform op

/-- One operation with `map_err(AppError::Internal)?`. -/
def call (op : Op) : Action (Value op) := do
  match ← send op with
  | .ok value => pure value
  | .error _ => fail .internal

def requireEntitled : Action Unit := do
  if ← call .isEntitled then pure ()
  else fail (.forbidden "inbound WireGuard (Personal VPN) requires an active Premium subscription")

variable (publicOf : PrivateKey → PublicKey)

/-- `ensure_server_keypair`, with the key to store if there is none. -/
def ensureServerKeypair (generated : PrivateKey) : Action (PrivateKey × PublicKey) := do
  match ← call .loadKey with
  | some key =>
    let _ ← call (.setInboundWgServerPubkey (publicOf key))
    pure (key, publicOf key)
  | none =>
    let _ ← call (.saveKey generated)
    let _ ← call (.setInboundWgServerPubkey (publicOf generated))
    pure (generated, publicOf generated)

/-- `10.100.64.N`. -/
def hostAddress (host : ℕ) : Ipv4Addr := ipv4 10 100 64 host

/-- `allocate_ip`: the lowest last octet that no row has. -/
def allocateIp (existing : List InboundWgPeerRow) : Except AppError Ipv4Addr :=
  let used := existing.map fun row => row.allowedIp.toNat % 256
  match (List.range' 2 253).find? fun host => host ∉ used with
  | some host => .ok (hostAddress host)
  | none => .error (.conflict "inbound WireGuard subnet is full - no free address")

/-- `bring_up_server`: the rows are read once and their keys admitted one by
one. -/
def bringUpServer (key : PrivateKey) (port : ℕ) : Action Unit := do
  let _ ← call (.ensureServer key port)
  let enabledPeers ← call .findEnabled
  enabledPeers.forM fun row => do
    let _ ← send (.addPeer row.publicKey row.allowedIp)
    pure ()

def clearRemoteConnectionMode (deviceId : Uuid) : Action Unit := do
  match ← call (.getDevice deviceId) with
  | none => pure ()
  | some device =>
    if device.connectionMode = .remote then
      let _ ← call (.updateConnectionMode deviceId .lan)
      pure ()
    else pure ()

/-- `reset_peer_connection_mode`, whose failure is only logged. -/
def resetPeerConnectionMode (row : InboundWgPeerRow) : Action Unit := do
  match row.deviceId with
  | some deviceId =>
    let _ ← (clearRemoteConnectionMode deviceId).attempt
    pure ()
  | none => pure ()

structure InboundWgConfigResponse where
  enabled : Bool
  listenPort : ℕ
  serverPublicKey : Option PublicKey
  deriving DecidableEq

def setConfig (caller : AuthContext) (enabled : Bool) (port : ℕ)
    (generated : PrivateKey) : Action InboundWgConfigResponse := do
  ofExcept (requireAdmin caller)
  if enabled then
    requireEntitled
    let (key, pubkey) ← ensureServerKeypair publicOf generated
    bringUpServer key port
    let _ ← call .addMasquerade
    let _ ← call (.addInboundWgAccept port)
    let _ ← call (.setInboundWgEnabled true)
    let _ ← call (.setInboundWgListenPort port)
    pure { enabled := true, listenPort := port, serverPublicKey := some pubkey }
  else
    let _ ← call .removeMasquerade
    let _ ← call .removeInboundWgAccept
    let _ ← send .tearDownServer
    let _ ← call (.setInboundWgEnabled false)
    let pubkey ← call .inboundWgServerPubkey
    pure { enabled := false, listenPort := port, serverPublicKey := pubkey }

/-- What the text of a client configuration is made of. -/
structure ClientConfig where
  privateKey : PrivateKey
  address : Ipv4Addr
  serverPublicKey : PublicKey
  endpoint : Text
  deriving DecidableEq

structure AddInboundWgPeerResponse where
  id : Uuid
  name : Text
  publicKey : PublicKey
  allowedIp : Ipv4Addr
  clientConfig : Option ClientConfig
  deriving DecidableEq

def addPeer (caller : AuthContext) (deviceId : Uuid)
    (endpoint : Option Text) (id : Uuid) (key : PrivateKey) (now : ℕ) :
    Action AddInboundWgPeerResponse := do
  ofExcept (requireAdmin caller)
  requireEntitled
  if ¬ (← call .inboundWgEnabled) then
    fail (.conflict "inbound WireGuard server is disabled - enable it before adding peers")
  else
    match ← call (.getDevice deviceId) with
    | none => fail (.notFound s!"device {deviceId} not found")
    | some device =>
      match ← call (.findByDeviceId deviceId) with
      | some _ => fail (.conflict s!"device {deviceId} already has an inbound WireGuard credential")
      | none =>
        match device.name with
        | none =>
          fail (.conflict (s!"device {deviceId} has no name - " ++
            "name it before granting remote access"))
        | some name =>
          let existing ← call .findAll
          let allowedIp ← ofExcept (allocateIp existing)
          match ← send (.insert {
              id := id
              publicKey := publicOf key
              allowedIp := allowedIp
              name := name
              enabled := true
              createdAt := now
              deviceId := some deviceId }) with
          | .error .deviceAlreadyGranted =>
            fail (.conflict "device already has a remote-access credential")
          | .error .failed => fail .internal
          | .ok () =>
            match ← send (.addPeer (publicOf key) allowedIp) with
            | .error _ =>
              let _ ← send (.delete id)
              fail .internal
            | .ok () =>
              let _ ← call (.setManaged deviceId)
              let pubkey ← call .inboundWgServerPubkey
              pure
                { id := id
                  name := name
                  publicKey := publicOf key
                  allowedIp := allowedIp
                  clientConfig := do
                    return {
                      privateKey := key
                      address := allowedIp
                      serverPublicKey := ← pubkey
                      endpoint := ← endpoint } }

def removePeer (caller : AuthContext) (id : Uuid) : Action Unit := do
  ofExcept (requireAdmin caller)
  match ← call (.findById id) with
  | none => fail (.notFound s!"inbound-wg peer {id} not found")
  | some row =>
    let _ ← send (.removePeer row.publicKey)
    let _ ← call (.delete id)
    resetPeerConnectionMode row

/-- `set_peer_enabled`; the summary it returns has the columns of the row. -/
def setPeerEnabled (caller : AuthContext) (id : Uuid) (enabled : Bool) :
    Action InboundWgPeerRow := do
  ofExcept (requireAdmin caller)
  match ← call (.findById id) with
  | none => fail (.notFound s!"inbound-wg peer {id} not found")
  | some row =>
    if row.enabled = enabled then pure row
    else
      if ← call .inboundWgEnabled then
        if enabled then
          let _ ← call (.addPeer row.publicKey row.allowedIp)
          pure ()
        else
          let _ ← send (.removePeer row.publicKey)
          pure ()
      else pure ()
      let _ ← call (.setEnabled id enabled)
      if enabled then pure () else resetPeerConnectionMode row
      pure { row with enabled := enabled }

def reconcile (generated : PrivateKey) : Action Unit := do
  if ¬ (← call .inboundWgEnabled) then pure ()
  else if ¬ (← call .isEntitled) then
    let _ ← call (.setInboundWgEnabled false)
    let _ ← send .tearDownServer
    let _ ← send .removeMasquerade
    let _ ← send .removeInboundWgAccept
    pure ()
  else
    let port ← call .inboundWgListenPort
    let (key, _) ← ensureServerKeypair publicOf generated
    bringUpServer key port
    let _ ← call .addMasquerade
    let _ ← call (.addInboundWgAccept port)
    pure ()

/-! ## Calls -/

inductive Request
  | setConfig (caller : AuthContext) (enabled : Bool) (port : ℕ) (generated : PrivateKey)
  | addPeer (caller : AuthContext) (deviceId : Uuid) (endpoint : Option Text)
      (id : Uuid) (key : PrivateKey) (now : ℕ)
  | removePeer (caller : AuthContext) (id : Uuid)
  | setPeerEnabled (caller : AuthContext) (id : Uuid) (enabled : Bool)
  | reconcile (generated : PrivateKey)
  deriving DecidableEq

inductive Response
  | config (config : InboundWgConfigResponse)
  | added (peer : AddInboundWgPeerResponse)
  | summary (row : InboundWgPeerRow)
  | done
  deriving DecidableEq

def Request.program : Request → Action Response
  | .setConfig caller enabled port generated =>
    return .config (← Inbound.setConfig publicOf caller enabled port generated)
  | .addPeer caller deviceId endpoint id key now =>
    return .added (← Inbound.addPeer publicOf caller deviceId endpoint id key now)
  | .removePeer caller id => do
    Inbound.removePeer caller id
    return .done
  | .setPeerEnabled caller id enabled =>
    return .summary (← Inbound.setPeerEnabled caller id enabled)
  | .reconcile generated => do
    Inbound.reconcile publicOf generated
    return .done

abbrev Service := Pool Op Answer Server Request AppError Response

/-- A call comes in, or a call in progress takes its next operation. -/
inductive Label
  | start (call : ℕ) (request : Request)
  | step (call : ℕ) (fault : Bool)
  deriving DecidableEq

def next (service : Service) : Label → Option Service
  | .start call request => service.start (Request.program publicOf) call request
  | .step call fault => service.step exec call fault

end Wardnet.Inbound
