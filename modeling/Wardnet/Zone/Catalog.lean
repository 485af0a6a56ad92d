import Wardnet.Common.Error
import Wardnet.Common.Subnet
import Wardnet.Core.Table
import Wardnet.Routing.Service

/-!
# The zone catalog

Network zones, cross-zone exceptions and the zone of each device, with the
admin operations that change them.  A CIDR text is represented by the network
it parses to; a text that does not parse is rejected like any other invalid
request.  New identifiers are inputs, and an operation that fails leaves the
database as it is.
-/

namespace Wardnet.Zone

open Net Prod Routing Table

inductive AllowedTargetKind
  | direct
  | tunnel
  deriving DecidableEq

def AllowedTargetKind.ofTarget : RoutingTarget → Option AllowedTargetKind
  | .direct => some .direct
  | .tunnel _ => some .tunnel
  | .default => none

def AllowedTargetKind.asStr : AllowedTargetKind → String
  | .direct => "direct"
  | .tunnel => "tunnel"

inductive ZoneProvenance
  | system
  | manual
  deriving DecidableEq

inductive ZoneStance
  | sharedSubnet
  | isolateMembers
  deriving DecidableEq

structure NetworkZone where
  id : Uuid
  name : Text
  provenance : ZoneProvenance
  isolationStance : ZoneStance
  allowedTargets : List AllowedTargetKind
  memberIsolation : Bool
  subnet : Option Ipv4Network
  adminUiReachable : Bool
  isDefault : Bool
  isDefaultForNew : Bool
  deriving DecidableEq

def NetworkZone.permitsKind (zone : NetworkZone) (kind : AllowedTargetKind) : Bool :=
  zone.allowedTargets.contains kind

/-- The columns of a device that zones read, with its routing rule. -/
structure Device where
  id : Uuid
  zoneId : Uuid
  lastIp : Option Ipv4Addr
  rule : Option RoutingTarget
  deriving DecidableEq

/-! ## Exceptions -/

inductive ExceptionEndpoint
  | device (id : Uuid)
  | zone (id : Uuid)
  deriving DecidableEq

inductive Proto
  | tcp
  | udp
  deriving DecidableEq

/-- An inclusive port range of one protocol. -/
structure PortSpec where
  proto : Proto
  fromPort : UInt16
  toPort : UInt16
  deriving DecidableEq

inductive ServiceSet
  | casting
  | mirroring
  | smartHome
  deriving DecidableEq

def one (proto : Proto) (port : UInt16) : PortSpec := ⟨proto, port, port⟩

def ServiceSet.ports : ServiceSet → List PortSpec
  | .casting =>
    [one .udp 5353, one .udp 1900, one .tcp 8008, one .tcp 8009,
      one .tcp 8443, one .tcp 9000, one .tcp 7000, one .tcp 7100]
  | .mirroring => [⟨.tcp, 1, 65535⟩, ⟨.udp, 1, 65535⟩]
  | .smartHome =>
    [one .udp 4001, one .udp 4002, one .udp 4003, one .udp 5353,
      one .udp 1900, one .udp 5683, one .tcp 6668, one .tcp 8883, one .udp 56700, one .tcp 9123]

inductive ServiceSpec
  | preset (set : ServiceSet)
  | ports (ports : List PortSpec)
  deriving DecidableEq

def ServiceSpec.resolvePorts : ServiceSpec → List PortSpec
  | .preset set => set.ports
  | .ports specs => specs

structure ZoneException where
  id : Uuid
  fromEnd : ExceptionEndpoint
  toEnd : ExceptionEndpoint
  service : ServiceSpec
  bidirectional : Bool
  deriving DecidableEq

/-- The tables the zone services read and write, with the default policy. -/
structure Database where
  zones : List NetworkZone
  exceptions : List ZoneException
  devices : List Device
  defaultPolicy : Option Uuid
  deriving DecidableEq

def Database.findZone (db : Database) (id : Uuid) : Option NetworkZone :=
  Table.find NetworkZone.id db.zones id

def Database.setZones (db : Database) (zones : List NetworkZone) : Database :=
  { db with zones := zones }

def Database.findDevice (db : Database) (id : Uuid) : Option Device :=
  Table.find Device.id db.devices id

def Database.findException (db : Database) (id : Uuid) : Option ZoneException :=
  Table.find ZoneException.id db.exceptions id

inductive ZoneEvent
  | networkZoneChanged (zoneId : Uuid)
  | deviceZoneChanged (deviceId oldZoneId newZoneId : Uuid)
  | zoneExceptionsChanged
  deriving DecidableEq

/-- The database after an operation and the event it publishes, if any. -/
abbrev Outcome := Except AppError (Database × Option ZoneEvent)

/-! ## Zones -/

def displayNetwork (net : Ipv4Network) : String := display net.addr ++ "/" ++ toString net.length

def validateTargetsAndSubnet (allowedTargets : List AllowedTargetKind)
    (subnet : Option Ipv4Network) : Except AppError Unit := do
  ensure (allowedTargets ≠ []) (.badRequest "allowed_targets must not be empty")
  match subnet with
  | none => pure ()
  | some net =>
    let cidr := displayNetwork net
    ensure (isRfc1918Subnet net) (.badRequest (s!"subnet cidr '{cidr}' " ++
      "must be a private range (10.x, 172.16-31.x, or 192.168.x)"))
    ensure (poolBounds net ≠ none) (.badRequest
      s!"subnet cidr '{cidr}' is too small to host a DHCP pool")

def ensureNameAvailable (db : Database) (name : Text)
    (exclude : Option Uuid) : Except AppError Unit := do
  ensure (name.trim ≠ []) (.badRequest "zone name must not be empty")
  let shown := String.ofList name
  ensure (∀ zone ∈ db.zones, zone.name = name → some zone.id = exclude)
    (.conflict s!"a network zone named '{shown}' already exists")

def requireZone (db : Database) (id : Uuid) : Except AppError NetworkZone :=
  require (db.findZone id) (.notFound s!"network zone {id} not found")

/-- The kind of target a stored rule resolves to. -/
def ruleKind (db : Database) (target : RoutingTarget) : AllowedTargetKind :=
  (AllowedTargetKind.ofTarget (resolveTarget db.defaultPolicy target)).getD .direct

def currentRuleKind (db : Database) (device : Device) : Option AllowedTargetKind :=
  device.rule.map (ruleKind db)

def assertMembersConform (db : Database) (zoneId : Uuid)
    (allowed : List AllowedTargetKind) : Except AppError Unit :=
  (db.devices.filter fun device => device.zoneId = zoneId).forM fun device =>
    match currentRuleKind db device with
    | none => .ok ()
    | some kind =>
      let id := device.id
      let shown := kind.asStr
      ensure (allowed.contains kind) (.conflict
        (s!"cannot narrow allowed_targets: device {id} has a '{shown}' " ++
          "rule the new set forbids; change or clear its rule first"))

structure CreateNetworkZoneRequest where
  name : Text
  isolationStance : ZoneStance
  allowedTargets : List AllowedTargetKind
  memberIsolation : Bool
  subnet : Option Ipv4Network
  adminUiReachable : Bool
  deriving DecidableEq

def CreateNetworkZoneRequest.zone (req : CreateNetworkZoneRequest) (id : Uuid) : NetworkZone where
  id := id
  name := req.name
  provenance := .manual
  isolationStance := req.isolationStance
  allowedTargets := req.allowedTargets
  memberIsolation := req.memberIsolation
  subnet := req.subnet
  adminUiReachable := req.adminUiReachable
  isDefault := false
  isDefaultForNew := false

def createZone (db : Database) (id : Uuid) (req : CreateNetworkZoneRequest) :
    Outcome := do
  validateTargetsAndSubnet req.allowedTargets req.subnet
  ensureNameAvailable db req.name none
  return ({ db with zones := db.zones ++ [req.zone id] }, some (.networkZoneChanged id))

structure UpdateNetworkZoneRequest where
  name : Option Text
  isolationStance : Option ZoneStance
  allowedTargets : Option (List AllowedTargetKind)
  memberIsolation : Option Bool
  subnet : Option (Option Ipv4Network)
  adminUiReachable : Option Bool
  isDefault : Option Bool
  isDefaultForNew : Option Bool
  deriving DecidableEq

/-- The zone with the fields of the request that are given. -/
def NetworkZone.patch (zone : NetworkZone) (req : UpdateNetworkZoneRequest) : NetworkZone :=
  { zone with
    name := req.name.getD zone.name
    isolationStance := req.isolationStance.getD zone.isolationStance
    allowedTargets := req.allowedTargets.getD zone.allowedTargets
    memberIsolation := req.memberIsolation.getD zone.memberIsolation
    adminUiReachable := req.adminUiReachable.getD zone.adminUiReachable
    subnet := req.subnet.getD zone.subnet }

/-- `set_default` of the repository: the flag moves to the zone. -/
def promoteDefault (zones : List NetworkZone) (id : Uuid) : List NetworkZone :=
  zones.map fun zone => { zone with isDefault := zone.id = id }

/-- `set_default_for_new` of the repository. -/
def promoteDefaultForNew (zones : List NetworkZone) (id : Uuid) : List NetworkZone :=
  zones.map fun zone => { zone with isDefaultForNew := zone.id = id }

def ensureRenamed (db : Database) (old : NetworkZone) (name : Option Text) : Except AppError Unit :=
  match name with
  | some name =>
    if name ≠ old.name then ensureNameAvailable db name (some old.id)
    else .ok ()
  | none => .ok ()

/-- A changed set of targets must permit the rules of the members. -/
def ensureTargetsConform (db : Database) (zone : NetworkZone)
    (changed : Bool) : Except AppError Unit :=
  if changed then assertMembersConform db zone.id zone.allowedTargets
  else .ok ()

def updateZone (db : Database) (id : Uuid) (req : UpdateNetworkZoneRequest) :
    Outcome := do
  ensure (req.isDefault ≠ some false ∧ req.isDefaultForNew ≠ some false)
    (.badRequest ("default flags cannot be cleared directly; " ++ "promote another zone instead"))
  let old ← requireZone db id
  ensureRenamed db old req.name
  let zone := old.patch req
  validateTargetsAndSubnet zone.allowedTargets zone.subnet
  ensureTargetsConform db zone req.allowedTargets.isSome
  let updated := Table.update NetworkZone.id db.zones id fun _ => zone
  let promoted := if req.isDefault = some true then promoteDefault updated id else updated
  let zones :=
    if req.isDefaultForNew = some true then promoteDefaultForNew promoted id
    else promoted
  return ({ db with zones := zones }, some (.networkZoneChanged id))

def deleteZone (db : Database) (id : Uuid) : Outcome := do
  let zone ← requireZone db id
  ensure (zone.provenance ≠ .system) (.conflict "system zones cannot be deleted")
  ensure (zone.isDefault = false) (.conflict "the default (anchor) zone cannot be deleted")
  ensure (zone.isDefaultForNew = false)
    (.conflict ("the default-for-new zone cannot be deleted; " ++ "promote another zone first"))
  let members := db.devices.countP fun device => device.zoneId = id
  ensure (members = 0) (.conflict
    s!"zone still has {members} member device(s); reassign them first")
  return ({ db with zones := Table.delete NetworkZone.id db.zones id },
    some (.networkZoneChanged id))

/-- The rule of a device must be permitted by the zone it moves to. -/
def ensureRulePermitted (db : Database) (device : Device)
    (zone : NetworkZone) : Except AppError Unit :=
  match currentRuleKind db device with
  | none => .ok ()
  | some kind =>
    let shown := kind.asStr
    let name := String.ofList zone.name
    ensure (zone.permitsKind kind) (.conflict
      (s!"device's current routing target '{shown}' is not permitted " ++
        s!"by zone '{name}'; change or clear its rule first"))

def assignDevice (db : Database) (deviceId zoneId : Uuid) : Outcome := do
  let device ← require (db.findDevice deviceId) (.notFound s!"device {deviceId} not found")
  let zone ← requireZone db zoneId
  if device.zoneId = zoneId then return (db, none)
  else
    ensureRulePermitted db device zone
    return ({ db with
        devices := Table.update Device.id db.devices deviceId fun device =>
          { device with zoneId := zoneId } },
      some (.deviceZoneChanged deviceId device.zoneId zoneId))

/-! ## Exceptions -/

def assertEndpointExists (db : Database) : ExceptionEndpoint → Except AppError Unit
  | .device id =>
    ensure (db.findDevice id ≠ none) (.badRequest s!"endpoint device {id} does not exist")
  | .zone id => ensure (db.findZone id ≠ none) (.badRequest s!"endpoint zone {id} does not exist")

def validateService : ServiceSpec → Except AppError Unit
  | .preset _ => .ok ()
  | .ports ports => do
    ensure (ports ≠ []) (.badRequest "custom port list must not be empty")
    ports.forM fun port =>
      let first := port.fromPort.toNat
      let last := port.toPort.toNat
      ensure (1 ≤ port.fromPort ∧ port.fromPort ≤ port.toPort) (.badRequest
        (s!"invalid port range {first}-{last}: " ++ "from must be >= 1 and <= to"))

def ExceptionEndpoint.isDevice : ExceptionEndpoint → Bool
  | .device _ => true
  | .zone _ => false

def validateException (db : Database) (fromEnd toEnd : ExceptionEndpoint)
    (service : ServiceSpec) : Except AppError Unit := do
  ensure (fromEnd ≠ toEnd) (.badRequest "an exception's from and to endpoints must differ")
  let wideOpen := service.resolvePorts.any fun port => port.fromPort ≤ 1 && port.toPort == 65535
  ensure (wideOpen = true → fromEnd.isDevice ∧ toEnd.isDevice) (.badRequest
    ("a full-range (all-ports) exception requires device-to-device " ++ "endpoints"))
  assertEndpointExists db fromEnd
  assertEndpointExists db toEnd
  validateService service

structure ZoneExceptionRequest where
  fromEnd : ExceptionEndpoint
  toEnd : ExceptionEndpoint
  service : ServiceSpec
  bidirectional : Bool
  deriving DecidableEq

def createException (db : Database) (id : Uuid) (req : ZoneExceptionRequest) :
    Outcome := do
  validateException db req.fromEnd req.toEnd req.service
  let exception : ZoneException := ⟨id, req.fromEnd, req.toEnd, req.service, req.bidirectional⟩
  return ({ db with exceptions := db.exceptions ++ [exception] }, some .zoneExceptionsChanged)

structure UpdateZoneExceptionRequest where
  fromEnd : Option ExceptionEndpoint
  toEnd : Option ExceptionEndpoint
  service : Option ServiceSpec
  bidirectional : Option Bool
  deriving DecidableEq

def requireException (db : Database) (id : Uuid) : Except AppError ZoneException :=
  require (db.findException id) (.notFound s!"zone exception {id} not found")

def updateException (db : Database) (id : Uuid) (req : UpdateZoneExceptionRequest) : Outcome := do
  let old ← requireException db id
  let exception : ZoneException :=
    { old with
      fromEnd := req.fromEnd.getD old.fromEnd
      toEnd := req.toEnd.getD old.toEnd
      service := req.service.getD old.service
      bidirectional := req.bidirectional.getD old.bidirectional }
  validateException db exception.fromEnd exception.toEnd exception.service
  return ({ db with
      exceptions := Table.update ZoneException.id db.exceptions id
        fun _ => exception }, some .zoneExceptionsChanged)

def deleteException (db : Database) (id : Uuid) : Outcome := do
  let _ ← requireException db id
  return ({ db with
      exceptions := Table.delete ZoneException.id db.exceptions id }, some .zoneExceptionsChanged)

/-! ## Sequences of operations -/

inductive Operation
  | createZone (id : Uuid) (req : CreateNetworkZoneRequest)
  | updateZone (id : Uuid) (req : UpdateNetworkZoneRequest)
  | deleteZone (id : Uuid)
  | assignDevice (deviceId zoneId : Uuid)
  | createException (id : Uuid) (req : ZoneExceptionRequest)
  | updateException (id : Uuid) (req : UpdateZoneExceptionRequest)
  | deleteException (id : Uuid)
  deriving DecidableEq

def perform (db : Database) : Operation → Outcome
  | .createZone id req => createZone db id req
  | .updateZone id req => updateZone db id req
  | .deleteZone id => deleteZone db id
  | .assignDevice deviceId zoneId => assignDevice db deviceId zoneId
  | .createException id req => createException db id req
  | .updateException id req => updateException db id req
  | .deleteException id => deleteException db id

/-- A new row gets an id that no row of its table has. -/
def Operation.Fresh (db : Database) : Operation → Prop
  | .createZone id _ => db.findZone id = none
  | .createException id _ => db.findException id = none
  | _ => True

instance (db : Database) (operation) : Decidable (Operation.Fresh db operation) := by
  cases operation <;> delta Operation.Fresh <;> infer_instance

/-- An accepted operation: the database after it and its event. -/
def accept (db : Database) (operation : Operation) : Option (Database × Option ZoneEvent) :=
  if operation.Fresh db then (perform db operation).toOption else none

def change (db : Database) (operation : Operation) : Option Database :=
  (accept db operation).map Prod.fst

/-- A zone of the migration that introduces zones. -/
def seedZone (id : Uuid) (name : String) (adminUiReachable isDefault
    isDefaultForNew : Bool) : NetworkZone where
  id := id
  name := name.toList
  provenance := .system
  isolationStance := .sharedSubnet
  allowedTargets := [.direct, .tunnel]
  memberIsolation := false
  subnet := none
  adminUiReachable := adminUiReachable
  isDefault := isDefault
  isDefaultForNew := isDefaultForNew

def seedZones : List NetworkZone :=
  [seedZone 0x201 "Trusted" true true false, seedZone 0x202 "IoT" false false false,
    seedZone 0x203 "Guest" true false true]

def Database.seeded (devices : List Device) (defaultPolicy : Option Uuid) : Database where
  zones := seedZones
  exceptions := []
  devices := devices
  defaultPolicy := defaultPolicy

/-! ## What accepted operations do -/

variable {db after : Database} {event : Option ZoneEvent}

theorem validateTargetsAndSubnet_ok
    {allowedTargets : List AllowedTargetKind} {subnet : Option Ipv4Network}
    (hvalid : validateTargetsAndSubnet allowedTargets subnet = .ok ()) :
    ∀ net ∈ subnet, isRfc1918Subnet net = true ∧ poolBounds net ≠ none := by
  simp only [validateTargetsAndSubnet, bind_eq_ok, ensure_eq_ok] at hvalid
  obtain ⟨_, -, hsubnet⟩ := hvalid
  cases subnet with
  | none => simp
  | some net =>
    simp only [bind_eq_ok, ensure_eq_ok] at hsubnet
    obtain ⟨_, hprivate, hpool⟩ := hsubnet
    simpa using ⟨hprivate, hpool⟩

/-- The two zones differ in the default flags only. -/
structure NetworkZone.UpToFlags (left right : NetworkZone) : Prop where
  id : left.id = right.id
  name : left.name = right.name
  isolationStance : left.isolationStance = right.isolationStance
  allowedTargets : left.allowedTargets = right.allowedTargets
  memberIsolation : left.memberIsolation = right.memberIsolation
  subnet : left.subnet = right.subnet
  adminUiReachable : left.adminUiReachable = right.adminUiReachable
  provenance : left.provenance = right.provenance

variable {req : UpdateNetworkZoneRequest}

/-- An update rewrites one zone and may move the default flags. -/
theorem updateZone_ok {id : Uuid} (hok : updateZone db id req = .ok (after, event)) :
    ∃ old change, db.findZone id = some old ∧
      (∀ net ∈ (old.patch req).subnet, isRfc1918Subnet net = true ∧ poolBounds net ≠ none) ∧
      ensureTargetsConform db (old.patch req) req.allowedTargets.isSome = .ok () ∧
      after = { db with zones := db.zones.map change } ∧
      (∀ zone : NetworkZone, (change zone).UpToFlags
        (if zone.id = id then old.patch req else zone)) ∧
      event = some (.networkZoneChanged id) := by
  simp only [updateZone, bind_eq_ok, pure_eq_ok, ensure_eq_ok, requireZone,
    require_eq_ok, mk.injEq] at hok
  obtain ⟨_, -, old, hold, _, -, _, hvalid, _, hconform, hafter, hevent⟩ := hok
  let rewrite (zone : NetworkZone) : NetworkZone := if zone.id = id then old.patch req else zone
  let promote (zone : NetworkZone) : NetworkZone :=
    if req.isDefault = some true then { zone with isDefault := zone.id = id } else zone
  let promoteForNew (zone : NetworkZone) : NetworkZone :=
    if req.isDefaultForNew = some true then { zone with isDefaultForNew := zone.id = id } else zone
  refine ⟨old, promoteForNew ∘ promote ∘ rewrite, hold,
    validateTargetsAndSubnet_ok hvalid, hconform, ?_, ?_, hevent.symm⟩
  · rw [← hafter]
    by_cases hdefault : req.isDefault = some true <;>
      by_cases hnew : req.isDefaultForNew = some true <;>
      simp [hdefault, hnew, promote, promoteForNew, rewrite, promoteDefault,
        promoteDefaultForNew, update, Function.comp_def]
  · intro zone
    have hflags : ∀ zone, (promoteForNew (promote zone)).UpToFlags zone := by
      intro zone
      simp only [promoteForNew, promote]
      split <;> split <;> exact ⟨rfl, rfl, rfl, rfl, rfl, rfl, rfl, rfl⟩
    exact hflags (rewrite zone)

section

variable {change : NetworkZone → NetworkZone} {old : NetworkZone}
variable (hchange : ∀ zone : NetworkZone,
  (change zone).UpToFlags (if zone.id = old.id then old.patch req else zone))
include hchange

theorem id_of_rewritten (zone : NetworkZone) : (change zone).id = zone.id := by
  rw [(hchange zone).id]
  split
  next hid => exact hid.symm
  · rfl

theorem subnet_of_rewritten (zone : NetworkZone) :
    (change zone).subnet = if zone.id = old.id then (old.patch req).subnet else zone.subnet := by
  rw [(hchange zone).subnet]
  split <;> rfl

end

/-- Every way an accepted operation may change the tables, with what it has
been checked for and the event it publishes. -/
inductive Effect (db : Database) :
    Operation → Database → Option ZoneEvent → Prop
  | createZone (id : Uuid) (req : CreateNetworkZoneRequest) : db.findZone id = none →
      (∀ net ∈ req.subnet, isRfc1918Subnet net = true ∧ poolBounds net ≠ none) →
      Effect db (.createZone id req) { db with zones := db.zones ++ [req.zone id] }
        (some (.networkZoneChanged id))
  | updateZone (old : NetworkZone) (req : UpdateNetworkZoneRequest)
      (change : NetworkZone → NetworkZone) :
      db.findZone old.id = some old →
      (∀ net ∈ (old.patch req).subnet, isRfc1918Subnet net = true ∧ poolBounds net ≠ none) →
      ensureTargetsConform db (old.patch req) req.allowedTargets.isSome = .ok () →
      (∀ zone : NetworkZone, (change zone).UpToFlags
        (if zone.id = old.id then old.patch req else zone)) →
      Effect db (.updateZone old.id req) { db with zones := db.zones.map change }
        (some (.networkZoneChanged old.id))
  | deleteZone (id : Uuid) : (∀ device ∈ db.devices, device.zoneId ≠ id) →
      Effect db (.deleteZone id) { db with zones := Table.delete NetworkZone.id db.zones id }
        (some (.networkZoneChanged id))
  | unmoved (deviceId zoneId : Uuid) : Effect db (.assignDevice deviceId zoneId) db none
  | assignDevice (deviceId zoneId : Uuid) (device : Device) (zone : NetworkZone) :
      db.findDevice deviceId = some device →
      db.findZone zoneId = some zone →
      ensureRulePermitted db device zone = .ok () →
      Effect db (.assignDevice deviceId zoneId)
        { db with
          devices := Table.update Device.id db.devices deviceId
            fun device => { device with zoneId := zoneId } }
        (some (.deviceZoneChanged deviceId device.zoneId zoneId))
  | exceptions (operation : Operation) (exceptions : List ZoneException) :
      Effect db operation { db with exceptions := exceptions } (some .zoneExceptionsChanged)

variable {operation : Operation}

theorem accept_eq_some (haccept : accept db operation = some (after, event)) :
    operation.Fresh db ∧ perform db operation = .ok (after, event) := by
  unfold accept at haccept
  split at haccept
  next hfresh =>
    exact ⟨hfresh, toOption_eq_some.mp haccept⟩
  · cases haccept

theorem effect_of_accept
    (haccept : accept db operation = some (after, event)) : Effect db operation after event := by
  obtain ⟨hfresh, hok⟩ := accept_eq_some haccept
  cases operation with
  | createZone id req =>
    simp only [perform, createZone, bind_eq_ok, pure_eq_ok, mk.injEq] at hok
    obtain ⟨_, hvalid, _, -, rfl, rfl⟩ := hok
    exact .createZone id req hfresh (validateTargetsAndSubnet_ok hvalid)
  | updateZone id req =>
    obtain ⟨old, change, hold, hnet, hconform, rfl, hchange, rfl⟩ := updateZone_ok hok
    obtain ⟨-, rfl⟩ := find_eq_some hold
    exact .updateZone old req change hold hnet hconform hchange
  | deleteZone id =>
    simp only [perform, deleteZone, bind_eq_ok, pure_eq_ok, ensure_eq_ok, requireZone,
      require_eq_ok, mk.injEq] at hok
    obtain ⟨_, -, _, -, _, -, _, -, _, hmembers, rfl, rfl⟩ := hok
    exact .deleteZone id (by simpa [List.countP_eq_zero] using hmembers)
  | assignDevice deviceId zoneId =>
    simp only [perform, assignDevice, bind_eq_ok, requireZone, require_eq_ok] at hok
    obtain ⟨device, hdevice, zone, hzone, hrest⟩ := hok
    split at hrest
    · simp only [pure_eq_ok, mk.injEq] at hrest
      obtain ⟨rfl, rfl⟩ := hrest
      exact .unmoved deviceId zoneId
    · simp only [bind_eq_ok, pure_eq_ok, mk.injEq] at hrest
      obtain ⟨_, hpermitted, rfl, rfl⟩ := hrest
      exact .assignDevice deviceId zoneId device zone hdevice hzone hpermitted
  | createException id req =>
    simp only [perform, createException, bind_eq_ok, pure_eq_ok, mk.injEq] at hok
    obtain ⟨_, -, rfl, rfl⟩ := hok
    exact .exceptions _ _
  | updateException id req =>
    simp only [perform, updateException, bind_eq_ok, pure_eq_ok, mk.injEq] at hok
    obtain ⟨_, -, _, -, rfl, rfl⟩ := hok
    exact .exceptions _ _
  | deleteException id =>
    simp only [perform, deleteException, bind_eq_ok, pure_eq_ok, mk.injEq] at hok
    obtain ⟨_, -, rfl, rfl⟩ := hok
    exact .exceptions _ _

/-! ## Valid catalogs -/

/-- Zone ids are unique, and every subnet is private and large enough for a
DHCP pool. -/
structure ValidZones (zones : List NetworkZone) : Prop where
  ids : (zones.map NetworkZone.id).Nodup
  subnets : ∀ zone ∈ zones, ∀ net ∈ zone.subnet, isRfc1918Subnet net = true ∧ poolBounds net ≠ none

theorem validZones_seedZones : ValidZones seedZones where
  ids := by decide
  subnets := by simp [seedZones, seedZone]

theorem nodup_zoneIds_accept (hids : (db.zones.map NetworkZone.id).Nodup)
    (haccept : accept db operation = some (after, event)) :
    (after.zones.map NetworkZone.id).Nodup := by
  cases effect_of_accept haccept with
  | createZone id req hfresh => exact nodup_append hids (find_eq_none.mp hfresh)
  | updateZone old req change hold _ _ hchange =>
    have hsame : (db.zones.map change).map NetworkZone.id = db.zones.map NetworkZone.id := by
      simp [Function.comp_def, id_of_rewritten hchange]
    exact hsame ▸ hids
  | deleteZone id => exact hids.sublist (List.filter_sublist.map _)
  | unmoved | assignDevice | exceptions => exact hids

theorem ValidZones.accept (hvalid : ValidZones db.zones)
    (haccept : accept db operation = some (after, event)) : ValidZones after.zones := by
  refine ⟨nodup_zoneIds_accept hvalid.ids haccept, ?_⟩
  intro found hfound net hmem
  cases effect_of_accept haccept with
  | createZone id req _ hnet =>
    rcases List.mem_append.mp hfound with hold | hnew
    · exact hvalid.subnets found hold net hmem
    · rw [List.mem_singleton.mp hnew] at hmem
      exact hnet net hmem
  | updateZone old req change _ hnet _ hchange =>
    obtain ⟨zone, hzone, rfl⟩ := List.mem_map.mp hfound
    rw [subnet_of_rewritten hchange] at hmem
    split at hmem
    · exact hnet net hmem
    · exact hvalid.subnets zone hzone net hmem
  | deleteZone id => exact hvalid.subnets found (List.mem_of_mem_filter hfound) net hmem
  | unmoved | assignDevice | exceptions => exact hvalid.subnets found hfound net hmem

/-- The primary keys, and the reference of a device to its zone. -/
structure Database.Keyed (db : Database) : Prop where
  zoneIds : (db.zones.map NetworkZone.id).Nodup
  devices : (db.devices.map Device.id).Nodup
  zones : ∀ device ∈ db.devices, ∃ zone, db.findZone device.zoneId = some zone

theorem findZone_append {db : Database} {zone : NetworkZone}
    (hfresh : db.findZone zone.id = none) (id : Uuid) :
    Table.find NetworkZone.id (db.zones ++ [zone]) id =
      if id = zone.id then some zone else db.findZone id :=
  find_append (find_eq_none.mp hfresh) id

theorem Database.Keyed.accept (hkeyed : db.Keyed)
    (haccept : accept db operation = some (after, event)) : after.Keyed := by
  have hzoneIds := nodup_zoneIds_accept hkeyed.zoneIds haccept
  cases effect_of_accept haccept with
  | createZone id req hfresh =>
    have hnone : db.findZone (req.zone id).id = none := hfresh
    refine ⟨hzoneIds, hkeyed.devices, ?_⟩
    intro device hdevice
    rw [Database.findZone, findZone_append hnone]
    split
    · exact ⟨_, rfl⟩
    · exact hkeyed.zones device hdevice
  | updateZone old req change _ _ _ hchange =>
    refine ⟨hzoneIds, hkeyed.devices, ?_⟩
    intro device hdevice
    obtain ⟨zone, hzone⟩ := hkeyed.zones device hdevice
    refine ⟨change zone, ?_⟩
    rw [Database.findZone, find_map (id_of_rewritten hchange)]
    exact congrArg (Option.map change) hzone
  | deleteZone id hmembers =>
    refine ⟨hzoneIds, hkeyed.devices, ?_⟩
    intro device hdevice
    rw [Database.findZone, find_delete, if_neg (hmembers device hdevice)]
    exact hkeyed.zones device hdevice
  | unmoved => exact hkeyed
  | assignDevice deviceId zoneId device zone _ hzone =>
    refine ⟨hzoneIds, nodup_update (fun _ => rfl) hkeyed.devices, ?_⟩
    intro device hdevice
    rcases mem_update.mp hdevice with ⟨hold, -⟩ | ⟨old, -, -, rfl⟩
    · exact hkeyed.zones device hold
    · exact ⟨zone, hzone⟩
  | exceptions => exact ⟨hzoneIds, hkeyed.devices, hkeyed.zones⟩

end Wardnet.Zone
