import Mathlib.Data.List.MinMax
import Wardnet.Common.Auth
import Wardnet.Core.Keyed
import Wardnet.Core.Monitor
import Wardnet.Core.Transition
import Wardnet.Zone.Catalog

/-!
# Managed devices and retention

The calls with which an admin configures a device, statement by statement, and
the retention job that deletes devices nobody has seen for thirty days.  The
job spares a device whose `managed` flag is set, and each call sets the flag by
a statement of its own after its write.

The rows of a rule do not record its author, so the author is kept beside the
stored columns, and so is what a deleted device had.  Times are in seconds,
new identifiers are inputs, and published events and the in-memory view of the
routing profiles are left out.
-/

namespace Wardnet.Retention

open Net (Ipv4Addr)
open Routing (RoutingTarget)
open Zone (AllowedTargetKind ExceptionEndpoint NetworkZone ServiceSpec
  UpdateZoneExceptionRequest ZoneException ZoneExceptionRequest)

/-! ## The database -/

structure Device where
  id : Uuid
  mac : Text
  lastIp : Option Ipv4Addr
  zoneId : Uuid
  adminLocked : Bool
  dnsCaptureEnabled : Bool
  dnsCaptureCapCount : ℤ
  dnsCaptureCapDays : ℤ
  managed : Bool
  lastSeen : ℕ
  deriving DecidableEq

inductive RuleCreator
  | admin
  | user
  deriving DecidableEq

structure RoutingRule where
  deviceId : Uuid
  target : RoutingTarget
  /-- Who wrote the target; the column `created_by` is always `user`. -/
  changedBy : RuleCreator
  deriving DecidableEq

/-- A row of `routing_device_profile`. -/
structure ProfileAssignment where
  deviceId : Uuid
  profileId : Uuid
  position : ℕ
  deriving DecidableEq

/-- The devices an exception names. -/
def deviceIds (exception : ZoneException) : List Uuid :=
  [exception.fromEnd, exception.toEnd].filterMap fun
    | .device id => some id
    | .zone _ => none

/-- A deleted device with what referred to it when it was deleted. -/
structure PrunedDevice where
  device : Device
  rule : Option RoutingRule
  assignments : List ProfileAssignment
  exceptions : List ZoneException
  deriving DecidableEq

structure Store where
  devices : Keyed Device.id
  rules : Keyed RoutingRule.deviceId
  assignments : List ProfileAssignment
  profiles : List Uuid
  zones : List NetworkZone
  exceptions : Keyed ZoneException.id
  defaultPolicy : Option Uuid
  pruned : List PrunedDevice

namespace Store

def findZone (store : Store) (id : Uuid) : Option NetworkZone :=
  Table.find NetworkZone.id store.zones id

/-- `find_by_ip`: the device last seen with the address. -/
def findByIp (store : Store) (ip : Ipv4Addr) : Option Device :=
  (store.devices.rows.filter (·.lastIp = some ip)).argmax Device.lastSeen

/-- Change the columns of a device other than its identifier. -/
def updateDevice (store : Store) (id : Uuid) (change : Device → Device)
    (hid : ∀ device, (change device).id = device.id) : Store :=
  { store with devices := store.devices.update id change hid }

/-- `upsert_user_rule`, which the foreign key refuses for an unknown device. -/
def upsertUserRule (store : Store) (rule : RoutingRule) : Option Store :=
  if (store.devices.find rule.deviceId).isSome then
    some { store with
      rules := (store.rules.insert rule).getD (store.rules.update rule.deviceId
          (fun old => { old with
            target := rule.target
            changedBy := rule.changedBy })
          fun _ => rfl) }
  else none

/-- The transaction of `set_device_profiles`, with its keys. -/
def setDeviceProfiles (store : Store) (id : Uuid) (profiles : List Uuid) : Option Store :=
  if (profiles ≠ [] → (store.devices.find id).isSome) ∧
      (∀ profile ∈ profiles, profile ∈ store.profiles) ∧ profiles.Nodup then
    some { store with
      assignments := store.assignments.filter (·.deviceId ≠ id) ++
        profiles.zipIdx.map fun (profile, position) => ⟨id, profile, position⟩ }
  else none

end Store

/-! ## Statements -/

inductive Op
  | findDevice (id : Uuid)
  | findByIp (ip : Ipv4Addr)
  | findRule (id : Uuid)
  | findZone (id : Uuid)
  | getDefaultPolicy
  | getProfile (id : Uuid)
  | findException (id : Uuid)
  | listDeviceAssignments
  | upsertUserRule (id : Uuid) (target : RoutingTarget) (changedBy : RuleCreator)
  | updateAdminLocked (id : Uuid) (locked : Bool)
  | updateDnsCaptureSettings (id : Uuid) (enabled : Option Bool) (capCount capDays : Option ℤ)
  | assignZone (id zoneId : Uuid)
  | setDeviceProfiles (id : Uuid) (profiles : List Uuid)
  | insertException (exception : ZoneException)
  | updateException (exception : ZoneException)
  | setManaged (id : Uuid)

@[reducible]
def Value : Op → Type
  | .findDevice _ | .findByIp _ => Option Device
  | .findRule _ => Option RoutingRule
  | .findZone _ => Option NetworkZone
  | .getDefaultPolicy => Option Uuid
  | .getProfile _ | .updateDnsCaptureSettings .. | .assignZone .. => Bool
  | .findException _ => Option ZoneException
  | .listDeviceAssignments => List ProfileAssignment
  | _ => Unit

/-- `none` is a failed statement. -/
abbrev Answer (op : Op) : Type := Option (Value op)

/-- What a statement answers and leaves when the database does not fail. -/
def perform (op : Op) (store : Store) : Answer op × Store :=
  match op with
  | .findDevice id => (some (store.devices.find id), store)
  | .findByIp ip => (some (store.findByIp ip), store)
  | .findRule id => (some (store.rules.find id), store)
  | .findZone id => (some (store.findZone id), store)
  | .getDefaultPolicy => (some store.defaultPolicy, store)
  | .getProfile id => (some (id ∈ store.profiles), store)
  | .findException id => (some (store.exceptions.find id), store)
  | .listDeviceAssignments => (some store.assignments, store)
  | .upsertUserRule id target changedBy =>
    match store.upsertUserRule ⟨id, target, changedBy⟩ with
    | some after => (some (), after)
    | none => (none, store)
  | .updateAdminLocked id locked =>
    (some (), store.updateDevice id
      (fun device => { device with adminLocked := locked }) fun _ => rfl)
  | .updateDnsCaptureSettings id enabled capCount capDays =>
    (some (store.devices.find id).isSome, store.updateDevice id (fun device => { device with
        dnsCaptureEnabled := enabled.getD device.dnsCaptureEnabled
        dnsCaptureCapCount := capCount.getD device.dnsCaptureCapCount
        dnsCaptureCapDays := capDays.getD device.dnsCaptureCapDays }) fun _ => rfl)
  | .assignZone id zoneId =>
    if (store.devices.find id).isSome ∧ store.findZone zoneId = none then (none, store)
    else
      (some (store.devices.find id).isSome, store.updateDevice id
        (fun device => { device with zoneId := zoneId }) fun _ => rfl)
  | .setDeviceProfiles id profiles =>
    match store.setDeviceProfiles id profiles with
    | some after => (some (), after)
    | none => (none, store)
  | .insertException exception =>
    match store.exceptions.insert exception with
    | some exceptions => (some (), { store with exceptions := exceptions })
    | none => (none, store)
  | .updateException exception =>
    (some (), { store with
      exceptions := store.exceptions.update exception.id
        (fun old => { exception with id := old.id }) fun _ => rfl })
  | .setManaged id =>
    (some (), store.updateDevice id (fun device => { device with managed := true }) fun _ => rfl)

def exec (fault : Bool) (op : Op) (store : Store) : Option (Answer op × Store) :=
  some (if fault then (none, store) else perform op store)

/-! ## The services -/

abbrev Action (Result : Type) := Program Op Answer AppError Result

open Program (fail ofExcept)

/-- One statement with `map_err(AppError::Internal)?`. -/
def statement (op : Op) : Action (Value op) := do
  match ← (Program.perform op : Action (Answer op)) with
  | some value => pure value
  | none => fail .internal

def checkDeviceMutationAuth (caller : AuthContext) (mac : Text)
    (adminLocked : Bool) : Except AppError Unit :=
  match caller with
  | .user _ .admin => .ok ()
  | .device callerMac =>
    if callerMac = mac then
      ensure (adminLocked = false) (.forbidden "routing is locked by admin for this device")
    else .error (.forbidden "not authorised to modify this device")
  | .user _ .member | .anonymous => .error (.forbidden "not authorised to modify this device")

def resolveTargetKind (target : RoutingTarget) : Action AllowedTargetKind := do
  match AllowedTargetKind.ofTarget target with
  | some kind => pure kind
  | none =>
    let policy ← statement .getDefaultPolicy
    pure ((AllowedTargetKind.ofTarget (Routing.resolveTarget policy .default)).getD .direct)

def validateTargetAgainstZone (device : Device) (target : RoutingTarget) : Action Unit := do
  let kind ← resolveTargetKind target
  match ← statement (.findZone device.zoneId) with
  | none => fail .internal
  | some zone =>
    let shown := kind.asStr
    let name := String.ofList zone.name
    ofExcept (ensure (zone.permitsKind kind) (.conflict
      s!"routing target '{shown}' is not permitted by this device's zone '{name}'"))

def changedBy (caller : AuthContext) : RuleCreator := if caller.isAdmin then .admin else .user

/-- What `set_rule` and `set_rule_for_ip` do with the device they have
found, under the identifier each of them writes to. -/
def writeRule (caller : AuthContext) (device : Device) (id : Uuid)
    (target : RoutingTarget) : Action Unit := do
  ofExcept (checkDeviceMutationAuth caller device.mac device.adminLocked)
  validateTargetAgainstZone device target
  let _previous ← statement (.findRule device.id)
  let _ ← statement (.upsertUserRule id target (changedBy caller))
  pure ()

structure SetMyRuleResponse where
  message : String
  target : RoutingTarget
  deriving DecidableEq

/-- `set_rule_for_ip`, which leaves the flag of the device alone. -/
def setRuleForIp (caller : AuthContext) (ip : Ipv4Addr)
    (target : RoutingTarget) : Action SetMyRuleResponse := do
  match ← statement (.findByIp ip) with
  | none => fail (.notFound "device not found for this IP")
  | some device =>
    writeRule caller device device.id target
    pure ⟨"routing rule updated", target⟩

def setRule (caller : AuthContext) (id : Uuid) (target : RoutingTarget) : Action Unit := do
  match ← statement (.findDevice id) with
  | none => fail (.notFound "device not found")
  | some device =>
    writeRule caller device id target
    if changedBy caller = .admin then
      let _ ← statement (.setManaged id)
      pure ()
    else pure ()

def updateAdminLocked (caller : AuthContext) (id : Uuid) (locked : Bool) : Action Unit := do
  ofExcept (requireAdmin caller)
  let _ ← statement (.updateAdminLocked id locked)
  if locked then
    let _ ← statement (.setManaged id)
    pure ()
  else pure ()

/-- Whether capture is on after a change that may leave it as it is. -/
def captureNowEnabled (id : Uuid) : Option Bool → Action Bool
  | some enabled => pure enabled
  | none => do
    let device ← statement (.findDevice id)
    pure (device.any (·.dnsCaptureEnabled))

def updateDnsCaptureSettings (caller : AuthContext) (id : Uuid)
    (enabled : Option Bool) (capCount capDays : Option ℤ) : Action Unit := do
  ofExcept (requireAdmin caller)
  let found ← statement (.updateDnsCaptureSettings id enabled capCount capDays)
  ofExcept (ensure (found = true) (.notFound "device not found"))
  if ← captureNowEnabled id enabled then
    let _ ← statement (.setManaged id)
    pure ()
  else pure ()

def requireZone (id : Uuid) : Action NetworkZone := do
  let zone ← statement (.findZone id)
  ofExcept (require zone (.notFound s!"network zone {id} not found"))

def currentRuleKind (id : Uuid) : Action (Option AllowedTargetKind) := do
  match ← statement (.findRule id) with
  | none => pure none
  | some rule =>
    match rule.target with
    | .default =>
      let policy ← statement .getDefaultPolicy
      pure (some ((AllowedTargetKind.ofTarget
        (Routing.resolveTarget policy .default)).getD .direct))
    | target => pure (some ((AllowedTargetKind.ofTarget target).getD .direct))

def assignDevice (caller : AuthContext) (deviceId zoneId : Uuid) : Action Unit := do
  ofExcept (requireAdmin caller)
  let device ← ofExcept (require (← statement (.findDevice deviceId))
    (.notFound s!"device {deviceId} not found"))
  let zone ← requireZone zoneId
  if device.zoneId = zoneId then pure ()
  else
    let kind ← currentRuleKind deviceId
    let shown := (kind.map AllowedTargetKind.asStr).getD ""
    let name := String.ofList zone.name
    ofExcept (ensure (∀ current ∈ kind, zone.permitsKind current) (.conflict
      (s!"device's current routing target '{shown}' is not permitted " ++
        s!"by zone '{name}'; change or clear its rule first")))
    let updated ← statement (.assignZone deviceId zoneId)
    ofExcept (ensure (updated = true) (.notFound s!"device {deviceId} not found"))
    let _ ← statement (.setManaged deviceId)
    pure ()

/-- The checks of `set_device_profiles`, with the profiles seen so far. -/
def checkProfiles (seen : List Uuid) : List Uuid → Action Unit
  | [] => pure ()
  | id :: ids => do
    ofExcept (ensure (id ∉ seen) (.badRequest s!"profile {id} assigned more than once"))
    let known ← statement (.getProfile id)
    ofExcept (ensure (known = true) (.badRequest s!"routing profile {id} does not exist"))
    checkProfiles (id :: seen) ids

/-- `set_device_profiles`, whose last step rebuilds the view from the
assignments. -/
def setDeviceProfiles (caller : AuthContext) (deviceId : Uuid)
    (profiles : List Uuid) : Action Unit := do
  ofExcept (requireAdmin caller)
  checkProfiles [] profiles
  let _ ← statement (.setDeviceProfiles deviceId profiles)
  let _ ← statement (.setManaged deviceId)
  let _ ← statement .listDeviceAssignments
  pure ()

def assertEndpointExists : ExceptionEndpoint → Action Unit
  | .device id => do
    let device ← statement (.findDevice id)
    ofExcept (ensure (device.isSome = true) (.badRequest s!"endpoint device {id} does not exist"))
  | .zone id => do
    let zone ← statement (.findZone id)
    ofExcept (ensure (zone.isSome = true) (.badRequest s!"endpoint zone {id} does not exist"))

/-- The first checks of `validate`, which read nothing. -/
def validateShape (fromEnd toEnd : ExceptionEndpoint)
    (service : ServiceSpec) : Except AppError Unit := do
  ensure (fromEnd ≠ toEnd) (.badRequest "an exception's from and to endpoints must differ")
  let wideOpen := service.resolvePorts.any fun port => port.fromPort ≤ 1 && port.toPort == 65535
  ensure (wideOpen = true → fromEnd.isDevice ∧ toEnd.isDevice) (.badRequest
    ("a full-range (all-ports) exception requires device-to-device " ++ "endpoints"))

def validate (exception : ZoneException) : Action Unit := do
  ofExcept (validateShape exception.fromEnd exception.toEnd exception.service)
  assertEndpointExists exception.fromEnd
  assertEndpointExists exception.toEnd
  ofExcept (Zone.validateService exception.service)

/-- Set the flag of each of the devices in turn. -/
def promoteAll : List Uuid → Action Unit
  | [] => pure ()
  | id :: ids => do
    let _ ← statement (.setManaged id)
    promoteAll ids

/-- The row that `create_exception` inserts. -/
def newException (id : Uuid) (req : ZoneExceptionRequest) : ZoneException :=
  ⟨id, req.fromEnd, req.toEnd, req.service, req.bidirectional⟩

def createException (caller : AuthContext) (id : Uuid)
    (req : ZoneExceptionRequest) : Action ZoneException := do
  ofExcept (requireAdmin caller)
  validate (newException id req)
  let _ ← statement (.insertException (newException id req))
  promoteAll (deviceIds (newException id req))
  pure (newException id req)

/-- `update_exception`, which leaves the flags of its devices alone. -/
def updateException (caller : AuthContext) (id : Uuid)
    (req : UpdateZoneExceptionRequest) : Action ZoneException := do
  ofExcept (requireAdmin caller)
  let old ← ofExcept (require (← statement (.findException id))
    (.notFound s!"zone exception {id} not found"))
  let exception : ZoneException :=
    { old with
      fromEnd := req.fromEnd.getD old.fromEnd
      toEnd := req.toEnd.getD old.toEnd
      service := req.service.getD old.service
      bidirectional := req.bidirectional.getD old.bidirectional }
  validate exception
  let _ ← statement (.updateException exception)
  pure exception

/-! ## Retention -/

/-- `DEVICE_RETENTION_DAYS`, in seconds. -/
def retention : ℕ := 30 * 86400

def Device.expired (device : Device) (now : ℕ) : Bool :=
  !device.managed && device.lastSeen + retention < now

namespace Store

/-- A device about to be deleted, with what refers to it. -/
def snapshot (store : Store) (device : Device) : PrunedDevice where
  device := device
  rule := store.rules.find device.id
  assignments := store.assignments.filter (·.deviceId = device.id)
  exceptions := store.exceptions.rows.filter (device.id ∈ deviceIds ·)

def expired (store : Store) (now : ℕ) : List Device := store.devices.rows.filter (·.expired now)

/-- `delete_unmanaged_before`: the rules and profiles of a device go with it,
exceptions have no foreign key. -/
def prune (store : Store) (now : ℕ) : Store :=
  let gone := (store.expired now).map Device.id
  { store with
    devices := store.devices.deleteWhere (·.expired now)
    rules := store.rules.deleteWhere (·.deviceId ∈ gone)
    assignments := store.assignments.filter (·.deviceId ∉ gone)
    pruned := (store.expired now).map store.snapshot ++ store.pruned }

/-- A device seen for the first time, under an identifier that never was in
use. -/
def discover (store : Store) (id : Uuid) (mac : Text) (ip : Ipv4Addr)
    (zoneId : Uuid) (now : ℕ) : Option Store :=
  if id ∈ store.pruned.map (·.device.id) then none
  else
    (store.devices.insert
      { id := id
        mac := mac
        lastIp := some ip
        zoneId := zoneId
        adminLocked := false
        dnsCaptureEnabled := false
        dnsCaptureCapCount := 1000
        dnsCaptureCapDays := 7
        managed := false
        lastSeen := now }).map fun devices =>
      { store with devices := devices }

/-- `update_last_seen_and_ip`. -/
def observe (store : Store) (id : Uuid) (ip : Ipv4Addr) (now : ℕ) : Store :=
  store.updateDevice id (fun device => { device with lastIp := some ip, lastSeen := now })
    fun _ => rfl

end Store

/-! ## Calls -/

inductive Request
  | setRuleForIp (caller : AuthContext) (ip : Ipv4Addr) (target : RoutingTarget)
  | setRule (caller : AuthContext) (id : Uuid) (target : RoutingTarget)
  | updateAdminLocked (caller : AuthContext) (id : Uuid) (locked : Bool)
  | updateDnsCaptureSettings (caller : AuthContext) (id : Uuid)
      (enabled : Option Bool) (capCount capDays : Option ℤ)
  | assignDevice (caller : AuthContext) (deviceId zoneId : Uuid)
  | setDeviceProfiles (caller : AuthContext) (deviceId : Uuid) (profiles : List Uuid)
  | createException (caller : AuthContext) (id : Uuid) (req : ZoneExceptionRequest)
  | updateException (caller : AuthContext) (id : Uuid) (req : UpdateZoneExceptionRequest)
  deriving DecidableEq

inductive Response
  | rule (response : SetMyRuleResponse)
  | exception (exception : ZoneException)
  | done
  deriving DecidableEq

def Request.program : Request → Action Response
  | .setRuleForIp caller ip target => return .rule (← Retention.setRuleForIp caller ip target)
  | .setRule caller id target => do
    Retention.setRule caller id target
    return .done
  | .updateAdminLocked caller id locked => do
    Retention.updateAdminLocked caller id locked
    return .done
  | .updateDnsCaptureSettings caller id enabled capCount capDays => do
    Retention.updateDnsCaptureSettings caller id enabled capCount capDays
    return .done
  | .assignDevice caller deviceId zoneId => do
    Retention.assignDevice caller deviceId zoneId
    return .done
  | .setDeviceProfiles caller deviceId profiles => do
    Retention.setDeviceProfiles caller deviceId profiles
    return .done
  | .createException caller id req => return .exception (← Retention.createException caller id req)
  | .updateException caller id req => return .exception (← Retention.updateException caller id req)

abbrev Service := Pool Op Answer Store Request AppError Response

/-- A call comes in or takes its next statement, the retention job runs, or a
device is seen. -/
inductive Label
  | start (call : ℕ) (request : Request)
  | step (call : ℕ) (fault : Bool)
  | prune (now : ℕ)
  | discover (id : Uuid) (mac : Text) (ip : Ipv4Addr) (zoneId : Uuid) (now : ℕ)
  | observe (id : Uuid) (ip : Ipv4Addr) (now : ℕ)
  deriving DecidableEq

def next (service : Service) : Label → Option Service
  | .start call request => service.start Request.program call request
  | .step call fault => service.step exec call fault
  | .prune now => some { service with store := service.store.prune now }
  | .discover id mac ip zoneId now =>
    (service.store.discover id mac ip zoneId now).map fun store => { service with store := store }
  | .observe id ip now => some { service with store := service.store.observe id ip now }

end Wardnet.Retention
