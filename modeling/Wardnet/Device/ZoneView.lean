import Wardnet.Core.Sequential
import Wardnet.Device.Managed
import Wardnet.Zone.RuleGate

/-!
# The calls of an admin and the zone catalog

The zone services are modelled twice: statement by statement, beside the
retention job, and as one operation on the tables that zones read.  A call that
nobody disturbs does to those tables what the operation does.
-/

namespace Wardnet.Retention

open Program (alone alone_bind alone_ofExcept alone_perform alone_pure eval_alone ofExcept)
open Routing (RoutingTarget)
open Zone (AllowedTargetKind)

/-! ## The tables that zones read -/

def Store.zoneDevice (store : Store) (device : Device) : Zone.Device where
  id := device.id
  zoneId := device.zoneId
  lastIp := device.lastIp
  rule := (store.rules.find device.id).map RoutingRule.target

def Store.zoneView (store : Store) : Zone.Database where
  zones := store.zones
  exceptions := store.exceptions.rows
  devices := store.devices.rows.map store.zoneDevice
  defaultPolicy := store.defaultPolicy

variable {store : Store} {id : Uuid}

theorem findDevice_zoneView (store : Store) (id : Uuid) :
    store.zoneView.findDevice id = (store.devices.find id).map store.zoneDevice := by
  unfold Store.zoneView Zone.Database.findDevice Keyed.find Table.find
  rw [List.find?_map]
  rfl

theorem rows_updateDevice (change : Device → Device)
    (hid : ∀ device, (change device).id = device.id) :
    (store.updateDevice id change hid).zoneView.devices = store.devices.rows.map fun device =>
      store.zoneDevice (if device.id = id then change device else device) := by
  simp only [Store.updateDevice, Keyed.update, Keyed.updateWhere, Store.zoneView, List.map_map,
    decide_eq_true_eq]
  rfl

/-- The flag is no column that zones read. -/
theorem zoneView_setManaged (store : Store) (id : Uuid) :
    (store.updateDevice id (fun device => { device with managed := true })
      fun _ => rfl).zoneView = store.zoneView := by
  have hdevices : (store.updateDevice id (fun device => { device with managed := true })
      fun _ => rfl).zoneView.devices = store.zoneView.devices := by
    rw [rows_updateDevice]
    refine List.map_congr_left fun device _ => ?_
    split <;> rfl
  exact congrArg (fun devices => { store.zoneView with devices := devices }) hdevices

theorem zoneView_assignZone (store : Store) (id zoneId : Uuid) :
    (store.updateDevice id (fun device => { device with zoneId := zoneId })
      fun _ => rfl).zoneView = { store.zoneView with
        devices := Table.update Zone.Device.id store.zoneView.devices id fun device =>
          { device with zoneId := zoneId } } := by
  have hdevices : (store.updateDevice id (fun device => { device with zoneId := zoneId })
      fun _ => rfl).zoneView.devices =
        Table.update Zone.Device.id store.zoneView.devices id fun device =>
          { device with zoneId := zoneId } := by
    rw [rows_updateDevice, Table.update, Store.zoneView, List.map_map]
    refine List.map_congr_left fun device _ => ?_
    by_cases hid : device.id = id <;> simp [Store.zoneDevice, hid]
  exact congrArg (fun devices => { store.zoneView with devices := devices }) hdevices

/-- Writing a rule changes the rule of its device and of no other one. -/
theorem upsertUserRule_eq_some (target : RoutingTarget)
    (hknown : (store.devices.find id).isSome = true) (changedBy : RuleCreator) :
    ∃ after, store.upsertUserRule ⟨id, target, changedBy⟩ = some after ∧
      after.zoneView = store.zoneView.putRule id (some target) := by
  refine ⟨_, if_pos hknown, ?_⟩
  generalize hrules : ((store.rules.insert ⟨id, target, changedBy⟩).getD
    (store.rules.update id _ _)) = rules
  have hfind : ∀ other, (rules.find other).map RoutingRule.target =
      if other = id then some target else (store.rules.find other).map RoutingRule.target := by
    intro other
    cases hinsert : store.rules.insert ⟨id, target, changedBy⟩ with
    | some inserted =>
      rw [hinsert, Option.getD_some] at hrules
      rw [← hrules, Keyed.find_insert hinsert]
      split <;> rfl
    | none =>
      rw [hinsert, Option.getD_none] at hrules
      have hold : store.rules.find id ≠ none := by
        intro hfresh
        have hinserted : ∃ after, store.rules.insert ⟨id, target, changedBy⟩ = some after ∧ _ :=
          Keyed.insert_of_find_eq_none hfresh
        simp [hinsert] at hinserted
      obtain ⟨old, hold⟩ := Option.ne_none_iff_exists'.mp hold
      rw [← hrules, Keyed.find_update]
      split
      · simp [hold]
      · rfl
  simp only [Store.zoneView, Zone.Database.putRule, Zone.Database.rewriteRules, List.map_map]
  congr 1
  refine List.map_congr_left fun device _ => ?_
  simp only [Store.zoneDevice, Function.comp_apply, hfind]
  rfl

/-! ## Undisturbed statements -/

variable {Result : Type}

/-- What the call leaves of the tables that zones read. -/
def viewed (outcome : Except AppError Result × Store) : Except AppError Zone.Database :=
  outcome.1.map fun _ => outcome.2.zoneView

/-! ## Rules -/

theorem alone_resolveTargetKind (target : RoutingTarget) (store : Store) :
    (resolveTargetKind target).alone perform store =
      (.ok (Zone.ruleKind store.zoneView target), store) := by
  cases target <;> rfl

theorem alone_validateTargetAgainstZone (device : Device) (target : RoutingTarget)
    (store : Store) :
    (validateTargetAgainstZone device target).alone perform store =
      (Zone.validateTargetAgainstZone store.zoneView (store.zoneDevice device) target, store) := by
  simp only [validateTargetAgainstZone, alone_bind, alone_resolveTargetKind, statement,
    alone_perform, perform, alone_pure]
  unfold Zone.validateTargetAgainstZone
  change _ = (require (store.findZone device.zoneId) AppError.internal >>= _, store)
  cases store.findZone device.zoneId with
  | none => rfl
  | some zone => rfl

theorem alone_writeRule {caller : AuthContext} {device : Device}
    (hallowed : checkDeviceMutationAuth caller device.mac device.adminLocked = .ok ())
    (hdevice : store.devices.find device.id = some device) (target : RoutingTarget) :
    ∃ after, after.zoneView = store.zoneView.putRule device.id (some target) ∧
      (writeRule caller device device.id target).alone perform store =
        match Zone.validateTargetAgainstZone store.zoneView (store.zoneDevice device) target with
        | .ok () => (.ok (), after)
        | .error error => (.error error, store) := by
  obtain ⟨after, hupsert, hview⟩ := upsertUserRule_eq_some target
    (Option.isSome_of_eq_some hdevice) (changedBy caller)
  refine ⟨after, hview, ?_⟩
  simp only [writeRule, alone_bind, alone_ofExcept, hallowed, alone_validateTargetAgainstZone]
  cases Zone.validateTargetAgainstZone store.zoneView (store.zoneDevice device) target with
  | error error => rfl
  | ok => simp [statement, perform, hupsert]

/-- The call goes on without a change that zones see. -/
def Unseen (rest : Action Result) : Prop :=
  ∀ store, ∃ result after, rest.alone perform store = (.ok result, after) ∧
    after.zoneView = store.zoneView

theorem viewed_writeRule {caller : AuthContext} {device : Device}
    (hallowed : checkDeviceMutationAuth caller device.mac device.adminLocked = .ok ())
    (hdevice : store.devices.find device.id = some device) (target : RoutingTarget)
    {rest : Action Result} (hrest : Unseen rest) :
    viewed ((writeRule caller device device.id target >>= fun _ => rest).alone perform store) =
      (Zone.validateTargetAgainstZone store.zoneView (store.zoneDevice device) target >>=
        fun _ => pure (store.zoneView.putRule device.id (some target))) := by
  obtain ⟨after, hview, hwrite⟩ := alone_writeRule hallowed hdevice target
  rw [alone_bind, hwrite, ← hview]
  cases Zone.validateTargetAgainstZone store.zoneView (store.zoneDevice device) target with
  | error error => rfl
  | ok =>
    obtain ⟨result, final, hrun, hsame⟩ := hrest after
    simp only [hrun]
    exact congrArg Except.ok hsame

theorem unseen_setManaged (id : Uuid) :
    Unseen (do
      let _ ← statement (.setManaged id)
      pure ()) :=
  fun store => ⟨(), _, rfl, zoneView_setManaged store id⟩

theorem unseen_pure (result : Result) : Unseen (pure result) :=
  fun store => ⟨result, store, rfl, rfl⟩

theorem viewed_setRule {caller : AuthContext} (hallowed : ∀ device ∈ store.devices.find id,
      checkDeviceMutationAuth caller device.mac device.adminLocked = .ok ())
    (target : RoutingTarget) :
    viewed ((setRule caller id target).alone perform store) =
      Zone.setRule store.zoneView id target := by
  unfold Zone.setRule
  rw [findDevice_zoneView]
  simp only [setRule, alone_bind, statement, alone_perform, perform, alone_pure]
  cases hdevice : store.devices.find id with
  | none => rfl
  | some device =>
    obtain rfl := (Keyed.find_eq_some.mp hdevice).2
    apply viewed_writeRule (hallowed device hdevice) hdevice
    split
    · exact unseen_setManaged device.id
    · exact unseen_pure ()

theorem findByIp_eq_some {ip : Net.Ipv4Addr} {device : Device}
    (hfound : store.findByIp ip = some device) :
    store.devices.find device.id = some device ∧ device.lastIp = some ip := by
  have hmem := List.argmax_mem hfound
  obtain ⟨hrow, hip⟩ := List.mem_filter.mp hmem
  exact ⟨Keyed.find_eq_some.mpr ⟨hrow, rfl⟩, of_decide_eq_true hip⟩

/-- The device that was last seen with the address, or any one when there is
none. -/
def Store.foundByIp (store : Store) (ip : Net.Ipv4Addr) : Uuid :=
  ((store.findByIp ip).map Device.id).getD 0

theorem viewed_setRuleForIp {caller : AuthContext} {ip : Net.Ipv4Addr}
    (hallowed : ∀ device ∈ store.findByIp ip,
      checkDeviceMutationAuth caller device.mac device.adminLocked = .ok ())
    (target : RoutingTarget) :
    viewed ((setRuleForIp caller ip target).alone perform store) =
      Zone.setRuleForIp store.zoneView ip (store.foundByIp ip) target := by
  unfold Zone.setRuleForIp
  rw [findDevice_zoneView]
  simp only [setRuleForIp, alone_bind, statement, alone_perform, perform, alone_pure]
  cases hfound : store.findByIp ip with
  | none =>
    have hnone : ∀ device, store.devices.find (store.foundByIp ip) = some device →
        device.lastIp ≠ some ip := by
      intro device hdevice hip
      have hempty := List.argmax_eq_none.mp hfound
      have hmem : device ∈ store.devices.rows.filter (·.lastIp = some ip) := by
        simp [hip, (Keyed.find_eq_some.mp hdevice).1]
      simp [hempty] at hmem
    have hfilter : ((store.devices.find (store.foundByIp ip)).map store.zoneDevice).filter
        (fun row => row.lastIp = some ip) = none := by
      cases hdevice : store.devices.find (store.foundByIp ip) with
      | none => rfl
      | some device => simp [Store.zoneDevice, hnone device hdevice]
    rw [hfilter]
    rfl
  | some device =>
    obtain ⟨hdevice, hip⟩ := findByIp_eq_some hfound
    have hfilter : ((store.devices.find (store.foundByIp ip)).map store.zoneDevice).filter
        (fun row => row.lastIp = some ip) = some (store.zoneDevice device) := by
      simp [Store.foundByIp, hfound, hdevice, Store.zoneDevice, hip]
    rw [hfilter]
    exact viewed_writeRule (hallowed device hfound) hdevice target (unseen_pure _)

/-! ## Zones -/

theorem alone_currentRuleKind (store : Store) (id : Uuid) :
    (currentRuleKind id).alone perform store =
      (.ok ((store.rules.find id).map fun rule => Zone.ruleKind store.zoneView rule.target),
        store) := by
  simp only [currentRuleKind, alone_bind, statement, alone_perform, perform, alone_pure]
  cases store.rules.find id with
  | none => rfl
  | some rule => cases hrule : rule.target <;> simp only [hrule, Option.map_some] <;> rfl

/-- The check of a device that moves, and the two statements after it. -/
theorem viewed_moveDevice {device : Device} {zone : Zone.NetworkZone} {zoneId : Uuid}
    (hdevice : store.devices.find id = some device) (hzone : store.findZone zoneId = some zone)
    {check : Except AppError Unit} :
    viewed ((do
      ofExcept check
      let updated ← statement (.assignZone id zoneId)
      ofExcept (ensure (updated = true) (.notFound s!"device {id} not found"))
      let _ ← statement (.setManaged id)
      pure () : Action Unit).alone perform store) =
      check.map fun _ => { store.zoneView with
        devices := Table.update Zone.Device.id store.zoneView.devices id fun device =>
          { device with zoneId := zoneId } } := by
  cases check with
  | error error => rfl
  | ok =>
    have hassign : perform (.assignZone id zoneId) store = (some true, store.updateDevice id
        (fun device => { device with zoneId := zoneId }) fun _ => rfl) := by
      simp [perform, hdevice, hzone]
    simp only [alone_bind, alone_ofExcept, statement, alone_perform, hassign, alone_pure]
    simp [ensure, viewed, Except.map, perform, zoneView_setManaged, zoneView_assignZone]

theorem viewed_assignDevice {caller : AuthContext} (hadmin : requireAdmin caller = .ok ())
    (id zoneId : Uuid) :
    viewed ((assignDevice caller id zoneId).alone perform store) =
      (Zone.assignDevice store.zoneView id zoneId).map Prod.fst := by
  unfold Zone.assignDevice Zone.requireZone
  rw [findDevice_zoneView]
  have hzones : store.zoneView.findZone zoneId = store.findZone zoneId := rfl
  simp only [assignDevice, requireZone, alone_bind, statement, alone_perform, perform, alone_pure,
    hadmin, alone_ofExcept, hzones]
  cases hdevice : store.devices.find id with
  | none => rfl
  | some device =>
    simp only [require]
    cases hzone : store.findZone zoneId with
    | none => rfl
    | some zone =>
      simp only [Option.map_some]
      change viewed (alone perform (if device.zoneId = zoneId then _ else _) store) =
        Except.map Prod.fst (if device.zoneId = zoneId then _ else _)
      by_cases hsame : device.zoneId = zoneId
      · rw [if_pos hsame, if_pos hsame]
        rfl
      · rw [if_neg hsame, if_neg hsame, alone_bind, alone_currentRuleKind]
        have hrule : (store.zoneDevice device).rule =
            (store.rules.find id).map RoutingRule.target := by
          rw [← (Keyed.find_eq_some.mp hdevice).2]
          rfl
        refine (viewed_moveDevice hdevice hzone).trans ?_
        unfold Zone.ensureRulePermitted Zone.currentRuleKind
        rw [hrule]
        cases store.rules.find id with
        | none => rfl
        | some rule =>
          simp only [Option.map_some, Option.mem_some_iff, forall_eq', Option.getD_some]
          by_cases hpermits : zone.permitsKind (Zone.ruleKind store.zoneView rule.target) = true
          · simp [ensure, hpermits, Except.map, bind, Except.bind, pure, Except.pure]
          · simp [ensure, hpermits, Except.map, bind, Except.bind]

/-! ## Exceptions -/

theorem alone_assertEndpointExists (endpoint : Zone.ExceptionEndpoint) (store : Store) :
    (assertEndpointExists endpoint).alone perform store =
      (Zone.assertEndpointExists store.zoneView endpoint, store) := by
  cases endpoint with
  | device id =>
    simp only [assertEndpointExists, Zone.assertEndpointExists, findDevice_zoneView, alone_bind,
      statement, alone_perform, perform, alone_pure, alone_ofExcept]
    cases store.devices.find id <;> rfl
  | zone id =>
    simp only [assertEndpointExists, Zone.assertEndpointExists, alone_bind,
      statement, alone_perform, perform, alone_pure, alone_ofExcept]
    change _ = (ensure (store.findZone id ≠ none) _, store)
    cases store.findZone id <;> rfl

theorem validateException_eq (db : Zone.Database) (fromEnd toEnd : Zone.ExceptionEndpoint)
    (service : Zone.ServiceSpec) :
    Zone.validateException db fromEnd toEnd service = (do
      validateShape fromEnd toEnd service
      Zone.assertEndpointExists db fromEnd
      Zone.assertEndpointExists db toEnd
      Zone.validateService service) := by
  unfold Zone.validateException validateShape
  simp only [bind_assoc]

theorem alone_validate (exception : Zone.ZoneException) (store : Store) :
    (validate exception).alone perform store =
      (Zone.validateException store.zoneView exception.fromEnd exception.toEnd exception.service,
        store) := by
  simp only [validate, alone_bind, alone_ofExcept, alone_assertEndpointExists, validateException_eq]
  cases validateShape exception.fromEnd exception.toEnd exception.service with
  | error error => rfl
  | ok =>
    cases hfrom : Zone.assertEndpointExists store.zoneView exception.fromEnd with
    | error error => simp only [hfrom]; rfl
    | ok =>
      cases hto : Zone.assertEndpointExists store.zoneView exception.toEnd with
      | error error => simp only [hfrom, hto]; rfl
      | ok => simp only [hfrom, hto]; rfl

theorem unseen_promoteAll (ids : List Uuid) : Unseen (promoteAll ids) := by
  induction ids with
  | nil => exact unseen_pure ()
  | cons id ids ih =>
    intro store
    obtain ⟨result, after, hrun, hsame⟩ := ih (store.updateDevice id
      (fun device => { device with managed := true }) fun _ => rfl)
    exact ⟨result, after, hrun, hsame.trans (zoneView_setManaged store id)⟩

theorem viewed_createException {caller : AuthContext} (hadmin : requireAdmin caller = .ok ())
    (hfresh : store.exceptions.find id = none) (req : Zone.ZoneExceptionRequest) :
    viewed ((createException caller id req).alone perform store) =
      (Zone.createException store.zoneView id req).map Prod.fst := by
  have hinserted : ∃ exceptions, store.exceptions.insert (newException id req) =
      some exceptions ∧ exceptions.rows = store.exceptions.rows ++ [newException id req] :=
    Keyed.insert_of_find_eq_none hfresh
  obtain ⟨exceptions, hinsert, hrows⟩ := hinserted
  have hperform : perform (.insertException (newException id req)) store =
      (some (), { store with exceptions := exceptions }) := by
    simp [perform, hinsert]
  have hvalidate : (validate (newException id req)).alone perform store =
      (Zone.validateException store.zoneView req.fromEnd req.toEnd req.service, store) :=
    alone_validate _ store
  simp only [createException, alone_bind, alone_ofExcept, hadmin, hvalidate]
  unfold Zone.createException
  cases Zone.validateException store.zoneView req.fromEnd req.toEnd req.service with
  | error error => rfl
  | ok =>
    obtain ⟨result, after, hrun, hsame⟩ :=
      unseen_promoteAll (deviceIds (newException id req)) { store with exceptions := exceptions }
    simp only [statement, alone_bind, alone_perform, hperform, alone_pure, hrun]
    refine congrArg Except.ok (hsame.trans ?_)
    simp only [Store.zoneView, hrows]
    rfl

theorem viewed_updateException {caller : AuthContext} (hadmin : requireAdmin caller = .ok ())
    (id : Uuid) (req : Zone.UpdateZoneExceptionRequest) :
    viewed ((updateException caller id req).alone perform store) =
      (Zone.updateException store.zoneView id req).map Prod.fst := by
  unfold Zone.updateException Zone.requireException
  have hfind : store.zoneView.findException id = store.exceptions.find id := rfl
  simp only [updateException, alone_bind, statement, alone_perform, perform, alone_pure, hadmin,
    alone_ofExcept, hfind]
  cases hold : store.exceptions.find id with
  | none => rfl
  | some old =>
    obtain rfl := (Keyed.find_eq_some.mp hold).2
    simp only [require, alone_validate]
    change _ = Except.map Prod.fst (Zone.validateException store.zoneView
      (req.fromEnd.getD old.fromEnd) (req.toEnd.getD old.toEnd)
      (req.service.getD old.service) >>= _)
    cases Zone.validateException store.zoneView (req.fromEnd.getD old.fromEnd)
      (req.toEnd.getD old.toEnd) (req.service.getD old.service) with
    | error error => rfl
    | ok =>
      refine congrArg (fun rows => Except.ok { store.zoneView with exceptions := rows }) ?_
      refine List.map_congr_left fun row _ => ?_
      by_cases hrow : row.id = old.id <;> simp [hrow]

/-! ## Calls -/

/-- What a request that concerns zones does to their tables. -/
def Request.onZones (store : Store) : Request → Option (Except AppError Zone.Database)
  | .setRuleForIp _ ip target =>
    some (Zone.setRuleForIp store.zoneView ip (store.foundByIp ip) target)
  | .setRule _ id target => some (Zone.setRule store.zoneView id target)
  | .assignDevice _ deviceId zoneId =>
    some ((Zone.assignDevice store.zoneView deviceId zoneId).map Prod.fst)
  | .createException _ id req => some ((Zone.createException store.zoneView id req).map Prod.fst)
  | .updateException _ id req => some ((Zone.updateException store.zoneView id req).map Prod.fst)
  | .updateAdminLocked .. | .updateDnsCaptureSettings .. | .setDeviceProfiles .. => none

/-- The caller may do what it asks for, and a new exception has a new id. -/
def Request.Allowed (store : Store) : Request → Prop
  | .setRuleForIp caller ip _ => ∀ device ∈ store.findByIp ip,
      checkDeviceMutationAuth caller device.mac device.adminLocked = .ok ()
  | .setRule caller id _ => ∀ device ∈ store.devices.find id,
      checkDeviceMutationAuth caller device.mac device.adminLocked = .ok ()
  | .createException caller id _ =>
    requireAdmin caller = .ok () ∧ store.exceptions.find id = none
  | .updateAdminLocked caller .. | .updateDnsCaptureSettings caller .. | .assignDevice caller ..
  | .setDeviceProfiles caller .. | .updateException caller .. => requireAdmin caller = .ok ()

theorem viewed_bind_pure {Value : Type} (program : Action Value) (respond : Value → Result) :
    viewed ((program >>= fun value => pure (respond value)).alone perform store) =
      viewed (program.alone perform store) := by
  rw [alone_bind]
  rcases program.alone perform store with ⟨_ | _, _⟩ <;> rfl

/-- A call whose statements all succeed, with nobody beside it, does to the
tables of the zones what the operation of the catalog does. -/
theorem eval_onZones {request : Request} {expected : Except AppError Zone.Database}
    (hallowed : request.Allowed store) (hzones : request.onZones store = some expected) :
    ∃ statements result after,
      request.program.eval exec store (List.replicate statements false) = some (result, after) ∧
      viewed (result, after) = expected := by
  have hexec : ∀ op store, exec false op store = some (perform op store) := fun _ _ => rfl
  obtain ⟨statements, heval⟩ := eval_alone hexec request.program store
  refine ⟨statements, _, _, heval, ?_⟩
  cases request <;> cases hzones
  case setRuleForIp =>
    exact (viewed_bind_pure ..).trans (viewed_setRuleForIp hallowed _)
  case setRule =>
    exact (viewed_bind_pure ..).trans (viewed_setRule hallowed _)
  case assignDevice =>
    exact (viewed_bind_pure ..).trans (viewed_assignDevice hallowed _ _)
  case createException =>
    exact (viewed_bind_pure ..).trans (viewed_createException hallowed.1 hallowed.2 _)
  case updateException =>
    exact (viewed_bind_pure ..).trans (viewed_updateException hallowed _ _)

end Wardnet.Retention
