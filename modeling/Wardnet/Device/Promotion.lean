import Mathlib.Data.Set.Insert
import Wardnet.Device.Artefacts

/-!
# What a call owes

A call owes a device its flag from the moment it writes an artefact about it to
the moment it sets the flag.  A monitor keeps these debts, and every call that
sets flags at all returns without any.
-/

namespace Wardnet.Retention

open List Program
open Zone (ExceptionEndpoint ZoneException)

/-! ## Debts -/

/-- Whether the call sets the flag of the devices it writes about. -/
def Request.promotes : Request → Bool
  | .setRuleForIp .. | .updateException .. => false
  | _ => true

/-- The devices a promoting call may write about. -/
def Request.names : Request → List Uuid
  | .setRuleForIp .. | .updateException .. => []
  | .setRule _ id _ | .updateAdminLocked _ id _
  | .updateDnsCaptureSettings _ id .. => [id]
  | .assignDevice _ deviceId _ | .setDeviceProfiles _ deviceId _ => [deviceId]
  | .createException _ id req => deviceIds (newException id req)

/-- What a call has found out and what it owes. -/
structure Phase where
  known : Set Uuid
  owed : Set Uuid

/-- The phase of a call that has not begun. -/
def Phase.initial : Phase := ⟨∅, ∅⟩

/-- The device whose row an answer shows. -/
def learns : (op : Op) → Value op → Option Uuid
  | .findDevice id, some _ => some id
  | _, _ => none

/-- The phase after a statement that has succeeded. -/
def Request.after (request : Request) (op : Op) (value : Value op) (phase : Phase) : Phase where
  known := phase.known ∪ {id | learns op value = some id ∧ id ∈ request.names}
  owed := (phase.owed \ {id | op = .setManaged id}) ∪
    {id | id ∈ op.writes ∧ request.promotes = true}

/-- A promoting call writes only about devices it names, and exceptions only
about devices it has found.  That the flag cannot be set is not considered. -/
def Request.monitor (request : Request) : Monitor Op Answer Phase where
  allows op phase := request.promotes = true → ∀ id ∈ op.writes, id ∈ request.names ∧
      (∀ exception, op = .insertException exception ∨
        op = .updateException exception → id ∈ phase.known)
  advance op answer phase :=
    match answer with
    | some value => some (request.after op value phase)
    | none => if op.promotes then none else some phase

def Settled {Result : Type} (_ : Except AppError Result) (phase : Phase) : Prop := phase.owed = ∅

theorem mem_owed_after {request : Request} {op : Op} {value : Value op}
    {phase : Phase} {id : Uuid} :
    id ∈ (request.after op value phase).owed ↔ (id ∈ phase.owed ∧ op ≠ .setManaged id) ∨
        (id ∈ op.writes ∧ request.promotes = true) :=
  Iff.rfl

section Calls

variable {request : Request} {phase : Phase} {Result Value' : Type}
variable {post : Except AppError Result → Phase → Prop} {op : Op}

theorem obeys_statement {next : Value op → Action Result}
    (hallows : request.monitor.allows op phase)
    (hnone : op.promotes = false → post (.error .internal) phase)
    (hsome : ∀ value, (next value).Obeys request.monitor post (request.after op value phase)) :
    (statement op >>= next).Obeys request.monitor post phase := by
  refine ⟨hallows, fun answer after hadvance => ?_⟩
  cases answer with
  | some value =>
    cases hadvance
    exact hsome value
  | none =>
    cases hpromotes : op.promotes with
    | true => simp [Request.monitor, hpromotes] at hadvance
    | false =>
      simp only [Request.monitor, hpromotes] at hadvance
      cases hadvance
      exact hnone hpromotes

/-- A statement that writes no artefact and no flag. -/
def Op.Quiet (op : Op) : Prop := op.writes = [] ∧ op.promotes = false

theorem Op.Quiet.owed_after (hquiet : op.Quiet) (value : Value op) :
    (request.after op value phase).owed = phase.owed := by
  ext id
  have hne : op ≠ .setManaged id := by
    rintro rfl
    cases hquiet.2
  simp [mem_owed_after, hquiet.1, hne]

theorem Op.Quiet.allows (hquiet : op.Quiet) : request.monitor.allows op phase := by
  intro _ id hid
  rw [hquiet.1] at hid
  cases hid

/-- What a part of a call that only reads may have changed. -/
def Reads (phase : Phase) {Result : Type} (_ : Except AppError Result) (after : Phase) : Prop :=
  after.owed = ∅ ∧ phase.known ⊆ after.known

theorem obeys_of_quiet {program : Action Result}
    (hquiet : program.Performs Op.Quiet) (howed : phase.owed = ∅) :
    program.Obeys request.monitor (Reads phase) phase := by
  refine Obeys.of_performs (fun after => after.owed = ∅ ∧ phase.known ⊆ after.known) ?_
    (fun _ _ => id) hquiet ⟨howed, Set.Subset.rfl⟩
  intro op hop before hbefore
  refine ⟨hop.allows, fun answer after hadvance => ?_⟩
  cases answer with
  | some value =>
    cases hadvance
    exact ⟨(hop.owed_after value).trans hbefore.1, hbefore.2.trans Set.subset_union_left⟩
  | none =>
    simp only [Request.monitor, hop.2] at hadvance
    cases hadvance
    exact hbefore

/-- The part of a call that only reads, and what comes after it. -/
theorem obeys_bind_of_quiet {program : Action Value'}
    {next : Value' → Action Result} (hquiet : program.Performs Op.Quiet) (howed : phase.owed = ∅)
    (hok : ∀ value after, after.owed = ∅ → phase.known ⊆ after.known →
      (next value).Obeys request.monitor post after)
    (herror : ∀ error after, after.owed = ∅ → post (.error error) after) :
    (program >>= next).Obeys request.monitor post phase := by
  apply Obeys.bind (Reads phase) (obeys_of_quiet hquiet howed)
  · intro value after hreads
    exact hok value after hreads.1 hreads.2
  · intro error after hreads
    exact herror error after hreads.1

theorem quiet_statement (hquiet : op.Quiet) : (statement op).Performs Op.Quiet := by
  refine ⟨hquiet, fun answer => ?_⟩
  cases answer <;> trivial

variable (caller : AuthContext) {id : Uuid} (target : Routing.RoutingTarget)

theorem quiet_resolveTargetKind : (resolveTargetKind target).Performs Op.Quiet := by
  unfold resolveTargetKind
  cases Zone.AllowedTargetKind.ofTarget target with
  | some kind => trivial
  | none => exact (quiet_statement ⟨rfl, rfl⟩).bind fun _ => trivial

theorem quiet_currentRuleKind (id : Uuid) : (currentRuleKind id).Performs Op.Quiet := by
  refine (quiet_statement ⟨rfl, rfl⟩).bind fun rule => ?_
  cases rule with
  | none => trivial
  | some rule =>
    cases htarget : rule.target with
    | default =>
      simp only [htarget]
      exact (quiet_statement ⟨rfl, rfl⟩).bind fun _ => trivial
    | tunnel | direct => simp only [htarget]; trivial

theorem quiet_checkProfiles (seen profiles : List Uuid) :
    (checkProfiles seen profiles).Performs Op.Quiet := by
  induction profiles generalizing seen with
  | nil => trivial
  | cons id ids ih =>
    refine Performs.bind trivial fun _ => ?_
    refine (quiet_statement ⟨rfl, rfl⟩).bind fun known => ?_
    exact Performs.bind trivial fun _ => ih (id :: seen)

theorem obeys_of_not_promotes (hrequest : request.promotes = false)
    (program : Action Result) (howed : phase.owed = ∅) :
    program.Obeys request.monitor Settled phase := by
  induction program generalizing phase with
  | done result => exact howed
  | call op next ih =>
    refine ⟨fun hpromotes => absurd hpromotes (by simp [hrequest]),
      fun answer after hadvance => ih answer ?_⟩
    cases answer with
    | some value =>
      cases hadvance
      apply Set.eq_empty_of_forall_notMem
      simp [mem_owed_after, howed, hrequest]
    | none =>
      simp only [Request.monitor] at hadvance
      split at hadvance
      · cases hadvance
      · cases hadvance
        exact howed

variable {next : Unit → Action Result}

theorem obeys_setManaged (howed : phase.owed ⊆ {id})
    (hnext : ∀ after, after.owed = ∅ → (next ()).Obeys request.monitor post after) :
    (statement (.setManaged id) >>= next).Obeys request.monitor post phase := by
  refine obeys_statement ?_ ?_ fun _ => hnext _ ?_
  · intro _ id hid
    cases hid
  · intro hpromotes
    cases hpromotes
  · apply Set.eq_empty_of_forall_notMem
    intro other hother
    cases hother with
    | inl hleft => exact hleft.2 (congrArg Op.setManaged (howed hleft.1).symm)
    | inr hwrites => cases hwrites.1

theorem obeys_write {next : Value op → Action Result} (hwrites : op.writes ⊆ [id])
    (hnames : id ∈ request.names)
    (hop : ∀ exception, op ≠ .insertException exception ∧ op ≠ .updateException exception)
    (howed : phase.owed = ∅) (herror : ∀ error, post (.error error) phase)
    (hnext : ∀ value after, after.owed ⊆ {id | id ∈ op.writes} →
      (next value).Obeys request.monitor post after) :
    (statement op >>= next).Obeys request.monitor post phase := by
  refine obeys_statement ?_ (fun _ => herror _) fun value => hnext value _ ?_
  · intro _ other hother
    obtain rfl := mem_singleton.mp (hwrites hother)
    refine ⟨hnames, fun exception hexception => ?_⟩
    cases hexception with
    | inl hinsert => exact absurd hinsert (hop exception).1
    | inr hupdate => exact absurd hupdate (hop exception).2
  · intro other hother
    rw [mem_owed_after, howed] at hother
    exact (hother.resolve_left fun hleft => hleft.1).1

theorem quiet_ofExcept (result : Except AppError Result) :
    (ofExcept result : Action Result).Performs Op.Quiet :=
  trivial

section

variable (howed : phase.owed = ∅)
include howed

theorem settled_bind_of_quiet {program : Action Value'}
    {next : Value' → Action Result} (hquiet : program.Performs Op.Quiet)
    (hok : ∀ value after, after.owed = ∅ → (next value).Obeys request.monitor Settled after) :
    (program >>= next).Obeys request.monitor Settled phase := by
  apply obeys_bind_of_quiet hquiet howed
  · intro value after hafter _
    exact hok value after hafter
  · intro error after hafter
    exact hafter

theorem settled_check {result : Except AppError Value'} {next : Value' → Action Result}
    (hok : ∀ value, (next value).Obeys request.monitor Settled phase) :
    (ofExcept result >>= next : Action Result).Obeys request.monitor Settled phase := by
  cases result with
  | error error => exact howed
  | ok value => exact hok value

theorem obeys_setRule (hnames : id ∈ request.names) :
    (setRule caller id target).Obeys request.monitor Settled phase := by
  refine settled_bind_of_quiet howed (quiet_statement ⟨rfl, rfl⟩) fun found after hafter => ?_
  cases found with
  | none => exact hafter
  | some device =>
    simp only [writeRule, bind_assoc, pure_bind]
    refine settled_check hafter fun _ => ?_
    have hquiet : (validateTargetAgainstZone device target).Performs Op.Quiet := by
      refine (quiet_resolveTargetKind target).bind fun kind => ?_
      refine (quiet_statement ⟨rfl, rfl⟩).bind fun zone => ?_
      cases zone <;> trivial
    refine settled_bind_of_quiet hafter hquiet fun _ validated hvalidated => ?_
    refine settled_bind_of_quiet hvalidated (quiet_statement ⟨rfl, rfl⟩) fun _ read hread => ?_
    have hwrites : (Op.upsertUserRule id target (changedBy caller)).writes ⊆ [id] := by
      cases changedBy caller <;> simp [Op.writes]
    refine obeys_write hwrites hnames (fun _ => ⟨nofun, nofun⟩) hread
      (fun _ => hread) fun _ written hwritten => ?_
    split
    next hcaller =>
      refine obeys_setManaged (fun other hother => ?_) fun _ hpaid => hpaid
      have hmem := hwritten hother
      rw [hcaller] at hmem
      exact mem_singleton.mp hmem
    next hcaller =>
      apply Set.eq_empty_of_forall_notMem
      intro other hother
      have hmem := hwritten hother
      cases hchanged : changedBy caller with
      | admin => exact hcaller hchanged
      | user =>
        rw [hchanged] at hmem
        cases hmem

theorem obeys_updateAdminLocked (locked : Bool) (hnames : id ∈ request.names) :
    (updateAdminLocked caller id locked).Obeys request.monitor Settled phase := by
  refine settled_check howed fun _ => ?_
  have hwrites : (Op.updateAdminLocked id locked).writes ⊆ [id] := by
    cases locked <;> simp [Op.writes]
  refine obeys_write hwrites hnames (fun _ => ⟨nofun, nofun⟩) howed
    (fun _ => howed) fun _ written hwritten => ?_
  cases locked with
  | true =>
    refine obeys_setManaged (fun other hother => ?_) fun _ hpaid => hpaid
    exact mem_singleton.mp (hwritten hother)
  | false =>
    apply Set.eq_empty_of_forall_notMem
    intro other hother
    cases hwritten hother

theorem obeys_setManaged_of_settled (hnext : ∀ after, after.owed = ∅ →
      (next ()).Obeys request.monitor post after) :
    (statement (.setManaged id) >>= next).Obeys request.monitor post phase :=
  obeys_setManaged (howed ▸ Set.empty_subset _) hnext

theorem obeys_updateDnsCaptureSettings (id : Uuid)
    (enabled : Option Bool) (capCount capDays : Option ℤ) :
    (updateDnsCaptureSettings caller id enabled capCount capDays).Obeys
      request.monitor Settled phase := by
  have hquiet : (captureNowEnabled id enabled).Performs Op.Quiet := by
    cases enabled with
    | some enabled => trivial
    | none => exact (quiet_statement ⟨rfl, rfl⟩).bind fun _ => trivial
  refine settled_check howed fun _ => ?_
  refine settled_bind_of_quiet howed (quiet_statement ⟨rfl, rfl⟩) fun _ written hwritten => ?_
  refine settled_check hwritten fun _ => ?_
  refine settled_bind_of_quiet hwritten hquiet fun nowEnabled after hafter => ?_
  split
  · exact obeys_setManaged_of_settled hafter fun _ hpaid => hpaid
  · exact hafter

theorem obeys_assignDevice (deviceId zoneId : Uuid) :
    (assignDevice caller deviceId zoneId).Obeys request.monitor Settled phase := by
  refine settled_check howed fun _ => ?_
  refine settled_bind_of_quiet howed (quiet_statement ⟨rfl, rfl⟩) fun _ read hread => ?_
  refine settled_check hread fun device => ?_
  refine settled_bind_of_quiet hread
    ((quiet_statement ⟨rfl, rfl⟩).bind fun _ => quiet_ofExcept _) fun zone placed hplaced => ?_
  split
  · exact hplaced
  refine settled_bind_of_quiet hplaced (quiet_currentRuleKind deviceId) fun kind ruled hruled => ?_
  refine settled_check hruled fun _ => ?_
  refine settled_bind_of_quiet hruled (quiet_statement ⟨rfl, rfl⟩)
    fun updated moved hmoved => ?_
  refine settled_check hmoved fun _ => ?_
  exact obeys_setManaged_of_settled hmoved fun _ => id

theorem obeys_setDeviceProfiles {deviceId : Uuid}
    (profiles : List Uuid) (hnames : deviceId ∈ request.names) :
    (setDeviceProfiles caller deviceId profiles).Obeys request.monitor Settled phase := by
  refine settled_check howed fun _ => ?_
  refine settled_bind_of_quiet howed (quiet_checkProfiles [] profiles) fun _ known hknown => ?_
  refine obeys_write (List.Subset.refl [deviceId]) hnames
    (fun _ => ⟨nofun, nofun⟩) hknown (fun _ => hknown)
    fun _ written hwritten => ?_
  refine obeys_setManaged (fun other hother => mem_singleton.mp (hwritten hother))
    fun paid hpaid => ?_
  exact settled_bind_of_quiet hpaid (quiet_statement ⟨rfl, rfl⟩) fun _ _ => id

end

/-! ### Exceptions -/

theorem mem_deviceIds {exception : ZoneException} :
    id ∈ deviceIds exception ↔ exception.fromEnd = .device id ∨ exception.toEnd = .device id := by
  cases hfrom : exception.fromEnd <;> cases hto : exception.toEnd <;>
    simp [deviceIds, hfrom, hto, eq_comm]

theorem obeys_assertEndpointExists (endpoint : ExceptionEndpoint) (howed : phase.owed = ∅)
    (hnext : ∀ after, after.owed = ∅ → phase.known ⊆ after.known →
      (∀ id ∈ request.names, endpoint = .device id → id ∈ after.known) →
        (next ()).Obeys request.monitor Settled after) :
    (assertEndpointExists endpoint >>= next).Obeys request.monitor Settled phase := by
  cases endpoint with
  | zone id =>
    have hquiet : (assertEndpointExists (.zone id)).Performs Op.Quiet :=
      (quiet_statement ⟨rfl, rfl⟩).bind fun _ => quiet_ofExcept _
    apply obeys_bind_of_quiet hquiet howed
    · intro _ after hafter hknown
      exact hnext after hafter hknown fun _ _ heq => nomatch heq
    · intro _ after hafter
      exact hafter
  | device id =>
    simp only [assertEndpointExists, bind_assoc]
    refine obeys_statement (Op.Quiet.allows ⟨rfl, rfl⟩) (fun _ => howed) fun found => ?_
    have hafter : (request.after (.findDevice id) found phase).owed = ∅ :=
      (Op.Quiet.owed_after ⟨rfl, rfl⟩ found).trans howed
    cases found with
    | none => exact hafter
    | some device =>
      refine hnext _ hafter Set.subset_union_left fun other hother heq => ?_
      obtain rfl := ExceptionEndpoint.device.inj heq
      exact .inr ⟨rfl, hother⟩

theorem obeys_promoteAll {ids : List Uuid}
    (howed : phase.owed ⊆ {id | id ∈ ids}) (hnext : ∀ after, after.owed = ∅ →
      (next ()).Obeys request.monitor Settled after) :
    (promoteAll ids >>= next).Obeys request.monitor Settled phase := by
  induction ids generalizing phase with
  | nil =>
    apply hnext
    exact Set.eq_empty_of_forall_notMem fun id hid => by cases howed hid
  | cons id ids ih =>
    simp only [promoteAll, bind_assoc]
    refine obeys_statement (fun _ _ hid => nomatch hid)
      (fun hpromotes => nomatch hpromotes) fun _ => ih fun other hother => ?_
    cases mem_owed_after.mp hother with
    | inl hleft =>
      refine (mem_cons.mp (howed hleft.1)).resolve_left fun heq => ?_
      exact hleft.2 (congrArg Op.setManaged heq.symm)
    | inr hwrites => cases hwrites.1

theorem obeys_createException {req : Zone.ZoneExceptionRequest}
    (hnames : ∀ device ∈ deviceIds (newException id req),
      device ∈ request.names) (howed : phase.owed = ∅) :
    (createException caller id req).Obeys request.monitor Settled phase := by
  simp only [createException, validate, bind_assoc]
  refine settled_check howed fun _ => ?_
  refine settled_check howed fun _ => ?_
  refine obeys_assertEndpointExists _ howed fun first hfirst _ hfromKnown => ?_
  refine obeys_assertEndpointExists _ hfirst fun second hsecond hkept htoKnown => ?_
  refine settled_check hsecond fun _ => ?_
  have hknown : ∀ device ∈ deviceIds (newException id req), device ∈ second.known := by
    intro device hdevice
    cases mem_deviceIds.mp hdevice with
    | inl hfrom => exact hkept (hfromKnown device (hnames device hdevice) hfrom)
    | inr hto => exact htoKnown device (hnames device hdevice) hto
  refine obeys_statement ?_ (fun _ => hsecond) fun _ => ?_
  · intro _ device hdevice
    exact ⟨hnames device hdevice, fun _ _ => hknown device hdevice⟩
  refine obeys_promoteAll (fun device hdevice => ?_) fun _ hpaid => hpaid
  rw [mem_owed_after, hsecond] at hdevice
  exact (hdevice.resolve_left fun hleft => hleft.1).1

end Calls

/-- Every call returns without debts. -/
theorem Request.obeys_program (request : Request) :
    request.program.Obeys request.monitor Settled .initial := by
  have hreturn : ∀ {Value' : Type} (program : Action Value') (respond : Value' → Response),
      program.Obeys request.monitor Settled .initial →
        (program >>= fun value => pure (respond value)).Obeys request.monitor Settled .initial := by
    intro Value' program respond hprogram
    exact hprogram.bind Settled (fun _ _ => id) fun _ _ hsettled => hsettled
  cases request with
  | setRuleForIp | updateException => exact obeys_of_not_promotes rfl _ rfl
  | setRule caller id target =>
    exact hreturn _ _ (obeys_setRule caller target rfl (mem_singleton_self id))
  | updateAdminLocked caller id locked =>
    exact hreturn _ _ (obeys_updateAdminLocked caller rfl locked (mem_singleton_self id))
  | updateDnsCaptureSettings caller id enabled capCount capDays =>
    exact hreturn _ _ (obeys_updateDnsCaptureSettings caller rfl id enabled capCount capDays)
  | assignDevice caller deviceId zoneId =>
    exact hreturn _ _ (obeys_assignDevice caller rfl deviceId zoneId)
  | setDeviceProfiles caller deviceId profiles =>
    exact hreturn _ _ (obeys_setDeviceProfiles caller rfl profiles (mem_singleton_self deviceId))
  | createException caller id req =>
    exact hreturn _ _ (obeys_createException caller (fun _ hdevice => hdevice) rfl)

end Wardnet.Retention
