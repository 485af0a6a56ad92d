import Wardnet.Core.Transition
import Wardnet.Zone.Catalog

/-!
# Rules and the zones of their devices

A zone permits some kinds of routing targets.  This is checked where a rule is
written, where a device moves and where a zone is edited.  The deletion of a
tunnel rewrites the rules to it without a check.
-/

namespace Wardnet.Zone

open Net Option Routing Table Transition

/-! ## Rules under the operations on zones -/

variable {db changed : Database} {device : Uuid} {row : Device} {target : RoutingTarget}

/-- The rule was there before, and the targets that the zone of its device
allows are the same, or permit what it resolves to. -/
def RuleKept (db changed : Database) (device : Uuid) (row : Device) (target : RoutingTarget) :
    Prop :=
  ∃ old, db.findDevice device = some old ∧ old.rule = some target ∧
    ∀ zone, changed.findZone row.zoneId = some zone →
      (∃ before, db.findZone old.zoneId = some before ∧
        zone.allowedTargets = before.allowedTargets) ∨
      zone.permitsKind (ruleKind db target) = true

theorem ruleKept_of_zone (hrow : db.findDevice device = some row) (hrule : row.rule = some target)
    (hzone : changed.findZone row.zoneId = db.findZone row.zoneId) :
    RuleKept db changed device row target := by
  refine ⟨row, hrow, hrule, fun zone hfound => .inl ⟨zone, ?_, rfl⟩⟩
  exact hzone ▸ hfound

/-- The operations on zones are checked against the rules of their devices. -/
theorem ruleKept_of_accept {operation : Operation} {event : Option ZoneEvent} (hkeyed : db.Keyed)
    (haccept : accept db operation = some (changed, event))
    (hrow : changed.findDevice device = some row) (hrule : row.rule = some target) :
    RuleKept db changed device row target := by
  cases effect_of_accept haccept with
  | createZone id req hfresh =>
    refine ruleKept_of_zone hrow hrule ?_
    have hnone : db.findZone (req.zone id).id = none := hfresh
    rw [Database.findZone, findZone_append hnone]
    split
    next heq =>
      obtain ⟨zone, hzone⟩ := hkeyed.zones row (find_eq_some hrow).1
      rw [heq, hnone] at hzone
      cases hzone
    · rfl
  | updateZone old req change hold _ hconform hchange =>
    refine ⟨row, hrow, hrule, fun zone hzone => ?_⟩
    rw [Database.findZone, find_map (id_of_rewritten hchange)] at hzone
    obtain ⟨before, hbefore, rfl⟩ := map_eq_some_iff.mp hzone
    have hmember := (find_eq_some hbefore).2
    have hallowed := (hchange before).allowedTargets
    split at hallowed
    next hid =>
      cases htargets : req.allowedTargets with
      | none =>
        obtain rfl : old = before := by
          rw [← hmember, hid] at hbefore
          exact some.inj (hold.symm.trans hbefore)
        refine .inl ⟨old, hbefore, ?_⟩
        simp [hallowed, NetworkZone.patch, htargets]
      | some allowed =>
        rw [htargets] at hconform
        have hcheck := forM_eq_ok.mp hconform row
          (List.mem_filter.mpr ⟨(find_eq_some hrow).1, decide_eq_true (hmember.symm.trans hid)⟩)
        right
        simpa [currentRuleKind, hrule, ensure_eq_ok, NetworkZone.permitsKind, hallowed] using hcheck
    · exact .inl ⟨before, hbefore, hallowed⟩
  | deleteZone id hmembers =>
    refine ruleKept_of_zone hrow hrule ?_
    rw [Database.findZone, find_delete, if_neg (hmembers row (find_eq_some hrow).1)]
    rfl
  | unmoved | exceptions => exact ruleKept_of_zone hrow hrule rfl
  | assignDevice deviceId zoneId moved zone hmoved hzone hpermitted =>
    have hkey : ∀ row : Device, { row with zoneId := zoneId }.id = row.id := fun _ => rfl
    rw [Database.findDevice, find_update hkey] at hrow
    split at hrow
    next heq =>
      obtain ⟨old, hold, rfl⟩ := map_eq_some_iff.mp hrow
      cases hmoved.symm.trans hold
      refine ⟨moved, heq ▸ hold, hrule, fun found hfound => .inr ?_⟩
      cases hzone.symm.trans hfound
      have hkind : moved.rule = some target := hrule
      simpa [ensureRulePermitted, currentRuleKind, hkind, ensure_eq_ok] using hpermitted
    · exact ruleKept_of_zone hrow hrule rfl

/-! ## Writing rules -/

def validateTargetAgainstZone (db : Database) (device : Device) (target : RoutingTarget) :
    Except AppError Unit := do
  let zone ← require (db.findZone device.zoneId) .internal
  let shown := (ruleKind db target).asStr
  let name := String.ofList zone.name
  ensure (zone.permitsKind (ruleKind db target)) (.conflict
    s!"routing target '{shown}' is not permitted by this device's zone '{name}'")

def Database.rewriteRules (db : Database) (rewrite : Device → Option RoutingTarget) : Database :=
  { db with devices := db.devices.map fun row => { row with rule := rewrite row } }

def Database.putRule (db : Database) (device : Uuid) (rule : Option RoutingTarget) : Database :=
  db.rewriteRules fun row => if row.id = device then rule else row.rule

/-- `set_rule`, by a caller who may change the device. -/
def setRule (db : Database) (device : Uuid) (target : RoutingTarget) :
    Except AppError Database := do
  let row ← require (db.findDevice device) (.notFound "device not found")
  validateTargetAgainstZone db row target
  return db.putRule device (some target)

/-- `set_rule_for_ip`; `found` is the row that was seen last with the
address. -/
def setRuleForIp (db : Database) (ip : Ipv4Addr) (found : Uuid) (target : RoutingTarget) :
    Except AppError Database := do
  let row ← require ((db.findDevice found).filter fun row => row.lastIp = some ip)
    (.notFound "device not found for this IP")
  validateTargetAgainstZone db row target
  return db.putRule row.id (some target)

/-- `delete_tunnel`: the rules to the tunnel become direct, and the default
policy as well when it names the tunnel. -/
def deleteTunnel (db : Database) (tunnel : Uuid) : Database :=
  { db.rewriteRules fun row =>
      if row.rule = some (.tunnel tunnel) then some .direct else row.rule with
    defaultPolicy := db.defaultPolicy.filter fun policy => policy ≠ tunnel }

inductive RuleOperation
  | setRule (device : Uuid) (target : RoutingTarget)
  | setRuleForIp (ip : Ipv4Addr) (found : Uuid) (target : RoutingTarget)
  | clearRule (device : Uuid)
  | deleteTunnel (tunnel : Uuid)
  | zone (operation : Operation)
  deriving DecidableEq

def complete (db : Database) : RuleOperation → Option Database
  | .setRule device target => (setRule db device target).toOption
  | .setRuleForIp ip found target => (setRuleForIp db ip found target).toOption
  | .clearRule device => some (db.putRule device none)
  | .deleteTunnel tunnel => some (deleteTunnel db tunnel)
  | .zone operation => change db operation

/-- The zone of the device permits its rule, unless that is `Default`. -/
def RulePermitted (db : Database) (row : Device) : Prop :=
  ∀ target ∈ row.rule, ∀ kind ∈ AllowedTargetKind.ofTarget target,
    ∃ zone ∈ db.findZone row.zoneId, zone.permitsKind kind = true
  deriving Decidable

def RulesPermitted (db : Database) : Prop := ∀ row ∈ db.devices, RulePermitted db row
  deriving Decidable

/-- The devices that are routed through a deleted tunnel are in zones that
permit them to go direct. -/
def Degradable (db : Database) : RuleOperation → Prop
  | .deleteTunnel tunnel => ∀ row ∈ db.devices, row.rule = some (.tunnel tunnel) →
      ∃ zone ∈ db.findZone row.zoneId, zone.permitsKind .direct = true
  | _ => True

instance (db : Database) (operation) : Decidable (Degradable db operation) := by
  cases operation <;> delta Degradable <;> infer_instance

/-! ## The gate is kept -/

theorem Database.Keyed.rewriteRules (hkeyed : db.Keyed) (rewrite : Device → Option RoutingTarget) :
    (db.rewriteRules rewrite).Keyed where
  zoneIds := hkeyed.zoneIds
  devices := by simpa [Database.rewriteRules, Function.comp_def] using hkeyed.devices
  zones := by
    intro row hrow
    obtain ⟨old, hold, rfl⟩ := List.mem_map.mp hrow
    exact hkeyed.zones old hold

theorem RulesPermitted.putRule (hpermitted : RulesPermitted db) (rule : Option RoutingTarget)
    (hrule : ∀ row ∈ db.devices, row.id = device → RulePermitted db { row with rule := rule }) :
    RulesPermitted (db.putRule device rule) := by
  intro row hrow
  obtain ⟨old, hold, rfl⟩ := List.mem_map.mp hrow
  simp only
  split
  next hid =>
    exact hrule old hold hid
  · exact hpermitted old hold

theorem ruleKind_of_explicit {kind : AllowedTargetKind}
    (hkind : AllowedTargetKind.ofTarget target = some kind) : ruleKind db target = kind := by
  cases target with
  | «default» => cases hkind
  | direct | tunnel => simp_all [ruleKind, resolveTarget]

theorem RulesPermitted.write (hkeyed : db.Keyed) (hpermitted : RulesPermitted db)
    (hrow : db.findDevice device = some row)
    (hvalid : validateTargetAgainstZone db row target = .ok ()) :
    RulesPermitted (db.putRule device (some target)) := by
  simp only [validateTargetAgainstZone, bind_eq_ok, require_eq_ok, ensure_eq_ok] at hvalid
  obtain ⟨zone, hzone, hpermits⟩ := hvalid
  apply hpermitted.putRule
  rintro found hmem rfl found' ⟨⟩ kind hkind
  obtain rfl : found = row :=
    some.inj ((find_of_mem hkeyed.devices hmem).symm.trans hrow)
  exact ⟨zone, hzone, ruleKind_of_explicit hkind ▸ hpermits⟩

/-- A completed operation keeps every rule within the zone of its device. -/
theorem RulesPermitted.complete {operation : RuleOperation} (hkeyed : db.Keyed)
    (hpermitted : RulesPermitted db) (hcond : Degradable db operation)
    (hcomplete : complete db operation = some changed) :
    changed.Keyed ∧ RulesPermitted changed := by
  cases operation with
  | setRule device target =>
    have hok := toOption_eq_some.mp hcomplete
    simp only [setRule, bind_eq_ok, require_eq_ok, pure_eq_ok] at hok
    obtain ⟨row, hrow, _, hvalid, rfl⟩ := hok
    exact ⟨hkeyed.rewriteRules _, hpermitted.write hkeyed hrow hvalid⟩
  | setRuleForIp ip found target =>
    have hok := toOption_eq_some.mp hcomplete
    simp only [setRuleForIp, bind_eq_ok, require_eq_ok, pure_eq_ok] at hok
    obtain ⟨row, hfound, _, hvalid, rfl⟩ := hok
    have hrow := (filter_eq_some_iff.mp hfound).1
    rw [← (find_eq_some hrow).2] at hrow
    exact ⟨hkeyed.rewriteRules _, hpermitted.write hkeyed hrow hvalid⟩
  | clearRule device =>
    cases hcomplete
    exact ⟨hkeyed.rewriteRules _, hpermitted.putRule none fun _ _ _ => by simp [RulePermitted]⟩
  | deleteTunnel tunnel =>
    cases hcomplete
    refine ⟨⟨hkeyed.zoneIds, (hkeyed.rewriteRules _).devices, (hkeyed.rewriteRules _).zones⟩, ?_⟩
    intro row hrow target htarget kind hkind
    obtain ⟨old, hold, rfl⟩ := List.mem_map.mp hrow
    simp only at htarget
    split at htarget
    next hrule =>
      cases htarget
      cases hkind
      exact hcond old hold hrule
    · exact hpermitted old hold target htarget kind hkind
  | zone operation =>
    obtain ⟨⟨changed, event⟩, haccept, rfl⟩ := map_eq_some_iff.mp hcomplete
    refine ⟨hkeyed.accept haccept, fun row hrow target htarget kind hkind => ?_⟩
    have hkeyed' := hkeyed.accept haccept
    obtain ⟨old, hold, hrule, hzones⟩ := ruleKept_of_accept hkeyed haccept
      (find_of_mem hkeyed'.devices hrow) htarget
    obtain ⟨zone, hzone⟩ := hkeyed'.zones row hrow
    refine ⟨zone, hzone, ?_⟩
    rcases hzones zone hzone with ⟨before, hbefore, hallowed⟩ | hpermits
    · obtain ⟨found, hfound, hpermits⟩ := hpermitted old (find_eq_some hold).1 target hrule
        kind hkind
      cases hbefore.symm.trans hfound
      unfold NetworkZone.permitsKind at hpermits ⊢
      rw [hallowed]
      exact hpermits
    · exact ruleKind_of_explicit hkind ▸ hpermits

/-- The operation leaves every rule within the zone of its device. -/
def KeepsRules (db : Database) (operation : RuleOperation) : Prop :=
  ∀ changed ∈ complete db operation, RulesPermitted changed

theorem degradable_of_keepsRules {operation : RuleOperation} (hkeeps : KeepsRules db operation) :
    Degradable db operation := by
  cases operation with
  | deleteTunnel tunnel =>
    intro row hrow hrule
    have hrewritten : { row with rule := some .direct } ∈ (deleteTunnel db tunnel).devices :=
      List.mem_map.mpr ⟨row, hrow, by simp [hrule]⟩
    exact hkeeps _ rfl _ hrewritten .direct rfl .direct rfl
  | setRule | setRuleForIp | clearRule | zone => trivial

/-- From permitted rules, each operation leaves every rule that is not `Default`
of a kind that the zone of its device permits, exactly when no tunnel is deleted
under devices whose zone forbids them to go direct. -/
theorem rules_stay_permitted_iff {operations : List RuleOperation} (hkeyed : db.Keyed)
    (hpermitted : RulesPermitted db) :
    Meets complete KeepsRules db operations ↔ Meets complete Degradable db operations := by
  have hstep : ∀ db operation after, db.Keyed ∧ RulesPermitted db → Degradable db operation →
      complete db operation = some after → after.Keyed ∧ RulesPermitted after :=
    fun _ _ _ hinv hcond hnext => hinv.2.complete hinv.1 hcond hnext
  refine (meets_iff_of_invariant ?_ hstep ⟨hkeyed, hpermitted⟩ operations).symm
  intro db operation hinv
  exact ⟨fun hcond changed hchanged => (hstep db operation changed hinv hcond hchanged).2,
    degradable_of_keepsRules⟩

def guestDevice : Database := .seeded [⟨1, 0x203, none, none⟩] none

/-- The device is routed through a tunnel, the targets of its zone are changed,
and the tunnel is deleted. -/
def tunnelDeleted (allowed : List AllowedTargetKind) : List RuleOperation :=
  [.setRule 1 (.tunnel 7),
    .zone (.updateZone 0x203 ⟨none, none, some allowed, none, none, none, none, none⟩),
    .deleteTunnel 7]

theorem guestDevice_keyed : guestDevice.Keyed where
  zoneIds := by decide
  devices := by decide
  zones := by
    intro row hrow
    cases List.mem_singleton.mp hrow
    exact ⟨_, rfl⟩

theorem rules_stay_permitted_iff_bothKinds :
    (∃ changed, run complete guestDevice (tunnelDeleted [.direct, .tunnel]) = some changed) ∧
      Meets complete KeepsRules guestDevice (tunnelDeleted [.direct, .tunnel]) :=
  ⟨⟨_, rfl⟩, (rules_stay_permitted_iff guestDevice_keyed (by decide)).mpr (by decide)⟩

/-- In a zone that only permits tunnels the rule becomes a forbidden one. -/
theorem rule_forbidden_after_deletion :
    ∃ changed ∈ run complete guestDevice (tunnelDeleted [.tunnel]), ¬ RulesPermitted changed := by
  decide

end Wardnet.Zone
