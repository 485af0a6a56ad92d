import Wardnet.Zone.ClampListeners
import Wardnet.Zone.RuleGate

/-!
# The clamp is kept

The checks of the zone operations admit no change that would put a device in a
zone that forbids what the stored policy resolves to.  With the steps of the
listeners, and the startup that clamps what it has applied, this carries the
invariant through every run.
-/

namespace Wardnet.Clamp

open Net Option Routing Transition Zone

variable {network after : Network} {env : Uuid → Env} {device : Uuid}
  {db changed : Database} {addr : Ipv4Addr}

/-! ## Changes of the tables -/

/-- A change of the tables that gives no device a `Default` rule, and puts none
that has one in a zone that forbids the tunnel of the policy. -/
structure Admits (db changed : Database) : Prop where
  policy : changed.defaultPolicy = db.defaultPolicy
  defaultRuled : ∀ device, DefaultRuled changed device → DefaultRuled db device
  clamped : ∀ device, Clamped changed device → Clamped db device ∨ db.defaultPolicy = none

theorem clamps_tunnel {db : Database} {row : Device} :
    clamps db .tunnel row = true ↔ row.rule = some .default ∧
      ∃ zone, db.findZone row.zoneId = some zone ∧ zone.permitsKind .tunnel = false ∧
        zone.permitsKind .direct = true := by
  cases hzone : db.findZone row.zoneId with
  | none | some => simp [clamps, hzone]

/-- The `Default` rules were there before, in zones that allow the same targets
or permit what the policy resolves to. -/
theorem Admits.of_rows {db changed : Database} (hpolicy : changed.defaultPolicy = db.defaultPolicy)
    (hrows : ∀ device row, changed.findDevice device = some row →
      row.rule = some .default → RuleKept db changed device row .default) : Admits db changed where
  policy := hpolicy
  defaultRuled := by
    intro device hdefault
    obtain ⟨row, hrow, hrule⟩ := bind_eq_some_iff.mp hdefault
    obtain ⟨old, hold, holdRule, -⟩ := hrows device row hrow hrule
    exact bind_eq_some_iff.mpr ⟨old, hold, holdRule⟩
  clamped := by
    rintro device ⟨row, hrow, hclamps⟩
    obtain ⟨hrule, zone, hzone, htunnel, hdirect⟩ := clamps_tunnel.mp hclamps
    obtain ⟨old, hold, holdRule, hzones⟩ := hrows device row hrow hrule
    rcases hzones zone hzone with ⟨before, hbefore, hallowed⟩ | hpermits
    · refine .inl ⟨old, hold, clamps_tunnel.mpr ⟨holdRule, before, hbefore, ?_⟩⟩
      unfold NetworkZone.permitsKind at htunnel hdirect ⊢
      rw [← hallowed]
      exact ⟨htunnel, hdirect⟩
    · right
      by_contra hpolicy
      obtain ⟨tunnel, hset⟩ := ne_none_iff_exists'.mp hpolicy
      simp [ruleKind, hset, resolveTarget, AllowedTargetKind.ofTarget, htunnel] at hpermits

theorem Admits.setLastIp {lastIp : Option Ipv4Addr} : Admits db (db.setLastIp device lastIp) := by
  refine Admits.of_rows rfl ?_
  intro other row hrow hrule
  rw [findDevice_setLastIp] at hrow
  split at hrow
  next heq =>
    obtain ⟨old, hold, rfl⟩ := map_eq_some_iff.mp hrow
    exact ⟨old, heq ▸ hold, hrule, fun zone hzone => .inl ⟨zone, hzone, rfl⟩⟩
  · exact ⟨row, hrow, hrule, fun zone hzone => .inl ⟨zone, hzone, rfl⟩⟩

theorem Admits.register (hregister : db.register device addr = some changed) :
    Admits db changed := by
  unfold Database.register at hregister
  cases hfind : db.findDevice device with
  | some row =>
    rw [hfind] at hregister
    cases hregister
    exact Admits.setLastIp
  | none =>
    rw [hfind] at hregister
    obtain ⟨zone, -, rfl⟩ := map_eq_some_iff.mp hregister
    refine Admits.of_rows rfl ?_
    intro other row hrow hrule
    let added : Device := ⟨device, zone.id, some addr, none⟩
    have hfresh : ∀ old ∈ db.devices, old.id ≠ added.id := Table.find_eq_none.mp hfind
    have hfound : Table.find Device.id (db.devices ++ [added]) other = some row := hrow
    rw [Table.find_append hfresh] at hfound
    split at hfound
    · have hunruled : added.rule = none := rfl
      rw [some.inj hfound, hrule] at hunruled
      cases hunruled
    · exact ⟨row, hfound, hrule, fun zone hzone => .inl ⟨zone, hzone, rfl⟩⟩

theorem Admits.accept {operation : Operation} {event : Option ZoneEvent} (hkeyed : db.Keyed)
    (haccept : accept db operation = some (changed, event)) : Admits db changed := by
  refine Admits.of_rows ?_ fun _ _ => ruleKept_of_accept hkeyed haccept
  cases effect_of_accept haccept <;> rfl

/-! ## Steps -/

section

variable (htracked : network.Tracked)
include htracked

theorem Network.Tracked.setDb (hkeyed : changed.Keyed) (hadmits : Admits network.db changed) :
    Network.Tracked { network with db := changed } where
  keyed := hkeyed
  synced := hadmits.policy.trans htracked.synced
  shaped := htracked.shaped
  cached := htracked.cached
  followed := fun device hdefault => htracked.followed device (hadmits.defaultRuled device hdefault)
  clamped := by
    intro device hclamped
    rcases hadmits.clamped device hclamped with hbefore | hdirect
    · exact htracked.clamped device hbefore
    · have hdefault := hadmits.defaultRuled device hclamped.defaultRuled
      exact (htracked.followed device hdefault (htracked.synced.symm.trans hdirect)).imp_right .inr

theorem Network.Tracked.publish (event : Event) : (network.publish event).Tracked := by
  have hpolicy : network.PolicyPending → (network.publish event).PolicyPending := by
    rintro ⟨waiting, hwaiting, hchange⟩
    exact ⟨waiting, List.mem_append_left _ hwaiting, hchange⟩
  have hclamp : network.ClampPending → (network.publish event).ClampPending := by
    rintro ⟨waiting, hwaiting, htunnel⟩
    exact ⟨waiting, List.mem_append_left _ hwaiting, htunnel⟩
  exact
    { keyed := htracked.keyed
      synced := htracked.synced
      shaped := htracked.shaped
      cached := htracked.cached.imp_right hpolicy
      followed := fun device hdefault hdirect =>
        (htracked.followed device hdefault hdirect).imp_right hpolicy
      clamped := fun device hclamped =>
        (htracked.clamped device hclamped).imp_right (Or.imp hclamp hpolicy) }

/-- After a change of the policy the routing listener has everything to do
again. -/
theorem Network.Tracked.setPolicy (policy : PolicyText) {routing : State}
    (hshaped : Shaped routing) :
    (((network.setPolicy policy).setRouting routing).publish
      (.defaultPolicyChanged policy)).Tracked := by
  have hpending : (((network.setPolicy policy).setRouting routing).publish
      (.defaultPolicyChanged policy)).PolicyPending :=
    ⟨_, List.mem_append_right _ (List.mem_singleton.mpr rfl), rfl⟩
  exact
    { keyed := ⟨htracked.keyed.zoneIds, htracked.keyed.devices, htracked.keyed.zones⟩
      synced := rfl
      shaped := hshaped
      cached := .inr hpending
      followed := fun _ _ _ => .inr hpending
      clamped := fun _ _ => .inr (.inr hpending) }

theorem Network.Tracked.next {label : Label} (horderly : network.Orderly label)
    (hnext : network.next label = some after) : after.Tracked := by
  revert hnext
  fun_cases network.next label
  any_goals rintro ⟨⟩
  · exact htracked.setPolicy _ htracked.shaped
  · exact htracked.setPolicy directPolicy htracked.shaped
  · exact htracked
  · intro hnext
    obtain ⟨db, hregister, rfl⟩ := map_eq_some_iff.mp hnext
    have hkeyed := (register_eq_some htracked.keyed hregister).1
    exact (htracked.setDb hkeyed (.register hregister)).publish _
  iterate 2 exact (htracked.setDb htracked.keyed.setLastIp .setLastIp).publish _
  iterate 2 exact htracked.publish _
  · intro hnext
    obtain ⟨⟨db, event⟩, haccept, rfl⟩ := map_eq_some_iff.mp hnext
    have hwritten := htracked.setDb (htracked.keyed.accept haccept) (.accept htracked.keyed haccept)
    cases event with
    | some event => exact hwritten.publish _
    | none => exact hwritten
  next env event rest hqueue =>
    have hclamp : policyTunnel network.policy ≠ none → ∀ device,
        Clamped network.db device → network.Reapplies event device →
        network.ClampPending := by
      intro htunnel device hclamped hreapplies
      obtain ⟨row, hrow, rfl⟩ := hclamped.mem
      exact horderly event (by rw [hqueue]; rfl) htunnel row hrow hclamped hreapplies
    cases hchange : event.isPolicyChange with
    | false => exact htracked.routeOther hqueue hchange hclamp
    | true =>
      cases event with
      | defaultPolicyChanged policy =>
        have hkeyed := htracked.keyed
        refine ⟨hkeyed, htracked.synced, routeEvent_shaped hkeyed htracked.shaped,
          .inl (handleEvent_defaultPolicy _), fun device hdefault hpolicy =>
            .inl (effective_route_policyChanged policy hkeyed hdefault hpolicy), ?_⟩
        intro device hclamped
        cases hpolicy : policyTunnel network.policy with
        | none =>
          exact .inl (effective_route_policyChanged policy hkeyed hclamped.defaultRuled hpolicy)
        | some tunnel =>
          obtain ⟨ip, hassigned⟩ := assigned_policyChanged hclamped.defaultRuled
          have hpending := hclamp (by simp [hpolicy]) device hclamped ⟨_, rfl, _, hassigned, rfl⟩
          exact .inr (.inl hpending)
      | _ => cases hchange
  · exact htracked.enforce ‹_›

end

/-! ## From the start of the daemon -/

theorem Network.Tracked.boot (hkeyed : db.Keyed) (policy : PolicyText)
    (env : Uuid → Env) : (Network.boot db policy env).Tracked := by
  let fresh : Network :=
    { db := { db with defaultPolicy := policyTunnel policy }
      policy := policy
      routing := .new (policyTunnel policy)
      toRoute := []
      toEnforce := [] }
  let reconciled := fresh.setRouting (Routing.reconcile fresh.store env fresh.routing)
  have hkeys : reconciled.db.Keyed := ⟨hkeyed.zoneIds, hkeyed.devices, hkeyed.zones⟩
  have happlied : reconciled.routing.applied =
      (applyAll (forgetApplied fresh.routing) env fresh.store.ruled).applied :=
    reconcile_applied ..
  have hshaped : Shaped reconciled.routing := by
    unfold Shaped
    rw [happlied]
    apply Shaped.applyAll
    intro device rule hrule
    simp [forgetApplied] at hrule
  have hfollowed : ∀ device, DefaultRuled reconciled.db device → policyTunnel policy = none →
      effective reconciled.routing device = .direct := by
    intro device hdefault hdirect
    obtain ⟨row, hrow, hrule⟩ := bind_eq_some_iff.mp hdefault
    have hids : (fresh.store.devices.map StoredDevice.id).Nodup := store_ids fresh ▸ hkeyed.devices
    let entry : RuledDevice := ⟨device, (stored row).lastIp, .default⟩
    have hentry : entry ∈ fresh.store.ruled := by
      refine (mem_ruled hids).mpr ⟨stored row, ?_, rfl, hrule⟩
      rw [findById_store]
      exact congrArg (Option.map stored) hrow
    let cleared : State := forgetApplied fresh.routing
    obtain ⟨rule, houtcome, hget⟩ : ∃ rule, Routing.Outcome cleared.defaultPolicy
        (cleared.applied.get device) entry.lastIp .default (env device) rule ∧
      (applyAll cleared env fresh.store.ruled).applied.get device = some rule :=
        applyAll_outcome (nodup_ruled hids) hentry
    have hresolved : resolveTarget cleared.defaultPolicy .default = .direct := by
      change resolveTarget (policyTunnel policy) .default = .direct
      rw [hdirect]
      rfl
    rw [effective, happlied, hget]
    cases houtcome with
    | kept rule hkept htarget => exact htarget.trans hresolved
    | bound tunnel table dnsUpstream htunnel =>
      rw [hresolved] at htunnel
      cases htunnel
    | direct => rfl
  have hframe := clampDefaultBindings_frame env policy hshaped
  refine
    { keyed := hkeys
      synced := rfl
      shaped := hframe.2
      cached := .inl (hframe.1.trans (reconcile_defaultPolicy ..))
      followed := ?_
      clamped := ?_ }
  · intro device hdefault hdirect
    left
    apply effective_clampDefaultBindings hkeys
    exact .inl (hfollowed device hdefault hdirect)
  · intro device hclamped
    left
    apply effective_clampDefaultBindings hkeys
    cases hpolicy : policyTunnel policy with
    | none => exact .inl (hfollowed device hclamped.defaultRuled hpolicy)
    | some tunnel => exact .inr ⟨by simp, hclamped⟩

/-- Once both listeners have handled every event, no device with a `Default`
rule in a zone that forbids tunnels and permits direct is bound to a routing
table, present or not, provided that the enforcer had a clamp still to come
whenever the routing listener applied such a rule under a tunnel policy. -/
theorem clamped_devices_stay_direct (db : Database) (hkeyed : db.Keyed)
    (policy : PolicyText) (env : Uuid → Env) (labels : List Label) (final : Network)
    (hmeets : Meets Network.next Network.Orderly (.boot db policy env) labels)
    (hrun : run Network.next (.boot db policy env) labels = some final)
    (hrouted : final.toRoute = []) (henforced : final.toEnforce = [])
    (device : Uuid) (hclamped : Clamped final.db device) (rule : AppliedRule)
    (hrule : final.routing.applied.get device = some rule) : rule.table = none := by
  have htracked : final.Tracked :=
    run_invariant_of_meets (fun _ _ _ hbefore horderly hnext => hbefore.next horderly hnext)
      (.boot hkeyed policy env) hmeets hrun
  rcases htracked.clamped device hclamped with
    hdirect | ⟨event, hevent, -⟩ | ⟨event, hevent, -⟩
  · rw [effective, hrule] at hdirect
    exact htracked.shaped device rule hrule hdirect
  · rw [henforced] at hevent
    cases hevent
  · rw [hrouted] at hevent
    cases hevent

def iotDevice : Database := .seeded [⟨1, 0x202, some (ipv4 192 168 1 10), some .default⟩] none

theorem iotDevice_keyed : iotDevice.Keyed := by
  refine ⟨by decide, by decide, ?_⟩
  have hzones : ∀ device ∈ iotDevice.devices, (iotDevice.findZone device.zoneId).isSome = true := by
    decide
  intro device hdevice
  exact isSome_iff_exists.mp (hzones device hdevice)

def handled : List Label := [.route allHealthy, .enforce allHealthy]

/-- Under the direct policy the zone is closed to tunnels; then the policy
becomes a tunnel. -/
def policyFlip : List Label :=
  .operation (.updateZone 0x202
      { name := none
        isolationStance := none
        allowedTargets := some [.direct]
        memberIsolation := none
        subnet := none
        adminUiReachable := none
        isDefault := none
        isDefaultForNew := none }) ::
    handled ++ [.setDefaultPolicy tunnelPolicy.policy]

/-- The run ends with both listeners done and the device in the table of the
tunnel, which its zone forbids. -/
def EndsBound (labels : List Label) : Prop :=
  ∃ final ∈ run Network.next (.boot iotDevice directPolicy allHealthy) labels,
    final.toRoute = [] ∧ final.toEnforce = [] ∧ Clamped final.db 1 ∧
      (final.routing.applied.get 1).map AppliedRule.table = some (some 100)
  deriving Decidable

/-- The clamp is undone when the enforcer is the first to handle the policy
change, and when the tunnel comes up or the device is discovered after both
have handled it. -/
theorem clamped_device_bound_to_tunnel : EndsBound (policyFlip ++ handled.reverse) ∧
      EndsBound (policyFlip ++ handled ++ [.tunnelUp 9] ++ handled) ∧
      EndsBound (policyFlip ++ handled ++ [.deviceGone 1] ++ handled ++
        [.deviceDiscovered 1 (ipv4 192 168 1 10)] ++ handled) := by
  decide +kernel

theorem clamped_devices_stay_direct_policyFlip :
    ∃ final, run Network.next (.boot iotDevice directPolicy allHealthy)
        (policyFlip ++ handled) = some final ∧
      ∀ rule, final.routing.applied.get 1 = some rule → rule.table = none := by
  refine ⟨_, rfl, ?_⟩
  exact clamped_devices_stay_direct iotDevice iotDevice_keyed directPolicy
    allHealthy (policyFlip ++ handled) _ (by decide +kernel) rfl rfl rfl 1
    (by decide +kernel)

end Wardnet.Clamp
