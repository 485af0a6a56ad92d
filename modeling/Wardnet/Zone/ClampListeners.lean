import Wardnet.Zone.Clamp

/-!
# What the two listeners do to a clamped device

A device that ought to be direct is direct, or one of the listeners has still
to handle an event that makes it so.  Each listener keeps that: the routing
listener under the condition on the rules it applies, the enforcer always.
-/

namespace Wardnet.Clamp

open Net Transition Routing Zone

variable {network after : Network} {env : Uuid → Env} {device : Uuid}
  {event : Event} {state : State} {store : Store}

/-! ## What is still to come -/

/-- The routing listener is still going to re-apply the `Default` rules. -/
def Network.PolicyPending (network : Network) : Prop :=
  ∃ event ∈ network.toRoute, event.isPolicyChange = true

def DefaultRuled (db : Database) (device : Uuid) : Prop :=
  (db.findDevice device).bind Device.rule = some .default

theorem Clamped.defaultRuled {db : Database} (hclamped : Clamped db device) :
    DefaultRuled db device := by
  obtain ⟨row, hrow, hclamps⟩ := hclamped
  simp only [clamps, Bool.and_eq_true, decide_eq_true_eq] at hclamps
  exact Option.bind_eq_some_iff.mpr ⟨row, hrow, hclamps.1⟩

theorem Clamped.mem {db : Database} (hclamped : Clamped db device) :
    ∃ row ∈ db.devices, row.id = device := by
  obtain ⟨row, hrow, -⟩ := hclamped
  obtain ⟨hmem, hid⟩ := Table.find_eq_some hrow
  exact ⟨row, hmem, hid⟩

/-- Devices with a `Default` rule are direct under the direct policy, and in
zones that forbid tunnels under every policy, unless a listener has still to
see to it. -/
structure Network.Tracked (network : Network) : Prop where
  keyed : network.db.Keyed
  synced : network.db.defaultPolicy = policyTunnel network.policy
  shaped : Shaped network.routing
  cached : network.routing.defaultPolicy = policyTunnel network.policy ∨ network.PolicyPending
  followed : ∀ device, DefaultRuled network.db device → policyTunnel network.policy = none →
      effective network.routing device = .direct ∨ network.PolicyPending
  clamped : ∀ device, Clamped network.db device →
    effective network.routing device = .direct ∨ network.ClampPending ∨ network.PolicyPending

/-! ## The routing listener -/

/-- Only a policy change resolves targets with another policy than the cached
one, and no event carries a target. -/
theorem routing_of_other {routed : Routing.Event} (hother : event.isPolicyChange = false)
    (hrouted : event.routing = some routed) : policyAfter store state routed = state.defaultPolicy ∧
      ∀ target, routed ≠ .routingRuleChanged device target := by
  cases event with
  | defaultPolicyChanged policy => cases hother
  | zoneChanged event => cases hrouted
  | deviceDiscovered | deviceIpChanged | deviceGone | tunnelUp | tunnelDown =>
    cases hrouted
    exact ⟨rfl, fun _ => nofun⟩

theorem routeEvent_shaped (hkeyed : network.db.Keyed) (hshaped : Shaped network.routing) :
    Shaped (routeEvent network env event) := by
  unfold routeEvent
  split
  · exact hshaped.handleEvent (store_ids network ▸ hkeyed.devices)
  · exact hshaped

theorem routeEvent_defaultPolicy (hother : event.isPolicyChange = false) :
    (routeEvent network env event).defaultPolicy = network.routing.defaultPolicy := by
  unfold routeEvent
  split
  next routed hrouted =>
    rw [handleEvent_defaultPolicy]
    exact (@routing_of_other 0 _ _ _ _ hother hrouted).1
  · rfl

variable {policy : PolicyText}

/-- A policy change applies the `Default` rule of every device that has
one. -/
theorem assigned_policyChanged (hdefault : DefaultRuled network.db device) :
    ∃ ip, assigned network.store state device
      (.defaultPolicyChanged policy) = some (ip, .default) := by
  obtain ⟨row, hrow, hrule⟩ := Option.bind_eq_some_iff.mp hdefault
  simp [assigned, findById_store, hrow, stored, hrule]

theorem effective_route_policyChanged (policy : PolicyText)
    (hkeyed : network.db.Keyed) (hdefault : DefaultRuled network.db device)
    (hdirect : policyTunnel network.policy = none) :
    effective (routeEvent network env (.defaultPolicyChanged policy)) device = .direct := by
  obtain ⟨ip, hassigned⟩ := assigned_policyChanged hdefault
  apply effective_handleEvent (store_ids network ▸ hkeyed.devices)
  · intro hnone
    rw [hassigned] at hnone
    cases hnone
  · intro found target hfound
    rw [hassigned] at hfound
    cases hfound
    have hpolicy : policyAfter network.store network.routing
        (.defaultPolicyChanged policy) = none := hdirect
    rw [hpolicy]
    rfl

/-- Another event leaves a direct device direct, unless its `Default` rule is
applied under a policy that is a tunnel. -/
theorem effective_route_other (hother : event.isPolicyChange = false)
    (hkeyed : network.db.Keyed) (hdefault : DefaultRuled network.db device)
    (hdirect : effective network.routing device = .direct)
    (hpolicy : network.Reapplies event device → network.routing.defaultPolicy = none) :
    effective (routeEvent network env event) device = .direct := by
  unfold routeEvent
  cases hrouted : event.routing with
  | none => exact hdirect
  | some routed =>
    apply effective_handleEvent (store_ids network ▸ hkeyed.devices) fun _ => hdirect
    intro ip target hassigned
    obtain ⟨hafter, hnot⟩ := routing_of_other hother hrouted
    rcases assigned_source hassigned with
      hevent | hrule | ⟨rule, hget, htarget⟩
    · exact absurd hevent (hnot target)
    · rw [Store.ruleFor, findById_store, Option.bind_map] at hrule
      cases hdefault.symm.trans hrule
      rw [hafter, hpolicy ⟨routed, hrouted, (ip, .default), hassigned, rfl⟩]
      rfl
    · rw [effective, hget] at hdirect
      rw [htarget.symm.trans hdirect]
      rfl

variable {rest : List Event}

theorem Network.Tracked.routeOther (htracked : network.Tracked)
    (hqueue : network.toRoute = event :: rest) (hother : event.isPolicyChange = false)
    (horderly : policyTunnel network.policy ≠ none → ∀ device,
      Clamped network.db device → network.Reapplies event device → network.ClampPending) :
    Network.Tracked
      { network with
        routing := routeEvent network env event
        toRoute := rest } := by
  let routed : Network :=
    { network with
      toRoute := rest }
  have hpending : network.PolicyPending → routed.PolicyPending := by
    rintro ⟨waiting, hwaiting, hchange⟩
    rw [hqueue] at hwaiting
    rcases List.mem_cons.mp hwaiting with rfl | hrest
    · simp [hother] at hchange
    · exact ⟨waiting, hrest, hchange⟩
  refine
    { keyed := htracked.keyed
      synced := htracked.synced
      shaped := routeEvent_shaped htracked.keyed htracked.shaped
      cached := ?_
      followed := ?_
      clamped := ?_ }
  · have hcached := htracked.cached.imp_right hpending
    rwa [← routeEvent_defaultPolicy hother] at hcached
  · intro device hdefault hpolicy
    rcases htracked.followed device hdefault hpolicy with
      hdirect | hwaiting
    · rcases htracked.cached with hcached | hwaiting
      · left
        apply effective_route_other hother htracked.keyed hdefault hdirect
        exact fun _ => hcached.trans hpolicy
      · exact .inr (hpending hwaiting)
    · exact .inr (hpending hwaiting)
  · intro device hclamped
    by_cases hclamp : network.ClampPending
    · exact .inr (.inl hclamp)
    · rcases htracked.clamped device hclamped with
        hdirect | hcontra | hwaiting
      · rcases htracked.cached with hcached | hwaiting
        · left
          apply effective_route_other hother htracked.keyed hclamped.defaultRuled hdirect
          intro hreapplies
          rw [hcached]
          cases hpolicy : policyTunnel network.policy with
          | none => rfl
          | some tunnel =>
            exact absurd (horderly (by simp [hpolicy]) device hclamped hreapplies) hclamp
        · exact .inr (.inr (hpending hwaiting))
      · exact absurd hcontra hclamp
      · exact .inr (.inr (hpending hwaiting))

/-! ## The enforcer -/

theorem clampDefaultBindings_of_direct (hdirect : policyTunnel policy = none) :
    clampDefaultBindings network env policy = network.routing := by
  have htarget : fromDefaultPolicy policy = .direct := by
    rw [← resolveTarget_default, hdirect]
    rfl
  have hnone : network.db.devices.filter (clamps network.db .direct) = [] :=
    List.filter_eq_nil_iff.mpr fun row _ => by
      cases hzone : network.db.findZone row.zoneId <;> simp [clamps, hzone]
  simp only [clampDefaultBindings, htarget, AllowedTargetKind.ofTarget, hnone]
  rfl

theorem effective_clampDefaultBindings (hkeyed : network.db.Keyed)
    (hdirect : effective network.routing device = .direct ∨
      (policyTunnel policy ≠ none ∧ Clamped network.db device)) :
    effective (clampDefaultBindings network env policy) device = .direct := by
  cases hpolicy : policyTunnel policy with
  | none =>
    rw [clampDefaultBindings_of_direct hpolicy]
    exact hdirect.resolve_right fun hclamped => hclamped.1 hpolicy
  | some tunnel =>
    have htarget : fromDefaultPolicy policy = .tunnel tunnel := by
      rw [← resolveTarget_default, hpolicy]
      rfl
    simp only [clampDefaultBindings, htarget, AllowedTargetKind.ofTarget]
    apply effective_pinAll
    · intro row hrow
      have hmem : row ∈ network.db.devices := List.mem_of_mem_filter hrow
      have hfind : network.db.findDevice row.id = some row := Table.find_of_mem hkeyed.devices hmem
      simp [findById_store, hfind]
    · apply hdirect.imp_right
      rintro ⟨-, row, hrow, hclamps⟩
      obtain ⟨hmem, rfl⟩ := Table.find_eq_some hrow
      exact List.mem_map_of_mem (List.mem_filter.mpr ⟨hmem, hclamps⟩)

theorem clampDefaultBindings_frame (env : Uuid → Env) (policy : PolicyText)
    (hshaped : Shaped network.routing) :
    (clampDefaultBindings network env policy).defaultPolicy = network.routing.defaultPolicy ∧
      Shaped (clampDefaultBindings network env policy) := by
  unfold clampDefaultBindings
  split
  · exact ⟨rfl, hshaped⟩
  · exact ⟨pinAll_defaultPolicy, hshaped.pinAll⟩

theorem effective_enforce (hkeyed : network.db.Keyed)
    (hdirect : effective network.routing device = .direct ∨
      (event.isTunnelPolicy = true ∧ Clamped network.db device)) :
    effective (enforceEvent network env event) device = .direct := by
  cases event with
  | defaultPolicyChanged policy =>
    apply effective_clampDefaultBindings hkeyed
    apply hdirect.imp_right
    rintro ⟨htunnel, hclamped⟩
    exact ⟨Option.isSome_iff_ne_none.mp htunnel, hclamped⟩
  | deviceDiscovered | deviceIpChanged | deviceGone | tunnelUp | tunnelDown | zoneChanged =>
    exact hdirect.resolve_right nofun

theorem Network.Tracked.enforce (htracked : network.Tracked)
    (hqueue : network.toEnforce = event :: rest) : Network.Tracked
      { network with
        routing := enforceEvent network env event
        toEnforce := rest } := by
  obtain ⟨hpolicy, hshaped⟩ : (enforceEvent network env event).defaultPolicy =
      network.routing.defaultPolicy ∧ Shaped (enforceEvent network env event) := by
    unfold enforceEvent
    split
    · exact clampDefaultBindings_frame env _ htracked.shaped
    all_goals exact ⟨rfl, htracked.shaped⟩
  refine
    { keyed := htracked.keyed
      synced := htracked.synced
      shaped := hshaped
      cached := ?_
      followed := ?_
      clamped := ?_ }
  · have hcached := htracked.cached
    rwa [← hpolicy] at hcached
  · intro device hdefault hdirect
    apply (htracked.followed device hdefault hdirect).imp_left
    intro hbefore
    exact effective_enforce htracked.keyed (.inl hbefore)
  · intro device hclamped
    rcases htracked.clamped device hclamped with
      hdirect | ⟨waiting, hwaiting, htunnel⟩ | hpending
    · exact .inl (effective_enforce htracked.keyed (.inl hdirect))
    · rw [hqueue] at hwaiting
      rcases List.mem_cons.mp hwaiting with rfl | hrest
      · exact .inl (effective_enforce htracked.keyed (.inr ⟨htunnel, hclamped⟩))
      · exact .inr (.inl ⟨waiting, hrest, htunnel⟩)
    · exact .inr (.inr hpending)

end Wardnet.Clamp
