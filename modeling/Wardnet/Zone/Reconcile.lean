import Wardnet.Zone.Isolation

/-!
# Bringing the kernel to the desired isolation

`reconcile_isolation` compares what it wants with what it recorded last, and
rebuilds the two chains and the gateway aliases when they differ.  The flush of
each chain and the rebuild are separate firewall transactions, each of which
may fail; a failure is logged, and the desired state is recorded all the same.
The proxy-neighbour entries and the switchback targets are reconciled apart
from these and left out.
-/

namespace Wardnet.Zone

open Net Transition

/-- The configuration that `reconcile_isolation` reads: the daemon's own
address with the mask of the LAN, and whether the daemon hands out the
addresses. -/
structure Site where
  base : Ipv4Network
  dhcpEnabled : Bool
  deriving DecidableEq

def Site.lanIp (site : Site) : Ipv4Addr := site.base.addr

/-- The gateway alias of each zone subnet, with its prefix length. -/
def zoneAliases (zones : List NetworkZone) : List (Ipv4Addr × ℕ) :=
  (zones.filterMap NetworkZone.subnet).map fun net => (gatewayFor net, net.length)

/-- `desired_alias_map`: one prefix length for each gateway. -/
def aliasMap (zones : List NetworkZone) : HashMap Ipv4Addr ℕ :=
  (zoneAliases zones).foldl (fun map entry => map.insert entry.1 entry.2) .empty

structure Desired where
  rules : ZoneIsolationRules
  aliases : HashMap Ipv4Addr ℕ

def desired (site : Site) (db : Database) : Desired :=
  if site.dhcpEnabled then ⟨desiredRules site.base db, aliasMap db.zones⟩
  else ⟨.empty, .empty⟩

def Desired.gateways (desired : Desired) : List Ipv4Addr :=
  sortBy (fun addr => [addr.toNat]) (desired.aliases.toList.map Prod.fst)

def Desired.record (desired : Desired) : ZoneIsolationRules × List Ipv4Addr :=
  (desired.rules, desired.gateways)

/-- The two chains, the addresses of the LAN interface, and
`last_isolation`. -/
structure Enforcer where
  chain : List FirewallRule
  natExempt : List (Ipv4Network × Ipv4Network)
  aliases : List (Ipv4Addr × ℕ)
  lastIsolation : Option (ZoneIsolationRules × List Ipv4Addr)
  deriving DecidableEq

/-- Which of the three transactions of `apply_zone_isolation` go through. -/
structure ApplyOutcome where
  flushIsolation : Bool
  flushNatExempt : Bool
  rebuild : Bool
  deriving DecidableEq

def ApplyOutcome.success : ApplyOutcome := ⟨true, true, true⟩

/-- `build_natexempt_batch`: both directions of each pair. -/
def buildNatExempt (rules : ZoneIsolationRules) : List (Ipv4Network × Ipv4Network) :=
  rules.natExemptPairs.flatMap fun pair => [pair, (pair.2, pair.1)]

/-- `apply_zone_isolation`.  A failed flush is skipped over; the rebuild
appends to what is in the chains then, or changes nothing. -/
def applyZoneIsolation (enforcer : Enforcer) (rules : ZoneIsolationRules)
    (outcome : ApplyOutcome) : Enforcer :=
  let chain := if outcome.flushIsolation then [] else enforcer.chain
  let natExempt := if outcome.flushNatExempt then [] else enforcer.natExempt
  if outcome.rebuild then
    { enforcer with
      chain := chain ++ buildChain rules
      natExempt := natExempt ++ buildNatExempt rules }
  else { enforcer with chain := chain, natExempt := natExempt }

/-- `add_interface_alias`: an address that is there already is kept. -/
def addInterfaceAlias (aliases : List (Ipv4Addr × ℕ))
    (entry : Ipv4Addr × ℕ) : List (Ipv4Addr × ℕ) :=
  Routing.addRule aliases entry

/-- The alias is the first host of its own subnet. -/
def looksManaged (entry : Ipv4Addr × ℕ) : Bool :=
  if hlength : entry.2 ≤ 32 then gatewayFor ⟨entry.1, entry.2, hlength⟩ == entry.1
  else false

def removeStaleGatewayAliases (site : Site) (desired : Desired)
    (aliases : List (Ipv4Addr × ℕ)) : List (Ipv4Addr × ℕ) :=
  aliases.filter fun entry =>
    entry.1 == site.lanIp || (desired.aliases.get entry.1).isSome ||
      site.base.contains entry.1 || !looksManaged entry

/-- `reconcile_isolation`, with the outcome of the firewall transactions. -/
def reconcileIsolation (site : Site) (db : Database) (enforcer : Enforcer)
    (outcome : ApplyOutcome) : Enforcer :=
  let desired := desired site db
  if enforcer.lastIsolation = some desired.record then enforcer
  else
    let applied := applyZoneIsolation enforcer desired.rules outcome
    { applied with
      aliases := removeStaleGatewayAliases site desired
        (desired.aliases.toList.foldl addInterfaceAlias applied.aliases)
      lastIsolation := some desired.record }

/-! ## Failing rebuilds -/

structure ReconcileCall where
  site : Site
  db : Database
  outcome : ApplyOutcome

/-- The enforcer, with the rules the last successful call left in the chain,
and whether the last call that touched the firewall failed. -/
structure Audit where
  enforcer : Enforcer
  installed : List FirewallRule
  failed : Bool
  deriving DecidableEq

/-- The call finds its desired state recorded and does nothing. -/
def Audit.Skips (audit : Audit) (call : ReconcileCall) : Prop :=
  audit.enforcer.lastIsolation = some (desired call.site call.db).record
  deriving Decidable

/-- A call succeeds unless it rebuilds the chains and the rebuild fails. -/
def Audit.call (audit : Audit) (call : ReconcileCall) : Option Audit :=
  let rules := buildChain (desired call.site call.db).rules
  let enforcer := reconcileIsolation call.site call.db audit.enforcer call.outcome
  if audit.Skips call then some ⟨enforcer, rules, audit.failed⟩
  else if call.outcome.rebuild then some ⟨enforcer, rules, false⟩
  else some ⟨enforcer, audit.installed, true⟩

/-- The chain holds the rules of the last successful call. -/
def Audit.Holds (audit : Audit) : Prop := audit.enforcer.chain = audit.installed
  deriving Decidable

/-- The flush of the chain and the rebuild go through together or not at all,
unless the chain is empty; and the state that a failed call asked for is not
asked for again by the next one. -/
def Audit.Orderly (audit : Audit) (call : ReconcileCall) : Prop :=
  (audit.Skips call → audit.failed = false) ∧
    (¬ audit.Skips call → call.outcome.flushIsolation = call.outcome.rebuild ∨
        audit.enforcer.chain = [])
  deriving Decidable

/-- A service that has not reconciled yet. -/
def Audit.fresh (chain : List FirewallRule) (natExempt : List (Ipv4Network × Ipv4Network))
    (aliases : List (Ipv4Addr × ℕ)) : Audit where
  enforcer := ⟨chain, natExempt, aliases, none⟩
  installed := chain
  failed := false

/-- Unless the last call failed, the chain holds what is recorded. -/
structure Audit.Sound (audit : Audit) : Prop where
  holds : audit.Holds
  recorded : audit.failed = false → ∀ record ∈ audit.enforcer.lastIsolation,
    audit.enforcer.chain = buildChain record.1

variable {outcome : ApplyOutcome} {enforcer : Enforcer} {db : Database} {site : Site}

theorem reconcileIsolation_of_skip
    (hskip : enforcer.lastIsolation = some (desired site db).record) :
    reconcileIsolation site db enforcer outcome = enforcer := by
  simp [reconcileIsolation, hskip]

theorem reconcileIsolation_chain (hchanged : enforcer.lastIsolation ≠ some (desired site db).record)
    (horderly : outcome.flushIsolation = outcome.rebuild ∨ enforcer.chain = []) :
    (reconcileIsolation site db enforcer outcome).chain =
      if outcome.rebuild then buildChain (desired site db).rules
      else enforcer.chain := by
  simp only [reconcileIsolation, hchanged, if_false, applyZoneIsolation]
  rcases horderly with hflush | hempty
  · cases hrebuild : outcome.rebuild <;> simp [hflush, hrebuild]
  · cases hrebuild : outcome.rebuild <;> simp [hempty]

theorem reconcileIsolation_lastIsolation :
    (reconcileIsolation site db enforcer outcome).lastIsolation =
      some (desired site db).record := by
  simp only [reconcileIsolation]
  split
  · assumption
  · rfl

theorem Audit.Sound.call {audit after : Audit} {call : ReconcileCall}
    (hsound : audit.Sound) (horderly : audit.Orderly call)
    (hcall : audit.call call = some after) : after.Sound := by
  by_cases hskip : audit.Skips call
  · have hclear := horderly.1 hskip
    have hchain := hsound.recorded hclear _ hskip
    simp only [Audit.call, hskip, if_true, Option.some.injEq,
      reconcileIsolation_of_skip hskip] at hcall
    subst hcall
    exact ⟨hchain, fun _ => hsound.recorded hclear⟩
  · have hchain := reconcileIsolation_chain hskip (horderly.2 hskip)
    cases hrebuild : call.outcome.rebuild with
    | true =>
      simp only [hrebuild, if_true] at hchain
      simp only [Audit.call, hskip, if_false, hrebuild, if_true, Option.some.injEq] at hcall
      subst hcall
      refine ⟨hchain, fun _ record hrecord => ?_⟩
      rw [reconcileIsolation_lastIsolation] at hrecord
      cases hrecord
      exact hchain
    | false =>
      simp only [hrebuild, Bool.false_eq_true, if_false] at hchain
      simp only [Audit.call, hskip, if_false, hrebuild,
        Bool.false_eq_true, Option.some.injEq] at hcall
      subst hcall
      exact ⟨hchain.trans hsound.holds, nofun⟩

/-- Whatever calls fail, the chain holds the rules of the last successful call
after each of them, provided that the flush and the rebuild of a call go
through together or not at all, and that a state whose rebuild failed is not
asked for again by the next call. -/
theorem chain_holds_last_successful_rules (chain : List FirewallRule)
    (natExempt : List (Ipv4Network × Ipv4Network))
    (aliases : List (Ipv4Addr × ℕ)) (calls : List ReconcileCall) (final : Audit)
    (hmeets : Meets Audit.call Audit.Orderly (.fresh chain natExempt aliases) calls)
    (hrun : run Audit.call (.fresh chain natExempt aliases) calls = some final) : final.Holds := by
  have hstart : (Audit.fresh chain natExempt aliases).Sound :=
    ⟨rfl, fun _ record hrecord => by cases hrecord⟩
  have hsound : final.Sound := by
    apply run_invariant_of_meets _ hstart hmeets hrun
    intro audit call after hbefore horderly hcall
    exact hbefore.call horderly hcall
  exact hsound.holds

def lanSite : Site := ⟨lanBase, true⟩

def oneSubnet : Database :=
  { Database.seeded [] none with
    zones := seedZones ++ [(subnetRequest "cameras" innerNet).zone 10] }

/-- The flush goes through and the rebuild fails: the chain is empty.  Nothing
goes through: the old rules stay, also when the next call could rebuild. -/
theorem failed_rebuild_opens_and_sticks : (∃ final, run Audit.call (.fresh [] [] [])
        [⟨lanSite, oneSubnet, .success⟩,
          ⟨lanSite, .seeded [] none, ⟨true, true, false⟩⟩] = some final ∧
      final.enforcer.chain = [] ∧ ¬ final.Holds) ∧
    ∃ final, run Audit.call (.fresh [] [] []) [⟨lanSite, .seeded [] none, .success⟩,
          ⟨lanSite, oneSubnet, ⟨false, false, false⟩⟩,
          ⟨lanSite, oneSubnet, .success⟩] = some final ∧
      final.installed = buildChain (desired lanSite oneSubnet).rules ∧ ¬ final.Holds := by
  constructor
  · decide +kernel
  · decide +kernel

/-- Nothing goes through, and the next call asks for another state. -/
def askedForAnother : List ReconcileCall :=
  [⟨lanSite, oneSubnet, .success⟩, ⟨lanSite, .seeded [] none, ⟨false, false, false⟩⟩,
    ⟨lanSite, oneSubnet, .success⟩]

theorem chain_holds_last_successful_rules_askedForAnother :
    ∃ final, run Audit.call (.fresh [] [] []) askedForAnother = some final ∧ final.Holds := by
  refine ⟨_, rfl, ?_⟩
  exact chain_holds_last_successful_rules [] [] [] askedForAnother _ (by decide +kernel) rfl

end Wardnet.Zone
