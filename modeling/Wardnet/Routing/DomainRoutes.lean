import Wardnet.Common.Dotted
import Wardnet.Core.Transition
import Wardnet.Routing.Service

/-!
# Leases of domain routes

A resolved destination is pinned to a routing table for as long as its answer
lives: one kernel rule, and one entry that remembers the table.  Every netlink
call may fail.  A periodic collection removes what has lapsed, and then the
rules whose source and destination have no entry; it does not look at the table
of a rule, so that the rule a failed swap leaves behind stays beside the new one.
-/

namespace Wardnet.DomainRoutes

open HashMap Routing Transition

abbrev Key := Text × Text

structure DomainRouteEntry where
  table : ℕ
  expiry : ℕ
  deriving DecidableEq

/-- The tracked leases, and the kernel rules at their priority. -/
structure State where
  domainRoutes : HashMap Key DomainRouteEntry
  rules : List (Key × ℕ)
  deriving DecidableEq

/-- The rules that the kernel agrees to add and to remove. -/
structure Netlink where
  add : Key × ℕ → Bool
  remove : Key × ℕ → Bool

def removeDomainRouteRule (netlink : Netlink) (rules : List (Key × ℕ)) (rule : Key × ℕ) :
    List (Key × ℕ) :=
  if netlink.remove rule then rules.filter fun other => other ≠ rule else rules

/-- One destination of `route_resolved_domain`: its lease is extended, moved to
another table, or new. -/
def routeDestination (netlink : Netlink) (table expiry : ℕ) (state : State) (key : Key) : State :=
  match state.domainRoutes.get key with
  | some entry =>
    if entry.table = table then
      { state with domainRoutes := state.domainRoutes.insert key ⟨table, expiry⟩ }
    else
      let rules := removeDomainRouteRule netlink state.rules (key, entry.table)
      if netlink.add (key, table) then
        ⟨state.domainRoutes.insert key ⟨table, expiry⟩, addRule rules (key, table)⟩
      else ⟨state.domainRoutes.remove key, rules⟩
  | none =>
    if netlink.add (key, table) then
      ⟨state.domainRoutes.insert key ⟨table, expiry⟩, addRule state.rules (key, table)⟩
    else state

def destination : Net.IpAddr → Option Text
  | .v4 addr => some (Net.display addr).toList
  | .v6 _ => none

/-- The part of `route_resolved_domain` under the lock, once the table of the
target is known. -/
def routeResolvedDomain (netlink : Netlink) (state : State) (deviceIp : Text)
    (resolvedIps : List Net.IpAddr) (table ttlSecs now : ℕ) : State :=
  ((resolvedIps.filterMap destination).map fun dst => (deviceIp, dst)).foldl
    (routeDestination netlink table (now + max 30 (min ttlSecs 3600))) state

/-- `gc_domain_routes`.  Its two removals have their own failures, and nothing
is swept when the rules cannot be listed. -/
def gcDomainRoutes (lapsing sweeping : Netlink) (lists : Bool) (state : State) (now : ℕ) : State :=
  let expired := state.domainRoutes.toList.filter fun entry => entry.2.expiry ≤ now
  let routes := state.domainRoutes.retain fun _ entry => now < entry.expiry
  let rules := (expired.map fun entry => (entry.1, entry.2.table)).foldl
    (removeDomainRouteRule lapsing) state.rules
  let orphans := rules.filter fun rule => routes.get rule.1 = none
  ⟨routes, if lists then orphans.foldl (removeDomainRouteRule sweeping) rules else rules⟩

inductive Label
  | route (netlink : Netlink) (deviceIp : Text) (resolvedIps : List Net.IpAddr)
      (table ttlSecs now : ℕ)
  | gc (lapsing sweeping : Netlink) (lists : Bool) (now : ℕ)

def next (state : State) : Label → Option State
  | .route netlink deviceIp resolvedIps table ttlSecs now =>
    some (routeResolvedDomain netlink state deviceIp resolvedIps table ttlSecs now)
  | .gc lapsing sweeping lists now => some (gcDomainRoutes lapsing sweeping lists state now)

/-! ## What is left of the rules -/

variable {netlink lapsing sweeping : Netlink} {rules : List (Key × ℕ)} {rule other : Key × ℕ}

theorem mem_removeDomainRouteRule : other ∈ removeDomainRouteRule netlink rules rule ↔
      other ∈ rules ∧ ¬ (netlink.remove other ∧ other = rule) := by
  unfold removeDomainRouteRule
  by_cases heq : other = rule
  · subst heq
    cases netlink.remove other <;> simp
  · split <;> simp [heq]

theorem mem_foldl_remove {removed : List (Key × ℕ)} :
    other ∈ removed.foldl (removeDomainRouteRule netlink) rules ↔
      other ∈ rules ∧ ¬ (netlink.remove other ∧ other ∈ removed) := by
  induction removed generalizing rules with
  | nil => simp
  | cons rule removed ih =>
    rw [List.foldl_cons, ih, mem_removeDomainRouteRule, List.mem_cons]
    tauto

variable {state after : State} {lists : Bool} {now : ℕ}

theorem get_gcDomainRoutes {key : Key} {entry : DomainRouteEntry} :
    (gcDomainRoutes lapsing sweeping lists state now).domainRoutes.get key = some entry ↔
      state.domainRoutes.get key = some entry ∧ now < entry.expiry := by
  simp [gcDomainRoutes, Option.filter_eq_some_iff]

/-- What a collection leaves: the rules that are neither the rule of a lapsed
lease nor, if it could list them, without a lease that is left. -/
theorem mem_gcDomainRoutes : rule ∈ (gcDomainRoutes lapsing sweeping lists state now).rules ↔
      rule ∈ state.rules ∧
      ¬ (lapsing.remove rule ∧ ∃ entry, state.domainRoutes.get rule.1 = some entry ∧
        entry.expiry ≤ now ∧ entry.table = rule.2) ∧ ¬ (lists ∧ sweeping.remove rule ∧
        (gcDomainRoutes lapsing sweeping lists state now).domainRoutes.get rule.1 = none) := by
  have hlapsed : rule ∈ (state.domainRoutes.toList.filter fun entry => entry.2.expiry ≤ now).map
      (fun entry => (entry.1, entry.2.table)) ↔ ∃ entry,
        state.domainRoutes.get rule.1 = some entry ∧ entry.expiry ≤ now ∧ entry.table = rule.2 := by
    simp only [List.mem_map, List.mem_filter, decide_eq_true_eq]
    constructor
    · rintro ⟨⟨key, entry⟩, ⟨hmem, hexpiry⟩, rfl⟩
      exact ⟨entry, mem_toList.mp hmem, hexpiry, rfl⟩
    · rintro ⟨entry, hget, hexpiry, htable⟩
      exact ⟨(rule.1, entry), ⟨mem_toList.mpr hget, hexpiry⟩, Prod.ext rfl htable⟩
  unfold gcDomainRoutes
  cases lists
  · simp [mem_foldl_remove, hlapsed]
  · simp only [if_true, mem_foldl_remove, List.mem_filter, decide_eq_true_eq, hlapsed, true_and,
      and_assoc]
    refine and_congr_right fun hmem => and_congr_right fun hkept => ?_
    simp [hmem, hkept]

/-! ## Every lease has its rule -/

def Ruled (state : State) : Prop :=
  ∀ key entry, state.domainRoutes.get key = some entry → (key, entry.table) ∈ state.rules

theorem Ruled.routeDestination (hruled : Ruled state) (table expiry : ℕ) (key : Key) :
    Ruled (routeDestination netlink table expiry state key) := by
  have hkept (old : ℕ) : ∀ other entry, other ≠ key → state.domainRoutes.get other = some entry →
      (other, entry.table) ∈ removeDomainRouteRule netlink state.rules (key, old) := by
    intro other entry hne hget
    rw [mem_removeDomainRouteRule]
    exact ⟨hruled other entry hget, fun heq => hne (Prod.mk.inj heq.2).1⟩
  unfold DomainRoutes.routeDestination
  split
  next entry hentry =>
    split_ifs with htable hadd
    · intro other found hget
      obtain ⟨rfl, rfl⟩ | ⟨-, hget⟩ := get_insert_eq_some.mp hget
      · exact htable ▸ hruled other entry hentry
      · exact hruled other found hget
    · intro other found hget
      rw [mem_addRule]
      obtain ⟨rfl, rfl⟩ | ⟨hne, hget⟩ := get_insert_eq_some.mp hget
      · exact .inr rfl
      · exact .inl (hkept entry.table other found hne hget)
    · intro other found hget
      rw [get_remove] at hget
      split_ifs at hget with hne
      exact hkept entry.table other found hne hget
  next =>
    split_ifs
    · intro other found hget
      rw [mem_addRule]
      obtain ⟨rfl, rfl⟩ | ⟨-, hget⟩ := get_insert_eq_some.mp hget
      · exact .inr rfl
      · exact .inl (hruled other found hget)
    · exact hruled

theorem Ruled.gcDomainRoutes (hruled : Ruled state) :
    Ruled (gcDomainRoutes lapsing sweeping lists state now) := by
  intro key entry hget
  obtain ⟨hbefore, hlive⟩ := get_gcDomainRoutes.mp hget
  refine mem_gcDomainRoutes.mpr ⟨hruled key entry hbefore, ?_, fun hswept => ?_⟩
  · rintro ⟨-, other, hother, hlapsed, -⟩
    rw [hbefore, Option.some.injEq] at hother
    exact absurd (hother ▸ hlapsed) (Nat.not_le.mpr hlive)
  · exact absurd (hget.symm.trans hswept.2.2) (by simp)

theorem Ruled.next {label : Label} (hruled : Ruled state) (hnext : next state label = some after) :
    Ruled after := by
  cases label with
  | route netlink deviceIp resolvedIps table ttlSecs now =>
    obtain rfl := Option.some.inj hnext
    exact List.foldlRecOn (motive := Ruled) _ _ hruled
      fun state hstate key _ => hstate.routeDestination table _ key
  | gc lapsing sweeping lists now =>
    obtain rfl := Option.some.inj hnext
    exact hruled.gcDomainRoutes

/-! ## After a collection that succeeds -/

/-- No rule of a live lease points at a table that is not the lease's. -/
def Settled (state : State) (now : ℕ) : Prop :=
  ∀ rule ∈ state.rules, ∀ entry ∈ state.domainRoutes.get rule.1,
    now < entry.expiry → entry.table = rule.2
  deriving Decidable

/-- Whatever rules were left in the kernel at the start, and whichever calls
failed since, a collection that succeeds leaves exactly the rules of the live
leases if and only if it starts from a settled state. -/
theorem collected_rules_are_leases_iff {leftover : List (Key × ℕ)} {labels : List Label}
    (hrun : run next ⟨.empty, leftover⟩ labels = some state)
    (hsweeping : ∀ rule, sweeping.remove rule = true) :
    (∀ key table, (key, table) ∈ (gcDomainRoutes lapsing sweeping true state now).rules ↔
      ∃ entry, (gcDomainRoutes lapsing sweeping true state now).domainRoutes.get key = some entry ∧
        now < entry.expiry ∧ entry.table = table) ↔ Settled state now := by
  have hruled : Ruled state := by
    refine run_invariant (fun _ _ _ => Ruled.next) ?_ hrun
    intro key entry hget
    simp at hget
  constructor
  · intro hexact rule hrule entry hentry hlive
    have hget : (gcDomainRoutes lapsing sweeping true state now).domainRoutes.get rule.1 =
        some entry := get_gcDomainRoutes.mpr ⟨hentry, hlive⟩
    have hkept : rule ∈ (gcDomainRoutes lapsing sweeping true state now).rules := by
      refine mem_gcDomainRoutes.mpr ⟨hrule, ?_, fun hswept => ?_⟩
      · rintro ⟨-, other, hother, hlapsed, -⟩
        cases hentry.symm.trans hother
        exact absurd hlapsed (Nat.not_le.mpr hlive)
      · cases hget.symm.trans hswept.2.2
    obtain ⟨found, hfound, -, htable⟩ := (hexact rule.1 rule.2).mp hkept
    cases hget.symm.trans hfound
    exact htable
  · intro hsettled key table
    constructor
    · intro hmem
      obtain ⟨hbefore, -, hswept⟩ := mem_gcDomainRoutes.mp hmem
      cases hget : (gcDomainRoutes lapsing sweeping true state now).domainRoutes.get key with
      | none => exact absurd ⟨rfl, hsweeping _, hget⟩ hswept
      | some entry =>
        obtain ⟨hfound, hlive⟩ := get_gcDomainRoutes.mp hget
        exact ⟨entry, rfl, hlive, hsettled _ hbefore entry hfound hlive⟩
    · rintro ⟨entry, hget, -, rfl⟩
      exact hruled.gcDomainRoutes key entry hget

/-- A kernel that does what it is asked, and one that keeps what it has. -/
def obeying : Netlink := ⟨fun _ => true, fun _ => true⟩

def keeping : Netlink := ⟨fun _ => true, fun _ => false⟩

/-- The state after one answer is pinned to a tunnel's table and, ten seconds
later, to the main table. -/
def retargeted (netlink : Netlink) : Option State :=
  run next ⟨.empty, []⟩ [.route obeying "192.168.1.20".toList [.v4 0x5DB8D822#32] 101 300 0,
      .route netlink "192.168.1.20".toList [.v4 0x5DB8D822#32] 254 300 10]

theorem collected_rules_are_leases_iff_retargeted :
    (("192.168.1.20".toList, "93.184.216.34".toList), 254) ∈
      (gcDomainRoutes obeying obeying true ((retargeted obeying).get (by decide)) 60).rules := by
  have hrun : retargeted obeying = some ((retargeted obeying).get (by decide)) := by simp
  exact ((collected_rules_are_leases_iff hrun (fun _ => rfl)).mpr (by decide) _ 254).mpr
    ⟨⟨254, 310⟩, by decide⟩

/-- The removal of the first rule fails and nothing else does. -/
theorem old_table_stays_pinned :
    (retargeted keeping).map (fun state => gcDomainRoutes obeying obeying true state 60) =
      some ⟨HashMap.empty.insert ("192.168.1.20".toList, "93.184.216.34".toList) ⟨254, 310⟩,
        [(("192.168.1.20".toList, "93.184.216.34".toList), 101),
          (("192.168.1.20".toList, "93.184.216.34".toList), 254)]⟩ := by
  decide

end Wardnet.DomainRoutes
