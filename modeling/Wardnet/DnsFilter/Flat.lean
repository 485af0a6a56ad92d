import Wardnet.DnsFilter.Outcome

/-!
# One filter for a whole device context

The profiles of a context and the sources of a profile are only a grouping:
the context answers as one filter that holds the rules of all its sources.
Where no rewrite is met, neither the grouping nor the order of the rules
matters.
-/

namespace Wardnet.Filter

open List
open Net (IpAddr)
open MatchOutcome (Continues commute_of_continues)

namespace DnsFilter

/-- The single filter with the rules of a list of filters: the unions of
their sets, and their complex rules in order. -/
def merge (filters : List DnsFilter) : DnsFilter where
  blockedDomains := filters.flatMap blockedDomains
  allowedDomains := filters.flatMap allowedDomains
  complex := filters.flatMap complex

section Query

variable (domain : Text) (qtype : RecordType) (client : IpAddr)

/-- What the complex rules of a filter contribute. -/
def complexOutcome (filter : DnsFilter) : MatchOutcome :=
  (filter.complex.map (ruleOutcome (normalize domain) qtype client)).prod

/-- One more source is searched in front of the others. -/
theorem check_merge_cons (filter : DnsFilter) (filters : List DnsFilter) :
    (merge (filter :: filters)).check domain qtype client = filter.check domain qtype client *
        (merge filters).check domain qtype client := by
  let name := normalize domain
  let rules (filter : DnsFilter) := filter.complexOutcome domain qtype client
  let allowed (filter : DnsFilter) := setOutcome .allow name filter.allowedDomains
  let blocked (filter : DnsFilter) := setOutcome .block name filter.blockedDomains
  have hallowed (filter : DnsFilter) (other : MatchOutcome) : Commute (allowed filter) other :=
    commute_of_continues (setOutcome_continues _ _ _) other
  have hblocked (filter : DnsFilter) (other : MatchOutcome) : Commute (blocked filter) other :=
    commute_of_continues (setOutcome_continues _ _ _) other
  have hcheck (filter : DnsFilter) : filter.check domain qtype client =
      rules filter * (allowed filter * blocked filter) :=
    check_eq_prod filter domain qtype client
  calc (merge (filter :: filters)).check domain qtype client
      = (rules filter * rules (merge filters)) * ((allowed filter * allowed (merge filters)) *
            (blocked filter * blocked (merge filters))) := by
        rw [hcheck]
        congr 1
        · simp only [rules, complexOutcome, merge, flatMap_cons, map_append,
            prod_append]
        · exact congrArg₂ _ (setOutcome_append _ _ _ _) (setOutcome_append _ _ _ _)
    _ = (rules filter * rules (merge filters)) * ((allowed filter * blocked filter) *
            (allowed (merge filters) * blocked (merge filters))) := by
        rw [(hallowed (merge filters) (blocked filter)).mul_mul_mul_comm]
    _ = (rules filter * (allowed filter * blocked filter)) *
          (rules (merge filters) * (allowed (merge filters) * blocked (merge filters))) := by
        have hsets : Commute (rules (merge filters)) (allowed filter * blocked filter) :=
          ((hallowed filter _).symm).mul_right (hblocked filter _).symm
        rw [hsets.mul_mul_mul_comm]
    _ = filter.check domain qtype client * (merge filters).check domain qtype client := by
        rw [hcheck, hcheck]

theorem prod_check_eq_check_merge (filters : List DnsFilter) :
    (filters.map fun filter => filter.check domain qtype client).prod =
      (merge filters).check domain qtype client := by
  induction filters with
  | nil =>
    rw [check_eq_prod]
    simp [merge, setOutcome, matchesSubdomain_eq_any, MatchOutcome.none_eq_one]
  | cons filter filters ih => rw [map_cons, prod_cons, ih, check_merge_cons]

end Query

end DnsFilter

open DnsFilter (merge)

section Query

variable (domain : Text) (qtype : RecordType) (client : IpAddr)

/-- The loop over the profiles finds what the merged filter finds. -/
theorem strongest_checkProfile (profiles : List (List DnsFilter)) :
    strongest none (profiles.map fun filters => checkProfile filters domain qtype client) =
      (merge profiles.flatten).check domain qtype client := by
  let check (filter : DnsFilter) := filter.check domain qtype client
  calc strongest none (profiles.map fun filters => checkProfile filters domain qtype client)
      = (profiles.map fun filters => (filters.map check).prod).prod := by
        rw [strongest_none_eq_prod]
        congr 2
        funext filters
        rw [checkProfile, strongest_none_eq_prod]
    _ = (profiles.flatten.map check).prod := by
        rw [map_flatten, prod_flatten, map_map]
        rfl
    _ = (merge profiles.flatten).check domain qtype client :=
        DnsFilter.prod_check_eq_check_merge domain qtype client _

theorem checkContext_eq_checkAction (profiles : List (List DnsFilter)) :
    checkContext profiles domain qtype client =
      (merge profiles.flatten).checkAction domain qtype client := by
  rw [checkContext, strongest_checkProfile, DnsFilter.checkAction]

/-! ## Rules without a rewrite -/

/-- No complex rule that matches a query rewrites it. -/
def NoRewrite (filter : DnsFilter) : Prop :=
  ∀ rule ∈ filter.complex, ruleMatches rule (normalize domain) = true →
    modifiersApply rule.modifiers qtype client = true →
    rule.modifiers.rewriteTo = none

end Query

/-- Two filters with the same rules, in any order. -/
structure SameRules (left right : DnsFilter) : Prop where
  blocked : ∀ ruleDomain, ruleDomain ∈ left.blockedDomains ↔ ruleDomain ∈ right.blockedDomains
  allowed : ∀ ruleDomain, ruleDomain ∈ left.allowedDomains ↔ ruleDomain ∈ right.allowedDomains
  complex : ∀ rule, rule ∈ left.complex ↔ rule ∈ right.complex

namespace MatchOutcome

variable {outcomes : List MatchOutcome}

/-- An outcome that is met again changes nothing. -/
theorem mul_prod_of_mem {outcome : MatchOutcome} (hcontinues : outcome.Continues)
    (hmem : outcome ∈ outcomes) : outcome * outcomes.prod = outcomes.prod := by
  induction outcomes with
  | nil => simp at hmem
  | cons head outcomes ih =>
    rw [prod_cons]
    rcases mem_cons.mp hmem with rfl | hmem
    · rw [← mul_assoc]
      cases outcome with
      | none => rfl
      | rewrite ip => exact absurd rfl (hcontinues ip)
      | found kind => cases kind <;> rfl
    · rw [(commute_of_continues hcontinues head).left_comm, ih hmem]

theorem prod_mul_prod_of_subset {part : List MatchOutcome}
    (hcontinues : ∀ outcome ∈ outcomes, outcome.Continues) (hsubset : part ⊆ outcomes) :
    part.prod * outcomes.prod = outcomes.prod := by
  induction part with
  | nil => rw [prod_nil, one_mul]
  | cons head part ih =>
    have hhead : head ∈ outcomes := hsubset mem_cons_self
    rw [prod_cons, mul_assoc, ih (subset_of_cons_subset hsubset),
      mul_prod_of_mem (hcontinues head hhead) hhead]

theorem prod_continues (hcontinues : ∀ outcome ∈ outcomes, outcome.Continues) :
    outcomes.prod.Continues := by
  induction outcomes with
  | nil => exact fun ip => by simp [← none_eq_one]
  | cons head outcomes ih =>
    rw [prod_cons]
    have hhead := hcontinues head mem_cons_self
    have htail := ih fun outcome hmem => hcontinues outcome (mem_cons_of_mem head hmem)
    intro ip
    rw [mul_def]
    cases head with
    | none => exact htail ip
    | rewrite ip => exact absurd rfl (hhead ip)
    | found kind =>
      cases hprod : outcomes.prod with
      | none => simp [andThen]
      | rewrite ip => exact absurd hprod (htail ip)
      | found new =>
        rw [andThen]
        split <;> simp

/-- Without a rewrite only the outcomes that occur matter. -/
theorem prod_congr_mem {left right : List MatchOutcome}
    (hcontinues : ∀ outcome ∈ left, outcome.Continues)
    (hmem : ∀ outcome, outcome ∈ left ↔ outcome ∈ right) : left.prod = right.prod := by
  have hright : ∀ outcome ∈ right, outcome.Continues :=
    fun outcome hin => hcontinues outcome ((hmem outcome).mpr hin)
  calc left.prod = right.prod * left.prod :=
        (prod_mul_prod_of_subset hcontinues fun outcome hin => (hmem outcome).mpr hin).symm
    _ = left.prod * right.prod := commute_of_continues (prod_continues hright) _
    _ = right.prod := prod_mul_prod_of_subset hright fun outcome hin => (hmem outcome).mp hin

end MatchOutcome

section Query

variable {domain : Text} {qtype : RecordType} {client : IpAddr}

theorem DnsFilter.check_congr {left right : DnsFilter}
    (hrewrite : NoRewrite domain qtype client left) (hsame : SameRules left right) :
    left.check domain qtype client = right.check domain qtype client := by
  have hrules : (left.complex.map (ruleOutcome (normalize domain) qtype client)).prod =
      (right.complex.map (ruleOutcome (normalize domain) qtype client)).prod := by
    apply MatchOutcome.prod_congr_mem
    · intro outcome hmem
      obtain ⟨rule, hrule, rfl⟩ := mem_map.mp hmem
      intro ip
      rw [ruleOutcome]
      split
      next happlies =>
        rw [hrewrite rule hrule happlies.1 happlies.2]
        simp
      · simp
    · intro outcome
      simp only [mem_map, hsame.complex]
  rw [check_eq_prod, check_eq_prod, hrules, setOutcome_congr hsame.allowed,
    setOutcome_congr hsame.blocked]

end Query

/-- A device context answers as the single filter with all the rules of its
profiles.  When no rewrite rule matches, another context with the same rules,
however they are split and ordered, gives the same answer. -/
theorem checkContext_flat (profiles : List (List DnsFilter)) (domain : Text)
    (qtype : RecordType) (client : IpAddr) : checkContext profiles domain qtype client =
        (merge profiles.flatten).checkAction domain qtype client ∧
      (NoRewrite domain qtype client (merge profiles.flatten) → ∀ others : List (List DnsFilter),
          SameRules (merge profiles.flatten) (merge others.flatten) →
          checkContext others domain qtype client = checkContext profiles domain qtype client) := by
  constructor
  · exact checkContext_eq_checkAction domain qtype client profiles
  · intro hrewrite others hsame
    rw [checkContext_eq_checkAction, checkContext_eq_checkAction, DnsFilter.checkAction,
      DnsFilter.checkAction, DnsFilter.check_congr hrewrite hsame]

/-- A blocklist with one domain. -/
def trackSource : DnsFilter := ⟨["track.example".toList], [], []⟩

/-- A source that allows a domain, but for its A records. -/
def adsSource : DnsFilter where
  blockedDomains := []
  allowedDomains := ["ads.example".toList]
  complex := [.domainBlock "ads.example".toList ⟨some [.a], none, none, true⟩ false]

theorem noRewrite_adsSource (domain : Text) (qtype : RecordType) (client : IpAddr) :
    NoRewrite domain qtype client (merge [trackSource, adsSource]) := by
  intro rule hrule _ _
  simp only [DnsFilter.merge, trackSource, adsSource, flatMap_cons, flatMap_nil,
    append_nil, nil_append, mem_singleton] at hrule
  rw [hrule]
  rfl

theorem checkContext_flat_regrouped :
    checkContext [[trackSource, adsSource]] "x.ads.example".toList .a (.v4 1) = .block ∧
      checkContext [[adsSource], [], [trackSource]] "x.ads.example".toList .a (.v4 1) =
        checkContext [[trackSource, adsSource]] "x.ads.example".toList .a (.v4 1) := by
  constructor
  · decide +kernel
  · apply (checkContext_flat [[trackSource, adsSource]] _ _ _).2
    · exact noRewrite_adsSource _ _ _
    · exact ⟨fun _ => Iff.rfl, fun _ => Iff.rfl, fun _ => Iff.rfl⟩

end Wardnet.Filter
