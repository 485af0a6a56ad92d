import Mathlib.Algebra.BigOperators.Group.List.Basic
import Wardnet.DnsFilter.Subdomain

/-!
# Outcomes in sequence

Searching one part of the rules and then another is a product of outcomes:
a rewrite absorbs what comes after it, and of two matches the stronger one is
kept.  Each level of the filter is a product over the level below.  A match
without a rewrite commutes with every outcome, which is what lets rules move
between sources and profiles.
-/

namespace Wardnet.Filter

open Net (IpAddr)

namespace MatchOutcome

/-- What a search reports that has met one outcome and then another. -/
def andThen : MatchOutcome → MatchOutcome → MatchOutcome
  | .none, second => second
  | .rewrite ip, _ => .rewrite ip
  | .found kind, .none => .found kind
  | .found _, .rewrite ip => .rewrite ip
  | .found kind, .found new => if kind.rank < new.rank then .found new else .found kind

theorem andThen_none (outcome : MatchOutcome) : outcome.andThen .none = outcome := by
  cases outcome <;> rfl

theorem andThen_assoc (first second third : MatchOutcome) :
    (first.andThen second).andThen third = first.andThen (second.andThen third) := by
  cases first with
  | none | rewrite => rfl
  | found kind =>
    cases second with
    | none | rewrite => rfl
    | found new =>
      cases third with
      | none => rw [andThen_none, andThen_none]
      | rewrite ip => cases kind <;> cases new <;> rfl
      | found newer => cases kind <;> cases new <;> cases newer <;> rfl

instance : Monoid MatchOutcome where
  mul := andThen
  one := .none
  mul_assoc := andThen_assoc
  one_mul := fun _ => rfl
  mul_one := andThen_none

theorem mul_def (first second : MatchOutcome) : first * second = first.andThen second := rfl

/-- The outcome that found nothing is the unit. -/
theorem none_eq_one : MatchOutcome.none = 1 := rfl

/-- Not a rewrite: the outcome leaves the search going. -/
def Continues (outcome : MatchOutcome) : Prop := ∀ ip, outcome ≠ .rewrite ip

theorem commute_of_continues {outcome : MatchOutcome} (hcontinues : outcome.Continues)
    (other : MatchOutcome) : Commute outcome other := by
  change outcome.andThen other = other.andThen outcome
  cases outcome with
  | none => rw [andThen_none]; rfl
  | rewrite ip => exact absurd rfl (hcontinues ip)
  | found kind =>
    cases other with
    | none | rewrite => rfl
    | found new => cases kind <;> cases new <;> rfl

end MatchOutcome

open MatchOutcome (Continues commute_of_continues)

/-- The loop over the outcomes is their product. -/
theorem strongest_eq_mul_prod (best : Option MatchKind) (outcomes : List MatchOutcome) :
    strongest best outcomes = best.elim .none .found * outcomes.prod := by
  induction outcomes generalizing best with
  | nil => rw [List.prod_nil, mul_one, strongest]
  | cons outcome outcomes ih =>
    rw [List.prod_cons, ← mul_assoc]
    cases outcome with
    | none => rw [strongest, ih, MatchOutcome.none_eq_one, mul_one]
    | rewrite ip => cases best <;> rfl
    | found kind =>
      have hupgrade : (upgrade best kind).elim MatchOutcome.none .found =
          best.elim .none .found * .found kind := by
        cases best with
        | none => rfl
        | some old => cases old <;> cases kind <;> rfl
      rw [strongest, ih, hupgrade]

theorem strongest_none_eq_prod (outcomes : List MatchOutcome) :
    strongest none outcomes = outcomes.prod := by
  rw [strongest_eq_mul_prod]
  exact one_mul _

/-! ## The outcome of one filter -/

/-- What a set of domains contributes. -/
def setOutcome (kind : MatchKind) (domain : Text) (domains : List Text) : MatchOutcome :=
  if matchesSubdomain domain domains then .found kind else .none

theorem setOutcome_continues (kind : MatchKind) (domain : Text)
    (domains : List Text) : (setOutcome kind domain domains).Continues := by
  intro ip
  rw [setOutcome]
  split <;> simp

theorem DnsFilter.check_eq_prod (filter : DnsFilter) (domain : Text)
    (qtype : RecordType) (client : IpAddr) : filter.check domain qtype client =
      (filter.complex.map (ruleOutcome (normalize domain) qtype client)).prod *
        (setOutcome .allow (normalize domain) filter.allowedDomains *
          setOutcome .block (normalize domain) filter.blockedDomains) := by
  rw [DnsFilter.check, strongest_none_eq_prod, List.prod_append, List.prod_cons,
    List.prod_singleton]
  rfl

/-- Two sets are searched as their union is. -/
theorem setOutcome_append (kind : MatchKind) (domain : Text) (left right : List Text) :
    setOutcome kind domain (left ++ right) =
      setOutcome kind domain left * setOutcome kind domain right := by
  simp only [setOutcome, matchesSubdomain_eq_any, List.any_append]
  cases left.any (isSubdomainOf domain) <;> cases right.any (isSubdomainOf domain) <;>
    cases kind <;> rfl

/-- Only the members of a set matter. -/
theorem setOutcome_congr {left right : List Text}
    (hmem : ∀ ruleDomain, ruleDomain ∈ left ↔ ruleDomain ∈ right)
    (kind : MatchKind) (domain : Text) :
    setOutcome kind domain left = setOutcome kind domain right := by
  have hmatches : matchesSubdomain domain left = matchesSubdomain domain right := by
    rw [Bool.eq_iff_iff, matchesSubdomain_iff, matchesSubdomain_iff]
    simp only [hmem]
  rw [setOutcome, setOutcome, hmatches]

end Wardnet.Filter
