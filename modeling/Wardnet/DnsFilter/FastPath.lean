import Wardnet.Common.Error
import Wardnet.Core.Program
import Wardnet.DnsFilter.Outcome
import Wardnet.DnsFilter.Parser

/-!
# Plain domain rules in the sets

`DnsFilter::build` moves the plain domain rules of a source out of its list
of rules and into its two sets.  A plain rule has no rewrite, so its place in
the list does not matter, and the sets are searched as the rule would match.
-/

namespace Wardnet.Filter

open List
open Net (IpAddr)
open MatchOutcome (commute_of_continues)
open Utf8 (bytes)

section Query

variable (query : Text) (qtype : RecordType) (client : IpAddr)

/-- A plain rule contributes what a set with its domain alone contributes. -/
theorem ruleOutcome_plain (name domain : Text) {modifiers : RuleModifiers}
    (hempty : modifiers.isEmpty = true) (allow : Bool) :
    ruleOutcome name qtype client (.domainBlock domain modifiers allow) =
      setOutcome (if allow then .allow else .block) name [domain] := by
  have hmodifiers : modifiers = .default := by
    simp only [RuleModifiers.isEmpty, Bool.and_eq_true, Option.isNone_iff_eq_none] at hempty
    cases modifiers
    simp_all [RuleModifiers.default]
  rw [hmodifiers, setOutcome, matchesSubdomain_eq_any]
  cases allow <;>
    simp [ruleOutcome, ruleMatches, modifiersApply, classify, RuleModifiers.default,
      ParsedRule.modifiers, ParsedRule.isAllow]

namespace DnsFilter

/-- The sets of a filter are searched after any further complex rule. -/
theorem check_push (filter : DnsFilter) (rule : ParsedRule) :
    ({ filter with complex := filter.complex ++ [rule] } : DnsFilter).check query qtype client =
      filter.check query qtype client * ruleOutcome (normalize query) qtype client rule := by
  have hsets : Commute (ruleOutcome (normalize query) qtype client rule)
      (setOutcome .allow (normalize query) filter.allowedDomains *
        setOutcome .block (normalize query) filter.blockedDomains) := by
    apply Commute.mul_right
    · exact (commute_of_continues (setOutcome_continues _ _ _) _).symm
    · exact (commute_of_continues (setOutcome_continues _ _ _) _).symm
  rw [check_eq_prod, check_eq_prod, map_append, prod_append,
    map_singleton, prod_singleton, mul_assoc, hsets.eq, ← mul_assoc]

/-- Wherever it is stored, a rule is looked at after the rules before it. -/
theorem check_addRule (filter : DnsFilter) (rule : ParsedRule) :
    (filter.addRule (some rule)).check query qtype client = filter.check query qtype client *
        ruleOutcome (normalize query) qtype client rule := by
  cases rule with
  | domainBlock domain modifiers allow =>
    by_cases hempty : modifiers.isEmpty = true
    · rw [ruleOutcome_plain qtype client _ domain hempty, addRule, if_pos hempty]
      cases allow with
      | false =>
        have hblocked : setOutcome .block (normalize query) (domain :: filter.blockedDomains) =
            setOutcome .block (normalize query) filter.blockedDomains *
              setOutcome .block (normalize query) [domain] := by
          rw [← setOutcome_append]
          exact setOutcome_congr (fun ruleDomain => by simp [or_comm]) _ _
        simp only [Bool.false_eq_true, if_false, check_eq_prod]
        rw [hblocked, mul_assoc, mul_assoc]
      | true =>
        have hallowed : setOutcome .allow (normalize query) (domain :: filter.allowedDomains) =
            setOutcome .allow (normalize query) filter.allowedDomains *
              setOutcome .allow (normalize query) [domain] := by
          rw [← setOutcome_append]
          exact setOutcome_congr (fun ruleDomain => by simp [or_comm]) _ _
        have hblocked := commute_of_continues
          (setOutcome_continues .block (normalize query) filter.blockedDomains)
          (setOutcome .allow (normalize query) [domain])
        simp only [if_true, check_eq_prod]
        rw [hallowed, mul_assoc, mul_assoc, mul_assoc, hblocked.eq]
    · rw [addRule, if_neg hempty]
      exact check_push query qtype client filter _
  | pattern | regex => exact check_push query qtype client filter _

/-- One custom rule, kept as a complex rule whatever it is. -/
def keepRule (filter : DnsFilter) (rule : Option ParsedRule) : DnsFilter :=
  { filter with complex := filter.complex ++ rule.toList }

/-- `DnsFilter::build` without the sets for plain rules. -/
def buildComplex (parseLine : Text → Option ParsedRule)
    (blocked allowlist customRules : List Text) : DnsFilter :=
  customRules.foldl (fun filter line => filter.keepRule (parseLine line))
    ⟨blocked.map normalize, allowlist.map normalize, []⟩

/-- What the rules of the lines contribute. -/
def linesOutcome (parseLine : Text → Option ParsedRule) (lines : List Text) : MatchOutcome :=
  ((lines.filterMap parseLine).map (ruleOutcome (normalize query) qtype client)).prod

/-- A loop that adds one rule a line, each looked at last. -/
theorem check_foldl (parseLine : Text → Option ParsedRule)
    (add : DnsFilter → Option ParsedRule → DnsFilter) (hnone : ∀ filter, add filter none = filter)
    (hsome : ∀ filter rule, (add filter (some rule)).check query qtype client =
      filter.check query qtype client * ruleOutcome (normalize query) qtype client rule)
    (lines : List Text) (filter : DnsFilter) :
    (lines.foldl (fun filter line => add filter (parseLine line)) filter).check query qtype client =
      filter.check query qtype client * linesOutcome query qtype client parseLine lines := by
  induction lines generalizing filter with
  | nil => simp [linesOutcome]
  | cons line lines ih =>
    rw [foldl_cons, ih]
    cases hline : parseLine line with
    | none => simp [hnone, linesOutcome, hline]
    | some rule => simp [hsome, linesOutcome, hline, mul_assoc]

/-- The sets for plain rules change no answer. -/
theorem check_build_eq_check_buildComplex (parseLine : Text → Option ParsedRule)
    (blocked allowlist customRules : List Text) :
    (build parseLine blocked allowlist customRules).check query qtype client =
      (buildComplex parseLine blocked allowlist customRules).check query qtype client := by
  have hkeep (filter : DnsFilter) (rule : ParsedRule) := check_push query qtype client filter rule
  rw [build, buildComplex, check_foldl query qtype client parseLine addRule (fun _ => rfl)
      (check_addRule query qtype client),
    check_foldl query qtype client parseLine keepRule (by simp [keepRule]) hkeep]

end DnsFilter

end Query

/-- What `DnsFilter::build` makes of a line: lines without a rule and invalid
ones are skipped. -/
def readLine (readers : Readers) (line : Text) : Option ParsedRule :=
  (parseLine readers line).toOption.join

/-- The walk over the parents of a query and the test of a single rule agree,
the latter without an index out of bounds, and a plain rule gives the same
outcome in the sets as anywhere in the list of complex rules. -/
theorem domain_matching_agrees (query : Text) : (∀ domains : List Text,
      matchesSubdomain (normalize query) domains = true ↔
        ∃ ruleDomain ∈ domains, isSubdomainOf (normalize query) ruleDomain = true) ∧
    (∀ ruleDomain : Text, (isSubdomainOf (normalize query) ruleDomain = true ↔
        normalize query = ruleDomain ∨ '.' :: ruleDomain <:+ normalize query) ∧
      isSubdomainOfBytes (bytes (normalize query)) (bytes ruleDomain) =
        some (isSubdomainOf (normalize query) ruleDomain)) ∧
    (∀ (readers : Readers) (line domain : Text) (modifiers : RuleModifiers) (allow : Bool),
      parseLine readers line = .ok (some (.domainBlock domain modifiers allow)) →
      modifiers.isEmpty = true → ∀ (blocked allowed : List Text) (before after : List ParsedRule)
        (qtype : RecordType) (client : IpAddr),
        ((DnsFilter.mk blocked allowed (before ++ after)).addRule
          (readLine readers line)).check query qtype client = (DnsFilter.mk blocked allowed
          (before ++ .domainBlock domain modifiers allow :: after)).check query qtype client) := by
  refine ⟨fun domains => ?_, fun ruleDomain => ⟨isSubdomainOf_iff, ?_⟩, ?_⟩
  · rw [matchesSubdomain_iff]
    simp only [isSubdomainOf_iff]
  · exact isSubdomainOfBytes_bytes _ _
  · intro readers line domain modifiers allow hline hempty blocked allowed before after qtype client
    have hread : readLine readers line = some (.domainBlock domain modifiers allow) := by
      simp [readLine, hline, Except.toOption]
    let outcome := ruleOutcome (normalize query) qtype client
    have hcommute (other : MatchOutcome) :
        Commute (outcome (.domainBlock domain modifiers allow)) other := by
      apply commute_of_continues
      rw [show outcome (.domainBlock domain modifiers allow) = _ from
        ruleOutcome_plain qtype client _ domain hempty allow]
      exact setOutcome_continues _ _ _
    rw [hread, DnsFilter.check_addRule, ← DnsFilter.check_push, DnsFilter.check_eq_prod,
      DnsFilter.check_eq_prod]
    simp only [map_append, map_cons, prod_append, prod_cons, map_nil, prod_nil, mul_one]
    rw [(hcommute (after.map outcome).prod).eq, mul_assoc _ (after.map outcome).prod]

/-- Readers that accept nothing. -/
def Readers.refusing : Readers where
  recordType := fun _ => none
  ipAddr := fun _ => none
  ipNetwork := fun _ => none
  regex := fun _ => .error []

theorem domain_matching_agrees_adsExample : ((DnsFilter.mk [] [] []).addRule
        (readLine .refusing "||Ads.Example^".toList)).check "X.ads.example.".toList .a (.v4 1) =
    (DnsFilter.mk [] [] [.domainBlock "ads.example".toList .default false]).check
      "X.ads.example.".toList .a (.v4 1) :=
  (domain_matching_agrees "X.ads.example.".toList).2.2 .refusing _ _ _ _
    rfl rfl [] [] [] [] .a (.v4 1)

end Wardnet.Filter
