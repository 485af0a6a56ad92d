import Wardnet.Common.Dns

/-!
# DNS filters

A `DnsFilter` holds the rules of one source.  Filters are grouped into
profiles and profiles into device contexts; each level asks the level below
and keeps the strongest match, and a rewrite ends the search at every level.
A compiled regular expression is its match predicate.
-/

namespace Wardnet.Filter

open Net (IpAddr IpNetwork)

structure RuleModifiers where
  dnsTypes : Option (List RecordType)
  rewriteTo : Option IpAddr
  clients : Option (List IpNetwork)
  important : Bool
  deriving DecidableEq

def RuleModifiers.isEmpty (modifiers : RuleModifiers) : Bool :=
  modifiers.dnsTypes.isNone && modifiers.rewriteTo.isNone &&
    modifiers.clients.isNone && !modifiers.important

inductive ParsedRule
  | domainBlock (domain : Text) (modifiers : RuleModifiers) (allow : Bool)
  | pattern (isMatch : Text → Bool) (modifiers : RuleModifiers) (allow : Bool)
  | regex (isMatch : Text → Bool) (modifiers : RuleModifiers) (allow : Bool)

def ParsedRule.modifiers : ParsedRule → RuleModifiers
  | .domainBlock _ modifiers _ | .pattern _ modifiers _
  | .regex _ modifiers _ => modifiers

def ParsedRule.isAllow : ParsedRule → Bool
  | .domainBlock _ _ allow | .pattern _ _ allow | .regex _ _ allow => allow

inductive MatchKind
  | block
  | allow
  | importantBlock
  | importantAllow
  deriving DecidableEq

def MatchKind.rank : MatchKind → ℕ
  | .block => 1
  | .allow => 2
  | .importantBlock => 3
  | .importantAllow => 4

def MatchKind.blocks : MatchKind → Bool
  | .block | .importantBlock => true
  | .allow | .importantAllow => false

/-- `MatchOutcome`, and `ProfileMatch` one level up. -/
inductive MatchOutcome
  | none
  | found (kind : MatchKind)
  | rewrite (ip : IpAddr)
  deriving DecidableEq

/-! ## Matching one rule -/

def isSubdomainOf (domain ruleDomain : Text) : Bool :=
  domain = ruleDomain ∨ (ruleDomain.length < domain.length ∧ domain.endsWith ruleDomain ∧
      domain[domain.length - ruleDomain.length - 1]? = some '.')

def ruleMatches (rule : ParsedRule) (domain : Text) : Bool :=
  match rule with
  | .domainBlock ruleDomain _ _ => isSubdomainOf domain ruleDomain
  | .pattern isMatch _ _ | .regex isMatch _ _ => isMatch domain

def modifiersApply (modifiers : RuleModifiers) (qtype : RecordType) (client : IpAddr) : Bool :=
  (modifiers.dnsTypes.all fun types => types.contains qtype) &&
    (modifiers.clients.all fun nets => nets.any fun net => net.contains client)

def classify (rule : ParsedRule) : MatchKind :=
  match rule.modifiers.important, rule.isAllow with
  | true, true => .importantAllow
  | true, false => .importantBlock
  | false, true => .allow
  | false, false => .block

/-- What one complex rule contributes. -/
def ruleOutcome (domain : Text) (qtype : RecordType) (client : IpAddr)
    (rule : ParsedRule) : MatchOutcome :=
  if ruleMatches rule domain ∧ modifiersApply rule.modifiers qtype client then
    match rule.modifiers.rewriteTo with
    | some ip => .rewrite ip
    | Option.none => .found (classify rule)
  else .none

/-! ## Keeping the strongest match -/

def upgrade (current : Option MatchKind) (new : MatchKind) : Option MatchKind :=
  if current.all fun kind => kind.rank < new.rank then some new else current

/-- The loop of every level: the first rewrite wins, and otherwise the
strongest match. -/
def strongest (best : Option MatchKind) : List MatchOutcome → MatchOutcome
  | [] => best.elim .none .found
  | .rewrite ip :: _ => .rewrite ip
  | .found kind :: outcomes => strongest (upgrade best kind) outcomes
  | .none :: outcomes => strongest best outcomes

/-- The loop of `matches_subdomain` over the parents of a name. -/
def anyParentIn (domains : List Text) : Text → Bool
  | [] => false
  | char :: rest =>
    if char = '.' then domains.contains rest || anyParentIn domains rest
    else anyParentIn domains rest

def matchesSubdomain (domain : Text) (domains : List Text) : Bool :=
  domains.contains domain || anyParentIn domains domain

structure DnsFilter where
  blockedDomains : List Text
  allowedDomains : List Text
  complex : List ParsedRule

namespace DnsFilter

def empty : DnsFilter := ⟨[], [], []⟩

/-- `BlocklistFilterBuilder`: the filter of one blocklist. -/
def ofBlocklist (domains : List Text) : DnsFilter := ⟨domains.map normalize, [], []⟩

/-- One custom rule of `DnsFilter::build`: plain domain rules join the sets,
every other one is kept as a complex rule, and lines without a rule are
skipped. -/
def addRule (filter : DnsFilter) : Option ParsedRule → DnsFilter
  | none => filter
  | some (.domainBlock domain modifiers allow) =>
    if modifiers.isEmpty then
      if allow then { filter with allowedDomains := domain :: filter.allowedDomains }
      else { filter with blockedDomains := domain :: filter.blockedDomains }
    else
      { filter with
        complex := filter.complex ++ [.domainBlock domain modifiers allow] }
  | some rule => { filter with complex := filter.complex ++ [rule] }

/-- `DnsFilter::build`, for a parser of rule lines that returns nothing for
a line that holds no rule or an invalid one. -/
def build (parseLine : Text → Option ParsedRule)
    (blocked allowlist customRules : List Text) : DnsFilter :=
  customRules.foldl (fun filter line => filter.addRule (parseLine line))
    ⟨blocked.map normalize, allowlist.map normalize, []⟩

def check (filter : DnsFilter) (domain : Text) (qtype : RecordType)
    (client : IpAddr) : MatchOutcome :=
  let domain := normalize domain
  strongest none (filter.complex.map (ruleOutcome domain qtype client) ++
      [if matchesSubdomain domain filter.allowedDomains then .found .allow
        else .none,
      if matchesSubdomain domain filter.blockedDomains then .found .block
        else .none])

def checkAction (filter : DnsFilter) (domain : Text) (qtype : RecordType)
    (client : IpAddr) : FilterAction :=
  match filter.check domain qtype client with
  | .rewrite ip => .rewrite ip
  | .found kind => if kind.blocks then .block else .pass
  | .none => .pass

end DnsFilter

/-- `RuntimeDnsFilterProfile::check` over the filters its cells hold. -/
def checkProfile (filters : List DnsFilter) (domain : Text)
    (qtype : RecordType) (client : IpAddr) : MatchOutcome :=
  strongest none (filters.map fun filter => filter.check domain qtype client)

/-- `DeviceFilterContext::check` over the profiles its cells hold. -/
def checkContext (profiles : List (List DnsFilter)) (domain : Text)
    (qtype : RecordType) (client : IpAddr) : FilterAction :=
  match strongest none (profiles.map fun filters => checkProfile filters domain qtype client) with
  | .rewrite ip => .rewrite ip
  | .found kind => if kind.blocks then .block else .pass
  | .none => .pass

end Wardnet.Filter
