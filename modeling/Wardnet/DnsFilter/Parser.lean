import Wardnet.DnsFilter.Filter

/-!
# The rule parser

`parse_line` reads one line of a rule list: adblock rules, regular
expressions, hosts entries and bare domains, with the modifiers that may
follow a `$`.  The parsers of other crates (record types, addresses,
networks and regular expressions) are given by what they return.
-/

namespace Wardnet

namespace Text

def splitWhiteSpace (text : Text) : List Text := (List.splitOnP isWhiteSpace text).filter (· ≠ [])

/-- `str::split_once` at a character. -/
def splitOnce (char : Char) : Text → Option (Text × Text)
  | [] => none
  | head :: rest =>
    if head = char then some ([], rest)
    else (splitOnce char rest).map fun (before, after) => (head :: before, after)

def eqIgnoreAsciiCase (left right : Text) : Bool := left.toAsciiLowercase == right.toAsciiLowercase

end Text

namespace Filter

open Net (IpAddr IpNetwork)

inductive ParseError
  | empty
  | invalidHostsIp (token : Text)
  | invalidDomain (domain : Text)
  | invalidRegex (pattern error : Text)
  | unknownModifier (name : Text)
  | invalidModifierValue (name value : Text)
  | missingModifierValue (name : Text)
  | invalidClient (value : Text)
  | invalidRewrite (value : Text)
  | unrecognized (line : Text)
  deriving DecidableEq

/-- The parsers of other crates.  A compiled regular expression is its match
predicate; `Regex::new` explains what it refuses. -/
structure Readers where
  recordType : Text → Option RecordType
  ipAddr : Text → Option IpAddr
  ipNetwork : Text → Option IpNetwork
  regex : Text → Except Text (Text → Bool)

def RuleModifiers.default : RuleModifiers := ⟨none, none, none, false⟩

/-! ## Modifiers -/

section Modifiers

variable (readers : Readers)

/-- The record types of a `dnstype` modifier. -/
def parseDnsTypes (value : Text) : Except ParseError (List RecordType) :=
  (List.splitOn '|' value).mapM fun entry =>
    let entry := Text.trim entry
    if entry = [] then .error (.invalidModifierValue "dnstype".toList value)
    else
      match readers.recordType (entry.map Char.toUpper) with
      | some recordType => .ok recordType
      | none => .error (.invalidModifierValue "dnstype".toList entry)

/-- The networks of a `client` modifier. -/
def parseClients (value : Text) : Except ParseError (List IpNetwork) :=
  (List.splitOn '|' value).mapM fun entry =>
    let entry := Text.trim entry
    if entry = [] then .error (.invalidClient value)
    else
      let network :=
        if entry.contains '/' then readers.ipNetwork entry
        else (readers.ipAddr entry).map IpNetwork.ofAddr
      match network with
      | some network => .ok network
      | none => .error (.invalidClient entry)

/-- One entry of `parse_modifiers`. -/
def parseModifier (mods : RuleModifiers) (rawPart : Text) : Except ParseError RuleModifiers :=
  let part := rawPart.trim
  let name := (part.splitOnce '=').elim part Prod.fst
  let value := (part.splitOnce '=').map Prod.snd
  if part = [] then .ok mods
  else if name = "important".toList then
    match value with
    | some value => .error (.invalidModifierValue "important".toList value)
    | none => .ok { mods with important := true }
  else if name = "dnstype".toList then
    match value with
    | none => .error (.missingModifierValue "dnstype".toList)
    | some value => do
      let types ← parseDnsTypes readers value
      return { mods with dnsTypes := some types }
  else if name = "dnsrewrite".toList then
    match value with
    | none => .error (.missingModifierValue "dnsrewrite".toList)
    | some value =>
      match readers.ipAddr value with
      | none => .error (.invalidRewrite value)
      | some ip => .ok { mods with rewriteTo := some ip }
  else if name = "client".toList then
    match value with
    | none => .error (.missingModifierValue "client".toList)
    | some value => do
      let nets ← parseClients readers value
      return { mods with clients := some nets }
  else .error (.unknownModifier name)

def parseModifiers (text : Text) : Except ParseError RuleModifiers :=
  if text = [] then .ok .default
  else (List.splitOn ',' text).foldlM (parseModifier readers) .default

end Modifiers

/-! ## Domains and wildcards -/

/-- A character of a domain name. -/
def isDomainChar (char : Char) : Bool :=
  char.isAlphanum || char == '.' || char == '-' || char == '_'

def isValidDomain (text : Text) : Bool := !text.isEmpty && text.len ≤ 253 && text.all isDomainChar

def normalizeDomain (text : Text) : Except ParseError Text :=
  let trimmed := text.trimEndMatches '.'
  if isValidDomain trimmed then .ok trimmed.toAsciiLowercase
  else .error (.invalidDomain text)

/-- The characters `regex::escape` puts a backslash in front of. -/
def metaCharacters : Text := "\\.+*?()|[]\x7b\x7d^$#&-~".toList

def escape (text : Text) : Text :=
  text.flatMap fun char => if char ∈ metaCharacters then ['\\', char] else [char]

/-- The regular expression `compile_wildcard` builds. -/
def wildcardSource (pat : Text) : Text :=
  "(?i)^".toList ++ (pat.flatMap fun char =>
      if char = '*' then ".*".toList
      else if char.isAlphanum || char == '-' || char == '_' || char == '.' then [char]
      else escape [char]) ++
    ['$']

def compileWildcard (readers : Readers) (pat : Text) : Except ParseError (Text → Bool) :=
  match readers.regex (wildcardSource pat) with
  | .ok isMatch => .ok isMatch
  | .error error => .error (.invalidRegex pat error)

/-! ## Lines -/

section Lines

variable (readers : Readers) (line : Text) (allow : Bool)

/-- The modifiers after the closing slash of a regular expression. -/
def parseAfterRegex (after : Text) : Except ParseError RuleModifiers :=
  match after.stripPrefix ['$'] with
  | some modStr => parseModifiers readers modStr
  | none => if after = [] then .ok .default else .error (.unrecognized line)

/-- The branch of `parse_line` for what follows an opening slash. -/
def parseRegexRule (afterOpen : Text) : Except ParseError (Option ParsedRule) :=
  match afterOpen.splitOnce '/' with
  | none => .error (.unrecognized line)
  | some (pattern, after) => do
    let modifiers ← parseAfterRegex readers line after
    if pattern = [] then .error .empty
    else
      match readers.regex ("(?i)".toList ++ pattern) with
      | .error error => .error (.invalidRegex pattern error)
      | .ok isMatch => .ok (some (.regex isMatch modifiers allow))

/-- The branch of `parse_line` for what follows two bars. -/
def parseAdblockRule (after : Text) : Except ParseError (Option ParsedRule) := do
  let parts := (after.splitOnce '$').getD (after, [])
  let modifiers ← parseModifiers readers parts.2
  let pat := (parts.1.stripSuffix ['^']).getD parts.1
  if pat = [] then .error .empty
  else if pat.contains '*' then do
    let isMatch ← compileWildcard readers pat
    return some (.pattern isMatch modifiers allow)
  else do
    let domain ← normalizeDomain pat
    return some (.domainBlock domain modifiers allow)

/-- The domain of a line such as `*.example.com`. -/
def wildcardDomain (body : Text) : Option Text :=
  (body.stripPrefix "*.".toList).filter fun stripped =>
    !stripped.contains '*' && !stripped.contains '/' && stripped.contains '.' &&
      isValidDomain stripped

def hostsAddresses : List Text := ["0.0.0.0".toList, "127.0.0.1".toList, "::".toList, "::1".toList]

def localNames : List Text :=
  ["localhost".toList, "localhost.localdomain".toList, "broadcasthost".toList]

/-- The rule of a single domain, without modifiers. -/
def plainRule (text : Text) : Except ParseError (Option ParsedRule) := do
  return some (.domainBlock (← normalizeDomain text) .default allow)

/-- The last branches of `parse_line`: a hosts entry or a bare domain. -/
def parseTokens (body : Text) : Except ParseError (Option ParsedRule) :=
  match body.splitWhiteSpace with
  | [] => .error (.unrecognized line)
  | [_] =>
    if body.contains '.' && isValidDomain body then plainRule allow body
    else .error (.unrecognized line)
  | first :: second :: rest =>
    if first ∈ hostsAddresses then
      let domain := (second :: rest).getLastD second
      if localNames.any domain.eqIgnoreAsciiCase then .ok none
      else plainRule allow domain
    else .error (.invalidHostsIp first)

/-- What `parse_line` does with the text after an `@@`. -/
def parseBody (body : Text) : Except ParseError (Option ParsedRule) :=
  match body.stripPrefix ['/'] with
  | some afterOpen => parseRegexRule readers line allow afterOpen
  | none =>
    match body.stripPrefix "||".toList with
    | some after => parseAdblockRule readers allow after
    | none =>
      match wildcardDomain body with
      | some stripped => plainRule allow stripped
      | none => parseTokens line allow body

end Lines

def parseLine (readers : Readers) (raw : Text) : Except ParseError (Option ParsedRule) :=
  let line := raw.trim
  if line.isEmpty || line.startsWith ['#'] || line.startsWith ['!'] ||
      line.startsWith ['['] then .ok none
  else
    match line.stripPrefix "@@".toList with
    | some rest => parseBody readers line true rest
    | none => parseBody readers line false line

end Filter

end Wardnet
