import Wardnet.Core.HashMap
import Wardnet.Dns.Message

/-!
# The authoritative view

A snapshot of the enabled local records, wildcards, conditional forwarding
rules and authoritative zones, and the lookups the query pipeline makes in it.
-/

namespace Wardnet.Dns

open Net (Ipv4Addr)

inductive DnsRecordType
  | a
  | aaaa
  | cname
  | txt
  | mx
  | srv
  deriving DecidableEq

inductive DnsRecordSource
  | manual
  | dhcp
  | system
  deriving DecidableEq

structure CustomDnsRecord where
  domain : Text
  recordType : DnsRecordType
  value : Text
  ttl : ℕ
  source : DnsRecordSource
  deriving DecidableEq

structure WildcardEntry where
  suffix : Text
  all : List CustomDnsRecord
  typed : HashMap DnsRecordType (List CustomDnsRecord)

structure ConditionalForwardingRule where
  domain : Text
  upstream : Text
  deriving DecidableEq

structure ZoneAuthority where
  name : Text
  soa : Option Record

/-- Wildcards, rules and zones are sorted longest name first. -/
structure AuthoritativeView where
  allRecords : HashMap Text (List CustomDnsRecord)
  typedRecords : HashMap Text (HashMap DnsRecordType (List CustomDnsRecord))
  wildcards : List WildcardEntry
  forwardingRules : List ConditionalForwardingRule
  zoneAuthorities : List ZoneAuthority
  reversePtr : HashMap Ipv4Addr (List CustomDnsRecord)

/-- The name is the domain itself or lies below it. -/
def atOrBelow (name domain : Text) : Bool :=
  name = domain ∨ ((name.stripSuffix domain).any fun rest => rest.endsWith ['.'])

namespace AuthoritativeView

def empty : AuthoritativeView where
  allRecords := .empty
  typedRecords := .empty
  wildcards := []
  forwardingRules := []
  zoneAuthorities := []
  reversePtr := .empty

/-- `match_wildcard`: the apex never matches its own wildcard. -/
def matchWildcard (view : AuthoritativeView) (domain : Text) : Option WildcardEntry :=
  view.wildcards.find? fun entry =>
    (domain.stripSuffix entry.suffix).any fun rest => 1 < rest.length && rest.endsWith ['.']

def lookup (view : AuthoritativeView) (domain : Text)
    (rtype : DnsRecordType) : Option (List CustomDnsRecord) :=
  match view.typedRecords.get domain with
  | some types => some ((types.get rtype).getD [])
  | none => (view.matchWildcard domain).bind fun entry => entry.typed.get rtype

def lookupAll (view : AuthoritativeView) (domain : Text) : Option (List CustomDnsRecord) :=
  match view.allRecords.get domain with
  | some records => some records
  | none => (view.matchWildcard domain).map WildcardEntry.all

def lookupCname (view : AuthoritativeView) (domain : Text) : Option CustomDnsRecord :=
  match view.typedRecords.get domain with
  | some types => (types.get .cname).bind List.head?
  | none => (view.matchWildcard domain).bind fun entry => (entry.typed.get .cname).bind List.head?

def matchForwardingRule (view : AuthoritativeView) (domain : Text) :
    Option ConditionalForwardingRule :=
  view.forwardingRules.find? fun rule => atOrBelow domain rule.domain

def authoritativeZone (view : AuthoritativeView) (domain : Text) : Option ZoneAuthority :=
  view.zoneAuthorities.find? fun zone => atOrBelow domain zone.name

def reverseLookup (view : AuthoritativeView) (ip : Ipv4Addr) : Option (List CustomDnsRecord) :=
  view.reversePtr.get ip

end AuthoritativeView

/-! ## Reverse names -/

def parsePtrIpv4 (name : Text) : Option Ipv4Addr :=
  (name.stripSuffix ".in-addr.arpa".toList).bind fun labels =>
    match (labels.splitOn '.').map (Text.parseUint 256) with
    | [some a, some b, some c, some d] => some (Net.ipv4 d c b a)
    | _ => none

def privateReverseZone (ip : Ipv4Addr) : Option Text :=
  let first := ip.toNat / 2 ^ 24
  let second := ip.toNat / 2 ^ 16 % 256
  let label : Text := (toString second).toList
  if first = 10 then some "10.in-addr.arpa".toList
  else if first = 172 ∧ 16 ≤ second ∧ second ≤ 31 then some (label ++ ".172.in-addr.arpa".toList)
  else if first = 192 ∧ second = 168 then some "168.192.in-addr.arpa".toList
  else if first = 169 ∧ second = 254 then some "254.169.in-addr.arpa".toList
  else if first = 100 ∧ 64 ≤ second ∧ second ≤ 127 then some (label ++ ".100.in-addr.arpa".toList)
  else none

end Wardnet.Dns
