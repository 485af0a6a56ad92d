import Wardnet.Common.Dns

/-!
# DNS messages

Decoded messages, the lifetimes a relayed response may be cached for, and the
ageing of a cached response on a hit.
-/

namespace Wardnet.Dns

open Net (Ipv4Addr Ipv6Addr IpAddr)

inductive RData
  | a (ip : Ipv4Addr)
  | aaaa (ip : Ipv6Addr)
  | cname (target : Text)
  | ptr (target : Text)
  | txt (value : Text)
  | mx (preference : ℕ) (exchange : Text)
  | srv (priority weight port : ℕ) (target : Text)
  | soa (mname rname : Text) (serial refresh retry expire minimum : ℕ)
  | opt
  | other (code : ℕ) (bytes : List ℕ)
  deriving DecidableEq

structure Record where
  name : Text
  ttl : ℕ
  data : RData
  deriving DecidableEq

def Record.address? (record : Record) : Option IpAddr :=
  match record.data with
  | .a ip => some (.v4 ip)
  | .aaaa ip => some (.v6 ip)
  | _ => none

structure Question where
  name : Text
  qtype : RecordType
  deriving DecidableEq

inductive ResponseCode
  | noError
  | servFail
  | nxDomain
  | refused
  | other (code : ℕ)
  deriving DecidableEq

structure Message where
  id : ℕ
  responseCode : ResponseCode
  authoritative : Bool
  queries : List Question
  answers : List Record
  authorities : List Record
  additionals : List Record
  deriving DecidableEq

/-- `Message::response` with the questions of the request and the recursion
bits set. -/
def response (id : ℕ) (queries : List Question) : Message where
  id := id
  responseCode := .noError
  authoritative := false
  queries := queries
  answers := []
  authorities := []
  additionals := []

def u32Max : ℕ := 2 ^ 32 - 1

def ageRecord (elapsed remaining : ℕ) (record : Record) : Record :=
  if record.data = .opt ∨ record.ttl = 0 then record
  else
    { record with
      ttl := max (min (record.ttl - min elapsed u32Max) (min remaining u32Max)) 1 }

def stamp (id elapsed remaining : ℕ) (message : Message) : Message :=
  { message with
    id := id
    answers := message.answers.map (ageRecord elapsed remaining)
    authorities := message.authorities.map (ageRecord elapsed remaining)
    additionals := message.additionals.map (ageRecord elapsed remaining) }

/-- `classify_response`: whether the response is negative, and the lifetime
it may be cached for. -/
def classifyResponse (message : Message) : Bool × ℕ :=
  let negative := message.responseCode = .nxDomain ∨
    (message.responseCode = .noError ∧ message.answers = [])
  if negative then
    (true, (message.authorities.findSome? fun record =>
      match record.data with
      | .soa _ _ _ _ _ _ minimum => some (min record.ttl minimum)
      | _ => none).getD 0)
  else (false, (message.answers.map Record.ttl).min?.getD 0)

end Wardnet.Dns
