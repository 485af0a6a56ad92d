import Wardnet.Common.Net
import Wardnet.Common.Text

/-!
# Shared DNS vocabulary

Identifiers, record types, filter verdicts and the per-query upstream choice
shared by the routing service, the filter service and the query pipeline.
-/

namespace Wardnet

abbrev Uuid := ℕ

/-- Which resolver pool answers a query. -/
inductive UpstreamId
  | default
  | tunnel (id : Uuid)
  deriving DecidableEq

/-- The record types the daemon tells apart; every other one keeps its
number. -/
inductive RecordType
  | a
  | aaaa
  | cname
  | txt
  | mx
  | srv
  | ptr
  | soa
  | opt
  | any
  | other (code : ℕ)
  deriving DecidableEq

/-- What the filter tells the server to do with a query. -/
inductive FilterAction
  | pass
  | block
  | rewrite (ip : Net.IpAddr)
  deriving DecidableEq

/-- `normalize_owned`: no trailing dot and no ASCII capitals. -/
def normalize (name : Text) : Text := (name.trimEndMatches '.').toAsciiLowercase

end Wardnet
