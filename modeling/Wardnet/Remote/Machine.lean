import Wardnet.Common.Auth
import Wardnet.Common.Dotted
import Wardnet.Core.Keyed
import Wardnet.Core.Sequential
import Wardnet.Dns.Authoritative

/-!
# Remote access: the operations

What the dynamic DNS service and the certificate service work on: the
configuration table and the secret store, the records at a DNS provider, the
certificate that :443 serves and the local DNS records.  Each operation is
atomic.  It may succeed or fail, and a call to a provider may also take effect
and then fail to say so.
-/

namespace Wardnet.Remote

open Net (Ipv4Addr)
open Dns (DnsRecordType DnsRecordSource)

/-! ## The box -/

/-- The keys of `system_config` that remote access uses. -/
inductive Key
  | provider
  | tenantId
  | networkId
  | slug
  | subdomain
  | region
  | lastIp
  | domain
  | cfZoneId
  | installId
  | bridgeBaseUrl
  | certDomain
  | certNotAfter
  | acmeDirectoryUrl
  | tlsPhase
  | tlsLastError
  deriving DecidableEq

/-- The paths of the secret store that remote access uses. -/
inductive Secret
  | daemonKey
  | cfToken
  | bridgeSigningKey
  | bridgeBearerToken
  | acmeAccount
  | certChain
  | certKey
  deriving DecidableEq

def Key.name : Key → Text
  | .provider => "ddns_provider".toList
  | .tenantId => "ddns_tenant_id".toList
  | .networkId => "ddns_network_id".toList
  | .slug => "ddns_slug".toList
  | .subdomain => "ddns_subdomain".toList
  | .region => "ddns_region".toList
  | .lastIp => "ddns_last_public_ip".toList
  | .domain => "ddns_domain".toList
  | .cfZoneId => "ddns_cf_zone_id".toList
  | .installId => "ddns_install_id".toList
  | .bridgeBaseUrl => "ddns_bridge_base_url".toList
  | .certDomain => "tls_cert_domain".toList
  | .certNotAfter => "tls_cert_not_after".toList
  | .acmeDirectoryUrl => "acme_directory_url".toList
  | .tlsPhase => "tls_provisioning_phase".toList
  | .tlsLastError => "tls_provisioning_error".toList

def Secret.path : Secret → Text
  | .daemonKey => "ddns/daemon/signing_key".toList
  | .cfToken => "ddns/cloudflare/api_token".toList
  | .bridgeSigningKey => "ddns/bridge/signing_key".toList
  | .bridgeBearerToken => "ddns/bridge/bearer_token".toList
  | .acmeAccount => "tls/acme/account".toList
  | .certChain => "tls/cert/chain_pem".toList
  | .certKey => "tls/cert/key_pem".toList

/-- What a provider is bound to: a network of the cloud, or a name in a zone. -/
inductive Target
  | wardnet (networkId : Text)
  | cloudflare (zoneId domain : Text)
  deriving DecidableEq

/-- A row of `dns_custom_records`. -/
structure LocalRecord where
  id : Uuid
  domain : Text
  recordType : DnsRecordType
  value : Text
  source : DnsRecordSource
  deriving DecidableEq

structure Box where
  config : HashMap Key Text
  secrets : HashMap Secret (List UInt8)
  published : HashMap Target Ipv4Addr
  challenges : HashMap Target (List Text)
  /-- The flag of the entitlement that follows the provider. -/
  premium : Bool
  /-- The domain that :443 serves. -/
  served : Option Text
  records : Keyed LocalRecord.id

/-! ## The operations -/

inductive Op
  | get (key : Key)
  | set (key : Key) (value : Text)
  | delete (key : Key)
  | getSecret (path : Secret)
  | putSecret (path : Secret) (value : List UInt8)
  | deleteSecret (path : Secret)
  | upsertA (target : Target) (ip : Ipv4Addr)
  | teardown (target : Target)
  | setTxt (target : Target) (values : List Text)
  | deleteTxt (target : Target)
  | setPremium (premium : Bool)
  | activate (domain : Text)
  | deactivate
  | upsertRecord (id : Uuid) (domain value : Text)
  | listRecords
  | deleteRecord (id : Uuid)

@[reducible]
def Reply : Op → Type
  | .get _ => Option Text
  | .getSecret _ => Option (List UInt8)
  | .listRecords => List LocalRecord
  | _ => Unit

/-- A failure comes with its text. -/
abbrev Answer (op : Op) : Type := Except Text (Reply op)

namespace Box

def set (box : Box) (key : Key) (value : Text) : Box :=
  { box with config := box.config.insert key value }

def delete (box : Box) (key : Key) : Box := { box with config := box.config.remove key }

def putSecret (box : Box) (path : Secret) (value : List UInt8) : Box :=
  { box with secrets := box.secrets.insert path value }

def deleteSecret (box : Box) (path : Secret) : Box :=
  { box with secrets := box.secrets.remove path }

def upsertA (box : Box) (target : Target) (ip : Ipv4Addr) : Box :=
  { box with published := box.published.insert target ip }

/-- A provider forgets the name, its challenge with it. -/
def teardown (box : Box) (target : Target) : Box :=
  { box with
    published := box.published.remove target
    challenges := box.challenges.remove target }

/-- The record of the name that an upsert would meet. -/
def isAddressOf (domain : Text) (record : LocalRecord) : Bool :=
  record.domain = domain ∧ record.recordType = .a

/-- A `System` A record of the name. -/
def isSystemOf (domain : Text) (record : LocalRecord) : Bool :=
  isAddressOf domain record ∧ record.source = .system

/-- The upsert of a `System` A record: it overwrites only what has the same
source. -/
def upsertRecord (box : Box) (id : Uuid) (domain value : Text) : Except Text Box :=
  match box.records.rows.find? (isAddressOf domain) with
  | some existing =>
    if existing.source = .system then
      .ok { box with
        records := box.records.update existing.id
          (fun record => { record with value := value }) fun _ => rfl }
    else .error ("record ".toList ++ domain ++ " already exists from a different source".toList)
  | none =>
    match box.records.insert ⟨id, domain, .a, value, .system⟩ with
    | some records => .ok { box with records := records }
    | none => .error "UNIQUE constraint failed".toList

def deleteRecord (box : Box) (id : Uuid) : Except Text Box :=
  if (box.records.find id).isSome then
    .ok { box with records := box.records.deleteWhere fun record => record.id = id }
  else .error "record not found".toList

end Box

/-- The answer of an update and the box it leaves. -/
def committed (box : Box) : Except Text Box → Except Text Unit × Box
  | .ok after => (.ok (), after)
  | .error reason => (.error reason, box)

/-- What an operation does when nothing goes wrong. -/
def effect (op : Op) (box : Box) : Answer op × Box :=
  match op with
  | .get key => (.ok (box.config.get key), box)
  | .set key value => (.ok (), box.set key value)
  | .delete key => (.ok (), box.delete key)
  | .getSecret path => (.ok (box.secrets.get path), box)
  | .putSecret path value => (.ok (), box.putSecret path value)
  | .deleteSecret path => (.ok (), box.deleteSecret path)
  | .upsertA target ip => (.ok (), box.upsertA target ip)
  | .teardown target => (.ok (), box.teardown target)
  | .setTxt target values =>
    (.ok (), { box with challenges := box.challenges.insert target values })
  | .deleteTxt target => (.ok (), { box with challenges := box.challenges.remove target })
  | .setPremium premium => (.ok (), { box with premium := premium })
  | .activate domain => (.ok (), { box with served := some domain })
  | .deactivate => (.ok (), { box with served := none })
  | .upsertRecord id domain value => committed box (box.upsertRecord id domain value)
  | .listRecords => (.ok box.records.rows, box)
  | .deleteRecord id => committed box (box.deleteRecord id)

inductive Outcome
  | done
  | failed (reason : Text)
  /-- The operation took effect and its answer did not arrive. -/
  | lost (reason : Text)
  deriving DecidableEq

/-- The entitlement is in memory. -/
def Op.isFallible : Op → Bool
  | .setPremium _ => false
  | _ => true

def Op.isRemote : Op → Bool
  | .upsertA .. | .teardown _ | .setTxt .. | .deleteTxt _ => true
  | _ => false

/-- A failed operation changes nothing, except that reverting :443 clears the
domain before it loads the placeholder certificate, which is what can fail. -/
def afterFailure (op : Op) (box : Box) : Box :=
  match op with
  | .deactivate => { box with served := none }
  | _ => box

def exec (outcome : Outcome) (op : Op) (box : Box) : Option (Answer op × Box) :=
  match outcome with
  | .done => some (effect op box)
  | .failed reason => if op.isFallible then some (.error reason, afterFailure op box) else none
  | .lost reason => if op.isRemote then some (.error reason, (effect op box).2) else none

/-! ## Actions -/

/-- `AppError`, with the text of an internal one. -/
inductive Error
  | app (error : AppError)
  | upstreamUnavailable (message : Text)
  | failed (message : Text)
  deriving DecidableEq

/-- The text of an error. -/
def Error.display : Error → Text
  | .app (.badRequest message) => "bad request: ".toList ++ message.toList
  | .app (.conflict message) => "conflict: ".toList ++ message.toList
  | .app (.notFound message) => "not found: ".toList ++ message.toList
  | .app (.unauthorized message) => "unauthorized: ".toList ++ message.toList
  | .app (.forbidden message) => "forbidden: ".toList ++ message.toList
  | .app .internal => "internal error".toList
  | .upstreamUnavailable message => "upstream unavailable: ".toList ++ message
  | .failed message => message

abbrev Action (Result : Type) := Program Op Answer Error Result

open Program (perform fail)

/-- One operation, whatever its outcome. -/
def request (op : Op) : Action (Answer op) := perform op

/-- One operation with `map_err(AppError::Internal)?`. -/
def query (op : Op) : Action (Reply op) := do
  match ← request op with
  | .ok reply => pure reply
  | .error reason => fail (.failed reason)

/-- A call of a provider with `map_err(AppError::UpstreamUnavailable)?`. -/
def upstream (op : Op) : Action (Reply op) := do
  match ← request op with
  | .ok reply => pure reply
  | .error reason => fail (.upstreamUnavailable reason)

/-- `auth_context::require_admin`. -/
def authorize (caller : AuthContext) : Action Unit :=
  .ofExcept ((requireAdmin caller).mapError .app)

end Wardnet.Remote
