import Wardnet.Core.Utf8
import Wardnet.Remote.Machine

/-!
# Dynamic DNS

The service that keeps the public name pointed at the box.  The provider is
rebuilt from the configuration for every call.  Switching providers writes the
new identity first and then deregisters the old one; the address published last
is stored once, for whichever provider is configured.

What the outside answers (the regions, the cloud, the zone list, the address
echo) is an input of a call.
-/

namespace Wardnet.Ddns

open Net (Ipv4Addr)
open Program (fail)
open Remote

/-! ## Settings and inputs -/

/-- The parts of the services that are not their own: the regions the build
knows, UTF-8, RFC 3339, and the address of the box in the home network. -/
structure Settings where
  regionCatalog : List Text
  decodeUtf8 : List UInt8 → Option Text
  printTime : ℤ → Text
  parseTime : Text → Option ℤ
  lanIp : Ipv4Addr

def providerWardnet : Text := "wardnet".toList

def providerCloudflare : Text := "cloudflare".toList

/-- The retired provider. -/
def providerLegacyBridge : Text := "bridge".toList

/-- The parent of the names the cloud gives out. -/
def subdomainParent : Text := "my.wardnet.services".toList

inductive CloudError
  | entitlementLost
  | badRequest (detail : String)
  | upstream (reason : Text)
  deriving DecidableEq

def mapCloudErr : CloudError → Error
  | .entitlementLost => .app (.forbidden "tenant subscription is not active")
  | .badRequest detail => .app (.badRequest detail)
  | .upstream reason => .upstreamUnavailable reason

structure NetworkRegistration where
  networkId : Text
  slug : Text
  region : Text
  adopted : Bool
  deriving DecidableEq

structure DdnsRegistration where
  subdomain : Text
  region : Text
  adopted : Bool
  deriving DecidableEq

structure DdnsStatus where
  provider : Option Text
  fqdn : Option Text
  lastPublicIp : Option Text
  deriving DecidableEq

/-! ## Reading the configuration -/

variable (settings : Settings)

def getCfg (key : Key) : Action (Option Text) := query (.get key)

def setCfg (key : Key) (value : Text) : Action Unit := query (.set key value)

def deleteCfg (key : Key) : Action Unit := query (.delete key)

def deleteSecret (path : Secret) : Action Unit := query (.deleteSecret path)

def requireCfg (key : Key) : Action Text := do
  match ← getCfg key with
  | some value => pure value
  | none => fail (.failed ("missing config key ".toList ++ key.name))

def getSecretString (path : Secret) : Action Text := do
  match ← query (.getSecret path) with
  | none => fail (.failed ("missing secret at ".toList ++ path.path))
  | some bytes =>
    match settings.decodeUtf8 bytes with
    | none => fail (.failed ("secret at ".toList ++ path.path ++ " is not UTF-8".toList))
    | some text => pure text

/-- `build_identity`: the seed of the daemon's identity. -/
def buildIdentity : Action (List UInt8) := do
  match ← query (.getSecret .daemonKey) with
  | none => fail (.app (.conflict "not enrolled - request a code and enroll first"))
  | some seed =>
    if seed.length = 32 then pure seed
    else fail (.failed "daemon signing key is not 32 bytes".toList)

def gatewayBaseForRegion (region : Text) : Action Unit :=
  if region ∈ settings.regionCatalog then pure ()
  else fail (.failed ("unknown DDNS region slug '".toList ++ region ++ "'".toList))

/-- Delete a list of keys, the first failure ends it. -/
def deleteKeys : List Key → Action Unit
  | [] => pure ()
  | key :: keys => do
    deleteCfg key
    deleteKeys keys

def deleteSecrets : List Secret → Action Unit
  | [] => pure ()
  | path :: paths => do
    deleteSecret path
    deleteSecrets paths

def wipeLegacyBridge : Action Unit := do
  deleteKeys [.installId, .bridgeBaseUrl, .subdomain, .region, .provider, .lastIp]
  deleteSecrets [.bridgeSigningKey, .bridgeBearerToken]

def currentProvider : Action (Option Text) := do
  let kind ← getCfg .provider
  if kind = some providerLegacyBridge then do
    wipeLegacyBridge
    pure none
  else pure kind

/-- The provider of a kind, bound to what the configuration says. -/
def bindProvider (kind : Option Text) : Action (Option Target) :=
  if kind = some providerWardnet then do
    let networkId ← requireCfg .networkId
    let region ← requireCfg .region
    gatewayBaseForRegion settings region
    let _ ← buildIdentity
    pure (some (.wardnet networkId))
  else if kind = some providerCloudflare then do
    let domain ← requireCfg .domain
    let zoneId ← requireCfg .cfZoneId
    let _ ← getSecretString settings .cfToken
    pure (some (.cloudflare zoneId domain))
  else pure none

def buildProvider : Action (Option Target) := do
  bindProvider settings (← currentProvider)

def activeFqdn (kind : Option Text) : Action (Option Text) :=
  if kind = some providerWardnet then getCfg .subdomain
  else if kind = some providerCloudflare then getCfg .domain
  else pure none

def status (caller : AuthContext) : Action DdnsStatus := do
  authorize caller
  let provider ← currentProvider
  let fqdn ← activeFqdn provider
  let lastPublicIp ← getCfg .lastIp
  pure ⟨provider, fqdn, lastPublicIp⟩

/-! ## Switching providers -/

def clearProviderState (kind : Text) : Action Unit :=
  if kind = providerWardnet then do
    deleteKeys [.tenantId, .networkId, .slug, .subdomain, .region]
    deleteSecrets [.daemonKey]
  else if kind = providerCloudflare then do
    deleteKeys [.domain, .cfZoneId]
    deleteSecrets [.cfToken]
  else pure ()

/-- The provider that was configured before a switch. -/
structure Previous where
  provider : Option Target
  kind : Option Text
  fqdn : Option Text

/-- What a switch finds; a provider that cannot be built counts as none. -/
def previous : Action Previous := do
  let built ← (buildProvider settings).attempt
  let kind ← currentProvider
  let fqdn ← activeFqdn kind
  pure ⟨built.toOption.join, kind, fqdn⟩

/-- Deregister a provider, whether that works or not. -/
def deregister : Option Target → Action Unit
  | none => pure ()
  | some target => do
    let _ ← request (.teardown target)
    pure ()

/-- The residue of the kind that was given up. -/
def clearResidue (oldKind : Option Text) (newKind : Text) : Action Unit :=
  match oldKind with
  | none => pure ()
  | some kind =>
    if kind = newKind then pure ()
    else do
      let _ ← (clearProviderState kind).attempt
      pure ()

def teardownSuperseded (old : Previous) (newKind newFqdn : Text) : Action Unit :=
  if old.kind = some newKind ∧ old.fqdn = some newFqdn then pure ()
  else do
    deregister old.provider
    clearResidue old.kind newKind

/-! ## The calls -/

def isValidSlug (slug : Text) : Bool :=
  (3 ≤ slug.len ∧ slug.len ≤ 32) && slug.head? ≠ some '-' && slug.getLast? ≠ some '-' &&
    slug.all fun char => char.isLower || char.isDigit || char = '-'

/-- The identity of a network is written key by key. -/
def persistNetwork (network : NetworkRegistration) (subdomain : Text) : Action Unit := do
  setCfg .networkId network.networkId
  setCfg .slug network.slug
  setCfg .subdomain subdomain
  setCfg .region network.region
  setCfg .provider providerWardnet
  let _ ← request (.setPremium true)
  pure ()

/-- `register_network`, given the region that answered first and what the
cloud makes of the request. -/
def registerNetwork (caller : AuthContext) (slug : Text)
    (selected : Except Text Text) (registered : Except CloudError NetworkRegistration) :
    Action DdnsRegistration := do
  authorize caller
  if ¬ isValidSlug slug then
    fail (.app (.badRequest ("slug must be 3–32 chars of lowercase letters, digits, and " ++
      "hyphens, not starting or ending with a hyphen")))
  else do
    let _ ← buildIdentity
    let old ← previous settings
    let _ ← Program.ofExcept (selected.mapError .upstreamUnavailable)
    let network ← Program.ofExcept (registered.mapError mapCloudErr)
    if network.region ∉ settings.regionCatalog then
      fail (.upstreamUnavailable ("your network '".toList ++ network.slug ++
        "' lives in region '".toList ++ network.region ++
        ("', which this wardnet build does not                  know — update wardnet and " ++
          "retry").toList))
    else do
      let subdomain := network.slug ++ '.' :: subdomainParent
      persistNetwork network subdomain
      teardownSuperseded old providerWardnet subdomain
      pure ⟨subdomain, network.region, network.adopted⟩

/-- The identity of a zone is written key by key, the credential last. -/
def persistCloudflare (token domain zoneId : Text) : Action Unit := do
  setCfg .provider providerCloudflare
  let _ ← request (.setPremium false)
  setCfg .domain domain
  setCfg .cfZoneId zoneId
  query (.putSecret .cfToken (Utf8.bytes token))

/-- `configure_cloudflare`, given the zone that covers the domain. -/
def configureCloudflare (caller : AuthContext) (token domain : Text)
    (zone : Except Error Text) : Action DdnsRegistration := do
  authorize caller
  let old ← previous settings
  let zoneId ← Program.ofExcept zone
  persistCloudflare token domain zoneId
  teardownSuperseded old providerCloudflare domain
  pure ⟨domain, providerCloudflare, false⟩

/-- The publish, skipped when the address is the one stored last. -/
def publish (target : Target) (ip : Ipv4Addr) : Action (Option Ipv4Addr) := do
  let lastIp ← getCfg .lastIp
  if lastIp.bind Net.parseIpv4 = some ip then pure none
  else do
    upstream (.upsertA target ip)
    setCfg .lastIp (Net.display ip).toList
    pure (some ip)

/-- `refresh_public_ip`, given what the address echo answers. -/
def refreshPublicIp (caller : AuthContext) (discovered : Except Text Ipv4Addr) :
    Action (Option Ipv4Addr) := do
  authorize caller
  match ← buildProvider settings with
  | none => pure none
  | some target =>
    let ip ← Program.ofExcept (discovered.mapError .upstreamUnavailable)
    publish target ip

/-- The local state of a torn down provider is wiped. -/
def wipe (kind : Text) : Action Unit := do
  clearProviderState kind
  deleteCfg .provider
  let _ ← request (.setPremium false)
  deleteCfg .lastIp

def teardown (caller : AuthContext) : Action Unit := do
  authorize caller
  match ← currentProvider with
  | none => pure ()
  | some kind =>
    let built ← (buildProvider settings).attempt
    deregister built.toOption.join
    wipe kind

def setAcmeChallenge (caller : AuthContext) (values : List Text) : Action Unit := do
  authorize caller
  match ← buildProvider settings with
  | none => fail (.app (.conflict "DDNS is not configured - cannot publish ACME challenge"))
  | some target => upstream (.setTxt target values)

def clearAcmeChallenge (caller : AuthContext) : Action Unit := do
  authorize caller
  match ← buildProvider settings with
  | none => fail (.app (.conflict "DDNS is not configured - cannot clear ACME challenge"))
  | some target => upstream (.deleteTxt target)

end Wardnet.Ddns
