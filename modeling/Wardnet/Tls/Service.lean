import Wardnet.Core.Transition
import Wardnet.Ddns.Service

/-!
# Certificates

The service that obtains the certificate for the public name, makes :443 serve
it and keeps the local record of the name, and that takes all of it back.  Both
run under one lock, which is released before disabling remote access goes on to
the name itself.  The calls of `ensure_certificate` wait for the lock in no
particular order.

The time, the identifiers and what the certificate authority answers are inputs
of a call.
-/

namespace Wardnet.Tls

open Program (fail)
open Remote Ddns

/-- What the certificate authority and the reading of its chain give. -/
structure Order where
  /-- Restoring an account from its stored credentials. -/
  restored : Except Text Unit
  created : Except Text (List UInt8)
  /-- The values of the challenges that are still open. -/
  values : Except Text (List Text)
  /-- The chain and the private key. -/
  certificate : Except Text (List UInt8 × List UInt8)
  notAfter : Except Text ℤ

inductive TlsStatus
  | notConfigured
  | upToDate (domain : Text) (notAfter : ℤ)
  | issued (domain : Text) (notAfter : ℤ)
  deriving DecidableEq

inductive TlsProvisioningPhase
  | idle
  | issuing
  | issued
  | failed
  deriving DecidableEq

def phaseStorageStr : TlsProvisioningPhase → Text
  | .idle => "idle".toList
  | .issuing => "issuing".toList
  | .issued => "issued".toList
  | .failed => "failed".toList

def defaultAcmeDirectoryUrl : Text := "https://acme-v02.api.letsencrypt.org/directory".toList

def renewalWindowDays : ℤ := 30

def withinRenewalWindow (notAfter now : ℤ) : Bool := notAfter - now ≤ renewalWindowDays * 86400

/-! ## The local record -/

/-- Delete records one by one, whether that works or not. -/
def deleteRecords : List Uuid → Action Unit
  | [] => pure ()
  | id :: ids => do
    let _ ← request (.deleteRecord id)
    deleteRecords ids

def deleteSystemRecord (domain : Text) : Action Unit := do
  match ← request .listRecords with
  | .error _ => pure ()
  | .ok records => deleteRecords ((records.filter (Box.isSystemOf domain)).map LocalRecord.id)

/-- The record of a name that was given up. -/
def pruneRecord (domain : Text) : Option Text → Action Unit
  | none => pure ()
  | some previous => if previous = domain then pure () else deleteSystemRecord previous

variable (settings : Settings)

def reconcileSplitHorizon (recordId : Uuid) (domain : Text) (previousDomain : Option Text) :
    Action Unit := do
  let _ ← request (.upsertRecord recordId domain (Net.display settings.lanIp).toList)
  pruneRecord domain previousDomain

/-! ## Issuance -/

def setPhase (phase : TlsProvisioningPhase) (error : Option Text) : Action Unit := do
  setCfg .tlsPhase (phaseStorageStr phase)
  setCfg .tlsLastError (error.getD [])

def recordFailure (message : Text) : Action Unit := do
  let _ ← (setPhase .failed (some message)).attempt
  pure ()

def directoryUrl : Action Text := do
  let url := (← getCfg .acmeDirectoryUrl).getD defaultAcmeDirectoryUrl
  if url.startsWith "https://".toList then pure url
  else
    fail (.app (.conflict
      ("acme_directory_url must be an https:// URL, got: " ++ String.ofList url)))

def storedNotAfter : Action (Option ℤ) := do
  match ← getCfg .certNotAfter with
  | none => pure none
  | some raw =>
    match settings.parseTime raw with
    | none => fail (.failed "invalid stored not_after".toList)
    | some notAfter => pure (some notAfter)

def storedCertIsFresh (domain : Text) (now : ℤ) : Action (Option ℤ) := do
  let storedDomain ← getCfg .certDomain
  if storedDomain ≠ some domain then pure none
  else do
    let notAfter ← storedNotAfter settings
    pure (notAfter.filter fun notAfter => !withinRenewalWindow notAfter now)

def loadOrCreateAccount (order : Order) : Action Unit := do
  match ← query (.getSecret .acmeAccount) with
  | some _ => .ofExcept (order.restored.mapError .failed)
  | none => do
    let credentials ← Program.ofExcept (order.created.mapError .failed)
    query (.putSecret .acmeAccount credentials)

/-- The challenges are published, unless none is open. -/
def publishChallenges (caller : AuthContext) (values : List Text) : Action Unit :=
  if values = [] then pure ()
  else do
    match ← (setAcmeChallenge settings caller values).attempt with
    | .ok () => pure ()
    | .error error => fail (.failed ("publish ACME challenge: ".toList ++ error.display))

def runOrder (caller : AuthContext) (order : Order) : Action (List UInt8 × List UInt8) := do
  let values ← Program.ofExcept (order.values.mapError .failed)
  publishChallenges settings caller values
  .ofExcept (order.certificate.mapError .failed)

def issue (caller : AuthContext) (order : Order) : Action (List UInt8 × List UInt8) := do
  loadOrCreateAccount order
  let result ← (runOrder settings caller order).attempt
  let _ ← (clearAcmeChallenge settings caller).attempt
  .ofExcept result

/-- The certificate is stored, served and recorded. -/
def activate (recordId : Uuid) (domain : Text) (previousDomain : Option Text)
    (chain key : List UInt8) (notAfter : ℤ) : Action ℤ := do
  query (.putSecret .certChain chain)
  query (.putSecret .certKey key)
  query (.activate domain)
  reconcileSplitHorizon settings recordId domain previousDomain
  setCfg .certDomain domain
  setCfg .certNotAfter (settings.printTime notAfter)
  pure notAfter

def issueAndActivate (caller : AuthContext) (order : Order) (recordId : Uuid) (domain : Text)
    (previousDomain : Option Text) : Action ℤ := do
  let _ ← directoryUrl
  match ← (issue settings caller order).attempt with
  | .error error => fail (.upstreamUnavailable ("ACME issuance failed: ".toList ++ error.display))
  | .ok issued => do
    let notAfter ← Program.ofExcept (order.notAfter.mapError .failed)
    activate settings recordId domain previousDomain issued.1 issued.2 notAfter

/-- A certificate that is due is issued, and the outcome recorded. -/
def renew (caller : AuthContext) (order : Order) (recordId : Uuid) (domain : Text)
    (previousDomain : Option Text) : Action TlsStatus := do
  setPhase .issuing none
  match ← (issueAndActivate settings caller order recordId domain previousDomain).attempt with
  | .ok notAfter => do
    setPhase .issued none
    pure (.issued domain notAfter)
  | .error error => do
    recordFailure error.display
    fail error

/-- What is done for the name that is configured. -/
def provision (caller : AuthContext) (now : ℤ) (order : Order) (recordId : Uuid)
    (domain : Text) : Action TlsStatus := do
  let previousDomain ← getCfg .certDomain
  match ← storedCertIsFresh settings domain now with
  | some notAfter => do
    reconcileSplitHorizon settings recordId domain none
    setPhase .issued none
    pure (.upToDate domain notAfter)
  | none => renew settings caller order recordId domain previousDomain

/-- What `ensure_certificate` does under the lock. -/
def ensureBody (caller : AuthContext) (now : ℤ) (order : Order) (recordId : Uuid) :
    Action TlsStatus := do
  match (← status caller).fqdn with
  | none => pure .notConfigured
  | some domain => provision settings caller now order recordId domain

/-! ## Teardown -/

/-- The record of the certificate's name. -/
def pruneCertDomain : Option Text → Action Unit
  | none => pure ()
  | some domain => deleteSystemRecord domain

/-- What `teardown` does under the lock. -/
def teardownBody : Action Unit := do
  let _ ← request .deactivate
  pruneCertDomain (← getCfg .certDomain)
  deleteSecrets [.certChain, .certKey]
  deleteKeys [.certDomain, .certNotAfter, .tlsPhase, .tlsLastError]

/-! ## Calls -/

/-- The arguments of `ensure_certificate`. -/
structure EnsureCall where
  caller : AuthContext
  now : ℤ
  order : Order
  recordId : Uuid

/-- Where the one `ddns_teardown` request stands: `TlsService::teardown` waits
for the lock and then holds it, and `DdnsService::teardown` follows without
it. -/
inductive Stage
  | absent
  | queued (caller : AuthContext)
  | certificate (caller : AuthContext) (rest : Action Unit)
  | name (rest : Action Unit)
  | ended (result : Except Error Unit)

structure Daemon where
  box : Box
  /-- The calls of `ensure_certificate` that wait for the lock. -/
  queued : HashMap ℕ EnsureCall
  /-- What is left of the call of `ensure_certificate` that holds the lock. -/
  issuing : Option (Action TlsStatus)
  stage : Stage

def Stage.isHolding : Stage → Bool
  | .certificate .. => true
  | _ => false

/-- The issuance lock is held. -/
def Daemon.isLocked (daemon : Daemon) : Bool := daemon.issuing.isSome || daemon.stage.isHolding

/-- A call that returns releases the lock. -/
def holding : Action TlsStatus → Option (Action TlsStatus)
  | .done _ => none
  | rest => some rest

def naming : Action Unit → Stage
  | .done result => .ended result
  | rest => .name rest

/-- When the certificate is gone the request goes on to the name. -/
def tearing (caller : AuthContext) : Action Unit → Stage
  | .done (.ok ()) => naming (Ddns.teardown settings caller)
  | .done (.error error) => .ended (.error error)
  | rest => .certificate caller rest

inductive Label
  | ensureCertificate (call : ℕ) (request : EnsureCall)
  | acquire (call : ℕ)
  | issue (outcome : Outcome)
  | ddnsTeardown (caller : AuthContext)
  | acquireTeardown
  | tearDown (outcome : Outcome)

/-- A call comes in, gets the lock, or performs its next operation.  A caller
that is no admin is turned away before the lock. -/
def next (daemon : Daemon) : Label → Option Daemon
  | .ensureCertificate call request =>
    match daemon.queued.get call, requireAdmin request.caller with
    | some _, _ => none
    | none, .error _ => some daemon
    | none, .ok _ => some { daemon with queued := daemon.queued.insert call request }
  | .acquire call =>
    match daemon.isLocked, daemon.queued.get call with
    | false, some ⟨caller, now, order, recordId⟩ =>
      some { daemon with
        queued := daemon.queued.remove call
        issuing := holding (ensureBody settings caller now order recordId) }
    | _, _ => none
  | .issue outcome =>
    match daemon.issuing with
    | some (.call op rest) =>
      (exec outcome op daemon.box).map fun (answer, after) =>
        { daemon with box := after, issuing := holding (rest answer) }
    | _ => none
  | .ddnsTeardown caller =>
    match daemon.stage, requireAdmin caller with
    | .absent, .error error => some { daemon with stage := .ended (.error (.app error)) }
    | .absent, .ok _ => some { daemon with stage := .queued caller }
    | _, _ => none
  | .acquireTeardown =>
    match daemon.isLocked, daemon.stage with
    | false, .queued caller => some { daemon with stage := tearing settings caller teardownBody }
    | _, _ => none
  | .tearDown outcome =>
    match daemon.stage with
    | .certificate caller (.call op rest) =>
      (exec outcome op daemon.box).map fun (answer, after) =>
        { daemon with box := after, stage := tearing settings caller (rest answer) }
    | .name (.call op rest) =>
      (exec outcome op daemon.box).map fun (answer, after) =>
        { daemon with box := after, stage := naming (rest answer) }
    | _ => none

end Wardnet.Tls
