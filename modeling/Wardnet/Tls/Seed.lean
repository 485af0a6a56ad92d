import Wardnet.Tls.Service

/-!
# The certificate at boot

The chain, the key, the domain and the expiry of a certificate are written one
after the other, and a crash or a failure may cut an issuance or a teardown off
after any of these writes.  The next boot seeds :443 with what it finds.
-/

namespace Wardnet.Tls.Seed

open Remote Transition

/-! ## The runs -/

/-- What an activation writes. -/
def issueWrites (domain : Text) (chain key : List UInt8) (notAfter : Text) : List Op :=
  [.putSecret .certChain chain, .putSecret .certKey key, .set .certDomain domain,
    .set .certNotAfter notAfter]

/-- What a teardown writes. -/
def teardownWrites : List Op :=
  [.deleteSecret .certChain, .deleteSecret .certKey, .delete .certDomain, .delete .certNotAfter,
    .delete .tlsPhase, .delete .tlsLastError]

def performAll : List Op → Action Unit
  | [] => pure ()
  | op :: ops => do
    let _ ← query op
    performAll ops

/-- These are the writes of the service's programs, in their order. -/
theorem activate_eq (settings : Ddns.Settings) (recordId : Uuid) (domain : Text)
    (previousDomain : Option Text) (chain key : List UInt8) (notAfter : ℤ) :
    let writes := issueWrites domain chain key (settings.printTime notAfter)
    activate settings recordId domain previousDomain chain key notAfter = (do
      performAll (writes.take 2)
      query (.activate domain)
      reconcileSplitHorizon settings recordId domain previousDomain
      performAll (writes.drop 2)
      pure notAfter) := by
  simp [activate, issueWrites, performAll, Ddns.setCfg]

theorem teardownBody_eq : teardownBody = (do
    let _ ← request .deactivate
    pruneCertDomain (← Ddns.getCfg .certDomain)
    performAll teardownWrites) := by
  simp [teardownBody, teardownWrites, performAll, Ddns.deleteSecrets, Ddns.deleteKeys,
    Ddns.deleteSecret, Ddns.deleteCfg]

/-- A run, and how many of its writes are made. -/
inductive Run
  | issue (domain : Text) (chain key : List UInt8) (notAfter : Text) (writes : ℕ)
  | teardown (writes : ℕ)

def Run.writes : Run → List Op
  | .issue domain chain key notAfter writes => (issueWrites domain chain key notAfter).take writes
  | .teardown writes => teardownWrites.take writes

def next (box : Box) (run : Run) : Option Box :=
  some (run.writes.foldl (fun box op => (effect op box).2) box)

/-! ## The boot -/

def loadStoredCert (box : Box) : Option (List UInt8 × List UInt8) :=
  match box.secrets.get .certChain, box.secrets.get .certKey with
  | some chain, some key => some (chain, key)
  | _, _ => none

def loadStoredCertDomain (box : Box) : Option Text := box.config.get .certDomain

section Boot

variable (isMatching : List UInt8 → List UInt8 → Bool)

/-- The domain that is served, unless the certificate is refused; without a seed
the generated placeholder is served. -/
def buildServingControl (placeholder : List UInt8 × List UInt8)
    (seed : Option (List UInt8 × List UInt8)) (seedDomain : Option Text) : Option (Option Text) :=
  let (served, cert, key) := match seed with
    | some (cert, key) => (seedDomain, cert, key)
    | none => (none, placeholder)
  if isMatching cert key then some served else none

/-- What the next start of the daemon serves. -/
def boot (placeholder : List UInt8 × List UInt8) (box : Box) : Option (Option Text) :=
  buildServingControl isMatching placeholder (loadStoredCert box) (loadStoredCertDomain box)

variable (issuedFor : List UInt8 → Text)

/-- The certificate authority issues a chain for the domain and the key. -/
def Run.IsIssued : Run → Prop
  | .issue domain chain key _ _ => isMatching chain key ∧ issuedFor chain = domain
  | .teardown _ => True

/-- An issuance that is cut off behind the chain finds no key, and one that is
cut off behind the key finds no other domain. -/
def IsWhole (box : Box) : Run → Prop
  | .issue domain _ _ _ writes =>
    (writes = 1 → box.secrets.get .certKey = none) ∧
      (writes = 2 → ∀ recorded, box.config.get .certDomain = some recorded → domain = recorded)
  | .teardown _ => True

/-- A stored pair is one certificate, for the domain that is recorded. -/
def Sound (box : Box) : Prop :=
  ∀ chain key, loadStoredCert box = some (chain, key) →
    isMatching chain key ∧ ∀ domain, loadStoredCertDomain box = some domain →
      issuedFor chain = domain

variable {isMatching issuedFor} {box : Box}

theorem loadStoredCert_eq_some {chain key : List UInt8} : loadStoredCert box = some (chain, key) ↔
      box.secrets.get .certChain = some chain ∧ box.secrets.get .certKey = some key := by
  unfold loadStoredCert
  split <;> simp_all

theorem Sound.next {run : Run} {after : Box} (hsound : Sound isMatching issuedFor box)
    (hrun : run.IsIssued isMatching issuedFor ∧ IsWhole box run)
    (hnext : next box run = some after) : Sound isMatching issuedFor after := by
  cases hnext
  intro chain key hload
  rw [loadStoredCert_eq_some] at hload
  cases run with
  | issue domain issued secret notAfter writes =>
    obtain ⟨⟨hmatching, hdomain⟩, hkey, hrecorded⟩ := hrun
    obtain _ | _ | _ | _ | writes := writes
    · exact hsound chain key (loadStoredCert_eq_some.mpr hload)
    · simp [Run.writes, issueWrites, effect, Box.putSecret, hkey] at hload
    all_goals
      simp_all [Run.writes, issueWrites, effect, Box.putSecret, Box.set, loadStoredCertDomain]
  | teardown writes =>
    obtain _ | _ | _ | _ | _ | _ | writes := writes
    · exact hsound chain key (loadStoredCert_eq_some.mpr hload)
    all_goals
      simp [Run.writes, teardownWrites, effect, Box.deleteSecret, Box.delete] at hload

/-- Where no issuance is cut off between the parts of two certificates, the next
boot accepts what is stored and serves the domain it was issued for. -/
theorem boot_is_coherent {placeholder : List UInt8 × List UInt8} {start final : Box}
    {runs : List Run} (hplaceholder : isMatching placeholder.1 placeholder.2)
    (hstart : loadStoredCert start = none)
    (hissued : ∀ run ∈ runs, run.IsIssued isMatching issuedFor)
    (hwhole : Meets next IsWhole start runs) (hrun : run next start runs = some final) :
    ∃ served, boot isMatching placeholder final = some served ∧ ∀ domain, served = some domain →
        ∃ chain key, loadStoredCert final = some (chain, key) ∧ issuedFor chain = domain := by
  have hsound : Sound isMatching issuedFor final := by
    apply run_invariant_of_meets (fun _ _ _ => Sound.next) ?_
      (meets_and.mpr ⟨meets_of_forall hissued start, hwhole⟩) hrun
    intro chain key hload
    rw [hstart] at hload
    cases hload
  unfold boot
  cases hload : loadStoredCert final with
  | none => exact ⟨none, if_pos hplaceholder, fun domain hdomain => by cases hdomain⟩
  | some seed =>
    obtain ⟨hmatching, hdomain⟩ := hsound seed.1 seed.2 hload
    exact ⟨_, if_pos hmatching, fun domain hserved => ⟨seed.1, seed.2, rfl, hdomain domain hserved⟩⟩

end Boot

/-! ## Runs that are cut off -/

section Cut

def blank : Box := ⟨.empty, .empty, .empty, .empty, false, none, .empty⟩

def issuedFor (chain : List UInt8) : Text :=
  if chain = [2] then "new".toList else "old".toList

/-- The run of a certificate that is its own key. -/
def certificate (number : UInt8) (writes : ℕ) : Run :=
  .issue (issuedFor [number]) [number] [number] [] writes

theorem boot_is_coherent_renewed :
    ∃ final served, run next blank [certificate 1 4, certificate 3 2] = some final ∧
      boot (· == ·) ([], []) final = some served := by
  have hwhole : Meets next IsWhole blank [certificate 1 4, certificate 3 2] := by
    simp +decide [Meets, IsWhole, certificate, next, Run.writes, issueWrites, effect, Box.set,
      Box.putSecret]
  obtain ⟨served, hserved, -⟩ := @boot_is_coherent (· == ·) issuedFor ([], []) _ _ _ rfl rfl
    (by simp [certificate, Run.IsIssued]) hwhole rfl
  exact ⟨_, served, rfl, hserved⟩

/-- A renewal that is cut off behind the chain keeps the daemon from starting,
and a change of the domain that is cut off behind the key serves the new
certificate under the old name. -/
theorem boot_is_incoherent :
    (run next blank [certificate 1 4, certificate 3 1]).map (boot (· == ·) ([], [])) = some none ∧
      (run next blank [certificate 1 4, certificate 2 2]).map (fun box =>
          (boot (· == ·) ([], []) box, (loadStoredCert box).map fun seed => issuedFor seed.1)) =
        some (some (some "old".toList), some "new".toList) := by
  decide

end Cut

end Wardnet.Tls.Seed
