import Wardnet.Tls.Service

/-!
# The two halves of a teardown

What is left when the certificate's half of a teardown succeeds: :443 serves
nothing, no certificate is stored or recorded, and the local record of its name
is gone.  The half of the name only ever deletes, and when it succeeds no name
is configured.
-/

namespace Wardnet.Tls

open Ddns Program Remote

/-! ## Clean boxes -/

/-- The public name that is configured. -/
def name (box : Box) : Option Text :=
  if box.config.get .provider = some providerWardnet then box.config.get .subdomain
  else if box.config.get .provider = some providerCloudflare then box.config.get .domain
  else none

/-- No trace of a certificate, and no local record of `fqdn`. -/
structure Clean (fqdn : Text) (box : Box) : Prop where
  served : box.served = none
  chain : box.secrets.get .certChain = none
  key : box.secrets.get .certKey = none
  certDomain : box.config.get .certDomain = none
  certNotAfter : box.config.get .certNotAfter = none
  record : ∀ record ∈ box.records.rows, Box.isSystemOf fqdn record = false

/-- Nothing is served, recorded or stored that was not before. -/
structure Shrinks (box after : Box) : Prop where
  served : after.served = box.served
  records : after.records = box.records
  config : ∀ key value, after.config.get key = some value → box.config.get key = some value
  secrets : ∀ path value, after.secrets.get path = some value → box.secrets.get path = some value

section Shrinking

variable {box after : Box} {fqdn : Text}

section

variable (hshrinks : Shrinks box after)
include hshrinks

theorem Shrinks.config_eq_none {key : Key}
    (hnone : box.config.get key = none) : after.config.get key = none := by
  rw [Option.eq_none_iff_forall_ne_some] at hnone ⊢
  exact fun value hvalue => hnone value (hshrinks.config key value hvalue)

theorem Shrinks.secret_eq_none {path : Secret}
    (hnone : box.secrets.get path = none) : after.secrets.get path = none := by
  rw [Option.eq_none_iff_forall_ne_some] at hnone ⊢
  exact fun value hvalue => hnone value (hshrinks.secrets path value hvalue)

theorem Shrinks.clean (hclean : Clean fqdn box) : Clean fqdn after where
  served := hshrinks.served.trans hclean.served
  chain := hshrinks.secret_eq_none hclean.chain
  key := hshrinks.secret_eq_none hclean.key
  certDomain := hshrinks.config_eq_none hclean.certDomain
  certNotAfter := hshrinks.config_eq_none hclean.certNotAfter
  record := hshrinks.records ▸ hclean.record

/-- A name that is gone does not come back. -/
theorem Shrinks.name_eq_none (hnone : name box = none) : name after = none := by
  by_cases hwardnet : after.config.get .provider = some providerWardnet
  · rw [name, if_pos (hshrinks.config _ _ hwardnet)] at hnone
    rw [name, if_pos hwardnet, hshrinks.config_eq_none hnone]
  rw [name, if_neg hwardnet]
  by_cases hcloudflare : after.config.get .provider = some providerCloudflare
  · have hkinds : providerCloudflare ≠ providerWardnet := by decide
    rw [name, hshrinks.config _ _ hcloudflare, if_neg (by simpa using hkinds), if_pos rfl] at hnone
    rw [if_pos hcloudflare, hshrinks.config_eq_none hnone]
  · rw [if_neg hcloudflare]

end

theorem name_eq_none_of_provider (hnone : box.config.get .provider = none) : name box = none := by
  simp [name, hnone]

end Shrinking

/-- The operations that read or delete. -/
def isQuiet : Op → Bool
  | .get _ | .delete _ | .getSecret _ | .deleteSecret _ | .teardown _ | .deleteTxt _
  | .setPremium _ => true
  | _ => false

theorem shrinks_of_quiet {outcome : Outcome} {op : Op} {box after : Box} {answer : Answer op}
    (hquiet : isQuiet op = true) (hexec : exec outcome op box = some (answer, after)) :
    Shrinks box after := by
  have hsame : Shrinks box box := ⟨rfl, rfl, fun _ _ => id, fun _ _ => id⟩
  cases op with
  | delete key =>
    have hdelete : Shrinks box (box.delete key) := ⟨rfl, rfl, fun other value hvalue => by
        exact (HashMap.get_remove_eq_some.mp hvalue).2, fun _ _ => id⟩
    cases outcome <;> cases hexec
    · exact hdelete
    · exact hsame
  | deleteSecret path =>
    have hdelete : Shrinks box (box.deleteSecret path) :=
      ⟨rfl, rfl, fun _ _ => id, fun other value hvalue => by
        exact (HashMap.get_remove_eq_some.mp hvalue).2⟩
    cases outcome <;> cases hexec
    · exact hdelete
    · exact hsame
  | get | getSecret => cases outcome <;> cases hexec <;> exact hsame
  | teardown | deleteTxt | setPremium =>
    cases outcome <;> cases hexec <;>
      exact ⟨rfl, rfl, fun _ _ => id, fun _ _ => id⟩
  | _ => cases hquiet

/-! ## The certificate's half -/

/-- The local DNS service lists and deletes its records. -/
def Pruned (outcome : Outcome) (op : Op) (_ : Box) : Prop :=
  match op with
  | .listRecords | .deleteRecord _ => outcome = .done
  | _ => True

/-- Only an operation that is done answers. -/
theorem effect_of_exec_ok {outcome : Outcome} {op : Op} {box after : Box} {reply : Reply op}
    (hexec : exec outcome op box = some (.ok reply, after)) :
    effect op box = (.ok reply, after) := by
  cases outcome with
  | done => exact Option.some.inj hexec
  | failed reason => cases hfallible : op.isFallible <;> simp [exec, hfallible] at hexec
  | lost reason => cases hremote : op.isRemote <;> simp [exec, hremote] at hexec

section Half

variable {admits : Outcome → Op → Box → Prop} {box : Box} {fqdn : Text}

theorem query_result (op : Op) : (query op).Ensures exec admits box fun result after =>
      ∀ reply, result = .ok reply → effect op box = (.ok reply, after) := by
  apply ensures_call
  intro outcome _ answer after hexec
  cases answer with
  | error reason => exact fun reply hreply => absurd hreply error_ne_ok
  | ok found =>
    intro reply hreply
    rw [← Except.ok.inj hreply]
    exact effect_of_exec_ok hexec

theorem deleteKeys_result (keys : List Key) :
    (deleteKeys keys).Ensures exec admits box fun result after =>
      result = .ok () → after = keys.foldl Box.delete box := by
  induction keys generalizing box with
  | nil => exact fun _ => rfl
  | cons key keys ih =>
    apply (query_result (.delete key)).chain
    intro _ after hafter
    have hdelete : box.delete key = after := (Prod.mk.inj (hafter () rfl)).2
    exact hdelete ▸ ih

theorem deleteSecrets_result (paths : List Secret) :
    (deleteSecrets paths).Ensures exec admits box fun result after =>
      result = .ok () → after = paths.foldl Box.deleteSecret box := by
  induction paths generalizing box with
  | nil => exact fun _ => rfl
  | cons path paths ih =>
    apply (query_result (.deleteSecret path)).chain
    intro _ after hafter
    have hdelete : box.deleteSecret path = after := (Prod.mk.inj (hafter () rfl)).2
    exact hdelete ▸ ih

/-- Only records are gone, those with the identifiers among them. -/
structure Without (ids : List Uuid) (box after : Box) : Prop where
  served : after.served = box.served
  config : after.config = box.config
  secrets : after.secrets = box.secrets
  records : ∀ record ∈ after.records.rows, record ∈ box.records.rows ∧ record.id ∉ ids

theorem deleteRecords_ensures (ids : List Uuid) :
    (deleteRecords ids).Ensures exec Pruned box fun result after =>
      result = .ok () ∧ Without ids box after := by
  induction ids generalizing box with
  | nil => exact ⟨rfl, rfl, rfl, rfl, fun record hrecord => ⟨hrecord, by simp⟩⟩
  | cons id ids ih =>
    apply ensures_call
    intro outcome hpruned answer between hexec
    obtain rfl : outcome = .done := hpruned
    have hfirst : Without [id] box between := by
      obtain ⟨-, rfl⟩ := Prod.mk.inj (Option.some.inj hexec)
      unfold Box.deleteRecord
      cases hfind : box.records.find id with
      | none =>
        refine ⟨rfl, rfl, rfl, fun record hrecord => ⟨hrecord, ?_⟩⟩
        simpa using Table.find_eq_none.mp hfind record hrecord
      | some found =>
        refine ⟨rfl, rfl, rfl, fun record hrecord => ?_⟩
        simpa [committed, Keyed.deleteWhere] using hrecord
    apply ih.mono
    rintro result after ⟨hresult, hrest⟩
    refine ⟨hresult, hrest.served.trans hfirst.served, hrest.config.trans hfirst.config,
      hrest.secrets.trans hfirst.secrets, fun record hrecord => ?_⟩
    obtain ⟨hbetween, hnotMem⟩ := hrest.records record hrecord
    obtain ⟨hbox, hne⟩ := hfirst.records record hbetween
    exact ⟨hbox, by simpa [hnotMem] using hne⟩

/-- Once its record is pruned a name has none. -/
theorem deleteSystemRecord_ensures (domain : Text) :
    (deleteSystemRecord domain).Ensures exec Pruned box fun result after =>
      result = .ok () ∧ Without [] box after ∧
        ∀ record ∈ after.records.rows, Box.isSystemOf domain record = false := by
  apply ensures_call
  intro outcome hpruned answer between hexec
  obtain rfl : outcome = .done := hpruned
  cases hexec
  apply (deleteRecords_ensures _).mono
  rintro result after ⟨hresult, hwithout⟩
  refine ⟨hresult, ⟨hwithout.served, hwithout.config, hwithout.secrets, fun record hrecord =>
    ⟨(hwithout.records record hrecord).1, by simp⟩⟩, fun record hrecord => ?_⟩
  obtain ⟨hbox, hnotMem⟩ := hwithout.records record hrecord
  by_contra hsystem
  apply hnotMem
  exact List.mem_map.mpr ⟨record, List.mem_filter.mpr ⟨hbox, by simpa using hsystem⟩, rfl⟩

/-- A local record of the name goes with a certificate for it. -/
def Covered (fqdn : Text) (box : Box) : Prop :=
  ∀ record ∈ box.records.rows, Box.isSystemOf fqdn record = true →
    box.config.get .certDomain = some fqdn

theorem pruneCertDomain_ensures (hcovered : Covered fqdn box) :
    (pruneCertDomain (box.config.get .certDomain)).Ensures exec Pruned box fun result after =>
      result = .ok () ∧ after.served = box.served ∧
        ∀ record ∈ after.records.rows, Box.isSystemOf fqdn record = false := by
  cases hdomain : box.config.get .certDomain with
  | none =>
    refine ⟨rfl, rfl, fun record hrecord => ?_⟩
    by_contra hsystem
    have hcert := hcovered record hrecord (by simpa using hsystem)
    rw [hdomain] at hcert
    cases hcert
  | some domain =>
    apply (deleteSystemRecord_ensures domain).mono
    rintro result after ⟨hresult, hwithout, hpruned⟩
    refine ⟨hresult, hwithout.served, fun record hrecord => ?_⟩
    by_contra hsystem
    have hcert := hcovered record (hwithout.records record hrecord).1 (by simpa using hsystem)
    rw [hdomain] at hcert
    rw [← Option.some.inj hcert] at hsystem
    exact hsystem (hpruned record hrecord)

/-- When the certificate's half succeeds, nothing of the certificate is left. -/
theorem teardownBody_ensures (hcovered : Covered fqdn box) :
    teardownBody.Ensures exec Pruned box fun result after =>
      result = .ok () → Clean fqdn after := by
  apply ensures_call
  intro outcome _ answer reverted hexec
  obtain rfl : reverted = { box with served := none } := by cases outcome <;> cases hexec <;> rfl
  apply (query_result (.get .certDomain)).chain
  intro found between hbetween
  obtain ⟨hfound, rfl⟩ := Prod.mk.inj (hbetween found rfl)
  cases hfound
  have hreverted : Covered fqdn { box with served := none } := hcovered
  have hprune : (pruneCertDomain (box.config.get .certDomain)).Ensures exec Pruned
      { box with served := none } fun result after =>
        result = .ok () ∧ after.served = none ∧
          ∀ record ∈ after.records.rows, Box.isSystemOf fqdn record = false :=
    pruneCertDomain_ensures hreverted
  apply hprune.seq
  intro pruned hpruned
  apply (deleteSecrets_result [.certChain, .certKey]).chain
  intro _ forgotten hforgotten
  apply (deleteKeys_result _).mono
  intro result after hafter hresult
  rw [hafter hresult, hforgotten rfl]
  exact
    { served := hpruned.1
      chain := by simp [Box.delete, Box.deleteSecret]
      key := by simp [Box.delete, Box.deleteSecret]
      certDomain := by simp [Box.delete]
      certNotAfter := by simp [Box.delete]
      record := hpruned.2 }

end Half

/-! ## The name's half -/

section Naming

variable {settings : Settings} {box : Box}

/-- An action that only reads and deletes. -/
def Quiet {Result : Type} (action : Action Result) : Prop :=
  action.Performs fun op => isQuiet op = true

theorem performs_query {allowed : Op → Prop} {op : Op} (hop : allowed op) :
    (query op).Performs allowed := by
  refine ⟨hop, fun answer => ?_⟩
  cases answer <;> trivial

theorem quiet_query {op : Op} (hop : isQuiet op = true) : Quiet (query op) := performs_query hop

theorem quiet_deleteKeys (keys : List Key) : Quiet (deleteKeys keys) := by
  induction keys with
  | nil => trivial
  | cons key keys ih => exact (quiet_query rfl).bind fun _ => ih

theorem quiet_deleteSecrets (paths : List Secret) : Quiet (deleteSecrets paths) := by
  induction paths with
  | nil => trivial
  | cons path paths ih => exact (quiet_query rfl).bind fun _ => ih

theorem quiet_requireCfg (key : Key) : Quiet (requireCfg key) := by
  apply (quiet_query rfl).bind
  intro found
  cases found <;> trivial

theorem quiet_currentProvider : Quiet currentProvider := by
  apply (quiet_query rfl).bind
  intro kind
  by_cases hbridge : kind = some providerLegacyBridge
  · rw [if_pos hbridge]
    apply Program.Performs.bind
    · exact (quiet_deleteKeys _).bind fun _ => quiet_deleteSecrets _
    · intro _
      trivial
  · rw [if_neg hbridge]
    trivial

theorem quiet_buildIdentity : Quiet buildIdentity := by
  apply (quiet_query rfl).bind
  intro found
  cases found with
  | none => trivial
  | some seed =>
    by_cases hlength : seed.length = 32
    · simp only [hlength, if_true]
      trivial
    · simp only [hlength, if_false]
      trivial

theorem quiet_buildProvider : Quiet (buildProvider settings) := by
  apply quiet_currentProvider.bind
  intro kind
  unfold bindProvider
  split
  · apply (quiet_requireCfg _).bind
    intro networkId
    apply (quiet_requireCfg _).bind
    intro region
    apply Program.Performs.bind
    · unfold gatewayBaseForRegion
      split <;> trivial
    intro _
    exact quiet_buildIdentity.bind fun _ => trivial
  split
  · apply (quiet_requireCfg _).bind
    intro domain
    apply (quiet_requireCfg _).bind
    intro zoneId
    apply Program.Performs.bind
    · apply (quiet_query rfl).bind
      intro found
      cases found with
      | none => trivial
      | some bytes => cases hdecode : settings.decodeUtf8 bytes <;> simp only [hdecode] <;> trivial
    · intro _
      trivial
  · trivial

theorem quiet_clearProviderState (kind : Text) : Quiet (clearProviderState kind) := by
  unfold clearProviderState
  split
  · exact (quiet_deleteKeys _).bind fun _ => quiet_deleteSecrets _
  split
  · exact (quiet_deleteKeys _).bind fun _ => quiet_deleteSecrets _
  · trivial

theorem quiet_wipe (kind : Text) : Quiet (wipe kind) := by
  apply (quiet_clearProviderState kind).bind
  intro _
  apply (quiet_query rfl).bind
  intro _
  exact ⟨rfl, fun _ => quiet_query rfl⟩

theorem quiet_teardown (caller : AuthContext) : Quiet (Ddns.teardown settings caller) := by
  unfold Ddns.teardown authorize
  cases requireAdmin caller with
  | error error => trivial
  | ok allowed =>
    apply quiet_currentProvider.bind
    intro kind
    cases kind with
    | none => trivial
    | some kind =>
      apply quiet_buildProvider.attempt.bind
      intro built
      apply Program.Performs.bind
      · cases built.toOption.join with
        | none => trivial
        | some target => exact ⟨rfl, fun _ => trivial⟩
      · intro _
        exact quiet_wipe kind

/-- A name that is gone stays gone along the name's half. -/
theorem name_eq_none_of_quiet {Result : Type} {action : Action Result}
    (haction : Quiet action) (hnone : name box = none) :
    action.Ensures exec (fun _ _ _ => True) box fun _ after => name after = none :=
  .of_performs (fun box => name box = none)
    (fun _ hop _ _ _ _ _ hbox hexec => (shrinks_of_quiet hop hexec).name_eq_none hbox)
    haction hnone

/-- Where no provider is found, no name is configured. -/
theorem currentProvider_unnamed :
    currentProvider.Ensures exec (fun _ _ _ => True) box fun result after =>
      result = .ok none → name after = none := by
  apply (query_result (.get .provider)).chain
  intro kind after hafter
  obtain ⟨hkind, rfl⟩ := Prod.mk.inj (hafter kind rfl)
  cases hkind
  by_cases hbridge : box.config.get .provider = some providerLegacyBridge
  · rw [if_pos hbridge]
    have hwipe : wipeLegacyBridge.Ensures exec (fun _ _ _ => True) box fun result after =>
        result = .ok () → name after = none := by
      apply (deleteKeys_result _).chain
      intro _ wiped hwiped
      apply (name_eq_none_of_quiet (quiet_deleteSecrets _) ?_).mono
      · exact fun _ _ hnone _ => hnone
      · rw [hwiped rfl]
        exact name_eq_none_of_provider (by simp [Box.delete])
    apply hwipe.chain
    intro _ final hfinal _
    exact hfinal rfl
  · rw [if_neg hbridge]
    intro hresult
    exact name_eq_none_of_provider (Except.ok.inj hresult)

/-- When the name's half succeeds, no name is configured. -/
theorem teardown_ensures_unnamed (caller : AuthContext) :
    (Ddns.teardown settings caller).Ensures exec (fun _ _ _ => True) box fun result after =>
      result = .ok () → name after = none := by
  unfold Ddns.teardown authorize
  cases requireAdmin caller with
  | error error => exact fun hresult => absurd hresult error_ne_ok
  | ok allowed =>
    apply currentProvider_unnamed.chain
    intro kind after hafter
    cases kind with
    | none => exact fun _ => hafter rfl
    | some kind =>
      apply (ensures_any (buildProvider settings)).attempt
      intro built between _
      apply (ensures_any (deregister built.toOption.join)).chain
      intro _ final _
      apply (ensures_any (clearProviderState kind)).chain
      intro _ cleared _
      apply (query_result (.delete .provider)).chain
      intro _ deleted hdeleted
      have hdelete : cleared.delete .provider = deleted := (Prod.mk.inj (hdeleted () rfl)).2
      have hnone : name deleted = none := by
        rw [← hdelete]
        exact name_eq_none_of_provider (by simp [Box.delete])
      have hrest : Quiet (do let _ ← request (.setPremium false); deleteCfg .lastIp) :=
        ⟨rfl, fun _ => quiet_query rfl⟩
      exact (name_eq_none_of_quiet hrest hnone).mono fun _ _ hafter _ => hafter

end Naming

end Wardnet.Tls
