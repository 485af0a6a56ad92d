import Wardnet.Core.Transition
import Wardnet.Ddns.Service

/-!
# The public name points home

A refresh that finds its address stored as the last one published does not
publish it again.  The stored address says nothing about which provider it was
published with, so it has to be the content of the record that is configured
now.  It is, as long as a provider is only configured while no address is
stored, or configured again for the very same record.  A switch that keeps the
stored address leaves the new record without content.
-/

namespace Wardnet.Ddns

open Net (Ipv4Addr)
open Program Remote Transition

/-- The record that the configuration names. -/
def configured (box : Box) : Option Target :=
  if box.config.get .provider = some providerWardnet then (box.config.get .networkId).map .wardnet
  else if box.config.get .provider = some providerCloudflare then
    (box.config.get .cfZoneId).bind fun zoneId => (box.config.get .domain).map (.cloudflare zoneId)
  else none

/-- The stored address is the content of the configured record. -/
def Published (box : Box) : Prop :=
  ∀ ip, (box.config.get .lastIp).bind Net.parseIpv4 = some ip →
    ∀ target, configured box = some target → box.published.get target = some ip

/-- The configuration and the secret store answer; a provider may fail, and a
publish that fails was not made. -/
def Answered (outcome : Outcome) (op : Op) (_ : Box) : Prop :=
  match op with
  | .teardown _ | .setTxt .. | .deleteTxt _ => True
  | .upsertA .. => ∀ reason, outcome ≠ .lost reason
  | _ => outcome = .done

/-! ## What the helpers do -/

section Helpers

variable {box : Box} {key : Key} {value : Text}

theorem query_leads {op : Op} {reply : Reply op} {after : Box}
    (hop : ∀ outcome, Answered outcome op box → outcome = .done)
    (heffect : effect op box = (.ok reply, after)) :
    (query op).Leads exec Answered box reply after := by
  apply ensures_call
  intro outcome hanswered answer final hexec
  obtain rfl := hop outcome hanswered
  rw [exec, heffect] at hexec
  cases hexec
  exact ⟨rfl, rfl⟩

theorem getCfg_leads : (getCfg key).Leads exec Answered box (box.config.get key) box :=
  query_leads (fun _ => id) rfl

theorem setCfg_leads : (setCfg key value).Leads exec Answered box () (box.set key value) :=
  query_leads (fun _ => id) rfl

theorem deleteCfg_leads : (deleteCfg key).Leads exec Answered box () (box.delete key) :=
  query_leads (fun _ => id) rfl

theorem setPremium_leads (premium : Bool) :
    (request (.setPremium premium)).Leads exec Answered box (.ok ())
      { box with premium := premium } := by
  apply ensures_call
  intro outcome hanswered answer after hexec
  obtain rfl : outcome = .done := hanswered
  cases hexec
  exact ⟨rfl, rfl⟩

theorem deleteKeys_leads (keys : List Key) :
    (deleteKeys keys).Leads exec Answered box () (keys.foldl Box.delete box) := by
  induction keys generalizing box with
  | nil => exact ⟨rfl, rfl⟩
  | cons key keys ih => exact deleteCfg_leads.seq ih

theorem deleteSecrets_leads (paths : List Secret) :
    (deleteSecrets paths).Leads exec Answered box () (paths.foldl Box.deleteSecret box) := by
  induction paths generalizing box with
  | nil => exact ⟨rfl, rfl⟩
  | cons path paths ih =>
    have hdelete : (deleteSecret path).Leads exec Answered box () (box.deleteSecret path) :=
      query_leads (fun _ => id) rfl
    exact hdelete.seq ih

/-- An action that leaves the box alone and whose result, if there is one, is
as described. -/
def Reads {Result : Type} (action : Action Result) (box : Box) (value : Result → Prop) : Prop :=
  action.Ensures exec Answered box fun result after =>
    after = box ∧ ∀ reply, result = .ok reply → value reply

variable {Result : Type} {value : Result → Prop}

theorem Reads.bind {Value : Type} {action : Action Value} {next : Value → Action Result}
    {known : Value → Prop} (haction : Reads action box known)
    (hnext : ∀ reply, known reply → Reads (next reply) box value) :
    Reads (action >>= next) box value := by
  apply Program.Ensures.bind haction
  · intro reply after hreply
    rw [hreply.1]
    exact hnext reply (hreply.2 reply rfl)
  · intro error after herror
    exact ⟨herror.1, fun reply hreply => absurd hreply error_ne_ok⟩

theorem reads_pure {reply : Result} (hreply : value reply) : Reads (pure reply) box value :=
  ⟨rfl, fun _ hresult => Except.ok.inj hresult ▸ hreply⟩

theorem reads_fail {error : Error} : Reads (Program.fail error) box value :=
  ⟨rfl, fun _ hresult => absurd hresult error_ne_ok⟩

theorem reads_query {op : Op} {reply : Reply op}
    (hop : ∀ outcome, Answered outcome op box → outcome = .done)
    (heffect : effect op box = (.ok reply, box)) : Reads (query op) box (· = reply) := by
  apply Program.Ensures.mono (query_leads hop heffect)
  intro result after hresult
  exact ⟨hresult.2, fun found hfound => Except.ok.inj (hfound.symm.trans hresult.1)⟩

theorem reads_getCfg : Reads (getCfg key) box (· = box.config.get key) :=
  reads_query (fun _ => id) rfl

theorem reads_requireCfg :
    Reads (requireCfg key) box fun value => box.config.get key = some value := by
  apply reads_getCfg.bind
  intro found hfound
  cases found with
  | none => exact reads_fail
  | some value => exact reads_pure hfound.symm

theorem reads_getSecret {path : Secret} :
    Reads (query (.getSecret path)) box (· = box.secrets.get path) :=
  reads_query (fun _ => id) rfl

theorem reads_buildIdentity : Reads buildIdentity box fun _ => True := by
  apply reads_getSecret.bind
  intro found _
  cases found with
  | none => exact reads_fail
  | some seed =>
    dsimp only
    split
    · exact reads_pure trivial
    · exact reads_fail

variable {settings : Settings}

theorem reads_getSecretString {path : Secret} :
    Reads (getSecretString settings path) box fun _ => True := by
  apply reads_getSecret.bind
  intro found _
  cases found with
  | none => exact reads_fail
  | some bytes =>
    dsimp only
    split
    · exact reads_fail
    · exact reads_pure trivial

/-- A provider is bound to the record that the configuration names. -/
theorem reads_bindProvider :
    Reads (bindProvider settings (box.config.get .provider)) box (· = configured box) := by
  by_cases hwardnet : box.config.get .provider = some providerWardnet
  · rw [bindProvider, if_pos hwardnet]
    apply reads_requireCfg.bind
    intro networkId hnetwork
    apply reads_requireCfg.bind
    intro region _
    have hbase : Reads (gatewayBaseForRegion settings region) box fun _ => True := by
      unfold gatewayBaseForRegion
      split
      · exact reads_pure trivial
      · exact reads_fail
    apply hbase.bind
    intro _ _
    apply reads_buildIdentity.bind
    intro _ _
    apply reads_pure
    rw [configured, if_pos hwardnet, hnetwork]
    rfl
  rw [bindProvider, if_neg hwardnet]
  by_cases hcloudflare : box.config.get .provider = some providerCloudflare
  · rw [if_pos hcloudflare]
    apply reads_requireCfg.bind
    intro domain hdomain
    apply reads_requireCfg.bind
    intro zoneId hzone
    apply reads_getSecretString.bind
    intro _ _
    apply reads_pure
    rw [configured, if_neg hwardnet, if_pos hcloudflare, hdomain, hzone]
    rfl
  · rw [if_neg hcloudflare]
    apply reads_pure
    rw [configured, if_neg hwardnet, if_neg hcloudflare]

/-- The box itself, or what is left once the retired provider is wiped. -/
def Wiped (box after : Box) : Prop :=
  after = box ∨ box.config.get .provider = some providerLegacyBridge ∧
    after.config.get .provider = none ∧ after.config.get .lastIp = none

/-- The retired provider is wiped, the stored address with it. -/
theorem currentProvider_ensures : currentProvider.Ensures exec Answered box fun result after =>
      result = .ok (after.config.get .provider) ∧ Wiped box after := by
  apply getCfg_leads.seq
  by_cases hbridge : box.config.get .provider = some providerLegacyBridge
  · rw [if_pos hbridge]
    have hwipe : wipeLegacyBridge.Ensures exec Answered box fun result final =>
        result = .ok () ∧ final.config.get .provider = none ∧ final.config.get .lastIp = none := by
      apply (deleteKeys_leads _).seq
      apply (deleteSecrets_leads _).mono
      intro result final hfinal
      rw [hfinal.2]
      simp [hfinal.1, Box.delete, Box.deleteSecret]
    apply hwipe.seq
    intro final hfinal
    exact ⟨congrArg Except.ok hfinal.1.symm, .inr ⟨hbridge, hfinal⟩⟩
  · rw [if_neg hbridge]
    exact ⟨rfl, .inl rfl⟩

theorem buildProvider_ensures :
    (buildProvider settings).Ensures exec Answered box fun result after =>
      Wiped box after ∧ ∀ found, result = .ok found → found = configured after := by
  apply currentProvider_ensures.bind
  · intro kind after hkind
    cases hkind.1
    apply Program.Ensures.mono reads_bindProvider
    intro result final hresult
    rw [hresult.1]
    exact ⟨hkind.2, hresult.2⟩
  · intro error after herror
    exact absurd herror.1 error_ne_ok

theorem published_of_lastIp_eq_none (hnone : box.config.get .lastIp = none) : Published box := by
  intro ip hip
  rw [hnone] at hip
  cases hip

theorem Wiped.published {after : Box} (hwiped : Wiped box after) (hbox : Published box) :
    Published after := by
  cases hwiped with
  | inl hsame => exact hsame ▸ hbox
  | inr hnone => exact published_of_lastIp_eq_none hnone.2.2

end Helpers

/-! ## A refresh -/

section Refresh

variable {box : Box} {settings : Settings} {caller : AuthContext} {ip : Ipv4Addr}
variable {target : Target}

/-- A publish that succeeds, or finds its address stored, leaves it as the
content of the record. -/
theorem publish_ensures (hbox : Published box) (htarget : configured box = some target) :
    (publish target ip).Ensures exec Answered box fun result after =>
      Published after ∧ configured after = some target ∧
        ∀ reply, result = .ok reply → after.published.get target = some ip := by
  apply getCfg_leads.seq
  by_cases hstored : (box.config.get .lastIp).bind Net.parseIpv4 = some ip
  · rw [if_pos hstored]
    exact ⟨hbox, htarget, fun _ _ => hbox ip hstored target htarget⟩
  · rw [if_neg hstored]
    apply ensures_call
    intro outcome hanswered answer final hexec
    cases outcome with
    | lost reason => exact absurd rfl (hanswered reason)
    | failed reason =>
      cases hexec
      exact ⟨hbox, htarget, fun reply hreply => absurd hreply error_ne_ok⟩
    | done =>
      cases hexec
      apply setCfg_leads.seq
      have hconfigured : configured ((box.upsertA target ip).set .lastIp
          (Net.display ip).toList) = some target := by
        rw [← htarget]
        simp [configured, Box.set, Box.upsertA]
      refine ⟨fun stored hstored found hfound => ?_, hconfigured,
        fun _ _ => by simp [Box.set, Box.upsertA]⟩
      cases hconfigured.symm.trans hfound
      have hip : ip = stored := by simpa [Box.set] using hstored
      simp [Box.set, Box.upsertA, hip]

/-- A refresh that succeeds leaves the configured record with the address. -/
theorem refreshPublicIp_ensures (hbox : Published box) (discovered : Except Text Ipv4Addr) :
    (refreshPublicIp settings caller discovered).Ensures exec Answered box fun result after =>
      Published after ∧ ∀ reply ip target, result = .ok reply → discovered = .ok ip →
        configured after = some target → after.published.get target = some ip := by
  unfold refreshPublicIp authorize
  cases requireAdmin caller with
  | error error => exact ⟨hbox, fun _ _ _ hresult => absurd hresult error_ne_ok⟩
  | ok allowed =>
    apply buildProvider_ensures.bind
    · intro found after hfound
      have hafter : Published after := hfound.1.published hbox
      have hconfigured : found = configured after := hfound.2 found rfl
      cases found with
      | none =>
        refine ⟨hafter, fun _ _ target _ _ htarget => ?_⟩
        rw [← hconfigured] at htarget
        cases htarget
      | some target =>
        cases discovered with
        | error reason => exact ⟨hafter, fun _ _ _ hresult => absurd hresult error_ne_ok⟩
        | ok ip =>
          apply (publish_ensures hafter hconfigured.symm).mono
          intro result final hfinal
          refine ⟨hfinal.1, fun reply other found hreply hother htarget => ?_⟩
          cases hother
          rw [hfinal.2.1] at htarget
          cases htarget
          exact hfinal.2.2 reply hreply
    · intro error after herror
      exact ⟨herror.1.published hbox, fun _ _ _ hresult => absurd hresult error_ne_ok⟩

end Refresh

/-! ## A teardown -/

section Teardown

variable {box : Box} {settings : Settings} {caller : AuthContext}

theorem deregister_ensures (found : Option Target) :
    (deregister found).Ensures exec Answered box fun result after =>
      result = .ok () ∧ after.config = box.config := by
  cases found with
  | none => exact ⟨rfl, rfl⟩
  | some target =>
    apply ensures_call
    intro outcome _ answer after hexec
    cases outcome <;> cases hexec <;> exact ⟨rfl, rfl⟩

theorem config_foldl_deleteSecret (paths : List Secret) :
    (paths.foldl Box.deleteSecret box).config = box.config := by
  induction paths generalizing box with
  | nil => rfl
  | cons head paths ih => exact ih

/-- Clearing deletes: it brings no key back. -/
theorem clearProviderState_ensures (kind : Text) :
    (clearProviderState kind).Ensures exec Answered box fun result after =>
      result = .ok () ∧ ∀ key, box.config.get key = none → after.config.get key = none := by
  have hdelete : ∀ keys paths, (do deleteKeys keys; deleteSecrets paths : Action Unit).Ensures
      exec Answered box fun result after =>
        result = .ok () ∧ ∀ key, box.config.get key = none → after.config.get key = none := by
    intro keys paths
    apply (deleteKeys_leads keys).seq
    apply (deleteSecrets_leads paths).mono
    intro result final hfinal
    refine ⟨hfinal.1, fun key hnone => ?_⟩
    rw [hfinal.2, config_foldl_deleteSecret]
    refine List.foldlRecOn (motive := fun later : Box => later.config.get key = none) keys _ hnone
      fun _ hnone _ _ => ?_
    simp [Box.delete, hnone]
  unfold clearProviderState
  split
  · exact hdelete _ _
  split
  · exact hdelete _ _
  · exact ⟨rfl, fun _ => id⟩

theorem teardown_ensures (hbox : Published box) :
    (teardown settings caller).Ensures exec Answered box fun _ => Published := by
  unfold teardown authorize
  cases requireAdmin caller with
  | error error => exact hbox
  | ok allowed =>
    apply currentProvider_ensures.bind
    · intro kind after hkind
      have hafter : Published after := Wiped.published hkind.2 hbox
      cases kind with
      | none => exact hafter
      | some kind =>
        apply buildProvider_ensures.attempt
        intro built between _
        apply (deregister_ensures built.toOption.join).seq
        intro final _
        apply (clearProviderState_ensures kind).seq
        intro cleared _
        apply deleteCfg_leads.seq
        apply (setPremium_leads false).seq
        apply deleteCfg_leads.mono
        rintro _ _ ⟨-, rfl⟩
        apply published_of_lastIp_eq_none
        simp [Box.delete]
    · intro error after herror
      exact absurd herror.1 error_ne_ok

end Teardown

/-! ## Configuring a provider -/

section Configuring

variable {box : Box} {settings : Settings} {caller : AuthContext}

theorem Wiped.trans {between after : Box} (hfirst : Wiped box between)
    (hsecond : Wiped between after) : Wiped box after := by
  cases hfirst with
  | inl hsame => exact hsame ▸ hsecond
  | inr hwiped =>
    cases hsecond with
    | inl hsame => exact .inr (hsame ▸ hwiped)
    | inr hagain =>
      rw [hwiped.2.1] at hagain
      cases hagain.1

theorem Wiped.lastIp {after : Box} (hwiped : Wiped box after)
    (hnone : box.config.get .lastIp = none) : after.config.get .lastIp = none := by
  cases hwiped with
  | inl hsame => exact hsame ▸ hnone
  | inr hwiped => exact hwiped.2.2

/-- The name of a kind of provider. -/
def Names (box : Box) (kind fqdn : Option Text) : Prop :=
  (kind = some providerWardnet → fqdn = box.config.get .subdomain) ∧
    (kind = some providerCloudflare → fqdn = box.config.get .domain)

theorem activeFqdn_ensures (kind : Option Text) :
    (activeFqdn kind).Ensures exec Answered box fun result after =>
      ∃ fqdn, result = .ok fqdn ∧ Names box kind fqdn ∧ after = box := by
  by_cases hwardnet : kind = some providerWardnet
  · subst hwardnet
    apply Program.Ensures.mono (@getCfg_leads box .subdomain)
    intro result after hresult
    exact ⟨_, hresult.1, ⟨fun _ => rfl, fun hkind => absurd hkind (by decide)⟩, hresult.2⟩
  by_cases hcloudflare : kind = some providerCloudflare
  · subst hcloudflare
    apply Program.Ensures.mono (@getCfg_leads box .domain)
    intro result after hresult
    exact ⟨_, hresult.1, ⟨fun hkind => absurd hkind (by decide), fun _ => rfl⟩, hresult.2⟩
  · rw [activeFqdn, if_neg hwardnet, if_neg hcloudflare]
    exact ⟨none, rfl, ⟨fun hkind => absurd hkind hwardnet,
      fun hkind => absurd hkind hcloudflare⟩, rfl⟩

/-- A switch finds the kind and the name that are configured. -/
theorem previous_ensures : (previous settings).Ensures exec Answered box fun result after =>
      Wiped box after ∧ ∃ old, result = .ok old ∧
        old.kind = after.config.get .provider ∧ Names after old.kind old.fqdn := by
  apply buildProvider_ensures.attempt
  intro built between hbuilt
  apply currentProvider_ensures.bind
  · intro kind after hkind
    apply (activeFqdn_ensures kind).bind
    · rintro fqdn final ⟨found, hfound, hnames, rfl⟩
      cases hfound
      exact ⟨hbuilt.1.trans hkind.2, _, rfl, Except.ok.inj hkind.1, hnames⟩
    · rintro error final ⟨found, hfound, -⟩
      cases hfound
  · intro error after herror
    exact absurd herror.1 error_ne_ok

/-- The box once a network is written. -/
def Box.withNetwork (box : Box) (network : NetworkRegistration) (subdomain : Text) : Box :=
  { ((((box.set .networkId network.networkId).set .slug network.slug).set .subdomain
    subdomain).set .region network.region).set .provider providerWardnet with premium := true }

theorem persistNetwork_leads (network : NetworkRegistration) (subdomain : Text) :
    (persistNetwork network subdomain).Leads exec Answered box ()
      (Box.withNetwork box network subdomain) := by
  apply setCfg_leads.seq
  apply setCfg_leads.seq
  apply setCfg_leads.seq
  apply setCfg_leads.seq
  apply setCfg_leads.seq
  apply (setPremium_leads true).seq
  exact ⟨rfl, rfl⟩

/-- The box once a zone is written. -/
def Box.withCloudflare (box : Box) (token domain zoneId : Text) : Box :=
  ((({ box.set .provider providerCloudflare with premium := false }).set .domain domain).set
    .cfZoneId zoneId).putSecret .cfToken (Utf8.bytes token)

theorem persistCloudflare_leads (token domain zoneId : Text) :
    (persistCloudflare token domain zoneId).Leads exec Answered box ()
      (Box.withCloudflare box token domain zoneId) := by
  apply setCfg_leads.seq
  apply (setPremium_leads false).seq
  apply setCfg_leads.seq
  apply setCfg_leads.seq
  exact query_leads (fun _ => id) rfl

/-- What was superseded is cleared; nothing is stored that was not. -/
theorem teardownSuperseded_ensures (old : Previous) (newKind newFqdn : Text) :
    (teardownSuperseded old newKind newFqdn).Ensures exec Answered box fun result after =>
      result = .ok () ∧ (∀ key, box.config.get key = none → after.config.get key = none) ∧
        (old.kind = some newKind → old.fqdn = some newFqdn → after = box) := by
  unfold teardownSuperseded
  split
  · exact ⟨rfl, fun _ => id, fun _ _ => rfl⟩
  next hsame =>
    apply (deregister_ensures old.provider).seq
    intro between hbetween
    have hnot {after : Box} (hkind : old.kind = some newKind) (hfqdn : old.fqdn = some newFqdn) :
        after = box := absurd ⟨hkind, hfqdn⟩ hsame
    rw [← hbetween]
    unfold clearResidue
    split
    · exact ⟨rfl, fun _ => id, hnot⟩
    split
    · exact ⟨rfl, fun _ => id, hnot⟩
    · apply (clearProviderState_ensures _).attempt
      intro cleared after hafter
      exact ⟨rfl, hafter.2, hnot⟩

/-- The name configured for a kind of provider. -/
def Named (box : Box) (kind fqdn : Text) : Prop :=
  kind = providerWardnet ∧ box.config.get .subdomain = some fqdn ∨
    kind = providerCloudflare ∧ box.config.get .domain = some fqdn

/-- A provider is configured for the record that is configured already, or
while no address is stored. -/
def Unswitched (box : Box) (kind fqdn : Text) (target : Target) : Prop :=
  box.config.get .lastIp = none ∨
    box.config.get .provider = some kind ∧ configured box = some target ∧ Named box kind fqdn

/-- Configuring a provider in two steps: its identity is written, in keys that
are not the stored address, and the superseded one is torn down. -/
theorem switch_ensures {Result : Type} {kind fqdn : Text} {target : Target}
    {persist : Action Unit} {written : Box → Box} {registration : Result}
    {next : Previous → Action Result} (hnext : ∀ old, next old = do
      persist
      teardownSuperseded old kind fqdn
      pure registration)
    (hpersist : ∀ box, persist.Leads exec Answered box () (written box))
    (hlastIp : ∀ box, (written box).config.get .lastIp = box.config.get .lastIp)
    (hpublished : ∀ box, (written box).published = box.published)
    (hconfigured : ∀ box, configured (written box) = some target)
    (hunswitched : Unswitched box kind fqdn target) (hbox : Published box) :
    (previous settings >>= next).Ensures exec Answered box fun _ => Published := by
  apply previous_ensures.bind
  · intro old between hold
    rw [hnext]
    apply (hpersist between).seq
    apply (teardownSuperseded_ensures old kind fqdn).seq
    intro final hfinal
    obtain ⟨hwiped, found, hfound, hkind, hnames⟩ := hold
    cases hfound
    cases hunswitched with
    | inl hnone =>
      have hbetween : between.config.get .lastIp = none := hwiped.lastIp hnone
      exact published_of_lastIp_eq_none (hfinal.1 .lastIp ((hlastIp between).trans hbetween))
    | inr hsame =>
      obtain ⟨hprovider, htarget, hname⟩ := hsame
      have hne : kind ≠ providerLegacyBridge := by
        rcases hname with ⟨rfl, -⟩ | ⟨rfl, -⟩ <;> decide
      obtain rfl : between = box :=
        hwiped.resolve_right fun hbridge => hne (Option.some.inj (hprovider.symm.trans hbridge.1))
      have hold : old.kind = some kind := hkind.trans hprovider
      have hfqdn : old.fqdn = some fqdn := by
        rcases hname with ⟨rfl, hname⟩ | ⟨rfl, hname⟩
        · exact (hnames.1 hold).trans hname
        · exact (hnames.2 hold).trans hname
      rw [hfinal.2 hold hfqdn]
      intro ip hip found hfound
      rw [hconfigured] at hfound
      rw [hlastIp] at hip
      rw [hpublished, ← Option.some.inj hfound]
      exact hbox ip hip target htarget
  · rintro error after ⟨-, found, hfound, -⟩
    cases hfound

/-- A call that stops before it writes leaves what its reads left. -/
theorem stopped_ensures {Result : Type} {next : Previous → Action Result}
    (hnext : ∀ old, ∃ error, next old = .done (.error error)) (hbox : Published box) :
    (previous settings >>= next).Ensures exec Answered box fun _ => Published := by
  apply previous_ensures.bind
  · intro old after hold
    obtain ⟨error, herror⟩ := hnext old
    rw [herror]
    exact hold.1.published hbox
  · intro error after herror
    exact herror.1.published hbox

theorem registerNetwork_ensures {slug : Text} {selected : Except Text Text}
    {registered : Except CloudError NetworkRegistration} (hbox : Published box)
    (hunswitched : ∀ network, registered = .ok network →
      Unswitched box providerWardnet (network.slug ++ '.' :: subdomainParent)
        (.wardnet network.networkId)) :
    (registerNetwork settings caller slug selected registered).Ensures exec Answered box
      fun _ => Published := by
  unfold registerNetwork authorize
  cases requireAdmin caller with
  | error error => exact hbox
  | ok allowed =>
    by_cases hslug : isValidSlug slug = true
    · rw [if_neg (by simpa using hslug)]
      apply Program.Ensures.bind reads_buildIdentity
      · intro _ after hafter
        rw [hafter.1]
        cases selected with
        | error reason => exact stopped_ensures (fun _ => ⟨_, rfl⟩) hbox
        | ok region =>
          cases registered with
          | error error => exact stopped_ensures (fun _ => ⟨_, rfl⟩) hbox
          | ok network =>
            by_cases hregion : network.region ∈ settings.regionCatalog
            · exact switch_ensures (fun _ => if_neg (not_not_intro hregion))
                (fun _ => persistNetwork_leads network _)
                (fun _ => by simp [Box.withNetwork, Box.set]) (fun _ => rfl)
                (fun _ => by simp [configured, Box.withNetwork, Box.set])
                (hunswitched network rfl) hbox
            · exact stopped_ensures (fun _ => ⟨_, if_pos hregion⟩) hbox
      · intro error after herror
        exact herror.1 ▸ hbox
    · rw [if_pos (by simpa using hslug)]
      exact hbox

theorem configureCloudflare_ensures {token domain : Text} {zone : Except Error Text}
    (hbox : Published box) (hunswitched : ∀ zoneId, zone = .ok zoneId →
      Unswitched box providerCloudflare domain (.cloudflare zoneId domain)) :
    (configureCloudflare settings caller token domain zone).Ensures exec Answered box
      fun _ => Published := by
  unfold configureCloudflare authorize
  cases requireAdmin caller with
  | error error => exact hbox
  | ok allowed =>
    cases zone with
    | error error => exact stopped_ensures (fun _ => ⟨_, rfl⟩) hbox
    | ok zoneId =>
      have hkinds : providerCloudflare ≠ providerWardnet := by decide
      exact switch_ensures (fun _ => rfl) (fun _ => persistCloudflare_leads token domain zoneId)
        (fun _ => by simp [Box.withCloudflare, Box.set, Box.putSecret]) (fun _ => rfl)
        (fun _ => by simp [configured, Box.withCloudflare, Box.set, Box.putSecret, hkinds])
        (hunswitched zoneId rfl) hbox

end Configuring

/-! ## Sequences of calls -/

inductive Request
  | registerNetwork (caller : AuthContext) (slug : Text) (selected : Except Text Text)
      (registered : Except CloudError NetworkRegistration)
  | configureCloudflare (caller : AuthContext) (token domain : Text) (zone : Except Error Text)
  | refreshPublicIp (caller : AuthContext) (discovered : Except Text Ipv4Addr)
  | teardown (caller : AuthContext)

inductive Response
  | registered (registration : DdnsRegistration)
  | refreshed (published : Option Ipv4Addr)
  | tornDown
  deriving DecidableEq

def Request.program (settings : Settings) : Request → Action Response
  | .registerNetwork caller slug selected registered =>
    return .registered (← Ddns.registerNetwork settings caller slug selected registered)
  | .configureCloudflare caller token domain zone =>
    return .registered (← Ddns.configureCloudflare settings caller token domain zone)
  | .refreshPublicIp caller discovered =>
    return .refreshed (← Ddns.refreshPublicIp settings caller discovered)
  | .teardown caller => do
    Ddns.teardown settings caller
    return .tornDown

/-- A call, and the outcomes of its operations. -/
structure Label where
  request : Request
  outcomes : List Outcome

/-- A completed call. -/
def next (settings : Settings) (box : Box) (label : Label) : Option Box :=
  ((label.request.program settings).eval exec box label.outcomes).map Prod.snd

/-- The call keeps to the record that is configured, if an address is stored. -/
def Request.Keeps (box : Box) : Request → Prop
  | .registerNetwork _ _ _ (.ok network) =>
    Unswitched box providerWardnet (network.slug ++ '.' :: subdomainParent)
      (.wardnet network.networkId)
  | .configureCloudflare _ _ domain (.ok zoneId) =>
    Unswitched box providerCloudflare domain (.cloudflare zoneId domain)
  | _ => True

/-- The conditions on a call: the configuration and the secret store answer
it, a publish that fails was not made, and no address is carried over to
another record. -/
def Careful (settings : Settings) (box : Box) (label : Label) : Prop :=
  (label.request.program settings).Along exec Answered box label.outcomes ∧ label.request.Keeps box

variable {settings : Settings} {box : Box}

/-- A response is wrapped. -/
theorem ensures_response {Result Value : Type} {action : Action Value} {wrap : Value → Result}
    (haction : action.Ensures exec Answered box fun _ => Published) :
    (action >>= fun value => pure (wrap value)).Ensures exec Answered box fun _ => Published := by
  apply haction.bind
  · intro value after hafter
    exact hafter
  · intro error after hafter
    exact hafter

theorem Published.next {label : Label} {after : Box} (hbox : Published box)
    (hcareful : Careful settings box label) (hnext : next settings box label = some after) :
    Published after := by
  obtain ⟨⟨result, final⟩, heval, rfl⟩ := Option.map_eq_some_iff.mp hnext
  obtain ⟨request, outcomes⟩ := label
  suffices hprogram : (request.program settings).Ensures exec Answered box fun _ => Published from
    hprogram.eval hcareful.1 heval
  cases request with
  | registerNetwork caller slug selected registered =>
    apply ensures_response
    apply registerNetwork_ensures hbox
    intro network hnetwork
    subst hnetwork
    exact hcareful.2
  | configureCloudflare caller token domain zone =>
    apply ensures_response
    apply configureCloudflare_ensures hbox
    intro zoneId hzone
    subst hzone
    exact hcareful.2
  | refreshPublicIp caller discovered =>
    apply ensures_response
    exact (refreshPublicIp_ensures hbox discovered).mono fun _ _ hafter => hafter.1
  | teardown caller => exact ensures_response (teardown_ensures hbox)

/-- After any calls that keep to the configured record, a refresh that succeeds
leaves that record with the discovered address. -/
theorem refresh_points_home (settings : Settings) {box final after : Box} {labels : List Label}
    {caller : AuthContext} {ip : Ipv4Addr} {outcomes : List Outcome}
    {reply : Option Ipv4Addr} {target : Target} (hbox : Published box)
    (hcareful : Meets (next settings) (Careful settings) box labels)
    (hrun : run (next settings) box labels = some final)
    (hanswered : (refreshPublicIp settings caller (.ok ip)).Along exec Answered final outcomes)
    (hrefresh : (refreshPublicIp settings caller (.ok ip)).eval exec final outcomes =
      some (.ok reply, after)) (htarget : configured after = some target) :
    after.published.get target = some ip := by
  have hfinal : Published final :=
    run_invariant_of_meets (fun _ _ _ hbox hcareful hnext => hbox.next hcareful hnext) hbox
      hcareful hrun
  have hafter := (refreshPublicIp_ensures hfinal (.ok ip)).eval hanswered hrefresh
  exact hafter.2 reply ip target rfl rfl htarget

/-! ## A refresh after a switch -/

/-- A build that knows one region and reads secrets byte by byte. -/
def oneRegion : Settings where
  regionCatalog := ["euc".toList]
  decodeUtf8 bytes := some (bytes.map fun byte => Char.ofNat byte.toNat)
  printTime _ := []
  parseTime _ := none
  lanIp := Net.ipv4 192 168 1 1

/-- A box that is enrolled and has no provider yet. -/
def enrolled : Box where
  config := .empty
  secrets := HashMap.empty.insert .daemonKey (List.replicate 32 0)
  published := .empty
  challenges := .empty
  premium := false
  served := none
  records := .empty

def admin : AuthContext := .user 1 .admin

def wanAddress : Ipv4Addr := Net.ipv4 8 8 4 4

/-- The box registers the network `home` and publishes its address. -/
def homeCalls : List Label :=
  [⟨.registerNetwork admin "home".toList (.ok "euc".toList)
      (.ok ⟨"n1".toList, "home".toList, "euc".toList, false⟩), List.replicate 9 .done⟩,
    ⟨.refreshPublicIp admin (.ok wanAddress), List.replicate 7 .done⟩]

theorem along_replicate_done {Result : Type} (action : Action Result) (box : Box)
    (count : ℕ) : action.Along exec Answered box (List.replicate count .done) := by
  apply along_of_forall
  intro outcome houtcome op state
  rw [List.eq_of_mem_replicate houtcome]
  cases op <;> simp [Answered]

theorem refresh_points_home_homeCalls : ∃ final ∈ run (next oneRegion) enrolled homeCalls,
      ∃ refreshed ∈ (refreshPublicIp oneRegion admin (.ok wanAddress)).eval exec final
          (List.replicate 5 .done),
        refreshed.1 = .ok none ∧
          refreshed.2.published.get (.wardnet "n1".toList) = some wanAddress := by
  have hrun : ∃ final ∈ run (next oneRegion) enrolled homeCalls,
      ∃ refreshed ∈ (refreshPublicIp oneRegion admin (.ok wanAddress)).eval exec final
          (List.replicate 5 .done),
        refreshed.1 = .ok none ∧ configured refreshed.2 = some (.wardnet "n1".toList) := by
    decide +kernel
  have hcareful : Meets (next oneRegion) (Careful oneRegion) enrolled homeCalls :=
    ⟨⟨along_replicate_done _ _ 9, .inl rfl⟩, fun _ _ =>
      ⟨⟨along_replicate_done _ _ 7, trivial⟩, fun _ _ => trivial⟩⟩
  obtain ⟨final, hfinal, ⟨result, after⟩, heval, hresult, htarget⟩ := hrun
  subst hresult
  exact ⟨final, hfinal, _, heval, rfl,
    refresh_points_home oneRegion (published_of_lastIp_eq_none rfl) hcareful hfinal
      (along_replicate_done _ _ 5) heval htarget⟩

/-- The box switches to a domain of its own.  The next refresh finds its
address stored and succeeds, and the domain has no record. -/
theorem refresh_after_switch_publishes_nothing :
    ∃ final ∈ run (next oneRegion) enrolled (homeCalls ++
        [⟨.configureCloudflare admin "token".toList "home.example.com".toList
          (.ok "zone".toList), List.replicate 18 .done⟩]),
      ∃ refreshed ∈ (refreshPublicIp oneRegion admin (.ok wanAddress)).eval exec final
          (List.replicate 5 .done),
        refreshed.1 = .ok none ∧ configured refreshed.2 =
            some (.cloudflare "zone".toList "home.example.com".toList) ∧
          refreshed.2.published.get (.cloudflare "zone".toList "home.example.com".toList) =
            none := by
  decide +kernel

end Wardnet.Ddns
