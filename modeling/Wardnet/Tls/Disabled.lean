import Wardnet.Ddns.PublicName
import Wardnet.Tls.Teardown

/-!
# Disabling remote access

Nothing guards the time between the two halves of a teardown: a call that takes
the lock there still finds the name and obtains its certificate anew.  When no
call takes the lock as long as the second half has not deleted the name, nothing
of the certificate comes back.
-/

namespace Wardnet.Tls

open Ddns Except Remote Transition

/-! ## Issuing without a name -/

/-- The others and the call itself only read and delete. -/
def harmless {Result : Type} (post : Except Error Result → Box → Prop) :
    Contract Outcome Op Box Error Result where
  rely := Shrinks
  guarantee := Shrinks
  admits _ _ _ := True
  post := post

theorem Shrinks.trans {first second third : Box} (hfirst : Shrinks first second)
    (hsecond : Shrinks second third) : Shrinks first third where
  served := hsecond.served.trans hfirst.served
  records := hsecond.records.trans hfirst.records
  config key value hvalue := hfirst.config key value (hsecond.config key value hvalue)
  secrets path value hvalue := hfirst.secrets path value (hsecond.secrets path value hvalue)

section Unnamed

variable {box : Box}

theorem fulfils_of_quiet {Result : Type} {action : Action Result} (hquiet : Quiet action) :
    action.Fulfils exec (harmless fun _ _ => True) box :=
  .of_performs (fun _ => True) (fun _ _ _ _ => trivial)
    (fun _ hop _ _ _ _ _ hexec => ⟨shrinks_of_quiet hop hexec, trivial⟩)
    (fun _ _ _ => trivial) hquiet trivial

/-- A key is read as it stands at that moment. -/
theorem getCfg_harmless (key : Key) :
    (getCfg key).Fulfils exec (harmless fun result after => Shrinks box after ∧
        ∀ value, result = .ok value → value = after.config.get key) box := by
  intro before hrely outcome _ answer after hexec
  have hshrinks := shrinks_of_quiet rfl hexec
  refine ⟨hshrinks, ?_⟩
  cases answer with
  | error reason => exact ⟨hrely.trans hshrinks, fun _ hvalue => absurd hvalue error_ne_ok⟩
  | ok found =>
    refine ⟨hrely.trans hshrinks, fun value hvalue => ?_⟩
    have heffect := Prod.mk.inj (effect_of_exec_ok hexec)
    rw [← ok.inj hvalue, ← ok.inj heffect.1, ← heffect.2]

/-- The provider that was found has no key for a name. -/
def Unnamed (kind : Option Text) (box : Box) : Prop :=
  (kind = some providerWardnet → box.config.get .subdomain = none) ∧
    (kind = some providerCloudflare → box.config.get .domain = none)

theorem currentProvider_harmless (hnone : name box = none) : currentProvider.Fulfils exec
      (harmless fun result after => ∀ kind, result = .ok kind → Unnamed kind after) box := by
  apply Program.Fulfils.bind _ (getCfg_harmless .provider)
  · intro kind after hafter
    obtain rfl := hafter.2 kind rfl
    by_cases hbridge : after.config.get .provider = some providerLegacyBridge
    · rw [if_pos hbridge]
      have hwipe : Quiet wipeLegacyBridge :=
        (quiet_deleteKeys _).bind fun _ => quiet_deleteSecrets _
      apply Program.Fulfils.bind _ (fulfils_of_quiet hwipe)
      · intro _ wiped _ found hfound
        rw [← ok.inj hfound]
        constructor <;> intro hkind <;> cases hkind
      · exact fun _ _ _ _ hfound => absurd hfound error_ne_ok
    · rw [if_neg hbridge]
      intro found hfound
      rw [← ok.inj hfound]
      have hnone := hafter.1.name_eq_none hnone
      rw [name] at hnone
      constructor
      · intro hkind
        rwa [if_pos hkind] at hnone
      · intro hkind
        have hkinds : providerCloudflare ≠ providerWardnet := by decide
        rwa [hkind, if_neg (by simpa using hkinds), if_pos rfl] at hnone
  · exact fun _ _ _ _ hfound => absurd hfound error_ne_ok

theorem activeFqdn_harmless {kind : Option Text} (hunnamed : Unnamed kind box) :
    (activeFqdn kind).Fulfils exec
      (harmless fun result _ => ∀ fqdn, result = .ok fqdn → fqdn = none) box := by
  have hget (key : Key) (hkey : box.config.get key = none) : (getCfg key).Fulfils exec
        (harmless fun result _ => ∀ fqdn, result = .ok fqdn → fqdn = none) box := by
    apply (getCfg_harmless key).mono
    intro result after hafter fqdn hfqdn
    rw [hafter.2 fqdn hfqdn, hafter.1.config_eq_none hkey]
  unfold activeFqdn
  split
  · exact hget .subdomain (hunnamed.1 ‹_›)
  split
  · exact hget .domain (hunnamed.2 ‹_›)
  · exact fun fqdn hfqdn => (ok.inj hfqdn).symm

theorem status_harmless (caller : AuthContext) (hnone : name box = none) :
    (status caller).Fulfils exec
      (harmless fun result _ => ∀ found, result = .ok found → found.fqdn = none) box := by
  apply Program.Fulfils.bind fun _ after => name after = none
  · exact hnone
  · intro _ allowed hallowed
    apply Program.Fulfils.bind _ (currentProvider_harmless hallowed)
    · intro kind after hkind
      apply Program.Fulfils.bind _ (activeFqdn_harmless (hkind kind rfl))
      · intro fqdn later hfqdn
        apply Program.Fulfils.bind _ (fulfils_of_quiet (quiet_query rfl))
        · intro lastPublicIp _ _ found hfound
          rw [← ok.inj hfound]
          exact hfqdn fqdn rfl
        · exact fun _ _ _ _ hfound => absurd hfound error_ne_ok
      · exact fun _ _ _ _ hfound => absurd hfound error_ne_ok
    · exact fun _ _ _ _ hfound => absurd hfound error_ne_ok
  · exact fun _ _ _ _ hfound => absurd hfound error_ne_ok

end Unnamed

/-! ## The invariant -/

/-- The call that holds the lock, if there is one, only reads and deletes. -/
def Harmless (issuing : Option (Action TlsStatus)) (box : Box) : Prop :=
  ∀ rest, issuing = some rest → rest.Fulfils exec (harmless fun _ _ => True) box

/-- What is known in each stage of the request: the certificate's half will
leave the box clean; the name's half keeps it clean and, unless the name is gone
already, will delete it undisturbed; afterwards both stay so. -/
def Disabling (fqdn : Text) (daemon : Daemon) : Prop :=
  match daemon.stage with
  | .absent | .queued _ | .ended (.error _) => True
  | .certificate _ rest => daemon.issuing = none ∧
      rest.Ensures exec Pruned daemon.box fun result after => result = .ok () → Clean fqdn after
  | .name rest => Clean fqdn daemon.box ∧ Quiet rest ∧
      (daemon.issuing = none ∧ rest.Ensures exec (fun _ _ _ => True) daemon.box
            (fun result after => result = .ok () → name after = none) ∨
        name daemon.box = none ∧ Harmless daemon.issuing daemon.box)
  | .ended (.ok ()) =>
    Clean fqdn daemon.box ∧ name daemon.box = none ∧ Harmless daemon.issuing daemon.box

/-- No call takes the lock while the name's half has not deleted the name; when
the certificate's half takes it, a local record of the name goes with a
certificate for it; and the local DNS service lists and deletes its records. -/
def Spared (fqdn : Text) (daemon : Daemon) : Label → Prop
  | .acquire _ =>
    match daemon.stage with
    | .name _ => name daemon.box = none
    | _ => True
  | .acquireTeardown => Covered fqdn daemon.box
  | .tearDown outcome =>
    match daemon.stage with
    | .certificate _ (.call op _) => Pruned outcome op daemon.box
    | _ => True
  | _ => True

instance (fqdn : Text) (daemon : Daemon) (label : Label) :
    Decidable (Spared fqdn daemon label) := by
  unfold Spared Covered Pruned
  repeat' split
  all_goals infer_instance

section Steps

variable {settings : Settings} {fqdn : Text} {daemon after : Daemon} {box : Box}

theorem disabling_naming {rest : Action Unit} (hclean : Clean fqdn daemon.box) (hquiet : Quiet rest)
    (hname : daemon.issuing = none ∧ rest.Ensures exec (fun _ _ _ => True) daemon.box
          (fun result after => result = .ok () → name after = none) ∨
      name daemon.box = none ∧ Harmless daemon.issuing daemon.box) :
    Disabling fqdn { daemon with stage := naming rest } := by
  cases rest with
  | call op next => exact ⟨hclean, hquiet, hname⟩
  | done result =>
    cases result with
    | error error => trivial
    | ok value =>
      cases hname with
      | inr hgone => exact ⟨hclean, hgone⟩
      | inl halone =>
        refine ⟨hclean, halone.2 rfl, fun rest hrest => ?_⟩
        rw [halone.1] at hrest
        cases hrest

theorem disabling_tearing {caller : AuthContext} {rest : Action Unit}
    (hissuing : daemon.issuing = none)
    (hrest : rest.Ensures exec Pruned daemon.box fun result after =>
      result = .ok () → Clean fqdn after) :
    Disabling fqdn { daemon with stage := tearing settings caller rest } := by
  cases rest with
  | call op next => exact ⟨hissuing, hrest⟩
  | done result =>
    cases result with
    | error error => trivial
    | ok value =>
      exact disabling_naming (hrest rfl) (quiet_teardown caller)
        (.inl ⟨hissuing, teardown_ensures_unnamed caller⟩)

/-- A call that goes on harmlessly may be interrupted by what only shrinks the
box. -/
theorem Harmless.shrink {issuing : Option (Action TlsStatus)} {after : Box}
    (hharmless : Harmless issuing box) (hshrinks : Shrinks box after) : Harmless issuing after := by
  intro rest hrest
  have hfulfils := hharmless rest hrest
  cases rest with
  | done result => trivial
  | call op next => exact hfulfils.of_rely (fun _ _ _ => Shrinks.trans) hshrinks

theorem harmless_holding {rest : Action TlsStatus}
    (hrest : rest.Fulfils exec (harmless fun _ _ => True) box) : Harmless (holding rest) box := by
  intro found hfound
  cases rest with
  | done result => cases hfound
  | call op next =>
    cases hfound
    exact hrest

section

variable (hdisabling : Disabling fqdn daemon)
include hdisabling

theorem Disabling.acquire {call : ℕ} (hspared : Spared fqdn daemon (.acquire call))
    (hnext : next settings daemon (.acquire call) = some after) : Disabling fqdn after := by
  simp only [next] at hnext
  split at hnext
  next caller now order recordId hlocked hqueued =>
    cases hnext
    have hensure (hnone : name daemon.box = none) : (ensureBody settings caller now order
        recordId).Fulfils exec (harmless fun _ _ => True) daemon.box := by
      apply Program.Fulfils.bind _ (status_harmless caller hnone)
      · intro found after hfound
        simp only [hfound found rfl]
        trivial
      · exact fun _ _ _ => trivial
    unfold Disabling Spared at *
    revert hdisabling hspared
    cases hstage : daemon.stage with
    | absent | queued => exact fun _ _ => trivial
    | certificate caller rest => simp [Daemon.isLocked, hstage, Stage.isHolding] at hlocked
    | name rest =>
      intro hdisabling hnone
      exact ⟨hdisabling.1, hdisabling.2.1, .inr ⟨hnone, harmless_holding (hensure hnone)⟩⟩
    | ended result =>
      cases result with
      | error error => exact fun _ _ => trivial
      | ok value =>
        intro hdisabling _
        exact ⟨hdisabling.1, hdisabling.2.1, harmless_holding (hensure hdisabling.2.1)⟩
  · cases hnext

theorem Disabling.issue {outcome : Outcome}
    (hnext : next settings daemon (.issue outcome) = some after) : Disabling fqdn after := by
  simp only [next] at hnext
  split at hnext
  next op rest hissuing =>
    obtain ⟨⟨answer, box⟩, hexec, rfl⟩ := Option.map_eq_some_iff.mp hnext
    have hstep (hharmless : Harmless daemon.issuing daemon.box) :=
      hharmless _ hissuing daemon.box ⟨rfl, rfl, fun _ _ => id,
        fun _ _ => id⟩ outcome trivial answer box hexec
    unfold Disabling at *
    revert hdisabling
    cases hstage : daemon.stage with
    | absent | queued => exact fun _ => trivial
    | certificate caller rest =>
      intro hdisabling
      rw [hissuing] at hdisabling
      cases hdisabling.1
    | name rest =>
      rintro ⟨hclean, hquiet, halone | hgone⟩
      · rw [hissuing] at halone
        cases halone.1
      · obtain ⟨hshrinks, hrest⟩ := hstep hgone.2
        exact ⟨hshrinks.clean hclean, hquiet, .inr ⟨hshrinks.name_eq_none hgone.1,
          harmless_holding hrest⟩⟩
    | ended result =>
      cases result with
      | error error => exact fun _ => trivial
      | ok value =>
        rintro ⟨hclean, hnone, hharmless⟩
        obtain ⟨hshrinks, hrest⟩ := hstep hharmless
        exact ⟨hshrinks.clean hclean, hshrinks.name_eq_none hnone, harmless_holding hrest⟩
  · cases hnext

theorem Disabling.tearDown {outcome : Outcome} (hspared : Spared fqdn daemon (.tearDown outcome))
    (hnext : next settings daemon (.tearDown outcome) = some after) : Disabling fqdn after := by
  simp only [next] at hnext
  unfold Disabling Spared at *
  split at hnext
  next caller op rest hstage =>
    obtain ⟨⟨answer, box⟩, hexec, rfl⟩ := Option.map_eq_some_iff.mp hnext
    simp only [hstage] at hdisabling hspared
    have hrest := hdisabling.2 daemon.box rfl outcome hspared answer box hexec
    have hissuing : ({ daemon with box := box } : Daemon).issuing = none := hdisabling.1
    exact disabling_tearing hissuing hrest.2
  next op rest hstage =>
    obtain ⟨⟨answer, box⟩, hexec, rfl⟩ := Option.map_eq_some_iff.mp hnext
    simp only [hstage] at hdisabling
    obtain ⟨hclean, hquiet, hname⟩ := hdisabling
    have hshrinks := shrinks_of_quiet hquiet.1 hexec
    have hafter : daemon.issuing = none ∧ (rest answer).Ensures exec (fun _ _ _ => True) box
            (fun result after => result = .ok () → name after = none) ∨
        name box = none ∧ Harmless daemon.issuing box := by
      cases hname with
      | inl halone =>
        exact .inl ⟨halone.1, (halone.2 daemon.box rfl outcome trivial answer box hexec).2⟩
      | inr hgone => exact .inr ⟨hshrinks.name_eq_none hgone.1, hgone.2.shrink hshrinks⟩
    have hkept : Clean fqdn ({ daemon with box := box } : Daemon).box := hshrinks.clean hclean
    exact disabling_naming hkept (hquiet.2 answer) hafter
  · cases hnext

theorem Disabling.next (label : Label)
    (hspared : Spared fqdn daemon label) (hnext : next settings daemon label = some after) :
    Disabling fqdn after := by
  cases label with
  | acquire call => exact hdisabling.acquire hspared hnext
  | issue outcome => exact hdisabling.issue hnext
  | tearDown outcome => exact hdisabling.tearDown hspared hnext
  | ensureCertificate call request =>
    simp only [Tls.next] at hnext
    split at hnext <;> cases hnext <;> exact hdisabling
  | ddnsTeardown caller =>
    simp only [Tls.next] at hnext
    split at hnext <;> cases hnext <;> trivial
  | acquireTeardown =>
    simp only [Tls.next] at hnext
    split at hnext
    next caller hlocked hstage =>
      cases hnext
      have hissuing : daemon.issuing = none := by
        simpa [Daemon.isLocked, hstage, Stage.isHolding] using hlocked
      exact disabling_tearing hissuing (teardownBody_ensures hspared)
    · cases hnext

end

end Steps

/-! ## Runs -/

/-- The request has succeeded. -/
def Stage.isOver : Stage → Bool
  | .ended (.ok ()) => true
  | _ => false

/-- No request to disable remote access has come in yet. -/
def Daemon.enabled (box : Box) : Daemon where
  box := box
  queued := .empty
  issuing := none
  stage := .absent

/-- When no call takes the lock between the two halves of a teardown, a
successful request leaves nothing of the certificate and no name, whatever the
calls before, beside and after it do. -/
theorem disabled_sticks (settings : Settings) (fqdn : Text) {box : Box} {labels : List Label}
    {final : Daemon} (hspared : Meets (next settings) (Spared fqdn) (.enabled box) labels)
    (hrun : run (next settings) (.enabled box) labels = some final)
    (hover : final.stage.isOver = true) : Clean fqdn final.box ∧ name final.box = none := by
  have hstart : Disabling fqdn (.enabled box) := trivial
  have hdisabling : Disabling fqdn final :=
    run_invariant_of_meets (fun _ label _ hdisabling hcond hnext =>
      hdisabling.next label hcond hnext) hstart hspared hrun
  have hended : final.stage = .ended (.ok ()) := by
    revert hover
    cases final.stage with
    | ended result => cases result <;> simp [Stage.isOver]
    | _ => simp [Stage.isOver]
  rw [Disabling, hended] at hdisabling
  exact ⟨hdisabling.1, hdisabling.2.1⟩

/-- A box that serves `home.example.com`, a domain of its own. -/
def servingBox : Box where
  config := ((HashMap.empty.insert .provider providerCloudflare).insert .domain
    "home.example.com".toList).insert .certDomain "home.example.com".toList
  secrets := (HashMap.empty.insert .certChain [1]).insert .certKey [2]
  published := .empty
  challenges := .empty
  premium := false
  served := some "home.example.com".toList
  records := .empty

/-- An authority that has nothing to validate and issues at once. -/
def readyOrder : Order where
  restored := .ok ()
  created := .ok []
  values := .ok []
  certificate := .ok ([1], [2])
  notAfter := .ok 0

/-- The request, and a call that comes in beside it and gets the lock when it
is over. -/
def patientCalls : List Label :=
  [.ddnsTeardown admin, .ensureCertificate 0 ⟨admin, 0, readyOrder, 7⟩, .acquireTeardown] ++
    List.replicate 19 (.tearDown .done) ++ [.acquire 0, .issue .done, .issue .done]

theorem disabled_sticks_patientCalls :
    ∃ final ∈ run (next oneRegion) (.enabled servingBox) patientCalls,
      final.box.served = none ∧ name final.box = none := by
  have hspared : Meets (next oneRegion) (Spared "home.example.com".toList) (.enabled servingBox)
      patientCalls := by
    decide +kernel
  have hfinal : ∃ final ∈ run (next oneRegion) (.enabled servingBox) patientCalls,
      final.stage.isOver = true := by
    decide +kernel
  obtain ⟨final, hrun, hover⟩ := hfinal
  have hclean := disabled_sticks oneRegion "home.example.com".toList hspared hrun hover
  exact ⟨final, hrun, hclean.1.served, hclean.2⟩

/-- A call gets the lock between the two halves of the request.  Both halves
succeed, and :443 serves the name again. -/
theorem disabled_then_reissued : ∃ final ∈ run (next oneRegion) (.enabled servingBox)
        ([.ddnsTeardown admin, .ensureCertificate 0 ⟨admin, 0, readyOrder, 7⟩,
            .acquireTeardown] ++ List.replicate 9 (.tearDown .done) ++ [.acquire 0] ++
          List.replicate 21 (.issue .done) ++ List.replicate 10 (.tearDown .done)),
      final.stage.isOver = true ∧ final.issuing.isNone = true ∧ final.queued.toList = [] ∧
        name final.box = none ∧ final.box.served = some "home.example.com".toList ∧
        final.box.secrets.get .certKey = some [2] ∧
        final.box.records.rows.any (Box.isSystemOf "home.example.com".toList) = true := by
  decide +kernel

end Wardnet.Tls
