import Wardnet.Ddns.PublicName
import Wardnet.Tls.Teardown

/-!
# Suspension

A refused token mint suspends the box until a mint is accepted.  Meanwhile the
runner of the public name only probes the subscription, which does nothing off
the wardnet provider, and the runner of the certificate skips its turn.
-/

namespace Wardnet.Suspension

open Ddns Net Program Remote Tls Transition

/-- The caller of the runners. -/
def system : AuthContext := .user 0 .admin

def syncPremium : Action Unit := do
  let provider ← currentProvider
  let _ ← request (.setPremium (provider = some providerWardnet))
  pure ()

/-- `probe_entitlement`, with whether the mint it makes is accepted. -/
def probeEntitlement (minted : Except Text Bool) : Action (Option Bool) := do
  authorize system
  if (← currentProvider) ≠ some providerWardnet then pure none
  else do
    let _ ← buildIdentity
    let accepted ← Program.ofExcept (minted.mapError .upstreamUnavailable)
    pure (some accepted)

structure State where
  box : Box
  suspended : Bool

inductive DdnsWork
  | refresh
  | probe
  deriving DecidableEq

inductive TlsWork
  | ensure
  | skip
  deriving DecidableEq

def State.ddnsWork (state : State) : DdnsWork := if state.suspended then .probe else .refresh

def State.tlsWork (state : State) : TlsWork := if state.suspended then .skip else .ensure

/-- A mint is answered, a call completes, or a runner is due. -/
inductive Label
  | mint (accepted : Bool)
  | registerNetwork (caller : AuthContext) (slug : Text) (selected : Except Text Text)
      (registered : Except CloudError NetworkRegistration) (outcomes : List Outcome)
  | configureCloudflare (caller : AuthContext) (token domain : Text) (zone : Except Error Text)
      (outcomes : List Outcome)
  | teardown (caller : AuthContext) (outcomes : List Outcome)
  | syncPremium (outcomes : List Outcome)
  | ddnsTick (discovered : Except Text Ipv4Addr) (minted : Except Text Bool)
      (outcomes : List Outcome)
  | tlsTick (now : ℤ) (order : Order) (recordId : Uuid) (outcomes : List Outcome)

/-- A call completes. -/
def State.after {Result : Type} (state : State) (action : Action Result)
    (outcomes : List Outcome) : Option State :=
  (action.eval exec state.box outcomes).map fun (_, box) => { state with box := box }

def next (settings : Settings) (state : State) : Label → Option State
  | .mint accepted => some { state with suspended := !accepted }
  | .registerNetwork caller slug selected registered outcomes =>
    state.after (Ddns.registerNetwork settings caller slug selected registered) outcomes
  | .configureCloudflare caller token domain zone outcomes =>
    state.after (Ddns.configureCloudflare settings caller token domain zone) outcomes
  | .teardown caller outcomes => state.after (Ddns.teardown settings caller) outcomes
  | .syncPremium outcomes => state.after syncPremium outcomes
  | .ddnsTick discovered minted outcomes =>
    match state.ddnsWork with
    | .refresh => state.after (refreshPublicIp settings system discovered) outcomes
    | .probe =>
      ((probeEntitlement minted).eval exec state.box outcomes).map fun (result, box) =>
        ⟨box, match result with
          | .ok (some accepted) => !accepted
          | _ => state.suspended⟩
  | .tlsTick now order recordId outcomes =>
    match state.tlsWork with
    | .ensure => state.after (ensureBody settings system now order recordId) outcomes
    | .skip => some state

/-- The box is on a domain of its own. -/
def OwnDomain (box : Box) : Prop := box.config.get .provider = some providerCloudflare

/-- A domain is configured only while the box is not suspended, and while one
is configured no mint is refused. -/
def Separate (state : State) : Label → Prop
  | .mint accepted => OwnDomain state.box → accepted = true
  | .configureCloudflare .. => state.suspended = false
  | _ => True

/-- The operation does not move the box to a domain of its own. -/
def Avoids : Op → Prop
  | .set key value => key = .provider → value = providerWardnet
  | op => isQuiet op = true

variable {settings : Settings} {box after : Box}

theorem OwnDomain.of_exec {outcome : Outcome} {op : Op} {answer : Answer op} (hop : Avoids op)
    (hexec : exec outcome op box = some (answer, after)) (hown : OwnDomain after) :
    OwnDomain box := by
  cases op with
  | set key value =>
    cases outcome <;> cases hexec
    · rcases HashMap.get_insert_eq_some.mp hown with ⟨rfl, hnew⟩ | ⟨-, hold⟩
      · rw [hop rfl] at hnew
        cases hnew
      · exact hold
    · exact hown
  | _ => exact (shrinks_of_quiet hop hexec).config _ _ hown

theorem OwnDomain.of_eval {Result : Type} {action : Action Result} {outcomes : List Outcome}
    {result : Except Error Result} (haction : action.Performs Avoids)
    (heval : action.eval exec box outcomes = some (result, after)) (hown : OwnDomain after) :
    OwnDomain box := by
  by_contra hoff
  have hensures : action.Ensures exec (fun _ _ _ => True) box fun _ after => ¬ OwnDomain after :=
    .of_performs (fun box => ¬ OwnDomain box)
      (fun _ hop _ _ _ _ _ hbefore hexec hafter => hbefore (.of_exec hop hexec hafter)) haction hoff
  exact hensures.eval (along_of_forall fun _ _ _ _ => trivial) heval hown

theorem performs_of_quiet {Result : Type} {action : Action Result} (haction : Quiet action) :
    action.Performs Avoids := by
  apply haction.mono
  intro op hquiet
  cases op <;> first | exact hquiet | cases hquiet

theorem quiet_activeFqdn (kind : Option Text) : Quiet (activeFqdn kind) := by
  unfold activeFqdn
  split
  · exact quiet_query rfl
  split
  · exact quiet_query rfl
  · trivial

theorem quiet_teardownSuperseded (old : Previous) (newKind newFqdn : Text) :
    Quiet (teardownSuperseded old newKind newFqdn) := by
  unfold teardownSuperseded
  split
  · trivial
  apply Performs.bind
  · cases old.provider with
    | none => trivial
    | some target => exact ⟨rfl, fun _ => trivial⟩
  intro _
  unfold clearResidue
  split
  · trivial
  split
  · trivial
  · exact (quiet_clearProviderState _).attempt.bind fun _ => trivial

/-- Registering a network does not move the box to a domain of its own. -/
theorem performs_registerNetwork (caller : AuthContext) (slug : Text) (selected : Except Text Text)
    (registered : Except CloudError NetworkRegistration) :
    (registerNetwork settings caller slug selected registered).Performs Avoids := by
  have hset (key : Key) (value : Text) (hvalue : key = .provider → value = providerWardnet) :
      (setCfg key value).Performs Avoids := performs_query hvalue
  have hprevious : Quiet (previous settings) :=
    quiet_buildProvider.attempt.bind fun _ => quiet_currentProvider.bind fun _ =>
      (quiet_activeFqdn _).bind fun _ => trivial
  refine Performs.bind trivial fun _ => ?_
  split
  · trivial
  refine (performs_of_quiet quiet_buildIdentity).bind fun _ => ?_
  refine (performs_of_quiet hprevious).bind fun old => ?_
  refine Performs.bind trivial fun _ => Performs.bind trivial fun network => ?_
  split
  · trivial
  refine Performs.bind ?_ fun _ =>
    (performs_of_quiet (quiet_teardownSuperseded ..)).bind fun _ => trivial
  refine (hset .networkId _ (by simp)).bind fun _ => (hset .slug _ (by simp)).bind fun _ => ?_
  refine (hset .subdomain _ (by simp)).bind fun _ => (hset .region _ (by simp)).bind fun _ => ?_
  exact (hset .provider _ fun _ => rfl).bind fun _ => ⟨rfl, fun _ => trivial⟩

/-- A box that is suspended is not on a domain of its own. -/
theorem sound_next {state after : State} {label : Label}
    (hsound : OwnDomain state.box → state.suspended = false) (hseparate : Separate state label)
    (hnext : next settings state label = some after) :
    OwnDomain after.box → after.suspended = false := by
  intro hown
  have kept {Result : Type} {action : Action Result} {outcomes : List Outcome}
      (haction : action.Performs Avoids) (hafter : state.after action outcomes = some after) :
      after.suspended = false := by
    obtain ⟨_, heval, rfl⟩ := Option.map_eq_some_iff.mp hafter
    exact hsound (.of_eval haction heval hown)
  cases label with
  | mint accepted =>
    cases hnext
    simp [hseparate hown]
  | registerNetwork caller slug selected registered outcomes =>
    exact kept (performs_registerNetwork caller slug selected registered) hnext
  | configureCloudflare caller token domain zone outcomes =>
    obtain ⟨_, -, rfl⟩ := Option.map_eq_some_iff.mp hnext
    exact hseparate
  | teardown caller outcomes => exact kept (performs_of_quiet (quiet_teardown caller)) hnext
  | syncPremium outcomes =>
    have hsync : Quiet syncPremium := quiet_currentProvider.bind fun _ => ⟨rfl, fun _ => trivial⟩
    exact kept (performs_of_quiet hsync) hnext
  | ddnsTick discovered minted outcomes =>
    cases hsuspended : state.suspended with
    | false =>
      simp only [next, State.ddnsWork, hsuspended] at hnext
      obtain ⟨_, -, rfl⟩ := Option.map_eq_some_iff.mp hnext
      exact hsuspended
    | true =>
      simp only [next, State.ddnsWork, hsuspended] at hnext
      obtain ⟨⟨result, box⟩, heval, rfl⟩ := Option.map_eq_some_iff.mp hnext
      have hprobe : Quiet (probeEntitlement minted) := by
        apply quiet_currentProvider.bind
        intro provider
        split
        · trivial
        · exact quiet_buildIdentity.bind fun _ => Performs.bind trivial fun _ => trivial
      have hbefore := hsound (.of_eval (performs_of_quiet hprobe) heval hown)
      rw [hsuspended] at hbefore
      cases hbefore
  | tlsTick now order recordId outcomes =>
    cases hsuspended : state.suspended with
    | false =>
      simp only [next, State.tlsWork, hsuspended] at hnext
      obtain ⟨_, -, rfl⟩ := Option.map_eq_some_iff.mp hnext
      exact hsuspended
    | true =>
      simp only [next, State.tlsWork, hsuspended] at hnext
      cases hnext
      exact hsuspended ▸ hsound hown

/-- Where a domain is configured only while the box is not suspended and no
mint is refused on it, neither runner takes its suspended branch on it. -/
theorem own_domain_is_served (settings : Settings) (box : Box) (labels : List Label) (final : State)
    (hseparate : Meets (next settings) Separate ⟨box, false⟩ labels)
    (hrun : run (next settings) ⟨box, false⟩ labels = some final)
    (hown : final.box.config.get .provider = some providerCloudflare) :
    final.ddnsWork = .refresh ∧ final.tlsWork = .ensure := by
  have hsound : OwnDomain final.box → final.suspended = false :=
    run_invariant_of_meets (fun _ _ _ hsound hcond hnext => sound_next hsound hcond hnext)
      (fun _ => rfl) hseparate hrun
  simp [State.ddnsWork, State.tlsWork, hsound hown]

/-- An enrolled box moves to a domain. -/
def moved : Label :=
  .configureCloudflare admin "token".toList "home.example.com".toList (.ok "zone".toList)
    (List.replicate 7 .done)

/-- A mint is refused, a later one accepted, and then the box moves to its own domain. -/
def movedAfterMint : List Label := [.mint false, .mint true, moved, .mint true]

theorem own_domain_is_served_moved :
    ∃ final ∈ run (next oneRegion) ⟨enrolled, false⟩ movedAfterMint,
      final.box.config.get .provider = some providerCloudflare ∧ final.ddnsWork = .refresh := by
  have hoff : ¬ OwnDomain enrolled := by unfold OwnDomain; decide +kernel
  have hseparate : Meets (next oneRegion) Separate ⟨enrolled, false⟩ movedAfterMint := by
    refine ⟨fun hown => absurd hown hoff, ?_⟩
    rintro _ ⟨⟩
    refine ⟨fun _ => rfl, ?_⟩
    rintro _ ⟨⟩
    exact ⟨rfl, fun _ _ => ⟨fun _ => rfl, fun _ _ => trivial⟩⟩
  have hrun : ∃ final ∈ run (next oneRegion) ⟨enrolled, false⟩ movedAfterMint,
      final.box.config.get .provider = some providerCloudflare := by
    decide +kernel
  obtain ⟨final, hfinal, hown⟩ := hrun
  exact ⟨final, hfinal, hown,
    (own_domain_is_served oneRegion enrolled _ final hseparate hfinal hown).1⟩

/-- A mint is refused before: the box stays suspended on its domain, since
the probe of the next tick does nothing. -/
theorem own_domain_is_suspended : ∃ final ∈ run (next oneRegion) ⟨enrolled, false⟩
      [.mint false, moved, .ddnsTick (.ok wanAddress) (.ok true) [.done]],
    final.box.config.get .provider = some providerCloudflare ∧
      final.ddnsWork = .probe ∧ final.tlsWork = .skip := by
  decide +kernel

end Wardnet.Suspension
