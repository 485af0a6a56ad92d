import Wardnet.Tunnel.Idle

/-!
# Testing a tunnel that is down

`test_tunnel` and `run_speed_test` bring up a tunnel that is down, measure and
tear it down again.  They remember that it was down and do not ask who uses it
at the end, while an `apply_rule` in between may have bound a device to it.
-/

namespace Wardnet.TunnelTest

open Idle Option Routing Transition

/-- How far the test of a tunnel that was down has got. -/
inductive Stage
  | foundDown
  | measuring
  deriving DecidableEq

/-- An `apply_rule` that has looked the tunnel up, with what it was told. -/
structure Call where
  device : Uuid
  ip : Text
  target : RoutingTarget
  env : Env

/-- One tunnel, the test of it in progress, and the routing service. -/
structure Daemon where
  row : TunnelRow
  test : Option Stage
  routing : State
  calls : List Call

inductive Label
  | beginTest
  /-- A speed test goes on to its tear-down when the bring-up fails. -/
  | bringUp (speedTest succeeds : Bool)
  | tearDown (succeeds : Bool)
  | lookUp (call : Call)
  | bind (index : ℕ)
  | handleTunnelDown

/-- `bring_up_core` and `tear_down_core`, as far as the stored status goes. -/
def Daemon.mark (daemon : Daemon) (isDown : Bool) : Daemon :=
  { daemon with row := { daemon.row with isDown := isDown } }

/-- The second phase of `apply_rule`, which brings the tunnel up on demand. -/
def Daemon.lookUp (tunnel : Uuid) (daemon : Daemon) (call : Call) : Daemon :=
  if resolveTarget daemon.routing.defaultPolicy call.target = .tunnel tunnel then
    let raised := if call.env.bringUp then daemon.mark false else daemon
    { raised with
      calls := daemon.calls ++ [{ call with
        env := { call.env with getTunnel := some daemon.row, refetch := some raised.row } }] }
  else { daemon with calls := daemon.calls ++ [call] }

def Daemon.next (tunnel : Uuid) (daemon : Daemon) : Label → Option Daemon
  | .beginTest =>
    if daemon.test = none then
      some { daemon with test := if daemon.row.isDown then some .foundDown else none }
    else none
  | .bringUp speedTest succeeds =>
    if daemon.test = some .foundDown then
      if succeeds then some { daemon.mark false with test := some .measuring }
      else some { daemon with test := if speedTest then some .measuring else none }
    else none
  | .tearDown succeeds =>
    if daemon.test = some .measuring then
      some { (if succeeds then daemon.mark true else daemon) with test := none }
    else none
  | .lookUp call => some (daemon.lookUp tunnel call)
  | .bind index =>
    daemon.calls[index]?.map fun call =>
      { daemon with
        routing := applyRule daemon.routing call.device call.ip call.target call.env
        calls := daemon.calls.eraseIdx index }
  | .handleTunnelDown =>
    some { daemon with routing := Routing.handleTunnelDown daemon.routing tunnel }

/-- The condition on a step: a tunnel that is found down is used by nobody, and
no rule for it is put in place during the test. -/
def Daemon.Undisturbed (tunnel : Uuid) (daemon : Daemon) : Label → Prop
  | .beginTest => daemon.row.isDown → devicesUsingTunnel daemon.routing tunnel = []
  | .bind index => daemon.test ≠ none → ∀ call ∈ daemon.calls[index]?,
      resolveTarget daemon.routing.defaultPolicy call.target ≠ .tunnel tunnel
  | .bringUp .. | .tearDown _ | .lookUp _ | .handleTunnelDown => True

instance (tunnel : Uuid) (daemon : Daemon) (label) :
    Decidable (daemon.Undisturbed tunnel label) := by
  cases label <;> delta Daemon.Undisturbed <;> infer_instance

variable {tunnel : Uuid} {routing : State}

theorem devicesUsingTunnel_handleTunnelDown {down : Uuid}
    (hunused : devicesUsingTunnel routing tunnel = []) :
    devicesUsingTunnel (Routing.handleTunnelDown routing down) tunnel = [] := by
  rw [devicesUsingTunnel_eq_nil] at hunused ⊢
  intro device rule hrule
  have happlied : (Routing.handleTunnelDown routing down).applied = (removeAll routing
      ((routing.applied.toList.filter fun entry => entry.2.tunnelId = some down).map
        Prod.fst)).applied := by
    unfold Routing.handleTunnelDown
    simp only
    split <;> rfl
  rw [happlied, removeAll_get] at hrule
  split_ifs at hrule
  exact hunused device rule hrule

/-- While a test that found the tunnel down is in progress, nobody uses it. -/
def Daemon.Unused (tunnel : Uuid) (daemon : Daemon) : Prop :=
  daemon.test ≠ none → devicesUsingTunnel daemon.routing tunnel = []

theorem Daemon.Unused.next {daemon after : Daemon} {label : Label} (hunused : daemon.Unused tunnel)
    (hundisturbed : daemon.Undisturbed tunnel label)
    (hnext : daemon.next tunnel label = some after) : after.Unused tunnel := by
  cases label with
  | beginTest =>
    simp only [Daemon.next, ite_none_right_eq_some, some.injEq] at hnext
    obtain ⟨-, rfl⟩ := hnext
    intro htest
    apply hundisturbed
    by_contra hup
    exact htest (if_neg hup)
  | bringUp speedTest succeeds =>
    simp only [Daemon.next, ite_none_right_eq_some] at hnext
    obtain ⟨hfound, hnext⟩ := hnext
    have hnobody := hunused (by simp [hfound])
    split at hnext <;> obtain rfl := some.inj hnext <;> exact fun _ => hnobody
  | tearDown succeeds =>
    simp only [Daemon.next, ite_none_right_eq_some, some.injEq] at hnext
    obtain ⟨-, rfl⟩ := hnext
    exact fun htest => absurd rfl htest
  | lookUp call =>
    obtain rfl := some.inj hnext
    unfold Daemon.lookUp
    split
    · dsimp only
      split <;> exact hunused
    · exact hunused
  | bind index =>
    obtain ⟨call, hcall, rfl⟩ := map_eq_some_iff.mp hnext
    intro htest
    have hunused := hunused htest
    rw [devicesUsingTunnel_eq_nil] at hunused ⊢
    intro other rule hrule
    obtain ⟨left, houtcome, hget⟩ :=
      @applyRule_outcome daemon.routing call.device call.ip call.target call.env
    rw [hget] at hrule
    split_ifs at hrule with heq
    · obtain rfl := some.inj hrule
      cases houtcome with
      | kept _ hentry => exact hunused _ left hentry
      | bound bound table dnsUpstream hresolved =>
        intro hbound
        exact hundisturbed htest call hcall (some.inj hbound ▸ hresolved)
      | direct => simp [directRule]
    · exact hunused other rule hrule
  | handleTunnelDown =>
    obtain rfl := some.inj hnext
    exact fun htest => devicesUsingTunnel_handleTunnelDown (hunused htest)

/-- In every run that meets the condition, the tear-down that ends a test of a
tunnel that was down finds no device bound to the tunnel. -/
theorem test_cuts_nobody_off (daemon final : Daemon) (labels : List Label)
    (hidle : daemon.test = none)
    (hmeets : Meets (Daemon.next tunnel) (Daemon.Undisturbed tunnel) daemon labels)
    (hrun : run (Daemon.next tunnel) daemon labels = some final)
    (hmeasuring : final.test = some .measuring) : devicesUsingTunnel final.routing tunnel = [] := by
  have hfinal : final.Unused tunnel :=
    run_invariant_of_meets (fun _ _ _ => Daemon.Unused.next) (fun htest => absurd hidle htest)
      hmeets hrun
  exact hfinal (by simp [hmeasuring])

def idleDaemon : Daemon := ⟨⟨"wg_ward0".toList, true⟩, none, .new none, []⟩

/-- During a test a rule for one device is put in place. -/
def testWhile (target : RoutingTarget) : List Label :=
  [.beginTest, .bringUp false true, .lookUp ⟨1, "10.0.0.5".toList, target, healthyEnv⟩, .bind 0]

theorem test_cuts_nobody_off_direct :
    ∃ final, run (Daemon.next 9) idleDaemon (testWhile .direct) = some final ∧
      devicesUsingTunnel final.routing 9 = [] :=
  ⟨_, rfl, test_cuts_nobody_off idleDaemon _ (testWhile .direct) rfl (by decide +kernel) rfl rfl⟩

/-- The tear-down finds the device bound; afterwards it is bound to nothing. -/
theorem test_cuts_device_off : (run (Daemon.next 9) idleDaemon (testWhile (.tunnel 9))).map
      (fun final => (final.test, devicesUsingTunnel final.routing 9)) =
        some (some .measuring, [1]) ∧ (run (Daemon.next 9) idleDaemon
      (testWhile (.tunnel 9) ++ [.tearDown true, .handleTunnelDown])).map
        (fun final => (final.row.isDown, final.routing.applied.get 1)) = some (true, none) := by
  decide +kernel

end Wardnet.TunnelTest
