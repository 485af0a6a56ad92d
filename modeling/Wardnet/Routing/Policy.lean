import Wardnet.Routing.Service

/-!
# The global default policy

The policy is stored as a text: `direct`, or the id of a tunnel in any spelling
that parses as a UUID.  `from_default_policy` is the one reading of that text;
`clear_rule` reads it as a JSON routing target instead, which no accepted
policy is.
-/

namespace Wardnet.Routing

def isJsonSpace (char : Char) : Bool := char = ' ' || char = '\n' || char = '\t' || char = '\r'

/-- The text can be that of a JSON array, or of an object with a member: what
an internally tagged enum is read from. -/
def looksLikeTarget (raw : Text) : Bool :=
  let body := raw.dropWhile isJsonSpace
  body.head? = some '[' || (body.head? = some (Char.ofNat 0x7b) &&
    (body.tail.dropWhile isJsonSpace).head? = some (Char.ofNat 0x22))

/-- A policy text with the id that `Uuid::parse_str` reads from it.  Of that
reading it is known that `direct` is no UUID, and that no spelling of one, be
it in braces or behind `urn:uuid:`, looks like a JSON routing target. -/
structure PolicyText where
  text : Text
  uuid : Option Uuid
  uuid_direct : text = "direct".toList → uuid = none
  uuid_plain : uuid.isSome = true → looksLikeTarget text = false
  deriving DecidableEq

/-! ## Reading the policy -/

def directPolicy : PolicyText := ⟨"direct".toList, none, fun _ => rfl, by decide⟩

theorem eq_directPolicy_iff {policy : PolicyText} :
    policy = directPolicy ↔ policy.text = directPolicy.text := by
  refine ⟨congrArg PolicyText.text, fun htext => ?_⟩
  have huuid := policy.uuid_direct htext
  cases policy
  cases htext
  cases huuid
  rfl

def fromDefaultPolicy (policy : PolicyText) : RoutingTarget :=
  if policy.text = directPolicy.text then .direct
  else
    match policy.uuid with
    | some tunnel => .tunnel tunnel
    | none => .direct

def acceptsPolicy (policy : PolicyText) : Bool :=
  policy.text = directPolicy.text || policy.uuid.isSome

def policyTunnel (policy : PolicyText) : Option Uuid :=
  match fromDefaultPolicy policy with
  | .tunnel tunnel => some tunnel
  | _ => none

theorem fromDefaultPolicy_ne_default (policy : PolicyText) :
    fromDefaultPolicy policy ≠ .default := by
  unfold fromDefaultPolicy
  split
  · exact nofun
  · split <;> exact nofun

theorem resolveTarget_default (policy : PolicyText) :
    resolveTarget (policyTunnel policy) .default = fromDefaultPolicy policy := by
  have hdefault := fromDefaultPolicy_ne_default policy
  unfold policyTunnel
  cases hread : fromDefaultPolicy policy with
  | tunnel | direct => rfl
  | default => exact absurd hread hdefault

/-! ## The policy as JSON -/

/-- The target `clear_rule` publishes for a stored policy, with
`serde_json::from_str` as a parameter. -/
def clearedTarget (fromStr : Text → Option RoutingTarget) (policy : PolicyText) : RoutingTarget :=
  (fromStr policy.text).getD .direct

/-- `clear_rule` publishes `Direct` whatever the accepted policy is. -/
theorem clearedTarget_eq_direct {fromStr : Text → Option RoutingTarget}
    (hfromStr : ∀ raw target, fromStr raw = some target → looksLikeTarget raw = true)
    {policy : PolicyText} (haccepts : acceptsPolicy policy = true) :
    clearedTarget fromStr policy = .direct := by
  have hplain : looksLikeTarget policy.text = false := by
    simp only [acceptsPolicy, Bool.or_eq_true, decide_eq_true_eq] at haccepts
    rcases haccepts with hdirect | hsome
    · rw [hdirect]
      decide
    · exact policy.uuid_plain hsome
  cases hread : fromStr policy.text with
  | none => simp [clearedTarget, hread]
  | some target => exact absurd (hplain.symm.trans (hfromStr policy.text target hread)) nofun

end Wardnet.Routing
