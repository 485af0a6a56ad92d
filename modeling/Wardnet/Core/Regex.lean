import Mathlib.Data.List.Infix

/-!
# A fragment of regular expressions

Sequences of literals and dots, each of them possibly starred, with the two
anchors and the case-insensitive flag: their concrete syntax, a matcher, and
the texts they match.  An implementation of full regular expressions conforms
to the fragment when it matches what the fragment says wherever it compiles
an expression of the fragment.
-/

namespace Wardnet.Regex

open List

inductive Atom
  | literal (char : Char)
  | anyChar
  deriving DecidableEq

structure Piece where
  atom : Atom
  starred : Bool
  deriving DecidableEq

structure Expr where
  caseInsensitive : Bool
  anchoredStart : Bool
  anchoredEnd : Bool
  pieces : List Piece
  deriving DecidableEq

/-! ## Syntax -/

/-- The characters that stand for something else than themselves. -/
def special : List Char := "\\.+*?()|[]\x7b\x7d^$".toList

def atomOf (char : Char) : Option Atom :=
  if char = '.' then some .anyChar
  else if char.toNat < 128 ∧ char ∉ special then some (.literal char)
  else none

/-- The pieces of an expression, and whether it ends with an anchor. -/
def parsePieces : List Char → Option (List Piece × Bool)
  | [] => some ([], false)
  | [char] =>
    if char = '$' then some ([], true)
    else (atomOf char).map fun atom => ([⟨atom, false⟩], false)
  | char :: next :: rest =>
    match atomOf char with
    | none => none
    | some atom =>
      if next = '*' then (parsePieces rest).map fun parsed => (⟨atom, true⟩ :: parsed.1, parsed.2)
      else (parsePieces (next :: rest)).map fun parsed => (⟨atom, false⟩ :: parsed.1, parsed.2)

def parse (source : List Char) : Option Expr :=
  let flagged := "(?i)".toList.isPrefixOf source
  let body := if flagged then source.drop 4 else source
  let anchored := body.head? = some '^'
  (parsePieces (if anchored then body.tail else body)).map fun parsed =>
    ⟨flagged, anchored, parsed.2, parsed.1⟩

/-! ## Matching -/

/-- Simple case folding onto the ASCII letters: two other characters fold to
one of them. -/
def fold (char : Char) : Char :=
  if char.toNat = 0x212a then 'k'
  else if char.toNat = 0x17f then 's'
  else char.toLower

def accepts (caseInsensitive : Bool) : Atom → Char → Bool
  | .anyChar, char => char != '\n'
  | .literal literal, char => if caseInsensitive then fold literal == fold char else literal == char

/-- One character, and then the rest. -/
def onceThen (accepts : Char → Bool) (rest : List Char → Bool) : List Char → Bool
  | [] => false
  | char :: text => accepts char && rest text

/-- Any number of characters, and then the rest. -/
def starThen (accepts : Char → Bool) (rest : List Char → Bool) : List Char → Bool
  | [] => rest []
  | char :: text => rest (char :: text) || (accepts char && starThen accepts rest text)

/-- The pieces match at the start of a text. -/
def matchHere (caseInsensitive anchoredEnd : Bool) : List Piece → List Char → Bool
  | [], text => !anchoredEnd || text.isEmpty
  | piece :: pieces, text =>
    if piece.starred then
      starThen (accepts caseInsensitive piece.atom)
        (matchHere caseInsensitive anchoredEnd pieces) text
    else
      onceThen (accepts caseInsensitive piece.atom)
        (matchHere caseInsensitive anchoredEnd pieces) text

/-- Some part of the text is matched, next to the anchors. -/
def Expr.isMatch (expr : Expr) (text : List Char) : Bool :=
  if expr.anchoredStart then matchHere expr.caseInsensitive expr.anchoredEnd expr.pieces text
  else text.tails.any (matchHere expr.caseInsensitive expr.anchoredEnd expr.pieces)

/-! ## The texts an expression matches -/

def Piece.Accepts (caseInsensitive : Bool) (piece : Piece) (text : List Char) : Prop :=
  (∀ char ∈ text, accepts caseInsensitive piece.atom char = true) ∧
    (piece.starred = false → text.length = 1)

def Matches (caseInsensitive : Bool) : List Piece → List Char → Prop
  | [], text => text = []
  | piece :: pieces, text => ∃ front back, text = front ++ back ∧
      piece.Accepts caseInsensitive front ∧ Matches caseInsensitive pieces back

variable {text : List Char} {rest : List Char → Bool} {accepts : Char → Bool}

theorem onceThen_iff : onceThen accepts rest text = true ↔
      ∃ char back, text = char :: back ∧ accepts char = true ∧ rest back = true := by
  cases text with
  | nil => simp [onceThen]
  | cons char text => simp [onceThen, and_assoc]

theorem starThen_iff : starThen accepts rest text = true ↔
      ∃ front back, text = front ++ back ∧ (∀ char ∈ front, accepts char = true) ∧
        rest back = true := by
  induction text with
  | nil =>
    constructor
    · intro hrest
      exact ⟨[], [], rfl, by simp, hrest⟩
    · intro ⟨front, back, htext, _, hrest⟩
      have hback : back = [] := (append_eq_nil_iff.mp htext.symm).2
      rw [starThen, ← hback, hrest]
  | cons char text ih =>
    rw [starThen, Bool.or_eq_true, Bool.and_eq_true, ih]
    constructor
    · intro hcases
      rcases hcases with hrest | ⟨hchar, front, back, rfl, hfront, hrest⟩
      · exact ⟨[], char :: text, rfl, by simp, hrest⟩
      · exact ⟨char :: front, back, rfl, forall_mem_cons.mpr ⟨hchar, hfront⟩, hrest⟩
    · intro ⟨front, back, htext, hfront, hrest⟩
      cases front with
      | nil =>
        rw [htext]
        exact Or.inl hrest
      | cons head front =>
        rw [cons_append, cons.injEq] at htext
        rw [htext.1]
        exact Or.inr ⟨hfront head mem_cons_self, front, back, htext.2,
          fun other hother => hfront other (mem_cons_of_mem head hother), hrest⟩

theorem matchHere_iff {caseInsensitive anchoredEnd : Bool} {pieces : List Piece} :
    matchHere caseInsensitive anchoredEnd pieces text = true ↔
      ∃ matched after, text = matched ++ after ∧
        Matches caseInsensitive pieces matched ∧ (anchoredEnd = true → after = []) := by
  induction pieces generalizing text with
  | nil => cases anchoredEnd <;> simp [matchHere, Matches]
  | cons piece pieces ih =>
    have hfront : matchHere caseInsensitive anchoredEnd (piece :: pieces) text = true ↔
        ∃ front back, text = front ++ back ∧ piece.Accepts caseInsensitive front ∧
          matchHere caseInsensitive anchoredEnd pieces back = true := by
      rw [matchHere]
      cases hstarred : piece.starred with
      | true => simp [starThen_iff, Piece.Accepts, hstarred]
      | false =>
        simp only [Bool.false_eq_true, if_false, onceThen_iff, Piece.Accepts,
          hstarred, true_implies, length_eq_one_iff]
        constructor
        · intro ⟨char, back, htext, hchar, hback⟩
          exact ⟨[char], back, htext, ⟨by simp [hchar], char, rfl⟩, hback⟩
        · intro ⟨front, back, htext, ⟨hall, char, hchar⟩, hback⟩
          rw [hchar] at htext hall
          exact ⟨char, back, htext, hall char (by simp), hback⟩
    rw [hfront]
    constructor
    · intro ⟨front, back, htext, haccepts, hback⟩
      obtain ⟨matched, after, hmatched, hmatches, hafter⟩ := ih.mp hback
      exact ⟨front ++ matched, after, by rw [htext, hmatched, append_assoc],
        ⟨front, matched, rfl, haccepts, hmatches⟩, hafter⟩
    · intro ⟨matched, after, htext, ⟨front, back, hmatched, haccepts, hmatches⟩, hafter⟩
      exact ⟨front, back ++ after, by rw [htext, hmatched, append_assoc], haccepts,
        ih.mpr ⟨back, after, rfl, hmatches, hafter⟩⟩

/-- Between the two anchors the whole text is matched. -/
theorem isMatch_iff_matches {expr : Expr} (hstart : expr.anchoredStart = true)
    (hend : expr.anchoredEnd = true) :
    expr.isMatch text = true ↔ Matches expr.caseInsensitive expr.pieces text := by
  rw [Expr.isMatch, if_pos hstart, matchHere_iff]
  constructor
  · intro ⟨matched, after, htext, hmatches, hafter⟩
    rw [htext, hafter hend, append_nil]
    exact hmatches
  · intro hmatches
    exact ⟨text, [], (append_nil text).symm, hmatches, fun _ => rfl⟩

/-! ## Implementations -/

/-- An implementation of regular expressions agrees with the fragment on what
it compiles. -/
def Conforms {Error : Type} (regex : List Char → Except Error (List Char → Bool)) : Prop :=
  ∀ source expr isMatch, parse source = some expr → regex source = .ok isMatch →
    ∀ text, isMatch text = expr.isMatch text

/-- The implementation of the fragment alone. -/
def compile {Error : Type} (refusal : Error) (source : List Char) :
    Except Error (List Char → Bool) :=
  match parse source with
  | some expr => .ok expr.isMatch
  | none => .error refusal

theorem conforms_compile {Error : Type} (refusal : Error) : Conforms (compile refusal) := by
  intro source expr isMatch hparse hcompile text
  rw [compile, hparse] at hcompile
  rw [← Except.ok.inj hcompile]

end Wardnet.Regex
