import Mathlib.Algebra.Group.Nat.Defs
import Mathlib.Data.Char
import Mathlib.Data.List.DropRight
import Mathlib.Data.List.Lex

/-!
# Text

Strings are lists of characters, with the few operations of the standard
library that the daemon applies to names and hardware addresses.
-/

namespace Wardnet

abbrev Text := List Char

namespace Text

instance : LawfulBEq Text := inferInstanceAs (LawfulBEq (List Char))

def toAsciiLowercase (text : Text) : Text := text.map Char.toLower

/-- `str::trim_end_matches` with a single character. -/
def trimEndMatches (text : Text) (char : Char) : Text :=
  (text.reverse.dropWhile (· == char)).reverse

/-- `str::len`: the number of bytes of the encoded text. -/
def len (text : Text) : ℕ := text.foldl (fun bytes char => bytes + char.utf8Size) 0

def startsWith (text start : Text) : Bool := start.isPrefixOf text

def endsWith (text suffix : Text) : Bool := suffix.isSuffixOf text

/-- `str::parse` into an unsigned integer below `bound`. -/
def parseUint (bound : ℕ) (text : Text) : Option ℕ :=
  let digits := if text.head? = some '+' then text.tail else text
  if digits ≠ [] ∧ digits.all Char.isDigit then
    let value := digits.foldl (fun acc char => acc * 10 + (char.toNat - '0'.toNat)) 0
    if value < bound then some value else none
  else none

def stripSuffix (text suffix : Text) : Option Text :=
  if text.endsWith suffix then some (text.take (text.length - suffix.length))
  else none

/-- `char::is_whitespace`: the characters with the property `White_Space`. -/
def isWhiteSpace (char : Char) : Bool :=
  let code := char.toNat
  (0x9 ≤ code && code ≤ 0xd) || code == 0x20 || code == 0x85 || code == 0xa0 ||
    code == 0x1680 || (0x2000 ≤ code && code ≤ 0x200a) || code == 0x2028 ||
    code == 0x2029 || code == 0x202f || code == 0x205f || code == 0x3000

def trim (text : Text) : Text :=
  ((text.dropWhile isWhiteSpace).reverse.dropWhile isWhiteSpace).reverse

def stripPrefix (text start : Text) : Option Text :=
  if text.startsWith start then some (text.drop start.length) else none

theorem stripSuffix_append (text suffix : Text) : stripSuffix
    (text ++ suffix) suffix = some text := by
  simp [stripSuffix, endsWith]

theorem append_of_stripSuffix {text suffix rest : Text}
    (hstrip : stripSuffix text suffix = some rest) : text = rest ++ suffix := by
  simp only [stripSuffix, endsWith, List.isSuffixOf_iff_suffix,
    Option.ite_none_right_eq_some] at hstrip
  obtain ⟨⟨front, rfl⟩, hrest⟩ := hstrip
  cases hrest
  simp

end Text

end Wardnet
