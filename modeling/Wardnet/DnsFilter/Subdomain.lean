import Wardnet.Core.Utf8
import Wardnet.DnsFilter.Filter

/-!
# Names under a rule domain

Three ways to ask whether a name lies under a rule domain: the suffix test of
a single rule, the walk over the parents of the name that the sets are
searched with, and the test of a single rule as the code makes it, on the
bytes of the two names.  All of them ask whether the name is the rule domain
or ends with a dot and the rule domain.
-/

namespace Wardnet.Filter

open List
open Utf8 (bytes bytes_append bytes_cons bytes_injective bytes_suffix_iff
  getLast?_utf8EncodeChar_eq_iff)

/-- `d` is `r`, or ends with a dot and `r`. -/
def Under (domain ruleDomain : Text) : Prop := domain = ruleDomain ∨ '.' :: ruleDomain <:+ domain

variable {ruleDomain : Text}

/-- A name that ends with a rule domain lies under it when the character in
front of the rule domain is a dot. -/
theorem under_append_cons_iff {front : Text} {char : Char} :
    Under (front ++ char :: ruleDomain) ruleDomain ↔ char = '.' := by
  constructor
  · intro hunder
    rcases hunder with heq | hdot
    · have hlength := congrArg length heq
      simp only [length_append, length_cons] at hlength
      omega
    · have hchar : char :: ruleDomain <:+ front ++ char :: ruleDomain := suffix_append _ _
      have hsuffix : '.' :: ruleDomain <:+ char :: ruleDomain :=
        suffix_of_suffix_length_le hdot hchar (by simp)
      have heq : '.' :: ruleDomain = char :: ruleDomain := hsuffix.eq_of_length (by simp)
      exact (cons.inj heq).1.symm
  · intro hchar
    rw [hchar]
    exact Or.inr (suffix_append _ _)

variable {domain : Text}

theorem suffix_of_under (hunder : Under domain ruleDomain) : ruleDomain <:+ domain := by
  rcases hunder with heq | hdot
  · rw [heq]
  · exact (suffix_cons '.' ruleDomain).trans hdot

/-- A longer name with a rule domain as its suffix has a character in front
of it. -/
theorem eq_append_cons_of_suffix (hsuffix : ruleDomain <:+ domain) (hne : domain ≠ ruleDomain) :
    ∃ front char, domain = front ++ char :: ruleDomain := by
  obtain ⟨start, rfl⟩ := hsuffix
  have hstart : start ≠ [] := by
    intro hnil
    exact hne (by simp [hnil])
  obtain ⟨front, char, rfl⟩ := eq_nil_or_concat start |>.resolve_left hstart
  exact ⟨front, char, concat_append⟩

/-! ## The suffix test -/

/-- The character the suffix test looks at is the one in front of the
suffix. -/
theorem getElem?_before_suffix (start ruleDomain : Text) (char : Char) :
    (start ++ char :: ruleDomain)[(start ++ char :: ruleDomain).length -
      ruleDomain.length - 1]? = some char := by
  have hindex : (start ++ char :: ruleDomain).length - ruleDomain.length - 1 = start.length := by
    simp only [length_append, length_cons]
    omega
  rw [hindex]
  simp

theorem isSubdomainOf_iff : isSubdomainOf domain ruleDomain = true ↔ Under domain ruleDomain := by
  by_cases hsame : domain = ruleDomain
  · simp [isSubdomainOf, Under, hsame]
  by_cases hsuffix : ruleDomain <:+ domain
  · obtain ⟨front, char, rfl⟩ := eq_append_cons_of_suffix hsuffix hsame
    have hlength : ruleDomain.length < (front ++ char :: ruleDomain).length := by
      simp only [length_append, length_cons]
      omega
    have hends : (front ++ char :: ruleDomain).endsWith ruleDomain = true :=
      isSuffixOf_iff_suffix.mpr hsuffix
    rw [under_append_cons_iff]
    simp only [isSubdomainOf, getElem?_before_suffix, decide_eq_true_eq, hlength, hends,
      hsame, Option.some.injEq, true_and, false_or]
  · have hends : ¬ domain.endsWith ruleDomain = true := by
      rw [Text.endsWith, isSuffixOf_iff_suffix]
      exact hsuffix
    have hunder : ¬ Under domain ruleDomain := fun hunder => hsuffix (suffix_of_under hunder)
    simp [isSubdomainOf, hsame, hends, hunder]

/-! ## The walk over the parents -/

theorem anyParentIn_iff (domains : List Text) (domain : Text) :
    anyParentIn domains domain = true ↔ ∃ ruleDomain ∈ domains, '.' :: ruleDomain <:+ domain := by
  induction domain with
  | nil => simp [anyParentIn]
  | cons char rest ih =>
    have hstep : anyParentIn domains (char :: rest) = true ↔
        (char = '.' ∧ rest ∈ domains) ∨ anyParentIn domains rest = true := by
      rw [anyParentIn]
      split <;> simp_all
    calc anyParentIn domains (char :: rest) = true ↔ (char = '.' ∧ rest ∈ domains) ∨
            ∃ ruleDomain ∈ domains, '.' :: ruleDomain <:+ rest := by
          rw [hstep, ih]
      _ ↔ ∃ ruleDomain ∈ domains,
            (char = '.' ∧ rest = ruleDomain) ∨ '.' :: ruleDomain <:+ rest := by
          grind
      _ ↔ ∃ ruleDomain ∈ domains, '.' :: ruleDomain <:+ char :: rest := by
          simp only [suffix_cons_iff, cons.injEq]
          grind

theorem matchesSubdomain_iff {domains : List Text} :
    matchesSubdomain domain domains = true ↔ ∃ ruleDomain ∈ domains, Under domain ruleDomain := by
  rw [matchesSubdomain, Bool.or_eq_true, anyParentIn_iff, contains_iff_mem]
  simp only [Under]
  grind

/-- Searching a set is asking each of its domains. -/
theorem matchesSubdomain_eq_any (domain : Text) (domains : List Text) :
    matchesSubdomain domain domains = domains.any (isSubdomainOf domain) := by
  rw [Bool.eq_iff_iff, matchesSubdomain_iff, any_eq_true]
  simp only [isSubdomainOf_iff]

/-! ## The test on bytes -/

/-- `is_subdomain_of` on the encoded names, with `none` for an index out of
bounds. -/
def isSubdomainOfBytes (domain ruleDomain : List UInt8) : Option Bool :=
  if domain = ruleDomain then some true
  else if domain.length ≤ ruleDomain.length then some false
  else
    let prefixLen := domain.length - ruleDomain.length - 1
    if ruleDomain.isSuffixOf domain then domain[prefixLen]?.map (· == '.'.toUInt8)
    else some false

/-- The byte the test looks at is the last one of the character in front of
the suffix. -/
theorem getElem?_before_bytes (front ruleDomain : Text) (char : Char) :
    (bytes (front ++ char :: ruleDomain))[(bytes (front ++ char :: ruleDomain)).length -
          (bytes ruleDomain).length - 1]? = (String.utf8EncodeChar char).getLast? := by
  have hpos : 0 < (String.utf8EncodeChar char).length :=
    length_pos_of_ne_nil String.utf8EncodeChar_ne_nil
  have hindex : (bytes (front ++ char :: ruleDomain)).length - (bytes ruleDomain).length - 1 =
      (bytes front).length + ((String.utf8EncodeChar char).length - 1) := by
    simp only [bytes_append, bytes_cons, length_append]
    omega
  rw [hindex, bytes_append, bytes_cons, getElem?_append_right (by omega),
    Nat.add_sub_cancel_left, getElem?_append_left (by omega), getLast?_eq_getElem?]

/-- The test on bytes stays in bounds, and answers as the test on
characters. -/
theorem isSubdomainOfBytes_bytes (domain ruleDomain : Text) :
    isSubdomainOfBytes (bytes domain) (bytes ruleDomain) =
      some (isSubdomainOf domain ruleDomain) := by
  by_cases hsame : domain = ruleDomain
  · simp [isSubdomainOfBytes, isSubdomainOf, hsame]
  have hbytes : bytes domain ≠ bytes ruleDomain := bytes_injective.ne hsame
  by_cases hsuffix : ruleDomain <:+ domain
  · have hends : (bytes ruleDomain).isSuffixOf (bytes domain) = true := by
      rw [isSuffixOf_iff_suffix, bytes_suffix_iff]
      exact hsuffix
    obtain ⟨front, char, rfl⟩ := eq_append_cons_of_suffix hsuffix hsame
    have hlength : ¬ (bytes (front ++ char :: ruleDomain)).length ≤ (bytes ruleDomain).length := by
      have hpos : 0 < (String.utf8EncodeChar char).length :=
        length_pos_of_ne_nil String.utf8EncodeChar_ne_nil
      simp only [bytes_append, bytes_cons, length_append]
      omega
    have hsome : (String.utf8EncodeChar char).getLast?.isSome = true := by
      simp [String.utf8EncodeChar_ne_nil]
    obtain ⟨byte, hbyte⟩ := Option.isSome_iff_exists.mp hsome
    have hdot : byte = '.'.toUInt8 ↔ char = '.' := by
      rw [← getLast?_utf8EncodeChar_eq_iff (by decide), hbyte, Option.some.injEq]
    have hanswer : isSubdomainOf (front ++ char :: ruleDomain) ruleDomain =
        (byte == '.'.toUInt8) := by
      rw [Bool.eq_iff_iff, isSubdomainOf_iff, under_append_cons_iff, ← hdot, beq_iff_eq]
    rw [isSubdomainOfBytes, if_neg hbytes, if_neg hlength]
    simp only [hends, if_true, getElem?_before_bytes, hbyte, Option.map_some, hanswer]
  · have hends : ¬ (bytes ruleDomain).isSuffixOf (bytes domain) = true := by
      rw [isSuffixOf_iff_suffix, bytes_suffix_iff]
      exact hsuffix
    have hunder : isSubdomainOf domain ruleDomain = false := by
      rw [Bool.eq_false_iff, ne_eq, isSubdomainOf_iff]
      exact fun hunder => hsuffix (suffix_of_under hunder)
    simp [isSubdomainOfBytes, hbytes, hends, hunder]

end Wardnet.Filter
