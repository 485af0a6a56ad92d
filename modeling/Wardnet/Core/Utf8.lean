import Mathlib.Data.List.Infix

/-!
# Encoded texts

A text is a list of characters and its encoding the list of their UTF-8
bytes.  Suffixes and single ASCII characters can be told from the bytes
alone: a byte inside an encoded character never starts one.
-/

namespace Wardnet.Utf8

/-- The encoding of a text. -/
def bytes (text : List Char) : List UInt8 := text.flatMap String.utf8EncodeChar

@[simp]
theorem bytes_nil : bytes [] = [] := rfl

@[simp]
theorem bytes_cons (char : Char) (text : List Char) :
    bytes (char :: text) = String.utf8EncodeChar char ++ bytes text := rfl

@[simp]
theorem bytes_append (left right : List Char) : bytes (left ++ right) = bytes left ++ bytes right :=
  List.flatMap_append

theorem bytes_injective : Function.Injective bytes := by
  intro left right heq
  have hencode : left.utf8Encode = right.utf8Encode := congrArg List.toByteArray heq
  have hdecode : some left.toArray = some right.toArray := by
    rw [← List.utf8Decode?_utf8Encode, ← List.utf8Decode?_utf8Encode, hencode]
  simpa using hdecode

/-- The first byte of a text starts a character. -/
theorem isUTF8FirstByte_of_mem_head? {text : List Char} {byte : UInt8}
    (hbyte : byte ∈ (bytes text).head?) : byte.IsUTF8FirstByte := by
  cases text with
  | nil => simp at hbyte
  | cons char text =>
    have hhead : (String.utf8EncodeChar char).head? = some byte := by
      rw [bytes_cons, List.head?_append_of_ne_nil _ String.utf8EncodeChar_ne_nil] at hbyte
      exact hbyte
    rw [List.head?_eq_getElem?, List.getElem?_eq_some_iff] at hhead
    obtain ⟨hlt, rfl⟩ := hhead
    exact UInt8.isUTF8FirstByte_getElem_utf8EncodeChar.mpr rfl

/-- What is left of an encoded text after some of its bytes encodes a text
only at the start of a character. -/
theorem suffix_of_append_bytes_eq {text rest : List Char} {start : List UInt8}
    (heq : start ++ bytes rest = bytes text) : rest <:+ text := by
  induction text generalizing start with
  | nil =>
    have hrest : bytes rest = bytes [] := (List.append_eq_nil_iff.mp heq).2
    rw [bytes_injective hrest]
  | cons char text ih =>
    cases start with
    | nil =>
      have hrest : rest = char :: text := bytes_injective heq
      rw [hrest]
    | cons byte start =>
      rcases List.append_eq_append_iff.mp heq with
        ⟨inner, hchar, hrest⟩ | ⟨inner, hstart, htext⟩
      · cases inner with
        | nil =>
          have hsuffix : rest <:+ text := by rw [bytes_injective (hrest.trans (List.nil_append _))]
          exact hsuffix.trans (List.suffix_cons char text)
        | cons middle inner =>
          have hhead : middle ∈ (bytes rest).head? := by simp [hrest]
          have hfirst := isUTF8FirstByte_of_mem_head? hhead
          have hmiddle : (String.utf8EncodeChar char)[start.length + 1]? = some middle := by
            simp [hchar]
          obtain ⟨hlt, hget⟩ := List.getElem?_eq_some_iff.mp hmiddle
          rw [← hget] at hfirst
          have hzero := UInt8.isUTF8FirstByte_getElem_utf8EncodeChar.mp hfirst
          exact absurd hzero (Nat.succ_ne_zero _)
      · exact (ih htext.symm).trans (List.suffix_cons char text)

theorem bytes_suffix_iff {rest text : List Char} : bytes rest <:+ bytes text ↔ rest <:+ text := by
  constructor
  · rintro ⟨start, heq⟩
    exact suffix_of_append_bytes_eq heq
  · rintro ⟨start, rfl⟩
    rw [bytes_append]
    exact List.suffix_append _ _

/-- The last byte of a character is an ASCII byte only for that ASCII
character. -/
theorem getLast?_utf8EncodeChar_eq_iff {char ascii : Char} (hascii : ascii.toNat ≤ 127) :
    (String.utf8EncodeChar char).getLast? = some ascii.toUInt8 ↔ char = ascii := by
  have hbyte : ascii.toUInt8 = UInt8.ofNat ascii.toNat := rfl
  have hsame : char = ascii ↔ char.toNat = ascii.toNat := Char.toNat_inj.symm
  rw [hbyte, hsame, String.utf8EncodeChar.eq_1]
  change _ ↔ char.val.toNat = _
  split_ifs <;>
    simp only [List.getLast?_singleton, List.getLast?_cons_cons, Option.some.injEq,
      ← UInt8.toNat_inj, UInt8.toNat_ofNat'] <;>
    omega

end Wardnet.Utf8
