import Wardnet.Common.Dotted
import Wardnet.Dns.Authoritative

/-!
# Reverse names

`parse_ptr_ipv4` reads each label as the standard library reads a number, with
a plus sign or leading zeros if there are any, while the zone of a negative
answer is spelled from the number.  For labels in the usual spelling the zone
is an ancestor of the name; for others it need not be.
-/

namespace Wardnet.Dns

open List
open Net (Ipv4Addr octets)

/-- A number without a sign and without leading zeros. -/
def Plain (label : Text) : Prop := label.head? ≠ some '+' ∧ (label.head? = some '0' → label = ['0'])
  deriving Decidable

def reverseSuffix : Text := ".in-addr.arpa".toList

/-- The labels in front of `in-addr.arpa`. -/
def ptrLabels (name : Text) : List Text := ((name.stripSuffix reverseSuffix).getD []).splitOn '.'

/-- The four octets, the least significant first, and `in-addr.arpa`. -/
def reverseName (ip : Ipv4Addr) : Text :=
  ['.'].intercalate ((octets ip).reverse.map (Nat.toDigits 10)) ++ reverseSuffix

/-! ## Numbers and their digits -/

theorem digitChar_of_isDigit {char : Char} (hdigit : char.isDigit) :
    char.toNat - '0'.toNat < 10 ∧ (char.toNat - '0'.toNat).digitChar = char := by
  obtain ⟨hlow, hhigh⟩ : '0'.toNat ≤ char.toNat ∧ char.toNat ≤ '9'.toNat := by
    simpa [Char.isDigit, UInt32.le_iff_toNat_le] using hdigit
  have hlt : char.toNat - '0'.toNat < 10 := by
    have : '9'.toNat = '0'.toNat + 9 := rfl
    omega
  refine ⟨hlt, Char.toNat_inj.mp ?_⟩
  rw [Nat.toNat_digitChar_of_lt_ten hlt]
  exact Nat.add_sub_cancel' hlow

theorem toDigits_append {digits : Text} (hdigits : ∀ char ∈ digits, char.isDigit) {acc : ℕ}
    (hacc : 0 < acc) : Nat.toDigits 10 acc ++ digits = Nat.toDigits 10
      (digits.foldl (fun acc char => acc * 10 + (char.toNat - '0'.toNat)) acc) := by
  induction digits generalizing acc with
  | nil => simp
  | cons char digits ih =>
    obtain ⟨hlt, hchar⟩ := digitChar_of_isDigit (hdigits char (by simp))
    have hstep := Nat.toDigits_append_toDigits (by decide : 1 < 10) hacc hlt
    rw [Nat.toDigits_of_lt_base hlt, hchar, mul_comm] at hstep
    rw [foldl_cons, ← ih (fun other hmem => hdigits other (by simp [hmem])) (by omega),
      ← hstep, append_assoc, singleton_append]

theorem toDigits_of_parseUint {bound value : ℕ} {label : Text} (hplain : Plain label)
    (hparse : Text.parseUint bound label = some value) :
    label = Nat.toDigits 10 value ∧ value < bound := by
  simp only [Text.parseUint, if_neg hplain.1, Option.ite_none_right_eq_some] at hparse
  obtain ⟨⟨hne, hall⟩, hlt, hvalue⟩ := hparse
  cases hvalue
  refine ⟨?_, hlt⟩
  cases label with
  | nil => exact absurd rfl hne
  | cons char digits =>
    have hdigits : ∀ other ∈ char :: digits, other.isDigit := all_eq_true.mp hall
    obtain ⟨hlt, hchar⟩ := digitChar_of_isDigit (hdigits char (by simp))
    rw [foldl_cons, Nat.zero_mul, Nat.zero_add]
    by_cases hzero : char.toNat - '0'.toNat = 0
    · have hlone : digits = [] := by
        have hhead : char = '0' := by rw [← hchar, hzero]; rfl
        simpa [hhead] using hplain.2
      rw [hlone, foldl_nil, Nat.toDigits_of_lt_base hlt, hchar]
    · rw [← toDigits_append (fun other hmem => hdigits other (by simp [hmem]))
        (Nat.pos_of_ne_zero hzero), Nat.toDigits_of_lt_base hlt, hchar, singleton_append]

theorem parseUint_toDigits :
    ∀ octet < 256, Text.parseUint 256 (Nat.toDigits 10 octet) = some octet := by
  decide +kernel

/-! ## Names of addresses -/

theorem reverseName_eq (ip : Ipv4Addr) :
    reverseName ip = Nat.toDigits 10 (ip.toNat / 2 ^ 0 % 256) ++ '.' ::
      (Nat.toDigits 10 (ip.toNat / 2 ^ 8 % 256) ++ '.' ::
        (Nat.toDigits 10 (ip.toNat / 2 ^ 16 % 256) ++ '.' ::
          (Nat.toDigits 10 (ip.toNat / 2 ^ 24 % 256) ++ reverseSuffix))) := by
  simp [reverseName, octets, intercalate]

theorem parsePtrIpv4_eq (name : Text) :
    parsePtrIpv4 name = (name.stripSuffix reverseSuffix).bind fun labels =>
      match (labels.splitOn '.').map (Text.parseUint 256) with
      | [some a, some b, some c, some d] => some (Net.ipv4 d c b a)
      | _ => none := rfl

theorem octets_ipv4 {a b c d : ℕ} (ha : a < 256) (hb : b < 256) (hc : c < 256) (hd : d < 256) :
    octets (Net.ipv4 a b c d) = [a, b, c, d] := by
  simp only [octets, Net.ipv4, BitVec.toNat_ofNat, map_cons, map_nil, cons.injEq, and_true]
  omega

theorem splitOn_intercalate_octets (ip : Ipv4Addr) :
    (['.'].intercalate ((octets ip).reverse.map (Nat.toDigits 10))).splitOn '.' =
      (octets ip).reverse.map (Nat.toDigits 10) := by
  apply splitOn_intercalate
  · intro text htext
    obtain ⟨octet, hoctet, rfl⟩ := mem_map.mp htext
    exact Net.dot_notMem_toDigits octet (Net.lt_of_mem_octets (mem_reverse.mp hoctet))
  · simp [octets]

theorem parsePtrIpv4_reverseName (ip : Ipv4Addr) : parsePtrIpv4 (reverseName ip) = some ip := by
  rw [parsePtrIpv4_eq, reverseName, Text.stripSuffix_append, Option.bind_some,
    splitOn_intercalate_octets]
  simp only [octets, map_cons, map_nil, reverse_cons, reverse_nil, nil_append, cons_append,
    parseUint_toDigits _ (Nat.mod_lt _ (by decide))]
  exact congrArg some (Net.ipv4_octets ip)

theorem plain_of_reverseName (ip : Ipv4Addr) :
    ∀ label ∈ ptrLabels (reverseName ip), Plain label := by
  rw [ptrLabels, reverseName, Text.stripSuffix_append, Option.getD_some, splitOn_intercalate_octets]
  intro label hlabel
  obtain ⟨octet, hoctet, rfl⟩ := mem_map.mp hlabel
  have hplain : ∀ octet < 256, Plain (Nat.toDigits 10 octet) := by
    decide +kernel
  exact hplain octet (Net.lt_of_mem_octets (mem_reverse.mp hoctet))

/-- A name with plain labels is the canonical name of the address it gives. -/
theorem eq_reverseName {name : Text} {ip : Ipv4Addr} (hparse : parsePtrIpv4 name = some ip)
    (hplain : ∀ label ∈ ptrLabels name, Plain label) : name = reverseName ip := by
  rw [parsePtrIpv4_eq, Option.bind_eq_some_iff] at hparse
  obtain ⟨labels, hstrip, hlabels⟩ := hparse
  rw [ptrLabels, hstrip, Option.getD_some] at hplain
  have hjoin : ['.'].intercalate (labels.splitOn '.') = labels := intercalate_splitOn '.'
  rw [Text.append_of_stripSuffix hstrip, reverseName, ← hjoin]
  generalize labels.splitOn '.' = parts at hlabels hplain
  split at hlabels
  next a b c d hmap =>
    obtain ⟨first, rest, rfl, hfirst, hmap⟩ := map_eq_cons_iff.mp hmap
    obtain ⟨second, rest, rfl, hsecond, hmap⟩ := map_eq_cons_iff.mp hmap
    obtain ⟨third, rest, rfl, hthird, hmap⟩ := map_eq_cons_iff.mp hmap
    obtain ⟨fourth, rest, rfl, hfourth, hmap⟩ := map_eq_cons_iff.mp hmap
    obtain rfl := map_eq_nil_iff.mp hmap
    cases hlabels
    obtain ⟨rfl, ha⟩ := toDigits_of_parseUint (hplain first (by simp)) hfirst
    obtain ⟨rfl, hb⟩ := toDigits_of_parseUint (hplain second (by simp)) hsecond
    obtain ⟨rfl, hc⟩ := toDigits_of_parseUint (hplain third (by simp)) hthird
    obtain ⟨rfl, hd⟩ := toDigits_of_parseUint (hplain fourth (by simp)) hfourth
    rw [octets_ipv4 hd hc hb ha]
    rfl
  · cases hlabels

/-- The zone of a private address is an ancestor of its canonical name. -/
theorem zone_suffix_reverseName {ip : Ipv4Addr} {zone : Text}
    (hzone : privateReverseZone ip = some zone) : ('.' :: zone) <:+ reverseName ip := by
  have hfirst : ip.toNat / 2 ^ 24 % 256 = ip.toNat / 2 ^ 24 := by
    omega
  have hone :
      ('.' :: (Nat.toDigits 10 (ip.toNat / 2 ^ 24) ++ reverseSuffix)) <:+ reverseName ip := by
    rw [reverseName_eq, hfirst]
    exact ((suffix_append ..).trans (suffix_cons ..)).trans
      ((suffix_append ..).trans ((suffix_cons ..).trans (suffix_append ..)))
  have htwo : ('.' :: (Nat.toDigits 10 (ip.toNat / 2 ^ 16 % 256) ++ '.' ::
      (Nat.toDigits 10 (ip.toNat / 2 ^ 24) ++ reverseSuffix))) <:+ reverseName ip := by
    rw [reverseName_eq, hfirst]
    exact (suffix_append ..).trans ((suffix_cons ..).trans (suffix_append ..))
  have hlabel : (toString (ip.toNat / 2 ^ 16 % 256)).toList =
      Nat.toDigits 10 (ip.toNat / 2 ^ 16 % 256) := by
    simp
  simp only [privateReverseZone, hlabel] at hzone
  split_ifs at hzone with hten hclassB hclassC hlink hshared
  · cases hzone
    rwa [hten] at hone
  · cases hzone
    rwa [hclassB.1] at htwo
  · cases hzone
    rwa [hclassC.1, hclassC.2] at htwo
  · cases hzone
    rwa [hlink.1, hlink.2] at htwo
  · cases hzone
    rwa [hshared.1] at htwo

/-- A name that is read as an address is the canonical one, and so lies in the
zone of the address, exactly when its labels are plain.  Every address is read
back from its canonical name. -/
theorem reverse_answers_in_bailiwick_iff (name : Text) (ip : Ipv4Addr) :
    (parsePtrIpv4 name = some ip → ((name = reverseName ip ∧
        ∀ zone, privateReverseZone ip = some zone → ('.' :: zone) <:+ name) ↔
      ∀ label ∈ ptrLabels name, Plain label)) ∧ parsePtrIpv4 (reverseName ip) = some ip := by
  refine ⟨fun hparse => ⟨?_, fun hplain => ?_⟩, parsePtrIpv4_reverseName ip⟩
  · rintro ⟨rfl, -⟩
    exact plain_of_reverseName ip
  · obtain rfl := eq_reverseName hparse hplain
    exact ⟨rfl, fun zone hzone => zone_suffix_reverseName hzone⟩

theorem reverse_answers_in_bailiwick_iff_router :
    parsePtrIpv4 "1.0.168.192.in-addr.arpa".toList = some (Net.ipv4 192 168 0 1) ∧
      '.' :: "168.192.in-addr.arpa".toList <:+ "1.0.168.192.in-addr.arpa".toList := by
  have hparse : parsePtrIpv4 "1.0.168.192.in-addr.arpa".toList = some (Net.ipv4 192 168 0 1) := by
    decide +kernel
  have hplain : ∀ label ∈ ptrLabels "1.0.168.192.in-addr.arpa".toList, Plain label := by
    decide +kernel
  have hname := ((reverse_answers_in_bailiwick_iff _ _).1 hparse).mpr hplain
  exact ⟨hparse, hname.2 _ (by decide +kernel)⟩

/-- A leading zero: the address is private, but the name does not lie in the
zone that the negative answer names. -/
theorem leading_zero_out_of_bailiwick :
    parsePtrIpv4 "1.0.0.010.in-addr.arpa".toList = some (Net.ipv4 10 0 0 1) ∧
      privateReverseZone (Net.ipv4 10 0 0 1) = some "10.in-addr.arpa".toList ∧
      ¬ ('.' :: "10.in-addr.arpa".toList) <:+ "1.0.0.010.in-addr.arpa".toList := by
  decide +kernel

end Wardnet.Dns
