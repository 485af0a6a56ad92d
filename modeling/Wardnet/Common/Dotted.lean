import Wardnet.Common.Net
import Wardnet.Common.Text

/-!
# Addresses as text

An IPv4 address is stored in its dotted form and read back with the parser of
the standard library, which takes one to three decimal digits for an octet and
no leading zero.  Reading a printed address gives the address.
-/

namespace Wardnet.Net

/-- One octet of a dotted address. -/
def parseOctet (text : Text) : Option ℕ :=
  let value := Nat.ofDigitChars 10 text 0
  if text ≠ [] ∧ text.length ≤ 3 ∧ text.all Char.isDigit ∧
      (text.head? = some '0' → text.length = 1) ∧ value ≤ 255 then some value
  else none

/-- `Ipv4Addr::from_str`. -/
def parseIpv4 (text : Text) : Option Ipv4Addr :=
  match List.splitOn '.' text with
  | [first, second, third, fourth] => do
    return ipv4 (← parseOctet first) (← parseOctet second) (← parseOctet third)
      (← parseOctet fourth)
  | _ => none

/-- The octets of an address, the most significant first. -/
def octets (addr : Ipv4Addr) : List ℕ :=
  [24, 16, 8, 0].map fun shift => addr.toNat / 2 ^ shift % 256

theorem lt_of_mem_octets {addr : Ipv4Addr} {octet : ℕ} (hmem : octet ∈ octets addr) :
    octet < 256 := by
  obtain ⟨shift, -, rfl⟩ := List.mem_map.mp hmem
  exact Nat.mod_lt _ (by decide)

theorem parseOctet_toDigits : ∀ octet < 256, parseOctet (Nat.toDigits 10 octet) = some octet := by
  decide +kernel

theorem dot_notMem_toDigits : ∀ octet < 256, '.' ∉ Nat.toDigits 10 octet := by decide +kernel

theorem ipv4_octets (addr : Ipv4Addr) :
    ipv4 (addr.toNat / 2 ^ 24 % 256) (addr.toNat / 2 ^ 16 % 256) (addr.toNat / 2 ^ 8 % 256)
      (addr.toNat / 2 ^ 0 % 256) = addr := by
  apply BitVec.eq_of_toNat_eq
  rw [ipv4, BitVec.toNat_ofNat]
  omega

/-- A printed address is read back. -/
@[simp]
theorem parseIpv4_display (addr : Ipv4Addr) : parseIpv4 (display addr).toList = some addr := by
  have hjoin : (display addr).toList = ['.'].intercalate ((octets addr).map (Nat.toDigits 10)) := by
    simp [display, octets]
  rw [parseIpv4, hjoin, List.splitOn_intercalate]
  · simp only [octets, List.map_cons, List.map_nil,
      parseOctet_toDigits _ (Nat.mod_lt _ (by decide))]
    exact congrArg some (ipv4_octets addr)
  · intro text htext
    obtain ⟨octet, hoctet, rfl⟩ := List.mem_map.mp htext
    exact dot_notMem_toDigits octet (lt_of_mem_octets hoctet)
  · simp [octets]

end Wardnet.Net
