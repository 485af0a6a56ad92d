import Wardnet.Common.Net

/-!
# Subnets

A network matches the addresses that agree with it under its mask.  Two
networks are therefore disjoint or nested, and a network is determined by the
addresses it starts with and its length once its host bits are cleared.
-/

namespace Wardnet.Net

open BitVec

/-- `canonical_cidr`: the same network with its host bits cleared. -/
def Ipv4Network.canonical (net : Ipv4Network) : Ipv4Network := { net with addr := net.network }

/-- One of the networks contains the start of the other. -/
def Ipv4Network.overlaps (left right : Ipv4Network) : Bool :=
  left.contains right.network || right.contains left.network

/-- `is_rfc1918_subnet`: the network lies inside a private block. -/
def isRfc1918Subnet (net : Ipv4Network) : Bool :=
  [(ipv4 10 0 0 0, 8), (ipv4 172 16 0 0, 12), (ipv4 192 168 0 0, 16)].any
    fun block => block.2 ≤ net.length && inBlock net.network block.1 block.2

theorem maskOf_and_maskOf {short long : ℕ} (hle : short ≤ long) :
    maskOf short &&& maskOf long = maskOf short := by
  apply eq_of_getLsbD_eq
  intro index hindex
  simp only [maskOf, getLsbD_and, getLsbD_shiftLeft, getLsbD_allOnes]
  by_cases hshort : index < 32 - short
  · simp [hshort]
  · have hlong : ¬ index < 32 - long := by omega
    simp [hshort, hlong]
    omega

namespace Ipv4Network

variable {net left right : Ipv4Network} {addr other : Ipv4Addr}

theorem contains_iff : net.contains addr = true ↔ addr &&& net.mask = net.network := by
  simp [contains, inBlock, mask]

@[simp]
theorem network_and_mask : net.network &&& net.mask = net.network := by
  rw [network, BitVec.and_assoc, BitVec.and_self]

@[simp]
theorem contains_network : net.contains net.network = true := contains_iff.mpr network_and_mask

@[simp]
theorem contains_canonical : net.canonical.contains addr = net.contains addr := by
  simp [contains, canonical, network, mask, BitVec.and_assoc]

/-- Of two networks that share an address, the shorter mask contains the
other. -/
theorem contains_of_shared (hle : left.length ≤ right.length)
    (hleft : left.contains addr = true) (hright : right.contains addr = true)
    (hother : right.contains other = true) : left.contains other = true := by
  rw [contains_iff] at hleft hright hother ⊢
  have hmask : left.mask = right.mask &&& left.mask := by
    rw [BitVec.and_comm]
    exact (maskOf_and_maskOf hle).symm
  calc
    other &&& left.mask = other &&& right.mask &&& left.mask := by rw [BitVec.and_assoc, ← hmask]
    _ = addr &&& right.mask &&& left.mask := by rw [hother, hright]
    _ = addr &&& left.mask := by rw [BitVec.and_assoc, ← hmask]
    _ = left.network := hleft

theorem overlaps_iff : left.overlaps right = true ↔
      ∃ addr, left.contains addr = true ∧ right.contains addr = true := by
  rw [overlaps, Bool.or_eq_true]
  constructor
  · rintro (hcontains | hcontains)
    · exact ⟨right.network, hcontains, contains_network⟩
    · exact ⟨left.network, contains_network, hcontains⟩
  · rintro ⟨addr, hleft, hright⟩
    rcases Nat.le_total left.length right.length with hle | hle
    · exact .inl (contains_of_shared hle hleft hright contains_network)
    · exact .inr (contains_of_shared hle hright hleft contains_network)

end Ipv4Network

/-! ## Gateways -/

variable {net : Ipv4Network}

/-- Private networks end far below the last address. -/
theorem isRfc1918Subnet_network_lt (hprivate : isRfc1918Subnet net = true) :
    net.network.toNat + 10 < 4294967296 := by
  apply Nat.lt_of_not_le
  intro hlarge
  have hcases : net.network.toNat - 4294967286 < 10 := by omega
  have hnetwork : net.network =
      BitVec.ofNat 32 (4294967286 + (net.network.toNat - 4294967286)) := by
    apply eq_of_toNat_eq
    rw [toNat_ofNat]
    omega
  generalize net.network.toNat - 4294967286 = offset at hcases hnetwork
  have hnone : ∀ offset < 10, ∀ block ∈
      [(ipv4 10 0 0 0, 8), (ipv4 172 16 0 0, 12), (ipv4 192 168 0 0, 16)],
      inBlock (BitVec.ofNat 32 (4294967286 + offset)) block.1 block.2 =
        false := by
    decide +kernel
  simp only [isRfc1918Subnet, List.any_eq_true, Bool.and_eq_true] at hprivate
  obtain ⟨block, hblock, -, hin⟩ := hprivate
  rw [hnetwork, hnone offset hcases block hblock] at hin
  cases hin

/-- A subnet with a DHCP pool has host bits. -/
theorem length_lt_of_poolBounds (hprivate : isRfc1918Subnet net = true)
    (hpool : poolBounds net ≠ none) : net.length < 32 := by
  apply Nat.lt_of_not_le
  intro hlarge
  have hlength : net.length = 32 := Nat.le_antisymm net.length_le hlarge
  have hmask : net.mask = allOnes 32 := by simp [Ipv4Network.mask, maskOf, hlength]
  have hbroadcast : net.broadcast = net.network := by
    rw [Ipv4Network.broadcast, Ipv4Network.network, hmask,
      not_allOnes, BitVec.or_zero, and_allOnes]
  apply hpool
  have hlt := isRfc1918Subnet_network_lt hprivate
  simp only [poolBounds, hbroadcast, ite_eq_left_iff]
  intro hle
  exfalso
  apply hle
  rw [BitVec.le_def, toNat_ofNat, toNat_add]
  have h10 : (10 : BitVec 32).toNat = 10 := rfl
  omega

/-- The gateway of a subnet with host bits lies in it. -/
theorem gatewayFor_and_mask (hlength : net.length < 32) :
    gatewayFor net &&& net.mask = net.network := by
  have hone : 1#32 &&& net.mask = 0#32 := by
    apply eq_of_getLsbD_eq
    intro index hindex
    simp only [getLsbD_and, Ipv4Network.mask, maskOf,
      getLsbD_shiftLeft, getLsbD_one, getLsbD_zero]
    by_cases hzero : index = 0
    · have hshift : 0 < 32 - net.length := by omega
      simp [hzero, hshift]
    · simp [hzero]
  have hdisjoint : net.network &&& 1#32 = 0#32 := by
    rw [Ipv4Network.network, BitVec.and_assoc, BitVec.and_comm net.mask, hone, BitVec.and_zero]
  have hor : gatewayFor net = net.network ||| 1#32 := add_eq_or_of_and_eq_zero _ _ hdisjoint
  rw [hor, and_or_distrib_right, Ipv4Network.network_and_mask, hone, BitVec.or_zero]

end Wardnet.Net
