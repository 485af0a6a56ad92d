import Mathlib.Algebra.Group.Nat.Defs

/-!
# Addresses

IPv4 and IPv6 addresses as the words the standard library stores, the
classification of non-public addresses that DNS rebinding protection uses, and
the subnet arithmetic behind a zone's DHCP pool.
-/

namespace Wardnet.Net

abbrev Ipv4Addr := BitVec 32

abbrev Ipv6Addr := BitVec 128

inductive IpAddr
  | v4 (addr : Ipv4Addr)
  | v6 (addr : Ipv6Addr)
  deriving DecidableEq

/-- `Ipv4Addr::new`. -/
def ipv4 (a b c d : ℕ) : Ipv4Addr := BitVec.ofNat 32 (((a * 256 + b) * 256 + c) * 256 + d)

/-- The dotted form of an address. -/
def display (addr : Ipv4Addr) : String :=
  let octet (shift : ℕ) := toString (addr.toNat / 2 ^ shift % 256)
  ".".intercalate [octet 24, octet 16, octet 8, octet 0]

/-- The network mask of the given length. -/
def maskOf (length : ℕ) : Ipv4Addr := BitVec.allOnes 32 <<< (32 - length)

/-- `addr` lies in the block `base/length`. -/
def inBlock (addr base : Ipv4Addr) (length : ℕ) : Bool := addr &&& maskOf length == base

/-- `Ipv4Addr::is_private`: the RFC 1918 blocks. -/
def isPrivate (addr : Ipv4Addr) : Bool :=
  inBlock addr (ipv4 10 0 0 0) 8 || inBlock addr (ipv4 172 16 0 0) 12 ||
    inBlock addr (ipv4 192 168 0 0) 16

def isDocumentation (addr : Ipv4Addr) : Bool :=
  inBlock addr (ipv4 192 0 2 0) 24 || inBlock addr (ipv4 198 51 100 0) 24 ||
    inBlock addr (ipv4 203 0 113 0) 24

/-- `is_reserved_ipv4`: private, loopback, link-local, broadcast,
documentation, unspecified, or shared address space. -/
def isReservedIpv4 (addr : Ipv4Addr) : Bool :=
  isPrivate addr || inBlock addr (ipv4 127 0 0 0) 8 ||
    inBlock addr (ipv4 169 254 0 0) 16 ||
    addr == ipv4 255 255 255 255 || isDocumentation addr ||
    addr == ipv4 0 0 0 0 || inBlock addr (ipv4 100 64 0 0) 10

/-- `Ipv6Addr::to_ipv4_mapped`: the embedded address of `::ffff:0:0/96`. -/
def toIpv4Mapped (addr : Ipv6Addr) : Option Ipv4Addr :=
  if addr.extractLsb' 32 96 = BitVec.ofNat 96 0xffff then some (addr.extractLsb' 0 32)
  else none

def isPrivateIp : IpAddr → Bool
  | .v4 addr => isReservedIpv4 addr
  | .v6 addr =>
    match toIpv4Mapped addr with
    | some mapped => isReservedIpv4 mapped
    | none =>
      addr == 1#128 || addr == 0#128 ||
        addr.extractLsb' 121 7 == 0b1111110#7 ||
        addr.extractLsb' 118 10 == 0b1111111010#10

/-- An IPv4 network as its parser accepts it: any host address with a mask
length of at most 32. -/
structure Ipv4Network where
  addr : Ipv4Addr
  length : ℕ
  length_le : length ≤ 32
  deriving DecidableEq

namespace Ipv4Network

def slash24 (addr : Ipv4Addr) : Ipv4Network := ⟨addr, 24, by decide⟩

def mask (net : Ipv4Network) : Ipv4Addr := maskOf net.length

def network (net : Ipv4Network) : Ipv4Addr := net.addr &&& net.mask

def broadcast (net : Ipv4Network) : Ipv4Addr := net.addr ||| ~~~ net.mask

def contains (net : Ipv4Network) (addr : Ipv4Addr) : Bool := inBlock addr net.network net.length

end Ipv4Network

structure Ipv6Network where
  addr : Ipv6Addr
  length : ℕ
  length_le : length ≤ 128
  deriving DecidableEq

def Ipv6Network.contains (net : Ipv6Network) (addr : Ipv6Addr) : Bool :=
  let mask := BitVec.allOnes 128 <<< (128 - net.length)
  addr &&& mask == net.addr &&& mask

inductive IpNetwork
  | v4 (net : Ipv4Network)
  | v6 (net : Ipv6Network)
  deriving DecidableEq

/-- `IpNetwork::contains`: never across address families. -/
def IpNetwork.contains : IpNetwork → IpAddr → Bool
  | .v4 net, .v4 addr => net.contains addr
  | .v6 net, .v6 addr => net.contains addr
  | _, _ => false

/-- `IpNetwork::from`: the network of a single address. -/
def IpNetwork.ofAddr : IpAddr → IpNetwork
  | .v4 addr => .v4 ⟨addr, 32, Nat.le_refl _⟩
  | .v6 addr => .v6 ⟨addr, 128, Nat.le_refl _⟩

/-- `gateway_for`: the first host of a subnet. -/
def gatewayFor (net : Ipv4Network) : Ipv4Addr := net.network + 1

/-- `pool_bounds`: from `network + 10` to `broadcast - 6`, or `none` when the
subnet is too small. -/
def poolBounds (net : Ipv4Network) : Option (Ipv4Addr × Ipv4Addr) :=
  let start := net.network + 10
  let stop := BitVec.ofNat 32 (net.broadcast.toNat - 6)
  if stop ≤ start then none else some (start, stop)

end Wardnet.Net
