import Mathlib.Data.List.Dedup
import Mathlib.Data.List.Sort
import Wardnet.Core.Transition
import Wardnet.Zone.Catalog

/-!
# The isolation chain

`reconcile_isolation` derives cross-subnet denies, exception allows and member
denies from the catalog, and the firewall renders them into one chain in which
the first matching rule decides.  The allows match exactly the packets that an
exception covers; what is left is decided by how the subnets of the zones lie
to each other.
-/

namespace Wardnet.Zone

open List Net Transition

/-! ## Desired rules -/

/-- One `ACCEPT` of an exception: addresses, protocol and a port range. -/
structure ExceptionAllow where
  fromCidr : Ipv4Network
  toCidr : Ipv4Network
  proto : Proto
  portStart : UInt16
  portEnd : UInt16
  bidirectional : Bool
  deriving DecidableEq

structure ZoneIsolationRules where
  allows : List ExceptionAllow
  denyPairs : List (Ipv4Network × Ipv4Network)
  memberIsolationSubnets : List Ipv4Network
  natExemptPairs : List (Ipv4Network × Ipv4Network)
  deriving DecidableEq

/-- The rules while another server hands out the addresses. -/
def ZoneIsolationRules.empty : ZoneIsolationRules := ⟨[], [], [], []⟩

def NetworkZone.effective (zone : NetworkZone) (base : Ipv4Network) : Ipv4Network :=
  zone.subnet.getD base

def host (addr : Ipv4Addr) : Ipv4Network := ⟨addr, 32, le_rfl⟩

def resolveEndpointCidr (db : Database) (base : Ipv4Network) :
    ExceptionEndpoint → Option Ipv4Network
  | .device id => (db.findDevice id).bind fun device => device.lastIp.map host
  | .zone id => (db.findZone id).map fun zone => zone.subnet.getD base.canonical

/-- The allows of one exception; none when an endpoint has no address. -/
def allowsOf (db : Database) (base : Ipv4Network)
    (exception : ZoneException) : List ExceptionAllow :=
  match resolveEndpointCidr db base exception.fromEnd,
    resolveEndpointCidr db base exception.toEnd with
  | some fromCidr, some toCidr =>
    exception.service.resolvePorts.map fun port =>
      { fromCidr := fromCidr
        toCidr := toCidr
        proto := port.proto
        portStart := port.fromPort
        portEnd := port.toPort
        bidirectional := exception.bidirectional }
  | _, _ => []

/-- The distinct subnets: the base and that of each zone. -/
def allSubnets (base : Ipv4Network) (zones : List NetworkZone) : List Ipv4Network :=
  (base.canonical :: (zones.filterMap NetworkZone.subnet).map Ipv4Network.canonical).dedup

def denyPairs (subnets : List Ipv4Network) : List (Ipv4Network × Ipv4Network) :=
  subnets.flatMap fun left =>
    (subnets.filter fun right => left ≠ right).map fun right => (left, right)

def memberIsolationSubnets (zones : List NetworkZone) : List Ipv4Network :=
  ((zones.filter NetworkZone.memberIsolation).filterMap
    NetworkZone.subnet).map Ipv4Network.canonical

def lexLe : List ℕ → List ℕ → Bool
  | [], _ => true
  | _ :: _, [] => false
  | left :: lefts, right :: rights => left < right || left == right && lexLe lefts rights

/-- `Vec::sort`, by a key that determines the value. -/
def sortBy {Value : Type} (key : Value → List ℕ) (values : List Value) : List Value :=
  values.insertionSort fun left right => lexLe (key left) (key right) = true

def networkKey (net : Ipv4Network) : List ℕ := [net.addr.toNat, net.length]

def pairKey (pair : Ipv4Network × Ipv4Network) : List ℕ := networkKey pair.1 ++ networkKey pair.2

def Proto.code : Proto → ℕ
  | .tcp => 0
  | .udp => 1

def allowKey (allow : ExceptionAllow) : List ℕ :=
  networkKey allow.fromCidr ++ networkKey allow.toCidr ++
    [allow.proto.code, allow.portStart.toNat, allow.portEnd.toNat, allow.bidirectional.toNat]

/-- The rules `reconcile_isolation` wants, with DHCP in the daemon's hands. -/
def desiredRules (base : Ipv4Network) (db : Database) : ZoneIsolationRules :=
  let allows := db.exceptions.flatMap (allowsOf db base)
  { allows := sortBy allowKey allows
    denyPairs := sortBy pairKey (denyPairs (allSubnets base db.zones))
    memberIsolationSubnets := sortBy networkKey (Zone.memberIsolationSubnets db.zones)
    natExemptPairs := sortBy pairKey
      (allows.map fun allow => (allow.fromCidr, allow.toCidr)).dedup }

/-! ## The chain -/

structure Packet where
  src : Ipv4Addr
  dst : Ipv4Addr
  /-- `none` for a protocol without ports. -/
  proto : Option Proto
  dport : UInt16
  /-- Conntrack state `established` or `related`. -/
  established : Bool
  deriving DecidableEq

inductive FirewallRule
  | established
  | allow (source dest : Ipv4Network) (proto : Proto) (portStart portEnd : UInt16)
  | crossDeny (source dest : Ipv4Network)
  | memberDeny (net : Ipv4Network)
  deriving DecidableEq

inductive Verdict
  | accept
  | drop
  deriving DecidableEq

def FirewallRule.verdict : FirewallRule → Verdict
  | .established | .allow .. => .accept
  | .crossDeny .. | .memberDeny _ => .drop

def FirewallRule.matches (packet : Packet) : FirewallRule → Bool
  | .established => packet.established
  | .allow source dest proto portStart portEnd =>
    source.contains packet.src && dest.contains packet.dst && packet.proto == some proto &&
      decide (portStart ≤ packet.dport ∧ packet.dport ≤ portEnd)
  | .crossDeny source dest => source.contains packet.src && dest.contains packet.dst
  | .memberDeny net => net.contains packet.src && net.contains packet.dst

/-- The rules of one allow: the reverse direction follows when it counts. -/
def allowRules (allow : ExceptionAllow) : List FirewallRule :=
  .allow allow.fromCidr allow.toCidr allow.proto allow.portStart allow.portEnd ::
    if allow.bidirectional then
      [.allow allow.toCidr allow.fromCidr allow.proto allow.portStart allow.portEnd]
    else []

def buildChain (rules : ZoneIsolationRules) : List FirewallRule :=
  .established :: rules.allows.flatMap allowRules ++
    rules.denyPairs.map (fun pair => .crossDeny pair.1 pair.2) ++
    rules.memberIsolationSubnets.map .memberDeny

/-- The rule that decides a packet; a packet no rule matches goes on to the
rest of the forward chain. -/
def deciding (chain : List FirewallRule) (packet : Packet) : Option FirewallRule :=
  chain.find? (FirewallRule.matches packet)

/-! ## What the chain is for -/

/-- The address belongs to the endpoint of an exception. -/
def InEndpoint (db : Database) (base : Ipv4Network) (addr : Ipv4Addr) : ExceptionEndpoint → Prop
  | .device id => ∃ device, db.findDevice id = some device ∧ device.lastIp = some addr
  | .zone id => ∃ zone, db.findZone id = some zone ∧ (zone.effective base).contains addr = true

def PortSpec.Covers (port : PortSpec) (packet : Packet) : Prop :=
  packet.proto = some port.proto ∧ port.fromPort ≤ packet.dport ∧ packet.dport ≤ port.toPort

/-- The endpoints, direction and ports of the exception cover the packet. -/
def Covered (db : Database) (base : Ipv4Network) (packet : Packet)
    (exception : ZoneException) : Prop :=
  ((InEndpoint db base packet.src exception.fromEnd ∧
      InEndpoint db base packet.dst exception.toEnd) ∨ exception.bidirectional = true ∧
      InEndpoint db base packet.src exception.toEnd ∧
      InEndpoint db base packet.dst exception.fromEnd) ∧
    ∃ port ∈ exception.service.resolvePorts, port.Covers packet

/-- The device is a member of the zone and has an address in its subnet. -/
@[mk_iff]
structure Member (db : Database) (base : Ipv4Network) (zone : NetworkZone)
    (addr : Ipv4Addr) : Prop where
  zone_mem : zone ∈ db.zones
  device : ∃ device ∈ db.devices, device.zoneId = zone.id ∧ device.lastIp = some addr
  inside : (zone.effective base).contains addr = true

instance (db : Database) (base : Ipv4Network) (zone : NetworkZone)
    (addr : Ipv4Addr) : Decidable (Member db base zone addr) :=
  decidable_of_iff' _ (member_iff ..)

/-- Cross-zone traffic is denied unless an exception covers it, and traffic
inside a zone whose members are not isolated is not taken for cross-zone
traffic.  Two zones without a subnet of their own are one subnet. -/
structure Isolates (base : Ipv4Network) (db : Database) : Prop where
  denied : ∀ left right packet, left.id ≠ right.id → (left.subnet ≠ none ∨ right.subnet ≠ none) →
    Member db base left packet.src → Member db base right packet.dst →
    packet.established = false →
    (∀ exception ∈ db.exceptions, ¬ Covered db base packet exception) →
    (deciding (buildChain (desiredRules base db)) packet).map FirewallRule.verdict = some .drop
  undisturbed : ∀ zone packet, zone.memberIsolation = false →
    Member db base zone packet.src → Member db base zone packet.dst →
    ∀ source dest, deciding (buildChain (desiredRules base db)) packet ≠
      some (.crossDeny source dest)

/-- The subnet of a zone whose members are not isolated overlaps no other
subnet, and two zones that share a subnet of their own have it among the
member-isolated ones. -/
structure Separated (base : Ipv4Network) (zones : List NetworkZone) : Prop where
  apart : ∀ zone ∈ zones, zone.memberIsolation = false →
    ∀ net ∈ allSubnets base zones, net.overlaps (zone.effective base) = true →
      net = (zone.effective base).canonical
  shared : ∀ left ∈ zones, ∀ right ∈ zones, left.id ≠ right.id →
    (left.subnet ≠ none ∨ right.subnet ≠ none) →
    (left.effective base).canonical = (right.effective base).canonical →
    (left.effective base).canonical ∈ memberIsolationSubnets zones

/-! ## Which rules match -/

variable {base : Ipv4Network} {db : Database} {packet : Packet} {zones : List NetworkZone}

theorem mem_sortBy {Value : Type} {key : Value → List ℕ}
    {values : List Value} {value : Value} : value ∈ sortBy key values ↔ value ∈ values :=
  (perm_insertionSort _ values).mem_iff

variable {addr : Ipv4Addr}

theorem contains_host {other : Ipv4Addr} : (host addr).contains other = true ↔ addr = other := by
  have hmask : (host addr).mask = BitVec.allOnes 32 := by simp [host, Ipv4Network.mask, maskOf]
  rw [Ipv4Network.contains_iff, Ipv4Network.network, hmask, BitVec.and_allOnes, BitVec.and_allOnes]
  exact eq_comm

theorem inEndpoint_iff {endpoint : ExceptionEndpoint} :
    InEndpoint db base addr endpoint ↔ ∃ net, resolveEndpointCidr db base endpoint = some net ∧
        net.contains addr = true := by
  cases endpoint with
  | device id =>
    simp only [InEndpoint, resolveEndpointCidr, Option.bind_eq_some_iff, Option.map_eq_some_iff]
    constructor
    · rintro ⟨device, hdevice, hip⟩
      exact ⟨_, ⟨device, hdevice, addr, hip, rfl⟩, contains_host.mpr rfl⟩
    · rintro ⟨_, ⟨device, hdevice, ip, hip, rfl⟩, hcontains⟩
      exact ⟨device, hdevice, contains_host.mp hcontains ▸ hip⟩
  | zone id =>
    simp only [InEndpoint, resolveEndpointCidr, Option.map_eq_some_iff]
    have hnet : ∀ zone : NetworkZone, (zone.subnet.getD base.canonical).contains addr =
          (zone.effective base).contains addr := by
      intro zone
      cases hsubnet : zone.subnet <;> simp [NetworkZone.effective, hsubnet]
    constructor
    · rintro ⟨zone, hzone, hcontains⟩
      exact ⟨_, ⟨zone, hzone, rfl⟩, (hnet zone).trans hcontains⟩
    · rintro ⟨_, ⟨zone, hzone, rfl⟩, hcontains⟩
      exact ⟨zone, hzone, (hnet zone).symm.trans hcontains⟩

theorem allowRules_match (allow : ExceptionAllow) :
    (∃ rule ∈ allowRules allow, rule.matches packet = true) ↔
      ((allow.fromCidr.contains packet.src = true ∧ allow.toCidr.contains packet.dst = true) ∨
        allow.bidirectional = true ∧ allow.toCidr.contains packet.src = true ∧
          allow.fromCidr.contains packet.dst = true) ∧ packet.proto = some allow.proto ∧
        allow.portStart ≤ packet.dport ∧ packet.dport ≤ allow.portEnd := by
  cases hdirection : allow.bidirectional <;>
    simp only [allowRules, hdirection, FirewallRule.matches, if_true,
      Bool.false_eq_true, if_false, mem_cons, not_mem_nil, or_false,
      exists_eq_or_imp, exists_eq_left, Bool.and_eq_true, beq_iff_eq,
      decide_eq_true_eq, false_and, true_and, and_assoc]
  tauto

theorem allowsOf_match (exception : ZoneException) :
    (∃ allow ∈ allowsOf db base exception, ∃ rule ∈ allowRules allow,
      rule.matches packet = true) ↔ Covered db base packet exception := by
  simp only [allowRules_match, Covered, inEndpoint_iff]
  cases hfrom : resolveEndpointCidr db base exception.fromEnd with
  | none => simp [allowsOf, hfrom]
  | some fromCidr =>
    cases hto : resolveEndpointCidr db base exception.toEnd with
    | none => simp [allowsOf, hfrom, hto]
    | some toCidr =>
      simp only [allowsOf, hfrom, hto, mem_map, exists_exists_and_eq_and,
        Option.some.injEq, exists_eq_left', PortSpec.Covers]
      constructor
      · rintro ⟨port, hport, hdirection, hcovers⟩
        exact ⟨hdirection, port, hport, hcovers⟩
      · rintro ⟨hdirection, port, hport, hcovers⟩
        exact ⟨port, hport, hdirection, hcovers⟩

theorem mem_denyPairs {subnets : List Ipv4Network} {pair : Ipv4Network × Ipv4Network} :
    pair ∈ denyPairs subnets ↔ pair.1 ∈ subnets ∧ pair.2 ∈ subnets ∧ pair.1 ≠ pair.2 := by
  obtain ⟨left, right⟩ := pair
  simp only [denyPairs, mem_flatMap, mem_map, mem_filter, decide_eq_true_eq, Prod.mk.injEq]
  constructor
  · rintro ⟨source, hsource, dest, ⟨hdest, hne⟩, rfl, rfl⟩
    exact ⟨hsource, hdest, hne⟩
  · rintro ⟨hleft, hright, hne⟩
    exact ⟨left, hleft, right, ⟨hright, hne⟩, rfl, rfl⟩

/-- A cross-subnet deny matches: the addresses lie in distinct subnets. -/
def Crosses (base : Ipv4Network) (zones : List NetworkZone) (packet : Packet) : Prop :=
  ∃ source ∈ allSubnets base zones, ∃ dest ∈ allSubnets base zones,
    source ≠ dest ∧ source.contains packet.src = true ∧ dest.contains packet.dst = true

def MembersApart (zones : List NetworkZone) (packet : Packet) : Prop :=
  ∃ net ∈ memberIsolationSubnets zones, net.contains packet.src = true ∧
    net.contains packet.dst = true

theorem crossDeny_matches_iff : (∃ rule ∈ (desiredRules base db).denyPairs.map
        (fun pair => FirewallRule.crossDeny pair.1 pair.2),
      rule.matches packet = true) ↔ Crosses base db.zones packet := by
  simp only [mem_map, exists_exists_and_eq_and, desiredRules, mem_sortBy, mem_denyPairs,
    FirewallRule.matches, Bool.and_eq_true, Crosses]
  constructor
  · rintro ⟨pair, ⟨hsource, hdest, hne⟩, hcontains⟩
    exact ⟨pair.1, hsource, pair.2, hdest, hne, hcontains⟩
  · rintro ⟨source, hsource, dest, hdest, hne, hcontains⟩
    exact ⟨(source, dest), ⟨hsource, hdest, hne⟩, hcontains⟩

theorem memberDeny_matches_iff : (∃ rule ∈ (desiredRules base db).memberIsolationSubnets.map
        FirewallRule.memberDeny, rule.matches packet = true) ↔ MembersApart db.zones packet := by
  simp only [mem_map, exists_exists_and_eq_and, desiredRules, mem_sortBy,
    FirewallRule.matches, Bool.and_eq_true, MembersApart]

/-! ## Which rule decides -/

/-- The chain in its three parts, for a packet that opens a connection. -/
theorem deciding_buildChain (rules : ZoneIsolationRules) (hopens : packet.established = false) :
    deciding (buildChain rules) packet = ((rules.allows.flatMap allowRules).find?
        (FirewallRule.matches packet)).or (((rules.denyPairs.map fun pair =>
          FirewallRule.crossDeny pair.1 pair.2).find? (FirewallRule.matches packet)).or
      ((rules.memberIsolationSubnets.map FirewallRule.memberDeny).find?
        (FirewallRule.matches packet))) := by
  simp [deciding, buildChain, FirewallRule.matches, hopens, find?_append]

theorem verdict_drop {Value : Type} {values : List Value}
    {deny : Value → FirewallRule} {rule : FirewallRule}
    (hdeny : ∀ value, (deny value).verdict = .drop)
    (hfind : (values.map deny).find? (FirewallRule.matches packet) =
      some rule) : rule.verdict = .drop := by
  obtain ⟨value, -, rfl⟩ := mem_map.mp (mem_of_find?_eq_some hfind)
  exact hdeny value

/-- A packet that opens a connection and that no exception covers is dropped
exactly when a deny matches. -/
theorem dropped_iff (hopens : packet.established = false)
    (huncovered : ∀ exception ∈ db.exceptions, ¬ Covered db base packet exception) :
    (deciding (buildChain (desiredRules base db)) packet).map FirewallRule.verdict = some .drop ↔
      Crosses base db.zones packet ∨ MembersApart db.zones packet := by
  have hallows : ((desiredRules base db).allows.flatMap allowRules).find?
      (FirewallRule.matches packet) = none := by
    rw [← Option.not_isSome_iff_eq_none, find?_isSome]
    rintro ⟨rule, hrule, hmatches⟩
    simp only [desiredRules, mem_flatMap, mem_sortBy] at hrule
    obtain ⟨allow, ⟨exception, hexception, hallow⟩, hrule⟩ := hrule
    exact huncovered exception hexception
      ((allowsOf_match exception).mp ⟨allow, hallow, rule, hrule, hmatches⟩)
  rw [deciding_buildChain _ hopens, hallows, Option.none_or,
    ← crossDeny_matches_iff, ← memberDeny_matches_iff, ← find?_isSome, ← find?_isSome]
  cases hcross : ((desiredRules base db).denyPairs.map fun pair =>
      FirewallRule.crossDeny pair.1 pair.2).find? (FirewallRule.matches packet) with
  | some rule =>
    have hrule : rule.verdict = .drop := verdict_drop (fun _ => rfl) hcross
    simp [hrule]
  | none =>
    cases hmember : ((desiredRules base db).memberIsolationSubnets.map
        FirewallRule.memberDeny).find? (FirewallRule.matches packet) with
    | none => simp
    | some rule =>
      have hrule : rule.verdict = .drop := verdict_drop (fun _ => rfl) hmember
      simp [hrule]

theorem crosses_of_deciding {source dest : Ipv4Network}
    (hdecides : deciding (buildChain (desiredRules base db)) packet =
      some (.crossDeny source dest)) : Crosses base db.zones packet := by
  have hmem := mem_of_find?_eq_some hdecides
  have hmatches := find?_some hdecides
  rw [← crossDeny_matches_iff]
  refine ⟨_, ?_, hmatches⟩
  simp only [buildChain, mem_append, mem_cons, reduceCtorEq,
    mem_map, mem_flatMap, false_or, or_false, and_false, exists_false] at hmem
  rcases hmem with ⟨allow, -, hrule⟩ | hmem
  · cases hdirection : allow.bidirectional <;> simp [allowRules, hdirection] at hrule
  · exact mem_map.mpr hmem

/-- Without exceptions a deny that matches is the one that decides. -/
theorem deciding_crossDeny (hexceptions : db.exceptions = []) (hopens : packet.established = false)
    (hcrosses : Crosses base db.zones packet) :
    ∃ source dest, deciding (buildChain (desiredRules base db)) packet =
      some (.crossDeny source dest) := by
  have hallows : (desiredRules base db).allows = [] := by simp [desiredRules, hexceptions, sortBy]
  rw [← crossDeny_matches_iff, ← find?_isSome, Option.isSome_iff_exists] at hcrosses
  obtain ⟨rule, hrule⟩ := hcrosses
  obtain ⟨pair, -, rfl⟩ := mem_map.mp (mem_of_find?_eq_some hrule)
  refine ⟨pair.1, pair.2, ?_⟩
  rw [deciding_buildChain _ hopens, hallows, hrule]
  rfl

/-! ## The verdict on a packet -/

/-- A packet of an open connection, or one that an exception covers. -/
def Admitted (base : Ipv4Network) (db : Database) (packet : Packet) : Prop :=
  packet.established = true ∨ ∃ exception ∈ db.exceptions, Covered db base packet exception

def accepting (rules : ZoneIsolationRules) : List FirewallRule :=
  .established :: rules.allows.flatMap allowRules

def denying (rules : ZoneIsolationRules) : List FirewallRule :=
  rules.denyPairs.map (fun pair => .crossDeny pair.1 pair.2) ++
    rules.memberIsolationSubnets.map .memberDeny

theorem deciding_eq_or (rules : ZoneIsolationRules) : deciding (buildChain rules) packet =
    (deciding (accepting rules) packet).or (deciding (denying rules) packet) := by
  rw [deciding, buildChain, append_assoc, find?_append]
  rfl

section Verdict

variable {rules : ZoneIsolationRules} {rule : FirewallRule}

theorem verdict_accepting (hrule : rule ∈ accepting rules) : rule.verdict = .accept := by
  rcases mem_cons.mp hrule with rfl | hrule
  · rfl
  · obtain ⟨allow, -, hrule⟩ := mem_flatMap.mp hrule
    cases hdirection : allow.bidirectional <;> simp [allowRules, hdirection] at hrule
    · rw [hrule]
      rfl
    · rcases hrule with rfl | rfl <;> rfl

theorem verdict_denying (hrule : rule ∈ denying rules) : rule.verdict = .drop := by
  rcases mem_append.mp hrule with hrule | hrule <;> obtain ⟨_, -, rfl⟩ := mem_map.mp hrule <;> rfl

end Verdict

theorem admitted_iff_accepting : Admitted base db packet ↔
    (deciding (accepting (desiredRules base db)) packet).isSome := by
  simp only [Admitted, ← allowsOf_match, deciding, find?_isSome, accepting, mem_cons, mem_flatMap,
    desiredRules, mem_sortBy]
  constructor
  · rintro (hopen | ⟨exception, hexception, allow, hallow, rule, hrule, hmatches⟩)
    · exact ⟨.established, .inl rfl, hopen⟩
    · exact ⟨rule, .inr ⟨allow, ⟨exception, hexception, hallow⟩, hrule⟩, hmatches⟩
  · rintro ⟨rule, rfl | ⟨allow, ⟨exception, hexception, hallow⟩, hrule⟩, hmatches⟩
    · exact .inl hmatches
    · exact .inr ⟨exception, hexception, allow, hallow, rule, hrule, hmatches⟩

theorem denying_isSome_iff : (deciding (denying (desiredRules base db)) packet).isSome ↔
    Crosses base db.zones packet ∨ MembersApart db.zones packet := by
  rw [deciding, denying, find?_isSome, ← crossDeny_matches_iff, ← @memberDeny_matches_iff base]
  simp only [mem_append, or_and_right, exists_or]

/-- The chain lets the admitted packets through, drops of the others those that
cross subnets or stay between isolated members, and leaves the rest to the
forward chain. -/
theorem chain_enforces_policy (base : Ipv4Network) (db : Database) (packet : Packet) :
    let verdict := (deciding (buildChain (desiredRules base db)) packet).map FirewallRule.verdict
    (verdict = some .accept ↔ Admitted base db packet) ∧
      (verdict = some .drop ↔ ¬ Admitted base db packet ∧
        (Crosses base db.zones packet ∨ MembersApart db.zones packet)) := by
  simp only [admitted_iff_accepting, ← denying_isSome_iff, deciding_eq_or]
  cases haccepts : deciding (accepting (desiredRules base db)) packet with
  | some rule => simp [verdict_accepting (mem_of_find?_eq_some haccepts)]
  | none =>
    cases hdenies : deciding (denying (desiredRules base db)) packet with
    | some rule => simp [verdict_denying (mem_of_find?_eq_some hdenies)]
    | none => simp

/-! ## Isolation and the layout of the subnets -/

variable {zone : NetworkZone}

theorem effective_mem_allSubnets (hzone : zone ∈ zones) :
    (zone.effective base).canonical ∈ allSubnets base zones := by
  unfold allSubnets NetworkZone.effective
  rw [mem_dedup]
  cases hsubnet : zone.subnet with
  | none => exact mem_cons_self ..
  | some net =>
    apply mem_cons_of_mem
    exact mem_map_of_mem (mem_filterMap.mpr ⟨zone, hzone, hsubnet⟩)

theorem effective_mem_memberIsolationSubnets (hzone : zone ∈ zones)
    (hflag : zone.memberIsolation = true) (hown : zone.subnet ≠ none) :
    (zone.effective base).canonical ∈ memberIsolationSubnets zones := by
  obtain ⟨net, hnet⟩ := Option.ne_none_iff_exists'.mp hown
  have heffective : zone.effective base = net := by simp [NetworkZone.effective, hnet]
  rw [heffective]
  apply mem_map_of_mem
  exact mem_filterMap.mpr ⟨zone, mem_filter.mpr ⟨hzone, hflag⟩, hnet⟩

theorem Member.mem (hmember : Member db base zone addr) :
    (zone.effective base).canonical ∈ allSubnets base db.zones :=
  effective_mem_allSubnets hmember.zone_mem

/-- The catalog with two devices and no exceptions. -/
def twoDevices (zones : List NetworkZone) (left right : NetworkZone)
    (src dst : Ipv4Addr) : Database where
  zones := zones
  exceptions := []
  devices := [⟨0, left.id, some src, none⟩, ⟨1, right.id, some dst, none⟩]
  defaultPolicy := none

def openingPacket (src dst : Ipv4Addr) : Packet where
  src := src
  dst := dst
  proto := some .tcp
  dport := 80
  established := false

theorem separated_of_isolates (hisolates : ∀ db : Database, db.zones = zones → db.exceptions = [] →
      Isolates base db) : Separated base zones := by
  have hapart : ∀ zone ∈ zones, zone.memberIsolation = false → ∀ net ∈ allSubnets base zones,
        net.overlaps (zone.effective base) = true →
        net = (zone.effective base).canonical := by
    intro zone hzone hopen net hnet hoverlaps
    by_contra hne
    obtain ⟨addr, hin, hinside⟩ := Ipv4Network.overlaps_iff.mp hoverlaps
    let db := twoDevices zones zone zone addr addr
    have hmember : Member db base zone addr :=
      ⟨hzone, ⟨⟨0, zone.id, some addr, none⟩, by simp [db, twoDevices], rfl, rfl⟩, hinside⟩
    have hcrosses : Crosses base db.zones (openingPacket addr addr) :=
      ⟨net, hnet, _, effective_mem_allSubnets hzone, hne, hin,
        Ipv4Network.contains_canonical.trans hinside⟩
    obtain ⟨source, dest, hdecides⟩ := deciding_crossDeny rfl rfl hcrosses
    exact (hisolates db rfl rfl).undisturbed zone (openingPacket addr addr)
      hopen hmember hmember source dest hdecides
  refine ⟨hapart, ?_⟩
  intro left hleft right hright hne hsubnet hsame
  by_cases hopen : ∃ zone ∈ zones, zone.memberIsolation = false ∧
      (zone.effective base).canonical = (left.effective base).canonical
  · obtain ⟨zone, hzone, hflag, hzoneSame⟩ := hopen
    let addr := (left.effective base).network
    let db := twoDevices zones left right addr addr
    have hinside : ∀ zone : NetworkZone, (zone.effective base).canonical =
        (left.effective base).canonical → (zone.effective base).contains addr = true := by
      intro zone hzoneSame
      rw [← Ipv4Network.contains_canonical, hzoneSame, Ipv4Network.contains_canonical]
      exact Ipv4Network.contains_network
    have hleftMember : Member db base left addr :=
      ⟨hleft, ⟨⟨0, left.id, some addr, none⟩, by simp [db, twoDevices], rfl, rfl⟩, hinside left rfl⟩
    have hrightMember : Member db base right addr :=
      ⟨hright, ⟨⟨1, right.id, some addr, none⟩, by simp [db, twoDevices], rfl, rfl⟩,
        hinside right hsame.symm⟩
    have honly : ∀ net ∈ allSubnets base zones, net.contains addr = true →
        net = (left.effective base).canonical := by
      intro net hnet hcontains
      have hnetSame := hapart zone hzone hflag net hnet
        (Ipv4Network.overlaps_iff.mpr ⟨addr, hcontains, hinside zone hzoneSame⟩)
      exact hnetSame.trans hzoneSame
    have hdropped := (hisolates db rfl rfl).denied left right
      (openingPacket addr addr) hne hsubnet hleftMember hrightMember rfl
      (by simp [db, twoDevices])
    rw [dropped_iff rfl (by simp [db, twoDevices])] at hdropped
    rcases hdropped with
      ⟨source, hsource, dest, hdest, hdistinct, hsrc, hdst⟩ |
      ⟨net, hnet, hcontains, -⟩
    · exact absurd ((honly source hsource hsrc).trans (honly dest hdest hdst).symm) hdistinct
    · obtain ⟨own, hown, rfl⟩ := mem_map.mp hnet
      obtain ⟨zone, hzone, hsubnet⟩ := mem_filterMap.mp hown
      have heffective : zone.effective base = own := by simp [NetworkZone.effective, hsubnet]
      have hmem : own.canonical ∈ allSubnets base zones :=
        heffective ▸ effective_mem_allSubnets (mem_filter.mp hzone).1
      exact honly _ hmem hcontains ▸ hnet
  · have hflag : ∀ zone ∈ zones, (zone.effective base).canonical =
        (left.effective base).canonical → zone.memberIsolation = true := by
      intro zone hzone hzoneSame
      by_contra hclear
      exact hopen ⟨zone, hzone, by simpa using hclear, hzoneSame⟩
    rcases hsubnet with hown | hown
    · exact effective_mem_memberIsolationSubnets hleft (hflag left hleft rfl) hown
    · rw [hsame]
      exact effective_mem_memberIsolationSubnets hright (hflag right hright hsame.symm) hown

/-- The exception service has accepted the exception at some time. -/
def Accepted (exception : ZoneException) : Prop :=
  ∃ db, validateException db exception.fromEnd exception.toEnd exception.service = .ok ()

/-- A catalog isolates its zones, whatever devices and accepted exceptions
there are, exactly when its subnets are separated. -/
theorem isolates_iff_separated (base : Ipv4Network) (zones : List NetworkZone) :
    (∀ db : Database, db.zones = zones → (∀ exception ∈ db.exceptions, Accepted exception) →
      Isolates base db) ↔ Separated base zones := by
  constructor
  · intro hisolates
    apply separated_of_isolates
    intro db hzones hexceptions
    exact hisolates db hzones (by simp [hexceptions])
  · intro hseparated db hzones _
    rw [← hzones] at hseparated
    constructor
    · intro left right packet hne hsubnet hleft hright hopens huncovered
      rw [dropped_iff hopens huncovered]
      have hsrc := Ipv4Network.contains_canonical.trans hleft.inside
      have hdst := Ipv4Network.contains_canonical.trans hright.inside
      by_cases hsame : (left.effective base).canonical = (right.effective base).canonical
      · have hmember :=
          hseparated.shared left hleft.zone_mem right hright.zone_mem hne hsubnet hsame
        exact .inr ⟨_, hmember, hsrc, hsame ▸ hdst⟩
      · exact .inl ⟨_, hleft.mem, _, hright.mem, hsame, hsrc, hdst⟩
    · intro zone packet hopen hsrc hdst source dest hdecides
      obtain ⟨left, hleft, right, hright, hne, hleftSrc, hrightDst⟩ := crosses_of_deciding hdecides
      have hleftSame := hseparated.apart zone hsrc.zone_mem hopen left hleft
        (Ipv4Network.overlaps_iff.mpr ⟨_, hleftSrc, hsrc.inside⟩)
      have hrightSame := hseparated.apart zone hsrc.zone_mem hopen right hright
        (Ipv4Network.overlaps_iff.mpr ⟨_, hrightDst, hdst.inside⟩)
      exact hne (hleftSame.trans hrightSame.symm)

def lanBase : Ipv4Network := .slash24 (ipv4 192 168 1 1)

/-- A request for a zone with a subnet and no member isolation. -/
def subnetRequest (name : String) (net : Ipv4Network) : CreateNetworkZoneRequest where
  name := name.toList
  isolationStance := .sharedSubnet
  allowedTargets := [.direct, .tunnel]
  memberIsolation := false
  subnet := some net
  adminUiReachable := false

def guests (first second : Ipv4Addr) : List Device :=
  [⟨1, 0x203, some first, none⟩, ⟨2, 0x203, some second, none⟩]

def innerNet : Ipv4Network := .slash24 (ipv4 10 1 0 0)

def outerNet : Ipv4Network := ⟨ipv4 10 1 0 0, 16, by decide⟩

/-- Two zones are created with one subnet, and a device moves into each: no
rule stands between them.  Two zones are created with nested subnets, and two
devices move into the outer one: a cross-subnet rule drops their traffic. -/
theorem overlapping_subnets_not_isolated : (∃ db, run change
        (.seeded (guests (ipv4 10 1 0 20) (ipv4 10 1 0 21)) none)
        [.createZone 10 (subnetRequest "cameras" innerNet),
          .createZone 11 (subnetRequest "printers" innerNet),
          .assignDevice 1 10, .assignDevice 2 11] = some db ∧
      deciding (buildChain (desiredRules lanBase db))
        (openingPacket (ipv4 10 1 0 20) (ipv4 10 1 0 21)) = none ∧ ¬ Isolates lanBase db) ∧
    ∃ db, run change (.seeded (guests (ipv4 10 1 0 20) (ipv4 10 1 3 20)) none)
        [.createZone 10 (subnetRequest "outer" outerNet),
          .createZone 11 (subnetRequest "inner" innerNet),
          .assignDevice 1 10, .assignDevice 2 10] = some db ∧
      deciding (buildChain (desiredRules lanBase db))
        (openingPacket (ipv4 10 1 0 20) (ipv4 10 1 3 20)) = some (.crossDeny innerNet outerNet) ∧
      ¬ Isolates lanBase db := by
  constructor
  · refine ⟨_, rfl, by decide +kernel, fun hisolates => ?_⟩
    have hdropped := hisolates.denied ((subnetRequest "cameras" innerNet).zone 10)
      ((subnetRequest "printers" innerNet).zone 11)
      (openingPacket (ipv4 10 1 0 20) (ipv4 10 1 0 21)) (by decide)
      (by decide) (by decide +kernel) (by decide +kernel) rfl
      (fun _ hmem => by cases hmem)
    revert hdropped
    decide +kernel
  · refine ⟨_, rfl, by decide +kernel, fun hisolates => ?_⟩
    refine hisolates.undisturbed ((subnetRequest "outer" outerNet).zone 10)
      (openingPacket (ipv4 10 1 0 20) (ipv4 10 1 3 20)) rfl
      (by decide +kernel) (by decide +kernel) innerNet outerNet ?_
    decide +kernel

end Wardnet.Zone
