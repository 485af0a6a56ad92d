import Wardnet.Dhcp.Allocation

/-!
# Pools and leases that last

What an accepted change of the base pool lets the service hand out, which
leases it expires, and whether a client that asks again keeps its lease.  The
validity of a lease is judged in two places: against the base pool when that
pool changes, and against the scope of the client's zone when the client asks.
Here every operation runs alone.
-/

namespace Wardnet.Dhcp

open List Net Transition

/-! ## The addresses of an accepted pool -/

theorem inBlock_iff {addr base : Ipv4Addr} {length : ℕ} : inBlock addr base length = true ↔
      addr.toNat / 2 ^ (32 - length) * 2 ^ (32 - length) = base.toNat := by
  have hmask : addr &&& maskOf length = addr >>> (32 - length) <<< (32 - length) :=
    BitVec.shiftLeft_ushiftRight.symm
  have hlt : addr.toNat / 2 ^ (32 - length) * 2 ^ (32 - length) < 2 ^ 32 :=
    Nat.lt_of_le_of_lt (Nat.div_mul_le_self _ _) addr.isLt
  rw [inBlock, beq_iff_eq, hmask, ← BitVec.toNat_inj, BitVec.toNat_shiftLeft,
    BitVec.toNat_ushiftRight, Nat.shiftLeft_eq, Nat.shiftRight_eq_div_pow, Nat.mod_eq_of_lt hlt]

theorem inBlock_of_between {low high addr base : Ipv4Addr} {length : ℕ}
    (hlow : inBlock low base length = true) (hhigh : inBlock high base length = true)
    (hle : low ≤ addr) (hge : addr ≤ high) : inBlock addr base length = true := by
  rw [inBlock_iff] at hlow hhigh ⊢
  have hfirst := Nat.div_le_div_right (c := 2 ^ (32 - length)) hle
  have hlast := Nat.div_le_div_right (c := 2 ^ (32 - length)) hge
  have hsame : low.toNat / 2 ^ (32 - length) = high.toNat / 2 ^ (32 - length) :=
    Nat.eq_of_mul_eq_mul_right (Nat.two_pow_pos _) (hlow.trans hhigh.symm)
  rw [← hlow, Nat.le_antisymm (hlast.trans hsame.ge) hfirst]

theorem firstFree_in_pool {leased reserved : List Ipv4Addr} {poolStart poolEnd ip : Ipv4Addr}
    (hfree : firstFree leased reserved poolStart poolEnd = some ip) :
    ipInPool ip poolStart poolEnd = true := by
  obtain ⟨candidate, hrange, rfl⟩ := mem_map.mp (mem_of_find?_eq_some hfree)
  rw [mem_range'_1] at hrange
  have hlt := poolEnd.isLt
  simp only [ipInPool, BitVec.le_def, BitVec.toNat_ofNat, Bool.decide_and, Bool.and_eq_true,
    decide_eq_true_eq]
  rw [Nat.mod_eq_of_lt (by omega)]
  omega

/-- Every address of a pool is handed out when all the others are leased. -/
theorem exists_firstFree {poolStart poolEnd ip : Ipv4Addr} (hfirst : poolStart ≤ ip)
    (hlast : ip ≤ poolEnd) : ∃ leased, firstFree leased [] poolStart poolEnd = some ip := by
  let pool := (range' poolStart.toNat (poolEnd.toNat + 1 - poolStart.toNat)).map (BitVec.ofNat 32)
  have hmem : ip ∈ pool := by
    refine mem_map.mpr ⟨ip.toNat, mem_range'_1.mpr ?_, by simp⟩
    rw [BitVec.le_def] at hfirst hlast
    omega
  have hsome : (firstFree (pool.filter (· ≠ ip)) [] poolStart poolEnd).isSome := by
    rw [firstFree, find?_isSome]
    exact ⟨ip, hmem, by simp⟩
  obtain ⟨found, hfound⟩ := Option.isSome_iff_exists.mp hsome
  refine ⟨_, hfound.trans (congrArg some ?_)⟩
  have hfree := find?_some hfound
  have hpool : found ∈ pool := mem_of_find?_eq_some hfound
  simpa [hpool] using hfree

def privateBlocks : List (Ipv4Addr × ℕ) :=
  [(ipv4 10 0 0 0, 8), (ipv4 172 16 0 0, 12), (ipv4 192 168 0 0, 16)]

theorem isPrivate_iff {addr : Ipv4Addr} :
    isPrivate addr = true ↔ ∃ block ∈ privateBlocks, inBlock addr block.1 block.2 = true := by
  simp [isPrivate, privateBlocks, or_assoc]

/-- A range that leaves the private block it begins in holds a public address. -/
theorem exists_public {low high : Ipv4Addr} {block : Ipv4Addr × ℕ} (hblock : block ∈ privateBlocks)
    (hlow : inBlock low block.1 block.2 = true) (hhigh : ¬ inBlock high block.1 block.2 = true)
    (hle : low ≤ high) : ∃ ip, low ≤ ip ∧ ip ≤ high ∧ isPrivate ip = false := by
  rw [inBlock_iff] at hlow hhigh
  rw [BitVec.le_def] at hle
  simp only [privateBlocks, mem_cons, not_mem_nil, or_false] at hblock
  rcases hblock with rfl | rfl | rfl
  · refine ⟨ipv4 11 0 0 0, ?_, ?_, by decide⟩ <;> simp [ipv4, BitVec.le_def] at * <;> omega
  · refine ⟨ipv4 172 32 0 0, ?_, ?_, by decide⟩ <;> simp [ipv4, BitVec.le_def] at * <;> omega
  · refine ⟨ipv4 192 169 0 0, ?_, ?_, by decide⟩ <;> simp [ipv4, BitVec.le_def] at * <;> omega

/-- The range lies in one private block and holds neither the gateway nor the
router. -/
def ClearRange (config : DhcpConfig) (request : UpdateConfigRequest) : Prop :=
  (∃ block ∈ privateBlocks, inBlock request.poolStart block.1 block.2 = true ∧
    inBlock request.poolEnd block.1 block.2 = true) ∧
  ipInPool config.gatewayIp request.poolStart request.poolEnd = false ∧
  (request.routerIp.all fun router => ¬ ipInPool router request.poolStart request.poolEnd) = true
  deriving Decidable

variable {db after : Database} {request : UpdateConfigRequest}

theorem revokeLeasesOutsidePool_eq (db : Database) (poolStart poolEnd : Ipv4Addr) :
    revokeLeasesOutsidePool db poolStart poolEnd =
      { db with
        leases := db.leases.map fun lease =>
          if lease.id ∈ (leasesOutsidePool db poolStart poolEnd).map DhcpLease.id then
            { lease with status := .expired }
          else lease } := by
  unfold revokeLeasesOutsidePool
  generalize leasesOutsidePool db poolStart poolEnd = stranded
  induction stranded generalizing db with
  | nil => simp
  | cons first stranded ih =>
    rw [foldl_cons, ih]
    simp only [updateLeaseStatus, updateLease, map_map, map_cons, mem_cons]
    congr 1
    refine map_congr_left fun lease _ => ?_
    by_cases hfirst : lease.id = first.id <;> simp [hfirst]

theorem range_of_updateConfig (hupdate : updateConfig db request = .ok after) :
    request.poolStart ≤ request.poolEnd ∧ isPrivate request.poolStart = true := by
  have hcheck := (updateConfig_eq_ok.mp hupdate).1.1
  unfold checkPoolRange at hcheck
  split_ifs at hcheck with hends hfirst hlast
  exact ⟨BitVec.not_lt.mp hends, hfirst⟩

/-- Whatever leases and reservations there are, an address handed out from the
accepted pool is private and is neither the gateway's nor the router's: exactly
when the range is clear. -/
theorem accepted_pool_is_safe_iff (hupdate : updateConfig db request = .ok after) :
    (∀ leased reserved ip, firstFree leased reserved (baseScope after.config).poolStart
      (baseScope after.config).poolEnd = some ip →
        isPrivate ip = true ∧ ip ≠ after.config.gatewayIp ∧ some ip ≠ after.config.routerIp) ↔
      ClearRange db.config request := by
  obtain ⟨hle, hprivate⟩ := range_of_updateConfig hupdate
  rw [(updateConfig_eq_ok.mp hupdate).2, revokeLeasesOutsidePool_eq]
  constructor
  · intro hsafe
    have hall {ip : Ipv4Addr} (hpool : request.poolStart ≤ ip ∧ ip ≤ request.poolEnd) :
        isPrivate ip = true ∧ ip ≠ db.config.gatewayIp ∧ some ip ≠ request.routerIp := by
      obtain ⟨leased, hfree⟩ := exists_firstFree hpool.1 hpool.2
      exact hsafe leased [] ip hfree
    obtain ⟨block, hblock, hfirst⟩ := isPrivate_iff.mp hprivate
    refine ⟨⟨block, hblock, hfirst, ?_⟩, ?_, ?_⟩
    · by_contra hlast
      obtain ⟨ip, hlow, hhigh, hpublic⟩ := exists_public hblock hfirst hlast hle
      simp [(hall ⟨hlow, hhigh⟩).1] at hpublic
    · rw [← Bool.not_eq_true, ipInPool, decide_eq_true_eq]
      exact fun hpool => (hall hpool).2.1 rfl
    · rw [Option.all_eq_true]
      intro router hrouter
      simp only [ipInPool, decide_eq_true_eq]
      exact fun hpool => (hall hpool).2.2 hrouter.symm
  · rintro ⟨⟨block, hblock, hfirst, hlast⟩, hgateway, hrouter⟩ leased reserved ip hfree
    have hpool : ipInPool ip request.poolStart request.poolEnd = true := firstFree_in_pool hfree
    have hends : request.poolStart ≤ ip ∧ ip ≤ request.poolEnd := by simpa [ipInPool] using hpool
    refine ⟨isPrivate_iff.mpr ⟨block, hblock, inBlock_of_between hfirst hlast hends.1 hends.2⟩,
      ?_, ?_⟩
    · rintro rfl
      simp [hpool] at hgateway
    · intro heq
      have hrouterIp : request.routerIp = some ip := heq.symm
      simp [hrouterIp, hpool] at hrouter

def besideGateway : UpdateConfigRequest where
  poolStart := ipv4 192 168 1 100
  poolEnd := ipv4 192 168 1 102
  leaseDurationSecs := 3600
  routerIp := some (ipv4 192 168 1 254)

theorem accepted_pool_is_safe_iff_besideGateway :
    ∃ after, updateConfig smallPool besideGateway = .ok after ∧
      firstFree [ipv4 192 168 1 100] [] (baseScope after.config).poolStart
        (baseScope after.config).poolEnd = some (ipv4 192 168 1 101) ∧
      isPrivate (ipv4 192 168 1 101) = true ∧ ipv4 192 168 1 101 ≠ after.config.gatewayIp ∧
        some (ipv4 192 168 1 101) ≠ after.config.routerIp := by
  have hupdate : updateConfig smallPool besideGateway = .ok _ := rfl
  have hsafe := (accepted_pool_is_safe_iff hupdate).mpr (by decide)
  exact ⟨_, hupdate, by decide, hsafe [ipv4 192 168 1 100] [] _ (by decide)⟩

/-- Both ends of the first range are private and the public addresses between
them are handed out; the second range holds the gateway and the router. -/
theorem accepted_pool_is_unsafe : (∃ after, updateConfig smallPool { besideGateway with
          poolStart := ipv4 10 255 255 255
          poolEnd := ipv4 172 16 0 0 } = .ok after ∧
      firstFree [ipv4 10 255 255 255] [] (baseScope after.config).poolStart
        (baseScope after.config).poolEnd = some (ipv4 11 0 0 0) ∧
      isPrivate (ipv4 11 0 0 0) = false) ∧
    ∃ after, updateConfig smallPool
        { besideGateway with
          poolStart := ipv4 192 168 1 1
          poolEnd := ipv4 192 168 1 254 } = .ok after ∧
      firstFree [] [] (baseScope after.config).poolStart
        (baseScope after.config).poolEnd = some after.config.gatewayIp :=
  ⟨⟨_, rfl, rfl, by decide⟩, _, rfl, by decide⟩

/-! ## Leases that a pool change expires -/

/-- The pool of its own that the subnet of the client's zone has. -/
def zonePool (db : Database) (mac : Text) : Option (Ipv4Addr × Ipv4Addr) :=
  ((resolveZoneForMac db mac).bind Zone.subnet).bind poolBounds

/-- The client has a reservation, or every address it may lease from its zone
lies in the requested base pool. -/
def JudgedAlike (db : Database) (request : UpdateConfigRequest) (mac : Text) : Prop :=
  (findReservationByMac db mac).isSome ∨ ∀ pool ∈ zonePool db mac,
    request.poolStart ≤ pool.1 ∧ pool.2 ≤ request.poolEnd
  deriving Decidable

/-- Two rows have different ids and are not both active leases of one client. -/
def Apart (left right : DhcpLease) : Prop :=
  left.id ≠ right.id ∧ (left.IsActive → right.IsActive → left.mac ≠ right.mac)

instance : Std.Symm Apart :=
  ⟨fun _ _ hapart => ⟨hapart.1.symm, fun hright hleft => (hapart.2 hleft hright).symm⟩⟩

/-- The lease rows as the repository keeps them; ids are never used again. -/
structure Stored (db : Database) : Prop where
  fresh : ∀ lease ∈ db.leases, lease.id < db.nextLease
  apart : db.leases.Pairwise Apart

theorem stored_empty (db : Database) : Stored { db with leases := [] } := by
  constructor <;> simp

theorem Stored.eq (hstored : Stored db) {left right : DhcpLease} (hleft : left ∈ db.leases)
    (hright : right ∈ db.leases) (hnear : ¬ Apart left right) : left = right := by
  by_contra hne
  exact hnear (hstored.apart.forall hleft hright hne)

theorem Stored.rewrite (hstored : Stored db) (hrewrites : Rewrites db after) : Stored after := by
  obtain ⟨hnext, change, hchange, hleases⟩ := hrewrites
  constructor
  · rw [hleases, hnext, forall_mem_map]
    exact fun lease hmem => (hchange lease).1.trans_lt (hstored.fresh lease hmem)
  · rw [hleases, pairwise_map]
    refine hstored.apart.imp fun {left right} hapart => ?_
    obtain ⟨hleftId, hleftMac, -, hleftWas⟩ := hchange left
    obtain ⟨hrightId, hrightMac, -, hrightWas⟩ := hchange right
    rw [Apart, hleftId, hrightId, hleftMac, hrightMac]
    exact ⟨hapart.1, fun hleft hright => hapart.2 (hleftWas hleft) (hrightWas hright)⟩

/-- A lease of the client that the change lists or expires is rejected as well
when the client asks afterwards. -/
def ExpiresInvalid (db : Database) (request : UpdateConfigRequest) (mac : Text) : Prop :=
  ∀ after, updateConfig db request = .ok after → ∀ lease ∈ db.leases, lease.IsActive →
    lease.mac = mac.toAsciiLowercase →
    (lease ∈ leasesOutsidePool db request.poolStart request.poolEnd ∨
      ∃ row ∈ after.leases, row.id = lease.id ∧ ¬ row.IsActive) →
    stillValid lease (findReservationByMac after mac) (resolveScope after mac).poolStart
      (resolveScope after mac).poolEnd = false

theorem mem_leasesOutsidePool {lease : DhcpLease} {poolStart poolEnd : Ipv4Addr} :
    lease ∈ leasesOutsidePool db poolStart poolEnd ↔ (lease ∈ db.leases ∧ lease.IsActive) ∧
      ¬ (poolStart ≤ lease.ip ∧ lease.ip ≤ poolEnd) ∧
      ∀ reservation ∈ db.reservations, reservation.mac = lease.mac → reservation.ip ≠ lease.ip := by
  simp only [leasesOutsidePool, listActiveLeases, ipInPool, mem_filter, any_eq_true,
    decide_eq_true_eq, not_exists, not_and, ne_eq]

theorem listed_of_expired (hstored : Stored db) (hupdate : updateConfig db request = .ok after)
    {lease row : DhcpLease} (hmem : lease ∈ db.leases) (hactive : lease.IsActive)
    (hrow : row ∈ after.leases) (hid : row.id = lease.id) (hinactive : ¬ row.IsActive) :
    lease ∈ leasesOutsidePool db request.poolStart request.poolEnd := by
  rw [(updateConfig_eq_ok.mp hupdate).2, revokeLeasesOutsidePool_eq, mem_map] at hrow
  obtain ⟨old, hold, rfl⟩ := hrow
  split at hid
  next hstranded =>
    obtain ⟨stranded, hstranded, heq⟩ := mem_map.mp hstranded
    have hkey := hstored.eq (mem_of_mem_filter (mem_of_mem_filter hstranded)) hmem
      fun hapart => hapart.1 (heq.trans hid)
    exact hkey ▸ hstranded
  next hkept =>
    rw [if_neg hkept, hstored.eq hold hmem fun hapart => hapart.1 hid] at hinactive
    exact absurd hactive hinactive

theorem resolveScope_of_zonePool {mac : Text} : (zonePool db mac = none ∧
      resolveScope db mac = baseScope db.config) ∨ ∃ pool, zonePool db mac = some pool ∧
        (resolveScope db mac).poolStart = pool.1 ∧ (resolveScope db mac).poolEnd = pool.2 := by
  unfold zonePool resolveScope
  cases (resolveZoneForMac db mac).bind Zone.subnet with
  | none => exact .inl ⟨rfl, rfl⟩
  | some net =>
    cases hbounds : poolBounds net with
    | none => exact .inl ⟨by simp [hbounds], by simp [hbounds]⟩
    | some pool => exact .inr ⟨pool, by simp [hbounds], by simp [hbounds], by simp [hbounds]⟩

theorem le_of_zonePool {mac : Text} {pool : Ipv4Addr × Ipv4Addr}
    (hpool : zonePool db mac = some pool) : pool.1 ≤ pool.2 := by
  obtain ⟨net, -, hbounds⟩ := Option.bind_eq_some_iff.mp hpool
  simp only [poolBounds, Option.ite_none_left_eq_some, Option.some.injEq] at hbounds
  obtain ⟨hlt, rfl⟩ := hbounds
  exact BitVec.le_of_lt (BitVec.not_le.mp hlt)

/-- What an accepted change leaves of the tables that a client is judged by. -/
theorem judged_of_updateConfig (hupdate : updateConfig db request = .ok after) (mac : Text) :
    findReservationByMac after mac = findReservationByMac db mac ∧
      zonePool after mac = zonePool db mac ∧
      after.config.poolStart = request.poolStart ∧ after.config.poolEnd = request.poolEnd := by
  rw [(updateConfig_eq_ok.mp hupdate).2, revokeLeasesOutsidePool_eq]
  exact ⟨rfl, rfl, rfl, rfl⟩

theorem expiresInvalid_of_judgedAlike {mac : Text} (hstored : Stored db)
    (hjudged : JudgedAlike db request mac) : ExpiresInvalid db request mac := by
  intro after hupdate lease hmem hactive hmac hexpired
  obtain ⟨hreserved, hzone, hfirst, hlast⟩ := judged_of_updateConfig hupdate mac
  have hlisted : lease ∈ leasesOutsidePool db request.poolStart request.poolEnd := by
    rcases hexpired with hlisted | ⟨row, hrow, hid, hinactive⟩
    · exact hlisted
    · exact listed_of_expired hstored hupdate hmem hactive hrow hid hinactive
  obtain ⟨-, houtside, hpins⟩ := mem_leasesOutsidePool.mp hlisted
  rw [hreserved]
  cases hfound : findReservationByMac db mac with
  | some reservation =>
    have hpin := find?_some hfound
    simp only [decide_eq_true_eq] at hpin
    simpa [stillValid] using
      hpins reservation (mem_of_find?_eq_some hfound) (hpin.trans hmac.symm)
  | none =>
    have hinside := hjudged.resolve_left (by simp [hfound])
    simp only [stillValid, ipInPool, decide_eq_false_iff_not]
    rcases resolveScope_of_zonePool with ⟨-, hscope⟩ | ⟨pool, hpool, hpoolFirst, hpoolLast⟩
    · rwa [hscope, baseScope, hfirst, hlast]
    · rw [hpoolFirst, hpoolLast]
      obtain ⟨hlow, hhigh⟩ := hinside pool (hzone ▸ hpool)
      exact fun hin => houtside ⟨BitVec.le_trans hlow hin.1, BitVec.le_trans hin.2 hhigh⟩

/-- Over every table of leases, a change of the base pool expires only leases
of the client that are invalid afterwards, exactly when the client has a
reservation or leases from within the requested pool. -/
theorem expired_by_change_is_invalid_iff (hupdate : updateConfig db request = .ok after)
    (mac : Text) : (∀ leases nextLease,
      Stored { db with
        leases := leases
        nextLease := nextLease } →
      ExpiresInvalid { db with
        leases := leases
        nextLease := nextLease } request mac) ↔ JudgedAlike db request mac := by
  constructor
  · intro hinvalid
    by_contra hjudged
    simp only [JudgedAlike, not_or, Option.not_isSome_iff_eq_none, not_forall] at hjudged
    obtain ⟨hfound, pool, hpool, hnarrow⟩ := hjudged
    have hle := le_of_zonePool hpool
    obtain ⟨ip, hfirst, hlast, houtside⟩ : ∃ ip, pool.1 ≤ ip ∧ ip ≤ pool.2 ∧
        ¬ (request.poolStart ≤ ip ∧ ip ≤ request.poolEnd) := by
      by_cases hstart : request.poolStart ≤ pool.1
      · exact ⟨pool.2, hle, BitVec.le_refl _, fun hin => hnarrow ⟨hstart, hin.2⟩⟩
      · exact ⟨pool.1, BitVec.le_refl _, hle, fun hin => hstart hin.1⟩
    let lease : DhcpLease := ⟨0, mac.toAsciiLowercase, ip, none, 0, 0, .active⟩
    let leased := { db with
      leases := [lease]
      nextLease := 1 }
    have hstored : Stored leased := by
      constructor <;> simp [leased, lease]
    have haccepts : updateConfig leased request = .ok _ :=
      updateConfig_eq_ok.mpr ⟨(updateConfig_eq_ok.mp hupdate).1, rfl⟩
    have hlisted : lease ∈ leasesOutsidePool leased request.poolStart request.poolEnd := by
      refine mem_leasesOutsidePool.mpr ⟨⟨mem_singleton_self _, rfl⟩, houtside, ?_⟩
      intro reservation hmem hmac
      exact absurd (decide_eq_true hmac) (find?_eq_none.mp hfound reservation hmem)
    have hreject := hinvalid [lease] 1 hstored _ haccepts lease (mem_singleton_self _) rfl rfl
      (.inl hlisted)
    obtain ⟨hreserved, hzone, -⟩ := judged_of_updateConfig haccepts mac
    have hnone : findReservationByMac leased mac = none := hfound
    rw [hreserved, hnone] at hreject
    rcases resolveScope_of_zonePool with ⟨hbase, -⟩ | ⟨own, hown, hownFirst, hownLast⟩
    · cases hpool.symm.trans (hzone.symm.trans hbase)
    · cases hpool.symm.trans (hzone.symm.trans hown)
      rw [hownFirst, hownLast] at hreject
      simp [stillValid, ipInPool, lease, hfirst, hlast] at hreject
  · intro hjudged leases nextLease hstored
    exact expiresInvalid_of_judgedAlike hstored hjudged

/-- One client whose zone has a subnet of its own, with a lease of that
subnet. -/
def zonedClient : Database :=
  { smallPool with
    leases := [⟨0, ['a'], ipv4 10 0 5 10, none, 0, 3600, .active⟩]
    members := [⟨['a'], 1⟩]
    zones := [⟨1, some (.slash24 (ipv4 10 0 5 0))⟩]
    nextLease := 1 }

/-- The same client with another address reserved for it. -/
def reservedClient : Database :=
  { zonedClient with
    reservations := [⟨0, ['a'], ipv4 10 0 5 20⟩] }

theorem expired_by_change_is_invalid_iff_reservedClient :
    ExpiresInvalid reservedClient besideGateway ['a'] ∧
      leasesOutsidePool reservedClient besideGateway.poolStart besideGateway.poolEnd ≠ [] := by
  have hupdate : updateConfig reservedClient besideGateway = .ok _ := rfl
  have hstored : Stored reservedClient := by
    constructor <;> simp [reservedClient, zonedClient]
  exact ⟨(expired_by_change_is_invalid_iff hupdate ['a']).mpr (by decide) _ _ hstored, by decide⟩

/-- A change of the base pool expires the lease of a client whose zone has its
own subnet, and that client's lease was valid before and after. -/
theorem valid_lease_expired_by_change :
    ∃ after, updateConfig zonedClient besideGateway = .ok after ∧
      (∀ row ∈ after.leases, ¬ row.IsActive) ∧ ∀ lease ∈ zonedClient.leases, lease.IsActive ∧
        lease ∈ leasesOutsidePool zonedClient besideGateway.poolStart besideGateway.poolEnd ∧
        stillValid lease (findReservationByMac after ['a']) (resolveScope after ['a']).poolStart
          (resolveScope after ['a']).poolEnd = true :=
  ⟨_, rfl, by decide, by decide⟩

/-! ## A client that asks again -/

/-- `lease_if_still_valid`: a lease that the configuration no longer justifies
is expired. -/
def leaseIfStillValid (db : Database) (mac : Text) (poolStart poolEnd : Ipv4Addr) :
    Option DhcpLease × Database :=
  match findActiveLeaseByMac db mac with
  | none => (none, db)
  | some existing =>
    if stillValid existing (findReservationByMac db mac) poolStart poolEnd then (some existing, db)
    else (none, updateLeaseStatus db existing.id .expired)

/-- The rest of `assign_lease` for a client without a valid lease: a compatible
reservation first, a free address of the pool otherwise. -/
def allocateLease (db : Database) (scope : DhcpScope) (mac : Text) (hostname : Option Text)
    (now : ℕ) : Except AppError DhcpLease × Database :=
  let reserved := (findReservationByMac db mac).filter (reservationCompatible scope)
  let leased := (listActiveLeases db).map DhcpLease.ip
  match (reserved.map DhcpReservation.ip).or
      (firstFree leased (db.reservations.map DhcpReservation.ip) scope.poolStart scope.poolEnd) with
  | none => (.error (.conflict "DHCP pool exhausted - no available IP addresses"), db)
  | some ip =>
    let after := insertLease db mac ip hostname now (now + scope.leaseDurationSecs)
    (require (findLeaseById after db.nextLease) .internal, after)

/-- `assign_lease` as one step: the answer and the database after it. -/
def assignLease (db : Database) (mac : Text) (hostname : Option Text) (now : ℕ) :
    Except AppError DhcpLease × Database :=
  let hostname := normalisedHostname hostname
  let scope := resolveScope db mac
  match leaseIfStillValid db mac scope.poolStart scope.poolEnd with
  | (some existing, db) =>
    (.ok { existing with hostname := hostname.or existing.hostname },
      reuseLease db existing hostname none)
  | (none, db) => allocateLease db scope mac hostname now

def renewLease (db : Database) (mac : Text) (hostname : Option Text) (now : ℕ) :
    Except AppError DhcpLease × Database :=
  let hostname := normalisedHostname hostname
  let scope := resolveScope db mac
  match leaseIfStillValid db mac scope.poolStart scope.poolEnd with
  | (some existing, db) =>
    let after := reuseLease db existing hostname (some (now + scope.leaseDurationSecs))
    (require (findLeaseById after existing.id) .internal, after)
  | (none, db) => assignLease db mac hostname now

/-- Either call. -/
def askLease (db : Database) (renewing : Bool) (mac : Text) (hostname : Option Text) (now : ℕ) :
    Except AppError DhcpLease × Database :=
  if renewing then renewLease db mac hostname now else assignLease db mac hostname now

/-- Everything that changes the tables, with the zones of the devices changed
at will. -/
inductive Operation
  | ask (renewing : Bool) (mac : Text) (hostname : Option Text) (now : ℕ)
  | releaseLease (mac : Text)
  | revokeLease (id : ℕ)
  | cleanupExpired (now : ℕ)
  | createReservation (mac : Text) (ip : Ipv4Addr)
  | deleteReservation (id : ℕ)
  | updateConfig (request : UpdateConfigRequest)
  | rezone (members : List ZoneMember) (zones : List Zone) (defaultZone : Option Zone)

def perform (db : Database) : Operation → Option Database
  | .ask renewing mac hostname now => some (askLease db renewing mac hostname now).2
  | .releaseLease mac => some (releaseLease db mac)
  | .revokeLease id => some ((revokeLease db id).toOption.getD db)
  | .cleanupExpired now => some (expireStaleLeases db now)
  | .createReservation mac ip => some ((createReservation db mac ip).toOption.getD db)
  | .deleteReservation id => some ((deleteReservation db id).toOption.getD db)
  | .updateConfig request => some ((updateConfig db request).toOption.getD db)
  | .rezone members zones defaultZone =>
    some { db with members := members, zones := zones, defaultZone := defaultZone }

variable {mac : Text}

/-- The client has this lease and the configuration justifies it. -/
def Valid (db : Database) (mac : Text) (lease : DhcpLease) : Prop :=
  findActiveLeaseByMac db mac = some lease ∧
    stillValid lease (findReservationByMac db mac) (resolveScope db mac).poolStart
      (resolveScope db mac).poolEnd = true

/-- Without a valid lease, the client has no active lease once the call has
looked. -/
theorem leaseIfStillValid_cases (db : Database) (mac : Text) : (∃ lease, Valid db mac lease ∧
      leaseIfStillValid db mac (resolveScope db mac).poolStart (resolveScope db mac).poolEnd =
        (some lease, db)) ∨
    ∃ leases, Rewrites db { db with leases := leases } ∧
      leaseIfStillValid db mac (resolveScope db mac).poolStart (resolveScope db mac).poolEnd =
        (none, { db with leases := leases }) ∧
      (Stored db → findActiveLeaseByMac { db with leases := leases } mac = none) := by
  unfold leaseIfStillValid Valid
  cases hfound : findActiveLeaseByMac db mac with
  | none => exact .inr ⟨db.leases, .of_eq rfl rfl, rfl, fun _ => hfound⟩
  | some lease =>
    simp only [Option.some.injEq]
    split
    next hvalid =>
      exact .inl ⟨lease, ⟨rfl, hvalid⟩, rfl⟩
    · refine .inr ⟨_, rewrites_updateLeaseStatus db lease.id (by simp), rfl, fun hstored => ?_⟩
      have hmatches := find?_some hfound
      have hlease := mem_of_find?_eq_some hfound
      simp only [decide_eq_true_eq] at hmatches
      simp only [findActiveLeaseByMac, find?_eq_none, forall_mem_map, decide_eq_true_eq]
      intro row hrow hactive
      split at hactive
      · cases hactive.2
      next hid =>
        exact hid (congrArg DhcpLease.id (hstored.eq hrow hlease fun hapart =>
          hapart.2 hactive.2 hmatches.2 (hactive.1.trans hmatches.1.symm)))

variable {lease : DhcpLease}

theorem Valid.askLease (hvalid : Valid db mac lease) (hstored : Stored db) (renewing : Bool)
    (hostname : Option Text) (now : ℕ) :
    ∃ again change, Touches change ∧ again.id = lease.id ∧ again.ip = lease.ip ∧
      askLease db renewing mac hostname now =
        (.ok again, { db with leases := db.leases.map change }) ∧
      Valid { db with leases := db.leases.map change } mac (change lease) := by
  have hlooked : leaseIfStillValid db mac (resolveScope db mac).poolStart
      (resolveScope db mac).poolEnd = (some lease, db) := by
    simp [leaseIfStillValid, hvalid.1, hvalid.2]
  obtain ⟨change, hchange, hreuse⟩ := reuseLease_eq db lease (normalisedHostname hostname)
    (if renewing then some (now + (resolveScope db mac).leaseDurationSecs) else none)
  obtain ⟨hid, -, hip, -⟩ := hchange lease
  have hkept : Valid { db with leases := db.leases.map change } mac (change lease) := by
    have hsame : (fun row : DhcpLease => decide (row.mac = mac.toAsciiLowercase ∧ row.IsActive)) ∘
        change = fun row => decide (row.mac = mac.toAsciiLowercase ∧ row.IsActive) := by
      funext row
      obtain ⟨-, hmac, -, hstatus⟩ := hchange row
      rw [Function.comp_apply, decide_eq_decide, DhcpLease.IsActive, DhcpLease.IsActive, hmac,
        hstatus]
    refine ⟨?_, ?_⟩
    · rw [findActiveLeaseByMac, find?_map, hsame]
      exact congrArg (Option.map change) hvalid.1
    · rw [← hvalid.2]
      simp only [stillValid, hip]
      rfl
  cases renewing with
  | false =>
    refine ⟨{ lease with hostname := (normalisedHostname hostname).or lease.hostname }, change,
      hchange, rfl, rfl, ?_, hkept⟩
    simp only [Dhcp.askLease, Bool.false_eq_true, if_false, assignLease, hlooked]
    rw [← hreuse]
    rfl
  | true =>
    have hfound : findLeaseById { db with leases := db.leases.map change } lease.id =
        some (change lease) := by
      have hkey : (fun row : DhcpLease => decide (row.id = lease.id)) ∘ change =
          fun row => decide (row.id = lease.id) := by
        funext row
        rw [Function.comp_apply, (hchange row).1]
      have hlease := mem_of_find?_eq_some hvalid.1
      rw [findLeaseById, find?_map, hkey]
      cases hrow : db.leases.find? fun row => decide (row.id = lease.id) with
      | none => simpa using find?_eq_none.mp hrow lease hlease
      | some row =>
        have hid : row.id = lease.id := by simpa using find?_some hrow
        rw [hstored.eq (mem_of_find?_eq_some hrow) hlease fun hapart => hapart.1 hid]
        rfl
    refine ⟨change lease, change, hchange, hid, hip, ?_, hkept⟩
    simp only [Dhcp.askLease, if_true, renewLease, hlooked]
    simp only [if_true] at hreuse
    rw [hreuse, hfound]
    rfl

theorem askLease_of_invalid {cleared : Database}
    (hlooked : leaseIfStillValid db mac (resolveScope db mac).poolStart
      (resolveScope db mac).poolEnd = (none, cleared))
    (hnone : findActiveLeaseByMac cleared mac = none)
    (hscope : resolveScope cleared mac = resolveScope db mac)
    (renewing : Bool) (hostname : Option Text) (now : ℕ) :
    ∃ hostname', askLease db renewing mac hostname now =
      allocateLease cleared (resolveScope db mac) mac hostname' now := by
  cases renewing with
  | false =>
    refine ⟨normalisedHostname hostname, ?_⟩
    simp only [askLease, Bool.false_eq_true, if_false, assignLease, hlooked]
  | true =>
    refine ⟨normalisedHostname (normalisedHostname hostname), ?_⟩
    simp only [askLease, if_true, renewLease, hlooked]
    simp only [assignLease, leaseIfStillValid, hnone, hscope]

variable {hostname : Option Text}

/-- An allocated lease is a new row. -/
theorem allocateLease_eq_ok (hstored : Stored db) {scope : DhcpScope} {now : ℕ}
    (hallocate : allocateLease db scope mac hostname now = (.ok lease, after)) :
    (((findReservationByMac db mac).filter (reservationCompatible scope)).map
        DhcpReservation.ip).or (firstFree ((listActiveLeases db).map DhcpLease.ip)
          (db.reservations.map DhcpReservation.ip) scope.poolStart scope.poolEnd) = some lease.ip ∧
      lease.id = db.nextLease ∧ lease.mac = mac.toAsciiLowercase ∧ lease.IsActive ∧
      after = { db with leases := db.leases ++ [lease], nextLease := db.nextLease + 1 } := by
  unfold Dhcp.allocateLease at hallocate
  simp only at hallocate
  split at hallocate
  · cases hallocate
  rename_i ip hip
  obtain ⟨hanswer, rfl⟩ := Prod.mk.inj hallocate
  have hmiss : db.leases.find? (fun row => decide (row.id = db.nextLease)) = none := by
    simpa using fun row hrow => Nat.ne_of_lt (hstored.fresh row hrow)
  have hnew := require_eq_ok.mp hanswer
  simp only [findLeaseById, insertLease, find?_append, hmiss, Option.none_or] at hnew
  simp only [find?_cons, decide_true, Option.some.injEq] at hnew
  subst hnew
  exact ⟨hip, rfl, rfl, rfl, rfl⟩

/-- The client's reservation, if there is one, lies in the subnet of its zone. -/
def Placeable (db : Database) (mac : Text) : Prop :=
  ∀ reservation ∈ findReservationByMac db mac,
    reservationCompatible (resolveScope db mac) reservation = true
  deriving Decidable

/-- A lease just allocated is the client's, and it is valid exactly when no
reservation was passed over. -/
theorem valid_allocateLease_iff (hstored : Stored db) (hnone : findActiveLeaseByMac db mac = none)
    {now : ℕ}
    (hallocate : allocateLease db (resolveScope db mac) mac hostname now = (.ok lease, after)) :
    findActiveLeaseByMac after mac = some lease ∧ (Valid after mac lease ↔ Placeable db mac) := by
  obtain ⟨hip, -, hmac, hactive, rfl⟩ := allocateLease_eq_ok hstored hallocate
  have hfound : findActiveLeaseByMac
      { db with leases := db.leases ++ [lease], nextLease := db.nextLease + 1 } mac =
        some lease := by
    unfold findActiveLeaseByMac at hnone ⊢
    simp only [find?_append, hnone, Option.none_or]
    simp [hmac, hactive]
  refine ⟨hfound, (and_iff_right hfound).trans ?_⟩
  change stillValid lease (findReservationByMac db mac) (resolveScope db mac).poolStart
    (resolveScope db mac).poolEnd = true ↔ _
  cases hreserved : findReservationByMac db mac with
  | none =>
    rw [hreserved] at hip
    simpa [Placeable, hreserved, stillValid] using firstFree_in_pool hip
  | some reservation =>
    simp only [Placeable, hreserved, stillValid, decide_eq_true_eq, Option.mem_some_iff,
      forall_eq']
    rw [hreserved, Option.filter_some] at hip
    split at hip
    next hcompatible =>
      simpa [hcompatible] using hip
    next hpassed =>
      have hfree := find?_some (show firstFree _ _ _ _ = some lease.ip from hip)
      have hmem : reservation ∈ db.reservations := mem_of_find?_eq_some hreserved
      simp only [decide_eq_true_eq, mem_map, not_exists, not_and] at hfree
      exact iff_of_false (hfree.2 reservation hmem) hpassed

/-- No operation but a client's call adds a lease. -/
theorem rewrites_perform {operation : Operation}
    (hcall : ∀ renewing mac hostname now, operation ≠ .ask renewing mac hostname now)
    (hperform : perform db operation = some after) : Rewrites db after := by
  have hkept : ∀ {result : Except AppError Database},
      (∀ db', result = .ok db' → Rewrites db db') → Rewrites db (result.toOption.getD db) := by
    intro result hrewrites
    cases result with
    | error error => exact .of_eq rfl rfl
    | ok db' => exact hrewrites db' rfl
  revert hperform
  fun_cases perform db operation <;> rintro ⟨⟩
  · exact (hcall _ _ _ _ rfl).elim
  · exact rewrites_releaseLease db _
  · exact hkept fun _ => rewrites_revokeLease
  · exact rewrites_expireStaleLeases db _
  · exact hkept fun _ => rewrites_createReservation
  · exact hkept fun _ => rewrites_deleteReservation
  · exact hkept fun _ => rewrites_updateConfig
  · exact .of_eq rfl rfl

theorem stored_perform (operation : Operation) (hstored : Stored db)
    (hperform : perform db operation = some after) : Stored after := by
  cases operation with
  | ask renewing mac hostname now =>
    cases hperform
    rcases leaseIfStillValid_cases db mac with
      ⟨lease, hvalid, -⟩ | ⟨leases, hrewrites, hlooked, hnone⟩
    · obtain ⟨_, change, hchange, -, -, heq, -⟩ := hvalid.askLease hstored renewing hostname now
      rw [heq]
      exact hstored.rewrite (hchange.rewrites db)
    · obtain ⟨hostname', heq⟩ :=
        askLease_of_invalid hlooked (hnone hstored) rfl renewing hostname now
      rw [heq, allocateLease]
      have hcleared := hstored.rewrite hrewrites
      have hfree := hnone hstored
      simp only [findActiveLeaseByMac, find?_eq_none, decide_eq_true_eq] at hfree
      simp only
      split
      · exact hcleared
      constructor
      · simp only [insertLease, forall_mem_append, forall_mem_singleton]
        exact ⟨fun row hrow => Nat.lt_succ_of_lt (hcleared.fresh row hrow), Nat.lt_succ_self _⟩
      · refine pairwise_append.mpr ⟨hcleared.apart, pairwise_singleton .., ?_⟩
        intro row hrow new hnew
        rw [mem_singleton.mp hnew]
        exact ⟨Nat.ne_of_lt (hcleared.fresh row hrow), fun hactive _ hmac =>
          hfree row hrow ⟨hmac, hactive⟩⟩
  | _ => exact hstored.rewrite (rewrites_perform (by simp) hperform)

theorem stored_run (start : Database) {operations : List Operation}
    (hrun : run perform { start with leases := [] } operations = some db) : Stored db :=
  run_invariant (fun _ operation _ hbefore hnext => stored_perform operation hbefore hnext)
    (stored_empty start) hrun

/-- The client has a valid lease, or it has no reservation outside the subnet of
its zone. -/
def Justified (db : Database) (mac : Text) : Prop :=
  (∃ lease, Valid db mac lease) ∨ Placeable db mac

theorem Justified.placeable {leases : List DhcpLease} (hjustified : Justified db mac)
    (hlooked : leaseIfStillValid db mac (resolveScope db mac).poolStart
      (resolveScope db mac).poolEnd = (none, { db with leases := leases })) : Placeable db mac := by
  refine hjustified.resolve_left ?_
  rintro ⟨lease, hfound, hvalid⟩
  simp [leaseIfStillValid, hfound, hvalid] at hlooked

theorem valid_askLease (hstored : Stored db) (hjustified : Justified db mac)
    {renewing : Bool} {now : ℕ}
    (hask : askLease db renewing mac hostname now = (.ok lease, after)) :
    ∃ row, Valid after mac row ∧ row.id = lease.id ∧ row.ip = lease.ip ∧
      findReservationByMac after mac = findReservationByMac db mac ∧
      resolveScope after mac = resolveScope db mac := by
  rcases leaseIfStillValid_cases db mac with ⟨old, hold, -⟩ | ⟨leases, hrewrites, hlooked, hnone⟩
  · obtain ⟨again, change, hchange, hid, hip, heq, hkept⟩ :=
      hold.askLease hstored renewing hostname now
    obtain ⟨hanswer, rfl⟩ := Prod.mk.inj (heq.symm.trans hask)
    cases hanswer
    exact ⟨change old, hkept, (hchange old).1.trans hid.symm, (hchange old).2.2.1.trans hip.symm,
      rfl, rfl⟩
  · obtain ⟨_, heq⟩ := askLease_of_invalid hlooked (hnone hstored) rfl renewing hostname now
    have hallocate := heq.symm.trans hask
    have hcleared := hstored.rewrite hrewrites
    have hplaceable : Placeable { db with leases := leases } mac := hjustified.placeable hlooked
    refine ⟨lease, (valid_allocateLease_iff hcleared (hnone hstored) hallocate).2.mpr hplaceable,
      rfl, rfl, ?_⟩
    obtain ⟨-, -, -, -, rfl⟩ := allocateLease_eq_ok hcleared hallocate
    exact ⟨rfl, rfl⟩

/-- From an empty lease table, after any operations: a client that is given a
lease is given the same lease when it asks again, and no row changes its status,
exactly when it had a valid lease or no reservation to be passed over. -/
theorem lease_is_stable_iff (start : Database) (operations : List Operation)
    (hrun : run perform { start with leases := [] } operations = some db)
    (renewing : Bool) (mac : Text) (hostname : Option Text) (now : ℕ)
    (hask : askLease db renewing mac hostname now = (.ok lease, after))
    (renewing' : Bool) (hostname' : Option Text) (now' : ℕ) :
    (∃ again final, askLease after renewing' mac hostname' now' = (.ok again, final) ∧
      again.id = lease.id ∧ again.ip = lease.ip ∧
      (final.leases.map fun row => (row.id, row.status)) =
        after.leases.map fun row => (row.id, row.status)) ↔ Justified db mac := by
  have hstored := stored_run start hrun
  have hafter : Stored after := by
    have hperform := stored_perform (.ask renewing mac hostname now) hstored rfl
    rwa [hask] at hperform
  constructor
  · rintro ⟨again, final, hagain, hid, -⟩
    rcases leaseIfStillValid_cases db mac with ⟨old, hold, -⟩ | ⟨leases, hrewrites, hlooked, hnone⟩
    · exact .inl ⟨old, hold⟩
    obtain ⟨_, heq⟩ := askLease_of_invalid hlooked (hnone hstored) rfl renewing hostname now
    have hallocate := heq.symm.trans hask
    have hcleared := hstored.rewrite hrewrites
    obtain ⟨hfound, hvalid⟩ := valid_allocateLease_iff hcleared (hnone hstored) hallocate
    rcases leaseIfStillValid_cases after mac
      with ⟨row, hrow, -⟩ | ⟨leases', hrewrites', hlooked', hnone'⟩
    · cases hfound.symm.trans hrow.1
      exact .inr (hvalid.mp hrow)
    · obtain ⟨_, heq'⟩ :=
        askLease_of_invalid hlooked' (hnone' hafter) rfl renewing' hostname' now'
      obtain ⟨-, hagainId, -⟩ :=
        allocateLease_eq_ok (hafter.rewrite hrewrites') (heq'.symm.trans hagain)
      obtain ⟨-, hleaseId, -, -, rfl⟩ := allocateLease_eq_ok hcleared hallocate
      simp only at hagainId hleaseId
      omega
  · intro hjustified
    obtain ⟨row, hvalid, hid, hip, -⟩ := valid_askLease hstored hjustified hask
    obtain ⟨again, change, hchange, hagainId, hagainIp, heq, -⟩ :=
      hvalid.askLease hafter renewing' hostname' now'
    refine ⟨again, _, heq, hagainId.trans hid, hagainIp.trans hip, ?_⟩
    rw [map_map]
    refine map_congr_left fun row _ => ?_
    obtain ⟨hrowId, -, -, hstatus⟩ := hchange row
    exact Prod.ext hrowId hstatus

theorem lease_is_stable_iff_zoned : ∃ lease again after final,
      askLease { zonedClient with leases := [] } false ['a'] none 10 = (.ok lease, after) ∧
      askLease after true ['a'] none 20 = (.ok again, final) ∧
      again.id = lease.id ∧ again.ip = lease.ip ∧
      (final.leases.map fun row => (row.id, row.status)) =
        after.leases.map fun row => (row.id, row.status) := by
  have hask : askLease { zonedClient with leases := [] } false ['a'] none 10 = (.ok _, _) := rfl
  obtain ⟨again, final, hagain⟩ :=
    (lease_is_stable_iff zonedClient [] rfl false ['a'] none 10 hask true none 20).mpr
      (.inr (by decide))
  exact ⟨_, again, _, final, hask, hagain⟩

/-- The reservation lies outside the subnet of the client's zone. -/
def misplacedReservation : Database :=
  { zonedClient with leases := [], reservations := [⟨0, ['a'], ipv4 192 168 1 50⟩] }

/-- The reservation is passed over when the lease is given and counts when the
lease is judged, so that every call gives another lease. -/
theorem lease_given_anew : ∃ lease again after final,
      askLease misplacedReservation false ['a'] none 10 = (.ok lease, after) ∧
      askLease after false ['a'] none 20 = (.ok again, final) ∧ again.id ≠ lease.id ∧
      (final.leases.map fun row => (row.id, row.status)) = [(1, .expired), (2, .active)] :=
  ⟨_, _, _, _, rfl, rfl, by decide, rfl⟩

end Wardnet.Dhcp
