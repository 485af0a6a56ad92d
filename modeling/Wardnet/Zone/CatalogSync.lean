import Wardnet.Zone.Reconcile

/-!
# The kernel follows the catalog

Every accepted change of the catalog publishes an event, and the enforcer
brings the kernel up to date when it handles it.  Handling the event of a
deleted zone does nothing: the chain and the gateway alias of its subnet stay
behind.  An alias inside the LAN, or one whose address is still in use with
another prefix length, is never removed.
-/

namespace Wardnet.Zone

open List Net Transition

/-- The tables and the kernel state of the enforcer. -/
structure World where
  db : Database
  enforcer : Enforcer
  deriving DecidableEq

/-- `handle_event` of the enforcement listener, as far as isolation goes. -/
def handleEvent (site : Site) (db : Database) (enforcer : Enforcer) : ZoneEvent → Enforcer
  | .networkZoneChanged zoneId =>
    match db.findZone zoneId with
    | some _ => reconcileIsolation site db enforcer .success
    | none => enforcer
  | .deviceZoneChanged .. | .zoneExceptionsChanged => reconcileIsolation site db enforcer .success

/-- An accepted operation, and the enforcer handling its event. -/
def World.next (site : Site) (world : World) (operation : Operation) : Option World :=
  (accept world.db operation).map fun result =>
    { db := result.1
      enforcer :=
        match result.2 with
        | some event => handleEvent site result.1 world.enforcer event
        | none => world.enforcer }

def World.start (site : Site) (devices : List Device)
    (defaultPolicy : Option Uuid) (aliases : List (Ipv4Addr × ℕ)) : World where
  db := .seeded devices defaultPolicy
  enforcer := reconcileIsolation site (.seeded devices defaultPolicy)
    ⟨[], [], aliases, none⟩ .success

/-- The applied rules are the desired ones, and the addresses of the interface
are the desired gateways and some that were there before. -/
structure Follows (site : Site) (before : List (Ipv4Addr × ℕ)) (world : World) : Prop where
  chain : world.enforcer.chain = buildChain (desired site world.db).rules
  natExempt : world.enforcer.natExempt = buildNatExempt (desired site world.db).rules
  added : ∀ addr length, (desired site world.db).aliases.get addr = some length →
    (addr, length) ∈ world.enforcer.aliases
  removed : ∀ entry ∈ world.enforcer.aliases, entry ∈ before ∨
    (desired site world.db).aliases.get entry.1 = some entry.2

def ExceptionEndpoint.names (zoneId : Uuid) : ExceptionEndpoint → Bool
  | .zone id => id == zoneId
  | .device _ => false

/-- The gateway of the subnet lies outside the LAN, and no other alias has its
address. -/
def GatewayFree (site : Site) (world : World) (net : Ipv4Network) : Prop :=
  site.base.contains (gatewayFor net) = false ∧
    ∀ entry ∈ world.enforcer.aliases, entry.1 = gatewayFor net → entry.2 = net.length
  deriving Decidable

/-- No zone is deleted that has a subnet or is named by an exception, and a
zone gets a subnet only while its gateway is free. -/
def Tidy (site : Site) (world : World) : Operation → Prop
  | .createZone _ req => ∀ net ∈ req.subnet, GatewayFree site world net
  | .updateZone _ req => ∀ subnet ∈ req.subnet, ∀ net ∈ subnet, GatewayFree site world net
  | .deleteZone id =>
    (∀ zone ∈ world.db.findZone id, zone.subnet = none) ∧ ∀ exception ∈ world.db.exceptions,
        exception.fromEnd.names id = false ∧ exception.toEnd.names id = false
  | _ => True

instance (site : Site) (world : World) : ∀ operation, Decidable (Tidy site world operation)
  | .createZone .. | .updateZone .. | .deleteZone .. | .assignDevice ..
  | .createException .. | .updateException .. | .deleteException .. => by delta Tidy; infer_instance

/-! ## The alias map -/

variable {site : Site} {db : Database} {enforcer : Enforcer} {zones : List NetworkZone}

/-- Aliases that agree on the prefix length of an address. -/
def Uniform (entries : List (Ipv4Addr × ℕ)) : Prop :=
  ∀ left ∈ entries, ∀ right ∈ entries, left.1 = right.1 → left.2 = right.2

variable {addr : Ipv4Addr} {entries : List (Ipv4Addr × ℕ)}

theorem foldl_insert_get {map : HashMap Ipv4Addr ℕ} :
    (entries.foldl (fun map entry => map.insert entry.1 entry.2) map).get addr =
      match entries.reverse.find? fun entry => entry.1 = addr with
      | some entry => some entry.2
      | none => map.get addr := by
  induction entries generalizing map with
  | nil => rfl
  | cons entry entries ih =>
    rw [foldl_cons, ih, reverse_cons, find?_append]
    cases hfind : entries.reverse.find? fun entry => entry.1 = addr with
    | some found => simp
    | none =>
      by_cases haddr : entry.1 = addr
      · simp [haddr]
      · have hne : ¬ addr = entry.1 := fun heq => haddr heq.symm
        simp [haddr, hne]

theorem aliasMap_get (huniform : Uniform (zoneAliases zones)) {length : ℕ} :
    (aliasMap zones).get addr = some length ↔ (addr, length) ∈ zoneAliases zones := by
  rw [aliasMap, foldl_insert_get]
  cases hfind : (zoneAliases zones).reverse.find? fun entry => entry.1 = addr with
  | some found =>
    have hmem : found ∈ zoneAliases zones := mem_reverse.mp (mem_of_find?_eq_some hfind)
    have haddr : found.1 = addr := by simpa using find?_some hfind
    constructor
    · intro hlength
      cases hlength
      exact haddr ▸ hmem
    · intro hother
      exact congrArg some (huniform found hmem _ hother haddr)
  | none =>
    have hnone : ∀ entry ∈ zoneAliases zones, entry.1 ≠ addr := by simpa using hfind
    simp only [HashMap.get_empty, reduceCtorEq, false_iff]
    exact fun hmem => hnone _ hmem rfl

theorem desired_aliases (hdhcp : site.dhcpEnabled = true) :
    (desired site db).aliases = aliasMap db.zones := by
  simp [desired, hdhcp]

theorem mem_gateways {wanted : Desired} :
    addr ∈ wanted.gateways ↔ ∃ length, wanted.aliases.get addr = some length := by
  simp only [Desired.gateways, mem_sortBy, mem_map, Prod.exists, HashMap.mem_toList]
  constructor
  · rintro ⟨_, length, hget, rfl⟩
    exact ⟨length, hget⟩
  · rintro ⟨length, hget⟩
    exact ⟨addr, length, hget, rfl⟩

variable {world : World} {entry : Ipv4Addr × ℕ} {aliases : List (Ipv4Addr × ℕ)}

theorem mem_foldl_addInterfaceAlias :
    entry ∈ entries.foldl addInterfaceAlias aliases ↔ entry ∈ aliases ∨ entry ∈ entries := by
  induction entries generalizing aliases with
  | nil => simp
  | cons first entries ih =>
    rw [foldl_cons, ih, addInterfaceAlias, Routing.mem_addRule, mem_cons, or_assoc]

theorem mem_zoneAliases : entry ∈ zoneAliases zones ↔ ∃ zone ∈ zones, ∃ net ∈ zone.subnet,
      entry = (gatewayFor net, net.length) := by
  simp only [zoneAliases, mem_map, mem_filterMap]
  constructor
  · rintro ⟨net, ⟨zone, hzone, hnet⟩, rfl⟩
    exact ⟨zone, hzone, net, hnet, rfl⟩
  · rintro ⟨zone, hzone, net, hnet, rfl⟩
    exact ⟨net, ⟨zone, hzone, hnet⟩, rfl⟩

/-! ## The invariant -/

/-- What the enforcer has recorded is what the kernel holds, and the aliases
it has added can be told from those that were there before. -/
structure Kept (site : Site) (before : List (Ipv4Addr × ℕ)) (enforcer : Enforcer) : Prop where
  chain : ∀ record ∈ enforcer.lastIsolation, enforcer.chain = buildChain record.1
  natExempt : ∀ record ∈ enforcer.lastIsolation, enforcer.natExempt = buildNatExempt record.1
  present : ∀ record ∈ enforcer.lastIsolation, ∀ addr ∈ record.2,
    ∃ length, (addr, length) ∈ enforcer.aliases
  recorded : ∀ record ∈ enforcer.lastIsolation,
    ∀ entry ∈ enforcer.aliases, entry ∈ before ∨ entry.1 ∈ record.2
  managed : ∀ entry ∈ enforcer.aliases, entry ∈ before ∨
    looksManaged entry = true ∧ site.base.contains entry.1 = false

/-- The aliases a catalog wants can be added and removed again. -/
structure Wanted (site : Site) (aliases : List (Ipv4Addr × ℕ))
    (zones : List NetworkZone) : Prop where
  valid : ValidZones zones
  outside : ∀ entry ∈ zoneAliases zones, site.base.contains entry.1 = false
  uniform : Uniform (zoneAliases zones)
  agree : ∀ entry ∈ aliases, ∀ wanted ∈ zoneAliases zones, entry.1 = wanted.1 → entry.2 = wanted.2

structure Settled (site : Site) (before : List (Ipv4Addr × ℕ))
    (world : World) : Prop extends Follows site before world where
  kept : Kept site before world.enforcer
  wanted : Wanted site world.enforcer.aliases world.db.zones
  last : world.enforcer.lastIsolation = some (desired site world.db).record

variable {before : List (Ipv4Addr × ℕ)}

theorem Wanted.looksManaged (hwanted : Wanted site aliases zones)
    (hentry : entry ∈ zoneAliases zones) :
    looksManaged entry = true ∧ site.base.contains entry.1 = false := by
  obtain ⟨zone, hzone, net, hnet, rfl⟩ := mem_zoneAliases.mp hentry
  obtain ⟨hprivate, hpool⟩ := hwanted.valid.subnets zone hzone net hnet
  have hnetwork : Ipv4Network.network ⟨net.network + 1#32, net.length, net.length_le⟩ =
      net.network :=
    gatewayFor_and_mask (length_lt_of_poolBounds hprivate hpool)
  refine ⟨?_, hwanted.outside _ hentry⟩
  simp [Zone.looksManaged, net.length_le, gatewayFor, hnetwork]

section

variable (hdhcp : site.dhcpEnabled = true)
include hdhcp

/-- The aliases after a rebuild: the desired ones, and the others that are
not recognised as stale. -/
theorem mem_reconciled_aliases (hwanted : Wanted site enforcer.aliases db.zones)
    (hchanged : enforcer.lastIsolation ≠ some (desired site db).record) {outcome : ApplyOutcome} :
    entry ∈ (reconcileIsolation site db enforcer outcome).aliases ↔
      entry ∈ zoneAliases db.zones ∨ entry ∈ enforcer.aliases ∧
        (site.base.contains entry.1 = true ∨ looksManaged entry = false) := by
  have happlied : ∀ rules, (applyZoneIsolation enforcer rules outcome).aliases =
        enforcer.aliases := by
    intro rules
    simp only [applyZoneIsolation]
    split <;> rfl
  have hmap : ∀ addr length, (addr, length) ∈ (aliasMap db.zones).toList ↔
        (addr, length) ∈ zoneAliases db.zones := fun addr length =>
    HashMap.mem_toList.trans (aliasMap_get hwanted.uniform)
  simp only [reconcileIsolation, hchanged, if_false, happlied,
    removeStaleGatewayAliases, mem_filter, mem_foldl_addInterfaceAlias,
    desired_aliases hdhcp, Bool.or_eq_true, beq_iff_eq, Bool.not_eq_true',
    Option.isSome_iff_exists, aliasMap_get hwanted.uniform]
  obtain ⟨addr, length⟩ := entry
  rw [hmap]
  constructor
  · rintro ⟨hold | hnew, ((hlan | ⟨found, hfound⟩) | hbase) | hforeign⟩
    · exact .inr ⟨hold, .inl (hlan ▸ Ipv4Network.contains_iff.mpr rfl)⟩
    · obtain rfl : length = found := hwanted.agree _ hold _ hfound rfl
      exact .inl hfound
    · exact .inr ⟨hold, .inl hbase⟩
    · exact .inr ⟨hold, .inr hforeign⟩
    all_goals exact .inl hnew
  · rintro (hnew | ⟨hold, hbase | hforeign⟩)
    · exact ⟨.inr hnew, .inl (.inl (.inr ⟨length, hnew⟩))⟩
    · exact ⟨.inl hold, .inl (.inr hbase)⟩
    · exact ⟨.inl hold, .inr hforeign⟩

/-- An alias that is neither desired nor foreign has been removed. -/
theorem Kept.of_mem_reconciled (hkept : Kept site before enforcer)
    (hwanted : Wanted site enforcer.aliases db.zones)
    (hchanged : enforcer.lastIsolation ≠ some (desired site db).record) {outcome : ApplyOutcome}
    (hentry : entry ∈ (reconcileIsolation site db enforcer outcome).aliases) :
    entry ∈ before ∨ entry ∈ zoneAliases db.zones := by
  rcases (mem_reconciled_aliases hdhcp hwanted hchanged).mp hentry with
    hnew | ⟨hold, hforeign⟩
  · exact .inr hnew
  · apply (hkept.managed entry hold).imp_right
    rintro ⟨hmanaged, houtside⟩
    rcases hforeign with hbase | hforeign
    · exact absurd (hbase.symm.trans houtside) nofun
    · exact absurd (hforeign.symm.trans hmanaged) nofun

end

/-- An enforcer that follows the catalog has recorded what it did. -/
theorem Follows.kept (hfollows : Follows site before world)
    (hlast : world.enforcer.lastIsolation = some (desired site world.db).record)
    (hmanaged : ∀ entry ∈ world.enforcer.aliases, entry ∈ before ∨
      Zone.looksManaged entry = true ∧ site.base.contains entry.1 = false) :
    Kept site before world.enforcer where
  chain := by
    intro record hrecord
    cases hlast.symm.trans hrecord
    exact hfollows.chain
  natExempt := by
    intro record hrecord
    cases hlast.symm.trans hrecord
    exact hfollows.natExempt
  present := by
    intro record hrecord addr haddr
    cases hlast.symm.trans hrecord
    obtain ⟨length, hget⟩ := mem_gateways.mp haddr
    exact ⟨length, hfollows.added addr length hget⟩
  recorded := by
    intro record hrecord entry hentry
    cases hlast.symm.trans hrecord
    apply (hfollows.removed entry hentry).imp_right
    exact fun hget => mem_gateways.mpr ⟨entry.2, hget⟩
  managed := hmanaged

/-- Whatever the enforcer holds, a reconcile brings it to the catalog. -/
theorem Kept.reconcile (hdhcp : site.dhcpEnabled = true) (hkept : Kept site before enforcer)
    (hwanted : Wanted site enforcer.aliases db.zones) :
    Settled site before ⟨db, reconcileIsolation site db enforcer .success⟩ := by
  by_cases hlast : enforcer.lastIsolation = some (desired site db).record
  · rw [reconcileIsolation_of_skip hlast]
    refine ⟨⟨hkept.chain _ hlast, hkept.natExempt _ hlast, ?_, ?_⟩, hkept, hwanted, hlast⟩
    · intro addr length hget
      obtain ⟨found, hfound⟩ := hkept.present _ hlast addr (mem_gateways.mpr ⟨length, hget⟩)
      rw [desired_aliases hdhcp, aliasMap_get hwanted.uniform] at hget
      obtain rfl : found = length := hwanted.agree _ hfound _ hget rfl
      exact hfound
    · intro entry hentry
      apply (hkept.recorded _ hlast entry hentry).imp_right
      intro hgateway
      obtain ⟨length, hget⟩ := mem_gateways.mp hgateway
      have hmem := hget
      rw [desired_aliases hdhcp, aliasMap_get hwanted.uniform] at hmem
      rw [hget, hwanted.agree entry hentry _ hmem rfl]
  · have hfollows : Follows site before ⟨db, reconcileIsolation site db enforcer .success⟩ :=
      { chain := reconcileIsolation_chain hlast (.inl rfl)
        natExempt := by simp [reconcileIsolation, hlast, applyZoneIsolation, ApplyOutcome.success]
        added := by
          intro addr length hget
          rw [desired_aliases hdhcp, aliasMap_get hwanted.uniform] at hget
          exact (mem_reconciled_aliases hdhcp hwanted hlast).mpr (.inl hget)
        removed := by
          intro entry hentry
          rw [desired_aliases hdhcp, aliasMap_get hwanted.uniform]
          exact hkept.of_mem_reconciled hdhcp hwanted hlast hentry }
    have hafter : (reconcileIsolation site db enforcer
        .success).lastIsolation = some (desired site db).record :=
      reconcileIsolation_lastIsolation
    refine ⟨hfollows, hfollows.kept hafter ?_, ?_, hafter⟩
    · intro entry hentry
      apply (hkept.of_mem_reconciled hdhcp hwanted hlast hentry).imp_right
      exact hwanted.looksManaged
    · refine ⟨hwanted.valid, hwanted.outside, hwanted.uniform, ?_⟩
      intro entry hentry wanted hmem
      rcases (mem_reconciled_aliases hdhcp hwanted hlast).mp hentry with
        hnew | ⟨hold, -⟩
      · exact hwanted.uniform entry hnew wanted hmem
      · exact hwanted.agree entry hold wanted hmem

/-! ## Accepted operations -/

theorem Settled.present (hdhcp : site.dhcpEnabled = true) (hsettled : Settled site before world)
    (hentry : entry ∈ zoneAliases world.db.zones) : entry ∈ world.enforcer.aliases := by
  apply hsettled.added entry.1 entry.2
  rw [desired_aliases hdhcp, aliasMap_get hsettled.wanted.uniform]
  exact hentry

/-- A catalog whose subnets are known, or given while the gateway is free. -/
theorem Settled.extend (hdhcp : site.dhcpEnabled = true)
    (hsettled : Settled site before world) (hvalid : ValidZones zones) {given : Option Ipv4Network}
    (hfree : ∀ net ∈ given, GatewayFree site world net) (hsub : ∀ entry ∈ zoneAliases zones,
      entry ∈ zoneAliases world.db.zones ∨ ∃ net ∈ given, entry = (gatewayFor net, net.length)) :
    Wanted site world.enforcer.aliases zones where
  valid := hvalid
  outside := by
    intro entry hentry
    rcases hsub entry hentry with hold | ⟨net, hnet, rfl⟩
    · exact hsettled.wanted.outside entry hold
    · exact (hfree net hnet).1
  uniform := by
    intro left hleft right hright heq
    rcases hsub left hleft with hold | ⟨net, hnet, rfl⟩
    · rcases hsub right hright with hknown | ⟨net, hnet, rfl⟩
      · exact hsettled.wanted.uniform left hold right hknown heq
      · exact (hfree net hnet).2 left (hsettled.present hdhcp hold) heq
    · rcases hsub right hright with hknown | ⟨other, hother, rfl⟩
      · exact ((hfree net hnet).2 right (hsettled.present hdhcp hknown) heq.symm).symm
      · cases hnet.symm.trans hother
        rfl
  agree := by
    intro entry hentry wanted hwanted heq
    rcases hsub wanted hwanted with hold | ⟨net, hnet, rfl⟩
    · exact hsettled.wanted.agree entry hentry wanted hold heq
    · exact (hfree net hnet).2 entry hentry heq

def Database.without (db : Database) (id : Uuid) : Database :=
  { db with zones := Table.delete NetworkZone.id db.zones id }

variable {id : Uuid}

theorem filterMap_delete {Value : Type} {read : NetworkZone → Option Value}
    (hnone : ∀ zone ∈ zones, zone.id = id → read zone = none) :
    (Table.delete NetworkZone.id zones id).filterMap read = zones.filterMap read := by
  rw [Table.delete, filterMap_filter]
  apply filterMap_congr
  intro zone hzone
  by_cases hid : zone.id = id
  · simp [hid, hnone zone hzone hid]
  · simp [hid]

theorem findZone_without (other : Uuid) :
    (db.without id).findZone other = if other = id then none else db.findZone other :=
  Table.find_delete id other

/-- A zone that has no subnet and that no exception names leaves nothing
behind. -/
theorem desired_without (site : Site) (hids : (db.zones.map NetworkZone.id).Nodup)
    (hsubnet : ∀ zone ∈ db.findZone id, zone.subnet = none) (hunnamed : ∀ exception ∈ db.exceptions,
      exception.fromEnd.names id = false ∧ exception.toEnd.names id = false) :
    desired site (db.without id) = desired site db ∧
      zoneAliases (db.without id).zones = zoneAliases db.zones := by
  have hnone : ∀ zone ∈ db.zones, zone.id = id → zone.subnet = none := by
    rintro zone hzone rfl
    exact hsubnet zone (Table.find_of_mem hids hzone)
  have hsubnets : (db.without id).zones.filterMap NetworkZone.subnet =
      db.zones.filterMap NetworkZone.subnet := filterMap_delete hnone
  have hmembers : memberIsolationSubnets (db.without id).zones =
      memberIsolationSubnets db.zones := by
    simp only [memberIsolationSubnets, filterMap_filter]
    congr 1
    apply filterMap_delete
    intro zone hzone hid
    simp [hnone zone hzone hid]
  have hcidr : ∀ endpoint : ExceptionEndpoint, endpoint.names id = false →
      resolveEndpointCidr (db.without id) site.base endpoint =
        resolveEndpointCidr db site.base endpoint := by
    intro endpoint hnames
    cases endpoint with
    | device device => rfl
    | zone other =>
      have hne : other ≠ id := by simpa [ExceptionEndpoint.names] using hnames
      simp only [resolveEndpointCidr, findZone_without, if_neg hne]
  have hallows : (db.without id).exceptions.flatMap
      (allowsOf (db.without id) site.base) = db.exceptions.flatMap (allowsOf db site.base) := by
    apply flatMap_congr
    intro exception hexception
    have hnames := hunnamed exception hexception
    simp only [allowsOf, hcidr _ hnames.1, hcidr _ hnames.2]
  have haliases : zoneAliases (db.without id).zones = zoneAliases db.zones := by
    rw [zoneAliases, hsubnets, zoneAliases]
  refine ⟨?_, haliases⟩
  simp only [desired, desiredRules, allSubnets, aliasMap, hsubnets, hmembers, hallows, haliases]

theorem Settled.changed (hdhcp : site.dhcpEnabled = true) (hsettled : Settled site before world)
    (hfound : ∃ zone ∈ db.zones, zone.id = id)
    (hwanted : Wanted site world.enforcer.aliases db.zones) :
    Settled site before ⟨db, handleEvent site db world.enforcer (.networkZoneChanged id)⟩ := by
  simp only [handleEvent]
  cases hfind : db.findZone id with
  | none =>
    obtain ⟨zone, hzone, hid⟩ := hfound
    exact absurd hid (Table.find_eq_none.mp hfind zone hzone)
  | some _ => exact hsettled.kept.reconcile hdhcp hwanted

theorem Settled.next (hdhcp : site.dhcpEnabled = true) {after : World} {operation : Operation}
    (hsettled : Settled site before world) (htidy : Tidy site world operation)
    (hnext : world.next site operation = some after) : Settled site before after := by
  simp only [World.next, Option.map_eq_some_iff, Prod.exists] at hnext
  obtain ⟨db, event, haccept, rfl⟩ := hnext
  have hvalid := hsettled.wanted.valid.accept haccept
  cases effect_of_accept haccept with
  | createZone id req =>
    have hfound : ∃ zone ∈ world.db.zones ++ [req.zone id],
        zone.id = id := ⟨req.zone id, by simp, rfl⟩
    apply hsettled.changed hdhcp hfound
    apply hsettled.extend hdhcp hvalid htidy
    intro entry hentry
    obtain ⟨found, hzone, net, hnet, rfl⟩ := mem_zoneAliases.mp hentry
    rcases mem_append.mp hzone with hold | hnew
    · exact .inl (mem_zoneAliases.mpr ⟨found, hold, net, hnet, rfl⟩)
    · rw [mem_singleton.mp hnew] at hnet
      exact .inr ⟨net, hnet, rfl⟩
  | updateZone old req change hold _ _ hchange =>
    have hmem := (Table.find_eq_some hold).1
    have hfound : ∃ zone ∈ world.db.zones.map change, zone.id = old.id :=
      ⟨change old, mem_map_of_mem hmem, id_of_rewritten hchange old⟩
    have hfree : ∀ net ∈ req.subnet.join, GatewayFree site world net := by
      intro net hnet
      exact htidy (some net) (Option.join_eq_some_iff.mp hnet) net rfl
    apply hsettled.changed hdhcp hfound
    apply hsettled.extend hdhcp hvalid hfree
    intro entry hentry
    obtain ⟨_, hrewritten, net, hnet, rfl⟩ := mem_zoneAliases.mp hentry
    obtain ⟨zone, hzone, rfl⟩ := mem_map.mp hrewritten
    rw [subnet_of_rewritten hchange] at hnet
    split at hnet
    · cases hreq : req.subnet with
      | none =>
        have hsame : (old.patch req).subnet = old.subnet := by simp [NetworkZone.patch, hreq]
        rw [hsame] at hnet
        exact .inl (mem_zoneAliases.mpr ⟨old, hmem, net, hnet, rfl⟩)
      | some subnet =>
        have hgiven : (old.patch req).subnet = subnet := by simp [NetworkZone.patch, hreq]
        rw [hgiven] at hnet
        exact .inr ⟨net, hnet, rfl⟩
    · exact .inl (mem_zoneAliases.mpr ⟨zone, hzone, net, hnet, rfl⟩)
  | deleteZone id =>
    change Settled site before ⟨world.db.without id, handleEvent site (world.db.without id)
      world.enforcer (.networkZoneChanged id)⟩
    simp only [handleEvent, findZone_without, if_true]
    have hwanted := hsettled.wanted
    obtain ⟨hdesired, haliases⟩ := desired_without site hwanted.valid.ids htidy.1 htidy.2
    refine ⟨⟨?_, ?_, ?_, ?_⟩, hsettled.kept, ⟨hvalid, ?_, ?_, ?_⟩, ?_⟩
    · exact hdesired ▸ hsettled.chain
    · exact hdesired ▸ hsettled.natExempt
    · exact hdesired ▸ hsettled.added
    · exact hdesired ▸ hsettled.removed
    · exact haliases ▸ hwanted.outside
    · exact haliases ▸ hwanted.uniform
    · exact haliases ▸ hwanted.agree
    · exact hdesired ▸ hsettled.last
  | unmoved => exact hsettled
  | assignDevice | exceptions => exact hsettled.kept.reconcile hdhcp hsettled.wanted

theorem Settled.start (hdhcp : site.dhcpEnabled = true)
    (devices : List Device) (policy : Option Uuid) :
    Settled site before (.start site devices policy before) := by
  have hseeded : zoneAliases seedZones = [] := by decide
  apply Kept.reconcile hdhcp
  · refine ⟨nofun, nofun, nofun, nofun, ?_⟩
    exact fun entry hentry => .inl hentry
  · refine ⟨validZones_seedZones, ?_, ?_, ?_⟩
    all_goals simp [Database.seeded, hseeded, Uniform]

/-- With DHCP in the daemon's hands and every call succeeding, the kernel
follows the catalog after each event, provided that a deleted zone has no
subnet and is not named by an exception, and that the gateway of a subnet that
is given to a zone lies outside the LAN and is not an alias with another
prefix length. -/
theorem isolation_follows_catalog (site : Site)
    (hdhcp : site.dhcpEnabled = true) (devices : List Device)
    (policy : Option Uuid) (aliases : List (Ipv4Addr × ℕ))
    (operations : List Operation) (final : World) (hmeets : Meets (World.next site) (Tidy site)
      (.start site devices policy aliases) operations)
    (hrun : run (World.next site) (.start site devices policy aliases)
      operations = some final) : Follows site aliases final := by
  have hstart : Settled site aliases (.start site devices policy aliases) :=
    Settled.start hdhcp devices policy
  have hsettled : Settled site aliases final := by
    apply run_invariant_of_meets _ hstart hmeets hrun
    intro world operation after hbefore htidy hnext
    exact hbefore.next hdhcp htidy hnext
  exact hsettled.toFollows

def createdAndDeleted : List Operation :=
  [.createZone 10 (subnetRequest "cameras" innerNet), .deleteZone 10]

/-- The denies and the gateway of a deleted zone stay behind. -/
theorem deleted_zone_stays_behind : ∃ final, run (World.next lanSite) (.start lanSite [] none [])
        createdAndDeleted = some final ∧ final.db = .seeded [] none ∧
      .crossDeny innerNet lanBase.canonical ∈ final.enforcer.chain ∧
      final.enforcer.aliases = [(gatewayFor innerNet, 24)] ∧ ¬ Follows lanSite [] final := by
  refine ⟨_, rfl, ?_, ?_, ?_, ?_⟩
  · decide +kernel
  · decide +kernel
  · decide +kernel
  · intro hfollows
    have hchain := hfollows.chain
    revert hchain
    decide +kernel

/-- The subnet is taken from the zone before it is deleted. -/
def clearedAndDeleted : List Operation :=
  [.createZone 10 (subnetRequest "cameras" innerNet),
    .updateZone 10 ⟨none, none, none, none, some none, none, none, none⟩,
    .deleteZone 10]

theorem isolation_follows_catalog_clearedAndDeleted :
    ∃ final, run (World.next lanSite) (.start lanSite [] none [])
        clearedAndDeleted = some final ∧ Follows lanSite [] final := by
  refine ⟨_, rfl, ?_⟩
  exact isolation_follows_catalog lanSite rfl [] none [] clearedAndDeleted _ (by decide +kernel) rfl

end Wardnet.Zone
