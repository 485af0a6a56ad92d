import Wardnet.Tunnel.Tables

/-!
# Private tables

Names of live tunnels are unique and encode the number of the interface, so
their tables are distinct.  They stay clear of the reserved tables as long as
no import is given one of the three numbers that lead there.
-/

namespace Wardnet.TunnelTables

open Routing (tableForIndex tunnelInterfacePrefix)
open List Transition

/-- A number whose table is not reserved, and that the arithmetic of tables can
take. -/
def Free (index : ℤ) : Prop := index ∉ [153, 154, 155] ∧ index < 2 ^ 32 - 100
  deriving Decidable

/-! ## Tables of names -/

variable {row other : TunnelRow} {index : ℕ}

theorem table_of_tunnelInterfaceName (hfree : Free index)
    (hname : row.interfaceName = tunnelInterfaceName index) : row.table = some (100 + index) := by
  have hindex : index < 2 ^ 32 := by
    have := hfree.2
    omega
  have hsum : 100 + index < 2 ^ 32 := by
    have := hfree.2
    omega
  calc row.table = (some index).map tableForIndex := by
        rw [TunnelRow.table, hname, parseInterfaceIndex_tunnelInterfaceName hindex]
    _ = some ((100 + index) % 2 ^ 32) := rfl
    _ = some (100 + index) := by rw [Nat.mod_eq_of_lt hsum]

theorem notMem_reservedTables (hfree : Free index) : 100 + index ∉ reservedTables := by
  have hne := hfree.1
  simp only [mem_cons, not_mem_nil, or_false, not_or] at hne
  simp only [reservedTables, mainTable, mem_cons, not_mem_nil, or_false, not_or]
  omega

/-- The interface of a live tunnel has a number that leads to a free table. -/
def TunnelRow.Named (row : TunnelRow) : Prop :=
  ∃ index : ℕ, Free index ∧ row.interfaceName = tunnelInterfaceName index

variable {table : ℕ}

theorem TunnelRow.Named.table_notMem (hnamed : row.Named) (htable : row.table = some table) :
    table ∉ reservedTables := by
  obtain ⟨index, hfree, hname⟩ := hnamed
  rw [table_of_tunnelInterfaceName hfree hname] at htable
  exact Option.some.inj htable ▸ notMem_reservedTables hfree

/-! ## Routes of the main table -/

def mainRoutes (routes : List Route) : List Route :=
  routes.filter fun route => route.table = mainTable

theorem mainRoutes_removeRouteTable {routes : List Route} (htable : table ≠ mainTable) :
    mainRoutes (removeRouteTable routes table) = mainRoutes routes := by
  unfold mainRoutes removeRouteTable
  induction routes with
  | nil => rfl
  | cons route routes ih =>
    by_cases hroute : route.table = table
    · simp [hroute, htable]
    · rw [eraseP_cons_of_neg (by simpa using hroute), filter_cons, filter_cons, ih]

/-! ## Steps -/

/-- What the database and the kernel look like as long as every import gets a
free number. -/
structure Daemon.Private (main : List Route) (daemon : Daemon) : Prop where
  imports : ∀ call index, daemon.imports.get call = some index → 0 ≤ index
  named : ∀ row ∈ daemon.tunnels.rows, row.Named
  applied : ∀ rule ∈ daemon.applied, rule.2 ∉ reservedTables
  direct : ∀ rule ∈ daemon.domainRules, rule.target = .direct → rule.table = mainTable
  main : mainRoutes daemon.routes = main

variable {main : List Route} {daemon after : Daemon}

/-- Setting up a table touches the routes of that table alone. -/
theorem ensureTunnelTable_spec (interface : Text) (ready : Bool) (htable : table ∉ reservedTables)
    (hprivate : daemon.Private main) :
    (daemon.ensureTunnelTable interface table ready).1.Private main := by
  have hmain : table ≠ mainTable := by
    rintro rfl
    simp [reservedTables] at htable
  unfold Daemon.ensureTunnelTable
  split
  · exact hprivate
  split
  · refine { hprivate with main := Eq.trans ?_ hprivate.main }
    simp only [addRouteTable]
    split
    · rfl
    · simp [mainRoutes, hmain]
  · exact { hprivate with }

section

variable (hprivate : daemon.Private main)
include hprivate

/-- The table that a tunnel is looked up with is not reserved. -/
theorem notMem_of_lookup {tunnel : Uuid} {interface : Text}
    (hlookup : ((daemon.tunnels.find tunnel).bind fun row =>
      row.table.map fun table => (row.interfaceName, table)) =
        some (interface, table)) : table ∉ reservedTables := by
  obtain ⟨row, hrow, htable⟩ := Option.bind_eq_some_iff.mp hlookup
  obtain ⟨found, hfound, heq⟩ := Option.map_eq_some_iff.mp htable
  obtain ⟨-, rfl⟩ := Prod.mk.inj heq
  exact (hprivate.named row (Keyed.find_eq_some.mp hrow).1).table_notMem hfound

theorem Daemon.Private.applyRule (tunnel : Uuid) (ready : Bool) :
    (daemon.applyRule tunnel ready).Private main := by
  unfold Daemon.applyRule
  split
  · exact hprivate
  next interface table hlookup =>
    have htable := notMem_of_lookup hprivate hlookup
    have hensured := ensureTunnelTable_spec interface ready htable hprivate
    split
    next after hresult =>
      rw [hresult] at hensured
      refine { hensured with applied := fun rule hrule => ?_ }
      cases mem_cons.mp hrule with
      | inl hnew => exact hnew ▸ htable
      | inr hold => exact hensured.applied rule hold
    next after hresult =>
      rw [hresult] at hensured
      exact hensured

theorem Daemon.Private.handleTunnelDown (tunnel : Uuid) :
    (daemon.handleTunnelDown tunnel).Private main := by
  unfold Daemon.handleTunnelDown
  split
  · exact hprivate
  next bound table hfound =>
    have htable := hprivate.applied _ (mem_of_find?_eq_some hfound)
    have hmain : table ≠ mainTable := by
      rintro rfl
      simp [reservedTables] at htable
    exact { hprivate with
      applied := fun rule hrule => hprivate.applied rule (mem_filter.mp hrule).1
      main := (mainRoutes_removeRouteTable hmain).trans hprivate.main }

theorem Daemon.Private.routeResolvedDomain (target : DomainRoutingTarget) (ready : Bool) :
    (daemon.routeResolvedDomain target ready).Private main := by
  cases target with
  | direct =>
    refine { hprivate with direct := fun rule hrule hdirect => ?_ }
    cases mem_cons.mp hrule with
    | inl hnew => rw [hnew]
    | inr hold => exact hprivate.direct rule hold hdirect
  | tunnel id =>
    simp only [Daemon.routeResolvedDomain]
    split
    · exact hprivate
    next interface table hlookup =>
      have htable := notMem_of_lookup hprivate hlookup
      have hensured := ensureTunnelTable_spec interface ready htable hprivate
      split
      next after hresult =>
        rw [hresult] at hensured
        refine { hensured with direct := fun rule hrule hdirect => ?_ }
        cases mem_cons.mp hrule with
        | inl hnew =>
          rw [hnew] at hdirect
          cases hdirect
        | inr hold => exact hensured.direct rule hold hdirect
      next after hresult =>
        rw [hresult] at hensured
        exact hensured

end

/-- An import is given a free number. -/
def Daemon.Spares (daemon : Daemon) : Label → Prop
  | .insert call _ => ∀ index ∈ daemon.imports.get call, Free index
  | _ => True

instance (daemon : Daemon) (label : Label) : Decidable (daemon.Spares label) := by
  cases label <;> delta Daemon.Spares <;> infer_instance

theorem Daemon.Private.next {label : Label} (hprivate : daemon.Private main)
    (hspares : daemon.Spares label) (hnext : TunnelTables.next daemon label = some after) :
    after.Private main := by
  revert hnext
  fun_cases TunnelTables.next daemon label
  any_goals rintro ⟨⟩
  · refine { hprivate with imports := fun other index hindex => ?_ }
    rw [HashMap.get_insert] at hindex
    split at hindex
    · cases hindex
      unfold TunnelTable.nextInterfaceIndex
      split
      next highest hmax =>
        obtain ⟨row, hrow, hcast⟩ := mem_map.mp (max?_eq_some_iff.mp hmax).1
        obtain ⟨index, -, hname⟩ := hprivate.named row hrow
        rw [hname, cast_tunnelInterfaceName] at hcast
        omega
      · exact le_refl 0
    · exact hprivate.imports other index hindex
  · rename_i call id
    intro hnext
    obtain ⟨index, hindex, rfl⟩ := Option.map_eq_some_iff.mp hnext
    refine { hprivate with imports := ?_, named := ?_ }
    · intro other number hnumber
      exact hprivate.imports other number (HashMap.get_remove_eq_some.mp hnumber).2
    · intro row hrow
      cases hinsert : daemon.tunnels.insert ⟨id, tunnelInterfaceName index⟩ with
      | none =>
        rw [hinsert] at hrow
        exact hprivate.named row hrow
      | some inserted =>
        rw [hinsert] at hrow
        cases TunnelTable.mem_rows_of_insert hinsert hrow with
        | inl hold => exact hprivate.named row hold
        | inr hnew =>
          obtain ⟨number, rfl⟩ := Int.eq_ofNat_of_zero_le (hprivate.imports call index hindex)
          exact ⟨number, hspares _ hindex, congrArg _ hnew⟩
  · exact { hprivate with named := fun row hrow => hprivate.named row (mem_filter.mp hrow).1 }
  · exact hprivate.applyRule _ _
  · exact hprivate.handleTunnelDown _
  · exact hprivate.routeResolvedDomain _ _

/-- As long as no import is given a number that leads to a reserved table, each
live tunnel has a table of its own outside the reserved ones, the main table
keeps its routes, and no direct domain rule points at the table of a tunnel. -/
theorem tunnel_tables_private {routes : List Route} {labels : List Label}
    {final : Daemon} (hspares : Meets next Daemon.Spares (.fresh routes) labels)
    (hrun : run next (.fresh routes) labels = some final) :
    (∀ row ∈ final.tunnels.rows, ∃ table, row.table = some table ∧ table ∉ reservedTables ∧
      ∀ other ∈ final.tunnels.rows, other.table = some table → other = row) ∧
    mainRoutes final.routes = mainRoutes routes ∧
    ∀ rule ∈ final.domainRules, rule.target = .direct →
      ∀ row ∈ final.tunnels.rows, row.table ≠ some rule.table := by
  have hfresh : (Daemon.fresh routes).Private (mainRoutes routes) := by
    refine ⟨?_, ?_, ?_, ?_, rfl⟩
    · intro call index hindex
      simp [Daemon.fresh] at hindex
    all_goals
      intro _ hmem
      cases hmem
  have hfinal : final.Private (mainRoutes routes) := run_invariant_of_meets
    (fun _ _ _ hprivate hcond hnext => hprivate.next hcond hnext)
    hfresh hspares hrun
  refine ⟨?_, hfinal.main, ?_⟩
  · intro row hrow
    obtain ⟨index, hfree, hname⟩ := hfinal.named row hrow
    have htable := table_of_tunnelInterfaceName hfree hname
    refine ⟨100 + index, htable, notMem_reservedTables hfree, ?_⟩
    intro other hother hsame
    obtain ⟨number, hother_free, hother_name⟩ := hfinal.named other hother
    rw [table_of_tunnelInterfaceName hother_free hother_name] at hsame
    have hindex : number = index := by simpa using hsame
    rw [hindex, ← hname] at hother_name
    exact inj_on_of_nodup_map final.tunnels.distinct hother hrow hother_name
  · intro rule hrule hdirect row hrow htable
    have hreserved := (hfinal.named row hrow).table_notMem htable
    rw [hfinal.direct rule hrule hdirect] at hreserved
    simp [reservedTables] at hreserved

/-! ## A tunnel on the main table -/

/-- One import after the other. -/
def importAll (count : ℕ) : List Label :=
  (List.range count).flatMap fun id => [.readIndex 0, .insert 0 id]

/-- The rows of tunnels numbered from zero. -/
def numbered (count : ℕ) : List TunnelRow :=
  (List.range count).map fun id => ⟨id, tunnelInterfaceName id⟩

theorem nextInterfaceIndex_numbered {table : TunnelTable} {count : ℕ}
    (hrows : table.rows = numbered count) : table.nextInterfaceIndex = count := by
  have hcasts : (table.rows.map fun row => castInteger
      (removeText tunnelInterfacePrefix 0 row.interfaceName)) =
        (range count).map fun (id : ℕ) => (id : ℤ) := by
    rw [hrows, numbered, map_map]
    apply map_congr_left
    intro id _
    exact cast_tunnelInterfaceName id
  unfold TunnelTable.nextInterfaceIndex
  rw [hcasts]
  cases count with
  | zero => rfl
  | succ count =>
    have hmax : ((range (count + 1)).map fun (id : ℕ) => (id : ℤ)).max? = some (count : ℤ) := by
      apply max?_eq_some_iff.mpr
      constructor
      · exact mem_map.mpr ⟨count, by simp, rfl⟩
      · intro number hnumber
        obtain ⟨id, hid, rfl⟩ := mem_map.mp hnumber
        have := mem_range.mp hid
        omega
    rw [hmax]
    rfl

theorem insert_numbered {table : TunnelTable} {count : ℕ} (hrows : table.rows = numbered count) :
    ∃ inserted, table.insert ⟨count, tunnelInterfaceName count⟩ =
      some inserted ∧ inserted.rows = numbered (count + 1) := by
  have hname : tunnelInterfaceName count ∉ table.rows.map TunnelRow.interfaceName := by
    rw [hrows]
    intro hmem
    obtain ⟨row, hrow, hrowName⟩ := mem_map.mp hmem
    obtain ⟨id, hid, rfl⟩ := mem_map.mp hrow
    have hcast := congrArg (fun name => castInteger (removeText tunnelInterfacePrefix 0 name))
      hrowName
    simp only [cast_tunnelInterfaceName] at hcast
    have := mem_range.mp hid
    omega
  have hid : table.toKeyed.find (TunnelRow.id ⟨count, tunnelInterfaceName count⟩) = none := by
    cases hfind : table.toKeyed.find (TunnelRow.id ⟨count, tunnelInterfaceName count⟩) with
    | none => rfl
    | some row =>
      obtain ⟨hmem, hrow⟩ := Keyed.find_eq_some.mp hfind
      rw [hrows] at hmem
      obtain ⟨id, hid, rfl⟩ := mem_map.mp hmem
      exact absurd hrow (mem_range.mp hid).ne
  have hlast : numbered (count + 1) = numbered count ++ [⟨count, tunnelInterfaceName count⟩] := by
    simp [numbered, range_succ]
  obtain ⟨keyed, hkeyed, hkeyedRows⟩ := Keyed.insert_of_find_eq_none hid
  unfold TunnelTable.insert
  rw [dif_pos hname]
  cases hattach : (table.toKeyed.insert ⟨count, tunnelInterfaceName count⟩).attach with
  | none =>
    rw [Option.attach_eq_none_iff.mp hattach] at hkeyed
    cases hkeyed
  | some found =>
    refine ⟨_, rfl, ?_⟩
    obtain rfl := Option.some.inj (found.2.symm.trans hkeyed)
    rw [hkeyedRows, hrows, hlast]

/-- Imports in a row number their tunnels from zero. -/
theorem run_importAll (routes : List Route) (count : ℕ) :
    ∃ final, run next (.fresh routes) (importAll count) = some final ∧
      final.tunnels.rows = numbered count ∧
      { final with tunnels := .empty, imports := .empty } = Daemon.fresh routes := by
  induction count with
  | zero => exact ⟨.fresh routes, rfl, rfl, rfl⟩
  | succ count ih =>
    obtain ⟨middle, hrun, hrows, hrest⟩ := ih
    obtain ⟨inserted, hinsert, hinserted⟩ := insert_numbered hrows
    have hlabels : importAll (count + 1) = importAll count ++ [.readIndex 0, .insert 0 count] := by
      simp [importAll, range_succ]
    have hindex := nextInterfaceIndex_numbered hrows
    refine ⟨{ middle with
        imports := (middle.imports.insert 0 count).remove 0
        tunnels := inserted }, ?_, hinserted, hrest⟩
    rw [hlabels, run_append, hrun]
    simp [run, next, hindex, hinsert]

/-- The default route of the machine. -/
def wanRoute : Route := ⟨mainTable, none, "eth0".toList⟩

/-- Two tunnels, one of which is used and the other deleted. -/
def usedAndDeleted : List Label :=
  importAll 2 ++ [.applyRule 1 true, .routeDomain .direct true, .tunnelDown 1, .delete 0]

theorem tunnel_tables_private_usedAndDeleted :
    ∃ final, run next (.fresh [wanRoute]) usedAndDeleted = some final ∧
      final.tunnels.rows.map TunnelRow.table = [some 101] ∧ final.domainRules = [⟨.direct, 254⟩] ∧
      (∀ row ∈ final.tunnels.rows, ∃ table, row.table = some table ∧ table ∉ reservedTables ∧
        ∀ other ∈ final.tunnels.rows, other.table = some table → other = row) ∧
      mainRoutes final.routes = mainRoutes [wanRoute] ∧
      ∀ rule ∈ final.domainRules, rule.target = .direct →
        ∀ row ∈ final.tunnels.rows, row.table ≠ some rule.table :=
  ⟨_, rfl, by decide +kernel, by decide +kernel,
    @tunnel_tables_private [wanRoute] usedAndDeleted _ (by decide +kernel) rfl⟩

/-- The 155th tunnel that is live at once is given the main table: taking it
down deletes the default route of the machine, and a direct domain rule points
at its table. -/
theorem tunnel_table_is_main : ∃ final ∈ run next (.fresh [wanRoute]) (importAll 155 ++
        [.applyRule 154 true, .routeDomain .direct true, .tunnelDown 154]),
      (∃ row ∈ final.tunnels.rows, row.table = some mainTable ∧
        ∃ rule ∈ final.domainRules, rule.target = .direct ∧ row.table = some rule.table) ∧
        mainRoutes final.routes = [] := by
  obtain ⟨imported, hrun, hrows, hrest⟩ := run_importAll [wanRoute] 155
  obtain ⟨tunnels, imports, applied, tables, routes, rules⟩ := imported
  obtain ⟨rfl, rfl, rfl, rfl⟩ : applied = [] ∧ tables = [] ∧ routes = [wanRoute] ∧ rules = [] := by
    simpa [Daemon.fresh] using hrest
  have hmem : ⟨154, tunnelInterfaceName 154⟩ ∈ tunnels.rows := by
    rw [hrows]
    exact mem_map.mpr ⟨154, by simp, rfl⟩
  have htable : TunnelRow.table ⟨154, tunnelInterfaceName 154⟩ = some mainTable :=
    congrArg (Option.map tableForIndex)
      (parseInterfaceIndex_tunnelInterfaceName (show 154 < 2 ^ 32 by decide))
  have hfind : tunnels.find 154 = some ⟨154, tunnelInterfaceName 154⟩ :=
    Keyed.find_eq_some.mpr ⟨hmem, rfl⟩
  have hbound : (Daemon.applyRule ⟨tunnels, imports, [], [], [wanRoute], []⟩
      154 true) = ⟨tunnels, imports, [(154, mainTable)], [mainTable], [wanRoute], []⟩ := by
    simp [Daemon.applyRule, hfind, htable, Daemon.ensureTunnelTable, addRouteTable, wanRoute]
  refine ⟨⟨tunnels, imports, [], [], [], [⟨.direct, mainTable⟩]⟩, ?_,
    ⟨_, hmem, htable, _, mem_singleton_self _, rfl, htable⟩, rfl⟩
  rw [run_append, hrun, Option.bind_some, run_cons, next, hbound]
  rfl

end Wardnet.TunnelTables
