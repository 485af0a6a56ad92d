import Mathlib.Algebra.Group.Int.Defs
import Mathlib.Data.List.MinMax
import Mathlib.Data.List.TakeWhile
import Wardnet.Core.Keyed
import Wardnet.Core.Transition
import Wardnet.Routing.Service

/-!
# Routing tables of tunnels

An import numbers the interface of its tunnel one above the highest number in
the database, and the routing engine derives the table of a tunnel from the
name of its interface.  The numbers grow with the tunnels, and the kernel
reserves the tables 253 to 255.

The index is read by one statement and the row inserted by a later one, so
imports may interleave.  The tables are below `2 ^ 32`; an index above is not
parsed.
-/

namespace Wardnet.TunnelTables

open Routing (parseInterfaceIndex tableForIndex tunnelInterfacePrefix)
open List Transition

/-! ## Interface names -/

/-- `REPLACE(text, pattern, '')`; `skip` characters belong to an occurrence
that is being removed. -/
def removeText (pattern : Text) : ℕ → Text → Text
  | _, [] => []
  | skip + 1, _ :: rest => removeText pattern skip rest
  | 0, char :: rest =>
    if pattern.isPrefixOf (char :: rest) then removeText pattern (pattern.length - 1) rest
    else char :: removeText pattern 0 rest

/-- The number that a text of digits begins with. -/
def leadingNumber (text : Text) : ℕ :=
  (text.takeWhile Char.isDigit).foldl (fun acc char => acc * 10 + (char.toNat - '0'.toNat)) 0

/-- `CAST(text AS INTEGER)`. -/
def castInteger (text : Text) : ℤ :=
  match text.dropWhile Char.isWhitespace with
  | '-' :: rest => -leadingNumber rest
  | '+' :: rest => leadingNumber rest
  | rest => leadingNumber rest

def displayIndex : ℤ → Text
  | .ofNat index => Nat.toDigits 10 index
  | .negSucc index => '-' :: Nat.toDigits 10 (index + 1)

/-- The interface name that `import_tunnel` formats. -/
def tunnelInterfaceName (index : ℤ) : Text := tunnelInterfacePrefix ++ displayIndex index

structure TunnelRow where
  id : Uuid
  interfaceName : Text
  deriving DecidableEq

/-- The table of tunnels, whose column `interface_name` is unique. -/
structure TunnelTable extends Keyed TunnelRow.id where
  distinct : toKeyed.Distinct TunnelRow.interfaceName

namespace TunnelTable

def empty : TunnelTable where
  toKeyed := .empty
  distinct := List.nodup_nil

def insert (table : TunnelTable) (row : TunnelRow) : Option TunnelTable :=
  if hname : row.interfaceName ∉ table.rows.map TunnelRow.interfaceName then
    (table.toKeyed.insert row).attach.map fun keyed =>
      { toKeyed := keyed.1
        distinct := table.distinct.insert keyed.2 hname }
  else none

def delete (table : TunnelTable) (id : Uuid) : TunnelTable where
  toKeyed := table.toKeyed.deleteWhere fun row => row.id = id
  distinct := table.distinct.deleteWhere

def nextInterfaceIndex (table : TunnelTable) : ℤ :=
  match (table.rows.map fun row => castInteger
      (removeText tunnelInterfacePrefix 0 row.interfaceName)).max? with
  | some highest => highest + 1
  | none => 0

end TunnelTable

/-- The table of a tunnel, if its interface has a number. -/
def TunnelRow.table (row : TunnelRow) : Option ℕ :=
  (parseInterfaceIndex row.interfaceName).map tableForIndex

/-! ## The kernel -/

/-- A route; `none` is the default destination. -/
structure Route where
  table : ℕ
  destination : Option Net.Ipv4Network
  interface : Text
  deriving DecidableEq

/-- `RT_TABLE_MAIN`. -/
def mainTable : ℕ := 254

/-- `default`, `main` and `local`. -/
def reservedTables : List ℕ := [253, mainTable, 255]

/-- `add_route_table`: an existing default route of the table is kept. -/
def addRouteTable (routes : List Route) (interface : Text) (table : ℕ) : List Route :=
  if routes.any fun route => route.table = table ∧ route.destination = none then routes
  else routes ++ [⟨table, none, interface⟩]

/-- `remove_route_table`: the first route of the table goes. -/
def removeRouteTable (routes : List Route) (table : ℕ) : List Route :=
  routes.eraseP fun route => route.table = table

inductive DomainRoutingTarget
  | direct
  | tunnel (id : Uuid)
  deriving DecidableEq

structure DomainRule where
  target : DomainRoutingTarget
  table : ℕ
  deriving DecidableEq

/-! ## The daemon -/

structure Daemon where
  tunnels : TunnelTable
  /-- The imports in progress with the index they have read. -/
  imports : HashMap ℕ ℤ
  /-- The tunnel and the table of each applied rule. -/
  applied : List (Uuid × ℕ)
  tunnelTables : List ℕ
  routes : List Route
  domainRules : List DomainRule

namespace Daemon

/-- A daemon without tunnels. -/
def fresh (routes : List Route) : Daemon where
  tunnels := .empty
  imports := .empty
  applied := []
  tunnelTables := []
  routes := routes
  domainRules := []

/-- `ensure_tunnel_table`, which fails when the interface is not ready. -/
def ensureTunnelTable (daemon : Daemon) (interface : Text) (table : ℕ)
    (ready : Bool) : Daemon × Bool :=
  if table ∈ daemon.tunnelTables ∧ daemon.routes.any (fun route => route.table = table) then
    (daemon, true)
  else
    let missing := daemon.tunnelTables.filter fun known => known ≠ table
    if ready then
      ({ daemon with
          routes := addRouteTable daemon.routes interface table
          tunnelTables := missing ++ [table] }, true)
    else ({ daemon with tunnelTables := missing }, false)

/-- The tunnel part of `apply_rule`: a rule that cannot be bound to its tunnel
leaves no table behind. -/
def applyRule (daemon : Daemon) (tunnel : Uuid) (ready : Bool) : Daemon :=
  match (daemon.tunnels.find tunnel).bind fun row =>
      row.table.map fun table => (row.interfaceName, table) with
  | none => daemon
  | some (interface, table) =>
    match daemon.ensureTunnelTable interface table ready with
    | (after, true) => { after with applied := (tunnel, table) :: after.applied }
    | (after, false) => after

/-- `handle_tunnel_down`: the table is that of the first rule bound to the
tunnel. -/
def handleTunnelDown (daemon : Daemon) (tunnel : Uuid) : Daemon :=
  let applied := daemon.applied.filter fun rule => rule.1 ≠ tunnel
  match daemon.applied.find? fun rule => rule.1 = tunnel with
  | none => daemon
  | some (_, table) =>
    { daemon with
      applied := applied
      routes := removeRouteTable daemon.routes table
      tunnelTables := daemon.tunnelTables.filter fun known => known ≠ table }

def routeResolvedDomain (daemon : Daemon) (target : DomainRoutingTarget) (ready : Bool) : Daemon :=
  match target with
  | .direct => { daemon with domainRules := ⟨target, mainTable⟩ :: daemon.domainRules }
  | .tunnel id =>
    match (daemon.tunnels.find id).bind fun row =>
        row.table.map fun table => (row.interfaceName, table) with
    | none => daemon
    | some (interface, table) =>
      match daemon.ensureTunnelTable interface table ready with
      | (after, true) => { after with domainRules := ⟨target, table⟩ :: after.domainRules }
      | (after, false) => after

end Daemon

inductive Label
  | readIndex (call : ℕ)
  | insert (call : ℕ) (id : Uuid)
  | delete (id : Uuid)
  | applyRule (tunnel : Uuid) (ready : Bool)
  | tunnelDown (tunnel : Uuid)
  | routeDomain (target : DomainRoutingTarget) (ready : Bool)
  deriving DecidableEq

def next (daemon : Daemon) : Label → Option Daemon
  | .readIndex call =>
    some { daemon with imports := daemon.imports.insert call daemon.tunnels.nextInterfaceIndex }
  | .insert call id =>
    (daemon.imports.get call).map fun index =>
      { daemon with
        imports := daemon.imports.remove call
        tunnels := (daemon.tunnels.insert ⟨id, tunnelInterfaceName index⟩).getD daemon.tunnels }
  | .delete id => some { daemon with tunnels := daemon.tunnels.delete id }
  | .applyRule tunnel ready => some (daemon.applyRule tunnel ready)
  | .tunnelDown tunnel => some (daemon.handleTunnelDown tunnel)
  | .routeDomain target ready => some (daemon.routeResolvedDomain target ready)

/-! ## Inserted rows -/

theorem TunnelTable.mem_rows_of_insert {table inserted : TunnelTable}
    {row other : TunnelRow} (hinsert : table.insert row = some inserted)
    (hother : other ∈ inserted.rows) : other ∈ table.rows ∨ other = row := by
  unfold TunnelTable.insert at hinsert
  split at hinsert
  case isFalse => cases hinsert
  obtain ⟨⟨keyed, hkeyed⟩, -, rfl⟩ := Option.map_eq_some_iff.mp hinsert
  have hfind := Keyed.find_eq_some.mpr ⟨hother, rfl⟩
  rw [Keyed.find_insert hkeyed] at hfind
  split at hfind
  · exact .inr (Option.some.inj hfind).symm
  · exact .inl (Keyed.find_eq_some.mp hfind).1

/-! ## The encoding of names -/

theorem foldl_digits (index : ℕ) : (Nat.toDigits 10 index).foldl (fun acc char =>
      acc * 10 + (char.toNat - '0'.toNat)) 0 = index := by
  calc (Nat.toDigits 10 index).foldl (fun acc char =>
        acc * 10 + (char.toNat - '0'.toNat)) 0
      = Nat.ofDigitChars 10 (Nat.toDigits 10 index) 0 := by
        congr 1
        funext acc char
        rw [Nat.mul_comm]
    _ = index := Nat.ofDigitChars_ten_toDigits

variable {char : Char}

theorem isDigit_of_mem {index : ℕ} (hchar : char ∈ Nat.toDigits 10 index) : char.isDigit = true :=
  Nat.isDigit_of_mem_toDigits (by decide) (by decide) hchar

theorem parseInterfaceIndex_tunnelInterfaceName {index : ℕ} (hindex : index < 2 ^ 32) :
    parseInterfaceIndex (tunnelInterfaceName index) = some index := by
  have hhead : (Nat.toDigits 10 index).head? ≠ some '+' := by
    intro hplus
    have hdigit := isDigit_of_mem (mem_of_head? hplus)
    simp at hdigit
  have hdigits : Nat.toDigits 10 index ≠ [] ∧ (Nat.toDigits 10 index).all Char.isDigit = true :=
    ⟨Nat.toDigits_ne_nil, all_eq_true.mpr fun _ => isDigit_of_mem⟩
  have hstart : tunnelInterfacePrefix.isPrefixOf
      (tunnelInterfacePrefix ++ Nat.toDigits 10 index) = true :=
    isPrefixOf_iff_prefix.mpr (prefix_append ..)
  calc parseInterfaceIndex (tunnelInterfaceName index) = parseInterfaceIndex
          (tunnelInterfacePrefix ++ Nat.toDigits 10 index) := rfl
    _ = Text.parseUint (2 ^ 32) (Nat.toDigits 10 index) := by
        rw [parseInterfaceIndex, if_pos hstart, drop_left]
    _ = some index := by
        rw [Text.parseUint, if_neg hhead, if_pos hdigits, foldl_digits, if_pos hindex]

theorem removeText_skip (pattern start rest : Text) :
    removeText pattern start.length (start ++ rest) = removeText pattern 0 rest := by
  induction start with
  | nil => rfl
  | cons char start ih => exact ih

/-- Nothing is removed from a text without the first character of the
pattern. -/
theorem removeText_of_notMem {pattern text : Text}
    (hchar : char ∉ text) : removeText (char :: pattern) 0 text = text := by
  induction text with
  | nil => rfl
  | cons first rest ih =>
    have hne : char ≠ first := fun heq => hchar (heq ▸ mem_cons_self ..)
    have hstart : (char :: pattern).isPrefixOf (first :: rest) = false := by
      simp [isPrefixOf, hne]
    simp only [removeText, hstart]
    rw [if_neg Bool.false_ne_true, ih fun hrest => hchar (mem_cons_of_mem _ hrest)]

theorem removeText_tunnelInterfaceName (index : ℕ) :
    removeText tunnelInterfacePrefix 0 (tunnelInterfaceName index) = Nat.toDigits 10 index := by
  have hw : 'w' ∉ Nat.toDigits 10 index := by
    intro hmem
    have hdigit := isDigit_of_mem hmem
    simp at hdigit
  have hstart : ['w', 'g', '_', 'w', 'a', 'r', 'd'].isPrefixOf
      ('w' :: (['g', '_', 'w', 'a', 'r', 'd'] ++ Nat.toDigits 10 index)) =
        true :=
    isPrefixOf_iff_prefix.mpr ⟨Nat.toDigits 10 index, rfl⟩
  calc removeText ['w', 'g', '_', 'w', 'a', 'r', 'd'] 0
        ('w' :: (['g', '_', 'w', 'a', 'r', 'd'] ++ Nat.toDigits 10 index))
    _ = removeText ['w', 'g', '_', 'w', 'a', 'r', 'd'] 0
          (Nat.toDigits 10 index) := removeText_skip _ ['g', '_', 'w', 'a', 'r', 'd'] _
    _ = Nat.toDigits 10 index := removeText_of_notMem hw

theorem isWhitespace_of_isDigit (hdigit : char.isDigit = true) : char.isWhitespace = false := by
  cases hspace : char.isWhitespace with
  | false => rfl
  | true =>
    simp only [Char.isWhitespace, Bool.or_eq_true, decide_eq_true_eq] at hspace
    rcases hspace with ((rfl | rfl) | rfl) | rfl <;> simp at hdigit

theorem castInteger_toDigits (index : ℕ) : castInteger (Nat.toDigits 10 index) = index := by
  have hnumber : leadingNumber (Nat.toDigits 10 index) = index := by
    have hall : (Nat.toDigits 10 index).takeWhile Char.isDigit = Nat.toDigits 10 index :=
      takeWhile_eq_self_iff.mpr fun _ => isDigit_of_mem
    rw [leadingNumber, hall, foldl_digits]
  have htrimmed : (Nat.toDigits 10 index).dropWhile Char.isWhitespace = Nat.toDigits 10 index := by
    apply dropWhile_eq_self_iff.mpr
    intro hlength
    simp [isWhitespace_of_isDigit (isDigit_of_mem (getElem_mem hlength))]
  unfold castInteger
  rw [htrimmed]
  split
  next rest hdigits =>
    have hsign : '-' ∈ Nat.toDigits 10 index := hdigits ▸ mem_cons_self ..
    have hdigit := isDigit_of_mem hsign
    simp at hdigit
  next rest hdigits =>
    have hsign : '+' ∈ Nat.toDigits 10 index := hdigits ▸ mem_cons_self ..
    have hdigit := isDigit_of_mem hsign
    simp at hdigit
  · rw [hnumber]

theorem cast_tunnelInterfaceName (index : ℕ) :
    castInteger (removeText tunnelInterfacePrefix 0 (tunnelInterfaceName index)) = index := by
  rw [removeText_tunnelInterfaceName, castInteger_toDigits]

end Wardnet.TunnelTables
