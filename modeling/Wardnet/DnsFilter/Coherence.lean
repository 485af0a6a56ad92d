import Wardnet.DnsFilter.Rebuild

/-!
# What the runtime state stands for

The tables alone determine a verdict: `Tables.checkForDevice` reads it off
them.  The runtime state answers with its cells and contexts.  A coherent
state holds in its cells what the tables say and refers to them from its
contexts, so the two verdicts agree.  Parts of the state may be stale while a
change is being handled; each rebuild makes one part coherent again.
-/

namespace Wardnet.Filter

open Heap List Tables
open Net (IpAddr)

/-! ## Verdicts of the tables -/

/-- What a profile filters by: its enabled blocklists, and its allowlist and
rules. -/
structure Content where
  blocklists : List (Uuid × DnsFilter)
  aux : DnsFilter

def Content.filters (content : Content) : List DnsFilter :=
  content.blocklists.map Prod.snd ++ [content.aux]

namespace Tables

def hasProfile (tables : Tables) (id : Uuid) : Bool := (tables.getProfile id).isSome

def content (parsers : Parsers) (tables : Tables) (profileId : Uuid) : Option Content :=
  if tables.hasProfile profileId then
    some
      { blocklists := ((tables.listBlocklists profileId).filter
          Blocklist.enabled).map fun blocklist => (blocklist.id, blocklist.compile)
        aux := auxFilter parsers tables profileId }
  else none

/-- The filters of the profiles that exist. -/
def profileFilters (parsers : Parsers) (tables : Tables)
    (profileIds : List Uuid) : List (List DnsFilter) :=
  profileIds.filterMap fun id => (tables.content parsers id).map Content.filters

/-- The settings of the device at an address. -/
def occupant (parsers : Parsers) (tables : Tables) (ip : IpAddr) : Option DeviceDnsFilterSettings :=
  tables.devices.findSome? fun device =>
    if parsers.parseIp device.lastIp = some ip then tables.findDeviceSettings device.id
    else none

/-- The filters of a device with the given settings: those of its profiles,
or the default ones. -/
def effectiveFilters (parsers : Parsers) (tables : Tables)
    (settings : Option DeviceDnsFilterSettings) : List (List DnsFilter) :=
  let own := (settings.filter DeviceDnsFilterSettings.enabled).elim []
    fun settings => tables.profileFilters parsers settings.profileIds
  if own = [] then tables.profileFilters parsers tables.config.defaultProfileIds
  else own

/-- The verdict for a device with the given settings. -/
def outcome (parsers : Parsers) (tables : Tables)
    (settings : Option DeviceDnsFilterSettings) (domain : Text)
    (qtype : RecordType) (client : IpAddr) : CheckOutcome :=
  let action := checkContext (tables.effectiveFilters parsers settings) domain qtype client
  if tables.config.enabled ∧ settings.all DeviceDnsFilterSettings.enabled then ⟨action, false⟩
  else ⟨.pass, action ≠ .pass⟩

/-- The verdict the tables give a query of a device from an address. -/
def checkForDevice (parsers : Parsers) (tables : Tables) (domain : Text)
    (qtype : RecordType) (device : Uuid) (client : IpAddr) : CheckOutcome :=
  tables.outcome parsers ((tables.findDeviceSettings device).or (tables.occupant parsers client))
    domain qtype client

end Tables

/-! ## Coherent states -/

/-- The maps name allocated cells, each one once. -/
structure Linked (cells : Cells) : Prop where
  blocklists : Indexes cells.filterHeap cells.blocklistFilters
  aux : Indexes cells.filterHeap cells.profileAuxFilters
  profiles : Indexes cells.profileHeap cells.profiles
  apart : Apart cells.blocklistFilters cells.profileAuxFilters

/-- The cells a profile with this content refers to. -/
def Cells.filtersOf (cells : Cells) (id : Uuid) (content : Content) : List Cell :=
  content.blocklists.filterMap (fun entry =>
    cells.blocklistFilters.get entry.1) ++
    (cells.profileAuxFilters.get id).toList

/-- The profile's cell refers to cells that hold its content. -/
structure Serves (cells : Cells) (id : Uuid) (content : Content) : Prop where
  blocklists : ∀ entry ∈ content.blocklists,
    Holds cells.filterHeap cells.blocklistFilters entry.1 entry.2
  aux : Holds cells.filterHeap cells.profileAuxFilters id content.aux
  profile : Holds cells.profileHeap cells.profiles id (cells.filtersOf id content)

/-- The profile is served with its content, or not at all if it does not
exist. -/
def ServesProfile (cells : Cells) (id : Uuid) : Option Content → Prop
  | some content => Serves cells id content
  | none => cells.profiles.get id = none

/-- The parts of the state that a change has left behind the tables. -/
structure Stale where
  profile : Uuid → Prop
  device : Uuid → Prop
  default : Prop

/-- Nothing is behind. -/
def Stale.none : Stale := ⟨fun _ => False, fun _ => False, False⟩

structure Coherent (parsers : Parsers) (tables : Tables) (stale : Stale)
    (state : State) : Prop where
  linked : Linked state.toCells
  profiles : ∀ id, ¬ stale.profile id → ServesProfile state.toCells id (tables.content parsers id)
  devices : ∀ device, ¬ stale.device device → state.deviceContexts.get device =
      (tables.findDeviceSettings device).map (materialiseContext state.profiles)
  addresses : ∀ ip, (∀ settings ∈ tables.occupant parsers ip, ¬ stale.device settings.deviceId) →
    state.contexts.get ip = (tables.occupant parsers ip).map (materialiseContext state.profiles)
  default : ¬ stale.default → state.defaultContext =
    ⟨true, state.config.defaultProfileIds.filterMap state.profiles.get, none⟩
  enabled : state.config.enabled = tables.config.enabled
  defaultIds : state.config.defaultProfileIds.filter tables.hasProfile =
    tables.config.defaultProfileIds.filter tables.hasProfile

/-! ## Coherent states give the verdicts of the tables -/

theorem Serves.loadProfile {cells : Cells} {id : Uuid} {content : Content}
    (hserves : Serves cells id content) :
    (cells.profiles.get id).map cells.loadProfile = some content.filters := by
  obtain ⟨cell, hget, hload⟩ := hserves.profile
  have hblocklists : (content.blocklists.filterMap fun entry =>
      cells.blocklistFilters.get entry.1).filterMap cells.filterHeap.load =
      content.blocklists.map Prod.snd := by
    rw [filterMap_filterMap]
    refine filterMap_eq_map_iff_forall_eq_some.mpr fun entry hentry => ?_
    exact Holds.bind_load (hserves.blocklists entry hentry)
  have haux : (cells.profileAuxFilters.get id).toList.filterMap
      cells.filterHeap.load = [content.aux] := by
    obtain ⟨auxCell, hauxGet, hauxLoad⟩ := hserves.aux
    simp [hauxGet, hauxLoad]
  rw [hget]
  simp only [Option.map_some, Cells.loadProfile, hload, Option.getD_some,
    Cells.filtersOf, filterMap_append, hblocklists, haux, Content.filters]

section Verdicts

variable {parsers : Parsers} {tables : Tables} {state : State}

theorem map_loadProfile
    (hprofiles : ∀ id, ServesProfile state.toCells id (tables.content parsers id))
    (ids : List Uuid) : (ids.filterMap state.profiles.get).map state.loadProfile =
      tables.profileFilters parsers ids := by
  rw [map_filterMap]
  refine filterMap_congr fun id _ => ?_
  have hid := hprofiles id
  cases hcontent : tables.content parsers id with
  | none =>
    rw [hcontent] at hid
    simp only [ServesProfile] at hid
    simp [hid]
  | some content =>
    rw [hcontent] at hid
    exact hid.loadProfile

theorem profileFilters_filter_hasProfile (ids : List Uuid) :
    tables.profileFilters parsers (ids.filter tables.hasProfile) =
      tables.profileFilters parsers ids := by
  unfold profileFilters
  rw [filterMap_filter]
  refine filterMap_congr fun id _ => ?_
  cases hprofile : tables.hasProfile id with
  | true => simp
  | false => simp [content, hprofile]

section

variable (hcoherent : Coherent parsers tables .none state)
include hcoherent

/-- The context of a device loads the filters the tables give it. -/
theorem Coherent.loadEffective (settings : Option DeviceDnsFilterSettings) :
    state.loadContext (state.effectiveContext (settings.map (materialiseContext state.profiles))) =
      tables.effectiveFilters parsers settings := by
  have hprofiles : ∀ id, ServesProfile state.toCells id (tables.content parsers id) :=
    fun id => hcoherent.profiles id not_false
  have hdefault : state.loadContext state.defaultContext =
      tables.profileFilters parsers tables.config.defaultProfileIds := by
    rw [hcoherent.default not_false, Cells.loadContext]
    rw [map_loadProfile hprofiles, ← profileFilters_filter_hasProfile,
      hcoherent.defaultIds, profileFilters_filter_hasProfile]
  cases settings with
  | none => exact hdefault
  | some settings =>
    cases henabled : settings.enabled with
    | false =>
      simpa [State.effectiveContext, materialiseContext, henabled,
        effectiveFilters, Option.filter] using hdefault
    | true =>
      have hown := map_loadProfile hprofiles settings.profileIds
      simp only [State.effectiveContext, materialiseContext, henabled,
        effectiveFilters, Option.filter, Option.map_some, if_true,
        Option.elim_some, ← hown, map_eq_nil_iff]
      split
      · exact hdefault
      · rfl

/-- A coherent state answers as the tables say. -/
theorem Coherent.checkForDevice_eq (domain : Text)
    (qtype : RecordType) (device : Uuid) (client : IpAddr) :
    checkForDevice state domain qtype device client =
      tables.checkForDevice parsers domain qtype device client := by
  unfold checkForDevice Tables.checkForDevice
  rw [hcoherent.devices device not_false,
    hcoherent.addresses client (fun _ _ => not_false), ← Option.map_or]
  generalize (tables.findDeviceSettings device).or _ = settings
  have hkill : (settings.map (materialiseContext state.profiles)).all DeviceFilterContext.enabled =
      settings.all DeviceDnsFilterSettings.enabled := by
    cases settings with
    | none => rfl
    | some settings => cases henabled : settings.enabled <;> simp [materialiseContext, henabled]
  unfold outcomeWithContext outcome
  simp only [hcoherent.loadEffective, hkill, hcoherent.enabled]
  cases tables.config.enabled <;> cases settings.all DeviceDnsFilterSettings.enabled <;> rfl

end

end Verdicts

end Wardnet.Filter
