import Wardnet.DnsFilter.Repository

/-!
# Rebuilding the filters

The rebuild functions of the filter service: each one reads the tables and
patches one layer of the runtime state, and `rebuildAll` starts over.  Filters
and profiles that exist already are swapped in their cells.  Parsers of rule
lines, addresses and schedules are parameters.
-/

namespace Wardnet.Filter

open Net (IpAddr)

/-- The parsers the service relies on; a rule line may hold no rule, and a
failed parse names the error. -/
structure Parsers where
  parseLine : Text → Except String (Option ParsedRule)
  parseIp : Text → Option IpAddr
  parseSchedule : Text → Except String Unit

/-- The rule of a line that holds one. -/
def Parsers.ruleOf (parsers : Parsers) (line : Text) : Option ParsedRule :=
  (parsers.parseLine line).toOption.join

namespace Cells

def storeBlocklist (cells : Cells) (id : Uuid) (filter : DnsFilter) : Cells :=
  { cells with
    filterHeap := cells.filterHeap.put cells.blocklistFilters id filter
    blocklistFilters := cells.filterHeap.link cells.blocklistFilters id }

def storeAux (cells : Cells) (id : Uuid) (filter : DnsFilter) : Cells :=
  { cells with
    filterHeap := cells.filterHeap.put cells.profileAuxFilters id filter
    profileAuxFilters := cells.filterHeap.link cells.profileAuxFilters id }

def storeProfile (cells : Cells) (id : Uuid) (filters : List Cell) : Cells :=
  { cells with
    profileHeap := cells.profileHeap.put cells.profiles id filters
    profiles := cells.profileHeap.link cells.profiles id }

/-- Drop a profile that is gone. -/
def removeProfile (cells : Cells) (id : Uuid) : Cells :=
  { cells with
    profiles := cells.profiles.remove id
    profileAuxFilters := cells.profileAuxFilters.remove id }

end Cells

/-- The filter a blocklist compiles to. -/
def Blocklist.compile (blocklist : Blocklist) : DnsFilter :=
  if blocklist.enabled then .ofBlocklist blocklist.domains else .empty

def rebuildBlocklistInner (tables : Tables) (cells : Cells) (id : Uuid) : Cells :=
  match tables.getBlocklist id with
  | none => { cells with blocklistFilters := cells.blocklistFilters.remove id }
  | some blocklist => cells.storeBlocklist id blocklist.compile

/-- The loop of `rebuild_profile_inner` over the blocklists of a profile: the
cells of the enabled ones, built on demand. -/
def collectFilters (tables : Tables) : Cells → List Blocklist → Cells × List Cell
  | cells, [] => (cells, [])
  | cells, blocklist :: blocklists =>
    if blocklist.enabled then
      let cells :=
        if (cells.blocklistFilters.get blocklist.id).isSome then cells
        else rebuildBlocklistInner tables cells blocklist.id
      let rest := collectFilters tables cells blocklists
      (rest.1, (cells.blocklistFilters.get blocklist.id).toList ++ rest.2)
    else collectFilters tables cells blocklists

/-- The allowlist and the custom rules of a profile as one filter. -/
def auxFilter (parsers : Parsers) (tables : Tables) (profileId : Uuid) : DnsFilter :=
  let inputs := tables.loadFilterInputsForProfile profileId
  .build parsers.ruleOf [] inputs.1 inputs.2

def rebuildProfileInner (parsers : Parsers) (tables : Tables) (cells : Cells)
    (profileId : Uuid) : Cells :=
  match tables.getProfile profileId with
  | none => cells.removeProfile profileId
  | some _ =>
    let cells := cells.storeAux profileId (auxFilter parsers tables profileId)
    let aux := cells.profileAuxFilters.get profileId
    let collected := collectFilters tables cells (tables.listBlocklists profileId)
    collected.1.storeProfile profileId (collected.2 ++ aux.toList)

def rebuildBlocklists (tables : Tables) (cells : Cells) (blocklists : List Blocklist) : Cells :=
  blocklists.foldl (fun cells blocklist => rebuildBlocklistInner tables cells blocklist.id) cells

/-- The filters of a profile: its blocklists, then the profile itself. -/
def rebuildProfileFilters (parsers : Parsers) (tables : Tables)
    (cells : Cells) (profileId : Uuid) : Cells :=
  rebuildProfileInner parsers tables
    (rebuildBlocklists tables cells (tables.listBlocklists profileId))
    profileId

def materialiseContext (profiles : HashMap Uuid Cell)
    (settings : DeviceDnsFilterSettings) : DeviceFilterContext :=
  if settings.enabled then
    ⟨true, settings.profileIds.filterMap profiles.get, some settings.deviceId⟩
  else ⟨false, [], some settings.deviceId⟩

/-- The context of a device with or without settings. -/
def deviceContext (tables : Tables) (profiles : HashMap Uuid Cell)
    (deviceId : Uuid) : DeviceFilterContext :=
  match tables.findDeviceSettings deviceId with
  | none => .unfiltered (some deviceId)
  | some settings => materialiseContext profiles settings

/-- Set the context of a device, and that of its address if it has one. -/
def State.insertContext (state : State) (ip : Option IpAddr)
    (deviceId : Uuid) (context : DeviceFilterContext) : State :=
  { state with
    contexts :=
      match ip with
      | some ip => state.contexts.insert ip context
      | none => state.contexts
    deviceContexts := state.deviceContexts.insert deviceId context }

def rebuildDeviceInner (parsers : Parsers) (tables : Tables) (state : State)
    (deviceId : Uuid) : State :=
  state.insertContext ((tables.findDevice deviceId).bind fun device =>
      parsers.parseIp device.lastIp)
    deviceId (deviceContext tables state.profiles deviceId)

def rebuildDefaultContextInner (state : State) : State :=
  { state with
    defaultContext :=
      if state.config.defaultProfileIds = [] then .unfiltered none
      else
        let profiles := state.config.defaultProfileIds.filterMap state.profiles.get
        if profiles = [] then .unfiltered none else ⟨true, profiles, none⟩ }

def refreshConfig (tables : Tables) (state : State) : State :=
  { state with config := tables.config }

/-- The state with every map wiped. -/
def State.clear (state : State) : State :=
  { state with
    blocklistFilters := .empty
    profileAuxFilters := .empty
    profiles := .empty
    contexts := .empty
    deviceContexts := .empty }

def rebuildProfiles (parsers : Parsers) (tables : Tables) (state : State)
    (profiles : List DnsFilterProfile) : State :=
  profiles.foldl (fun state profile =>
    { state with
      toCells := rebuildProfileFilters parsers tables state.toCells profile.id }) state

/-- Set the contexts of devices with settings and of their addresses. -/
def insertContexts (parsers : Parsers) (state : State)
    (entries : List (DeviceDnsFilterSettings × Text)) : State :=
  entries.foldl (fun state entry =>
    state.insertContext (parsers.parseIp entry.2) entry.1.deviceId
      (materialiseContext state.profiles entry.1)) state

def rebuildAll (parsers : Parsers) (tables : Tables) (state : State) : State :=
  let cleared := (refreshConfig tables state).clear
  let filtered := rebuildProfiles parsers tables cleared tables.listProfiles
  rebuildDefaultContextInner (insertContexts parsers filtered tables.listDeviceSettingsWithIps)

/-- Rebuild the devices of the list that are assigned a profile. -/
def rebuildAssigned (parsers : Parsers) (tables : Tables) (profileId : Uuid)
    (state : State) (entries : List (DeviceDnsFilterSettings × Text)) : State :=
  entries.foldl (fun state entry =>
    if profileId ∈ entry.1.profileIds then rebuildDeviceInner parsers tables state entry.1.deviceId
    else state) state

def rebuildProfile (parsers : Parsers) (tables : Tables) (state : State)
    (profileId : Uuid) : State :=
  let filtered :=
    { state with
      toCells := rebuildProfileFilters parsers tables state.toCells profileId }
  let defaulted :=
    if profileId ∈ filtered.config.defaultProfileIds then rebuildDefaultContextInner filtered
    else filtered
  rebuildAssigned parsers tables profileId defaulted tables.listDeviceSettingsWithIps

def rebuildDefaultContext (tables : Tables) (state : State) : State :=
  rebuildDefaultContextInner (refreshConfig tables state)

/-- Drop whatever context an address has. -/
def State.removeContext (state : State) (ip : Option IpAddr) : State :=
  { state with
    contexts :=
      match ip with
      | some ip => state.contexts.remove ip
      | none => state.contexts }

/-- `handle_device_ip_changed`: whatever context the old address has moves to
the new one. -/
def handleDeviceIpChanged (parsers : Parsers) (tables : Tables)
    (state : State) (deviceId : Uuid) (oldIp newIp : Text) : State :=
  let old := parsers.parseIp oldIp
  let removed := state.removeContext old
  match parsers.parseIp newIp, old.bind state.contexts.get with
  | some ip, some context => { removed with contexts := removed.contexts.insert ip context }
  | _, _ => rebuildDeviceInner parsers tables removed deviceId

end Wardnet.Filter
