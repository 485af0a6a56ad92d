import Wardnet.Core.Heap
import Wardnet.DnsFilter.Filter

/-!
# Runtime state of the filter service

Filters and profiles live in swappable cells that profiles and device contexts
share, so a store into a cell is seen by everything that refers to it.  A
check resolves the context of the client, reads the cells it refers to, and
folds in the two kill switches.
-/

namespace Wardnet.Filter

open Net (IpAddr)

/-- A handle to a shared, swappable cell. -/
abbrev Cell := ℕ

/-- `DeviceFilterContext`.  Contexts are shared by reference; `owner` stands
for that identity and names the device a context was materialised for. -/
structure DeviceFilterContext where
  enabled : Bool
  profiles : List Cell
  owner : Option Uuid
  deriving DecidableEq

def DeviceFilterContext.unfiltered (owner : Option Uuid) : DeviceFilterContext where
  enabled := true
  profiles := []
  owner := owner

structure DnsFilterConfig where
  enabled : Bool
  defaultProfileIds : List Uuid
  deriving DecidableEq

/-- The compiled filters: a profile's cell holds the cells of its filters. -/
structure Cells where
  filterHeap : Heap DnsFilter
  profileHeap : Heap (List Cell)
  blocklistFilters : HashMap Uuid Cell
  profileAuxFilters : HashMap Uuid Cell
  profiles : HashMap Uuid Cell

structure State extends Cells where
  contexts : HashMap IpAddr DeviceFilterContext
  deviceContexts : HashMap Uuid DeviceFilterContext
  defaultContext : DeviceFilterContext
  config : DnsFilterConfig

/-- The service before its first rebuild. -/
def State.new : State where
  filterHeap := .empty
  profileHeap := .empty
  blocklistFilters := .empty
  profileAuxFilters := .empty
  profiles := .empty
  contexts := .empty
  deviceContexts := .empty
  defaultContext := .unfiltered none
  config := ⟨true, []⟩

/-- The filters a profile cell holds right now. -/
def Cells.loadProfile (cells : Cells) (cell : Cell) : List DnsFilter :=
  ((cells.profileHeap.load cell).getD []).filterMap cells.filterHeap.load

/-- The profiles a context holds right now. -/
def Cells.loadContext (cells : Cells) (context : DeviceFilterContext) : List (List DnsFilter) :=
  context.profiles.map cells.loadProfile

/-- The context itself if it has profiles, and the default one if not. -/
def State.effectiveContext (state : State)
    (context : Option DeviceFilterContext) : DeviceFilterContext :=
  match context with
  | some context => if context.profiles = [] then state.defaultContext else context
  | none => state.defaultContext

structure CheckOutcome where
  action : FilterAction
  wouldHaveBlocked : Bool
  deriving DecidableEq

def outcomeWithContext (state : State) (context : Option DeviceFilterContext)
    (domain : Text) (qtype : RecordType) (client : IpAddr) : CheckOutcome :=
  let deviceEnabled := context.all DeviceFilterContext.enabled
  let action := checkContext
    (state.loadContext (state.effectiveContext context)) domain qtype client
  if !state.config.enabled || !deviceEnabled then ⟨.pass, action ≠ .pass⟩
  else ⟨action, false⟩

/-- `check`: the context of the client's address. -/
def check (state : State) (domain : Text) (qtype : RecordType) (client : IpAddr) : CheckOutcome :=
  outcomeWithContext state (state.contexts.get client) domain qtype client

/-- `check_for_device`: the context of the device, or else that of the
client's address. -/
def checkForDevice (state : State) (domain : Text) (qtype : RecordType)
    (device : Uuid) (client : IpAddr) : CheckOutcome :=
  outcomeWithContext state ((state.deviceContexts.get device).or (state.contexts.get client))
    domain qtype client

end Wardnet.Filter
