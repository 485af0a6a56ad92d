import Wardnet.DnsFilter.Refinement

/-!
# The index of contexts by address

Queries that do not name their device are answered by the context stored under
the client's address.  The index should hold, for every device with settings,
its context under its current address, and no context of a device that is
somewhere else.  A move or an assignment is stored first, and the runner
handles its event later, with what the tables hold by then.  An address change
moves whatever the old address holds, and a rebuild overwrites whatever the
current one holds, so two devices that use one address at the same time, be it
in the middle of a swap, break the index, and so does a device that is written
again before the runner gets to it.  In all other runs the index follows the
devices whose events have been handled.
-/

namespace Wardnet.Filter

open Option Transition
open Net (IpAddr)

/-! ## Events -/

/-- What is stored about one device. -/
inductive DeviceWrite
  | move (deviceId : Uuid) (newIp : Text)
  | assign (deviceId : Uuid) (enabled : Bool) (profileIds : List Uuid)

def DeviceWrite.device : DeviceWrite → Uuid
  | .move deviceId _ | .assign deviceId _ _ => deviceId

/-- What the runner is told of it. -/
inductive IndexEvent
  | deviceIpChanged (deviceId : Uuid) (oldIp newIp : Text)
  | deviceAssignment (deviceId : Uuid)

def IndexEvent.device : IndexEvent → Uuid
  | .deviceIpChanged deviceId _ _ | .deviceAssignment deviceId => deviceId

/-- A move is an event only if the address differs, and an assignment only if
it is stored. -/
def store (tables : Tables) : DeviceWrite → Option (Tables × IndexEvent)
  | .move deviceId newIp =>
    (tables.findDevice deviceId).bind fun device =>
      if device.lastIp = newIp then none
      else some (tables.updateLastSeenAndIp deviceId newIp,
        .deviceIpChanged deviceId device.lastIp newIp)
  | .assign deviceId enabled profileIds =>
    match updateDeviceSettings tables deviceId enabled profileIds with
    | (after, .ok _) => some (after, .deviceAssignment deviceId)
    | (_, .error _) => none

def handleEvent (parsers : Parsers) (tables : Tables) (state : State) : IndexEvent → State
  | .deviceIpChanged deviceId oldIp newIp =>
    handleDeviceIpChanged parsers tables state deviceId oldIp newIp
  | .deviceAssignment deviceId => rebuildDeviceInner parsers tables state deviceId

/-- The tables, the index, and the events that the runner has not handled. -/
structure Backlog where
  tables : Tables
  service : State
  pending : List IndexEvent

def Backlog.rebuilt (parsers : Parsers) (tables : Tables) (state : State) : Backlog :=
  ⟨tables, rebuildAll parsers tables state, []⟩

inductive IndexLabel
  | store (write : DeviceWrite)
  | handle

def Backlog.next (parsers : Parsers) (backlog : Backlog) : IndexLabel → Option Backlog
  | .store write =>
    (store backlog.tables write).map fun (tables, event) =>
      { backlog with tables := tables, pending := backlog.pending ++ [event] }
  | .handle =>
    match backlog.pending with
    | [] => none
    | event :: pending => some { backlog with
        service := handleEvent parsers backlog.tables backlog.service event
        pending := pending }

/-! ## What the index holds -/

/-- The index has the context of every device with settings under its address,
and nothing else but contexts of devices under their addresses. -/
structure IndexFollows (parsers : Parsers) (tables : Tables) (state : State) : Prop where
  current : ∀ device ∈ tables.devices, ∀ settings,
    tables.findDeviceSettings device.id = some settings →
    ∀ ip, parsers.parseIp device.lastIp = some ip →
    state.contexts.get ip = some (materialiseContext state.profiles settings)
  vacated : ∀ ip context, state.contexts.get ip = some context →
    ∃ device ∈ tables.devices, context.owner = some device.id ∧
      parsers.parseIp device.lastIp = some ip

section Index

variable {parsers : Parsers} {before after : Tables} {state result : State}

@[simp]
theorem owner_materialiseContext (profiles : HashMap Uuid Cell)
    (settings : DeviceDnsFilterSettings) :
    (materialiseContext profiles settings).owner = some settings.deviceId := by
  unfold materialiseContext
  split <;> rfl

theorem owner_deviceContext (tables : Tables) (profiles : HashMap Uuid Cell) (deviceId : Uuid) :
    (deviceContext tables profiles deviceId).owner = some deviceId := by
  unfold deviceContext
  cases hsettings : tables.findDeviceSettings deviceId with
  | none => rfl
  | some settings => rw [owner_materialiseContext, deviceId_of_findDeviceSettings hsettings]

/-- A full rebuild indexes the devices with settings. -/
theorem indexFollows_rebuildAll {tables : Tables}
    (hwell : tables.WellFormed) (hapart : AddressesApart parsers tables) (state : State) :
    IndexFollows parsers tables (rebuildAll parsers tables state) := by
  have hcoherent := coherent_rebuildAll hwell hapart state
  constructor
  · intro device hmem settings hsettings ip hip
    rw [hcoherent.addresses ip fun _ _ => not_false, occupant_of_mem hapart hmem hip hsettings]
    rfl
  · intro ip context hcontext
    rw [hcoherent.addresses ip fun _ _ => not_false, map_eq_some_iff] at hcontext
    obtain ⟨settings, hoccupant, rfl⟩ := hcontext
    obtain ⟨device, hmem, hip, hsettings⟩ := occupant_eq_some hoccupant
    refine ⟨device, hmem, ?_, hip⟩
    rw [owner_materialiseContext, deviceId_of_findDeviceSettings hsettings]

/-- One device is taken from one address and put under another: what the other
devices and their addresses see of it. -/
structure Relocation (parsers : Parsers) (before after : Tables)
    (state result : State) (deviceId : Uuid) (oldIp newIp : Text) : Prop where
  profiles : result.profiles = state.profiles
  leaves : ∀ device ∈ before.devices, device.id = deviceId → device.lastIp = oldIp
  arrives : ∃ device ∈ after.devices, device.id = deviceId
  takes : ∀ device ∈ after.devices, device.id = deviceId → device.lastIp = newIp
  others : ∀ device, device.id ≠ deviceId → (device ∈ after.devices ↔ device ∈ before.devices)
  settings : ∀ id, id ≠ deviceId → after.findDeviceSettings id = before.findDeviceSettings id
  contexts : ∃ context, context.owner = some deviceId ∧
    (∀ settings, after.findDeviceSettings deviceId = some settings →
      context = materialiseContext state.profiles settings) ∧
    ∀ ip, result.contexts.get ip = if parsers.parseIp newIp = some ip then some context
      else if parsers.parseIp oldIp = some ip then none
      else state.contexts.get ip

/-- The index keeps following the devices when one of them is put under an
address that no other one claims. -/
theorem IndexFollows.relocate {deviceId : Uuid} {oldIp newIp : Text}
    (hfollows : IndexFollows parsers before state)
    (hmove : Relocation parsers before after state result deviceId oldIp newIp)
    (hold : AddressUnclaimed parsers before deviceId oldIp)
    (hnew : AddressUnclaimed parsers before deviceId newIp) :
    IndexFollows parsers after result := by
  obtain ⟨context, howner, hcontext, hget⟩ := hmove.contexts
  constructor
  · intro device hmem settings hsettings ip hip
    rw [hget, hmove.profiles]
    by_cases hid : device.id = deviceId
    · rw [hmove.takes device hmem hid] at hip
      rw [hid] at hsettings
      rw [if_pos hip, hcontext settings hsettings]
    · have hbefore := (hmove.others device hid).mp hmem
      rw [hmove.settings device.id hid] at hsettings
      have hsome := isSome_iff_exists.mpr ⟨settings, hsettings⟩
      have haway : ∀ text, AddressUnclaimed parsers before deviceId text →
          parsers.parseIp text ≠ some ip := by
        intro text hunclaimed htext
        exact hunclaimed device hbefore hid hsome (by simp [htext]) (htext.trans hip.symm)
      rw [if_neg (haway newIp hnew), if_neg (haway oldIp hold)]
      exact hfollows.current device hbefore settings hsettings ip hip
  · intro ip found hfound
    rw [hget] at hfound
    split at hfound
    next hip =>
      cases hfound
      obtain ⟨device, hmem, rfl⟩ := hmove.arrives
      exact ⟨device, hmem, howner, hmove.takes device hmem rfl ▸ hip⟩
    · split at hfound
      · cases hfound
      next hip =>
        obtain ⟨device, hmem, howns, hat⟩ := hfollows.vacated ip found hfound
        have hid : device.id ≠ deviceId := by
          intro hid
          rw [hmove.leaves device hmem hid] at hat
          exact hip hat
        exact ⟨device, (hmove.others device hid).mpr hmem, howns, hat⟩

end Index

/-! ## Events relocate one device -/

/-- No other device is at the address. -/
def AddressUnshared (parsers : Parsers) (tables : Tables) (deviceId : Uuid) (ip : Text) : Prop :=
  ∀ other ∈ tables.devices, other.id ≠ deviceId → (parsers.parseIp ip).isSome →
    parsers.parseIp ip ≠ parsers.parseIp other.lastIp
  deriving Decidable

section Events

variable {parsers : Parsers} {tables after : Tables} {state : State} {deviceId : Uuid}

variable {device : Device}

theorem contexts_rebuildDeviceInner (hdevice : tables.findDevice deviceId = some device)
    (ip : IpAddr) : (rebuildDeviceInner parsers tables state deviceId).contexts.get ip =
      if parsers.parseIp device.lastIp = some ip then
        some (deviceContext tables state.profiles deviceId)
      else state.contexts.get ip := by
  simp only [rebuildDeviceInner, hdevice, bind_some, State.insertContext]
  cases parsers.parseIp device.lastIp with
  | none => simp
  | some own => simp [eq_comm]

theorem contexts_removeContext (old : Option IpAddr) (ip : IpAddr) :
    (state.removeContext old).contexts.get ip =
      if old = some ip then none else state.contexts.get ip := by
  cases old with
  | none => simp [State.removeContext]
  | some old => simp [State.removeContext, eq_comm]

theorem deviceContext_eq {profiles : HashMap Uuid Cell} {settings : DeviceDnsFilterSettings}
    (hsettings : tables.findDeviceSettings deviceId = some settings) :
    deviceContext tables profiles deviceId = materialiseContext profiles settings := by
  rw [deviceContext, hsettings]

/-- The context that an address change puts under the new address: the one
under the old address, or else the device's own. -/
theorem contexts_handleDeviceIpChanged (hdevice : tables.findDevice deviceId = some device)
    (oldIp : Text) (ip : IpAddr) :
    (handleDeviceIpChanged parsers tables state deviceId oldIp device.lastIp).contexts.get ip =
      if parsers.parseIp device.lastIp = some ip then
        some (((parsers.parseIp oldIp).bind state.contexts.get).getD
          (deviceContext tables state.profiles deviceId))
      else if parsers.parseIp oldIp = some ip then none
      else state.contexts.get ip := by
  cases hnew : parsers.parseIp device.lastIp with
  | none =>
    simp only [handleDeviceIpChanged, hnew]
    rw [contexts_rebuildDeviceInner hdevice, hnew, contexts_removeContext]
    simp
  | some new =>
    cases hentry : (parsers.parseIp oldIp).bind state.contexts.get with
    | none =>
      simp only [handleDeviceIpChanged, hnew, hentry]
      rw [contexts_rebuildDeviceInner hdevice, hnew, contexts_removeContext]
      rfl
    | some context =>
      simp only [handleDeviceIpChanged, hnew, hentry, HashMap.get_insert,
        contexts_removeContext, getD_some, some.injEq, eq_comm]

/-- A move away from an address that no other device is at. -/
theorem relocation_deviceIpChanged (hwell : tables.WellFormed)
    (hfollows : IndexFollows parsers tables state) (hmem : device ∈ tables.devices)
    (hunshared : AddressUnshared parsers tables device.id device.lastIp) (newIp : Text) :
    Relocation parsers tables (tables.updateLastSeenAndIp device.id newIp) state
      (handleDeviceIpChanged parsers (tables.updateLastSeenAndIp device.id newIp) state device.id
        device.lastIp newIp) device.id device.lastIp newIp where
  profiles := by
    simp only [handleDeviceIpChanged]
    split <;> rfl
  leaves := fun other hother hid => congrArg Device.lastIp (hwell.device_ext hother hmem hid)
  arrives := ⟨{ device with lastIp := newIp },
    Tables.mem_updateLastSeenAndIp.mpr (.inl ⟨device, hmem, rfl, rfl⟩), rfl⟩
  takes := by
    intro other hother hid
    rcases Tables.mem_updateLastSeenAndIp.mp hother with
      ⟨moved, -, -, rfl⟩ | ⟨hne, -⟩
    · rfl
    · exact absurd hid hne
  others := by
    intro other hne
    rw [Tables.mem_updateLastSeenAndIp]
    constructor
    · rintro (⟨moved, -, hid, rfl⟩ | ⟨-, hother⟩)
      · exact absurd hid hne
      · exact hother
    · exact fun hother => .inr ⟨hne, hother⟩
  settings := fun _ _ => rfl
  contexts := by
    have hmoved : { device with lastIp := newIp } ∈
        (tables.updateLastSeenAndIp device.id newIp).devices :=
      Tables.mem_updateLastSeenAndIp.mpr (.inl ⟨device, hmem, rfl, rfl⟩)
    have hfound := (hwell.updateLastSeenAndIp device.id newIp).findDevice_of_mem hmoved
    refine ⟨_, ?_, ?_, contexts_handleDeviceIpChanged hfound device.lastIp⟩
    · cases hentry : (parsers.parseIp device.lastIp).bind state.contexts.get with
      | none => exact owner_deviceContext _ _ device.id
      | some context =>
        obtain ⟨old, hold, hcontext⟩ := bind_eq_some_iff.mp hentry
        obtain ⟨owner, howner, hown, hat⟩ := hfollows.vacated old context hcontext
        by_cases hid : owner.id = device.id
        · exact hown.trans (congrArg some hid)
        · exact absurd (hold.trans hat.symm) (hunshared owner howner hid (by simp [hold]))
    · intro settings hsettings
      cases hip : parsers.parseIp device.lastIp with
      | none => exact deviceContext_eq hsettings
      | some old =>
        rw [bind_some, hfollows.current device hmem settings hsettings old hip]
        rfl

end Events

/-! ## Writes -/

/-- No other device is at the address a device leaves, and none with settings
is at the address it takes or is rebuilt at. -/
def AddressesClear (parsers : Parsers) (tables : Tables) : DeviceWrite → Prop
  | .move deviceId newIp =>
    (∀ device ∈ tables.devices, device.id = deviceId →
      AddressUnshared parsers tables deviceId device.lastIp) ∧
    AddressUnclaimed parsers tables deviceId newIp
  | .assign deviceId _ _ => AddressFree parsers tables deviceId

/-- Two tables have the same to say of a device. -/
structure Agree (left right : Tables) (id : Uuid) : Prop where
  devices : ∀ device, device.id = id → (device ∈ left.devices ↔ device ∈ right.devices)
  settings : left.findDeviceSettings id = right.findDeviceSettings id

/-- What a write does to the tables and its event, once handled, to the index. -/
structure Writes (parsers : Parsers) (before : Tables) (event : IndexEvent) (after : Tables) :
    Prop where
  wellFormed : after.WellFormed
  agree : ∀ id, id ≠ event.device → Agree before after id
  keeps : ∀ state, IndexFollows parsers before state →
    IndexFollows parsers after (handleEvent parsers after state event)

section Writes

variable {parsers : Parsers} {tables after left right : Tables} {event : IndexEvent}

theorem Agree.findDevice {id : Uuid} (hagree : Agree left right id) (hleft : left.WellFormed)
    (hright : right.WellFormed) : left.findDevice id = right.findDevice id := by
  apply Option.ext
  intro device
  constructor
  · intro hfound
    obtain ⟨hmem, rfl⟩ := Table.find_eq_some hfound
    exact hright.findDevice_of_mem ((hagree.devices device rfl).mp hmem)
  · intro hfound
    obtain ⟨hmem, rfl⟩ := Table.find_eq_some hfound
    exact hleft.findDevice_of_mem ((hagree.devices device rfl).mpr hmem)

/-- The runner reads only what the tables say of the device. -/
theorem handleEvent_congr (hagree : Agree left right event.device) (hleft : left.WellFormed)
    (hright : right.WellFormed) (state : State) :
    handleEvent parsers left state event = handleEvent parsers right state event := by
  have hrebuild : ∀ state, rebuildDeviceInner parsers left state event.device =
      rebuildDeviceInner parsers right state event.device := by
    intro state
    simp only [rebuildDeviceInner, deviceContext, hagree.findDevice hleft hright, hagree.settings]
  cases event with
  | deviceIpChanged deviceId oldIp newIp =>
    simp only [handleEvent, handleDeviceIpChanged]
    split
    · rfl
    · exact hrebuild _
  | deviceAssignment deviceId => exact hrebuild state

theorem writes_move {deviceId : Uuid} {newIp : Text} (hwell : tables.WellFormed)
    (hclear : AddressesClear parsers tables (.move deviceId newIp))
    (hstore : store tables (.move deviceId newIp) = some (after, event)) :
    event.device = deviceId ∧ Writes parsers tables event after := by
  obtain ⟨device, hfound, hmoved⟩ := bind_eq_some_iff.mp hstore
  obtain ⟨-, hmoved⟩ := ite_none_left_eq_some.mp hmoved
  cases hmoved
  obtain ⟨hmem, rfl⟩ := Table.find_eq_some hfound
  have hunshared := hclear.1 device hmem rfl
  refine ⟨rfl, hwell.updateLastSeenAndIp device.id newIp, fun id hne => ⟨?_, rfl⟩, ?_⟩
  · rintro other rfl
    rw [Tables.mem_updateLastSeenAndIp]
    exact ⟨fun hother => .inr ⟨hne, hother⟩, by
      rintro (⟨moved, -, hid, rfl⟩ | ⟨-, hother⟩)
      · exact absurd hid hne
      · exact hother⟩
  · intro state hfollows
    exact hfollows.relocate (relocation_deviceIpChanged hwell hfollows hmem hunshared newIp)
      (fun other hother hne _ => hunshared other hother hne) hclear.2

theorem writes_assign {deviceId : Uuid} {enabled : Bool} {profileIds : List Uuid}
    (hwell : tables.WellFormed)
    (hclear : AddressesClear parsers tables (.assign deviceId enabled profileIds))
    (hstore : store tables (.assign deviceId enabled profileIds) = some (after, event)) :
    event.device = deviceId ∧ Writes parsers tables event after := by
  rcases updateDeviceSettings_cases tables deviceId enabled profileIds
    with ⟨error, hresult⟩ | ⟨upserted, hupsert, -, ⟨assigned, hassigned, hresult⟩ | ⟨-, hresult⟩⟩
  · simp [store, hresult] at hstore
  · simp only [store, hresult, some.injEq, Prod.mk.injEq] at hstore
    obtain ⟨rfl, rfl⟩ := hstore
    have hchange : DeviceChange parsers deviceId tables assigned :=
      deviceChange_setDeviceProfiles hupsert hassigned
    have hafter : assigned.WellFormed :=
      (hwell.upsertDeviceSettings hupsert).setDeviceProfiles hassigned
    refine ⟨rfl, hafter, fun id hne => ⟨?_, (hchange.settings id hne).symm⟩, ?_⟩
    · intro device _
      rw [hchange.devices]
    intro state hfollows
    obtain ⟨device, hmem, rfl⟩ := exists_device_of_assigned hafter hchange.assigned
    have hfound := hafter.findDevice_of_mem hmem
    rw [hchange.devices] at hmem
    have hfree := hclear device hmem rfl
    refine @IndexFollows.relocate _ _ _ _ _ _ device.lastIp _ hfollows
      { profiles := rfl
        leaves := fun other hother hid =>
          congrArg Device.lastIp (hwell.device_ext hother hmem hid)
        arrives := ⟨device, hchange.devices ▸ hmem, rfl⟩
        takes := fun other hother hid =>
          congrArg Device.lastIp (hwell.device_ext (hchange.devices ▸ hother) hmem hid)
        others := fun other _ => by rw [hchange.devices]
        settings := hchange.settings
        contexts := ⟨deviceContext assigned state.profiles device.id,
          owner_deviceContext assigned state.profiles device.id,
          fun settings hsettings => deviceContext_eq hsettings, fun ip => ?_⟩ } hfree hfree
    refine (contexts_rebuildDeviceInner hfound ip).trans ?_
    split <;> rfl
  · simp [store, hresult] at hstore

end Writes

/-! ## Runs -/

/-- The device has no event that waits to be handled. -/
def Settled (pending : List IndexEvent) (id : Uuid) : Prop :=
  ∀ event ∈ pending, event.device ≠ id

/-- A device is written only once its last event has been handled, and while
its addresses are clear. -/
def Undisputed (parsers : Parsers) (backlog : Backlog) : IndexLabel → Prop
  | .store write =>
    Settled backlog.pending write.device ∧ AddressesClear parsers backlog.tables write
  | .handle => True

instance (parsers : Parsers) (backlog : Backlog) (label) :
    Decidable (Undisputed parsers backlog label) := by
  rcases label with (_ | _) | _ <;> delta Undisputed Settled AddressesClear <;> infer_instance

/-- The index follows the settled devices. -/
structure FollowsSettled (parsers : Parsers) (backlog : Backlog) : Prop where
  current : ∀ device ∈ backlog.tables.devices, Settled backlog.pending device.id → ∀ settings,
    backlog.tables.findDeviceSettings device.id = some settings →
    ∀ ip, parsers.parseIp device.lastIp = some ip →
    backlog.service.contexts.get ip = some (materialiseContext backlog.service.profiles settings)
  vacated : ∀ ip context, backlog.service.contexts.get ip = some context →
    ∃ id, context.owner = some id ∧ (Settled backlog.pending id →
      ∃ device ∈ backlog.tables.devices, device.id = id ∧ parsers.parseIp device.lastIp = some ip)

/-- The writes whose events are pending lead from one state of the tables to
another; no device is written twice. -/
inductive Replays (parsers : Parsers) : Tables → List IndexEvent → Tables → Prop
  | nil {tables : Tables} (hwell : tables.WellFormed) : Replays parsers tables [] tables
  | cons {before middle after : Tables} {event : IndexEvent} {pending : List IndexEvent}
      (hwell : before.WellFormed) (hwrites : Writes parsers before event middle)
      (hrest : Replays parsers middle pending after) (hsettled : Settled pending event.device) :
      Replays parsers before (event :: pending) after

section Runs

variable {parsers : Parsers} {before middle after : Tables} {event : IndexEvent}
  {pending : List IndexEvent}

theorem Replays.agree (hreplays : Replays parsers before pending after) {id : Uuid}
    (hsettled : Settled pending id) :
    before.WellFormed ∧ after.WellFormed ∧ Agree before after id := by
  induction hreplays with
  | nil hwell => exact ⟨hwell, hwell, fun _ _ => Iff.rfl, rfl⟩
  | cons hwell hwrites _ _ ih =>
    obtain ⟨hevent, hpending⟩ := List.forall_mem_cons.mp hsettled
    obtain ⟨-, hafter, hagree⟩ := ih hpending
    have hfirst := hwrites.agree id (Ne.symm hevent)
    exact ⟨hwell, hafter, fun device hid => (hfirst.devices device hid).trans
      (hagree.devices device hid), hfirst.settings.trans hagree.settings⟩

theorem Replays.append (hreplays : Replays parsers before pending middle)
    (hwrites : Writes parsers middle event after) (hsettled : Settled pending event.device) :
    Replays parsers before (pending ++ [event]) after := by
  induction hreplays with
  | nil hwell => exact .cons hwell hwrites (.nil hwrites.wellFormed) (by simp [Settled])
  | cons hwell hfirst _ hapart ih =>
    obtain ⟨hne, hpending⟩ := List.forall_mem_cons.mp hsettled
    refine .cons hwell hfirst (ih hwrites hpending) fun other hother => ?_
    rcases List.mem_append.mp hother with hold | hnew
    · exact hapart other hold
    · rw [List.mem_singleton.mp hnew]
      exact hne.symm

/-- The index follows the tables as they were before the pending writes. -/
def CaughtUp (parsers : Parsers) (backlog : Backlog) : Prop :=
  ∃ handled, IndexFollows parsers handled backlog.service ∧
    Replays parsers handled backlog.pending backlog.tables

theorem CaughtUp.next {backlog later : Backlog} {label : IndexLabel}
    (hcaught : CaughtUp parsers backlog) (hundisputed : Undisputed parsers backlog label)
    (hnext : backlog.next parsers label = some later) : CaughtUp parsers later := by
  obtain ⟨handled, hfollows, hreplays⟩ := hcaught
  cases label with
  | store write =>
    obtain ⟨⟨tables, event⟩, hstore, rfl⟩ := map_eq_some_iff.mp hnext
    obtain ⟨hsettled, hclear⟩ := hundisputed
    have hwell := (hreplays.agree hsettled).2.1
    obtain ⟨hdevice, hwrites⟩ : event.device = write.device ∧
        Writes parsers backlog.tables event tables := by
      cases write with
      | move => exact writes_move hwell hclear hstore
      | assign => exact writes_assign hwell hclear hstore
    exact ⟨handled, hfollows, hreplays.append hwrites (hdevice ▸ hsettled)⟩
  | handle =>
    simp only [Backlog.next] at hnext
    split at hnext
    · cases hnext
    next event pending hpending =>
      cases hnext
      rw [hpending] at hreplays
      cases hreplays with
      | cons hwell hwrites hrest hsettled =>
        obtain ⟨hmiddle, hafter, hagree⟩ := hrest.agree hsettled
        rw [← handleEvent_congr hagree hmiddle hafter]
        exact ⟨_, hwrites.keeps _ hfollows, hrest⟩

theorem CaughtUp.followsSettled {backlog : Backlog} (hcaught : CaughtUp parsers backlog) :
    FollowsSettled parsers backlog := by
  obtain ⟨handled, hfollows, hreplays⟩ := hcaught
  constructor
  · intro device hmem hsettled settings hsettings
    obtain ⟨-, -, hagree⟩ := hreplays.agree hsettled
    exact hfollows.current device ((hagree.devices device rfl).mpr hmem) settings
      (hagree.settings.trans hsettings)
  · intro ip context hcontext
    obtain ⟨device, hmem, howner, hip⟩ := hfollows.vacated ip context hcontext
    refine ⟨device.id, howner, fun hsettled => ?_⟩
    obtain ⟨-, -, hagree⟩ := hreplays.agree hsettled
    exact ⟨device, (hagree.devices device rfl).mp hmem, rfl, hip⟩

end Runs

/-- From a full rebuild on, the index follows the devices whose events have
been handled through every run of undisputed moves and assignments. -/
theorem indexFollows_of_undisputed (parsers : Parsers) (tables : Tables)
    (state : State) (hwell : tables.WellFormed)
    (hapart : AddressesApart parsers tables) (labels : List IndexLabel) (final : Backlog)
    (hundisputed : Meets (Backlog.next parsers) (Undisputed parsers)
      (.rebuilt parsers tables state) labels)
    (hrun : run (Backlog.next parsers) (.rebuilt parsers tables state) labels = some final) :
    FollowsSettled parsers final := by
  have hstart : CaughtUp parsers (.rebuilt parsers tables state) :=
    ⟨tables, indexFollows_rebuildAll hwell hapart state, .nil hwell⟩
  have hcaught : CaughtUp parsers final :=
    run_invariant_of_meets (fun _ _ _ hcaught hcond hnext => hcaught.next hcond hnext) hstart
      hundisputed hrun
  exact hcaught.followsSettled

/-- The household with one device at each of two addresses. -/
def neighbours : Tables :=
  { household with
    devices := [⟨6, "10.0.0.6".toList⟩, ⟨7, "10.0.0.7".toList⟩] }

theorem wellFormed_neighbours : neighbours.WellFormed :=
  { wellFormed_household with
    deviceIds := by decide
    settingsDevices := fun _ _ hstored => by simp [neighbours, household] at hstored
    profileDevices := fun _ hrow => by simp [neighbours, household] at hrow }

/-- Both devices are assigned a profile. -/
def neighboursAssigned : List IndexLabel :=
  [.store (.assign 6 true [1]), .store (.assign 7 true [2]), .handle, .handle]

/-- The two devices swap their addresses by way of a free one. -/
def detour : List IndexLabel :=
  neighboursAssigned ++ [.store (.move 6 "10.0.0.8".toList), .store (.move 7 "10.0.0.6".toList),
    .handle, .store (.move 6 "10.0.0.7".toList), .handle, .handle]

theorem indexFollows_of_undisputed_detour : ∃ final,
    run (Backlog.next householdParsers) (.rebuilt householdParsers neighbours .new) detour =
        some final ∧ final.pending.length = 0 ∧ FollowsSettled householdParsers final := by
  obtain ⟨final, hrun, hpending⟩ := map_eq_some_iff.mp (show (run (Backlog.next householdParsers)
    (.rebuilt householdParsers neighbours .new) detour).map (fun final => final.pending.length) =
      some 0 by decide +kernel)
  exact ⟨final, hrun, hpending, indexFollows_of_undisputed householdParsers neighbours .new
    wellFormed_neighbours (by decide +kernel) detour final (by decide +kernel) hrun⟩

/-- The two devices swap their addresses one after the other. -/
def swap : List IndexLabel :=
  neighboursAssigned ++ [.store (.move 6 "10.0.0.7".toList), .handle,
    .store (.move 7 "10.0.0.6".toList), .handle]

/-- After a swap the first device's context is back under the address it has
left, where it decides on the queries of the second device, and the address
the first device has taken has no context. -/
theorem swap_misplaces_contexts : ∃ final, run (Backlog.next householdParsers)
        (.rebuilt householdParsers neighbours .new) swap = some final ∧
      final.pending.length = 0 ∧
      final.tables.devices = [⟨6, "10.0.0.7".toList⟩, ⟨7, "10.0.0.6".toList⟩] ∧
      (final.service.contexts.get (.v4 (Net.ipv4 10 0 0 6))).map
        DeviceFilterContext.owner = some (some 6) ∧
      final.service.contexts.get (.v4 (Net.ipv4 10 0 0 7)) = none ∧
      ¬ FollowsSettled householdParsers final := by
  have hswapped : (run (Backlog.next householdParsers)
      (.rebuilt householdParsers neighbours .new) swap).map (fun final => (final.pending.length,
        final.tables.devices,
        (final.service.contexts.get (.v4 (Net.ipv4 10 0 0 6))).map DeviceFilterContext.owner,
        final.service.contexts.get (.v4 (Net.ipv4 10 0 0 7)))) =
      some (0, [⟨6, "10.0.0.7".toList⟩, ⟨7, "10.0.0.6".toList⟩], some (some 6), none) := by
    decide +kernel
  obtain ⟨final, hrun, hfinal⟩ := map_eq_some_iff.mp hswapped
  simp only [Prod.mk.injEq] at hfinal
  obtain ⟨hpending, hdevices, hfirst, hsecond⟩ := hfinal
  refine ⟨final, hrun, hpending, hdevices, hfirst, hsecond, fun hfollows => ?_⟩
  obtain ⟨context, hcontext, howner⟩ := map_eq_some_iff.mp hfirst
  obtain ⟨id, hown, hplaced⟩ := hfollows.vacated _ context hcontext
  have hsettled : Settled final.pending id := by
    simp [List.length_eq_zero_iff.mp hpending, Settled]
  obtain ⟨device, hmem, rfl, hip⟩ := hplaced hsettled
  rw [hdevices] at hmem
  rw [howner] at hown
  have hplace : ∀ device ∈ [(⟨6, "10.0.0.7".toList⟩ : Device),
      ⟨7, "10.0.0.6".toList⟩], some 6 = some device.id →
      householdParsers.parseIp device.lastIp ≠ some (.v4 (Net.ipv4 10 0 0 6)) := by
    decide +kernel
  exact hplace device hmem hown hip

end Wardnet.Filter
