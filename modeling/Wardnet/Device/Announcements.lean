import Wardnet.Device.Lifecycle

/-!
# What the lifecycle events say

The invariant is local to a hardware address: the call that holds its lock
knows what it has still to write, and an entry that is gone is either settled
or some call has still to clear or announce it.  A step touches one hardware
address, so that the others only need a frame argument.
-/

namespace Wardnet.Discovery

open Net Table Transition

/-- The last event published about a device. -/
def lastEvent (log : List Event) (device : Uuid) : Option Event :=
  log.find? fun event => event.device = device

/-- The last event about a tracked device and its row say what its entry
says. -/
def Told (registry : Registry) (entry : Entry) : Prop :=
  ∃ event ∈ lastEvent registry.log entry.deviceId, ∃ row ∈ findById registry.rows entry.deviceId,
      (event.isGone = true ↔ entry.gone = true) ∧
      (entry.gone = false → event.address = entry.lastIp) ∧
      row.lastIp = if entry.gone then none else entry.lastIp
  deriving Decidable

/-- The departure that the next step of the call publishes. -/
def Task.announcement : Task → Option Departed
  | .announcing departed _ => some departed
  | _ => none

/-- A departure is announced only while its device is still gone, which is
what `clear_departed_ip` checks before it clears the address. -/
def AnnouncesGone (state : State) : Label → Prop
  | .step call _ _ =>
    ∀ departed ∈ (state.tasks.get call).bind Task.announcement,
      stillGone state.registry.memory departed.mac = true
  | _ => True

instance (state : State) (label) : Decidable (AnnouncesGone state label) := by
  cases label <;> delta AnnouncesGone <;> infer_instance

/-! ## The invariant -/

/-- Some running call satisfies the property. -/
def Running (state : State) (property : Task → Prop) : Prop :=
  ∃ call task, state.tasks.get call = some task ∧ property task

/-- The call has still to clear the stored address of the device. -/
def Task.ClearsOf (mac : Mac) (task : Task) : Prop := ∃ departed ∈ task.toClear, departed.mac = mac

/-- The call has still to announce a departure of the device. -/
def Task.AnnouncesOf (mac : Mac) (task : Task) : Prop :=
  ∃ departed ∈ task.toAnnounce, departed.mac = mac

/-- The call has still to write the address it observed. -/
def Task.PersistsOf (mac : Mac) : Task → Prop
  | .persisting _ _ owner _ _ => owner = mac
  | _ => False

/-- The call has still to publish what it observed. -/
def Task.PublishesOf (mac : Mac) : Task → Prop
  | .persisting _ _ owner _ (some _) | .publishing owner _ => owner = mac
  | _ => False

/-- The last event about the device is that it left. -/
def LastGone (log : List Event) (device : Uuid) : Prop :=
  ∃ event, lastEvent log device = some event ∧ event.isGone = true

/-- The last event about the device is that it has this address. -/
def LastAt (log : List Event) (device : Uuid) (ip : Option Ipv4Addr) : Prop :=
  ∃ event, lastEvent log device = some event ∧ event.isGone = false ∧ event.address = ip

/-- The row of the device stores this address. -/
def Stored (rows : List Row) (device : Uuid) (ip : Option Ipv4Addr) : Prop :=
  ∃ row, findById rows device = some row ∧ row.lastIp = ip

/-- The device has a row with this hardware address. -/
def OwnedBy (rows : List Row) (device : Uuid) (mac : Mac) : Prop :=
  ∃ row, findById rows device = some row ∧ row.mac = mac

/-- What the call that holds the lock of a hardware address knows. -/
def Knows (state : State) : Task → Prop
  | .unknown mac _ => state.registry.memory.get mac = none
  | .returning device mac _ =>
    state.registry.memory.get mac = none ∧ OwnedBy state.registry.rows device mac
  | .registering mac _ =>
    state.registry.memory.get mac = none ∧ findByMac state.registry.rows mac = none
  | .entering device mac ip =>
    state.registry.memory.get mac = none ∧ OwnedBy state.registry.rows device mac ∧
      Stored state.registry.rows device (some ip)
  | .persisting _ device mac ip event =>
    ∃ entry, state.registry.memory.get mac = some entry ∧
      entry.deviceId = device ∧ entry.lastIp = some ip ∧
      (entry.gone = true → Running state (Task.ClearsOf mac)) ∧
      ∀ told ∈ event, told.device = device ∧ told.isGone = false ∧ told.address = some ip
  | .publishing mac event =>
    ∃ entry, state.registry.memory.get mac = some entry ∧
      event.device = entry.deviceId ∧ event.isGone = false ∧
      event.address = entry.lastIp ∧
      (entry.gone = true → Running state (Task.ClearsOf mac)) ∧
      Stored state.registry.rows entry.deviceId entry.lastIp
  | .wiping departed _ =>
    ∃ entry, state.registry.memory.get departed.mac = some entry ∧ entry.gone = true
  | _ => True

/-- An entry that is gone is being cleared, or its row is cleared and its
departure announced or about to be, or it was restored as gone and nothing
has happened to it. -/
def GoneSettles (restored : Mac → Prop) (state : State) (mac : Mac) (entry : Entry) : Prop :=
  Running state (Task.ClearsOf mac) ∨
    (Stored state.registry.rows entry.deviceId none ∧ (LastGone state.registry.log entry.deviceId ∨
        Running state (Task.AnnouncesOf mac))) ∨
    (restored mac ∧ lastEvent state.registry.log entry.deviceId = none ∧
      ¬ Running state (Task.AnnouncesOf mac))

/-- An entry that is present has its address stored and told, or the call that
observed it has still to do so. -/
structure PresentSettles (state : State) (mac : Mac) (entry : Entry) : Prop where
  told : Running state (Task.PublishesOf mac) ∨
    LastAt state.registry.log entry.deviceId entry.lastIp
  stored : Running state (Task.PersistsOf mac) ∨
    Stored state.registry.rows entry.deviceId entry.lastIp

/-- What holds about one hardware address. -/
structure Local (restored : Mac → Prop) (state : State) (mac : Mac) : Prop where
  knows : ∀ call task, state.tasks.get call = some task → task.locks = some mac → Knows state task
  gone : ∀ entry, state.registry.memory.get mac = some entry →
    entry.gone = true → GoneSettles restored state mac entry
  present : ∀ entry, state.registry.memory.get mac = some entry →
    entry.gone = false → PresentSettles state mac entry

/-- Ids and hardware addresses are unique in the table, and a tracked device
is the one whose row has the hardware address. -/
structure Registry.WellFormed (registry : Registry) : Prop where
  ids : (registry.rows.map Row.id).Nodup
  macs : (registry.rows.map Row.mac).Nodup
  owned : ∀ mac entry, registry.memory.get mac = some entry →
    OwnedBy registry.rows entry.deviceId mac

/-- What holds about the tables and the calls as a whole. -/
structure Global (state : State) : Prop where
  wellFormed : state.registry.WellFormed
  exclusive : ∀ left right leftTask rightTask mac, state.tasks.get left = some leftTask →
    state.tasks.get right = some rightTask →
    leftTask.locks = some mac → rightTask.locks = some mac → left = right
  departed : ∀ call task departed, state.tasks.get call = some task → departed ∈ task.toAnnounce →
    ∃ entry, state.registry.memory.get departed.mac = some entry ∧ entry.deviceId = departed.device
  sources : ∀ call task device mac ip, state.tasks.get call = some task →
    task = .observing (.peer device) mac ip ∨ task = .locked (.peer device) mac ip →
    OwnedBy state.registry.rows device mac

structure Sound (restored : Mac → Prop) (state : State) : Prop extends Global state where
  local_ : ∀ mac, Local restored state mac

/-! ## Frame -/

@[simp]
theorem proceed_get (state : State) (call : ℕ) (registry : Registry)
    (task : Option Task) (other : ℕ) : (state.proceed call registry task).tasks.get other =
      if other = call then task else state.tasks.get other := by
  cases task <;> simp [State.proceed]

@[simp]
theorem proceed_registry (state : State) (call : ℕ) (registry : Registry) (task : Option Task) :
    (state.proceed call registry task).registry = registry := by
  cases task <;> rfl

variable {state : State}

/-- A property that the old and the new task of a call share is satisfied by
the same running calls. -/
theorem running_proceed {call : ℕ} {registry : Registry}
    {task : Option Task} {property : Task → Prop} (hshare : (∃ now ∈ task, property now) ↔
      ∃ old ∈ state.tasks.get call, property old) :
    Running (state.proceed call registry task) property ↔ Running state property := by
  constructor
  · rintro ⟨other, found, hget, hproperty⟩
    rw [proceed_get] at hget
    split at hget
    · obtain ⟨old, hold, hholds⟩ := hshare.mp ⟨found, hget, hproperty⟩
      exact ⟨call, old, hold, hholds⟩
    · exact ⟨other, found, hget, hproperty⟩
  · rintro ⟨other, found, hget, hproperty⟩
    by_cases hother : other = call
    · subst hother
      obtain ⟨now, hnow, hholds⟩ := hshare.mpr ⟨found, hget, hproperty⟩
      exact ⟨other, now, by simpa using hnow, hholds⟩
    · exact ⟨other, found, by simp [hother, hget], hproperty⟩

/-- What an entry says apart from when the device was last seen. -/
def Entry.core (entry : Entry) : Uuid × Option Ipv4Addr × Bool :=
  (entry.deviceId, entry.lastIp, entry.gone)

/-- The two tables do not differ about the hardware address. -/
structure RowsAgree (before after : List Row) (mac : Mac) : Prop where
  rows : ∀ device row, findById before device = some row → row.mac = mac →
    findById after device = some row
  absent : findByMac before mac = none → findByMac after mac = none

/-- The two registries do not differ about the hardware address. -/
structure RegistryAgrees (registry after : Registry) (mac : Mac) : Prop where
  memory : (after.memory.get mac).map Entry.core = (registry.memory.get mac).map Entry.core
  rows : ∀ device row, findById registry.rows device = some row → row.mac = mac →
    findById after.rows device = some row
  absent : findByMac registry.rows mac = none → findByMac after.rows mac = none
  log : ∀ device, OwnedBy registry.rows device mac →
    lastEvent after.log device = lastEvent registry.log device

/-- The two states do not differ about the hardware address, but for the stage
of the call that holds its lock. -/
structure Agrees (state after : State) (mac : Mac) : Prop
    extends RegistryAgrees state.registry after.registry mac where
  knows : ∀ call task, after.tasks.get call = some task → task.locks = some mac →
    state.tasks.get call = some task ∨ Knows after task
  persists : Running state (Task.PersistsOf mac) → Running after (Task.PersistsOf mac)
  publishes : Running state (Task.PublishesOf mac) → Running after (Task.PublishesOf mac)
  clears : Running after (Task.ClearsOf mac) ↔ Running state (Task.ClearsOf mac)
  announces : Running after (Task.AnnouncesOf mac) ↔ Running state (Task.AnnouncesOf mac)

/-- What a lock holder knows about the hardware address stays true: at most
its device is marked gone, and then some call clears it. -/
structure Carries (state after : State) (mac : Mac) : Prop
    extends RowsAgree state.registry.rows after.registry.rows mac where
  get_none : state.registry.memory.get mac = none → after.registry.memory.get mac = none
  get_some : ∀ entry, state.registry.memory.get mac = some entry →
    ∃ later, after.registry.memory.get mac = some later ∧
      later.deviceId = entry.deviceId ∧ later.lastIp = entry.lastIp ∧
      (entry.gone = true → later.gone = true) ∧
      (later.gone = true → entry.gone = true ∨ Running after (Task.ClearsOf mac))
  clears : Running state (Task.ClearsOf mac) → Running after (Task.ClearsOf mac)

section Carried

variable {mac : Mac}

theorem exists_of_core {before after : HashMap Mac Entry} {entry : Entry}
    (hcore : (after.get mac).map Entry.core = (before.get mac).map Entry.core)
    (hentry : before.get mac = some entry) : ∃ later, after.get mac = some later ∧
      later.deviceId = entry.deviceId ∧ later.lastIp = entry.lastIp ∧ later.gone = entry.gone := by
  rw [hentry, Option.map_some] at hcore
  obtain ⟨later, hlater, hsame⟩ := Option.map_eq_some_iff.mp hcore
  simp only [Entry.core, Prod.mk.injEq] at hsame
  exact ⟨later, hlater, hsame⟩

theorem RowsAgree.refl (rows : List Row) (mac : Mac) : RowsAgree rows rows mac :=
  ⟨fun _ _ hrow _ => hrow, id⟩

section Rows

variable {before after : List Row} {device : Uuid}

theorem RowsAgree.ownedBy (hagree : RowsAgree before after mac)
    (howned : OwnedBy before device mac) : OwnedBy after device mac := by
  obtain ⟨row, hrow, hmac⟩ := howned
  exact ⟨row, hagree.rows device row hrow hmac, hmac⟩

theorem RowsAgree.stored {ip : Option Ipv4Addr} (hagree : RowsAgree before after mac)
    (howned : OwnedBy before device mac) (hstored : Stored before device ip) :
    Stored after device ip := by
  obtain ⟨row, hrow, hmac⟩ := howned
  obtain ⟨found, hfound, hip⟩ := hstored
  cases hrow.symm.trans hfound
  exact ⟨row, hagree.rows device row hrow hmac, hip⟩

end Rows

theorem RegistryAgrees.rowsAgree {registry later : Registry}
    (hagrees : RegistryAgrees registry later mac) : RowsAgree registry.rows later.rows mac :=
  ⟨hagrees.rows, hagrees.absent⟩

variable {task : Task} {after : State}

theorem Task.PersistsOf.locks (hpersists : task.PersistsOf mac) : task.locks = some mac := by
  unfold Task.PersistsOf at hpersists
  split at hpersists
  · exact congrArg some hpersists
  · exact hpersists.elim

theorem Task.PublishesOf.locks (hpublishes : task.PublishesOf mac) : task.locks = some mac := by
  unfold Task.PublishesOf at hpublishes
  split at hpublishes
  · exact congrArg some hpublishes
  · exact congrArg some hpublishes
  · exact hpublishes.elim

theorem Knows.carry (hglobal : Global state) (hcarries : Carries state after mac)
    (hlocks : task.locks = some mac) (hknows : Knows state task) : Knows after task := by
  cases task with
  | unknown owner ip =>
    cases hlocks
    exact hcarries.get_none hknows
  | returning device owner ip =>
    cases hlocks
    exact ⟨hcarries.get_none hknows.1, hcarries.ownedBy hknows.2⟩
  | registering owner ip =>
    cases hlocks
    exact ⟨hcarries.get_none hknows.1, hcarries.absent hknows.2⟩
  | entering device owner ip =>
    cases hlocks
    exact ⟨hcarries.get_none hknows.1, hcarries.ownedBy hknows.2.1,
      hcarries.stored hknows.2.1 hknows.2.2⟩
  | persisting mode device owner ip event =>
    cases hlocks
    obtain ⟨entry, hentry, hdevice, hip, hclears, htold⟩ := hknows
    obtain ⟨later, hlater, hsameDevice, hsameIp, -, hgone⟩ := hcarries.get_some entry hentry
    exact ⟨later, hlater, hsameDevice.trans hdevice, hsameIp.trans hip,
      fun hlaterGone => (hgone hlaterGone).elim (fun h => hcarries.clears (hclears h)) id, htold⟩
  | publishing owner event =>
    cases hlocks
    obtain ⟨entry, hentry, hdevice, htold, hip, hclears, hstored⟩ := hknows
    obtain ⟨later, hlater, hsameDevice, hsameIp, -, hgone⟩ := hcarries.get_some entry hentry
    refine ⟨later, hlater, hdevice.trans hsameDevice.symm, htold, hip.trans hsameIp.symm,
      fun hlaterGone => (hgone hlaterGone).elim (fun h => hcarries.clears (hclears h)) id, ?_⟩
    rw [hsameDevice, hsameIp]
    exact hcarries.stored (hglobal.wellFormed.owned _ entry hentry) hstored
  | wiping departed rest =>
    cases hlocks
    obtain ⟨entry, hentry, hgone⟩ := hknows
    obtain ⟨later, hlater, -, -, hlaterGone, -⟩ := hcarries.get_some entry hentry
    exact ⟨later, hlater, hlaterGone hgone⟩
  | _ => trivial

end Carried

variable {after : State}

theorem Local.of_agrees {restored : Mac → Prop} {mac : Mac} (hglobal : Global state)
    (hagrees : Agrees state after mac) (hlocal : Local restored state mac) :
    Local restored after mac where
  knows := by
    intro call task hget hlocks
    rcases hagrees.knows call task hget hlocks with hbefore | hknows
    · refine (hlocal.knows call task hbefore hlocks).carry hglobal ⟨hagrees.rowsAgree,
        fun hnone => by simpa [hnone] using hagrees.memory, fun entry hentry => ?_,
        hagrees.clears.mpr⟩ hlocks
      obtain ⟨later, hlater, hdevice, hip, hgone⟩ := exists_of_core hagrees.memory hentry
      exact ⟨later, hlater, hdevice, hip, hgone.trans, fun hlaterGone => .inl (hgone ▸ hlaterGone)⟩
    · exact hknows
  gone := by
    intro later hlater hgone
    obtain ⟨entry, hentry, hdevice, -, hsameGone⟩ := exists_of_core hagrees.memory.symm hlater
    have howned := hglobal.wellFormed.owned mac entry hentry
    unfold GoneSettles
    rw [← hdevice]
    rcases hlocal.gone entry hentry (hsameGone.trans hgone) with
      hclears | ⟨hstored, htold⟩ | ⟨hrestored, hnone, hnot⟩
    · exact .inl (hagrees.clears.mpr hclears)
    · refine .inr (.inl ⟨hagrees.rowsAgree.stored howned hstored, ?_⟩)
      apply htold.imp
      · rintro ⟨event, hevent, hgone⟩
        exact ⟨event, (hagrees.log _ howned).trans hevent, hgone⟩
      · exact hagrees.announces.mpr
    · exact .inr (.inr ⟨hrestored, (hagrees.log _ howned).trans hnone,
        fun hruns => hnot (hagrees.announces.mp hruns)⟩)
  present := by
    intro later hlater hpresent
    obtain ⟨entry, hentry, hdevice, hip, hsameGone⟩ := exists_of_core hagrees.memory.symm hlater
    have howned := hglobal.wellFormed.owned mac entry hentry
    obtain ⟨htold, hstored⟩ := hlocal.present entry hentry (hsameGone.trans hpresent)
    constructor
    all_goals rw [← hdevice, ← hip]
    · apply htold.imp hagrees.publishes
      rintro ⟨event, hevent, htold⟩
      exact ⟨event, (hagrees.log _ howned).trans hevent, htold⟩
    · exact hstored.imp hagrees.persists (hagrees.rowsAgree.stored howned)

/-! ## Steps that leave a hardware address alone -/

/-- The two stages of a call do not differ about the hardware address, whose
lock the call holds in neither. -/
structure TaskAgrees (old now : Option Task) (mac : Mac) : Prop where
  old_locks : ∀ task ∈ old, task.locks ≠ some mac
  now_locks : ∀ task ∈ now, task.locks ≠ some mac
  clears : (∃ task ∈ now, task.ClearsOf mac) ↔ ∃ task ∈ old, task.ClearsOf mac
  announces : (∃ task ∈ now, task.AnnouncesOf mac) ↔ ∃ task ∈ old, task.AnnouncesOf mac

section Proceeds

variable {call : ℕ} {registry : Registry} {task : Option Task} {mac : Mac}

/-- A property that the call did not have is satisfied by the others still. -/
theorem Running.proceed {property : Task → Prop}
    (hnot : ∀ old ∈ state.tasks.get call, ¬ property old) (hrunning : Running state property) :
    Running (state.proceed call registry task) property := by
  obtain ⟨other, found, hfound, hholds⟩ := hrunning
  have hother : other ≠ call := by
    rintro rfl
    exact hnot found hfound hholds
  exact ⟨other, found, by simpa [hother] using hfound, hholds⟩

/-- The call that is about to take a lock, or holds it, proceeds without a
change that matters to the hardware address. -/
theorem agrees_holder (hregistry : RegistryAgrees state.registry registry mac)
    (hknows : ∀ now ∈ task, now.locks = some mac → Knows (state.proceed call registry task) now)
    (hold : ∀ old ∈ state.tasks.get call, ¬ old.PersistsOf mac ∧ ¬ old.PublishesOf mac)
    (hclears : (∃ now ∈ task, now.ClearsOf mac) ↔ ∃ old ∈ state.tasks.get call, old.ClearsOf mac)
    (hannounces : (∃ now ∈ task, now.AnnouncesOf mac) ↔
      ∃ old ∈ state.tasks.get call, old.AnnouncesOf mac) :
    Agrees state (state.proceed call registry task) mac := by
  refine ⟨?_, ?_, .proceed fun old hget => (hold old hget).1,
    .proceed fun old hget => (hold old hget).2, running_proceed hclears, running_proceed hannounces⟩
  · rwa [proceed_registry]
  · intro other found hfound hfoundLocks
    rw [proceed_get] at hfound
    split at hfound
    · exact .inr (hknows found hfound hfoundLocks)
    · exact .inl hfound

theorem agrees_proceed (hregistry : RegistryAgrees state.registry registry mac)
    (htask : TaskAgrees (state.tasks.get call) task mac) :
    Agrees state (state.proceed call registry task) mac := by
  apply agrees_holder hregistry ?_ ?_ htask.clears htask.announces
  · intro now hnow hlocks
    exact absurd hlocks (htask.now_locks now hnow)
  · intro old hold
    have hlocks := htask.old_locks old hold
    exact ⟨mt Task.PersistsOf.locks hlocks, mt Task.PublishesOf.locks hlocks⟩

end Proceeds

/-! ## The tables under a step -/

/-- No device and no entry gets lost. -/
structure Registry.Grows (registry after : Registry) : Prop where
  owners : ∀ device mac, OwnedBy registry.rows device mac → OwnedBy after.rows device mac
  entries : ∀ mac entry, registry.memory.get mac = some entry →
    ∃ later, after.memory.get mac = some later ∧ later.deviceId = entry.deviceId

theorem Registry.Grows.refl (registry : Registry) : registry.Grows registry where
  owners := fun _ _ => id
  entries := fun _ entry hentry => ⟨entry, hentry, rfl⟩

namespace Registry.WellFormed

variable {registry : Registry} {mac : Mac} {device : Uuid}

section

variable (hwell : registry.WellFormed)
include hwell

theorem congr {after : Registry} (hrows : after.rows = registry.rows)
    (hmemory : after.memory = registry.memory) : after.WellFormed := by
  refine ⟨hrows ▸ hwell.ids, hrows ▸ hwell.macs, ?_⟩
  rw [hrows, hmemory]
  exact hwell.owned

variable {row : Row}

theorem id_iff_mac (howned : OwnedBy registry.rows device mac)
    (hrow : row ∈ registry.rows) : row.id = device ↔ row.mac = mac := by
  obtain ⟨owner, howner, rfl⟩ := howned
  obtain ⟨hmem, rfl⟩ := find_eq_some howner
  constructor
  · exact fun heq => congrArg Row.mac (List.inj_on_of_nodup_map hwell.ids hrow hmem heq)
  · exact fun heq => congrArg Row.id (List.inj_on_of_nodup_map hwell.macs hrow hmem heq)

theorem device_unique {left right : Uuid} (hleft : OwnedBy registry.rows left mac)
    (hright : OwnedBy registry.rows right mac) : left = right := by
  obtain ⟨row, hrow, hmac⟩ := hleft
  obtain ⟨hmem, rfl⟩ := find_eq_some hrow
  exact (hwell.id_iff_mac hright hmem).mpr hmac

theorem ownedBy_of_findByMac
    (hfind : findByMac registry.rows mac = some row) : OwnedBy registry.rows row.id mac := by
  obtain ⟨hmem, hmac⟩ := find_eq_some hfind
  exact ⟨row, find_of_mem hwell.ids hmem, hmac⟩

theorem resight {after : Registry} (hrows : after.rows = registry.rows)
    (hmemory : ∀ mac, (after.memory.get mac).map Entry.core =
      (registry.memory.get mac).map Entry.core) : after.WellFormed ∧ registry.Grows after := by
  constructor
  · refine ⟨hrows ▸ hwell.ids, hrows ▸ hwell.macs, ?_⟩
    intro mac entry hentry
    obtain ⟨old, hold, hdevice, -⟩ := exists_of_core (hmemory mac).symm hentry
    exact hrows ▸ hdevice ▸ hwell.owned mac old hold
  · refine ⟨hrows ▸ fun _ _ => id, ?_⟩
    intro mac entry hentry
    obtain ⟨later, hlater, hdevice, -⟩ := exists_of_core (hmemory mac) hentry
    exact ⟨later, hlater, hdevice⟩

theorem insert (howned : OwnedBy registry.rows device mac) {entry : Entry}
    (hentry : entry.deviceId = device) :
    Registry.WellFormed { registry with memory := registry.memory.insert mac entry } ∧
      registry.Grows { registry with memory := registry.memory.insert mac entry } := by
  constructor
  · refine ⟨hwell.ids, hwell.macs, ?_⟩
    intro found foundEntry hfound
    rcases HashMap.get_insert_eq_some.mp hfound with ⟨rfl, rfl⟩ | ⟨-, hold⟩
    · exact hentry ▸ howned
    · exact hwell.owned found foundEntry hold
  · refine ⟨fun _ _ => id, ?_⟩
    intro found old hold
    by_cases hfound : found = mac
    · subst hfound
      have hsame := hwell.device_unique howned (hwell.owned found old hold)
      exact ⟨entry, by simp, hentry.trans hsame⟩
    · exact ⟨old, by simpa [hfound] using hold, rfl⟩

theorem map_rows (change : Row → Row)
    (hid : ∀ row, (change row).id = row.id) (hmac : ∀ row, (change row).mac = row.mac) :
    Registry.WellFormed { registry with rows := registry.rows.map change } ∧
      registry.Grows { registry with rows := registry.rows.map change } := by
  have hids : ((registry.rows.map change).map Row.id).Nodup := by
    simpa [Function.comp_def, hid] using hwell.ids
  have howners : ∀ found owner, OwnedBy registry.rows found owner →
      OwnedBy (registry.rows.map change) found owner := by
    rintro found owner ⟨row, hrow, rfl⟩
    obtain ⟨hmem, rfl⟩ := find_eq_some hrow
    have hfind := find_of_mem hids (List.mem_map_of_mem hmem)
    exact ⟨change row, hid row ▸ hfind, hmac row⟩
  refine ⟨⟨hids, ?_, ?_⟩, howners, (Registry.Grows.refl registry).entries⟩
  · simpa [Function.comp_def, hmac] using hwell.macs
  · exact fun found entry hentry => howners _ _ (hwell.owned found entry hentry)

theorem update (device : Uuid) (change : Row → Row) (hid : ∀ row, (change row).id = row.id)
    (hmac : ∀ row, (change row).mac = row.mac) :
    Registry.WellFormed { registry with
        rows := Table.update Row.id registry.rows device change } ∧
      registry.Grows { registry with
        rows := Table.update Row.id registry.rows device change } := by
  apply hwell.map_rows <;> intro row <;> split
  · exact hid row
  · rfl
  · exact hmac row
  · rfl

theorem append (hfresh : findById registry.rows row.id = none)
    (habsent : findByMac registry.rows row.mac = none) :
    Registry.WellFormed { registry with rows := registry.rows ++ [row] } ∧
      registry.Grows { registry with rows := registry.rows ++ [row] } := by
  have hids := find_eq_none.mp hfresh
  have howners : ∀ found owner, OwnedBy registry.rows found owner →
      OwnedBy (registry.rows ++ [row]) found owner := by
    rintro found owner ⟨old, hold, holdMac⟩
    have hne : found ≠ row.id := by
      rintro rfl
      rw [hfresh] at hold
      cases hold
    refine ⟨old, ?_, holdMac⟩
    rw [findById, find_append hids, if_neg hne]
    exact hold
  constructor
  · refine ⟨nodup_append hwell.ids hids, ?_, ?_⟩
    · apply nodup_append hwell.macs
      intro old hold
      simpa using List.find?_eq_none.mp habsent old hold
    · exact fun found entry hentry => howners _ _ (hwell.owned found entry hentry)
  · exact ⟨howners, (Registry.Grows.refl registry).entries⟩

end

end Registry.WellFormed

/-- The tables change about one hardware address at most, and nothing gets
lost. -/
structure Touches (registry after : Registry) (mac : Mac) : Prop where
  wellFormed : after.WellFormed
  grows : registry.Grows after
  others : ∀ other, other ≠ mac → RegistryAgrees registry after other

section Touches

variable {registry : Registry} {mac : Mac} (hwell : registry.WellFormed)

include hwell

theorem touches_publish {event : Event} (howned : OwnedBy registry.rows event.device mac) :
    Touches registry { registry with log := event :: registry.log } mac := by
  refine ⟨hwell.congr rfl rfl, ⟨fun _ _ => id, (Registry.Grows.refl registry).entries⟩,
    fun other hother => ⟨rfl, fun _ _ hrow _ => hrow, id, ?_⟩⟩
  intro device hdevice
  obtain ⟨row, hrow, hmac⟩ := howned
  obtain ⟨found, hfound, hfoundMac⟩ := hdevice
  have hne : event.device ≠ device := by
    intro heq
    rw [heq, hfound, Option.some.injEq] at hrow
    exact hother (hfoundMac.symm.trans (hrow ▸ hmac))
  simp [lastEvent, hne]

theorem touches_update {device : Uuid} {change : Row → Row}
    (hid : ∀ row, (change row).id = row.id) (hmac : ∀ row, (change row).mac = row.mac)
    (howned : OwnedBy registry.rows device mac) :
    Touches registry { registry with
      rows := Table.update Row.id registry.rows device change } mac := by
  obtain ⟨hafter, hgrows⟩ := hwell.update device change hid hmac
  refine ⟨hafter, hgrows, fun other hother => ⟨rfl, ?_, ?_, fun _ _ => rfl⟩⟩
  · intro found row hrow hrowMac
    obtain ⟨owner, howner, hownerMac⟩ := howned
    have hne : found ≠ device := by
      rintro rfl
      rw [howner, Option.some.injEq] at hrow
      exact hother (hrowMac.symm.trans (hrow ▸ hownerMac))
    simpa [findById, find_update hid, hne] using hrow
  · intro habsent
    simp only [findByMac, List.find?_eq_none, decide_eq_true_eq, mem_update] at habsent ⊢
    rintro row (⟨hrow, -⟩ | ⟨old, hold, -, rfl⟩)
    · exact habsent row hrow
    · rw [hmac]
      exact habsent old hold

theorem touches_append {row : Row} (hfresh : findById registry.rows row.id = none)
    (habsent : findByMac registry.rows row.mac = none) :
    Touches registry { registry with rows := registry.rows ++ [row] } row.mac := by
  obtain ⟨hafter, hgrows⟩ := hwell.append hfresh habsent
  refine ⟨hafter, hgrows, fun other hother => ⟨rfl, ?_, ?_, fun _ _ => rfl⟩⟩
  · intro device found hfound _
    have hne : device ≠ row.id := by
      rintro rfl
      rw [hfresh] at hfound
      cases hfound
    rw [findById, find_append (find_eq_none.mp hfresh), if_neg hne]
    exact hfound
  · intro hnone
    simp only [findByMac, List.find?_append, Option.or_eq_none_iff]
    exact ⟨hnone, by simp [hother.symm]⟩

end Touches

/-- The device of a peer is the one whose row has the hardware address. -/
def Task.Sourced (rows : List Row) (task : Task) : Prop :=
  ∀ device mac ip, task = .observing (.peer device) mac ip ∨ task = .locked (.peer device) mac ip →
    OwnedBy rows device mac

/-- A call proceeds: its locks were its own or free, and what it has still to
announce is tracked. -/
theorem Global.proceed (hglobal : Global state) {call : ℕ}
    {registry : Registry} {task : Option Task}
    (hwell : registry.WellFormed) (hgrows : state.registry.Grows registry)
    (hlocks : ∀ now ∈ task, ∀ mac, now.locks = some mac →
      (∃ old ∈ state.tasks.get call, old.locks = some mac) ∨ ¬ state.locked mac)
    (hdeparted : ∀ now ∈ task, ∀ departed ∈ now.toAnnounce,
      ∃ entry, registry.memory.get departed.mac = some entry ∧ entry.deviceId = departed.device)
    (hsources : ∀ now ∈ task, now.Sourced registry.rows) :
    Global (state.proceed call registry task) where
  wellFormed := by simpa using hwell
  exclusive := by
    have hother : ∀ now ∈ task, ∀ mac, now.locks = some mac → ∀ right rightTask, right ≠ call →
          state.tasks.get right = some rightTask →
          rightTask.locks ≠ some mac := by
      intro now hnow mac hmac right rightTask hright hget hrightLocks
      rcases hlocks now hnow mac hmac with ⟨old, hold, holdLocks⟩ | hfree
      · exact hright (hglobal.exclusive right call rightTask old mac hget hold
          hrightLocks holdLocks)
      · exact hfree ⟨(right, rightTask), HashMap.mem_toList.mpr hget, hrightLocks⟩
    intro left right leftTask rightTask mac hleft hright hleftLocks hrightLocks
    rw [proceed_get] at hleft hright
    by_cases hl : left = call
    · by_cases hr : right = call
      · exact hl.trans hr.symm
      · rw [if_pos hl] at hleft
        rw [if_neg hr] at hright
        exact absurd hrightLocks (hother leftTask hleft mac hleftLocks right rightTask hr hright)
    · by_cases hr : right = call
      · rw [if_neg hl] at hleft
        rw [if_pos hr] at hright
        exact absurd hleftLocks (hother rightTask hright mac hrightLocks left leftTask hl hleft)
      · rw [if_neg hl] at hleft
        rw [if_neg hr] at hright
        exact hglobal.exclusive left right leftTask rightTask mac hleft hright
          hleftLocks hrightLocks
  departed := by
    intro other found departed hget hmem
    rw [proceed_get] at hget
    rw [proceed_registry]
    split at hget
    · exact hdeparted found hget departed hmem
    · obtain ⟨entry, hentry, hdevice⟩ := hglobal.departed other found departed hget hmem
      obtain ⟨later, hlater, hsame⟩ := hgrows.entries _ _ hentry
      exact ⟨later, hlater, hsame.trans hdevice⟩
  sources := by
    intro other found device mac ip hget hsource
    rw [proceed_get] at hget
    rw [proceed_registry]
    split at hget
    · exact hsources found hget device mac ip hsource
    · exact hgrows.owners _ _ (hglobal.sources other found device mac ip hget hsource)

end Wardnet.Discovery
