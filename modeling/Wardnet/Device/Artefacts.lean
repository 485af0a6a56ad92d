import Wardnet.Device.Managed

/-!
# Artefacts

An artefact is something an admin has written about a device: a rule, a lock,
a profile, an exception.  One lemma per statement says which artefacts it may
add; none of them takes a row or a flag away.
-/

namespace Wardnet.Retention

open Keyed List Option Prod
open Zone (ZoneException)

/-! ## Artefacts -/

namespace Store

variable (store : Store) (id : Uuid)

/-- The device has a row. -/
def Has : Prop := (store.devices.find id).isSome

/-- The device has a row with the flag set. -/
def Managed : Prop := (store.devices.find id).any (·.managed)
  deriving Decidable

/-- Something an admin has written refers to the device. -/
def Artefact : Prop :=
  (∃ rule ∈ store.rules.find id, rule.changedBy = .admin) ∨
    (∃ device ∈ store.devices.find id, device.adminLocked = true) ∨
      (∃ assignment ∈ store.assignments, assignment.deviceId = id) ∨
        ∃ exception ∈ store.exceptions.rows, id ∈ deviceIds exception

end Store

/-- Nothing an admin has written referred to the device. -/
structure PrunedDevice.Clean (gone : PrunedDevice) : Prop where
  rule : ∀ rule ∈ gone.rule, rule.changedBy ≠ .admin
  lock : gone.device.adminLocked = false
  assignments : gone.assignments = []
  exceptions : gone.exceptions = []

/-- The devices a statement writes an artefact about. -/
def Op.writes : Op → List Uuid
  | .upsertUserRule id _ .admin => [id]
  | .updateAdminLocked id true => [id]
  | .setDeviceProfiles id _ => [id]
  | .insertException exception => deviceIds exception
  | .updateException exception => deviceIds exception
  | _ => []

def Op.promotes : Op → Bool
  | .setManaged _ => true
  | _ => false

variable {store after : Store} {op : Op} {id : Uuid}

theorem Store.Managed.has (hmanaged : store.Managed id) : store.Has id := by
  unfold Store.Managed at hmanaged
  unfold Store.Has
  cases hfind : store.devices.find id with
  | none => simp [hfind] at hmanaged
  | some device => rfl

/-! ## What a statement does -/

/-- A statement that succeeds takes no row and no flag away, and a new artefact
is one it writes, about a device with a row unless it is an exception. -/
structure Effect (op : Op) (store after : Store) : Prop where
  has : ∀ id, after.Has id ↔ store.Has id
  managed : ∀ id, store.Managed id → after.Managed id
  artefact : ∀ id, after.Artefact id → store.Artefact id ∨
    (id ∈ op.writes ∧ (store.Has id ∨ ∃ exception, op = .insertException exception ∨
        op = .updateException exception))
  pruned : after.pruned = store.pruned

theorem Effect.refl (op : Op) (store : Store) : Effect op store store where
  has _ := Iff.rfl
  managed _ hmanaged := hmanaged
  artefact _ hartefact := .inl hartefact
  pruned := rfl

/-- A change of columns that keeps the flag, and the lock unless the statement
is the one that writes it. -/
theorem Effect.updateDevice {change : Device → Device}
    {hid : ∀ device, (change device).id = device.id} (wanted : Uuid)
    (hmanaged : ∀ device, device.managed = true → (change device).managed = true)
    (hlocked : ∀ device, (change device).adminLocked = true →
      device.adminLocked = true ∨ wanted ∈ op.writes) :
    Effect op store (store.updateDevice wanted change hid) where
  has id := by
    simp only [Store.Has, Store.updateDevice, find_update]
    split
    next heq =>
      simp [heq]
    · rfl
  managed id hid := by
    simp only [Store.Managed, Store.updateDevice, find_update] at hid ⊢
    split
    next heq =>
      subst heq
      cases hfind : store.devices.find id with
      | none => simp [hfind] at hid
      | some device =>
        rw [hfind] at hid
        exact hmanaged device hid
    · exact hid
  artefact id hartefact := by
    obtain hrule | ⟨device, hdevice, hlock⟩ | hrest := hartefact
    · exact .inl (.inl hrule)
    · simp only [Store.updateDevice, find_update] at hdevice
      split at hdevice
      next heq =>
        subst heq
        obtain ⟨old, hold, rfl⟩ := map_eq_some_iff.mp hdevice
        cases hlocked old hlock with
        | inl hlocked => exact .inl (.inr (.inl ⟨old, hold, hlocked⟩))
        | inr hwrites => exact .inr ⟨hwrites, .inl (by simp [Store.Has, hold])⟩
      · exact .inl (.inr (.inl ⟨device, hdevice, hlock⟩))
    · exact .inl (.inr (.inr hrest))
  pruned := rfl

theorem Effect.upsertUserRule {rule : RoutingRule}
    (hwrites : rule.changedBy = .admin → rule.deviceId ∈ op.writes)
    (hupsert : store.upsertUserRule rule = some after) : Effect op store after := by
  unfold Store.upsertUserRule at hupsert
  split at hupsert
  case isFalse => cases hupsert
  rename_i hhas
  cases hupsert
  have hrules : ∀ wanted written, ((store.rules.insert rule).getD (store.rules.update rule.deviceId
        (fun old => { old with
          target := rule.target, changedBy := rule.changedBy })
        fun _ => rfl)).find wanted = some written →
      store.rules.find wanted = some written ∨
        (wanted = rule.deviceId ∧ written.changedBy = rule.changedBy) := by
    intro wanted written hwritten
    cases hinsert : store.rules.insert rule with
    | some rules =>
      rw [hinsert, getD_some, find_insert hinsert] at hwritten
      split at hwritten
      next heq =>
        exact .inr ⟨heq, congrArg _ (some.inj hwritten).symm⟩
      · exact .inl hwritten
    | none =>
      rw [hinsert, getD_none, find_update] at hwritten
      split at hwritten
      next heq =>
        obtain ⟨old, -, rfl⟩ := map_eq_some_iff.mp hwritten
        exact .inr ⟨heq, rfl⟩
      · exact .inl hwritten
  refine ⟨fun _ => Iff.rfl, fun _ => id, ?_, rfl⟩
  intro id hartefact
  obtain ⟨written, hwritten, hadmin⟩ | hrest := hartefact
  · cases hrules id written hwritten with
    | inl hold => exact .inl (.inl ⟨written, hold, hadmin⟩)
    | inr hnew =>
      rw [hnew.1]
      exact .inr ⟨hwrites (hnew.2 ▸ hadmin), .inl hhas⟩
  · exact .inl (.inr hrest)

theorem Effect.setDeviceProfiles {profiles : List Uuid} {wanted : Uuid}
    (hset : store.setDeviceProfiles wanted profiles = some after) :
    Effect (.setDeviceProfiles wanted profiles) store after := by
  unfold Store.setDeviceProfiles at hset
  split at hset
  case isFalse => cases hset
  rename_i hkeys
  cases hset
  refine ⟨fun _ => Iff.rfl, fun _ => id, ?_, rfl⟩
  intro id hartefact
  obtain hrule | hlock | ⟨assignment, hmem, rfl⟩ | hexception := hartefact
  · exact .inl (.inl hrule)
  · exact .inl (.inr (.inl hlock))
  · cases mem_append.mp hmem with
    | inl hold => exact .inl (.inr (.inr (.inl ⟨assignment, (mem_filter.mp hold).1, rfl⟩)))
    | inr hnew =>
      obtain ⟨⟨profile, position⟩, hprofile, rfl⟩ := mem_map.mp hnew
      have hne : profiles ≠ [] := by
        rintro rfl
        simp at hprofile
      exact .inr ⟨mem_singleton_self _, .inl (hkeys.1 hne)⟩
  · exact .inl (.inr (.inr (.inr hexception)))

/-- A statement on exceptions leaves only old rows and the one it writes. -/
theorem Effect.exceptions {exceptions : Keyed ZoneException.id} {exception : ZoneException}
    (hop : op = .insertException exception ∨ op = .updateException exception)
    (hrows : ∀ row ∈ exceptions.rows, row ∈ store.exceptions.rows ∨
      deviceIds row = deviceIds exception) :
    Effect op store { store with exceptions := exceptions } := by
  have hwrites : op.writes = deviceIds exception := by
    cases hop with
    | inl hop | inr hop => rw [hop]; rfl
  refine ⟨fun _ => Iff.rfl, fun _ => id, ?_, rfl⟩
  intro id hartefact
  obtain hrule | hlock | hprofile | ⟨row, hrow, hid⟩ := hartefact
  · exact .inl (.inl hrule)
  · exact .inl (.inr (.inl hlock))
  · exact .inl (.inr (.inr (.inl hprofile)))
  · cases hrows row hrow with
    | inl hold => exact .inl (.inr (.inr (.inr ⟨row, hold, hid⟩)))
    | inr hnew => exact .inr ⟨by rwa [hwrites, ← hnew], .inr ⟨exception, hop⟩⟩

theorem effect_perform {value : Value op} (hperform : perform op store = (some value, after)) :
    Effect op store after := by
  cases op with
  | findDevice | findByIp | findRule | findZone | getDefaultPolicy
  | getProfile | findException | listDeviceAssignments =>
    exact (mk.inj hperform).2 ▸ Effect.refl _ store
  | upsertUserRule id target changedBy =>
    simp only [perform] at hperform
    split at hperform
    next written hupsert =>
      obtain rfl := (mk.inj hperform).2
      refine Effect.upsertUserRule ?_ hupsert
      rintro rfl
      exact mem_singleton_self id
    · cases (mk.inj hperform).1
  | updateAdminLocked id locked =>
    obtain rfl := (mk.inj hperform).2
    refine Effect.updateDevice id (fun _ hmanaged => hmanaged) ?_
    rintro device rfl
    exact .inr (mem_singleton_self id)
  | updateDnsCaptureSettings id =>
    obtain rfl := (mk.inj hperform).2
    exact Effect.updateDevice id (fun _ hmanaged => hmanaged) fun _ hlocked => .inl hlocked
  | assignZone id zoneId =>
    simp only [perform] at hperform
    split at hperform
    · cases (mk.inj hperform).1
    · obtain rfl := (mk.inj hperform).2
      exact Effect.updateDevice id (fun _ hmanaged => hmanaged) fun _ hlocked => .inl hlocked
  | setDeviceProfiles id profiles =>
    simp only [perform] at hperform
    split at hperform
    next written hset =>
      obtain rfl := (mk.inj hperform).2
      exact Effect.setDeviceProfiles hset
    · cases (mk.inj hperform).1
  | insertException exception =>
    simp only [perform] at hperform
    split at hperform
    next exceptions hinsert =>
      obtain rfl := (mk.inj hperform).2
      refine Effect.exceptions (.inl rfl) fun row hrow => ?_
      have hfind := find_eq_some.mpr ⟨hrow, rfl⟩
      rw [find_insert hinsert] at hfind
      split at hfind
      · exact .inr (congrArg deviceIds (some.inj hfind).symm)
      · exact .inl (find_eq_some.mp hfind).1
    · cases (mk.inj hperform).1
  | updateException exception =>
    obtain rfl := (mk.inj hperform).2
    refine Effect.exceptions (.inr rfl) fun row hrow => ?_
    obtain ⟨old, hold, rfl⟩ := mem_map.mp hrow
    split
    · exact .inr rfl
    · exact .inl hold
  | setManaged id =>
    obtain rfl := (mk.inj hperform).2
    exact Effect.updateDevice id (fun _ _ => rfl) fun _ hlocked => .inl hlocked

end Wardnet.Retention
