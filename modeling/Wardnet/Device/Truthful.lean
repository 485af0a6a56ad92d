import Wardnet.Device.Departing

/-!
# The lifecycle events tell the truth

Each step of a call keeps the invariant, an announcement only under the
condition that the device is still gone.  When no call is in progress the
invariant says that the last event about a device and its row agree with its
in-memory entry.
-/

namespace Wardnet.Discovery

open Net Option Transition

variable {restored : Mac → Prop} {state : State} {call : ℕ} {task : Task}
  {mac : Mac} {config : Config} {now : ℕ} {fresh : Uuid}

/-! ## Runs -/

theorem Sound.advance {result : Registry × Option Task}
    (hsound : Sound restored state) (hget : state.tasks.get call = some task)
    (hcond : AnnouncesGone state (.step call now fresh))
    (hadvance : advance config state now fresh task = some result) :
    Sound restored (state.proceed call result.1 result.2) := by
  revert hadvance
  fun_cases Discovery.advance config state now fresh task <;> rintro ⟨⟩
  · exact hsound.acquire hget ‹_›
  · exact hsound.act hget
  · exact hsound.find_by_mac hget (by simp [*])
  · exact hsound.find_by_mac hget (by simp [*])
  · have hknows := (hsound.local_ _).knows call _ hget rfl
    exact hsound.observe_present hget ⟨rfl, rfl⟩ rfl hknows.2 rfl ⟨rfl, rfl, rfl⟩
  · exact hsound.register hget (not_isSome_iff_eq_none.mp ‹_›)
  · obtain ⟨-, howned, hstored⟩ := (hsound.local_ _).knows call _ hget rfl
    exact hsound.insert_present hget ⟨rfl, rfl⟩ rfl howned rfl
      ⟨⟨rfl, rfl⟩, rfl, by simp [Task.Sourced], .present _ _ now, by simp, rfl, rfl, rfl,
        by simp [Entry.present], hstored⟩ rfl (.inr hstored)
  · exact hsound.persist hget
  · exact hsound.publish hget
  · exact hsound.go_on hget (.inr ⟨rfl, ‹_›⟩) ⟨id, id⟩ rfl (by simp [Task.Sourced]) rfl rfl trivial
      (.refl _)
  · obtain ⟨entry, hentry, -, hiff⟩ := hsound.departed_entry hget (List.mem_cons_self ..)
    exact hsound.go_on hget (.inl rfl) ⟨id, id⟩ rfl (by simp [Task.Sourced]) rfl rfl
      ⟨entry, by simpa using hentry, hiff.mp ‹_›⟩ (.refl _)
  · exact hsound.check_present hget (eq_false_of_ne_true ‹_›)
  · exact hsound.wipe hget
  · exact hsound.announce hget (hcond _ (by simp [hget, Task.announcement]))

theorem Sound.next {label : Label} {after : State}
    (hsound : Sound restored state) (hcond : AnnouncesGone state label)
    (hnext : next config state label = some after) : Sound restored after := by
  revert hnext
  fun_cases Discovery.next config state label
  any_goals rintro ⟨⟩
  · exact hsound.begin_observing (not_isSome_iff_eq_none.mp ‹_›) (by rintro device ⟨⟩)
  · exact hsound
  next row hrow =>
    refine hsound.begin_observing (not_isSome_iff_eq_none.mp ‹_›) ?_
    rintro owner ⟨⟩
    exact ⟨row, hrow, rfl⟩
  · exact hsound
  · exact hsound.depart (not_isSome_iff_eq_none.mp ‹_›) fun _ => departures_tracked
  · exact hsound.depart (not_isSome_iff_eq_none.mp ‹_›) fun _ => peerDepartures_tracked
  · exact hsound
  · intro hnext
    simp only [bind_eq_some_iff, map_eq_some_iff] at hnext
    obtain ⟨task, hget, result, hadvance, rfl⟩ := hnext
    exact hsound.advance hget hcond hadvance

/-- A registry whose service has just been started: the devices it restored
are taken for gone, and nothing has been published. -/
structure Registry.Started (registry : Registry) : Prop extends registry.WellFormed where
  gone : ∀ mac entry, registry.memory.get mac = some entry → entry.gone = true
  silent : registry.log = []

theorem Sound.told (hsound : Sound restored state) (hidle : state.tasks = .empty) {entry : Entry}
    (hentry : state.registry.memory.get mac = some entry) :
    Told state.registry entry ∨ restored mac ∧
      lastEvent state.registry.log entry.deviceId = none := by
  have hnone : ∀ property, ¬ Running state property := by simp [Running, hidle]
  cases hgone : entry.gone with
  | false =>
    obtain ⟨htold, hstored⟩ := (hsound.local_ mac).present entry hentry hgone
    obtain ⟨event, hevent, hpresent, hat⟩ := htold.resolve_left (hnone _)
    obtain ⟨row, hrow, hip⟩ := hstored.resolve_left (hnone _)
    exact .inl ⟨event, hevent, row, hrow, by simp [hpresent, hgone],
      fun _ => hat, by simp [hgone, hip]⟩
  | true =>
    obtain hclear | ⟨⟨row, hrow, hip⟩, htold⟩ | ⟨hrestored, hsilent, -⟩ :=
      (hsound.local_ mac).gone entry hentry hgone
    · exact absurd hclear (hnone _)
    · obtain ⟨event, hevent, hisGone⟩ := htold.resolve_right (hnone _)
      exact .inl ⟨event, hevent, row, hrow, by simp [hisGone, hgone],
        by simp [hgone], by simp [hgone, hip]⟩
    · exact .inr ⟨hrestored, hsilent⟩

/-- However the calls interleave, once none is in progress the last event
about every tracked device and its row say what its entry says, provided that
a departure is announced only while its device is still gone.  A device that
was restored at the start and about which nothing has been published has no
last event. -/
theorem events_tell_the_truth (config : Config) (start : Registry)
    (hstarted : start.Started) (labels : List Label) (final : State)
    (hmeets : Meets (Discovery.next config) AnnouncesGone (State.idle start) labels)
    (hrun : run (Discovery.next config) (State.idle start) labels = some final)
    (hidle : final.tasks = .empty) (mac : Mac) (entry : Entry)
    (hentry : final.registry.memory.get mac = some entry) :
    Told final.registry entry ∨ start.memory.get mac ≠ none ∧
      lastEvent final.registry.log entry.deviceId = none := by
  have hsound : Sound (fun mac => start.memory.get mac ≠ none) final := by
    refine run_invariant_of_meets ?_ ⟨⟨hstarted.toWellFormed, by simp [State.idle],
      by simp [State.idle], by simp [State.idle]⟩, fun mac => ?_⟩ hmeets hrun
    · intro state label after hbefore hcond hnext
      exact hbefore.next hcond hnext
    constructor
    · simp [State.idle]
    · intro entry hentry _
      refine .inr (.inr ⟨?_, ?_, ?_⟩)
      · have htracked : start.memory.get mac = some entry := hentry
        simp [htracked]
      · simp [State.idle, hstarted.silent, lastEvent]
      · simp [State.idle, Running]
    · intro entry hentry hpresent
      simp [hstarted.gone mac entry hentry] at hpresent
  exact hsound.told hidle hentry

/-- A LAN of one trusted subnet. -/
def lan : Config where
  trustedSubnets := [.slash24 (ipv4 192 168 1 0)]
  gateway := none
  lanIp := ipv4 192 168 1 1

/-- Nothing is tracked or stored. -/
def emptyRegistry : Registry where
  memory := .empty
  history := .empty
  rows := []
  log := []

theorem started_emptyRegistry : emptyRegistry.Started where
  ids := .nil
  macs := .nil
  owned := by simp [emptyRegistry]
  gone := by simp [emptyRegistry]
  silent := rfl

/-- A device is discovered, and a sweep that finds it stale clears its
address. -/
def departing : List Label :=
  [.processObservation 0 5 (ipv4 192 168 1 10)] ++ List.replicate 6 (.step 0 0 7) ++
    [.scanDepartures 1 300000 300001] ++ List.replicate 3 (.step 1 300001 0)

/-- The device is seen again. -/
def seenAgain : List Label :=
  .processObservation 2 5 (ipv4 192 168 1 10) :: List.replicate 4 (.step 2 300002 0)

/-- The sweep publishes `DeviceGone` after the device has come back: its entry
is present and the last event says that it left. -/
theorem gone_announced_for_present_device : ∃ final entry,
      run (Discovery.next lan) (State.idle emptyRegistry)
        (departing ++ seenAgain ++ [.step 1 300002 0]) = some final ∧
      final.tasks = .empty ∧ final.registry.memory.get 5 = some entry ∧ entry.gone = false ∧
      lastEvent final.registry.log entry.deviceId = some (.gone entry.deviceId 5 entry.lastIp) ∧
      ¬ Told final.registry entry := by
  refine ⟨_, .present 7 (ipv4 192 168 1 10) 300002, rfl, ?_⟩
  decide +kernel

/-- Announced before the device is seen again, the departure is followed by
the discovery. -/
theorem events_tell_the_truth_seenAgain : ∃ final entry,
      run (Discovery.next lan) (State.idle emptyRegistry)
        (departing ++ [.step 1 300002 0] ++ seenAgain) = some final ∧
      final.registry.memory.get 5 = some entry ∧
      (Told final.registry entry ∨ emptyRegistry.memory.get 5 ≠ none ∧
        lastEvent final.registry.log entry.deviceId = none) := by
  refine ⟨_, .present 7 (ipv4 192 168 1 10) 300002, rfl, ?_, ?_⟩
  · decide +kernel
  · apply events_tell_the_truth lan emptyRegistry started_emptyRegistry
      (departing ++ [.step 1 300002 0] ++ seenAgain) _ _ rfl _ 5
    · decide +kernel
    · decide +kernel
    · decide +kernel

end Wardnet.Discovery
