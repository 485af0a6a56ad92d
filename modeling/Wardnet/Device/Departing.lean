import Wardnet.Device.Observing

/-!
# Departures keep the invariant

A departure is marked at once and then cleared and announced device by device.
Each stage concerns one hardware address; the announcement keeps the invariant
only while the device is still gone.
-/

namespace Wardnet.Discovery

open List Net Transition

variable {restored : Mac → Prop} {state : State} {call : ℕ} {task : Task}
  {mac : Mac} {config : Config} {now : ℕ} {fresh : Uuid}

/-! ## Departures -/

section

variable (hsound : Sound restored state)
include hsound

theorem Sound.departed_entry {departed : Departed}
    (hget : state.tasks.get call = some task) (hmem : departed ∈ task.toAnnounce) :
    ∃ entry, state.registry.memory.get departed.mac = some entry ∧
      entry.deviceId = departed.device ∧ (stillGone state.registry.memory departed.mac = true ↔
        entry.gone = true) := by
  obtain ⟨entry, hentry, hdevice⟩ := hsound.departed call task departed hget hmem
  exact ⟨entry, hentry, hdevice, by simp [stillGone, hentry]⟩

variable {departed : Departed} {rest : List Departed}

theorem Sound.cleared {registry : Registry}
    (hget : state.tasks.get call = some task) (hclears : task.toClear = departed :: rest)
    (hannounces : task.toAnnounce = departed :: rest) (hlocks : task.locks = some departed.mac)
    (htouches : Touches state.registry registry departed.mac)
    (hsettles : Settles restored registry.memory
      (state.proceed call registry (some (.announcing departed rest))) departed.mac) :
    Sound restored (state.proceed call registry (some (.announcing departed rest))) := by
  have hstage : Stage departed.mac (some task) (some (.announcing departed rest)) := by
    refine ⟨?_, fun other hother => ⟨?_, ?_, ?_, ?_⟩⟩
    · change ∀ found ∈ departed :: rest, found ∈ task.toAnnounce
      exact fun _ => (hannounces ▸ ·)
    · simpa [hlocks] using hother.symm
    · simp [Task.locks]
    · rw [exists_clearsOf, exists_clearsOf]
      change (∃ found ∈ rest, found.mac = other) ↔ ∃ found ∈ task.toClear, found.mac = other
      simp [hclears, hother.symm]
    · rw [exists_announcesOf, exists_announcesOf]
      change (∃ found ∈ departed :: rest, _) ↔ ∃ found ∈ task.toAnnounce, _
      rw [hannounces]
  apply hsound.step (hget ▸ hstage) (.inl ⟨task, hget, hlocks⟩) (by simp [Task.Sourced]) htouches
  apply Local.of_holder hsound.toGlobal hget hlocks _ hsettles
  rintro _ ⟨⟩ ⟨⟩

theorem Sound.check_present (hget : state.tasks.get call = some (.checking departed rest))
    (hgone : stillGone state.registry.memory departed.mac = false) :
    Sound restored (state.proceed call state.registry (some (.announcing departed rest))) := by
  obtain ⟨entry, hentry, -, hiff⟩ := hsound.departed_entry hget (mem_cons_self ..)
  have hpresent : entry.gone = false := by simpa [hgone] using hiff
  apply hsound.cleared hget rfl rfl rfl ⟨hsound.wellFormed, .refl _,
    fun _ _ => ⟨rfl, fun _ _ hrow _ => hrow, id, fun _ _ => rfl⟩⟩
  intro found hfound
  cases hfound.symm.trans hentry
  constructor
  · simp [hpresent]
  · intro hfoundPresent
    have hsettles := (hsound.local_ departed.mac).present entry hentry hfoundPresent
    exact ⟨hsettles.told.imp_left (Running.proceed_of_not hget id),
      hsettles.stored.imp_left (Running.proceed_of_not hget id)⟩

theorem Sound.wipe (hget : state.tasks.get call = some (.wiping departed rest)) :
    Sound restored (state.proceed call { state.registry with
        rows := clearLastIp state.registry.rows departed.device }
      (some (.announcing departed rest))) := by
  obtain ⟨entry, hentry, hgone⟩ := (hsound.local_ departed.mac).knows call _ hget rfl
  obtain ⟨found, hfound, hdevice, -⟩ := hsound.departed_entry hget (mem_cons_self ..)
  obtain rfl : found = entry := Option.some.inj (hfound.symm.trans hentry)
  have howned := hdevice ▸ hsound.wellFormed.owned departed.mac found hentry
  have hstored : Stored (clearLastIp state.registry.rows departed.device) departed.device none := by
    apply stored_update howned
    · exact fun _ => rfl
    · exact fun _ => rfl
  refine hsound.cleared hget rfl rfl rfl
    (touches_update hsound.wellFormed (fun _ => rfl) (fun _ => rfl) howned) ?_
  intro entry hentryNow
  cases hentryNow.symm.trans hentry
  constructor
  · intro _
    refine .inr (.inl ⟨?_, .inr (running_proceed_now ?_)⟩)
    · rw [proceed_registry, hdevice]
      exact hstored
    · exact ⟨departed, mem_cons_self .., rfl⟩
  · intro hpresent
    rw [hgone] at hpresent
    cases hpresent

end

theorem toClear_nextDeparture : (nextDeparture rest).elim [] Task.toClear = rest := by
  cases rest <;> rfl

theorem toAnnounce_nextDeparture : (nextDeparture rest).elim [] Task.toAnnounce = rest := by
  cases rest <;> rfl

theorem nextDeparture_waits {later : Task} (hlater : later ∈ nextDeparture rest) :
    later.locks = none ∧ ∀ rows, later.Sourced rows := by
  cases rest with
  | nil => cases hlater
  | cons departed rest =>
    cases hlater
    simp [Task.locks, Task.Sourced]

theorem stage_next :
    Stage departed.mac (some (.announcing departed rest)) (nextDeparture rest) where
  announces := by
    rw [toAnnounce_nextDeparture]
    exact fun _ => mem_cons_of_mem _
  others := by
    intro other hother
    refine ⟨?_, ?_, ?_, ?_⟩
    · exact nofun
    · intro later hlater
      simp [(nextDeparture_waits hlater).1]
    · rw [exists_clearsOf, exists_clearsOf, toClear_nextDeparture]
      simp [Task.toClear]
    · rw [exists_announcesOf, exists_announcesOf, toAnnounce_nextDeparture]
      simp [Task.toAnnounce, hother.symm]

theorem Sound.announce (hsound : Sound restored state)
    (hget : state.tasks.get call = some (.announcing departed rest))
    (hgone : stillGone state.registry.memory departed.mac = true) :
    Sound restored (state.proceed call
      { state.registry with log := departed.event :: state.registry.log }
      (nextDeparture rest)) := by
  obtain ⟨entry, hentry, hdevice, hiff⟩ := hsound.departed_entry hget (mem_cons_self ..)
  have hentryGone := hiff.mp hgone
  have hstage : Stage departed.mac (state.tasks.get call) (nextDeparture rest) := hget ▸ stage_next
  have hclears : ∀ mac, Running state (Task.ClearsOf mac) → Running (state.proceed call
        { state.registry with log := departed.event :: state.registry.log }
        (nextDeparture rest)) (Task.ClearsOf mac) := by
    intro mac
    apply (running_proceed ?_).mpr
    rw [exists_clearsOf, exists_clearsOf, toClear_nextDeparture, hget]
    rfl
  have howned := hdevice ▸ hsound.wellFormed.owned departed.mac entry hentry
  refine hsound.step hstage (.inr (.inr fun later hlater => (nextDeparture_waits hlater).1))
    (fun later hlater => (nextDeparture_waits hlater).2 _)
    (touches_publish hsound.wellFormed howned) ?_
  constructor
  · intro other found hfound hlocks
    rw [proceed_get] at hfound
    split at hfound
    · rw [(nextDeparture_waits hfound).1] at hlocks
      cases hlocks
    · apply ((hsound.local_ departed.mac).knows other found hfound hlocks).carry hsound.toGlobal
        ⟨?_, ?_, ?_, hclears departed.mac⟩ hlocks
      · simpa using RowsAgree.refl _ _
      · simp
      · simpa using fun entry hentry => ⟨entry, hentry, rfl, rfl, id, .inl⟩
  · intro found hfound _
    rw [proceed_registry] at hfound
    obtain rfl : found = entry := Option.some.inj (hfound.symm.trans hentry)
    rcases (hsound.local_ departed.mac).gone found hentry hentryGone
      with hclearing | ⟨hstored, -⟩ | ⟨-, -, hnot⟩
    · exact .inl (hclears _ hclearing)
    · refine .inr (.inl ⟨by simpa using hstored, .inl ?_⟩)
      rw [proceed_registry, hdevice]
      exact ⟨departed.event, lastEvent_cons_self departed.event _, rfl⟩
    · exact absurd ⟨call, _, hget, departed, mem_cons_self .., rfl⟩ hnot
  · intro found hfound hpresent
    rw [proceed_registry] at hfound
    cases hfound.symm.trans hentry
    rw [hentryGone] at hpresent
    cases hpresent

/-! ## Marking devices gone -/

theorem markGone_get (memory : HashMap Mac Entry) (departed : List Departed) (mac : Mac) :
    (markGone memory departed).get mac =
      if ∃ departure ∈ departed, departure.mac = mac then (memory.get mac).map Entry.depart
      else memory.get mac := by
  induction departed generalizing memory with
  | nil => simp [markGone]
  | cons departure departed ih =>
    have hstep : markGone memory (departure :: departed) =
        markGone (markGone memory [departure]) departed := rfl
    have hone : (markGone memory [departure]).get mac =
        if departure.mac = mac then (memory.get mac).map Entry.depart
        else memory.get mac := by
      simp only [markGone, foldl_cons, foldl_nil]
      by_cases hmac : departure.mac = mac
      · subst hmac
        cases hentry : memory.get departure.mac with
        | none => simp [hentry]
        | some entry => simp
      · have hne : ¬ mac = departure.mac := fun heq => hmac heq.symm
        cases hentry : memory.get departure.mac with
        | none => simp [hmac]
        | some entry => simp [hmac, hne]
    have hdepart : ∀ entry : Entry, entry.depart.depart = entry.depart := fun _ => rfl
    rw [hstep, ih, hone]
    by_cases hmac : departure.mac = mac
    · simp only [hmac, mem_cons, exists_eq_or_imp, true_or, if_true]
      split
      · cases memory.get mac <;> simp [hdepart]
      · rfl
    · simp [hmac]

theorem Sound.depart_marked {departed : List Departed} (hsound : Sound restored state)
    (hmac : ∃ departure ∈ departed, departure.mac = mac) :
    Local restored (state.depart call departed) mac := by
  have hget : (state.depart call departed).registry.memory.get mac =
      (state.registry.memory.get mac).map Entry.depart := by
    simp only [State.depart, proceed_registry, markGone_get, hmac, if_true]
  have hclears : Running (state.depart call departed) (Task.ClearsOf mac) := by
    rw [← @toClear_nextDeparture departed] at hmac
    obtain ⟨later, hlater, hclears⟩ := exists_clearsOf.mpr hmac
    exact ⟨call, later, by simpa [State.depart] using hlater, hclears⟩
  constructor
  · intro other found hfound hlocks
    have hbefore : state.tasks.get other = some found := by
      simp only [State.depart, proceed_get] at hfound
      split at hfound
      · rw [(nextDeparture_waits hfound).1] at hlocks
        cases hlocks
      · exact hfound
    apply ((hsound.local_ mac).knows other found hbefore hlocks).carry hsound.toGlobal
      ⟨?_, ?_, ?_, fun _ => hclears⟩ hlocks
    · simpa [State.depart] using RowsAgree.refl _ _
    · simp [hget]
    · intro entry hentry
      exact ⟨entry.depart, by simp [hget, hentry], rfl, rfl, fun _ => rfl, fun _ => .inr hclears⟩
  · intro entry _ _
    exact .inl hclears
  · intro entry hfound hpresent
    obtain ⟨old, -, rfl⟩ := Option.map_eq_some_iff.mp (hget.symm.trans hfound)
    cases hpresent

theorem Sound.depart {departed : List Departed}
    (hsound : Sound restored state) (hfree : state.tasks.get call = none)
    (hdeparted : ∀ departure ∈ departed,
      ∃ entry, state.registry.memory.get departure.mac = some entry ∧
        entry.deviceId = departure.device) : Sound restored (state.depart call departed) := by
  have hget : ∀ mac entry, (markGone state.registry.memory departed).get mac = some entry →
      ∃ old, state.registry.memory.get mac = some old ∧ old.deviceId = entry.deviceId := by
    intro mac entry hentry
    rw [markGone_get] at hentry
    split at hentry
    · obtain ⟨old, hold, rfl⟩ := Option.map_eq_some_iff.mp hentry
      exact ⟨old, hold, rfl⟩
    · exact ⟨entry, hentry, rfl⟩
  have hback : ∀ mac entry, state.registry.memory.get mac = some entry →
      ∃ later, (markGone state.registry.memory departed).get mac =
          some later ∧ later.deviceId = entry.deviceId := by
    intro mac entry hentry
    rw [markGone_get, hentry]
    split
    · exact ⟨entry.depart, rfl, rfl⟩
    · exact ⟨entry, rfl, rfl⟩
  have hglobal : Global (state.depart call departed) := by
    apply hsound.proceed
    · refine ⟨hsound.wellFormed.ids, hsound.wellFormed.macs, ?_⟩
      intro mac entry hentry
      obtain ⟨old, hold, hdevice⟩ := hget mac entry hentry
      exact hdevice ▸ hsound.wellFormed.owned mac old hold
    · exact ⟨fun _ _ => id, hback⟩
    · intro later hlater mac hlocks
      rw [(nextDeparture_waits hlater).1] at hlocks
      cases hlocks
    · intro later hlater departure hmem
      have hlist : later.toAnnounce = departed := by
        rw [← @toAnnounce_nextDeparture departed, hlater]
        rfl
      obtain ⟨entry, hentry, hdevice⟩ := hdeparted departure (hlist ▸ hmem)
      obtain ⟨entryNow, hentryNow, hsame⟩ := hback _ _ hentry
      exact ⟨entryNow, hentryNow, hsame.trans hdevice⟩
    · exact fun later hlater => (nextDeparture_waits hlater).2 _
  refine ⟨hglobal, fun mac => ?_⟩
  by_cases hmac : ∃ departure ∈ departed, departure.mac = mac
  · exact hsound.depart_marked hmac
  · apply (hsound.local_ mac).of_agrees hsound.toGlobal
    apply agrees_proceed
    · refine ⟨?_, fun _ _ hrow _ => hrow, id, fun _ _ => rfl⟩
      simp [markGone_get, hmac]
    · refine ⟨by simp [hfree], ?_, ?_, ?_⟩
      · intro later hlater
        rw [(nextDeparture_waits hlater).1]
        simp
      · rw [exists_clearsOf, toClear_nextDeparture]
        simpa [hfree] using hmac
      · rw [exists_announcesOf, toAnnounce_nextDeparture]
        simpa [hfree] using hmac

variable {memory : HashMap Mac Entry}

theorem departures_tracked {timeout : ℕ}
    {departure : Departed} (hmem : departure ∈ departures memory timeout now) :
    ∃ entry, memory.get departure.mac = some entry ∧ entry.deviceId = departure.device := by
  simp only [departures, mem_map, mem_filter] at hmem
  obtain ⟨⟨mac, entry⟩, ⟨hentry, -⟩, rfl⟩ := hmem
  exact ⟨entry, HashMap.mem_toList.mp hentry, rfl⟩

theorem peerDepartures_tracked {timeout : ℕ}
    {departure : Departed} (hmem : departure ∈ peerDepartures memory mac timeout now) :
    ∃ entry, memory.get departure.mac = some entry ∧ entry.deviceId = departure.device := by
  unfold peerDepartures at hmem
  split at hmem
  next entry hentry =>
    split at hmem
    · obtain rfl := mem_singleton.mp hmem
      exact ⟨entry, hentry, rfl⟩
    · cases hmem
  · cases hmem

end Wardnet.Discovery
