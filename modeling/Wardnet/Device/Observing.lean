import Wardnet.Device.Announcements

/-!
# Observations keep the invariant

A step of a call that holds a lock touches one hardware address, and what the
call knows afterwards follows from what it knew.  An observation has no
departure to report, so that all other addresses keep their part of the
invariant.
-/

namespace Wardnet.Discovery

open Net Transition

variable {restored : Mac → Prop} {state : State} {call : ℕ} {task : Task}
  {mac : Mac} {config : Config} {now : ℕ} {fresh : Uuid}

/-! ## Assembling a step -/

variable {registry : Registry} {source : Source} {device : Uuid} {later : Option Task}

theorem exists_clearsOf {tasks : Option Task} : (∃ task ∈ tasks, task.ClearsOf mac) ↔
      ∃ departed ∈ tasks.elim [] Task.toClear, departed.mac = mac := by
  cases tasks <;> simp [Task.ClearsOf]

theorem exists_announcesOf {tasks : Option Task} : (∃ task ∈ tasks, task.AnnouncesOf mac) ↔
      ∃ departed ∈ tasks.elim [] Task.toAnnounce, departed.mac = mac := by
  cases tasks <;> simp [Task.AnnouncesOf]

/-- Two stages of a call that differ about one hardware address at most, with
nobody announced who was not about to be. -/
structure Stage (mac : Mac) (old later : Option Task) : Prop where
  announces : ∀ departed ∈ later.elim [] Task.toAnnounce, departed ∈ old.elim [] Task.toAnnounce
  others : ∀ other, other ≠ mac → TaskAgrees old later other

theorem Stage.of_same {old : Option Task}
    (hold : ∀ task ∈ old, task.locks = some mac ∨ task.locks = none)
    (hlater : ∀ task ∈ later, task.locks = some mac ∨ task.locks = none)
    (hclears : later.elim [] Task.toClear = old.elim [] Task.toClear)
    (hannounces : later.elim [] Task.toAnnounce = old.elim [] Task.toAnnounce) :
    Stage mac old later := by
  have hlocks (other : Mac) (hother : other ≠ mac) (task : Task)
      (htask : task.locks = some mac ∨ task.locks = none) : task.locks ≠ some other := by
    rcases htask with htask | htask <;> simp [htask, hother.symm]
  refine ⟨fun _ => (hannounces ▸ ·), fun other hother => ⟨?_, ?_, ?_, ?_⟩⟩
  · exact fun task htask => hlocks other hother task (hold task htask)
  · exact fun task htask => hlocks other hother task (hlater task htask)
  · rw [exists_clearsOf, exists_clearsOf, hclears]
  · rw [exists_announcesOf, exists_announcesOf, hannounces]

/-- A call proceeds and changes what there is about one hardware address. -/
theorem Sound.step (hsound : Sound restored state) (hstage : Stage mac (state.tasks.get call) later)
    (hlock : (∃ old ∈ state.tasks.get call, old.locks = some mac) ∨ ¬ state.locked mac ∨
      ∀ now ∈ later, now.locks = none) (hsources : ∀ now ∈ later, now.Sourced registry.rows)
    (htouches : Touches state.registry registry mac)
    (hfocus : Local restored (state.proceed call registry later) mac) :
    Sound restored (state.proceed call registry later) := by
  refine ⟨hsound.proceed htouches.wellFormed htouches.grows ?_ ?_ hsources, fun other => ?_⟩
  · intro now hnow owner howner
    by_cases hmac : owner = mac
    · subst hmac
      rcases hlock with hheld | hunlocked | hnone
      · exact .inl hheld
      · exact .inr hunlocked
      · cases (hnone now hnow).symm.trans howner
    · exact absurd howner ((hstage.others owner hmac).now_locks now hnow)
  · rintro now rfl departed hdeparted
    have hbefore := hstage.announces departed hdeparted
    cases hold : state.tasks.get call with
    | none => simp [hold] at hbefore
    | some old =>
      rw [hold] at hbefore
      obtain ⟨entry, hentry, hdevice⟩ := hsound.departed call old departed hold hbefore
      obtain ⟨entryNow, hentryNow, hsame⟩ := htouches.grows.entries _ _ hentry
      exact ⟨entryNow, hentryNow, hsame.trans hdevice⟩
  · by_cases hother : other = mac
    · exact hother ▸ hfocus
    · apply (hsound.local_ other).of_agrees hsound.toGlobal
      exact agrees_proceed (htouches.others other hother) (hstage.others other hother)

variable {old : Option Task}

/-- At most the times of sightings in memory have changed. -/
structure Resighted (before after : Registry) : Prop where
  rows : after.rows = before.rows
  log : after.log = before.log
  memory : ∀ mac, (after.memory.get mac).map Entry.core = (before.memory.get mac).map Entry.core

theorem Resighted.refl (registry : Registry) : Resighted registry registry :=
  ⟨rfl, rfl, fun _ => rfl⟩

theorem Sound.still (hsound : Sound restored state) (hget : state.tasks.get call = old) (mac : Mac)
    (hold : ∀ task ∈ old, (task.locks = some mac ∨ task.locks = none) ∧
      ¬ task.PersistsOf mac ∧ ¬ task.PublishesOf mac)
    (hlater : ∀ now ∈ later, (now.locks = some mac ∨ now.locks = none) ∧
      now.Sourced state.registry.rows ∧
      (now.locks = some mac → Knows (state.proceed call registry later) now))
    (hclears : later.elim [] Task.toClear = old.elim [] Task.toClear)
    (hannounces : later.elim [] Task.toAnnounce = old.elim [] Task.toAnnounce)
    (hlock : (∃ task ∈ old, task.locks = some mac) ∨ ¬ state.locked mac ∨
      ∀ now ∈ later, now.locks = none) (hsame : Resighted state.registry registry) :
    Sound restored (state.proceed call registry later) := by
  subst hget
  obtain ⟨hrows, hlog, hmemory⟩ := hsame
  obtain ⟨hwell, hgrows⟩ := hsound.wellFormed.resight hrows hmemory
  have hagrees : ∀ other, RegistryAgrees state.registry registry other :=
    fun other => ⟨hmemory other, hrows ▸ fun _ _ hrow _ => hrow, hrows ▸ id, hlog ▸ fun _ _ => rfl⟩
  have hstage : Stage mac (state.tasks.get call) later := .of_same
    (fun task hmem => (hold task hmem).1) (fun now hnow => (hlater now hnow).1) hclears hannounces
  apply hsound.step hstage hlock (hrows ▸ fun now hnow => (hlater now hnow).2.1)
    ⟨hwell, hgrows, fun other _ => hagrees other⟩
  apply (hsound.local_ mac).of_agrees hsound.toGlobal
  apply agrees_holder (hagrees mac)
  · exact fun now hnow => (hlater now hnow).2.2
  · exact fun task hmem => (hold task hmem).2
  · rw [exists_clearsOf, exists_clearsOf, hclears]
  · rw [exists_announcesOf, exists_announcesOf, hannounces]

theorem Sound.go_on (hsound : Sound restored state) (hget : state.tasks.get call = some task)
    (hold : task.locks = some mac ∨ task.locks = none ∧ ¬ state.locked mac)
    (hidle : ¬ task.PersistsOf mac ∧ ¬ task.PublishesOf mac) {later : Task}
    (hlocks : later.locks = some mac) (hsourced : later.Sourced state.registry.rows)
    (hclears : later.toClear = task.toClear) (hannounces : later.toAnnounce = task.toAnnounce)
    (hknows : Knows (state.proceed call registry (some later)) later)
    (hsame : Resighted state.registry registry) :
    Sound restored (state.proceed call registry (some later)) := by
  refine hsound.still hget mac ?_ ?_ hclears hannounces ?_ hsame
  · rintro _ ⟨⟩
    exact ⟨hold.imp_right And.left, hidle⟩
  · rintro _ ⟨⟩
    exact ⟨.inl hlocks, hsourced, fun _ => hknows⟩
  · exact hold.imp (⟨task, rfl, ·⟩) (.inl ·.2)

theorem Sound.returns (hsound : Sound restored state) (hget : state.tasks.get call = some task)
    (mac) (hlocks : task.locks = some mac ∨ task.locks = none) (hclears : task.toClear = [])
    (hannounces : task.toAnnounce = []) (hidle : ¬ task.PersistsOf mac ∧ ¬ task.PublishesOf mac)
    (hsame : Resighted state.registry registry) :
    Sound restored (state.proceed call registry none) := by
  refine hsound.still hget mac ?_ (by simp) hclears.symm hannounces.symm (by simp) hsame
  rintro _ ⟨⟩
  exact ⟨hlocks, hidle⟩

variable {property : Task → Prop}

theorem Running.proceed_of_not (hget : state.tasks.get call = some task) (hnot : ¬ property task)
    (hrunning : Running state property) : Running (state.proceed call registry later) property := by
  apply hrunning.proceed
  intro old hold
  cases hget.symm.trans hold
  exact hnot

theorem running_proceed_now {later : Task} (hproperty : property later) :
    Running (state.proceed call registry (some later)) property :=
  ⟨call, later, by simp, hproperty⟩

/-- The calls in progress settle what the memory says of the hardware address. -/
def Settles (restored : Mac → Prop) (memory : HashMap Mac Entry) (state : State) (mac : Mac) :
    Prop :=
  ∀ entry, memory.get mac = some entry →
    (entry.gone = true → GoneSettles restored state mac entry) ∧
      (entry.gone = false → PresentSettles state mac entry)

/-- The holder of a lock proceeds: nobody else knows anything about the
hardware address. -/
theorem Local.of_holder (hglobal : Global state) (hget : state.tasks.get call = some task)
    (hlocks : task.locks = some mac) (hknows : ∀ now ∈ later, now.locks = some mac →
      Knows (state.proceed call registry later) now)
    (hsettles : Settles restored registry.memory (state.proceed call registry later) mac) :
    Local restored (state.proceed call registry later) mac where
  knows := by
    intro other found hfound hfoundLocks
    rw [proceed_get] at hfound
    split at hfound
    · exact hknows found hfound hfoundLocks
    next hother =>
      exact absurd (hglobal.exclusive other call found task mac hfound hget
        hfoundLocks hlocks) hother
  gone := fun entry hentry => (hsettles entry (by simpa using hentry)).1
  present := fun entry hentry => (hsettles entry (by simpa using hentry)).2

/-- A call that has no departures to report. -/
structure Task.Plain (task : Task) : Prop where
  clears : task.toClear = []
  announces : task.toAnnounce = []

theorem Task.Plain.not_clearsOf (hplain : task.Plain) (mac : Mac) : ¬ task.ClearsOf mac := by
  simp [Task.ClearsOf, hplain.clears]

theorem Sound.holder_step (hsound : Sound restored state) (hget : state.tasks.get call = some task)
    (hplain : task.Plain) (hlocks : task.locks = some mac)
    (htouches : Touches state.registry registry mac)
    (hlater : ∀ now ∈ later, now.Plain ∧ now.locks = some mac ∧ now.Sourced registry.rows ∧
      Knows (state.proceed call registry later) now)
    (hsettles : Settles restored registry.memory (state.proceed call registry later) mac) :
    Sound restored (state.proceed call registry later) := by
  have hnone : later.elim [] Task.toClear = [] ∧ later.elim [] Task.toAnnounce = [] := by
    cases later with
    | none => exact ⟨rfl, rfl⟩
    | some now => exact ⟨(hlater now rfl).1.clears, (hlater now rfl).1.announces⟩
  have hstage : Stage mac (state.tasks.get call) later := by
    rw [hget]
    apply Stage.of_same
    · rintro _ ⟨⟩
      exact .inl hlocks
    · exact fun now hnow => .inl (hlater now hnow).2.1
    · exact hnone.1.trans hplain.clears.symm
    · exact hnone.2.trans hplain.announces.symm
  apply hsound.step hstage (.inl ⟨task, hget, hlocks⟩) (fun now hnow => (hlater now hnow).2.2.1)
    htouches
  exact .of_holder hsound.toGlobal hget hlocks (fun now hnow _ => (hlater now hnow).2.2.2) hsettles

/-! ## Observations -/

variable {ip : Ipv4Addr}

theorem Sound.begin_observing (hsound : Sound restored state) (hfree : state.tasks.get call = none)
    (howned : ∀ device, source = .peer device → OwnedBy state.registry.rows device mac) :
    Sound restored (state.proceed call state.registry (some (.observing source mac ip))) := by
  refine hsound.still hfree mac (by simp) ?_ rfl rfl (.inr (.inr ?_)) (.refl _)
  · rintro _ ⟨⟩
    refine ⟨.inr rfl, ?_, ?_⟩
    · rintro device owner observed (heq | heq)
      · cases heq
        exact howned device rfl
      · cases heq
    · rintro ⟨⟩
  · rintro _ ⟨⟩
    rfl

theorem touchPresence_core (memory : HashMap Mac Entry) (mac : Mac) (now : ℕ) (other : Mac) :
    ((touchPresence memory mac now).get other).map Entry.core =
      (memory.get other).map Entry.core := by
  unfold touchPresence
  cases hentry : memory.get mac with
  | none => rfl
  | some entry =>
    simp only
    split
    · rfl
    · by_cases hother : other = mac
      · simp [hother, hentry, Entry.core]
      · simp [hother]

section

variable (hsound : Sound restored state)
include hsound

theorem Sound.acquire (hget : state.tasks.get call = some (.observing source mac ip))
    (hfree : ¬ state.locked mac) :
    Sound restored (state.proceed call (acquire config state.registry source mac ip now).1
      (acquire config state.registry source mac ip now).2) := by
  have hlocked : Task.Sourced state.registry.rows (.locked source mac ip) := by
    rintro device owner observed (heq | heq)
    · cases heq
    · cases heq
      exact hsound.sources call _ device mac ip hget (.inl rfl)
  unfold Discovery.acquire
  cases source with
  | peer device =>
    exact hsound.go_on hget (.inr ⟨rfl, hfree⟩) ⟨id, id⟩ rfl hlocked rfl rfl trivial (.refl _)
  | capture =>
    simp only
    split
    · exact hsound.returns hget mac (.inr rfl) rfl rfl ⟨id, id⟩
        ⟨rfl, rfl, touchPresence_core _ _ _⟩
    · exact hsound.go_on hget (.inr ⟨rfl, hfree⟩) ⟨id, id⟩ rfl hlocked rfl rfl trivial
        ⟨rfl, rfl, fun _ => rfl⟩

/-- The entry is rewritten as present and the call has still to publish that,
and to store it unless it is stored. -/
theorem Sound.insert_present (hget : state.tasks.get call = some task) (hplain : task.Plain)
    (hlocks : task.locks = some mac)
    (howned : OwnedBy state.registry.rows device mac) (hregistry : registry = { state.registry with
      memory := state.registry.memory.insert mac (.present device ip now) })
    {later : Task} (hlater : later.Plain ∧ later.locks = some mac ∧ later.Sourced registry.rows ∧
      Knows (state.proceed call registry (some later)) later) (htold : later.PublishesOf mac)
    (hstored : later.PersistsOf mac ∨ Stored registry.rows device (some ip)) :
    Sound restored (state.proceed call registry (some later)) := by
  have hinserted : ∀ entry, registry.memory.get mac = some entry →
      entry = .present device ip now := by
    simp [hregistry, eq_comm]
  have htouches : Touches state.registry registry mac := by
    obtain ⟨hafter, hgrows⟩ := hsound.wellFormed.insert howned
      (show (Entry.present device ip now).deviceId = device from rfl)
    subst hregistry
    refine ⟨hafter, hgrows, fun other hother => ?_⟩
    exact ⟨by simp [hother], fun _ _ hrow _ => hrow, id, fun _ _ => rfl⟩
  apply hsound.holder_step hget hplain hlocks htouches
  · rintro _ ⟨⟩
    exact hlater
  · intro entry hentry
    rw [hinserted entry hentry]
    refine ⟨fun hgone => (by cases hgone), fun _ => ⟨.inl (running_proceed_now htold), ?_⟩⟩
    apply hstored.imp running_proceed_now
    rw [proceed_registry]
    exact id

/-- The entry is rewritten as present and the call has still to store and to
publish that. -/
theorem Sound.observe_present {mode : ConnectionMode} {event : Event}
    (hget : state.tasks.get call = some task) (hplain : task.Plain) (hlocks : task.locks = some mac)
    (howned : OwnedBy state.registry.rows device mac) (hregistry : registry = { state.registry with
      memory := state.registry.memory.insert mac (.present device ip now) })
    (htold : event.device = device ∧ event.isGone = false ∧ event.address = some ip) :
    Sound restored (state.proceed call registry
      (some (.persisting mode device mac ip (some event)))) := by
  refine hsound.insert_present hget hplain hlocks howned hregistry
    ⟨⟨rfl, rfl⟩, rfl, by simp [Task.Sourced], .present device ip now, by simp [hregistry], rfl, rfl,
      by simp [Entry.present], ?_⟩ rfl (.inl rfl)
  rintro _ ⟨⟩
  exact htold

theorem Sound.find_by_mac (hget : state.tasks.get call = some (.unknown mac ip)) {later : Task}
    (hlater : match findByMac state.registry.rows mac with
      | some row => later = .returning row.id mac ip
      | none => later = .registering mac ip) :
    Sound restored (state.proceed call state.registry (some later)) := by
  have hnone : state.registry.memory.get mac = none := (hsound.local_ mac).knows call _ hget rfl
  cases hfind : findByMac state.registry.rows mac with
  | some row =>
    simp only [hfind] at hlater
    subst hlater
    exact hsound.go_on hget (.inl rfl) ⟨id, id⟩ rfl (by simp [Task.Sourced]) rfl rfl
      ⟨hnone, hsound.wellFormed.ownedBy_of_findByMac hfind⟩ (.refl _)
  | none =>
    simp only [hfind] at hlater
    subst hlater
    exact hsound.go_on hget (.inl rfl) ⟨id, id⟩ rfl (by simp [Task.Sourced]) rfl rfl
      ⟨hnone, hfind⟩ (.refl _)

section

variable (hget : state.tasks.get call = some (.locked source mac ip))
include hget

theorem Sound.source_device (howned : OwnedBy state.registry.rows device mac) :
    source.device?.getD device = device := by
  cases source with
  | capture => rfl
  | peer found =>
    have hfound := hsound.sources call _ found mac ip hget (.inr rfl)
    exact hsound.wellFormed.device_unique hfound howned

theorem Sound.act : Sound restored (state.proceed call { state.registry with
        memory := (observationAction state.registry.memory mac ip
          source.device? now).1 } (afterAction source mac ip
        (observationAction state.registry.memory mac ip source.device? now).2)) := by
  unfold observationAction
  cases hentry : state.registry.memory.get mac with
  | some entry =>
    have howned := hsound.wellFormed.owned mac entry hentry
    have hdevice := hsound.source_device hget howned
    simp only
    split
    · simp only [afterAction, hdevice]
      exact hsound.observe_present hget ⟨rfl, rfl⟩ rfl howned rfl ⟨rfl, rfl, rfl⟩
    next hgone =>
      split
      · simp only [afterAction, hdevice]
        exact hsound.observe_present hget ⟨rfl, rfl⟩ rfl howned rfl ⟨rfl, rfl, rfl⟩
      next hip =>
        have hmemory : ∀ other, ((state.registry.memory.insert mac
            (.present entry.deviceId ip now)).get other).map Entry.core =
              (state.registry.memory.get other).map Entry.core := by
          intro other
          by_cases hother : other = mac
          · simp_all [Entry.core, Entry.present]
          · simp [hother]
        cases source with
        | capture => exact hsound.returns hget mac (.inl rfl) rfl rfl ⟨id, id⟩ ⟨rfl, rfl, hmemory⟩
        | peer device =>
          have hdevice := hsound.source_device hget (hsound.wellFormed.owned mac entry hentry)
          exact hsound.go_on hget (.inl rfl) ⟨id, id⟩ rfl (by simp [Task.Sourced]) rfl rfl
            ⟨.present entry.deviceId ip now, by simp, hdevice.symm, rfl, by simp [Entry.present],
              by simp⟩ ⟨rfl, rfl, hmemory⟩
  | none =>
    cases source with
    | peer device =>
      have howned := hsound.sources call _ device mac ip hget (.inr rfl)
      exact hsound.observe_present hget ⟨rfl, rfl⟩ rfl howned rfl ⟨rfl, rfl, rfl⟩
    | capture =>
      exact hsound.go_on hget (.inl rfl) ⟨id, id⟩ rfl (by simp [Task.Sourced]) rfl rfl hentry
        (.refl _)

end

theorem Sound.register (hget : state.tasks.get call = some (.registering mac ip))
    (hfresh : findById state.registry.rows fresh = none) : Sound restored (state.proceed call
      { state.registry with
        rows := state.registry.rows ++ [⟨fresh, mac, some ip, now, .lan⟩] }
      (some (.entering fresh mac ip))) := by
  obtain ⟨hnone, habsent⟩ := (hsound.local_ mac).knows call _ hget rfl
  have hrow : findById (state.registry.rows ++ [⟨fresh, mac, some ip, now, .lan⟩]) fresh =
        some ⟨fresh, mac, some ip, now, .lan⟩ := by
    have hids : ∀ old ∈ state.registry.rows, old.id ≠ (Row.mk fresh mac (some ip) now .lan).id :=
      Table.find_eq_none.mp hfresh
    rw [findById, Table.find_append hids, if_pos rfl]
  have hnot : ∀ entry, state.registry.memory.get mac ≠ some entry := by simp [hnone]
  apply hsound.holder_step hget ⟨rfl, rfl⟩ rfl (touches_append hsound.wellFormed (show findById
    state.registry.rows (Row.mk fresh mac (some ip) now .lan).id = none from hfresh) habsent)
  · rintro _ ⟨⟩
    exact ⟨⟨rfl, rfl⟩, rfl, by simp [Task.Sourced], by simpa using hnone,
      ⟨_, by simpa using hrow, rfl⟩, ⟨_, by simpa using hrow, rfl⟩⟩
  · exact fun entry hentry => absurd hentry (hnot entry)

end

theorem stored_update {rows : List Row} {change : Row → Row}
    {ip : Option Ipv4Addr} (howned : OwnedBy rows device mac)
    (hid : ∀ row, (change row).id = row.id) (hip : ∀ row, (change row).lastIp = ip) :
    Stored (Table.update Row.id rows device change) device ip := by
  obtain ⟨row, hrow, -⟩ := howned
  refine ⟨change row, ?_, hip row⟩
  rw [findById, Table.find_update hid, if_pos rfl]
  exact congrArg (Option.map change) hrow

theorem Sound.persist {mode : ConnectionMode}
    {event : Option Event} (hsound : Sound restored state) (hget : state.tasks.get call =
      some (.persisting mode device mac ip event)) : Sound restored (state.proceed call
      { state.registry with
        rows := updateLastSeenAndIp state.registry.rows device ip now mode }
      (event.map fun event => .publishing mac event)) := by
  obtain ⟨entry, hentry, rfl, hip, hclears, htold⟩ := (hsound.local_ mac).knows call _ hget rfl
  have howned := hsound.wellFormed.owned mac entry hentry
  have hplain : Task.Plain (.persisting mode entry.deviceId mac ip event) := ⟨rfl, rfl⟩
  have hstored : Stored (updateLastSeenAndIp state.registry.rows
      entry.deviceId ip now mode) entry.deviceId entry.lastIp := by
    rw [hip]
    apply stored_update howned
    · exact fun _ => rfl
    · exact fun _ => rfl
  refine hsound.holder_step hget hplain rfl
    (touches_update hsound.wellFormed (fun _ => rfl) (fun _ => rfl) howned) ?_
    fun found hfound => ?_
  · intro later hlater
    obtain ⟨told, hevent, rfl⟩ := Option.map_eq_some_iff.mp hlater
    obtain ⟨hdevice, hgone, haddress⟩ := htold told hevent
    refine ⟨⟨rfl, rfl⟩, rfl, by simp [Task.Sourced], entry, by simpa using hentry, hdevice, hgone,
      haddress.trans hip.symm,
      fun hentryGone => (hclears hentryGone).proceed_of_not hget (hplain.not_clearsOf mac), ?_⟩
    rw [proceed_registry]
    exact hstored
  · obtain rfl : found = entry := Option.some.inj (hfound.symm.trans hentry)
    constructor
    · intro hgone
      exact .inl ((hclears hgone).proceed_of_not hget (hplain.not_clearsOf mac))
    intro hgone
    refine ⟨?_, .inr (by rw [proceed_registry]; exact hstored)⟩
    cases event with
    | some told => exact .inl (running_proceed_now rfl)
    | none =>
      have hpresent := (hsound.local_ mac).present found hentry hgone
      apply hpresent.told.imp
      · rintro ⟨other, task, htask, hpublishes⟩
        obtain rfl := hsound.exclusive other call task _ mac htask hget hpublishes.locks rfl
        cases hget.symm.trans htask
        exact hpublishes.elim
      · simp

theorem lastEvent_cons_self (event : Event) (log : List Event) :
    lastEvent (event :: log) event.device = some event := by
  simp [lastEvent]

theorem Sound.publish {event : Event} (hsound : Sound restored state)
    (hget : state.tasks.get call = some (.publishing mac event)) :
    Sound restored (state.proceed call
      { state.registry with log := event :: state.registry.log } none) := by
  obtain ⟨entry, hentry, hdevice, hgone, haddress, hclears, hstored⟩ :=
    (hsound.local_ mac).knows call _ hget rfl
  have howned : OwnedBy state.registry.rows event.device mac :=
    hdevice ▸ hsound.wellFormed.owned mac entry hentry
  have hplain : Task.Plain (.publishing mac event) := ⟨rfl, rfl⟩
  apply hsound.holder_step hget hplain rfl (touches_publish hsound.wellFormed howned) (by simp)
  intro found hfound
  cases hfound.symm.trans hentry
  constructor
  · intro hentryGone
    exact .inl ((hclears hentryGone).proceed_of_not hget (hplain.not_clearsOf mac))
  · intro _
    refine ⟨.inr ?_, .inr (by simpa using hstored)⟩
    rw [proceed_registry, ← hdevice]
    exact ⟨event, lastEvent_cons_self _ _, hgone, haddress⟩

end Wardnet.Discovery
