import Wardnet.Device.Sequential
import Wardnet.Device.Truthful

/-!
# Resolving a device by its address

`find_by_ip` answers with the most recently seen row at an address.  An
observation writes the time of its row, except a repeated one on the LAN, and
`flush_last_seen` writes one time for every present device.  The rows at an
address are therefore ordered by the sightings there as long as neither
happens while several present devices share it.
-/

namespace Wardnet.Discovery

open HashMap List Net Table Transition

/-- The calls the service has handled, with who was observed where, the latest
first, and the time of the last call. -/
structure Watch where
  registry : Registry
  sightings : List (Ipv4Addr × Mac)
  clock : ℕ
  deriving DecidableEq

inductive Call
  | processObservation (mac : Mac) (ip : Ipv4Addr) (fresh : Uuid)
  | processPeerObservation (device : Uuid) (ip : Ipv4Addr)
  | flushLastSeen
  | scanDepartures (timeout : ℕ)
  | markPeerGone (device : Uuid) (timeout : ℕ)
  deriving DecidableEq

/-- The device was observed at the address, unless the observation was
ignored. -/
def Watch.sight (watch : Watch) (registry : Registry) (ip : Ipv4Addr)
    (mac : Mac) (now : ℕ) (result : ObservationResult) : Watch where
  registry := registry
  sightings :=
    if result = .ignored then watch.sightings
    else (ip, mac) :: watch.sightings
  clock := now

/-- One call at a time later than the last one.  The id drawn for a new device
is one no row has. -/
def Watch.next (config : Config) (watch : Watch) : ℕ × Call → Option Watch
  | (now, call) =>
    if now ≤ watch.clock then none
    else
      match call with
      | .processObservation mac ip fresh =>
        if (findById watch.registry.rows fresh).isSome then none
        else
          let observed := Discovery.processObservation config watch.registry mac ip now fresh
          some (watch.sight observed.1 ip mac now observed.2)
      | .processPeerObservation device ip =>
        match findById watch.registry.rows device with
        | some row =>
          let observed := Discovery.processPeerObservation watch.registry device ip now
          some (watch.sight observed.1 ip row.mac now (observed.2.getD .ignored))
        | none => some { watch with clock := now }
      | .flushLastSeen =>
        some { watch with
          registry := Discovery.flushLastSeen watch.registry now
          clock := now }
      | .scanDepartures timeout =>
        some { watch with
          registry := Discovery.scanDepartures watch.registry timeout now
          clock := now }
      | .markPeerGone device timeout =>
        some { watch with
          registry := Discovery.markPeerGone watch.registry device timeout now
          clock := now }

/-- The device observed last at an address. -/
def lastObserved (sightings : List (Ipv4Addr × Mac)) (ip : Ipv4Addr) : Option Mac :=
  (sightings.find? fun sighting => sighting.1 = ip).map Prod.snd

/-- The devices observed at an address since a device was last observed
there. -/
def observedSince (ip : Ipv4Addr) (mac : Mac) : List (Ipv4Addr × Mac) → List Mac
  | [] => []
  | (at_, seen) :: earlier =>
    if at_ = ip then if seen = mac then [] else seen :: observedSince ip mac earlier
    else observedSince ip mac earlier

/-- The device is present at the address. -/
def PresentAt (memory : HashMap Mac Entry) (mac : Mac) (ip : Ipv4Addr) : Prop :=
  ∃ entry ∈ memory.get mac, entry.gone = false ∧ entry.lastIp = some ip
  deriving Decidable

/-- The address resolves to the present device that was observed there last. -/
def Watch.Resolves (watch : Watch) : Prop :=
  ∀ ip mac, lastObserved watch.sightings ip = some mac → PresentAt watch.registry.memory mac ip →
    ∀ found, FindsByIp watch.registry.rows ip found → found.map Row.mac = some mac

/-- No two present devices share an address when the sighting times are
flushed; a repeated sighting on the LAN comes only when no other device still
present at the address has been observed there in the meantime. -/
def Undisputed (watch : Watch) : ℕ × Call → Prop
  | (_, .flushLastSeen) =>
    ∀ left ∈ watch.registry.memory.toList, ∀ right ∈ watch.registry.memory.toList,
        left.2.gone = false → right.2.gone = false →
          left.2.lastIp = right.2.lastIp → left.1 = right.1
  | (_, .processObservation mac ip _) =>
    PresentAt watch.registry.memory mac ip →
      ∀ other ∈ observedSince ip mac watch.sightings, ¬ PresentAt watch.registry.memory other ip
  | _ => True

instance (watch : Watch) (label) : Decidable (Undisputed watch label) := by
  delta Undisputed
  split <;> infer_instance

/-! ## The invariant -/

/-- The rows at an address are ordered by the sightings there.  `start` is the
time before the first call: only rows that nothing has been observed for since
are older. -/
structure Ordered (start : ℕ) (watch : Watch) : Prop where
  wellFormed : watch.registry.WellFormed
  begun : start ≤ watch.clock
  bounded : ∀ row ∈ watch.registry.rows, row.lastSeen ≤ watch.clock
  addressed : ∀ mac entry, watch.registry.memory.get mac = some entry →
    entry.gone = false → ∃ ip, entry.lastIp = some ip
  located : ∀ mac ip, PresentAt watch.registry.memory mac ip →
    ∃ row ∈ watch.registry.rows, row.mac = mac ∧ row.lastIp = some ip ∧ start < row.lastSeen
  absent : ∀ row ∈ watch.registry.rows, ∀ ip, row.lastIp = some ip →
    PresentAt watch.registry.memory row.mac ip ∨ row.lastSeen ≤ start
  ordered : ∀ left ∈ watch.registry.rows, ∀ right ∈ watch.registry.rows,
    ∀ ip, PresentAt watch.registry.memory left.mac ip →
      PresentAt watch.registry.memory right.mac ip → left.mac ≠ right.mac →
      right.mac ∉ observedSince ip left.mac watch.sightings →
      right.lastSeen < left.lastSeen

variable {start now : ℕ} {watch : Watch} {mac : Mac} {ip : Ipv4Addr}
  {sightings : List (Ipv4Addr × Mac)}

theorem observedSince_lastObserved (hlast : lastObserved sightings ip = some mac) :
    observedSince ip mac sightings = [] := by
  induction sightings with
  | nil => rfl
  | cons sighting earlier ih =>
    simp only [lastObserved, find?_cons] at hlast
    by_cases hat : sighting.1 = ip
    · simp only [hat, decide_true, Option.map_some, Option.some.injEq] at hlast
      simp [observedSince, hat, hlast]
    · simp only [hat, decide_false] at hlast
      simp [observedSince, hat, ih hlast]

variable {row : Row}

theorem Ordered.resolves (hordered : Ordered start watch) : watch.Resolves := by
  intro ip mac hlast hpresent found hfound
  obtain ⟨row, hrow, hmac, hip, hrecent⟩ := hordered.located mac ip hpresent
  cases found with
  | none => exact absurd hip (hfound.1 rfl row hrow)
  | some other =>
    obtain ⟨hother, hotherIp, hlatest⟩ := hfound.2 other rfl
    have hafter := hlatest row hrow hip
    by_contra hne
    rw [Option.map_some, Option.some.injEq] at hne
    rcases hordered.absent other hother ip hotherIp with hotherPresent | hold
    · have hbefore := hordered.ordered row hrow other hother ip (hmac ▸ hpresent) hotherPresent
        (fun heq => hne (heq.symm.trans hmac))
        (by rw [hmac, observedSince_lastObserved hlast]; exact not_mem_nil)
      exact hafter.not_gt hbefore
    · exact (hold.trans_lt hrecent).not_ge hafter

/-! ## Steps -/

variable {memory : HashMap Mac Entry}

theorem mem_observedSince_cons {left right : Mac} {address : Ipv4Addr} (hne : mac ≠ left)
    (hmem : right ∈ observedSince address left sightings) :
    right ∈ observedSince address left ((ip, mac) :: sightings) := by
  by_cases haddress : ip = address
  · simp [observedSince, haddress, hne, hmem]
  · simpa [observedSince, haddress] using hmem

variable {registry : Registry}

theorem Ordered.same_rows (hordered : Ordered start watch) (hnow : watch.clock < now)
    (hwell : registry.WellFormed) (hrows : registry.rows = watch.registry.rows)
    (haddressed : ∀ mac entry, registry.memory.get mac = some entry →
      entry.gone = false → ∃ ip, entry.lastIp = some ip)
    (hpresent : ∀ mac ip, PresentAt registry.memory mac ip ↔ PresentAt watch.registry.memory mac ip)
    (hsince : ∀ left right ip, PresentAt watch.registry.memory right ip →
      right ∈ observedSince ip left watch.sightings → right ∈ observedSince ip left sightings) :
    Ordered start ⟨registry, sightings, now⟩ := by
  refine ⟨hwell, hordered.begun.trans hnow.le, ?_, haddressed, ?_, ?_, ?_⟩
  · exact fun row hrow => (hordered.bounded row (hrows ▸ hrow)).trans hnow.le
  · intro mac ip hat
    rw [hrows]
    exact hordered.located mac ip ((hpresent mac ip).mp hat)
  · intro row hrow ip hip
    exact (hordered.absent row (hrows ▸ hrow) ip hip).imp_left (hpresent row.mac ip).mpr
  · intro left hleft right hright ip hleftAt hrightAt hne hnot
    rw [hpresent] at hleftAt hrightAt
    exact hordered.ordered left (hrows ▸ hleft) right (hrows ▸ hright) ip hleftAt hrightAt hne
      (mt (hsince _ _ ip hrightAt) hnot)

theorem Ordered.tick (hordered : Ordered start watch)
    (hnow : watch.clock < now) (hrows : registry.rows = watch.registry.rows)
    (hmemory : ∀ other, (registry.memory.get other).map Entry.core =
      (watch.registry.memory.get other).map Entry.core) :
    Ordered start ⟨registry, watch.sightings, now⟩ := by
  apply hordered.same_rows hnow (hordered.wellFormed.resight hrows hmemory).1 hrows ?_
    ?_ fun _ _ _ _ => id
  · intro mac entry hget hgone
    obtain ⟨old, hold, -, hip, hsame⟩ := exists_of_core (hmemory mac).symm hget
    exact hip ▸ hordered.addressed mac old hold (hsame.trans hgone)
  · intro mac ip
    have hiff (memory : HashMap Mac Entry) : PresentAt memory mac ip ↔
        ∃ core ∈ (memory.get mac).map Entry.core, core.2.2 = false ∧ core.2.1 = some ip := by
      simp [PresentAt, Entry.core]
    rw [hiff, hiff, hmemory]

/-- The rows after the address of one device has been written. -/
structure Written (rows after : List Row) (mac : Mac) (ip : Ipv4Addr) (now : ℕ) : Prop where
  row : ∃ row ∈ after, row.mac = mac
  fields : ∀ row ∈ after, row.mac = mac → row.lastIp = some ip ∧ row.lastSeen = now
  others : ∀ row, row.mac ≠ mac → (row ∈ after ↔ row ∈ rows)

/-- A device is observed and its row written. -/
structure Relocates (registry after : Registry) (mac : Mac) (device : Uuid) (ip : Ipv4Addr)
    (now : ℕ) : Prop where
  wellFormed : after.WellFormed
  memory : after.memory = registry.memory.insert mac (.present device ip now)
  written : Written registry.rows after.rows mac ip now
  device : ∀ row, row ∈ registry.rows ∨ row ∈ after.rows → row.mac = mac → row.id = device

variable {device : Uuid}

theorem presentAt_insert {other : Mac} {address : Ipv4Addr} :
    PresentAt (memory.insert mac (.present device ip now)) other address ↔
      if other = mac then address = ip
      else PresentAt memory other address := by
  by_cases hother : other = mac
  · have hflip : ip = address ↔ address = ip := eq_comm
    simp [PresentAt, hother, Entry.present, hflip]
  · simp [PresentAt, hother]

theorem addressed_insert (hordered : Ordered start watch)
    (hmemory : registry.memory = watch.registry.memory.insert mac (.present device ip now))
    {other : Mac} {entry : Entry} (hget : registry.memory.get other = some entry)
    (hgone : entry.gone = false) : ∃ address, entry.lastIp = some address := by
  rw [hmemory] at hget
  rcases get_insert_eq_some.mp hget with ⟨-, rfl⟩ | ⟨-, hold⟩
  · exact ⟨ip, rfl⟩
  · exact hordered.addressed other entry hold hgone

theorem Ordered.relocate (hordered : Ordered start watch) (hnow : watch.clock < now)
    (hrelocates : Relocates watch.registry registry mac device ip now) :
    Ordered start ⟨registry, (ip, mac) :: watch.sightings, now⟩ := by
  obtain ⟨hwell, hmemory, hwritten, -⟩ := hrelocates
  have hpresent : ∀ other address, PresentAt registry.memory other address ↔
        if other = mac then address = ip
        else PresentAt watch.registry.memory other address := by
    intro other address
    rw [hmemory]
    exact presentAt_insert
  have hstart : start < now := hordered.begun.trans_lt hnow
  constructor
  · exact hwell
  · exact hstart.le
  · intro row hrow
    by_cases hmac : row.mac = mac
    · exact (hwritten.fields row hrow hmac).2.le
    · exact (hordered.bounded row ((hwritten.others row hmac).mp hrow)).trans hnow.le
  · intro other entry hget hgone
    exact addressed_insert hordered hmemory hget hgone
  · intro other address hat
    rw [hpresent] at hat
    by_cases hother : other = mac
    · rw [if_pos hother] at hat
      obtain ⟨row, hrow, hmac⟩ := hwritten.row
      obtain ⟨hip, hseen⟩ := hwritten.fields row hrow hmac
      exact ⟨row, hrow, hmac.trans hother.symm, hat ▸ hip, hseen ▸ hstart⟩
    · rw [if_neg hother] at hat
      obtain ⟨row, hrow, hmac, hip, hrecent⟩ := hordered.located _ _ hat
      have hne : row.mac ≠ mac := hmac ▸ hother
      exact ⟨row, (hwritten.others row hne).mpr hrow, hmac, hip, hrecent⟩
  · intro row hrow address haddress
    simp only [hpresent]
    by_cases hmac : row.mac = mac
    · left
      rw [if_pos hmac]
      exact Option.some.inj (haddress.symm.trans (hwritten.fields row hrow hmac).1)
    · rw [if_neg hmac]
      exact hordered.absent row ((hwritten.others row hmac).mp hrow) address haddress
  · intro left hleft right hright address hleftAt hrightAt hne hsince
    simp only [hpresent] at hleftAt hrightAt
    by_cases hrightMac : right.mac = mac
    · rw [if_pos hrightMac] at hrightAt
      have hleftMac : left.mac ≠ mac := fun heq => hne (heq.trans hrightMac.symm)
      simp [observedSince, hrightAt, hrightMac, Ne.symm hleftMac] at hsince
    · have hrightOld := (hwritten.others right hrightMac).mp hright
      by_cases hleftMac : left.mac = mac
      · rw [(hwritten.fields left hleft hleftMac).2]
        exact (hordered.bounded right hrightOld).trans_lt hnow
      · rw [if_neg hleftMac] at hleftAt
        rw [if_neg hrightMac] at hrightAt
        exact hordered.ordered left ((hwritten.others left hleftMac).mp hleft) right hrightOld
          address hleftAt hrightAt hne (mt (mem_observedSince_cons (Ne.symm hleftMac)) hsince)

/-- The row after a flush for the devices given. -/
def Row.flushedAt (ids : List Uuid) (now : ℕ) (row : Row) : Row :=
  { row with lastSeen := if row.id ∈ ids then now else row.lastSeen }

theorem updateLastSeenBatch_eq (rows : List Row) (ids : List Uuid) :
    updateLastSeenBatch rows ids now = rows.map (Row.flushedAt ids now) := by
  unfold Row.flushedAt
  induction ids generalizing rows with
  | nil => simp [updateLastSeenBatch]
  | cons id ids ih =>
    have hstep : updateLastSeenBatch rows (id :: ids) now =
        updateLastSeenBatch (update Row.id rows id fun row =>
          { row with lastSeen := now }) ids now := rfl
    rw [hstep, ih, update, map_map]
    apply map_congr_left
    intro row _
    by_cases hid : row.id = id
    · by_cases hmem : id ∈ ids <;> simp [hid, hmem]
    · simp [hid]

theorem Ordered.mem_presentDevices (hordered : Ordered start watch)
    (hrow : row ∈ watch.registry.rows) : row.id ∈ presentDevices watch.registry.memory ↔
      ∃ ip, PresentAt watch.registry.memory row.mac ip := by
  have hwell := hordered.wellFormed
  simp only [presentDevices, mem_map, mem_filter, Bool.not_eq_true']
  constructor
  · rintro ⟨⟨mac, entry⟩, ⟨hentry, hgone⟩, hid⟩
    have hget := mem_toList.mp hentry
    obtain ⟨ip, hip⟩ := hordered.addressed mac entry hget hgone
    obtain rfl := (hwell.id_iff_mac (hwell.owned mac entry hget) hrow).mp hid.symm
    exact ⟨ip, entry, hget, hgone, hip⟩
  · rintro ⟨ip, entry, hget, hgone, -⟩
    have hid := (hwell.id_iff_mac (hwell.owned row.mac entry hget) hrow).mpr rfl
    exact ⟨(row.mac, entry), ⟨mem_toList.mpr hget, hgone⟩, hid.symm⟩

/-- The sighting times are flushed while no two present devices share an
address. -/
theorem Ordered.flush (hordered : Ordered start watch) (hnow : watch.clock < now)
    (hdistinct : ∀ left right ip, PresentAt watch.registry.memory left ip →
      PresentAt watch.registry.memory right ip → left = right) :
    Ordered start ⟨flushLastSeen watch.registry now, watch.sightings, now⟩ := by
  have hstart : start < now := hordered.begun.trans_lt hnow
  rw [flushLastSeen, updateLastSeenBatch_eq]
  constructor
  · have hflushed := hordered.wellFormed.map_rows
      (Row.flushedAt (presentDevices watch.registry.memory) now) (fun _ => rfl) fun _ => rfl
    exact hflushed.1.congr rfl rfl
  · exact hstart.le
  · intro row hrow
    obtain ⟨old, hold, rfl⟩ := mem_map.mp hrow
    unfold Row.flushedAt
    split
    · exact le_rfl
    · exact (hordered.bounded old hold).trans hnow.le
  · exact hordered.addressed
  · intro mac ip hat
    obtain ⟨row, hrow, hmac, hip, hrecent⟩ := hordered.located mac ip hat
    have hmem := (hordered.mem_presentDevices hrow).mpr ⟨ip, hmac ▸ hat⟩
    refine ⟨{ row with lastSeen := now }, ?_, hmac, hip, hstart⟩
    exact mem_map.mpr ⟨row, hrow, by rw [Row.flushedAt, if_pos hmem]⟩
  · intro row hrow ip hip
    obtain ⟨old, hold, rfl⟩ := mem_map.mp hrow
    by_cases hmem : old.id ∈ presentDevices watch.registry.memory
    · left
      obtain ⟨address, hat⟩ := (hordered.mem_presentDevices hold).mp hmem
      obtain ⟨found, hfound, hmac, hfoundIp, -⟩ := hordered.located _ _ hat
      obtain rfl : found = old := inj_on_of_nodup_map hordered.wellFormed.macs hfound hold hmac
      have hsame : address = ip := Option.some.inj (hfoundIp.symm.trans hip)
      exact hsame ▸ hat
    · rw [Row.flushedAt, if_neg hmem]
      exact hordered.absent old hold ip hip
  · intro left _ right _ ip hleftAt hrightAt hne
    exact absurd (hdistinct _ _ ip hleftAt hrightAt) hne

/-- The row after the departures: a device among them has no address. -/
def Row.departedBy (departed : List Departed) (row : Row) : Row :=
  { row with lastIp := if row.id ∈ departed.map Departed.device then none else row.lastIp }

theorem reportDepartures_eq (registry : Registry) (departed : List Departed)
    (hgone : ∀ departure ∈ departed, stillGone registry.memory departure.mac = true) :
    reportDepartures registry departed = { registry with
      rows := registry.rows.map (Row.departedBy departed)
      log := (departed.map Departed.event).reverse ++ registry.log } := by
  induction departed generalizing registry with
  | nil =>
    have hsame : Row.departedBy [] = id := by
      funext row
      simp [Row.departedBy]
    simp [reportDepartures, hsame]
  | cons departure departed ih =>
    have hfirst := hgone departure (mem_cons_self ..)
    have hstep : reportDepartures registry (departure :: departed) =
        reportDepartures { registry with
          rows := clearLastIp registry.rows departure.device
          log := departure.event :: registry.log } departed := by
      simp [reportDepartures, clearDepartedIp, hfirst]
    rw [hstep, ih]
    swap
    · exact fun other hother => hgone other (mem_cons_of_mem _ hother)
    simp only [clearLastIp, update, map_map, map_cons, reverse_cons,
      append_assoc, singleton_append, Registry.mk.injEq, and_true, true_and]
    apply map_congr_left
    intro row _
    by_cases hid : row.id = departure.device
    · by_cases hmem : departure.device ∈ departed.map Departed.device <;>
        simp [Row.departedBy, hid]
    · simp [Row.departedBy, hid]

variable {departed : List Departed}

theorem presentAt_markGone : PresentAt (markGone memory departed) mac ip ↔
      PresentAt memory mac ip ∧ ¬ ∃ departure ∈ departed, departure.mac = mac := by
  unfold PresentAt
  rw [markGone_get]
  by_cases hmac : ∃ departure ∈ departed, departure.mac = mac
  · cases memory.get mac <;> simp [Entry.depart, hmac]
  · rw [if_neg hmac]
    simp only [hmac, not_false_eq_true, and_true]

theorem depart_eq (registry : Registry) (departed : List Departed) :
    depart registry departed = { registry with
      rows := registry.rows.map (Row.departedBy departed)
      memory := markGone registry.memory departed
      log := (departed.map Departed.event).reverse ++ registry.log } := by
  refine reportDepartures_eq _ _ fun departure hmem => ?_
  have hmac : ∃ other ∈ departed, other.mac = departure.mac := ⟨departure, hmem, rfl⟩
  rw [stillGone, markGone_get, if_pos hmac]
  cases registry.memory.get departure.mac <;> rfl

/-- The departures are those of tracked devices. -/
def Tracked (memory : HashMap Mac Entry) (departed : List Departed) : Prop :=
  ∀ departure ∈ departed, ∃ entry, memory.get departure.mac = some entry ∧
    entry.deviceId = departure.device

theorem Registry.WellFormed.depart (hwell : registry.WellFormed) :
    (depart registry departed).WellFormed := by
  have hmarked : Registry.WellFormed { registry with
      memory := markGone registry.memory departed } := by
    refine ⟨hwell.ids, hwell.macs, ?_⟩
    intro mac entry hget
    simp only [markGone_get] at hget
    split at hget
    · obtain ⟨old, hold, rfl⟩ := Option.map_eq_some_iff.mp hget
      exact hwell.owned mac old hold
    · exact hwell.owned mac entry hget
  have hcleared := hmarked.map_rows (Row.departedBy departed) (fun _ => rfl) fun _ => rfl
  rw [depart_eq]
  exact hcleared.1.congr rfl rfl

theorem Ordered.depart (hordered : Ordered start watch) (hnow : watch.clock < now)
    (hdeparted : Tracked watch.registry.memory departed) :
    Ordered start ⟨depart watch.registry departed, watch.sightings, now⟩ := by
  have hcleared : ∀ row ∈ watch.registry.rows, row.id ∈ departed.map Departed.device ↔
      ∃ departure ∈ departed, departure.mac = row.mac := by
    intro row hrow
    rw [mem_map]
    refine exists_congr fun departure => and_congr_right fun hmem => ?_
    obtain ⟨entry, hentry, hdevice⟩ := hdeparted departure hmem
    have howned := hordered.wellFormed.owned _ entry hentry
    rw [← hdevice, eq_comm, hordered.wellFormed.id_iff_mac howned hrow, eq_comm]
  have hwell : (Discovery.depart watch.registry departed).WellFormed := hordered.wellFormed.depart
  rw [depart_eq] at hwell ⊢
  refine ⟨hwell, hordered.begun.trans hnow.le, ?_, ?_, ?_, ?_, ?_⟩
  · intro row hrow
    obtain ⟨old, hold, rfl⟩ := mem_map.mp hrow
    exact (hordered.bounded old hold).trans hnow.le
  · intro mac entry hget hgone
    rw [markGone_get] at hget
    split at hget
    · obtain ⟨old, -, rfl⟩ := Option.map_eq_some_iff.mp hget
      cases hgone
    · exact hordered.addressed mac entry hget hgone
  · intro mac ip hat
    rw [presentAt_markGone] at hat
    obtain ⟨row, hrow, hmac, hip, hrecent⟩ := hordered.located mac ip hat.1
    have hkept : row.id ∉ departed.map Departed.device := by
      rw [hcleared row hrow, hmac]
      exact hat.2
    refine ⟨row, ?_, hmac, hip, hrecent⟩
    exact mem_map.mpr ⟨row, hrow, by rw [Row.departedBy, if_neg hkept]⟩
  · intro row hrow ip hip
    obtain ⟨old, hold, rfl⟩ := mem_map.mp hrow
    simp only [Row.departedBy] at hip
    split at hip <;> rename_i hmem
    · cases hip
    · rw [presentAt_markGone]
      apply (hordered.absent old hold ip hip).imp_left
      exact fun hat => ⟨hat, mt (hcleared old hold).mpr hmem⟩
  · intro left hleft right hright ip hleftAt hrightAt
    obtain ⟨oldLeft, holdLeft, rfl⟩ := mem_map.mp hleft
    obtain ⟨oldRight, holdRight, rfl⟩ := mem_map.mp hright
    rw [presentAt_markGone] at hleftAt hrightAt
    exact hordered.ordered oldLeft holdLeft oldRight holdRight ip hleftAt.1 hrightAt.1

variable {mode : ConnectionMode}

theorem written_update (hwell : registry.WellFormed) (howned : OwnedBy registry.rows device mac) :
    Written registry.rows (updateLastSeenAndIp registry.rows device ip now mode) mac ip now := by
  have hkey := fun row (hrow : row ∈ registry.rows) => hwell.id_iff_mac howned hrow
  obtain ⟨owner, howner, hmac⟩ := howned
  obtain ⟨hmem, hid⟩ := find_eq_some howner
  constructor
  · exact ⟨_, mem_update.mpr (.inr ⟨owner, hmem, hid, rfl⟩), hmac⟩
  · intro row hrow hrowMac
    rcases mem_update.mp hrow with ⟨hold, hne⟩ | ⟨old, -, -, rfl⟩
    · exact absurd ((hkey row hold).mpr hrowMac) hne
    · exact ⟨rfl, rfl⟩
  · intro row hne
    rw [updateLastSeenAndIp, mem_update]
    constructor
    · rintro (⟨hold, -⟩ | ⟨old, hold, hkeyOld, rfl⟩)
      · exact hold
      · exact absurd ((hkey old hold).mp hkeyOld) hne
    · exact fun hold => .inl ⟨hold, fun heq => hne ((hkey row hold).mp heq)⟩

theorem written_append {rows : List Row} (habsent : findByMac rows mac = none) :
    Written rows (rows ++ [⟨device, mac, some ip, now, mode⟩]) mac ip now := by
  have hnone : ∀ row ∈ rows, row.mac ≠ mac := by simpa [findByMac] using habsent
  constructor
  · exact ⟨⟨device, mac, some ip, now, mode⟩, by simp, rfl⟩
  · intro row hrow hmac
    rcases mem_append.mp hrow with hold | hnew
    · exact absurd hmac (hnone row hold)
    · obtain rfl := mem_singleton.mp hnew
      exact ⟨rfl, rfl⟩
  · intro row hne
    rw [mem_append, mem_singleton]
    constructor
    · rintro (hold | rfl)
      · exact hold
      · exact absurd rfl hne
    · exact .inl

section

variable (hwell : registry.WellFormed)
include hwell

theorem Registry.WellFormed.relocates_persist
    (howned : OwnedBy registry.rows device mac) {after : Registry}
    (hrows : after.rows = updateLastSeenAndIp registry.rows device ip now mode)
    (hmemory : after.memory = registry.memory.insert mac (.present device ip now)) :
    Relocates registry after mac device ip now := by
  have hdevice : (Entry.present device ip now).deviceId = device := rfl
  have hinserted := (hwell.insert howned hdevice).1
  obtain ⟨hupdated, hgrows⟩ := hinserted.update device
    (fun row => { row with lastSeen := now, lastIp := some ip, mode := mode })
    (fun _ => rfl) (fun _ => rfl)
  have hafter : after.WellFormed := hupdated.congr hrows hmemory
  have howner : OwnedBy after.rows device mac := by
    rw [hrows]
    exact hgrows.owners device mac howned
  refine ⟨hafter, hmemory, hrows ▸ written_update hwell howned, ?_⟩
  rintro row (hrow | hrow) hmac
  · exact (hwell.id_iff_mac howned hrow).mpr hmac
  · exact (hafter.id_iff_mac howner hrow).mpr hmac

theorem Registry.WellFormed.relocates_register (hfresh : findById registry.rows device = none)
    (habsent : findByMac registry.rows mac = none) {after : Registry}
    (hrows : after.rows = registry.rows ++ [⟨device, mac, some ip, now, .lan⟩])
    (hmemory : after.memory = registry.memory.insert mac (.present device ip now)) :
    Relocates registry after mac device ip now := by
  have happended := (@Registry.WellFormed.append _ hwell
    ⟨device, mac, some ip, now, .lan⟩ hfresh habsent).1
  have hfound := find_of_mem happended.ids (mem_append_right _ (mem_singleton_self _))
  have howned : OwnedBy (registry.rows ++ [⟨device, mac, some ip, now, .lan⟩]) device mac :=
    ⟨_, hfound, rfl⟩
  refine ⟨(happended.insert howned rfl).1.congr hrows hmemory, hmemory,
    hrows ▸ written_append habsent, ?_⟩
  intro row hrow hmac
  apply (happended.id_iff_mac howned _).mpr hmac
  exact hrow.elim (mem_append_left _) fun hafter => hrows ▸ hafter

/-- What an observation does: it is ignored, or the device is seen again where
it is and nothing is written, or its row is written. -/
theorem Registry.WellFormed.processObservation_cases {config : Config} {fresh : Uuid}
    (hfresh : findById registry.rows fresh = none) {done : Registry × ObservationResult}
    (hdone : processObservation config registry mac ip now fresh = done) :
    (done.2 = .ignored ∧ done.1.rows = registry.rows ∧
      ∀ other, (done.1.memory.get other).map Entry.core =
        (registry.memory.get other).map Entry.core) ∨
    (∃ device, done.2 = .seen device ∧ done.1.rows = registry.rows ∧
      OwnedBy registry.rows device mac ∧
      done.1.memory = registry.memory.insert mac (.present device ip now) ∧
      PresentAt registry.memory mac ip) ∨
    ∃ device, Relocates registry done.1 mac device ip now ∧ done.2 ≠ .ignored := by
  unfold processObservation observationAction at hdone
  split at hdone
  · dsimp only at hdone
    split at hdone
    · subst hdone
      exact .inl ⟨rfl, rfl, touchPresence_core _ _ _⟩
    · cases hentry : registry.memory.get mac with
      | none =>
        simp only [hentry, handleUnknownMac] at hdone
        split at hdone
        next row hrow =>
          subst hdone
          exact .inr (.inr ⟨row.id, hwell.relocates_persist
            (hwell.ownedBy_of_findByMac hrow) rfl rfl, by simp⟩)
        next habsent =>
          subst hdone
          exact .inr (.inr ⟨fresh, hwell.relocates_register hfresh habsent rfl rfl, by simp⟩)
      | some entry =>
        have howned := hwell.owned mac entry hentry
        simp only [hentry] at hdone
        by_cases hgone : entry.gone = true
        · simp only [hgone, if_true] at hdone
          subst hdone
          exact .inr (.inr ⟨_, hwell.relocates_persist howned rfl rfl, by simp⟩)
        · simp only [hgone, Bool.false_eq_true, if_false] at hdone
          by_cases hip : entry.lastIp = some ip
          · simp only [hip, ne_eq, not_true_eq_false, if_false] at hdone
            subst hdone
            exact .inr (.inl ⟨_, rfl, rfl, howned, rfl, entry, hentry, by simpa using hgone, hip⟩)
          · simp only [hip, ne_eq, not_false_eq_true, if_true] at hdone
            subst hdone
            exact .inr (.inr ⟨_, hwell.relocates_persist howned rfl rfl, by simp⟩)
  · subst hdone
    exact .inl ⟨rfl, rfl, fun _ => rfl⟩

theorem Registry.WellFormed.processPeerObservation_spec
    (hrow : findById registry.rows device = some row) {done : Registry × Option ObservationResult}
    (hdone : processPeerObservation registry device ip now = done) :
    Relocates registry done.1 row.mac device ip now ∧ done.2.getD .ignored ≠ .ignored := by
  have howned : OwnedBy registry.rows device row.mac := ⟨row, hrow, rfl⟩
  subst hdone
  unfold processPeerObservation observationAction
  simp only [hrow]
  cases hentry : registry.memory.get row.mac with
  | none => exact ⟨hwell.relocates_persist howned rfl rfl, by simp⟩
  | some entry =>
    obtain rfl : entry.deviceId = device :=
      hwell.device_unique (hwell.owned row.mac entry hentry) howned
    by_cases hgone : entry.gone = true
    · simp only [hgone, if_true]
      exact ⟨hwell.relocates_persist howned rfl rfl, by simp⟩
    · simp only [hgone, Bool.false_eq_true, if_false]
      by_cases hip : entry.lastIp = some ip
      · simp only [hip, ne_eq, not_true_eq_false, if_false]
        exact ⟨hwell.relocates_persist howned rfl rfl, by simp⟩
      · simp only [hip, ne_eq, not_false_eq_true, if_true]
        exact ⟨hwell.relocates_persist howned rfl rfl, by simp⟩

end

theorem Ordered.next {config : Config} {label : ℕ × Call} {after : Watch}
    (hordered : Ordered start watch) (hcond : Undisputed watch label)
    (hnext : watch.next config label = some after) : Ordered start after := by
  revert hnext
  fun_cases watch.next config label
  any_goals rintro ⟨⟩
  all_goals have hnow := Nat.lt_of_not_le ‹¬ _ ≤ watch.clock›
  case case3 now _ mac ip _ hsome _ =>
    have hfresh := Option.not_isSome_iff_eq_none.mp hsome
    rcases hordered.wellFormed.processObservation_cases hfresh rfl with
      ⟨hresult, hrows, hmemory⟩ | ⟨device, hresult, hrows, howned, hmemory, hat⟩ |
        ⟨device, hrelocates, hresult⟩
    · rw [Watch.sight, if_pos hresult]
      exact hordered.tick hnow hrows hmemory
    · have hseen : ObservationResult.seen device ≠ .ignored := by simp
      rw [Watch.sight, if_neg (hresult.trans_ne hseen)]
      have hinserted := (hordered.wellFormed.insert howned
        (rfl : (Entry.present device ip now).deviceId = device)).1
      refine hordered.same_rows hnow (hinserted.congr hrows hmemory) hrows
        (fun _ _ => addressed_insert hordered hmemory) (fun other address => ?_)
        fun left right address hright hmem => ?_
      · rw [hmemory, presentAt_insert]
        split
        next hother =>
          obtain ⟨found, hfound, hgone, hip⟩ := hat
          rw [eq_comm]
          simp [PresentAt, hother, Option.mem_def.mp hfound, hgone, hip]
        · rfl
      · by_cases hleft : mac = left
        · by_cases haddress : ip = address
          · subst haddress hleft
            exact absurd hright (hcond hat right hmem)
          · simpa [observedSince, haddress] using hmem
        · exact mem_observedSince_cons hleft hmem
    · rw [Watch.sight, if_neg hresult]
      exact hordered.relocate hnow hrelocates
  · obtain ⟨hrelocates, hresult⟩ := hordered.wellFormed.processPeerObservation_spec ‹_› rfl
    rw [Watch.sight, if_neg hresult]
    exact hordered.relocate hnow hrelocates
  · exact hordered.tick hnow rfl fun _ => rfl
  · apply hordered.flush hnow
    rintro left right ip ⟨leftEntry, hleft, hleftGone, hleftIp⟩
      ⟨rightEntry, hright, hrightGone, hrightIp⟩
    exact hcond (left, leftEntry) (mem_toList.mpr hleft)
      (right, rightEntry) (mem_toList.mpr hright) hleftGone
      hrightGone (hleftIp.trans hrightIp.symm)
  · exact hordered.depart hnow fun _ => departures_tracked
  · unfold Discovery.markPeerGone
    split
    · exact hordered.depart hnow fun _ => peerDepartures_tracked
    · exact hordered.tick hnow rfl fun _ => rfl

/-! ## Runs -/

/-- Nothing has been observed, and no stored time lies in the future. -/
def Watch.begin (registry : Registry) (clock : ℕ) : Watch where
  registry := registry
  sightings := []
  clock := clock

theorem ordered_begin {clock : ℕ} (hstarted : registry.Started)
    (hpast : ∀ row ∈ registry.rows, row.lastSeen ≤ clock) :
    Ordered clock (.begin registry clock) := by
  have hnot : ∀ mac ip, ¬ PresentAt registry.memory mac ip := by
    rintro mac ip ⟨entry, hentry, hgone, -⟩
    simp [hstarted.gone mac entry hentry] at hgone
  constructor
  · exact hstarted.toWellFormed
  · exact le_rfl
  · exact hpast
  · intro mac entry hentry hgone
    simp [hstarted.gone mac entry hentry] at hgone
  · exact fun mac ip hat => absurd hat (hnot mac ip)
  · exact fun row hrow _ _ => .inr (hpast row hrow)
  · exact fun left _ _ _ ip hat => absurd hat (hnot left.mac ip)

/-- Whatever is observed, flushed and swept, an address resolves to the
present device that was observed there last, provided that sighting times are
flushed only while no two present devices share an address, and that a device
is seen again at its address on the LAN only when no other device still
present there has been observed in the meantime. -/
theorem address_resolves_to_last_observed (config : Config)
    (start : Registry) (clock : ℕ) (hstarted : start.Started)
    (hpast : ∀ row ∈ start.rows, row.lastSeen ≤ clock) (calls : List (ℕ × Call)) (final : Watch)
    (hmeets : Meets (Watch.next config) Undisputed (.begin start clock) calls)
    (hrun : run (Watch.next config) (.begin start clock) calls = some final) : final.Resolves := by
  have hordered : Ordered clock final := by
    apply run_invariant_of_meets _ (ordered_begin hstarted hpast) hmeets hrun
    intro watch label after hbefore hcond hnext
    exact hbefore.next hcond hnext
  exact hordered.resolves

theorem not_resolves_of_found (ip : Ipv4Addr) (mac : Mac) {found : Option Row}
    (hlast : lastObserved watch.sightings ip = some mac)
    (hat : PresentAt watch.registry.memory mac ip) (hfound : FindsByIp watch.registry.rows ip found)
    (hother : found.map Row.mac ≠ some mac) :
    FindsByIp watch.registry.rows ip found ∧ ¬ watch.Resolves :=
  ⟨hfound, fun hresolves => hother (hresolves ip mac hlast hat found hfound)⟩

/-- One address is observed for one device and then for another. -/
def handedOver : List (ℕ × Call) :=
  [(1, .processObservation 5 (ipv4 192 168 1 10) 50),
    (2, .processObservation 6 (ipv4 192 168 1 10) 60)]

/-- Seen again, the first device is not the one the address resolves to; after
a flush the second one need not be. -/
theorem address_resolves_to_other_device : (∃ final, run (Watch.next lan) (.begin emptyRegistry 0)
        (handedOver ++ [(3, .processObservation 5 (ipv4 192 168 1 10) 70)]) = some final ∧
      lastObserved final.sightings (ipv4 192 168 1 10) = some 5 ∧
      final.registry.rows.getLast?.map Row.mac = some 6 ∧
      FindsByIp final.registry.rows (ipv4 192 168 1 10) final.registry.rows.getLast? ∧
      ¬ final.Resolves) ∧
    ∃ final, run (Watch.next lan) (.begin emptyRegistry 0)
        (handedOver ++ [(3, .flushLastSeen)]) = some final ∧
      lastObserved final.sightings (ipv4 192 168 1 10) = some 6 ∧
      final.registry.rows.head?.map Row.mac = some 5 ∧
      FindsByIp final.registry.rows (ipv4 192 168 1 10) final.registry.rows.head? ∧
      ¬ final.Resolves := by
  constructor
  · refine ⟨_, rfl, by decide +kernel, by decide +kernel, ?_⟩
    apply not_resolves_of_found (ipv4 192 168 1 10) 5 <;> decide +kernel
  · refine ⟨_, rfl, by decide +kernel, by decide +kernel, ?_⟩
    apply not_resolves_of_found (ipv4 192 168 1 10) 6 <;> decide +kernel

/-- With both devices present, the address resolves to the second one. -/
theorem address_resolves_to_last_observed_handedOver :
    ∃ final, run (Watch.next lan) (.begin emptyRegistry 0) handedOver =
        some final ∧ final.Resolves ∧ PresentAt final.registry.memory 5 (ipv4 192 168 1 10) := by
  refine ⟨_, rfl, ?_, by decide +kernel⟩
  exact address_resolves_to_last_observed lan emptyRegistry 0
    started_emptyRegistry (by simp [emptyRegistry]) handedOver _
    (by decide +kernel) rfl

end Wardnet.Discovery
