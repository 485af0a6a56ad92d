import Wardnet.Dhcp.Stability

/-!
# The names of leased addresses

A lease that is assigned or renewed is announced with the client's hostname, and
a runner registers the address under that name in the `.lan` zone.  The record
stays when the lease ends.
-/

namespace Wardnet.Dhcp.Lan

open Net Transition

/-- The A record of a name: registered for a client, or from another source. -/
inductive Record
  | dhcp (ip : Ipv4Addr) (client : Text)
  | other
  deriving DecidableEq

/-- `DhcpLeaseAssigned` and `DhcpLeaseRenewed`. -/
structure LeaseEvent where
  client : Text
  ip : Ipv4Addr
  hostname : Option Text

/-- What a call announces: its lease, unless that is reused as it is. -/
def leaseEvent (db : Database) (renewing : Bool) (mac : Text) (hostname : Option Text) (now : ℕ) :
    Option LeaseEvent :=
  let scope := resolveScope db mac
  let existing := (leaseIfStillValid db mac scope.poolStart scope.poolEnd).1
  match (askLease db renewing mac hostname now).1 with
  | .error _ => none
  | .ok lease =>
    if ¬ renewing ∧ existing.map DhcpLease.hostname = some lease.hostname then none
    else some ⟨mac.toAsciiLowercase, lease.ip, lease.hostname⟩

def upsertRecord (records : HashMap Text Record) (domain : Text) (ip : Ipv4Addr) (client : Text) :
    HashMap Text Record :=
  match records.get domain with
  | some .other => records
  | _ => records.insert domain (.dhcp ip client)

def validateRecordDomain (domain : Text) : Bool :=
  let name := (domain.stripPrefix "*.".toList).getD domain
  name.len ≤ 253 ∧ '.' ∈ name ∧ name.all fun char => char.isAlphanum || char ∈ ['.', '-', '_']

section Runner

variable (toLowercase : Text → Text)

def lanLabel (hostname : Text) : Option Text :=
  let label := toLowercase (Text.trim (hostname.takeWhile (· ≠ '.')))
  if label = [] then none else some label

def registerLease (records : HashMap Text Record) (event : LeaseEvent) : HashMap Text Record :=
  match event.hostname.bind (lanLabel toLowercase) with
  | none => records
  | some label =>
    if validateRecordDomain (label ++ ".lan".toList) then
      upsertRecord records (label ++ ".lan".toList) event.ip event.client
    else records

structure State where
  db : Database
  /-- The events that the runner has not handled. -/
  events : List LeaseEvent
  records : HashMap Text Record

def State.new (db : Database) (records : HashMap Text Record) : State :=
  ⟨{ db with leases := [] }, [], records⟩

inductive Label
  | perform (operation : Operation)
  /-- The zone may be gone, and the statement may fail. -/
  | handle (succeeds : Bool)

def next (state : State) : Label → Option State
  | .perform operation =>
    let event := match operation with
      | .ask renewing mac hostname now => leaseEvent state.db renewing mac hostname now
      | _ => none
    (perform state.db operation).map fun db =>
      { state with db := db, events := state.events ++ event.toList }
  | .handle succeeds =>
    match state.events with
    | [] => none
    | event :: events =>
      let records := if succeeds then registerLease toLowercase state.records event
        else state.records
      some { state with events := events, records := records }

end Runner

/-! ## Who has an address -/

def Leases (db : Database) (ip : Ipv4Addr) (client : Text) : Prop :=
  ∃ lease ∈ db.leases, lease.IsActive ∧ lease.ip = ip ∧ lease.mac = client

/-- The address is registered for the client under some name, or about to be. -/
def Registers (state : State) (ip : Ipv4Addr) (client : Text) : Prop :=
  (∃ name, state.records.get name = some (.dhcp ip client)) ∨
    ∃ event ∈ state.events, event.hostname.isSome ∧ event.ip = ip ∧ event.client = client

/-- The address is reserved for the client, or it is one of the client's pool
that is neither reserved nor leased to another client. -/
def Obtainable (db : Database) (mac : Text) (ip : Ipv4Addr) : Prop :=
  (∃ reservation ∈ findReservationByMac db mac, reservation.ip = ip) ∨
    ipInPool ip (resolveScope db mac).poolStart (resolveScope db mac).poolEnd = true ∧
      ip ∉ db.reservations.map DhcpReservation.ip ∧
      ∀ client, Leases db ip client → client = mac.toAsciiLowercase

/-- When a client asks, no address it may obtain is leased to another client or
registered for one: the records of an address are gone before it is free. -/
def Undisputed (state : State) : Label → Prop
  | .perform (.ask _ mac _ _) => ∀ ip client, Obtainable state.db mac ip →
      Leases state.db ip client ∨ Registers state ip client → client = mac.toAsciiLowercase
  | _ => True

structure Sound (state : State) : Prop where
  stored : Stored state.db
  single : ∀ ip client holder, Leases state.db ip client → Leases state.db ip holder →
    holder = client
  registered : ∀ ip client holder,
    Registers state ip client → Leases state.db ip holder → holder = client

variable {toLowercase : Text → Text} {state after : State} {db : Database} {ip : Ipv4Addr}
  {client : Text}

theorem Leases.of_rewrites {later : Database} (hrewrites : Rewrites db later)
    (hleases : Leases later ip client) : Leases db ip client := by
  obtain ⟨lease, hlease, hactive, hip, hmac⟩ := hleases
  obtain ⟨old, hold, holdActive, holdMac, holdIp⟩ := hrewrites.shrinks lease hlease hactive
  exact ⟨old, hold, holdActive, holdIp.trans hip, holdMac.trans hmac⟩

/-- Looking for a valid lease of a client leaves the rows of the others. -/
theorem mem_of_leaseIfStillValid (hstored : Stored db) {mac : Text} {poolStart poolEnd : Ipv4Addr}
    {cleared : Database} (hlooked : leaseIfStillValid db mac poolStart poolEnd = (none, cleared))
    {lease : DhcpLease} (hlease : lease ∈ db.leases) (hmac : lease.mac ≠ mac.toAsciiLowercase) :
    lease ∈ cleared.leases := by
  unfold leaseIfStillValid at hlooked
  split at hlooked
  · cases hlooked
    exact hlease
  next existing hfound =>
    split at hlooked <;> cases hlooked
    refine List.mem_map.mpr ⟨lease, hlease, if_neg fun hid => hmac ?_⟩
    have hmatches := List.find?_some hfound
    simp only [decide_eq_true_eq] at hmatches
    rw [hstored.eq hlease (List.mem_of_find?_eq_some hfound) fun hapart => hapart.1 hid]
    exact hmatches.1

/-- The client had this address leased, or could obtain it. -/
def Within (db : Database) (mac : Text) (ip : Ipv4Addr) : Prop :=
  Leases db ip mac.toAsciiLowercase ∨ Obtainable db mac ip

/-- The address of a new lease is one that the client could obtain. -/
theorem obtainable_of_given (hstored : Stored db) {mac : Text} {rows : List DhcpLease}
    {poolStart poolEnd given : Ipv4Addr}
    (hlooked : leaseIfStillValid db mac poolStart poolEnd = (none, { db with leases := rows }))
    (hgiven : (((findReservationByMac db mac).filter
        (reservationCompatible (resolveScope db mac))).map DhcpReservation.ip).or
      (firstFree ((listActiveLeases { db with leases := rows }).map DhcpLease.ip)
        (db.reservations.map DhcpReservation.ip) (resolveScope db mac).poolStart
        (resolveScope db mac).poolEnd) = some given) : Obtainable db mac given := by
  rcases Option.or_eq_some_iff.mp hgiven with hreserved | ⟨-, hfree⟩
  · obtain ⟨reservation, hfilter, hip⟩ := Option.map_eq_some_iff.mp hreserved
    exact .inl ⟨reservation, (Option.filter_eq_some_iff.mp hfilter).1, hip⟩
  · have hunused := List.find?_some hfree
    simp only [decide_eq_true_eq] at hunused
    refine .inr ⟨firstFree_in_pool hfree, hunused.2, ?_⟩
    rintro client ⟨lease, hlease, hactive, hip, rfl⟩
    by_contra hother
    have hrow := mem_of_leaseIfStillValid hstored hlooked hlease hother
    exact hunused.1 (List.mem_map.mpr ⟨lease, by simp [listActiveLeases, hrow, hactive], hip⟩)

/-- A call answers with an address that the client had or could obtain, and
what is leased afterwards was leased before or is such an address. -/
theorem within_askLease (hstored : Stored db) (renewing : Bool) (mac : Text)
    (hostname : Option Text) (now : ℕ) :
    (∀ lease, (askLease db renewing mac hostname now).1 = .ok lease → Within db mac lease.ip) ∧
      ∀ ip client, Leases (askLease db renewing mac hostname now).2 ip client →
        Leases db ip client ∨ client = mac.toAsciiLowercase ∧ Within db mac ip := by
  rcases leaseIfStillValid_cases db mac with ⟨lease, hvalid, -⟩ | ⟨rows, hrewrites, hlooked, hnone⟩
  · obtain ⟨again, change, hchange, -, hip, heq, -⟩ := hvalid.askLease hstored renewing hostname now
    have hlease := List.mem_of_find?_eq_some hvalid.1
    have hmatches := List.find?_some hvalid.1
    simp only [decide_eq_true_eq] at hmatches
    rw [heq]
    refine ⟨fun _ hok => .inl ⟨lease, hlease, hmatches.2, ?_, hmatches.1⟩, fun ip client hleases =>
      .inl (hleases.of_rewrites (hchange.rewrites db))⟩
    rw [← Except.ok.inj hok, hip]
  · obtain ⟨name, heq⟩ := askLease_of_invalid hlooked (hnone hstored) rfl renewing hostname now
    have hfresh := (hstored.rewrite hrewrites).fresh
    have hmiss : (rows.find? fun row => row.id = db.nextLease) = none :=
      List.find?_eq_none.mpr fun row hrow => by simpa using (hfresh row hrow).ne
    rw [heq]
    simp only [allocateLease]
    split
    · exact ⟨by simp, fun ip client hleases => .inl (hleases.of_rewrites hrewrites)⟩
    next given hgiven =>
      have hobtained : Within db mac given := .inr (obtainable_of_given hstored hlooked hgiven)
      constructor
      · intro lease hok
        have hfound := require_eq_ok.mp hok
        simp only [findLeaseById, insertLease, List.find?_append, hmiss, Option.none_or] at hfound
        simp only [List.find?_cons, decide_true, Option.some.injEq] at hfound
        rwa [← hfound]
      · rintro ip client ⟨lease, hlease, hactive, hip, hmac⟩
        rcases List.mem_append.mp hlease with hold | hnew
        · exact .inl (Leases.of_rewrites hrewrites ⟨lease, hold, hactive, hip, hmac⟩)
        · rw [List.mem_singleton.mp hnew] at hip hmac
          exact .inr ⟨hmac.symm, hip ▸ hobtained⟩

theorem within_leaseEvent (hstored : Stored db) {renewing : Bool} {mac : Text}
    {hostname : Option Text} {now : ℕ} {event : LeaseEvent}
    (hevent : leaseEvent db renewing mac hostname now = some event) :
    event.client = mac.toAsciiLowercase ∧ Within db mac event.ip := by
  simp only [leaseEvent] at hevent
  split at hevent
  · cases hevent
  next lease hask =>
    obtain ⟨-, heq⟩ := Option.ite_none_left_eq_some.mp hevent
    cases heq
    exact ⟨rfl, (within_askLease hstored renewing mac hostname now).1 lease hask⟩

theorem sound_ask (hsound : Sound state) {renewing : Bool} {mac : Text} {hostname : Option Text}
    {now : ℕ} (hundisputed : Undisputed state (.perform (.ask renewing mac hostname now)))
    (hnext : next toLowercase state (.perform (.ask renewing mac hostname now)) = some after) :
    Sound after := by
  cases hnext
  have hleased := (within_askLease hsound.stored renewing mac hostname now).2
  have halone : ∀ ip holder, Within state.db mac ip → Leases state.db ip holder →
      holder = mac.toAsciiLowercase := by
    rintro ip holder (hown | hobtained) hleases
    · exact hsound.single ip _ _ hown hleases
    · exact hundisputed ip holder hobtained (.inl hleases)
  refine ⟨stored_perform (.ask renewing mac hostname now) hsound.stored rfl, ?_, ?_⟩
  · intro ip client holder hclient hholder
    rcases hleased ip client hclient with hclient | ⟨rfl, hwithin⟩ <;>
      rcases hleased ip holder hholder with hholder | ⟨rfl, hwithin'⟩
    · exact hsound.single ip client holder hclient hholder
    · exact (halone ip client hwithin' hclient).symm
    · exact halone ip holder hwithin hholder
    · rfl
  · intro ip client holder hregisters hholder
    have hregisters : Registers state ip client ∨
        client = mac.toAsciiLowercase ∧ Within state.db mac ip := by
      rcases hregisters with hrecord | ⟨event, hevent, hnamed, rfl, rfl⟩
      · exact .inl (.inl hrecord)
      rcases List.mem_append.mp hevent with hold | hnew
      · exact .inl (.inr ⟨event, hold, hnamed, rfl, rfl⟩)
      · exact .inr (within_leaseEvent hsound.stored (Option.mem_toList.mp hnew))
    rcases hregisters with hbefore | ⟨rfl, hwithin⟩ <;>
      rcases hleased ip holder hholder with hholder | ⟨rfl, hwithin'⟩
    · exact hsound.registered ip client holder hbefore hholder
    · rcases hwithin' with hown | hobtained
      · exact hsound.registered ip client _ hbefore hown
      · exact (hundisputed ip client hobtained (.inr hbefore)).symm
    · exact halone ip holder hwithin hholder
    · rfl

theorem sound_next (hsound : Sound state) {label : Label} (hundisputed : Undisputed state label)
    (hnext : next toLowercase state label = some after) : Sound after := by
  cases label with
  | perform operation =>
    obtain ⟨later, hperform, hlater⟩ := Option.map_eq_some_iff.mp hnext
    cases operation with
    | ask renewing mac hostname now => exact sound_ask hsound hundisputed hnext
    | _ =>
      subst hlater
      have hrewrites := rewrites_perform (by simp) hperform
      refine ⟨hsound.stored.rewrite hrewrites, fun ip client holder hclient hholder =>
        hsound.single ip client holder (hclient.of_rewrites hrewrites)
          (hholder.of_rewrites hrewrites), fun ip client holder hregisters hholder => ?_⟩
      have hbefore : Registers state ip client := by simpa [Registers] using hregisters
      exact hsound.registered ip client holder hbefore (hholder.of_rewrites hrewrites)
  | handle succeeds =>
    simp only [next] at hnext
    split at hnext <;> cases hnext
    next event events hevents =>
      refine ⟨hsound.stored, hsound.single, fun ip client holder hregisters =>
        hsound.registered ip client holder ?_⟩
      rcases hregisters with ⟨name, hname⟩ | ⟨other, hother, hsame⟩
      · have hget : state.records.get name = some (.dhcp ip client) ∨
            event.hostname.isSome ∧ event.ip = ip ∧ event.client = client := by
          cases succeeds with
          | false => exact .inl hname
          | true =>
            simp only [if_true, registerLease, upsertRecord] at hname
            split at hname
            · exact .inl hname
            next label hlabel =>
              obtain ⟨hostname, hhostname, -⟩ := Option.bind_eq_some_iff.mp hlabel
              split at hname
              swap
              · exact .inl hname
              split at hname
              · exact .inl hname
              · rcases HashMap.get_insert_eq_some.mp hname with ⟨-, hnew⟩ | ⟨-, hold⟩
                · exact .inr ⟨by simp [hhostname], by simpa [eq_comm] using hnew⟩
                · exact .inl hold
        exact hget.imp (fun hold => ⟨name, hold⟩) fun hsame => ⟨event, by simp [hevents], hsame⟩
      · exact .inr ⟨other, by simp [hevents, hother], hsame⟩

/-- As long as the addresses that a client may obtain when it asks are neither
leased to another client nor registered for one, a name that is registered for
a leased address was registered by the holder of the lease. -/
theorem names_follow_leases (toLowercase : Text → Text) (db : Database)
    (records : HashMap Text Record) (labels : List Label) (final : State)
    (hundisputed : Meets (next toLowercase) Undisputed (.new db records) labels)
    (hrun : run (next toLowercase) (.new db records) labels = some final) :
    ∀ name ip client, final.records.get name = some (.dhcp ip client) →
      ∀ lease ∈ final.db.leases, lease.IsActive → lease.ip = ip → lease.mac = client := by
  have hnew : Sound (.new db records) := by
    refine ⟨stored_empty db, ?_, ?_⟩ <;> simp [Leases, State.new]
  have hsound : Sound final :=
    run_invariant_of_meets (fun _ _ _ hsound hcond hnext => sound_next hsound hcond hnext) hnew
      hundisputed hrun
  intro name ip client hname lease hlease hactive hip
  exact hsound.registered ip client lease.mac (.inl ⟨name, hname⟩)
    ⟨lease, hlease, hactive, hip, rfl⟩

/-- A client with a hostname is given the first address of the pool. -/
def named : List Label := [.perform (.ask false ['a'] (some "pc".toList) 10), .handle true]

theorem names_follow_leases_named :
    ∃ final, run (next id) (.new smallPool .empty) named = some final ∧
      final.records.get "pc.lan".toList = some (.dhcp (ipv4 192 168 1 100) ['a']) ∧
      ∀ lease ∈ final.db.leases, lease.IsActive → lease.ip = ipv4 192 168 1 100 →
        lease.mac = ['a'] := by
  have hundisputed : Meets (next id) Undisputed (.new smallPool .empty) named := by
    simp [Meets, named, Undisputed, next, perform, Leases, Registers, State.new]
  have hnames := names_follow_leases id smallPool .empty named _ hundisputed rfl
  refine ⟨_, rfl, by decide +kernel, hnames "pc.lan".toList _ _ (by decide +kernel)⟩

/-- It gives the address back, and another client without a hostname gets it. -/
theorem name_of_another_client : (run (next id) (.new smallPool .empty)
        (named ++ [.perform (.releaseLease ['a']), .perform (.ask false ['b'] none 20)])).map
        (fun final => (final.records.get "pc.lan".toList,
          (listActiveLeases final.db).map fun lease => (lease.mac, lease.ip))) =
      some (some (.dhcp (ipv4 192 168 1 100) ['a']), [(['b'], ipv4 192 168 1 100)]) := by
  decide +kernel

end Wardnet.Dhcp.Lan
