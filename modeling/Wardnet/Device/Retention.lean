import Wardnet.Device.Promotion

/-!
# What retention may delete

Two calls never set the flag.  As long as they write only about managed
devices, and the retention job does not run into a call that is about to set a
flag, every device with an artefact is managed or about to be.  The job then
deletes nothing an admin has referred to.
-/

namespace Wardnet.Retention

open Function Keyed List Option Pool Transition

/-! ## Safe services -/

/-- The others take no row and no flag away that somebody counts on. -/
structure Service.Safe (service : Service) (phases : ℕ → Phase) : Prop where
  watched : service.Watched Request.monitor Settled phases
  known : ∀ call request program, service.calls.get call = some (request, program) →
      ∀ id ∈ (phases call).known, id ∈ request.names ∧ service.store.Has id
  owed : ∀ call request program,
    service.calls.get call = some (request, program) → ∀ id ∈ (phases call).owed, id ∈ request.names
  covered : ∀ id, service.store.Artefact id → service.store.Has id ∧ (service.store.Managed id ∨
      ∃ call request program, service.calls.get call = some (request, program) ∧
          id ∈ (phases call).owed)
  gone : ∀ gone ∈ service.store.pruned, gone.Clean ∧ ¬ service.store.Has gone.device.id

variable {service : Service} {phases : ℕ → Phase} {store : Store}

variable {request : Request} {id : Uuid} {call : ℕ}

/-- A call begins or goes on: it pays what it no longer owes, and it knows and
owes only what it names. -/
theorem Service.Safe.settle {phase : Phase} {left : Action Response} (hsafe : service.Safe phases)
    (hleft : left.Obeys request.monitor Settled phase)
    (hhas : ∀ id, store.Has id ↔ service.store.Has id)
    (hmanaged : ∀ id, service.store.Managed id → store.Managed id)
    (hartefact : ∀ id, store.Artefact id → service.store.Artefact id ∨
      (store.Has id ∧ (store.Managed id ∨ id ∈ phase.owed)))
    (hpaid : ∀ active, service.calls.get call = some active →
      ∀ id ∈ (phases call).owed, id ∈ phase.owed ∨ (store.Has id → store.Managed id))
    (hknown : ∀ id ∈ phase.known, id ∈ request.names ∧ store.Has id)
    (howed : ∀ id ∈ phase.owed, id ∈ request.names)
    (hpruned : store.pruned = service.store.pruned) :
    Service.Safe (service.settle call request store left) (Function.update phases call phase) where
  watched := hsafe.watched.settle hleft
  known other active program hcall id hid := by
    rw [settle_store]
    rcases settle_calls hcall with ⟨rfl, hactive⟩ | ⟨hother, hcall⟩
    · cases hactive
      rw [update_self] at hid
      exact hknown id hid
    · rw [update_of_ne hother] at hid
      have hold := hsafe.known other active program hcall id hid
      exact ⟨hold.1, (hhas id).mpr hold.2⟩
  owed other active program hcall id hid := by
    rcases settle_calls hcall with ⟨rfl, hactive⟩ | ⟨hother, hcall⟩
    · cases hactive
      rw [update_self] at hid
      exact howed id hid
    · rw [update_of_ne hother] at hid
      exact hsafe.owed other active program hcall id hid
  covered id hid := by
    rw [settle_store] at hid ⊢
    have hdebt : id ∈ phase.owed → ∃ other active program,
        (service.settle call request store left).calls.get other =
          some (active, program) ∧ id ∈ (update phases call phase other).owed := by
      intro hphase
      refine ⟨call, request, left, ?_, by rwa [update_self]⟩
      cases left with
      | done result =>
        have howed : phase.owed = ∅ := hleft
        rw [howed] at hphase
        cases hphase
      | call op next => simp [Pool.settle]
    cases hartefact id hid with
    | inr hnew => exact ⟨hnew.1, hnew.2.imp_right hdebt⟩
    | inl hold =>
      obtain ⟨hhad, hmanagedOrOwed⟩ := hsafe.covered id hold
      refine ⟨(hhas id).mpr hhad, ?_⟩
      rcases hmanagedOrOwed with hflag | ⟨other, active, program, hcall, howes⟩
      · exact .inl (hmanaged id hflag)
      by_cases hother : other = call
      · subst hother
        cases hpaid _ hcall id howes with
        | inl hstill => exact .inr (hdebt hstill)
        | inr hflag => exact .inl (hflag ((hhas id).mpr hhad))
      · refine .inr ⟨other, active, program, ?_, ?_⟩
        · rwa [settle_calls_of_ne hother]
        · rwa [update_of_ne hother]
  gone gone hgone := by
    rw [settle_store] at hgone ⊢
    rw [hpruned] at hgone
    rw [hhas]
    exact hsafe.gone gone hgone

/-- Nobody's debts change when the store does, as long as what the calls in
progress name keeps its row. -/
theorem Service.Safe.disturb (hsafe : service.Safe phases)
    (hnamed : ∀ request ∈ service.requests, ∀ id ∈ request.names,
      service.store.Has id → store.Has id)
    (hmanaged : ∀ id, service.store.Managed id → store.Managed id)
    (hartefact : ∀ id, store.Artefact id → service.store.Artefact id)
    (hgone : ∀ gone ∈ store.pruned, gone.Clean ∧ ¬ store.Has gone.device.id) :
    Service.Safe { service with store := store } phases where
  watched := hsafe.watched
  known call request program hcall id hid := by
    have hold := hsafe.known call request program hcall id hid
    exact ⟨hold.1, hnamed request (mem_requests.mpr ⟨call, program, hcall⟩) id hold.1 hold.2⟩
  owed := hsafe.owed
  covered id hid := by
    obtain ⟨hhad, hmanagedOrOwed⟩ := hsafe.covered id (hartefact id hid)
    rcases hmanagedOrOwed with hflag | ⟨call, request, program, hcall, howes⟩
    · exact ⟨(hmanaged id hflag).has, .inl (hmanaged id hflag)⟩
    · have hname := hsafe.owed call request program hcall id howes
      exact ⟨hnamed request (mem_requests.mpr ⟨call, program, hcall⟩)
        id hname hhad, .inr ⟨call, request, program, hcall, howes⟩⟩
  gone := hgone

/-! ## The retention job -/

/-- The flag protects a device from the job. -/
theorem find_prune (store : Store) (now : ℕ) (id : Uuid) : (store.prune now).devices.find id =
      (store.devices.find id).filter fun device => !device.expired now := by
  simp [Store.prune]

variable {now : ℕ}

theorem managed_prune (hmanaged : store.Managed id) : (store.prune now).Managed id := by
  unfold Store.Managed at hmanaged ⊢
  rw [find_prune]
  cases hfind : store.devices.find id with
  | none => simp [hfind] at hmanaged
  | some device =>
    rw [hfind] at hmanaged
    have hflag : device.managed = true := hmanaged
    simp [Device.expired, hflag]

theorem artefact_of_prune (hartefact : (store.prune now).Artefact id) : store.Artefact id := by
  obtain ⟨rule, hrule, hadmin⟩ | ⟨device, hdevice, hlock⟩ |
    ⟨assignment, hmem, hid⟩ | hexception := hartefact
  · simp only [Store.prune, find_deleteWhere] at hrule
    exact .inl ⟨rule, (filter_eq_some_iff.mp hrule).1, hadmin⟩
  · rw [find_prune] at hdevice
    exact .inr (.inl ⟨device, (filter_eq_some_iff.mp hdevice).1, hlock⟩)
  · exact .inr (.inr (.inl ⟨assignment, (mem_filter.mp hmem).1, hid⟩))
  · exact .inr (.inr (.inr hexception))

theorem clean_snapshot {device : Device} (hdevice : store.devices.find device.id = some device)
    (hartefact : ¬ store.Artefact device.id) : (store.snapshot device).Clean where
  rule rule hrule hadmin := hartefact (.inl ⟨rule, hrule, hadmin⟩)
  lock := by
    cases hlock : device.adminLocked with
    | false => exact hlock
    | true => exact absurd (.inr (.inl ⟨device, hdevice, hlock⟩)) hartefact
  assignments := by
    apply filter_eq_nil_iff.mpr
    intro assignment hmem hid
    exact hartefact (.inr (.inr (.inl ⟨assignment, hmem, by simpa using hid⟩)))
  exceptions := by
    apply filter_eq_nil_iff.mpr
    intro exception hmem hid
    exact hartefact (.inr (.inr (.inr ⟨exception, hmem, by simpa using hid⟩)))

theorem Service.Safe.prune (hsafe : service.Safe phases)
    (hspared : ∀ device ∈ service.store.expired now,
      ∀ request ∈ service.requests, device.id ∉ request.names) :
    Service.Safe { service with store := service.store.prune now } phases := by
  refine hsafe.disturb ?_ (fun _ => managed_prune) (fun _ => artefact_of_prune) ?_
  · intro request hrequest id hname hhas
    obtain ⟨device, hfind⟩ := isSome_iff_exists.mp hhas
    obtain ⟨hmem, rfl⟩ := find_eq_some.mp hfind
    unfold Store.Has
    rw [find_prune, hfind]
    cases hexpired : device.expired now with
    | false => simp [hexpired]
    | true =>
      refine absurd hname (hspared device ?_ request hrequest)
      exact mem_filter.mpr ⟨hmem, hexpired⟩
  · intro gone hgone
    cases mem_append.mp hgone with
    | inl hnew =>
      obtain ⟨device, hdevice, rfl⟩ := mem_map.mp hnew
      obtain ⟨hmem, hexpired⟩ := mem_filter.mp hdevice
      have hfind := find_eq_some.mpr ⟨hmem, (rfl : device.id = device.id)⟩
      constructor
      · apply clean_snapshot hfind
        intro hartefact
        obtain ⟨-, hflag | ⟨call, request, program, hcall, howes⟩⟩ :=
          hsafe.covered device.id hartefact
        · simp only [Store.Managed, hfind, any_some] at hflag
          simp [Device.expired, hflag] at hexpired
        · refine hspared device hdevice request (mem_requests.mpr ⟨call, program, hcall⟩) ?_
          exact hsafe.owed call request program hcall device.id howes
      · simp [Store.Has, find_prune, Store.snapshot, hfind, hexpired]
    | inr hold =>
      obtain ⟨hclean, hhas⟩ := hsafe.gone gone hold
      refine ⟨hclean, fun hstill => hhas ?_⟩
      unfold Store.Has at hstill ⊢
      rw [find_prune] at hstill
      cases hfind : service.store.devices.find gone.device.id with
      | none => simp [hfind] at hstill
      | some device => rfl

/-! ## Devices that are seen -/

theorem Service.Safe.observe (hsafe : service.Safe phases) (id : Uuid)
    (ip : Net.Ipv4Addr) (now : ℕ) :
    Service.Safe { service with store := service.store.observe id ip now }
      phases := by
  have heffect : Effect (.findDevice id) service.store (service.store.observe id ip now) :=
    Effect.updateDevice id (fun _ hmanaged => hmanaged) fun _ hlocked => .inl hlocked
  refine hsafe.disturb (fun _ _ other _ => (heffect.has other).mpr) heffect.managed ?_ ?_
  · intro other hartefact
    exact (heffect.artefact other hartefact).resolve_right fun hnew => by cases hnew.1
  · intro gone hgone
    rw [heffect.has]
    exact hsafe.gone gone hgone

theorem Service.Safe.discover {mac : Text} {ip : Net.Ipv4Addr} {zoneId : Uuid}
    (hsafe : service.Safe phases)
    (hdiscover : service.store.discover id mac ip zoneId now = some store) :
    Service.Safe { service with store := store } phases := by
  unfold Store.discover at hdiscover
  split at hdiscover
  case isTrue => cases hdiscover
  rename_i hfresh
  obtain ⟨devices, hinsert, rfl⟩ := map_eq_some_iff.mp hdiscover
  have hfind := find_insert hinsert
  have hother : ∀ other device, service.store.devices.find other = some device →
        devices.find other = some device := by
    intro other device hdevice
    rw [hfind]
    split
    next heq =>
      rw [heq, find_of_insert hinsert] at hdevice
      cases hdevice
    · exact hdevice
  refine hsafe.disturb ?_ ?_ ?_ ?_
  · intro _ _ other _ hhas
    obtain ⟨device, hdevice⟩ := isSome_iff_exists.mp hhas
    exact isSome_iff_exists.mpr ⟨device, hother other device hdevice⟩
  · intro other hmanaged
    obtain ⟨device, hdevice⟩ := isSome_iff_exists.mp hmanaged.has
    unfold Store.Managed at hmanaged ⊢
    rw [hdevice] at hmanaged
    rw [hother other device hdevice]
    exact hmanaged
  · intro other hartefact
    obtain hrule | ⟨device, hdevice, hlock⟩ | hrest := hartefact
    · exact .inl hrule
    · rw [hfind] at hdevice
      split at hdevice
      · cases hdevice
        cases hlock
      · exact .inr (.inl ⟨device, hdevice, hlock⟩)
    · exact .inr (.inr hrest)
  · intro gone hgone
    obtain ⟨hclean, hhas⟩ := hsafe.gone gone hgone
    refine ⟨hclean, fun hstill => hhas ?_⟩
    have hne : gone.device.id ≠ id := by
      rintro rfl
      exact hfresh (mem_map.mpr ⟨gone, hgone, rfl⟩)
    unfold Store.Has at hstill ⊢
    rwa [hfind, if_neg hne] at hstill

/-! ## Runs -/

/-- The request of a call and the statement it is about to take. -/
def Service.pending (service : Service) (call : ℕ) : Option (Request × Op) :=
  match service.calls.get call with
  | some (request, .call op _) => some (request, op)
  | _ => none

/-- The two calls that never set the flag write only about managed devices, no
statement that sets it fails, and the retention job deletes no device that a
call in progress names. -/
def Service.Careful (service : Service) : Label → Prop
  | .step call fault => ∀ pending ∈ service.pending call,
      (fault = true → pending.2.promotes = false) ∧
        (pending.1.promotes = false → ∀ id ∈ pending.2.writes, service.store.Managed id)
  | .prune now => ∀ device ∈ service.store.expired now,
      ∀ request ∈ service.requests, device.id ∉ request.names
  | _ => True

instance (service : Service) (label : Label) : Decidable (service.Careful label) := by
  cases label <;> delta Service.Careful <;> infer_instance

variable {after : Store}

theorem perform_eq_none {op : Op} (hperform : perform op store = (none, after)) :
    op.promotes = false ∧ after = store := by
  cases op with
  | setManaged => cases (Prod.mk.inj hperform).1
  | _ =>
    refine ⟨rfl, ?_⟩
    simp only [perform] at hperform
    first
      | cases (Prod.mk.inj hperform).1
      | split at hperform <;> first
        | exact (Prod.mk.inj hperform).2.symm
        | cases (Prod.mk.inj hperform).1

theorem Service.Safe.perform {op : Op} {next : Answer op → Action Response} {value : Value op}
    (hsafe : service.Safe phases) (hcall : service.calls.get call = some (request, .call op next))
    (hcareful : request.promotes = false → ∀ id ∈ op.writes, service.store.Managed id)
    (hperform : Retention.perform op service.store = (some value, after)) :
    Service.Safe (service.settle call request after (next (some value)))
      (Function.update phases call (request.after op value (phases call))) := by
  obtain ⟨hallows, hnext⟩ := hsafe.watched call request _ hcall
  have heffect := effect_perform hperform
  refine hsafe.settle (hnext _ _ rfl) heffect.has heffect.managed ?_ ?_ ?_ ?_ heffect.pruned
  · intro id hartefact
    refine (heffect.artefact id hartefact).imp_right fun ⟨hwrites, hfound⟩ => ?_
    cases hpromotes : request.promotes with
    | false =>
      have hflag := heffect.managed id (hcareful hpromotes id hwrites)
      exact ⟨hflag.has, .inl hflag⟩
    | true =>
      refine ⟨(heffect.has id).mpr ?_, .inr (.inr ⟨hwrites, hpromotes⟩)⟩
      rcases hfound with hhas | ⟨exception, hexception⟩
      · exact hhas
      · have hknown := (hallows hpromotes id hwrites).2 exception hexception
        exact (hsafe.known call request _ hcall id hknown).2
  · intro active _ id hid
    by_cases hop : op = .setManaged id
    · subst hop
      refine .inr fun hhas => ?_
      obtain rfl := (Prod.mk.inj hperform).2
      simp only [Store.Has, Store.Managed, Store.updateDevice, find_update, if_true] at hhas ⊢
      cases hfind : service.store.devices.find id with
      | none => simp [hfind] at hhas
      | some device => rfl
    · exact .inl (.inl ⟨hid, hop⟩)
  · intro id hid
    cases hid with
    | inl hold =>
      have hknown := hsafe.known call request _ hcall id hold
      exact ⟨hknown.1, (heffect.has id).mpr hknown.2⟩
    | inr hlearnt =>
      refine ⟨hlearnt.2, (heffect.has id).mpr ?_⟩
      cases op with
      | findDevice wanted =>
        have hfind : service.store.devices.find wanted = value := some.inj (Prod.mk.inj hperform).1
        cases value with
        | none => cases hlearnt.1
        | some device =>
          cases hlearnt.1
          exact isSome_iff_exists.mpr ⟨device, hfind⟩
      | _ => cases hlearnt.1
  · intro id hid
    cases hid with
    | inl hold => exact hsafe.owed call request _ hcall id hold.1
    | inr hnew => exact (hallows hnew.2 id hnew.1).1

theorem Service.Safe.fault {op : Op} {next : Answer op → Action Response}
    (hsafe : service.Safe phases) (hcall : service.calls.get call = some (request, .call op next))
    (hop : op.promotes = false) :
    Service.Safe (service.settle call request service.store (next none)) phases := by
  obtain ⟨-, hnext⟩ := hsafe.watched call request _ hcall
  have hleft := hnext none (phases call) (by simp [Request.monitor, hop])
  rw [← update_eq_self call phases]
  exact hsafe.settle hleft (fun _ => Iff.rfl) (fun _ => id)
    (fun _ hartefact => .inl hartefact) (fun _ _ _ hid => .inl hid)
    (hsafe.known call request _ hcall) (hsafe.owed call request _ hcall) rfl

theorem Service.Safe.next {after : Service} {label : Label}
    (hsafe : ∃ phases, service.Safe phases) (hcareful : service.Careful label)
    (hnext : Retention.next service label = some after) : ∃ phases, after.Safe phases := by
  obtain ⟨phases, hsafe⟩ := hsafe
  cases label with
  | start call request =>
    obtain ⟨hfresh, rfl⟩ := start_eq_some.mp hnext
    refine ⟨_, hsafe.settle request.obeys_program (fun _ => Iff.rfl)
      (fun _ => id) (fun _ hartefact => .inl hartefact) ?_
      (fun _ hid => nomatch hid) (fun _ hid => nomatch hid) rfl⟩
    intro active hactive
    rw [hfresh] at hactive
    cases hactive
  | step call fault =>
    obtain ⟨request, op, left, answer, store, hcall, hexec, rfl⟩ := step_eq_some.mp hnext
    have hpending : service.pending call = some (request, op) := by simp [Service.pending, hcall]
    have hcareful := hcareful (request, op) hpending
    have hresult := some.inj hexec
    cases fault with
    | true =>
      cases hresult
      exact ⟨phases, hsafe.fault hcall (hcareful.1 rfl)⟩
    | false =>
      cases answer with
      | some value => exact ⟨_, hsafe.perform hcall hcareful.2 hresult⟩
      | none =>
        obtain ⟨hop, rfl⟩ := perform_eq_none hresult
        exact ⟨phases, hsafe.fault hcall hop⟩
  | prune now =>
    cases hnext
    exact ⟨phases, hsafe.prune hcareful⟩
  | discover id mac ip zoneId now =>
    obtain ⟨store, hdiscover, rfl⟩ := map_eq_some_iff.mp hnext
    exact ⟨phases, hsafe.discover hdiscover⟩
  | observe id ip now =>
    cases hnext
    exact ⟨phases, hsafe.observe id ip now⟩

/-- From a database in which every device with an artefact is managed, as the
migration leaves it, retention deletes no device that an admin has written
about, no exception names a deleted device, and a device without the flag has
an artefact only while a call is about to set it. -/
theorem retention_orphans_nothing {start : Store} {labels : List Label}
    {final : Service} (hstart : ∀ id, start.Artefact id → start.Managed id)
    (hpruned : start.pruned = []) (hcareful : Meets next Service.Careful (.idle start) labels)
    (hrun : run next (.idle start) labels = some final) :
    (∀ exception ∈ final.store.exceptions.rows,
      ∀ gone ∈ final.store.pruned, gone.device.id ∉ deviceIds exception) ∧
    (∀ gone ∈ final.store.pruned, (∀ rule ∈ gone.rule, rule.changedBy ≠ .admin) ∧
        gone.device.adminLocked = false ∧ gone.assignments = [] ∧ gone.exceptions = []) ∧
    ∀ device ∈ final.store.devices.rows, device.managed = false →
      (∀ request ∈ final.requests, device.id ∉ request.names) →
        ¬ final.store.Artefact device.id := by
  have hidle : Service.Safe (.idle start) fun _ => .initial := by
    refine ⟨?_, ?_, ?_, ?_, ?_⟩
    · intro call request program hcall
      simp [idle] at hcall
    · intro call request program hcall
      simp [idle] at hcall
    · intro call request program hcall
      simp [idle] at hcall
    · intro id hartefact
      exact ⟨(hstart id hartefact).has, .inl (hstart id hartefact)⟩
    · intro gone hgone
      simp [idle, hpruned] at hgone
  obtain ⟨phases, hsafe⟩ : ∃ phases, final.Safe phases :=
    run_invariant_of_meets (fun _ _ _ hsafe hcond hnext => Service.Safe.next hsafe hcond hnext)
      ⟨_, hidle⟩ hcareful hrun
  refine ⟨?_, ?_, ?_⟩
  · intro exception hexception gone hgone hid
    have hartefact : final.store.Artefact gone.device.id :=
      .inr (.inr (.inr ⟨exception, hexception, hid⟩))
    exact (hsafe.gone gone hgone).2 (hsafe.covered _ hartefact).1
  · intro gone hgone
    have hclean := (hsafe.gone gone hgone).1
    exact ⟨hclean.rule, hclean.lock, hclean.assignments, hclean.exceptions⟩
  · intro device hdevice hflag hnamed hartefact
    have hfind := find_eq_some.mpr ⟨hdevice, (rfl : device.id = device.id)⟩
    obtain ⟨-, hmanaged | ⟨call, request, program, hcall, howes⟩⟩ :=
      hsafe.covered device.id hartefact
    · simp [Store.Managed, hfind, hflag] at hmanaged
    · refine hnamed request (mem_requests.mpr ⟨call, program, hcall⟩) ?_
      exact hsafe.owed call request program hcall device.id howes

/-! ## Artefacts that do not protect -/

/-- A zone that permits every target. -/
def homeZone : Zone.NetworkZone where
  id := 1
  name := "home".toList
  provenance := .system
  isolationStance := .sharedSubnet
  allowedTargets := [.direct, .tunnel]
  memberIsolation := false
  subnet := none
  adminUiReachable := true
  isDefault := true
  isDefaultForNew := true

def lanAddress (host : ℕ) : Net.Ipv4Addr := Net.ipv4 192 168 1 host

/-- A device as discovery inserts it, with the flag as given. -/
def seenDevice (id : Uuid) (managed : Bool) : Device where
  id := id
  mac := "aa:bb".toList
  lastIp := some (lanAddress id)
  zoneId := 1
  adminLocked := false
  dnsCaptureEnabled := false
  dnsCaptureCapCount := 1000
  dnsCaptureCapDays := 7
  managed := managed
  lastSeen := 0

/-- Two devices, the first of them managed because an exception names it. -/
def household : Store where
  devices := ⟨[seenDevice 1 true, seenDevice 2 false], by decide⟩
  rules := .empty
  assignments := []
  profiles := []
  zones := [homeZone]
  exceptions := ⟨[⟨5, .device 1, .zone 1, .preset .casting, false⟩], by decide⟩
  defaultPolicy := none
  pruned := []

theorem managed_of_artefact_household (id : Uuid)
    (hartefact : household.Artefact id) : household.Managed id := by
  obtain ⟨rule, hrule, -⟩ | ⟨device, hdevice, hlock⟩ | ⟨assignment, hmem, -⟩ |
    ⟨exception, hmem, hid⟩ := hartefact
  · cases hrule
  · obtain ⟨hmem, -⟩ := find_eq_some.mp hdevice
    simp only [household, mem_cons, not_mem_nil, or_false] at hmem
    rcases hmem with rfl | rfl <;> cases hlock
  · cases hmem
  · obtain rfl := mem_singleton.mp hmem
    obtain rfl := mem_singleton.mp hid
    decide

def admin : AuthContext := .user 1 .admin

/-- The second device gets a rule of the admin, a third one only appears, and
the job runs two months later. -/
def ruledAndPruned : List Label :=
  .discover 3 "cc:dd".toList (lanAddress 3) 1 0 ::
    .start 0 (.setRule admin 2 .direct) :: List.replicate 5 (.step 0 false) ++
    [.prune 5184000]

theorem retention_orphans_nothing_ruledAndPruned :
    ∃ final, run next (.idle household) ruledAndPruned = some final ∧
      final.store.pruned.map (·.device.id) = [3] ∧ final.store.devices.rows.map Device.id = [1, 2] ∧
      (∀ exception ∈ final.store.exceptions.rows,
        ∀ gone ∈ final.store.pruned, gone.device.id ∉ deviceIds exception) ∧
      (∀ gone ∈ final.store.pruned, (∀ rule ∈ gone.rule, rule.changedBy ≠ .admin) ∧
          gone.device.adminLocked = false ∧ gone.assignments = [] ∧ gone.exceptions = []) ∧
      ∀ device ∈ final.store.devices.rows, device.managed = false →
        (∀ request ∈ final.requests, device.id ∉ request.names) →
          ¬ final.store.Artefact device.id :=
  ⟨_, rfl, by decide +kernel, by decide +kernel,
    @retention_orphans_nothing household ruledAndPruned _
      managed_of_artefact_household rfl (by decide +kernel) rfl⟩

/-- An admin sets the rule of the second device through its address, and the
device is deleted with the rule; or an admin lets the exception name the second
device, and the row of the exception outlives the device. -/
theorem retention_orphans_unpromoted : (∀ id, household.Artefact id → household.Managed id) ∧
      (∃ final ∈ run next (.idle household)
          (.start 0 (.setRuleForIp admin (lanAddress 2) .direct) ::
            List.replicate 4 (.step 0 false) ++ [.prune 5184000]),
        ∃ gone ∈ final.store.pruned, ∃ rule ∈ gone.rule, rule.changedBy = .admin) ∧
      ∃ final ∈ run next (.idle household) (.start 0 (.updateException admin 5
              ⟨some (.device 2), none, none, none⟩) ::
            List.replicate 4 (.step 0 false) ++ [.prune 5184000]),
        ∃ exception ∈ final.store.exceptions.rows, ∃ gone ∈ final.store.pruned,
            gone.device.id ∈ deviceIds exception := by
  refine ⟨managed_of_artefact_household, ?_, ?_⟩
  · decide +kernel
  · decide +kernel

end Wardnet.Retention
