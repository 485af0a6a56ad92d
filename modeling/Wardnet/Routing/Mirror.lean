import Wardnet.Routing.Frame

/-!
# The kernel rules mirror the applied map

Over devices with pairwise distinct addresses the kernel rules at the device
priority are exactly the bindings of the applied map.  Every handler keeps
this except the one for a lost route table, which forgets the entries of the
table before it applies them again and so depends on each of them being bound
to the same table once more.
-/

namespace Wardnet.Routing

open List Transition

/-- The kernel rules at the device priority are exactly the bindings of the
applied map. -/
def Mirrors (state : State) : Prop :=
  ∀ binding, binding ∈ state.deviceRules ↔ ∃ device, Bound state device binding

/-- No other device has an applied rule for this address. -/
def AddressFree (state : State) (device : Uuid) (ip : Text) : Prop :=
  ∀ other rule, other ≠ device → state.applied.get other = some rule → rule.deviceIp ≠ ip

structure Mirrored (state : State) : Prop where
  mirrors : Mirrors state
  distinct : ∀ device rule, state.applied.get device = some rule →
    AddressFree state device rule.deviceIp

variable {state : State}

theorem Mirrored.covers (hmirrored : Mirrored state) : Covers state :=
  fun device binding hbound => (hmirrored.mirrors binding).mpr ⟨device, hbound⟩

variable (env : Uuid → Env) {table : ℕ} {device : Uuid}

/-- An operation that gives the device an address no other device has keeps
the mirror. -/
theorem Mirrored.device_step {after : State}
    (hmirrored : Mirrored state) (hstep : DeviceStep state device after)
    (hfree : ∀ rule, after.applied.get device = some rule →
      AddressFree state device rule.deviceIp) : Mirrored after := by
  constructor
  · intro binding
    rw [hstep.rules binding, hmirrored.mirrors binding]
    constructor
    · rintro (⟨⟨other, hother⟩, hnot⟩ | hbound)
      · have hne : other ≠ device := by
          rintro rfl
          exact hnot hother
        exact ⟨other, (bound_congr (hstep.others other hne)).mpr hother⟩
      · exact ⟨device, hbound⟩
    · rintro ⟨other, hother⟩
      by_cases hne : other = device
      · exact .inr (hne ▸ hother)
      · have hbefore := (bound_congr (hstep.others other hne)).mp hother
        refine .inl ⟨⟨other, hbefore⟩, ?_⟩
        rintro ⟨rule, hrule, hip, -⟩
        obtain ⟨otherRule, hotherRule, hotherIp, -⟩ := hbefore
        exact hmirrored.distinct device rule hrule other otherRule hne hotherRule
          (hotherIp.trans hip.symm)
  · intro left leftRule hleft right rightRule hne hright
    by_cases hleftDevice : left = device
    · subst hleftDevice
      rw [hstep.others right hne] at hright
      exact hfree leftRule hleft right rightRule hne hright
    · rw [hstep.others left hleftDevice] at hleft
      by_cases hrightDevice : right = device
      · subst hrightDevice
        exact (hfree rightRule hright left leftRule hleftDevice hleft).symm
      · rw [hstep.others right hrightDevice] at hright
        exact hmirrored.distinct left leftRule hleft right rightRule hne hright

/-! ## Single devices -/

theorem applyRule_deviceIp {ip : Text} {target : RoutingTarget} {env : Env} {rule : AppliedRule}
    (hrule : (applyRule state device ip target env).applied.get device =
      some rule) : rule.deviceIp = ip := by
  rcases applyRule_cases state device ip target env
    with ⟨hskip, found, hfound, hip⟩ | ⟨found, hip, happlied, -⟩
  · rw [hskip] at hrule
    cases hfound.symm.trans hrule
    exact hip
  · rw [happlied, HashMap.get_insert, if_pos rfl] at hrule
    cases hrule
    exact hip

section

variable (hmirrored : Mirrored state)
include hmirrored

theorem Mirrored.apply_rule {ip : Text} (hfree : AddressFree state device ip)
    (target : RoutingTarget) (env : Env) : Mirrored (applyRule state device ip target env) :=
  hmirrored.device_step (deviceStep_applyRule hmirrored.covers device ip target env)
    fun _ hrule => applyRule_deviceIp hrule ▸ hfree

theorem Mirrored.tear_down (device : Uuid) : Mirrored (removeDeviceKernelState state device) :=
  hmirrored.device_step (deviceStep_removeDeviceKernelState state device)
    fun rule hrule => by simp at hrule

theorem Mirrored.congr {after : State} (happlied : after.applied = state.applied)
    (hrules : after.deviceRules = state.deviceRules) : Mirrored after := by
  constructor
  · intro binding
    simp only [Bound, happlied, hrules]
    exact hmirrored.mirrors binding
  · simp only [AddressFree, happlied]
    exact hmirrored.distinct

/-! ## Lists of devices -/

theorem Mirrored.remove_all (devices : List Uuid) : Mirrored (removeAll state devices) := by
  induction devices generalizing state with
  | nil => exact hmirrored
  | cons device devices ih => exact ih (hmirrored.tear_down device)

/-- The listed devices have pairwise distinct addresses, which no other
device has. -/
def DistinctDevices (state : State) (devices : List RuledDevice) : Prop :=
  (∀ device ∈ devices, AddressFree state device.id device.lastIp) ∧
    devices.Pairwise fun left right => left.id ≠ right.id → left.lastIp ≠ right.lastIp

variable {devices : List RuledDevice}

theorem Mirrored.apply_all (env : Uuid → Env) (hdistinct : DistinctDevices state devices) :
    Mirrored (applyAll state env devices) := by
  induction devices generalizing state with
  | nil => exact hmirrored
  | cons device devices ih =>
    obtain ⟨hfree, hpairwise⟩ := hdistinct
    rw [pairwise_cons] at hpairwise
    refine ih (hmirrored.apply_rule (hfree device (mem_cons_self ..)) _ _) ⟨?_, hpairwise.2⟩
    intro next hnext other rule hother hrule
    by_cases hdevice : other = device.id
    · subst hdevice
      rw [applyRule_deviceIp hrule]
      exact hpairwise.1 next hnext hother
    · have hstep := deviceStep_applyRule hmirrored.covers device.id device.lastIp device.target
        (env device.id)
      rw [hstep.others other hdevice] at hrule
      exact hfree next (mem_cons_of_mem _ hnext) other rule hother hrule

end

/-! ## A lost route table -/

theorem mem_devicesOnTable {device : RuledDevice} :
    device ∈ devicesOnTable state table ↔ ∃ rule, state.applied.get device.id = some rule ∧
        rule.table = some table ∧ rule.deviceIp = device.lastIp ∧ rule.target = device.target := by
  simp only [devicesOnTable, mem_map, mem_filter, decide_eq_true_eq]
  constructor
  · rintro ⟨⟨id, rule⟩, ⟨hmem, htable⟩, rfl⟩
    exact ⟨rule, HashMap.mem_toList.mp hmem, htable, rfl, rfl⟩
  · rintro ⟨rule, hrule, htable, hip, htarget⟩
    refine ⟨(device.id, rule), ⟨HashMap.mem_toList.mpr hrule, htable⟩, ?_⟩
    rw [hip, htarget]

theorem nodup_devicesOnTable (state : State) (table : ℕ) :
    ((devicesOnTable state table).map RuledDevice.id).Nodup := by
  have hmap : (devicesOnTable state table).map RuledDevice.id =
      (state.applied.toList.filter fun entry => entry.2.table = some table).map Prod.fst := by
    simp [devicesOnTable]
  rw [hmap]
  exact (HashMap.nodup_keys state.applied).sublist (filter_sublist.map Prod.fst)

theorem forgetTable_absent (state : State) (table : ℕ) : ∀ device ∈ devicesOnTable state table,
      (forgetTable state table).applied.get device.id = none := by
  intro device hdevice
  rw [forgetTable_get, if_pos (mem_map_of_mem hdevice)]

theorem applyRule_keeps_absent {device : RuledDevice}
    (hnotMem : device.id ∉ devices.map RuledDevice.id)
    (habsent : ∀ next ∈ device :: devices, state.applied.get next.id = none) :
    ∀ next ∈ devices, (applyRule state device.id device.lastIp device.target
        (env device.id)).applied.get next.id = none := by
  intro next hnext
  have hne : next.id ≠ device.id := fun heq => hnotMem (heq ▸ mem_map_of_mem hnext)
  have hstep := (applyRule_of_absent (habsent device (mem_cons_self ..))
    device.lastIp device.target (env device.id)).1
  rw [hstep.others _ hne]
  exact habsent next (mem_cons_of_mem _ hnext)

/-- Applying the rules of devices that have none: each of them gets an entry
under its address, and the kernel gains exactly their bindings. -/
theorem applyAll_of_absent (hnodup : (devices.map RuledDevice.id).Nodup)
    (habsent : ∀ device ∈ devices, state.applied.get device.id = none) :
    (∀ other, other ∉ devices.map RuledDevice.id → (applyAll state env devices).applied.get other =
        state.applied.get other) ∧
    (∀ device ∈ devices, ∃ rule, (applyAll state env devices).applied.get device.id = some rule ∧
        rule.deviceIp = device.lastIp) ∧
    (∀ binding, binding ∈ (applyAll state env devices).deviceRules ↔ binding ∈ state.deviceRules ∨
        ∃ device ∈ devices, Bound (applyAll state env devices) device.id binding) := by
  induction devices generalizing state with
  | nil => simp [applyAll]
  | cons device devices ih =>
    rw [map_cons, nodup_cons] at hnodup
    have hnone := habsent device (mem_cons_self ..)
    obtain ⟨hstep, rule, hrule, hip⟩ := applyRule_of_absent hnone
      device.lastIp device.target (env device.id)
    obtain ⟨hothers, hentries, hrules⟩ := ih hnodup.2 (applyRule_keeps_absent env hnodup.1 habsent)
    have hfirst := hothers device.id hnodup.1
    refine ⟨?_, ?_, ?_⟩
    · intro other hother
      simp only [map_cons, mem_cons, not_or] at hother
      exact (hothers other hother.2).trans (hstep.others other hother.1)
    · intro next hnext
      rcases mem_cons.mp hnext with rfl | hnext
      · exact ⟨rule, hfirst.trans hrule, hip⟩
      · exact hentries next hnext
    · intro binding
      have hunbound : ¬ Bound state device.id binding := by simp [Bound, hnone]
      simp only [applyAll, mem_cons, exists_eq_or_imp]
      rw [hrules binding, hstep.rules binding, bound_congr hfirst]
      simp only [hunbound, not_false_eq_true, and_true, or_assoc]

/-- The environment lets the rules of the listed devices, applied in turn,
bind each of them to the table. -/
def BindsAll (policy : Option Uuid) (env : Uuid → Env) (table : ℕ) :
    List ℕ → List RuledDevice → Prop
  | _, [] => True
  | tables, device :: devices =>
    BindsTo policy tables device.target (env device.id) table ∧
      BindsAll policy env table (ensureTunnelTable tables (env device.id) table).1 devices

/-- Applying the rules of devices that have none binds all of them to a table
exactly when the environment lets it. -/
theorem bound_applyAll_iff (table : ℕ) (hnodup : (devices.map RuledDevice.id).Nodup)
    (habsent : ∀ device ∈ devices, state.applied.get device.id = none) :
    (∀ device ∈ devices, Bound (applyAll state env devices) device.id (device.lastIp, table)) ↔
      BindsAll state.defaultPolicy env table state.tunnelTables devices := by
  induction devices generalizing state with
  | nil => simp [BindsAll]
  | cons device devices ih =>
    rw [map_cons, nodup_cons] at hnodup
    have hnone := habsent device (mem_cons_self ..)
    have hrest := applyRule_keeps_absent env hnodup.1 habsent
    have hfirst := (applyAll_of_absent env hnodup.2 hrest).1 device.id hnodup.1
    have hih := ih hnodup.2 hrest
    rw [applyRule_defaultPolicy] at hih
    simp only [applyAll, forall_mem_cons, BindsAll]
    rw [bound_congr hfirst, bound_applyRule_iff hnone]
    refine and_congr_right fun hbinds => ?_
    rcases applyRule_binds_or_not hnone device.lastIp device.target (env device.id) with
      ⟨other, hother, -, htables⟩ | hno
    · rw [hih, htables, hother.unique hbinds]
    · exact absurd hbinds (hno table).1

theorem bound_handleRouteTableLost_iff (state : State) (table : ℕ) (env : Uuid → Env) :
    (∀ device ∈ devicesOnTable state table, Bound (handleRouteTableLost state table env) device.id
        (device.lastIp, table)) ↔ BindsAll state.defaultPolicy env table
        (state.tunnelTables.filter fun known => known ≠ table) (devicesOnTable state table) :=
  bound_applyAll_iff env table (nodup_devicesOnTable state table) (forgetTable_absent state table)

theorem mem_map_devicesOnTable : device ∈ (devicesOnTable state table).map RuledDevice.id ↔
      ∃ ip, Bound state device (ip, table) := by
  simp only [mem_map]
  constructor
  · rintro ⟨found, hfound, rfl⟩
    obtain ⟨rule, hrule, htable, hip, -⟩ := mem_devicesOnTable.mp hfound
    exact ⟨found.lastIp, rule, hrule, hip, htable⟩
  · rintro ⟨ip, rule, hrule, hip, htable⟩
    exact ⟨⟨device, rule.deviceIp, rule.target⟩,
      mem_devicesOnTable.mpr ⟨rule, hrule, htable, rfl, rfl⟩, rfl⟩

theorem handleRouteTableLost_get (hnot : ¬ ∃ ip, Bound state device (ip, table)) :
    (handleRouteTableLost state table env).applied.get device = state.applied.get device := by
  rw [← mem_map_devicesOnTable] at hnot
  have hothers := (applyAll_of_absent env (nodup_devicesOnTable state table)
    (forgetTable_absent state table)).1 device hnot
  rwa [forgetTable_get, if_neg hnot] at hothers

theorem handleRouteTableLost_deviceIp {env : Uuid → Env} {rule : AppliedRule}
    (hrule : (handleRouteTableLost state table env).applied.get device = some rule) :
    ∃ before, state.applied.get device = some before ∧ before.deviceIp = rule.deviceIp := by
  by_cases hlost : ∃ ip, Bound state device (ip, table)
  · obtain ⟨listed, hlisted, rfl⟩ := mem_map.mp (mem_map_devicesOnTable.mpr hlost)
    obtain ⟨before, hbefore, -, hip, -⟩ := mem_devicesOnTable.mp hlisted
    obtain ⟨found, hfound, hfoundIp⟩ := (applyAll_of_absent env (nodup_devicesOnTable state table)
      (forgetTable_absent state table)).2.1 listed hlisted
    cases hfound.symm.trans hrule
    exact ⟨before, hbefore, hip.trans hfoundIp.symm⟩
  · rw [handleRouteTableLost_get env hlost] at hrule
    exact ⟨rule, hrule, rfl⟩

/-- The kernel rules mirror the applied map after a lost table exactly when
every device on it is bound to it again. -/
theorem mirrors_handleRouteTableLost_iff (hmirrored : Mirrored state) (table : ℕ)
    (env : Uuid → Env) : Mirrors (handleRouteTableLost state table env) ↔
      ∀ device ∈ devicesOnTable state table, Bound (handleRouteTableLost state table env) device.id
          (device.lastIp, table) := by
  have hkernelRules (binding : Text × ℕ) := (applyAll_of_absent env
    (nodup_devicesOnTable state table) (forgetTable_absent state table)).2.2 binding
  constructor
  · intro hmirrors device hdevice
    obtain ⟨rule, hrule, htable, hip, -⟩ := mem_devicesOnTable.mp hdevice
    have hbound : Bound state device.id (device.lastIp, table) := ⟨rule, hrule, hip, htable⟩
    have hkernel : (device.lastIp, table) ∈ (handleRouteTableLost state table env).deviceRules :=
      (hkernelRules _).mpr (.inl (hmirrored.covers _ _ hbound))
    obtain ⟨owner, after, hafter, hafterIp, hafterTable⟩ := (hmirrors _).mp hkernel
    obtain ⟨before, hbefore, hbeforeIp⟩ := handleRouteTableLost_deviceIp hafter
    have howner : owner = device.id := by
      by_contra hne
      exact hmirrored.distinct device.id rule hrule owner before hne hbefore
        (hbeforeIp.trans (hafterIp.trans hip.symm))
    exact howner ▸ ⟨after, hafter, hafterIp, hafterTable⟩
  · intro hrebound binding
    refine ((hkernelRules binding).trans (or_congr_left (hmirrored.mirrors binding))).trans ?_
    constructor
    · rintro (⟨device, hbound⟩ | ⟨device, -, hbound⟩)
      · by_cases hlost : ∃ ip, Bound state device (ip, table)
        · obtain ⟨listed, hlisted, rfl⟩ := mem_map.mp (mem_map_devicesOnTable.mpr hlost)
          obtain ⟨rule, hrule, htable, hip, -⟩ := mem_devicesOnTable.mp hlisted
          have heq : (listed.lastIp, table) = binding :=
            Bound.unique ⟨rule, hrule, hip, htable⟩ hbound
          exact ⟨listed.id, heq ▸ hrebound listed hlisted⟩
        · exact ⟨device, (bound_congr (handleRouteTableLost_get env hlost)).mpr hbound⟩
      · exact ⟨device.id, hbound⟩
    · rintro ⟨device, hbound⟩
      by_cases hlost : ∃ ip, Bound state device (ip, table)
      · obtain ⟨listed, hlisted, rfl⟩ := mem_map.mp (mem_map_devicesOnTable.mpr hlost)
        exact .inr ⟨listed, hlisted, hbound⟩
      · exact .inl ⟨device, (bound_congr (handleRouteTableLost_get env hlost)).mp hbound⟩

/-! ## Runs -/

inductive Label
  | applyRule (device : Uuid) (ip : Text) (target : RoutingTarget) (env : Env)
  | removeDeviceRoutes (device : Uuid)
  | handleIpChange (device : Uuid) (newIp : Text) (env : Env)
  | handleTunnelUp (tunnel : Uuid) (devices : List RuledDevice) (env : Uuid → Env)
  | handleTunnelDown (tunnel : Uuid)
  | handleRouteTableLost (table : ℕ) (env : Uuid → Env)

def handle (state : State) : Label → State
  | .applyRule device ip target env => applyRule state device ip target env
  | .removeDeviceRoutes device => removeDeviceRoutes state device
  | .handleIpChange device newIp env => handleIpChange state device newIp env
  | .handleTunnelUp tunnel devices env => handleTunnelUp state tunnel devices env
  | .handleTunnelDown tunnel => handleTunnelDown state tunnel
  | .handleRouteTableLost table env => handleRouteTableLost state table env

def next (state : State) (label : Label) : Option State := some (handle state label)

/-- The addresses an operation brings in belong to no other device. -/
def DistinctAddresses (state : State) : Label → Prop
  | .applyRule device ip .. => AddressFree state device ip
  | .handleIpChange device newIp _ => AddressFree state device newIp
  | .handleTunnelUp _ devices _ => DistinctDevices state devices
  | _ => True

/-- When a table is lost, the environment lets every device on it be bound to
it again. -/
def Rebinds (state : State) : Label → Prop
  | .handleRouteTableLost table env =>
    BindsAll state.defaultPolicy env table (state.tunnelTables.filter fun known => known ≠ table)
      (devicesOnTable state table)
  | _ => True

/-- The kernel rules are the bindings of the applied map, and a device without
a table has no rule. -/
def KernelMirrors (state : State) : Prop :=
  Mirrors state ∧ ∀ device rule, state.applied.get device = some rule →
      rule.table = none → ∀ table, (rule.deviceIp, table) ∉ state.deviceRules

theorem Mirrored.kernel_mirrors (hmirrored : Mirrored state) : KernelMirrors state := by
  refine ⟨hmirrored.mirrors, fun device rule hrule hdirect table hmem => ?_⟩
  obtain ⟨owner, found, hfound, hip, htable⟩ := (hmirrored.mirrors _).mp hmem
  by_cases howner : owner = device
  · subst howner
    cases hrule.symm.trans hfound
    simp [hdirect] at htable
  · exact hmirrored.distinct device rule hrule owner found howner hfound hip

variable {label : Label}

theorem Mirrored.handle_label (hmirrored : Mirrored state)
    (hdistinct : DistinctAddresses state label) (hrebinds : Rebinds state label) :
    Mirrored (handle state label) := by
  cases label with
  | applyRule device ip target env => exact hmirrored.apply_rule hdistinct target env
  | removeDeviceRoutes device => exact (hmirrored.tear_down device).congr rfl rfl
  | handleIpChange device newIp env =>
    show Mirrored (handleIpChange state device newIp env)
    refine hmirrored.device_step
      (deviceStep_handleIpChange state device newIp env) fun rule hrule => ?_
    simp only [handleIpChange] at hrule
    split at hrule
    · exact applyRule_deviceIp hrule ▸ hdistinct
    · simp at hrule
  | handleTunnelUp tunnel devices env =>
    refine hmirrored.apply_all env ⟨fun device hdevice => ?_, ?_⟩
    · exact hdistinct.1 device (mem_of_mem_filter hdevice)
    · exact hdistinct.2.sublist filter_sublist
  | handleTunnelDown tunnel =>
    simp only [handle, Routing.handleTunnelDown]
    split
    · exact hmirrored.remove_all _
    · exact (hmirrored.remove_all _).congr rfl rfl
  | handleRouteTableLost table env =>
    have hbound := (bound_handleRouteTableLost_iff state table env).mpr hrebinds
    refine ⟨(mirrors_handleRouteTableLost_iff hmirrored table env).mpr hbound, ?_⟩
    intro left leftRule hleft right rightRule hne hright
    obtain ⟨leftBefore, hleftBefore, hleftIp⟩ := handleRouteTableLost_deviceIp hleft
    obtain ⟨rightBefore, hrightBefore, hrightIp⟩ := handleRouteTableLost_deviceIp hright
    rw [← hleftIp, ← hrightIp]
    exact hmirrored.distinct left leftBefore hleftBefore right rightBefore hne hrightBefore

/-- Over devices with distinct addresses, the kernel rules mirror the applied
map after every operation of a run exactly when, at each lost table, the
environment lets every device on it be bound to it again. -/
theorem kernelMirrors_run_iff (policy : Option Uuid) (labels : List Label)
    (hdistinct : Meets next DistinctAddresses (State.new policy) labels) :
    Meets next (fun state label => KernelMirrors (handle state label)) (State.new policy) labels ↔
      Meets next Rebinds (State.new policy) labels := by
  have hiff : ∀ state label, Mirrored state →
      ((DistinctAddresses state label ∧ Rebinds state label) ↔ DistinctAddresses state label ∧
          KernelMirrors (handle state label)) := by
    intro state label hmirrored
    refine and_congr_right fun hlabel => ⟨fun hrebinds => ?_, fun hmirrors => ?_⟩
    · exact (hmirrored.handle_label hlabel hrebinds).kernel_mirrors
    · cases label with
      | handleRouteTableLost table env =>
        exact (bound_handleRouteTableLost_iff state table env).mp
          ((mirrors_handleRouteTableLost_iff hmirrored table env).mp hmirrors.1)
      | _ => trivial
  have hstep : ∀ state label after, Mirrored state →
      DistinctAddresses state label ∧ Rebinds state label →
      next state label = some after → Mirrored after := by
    intro state label after hmirrored hcond hnext
    cases hnext
    exact hmirrored.handle_label hcond.1 hcond.2
  have hnew : Mirrored (State.new policy) := by
    constructor
    · intro binding
      simp [State.new, Bound]
    · intro device rule hrule
      simp [State.new] at hrule
  have hmeets := meets_iff_of_invariant hiff hstep hnew labels
  rw [meets_and, meets_and] at hmeets
  constructor
  · intro hmirrors
    exact (hmeets.mpr ⟨hdistinct, hmirrors⟩).2
  · intro hrebinds
    exact (hmeets.mp ⟨hdistinct, hrebinds⟩).2

/-- A device is bound to a tunnel whose table is then lost and cannot be added
again. -/
def lostTable : List Label :=
  [.applyRule 1 "10.0.0.5".toList (.tunnel 9) healthyEnv,
    .handleRouteTableLost 100 fun _ => { healthyEnv with addRouteTable := fun _ => .failed }]

theorem lostTable_distinct : Meets next DistinctAddresses (State.new none) lostTable := by
  simp [lostTable, Meets, DistinctAddresses, AddressFree, State.new]

theorem kernelMirrors_run_iff_lostTable : Meets next DistinctAddresses (State.new none) lostTable ∧
      (Meets next (fun state label => KernelMirrors (handle state label))
        (State.new none) lostTable ↔ Meets next Rebinds (State.new none) lostTable) :=
  ⟨lostTable_distinct, kernelMirrors_run_iff none lostTable lostTable_distinct⟩

/-- The device ends up recorded as direct while the kernel still routes its
address into the lost table. -/
theorem lost_table_leaves_rule : Meets next DistinctAddresses (State.new none) lostTable ∧
      ∃ final, run next (State.new none) lostTable = some final ∧
        final.applied.get 1 = some (directRule "10.0.0.5".toList) ∧
        ("10.0.0.5".toList, 100) ∈ final.deviceRules ∧ ¬ KernelMirrors final := by
  have hdirect : ∃ final, run next (State.new none) lostTable = some final ∧
      final.applied.get 1 = some (directRule "10.0.0.5".toList) ∧
      ("10.0.0.5".toList, 100) ∈ final.deviceRules :=
    ⟨_, rfl, by decide, by decide⟩
  obtain ⟨final, hrun, hget, hmem⟩ := hdirect
  refine ⟨lostTable_distinct, final, hrun, hget, hmem, fun hmirrors => ?_⟩
  exact hmirrors.2 1 _ hget rfl 100 hmem

/-! ## A tunnel that goes down -/

theorem handleTunnelDown_get (state : State) (tunnel device : Uuid) :
    (handleTunnelDown state tunnel).applied.get device =
      (state.applied.get device).filter fun rule => rule.tunnelId ≠ some tunnel := by
  have hmem : device ∈ (state.applied.toList.filter fun entry =>
      entry.2.tunnelId = some tunnel).map Prod.fst ↔
        ∃ rule, state.applied.get device = some rule ∧ rule.tunnelId = some tunnel := by
    simp [HashMap.mem_toList]
  have happlied : (handleTunnelDown state tunnel).applied = (removeAll state
      ((state.applied.toList.filter fun entry =>
        entry.2.tunnelId = some tunnel).map Prod.fst)).applied := by
    unfold handleTunnelDown
    simp only
    split <;> rfl
  simp only [happlied, removeAll_get, hmem]
  cases state.applied.get device with
  | none => simp
  | some rule => by_cases htunnel : rule.tunnelId = some tunnel <;> simp [Option.filter, htunnel]

/-- When a tunnel goes down, its devices and no others lose their entries, and
the kernel is left with the rules of the others and no more. -/
theorem tunnel_down_detaches (policy : Option Uuid) (labels : List Label) (tunnel : Uuid)
    (hdistinct : Meets next DistinctAddresses (State.new policy) labels)
    (hrebinds : Meets next Rebinds (State.new policy) labels)
    (hrun : run next (State.new policy) labels = some state) :
    (∀ device, (handleTunnelDown state tunnel).applied.get device =
      (state.applied.get device).filter fun rule => rule.tunnelId ≠ some tunnel) ∧
    ∀ binding, binding ∈ (handleTunnelDown state tunnel).deviceRules ↔
      ∃ device rule, state.applied.get device = some rule ∧ rule.tunnelId ≠ some tunnel ∧
        rule.deviceIp = binding.1 ∧ rule.table = some binding.2 := by
  refine ⟨handleTunnelDown_get state tunnel, fun binding => ?_⟩
  have hnew : Mirrored (State.new policy) := by
    constructor <;> simp [Mirrors, State.new, Bound]
  have hmirrored : Mirrored state := by
    refine run_invariant_of_meets ?_ hnew (meets_and.mpr ⟨hdistinct, hrebinds⟩) hrun
    intro state label after hmirrored hcond hnext
    cases hnext
    exact hmirrored.handle_label hcond.1 hcond.2
  have hdown : Mirrored (handle state (.handleTunnelDown tunnel)) :=
    hmirrored.handle_label trivial trivial
  have hrules := hdown.mirrors binding
  simpa [Bound, handle, handleTunnelDown_get, and_assoc] using hrules

def oneDevice : List Label := [.applyRule 1 "10.0.0.5".toList (.tunnel 9) healthyEnv]

theorem tunnel_down_detaches_oneDevice :
    ∃ state, run next (State.new none) oneDevice = some state ∧
      state.deviceRules = [("10.0.0.5".toList, 100)] ∧
      ∀ device, (handleTunnelDown state 9).applied.get device =
        (state.applied.get device).filter fun rule => rule.tunnelId ≠ some 9 := by
  have hdistinct : Meets next DistinctAddresses (State.new none) oneDevice := by
    simp [oneDevice, Meets, DistinctAddresses, AddressFree, State.new]
  have hrebinds : Meets next Rebinds (State.new none) oneDevice := by
    simp [oneDevice, Meets, Rebinds]
  exact ⟨_, rfl, by decide +kernel, (tunnel_down_detaches none _ 9 hdistinct hrebinds rfl).1⟩

end Wardnet.Routing
