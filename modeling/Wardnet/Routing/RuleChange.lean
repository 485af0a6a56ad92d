import Wardnet.Routing.Unruled

/-!
# Concurrent rule changes

`set_rule`, `set_rule_for_ip` and `clear_rule` write the rule of a device and
announce it in a later step; the listener applies the target of the
announcement, not the rule that is stored by then.  Two calls on one device may
therefore announce in the other order than they wrote, and a `clear_rule` that
read no rule announces nothing for one that was written in the meantime.
-/

namespace Wardnet.Routing.RuleChange

open Option Transition

inductive Call
  /-- `set_rule` has passed its checks; `upsert_user_rule` is next. -/
  | writing (device : Uuid) (target : RoutingTarget)
  /-- The event is next; publishing it ends the call. -/
  | publishing (device : Uuid) (target : RoutingTarget)
  /-- `clear_rule` has started; `find_rule_for_device` is next. -/
  | reading (device : Uuid)
  /-- Whether there was a rule is known; `delete_rule_for_device` is next. -/
  | deleting (device : Uuid) (previous : Bool)
  /-- A rule was deleted; `get_default_policy` is next. -/
  | defaulting (device : Uuid)
  deriving DecidableEq

/-- The database, the routing service, the published events it has not handled
yet, and the running calls. -/
structure Service where
  store : Store
  routing : State
  queue : List (Uuid × RoutingTarget)
  calls : HashMap ℕ Call
  deriving DecidableEq

inductive Label
  | setRule (call : ℕ) (device : Uuid) (target : RoutingTarget)
  | setRuleForIp (call : ℕ) (ip : Text) (device : Uuid) (target : RoutingTarget)
  | clearRule (call : ℕ) (device : Uuid)
  | step (call : ℕ)
  | handle (env : Uuid → Env)

def Service.begin (service : Service) (call : ℕ) (task : Call) : Option Service :=
  if (service.calls.get call).isSome then none
  else some { service with calls := service.calls.insert call task }

def Service.advance (fromStr : Text → Option RoutingTarget)
    (service : Service) (call : ℕ) : Call → Service
  | .writing device target =>
    { service with
      store := service.store.setRule device (some target)
      calls := service.calls.insert call (.publishing device target) }
  | .publishing device target =>
    { service with
      queue := service.queue ++ [(device, target)]
      calls := service.calls.remove call }
  | .reading device =>
    { service with
      calls := service.calls.insert call (.deleting device (service.store.ruleFor device).isSome) }
  | .deleting device previous =>
    { service with
      store := service.store.setRule device none
      calls :=
        if previous then service.calls.insert call (.defaulting device)
        else service.calls.remove call }
  | .defaulting device =>
    { service with
      calls := service.calls.insert call (.publishing device
        (clearedTarget fromStr service.store.policy)) }

def Service.next (fromStr : Text → Option RoutingTarget)
    (service : Service) : Label → Option Service
  | .setRule call device target =>
    (service.store.findById device).bind fun _ => service.begin call (.writing device target)
  | .setRuleForIp call ip device target =>
    (service.store.findById device).bind fun row =>
      if row.lastIp = ip then service.begin call (.writing device target)
      else none
  | .clearRule call device => service.begin call (.reading device)
  | .step call => (service.calls.get call).map fun task => service.advance fromStr call task
  | .handle env =>
    match service.queue with
    | [] => none
    | (device, target) :: rest =>
      some { service with
        routing := handleEvent service.store env service.routing (.routingRuleChanged device target)
        queue := rest }

/-- The applied target is the resolution of the stored rule. -/
def Service.Converged (service : Service) (device : Uuid) : Prop :=
  effective service.routing device = service.store.resolution device
  deriving Decidable

/-- A target that resolves as the stored rule does. -/
def Service.Agrees (service : Service) (device : Uuid) (target : RoutingTarget) : Prop :=
  resolveTarget (policyTunnel service.store.policy) target = service.store.resolution device
  deriving Decidable

def Call.toAnnounce (fromStr : Text → Option RoutingTarget) (policy : PolicyText) :
    Call → Option (Uuid × RoutingTarget)
  | .publishing device target => some (device, target)
  | .defaulting device => some (device, clearedTarget fromStr policy)
  | .writing .. | .reading _ | .deleting .. => none

/-- Another call than the given one will announce the stored rule of the
device. -/
def Service.AnnouncedLater (fromStr : Text → Option RoutingTarget)
    (service : Service) (call : ℕ) (device : Uuid) : Prop :=
  ∃ entry ∈ service.calls.toList, entry.1 ≠ call ∧
    ∃ announced ∈ entry.2.toAnnounce fromStr service.store.policy,
      announced.1 = device ∧ service.Agrees device announced.2
  deriving Decidable

/-- The condition on the next step of a call: it announces the stored rule, or
leaves that to another call; a rule is deleted under the direct policy only,
and never one that appeared after the call looked. -/
def Service.TaskOrderly (fromStr : Text → Option RoutingTarget)
    (service : Service) (call : ℕ) : Call → Prop
  | .publishing device target => service.Agrees device target ∨
      service.AnnouncedLater fromStr call device
  | .deleting _ true => service.store.policy = directPolicy
  | .deleting device false => service.store.ruleFor device = none
  | .writing .. | .reading _ | .defaulting _ => True

instance (fromStr : Text → Option RoutingTarget) (service : Service) (call : ℕ) (task) :
    Decidable (service.TaskOrderly fromStr call task) := by
  delta Service.TaskOrderly
  split <;> infer_instance

def Service.Orderly (fromStr : Text → Option RoutingTarget) (service : Service) : Label → Prop
  | .step call => ∀ task ∈ service.calls.get call, service.TaskOrderly fromStr call task
  | _ => True

instance (fromStr : Text → Option RoutingTarget) (service : Service) (label) :
    Decidable (service.Orderly fromStr label) := by
  cases label <;> delta Service.Orderly <;> infer_instance

/-! ## What is on its way to the listener -/

/-- The announced targets of a device, in the order of their publication. -/
def announcements (queue : List (Uuid × RoutingTarget)) (device : Uuid) : List RoutingTarget :=
  (queue.filter fun announced => announced.1 = device).map Prod.snd

/-- The applied target of a device is, or will be, that of its stored rule: a
call will announce the rule, or the last announcement is of the rule, or none
is left and the rule is applied. -/
def Service.Tracked (fromStr : Text → Option RoutingTarget)
    (service : Service) (device : Uuid) : Prop :=
  (∃ call task target, service.calls.get call = some task ∧
    task.toAnnounce fromStr service.store.policy = some (device, target) ∧
    service.Agrees device target) ∨
  (∃ target, (announcements service.queue device).getLast? = some target ∧
    service.Agrees device target) ∨
  (announcements service.queue device = [] ∧ service.Converged device)

/-- The facts that every run keeps: the database is valid and has the device,
and the service knows the stored policy. -/
structure Service.Sound (service : Service) (device : Uuid) : Prop where
  valid : service.store.Valid
  row : service.store.findById device ≠ none
  cached : service.routing.defaultPolicy = policyTunnel service.store.policy

variable {fromStr : Text → Option RoutingTarget} {service after : Service}
  {device other : Uuid} {target : RoutingTarget} {call : ℕ}

variable {rule : Option RoutingTarget}

/-- Writing the rule of one device does not change what another resolves
to. -/
theorem resolution_setRule_of_ne {store : Store} (hne : device ≠ other) :
    (store.setRule other rule).resolution device = store.resolution device := by
  unfold Store.resolution
  rw [ruleFor_setRule, if_neg hne]
  rfl

theorem resolution_setRule {store : Store} (hrow : store.findById device ≠ none) :
    (store.setRule device rule).resolution device =
      resolveTarget (policyTunnel store.policy) (rule.getD .default) := by
  obtain ⟨row, hrow⟩ := ne_none_iff_exists'.mp hrow
  unfold Store.resolution
  rw [ruleFor_setRule, if_pos rfl, hrow]
  rfl

variable {env : Uuid → Env}

theorem effective_handle (hsound : service.Sound device) (hhealthy : (env device).Healthy) :
    effective (handleEvent service.store env service.routing
        (.routingRuleChanged device target)) device =
      resolveTarget (policyTunnel service.store.policy) target := by
  obtain ⟨row, hrow⟩ := ne_none_iff_exists'.mp hsound.row
  have hassigned : assigned service.store service.routing device
      (.routingRuleChanged device target) = some (row.lastIp, target) := by
    simp [assigned, hrow]
  obtain ⟨rule, houtcome, hget⟩ := handleEvent_of_assigned hsound.valid.ids hassigned
  rw [effective, hget]
  simp only [policyAfter, hsound.cached] at houtcome
  cases houtcome with
  | kept rule hrule htarget hip => exact htarget
  | bound tunnel table dnsUpstream hresolved => exact hresolved.symm
  | direct hdirect => exact (hdirect.resolve_right fun hnot => hnot hhealthy).symm

/-! ## Steps -/

variable {task : Call}

section

variable (hsound : service.Sound device)
include hsound

theorem Service.Sound.setRule {calls : HashMap ℕ Call} : Service.Sound
      { service with
        store := service.store.setRule other rule
        calls := calls } device := by
  refine ⟨hsound.valid.setRule, ?_, hsound.cached⟩
  simp only [findById_setRule]
  split
  next heq =>
    rw [ne_eq, map_eq_none_iff, ← heq]
    exact hsound.row
  · exact hsound.row

theorem Service.Sound.advance (task : Call) : (service.advance fromStr call task).Sound device := by
  cases task with
  | writing | deleting => exact hsound.setRule
  | publishing | reading | defaulting => exact ⟨hsound.valid, hsound.row, hsound.cached⟩

theorem Service.Sound.begin (hbegin : service.begin call task = some after) :
    after.Sound device := by
  unfold Service.begin at hbegin
  split at hbegin
  · cases hbegin
  · cases hbegin
    exact ⟨hsound.valid, hsound.row, hsound.cached⟩

end

/-- A call that has nothing to announce for the device starts, goes on or
returns. -/
theorem calls_kept {calls later : HashMap ℕ Call} {policy : PolicyText}
    (hsilent : ∀ task ∈ calls.get call, ∀ target,
      task.toAnnounce fromStr policy ≠ some (device, target))
    (hlater : (∃ next, later = calls.insert call next) ∨ later = calls.remove call) (found : ℕ)
    (task : Call) (target : RoutingTarget) (hfound : calls.get found = some task)
    (hannounce : task.toAnnounce fromStr policy = some (device, target)) :
    ∃ kept, later.get found = some kept ∧
      kept.toAnnounce fromStr policy = some (device, target) := by
  have hne : found ≠ call := by
    rintro rfl
    exact hsilent task hfound target hannounce
  refine ⟨task, ?_, hannounce⟩
  obtain ⟨next, rfl⟩ | rfl := hlater <;> simp [hne, hfound]

/-- The listener handles events with every kernel operation succeeding. -/
def Label.Healthy : Label → Prop
  | .handle env => ∀ device, (env device).Healthy
  | _ => True

section

variable (htracked : service.Tracked fromStr device)
include htracked

theorem Service.Tracked.frame (hpolicy : after.store.policy = service.store.policy)
    (hresolution : after.store.resolution device = service.store.resolution device)
    (heffective : effective after.routing device = effective service.routing device)
    (hqueue : announcements after.queue device = announcements service.queue device)
    (hcalls : ∀ call task target, service.calls.get call = some task →
      task.toAnnounce fromStr service.store.policy = some (device, target) →
      ∃ kept, after.calls.get call = some kept ∧
        kept.toAnnounce fromStr service.store.policy = some (device, target)) :
    after.Tracked fromStr device := by
  unfold Service.Tracked Service.Converged Service.Agrees
  rw [hpolicy, hresolution, heffective, hqueue]
  apply htracked.imp_left
  rintro ⟨call, task, target, hcall, hannounce, hagrees⟩
  obtain ⟨kept, hkept, hsame⟩ := hcalls call task target hcall hannounce
  exact ⟨call, kept, target, hkept, hsame, hagrees⟩

theorem Service.Tracked.begin (hbegin : service.begin call task = some after) :
    after.Tracked fromStr device := by
  unfold Service.begin at hbegin
  split at hbegin
  · cases hbegin
  rename_i hidle
  cases hbegin
  exact htracked.frame rfl rfl rfl rfl (calls_kept (by simp_all) (.inl ⟨_, rfl⟩))

theorem Service.Tracked.publishing
    (htask : service.calls.get call = some (.publishing other target))
    (horderly : service.TaskOrderly fromStr call (.publishing other target)) :
    (service.advance fromStr call (.publishing other target)).Tracked fromStr device := by
  by_cases heq : device = other
  · subst heq
    rcases horderly with hagrees | ⟨entry, hentry, hne, announced, hlater⟩
    · refine .inr (.inl ⟨target, ?_, hagrees⟩)
      simp [Service.advance, announcements]
    · obtain ⟨hannounce, hdevice, hagrees⟩ := hlater
      refine .inl ⟨entry.1, entry.2, announced.2, ?_, ?_, hagrees⟩
      · simp only [Service.advance, HashMap.get_remove, if_neg hne]
        exact HashMap.mem_toList.mp hentry
      · rw [← hdevice]
        exact hannounce
  · have hne : other ≠ device := fun h => heq h.symm
    refine htracked.frame rfl rfl rfl ?_ (calls_kept ?_ (.inr rfl))
    · simp [Service.advance, announcements, hne]
    · simp [htask, Call.toAnnounce, hne]

variable (hsound : service.Sound device)
include hsound

theorem Service.Tracked.writing (htask : service.calls.get call = some (.writing other target)) :
    (service.advance fromStr call (.writing other target)).Tracked fromStr device := by
  by_cases heq : device = other
  · subst heq
    refine .inl ⟨call, .publishing device target, target, ?_, rfl, ?_⟩
    · simp [Service.advance]
    · have hresolution : (service.store.setRule device (some target)).resolution device = _ :=
        resolution_setRule hsound.row
      exact hresolution.symm
  · exact htracked.frame rfl (resolution_setRule_of_ne heq) rfl rfl
      (calls_kept (by simp [htask, Call.toAnnounce]) (.inl ⟨_, rfl⟩))

theorem Service.Tracked.handle {rest : List (Uuid × RoutingTarget)}
    (hqueue : service.queue = (other, target) :: rest) (hhealthy : ∀ device, (env device).Healthy) :
    Service.Tracked fromStr
      { service with
        routing := handleEvent service.store env service.routing (.routingRuleChanged other target)
        queue := rest } device := by
  by_cases heq : device = other
  · subst heq
    have hannounced : announcements service.queue device = target :: announcements rest device := by
      simp [hqueue, announcements]
    rcases htracked with hcall | ⟨last, hlast, hagrees⟩ | ⟨hempty, -⟩
    · exact .inl hcall
    · rw [hannounced] at hlast
      right
      cases hrest : announcements rest device with
      | nil =>
        rw [hrest] at hlast
        cases hlast
        refine .inr ⟨rfl, ?_⟩
        exact (effective_handle hsound (hhealthy device)).trans hagrees
      | cons next later =>
        rw [hrest, List.getLast?_cons_cons] at hlast
        exact .inl ⟨last, hlast, hagrees⟩
    · rw [hannounced] at hempty
      cases hempty
  · have hne : other ≠ device := fun h => heq h.symm
    have hkept : effective (handleEvent service.store env service.routing
        (.routingRuleChanged other target)) device = effective service.routing device := by
      simp only [effective, handleEvent, applyRuleForDevice]
      split
      · rw [applyRule_get_of_ne heq]
      · rfl
    refine htracked.frame rfl rfl hkept ?_ ?_
    · simp [hqueue, announcements, hne]
    · intro found kept announced hfound hannounce
      exact ⟨kept, hfound, hannounce⟩

variable (hfromStr : ∀ raw target, fromStr raw = some target → looksLikeTarget raw = true)
include hfromStr

/-- A deleted rule is announced by the call, or was not there. -/
theorem Service.Tracked.deleting {previous : Bool}
    (htask : service.calls.get call = some (.deleting other previous))
    (horderly : service.TaskOrderly fromStr call (.deleting other previous)) :
    (service.advance fromStr call (.deleting other previous)).Tracked fromStr device := by
  cases previous with
  | true =>
    by_cases heq : device = other
    · subst heq
      refine .inl ⟨call, .defaulting device, _, ?_, rfl, ?_⟩
      · simp [Service.advance]
      · have hpolicy : service.store.policy = directPolicy := horderly
        have hcleared : clearedTarget fromStr service.store.policy = .direct :=
          clearedTarget_eq_direct hfromStr hsound.valid.policy
        unfold Service.Agrees
        simp only [Service.advance]
        rw [resolution_setRule hsound.row]
        rw [hpolicy] at hcleared
        simp only [Store.setRule, hpolicy, hcleared]
        rfl
    · exact htracked.frame rfl (resolution_setRule_of_ne heq) rfl rfl
        (calls_kept (by simp [htask, Call.toAnnounce]) (.inl ⟨_, rfl⟩))
  | false =>
    have hnone : service.store.ruleFor other = none := horderly
    refine htracked.frame rfl ?_ rfl rfl
      (calls_kept (by simp [htask, Call.toAnnounce]) (.inr rfl))
    by_cases heq : device = other
    · subst heq
      simp only [Service.advance]
      rw [resolution_setRule hsound.row, Store.resolution, hnone]
    · exact resolution_setRule_of_ne heq

theorem Service.Tracked.advance (htask : service.calls.get call = some task)
    (horderly : service.TaskOrderly fromStr call task) :
    (service.advance fromStr call task).Tracked fromStr device := by
  cases task with
  | writing other target => exact htracked.writing hsound htask
  | publishing other target => exact htracked.publishing htask horderly
  | reading other =>
    exact htracked.frame rfl rfl rfl rfl
      (calls_kept (by simp [htask, Call.toAnnounce]) (.inl ⟨_, rfl⟩))
  | deleting other previous => exact htracked.deleting hsound hfromStr htask horderly
  | defaulting other =>
    refine htracked.frame rfl rfl rfl rfl ?_
    intro found kept announced hfound hannounce
    by_cases heq : found = call
    · subst heq
      cases htask.symm.trans hfound
      refine ⟨.publishing other (clearedTarget fromStr service.store.policy), ?_, hannounce⟩
      simp [Service.advance]
    · exact ⟨kept, by simp [Service.advance, heq, hfound], hannounce⟩

theorem Service.Tracked.next {label : Label} (horderly : service.Orderly fromStr label)
    (hhealthy : label.Healthy) (hnext : service.next fromStr label = some after) :
    after.Sound device ∧ after.Tracked fromStr device := by
  cases label with
  | setRule call changed target =>
    obtain ⟨row, -, hbegin⟩ := bind_eq_some_iff.mp hnext
    exact ⟨hsound.begin hbegin, htracked.begin hbegin⟩
  | setRuleForIp call ip changed target =>
    obtain ⟨row, -, hbegin⟩ := bind_eq_some_iff.mp hnext
    split at hbegin
    · exact ⟨hsound.begin hbegin, htracked.begin hbegin⟩
    · cases hbegin
  | clearRule call changed => exact ⟨hsound.begin hnext, htracked.begin hnext⟩
  | step call =>
    obtain ⟨task, htask, rfl⟩ := map_eq_some_iff.mp hnext
    exact ⟨hsound.advance task, htracked.advance hsound hfromStr htask (horderly task htask)⟩
  | handle env =>
    simp only [Service.next] at hnext
    split at hnext
    · cases hnext
    next other target rest hqueue =>
      cases hnext
      refine ⟨⟨hsound.valid, hsound.row, ?_⟩, htracked.handle hsound hqueue hhealthy⟩
      exact (handleEvent_defaultPolicy _).trans hsound.cached

end

structure Service.Idle (service : Service) : Prop where
  calls : service.calls = .empty
  queue : service.queue = []

/-- However the calls interleave, once they have all returned and every event
is handled, a device whose rule was applied before has its stored rule applied,
provided that each call announces the stored rule or leaves that to a call that
is still to announce, that rules are cleared under the direct policy only, and
that no call deletes a rule that appeared after it looked. -/
theorem bindings_converge (fromStr : Text → Option RoutingTarget)
    (hfromStr : ∀ raw target, fromStr raw = some target → looksLikeTarget raw = true)
    (start : Service) (hidle : start.Idle) (device : Uuid)
    (hsound : start.Sound device) (hconverged : start.Converged device)
    (labels : List Label) (hhealthy : ∀ label ∈ labels, label.Healthy) (final : Service)
    (hmeets : Meets (Service.next fromStr) (Service.Orderly fromStr) start labels)
    (hrun : run (Service.next fromStr) start labels = some final)
    (hdone : final.Idle) : final.Converged device := by
  have hboth := meets_and.mpr ⟨hmeets, meets_of_forall hhealthy start⟩
  have hstart : start.Sound device ∧ start.Tracked fromStr device := by
    refine ⟨hsound, .inr (.inr ⟨?_, hconverged⟩)⟩
    rw [hidle.queue]
    rfl
  have hkept := run_invariant_of_meets (fun (service : Service) _ _
      (hbefore : service.Sound device ∧ service.Tracked fromStr device) hcond =>
    hbefore.2.next hbefore.1 hfromStr hcond.1 hcond.2) hstart hboth hrun
  rcases hkept.2 with ⟨call, task, target, hcall, -⟩ | ⟨target, hlast, -⟩ | ⟨-, hfinal⟩
  · rw [hdone.calls] at hcall
    simp at hcall
  · rw [hdone.queue] at hlast
    cases hlast
  · exact hfinal

def oneDevice : Service where
  store := ⟨[⟨1, "10.0.0.5".toList, none⟩], directPolicy⟩
  routing := .new none
  queue := []
  calls := .empty

def crossed : List Label :=
  [.setRule 0 1 (.tunnel 9), .setRule 1 1 .direct, .step 0, .step 1, .step 1,
    .step 0, .handle allHealthy, .handle allHealthy]

/-- A call that read no rule deletes the one that another has announced. -/
def deletedUnseen : List Label :=
  [.clearRule 0 1, .step 0, .setRule 1 1 (.tunnel 9), .step 1, .step 1, .step 0, .handle allHealthy]

/-- In both cases the device stays bound to the tunnel, although its rule is
direct or gone. -/
theorem applied_target_differs_from_rule :
    (∃ final, run (Service.next fun _ => none) oneDevice crossed =
        some final ∧ final.calls = .empty ∧ final.queue = [] ∧
      final.store.ruleFor 1 = some .direct ∧
      effective final.routing 1 = .tunnel 9 ∧ ¬ final.Converged 1) ∧
    ∃ final, run (Service.next fun _ => none) oneDevice deletedUnseen =
        some final ∧ final.calls = .empty ∧ final.queue = [] ∧ final.store.ruleFor 1 = none ∧
      effective final.routing 1 = .tunnel 9 ∧ ¬ final.Converged 1 := by
  refine ⟨⟨_, rfl, ?_⟩, ⟨_, rfl, ?_⟩⟩
  · decide +kernel
  · decide +kernel

theorem healthyEnv_healthy : healthyEnv.Healthy where
  interface := by decide
  routeTable := fun _ => rfl
  masquerade := rfl
  ipRule := rfl

def inOrder : List Label :=
  [.setRule 0 1 (.tunnel 9), .setRuleForIp 1 "10.0.0.5".toList 1 .direct,
    .step 0, .step 1, .step 0, .step 1, .handle allHealthy,
    .handle allHealthy]

theorem inOrder_healthy : ∀ label ∈ inOrder, label.Healthy := by
  simp [inOrder, Label.Healthy, allHealthy, healthyEnv_healthy]

theorem bindings_converge_inOrder : ∃ final, run (Service.next fun _ => none) oneDevice inOrder =
      some final ∧ final.Converged 1 := by
  refine ⟨_, rfl, ?_⟩
  exact bindings_converge (fun _ => none) nofun oneDevice ⟨rfl, rfl⟩ 1
    ⟨⟨by decide, by decide⟩, by decide, rfl⟩ (by decide) inOrder
    inOrder_healthy _ (by decide +kernel) rfl ⟨rfl, rfl⟩

end Wardnet.Routing.RuleChange
