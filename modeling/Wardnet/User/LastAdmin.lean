import Wardnet.User.Service

/-!
# The last admin

A household is locked out when no enabled admin has a password.  A call that
disables, demotes or deletes a user is guarded by a count of the enabled
admins, taken in an earlier statement than the write.  The guard is enough
when such calls do not overlap and the accounts it counts can sign in; two of
them side by side each count the other's target, and an account that was never
enrolled is counted like any other.
-/

namespace Wardnet.User

open Keyed Prod Tables Transition

namespace Tables

def EnabledAdmin (tables : Tables) (id : Uuid) : Prop :=
  ∃ user ∈ tables.users.find id, user.role = .admin ∧ user.enabled = true
  deriving Decidable

def HasPassword (tables : Tables) (id : Uuid) : Prop :=
  ∃ credential ∈ tables.credentials.rows, credential.userId = id ∧ credential.kind = .password
  deriving Decidable

/-- The user is an enabled admin who has a password. -/
def CanAdminister (tables : Tables) (id : Uuid) : Prop :=
  tables.EnabledAdmin id ∧ tables.HasPassword id
  deriving Decidable

/-- Somebody can still administer the household. -/
def HasAdmin (tables : Tables) : Prop := ∃ user ∈ tables.users.rows, tables.CanAdminister user.id
  deriving Decidable

/-- Somebody other than `target` can. -/
def HasAdminBeside (tables : Tables) (target : Uuid) : Prop :=
  ∃ user ∈ tables.users.rows, user.id ≠ target ∧ tables.CanAdminister user.id
  deriving Decidable

variable {tables after : Tables} {id target : Uuid}

theorem CanAdminister.mem (hadmin : tables.CanAdminister id) :
    ∃ user ∈ tables.users.rows, user.id = id := by
  obtain ⟨⟨user, hfind, -⟩, -⟩ := hadmin
  exact ⟨user, find_eq_some.mp hfind⟩

theorem hasAdmin_iff : tables.HasAdmin ↔ ∃ id, tables.CanAdminister id := by
  constructor
  · exact fun ⟨user, _, hadmin⟩ => ⟨user.id, hadmin⟩
  · rintro ⟨id, hadmin⟩
    obtain ⟨user, hmem, rfl⟩ := hadmin.mem
    exact ⟨user, hmem, hadmin⟩

theorem hasAdminBeside_iff :
    tables.HasAdminBeside target ↔ ∃ id, id ≠ target ∧ tables.CanAdminister id := by
  constructor
  · exact fun ⟨user, _, hne, hadmin⟩ => ⟨user.id, hne, hadmin⟩
  · rintro ⟨id, hne, hadmin⟩
    obtain ⟨user, hmem, rfl⟩ := hadmin.mem
    exact ⟨user, hmem, hne, hadmin⟩

/-! ## What a statement takes away -/

theorem enabledAdmin_update {change : UserRow → UserRow} {hkey : ∀ row, (change row).id = row.id}
    (hkeeps : id = target → ∀ user, user.role = .admin ∧ user.enabled = true →
      (change user).role = .admin ∧ (change user).enabled = true)
    (hadmin : tables.EnabledAdmin id) :
    { tables with users := tables.users.update target change hkey }.EnabledAdmin id := by
  obtain ⟨user, hfind, huser⟩ := hadmin
  by_cases hid : id = target
  · subst hid
    exact ⟨change user, by simp [Option.mem_def.mp hfind], hkeeps rfl user huser⟩
  · exact ⟨user, by simpa [hid] using hfind, huser⟩

end Tables

/-- The user whose access a statement may take away. -/
def Op.removes : Op → Option Uuid
  | .setEnabled id false _ => some id
  | .setRole id .member _ => some id
  | .delete id => some id
  | _ => none

variable {after tables : Tables}

theorem committed_cases {written : Except DbError Tables} {answer : Except DbError Unit}
    (hcommitted : committed tables written = (answer, after)) :
    after = tables ∨ written = .ok after := by
  cases written with
  | ok value => exact .inr (congrArg Except.ok (mk.inj hcommitted).2)
  | error error => exact .inl (mk.inj hcommitted).2.symm

variable {op : Op} {fault : Bool} {answer : Answer op}

/-- A statement takes access away from nobody but the user it names. -/
theorem exec_canAdminister {id : Uuid} (hexec : exec fault op tables = some (answer, after))
    (hremoves : op.removes ≠ some id) (hadmin : tables.CanAdminister id) :
    after.CanAdminister id := by
  unfold exec at hexec
  split at hexec
  · rwa [← (mk.inj (Option.some.inj hexec)).2]
  cases op with
  | findById _ | countEnabledAdmins | deleteAllForUser _ | findPassword _
  | findRedeemable _ _ | markUsed _ _ =>
    rw [← (mk.inj (Option.some.inj hexec)).2]
    exact hadmin
  | create row =>
    rcases committed_cases (Option.some.inj hexec) with rfl | hcreate
    · exact hadmin
    · obtain ⟨users, hinsert, rfl⟩ := create_eq_ok hcreate
      obtain ⟨⟨user, hfind, huser⟩, hpassword⟩ := hadmin
      have hne : id ≠ row.id := by
        rintro rfl
        rw [find_of_insert hinsert] at hfind
        cases hfind
      refine ⟨⟨user, ?_, huser⟩, hpassword⟩
      rwa [Option.mem_def, find_insert hinsert, if_neg hne]
  | setEnabled target enabled now =>
    rw [← (mk.inj (Option.some.inj hexec)).2]
    refine ⟨enabledAdmin_update (fun heq user huser => ?_) hadmin.1, hadmin.2⟩
    cases enabled with
    | true => exact ⟨huser.1, rfl⟩
    | false => exact absurd (congrArg some heq.symm) hremoves
  | setRole target role now =>
    rw [← (mk.inj (Option.some.inj hexec)).2]
    refine ⟨enabledAdmin_update (fun heq user huser => ?_) hadmin.1, hadmin.2⟩
    cases role with
    | admin => exact ⟨rfl, huser.2⟩
    | member => exact absurd (congrArg some heq.symm) hremoves
  | delete target =>
    rw [← (mk.inj (Option.some.inj hexec)).2]
    have hid : id ≠ target := fun heq => hremoves (congrArg some heq.symm)
    obtain ⟨⟨user, hfind, huser⟩, credential, hmem, hcredential⟩ := hadmin
    have huserId : user.id = id := (find_eq_some.mp hfind).2
    refine ⟨⟨user, ?_, huser⟩, credential, ?_, hcredential⟩
    · simp [delete, Option.mem_def.mp hfind, huserId, hid]
    · simp [delete, deleteWhere, hmem, hcredential.1, hid]
  | createEnrolment row =>
    rcases committed_cases (Option.some.inj hexec) with rfl | hcreate
    · exact hadmin
    unfold createEnrolment at hcreate
    split at hcreate
    · cases hcreate
    · obtain ⟨enrolments, -, hafter⟩ := bind_eq_ok.mp hcreate
      exact pure_eq_ok.mp hafter ▸ hadmin
  | setPassword credentialId target subject secret now =>
    rcases committed_cases (Option.some.inj hexec) with rfl | hset
    · exact hadmin
    obtain ⟨henabled, credential, hmem, hcredential⟩ := hadmin
    rcases setPassword_eq_ok hset with ⟨credentials, row, hinsert, rfl⟩ | rfl
    · refine ⟨henabled, credential, ?_, hcredential⟩
      rw [rows_insert hinsert]
      exact List.mem_append_left _ hmem
    · refine ⟨henabled, _, List.mem_map_of_mem hmem, ?_⟩
      split <;> exact hcredential

/-! ## What a call relies on -/

/-- The user whose access a call may take away. -/
def Request.removes : Request → Option Uuid
  | .setEnabled _ id false _ => some id
  | .setRole _ id .member _ => some id
  | .deleteUser _ id => some id
  | _ => none

/-- Nobody but `except` loses access. -/
def Keeps (except : Option Uuid) (before after : Tables) : Prop :=
  ∀ id, except ≠ some id → before.CanAdminister id → after.CanAdminister id

/-- A call that removes relies on the others to remove nobody, and may count
admins only when one of several can sign in beside its target. -/
def Request.contractTo {Result : Type} (request : Request)
    (post : Except AppError Result → Tables → Prop) : Contract Bool Op Tables AppError Result where
  rely before after := request.removes ≠ none → Keeps none before after
  guarantee before after := Keeps request.removes before after ∧ (before.HasAdmin → after.HasAdmin)
  admits _ op tables :=
    ∀ target, request.removes = some target → op = .countEnabledAdmins →
      1 < tables.countEnabledAdmins → tables.HasAdminBeside target
  post := post

def Request.contract (request : Request) : Contract Bool Op Tables AppError Response :=
  request.contractTo fun _ _ => True

/-- Two calls of which at most one removes. -/
def Request.Compatible (left right : Request) : Prop := left.removes = none ∨ right.removes = none
  deriving Decidable

variable {before : Tables}

theorem Keeps.hasAdmin (hkeeps : Keeps none before after) (hadmin : before.HasAdmin) :
    after.HasAdmin := by
  obtain ⟨id, hid⟩ := hasAdmin_iff.mp hadmin
  exact hasAdmin_iff.mpr ⟨id, hkeeps id (by simp) hid⟩

/-- A statement that removes nobody keeps any call's guarantee. -/
theorem guarantee_of_removes_none (request : Request) (hop : op.removes = none)
    (hexec : exec fault op before = some (answer, after)) :
    request.contract.guarantee before after := by
  have hkeeps : ∀ except, Keeps except before after := fun _ id _ hadmin =>
    exec_canAdminister hexec (by simp [hop]) hadmin
  exact ⟨hkeeps _, (hkeeps none).hasAdmin⟩

variable {request : Request}

/-! ## The programs keep their contracts -/

/-- No statement of the program removes anybody. -/
abbrev Harmless {Result : Type} (action : Action Result) : Prop :=
  action.Performs fun op => op.removes = none

theorem Harmless.fulfils {action : Action Response} (hharmless : Harmless action)
    (tables : Tables) : action.Fulfils exec request.contract tables :=
  Program.Fulfils.of_performs (fun _ => True) (fun _ _ _ _ => trivial)
    (fun _ hop _ _ _ _ _ hexec => ⟨guarantee_of_removes_none request hop hexec, trivial⟩)
    (fun _ _ _ => trivial) hharmless trivial

theorem harmless_statement (hop : op.removes = none) : Harmless (statement op) :=
  ⟨hop, fun _ => trivial⟩

theorem harmless_query (hop : op.removes = none) : Harmless (query op) := by
  refine ⟨hop, fun answer => ?_⟩
  cases answer <;> trivial

theorem harmless_load (id : Uuid) : Harmless (load id) := by
  apply Program.Performs.bind (harmless_query rfl)
  intro found
  cases found <;> trivial

variable {printId : Uuid → Text}

/-- The calls that remove nobody. -/
theorem Request.harmless_program {hashing : Hashing}
    (hrequest : request.removes = none) : Harmless (request.program hashing printId) := by
  cases request with
  | setEnabled caller userId enabled now =>
    cases enabled with
    | false => cases hrequest
    | true =>
      refine .bind (.bind trivial fun _ => ?_) fun _ => trivial
      refine .bind (harmless_load userId) fun _ => ?_
      exact .bind (harmless_query rfl) fun _ => harmless_load userId
  | setRole caller userId role now =>
    cases role with
    | member => cases hrequest
    | admin =>
      refine .bind (.bind trivial fun _ => ?_) fun _ => trivial
      refine .bind (harmless_load userId) fun _ => ?_
      exact .bind (harmless_query rfl) fun _ => harmless_load userId
  | deleteUser caller userId => cases hrequest
  | createUser caller newUser id now =>
    refine .bind (.bind trivial fun _ => ?_) fun _ => trivial
    refine .bind trivial fun _ => .bind trivial fun email => ?_
    refine .bind (harmless_statement rfl) fun answer => ?_
    split <;> trivial
  | issueEnrolment caller userId id token now =>
    refine .bind (.bind trivial fun _ => ?_) fun _ => trivial
    refine .bind (harmless_load userId) fun target => ?_
    split
    · trivial
    · refine .bind (harmless_query rfl) fun found => ?_
      split
      · trivial
      · exact .bind (harmless_query rfl) fun _ => trivial
  | redeemEnrolment token password salt credentialId now =>
    refine .bind (.bind trivial fun _ => ?_) fun _ => trivial
    refine .bind (harmless_query rfl) fun found => ?_
    split
    · trivial
    · refine .bind (harmless_load _) fun user => ?_
      split
      · trivial
      · refine .bind (harmless_query rfl) fun found => ?_
        split
        · trivial
        · refine .bind trivial fun secret => ?_
          refine .bind (harmless_query rfl) fun claimed => ?_
          split
          · trivial
          · refine .bind (harmless_statement rfl) fun answer => ?_
            split <;> trivial

/-- What is known after the part of a call: `known` of its result, unless the
call is over with an error. -/
def unlessError {Result : Type} (known : Result → Tables → Prop) :
    Except AppError Result → Tables → Prop
  | .ok result, tables => known result tables
  | .error _, _ => True

section Removal

variable {request : Request} {target : Uuid} {tables : Tables}

/-- A statement whose answer is used only when it succeeds. -/
theorem fulfils_query {op : Op} (known : Rows op → Tables → Prop) (hop : op.removes = none)
    (hknown : ∀ before rows after, request.contract.rely tables before →
      request.contract.admits false op before →
        exec false op before = some (.ok rows, after) → known rows after) :
    (query op).Fulfils exec (request.contractTo (unlessError known)) tables := by
  intro before hrely fault hadmits answer after hexec
  refine ⟨guarantee_of_removes_none request hop hexec, ?_⟩
  cases answer with
  | ok rows =>
    cases fault with
    | false => exact hknown before rows after hrely hadmits hexec
    | true => simp [exec] at hexec
  | error error => trivial

section

variable (hrequest : request.removes = some target)
include hrequest

/-- A loaded target that is not an enabled admin is not the one who can sign
in. -/
theorem fulfils_load (hadmin : tables.HasAdmin) :
    (load target).Fulfils exec (request.contractTo (unlessError
      fun found after => (found.role = .admin ∧ found.enabled = true) ∨
        after.HasAdminBeside target)) tables := by
  refine Program.Fulfils.bind _ (fulfils_query (fun found after =>
    ∀ user ∈ found, (user.role = .admin ∧ user.enabled = true) ∨
      after.HasAdminBeside target) rfl ?_) ?_ ?_
  · rintro before found after hrely - hexec user huser
    obtain ⟨rfl, rfl⟩ : before.users.find target = found ∧ before = after := by
      simpa [exec] using hexec
    have hbefore : before.HasAdmin := (hrely (by simp [hrequest])).hasAdmin hadmin
    obtain ⟨id, hid⟩ := hasAdmin_iff.mp hbefore
    by_cases hne : id = target
    · subst hne
      obtain ⟨⟨other, hother, hrole, henabled⟩, -⟩ := hid
      obtain rfl := Option.mem_unique huser hother
      exact .inl ⟨hrole, henabled⟩
    · exact .inr (hasAdminBeside_iff.mpr ⟨id, hne, hid⟩)
  · intro found after hfound
    cases found with
    | none => trivial
    | some user => exact hfound user rfl
  · intros
    trivial

theorem fulfils_guardLastAdmin {found : UserRow} {action : String}
    (hfound : (found.role = .admin ∧ found.enabled = true) ∨ tables.HasAdminBeside target) :
    (guardLastAdmin found action).Fulfils exec (request.contractTo (unlessError
      fun _ after => after.HasAdminBeside target)) tables := by
  unfold guardLastAdmin
  split
  next hnot =>
    refine hfound.resolve_left fun hboth => ?_
    simp [hboth.1, hboth.2] at hnot
  · refine Program.Fulfils.bind _ (fulfils_query (fun count after =>
      1 < count → after.HasAdminBeside target) rfl ?_) ?_ ?_
    · rintro before count after - hadmits hexec hcount
      obtain ⟨rfl, rfl⟩ : before.countEnabledAdmins = count ∧ before = after := by
        simpa [exec] using hexec
      exact hadmits target hrequest rfl hcount
    · intro count after hcount
      split
      · trivial
      next hmany =>
        exact hcount (Nat.lt_of_not_le hmany)
    · intros
      trivial

/-- The shape of the calls that remove: load, guard, write, and then nothing
that removes. -/
theorem fulfils_removal {caller : AuthContext} {action : String} {write : Op}
    {rest : Rows write → Action Response}
    (hwrite : write.removes = some target)
    (hrest : ∀ rows, Harmless (rest rows)) (hadmin : tables.HasAdmin) :
    Program.Fulfils exec request.contract (do
      Program.ofExcept (requireAdmin caller)
      let found ← load target
      guardLastAdmin found action
      let rows ← query write
      rest rows) tables := by
  refine Program.Fulfils.bind (unlessError fun _ after => after.HasAdmin) ?_ ?_ fun _ _ _ => trivial
  · cases hcaller : requireAdmin caller with
    | ok value => exact hadmin
    | error error => trivial
  intro _ loaded hloaded
  refine Program.Fulfils.bind _ (fulfils_load hrequest hloaded) ?_ fun _ _ _ => trivial
  intro found guarded hguarded
  refine Program.Fulfils.bind _ (fulfils_guardLastAdmin hrequest hguarded) ?_ fun _ _ _ => trivial
  intro _ written hwritten before hrely fault _ answer after hexec
  have hbeside : before.HasAdminBeside target := by
    obtain ⟨id, hne, hid⟩ := hasAdminBeside_iff.mp hwritten
    exact hasAdminBeside_iff.mpr ⟨id, hne, hrely (by simp [hrequest]) id (by simp) hid⟩
  refine ⟨⟨fun id hid => exec_canAdminister hexec (by rwa [hwrite, ← hrequest]), fun _ => ?_⟩, ?_⟩
  · obtain ⟨id, hne, hbefore⟩ := hasAdminBeside_iff.mp hbeside
    refine hasAdmin_iff.mpr ⟨id, exec_canAdminister hexec ?_ hbefore⟩
    rw [hwrite]
    exact fun heq => hne (Option.some.inj heq).symm
  cases answer with
  | ok rows => exact (hrest rows).fulfils after
  | error error => trivial

end

end Removal

/-- Every call keeps its contract from a state in which somebody can
administer the household. -/
theorem Request.fulfils_program {hashing : Hashing} (request : Request) (hadmin : tables.HasAdmin) :
    (request.program hashing printId).Fulfils exec request.contract tables := by
  cases hremoves : request.removes with
  | none => exact (request.harmless_program hremoves).fulfils tables
  | some target =>
    cases request with
    | setEnabled caller userId enabled now =>
      cases enabled with
      | true => cases hremoves
      | false =>
        simp only [Request.program, User.setEnabled, bind_assoc, Bool.false_eq_true, if_false]
        obtain rfl := Option.some.inj hremoves
        refine fulfils_removal hremoves rfl (fun _ => ?_) hadmin
        refine .bind (harmless_query rfl) fun _ => ?_
        exact .bind (harmless_load userId) fun _ => trivial
    | setRole caller userId role now =>
      cases role with
      | admin => cases hremoves
      | member =>
        simp only [Request.program, User.setRole, bind_assoc, reduceCtorEq, if_false]
        obtain rfl := Option.some.inj hremoves
        refine fulfils_removal hremoves rfl (fun _ => ?_) hadmin
        exact .bind (harmless_load userId) fun _ => trivial
    | deleteUser caller userId =>
      simp only [Request.program, User.deleteUser, bind_assoc]
      obtain rfl := Option.some.inj hremoves
      exact fulfils_removal hremoves rfl (fun _ => trivial) hadmin
    | createUser | issueEnrolment | redeemEnrolment => cases hremoves

/-! ## Runs -/

variable (hashing : Hashing) (printId : Uuid → Text)

/-- The target of a removing call that is about to count the admins. -/
def Household.counting (household : Household) (call : ℕ) : Option Uuid :=
  match household.calls.get call with
  | some (request, .call .countEnabledAdmins _) => request.removes
  | _ => none

/-- A removing call comes in only while no other is in progress, and when one
counts several enabled admins, somebody beside its target can sign in. -/
def Household.Guarded (household : Household) : Label → Prop
  | .start _ request => ∀ other ∈ household.requests, request.Compatible other
  | .step call _ =>
    ∀ target ∈ household.counting call,
      1 < household.store.countEnabledAdmins → household.store.HasAdminBeside target

instance (household : Household) (label : Label) : Decidable (household.Guarded label) := by
  cases label <;> delta Household.Guarded <;> infer_instance

structure Household.Safe (household : Household) : Prop where
  sound : household.Sound exec Request.contract
  compatible : household.Compatible Request.Compatible
  hasAdmin : household.store.HasAdmin

theorem Request.Compatible.symm {left right : Request}
    (hcompatible : left.Compatible right) : right.Compatible left :=
  Or.symm hcompatible

theorem rely_refl (request : Request) (tables : Tables) : request.contract.rely tables tables :=
  fun _ _ _ => id

theorem rely_trans (request : Request) (first second third : Tables)
    (hfirst : request.contract.rely first second) (hsecond : request.contract.rely second third) :
    request.contract.rely first third :=
  fun hremoves id hid hadmin => hsecond hremoves id hid (hfirst hremoves id hid hadmin)

/-- What a call guarantees is what the calls beside it rely on. -/
theorem Request.Compatible.rely {other : Request} (hcompatible : request.Compatible other)
    (hguarantee : request.contract.guarantee before after) : other.contract.rely before after := by
  intro hother
  have hrequest : request.removes = none := hcompatible.resolve_right hother
  have hkeeps : Keeps request.removes before after := hguarantee.1
  rwa [hrequest] at hkeeps

theorem Household.Safe.next {household after : Household} {label : Label}
    (hsafe : household.Safe) (hguarded : household.Guarded label)
    (hnext : User.next hashing printId household label = some after) : after.Safe := by
  cases label with
  | start call request =>
    obtain ⟨-, rfl⟩ := Pool.start_eq_some.mp hnext
    refine ⟨?_, ?_, ?_⟩
    · exact hsafe.sound.settle rely_trans (request.fulfils_program hsafe.hasAdmin)
        fun _ active _ _ => rely_refl active.1 _
    · exact hsafe.compatible.start fun other hother =>
        ⟨hguarded other hother, (hguarded other hother).symm⟩
    · rw [Pool.settle_store]
      exact hsafe.hasAdmin
  | step call fault =>
    have hadmits : ∀ request op next, household.calls.get call = some (request, .call op next) →
          request.contract.admits fault op household.store := by
      rintro request op next hcall target htarget rfl hcount
      refine hguarded target ?_ hcount
      simpa [Household.counting, hcall] using htarget
    obtain ⟨request, op, next, answer, store, hcall, -, hguarantee, hleft,
      rfl⟩ := hsafe.sound.step_cases rely_refl hadmits hnext
    refine ⟨?_, hsafe.compatible.settle hcall, ?_⟩
    · refine hsafe.sound.settle rely_trans hleft fun other active hne hother => ?_
      exact (hsafe.compatible call other _ _ _ _ hne.symm hcall hother).rely hguarantee
    · rw [Pool.settle_store]
      exact hguarantee.2 hsafe.hasAdmin

/-- As long as calls that remove do not overlap and the admins they count can
sign in, somebody can administer the household in every state. -/
theorem household_never_locked_out {tables : Tables} {labels : List Label}
    {final : Household} (hadmin : tables.HasAdmin)
    (hguarded : Meets (next hashing printId) Household.Guarded (.idle tables) labels)
    (hrun : run (next hashing printId) (.idle tables) labels = some final) :
    final.store.HasAdmin := by
  have hstart : Household.Safe (.idle tables) := by
    refine ⟨Pool.Sound.idle tables, ?_, hadmin⟩
    intro _ _ _ _ _ _ _ hcall
    simp [Pool.idle] at hcall
  exact (run_invariant_of_meets
    (fun _ _ _ hsafe hcond hnext => hsafe.next hashing printId hcond hnext)
    hstart hguarded hrun).hasAdmin

/-! ## Two admins and two deletions -/

/-- An enabled admin without email. -/
def adminRow (id : Uuid) : UserRow where
  id := id
  displayName := "admin".toList
  email := none
  role := .admin
  enabled := true
  createdAt := 0
  updatedAt := 0

def passwordRow (id : Uuid) (subject : Text) : CredentialRow where
  id := id
  userId := id
  kind := .password
  subject := subject
  secret := some "secret".toList
  createdAt := 0

/-- Two admins who both have a password. -/
def twoAdmins : Tables where
  users := ⟨[adminRow 1, adminRow 2], by decide⟩
  credentials := ⟨[passwordRow 1 "one".toList, passwordRow 2 "two".toList], by decide⟩
  enrolments := .empty
  sessions := .empty

/-- One admin, who has a password. -/
def oneAdmin : Tables where
  users := ⟨[adminRow 1], by decide⟩
  credentials := ⟨[passwordRow 1 "one".toList], by decide⟩
  enrolments := .empty
  sessions := .empty

/-- The second admin is deleted and nothing runs beside it. -/
def serialDeletion : List Label :=
  [.start 0 (.deleteUser (.user 1 .admin) 2), .step 0 false, .step 0 false, .step 0 false]

theorem household_never_locked_out_serialDeletion :
    ∃ final, run (next plainHashing fun _ => []) (.idle twoAdmins)
        serialDeletion = some final ∧ final.store.HasAdmin :=
  ⟨_, rfl, @household_never_locked_out plainHashing (fun _ => []) twoAdmins
    serialDeletion _ (by decide +kernel) (by decide +kernel) rfl⟩

/-- Two admins disable each other: both calls count two enabled admins before
either writes.  Or an admin creates a second one, who has no password yet, and
deletes their own account. -/
theorem household_locked_out : twoAdmins.HasAdmin ∧ oneAdmin.HasAdmin ∧
      (∃ final ∈ run (next plainHashing fun _ => []) (.idle twoAdmins)
          [.start 0 (.setEnabled (.user 1 .admin) 2 false 0),
            .start 1 (.setEnabled (.user 2 .admin) 1 false 0),
            .step 0 false, .step 1 false, .step 0 false, .step 1 false,
            .step 0 false, .step 1 false],
        ¬ final.store.HasAdmin) ∧ ∃ final ∈ run (next plainHashing fun _ => []) (.idle oneAdmin)
          [.start 0 (.createUser (.user 1 .admin)
              { displayName := "new".toList, email := none, role := .admin }
              2 0),
            .step 0 false,
            .start 1 (.deleteUser (.user 1 .admin) 1),
            .step 1 false, .step 1 false, .step 1 false],
        ¬ final.store.HasAdmin := by
  decide +kernel

/-! ## Calls without an admin -/

/-- The caller of a request; a token stands for the caller of a redemption. -/
def Request.caller : Request → Option AuthContext
  | .setEnabled caller .. | .setRole caller .. | .deleteUser caller _ | .createUser caller ..
  | .issueEnrolment caller .. => some caller
  | .redeemEnrolment .. => none

/-- A step that starts no call of an admin. -/
def Label.Unprivileged : Label → Prop
  | .start _ request => ∀ caller ∈ request.caller, caller.isAdmin = false
  | .step .. => True

/-- A statement of a redemption. -/
def Op.redeems : Op → Bool
  | .findById _ | .findPassword _ | .findRedeemable .. | .markUsed .. | .setPassword .. => true
  | _ => false

theorem exec_redeems {op : Op} {fault : Bool} {answer : Answer op} {tables after : Tables}
    (hop : op.redeems = true) (hexec : exec fault op tables = some (answer, after)) :
    after.users = tables.users ∧ after.sessions = tables.sessions := by
  cases fault with
  | true =>
    cases hexec
    exact ⟨rfl, rfl⟩
  | false =>
    cases op with
    | findById | findPassword | findRedeemable | markUsed =>
      cases hexec
      exact ⟨rfl, rfl⟩
    | setPassword id userId subject secret now =>
      rcases committed_cases (Option.some.inj hexec) with rfl | hset
      · exact ⟨rfl, rfl⟩
      · rcases setPassword_eq_ok hset with ⟨credentials, row, -, rfl⟩ | rfl <;> exact ⟨rfl, rfl⟩
    | _ => cases hop

theorem performs_redeems {hashing : Hashing} {printId : Uuid → Text} {request : Request}
    (hcaller : ∀ caller ∈ request.caller, caller.isAdmin = false) :
    (request.program hashing printId).Performs fun op => op.redeems = true := by
  have hquery {op : Op} (hop : op.redeems = true) :
      (query op).Performs fun op => op.redeems = true := by
    refine .bind ⟨hop, fun _ => trivial⟩ fun answer => ?_
    split <;> trivial
  cases request with
  | redeemEnrolment token password salt credentialId now =>
    refine .bind (.bind trivial fun _ => .bind (hquery rfl) fun found => ?_) fun _ => trivial
    split
    · trivial
    · refine .bind (.bind (hquery rfl) fun found => by split <;> trivial) fun user => ?_
      split
      · trivial
      · refine .bind (hquery rfl) fun found => ?_
        split
        · trivial
        · refine .bind trivial fun secret => .bind (hquery rfl) fun claimed => ?_
          split
          · trivial
          · refine .bind ⟨rfl, fun _ => trivial⟩ fun answer => ?_
            split <;> trivial
  | _ =>
    have hdenied := hcaller _ rfl
    simp [Request.program, User.setEnabled, User.setRole, User.deleteUser, User.createUser,
      User.issueEnrolment, requireAdmin, ensure, hdenied]
    trivial

/-- The store with its users and sessions kept, and the calls that redeem at most. -/
structure Redeeming (tables : Tables) (household : Household) : Prop where
  users : household.store.users = tables.users
  sessions : household.store.sessions = tables.sessions
  calls : household.Performing fun _ op => op.redeems = true

theorem Redeeming.next {hashing : Hashing} {printId : Uuid → Text} {tables : Tables}
    {household after : Household} {label : Label} (hredeeming : Redeeming tables household)
    (hlabel : label.Unprivileged) (hnext : User.next hashing printId household label = some after) :
    Redeeming tables after := by
  obtain ⟨husers, hsessions, hcalls⟩ := hredeeming
  cases label with
  | start call request =>
    obtain ⟨-, rfl⟩ := Pool.start_eq_some.mp hnext
    refine ⟨?_, ?_, hcalls.settle (performs_redeems hlabel)⟩ <;> rwa [Pool.settle_store]
  | step call fault =>
    obtain ⟨request, op, next, answer, store, hcall, hexec, rfl⟩ := Pool.step_eq_some.mp hnext
    obtain ⟨hop, hrest⟩ := hcalls call request _ hcall
    obtain ⟨hsameUsers, hsameSessions⟩ := exec_redeems hop hexec
    refine ⟨?_, ?_, hcalls.settle (hrest answer)⟩ <;> rw [Pool.settle_store]
    · exact hsameUsers.trans husers
    · exact hsameSessions.trans hsessions

/-- Without an admin among the callers no interleaving of calls changes a user
or a session, whatever tokens are redeemed. -/
theorem users_change_by_admins_only (hashing : Hashing) (printId : Uuid → Text) {tables : Tables}
    {labels : List Label} {final : Household} (hlabels : ∀ label ∈ labels, label.Unprivileged)
    (hrun : run (next hashing printId) (.idle tables) labels = some final) :
    final.store.users = tables.users ∧ final.store.sessions = tables.sessions := by
  have hidle : Redeeming tables (.idle tables) := ⟨rfl, rfl, Pool.Performing.idle tables⟩
  have hfinal := run_invariant_of_meets (fun _ _ _ => Redeeming.next) hidle
    (meets_of_forall hlabels _) hrun
  exact ⟨hfinal.users, hfinal.sessions⟩

/-- The second admin is invited and has no password yet. -/
def invitedAdmin : Tables where
  users := ⟨[adminRow 1, adminRow 2], by decide⟩
  credentials := ⟨[passwordRow 1 "one".toList], by decide⟩
  enrolments := ⟨[⟨7, 2, "token".toList, 0, 10, none⟩], by decide⟩
  sessions := .empty

/-- A member asks for a deletion while the invitation is redeemed. -/
def memberDeletion : List Label :=
  [.start 0 (.redeemEnrolment "token".toList "password".toList [] 5 0),
    .start 1 (.deleteUser (.user 2 .member) 1), .step 0 false, .step 0 false, .step 0 false,
    .step 0 false, .step 0 false]

theorem users_change_by_admins_only_memberDeletion :
    ∃ final, run (next plainHashing fun _ => "two".toList) (.idle invitedAdmin) memberDeletion =
        some final ∧
      final.store.credentials.rows.map CredentialRow.userId = [1, 2] ∧
      final.store.users = invitedAdmin.users ∧ final.store.sessions = invitedAdmin.sessions := by
  have hlabels : ∀ label ∈ memberDeletion, label.Unprivileged := by
    simp [memberDeletion, Label.Unprivileged, Request.caller, AuthContext.isAdmin]
  have hrun : ∃ final, run (next plainHashing fun _ => "two".toList) (.idle invitedAdmin)
      memberDeletion = some final ∧
        final.store.credentials.rows.map CredentialRow.userId = [1, 2] := by
    decide +kernel
  obtain ⟨final, hrun, hcredentials⟩ := hrun
  exact ⟨final, hrun, hcredentials, users_change_by_admins_only plainHashing _ hlabels hrun⟩

end Wardnet.User
