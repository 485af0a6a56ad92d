import Wardnet.User.Service

/-!
# The first admin

`setup_admin` answers without a session, as long as there is no user.  It reads
whether there is one, hashes the password and inserts the admin in a later
statement, and deletes the row again when the credential cannot be written.
Nothing serialises the calls.  When no call reads while another has read and
not yet inserted, at most one call gets through; two calls that read side by
side both do.
-/

namespace Wardnet.Setup

open Transition
open User (DbError Tables UserRow Hashing)

/-! ## The statements -/

/-- The tables and the step of the setup wizard. -/
structure Box where
  tables : Tables
  wizardStep : Option Text
  deriving DecidableEq

inductive Op
  | usersExist
  | user (op : User.Op)
  | getWizardStep
  | setWizardStep (step : Text)

@[reducible]
def Rows : Op → Type
  | .usersExist => Bool
  | .user op => User.Rows op
  | .getWizardStep => Option Text
  | .setWizardStep _ => Unit

abbrev Answer (op : Op) : Type := Except DbError (Rows op)

def exec (fault : Bool) (op : Op) (box : Box) : Option (Answer op × Box) :=
  match op with
  | .user op =>
    (User.exec fault op box.tables).map fun (answer, tables) =>
      (answer, { box with tables := tables })
  | .usersExist =>
    if fault then some (.error .sql, box)
    else some (.ok !box.tables.users.rows.isEmpty, box)
  | .getWizardStep => if fault then some (.error .sql, box) else some (.ok box.wizardStep, box)
  | .setWizardStep step =>
    if fault then some (.error .sql, box)
    else some (.ok (), { box with wizardStep := some step })

/-! ## The service -/

abbrev Action (Result : Type) := Program Op Answer AppError Result

open Program (perform fail)

def statement (op : Op) : Action (Answer op) := perform op

/-- One statement with `map_err(AppError::Internal)?`. -/
def query (op : Op) : Action (Rows op) := do
  match ← statement op with
  | .ok rows => pure rows
  | .error _ => fail .internal

inductive WizardStep
  | admin
  | network
  | dhcp
  | routerMac
  | dns
  | tunnel
  | policy
  | remoteAccess
  | review
  | completed
  deriving DecidableEq

def WizardStep.asStorageStr : WizardStep → Text
  | .admin => "admin".toList
  | .network => "network".toList
  | .dhcp => "dhcp".toList
  | .routerMac => "router_mac".toList
  | .dns => "dns".toList
  | .tunnel => "tunnel".toList
  | .policy => "policy".toList
  | .remoteAccess => "remote_access".toList
  | .review => "review".toList
  | .completed => "completed".toList

/-- What a call is made with: its arguments, and the identifiers, the salt and
the time it takes. -/
structure Request where
  username : Text
  password : Text
  salt : Text
  id : Uuid
  credentialId : Uuid
  now : ℕ
  deriving DecidableEq

/-- The admin a call inserts. -/
def Request.row (request : Request) : UserRow where
  id := request.id
  displayName := request.username
  email := none
  role := .admin
  enabled := true
  createdAt := request.now
  updatedAt := request.now

/-- The checks of the arguments and the hash of the password. -/
def Request.secret (hashing : Hashing) (request : Request) : Except AppError Text := do
  ensure (3 ≤ request.username.len ∧ request.username.len ≤ 32 ∧
      request.username.all Char.isAlphanum)
    (.badRequest "username must be 3-32 alphanumeric characters")
  User.validatePassword request.password
  hashing.hashPassword request.password request.salt

/-- The wizard is moved on from its first step. -/
def saveStep : Action Unit := query (.setWizardStep WizardStep.network.asStorageStr)

def advanceWizard : Action Unit := do
  let current ← query .getWizardStep
  if current = some WizardStep.admin.asStorageStr ∨ current = none then saveStep
  else pure ()

/-- The row of an admin without a credential is taken back; whether that works
or not, the call fails. -/
def rollBack (request : Request) : Action Unit := do
  let _ ← statement (.user (.delete request.id))
  fail .internal

/-- The credential of the new admin. -/
def enrol (hashing : Hashing) (request : Request) (secret : Text) : Action Unit := do
  match ← statement (.user (.setPassword request.credentialId request.id
      (hashing.toLowercase request.username) secret request.now)) with
  | .ok () => advanceWizard
  | .error _ => rollBack request

def claim (hashing : Hashing) (request : Request) (secret : Text) : Action Unit := do
  let _ ← query (.user (.create request.row))
  enrol hashing request secret

def setupAdmin (hashing : Hashing) (request : Request) : Action Unit := do
  let exists_ ← query .usersExist
  if exists_ then fail (.conflict "setup already completed")
  else do
    let secret ← Program.ofExcept (request.secret hashing)
    claim hashing request secret

/-! ## What a call can do next -/

/-- How far a call has come. -/
inductive Stage
  | checking
  | creating (secret : Text)
  | enrolling (secret : Text)
  | undoing
  | reading
  | saving
  deriving DecidableEq

section Stages

variable (hashing : Hashing) (request : Request)

/-- What is left of a call. -/
def Stage.rest : Stage → Action Unit
  | .checking => setupAdmin hashing request
  | .creating secret => claim hashing request secret
  | .enrolling secret => enrol hashing request secret
  | .undoing => rollBack request
  | .reading => advanceWizard
  | .saving => saveStep

/-- A call that goes on, or is over. -/
inductive Outcome
  | goesOn (stage : Stage)
  | returns (result : Except AppError Unit)

def Outcome.rest : Outcome → Action Unit
  | .goesOn stage => stage.rest hashing request
  | .returns result => .done result

/-- What one statement of a call does to the box, and how the call goes on. -/
inductive Moves (box : Box) : Stage → Box → Outcome → Prop
  | checkFailed : Moves box .checking box (.returns (.error .internal))
  | refused (hexists : box.tables.users.rows ≠ []) :
      Moves box .checking box (.returns (.error (.conflict "setup already completed")))
  | invalid (hempty : box.tables.users.rows = []) (error : AppError) :
      Moves box .checking box (.returns (.error error))
  | checked (hempty : box.tables.users.rows = []) (secret : Text) :
      Moves box .checking box (.goesOn (.creating secret))
  | createFailed (secret : Text) : Moves box (.creating secret) box (.returns (.error .internal))
  | created (secret : Text) {tables : Tables}
      (hcreate : box.tables.create request.row = .ok tables) :
      Moves box (.creating secret) { box with tables := tables } (.goesOn (.enrolling secret))
  | enrolFailed (secret : Text) : Moves box (.enrolling secret) box (.goesOn .undoing)
  | enrolled (secret : Text) {tables : Tables} (husers : tables.users = box.tables.users) :
      Moves box (.enrolling secret) { box with tables := tables } (.goesOn .reading)
  | undoFailed : Moves box .undoing box (.returns (.error .internal))
  | undone : Moves box .undoing { box with tables := box.tables.delete request.id }
        (.returns (.error .internal))
  | readFailed : Moves box .reading box (.returns (.error .internal))
  | readFirst : Moves box .reading box (.goesOn .saving)
  | readLater : Moves box .reading box (.returns (.ok ()))
  | saveFailed : Moves box .saving box (.returns (.error .internal))
  | saved (step : Text) : Moves box .saving { box with wizardStep := some step } (.returns (.ok ()))

variable {hashing request}

/-- Every statement of a call is one of the moves. -/
theorem exists_moves {stage : Stage} {op : Op} {next : Answer op → Action Unit}
    {fault : Bool} {box after : Box} {answer : Answer op}
    (hrest : stage.rest hashing request = .call op next)
    (hexec : exec fault op box = some (answer, after)) :
    ∃ outcome, Moves request box stage after outcome ∧
      next answer = outcome.rest hashing request := by
  cases fault with
  | true =>
    cases stage <;> cases hrest <;> cases hexec
    exacts [⟨_, .checkFailed, rfl⟩, ⟨_, .createFailed _, rfl⟩, ⟨_, .enrolFailed _, rfl⟩,
      ⟨_, .undoFailed, rfl⟩, ⟨_, .readFailed, rfl⟩, ⟨_, .saveFailed, rfl⟩]
  | false =>
    cases stage with
    | checking =>
      cases hrest
      cases hexec
      cases hrows : box.tables.users.rows with
      | nil =>
        cases request.secret hashing with
        | error error => exact ⟨_, .invalid hrows error, rfl⟩
        | ok secret => exact ⟨_, .checked hrows secret, rfl⟩
      | cons row rows => exact ⟨_, .refused (by simp [hrows]), rfl⟩
    | creating secret =>
      cases hrest
      simp only [exec, User.exec, User.committed] at hexec
      cases hcreate : box.tables.create request.row with
      | error error =>
        rw [hcreate] at hexec
        cases hexec
        exact ⟨_, .createFailed secret, rfl⟩
      | ok tables =>
        rw [hcreate] at hexec
        cases hexec
        exact ⟨_, .created secret hcreate, rfl⟩
    | enrolling secret =>
      cases hrest
      simp only [exec, User.exec, User.committed] at hexec
      cases hset : box.tables.setPassword request.credentialId request.id
          (hashing.toLowercase request.username) secret request.now with
      | error error =>
        rw [hset] at hexec
        cases hexec
        exact ⟨_, .enrolFailed secret, rfl⟩
      | ok tables =>
        rw [hset] at hexec
        cases hexec
        exact ⟨_, .enrolled secret (Tables.users_of_setPassword hset), rfl⟩
    | undoing =>
      cases hrest
      cases hexec
      exact ⟨_, .undone, rfl⟩
    | reading =>
      cases hrest
      cases hexec
      by_cases hfirst : box.wizardStep = some WizardStep.admin.asStorageStr ∨ box.wizardStep = none
      · exact ⟨_, .readFirst, if_pos hfirst⟩
      · exact ⟨_, .readLater, if_neg hfirst⟩
    | saving =>
      cases hrest
      cases hexec
      exact ⟨_, .saved _, rfl⟩

end Stages

/-! ## Calls -/

abbrev Daemon := Pool Op Answer Box Request AppError Unit

inductive Label
  | start (call : ℕ) (request : Request)
  | step (call : ℕ) (fault : Bool)
  deriving DecidableEq

def next (hashing : Hashing) (daemon : Daemon) : Label → Option Daemon
  | .start call request => daemon.start (setupAdmin hashing) call request
  | .step call fault => daemon.step exec call fault

/-- The call is about to read whether there is a user. -/
def isChecking : Action Unit → Bool
  | .call .usersExist _ => true
  | _ => false

/-- The call is about to insert its admin. -/
def isCreating : Action Unit → Bool
  | .call (.user (.create _)) _ => true
  | _ => false

/-- A call reads whether there is a user only while no other has read and not
yet inserted. -/
def Serial (daemon : Daemon) : Label → Prop
  | .start _ _ => True
  | .step call _ =>
    (daemon.calls.get call).any (fun active => isChecking active.2) = true →
      ∀ other ∈ daemon.calls.toList, other.1 ≠ call → isCreating other.2.2 = false

instance (daemon : Daemon) (label : Label) : Decidable (Serial daemon label) := by
  cases label <;> delta Serial <;> infer_instance

end Wardnet.Setup
