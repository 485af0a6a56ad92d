import Wardnet.Common.Auth
import Wardnet.Core.Keyed
import Wardnet.Core.Pool
import Wardnet.Core.Transition

/-!
# Household users

The user directory and the calls that change who can sign in.  Every call is
a sequence of separate statements on the database: it loads the rows it
decides on, and writes in a later statement.  Nothing serialises the calls, so
other calls may run between any two statements, and any statement may fail.

Identifiers, tokens, hashes and the time of a call are inputs; times are
seconds.  The two functions of text that the service uses on credentials are
parameters.
-/

namespace Wardnet.User

open Transition

/-! ## The tables -/

structure UserRow where
  id : Uuid
  displayName : Text
  email : Option Text
  role : UserRole
  enabled : Bool
  createdAt : ℕ
  updatedAt : ℕ
  deriving DecidableEq

inductive CredentialKind
  | password
  | google
  | github
  | passkey
  deriving DecidableEq

structure CredentialRow where
  id : Uuid
  userId : Uuid
  kind : CredentialKind
  subject : Text
  secret : Option Text
  createdAt : ℕ
  deriving DecidableEq

structure EnrolmentTokenRow where
  id : Uuid
  userId : Uuid
  tokenHash : Text
  createdAt : ℕ
  expiresAt : ℕ
  usedAt : Option ℕ
  deriving DecidableEq

structure SessionRow where
  id : Uuid
  userId : Uuid
  deriving DecidableEq

structure Tables where
  users : Keyed UserRow.id
  credentials : Keyed CredentialRow.id
  enrolments : Keyed EnrolmentTokenRow.id
  sessions : Keyed SessionRow.id
  deriving DecidableEq

/-! ## Statements -/

/-- What a statement can fail with. -/
inductive DbError
  | sql
  | duplicateUserEmail
  | credentialAlreadyLinked
  deriving DecidableEq

inductive Op
  | findById (id : Uuid)
  | countEnabledAdmins
  | create (row : UserRow)
  | setEnabled (id : Uuid) (enabled : Bool) (now : ℕ)
  | setRole (id : Uuid) (role : UserRole) (now : ℕ)
  | delete (id : Uuid)
  | deleteAllForUser (id : Uuid)
  | findPassword (userId : Uuid)
  | createEnrolment (row : EnrolmentTokenRow)
  | findRedeemable (tokenHash : Text) (now : ℕ)
  | markUsed (id : Uuid) (now : ℕ)
  | setPassword (id userId : Uuid) (subject secret : Text) (now : ℕ)

/-- The rows a statement returns; an update returns how many it changed. -/
@[reducible]
def Rows : Op → Type
  | .findById _ => Option UserRow
  | .countEnabledAdmins => ℕ
  | .create _ => Unit
  | .setEnabled .. => ℕ
  | .setRole .. => ℕ
  | .delete _ => ℕ
  | .deleteAllForUser _ => ℕ
  | .findPassword _ => Option CredentialRow
  | .createEnrolment _ => Unit
  | .findRedeemable .. => Option EnrolmentTokenRow
  | .markUsed .. => ℕ
  | .setPassword .. => Unit

abbrev Answer (op : Op) : Type := Except DbError (Rows op)

def UserRow.isEnabledAdmin (row : UserRow) : Bool := row.role = .admin ∧ row.enabled

/-- The result of an insert, whose key may be taken. -/
def inserted {Value : Type} : Option Value → Except DbError Value
  | some value => .ok value
  | none => .error .sql

theorem inserted_eq_ok {Value : Type} {result : Option Value} {value : Value} :
    inserted result = .ok value ↔ result = some value := by
  cases result <;> simp [inserted]

namespace Tables

/-- `SELECT COUNT(*) FROM users WHERE role = 'admin' AND enabled = 1`. -/
def countEnabledAdmins (tables : Tables) : ℕ := tables.users.rows.countP UserRow.isEnabledAdmin

/-- The insert and the index on the email, which compares lower-cased
addresses. -/
def create (tables : Tables) (row : UserRow) : Except DbError Tables :=
  if row.email.isSome ∧ tables.users.rows.any (fun other =>
      other.email.map Text.toAsciiLowercase = row.email.map Text.toAsciiLowercase) then
    .error .duplicateUserEmail
  else do
    let users ← inserted (tables.users.insert row)
    return { tables with users := users }

def setEnabled (tables : Tables) (id : Uuid) (enabled : Bool) (now : ℕ) : Tables :=
  { tables with
    users := tables.users.update id (fun row => { row with enabled := enabled, updatedAt := now })
      fun _ => rfl }

def setRole (tables : Tables) (id : Uuid) (role : UserRole) (now : ℕ) : Tables :=
  { tables with
    users := tables.users.update id
      (fun row => { row with role := role, updatedAt := now }) fun _ => rfl }

/-- Credentials, invitations and sessions go with their user. -/
def delete (tables : Tables) (id : Uuid) : Tables where
  users := tables.users.deleteWhere fun row => row.id = id
  credentials := tables.credentials.deleteWhere fun row => row.userId = id
  enrolments := tables.enrolments.deleteWhere fun row => row.userId = id
  sessions := tables.sessions.deleteWhere fun row => row.userId = id

def deleteAllForUser (tables : Tables) (id : Uuid) : Tables :=
  { tables with
    sessions := tables.sessions.deleteWhere fun row => row.userId = id }

def isPasswordOf (userId : Uuid) (row : CredentialRow) : Bool :=
  row.userId = userId ∧ row.kind = .password

def findPassword (tables : Tables) (userId : Uuid) : Option CredentialRow :=
  tables.credentials.rows.find? (isPasswordOf userId)

def createEnrolment (tables : Tables) (row : EnrolmentTokenRow) : Except DbError Tables :=
  if (tables.users.find row.userId).isNone ∨
      tables.enrolments.rows.any (fun other => other.tokenHash = row.tokenHash) then
    .error .sql
  else do
    let enrolments ← inserted (tables.enrolments.insert row)
    return { tables with enrolments := enrolments }

def findRedeemable (tables : Tables) (tokenHash : Text) (now : ℕ) : Option EnrolmentTokenRow :=
  tables.enrolments.rows.find? fun row =>
    row.tokenHash = tokenHash ∧ now < row.expiresAt ∧ row.usedAt = none

/-- The rows that `mark_used` claims: none once the token is used. -/
def isUnused (id : Uuid) (row : EnrolmentTokenRow) : Bool := row.id = id ∧ row.usedAt = none

def markUsed (tables : Tables) (id : Uuid) (now : ℕ) : Tables :=
  { tables with
    enrolments := tables.enrolments.updateWhere (isUnused id)
      (fun row => { row with usedAt := some now }) fun _ => rfl }

/-- The upsert on the user's password: the row of the user is rewritten if
there is one, unless another row has the subject. -/
def setPassword (tables : Tables) (id userId : Uuid)
    (subject secret : Text) (now : ℕ) : Except DbError Tables :=
  if (tables.users.find userId).isNone then .error .sql
  else if tables.credentials.rows.any (fun row =>
      ¬ isPasswordOf userId row ∧ row.kind = .password ∧ row.subject = subject) then
    .error .credentialAlreadyLinked
  else if (tables.findPassword userId).isSome then
    .ok { tables with
      credentials := tables.credentials.updateWhere (isPasswordOf userId)
        (fun row => { row with subject := subject, secret := some secret })
        fun _ => rfl }
  else do
    let credentials ← inserted (tables.credentials.insert {
      id := id
      userId := userId
      kind := .password
      subject := subject
      secret := some secret
      createdAt := now })
    return { tables with credentials := credentials }

variable {tables after : Tables}

theorem create_eq_ok {row : UserRow} (hcreate : tables.create row = .ok after) :
    ∃ users, tables.users.insert row = some users ∧ after = { tables with users := users } := by
  unfold create at hcreate
  split at hcreate
  · cases hcreate
  · obtain ⟨users, hinsert, hafter⟩ := bind_eq_ok.mp hcreate
    exact ⟨users, inserted_eq_ok.mp hinsert, (pure_eq_ok.mp hafter).symm⟩

variable {credentialId target : Uuid} {subject secret : Text} {now : ℕ}
variable (hset : tables.setPassword credentialId target subject secret now = .ok after)
include hset

/-- Setting a password rewrites credentials, all of them under their users
and kinds, or adds one. -/
theorem setPassword_eq_ok : (∃ credentials row, tables.credentials.insert row = some credentials ∧
        after = { tables with credentials := credentials }) ∨
      after = { tables with
        credentials := tables.credentials.updateWhere (isPasswordOf target)
          (fun row => { row with subject := subject, secret := some secret })
          fun _ => rfl } := by
  unfold setPassword at hset
  split at hset
  · cases hset
  split at hset
  · cases hset
  split at hset
  · exact .inr (Except.ok.inj hset).symm
  · obtain ⟨credentials, hinsert, hafter⟩ := bind_eq_ok.mp hset
    exact .inl ⟨credentials, _, inserted_eq_ok.mp hinsert, (pure_eq_ok.mp hafter).symm⟩

/-- Where there is a password it is the one that is rewritten. -/
theorem setPassword_of_findPassword {existing : CredentialRow}
    (hexisting : tables.findPassword target = some existing) :
    (tables.users.find target).isSome ∧ after = { tables with
      credentials := tables.credentials.updateWhere (isPasswordOf target)
        (fun row => { row with subject := subject, secret := some secret })
        fun _ => rfl } := by
  unfold setPassword at hset
  split at hset
  · cases hset
  rename_i huser
  split at hset
  · cases hset
  rw [if_pos (by simp [hexisting])] at hset
  have hsome : (tables.users.find target).isSome := by simpa [Option.isSome_iff_ne_none] using huser
  exact ⟨hsome, (Except.ok.inj hset).symm⟩

theorem users_of_setPassword : after.users = tables.users := by
  rcases setPassword_eq_ok hset with ⟨credentials, row, -, rfl⟩ | rfl
  · rfl
  · rfl

end Tables

/-- The answer of a write and the tables it leaves; a failed one leaves them
as they are. -/
def committed (tables : Tables) : Except DbError Tables → Except DbError Unit × Tables
  | .ok after => (.ok (), after)
  | .error error => (.error error, tables)

def exec (fault : Bool) (op : Op) (tables : Tables) : Option (Answer op × Tables) :=
  if fault then some (.error .sql, tables)
  else
    match op with
    | .findById id => some (.ok (tables.users.find id), tables)
    | .countEnabledAdmins => some (.ok tables.countEnabledAdmins, tables)
    | .create row => some (committed tables (tables.create row))
    | .setEnabled id enabled now =>
      some (.ok (tables.users.rows.countP (·.id = id)), tables.setEnabled id enabled now)
    | .setRole id role now =>
      some (.ok (tables.users.rows.countP (·.id = id)), tables.setRole id role now)
    | .delete id => some (.ok (tables.users.rows.countP (·.id = id)), tables.delete id)
    | .deleteAllForUser id =>
      some (.ok (tables.sessions.rows.countP (·.userId = id)), tables.deleteAllForUser id)
    | .findPassword userId => some (.ok (tables.findPassword userId), tables)
    | .createEnrolment row => some (committed tables (tables.createEnrolment row))
    | .findRedeemable tokenHash now => some (.ok (tables.findRedeemable tokenHash now), tables)
    | .markUsed id now =>
      some (.ok (tables.enrolments.rows.countP (Tables.isUnused id)), tables.markUsed id now)
    | .setPassword id userId subject secret now =>
      some (committed tables (tables.setPassword id userId subject secret now))

/-! ## The service -/

abbrev Action (Result : Type) := Program Op Answer AppError Result

open Program (perform fail)

/-- One statement of a repository. -/
def statement (op : Op) : Action (Answer op) := perform op

/-- One statement with `map_err(AppError::Internal)?`. -/
def query (op : Op) : Action (Rows op) := do
  match ← statement op with
  | .ok rows => pure rows
  | .error _ => fail .internal

/-- The parts of the service that are not its own: Unicode lower-casing, the
hash of an invitation and the password hash under a salt. -/
structure Hashing where
  toLowercase : Text → Text
  hashToken : Text → Text
  hashPassword : Text → Text → Except AppError Text

/-- Tokens and passwords are stored as they are. -/
def plainHashing : Hashing where
  toLowercase := Text.toAsciiLowercase
  hashToken := id
  hashPassword password _ := .ok password

variable (hashing : Hashing)

def validateDisplayName (displayName : Text) : Except AppError Unit :=
  ensure (displayName.trim ≠ [] ∧ displayName.trim.length ≤ 64)
    (.badRequest "display name must be 1-64 characters")

/-- `validate_email`: the part after the first `@` needs a dot. -/
def validateEmail (email : Option Text) : Except AppError (Option Text) :=
  match email.map Text.trim with
  | none | some [] => .ok none
  | some trimmed =>
    let localPart := trimmed.takeWhile (· ≠ '@')
    let domain := (trimmed.dropWhile (· ≠ '@')).tail
    if localPart = [] ∨ domain = [] ∨ '.' ∉ domain then
      .error (.badRequest "email address is not valid")
    else .ok (some (hashing.toLowercase trimmed))

def validatePassword (password : Text) : Except AppError Unit :=
  ensure (8 ≤ password.len) (.badRequest "password must be at least 8 characters")

def load (id : Uuid) : Action UserRow := do
  match ← query (.findById id) with
  | some row => pure row
  | none => fail (.notFound "household user not found")

/-- `guard_last_admin`: the count is of accounts, whether or not they have a
credential, and is taken before the write it guards. -/
def guardLastAdmin (target : UserRow) (action : String) : Action Unit := do
  if target.role ≠ .admin ∨ ¬ target.enabled then pure ()
  else
    let enabledAdmins ← query .countEnabledAdmins
    if enabledAdmins ≤ 1 then
      fail (.conflict s!"cannot {action} the last enabled admin; promote another user first")
    else pure ()

def setEnabled (caller : AuthContext) (userId : Uuid) (enabled : Bool)
    (now : ℕ) : Action UserRow := do
  Program.ofExcept (requireAdmin caller)
  let target ← load userId
  if enabled then pure () else guardLastAdmin target "disable"
  let _ ← query (.setEnabled userId enabled now)
  if enabled then pure ()
  else
    let _ ← query (.deleteAllForUser userId)
    pure ()
  load userId

def setRole (caller : AuthContext) (userId : Uuid) (role : UserRole)
    (now : ℕ) : Action UserRow := do
  Program.ofExcept (requireAdmin caller)
  let target ← load userId
  if role = .admin then pure () else guardLastAdmin target "demote"
  let _ ← query (.setRole userId role now)
  load userId

def deleteUser (caller : AuthContext) (userId : Uuid) : Action Unit := do
  Program.ofExcept (requireAdmin caller)
  let target ← load userId
  guardLastAdmin target "delete"
  let _ ← query (.delete userId)
  pure ()

structure NewUser where
  displayName : Text
  email : Option Text
  role : UserRole
  deriving DecidableEq

/-- `create_user`: an account without a credential. -/
def createUser (caller : AuthContext) (newUser : NewUser) (id : Uuid)
    (now : ℕ) : Action UserRow := do
  Program.ofExcept (requireAdmin caller)
  Program.ofExcept (validateDisplayName newUser.displayName)
  let email ← Program.ofExcept (validateEmail hashing newUser.email)
  let row : UserRow :=
    { id := id
      displayName := newUser.displayName.trim
      email := email
      role := newUser.role
      enabled := true
      createdAt := now
      updatedAt := now }
  match ← statement (.create row) with
  | .ok () => pure row
  | .error .duplicateUserEmail => fail (.conflict "a household user with that email already exists")
  | .error _ => fail .internal

structure EnrolmentInvite where
  token : Text
  expiresAt : ℕ
  userId : Uuid
  deriving DecidableEq

def enrolmentTtlHours : ℕ := 72

def issueEnrolment (caller : AuthContext) (userId id : Uuid) (token : Text)
    (now : ℕ) : Action EnrolmentInvite := do
  Program.ofExcept (requireAdmin caller)
  let target ← load userId
  if ¬ target.enabled then fail (.conflict "cannot enrol a disabled user; enable the account first")
  else
    match ← query (.findPassword target.id) with
    | some _ =>
      fail (.conflict ("that account already has a password; enrolment " ++
        "sets a first credential and never replaces one"))
    | none =>
      let expiresAt := now + enrolmentTtlHours * 3600
      let _ ← query (.createEnrolment {
        id := id
        userId := userId
        tokenHash := hashing.hashToken token
        createdAt := now
        expiresAt := expiresAt
        usedAt := none })
      pure { token := token, expiresAt := expiresAt, userId := userId }

/-- The login of a user: the email, or the identifier when there is none. -/
def loginSubject (printId : Uuid → Text) (user : UserRow) : Text :=
  hashing.toLowercase (user.email.getD (printId user.id))

/-- `redeem_enrolment`; the caller has no session, the token is the
authorization. -/
def redeemEnrolment (printId : Uuid → Text) (token password salt : Text)
    (credentialId : Uuid) (now : ℕ) : Action UserRow := do
  Program.ofExcept (validatePassword password)
  match ← query (.findRedeemable (hashing.hashToken token) now) with
  | none => fail (.unauthorized "that invitation is not valid")
  | some row =>
    let user ← load row.userId
    if ¬ user.enabled then fail (.forbidden "this account is disabled")
    else
      match ← query (.findPassword user.id) with
      | some _ =>
        fail (.conflict ("this account already has a password; " ++
          "use the change-password flow instead"))
      | none =>
        let secret ← Program.ofExcept (hashing.hashPassword password salt)
        let claimed ← query (.markUsed row.id now)
        if claimed = 0 then fail (.unauthorized "that invitation is not valid")
        else
          match ← statement (.setPassword credentialId user.id
              (loginSubject hashing printId user) secret now) with
          | .ok () => pure user
          | .error .credentialAlreadyLinked =>
            fail (.conflict "another account already signs in with that email address")
          | .error _ => fail .internal

/-! ## Calls -/

inductive Request
  | setEnabled (caller : AuthContext) (userId : Uuid) (enabled : Bool) (now : ℕ)
  | setRole (caller : AuthContext) (userId : Uuid) (role : UserRole) (now : ℕ)
  | deleteUser (caller : AuthContext) (userId : Uuid)
  | createUser (caller : AuthContext) (newUser : NewUser) (id : Uuid) (now : ℕ)
  | issueEnrolment (caller : AuthContext) (userId id : Uuid) (token : Text) (now : ℕ)
  | redeemEnrolment (token password salt : Text) (credentialId : Uuid) (now : ℕ)
  deriving DecidableEq

inductive Response
  | profile (user : UserRow)
  | deleted
  | invite (invite : EnrolmentInvite)
  deriving DecidableEq

variable (printId : Uuid → Text)

def Request.program : Request → Action Response
  | .setEnabled caller userId enabled now =>
    return .profile (← User.setEnabled caller userId enabled now)
  | .setRole caller userId role now => return .profile (← User.setRole caller userId role now)
  | .deleteUser caller userId => do
    User.deleteUser caller userId
    return .deleted
  | .createUser caller newUser id now =>
    return .profile (← User.createUser hashing caller newUser id now)
  | .issueEnrolment caller userId id token now =>
    return .invite (← User.issueEnrolment hashing caller userId id token now)
  | .redeemEnrolment token password salt credentialId now =>
    return .profile (← User.redeemEnrolment hashing printId token password salt credentialId now)

abbrev Household := Pool Op Answer Tables Request AppError Response

/-- A call comes in, or a call in progress takes its next statement. -/
inductive Label
  | start (call : ℕ) (request : Request)
  | step (call : ℕ) (fault : Bool)
  deriving DecidableEq

def next (household : Household) : Label → Option Household
  | .start call request => household.start (Request.program hashing printId) call request
  | .step call fault => household.step exec call fault

end Wardnet.User
