import Wardnet.Auth.FirstAdmin
import Wardnet.Core.Sequential

/-!
# Editing a profile

The email of a user is also the name under which the password signs in, so
`update_profile` writes two rows: the credential first, then the user.  There
is no transaction.  The login is moved whenever it differs from the new
address, which is not the same as a change of the address: the first admin
signs in with a name that was never an address.
-/

namespace Wardnet.User.Profile

open Program (perform fail)

/-! ## The statements -/

/-- The statements of the directory, and the one that writes a profile. -/
inductive Op
  | user (op : User.Op)
  | updateProfile (id : Uuid) (displayName : Text) (email : Option Text) (now : ℕ)

@[reducible]
def Rows : Op → Type
  | .user op => User.Rows op
  | .updateProfile .. => ℕ

abbrev Answer (op : Op) : Type := Except DbError (Rows op)

/-- The index on the email refuses the address: another user has it. -/
def isTaken (tables : Tables) (id : Uuid) (email : Option Text) : Bool :=
  email.isSome && tables.users.rows.any fun other =>
    other.id ≠ id ∧ other.email.map Text.toAsciiLowercase = email.map Text.toAsciiLowercase

/-- `UPDATE users SET display_name = ?, email = ?, updated_at = ? WHERE id = ?`. -/
def edit (tables : Tables) (id : Uuid) (displayName : Text) (email : Option Text) (now : ℕ) :
    Tables :=
  { tables with
    users := tables.users.update id
      (fun row => { row with displayName := displayName, email := email, updatedAt := now })
      fun _ => rfl }

def exec (fault : Bool) (op : Op) (tables : Tables) : Option (Answer op × Tables) :=
  match op with
  | .user op => User.exec fault op tables
  | .updateProfile id displayName email now =>
    if fault then some (.error .sql, tables)
    else if (tables.users.find id).isSome ∧ isTaken tables id email then
      some (.error .duplicateUserEmail, tables)
    else some (.ok (tables.users.rows.countP (·.id = id)), edit tables id displayName email now)

/-! ## The service -/

abbrev Action (Result : Type) := Program Op Answer AppError Result

def statement (op : Op) : Action (Answer op) := perform op

/-- One statement with `map_err(AppError::Internal)?`. -/
def query (op : Op) : Action (Rows op) := do
  match ← statement op with
  | .ok rows => pure rows
  | .error _ => fail .internal

def requireAuthenticated : AuthContext → Except AppError Unit
  | .user .. | .device _ => .ok ()
  | .anonymous => .error (.forbidden "authentication required")

/-- `caller`. -/
def callerId : AuthContext → Except AppError Uuid
  | .user id _ => .ok id
  | .device _ | .anonymous => .error (.forbidden "must be authenticated as a household user")

def requireAdminOrSelf (caller : AuthContext) (userId : Uuid) : Except AppError Unit := do
  requireAuthenticated caller
  if (← callerId caller) = userId then .ok () else requireAdmin caller

variable (hashing : Hashing) (printId : Uuid → Text)

/-- The login that goes with an address; without one it is the identifier. -/
def loginOf (userId : Uuid) (address : Option Text) : Text :=
  hashing.toLowercase (address.getD (printId userId))

/-- The credential is moved to another login, under the same hash. -/
def moveLogin (existing : CredentialRow) (userId : Uuid) (subject : Text) (now : ℕ) : Action Unit :=
  match existing.secret with
  | none => fail .internal
  | some secret => do
    match ← statement (.user (.setPassword existing.id userId subject secret now)) with
    | .ok () => pure ()
    | .error .credentialAlreadyLinked =>
      fail (.conflict "another account already signs in with that email address")
    | .error _ => fail .internal

/-- The login follows the new address; most edits find it there. -/
def repoint (userId : Uuid) (address : Option Text) (now : ℕ) : Action Unit := do
  match ← query (.user (.findPassword userId)) with
  | none => pure ()
  | some existing =>
    if loginOf hashing printId userId address ≠ existing.subject then
      moveLogin existing userId (loginOf hashing printId userId address) now
    else pure ()

def load (id : Uuid) : Action UserRow := do
  match ← query (.user (.findById id)) with
  | some row => pure row
  | none => fail (.notFound "household user not found")

/-- The row of the user is written and read back. -/
def store (userId : Uuid) (displayName : Text) (address : Option Text) (now : ℕ) :
    Action UserRow := do
  match ← statement (.updateProfile userId displayName.trim address now) with
  | .ok affected =>
    if affected = 0 then fail (.notFound "household user not found") else load userId
  | .error .duplicateUserEmail => fail (.conflict "a household user with that email already exists")
  | .error _ => fail .internal

def updateProfile (caller : AuthContext) (userId : Uuid) (displayName : Text)
    (email : Option Text) (now : ℕ) : Action UserRow := do
  Program.ofExcept (requireAdminOrSelf caller userId)
  Program.ofExcept (validateDisplayName displayName)
  let address ← Program.ofExcept (validateEmail hashing email)
  repoint hashing printId userId address now
  store userId displayName address now

/-! ## What a call does -/

/-- The user signs in with something else than the login of the address. -/
def Moves (tables : Tables) (userId : Uuid) (address : Option Text) : Bool :=
  (tables.findPassword userId).any fun existing =>
    loginOf hashing printId userId address ≠ existing.subject

/-- The password of the user has a hash, and no other one has the login. -/
def Movable (tables : Tables) (userId : Uuid) (subject : Text) : Bool :=
  (tables.users.find userId).isSome ∧
    (tables.findPassword userId).any (fun existing => existing.secret.isSome) ∧
    ¬ tables.credentials.rows.any fun row =>
      ¬ Tables.isPasswordOf userId row ∧ row.kind = .password ∧ row.subject = subject

/-- The edit gets as far as the login and moves it: the caller may edit, the
name is one, the login has to move and can, and neither of the first two
statements, which read and write the credential, fails. -/
structure MovesLogin (caller : AuthContext) (userId : Uuid) (displayName : Text)
    (address : Option Text) (tables : Tables) (faults : List Bool) : Prop where
  allowed : requireAdminOrSelf caller userId = .ok ()
  named : validateDisplayName displayName = .ok ()
  moves : Moves hashing printId tables userId address = true
  movable : Movable tables userId (loginOf hashing printId userId address) = true
  faults : faults.take 2 = [false, false]

/-- The runs of `repoint`: it fails and changes nothing, finds the login in
place, or moves it. -/
inductive Repointed (userId : Uuid) (address : Option Text) (tables : Tables) :
    List Bool → Except AppError Unit → Tables → Prop
  | failed {error : AppError} {faults : List Bool} (hfaults : faults.length ≤ 2)
      (hstuck : faults.take 2 = [false, false] →
        Movable tables userId (loginOf hashing printId userId address) = false) :
      Repointed userId address tables faults (.error error) tables
  | kept (hkept : Moves hashing printId tables userId address = false) :
      Repointed userId address tables [false] (.ok ()) tables
  | moved {existing : CredentialRow} {secret : Text} {now : ℕ} {after : Tables}
      (hexisting : tables.findPassword userId = some existing)
      (hsubject : loginOf hashing printId userId address ≠ existing.subject)
      (hsecret : existing.secret = some secret)
      (hset : tables.setPassword existing.id userId (loginOf hashing printId userId address)
        secret now = .ok after) :
      Repointed userId address tables [false, false] (.ok ()) after

variable {hashing printId}
variable {userId : Uuid} {address : Option Text} {displayName : Text} {now : ℕ}
variable {tables between final : Tables} {faults : List Bool}

theorem eval_statement {Result : Type} {op : Op} {next : Answer op → Action Result}
    {result : Except AppError Result}
    (heval : (statement op >>= next).eval exec tables faults = some (result, final)) :
    ∃ fault rest answer after, faults = fault :: rest ∧
      exec fault op tables = some (answer, after) ∧
      (next answer).eval exec after rest = some (result, final) := by
  cases faults with
  | nil => cases heval
  | cons fault rest =>
    obtain ⟨⟨answer, after⟩, hexec, hrest⟩ := Option.bind_eq_some_iff.mp heval
    exact ⟨fault, rest, answer, after, rfl, hexec, hrest⟩

theorem eval_done {Result : Type} {found result : Except AppError Result}
    (heval : (Program.done found : Action Result).eval exec tables faults =
      some (result, final)) : faults = [] ∧ result = found ∧ final = tables := by
  cases faults with
  | nil =>
    cases heval
    exact ⟨rfl, rfl, rfl⟩
  | cons fault faults => cases heval

theorem movable_iff {existing : CredentialRow} {secret subject : Text}
    (hexisting : tables.findPassword userId = some existing)
    (hsecret : existing.secret = some secret) :
    Movable tables userId subject = true ↔
      ∃ after, tables.setPassword existing.id userId subject secret now = .ok after := by
  simp only [Movable, decide_eq_true_eq]
  constructor
  · rintro ⟨huser, -, hfree⟩
    have hthere : ¬ (tables.users.find userId).isNone = true := by
      simpa [Option.isSome_iff_ne_none] using huser
    rw [Tables.setPassword, if_neg hthere, if_neg hfree, if_pos (by simp [hexisting])]
    exact ⟨_, rfl⟩
  · rintro ⟨after, hset⟩
    have huser := (Tables.setPassword_of_findPassword hset hexisting).1
    unfold Tables.setPassword at hset
    split at hset
    · cases hset
    split at hset
    · cases hset
    next hfree => exact ⟨huser, by simp [hexisting, hsecret], hfree⟩

theorem repoint_runs {result : Except AppError Unit}
    (heval : (repoint hashing printId userId address now).eval exec tables faults =
      some (result, between)) :
    Repointed hashing printId userId address tables faults result between := by
  simp only [repoint, query, bind_assoc] at heval
  obtain ⟨fault, rest, answer, after, rfl, hexec, heval⟩ := eval_statement heval
  cases fault with
  | true =>
    cases hexec
    obtain ⟨rfl, rfl, rfl⟩ := eval_done heval
    exact .failed (by simp) (by simp)
  | false =>
    cases hexec
    simp only [pure_bind] at heval
    cases hfind : tables.findPassword userId with
    | none =>
      rw [hfind] at heval
      obtain ⟨rfl, rfl, rfl⟩ := eval_done heval
      exact .kept (by simp [Moves, hfind])
    | some existing =>
      simp only [hfind] at heval
      by_cases hsubject : loginOf hashing printId userId address = existing.subject
      · rw [if_neg (by simpa using hsubject)] at heval
        obtain ⟨rfl, rfl, rfl⟩ := eval_done heval
        exact .kept (by simp [Moves, hfind, hsubject])
      rw [if_pos hsubject, moveLogin] at heval
      cases hsecret : existing.secret with
      | none =>
        rw [hsecret] at heval
        obtain ⟨rfl, rfl, rfl⟩ := eval_done heval
        exact .failed (by simp) (by simp)
      | some secret =>
        rw [hsecret] at heval
        obtain ⟨fault, rest, answer, after, rfl, hexec, heval⟩ := eval_statement heval
        cases fault with
        | true =>
          cases hexec
          obtain ⟨rfl, rfl, rfl⟩ := eval_done heval
          exact .failed (by simp) (by simp)
        | false =>
          simp only [exec, User.exec, committed] at hexec
          cases hset : tables.setPassword existing.id userId
              (loginOf hashing printId userId address) secret now with
          | error error =>
            have hstuck : Movable tables userId (loginOf hashing printId userId address) =
                false := by
              have hnone := (not_congr (movable_iff hfind hsecret)).mpr
                (by rw [hset]; rintro ⟨after, hok⟩; cases hok)
              simpa using hnone
            rw [hset] at hexec
            cases hexec
            cases error <;>
            · obtain ⟨rfl, rfl, rfl⟩ := eval_done heval
              exact .failed (by simp) fun _ => hstuck
          | ok moved =>
            rw [hset] at hexec
            cases hexec
            obtain ⟨rfl, rfl, rfl⟩ := eval_done heval
            exact .moved hfind hsubject hsecret hset

/-- The runs of `store`: the row of the user is not written, written and not
read back, or written and read. -/
inductive Stored (userId : Uuid) (displayName : Text) (address : Option Text) (now : ℕ)
    (tables : Tables) : List Bool → Except AppError UserRow → Tables → Prop
  | refused {error : AppError} (fault : Bool) :
      Stored userId displayName address now tables [fault] (.error error) tables
  | unread {error : AppError} :
      Stored userId displayName address now tables [false, true] (.error error)
        (edit tables userId displayName.trim address now)
  | written {old : UserRow} (hold : tables.users.find userId = some old) :
      Stored userId displayName address now tables [false, false]
        (.ok { old with displayName := displayName.trim, email := address, updatedAt := now })
        (edit tables userId displayName.trim address now)

theorem find_edit {old : UserRow} (hold : tables.users.find userId = some old) :
    (edit tables userId displayName address now).users.find userId =
      some { old with displayName := displayName, email := address, updatedAt := now } := by
  simp [edit, hold]

variable {result : Except AppError UserRow}

theorem store_runs (heval : (store userId displayName address now).eval exec tables faults =
    some (result, final)) : Stored userId displayName address now tables faults result final := by
  obtain ⟨fault, rest, answer, after, rfl, hexec, heval⟩ := eval_statement heval
  cases fault with
  | true =>
    cases hexec
    obtain ⟨rfl, rfl, rfl⟩ := eval_done heval
    exact .refused true
  | false =>
    cases hfind : tables.users.find userId with
    | none =>
      have hcount : tables.users.rows.countP (·.id = userId) = 0 := Keyed.countP_eq_zero.mpr hfind
      simp only [exec, hfind, hcount, Bool.false_eq_true, if_false, false_and,
        Option.isSome_none] at hexec
      cases hexec
      rw [edit, Keyed.update_of_find_eq_none hfind] at heval
      obtain ⟨rfl, rfl, rfl⟩ := eval_done heval
      exact .refused false
    | some old =>
      cases htaken : isTaken tables userId address with
      | true =>
        simp only [exec, hfind, htaken, Bool.false_eq_true, if_false, and_self, if_true,
          Option.isSome_some] at hexec
        cases hexec
        obtain ⟨rfl, rfl, rfl⟩ := eval_done heval
        exact .refused false
      | false =>
        have hcount : tables.users.rows.countP (·.id = userId) ≠ 0 := by
          intro hzero
          rw [Keyed.countP_eq_zero.mp hzero] at hfind
          cases hfind
        simp only [exec, hfind, htaken, Bool.false_eq_true, if_false, and_false] at hexec
        cases hexec
        simp only [hcount, if_false, load, query, bind_assoc] at heval
        obtain ⟨fault, rest, answer, after, rfl, hexec, heval⟩ := eval_statement heval
        cases fault <;> cases hexec
        · simp only [pure_bind, find_edit hfind] at heval
          obtain ⟨rfl, rfl, rfl⟩ := eval_done heval
          exact .written hfind
        · obtain ⟨rfl, rfl, rfl⟩ := eval_done heval
          exact .unread

/-- The runs of `update_profile`: it stops before the user's row, or goes on to
write it. -/
inductive Edited (hashing : Hashing) (printId : Uuid → Text) (caller : AuthContext)
    (userId : Uuid) (displayName : Text) (email : Option Text) (now : ℕ) (tables : Tables) :
    List Bool → Except AppError UserRow → Tables → Prop
  | rejected {error : AppError} {faults : List Bool} (hfaults : faults.length ≤ 2)
      (hlogin : ∀ address, validateEmail hashing email = .ok address →
        ¬ MovesLogin hashing printId caller userId displayName address tables faults) :
      Edited hashing printId caller userId displayName email now tables faults (.error error)
        tables
  | stored {address : Option Text} {between after : Tables} {result : Except AppError UserRow}
      {first rest : List Bool} (hallowed : requireAdminOrSelf caller userId = .ok ())
      (hnamed : validateDisplayName displayName = .ok ())
      (haddress : validateEmail hashing email = .ok address)
      (hrepointed : Repointed hashing printId userId address tables first (.ok ()) between)
      (hstored : Stored userId displayName address now between rest result after) :
      Edited hashing printId caller userId displayName email now tables (first ++ rest) result
        after

variable {caller : AuthContext} {email : Option Text}

theorem updateProfile_runs
    (heval : (updateProfile hashing printId caller userId displayName email now).eval exec tables
      faults = some (result, final)) :
    Edited hashing printId caller userId displayName email now tables faults result final := by
  unfold updateProfile at heval
  cases hallowed : requireAdminOrSelf caller userId with
  | error error =>
    rw [hallowed] at heval
    obtain ⟨rfl, rfl, rfl⟩ := eval_done heval
    exact .rejected (by simp) fun _ _ hmoves => nomatch hallowed.symm.trans hmoves.allowed
  | ok allowed =>
    cases hnamed : validateDisplayName displayName with
    | error error =>
      rw [hallowed, hnamed] at heval
      obtain ⟨rfl, rfl, rfl⟩ := eval_done heval
      exact .rejected (by simp) fun _ _ hmoves => nomatch hnamed.symm.trans hmoves.named
    | ok named =>
      cases haddress : validateEmail hashing email with
      | error error =>
        rw [hallowed, hnamed, haddress] at heval
        obtain ⟨rfl, rfl, rfl⟩ := eval_done heval
        exact .rejected (by simp) fun _ hvalid => nomatch haddress.symm.trans hvalid
      | ok address =>
        rw [hallowed, hnamed, haddress] at heval
        change (repoint hashing printId userId address now >>= fun _ =>
          store userId displayName address now).eval exec tables faults = _ at heval
        obtain ⟨first, rest, rfl, ⟨_, between, hfirst, hrest⟩ | ⟨error, hfirst, rfl, rfl⟩⟩ :=
          Program.eval_bind heval
        · exact .stored hallowed hnamed haddress (repoint_runs hfirst) (store_runs hrest)
        · rw [List.append_nil]
          cases repoint_runs hfirst with
          | failed hfaults hstuck =>
            refine .rejected hfaults fun found hfound hmoves => ?_
            cases haddress.symm.trans hfound
            have hmovable := hmoves.movable
            rw [hstuck hmoves.faults] at hmovable
            cases hmovable

/-! ## The login -/

/-- The index of the passwords: a user has one at most. -/
def OnePassword (tables : Tables) (userId : Uuid) : Prop :=
  ∀ row ∈ tables.credentials.rows, Tables.isPasswordOf userId row = true →
    tables.findPassword userId = some row
  deriving Decidable

/-- A credential with the login of its user's password replaced. -/
def relogin (userId : Uuid) (subject : Text) (row : CredentialRow) : CredentialRow :=
  if Tables.isPasswordOf userId row then { row with subject := subject } else row

section

variable {first : List Bool}
  (hrepointed : Repointed hashing printId userId address tables first (.ok ()) between)
include hrepointed

/-- Once repointed, the user's password signs in under the new login, with the
hash it had, and no other credential is changed. -/
theorem Repointed.rows (hone : OnePassword tables userId) :
    between.credentials.rows = tables.credentials.rows.map
      (relogin userId (loginOf hashing printId userId address)) := by
  cases hrepointed with
  | kept hkept =>
    have hsame : ∀ row ∈ tables.credentials.rows,
        relogin userId (loginOf hashing printId userId address) row = row := by
      intro row hrow
      by_cases hpassword : Tables.isPasswordOf userId row = true
      · have hsubject : loginOf hashing printId userId address = row.subject := by
          simpa [Moves, hone row hrow hpassword] using hkept
        rw [relogin, if_pos hpassword, hsubject]
      · rw [relogin, if_neg hpassword]
    exact ((List.map_congr_left hsame).trans (List.map_id _)).symm
  | @moved existing secret now _ hexisting _ hsecret hset =>
    obtain ⟨-, rfl⟩ := Tables.setPassword_of_findPassword hset hexisting
    apply List.map_congr_left
    intro row hrow
    by_cases hpassword : Tables.isPasswordOf userId row = true
    · have hrowSecret : row.secret = some secret := by
        rw [hone row hrow hpassword] at hexisting
        rw [Option.some.inj hexisting, hsecret]
      rw [relogin, if_pos hpassword, if_pos hpassword, ← hrowSecret]
    · rw [relogin, if_neg hpassword, if_neg hpassword]

/-- The credentials change exactly when the login has to move. -/
theorem Repointed.credentials_eq_iff : between.credentials = tables.credentials ↔
    Moves hashing printId tables userId address = false := by
  cases hrepointed with
  | kept hkept => exact ⟨fun _ => hkept, fun _ => rfl⟩
  | @moved existing secret _ _ hexisting hsubject _ hset =>
    obtain ⟨-, rfl⟩ := Tables.setPassword_of_findPassword hset hexisting
    have hmoves : Moves hashing printId tables userId address = true := by
      simpa [Moves, hexisting] using hsubject
    refine ⟨fun hsame => ?_, fun hkept => absurd (hkept.symm.trans hmoves) Bool.false_ne_true⟩
    have hmem : existing ∈ tables.credentials.rows := List.mem_of_find?_eq_some hexisting
    have hpassword : Tables.isPasswordOf userId existing = true := List.find?_some hexisting
    have hrows := List.map_eq_map_iff.mp ((congrArg Keyed.rows hsame).trans (List.map_id _).symm)
    have hrow := hrows existing hmem
    rw [if_pos hpassword] at hrow
    exact absurd (congrArg CredentialRow.subject hrow) hsubject

end

theorem Stored.credentials {rest : List Bool}
    (hstored : Stored userId displayName address now between rest result final) :
    final.credentials = between.credentials := by
  cases hstored <;> rfl

section

variable (hedited : Edited hashing printId caller userId displayName email now tables faults
  result final)
include hedited

/-- An edit changes the credentials exactly when it moves the login. -/
theorem Edited.credentials_eq_iff (haddress : validateEmail hashing email = .ok address) :
    final.credentials = tables.credentials ↔
      ¬ MovesLogin hashing printId caller userId displayName address tables faults := by
  cases hedited with
  | rejected _ hlogin => exact ⟨fun _ => hlogin address haddress, fun _ => rfl⟩
  | stored hallowed hnamed hfound hrepointed hstored =>
    cases haddress.symm.trans hfound
    rw [hstored.credentials, hrepointed.credentials_eq_iff]
    cases hrepointed with
    | kept hkept =>
      exact ⟨fun _ hmoves => absurd (hkept.symm.trans hmoves.moves) Bool.false_ne_true,
        fun _ => hkept⟩
    | moved hexisting hsubject hsecret hset =>
      have hmoves : Moves hashing printId tables userId address = true := by
        simpa [Moves, hexisting] using hsubject
      refine ⟨fun hkept => absurd (hkept.symm.trans hmoves) Bool.false_ne_true,
        fun hnot => absurd ?_ hnot⟩
      exact ⟨hallowed, hnamed, hmoves, (movable_iff hexisting hsecret).mpr ⟨_, hset⟩, rfl⟩

/-- A call that fails changes nothing exactly when it has not moved the login,
and has not written the row and failed to read it back. -/
theorem Edited.eq_iff_of_error {error : AppError} (herror : result = .error error) :
    final = tables ↔ ∀ address, validateEmail hashing email = .ok address →
      ¬ MovesLogin hashing printId caller userId displayName address tables faults ∧
        (faults = [false, false, true] →
          edit tables userId displayName.trim address now = tables) := by
  cases haddress : validateEmail hashing email with
  | error refusal =>
    cases hedited with
    | rejected => simp
    | stored _ _ hfound => cases haddress.symm.trans hfound
  | ok address =>
    have hlogin := hedited.credentials_eq_iff haddress
    simp only [Except.ok.injEq, forall_eq']
    by_cases hkept : final.credentials = tables.credentials
    swap
    · exact ⟨fun hsame => absurd (congrArg Tables.credentials hsame) hkept,
        fun hnot => absurd (hlogin.mpr hnot.1) hkept⟩
    have hnot := hlogin.mp hkept
    cases hedited with
    | rejected hshort =>
      refine ⟨fun _ => ⟨hnot, ?_⟩, fun _ => rfl⟩
      rintro rfl
      simp at hshort
    | stored _ _ hfound hrepointed hstored =>
      cases haddress.symm.trans hfound
      rw [hstored.credentials, hrepointed.credentials_eq_iff] at hkept
      cases hrepointed with
      | moved hexisting hsubject => simp [Moves, hexisting, hsubject] at hkept
      | kept =>
        cases hstored with
        | refused => exact ⟨fun _ => ⟨hnot, by simp⟩, fun _ => rfl⟩
        | unread => exact ⟨fun hsame => ⟨hnot, fun _ => hsame⟩, fun hread => hread.2 rfl⟩
        | written => cases herror

end

/-- An edit that keeps the address changes the login exactly when it moves it,
which is when the login was not that of the address and nothing stops the edit
before; an edit that succeeds leaves the new address as the only login; and an
edit that fails changes nothing exactly when it has not moved the login and has
not written the row and failed to read it back. -/
theorem updateProfile_keeps_login_iff (hashing : Hashing) (printId : Uuid → Text)
    (caller : AuthContext) (userId : Uuid) (displayName : Text) (email : Option Text) (now : ℕ)
    {tables final : Tables} {faults : List Bool} {result : Except AppError UserRow}
    (hone : OnePassword tables userId)
    (hrun : (updateProfile hashing printId caller userId displayName email now).eval exec
      tables faults = some (result, final)) : (∀ user, tables.users.find userId = some user →
      validateEmail hashing email = .ok user.email →
        (final.credentials = tables.credentials ↔
          ¬ MovesLogin hashing printId caller userId displayName user.email tables faults)) ∧
    (∀ profile, result = .ok profile →
      ∃ address, validateEmail hashing email = .ok address ∧ profile.email = address ∧
        final.users.find userId = some profile ∧
        final.credentials.rows = tables.credentials.rows.map
          (relogin userId (loginOf hashing printId userId address))) ∧
    ∀ error, result = .error error →
      (final = tables ↔ ∀ address, validateEmail hashing email = .ok address →
        ¬ MovesLogin hashing printId caller userId displayName address tables faults ∧
          (faults = [false, false, true] →
            edit tables userId displayName.trim address now = tables)) := by
  have hedited := updateProfile_runs hrun
  refine ⟨fun user _ hemail => hedited.credentials_eq_iff hemail, ?_,
    fun error herror => hedited.eq_iff_of_error herror⟩
  rintro profile rfl
  cases hedited with
  | stored _ _ haddress hrepointed hstored =>
    have hrows := congrArg Keyed.rows hstored.credentials
    cases hstored with
    | written hold => exact ⟨_, haddress, rfl, find_edit hold, hrows.trans (hrepointed.rows hone)⟩

/-! ## Edits that do and do not keep the login -/

/-- Ann has no address and signs in with a name; Bob has one and signs in with
it; Cal has one and no password yet. -/
def household : Tables where
  users := ⟨[⟨1, "Ann".toList, none, .admin, true, 0, 0⟩,
    ⟨2, "Bob".toList, some "bob@b.c".toList, .member, true, 0, 0⟩,
    ⟨3, "Cal".toList, some "cal@b.c".toList, .member, true, 0, 0⟩], by decide⟩
  credentials := ⟨[⟨1, 1, .password, "ann".toList, some "hash".toList, 0⟩,
    ⟨2, 2, .password, "bob@b.c".toList, some "hash".toList, 0⟩], by decide⟩
  enrolments := .empty
  sessions := .empty

def hyphens (id : Uuid) : Text := List.replicate id '-'


/-- Bob takes another address. -/
theorem updateProfile_keeps_login_iff_bob :
    ∃ run ∈ (updateProfile plainHashing hyphens (.user 2 .member) 2 "Bob".toList
        (some "rob@b.c".toList) 1).eval exec household [false, false, false, false],
      run.2.credentials.rows = household.credentials.rows.map (relogin 2 "rob@b.c".toList) := by
  have hone : OnePassword household 2 := by decide +kernel
  have hrun : ∃ run ∈ (updateProfile plainHashing hyphens (.user 2 .member) 2 "Bob".toList
      (some "rob@b.c".toList) 1).eval exec household [false, false, false, false],
      run.1.toOption.isSome = true := by
    decide +kernel
  have hemail : validateEmail plainHashing (some "rob@b.c".toList) =
      .ok (some "rob@b.c".toList) := by
    decide +kernel
  obtain ⟨⟨result, final⟩, hrun, hok⟩ := hrun
  cases result with
  | error error => cases hok
  | ok profile =>
    obtain ⟨address, haddress, -, -, hrows⟩ :=
      (updateProfile_keeps_login_iff plainHashing hyphens _ 2 _ _ 1 hone hrun).2.1 profile rfl
    rw [hemail] at haddress
    cases haddress
    have hlogin : loginOf plainHashing hyphens 2 (some "rob@b.c".toList) =
        "rob@b.c".toList := by
      decide +kernel
    exact ⟨_, hrun, hlogin ▸ hrows⟩

/-- The first admin, who has no address and keeps it so, loses the name to sign
in with; and an address that somebody else has is refused after the login has
moved to it. -/
theorem updateProfile_moves_login :
    (∃ setup ∈ (Setup.setupAdmin plainHashing (Setup.requestOf 1 "ann".toList)).eval
        Setup.exec Setup.emptyBox [false, false, false, false, false],
      (setup.2.tables.users.find 1).map (·.email) = some none ∧
        (setup.2.tables.findPassword 1).map (·.subject) = some "ann".toList ∧
        ∃ run ∈ (updateProfile plainHashing hyphens (.user 1 .admin) 1 "Ann".toList none
            1).eval exec setup.2.tables [false, false, false, false],
          run.1.toOption.isSome = true ∧
            (run.2.findPassword 1).map (·.subject) = some (hyphens 1)) ∧
    ∃ run ∈ (updateProfile plainHashing hyphens (.user 1 .admin) 1 "Ann".toList
        (some "cal@b.c".toList) 1).eval exec household [false, false, false],
      run.1 = .error (.conflict "a household user with that email already exists") ∧
        (run.2.findPassword 1).map (·.subject) = some "cal@b.c".toList ∧
        run.2.users = household.users := by
  decide +kernel

end Wardnet.User.Profile
