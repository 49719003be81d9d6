import WebhostBilling.Auth.AuthTables
import WebhostBilling.Concurrency.Threads

/-!
# The staff service

A transaction takes the advisory lock, reads the actor, reads what it is about, checks it, and
writes. Each of these is a statement of its own, and what it reads may have been written since the
one before; only the lock keeps two such transactions from one another.
-/

namespace WebhostBilling

open Store Concurrency

namespace Auth

structure EmailVerificationToken where
  userId : RowId
  expiresAt : ℕ
  usedAt : Option ℕ := none

structure StaffStore where
  auth : AuthDatabase := {}
  emailVerificationTokens : Table EmailVerificationToken := ∅
  locked : Bool := false

/-- What a statement is told from outside: the clock, and that it is the one during which the
transaction is aborted (its connection is lost, or it takes too long). -/
structure StaffWorld where
  now : ℕ := 0
  aborted : Bool := false

structure StaffSettings where
  emailVerificationTtlMilliseconds : ℕ
  passwordResetTtlMilliseconds : ℕ

def activeFullAdministrator (user : User) : Bool :=
  user.role = .admin ∧ user.status = .active ∧ user.deleted = false ∧ user.emailVerified = true ∧
    user.staffRole = some .fullAdministrator

/-- What `lockAndAuthorize` and the count of the remaining administrators ask of a user: the
password is set too. -/
def mayChangeStaff (user : User) : Bool :=
  activeFullAdministrator user = true ∧ user.passwordHash.isSome

namespace StaffService

/-! ## Errors -/

def unauthorized : Failure :=
  .application .forbidden
    "Staff changes require an active full administrator with two-factor authentication."

def accountTaken : Failure := .application .conflict "An account with this email already exists."

def accountNotFound : Failure := .application .conflict "Administrator account was not found."

def ownAccount : Failure :=
  .application .conflict "You cannot disable or demote your own administrator account."

def lastAdministrator : Failure :=
  .application .conflict "At least one active full administrator must remain."

def notPending : Failure :=
  .application .conflict "Only a pending administrator can receive another invitation."

def transactionAborted : Failure := .error "P2028"

/-! ## The transaction -/

/-- `lockAndAuthorize`, once it has the lock. -/
def authorize (actorId : RowId) (db : AuthDatabase) : Except Failure Unit := do
  let user ← orThrow unauthorized (db.users.get? actorId)
  require (mayChangeStaff user = true ∧ db.secondFactorEnabled actorId = true) unauthorized

/-- How far an operation is.  `found` is what it has read of the account. -/
inductive StaffState (ι ρ : Type)
  | waiting (input : ι)
  | authorizing (input : ι)
  | reading (input : ι)
  | checking (input : ι) (found : ρ)
  | writing (input : ι) (found : ρ)
  | done (result : Except Failure Unit)

/-- What tells the operations apart: who asks for it, what is read of the users, what of them is
looked at once more, and what is written. -/
structure StaffMutation (ι ρ : Type) where
  actorId : ι → RowId
  read : ι → Table User → Except Failure ρ
  check : ι → ρ → Table User → Except Failure Unit
  write : StaffWorld → ι → ρ → StaffStore → Except Failure StaffStore

section

variable {ι ρ α : Type}

def statement (w : StaffWorld) (s : StaffStore) (result : Except Failure α)
    (next : α → StaffStore × StaffState ι ρ) : StaffStore × StaffState ι ρ :=
  match (do require (w.aborted = false) transactionAborted; result) with
  | .ok a => next a
  | .error e => ({ s with locked := false }, .done (.error e))

def StaffMutation.step (m : StaffMutation ι ρ) (w : StaffWorld) (s : StaffStore) :
    StaffState ι ρ → Option (StaffStore × StaffState ι ρ)
  | .waiting input =>
    if w.aborted = true then some (s, .done (.error transactionAborted))
    else if s.locked = true then none
    else some ({ s with locked := true }, .authorizing input)
  | .authorizing input =>
    some (statement w s (authorize (m.actorId input) s.auth) fun _ => (s, .reading input))
  | .reading input =>
    some (statement w s (m.read input s.auth.users) fun found => (s, .checking input found))
  | .checking input found =>
    some (statement w s (m.check input found s.auth.users) fun _ => (s, .writing input found))
  | .writing input found =>
    some (statement w s (m.write w input found s) fun s' =>
      ({ s' with locked := false }, .done (.ok ())))
  | .done _ => none

def staffMutation (m : StaffMutation ι ρ) : Operation StaffStore StaffWorld where
  Request := ι
  Local := StaffState ι ρ
  start := .waiting
  step := m.step

end

/-! ## Invitations -/

/-- `invalidateInvitation`. -/
def invalidateInvitation (userId now : ℕ) (s : StaffStore) : StaffStore :=
  { s with
    auth := { s.auth with
      passwordResetTokens := s.auth.passwordResetTokens.updateWhere (fun _ token =>
        token.userId = userId ∧ token.usedAt = none) fun token => { token with usedAt := some now } }
    emailVerificationTokens := s.emailVerificationTokens.updateWhere (fun _ token =>
      token.userId = userId ∧ token.usedAt = none) fun token => { token with usedAt := some now } }

variable (settings : StaffSettings)

/-- `queueInvitation`: a token for the password, and one for the e-mail address unless it is
verified. -/
def queueInvitation (userId : RowId) (user : User) (now : ℕ) (s : StaffStore) : StaffStore :=
  { s with
    auth := { s.auth with
      passwordResetTokens := s.auth.passwordResetTokens.insert
        { userId, expiresAt := now + settings.passwordResetTtlMilliseconds } }
    emailVerificationTokens :=
      if user.emailVerified = true then s.emailVerificationTokens
      else s.emailVerificationTokens.insert
        { userId, expiresAt := now + settings.emailVerificationTtlMilliseconds } }

/-! ## Create -/

structure CreateStaffRequest where
  actorId : RowId
  email : String
  staffRole : StaffRole

def invited (input : CreateStaffRequest) : User where
  email := input.email
  role := .admin
  status := .pendingVerification
  staffRole := some input.staffRole

/-- Nothing is read: that the address is free is left to the unique key, whose error is caught. -/
def create : StaffMutation CreateStaffRequest Unit where
  actorId input := input.actorId
  read _ _ := pure ()
  check _ _ _ := pure ()
  write w input _ s := do
    require (s.auth.users.any (fun _ user => user.email = input.email) = false) accountTaken
    return queueInvitation settings s.auth.users.size (invited input) w.now
      { s with auth := { s.auth with users := s.auth.users.insert (invited input) } }

/-! ## Update -/

structure UpdateStaffRequest where
  actorId : RowId
  userId : RowId
  staffRole : StaffRole
  enabled : Bool

def UpdateStaffRequest.demotes (input : UpdateStaffRequest) : Bool :=
  input.enabled = false ∨ input.staffRole ≠ .fullAdministrator

def findAccount (userId : RowId) (users : Table User) : Option User :=
  (users.get? userId).filter fun user =>
    user.role = .admin ∧ user.staffRole.isSome ∧ user.deleted = false

def removesActiveFull (input : UpdateStaffRequest) (user : User) : Bool :=
  user.status = .active ∧ user.staffRole = some .fullAdministrator ∧ input.demotes = true

/-- `user.update`.  The status is made of what was read before. -/
def changeAccess (input : UpdateStaffRequest) (found user : User) : User :=
  { user with
    status :=
      if input.enabled = false then .disabled
      else if found.emailVerified = true ∧ found.passwordHash.isSome then .active
      else .pendingVerification
    staffRole := some input.staffRole }

def update : StaffMutation UpdateStaffRequest User where
  actorId input := input.actorId
  read input users := do
    let user ← orThrow accountNotFound (findAccount input.userId users)
    require (¬ (input.userId = input.actorId ∧ input.demotes = true)) ownAccount
    return user
  check input user users :=
    require (removesActiveFull input user = true →
      users.any (fun id other => id ≠ input.userId ∧ mayChangeStaff other = true) = true)
      lastAdministrator
  write w input user s := do
    let auth ← AuthDatabase.revokeSessions
      { s.auth with users := s.auth.users.update input.userId (changeAccess input user) }
      (fun _ session => session.userId = input.userId) w.now
    let changed : StaffStore :=
      { s with auth := auth.supersedeAdminChallenges input.userId w.now }
    return if input.enabled = false then invalidateInvitation input.userId w.now changed
      else changed

/-! ## Resend -/

structure ResendStaffRequest where
  actorId : RowId
  userId : RowId

def pendingInvitation (user : User) : Bool :=
  user.status = .pendingVerification ∨ user.status = .active ∧ user.passwordHash = none

def resend : StaffMutation ResendStaffRequest User where
  actorId input := input.actorId
  read input users :=
    orThrow notPending ((findAccount input.userId users).filter pendingInvitation)
  check _ _ _ := pure ()
  write w input user s :=
    pure (queueInvitation settings input.userId user w.now
      (invalidateInvitation input.userId w.now s))

/-! ## The operations -/

def elsewhere : Operation StaffStore StaffWorld where
  Request := StaffStore
  Local := Option StaffStore
  start := some
  step _ s pending := pending.map fun written =>
    ({ written with auth := { written.auth with users := s.auth.users }, locked := s.locked }, none)

inductive StaffKind
  | create
  | update
  | resend
  | elsewhere

def staffOperations : StaffKind → Operation StaffStore StaffWorld
  | .create => staffMutation (create settings)
  | .update => staffMutation update
  | .resend => staffMutation (resend settings)
  | .elsewhere => elsewhere

end StaffService

end Auth

end WebhostBilling
