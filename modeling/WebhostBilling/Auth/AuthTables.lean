import WebhostBilling.Database.Schema

/-!
# Users, sessions and challenges

Tokens are random, so a session, a challenge or a reset token is found by its position, which stands
for the token that only its owner has.  A password hash is salted and stands for itself too:
`passwordHashes` has one row for every hash that was ever made.

A credential or recovery code that is deleted keeps its place, and no query finds it.
-/

namespace WebhostBilling

open Store

namespace Auth

/-! ## Rows -/

inductive UserStatus
  | pendingVerification
  | active
  | suspended
  | disabled
deriving DecidableEq

structure User where
  email : String
  role : UserRole
  status : UserStatus := .pendingVerification
  passwordHash : Option RowId := none
  emailVerified : Bool := false
  deleted : Bool := false
  customer : Bool := false
  staffRole : Option StaffRole := none
  /-- The customer's preference for a code by e-mail. -/
  emailTwoStep : Bool := false

inductive AdministratorSessionMode
  | browser
  | remembered
  | legacy
deriving DecidableEq

/-- A row of `auth_sessions`. -/
structure AuthSession where
  userId : RowId
  mode : AdministratorSessionMode
  createdAt : ℕ
  expiresAt : ℕ
  lastSeenAt : ℕ
  revokedAt : Option ℕ := none
  twoFactorVerifiedAt : Option ℕ := none
deriving DecidableEq

structure AdminTotpCredential where
  userId : RowId
  /-- The secret that `secretCiphertext` decrypts to. -/
  secret : String
  enabledAt : Option ℕ := none
  lastUsedTimeStep : Option ℕ := none
  deleted : Bool := false
deriving DecidableEq

structure AdminRecoveryCode where
  credentialId : RowId
  codeHash : String
  usedAt : Option ℕ := none
  deleted : Bool := false

structure AdminLoginChallenge where
  userId : RowId
  expiresAt : ℕ
  ipAddressHash : String
  usedAt : Option ℕ := none
  failedAttempts : ℕ := 0

structure CustomerEmailChallenge where
  userId : RowId
  /-- The e-mail address and the password hash that the challenge was made for. -/
  credentialBinding : String × Option RowId
  /-- The code that `deliveryCiphertext` decrypts to. -/
  code : String
  ipAddressHash : String
  expiresAt : ℕ
  usedAt : Option ℕ := none
  failedAttempts : ℕ := 0

structure PasswordResetToken where
  userId : RowId
  expiresAt : ℕ
  usedAt : Option ℕ := none
deriving DecidableEq

/-- The tables of users and their credentials. -/
structure AuthDatabase where
  users : Table User := ∅
  passwordHashes : Table String := ∅
  authSessions : Table AuthSession := ∅
  adminTotpCredentials : Table AdminTotpCredential := ∅
  adminRecoveryCodes : Table AdminRecoveryCode := ∅
  adminLoginChallenges : Table AdminLoginChallenge := ∅
  customerEmailChallenges : Table CustomerEmailChallenge := ∅
  passwordResetTokens : Table PasswordResetToken := ∅

/-- What a step is told from outside: the clock, and what it draws at random. -/
structure AuthWorld where
  now : ℕ := 0
  /-- The six digits of `randomInt`. -/
  emailCode : String := ""
  /-- What `generateSecret` returns. -/
  secret : String := ""
  /-- What `createRecoveryCodes` returns. -/
  recoveryCodes : List String := []

structure AuthSettings where
  sessionTtlMilliseconds : ℕ
  passwordResetTtlMilliseconds : ℕ
  hotp : String → ℕ → String
  hashRecoveryCode : String → String

variable (settings : AuthSettings)

def AuthSettings.sessionIdleTtlMilliseconds : ℕ :=
  min settings.sessionTtlMilliseconds 3600000

/-! ## Sessions -/

def daysOf (n : ℕ) : ℕ := n * 86400000

def administratorSessionTtl (configuredTtl : ℕ) : AdministratorSessionMode → ℕ
  | .browser => min configuredTtl (daysOf 1)
  | .remembered => daysOf 30
  | .legacy => daysOf 365

def newSession (userId : RowId) (role : UserRole) (now : ℕ)
    (twoFactorVerified rememberDevice : Bool) : AuthSession :=
  let mode : AdministratorSessionMode := if rememberDevice = true then .remembered else .browser
  { userId
    mode
    createdAt := now
    expiresAt := now + match role with
      | .admin => administratorSessionTtl settings.sessionTtlMilliseconds mode
      | .customer => settings.sessionTtlMilliseconds
    lastSeenAt := now
    twoFactorVerifiedAt := if twoFactorVerified = true then some now else none }

def idleExpired (user : User) (session : AuthSession) (now : ℕ) : Bool :=
  (user.role ≠ .admin ∨ session.mode = .browser) ∧
    session.lastSeenAt + settings.sessionIdleTtlMilliseconds < now

namespace AuthDatabase

variable (db : AuthDatabase)

/-- `passwords.verify`. -/
def verifyPassword (passwordHash : RowId) (password : String) : Bool :=
  db.passwordHashes.get? passwordHash = some password

def credentialOf (userId : RowId) : Option (RowId × AdminTotpCredential) :=
  db.adminTotpCredentials.find? fun _ credential =>
    credential.userId = userId ∧ credential.deleted = false

def secondFactorEnabled (userId : RowId) : Bool :=
  (db.credentialOf userId).any fun entry => entry.2.enabledAt.isSome

def unusedRecoveryCodes (credentialId : RowId) : List (RowId × AdminRecoveryCode) :=
  db.adminRecoveryCodes.select fun _ code =>
    code.credentialId = credentialId ∧ code.usedAt = none ∧ code.deleted = false

def missingSecondFactor (user : User) (session : AuthSession) : Bool :=
  user.role = .admin ∧ db.secondFactorEnabled session.userId ∧ session.twoFactorVerifiedAt = none

/-- `authenticateSession` accepts the session. -/
def accepts (settings : AuthSettings) (now sessionId : ℕ) : Bool :=
  (db.authSessions.get? sessionId).any fun session =>
    (db.users.get? session.userId).any fun user =>
      session.revokedAt = none ∧ now < session.expiresAt ∧
        idleExpired settings user session now = false ∧ user.deleted = false ∧
        user.status = .active ∧ db.missingSecondFactor user session = false

/-- Revoke the sessions that satisfy `p` and are not revoked.  A session is not revoked before it
was created (`auth_sessions_time_order_check`). -/
def revokeSessions (p : RowId → AuthSession → Bool) (now : ℕ) : Except Failure AuthDatabase := do
  require (db.authSessions.any (fun id session =>
    p id session ∧ session.revokedAt = none ∧ now < session.createdAt) = false) .checkConstraint
  return { db with
    authSessions := db.authSessions.updateWhere (fun id session => p id session ∧
      session.revokedAt = none) fun session => { session with revokedAt := some now } }

def supersedeAdminChallenges (userId now : ℕ) : AuthDatabase :=
  { db with
    adminLoginChallenges := db.adminLoginChallenges.updateWhere (fun _ challenge =>
      challenge.userId = userId ∧ challenge.usedAt = none) fun challenge =>
        { challenge with usedAt := some now } }

def supersedeEmailChallenges (userId now : ℕ) : AuthDatabase :=
  { db with
    customerEmailChallenges := db.customerEmailChallenges.updateWhere (fun _ challenge =>
      challenge.userId = userId ∧ challenge.usedAt = none) fun challenge =>
        { challenge with usedAt := some now, code := "superseded" } }

def deleteRecoveryCodes (p : RowId → AdminRecoveryCode → Bool) : AuthDatabase :=
  { db with
    adminRecoveryCodes := db.adminRecoveryCodes.updateWhere p fun code =>
      { code with deleted := true } }

def createRecoveryCodes (credentialId : RowId) (codeHashes : List String) :
    Except Failure AuthDatabase := do
  require ((db.adminTotpCredentials.get? credentialId).any (·.deleted = false)) .checkConstraint
  require (codeHashes.Nodup ∧ db.adminRecoveryCodes.any (fun _ code =>
    code.deleted = false ∧ code.codeHash ∈ codeHashes) = false) .uniqueConstraint
  return { db with
    adminRecoveryCodes := db.adminRecoveryCodes.insertAll (codeHashes.map fun codeHash =>
      { credentialId, codeHash }) }

/-- `lockCustomer`: the customer, when it may sign in.  Its row stays locked until the transaction
ends. -/
def lockCustomer (userId : RowId) : Option User :=
  (db.users.get? userId).filter fun user =>
    user.role = .customer ∧ user.customer = true ∧ user.status = .active ∧ user.deleted = false ∧
      user.emailVerified = true ∧ user.passwordHash.isSome

end AuthDatabase

end Auth

end WebhostBilling
