import WebhostBilling.Auth.AuthTables
import WebhostBilling.Concurrency.Threads

/-!
# The authentication service

A login reads the user, checks the password, and then writes a session, or a challenge for a second
factor; a challenge is completed by a code.  For a customer the write is under the lock of the user
and compares once more what was read; for an administrator it is not.

A transaction whose reads are protected by a lock is one step; `beginTwoFactorSetup` and
`regenerateRecoveryCodes` write what an unlocked statement has seen, and are two.
-/

namespace WebhostBilling

open Store Concurrency

namespace TotpService

/-- `verify`: the time step that a code of six digits is for, the present one, the last or the
next.  (In the first half minute of the epoch there is no last one.) -/
def verify (hotp : String → ℕ → String) (secret code : String) (now : ℕ) : Option ℕ :=
  if code.toList.length = 6 ∧ code.toList.all Char.isDigit = true then
    let current := now / 30000
    [current, current - 1, current + 1].find? fun step => hotp secret step = code
  else none

end TotpService

namespace Auth

namespace AuthService

/-! ## Errors -/

def invalidCredentials : Failure :=
  .application .invalidCredentials "Email or password is incorrect."

def emailVerificationRequired : Failure :=
  .application .emailVerificationRequired "Email verification is required."

def authenticationRequired : Failure :=
  .application .authenticationRequired "Authentication is required."

def invalidTwoFactor : Failure :=
  .application .invalidTwoFactorCode "The two-factor challenge or code is invalid or expired."

def invalidToken : Failure :=
  .application .invalidOrExpiredToken "Token is invalid or has expired."

def administratorRequired : Failure :=
  .application .forbidden "Administrator access is required."

def customerRequired : Failure := .application .forbidden "Customer access is required."

def alreadyEnabled : Failure :=
  .application .conflict "Two-factor authentication is already enabled."

def sessionNotFound : Failure := .application .resourceNotFound "Session was not found."

def profileUnavailable : Failure := .error "Authenticated user profile is unavailable"

def rowMissing : Failure := .error "P2025"

/-! ## Challenges and factors -/

/-- A login challenge, by mail or of a second factor. -/
inductive Challenge
  | email (id : RowId)
  | admin (id : RowId)
deriving DecidableEq

inductive LoginResult
  | session (id : RowId)
  | challenge (challenge : Challenge)

inductive Factor
  | timeStep (step : ℕ)
  | recoveryCode (id : RowId)
deriving DecidableEq

def useTimeStep (step : ℕ) (credential : AdminTotpCredential) : AdminTotpCredential :=
  { credential with lastUsedTimeStep := some step }

def useRecoveryCode (now : ℕ) (code : AdminRecoveryCode) : AdminRecoveryCode :=
  { code with usedAt := some now }

variable (settings : AuthSettings) (w : AuthWorld)

def factorOf (credential : AdminTotpCredential) (codes : List (RowId × AdminRecoveryCode))
    (code : String) (now : ℕ) : Option Factor :=
  match TotpService.verify settings.hotp credential.secret code now with
  | some step => some (.timeStep step)
  | none => (codes.find? fun entry => entry.2.codeHash = settings.hashRecoveryCode code).map
      fun entry => .recoveryCode entry.1

def consumeFactor (credentialId now : ℕ) (factor : Factor) (db : AuthDatabase) :
    Except Failure AuthDatabase :=
  match factor with
  | .timeStep step => do
    let credential ← orThrow invalidTwoFactor (db.adminTotpCredentials.get? credentialId)
    require (credential.deleted = false ∧ ∀ last ∈ credential.lastUsedTimeStep, last < step)
      invalidTwoFactor
    return { db with
      adminTotpCredentials := db.adminTotpCredentials.update credentialId (useTimeStep step) }
  | .recoveryCode id => do
    let code ← orThrow invalidTwoFactor (db.adminRecoveryCodes.get? id)
    require (code.deleted = false ∧ code.usedAt = none) invalidTwoFactor
    return { db with adminRecoveryCodes := db.adminRecoveryCodes.update id (useRecoveryCode now) }

def createSession (session : AuthSession) (db : AuthDatabase) : AuthDatabase :=
  { db with authSessions := db.authSessions.insert session }

/-! ## Signing in -/

structure LoginRequest where
  email : String
  password : String
  rememberDevice : Bool := false
  ipAddressHash : String

inductive LoginState
  | locate (input : LoginRequest)
  | customer (input : LoginRequest) (userId passwordHash : RowId)
  | challenging (input : LoginRequest) (userId passwordHash : RowId)
  | inserting (input : LoginRequest) (userId passwordHash : RowId)
  | done (result : Except Failure LoginResult)

def locateLogin (input : LoginRequest) (db : AuthDatabase) : Except Failure LoginState := do
  let (userId, user) ← orThrow invalidCredentials
    (db.users.find? fun _ user => user.email = input.email)
  let passwordHash ← orThrow invalidCredentials user.passwordHash
  require (db.verifyPassword passwordHash input.password = true ∧ user.deleted = false)
    invalidCredentials
  require (user.status ≠ .pendingVerification ∧ user.emailVerified = true) emailVerificationRequired
  require (user.status = .active) invalidCredentials
  match user.role with
  | .customer => return .customer input userId passwordHash
  | .admin => do
    require (user.staffRole.isSome) profileUnavailable
    if db.secondFactorEnabled userId = true then return .challenging input userId passwordHash
    else return .inserting input userId passwordHash

def newEmailChallenge (input : LoginRequest) (userId : RowId) (user : User) :
    CustomerEmailChallenge where
  userId := userId
  credentialBinding := (user.email, user.passwordHash)
  code := w.emailCode
  ipAddressHash := input.ipAddressHash
  expiresAt := w.now + 300000

def loginCustomer (input : LoginRequest) (userId passwordHash : RowId) :
    Transaction AuthDatabase Failure LoginResult := fun db => do
  let current ← orThrow invalidCredentials (db.lockCustomer userId)
  require (current.passwordHash = some passwordHash) invalidCredentials
  if current.emailTwoStep = false then
    return (createSession (newSession settings userId .customer w.now false false) db,
      .session db.authSessions.size)
  else
    let superseded := db.supersedeEmailChallenges userId w.now
    return ({ superseded with
      customerEmailChallenges := superseded.customerEmailChallenges.insert
        (newEmailChallenge w input userId current) },
      .challenge (.email db.customerEmailChallenges.size))

def newAdminChallenge (input : LoginRequest) (userId : RowId) :
    AdminLoginChallenge where
  userId := userId
  expiresAt := w.now + 300000
  ipAddressHash := input.ipAddressHash

def challengeAdmin (input : LoginRequest) (userId : RowId) (db : AuthDatabase) :
    AuthDatabase :=
  let superseded := db.supersedeAdminChallenges userId w.now
  { superseded with
    adminLoginChallenges := superseded.adminLoginChallenges.insert
      (newAdminChallenge w input userId) }

def loginStep (db : AuthDatabase) :
    LoginState → Option (AuthDatabase × LoginState)
  | .locate input =>
    match locateLogin input db with
    | .ok next => some (db, next)
    | .error e => some (db, .done (.error e))
  | .customer input userId passwordHash =>
    let out := atomically (loginCustomer settings w input userId passwordHash) db
    some (out.1, .done out.2)
  | .challenging input userId _ =>
    some (challengeAdmin w input userId db,
      .done (.ok (.challenge (.admin db.adminLoginChallenges.size))))
  | .inserting input userId _ =>
    some (createSession (newSession settings userId .admin w.now true input.rememberDevice) db,
      .done (.ok (.session db.authSessions.size)))
  | .done _ => none

/-- `login`. -/
def login : Operation AuthDatabase AuthWorld where
  Request := LoginRequest
  Local := LoginState
  start := .locate
  step := loginStep settings

/-! ## Completing a challenge by e-mail -/

structure CustomerEmailLoginRequest where
  challengeId : RowId
  code : String
  ipAddressHash : String

inductive EmailLoginState
  | locate (input : CustomerEmailLoginRequest)
  | transact (input : CustomerEmailLoginRequest) (userId : RowId)
  | done (result : Except Failure RowId)

def emailChallengeOpen (input : CustomerEmailLoginRequest) (now : ℕ) (user : User)
    (challenge : CustomerEmailChallenge) : Prop :=
  user.emailTwoStep = true ∧ challenge.usedAt = none ∧ now < challenge.expiresAt ∧
    challenge.failedAttempts < 5 ∧ challenge.ipAddressHash = input.ipAddressHash ∧
    challenge.credentialBinding = (user.email, user.passwordHash)
deriving Decidable

def failEmailChallenge (now : ℕ) (challenge : CustomerEmailChallenge) : CustomerEmailChallenge :=
  { challenge with
    failedAttempts := challenge.failedAttempts + 1
    usedAt := if challenge.failedAttempts = 4 then some now else challenge.usedAt
    code := if challenge.failedAttempts = 4 then "exhausted" else challenge.code }

def useEmailChallenge (now : ℕ) (challenge : CustomerEmailChallenge) : CustomerEmailChallenge :=
  { challenge with usedAt := some now, code := "consumed" }

/-- The transaction of `completeCustomerEmailLogin`, under the lock of the user.  It returns null
where the code is not accepted, so a failure is committed. -/
def completeEmail (input : CustomerEmailLoginRequest) (userId : RowId) (db : AuthDatabase) :
    AuthDatabase × Option RowId :=
  match db.lockCustomer userId, db.customerEmailChallenges.get? input.challengeId with
  | some user, some challenge =>
    if emailChallengeOpen input w.now user challenge then
      if input.code = challenge.code then
        (createSession (newSession settings userId .customer w.now true false)
          { db with
            customerEmailChallenges := db.customerEmailChallenges.update input.challengeId
              (useEmailChallenge w.now) },
          some db.authSessions.size)
      else
        ({ db with
            customerEmailChallenges := db.customerEmailChallenges.update input.challengeId
              (failEmailChallenge w.now) }, none)
    else (db, none)
  | _, _ => (db, none)

def emailLoginStep (db : AuthDatabase) :
    EmailLoginState → Option (AuthDatabase × EmailLoginState)
  | .locate input =>
    match db.customerEmailChallenges.get? input.challengeId with
    | some challenge => some (db, .transact input challenge.userId)
    | none => some (db, .done (.error invalidTwoFactor))
  | .transact input userId =>
    let out := completeEmail settings w input userId db
    some (out.1, .done (orThrow invalidTwoFactor out.2))
  | .done _ => none

/-- `completeCustomerEmailLogin`. -/
def completeCustomerEmailLogin : Operation AuthDatabase AuthWorld where
  Request := CustomerEmailLoginRequest
  Local := EmailLoginState
  start := .locate
  step := emailLoginStep settings

/-! ## Completing a challenge by a second factor -/

structure TwoFactorLoginRequest where
  challengeId : RowId
  code : String
  rememberDevice : Bool := false
  ipAddressHash : String

/-- What a completion has read; `failedAttempts` is the count that it was checked with. -/
structure TwoFactorRun where
  challengeId : RowId
  userId : RowId
  failedAttempts : ℕ
  credentialId : RowId
  factor : Option Factor
  profile : Bool
  rememberDevice : Bool
  now : ℕ
deriving DecidableEq

inductive TwoFactorState
  | evaluate (input : TwoFactorLoginRequest)
  | consuming (run : TwoFactorRun)
  | counting (run : TwoFactorRun) (error : Failure)
  | done (result : Except Failure RowId)

def evaluateCode (now : ℕ) (input : TwoFactorLoginRequest) (db : AuthDatabase) :
    Except Failure TwoFactorRun := do
  let challenge ← orThrow invalidTwoFactor (db.adminLoginChallenges.get? input.challengeId)
  let user ← orThrow invalidTwoFactor (db.users.get? challenge.userId)
  require (challenge.usedAt = none ∧ now < challenge.expiresAt ∧ challenge.failedAttempts < 5 ∧
    challenge.ipAddressHash = input.ipAddressHash ∧ user.role = .admin ∧ user.status = .active ∧
    user.deleted = false) invalidTwoFactor
  let (credentialId, credential) ← orThrow invalidTwoFactor (db.credentialOf challenge.userId)
  require (credential.enabledAt.isSome) invalidTwoFactor
  let factor := factorOf settings credential (db.unusedRecoveryCodes credentialId) input.code now
  return ⟨input.challengeId, challenge.userId, challenge.failedAttempts, credentialId, factor,
    user.staffRole.isSome, input.rememberDevice, now⟩

def useAdminChallenge (now : ℕ) (challenge : AdminLoginChallenge) : AdminLoginChallenge :=
  { challenge with usedAt := some now }

/-- The transaction of `completeTwoFactorLogin`: it consumes the factor and the challenge, and
creates the session. -/
def completeTransaction (run : TwoFactorRun) :
    Transaction AuthDatabase Failure RowId := fun db => do
  let factor ← orThrow invalidTwoFactor run.factor
  let db ← consumeFactor run.credentialId run.now factor db
  let challenge ← orThrow invalidTwoFactor (db.adminLoginChallenges.get? run.challengeId)
  require (challenge.usedAt = none ∧ run.now < challenge.expiresAt) invalidTwoFactor
  require (run.profile = true) profileUnavailable
  return (createSession (newSession settings run.userId .admin run.now true run.rememberDevice)
    { db with
      adminLoginChallenges := db.adminLoginChallenges.update run.challengeId
        (useAdminChallenge run.now) },
    db.authSessions.size)

def countFailure (challenge : AdminLoginChallenge) : AdminLoginChallenge :=
  { challenge with failedAttempts := challenge.failedAttempts + 1 }

def countFailedAttempt (challengeId : RowId) (db : AuthDatabase) : AuthDatabase :=
  { db with
    adminLoginChallenges := db.adminLoginChallenges.updateWhere (fun id challenge =>
      id = challengeId ∧ challenge.usedAt = none ∧ challenge.failedAttempts < 5) countFailure }

def twoFactorStep (db : AuthDatabase) :
    TwoFactorState → Option (AuthDatabase × TwoFactorState)
  | .evaluate input =>
    match evaluateCode settings w.now input db with
    | .ok run => some (db, .consuming run)
    | .error e => some (db, .done (.error e))
  | .consuming run =>
    match completeTransaction settings run db with
    | .ok (db', sessionId) => some (db', .done (.ok sessionId))
    | .error (.application code message) =>
      some (db, .counting run (.application code message))
    | .error e => some (db, .done (.error e))
  | .counting run e => some (countFailedAttempt run.challengeId db, .done (.error e))
  | .done _ => none

/-- `completeTwoFactorLogin`. -/
def completeTwoFactorLogin : Operation AuthDatabase AuthWorld where
  Request := TwoFactorLoginRequest
  Local := TwoFactorState
  start := .evaluate
  step := twoFactorStep settings

/-! ## Resetting the password -/

inductive RequestResetState
  | locate (email : String)
  | transact (userId : RowId)
  | done

def usePasswordResetToken (now : ℕ) (token : PasswordResetToken) : PasswordResetToken :=
  { token with usedAt := some now }

/-- The transaction of `requestPasswordReset`. -/
def requestReset (now : ℕ) (userId : RowId) (db : AuthDatabase) :
    AuthDatabase :=
  { db with
    passwordResetTokens := (db.passwordResetTokens.updateWhere (fun _ token =>
      token.userId = userId ∧ token.usedAt = none) (usePasswordResetToken now)).insert
        { userId, expiresAt := now + settings.passwordResetTtlMilliseconds } }

def requestResetStep (db : AuthDatabase) :
    RequestResetState → Option (AuthDatabase × RequestResetState)
  | .locate email =>
    match db.users.find? fun _ user => user.email = email with
    | some (userId, user) =>
      if user.passwordHash.isSome ∧ user.deleted = false then some (db, .transact userId)
      else some (db, .done)
    | none => some (db, .done)
  | .transact userId => some (requestReset settings w.now userId db, .done)
  | .done => none

/-- `requestPasswordReset`. -/
def requestPasswordReset : Operation AuthDatabase AuthWorld where
  Request := String
  Local := RequestResetState
  start := .locate
  step := requestResetStep settings

structure PasswordResetConfirmation where
  tokenId : RowId
  password : String

inductive ConfirmResetState
  | read (input : PasswordResetConfirmation)
  | transact (input : PasswordResetConfirmation) (userId now : ℕ)
  | done (result : Except Failure Unit)

/-- The read of `confirmPasswordReset`; its result is the user. -/
def readResetToken (now : ℕ) (input : PasswordResetConfirmation) (db : AuthDatabase) :
    Except Failure RowId := do
  let token ← orThrow invalidToken (db.passwordResetTokens.get? input.tokenId)
  require (token.usedAt = none ∧ now < token.expiresAt) invalidToken
  return token.userId

/-- The transaction of `confirmPasswordReset`. -/
def confirmReset (input : PasswordResetConfirmation) (userId now : ℕ) :
    Transaction AuthDatabase Failure Unit := fun db => do
  let token ← orThrow invalidToken (db.passwordResetTokens.get? input.tokenId)
  require (token.usedAt = none ∧ now < token.expiresAt) invalidToken
  require ((db.users.get? userId).isSome) rowMissing
  let changed : AuthDatabase := { db with
    passwordResetTokens := db.passwordResetTokens.update input.tokenId (usePasswordResetToken now)
    passwordHashes := db.passwordHashes.insert input.password
    users := db.users.update userId fun user =>
      { user with passwordHash := some db.passwordHashes.size } }
  let db ← changed.revokeSessions (fun _ session => session.userId = userId) now
  return (db, ())

def confirmResetStep (db : AuthDatabase) :
    ConfirmResetState → Option (AuthDatabase × ConfirmResetState)
  | .read input =>
    match readResetToken w.now input db with
    | .ok userId => some (db, .transact input userId w.now)
    | .error e => some (db, .done (.error e))
  | .transact input userId now =>
    let out := atomically (confirmReset input userId now) db
    some (out.1, .done out.2)
  | .done _ => none

/-- `confirmPasswordReset`. -/
def confirmPasswordReset : Operation AuthDatabase AuthWorld where
  Request := PasswordResetConfirmation
  Local := ConfirmResetState
  start := .read
  step := confirmResetStep

/-! ## Sessions -/

structure AuthRequestContext where
  sessionId : RowId
  userId : RowId
  role : UserRole
deriving DecidableEq

def authenticate (now sessionId : ℕ) (db : AuthDatabase) :
    Except Failure AuthRequestContext := do
  require (db.accepts settings now sessionId = true) authenticationRequired
  let session ← orThrow authenticationRequired (db.authSessions.get? sessionId)
  let user ← orThrow authenticationRequired (db.users.get? session.userId)
  return ⟨sessionId, session.userId, user.role⟩

inductive AuthenticateState
  | read (sessionId : RowId)
  | revoking (sessionId now : ℕ)
  | touching (sessionId now : ℕ) (legacy : Bool)
  | done (result : Except Failure RowId)

def endsAutomatically (now : ℕ) (session : AuthSession) (db : AuthDatabase) : Bool :=
  (db.users.get? session.userId).any fun user => session.revokedAt = none ∧
    (idleExpired settings user session now = true ∨ db.missingSecondFactor user session = true)

def revoke (now : ℕ) (session : AuthSession) : AuthSession :=
  { session with revokedAt := some now }

/-- A request keeps its session alive, and renews an old administrator's session. -/
def touch (now : ℕ) (legacy : Bool) (session : AuthSession) : AuthSession :=
  { session with
    lastSeenAt := now
    expiresAt := if legacy = true then now + daysOf 365 else session.expiresAt }

def readSession (sessionId : RowId) (db : AuthDatabase) :
    AuthenticateState :=
  match db.authSessions.get? sessionId with
  | none => .done (.error authenticationRequired)
  | some session =>
    if endsAutomatically settings w.now session db = true then .revoking sessionId w.now
    else if db.accepts settings w.now sessionId = false then .done (.error authenticationRequired)
    else if session.lastSeenAt + 300000 ≤ w.now then
      .touching sessionId w.now (decide (session.mode = .legacy) &&
        (db.users.get? session.userId).any (·.role = .admin))
    else .done (.ok sessionId)

def authenticateStep (db : AuthDatabase) :
    AuthenticateState → Option (AuthDatabase × AuthenticateState)
  | .read sessionId => some (db, readSession settings w sessionId db)
  | .revoking sessionId now =>
    match db.revokeSessions (fun id _ => id = sessionId) now with
    | .ok db' => some (db', .done (.error authenticationRequired))
    | .error e => some (db, .done (.error e))
  | .touching sessionId now legacy =>
    some ({ db with
      authSessions := db.authSessions.updateWhere (fun id session =>
        id = sessionId ∧ session.revokedAt = none) (touch now legacy) }, .done (.ok sessionId))
  | .done _ => none

/-- `authenticateSession`. -/
def authenticateSession : Operation AuthDatabase AuthWorld where
  Request := RowId
  Local := AuthenticateState
  start := .read
  step := authenticateStep settings

/-- Which sessions of the user of a request end: the one of the request (`logout`), another one
(`revokeSession`), or all (`logoutAll`). -/
inductive EndedSessions
  | own
  | other (sessionId : RowId)
  | all

def EndedSessions.ends (ended : EndedSessions) (auth : AuthRequestContext) (id : RowId)
    (session : AuthSession) : Bool :=
  match ended with
  | .own => id = auth.sessionId ∧ session.userId = auth.userId
  | .other sessionId => id = sessionId ∧ session.userId = auth.userId
  | .all => session.userId = auth.userId

inductive EndSessionsState
  | authenticate (sessionId : RowId) (ended : EndedSessions)
  | revoking (auth : AuthRequestContext) (ended : EndedSessions)
  | done (result : Except Failure Unit)

def requireOwn (auth : AuthRequestContext) (db : AuthDatabase) : EndedSessions → Except Failure Unit
  | .other sessionId => require ((db.authSessions.get? sessionId).any (·.userId = auth.userId))
      sessionNotFound
  | _ => .ok ()

def endSessionsStep (db : AuthDatabase) :
    EndSessionsState → Option (AuthDatabase × EndSessionsState)
  | .authenticate sessionId ended =>
    match authenticate settings w.now sessionId db with
    | .ok auth => some (db, .revoking auth ended)
    | .error e => some (db, .done (.error e))
  | .revoking auth ended =>
    let out := atomically (fun db => do
      requireOwn auth db ended
      let db ← db.revokeSessions (ended.ends auth) w.now
      return (db, ())) db
    some (out.1, .done out.2)
  | .done _ => none

/-- `logout`, `revokeSession` and `logoutAll`. -/
def endSessions : Operation AuthDatabase AuthWorld where
  Request := RowId × EndedSessions
  Local := EndSessionsState
  start request := .authenticate request.1 request.2
  step := endSessionsStep settings

/-! ## The preference for a code by e-mail -/

structure EmailTwoStepUpdate where
  sessionId : RowId
  password : String
  emailTwoStep : Bool

inductive PreferencesState
  | authenticate (input : EmailTwoStepUpdate)
  | transact (input : EmailTwoStepUpdate) (auth : AuthRequestContext)
  | done (result : Except Failure Unit)

/-- The transaction of `updateCustomerSecurityPreferences`, for the preference that takes a
password. -/
def updatePreferences (input : EmailTwoStepUpdate) (auth : AuthRequestContext) (now : ℕ) :
    Transaction AuthDatabase Failure Unit := fun db => do
  let user ← orThrow invalidCredentials (db.lockCustomer auth.userId)
  require ((db.authSessions.get? auth.sessionId).any fun session =>
    session.userId = auth.userId ∧ session.revokedAt = none ∧ now < session.expiresAt)
    invalidCredentials
  let passwordHash ← orThrow invalidCredentials user.passwordHash
  require (db.verifyPassword passwordHash input.password = true) invalidCredentials
  if input.emailTwoStep = user.emailTwoStep then
    return (db, ())
  else do
    let db ← (db.supersedeEmailChallenges auth.userId now).revokeSessions (fun id session =>
      session.userId = auth.userId ∧ id ≠ auth.sessionId) now
    return ({ db with
      users := db.users.update auth.userId fun user =>
        { user with emailTwoStep := input.emailTwoStep } }, ())

def preferencesStep (db : AuthDatabase) :
    PreferencesState → Option (AuthDatabase × PreferencesState)
  | .authenticate input =>
    match authenticate settings w.now input.sessionId db with
    | .ok auth =>
      if auth.role = .customer then some (db, .transact input auth)
      else some (db, .done (.error customerRequired))
    | .error e => some (db, .done (.error e))
  | .transact input auth =>
    let out := atomically (updatePreferences input auth w.now) db
    some (out.1, .done out.2)
  | .done _ => none

/-- `updateCustomerSecurityPreferences`. -/
def updateCustomerSecurityPreferences :
    Operation AuthDatabase AuthWorld where
  Request := EmailTwoStepUpdate
  Local := PreferencesState
  start := .authenticate
  step := preferencesStep settings

/-! ## Enrolling a second factor -/

def authenticateAdmin (now sessionId : ℕ) (db : AuthDatabase) :
    Except Failure AuthRequestContext := do
  let auth ← authenticate settings now sessionId db
  require (auth.role = .admin) administratorRequired
  return auth

/-- `verifyCurrentPassword`. -/
def verifyCurrentPassword (userId : RowId) (password : String) (db : AuthDatabase) :
    Except Failure Unit := do
  let user ← orThrow invalidCredentials (db.users.get? userId)
  let passwordHash ← orThrow invalidCredentials user.passwordHash
  require (db.verifyPassword passwordHash password = true) invalidCredentials

structure SetupRequest where
  sessionId : RowId
  password : String

inductive SetupState
  | authenticate (input : SetupRequest)
  | checking (input : SetupRequest) (auth : AuthRequestContext)
  | reading (userId : RowId) (secret : String)
  | writing (userId : RowId) (secret : String)
  | done (result : Except Failure String)

def replaceSecret (secret : String) (credential : AdminTotpCredential) : AdminTotpCredential :=
  { credential with secret, lastUsedTimeStep := none }

/-- The second half of the transaction of `beginTwoFactorSetup`: the upsert of the credential, which
does not look at whether it is enabled, and the deletion of its recovery codes. -/
def upsertCredential (userId : RowId) (secret : String) (db : AuthDatabase) : AuthDatabase :=
  match db.credentialOf userId with
  | some (credentialId, _) =>
    ({ db with
      adminTotpCredentials := db.adminTotpCredentials.update credentialId (replaceSecret secret) } :
        AuthDatabase).deleteRecoveryCodes fun _ code => code.credentialId = credentialId
  | none => { db with adminTotpCredentials := db.adminTotpCredentials.insert { userId, secret } }

def setupStep (db : AuthDatabase) :
    SetupState → Option (AuthDatabase × SetupState)
  | .authenticate input =>
    match authenticateAdmin settings w.now input.sessionId db with
    | .ok auth => some (db, .checking input auth)
    | .error e => some (db, .done (.error e))
  | .checking input auth =>
    match verifyCurrentPassword auth.userId input.password db with
    | .ok () => some (db, .reading auth.userId w.secret)
    | .error e => some (db, .done (.error e))
  | .reading userId secret =>
    if db.secondFactorEnabled userId = true then some (db, .done (.error alreadyEnabled))
    else some (db, .writing userId secret)
  | .writing userId secret => some (upsertCredential userId secret db, .done (.ok secret))
  | .done _ => none

/-- `beginTwoFactorSetup`. -/
def beginTwoFactorSetup : Operation AuthDatabase AuthWorld where
  Request := SetupRequest
  Local := SetupState
  start := .authenticate
  step := setupStep settings

structure EnableRequest where
  sessionId : RowId
  code : String

/-- What an enabling has read and drawn; `code` is the one that it has verified. -/
structure EnableRun where
  auth : AuthRequestContext
  credentialId : RowId
  secret : String
  code : String
  timeStep : ℕ
  recoveryCodes : List String
  codeHashes : List String
  now : ℕ
deriving DecidableEq

/-- How far an enabling is; it returns the recovery codes. -/
inductive EnableState
  | authenticate (input : EnableRequest)
  | reading (input : EnableRequest) (auth : AuthRequestContext)
  | enabling (run : EnableRun)
  | done (result : Except Failure (List String))

/-- The read of `enableTwoFactor` and its check of the code. -/
def readPending (input : EnableRequest) (auth : AuthRequestContext) (db : AuthDatabase) :
    Except Failure EnableRun := do
  let (credentialId, credential) ← orThrow invalidTwoFactor (db.credentialOf auth.userId)
  require (credential.enabledAt = none) invalidTwoFactor
  let timeStep ← orThrow invalidTwoFactor
    (TotpService.verify settings.hotp credential.secret input.code w.now)
  return {
    auth, credentialId, timeStep
    secret := credential.secret
    code := input.code
    recoveryCodes := w.recoveryCodes
    codeHashes := w.recoveryCodes.map settings.hashRecoveryCode
    now := w.now }

def enableCredential (now timeStep : ℕ) (credential : AdminTotpCredential) : AdminTotpCredential :=
  { credential with enabledAt := some now, lastUsedTimeStep := some timeStep }

def verifySession (now : ℕ) (session : AuthSession) : AuthSession :=
  { session with twoFactorVerifiedAt := some now }

/-- The transaction of `enableTwoFactor`. -/
def enableTransaction (run : EnableRun) : Transaction AuthDatabase Failure Unit := fun db => do
  let credential ← orThrow invalidTwoFactor (db.adminTotpCredentials.get? run.credentialId)
  require (credential.deleted = false ∧ credential.enabledAt = none) invalidTwoFactor
  let enabled : AuthDatabase := { db with
    adminTotpCredentials := db.adminTotpCredentials.update run.credentialId
      (enableCredential run.now run.timeStep) }
  let db ← enabled.createRecoveryCodes run.credentialId run.codeHashes
  let db ← db.revokeSessions (fun id session =>
    session.userId = run.auth.userId ∧ id ≠ run.auth.sessionId) run.now
  let session ← orThrow rowMissing (db.authSessions.get? run.auth.sessionId)
  -- `auth_sessions_two_factor_time_check`
  require (session.createdAt ≤ run.now ∧ run.now ≤ session.expiresAt) .checkConstraint
  return ({ db with
    authSessions := db.authSessions.update run.auth.sessionId (verifySession run.now) }, ())

def enableStep (db : AuthDatabase) :
    EnableState → Option (AuthDatabase × EnableState)
  | .authenticate input =>
    match authenticateAdmin settings w.now input.sessionId db with
    | .ok auth => some (db, .reading input auth)
    | .error e => some (db, .done (.error e))
  | .reading input auth =>
    match readPending settings w input auth db with
    | .ok run => some (db, .enabling run)
    | .error e => some (db, .done (.error e))
  | .enabling run =>
    let out := atomically (enableTransaction run) db
    some (out.1, .done (out.2.map fun _ => run.recoveryCodes))
  | .done _ => none

/-- `enableTwoFactor`. -/
def enableTwoFactor : Operation AuthDatabase AuthWorld where
  Request := EnableRequest
  Local := EnableState
  start := .authenticate
  step := enableStep settings

/-! ## Using a second factor -/

structure FactorRequest where
  sessionId : RowId
  password : String
  code : String

structure FactorRun where
  auth : AuthRequestContext
  credentialId : RowId
  factor : Factor
  now : ℕ

/-- How far a request is that takes a password and a second factor: `disableTwoFactor` and
`regenerateRecoveryCodes` start alike, and the second one returns the new codes. -/
inductive FactorState
  | authenticate (input : FactorRequest)
  | checking (input : FactorRequest) (auth : AuthRequestContext)
  | reading (input : FactorRequest) (auth : AuthRequestContext)
  | consuming (run : FactorRun)
  | consumed (run : FactorRun)
  | replacing (run : FactorRun) (seen : List RowId) (recoveryCodes : List String)
  | done (result : Except Failure (Option (List String)))

/-- `getEnabledCredential`, and the check of the code. -/
def readFactor (now : ℕ) (input : FactorRequest) (auth : AuthRequestContext) (db : AuthDatabase) :
    Except Failure FactorRun := do
  let (credentialId, credential) ← orThrow invalidTwoFactor (db.credentialOf auth.userId)
  require (credential.enabledAt.isSome) invalidTwoFactor
  let factor ← orThrow invalidTwoFactor
    (factorOf settings credential (db.unusedRecoveryCodes credentialId) input.code now)
  return ⟨auth, credentialId, factor, now⟩

def factorStep (db : AuthDatabase) (consumed : FactorRun → Option (AuthDatabase × FactorState))
    (replacing : FactorRun → List RowId → List String → Option (AuthDatabase × FactorState)) :
    FactorState → Option (AuthDatabase × FactorState)
  | .authenticate input =>
    match authenticateAdmin settings w.now input.sessionId db with
    | .ok auth => some (db, .checking input auth)
    | .error e => some (db, .done (.error e))
  | .checking input auth =>
    match verifyCurrentPassword auth.userId input.password db with
    | .ok () => some (db, .reading input auth)
    | .error e => some (db, .done (.error e))
  | .reading input auth =>
    match readFactor settings w.now input auth db with
    | .ok run => some (db, .consuming run)
    | .error e => some (db, .done (.error e))
  | .consuming run =>
    match consumeFactor run.credentialId run.now run.factor db with
    | .ok db' => some (db', .consumed run)
    | .error e => some (db, .done (.error e))
  | .consumed run => consumed run
  | .replacing run seen recoveryCodes => replacing run seen recoveryCodes
  | .done _ => none

def deleteCredential (credential : AdminTotpCredential) : AdminTotpCredential :=
  { credential with deleted := true }

/-- The transaction of `disableTwoFactor`.  The recovery codes go with their credential. -/
def disableTransaction (run : FactorRun) : Transaction AuthDatabase Failure Unit := fun db => do
  let credential ← orThrow rowMissing (db.adminTotpCredentials.get? run.credentialId)
  require (credential.deleted = false) rowMissing
  let removed := ({ db with
    adminTotpCredentials := db.adminTotpCredentials.update run.credentialId deleteCredential } :
      AuthDatabase).deleteRecoveryCodes fun _ code => code.credentialId = run.credentialId
  let db ← removed.revokeSessions (fun _ session => session.userId = run.auth.userId) run.now
  return (db, ())

def disableStep (db : AuthDatabase) :
    FactorState → Option (AuthDatabase × FactorState) :=
  factorStep settings w db
    (fun run =>
      let out := atomically (disableTransaction run) db
      some (out.1, .done (out.2.map fun _ => none)))
    fun _ _ _ => none

/-- `disableTwoFactor`. -/
def disableTwoFactor : Operation AuthDatabase AuthWorld where
  Request := FactorRequest
  Local := FactorState
  start := .authenticate
  step := disableStep settings

def recoveryCodeIds (credentialId : RowId) (db : AuthDatabase) : List RowId :=
  (db.adminRecoveryCodes.select fun _ code =>
    code.credentialId = credentialId ∧ code.deleted = false).map Prod.fst

/-- The transaction of `regenerateRecoveryCodes`, when it commits: its first statement deletes the
codes that it saw, its second one inserts the new ones. -/
def replaceTransaction (run : FactorRun) (seen : List RowId) (codeHashes : List String) :
    Transaction AuthDatabase Failure Unit := fun db => do
  let db ← (db.deleteRecoveryCodes fun id _ => decide (id ∈ seen)).createRecoveryCodes
    run.credentialId codeHashes
  return (db, ())

def regenerateStep (db : AuthDatabase) :
    FactorState → Option (AuthDatabase × FactorState) :=
  factorStep settings w db
    (fun run => some (db, .replacing run (recoveryCodeIds run.credentialId db) w.recoveryCodes))
    fun run seen recoveryCodes =>
      let out := atomically
        (replaceTransaction run seen (recoveryCodes.map settings.hashRecoveryCode)) db
      some (out.1, .done (out.2.map fun _ => some recoveryCodes))

/-- `regenerateRecoveryCodes`. -/
def regenerateRecoveryCodes : Operation AuthDatabase AuthWorld where
  Request := FactorRequest
  Local := FactorState
  start := .authenticate
  step := regenerateStep settings

end AuthService

end Auth

end WebhostBilling
