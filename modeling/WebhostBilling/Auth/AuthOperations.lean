import WebhostBilling.Auth.AuthService

/-!
# What the authentication operations do

`authEvents` says what each step notes: that it created a session or a challenge, compared a code,
accepted a factor, and so on.  `AuthWrites` lists what one step can write, with what it notes and
what its thread has read before; everything proved about a run goes through this list.
-/

namespace WebhostBilling

open Store Store.Table Concurrency

namespace Auth

open AuthService

inductive AuthKind
  | login
  | completeCustomerEmailLogin
  | completeTwoFactorLogin
  | requestPasswordReset
  | confirmPasswordReset
  | authenticateSession
  | endSessions
  | updateCustomerSecurityPreferences
  | beginTwoFactorSetup
  | enableTwoFactor
  | disableTwoFactor
  | regenerateRecoveryCodes

variable (settings : AuthSettings) (w : AuthWorld)

def authOperations : AuthKind → Operation AuthDatabase AuthWorld
  | .login => login settings
  | .completeCustomerEmailLogin => completeCustomerEmailLogin settings
  | .completeTwoFactorLogin => completeTwoFactorLogin settings
  | .requestPasswordReset => requestPasswordReset settings
  | .confirmPasswordReset => confirmPasswordReset
  | .authenticateSession => authenticateSession settings
  | .endSessions => endSessions settings
  | .updateCustomerSecurityPreferences => updateCustomerSecurityPreferences settings
  | .beginTwoFactorSetup => beginTwoFactorSetup settings
  | .enableTwoFactor => enableTwoFactor settings
  | .disableTwoFactor => disableTwoFactor settings
  | .regenerateRecoveryCodes => regenerateRecoveryCodes settings

/-! ## What a step notes -/

def AuthDatabase.currentHash (db : AuthDatabase) (userId : RowId) : Option RowId :=
  (db.users.get? userId).bind (·.passwordHash)

def AuthDatabase.roleOf (db : AuthDatabase) (userId : RowId) : Option UserRole :=
  (db.users.get? userId).map (·.role)

def AuthDatabase.intact (db : AuthDatabase) (now : ℕ) : Challenge → Bool
  | .email id => (db.customerEmailChallenges.get? id).any fun challenge =>
      challenge.usedAt = none ∧ now < challenge.expiresAt
  | .admin id => (db.adminLoginChallenges.get? id).any fun challenge =>
      challenge.usedAt = none ∧ now < challenge.expiresAt

structure Completion where
  challenge : Challenge
  sessionId : RowId
  userId : RowId
  passwordHash : Option RowId
  intact : Bool
  /-- What an administrator's completion had read before. -/
  run : Option TwoFactorRun
deriving DecidableEq

/-- What a step of the authentication does that its tables do not tell. -/
inductive AuthEvent
  | passwordSession (sessionId userId passwordHash : RowId)
  | challenged (challenge : Challenge) (userId passwordHash : RowId)
  | codeCompared (challenge : Challenge) (right : Bool)
  | completed (completion : Completion)
  | factorAccepted (credentialId : RowId) (factor : Factor) (sessionId : Option RowId)
  | passwordReset (userId passwordHash : RowId)
  | setupStarted (userId : RowId)
  | enabled (run : EnableRun)
  | codesReplaced (credentialId : RowId) (seen : List RowId) (codeHashes : List String)
deriving DecidableEq

def signedIn (userId passwordHash : RowId) : LoginState → List AuthEvent
  | .done (.ok (.session id)) => [.passwordSession id userId passwordHash]
  | .done (.ok (.challenge challenge)) => [.challenged challenge userId passwordHash]
  | _ => []

def loginEvents (db : AuthDatabase) (l : LoginState) : List AuthEvent :=
  match l with
  | .customer _ userId passwordHash | .challenging _ userId passwordHash
  | .inserting _ userId passwordHash =>
    (loginStep settings w db l).elim [] fun out => signedIn userId passwordHash out.2
  | _ => []

def emailLoginEvents (db : AuthDatabase) : EmailLoginState → List AuthEvent
  | .transact input userId =>
    match db.lockCustomer userId, db.customerEmailChallenges.get? input.challengeId with
    | some user, some challenge =>
      if emailChallengeOpen input w.now user challenge then
        if input.code = challenge.code then
          [.codeCompared (.email input.challengeId) true,
            .completed ⟨.email input.challengeId, db.authSessions.size, userId,
              db.currentHash userId, db.intact w.now (.email input.challengeId), none⟩]
        else [.codeCompared (.email input.challengeId) false]
      else []
    | _, _ => []
  | _ => []

def secondFactorCompleted (db : AuthDatabase) (run : TwoFactorRun) (sessionId : RowId) :
    AuthEvent :=
  .completed ⟨.admin run.challengeId, sessionId, run.userId, db.currentHash run.userId,
    db.intact w.now (.admin run.challengeId), some run⟩

def twoFactorEvents (db : AuthDatabase) :
    TwoFactorState → List AuthEvent
  | .evaluate input =>
    match evaluateCode settings w.now input db with
    | .ok run => [.codeCompared (.admin run.challengeId) run.factor.isSome]
    | .error _ => []
  | .consuming run =>
    match run.factor, completeTransaction settings run db with
    | some factor, .ok (_, sessionId) =>
      [.factorAccepted run.credentialId factor (some sessionId),
        secondFactorCompleted w db run sessionId]
    | _, _ => []
  | _ => []

def confirmResetEvents (db : AuthDatabase) : ConfirmResetState → List AuthEvent
  | .transact input userId now =>
    match confirmReset input userId now db with
    | .ok _ => [.passwordReset userId db.passwordHashes.size]
    | .error _ => []
  | _ => []

def setupEvents : SetupState → List AuthEvent
  | .writing userId _ => [.setupStarted userId]
  | _ => []

def enableEvents (db : AuthDatabase) : EnableState → List AuthEvent
  | .enabling run =>
    match enableTransaction run db with
    | .ok _ => [.enabled run]
    | .error _ => []
  | _ => []

/-- Of `disableTwoFactor` and `regenerateRecoveryCodes`. -/
def factorEvents (db : AuthDatabase) : FactorState → List AuthEvent
  | .consuming run =>
    match consumeFactor run.credentialId run.now run.factor db with
    | .ok _ => [.factorAccepted run.credentialId run.factor none]
    | .error _ => []
  | .replacing run seen recoveryCodes =>
    let codeHashes := recoveryCodes.map settings.hashRecoveryCode
    match replaceTransaction run seen codeHashes db with
    | .ok _ => [.codesReplaced run.credentialId seen codeHashes]
    | .error _ => []
  | _ => []

def authEvents :
    (kind : AuthKind) → AuthWorld → AuthDatabase → (authOperations settings kind).Local →
      List AuthEvent
  | .login, w, db, l => loginEvents settings w db l
  | .completeCustomerEmailLogin, w, db, l => emailLoginEvents w db l
  | .completeTwoFactorLogin, w, db, l => twoFactorEvents settings w db l
  | .confirmPasswordReset, _, db, l => confirmResetEvents db l
  | .beginTwoFactorSetup, _, _, l => setupEvents l
  | .enableTwoFactor, _, db, l => enableEvents db l
  | .disableTwoFactor, _, db, l => factorEvents settings db l
  | .regenerateRecoveryCodes, _, db, l => factorEvents settings db l
  | .requestPasswordReset, _, _, _ => []
  | .authenticateSession, _, _, _ => []
  | .endSessions, _, _, _ => []
  | .updateCustomerSecurityPreferences, _, _, _ => []

abbrev tracedAuth :=
  tracedFamily (authOperations settings) (authEvents settings)

/-! ## What a thread has read -/

def EnabledFor (db : AuthDatabase) (credentialId userId : RowId) : Prop :=
  ∃ credential, db.adminTotpCredentials.get? credentialId = some credential ∧
    credential.userId = userId ∧ credential.enabledAt.isSome

def FactorFor (db : AuthDatabase) (credentialId : RowId) (factor : Factor) : Prop :=
  ∀ id, factor = .recoveryCode id → ∃ code, db.adminRecoveryCodes.get? id = some code ∧
    code.credentialId = credentialId

def SessionOf (db : AuthDatabase) (auth : AuthRequestContext) : Prop :=
  ∃ session, db.authSessions.get? auth.sessionId = some session ∧ session.userId = auth.userId

def loginReads (db : AuthDatabase) : LoginState → Prop
  | .challenging _ userId _ | .inserting _ userId _ => db.roleOf userId = some .admin
  | _ => True

def emailLoginReads (db : AuthDatabase) : EmailLoginState → Prop
  | .transact input userId => ∃ challenge,
      db.customerEmailChallenges.get? input.challengeId = some challenge ∧
        challenge.userId = userId
  | _ => True

def twoFactorReads (db : AuthDatabase) : TwoFactorState → Prop
  | .consuming run => run.failedAttempts < 5 ∧
    (∃ challenge, db.adminLoginChallenges.get? run.challengeId = some challenge ∧
      challenge.userId = run.userId) ∧
    EnabledFor db run.credentialId run.userId ∧
    ∀ factor, run.factor = some factor → FactorFor db run.credentialId factor
  | _ => True

def setupReads (db : AuthDatabase) : SetupState → Prop
  | .checking _ auth => db.roleOf auth.userId = some .admin
  | .reading userId _ | .writing userId _ => db.roleOf userId = some .admin
  | _ => True

/-- The code of the request was verified against the secret, and the codes that are returned are
those whose hashes are stored. -/
structure CodeVerified (run : EnableRun) : Prop where
  timeStep : TotpService.verify settings.hotp run.secret run.code run.now = some run.timeStep
  codeHashes : run.codeHashes = run.recoveryCodes.map settings.hashRecoveryCode

def enableReads (db : AuthDatabase) : EnableState → Prop
  | .reading _ auth => SessionOf db auth
  | .enabling run => SessionOf db run.auth ∧ CodeVerified settings run ∧
    ∃ credential, db.adminTotpCredentials.get? run.credentialId = some credential ∧
      credential.userId = run.auth.userId
  | _ => True

def factorReads (db : AuthDatabase) : FactorState → Prop
  | .consuming run | .consumed run | .replacing run _ _ =>
    EnabledFor db run.credentialId run.auth.userId ∧ FactorFor db run.credentialId run.factor
  | _ => True

/-- What a thread may rely on, whatever the others have done since. -/
def AuthReads (db : AuthDatabase) :
    (kind : AuthKind) → (authOperations settings kind).Local → Prop
  | .login, l => loginReads db l
  | .completeCustomerEmailLogin, l => emailLoginReads db l
  | .completeTwoFactorLogin, l => twoFactorReads db l
  | .beginTwoFactorSetup, l => setupReads db l
  | .enableTwoFactor, l => enableReads settings db l
  | .disableTwoFactor, l => factorReads db l
  | .regenerateRecoveryCodes, l => factorReads db l
  | .requestPasswordReset, _ => True
  | .confirmPasswordReset, _ => True
  | .authenticateSession, _ => True
  | .endSessions, _ => True
  | .updateCustomerSecurityPreferences, _ => True

/-! ## What no write takes back -/

def UserStays (user user' : User) : Prop := user'.role = user.role

structure SessionMoves (session session' : AuthSession) : Prop where
  userId : session'.userId = session.userId
  revoked : session.revokedAt.isSome → session'.revokedAt.isSome

structure CredentialMoves (credential credential' : AdminTotpCredential) : Prop where
  userId : credential'.userId = credential.userId
  enabled : credential.enabledAt.isSome → credential'.enabledAt.isSome
  deleted : credential.deleted = true → credential'.deleted = true

structure RecoveryCodeMoves (code code' : AdminRecoveryCode) : Prop where
  credentialId : code'.credentialId = code.credentialId
  codeHash : code'.codeHash = code.codeHash
  used : code.usedAt.isSome → code'.usedAt.isSome
  deleted : code.deleted = true → code'.deleted = true

structure AdminChallengeMoves (challenge challenge' : AdminLoginChallenge) : Prop where
  userId : challenge'.userId = challenge.userId
  used : challenge.usedAt.isSome → challenge'.usedAt.isSome
  failedAttempts : challenge.failedAttempts ≤ challenge'.failedAttempts

structure EmailChallengeMoves (challenge challenge' : CustomerEmailChallenge) : Prop where
  userId : challenge'.userId = challenge.userId
  credentialBinding : challenge'.credentialBinding = challenge.credentialBinding
  used : challenge.usedAt.isSome → challenge'.usedAt.isSome
  failedAttempts : challenge.failedAttempts ≤ challenge'.failedAttempts

theorem UserStays.refl (user : User) : UserStays user user := rfl

theorem SessionMoves.refl (session : AuthSession) : SessionMoves session session :=
  ⟨rfl, fun h => h⟩

theorem CredentialMoves.refl (credential : AdminTotpCredential) :
    CredentialMoves credential credential :=
  ⟨rfl, fun h => h, fun h => h⟩

theorem RecoveryCodeMoves.refl (code : AdminRecoveryCode) : RecoveryCodeMoves code code :=
  ⟨rfl, rfl, fun h => h, fun h => h⟩

theorem AdminChallengeMoves.refl (challenge : AdminLoginChallenge) :
    AdminChallengeMoves challenge challenge :=
  ⟨rfl, fun h => h, Nat.le_refl _⟩

theorem EmailChallengeMoves.refl (challenge : CustomerEmailChallenge) :
    EmailChallengeMoves challenge challenge :=
  ⟨rfl, rfl, fun h => h, Nat.le_refl _⟩

/-- Every row is still there, and says no less. -/
structure AuthExtends (db db' : AuthDatabase) : Prop where
  users : db.users.Grows UserStays db'.users
  sessions : db.authSessions.Grows SessionMoves db'.authSessions
  credentials : db.adminTotpCredentials.Grows CredentialMoves db'.adminTotpCredentials
  codes : db.adminRecoveryCodes.Grows RecoveryCodeMoves db'.adminRecoveryCodes
  adminChallenges :
    db.adminLoginChallenges.Grows AdminChallengeMoves db'.adminLoginChallenges
  emailChallenges :
    db.customerEmailChallenges.Grows EmailChallengeMoves db'.customerEmailChallenges

section

variable {db db' : AuthDatabase}

theorem AuthExtends.refl (db : AuthDatabase) : AuthExtends db db where
  users := Grows.refl UserStays.refl _
  sessions := Grows.refl SessionMoves.refl _
  credentials := Grows.refl CredentialMoves.refl _
  codes := Grows.refl RecoveryCodeMoves.refl _
  adminChallenges := Grows.refl AdminChallengeMoves.refl _
  emailChallenges := Grows.refl EmailChallengeMoves.refl _

variable {settings w} {auth : AuthRequestContext} {factor : Factor} {run : FactorRun}
  {credentialId userId : RowId} {u : Unit} {now : ℕ}

theorem AuthExtends.roleOf (h : AuthExtends db db') {role : UserRole}
    (hrole : db.roleOf userId = some role) : db'.roleOf userId = some role := by
  obtain ⟨user, huser, rfl⟩ := Option.map_eq_some_iff.1 hrole
  obtain ⟨user', huser', hstays⟩ := h.users userId user huser
  rw [AuthDatabase.roleOf, huser', Option.map_some, hstays]

theorem AuthExtends.enabledFor (h : AuthExtends db db')
    (hfor : EnabledFor db credentialId userId) : EnabledFor db' credentialId userId := by
  obtain ⟨credential, hcredential, huser, henabled⟩ := hfor
  obtain ⟨credential', hcredential', hmoves⟩ := h.credentials credentialId credential hcredential
  exact ⟨credential', hcredential', hmoves.userId.trans huser, hmoves.enabled henabled⟩

theorem AuthExtends.factorFor (h : AuthExtends db db')
    (hfor : FactorFor db credentialId factor) : FactorFor db' credentialId factor := by
  intro id hid
  obtain ⟨code, hcode, hof⟩ := hfor id hid
  obtain ⟨code', hcode', hmoves⟩ := h.codes id code hcode
  exact ⟨code', hcode', hmoves.credentialId.trans hof⟩

theorem AuthExtends.sessionOf (h : AuthExtends db db')
    (hof : SessionOf db auth) : SessionOf db' auth := by
  obtain ⟨session, hsession, huser⟩ := hof
  obtain ⟨session', hsession', hmoves⟩ := h.sessions _ _ hsession
  exact ⟨session', hsession', hmoves.userId.trans huser⟩

theorem AuthReads.mono {kind : AuthKind}
    {l : (authOperations settings kind).Local} (hreads : AuthReads settings db kind l)
    (h : AuthExtends db db') : AuthReads settings db' kind l := by
  cases kind with
  | requestPasswordReset | confirmPasswordReset | authenticateSession | endSessions => trivial
  | updateCustomerSecurityPreferences => trivial
  | login =>
    change loginReads db' l
    change loginReads db l at hreads
    cases l with
    | challenging _ _ _ | inserting _ _ _ => exact h.roleOf hreads
    | _ => trivial
  | completeCustomerEmailLogin =>
    change emailLoginReads db' l
    change emailLoginReads db l at hreads
    cases l with
    | transact input userId =>
      obtain ⟨challenge, hchallenge, huser⟩ := hreads
      obtain ⟨challenge', hchallenge', hmoves⟩ := h.emailChallenges _ _ hchallenge
      exact ⟨challenge', hchallenge', hmoves.userId.trans huser⟩
    | _ => trivial
  | completeTwoFactorLogin =>
    change twoFactorReads db' l
    change twoFactorReads db l at hreads
    cases l with
    | consuming run =>
      obtain ⟨hattempts, ⟨challenge, hchallenge, huser⟩, hcredential, hfactor⟩ := hreads
      obtain ⟨challenge', hchallenge', hmoves⟩ := h.adminChallenges _ _ hchallenge
      exact ⟨hattempts, ⟨challenge', hchallenge', hmoves.userId.trans huser⟩, h.enabledFor hcredential,
        fun factor hf => h.factorFor (hfactor factor hf)⟩
    | _ => trivial
  | beginTwoFactorSetup =>
    change setupReads db' l
    change setupReads db l at hreads
    cases l with
    | checking _ _ | reading _ _ | writing _ _ => exact h.roleOf hreads
    | _ => trivial
  | enableTwoFactor =>
    change enableReads settings db' l
    change enableReads settings db l at hreads
    cases l with
    | reading _ _ => exact h.sessionOf hreads
    | enabling run =>
      obtain ⟨hsession, hverified, credential, hcredential, huser⟩ := hreads
      obtain ⟨credential', hcredential', hmoves⟩ := h.credentials _ _ hcredential
      exact ⟨h.sessionOf hsession, hverified, credential', hcredential', hmoves.userId.trans huser⟩
    | _ => trivial
  | disableTwoFactor | regenerateRecoveryCodes =>
    change factorReads db' l
    change factorReads db l at hreads
    cases l with
    | consuming _ | consumed _ | replacing _ _ _ =>
      exact ⟨h.enabledFor hreads.1, h.factorFor hreads.2⟩
    | _ => trivial

/-! ## What a step writes -/

/-- The sessions after those that satisfy `p` were revoked. -/
def AuthDatabase.revoked (db : AuthDatabase) (p : RowId → AuthSession → Bool) (now : ℕ) :
    Table AuthSession :=
  db.authSessions.updateWhere (fun id session => p id session ∧ session.revokedAt = none)
    (revoke now)

inductive FactorConsumed (db : AuthDatabase) (credentialId now : ℕ) : Factor → AuthDatabase → Prop
  | timeStep {step : ℕ} {credential : AdminTotpCredential}
      (hcredential : db.adminTotpCredentials.get? credentialId = some credential)
      (hlive : credential.deleted = false) (hlast : ∀ last ∈ credential.lastUsedTimeStep, last < step) :
      FactorConsumed db credentialId now (.timeStep step)
        { db with
          adminTotpCredentials := db.adminTotpCredentials.update credentialId (useTimeStep step) }
  | recoveryCode {id : RowId} {code : AdminRecoveryCode}
      (hcode : db.adminRecoveryCodes.get? id = some code) (hlive : code.deleted = false)
      (hunused : code.usedAt = none) :
      FactorConsumed db credentialId now (.recoveryCode id)
        { db with adminRecoveryCodes := db.adminRecoveryCodes.update id (useRecoveryCode now) }

def enabledDatabase (run : EnableRun) (db : AuthDatabase) : AuthDatabase :=
  { db with
    adminTotpCredentials := db.adminTotpCredentials.update run.credentialId
      (enableCredential run.now run.timeStep)
    adminRecoveryCodes := db.adminRecoveryCodes.insertAll (run.codeHashes.map fun codeHash =>
      { credentialId := run.credentialId, codeHash })
    authSessions := (db.revoked (fun id session =>
      session.userId = run.auth.userId ∧ id ≠ run.auth.sessionId) run.now).update
        run.auth.sessionId (verifySession run.now) }

def disabledDatabase (run : FactorRun) (db : AuthDatabase) : AuthDatabase :=
  { db with
    adminTotpCredentials := db.adminTotpCredentials.update run.credentialId deleteCredential
    adminRecoveryCodes := (db.deleteRecoveryCodes fun _ code =>
      code.credentialId = run.credentialId).adminRecoveryCodes
    authSessions := db.revoked (fun _ session => session.userId = run.auth.userId) run.now }

def replacedDatabase (credentialId : RowId) (seen : List RowId) (codeHashes : List String)
    (db : AuthDatabase) : AuthDatabase :=
  { db with
    adminRecoveryCodes := (db.deleteRecoveryCodes fun id _ =>
      decide (id ∈ seen)).adminRecoveryCodes.insertAll (codeHashes.map fun codeHash =>
        { credentialId, codeHash }) }

/-- **What one step can write**, and what it notes of it. -/
inductive AuthWrites (settings : AuthSettings) (w : AuthWorld) (db : AuthDatabase) :
    List AuthEvent → AuthDatabase → Prop
  | same : AuthWrites settings w db [] db
  | sessionByPassword {userId passwordHash : RowId} {session : AuthSession}
      (hsession : session.userId = userId) (hrole : db.roleOf userId = some .admin ∨
        db.roleOf userId = some .customer ∧ db.currentHash userId = some passwordHash) :
      AuthWrites settings w db [.passwordSession db.authSessions.size userId passwordHash]
        (createSession session db)
  | emailChallenge {input : LoginRequest} {userId passwordHash : RowId} {user : User}
      (hlock : db.lockCustomer userId = some user) (hcurrent : user.passwordHash = some passwordHash) :
      AuthWrites settings w db [.challenged (.email db.customerEmailChallenges.size) userId passwordHash]
        { db.supersedeEmailChallenges userId w.now with
          customerEmailChallenges := (db.supersedeEmailChallenges userId
            w.now).customerEmailChallenges.insert (newEmailChallenge w input userId user) }
  | adminChallenge {input : LoginRequest} {userId passwordHash : RowId}
      (hrole : db.roleOf userId = some .admin) :
      AuthWrites settings w db [.challenged (.admin db.adminLoginChallenges.size) userId passwordHash]
        (challengeAdmin w input userId db)
  | emailRefused {input : CustomerEmailLoginRequest} {user : User}
      {challenge : CustomerEmailChallenge}
      (hchallenge : db.customerEmailChallenges.get? input.challengeId = some challenge)
      (hopen : emailChallengeOpen input w.now user challenge) :
      AuthWrites settings w db [.codeCompared (.email input.challengeId) false]
        { db with
          customerEmailChallenges := db.customerEmailChallenges.update input.challengeId
            (failEmailChallenge w.now) }
  | emailCompleted {input : CustomerEmailLoginRequest} {userId : RowId} {user : User}
      {challenge : CustomerEmailChallenge} {session : AuthSession}
      (hlock : db.lockCustomer userId = some user)
      (hchallenge : db.customerEmailChallenges.get? input.challengeId = some challenge)
      (hopen : emailChallengeOpen input w.now user challenge) (huser : challenge.userId = userId)
      (hsession : session.userId = userId) :
      AuthWrites settings w db
        [.codeCompared (.email input.challengeId) true, .completed ⟨.email input.challengeId,
          db.authSessions.size, userId, user.passwordHash, true, none⟩]
        (createSession session { db with
          customerEmailChallenges := db.customerEmailChallenges.update input.challengeId
            (useEmailChallenge w.now) })
  | adminCompared {challengeId : RowId} {right : Bool} {challenge : AdminLoginChallenge}
      (hchallenge : db.adminLoginChallenges.get? challengeId = some challenge)
      (hattempts : challenge.failedAttempts < 5) :
      AuthWrites settings w db [.codeCompared (.admin challengeId) right] db
  | adminCompleted {run : TwoFactorRun} {factor : Factor} {challenge : AdminLoginChallenge}
      {consumed : AuthDatabase} {session : AuthSession}
      (hconsumed : FactorConsumed db run.credentialId run.now factor consumed)
      (hcredential : EnabledFor db run.credentialId run.userId)
      (hfactor : FactorFor db run.credentialId factor)
      (hchallenge : db.adminLoginChallenges.get? run.challengeId = some challenge)
      (hunused : challenge.usedAt = none) (hexpires : run.now < challenge.expiresAt)
      (hattempts : run.failedAttempts < 5) (huser : challenge.userId = run.userId)
      (hsession : session.userId = run.userId) :
      AuthWrites settings w db
        [.factorAccepted run.credentialId factor (some db.authSessions.size),
          secondFactorCompleted w db run db.authSessions.size]
        (createSession session { consumed with
          adminLoginChallenges := db.adminLoginChallenges.update run.challengeId
            (useAdminChallenge run.now) })
  | attemptCounted {challengeId : RowId} : AuthWrites settings w db [] (countFailedAttempt challengeId db)
  | resetTokens {tokens : Table PasswordResetToken} :
      AuthWrites settings w db [] { db with passwordResetTokens := tokens }
  | passwordReset {userId now : ℕ} {password : String} {tokens : Table PasswordResetToken} :
      AuthWrites settings w db [.passwordReset userId db.passwordHashes.size]
        { db with
          passwordResetTokens := tokens
          passwordHashes := db.passwordHashes.insert password
          users := db.users.update userId fun user =>
            { user with passwordHash := some db.passwordHashes.size }
          authSessions := db.revoked (fun _ session => session.userId = userId) now }
  | sessionsRevoked {p : RowId → AuthSession → Bool} {now : ℕ} :
      AuthWrites settings w db [] { db with authSessions := db.revoked p now }
  | sessionTouched {p : RowId → AuthSession → Bool} {now : ℕ} {legacy : Bool} :
      AuthWrites settings w db [] { db with
        authSessions := db.authSessions.updateWhere p (touch now legacy) }
  | preferenceChanged {userId now : ℕ} {p : RowId → AuthSession → Bool} {emailTwoStep : Bool} :
      AuthWrites settings w db [] { db.supersedeEmailChallenges userId now with
        authSessions := db.revoked p now
        users := db.users.update userId fun user => { user with emailTwoStep } }
  | setupStarted {userId : RowId} {secret : String} (hrole : db.roleOf userId = some .admin) :
      AuthWrites settings w db [.setupStarted userId] (upsertCredential userId secret db)
  | enabled {run : EnableRun} {credential : AdminTotpCredential} {session : AuthSession}
      (hverified : CodeVerified settings run)
      (hcredential : db.adminTotpCredentials.get? run.credentialId = some credential)
      (hlive : credential.deleted = false) (hpending : credential.enabledAt = none)
      (huser : credential.userId = run.auth.userId) (hnodup : run.codeHashes.Nodup)
      (hsession : db.authSessions.get? run.auth.sessionId = some session)
      (hof : session.userId = run.auth.userId) :
      AuthWrites settings w db [.enabled run] (enabledDatabase run db)
  | factorConsumed {run : FactorRun} {consumed : AuthDatabase}
      (hconsumed : FactorConsumed db run.credentialId run.now run.factor consumed)
      (hcredential : EnabledFor db run.credentialId run.auth.userId)
      (hfactor : FactorFor db run.credentialId run.factor) :
      AuthWrites settings w db [.factorAccepted run.credentialId run.factor none] consumed
  | disabled {run : FactorRun} (hcredential : EnabledFor db run.credentialId run.auth.userId) :
      AuthWrites settings w db [] (disabledDatabase run db)
  | codesReplaced {credentialId : RowId} {seen : List RowId} {codeHashes : List String}
      {credential : AdminTotpCredential}
      (hcredential : db.adminTotpCredentials.get? credentialId = some credential)
      (hlive : credential.deleted = false) (henabled : credential.enabledAt.isSome) :
      AuthWrites settings w db [.codesReplaced credentialId seen codeHashes]
        (replacedDatabase credentialId seen codeHashes db)

/-! ## The transactions taken apart -/

theorem revokeSessions_eq_ok {p : RowId → AuthSession → Bool}
    (h : db.revokeSessions p now = .ok db') : db' =
    { db with authSessions := db.revoked p now } := by
  rw [AuthDatabase.revokeSessions, bind_eq_ok] at h
  obtain ⟨-, -, h⟩ := h
  exact (pure_eq_ok.1 h).symm

variable {codeHashes : List String} {credential : AdminTotpCredential} {input : LoginRequest}
  {sessionId : ℕ}

theorem createRecoveryCodes_eq_ok (h : db.createRecoveryCodes credentialId codeHashes = .ok db') :
    (∃ credential, db.adminTotpCredentials.get? credentialId = some credential ∧
      credential.deleted = false) ∧ codeHashes.Nodup ∧
      db' = { db with
        adminRecoveryCodes := db.adminRecoveryCodes.insertAll (codeHashes.map fun codeHash =>
          { credentialId, codeHash }) } := by
  simp only [AuthDatabase.createRecoveryCodes, eq_ok] at h
  obtain ⟨hcredential, hunique, rfl⟩ := h
  rw [Option.any_eq_true] at hcredential
  obtain ⟨credential, hget, hlive⟩ := hcredential
  exact ⟨⟨credential, hget, of_decide_eq_true hlive⟩, hunique.1, rfl⟩

theorem consumeFactor_eq_ok {credentialId : ℕ}
    (h : consumeFactor credentialId now factor db = .ok db') :
    FactorConsumed db credentialId now factor db' := by
  cases factor with
  | timeStep step =>
    simp only [consumeFactor, eq_ok] at h
    obtain ⟨credential, hcredential, ⟨hlive, hlast⟩, rfl⟩ := h
    exact .timeStep hcredential hlive hlast
  | recoveryCode id =>
    simp only [consumeFactor, eq_ok] at h
    obtain ⟨code, hcode, ⟨hlive, hunused⟩, rfl⟩ := h
    exact .recoveryCode hcode hlive hunused

theorem credentialOf_eq_some (h : db.credentialOf userId = some (credentialId, credential)) :
    db.adminTotpCredentials.get? credentialId = some credential ∧ credential.userId = userId ∧
      credential.deleted = false := by
  obtain ⟨hget, hp⟩ := find?_eq_some h
  exact ⟨hget, of_decide_eq_true hp⟩

theorem factorOf_eq_some {credentialId : ℕ} {code : String}
    (h : factorOf settings credential (db.unusedRecoveryCodes credentialId) code now =
      some factor) :
    FactorFor db credentialId factor := by
  rintro id rfl
  rw [factorOf] at h
  split at h
  · cases h
  · obtain ⟨⟨i, row⟩, hfound, heq⟩ := Option.map_eq_some_iff.1 h
    rw [Factor.recoveryCode.injEq] at heq
    subst heq
    obtain ⟨hget, hp⟩ := mem_select.1 (List.mem_of_find?_eq_some hfound)
    exact ⟨row, hget, (of_decide_eq_true hp).1⟩

theorem roleOf_lockCustomer {user : User} (h : db.lockCustomer userId = some user) :
    db.roleOf userId = some .customer ∧ db.currentHash userId = user.passwordHash := by
  obtain ⟨hget, hp⟩ := Option.filter_eq_some_iff.1 h
  have hrole := (of_decide_eq_true hp).1
  rw [AuthDatabase.roleOf, AuthDatabase.currentHash, hget, Option.map_some, hrole, Option.bind_some]
  exact ⟨rfl, rfl⟩

theorem locateLogin_eq_ok {l : LoginState} (h : locateLogin input db = .ok l) :
    loginReads db l ∧ ∀ result, l ≠ .done result := by
  rw [locateLogin, bind_eq_ok] at h
  obtain ⟨⟨userId, user⟩, hfind, h⟩ := h
  simp only [bind_eq_ok] at h
  obtain ⟨passwordHash, -, -, -, -, -, -, -, h⟩ := h
  have hget := (find?_eq_some (orThrow_eq_ok.1 hfind)).1
  cases hrole : user.role with
  | customer =>
    rw [hrole] at h
    rw [← pure_eq_ok.1 h]
    exact ⟨trivial, by rintro _ ⟨⟩⟩
  | admin =>
    have hadmin : db.roleOf userId = some .admin := by
      rw [AuthDatabase.roleOf, hget, Option.map_some, hrole]
    rw [hrole] at h
    simp only [bind_eq_ok] at h
    obtain ⟨-, -, h⟩ := h
    split at h
    · rw [← pure_eq_ok.1 h]
      exact ⟨hadmin, by rintro _ ⟨⟩⟩
    · rw [← pure_eq_ok.1 h]
      exact ⟨hadmin, by rintro _ ⟨⟩⟩

theorem loginCustomer_eq_ok {passwordHash : RowId} {result : LoginResult}
    (h : loginCustomer settings w input userId passwordHash db = .ok (db', result)) :
    AuthWrites settings w db (signedIn userId passwordHash (.done (.ok result))) db' := by
  simp only [loginCustomer, eq_ok] at h
  obtain ⟨user, hlock, hcurrent, h⟩ := h
  have hlocked := roleOf_lockCustomer hlock
  split at h
  · obtain ⟨rfl, rfl⟩ := Prod.mk.inj (pure_eq_ok.1 h)
    exact .sessionByPassword rfl (.inr ⟨hlocked.1, hlocked.2.trans hcurrent⟩)
  · obtain ⟨rfl, rfl⟩ := Prod.mk.inj (pure_eq_ok.1 h)
    exact .emailChallenge hlock hcurrent

theorem evaluateCode_eq_ok {input : TwoFactorLoginRequest}
    {run : TwoFactorRun} (h : evaluateCode settings now input db = .ok run) :
    (∃ challenge, db.adminLoginChallenges.get? run.challengeId = some challenge ∧
      challenge.failedAttempts < 5) ∧ twoFactorReads db (.consuming run) := by
  simp only [evaluateCode, eq_ok] at h
  obtain ⟨challenge, hchallenge, user, -, hopen, ⟨credentialId, credential⟩, hcredential, henabled, rfl⟩ := h
  obtain ⟨hget, huser, -⟩ := credentialOf_eq_some hcredential
  exact ⟨⟨challenge, hchallenge, hopen.2.2.1⟩, hopen.2.2.1, ⟨challenge, hchallenge, rfl⟩,
    ⟨credential, hget, huser, henabled⟩, fun _ hfactor => factorOf_eq_some hfactor⟩

theorem FactorConsumed.tables {credentialId : ℕ}
    (h : FactorConsumed db credentialId now factor db') :
    db'.adminLoginChallenges = db.adminLoginChallenges ∧ db'.authSessions = db.authSessions ∧
      db'.customerEmailChallenges = db.customerEmailChallenges ∧ db'.users = db.users := by
  cases h with
  | timeStep _ _ _ | recoveryCode _ _ _ => exact ⟨rfl, rfl, rfl, rfl⟩

theorem completeTransaction_eq_ok {run : TwoFactorRun}
    {sessionId : RowId} (h : completeTransaction settings run db = .ok (db', sessionId)) :
    ∃ factor consumed challenge, run.factor = some factor ∧
      FactorConsumed db run.credentialId run.now factor consumed ∧
      db.adminLoginChallenges.get? run.challengeId = some challenge ∧ challenge.usedAt = none ∧
      run.now < challenge.expiresAt ∧ sessionId = db.authSessions.size ∧
      db' = createSession (newSession settings run.userId .admin run.now true run.rememberDevice)
        { consumed with
          adminLoginChallenges := db.adminLoginChallenges.update run.challengeId
            (useAdminChallenge run.now) } := by
  simp only [completeTransaction, bind_eq_ok, orThrow_eq_ok, require_eq_ok] at h
  obtain ⟨factor, hfactor, consumed, hconsume, challenge, hchallenge, -, hopen, -, -, h⟩ := h
  obtain ⟨rfl, rfl⟩ := Prod.mk.inj (pure_eq_ok.1 h)
  have hconsumed := consumeFactor_eq_ok hconsume
  obtain ⟨hchallenges, hsessions, -, -⟩ := hconsumed.tables
  rw [hchallenges] at hchallenge
  refine ⟨factor, consumed, challenge, hfactor, hconsumed, hchallenge, hopen.1, hopen.2, ?_, ?_⟩
  · rw [hsessions]
  · rw [hchallenges]

theorem confirmReset_eq_ok {input : PasswordResetConfirmation} {userId : ℕ}
    (h : confirmReset input userId now db = .ok (db', u)) :
    AuthWrites settings w db [.passwordReset userId db.passwordHashes.size] db' := by
  simp only [confirmReset, eq_ok] at h
  obtain ⟨-, -, -, -, db₁, hrevoked, rfl, -⟩ := h
  rw [revokeSessions_eq_ok hrevoked]
  exact .passwordReset

theorem updatePreferences_eq_ok {input : EmailTwoStepUpdate}
    (h : updatePreferences input auth now db = .ok (db', u)) : AuthWrites settings w db [] db' := by
  simp only [updatePreferences, eq_ok] at h
  obtain ⟨user, -, passwordHash, -, -, -, h⟩ := h
  split at h
  · obtain ⟨rfl, -⟩ := Prod.mk.inj (pure_eq_ok.1 h)
    exact .same
  · rw [bind_eq_ok] at h
    obtain ⟨db₁, hrevoked, h⟩ := h
    obtain ⟨rfl, -⟩ := Prod.mk.inj (pure_eq_ok.1 h)
    rw [revokeSessions_eq_ok hrevoked]
    exact .preferenceChanged

theorem authenticate_eq_ok (h : authenticate settings now sessionId db = .ok auth) :
    SessionOf db auth ∧ db.roleOf auth.userId = some auth.role := by
  simp only [authenticate, eq_ok] at h
  obtain ⟨-, session, hsession, user, huser, rfl⟩ := h
  refine ⟨⟨session, hsession, rfl⟩, ?_⟩
  rw [AuthDatabase.roleOf, huser, Option.map_some]

theorem authenticateAdmin_eq_ok (h : authenticateAdmin settings now sessionId db = .ok auth) :
    SessionOf db auth ∧ db.roleOf auth.userId = some .admin := by
  simp only [authenticateAdmin, eq_ok] at h
  obtain ⟨_, hok, hadmin, rfl⟩ := h
  obtain ⟨hsession, hrole⟩ := authenticate_eq_ok hok
  exact ⟨hsession, hadmin ▸ hrole⟩

theorem readPending_eq_ok {input : EnableRequest} {run : EnableRun} (hsession : SessionOf db auth)
    (h : readPending settings w input auth db = .ok run) : enableReads settings db (.enabling run) := by
  simp only [readPending, eq_ok] at h
  obtain ⟨⟨credentialId, credential⟩, hcredential, -, timeStep, hverified, rfl⟩ := h
  obtain ⟨hget, huser, -⟩ := credentialOf_eq_some hcredential
  exact ⟨hsession, ⟨hverified, rfl⟩, credential, hget, huser⟩

theorem enableTransaction_eq_ok {run : EnableRun}
    (hreads : enableReads settings db (.enabling run)) (h : enableTransaction run db = .ok (db', u)) :
    AuthWrites settings w db [.enabled run] db' := by
  simp only [enableTransaction, eq_ok] at h
  obtain ⟨credential, hcredential, ⟨hlive, hpending⟩, db₁, hcodes, db₂, hrevoked, -, -, -, h⟩ := h
  obtain ⟨-, hnodup, rfl⟩ := createRecoveryCodes_eq_ok hcodes
  rw [revokeSessions_eq_ok hrevoked] at h
  obtain ⟨rfl, -⟩ := h
  obtain ⟨⟨session, hsession, hof⟩, hverified, credential', hcredential', huser⟩ := hreads
  rw [hcredential, Option.some.injEq] at hcredential'
  exact .enabled hverified hcredential hlive hpending (hcredential' ▸ huser) hnodup hsession hof

theorem readFactor_eq_ok {input : FactorRequest}
    (h : readFactor settings now input auth db = .ok run) : factorReads db (.consuming run) := by
  simp only [readFactor, eq_ok] at h
  obtain ⟨⟨credentialId, credential⟩, hcredential, henabled, factor, hfactor, rfl⟩ := h
  obtain ⟨hget, huser, -⟩ := credentialOf_eq_some hcredential
  exact ⟨⟨credential, hget, huser, henabled⟩, factorOf_eq_some hfactor⟩

theorem disableTransaction_eq_ok (hcredential : EnabledFor db run.credentialId run.auth.userId)
    (h : disableTransaction run db = .ok (db', u)) : AuthWrites settings w db [] db' := by
  simp only [disableTransaction, eq_ok] at h
  obtain ⟨-, -, -, db₁, hrevoked, rfl, -⟩ := h
  rw [revokeSessions_eq_ok hrevoked]
  exact .disabled hcredential

theorem replaceTransaction_eq_ok {seen : List RowId}
    (hcredential : EnabledFor db run.credentialId run.auth.userId)
    (h : replaceTransaction run seen codeHashes db = .ok (db', u)) :
    AuthWrites settings w db [.codesReplaced run.credentialId seen codeHashes] db' := by
  simp only [replaceTransaction, eq_ok] at h
  obtain ⟨db₁, hcodes, rfl, -⟩ := h
  obtain ⟨⟨credential, hget, hlive⟩, -, rfl⟩ := createRecoveryCodes_eq_ok hcodes
  obtain ⟨credential', hget', -, henabled⟩ := hcredential
  have hsame : credential' = credential := Option.mem_unique hget' hget
  exact .codesReplaced hget hlive (hsame ▸ henabled)

/-! ## The steps -/

theorem loginStep_writes {l l' : LoginState} (hreads : loginReads db l)
    (h : loginStep settings w db l = some (db', l')) :
    AuthWrites settings w db (loginEvents settings w db l) db' ∧ loginReads db l' := by
  cases l with
  | locate input =>
    rw [loginStep] at h
    cases hlocate : locateLogin input db with
    | error e =>
      rw [hlocate] at h
      cases h
      exact ⟨.same, trivial⟩
    | ok next =>
      rw [hlocate] at h
      cases h
      exact ⟨.same, (locateLogin_eq_ok hlocate).1⟩
  | customer input userId passwordHash =>
    have hevents : loginEvents settings w db (.customer input userId passwordHash) =
        signedIn userId passwordHash l' := by
      rw [loginEvents, h, Option.elim_some]
    rw [hevents]
    cases h
    refine ⟨?_, trivial⟩
    cases hout : (atomically (loginCustomer settings w input userId passwordHash) db).2 with
    | ok result => exact loginCustomer_eq_ok (atomically_snd hout)
    | error e =>
      rw [atomically_fst_of_error hout]
      exact .same
  | challenging input userId passwordHash =>
    cases h
    exact ⟨.adminChallenge hreads, trivial⟩
  | inserting input userId passwordHash =>
    cases h
    exact ⟨.sessionByPassword rfl (.inl hreads), trivial⟩
  | done result => cases h

theorem emailLoginStep_writes {l l' : EmailLoginState} (hreads : emailLoginReads db l)
    (h : emailLoginStep settings w db l = some (db', l')) :
    AuthWrites settings w db (emailLoginEvents w db l) db' ∧ emailLoginReads db l' := by
  cases l with
  | locate input =>
    rw [emailLoginStep] at h
    cases hchallenge : db.customerEmailChallenges.get? input.challengeId with
    | none =>
      rw [hchallenge] at h
      cases h
      exact ⟨.same, trivial⟩
    | some challenge =>
      rw [hchallenge] at h
      cases h
      exact ⟨.same, challenge, hchallenge, rfl⟩
  | transact input userId =>
    cases h
    refine ⟨?_, trivial⟩
    obtain ⟨challenge, hchallenge, huser⟩ := hreads
    cases hlock : db.lockCustomer userId with
    | none =>
      simp only [completeEmail, emailLoginEvents, hlock]
      exact .same
    | some user =>
      simp only [completeEmail, emailLoginEvents, hlock, hchallenge]
      by_cases hopen : emailChallengeOpen input w.now user challenge
      · rw [if_pos hopen, if_pos hopen]
        by_cases hcode : input.code = challenge.code
        · have hintact : db.intact w.now (.email input.challengeId) = true := by
            rw [AuthDatabase.intact, hchallenge, Option.any_some, decide_eq_true_eq]
            exact ⟨hopen.2.1, hopen.2.2.1⟩
          rw [if_pos hcode, if_pos hcode, hintact, (roleOf_lockCustomer hlock).2]
          exact .emailCompleted hlock hchallenge hopen huser rfl
        · rw [if_neg hcode, if_neg hcode]
          exact .emailRefused hchallenge hopen
      · rw [if_neg hopen, if_neg hopen]
        exact .same
  | done result => cases h

theorem twoFactorStep_writes {l l' : TwoFactorState} (hreads : twoFactorReads db l)
    (h : twoFactorStep settings w db l = some (db', l')) :
    AuthWrites settings w db (twoFactorEvents settings w db l) db' ∧ twoFactorReads db l' := by
  cases l with
  | evaluate input =>
    rw [twoFactorStep] at h
    rw [twoFactorEvents]
    cases hcode : evaluateCode settings w.now input db with
    | error e =>
      rw [hcode] at h
      cases h
      exact ⟨.same, trivial⟩
    | ok run =>
      rw [hcode] at h
      cases h
      obtain ⟨⟨challenge, hchallenge, hattempts⟩, hrun⟩ := evaluateCode_eq_ok hcode
      exact ⟨.adminCompared hchallenge hattempts, hrun⟩
  | consuming run =>
    rw [twoFactorStep] at h
    cases hok : completeTransaction settings run db with
    | error e =>
      have hevents : twoFactorEvents settings w db (.consuming run) = [] := by
        rw [twoFactorEvents, hok]
        cases run.factor <;> rfl
      rw [hok] at h
      rw [hevents]
      cases e <;> cases h <;> exact ⟨.same, trivial⟩
    | ok out =>
      obtain ⟨db₁, sessionId⟩ := out
      obtain ⟨factor, consumed, challenge, hfactor, hconsumed, hchallenge, hunused, hexpires, rfl,
        rfl⟩ := completeTransaction_eq_ok hok
      obtain ⟨hattempts, ⟨challenge', hchallenge', huser⟩, hcredential, hfor⟩ := hreads
      have hsame : challenge' = challenge := Option.mem_unique hchallenge' hchallenge
      rw [hok] at h
      simp only [twoFactorEvents, hok, hfactor]
      cases h
      exact ⟨.adminCompleted hconsumed hcredential (hfor factor hfactor) hchallenge hunused hexpires
        hattempts (hsame ▸ huser) rfl, trivial⟩
  | counting run e =>
    cases h
    exact ⟨.attemptCounted, trivial⟩
  | done result => cases h

theorem requestResetStep_writes {l l' : RequestResetState}
    (h : requestResetStep settings w db l = some (db', l')) : AuthWrites settings w db [] db' := by
  cases l with
  | locate email =>
    rw [requestResetStep] at h
    split at h
    · split at h <;> cases h <;> exact .same
    · cases h
      exact .same
  | transact userId =>
    cases h
    exact .resetTokens
  | done => cases h

theorem confirmResetStep_writes {l l' : ConfirmResetState}
    (h : confirmResetStep w db l = some (db', l')) : AuthWrites settings w db
    (confirmResetEvents db l) db' := by
  cases l with
  | read input =>
    rw [confirmResetStep] at h
    split at h <;> cases h <;> exact .same
  | transact input userId now =>
    cases h
    rw [confirmResetEvents]
    cases hok : confirmReset input userId now db with
    | error e =>
      simp only [atomically, hok]
      exact .same
    | ok out =>
      simp only [atomically, hok]
      exact confirmReset_eq_ok hok
  | done result => cases h

theorem authenticateStep_writes {l l' : AuthenticateState}
    (h : authenticateStep settings w db l = some (db', l')) : AuthWrites settings w db [] db' := by
  cases l with
  | read sessionId =>
    cases h
    exact .same
  | revoking sessionId now =>
    rw [authenticateStep] at h
    split at h
    · rename_i db₁ hrevoked
      cases h
      rw [revokeSessions_eq_ok hrevoked]
      exact .sessionsRevoked
    · cases h
      exact .same
  | touching sessionId now legacy =>
    cases h
    exact .sessionTouched
  | done result => cases h

theorem endSessionsStep_writes {l l' : EndSessionsState}
    (h : endSessionsStep settings w db l = some (db', l')) : AuthWrites settings w db [] db' := by
  cases l with
  | authenticate sessionId ended =>
    rw [endSessionsStep] at h
    split at h <;> cases h <;> exact .same
  | revoking auth ended =>
    cases h
    refine Or.elim (atomically_fst (fun db => do
      requireOwn auth db ended
      let db ← db.revokeSessions (ended.ends auth) w.now
      return (db, ())) db) (fun hsame => ?_) fun ⟨u, hok⟩ => ?_
    · rw [hsame]
      exact .same
    · simp only [bind_eq_ok] at hok
      obtain ⟨-, -, db₁, hrevoked, hok⟩ := hok
      have hdb := (Prod.mk.inj (pure_eq_ok.1 hok)).1
      rw [← hdb, revokeSessions_eq_ok hrevoked]
      exact .sessionsRevoked
  | done result => cases h

theorem preferencesStep_writes {l l' : PreferencesState}
    (h : preferencesStep settings w db l = some (db', l')) : AuthWrites settings w db [] db' := by
  cases l with
  | authenticate input =>
    rw [preferencesStep] at h
    split at h
    · split at h <;> cases h <;> exact .same
    · cases h
      exact .same
  | transact input auth =>
    cases h
    rcases atomically_fst (updatePreferences input auth w.now) db with hsame | ⟨u, hok⟩
    · rw [hsame]
      exact .same
    · exact updatePreferences_eq_ok hok
  | done result => cases h

theorem setupStep_writes {l l' : SetupState} (hreads : setupReads db l)
    (h : setupStep settings w db l = some (db', l')) :
    AuthWrites settings w db (setupEvents l) db' ∧ setupReads db l' := by
  cases l with
  | authenticate input =>
    rw [setupStep] at h
    split at h
    · rename_i auth hok
      cases h
      exact ⟨.same, (authenticateAdmin_eq_ok hok).2⟩
    · cases h
      exact ⟨.same, trivial⟩
  | checking input auth =>
    rw [setupStep] at h
    split at h
    · cases h
      exact ⟨.same, hreads⟩
    · cases h
      exact ⟨.same, trivial⟩
  | reading userId secret =>
    rw [setupStep] at h
    split at h
    · cases h
      exact ⟨.same, trivial⟩
    · cases h
      exact ⟨.same, hreads⟩
  | writing userId secret =>
    cases h
    exact ⟨.setupStarted hreads, trivial⟩
  | done result => cases h

theorem enableStep_writes {l l' : EnableState} (hreads : enableReads settings db l)
    (h : enableStep settings w db l = some (db', l')) :
    AuthWrites settings w db (enableEvents db l) db' ∧ enableReads settings db l' := by
  cases l with
  | authenticate input =>
    rw [enableStep] at h
    split at h
    · rename_i auth hok
      cases h
      exact ⟨.same, (authenticateAdmin_eq_ok hok).1⟩
    · cases h
      exact ⟨.same, trivial⟩
  | reading input auth =>
    rw [enableStep] at h
    split at h
    · rename_i run hok
      cases h
      exact ⟨.same, readPending_eq_ok hreads hok⟩
    · cases h
      exact ⟨.same, trivial⟩
  | enabling run =>
    cases h
    refine ⟨?_, trivial⟩
    rw [enableEvents]
    cases hok : enableTransaction run db with
    | error e =>
      simp only [atomically, hok]
      exact .same
    | ok out =>
      simp only [atomically, hok]
      exact enableTransaction_eq_ok hreads hok
  | done result => cases h

variable {l l' : FactorState} {credentialId : ℕ}

/-- The part that `disableTwoFactor` and `regenerateRecoveryCodes` share. -/
theorem factorStep_writes {consumed : FactorRun → Option (AuthDatabase × FactorState)}
    {replacing : FactorRun → List RowId → List String → Option (AuthDatabase × FactorState)}
    (hreads : factorReads db l)
    (hconsumed : ∀ run, factorReads db (.consumed run) → consumed run = some (db', l') →
      AuthWrites settings w db [] db' ∧ factorReads db l')
    (hreplacing : ∀ run seen codes, factorReads db (.replacing run seen codes) →
      replacing run seen codes = some (db', l') →
        AuthWrites settings w db (factorEvents settings db (.replacing run seen codes)) db' ∧
          factorReads db l')
    (h : factorStep settings w db consumed replacing l = some (db', l')) :
    AuthWrites settings w db (factorEvents settings db l) db' ∧ factorReads db l' := by
  cases l with
  | authenticate input | checking input auth =>
    rw [factorStep] at h
    split at h <;> cases h <;> exact ⟨.same, trivial⟩
  | reading input auth =>
    rw [factorStep] at h
    split at h
    · rename_i run hok
      cases h
      exact ⟨.same, readFactor_eq_ok hok⟩
    · cases h
      exact ⟨.same, trivial⟩
  | consuming run =>
    rw [factorStep] at h
    rw [factorEvents]
    cases hok : consumeFactor run.credentialId run.now run.factor db with
    | error e =>
      rw [hok] at h
      cases h
      exact ⟨.same, trivial⟩
    | ok db₁ =>
      rw [hok] at h
      cases h
      exact ⟨.factorConsumed (consumeFactor_eq_ok hok) hreads.1 hreads.2, hreads⟩
  | consumed run => exact hconsumed run hreads h
  | replacing run seen recoveryCodes => exact hreplacing run seen recoveryCodes hreads h
  | done result => cases h

theorem disableStep_writes (hreads : factorReads db l)
    (h : disableStep settings w db l = some (db', l')) :
    AuthWrites settings w db (factorEvents settings db l) db' ∧ factorReads db l' := by
  refine factorStep_writes hreads (fun run hrun hstep => ?_) (fun _ _ _ _ hstep => ?_) h
  · cases hstep
    refine ⟨?_, trivial⟩
    rcases atomically_fst (disableTransaction run) db with hsame | ⟨u, hok⟩
    · rw [hsame]
      exact .same
    · exact disableTransaction_eq_ok hrun.1 hok
  · cases hstep

theorem regenerateStep_writes (hreads : factorReads db l)
    (h : regenerateStep settings w db l = some (db', l')) :
    AuthWrites settings w db (factorEvents settings db l) db' ∧ factorReads db l' := by
  refine factorStep_writes hreads (fun run hrun hstep => ?_)
    (fun run seen recoveryCodes hrun hstep => ?_) h
  · cases hstep
    exact ⟨.same, hrun⟩
  · cases hstep
    refine ⟨?_, trivial⟩
    rw [factorEvents]
    cases hok : replaceTransaction run seen (recoveryCodes.map settings.hashRecoveryCode) db with
    | error e =>
      simp only [atomically, hok]
      exact .same
    | ok out =>
      simp only [atomically, hok]
      exact replaceTransaction_eq_ok hrun.1 hok

theorem authWrites_of_step (kind : AuthKind) {l l' : (authOperations settings kind).Local}
    (hreads : AuthReads settings db kind l)
    (h : (authOperations settings kind).step w db l = some (db', l')) :
    AuthWrites settings w db (authEvents settings kind w db l) db' ∧ AuthReads settings db kind l' := by
  cases kind with
  | login => exact loginStep_writes hreads h
  | completeCustomerEmailLogin => exact emailLoginStep_writes hreads h
  | completeTwoFactorLogin => exact twoFactorStep_writes hreads h
  | requestPasswordReset => exact ⟨requestResetStep_writes h, trivial⟩
  | confirmPasswordReset => exact ⟨confirmResetStep_writes h, trivial⟩
  | authenticateSession => exact ⟨authenticateStep_writes h, trivial⟩
  | endSessions => exact ⟨endSessionsStep_writes h, trivial⟩
  | updateCustomerSecurityPreferences =>
    exact ⟨preferencesStep_writes h, trivial⟩
  | beginTwoFactorSetup => exact setupStep_writes hreads h
  | enableTwoFactor => exact enableStep_writes hreads h
  | disableTwoFactor => exact disableStep_writes hreads h
  | regenerateRecoveryCodes => exact regenerateStep_writes hreads h

/-! ## What the writes keep -/

theorem grows_revoked (p : RowId → AuthSession → Bool) (now : ℕ) :
    db.authSessions.Grows SessionMoves (db.revoked p now) :=
  grows_updateWhere SessionMoves.refl fun _ _ _ _ => ⟨rfl, fun _ => rfl⟩

theorem get?_revoked {p : RowId → AuthSession → Bool} {id : ℕ} {session : AuthSession}
    (h : db.authSessions.get? id = some session) :
    ∃ session', (db.revoked p now).get? id = some session' ∧ session'.userId = session.userId ∧
      (p id session = true → session'.revokedAt.isSome) := by
  rw [AuthDatabase.revoked, get?_updateWhere, h, Option.map_some]
  cases hrevoked : session.revokedAt with
  | none =>
    by_cases hp : p id session = true
    · refine ⟨revoke now session, ?_, rfl, fun _ => rfl⟩
      simp [hp]
    · refine ⟨session, ?_, rfl, fun hpos => absurd hpos hp⟩
      simp [hp]
  | some at_ =>
    refine ⟨session, ?_, rfl, fun _ => Option.isSome_of_eq_some hrevoked⟩
    simp

variable {events : List AuthEvent}

theorem grows_usersUpdate {f : User → User} (h : ∀ user, UserStays user (f user)) :
    db.users.Grows UserStays (db.users.update userId f) :=
  grows_update UserStays.refl fun user _ => h user

theorem grows_superseded (userId now : ℕ) : db.customerEmailChallenges.Grows EmailChallengeMoves
    (db.supersedeEmailChallenges userId now).customerEmailChallenges :=
  grows_updateWhere EmailChallengeMoves.refl fun _ _ _ _ =>
    ⟨rfl, rfl, fun _ => rfl, Nat.le_refl _⟩

theorem grows_adminSuperseded (userId now : ℕ) : db.adminLoginChallenges.Grows AdminChallengeMoves
    (db.supersedeAdminChallenges userId now).adminLoginChallenges :=
  grows_updateWhere AdminChallengeMoves.refl fun _ _ _ _ => ⟨rfl, fun _ => rfl, Nat.le_refl _⟩

theorem grows_deletedCodes (p : RowId → AdminRecoveryCode → Bool) :
    db.adminRecoveryCodes.Grows RecoveryCodeMoves (db.deleteRecoveryCodes p).adminRecoveryCodes :=
  grows_updateWhere RecoveryCodeMoves.refl fun _ _ _ _ =>
    ⟨rfl, rfl, fun h => h, fun _ => rfl⟩

theorem grows_insertedCodes (codes : Table AdminRecoveryCode) (rows : List AdminRecoveryCode) :
    codes.Grows RecoveryCodeMoves (codes.insertAll rows) :=
  fun _ code h => ⟨code, get?_insertAll_of_some h, .refl code⟩

theorem RecoveryCodeMoves.trans {a b c : AdminRecoveryCode} (h : RecoveryCodeMoves a b)
    (h' : RecoveryCodeMoves b c) : RecoveryCodeMoves a c :=
  ⟨h'.credentialId.trans h.credentialId, h'.codeHash.trans h.codeHash, fun hu => h'.used (h.used hu),
    fun hd => h'.deleted (h.deleted hd)⟩

theorem SessionMoves.trans {a b c : AuthSession} (h : SessionMoves a b) (h' : SessionMoves b c) :
    SessionMoves a c :=
  ⟨h'.userId.trans h.userId, fun hr => h'.revoked (h.revoked hr)⟩

theorem EmailChallengeMoves.trans {a b c : CustomerEmailChallenge} (h : EmailChallengeMoves a b)
    (h' : EmailChallengeMoves b c) : EmailChallengeMoves a c :=
  ⟨h'.userId.trans h.userId, h'.credentialBinding.trans h.credentialBinding,
    fun hu => h'.used (h.used hu), Nat.le_trans h.failedAttempts h'.failedAttempts⟩

theorem AdminChallengeMoves.trans {a b c : AdminLoginChallenge} (h : AdminChallengeMoves a b)
    (h' : AdminChallengeMoves b c) : AdminChallengeMoves a c :=
  ⟨h'.userId.trans h.userId, fun hu => h'.used (h.used hu),
    Nat.le_trans h.failedAttempts h'.failedAttempts⟩

theorem FactorConsumed.extends
    (h : FactorConsumed db credentialId now factor db') : AuthExtends db db' := by
  cases h with
  | timeStep _ _ _ =>
    exact { AuthExtends.refl db with
      credentials := grows_update CredentialMoves.refl fun _ _ => ⟨rfl, fun h => h, fun h => h⟩ }
  | recoveryCode _ _ _ =>
    exact { AuthExtends.refl db with
      codes := grows_update RecoveryCodeMoves.refl fun _ _ =>
        ⟨rfl, rfl, fun _ => rfl, fun h => h⟩ }

theorem FactorConsumed.completed_extends {challengeId usedAt : ℕ}
    (h : FactorConsumed db credentialId now factor db') (session : AuthSession) :
    AuthExtends db' (createSession session { db' with
      adminLoginChallenges := db.adminLoginChallenges.update challengeId
        (useAdminChallenge usedAt) }) := by
  refine { AuthExtends.refl db' with
    sessions := grows_insert SessionMoves.refl _ _
    adminChallenges := ?_ }
  rw [h.tables.1]
  exact grows_update AdminChallengeMoves.refl fun _ _ => ⟨rfl, fun _ => rfl, Nat.le_refl _⟩

theorem upsertCredential_extends (userId : RowId) (secret : String) :
    AuthExtends db (upsertCredential userId secret db) := by
  rw [upsertCredential]
  split
  · exact { AuthExtends.refl db with
      credentials := grows_update CredentialMoves.refl fun _ _ => ⟨rfl, fun h => h, fun h => h⟩
      codes := grows_deletedCodes _ }
  · exact { AuthExtends.refl db with credentials := grows_insert CredentialMoves.refl _ _ }

theorem AuthWrites.extends (h : AuthWrites settings w db events db') :
    AuthExtends db db' := by
  cases h with
  | same | adminCompared _ _ => exact .refl db
  | resetTokens => exact { AuthExtends.refl db with }
  | sessionByPassword _ _ =>
    exact { AuthExtends.refl db with sessions := grows_insert SessionMoves.refl _ _ }
  | emailChallenge _ _ =>
    exact { AuthExtends.refl db with
      emailChallenges := Grows.trans (fun _ _ _ => .trans) (grows_superseded _ _)
        (grows_insert EmailChallengeMoves.refl _ _) }
  | adminChallenge _ =>
    exact { AuthExtends.refl db with
      adminChallenges := Grows.trans (fun _ _ _ => .trans) (grows_adminSuperseded _ _)
        (grows_insert AdminChallengeMoves.refl _ _) }
  | emailRefused hchallenge hopen =>
    refine { AuthExtends.refl db with
      emailChallenges := grows_update EmailChallengeMoves.refl fun challenge _ =>
        ⟨rfl, rfl, fun hused => ?_, Nat.le_succ _⟩ }
    rw [failEmailChallenge]
    split
    · rfl
    · exact hused
  | emailCompleted _ _ _ _ _ =>
    exact { AuthExtends.refl db with
      sessions := grows_insert SessionMoves.refl _ _
      emailChallenges := grows_update EmailChallengeMoves.refl fun _ _ =>
        ⟨rfl, rfl, fun _ => rfl, Nat.le_refl _⟩ }
  | adminCompleted hconsumed _ _ _ _ _ _ _ _ =>
    have hextends := hconsumed.extends
    obtain ⟨-, hsessions, -, -⟩ := hconsumed.tables
    refine { hextends with
      sessions := ?_
      adminChallenges := grows_update AdminChallengeMoves.refl fun _ _ =>
        ⟨rfl, fun _ => rfl, Nat.le_refl _⟩ }
    rw [createSession, hsessions]
    exact grows_insert SessionMoves.refl _ _
  | attemptCounted =>
    exact { AuthExtends.refl db with
      adminChallenges := grows_updateWhere AdminChallengeMoves.refl fun _ _ _ _ =>
        ⟨rfl, fun h => h, Nat.le_succ _⟩ }
  | passwordReset =>
    exact { AuthExtends.refl db with
      users := grows_usersUpdate fun _ => rfl
      sessions := grows_revoked _ _ }
  | sessionsRevoked => exact { AuthExtends.refl db with sessions := grows_revoked _ _ }
  | sessionTouched =>
    exact { AuthExtends.refl db with
      sessions := grows_updateWhere SessionMoves.refl fun _ _ _ _ => ⟨rfl, fun h => h⟩ }
  | preferenceChanged =>
    exact { AuthExtends.refl db with
      users := grows_usersUpdate fun _ => rfl
      sessions := grows_revoked _ _
      emailChallenges := grows_superseded _ _ }
  | setupStarted _ => exact upsertCredential_extends _ _
  | enabled _ _ _ _ _ _ _ _ =>
    exact { AuthExtends.refl db with
      credentials := grows_update CredentialMoves.refl fun _ _ => ⟨rfl, fun _ => rfl, fun h => h⟩
      codes := grows_insertedCodes _ _
      sessions := Grows.trans (fun _ _ _ => .trans) (grows_revoked _ _)
        (grows_update SessionMoves.refl fun _ _ => ⟨rfl, fun h => h⟩) }
  | factorConsumed hconsumed _ _ => exact hconsumed.extends
  | disabled _ =>
    exact { AuthExtends.refl db with
      credentials := grows_update CredentialMoves.refl fun _ _ => ⟨rfl, fun h => h, fun _ => rfl⟩
      codes := grows_deletedCodes _
      sessions := grows_revoked _ _ }
  | codesReplaced _ _ _ =>
    exact { AuthExtends.refl db with
      codes := Grows.trans (fun _ _ _ => .trans) (grows_deletedCodes _)
        (grows_insertedCodes _ _) }

def LiveCredential (db : AuthDatabase) (credentialId : RowId) : Prop :=
  ∃ credential, db.adminTotpCredentials.get? credentialId = some credential ∧
    credential.deleted = false ∧ credential.enabledAt.isSome

/-- What holds of users and their second factors. -/
structure AuthConsistent (db : AuthDatabase) : Prop where
  unique : ∀ i j a b, db.adminTotpCredentials.get? i = some a →
    db.adminTotpCredentials.get? j = some b → a.deleted = false → b.deleted = false →
      a.userId = b.userId → i = j
  admin : ∀ id credential, db.adminTotpCredentials.get? id = some credential →
    db.roleOf credential.userId = some .admin
  codes : ∀ id code, db.adminRecoveryCodes.get? id = some code → code.deleted = false →
    LiveCredential db code.credentialId

/-- An installation with its users, and none of them ever signed in. -/
structure NobodySignedIn (db : AuthDatabase) : Prop where
  sessions : db.authSessions = ∅
  credentials : db.adminTotpCredentials = ∅
  codes : db.adminRecoveryCodes = ∅
  adminChallenges : db.adminLoginChallenges = ∅
  emailChallenges : db.customerEmailChallenges = ∅

theorem NobodySignedIn.consistent (h : NobodySignedIn db) : AuthConsistent db where
  unique i j a b ha := by
    rw [h.credentials] at ha
    exact absurd ha get?_empty_ne
  admin id credential hcredential := by
    rw [h.credentials] at hcredential
    exact absurd hcredential get?_empty_ne
  codes id code hcode := by
    rw [h.codes] at hcode
    exact absurd hcode get?_empty_ne

theorem AuthConsistent.frame (h : AuthConsistent db)
    (hroles : ∀ userId role, db.roleOf userId = some role → db'.roleOf userId = some role)
    (hcredentials : db'.adminTotpCredentials = db.adminTotpCredentials)
    (hcodes : db'.adminRecoveryCodes = db.adminRecoveryCodes) : AuthConsistent db' where
  unique := by
    rw [hcredentials]
    exact h.unique
  admin id credential hcredential := by
    rw [hcredentials] at hcredential
    exact hroles _ _ (h.admin id credential hcredential)
  codes id code hcode hlive := by
    rw [hcodes] at hcode
    rw [LiveCredential, hcredentials]
    exact h.codes id code hcode hlive

theorem AuthConsistent.of_extends (h : AuthConsistent db) (hextends : AuthExtends db db')
    (hsize : db'.adminTotpCredentials.size = db.adminTotpCredentials.size)
    (hcodes : ∀ id code, db'.adminRecoveryCodes.get? id = some code → code.deleted = false →
      LiveCredential db' code.credentialId) : AuthConsistent db' := by
  have hlive {credential credential' : AdminTotpCredential}
      (hmoves : CredentialMoves credential credential') (hdeleted : credential'.deleted = false) :
      credential.deleted = false := by
    rw [← Bool.not_eq_true] at hdeleted ⊢
    exact fun hbefore => hdeleted (hmoves.deleted hbefore)
  refine ⟨fun i j a b ha hb hai hbj hsame => ?_, fun id credential hcredential => ?_, hcodes⟩
  · obtain ⟨a₀, ha₀, hma⟩ := hextends.credentials.before hsize ha
    obtain ⟨b₀, hb₀, hmb⟩ := hextends.credentials.before hsize hb
    refine h.unique i j a₀ b₀ ha₀ hb₀ (hlive hma hai) (hlive hmb hbj) ?_
    rw [← hma.userId, ← hmb.userId, hsame]
  · obtain ⟨before, hbefore, hmoves⟩ := hextends.credentials.before hsize hcredential
    rw [hmoves.userId]
    exact hextends.roleOf (h.admin id before hbefore)

theorem LiveCredential.of_update {credentialId id : RowId}
    {f : AdminTotpCredential → AdminTotpCredential} (h : LiveCredential db id)
    (hcredentials : db'.adminTotpCredentials = db.adminTotpCredentials.update credentialId f)
    (hf : ∀ credential, (f credential).deleted = credential.deleted ∧
      (credential.enabledAt.isSome → (f credential).enabledAt.isSome)) : LiveCredential db' id := by
  obtain ⟨credential, hcredential, hlive, henabled⟩ := h
  rw [LiveCredential, hcredentials, get?_update, hcredential]
  split
  · exact ⟨f credential, rfl, (hf credential).1.trans hlive, (hf credential).2 henabled⟩
  · exact ⟨credential, rfl, hlive, henabled⟩

theorem live_of_deleteRecoveryCodes {p : RowId → AdminRecoveryCode → Bool} {id : RowId}
    {code : AdminRecoveryCode}
    (hcode : (db.deleteRecoveryCodes p).adminRecoveryCodes.get? id = some code)
    (hlive : code.deleted = false) :
    db.adminRecoveryCodes.get? id = some code ∧ p id code = false := by
  obtain ⟨before, hbefore, rfl⟩ := get?_updateWhere_cases hcode
  split at hlive
  · cases hlive
  · rename_i hp
    rw [if_neg hp]
    exact ⟨hbefore, Bool.not_eq_true _ ▸ hp⟩

theorem FactorConsumed.consistent
    (hs : AuthConsistent db) (h : FactorConsumed db credentialId now factor db') :
    AuthConsistent db' := by
  refine hs.of_extends h.extends ?_ fun id code hcode hlive => ?_
  · cases h with
    | timeStep _ _ _ => exact size_update _ _ _
    | recoveryCode _ _ _ => rfl
  · cases h with
    | timeStep _ _ _ =>
      exact (hs.codes id code hcode hlive).of_update rfl fun _ => ⟨rfl, fun henabled => henabled⟩
    | recoveryCode _ _ _ =>
      rcases get?_update_cases hcode with ⟨-, before, hbefore, rfl⟩ | ⟨-, hold⟩
      · exact hs.codes _ before hbefore hlive
      · exact hs.codes id code hold hlive

theorem upsertCredential_consistent {secret : String} (hs : AuthConsistent db)
    (hrole : db.roleOf userId = some .admin) : AuthConsistent
    (upsertCredential userId secret db) := by
  rw [upsertCredential]
  cases hcredential : db.credentialOf userId with
  | some entry =>
    have hextends := @upsertCredential_extends db userId secret
    rw [upsertCredential, hcredential] at hextends
    refine hs.of_extends hextends (size_update _ _ _) fun id code hcode hlive => ?_
    obtain ⟨hbefore, -⟩ := live_of_deleteRecoveryCodes hcode hlive
    exact (hs.codes id code hbefore hlive).of_update rfl fun _ => ⟨rfl, fun henabled => henabled⟩
  | none =>
    -- No credential of the user is there, so the new one is its only one.
    have hnone (id : RowId) (credential : AdminTotpCredential)
        (hget : db.adminTotpCredentials.get? id = some credential)
        (hlive : credential.deleted = false) : credential.userId ≠ userId := by
      have hp := find?_eq_none.1 hcredential id credential hget
      rw [decide_eq_false_iff_not] at hp
      exact fun huser => hp ⟨huser, hlive⟩
    refine ⟨fun i j a b ha hb hai hbj hsame => ?_, fun id credential hget => ?_,
        fun id code hcode hlive => ?_⟩
    · rcases get?_insert_cases ha with ⟨hi, rfl⟩ | ha₀
      · rcases get?_insert_cases hb with ⟨hj, -⟩ | hb₀
        · rw [hi, hj]
        · exact absurd hsame.symm (hnone j b hb₀ hbj)
      · rcases get?_insert_cases hb with ⟨-, rfl⟩ | hb₀
        · exact absurd hsame (hnone i a ha₀ hai)
        · exact hs.unique i j a b ha₀ hb₀ hai hbj hsame
    · rcases get?_insert_cases hget with ⟨-, rfl⟩ | hbefore
      · exact hrole
      · exact hs.admin id credential hbefore
    · obtain ⟨credential, hget, hrest⟩ := hs.codes id code hcode hlive
      exact ⟨credential, get?_insert_of_some hget, hrest⟩

theorem AuthWrites.consistent (hs : AuthConsistent db) (h : AuthWrites settings w db events db') :
    AuthConsistent db' := by
  have hextends := h.extends
  cases h with
  | same | adminCompared _ _ => exact hs
  | resetTokens | sessionByPassword _ _ | emailChallenge _ _ | adminChallenge _ | emailRefused _ _
  | emailCompleted _ _ _ _ _ | attemptCounted | passwordReset | sessionsRevoked | sessionTouched
  | preferenceChanged => exact hs.frame (fun _ _ => hextends.roleOf) rfl rfl
  | adminCompleted hconsumed _ _ _ _ _ _ _ _ =>
    exact (hconsumed.consistent hs).frame (fun _ _ hrole => hrole) rfl rfl
  | setupStarted hrole => exact upsertCredential_consistent hs hrole
  | factorConsumed hconsumed _ _ => exact hconsumed.consistent hs
  | enabled _ hcredential hlive hpending huser hnodup hsession hof =>
    refine hs.of_extends hextends (size_update _ _ _) fun id code hcode hcodeLive => ?_
    rcases get?_insertAll_cases hcode with ⟨-, hnew⟩ | hold
    · obtain ⟨codeHash, -, rfl⟩ := List.mem_map.1 hnew
      exact ⟨_, get?_update_self hcredential, hlive, rfl⟩
    · exact (hs.codes id code hold hcodeLive).of_update rfl fun _ => ⟨rfl, fun _ => rfl⟩
  | disabled hcredential =>
    refine hs.of_extends hextends (size_update _ _ _) fun id code hcode hlive => ?_
    obtain ⟨hbefore, hother⟩ := live_of_deleteRecoveryCodes hcode hlive
    obtain ⟨credential, hget, hrest⟩ := hs.codes id code hbefore hlive
    refine ⟨credential, ?_, hrest⟩
    rw [disabledDatabase, get?_update_of_ne (Ne.symm (of_decide_eq_false hother)), hget]
  | codesReplaced hcredential hlive henabled =>
    refine hs.of_extends hextends rfl fun id code hcode hcodeLive => ?_
    rcases get?_insertAll_cases hcode with ⟨-, hnew⟩ | hold
    · obtain ⟨codeHash, -, rfl⟩ := List.mem_map.1 hnew
      exact ⟨_, hcredential, hlive, henabled⟩
    · obtain ⟨hbefore, -⟩ := live_of_deleteRecoveryCodes hold hcodeLive
      exact hs.codes id code hbefore hcodeLive

end

/-! ## Runs -/

section

variable {settings}

/-- The guard that a step passes when `G` holds of everything that it notes, in the database and
with the trace that it finds. -/
def NotesOnly (settings : AuthSettings)
    (G : AuthWorld → AuthDatabase → List AuthEvent → AuthEvent → Prop) (w : AuthWorld)
    (s : AuthDatabase × List AuthEvent) (t : Thread (tracedAuth settings)) : Prop :=
  ∀ event ∈ authEvents settings t.op w s.1 t.loc, G w s.1 s.2 event

instance {G : AuthWorld → AuthDatabase → List AuthEvent → AuthEvent → Prop}
    [∀ w db trace event, Decidable (G w db trace event)] (w : AuthWorld)
    (s : AuthDatabase × List AuthEvent) (t : Thread (tracedAuth settings)) :
    Decidable (NotesOnly settings G w s t) :=
  inferInstanceAs (Decidable (∀ event ∈ authEvents settings t.op w s.1 t.loc, G w s.1 s.2 event))

/-- What is kept by every write whose notes `G` holds of. -/
def KeptByWrites (settings : AuthSettings)
    (G : AuthWorld → AuthDatabase → List AuthEvent → AuthEvent → Prop)
    (I : AuthDatabase → List AuthEvent → Prop) : Prop :=
  ∀ w db trace events db', AuthConsistent db → AuthWrites settings w db events db' →
    (∀ event ∈ events, G w db trace event) → I db trace → I db' (trace ++ events)

def authOutline (settings : AuthSettings) (I : AuthDatabase → List AuthEvent → Prop) :
    Outline (tracedAuth settings) where
  shared s := AuthConsistent s.1 ∧ I s.1 s.2
  thread s t := AuthReads settings s.1 t.op t.loc

theorem authReads_begin (db : AuthDatabase) (kind : AuthKind)
    (request : (authOperations settings kind).Request) :
    AuthReads settings db kind ((authOperations settings kind).start request) := by
  cases kind <;> trivial

variable {G : AuthWorld → AuthDatabase → List AuthEvent → AuthEvent → Prop}
  {I : AuthDatabase → List AuthEvent → Prop}

theorem authOutline_sound (hI : KeptByWrites settings G I) :
    (authOutline settings I).Sound (NotesOnly settings G) where
  symm _ _ h := h
  call s op request _ := authReads_begin s.1 op request
  call_apart _ _ _ := trivial
  own w s t s' t' hG hs ht hmove := by
    obtain ⟨l, hstep, htrace, rfl⟩ := Thread.traced_step hmove
    obtain ⟨hwrites, hreads⟩ := authWrites_of_step t.op ht hstep
    have hkept := hI w s.1 s.2 _ s'.1 hs.1 hwrites hG hs.2
    rw [← htrace] at hkept
    exact ⟨⟨hwrites.consistent hs.1, hkept⟩, hreads.mono hwrites.extends⟩
  other w s t s' t' u _ _ ht hu _ hmove := by
    obtain ⟨l, hstep, -, rfl⟩ := Thread.traced_step hmove
    exact ⟨AuthReads.mono hu (authWrites_of_step t.op ht hstep).1.extends, trivial⟩

theorem holds_of_writes (hI : KeptByWrites settings G I) {db : AuthDatabase} (hdb : NobodySignedIn db)
    (hinit : I db []) {c : Config (tracedAuth settings)}
    (hr : Config.Reaches (NotesOnly settings G) ⟨(db, []), []⟩ c) :
    AuthConsistent c.shared.1 ∧ I c.shared.1 c.shared.2 :=
  ((authOutline_sound hI).holds (Outline.holds_idle ⟨hdb.consistent, hinit⟩) hr).shared

end

/-! ### An administrator with a second factor -/

/-- An installation whose two codes alternate from one time step to the next. -/
def sampleSettings : AuthSettings where
  sessionTtlMilliseconds := 86400000
  passwordResetTtlMilliseconds := 3600000
  hotp secret step :=
    if secret = "JBSWY3DP" then if step % 2 = 0 then "492039" else "817264" else "000000"
  hashRecoveryCode code := code

abbrev tracedSample : AuthKind → Operation (AuthDatabase × List AuthEvent) AuthWorld :=
  tracedAuth sampleSettings

def sampleUsers : AuthDatabase where
  users := ⟨[{
    email := "owner@host.example", role := .admin, status := .active, passwordHash := some 0
    emailVerified := true, staffRole := some .fullAdministrator }, {
    email := "buyer@shop.example", role := .customer, status := .active, passwordHash := some 1
    emailVerified := true, customer := true, emailTwoStep := true }]⟩
  passwordHashes := ⟨["winter is over", "a shop of my own"]⟩

theorem sampleUsers_nobodySignedIn : NobodySignedIn sampleUsers := ⟨rfl, rfl, rfl, rfl, rfl⟩

def ownerLogin : LoginRequest where
  email := "owner@host.example"
  password := "winter is over"
  ipAddressHash := "office"

/-- The administrator signs in, sets the second factor up, and enables it with the code for time
step 40. -/
def enrolment : List (Move tracedSample) :=
  [.call .login ownerLogin, .advance 0 { now := 1200000 }, .advance 0 { now := 1200000 },
    .call .beginTwoFactorSetup (⟨0, "winter is over"⟩ : SetupRequest),
    .advance 1 { now := 1200000 }, .advance 1 { now := 1200000, secret := "JBSWY3DP" },
    .advance 1 { now := 1200000 }, .advance 1 { now := 1200000 },
    .call .enableTwoFactor (⟨0, "492039"⟩ : EnableRequest), .advance 2 { now := 1200000 },
    .advance 2 { now := 1200000, recoveryCodes := ["ALPHA", "BRAVO"] },
    .advance 2 { now := 1200000 }]

end Auth

end WebhostBilling
