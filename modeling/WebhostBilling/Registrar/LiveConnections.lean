import WebhostBilling.Registrar.DomainService

/-!
# Connections to live registrars

A live registrar account is saved disabled, by `createConnection` or by the older `setupLive`.
`rotate` and `rotateLiveCredential` replace its credential and disable it, and `toggle` or
`toggleLive` enables it after a read-only check of its newest credential.

A transaction that locks is two steps: one waits for the lock and reads, the other writes and
commits.  The advisory lock 510118 is that of the catalogue, and 510051 that of `setupLive`.  The
inputs are those that their schemas accept, and the audit log is not modelled.
-/

namespace WebhostBilling

open Store Concurrency RegistrarProcessor DomainService

/-! ## The store -/

inductive CatalogueHolder
  | connection (resellerId : String)
  | other
deriving DecidableEq

/-- The registrar accounts with their credentials and locks. -/
structure ConnectionStore where
  accounts : Table RegistrarAccount := ∅
  credentials : Table RegistrarCredential := ∅
  catalogueLock : Option CatalogueHolder := none
  /-- The lock of `setupLive`, for a reseller. -/
  setupLock : Option String := none
  /-- The rows of `registrar_accounts` that a transaction has locked. -/
  lockedAccounts : List RowId := []
  checksBegun : ℕ := 0

structure ConnectionWorld where
  quoted : Bool := true
  /-- Fewer than five reads of the account were reserved in the last minute. -/
  readAllowed : Bool := true
  commits : Bool := true

/-- A saved credential, or a check of one. -/
inductive ConnectionEvent
  | saved (accountId credentialId : RowId)
  | began (check : ℕ) (credentialId : RowId)
  | passed (check : ℕ) (credentialId : RowId)

namespace ConnectionStore

variable (s : ConnectionStore)

def latestCredential (accountId : RowId) : Option (RowId × RegistrarCredential) :=
  (s.credentials.select fun _ credential => credential.accountId = accountId).argmax
    fun entry => entry.2.version

def lockAccount (id : RowId) : ConnectionStore :=
  { s with lockedAccounts := id :: s.lockedAccounts }

def unlockAccount (id : RowId) : ConnectionStore :=
  { s with lockedAccounts := s.lockedAccounts.filter (· ≠ id) }

def unlockCatalogue : ConnectionStore := { s with catalogueLock := none }

def saveConnection (configuration : RegistrarConfiguration) : ConnectionStore :=
  { s with
    accounts := s.accounts.insert { mode := .live, configuration := some configuration }
    credentials := s.credentials.insert
      { accountId := s.accounts.size, resellerId := some configuration.resellerId } }

def saveCredential (accountId : RowId) (version : ℕ) (resellerId : String) : ConnectionStore :=
  { s with
    credentials := s.credentials.insert
      { accountId := accountId, version := version, resellerId := some resellerId }
    accounts := s.accounts.update accountId fun account => { account with enabled := false } }

end ConnectionStore

/-! ## Saving a connection -/

/-- `registrarIdentity` of a stored configuration. -/
def registrarIdentity (account : RegistrarAccount) : Except Failure String :=
  orThrow (.error "ZodError") (account.configuration.map RegistrarConfiguration.resellerId)

def identityTaken (resellerId : String) : List RegistrarAccount → Except Failure Bool
  | [] => .ok false
  | account :: accounts => do
    let identity ← registrarIdentity account
    if identity = resellerId then .ok true else identityTaken resellerId accounts

def ConnectionStore.liveAccounts (s : ConnectionStore) : List RegistrarAccount :=
  (s.accounts.select fun _ account => account.mode = .live).map Prod.snd

inductive SavingState
  | locking (configuration : RegistrarConfiguration)
  | writing (configuration : RegistrarConfiguration)
  | done (result : Except Failure Unit)

def SavingState.opened : Except Failure RegistrarConfiguration → SavingState
  | .ok configuration => .locking configuration
  | .error e => .done (.error e)

/-- An error that is not an `ApplicationException` is answered by one. -/
def notSaved : Failure → Failure
  | .application code message => .application code message
  | _ => deny "The registrar connection could not be saved. Refresh before retrying."

namespace DomainAdministrationService

structure CreateConnectionRequest where
  resellerId : String
  auth : AuthIdentity

def checkConnection (resellerId : String) (s : ConnectionStore) : Except Failure Unit := do
  require (s.accounts.size < 100) (deny "The registrar connection limit has been reached.")
  let taken ← identityTaken resellerId s.liveAccounts
  require (taken = false)
    (deny "This reseller identity is already configured. Replace its key instead.")

def createConnectionStep (w : ConnectionWorld) (s : ConnectionStore) :
    SavingState → Option (ConnectionStore × SavingState)
  | .locking configuration =>
    if s.catalogueLock.isSome then none
    else
      match checkConnection configuration.resellerId s with
      | .ok () => some ({ s with catalogueLock := some (.connection configuration.resellerId) },
          .writing configuration)
      | .error e => some (s, .done (.error (notSaved e)))
  | .writing configuration =>
    if w.commits then some ((s.saveConnection configuration).unlockCatalogue, .done (.ok ()))
    else some (s.unlockCatalogue, .done (.error (notSaved .uniqueConstraint)))
  | .done _ => none

/-- `DomainAdministrationService.createConnection`. -/
def createConnection : Operation ConnectionStore ConnectionWorld where
  Request := CreateConnectionRequest
  Local := SavingState
  start request := .opened do
    administrator request.auth
    return .connection request.resellerId
  step := createConnectionStep

end DomainAdministrationService

namespace DomainService

structure SetupLiveRequest where
  resellerId : String
  nameservers : List String
  auth : AuthIdentity

def setupLiveStep (w : ConnectionWorld) (s : ConnectionStore) :
    SavingState → Option (ConnectionStore × SavingState)
  | .locking configuration =>
    if s.setupLock.isSome then none
    else if s.liveAccounts ≠ [] then
      some (s, .done (.error (deny
        "The live account is already configured. Replace its credential explicitly instead.")))
    else some ({ s with setupLock := some configuration.resellerId }, .writing configuration)
  | .writing configuration =>
    if w.commits then
      some ({ s.saveConnection configuration with setupLock := none }, .done (.ok ()))
    else some ({ s with setupLock := none }, .done (.error .uniqueConstraint))
  | .done _ => none

/-- `DomainService.setupLive`. -/
def setupLive : Operation ConnectionStore ConnectionWorld where
  Request := SetupLiveRequest
  Local := SavingState
  start request := .opened do
    administrator request.auth
    return .resellbiz request.resellerId request.nameservers
  step := setupLiveStep

end DomainService

/-! ## Replacing a credential -/

structure RotationRequest where
  id : RowId
  resellerId : String
  auth : AuthIdentity

inductive RotationState
  | catalogue (id : RowId) (resellerId : String)
  | row (id : RowId) (resellerId : String)
  | writing (id : RowId) (resellerId : String) (version : ℕ)
  | done (result : Except Failure Unit)

def checkRotation (identityOf : RegistrarAccount → Except Failure String) (id : RowId)
    (resellerId : String) (s : ConnectionStore) : Except Failure ℕ := do
  let account ← orThrow missing (s.accounts.get? id)
  require (account.mode = .live)
    (deny "Credential replacement must retain the same reseller identity.")
  let identity ← identityOf account
  require (identity = resellerId)
    (deny "Credential replacement must retain the same reseller identity.")
  let latest ← orThrow missing (s.latestCredential id)
  return latest.2.version

def writeCredential (w : ConnectionWorld) (id : RowId) (resellerId : String) (version : ℕ)
    (s : ConnectionStore) : Except Failure ConnectionStore := do
  require (s.credentials.any (fun _ credential =>
    credential.accountId = id ∧ credential.version = version + 1) = false) .uniqueConstraint
  require (w.commits = true) (.error "not committed")
  return s.saveCredential id (version + 1) resellerId

namespace DomainAdministrationService

def rotateStep (w : ConnectionWorld) (s : ConnectionStore) :
    RotationState → Option (ConnectionStore × RotationState)
  | .catalogue id resellerId =>
    if s.catalogueLock.isSome then none
    else some ({ s with catalogueLock := some .other }, .row id resellerId)
  | .row id resellerId =>
    if id ∈ s.lockedAccounts then none
    else
      match checkRotation registrarIdentity id resellerId s with
      | .ok version => some (s.lockAccount id, .writing id resellerId version)
      | .error e => some (s.unlockCatalogue, .done (.error e))
  | .writing id resellerId version =>
    match writeCredential w id resellerId version s with
    | .ok s' => some ((s'.unlockAccount id).unlockCatalogue, .done (.ok ()))
    | .error e => some ((s.unlockAccount id).unlockCatalogue, .done (.error e))
  | .done _ => none

/-- `DomainAdministrationService.rotate`. -/
def rotate : Operation ConnectionStore ConnectionWorld where
  Request := RotationRequest
  Local := RotationState
  start request :=
    match administrator request.auth with
    | .ok () => .catalogue request.id request.resellerId
    | .error e => .done (.error e)
  step := rotateStep

end DomainAdministrationService

namespace DomainService

def resellbizIdentity (account : RegistrarAccount) : Except Failure String :=
  match account.configuration with
  | some (.resellbiz resellerId _) => .ok resellerId
  | _ => .error (.error "ZodError")

def rotateLiveCredentialStep (w : ConnectionWorld) (s : ConnectionStore) :
    RotationState → Option (ConnectionStore × RotationState)
  | .catalogue _ _ => none
  | .row id resellerId =>
    if id ∈ s.lockedAccounts then none
    else
      match checkRotation resellbizIdentity id resellerId s with
      | .ok version => some (s.lockAccount id, .writing id resellerId version)
      | .error e => some (s, .done (.error e))
  | .writing id resellerId version =>
    match writeCredential w id resellerId version s with
    | .ok s' => some (s'.unlockAccount id, .done (.ok ()))
    | .error e => some (s.unlockAccount id, .done (.error e))
  | .done _ => none

/-- `DomainService.rotateLiveCredential`. -/
def rotateLiveCredential : Operation ConnectionStore ConnectionWorld where
  Request := RotationRequest
  Local := RotationState
  start request :=
    match administrator request.auth with
    | .ok () => .row request.id request.resellerId
    | .error e => .done (.error e)
  step := rotateLiveCredentialStep

end DomainService

/-! ## Enabling an account -/

structure ToggleRequest where
  id : RowId
  enabled : Bool
  /-- The native costs are confirmed, which only `toggle` asks for. -/
  confirmNativeUsdCosts : Bool := false
  auth : AuthIdentity

/-- How far `toggle` or `toggleLive` is; `current` is the credential that it read first and `used`
the one that it checks. -/
inductive ToggleState
  | opening (id : RowId) (enabled confirmed : Bool)
  /-- `toggle` is about to read the credential. -/
  | reading (id : RowId) (confirmed : Bool)
  /-- `checkLive` is about to look at the account. -/
  | verifying (id current : RowId)
  /-- The credential is about to be read again, for the check. -/
  | rereading (id current : RowId)
  /-- The read is about to be reserved, by `toggle` after the credential was read again. -/
  | reserving (id current : RowId) (used : Option RowId)
  | calling (id current used : RowId)
  | answering (id current used : RowId) (check : ℕ)
  | catalogue (id : RowId) (checked : Option RowId)
  | row (id : RowId) (checked : Option RowId)
  | writing (id : RowId) (checked : Option RowId)
  | done (result : Except Failure Unit)

def requireOwnership (account : RegistrarAccount) (credential : RegistrarCredential) :
    Except Failure Unit := do
  let identity ← registrarIdentity account
  require (credential.readable = true) (.error "The credential cannot be decrypted.")
  let resellerId ← orThrow (.error "ZodError") credential.resellerId
  require (resellerId = identity) (deny "Registrar credential ownership changed.")

def stillLatest (checked : Option RowId) (id : RowId) (message : String) (s : ConnectionStore) :
    Except Failure Unit :=
  match checked with
  | some current => do
    let latest ← orThrow missing (s.latestCredential id)
    require (latest.1 = current) (deny message)
  | none => .ok ()

def ConnectionStore.setEnabled (s : ConnectionStore) (id : RowId) (checked : Option RowId) :
    ConnectionStore :=
  { s with
    accounts := s.accounts.update id fun account => { account with enabled := checked.isSome } }

namespace DomainAdministrationService

variable (settings : RegistrarSettings)

/-- `provider`: the newest credential of a live account. -/
def provider (id : RowId) (s : ConnectionStore) :
    Except Failure RowId := do
  let account ← orThrow missing (s.accounts.get? id)
  require (account.mode = .live ∧ settings.liveAllowed = true)
    (deny "Live registrar networking is disabled.")
  let credential ← orThrow missing (s.latestCredential id)
  requireOwnership account credential.2
  return credential.1

def toggleStep (w : ConnectionWorld) (s : ConnectionStore) :
    ToggleState → Option (ConnectionStore × ToggleState)
  | .opening id enabled confirmed =>
    match s.accounts.get? id with
    | none => some (s, .done (.error missing))
    | some account =>
      if account.mode ≠ .live then
        some (s, .done (.error (deny "Simulation settings are development-only.")))
      else if enabled then some (s, .reading id confirmed)
      else some (s, .catalogue id none)
  | .reading id confirmed =>
    match provider settings id s with
    | .error e => some (s, .done (.error e))
    | .ok current =>
      if confirmed then some (s, .rereading id current)
      else some (s, .done (.error (deny
        "Confirm native USD costs from the provider account before enabling.")))
  | .verifying _ _ => none
  | .rereading id current =>
    match provider settings id s with
    | .error e => some (s, .done (.error e))
    | .ok used => some (s, .reserving id current (some used))
  | .reserving id current used =>
    if id ∈ s.lockedAccounts then none
    else
      match w.readAllowed, used with
      | true, some used => some (s, .calling id current used)
      | _, _ => some (s, .done (.error (deny "Please wait before another connection check.")))
  | .calling id current used =>
    some ({ s with checksBegun := s.checksBegun + 1 }, .answering id current used s.checksBegun)
  | .answering id current _ _ =>
    if w.quoted then some (s, .catalogue id (some current))
    else some (s, .done (.error (deny
      "Registrar availability or cost could not be verified. No registration was submitted.")))
  | .catalogue id checked =>
    if s.catalogueLock.isSome then none
    else some ({ s with catalogueLock := some .other }, .row id checked)
  | .row id checked =>
    if id ∈ s.lockedAccounts then none
    else
      match stillLatest checked id
        "Credentials changed during the check. Review them again." s with
      | .ok () => some (s.lockAccount id, .writing id checked)
      | .error e => some (s.unlockCatalogue, .done (.error e))
  | .writing id checked =>
    if w.commits then
      some (((s.setEnabled id checked).unlockAccount id).unlockCatalogue, .done (.ok ()))
    else
      some ((s.unlockAccount id).unlockCatalogue, .done (.error (.error "not committed")))
  | .done _ => none

/-- `DomainAdministrationService.toggle`. -/
def toggle : Operation ConnectionStore ConnectionWorld where
  Request := ToggleRequest
  Local := ToggleState
  start request :=
    match administrator request.auth with
    | .ok () => .opening request.id request.enabled request.confirmNativeUsdCosts
    | .error e => .done (.error e)
  step := toggleStep settings

end DomainAdministrationService

namespace DomainService

/-- `liveProvider`: the newest credential of a live account. -/
def liveProvider (id : RowId) (s : ConnectionStore) : Except Failure RowId := do
  let account ← orThrow missing (s.accounts.get? id)
  require (account.mode = .live) (deny "Select the live resell.biz account.")
  let credential ← orThrow missing (s.latestCredential id)
  requireOwnership account credential.2
  return credential.1

variable (settings : RegistrarSettings)

/-- The account of `checkLive`. -/
def checkLiveAccount (id : RowId) (s : ConnectionStore) :
    Except Failure Unit := do
  let account ← orThrow missing (s.accounts.get? id)
  require (account.mode = .live) (deny "Select the live account.")
  require (settings.liveAllowed = true)
    (unavailable "Live registrar networking is disabled by the installation.")

/-- The checks of `toggleLive` under the lock of the account. -/
def checkToggleLive (id : RowId) (checked : Option RowId) (s : ConnectionStore) :
    Except Failure Unit := do
  let account ← orThrow missing (s.accounts.get? id)
  require (account.mode = .live) (deny "Select the live account.")
  stillLatest checked id
    "Credential changed during the connection check. Check it again before enabling." s

def toggleLiveStep (w : ConnectionWorld) (s : ConnectionStore) :
    ToggleState → Option (ConnectionStore × ToggleState)
  | .opening id enabled _ =>
    if enabled then
      match s.latestCredential id with
      | some (current, _) => some (s, .verifying id current)
      | none => some (s, .done (.error missing))
    else some (s, .row id none)
  | .reading _ _ => none
  | .verifying id current =>
    match checkLiveAccount settings id s with
    | .ok () => some (s, .reserving id current none)
    | .error e => some (s, .done (.error e))
  | .reserving _ _ (some _) => none
  | .reserving id current none =>
    if id ∈ s.lockedAccounts then none
    else if w.readAllowed then some (s, .rereading id current)
    else some (s, .done (.error (deny "Please wait before another registrar check.")))
  | .rereading id current =>
    match liveProvider id s with
    | .error e => some (s, .done (.error e))
    | .ok used => some (s, .calling id current used)
  | .calling id current used =>
    some ({ s with checksBegun := s.checksBegun + 1 }, .answering id current used s.checksBegun)
  | .answering id current _ _ =>
    if w.quoted then some (s, .row id (some current))
    else some (s, .done (.error (deny
      "Registrar availability or cost could not be verified. No registration was submitted.")))
  | .catalogue _ _ => none
  | .row id checked =>
    if id ∈ s.lockedAccounts then none
    else
      match checkToggleLive id checked s with
      | .ok () => some (s.lockAccount id, .writing id checked)
      | .error e => some (s, .done (.error e))
  | .writing id checked =>
    if w.commits then some ((s.setEnabled id checked).unlockAccount id, .done (.ok ()))
    else some (s.unlockAccount id, .done (.error (.error "not committed")))
  | .done _ => none

/-- `DomainService.toggleLive`. -/
def toggleLive : Operation ConnectionStore ConnectionWorld where
  Request := ToggleRequest
  Local := ToggleState
  start request :=
    match administrator request.auth with
    | .ok () => .opening request.id request.enabled request.confirmNativeUsdCosts
    | .error e => .done (.error e)
  step := toggleLiveStep settings

end DomainService

end WebhostBilling
