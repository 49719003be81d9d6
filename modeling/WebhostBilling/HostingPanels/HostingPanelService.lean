import WebhostBilling.Services.ServiceService

/-!
# Hosting-panel operations

`executeServiceOperation` records the operation in one transaction that holds the lock of the
service, then calls the panel, and records the outcome in a second transaction.  The outcome is
written to the operation by its identifier, and to the service by the service's: neither write looks
at the status it replaces.
-/

namespace WebhostBilling

open Store Concurrency

namespace HostingPanelService

/-! ## Requests and errors -/

def maxManualAttempts : ℕ := 5

/-- `ExecuteHostingOperationRequest` without its submission key. -/
inductive HostingOperationInput
  | createAccount
  | getAccount
  | suspendAccount (reason : String)
  | unsuspendAccount
  | changePackage (packageIdentifier : String)
  | changePassword (newPassword : String)
  | generateLoginUrl
  | terminateAccount (reason : String)
deriving DecidableEq

def HostingOperationInput.type : HostingOperationInput → HostingPanelOperationType
  | .createAccount => .createAccount
  | .getAccount => .getAccount
  | .suspendAccount _ => .suspendAccount
  | .unsuspendAccount => .unsuspendAccount
  | .changePackage _ => .changePackage
  | .changePassword _ => .changePassword
  | .generateLoginUrl => .generateLoginUrl
  | .terminateAccount _ => .terminateAccount

structure ExecuteHostingOperationRequest where
  submissionKey : String
  input : HostingOperationInput

structure ExecutionOptions where
  retryOfOperationId : Option RowId := none
  attemptNumber : Option ℕ := none
  paired : retryOfOperationId = none → attemptNumber = none := by simp

/-- The arguments of `executeServiceOperation`. -/
structure Execution where
  serviceId : RowId
  request : ExecuteHostingOperationRequest
  actorUserId : RowId
  options : ExecutionOptions := {}

def Execution.key (call : Execution) : OperationKey :=
  .hostingOperation call.request.submissionKey

def Execution.type (call : Execution) : HostingPanelOperationType :=
  call.request.input.type

structure HostingPanelOperationResult where
  operationId : RowId
  operation : HostingPanelOperation
  duplicate : Bool
  loginUrl : Option String := none

def forbidden (message : String) : Failure := .application .forbidden message

def notFound (message : String) : Failure := .application .resourceNotFound message

def invalid (message : String) : Failure := .application .unprocessableEntity message

def conflict (message : String) : Failure := .application .conflict message

def safeRequestMetadata : HostingOperationInput → RequestMetadata
  | .suspendAccount reason => .reason reason
  | .terminateAccount reason => .reason reason
  | .changePackage packageIdentifier => .packageIdentifier packageIdentifier
  | .changePassword _ => .secretInput
  | _ => .empty

/-! ## Checks -/

def findDuplicate (db : Database) (key : OperationKey) (fingerprint : String) :
    Except Failure (Option (RowId × HostingPanelOperation)) :=
  match db.operations.find? fun _ op => op.idempotencyKey = key with
  | none => .ok none
  | some duplicate => do
    require (duplicate.2.requestFingerprint = fingerprint)
      (conflict "The submission key was already used for another request.")
    return some duplicate

def requireReference (service : Service) : Except Failure Unit := do
  require (truthy service.externalAccountId = true ∧ truthy service.controlPanelUsername = true ∧
      truthy service.domain = true)
    (invalid "The service has no external panel account identity.")
  require (truthy service.packageIdentifier = true)
    (invalid "The service has no hosting package identifier.")

def isActiveOrSuspended (status : ServiceStatus) : Prop :=
  status = .active ∨ status = .suspended
deriving Decidable

/-- The part of `validateAction` that depends on the operation's type. -/
def validateStatus (service : Service) : HostingPanelOperationType → Except Failure Unit
  | .createAccount => .ok ()
  | .suspendAccount => require (service.status = .active)
      (invalid "Only an active service can be suspended.")
  | .unsuspendAccount => require (service.status = .suspended)
      (invalid "Only a suspended service can be unsuspended.")
  | .getAccount | .changePackage | .changePassword => require (isActiveOrSuspended service.status)
      (invalid "The service does not have a manageable panel account.")
  | .generateLoginUrl => require (service.status = .active)
      (invalid "Panel login is available only for active services.")
  | .terminateAccount => require (isActiveOrSuspended service.status)
      (invalid "Only an active or suspended service can be terminated.")

/-- The checks of `validateAction` on the creation of an account. -/
def validateCreation (service : Service) (server : Server) : Except Failure Unit := do
  require (server.status = .active)
    (invalid "The assigned server is not active for new accounts.")
  require (service.provisioningModeReadable = true) (.error "ZodError")
  require (service.status = .pending ∨ service.status = .provisionFailed)
    (invalid "Only a pending or failed service can be provisioned.")
  require (truthy service.domain = true) (invalid "The service has no domain.")
  require (truthy service.packageIdentifier = true)
    (invalid "The service has no hosting package identifier.")

def validateAction (service : Service) (server : Server) (type : HostingPanelOperationType) :
    Except Failure Unit := do
  require (¬ (server.deletedAt.isSome = true ∨ server.status = .disabled))
    (invalid "The assigned server is disabled.")
  if type = .createAccount then validateCreation service server
  else do
    requireReference service
    validateStatus service type

/-- `assertAccountCreationAttempt`, which runs under the lock of the service: a fresh key cannot
reset the history of attempts, and competing retries cannot both continue one attempt. -/
def assertAccountCreationAttempt (db : Database) (serviceId : RowId) (options : ExecutionOptions) :
    Except Failure Unit :=
  match options.retryOfOperationId with
  | none => require
      (db.operations.any (fun _ op => op.serviceId = some serviceId ∧ op.type = .createAccount) = false)
      (invalid "Account creation was already attempted. Use its safe retry action or reconcile the existing account.")
  | some originalId => do
    let unsafeRetry := invalid "Only a safely retryable failed account creation can be retried."
    let original ← orThrow unsafeRetry (db.operations.get? originalId)
    require (original.serviceId = some serviceId ∧ original.type = .createAccount ∧
        original.status = .failed ∧ original.retryable = true ∧
        original.attemptNumber < maxManualAttempts ∧
        options.attemptNumber = some (original.attemptNumber + 1))
      unsafeRetry
    require (db.operations.any (fun _ op => op.retryOfOperationId = some originalId) = false)
      (conflict "This hosting operation already has a manual retry.")
    require (db.operations.any (fun _ op => op.serviceId = some serviceId ∧
        op.type = .createAccount ∧ op.status = .inconsistent) = false)
      (invalid "Reconcile the uncertain account creation before retrying.")

def runningOperation (db : Database) (serviceId : RowId) : Bool :=
  db.operations.any fun _ op => op.serviceId = some serviceId ∧ op.status = .running

/-! ## Recording an operation -/

/-- What the first transaction of `executeServiceOperation` returns. -/
inductive Prepared
  | duplicate (operationId : RowId) (operation : HostingPanelOperation)
  | created (operationId : RowId) (service : Service)

def newOperation (call : Execution) (service : Service) (server : Server) (fingerprint : String) :
    HostingPanelOperation where
  serviceId := some call.serviceId
  serverId := service.serverId
  requestedByUserId := some call.actorUserId
  retryOfOperationId := call.options.retryOfOperationId
  type := call.type
  adapterKey := server.adapterKey
  idempotencyKey := call.key
  requestFingerprint := fingerprint
  attemptNumber := call.options.attemptNumber.getD 1
  requestMetadata := safeRequestMetadata call.request.input

def provisioningData (now : ℕ) (service : Service) : Service :=
  { service with status := .provisioning, provisioningFailureReason := none, updatedAt := now }

def startProvisioning (call : Execution) (now : ℕ) (db : Database) : Except Failure Database :=
  if call.type = .createAccount then db.updateService call.serviceId (provisioningData now)
  else .ok db

def checkOperation (call : Execution) (service : Service) (server : Server) (db : Database) :
    Except Failure Unit := do
  require (¬ (call.type = .unsuspendAccount ∧
      ServiceService.completedCancellation db call.serviceId = true))
    (invalid "This service has a completed cancellation.")
  validateAction service server call.type
  require (runningOperation db call.serviceId = false)
    (conflict "Another hosting operation is already running.")
  if call.type = .createAccount then
    assertAccountCreationAttempt db call.serviceId call.options
  else
    return ()

def createTransaction (call : Execution) (fingerprint : String) (now : ℕ) : Tx Prepared :=
  fun db => do
    let service ← orThrow (notFound "Service was not found.") (db.services.get? call.serviceId)
    let server ← orThrow (.error "P2025") (db.servers.get? service.serverId)
    checkOperation call service server db
    let (db, operationId) ← db.createOperation (newOperation call service server fingerprint)
    let db ← startProvisioning call now db
    return (db, .created operationId service)

def prepareTransaction (call : Execution) (fingerprint : String) (now : ℕ) : Tx Prepared :=
  fun db => do
    match ← findDuplicate db call.key fingerprint with
    | some duplicate => return (db, .duplicate duplicate.1 duplicate.2)
    | none => createTransaction call fingerprint now db

/-! ## The panel's answer -/

def isMutation (type : HostingPanelOperationType) : Bool :=
  !(type = .getAccount ∨ type = .generateLoginUrl)

/-- `normalizeHostingPanelError` for an error that is not the adapter's own. -/
def unexpectedPanelError (mutationMayHaveSucceeded : Bool) : HostingPanelProviderError :=
  if mutationMayHaveSucceeded then
    ⟨.inconsistent, "PANEL_RESULT_UNKNOWN",
      "The hosting panel result is unknown. Check the account before retrying."⟩
  else
    ⟨.temporary, "PANEL_TEMPORARILY_UNAVAILABLE",
      "The hosting panel is temporarily unavailable."⟩

def inconsistent (code : String) : HostingPanelProviderError where
  kind := .inconsistent
  code := code
  message :=
    "The hosting panel account does not match the service record. Reconciliation is required."

def stateExpected (service : Service) (type : HostingPanelOperationType)
    (state : HostingAccountState) : Prop :=
  match type with
  | .suspendAccount => state = .suspended
  | .unsuspendAccount | .createAccount => state = .active
  | _ => (service.status = .active → state = .active) ∧
      (service.status = .suspended → state = .suspended)

instance (service : Service) (type : HostingPanelOperationType) (state : HostingAccountState) :
    Decidable (stateExpected service type state) := by
  unfold stateExpected
  split <;> infer_instance

/-- The checks of `validateProviderResult` on an account. -/
def validateAccount (service : Service) (type : HostingPanelOperationType) (readable : Bool)
    (account : HostingAccount) : Except HostingPanelProviderError Unit := do
  require (readable = true) (unexpectedPanelError (isMutation type))
  require (some account.domain = service.domain) (inconsistent "PANEL_ACCOUNT_DOMAIN_MISMATCH")
  require (type ≠ .createAccount → some account.externalAccountId = service.externalAccountId ∧
      some account.username = service.controlPanelUsername)
    (inconsistent "PANEL_ACCOUNT_IDENTITY_MISMATCH")
  require (stateExpected service type account.state) (inconsistent "PANEL_ACCOUNT_STATE_MISMATCH")

def validateProviderResult (service : Service) (type : HostingPanelOperationType) (readable : Bool)
    (account : Option HostingAccount) : Except HostingPanelProviderError Unit :=
  if type = .generateLoginUrl ∨ type = .terminateAccount then .ok ()
  else do
    let account ← orThrow (inconsistent "PANEL_ACCOUNT_RESULT_MISSING") account
    validateAccount service type readable account

def providerOutcome (w : World) (service : Service) (type : HostingPanelOperationType) :
    Except HostingPanelProviderError ProviderSuccess := do
  let result ← w.panelResult
  validateProviderResult service type w.panelAccountReadable result.account
  return result

/-! ## Recording the outcome -/

def successData (input : HostingOperationInput) (account : Option HostingAccount)
    (actorUserId now : ℕ) : Option (Service → Service) :=
  match input, account with
  | .createAccount, some account => some fun service =>
    { service with
      status := .active
      externalAccountId := some account.externalAccountId
      controlPanelUsername := some account.username
      activatedAt := some now
      provisioningFailureReason := none
      updatedAt := now }
  | .suspendAccount reason, _ => some fun service =>
    { service with
      status := .suspended
      suspendedAt := some now
      suspensionReason := some reason
      suspensionInvoiceId := none
      updatedAt := now }
  | .unsuspendAccount, _ => some fun service =>
    { service with status := .active, suspensionInvoiceId := none, updatedAt := now }
  | .terminateAccount reason, _ => some fun service =>
    { service with
      status := .terminated
      terminatedAt := some now
      terminationReason := some reason
      terminatedByUserId := some actorUserId
      updatedAt := now }
  | _, _ => none

def emailEventType (input : HostingOperationInput) (account : Option HostingAccount) :
    Option OutboxEventType :=
  match input, account with
  | .createAccount, some _ => some .emailServiceProvisioned
  | .suspendAccount _, _ => some .emailServiceSuspended
  | .unsuspendAccount, _ => some .emailServiceReactivated
  | _, _ => none

def writeService (serviceId : RowId) (data : Option (Service → Service)) (db : Database) :
    Except Failure Database :=
  match data with
  | some f => db.updateService serviceId f
  | none => .ok db

def completeOrderOnCreation (serviceId : RowId) (input : HostingOperationInput)
    (account : Option HostingAccount) (now : ℕ) (db : Database) : Except Failure Database :=
  if input = .createAccount ∧ account.isSome = true then
    ServiceService.completeFulfilledOrder ((db.services.get? serviceId).bind Service.orderItemId)
      now db
  else .ok db

def announceSuccess (serviceId operationId : RowId) (eventType : Option OutboxEventType)
    (db : Database) : Except Failure Database :=
  match eventType with
  | some eventType => db.createOutboxEvent
      (ServiceService.serviceEvent serviceId eventType (.emailService operationId))
  | none => .ok db

def applyServiceSuccess (call : Execution) (account : Option HostingAccount) (operationId now : ℕ)
    (serviceId : RowId) (db : Database) : Except Failure Database := do
  let input := call.request.input
  let db ← writeService serviceId (successData input account call.actorUserId now) db
  let db ← completeOrderOnCreation serviceId input account now db
  announceSuccess serviceId operationId (emailEventType input account) db

/-- The columns a successful outcome writes; those of an earlier failure would stay. -/
def succeededOperation (now : ℕ) (op : HostingPanelOperation) : HostingPanelOperation :=
  { op with status := .succeeded, completedAt := some now }

def failedOperation (error : HostingPanelProviderError) (now : ℕ) (op : HostingPanelOperation) :
    HostingPanelOperation :=
  { op with
    status := if error.kind = .inconsistent then .inconsistent else .failed
    retryable := error.kind = .temporary
    errorKind := some error.kind
    errorCode := some error.code
    errorMessage := some error.message
    completedAt := some now }

/-- The service part of `completeSuccess`. -/
def applySuccess (call : Execution) (account : Option HostingAccount) (operationId now : ℕ)
    (current : HostingPanelOperation) (db : Database) : Except Failure Database :=
  match current.serviceId with
  | some serviceId => applyServiceSuccess call account operationId now serviceId db
  | none => .ok db

def completeSuccessTransaction (call : Execution) (operationId : RowId) (result : ProviderSuccess)
    (now : ℕ) : Tx HostingPanelOperation := fun db => do
  let current ← orThrow (.error "P2025") (db.operations.get? operationId)
  let db ← applySuccess call result.account operationId now current db
  let db ← db.updateOperation operationId (succeededOperation now)
  return (db, succeededOperation now current)

def failureData (error : HostingPanelProviderError) (now : ℕ) (service : Service) : Service :=
  { service with
    status := .provisionFailed
    provisioningFailureReason := some error.message
    updatedAt := now }

/-- The service part of `completeFailure`: the service of a creation that failed. -/
def applyFailure (error : HostingPanelProviderError) (current : HostingPanelOperation) (now : ℕ)
    (db : Database) : Except Failure Database :=
  match current.serviceId with
  | none => .ok db
  | some serviceId =>
    if current.type = .createAccount then db.updateService serviceId (failureData error now)
    else .ok db

def completeFailureTransaction (operationId : RowId) (error : HostingPanelProviderError)
    (now : ℕ) : Tx HostingPanelOperation := fun db => do
  let current ← orThrow (.error "P2025") (db.operations.get? operationId)
  let db ← applyFailure error current now db
  let db ← db.updateOperation operationId (failedOperation error now)
  return (db, failedOperation error now current)

/-! ## Running an operation -/

inductive ExecuteState
  | read (call : Execution)
  | prepare (call : Execution)
  | race (call : Execution)
  | callProvider (call : Execution) (operationId : RowId) (service : Service)
  | completeSuccess (call : Execution) (operationId : RowId) (result : ProviderSuccess)
  | completeFailure (operationId : RowId) (error : HostingPanelProviderError)
  | done (result : Except Failure HostingPanelOperationResult)

def duplicateResult (duplicate : RowId × HostingPanelOperation) : HostingPanelOperationResult :=
  ⟨duplicate.1, duplicate.2, true, none⟩

def finished (operationId : RowId) (loginUrl : Option String)
    (r : Except Failure HostingPanelOperation) : Except Failure HostingPanelOperationResult :=
  r.map fun operation => ⟨operationId, operation, false, loginUrl⟩

section

/- The keyed hash of a service's identifier and a request. -/
variable (fingerprint : RowId → ExecuteHostingOperationRequest → String)

def executeStep (w : World) (db : Database) : ExecuteState → Option (Database × ExecuteState)
  | .read call =>
    match findDuplicate db call.key (fingerprint call.serviceId call.request) with
    | .ok (some duplicate) => some (db, .done (.ok (duplicateResult duplicate)))
    | .ok none => some (db, .prepare call)
    | .error e => some (db, .done (.error e))
  | .prepare call =>
    match atomically
      (prepareTransaction call (fingerprint call.serviceId call.request) w.now) db with
    | (db', .ok (.duplicate id op)) => some (db', .done (.ok (duplicateResult (id, op))))
    | (db', .ok (.created id service)) => some (db', .callProvider call id service)
    | (db', .error .uniqueConstraint) => some (db', .race call)
    | (db', .error e) => some (db', .done (.error e))
  | .race call =>
    match findDuplicate db call.key (fingerprint call.serviceId call.request) with
    | .ok (some raced) => some (db, .done (.ok (duplicateResult raced)))
    | .ok none => some (db, .done (.error
        (conflict "The hosting operation could not be created safely.")))
    | .error e => some (db, .done (.error e))
  | .callProvider call operationId service =>
    match providerOutcome w service call.type with
    | .ok result => some (db, .completeSuccess call operationId result)
    | .error error => some (db, .completeFailure operationId error)
  | .completeSuccess call operationId result =>
    let out := atomically (completeSuccessTransaction call operationId result w.now) db
    some (out.1, .done (finished operationId result.loginUrl out.2))
  | .completeFailure operationId error =>
    let out := atomically (completeFailureTransaction operationId error w.now) db
    some (out.1, .done (finished operationId none out.2))
  | .done _ => none

/-! ### What an execution does -/

def ExecuteState.owned : ExecuteState → Option RowId
  | .callProvider _ operationId _ => some operationId
  | .completeSuccess _ operationId _ => some operationId
  | .completeFailure operationId _ => some operationId
  | _ => none

inductive Executes (w : World) (db : Database) :
    ExecuteState → Database → ExecuteState → Prop
  | idle {l l' : ExecuteState} (howned : l'.owned = none) : Executes w db l db l'
  | create {call : Execution} {db' : Database} {operationId : RowId} {service : Service}
      (h : createTransaction call (fingerprint call.serviceId call.request) w.now db =
        .ok (db', .created operationId service)) :
      Executes w db (.prepare call) db' (.callProvider call operationId service)
  | succeed {call : Execution} {operationId : RowId} {service : Service}
      {result : ProviderSuccess} (h : providerOutcome w service call.type = .ok result) :
      Executes w db (.callProvider call operationId service) db
        (.completeSuccess call operationId result)
  | fail {call : Execution} {operationId : RowId} {service : Service}
      {error : HostingPanelProviderError} (h : providerOutcome w service call.type = .error error) :
      Executes w db (.callProvider call operationId service) db
        (.completeFailure operationId error)
  | completeSuccess {call : Execution} {operationId : RowId} {result : ProviderSuccess}
      {db' : Database} {op : HostingPanelOperation} {l' : ExecuteState}
      (h : completeSuccessTransaction call operationId result w.now db = .ok (db', op))
      (howned : l'.owned = none) :
      Executes w db (.completeSuccess call operationId result) db' l'
  | completeFailure {operationId : RowId} {error : HostingPanelProviderError}
      {db' : Database} {op : HostingPanelOperation} {l' : ExecuteState}
      (h : completeFailureTransaction operationId error w.now db = .ok (db', op))
      (howned : l'.owned = none) :
      Executes w db (.completeFailure operationId error) db' l'

variable {db db' : Database} {call : Execution} {op : HostingPanelOperation}
  {operationId serviceId : RowId} {fp : String} {now : ℕ}

theorem prepareTransaction_eq_ok
    {prepared : Prepared} (h : prepareTransaction call fp now db = .ok (db', prepared)) :
    (db' = db ∧ ∃ id op, prepared = .duplicate id op) ∨
      createTransaction call fp now db = .ok (db', prepared) := by
  simp only [prepareTransaction, bind_eq_ok] at h
  obtain ⟨duplicate, -, h⟩ := h
  split at h
  · rw [pure_eq_ok] at h
    obtain ⟨rfl, rfl⟩ := Prod.mk.inj h
    exact .inl ⟨rfl, _, _, rfl⟩
  · exact .inr h

theorem createTransaction_ne_duplicate {id : RowId} :
    createTransaction call fp now db ≠ .ok (db', .duplicate id op) := by
  intro h
  simp only [createTransaction, eq_ok] at h
  obtain ⟨_, -, _, -, _, -, out, -, _, -, h⟩ := h
  exact nomatch h.2

theorem executeStep_cases {w : World} {l l' : ExecuteState}
    (h : executeStep fingerprint w db l = some (db', l')) : Executes fingerprint w db l db' l' := by
  unfold executeStep at h
  split at h
  · split at h <;> (cases h; exact .idle rfl)
  · split at h
    · rename_i heq
      cases h
      have hok := atomically_ok heq
      rcases prepareTransaction_eq_ok hok with ⟨rfl, -⟩ | hcreate
      · exact .idle rfl
      · exact absurd hcreate createTransaction_ne_duplicate
    · rename_i heq
      cases h
      have hok := atomically_ok heq
      rcases prepareTransaction_eq_ok hok with ⟨-, id, op, hprepared⟩ | hcreate
      · exact nomatch hprepared
      · exact .create hcreate
    · rename_i heq
      cases h
      obtain ⟨-, rfl⟩ := atomically_error heq
      exact .idle rfl
    · rename_i heq
      cases h
      obtain ⟨-, rfl⟩ := atomically_error heq
      exact .idle rfl
  · split at h <;> (cases h; exact .idle rfl)
  · split at h
    · rename_i heq
      cases h
      exact .succeed heq
    · rename_i heq
      cases h
      exact .fail heq
  · rename_i call operationId result
    cases h
    rcases atomically_fst (completeSuccessTransaction call operationId result w.now) db with
      hsame | ⟨op, hok⟩
    · rw [hsame]
      exact .idle rfl
    · exact .completeSuccess hok rfl
  · rename_i operationId error
    cases h
    rcases atomically_fst (completeFailureTransaction operationId error w.now) db with
      hsame | ⟨op, hok⟩
    · rw [hsame]
      exact .idle rfl
    · exact .completeFailure hok rfl
  · cases h

theorem checkOperation_eq_ok {service : Service} {server : Server} {u : Unit}
    (h : checkOperation call service server db = .ok u) :
    validateAction service server call.type = .ok () ∧
      runningOperation db call.serviceId = false ∧
      (call.type = .createAccount →
        assertAccountCreationAttempt db call.serviceId call.options = .ok ()) := by
  simp only [checkOperation, eq_ok] at h
  obtain ⟨-, _, hvalid, hrunning, h⟩ := h
  refine ⟨hvalid, hrunning, fun htype => ?_⟩
  rw [if_pos htype] at h
  exact h

theorem createTransaction_eq_ok {service : Service}
    (h : createTransaction call fp now db = .ok (db', .created operationId service)) :
    ∃ server services, operationId = db.operations.size ∧
      db.services.get? call.serviceId = some service ∧
      checkOperation call service server db = .ok () ∧
      (newOperation call service server fp).StatusEvidence ∧
      (∀ id op, db.operations.get? id = some op → op.idempotencyKey ≠ call.key) ∧
      (call.options.retryOfOperationId.isSome → ∀ id op, db.operations.get? id = some op →
        op.retryOfOperationId ≠ call.options.retryOfOperationId) ∧
      (call.type ≠ .createAccount ∧ services = db.services ∨
        call.type = .createAccount ∧
          services = db.services.update call.serviceId (provisioningData now)) ∧
      db' = { db with
        operations := db.operations.insert (newOperation call service server fp)
        services := services } := by
  simp only [createTransaction, eq_ok] at h
  obtain ⟨service', hservice, server, -, _, hcheck, ⟨db₁, id⟩, hcreate, db₂, hstart, h⟩ := h
  obtain ⟨rfl, hprepared⟩ := h
  obtain ⟨rfl, rfl⟩ := Prepared.created.inj hprepared
  rw [Database.createOperation_eq_ok] at hcreate
  obtain ⟨⟨-, hevidence, -⟩, hkey, hretry, hout⟩ := hcreate
  obtain ⟨rfl, rfl⟩ := Prod.mk.inj hout
  rw [startProvisioning] at hstart
  split at hstart
  · rename_i htype
    obtain ⟨_, _, _, rfl⟩ := Database.updateService_eq_ok _ hstart
    exact ⟨server, _, rfl, hservice, hcheck, hevidence, hkey, hretry, .inr ⟨htype, rfl⟩, rfl⟩
  · rename_i htype
    rw [Except.ok.injEq] at hstart
    subst hstart
    exact ⟨server, db.services, rfl, hservice, hcheck, hevidence, hkey, hretry,
      Or.inl ⟨htype, rfl⟩, rfl⟩

theorem announceSuccess_eq_ok {eventType : Option OutboxEventType}
    (h : announceSuccess serviceId operationId eventType db = .ok db') :
    ∃ events, db' = { db with outboxEvents := events } := by
  unfold announceSuccess at h
  split at h
  · rw [Database.createOutboxEvent_eq_ok] at h
    exact ⟨_, h.2⟩
  · exact ⟨db.outboxEvents, (Except.ok.inj h).symm⟩

theorem completeOrderOnCreation_eq_ok {input : HostingOperationInput}
    {account : Option HostingAccount}
    (h : completeOrderOnCreation serviceId input account now db = .ok db') :
    ∃ orders, OrdersChecked (input = .createAccount ∧ account.isSome) now
        ((db.services.get? serviceId).bind Service.orderItemId) db orders ∧
      db' = { db with orders := orders } := by
  rw [completeOrderOnCreation] at h
  split at h <;> rename_i hasked
  · obtain ⟨orders, hchecked, rfl⟩ := ServiceService.completeFulfilledOrder_eq_ok h
    exact ⟨orders, .inr ⟨hasked, hchecked⟩, rfl⟩
  · exact ⟨db.orders, .inl ⟨hasked, rfl⟩, (Except.ok.inj h).symm⟩

/-- The services after a write by `writeService`. -/
def ServiceWritten (serviceId : RowId) (data : Option (Service → Service))
    (services services' : Table Service) : Prop :=
  (data = none ∧ services' = services) ∨
    ∃ f service, data = some f ∧ services.get? serviceId = some service ∧ (f service).Checked ∧
      services' = services.update serviceId f

theorem writeService_eq_ok {data : Option (Service → Service)}
    (h : writeService serviceId data db = .ok db') :
    ∃ services, ServiceWritten serviceId data db.services services ∧
      db' = { db with services := services } := by
  unfold writeService at h
  split at h
  · rename_i f
    obtain ⟨service, hservice, hchecked, rfl⟩ := db.updateService_eq_ok h
    exact ⟨_, .inr ⟨f, service, rfl, hservice, hchecked, rfl⟩, rfl⟩
  · exact ⟨db.services, .inl ⟨rfl, rfl⟩, (Except.ok.inj h).symm⟩

theorem completeSuccessTransaction_eq_ok {result : ProviderSuccess}
    (h : completeSuccessTransaction call operationId result now db = .ok (db', op)) :
    ∃ current services orders events, db.operations.get? operationId = some current ∧
      (succeededOperation now current).StatusEvidence ∧
      (∀ serviceId, current.serviceId = some serviceId → ServiceWritten serviceId
        (successData call.request.input result.account call.actorUserId now) db.services
        services) ∧
      (current.serviceId = none → services = db.services) ∧
      OrdersChecked (current.serviceId.isSome ∧ call.request.input = .createAccount ∧
          result.account.isSome) now
        (current.serviceId.bind fun serviceId =>
          (services.get? serviceId).bind Service.orderItemId)
        { db with services := services } orders ∧
      db' = { db with
        operations := db.operations.update operationId (succeededOperation now)
        services := services
        orders := orders
        outboxEvents := events } := by
  simp only [completeSuccessTransaction, eq_ok] at h
  obtain ⟨current, hcurrent, db₁, happly, db₂, hwrite, rfl, -⟩ := h
  obtain ⟨op', hop', hevidence, rfl⟩ := Database.updateOperation_eq_ok _ hwrite
  rw [applySuccess] at happly
  split at happly
  · rename_i serviceId hservice
    simp only [applyServiceSuccess, bind_eq_ok] at happly
    obtain ⟨db₃, hdata, db₄, horder, hevent⟩ := happly
    obtain ⟨services, hwritten, rfl⟩ := writeService_eq_ok hdata
    obtain ⟨orders, hcompleted, rfl⟩ := completeOrderOnCreation_eq_ok horder
    obtain ⟨events, rfl⟩ := announceSuccess_eq_ok hevent
    obtain rfl := Option.mem_unique (show _ = some current from hcurrent) hop'
    refine ⟨current, services, orders, events, hcurrent, hevidence, ?_, ?_, ?_, rfl⟩
    · intro serviceId' hservice'
      rw [hservice, Option.some.injEq] at hservice'
      exact hservice' ▸ hwritten
    · intro hnone
      rw [hservice] at hnone
      exact nomatch hnone
    · rw [hservice]
      exact hcompleted.imp_left (.imp_left fun hasked h => hasked h.2) |>.imp_right
        (.imp_left fun hasked => ⟨rfl, hasked⟩)
  · rename_i hservice
    rw [Except.ok.injEq] at happly
    subst happly
    obtain rfl := Option.mem_unique hcurrent hop'
    refine ⟨current, db.services, db.orders, db.outboxEvents, hcurrent, hevidence, ?_,
      fun _ => rfl, .inl ⟨?_, rfl⟩, rfl⟩
    rotate_left
    · rw [hservice]
      exact fun h => nomatch h.1
    intro serviceId' hservice'
    rw [hservice] at hservice'
    exact nomatch hservice'

theorem completeFailureTransaction_eq_ok {error : HostingPanelProviderError}
    (h : completeFailureTransaction operationId error now db = .ok (db', op)) :
    ∃ current services, db.operations.get? operationId = some current ∧
      (failedOperation error now current).StatusEvidence ∧
      (services = db.services ∧ (current.type = .createAccount →
          ∀ serviceId, current.serviceId ≠ some serviceId) ∨
        ∃ serviceId service, current.serviceId = some serviceId ∧ current.type = .createAccount ∧
          db.services.get? serviceId = some service ∧
          services = db.services.update serviceId (failureData error now)) ∧
      db' = { db with
        operations := db.operations.update operationId (failedOperation error now)
        services := services } := by
  simp only [completeFailureTransaction, eq_ok] at h
  obtain ⟨current, hcurrent, db₁, happly, db₂, hwrite, rfl, -⟩ := h
  obtain ⟨op', hop', hevidence, rfl⟩ := Database.updateOperation_eq_ok _ hwrite
  have hservices : ∃ services, (services = db.services ∧ (current.type = .createAccount →
        ∀ serviceId, current.serviceId ≠ some serviceId) ∨
      ∃ serviceId service, current.serviceId = some serviceId ∧ current.type = .createAccount ∧
        db.services.get? serviceId = some service ∧
        services = db.services.update serviceId (failureData error now)) ∧
      db₁ = { db with services := services } := by
    rw [applyFailure] at happly
    split at happly
    · rename_i hnone
      exact ⟨db.services, .inl ⟨rfl, fun _ serviceId => by rw [hnone]; exact (nomatch ·)⟩,
        (Except.ok.inj happly).symm⟩
    · rename_i serviceId hserviceId
      split at happly
      · rename_i htype
        obtain ⟨service, hservice, _, rfl⟩ := db.updateService_eq_ok happly
        exact ⟨_, .inr ⟨serviceId, service, hserviceId, htype, hservice, rfl⟩, rfl⟩
      · rename_i htype
        exact ⟨db.services, .inl ⟨rfl, fun hcreate => absurd hcreate htype⟩,
          (Except.ok.inj happly).symm⟩
  obtain ⟨services, hservices, rfl⟩ := hservices
  obtain rfl := Option.mem_unique (show _ = some current from hcurrent) hop'
  exact ⟨current, services, hcurrent, hevidence, hservices, rfl⟩

/-! ### Who executes -/

structure ExecuteRequest where
  serviceId : RowId
  request : ExecuteHostingOperationRequest
  actorRole : UserRole
  actorUserId : RowId

def executeStart (request : ExecuteRequest) : ExecuteState :=
  if request.actorRole = .admin then
    .read ⟨request.serviceId, request.request, request.actorUserId, {}⟩
  else .done (.error (forbidden "Only administrators can run hosting operations."))

/-- `HostingPanelService.execute`. -/
def execute : Operation Database World where
  Request := ExecuteRequest
  Local := ExecuteState
  start := executeStart
  step := executeStep fingerprint

structure CustomerLoginRequest where
  serviceId : RowId
  submissionKey : String
  actorRole : UserRole
  actorUserId : RowId
  actorCustomerId : Option RowId

inductive CustomerLoginState
  | authorize (request : CustomerLoginRequest)
  | execute (state : ExecuteState)

def customerLoginStep (w : World) (db : Database) :
    CustomerLoginState → Option (Database × CustomerLoginState)
  | .authorize request =>
    if request.actorRole = .customer ∧ (db.services.get? request.serviceId).any
        (fun service => request.actorCustomerId = some service.customerId) = true then
      some (db, .execute (.read ⟨request.serviceId, ⟨request.submissionKey, .generateLoginUrl⟩,
        request.actorUserId, {}⟩))
    else some (db, .execute (.done (.error (forbidden "You do not have access to this service."))))
  | .execute state => (executeStep fingerprint w db state).map fun out => (out.1, .execute out.2)

/-- `HostingPanelService.generateCustomerLogin`. -/
def generateCustomerLogin : Operation Database World where
  Request := CustomerLoginRequest
  Local := CustomerLoginState
  start := .authorize
  step := customerLoginStep fingerprint

/-! ## Retrying an operation -/

structure RetryRequest where
  operationId : RowId
  submissionKey : String
  newPassword : Option String := none
  confirmation : Bool := false
  actorRole : UserRole
  actorUserId : RowId

def metadataReason : RequestMetadata → Except Failure String
  | .reason reason => .ok reason
  | _ => .error (invalid "The retry metadata is incomplete.")

def metadataPackage : RequestMetadata → Except Failure String
  | .packageIdentifier packageIdentifier => .ok packageIdentifier
  | _ => .error (invalid "The retry metadata is incomplete.")

def reconstruct (original : HostingPanelOperation) (request : RetryRequest) :
    Except Failure ExecuteHostingOperationRequest :=
  match original.type with
  | .createAccount => .ok ⟨request.submissionKey, .createAccount⟩
  | .getAccount => .ok ⟨request.submissionKey, .getAccount⟩
  | .unsuspendAccount => .ok ⟨request.submissionKey, .unsuspendAccount⟩
  | .generateLoginUrl => .ok ⟨request.submissionKey, .generateLoginUrl⟩
  | .suspendAccount => do
    let reason ← metadataReason original.requestMetadata
    return ⟨request.submissionKey, .suspendAccount reason⟩
  | .changePackage => do
    let packageIdentifier ← metadataPackage original.requestMetadata
    return ⟨request.submissionKey, .changePackage packageIdentifier⟩
  | .changePassword => do
    let newPassword ← orThrow (invalid "A new password is required to retry this operation.")
      request.newPassword
    return ⟨request.submissionKey, .changePassword newPassword⟩
  | .terminateAccount => do
    require (request.confirmation = true) (invalid "Termination confirmation is required again.")
    let reason ← metadataReason original.requestMetadata
    return ⟨request.submissionKey, .terminateAccount reason⟩

/-- What `retry` makes of its first read: the execution it asks for.  An operation without a service
is a connection test, and its retry is none of a service's operations. -/
def retryExecution (request : RetryRequest) (db : Database) : Except Failure Execution := do
  let original ← orThrow (notFound "Hosting operation was not found.")
    (db.operations.get? request.operationId)
  require (original.status = .failed ∧ original.retryable = true)
    (invalid "Only a safely retryable failed hosting operation can be retried.")
  require (original.attemptNumber < maxManualAttempts)
    (invalid "The manual retry limit has been reached.")
  let serviceId ← orThrow (.error "TEST_CONNECTION") original.serviceId
  let reconstructed ← reconstruct original request
  return ⟨serviceId, reconstructed, request.actorUserId,
    ⟨some request.operationId, some (original.attemptNumber + 1), by simp⟩⟩

def alreadyRetried (db : Database) (operationId : RowId) : Bool :=
  db.operations.any fun _ op => op.retryOfOperationId = some operationId

inductive RetryState
  | read (request : RetryRequest)
  | duplicate (operationId : RowId) (call : Execution)
  | notRetried (operationId : RowId) (call : Execution)
  | execute (state : ExecuteState)

def retryStep (w : World) (db : Database) : RetryState → Option (Database × RetryState)
  | .read request =>
    match retryExecution request db with
    | .ok call => some (db, .duplicate request.operationId call)
    | .error e => some (db, .execute (.done (.error e)))
  | .duplicate operationId call =>
    match findDuplicate db call.key (fingerprint call.serviceId call.request) with
    | .ok (some duplicate) => some (db, .execute (.done (.ok (duplicateResult duplicate))))
    | .ok none => some (db, .notRetried operationId call)
    | .error e => some (db, .execute (.done (.error e)))
  | .notRetried operationId call =>
    if alreadyRetried db operationId = true then
      some (db, .execute (.done (.error
        (conflict "This hosting operation already has a manual retry."))))
    else some (db, .execute (.read call))
  | .execute state => (executeStep fingerprint w db state).map fun out => (out.1, .execute out.2)

def retryStart (request : RetryRequest) : RetryState :=
  if request.actorRole = .admin then .read request
  else .execute (.done (.error (forbidden "Only administrators can retry hosting operations.")))

/-- `HostingPanelService.retry`, for the operation of a service. -/
def retry : Operation Database World where
  Request := RetryRequest
  Local := RetryState
  start := retryStart
  step := retryStep fingerprint

end

end HostingPanelService

end WebhostBilling
