import Mathlib.Data.List.MinMax
import WebhostBilling.Concurrency.Threads
import WebhostBilling.Database.HostingGuard
import WebhostBilling.Outbox.BackgroundQueue

/-!
# The worker's hosting automation

`process` handles one job of the queue: it reads the outbox event, records an operation under the
lock of the service (or finds the one an earlier delivery recorded), asks whether the action is
still called for, changes the account at the panel, and commits the change.  Every one of these is a
step of its own, and so are the reads of the question in between.
-/

namespace WebhostBilling

open Store Concurrency

namespace HostingAutomationService

def maxAutomationAttempts : ℕ := 3

/-- `HostingAutomationPayload` or `HostingCancellationJob`. -/
inductive AutomationPayload
  | renewal (serviceId invoiceId automationRunId : RowId)
  | cancellation (serviceId cancellationId : RowId)

def AutomationPayload.serviceId : AutomationPayload → RowId
  | .renewal serviceId _ _ => serviceId
  | .cancellation serviceId _ => serviceId

/-- `sourceId`, with what it identifies. -/
def AutomationPayload.source : AutomationPayload → AutomationSource
  | .renewal _ invoiceId _ => .invoice invoiceId
  | .cancellation _ cancellationId => .cancellation cancellationId

def AutomationPayload.invoiceId : AutomationPayload → Option RowId
  | .renewal _ invoiceId _ => some invoiceId
  | .cancellation _ _ => none

def AutomationPayload.cancellationId : AutomationPayload → Option RowId
  | .renewal _ _ _ => none
  | .cancellation _ cancellationId => some cancellationId

def AutomationPayload.automationRunId : AutomationPayload → Option RowId
  | .renewal _ _ automationRunId => some automationRunId
  | .cancellation _ _ => none

def sourceMetadata : AutomationPayload → RequestMetadata
  | .renewal _ invoiceId _ => .invoice invoiceId
  | .cancellation _ cancellationId => .cancellation cancellationId

/-! ## The event of a job -/

def action : OutboxEventType → Except Failure AutomationAction
  | .hostingSuspensionRequested => .ok .suspend
  | .hostingCancellationSuspensionRequested => .ok .suspend
  | .hostingUnsuspensionRequested => .ok .unsuspend
  | _ => .error (.job .permanent "HOSTING_AUTOMATION_EVENT_UNSUPPORTED")

def parsePayload (eventType : OutboxEventType) : OutboxPayload → Option AutomationPayload
  | .hostingAutomation serviceId invoiceId automationRunId =>
    if eventType = .hostingCancellationSuspensionRequested then none
    else some (.renewal serviceId invoiceId automationRunId)
  | .hostingCancellation serviceId cancellationId =>
    if eventType = .hostingCancellationSuspensionRequested then
      some (.cancellation serviceId cancellationId)
    else none
  | _ => none

def payload (data : BackgroundJobData) (db : Database) : Except Failure AutomationPayload := do
  let unusable : Failure := .job .permanent "HOSTING_AUTOMATION_OUTBOX_REFERENCE_INVALID"
  let event ← orThrow unusable (db.outboxEvents.get? data.outboxEventId)
  require (event.status = .published ∧ event.eventType = data.eventType ∧
      event.aggregateType = .service ∧ event.aggregateId = data.aggregateId)
    unusable
  let payload ← orThrow unusable (parsePayload data.eventType event.payload)
  require (payload.serviceId = data.aggregateId) unusable
  return payload

/-! ## Recording the operation -/

/-- The key starts with `automation:⟨action⟩:⟨service⟩:⟨source⟩`. -/
def automates (action : AutomationAction) (payload : AutomationPayload) : OperationKey → Bool
  | .automation a serviceId source _ =>
    a = action ∧ serviceId = payload.serviceId ∧ source = payload.source
  | .hostingOperation _ => false

def latestOperation (db : Database) (action : AutomationAction) (payload : AutomationPayload) :
    Option (RowId × HostingPanelOperation) :=
  (db.operations.select fun _ op => automates action payload op.idempotencyKey).argmax
    fun entry => entry.2.attemptNumber

def otherRunning (db : Database) (serviceId : RowId)
    (existing : Option (RowId × HostingPanelOperation)) : Bool :=
  db.operations.any fun id op => op.serviceId = some serviceId ∧ op.status = .running ∧
    ∀ entry ∈ existing, id ≠ entry.1

def actionType : AutomationAction → HostingPanelOperationType
  | .suspend => .suspendAccount
  | .unsuspend => .unsuspendAccount

section

/- The hash of a payload. -/
variable (fingerprint : AutomationPayload → String)

def requestedBy (db : Database) (payload : AutomationPayload) (service : Service) : Option RowId :=
  match payload with
  | .renewal _ _ _ => none
  | .cancellation _ _ => (db.customers.get? service.customerId).map Customer.userId

def newOperation (db : Database) (action : AutomationAction) (payload : AutomationPayload)
    (service : Service) (server : Server) : HostingPanelOperation where
  serviceId := some payload.serviceId
  serverId := service.serverId
  automationRunId := payload.automationRunId
  requestedByUserId := requestedBy db payload service
  type := actionType action
  adapterKey := server.adapterKey
  idempotencyKey := .automation action payload.serviceId payload.source none
  requestFingerprint := fingerprint payload
  requestMetadata := sourceMetadata payload

def retryOperation (action : AutomationAction) (payload : AutomationPayload) (existingId : RowId)
    (existing : HostingPanelOperation) : HostingPanelOperation where
  serviceId := existing.serviceId
  serverId := existing.serverId
  automationRunId := payload.automationRunId
  requestedByUserId := existing.requestedByUserId
  retryOfOperationId := some existingId
  type := existing.type
  adapterKey := existing.adapterKey
  idempotencyKey := .automation action payload.serviceId payload.source
    (some (existing.attemptNumber + 1))
  requestFingerprint := existing.requestFingerprint
  attemptNumber := existing.attemptNumber + 1
  requestMetadata := sourceMetadata payload

def retryable (existing : HostingPanelOperation) : Prop :=
  existing.status = .failed ∧ existing.errorKind = some .temporary ∧ existing.retryable = true ∧
    existing.attemptNumber < maxAutomationAttempts
deriving Decidable

/-- What `prepare` returns: nothing to do, or an operation and whether it is a fresh one. -/
inductive Prepared
  | nothing
  | operation (operationId : RowId) (operation : HostingPanelOperation) (fresh : Bool)

def recordOperation (row : HostingPanelOperation) : Tx Prepared := fun db => do
  let (db, operationId) ← db.createOperation row
  return (db, .operation operationId row true)

/-- The end of `prepare`: continue the latest attempt, return it as it is, or make the first. -/
def startOperation (action : AutomationAction) (payload : AutomationPayload) (service : Service)
    (existing : Option (RowId × HostingPanelOperation)) : Tx Prepared := fun db =>
  match existing with
  | some (id, op) =>
    if retryable op then recordOperation (retryOperation action payload id op) db
    else .ok (db, .operation id op false)
  | none => do
    let server ← orThrow (.error "P2025") (db.servers.get? service.serverId)
    recordOperation (newOperation fingerprint db action payload service server) db

/-- `deferCancellation`. -/
def deferCancellation (serviceId cancellationId outboxEventId availableAt : ℕ) (db : Database) :
    Database :=
  (db.createOutboxEventSkippingDuplicates {
    aggregateType := .service
    aggregateId := serviceId
    eventType := .hostingCancellationSuspensionRequested
    availableAt := availableAt
    idempotencyKey := .hostingCancellationDeferred outboxEventId
    payload := .hostingCancellation serviceId cancellationId }).1

/-- `finishCancellation`. -/
def finishCancellation (serviceId cancellationId now : ℕ) (db : Database) :
    Except Failure Database := do
  let changed : Failure := .error "CANCELLATION_STATE_CHANGED"
  let request ← orThrow changed (db.cancellationRequests.get? cancellationId)
  require (request.serviceId = serviceId ∧ request.status = .opened) changed
  return { db with
    cancellationRequests := db.cancellationRequests.update cancellationId fun request =>
      { request with status := .completed, resolvedAt := some now } }

def dueRequest (db : Database) (serviceId cancellationId now : ℕ) :
    Option (HostingCancellationRequest × ℕ) := do
  let request ← db.cancellationRequests.get? cancellationId
  guard (request.serviceId = serviceId ∧ request.status = .opened)
  let due ← request.effectiveAt.or request.approvedAt
  guard (due ≤ now)
  return (request, due)

/-- A cancellation that may not take effect yet: the service was renewed beyond it. -/
def reschedule (serviceId cancellationId outboxEventId nextDueAt : ℕ) (db : Database) : Database :=
  deferCancellation serviceId cancellationId outboxEventId nextDueAt
    { db with
      cancellationRequests := db.cancellationRequests.update cancellationId fun request =>
        { request with effectiveAt := some nextDueAt } }

def clearSuspensionInvoice (serviceId : RowId) (service : Service) (now : ℕ) (db : Database) :
    Except Failure Database :=
  if service.suspensionInvoiceId.isSome then
    db.updateService serviceId fun service =>
      { service with suspensionInvoiceId := none, updatedAt := now }
  else .ok db

/-- What `prepare` does for a cancellation before it records an operation; `some` ends it. -/
def prepareCancellation (serviceId cancellationId outboxEventId now : ℕ) (service : Service)
    (running : Bool) (db : Database) : Except Failure (Option Database) :=
  match dueRequest db serviceId cancellationId now with
  | none => .ok (some db)
  | some (request, due) =>
    if running then do
      require (now - due < 5 * 60000) (.job .temporary "HOSTING_OPERATION_IN_PROGRESS")
      return some (deferCancellation serviceId cancellationId outboxEventId (now + 60000) db)
    else if ∃ effectiveAt ∈ request.effectiveAt, effectiveAt < service.nextDueAt then
      .ok (some (reschedule serviceId cancellationId outboxEventId service.nextDueAt db))
    else if service.status = .suspended ∨ service.status = .terminated then do
      let db ← clearSuspensionInvoice serviceId service now db
      let db ← finishCancellation serviceId cancellationId now db
      return some db
    else do
      require (service.status = .active)
        (.job .permanent "HOSTING_CANCELLATION_SERVICE_STATE_INVALID")
      return none

/-- `prepareCancellation` for a cancellation; a renewal goes on. -/
def prepareSource (payload : AutomationPayload) (outboxEventId now : ℕ) (service : Service)
    (running : Bool) (db : Database) : Except Failure (Option Database) :=
  match payload with
  | .renewal _ _ _ => .ok none
  | .cancellation serviceId cancellationId =>
    prepareCancellation serviceId cancellationId outboxEventId now service running db

/-- The transaction of `prepare` once no operation has succeeded. -/
def prepareOperation (action : AutomationAction) (payload : AutomationPayload)
    (outboxEventId now : ℕ) (existing : Option (RowId × HostingPanelOperation)) : Tx Prepared :=
  fun db => do
    let running := otherRunning db payload.serviceId existing
    require (running = true → payload.cancellationId.isSome)
      (.job .temporary "HOSTING_OPERATION_IN_PROGRESS")
    let service ← orThrow (.job .permanent "HOSTING_AUTOMATION_SERVICE_UNAVAILABLE")
      (db.services.get? payload.serviceId)
    match ← prepareSource payload outboxEventId now service running db with
    | some db => return (db, .nothing)
    | none => startOperation fingerprint action payload service existing db

/-- `prepare`, under the lock of the service. -/
def prepareTransaction (action : AutomationAction) (payload : AutomationPayload)
    (outboxEventId now : ℕ) : Tx Prepared := fun db =>
  let existing := latestOperation db action payload
  match existing with
  | some (id, op) =>
    if payload.cancellationId = none ∧ op.status = .succeeded then
      .ok (db, .operation id op false)
    else prepareOperation fingerprint action payload outboxEventId now existing db
  | none => prepareOperation fingerprint action payload outboxEventId now existing db

end

/-! ## Whether the action is still called for -/

/-- A cancellation that is final, approved or due keeps a service from being unsuspended. -/
def blockingCancellation (db : Database) (serviceId now : ℕ) : Bool :=
  db.cancellationRequests.any fun _ request => request.serviceId = serviceId ∧
    (request.status = .completed ∨ (request.status = .opened ∧ request.approvedAt.isSome) ∨
      (request.status = .opened ∧ ∃ effectiveAt ∈ request.effectiveAt, effectiveAt ≤ now))

def billsService (invoice : Invoice) (serviceId : RowId) : Bool :=
  invoice.items.any fun item => item.serviceId = some serviceId

def eligibleToSuspend (service : Service) (invoice : Invoice) : Prop :=
  service.status = .active ∧ invoice.status = .overdue ∧ 0 < invoice.balanceDue

def eligibleToUnsuspend (service : Service) (invoiceId : RowId) (invoice : Invoice) : Prop :=
  service.status = .suspended ∧ service.suspensionInvoiceId = some invoiceId ∧
    invoice.status = .paid ∧ invoice.balanceDue = 0

instance (service : Service) (invoice : Invoice) : Decidable (eligibleToSuspend service invoice) :=
  inferInstanceAs (Decidable (_ ∧ _))

instance (service : Service) (invoiceId : RowId) (invoice : Invoice) :
    Decidable (eligibleToUnsuspend service invoiceId invoice) :=
  inferInstanceAs (Decidable (_ ∧ _))

/-! ## The panel -/

def panelState : AutomationAction → HostingAccountState
  | .suspend => .suspended
  | .unsuspend => .active

def verifiedAccount (service : Service) (username domain : String)
    (summary : Option (String × String × HostingAccountState)) :
    Except PanelAutomationError HostingAccount := do
  let unverified : PanelAutomationError := ⟨.inconsistent, "CPANEL_MUTATION_NOT_VERIFIED"⟩
  let (user, accountDomain, state) ← orThrow unverified summary
  require (user = username ∧ accountDomain = domain.toLower) unverified
  return ⟨service.externalAccountId.getD "", user, accountDomain, state⟩

/-- `mutatePanel`, with the state the panel must have put the account in. -/
def mutatePanel (w : World) (db : Database) (action : AutomationAction) (serviceId : RowId) :
    Except PanelAutomationError HostingAccount := do
  let unavailable : PanelAutomationError := ⟨.permanent, "HOSTING_ACCOUNT_IDENTITY_UNAVAILABLE"⟩
  let service ← orThrow unavailable (db.services.get? serviceId)
  require (truthy service.controlPanelUsername = true ∧ truthy service.externalAccountId = true ∧
    truthy service.domain = true) unavailable
  let username := service.controlPanelUsername.getD ""
  let domain := service.domain.getD ""
  let server ← orThrow unavailable (db.servers.get? service.serverId)
  if server.adapterKey = "fake-panel" then
    return ⟨service.externalAccountId.getD "", username, domain.toLower, panelState action⟩
  else do
    require (server.adapterKey = "cpanel-whm") ⟨.permanent, "HOSTING_PANEL_ADAPTER_UNSUPPORTED"⟩
    w.whmMutation
    let account ← verifiedAccount service username domain w.whmSummary
    require (account.state = panelState action)
      ⟨.inconsistent, "CPANEL_ACCOUNT_STATE_NOT_VERIFIED"⟩
    return account

/-! ## Recording the outcome -/

def completable (action : AutomationAction) (invoiceId : Option RowId) (service : Service) : Prop :=
  match action with
  | .suspend => service.status = .active
  | .unsuspend => service.status = .suspended ∧ service.suspensionInvoiceId = invoiceId

instance (action : AutomationAction) (invoiceId : Option RowId) (service : Service) :
    Decidable (completable action invoiceId service) := by
  unfold completable
  split <;> infer_instance

def suspensionReason (payload : AutomationPayload) : String :=
  match payload with
  | .renewal _ _ _ => "Renewal invoice overdue after grace period."
  | .cancellation _ _ => "Customer requested hosting cancellation."

def completeData (action : AutomationAction) (payload : AutomationPayload) (now : ℕ)
    (service : Service) : Service :=
  match action with
  | .suspend =>
    { service with
      status := .suspended
      suspendedAt := some now
      suspensionReason := some (suspensionReason payload)
      suspensionInvoiceId := payload.invoiceId
      updatedAt := now }
  | .unsuspend =>
    { service with status := .active, suspensionInvoiceId := none, updatedAt := now }

def succeededOperation (now : ℕ) (op : HostingPanelOperation) : HostingPanelOperation :=
  { op with status := .succeeded, completedAt := some now }

def failedOperation (attemptNumber : ℕ) (error : PanelAutomationError) (now : ℕ)
    (op : HostingPanelOperation) : HostingPanelOperation :=
  { op with
    status := if error.kind = .inconsistent then .inconsistent else .failed
    retryable := error.kind = .temporary ∧ attemptNumber < maxAutomationAttempts
    errorKind := some error.kind
    errorCode := some error.code
    errorMessage := some "The automated hosting-panel operation did not complete."
    completedAt := some now }

def automationEvent (action : AutomationAction) (serviceId operationId : RowId) : OutboxEvent where
  aggregateType := .service
  aggregateId := serviceId
  eventType := match action with
    | .suspend => .emailServiceSuspended
    | .unsuspend => .emailServiceReactivated
  idempotencyKey := .emailService operationId
  payload := .service serviceId

def finishSource (payload : AutomationPayload) (now : ℕ) (db : Database) :
    Except Failure Database :=
  match payload with
  | .renewal _ _ _ => .ok db
  | .cancellation serviceId cancellationId => finishCancellation serviceId cancellationId now db

/-- `complete`: the service is changed only from the state that the action ends. -/
def completeTransaction (operationId : RowId) (action : AutomationAction)
    (payload : AutomationPayload) (now : ℕ) : Tx Unit := fun db => do
  let changed : Failure := .error "SERVICE_STATE_CHANGED"
  let service ← orThrow changed (db.services.get? payload.serviceId)
  require (completable action payload.invoiceId service) changed
  let db ← db.updateService payload.serviceId (completeData action payload now)
  let db ← finishSource payload now db
  let db ← db.updateOperation operationId (succeededOperation now)
  let db ← db.createOutboxEvent (automationEvent action payload.serviceId operationId)
  return (db, ())

/-- `completeSkipped`. -/
def completeSkipped (operationId now : ℕ) : Tx Unit := fun db => do
  let db ← db.updateRunningOperation operationId (succeededOperation now)
  return (db, ())

/-- `fail`. -/
def failTransaction (operationId attemptNumber : ℕ) (error : PanelAutomationError) (now : ℕ) :
    Tx Unit := fun db => do
  let db ← db.updateRunningOperation operationId (failedOperation attemptNumber error now)
  return (db, ())

/-! ## Processing a job -/

structure AutomationJob where
  operationId : RowId
  attemptNumber : ℕ
  action : AutomationAction
  payload : AutomationPayload

/-- How far a run is; `service` and `invoice` are the rows as `eligible` read them. -/
inductive AutomationState
  | start (data : BackgroundJobData)
  | prepare (action : AutomationAction) (payload : AutomationPayload) (outboxEventId : RowId)
  | readService (job : AutomationJob)
  | readInvoice (job : AutomationJob) (invoiceId : RowId) (service : Option Service)
  | readCancellations (job : AutomationJob) (invoiceId : RowId) (service : Service)
      (invoice : Invoice)
  | skip (job : AutomationJob)
  | mutate (job : AutomationJob)
  | complete (job : AutomationJob)
  | fail (job : AutomationJob) (error : PanelAutomationError)
  | done (result : Except Failure Unit)

def resultUnknown : PanelAutomationError := ⟨.inconsistent, "HOSTING_AUTOMATION_RESULT_UNKNOWN"⟩

def temporarilyUnavailable : PanelAutomationError :=
  ⟨.temporary, "HOSTING_AUTOMATION_TEMPORARILY_UNAVAILABLE"⟩

def jobError (error : PanelAutomationError) : Failure := .job error.kind error.code

/-- The error of a job whose operation an earlier delivery completed without success. -/
def previousError (op : HostingPanelOperation) : Failure :=
  if op.errorKind = some .temporary ∧ op.retryable = false then
    .job .permanent "HOSTING_AUTOMATION_RETRY_LIMIT"
  else
    .job (op.errorKind.getD .permanent)
      (op.errorCode.getD "HOSTING_AUTOMATION_PREVIOUSLY_FAILED")

/-- What `process` does with the operation it got from `prepare`. -/
def resume (action : AutomationAction) (payload : AutomationPayload) : Prepared → AutomationState
  | .nothing => .done (.ok ())
  | .operation id op fresh =>
    let job : AutomationJob := ⟨id, op.attemptNumber, action, payload⟩
    match op.status with
    | .succeeded => .done (.ok ())
    | .running => if fresh then .readService job else .fail job resultUnknown
    | _ => .done (.error (previousError op))

/-- Go on with the panel, or record that the action is not called for any more. -/
def proceed (job : AutomationJob) (eligible : Bool) : AutomationState :=
  if eligible then .mutate job else .skip job

/-- What `eligible` concludes from the service and the invoice. -/
def afterInvoice (job : AutomationJob) (invoiceId : RowId) (service : Option Service)
    (invoice : Option Invoice) : AutomationState :=
  match service, invoice with
  | some service, some invoice =>
    if billsService invoice job.payload.serviceId = false then .skip job
    else match job.action with
      | .suspend => proceed job (eligibleToSuspend service invoice)
      | .unsuspend => .readCancellations job invoiceId service invoice
  | _, _ => .skip job

section

variable (fingerprint : AutomationPayload → String)

def automationStep (w : World) (db : Database) : AutomationState → Option (Database × AutomationState)
  | .start data =>
    match action data.eventType, payload data db with
    | .error e, _ => some (db, .done (.error e))
    | .ok _, .error e => some (db, .done (.error e))
    | .ok action, .ok payload => some (db, .prepare action payload data.outboxEventId)
  | .prepare action payload outboxEventId =>
    match atomically (prepareTransaction fingerprint action payload outboxEventId w.now) db with
    | (db', .ok prepared) => some (db', resume action payload prepared)
    | (db', .error e) => some (db', .done (.error e))
  | .readService job =>
    let service := db.services.get? job.payload.serviceId
    match job.payload.invoiceId with
    | some invoiceId => some (db, .readInvoice job invoiceId service)
    | none => some (db, proceed job (service.any (·.status = .active)))
  | .readInvoice job invoiceId service =>
    some (db, afterInvoice job invoiceId service (db.invoices.get? invoiceId))
  | .readCancellations job invoiceId service invoice =>
    some (db, proceed job (blockingCancellation db job.payload.serviceId w.now = false ∧
      eligibleToUnsuspend service invoiceId invoice))
  | .skip job =>
    match atomically (completeSkipped job.operationId w.now) db with
    | (db', .ok _) => some (db', .done (.ok ()))
    | (db', .error _) => some (db', .fail job temporarilyUnavailable)
  | .mutate job =>
    match mutatePanel w db job.action job.payload.serviceId with
    | .ok _ => some (db, .complete job)
    | .error error => some (db, .fail job error)
  | .complete job =>
    match atomically (completeTransaction job.operationId job.action job.payload w.now) db with
    | (db', .ok _) => some (db', .done (.ok ()))
    | (db', .error _) => some (db', .fail job resultUnknown)
  | .fail job error =>
    match atomically (failTransaction job.operationId job.attemptNumber error w.now) db with
    | (db', .ok _) => some (db', .done (.error (jobError error)))
    | (db', .error e) => some (db', .done (.error e))
  | .done _ => none

/-! ### What a run does -/

/-- The operation a run works on, from the moment it has got it. -/
def AutomationState.job : AutomationState → Option AutomationJob
  | .readService job => some job
  | .readInvoice job _ _ => some job
  | .readCancellations job _ _ _ => some job
  | .skip job => some job
  | .mutate job => some job
  | .complete job => some job
  | .fail job _ => some job
  | _ => none

inductive Automates (w : World) (db : Database) :
    AutomationState → Database → AutomationState → Prop
  | idle {l l' : AutomationState} (hjob : l'.job = none ∨ l'.job = l.job) : Automates w db l db l'
  | prepare {action : AutomationAction} {payload : AutomationPayload} {outboxEventId : RowId}
      {db' : Database} {prepared : Prepared}
      (h : prepareTransaction fingerprint action payload outboxEventId w.now db =
        .ok (db', prepared)) :
      Automates w db (.prepare action payload outboxEventId) db' (resume action payload prepared)
  | skip {job : AutomationJob} {db' : Database} {l' : AutomationState}
      (h : completeSkipped job.operationId w.now db = .ok (db', ())) (hjob : l'.job = none) :
      Automates w db (.skip job) db' l'
  | complete {job : AutomationJob} {db' : Database} {l' : AutomationState}
      (h : completeTransaction job.operationId job.action job.payload w.now db = .ok (db', ()))
      (hjob : l'.job = none) : Automates w db (.complete job) db' l'
  | fail {job : AutomationJob} {error : PanelAutomationError} {db' : Database}
      {l' : AutomationState}
      (h : failTransaction job.operationId job.attemptNumber error w.now db = .ok (db', ()))
      (hjob : l'.job = none) : Automates w db (.fail job error) db' l'

theorem job_proceed (job : AutomationJob) (eligible : Bool) :
    (proceed job eligible).job = some job := by
  cases eligible <;> rfl

theorem job_afterInvoice (job : AutomationJob) (invoiceId : RowId) (service : Option Service)
    (invoice : Option Invoice) : (afterInvoice job invoiceId service invoice).job = some job := by
  unfold afterInvoice
  split
  · split
    · rfl
    · split
      · exact job_proceed _ _
      · rfl
  · rfl

variable {action : AutomationAction} {payload : AutomationPayload} {db db' : Database}
  {prepared : Prepared} {u : Unit} {now operationId outboxEventId : ℕ}

theorem automationStep_cases {w : World} {l l' : AutomationState}
    (h : automationStep fingerprint w db l = some (db', l')) :
    Automates fingerprint w db l db' l' := by
  unfold automationStep at h
  split at h
  · split at h <;> (cases h; exact .idle (.inl rfl))
  · split at h
    · rename_i heq
      cases h
      have hok := atomically_ok heq
      exact .prepare hok
    · rename_i heq
      cases h
      obtain ⟨-, rfl⟩ := atomically_error heq
      exact .idle (.inl rfl)
  · simp only at h
    split at h
    · cases h
      exact .idle (.inr rfl)
    · cases h
      exact .idle (.inr (job_proceed _ _))
  · cases h
    exact .idle (.inr (job_afterInvoice _ _ _ _))
  · cases h
    exact .idle (.inr (job_proceed _ _))
  · split at h
    · rename_i heq
      cases h
      have hok := atomically_ok heq
      exact .skip hok rfl
    · rename_i heq
      cases h
      obtain ⟨-, rfl⟩ := atomically_error heq
      exact .idle (.inr rfl)
  · split at h <;> (cases h; exact .idle (.inr rfl))
  · split at h
    · rename_i heq
      cases h
      have hok := atomically_ok heq
      exact .complete hok rfl
    · rename_i heq
      cases h
      obtain ⟨-, rfl⟩ := atomically_error heq
      exact .idle (.inr rfl)
  · split at h
    · rename_i heq
      cases h
      have hok := atomically_ok heq
      exact .fail hok rfl
    · rename_i heq
      cases h
      obtain ⟨-, rfl⟩ := atomically_error heq
      exact .idle (.inl rfl)
  · cases h

/-! ### What each transaction does -/

theorem automates_eq_true {key : OperationKey} (h : automates action payload key = true) :
    ∃ retry, key = .automation action payload.serviceId payload.source retry := by
  unfold automates at h
  split at h
  · rename_i a serviceId source retry
    rw [decide_eq_true_eq] at h
    obtain ⟨rfl, rfl, rfl⟩ := h
    exact ⟨retry, rfl⟩
  · exact nomatch h

theorem latestOperation_eq_some {id : RowId} {op : HostingPanelOperation}
    (h : latestOperation db action payload = some (id, op)) :
    db.operations.get? id = some op ∧ automates action payload op.idempotencyKey = true :=
  Table.mem_select.1 (List.argmax_mem h)

variable {serviceId cancellationId : ℕ} {row : HostingPanelOperation}

/-- At most the event that tries the cancellation again is new. -/
def Deferred (events events' : Table OutboxEvent) : Prop :=
  events' = events ∨ ∃ event, event.status = .pending ∧ events' = events.insert event

theorem deferCancellation_eq {availableAt : ℕ} : ∃ events, Deferred db.outboxEvents events ∧
      deferCancellation serviceId cancellationId outboxEventId availableAt db =
        { db with outboxEvents := events } := by
  rw [deferCancellation, Database.createOutboxEventSkippingDuplicates]
  split
  · exact ⟨db.outboxEvents, .inl rfl, rfl⟩
  · exact ⟨_, .inr ⟨_, rfl, rfl⟩, rfl⟩

theorem finishCancellation_eq_ok
    (h : finishCancellation serviceId cancellationId now db = .ok db') :
    ∃ request, db.cancellationRequests.get? cancellationId = some request ∧
      request.serviceId = serviceId ∧ request.status = .opened ∧
      db' = { db with
        cancellationRequests := db.cancellationRequests.update cancellationId fun request =>
          { request with status := .completed, resolvedAt := some now } } := by
  simp only [finishCancellation, eq_ok] at h
  obtain ⟨request, hrequest, ⟨hservice, hopened⟩, rfl⟩ := h
  exact ⟨request, hrequest, hservice, hopened, rfl⟩

/-- The requests after the run: one for a cancellation has completed it. -/
def SourceFinished (now : ℕ) (requests requests' : Table HostingCancellationRequest) :
    AutomationPayload → Prop
  | .renewal _ _ _ => requests' = requests
  | .cancellation serviceId cancellationId => ∃ request,
      requests.get? cancellationId = some request ∧ request.serviceId = serviceId ∧
        request.status = .opened ∧ requests' = requests.update cancellationId fun request =>
          { request with status := .completed, resolvedAt := some now }

theorem finishSource_eq_ok (h : finishSource payload now db = .ok db') :
    ∃ requests, SourceFinished now db.cancellationRequests requests payload ∧
      db' = { db with cancellationRequests := requests } := by
  cases payload with
  | renewal serviceId invoiceId automationRunId =>
    exact ⟨db.cancellationRequests, rfl, (Except.ok.inj h).symm⟩
  | cancellation serviceId cancellationId =>
    obtain ⟨request, hrequest, hservice, hopened, rfl⟩ := finishCancellation_eq_ok h
    exact ⟨_, ⟨request, hrequest, hservice, hopened, rfl⟩, rfl⟩

def InvoiceCleared (serviceId now : ℕ) (services services' : Table Service) : Prop :=
  services' = services ∨ services' = services.update serviceId fun service =>
    { service with suspensionInvoiceId := none, updatedAt := now }

/-- What `prepare` does for a cancellation leaves the operations alone, and goes on only when no
operation of the service is running. -/
theorem prepareSource_eq_ok {service : Service} {running : Bool} {out : Option Database}
    (h : prepareSource payload outboxEventId now service running db = .ok out) :
    (out = none ∧ (running = true → payload.cancellationId = none)) ∨
      payload.cancellationId.isSome ∧ ∃ services requests events,
        InvoiceCleared payload.serviceId now db.services services ∧
        Deferred db.outboxEvents events ∧ out = some { db with
          services := services, cancellationRequests := requests, outboxEvents := events } := by
  cases payload with
  | renewal serviceId invoiceId automationRunId =>
    exact .inl ⟨(Except.ok.inj h).symm, fun _ => rfl⟩
  | cancellation serviceId cancellationId =>
    rw [prepareSource, prepareCancellation] at h
    split at h
    · exact .inr ⟨rfl, db.services, db.cancellationRequests, db.outboxEvents, .inl rfl, .inl rfl,
        (Except.ok.inj h).symm⟩
    · split at h
      · simp only [eq_ok] at h
        obtain ⟨-, rfl⟩ := h
        obtain ⟨events, hdeferred, hevents⟩ := deferCancellation_eq
        rw [hevents]
        exact .inr ⟨rfl, db.services, db.cancellationRequests, events, .inl rfl, hdeferred, rfl⟩
      · rename_i hrunning
        split at h
        · rw [Except.ok.injEq] at h
          subst h
          obtain ⟨events, hdeferred, hevents⟩ := deferCancellation_eq
          rw [reschedule, hevents]
          exact .inr ⟨rfl, db.services, _, events, .inl rfl, hdeferred, rfl⟩
        · split at h
          · simp only [eq_ok] at h
            obtain ⟨db₁, hclear, db₂, hfinish, rfl⟩ := h
            obtain ⟨_, -, -, -, rfl⟩ := finishCancellation_eq_ok hfinish
            rw [clearSuspensionInvoice] at hclear
            split at hclear
            · obtain ⟨_, _, _, rfl⟩ := db.updateService_eq_ok hclear
              exact .inr ⟨rfl, _, _, db.outboxEvents, .inr rfl, .inl rfl, rfl⟩
            · rw [Except.ok.injEq] at hclear
              subst hclear
              exact .inr ⟨rfl, db.services, _, db.outboxEvents, .inl rfl, .inl rfl, rfl⟩
          · simp only [eq_ok] at h
            obtain ⟨-, rfl⟩ := h
            exact .inl ⟨rfl, fun hrunning' => absurd hrunning' hrunning⟩

inductive FreshRow (db : Database) (action : AutomationAction) (payload : AutomationPayload) :
    HostingPanelOperation → Prop
  | first {service : Service} {server : Server} (hlatest : latestOperation db action payload = none)
      (hservice : db.services.get? payload.serviceId = some service) :
      FreshRow db action payload (newOperation fingerprint db action payload service server)
  | again {id : RowId} {op : HostingPanelOperation}
      (hlatest : latestOperation db action payload = some (id, op)) (hretryable : retryable op) :
      FreshRow db action payload (retryOperation action payload id op)

theorem FreshRow.running_automation (h : FreshRow fingerprint db action payload row) :
    row.status = .running ∧ ∃ retry,
      row.idempotencyKey = .automation action payload.serviceId payload.source retry := by
  cases h with
  | first hlatest hservice | again hlatest hretryable => exact ⟨rfl, _, rfl⟩

/-- What a committed `prepare` can have done. -/
inductive Prepares (db : Database) (action : AutomationAction) (payload : AutomationPayload)
    (now : ℕ) : Database → Prepared → Prop
  | create {row : HostingPanelOperation} (hrow : FreshRow fingerprint db action payload row)
      (hrunning : otherRunning db payload.serviceId (latestOperation db action payload) = false)
      (hevidence : row.StatusEvidence)
      (hkey : ∀ id op, db.operations.get? id = some op → op.idempotencyKey ≠ row.idempotencyKey) :
      Prepares db action payload now { db with operations := db.operations.insert row }
        (.operation db.operations.size row true)
  | found {id : RowId} {op : HostingPanelOperation}
      (hlatest : latestOperation db action payload = some (id, op)) :
      Prepares db action payload now db (.operation id op false)
  | nothing {services : Table Service} {requests : Table HostingCancellationRequest}
      {events : Table OutboxEvent} {service : Service} {outboxEventId : RowId}
      (hcancellation : payload.cancellationId.isSome)
      (hservices : InvoiceCleared payload.serviceId now db.services services)
      (hevents : Deferred db.outboxEvents events)
      (hservice : db.services.get? payload.serviceId = some service)
      (hsource : prepareSource payload outboxEventId now service
        (otherRunning db payload.serviceId (latestOperation db action payload)) db =
          .ok (some { db with
            services := services, cancellationRequests := requests, outboxEvents := events })) :
      Prepares db action payload now
        { db with services := services, cancellationRequests := requests, outboxEvents := events }
        .nothing

theorem recordOperation_eq_ok (h : recordOperation row db = .ok (db', prepared)) :
    row.StatusEvidence ∧
      (∀ id op, db.operations.get? id = some op → op.idempotencyKey ≠ row.idempotencyKey) ∧
      db' = { db with operations := db.operations.insert row } ∧
      prepared = .operation db.operations.size row true := by
  simp only [recordOperation, eq_ok] at h
  obtain ⟨⟨db₁, id⟩, hcreate, h⟩ := h
  rw [Database.createOperation_eq_ok] at hcreate
  obtain ⟨⟨-, hevidence, -⟩, hkey, -, hout⟩ := hcreate
  obtain ⟨rfl, rfl⟩ := Prod.mk.inj hout
  obtain ⟨rfl, rfl⟩ := h
  exact ⟨hevidence, hkey, rfl, rfl⟩

theorem prepareOperation_eq_ok (h : prepareOperation fingerprint action payload outboxEventId now
      (latestOperation db action payload) db = .ok (db', prepared)) :
    Prepares fingerprint db action payload now db' prepared := by
  simp only [prepareOperation, eq_ok] at h
  obtain ⟨hrunning, service, hservice, out, hsource, h⟩ := h
  rcases prepareSource_eq_ok hsource with ⟨rfl, hnot⟩ |
      ⟨hsome, services, requests, events, hcleared, hdeferred, rfl⟩
  · -- No operation of the service is running but perhaps the latest one of the same source.
    have hother : otherRunning db payload.serviceId (latestOperation db action payload) = false := by
      rw [← Bool.not_eq_true]
      intro hother
      have := hrunning hother
      rw [hnot hother] at this
      cases this
    simp only [startOperation] at h
    split at h
    · rename_i id op hlatest
      split at h
      · rename_i hretryable
        obtain ⟨hevidence, hkey, rfl, rfl⟩ := recordOperation_eq_ok h
        exact .create (.again hlatest hretryable) hother hevidence hkey
      · rw [Except.ok.injEq] at h
        obtain ⟨rfl, rfl⟩ := Prod.mk.inj h
        exact .found hlatest
    · rename_i hlatest
      simp only [eq_ok] at h
      obtain ⟨server, -, h⟩ := h
      obtain ⟨hevidence, hkey, rfl, rfl⟩ := recordOperation_eq_ok h
      exact .create (.first hlatest hservice) hother hevidence hkey
  · simp only [pure_eq_ok] at h
    obtain ⟨rfl, rfl⟩ := Prod.mk.inj h
    exact .nothing hsome hcleared hdeferred hservice hsource

theorem prepareTransaction_eq_ok
    (h : prepareTransaction fingerprint action payload outboxEventId now db =
      .ok (db', prepared)) :
    Prepares fingerprint db action payload now db' prepared := by
  simp only [prepareTransaction] at h
  split at h
  · rename_i id op hlatest
    split at h
    · rw [Except.ok.injEq] at h
      obtain ⟨rfl, rfl⟩ := Prod.mk.inj h
      exact .found hlatest
    · exact prepareOperation_eq_ok fingerprint h
  · exact prepareOperation_eq_ok fingerprint h

theorem completeTransaction_eq_ok
    (h : completeTransaction operationId action payload now db = .ok (db', u)) :
    ∃ service op requests, db.services.get? payload.serviceId = some service ∧
      completable action payload.invoiceId service ∧
      db.operations.get? operationId = some op ∧ (succeededOperation now op).StatusEvidence ∧
      SourceFinished now db.cancellationRequests requests payload ∧
      db' = { db with
        services := db.services.update payload.serviceId (completeData action payload now)
        cancellationRequests := requests
        operations := db.operations.update operationId (succeededOperation now)
        outboxEvents := db.outboxEvents.insert
          (automationEvent action payload.serviceId operationId) } := by
  simp only [completeTransaction, eq_ok] at h
  obtain ⟨service, hservice, hcompletable, db₁, hwrite, db₂, hfinish, db₃, hop, db₄, hevent, rfl,
    -⟩ := h
  obtain ⟨_, _, _, rfl⟩ := db.updateService_eq_ok hwrite
  obtain ⟨requests, hrequests, rfl⟩ := finishSource_eq_ok hfinish
  obtain ⟨op, hget, hevidence, rfl⟩ := Database.updateOperation_eq_ok _ hop
  rw [Database.createOutboxEvent_eq_ok] at hevent
  exact ⟨service, op, requests, hservice, hcompletable, hget, hevidence, hrequests, hevent.2⟩

/-- A conditional write to an operation did nothing, or completed one that was running. -/
def OperationEnded (f : HostingPanelOperation → HostingPanelOperation) (id : RowId)
    (operations operations' : Table HostingPanelOperation) : Prop :=
  operations' = operations ∨ ∃ op, operations.get? id = some op ∧ op.status = .running ∧
    (f op).StatusEvidence ∧ operations' = operations.update id f

theorem completeSkipped_eq_ok (h : completeSkipped operationId now db = .ok (db', u)) :
    ∃ operations, OperationEnded (succeededOperation now) operationId db.operations operations ∧
      db' = { db with operations := operations } := by
  simp only [completeSkipped, eq_ok] at h
  obtain ⟨db₁, hwrite, rfl, -⟩ := h
  rcases db.updateRunningOperation_eq_ok hwrite with rfl | ⟨op, hop, hrunning, hevidence, rfl⟩
  · exact ⟨_, .inl rfl, rfl⟩
  · exact ⟨_, .inr ⟨op, hop, hrunning, hevidence, rfl⟩, rfl⟩

theorem failTransaction_eq_ok {attemptNumber : ℕ} {error : PanelAutomationError}
    (h : failTransaction operationId attemptNumber error now db = .ok (db', u)) :
    ∃ operations, OperationEnded (failedOperation attemptNumber error now) operationId
        db.operations operations ∧ db' = { db with operations := operations } := by
  simp only [failTransaction, eq_ok] at h
  obtain ⟨db₁, hwrite, rfl, -⟩ := h
  rcases db.updateRunningOperation_eq_ok hwrite with rfl | ⟨op, hop, hrunning, hevidence, rfl⟩
  · exact ⟨_, .inl rfl, rfl⟩
  · exact ⟨_, .inr ⟨op, hop, hrunning, hevidence, rfl⟩, rfl⟩

/-- `HostingAutomationService.process`. -/
def process : Operation Database World where
  Request := BackgroundJobData
  Local := AutomationState
  start := .start
  step := automationStep fingerprint

end

end HostingAutomationService

end WebhostBilling
