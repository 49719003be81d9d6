import Mathlib.Data.List.Sort
import WebhostBilling.Notifications.NotificationDeliveryService

/-!
# The projection of notifications

Under an advisory lock `projectOnce` takes up to 100 rows of other tables that have no row in
`notification_sources` yet, emits the notifications of each, and marks it.  Then it emits what the
calendar asks for.

The rows of all source tables are kept in one, so that an identifier is unique among them, and keys
that are made from a template are taken apart into the template and what was put into it.
-/

namespace WebhostBilling

open Store Concurrency Notification NotificationDeliveryService

namespace NotificationProjectionService

/-! ## Sources -/

/-- The audited actions that the projection looks for; `other` is any other text. -/
inductive AuditAction
  | authEmailVerified
  | authPasswordResetCompleted
  | authTwoFactorEnabled
  | authTwoFactorDisabled
  | authTwoFactorRecoveryCodesRegenerated
  | customerPasswordChanged
  | manualPaymentSubmittedByCustomer
  | manualPaymentRefundedByAdmin
  | manualPaymentReversedByAdmin
  | ticketCreatedByCustomer
  | ticketUpdatedByAdmin
  | domainActionConfirmed
  | domainActionOutcomeUncertain
  | domainActionReadUncertain
  | domainActionNotSubmitted
  | other (action : String)

structure AuditMetadata where
  previousPriority : Option String := none
  priority : Option String := none
  kind : Option String := none
  actionId : Option RowId := none

/-- The payload of an event, as `parseEmailEventPayload` reads it. -/
inductive SourcePayload
  | invoice (invoiceId : RowId)
  | service (serviceId : RowId)
  | ticketReply (ticketId messageId : RowId)
  | notification (notificationId : RowId)
  | unused
  | unreadable

inductive SourceRow
  /-- `activity_logs` -/
  | audit (createdAt : ℕ) (action : AuditAction) (entityId : Option RowId)
      (metadata : AuditMetadata)
  /-- `outbox_events` -/
  | outbox (createdAt updatedAt : ℕ) (eventType : OutboxEventType) (payload : SourcePayload)
      (status : OutboxStatus)
  /-- `hosting_panel_operations` -/
  | hosting (completedAt : Option ℕ) (status : HostingPanelOperationStatus)
  /-- `email_logs`, with whether some attempt has failed for good. -/
  | email (failedAt : Option ℕ) (status : EmailStatus) (attemptCount : ℕ) (failedForGood : Bool)
  /-- `automation_runs` -/
  | automation (completedAt : Option ℕ) (status : AutomationStatus)
  /-- `registrar_evidence` -/
  | registrar (createdAt : ℕ) (code : RegistrarEvidenceCode) (operationId : RowId)

inductive SourceKind
  | audit
  | outbox
  | hosting
  | email
  | automation
  | registrar
  | failedOutbox
  /-- Its `kind` column is `EMAIL`, too. -/
  | failedNotification
deriving DecidableEq

/-- A key of `notification_sources`. -/
inductive SourceKey
  | row (kind : SourceKind) (id : RowId)
  | digest (day : ℕ)
deriving DecidableEq

/-- A row that the query of `projectOnce` returns. -/
structure Source where
  kind : SourceKind
  id : RowId
  createdAt : ℕ

def Source.key (source : Source) : SourceKey := .row source.kind source.id

/-- The `source_key` of an entry. -/
inductive EntryKey
  | source (key : SourceKey)
  | domainRenewed (reference : RowId)
  | domainProblem (reference : RowId)
  | invoiceCreated (invoiceId : RowId)
  | overdueNotice (invoiceId : RowId)
  | domainRegistered (operationId : RowId)
  | registrarProblem (operationId : RowId)
  | domainExpiryFinal (domainId : RowId) (expiry : ℕ)
  | domainExpiry (domainId : RowId) (expiry day : ℕ)
  | finalWarning (invoiceId : RowId) (suspensionDate : ℕ)
deriving DecidableEq

/-! ## The store -/

structure ProjectedEntry where
  userId : RowId
  key : NotificationKey
  sourceKey : EntryKey
  channel : NotificationChannel
  status : NotificationStatus
  metadata : NotificationMetadata := {}
  completedAt : Option ℕ := none

structure Recipient where
  user : NotificationUser
  customer : Option NotificationCustomer := none

/-- What is projected from, and what has been projected. -/
structure ProjectionStore where
  /-- `notification_epochs` -/
  startedAt : ℕ
  projecting : Bool := false
  rows : Table SourceRow := ∅
  users : Table Recipient := ∅
  entries : Table ProjectedEntry := ∅
  /-- `notification_sources` -/
  sources : List SourceKey := []

def isProjectedEventType (eventType : OutboxEventType) : Bool :=
  eventType ∈ [.emailOrderReceived, .emailPaymentReceived, .emailInvoiceCreated,
    .emailOverdueNotice, .emailServiceSuspended, .emailServiceReactivated, .emailTicketReply]

def isProjectedAction : AuditAction → Bool
  | .other _ => false
  | _ => true

def sourceIf (p : Bool) (kind : SourceKind) (id : RowId) (createdAt : Option ℕ) (startedAt : ℕ) :
    List Source :=
  match createdAt with
  | none => []
  | some createdAt => if startedAt ≤ createdAt ∧ p = true then [⟨kind, id, createdAt⟩] else []

def rowSources (startedAt : ℕ) (id : RowId) : SourceRow → List Source
  | .audit createdAt action _ _ =>
    sourceIf (isProjectedAction action) .audit id (some createdAt) startedAt
  | .outbox createdAt updatedAt eventType _ status =>
    sourceIf (isProjectedEventType eventType) .outbox id (some createdAt) startedAt ++
    sourceIf (status = .failed ∧ eventType ≠ .notificationDeliveryRequested) .failedOutbox id
      (some updatedAt) startedAt
  | .hosting completedAt status =>
    sourceIf (status = .failed ∨ status = .inconsistent) .hosting id completedAt startedAt
  | .email failedAt status attemptCount failedForGood =>
    sourceIf (status = .failed ∧ (5 ≤ attemptCount ∨ failedForGood = true)) .email id failedAt
      startedAt
  | .automation completedAt status =>
    sourceIf (status = .failed ∨ status = .partiallySucceeded) .automation id completedAt startedAt
  | .registrar createdAt code _ =>
    sourceIf (code ∈ [.ownershipAndExpiryConfirmed, .providerRejected,
      .manualReconciliationRequired]) .registrar id (some createdAt) startedAt

def isFailureKey (key : NotificationKey) : Bool :=
  key = .adminDeliveryFailure ∨ key = .adminAutomationFailure

def entrySources (startedAt : ℕ) (id : RowId) (entry : ProjectedEntry) : List Source :=
  sourceIf ((entry.status = .failed ∨ entry.status = .unknown) ∧ isFailureKey entry.key = false)
    .failedNotification id entry.completedAt startedAt

/-- The sources since the epoch. -/
def eligible (s : ProjectionStore) : List Source :=
  s.rows.rows.zipIdx.flatMap (fun row => rowSources s.startedAt row.2 row.1) ++
    s.entries.rows.zipIdx.flatMap (fun entry => entrySources s.startedAt entry.2 entry.1)

/-- The eligible sources that are not marked. -/
def pending (s : ProjectionStore) : List Source :=
  (eligible s).filter fun source => source.key ∉ s.sources

/-- The sources that one run takes.  Sources of one moment come in the order of their keys' texts,
which `before` knows. -/
def batch (before : SourceKey → SourceKey → Bool) (s : ProjectionStore) : List Source :=
  ((pending s).insertionSort fun a b => a.createdAt < b.createdAt ∨
    (a.createdAt = b.createdAt ∧ before a.key b.key = true)).take 100

/-! ## What is emitted -/

structure Target where
  customerId : Option RowId := none
  userId : Option RowId := none

/-- The arguments of one call of `emit`. -/
structure Emission where
  key : NotificationKey
  sourceKey : EntryKey
  target : Target := {}
  metadata : NotificationMetadata := {}

structure TicketRead where
  customerId : RowId
  urgent : Bool
  messageByCustomer : Option Bool := none

structure InvoiceRead where
  customerId : RowId
  issued : Bool
  status : InvoiceStatus
  balanceDue : ℤ

/-- The rows that `projectSource` reads for a source, as far as they are found. -/
structure SourceReads where
  userRole : Option UserRole := none
  userVerified : Bool := false
  /-- `customerFor` -/
  customerId : Option RowId := none
  paymentPending : Bool := false
  ticket : Option TicketRead := none
  invoice : Option InvoiceRead := none
  service : Option ServiceReference := none
  operationCustomerId : Option RowId := none

def toCustomer (key : NotificationKey) (sourceKey : EntryKey) (metadata : NotificationMetadata) :
    Option RowId → List Emission
  | some customerId => [⟨key, sourceKey, { customerId := some customerId }, metadata⟩]
  | none => []

def auditEmissions (source : Source) (action : AuditAction) (entityId : RowId)
    (metadata : AuditMetadata) (reads : SourceReads) : List Emission :=
  let sourceKey := EntryKey.source source.key
  match action with
  | .authEmailVerified =>
    if reads.userRole = some .customer ∧ reads.userVerified = true then
      [⟨.clientWelcome, sourceKey, { userId := some entityId }, {}⟩,
        ⟨.adminCustomerVerified, sourceKey, {}, {}⟩]
    else []
  | .authPasswordResetCompleted | .authTwoFactorEnabled | .authTwoFactorDisabled
  | .authTwoFactorRecoveryCodesRegenerated =>
    match reads.userRole with
    | some role => [⟨if role = .admin then .adminSecurityAlert else .clientSecurityChange,
        sourceKey, { userId := some entityId }, {}⟩]
    | none => []
  | .customerPasswordChanged => toCustomer .clientSecurityChange sourceKey {} reads.customerId
  | .manualPaymentSubmittedByCustomer =>
    if reads.paymentPending = true then
      [⟨.adminPaymentReview, sourceKey, {}, { paymentId := some entityId }⟩]
    else []
  | .manualPaymentRefundedByAdmin | .manualPaymentReversedByAdmin =>
    match reads.customerId with
    | some customerId =>
      [⟨.clientPaymentAdjustment, sourceKey, { customerId := some customerId }, {}⟩,
        ⟨.adminPaymentAdjustment, sourceKey, {}, {}⟩]
    | none => []
  | .ticketCreatedByCustomer => [⟨.adminSupportActivity, sourceKey, {}, {}⟩]
  | .ticketUpdatedByAdmin =>
    match reads.ticket with
    | some ticket =>
      if ticket.urgent = true ∧ metadata.previousPriority ≠ some "URGENT" ∧
          metadata.priority = some "URGENT" then
        [⟨.clientUrgentSupport, sourceKey, { customerId := some ticket.customerId },
            { ticketId := some entityId }⟩,
          ⟨.adminUrgentSupport, sourceKey, {}, { ticketId := some entityId }⟩]
      else []
    | none => []
  | .domainActionConfirmed =>
    if metadata.kind = some "RENEW" then
      toCustomer .clientDomainRenewed (.domainRenewed (metadata.actionId.getD source.id)) {}
        reads.customerId
    else []
  | .domainActionOutcomeUncertain | .domainActionReadUncertain | .domainActionNotSubmitted =>
    [⟨.adminDomainProblem, .domainProblem (metadata.actionId.getD source.id), {}, {}⟩]
  | .other _ => []

def outboxEmissions (source : Source) (eventType : OutboxEventType) (payload : SourcePayload)
    (reads : SourceReads) : List Emission :=
  let sourceKey := EntryKey.source source.key
  match eventType, payload with
  | _, .unreadable => [⟨.adminAutomationFailure, sourceKey, {}, {}⟩]
  | .emailOrderReceived, _ => [⟨.adminNewOrder, sourceKey, {}, {}⟩]
  | .emailPaymentReceived, _ => [⟨.adminPaymentConfirmed, sourceKey, {}, {}⟩]
  | .emailInvoiceCreated, .invoice invoiceId =>
    match reads.invoice with
    | some invoice =>
      if invoice.issued = true ∧ invoice.status ≠ .draft ∧ invoice.status ≠ .cancelled then
        [⟨.clientInvoiceIssued, .invoiceCreated invoiceId,
            { customerId := some invoice.customerId }, { invoiceId := some invoiceId }⟩,
          ⟨.adminInvoiceIssued, .invoiceCreated invoiceId, {}, { invoiceId := some invoiceId }⟩]
      else []
    | none => []
  | .emailOverdueNotice, .invoice invoiceId =>
    match reads.invoice with
    | some invoice =>
      if invoice.issued = true ∧ invoice.status ≠ .draft ∧ invoice.status ≠ .cancelled ∧
          (invoice.status = .unpaid ∨ invoice.status = .overdue) ∧ 0 < invoice.balanceDue then
        [⟨.clientOverdueNotice, .overdueNotice invoiceId,
            { customerId := some invoice.customerId }, { invoiceId := some invoiceId }⟩,
          ⟨.adminOverdueNotice, .overdueNotice invoiceId, {}, { invoiceId := some invoiceId }⟩]
      else []
    | none => []
  | .emailServiceSuspended, .service serviceId =>
    match reads.service with
    | some service =>
      if service.status = .suspended then
        [⟨.clientServiceSuspended, sourceKey, { customerId := some service.customerId },
          { serviceId := some serviceId }⟩]
      else []
    | none => []
  | .emailServiceReactivated, .service serviceId =>
    match reads.service with
    | some service =>
      if service.status = .active then
        [⟨.clientServiceRestored, sourceKey, { customerId := some service.customerId },
          { serviceId := some serviceId }⟩]
      else []
    | none => []
  | .emailTicketReply, .ticketReply ticketId _ =>
    match reads.ticket with
    | some ticket =>
      match ticket.messageByCustomer with
      | some true =>
        if ticket.urgent = true then
          [⟨.adminUrgentSupport, sourceKey, {}, { ticketId := some ticketId }⟩]
        else []
      | some false =>
        if ticket.urgent = true then
          [⟨.clientUrgentSupport, sourceKey, { customerId := some ticket.customerId },
            { ticketId := some ticketId }⟩]
        else []
      | none => []
    | none => []
  | _, _ => []

def registrarEmissions (code : RegistrarEvidenceCode) (operationId : RowId) (reads : SourceReads) :
    List Emission :=
  match reads.operationCustomerId with
  | some customerId =>
    if code = .ownershipAndExpiryConfirmed then
      [⟨.clientDomainRegistered, .domainRegistered operationId,
        { customerId := some customerId }, {}⟩]
    else [⟨.adminDomainProblem, .registrarProblem operationId, {}, {}⟩]
  | none => []

/-- What `projectSource` emits for a source. -/
def emissions (s : ProjectionStore) (source : Source) (reads : SourceReads) : List Emission :=
  let sourceKey := EntryKey.source source.key
  match source.kind, s.rows.get? source.id with
  | .audit, some (.audit _ action (some entityId) metadata) =>
    auditEmissions source action entityId metadata reads
  | .outbox, some (.outbox _ _ eventType payload _) =>
    outboxEmissions source eventType payload reads
  | .registrar, some (.registrar _ code operationId) => registrarEmissions code operationId reads
  | .hosting, _ => [⟨.adminProvisioningProblem, sourceKey, {}, {}⟩]
  | .email, _ | .failedNotification, _ => [⟨.adminDeliveryFailure, sourceKey, {}, {}⟩]
  | .automation, _ | .failedOutbox, _ => [⟨.adminAutomationFailure, sourceKey, {}, {}⟩]
  | _, _ => []

/-! ## Entries -/

section

variable (environment : WorkerEnvironment)

def isRecipient (definition : NotificationDefinition) (target : Target) (id : RowId)
    (recipient : Recipient) : Bool :=
  recipient.user.role = definition.audience ∧ recipient.user.active = true ∧
  recipient.user.deletedAt = none ∧ recipient.user.emailVerifiedAt.isSome ∧
  (∀ userId ∈ target.userId, id = userId) ∧
  if definition.audience = .customer then
    recipient.customer.any fun customer => customer.active = true ∧ customer.deletedAt = none ∧
      ∀ customerId ∈ target.customerId, customer.id = customerId
  else target.userId.isSome ∨ recipient.user.staffRole = some .fullAdministrator

def channelsOf (definition : NotificationDefinition) : List NotificationChannel :=
  (if definition.existingEmail = true then [] else [.email]) ++
    if definition.whatsApp = true then [.whatsApp] else []

def initialStatus (channel : NotificationChannel) (recipient : Recipient) : NotificationStatus :=
  if channel = .whatsApp ∧
      (recipient.user.preference.any (fun preference => preference.whatsAppEnabled = false) ∨
        normalizeNotificationPhone
          (some (whatsAppDestination environment recipient.user recipient.customer)) none = none)
  then .suppressed
  else if environment.deliveryMode = .preview ∨ (channel = .whatsApp ∧
      environment.deliveryMode = .live ∧ environment.whatsAppLiveEnabled = true) then .queued
  else .disabled

/-- The entry that `emit` makes for a recipient and a channel. -/
def entryOf (emission : Emission) (userId : RowId) (recipient : Recipient)
    (channel : NotificationChannel) : ProjectedEntry where
  userId := userId
  key := emission.key
  sourceKey := emission.sourceKey
  channel := channel
  status := initialStatus environment channel recipient
  metadata := { emission.metadata with
    destinationFingerprint := some (environment.fingerprint
      (destinationOf environment channel recipient.user recipient.customer)) }

/-- `notifications_source_recipient_key` -/
def ProjectedEntry.clashes (entry other : ProjectedEntry) : Bool :=
  other.sourceKey = entry.sourceKey ∧ other.userId = entry.userId ∧ other.key = entry.key ∧
    other.channel = entry.channel

/-- `createMany` with `skipDuplicates`; a queued entry gets an event for its delivery. -/
def createEntry (now : ℕ) (entry : ProjectedEntry) (s : ProjectionStore) : ProjectionStore :=
  if s.entries.any (fun _ other => entry.clashes other) = true then s
  else { s with
    entries := s.entries.insert entry
    rows := if entry.status = .queued then
        s.rows.insert (.outbox now now .notificationDeliveryRequested
          (.notification s.entries.size) .pending)
      else s.rows }

/-- The entries that `emit` tries to make. -/
def emittedEntries (emission : Emission) (users : Table Recipient) : List ProjectedEntry :=
  let definition := notificationDefinition emission.key
  if definition.audience = .customer ∧ emission.target.customerId = none ∧
      emission.target.userId = none then []
  else (users.select fun id recipient => isRecipient definition emission.target id recipient).flatMap
    fun recipient => (channelsOf definition).map (entryOf environment emission recipient.1 recipient.2)

def createEntries (now : ℕ) (entries : List ProjectedEntry) (s : ProjectionStore) :
    ProjectionStore :=
  entries.foldl (fun s entry => createEntry now entry s) s

def emit (now : ℕ) (emission : Emission) (s : ProjectionStore) : ProjectionStore :=
  createEntries now (emittedEntries environment emission s.users) s

def emitAll (now : ℕ) (emissions : List Emission) (s : ProjectionStore) : ProjectionStore :=
  emissions.foldl (fun s emission => emit environment now emission s) s

/-! ## A run -/

structure DomainRead where
  id : RowId
  customerId : RowId
  expiresAt : ℕ

structure DueInvoiceRead where
  id : RowId
  customerId : RowId
  dueAt : ℕ
  serviceActive : Bool

structure ProjectionWorld where
  now : ℕ := 0
  reads : Source → SourceReads := fun _ => {}
  timeZone : String := "Asia/Dhaka"
  policyEnabled : Bool := true
  gracePeriodDays : ℕ := 7
  summary : NotificationMetadata := {}
  /-- The registered domains that expire around now, on all pages of the scan. -/
  domains : List DomainRead := []
  invoices : List DueInvoiceRead := []
  commit : Commit := .answered

def domainEmission (day : ℕ) (expiry : ℕ) (domain : DomainRead) : List Emission :=
  let metadata : NotificationMetadata :=
    { domainId := some domain.id, expiresAt := some domain.expiresAt }
  if expiry = day + 14 ∨ expiry = day + 7 then
    [⟨.clientDomainRenewalReminder, .domainExpiry domain.id expiry day,
      { customerId := some domain.customerId }, metadata⟩]
  else if expiry = day + 1 ∨ expiry = day then
    [⟨.clientDomainExpiryWarning, .domainExpiryFinal domain.id expiry,
      { customerId := some domain.customerId }, metadata⟩]
  else []

def invoiceEmission (day suspensionDate : ℕ) (invoice : DueInvoiceRead) : List Emission :=
  if suspensionDate = day + 1 ∧ invoice.serviceActive = true then
    [⟨.clientFinalWarning, .finalWarning invoice.id suspensionDate,
      { customerId := some invoice.customerId },
      { invoiceId := some invoice.id, suspensionDate := some suspensionDate }⟩]
  else []

variable (w : ProjectionWorld)

def calendarEmissions : List Emission :=
  let day := environment.businessDate w.timeZone w.now
  w.domains.flatMap (fun domain =>
    domainEmission day (environment.businessDate w.timeZone domain.expiresAt) domain) ++
  if w.policyEnabled = true then
    w.invoices.flatMap fun invoice => invoiceEmission day
      (environment.businessDate w.timeZone invoice.dueAt + (w.gracePeriodDays + 1)) invoice
  else []

def digest (s : ProjectionStore) : ProjectionStore :=
  let day := environment.businessDate w.timeZone w.now
  if .digest day ∈ s.sources then s
  else
    let s := emit environment w.now
      ⟨.adminDailySummary, .source (.digest day), {}, w.summary⟩ s
    { s with sources := s.sources ++ [.digest day] }

def calendar (s : ProjectionStore) : ProjectionStore :=
  emitAll environment w.now (calendarEmissions environment w) (digest environment w s)

/-- Project a source and mark it; `notification_sources` has it once. -/
def projectSource (source : Source) (s : ProjectionStore) :
    Except Failure ProjectionStore := do
  let s := emitAll environment w.now (emissions s source (w.reads source)) s
  require (source.key ∉ s.sources) .uniqueConstraint
  return { s with sources := s.sources ++ [source.key] }

def projectSources (w : ProjectionWorld) :
    List Source → ProjectionStore → Except Failure ProjectionStore
  | [], s => .ok s
  | source :: sources, s => do
    let s ← projectSource environment w source s
    projectSources w sources s

/-- What the transaction of `projectOnce` writes. -/
def project (sources : List Source) (s : ProjectionStore) :
    Except Failure (ProjectionStore × ℕ) := do
  let s ← projectSources environment w sources s
  return (calendar environment w s, sources.length)

inductive ProjectState
  | locking
  | projecting (sources : List Source)
  | done (result : Except Failure ℕ)

def ProjectionStore.release (s : ProjectionStore) : ProjectionStore := { s with projecting := false }

variable (before : SourceKey → SourceKey → Bool)

def projectStep (w : ProjectionWorld) (s : ProjectionStore) :
    ProjectState → Option (ProjectionStore × ProjectState)
  | .locking =>
    if s.projecting = true then some (s, .done (.ok 0))
    else some ({ s with projecting := true }, .projecting (batch before s))
  | .projecting sources =>
    let out := w.commit.run connectionFailed s (project environment w sources s)
    -- The lock ends with the transaction.
    some (out.1.release, .done out.2)
  | .done _ => none

def projectOnce : Operation ProjectionStore ProjectionWorld where
  Request := Unit
  Local := ProjectState
  start _ := .locking
  step := projectStep environment before

/-! ## What runs beside it -/

def SourceRow.isBusiness : SourceRow → Bool
  | .outbox _ _ eventType _ _ => eventType ≠ .notificationDeliveryRequested
  | _ => true

inductive BusinessChange
  | insert (row : SourceRow)
  | update (id : RowId) (row : SourceRow)
  | addUser (recipient : Recipient)

def SourceRow.sameTable : SourceRow → SourceRow → Bool
  | .audit _ _ _ _, .audit _ _ _ _ => true
  | .outbox _ _ _ _ _, .outbox _ _ _ _ _ => true
  | .hosting _ _, .hosting _ _ => true
  | .email _ _ _ _, .email _ _ _ _ => true
  | .automation _ _, .automation _ _ => true
  | .registrar _ _ _, .registrar _ _ _ => true
  | _, _ => false

def businessChange (s : ProjectionStore) : BusinessChange → ProjectionStore
  | .insert row => if row.isBusiness then { s with rows := s.rows.insert row } else s
  | .update id row =>
    let written := s.rows.updateWhere
      (fun rowId old => rowId = id ∧ old.isBusiness ∧ row.isBusiness ∧ old.sameTable row) fun _ => row
    { s with rows := written }
  | .addUser recipient => { s with users := s.users.insert recipient }

inductive DeliveryChange
  | entry (id : RowId) (status : NotificationStatus) (completedAt : Option ℕ)
  | request (id : RowId) (status : OutboxStatus) (updatedAt : ℕ)
  | user (id : RowId) (recipient : Recipient)

def SourceRow.dispatched (status : OutboxStatus) (updatedAt : ℕ) : SourceRow → SourceRow
  | .outbox createdAt _ eventType payload _ => .outbox createdAt updatedAt eventType payload status
  | row => row

def deliveryChange (s : ProjectionStore) : DeliveryChange → ProjectionStore
  | .entry id status completedAt => { s with entries := s.entries.update id fun entry =>
      { entry with status := status, completedAt := completedAt } }
  | .request id status updatedAt =>
    let written := s.rows.updateWhere (fun rowId row => rowId = id ∧ row.isBusiness = false)
      (SourceRow.dispatched status updatedAt)
    { s with rows := written }
  | .user id recipient => { s with users := s.users.update id fun old =>
      { recipient with user := { recipient.user with role := old.user.role } } }

def committing {α : Type} (change : ProjectionStore → α → ProjectionStore) :
    Operation ProjectionStore ProjectionWorld where
  Request := α
  Local := Option α
  start := some
  step _ s
    | some a => some (change s a, none)
    | none => none

inductive ProjectionOperation
  | projectOnce
  | business
  | delivery

def projectionOperations :
    ProjectionOperation → Operation ProjectionStore ProjectionWorld
  | .projectOnce => projectOnce environment before
  | .business => committing businessChange
  | .delivery => committing deliveryChange

/-! ## What is noted -/

def reportedKey (entries : Table ProjectedEntry) (entry : ProjectedEntry) : Option NotificationKey :=
  match entry.sourceKey with
  | .source (.row .failedNotification id) => (entries.get? id).map fun reported => reported.key
  | _ => none

/-- A projection that was committed, by its sources and entries. -/
structure ProjectionNote where
  sources : List SourceKey
  entries : List (ProjectedEntry × Option NotificationKey)

def projectNotes (w : ProjectionWorld) (s : ProjectionStore) : ProjectState → List ProjectionNote
  | .projecting sources =>
    match w.commit, project environment w sources s with
    | .failed, _ | _, .error _ => []
    | _, .ok (s', _) => [⟨sources.map Source.key, (s'.entries.rows.drop s.entries.size).map
        fun entry => (entry, reportedKey s'.entries entry)⟩]
  | _ => []

def projectionNotes : (op : ProjectionOperation) → ProjectionWorld → ProjectionStore →
    (projectionOperations environment before op).Local → List ProjectionNote
  | .projectOnce => projectNotes environment
  | .business | .delivery => fun _ _ _ => []

abbrev tracedProjections :=
  tracedFamily (projectionOperations environment before) (projectionNotes environment before)

end

end NotificationProjectionService

end WebhostBilling
