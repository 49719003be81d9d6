import WebhostBilling.Notifications.NotificationCatalog
import WebhostBilling.Outbox.BackgroundWorker
import WebhostBilling.Store.Commit

/-!
# The delivery of notifications

In one transaction, which locks the recipient and the entry, `deliver` decides what becomes of the
entry.  A WhatsApp message in live mode is only claimed there, and handed to the provider after the
commit.

The row of the recipient's customer and the rows that the notification is about are not locked: a
step is told what the transaction has read of them.
-/

namespace WebhostBilling

open Store Concurrency Notification

namespace NotificationDeliveryService

/-! ## Rows -/

structure NotificationPreference where
  whatsAppEnabled : Bool := true
  phoneCiphertext : Option String := none

/-- What is written only under the lock on the row of the user: the row, its administrator's profile
and its preference. -/
structure NotificationUser where
  email : String
  role : UserRole
  /-- `status === 'ACTIVE'` -/
  active : Bool := true
  emailVerifiedAt : Option ℕ := none
  deletedAt : Option ℕ := none
  staffRole : Option StaffRole := none
  preference : Option NotificationPreference := none

structure NotificationCustomer where
  id : RowId
  /-- `status === 'ACTIVE'` -/
  active : Bool := true
  deletedAt : Option ℕ := none
  phone : Option String := none
  countryCode : Option String := none

structure NotificationEntry where
  key : String
  channel : NotificationChannel
  status : NotificationStatus := .disabled
  attemptCount : ℕ := 0
  failureCode : Option String := none
  metadata : NotificationMetadata := {}
  completedAt : Option ℕ := none

/-- An entry, its user and its job. -/
structure NotificationStore where
  user : NotificationUser
  entry : NotificationEntry
  job : BackgroundJob
  /-- How often the job was taken, which is the token of whoever takes it next. -/
  deliveries : ℕ := 0

/-! ## What a step is told -/

structure NotificationPayload where
  notificationId : Option RowId
  schemaVersion : Option ℕ
  otherKeys : Bool := false

structure NotificationEvent where
  eventType : OutboxEventType
  aggregateType : AggregateType
  aggregateId : RowId
  status : OutboxStatus
  payload : NotificationPayload

structure InvoiceReference where
  customerId : RowId
  invoiceNumber : String
  issuedAt : Option ℕ
  status : InvoiceStatus
  balanceDue : ℤ
  currency : String
  dueAt : ℕ
  serviceStatuses : List (Option ServiceStatus)

structure ServiceReference where
  customerId : RowId
  status : ServiceStatus

structure DomainReference where
  customerId : RowId
  expiresAt : Option ℕ
  state : DomainState

structure TicketReference where
  customerId : RowId
  urgent : Bool

/-- The rows that the entry's metadata refers to, as far as they are found, and the policy. -/
structure NotificationReferences where
  invoice : Option InvoiceReference := none
  service : Option ServiceReference := none
  domain : Option DomainReference := none
  ticket : Option TicketReference := none
  payment : Option PaymentStatus := none
  policyEnabled : Bool := true
  gracePeriodDays : ℕ := 7
  timeZone : String := "Asia/Dhaka"

inductive WhatsAppSendResult
  | previewed
  | disabled
  | accepted (providerMessageId : String)

/-- The kind of a `WhatsAppProviderError`; any other error counts as `UNKNOWN`. -/
inductive WhatsAppErrorKind
  | configuration
  | rejected
  | unknown
deriving DecidableEq

structure NotificationWorld where
  now : ℕ := 0
  event : Option NotificationEvent := none
  customer : Option NotificationCustomer := none
  references : NotificationReferences := {}
  brandName : Option String := none
  previewed : Bool := true
  submitted : Except WhatsAppErrorKind WhatsAppSendResult := .error .unknown
  commit : Commit := .answered

structure WorkerEnvironment where
  deliveryMode : NotificationDeliveryMode
  whatsAppLiveEnabled : Bool
  /-- `whatsApp.key` -/
  whatsAppKey : String
  brandName : String
  publicWebUrl : String
  /-- `new URL(path, publicWebUrl).toString()` -/
  urlOf : String → String
  encrypt : String → String
  decrypt : String → Option String
  /-- `notificationDestinationFingerprint` under the worker's key. -/
  fingerprint : String → String
  businessDate : String → ℕ → ℕ
  /-- `Intl.DateTimeFormat('en-GB', ...)` -/
  formatDate : ℕ → String

/-! ## Who is told, and where -/

section

variable (environment : WorkerEnvironment)

def recipientSuppressed (key : NotificationKey) (user : NotificationUser)
    (customer : Option NotificationCustomer) : Bool :=
  user.emailVerifiedAt = none ∨ user.active = false ∨ user.deletedAt.isSome ∨
    user.role ≠ (notificationDefinition key).audience ∨
    (user.role = .customer ∧
      customer.any (fun customer => customer.active ∧ customer.deletedAt = none) = false) ∨
    (user.role = .admin ∧ key ≠ .adminSecurityAlert ∧ user.staffRole ≠ some .fullAdministrator)

def isInvoiceKey (key : NotificationKey) : Bool :=
  key ∈ [.clientInvoiceIssued, .clientOverdueNotice, .adminInvoiceIssued, .adminOverdueNotice,
    .clientFinalWarning]

def invoiceSuppressed (key : NotificationKey) (user : NotificationUser)
    (customer : Option NotificationCustomer) (metadata : NotificationMetadata)
    (references : NotificationReferences) (now : ℕ) : Bool :=
  match metadata.invoiceId.bind fun _ => references.invoice with
  | none => true
  | some invoice =>
    (user.role = .customer ∧ some invoice.customerId ≠ customer.map (·.id)) ∨
    invoice.issuedAt = none ∨ invoice.status = .draft ∨ invoice.status = .cancelled ∨
    (key ∉ [.clientInvoiceIssued, .adminInvoiceIssued] ∧
      (invoice.balanceDue ≤ 0 ∨ invoice.status ∉ [.unpaid, .overdue])) ∨
    (key = .clientFinalWarning ∧
      let suspensionDate := environment.businessDate references.timeZone invoice.dueAt +
        (references.gracePeriodDays + 1)
      references.policyEnabled = false ∨ metadata.suspensionDate ≠ some suspensionDate ∨
      suspensionDate ≤ environment.businessDate references.timeZone now ∨
      some ServiceStatus.active ∉ invoice.serviceStatuses)

def referenceSuppressed (key : NotificationKey) (user : NotificationUser)
    (customer : Option NotificationCustomer) (metadata : NotificationMetadata)
    (references : NotificationReferences) (now : ℕ) : Bool :=
  (isInvoiceKey key ∧ invoiceSuppressed environment key user customer metadata references now) ∨
  (key ∈ [.clientServiceSuspended, .clientServiceRestored] ∧
    (metadata.serviceId.bind fun _ => references.service).all fun service =>
      some service.customerId ≠ customer.map (·.id) ∨
      service.status ≠ if key = .clientServiceSuspended then .suspended else .active) ∨
  (key ∈ [.clientDomainRenewalReminder, .clientDomainExpiryWarning] ∧
    (metadata.domainId.bind fun _ => references.domain).all fun domain =>
      some domain.customerId ≠ customer.map (·.id) ∨ domain.expiresAt ≠ metadata.expiresAt ∨
      domain.state ≠ .registered) ∨
  (key ∈ [.clientUrgentSupport, .adminUrgentSupport] ∧
    (metadata.ticketId.bind fun _ => references.ticket).all fun ticket =>
      ticket.urgent = false ∨
      (user.role = .customer ∧ some ticket.customerId ≠ customer.map (·.id))) ∨
  (key = .adminPaymentReview ∧
    (metadata.paymentId.bind fun _ => references.payment) ≠ some .pending)

/-- The number a WhatsApp message goes to; a preference replaces that of the account. -/
def whatsAppDestination (user : NotificationUser) (customer : Option NotificationCustomer) : String :=
  match user.preference.bind fun preference => preference.phoneCiphertext with
  | none | some "" =>
    (normalizeNotificationPhone (customer.bind fun customer => customer.phone)
      (customer.bind fun customer => customer.countryCode)).getD ""
  | some ciphertext => (environment.decrypt ciphertext).getD ""

def destinationOf (channel : NotificationChannel) (user : NotificationUser)
    (customer : Option NotificationCustomer) : String :=
  match channel with
  | .email => user.email
  | .whatsApp => whatsAppDestination environment user customer

def channelSuppressed (key : NotificationKey) (channel : NotificationChannel)
    (user : NotificationUser) (destination : String) : Bool :=
  match channel with
  | .email => (notificationDefinition key).existingEmail
  | .whatsApp =>
    environment.whatsAppKey ∉ ["preview", "meta"] ∨
    (environment.deliveryMode = .preview ∧ environment.whatsAppKey ≠ "preview") ∨
    (notificationDefinition key).whatsApp = false ∨
    user.preference.any (fun preference => preference.whatsAppEnabled = false) ∨
    normalizeNotificationPhone (some destination) none = none

def suppressed (key : NotificationKey) (entry : NotificationEntry) (user : NotificationUser)
    (w : NotificationWorld) : Bool :=
  recipientSuppressed key user w.customer ∨
  referenceSuppressed environment key user w.customer entry.metadata w.references w.now ∨
  channelSuppressed environment key entry.channel user
    (destinationOf environment entry.channel user w.customer) ∨
  entry.metadata.destinationFingerprint ≠
    some (environment.fingerprint (destinationOf environment entry.channel user w.customer))

def modeAllows (channel : NotificationChannel) : Bool :=
  environment.deliveryMode = .preview ∨
    (channel = .whatsApp ∧ environment.deliveryMode = .live ∧
      environment.whatsAppLiveEnabled = true ∧ environment.whatsAppKey = "meta")

def deliverable (job : BackgroundJob) (entry : NotificationEntry) : Bool :=
  entry.status = .queued ∨
    (entry.status = .failed ∧ environment.deliveryMode = .preview ∧
      environment.whatsAppKey = "preview" ∧ job.failureKind = some .temporary ∧
      job.manualRetryAllowed = true)

/-! ## The message -/

structure WhatsAppNotificationMessage where
  id : RowId
  key : NotificationKey
  recipient : String
  text : String
  brandName : String
  reference : String
  detail : String
  publicWebUrl : String

def summaryCounts (metadata : NotificationMetadata) : String :=
  "\n".intercalate [s!"Pending orders: {metadata.pendingOrders}",
    s!"Overdue invoices: {metadata.overdueInvoices}",
    s!"Failed operations: {metadata.failedOperations}",
    s!"Expiring domains: {metadata.expiringDomains}"]

/-- `decimalBdt` -/
def decimalBdt (value : ℤ) : String :=
  let cents := toString (value.tmod 100)
  s!"{value.tdiv 100}." ++ if cents.length < 2 then "0" ++ cents else cents

def whatsAppMessage (id : RowId) (key : NotificationKey) (entry : NotificationEntry)
    (destination : String) (w : NotificationWorld) : WhatsAppNotificationMessage :=
  let definition := notificationDefinition key
  let brandName := w.brandName.getD environment.brandName
  let counts := if key = .adminDailySummary then summaryCounts entry.metadata else ""
  let invoice := entry.metadata.invoiceId.bind fun _ => w.references.invoice
  { id := id
    key := key
    recipient := destination
    text := s!"{brandName}\n\n{definition.label}\n\n{definition.description}\n{counts}\n" ++
      s!"Sign in to view details: {environment.urlOf definition.path}\n\n" ++
      "Local preview only. No message was delivered externally."
    brandName := brandName
    reference := invoice.elim (toString id) fun invoice => invoice.invoiceNumber
    detail := invoice.elim definition.description fun invoice =>
      s!"Balance due: {invoice.currency} {decimalBdt invoice.balanceDue}; " ++
        s!"due {environment.formatDate invoice.dueAt}"
    publicWebUrl := environment.publicWebUrl }

/-! ## The transaction -/

def checkEvent (job : BackgroundJobData) (event : Option NotificationEvent) :
    Except Failure RowId := do
  let event ← orThrow (.job .permanent "NOTIFICATION_REFERENCE_INVALID") event
  require (event.eventType = .notificationDeliveryRequested ∧ job.eventType = event.eventType ∧
      event.aggregateId = job.aggregateId ∧ job.aggregateType = .notification ∧
      event.aggregateType = .notification)
    (.job .permanent "NOTIFICATION_REFERENCE_INVALID")
  require (event.status = .published)
    (.job (if event.status = .failed then .permanent else .temporary) "NOTIFICATION_NOT_PUBLISHED")
  require (event.payload.notificationId = some event.aggregateId ∧
      event.payload.schemaVersion = some 1 ∧ event.payload.otherKeys = false)
    (.job .permanent "NOTIFICATION_PAYLOAD_INVALID")
  return event.aggregateId

inductive Delivered
  | nothing
  | submission (message : WhatsAppNotificationMessage) (metadata : NotificationMetadata)
  | previewFailed

def NotificationEntry.closed (status : NotificationStatus) (now : ℕ) (entry : NotificationEntry) :
    NotificationEntry :=
  { entry with status := status, completedAt := some now }

def NotificationEntry.claimed (entry : NotificationEntry) : NotificationEntry :=
  { entry with status := .submitting, attemptCount := entry.attemptCount + 1, failureCode := none }

def NotificationEntry.previewed (now : ℕ) (entry : NotificationEntry) : NotificationEntry :=
  { entry with
    status := .previewed
    attemptCount := entry.attemptCount + 1
    completedAt := some now
    failureCode := none }

def NotificationEntry.previewFailed (now : ℕ) (entry : NotificationEntry) : NotificationEntry :=
  let attemptCount := entry.attemptCount + 1
  { entry with
    attemptCount := attemptCount
    status := if 5 ≤ attemptCount then .failed else .queued
    failureCode := some "NOTIFICATION_PREVIEW_UNAVAILABLE"
    completedAt := if 5 ≤ attemptCount then some now else entry.completedAt }

variable (w : NotificationWorld)

def deliverTransaction (job : BackgroundJob) (s : NotificationStore) :
    Except Failure (NotificationStore × Delivered) := do
  let id ← checkEvent job.data w.event
  if deliverable environment job s.entry = false then return (s, .nothing)
  else
    let key ← orThrow (.job .permanent "NOTIFICATION_KEY_INVALID") (notificationKeySchema s.entry.key)
    if suppressed environment key s.entry s.user w = true then
      return ({ s with entry := s.entry.closed .suppressed w.now }, .nothing)
    else if modeAllows environment s.entry.channel = false then
      return ({ s with entry := s.entry.closed .disabled w.now }, .nothing)
    else if s.entry.channel = .whatsApp ∧ environment.deliveryMode = .live then
      -- Commit a durable claim before touching the network.
      return ({ s with entry := s.entry.claimed }, .submission
        (whatsAppMessage environment id key s.entry
          (destinationOf environment s.entry.channel s.user w.customer) w) s.entry.metadata)
    else if w.previewed = true then
      return ({ s with entry := s.entry.previewed w.now }, .nothing)
    else return ({ s with entry := s.entry.previewFailed w.now }, .previewFailed)

/-! ## The submission -/

def WhatsAppErrorKind.code : WhatsAppErrorKind → String
  | .configuration => "WHATSAPP_CONFIGURATION"
  | .rejected => "WHATSAPP_REJECTED"
  | .unknown => "WHATSAPP_UNKNOWN"

def submissionOutcome : Except WhatsAppErrorKind WhatsAppSendResult →
    Except WhatsAppErrorKind (Option String)
  | .ok .previewed => .error .unknown
  | .ok .disabled => .ok none
  | .ok (.accepted providerMessageId) => .ok (some providerMessageId)
  | .error kind => .error kind

def NotificationEntry.submitted (metadata : NotificationMetadata)
    (outcome : Except WhatsAppErrorKind (Option String)) (now : ℕ) (entry : NotificationEntry) :
    NotificationEntry :=
  match outcome with
  | .ok none => { entry with status := .disabled, completedAt := some now, failureCode := none }
  | .ok (some providerMessageId) => { entry with
      status := .accepted
      completedAt := some now
      failureCode := none
      metadata := { metadata with
        provider := some "meta"
        providerMessageId := some providerMessageId } }
  | .error kind => { entry with
      status := if kind = .unknown then .unknown else .failed
      completedAt := some now
      failureCode := some kind.code }

/-- `updateMany` where the status is `SUBMITTING`. -/
def recordSubmission (metadata : NotificationMetadata)
    (outcome : Except WhatsAppErrorKind (Option String)) (now : ℕ) (s : NotificationStore) :
    NotificationStore :=
  if s.entry.status = .submitting then { s with entry := s.entry.submitted metadata outcome now }
  else s

inductive DeliverState
  | taking
  | opening (token : ℕ) (job : BackgroundJob)
  | submitting (token : ℕ) (message : WhatsAppNotificationMessage) (metadata : NotificationMetadata)
  | recording (token : ℕ) (metadata : NotificationMetadata)
      (outcome : Except WhatsAppErrorKind (Option String))
  | settling (token : ℕ) (result : Except Failure Unit)
  | done

def connectionFailed : Failure := .error "P1017"

/-- What `deliver` goes on with after its transaction. -/
def afterTransaction (token : ℕ) : Except Failure Delivered → DeliverState
  | .ok .nothing => .settling token (.ok ())
  | .ok (.submission message metadata) => .submitting token message metadata
  | .ok .previewFailed =>
    .settling token (.error (.job .temporary "NOTIFICATION_PREVIEW_UNAVAILABLE"))
  | .error e => .settling token (.error e)

def afterRecording (token : ℕ) (metadata : NotificationMetadata)
    (outcome : Except WhatsAppErrorKind (Option String)) : Except Failure Unit → DeliverState
  | .ok _ => .settling token (.ok ())
  | .error e => match outcome with
    | .ok _ => .recording token metadata (.error .unknown)
    | .error _ => .settling token (.error e)

def deliverStep (s : NotificationStore) :
    DeliverState → Option (NotificationStore × DeliverState)
  | .taking =>
    if BackgroundWorker.takeable s.job then
      some ({ s with job := { s.job with state := .active }, deliveries := s.deliveries + 1 },
        .opening (s.deliveries + 1) s.job)
    else some (s, .done)
  | .opening token job =>
    let out := w.commit.run connectionFailed s (deliverTransaction environment w job s)
    some (out.1, afterTransaction token out.2)
  | .submitting token _ metadata =>
    some (s, .recording token metadata (submissionOutcome w.submitted))
  | .recording token metadata outcome =>
    let out := w.commit.run connectionFailed s
      (.ok (recordSubmission metadata outcome w.now s, ()))
    some (out.1, afterRecording token metadata outcome out.2)
  | .settling token result =>
    -- A worker that has lost the job cannot end it.
    if s.job.state = .active ∧ s.deliveries = token then
      some ({ s with job := BackgroundWorker.settledJob result s.job }, .done)
    else some (s, .done)
  | .done => none

def deliver : Operation NotificationStore NotificationWorld where
  Request := Unit
  Local := DeliverState
  start _ := .taking
  step := deliverStep environment

/-! ## What runs beside it -/

inductive RetryState
  | read
  | retry
  | done (result : Except Failure Unit)

def retryStep (_ : NotificationWorld) (s : NotificationStore) :
    RetryState → Option (NotificationStore × RetryState)
  | .read =>
    if BackgroundJobService.retryable s.job then some (s, .retry)
    else some (s, .done (.error (BackgroundJobService.conflict
      "Only failed jobs classified as temporarily retryable may be retried.")))
  | .retry =>
    if s.job.state = .failed then
      some ({ s with job := { s.job with state := .waiting } }, .done (.ok ()))
    else some (s, .done (.error (.error "Job is not in the failed state")))
  | .done _ => none

/-- `BackgroundJobService.retryQueueJob` for the job of the entry. -/
def retryQueueJob : Operation NotificationStore NotificationWorld where
  Request := Unit
  Local := RetryState
  start _ := .read
  step := retryStep

structure NotificationPreferencesRequest where
  whatsAppEnabled : Bool
  phone : Option String := none

/-- `NotificationService.update`: the transaction locks the row of the user. -/
def updatePreferences (request : NotificationPreferencesRequest) (now : ℕ) (s : NotificationStore) :
    NotificationStore :=
  let preference := s.user.preference.getD {}
  let closes := s.entry.channel = .whatsApp ∧ s.entry.status = .queued ∧
    (request.whatsAppEnabled = false ∨ request.phone.isSome)
  { s with
    user := { s.user with preference := some { preference with
      whatsAppEnabled := request.whatsAppEnabled
      phoneCiphertext := match request.phone with
        | some phone => some (environment.encrypt phone)
        | none => preference.phoneCiphertext } }
    entry := if closes then s.entry.closed .suppressed now else s.entry }

def preferencesStep (s : NotificationStore) :
    Option NotificationPreferencesRequest →
      Option (NotificationStore × Option NotificationPreferencesRequest)
  | some request => some (updatePreferences environment request w.now s, none)
  | none => none

def preferences : Operation NotificationStore NotificationWorld where
  Request := NotificationPreferencesRequest
  Local := Option NotificationPreferencesRequest
  start := some
  step := preferencesStep environment

/-- Whatever else writes the row of the user or its profile leaves the preference. -/
def userStep (_ : NotificationWorld) (s : NotificationStore) :
    Option NotificationUser → Option (NotificationStore × Option NotificationUser)
  | some user => some ({ s with user := { user with preference := s.user.preference } }, none)
  | none => none

def changeUser : Operation NotificationStore NotificationWorld where
  Request := NotificationUser
  Local := Option NotificationUser
  start := some
  step := userStep

inductive NotificationOperation
  | deliver
  | retryQueueJob
  | preferences
  | changeUser
deriving DecidableEq

def notificationOperations : NotificationOperation → Operation NotificationStore NotificationWorld
  | .deliver => deliver environment
  | .retryQueueJob => retryQueueJob
  | .preferences => preferences environment
  | .changeUser => changeUser

/-! ## What is noted -/

/-- A claim of the entry, or a submission. -/
inductive NotificationNote
  | claim (user : NotificationUser) (customer : Option NotificationCustomer)
      (entry : NotificationEntry) (message : WhatsAppNotificationMessage)
  | send (message : WhatsAppNotificationMessage) (status : NotificationStatus)

def deliverNotes (s : NotificationStore) :
    DeliverState → List NotificationNote
  | .opening _ job => match w.commit.run connectionFailed s (deliverTransaction environment w job s)
    with
    | (_, .ok (.submission message _)) => [.claim s.user w.customer s.entry message]
    | _ => []
  | .submitting _ message _ => [.send message s.entry.status]
  | _ => []

def notificationNotes : (op : NotificationOperation) → NotificationWorld → NotificationStore →
    (notificationOperations environment op).Local → List NotificationNote
  | .deliver => deliverNotes environment
  | .retryQueueJob | .preferences | .changeUser => fun _ _ _ => []

abbrev tracedNotifications :=
  tracedFamily (notificationOperations environment) (notificationNotes environment)

end

end NotificationDeliveryService

end WebhostBilling
