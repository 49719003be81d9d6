import WebhostBilling.Store.Table

/-!
# The rows of the database

An identifier is the position of a row in its table, a moment is a number of milliseconds, and money
is a signed integer of minor units, so that an amount which would fall below zero is seen to do so.

The keys of outbox events and panel operations are template strings over identifiers of fixed
length; two of them agree only when the template and the identifiers do, so they are kept in parts.
-/

namespace WebhostBilling

abbrev RowId := ℕ

/-! ## Users and customers -/

inductive UserRole
  | admin
  | customer
deriving DecidableEq

inductive StaffRole
  | fullAdministrator
  | billingOperator
  | supportOperator
deriving DecidableEq

structure User where
  role : UserRole
  active : Bool := true
  deleted : Bool := false
  staffRole : Option StaffRole := none
  totpEnabledAt : Option ℕ := none
deriving DecidableEq

structure Customer where
  active : Bool := true
  deleted : Bool := false
  userId : RowId
  /-- The user's e-mail address is verified. -/
  emailVerified : Bool := false
deriving DecidableEq

/-! ## Invoices -/

inductive InvoiceStatus
  | draft
  | unpaid
  | paid
  | overdue
  | cancelled
  | refunded
  | partiallyRefunded
deriving DecidableEq

structure InvoiceItem where
  orderItemId : Option RowId := none
  serviceId : Option RowId := none
  descriptionSnapshot : String := ""
  quantity : ℤ := 1
  unitAmount : ℤ
  discountAmount : ℤ := 0
  taxAmount : ℤ := 0
  lineTotal : ℤ
  servicePeriodStart : Option ℕ := none
  servicePeriodEnd : Option ℕ := none
deriving DecidableEq

structure Invoice where
  submissionKey : String
  customerId : RowId
  orderId : Option RowId := none
  status : InvoiceStatus := .draft
  currency : String
  subtotal : ℤ
  discountTotal : ℤ := 0
  taxTotal : ℤ := 0
  total : ℤ
  creditTotal : ℤ := 0
  amountPaid : ℤ := 0
  balanceDue : ℤ
  issuedAt : Option ℕ := none
  dueAt : ℕ
  paidAt : Option ℕ := none
  cancelledAt : Option ℕ := none
  updatedAt : ℕ
  items : List InvoiceItem
deriving DecidableEq

def Invoice.payable (invoice : Invoice) : Prop :=
  invoice.status = .unpaid ∨ invoice.status = .overdue
deriving Decidable

def Invoice.renewalItems (invoice : Invoice) : List InvoiceItem :=
  invoice.items.filter fun item =>
    item.serviceId.isSome && item.servicePeriodStart.isSome && item.servicePeriodEnd.isSome

/-! ## Payments -/

inductive PaymentKind
  | charge
  | refund
  | reversal
deriving DecidableEq

inductive PaymentStatus
  | pending
  | succeeded
  | failed
  | cancelled
deriving DecidableEq

inductive ManualPaymentMethod
  | bankTransfer
  | mobileFinancialService
  | cash
  | other
deriving DecidableEq

structure Payment where
  invoiceId : RowId
  originalPaymentId : Option RowId := none
  createdByUserId : Option RowId := none
  reviewedByUserId : Option RowId := none
  kind : PaymentKind := .charge
  status : PaymentStatus := .pending
  provider : String
  providerTransactionId : Option String := none
  idempotencyKey : String
  amount : ℤ
  currency : String
  reference : Option String := none
  providerCheckoutUrl : Option String := none
  providerSessionExpiresAt : Option ℕ := none
  manualMethod : Option ManualPaymentMethod := none
  payerName : Option String := none
  note : Option String := none
  failureReason : Option String := none
  receivedAt : Option ℕ := none
  reviewedAt : Option ℕ := none
  verifiedAt : Option ℕ := none
deriving DecidableEq

inductive PaymentEventStatus
  | received
  | processed
  | ignored
  | failed
deriving DecidableEq

structure PaymentEvent where
  paymentId : Option RowId := none
  provider : String
  providerEventId : String
  eventType : String
  status : PaymentEventStatus := .received
  payloadHash : String
  errorMessage : Option String := none
  processedAt : Option ℕ := none
deriving DecidableEq

/-! ## Orders -/

inductive OrderStatus
  | pending
  | awaitingPayment
  | paid
  | processing
  | completed
  | rejected
  | cancelled
  | failed
deriving DecidableEq

structure Order where
  customerId : RowId
  status : OrderStatus := .pending
  completedAt : Option ℕ := none
  cancelledAt : Option ℕ := none
  updatedAt : ℕ
deriving DecidableEq

inductive ProductKind
  | hosting
  | domain
  | addOn
deriving DecidableEq

inductive BillingPeriod
  | oneTime
  | monthly
  | quarterly
  | semiannual
  | annual
  | biennial
  | triennial
deriving DecidableEq

structure OrderItem where
  orderId : RowId
  kind : ProductKind := .hosting
  billingPeriod : BillingPeriod := .monthly
  currency : String
  unitAmount : ℤ := 0
  quantity : ℤ := 1
  lineTotal : ℤ := 0
  requestedDomain : Option String := none
  linksExistingDomain : Bool := false
  fulfilledAt : Option ℕ := none
  renewalEndsAt : Option ℕ := none
deriving DecidableEq

/-! ## Services and the operations on their hosting accounts -/

inductive ServiceStatus
  | pending
  | provisioning
  | active
  | suspended
  | provisionFailed
  | cancelled
  | terminated
deriving DecidableEq

structure Service where
  customerId : RowId
  orderItemId : Option RowId := none
  serverId : RowId
  terminatedByUserId : Option RowId := none
  suspensionInvoiceId : Option RowId := none
  status : ServiceStatus := .pending
  domain : Option String := none
  controlPanelUsername : Option String := none
  externalAccountId : Option String := none
  provisioningModeReadable : Bool := true
  packageIdentifier : Option String := none
  billingPeriod : BillingPeriod := .monthly
  recurringAmount : ℤ := 0
  currency : String
  startedAt : ℕ
  nextDueAt : ℕ
  activatedAt : Option ℕ := none
  suspendedAt : Option ℕ := none
  suspensionReason : Option String := none
  provisioningFailureReason : Option String := none
  cancelledAt : Option ℕ := none
  cancellationReason : Option String := none
  terminatedAt : Option ℕ := none
  terminationReason : Option String := none
  updatedAt : ℕ
deriving DecidableEq

inductive ServerStatus
  | active
  | maintenance
  | disabled
deriving DecidableEq

structure Server where
  adapterKey : String
  status : ServerStatus := .active
  deletedAt : Option ℕ := none
  maxAccounts : Option ℕ := none
deriving DecidableEq

inductive HostingPanelOperationType
  | createAccount
  | getAccount
  | suspendAccount
  | unsuspendAccount
  | changePackage
  | changePassword
  | generateLoginUrl
  | terminateAccount
deriving DecidableEq

inductive HostingPanelOperationStatus
  | running
  | succeeded
  | failed
  | inconsistent
deriving DecidableEq

inductive HostingPanelErrorKind
  | temporary
  | permanent
  | inconsistent
deriving DecidableEq

inductive AutomationSource
  | invoice (invoiceId : RowId)
  | cancellation (cancellationId : RowId)
deriving DecidableEq

inductive AutomationAction
  | suspend
  | unsuspend
deriving DecidableEq

/-- The idempotency key of a panel operation: `hosting-operation:⟨submission key⟩` for an operation
an administrator or a customer asked for, `automation:⟨action⟩:⟨service⟩:⟨source⟩` with an optional
`:retry:⟨attempt⟩` for one of the worker's. -/
inductive OperationKey
  | hostingOperation (submissionKey : String)
  | automation (action : AutomationAction) (serviceId : RowId) (source : AutomationSource)
      (retry : Option ℕ)
deriving DecidableEq

inductive RequestMetadata
  | empty
  | reason (reason : String)
  | packageIdentifier (packageIdentifier : String)
  | secretInput
  | invoice (invoiceId : RowId)
  | cancellation (cancellationId : RowId)
deriving DecidableEq

structure HostingPanelOperation where
  serviceId : Option RowId
  serverId : RowId
  requestedByUserId : Option RowId := none
  automationRunId : Option RowId := none
  retryOfOperationId : Option RowId := none
  type : HostingPanelOperationType
  status : HostingPanelOperationStatus := .running
  adapterKey : String
  idempotencyKey : OperationKey
  requestFingerprint : String
  attemptNumber : ℕ := 1
  requestMetadata : RequestMetadata := .empty
  retryable : Bool := false
  errorKind : Option HostingPanelErrorKind := none
  errorCode : Option String := none
  errorMessage : Option String := none
  completedAt : Option ℕ := none
deriving DecidableEq

inductive HostingCancellationTiming
  | immediate
  | endOfPeriod
deriving DecidableEq

inductive HostingCancellationStatus
  | opened
  | completed
  | withdrawn
deriving DecidableEq

structure HostingCancellationRequest where
  serviceId : RowId
  status : HostingCancellationStatus := .opened
  reason : Option String := none
  effectiveAt : Option ℕ := none
  approvedAt : Option ℕ := none
  resolvedAt : Option ℕ := none
deriving DecidableEq

/-- `hosting_cancellation_requests_timing_check` determines the column `timing`. -/
def HostingCancellationRequest.timing (request : HostingCancellationRequest) :
    HostingCancellationTiming :=
  if request.effectiveAt.isSome = true then .endOfPeriod else .immediate

/-! ## Domains -/

inductive DomainOrigin
  | registration
  | existing
deriving DecidableEq

inductive DomainState
  | awaitingPayment
  | awaitingApproval
  | pending
  | needsReconciliation
  | registered
  | failed
deriving DecidableEq

/-- The outcome of the domain's registration is known. -/
def DomainState.resolved (state : DomainState) : Prop := state = .registered ∨ state = .failed
deriving Decidable

inductive RegistrarVerification
  | pending
  | verified
deriving DecidableEq

structure Domain where
  customerId : RowId
  orderItemId : Option RowId := none
  invoiceId : Option RowId := none
  origin : DomainOrigin := .registration
  state : DomainState := .awaitingPayment
  quoteId : Option RowId := none
  accountId : RowId := 0
  executionAccountId : Option RowId := none
  linkCredentialId : Option RowId := none
  domainName : String := ""
  providerOrderId : Option String := none
  expiresAt : Option ℕ := none
  verification : RegistrarVerification := .pending
deriving DecidableEq

def Domain.effectiveAccount (domain : Domain) : RowId :=
  domain.executionAccountId.getD domain.accountId

structure ExistingDomainOrder where
  domainId : RowId
  orderItemId : RowId
deriving DecidableEq

structure RegistrarOperation where
  domainId : RowId
  claimedAt : Option ℕ := none
  nextPollAt : ℕ
  pollCount : ℕ := 0
  accountId : RowId := 0
  credentialId : RowId := 0
  selectedAccountId : Option RowId := none
  selectedCredentialId : Option RowId := none
  actorUserId : RowId := 0
  costCeiling : ℤ := 0
  priceChangeRiskAccepted : Bool := false
deriving DecidableEq

def RegistrarOperation.effectiveAccount (operation : RegistrarOperation) : RowId :=
  operation.selectedAccountId.getD operation.accountId

/-! ## Registrars -/

inductive RegistrarMode
  | fake
  | live
deriving DecidableEq

/-- The configuration of a live account: `registrarConnectionIdentitySchema`, or the older
`resellbizConfigurationSchema` with its nameservers. -/
inductive RegistrarConfiguration
  | connection (resellerId : String)
  | resellbiz (resellerId : String) (nameservers : List String)
deriving DecidableEq

def RegistrarConfiguration.resellerId : RegistrarConfiguration → String
  | .connection resellerId => resellerId
  | .resellbiz resellerId _ => resellerId

structure RegistrarAccount where
  provider : String := "stargate"
  mode : RegistrarMode := .fake
  enabled : Bool := false
  configuration : Option RegistrarConfiguration := none
  nativeCostConfirmed : Bool := false
deriving DecidableEq

structure RegistrarCredential where
  accountId : RowId
  version : ℕ := 1
  readable : Bool := true
  /-- The reseller that the secret names, when `resellbizCredentialSchema` accepts it. -/
  resellerId : Option String := none
deriving DecidableEq

structure DomainQuote where
  customerId : RowId
  accountId : RowId
  domainName : String
  costAmount : ℤ
  agreement : String
  nameservers : Option (List String) := none
  eligibleRegistrars : Option (List RowId) := none
  contactReadable : Bool := true
deriving DecidableEq

inductive RegistrarEvidenceCode
  | fullAdminMfaApproved
  | paymentOrOwnerIneligible
  | dispatchClaimed
  | preDispatchConflict
  | mutationResponseReceived
  | mutationOutcomeUncertain
  | readOutcomeUncertain
  | ownershipAndExpiryConfirmed
  | providerRejected
  | manualReconciliationRequired
deriving DecidableEq

structure RegistrarEvidence where
  operationId : RowId
  code : RegistrarEvidenceCode
deriving DecidableEq

/-! ## Changes to registered domains -/

structure RegistrarContact where
  name : String
  company : String
  email : String
  address : String
  addressLine2 : Option String := none
  city : String
  region : String
  postalCode : String
  country : String
  phoneCountryCode : String
  phone : String
  publishOrganization : Bool := false
deriving DecidableEq

inductive DomainActionKind
  | nameservers
  | lock
  | contact
  | renew
deriving DecidableEq

inductive DomainActionRequest
  | nameservers (nameservers : List String)
  | lock (locked : Bool)
  | contact (contact : RegistrarContact)
  | renew (sellingAmount costCeiling : ℤ) (catalogueRevision : Option ℕ)
deriving DecidableEq

def DomainActionRequest.kind : DomainActionRequest → DomainActionKind
  | .nameservers _ => .nameservers
  | .lock _ => .lock
  | .contact _ => .contact
  | .renew _ _ _ => .renew

inductive DomainActionState
  | requested
  | needsReconciliation
  | succeeded
  | cancelled
  | failed
deriving DecidableEq

def DomainActionState.terminal (state : DomainActionState) : Prop :=
  state = .succeeded ∨ state = .cancelled ∨ state = .failed
deriving Decidable

structure DomainAction where
  domainId : RowId
  customerId : RowId
  accountId : RowId
  credentialId : RowId
  actorUserId : RowId
  request : DomainActionRequest
  previousExpiry : ℕ
  invoiceId : Option RowId := none
  state : DomainActionState := .requested
  claimedAt : Option ℕ := none
  contactClaimedAt : Option ℕ := none
  submittedAt : Option ℕ := none
  remoteContactId : Option String := none
  nextPollAt : ℕ
  pollCount : ℕ := 0
deriving DecidableEq

/-! ## The worker's runs -/

inductive EmailStatus
  | queued
  | sending
  | sent
  | failed
deriving DecidableEq

inductive AutomationStatus
  | running
  | succeeded
  | partiallySucceeded
  | failed
  | skipped
deriving DecidableEq

inductive AutomationRunKey
  | renewalCycle (date : String)
  | renewalPayment (paymentId : RowId)
deriving DecidableEq

structure AutomationRun where
  idempotencyKey : AutomationRunKey
  status : AutomationStatus := .running
deriving DecidableEq

/-! ## The outbox -/

inductive OutboxStatus
  | pending
  | processing
  | published
  | failed
deriving DecidableEq

inductive AggregateType
  | payment
  | invoice
  | order
  | service
  | automationRun
  | user
  | ticket
  | notification
  | registrarOperation
deriving DecidableEq

/-- The event types that the worker knows a queue for; `other` is any other text. -/
inductive OutboxEventType
  | notificationDeliveryRequested
  | domainRegistrationRequested
  | domainRegistrationReconcile
  | authEmailVerificationRequested
  | authPasswordResetRequested
  | authCustomerEmailCodeRequested
  | emailOrderReceived
  | emailOrderApproved
  | emailPaymentReceived
  | emailInvoiceCreated
  | emailRenewalReminder
  | emailOverdueNotice
  | emailServiceProvisioned
  | emailServiceSuspended
  | emailServiceReactivated
  | emailHostingCancellationRequested
  | emailTicketReply
  | gatewayPaymentSucceeded
  | gatewayPaymentFailed
  | hostingProvisioningRequested
  | hostingSuspensionRequested
  | hostingCancellationSuspensionRequested
  | hostingUnsuspensionRequested
  | hostingStatusReconciliationRequested
  | paymentReconciliationRequested
  | renewalInvoiceGenerationRequested
  | renewalPaymentCompleted
  | other (eventType : String)
deriving DecidableEq

/-- The payload of an outbox event; every variant but `gatewayPayment` carries schema version 1. -/
inductive OutboxPayload
  | payment (paymentId invoiceId : RowId)
  | gatewayPayment (paymentId invoiceId : RowId) (provider providerEventId : String)
      (providerTransactionId : Option String) (amount : ℤ) (currency : String)
  | invoice (invoiceId : RowId)
  | renewalReminder (invoiceId : RowId) (reminderNumber : ℕ)
  | order (orderId : RowId)
  | service (serviceId : RowId)
  | hostingAutomation (serviceId invoiceId automationRunId : RowId)
  | hostingCancellation (serviceId cancellationId : RowId)
  | cancellation (cancellationId : RowId)
  | renewalCycle (automationRunId : RowId)
  | registrarOperation (operationId : RowId)
  | unreadable
deriving DecidableEq

/-- The idempotency key of an outbox event, taken apart into its template and its identifiers. -/
inductive OutboxKey
  | emailPaymentReceived (paymentId : RowId)
  | renewalPayment (paymentId : RowId)
  | paymentWebhook (paymentEventId : RowId)
  | emailInvoiceCreated (invoiceId : RowId)
  | emailRenewalReminder (invoiceId : RowId) (days : ℕ)
  | emailOverdueNotice (invoiceId : RowId)
  | emailOrderApproved (orderId : RowId) (updatedAt : ℕ)
  | emailService (operationId : RowId)
  | emailServiceTransition (serviceId : RowId) (updatedAt : ℕ) (status : ServiceStatus)
  | automationSuspend (serviceId invoiceId : RowId)
  | automationUnsuspend (serviceId invoiceId : RowId)
  | emailHostingCancellation (cancellationId : RowId)
  | hostingCancellation (cancellationId : RowId)
  | hostingCancellationDeferred (outboxEventId : RowId)
  | renewalCycle (automationRunId : RowId)
  | domainRegistration (operationId : RowId) (uuid : ℕ)
  | domainReconcile (operationId : RowId) (uuid : ℕ)
deriving DecidableEq

structure OutboxEvent where
  aggregateType : AggregateType
  aggregateId : RowId
  eventType : OutboxEventType
  idempotencyKey : OutboxKey
  payload : OutboxPayload
  status : OutboxStatus := .pending
  attemptCount : ℕ := 0
  availableAt : ℕ := 0
  lockedAt : Option ℕ := none
  lockedBy : Option String := none
  publishedAt : Option ℕ := none
  lastError : Option String := none
deriving DecidableEq

end WebhostBilling
