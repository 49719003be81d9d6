import WebhostBilling.Database.Schema

/-!
# What a step is told from outside

A step of a thread may look at the clock and may get an answer from a remote party.  Which answer
it gets is not up to the code, so a step takes a `World` and every theorem is about all of them.
-/

namespace WebhostBilling

/-! ## Payment providers -/

structure GatewayPaymentSession where
  providerSessionId : String
  checkoutUrl : String
  expiresAt : ℕ

inductive GatewayStatus
  | pending
  | succeeded
  | failed
  | refunded
deriving DecidableEq

structure GatewayTransactionStatus where
  providerTransactionId : Option String
  status : GatewayStatus
  amount : ℤ
  currency : String
  occurredAt : ℕ
  failureReason : Option String

/-! ## Hosting panels -/

inductive HostingAccountState
  | active
  | suspended
  | missing
deriving DecidableEq

structure HostingAccount where
  externalAccountId : String
  username : String
  domain : String
  state : HostingAccountState

/-- What an adapter of the API throws, or `normalizeHostingPanelError` makes of what it throws. -/
structure HostingPanelProviderError where
  kind : HostingPanelErrorKind
  code : String
  message : String

/-- What `callProvider` returns. -/
structure ProviderSuccess where
  account : Option HostingAccount := none
  loginUrl : Option String := none

structure PanelAutomationError where
  kind : HostingPanelErrorKind
  code : String

/-! ## Registrars -/

structure RegistrarError where

structure RegistrarQuote where
  available : Bool
  costAmount : ℤ
  costCurrency : String
  simulated : Bool
deriving DecidableEq

inductive RegistrarObservedState
  | active
  | inactive
  | rejected

structure RegistrarObservation where
  orderId : String
  accountId : RowId
  customerId : RowId
  operationId : RowId
  domainName : String
  state : RegistrarObservedState
  expiresAt : Option ℕ
  verification : RegistrarVerification

structure ResellbizManagedState where
  nameservers : List String
  locked : Bool
  expiresAt : ℕ
  verification : RegistrarVerification
  registrantContactId : String
  adminContactId : String
  techContactId : String
  billingContactId : String
deriving DecidableEq

def ResellbizManagedState.contactIds (state : ResellbizManagedState) : List String :=
  [state.registrantContactId, state.adminContactId, state.techContactId, state.billingContactId]

structure DomainCatalogueTld where
  renewalAmount : Option ℤ
  revision : ℕ

/-! ## Remote stores and services -/

inductive Delivery
  | acknowledged
  | unacknowledged
  | refused
deriving DecidableEq

def Delivery.carriedOut : Delivery → Bool
  | .acknowledged | .unacknowledged => true
  | .refused => false

/-- The clock and the answers that a step gets from outside. -/
structure World where
  now : ℕ := 0
  /-- The answer to `createPaymentSession`. -/
  gatewaySession : Except Failure GatewayPaymentSession := .error (.error "")
  /-- The answer to `queryTransactionStatus`. -/
  gatewayStatus : Except Failure GatewayTransactionStatus := .error (.error "")
  /-- The answer to bKash's `execute` call. -/
  gatewayExecution : Except Failure GatewayTransactionStatus := .error (.error "")
  /-- What calling the panel's adapter gives, for an operation of the API. -/
  panelResult : Except HostingPanelProviderError ProviderSuccess := .error ⟨.temporary, "", ""⟩
  /-- The account as its panel returned it passes `hostingAccountSchema`. -/
  panelAccountReadable : Bool := true
  /-- How the worker's call to suspend or unsuspend an account ends. -/
  whmMutation : Except PanelAutomationError Unit := .error ⟨.temporary, ""⟩
  /-- The account as the worker's `accountsummary` call finds it: user, domain and state. -/
  whmSummary : Option (String × String × HostingAccountState) := none
  /-- The answer to a registrar's `quote`, or to `renewalCost` in its `costAmount`. -/
  registrarQuote : Except RegistrarError RegistrarQuote := .error {}
  /-- The answer to a registrar's `lookup`. -/
  registrarLookup : Except RegistrarError (Option RegistrarObservation) := .error {}
  /-- The answer to a registrar's `management`. -/
  registrarManagement : Except RegistrarError ResellbizManagedState := .error {}
  registrarCall : Except RegistrarError Unit := .error {}
  /-- The contact that `contacts/add` made. -/
  registrarContact : Except RegistrarError String := .error {}
  /-- What the services decide on tables of their own lets a registrar's account be used: the
  mapping of the customer, the stored secrets and the number of recent reads. -/
  registrarContextAvailable : Bool := true
  domainCatalogue : Option DomainCatalogueTld := none
  lockedRows : List RowId := []
  queueDelivery : Delivery := .acknowledged
  /-- How a single write to the database ends, where the code handles its failure. -/
  databaseDelivery : Delivery := .acknowledged

end WebhostBilling
