import WebhostBilling.Database.World

/-!
# Payment gateways

A gateway turns what a provider says about a transaction into a `NormalizedPaymentEvent`.  The
identifiers of the event are derived in three places, and differently: from the validation of an
SSLCOMMERZ notification, from the status of a bKash session, and, for any gateway, from the status a
reconciliation asked for.
-/

namespace WebhostBilling

open Store

inductive PaymentGateway
  | bkash
  | sslcommerz
  | fake
deriving DecidableEq

def PaymentGateway.key : PaymentGateway → String
  | .bkash => "bkash"
  | .sslcommerz => "sslcommerz"
  | .fake => "fake"

def PaymentGateway.merchantId : PaymentGateway → String
  | .bkash => "bkash-sandbox"
  | .sslcommerz => "sslcommerz-sandbox"
  | .fake => "webhost-billing-fake"

inductive NormalizedPaymentEventStatus
  | pending
  | succeeded
  | failed
deriving DecidableEq

structure NormalizedPaymentEvent where
  providerEventId : String
  eventType : String
  status : NormalizedPaymentEventStatus
  merchantId : String
  paymentId : RowId
  invoiceId : RowId
  amount : ℤ
  currency : String
  providerTransactionId : Option String
  occurredAt : ℕ
  failureReason : Option String

def PaymentGateway.extractProviderTransactionId (_ : PaymentGateway)
    (event : NormalizedPaymentEvent) : Option String :=
  event.providerTransactionId

namespace NormalizedPaymentEvent

def lengthWithin (text : String) (bound : ℕ) : Prop := 1 ≤ text.length ∧ text.length ≤ bound
deriving Decidable

/-- `^[A-Z]{3}$`. -/
def isCurrencyCode (text : String) : Prop := text.length = 3 ∧ text.toList.all Char.isUpper = true
deriving Decidable

/-- What `normalizedPaymentEventSchema` accepts, the failure reason already trimmed. -/
structure Accepted (event : NormalizedPaymentEvent) : Prop where
  providerEventId : lengthWithin event.providerEventId 191
  eventType : lengthWithin event.eventType 100
  merchantId : lengthWithin event.merchantId 191
  amount : 0 < event.amount
  currency : isCurrencyCode event.currency
  providerTransactionId : ∀ id ∈ event.providerTransactionId, lengthWithin id 191
  failureReason : ∀ reason ∈ event.failureReason, lengthWithin reason 500

theorem accepted_iff (event : NormalizedPaymentEvent) :
    event.Accepted ↔ lengthWithin event.providerEventId 191 ∧ lengthWithin event.eventType 100 ∧
      lengthWithin event.merchantId 191 ∧ 0 < event.amount ∧ isCurrencyCode event.currency ∧
      (∀ id ∈ event.providerTransactionId, lengthWithin id 191) ∧
      ∀ reason ∈ event.failureReason, lengthWithin reason 500 :=
  ⟨fun ⟨h₁, h₂, h₃, h₄, h₅, h₆, h₇⟩ => ⟨h₁, h₂, h₃, h₄, h₅, h₆, h₇⟩,
    fun ⟨h₁, h₂, h₃, h₄, h₅, h₆, h₇⟩ => ⟨h₁, h₂, h₃, h₄, h₅, h₆, h₇⟩⟩

instance (event : NormalizedPaymentEvent) : Decidable event.Accepted :=
  decidable_of_iff' _ event.accepted_iff

/-- `normalizedPaymentEventSchema.parse`. -/
def parse (rt : Runtime) (event : NormalizedPaymentEvent) :
    Except Failure NormalizedPaymentEvent := do
  let trimmed := { event with failureReason := event.failureReason.map rt.trim }
  require trimmed.Accepted (.error "ZodError")
  return trimmed

end NormalizedPaymentEvent

def GatewayStatus.name : GatewayStatus → String
  | .pending => "PENDING"
  | .succeeded => "SUCCEEDED"
  | .failed => "FAILED"
  | .refunded => "REFUNDED"

/-- `payment.${status.toLowerCase()}`. -/
def GatewayStatus.eventType : GatewayStatus → String
  | .pending => "payment.pending"
  | .succeeded => "payment.succeeded"
  | .failed => "payment.failed"
  | .refunded => "payment.refunded"

def GatewayStatus.toEventStatus : GatewayStatus → NormalizedPaymentEventStatus
  | .pending => .pending
  | .succeeded => .succeeded
  | .failed => .failed
  | .refunded => .failed

/-- `providerTransactionId ?? status`. -/
def GatewayTransactionStatus.identifier (status : GatewayTransactionStatus) : String :=
  status.providerTransactionId.getD status.status.name

def GatewayTransactionStatus.toEvent (status : GatewayTransactionStatus) (gateway : PaymentGateway)
    (providerEventId : String) (paymentId invoiceId : RowId) : NormalizedPaymentEvent where
  providerEventId := providerEventId
  eventType := status.status.eventType
  status := status.status.toEventStatus
  merchantId := gateway.merchantId
  paymentId := paymentId
  invoiceId := invoiceId
  amount := status.amount
  currency := status.currency
  providerTransactionId := status.providerTransactionId
  occurredAt := status.occurredAt
  failureReason := status.failureReason

/-! ## bKash -/

namespace BkashPaymentGateway

/-- The identifier of an event about a session, in `statusToEvent` and in `completeBkashCallback`. -/
def providerEventId (session : String) (status : GatewayTransactionStatus) : String :=
  "bkash:" ++ session ++ ":" ++ status.identifier

/-- A transaction as bKash returns it, its amount already in minor units. -/
structure Transaction where
  paymentID : String
  trxID : Option String
  transactionStatus : String
  amount : ℤ
  currency : String
  completedTime : ℕ

def knownStatuses : List String :=
  ["completed", "initiated", "pending", "refunded", "failed", "cancelled", "canceled", "expired"]

/-- `toStatus`, given the status in lower case and the currency in upper case. -/
def toStatus (transaction : Transaction) (expectedPaymentId : String) :
    Except Failure GatewayTransactionStatus := do
  require (transaction.paymentID = expectedPaymentId) (.provider .unknown
    "bKash returned a different payment identity. Reconciliation is required.")
  require (transaction.transactionStatus ∈ knownStatuses) (.provider .unknown
    "bKash returned an unrecognized payment state. Reconciliation is required.")
  let status : GatewayStatus :=
    if transaction.transactionStatus = "completed" then .succeeded
    else if transaction.transactionStatus = "initiated" ∨ transaction.transactionStatus = "pending"
    then .pending
    else if transaction.transactionStatus = "refunded" then .refunded
    else .failed
  return {
    providerTransactionId := transaction.trxID
    status
    amount := transaction.amount
    currency := transaction.currency
    occurredAt := transaction.completedTime
    failureReason := if status = .failed then some "bKash reported payment failure." else none }

/-- `statusToEvent`. -/
def statusToEvent (rt : Runtime) (status : GatewayTransactionStatus) (session : String)
    (paymentId invoiceId : RowId) : Except Failure NormalizedPaymentEvent :=
  (status.toEvent .bkash (providerEventId session status) paymentId invoiceId).parse rt

/-- `completePaymentSession`: when the outcome of the execution is unknown, the status is asked
for.  `execution` and `query` are what the two calls return. -/
def completePaymentSession (rt : Runtime)
    (execution query : Except Failure GatewayTransactionStatus) (session : String)
    (paymentId invoiceId : RowId) : Except Failure NormalizedPaymentEvent :=
  match execution with
  | .ok status => statusToEvent rt status session paymentId invoiceId
  | .error (.provider .unknown _) => do
    let status ← query
    statusToEvent rt status session paymentId invoiceId
  | .error e => .error e

end BkashPaymentGateway

/-! ## SSLCOMMERZ -/

namespace SslCommerzPaymentGateway

def highRiskMessage : String :=
  "SSLCOMMERZ marked this transaction as high risk; administrator review is required."

/-- A validated notification, its amount in minor units and its currency in upper case. -/
structure VerifiedIpn where
  valId : String
  tranId : String
  amount : ℤ
  currency : String
  tranDate : ℕ
  paymentId : RowId
  invoiceId : RowId
  highRisk : Bool

/-- `normalizeProviderEvent`, for a notification that was validated. -/
def normalizeProviderEvent (rt : Runtime) (verified : VerifiedIpn) :
    Except Failure NormalizedPaymentEvent :=
  NormalizedPaymentEvent.parse rt {
    providerEventId := "sslcommerz:" ++ verified.valId
    eventType := if verified.highRisk then "payment.high_risk" else "payment.succeeded"
    status := if verified.highRisk then .pending else .succeeded
    merchantId := PaymentGateway.sslcommerz.merchantId
    paymentId := verified.paymentId
    invoiceId := verified.invoiceId
    amount := verified.amount
    currency := verified.currency
    providerTransactionId := some verified.tranId
    occurredAt := verified.tranDate
    failureReason := if verified.highRisk then some highRiskMessage else none }

structure QueryEntry where
  status : String
  tranId : String
  amount : ℤ
  currency : String
  tranDate : ℕ
  error : Option String
  highRisk : Bool

def entryStatus (entry : QueryEntry) : GatewayStatus :=
  if entry.highRisk then .pending
  else if entry.status = "VALID" ∨ entry.status = "VALIDATED" then .succeeded
  else if entry.status = "PENDING" then .pending
  else if entry.status = "REFUNDED" then .refunded
  else .failed

/-- `queryTransactionStatus`, given the entries the query returned. -/
def queryTransactionStatus (entries : List QueryEntry) (transactionId : String) :
    Except Failure GatewayTransactionStatus := do
  let entry ← orThrow
    (.provider .failed "SSLCOMMERZ did not return the requested transaction.")
    (entries.find? fun entry => entry.tranId = transactionId)
  return {
    providerTransactionId := some entry.tranId
    status := entryStatus entry
    amount := entry.amount
    currency := entry.currency
    occurredAt := entry.tranDate
    failureReason :=
      if entry.highRisk then some highRiskMessage
      else if entryStatus entry = .failed then
        some (entry.error.getD "SSLCOMMERZ reported payment failure.")
      else none }

end SslCommerzPaymentGateway

def reconciliationEventId (gateway : PaymentGateway) (paymentId : RowId)
    (status : GatewayTransactionStatus) : String :=
  "reconciliation:" ++ gateway.key ++ ":" ++ toString paymentId ++ ":" ++ status.identifier

end WebhostBilling
