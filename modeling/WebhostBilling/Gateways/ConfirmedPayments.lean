import WebhostBilling.Gateways.CheckoutCalls
import WebhostBilling.Gateways.ProviderAnswers

/-!
# Payments that their provider confirmed

The three ways in which a gateway payment can be settled, with the adapters: `processWebhook`,
`completeBkashCallback` and `reconcilePayment`.  The adapter for SSLCOMMERZ keeps what was validated
in a map of its process, under the hash of the body.  What callers send and what providers answer is
noted, and so is every payment that becomes `SUCCEEDED`.
-/

namespace WebhostBilling

open Store Concurrency SslCommerzPaymentGateway

namespace PaymentGatewayService

/-! ## The operations -/

/-- The database, with what the adapters have verified. -/
structure GatewayStore where
  db : Database
  verified : ℕ × String → Option VerifiedNotification := fun _ => none

structure ProviderWorld extends World where
  configured : PaymentGateway → Bool := fun _ => true
  storeId : Except Failure String := .ok "testbox"
  validation : Except Failure PaymentHttpResponse := .error (.error "")
  /-- How bKash's `execute` request ends, its authentication included. -/
  execution : Except Failure PaymentHttpResponse := .error (.error "")
  /-- How the request for the status of a session or a transaction ends. -/
  query : Except Failure PaymentHttpResponse := .error (.error "")

section

variable (rt : ProviderRuntime) (production : Bool)

variable (w : ProviderWorld)

/-- `gateways.get`. -/
def registered : PaymentGateway → Bool
  | .fake => !production
  | gateway => w.configured gateway

structure WebhookRequest where
  process : ℕ
  gateway : PaymentGateway
  rawBody : Body
  signature : String

inductive WebhookState
  | received
  | validating (ipn : Ipn)
  | verified
  | processing (state : ProcessState)
  | done (result : Except Failure PaymentWebhookResult)

def maxWebhookBytes : ℕ := 256 * 1024

def signatureInvalid : WebhookState :=
  .done (.error (webhookRejected "Webhook signature is invalid."))

/-- `verifyWebhookSignature` of each gateway, up to its request. -/
def verifyWebhook (request : WebhookRequest) : WebhookState :=
  match request.gateway with
  | .bkash => signatureInvalid
  | .fake =>
    if FakePaymentGateway.verifyWebhookSignature rt request.rawBody request.signature then .verified
    else signatureInvalid
  | .sslcommerz =>
    match w.storeId with
    | .error e => .done (.error e)
    | .ok storeId =>
      match acceptedIpn rt storeId request.rawBody with
      | none => signatureInvalid
      | some ipn => .validating ipn

def WebhookRequest.key (request : WebhookRequest) : ℕ × String :=
  (request.process, rt.payloadHash request.rawBody)

/-- `normalizeProviderEvent` of each gateway; SSLCOMMERZ takes its entry out of the map. -/
def normalizeWebhook (now : ℕ) (s : GatewayStore) (request : WebhookRequest) :
    GatewayStore × Except Failure NormalizedPaymentEvent :=
  match request.gateway with
  | .bkash =>
    (s, .error (.provider .failed "bKash does not use this webhook endpoint."))
  | .fake => (s, FakePaymentGateway.normalizeProviderEvent rt request.rawBody)
  | .sslcommerz =>
    ({ s with verified := Function.update s.verified (request.key rt) none },
      match s.verified (request.key rt) with
      | none => .error (.provider .failed "SSLCOMMERZ IPN was not validated.")
      | some verified => eventOf rt now verified)

def webhookStep (s : GatewayStore) (request : WebhookRequest) :
    WebhookState → Option (GatewayStore × WebhookState)
  | .received =>
    if registered production w request.gateway = false then
      some (s, .done (.error (notFound "Payment gateway was not found.")))
    else if request.rawBody.length = 0 ∨ maxWebhookBytes < request.rawBody.length then
      some (s, .done (.error (webhookRejected "Webhook body is missing or too large.")))
    else some (s, verifyWebhook rt w request)
  | .validating ipn =>
    match verifyValidation rt ipn w.validation with
    | .error e => some (s, .done (.error e))
    | .ok none => some (s, signatureInvalid)
    | .ok (some verified) =>
      some ({ s with verified := Function.update s.verified (request.key rt) (some verified) },
        .verified)
  | .verified =>
    match normalizeWebhook rt w.now s request with
    | (s', .error _) => some (s', .done (.error (webhookRejected "Webhook payload is invalid.")))
    | (s', .ok event) => some (s', .processing
        (.lookup ⟨request.gateway, event, rt.payloadHash request.rawBody⟩))
  | .processing state =>
    match state with
    | .done _ result => some (s, .done result)
    | state => (processStep w.toWorld s.db state).map fun out =>
        ({ s with db := out.1 }, .processing out.2)
  | .done _ => none

/-- `processWebhook`. -/
def processWebhook : Operation GatewayStore ProviderWorld where
  Request := WebhookRequest
  Local := WebhookRequest × WebhookState
  start request := (request, .received)
  step w s l := (webhookStep rt production w s l.1 l.2).map fun out => (out.1, (l.1, out.2))

/-- `createSession`, beside the adapters' maps. -/
def startSession : Operation GatewayStore ProviderWorld where
  Request := CreatePaymentSessionRequest
  Local := SessionState
  start := .lookup
  step w s l := (sessionStep w.toWorld s.db l).map fun out => ({ s with db := out.1 }, out.2)

def bkashWorld (session : String) : World :=
  { w.toWorld with
    gatewayExecution := BkashPaymentGateway.executePayment rt w.now w.execution session
    gatewayStatus := BkashPaymentGateway.queryTransactionStatus rt w.now w.query session }

/-- A step of `completeBkashCallback`, with the registry and the adapter. -/
def confirmCallbackStep (db : Database) (session : String) (state : CallbackState) :
    Option (Database × CallbackState) :=
  match state with
  | .read _ =>
    if registered production w .bkash then
      callbackStep rt.toRuntime (bkashWorld rt w session) db state
    else some (db, .done (.error (notFound "Payment gateway was not found.")))
  | state => callbackStep rt.toRuntime (bkashWorld rt w session) db state

/-- `completeBkashCallback`. -/
def confirmCallback : Operation GatewayStore ProviderWorld where
  Request := CallbackRequest
  Local := CallbackRequest × CallbackState
  start request := (request, .read request)
  step w s l := (confirmCallbackStep rt production w s.db l.1.providerSessionId l.2).map fun out =>
    ({ s with db := out.1 }, (l.1, out.2))

/-- `queryTransactionStatus` of each gateway; the fake gateway knows of no transaction. -/
def queryTransactionStatus (reference : String) :
    PaymentGateway → Except Failure GatewayTransactionStatus
  | .bkash => BkashPaymentGateway.queryTransactionStatus rt w.now w.query reference
  | .sslcommerz => queryStatus rt w.now w.query reference
  | .fake => .error (.error "Fake transaction was not found.")

/-- A step of `reconcilePayment`, with the registry and the adapter. -/
def confirmReconcileStep (db : Database) (reference : String) (state : ReconcileState) :
    Option (Database × ReconcileState) :=
  match state with
  | .read request =>
    if registered production w request.gateway then reconcileStep rt.toRuntime w.toWorld db state
    else some (db, .done (.error (notFound "Payment gateway was not found.")))
  | .call request _ =>
    let status := queryTransactionStatus rt w reference request.gateway
    reconcileStep rt.toRuntime { w.toWorld with gatewayStatus := status } db state
  | state => reconcileStep rt.toRuntime w.toWorld db state

def readReference (db : Database) (reference : String) : ReconcileState → String
  | .read request => ((db.payments.get? request.paymentId).bind Payment.reference).getD reference
  | _ => reference

/-- `reconcilePayment`; a thread keeps the reference that it asks for. -/
def confirmReconciliation : Operation GatewayStore ProviderWorld where
  Request := ReconcileRequest
  Local := String × ReconcileState
  start request := ("", .read request)
  step w s l := (confirmReconcileStep rt production w s.db l.1 l.2).map fun out =>
    ({ s with db := out.1 }, (readReference s.db l.1 l.2, out.2))

inductive ConfirmedOperation
  | createSession
  | processWebhook
  | completeBkashCallback
  | reconcilePayment

def confirmedOperations : ConfirmedOperation → Operation GatewayStore ProviderWorld
  | .createSession => startSession
  | .processWebhook => processWebhook rt production
  | .completeBkashCallback => confirmCallback rt production
  | .reconcilePayment => confirmReconciliation rt production

/-! ## What is noted -/

inductive ProviderCall
  /-- SSLCOMMERZ is asked to validate a notification, by its `val_id`. -/
  | validation (rawBody : Body) (valId : String)
  | execution (session : String)
  | status (gateway : PaymentGateway) (reference : String)

/-- The data with which a caller got a payment settled. -/
inductive SettlementSource
  | body (rawBody : Body) (signature : String)
  | session (reference : String)
  | checkout

/-- What was received and answered, and what it settled. -/
inductive ConfirmationNote
  | received (rawBody : Body)
  | answered (call : ProviderCall) (response : PaymentHttpResponse)
  /-- The payment has become `SUCCEEDED`, with this row. -/
  | settled (id : RowId) (payment : Payment) (source : SettlementSource)

def noteAnswer (call : ProviderCall) : Except Failure PaymentHttpResponse → List ConfirmationNote
  | .ok response => [.answered call response]
  | .error _ => []

/-- The payments that are `SUCCEEDED` and were not. -/
def newlySettled (db db' : Database) : List (RowId × Payment) :=
  db'.payments.select fun id payment =>
    payment.status = .succeeded ∧ ∀ before ∈ db.payments.get? id, before.status ≠ .succeeded

def settlementNotes (source : SettlementSource) (db db' : Database) : List ConfirmationNote :=
  (newlySettled db db').map fun entry => .settled entry.1 entry.2 source

def callbackAnswers (request : CallbackRequest) : List ConfirmationNote :=
  let session := request.providerSessionId
  if request.callbackStatus = "success" then
    noteAnswer (.execution session) w.execution ++
      match BkashPaymentGateway.executePayment rt w.now w.execution session with
      | .error (.provider .unknown _) => noteAnswer (.status .bkash session) w.query
      | _ => []
  else noteAnswer (.status .bkash session) w.query

def answers : (op : ConfirmedOperation) → ProviderWorld →
    (confirmedOperations rt production op).Local → List ConfirmationNote
  | .processWebhook, _, (request, .received) => [.received request.rawBody]
  | .processWebhook, w, (request, .validating ipn) =>
    noteAnswer (.validation request.rawBody ipn.valId) w.validation
  | .completeBkashCallback, w, (request, .call _ _ _) => callbackAnswers rt w request
  | .reconcilePayment, w, (reference, .call request _) =>
    if request.gateway = .fake then []
    else noteAnswer (.status request.gateway reference) w.query
  | _, _, _ => []

def source : (op : ConfirmedOperation) → (confirmedOperations rt production op).Local →
    SettlementSource
  | .createSession, _ => .checkout
  | .processWebhook, (request, _) => .body request.rawBody request.signature
  | .completeBkashCallback, (request, _) => .session request.providerSessionId
  | .reconcilePayment, (reference, _) => .session reference

def confirmationNotes (op : ConfirmedOperation) (w : ProviderWorld) (s : GatewayStore)
    (l : (confirmedOperations rt production op).Local) : List ConfirmationNote :=
  answers rt production op w l ++
    ((confirmedOperations rt production op).step w s l).elim [] fun out =>
      settlementNotes (source rt production op l) s.db out.1.db

abbrev tracedConfirmations :=
  tracedFamily (confirmedOperations rt production) (confirmationNotes rt production)

end

end PaymentGatewayService

end WebhostBilling
