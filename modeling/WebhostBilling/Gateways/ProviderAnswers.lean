import WebhostBilling.Gateways.PaymentGateway

/-!
# What the providers answer

The adapters read the form body of an SSLCOMMERZ notification, the JSON bodies of a provider's
answers, and the signed JSON body of a notification of the fake gateway.  A body is accepted when it
passes the schema of its kind.
-/

namespace WebhostBilling

open Store

/-! ## Values and texts -/

abbrev Body := List UInt8

/-- A parsed JSON value; a number is kept as the text that `String` makes of it. -/
inductive ProviderValue
  | null
  | bool (value : Bool)
  | number (text : String)
  | string (text : String)
  | array (items : List ProviderValue)
  | object (members : List (String × ProviderValue))

structure ProviderRuntime extends Runtime where
  /-- `createHash('sha256').update(rawBody).digest('hex')`. -/
  payloadHash : Body → String
  /-- `createHmac('sha256', webhookKey).update(rawBody).digest('hex')`, with the fake gateway's
  key. -/
  hmac : Body → String
  /-- The entries of `new URLSearchParams(rawBody.toString('utf8'))`. -/
  searchParams : Body → List (String × String)
  /-- `JSON.parse(rawBody.toString('utf8'))`, when it does not throw. -/
  parseJson : Body → Option ProviderValue
  /-- `String.prototype.toLowerCase`. -/
  toLowerCase : String → String
  /-- `new Date(text)`, when it is a valid date. -/
  parseDate : String → Option ℕ

namespace ProviderValue

def member (value : ProviderValue) (key : String) : Option ProviderValue :=
  match value with
  | object members => members.lookup key
  | _ => none

/-- `z.string()`. -/
def text? : ProviderValue → Option String
  | string text => some text
  | _ => none

/-- `z.union([z.string(), z.number()]).transform(String)`. -/
def scalar? : ProviderValue → Option String
  | string text | number text => some text
  | _ => none

/-- `z.array(…)`. -/
def items? : ProviderValue → Option (List ProviderValue)
  | array items => some items
  | _ => none

/-- `.strict()`: the object has no other keys. -/
def onlyKeys (value : ProviderValue) (keys : List String) : Bool :=
  match value with
  | object members => members.all fun entry => keys.contains entry.1
  | _ => false

def textWithin (value : ProviderValue) (key : String) (least most : ℕ) : Option String := do
  let text ← (value.member key).bind text?
  guard (least ≤ text.length ∧ text.length ≤ most)
  return text

/-- `.optional()`: the member is missing, or it can be read. -/
def optional {α : Type} (value : ProviderValue) (key : String) (read : ProviderValue → Option α) :
    Option (Option α) :=
  match value.member key with
  | none => some none
  | some found => (read found).map some

/-- `z.string().max(…)`. -/
def textUpTo (most : ℕ) (value : ProviderValue) : Option String :=
  value.text?.filter fun text => text.length ≤ most

end ProviderValue

/-! ## Identifiers and amounts -/

def digitsValue (digits : List Char) : ℕ :=
  digits.foldl (fun n c => 10 * n + (c.toNat - '0'.toNat)) 0

/-- `0|[1-9]\d*`. -/
def isWhole (digits : List Char) : Bool :=
  digits = ['0'] ∨ digits ≠ [] ∧ digits.head? ≠ some '0'

/-- `z.uuid()`; here the identifiers are numbers. -/
def uuid? (text : String) : Option RowId :=
  if text.toList.all Char.isDigit ∧ isWhole text.toList then some (digitsValue text.toList)
  else none

/-- The hundredths of `(?:\.(\d{1,2}))?`. -/
def hundredths : List Char → Option ℕ
  | [] => some 0
  | ['.', tenths] => if tenths.isDigit then some (10 * digitsValue [tenths]) else none
  | ['.', tenths, units] =>
    if tenths.isDigit ∧ units.isDigit then some (digitsValue [tenths, units]) else none
  | _ => none

/-- `majorToMinor`, when the text matches `MAJOR_AMOUNT_PATTERN`. -/
def majorToMinor? (value : String) : Option ℤ := do
  let whole := value.toList.takeWhile Char.isDigit
  guard (isWhole whole)
  let fraction ← hundredths (value.toList.dropWhile Char.isDigit)
  return digitsValue whole * 100 + fraction

def invalidMoney : Failure :=
  .provider .failed "The payment provider returned an invalid amount."

def majorToMinor (value : String) : Except Failure ℤ := orThrow invalidMoney (majorToMinor? value)

/-! ## Answers over HTTP -/

structure PaymentHttpResponse where
  status : ℕ
  body : ProviderValue

/-- `response.status >= 200 && response.status < 300`. -/
def PaymentHttpResponse.successful (response : PaymentHttpResponse) : Prop :=
  200 ≤ response.status ∧ response.status < 300
deriving Decidable

/-- Whether a request may have been carried out although it was refused with a status. -/
def uncertainStatus (status : ℕ) : Prop := status = 408 ∨ status = 429 ∨ 500 ≤ status
deriving Decidable

/-- `httpFailure`. -/
def httpFailure (status : ℕ) (message : String) : Failure :=
  if uncertainStatus status then
    .provider .unknown (message ++ " Reconciliation is required before retrying.")
  else .provider .failed message

variable (rt : ProviderRuntime)

/-! ## bKash -/

namespace BkashPaymentGateway

/-- `safeDate`. -/
def safeDate (now : ℕ) : Option String → ℕ
  | none => now
  | some text => if text = "" then now else (rt.parseDate text).getD now

/-- `transactionSchema`, with the status in lower case and the currency in upper case. -/
def transactionSchema (now : ℕ) (body : ProviderValue) : Option Transaction := do
  let paymentID ← body.textWithin "paymentID" 1 191
  let trxID ← body.optional "trxID" fun value =>
    (value.textUpTo 191).filter fun text => 1 ≤ text.length
  let transactionStatus ← body.textWithin "transactionStatus" 1 100
  let amount ← (body.textWithin "amount" 0 32).bind majorToMinor?
  let currency ← body.textWithin "currency" 3 3
  let _ ← body.optional "statusCode" fun value => value.text?.filter (· = "0000")
  let completedTime ← body.optional "completedTime" ProviderValue.text?
  let createTime ← body.optional "createTime" ProviderValue.text?
  let _ ← body.optional "statusMessage" (ProviderValue.textUpTo 500)
  let _ ← body.optional "errorMessage" (ProviderValue.textUpTo 500)
  return {
    paymentID
    trxID
    transactionStatus := rt.toLowerCase transactionStatus
    amount
    currency := rt.toUpperCase currency
    completedTime := safeDate rt now (completedTime <|> createTime) }

def transactionStatus (now : ℕ) (response : PaymentHttpResponse) (session : String) :
    Except Failure GatewayTransactionStatus := do
  let transaction ← orThrow (.provider .unknown "bKash returned an invalid response.")
    (transactionSchema rt now response.body)
  toStatus transaction session

/-- The call to `execute` in `completePaymentSession`. -/
def executePayment (now : ℕ) (answer : Except Failure PaymentHttpResponse) (session : String) :
    Except Failure GatewayTransactionStatus := do
  let response ← answer
  require response.successful
    (httpFailure response.status "bKash could not complete the payment.")
  transactionStatus rt now response session

/-- `queryTransactionStatus`. -/
def queryTransactionStatus (now : ℕ) (answer : Except Failure PaymentHttpResponse)
    (session : String) : Except Failure GatewayTransactionStatus := do
  let response ← answer
  require response.successful (.provider .unknown "bKash could not confirm the payment status.")
  transactionStatus rt now response session

end BkashPaymentGateway

/-! ## SSLCOMMERZ -/

namespace SslCommerzPaymentGateway

def acceptedStatuses : List String := ["VALID", "VALIDATED"]

/-- `sslDate`: a local date without its offset. -/
def sslDate (now : ℕ) : Option String → ℕ
  | none => now
  | some text =>
    if text = "" then now
    else
      let blank := text.toList.takeWhile (· ≠ ' ')
      let rest := text.toList.dropWhile (· ≠ ' ')
      let joined := if rest = [] then text else String.ofList (blank ++ 'T' :: rest.drop 1)
      (rt.parseDate (joined ++ "+06:00")).getD now

structure Ipn where
  valId : String
  tranId : String
  amount : String
  currency : String
  storeId : String
  status : String
  valueA : String
  valueB : String
  riskLevel : Option String

/-- `Object.fromEntries`: the last entry with a key counts. -/
def formField (entries : List (String × String)) (key : String) (least most : ℕ) :
    Option String := do
  let text ← entries.reverse.lookup key
  guard (least ≤ text.length ∧ text.length ≤ most)
  return text

def formText (entries : List (String × String)) (key : String) : Option String :=
  (entries.reverse.lookup key).filter fun text => 1 ≤ text.length

def formUuid (entries : List (String × String)) (key : String) : Option String :=
  (entries.reverse.lookup key).filter fun text => (uuid? text).isSome

/-- `ipnSchema`. -/
def ipnSchema (entries : List (String × String)) : Option Ipn := do
  let valId ← formField entries "val_id" 1 191
  let tranId ← formField entries "tran_id" 1 191
  let amount ← formText entries "amount"
  let currency ← formField entries "currency" 3 3
  let storeId ← formText entries "store_id"
  let status ← formText entries "status"
  let valueA ← formUuid entries "value_a"
  let valueB ← formUuid entries "value_b"
  return {
    valId, tranId, amount, currency, storeId, status, valueA, valueB
    riskLevel := entries.reverse.lookup "risk_level" }

/-- The notification that `verifyWebhookSignature` goes on with. -/
def acceptedIpn (storeId : String) (rawBody : Body) : Option Ipn :=
  (ipnSchema (rt.searchParams rawBody)).filter fun ipn =>
    ipn.storeId = storeId ∧ rt.toUpperCase ipn.status ∈ acceptedStatuses

structure Validation where
  status : String
  valId : String
  tranId : String
  amount : String
  currency : String
  bankTranId : String
  tranDate : Option String
  valueA : String
  valueB : String
  riskLevel : Option String

def textUuid (body : ProviderValue) (key : String) : Option String :=
  ((body.member key).bind ProviderValue.text?).filter fun text => (uuid? text).isSome

/-- `validationSchema`. -/
def validationSchema (body : ProviderValue) : Option Validation := do
  let status ← ((body.member "status").bind ProviderValue.text?).filter (· ∈ acceptedStatuses)
  let _ ← ((body.member "APIConnect").bind ProviderValue.text?).filter (· = "DONE")
  let valId ← body.textWithin "val_id" 1 191
  let tranId ← body.textWithin "tran_id" 1 191
  let amount ← (body.member "amount").bind ProviderValue.scalar?
  let currency ← body.textWithin "currency" 3 3
  let bankTranId ← body.textWithin "bank_tran_id" 1 191
  let tranDate ← body.optional "tran_date" ProviderValue.text?
  let valueA ← textUuid body "value_a"
  let valueB ← textUuid body "value_b"
  let riskLevel ← body.optional "risk_level" ProviderValue.scalar?
  return {
    status, valId, tranId, amount, currency, bankTranId, tranDate, valueA, valueB, riskLevel }

structure VerifiedNotification where
  ipn : Ipn
  validation : Validation

def agrees (ipn : Ipn) (validation : Validation) : Prop :=
  validation.valId = ipn.valId ∧ validation.tranId = ipn.tranId ∧
    validation.valueA = ipn.valueA ∧ validation.valueB = ipn.valueB ∧
    rt.toUpperCase validation.currency = rt.toUpperCase ipn.currency
deriving Decidable

/-- `verifyWebhookSignature` after its request; without a result the notification is refused. -/
def verifyValidation (ipn : Ipn) (answer : Except Failure PaymentHttpResponse) :
    Except Failure (Option VerifiedNotification) := do
  let response ← answer
  if response.successful then
    match validationSchema response.body with
    | none => return none
    | some validation =>
      if agrees rt ipn validation then
        let validated ← majorToMinor validation.amount
        let notified ← majorToMinor ipn.amount
        return if validated = notified then some ⟨ipn, validation⟩ else none
      else return none
  else if uncertainStatus response.status then
    throw (.provider .unknown "SSLCOMMERZ validation is temporarily unavailable.")
  else return none

/-- The event of `normalizeProviderEvent`, for a notification that was found validated. -/
def eventOf (now : ℕ) (verified : VerifiedNotification) :
    Except Failure NormalizedPaymentEvent := do
  let paymentId ← orThrow (.error "ZodError") (uuid? verified.validation.valueA)
  let invoiceId ← orThrow (.error "ZodError") (uuid? verified.validation.valueB)
  let amount ← majorToMinor verified.validation.amount
  normalizeProviderEvent rt.toRuntime {
    valId := verified.validation.valId
    tranId := verified.validation.tranId
    amount
    currency := rt.toUpperCase verified.validation.currency
    tranDate := sslDate rt now verified.validation.tranDate
    paymentId
    invoiceId
    highRisk := verified.validation.riskLevel = some "1" ∨ verified.ipn.riskLevel = some "1" }

structure QueryElement where
  status : String
  tranId : String
  amount : String
  currency : String
  tranDate : Option String
  error : Option String
  riskLevel : Option String

/-- `queryEntrySchema`. -/
def queryEntrySchema (body : ProviderValue) : Option QueryElement := do
  let status ← ((body.member "status").bind ProviderValue.text?).filter fun text => 1 ≤ text.length
  let tranId ← body.textWithin "tran_id" 1 191
  let amount ← (body.member "amount").bind ProviderValue.scalar?
  let currency ← body.textWithin "currency" 3 3
  let _ ← body.optional "bank_tran_id" (ProviderValue.textUpTo 191)
  let tranDate ← body.optional "tran_date" ProviderValue.text?
  let error ← body.optional "error" (ProviderValue.textUpTo 500)
  let riskLevel ← body.optional "risk_level" ProviderValue.scalar?
  return { status, tranId, amount, currency, tranDate, error, riskLevel }

/-- `querySchema`. -/
def querySchema (body : ProviderValue) : Option (List QueryElement) := do
  let _ ← ((body.member "APIConnect").bind ProviderValue.text?).filter (· = "DONE")
  let items ← (body.member "element").bind ProviderValue.items?
  items.mapM queryEntrySchema

/-- `queryTransactionStatus`: the first element with the requested identifier counts. -/
def queryStatus (now : ℕ) (answer : Except Failure PaymentHttpResponse) (transactionId : String) :
    Except Failure GatewayTransactionStatus := do
  let response ← answer
  require response.successful
    (.provider .unknown "SSLCOMMERZ could not confirm the payment status.")
  let elements ← orThrow (.provider .unknown "SSLCOMMERZ returned an invalid response.")
    (querySchema response.body)
  match elements.find? fun element => element.tranId = transactionId with
  | none => queryTransactionStatus [] transactionId
  | some element => do
    let amount ← majorToMinor element.amount
    queryTransactionStatus [{
      status := rt.toUpperCase element.status
      tranId := element.tranId
      amount
      currency := rt.toUpperCase element.currency
      tranDate := sslDate rt now element.tranDate
      error := element.error
      highRisk := element.riskLevel = some "1" }] transactionId

end SslCommerzPaymentGateway

/-! ## The fake gateway -/

namespace FakePaymentGateway

/-- `verifyWebhookSignature`. -/
def verifyWebhookSignature (rawBody : Body) (signature : String) : Prop :=
  signature = "sha256=" ++ rt.hmac rawBody
deriving Decidable

/-- `.nullable()`. -/
def nullable {α : Type} (read : ProviderValue → Option α) : ProviderValue → Option (Option α)
  | .null => some none
  | value => (read value).map some

def eventStatus : String → Option NormalizedPaymentEventStatus
  | "payment.pending" => some .pending
  | "payment.succeeded" => some .succeeded
  | "payment.failed" => some .failed
  | _ => none

/-- `^(0|[1-9]\d*)$`. -/
def minorAmount (text : String) : Option ℤ :=
  if text.toList.all Char.isDigit ∧ isWhole text.toList then some (digitsValue text.toList : ℤ)
  else none

/-- `fakeWebhookPayloadSchema`, as the event that is made of it. -/
def payloadSchema (payload : ProviderValue) : Option NormalizedPaymentEvent := do
  guard (payload.onlyKeys ["event_id", "type", "merchant_id", "data"])
  let providerEventId ← payload.textWithin "event_id" 1 191
  let eventType ← (payload.member "type").bind ProviderValue.text?
  let status ← eventStatus eventType
  let merchantId ← payload.textWithin "merchant_id" 1 191
  let data ← payload.member "data"
  guard (data.onlyKeys ["payment_id", "invoice_id", "amount", "currency", "transaction_id",
    "occurred_at", "failure_reason"])
  let paymentId ← ((data.member "payment_id").bind ProviderValue.text?).bind uuid?
  let invoiceId ← ((data.member "invoice_id").bind ProviderValue.text?).bind uuid?
  let amount ← ((data.member "amount").bind ProviderValue.text?).bind minorAmount
  let currency ← ((data.member "currency").bind ProviderValue.text?).filter fun text =>
    NormalizedPaymentEvent.isCurrencyCode text
  let providerTransactionId ← (data.member "transaction_id").bind (nullable fun value =>
    (value.textUpTo 191).filter fun text => 1 ≤ text.length)
  let occurredAt ← ((data.member "occurred_at").bind ProviderValue.text?).bind rt.parseDate
  let failureReason ← data.optional "failure_reason" (nullable fun value =>
    (value.text?.map rt.trim).filter fun text => 1 ≤ text.length ∧ text.length ≤ 500)
  return {
    providerEventId, eventType, status, merchantId, paymentId, invoiceId, amount, currency
    providerTransactionId, occurredAt
    failureReason := failureReason.join }

/-- `normalizeProviderEvent`. -/
def normalizeProviderEvent (rawBody : Body) : Except Failure NormalizedPaymentEvent := do
  let payload ← orThrow (.error "SyntaxError") (rt.parseJson rawBody)
  let event ← orThrow (.error "ZodError") (payloadSchema rt payload)
  event.parse rt.toRuntime

end FakePaymentGateway

/-! ## What an answer confirms -/

theorem NormalizedPaymentEvent.parse_eq_ok {rt : Runtime} {event event' : NormalizedPaymentEvent}
    (h : event.parse rt = .ok event') :
    event' = { event with failureReason := event.failureReason.map rt.trim } := by
  simp only [parse, eq_ok] at h
  obtain ⟨-, -, rfl⟩ := h
  rfl

theorem GatewayStatus.toEventStatus_eq_succeeded {status : GatewayStatus}
    (h : status.toEventStatus = .succeeded) : status = .succeeded := by
  cases status with
  | succeeded => rfl
  | pending | failed | refunded => exact nomatch h

theorem majorToMinor_eq_ok {value : String} {amount : ℤ} :
    majorToMinor value = .ok amount ↔ majorToMinor? value = some amount := orThrow_eq_ok

variable {rt}

namespace BkashPaymentGateway

def Confirms (rt : ProviderRuntime) (session : String) (amount : ℤ) (currency : String)
    (response : PaymentHttpResponse) : Prop :=
  response.successful ∧ ∃ now transaction,
    transactionSchema rt now response.body = some transaction ∧ transaction.paymentID = session ∧
      transaction.transactionStatus = "completed" ∧ transaction.amount = amount ∧
      transaction.currency = currency

variable {status : GatewayTransactionStatus} {session : String} {now : ℕ}

theorem toStatus_succeeded {transaction : Transaction}
    (h : toStatus transaction session = .ok status)
    (hstatus : status.status = .succeeded) :
    transaction.paymentID = session ∧ transaction.transactionStatus = "completed" ∧
      transaction.amount = status.amount ∧ transaction.currency = status.currency := by
  simp only [toStatus, eq_ok] at h
  obtain ⟨hsession, -, -, rfl⟩ := h
  refine ⟨hsession, ?_, rfl, rfl⟩
  by_contra hother
  simp only [if_neg hother] at hstatus
  split_ifs at hstatus

theorem transactionStatus_confirms {response : PaymentHttpResponse}
    (hsuccessful : response.successful)
    (h : transactionStatus rt now response session = .ok status)
    (hstatus : status.status = .succeeded) :
    Confirms rt session status.amount status.currency response := by
  simp only [transactionStatus, eq_ok] at h
  obtain ⟨transaction, hschema, h⟩ := h
  exact ⟨hsuccessful, now, transaction, hschema, toStatus_succeeded h hstatus⟩

variable {answer : Except Failure PaymentHttpResponse}

theorem executePayment_confirms (h : executePayment rt now answer session = .ok status)
    (hstatus : status.status = .succeeded) :
    ∃ response, answer = .ok response ∧
      Confirms rt session status.amount status.currency response := by
  simp only [executePayment, bind_eq_ok, require_eq_ok] at h
  obtain ⟨response, hanswer, -, hsuccessful, h⟩ := h
  exact ⟨response, hanswer, transactionStatus_confirms hsuccessful h hstatus⟩

theorem queryTransactionStatus_confirms
    (h : queryTransactionStatus rt now answer session = .ok status)
    (hstatus : status.status = .succeeded) :
    ∃ response, answer = .ok response ∧
      Confirms rt session status.amount status.currency response := by
  simp only [queryTransactionStatus, bind_eq_ok, require_eq_ok] at h
  obtain ⟨response, hanswer, -, hsuccessful, h⟩ := h
  exact ⟨response, hanswer, transactionStatus_confirms hsuccessful h hstatus⟩

end BkashPaymentGateway

namespace SslCommerzPaymentGateway

/-- SSLCOMMERZ answers to a validation that the payment was made, without a high risk. -/
def Confirms (rt : ProviderRuntime) (valId : String) (id : RowId) (amount : ℤ) (currency : String)
    (response : PaymentHttpResponse) : Prop :=
  response.successful ∧ ∃ validation, validationSchema response.body = some validation ∧
    validation.status ∈ acceptedStatuses ∧ validation.valId = valId ∧
    validation.riskLevel ≠ some "1" ∧ uuid? validation.valueA = some id ∧
    majorToMinor? validation.amount = some amount ∧ rt.toUpperCase validation.currency = currency

/-- SSLCOMMERZ answers to a query that the transaction succeeded, without a high risk. -/
def Reports (rt : ProviderRuntime) (reference : String) (amount : ℤ) (currency : String)
    (response : PaymentHttpResponse) : Prop :=
  response.successful ∧ ∃ elements element, querySchema response.body = some elements ∧
    element ∈ elements ∧ element.tranId = reference ∧
    rt.toUpperCase element.status ∈ acceptedStatuses ∧ element.riskLevel ≠ some "1" ∧
    majorToMinor? element.amount = some amount ∧ rt.toUpperCase element.currency = currency

theorem validationSchema_status {body : ProviderValue} {validation : Validation}
    (h : validationSchema body = some validation) : validation.status ∈ acceptedStatuses := by
  simp only [validationSchema, eq_some, Option.filter_eq_some_iff] at h
  obtain ⟨status, ⟨-, hstatus⟩, -, -, -, -, -, -, -, -, -, -, -, -, -, -, -, -, -, -, -, -, rfl⟩ :=
    h
  exact of_decide_eq_true hstatus

variable {answer : Except Failure PaymentHttpResponse} {verified : VerifiedNotification} {now : ℕ}

/-- What is kept of a notification was answered for its `val_id`. -/
theorem verifyValidation_eq_ok {ipn : Ipn}
    (h : verifyValidation rt ipn answer = .ok (some verified)) :
    ∃ response, answer = .ok response ∧ response.successful ∧
      validationSchema response.body = some verified.validation ∧
      verified.validation.valId = ipn.valId := by
  simp only [verifyValidation, bind_eq_ok] at h
  obtain ⟨response, hanswer, h⟩ := h
  refine ⟨response, hanswer, ?_⟩
  split at h
  · rename_i hsuccessful
    split at h
    · exact nomatch Except.ok.inj h
    · rename_i validation hschema
      split at h
      · rename_i hagrees
        simp only [eq_ok] at h
        obtain ⟨validated, -, notified, -, h⟩ := h
        split at h
        · obtain rfl := Option.some.inj h
          exact ⟨hsuccessful, hschema, hagrees.1⟩
        · exact nomatch h
      · exact nomatch Except.ok.inj h
  · split at h
    · exact absurd h (by simp [throw_eq_ok])
    · exact nomatch Except.ok.inj h

theorem eventOf_confirms {event : NormalizedPaymentEvent} {response : PaymentHttpResponse}
    (hsuccessful : response.successful)
    (hschema : validationSchema response.body = some verified.validation)
    (h : eventOf rt now verified = .ok event) (hstatus : event.status = .succeeded) :
    Confirms rt verified.validation.valId event.paymentId event.amount event.currency response := by
  simp only [eventOf, eq_ok, majorToMinor_eq_ok] at h
  obtain ⟨paymentId, hpayment, invoiceId, -, amount, hamount, h⟩ := h
  have hevent := NormalizedPaymentEvent.parse_eq_ok h
  have hrisk : verified.validation.riskLevel ≠ some "1" := by
    intro hhigh
    rw [hevent] at hstatus
    simp only [hhigh, true_or, decide_true, if_true] at hstatus
    exact nomatch hstatus
  rw [hevent]
  exact ⟨hsuccessful, verified.validation, hschema, validationSchema_status hschema, rfl, hrisk,
    hpayment, hamount, rfl⟩

theorem queryStatus_reports {reference : String} {status : GatewayTransactionStatus}
    (h : queryStatus rt now answer reference = .ok status) (hstatus : status.status = .succeeded) :
    ∃ response, answer = .ok response ∧
      Reports rt reference status.amount status.currency response := by
  simp only [queryStatus, eq_ok] at h
  obtain ⟨response, hanswer, hsuccessful, elements, hschema, h⟩ := h
  refine ⟨response, hanswer, hsuccessful, elements, ?_⟩
  split at h
  · simp only [queryTransactionStatus, bind_eq_ok, orThrow_eq_ok] at h
    obtain ⟨_, hnone, -⟩ := h
    cases hnone
  · rename_i element hfind
    simp only [eq_ok, majorToMinor_eq_ok, queryTransactionStatus] at h
    obtain ⟨amount, hamount, entry, hentry, rfl⟩ := h
    obtain rfl := List.mem_singleton.1 (List.mem_of_find?_eq_some hentry)
    refine ⟨element, hschema, List.mem_of_find?_eq_some hfind,
      by simpa using List.find?_some hfind, ?_, ?_, hamount, rfl⟩
    · by_contra hother
      simp only [acceptedStatuses, List.mem_cons, List.not_mem_nil, or_false] at hother
      simp only [entryStatus, if_neg hother] at hstatus
      split_ifs at hstatus
    · intro hhigh
      simp only [entryStatus, hhigh, decide_true, if_true] at hstatus
      cases hstatus

end SslCommerzPaymentGateway

end WebhostBilling
