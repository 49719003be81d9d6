import WebhostBilling.Database.Rows
import WebhostBilling.Store.Transaction

/-!
# The database and its constraints

`Database` is the state the services share.  Rows enter it through the insertions of this file,
which enforce the constraints of the schema.  A transaction that violates one is rolled back.
-/

namespace WebhostBilling

open Store Store.Table

/-! ## Failures -/

inductive ErrorCode
  | resourceNotFound
  | unprocessableEntity
  | conflict
  | forbidden
  | serviceUnavailable
  | paymentWebhookRejected
  | authenticationRequired
  | invalidCredentials
  | emailVerificationRequired
  | invalidTwoFactorCode
  | invalidOrExpiredToken
  | rateLimited
deriving DecidableEq

/-- How sure a payment provider's adapter is that nothing happened on the provider's side. -/
inductive ProviderOutcome
  | failed
  | unknown
deriving DecidableEq

/-- What a call can throw. -/
inductive Failure
  /-- An `ApplicationException`, with its code and its message. -/
  | application (code : ErrorCode) (message : String)
  /-- A `PaymentProviderError`, with its outcome and its safe message. -/
  | provider (outcome : ProviderOutcome) (message : String)
  /-- A `BackgroundJobError`, with its kind and its code. -/
  | job (kind : HostingPanelErrorKind) (code : String)
  /-- A unique key is taken: Prisma's error P2002. -/
  | uniqueConstraint
  | checkConstraint
  | error (message : String)
deriving DecidableEq

/-- The library functions on strings and dates that the services use. -/
structure Runtime where
  /-- `createHash('sha256').update(text).digest('hex')`. -/
  sha256 : String → String
  /-- `String.prototype.trim`. -/
  trim : String → String
  /-- `String.prototype.toUpperCase`. -/
  toUpperCase : String → String
  /-- `JSON.stringify` of a string. -/
  quote : String → String
  /-- `Date.prototype.toISOString`. -/
  toISOString : ℕ → String

/-- The library functions as they act on texts without blanks at the ends, lower-case letters and
characters to escape, given the hashes and the dates. -/
def Runtime.onPlainText (sha256 : String → String) (toISOString : ℕ → String) : Runtime where
  sha256 := sha256
  trim text := text
  toUpperCase text := text
  quote text := "\"" ++ text ++ "\""
  toISOString := toISOString

/-! ## The tables -/

/-- The tables that the modelled services share. -/
structure Database where
  /-- `billing.manual-payments`, when the stored value can be read. -/
  partialPaymentsEnabled : Option Bool := none
  /-- `integrations.active`'s hosting panel adapter. -/
  activeHostingPanelAdapter : String := "fake-panel"
  users : Table User := ∅
  customers : Table Customer := ∅
  invoices : Table Invoice := ∅
  payments : Table Payment := ∅
  paymentEvents : Table PaymentEvent := ∅
  outboxEvents : Table OutboxEvent := ∅
  orders : Table Order := ∅
  orderItems : Table OrderItem := ∅
  services : Table Service := ∅
  servers : Table Server := ∅
  operations : Table HostingPanelOperation := ∅
  cancellationRequests : Table HostingCancellationRequest := ∅
  domains : Table Domain := ∅
  existingDomainOrders : Table ExistingDomainOrder := ∅
  registrarOperations : Table RegistrarOperation := ∅
  registrarAccounts : Table RegistrarAccount := ∅
  registrarCredentials : Table RegistrarCredential := ∅
  registrarEvidence : Table RegistrarEvidence := ∅
  domainQuotes : Table DomainQuote := ∅
  domainActions : Table DomainAction := ∅
  automationRuns : Table AutomationRun := ∅
deriving DecidableEq

abbrev Tx (α : Type) := Transaction Database Failure α

namespace Database

variable (db : Database)

/-! ## Insertions -/

/-- `payments_idempotency_key`, `payments_provider_transaction_key` (where null clashes with
nothing) and `payments_amount_check`. -/
def createPayment (row : Payment) : Except Failure (Database × RowId) := do
  require (0 < row.amount) .checkConstraint
  require (db.payments.any (fun _ p => p.idempotencyKey = row.idempotencyKey) = false)
    .uniqueConstraint
  require (row.providerTransactionId.isSome →
      db.payments.any (fun _ p => p.provider = row.provider ∧
        p.providerTransactionId = row.providerTransactionId) = false)
    .uniqueConstraint
  return ({ db with payments := db.payments.insert row }, db.payments.size)

/-- `payment_events_provider_event_key`, which the hashed idempotency key of an event repeats. -/
def createPaymentEvent (row : PaymentEvent) : Except Failure (Database × RowId) := do
  require (db.paymentEvents.any (fun _ e => e.provider = row.provider ∧
      e.providerEventId = row.providerEventId) = false)
    .uniqueConstraint
  return ({ db with paymentEvents := db.paymentEvents.insert row }, db.paymentEvents.size)

def hasOutboxKey (key : OutboxKey) : Bool :=
  db.outboxEvents.any fun _ e => e.idempotencyKey = key

/-- `outbox_events_idempotency_key`. -/
def createOutboxEvent (row : OutboxEvent) : Except Failure Database := do
  require (db.hasOutboxKey row.idempotencyKey = false) .uniqueConstraint
  return { db with outboxEvents := db.outboxEvents.insert row }

/-- `createMany` with `skipDuplicates`: the new database and the number of rows created. -/
def createOutboxEventSkippingDuplicates (row : OutboxEvent) : Database × ℕ :=
  if db.hasOutboxKey row.idempotencyKey then (db, 0)
  else ({ db with outboxEvents := db.outboxEvents.insert row }, 1)

/-- `invoices_submission_key_key`. -/
def createInvoice (row : Invoice) : Except Failure (Database × RowId) := do
  require (db.invoices.any (fun _ i => i.submissionKey = row.submissionKey) = false)
    .uniqueConstraint
  return ({ db with invoices := db.invoices.insert row }, db.invoices.size)

/-- A write to a payment's transaction identifier keeps `payments_provider_transaction_key`. -/
def updatePayment (id : RowId) (f : Payment → Payment) : Database :=
  { db with payments := db.payments.update id f }

def updateInvoice (id : RowId) (f : Invoice → Invoice) : Database :=
  { db with invoices := db.invoices.update id f }

/-- `payments_provider_transaction_key` for a payment that is about to take a transaction
identifier. -/
def requireFreeTransaction (id : RowId) (provider transactionId : String) : Except Failure Unit :=
  require (db.payments.any (fun j p => j ≠ id ∧ p.provider = provider ∧
    p.providerTransactionId = some transactionId) = false) .uniqueConstraint

/-! ## What an insertion does -/

variable {out : Database × RowId}

theorem createPayment_eq_ok {row : Payment} :
    db.createPayment row = .ok out ↔
      0 < row.amount ∧
    (∀ id p, db.payments.get? id = some p → p.idempotencyKey ≠ row.idempotencyKey) ∧
      (row.providerTransactionId.isSome → ∀ id p, db.payments.get? id = some p →
        p.provider = row.provider → p.providerTransactionId ≠ row.providerTransactionId) ∧
      out = ({ db with payments := db.payments.insert row }, db.payments.size) := by
  simp only [createPayment, eq_ok, any_eq_false, decide_eq_false_iff_not, not_and, ne_eq]
  constructor
  · rintro ⟨h₁, h₂, h₃, h₄⟩
    exact ⟨h₁, h₂, h₃, h₄.symm⟩
  · rintro ⟨h₁, h₂, h₃, h₄⟩
    exact ⟨h₁, h₂, h₃, h₄.symm⟩

theorem createPaymentEvent_eq_ok {row : PaymentEvent} :
    db.createPaymentEvent row = .ok out ↔
      (∀ id e, db.paymentEvents.get? id = some e → e.provider = row.provider →
        e.providerEventId ≠ row.providerEventId) ∧
      out = ({ db with paymentEvents := db.paymentEvents.insert row }, db.paymentEvents.size) := by
  simp only [createPaymentEvent, eq_ok, any_eq_false, decide_eq_false_iff_not, not_and, ne_eq,
    eq_comm (a := out)]

theorem createOutboxEvent_eq_ok {row : OutboxEvent} {db' : Database} :
    db.createOutboxEvent row = .ok db' ↔ db.hasOutboxKey row.idempotencyKey = false ∧
      db' = { db with outboxEvents := db.outboxEvents.insert row } := by
  simp only [createOutboxEvent, eq_ok, eq_comm (a := db')]

theorem createInvoice_eq_ok {row : Invoice} :
    db.createInvoice row = .ok out ↔
      (∀ id i, db.invoices.get? id = some i → i.submissionKey ≠ row.submissionKey) ∧
      out = ({ db with invoices := db.invoices.insert row }, db.invoices.size) := by
  simp only [createInvoice, eq_ok, any_eq_false, decide_eq_false_iff_not, ne_eq,
    eq_comm (a := out)]

end Database

end WebhostBilling
