import WebhostBilling.Gateways.PaymentGateway
import WebhostBilling.Payments.PaymentService

/-!
# The payment gateway service

Notifications of the provider, the browser's return from bKash, and an administrator's
reconciliation end in `processNormalizedEvent`, which stores the event, checks it against the
payment and its invoice under the invoice's lock, and applies it.

The provider is called between two transactions, so each of `createSession`,
`completeBkashCallback` and `reconcilePayment` reads first, calls, and writes later.
-/

namespace WebhostBilling

open Store Store.Table Concurrency PaymentService

namespace PaymentGatewayService

/-! ## Errors -/

def notFound (message : String) : Failure := .application .resourceNotFound message

def invalid (message : String) : Failure := .application .unprocessableEntity message

def conflict (message : String) : Failure := .application .conflict message

def webhookRejected (message : String) : Failure := .application .paymentWebhookRejected message

/-! ## The hash of an event -/

def statusName : NormalizedPaymentEventStatus → String
  | .pending => "PENDING"
  | .succeeded => "SUCCEEDED"
  | .failed => "FAILED"

/-- `JSON.stringify(this.normalizedPayload(event))`. -/
def normalizedPayload (rt : Runtime) (event : NormalizedPaymentEvent) : String :=
  let text := rt.quote
  let optional : Option String → String := fun value => (value.map rt.quote).getD "null"
  "\x7b\"providerEventId\":" ++ text event.providerEventId ++
    ",\"eventType\":" ++ text event.eventType ++
    ",\"status\":" ++ text (statusName event.status) ++
    ",\"merchantId\":" ++ text event.merchantId ++
    ",\"paymentId\":" ++ text (toString event.paymentId) ++
    ",\"invoiceId\":" ++ text (toString event.invoiceId) ++
    ",\"amount\":" ++ text (toString event.amount) ++
    ",\"currency\":" ++ text event.currency ++
    ",\"providerTransactionId\":" ++ optional event.providerTransactionId ++
    ",\"occurredAt\":" ++ text (rt.toISOString event.occurredAt) ++
    ",\"failureReason\":" ++ optional event.failureReason ++ "\x7d"

def eventPayloadHash (rt : Runtime) (event : NormalizedPaymentEvent) : String :=
  rt.sha256 (normalizedPayload rt event)

/-! ## Checking an event -/

/-- A payment other than `id` already carries a transaction identifier of the gateway. -/
def transactionTaken (db : Database) (gateway : PaymentGateway) (transactionId : String)
    (id : RowId) : Bool :=
  db.payments.any fun j payment =>
    j ≠ id ∧ payment.provider = gateway.key ∧ payment.providerTransactionId = some transactionId

/-- `validateEvent`: the message of the first check that fails. -/
def validateEvent (db : Database) (gateway : PaymentGateway) (event : NormalizedPaymentEvent)
    (invoice : Option Invoice) (payment : Option Payment) : Option String :=
  match invoice, payment with
  | some invoice, some payment =>
    if payment.invoiceId ≠ event.invoiceId ∨ payment.provider ≠ gateway.key ∨
        payment.kind ≠ .charge then
      some "Invoice or payment identity is invalid."
    else if payment.amount ≠ event.amount then
      some "Payment amount does not match the expected amount."
    else if payment.currency ≠ event.currency ∨ invoice.currency ≠ event.currency then
      some "Payment currency does not match the invoice currency."
    else if (gateway.extractProviderTransactionId event).any
        (transactionTaken db gateway · event.paymentId) then
      some "Provider transaction has already been recorded."
    else if payment.status ≠ .pending then
      some "Payment has already reached a final state."
    else if event.status = .succeeded ∧ ¬ invoice.payable then
      some "Invoice is not payable."
    else if event.status = .succeeded ∧ invoice.balanceDue ≠ payment.amount then
      some "Invoice balance no longer matches the payment session."
    else none
  | _, _ => some "Invoice or payment identity is invalid."

/-! ## Applying an event -/

inductive WebhookTransactionResult
  | processed
  | ignored
  | rejected (message : String)

def updatePaymentEvent (db : Database) (id : RowId) (f : PaymentEvent → PaymentEvent) : Database :=
  { db with paymentEvents := db.paymentEvents.update id f }

def linkedEvent (paymentId : RowId) (event : PaymentEvent) : PaymentEvent :=
  { event with paymentId := some paymentId }

def rejectedEvent (message : String) (now : ℕ) (event : PaymentEvent) : PaymentEvent :=
  { event with status := .failed, errorMessage := some message, processedAt := some now }

def ignoredEvent (now : ℕ) (event : PaymentEvent) : PaymentEvent :=
  { event with status := .ignored, processedAt := some now }

def processedEvent (now : ℕ) (event : PaymentEvent) : PaymentEvent :=
  { event with status := .processed, processedAt := some now }

/-- `rejectStoredEvent`. -/
def rejectStoredEvent (db : Database) (eventId : RowId) (message : String) (now : ℕ) :
    Database × WebhookTransactionResult :=
  (updatePaymentEvent db eventId (rejectedEvent message now), .rejected message)

/-- What a settling event writes to its invoice, whose row was read as `invoice`. -/
def settleInvoiceData (invoice : Invoice) (amount : ℤ) (now : ℕ) (row : Invoice) : Invoice :=
  { row with
    amountPaid := invoice.amountPaid + amount
    balanceDue := invoice.balanceDue - amount
    status := .paid
    paidAt := some now
    updatedAt := now }

def settleInvoice (invoiceId : RowId) (invoice : Invoice) (amount : ℤ) (now : ℕ) (db : Database) :
    Except Failure Database :=
  markInvoiceOrderPaid invoice now
    (db.updateInvoice invoiceId (settleInvoiceData invoice amount now))

def gatewayPaymentEvent (gateway : PaymentGateway) (event : NormalizedPaymentEvent)
    (paymentEventId : RowId) (succeeded : Bool) : OutboxEvent where
  aggregateType := .payment
  aggregateId := event.paymentId
  eventType := if succeeded then .gatewayPaymentSucceeded else .gatewayPaymentFailed
  idempotencyKey := .paymentWebhook paymentEventId
  payload := .gatewayPayment event.paymentId event.invoiceId gateway.key event.providerEventId
    event.providerTransactionId event.amount event.currency

def announceSettlement (event : NormalizedPaymentEvent) (invoice : Invoice) (db : Database) :
    Except Failure Database := do
  let db ← db.createOutboxEvent
    (paymentReceivedEvent event.paymentId event.invoiceId)
  if invoice.renewalItems ≠ [] then
    db.createOutboxEvent (renewalPaymentEvent event.paymentId event.invoiceId)
  else
    return db

variable (gateway : PaymentGateway)

/-- `completeEventAndOutbox`. -/
def completeEventAndOutbox (event : NormalizedPaymentEvent) (invoice : Invoice)
    (paymentEventId : RowId) (succeeded : Bool) (now : ℕ) (db : Database) :
    Except Failure Database := do
  let db := updatePaymentEvent db paymentEventId (processedEvent now)
  let db ← db.createOutboxEvent (gatewayPaymentEvent gateway event paymentEventId succeeded)
  if succeeded then announceSettlement event invoice db else return db

def notedPayment (reason : String) (payment : Payment) : Payment :=
  { payment with failureReason := some reason }

def failedPayment (event : NormalizedPaymentEvent) (payment : Payment) : Payment :=
  { payment with
    status := .failed
    failureReason := some (event.failureReason.getD "Provider reported payment failure.")
    receivedAt := some event.occurredAt }

def settledPayment (event : NormalizedPaymentEvent) (transactionId : String) (now : ℕ)
    (payment : Payment) : Payment :=
  { payment with
    status := .succeeded
    providerTransactionId := some transactionId
    receivedAt := some event.occurredAt
    verifiedAt := some now
    failureReason := none }

def applyPending (event : NormalizedPaymentEvent) (eventId : RowId) (now : ℕ) (db : Database) :
    Database :=
  let db := match event.failureReason with
    | some reason => db.updatePayment event.paymentId (notedPayment reason)
    | none => db
  updatePaymentEvent db eventId (ignoredEvent now)

def applyFailed (event : NormalizedPaymentEvent) (invoice : Invoice) (eventId : RowId) (now : ℕ)
    (db : Database) : Except Failure Database :=
  completeEventAndOutbox gateway event invoice eventId false now
    (db.updatePayment event.paymentId (failedPayment event))

def applySucceeded (event : NormalizedPaymentEvent) (invoice : Invoice) (payment : Payment)
    (transactionId : String) (eventId : RowId) (now : ℕ) (db : Database) :
    Except Failure Database := do
  db.requireFreeTransaction event.paymentId payment.provider transactionId
  let db := db.updatePayment event.paymentId (settledPayment event transactionId now)
  let db ← settleInvoice event.invoiceId invoice payment.amount now db
  completeEventAndOutbox gateway event invoice eventId true now db

def receivedEvent (event : NormalizedPaymentEvent) (payloadHash : String) : PaymentEvent where
  provider := gateway.key
  providerEventId := event.providerEventId
  eventType := event.eventType
  status := .received
  payloadHash := payloadHash

def applyEvent (event : NormalizedPaymentEvent) (invoice : Invoice) (payment : Payment)
    (eventId : RowId) (now : ℕ) : Tx WebhookTransactionResult := fun db => do
  let db := updatePaymentEvent db eventId (linkedEvent event.paymentId)
  match event.status with
  | .pending => return (applyPending event eventId now db, .ignored)
  | .failed => do
    let db ← applyFailed gateway event invoice eventId now db
    return (db, .processed)
  | .succeeded =>
    match gateway.extractProviderTransactionId event with
    | none =>
      return (rejectStoredEvent db eventId
        "Successful event does not contain a transaction identifier." now)
    | some transactionId => do
      let db ← applySucceeded gateway event invoice payment transactionId eventId now db
      return (db, .processed)

/-- A pending payment remembers why an event about it was rejected. -/
def noteRejection (db : Database) (payment : Option Payment) (paymentId : RowId)
    (message : String) : Database :=
  if payment.any (·.status = .pending) then
    db.updatePayment paymentId (notedPayment message)
  else db

/-- The transaction of `processNormalizedEvent`. -/
def processTransaction (event : NormalizedPaymentEvent) (payloadHash : String) (now : ℕ) :
    Tx WebhookTransactionResult := fun db => do
  let (db, eventId) ← db.createPaymentEvent (receivedEvent gateway event payloadHash)
  if event.merchantId ≠ gateway.merchantId then
    return (rejectStoredEvent db eventId "Merchant identity does not match this gateway." now)
  else
    let invoice := db.invoices.get? event.invoiceId
    let payment := db.payments.get? event.paymentId
    match validateEvent db gateway event invoice payment, invoice, payment with
    | some message, _, _ =>
      return (rejectStoredEvent (noteRejection db payment event.paymentId message) eventId message
        now)
    | none, some invoice, some payment => applyEvent gateway event invoice payment eventId now db
    | none, _, _ => throw (.error "Validated financial records could not be loaded.")

/-! ## What the transaction does -/

/-- An event that passed the validation is about a pending charge of the gateway, on the invoice it
names, with the amount and the currency it names; one that reports success finds the invoice
payable with exactly the payment's amount open. -/
structure Validated (db : Database) (gateway : PaymentGateway) (event : NormalizedPaymentEvent)
    (invoice : Invoice) (payment : Payment) : Prop where
  invoiceId : payment.invoiceId = event.invoiceId
  provider : payment.provider = gateway.key
  kind : payment.kind = .charge
  amount : payment.amount = event.amount
  paymentCurrency : payment.currency = event.currency
  invoiceCurrency : invoice.currency = event.currency
  transactionFree : ∀ id ∈ event.providerTransactionId,
    transactionTaken db gateway id event.paymentId = false
  pending : payment.status = .pending
  payable : event.status = .succeeded → invoice.payable
  balance : event.status = .succeeded → invoice.balanceDue = payment.amount

variable {gateway} {db db' : Database} {invoice : Invoice} {event : NormalizedPaymentEvent}
  {payment : Payment} {payloadHash : String} {result : WebhookTransactionResult} {now : ℕ}

theorem some_else_eq_none {α : Type} {p : Prop} [Decidable p] {a : α} {o : Option α} :
    (if p then some a else o) = none ↔ ¬ p ∧ o = none := by
  split <;> simp [*]

/-- `validateEvent` accepts exactly the events for which all of this holds. -/
theorem validateEvent_eq_none :
    validateEvent db gateway event (some invoice) (some payment) = none ↔
      Validated db gateway event invoice payment := by
  have hfree : ¬ (gateway.extractProviderTransactionId event).any
      (transactionTaken db gateway · event.paymentId) = true ↔
        ∀ id ∈ event.providerTransactionId,
          transactionTaken db gateway id event.paymentId = false := by
    rw [PaymentGateway.extractProviderTransactionId]
    cases event.providerTransactionId <;> simp
  simp only [validateEvent, some_else_eq_none, hfree, not_or, not_and, not_not, ne_eq]
  constructor
  · rintro ⟨⟨hinvoice, hprovider, hkind⟩, hamount, ⟨hpayment, hcurrency⟩, hunused, hpending, hpayable,
      hbalance, -⟩
    exact ⟨hinvoice, hprovider, hkind, hamount, hpayment, hcurrency, hunused, hpending, hpayable,
      hbalance⟩
  · intro h
    exact ⟨⟨h.invoiceId, h.provider, h.kind⟩, h.amount, ⟨h.paymentCurrency, h.invoiceCurrency⟩,
      h.transactionFree, h.pending, h.payable, h.balance, trivial⟩

def settlementEvents (gateway : PaymentGateway) (event : NormalizedPaymentEvent) (invoice : Invoice)
    (eventId : RowId) : List OutboxEvent :=
  gatewayPaymentEvent gateway event eventId true ::
    paymentReceivedEvent event.paymentId event.invoiceId ::
    renewalEvents event.paymentId event.invoiceId invoice

/-- **What a committed `processNormalizedEvent` did**, one constructor for each outcome: it always
stored the event, and only an event that was processed changed more than a failure reason. -/
inductive EventEffect (gateway : PaymentGateway) (event : NormalizedPaymentEvent)
    (payloadHash : String) (now : ℕ) (db : Database) : WebhookTransactionResult → Database → Prop
  | rejected (message : String) (stored : PaymentEvent) (payments : Table Payment)
      (hpayments : payments = db.payments ∨ ∃ payment,
        db.payments.get? event.paymentId = some payment ∧ payment.status = .pending ∧
        payments = db.payments.update event.paymentId (notedPayment message))
      (hstored : stored = rejectedEvent message now (receivedEvent gateway event payloadHash) ∨
        stored = rejectedEvent message now
          (linkedEvent event.paymentId (receivedEvent gateway event payloadHash))) :
      EventEffect gateway event payloadHash now db (.rejected message)
        { db with paymentEvents := db.paymentEvents.insert stored, payments := payments }
  | ignored (invoice : Invoice) (payment : Payment) (payments : Table Payment)
      (hstatus : event.status = .pending)
      (hpayment : db.payments.get? event.paymentId = some payment)
      (hvalid : Validated db gateway event invoice payment)
      (hpayments : payments = db.payments ∨ ∃ reason,
        payments = db.payments.update event.paymentId (notedPayment reason)) :
      EventEffect gateway event payloadHash now db .ignored
        { db with
          paymentEvents := db.paymentEvents.insert
            (ignoredEvent now (linkedEvent event.paymentId (receivedEvent gateway event payloadHash)))
          payments := payments }
  | failed (invoice : Invoice) (payment : Payment)
      (hstatus : event.status = .failed)
      (hpayment : db.payments.get? event.paymentId = some payment)
      (hvalid : Validated db gateway event invoice payment) :
      EventEffect gateway event payloadHash now db .processed
        { db with
          paymentEvents := db.paymentEvents.insert
            (processedEvent now
              (linkedEvent event.paymentId (receivedEvent gateway event payloadHash)))
          payments := db.payments.update event.paymentId (failedPayment event)
          outboxEvents := db.outboxEvents.insert
            (gatewayPaymentEvent gateway event db.paymentEvents.size false) }
  | settled (invoice : Invoice) (payment : Payment) (transactionId : String) (orders : Table Order)
      (hstatus : event.status = .succeeded)
      (hinvoice : db.invoices.get? event.invoiceId = some invoice)
      (hpayment : db.payments.get? event.paymentId = some payment)
      (hvalid : Validated db gateway event invoice payment)
      (htransaction : event.providerTransactionId = some transactionId)
      (horders : OrderSettled invoice now db.orders orders) :
      EventEffect gateway event payloadHash now db .processed
        { db with
          paymentEvents := db.paymentEvents.insert
            (processedEvent now
              (linkedEvent event.paymentId (receivedEvent gateway event payloadHash)))
          payments := db.payments.update event.paymentId (settledPayment event transactionId now)
          invoices := db.invoices.update event.invoiceId
            (settleInvoiceData invoice payment.amount now)
          orders := orders
          outboxEvents := db.outboxEvents.insertAll
            (settlementEvents gateway event invoice db.paymentEvents.size) }

theorem announceSettlement_eq_ok (h : announceSettlement event invoice db = .ok db') :
    db' = { db with
      outboxEvents := db.outboxEvents.insertAll
        (paymentReceivedEvent event.paymentId event.invoiceId ::
          renewalEvents event.paymentId event.invoiceId invoice) } := by
  simp only [announceSettlement, bind_eq_ok, Database.createOutboxEvent_eq_ok] at h
  obtain ⟨db₁, ⟨-, rfl⟩, h⟩ := h
  rw [renewalEvents, ← insert_insertAll]
  split at h
  · rename_i hitems
    rw [if_pos hitems]
    exact ((Database.createOutboxEvent_eq_ok _).1 h).2
  · rename_i hitems
    rw [if_neg hitems, insertAll_nil]
    exact (pure_eq_ok.1 h).symm

theorem settleInvoice_eq_ok {invoiceId : RowId} {amount : ℤ}
    (h : settleInvoice invoiceId invoice amount now db = .ok db') :
    ∃ orders, OrderSettled invoice now db.orders orders ∧
      db' = { db with
        invoices := db.invoices.update invoiceId (settleInvoiceData invoice amount now)
        orders := orders } := by
  obtain ⟨orders, horders, rfl⟩ := markInvoiceOrderPaid_eq_ok h
  exact ⟨orders, horders, rfl⟩

theorem applyEvent_effect (hinvoice : db.invoices.get? event.invoiceId = some invoice)
    (hpayment : db.payments.get? event.paymentId = some payment)
    (hvalid : Validated db gateway event invoice payment)
    (h : applyEvent gateway event invoice payment db.paymentEvents.size now
      { db with
        paymentEvents := db.paymentEvents.insert (receivedEvent gateway event payloadHash) } =
      .ok (db', result)) :
    EventEffect gateway event payloadHash now db result db' := by
  simp only [applyEvent, updatePaymentEvent, update_insert_self] at h
  split at h
  · rename_i hstatus
    obtain ⟨rfl, rfl⟩ := Prod.mk.inj (pure_eq_ok.1 h)
    simp only [applyPending, updatePaymentEvent]
    split
    · simp only [Database.updatePayment, update_insert_self]
      exact .ignored invoice payment _ hstatus hpayment hvalid (.inr ⟨_, rfl⟩)
    · simp only [update_insert_self]
      exact .ignored invoice payment _ hstatus hpayment hvalid (.inl rfl)
  · rename_i hstatus
    simp only [eq_ok, applyFailed, completeEventAndOutbox, Bool.false_eq_true, if_false,
      Database.createOutboxEvent_eq_ok, updatePaymentEvent, Database.updatePayment,
      update_insert_self] at h
    obtain ⟨db₂, ⟨db₁, ⟨-, rfl⟩, rfl⟩, rfl, rfl⟩ := h
    exact .failed invoice payment hstatus hpayment hvalid
  · rename_i hstatus
    split at h
    · simp only [rejectStoredEvent, updatePaymentEvent, update_insert_self, pure_eq_ok] at h
      obtain ⟨rfl, rfl⟩ := Prod.mk.inj h
      exact .rejected _ _ _ (.inl rfl) (.inr rfl)
    · rename_i transactionId htransaction
      simp only [eq_ok, applySucceeded, completeEventAndOutbox, if_true] at h
      obtain ⟨db₄, ⟨-, -, db₁, hsettle, db₂, hevent, hannounce⟩, rfl, rfl⟩ := h
      obtain ⟨orders, horders, rfl⟩ := settleInvoice_eq_ok hsettle
      rw [Database.createOutboxEvent_eq_ok] at hevent
      rw [announceSettlement_eq_ok hannounce, hevent.2]
      simp only [updatePaymentEvent, Database.updatePayment, update_insert_self,
        insert_insertAll]
      exact .settled invoice payment transactionId orders hstatus hinvoice hpayment hvalid
        htransaction horders

theorem validated_of_stored {events : Table PaymentEvent}
    (h : Validated { db with paymentEvents := events } gateway event invoice payment) :
    Validated db gateway event invoice payment :=
  ⟨h.invoiceId, h.provider, h.kind, h.amount, h.paymentCurrency, h.invoiceCurrency,
    h.transactionFree, h.pending, h.payable, h.balance⟩

/-- **A committed `processNormalizedEvent`** was about an identifier no stored event of the gateway
had, and did what `EventEffect` says. -/
theorem processTransaction_eq_ok
    (h : processTransaction gateway event payloadHash now db = .ok (db', result)) :
    (∀ id e, db.paymentEvents.get? id = some e → e.provider = gateway.key →
      e.providerEventId ≠ event.providerEventId) ∧
    EventEffect gateway event payloadHash now db result db' := by
  simp only [processTransaction, bind_eq_ok] at h
  obtain ⟨⟨db₁, eventId⟩, hcreate, h⟩ := h
  rw [Database.createPaymentEvent_eq_ok] at hcreate
  obtain ⟨hfresh, hcreate⟩ := hcreate
  obtain ⟨rfl, rfl⟩ := Prod.mk.inj hcreate
  refine ⟨hfresh, ?_⟩
  simp only at h
  split at h
  · simp only [rejectStoredEvent, updatePaymentEvent, update_insert_self, pure_eq_ok] at h
    obtain ⟨rfl, rfl⟩ := Prod.mk.inj h
    exact .rejected _ _ _ (.inl rfl) (.inl rfl)
  · split at h
    · rename_i message _ _ _
      rw [pure_eq_ok, noteRejection] at h
      split at h
      · rename_i hpending
        obtain ⟨payment, hpayment, hstatus⟩ := (Option.any_eq_true _ _).1 hpending
        simp only [rejectStoredEvent, updatePaymentEvent, Database.updatePayment,
          update_insert_self] at h
        obtain ⟨rfl, rfl⟩ := Prod.mk.inj h
        exact .rejected _ _ _ (.inr ⟨payment, hpayment, by simpa using hstatus, rfl⟩) (.inl rfl)
      · simp only [rejectStoredEvent, updatePaymentEvent, update_insert_self] at h
        obtain ⟨rfl, rfl⟩ := Prod.mk.inj h
        exact .rejected _ _ _ (.inl rfl) (.inl rfl)
    · rename_i invoice payment hvalid hinvoice hpayment
      rw [hinvoice, hpayment, validateEvent_eq_none] at hvalid
      exact applyEvent_effect hinvoice hpayment (validated_of_stored hvalid) h
    · exact absurd h (by simp [throw_eq_ok])

/-! ## Processing an event -/

structure PaymentWebhookResult where
  duplicate : Bool
  providerEventId : String
  /-- `PROCESSED` when true, `IGNORED` when false. -/
  processed : Bool

/-- `replay`: the outcome recorded for an event that is delivered again. -/
def replay (existing : PaymentEvent) (payloadHash : String) (event : NormalizedPaymentEvent) :
    Except Failure PaymentWebhookResult :=
  if existing.payloadHash ≠ payloadHash then
    .error (webhookRejected "Provider event identifier was reused with different content.")
  else if existing.status = .failed then
    .error (webhookRejected (existing.errorMessage.getD "Provider event was previously rejected."))
  else
    .ok ⟨true, event.providerEventId, decide (existing.status ≠ .ignored)⟩

def findEvent (db : Database) (gateway : PaymentGateway) (providerEventId : String) :
    Option (RowId × PaymentEvent) :=
  db.paymentEvents.find? fun _ event =>
    event.provider = gateway.key ∧ event.providerEventId = providerEventId

structure Delivery where
  gateway : PaymentGateway
  event : NormalizedPaymentEvent
  payloadHash : String

inductive ProcessState
  | lookup (delivery : Delivery)
  | transact (delivery : Delivery)
  | raced (delivery : Delivery)
  | done (delivery : Delivery) (result : Except Failure PaymentWebhookResult)

def webhookResult (event : NormalizedPaymentEvent) :
    WebhookTransactionResult → Except Failure PaymentWebhookResult
  | .processed => .ok ⟨false, event.providerEventId, true⟩
  | .ignored => .ok ⟨false, event.providerEventId, false⟩
  | .rejected message => .error (webhookRejected message)

variable (rt : Runtime) (w : World)

def processStep (db : Database) : ProcessState → Option (Database × ProcessState)
  | .lookup d =>
    match findEvent db d.gateway d.event.providerEventId with
    | some existing => some (db, .done d (replay existing.2 d.payloadHash d.event))
    | none => some (db, .transact d)
  | .transact d =>
    match atomically (processTransaction d.gateway d.event d.payloadHash w.now) db with
    | (db', .ok result) => some (db', .done d (webhookResult d.event result))
    | (db', .error .uniqueConstraint) => some (db', .raced d)
    | (db', .error e) => some (db', .done d (.error e))
  | .raced d =>
    match findEvent db d.gateway d.event.providerEventId with
    | some raced => some (db, .done d (replay raced.2 d.payloadHash d.event))
    | none => some (db, .done d
        (.error (webhookRejected "Provider transaction has already been recorded.")))
  | .done _ _ => none

theorem processStep_writes {w : World} {l l' : ProcessState}
    (h : processStep w db l = some (db', l')) :
    db' = db ∨ ∃ d result, l = .transact d ∧
      processTransaction d.gateway d.event d.payloadHash w.now db = .ok (db', result) := by
  unfold processStep at h
  split at h
  · split at h <;> (cases h; exact .inl rfl)
  · rename_i d
    split at h <;>
    · rename_i heq
      cases h
      exact (atomically_store heq).imp_right fun ⟨result, hok⟩ => ⟨d, result, rfl, hok⟩
  · split at h <;> (cases h; exact .inl rfl)
  · cases h

/-- `processNormalizedEvent`, which is also how `processWebhook` goes on once it has verified and
normalized a notification. -/
def processNormalizedEvent : Operation Database World where
  Request := Delivery
  Local := ProcessState
  start := .lookup
  step := processStep

/-! ## Starting a session -/

structure Actor where
  userId : RowId
  role : UserRole
  customerId : Option RowId := none

structure CreatePaymentSessionRequest where
  gateway : PaymentGateway
  invoiceId : RowId
  submissionKey : String
  actor : Actor

structure PaymentSession where
  paymentId : RowId
  invoiceId : RowId
  provider : String
  providerSessionId : String
  checkoutUrl : String
  amount : ℤ
  currency : String
  expiresAt : ℕ
  duplicate : Bool

def sessionCreationInProgress : String := "Checkout creation is in progress."

def sessionKey (request : CreatePaymentSessionRequest) : String :=
  "gateway-session:" ++ request.gateway.key ++ ":" ++ request.submissionKey

def findSessionPayment (db : Database) (key : String) : Option (RowId × Payment) :=
  db.payments.find? fun _ payment => payment.idempotencyKey = key

def canAccessInvoice (customerId : RowId) (actor : Actor) : Prop :=
  actor.role = .admin ∨ actor.customerId = some customerId
deriving Decidable

def assertMatchingSession (db : Database) (payment : Payment)
    (request : CreatePaymentSessionRequest) : Except Failure Unit := do
  require (payment.invoiceId = request.invoiceId ∧ payment.provider = request.gateway.key ∧
      payment.createdByUserId = some request.actor.userId ∧
      ∃ customerId ∈ invoiceCustomer db payment,
        canAccessInvoice customerId request.actor)
    (conflict "This submission key has already been used for another payment session.")
  require (payment.status = .pending)
    (conflict "This payment session has already reached a final state.")

def sessionPayment (request : CreatePaymentSessionRequest) (invoice : Invoice) : Payment where
  invoiceId := request.invoiceId
  createdByUserId := some request.actor.userId
  kind := .charge
  status := .pending
  provider := request.gateway.key
  idempotencyKey := sessionKey request
  amount := invoice.balanceDue
  currency := invoice.currency

/-- The transaction of `createSession`. -/
def sessionTransaction (request : CreatePaymentSessionRequest) : Tx (RowId × Payment) :=
  fun db => do
    let invoice ← orThrow (notFound "Invoice was not found.") (db.invoices.get? request.invoiceId)
    require (canAccessInvoice invoice.customerId request.actor) (notFound "Invoice was not found.")
    require invoice.payable
      (invalid "Only an unpaid or overdue invoice can start a payment session.")
    require (0 < invoice.balanceDue) (invalid "The invoice does not have a payable balance.")
    let (db, id) ← db.createPayment (sessionPayment request invoice)
    return (db, (id, sessionPayment request invoice))

/-- How far a `createSession` request is.  After `transact` it carries the payment's row as it was
read, and whether it was there before. -/
inductive SessionState
  | lookup (request : CreatePaymentSessionRequest)
  | transact (request : CreatePaymentSessionRequest)
  | raced (request : CreatePaymentSessionRequest)
  | claim (request : CreatePaymentSessionRequest) (id : RowId) (payment : Payment)
      (duplicate : Bool)
  | call (request : CreatePaymentSessionRequest) (id : RowId) (payment : Payment) (duplicate : Bool)
  | record (id : RowId) (payment : Payment) (duplicate : Bool) (session : GatewayPaymentSession)
  | fail (id : RowId) (outcome : ProviderOutcome) (message : String)
  | done (result : Except Failure PaymentSession)

/-- What `createSession` does with the payment row of its key. -/
def resumeSession (request : CreatePaymentSessionRequest) (id : RowId) (payment : Payment)
    (now : ℕ) : SessionState :=
  match payment.reference, payment.providerCheckoutUrl, payment.providerSessionExpiresAt with
  | some reference, some checkoutUrl, some expiresAt =>
    if expiresAt ≤ now then .done (.error
      (conflict "This checkout session has expired. Start a new payment attempt."))
    else .done (.ok {
      paymentId := id, invoiceId := payment.invoiceId, provider := request.gateway.key,
      providerSessionId := reference, checkoutUrl, amount := payment.amount,
      currency := payment.currency, expiresAt, duplicate := true })
  | _, _, _ => .claim request id payment true

def foundSession (db : Database) (request : CreatePaymentSessionRequest)
    (found : RowId × Payment) (now : ℕ) : SessionState :=
  match assertMatchingSession db found.2 request with
  | .ok _ => resumeSession request found.1 found.2 now
  | .error e => .done (.error e)

/-- The write of an error path: it looks at nothing but the payment's identifier. -/
def writeProviderError (id : RowId) (outcome : ProviderOutcome) (message : String)
    (db : Database) : Database :=
  db.updatePayment id fun payment =>
    { payment with
      status := if outcome = .failed then .failed else .pending
      failureReason := some message }

/-- Whether a payment's session may still be claimed. -/
def claimable (payment : Payment) : Prop :=
  payment.reference = none ∧ payment.failureReason = none
deriving Decidable

def sessionRecorded (session : GatewayPaymentSession) (payment : Payment) : Payment :=
  if payment.reference = none then
    { payment with
      reference := some session.providerSessionId
      providerCheckoutUrl := some session.checkoutUrl
      providerSessionExpiresAt := some session.expiresAt
      failureReason := none }
  else payment

def sessionStep (db : Database) : SessionState → Option (Database × SessionState)
  | .lookup request =>
    match findSessionPayment db (sessionKey request) with
    | some found => some (db, foundSession db request found w.now)
    | none => some (db, .transact request)
  | .transact request =>
    match atomically (sessionTransaction request) db with
    | (db', .ok created) => some (db', .claim request created.1 created.2 false)
    | (db', .error .uniqueConstraint) => some (db', .raced request)
    | (db', .error e) => some (db', .done (.error e))
  | .raced request =>
    match findSessionPayment db (sessionKey request) with
    | some found => some (db, foundSession db request found w.now)
    | none => some (db, .done (.error .uniqueConstraint))
  | .claim request id payment duplicate =>
    match db.payments.get? id with
    | some row =>
      if claimable row then
        some (db.updatePayment id (notedPayment sessionCreationInProgress),
          .call request id payment duplicate)
      else some (db, .done (.error (conflict
        "This checkout is already being created or requires administrator reconciliation.")))
    | none => some (db, .done (.error (conflict
        "This checkout is already being created or requires administrator reconciliation.")))
  | .call _ id payment duplicate =>
    match w.gatewaySession with
    | .ok session => some (db, .record id payment duplicate session)
    | .error (.provider outcome message) => some (db, .fail id outcome message)
    | .error _ => some (db, .fail id .unknown
        "The payment provider returned an unexpected response. Reconciliation is required before retrying.")
  | .record id payment duplicate session =>
    some (db.updatePayment id (sessionRecorded session),
      .done (.ok {
        paymentId := id, invoiceId := payment.invoiceId, provider := payment.provider,
        providerSessionId := session.providerSessionId, checkoutUrl := session.checkoutUrl,
        amount := payment.amount, currency := payment.currency, expiresAt := session.expiresAt,
        duplicate }))
  | .fail id outcome message =>
    some (writeProviderError id outcome message db,
      .done (.error (.application .serviceUnavailable message)))
  | .done _ => none

/-- `createSession`. -/
def createSession : Operation Database World where
  Request := CreatePaymentSessionRequest
  Local := SessionState
  start := .lookup
  step := sessionStep

/-! ## The callback of bKash -/

structure CallbackRequest where
  providerSessionId : String
  callbackStatus : String

inductive CallbackState
  | read (request : CallbackRequest)
  | call (request : CallbackRequest) (paymentId invoiceId : RowId)
  | process (paymentId invoiceId : RowId) (state : ProcessState)
  | fail (paymentId invoiceId : RowId) (outcome : ProviderOutcome) (message : String)
  | done (result : Except Failure RowId)

def callbackEvent (request : CallbackRequest) (paymentId invoiceId : RowId) :
    Except Failure NormalizedPaymentEvent :=
  if request.callbackStatus = "success" then
    BkashPaymentGateway.completePaymentSession rt w.gatewayExecution w.gatewayStatus
      request.providerSessionId paymentId invoiceId
  else do
    let status ← w.gatewayStatus
    BkashPaymentGateway.statusToEvent rt status request.providerSessionId paymentId invoiceId

def callbackStep (db : Database) :
    CallbackState → Option (Database × CallbackState)
  | .read request =>
    match db.payments.find? fun _ payment => payment.provider = PaymentGateway.bkash.key ∧
        payment.reference = some request.providerSessionId with
    | none => some (db, .done (.error (notFound "Payment session was not found.")))
    | some (id, payment) =>
      if payment.status ≠ .pending then some (db, .done (.ok payment.invoiceId))
      else some (db, .call request id payment.invoiceId)
  | .call request paymentId invoiceId =>
    match callbackEvent rt w request paymentId invoiceId with
    | .ok event => some (db, .process paymentId invoiceId
        (.lookup ⟨.bkash, event, eventPayloadHash rt event⟩))
    | .error (.provider outcome message) => some (db, .fail paymentId invoiceId outcome message)
    | .error e => some (db, .done (.error e))
  | .process paymentId invoiceId state =>
    match state with
    | .done _ (.ok _) => some (db, .done (.ok invoiceId))
    | .done _ (.error e) => some (db, .done (.error e))
    | state => (processStep w db state).map fun out =>
        (out.1, .process paymentId invoiceId out.2)
  | .fail paymentId invoiceId outcome message =>
    some (writeProviderError paymentId outcome message db, .done (.ok invoiceId))
  | .done _ => none

/-- `completeBkashCallback`. -/
def completeBkashCallback : Operation Database World where
  Request := CallbackRequest
  Local := CallbackState
  start := .read
  step := callbackStep rt

/-! ## Reconciliation -/

structure ReconcileRequest where
  gateway : PaymentGateway
  paymentId : RowId

inductive ReconcileState
  | read (request : ReconcileRequest)
  | call (request : ReconcileRequest) (invoiceId : RowId)
  | process (state : ProcessState)
  | fail (paymentId : RowId) (message : String)
  | done (result : Except Failure PaymentWebhookResult)

def reconciliationEvent (gateway : PaymentGateway) (paymentId invoiceId : RowId)
    (status : GatewayTransactionStatus) : Except Failure NormalizedPaymentEvent := do
  require (status.status ≠ .refunded) (invalid "Refund reconciliation is not part of this flow.")
  (status.toEvent gateway (reconciliationEventId gateway paymentId status) paymentId
    invoiceId).parse rt

def reconcileStep (db : Database) :
    ReconcileState → Option (Database × ReconcileState)
  | .read request =>
    match db.payments.get? request.paymentId with
    | none => some (db, .done (.error (notFound "Payment was not found.")))
    | some payment =>
      if payment.provider ≠ request.gateway.key then
        some (db, .done (.error (notFound "Payment was not found.")))
      else if payment.status ≠ .pending ∨ payment.reference = none then
        some (db, .done (.error
          (conflict "Only a pending gateway payment can be reconciled.")))
      else some (db, .call request payment.invoiceId)
  | .call request invoiceId =>
    match w.gatewayStatus.bind (reconciliationEvent rt request.gateway request.paymentId invoiceId)
    with
    | .ok event => some (db, .process (.lookup ⟨request.gateway, event, eventPayloadHash rt event⟩))
    | .error (.provider _ message) => some (db, .fail request.paymentId message)
    | .error e => some (db, .done (.error e))
  | .process state =>
    match state with
    | .done _ result => some (db, .done result)
    | state => (processStep w db state).map fun out => (out.1, .process out.2)
  | .fail paymentId message =>
    some (db.updatePayment paymentId (notedPayment message),
      .done (.error (.application .serviceUnavailable message)))
  | .done _ => none

/-- `reconcilePayment`. -/
def reconcilePayment : Operation Database World where
  Request := ReconcileRequest
  Local := ReconcileState
  start := .read
  step := reconcileStep rt

end PaymentGatewayService

end WebhostBilling
