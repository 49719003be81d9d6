import WebhostBilling.Database.World
import WebhostBilling.Database.OrderGuard
import WebhostBilling.Concurrency.Threads

/-!
# Manual payments

A customer submits a payment for review, an administrator records one, reviews a submitted one, or
adjusts a verified one by a refund or a reversal.  Every write happens in a transaction that holds
the lock of the invoice's row; what a service reads before its transaction is a step of its own.
-/

namespace WebhostBilling

open Store Concurrency

namespace PaymentService

/-! ## Requests and errors -/

structure ManualPaymentProof where
  method : ManualPaymentMethod
  reference : String
  payerName : Option String := none
  note : Option String := none
  paidAt : Option ℕ := none
deriving DecidableEq

/-- `SubmitManualPaymentRequest`, which `recordManual` takes as well. -/
structure SubmitManualPaymentRequest where
  submissionKey : String
  invoiceId : RowId
  amount : ℤ
  proof : ManualPaymentProof
deriving DecidableEq

structure ManualPaymentCreationResult where
  paymentId : RowId
  duplicate : Bool

def notFound : Failure := .application .resourceNotFound "Manual payment was not found."

def notFoundInvoice : Failure := .application .resourceNotFound "Invoice was not found."

def invalid (message : String) : Failure := .application .unprocessableEntity message

def conflict (message : String) : Failure := .application .conflict message

def concurrentReview : Failure := conflict "The payment has already been reviewed."

section

variable (rt : Runtime)

def normalizeReference (reference : String) : String := rt.toUpperCase (rt.trim reference)

def methodName : ManualPaymentMethod → String
  | .bankTransfer => "BANK_TRANSFER"
  | .mobileFinancialService => "MOBILE_FINANCIAL_SERVICE"
  | .cash => "CASH"
  | .other => "OTHER"

def providerReference (method : ManualPaymentMethod) (reference : String) : String :=
  rt.sha256 (methodName method ++ ":" ++ normalizeReference rt reference)

end

def findBySubmissionKey (db : Database) (key : String) : Option (RowId × Payment) :=
  db.payments.find? fun _ payment => payment.idempotencyKey = key

/-- A payment date may lie at most five minutes ahead of the clock. -/
def validateReceivedAt (proof : ManualPaymentProof) (now : ℕ) : Except Failure Unit :=
  require (∀ paidAt ∈ proof.paidAt, paidAt ≤ now + 5 * 60 * 1000)
    (invalid "Payment date cannot be in the future.")

def createdByRole (db : Database) (payment : Payment) : Option UserRole :=
  (payment.createdByUserId.bind db.users.get?).map User.role

def invoiceCustomer (db : Database) (payment : Payment) : Option RowId :=
  (db.invoices.get? payment.invoiceId).map Invoice.customerId

def duplicateChargeResult (db : Database) (existing : RowId × Payment)
    (input : SubmitManualPaymentRequest) (submittedByRole : UserRole) (customerId : Option RowId) :
    Except Failure ManualPaymentCreationResult := do
  let payment := existing.2
  require (payment.kind = .charge ∧ payment.invoiceId = input.invoiceId ∧
      (∀ customer ∈ customerId, invoiceCustomer db payment = some customer) ∧
      createdByRole db payment = some submittedByRole ∧ payment.amount = input.amount ∧
      payment.manualMethod = some input.proof.method ∧
      payment.reference = some input.proof.reference ∧
      payment.payerName = input.proof.payerName ∧ payment.note = input.proof.note ∧
      (input.proof.paidAt.isSome → payment.receivedAt = input.proof.paidAt))
    (conflict "This submission key has already been used for another payment.")
  return ⟨existing.1, true⟩

/-! ## Settling an invoice by a verified charge -/

def readSettings (db : Database) : Bool := db.partialPaymentsEnabled.getD false

def assertPayableAmount (db : Database) (invoice : Invoice) (amount : ℤ) : Except Failure Unit := do
  require invoice.payable (invalid "Only an unpaid or overdue invoice can be paid.")
  require (0 < amount ∧ amount ≤ invoice.balanceDue)
    (invalid "Payment amount exceeds the invoice balance.")
  require (readSettings db = true ∨ amount = invoice.balanceDue)
    (invalid "Partial payments are disabled; the payment must equal the full balance.")

/-- What a verified charge writes to its invoice, whose row was read as `invoice`. -/
def chargeInvoice (invoice : Invoice) (amount : ℤ) (now : ℕ) (row : Invoice) : Invoice :=
  { row with
    amountPaid := invoice.amountPaid + amount
    balanceDue := invoice.balanceDue - amount
    status := if invoice.balanceDue - amount = 0 then .paid else invoice.status
    paidAt := if invoice.balanceDue - amount = 0 then some now else row.paidAt
    updatedAt := now }

def markOrderPaid (orderId : RowId) (now : ℕ) (db : Database) : Except Failure Database :=
  db.updateOrderWhile orderId [.awaitingPayment] fun order =>
    { order with status := .paid, updatedAt := now }

def markInvoiceOrderPaid (invoice : Invoice) (now : ℕ) (db : Database) : Except Failure Database :=
  match invoice.orderId with
  | some orderId => markOrderPaid orderId now db
  | none => .ok db

def paymentReceivedEvent (paymentId invoiceId : RowId) : OutboxEvent where
  aggregateType := .payment
  aggregateId := paymentId
  eventType := .emailPaymentReceived
  idempotencyKey := .emailPaymentReceived paymentId
  payload := .payment paymentId invoiceId

def renewalPaymentEvent (paymentId invoiceId : RowId) : OutboxEvent where
  aggregateType := .payment
  aggregateId := paymentId
  eventType := .renewalPaymentCompleted
  idempotencyKey := .renewalPayment paymentId
  payload := .payment paymentId invoiceId

/-- What a settled invoice announces besides the payment: one that renews a service has its payment
applied to the service by the worker. -/
def renewalEvents (paymentId invoiceId : RowId) (invoice : Invoice) : List OutboxEvent :=
  if invoice.renewalItems ≠ [] then [renewalPaymentEvent paymentId invoiceId] else []

def payOrder (invoice : Invoice) (amount : ℤ) (now : ℕ) (db : Database) : Except Failure Database :=
  if invoice.balanceDue - amount = 0 then markInvoiceOrderPaid invoice now db else .ok db

def announceRenewal (invoiceId : RowId) (invoice : Invoice) (paymentId : RowId) (amount : ℤ)
    (db : Database) : Except Failure Database :=
  if invoice.balanceDue - amount = 0 ∧ invoice.renewalItems ≠ [] then
    db.createOutboxEvent (renewalPaymentEvent paymentId invoiceId)
  else .ok db

def applyVerifiedCharge (invoiceId : RowId) (invoice : Invoice) (paymentId : RowId) (amount : ℤ)
    (now : ℕ) (db : Database) : Except Failure Database := do
  let db := db.updateInvoice invoiceId (chargeInvoice invoice amount now)
  let db ← payOrder invoice amount now db
  let db ← db.createOutboxEvent (paymentReceivedEvent paymentId invoiceId)
  announceRenewal invoiceId invoice paymentId amount db

/-- The order of a settled invoice may have been marked paid. -/
def OrderSettled (invoice : Invoice) (now : ℕ) (orders orders' : Table Order) : Prop :=
  orders' = orders ∨ ∃ orderId order, invoice.orderId = some orderId ∧
    orders.get? orderId = some order ∧ order.status = .awaitingPayment ∧
    orders' = orders.update orderId fun order => { order with status := .paid, updatedAt := now }

/-- The order of an invoice, when the invoice's balance became zero, may be marked paid. -/
def OrderPaidBy (invoice : Invoice) (amount : ℤ) (now : ℕ) (orders orders' : Table Order) : Prop :=
  orders' = orders ∨ invoice.balanceDue - amount = 0 ∧ OrderSettled invoice now orders orders'

variable {db db' : Database} {invoice : Invoice} {result : ManualPaymentCreationResult}
  {invoiceId paymentId userId : RowId} {rt : Runtime} {u : Unit} {w : World} {now : ℕ} {amount : ℤ}

theorem markInvoiceOrderPaid_eq_ok (h : markInvoiceOrderPaid invoice now db = .ok db') :
    ∃ orders, OrderSettled invoice now db.orders orders ∧ db' = { db with orders := orders } := by
  rw [markInvoiceOrderPaid] at h
  split at h
  · rename_i orderId horderId
    rcases db.updateOrderWhile_eq_ok h with rfl | ⟨order, horder, hstatus, -, rfl⟩
    · exact ⟨db'.orders, .inl rfl, rfl⟩
    · exact ⟨_, .inr ⟨orderId, order, horderId, horder, by simpa using hstatus, rfl⟩, rfl⟩
  · exact ⟨db.orders, .inl rfl, (Except.ok.inj h).symm⟩

theorem payOrder_eq_ok (h : payOrder invoice amount now db = .ok db') :
    ∃ orders, OrderPaidBy invoice amount now db.orders orders ∧
      db' = { db with orders := orders } := by
  rw [payOrder] at h
  split at h
  · rename_i hzero
    obtain ⟨orders, horders, rfl⟩ := markInvoiceOrderPaid_eq_ok h
    exact ⟨orders, .inr ⟨hzero, horders⟩, rfl⟩
  · exact ⟨db.orders, .inl rfl, (Except.ok.inj h).symm⟩

def chargeEvents (invoiceId : RowId) (invoice : Invoice) (paymentId : RowId) (amount : ℤ) :
    List OutboxEvent :=
  paymentReceivedEvent paymentId invoiceId ::
    if invoice.balanceDue - amount = 0 then renewalEvents paymentId invoiceId invoice else []

theorem announceRenewal_eq_ok
    (h : announceRenewal invoiceId invoice paymentId amount db = .ok db') :
    db' = { db with
      outboxEvents := db.outboxEvents.insertAll
        (if invoice.balanceDue - amount = 0 then renewalEvents paymentId invoiceId invoice else [])
            } := by
  rw [announceRenewal] at h
  split at h
  · rename_i hrenewal
    rw [if_pos hrenewal.1, renewalEvents, if_pos hrenewal.2]
    exact ((db.createOutboxEvent_eq_ok).1 h).2
  · rename_i hrenewal
    have hnone : (if invoice.balanceDue - amount = 0 then renewalEvents paymentId invoiceId invoice
        else []) = [] := by
      split
      · rename_i hzero
        exact if_neg fun hitems => hrenewal ⟨hzero, hitems⟩
      · rfl
    rw [hnone, Table.insertAll_nil]
    exact (Except.ok.inj h).symm

theorem applyVerifiedCharge_eq_ok
    (h : applyVerifiedCharge invoiceId invoice paymentId amount now db = .ok db') :
    ∃ orders, OrderPaidBy invoice amount now db.orders orders ∧
      db' = { db with
        invoices := db.invoices.update invoiceId (chargeInvoice invoice amount now)
        orders := orders
        outboxEvents := db.outboxEvents.insertAll
          (chargeEvents invoiceId invoice paymentId amount) } := by
  simp only [applyVerifiedCharge, bind_eq_ok] at h
  obtain ⟨db₁, horder, db₂, hevent, hrenewal⟩ := h
  obtain ⟨orders, horders, rfl⟩ := payOrder_eq_ok horder
  rw [Database.createOutboxEvent_eq_ok] at hevent
  rw [announceRenewal_eq_ok hrenewal, hevent.2]
  refine ⟨orders, horders, ?_⟩
  rw [Table.insert_insertAll]
  rfl

theorem assertPayableAmount_eq_ok :
    assertPayableAmount db invoice amount = .ok u ↔ invoice.payable ∧
      (0 < amount ∧ amount ≤ invoice.balanceDue) ∧
      (readSettings db = true ∨ amount = invoice.balanceDue) := by
  simp only [assertPayableAmount, eq_ok]

/-! ## Submitting and recording -/

def chargeData (rt : Runtime) (input : SubmitManualPaymentRequest) (actorUserId : RowId)
    (verified : Bool) (currency : String) (now : ℕ) : Payment where
  invoiceId := input.invoiceId
  createdByUserId := some actorUserId
  kind := .charge
  status := if verified then .succeeded else .pending
  provider := "manual"
  providerTransactionId :=
    if verified then some (providerReference rt input.proof.method input.proof.reference) else none
  idempotencyKey := input.submissionKey
  amount := input.amount
  currency := currency
  reference := some input.proof.reference
  manualMethod := some input.proof.method
  payerName := input.proof.payerName
  note := input.proof.note
  receivedAt := some (input.proof.paidAt.getD now)

structure SubmitRequest where
  input : SubmitManualPaymentRequest
  userId : RowId
  customerId : RowId

def referencePending (rt : Runtime) (db : Database) (input : SubmitManualPaymentRequest) : Bool :=
  db.payments.any fun _ payment =>
    payment.invoiceId = input.invoiceId ∧ payment.provider = "manual" ∧ payment.kind = .charge ∧
    payment.status = .pending ∧ payment.manualMethod = some input.proof.method ∧
    payment.reference.map (normalizeReference rt) =
      some (normalizeReference rt input.proof.reference)

/-- The transaction of `submitManual`. -/
def submitTransaction (rt : Runtime) (request : SubmitRequest) (now : ℕ) :
    Tx ManualPaymentCreationResult := fun db => do
  let input := request.input
  let invoice ← orThrow notFound (db.invoices.get? input.invoiceId)
  require (invoice.customerId = request.customerId) notFound
  match findBySubmissionKey db input.submissionKey with
  | some raced =>
    let result ← duplicateChargeResult db raced input .customer (some request.customerId)
    return (db, result)
  | none =>
    assertPayableAmount db invoice input.amount
    require (referencePending rt db input = false)
      (conflict "This payment reference is already awaiting verification for this invoice.")
    let (db, paymentId) ← db.createPayment
      (chargeData rt input request.userId false invoice.currency now)
    return (db, ⟨paymentId, false⟩)

/-- How far a `submitManual` or `recordManual` request is. -/
inductive CreationState (R : Type)
  | lookup (request : R)
  | transact (request : R)
  | raced (request : R)
  | done (result : Except Failure ManualPaymentCreationResult)

/-- `handleCreationError`, for a unique key that was taken. -/
def handleCreationError (db : Database) (input : SubmitManualPaymentRequest)
    (submittedByRole : UserRole) (customerId : Option RowId) :
    Except Failure ManualPaymentCreationResult :=
  match findBySubmissionKey db input.submissionKey with
  | some raced => duplicateChargeResult db raced input submittedByRole customerId
  | none => .error (conflict "This manual payment reference has already been recorded.")

/-- A payment has the key. -/
def Taken (key : String) (db : Database) : Prop :=
  ∃ id payment, db.payments.get? id = some payment ∧ payment.idempotencyKey = key

theorem not_taken {key : String} (h : ∀ id payment, db.payments.get? id = some payment →
    payment.idempotencyKey ≠ key) : ¬ Taken key db := by
  rintro ⟨id, payment, hpayment, hkey⟩
  exact h id payment hpayment hkey

theorem submitTransaction_eq_ok {request : SubmitRequest}
    (h : submitTransaction rt request now db = .ok (db', result)) :
    (db' = db ∧ ∃ existing, findBySubmissionKey db request.input.submissionKey = some existing ∧
      duplicateChargeResult db existing request.input .customer (some request.customerId) =
        .ok result) ∨
    ∃ invoice, db.invoices.get? request.input.invoiceId = some invoice ∧
      invoice.customerId = request.customerId ∧ 0 < request.input.amount ∧
      ¬ Taken request.input.submissionKey db ∧ result = ⟨db.payments.size, false⟩ ∧
      db' = { db with
        payments := db.payments.insert
          (chargeData rt request.input request.userId false invoice.currency now) } := by
  simp only [submitTransaction, eq_ok] at h
  obtain ⟨invoice, hinvoice, hcustomer, h⟩ := h
  split at h
  · rename_i raced hfind
    simp only [eq_ok] at h
    obtain ⟨result', hresult, rfl, rfl⟩ := h
    exact .inl ⟨rfl, raced, hfind, hresult⟩
  · simp only [eq_ok] at h
    obtain ⟨-, -, -, ⟨db₁, id⟩, hcreate, h⟩ := h
    rw [Database.createPayment_eq_ok] at hcreate
    obtain ⟨hpos, hfree, -, hout⟩ := hcreate
    obtain ⟨rfl, rfl⟩ := Prod.mk.inj hout
    obtain ⟨rfl, rfl⟩ := h
    exact .inr ⟨invoice, hinvoice, hcustomer, hpos, not_taken hfree, rfl, rfl⟩

/-- What `submitManual` and `recordManual` do, each with its own transaction and for its own role. -/
structure Creation (R : Type) where
  input : R → SubmitManualPaymentRequest
  submittedByRole : UserRole
  customerId : R → Option RowId
  transaction : R → ℕ → Tx ManualPaymentCreationResult

section

variable {R : Type} (creation : Creation R)

def Creation.step (w : World) (db : Database) :
    CreationState R → Option (Database × CreationState R)
  | .lookup request =>
    match findBySubmissionKey db (creation.input request).submissionKey with
    | some duplicate => some (db, .done (duplicateChargeResult db duplicate (creation.input request)
        creation.submittedByRole (creation.customerId request)))
    | none =>
      match validateReceivedAt (creation.input request).proof w.now with
      | .ok _ => some (db, .transact request)
      | .error e => some (db, .done (.error e))
  | .transact request =>
    match atomically (creation.transaction request w.now) db with
    | (db', .ok result) => some (db', .done (.ok result))
    | (db', .error .uniqueConstraint) => some (db', .raced request)
    | (db', .error e) => some (db', .done (.error e))
  | .raced request => some (db, .done (handleCreationError db (creation.input request)
      creation.submittedByRole (creation.customerId request)))
  | .done _ => none

variable {creation}

theorem Creation.step_commits {l l' : CreationState R} (h : creation.step w db l = some (db', l')) :
    db' = db ∨ ∃ request result, l = .transact request ∧
      creation.transaction request w.now db = .ok (db', result) := by
  unfold Creation.step at h
  split at h
  · split at h
    · cases h; exact .inl rfl
    · split at h <;> (cases h; exact .inl rfl)
  · rename_i request
    split at h <;>
    · rename_i heq
      cases h
      exact (atomically_store heq).imp_right fun ⟨result, hok⟩ => ⟨request, result, rfl, hok⟩
  · cases h; exact .inl rfl
  · cases h

end

def submitCreation (rt : Runtime) : Creation SubmitRequest where
  input := SubmitRequest.input
  submittedByRole := .customer
  customerId request := some request.customerId
  transaction := submitTransaction rt

/-- `PaymentService.submitManual`. -/
def submitManual (rt : Runtime) : Operation Database World where
  Request := SubmitRequest
  Local := CreationState SubmitRequest
  start := .lookup
  step := (submitCreation rt).step

structure RecordRequest where
  input : SubmitManualPaymentRequest
  userId : RowId

def recordedCharge (rt : Runtime) (request : RecordRequest) (currency : String) (now : ℕ) :
    Payment :=
  { chargeData rt request.input request.userId true currency now with
    reviewedByUserId := some request.userId
    reviewedAt := some now
    verifiedAt := some now }

/-- The transaction of `recordManual`. -/
def recordTransaction (rt : Runtime) (request : RecordRequest) (now : ℕ) :
    Tx ManualPaymentCreationResult := fun db => do
  let input := request.input
  let invoice ← orThrow notFoundInvoice (db.invoices.get? input.invoiceId)
  assertPayableAmount db invoice input.amount
  let (db, paymentId) ← db.createPayment (recordedCharge rt request invoice.currency now)
  let db ← applyVerifiedCharge input.invoiceId invoice paymentId input.amount now db
  return (db, ⟨paymentId, false⟩)

theorem recordTransaction_eq_ok {request : RecordRequest}
    (h : recordTransaction rt request now db = .ok (db', result)) :
    ∃ invoice orders, db.invoices.get? request.input.invoiceId = some invoice ∧
      invoice.payable ∧ 0 < request.input.amount ∧ request.input.amount ≤ invoice.balanceDue ∧
      OrderPaidBy invoice request.input.amount now db.orders orders ∧
      (¬ Taken request.input.submissionKey db ∧ result = ⟨db.payments.size, false⟩) ∧
      db' = { db with
        payments := db.payments.insert (recordedCharge rt request invoice.currency now)
        invoices := db.invoices.update request.input.invoiceId
          (chargeInvoice invoice request.input.amount now)
        orders := orders
        outboxEvents := db.outboxEvents.insertAll
          (chargeEvents request.input.invoiceId invoice db.payments.size request.input.amount) } := by
  simp only [recordTransaction, eq_ok, assertPayableAmount_eq_ok] at h
  obtain ⟨invoice, hinvoice, ⟨hpayable, ⟨hpos, hle⟩, -⟩, ⟨db₁, id⟩, hcreate, db₂, hcharge, h⟩ := h
  rw [Database.createPayment_eq_ok] at hcreate
  obtain ⟨-, hfree, -, hout⟩ := hcreate
  obtain ⟨rfl, rfl⟩ := Prod.mk.inj hout
  obtain ⟨orders, horders, rfl⟩ := applyVerifiedCharge_eq_ok hcharge
  obtain ⟨rfl, rfl⟩ := h
  exact ⟨invoice, orders, hinvoice, hpayable, hpos, hle, horders,
    ⟨not_taken hfree, rfl⟩, rfl⟩

def recordCreation (rt : Runtime) : Creation RecordRequest where
  input := RecordRequest.input
  submittedByRole := .admin
  customerId _ := none
  transaction := recordTransaction rt

/-- `PaymentService.recordManual`. -/
def recordManual (rt : Runtime) : Operation Database World where
  Request := RecordRequest
  Local := CreationState RecordRequest
  start := .lookup
  step := (recordCreation rt).step

/-! ## Reviewing -/

inductive ReviewAction
  | verify
  | reject (reason : String)

structure ReviewRequest where
  paymentId : RowId
  action : ReviewAction
  userId : RowId

def rejectedPayment (reason : String) (userId : RowId) (now : ℕ) (payment : Payment) : Payment :=
  { payment with
    status := .failed
    failureReason := some reason
    reviewedByUserId := some userId
    reviewedAt := some now }

def verifiedPayment (reference : String) (userId : RowId) (now : ℕ) (payment : Payment) : Payment :=
  { payment with
    status := .succeeded
    providerTransactionId := some reference
    reviewedByUserId := some userId
    reviewedAt := some now
    verifiedAt := some now }

/-- The transaction of a rejection: one conditional write, without the invoice's lock. -/
def rejectTransaction (paymentId : RowId) (reason : String) (userId : RowId) (now : ℕ) : Tx Unit :=
  fun db => do
    let payment ← orThrow concurrentReview (db.payments.get? paymentId)
    require (payment.provider = "manual" ∧ payment.kind = .charge ∧ payment.status = .pending)
      concurrentReview
    return (db.updatePayment paymentId (rejectedPayment reason userId now), ())

def verifyTransaction (rt : Runtime) (paymentId invoiceId : RowId) (userId : RowId) (now : ℕ) :
    Tx Unit := fun db => do
  let payment ← orThrow concurrentReview (db.payments.get? paymentId)
  require (payment.status = .pending ∧ payment.kind = .charge) concurrentReview
  let invoice ← orThrow notFoundInvoice (db.invoices.get? invoiceId)
  assertPayableAmount db invoice payment.amount
  let reference := providerReference rt (payment.manualMethod.getD .other)
    (payment.reference.getD "")
  db.requireFreeTransaction paymentId payment.provider reference
  let db := db.updatePayment paymentId (verifiedPayment reference userId now)
  let db ← applyVerifiedCharge invoiceId invoice paymentId payment.amount now db
  return (db, ())

theorem rejectTransaction_eq_ok {reason : String}
    (h : rejectTransaction paymentId reason userId now db = .ok (db', u)) :
    ∃ payment, db.payments.get? paymentId = some payment ∧ payment.provider = "manual" ∧
      payment.kind = .charge ∧ payment.status = .pending ∧
      db' =
    { db with payments := db.payments.update paymentId (rejectedPayment reason userId now) } := by
  simp only [rejectTransaction, eq_ok] at h
  obtain ⟨payment, hpayment, ⟨hprovider, hkind, hstatus⟩, h⟩ := h
  exact ⟨payment, hpayment, hprovider, hkind, hstatus, h.1.symm⟩

theorem verifyTransaction_eq_ok
    (h : verifyTransaction rt paymentId invoiceId userId now db = .ok (db', u)) :
    ∃ payment invoice reference orders, db.payments.get? paymentId = some payment ∧
      payment.status = .pending ∧ payment.kind = .charge ∧
      db.invoices.get? invoiceId = some invoice ∧ invoice.payable ∧ 0 < payment.amount ∧
      payment.amount ≤ invoice.balanceDue ∧
      OrderPaidBy invoice payment.amount now db.orders orders ∧
      db' = { db with
        payments := db.payments.update paymentId (verifiedPayment reference userId now)
        invoices := db.invoices.update invoiceId (chargeInvoice invoice payment.amount now)
        orders := orders
        outboxEvents := db.outboxEvents.insertAll
          (chargeEvents invoiceId invoice paymentId payment.amount) } := by
  simp only [verifyTransaction, eq_ok, assertPayableAmount_eq_ok] at h
  obtain ⟨payment, hpayment, ⟨hstatus, hkind⟩, invoice, hinvoice, ⟨hpayable, ⟨hpos, hle⟩, -⟩, -, -,
    db₁, hcharge, h⟩ := h
  obtain ⟨orders, horders, rfl⟩ := applyVerifiedCharge_eq_ok hcharge
  obtain ⟨rfl, -⟩ := h
  exact ⟨payment, invoice, _, orders, hpayment, hstatus, hkind, hinvoice, hpayable, hpos, hle,
    horders, rfl⟩

/-- How far a `review` request is; `invoiceId` is the one the first read found. -/
inductive ReviewState
  | read (request : ReviewRequest)
  | transact (request : ReviewRequest) (invoiceId : RowId)
  | done (result : Except Failure Unit)

def reviewStep (rt : Runtime) (w : World) (db : Database) :
    ReviewState → Option (Database × ReviewState)
  | .read request =>
    match db.payments.get? request.paymentId with
    | none => some (db, .done (.error notFound))
    | some initial =>
      if initial.provider ≠ "manual" then some (db, .done (.error notFound))
      else if initial.kind ≠ .charge ∨ initial.status ≠ .pending then
        some (db, .done (.error (invalid "Only a pending manual payment can be reviewed.")))
      else some (db, .transact request initial.invoiceId)
  | .transact request invoiceId =>
    match request.action with
    | .reject reason =>
      let out := atomically (rejectTransaction request.paymentId reason request.userId w.now) db
      some (out.1, .done out.2)
    | .verify =>
      match atomically (verifyTransaction rt request.paymentId invoiceId request.userId w.now) db
      with
      | (db', .ok _) => some (db', .done (.ok ()))
      | (db', .error .uniqueConstraint) => some (db', .done (.error
          (conflict "This manual payment reference has already been verified.")))
      | (db', .error e) => some (db', .done (.error e))
  | .done _ => none

theorem reviewStep_writes {l l' : ReviewState} (h : reviewStep rt w db l = some (db', l')) :
    db' = db ∨ ∃ request invoiceId, l = .transact request invoiceId ∧
      ((∃ reason, rejectTransaction request.paymentId reason request.userId w.now db =
          .ok (db', ())) ∨
        verifyTransaction rt request.paymentId invoiceId request.userId w.now db =
          .ok (db', ())) := by
  unfold reviewStep at h
  split at h
  · split at h
    · cases h; exact .inl rfl
    · split at h
      · cases h; exact .inl rfl
      · split at h <;> (cases h; exact .inl rfl)
  · rename_i request invoiceId
    split at h
    · rename_i reason _
      cases h
      refine (atomically_store rfl).imp_right fun ⟨_, hok⟩ =>
        ⟨request, invoiceId, rfl, .inl ⟨reason, hok⟩⟩
    · split at h <;>
      · rename_i heq
        cases h
        exact (atomically_store heq).imp_right fun ⟨_, hok⟩ =>
          ⟨request, invoiceId, rfl, .inr hok⟩
  · cases h

theorem reviewStep_transact {l : ReviewState} {request : ReviewRequest}
    (h : reviewStep rt w db l = some (db', .transact request invoiceId)) :
    db' = db ∧ ∃ payment, db.payments.get? request.paymentId = some payment ∧
      payment.invoiceId = invoiceId := by
  unfold reviewStep at h
  split at h
  · split at h
    · cases h
    · rename_i payment hpayment
      split at h
      · cases h
      · split at h
        · cases h
        · cases h
          exact ⟨rfl, payment, hpayment, rfl⟩
  · split at h
    · cases h
    · split at h <;> cases h
  · cases h

/-- `PaymentService.review`. -/
def review (rt : Runtime) : Operation Database World where
  Request := ReviewRequest
  Local := ReviewState
  start := .read
  step := reviewStep rt

/-! ## Adjusting -/

inductive AdjustmentKind
  | refund
  | reversal

def AdjustmentKind.toPaymentKind : AdjustmentKind → PaymentKind
  | .refund => .refund
  | .reversal => .reversal

structure CreatePaymentAdjustmentRequest where
  submissionKey : String
  kind : AdjustmentKind
  amount : ℤ
  reference : String
  note : Option String := none

structure AdjustRequest where
  originalPaymentId : RowId
  input : CreatePaymentAdjustmentRequest
  userId : RowId

def duplicateAdjustmentResult (existing : RowId × Payment) (originalPaymentId : RowId)
    (input : CreatePaymentAdjustmentRequest) : Except Failure ManualPaymentCreationResult := do
  let payment := existing.2
  require (payment.originalPaymentId = some originalPaymentId ∧
      payment.kind = input.kind.toPaymentKind ∧ payment.amount = input.amount ∧
      payment.reference = some input.reference ∧ payment.note = input.note)
    (conflict "This submission key has already been used for another adjustment.")
  return ⟨existing.1, true⟩

def adjusts (originalPaymentId : RowId) (payment : Payment) : Bool :=
  payment.originalPaymentId = some originalPaymentId ∧ payment.status = .succeeded

def adjustedAmount (db : Database) (originalPaymentId : RowId) : ℤ :=
  db.payments.total (adjusts originalPaymentId) Payment.amount

def adjustmentData (rt : Runtime) (request : AdjustRequest) (invoiceId : RowId) (original : Payment)
    (currency : String) (now : ℕ) : Payment where
  invoiceId := invoiceId
  originalPaymentId := some request.originalPaymentId
  createdByUserId := some request.userId
  reviewedByUserId := some request.userId
  kind := request.input.kind.toPaymentKind
  status := .succeeded
  provider := "manual"
  providerTransactionId := some
    (providerReference rt (original.manualMethod.getD .other) request.input.reference)
  idempotencyKey := request.input.submissionKey
  amount := request.input.amount
  currency := currency
  reference := some request.input.reference
  manualMethod := some (original.manualMethod.getD .other)
  note := request.input.note
  receivedAt := some now
  reviewedAt := some now
  verifiedAt := some now

/-- What an adjustment writes to its invoice, whose row was read as `invoice`. -/
def adjustInvoice (invoice : Invoice) (amount : ℤ) (now : ℕ) (row : Invoice) : Invoice :=
  { row with
    amountPaid := invoice.amountPaid - amount
    balanceDue := invoice.balanceDue + amount
    status := if invoice.amountPaid - amount = 0 then .refunded else .partiallyRefunded
    updatedAt := now }

/-- The transaction of `adjust`; `invoiceId` is the one the locating read found. -/
def adjustTransaction (rt : Runtime) (request : AdjustRequest) (invoiceId : RowId) (now : ℕ) :
    Tx ManualPaymentCreationResult := fun db => do
  let input := request.input
  let unadjustable := invalid "Only a verified original manual charge can be adjusted."
  let original ← orThrow unadjustable (db.payments.get? request.originalPaymentId)
  require (original.provider = "manual" ∧ original.kind = .charge ∧ original.status = .succeeded)
    unadjustable
  let invoice ← orThrow notFoundInvoice (db.invoices.get? invoiceId)
  let remaining := original.amount - adjustedAmount db request.originalPaymentId
  require (input.amount ≤ remaining ∧ input.amount ≤ invoice.amountPaid)
    (invalid "Adjustment exceeds the remaining verified payment amount.")
  let (db, paymentId) ← db.createPayment
    (adjustmentData rt request invoiceId original invoice.currency now)
  return (db.updateInvoice invoiceId (adjustInvoice invoice input.amount now), ⟨paymentId, false⟩)

theorem adjustTransaction_eq_ok {request : AdjustRequest}
    (h : adjustTransaction rt request invoiceId now db = .ok (db', result)) :
    ∃ original invoice, db.payments.get? request.originalPaymentId = some original ∧
      original.provider = "manual" ∧ original.kind = .charge ∧ original.status = .succeeded ∧
      db.invoices.get? invoiceId = some invoice ∧ 0 < request.input.amount ∧
      request.input.amount ≤ original.amount - adjustedAmount db request.originalPaymentId ∧
      request.input.amount ≤ invoice.amountPaid ∧
      (¬ Taken request.input.submissionKey db ∧ result = ⟨db.payments.size, false⟩) ∧
      db' = { db with
        payments := db.payments.insert
          (adjustmentData rt request invoiceId original invoice.currency now)
        invoices := db.invoices.update invoiceId
          (adjustInvoice invoice request.input.amount now) } := by
  simp only [adjustTransaction, eq_ok] at h
  obtain ⟨original, horiginal, ⟨hprovider, hkind, hstatus⟩, invoice, hinvoice, ⟨hleft, hpaid⟩,
    ⟨db₁, id⟩, hcreate, h⟩ := h
  rw [Database.createPayment_eq_ok] at hcreate
  obtain ⟨hpos, hfree, -, hout⟩ := hcreate
  obtain ⟨rfl, rfl⟩ := Prod.mk.inj hout
  obtain ⟨rfl, rfl⟩ := h
  exact ⟨original, invoice, horiginal, hprovider, hkind, hstatus, hinvoice, hpos, hleft, hpaid,
    ⟨not_taken hfree, rfl⟩, rfl⟩

/-- How far an `adjust` request is. -/
inductive AdjustState
  | lookup (request : AdjustRequest)
  | locate (request : AdjustRequest)
  | transact (request : AdjustRequest) (invoiceId : RowId)
  | raced (request : AdjustRequest)
  | done (result : Except Failure ManualPaymentCreationResult)

def adjustStep (rt : Runtime) (w : World) (db : Database) :
    AdjustState → Option (Database × AdjustState)
  | .lookup request =>
    match findBySubmissionKey db request.input.submissionKey with
    | some duplicate => some (db, .done
        (duplicateAdjustmentResult duplicate request.originalPaymentId request.input))
    | none => some (db, .locate request)
  | .locate request =>
    match db.payments.get? request.originalPaymentId with
    | some original => some (db, .transact request original.invoiceId)
    | none => some (db, .done (.error notFound))
  | .transact request invoiceId =>
    match atomically (adjustTransaction rt request invoiceId w.now) db with
    | (db', .ok result) => some (db', .done (.ok result))
    | (db', .error .uniqueConstraint) => some (db', .raced request)
    | (db', .error e) => some (db', .done (.error e))
  | .raced request =>
    match findBySubmissionKey db request.input.submissionKey with
    | some raced => some (db, .done
        (duplicateAdjustmentResult raced request.originalPaymentId request.input))
    | none => some (db, .done (.error
        (conflict "This manual payment reference has already been recorded.")))
  | .done _ => none

theorem adjustStep_writes {l l' : AdjustState} (h : adjustStep rt w db l = some (db', l')) :
    db' = db ∨ ∃ request invoiceId result, l = .transact request invoiceId ∧
      adjustTransaction rt request invoiceId w.now db = .ok (db', result) := by
  unfold adjustStep at h
  split at h
  · split at h <;> (cases h; exact .inl rfl)
  · split at h <;> (cases h; exact .inl rfl)
  · rename_i request invoiceId
    split at h <;>
    · rename_i heq
      cases h
      exact (atomically_store heq).imp_right fun ⟨result, hok⟩ =>
        ⟨request, invoiceId, result, rfl, hok⟩
  · split at h <;> (cases h; exact .inl rfl)
  · cases h

theorem adjustStep_transact {l : AdjustState} {request : AdjustRequest}
    (h : adjustStep rt w db l = some (db', .transact request invoiceId)) :
    db' = db ∧ ∃ payment, db.payments.get? request.originalPaymentId = some payment ∧
      payment.invoiceId = invoiceId := by
  unfold adjustStep at h
  split at h
  · split at h <;> cases h
  · split at h
    · rename_i payment hpayment
      cases h
      exact ⟨rfl, payment, hpayment, rfl⟩
    · cases h
  · split at h <;> cases h
  · split at h <;> cases h
  · cases h

/-- `PaymentService.adjust`. -/
def adjust (rt : Runtime) : Operation Database World where
  Request := AdjustRequest
  Local := AdjustState
  start := .lookup
  step := adjustStep rt

end PaymentService

end WebhostBilling
