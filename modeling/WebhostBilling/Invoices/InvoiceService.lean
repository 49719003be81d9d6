import WebhostBilling.Database.World
import WebhostBilling.Database.OrderGuard
import WebhostBilling.Concurrency.Threads

/-!
# The invoice service

The amounts of a draft are computed from its items by `calculateInvoiceTotals`; an action is decided
on a read made before the transaction by `nextInvoiceStatus`, and written only while the columns it
was decided on are unchanged.
-/

namespace WebhostBilling

open Store Concurrency

namespace InvoiceService

/-! ## Totals -/

/-- The largest value of a PostgreSQL `bigint`. -/
def postgresBigintMax : ℤ := 9223372036854775807

/-- `Number.MAX_SAFE_INTEGER`. -/
def maxSafeInteger : ℤ := 9007199254740991

structure CalculableItem where
  quantity : ℤ
  unitAmount : ℤ
  discountAmount : ℤ
  taxAmount : ℤ

structure InvoiceTotals where
  subtotal : ℤ
  discountTotal : ℤ
  taxTotal : ℤ
  total : ℤ
  creditTotal : ℤ
  amountPaid : ℤ
  balanceDue : ℤ
  lineTotals : List ℤ

structure RunningTotals where
  subtotal : ℤ := 0
  discountTotal : ℤ := 0
  taxTotal : ℤ := 0
  lineTotals : List ℤ := []

/-- An `InvoiceCalculationError` carries only its message. -/
def checkedAdd (left right : ℤ) (label : String) : Except String ℤ := do
  require (right ≤ postgresBigintMax - left) (label ++ " exceeds the supported range.")
  return left + right

def addItem (sums : RunningTotals) (item : CalculableItem) : Except String RunningTotals := do
  require (1 ≤ item.quantity ∧ item.quantity ≤ maxSafeInteger) "Invoice quantity is invalid."
  require (0 ≤ item.unitAmount ∧ 0 ≤ item.discountAmount ∧ 0 ≤ item.taxAmount)
    "Invoice amounts cannot be negative."
  require (0 < item.unitAmount → item.quantity ≤ postgresBigintMax / item.unitAmount)
    "Invoice item subtotal exceeds the supported range."
  let gross := item.unitAmount * item.quantity
  require (item.discountAmount ≤ gross) "An item discount cannot exceed its subtotal."
  let lineTotal ← checkedAdd (gross - item.discountAmount) item.taxAmount "Invoice item total"
  let subtotal ← checkedAdd sums.subtotal gross "Invoice subtotal"
  let discountTotal ← checkedAdd sums.discountTotal item.discountAmount "Invoice discount total"
  let taxTotal ← checkedAdd sums.taxTotal item.taxAmount "Invoice tax total"
  return { subtotal, discountTotal, taxTotal, lineTotals := sums.lineTotals ++ [lineTotal] }

def calculateInvoiceTotals (items : List CalculableItem) (creditTotal : ℤ)
    (amountPaid : ℤ := 0) : Except String InvoiceTotals := do
  require (items ≠ []) "At least one invoice item is required."
  let sums ← items.foldlM addItem {}
  let total ← checkedAdd (sums.subtotal - sums.discountTotal) sums.taxTotal "Invoice total"
  require (0 ≤ creditTotal ∧ 0 ≤ amountPaid) "Settlement amounts cannot be negative."
  let settled ← checkedAdd creditTotal amountPaid "Invoice settlement"
  require (settled ≤ total) "Credits and payments cannot exceed the invoice total."
  return {
    subtotal := sums.subtotal, discountTotal := sums.discountTotal, taxTotal := sums.taxTotal,
    total, creditTotal, amountPaid, balanceDue := total - settled, lineTotals := sums.lineTotals }

theorem checkedAdd_eq_ok {left right sum : ℤ} {label : String} :
    checkedAdd left right label = .ok sum ↔ right ≤ postgresBigintMax - left ∧ left + right = sum := by
  simp only [checkedAdd, eq_ok]

/-- What the loop keeps: the three sums differ by the sum of the line totals, and every item
brought its own discount and line total along as amounts that are not negative. -/
theorem addItem_eq_ok {sums sums' : RunningTotals} {item : CalculableItem}
    (h : addItem sums item = .ok sums') :
    ∃ lineTotal, sums'.lineTotals = sums.lineTotals ++ [lineTotal] ∧ 0 ≤ lineTotal ∧
      sums'.subtotal - sums'.discountTotal + sums'.taxTotal =
        sums.subtotal - sums.discountTotal + sums.taxTotal + lineTotal := by
  simp only [addItem, eq_ok, checkedAdd_eq_ok] at h
  obtain ⟨-, ⟨-, -, htax⟩, -, hdiscount, line, ⟨-, hline⟩, sub, ⟨-, hsub⟩, disc, ⟨-, hdisc⟩,
    tax, ⟨-, htax'⟩, rfl⟩ := h
  refine ⟨line, rfl, ?_, ?_⟩
  · omega
  · show sub - disc + tax = _
    omega

theorem foldlM_addItem_eq_ok {items : List CalculableItem} {sums sums' : RunningTotals}
    (h : items.foldlM addItem sums = .ok sums')
    (hsums : sums.lineTotals.sum = sums.subtotal - sums.discountTotal + sums.taxTotal)
    (hpos : ∀ line ∈ sums.lineTotals, 0 ≤ line) :
    sums'.lineTotals.sum = sums'.subtotal - sums'.discountTotal + sums'.taxTotal ∧
      (∀ line ∈ sums'.lineTotals, 0 ≤ line) ∧
      sums'.lineTotals.length = sums.lineTotals.length + items.length := by
  induction items generalizing sums with
  | nil =>
    rw [List.foldlM_nil, pure_eq_ok] at h
    subst h
    exact ⟨hsums, hpos, rfl⟩
  | cons item items ih =>
    rw [List.foldlM_cons, bind_eq_ok] at h
    obtain ⟨sums₁, hitem, h⟩ := h
    obtain ⟨line, hlines, hline, hsum⟩ := addItem_eq_ok hitem
    have hlen : sums₁.lineTotals.length = sums.lineTotals.length + 1 := by simp [hlines]
    obtain ⟨h₁, h₂, h₃⟩ := ih h
      (by rw [hlines, List.sum_append, List.sum_singleton]; omega)
      (by
        intro l hl
        rw [hlines, List.mem_append, List.mem_singleton] at hl
        rcases hl with hl | rfl
        · exact hpos l hl
        · exact hline)
    exact ⟨h₁, h₂, by rw [h₃, hlen, List.length_cons]; omega⟩

variable {db db' : Database} {current : Invoice} {next status : InvoiceStatus}
  {amounts : InvoiceTotals} {invoiceId : RowId} {u : Unit} {w : World}
  {decidedAt dueAt now : ℕ} {amountPaid balanceDue : ℤ}

/-- **What the totals of an invoice say**: the line totals, one for each item, add up to the total,
and what credit and payments leave open is the balance, which is not negative. -/
theorem calculateInvoiceTotals_eq_ok {items : List CalculableItem} {creditTotal : ℤ}
    {totals : InvoiceTotals}
    (h : calculateInvoiceTotals items creditTotal amountPaid = .ok totals) :
    totals.lineTotals.length = items.length ∧ totals.lineTotals.sum = totals.total ∧
      totals.total = totals.subtotal - totals.discountTotal + totals.taxTotal ∧
      totals.creditTotal = creditTotal ∧ totals.amountPaid = amountPaid ∧
      totals.balanceDue = totals.total - creditTotal - amountPaid ∧
      0 ≤ totals.balanceDue ∧ 0 ≤ creditTotal ∧ 0 ≤ amountPaid := by
  simp only [calculateInvoiceTotals, eq_ok, checkedAdd_eq_ok] at h
  obtain ⟨-, sums, hsums, total, ⟨-, htotal⟩, ⟨hcredit, hpaid⟩, settled, ⟨-, hsettled⟩, hle, rfl⟩ := h
  obtain ⟨hsum, -, hlen⟩ := foldlM_addItem_eq_ok hsums rfl (by simp)
  refine ⟨by simpa using hlen, ?_, ?_, rfl, rfl, ?_, ?_, hcredit, hpaid⟩
  · show sums.lineTotals.sum = total
    omega
  · show total = sums.subtotal - sums.discountTotal + sums.taxTotal
    omega
  · show total - settled = total - creditTotal - amountPaid
    omega
  · show 0 ≤ total - settled
    omega

/-! ## Actions -/

inductive InvoiceAction
  | issue
  | markOverdue
  | cancel
deriving DecidableEq

/-- The status an action leads to, or the message of an `InvoiceStateTransitionError`. -/
def nextInvoiceStatus (action : InvoiceAction) (status : InvoiceStatus) (dueAt : ℕ)
    (balanceDue amountPaid : ℤ) (now : ℕ) : Except String InvoiceStatus := do
  match action with
  | .issue =>
    require (status = .draft) "Only a draft invoice can be issued."
    require (now ≤ dueAt) "Invoice due date cannot precede its issue date."
    return if balanceDue = 0 then .paid else .unpaid
  | .markOverdue =>
    require (status = .unpaid ∧ balanceDue ≠ 0 ∧ dueAt < now)
      "Only a past-due unpaid invoice with a balance can be marked overdue."
    return .overdue
  | .cancel =>
    require ((status = .draft ∨ status = .unpaid ∨ status = .overdue) ∧ amountPaid ≤ 0)
      "Paid or settled invoices cannot be cancelled; use a refund or reversal."
    return .cancelled

variable {action : InvoiceAction}

theorem nextInvoiceStatus_eq_ok
    (h : nextInvoiceStatus action status dueAt balanceDue amountPaid now = .ok next) :
    (status = .draft ∨ status = .unpaid ∨ status = .overdue) ∧
      (next = .paid → status = .draft ∧ balanceDue = 0) ∧ next ≠ .draft := by
  cases action with
  | issue =>
    simp only [nextInvoiceStatus, eq_ok] at h
    obtain ⟨hdraft, -, hnext⟩ := h
    split at hnext <;> subst hnext
    · rename_i hzero
      exact ⟨.inl hdraft, fun _ => ⟨hdraft, hzero⟩, by simp⟩
    · exact ⟨.inl hdraft, by simp, by simp⟩
  | markOverdue =>
    simp only [nextInvoiceStatus, eq_ok] at h
    obtain ⟨⟨hunpaid, -⟩, rfl⟩ := h
    exact ⟨.inr (.inl hunpaid), by simp, by simp⟩
  | cancel =>
    simp only [nextInvoiceStatus, eq_ok] at h
    obtain ⟨⟨hstatus, -⟩, rfl⟩ := h
    exact ⟨hstatus, by simp, by simp⟩

theorem nextInvoiceStatus_cancelled
    (h : nextInvoiceStatus action status dueAt balanceDue amountPaid now = .ok .cancelled) :
    action = .cancel ∧ amountPaid ≤ 0 := by
  cases action with
  | issue =>
    simp only [nextInvoiceStatus, eq_ok] at h
    split at h <;> exact absurd h.2.2 (by rintro ⟨⟩)
  | markOverdue =>
    simp only [nextInvoiceStatus, eq_ok] at h
    exact absurd h.2 (by rintro ⟨⟩)
  | cancel =>
    simp only [nextInvoiceStatus, eq_ok] at h
    exact ⟨rfl, h.1.2⟩

theorem nextInvoiceStatus_cancel
    (h : nextInvoiceStatus .cancel status dueAt balanceDue amountPaid now = .ok next) :
    next = .cancelled := by
  simp only [nextInvoiceStatus, eq_ok] at h
  exact h.2.symm

/-! ## Errors -/

def notFound : Failure := .application .resourceNotFound "Invoice was not found."

def invalidAction (message : String) : Failure := .application .unprocessableEntity message

def unprocessable {α : Type} : Except String α → Except Failure α
  | .ok a => .ok a
  | .error message => .error (invalidAction message)

theorem unprocessable_eq_ok {α : Type} {x : Except String α} {a : α} :
    unprocessable x = .ok a ↔ x = .ok a := by
  cases x <;> simp [unprocessable]

/-! ## Drafts -/

structure InvoiceItemInput where
  description : String
  quantity : ℤ := 1
  unitAmount : ℤ
  discountAmount : ℤ := 0
  taxAmount : ℤ := 0
  servicePeriodStart : Option ℕ := none
  servicePeriodEnd : Option ℕ := none
deriving DecidableEq

structure DraftInvoiceFields where
  currency : String
  dueAt : ℕ
  creditTotal : ℤ := 0
  items : List InvoiceItemInput

structure CreateInvoiceRequest extends DraftInvoiceFields where
  customerId : RowId
  submissionKey : String

structure InvoiceCreationResult where
  invoiceId : RowId
  duplicate : Bool

def parseAndCalculate (input : DraftInvoiceFields) : Except Failure InvoiceTotals :=
  unprocessable <| calculateInvoiceTotals
    (input.items.map fun item => ⟨item.quantity, item.unitAmount, item.discountAmount, item.taxAmount⟩)
    input.creditTotal

def itemCreateData (item : InvoiceItemInput) (lineTotal : ℤ) : InvoiceItem where
  descriptionSnapshot := item.description
  quantity := item.quantity
  unitAmount := item.unitAmount
  discountAmount := item.discountAmount
  taxAmount := item.taxAmount
  lineTotal := lineTotal
  servicePeriodStart := item.servicePeriodStart
  servicePeriodEnd := item.servicePeriodEnd

/-- The part of a stored item that `duplicateResult` compares with a submitted one. -/
def submittedItem (item : InvoiceItem) : InvoiceItemInput where
  description := item.descriptionSnapshot
  quantity := item.quantity
  unitAmount := item.unitAmount
  discountAmount := item.discountAmount
  taxAmount := item.taxAmount
  servicePeriodStart := item.servicePeriodStart
  servicePeriodEnd := item.servicePeriodEnd

def findBySubmissionKey (db : Database) (key : String) : Option (RowId × Invoice) :=
  db.invoices.find? fun _ invoice => invoice.submissionKey = key

def duplicateResult (existing : RowId × Invoice) (input : CreateInvoiceRequest) :
    Except Failure InvoiceCreationResult := do
  let invoice := existing.2
  require (invoice.customerId = input.customerId ∧ invoice.currency = input.currency ∧
      invoice.dueAt = input.dueAt ∧ invoice.creditTotal = input.creditTotal ∧
      invoice.items.map submittedItem = input.items)
    (.application .conflict "This submission key has already been used for another invoice.")
  return ⟨existing.1, true⟩

def draftInvoice (input : CreateInvoiceRequest) (amounts : InvoiceTotals) (now : ℕ) : Invoice where
  submissionKey := input.submissionKey
  customerId := input.customerId
  currency := input.currency
  subtotal := amounts.subtotal
  discountTotal := amounts.discountTotal
  taxTotal := amounts.taxTotal
  total := amounts.total
  creditTotal := amounts.creditTotal
  balanceDue := amounts.balanceDue
  dueAt := input.dueAt
  updatedAt := now
  items := List.zipWith itemCreateData input.items amounts.lineTotals

/-- The transaction of `create`. -/
def createTransaction (input : CreateInvoiceRequest) (amounts : InvoiceTotals) (now : ℕ) :
    Tx RowId := fun db => do
  let customer ← orThrow (.application .unprocessableEntity
    "The selected customer account is not active.") (db.customers.get? input.customerId)
  require (customer.active = true ∧ customer.deleted = false)
    (.application .unprocessableEntity "The selected customer account is not active.")
  db.createInvoice (draftInvoice input amounts now)

/-- How far a `create` request is. -/
inductive CreateState
  | lookup (input : CreateInvoiceRequest)
  | transact (input : CreateInvoiceRequest) (amounts : InvoiceTotals)
  | raced (input : CreateInvoiceRequest)
  | done (result : Except Failure InvoiceCreationResult)

def createStep (w : World) (db : Database) : CreateState → Option (Database × CreateState)
  | .lookup input =>
    match findBySubmissionKey db input.submissionKey with
    | some existing => some (db, .done (duplicateResult existing input))
    | none =>
      match parseAndCalculate input.toDraftInvoiceFields with
      | .ok amounts => some (db, .transact input amounts)
      | .error e => some (db, .done (.error e))
  | .transact input amounts =>
    match atomically (createTransaction input amounts w.now) db with
    | (db', .ok id) => some (db', .done (.ok ⟨id, false⟩))
    | (db', .error .uniqueConstraint) => some (db', .raced input)
    | (db', .error e) => some (db', .done (.error e))
  | .raced input =>
    match findBySubmissionKey db input.submissionKey with
    | some existing => some (db, .done (duplicateResult existing input))
    | none => some (db, .done (.error (.application .conflict
        "Could not allocate a unique invoice number. Try again.")))
  | .done _ => none

theorem createStep_writes {l l' : CreateState} (h : createStep w db l = some (db', l')) :
    db' = db ∨ ∃ input amounts id, l = .transact input amounts ∧
      createTransaction input amounts w.now db = .ok (db', id) := by
  unfold createStep at h
  split at h
  · split at h
    · cases h; exact .inl rfl
    · split at h <;> (cases h; exact .inl rfl)
  · rename_i input amounts
    split at h <;>
    · rename_i heq
      cases h
      exact (atomically_store heq).imp_right fun ⟨id, hok⟩ => ⟨input, amounts, id, rfl, hok⟩
  · split at h <;> (cases h; exact .inl rfl)
  · cases h

variable {input : CreateInvoiceRequest} {updatedAt : ℕ}

theorem createStep_transact {l : CreateState}
    (h : createStep w db l = some (db', .transact input amounts)) :
    db' = db ∧ parseAndCalculate input.toDraftInvoiceFields = .ok amounts := by
  unfold createStep at h
  split at h
  · split at h
    · cases h
    · split at h
      · rename_i hamounts
        cases h
        exact ⟨rfl, hamounts⟩
      · cases h
  · split at h <;> cases h
  · split at h <;> cases h
  · cases h

/-- `InvoiceService.create`. -/
def create : Operation Database World where
  Request := CreateInvoiceRequest
  Local := CreateState
  start := .lookup
  step := createStep

def redraft (input : DraftInvoiceFields) (amounts : InvoiceTotals) (now : ℕ) (invoice : Invoice) :
    Invoice :=
  { invoice with
    currency := input.currency
    dueAt := input.dueAt
    subtotal := amounts.subtotal
    discountTotal := amounts.discountTotal
    taxTotal := amounts.taxTotal
    total := amounts.total
    creditTotal := amounts.creditTotal
    balanceDue := amounts.balanceDue
    updatedAt := now
    items := List.zipWith itemCreateData input.items amounts.lineTotals }

/-- The transaction of `updateDraft`: it claims the draft by its status and its last update. -/
def updateDraftTransaction (invoiceId : RowId) (input : DraftInvoiceFields) (amounts : InvoiceTotals)
    (updatedAt now : ℕ) : Tx Unit := fun db => do
  let claimed := invalidAction
    "The invoice changed while it was being edited. Reload and try again."
  let invoice ← orThrow claimed (db.invoices.get? invoiceId)
  require (invoice.status = .draft ∧ invoice.updatedAt = updatedAt) claimed
  return (db.updateInvoice invoiceId (redraft input amounts now), ())

/-- How far an `updateDraft` request is. -/
inductive UpdateDraftState
  | read (invoiceId : RowId) (input : DraftInvoiceFields)
  | transact (invoiceId : RowId) (input : DraftInvoiceFields) (amounts : InvoiceTotals)
      (updatedAt : ℕ)
  | done (result : Except Failure Unit)

def updateDraftStep (w : World) (db : Database) :
    UpdateDraftState → Option (Database × UpdateDraftState)
  | .read invoiceId input =>
    match db.invoices.get? invoiceId with
    | none => some (db, .done (.error notFound))
    | some current =>
      if current.status ≠ .draft then
        some (db, .done (.error (invalidAction "Only a draft invoice can be edited.")))
      else
        match parseAndCalculate input with
        | .ok amounts => some (db, .transact invoiceId input amounts current.updatedAt)
        | .error e => some (db, .done (.error e))
  | .transact invoiceId input amounts updatedAt =>
    let out := atomically (updateDraftTransaction invoiceId input amounts updatedAt w.now) db
    some (out.1, .done out.2)
  | .done _ => none

theorem updateDraftStep_writes {l l' : UpdateDraftState}
    (h : updateDraftStep w db l = some (db', l')) :
    db' = db ∨ ∃ invoiceId input amounts updatedAt, l = .transact invoiceId input amounts updatedAt ∧
      updateDraftTransaction invoiceId input amounts updatedAt w.now db = .ok (db', ()) := by
  unfold updateDraftStep at h
  split at h
  · split at h
    · cases h; exact .inl rfl
    · split at h
      · cases h; exact .inl rfl
      · split at h <;> (cases h; exact .inl rfl)
  · rename_i invoiceId input amounts updatedAt
    cases h
    exact (atomically_store rfl).imp_right fun ⟨_, hok⟩ =>
      ⟨invoiceId, input, amounts, updatedAt, rfl, hok⟩
  · cases h

theorem updateDraftStep_transact {l : UpdateDraftState} {input : DraftInvoiceFields}
    (h : updateDraftStep w db l = some (db', .transact invoiceId input amounts updatedAt)) :
    db' = db ∧ parseAndCalculate input = .ok amounts := by
  unfold updateDraftStep at h
  split at h
  · split at h
    · cases h
    · split at h
      · cases h
      · split at h
        · rename_i hamounts
          cases h
          exact ⟨rfl, hamounts⟩
        · cases h
  · cases h
  · cases h

/-- `InvoiceService.updateDraft`. -/
def updateDraft : Operation Database World where
  Request := RowId × DraftInvoiceFields
  Local := UpdateDraftState
  start request := .read request.1 request.2
  step := updateDraftStep

theorem createTransaction_eq_ok {id : RowId}
    (h : createTransaction input amounts now db = .ok (db', id)) :
    db' = { db with invoices := db.invoices.insert (draftInvoice input amounts now) } := by
  simp only [createTransaction, eq_ok, Database.createInvoice_eq_ok] at h
  obtain ⟨-, -, -, -, h⟩ := h
  exact h.1

theorem updateDraftTransaction_eq_ok {input : DraftInvoiceFields}
    (h : updateDraftTransaction invoiceId input amounts updatedAt now db = .ok (db', u)) :
    ∃ invoice, db.invoices.get? invoiceId = some invoice ∧ invoice.status = .draft ∧
      db' = db.updateInvoice invoiceId (redraft input amounts now) := by
  simp only [updateDraftTransaction, eq_ok] at h
  obtain ⟨invoice, hinvoice, ⟨hdraft, -⟩, h⟩ := h
  exact ⟨invoice, hinvoice, hdraft, h.1.symm⟩

/-! ## Applying an action -/

/-- `CANCEL` takes an order that still waits for its payment along. -/
def cancelWaitingOrder (action : InvoiceAction) (orderId : Option RowId) (decidedAt now : ℕ)
    (db : Database) : Except Failure Database :=
  match action, orderId with
  | .cancel, some orderId => db.updateOrderWhile orderId [.pending, .awaitingPayment] fun order =>
      { order with status := .cancelled, cancelledAt := some decidedAt, updatedAt := now }
  | _, _ => .ok db

def announceAction (action : InvoiceAction) (invoiceId : RowId) (db : Database) :
    Except Failure Database :=
  match action with
  | .issue => db.createOutboxEvent {
      aggregateType := .invoice, aggregateId := invoiceId, eventType := .emailInvoiceCreated,
      idempotencyKey := .emailInvoiceCreated invoiceId, payload := .invoice invoiceId }
  | .markOverdue => db.createOutboxEvent {
      aggregateType := .invoice, aggregateId := invoiceId, eventType := .emailOverdueNotice,
      idempotencyKey := .emailOverdueNotice invoiceId, payload := .invoice invoiceId }
  | .cancel => .ok db

def actionData (action : InvoiceAction) (next : InvoiceStatus) (decidedAt now : ℕ)
    (invoice : Invoice) : Invoice :=
  { invoice with
    status := next
    issuedAt := if action = .issue then some decidedAt else invoice.issuedAt
    paidAt := if action = .issue ∧ next = .paid then some decidedAt else invoice.paidAt
    cancelledAt := if action = .cancel then some decidedAt else invoice.cancelledAt
    updatedAt := now }

/-- The transaction of `applyAction`: it writes only while every column the action was decided on
has the value that was read. -/
def applyActionTransaction (invoiceId : RowId) (action : InvoiceAction) (current : Invoice)
    (next : InvoiceStatus) (decidedAt now : ℕ) : Tx Unit := fun db => do
  let changed := invalidAction
    "The invoice changed while the action was being applied. Reload and try again."
  let invoice ← orThrow changed (db.invoices.get? invoiceId)
  require (invoice.status = current.status ∧ invoice.dueAt = current.dueAt ∧
    invoice.balanceDue = current.balanceDue ∧ invoice.amountPaid = current.amountPaid ∧
    invoice.updatedAt = current.updatedAt) changed
  let db := db.updateInvoice invoiceId (actionData action next decidedAt now)
  let db ← cancelWaitingOrder action current.orderId decidedAt now db
  let db ← announceAction action invoiceId db
  return (db, ())

/-- The order of an invoice may have been taken along by the invoice's cancellation. -/
def OrderCancelled (action : InvoiceAction) (current : Invoice) (decidedAt now : ℕ)
    (orders orders' : Table Order) : Prop :=
  orders' = orders ∨ ∃ orderId order, action = .cancel ∧ current.orderId = some orderId ∧
    orders.get? orderId = some order ∧
    (order.status = .pending ∨ order.status = .awaitingPayment) ∧
    orders' = orders.update orderId fun order =>
      { order with status := .cancelled, cancelledAt := some decidedAt, updatedAt := now }

theorem cancelWaitingOrder_eq_ok
    (h : cancelWaitingOrder action current.orderId decidedAt now db = .ok db') :
    ∃ orders, OrderCancelled action current decidedAt now db.orders orders ∧ db' =
    { db with orders := orders } := by
  unfold cancelWaitingOrder at h
  split at h
  · rename_i orderId horderId
    rcases db.updateOrderWhile_eq_ok h with rfl | ⟨order, horder, hstatus, -, rfl⟩
    · exact ⟨db'.orders, .inl rfl, rfl⟩
    · exact ⟨_, .inr ⟨orderId, order, rfl, horderId, horder, by simpa using hstatus, rfl⟩, rfl⟩
  · exact ⟨db.orders, .inl rfl, (Except.ok.inj h).symm⟩

theorem announceAction_eq_ok (h : announceAction action invoiceId db = .ok db') :
    ∃ events, db' = { db with outboxEvents := events } := by
  cases action with
  | issue | markOverdue => exact ⟨_, ((db.createOutboxEvent_eq_ok).1 h).2⟩
  | cancel => exact ⟨db.outboxEvents, (Except.ok.inj h).symm⟩

theorem applyActionTransaction_eq_ok
    (h : applyActionTransaction invoiceId action current next decidedAt now db = .ok (db', u)) :
    ∃ invoice orders events, db.invoices.get? invoiceId = some invoice ∧
      invoice.status = current.status ∧ invoice.balanceDue = current.balanceDue ∧
      invoice.amountPaid = current.amountPaid ∧
      OrderCancelled action current decidedAt now db.orders orders ∧
      db' = { db with
        invoices := db.invoices.update invoiceId (actionData action next decidedAt now)
        orders := orders
        outboxEvents := events } := by
  simp only [applyActionTransaction, eq_ok] at h
  obtain ⟨invoice, hinvoice, ⟨hstatus, -, hbalance, hpaid, -⟩, db₁, horder, db₂, hevent, rfl,
    -⟩ := h
  obtain ⟨orders, horders, rfl⟩ := cancelWaitingOrder_eq_ok horder
  obtain ⟨events, rfl⟩ := announceAction_eq_ok hevent
  exact ⟨invoice, orders, events, hinvoice, hstatus, hbalance, hpaid, horders, rfl⟩

/-- How far an `applyAction` request is. -/
inductive ApplyActionState
  | read (invoiceId : RowId) (action : InvoiceAction)
  | transact (invoiceId : RowId) (action : InvoiceAction) (current : Invoice) (next : InvoiceStatus)
      (decidedAt : ℕ)
  | done (result : Except Failure Unit)

def applyActionStep (w : World) (db : Database) :
    ApplyActionState → Option (Database × ApplyActionState)
  | .read invoiceId action =>
    match db.invoices.get? invoiceId with
    | none => some (db, .done (.error notFound))
    | some current =>
      match unprocessable (nextInvoiceStatus action current.status current.dueAt
        current.balanceDue current.amountPaid w.now) with
      | .ok next => some (db, .transact invoiceId action current next w.now)
      | .error e => some (db, .done (.error e))
  | .transact invoiceId action current next decidedAt =>
    let out := atomically
      (applyActionTransaction invoiceId action current next decidedAt w.now) db
    some (out.1, .done out.2)
  | .done _ => none

theorem applyActionStep_writes {l l' : ApplyActionState}
    (h : applyActionStep w db l = some (db', l')) :
    db' = db ∨ ∃ invoiceId action current next decidedAt,
      l = .transact invoiceId action current next decidedAt ∧
      applyActionTransaction invoiceId action current next decidedAt w.now db = .ok (db', ()) := by
  unfold applyActionStep at h
  split at h
  · split at h
    · cases h; exact .inl rfl
    · split at h <;> (cases h; exact .inl rfl)
  · rename_i invoiceId action current next decidedAt
    cases h
    exact (atomically_store rfl).imp_right fun ⟨_, hok⟩ =>
      ⟨invoiceId, action, current, next, decidedAt, rfl, hok⟩
  · cases h

theorem applyActionStep_transact {l : ApplyActionState} (h : applyActionStep w db l =
      some (db', .transact invoiceId action current next decidedAt)) :
    db' = db ∧ db.invoices.get? invoiceId = some current ∧ nextInvoiceStatus action current.status
      current.dueAt current.balanceDue current.amountPaid w.now = .ok next := by
  unfold applyActionStep at h
  split at h
  · split at h
    · cases h
    · rename_i hcurrent
      split at h
      · rename_i hnext
        cases h
        exact ⟨rfl, hcurrent, unprocessable_eq_ok.1 hnext⟩
      · cases h
  · cases h
  · cases h

/-- `InvoiceService.applyAction`. -/
def applyAction : Operation Database World where
  Request := RowId × InvoiceAction
  Local := ApplyActionState
  start request := .read request.1 request.2
  step := applyActionStep

end InvoiceService

end WebhostBilling
