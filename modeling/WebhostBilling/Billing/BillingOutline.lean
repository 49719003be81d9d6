import WebhostBilling.Billing.BillingOperations

/-!
# What the operations of billing may rely on

An operation that is about to write relies on little of what it read: an invoice keeps its order,
and its items once it is no draft; an order item changes only when it is fulfilled or its renewal is
ended.
-/

namespace WebhostBilling

open Store Store.Table Concurrency RenewalProcessorService

/-! ## What rows keep -/

def InvoiceStays (invoice invoice' : Invoice) : Prop :=
  invoice'.orderId = invoice.orderId ∧
    (invoice.status ≠ .draft → invoice'.status ≠ .draft ∧ invoice'.items = invoice.items)

def ItemStays (item item' : OrderItem) : Prop :=
  item' = { item with fulfilledAt := item'.fulfilledAt, renewalEndsAt := item'.renewalEndsAt }

theorem InvoiceStays.refl (invoice : Invoice) : InvoiceStays invoice invoice :=
  ⟨rfl, fun h => ⟨h, rfl⟩⟩

theorem ItemStays.refl (item : OrderItem) : ItemStays item item := rfl

theorem ItemStays.trans {item₁ item₂ item₃ : OrderItem} (h : ItemStays item₁ item₂)
    (h' : ItemStays item₂ item₃) : ItemStays item₁ item₃ := by
  rw [ItemStays] at h h' ⊢
  rw [h', h]

structure RowsStay (db db' : Database) : Prop where
  invoices : Table.Grows InvoiceStays db.invoices db'.invoices
  orderItems : Table.Grows ItemStays db.orderItems db'.orderItems

/-! ## Assertions -/

section

variable (lib : Libraries)

def billingAssertion (db : Database) :
    (op : BillingOperation) → (billingOperations lib op).Local → Prop
  | .ledger .applyAction, .transact invoiceId action current next _ =>
    (∃ invoice, db.invoices.get? invoiceId = some invoice ∧ invoice.orderId = current.orderId) ∧
      ∃ now, InvoiceService.nextInvoiceStatus action current.status current.dueAt
        current.balanceDue current.amountPaid now = .ok next
  | .ledger .updateStatus, .transact request current _ => request.status ≠ .paid ∧
      OrderService.isOrderTransitionAllowed current.status request.status = true
  | .createService, .commit input _ item order => item.kind = .hosting ∧
      (order.status = .paid ∨ order.status = .processing) ∧
      ∃ row, db.orderItems.get? input.orderItemId = some row ∧ ItemStays item row
  | .processPayment, .apply run items => ∀ item ∈ items, item.serviceId.isSome = true ∧
      ∃ invoice, db.invoices.get? run.invoiceId = some invoice ∧ invoice.status ≠ .draft ∧
        item ∈ invoice.items
  | _, _ => True

theorem billingAssertion_mono {db db' : Database} (hstay : RowsStay db db')
    (op : BillingOperation) (l : (billingOperations lib op).Local)
    (h : billingAssertion lib db op l) : billingAssertion lib db' op l := by
  cases op with
  | ledger op =>
    cases op with
    | applyAction =>
      cases l with
      | transact invoiceId action current next decidedAt =>
        obtain ⟨⟨invoice, hinvoice, horderId⟩, hnext⟩ := h
        obtain ⟨invoice', hinvoice', hstays⟩ := hstay.invoices invoiceId invoice hinvoice
        exact ⟨⟨invoice', hinvoice', hstays.1.trans horderId⟩, hnext⟩
      | read | done => trivial
    | updateStatus => cases l <;> exact h
    | submitManual | recordManual | review | adjust | processNormalizedEvent | createInvoice
    | updateDraft | createRenewalInvoice => trivial
  | createService =>
    cases l with
    | commit input activeAdapter item order =>
      obtain ⟨hkind, hstatus, row, hrow, hitem⟩ := h
      obtain ⟨row', hrow', hstays⟩ := hstay.orderItems input.orderItemId row hrow
      exact ⟨hkind, hstatus, row', hrow', hitem.trans hstays⟩
    | read | readItem | race | done => trivial
  | processPayment =>
    cases l with
    | apply run items =>
      intro item hitem
      obtain ⟨hservice, invoice, hinvoice, hissued, hmem⟩ := h item hitem
      obtain ⟨invoice', hinvoice', hstays⟩ := hstay.invoices run.invoiceId invoice hinvoice
      obtain ⟨hissued', hitems⟩ := hstays.2 hissued
      exact ⟨hservice, invoice', hinvoice', hissued', hitems ▸ hmem⟩
    | start | upsert | read | record | fail | done => trivial
  | hosting | fulfillAddOn | cancelAddOn | processOpenRenewals | dispatchOutbox => trivial

theorem billingAssertion_begin (db : Database) (op : BillingOperation)
    (request : (billingOperations lib op).Request) :
    billingAssertion lib db op ((billingOperations lib op).start request) := by
  cases op with
  | ledger op => cases op <;> trivial
  | hosting | createService | fulfillAddOn | cancelAddOn | processOpenRenewals | processPayment
  | dispatchOutbox => trivial

theorem billingAssertion_step {w : World} {db db' : Database} (op : BillingOperation)
    (l l' : (billingOperations lib op).Local)
    (h : (billingOperations lib op).step w db l = some (db', l')) :
    billingAssertion lib db' op l' := by
  cases op with
  | ledger op =>
    cases op with
    | applyAction =>
      cases l' with
      | transact invoiceId action current next decidedAt =>
        obtain ⟨rfl, hcurrent, hnext⟩ := InvoiceService.applyActionStep_transact h
        exact ⟨⟨current, hcurrent, rfl⟩, w.now, hnext⟩
      | read | done => trivial
    | updateStatus =>
      cases l' with
      | transact request current decidedAt =>
        obtain ⟨rfl, -, hpaid, hallowed⟩ := OrderService.updateStatusStep_transact h
        exact ⟨hpaid, hallowed⟩
      | read | done => trivial
    | submitManual | recordManual | review | adjust | processNormalizedEvent | createInvoice
    | updateDraft | createRenewalInvoice => trivial
  | createService =>
    cases l' with
    | commit input activeAdapter item order =>
      obtain ⟨rfl, hread⟩ := ServiceService.createStep_commit _ h
      obtain ⟨hitem, -, hstatus⟩ := ServiceService.readItem_eq_ok hread
      exact ⟨ServiceService.readItem_hosting hread, hstatus, item, hitem, ItemStays.refl item⟩
    | read | readItem | race | done => trivial
  | processPayment =>
    cases l' with
    | apply run items =>
      obtain ⟨rfl, rfl⟩ := paymentStep_apply h
      intro item hitem
      obtain ⟨invoice, hinvoice, hpaid, hmem, hservice⟩ :=
        mem_settledItems hitem
      exact ⟨hservice, invoice, hinvoice, by rw [hpaid]; decide, hmem⟩
    | start | upsert | read | record | fail | done => trivial
  | hosting | fulfillAddOn | cancelAddOn | processOpenRenewals | dispatchOutbox => trivial

def statusDecision : (op : BillingOperation) → (billingOperations lib op).Local →
    Option (OrderService.UpdateOrderStatusRequest × Order)
  | .ledger .updateStatus, .transact request current _ => some (request, current)
  | _, _ => none

/-! ## No step disturbs them -/

variable {lib}

theorem rowsStay_of_writes {db db' : Database} {invoices : Table Invoice} {orders : Table Order}
    {orderItems : Table OrderItem} {services : Table Service}
    (hwrites : Writes db' invoices orders orderItems services)
    (hinvoices : Table.Grows InvoiceStays db.invoices invoices)
    (horderItems : Table.Grows ItemStays db.orderItems orderItems) : RowsStay db db' :=
  ⟨hwrites.invoices ▸ hinvoices, hwrites.orderItems ▸ horderItems⟩

theorem stays_decidedInvoices (request : OrderService.UpdateOrderStatusRequest)
    (decidedAt now : ℕ) (db : Database) :
    Table.Grows InvoiceStays db.invoices (OrderService.decidedInvoices request decidedAt now db) := by
  rw [OrderService.decidedInvoices]
  split
  · refine grows_updateWhere InvoiceStays.refl fun id invoice _ _ => ⟨rfl, fun _ => ⟨?_, rfl⟩⟩
    rintro ⟨⟩
  · exact Grows.refl InvoiceStays.refl _

theorem rowsStay_of_effect {w : World} {db db' : Database} {op : BillingOperation}
    {l : (billingOperations lib op).Local} (hl : billingAssertion lib db op l)
    (h : BillingEffect lib w db op l db') : RowsStay db db' := by
  have hinvoices : Table.Grows InvoiceStays db.invoices db.invoices :=
    Grows.refl InvoiceStays.refl _
  have horderItems : Table.Grows ItemStays db.orderItems db.orderItems :=
    Grows.refl ItemStays.refl _
  cases h with
  | kept _ _ hwrites => exact rowsStay_of_writes hwrites hinvoices horderItems
  | @charged op l db' invoiceId invoice amount orders hinvoice hpayable _ _ _ hwrites =>
    refine rowsStay_of_writes hwrites (grows_update InvoiceStays.refl fun row hrow => ?_)
      horderItems
    obtain rfl := Option.mem_unique hinvoice hrow
    refine ⟨rfl, fun hissued => ⟨?_, rfl⟩⟩
    simp only [PaymentService.chargeInvoice]
    split
    · rintro ⟨⟩
    · exact hissued
  | settled _ _ _ _ hwrites =>
    exact rowsStay_of_writes hwrites
      (grows_update InvoiceStays.refl fun _ _ => ⟨rfl, fun _ => ⟨by rintro ⟨⟩, rfl⟩⟩) horderItems
  | adjusted _ _ _ hwrites =>
    refine rowsStay_of_writes hwrites (grows_update InvoiceStays.refl fun _ _ => ?_) horderItems
    refine ⟨rfl, fun _ => ⟨?_, rfl⟩⟩
    simp only [PaymentService.adjustInvoice]
    split <;> rintro ⟨⟩
  | drafted hwrites =>
    exact rowsStay_of_writes hwrites (grows_insert InvoiceStays.refl _ _) horderItems
  | redrafted hinvoice hdraft hwrites =>
    refine rowsStay_of_writes hwrites (grows_update InvoiceStays.refl fun row hrow => ?_)
      horderItems
    obtain rfl := Option.mem_unique hinvoice hrow
    exact ⟨rfl, fun hissued => absurd hdraft hissued⟩
  | @acted db' invoiceId action current invoice next decidedAt orders hinvoice _ _ _ _ hwrites =>
    obtain ⟨-, now, hnext⟩ := hl
    refine rowsStay_of_writes hwrites (grows_update InvoiceStays.refl fun _ _ => ?_) horderItems
    exact ⟨rfl, fun _ => ⟨(InvoiceService.nextInvoiceStatus_eq_ok hnext).2.2, rfl⟩⟩
  | decided _ hwrites =>
    exact rowsStay_of_writes hwrites (stays_decidedInvoices _ _ _ db) horderItems
  | renewed _ _ _ hwrites =>
    exact rowsStay_of_writes hwrites (grows_insert InvoiceStays.refl _ _) horderItems
  | overdue _ _ hwrites =>
    exact rowsStay_of_writes hwrites
      (grows_update InvoiceStays.refl fun _ _ => ⟨rfl, fun _ => ⟨by rintro ⟨⟩, rfl⟩⟩) horderItems
  | applied _ hwrites | created _ _ hwrites =>
    exact rowsStay_of_writes hwrites hinvoices horderItems
  | fulfilled _ _ _ _ hwrites | ended _ _ _ _ hwrites =>
    exact rowsStay_of_writes hwrites hinvoices (grows_update ItemStays.refl fun _ _ => rfl)

variable (lib)

/-- Threads rely on `billingAssertion`. -/
def billingOutline : Outline (billingOperations lib) where
  shared _ := True
  thread db t := billingAssertion lib db t.op t.loc

theorem billingOutline_sound : (billingOutline lib).Sound Config.anyStep where
  symm _ _ h := h
  call db op request _ := billingAssertion_begin lib db op request
  call_apart _ _ _ := trivial
  own w db t db' t' _ _ hthread hstep := by
    obtain ⟨l, hl, rfl⟩ := Thread.step_eq_some hstep
    exact ⟨trivial, billingAssertion_step lib t.op t.loc l hl⟩
  other w db t db' t' u _ _ hthread hu _ hstep := by
    obtain ⟨l, hl, rfl⟩ := Thread.step_eq_some hstep
    have hstay := rowsStay_of_effect hthread (effect_of_step t.op hl)
    exact ⟨billingAssertion_mono lib hstay u.op u.loc hu, trivial⟩

end

/-! ## Services stay with their order items -/

section

variable {services services' : Table Service}

theorem ServicesKept.keeps_terms (h : ServicesKept services services') :
    Table.Keeps Service.terms services services' := by
  rcases h with rfl | ⟨serviceId, f, hkeeps, rfl⟩
  · exact Keeps.refl _ _
  · exact keeps_update fun service _ => hkeeps service

theorem ServicesKept.keeps_orderItemId (h : ServicesKept services services') :
    Table.Keeps Service.orderItemId services services' :=
  h.keeps_terms.comp ServiceTerms.orderItemId

theorem billedServices_keeps_orderItemId (request : RenewalRequest)
    (service : Service) (db : Database) :
    Table.Keeps Service.orderItemId db.services (billedServices request service db) := by
  rw [billedServices]
  split
  · exact keeps_update fun _ _ => rfl
  · exact Keeps.refl _ _

theorem appliedServices_keeps_orderItemId (now : ℕ) (services : Table Service)
    (items : List InvoiceItem) : Table.Keeps Service.orderItemId services
      (appliedServices now services items) := by
  rw [appliedServices]
  induction items generalizing services with
  | nil => exact Keeps.refl _ services
  | cons item items ih =>
    have hitem : Table.Keeps Service.orderItemId services
        (appliedService now services item) := by
      unfold appliedService
      split
      · refine keeps_update fun service _ => ?_
        split <;> rfl
      · exact Keeps.refl _ services
    exact hitem.trans (ih _)

end

/-! ### An order and its invoice -/

def Libraries.onPlainText (toISOString : ℕ → String) : Libraries where
  runtime := Runtime.onPlainText referenceHash toISOString
  businessDay moment := moment / RenewalCalendar.millisecondsPerDay
  requestHash _ _ := ""
  payloadHash _ := ""

abbrev plainOperations : BillingOperation → Operation Database World :=
  billingOperations (Libraries.onPlainText fun moment => toString moment)

def orderedDatabase : Database where
  partialPaymentsEnabled := some true
  users := ⟨[{ role := .admin }]⟩
  customers := ⟨[{ userId := 0 }]⟩
  orders := ⟨[{ customerId := 0, status := .awaitingPayment, updatedAt := 0 }]⟩
  orderItems := ⟨[{
    orderId := 0, currency := "BDT", unitAmount := 100, lineTotal := 100,
    requestedDomain := some "example.test" }]⟩
  servers := ⟨[{ adapterKey := "fake-panel" }]⟩
  invoices := ⟨[{
    submissionKey := "invoice:order", customerId := 0, orderId := some 0, status := .unpaid,
    currency := "BDT", subtotal := 100, total := 100, balanceDue := 100, issuedAt := some 0,
    dueAt := 5, updatedAt := 0,
    items := [{ orderItemId := some 0, unitAmount := 100, lineTotal := 100 }] }]⟩

end WebhostBilling
