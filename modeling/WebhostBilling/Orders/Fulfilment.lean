import WebhostBilling.Billing.BillingOutline

/-!
# Fulfilment

A service is created only for an order that is paid or being processed, and an administrator cannot
mark an order as paid; but the table of transitions lets a failed order be processed, and a failed
order need never have been paid.
-/

namespace WebhostBilling

open Store Store.Table Concurrency Config

/-! ## What is said of an order -/

/-- An invoice of the order has nothing left to pay. -/
def FullyPaid (orderId : RowId) (db : Database) : Prop :=
  ∃ i invoice, db.invoices.get? i = some invoice ∧
    (invoice.orderId = some orderId ∧ invoice.balanceDue = 0)

def WasPaid (orderId : RowId) (db : Database) : Prop :=
  ∃ i invoice, db.invoices.get? i = some invoice ∧
    (invoice.orderId = some orderId ∧ (invoice.balanceDue = 0 ∨ invoice.paidAt.isSome = true))

/-- Delivery of the order has begun. -/
def Fulfilled (orderId : RowId) (db : Database) : Prop :=
  (∃ order, db.orders.get? orderId = some order ∧
    (order.status = .processing ∨ order.status = .completed)) ∨
  ∃ i service, db.services.get? i = some service ∧ ∃ itemId item,
    service.orderItemId = some itemId ∧ db.orderItems.get? itemId = some item ∧
      item.orderId = orderId

instance (orderId : RowId) (db : Database) : Decidable (FullyPaid orderId db) :=
  inferInstanceAs (Decidable (∃ i invoice, db.invoices.get? i = some invoice ∧ _))

instance (orderId : RowId) (db : Database) : Decidable (WasPaid orderId db) :=
  inferInstanceAs (Decidable (∃ i invoice, db.invoices.get? i = some invoice ∧ _))

def OrderWaits (orderId : RowId) (orders : Table Order) : Prop :=
  ∀ order, orders.get? orderId = some order →
    order.status ≠ .paid ∧ order.status ≠ .processing ∧ order.status ≠ .completed

def WithoutService (orderId : RowId) (orderItems : Table OrderItem) (services : Table Service) :
    Prop :=
  ∀ i service itemId item, services.get? i = some service → service.orderItemId = some itemId →
    orderItems.get? itemId = some item → item.orderId ≠ orderId

def Unsettled (orderId : RowId) (invoices : Table Invoice) : Prop :=
  ∀ i invoice, invoices.get? i = some invoice → invoice.orderId = some orderId →
    invoice.paidAt = none

/-- What is true of an order until its invoice is paid. -/
structure Unfulfilled (orderId : RowId) (db : Database) : Prop where
  order : OrderWaits orderId db.orders
  service : WithoutService orderId db.orderItems db.services
  invoice : Unsettled orderId db.invoices

/-- An unpaid order that nothing was delivered for. -/
structure NewOrder (orderId : RowId) (db : Database) : Prop where
  order : ∃ order, db.orders.get? orderId = some order ∧
    (order.status = .pending ∨ order.status = .awaitingPayment)
  service : WithoutService orderId db.orderItems db.services
  invoice : Unsettled orderId db.invoices

theorem NewOrder.unfulfilled {orderId : RowId} {db : Database} (h : NewOrder orderId db) :
    Unfulfilled orderId db where
  order order horder := by
    obtain ⟨order', horder', hstatus⟩ := h.order
    obtain rfl := Option.mem_unique horder horder'
    rcases hstatus with hstatus | hstatus <;> simp [hstatus]
  service := h.service
  invoice := h.invoice

theorem Unfulfilled.not_fulfilled {orderId : RowId} {db : Database} (h : Unfulfilled orderId db) :
    ¬ Fulfilled orderId db := by
  rintro (⟨order, horder, hstatus⟩ | ⟨i, service, hservice, itemId, item, hitemId, hitem, horderId⟩)
  · obtain ⟨-, hprocessing, hcompleted⟩ := h.order order horder
    exact hstatus.elim hprocessing hcompleted
  · exact h.service i service itemId item hservice hitemId hitem horderId

/-! ## What the writes do to them -/

section

variable {orderId : RowId}

variable {orders orders' : Table Order} {now : ℕ} {invoice : Invoice} {invoices : Table Invoice}

theorem OrderWaits.update (h : OrderWaits orderId orders) {id : RowId} {f : Order → Order}
    (hf : id = orderId → ∀ order, orders.get? id = some order → (f order).status ≠ .paid ∧
      (f order).status ≠ .processing ∧ (f order).status ≠ .completed) :
    OrderWaits orderId (orders.update id f) := by
  intro order horder
  rcases get?_update_cases horder with ⟨rfl, row, hrow, rfl⟩ | ⟨-, hrow⟩
  · exact hf rfl row hrow
  · exact h order hrow

theorem OrderWaits.completed (h : OrderWaits orderId orders)
    (hcompleted : OrderCompleted now orders orders') :
    OrderWaits orderId orders' := by
  rcases hcompleted with rfl | ⟨id, order, horder, hstatus, rfl⟩
  · exact h
  · refine h.update fun hid => ?_
    subst hid
    exact absurd hstatus (h order horder).2.1

theorem OrderWaits.paid {amount : ℤ} (h : OrderWaits orderId orders)
    (hunpaid : invoice.orderId = some orderId → invoice.balanceDue - amount ≠ 0)
    (hpaid : PaymentService.OrderPaidBy invoice amount now orders orders') : OrderWaits orderId orders' := by
  rcases hpaid with rfl | ⟨hzero, rfl | ⟨id, order, hid, -, -, rfl⟩⟩
  · exact h
  · exact h
  · refine h.update fun hown => ?_
    subst hown
    exact absurd hzero (hunpaid hid)

theorem Unsettled.update (h : Unsettled orderId invoices) {i : RowId} {f : Invoice → Invoice}
    (hf : ∀ row, invoices.get? i = some row → (f row).orderId = row.orderId ∧
      (row.orderId = some orderId → row.paidAt = none → (f row).paidAt = none)) :
    Unsettled orderId (invoices.update i f) := by
  intro j invoice hinvoice horderId
  rcases get?_update_cases hinvoice with ⟨rfl, row, hrow, rfl⟩ | ⟨-, hrow⟩
  · obtain ⟨hown, hkeeps⟩ := hf row hrow
    rw [hown] at horderId
    exact hkeeps horderId (h i row hrow horderId)
  · exact h j invoice hrow horderId

theorem Unsettled.insert (h : Unsettled orderId invoices) (horderId : invoice.orderId = none) :
    Unsettled orderId (invoices.insert invoice) := by
  intro j row hrow hown
  rcases get?_insert_cases hrow with ⟨-, rfl⟩ | hrow
  · rw [horderId] at hown
    exact nomatch hown
  · exact h j row hrow hown

theorem WithoutService.keeps {orderItems orderItems' : Table OrderItem}
    {services services' : Table Service} (h : WithoutService orderId orderItems services)
    (hitems : Table.Keeps OrderItem.orderId orderItems orderItems')
    (hservices : Table.Keeps Service.orderItemId services services') :
    WithoutService orderId orderItems' services' := by
  intro i service' itemId item' hservice' hitemId hitem'
  obtain ⟨service, hservice, hsame⟩ := hservices i service' hservice'
  obtain ⟨item, hitem, hown⟩ := hitems itemId item' hitem'
  rw [hown]
  exact h i service itemId item hservice (hsame ▸ hitemId) hitem

end

/-! ## Runs -/

section

variable {lib : Libraries}

/-- A decision that resumes the failed order finds that it was paid. -/
def RetryPaid (orderId : RowId) (_ : World) (db : Database) (t : Thread (billingOperations lib)) :
    Prop :=
  ∀ decision ∈ statusDecision lib t.op t.loc, decision.1.orderId = orderId →
    decision.1.status = .processing → decision.2.status = .failed → WasPaid orderId db
deriving Decidable

def awaitsPayment (orderId : RowId) :
    (op : BillingOperation) → (billingOperations lib op).Local → Prop
  | .ledger .updateStatus, .transact request current _ => request.orderId = orderId →
      request.status ≠ .completed ∧ (request.status = .processing → current.status = .failed)
  | .createService, .commit _ _ item _ => item.orderId ≠ orderId
  | _, _ => True

theorem allowed_before_payment {current next : OrderStatus} (hpaid : current ≠ .paid)
    (hprocessing : current ≠ .processing)
    (h : OrderService.isOrderTransitionAllowed current next = true) :
    next ≠ .completed ∧ (next = .processing → current = .failed) := by
  cases current <;> cases next <;> simp_all [OrderService.isOrderTransitionAllowed,
    OrderService.allowedTransitions]

variable {orderId : RowId} {w : World} {db db' : Database}

theorem awaitsPayment_begin (op : BillingOperation) (request : (billingOperations lib op).Request) :
    awaitsPayment orderId op ((billingOperations lib op).start request) := by
  cases op with
  | ledger op => cases op <;> trivial
  | hosting | createService | fulfillAddOn | cancelAddOn | processOpenRenewals | processPayment
  | dispatchOutbox => trivial

theorem awaitsPayment_step (h : Unfulfilled orderId db) (op : BillingOperation)
    (l l' : (billingOperations lib op).Local)
    (hstep : (billingOperations lib op).step w db l = some (db', l')) :
    awaitsPayment orderId op l' := by
  cases op with
  | ledger op =>
    cases op with
    | updateStatus =>
      cases l' with
      | transact request current decidedAt =>
        obtain ⟨rfl, hcurrent, -, hallowed⟩ := OrderService.updateStatusStep_transact hstep
        intro horderId
        obtain ⟨hpaid, hprocessing, -⟩ := h.order current (horderId ▸ hcurrent)
        exact allowed_before_payment hpaid hprocessing hallowed
      | read | done => trivial
    | submitManual | recordManual | review | adjust | processNormalizedEvent | createInvoice
    | updateDraft | applyAction | createRenewalInvoice => trivial
  | createService =>
    cases l' with
    | commit input activeAdapter item order =>
      obtain ⟨rfl, hread⟩ := ServiceService.createStep_commit _ hstep
      obtain ⟨-, horder, hstatus⟩ := ServiceService.readItem_eq_ok hread
      intro horderId
      obtain ⟨hpaid, hprocessing, -⟩ := h.order order (horderId ▸ horder)
      exact hstatus.elim hpaid hprocessing
    | read | readItem | race | done => trivial
  | hosting | fulfillAddOn | cancelAddOn | processOpenRenewals | processPayment
  | dispatchOutbox => trivial

theorem unfulfilled_of_effect {op : BillingOperation} {l : (billingOperations lib op).Local}
    (hl : billingAssertion lib db op l) (hwaits : awaitsPayment orderId op l)
    (hfits : RetryPaid orderId w db ⟨op, l⟩) (hbefore : ¬ FullyPaid orderId db)
    (hafter : ¬ FullyPaid orderId db') (h : Unfulfilled orderId db)
    (heffect : BillingEffect lib w db op l db') : Unfulfilled orderId db' := by
  have hsame := Keeps.refl OrderItem.orderId db.orderItems
  -- The columns of the order tables that a step leaves alone are settled at once.
  have hkept : ∀ {invoices orders}, Writes db' invoices orders db.orderItems db.services →
      OrderWaits orderId orders → Unsettled orderId invoices → Unfulfilled orderId db' :=
    fun hwrites horder hinvoice =>
      ⟨hwrites.orders ▸ horder, hwrites.orderItems ▸ hwrites.services ▸ h.service,
        hwrites.invoices ▸ hinvoice⟩
  cases heffect with
  | @kept op l db' orders services horders hservices hwrites =>
    refine ⟨hwrites.orders ▸ h.order.completed horders, ?_, hwrites.invoices ▸ h.invoice⟩
    rw [hwrites.orderItems, hwrites.services]
    exact h.service.keeps hsame hservices.keeps_orderItemId
  | @charged op l db' i invoice amount orders hinvoice _ _ _ horders hwrites =>
    have hunpaid : invoice.orderId = some orderId → invoice.balanceDue - amount ≠ 0 := by
      intro horderId hzero
      refine hafter ⟨i, PaymentService.chargeInvoice invoice amount w.now invoice, ?_, horderId,
        hzero⟩
      rw [hwrites.invoices, get?_update_self hinvoice]
    refine hkept hwrites (h.order.paid hunpaid horders) (h.invoice.update fun row hrow => ?_)
    obtain rfl := Option.mem_unique hinvoice hrow
    refine ⟨rfl, fun horderId hnone => ?_⟩
    simp only [PaymentService.chargeInvoice]
    rw [if_neg (hunpaid horderId), hnone]
  | @settled op l db' i invoice amount orders hinvoice _ hamount horders hwrites =>
    have hother : invoice.orderId ≠ some orderId := by
      intro horderId
      refine hafter ⟨i, PaymentGatewayService.settleInvoiceData invoice amount w.now invoice, ?_,
        horderId, ?_⟩
      · rw [hwrites.invoices, get?_update_self hinvoice]
      · simp only [PaymentGatewayService.settleInvoiceData]
        omega
    refine hkept hwrites (h.order.paid (fun horderId => absurd horderId hother) horders)
      (h.invoice.update fun row hrow => ?_)
    obtain rfl := Option.mem_unique hinvoice hrow
    exact ⟨rfl, fun horderId => absurd horderId hother⟩
  | adjusted _ _ _ hwrites =>
    exact hkept hwrites h.order (h.invoice.update fun _ _ => ⟨rfl, fun _ hnone => hnone⟩)
  | drafted hwrites => exact hkept hwrites h.order (h.invoice.insert rfl)
  | redrafted _ _ hwrites =>
    exact hkept hwrites h.order (h.invoice.update fun _ _ => ⟨rfl, fun _ hnone => hnone⟩)
  | @acted db' i action current invoice next decidedAt orders hinvoice _ hbalance _ horders
      hwrites =>
    obtain ⟨-, now, hnext⟩ := hl
    refine hkept hwrites ?_ (h.invoice.update fun row hrow => ⟨rfl, fun horderId hnone => ?_⟩)
    · rcases horders with rfl | ⟨id, order, -, -, -, -, rfl⟩
      · exact h.order
      · exact h.order.update fun _ _ _ => ⟨by rintro ⟨⟩, by rintro ⟨⟩, by rintro ⟨⟩⟩
    · -- Only an invoice without a balance is paid by being issued.
      obtain rfl := Option.mem_unique hinvoice hrow
      simp only [InvoiceService.actionData]
      split
      · rename_i hissued
        have hzero := ((InvoiceService.nextInvoiceStatus_eq_ok hnext).2.1 hissued.2).2
        exact absurd ⟨i, invoice, hinvoice, horderId, hbalance.trans hzero⟩ hbefore
      · exact hnone
  | @decided db' request current order decidedAt horder hwrites =>
    refine hkept hwrites (h.order.update fun hown row _ => ?_) ?_
    · obtain ⟨hcompleted, hretry⟩ := hwaits hown
      refine ⟨hl.1, fun hprocessing => ?_, hcompleted⟩
      obtain ⟨i, invoice, hinvoice, horderId, hzero | hpaid⟩ :=
        hfits _ rfl hown hprocessing (hretry hprocessing)
      · exact hbefore ⟨i, invoice, hinvoice, horderId, hzero⟩
      · rw [h.invoice i invoice hinvoice horderId] at hpaid
        cases hpaid
    · rw [OrderService.decidedInvoices]
      split
      · intro i invoice hinvoice horderId
        obtain ⟨row, hrow, rfl⟩ := get?_updateWhere_cases hinvoice
        split at horderId
        · rw [if_pos (by assumption)]
          exact h.invoice i row hrow horderId
        · rw [if_neg (by assumption)]
          exact h.invoice i row hrow horderId
      · exact h.invoice
  | @renewed request db' service _ _ _ hwrites =>
    refine ⟨hwrites.orders ▸ h.order, ?_, hwrites.invoices ▸ h.invoice.insert rfl⟩
    rw [hwrites.orderItems, hwrites.services]
    exact h.service.keeps hsame (billedServices_keeps_orderItemId request service db)
  | overdue _ _ hwrites =>
    exact hkept hwrites h.order (h.invoice.update fun _ _ => ⟨rfl, fun _ hnone => hnone⟩)
  | applied _ hwrites =>
    refine ⟨hwrites.orders ▸ h.order, ?_, hwrites.invoices ▸ h.invoice⟩
    rw [hwrites.orderItems, hwrites.services]
    exact h.service.keeps hsame (appliedServices_keeps_orderItemId _ _ _)
  | @created db' input activeAdapter item order orders horders _ hwrites =>
    obtain ⟨-, -, row, hrow, hstays⟩ := hl
    refine ⟨?_, ?_, hwrites.invoices ▸ h.invoice⟩
    · rw [hwrites.orders]
      rcases horders with rfl | ⟨-, rfl⟩
      · exact h.order
      · exact h.order.update fun hown => absurd hown hwaits
    · intro i service itemId item' hservice hitemId hitem'
      rw [hwrites.services] at hservice
      rw [hwrites.orderItems] at hitem'
      rcases get?_insert_cases hservice with ⟨-, rfl⟩ | hold
      · simp only [ServiceService.newService, Option.some.injEq] at hitemId
        subst hitemId
        obtain rfl := Option.mem_unique hrow hitem'
        rw [hstays]
        exact hwaits
      · exact h.service i service itemId item' hold hitemId hitem'
  | fulfilled _ _ _ horders hwrites =>
    refine ⟨hwrites.orders ▸ h.order.completed horders, ?_, hwrites.invoices ▸ h.invoice⟩
    rw [hwrites.orderItems, hwrites.services]
    exact h.service.keeps (keeps_update fun _ _ => rfl) (Keeps.refl _ _)
  | ended _ _ _ _ hwrites =>
    refine ⟨hwrites.orders ▸ h.order, ?_, hwrites.invoices ▸ h.invoice⟩
    rw [hwrites.orderItems, hwrites.services]
    exact h.service.keeps (keeps_update fun _ _ => rfl) (Keeps.refl _ _)

variable (lib)

/-- What is true of an order and of every thread until its invoice is paid. -/
def paymentOutline (orderId : RowId) : Outline (billingOperations lib) :=
  (billingOutline lib).extend (Unfulfilled orderId) fun _ t => awaitsPayment orderId t.op t.loc

theorem paymentOutline_sound (orderId : RowId) : (paymentOutline lib orderId).Sound
    (Outline.Before (FullyPaid orderId) (RetryPaid orderId)) := by
  refine ((billingOutline_sound lib).mono fun _ _ _ _ => trivial).extend ?_ ?_ ?_
  · intro db op request _
    exact awaitsPayment_begin op request
  · intro w db t db' t' hbefore _ hthread h hwaits hstep
    obtain ⟨l, hl, rfl⟩ := Thread.step_eq_some hstep
    exact ⟨unfulfilled_of_effect hthread hwaits hbefore.1 hbefore.2.1 (hbefore.2.2 _ _ hstep) h
      (effect_of_step t.op hl), awaitsPayment_step h t.op t.loc l hl⟩
  · intro _ _ _ _ _ _ _ _ _ _ _ hu _
    exact hu

variable {lib}

/-- **Payment comes before fulfilment** in every run that processes no failed order whose invoice
was not paid. -/
theorem payment_precedes_fulfilment {orderId : RowId} {db : Database} (h : NewOrder orderId db)
    {c : Config (billingOperations lib)} {moves : List (Move (billingOperations lib))}
    (hrun : Config.run ⟨db, []⟩ moves = some c)
    (hretry : Guarded (RetryPaid orderId) ⟨db, []⟩ moves)
    (hfulfilled : Fulfilled orderId c.shared) :
    Sometime (FullyPaid orderId) ⟨db, []⟩ moves := by
  have hidle : (paymentOutline lib orderId).Holds ⟨db, []⟩ :=
    Outline.holds_idle ⟨trivial, h.unfulfilled⟩
  rcases (paymentOutline_sound lib orderId).holds_until hidle hrun hretry with hpaid | hholds
  · exact hpaid
  · exact absurd hfulfilled hholds.shared.2.not_fulfilled

end

/-! ### An order that is processed without payment, and one that is paid first -/

def moveOrder (position : ℕ) (status : OrderStatus) : List (Move plainOperations) :=
  [.call (.ledger .updateStatus) (⟨0, status⟩ : OrderService.UpdateOrderStatusRequest),
    .advance position { now := 7 }, .advance position { now := 7 }]

def createItsService (position : ℕ) : List (Move plainOperations) :=
  [.call .createService (⟨0, 0⟩ : ServiceService.CreateServiceRequest),
    .advance position { now := 8 }, .advance position { now := 8 }, .advance position { now := 8 }]

def fulfilWithoutPayment : List (Move plainOperations) :=
  moveOrder 0 .failed ++ moveOrder 1 .processing ++ createItsService 2

def fulfilledWithoutPayment : Config plainOperations :=
  Config.after ⟨orderedDatabase, []⟩ fulfilWithoutPayment (by decide +kernel)

/-- A failed order is processed and given a service although nothing was ever paid. -/
theorem processing_without_payment :
    Config.run ⟨orderedDatabase, []⟩ fulfilWithoutPayment = some fulfilledWithoutPayment ∧
      (fulfilledWithoutPayment.shared.orders.get? 0).map Order.status = some .processing ∧
      (fulfilledWithoutPayment.shared.services.get? 0).map Service.orderItemId = some (some 0) ∧
      Fulfilled 0 fulfilledWithoutPayment.shared ∧
      ¬ Sometime (FullyPaid 0) ⟨orderedDatabase, []⟩ fulfilWithoutPayment := by
  have horder : (fulfilledWithoutPayment.shared.orders.get? 0).map Order.status =
      some .processing := by
    decide +kernel
  obtain ⟨order, hget, hstatus⟩ := Option.map_eq_some_iff.1 horder
  exact ⟨run_eq_after _, horder, by decide +kernel,
    Or.inl ⟨order, hget, .inl hstatus⟩, by decide +kernel⟩

theorem newOrder_orderedDatabase : NewOrder 0 orderedDatabase where
  order := ⟨_, rfl, .inr rfl⟩
  service _ _ _ _ hservice := absurd hservice get?_empty_ne
  invoice i invoice hinvoice _ := by
    obtain ⟨-, rfl⟩ := eq_of_get?_singleton hinvoice
    rfl

def fulfilAfterPayment : List (Move plainOperations) :=
  [.call (.ledger .recordManual) (⟨⟨"s-1", 0, 100, { method := .cash, reference := "R-1" }⟩, 0⟩ :
      PaymentService.RecordRequest),
    .advance 0 { now := 1 }, .advance 0 { now := 1 }] ++
  moveOrder 1 .processing ++ moveOrder 2 .failed ++ moveOrder 3 .processing

def fulfilledAfterPayment : Config plainOperations :=
  Config.after ⟨orderedDatabase, []⟩ fulfilAfterPayment (by decide +kernel)

theorem paid_before_processing :
    (fulfilledAfterPayment.shared.orders.get? 0).map Order.status = some .processing ∧
      Sometime (FullyPaid 0) ⟨orderedDatabase, []⟩ fulfilAfterPayment := by
  have horder : (fulfilledAfterPayment.shared.orders.get? 0).map Order.status =
      some .processing := by
    decide +kernel
  obtain ⟨order, hget, hstatus⟩ := Option.map_eq_some_iff.1 horder
  exact ⟨horder, payment_precedes_fulfilment newOrder_orderedDatabase (run_eq_after _)
    (by decide +kernel) (.inl ⟨order, hget, .inl hstatus⟩)⟩

end WebhostBilling
