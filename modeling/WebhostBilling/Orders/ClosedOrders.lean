import WebhostBilling.Billing.BillingOutline

/-!
# Closed orders

Cancelling an invoice looks at what was paid, and takes the order along.  A decision on the order
does not: it cancels the order's draft and unpaid invoices whatever was paid for them, and leaves an
overdue one payable.
-/

namespace WebhostBilling

open Store Store.Table Concurrency Config

def OrderStatus.closed (status : OrderStatus) : Prop := status = .cancelled ∨ status = .rejected
deriving Decidable

/-- A closed order has no payable invoice. -/
structure ClosedUnpayable (db : Database) : Prop where
  unpayable : ∀ orderId order, db.orders.get? orderId = some order → order.status.closed →
    ∀ i invoice, db.invoices.get? i = some invoice → invoice.orderId = some orderId →
      ¬ invoice.payable
  unpaid : ∀ i invoice, db.invoices.get? i = some invoice → invoice.status = .cancelled →
    invoice.amountPaid ≤ 0

/-! ## The invariant -/

def OneInvoicePerOrder (invoices : Table Invoice) : Prop :=
  ∀ i j invoice invoice' orderId, invoices.get? i = some invoice → invoices.get? j = some invoice' →
    invoice.orderId = some orderId → invoice'.orderId = some orderId → i = j

def Invoice.left (invoice : Invoice) : Prop := invoice.status ≠ .draft ∧ ¬ invoice.payable

variable {invoice : Invoice} {db : Database} {invoices : Table Invoice}
  {orders orders' : Table Order} {now : ℕ}

theorem left_of_cancelled (h : invoice.status = .cancelled) : invoice.left := by
  refine ⟨by rw [h]; exact nofun, fun hpayable => ?_⟩
  rw [Invoice.payable, h] at hpayable
  rcases hpayable with hpayable | hpayable <;> exact nomatch hpayable

/-- An order has one invoice at most; once the order is closed, that invoice is neither a draft nor
payable; and nothing was paid for a cancelled invoice. -/
structure OrdersCloseInvoices (db : Database) : Prop where
  single : OneInvoicePerOrder db.invoices
  closed : ∀ orderId order, db.orders.get? orderId = some order → order.status.closed →
    ∀ i invoice, db.invoices.get? i = some invoice → invoice.orderId = some orderId → invoice.left
  unpaid : ∀ i invoice, db.invoices.get? i = some invoice → invoice.status = .cancelled →
    invoice.amountPaid ≤ 0

theorem OrdersCloseInvoices.unpayable (h : OrdersCloseInvoices db) :
    ClosedUnpayable db where
  unpayable orderId order horder hclosed i invoice hinvoice horderId :=
    (h.closed orderId order horder hclosed i invoice hinvoice horderId).2
  unpaid := h.unpaid

theorem ordersCloseInvoices_of_open (hsingle : OneInvoicePerOrder db.invoices)
    (horders : ∀ orderId order, db.orders.get? orderId = some order → ¬ order.status.closed)
    (hinvoices : ∀ i invoice, db.invoices.get? i = some invoice → invoice.status ≠ .cancelled) :
    OrdersCloseInvoices db where
  single := hsingle
  closed orderId order horder hclosed := absurd hclosed (horders orderId order horder)
  unpaid i invoice hinvoice hcancelled := absurd hcancelled (hinvoices i invoice hinvoice)

/-! ## What keeps it -/

theorem OneInvoicePerOrder.update (h : OneInvoicePerOrder invoices) (i : RowId)
    {f : Invoice → Invoice} (hf : ∀ row, (f row).orderId = row.orderId) :
    OneInvoicePerOrder (invoices.update i f) := by
  have hrow : ∀ j row, (invoices.update i f).get? j = some row →
      ∃ row', invoices.get? j = some row' ∧ row'.orderId = row.orderId := by
    intro j row hj
    rcases get?_update_cases hj with ⟨rfl, row', hrow', rfl⟩ | ⟨-, hj⟩
    · exact ⟨row', hrow', (hf row').symm⟩
    · exact ⟨row, hj, rfl⟩
  intro j k row row' orderId hj hk horder horder'
  obtain ⟨old, hold, hsame⟩ := hrow j row hj
  obtain ⟨old', hold', hsame'⟩ := hrow k row' hk
  exact h j k old old' orderId hold hold' (hsame.trans horder) (hsame'.trans horder')

theorem OneInvoicePerOrder.insert (h : OneInvoicePerOrder invoices) {row : Invoice}
    (hrow : row.orderId = none) : OneInvoicePerOrder (invoices.insert row) := by
  intro j k invoice invoice' orderId hj hk horder horder'
  rcases get?_insert_cases hj with ⟨-, rfl⟩ | hj
  · exact absurd (hrow.symm.trans horder) nofun
  · rcases get?_insert_cases hk with ⟨-, rfl⟩ | hk
    · exact absurd (hrow.symm.trans horder') nofun
    · exact h j k invoice invoice' orderId hj hk horder horder'

def NoneCloses (orders orders' : Table Order) : Prop :=
  ∀ orderId order, orders'.get? orderId = some order → order.status.closed →
    ∃ order', orders.get? orderId = some order' ∧ order'.status.closed

theorem NoneCloses.refl (orders : Table Order) : NoneCloses orders orders :=
  fun _ order horder hclosed => ⟨order, horder, hclosed⟩

theorem noneCloses_update {orderId : RowId} {f : Order → Order}
    (hf : ∀ row, ¬ (f row).status.closed) : NoneCloses orders (orders.update orderId f) := by
  intro id order horder hclosed
  rcases get?_update_cases horder with ⟨-, row, -, rfl⟩ | ⟨-, hid⟩
  · exact absurd hclosed (hf row)
  · exact ⟨order, hid, hclosed⟩

theorem noneCloses_of_completed (h : OrderCompleted now orders orders') :
    NoneCloses orders orders' := by
  rcases h with rfl | ⟨orderId, order, -, -, rfl⟩
  · exact NoneCloses.refl _
  · refine noneCloses_update fun row hclosed => ?_
    rcases hclosed with hclosed | hclosed <;> exact nomatch hclosed

theorem noneCloses_of_paid {amount : ℤ} (h : PaymentService.OrderPaidBy invoice amount now orders orders') :
    NoneCloses orders orders' := by
  rcases h with rfl | ⟨-, rfl | ⟨orderId, order, -, -, -, rfl⟩⟩
  · exact NoneCloses.refl _
  · exact NoneCloses.refl _
  · refine noneCloses_update fun row hclosed => ?_
    rcases hclosed with hclosed | hclosed <;> exact nomatch hclosed

section

variable {db' : Database}

theorem OrdersCloseInvoices.of_orders (h : OrdersCloseInvoices db)
    (hinvoices : db'.invoices = db.invoices) (horders : NoneCloses db.orders db'.orders) :
    OrdersCloseInvoices db' where
  single := hinvoices ▸ h.single
  closed orderId order horder hclosed i invoice hinvoice horderId := by
    obtain ⟨order', horder', hclosed'⟩ := horders orderId order horder hclosed
    rw [hinvoices] at hinvoice
    exact h.closed orderId order' horder' hclosed' i invoice hinvoice horderId
  unpaid := hinvoices ▸ h.unpaid

variable {row : Invoice} {i : RowId} {f : Invoice → Invoice}

theorem OrdersCloseInvoices.of_insert (h : OrdersCloseInvoices db)
    (hinvoices : db'.invoices = db.invoices.insert row) (horders : db'.orders = db.orders)
    (horderId : row.orderId = none) (hstatus : row.status ≠ .cancelled) :
    OrdersCloseInvoices db' where
  single := hinvoices ▸ h.single.insert horderId
  closed orderId order horder hclosed i invoice hinvoice horder' := by
    rw [hinvoices] at hinvoice
    rw [horders] at horder
    rcases get?_insert_cases hinvoice with ⟨-, rfl⟩ | hinvoice
    · exact absurd (horderId.symm.trans horder') nofun
    · exact h.closed orderId order horder hclosed i invoice hinvoice horder'
  unpaid i invoice hinvoice hcancelled := by
    rw [hinvoices] at hinvoice
    rcases get?_insert_cases hinvoice with ⟨-, rfl⟩ | hinvoice
    · exact absurd hcancelled hstatus
    · exact h.unpaid i invoice hinvoice hcancelled

theorem OrdersCloseInvoices.of_update (h : OrdersCloseInvoices db)
    (hrow : db.invoices.get? i = some row) (hinvoices : db'.invoices = db.invoices.update i f)
    (horders : NoneCloses db.orders db'.orders) (horderId : ∀ row, (f row).orderId = row.orderId)
    (hleft : row.left → (f row).left) (hstatus : (f row).status ≠ .cancelled) :
    OrdersCloseInvoices db' where
  single := hinvoices ▸ h.single.update i horderId
  closed orderId order horder hclosed j invoice hinvoice horder' := by
    obtain ⟨old, hold, hclosed'⟩ := horders orderId order horder hclosed
    rw [hinvoices] at hinvoice
    rcases get?_update_cases hinvoice with ⟨rfl, row', hrow', rfl⟩ | ⟨-, hj⟩
    · obtain rfl := Option.mem_unique hrow hrow'
      rw [horderId] at horder'
      exact hleft (h.closed orderId old hold hclosed' i row hrow horder')
    · exact h.closed orderId old hold hclosed' j invoice hj horder'
  unpaid j invoice hinvoice hcancelled := by
    rw [hinvoices] at hinvoice
    rcases get?_update_cases hinvoice with ⟨rfl, row', hrow', rfl⟩ | ⟨-, hj⟩
    · obtain rfl := Option.mem_unique hrow hrow'
      exact absurd hcancelled hstatus
    · exact h.unpaid j invoice hj hcancelled

theorem OrdersCloseInvoices.of_cancel (h : OrdersCloseInvoices db)
    (hrow : db.invoices.get? i = some row) (hinvoices : db'.invoices = db.invoices.update i f)
    (horders : ∀ orderId order, db'.orders.get? orderId = some order → order.status.closed →
      row.orderId = some orderId ∨
        ∃ order', db.orders.get? orderId = some order' ∧ order'.status.closed)
    (horderId : ∀ row, (f row).orderId = row.orderId) (hstatus : (f row).status = .cancelled)
    (hunpaid : (f row).amountPaid ≤ 0) : OrdersCloseInvoices db' where
  single := hinvoices ▸ h.single.update i horderId
  closed orderId order horder hclosed j invoice hinvoice horder' := by
    rw [hinvoices] at hinvoice
    rcases get?_update_cases hinvoice with ⟨rfl, row', hrow', rfl⟩ | ⟨hne, hj⟩
    · obtain rfl := Option.mem_unique hrow hrow'
      exact left_of_cancelled hstatus
    · rcases horders orderId order horder hclosed with hown | ⟨old, hold, hclosed'⟩
      · exact absurd (h.single i j row invoice orderId hrow hj hown horder') hne
      · exact h.closed orderId old hold hclosed' j invoice hj horder'
  unpaid j invoice hinvoice hcancelled := by
    rw [hinvoices] at hinvoice
    rcases get?_update_cases hinvoice with ⟨rfl, row', hrow', rfl⟩ | ⟨-, hj⟩
    · obtain rfl := Option.mem_unique hrow hrow'
      exact hunpaid
    · exact h.unpaid j invoice hj hcancelled

def ClosesCleanly (orderId : RowId) (db : Database) : Prop :=
  ∀ i invoice, db.invoices.get? i = some invoice → invoice.orderId = some orderId →
    invoice.status ≠ .overdue ∧
      (invoice.status = .draft ∨ invoice.status = .unpaid → invoice.amountPaid ≤ 0)
deriving Decidable

theorem OrdersCloseInvoices.of_decision (h : OrdersCloseInvoices db)
    {request : OrderService.UpdateOrderStatusRequest} {decidedAt now : ℕ}
    (hclean : request.status.closed → ClosesCleanly request.orderId db)
    (hinvoices : db'.invoices = OrderService.decidedInvoices request decidedAt now db)
    (horders : db'.orders = db.orders.update request.orderId
      (OrderService.statusData request.status decidedAt now)) : OrdersCloseInvoices db' := by
  by_cases hclosing : request.status = .cancelled ∨ request.status = .rejected
  · rw [OrderService.decidedInvoices, if_pos hclosing] at hinvoices
    -- An invoice afterwards is one from before, cancelled when the decision's filter takes it.
    have hrow : ∀ i invoice, db'.invoices.get? i = some invoice → ∃ row,
        db.invoices.get? i = some row ∧ row.orderId = invoice.orderId ∧
        row.amountPaid = invoice.amountPaid ∧
        (invoice = row ∧ ¬ (row.orderId = some request.orderId ∧
            (row.status = .draft ∨ row.status = .unpaid)) ∨
          invoice.status = .cancelled ∧ row.orderId = some request.orderId ∧
            (row.status = .draft ∨ row.status = .unpaid)) := by
      intro i invoice hinvoice
      rw [hinvoices] at hinvoice
      obtain ⟨row, hget, rfl⟩ := get?_updateWhere_cases hinvoice
      refine ⟨row, hget, ?_⟩
      split
      · rename_i htaken
        exact ⟨rfl, rfl, .inr ⟨rfl, by simpa using htaken⟩⟩
      · rename_i htaken
        exact ⟨rfl, rfl, .inl ⟨rfl, by simpa using htaken⟩⟩
    constructor
    · intro i j invoice invoice' orderId hi hj horder horder'
      obtain ⟨row, hget, hsame, -⟩ := hrow i invoice hi
      obtain ⟨row', hget', hsame', -⟩ := hrow j invoice' hj
      exact h.single i j row row' orderId hget hget' (hsame.trans horder) (hsame'.trans horder')
    · intro orderId order horder hclosed i invoice hi horderId
      obtain ⟨row, hget, hsame, -, ⟨rfl, huntaken⟩ | ⟨hcancelled, -⟩⟩ := hrow i invoice hi
      · rw [horders] at horder
        rcases get?_update_cases horder with ⟨rfl, -⟩ | ⟨-, hold⟩
        · have hstatus := (hclean hclosing i invoice hget horderId).1
          have hfilter : ¬ (invoice.status = .draft ∨ invoice.status = .unpaid) :=
            fun hfilter => huntaken ⟨horderId, hfilter⟩
          exact ⟨fun hdraft => hfilter (.inl hdraft), fun hpayable =>
            hpayable.elim (fun hunpaid => hfilter (.inr hunpaid)) hstatus⟩
        · exact h.closed orderId order hold hclosed i invoice hget horderId
      · exact left_of_cancelled hcancelled
    · intro i invoice hi hcancelled
      obtain ⟨row, hget, hsame, hpaid, ⟨rfl, -⟩ | ⟨-, hown, hfilter⟩⟩ := hrow i invoice hi
      · exact h.unpaid i invoice hget hcancelled
      · rw [← hpaid]
        exact (hclean hclosing i row hget hown).2 hfilter
  · rw [OrderService.decidedInvoices, if_neg hclosing] at hinvoices
    refine h.of_orders hinvoices ?_
    rw [horders]
    exact noneCloses_update fun _ => hclosing

end

/-! ## Runs -/

section

variable {lib : Libraries}

/-- A decision that closes an order finds none of its invoices overdue or paid in part. -/
def ClosingFits (_ : World) (db : Database) (t : Thread (billingOperations lib)) : Prop :=
  ∀ decision ∈ statusDecision lib t.op t.loc, decision.1.status.closed →
    ClosesCleanly decision.1.orderId db
deriving Decidable

theorem ordersCloseInvoices_of_effect {w : World} {db db' : Database} {op : BillingOperation}
    {l : (billingOperations lib op).Local} (hl : billingAssertion lib db op l)
    (hfits : ClosingFits w db ⟨op, l⟩) (h : OrdersCloseInvoices db)
    (heffect : BillingEffect lib w db op l db') : OrdersCloseInvoices db' := by
  cases heffect with
  | kept horders _ hwrites =>
    exact h.of_orders hwrites.invoices (hwrites.orders ▸ noneCloses_of_completed horders)
  | @charged op l db' i invoice amount orders hinvoice hpayable _ _ horders hwrites =>
    refine h.of_update hinvoice hwrites.invoices (hwrites.orders ▸ noneCloses_of_paid horders)
      (fun _ => rfl) (fun hleft => absurd hpayable hleft.2) ?_
    simp only [PaymentService.chargeInvoice]
    split
    · rintro ⟨⟩
    · rcases hpayable with hstatus | hstatus <;> (rw [hstatus]; rintro ⟨⟩)
  | settled hinvoice hpayable _ horders hwrites =>
    exact h.of_update hinvoice hwrites.invoices (hwrites.orders ▸ noneCloses_of_paid horders)
      (fun _ => rfl) (fun hleft => absurd hpayable hleft.2) (by rintro ⟨⟩)
  | @adjusted op l db' i invoice amount hinvoice _ _ hwrites =>
    have hstatus : (PaymentService.adjustInvoice invoice amount w.now invoice).status = .refunded ∨
        (PaymentService.adjustInvoice invoice amount w.now invoice).status =
          .partiallyRefunded := by
      simp only [PaymentService.adjustInvoice]
      split
      · exact .inl rfl
      · exact .inr rfl
    refine h.of_update hinvoice hwrites.invoices (hwrites.orders ▸ NoneCloses.refl _)
      (fun _ => rfl) (fun _ => ?_) ?_
    · rcases hstatus with hstatus | hstatus <;>
        exact ⟨by rw [hstatus]; rintro ⟨⟩, by rw [Invoice.payable, hstatus]; simp⟩
    · rcases hstatus with hstatus | hstatus <;> (rw [hstatus]; rintro ⟨⟩)
  | drafted hwrites => exact h.of_insert hwrites.invoices hwrites.orders rfl (by rintro ⟨⟩)
  | redrafted hinvoice hdraft hwrites =>
    refine h.of_update hinvoice hwrites.invoices (hwrites.orders ▸ NoneCloses.refl _)
      (fun _ => rfl) (fun hleft => absurd hdraft hleft.1) ?_
    simp only [InvoiceService.redraft]
    rw [hdraft]
    rintro ⟨⟩
  | @acted db' i action current invoice next decidedAt orders hinvoice hstatus _ hpaid horders
      hwrites =>
    obtain ⟨⟨invoice', hinvoice', horderId⟩, now, hnext⟩ := hl
    obtain rfl := Option.mem_unique hinvoice hinvoice'
    by_cases hcancelled : next = .cancelled
    · subst hcancelled
      obtain ⟨rfl, hunpaid⟩ := InvoiceService.nextInvoiceStatus_cancelled hnext
      refine h.of_cancel hinvoice hwrites.invoices ?_ (fun _ => rfl) rfl (hpaid ▸ hunpaid)
      intro orderId order horder hclosed
      rw [hwrites.orders] at horder
      rcases horders with rfl | ⟨orderId', order', -, hown, -, -, rfl⟩
      · exact .inr ⟨order, horder, hclosed⟩
      · rcases get?_update_cases horder with ⟨rfl, -⟩ | ⟨-, hold⟩
        · exact .inl (horderId.trans hown)
        · exact .inr ⟨order, hold, hclosed⟩
    · -- The other actions take no order along, and find a draft or an unpaid invoice.
      have hsame : orders = db.orders := by
        rcases horders with rfl | ⟨_, _, rfl, -⟩
        · rfl
        · exact absurd (InvoiceService.nextInvoiceStatus_cancel hnext) hcancelled
      have hbefore := (InvoiceService.nextInvoiceStatus_eq_ok hnext).1
      rw [← hstatus] at hbefore
      refine h.of_update hinvoice hwrites.invoices (hwrites.orders ▸ hsame ▸ NoneCloses.refl _)
        (fun _ => rfl) (fun hleft => ?_) hcancelled
      rcases hbefore with hdraft | hpayable
      · exact absurd hdraft hleft.1
      · exact absurd hpayable hleft.2
  | decided _ hwrites => exact h.of_decision (hfits _ rfl) hwrites.invoices hwrites.orders
  | renewed _ _ _ hwrites =>
    refine h.of_insert hwrites.invoices hwrites.orders rfl ?_
    simp only [RenewalProcessorService.renewalInvoice]
    split <;> rintro ⟨⟩
  | overdue hinvoice hbecomes hwrites =>
    exact h.of_update hinvoice hwrites.invoices (hwrites.orders ▸ NoneCloses.refl _)
      (fun _ => rfl) (fun hleft => absurd (.inl hbecomes.1) hleft.2) (by rintro ⟨⟩)
  | applied _ hwrites => exact h.of_orders hwrites.invoices (hwrites.orders ▸ NoneCloses.refl _)
  | created horders _ hwrites =>
    refine h.of_orders hwrites.invoices ?_
    rw [hwrites.orders]
    rcases horders with rfl | ⟨-, rfl⟩
    · exact NoneCloses.refl _
    · refine noneCloses_update fun row hclosed => ?_
      rcases hclosed with hclosed | hclosed <;> cases hclosed
  | fulfilled _ _ _ horders hwrites =>
    exact h.of_orders hwrites.invoices (hwrites.orders ▸ noneCloses_of_completed horders)
  | ended _ _ _ _ hwrites =>
    exact h.of_orders hwrites.invoices (hwrites.orders ▸ NoneCloses.refl _)

/-- **Closed orders have no payable invoice, and cancelled invoices no payment**, in every run that
closes no order whose invoice is overdue or partly paid. -/
theorem closed_orders_unpayable {db : Database} (h : OrdersCloseInvoices db)
    {c : Config (billingOperations lib)} (hr : Reaches ClosingFits ⟨db, []⟩ c) :
    ClosedUnpayable c.shared := by
  have hrun := ((billingOutline_sound lib).mono fun _ _ _ _ => trivial).related
    (R := fun db db' => OrdersCloseInvoices db → OrdersCloseInvoices db')
    (fun _ h => h) (fun _ _ _ h₁ h₂ h => h₂ (h₁ h))
    (fun w db t db' t' hfits _ hthread hstep h => by
      obtain ⟨l, hl, rfl⟩ := Thread.step_eq_some hstep
      exact ordersCloseInvoices_of_effect hthread hfits h (effect_of_step t.op hl))
    (Outline.holds_idle trivial) hr
  exact (hrun h).unpayable

end

/-! ### An order closed with its invoice overdue, and one closed with its invoice partly paid -/

def cancelOrder (position : ℕ) : List (Move plainOperations) :=
  [.call (.ledger .updateStatus) (⟨0, .cancelled⟩ : OrderService.UpdateOrderStatusRequest),
    .advance position { now := 7 }, .advance position { now := 7 }]

def cancelAfterOverdue : List (Move plainOperations) :=
  [.call (.ledger .applyAction) ((0, .markOverdue) : RowId × InvoiceService.InvoiceAction),
    .advance 0 { now := 6 }, .advance 0 { now := 6 }] ++ cancelOrder 1

def cancelAfterPart : List (Move plainOperations) :=
  [.call (.ledger .recordManual) (⟨⟨"s-1", 0, 40, { method := .cash, reference := "R-1" }⟩, 0⟩ :
      PaymentService.RecordRequest),
    .advance 0 { now := 1 }, .advance 0 { now := 1 }] ++ cancelOrder 1

def closedOverdue : Config plainOperations :=
  Config.after ⟨orderedDatabase, []⟩ cancelAfterOverdue (by decide +kernel)

def closedPartlyPaid : Config plainOperations :=
  Config.after ⟨orderedDatabase, []⟩ cancelAfterPart (by decide +kernel)

/-- The cancelled order keeps an invoice that can be paid, or loses one that was paid for. -/
theorem closing_disregards_invoices :
    (Config.run ⟨orderedDatabase, []⟩ cancelAfterOverdue = some closedOverdue ∧
      (closedOverdue.shared.orders.get? 0).map Order.status = some .cancelled ∧
      (closedOverdue.shared.invoices.get? 0).map Invoice.status = some .overdue ∧
      ¬ ClosedUnpayable closedOverdue.shared) ∧
    (Config.run ⟨orderedDatabase, []⟩ cancelAfterPart = some closedPartlyPaid ∧
      (closedPartlyPaid.shared.invoices.get? 0).map (fun invoice =>
        (invoice.status, invoice.amountPaid)) = some (.cancelled, 40) ∧
      ¬ ClosedUnpayable closedPartlyPaid.shared) := by
  have horder : (closedOverdue.shared.orders.get? 0).map Order.status = some .cancelled := by
    decide +kernel
  have hoverdue : (closedOverdue.shared.invoices.get? 0).map (fun invoice =>
      (invoice.status, invoice.orderId)) = some (.overdue, some 0) := by
    decide +kernel
  have hpaid : (closedPartlyPaid.shared.invoices.get? 0).map (fun invoice =>
      (invoice.status, invoice.amountPaid)) = some (.cancelled, 40) := by
    decide +kernel
  refine ⟨⟨run_eq_after _, horder, by decide +kernel, fun h => ?_⟩,
    ⟨run_eq_after _, hpaid, fun h => ?_⟩⟩
  · obtain ⟨order, hget, hstatus⟩ := Option.map_eq_some_iff.1 horder
    obtain ⟨invoice, hinvoice, hinvoiceStatus, horderId⟩ := map_eq_some_pair.1 hoverdue
    exact h.unpayable 0 order hget (.inl hstatus) 0 invoice hinvoice horderId
      (.inr hinvoiceStatus)
  · obtain ⟨invoice, hinvoice, hstatus, hamount⟩ := map_eq_some_pair.1 hpaid
    have hunpaid := h.unpaid 0 invoice hinvoice hstatus
    rw [hamount] at hunpaid
    exact absurd hunpaid (by decide)

theorem ordersCloseInvoices_orderedDatabase : OrdersCloseInvoices orderedDatabase := by
  apply ordersCloseInvoices_of_open
  · intro i j invoice invoice' orderId hi hj _ _
    obtain ⟨rfl, -⟩ := eq_of_get?_singleton hi
    obtain ⟨rfl, -⟩ := eq_of_get?_singleton hj
    rfl
  · intro orderId order horder
    obtain ⟨-, rfl⟩ := eq_of_get?_singleton horder
    decide
  · intro i invoice hinvoice
    obtain ⟨-, rfl⟩ := eq_of_get?_singleton hinvoice
    decide

def cancelInTime : List (Move plainOperations) :=
  cancelOrder 0 ++
  [.call (.ledger .recordManual) (⟨⟨"s-1", 0, 40, { method := .cash, reference := "R-1" }⟩, 0⟩ :
      PaymentService.RecordRequest),
    .advance 1 { now := 8 }, .advance 1 { now := 8 }]

def closedInTime : Config plainOperations :=
  Config.after ⟨orderedDatabase, []⟩ cancelInTime (by decide +kernel)

theorem unpayable_closed_in_time :
    (closedInTime.shared.orders.get? 0).map Order.status = some .cancelled ∧
      ClosedUnpayable closedInTime.shared :=
  ⟨by decide +kernel, closed_orders_unpayable ordersCloseInvoices_orderedDatabase
    (reaches_of_run (run_eq_after
      (show (Config.run ⟨orderedDatabase, []⟩ cancelInTime).isSome = true by decide +kernel))
      (by decide +kernel))⟩

end WebhostBilling
