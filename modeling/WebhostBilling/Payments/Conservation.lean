import WebhostBilling.Gateways.PaymentGatewayService
import WebhostBilling.Ledger.Books
import WebhostBilling.Orders.OrderService
import WebhostBilling.Renewal.RenewalProcessor

/-!
# The ledger of invoices and payments

Read as books of account, with an account for each invoice and an entry for each payment, every
committed transaction on invoices and payments is a few movements (`posts_of_step`), and so the
books stay balanced whatever the operations' steps are interleaved with.
-/

namespace WebhostBilling

open RenewalProcessorService PaymentGatewayService Payment Invoice

open Store Store.Table Concurrency Config Ledger PaymentService InvoiceService Database

/-! ## The books of a database -/

def Invoice.account (invoice : Invoice) : Account where
  total := invoice.total
  credit := invoice.creditTotal
  paid := invoice.amountPaid
  balance := invoice.balanceDue
  editable := invoice.status = .draft

def Payment.entry (payment : Payment) : Entry where
  account := payment.invoiceId
  charge := payment.kind = .charge
  original := payment.originalPaymentId
  amount := payment.amount
  posted := payment.status = .succeeded

namespace Database

def books (db : Database) : Books := ⟨db.invoices.map account, db.payments.map entry⟩

def succeededCharges (db : Database) (invoiceId : RowId) : ℤ :=
  db.payments.total
    (fun payment => payment.invoiceId = invoiceId ∧ payment.kind = .charge ∧
      payment.status = .succeeded)
    amount

def succeededAdjustments (db : Database) (invoiceId : RowId) : ℤ :=
  db.payments.total
    (fun payment => payment.invoiceId = invoiceId ∧
      (payment.kind = .refund ∨ payment.kind = .reversal) ∧ payment.status = .succeeded)
    amount

theorem charged_books (db : Database) (i : RowId) : db.books.charged i = db.succeededCharges i := by
  rw [Books.charged, books, total_map]
  simp [Entry.pays, entry, succeededCharges]

theorem takenBack_books (db : Database) (i : RowId) :
    db.books.takenBack i = db.succeededAdjustments i := by
  rw [Books.takenBack, books, total_map, succeededAdjustments]
  apply total_congr
  intro id payment _
  cases hkind : payment.kind <;> simp [Entry.takesBack, entry, hkind]

theorem adjusted_books (db : Database) (id : RowId) :
    db.books.adjusted id = adjustedAmount db id := by
  rw [Books.adjusted, books, total_map, adjustedAmount]
  apply total_congr
  intro _ payment _
  simp [Entry.adjusts, entry, adjusts]

theorem get?_accounts {db : Database} {i : RowId} {invoice : Invoice}
    (h : db.invoices.get? i = some invoice) : db.books.accounts.get? i = some invoice.account := by
  rw [books, get?_map, h, Option.map_some]

theorem get?_entries {db : Database} {id : RowId} {payment : Payment}
    (h : db.payments.get? id = some payment) : db.books.entries.get? id = some payment.entry := by
  rw [books, get?_map, h, Option.map_some]

/-- Prices are not negative, so that a renewal bills no negative total. -/
structure Priced (db : Database) : Prop where
  recurringAmount : ∀ id service, db.services.get? id = some service → 0 ≤ service.recurringAmount
  lineTotal : ∀ id item, db.orderItems.get? id = some item → 0 ≤ item.lineTotal

end Database

/-! ## What each transaction posts -/

def Located (db : Database) (paymentId invoiceId : RowId) : Prop :=
  ∃ payment, db.payments.get? paymentId = some payment ∧ payment.invoiceId = invoiceId

abbrev Posted (db db' : Database) : Prop := Relation.ReflTransGen Books.Posts db.books db'.books

variable {db db' : Database}

theorem posted_of_books_eq (h : db'.books = db.books) : Posted db db' := by
  rw [Posted, h]

theorem posted_one {b : Books} (h : Books.Posts db.books b)
    (hb : db'.books = b) : Posted db db' := by
  rw [Posted, hb]
  exact Relation.ReflTransGen.single h

theorem posted_note {id : RowId} (f : Payment → Payment)
    (hf : ∀ payment, db.payments.get? id = some payment → (f payment).entry = payment.entry)
    (hinvoices : db'.invoices = db.invoices) (hpayments : db'.payments = db.payments.update id f) :
    Posted db db' := by
  apply posted_of_books_eq
  rw [books, books, hinvoices, hpayments, map_update_eq hf]

theorem Located.mono {paymentId invoiceId : RowId}
    (h : Located db paymentId invoiceId) (hpost : Posted db db') :
    Located db' paymentId invoiceId := by
  obtain ⟨payment, hpayment, rfl⟩ := h
  obtain ⟨e, he, hsame⟩ := Books.grows_of_posts hpost _ _ (get?_entries hpayment)
  rw [books, get?_map, Option.map_eq_some_iff] at he
  obtain ⟨payment', hpayment', rfl⟩ := he
  exact ⟨payment', hpayment', hsame⟩

section

variable {invoice : Invoice} {amounts : InvoiceTotals}
  {result : ManualPaymentCreationResult} {invoiceId paymentId : RowId} {rt : Runtime}
  {u : Unit} {now : ℕ}

theorem posted_charge {payment : Payment} (f : Payment → Payment) (g : Invoice → Invoice)
    (hpayment : db.payments.get? paymentId = some payment) (hkind : payment.kind = .charge)
    (hstatus : payment.status = .pending)
    (hinvoice : db.invoices.get? payment.invoiceId = some invoice) (hpayable : invoice.payable)
    (hle : payment.amount ≤ invoice.balanceDue)
    (hf : (f payment).entry = payment.entry.post)
    (hg : (g invoice).account = invoice.account.pay payment.amount)
    (hpayments : db'.payments = db.payments.update paymentId f)
    (hinvoices : db'.invoices = db.invoices.update payment.invoiceId g) : Posted db db' := by
  have heditable : invoice.account.editable = false := by
    rcases hpayable with h | h <;> simp [account, h]
  refine posted_one (.posted (get?_entries hpayment) (by simp [entry, hkind])
    (by simp [entry, hstatus]) (get?_accounts hinvoice) heditable hle) ?_
  have haccounts : (db.invoices.update payment.invoiceId g).map account =
      (db.invoices.map account).update payment.invoiceId (Account.pay payment.amount) := by
    apply map_update
    intro row hrow
    rw [hinvoice, Option.some.injEq] at hrow
    rw [← hrow, hg]
  have hentries : (db.payments.update paymentId f).map entry =
      (db.payments.map entry).update paymentId Entry.post := by
    apply map_update
    intro row hrow
    rw [hpayment, Option.some.injEq] at hrow
    rw [← hrow, hf]
  rw [books, hpayments, hinvoices, haccounts, hentries]
  rfl

/-- What `chargeInvoice` writes to a payable invoice is, in the books, a payment. -/
theorem account_chargeInvoice (hpayable : invoice.payable) (amount : ℤ)
    (now : ℕ) : (chargeInvoice invoice amount now invoice).account =
      invoice.account.pay amount := by
  have heditable : ((if invoice.balanceDue - amount = 0 then InvoiceStatus.paid
      else invoice.status) = .draft) = (invoice.status = .draft) := by
    rcases hpayable with h | h <;> split <;> simp [h]
  simp only [chargeInvoice, account, Account.pay, heditable]

theorem account_settleInvoiceData (hpayable : invoice.payable) (amount : ℤ)
    (now : ℕ) : (settleInvoiceData invoice amount now invoice).account =
      invoice.account.pay amount := by
  rcases hpayable with h | h <;>
    simp [settleInvoiceData, account, Account.pay, h]

/-! ### Manual payments -/

theorem posted_submit {request : SubmitRequest}
    (h : submitTransaction rt request now db = .ok (db', result)) :
    Posted db db' := by
  rcases submitTransaction_eq_ok h with ⟨rfl, -⟩ | ⟨invoice, hinvoice, -, hpos, -, -, rfl⟩
  · exact .refl
  · refine posted_one (.entered (entry (chargeData rt request.input
      request.userId false invoice.currency now)) rfl rfl rfl hpos
      (get?_accounts hinvoice)) ?_
    rw [books, map_insert]
    rfl

theorem posted_record {request : RecordRequest}
    (h : recordTransaction rt request now db = .ok (db', result)) :
    Posted db db' := by
  obtain ⟨invoice, orders, hinvoice, hpayable, hpos, hle, -, -, rfl⟩ :=
    recordTransaction_eq_ok h
  -- The charge is entered and posted at once.
  let db₁ : Database := { db with
    payments := db.payments.insert (chargeData rt request.input request.userId false
      invoice.currency now) }
  have hentered : Posted db db₁ := by
    refine posted_one (.entered (entry (chargeData rt request.input
      request.userId false invoice.currency now)) rfl rfl rfl hpos
      (get?_accounts hinvoice)) ?_
    rw [books, map_insert]
    rfl
  refine hentered.trans (posted_charge
    (fun _ => recordedCharge rt request invoice.currency now)
    (chargeInvoice invoice request.input.amount now)
    (get?_insert_self db.payments _) rfl rfl hinvoice hpayable hle rfl
    (account_chargeInvoice hpayable _ now) ?_ rfl)
  exact (update_insert_self db.payments _ fun _ =>
    recordedCharge rt request invoice.currency now).symm

variable {userId id : RowId} {input : DraftInvoiceFields} {decidedAt : ℕ}

theorem posted_reject {reason : String}
    (h : rejectTransaction paymentId reason userId now db = .ok (db', u)) :
    Posted db db' := by
  obtain ⟨payment, hpayment, -, -, hstatus, rfl⟩ := rejectTransaction_eq_ok h
  refine posted_note _ ?_ rfl rfl
  intro row hrow
  obtain rfl := Option.mem_unique hpayment hrow
  simp only [entry, rejectedPayment, hstatus]
  rfl

theorem posted_verify (hlocated : Located db paymentId invoiceId)
    (h : verifyTransaction rt paymentId invoiceId userId now db = .ok (db', u)) :
    Posted db db' := by
  obtain ⟨payment, invoice, reference, orders, hpayment, hstatus, hkind, hinvoice, hpayable, -, hle,
    -, rfl⟩ := verifyTransaction_eq_ok h
  obtain ⟨row, hrow, rfl⟩ := hlocated
  obtain rfl := Option.mem_unique hpayment hrow
  exact posted_charge _ _ hpayment hkind hstatus hinvoice hpayable hle rfl
    (account_chargeInvoice hpayable _ now) rfl rfl

theorem posted_adjust {request : AdjustRequest}
    (hlocated : Located db request.originalPaymentId invoiceId)
    (h : adjustTransaction rt request invoiceId now db = .ok (db', result)) :
    Posted db db' := by
  obtain ⟨original, invoice, horiginal, -, hkind, hstatus, hinvoice, hpos, hleft, hpaid, -, rfl⟩ :=
    adjustTransaction_eq_ok h
  obtain ⟨row, hrow, rfl⟩ := hlocated
  obtain rfl := Option.mem_unique horiginal hrow
  let adjustment := adjustmentData rt request original.invoiceId original
    invoice.currency now
  have hcharge : adjustment.entry.charge = false := by
    cases hinput : request.input.kind <;>
      simp [adjustment, entry, adjustmentData,
        AdjustmentKind.toPaymentKind, hinput]
  have hbounded : db.books.adjusted request.originalPaymentId + adjustment.entry.amount ≤
      original.entry.amount := by
    rw [adjusted_books]
    show _ + request.input.amount ≤ original.amount
    omega
  refine posted_one (.adjusted adjustment.entry rfl (get?_entries horiginal)
    (by simp [entry, hkind]) (by simp [entry, hstatus]) rfl hcharge rfl hpos
    hbounded (get?_accounts hinvoice) hpaid) ?_
  have haccounts : (db.invoices.update original.invoiceId
      (adjustInvoice invoice request.input.amount now)).map account =
      (db.invoices.map account).update original.invoiceId
        (Account.takeBack request.input.amount) := by
    apply map_update
    intro row hrow
    obtain rfl := Option.mem_unique hinvoice hrow
    simp only [adjustInvoice, account, Account.takeBack]
    split <;> simp
  rw [books, map_insert, haccounts]
  rfl

/-! ### Gateway events -/

theorem posted_process {gateway : PaymentGateway} {event : NormalizedPaymentEvent}
    {payloadHash : String} {result : WebhookTransactionResult}
    (h : processTransaction gateway event payloadHash now db =
      .ok (db', result)) : Posted db db' := by
  have hnote : ∀ (reason : String) (payments : Table Payment),
      payments = db.payments.update event.paymentId (notedPayment reason) →
      ∀ events, Posted db { db with paymentEvents := events, payments := payments } :=
    fun reason payments hpayments _ =>
      posted_note (notedPayment reason) (fun _ _ => rfl) rfl hpayments
  cases (processTransaction_eq_ok h).2 with
  | rejected message stored payments hpayments hstored =>
    rcases hpayments with rfl | ⟨_, _, _, hpayments⟩
    · exact posted_of_books_eq rfl
    · exact hnote message payments hpayments _
  | ignored invoice payment payments hstatus hpayment hvalid hpayments =>
    rcases hpayments with rfl | ⟨reason, hpayments⟩
    · exact posted_of_books_eq rfl
    · exact hnote reason payments hpayments _
  | failed invoice payment hstatus hpayment hvalid =>
    refine posted_note (failedPayment event) ?_ rfl rfl
    intro row hrow
    obtain rfl := Option.mem_unique hpayment hrow
    simp only [entry, failedPayment, hvalid.pending]
    rfl
  | settled invoice payment transactionId orders hstatus hinvoice hpayment hvalid htransaction =>
    have hbalance := hvalid.balance hstatus
    refine posted_charge _ _ hpayment hvalid.kind hvalid.pending (hvalid.invoiceId ▸ hinvoice)
      (hvalid.payable hstatus) (Int.le_of_eq hbalance.symm) rfl
      (account_settleInvoiceData (hvalid.payable hstatus) _ now) rfl ?_
    rw [hvalid.invoiceId]

/-! ### Invoices and orders -/

theorem posted_relabel (hsize : db'.invoices.size = db.invoices.size)
    (hsame : ∀ i invoice', db'.invoices.get? i = some invoice' →
      ∃ invoice, db.invoices.get? i = some invoice ∧ invoice.account.SameFigures invoice'.account)
    (hpayments : db'.payments = db.payments) : Posted db db' := by
  refine posted_one (.relabelled (?_ : (db'.invoices.map account).size = _) ?_) ?_
  · rw [size_map, hsize, books, size_map]
  · intro i a' ha'
    rw [get?_map, Option.map_eq_some_iff] at ha'
    obtain ⟨invoice', hinvoice', rfl⟩ := ha'
    obtain ⟨invoice, hinvoice, hfigures⟩ := hsame i invoice' hinvoice'
    exact ⟨invoice.account, get?_accounts hinvoice, hfigures⟩
  · rw [books, hpayments]
    rfl

/-- The amounts of a draft that is about to be written. -/
structure Calculated (amounts : InvoiceTotals) : Prop where
  balanceDue : amounts.balanceDue = amounts.total - amounts.creditTotal
  balanceDue_nonneg : 0 ≤ amounts.balanceDue

theorem calculated_of_parse (h : parseAndCalculate input = .ok amounts) :
    Calculated amounts := by
  rw [parseAndCalculate, unprocessable_eq_ok] at h
  obtain ⟨-, -, -, hcredit, -, hbalance, hpos, -⟩ := calculateInvoiceTotals_eq_ok h
  exact ⟨by omega, hpos⟩

theorem posted_create {input : CreateInvoiceRequest} (hamounts : Calculated amounts)
    (h : createTransaction input amounts now db = .ok (db', id)) :
    Posted db db' := by
  rw [createTransaction_eq_ok h]
  refine posted_one (.opened (draftInvoice input amounts now).account rfl
    hamounts.balanceDue hamounts.balanceDue_nonneg) ?_
  rw [books, map_insert]
  rfl

theorem posted_updateDraft {updatedAt : ℕ} (hamounts : Calculated amounts)
    (h : updateDraftTransaction invoiceId input amounts updatedAt now db =
      .ok (db', u)) : Posted db db' := by
  obtain ⟨invoice, hinvoice, hdraft, rfl⟩ := updateDraftTransaction_eq_ok h
  have hpos : 0 ≤ amounts.total - amounts.creditTotal := by
    have := hamounts.balanceDue
    have := hamounts.balanceDue_nonneg
    omega
  refine posted_one (.redrafted amounts.total amounts.creditTotal (get?_accounts hinvoice)
    (by simp [account, hdraft]) hpos) ?_
  have haccounts : (db.invoices.update invoiceId (redraft input amounts now)).map
      account = (db.invoices.map account).update invoiceId
        (Account.redraft amounts.total amounts.creditTotal) := by
    apply map_update
    intro row _
    simp only [redraft, account, Account.redraft, hamounts.balanceDue]
  rw [books, updateInvoice, haccounts]
  rfl

theorem posted_applyAction {action : InvoiceAction} {current : Invoice}
    {next : InvoiceStatus} (hnext : next ≠ .draft)
    (h : applyActionTransaction invoiceId action current next decidedAt now db =
      .ok (db', u)) : Posted db db' := by
  obtain ⟨invoice, orders, events, hinvoice, -, -, -, -, rfl⟩ :=
    applyActionTransaction_eq_ok h
  refine posted_relabel (size_update _ _ _) ?_ rfl
  intro i invoice' hinvoice'
  rcases get?_update_cases hinvoice' with ⟨rfl, row, hrow, rfl⟩ | ⟨-, hi⟩
  · refine ⟨row, hrow, rfl, rfl, rfl, rfl, ?_⟩
    simp [account, actionData, hnext]
  · exact ⟨invoice', hi, Account.SameFigures.refl _⟩

theorem posted_updateStatus {request : OrderService.UpdateOrderStatusRequest} {current : Order}
    (h : OrderService.updateStatusTransaction request current decidedAt now db = .ok (db', u)) :
    Posted db db' := by
  obtain ⟨order, events, -, -, -, rfl⟩ := OrderService.updateStatusTransaction_eq_ok h
  rw [OrderService.decidedInvoices]
  split
  · refine posted_relabel (size_updateWhere _ _ _) ?_ rfl
    intro i invoice' hinvoice'
    obtain ⟨row, hrow, rfl⟩ := get?_updateWhere_cases hinvoice'
    refine ⟨row, hrow, ?_⟩
    split
    · exact ⟨rfl, rfl, rfl, rfl, by simp [account]⟩
    · exact Account.SameFigures.refl _
  · exact posted_of_books_eq rfl

/-! ### Renewal invoices -/

theorem renewalTotal_nonneg (hprices : db.Priced) {service : Service}
    (hservice : db.services.get? id = some service) :
    0 ≤ renewalTotal service
      (renewingAddOns db service) := by
  have hlines : ∀ entry ∈ renewingAddOns db service,
      0 ≤ entry.2.lineTotal := by
    intro entry hentry
    rw [renewingAddOns] at hentry
    split at hentry
    · exact absurd hentry (by simp)
    · exact hprices.lineTotal _ _ (mem_select.1 hentry).1
  have hsum : ∀ (entries : List (RowId × OrderItem)) (start : ℤ), 0 ≤ start →
      (∀ entry ∈ entries, 0 ≤ entry.2.lineTotal) →
      0 ≤ entries.foldl (fun sum entry => sum + entry.2.lineTotal) start := by
    intro entries
    induction entries with
    | nil => exact fun _ hstart _ => hstart
    | cons entry entries ih =>
      intro start hstart hall
      exact ih _ (Int.add_nonneg hstart (hall entry (by simp))) fun e he => hall e (by simp [he])
  exact hsum _ _ (hprices.recurringAmount _ _ hservice) hlines

theorem posted_renewal {addBillingPeriod : ℕ → BillingPeriod → ℕ}
    {request : RenewalRequest} {created : Bool} (hprices : db.Priced)
    (h : renewalTransaction rt addBillingPeriod request db =
      .ok (db', created)) : Posted db db' ∧ db'.Priced := by
  rcases renewalTransaction_eq_ok rt addBillingPeriod h with
    rfl | ⟨service, hservice, -, -, -, hbill⟩
  · exact ⟨.refl, hprices⟩
  obtain rfl := billPeriod_eq_ok rt hbill
  refine ⟨?_, ?_, hprices.lineTotal⟩
  · refine posted_one (.opened (renewalInvoice rt request.serviceId service
      (renewingAddOns db service)
      (addBillingPeriod service.nextDueAt service.billingPeriod) request.now).account rfl ?_
      (renewalTotal_nonneg hprices hservice)) ?_
    · exact (Int.sub_zero _).symm
    · rw [books, map_insert]
      rfl
  · intro id row hrow
    dsimp only at hrow
    split at hrow
    · rcases get?_update_cases hrow with ⟨rfl, row', hrow', rfl⟩ | ⟨-, hid⟩
      · exact hprices.recurringAmount _ row' hrow'
      · exact hprices.recurringAmount id row hid
    · exact hprices.recurringAmount id row hrow

end

/-! ## The operations that move the figures of an invoice -/

inductive LedgerOperation
  | submitManual
  | recordManual
  | review
  | adjust
  | processNormalizedEvent
  | createInvoice
  | updateDraft
  | applyAction
  | updateStatus
  | createRenewalInvoice
deriving DecidableEq

section

variable (rt : Runtime) (addBillingPeriod : ℕ → BillingPeriod → ℕ)

/-- The operations that move money. -/
def ledgerOperations : LedgerOperation → Operation Database World
  | .submitManual => submitManual rt
  | .recordManual => recordManual rt
  | .review => review rt
  | .adjust => adjust rt
  | .processNormalizedEvent => processNormalizedEvent
  | .createInvoice => create
  | .updateDraft => updateDraft
  | .applyAction => applyAction
  | .updateStatus => OrderService.updateStatus
  | .createRenewalInvoice => createRenewalInvoice rt addBillingPeriod

/-- What an operation that is about to commit may rely on: a payment is where it was located, the
amounts of a draft were calculated, and no action leads back to a draft. -/
def ledgerAssertion (db : Database) :
    (op : LedgerOperation) → (ledgerOperations rt addBillingPeriod op).Local → Prop
  | .review, .transact request invoiceId => Located db request.paymentId invoiceId
  | .adjust, .transact request invoiceId => Located db request.originalPaymentId invoiceId
  | .createInvoice, .transact _ amounts => Calculated amounts
  | .updateDraft, .transact _ _ amounts _ => Calculated amounts
  | .applyAction, .transact _ _ _ next _ => next ≠ .draft
  | _, _ => True

theorem ledgerAssertion_mono (hpost : Posted db db') (op : LedgerOperation)
    (l : (ledgerOperations rt addBillingPeriod op).Local)
    (h : ledgerAssertion rt addBillingPeriod db op l) :
    ledgerAssertion rt addBillingPeriod db' op l := by
  cases op with
  | review =>
    cases l with
    | transact request invoiceId => exact Located.mono h hpost
    | read | done => trivial
  | adjust =>
    cases l with
    | transact request invoiceId => exact Located.mono h hpost
    | lookup | locate | raced | done => trivial
  | createInvoice | updateDraft | applyAction => cases l <;> exact h
  | submitManual | recordManual | processNormalizedEvent | updateStatus | createRenewalInvoice =>
    trivial

theorem posts_of_step {w : World} (hprices : db.Priced) (op : LedgerOperation)
    (l l' : (ledgerOperations rt addBillingPeriod op).Local)
    (hl : ledgerAssertion rt addBillingPeriod db op l)
    (h : (ledgerOperations rt addBillingPeriod op).step w db l = some (db', l')) :
    Posted db db' ∧ db'.Priced := by
  cases op with
  | submitManual =>
    rcases Creation.step_commits h with rfl | ⟨request, result, -, hok⟩
    · exact ⟨.refl, hprices⟩
    · refine ⟨posted_submit hok, ?_⟩
      rcases submitTransaction_eq_ok hok with ⟨rfl, -⟩ | ⟨_, -, -, -, -, -, rfl⟩ <;>
      exact ⟨hprices.1, hprices.2⟩
  | recordManual =>
    rcases Creation.step_commits h with rfl | ⟨request, result, -, hok⟩
    · exact ⟨.refl, hprices⟩
    · refine ⟨posted_record hok, ?_⟩
      obtain ⟨_, _, _, _, _, _, _, _, rfl⟩ := recordTransaction_eq_ok hok
      exact ⟨hprices.1, hprices.2⟩
  | review =>
    rcases reviewStep_writes h with
      rfl | ⟨request, invoiceId, rfl, ⟨reason, hok⟩ | hok⟩
    · exact ⟨.refl, hprices⟩
    · refine ⟨posted_reject hok, ?_⟩
      obtain ⟨_, _, _, _, _, rfl⟩ := rejectTransaction_eq_ok hok
      exact ⟨hprices.1, hprices.2⟩
    · refine ⟨posted_verify hl hok, ?_⟩
      obtain ⟨_, _, _, _, _, _, _, _, _, _, _, _, rfl⟩ := verifyTransaction_eq_ok hok
      exact ⟨hprices.1, hprices.2⟩
  | adjust =>
    rcases adjustStep_writes h with rfl | ⟨request, invoiceId, result, rfl, hok⟩
    · exact ⟨.refl, hprices⟩
    · refine ⟨posted_adjust hl hok, ?_⟩
      obtain ⟨_, _, _, _, _, _, _, _, _, _, _, rfl⟩ := adjustTransaction_eq_ok hok
      exact ⟨hprices.1, hprices.2⟩
  | processNormalizedEvent =>
    rcases processStep_writes h with rfl | ⟨d, result, rfl, hok⟩
    · exact ⟨.refl, hprices⟩
    · refine ⟨posted_process hok, ?_⟩
      cases (processTransaction_eq_ok hok).2 <;>
      exact ⟨hprices.1, hprices.2⟩
  | createInvoice =>
    rcases createStep_writes h with rfl | ⟨input, amounts, id, rfl, hok⟩
    · exact ⟨.refl, hprices⟩
    · refine ⟨posted_create hl hok, ?_⟩
      rw [createTransaction_eq_ok hok]
      exact ⟨hprices.1, hprices.2⟩
  | updateDraft =>
    rcases updateDraftStep_writes h with
      rfl | ⟨invoiceId, input, amounts, updatedAt, rfl, hok⟩
    · exact ⟨.refl, hprices⟩
    · refine ⟨posted_updateDraft hl hok, ?_⟩
      obtain ⟨_, _, _, rfl⟩ := updateDraftTransaction_eq_ok hok
      exact ⟨hprices.1, hprices.2⟩
  | applyAction =>
    rcases applyActionStep_writes h with
      rfl | ⟨invoiceId, action, current, next, decidedAt, rfl, hok⟩
    · exact ⟨.refl, hprices⟩
    · refine ⟨posted_applyAction hl hok, ?_⟩
      obtain ⟨_, _, _, _, _, _, _, _, rfl⟩ := applyActionTransaction_eq_ok hok
      exact ⟨hprices.1, hprices.2⟩
  | updateStatus =>
    rcases OrderService.updateStatusStep_writes h with rfl | ⟨request, current, decidedAt, rfl, hok⟩
    · exact ⟨.refl, hprices⟩
    · refine ⟨posted_updateStatus hok, ?_⟩
      obtain ⟨_, _, _, _, _, rfl⟩ := OrderService.updateStatusTransaction_eq_ok hok
      exact ⟨hprices.1, hprices.2⟩
  | createRenewalInvoice =>
    rcases renewalStep_writes rt addBillingPeriod w h with
      rfl | ⟨request, created, hok⟩
    · exact ⟨.refl, hprices⟩
    · exact posted_renewal hprices hok

theorem ledgerAssertion_step {w : World} (op : LedgerOperation)
    (l l' : (ledgerOperations rt addBillingPeriod op).Local)
    (h : (ledgerOperations rt addBillingPeriod op).step w db l = some (db', l')) :
    ledgerAssertion rt addBillingPeriod db' op l' := by
  cases op with
  | review =>
    cases l' with
    | transact request invoiceId =>
      obtain ⟨rfl, hlocated⟩ := reviewStep_transact h
      exact hlocated
    | read | done => trivial
  | adjust =>
    cases l' with
    | transact request invoiceId =>
      obtain ⟨rfl, hlocated⟩ := adjustStep_transact h
      exact hlocated
    | lookup | locate | raced | done => trivial
  | createInvoice =>
    cases l' with
    | transact input amounts => exact calculated_of_parse (createStep_transact h).2
    | lookup | raced | done => trivial
  | updateDraft =>
    cases l' with
    | transact invoiceId input amounts updatedAt =>
      exact calculated_of_parse (updateDraftStep_transact h).2
    | read | done => trivial
  | applyAction =>
    cases l' with
    | transact invoiceId action current next decidedAt =>
      obtain ⟨-, -, hnext⟩ := applyActionStep_transact h
      exact (nextInvoiceStatus_eq_ok hnext).2.2
    | read | done => trivial
  | submitManual | recordManual | processNormalizedEvent | updateStatus | createRenewalInvoice =>
    trivial

/-- The books are balanced and prices are not negative; threads rely on `ledgerAssertion`. -/
def ledgerOutline : Outline (ledgerOperations rt addBillingPeriod) where
  shared db := db.books.Balanced ∧ db.Priced
  thread db t := ledgerAssertion rt addBillingPeriod db t.op t.loc

theorem ledgerOutline_sound : (ledgerOutline rt addBillingPeriod).Sound anyStep where
  symm _ _ h := h
  call _ op _ _ := by cases op <;> trivial
  call_apart _ _ _ := trivial
  own w db t db' t' _ hshared hthread hstep := by
    obtain ⟨l, hl, rfl⟩ := Thread.step_eq_some hstep
    obtain ⟨hpost, hprices⟩ :=
      posts_of_step rt addBillingPeriod hshared.2 t.op t.loc l hthread hl
    exact ⟨⟨Books.balanced_of_posts hpost hshared.1, hprices⟩,
      ledgerAssertion_step rt addBillingPeriod t.op t.loc l hl⟩
  other w db t db' t' u _ hshared hthread hu _ hstep := by
    obtain ⟨l, hl, rfl⟩ := Thread.step_eq_some hstep
    obtain ⟨hpost, -⟩ := posts_of_step rt addBillingPeriod hshared.2 t.op t.loc l hthread hl
    exact ⟨ledgerAssertion_mono rt addBillingPeriod hpost u.op u.loc hu, trivial⟩

/-! ## Conservation -/

/-- A database without payments, whose invoices are unpaid. -/
structure Unpaid (db : Database) : Prop where
  payments : db.payments = ∅
  invoices : ∀ i invoice, db.invoices.get? i = some invoice → invoice.amountPaid = 0 ∧
    invoice.balanceDue = invoice.total - invoice.creditTotal ∧ 0 ≤ invoice.balanceDue
  priced : db.Priced

/-- The figures of every invoice are what its payments say, none is negative, and no charge is given
back more than once over. -/
structure Conserved (db : Database) : Prop where
  amountPaid : ∀ i invoice, db.invoices.get? i = some invoice →
    invoice.amountPaid = db.succeededCharges i - db.succeededAdjustments i
  balanceDue : ∀ i invoice, db.invoices.get? i = some invoice →
    invoice.balanceDue = invoice.total - invoice.creditTotal - invoice.amountPaid
  balanceDue_nonneg : ∀ i invoice, db.invoices.get? i = some invoice → 0 ≤ invoice.balanceDue
  amountPaid_nonneg : ∀ i invoice, db.invoices.get? i = some invoice → 0 ≤ invoice.amountPaid
  adjustments : ∀ id payment, db.payments.get? id = some payment → payment.kind = .charge →
    payment.status = .succeeded → adjustedAmount db id ≤ payment.amount

theorem balanced_of_unpaid (h : Unpaid db) : db.books.Balanced := by
  apply Books.balanced_opening
  · rw [books, h.payments]
    rfl
  · intro i a ha
    rw [books, get?_map, Option.map_eq_some_iff] at ha
    obtain ⟨invoice, hinvoice, rfl⟩ := ha
    exact h.invoices i invoice hinvoice

theorem conserved_of_balanced (h : db.books.Balanced) : Conserved db where
  amountPaid i invoice hinvoice := by
    rw [← charged_books, ← takenBack_books]
    exact (h.account i _ (get?_accounts hinvoice)).paid
  balanceDue i _ hinvoice := (h.account i _ (get?_accounts hinvoice)).balance
  balanceDue_nonneg i _ hinvoice := (h.account i _ (get?_accounts hinvoice)).balance_nonneg
  amountPaid_nonneg i _ hinvoice := (h.account i _ (get?_accounts hinvoice)).paid_nonneg
  adjustments id payment hpayment _ _ := by
    rw [← adjusted_books]
    exact (h.entry id _ (get?_entries hpayment)).bounded

/-- **Money is conserved**: from a database in which nothing has been paid yet, whatever the steps
of any number of the ten operations are interleaved, the figures of every invoice are what its
payments say. -/
theorem ledger_conserved {db : Database} (h : Unpaid db)
    {c : Config (ledgerOperations rt addBillingPeriod)}
    (hr : Reaches anyStep ⟨db, []⟩ c) : Conserved c.shared :=
  conserved_of_balanced ((ledgerOutline_sound rt addBillingPeriod).holds
    (Outline.holds_idle ⟨balanced_of_unpaid h, h.priced⟩) hr).shared.1

end

/-! ### A payment and its partial refund -/

def referenceHash (text : String) : String :=
  if text = "CASH:R-1" then "c2a725f964b0b51c50ce85a25b7e454ee53c794d5462a68fce1285acacc92c0b"
  else "2d252e2d877f53adc1ee8fac1e77008025bb44ab491e6fa6b6857700330c7051"

def unpaidDatabase : Database where
  partialPaymentsEnabled := some true
  users := ⟨[{ role := .admin }]⟩
  customers := ⟨[{ userId := 0 }]⟩
  invoices := ⟨[{
    submissionKey := "order", customerId := 0, status := .unpaid, currency := "BDT",
    subtotal := 100, total := 100, balanceDue := 100, dueAt := 5, updatedAt := 0, items := [] }]⟩

def refundMoves : List (Move (ledgerOperations
    (Runtime.onPlainText referenceHash fun _ => "1970-01-01T00:00:00.000Z") fun at' _ => at')) :=
  [.call .recordManual (⟨⟨"s-1", 0, 40, { method := .cash, reference := "R-1" }⟩, 0⟩ :
      RecordRequest),
    .advance 0 {}, .advance 0 {},
    .call .adjust (⟨0, { submissionKey := "s-2", kind := .refund, amount := 10, reference := "R-2" },
      0⟩ : AdjustRequest),
    .advance 1 {}, .advance 1 {}, .advance 1 {}]

theorem unpaid_unpaidDatabase : Unpaid unpaidDatabase where
  payments := rfl
  invoices i invoice h := by
    obtain ⟨-, rfl⟩ := eq_of_get?_singleton h
    decide
  priced := ⟨fun _ _ h => absurd h get?_empty_ne, fun _ _ h => absurd h get?_empty_ne⟩

theorem conserved_after_refund : ∃ c, Config.run ⟨unpaidDatabase, []⟩ refundMoves = some c ∧
    (c.shared.invoices.get? 0).map (fun invoice => (invoice.amountPaid, invoice.balanceDue)) =
      some (30, 70) ∧ Conserved c.shared :=
  ⟨_, rfl, rfl, ledger_conserved _ _ unpaid_unpaidDatabase
    (reaches_anyStep_of_run (rfl : Config.run ⟨unpaidDatabase, []⟩ refundMoves = some _))⟩

end WebhostBilling
