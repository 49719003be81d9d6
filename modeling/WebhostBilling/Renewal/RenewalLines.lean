import WebhostBilling.Billing.BillingOutline

/-!
# Renewal lines

The lines by which invoices bill a service for its periods, and how the operations of billing move
an invoice.  Once an invoice is issued its lines stay as they are, so the list of a service's lines
grows by renewal invoices only (`billingChange_of_effect`).
-/

namespace WebhostBilling

open Store Store.Table Concurrency RenewalProcessorService

/-! ## The lines of a service -/

def InvoiceItem.period? (item : InvoiceItem) : Option (ℕ × ℕ) :=
  item.servicePeriodStart.bind fun periodStart =>
    item.servicePeriodEnd.map fun periodEnd => (periodStart, periodEnd)

variable {item : InvoiceItem} {invoices : Table Invoice} {invoice : Invoice}

theorem InvoiceItem.period?_eq_some {period : ℕ × ℕ} :
    item.period? = some period ↔
      item.servicePeriodStart = some period.1 ∧ item.servicePeriodEnd = some period.2 := by
  obtain ⟨periodStart, periodEnd⟩ := period
  simp only [InvoiceItem.period?, Option.bind_eq_some_iff, Option.map_eq_some_iff, Prod.mk.injEq]
  constructor
  · rintro ⟨_, hstart, _, hend, rfl, rfl⟩
    exact ⟨hstart, hend⟩
  · rintro ⟨hstart, hend⟩
    exact ⟨periodStart, hstart, periodEnd, hend, rfl, rfl⟩

/-- A line that bills a service for a period; it is free when its whole invoice costs nothing. -/
structure RenewalLine where
  period : ℕ × ℕ
  free : Bool

def Invoice.renewalLine? (serviceId : RowId) (invoice : Invoice) (item : InvoiceItem) :
    Option RenewalLine :=
  if item.serviceId = some serviceId then
    item.period?.map fun period => ⟨period, decide (invoice.total = 0)⟩
  else none

def Invoice.renewalLines (serviceId : RowId) (invoice : Invoice) : List RenewalLine :=
  invoice.items.filterMap (invoice.renewalLine? serviceId)

/-- The renewal lines of a service, in the order of their invoices. -/
def renewalLines (serviceId : RowId) (invoices : Table Invoice) : List RenewalLine :=
  (invoices.map (Invoice.renewalLines serviceId)).rows.flatten

theorem mem_renewalLines {serviceId : RowId} {line : RenewalLine} :
    line ∈ renewalLines serviceId invoices ↔ ∃ i invoice, invoices.get? i = some invoice ∧
      ∃ item ∈ invoice.items, item.serviceId = some serviceId ∧ item.period? = some line.period ∧
        line.free = decide (invoice.total = 0) := by
  obtain ⟨period, free⟩ := line
  simp only [renewalLines, Table.map, List.mem_flatten, List.mem_map, Invoice.renewalLines]
  constructor
  · rintro ⟨_, ⟨invoice, hinvoice, rfl⟩, hline⟩
    obtain ⟨i, hi⟩ := List.mem_iff_getElem?.1 hinvoice
    obtain ⟨item, hitem, hline⟩ := List.mem_filterMap.1 hline
    rw [Invoice.renewalLine?] at hline
    split at hline
    · rename_i hservice
      obtain ⟨_, hperiod, heq⟩ := Option.map_eq_some_iff.1 hline
      obtain ⟨rfl, rfl⟩ := RenewalLine.mk.inj heq
      exact ⟨i, invoice, hi, item, hitem, hservice, hperiod, rfl⟩
    · cases hline
  · rintro ⟨i, invoice, hinvoice, item, hitem, hservice, hperiod, hfree⟩
    refine ⟨_, ⟨invoice, List.mem_of_getElem? hinvoice, rfl⟩, List.mem_filterMap.2
      ⟨item, hitem, ?_⟩⟩
    rw [Invoice.renewalLine?, if_pos hservice, hperiod, Option.map_some, hfree]

theorem renewalLines_insert (serviceId : RowId) (invoices : Table Invoice) (invoice : Invoice) :
    renewalLines serviceId (invoices.insert invoice) =
      renewalLines serviceId invoices ++ invoice.renewalLines serviceId := by
  rw [renewalLines, map_insert, Table.insert, List.flatten_append, List.flatten_singleton,
    renewalLines]

def Invoice.plain (invoice : Invoice) : Prop :=
  ∀ item ∈ invoice.items, item.serviceId = none ∧ item.orderItemId = none

theorem Invoice.plain.renewalLines (h : invoice.plain) (serviceId : RowId) :
    invoice.renewalLines serviceId = [] := by
  refine List.filterMap_eq_nil_iff.2 fun item hitem => ?_
  rw [Invoice.renewalLine?, (h item hitem).1]
  rfl

def LinesIssued (serviceId : RowId) (invoices : Table Invoice) : Prop :=
  ∀ i invoice, invoices.get? i = some invoice → ∀ item ∈ invoice.items,
    item.serviceId = some serviceId → invoice.status ≠ .draft ∧ item.period?.isSome = true

theorem plain_zipWith {items : List InvoiceService.InvoiceItemInput} {lineTotals : List ℤ}
    (h : item ∈ List.zipWith InvoiceService.itemCreateData items lineTotals) :
    item.serviceId = none ∧ item.orderItemId = none := by
  rw [← List.map_uncurry_zip_eq_zipWith] at h
  obtain ⟨entry, -, rfl⟩ := List.mem_map.1 h
  exact ⟨rfl, rfl⟩

/-! ## How an invoice moves -/

structure InvoiceMoves (invoice invoice' : Invoice) : Prop where
  orderId : invoice'.orderId = invoice.orderId
  issued : invoice.status ≠ .draft → invoice'.status ≠ .draft ∧ invoice'.items = invoice.items ∧
    invoice'.total = invoice.total ∧ (invoice.issuedAt.isSome = true → invoice'.issuedAt.isSome = true)
  /-- A draft is rewritten with items that refer to nothing. -/
  draft : invoice.status = .draft → invoice'.items = invoice.items ∨ invoice'.plain
  cancelled : invoice.status = .cancelled → invoice.amountPaid ≤ 0 →
    invoice'.status = .cancelled ∧ invoice'.amountPaid ≤ 0
  cancels : invoice.status ≠ .cancelled → invoice'.status = .cancelled → invoice.orderId = none →
    invoice'.amountPaid ≤ 0

theorem InvoiceMoves.refl (invoice : Invoice) : InvoiceMoves invoice invoice where
  orderId := rfl
  issued h := ⟨h, rfl, rfl, fun hissued => hissued⟩
  draft _ := Or.inl rfl
  cancelled h hpaid := ⟨h, hpaid⟩
  cancels h h' := absurd h' h

theorem InvoiceMoves.of_open {invoice' : Invoice} (horderId : invoice'.orderId = invoice.orderId)
    (hitems : invoice'.items = invoice.items) (htotal : invoice'.total = invoice.total)
    (hissuedAt : invoice.issuedAt.isSome = true → invoice'.issuedAt.isSome = true)
    (hdraft : invoice.status ≠ .draft → invoice'.status ≠ .draft)
    (hopen : invoice.status = .cancelled → 0 < invoice.amountPaid)
    (hstays : invoice'.status ≠ .cancelled) : InvoiceMoves invoice invoice' where
  orderId := horderId
  issued h := ⟨hdraft h, hitems, htotal, hissuedAt⟩
  draft _ := Or.inl hitems
  cancelled h hpaid := absurd (hopen h) (by omega)
  cancels _ h' := absurd h' hstays

theorem payable_not_cancelled (h : invoice.payable) :
    invoice.status = .cancelled → 0 < invoice.amountPaid := by
  intro hcancelled
  rw [Invoice.payable, hcancelled] at h
  rcases h with h | h <;> exact nomatch h

theorem moves_update {i : RowId} {f : Invoice → Invoice} {row : Invoice}
    (hrow : invoices.get? i = some row) (h : InvoiceMoves row (f row)) :
    Table.Grows InvoiceMoves invoices (invoices.update i f) := by
  refine grows_update InvoiceMoves.refl fun row' hrow' => ?_
  rw [hrow, Option.some.injEq] at hrow'
  exact hrow' ▸ h

theorem moves_decidedInvoices (request : OrderService.UpdateOrderStatusRequest)
    (decidedAt now : ℕ) (db : Database) :
    Table.Grows InvoiceMoves db.invoices (OrderService.decidedInvoices request decidedAt now db) := by
  rw [OrderService.decidedInvoices]
  split
  · refine grows_updateWhere InvoiceMoves.refl fun id invoice _ htaken => ?_
    rw [decide_eq_true_eq] at htaken
    constructor
    · rfl
    · exact fun _ => ⟨by rintro ⟨⟩, rfl, rfl, fun hissued => hissued⟩
    · exact fun _ => .inl rfl
    · exact fun _ hpaid => ⟨rfl, hpaid⟩
    · intro _ _ hnone
      rw [htaken.1] at hnone
      cases hnone
  · exact Grows.refl InvoiceMoves.refl _

/-! ## What a step does to the lines and the services -/

def SameTerms (service service' : Service) : Prop := service'.terms = service.terms

theorem SameTerms.refl (service : Service) : SameTerms service service := rfl

section

variable {lib : Libraries}

/-- **What a step does to invoices and services**, as far as renewals go. -/
inductive BillingChange (lib : Libraries) (w : World) (db : Database) :
    (op : BillingOperation) → (billingOperations lib op).Local → Database → Prop
  | quiet {op : BillingOperation} {l : (billingOperations lib op).Local} {db' : Database}
      {invoices : Table Invoice} {services : Table Service}
      (hmoves : Table.Grows InvoiceMoves db.invoices invoices)
      (hsize : invoices.size = db.invoices.size)
      (hinvoices : db'.invoices = invoices ∨ ∃ draft : Invoice, draft.plain ∧
        db'.invoices = invoices.insert draft)
      (hterms : Table.Grows SameTerms db.services services)
      (hservices : db'.services = services) : BillingChange lib w db op l db'
  | renewed {op : BillingOperation} {l : (billingOperations lib op).Local} {db' : Database}
      {request : RenewalRequest} {service : Service}
      (hservice : db.services.get? request.serviceId = some service)
      (hperiod : hostingBillingPeriod service.billingPeriod)
      (hbilled : periodBilled db request.serviceId service.nextDueAt
        (RenewalCalendar.addBillingPeriod service.nextDueAt service.billingPeriod) = false)
      (hinvoices : db'.invoices = db.invoices.insert (renewalInvoice
        lib.runtime request.serviceId service (renewingAddOns db service)
        (RenewalCalendar.addBillingPeriod service.nextDueAt service.billingPeriod) request.now))
      (hservices : db'.services = billedServices request service db) :
      BillingChange lib w db op l db'
  | applied {db' : Database} {run : PaymentRun} {items : List InvoiceItem}
      (hdelivery : w.databaseDelivery.carriedOut = true)
      (hinvoices : db'.invoices = db.invoices)
      (hservices : db'.services =
        appliedServices w.now db.services items) :
      BillingChange lib w db .processPayment (PaymentState.apply run items) db'

theorem billingChange_of_effect {w : World} {db db' : Database} {op : BillingOperation}
    {l : (billingOperations lib op).Local} (hl : billingAssertion lib db op l)
    (h : BillingEffect lib w db op l db') : BillingChange lib w db op l db' := by
  have hsame : Table.Grows InvoiceMoves db.invoices db.invoices :=
    Grows.refl InvoiceMoves.refl _
  have hterms : Table.Grows SameTerms db.services db.services :=
    Grows.refl SameTerms.refl _
  -- The writes to one invoice that leave the services alone.
  have hwrite : ∀ {i row f orders orderItems}, db.invoices.get? i = some row →
      InvoiceMoves row (f row) →
      Writes db' (db.invoices.update i f) orders orderItems db.services →
      BillingChange lib w db op l db' :=
    fun hrow hmoves hwrites => .quiet (moves_update hrow hmoves) (size_update _ _ _)
      (.inl hwrites.invoices) hterms hwrites.services
  cases h with
  | kept _ hservices hwrites =>
    refine .quiet hsame rfl (.inl hwrites.invoices) ?_ hwrites.services
    rcases hservices with rfl | ⟨serviceId, f, hkeeps, rfl⟩
    · exact hterms
    · exact grows_update SameTerms.refl fun service _ => hkeeps service
  | @charged op l db' i invoice amount orders hinvoice hpayable _ _ _ hwrites =>
    refine hwrite hinvoice (.of_open rfl rfl rfl (fun h => h) ?_ (payable_not_cancelled hpayable) ?_)
      hwrites
    all_goals
      simp only [PaymentService.chargeInvoice]
      split
      · simp
      · rcases hpayable with hstatus | hstatus <;> simp [hstatus]
  | settled hinvoice hpayable _ _ hwrites =>
    refine hwrite hinvoice (.of_open rfl rfl rfl (fun h => h) (fun _ => ?_)
      (payable_not_cancelled hpayable) ?_) hwrites <;>
    rintro ⟨⟩
  | adjusted hinvoice hpos hle hwrites =>
    refine hwrite hinvoice (.of_open rfl rfl rfl (fun h => h) (fun _ => ?_) (fun _ => by omega) ?_)
      hwrites
    all_goals
      simp only [PaymentService.adjustInvoice]
      split <;> rintro ⟨⟩
  | drafted hwrites =>
    exact .quiet hsame rfl (.inr ⟨_, fun item hitem => plain_zipWith hitem, hwrites.invoices⟩)
      hterms hwrites.services
  | redrafted hinvoice hdraft hwrites =>
    refine hwrite hinvoice ?_ hwrites
    constructor
    · rfl
    · exact fun hissued => absurd hdraft hissued
    · exact fun _ => .inr fun item hitem => plain_zipWith hitem
    · intro hcancelled
      rw [hdraft] at hcancelled
      cases hcancelled
    · intro hnot hcancelled
      exact absurd hcancelled hnot
  | @acted db' i action current invoice next decidedAt orders hinvoice hstatus _ hpaid _ hwrites =>
    obtain ⟨-, now, hnext⟩ := hl
    refine hwrite hinvoice ?_ hwrites
    have hbefore := (InvoiceService.nextInvoiceStatus_eq_ok hnext).1
    rw [← hstatus] at hbefore
    constructor
    · rfl
    · refine fun _ => ⟨(InvoiceService.nextInvoiceStatus_eq_ok hnext).2.2, rfl, rfl, fun hissued => ?_⟩
      simp only [InvoiceService.actionData]
      split
      · rfl
      · exact hissued
    · exact fun _ => .inl rfl
    · intro hcancelled
      rw [hcancelled] at hbefore
      rcases hbefore with h | h | h <;> cases h
    · intro _ hcancelled _
      simp only [InvoiceService.actionData] at hcancelled ⊢
      subst hcancelled
      rw [hpaid]
      exact (InvoiceService.nextInvoiceStatus_cancelled hnext).2
  | decided _ hwrites =>
    refine .quiet (moves_decidedInvoices _ _ _ db) ?_ (.inl hwrites.invoices) hterms
      hwrites.services
    rw [OrderService.decidedInvoices]
    split
    · exact size_updateWhere _ _ _
    · rfl
  | renewed hservice hperiod hbilled hwrites =>
    exact .renewed hservice hperiod hbilled hwrites.invoices hwrites.services
  | @overdue op l db' i now invoice hinvoice hbecomes hwrites =>
    refine hwrite hinvoice (.of_open rfl rfl rfl (fun h => h) (fun _ => ?_) (fun h => ?_) ?_) hwrites
    · rintro ⟨⟩
    · rw [hbecomes.1] at h
      cases h
    · rintro ⟨⟩
  | applied hdelivery hwrites => exact .applied hdelivery hwrites.invoices hwrites.services
  | created _ _ hwrites =>
    exact .quiet hsame rfl (.inl hwrites.invoices) (grows_insert SameTerms.refl _ _)
      hwrites.services
  | fulfilled _ _ _ _ hwrites | ended _ _ _ _ hwrites =>
    exact .quiet hsame rfl (.inl hwrites.invoices) hterms hwrites.services

end

/-! ## What moves leave of the lines -/

section

variable {serviceId : RowId} {invoices' : Table Invoice}

theorem LinesIssued.moves (h : LinesIssued serviceId invoices)
    (hmoves : Table.Grows InvoiceMoves invoices invoices')
    (hsize : invoices'.size = invoices.size) :
    LinesIssued serviceId invoices' := by
  intro i invoice' hinvoice' item hitem hservice
  obtain ⟨invoice, hinvoice, hmove⟩ := hmoves.before hsize hinvoice'
  by_cases hdraft : invoice.status = .draft
  · rcases hmove.draft hdraft with hsame | hplain
    · rw [hsame] at hitem
      exact absurd hdraft (h i invoice hinvoice item hitem hservice).1
    · rw [(hplain item hitem).1] at hservice
      exact nomatch hservice
  · obtain ⟨hissued, hitems, -, -⟩ := hmove.issued hdraft
    rw [hitems] at hitem
    exact ⟨hissued, (h i invoice hinvoice item hitem hservice).2⟩

theorem renewalLines_moves (h : LinesIssued serviceId invoices)
    (hmoves : Table.Grows InvoiceMoves invoices invoices')
    (hsize : invoices'.size = invoices.size) :
    renewalLines serviceId invoices' = renewalLines serviceId invoices := by
  rw [renewalLines, renewalLines, hmoves.map_eq hsize]
  intro i invoice invoice' hinvoice hmove
  by_cases hdraft : invoice.status = .draft
  · have hnone : ∀ {row : Invoice}, (∀ item ∈ row.items, item.serviceId ≠ some serviceId) →
        row.renewalLines serviceId = [] := fun hno =>
      List.filterMap_eq_nil_iff.2 fun item hitem => by
        rw [Invoice.renewalLine?, if_neg (hno item hitem)]
    have hbefore : ∀ item ∈ invoice.items, item.serviceId ≠ some serviceId :=
      fun item hitem hservice => (h i invoice hinvoice item hitem hservice).1 hdraft
    rw [hnone hbefore]
    rcases hmove.draft hdraft with hsame | hplain
    · exact hnone (hsame ▸ hbefore)
    · exact hplain.renewalLines serviceId
  · obtain ⟨-, hitems, htotal, -⟩ := hmove.issued hdraft
    have hline : invoice'.renewalLine? serviceId = invoice.renewalLine? serviceId := by
      funext item
      rw [Invoice.renewalLine?, Invoice.renewalLine?, htotal]
    rw [Invoice.renewalLines, Invoice.renewalLines, hitems, hline]

theorem LinesIssued.insert (h : LinesIssued serviceId invoices) {invoice : Invoice}
    (hnew : ∀ item ∈ invoice.items, item.serviceId = some serviceId →
      invoice.status ≠ .draft ∧ item.period?.isSome = true) :
    LinesIssued serviceId (invoices.insert invoice) := by
  intro i row hrow
  rcases get?_insert_cases hrow with ⟨-, rfl⟩ | hold
  · exact hnew
  · exact h i row hold

end

end WebhostBilling
