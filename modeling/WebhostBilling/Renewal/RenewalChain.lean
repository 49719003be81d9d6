import WebhostBilling.Renewal.RenewalLines
import WebhostBilling.Store.Intervals

/-!
# The chain of a service's renewals

The worker bills the period from the due date of a service to the next one, and when that invoice
was paid it moves the due date to the end of the period.  Issuing and applying both hold the lock of
the service, and a period that was billed is not billed again.
-/

namespace WebhostBilling

open Store Store.Table Concurrency Config Intervals RenewalCalendar RenewalProcessorService
open InvoiceItem

/-! ## What is applied -/

def InvoiceItem.servicePeriod? (item : InvoiceItem) : Option (RowId × ℕ × ℕ) :=
  item.serviceId.bind fun serviceId => item.period?.map fun period => (serviceId, period)

theorem InvoiceItem.servicePeriod?_eq_some {item : InvoiceItem} {serviceId : RowId}
    {period : ℕ × ℕ} : item.servicePeriod? = some (serviceId, period) ↔
      item.serviceId = some serviceId ∧ item.period? = some period := by
  simp [servicePeriod?, Option.bind_eq_some_iff]

section

variable {lib : Libraries}

def appliedBy (w : World) : (op : BillingOperation) → (billingOperations lib op).Local →
    List (RowId × ℕ × ℕ)
  | .processPayment, .apply _ items =>
    if w.databaseDelivery.carriedOut then items.filterMap servicePeriod? else []
  | _, _ => []

/-- The periods that a step applies to services. -/
def appliedPeriods (w : World) (_ : Database) (t : Thread (billingOperations lib)) :
    List (RowId × ℕ × ℕ) :=
  appliedBy w t.op t.loc

/-- A step applies nothing, or it is the write of `applyRenewalPayment`. -/
theorem appliedBy_cases (w : World) (op : BillingOperation) (l : (billingOperations lib op).Local) :
    appliedBy w op l = [] ∨ ∃ run items, (⟨op, l⟩ : Thread (billingOperations lib)) =
      ⟨.processPayment, PaymentState.apply run items⟩ ∧
      w.databaseDelivery.carriedOut = true := by
  cases op with
  | processPayment =>
    cases l with
    | apply run items =>
      by_cases hdelivery : w.databaseDelivery.carriedOut = true
      · exact .inr ⟨run, items, rfl, hdelivery⟩
      · exact .inl (if_neg hdelivery)
    | start | upsert | read | record | fail | done => exact .inl rfl
  | ledger | hosting | createService | fulfillAddOn | cancelAddOn | processOpenRenewals
  | dispatchOutbox => exact .inl rfl

end

/-! ## Applying payments moves due dates ahead -/

def periodEnds (serviceId : RowId) (items : List InvoiceItem) : List ℕ :=
  items.filterMap fun item =>
    if item.serviceId = some serviceId then item.servicePeriodEnd else none

variable {l : List ℕ} {services : Table Service} {serviceId : RowId} {service : Service}

theorem foldl_max_of_le {a : ℕ} (h : ∀ b ∈ l, b ≤ a) : l.foldl max a = a := by
  induction l with
  | nil => rfl
  | cons b l ih =>
    rw [List.foldl_cons, Nat.max_eq_left (h b List.mem_cons_self)]
    exact ih fun c hc => h c (List.mem_cons_of_mem b hc)

theorem foldl_max_of_mem {a b : ℕ} (ha : a ≤ b) (h : ∀ c ∈ l, c ≤ b) (hb : b ∈ l) :
    l.foldl max a = b := by
  induction l generalizing a with
  | nil => exact nomatch hb
  | cons c l ih =>
    have hc := h c List.mem_cons_self
    rw [List.foldl_cons]
    rcases List.mem_cons.1 hb with rfl | hb
    · rw [Nat.max_eq_right ha]
      exact foldl_max_of_le fun d hd => h d (List.mem_cons_of_mem b hd)
    · exact ih (by omega) (fun d hd => h d (List.mem_cons_of_mem c hd)) hb

theorem le_foldl_max (a : ℕ) (l : List ℕ) : a ≤ l.foldl max a := by
  induction l generalizing a with
  | nil => exact Nat.le_refl a
  | cons b l ih =>
    have hle := ih (max a b)
    rw [List.foldl_cons]
    omega

theorem get?_appliedService (now : ℕ) (h : services.get? serviceId = some service)
    (item : InvoiceItem) :
    ∃ service', (appliedService now services item).get? serviceId =
        some service' ∧ service'.billingPeriod = service.billingPeriod ∧
      service'.nextDueAt = (periodEnds serviceId [item]).foldl max service.nextDueAt := by
  unfold appliedService periodEnds
  split
  · rename_i id periodEnd hid hend
    by_cases hown : id = serviceId
    · subst hown
      refine ⟨_, get?_update_self h, ?_⟩
      simp only [List.filterMap_cons, hid, hend, if_true, List.filterMap_nil, List.foldl_cons,
        List.foldl_nil]
      split
      · exact ⟨rfl, by simp only [renewedService]; omega⟩
      · exact ⟨rfl, by omega⟩
    · refine ⟨service, by rw [get?_update_of_ne hown, h], rfl, ?_⟩
      simp [hid, hown]
  · rename_i hnone
    refine ⟨service, h, rfl, ?_⟩
    by_cases hown : item.serviceId = some serviceId
    · cases hend : item.servicePeriodEnd with
      | none => simp [hown, hend]
      | some periodEnd => exact absurd hend (hnone serviceId periodEnd hown)
    · simp [hown]

/-- **A service after some items were applied** is due at the latest end among theirs, when that is
later than its due date. -/
theorem get?_appliedServices (now : ℕ) (h : services.get? serviceId = some service)
    (items : List InvoiceItem) :
    ∃ service', (appliedServices now services items).get? serviceId =
        some service' ∧ service'.billingPeriod = service.billingPeriod ∧
      service'.nextDueAt = (periodEnds serviceId items).foldl max service.nextDueAt := by
  rw [appliedServices]
  induction items generalizing services service with
  | nil => exact ⟨service, h, rfl, rfl⟩
  | cons item items ih =>
    obtain ⟨service₁, h₁, hperiod₁, hdue₁⟩ := get?_appliedService now h item
    obtain ⟨service₂, h₂, hperiod₂, hdue₂⟩ := ih h₁
    refine ⟨service₂, h₂, hperiod₂.trans hperiod₁, ?_⟩
    rw [hdue₂, hdue₁, ← List.foldl_append, periodEnds, periodEnds, periodEnds,
      ← List.filterMap_append, List.singleton_append]

/-! ## The invariant -/

def nextLine (service : Service) (free : Bool) : RenewalLine :=
  ⟨(service.nextDueAt, addBillingPeriod service.nextDueAt service.billingPeriod), free⟩

/-- How the renewals of a service stand: the `settled` lines lead from its first due date to its
due date, and at most one line is `pending`, which starts there. -/
structure RenewalsStand (serviceId initial : ℕ) (invoices : Table Invoice)
    (applied : List (RowId × ℕ × ℕ)) (service : Service) (settled pending : List RenewalLine) :
    Prop where
  lines : renewalLines serviceId invoices = settled ++ pending
  chained : Chained (addBillingPeriod · service.billingPeriod) initial
    (settled.map RenewalLine.period) service.nextDueAt
  next : pending = [] ∨ pending = [nextLine service false]
  paid : ∀ line ∈ settled, line.free = true ∨ (serviceId, line.period) ∈ applied
  only : ∀ period, (serviceId, period) ∈ applied → period ∈ settled.map RenewalLine.period
  recurring : settled ++ pending ≠ [] →
    hostingBillingPeriod service.billingPeriod
  issued : LinesIssued serviceId invoices

def RenewalsTrack (serviceId initial : ℕ) (db : Database) (applied : List (RowId × ℕ × ℕ)) : Prop :=
  ∃ service settled pending, db.services.get? serviceId = some service ∧
    RenewalsStand serviceId initial db.invoices applied service settled pending

theorem lt_addBillingPeriod_of_hosting {period : BillingPeriod}
    (h : hostingBillingPeriod period) (value : ℕ) :
    value < addBillingPeriod value period := by
  refine lt_addBillingPeriod ?_
  rcases h with rfl | rfl | rfl <;> decide

section

variable {serviceId initial : ℕ} {invoices : Table Invoice} {applied : List (RowId × ℕ × ℕ)}
  {settled pending : List RenewalLine}

theorem RenewalsStand.settled_le
    (h : RenewalsStand serviceId initial invoices applied service settled pending)
    {line : RenewalLine} (hline : line ∈ settled) : line.period.2 ≤ service.nextDueAt := by
  have hrecurring := h.recurring (by
    rw [ne_eq, List.append_eq_nil_iff]
    rintro ⟨rfl, -⟩
    exact nomatch hline)
  exact ((h.chained.bounds (lt_addBillingPeriod_of_hosting hrecurring)).2 line.period
    (List.mem_map_of_mem hline)).2

theorem RenewalsStand.line_of_item
    (h : RenewalsStand serviceId initial invoices applied service settled pending) {i : RowId}
    {invoice : Invoice} (hinvoice : invoices.get? i = some invoice) {item : InvoiceItem}
    (hitem : item ∈ invoice.items) (hservice : item.serviceId = some serviceId) :
    ∃ line ∈ settled ++ pending, item.period? = some line.period := by
  obtain ⟨period, hperiod⟩ :=
    Option.isSome_iff_exists.1 (h.issued i invoice hinvoice item hitem hservice).2
  refine ⟨⟨period, decide (invoice.total = 0)⟩, ?_, hperiod⟩
  rw [← h.lines, mem_renewalLines]
  exact ⟨i, invoice, hinvoice, item, hitem, hservice, hperiod, rfl⟩

variable {invoices' : Table Invoice} {service' : Service}

theorem RenewalsStand.same
    (h : RenewalsStand serviceId initial invoices applied service settled pending)
    (hlines : renewalLines serviceId invoices' = renewalLines serviceId invoices)
    (hissued : LinesIssued serviceId invoices') (hdue : service'.nextDueAt = service.nextDueAt)
    (hperiod : service'.billingPeriod = service.billingPeriod) :
    RenewalsStand serviceId initial invoices' applied service' settled pending where
  lines := hlines.trans h.lines
  chained := by rw [hdue, hperiod]; exact h.chained
  next := by rw [nextLine, hdue, hperiod]; exact h.next
  paid := h.paid
  only := h.only
  recurring := by rw [hperiod]; exact h.recurring
  issued := hissued

theorem RenewalsStand.apply
    (h : RenewalsStand serviceId initial invoices applied service settled pending)
    {items : List InvoiceItem}
    (hitems : ∀ item ∈ items, ∃ i invoice, invoices.get? i = some invoice ∧ item ∈ invoice.items)
    (hperiod : service'.billingPeriod = service.billingPeriod)
    (hdue : service'.nextDueAt = (periodEnds serviceId items).foldl max service.nextDueAt) :
    ∃ settled' pending', RenewalsStand serviceId initial invoices
      (applied ++ items.filterMap servicePeriod?) service' settled' pending' := by
  -- The items for the service are lines of it.
  have hline : ∀ item ∈ items, item.serviceId = some serviceId →
      ∃ line ∈ settled ++ pending, item.period? = some line.period := by
    intro item hitem hservice
    obtain ⟨i, invoice, hinvoice, hmem⟩ := hitems item hitem
    exact h.line_of_item hinvoice hmem hservice
  have hends : ∀ periodEnd ∈ periodEnds serviceId items, ∃ item ∈ items, ∃ line ∈ settled ++ pending,
      item.servicePeriod? = some (serviceId, line.period) ∧ periodEnd = line.period.2 := by
    intro periodEnd hend
    obtain ⟨item, hitem, hsome⟩ := List.mem_filterMap.1 hend
    split at hsome
    · rename_i hservice
      obtain ⟨line, hmem, hperiod⟩ := hline item hitem hservice
      refine ⟨item, hitem, line, hmem, servicePeriod?_eq_some.2 ⟨hservice, hperiod⟩, ?_⟩
      rw [(period?_eq_some.1 hperiod).2, Option.some.injEq] at hsome
      exact hsome.symm
    · exact nomatch hsome
  by_cases hnew : ∃ line ∈ pending,
      (serviceId, line.period) ∈ items.filterMap servicePeriod?
  · obtain ⟨line, hpending, hmem⟩ := hnew
    rcases h.next with hnone | hone
    · rw [hnone] at hpending
      exact nomatch hpending
    · have hrecurring := h.recurring (by simp [hone])
      have hlt := lt_addBillingPeriod_of_hosting hrecurring service.nextDueAt
      have hlineEq := hpending
      rw [hone, List.mem_singleton] at hlineEq
      have hdue' : service'.nextDueAt = line.period.2 := by
        rw [hdue]
        refine foldl_max_of_mem ?_ ?_ ?_
        · rw [hlineEq]
          exact Nat.le_of_lt hlt
        · intro periodEnd hend
          obtain ⟨-, -, line', hline', -, rfl⟩ := hends periodEnd hend
          rcases List.mem_append.1 hline' with hsettled | hpending'
          · have hle := h.settled_le hsettled
            rw [hlineEq]
            exact Nat.le_trans hle (Nat.le_of_lt hlt)
          · rw [hone, List.mem_singleton] at hpending'
            rw [hpending', hlineEq]
        · obtain ⟨item, hitem, hsome⟩ := List.mem_filterMap.1 hmem
          obtain ⟨hservice, hperiod⟩ := servicePeriod?_eq_some.1 hsome
          refine List.mem_filterMap.2 ⟨item, hitem, ?_⟩
          rw [if_pos hservice]
          exact (period?_eq_some.1 hperiod).2
      refine ⟨settled ++ pending, [], ?_⟩
      constructor
      · rw [List.append_nil, h.lines]
      · rw [hdue', hperiod, List.map_append, hone, hlineEq]
        exact h.chained.append (chained_singleton _ _)
      · exact .inl rfl
      · intro line' hline'
        rcases List.mem_append.1 hline' with hsettled | hpending'
        · exact (h.paid line' hsettled).imp_right (List.mem_append_left _)
        · rw [hone, List.mem_singleton] at hpending'
          rw [hpending', ← hlineEq]
          exact .inr (List.mem_append_right _ hmem)
      · intro period happlied
        rw [List.map_append, List.mem_append]
        rcases List.mem_append.1 happlied with hold | hnew
        · exact .inl (h.only period hold)
        · obtain ⟨item, hitem, hsome⟩ := List.mem_filterMap.1 hnew
          obtain ⟨hservice, hperiod⟩ := servicePeriod?_eq_some.1 hsome
          obtain ⟨line', hline', hsame⟩ := hline item hitem hservice
          obtain rfl := Option.mem_unique hperiod hsame
          exact List.mem_append.1 (List.map_append ▸ List.mem_map_of_mem hline')
      · rw [List.append_nil, hperiod]
        exact h.recurring
      · exact h.issued
  · -- Only settled lines are among the items.
    have hold : ∀ item ∈ items, ∀ line ∈ settled ++ pending,
        item.servicePeriod? = some (serviceId, line.period) → line ∈ settled := by
      intro item hitem line hmem hsome
      rcases List.mem_append.1 hmem with hsettled | hpending
      · exact hsettled
      · exact absurd ⟨line, hpending, List.mem_filterMap.2 ⟨item, hitem, hsome⟩⟩ hnew
    have hdue' : service'.nextDueAt = service.nextDueAt := by
      rw [hdue]
      refine foldl_max_of_le fun periodEnd hend => ?_
      obtain ⟨item, hitem, line, hmem, hsome, rfl⟩ := hends periodEnd hend
      exact h.settled_le (hold item hitem line hmem hsome)
    have hsame := h.same rfl h.issued hdue' hperiod
    refine ⟨settled, pending, { hsame with
      paid := fun line hline => (h.paid line hline).imp_right (List.mem_append_left _)
      only := fun period happlied => ?_ }⟩
    rcases List.mem_append.1 happlied with happlied | happlied
    · exact h.only period happlied
    · obtain ⟨item, hitem, hsome⟩ := List.mem_filterMap.1 happlied
      obtain ⟨hservice, hperiod⟩ := servicePeriod?_eq_some.1 hsome
      obtain ⟨line, hmem, hsame⟩ := hline item hitem hservice
      obtain rfl := Option.mem_unique hperiod hsame
      exact List.mem_map_of_mem (hold item hitem line hmem hsome)

theorem RenewalsStand.renew
    (h : RenewalsStand serviceId initial invoices applied service settled pending)
    (hperiod : hostingBillingPeriod service.billingPeriod)
    (hunbilled : ∀ line ∈ renewalLines serviceId invoices,
      line.period ≠ (nextLine service false).period) (free : Bool)
    (hlines : renewalLines serviceId invoices' =
      renewalLines serviceId invoices ++ [nextLine service free])
    (hissued : LinesIssued serviceId invoices')
    (hsame : service'.billingPeriod = service.billingPeriod)
    (hdue : service'.nextDueAt = if free = true then
      addBillingPeriod service.nextDueAt service.billingPeriod else service.nextDueAt) :
    ∃ settled' pending',
      RenewalsStand serviceId initial invoices' applied service' settled' pending' := by
  have hnone : pending = [] := by
    rcases h.next with hnone | hone
    · exact hnone
    · have hmem := List.mem_append_right settled (List.mem_singleton_self (nextLine service false))
      rw [← hone, ← h.lines] at hmem
      exact absurd rfl (hunbilled _ hmem)
  subst hnone
  rw [h.lines, List.append_nil] at hlines
  cases free with
  | true =>
    rw [if_pos rfl] at hdue
    refine ⟨settled ++ [nextLine service true], [], ?_⟩
    constructor
    · rw [List.append_nil, hlines]
    · rw [hdue, hsame, List.map_append]
      exact h.chained.append (chained_singleton _ _)
    · exact .inl rfl
    · intro line hline
      rcases List.mem_append.1 hline with hsettled | hnew
      · exact h.paid line hsettled
      · rw [List.mem_singleton] at hnew
        exact .inl (hnew ▸ rfl)
    · intro period happlied
      rw [List.map_append]
      exact List.mem_append_left _ (h.only period happlied)
    · exact fun _ => hsame ▸ hperiod
    · exact hissued
  | false =>
    rw [if_neg (by simp)] at hdue
    refine ⟨settled, [nextLine service false], ?_⟩
    constructor
    · exact hlines
    · rw [hdue, hsame]
      exact h.chained
    · rw [nextLine, nextLine, hdue, hsame]
      exact .inr rfl
    · exact h.paid
    · exact h.only
    · exact fun _ => hsame ▸ hperiod
    · exact hissued

end

/-! ## Every step keeps it -/

theorem renewalLines_renewalInvoice (rt : Runtime) (serviceId id : RowId) (service : Service)
    (addOns : List (RowId × OrderItem)) (periodEnd now : ℕ) :
    (renewalInvoice rt id service addOns periodEnd now).renewalLines
        serviceId =
      if id = serviceId then [⟨(service.nextDueAt, periodEnd),
        decide (renewalTotal service addOns = 0)⟩] else [] := by
  have haddOns : ∀ invoice : Invoice,
      (addOns.map (addOnLine service periodEnd)).filterMap
        (invoice.renewalLine? serviceId) = [] := by
    intro invoice
    refine List.filterMap_eq_nil_iff.2 fun item hitem => ?_
    obtain ⟨entry, -, rfl⟩ := List.mem_map.1 hitem
    rfl
  rw [Invoice.renewalLines, renewalInvoice]
  simp only [List.filterMap_cons, haddOns]
  by_cases hid : id = serviceId
  · subst hid
    simp [Invoice.renewalLine?, serviceLine, period?]
  · simp [Invoice.renewalLine?, serviceLine, hid]

theorem renewalInvoice_issued (rt : Runtime) (serviceId id : RowId) (service : Service)
    (addOns : List (RowId × OrderItem)) (periodEnd now : ℕ) (item : InvoiceItem)
    (hitem : item ∈
      (renewalInvoice rt id service addOns periodEnd now).items)
    (hservice : item.serviceId = some serviceId) :
    (renewalInvoice rt id service addOns periodEnd now).status ≠ .draft ∧
      item.period?.isSome = true := by
  constructor
  · simp only [renewalInvoice]
    split <;> exact nofun
  · simp only [renewalInvoice, List.mem_cons, List.mem_map] at hitem
    rcases hitem with rfl | ⟨entry, -, rfl⟩
    · rfl
    · exact nomatch hservice

theorem get?_billedServices {db : Database} {request : RenewalRequest}
    {billed service : Service} {id : RowId}
    (hbilled : db.services.get? request.serviceId = some billed)
    (h : db.services.get? id = some service) :
    ∃ service', (billedServices request billed db).get? id = some service' ∧
      service'.billingPeriod = service.billingPeriod ∧
      service'.nextDueAt = if request.serviceId = id ∧
          renewalTotal service
            (renewingAddOns db service) = 0 then
        addBillingPeriod service.nextDueAt service.billingPeriod else service.nextDueAt := by
  rw [billedServices]
  by_cases hid : request.serviceId = id
  · subst hid
    obtain rfl := Option.mem_unique h hbilled
    split
    · rename_i hfree
      exact ⟨_, get?_update_self h, rfl, by rw [if_pos ⟨rfl, hfree⟩]⟩
    · rename_i hfree
      exact ⟨service, h, rfl, by rw [if_neg fun hboth => hfree hboth.2]⟩
  · refine ⟨service, ?_, rfl, by rw [if_neg fun hboth => hid hboth.1]⟩
    split
    · rw [get?_update_of_ne hid, h]
    · exact h

section

variable {lib : Libraries} {serviceId initial : ℕ}
variable {db db' : Database}

/-- The write of `applyRenewalPayment`. -/
theorem RenewalsTrack.apply {applied : List (RowId × ℕ × ℕ)} {now : ℕ}
    {run : PaymentRun} {items : List InvoiceItem}
    (h : RenewalsTrack serviceId initial db applied)
    (hl : billingAssertion lib db .processPayment
      (PaymentState.apply run items))
    (hinvoices : db'.invoices = db.invoices)
    (hservices : db'.services = appliedServices now db.services items) :
    RenewalsTrack serviceId initial db'
      (applied ++ items.filterMap servicePeriod?) := by
  obtain ⟨service, settled, pending, hservice, hstand⟩ := h
  obtain ⟨service', hservice', hsame, hdue⟩ := get?_appliedServices now hservice items
  have hitems : ∀ item ∈ items, ∃ i invoice, db.invoices.get? i = some invoice ∧
      item ∈ invoice.items := by
    intro item hitem
    obtain ⟨-, invoice, hinvoice, -, hmem⟩ := hl item hitem
    exact ⟨run.invoiceId, invoice, hinvoice, hmem⟩
  obtain ⟨settled', pending', happlied⟩ := hstand.apply hitems hsame hdue
  exact ⟨service', settled', pending', hservices ▸ hservice', hinvoices ▸ happlied⟩

variable {w : World} {op : BillingOperation}

theorem RenewalsTrack.change {applied : List (RowId × ℕ × ℕ)} {l : (billingOperations lib op).Local}
    (h : RenewalsTrack serviceId initial db applied) (hl : billingAssertion lib db op l)
    (hnone : appliedBy w op l = []) (hchange : BillingChange lib w db op l db') :
    RenewalsTrack serviceId initial db' applied := by
  have htrack := h
  obtain ⟨service, settled, pending, hservice, hstand⟩ := h
  cases hchange with
  | @quiet op l db' invoices services hmoves hsize hinvoices hterms hservices =>
    obtain ⟨service', hservice', hsame⟩ := hterms serviceId service hservice
    have hlines := renewalLines_moves hstand.issued hmoves hsize
    have hissued := hstand.issued.moves hmoves hsize
    refine ⟨service', settled, pending, hservices ▸ hservice', ?_⟩
    refine hstand.same ?_ ?_ (congrArg ServiceTerms.nextDueAt hsame)
      (congrArg ServiceTerms.billingPeriod hsame)
    · rcases hinvoices with hsame | ⟨draft, hplain, hdraft⟩
      · rw [hsame, hlines]
      · rw [hdraft, renewalLines_insert, hplain.renewalLines, List.append_nil, hlines]
    · rcases hinvoices with hsame | ⟨draft, hplain, hdraft⟩
      · rw [hsame]
        exact hissued
      · rw [hdraft]
        refine hissued.insert fun item hitem hown => ?_
        rw [(hplain item hitem).1] at hown
        exact nomatch hown
  | @renewed op l db' request billed hbilledGet hperiod hbilled hinvoices hservices =>
    obtain ⟨service', hservice', hsame, hdue⟩ := get?_billedServices hbilledGet hservice
    have hissued : LinesIssued serviceId db'.invoices := by
      rw [hinvoices]
      exact hstand.issued.insert fun item hitem hown =>
        renewalInvoice_issued _ serviceId _ _ _ _ _ item hitem hown
    by_cases hid : request.serviceId = serviceId
    · subst hid
      obtain rfl := Option.mem_unique hservice hbilledGet
      have hunbilled : ∀ line ∈ renewalLines request.serviceId db.invoices,
          line.period ≠ (nextLine service false).period := by
        intro line hline heq
        obtain ⟨i, invoice, hinvoice, item, hitem, hown, hitemPeriod, -⟩ :=
          mem_renewalLines.1 hline
        obtain ⟨hstart, hend⟩ := period?_eq_some.1 hitemPeriod
        rw [heq, nextLine] at hstart hend
        rw [periodBilled, any_eq_false] at hbilled
        have hnot := hbilled i invoice hinvoice
        rw [List.any_eq_false] at hnot
        exact hnot item hitem (by simp [hown, hstart, hend])
      obtain ⟨settled', pending', hrenewed⟩ := hstand.renew hperiod hunbilled
        (decide (renewalTotal service
          (renewingAddOns db service) = 0))
        (by rw [hinvoices, renewalLines_insert, renewalLines_renewalInvoice, if_pos rfl, nextLine])
        hissued hsame (by rw [hdue]; simp)
      exact ⟨service', settled', pending', hservices ▸ hservice', hrenewed⟩
    · rw [if_neg fun hboth => hid hboth.1] at hdue
      refine ⟨service', settled, pending, hservices ▸ hservice',
        hstand.same ?_ hissued hdue hsame⟩
      rw [hinvoices, renewalLines_insert, renewalLines_renewalInvoice, if_neg hid, List.append_nil]
  | applied hdelivery hinvoices hservices =>
    have happlied := htrack.apply hl hinvoices hservices
    rw [appliedBy, if_pos hdelivery] at hnone
    rwa [hnone, List.append_nil] at happlied

theorem RenewalsTrack.step {applied : List (RowId × ℕ × ℕ)}
    {l l' : (billingOperations lib op).Local} (h : RenewalsTrack serviceId initial db applied)
    (hl : billingAssertion lib db op l)
    (hstep : (billingOperations lib op).step w db l = some (db', l')) :
    RenewalsTrack serviceId initial db' (applied ++ appliedBy w op l) := by
  rcases appliedBy_cases w op l with hnone | ⟨run, items, heq, hdelivery⟩
  · rw [hnone, List.append_nil]
    exact h.change hl hnone (billingChange_of_effect hl (effect_of_step op hstep))
  · cases heq
    obtain ⟨events, hevents⟩ := applyItems_eq run.invoiceId
      run.automationRunId items w.now db
    have hdb := (Prod.mk.inj (Option.some.inj hstep)).1
    rw [if_pos hdelivery, hevents] at hdb
    rw [appliedBy, if_pos hdelivery]
    subst hdb
    exact h.apply hl rfl rfl

theorem RenewalsTrack.of_unbilled (hservice : db.services.get? serviceId = some service)
    (hnone : ∀ i invoice, db.invoices.get? i = some invoice → ∀ item ∈ invoice.items,
      item.serviceId ≠ some serviceId) : RenewalsTrack serviceId service.nextDueAt db [] := by
  refine ⟨service, [], [], hservice, ?_⟩
  constructor
  · refine List.eq_nil_iff_forall_not_mem.2 fun line hline => ?_
    obtain ⟨i, invoice, hinvoice, item, hitem, hown, -⟩ := mem_renewalLines.1 hline
    exact hnone i invoice hinvoice item hitem hown
  · rfl
  · exact .inl rfl
  · exact fun _ hline => nomatch hline
  · exact fun _ happlied => nomatch happlied
  · exact fun hne => absurd rfl hne
  · exact fun i invoice hinvoice item hitem hown => absurd hown (hnone i invoice hinvoice item hitem)

/-! ## What follows of the lines -/

def RenewalLine.applied (serviceId : RowId) (applied : List (RowId × ℕ × ℕ)) (line : RenewalLine) :
    Bool :=
  line.free || decide ((serviceId, line.period) ∈ applied)

/-- The renewal lines of a service follow one another, and move its due date. -/
structure RenewalsContiguous (serviceId initial : ℕ) (service : Service) (lines : List RenewalLine)
    (applied : List (RowId × ℕ × ℕ)) : Prop where
  contiguous : ∃ stop, Chained (addBillingPeriod · service.billingPeriod) initial
    (lines.map RenewalLine.period) stop
  disjoint : (lines.map RenewalLine.period).Pairwise fun period later => period.2 ≤ later.1
  unique : (lines.map RenewalLine.period).Nodup
  due : service.nextDueAt =
    (((lines.filter (RenewalLine.applied serviceId applied)).map RenewalLine.period).getLast?.map
      Prod.snd).getD initial
  unapplied : ∀ line ∈ lines, line.applied serviceId applied = false →
    line.period.1 = service.nextDueAt

theorem RenewalsStand.contiguous {invoices : Table Invoice} {applied : List (RowId × ℕ × ℕ)}
    {settled pending : List RenewalLine}
    (h : RenewalsStand serviceId initial invoices applied service settled pending) :
    RenewalsContiguous serviceId initial service (renewalLines serviceId invoices) applied := by
  have hchain : ∃ stop, Chained (addBillingPeriod · service.billingPeriod) initial
      ((settled ++ pending).map RenewalLine.period) stop := by
    rw [List.map_append]
    rcases h.next with rfl | rfl
    · exact ⟨_, by rw [List.map_nil, List.append_nil]; exact h.chained⟩
    · exact ⟨_, h.chained.append (chained_singleton _ _)⟩
  have hsettled : ∀ line ∈ settled, line.applied serviceId applied = true := by
    intro line hline
    rw [RenewalLine.applied, Bool.or_eq_true, decide_eq_true_eq]
    exact h.paid line hline
  -- The pending line is none of the settled ones, so no payment was applied to it.
  have hpending : ∀ line ∈ pending, line.applied serviceId applied = false := by
    intro line hline
    rcases h.next with rfl | rfl
    · exact nomatch hline
    · rw [List.mem_singleton] at hline
      subst hline
      rw [RenewalLine.applied, Bool.or_eq_false_iff, decide_eq_false_iff_not]
      refine ⟨rfl, fun happlied => ?_⟩
      obtain ⟨line, hline, hsame⟩ := List.mem_map.1 (h.only _ happlied)
      have hle := h.settled_le hline
      have hlt := lt_addBillingPeriod_of_hosting (h.recurring (by simp)) service.nextDueAt
      rw [hsame, nextLine] at hle
      exact absurd hle (Nat.not_le_of_lt hlt)
  have hfilter : (settled ++ pending).filter (RenewalLine.applied serviceId applied) = settled := by
    rw [List.filter_append, List.filter_eq_self.2 hsettled, List.filter_eq_nil_iff.2, List.append_nil]
    exact fun line hline => by rw [hpending line hline]; exact nofun
  rw [h.lines]
  by_cases hempty : settled ++ pending = []
  · obtain ⟨rfl, rfl⟩ := List.append_eq_nil_iff.1 hempty
    exact ⟨hchain, List.Pairwise.nil, List.nodup_nil, h.chained.symm, fun _ hline => nomatch hline⟩
  · have hlt := lt_addBillingPeriod_of_hosting (h.recurring hempty)
    obtain ⟨stop, hstop⟩ := hchain
    refine ⟨⟨stop, hstop⟩, hstop.disjoint hlt, hstop.nodup hlt, ?_, fun line hline hnot => ?_⟩
    · rw [hfilter]
      exact h.chained.stop_eq
    · rcases List.mem_append.1 hline with hold | hnew
      · rw [hsettled line hold] at hnot
        exact nomatch hnot
      · rcases h.next with rfl | rfl
        · exact nomatch hnew
        · rw [List.mem_singleton] at hnew
          rw [hnew, nextLine]

end

/-! ## Runs -/

section

variable {lib : Libraries}

def DueLater (service service' : Service) : Prop := service.nextDueAt ≤ service'.nextDueAt

theorem DueLater.refl (service : Service) : DueLater service service := Nat.le_refl _

theorem DueLater.trans (service₁ service₂ service₃ : Service) (h : DueLater service₁ service₂)
    (h' : DueLater service₂ service₃) : DueLater service₁ service₃ := Nat.le_trans h h'

theorem dueLater_of_change {w : World} {db db' : Database} {op : BillingOperation}
    {l : (billingOperations lib op).Local} (h : BillingChange lib w db op l db') :
    Table.Grows DueLater db.services db'.services := by
  cases h with
  | quiet _ _ _ hterms hservices =>
    intro id service hservice
    obtain ⟨service', hservice', hsame⟩ := hterms id service hservice
    exact ⟨service', hservices ▸ hservice', Nat.le_of_eq (congrArg ServiceTerms.nextDueAt hsame).symm⟩
  | renewed hbilledGet hperiod _ _ hservices =>
    intro id service hservice
    obtain ⟨service', hservice', -, hdue⟩ := get?_billedServices hbilledGet hservice
    refine ⟨service', hservices ▸ hservice', ?_⟩
    rw [DueLater, hdue]
    split
    · rename_i hfree
      rw [← hfree.1, hbilledGet, Option.some.injEq] at hservice
      subst hservice
      exact Nat.le_of_lt (lt_addBillingPeriod_of_hosting hperiod _)
    · exact Nat.le_refl _
  | applied _ _ hservices =>
    intro id service hservice
    obtain ⟨service', hservice', -, hdue⟩ := get?_appliedServices w.now hservice _
    refine ⟨service', hservices ▸ hservice', ?_⟩
    rw [DueLater, hdue]
    exact le_foldl_max _ _

/-- **The renewals of a service are contiguous.**  From any moment of a run at which the service was
not billed yet, its lines are contiguous and disjoint, it is due where the applied ones end, and
what is not applied starts there; and its due date never decreases. -/
theorem renewals_contiguous {db : Database} {before moves : List (Move (billingOperations lib))}
    {c₁ c : Config (billingOperations lib)} (hbefore : Config.run ⟨db, []⟩ before = some c₁)
    {serviceId : RowId} {service₁ : Service}
    (hservice₁ : c₁.shared.services.get? serviceId = some service₁)
    (hunbilled : ∀ i invoice, c₁.shared.invoices.get? i = some invoice → ∀ item ∈ invoice.items,
      item.serviceId ≠ some serviceId)
    (hrun : c₁.run moves = some c) :
    ∃ service, c.shared.services.get? serviceId = some service ∧
      RenewalsContiguous serviceId service₁.nextDueAt service
        (renewalLines serviceId c.shared.invoices) (c₁.record appliedPeriods moves) ∧
      ∀ later c', c.run later = some c' → ∃ service',
        c'.shared.services.get? serviceId = some service' ∧
          service.nextDueAt ≤ service'.nextDueAt := by
  have hstart := (billingOutline_sound lib).holds (Outline.holds_idle (s := db) trivial)
    (reaches_anyStep_of_run hbefore)
  have htrack : RenewalsTrack serviceId service₁.nextDueAt c.shared
      ([] ++ c₁.record appliedPeriods moves) :=
    (billingOutline_sound lib).recorded (fun w db t db' t' applied _ _ hthread hstep h => by
      obtain ⟨l, hl, rfl⟩ := Thread.step_eq_some hstep
      exact h.step hthread hl) hstart hrun (guarded_anyStep c₁ moves)
          (.of_unbilled hservice₁ hunbilled)
  rw [List.nil_append] at htrack
  obtain ⟨service, settled, pending, hservice, hstand⟩ := htrack
  refine ⟨service, hservice, hstand.contiguous, fun later c' hlater => ?_⟩
  have hholds := (billingOutline_sound lib).holds hstart (reaches_anyStep_of_run hrun)
  have hgrows := (billingOutline_sound lib).related
    (R := fun db db' => Table.Grows DueLater db.services db'.services)
    (fun db => Grows.refl DueLater.refl db.services)
    (fun _ _ _ h h' => Grows.trans DueLater.trans h h')
    (fun w db t db' t' _ _ hthread hstep => by
      obtain ⟨l, hl, rfl⟩ := Thread.step_eq_some hstep
      exact dueLater_of_change (billingChange_of_effect hthread (effect_of_step t.op hl)))
    hholds (reaches_anyStep_of_run hlater)
  exact hgrows serviceId service hservice

end

/-! ### A service that is billed, paid for and billed again -/

def renewableDatabase : Database where
  partialPaymentsEnabled := some true
  users := ⟨[{ role := .admin }]⟩
  customers := ⟨[{ userId := 0 }]⟩
  orders := ⟨[{ customerId := 0, status := .completed, updatedAt := 0 }]⟩
  orderItems := ⟨[{ orderId := 0, currency := "BDT", unitAmount := 100, lineTotal := 100 }]⟩
  services := ⟨[{
    customerId := 0, orderItemId := some 0, serverId := 0, status := .active, recurringAmount := 100,
    currency := "BDT", startedAt := 0, nextDueAt := 760 * millisecondsPerDay, updatedAt := 0 }]⟩

def advances (position steps now : ℕ) : List (Move plainOperations) :=
  List.replicate steps (.advance position { now := now })

def billService (position now : ℕ) : List (Move plainOperations) :=
  .call (.ledger .createRenewalInvoice) (⟨0, 0, now⟩ : RenewalRequest) ::
    advances position 1 now

/-- The first invoice is paid in cash, the payment is announced, and the worker applies it. -/
def payAndApply (position amount now : ℕ) : List (Move plainOperations) :=
  .call (.ledger .recordManual) (⟨⟨"s-1", 0, amount, { method := .cash, reference := "R-1" }⟩, 0⟩ :
      PaymentService.RecordRequest) :: advances position 2 now ++
  .call .dispatchOutbox (⟨"w-1", 10, 60⟩ : OutboxDispatcherService.Dispatcher) ::
    advances (position + 1) 9 now ++
  .call .processPayment (⟨2, .payment, 0, .renewalPaymentCompleted⟩ : BackgroundJobData) ::
    advances (position + 2) 5 now

def renewTwice : List (Move plainOperations) :=
  billService 0 1 ++ payAndApply 1 100 2 ++ billService 4 3

def renewedTwice : Config plainOperations :=
  Config.after ⟨renewableDatabase, []⟩ renewTwice (by decide +kernel)

theorem renewed_twice_contiguous :
    (renewalLines 0 renewedTwice.shared.invoices).map RenewalLine.period =
        [(760 * millisecondsPerDay, 789 * millisecondsPerDay),
          (789 * millisecondsPerDay, 818 * millisecondsPerDay)] ∧
      ∃ service, renewedTwice.shared.services.get? 0 = some service ∧
        RenewalsContiguous 0 (760 * millisecondsPerDay) service
          (renewalLines 0 renewedTwice.shared.invoices)
          (Config.record appliedPeriods ⟨renewableDatabase, []⟩ renewTwice) := by
  obtain ⟨service, hservice, hcontiguous, -⟩ := renewals_contiguous
    (show Config.run ⟨renewableDatabase, []⟩ [] = some _ from rfl)
    (show renewableDatabase.services.get? 0 = some _ from rfl)
    (fun i invoice hinvoice => absurd hinvoice get?_empty_ne)
    (run_eq_after
      (show (Config.run ⟨renewableDatabase, []⟩ renewTwice).isSome = true by decide +kernel))
  exact ⟨by decide +kernel, service, hservice, hcontiguous⟩

end WebhostBilling
