import WebhostBilling.Renewal.RenewalChain

/-!
# Add-ons whose renewal has ended

When the renewal of an add-on is ended, the end is read off the lines that are there.  What carries
the claim is where the end lies: at the due date of the service or before, or at the end of a line
that starts there, so that the next period to be billed starts at the end or later (`AddOnEnded`).
-/

namespace WebhostBilling

open RenewalProcessorService

open Store Store.Table Concurrency Config Intervals RenewalCalendar ServiceAddOnsService

/-! ## Orders and their services -/

/-- An order has one hosting item at most, and its service is for that. -/
structure OrdersServed (orderItems : Table OrderItem) (services : Table Service) : Prop where
  hosting : ∀ i j item item', orderItems.get? i = some item → orderItems.get? j = some item' →
    item.kind = .hosting → item'.kind = .hosting → item.orderId = item'.orderId → i = j
  kind : ∀ i service itemId, services.get? i = some service → service.orderItemId = some itemId →
    ∃ item, orderItems.get? itemId = some item ∧ item.kind = .hosting
  unique : ∀ i j service service' itemId, services.get? i = some service →
    services.get? j = some service' → service.orderItemId = some itemId →
    service'.orderItemId = some itemId → i = j

/-- The item was ordered with the service. -/
def OrderedWith (serviceId itemId : RowId) (orderItems : Table OrderItem)
    (services : Table Service) : Prop :=
  ∃ service item, services.get? serviceId = some service ∧ orderItems.get? itemId = some item ∧
    ∃ hostingId hosting, service.orderItemId = some hostingId ∧
      orderItems.get? hostingId = some hosting ∧ hosting.orderId = item.orderId

theorem OrdersServed.eq_of_orderedWith {orderItems : Table OrderItem} {services : Table Service}
    (h : OrdersServed orderItems services) {i j itemId : RowId}
    (hi : OrderedWith i itemId orderItems services)
    (hj : OrderedWith j itemId orderItems services) : i = j := by
  obtain ⟨service, item, hservice, hitem, id, hosting, hid, hhosting, horder⟩ := hi
  obtain ⟨service', item', hservice', hitem', id', hosting', hid', hhosting', horder'⟩ := hj
  obtain rfl := Option.mem_unique hitem hitem'
  obtain ⟨row, hrow, hkind⟩ := h.kind i service id hservice hid
  obtain ⟨row', hrow', hkind'⟩ := h.kind j service' id' hservice' hid'
  rw [hhosting, Option.some.injEq] at hrow
  rw [hhosting', Option.some.injEq] at hrow'
  subst hrow hrow'
  have hsame := h.hosting id id' hosting hosting' hhosting hhosting' hkind hkind'
    (horder.trans horder'.symm)
  subst hsame
  exact h.unique i j service service' id hservice hservice' hid hid'

/-! ## What a step does to order items and the services of orders -/

section

variable {lib : Libraries}

/-- The renewal of an add-on is ended with what its service offers, and nothing else is written. -/
def RenewalEnded (db db' : Database) (addOnId : RowId) (item item' : OrderItem) : Prop :=
  ∃ serviceId service endAt, db.services.get? serviceId = some service ∧
    findAddOn db service addOnId = some item ∧
    availableEndAt db serviceId service addOnId = some endAt ∧
    item'.renewalEndsAt = some endAt ∧ db'.invoices = db.invoices ∧ db'.services = db.services

def ServiceAdded (db : Database) (i : RowId) (service' : Service) : Prop :=
  i = db.services.size ∧ ∃ itemId item, service'.orderItemId = some itemId ∧
    db.orderItems.get? itemId = some item ∧ item.kind = .hosting ∧
    ∀ j service, db.services.get? j = some service → service.orderItemId ≠ some itemId

structure ItemsChange (db db' : Database) : Prop where
  items : ∀ i item', db'.orderItems.get? i = some item' → ∃ item, db.orderItems.get? i = some item ∧
    ItemStays item item' ∧
      (item'.renewalEndsAt = item.renewalEndsAt ∨ RenewalEnded db db' i item item')
  itemsGrow : Table.Grows ItemStays db.orderItems db'.orderItems
  services : ∀ i service', db'.services.get? i = some service' →
    (∃ service, db.services.get? i = some service ∧ service'.orderItemId = service.orderItemId) ∨
      ServiceAdded db i service'

theorem itemsChange_of_effect {w : World} {db db' : Database} {op : BillingOperation}
    {l : (billingOperations lib op).Local} (hl : billingAssertion lib db op l)
    (h : BillingEffect lib w db op l db') : ItemsChange db db' := by
  have hgrow := (rowsStay_of_effect hl h).orderItems
  -- The two columns are written by few steps, and most leave both alone.
  have hitems : db'.orderItems = db.orderItems → ∀ i item', db'.orderItems.get? i = some item' →
      ∃ item, db.orderItems.get? i = some item ∧ ItemStays item item' ∧
        (item'.renewalEndsAt = item.renewalEndsAt ∨ RenewalEnded db db' i item item') :=
    fun hsame i item' hitem' => ⟨item', hsame ▸ hitem', ItemStays.refl item', .inl rfl⟩
  have hservices : Table.Keeps Service.orderItemId db.services db'.services →
      ∀ i service', db'.services.get? i = some service' →
        (∃ service, db.services.get? i = some service ∧
          service'.orderItemId = service.orderItemId) ∨ ServiceAdded db i service' :=
    fun hkeeps i service' hservice' => .inl (hkeeps i service' hservice')
  have hsame : db'.services = db.services → Table.Keeps Service.orderItemId db.services db'.services :=
    fun hsame => hsame ▸ Keeps.refl _ _
  cases h with
  | kept _ hkept hwrites =>
    exact ⟨hitems hwrites.orderItems, hgrow,
      hservices (hwrites.services ▸ hkept.keeps_orderItemId)⟩
  | charged _ _ _ _ _ hwrites | settled _ _ _ _ hwrites | adjusted _ _ _ hwrites
  | drafted hwrites | redrafted _ _ hwrites | acted _ _ _ _ _ hwrites | decided _ hwrites
  | overdue _ _ hwrites =>
    exact ⟨hitems hwrites.orderItems, hgrow, hservices (hsame hwrites.services)⟩
  | renewed _ _ _ hwrites =>
    exact ⟨hitems hwrites.orderItems, hgrow,
      hservices (hwrites.services ▸ billedServices_keeps_orderItemId _ _ db)⟩
  | applied _ hwrites =>
    exact ⟨hitems hwrites.orderItems, hgrow,
      hservices (hwrites.services ▸ appliedServices_keeps_orderItemId _ _ _)⟩
  | @created db' input activeAdapter item order orders _ hfresh hwrites =>
    obtain ⟨hkind, -, row, hrow, hstays⟩ := hl
    refine ⟨hitems hwrites.orderItems, hgrow, fun i service' hservice' => ?_⟩
    rw [hwrites.services] at hservice'
    rcases get?_insert_cases hservice' with ⟨rfl, rfl⟩ | hold
    · refine .inr ⟨rfl, input.orderItemId, row, rfl, hrow, ?_, hfresh⟩
      rw [hstays]
      exact hkind
    · exact .inl ⟨service', hold, rfl⟩
  | fulfilled _ _ _ _ hwrites =>
    refine ⟨fun i item' hitem' => ?_, hgrow, hservices (hsame hwrites.services)⟩
    rw [hwrites.orderItems] at hitem'
    rcases get?_update_cases hitem' with ⟨rfl, item, hitem, rfl⟩ | ⟨-, hitem⟩
    · exact ⟨item, hitem, rfl, .inl rfl⟩
    · exact ⟨item', hitem, ItemStays.refl item', .inl rfl⟩
  | @ended op l db' serviceId addOnId endAt service item hservice hitem hnone hend hwrites =>
    refine ⟨fun i item' hitem' => ?_, hgrow, hservices (hsame hwrites.services)⟩
    rw [hwrites.orderItems] at hitem'
    rcases get?_update_cases hitem' with ⟨rfl, row, hrow, rfl⟩ | ⟨-, hrow⟩
    · obtain ⟨_, _, -, -, hget, -⟩ := findAddOn_eq_some hitem
      obtain rfl := Option.mem_unique hrow hget
      exact ⟨row, hrow, rfl, .inr ⟨serviceId, service, endAt, hservice, hitem, hend, rfl,
        hwrites.invoices, hwrites.services⟩⟩
    · exact ⟨item', hrow, ItemStays.refl item', .inl rfl⟩

theorem OrdersServed.step {db db' : Database} (h : OrdersServed db.orderItems db.services)
    (hchange : ItemsChange db db') : OrdersServed db'.orderItems db'.services where
  hosting i j item item' hi hj hkind hkind' horder := by
    obtain ⟨row, hrow, hstays, -⟩ := hchange.items i item hi
    obtain ⟨row', hrow', hstays', -⟩ := hchange.items j item' hj
    rw [hstays] at hkind horder
    rw [hstays'] at hkind' horder
    exact h.hosting i j row row' hrow hrow' hkind hkind' horder
  kind i service' itemId hservice' hitemId := by
    have hitem : ∃ item, db.orderItems.get? itemId = some item ∧ item.kind = .hosting := by
      rcases hchange.services i service' hservice' with ⟨service, hservice, hsame⟩ | hnew
      · exact h.kind i service itemId hservice (hsame ▸ hitemId)
      · obtain ⟨-, id, item, hid, hitem, hkind, -⟩ := hnew
        obtain rfl := Option.mem_unique hitemId hid
        exact ⟨item, hitem, hkind⟩
    obtain ⟨item, hitem, hkind⟩ := hitem
    obtain ⟨item', hitem', hstays⟩ := hchange.itemsGrow itemId item hitem
    exact ⟨item', hitem', by rw [hstays]; exact hkind⟩
  unique i j service service' itemId hi hj hown hown' := by
    rcases hchange.services i service hi with ⟨row, hrow, hsame⟩ | hnew
    · rcases hchange.services j service' hj with ⟨row', hrow', hsame'⟩ | hnew'
      · exact h.unique i j row row' itemId hrow hrow' (hsame ▸ hown) (hsame' ▸ hown')
      · obtain ⟨-, id, -, hid, -, -, hfresh⟩ := hnew'
        obtain rfl := Option.mem_unique hown' hid
        exact absurd (hsame ▸ hown) (hfresh i row hrow)
    · obtain ⟨hsize, id, -, hid, -, -, hfresh⟩ := hnew
      obtain rfl := Option.mem_unique hown hid
      rcases hchange.services j service' hj with ⟨row', hrow', hsame'⟩ | hnew'
      · exact absurd (hsame' ▸ hown') (hfresh j row' hrow')
      · rw [hsize, hnew'.1]

end

/-! ## The lines of an add-on -/

/-- The renewal lines of an add-on stand next to its service's line for the same period, on issued
invoices without an order; when such an invoice is cancelled, nothing was paid for it. -/
def AddOnBilled (serviceId addOnId : RowId) (invoices : Table Invoice) : Prop :=
  ∀ i invoice, invoices.get? i = some invoice → ∀ line ∈ invoice.items,
    line.orderItemId = some addOnId → ∀ period, line.period? = some period →
    invoice.status ≠ .draft ∧ invoice.issuedAt.isSome = true ∧ invoice.orderId = none ∧
      (invoice.status = .cancelled → invoice.amountPaid ≤ 0) ∧
      ∃ anchor ∈ invoice.items, anchor.serviceId = some serviceId ∧ anchor.period? = some period

/-- No renewal line of the add-on on an invoice that is not cancelled starts at the end of its
renewal or later, or ends after it. -/
def EndHonoured (addOnId endAt : ℕ) (invoices : Table Invoice) : Prop :=
  ∀ i invoice, invoices.get? i = some invoice → invoice.status ≠ .cancelled →
    ∀ line ∈ invoice.items, line.orderItemId = some addOnId →
      ∀ period, line.period? = some period → period.1 < endAt ∧ period.2 ≤ endAt

def EndReached (serviceId endAt : ℕ) (invoices : Table Invoice) (service : Service) : Prop :=
  endAt ≤ service.nextDueAt ∨
    ∃ line ∈ renewalLines serviceId invoices, line.period = (service.nextDueAt, endAt)

def AddOnEnded (serviceId addOnId : RowId) (db : Database) : Prop :=
  ∀ service item endAt, db.services.get? serviceId = some service →
    db.orderItems.get? addOnId = some item → item.renewalEndsAt = some endAt →
    EndReached serviceId endAt db.invoices service ∧ EndHonoured addOnId endAt db.invoices

section

variable {serviceId addOnId initial endAt : ℕ} {invoices invoices' : Table Invoice}
  {applied : List (RowId × ℕ × ℕ)} {service service' : Service}
  {settled pending settled' pending' : List RenewalLine}

theorem AddOnBilled.line (h : AddOnBilled serviceId addOnId invoices) {i : RowId}
    {invoice : Invoice}
    (hinvoice : invoices.get? i = some invoice) {line : InvoiceItem} (hline : line ∈ invoice.items)
    (hown : line.orderItemId = some addOnId) {period : ℕ × ℕ}
    (hperiod : line.period? = some period) :
    ∃ billed ∈ renewalLines serviceId invoices, billed.period = period := by
  obtain ⟨-, -, -, -, anchor, hanchor, hservice, hsame⟩ :=
    h i invoice hinvoice line hline hown period hperiod
  exact ⟨⟨period, decide (invoice.total = 0)⟩,
    mem_renewalLines.2 ⟨i, invoice, hinvoice, anchor, hanchor, hservice, hsame, rfl⟩, rfl⟩

theorem RenewalsStand.line_cases
    (h : RenewalsStand serviceId initial invoices applied service settled pending)
    {line : RenewalLine} (hline : line ∈ renewalLines serviceId invoices) :
    line.period.1 < line.period.2 ∧
      (line.period.2 ≤ service.nextDueAt ∨ pending = [nextLine service false] ∧
        line.period = (nextLine service false).period) := by
  have hne : renewalLines serviceId invoices ≠ [] := List.ne_nil_of_mem hline
  rw [h.lines] at hline hne
  have hlt := lt_addBillingPeriod_of_hosting (h.recurring hne)
  rcases List.mem_append.1 hline with hsettled | hpending
  · have hnext := h.chained.snd_eq line.period (List.mem_map_of_mem hsettled)
    exact ⟨hnext ▸ hlt line.period.1, .inl (h.settled_le hsettled)⟩
  · rcases h.next with hnone | hone
    · rw [hnone] at hpending
      exact nomatch hpending
    · have hpending' := hpending
      rw [hone, List.mem_singleton] at hpending'
      subst hpending'
      exact ⟨hlt service.nextDueAt, .inr ⟨hone, rfl⟩⟩

theorem EndReached.step (h : EndReached serviceId endAt invoices service)
    (hstand : RenewalsStand serviceId initial invoices' applied service' settled' pending')
    (hlines : ∀ line ∈ renewalLines serviceId invoices, line ∈ renewalLines serviceId invoices')
    (hlater : service.nextDueAt ≤ service'.nextDueAt) :
    EndReached serviceId endAt invoices' service' := by
  rcases h with hle | ⟨line, hline, hperiod⟩
  · exact .inl (Nat.le_trans hle hlater)
  · have hmem := hlines line hline
    rcases (hstand.line_cases hmem).2 with hle | ⟨-, hsame⟩
    · rw [hperiod] at hle
      exact .inl hle
    · refine .inr ⟨line, hmem, ?_⟩
      rw [hperiod, nextLine, Prod.mk.injEq] at hsame
      rw [hperiod, hsame.1]

theorem offered_end {db : Database}
    (hstand : RenewalsStand serviceId initial db.invoices applied service settled pending)
    (hbilled : AddOnBilled serviceId addOnId db.invoices)
    (hend : availableEndAt db serviceId service addOnId = some endAt) :
    EndReached serviceId endAt db.invoices service ∧ EndHonoured addOnId endAt db.invoices := by
  rw [availableEndAt] at hend
  split at hend
  swap
  · cases hend
  rw [Option.some.injEq] at hend
  -- An end that was billed is the end of a line that starts at the due date.
  have hends : ∀ e ∈ billedEnds db serviceId service addOnId,
      ∃ billed ∈ renewalLines serviceId db.invoices, billed.period = (service.nextDueAt, e) := by
    intro e he
    obtain ⟨⟨i, invoice⟩, hinvoice, hitem⟩ := List.mem_flatMap.1 he
    obtain ⟨line, hline, hsome⟩ := List.mem_filterMap.1 hitem
    split at hsome
    · rename_i hown
      exact hbilled.line (mem_select.1 hinvoice).1 hline hown.1
        (InvoiceItem.period?_eq_some.2 ⟨hown.2, hsome⟩)
    · cases hsome
  have hreached : EndReached serviceId endAt db.invoices service := by
    cases hmax : (billedEnds db serviceId service addOnId).max? with
    | none =>
      rw [hmax, Option.getD_none] at hend
      exact .inl (Nat.le_of_eq hend.symm)
    | some e =>
      rw [hmax, Option.getD_some] at hend
      subst hend
      exact .inr (hends e (List.max?_mem hmax))
  have hlater : service.nextDueAt ≤ endAt := by
    rcases hreached with hle | ⟨billed, hmem, hperiod⟩
    · cases hmax : (billedEnds db serviceId service addOnId).max? with
      | none =>
        rw [hmax, Option.getD_none] at hend
        exact Nat.le_of_eq hend
      | some e =>
        rw [hmax, Option.getD_some] at hend
        subst hend
        obtain ⟨billed, hmem, hperiod⟩ := hends e (List.max?_mem hmax)
        have hlt := (hstand.line_cases hmem).1
        rw [hperiod] at hlt
        exact Nat.le_of_lt hlt
    · have hlt := (hstand.line_cases hmem).1
      rw [hperiod] at hlt
      exact Nat.le_of_lt hlt
  refine ⟨hreached, fun i invoice hinvoice hstatus line hline hown period hperiod => ?_⟩
  obtain ⟨billed, hmem, rfl⟩ := hbilled.line hinvoice hline hown hperiod
  obtain ⟨hlt, hle | ⟨-, hnext⟩⟩ := hstand.line_cases hmem
  · exact ⟨by omega, by omega⟩
  · -- The line bills the current period, so its end is among those the offer is made from.
    obtain ⟨-, hissued, -, -, anchor, hanchor, hservice, hsame⟩ :=
      hbilled i invoice hinvoice line hline hown _ hperiod
    have hstart : billed.period.1 = service.nextDueAt := by rw [hnext, nextLine]
    have hmemEnd : billed.period.2 ∈
        billedEnds db serviceId service addOnId := by
      refine List.mem_flatMap.2 ⟨(i, invoice), mem_select.2 ⟨hinvoice, ?_⟩,
        List.mem_filterMap.2 ⟨line, hline, ?_⟩⟩
      · rw [decide_eq_true_eq]
        refine ⟨hissued, hstatus, anchor, hanchor, hservice, ?_⟩
        rw [← hstart]
        exact (InvoiceItem.period?_eq_some.1 hsame).1
      · obtain ⟨hlineStart, hlineEnd⟩ := InvoiceItem.period?_eq_some.1 hperiod
        rw [if_pos ⟨hown, hstart ▸ hlineStart⟩, hlineEnd]
    cases hmax : (billedEnds db serviceId service addOnId).max? with
    | none =>
      rw [List.max?_eq_none_iff] at hmax
      rw [hmax] at hmemEnd
      cases hmemEnd
    | some e =>
      rw [hmax, Option.getD_some] at hend
      subst hend
      have hle := (List.max?_eq_some_iff.1 hmax).2 _ hmemEnd
      exact ⟨by omega, hle⟩

end

/-! ## The lines under each change -/

section

variable {lib : Libraries} {serviceId addOnId initial endAt : ℕ} {invoices invoices' : Table Invoice}

variable {line : InvoiceItem} {invoice : Invoice} {service : Service} {rt : Runtime} {id : RowId}
  {addOns : List (RowId × OrderItem)} {periodEnd now : ℕ}

theorem AddOnBilled.before (h : AddOnBilled serviceId addOnId invoices)
    (hmoves : Table.Grows InvoiceMoves invoices invoices') (hsize : invoices'.size = invoices.size)
    {i : RowId} {invoice' : Invoice} (hinvoice' : invoices'.get? i = some invoice')
    (hline : line ∈ invoice'.items) (hown : line.orderItemId = some addOnId) {period : ℕ × ℕ}
    (hperiod : line.period? = some period) :
    ∃ invoice, invoices.get? i = some invoice ∧ InvoiceMoves invoice invoice' ∧
      invoice.status ≠ .draft ∧ line ∈ invoice.items := by
  obtain ⟨invoice, hinvoice, hmove⟩ := hmoves.before hsize hinvoice'
  by_cases hdraft : invoice.status = .draft
  · rcases hmove.draft hdraft with hsame | hplain
    · rw [hsame] at hline
      exact absurd hdraft (h i invoice hinvoice line hline hown period hperiod).1
    · rw [(hplain line hline).2] at hown
      exact nomatch hown
  · obtain ⟨-, hitems, -, -⟩ := hmove.issued hdraft
    exact ⟨invoice, hinvoice, hmove, hdraft, hitems ▸ hline⟩

theorem AddOnBilled.moves (h : AddOnBilled serviceId addOnId invoices)
    (hmoves : Table.Grows InvoiceMoves invoices invoices')
    (hsize : invoices'.size = invoices.size) :
    AddOnBilled serviceId addOnId invoices' := by
  intro i invoice' hinvoice' line hline hown period hperiod
  obtain ⟨invoice, hinvoice, hmove, hdraft, hline⟩ :=
    h.before hmoves hsize hinvoice' hline hown hperiod
  obtain ⟨-, hissuedAt, horderId, hunpaid, hanchor⟩ :=
    h i invoice hinvoice line hline hown period hperiod
  obtain ⟨hissued, hitems, -, hkept⟩ := hmove.issued hdraft
  refine ⟨hissued, hkept hissuedAt, hmove.orderId.trans horderId, fun hcancelled => ?_, ?_⟩
  · by_cases hbefore : invoice.status = .cancelled
    · exact (hmove.cancelled hbefore (hunpaid hbefore)).2
    · exact hmove.cancels hbefore hcancelled horderId
  · rw [hitems]
    exact hanchor

theorem EndHonoured.moves (h : EndHonoured addOnId endAt invoices)
    (hbilled : AddOnBilled serviceId addOnId invoices)
    (hmoves : Table.Grows InvoiceMoves invoices invoices')
    (hsize : invoices'.size = invoices.size) :
    EndHonoured addOnId endAt invoices' := by
  intro i invoice' hinvoice' hstatus line hline hown period hperiod
  obtain ⟨invoice, hinvoice, hmove, -, hline⟩ :=
    hbilled.before hmoves hsize hinvoice' hline hown hperiod
  refine h i invoice hinvoice (fun hcancelled => hstatus ?_) line hline hown period hperiod
  -- A cancelled renewal invoice stays cancelled, for nothing was paid for it.
  have hunpaid := (hbilled i invoice hinvoice line hline hown period hperiod).2.2.2.1
  exact (hmove.cancelled hcancelled (hunpaid hcancelled)).1

theorem AddOnBilled.insert (h : AddOnBilled serviceId addOnId invoices)
    (hnew : ∀ line ∈ invoice.items, line.orderItemId = some addOnId →
      ∀ period, line.period? = some period →
      invoice.status ≠ .draft ∧ invoice.issuedAt.isSome = true ∧ invoice.orderId = none ∧
        (invoice.status = .cancelled → invoice.amountPaid ≤ 0) ∧
        ∃ anchor ∈ invoice.items, anchor.serviceId = some serviceId ∧
          anchor.period? = some period) :
    AddOnBilled serviceId addOnId (invoices.insert invoice) := by
  intro i row hrow
  rcases get?_insert_cases hrow with ⟨-, rfl⟩ | hold
  · exact hnew
  · exact h i row hold

theorem EndHonoured.insert (h : EndHonoured addOnId endAt invoices)
    (hnone : ∀ line ∈ invoice.items, line.orderItemId ≠ some addOnId) :
    EndHonoured addOnId endAt (invoices.insert invoice) := by
  intro i row hrow hstatus line hline hown
  rcases get?_insert_cases hrow with ⟨-, rfl⟩ | hold
  · exact absurd hown (hnone line hline)
  · exact h i row hold hstatus line hline hown

theorem mem_renewingAddOns {db : Database} {itemId : RowId} {item : OrderItem}
    (h : (itemId, item) ∈ renewingAddOns db service) :
    db.orderItems.get? itemId = some item ∧
      (∃ hostingId hosting, service.orderItemId = some hostingId ∧
        db.orderItems.get? hostingId = some hosting ∧ hosting.orderId = item.orderId) ∧
      ∀ endsAt ∈ item.renewalEndsAt, service.nextDueAt < endsAt := by
  unfold renewingAddOns at h
  split at h
  · exact nomatch h
  · rename_i hosting hhosting
    obtain ⟨hostingId, hid, hget⟩ := Option.bind_eq_some_iff.1 hhosting
    obtain ⟨hitem, hrenews⟩ := mem_select.1 h
    rw [decide_eq_true_eq] at hrenews
    exact ⟨hitem, ⟨hostingId, hosting, hid, hget, hrenews.1.symm⟩, hrenews.2.2.2.2.2⟩

theorem renewing_of_line (hline : line ∈
      (renewalInvoice rt id service addOns periodEnd now).items)
    (hown : line.orderItemId = some addOnId) :
    (∃ item, (addOnId, item) ∈ addOns) ∧ line.period? = some (service.nextDueAt, periodEnd) := by
  simp only [renewalInvoice, List.mem_cons, List.mem_map] at hline
  rcases hline with rfl | ⟨⟨itemId, item⟩, hmem, rfl⟩
  · cases hown
  · simp only [addOnLine, Option.some.injEq] at hown
    subst hown
    exact ⟨⟨item, hmem⟩, rfl⟩

theorem AddOnBilled.renewal (h : AddOnBilled serviceId addOnId invoices)
    (hown : ∀ item, (addOnId, item) ∈ addOns → id = serviceId) :
    AddOnBilled serviceId addOnId (invoices.insert
      (renewalInvoice rt id service addOns periodEnd now)) := by
  refine h.insert fun line hline horder period hperiod => ?_
  obtain ⟨⟨item, hmem⟩, hsame⟩ := renewing_of_line hline horder
  obtain rfl := Option.mem_unique hsame hperiod
  have hid := hown item hmem
  subst hid
  refine ⟨?_, rfl, rfl, fun _ => Int.le_refl 0,
    serviceLine id service periodEnd, ?_, rfl, rfl⟩
  · simp only [renewalInvoice]
    split <;> rintro ⟨⟩
  · exact List.mem_cons_self

theorem renewalLines_subset {w : World} {db db' : Database} {op : BillingOperation}
    {l : (billingOperations lib op).Local} (hissued : LinesIssued serviceId db.invoices)
    (h : BillingChange lib w db op l db') (line : RenewalLine)
    (hline : line ∈ renewalLines serviceId db.invoices) :
    line ∈ renewalLines serviceId db'.invoices := by
  cases h with
  | quiet hmoves hsize hinvoices _ _ =>
    have hsame := renewalLines_moves hissued hmoves hsize
    rcases hinvoices with heq | ⟨draft, hplain, heq⟩
    · rw [heq, hsame]
      exact hline
    · rw [heq, renewalLines_insert, hsame]
      exact List.mem_append_left _ hline
  | renewed _ _ _ hinvoices _ =>
    rw [hinvoices, renewalLines_insert]
    exact List.mem_append_left _ hline
  | applied _ hinvoices _ =>
    rw [hinvoices]
    exact hline

end

/-! ## The invariant -/

/-- An add-on with its service, the service's renewals and the add-on's lines among them. -/
structure AddOnTrack (serviceId addOnId initial : ℕ) (db : Database)
    (applied : List (RowId × ℕ × ℕ)) : Prop where
  renewals : RenewalsTrack serviceId initial db applied
  served : OrdersServed db.orderItems db.services
  ordered : OrderedWith serviceId addOnId db.orderItems db.services
  billed : AddOnBilled serviceId addOnId db.invoices
  ended : AddOnEnded serviceId addOnId db

section

variable {lib : Libraries} {serviceId addOnId initial : ℕ} {applied applied' : List (RowId × ℕ × ℕ)}
  {w : World} {db db' : Database} {op : BillingOperation} {l : (billingOperations lib op).Local}

theorem OrderedWith.step (h : OrderedWith serviceId addOnId db.orderItems db.services)
    (hitems : ItemsChange db db') (hservices : Table.Grows DueLater db.services db'.services) :
    OrderedWith serviceId addOnId db'.orderItems db'.services := by
  obtain ⟨service, item, hservice, hitem, hostingId, hosting, hid, hhosting, horder⟩ := h
  obtain ⟨service', hservice', -⟩ := hservices serviceId service hservice
  obtain ⟨item', hitem', hstays⟩ := hitems.itemsGrow addOnId item hitem
  obtain ⟨hosting', hhosting', hstaysHosting⟩ := hitems.itemsGrow hostingId hosting hhosting
  refine ⟨service', item', hservice', hitem', hostingId, hosting', ?_, hhosting', ?_⟩
  · rcases hitems.services serviceId service' hservice' with ⟨row, hrow, hsame⟩ | ⟨hsize, -⟩
    · rw [hservice, Option.some.injEq] at hrow
      rw [hsame, ← hrow, hid]
    · rw [hsize, get?_size] at hservice
      exact nomatch hservice
  · rw [hstays, hstaysHosting]
    exact horder

variable {service : Service} {item : OrderItem}

theorem orderedWith_of_renewing {id : RowId} (hservice : db.services.get? id = some service)
    (h : (addOnId, item) ∈ renewingAddOns db service) :
    OrderedWith id addOnId db.orderItems db.services := by
  obtain ⟨hitem, hosting, -⟩ := mem_renewingAddOns h
  exact ⟨service, item, hservice, hitem, hosting⟩

theorem AddOnTrack.billed_step (h : AddOnTrack serviceId addOnId initial db applied)
    (hchange : BillingChange lib w db op l db') : AddOnBilled serviceId addOnId db'.invoices := by
  cases hchange with
  | quiet hmoves hsize hinvoices _ _ =>
    have hmoved := h.billed.moves hmoves hsize
    rcases hinvoices with heq | ⟨draft, hplain, heq⟩
    · rw [heq]
      exact hmoved
    · rw [heq]
      refine hmoved.insert fun line hline hown => ?_
      rw [(hplain line hline).2] at hown
      exact nomatch hown
  | renewed hservice _ _ hinvoices _ =>
    rw [hinvoices]
    refine h.billed.renewal fun item hmem => ?_
    exact h.served.eq_of_orderedWith (orderedWith_of_renewing hservice hmem) h.ordered
  | applied _ hinvoices _ =>
    rw [hinvoices]
    exact h.billed

theorem AddOnTrack.honoured_step (h : AddOnTrack serviceId addOnId initial db applied)
    (hchange : BillingChange lib w db op l db') {endAt : ℕ}
    (hservice : db.services.get? serviceId = some service)
    (hitem : db.orderItems.get? addOnId = some item) (hend : item.renewalEndsAt = some endAt) :
    EndHonoured addOnId endAt db'.invoices := by
  obtain ⟨hreached, hhonoured⟩ := h.ended service item endAt hservice hitem hend
  cases hchange with
  | quiet hmoves hsize hinvoices _ _ =>
    have hmoved := hhonoured.moves h.billed hmoves hsize
    rcases hinvoices with heq | ⟨draft, hplain, heq⟩
    · rw [heq]
      exact hmoved
    · rw [heq]
      refine hmoved.insert fun line hline hown => ?_
      rw [(hplain line hline).2] at hown
      exact nomatch hown
  | @renewed op l db' request billed hbilledGet _ hunbilled hinvoices _ =>
    rw [hinvoices]
    refine hhonoured.insert fun line hline hown => ?_
    -- The add-on would have to renew at a due date before its end, whose period is billed already.
    obtain ⟨⟨item', hmem⟩, -⟩ := renewing_of_line hline hown
    have hid := h.served.eq_of_orderedWith (orderedWith_of_renewing hbilledGet hmem) h.ordered
    rw [hid, hservice, Option.some.injEq] at hbilledGet
    subst hbilledGet
    obtain ⟨hitem', -, hbefore⟩ := mem_renewingAddOns hmem
    obtain rfl := Option.mem_unique hitem hitem'
    have hlt := hbefore endAt hend
    rcases hreached with hle | ⟨renewal, hrenewal, hperiod⟩
    · exact absurd hle (Nat.not_le_of_lt hlt)
    · obtain ⟨row, settled, pending, hrow, hstand⟩ := h.renewals
      obtain rfl := Option.mem_unique hservice hrow
      rcases (hstand.line_cases hrenewal).2 with hle | ⟨-, hnext⟩
      · rw [hperiod] at hle
        exact Nat.not_le_of_lt hlt hle
      · obtain ⟨i, invoice, hinvoice, anchor, hanchor, hanchorOwn, hanchorPeriod, -⟩ :=
          mem_renewalLines.1 hrenewal
        obtain ⟨hstart, hstop⟩ := InvoiceItem.period?_eq_some.1 hanchorPeriod
        rw [hnext, nextLine] at hstart hstop
        rw [hid, periodBilled, any_eq_false] at hunbilled
        have hnot := hunbilled i invoice hinvoice
        rw [List.any_eq_false] at hnot
        exact hnot anchor hanchor (by simp [hanchorOwn, hstart, hstop])
  | applied _ hinvoices _ =>
    rw [hinvoices]
    exact hhonoured

theorem AddOnTrack.step (h : AddOnTrack serviceId addOnId initial db applied)
    (hl : billingAssertion lib db op l) (heffect : BillingEffect lib w db op l db')
    (hrenewals : RenewalsTrack serviceId initial db' applied') :
    AddOnTrack serviceId addOnId initial db' applied' := by
  have hchange := billingChange_of_effect hl heffect
  have hitems := itemsChange_of_effect hl heffect
  have hlater := dueLater_of_change hchange
  refine ⟨hrenewals, h.served.step hitems, h.ordered.step hitems hlater, h.billed_step hchange, ?_⟩
  intro service' item' endAt hservice' hitem' hend
  obtain ⟨service, settled, pending, hservice, hstand⟩ := h.renewals
  obtain ⟨item, hitem, -, hsame | hended⟩ := hitems.items addOnId item' hitem'
  · rw [hsame] at hend
    refine ⟨?_, h.honoured_step hchange hservice hitem hend⟩
    obtain ⟨later, hget, hdue⟩ := hlater serviceId service hservice
    obtain rfl := Option.mem_unique hservice' hget
    obtain ⟨row, settled', pending', hrow, hstand'⟩ := hrenewals
    obtain rfl := Option.mem_unique hservice' hrow
    exact (h.ended service item endAt hservice hitem hend).1.step hstand'
      (renewalLines_subset hstand.issued hchange) hdue
  · obtain ⟨id, owner, offered, howner, hfound, hoffered, hwritten, hinvoices, hservices⟩ := hended
    obtain ⟨hostingId, hosting, hid, hhosting, hget, hrenews⟩ :=
      findAddOn_eq_some hfound
    have hown : id = serviceId := h.served.eq_of_orderedWith
      ⟨owner, item, howner, hget, hostingId, hosting, hid, hhosting, hrenews.1.symm⟩ h.ordered
    subst hown
    obtain rfl := Option.mem_unique hwritten hend
    obtain rfl := Option.mem_unique howner hservice
    rw [hservices, howner, Option.some.injEq] at hservice'
    subst hservice'
    rw [hinvoices]
    exact offered_end hstand h.billed hoffered

end

/-! ## Runs -/

section

variable {lib : Libraries}

theorem ordersServed_of_run {db : Database} (h : OrdersServed db.orderItems db.services)
    {c : Config (billingOperations lib)} (hr : Reaches anyStep ⟨db, []⟩ c) :
    OrdersServed c.shared.orderItems c.shared.services :=
  (billingOutline_sound lib).related
    (R := fun db db' => OrdersServed db.orderItems db.services →
      OrdersServed db'.orderItems db'.services)
    (fun _ h => h) (fun _ _ _ h₁ h₂ h => h₂ (h₁ h))
    (fun w db t db' t' _ _ hthread hstep h => by
      obtain ⟨l, hl, rfl⟩ := Thread.step_eq_some hstep
      exact h.step (itemsChange_of_effect hthread (effect_of_step t.op hl)))
    (Outline.holds_idle trivial) hr h

/-- **The end of an add-on's renewal is honoured.**  Take any moment of a run at which a service and
an add-on ordered with it were not billed yet and the add-on's renewal had not been ended.  Whenever
it has an end later on, no renewal line of the add-on on an invoice that is not cancelled starts at
the end or later, or ends after it. -/
theorem addOn_end_honoured {db : Database} (hserved : OrdersServed db.orderItems db.services)
    {before moves : List (Move (billingOperations lib))} {c₁ c : Config (billingOperations lib)}
    (hbefore : Config.run ⟨db, []⟩ before = some c₁) {serviceId addOnId : RowId} {item₁ : OrderItem}
    (hordered : OrderedWith serviceId addOnId c₁.shared.orderItems c₁.shared.services)
    (hitem₁ : c₁.shared.orderItems.get? addOnId = some item₁) (hrenews : item₁.renewalEndsAt = none)
    (hunbilled : ∀ i invoice, c₁.shared.invoices.get? i = some invoice → ∀ line ∈ invoice.items,
      line.serviceId ≠ some serviceId ∧ (line.orderItemId = some addOnId → line.period? = none))
    (hrun : c₁.run moves = some c) {item : OrderItem} {endAt : ℕ}
    (hitem : c.shared.orderItems.get? addOnId = some item)
    (hend : item.renewalEndsAt = some endAt) : EndHonoured addOnId endAt c.shared.invoices := by
  have ⟨service₁, _, hservice₁, _⟩ := hordered
  have hstart := (billingOutline_sound lib).holds (Outline.holds_idle (s := db) trivial)
    (reaches_anyStep_of_run hbefore)
  have hidle : AddOnTrack serviceId addOnId service₁.nextDueAt c₁.shared [] := by
    refine ⟨.of_unbilled hservice₁ fun i invoice hinvoice line hline =>
      (hunbilled i invoice hinvoice line hline).1,
      ordersServed_of_run hserved (reaches_anyStep_of_run hbefore), hordered, ?_, ?_⟩
    · intro i invoice hinvoice line hline hown period hperiod
      rw [(hunbilled i invoice hinvoice line hline).2 hown] at hperiod
      exact nomatch hperiod
    · intro service item endAt _ hitem hend
      rw [hitem₁, Option.some.injEq] at hitem
      rw [← hitem, hrenews] at hend
      exact nomatch hend
  have htrack : AddOnTrack serviceId addOnId service₁.nextDueAt c.shared
      ([] ++ c₁.record appliedPeriods moves) :=
    (billingOutline_sound lib).recorded (fun w db t db' t' applied _ _ hthread hstep h => by
      obtain ⟨l, hl, rfl⟩ := Thread.step_eq_some hstep
      exact h.step hthread (effect_of_step t.op hl) (h.renewals.step hthread hl))
      hstart hrun (guarded_anyStep c₁ moves) hidle
  obtain ⟨service, -, -, hservice, -⟩ := htrack.renewals
  exact (htrack.ended service item endAt hservice hitem hend).2

end

/-! ### An add-on that is billed once and then ended -/

def addOnDatabase : Database where
  partialPaymentsEnabled := some true
  users := ⟨[{ role := .admin }]⟩
  customers := ⟨[{ userId := 0 }]⟩
  orders := ⟨[{ customerId := 0, status := .completed, updatedAt := 0 }]⟩
  orderItems := ⟨[{ orderId := 0, currency := "BDT", unitAmount := 100, lineTotal := 100 },
    { orderId := 0, kind := .addOn, currency := "BDT", unitAmount := 10, lineTotal := 10,
      fulfilledAt := some 0 }]⟩
  services := renewableDatabase.services

def endAddOn (position : ℕ) : List (Move plainOperations) :=
  .call .cancelAddOn (⟨0, 1, some (789 * millisecondsPerDay), .customer, 0, false⟩ :
      CancelAddOnRequest) :: advances position 1 2

def billEndAndBill : List (Move plainOperations) :=
  billService 0 1 ++ endAddOn 1 ++ payAndApply 2 110 2 ++ billService 5 3

def billedEndedBilled : Config plainOperations :=
  Config.after ⟨addOnDatabase, []⟩ billEndAndBill (by decide +kernel)

theorem ordersServed_addOnDatabase :
    OrdersServed addOnDatabase.orderItems addOnDatabase.services where
  hosting i j item item' hi hj hkind hkind' _ := by
    have hfirst : ∀ i item, addOnDatabase.orderItems.get? i = some item → item.kind = .hosting →
        i = 0 := by
      decide
    rw [hfirst i item hi hkind, hfirst j item' hj hkind']
  kind i service itemId hservice hid := by
    obtain ⟨-, rfl⟩ := eq_of_get?_singleton hservice
    rw [Option.some.injEq] at hid
    subst hid
    exact ⟨_, rfl, rfl⟩
  unique i j service service' itemId hi hj _ _ := by
    obtain ⟨rfl, -⟩ := eq_of_get?_singleton hi
    obtain ⟨rfl, -⟩ := eq_of_get?_singleton hj
    rfl

theorem ended_addOn_honoured :
    (billedEndedBilled.shared.orderItems.get? 1).map OrderItem.renewalEndsAt =
        some (some (789 * millisecondsPerDay)) ∧
      (billedEndedBilled.shared.invoices.rows.map fun invoice =>
        invoice.items.map InvoiceItem.orderItemId) = [[none, some 1], [none]] ∧
      EndHonoured 1 (789 * millisecondsPerDay) billedEndedBilled.shared.invoices := by
  have hend : (billedEndedBilled.shared.orderItems.get? 1).map OrderItem.renewalEndsAt =
      some (some (789 * millisecondsPerDay)) := by
    decide +kernel
  obtain ⟨item, hitem, hends⟩ := Option.map_eq_some_iff.1 hend
  refine ⟨hend, by decide +kernel, ?_⟩
  exact addOn_end_honoured ordersServed_addOnDatabase
    (show Config.run ⟨addOnDatabase, []⟩ [] = some _ from rfl)
    (show OrderedWith 0 1 addOnDatabase.orderItems addOnDatabase.services from
      ⟨_, _, rfl, rfl, 0, _, rfl, rfl, rfl⟩)
    (show addOnDatabase.orderItems.get? 1 = some _ from rfl) rfl
    (fun i invoice hinvoice => absurd hinvoice get?_empty_ne)
    (run_eq_after
      (show (Config.run ⟨addOnDatabase, []⟩ billEndAndBill).isSome = true by decide +kernel))
    hitem hends

end WebhostBilling
