import WebhostBilling.Gateways.PaymentGatewayService

/-!
# Provider events are applied once

The first delivery of an event to commit stores it with its outcome, and its row is never written
again; every other delivery of the identifier is turned away at the lookup, or at the unique key,
and answered from that row.
-/

namespace WebhostBilling

open Store Store.Table Concurrency Config

namespace PaymentGatewayService

def eventOperations : Unit → Operation Database World := fun _ => processNormalizedEvent

def ProcessState.delivery : ProcessState → Delivery
  | .lookup d => d
  | .transact d => d
  | .raced d => d
  | .done d _ => d

/-- `payment_events_provider_event_key`. -/
def UniqueEvents (db : Database) : Prop :=
  ∀ i j e e', db.paymentEvents.get? i = some e → db.paymentEvents.get? j = some e' →
    e.provider = e'.provider → e.providerEventId = e'.providerEventId → i = j

/-- The row `e` stores the event with the identifier of a delivery. -/
def Recorded (db : Database) (d : Delivery) (e : PaymentEvent) : Prop :=
  ∃ id, db.paymentEvents.get? id = some e ∧ e.provider = d.gateway.key ∧
    e.providerEventId = d.event.providerEventId

variable {db db' : Database} {e : PaymentEvent} {l l' : ProcessState} {w : World}

variable {d : Delivery} {id : RowId} {gateway : PaymentGateway} {event : NormalizedPaymentEvent}
  {payloadHash : String} {now : ℕ} {result : WebhookTransactionResult}

theorem findEvent_of_recorded (hunique : UniqueEvents db) (h : Recorded db d e) :
    ∃ id, findEvent db d.gateway d.event.providerEventId = some (id, e) := by
  obtain ⟨id, he, hprovider, hid⟩ := h
  cases hfind : findEvent db d.gateway d.event.providerEventId with
  | none =>
    have := find?_eq_none.1 hfind id e he
    simp [hprovider, hid] at this
  | some found =>
    obtain ⟨hrow, hkey⟩ := find?_eq_some hfind
    simp only [decide_eq_true_eq] at hkey
    have hsame := hunique _ _ _ _ hrow he (hkey.1.trans hprovider.symm) (hkey.2.trans hid.symm)
    rw [hsame, he, Option.some.injEq] at hrow
    exact ⟨found.1, by rw [hrow]⟩

/-! ## What one delivery does -/

/-- How a payment's row may move: from pending to an outcome, and never to another amount, kind or
invoice. -/
structure Payment.Advances (p p' : Payment) : Prop where
  invoiceId : p'.invoiceId = p.invoiceId
  kind : p'.kind = p.kind
  amount : p'.amount = p.amount
  settled : p.status ≠ .pending → p'.status = p.status

theorem Payment.Advances.refl (p : Payment) : Payment.Advances p p := ⟨rfl, rfl, rfl, fun _ => rfl⟩

theorem Payment.Advances.trans (p p' p'' : Payment) (h : Payment.Advances p p')
    (h' : Payment.Advances p' p'') : Payment.Advances p p'' where
  invoiceId := h'.invoiceId.trans h.invoiceId
  kind := h'.kind.trans h.kind
  amount := h'.amount.trans h.amount
  settled hp := (h'.settled (by rw [h.settled hp]; exact hp)).trans (h.settled hp)

def paysInvoice (invoiceId : RowId) (payment : Payment) : Bool :=
  payment.invoiceId = invoiceId ∧ payment.kind = .charge ∧ payment.status = .succeeded

def succeededTotal (db : Database) (invoiceId : RowId) : ℤ :=
  db.payments.total (paysInvoice invoiceId) Payment.amount

/-- What deliveries may do to a database: events are added, payments advance, and an invoice
receives exactly the payments that advance to succeeded. -/
structure Settles (db db' : Database) : Prop where
  events : Table.Grows Eq db.paymentEvents db'.paymentEvents
  payments : Table.Grows Payment.Advances db.payments db'.payments
  invoicesSize : db'.invoices.size = db.invoices.size
  invoices : ∀ i invoice, db.invoices.get? i = some invoice →
    ∃ invoice', db'.invoices.get? i = some invoice' ∧
      invoice'.amountPaid - succeededTotal db' i = invoice.amountPaid - succeededTotal db i

theorem Settles.refl (db : Database) : Settles db db where
  events := Grows.refl (fun _ => rfl) _
  payments := Grows.refl Payment.Advances.refl _
  invoicesSize := rfl
  invoices _ invoice h := ⟨invoice, h, rfl⟩

theorem Settles.trans {db₁ db₂ db₃ : Database} (h : Settles db₁ db₂) (h' : Settles db₂ db₃) :
    Settles db₁ db₃ where
  events := @Grows.trans _ Eq (fun _ _ _ => Eq.trans) _ _ _ h.events h'.events
  payments := Grows.trans Payment.Advances.trans h.payments h'.payments
  invoicesSize := h'.invoicesSize.trans h.invoicesSize
  invoices i invoice hi := by
    obtain ⟨invoice₂, hi₂, heq₂⟩ := h.invoices i invoice hi
    obtain ⟨invoice₃, hi₃, heq₃⟩ := h'.invoices i invoice₂ hi₂
    exact ⟨invoice₃, hi₃, heq₃.trans heq₂⟩

theorem settles_of_unpaid (hevents : Table.Grows Eq db.paymentEvents db'.paymentEvents)
    (f : Payment → Payment) (hf : ∀ p, db.payments.get? id = some p → Payment.Advances p (f p) ∧
      ((f p).status = .succeeded ↔ p.status = .succeeded))
    (hpayments : db'.payments = db.payments.update id f) (hinvoices : db'.invoices = db.invoices) :
    Settles db db' where
  events := hevents
  payments := by
    rw [hpayments]
    exact grows_update Payment.Advances.refl fun p hp => (hf p hp).1
  invoicesSize := by rw [hinvoices]
  invoices i invoice hi := by
    refine ⟨invoice, by rw [hinvoices, hi], ?_⟩
    have htotal : succeededTotal db' i = succeededTotal db i := by
      rw [succeededTotal, succeededTotal, hpayments]
      apply total_update_eq
      intro p hp
      obtain ⟨hadvance, hstatus⟩ := hf p hp
      have hpays : paysInvoice i (f p) = paysInvoice i p := by
        rw [paysInvoice, paysInvoice, hadvance.invoiceId, hadvance.kind, decide_eq_decide, hstatus]
      rw [hpays, hadvance.amount]
    rw [htotal]

theorem settles_of_paid (hevents : Table.Grows Eq db.paymentEvents db'.paymentEvents) {p : Payment}
    (hp : db.payments.get? id = some p) (hpending : p.status = .pending)
    (hcharge : p.kind = .charge) (f : Payment → Payment) (hinvoice : (f p).invoiceId = p.invoiceId)
    (hkind : (f p).kind = p.kind) (hamount : (f p).amount = p.amount)
    (hstatus : (f p).status = .succeeded) {invoice : Invoice}
    (hi : db.invoices.get? p.invoiceId = some invoice) (g : Invoice → Invoice)
    (hg : (g invoice).amountPaid = invoice.amountPaid + p.amount)
    (hpayments : db'.payments = db.payments.update id f)
    (hinvoices : db'.invoices = db.invoices.update p.invoiceId g) : Settles db db' where
  events := hevents
  payments := by
    rw [hpayments]
    refine grows_update Payment.Advances.refl fun q hq => ?_
    obtain rfl := Option.mem_unique hp hq
    exact ⟨hinvoice, hkind, hamount, fun h => absurd hpending h⟩
  invoicesSize := by rw [hinvoices, size_update]
  invoices i row hrow := by
    have htotal : succeededTotal db' i =
        succeededTotal db i + if p.invoiceId = i then p.amount else 0 := by
      rw [succeededTotal, succeededTotal, hpayments, total_update hp]
      simp [paysInvoice, hpending, hinvoice, hkind, hcharge, hstatus, hamount]
    rw [htotal, hinvoices]
    by_cases hid : p.invoiceId = i
    · subst hid
      obtain rfl := Option.mem_unique hi hrow
      refine ⟨g invoice, get?_update_self hi, ?_⟩
      rw [hg, if_pos rfl]
      omega
    · refine ⟨row, by rw [get?_update_of_ne hid, hrow], ?_⟩
      rw [if_neg hid]
      omega

/-- **What a committed delivery does**: it settles, and its row answers later deliveries with its
own outcome. -/
theorem effect_settles (h : EventEffect gateway event payloadHash now db result db') :
    Settles db db' := by
  have hnote : ∀ (reason : String) (p : Payment), Payment.Advances p (notedPayment reason p) ∧
      ((notedPayment reason p).status = .succeeded ↔ p.status = .succeeded) :=
    fun reason p => ⟨⟨rfl, rfl, rfl, fun _ => rfl⟩, Iff.rfl⟩
  cases h with
  | rejected message stored payments hpayments hstored =>
    have hevents : Table.Grows Eq db.paymentEvents (db.paymentEvents.insert stored) :=
      grows_insert (fun _ => rfl) _ _
    rcases hpayments with rfl | ⟨_, _, _, hpayments⟩
    · exact ⟨hevents, Grows.refl Payment.Advances.refl _, rfl, fun _ row hrow => ⟨row, hrow, rfl⟩⟩
    · exact settles_of_unpaid hevents _ (fun p _ => hnote message p) hpayments rfl
  | ignored invoice payment payments hstatus hpayment hvalid hpayments =>
    have hevents : Table.Grows Eq db.paymentEvents (db.paymentEvents.insert
        (ignoredEvent now (linkedEvent event.paymentId (receivedEvent gateway event payloadHash)))) :=
      grows_insert (fun _ => rfl) _ _
    rcases hpayments with rfl | ⟨reason, hpayments⟩
    · exact ⟨hevents, Grows.refl Payment.Advances.refl _, rfl, fun _ row hrow => ⟨row, hrow, rfl⟩⟩
    · exact settles_of_unpaid hevents _ (fun p _ => hnote reason p) hpayments rfl
  | failed invoice payment hstatus hpayment hvalid =>
    refine settles_of_unpaid (grows_insert (fun _ => rfl) _ _) _ ?_ rfl rfl
    intro p hp
    obtain rfl := Option.mem_unique hpayment hp
    exact ⟨⟨rfl, rfl, rfl, fun h => absurd hvalid.pending h⟩, by simp [failedPayment, hvalid.pending]⟩
  | settled invoice payment transactionId orders hstatus hinvoice hpayment hvalid =>
    refine settles_of_paid (grows_insert (fun _ => rfl) _ _) hpayment hvalid.pending
      hvalid.kind _ rfl rfl rfl rfl (hvalid.invoiceId ▸ hinvoice)
          (settleInvoiceData invoice payment.amount now) rfl rfl ?_
    rw [hvalid.invoiceId]

def asDuplicate (result : PaymentWebhookResult) : PaymentWebhookResult :=
  { result with duplicate := true }

/-- A committed delivery adds one event, under its own identifier, and the event replays the
outcome the delivery had. -/
theorem effect_records (h : EventEffect gateway event payloadHash now db result db') :
    ∃ e, db'.paymentEvents = db.paymentEvents.insert e ∧ e.provider = gateway.key ∧
      e.providerEventId = event.providerEventId ∧
      replay e payloadHash event = (webhookResult event result).map asDuplicate := by
  cases h with
  | rejected message stored payments hpayments hstored =>
    refine ⟨stored, rfl, ?_⟩
    rcases hstored with rfl | rfl <;>
    exact ⟨rfl, rfl, by
      simp [replay, rejectedEvent, receivedEvent, linkedEvent, webhookResult, Except.map]⟩
  | ignored | failed | settled =>
    exact ⟨_, rfl, rfl, rfl, by
      simp [replay, ignoredEvent, processedEvent, receivedEvent, linkedEvent, webhookResult,
        Except.map, asDuplicate]⟩

/-! ## What one step does -/

theorem uniqueEvents_insert (h : UniqueEvents db)
    (hfresh : ∀ id e', db.paymentEvents.get? id = some e' → e'.provider = e.provider →
      e'.providerEventId ≠ e.providerEventId)
    (hevents : db'.paymentEvents = db.paymentEvents.insert e) : UniqueEvents db' := by
  intro i j e₁ e₂ hi hj hprovider hid
  rw [hevents] at hi hj
  rcases get?_insert_cases hi with ⟨rfl, rfl⟩ | hold
  · rcases get?_insert_cases hj with ⟨rfl, rfl⟩ | hold'
    · rfl
    · exact absurd hid.symm (hfresh j e₂ hold' hprovider.symm)
  · rcases get?_insert_cases hj with ⟨rfl, rfl⟩ | hold'
    · exact absurd hid (hfresh i e₁ hold hprovider)
    · exact h i j e₁ e₂ hold hold' hprovider hid

/-- **A step of a delivery** leaves the database as it is, or it is the one that records the event:
then no event had the identifier before, and the thread ends with the recorded outcome. -/
theorem processStep_cases (h : processStep w db l = some (db', l')) :
    db' = db ∨ ∃ d e r, l = .transact d ∧ l' = .done d r ∧
      (∀ id e', db.paymentEvents.get? id = some e' → e'.provider = d.gateway.key →
        e'.providerEventId ≠ d.event.providerEventId) ∧
      db'.paymentEvents = db.paymentEvents.insert e ∧ e.provider = d.gateway.key ∧
      e.providerEventId = d.event.providerEventId ∧
      replay e d.payloadHash d.event = r.map asDuplicate ∧ Settles db db' := by
  rcases processStep_writes h with rfl | ⟨d, result, rfl, hok⟩
  · exact .inl rfl
  · obtain ⟨hfresh, heffect⟩ := processTransaction_eq_ok hok
    obtain ⟨e, hevents, hprovider, hid, hreplay⟩ := effect_records heffect
    refine .inr ⟨d, e, webhookResult d.event result, rfl, ?_, hfresh, hevents, hprovider, hid,
      hreplay, effect_settles heffect⟩
    rw [processStep, atomically, hok] at h
    exact (Prod.mk.inj (Option.some.inj h)).2.symm

theorem processStep_settles (h : processStep w db l = some (db', l')) : Settles db db' := by
  rcases processStep_cases h with rfl | ⟨_, _, _, _, _, _, _, _, _, _, hsettles⟩
  · exact Settles.refl _
  · exact hsettles

theorem processStep_uniqueEvents
    (h : processStep w db l = some (db', l')) (hunique : UniqueEvents db) : UniqueEvents db' := by
  rcases processStep_cases h with rfl | ⟨d, e, _, _, _, hfresh, hevents, hprovider, hid, -, -⟩
  · exact hunique
  · refine uniqueEvents_insert hunique ?_ hevents
    rw [hprovider, hid]
    exact hfresh

theorem processTransaction_of_recorded (h : Recorded db d e) (now : ℕ) :
    processTransaction d.gateway d.event d.payloadHash now db = .error .uniqueConstraint := by
  obtain ⟨id, he, hprovider, hid⟩ := h
  have hcreate : db.createPaymentEvent (receivedEvent d.gateway d.event d.payloadHash) =
      .error .uniqueConstraint := by
    rw [Database.createPaymentEvent, require_false]
    · rfl
    · intro hfree
      have := any_eq_false.1 hfree id e he
      simp [receivedEvent, hprovider, hid] at this
  rw [processTransaction, hcreate]
  rfl

theorem processStep_of_recorded (hunique : UniqueEvents db) (hrecorded : Recorded db l.delivery e)
    (h : processStep w db l = some (db', l')) :
    db' = db ∧ (l' = .raced l.delivery ∨
      l' = .done l.delivery (replay e l.delivery.payloadHash l.delivery.event)) := by
  obtain ⟨id, hfind⟩ := findEvent_of_recorded hunique hrecorded
  cases l with
  | lookup d =>
    simp only [processStep, ProcessState.delivery] at h hfind
    rw [hfind] at h
    cases h
    exact ⟨rfl, .inr rfl⟩
  | transact d =>
    have herror : processTransaction d.gateway d.event d.payloadHash w.now db = _ :=
      processTransaction_of_recorded hrecorded w.now
    rw [processStep, atomically, herror] at h
    cases h
    exact ⟨rfl, .inl rfl⟩
  | raced d =>
    simp only [processStep, ProcessState.delivery] at h hfind
    rw [hfind] at h
    cases h
    exact ⟨rfl, .inr rfl⟩
  | done d r => exact absurd h (by simp [processStep])

/-! ## Whole runs -/

/-- Each event is stored once; threads rely on nothing. -/
def eventOutline : Outline eventOperations where
  shared := UniqueEvents

theorem eventOutline_sound : eventOutline.Sound anyStep where
  symm _ _ h := h
  call _ _ _ _ := trivial
  call_apart _ _ _ := trivial
  own w db t db' t' _ hshared _ hstep := by
    obtain ⟨l, hl, rfl⟩ := Thread.step_eq_some hstep
    exact ⟨processStep_uniqueEvents hl hshared, trivial⟩
  other _ _ _ _ _ _ _ _ _ _ _ _ := ⟨trivial, trivial⟩

/-- A delivery in the state `c` that commits is recorded, and what is recorded in `c` is still
recorded in `c'`, with the outcome it had. -/
def RecordsOutcomes (c c' : Config eventOperations) : Prop :=
  (∀ d e, Recorded c.shared d e → Recorded c'.shared d e) ∧
  ∀ t ∈ c.threads, ∀ w db t', t.step w c.shared = some (db, t') → db ≠ c.shared →
    ∃ d e r, t.loc = .transact d ∧ t'.loc = .done d r ∧ Recorded db d e ∧
      replay e d.payloadHash d.event = r.map asDuplicate

/-- A delivery of a recorded event changes nothing in the database and is answered from the record:
with the recorded outcome when its content is the same, and with a rejection when it is not. -/
def RepliesFromRecord (c : Config eventOperations) : Prop :=
  ∀ t ∈ c.threads, ∀ w db t', t.step w c.shared = some (db, t') →
    ∀ d e, d = ProcessState.delivery t.loc → Recorded c.shared d e → db = c.shared ∧
      (t'.loc = .raced d ∨ ∃ r, t'.loc = .done d r ∧ r = replay e d.payloadHash d.event ∧
        (e.payloadHash ≠ d.payloadHash → r = .error (webhookRejected
          "Provider event identifier was reused with different content.")))

/-- Between two states, payments only advance, and every invoice received exactly the amounts of
those of its payments that newly succeeded. -/
def SettlesOnce (db db' : Database) : Prop :=
  Table.Grows Payment.Advances db.payments db'.payments ∧
  ∀ i invoice, db.invoices.get? i = some invoice →
    ∃ invoice', db'.invoices.get? i = some invoice' ∧
      invoice'.amountPaid = invoice.amountPaid +
        Table.newTotal db.payments db'.payments (paysInvoice i) Payment.amount

theorem settlesOnce_of_settles (h : Settles db db') : SettlesOnce db db' := by
  refine ⟨h.payments, fun i invoice hi => ?_⟩
  obtain ⟨invoice', hi', heq⟩ := h.invoices i invoice hi
  refine ⟨invoice', hi', ?_⟩
  have htotal : succeededTotal db' i = succeededTotal db i +
      Table.newTotal db.payments db'.payments (paysInvoice i) Payment.amount := by
    apply total_eq_add_newTotal
    intro id p hp
    obtain ⟨p', hp', hadvance⟩ := h.payments id p hp
    refine ⟨p', hp', fun hpays => ⟨?_, hadvance.amount⟩⟩
    rw [paysInvoice, decide_eq_true_eq] at hpays ⊢
    rw [hadvance.invoiceId, hadvance.kind,
      hadvance.settled (by rw [hpays.2.2]; exact fun h => nomatch h)]
    exact hpays
  omega

/-- **Provider events are applied once**, whatever the deliveries of any number of events are
interleaved: an event is stored at most once, its first outcome answers every later delivery, which
changes nothing, and a payment reaches its invoice once and with its amount. -/
theorem provider_events_applied_once {db : Database} (h : UniqueEvents db)
    {c c' : Config eventOperations} (hr : Reaches anyStep ⟨db, []⟩ c)
    (hr' : Reaches anyStep c c') :
    UniqueEvents c'.shared ∧ RecordsOutcomes c c' ∧ RepliesFromRecord c' ∧
      SettlesOnce c.shared c'.shared := by
  have hc : eventOutline.Holds c := eventOutline_sound.holds (Outline.holds_idle h) hr
  have hc' : eventOutline.Holds c' := eventOutline_sound.holds hc hr'
  have hsettles : Settles c.shared c'.shared := by
    refine eventOutline_sound.related Settles.refl (fun _ _ _ => Settles.trans) ?_ hc hr'
    intro w db t db' t' _ _ _ hstep
    obtain ⟨l, hl, -⟩ := Thread.step_eq_some hstep
    exact processStep_settles hl
  refine ⟨hc'.shared, ⟨?_, ?_⟩, ?_, settlesOnce_of_settles hsettles⟩
  · rintro d e ⟨id, he, hkey⟩
    obtain ⟨e', he', rfl⟩ := hsettles.events id e he
    exact ⟨id, he', hkey⟩
  · intro t _ w db' t' hstep hchanged
    obtain ⟨l, hl, rfl⟩ := Thread.step_eq_some hstep
    rcases processStep_cases hl with
      rfl | ⟨d, e, r, hloc, rfl, -, hevents, hprovider, hid, hreplay, -⟩
    · exact absurd rfl hchanged
    · exact ⟨d, e, r, hloc, rfl,
        ⟨_, by rw [hevents]; exact get?_insert_self _ _, hprovider, hid⟩, hreplay⟩
  · rintro t _ w db' t' hstep d e rfl hrecorded
    obtain ⟨l, hl, rfl⟩ := Thread.step_eq_some hstep
    obtain ⟨rfl, hloc⟩ := processStep_of_recorded hc'.shared hrecorded hl
    refine ⟨rfl, hloc.imp_right fun hdone => ⟨_, hdone, rfl, fun hhash => ?_⟩⟩
    rw [replay, if_pos hhash]

/-! ### One event, delivered twice at once -/

def openSession (gateway : PaymentGateway) (reference : String) : Database where
  customers := ⟨[{ userId := 0 }]⟩
  invoices := ⟨[{
    submissionKey := "order", customerId := 0, status := .unpaid, currency := "BDT",
    subtotal := 100, total := 100, balanceDue := 100, dueAt := 5, updatedAt := 0, items := [] }]⟩
  payments := ⟨[{
    invoiceId := 0, createdByUserId := some 0, provider := gateway.key,
    idempotencyKey := "gateway-session:" ++ gateway.key ++ ":s-1", amount := 100, currency := "BDT",
    reference := some reference }]⟩

theorem uniqueEvents_openSession (gateway : PaymentGateway) (reference : String) :
    UniqueEvents (openSession gateway reference) :=
  fun _ _ _ _ h _ _ _ => absurd h get?_empty_ne

def succeededDelivery : Delivery where
  gateway := .fake
  event := {
    providerEventId := "evt-1", eventType := "payment.succeeded", status := .succeeded,
    merchantId := "webhost-billing-fake", paymentId := 0, invoiceId := 0, amount := 100,
    currency := "BDT", providerTransactionId := some "trx-1", occurredAt := 3,
    failureReason := none }
  payloadHash := "c0ffee"

def doubleDelivery : List (Move eventOperations) :=
  [.call () succeededDelivery, .call () succeededDelivery, .advance 0 {}, .advance 1 {},
    .advance 0 {}, .advance 1 {}, .advance 1 {}]

theorem double_delivery_applied_once :
    ∃ c, Config.run ⟨openSession .fake "fake-1", []⟩ doubleDelivery = some c ∧
      (c.shared.invoices.get? 0).map Invoice.amountPaid = some 100 ∧ c.shared.paymentEvents.size = 1 ∧
      UniqueEvents c.shared ∧ RecordsOutcomes ⟨openSession .fake "fake-1", []⟩ c ∧
      RepliesFromRecord c ∧ SettlesOnce (openSession .fake "fake-1") c.shared :=
  ⟨_, rfl, rfl, rfl, provider_events_applied_once (uniqueEvents_openSession .fake "fake-1")
    .refl (reaches_anyStep_of_run
      (rfl : Config.run ⟨openSession .fake "fake-1", []⟩ doubleDelivery = some _))⟩

end PaymentGatewayService

end WebhostBilling
