import WebhostBilling.Gateways.ProviderEvents

/-!
# Sequences of observations

Each of the three ways on which an observation reaches the service derives the identifier of its
event on its own.  The identifier does not always tell a first, pending observation from a later one
that reports success; then the success is answered as a reused identifier and the payment stays
open.
-/

namespace WebhostBilling

open Store Store.Table Concurrency

namespace PaymentGatewayService

/-! ## One delivery after another -/

/-- A delivery that runs to its end before anything else happens. -/
def deliver (w : World) (db : Database) (d : Delivery) :
    Database × Except Failure PaymentWebhookResult :=
  match findEvent db d.gateway d.event.providerEventId with
  | some existing => (db, replay existing.2 d.payloadHash d.event)
  | none =>
    match atomically (processTransaction d.gateway d.event d.payloadHash w.now) db with
    | (db', .ok result) => (db', webhookResult d.event result)
    | (db', .error .uniqueConstraint) =>
      match findEvent db' d.gateway d.event.providerEventId with
      | some raced => (db', replay raced.2 d.payloadHash d.event)
      | none => (db', .error (webhookRejected "Provider transaction has already been recorded."))
    | (db', .error e) => (db', .error e)

def isRecorded (db : Database) (d : Delivery) : Bool :=
  (findEvent db d.gateway d.event.providerEventId).isSome

variable {db db' : Database} {d : Delivery} {invoice : Invoice} {event : NormalizedPaymentEvent}
  {gateway : PaymentGateway} {payloadHash transactionId : String} {w : World} {now : ℕ}

theorem isRecorded_iff :
    isRecorded db d = true ↔ ∃ e, Recorded db d e := by
  constructor
  · intro h
    obtain ⟨⟨id, e⟩, hfind⟩ := Option.isSome_iff_exists.1 h
    obtain ⟨he, hkey⟩ := find?_eq_some hfind
    rw [decide_eq_true_eq] at hkey
    exact ⟨e, id, he, hkey⟩
  · rintro ⟨e, id, he, hprovider, hid⟩
    rw [isRecorded, Option.isSome_iff_ne_none]
    intro hnone
    have := find?_eq_none.1 hnone id e he
    simp [hprovider, hid] at this

theorem not_isRecorded_iff :
    isRecorded db d = false ↔ ∀ id e, db.paymentEvents.get? id = some e →
      e.provider = d.gateway.key → e.providerEventId ≠ d.event.providerEventId := by
  rw [← Bool.not_eq_true, isRecorded_iff]
  constructor
  · exact fun h id e he hprovider hid => h ⟨e, id, he, hprovider, hid⟩
  · rintro h ⟨e, id, he, hprovider, hid⟩
    exact h id e he hprovider hid

/-- A delivery of a stored event changes nothing and is answered by the stored outcome. -/
theorem deliver_of_isRecorded (h : isRecorded db d = true) :
    ∃ e : PaymentEvent, deliver w db d = (db, replay e d.payloadHash d.event) := by
  obtain ⟨⟨id, e⟩, hfind⟩ := Option.isSome_iff_exists.1 h
  exact ⟨e, by rw [deliver, hfind]⟩

variable {result : WebhookTransactionResult} {eventId : RowId} {payment : Payment}

theorem deliver_of_ok (h : isRecorded db d = false)
    (hok : processTransaction d.gateway d.event d.payloadHash w.now db = .ok (db', result)) :
    deliver w db d = (db', webhookResult d.event result) := by
  have hfind : findEvent db d.gateway d.event.providerEventId = none := by
    rw [isRecorded, Option.isSome_eq_false_iff, Option.isNone_iff_eq_none] at h
    exact h
  rw [deliver, hfind, atomically, hok]

/-! ## What a pending event does -/

def SameButReason (p p' : Payment) : Prop := p' = { p with failureReason := p'.failureReason }

theorem SameButReason.refl (p : Payment) : SameButReason p p := rfl

theorem SameButReason.trans (p p' p'' : Payment) (h : SameButReason p p')
    (h' : SameButReason p' p'') : SameButReason p p'' := by
  rw [SameButReason] at h h' ⊢
  rw [h', h]

/-- `db'` has the events of `db` and perhaps others, and differs in nothing else but the failure
reasons of payments. -/
structure Noted (db db' : Database) : Prop where
  invoices : db'.invoices = db.invoices
  outboxEvents : db'.outboxEvents = db.outboxEvents
  paymentsSize : db'.payments.size = db.payments.size
  payments : Table.Grows SameButReason db.payments db'.payments
  events : Table.Grows Eq db.paymentEvents db'.paymentEvents

theorem Noted.refl (db : Database) : Noted db db where
  invoices := rfl
  outboxEvents := rfl
  paymentsSize := rfl
  payments := Grows.refl SameButReason.refl _
  events := Grows.refl (fun _ => rfl) _

theorem Noted.trans {db₁ db₂ db₃ : Database} (h : Noted db₁ db₂) (h' : Noted db₂ db₃) :
    Noted db₁ db₃ where
  invoices := h'.invoices.trans h.invoices
  outboxEvents := h'.outboxEvents.trans h.outboxEvents
  paymentsSize := h'.paymentsSize.trans h.paymentsSize
  payments := Grows.trans SameButReason.trans h.payments h'.payments
  events := @Grows.trans _ Eq (fun _ _ _ => Eq.trans) _ _ _ h.events h'.events

theorem Noted.transactionTaken (h : Noted db db') {id : RowId}
    (hfree : PaymentGatewayService.transactionTaken db gateway transactionId id = false) :
    PaymentGatewayService.transactionTaken db' gateway transactionId id = false := by
  rw [PaymentGatewayService.transactionTaken, any_eq_false] at hfree ⊢
  intro j p' hp'
  obtain ⟨p, hp, hsame⟩ := h.payments.before h.paymentsSize hp'
  rw [hsame]
  exact hfree j p hp

theorem exists_of_validateEvent {invoice : Option Invoice} {payment : Option Payment}
    (h : validateEvent db gateway event invoice payment = none) :
    (∃ i, invoice = some i) ∧ ∃ p, payment = some p := by
  cases invoice with
  | none => exact nomatch h
  | some i =>
    cases payment with
    | none => exact nomatch h
    | some p => exact ⟨⟨i, rfl⟩, p, rfl⟩

theorem exists_processTransaction_pending (hpending : event.status = .pending)
    (hfresh : ∀ id e, db.paymentEvents.get? id = some e → e.provider = gateway.key →
      e.providerEventId ≠ event.providerEventId) :
    ∃ db' result, processTransaction gateway event payloadHash now db = .ok (db', result) := by
  have hcreate : db.createPaymentEvent (receivedEvent gateway event payloadHash) =
      .ok ({ db with
        paymentEvents := db.paymentEvents.insert (receivedEvent gateway event payloadHash) },
        db.paymentEvents.size) := db.createPaymentEvent_eq_ok.2 ⟨hfresh, rfl⟩
  simp only [processTransaction, hcreate, bind, Except.bind]
  split
  · exact ⟨_, _, rfl⟩
  · split
    · exact ⟨_, _, rfl⟩
    · rw [applyEvent]
      simp only [hpending]
      exact ⟨_, _, rfl⟩
    · rename_i hvalid hmissing
      obtain ⟨⟨i, hi⟩, p, hp⟩ := exists_of_validateEvent hvalid
      exact (hmissing i p hi hp).elim

theorem noted_of_pending (hpending : event.status = .pending)
    (h : EventEffect gateway event payloadHash now db result db') : Noted db db' := by
  have hnote : ∀ (reason : String) (payments : Table Payment) (events : Table PaymentEvent),
      payments = db.payments.update event.paymentId (notedPayment reason) →
      Table.Grows Eq db.paymentEvents events →
      Noted db { db with paymentEvents := events, payments := payments } := by
    rintro reason payments events rfl hevents
    exact ⟨rfl, rfl, size_update _ _ _, grows_update SameButReason.refl fun _ _ => rfl,
      hevents⟩
  have hinsert : ∀ e, Table.Grows Eq db.paymentEvents (db.paymentEvents.insert e) :=
    fun e => grows_insert (fun _ => rfl) _ _
  cases h with
  | rejected message stored payments hpayments hstored =>
    rcases hpayments with rfl | ⟨_, _, _, hpayments⟩
    · exact ⟨rfl, rfl, rfl, Grows.refl SameButReason.refl _, hinsert _⟩
    · exact hnote message payments _ hpayments (hinsert _)
  | ignored invoice payment payments hstatus hpayment hvalid hpayments =>
    rcases hpayments with rfl | ⟨reason, hpayments⟩
    · exact ⟨rfl, rfl, rfl, Grows.refl SameButReason.refl _, hinsert _⟩
    · exact hnote reason payments _ hpayments (hinsert _)
  | failed invoice payment hstatus | settled invoice payment transactionId orders hstatus =>
    exact nomatch hpending.symm.trans hstatus

/-- **A pending delivery** is noted, and stored afterwards whatever it was answered. -/
theorem deliver_pending (hpending : d.event.status = .pending) :
    Noted db (deliver w db d).1 ∧ isRecorded (deliver w db d).1 d = true ∧
      ∀ d', isRecorded (deliver w db d).1 d' = true → isRecorded db d' = true ∨
        d'.gateway.key = d.gateway.key ∧ d'.event.providerEventId = d.event.providerEventId := by
  cases hrecorded : isRecorded db d with
  | true =>
    obtain ⟨e, hdeliver⟩ := deliver_of_isRecorded (w := w) hrecorded
    rw [hdeliver]
    exact ⟨Noted.refl db, hrecorded, fun d' h => .inl h⟩
  | false =>
    have hcommits : ∃ db' result,
        processTransaction d.gateway d.event d.payloadHash w.now db = .ok (db', result) :=
      exists_processTransaction_pending hpending (not_isRecorded_iff.1 hrecorded)
    obtain ⟨db', result, hok⟩ := hcommits
    rw [deliver_of_ok hrecorded hok]
    have heffect := (processTransaction_eq_ok hok).2
    obtain ⟨e, hevents, hprovider, hid, -⟩ := effect_records heffect
    refine ⟨noted_of_pending hpending heffect, ?_, ?_⟩
    · refine isRecorded_iff.2 ⟨e, db.paymentEvents.size, ?_, hprovider, hid⟩
      show db'.paymentEvents.get? _ = _
      rw [hevents]
      exact get?_insert_self _ _
    · intro d' h
      obtain ⟨e', id, he', hprovider', hid'⟩ := isRecorded_iff.1 h
      rw [show (db', webhookResult d.event result).1 = db' from rfl, hevents] at he'
      rcases get?_insert_cases he' with ⟨-, rfl⟩ | hold
      · exact .inr ⟨hprovider'.symm.trans hprovider, hid'.symm.trans hid⟩
      · exact .inl (isRecorded_iff.2 ⟨e', id, hold, hprovider', hid'⟩)

/-! ## What a success does -/

/-- Nothing in the outbox is about the payment, or about an event that is not stored yet. -/
structure Unannounced (db : Database) (paymentId : RowId) : Prop where
  received : db.hasOutboxKey (.emailPaymentReceived paymentId) = false
  renewal : db.hasOutboxKey (.renewalPayment paymentId) = false
  webhook : ∀ id, db.paymentEvents.size ≤ id → db.hasOutboxKey (.paymentWebhook id) = false

theorem exists_markInvoiceOrderPaid (invoice : Invoice) (now : ℕ) (db : Database) :
    ∃ db', PaymentService.markInvoiceOrderPaid invoice now db = .ok db' := by
  rw [PaymentService.markInvoiceOrderPaid]
  split
  · rename_i orderId _
    rw [PaymentService.markOrderPaid, Database.updateOrderWhile]
    split
    · rename_i order horder
      split
      · rw [Database.updateOrder, horder]
        simp only [orThrow, Database.domainOrderGuard, bind, Except.bind]
        rw [require_true _ (by rintro ⟨⟩), require_true _ (by rintro ⟨⟩),
          require_true _ (by rintro (h | h | h) <;> cases h)]
        exact ⟨_, rfl⟩
      · exact ⟨_, rfl⟩
    · exact ⟨_, rfl⟩
  · exact ⟨_, rfl⟩

theorem hasOutboxKey_insert (db : Database) (row : OutboxEvent) (key : OutboxKey) :
    ({ db with outboxEvents := db.outboxEvents.insert row } : Database).hasOutboxKey key = false ↔
      db.hasOutboxKey key = false ∧ row.idempotencyKey ≠ key := by
  simp only [Database.hasOutboxKey, any_eq_false, decide_eq_false_iff_not]
  constructor
  · intro h
    exact ⟨fun id e he => h id e (get?_insert_of_some he),
      h _ row (get?_insert_self _ _)⟩
  · rintro ⟨h, hrow⟩ id e he
    rcases get?_insert_cases he with ⟨-, rfl⟩ | he
    · exact hrow
    · exact h id e he

theorem exists_announceSettlement
    (hreceived : db.hasOutboxKey (.emailPaymentReceived event.paymentId) = false)
    (hrenewal : db.hasOutboxKey (.renewalPayment event.paymentId) = false) :
    ∃ db', announceSettlement event invoice db = .ok db' := by
  have hcreate : db.createOutboxEvent
      (PaymentService.paymentReceivedEvent event.paymentId event.invoiceId) = .ok _ :=
    db.createOutboxEvent_eq_ok.2 ⟨hreceived, rfl⟩
  rw [announceSettlement, hcreate]
  simp only [bind, Except.bind]
  split
  · exact ⟨_, (Database.createOutboxEvent_eq_ok _).2
      ⟨(hasOutboxKey_insert _ _ _).2 ⟨hrenewal, by rintro ⟨⟩⟩, rfl⟩⟩
  · exact ⟨_, rfl⟩

theorem exists_completeEventAndOutbox
    (hreceived : db.hasOutboxKey (.emailPaymentReceived event.paymentId) = false)
    (hrenewal : db.hasOutboxKey (.renewalPayment event.paymentId) = false)
    (hwebhook : db.hasOutboxKey (.paymentWebhook eventId) = false) :
    ∃ db', completeEventAndOutbox gateway event invoice eventId true now db = .ok db' := by
  have hcreate : (updatePaymentEvent db eventId (processedEvent now)).createOutboxEvent
      (gatewayPaymentEvent gateway event eventId true) = .ok _ :=
    (Database.createOutboxEvent_eq_ok _).2 ⟨hwebhook, rfl⟩
  rw [completeEventAndOutbox]
  simp only [hcreate, bind, Except.bind, if_true]
  exact exists_announceSettlement
    ((hasOutboxKey_insert _ _ _).2 ⟨hreceived, by rintro ⟨⟩⟩)
    ((hasOutboxKey_insert _ _ _).2 ⟨hrenewal, by rintro ⟨⟩⟩)

theorem exists_applySucceeded (hprovider : payment.provider = gateway.key)
    (hfree : transactionTaken db gateway transactionId event.paymentId = false)
    (hreceived : db.hasOutboxKey (.emailPaymentReceived event.paymentId) = false)
    (hrenewal : db.hasOutboxKey (.renewalPayment event.paymentId) = false)
    (hwebhook : db.hasOutboxKey (.paymentWebhook eventId) = false) :
    ∃ db', applySucceeded gateway event invoice payment transactionId eventId now db =
      .ok db' := by
  have hrequire : db.requireFreeTransaction event.paymentId payment.provider transactionId =
      .ok () := by
    rw [Database.requireFreeTransaction, hprovider]
    exact require_true _ hfree
  obtain ⟨db₂, hpaid⟩ := exists_markInvoiceOrderPaid invoice now
    ((db.updatePayment event.paymentId (settledPayment event transactionId now)).updateInvoice
      event.invoiceId (settleInvoiceData invoice payment.amount now))
  have hsettle : settleInvoice event.invoiceId invoice payment.amount now
      (db.updatePayment event.paymentId (settledPayment event transactionId now)) = .ok db₂ := hpaid
  rw [applySucceeded, hrequire]
  simp only [bind, Except.bind, hsettle]
  obtain ⟨orders, -, rfl⟩ := settleInvoice_eq_ok hsettle
  exact exists_completeEventAndOutbox hreceived hrenewal hwebhook

theorem exists_processTransaction_succeeded (hstatus : event.status = .succeeded)
    (hmerchant : event.merchantId = gateway.merchantId)
    (hinvoice : db.invoices.get? event.invoiceId = some invoice)
    (hpayment : db.payments.get? event.paymentId = some payment)
    (hvalid : Validated db gateway event invoice payment)
    (htransaction : event.providerTransactionId = some transactionId)
    (hunannounced : Unannounced db event.paymentId)
    (hfresh : ∀ id e, db.paymentEvents.get? id = some e → e.provider = gateway.key →
      e.providerEventId ≠ event.providerEventId) :
    ∃ db', processTransaction gateway event payloadHash now db = .ok (db', .processed) := by
  let db₁ : Database := { db with
    paymentEvents := db.paymentEvents.insert (receivedEvent gateway event payloadHash) }
  have hcreate : db.createPaymentEvent (receivedEvent gateway event payloadHash) =
      .ok (db₁, db.paymentEvents.size) := db.createPaymentEvent_eq_ok.2 ⟨hfresh, rfl⟩
  have hvalid₁ : Validated db₁ gateway event invoice payment :=
    ⟨hvalid.invoiceId, hvalid.provider, hvalid.kind, hvalid.amount, hvalid.paymentCurrency,
      hvalid.invoiceCurrency, hvalid.transactionFree, hvalid.pending, hvalid.payable, hvalid.balance⟩
  have happlied : ∃ db₂, applySucceeded gateway event invoice payment transactionId
      db.paymentEvents.size now (updatePaymentEvent db₁ db.paymentEvents.size
        (linkedEvent event.paymentId)) = .ok db₂ :=
    exists_applySucceeded hvalid.provider (hvalid.transactionFree transactionId htransaction)
      hunannounced.received hunannounced.renewal (hunannounced.webhook _ (Nat.le_refl _))
  obtain ⟨db₂, happly⟩ := happlied
  refine ⟨db₂, ?_⟩
  simp only [processTransaction, hcreate, bind, Except.bind]
  rw [if_neg (not_not.2 hmerchant), show db₁.invoices.get? event.invoiceId = some invoice from hinvoice,
    show db₁.payments.get? event.paymentId = some payment from hpayment]
  simp only [validateEvent_eq_none.2 hvalid₁, applyEvent, hstatus, bind, Except.bind,
    PaymentGateway.extractProviderTransactionId, htransaction, happly]
  rfl

/-! ## Observations of one payment -/

/-- A payment, as its observations name it. -/
structure ObservedPayment where
  gateway : PaymentGateway
  paymentId : RowId
  invoiceId : RowId
  session : String

/-- What a provider says about a payment, and on which way it is heard. -/
inductive Observation
  | notification (event : NormalizedPaymentEvent) (rawBody : String)
  | ipn (verified : SslCommerzPaymentGateway.VerifiedIpn) (rawBody : String)
  | callback (status : GatewayTransactionStatus)
  | reconciliation (status : GatewayTransactionStatus)

section

variable (rt : Runtime) (p : ObservedPayment)

def Observation.delivery : Observation → Except Failure Delivery
  | .notification event rawBody => .ok ⟨p.gateway, event, rt.sha256 rawBody⟩
  | .ipn verified rawBody => do
    let event ← SslCommerzPaymentGateway.normalizeProviderEvent rt verified
    return ⟨p.gateway, event, rt.sha256 rawBody⟩
  | .callback status => do
    let event ← BkashPaymentGateway.statusToEvent rt status p.session p.paymentId p.invoiceId
    return ⟨p.gateway, event, eventPayloadHash rt event⟩
  | .reconciliation status => do
    let event ← reconciliationEvent rt p.gateway p.paymentId p.invoiceId status
    return ⟨p.gateway, event, eventPayloadHash rt event⟩

theorem gateway_of_delivery {o : Observation} (h : o.delivery rt p = .ok d) :
    d.gateway = p.gateway := by
  cases o with
  | notification => rw [Observation.delivery, Except.ok.injEq] at h; rw [← h]
  | ipn | callback | reconciliation =>
    simp only [Observation.delivery, eq_ok] at h
    obtain ⟨_, _, rfl⟩ := h
    rfl

/-- One observation: its adapter, and the delivery. -/
def observe (w : World) (db : Database) (o : Observation) :
    Database × Except Failure PaymentWebhookResult :=
  match o.delivery rt p with
  | .ok d => deliver w db d
  | .error e => (db, .error e)

def observeAll (db : Database) (os : List (World × Observation)) : Database :=
  os.foldl (fun db o => (observe rt p o.1 db o.2).1) db

/-- One of the observations is under the same event identifier. -/
def SharesIdentifier (os : List (World × Observation)) (d : Delivery) : Prop :=
  ∃ o ∈ os, ∃ d', o.2.delivery rt p = .ok d' ∧ d'.event.providerEventId = d.event.providerEventId

theorem observeAll_pending {os : List (World × Observation)}
    (hpending : ∀ o ∈ os, ∀ d, o.2.delivery rt p = .ok d → d.event.status = .pending)
    (hd : d.gateway = p.gateway) :
    Noted db (observeAll rt p db os) ∧
      (isRecorded (observeAll rt p db os) d = true ↔
        isRecorded db d = true ∨ SharesIdentifier rt p os d) := by
  induction os generalizing db with
  | nil =>
    refine ⟨Noted.refl db, .inl, ?_⟩
    rintro (h | ⟨o, ho, -⟩)
    · exact h
    · exact absurd ho (by simp)
  | cons o os ih =>
    obtain ⟨hnoted, hrecorded⟩ := @ih (observe rt p o.1 db o.2).1 fun o' ho' =>
      hpending o' (List.mem_cons_of_mem _ ho')
    have hcons : observeAll rt p db (o :: os) =
        observeAll rt p (observe rt p o.1 db o.2).1 os := rfl
    rw [hcons, hrecorded]
    cases hdelivery : o.2.delivery rt p with
    | error e =>
      have hsame : (observe rt p o.1 db o.2).1 = db := by rw [observe, hdelivery]
      rw [hsame] at hnoted ⊢
      refine ⟨hnoted, or_congr_right ?_⟩
      constructor
      · rintro ⟨o', ho', h⟩
        exact ⟨o', List.mem_cons_of_mem _ ho', h⟩
      · rintro ⟨o', ho', d', hd', hid⟩
        rcases List.mem_cons.1 ho' with rfl | ho'
        · rw [hdelivery] at hd'
          exact nomatch hd'
        · exact ⟨o', ho', d', hd', hid⟩
    | ok d₀ =>
      have hdeliver : (observe rt p o.1 db o.2).1 = (deliver o.1 db d₀).1 := by
        rw [observe, hdelivery]
      have hgateway := gateway_of_delivery rt p hdelivery
      obtain ⟨hnoted₀, hself, hothers⟩ := @deliver_pending db d₀ o.1
        (hpending o List.mem_cons_self d₀ hdelivery)
      rw [hdeliver] at hnoted ⊢
      refine ⟨hnoted₀.trans hnoted, ?_⟩
      constructor
      · rintro (h | ⟨o', ho', h⟩)
        · rcases hothers d h with h | ⟨-, hid⟩
          · exact .inl h
          · exact .inr ⟨o, List.mem_cons_self, d₀, hdelivery, hid.symm⟩
        · exact .inr ⟨o', List.mem_cons_of_mem _ ho', h⟩
      · rintro (h | ⟨o', ho', d', hd', hid⟩)
        · obtain ⟨e, id, he, hkey⟩ := isRecorded_iff.1 h
          obtain ⟨e', he', rfl⟩ := hnoted₀.events id e he
          exact .inl (isRecorded_iff.2 ⟨e, id, he', hkey⟩)
        · rcases List.mem_cons.1 ho' with rfl | ho'
          · rw [hdelivery, Except.ok.injEq] at hd'
            subst hd'
            obtain ⟨e, id, he, hprovider, heid⟩ := isRecorded_iff.1 hself
            exact .inl (isRecorded_iff.2 ⟨e, id, he, by rw [hprovider, hgateway, hd],
              heid.trans hid⟩)
          · exact .inr ⟨o', ho', d', hd', hid⟩

/-! ## When a success settles the payment -/

/-- The payment is open: pending, on a payable invoice that has exactly its amount open, and
nothing about it was announced. -/
structure Open (db : Database) (payment : Payment) (invoice : Invoice) : Prop where
  paymentRow : db.payments.get? p.paymentId = some payment
  invoiceRow : db.invoices.get? p.invoiceId = some invoice
  invoiceId : payment.invoiceId = p.invoiceId
  provider : payment.provider = p.gateway.key
  kind : payment.kind = .charge
  pending : payment.status = .pending
  currency : invoice.currency = payment.currency
  payable : invoice.payable
  balance : invoice.balanceDue = payment.amount
  unannounced : Unannounced db p.paymentId

/-- The delivery reports that this payment succeeded. -/
structure ReportsSuccess (db : Database) (payment : Payment) (d : Delivery) : Prop where
  status : d.event.status = .succeeded
  merchantId : d.event.merchantId = p.gateway.merchantId
  paymentId : d.event.paymentId = p.paymentId
  invoiceId : d.event.invoiceId = p.invoiceId
  amount : d.event.amount = payment.amount
  currency : d.event.currency = payment.currency
  transaction : ∃ transactionId, d.event.providerTransactionId = some transactionId ∧
    transactionTaken db p.gateway transactionId p.paymentId = false

/-- The delivery settles the payment and its invoice. -/
structure SettledBy (payment : Payment) (invoice : Invoice) (d : Delivery)
    (out : Database × Except Failure PaymentWebhookResult) : Prop where
  result : out.2 = .ok ⟨false, d.event.providerEventId, true⟩
  paymentStatus : (out.1.payments.get? p.paymentId).map Payment.status = some .succeeded
  invoiceFigures : (out.1.invoices.get? p.invoiceId).map
    (fun row => (row.status, row.balanceDue, row.amountPaid)) =
      some (.paid, 0, invoice.amountPaid + payment.amount)

theorem settledBy_deliver (hopen : Open p db payment invoice)
    (hreports : ReportsSuccess p db payment d) (hd : d.gateway = p.gateway)
    (hfresh : isRecorded db d = false) :
    SettledBy p payment invoice d (deliver w db d) := by
  obtain ⟨transactionId, htransaction, hfree⟩ := hreports.transaction
  have hinvoice : db.invoices.get? d.event.invoiceId = some invoice := by
    rw [hreports.invoiceId, hopen.invoiceRow]
  have hpayment : db.payments.get? d.event.paymentId = some payment := by
    rw [hreports.paymentId, hopen.paymentRow]
  have hvalid : Validated db d.gateway d.event invoice payment := by
    refine ⟨hopen.invoiceId.trans hreports.invoiceId.symm, by rw [hd, hopen.provider], hopen.kind,
      hreports.amount.symm, hreports.currency.symm,
      hopen.currency.trans hreports.currency.symm, ?_, hopen.pending, fun _ => hopen.payable,
      fun _ => hopen.balance⟩
    intro id hid
    rw [htransaction, Option.mem_def, Option.some.injEq] at hid
    rw [← hid, hd, hreports.paymentId]
    exact hfree
  have hcommits : ∃ db',
      processTransaction d.gateway d.event d.payloadHash w.now db = .ok (db', .processed) :=
    exists_processTransaction_succeeded hreports.status (by rw [hd, hreports.merchantId]) hinvoice
      hpayment hvalid htransaction (by rw [hreports.paymentId]; exact hopen.unannounced)
      (not_isRecorded_iff.1 hfresh)
  obtain ⟨db', hok⟩ := hcommits
  rw [deliver_of_ok hfresh hok]
  cases (processTransaction_eq_ok hok).2 with
  | failed _ _ hstatus => exact nomatch hreports.status.symm.trans hstatus
  | settled invoice' payment' transactionId' orders hstatus hinvoice' hpayment' =>
    rw [hinvoice, Option.some.injEq] at hinvoice'
    rw [hpayment, Option.some.injEq] at hpayment'
    subst hinvoice' hpayment'
    refine ⟨rfl, ?_, ?_⟩
    · show (Table.get? (db.payments.update _ _) _).map _ = _
      rw [← hreports.paymentId, get?_update_self hpayment]
      rfl
    · show (Table.get? (db.invoices.update _ _) _).map _ = _
      rw [← hreports.invoiceId, get?_update_self hinvoice]
      simp [settleInvoiceData, hopen.balance]

theorem Open.noted (h : Open p db payment invoice) (hnoted : Noted db db') :
    ∃ payment', Open p db' payment' invoice ∧ payment'.amount = payment.amount ∧
      payment'.currency = payment.currency := by
  obtain ⟨payment', hpayment', hsame⟩ := hnoted.payments _ _ h.paymentRow
  refine ⟨payment', ⟨hpayment', by rw [hnoted.invoices, h.invoiceRow], ?_, ?_, ?_, ?_, ?_,
    h.payable, ?_, ?_⟩, ?_, ?_⟩
  · rw [hsame]; exact h.invoiceId
  · rw [hsame]; exact h.provider
  · rw [hsame]; exact h.kind
  · rw [hsame]; exact h.pending
  · rw [hsame]; exact h.currency
  · rw [hsame]; exact h.balance
  · have hkeys : ∀ key, db'.hasOutboxKey key = db.hasOutboxKey key := by
      intro key
      rw [Database.hasOutboxKey, Database.hasOutboxKey, hnoted.outboxEvents]
    have hsize := Table.Grows.size_le hnoted.events
    exact ⟨by rw [hkeys, h.unannounced.received], by rw [hkeys, h.unannounced.renewal],
      fun id hid => by rw [hkeys, h.unannounced.webhook id (Nat.le_trans hsize hid)]⟩
  · rw [hsame]
  · rw [hsame]

/-- **When a success settles the payment**: after any sequence of pending observations, an
observation that reports success is accepted and settles the payment and its invoice if and only if
no event with its identifier was stored before, and none of the pending observations has it. -/
theorem observation_settles_iff {db : Database} {payment : Payment} {invoice : Invoice}
    (hopen : Open p db payment invoice) {os : List (World × Observation)}
    (hpending : ∀ o ∈ os, ∀ d, o.2.delivery rt p = .ok d → d.event.status = .pending) {w : World}
    {o : Observation} {d : Delivery} (hd : o.delivery rt p = .ok d)
    (hreports : ReportsSuccess p db payment d) :
    SettledBy p payment invoice d (observe rt p w (observeAll rt p db os) o) ↔
      isRecorded db d = false ∧ ¬ SharesIdentifier rt p os d := by
  have hgateway := gateway_of_delivery rt p hd
  obtain ⟨hnoted, hrecorded⟩ := observeAll_pending rt p hpending hgateway
  obtain ⟨payment', hopen', hamount, hcurrency⟩ := hopen.noted p hnoted
  have hobserve : observe rt p w (observeAll rt p db os) o =
      deliver w (observeAll rt p db os) d := by rw [observe, hd]
  rw [hobserve, ← Bool.not_eq_true, ← not_or, ← hrecorded, Bool.not_eq_true]
  constructor
  · intro hsettled
    rw [← Bool.not_eq_true]
    intro hstored
    obtain ⟨e, hdeliver⟩ := deliver_of_isRecorded (w := w) hstored
    have hstatus := hsettled.paymentStatus
    rw [hdeliver, hopen'.paymentRow, Option.map_some, hopen'.pending] at hstatus
    exact nomatch hstatus
  · intro hfresh
    obtain ⟨transactionId, htransaction, hfree⟩ := hreports.transaction
    have hsettled := settledBy_deliver p (w := w) hopen' ⟨hreports.status, hreports.merchantId,
      hreports.paymentId, hreports.invoiceId, by rw [hreports.amount, hamount],
      by rw [hreports.currency, hcurrency],
      transactionId, htransaction, hnoted.transactionTaken hfree⟩ hgateway hfresh
    exact ⟨hsettled.result, hsettled.paymentStatus, by rw [hsettled.invoiceFigures, hamount]⟩

end

/-! ### Identifiers that repeat -/

def sslCommerzSession : ObservedPayment := ⟨.sslcommerz, 0, 0, "T-1"⟩

def queriedStatus (status : GatewayStatus) : GatewayTransactionStatus where
  providerTransactionId := some "T-1"
  status := status
  amount := 100
  currency := "BDT"
  occurredAt := 5
  failureReason := none

def reconciledEvent (status : GatewayStatus) : NormalizedPaymentEvent :=
  (queriedStatus status).toEvent .sslcommerz "reconciliation:sslcommerz:0:T-1" 0 0

def reconciliationDate (_ : ℕ) : String := "1970-01-01T00:00:00.005Z"

def contentHash (text : String) : String :=
  if text = normalizedPayload (.onPlainText (fun _ => "") reconciliationDate)
      (reconciledEvent .pending) then
    "abb34b758f0db41647057d08d45a7ac50c594068056bb2eb344b5668c7318f94"
  else "bbe29b4397bf828bea0dd147f4a111be6f4996557ea6f83b6a52a57c86090287"

def reconciliationRuntime : Runtime := .onPlainText contentHash reconciliationDate

def reconciledHash (status : GatewayStatus) : String :=
  eventPayloadHash reconciliationRuntime (reconciledEvent status)

def reconciledDelivery (status : GatewayStatus) : Delivery :=
  ⟨.sslcommerz, reconciledEvent status, reconciledHash status⟩

def waitingPayment : Payment where
  invoiceId := 0
  createdByUserId := some 0
  provider := "sslcommerz"
  idempotencyKey := "gateway-session:sslcommerz:s-1"
  amount := 100
  currency := "BDT"
  reference := some "T-1"

def waitingInvoice : Invoice where
  submissionKey := "order"
  customerId := 0
  status := .unpaid
  currency := "BDT"
  subtotal := 100
  total := 100
  balanceDue := 100
  dueAt := 5
  updatedAt := 0
  items := []

theorem open_openSession : Open sslCommerzSession (openSession .sslcommerz "T-1") waitingPayment
    waitingInvoice where
  paymentRow := rfl
  invoiceRow := rfl
  invoiceId := rfl
  provider := rfl
  kind := rfl
  pending := rfl
  currency := rfl
  payable := Or.inl rfl
  balance := rfl
  unannounced := ⟨rfl, rfl, fun _ _ => rfl⟩

theorem reportsSuccess_reconciledDelivery : ReportsSuccess sslCommerzSession
    (openSession .sslcommerz "T-1") waitingPayment (reconciledDelivery .succeeded) where
  status := rfl
  merchantId := rfl
  paymentId := rfl
  invoiceId := rfl
  amount := rfl
  currency := rfl
  transaction := ⟨"T-1", rfl, rfl⟩

theorem accepted_reconciledEvent (status : GatewayStatus) : (reconciledEvent status).Accepted where
  providerEventId := by
    show NormalizedPaymentEvent.lengthWithin "reconciliation:sslcommerz:0:T-1" 191
    decide
  eventType := by
    show NormalizedPaymentEvent.lengthWithin status.eventType 100
    cases status <;> decide
  merchantId := by
    show NormalizedPaymentEvent.lengthWithin "sslcommerz-sandbox" 191
    decide
  amount := by
    show (0 : ℤ) < 100
    decide
  currency := by
    show NormalizedPaymentEvent.isCurrencyCode "BDT"
    decide
  providerTransactionId := by
    intro id hid
    obtain rfl : "T-1" = id := Option.some.inj hid
    decide
  failureReason _ h := nomatch h

theorem delivery_queriedStatus {status : GatewayStatus} (h : status ≠ .refunded) :
    (Observation.reconciliation (queriedStatus status)).delivery reconciliationRuntime
      sslCommerzSession = .ok (reconciledDelivery status) := by
  have hparse : (reconciledEvent status).parse reconciliationRuntime =
      .ok (reconciledEvent status) := by
    rw [NormalizedPaymentEvent.parse, require_true]
    · rfl
    · exact accepted_reconciledEvent status
  have hid : reconciliationEventId .sslcommerz 0 (queriedStatus status) =
      "reconciliation:sslcommerz:0:T-1" := rfl
  have hrefund : (queriedStatus status).status ≠ .refunded := h
  have hevent : reconciliationEvent reconciliationRuntime .sslcommerz 0 0 (queriedStatus status) =
      .ok (reconciledEvent status) := by
    rw [reconciliationEvent, require_true _ hrefund, hid]
    exact hparse
  rw [Observation.delivery, sslCommerzSession, hevent]
  rfl

theorem answer_of_hashes (first second : String) (h : first ≠ second) :
    (deliver {} (deliver {} (openSession .sslcommerz "T-1")
      ⟨.sslcommerz, reconciledEvent .pending, first⟩).1
      ⟨.sslcommerz, reconciledEvent .succeeded, second⟩).2 =
      .error (webhookRejected "Provider event identifier was reused with different content.") := by
  show (if first ≠ second then _ else _) = _
  rw [if_pos h]

theorem pending_after_both (first second : String) :
    ((deliver {} (deliver {} (openSession .sslcommerz "T-1")
      ⟨.sslcommerz, reconciledEvent .pending, first⟩).1
      ⟨.sslcommerz, reconciledEvent .succeeded, second⟩).1.payments.get? 0).map Payment.status =
      some .pending := rfl

def secondReconciliation : Database × Except Failure PaymentWebhookResult :=
  observe reconciliationRuntime sslCommerzSession {}
    (observeAll reconciliationRuntime sslCommerzSession (openSession .sslcommerz "T-1")
      [({}, .reconciliation (queriedStatus .pending))])
    (.reconciliation (queriedStatus .succeeded))

theorem secondReconciliation_eq : secondReconciliation =
    deliver {} (deliver {} (openSession .sslcommerz "T-1") (reconciledDelivery .pending)).1
      (reconciledDelivery .succeeded) := by
  have hfirst : (Observation.reconciliation (queriedStatus .pending)).delivery
      reconciliationRuntime sslCommerzSession = .ok (reconciledDelivery .pending) :=
    delivery_queriedStatus (by decide)
  have hsecond : (Observation.reconciliation (queriedStatus .succeeded)).delivery
      reconciliationRuntime sslCommerzSession = .ok (reconciledDelivery .succeeded) :=
    delivery_queriedStatus (by decide)
  rw [secondReconciliation, observeAll, List.foldl_cons, List.foldl_nil, observe, observe, hfirst,
    hsecond]

theorem reconciliation_blocks_settlement :
    Open sslCommerzSession (openSession .sslcommerz "T-1") waitingPayment waitingInvoice ∧
      (Observation.reconciliation (queriedStatus .pending)).delivery reconciliationRuntime
        sslCommerzSession = .ok (reconciledDelivery .pending) ∧
      (reconciledDelivery .pending).event.status = .pending ∧
      (Observation.reconciliation (queriedStatus .succeeded)).delivery reconciliationRuntime
        sslCommerzSession = .ok (reconciledDelivery .succeeded) ∧
      ReportsSuccess sslCommerzSession (openSession .sslcommerz "T-1") waitingPayment
        (reconciledDelivery .succeeded) ∧
      (reconciledHash .pending ≠ reconciledHash .succeeded →
        secondReconciliation.2 = .error
          (webhookRejected "Provider event identifier was reused with different content.")) ∧
      ¬ SettledBy sslCommerzSession waitingPayment waitingInvoice (reconciledDelivery .succeeded)
        secondReconciliation := by
  refine ⟨open_openSession, delivery_queriedStatus (by decide), rfl,
    delivery_queriedStatus (by decide), reportsSuccess_reconciledDelivery, ?_, ?_⟩
  · intro hhash
    rw [secondReconciliation_eq]
    exact answer_of_hashes (reconciledHash .pending) (reconciledHash .succeeded) hhash
  · intro h
    have hstatus := h.paymentStatus
    have hpending := pending_after_both (reconciledHash .pending) (reconciledHash .succeeded)
    rw [secondReconciliation_eq] at hstatus
    exact absurd (hstatus.symm.trans hpending) (by decide)

def pendingNotification : Observation :=
  .notification { reconciledEvent .pending with providerEventId := "ipn-1" } "val_id=ipn-1"

theorem delivery_pendingNotification {d : Delivery}
    (h : pendingNotification.delivery reconciliationRuntime sslCommerzSession = .ok d) :
    d.event.status = .pending ∧ d.event.providerEventId = "ipn-1" := by
  rw [pendingNotification, Observation.delivery, Except.ok.injEq] at h
  rw [← h]
  exact ⟨rfl, rfl⟩

theorem settles_after_notification : SettledBy sslCommerzSession waitingPayment waitingInvoice
    (reconciledDelivery .succeeded)
    (observe reconciliationRuntime sslCommerzSession {}
      (observeAll reconciliationRuntime sslCommerzSession (openSession .sslcommerz "T-1")
        [({}, pendingNotification)])
      (.reconciliation (queriedStatus .succeeded))) := by
  refine (observation_settles_iff reconciliationRuntime sslCommerzSession open_openSession ?_
    (delivery_queriedStatus (by decide)) reportsSuccess_reconciledDelivery).2 ⟨rfl, ?_⟩
  · intro o ho d hd
    rw [List.mem_singleton] at ho
    subst ho
    exact (delivery_pendingNotification hd).1
  · rintro ⟨o, ho, d, hd, hid⟩
    rw [List.mem_singleton] at ho
    subst ho
    rw [(delivery_pendingNotification hd).2] at hid
    exact absurd hid (by decide)

end PaymentGatewayService

end WebhostBilling
