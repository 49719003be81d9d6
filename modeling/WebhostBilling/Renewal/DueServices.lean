import WebhostBilling.Renewal.RenewalChain
import WebhostBilling.Renewal.RenewalCycle
import WebhostBilling.Store.Queries

/-!
# The services that a cycle bills

The invoice of a period has a key made of the service and the period's start.  An invoice that an
administrator cancels, or whose payment is refunded, keeps its lines and its key, so the next cycle
finds the period billed and leaves it at that.  A bill that fails on a unique key is no failure, and
the key is that of an invoice with the line.
-/

namespace WebhostBilling

open PaymentService

open Store Store.Table Concurrency Config RenewalProcessorService RenewalCalendar InvoiceService

/-! ## The family -/

inductive CycleOperation
  | billing (op : BillingOperation)
  | processCycle

section

variable (lib : Libraries)

def cycleOperations : CycleOperation → Operation Database World
  | .billing op => billingOperations lib op
  | .processCycle => processCycle lib.runtime lib.businessDay

end

/-- The operations that settle, cancel, refund and reverse invoices, and those that carry a
settlement on to the services. -/
def settlesInvoices : BillingOperation → Prop
  | .ledger .submitManual | .ledger .recordManual | .ledger .review | .ledger .adjust
  | .ledger .processNormalizedEvent | .ledger .applyAction | .processPayment | .dispatchOutbox => True
  | _ => False

def renewsServices : CycleOperation → Prop
  | .billing op => settlesInvoices op
  | .processCycle => True

instance : DecidablePred settlesInvoices := fun op => by
  unfold settlesInvoices
  split <;> infer_instance

instance : DecidablePred renewsServices := fun op => by
  unfold renewsServices
  split <;> infer_instance

/-! ## What a step writes -/

/-- Every event keeps its key, and a new e-mail about an invoice is about one of the first `size`. -/
def EventsAbout (size : ℕ) (events events' : Table OutboxEvent) : Prop :=
  ∀ id event', events'.get? id = some event' →
    (∃ event, events.get? id = some event ∧ event'.idempotencyKey = event.idempotencyKey) ∨
      ∀ invoiceId, event'.idempotencyKey = .emailInvoiceCreated invoiceId → invoiceId < size

namespace EventsAbout

variable {size : ℕ} {events events' : Table OutboxEvent}

theorem keeps (h : Table.Keeps OutboxEvent.idempotencyKey events events') :
    EventsAbout size events events' := fun id event' hevent' => .inl (h id event' hevent')

theorem refl (events : Table OutboxEvent) : EventsAbout size events events :=
  keeps (Keeps.refl _ _)

theorem insertAll {rows : List OutboxEvent} (h : ∀ row ∈ rows, ∀ invoiceId,
    row.idempotencyKey = .emailInvoiceCreated invoiceId → invoiceId < size) :
    EventsAbout size events (events.insertAll rows) := by
  intro id event' hevent'
  rcases get?_insertAll_cases hevent' with ⟨-, hmem⟩ | hold
  · exact .inr (h event' hmem)
  · exact .inl ⟨event', hold, rfl⟩

theorem insert {row : OutboxEvent} (h : ∀ invoiceId,
    row.idempotencyKey = .emailInvoiceCreated invoiceId → invoiceId < size) :
    EventsAbout size events (events.insert row) := by
  exact insertAll fun r hr => by rwa [List.mem_singleton.1 hr]

theorem skippingDuplicates {db : Database} {row : OutboxEvent} (h : ∀ invoiceId,
    row.idempotencyKey = .emailInvoiceCreated invoiceId → invoiceId < size) :
    EventsAbout size db.outboxEvents
    (db.createOutboxEventSkippingDuplicates row).1.outboxEvents := by
  rw [Database.createOutboxEventSkippingDuplicates]
  split
  · exact refl _
  · exact insert h

theorem trans {events'' : Table OutboxEvent} (h : EventsAbout size events events')
    (h' : EventsAbout size events' events'') : EventsAbout size events events'' := by
  intro id event'' hevent''
  rcases h' id event'' hevent'' with ⟨event', hevent', hkey'⟩ | hnew
  · rw [hkey']
    exact h id event' hevent'
  · exact .inr hnew

end EventsAbout

/-- The invoice can be paid, or was. -/
def Invoice.collected (invoice : Invoice) : Prop :=
  invoice.status = .unpaid ∨ invoice.status = .overdue ∨ invoice.status = .paid
deriving Decidable

/-- **What one step can write to the tables that renewals depend on**, when it cancels or adjusts the
invoices of `touched` at most. -/
inductive RenewalEffect (rt : Runtime) (w : World) (db : Database) (touched : List RowId) :
    Database → Prop
  | quiet {db' : Database} (hinvoices : db'.invoices = db.invoices)
      (hservices : db'.services = db.services) (hcustomers : db'.customers = db.customers)
      (hrequests : db'.cancellationRequests = db.cancellationRequests)
      (hevents : EventsAbout db.invoices.size db.outboxEvents db'.outboxEvents) :
      RenewalEffect rt w db touched db'
  | moved {db' : Database} {invoiceId : RowId} {invoice : Invoice} {f : Invoice → Invoice}
      (hinvoice : db.invoices.get? invoiceId = some invoice)
      (hkey : (f invoice).submissionKey = invoice.submissionKey)
      (hitems : (f invoice).items = invoice.items)
      (hstatus : invoice.collected → (f invoice).collected ∨ invoiceId ∈ touched)
      (hinvoices : db'.invoices = db.invoices.update invoiceId f)
      (hservices : db'.services = db.services) (hcustomers : db'.customers = db.customers)
      (hrequests : db'.cancellationRequests = db.cancellationRequests)
      (hevents : EventsAbout db.invoices.size db.outboxEvents db'.outboxEvents) :
      RenewalEffect rt w db touched db'
  | applied {db' : Database} {items : List InvoiceItem} (hinvoices : db'.invoices = db.invoices)
      (hservices : db'.services = appliedServices w.now db.services items)
      (hcustomers : db'.customers = db.customers)
      (hrequests : db'.cancellationRequests = db.cancellationRequests)
      (hevents : EventsAbout db.invoices.size db.outboxEvents db'.outboxEvents) :
      RenewalEffect rt w db touched db'
  | billed {db' : Database} {request : RenewalRequest} {service : Service}
      (hservice : db.services.get? request.serviceId = some service)
      (hperiod : hostingBillingPeriod service.billingPeriod)
      (hunbilled : periodBilled db request.serviceId service.nextDueAt
        (addBillingPeriod service.nextDueAt service.billingPeriod) = false)
      (hinvoices : db'.invoices = db.invoices.insert (renewalInvoice rt request.serviceId service
        (renewingAddOns db service)
        (addBillingPeriod service.nextDueAt service.billingPeriod) request.now))
      (hservices : db'.services = billedServices request service db)
      (hcustomers : db'.customers = db.customers)
      (hrequests : db'.cancellationRequests = db.cancellationRequests)
      (hevents : EventsAbout db'.invoices.size db.outboxEvents db'.outboxEvents) :
      RenewalEffect rt w db touched db'

/-! ### The operations of billing -/

section

variable {lib : Libraries} {w : World} {db db' : Database}

theorem RenewalEffect.same (rt : Runtime) (touched : List RowId) :
    RenewalEffect rt w db touched db := .quiet rfl rfl rfl rfl (.refl _)

variable {invoiceId size : ℕ} {invoice : Invoice} {action : InvoiceAction}

theorem chargeEvents_key {paymentId : ℕ} {amount : ℤ} :
    ∀ row ∈ chargeEvents invoiceId invoice paymentId amount, ∀ i,
      row.idempotencyKey = .emailInvoiceCreated i → i < size := by
  intro row hrow i hkey
  simp only [chargeEvents, renewalEvents, List.mem_cons] at hrow
  rcases hrow with rfl | hrow
  · cases hkey
  · split at hrow
    · split at hrow
      · rw [List.mem_singleton] at hrow
        subst hrow
        cases hkey
      · cases hrow
    · cases hrow

theorem settlementEvents_key {gateway : PaymentGateway} {event : NormalizedPaymentEvent}
    {eventId : ℕ} :
    ∀ row ∈ PaymentGatewayService.settlementEvents gateway event invoice eventId, ∀ i,
      row.idempotencyKey = .emailInvoiceCreated i → i < size := by
  intro row hrow i hkey
  simp only [PaymentGatewayService.settlementEvents, renewalEvents,
    List.mem_cons] at hrow
  rcases hrow with rfl | rfl | hrow
  · cases hkey
  · cases hkey
  · split at hrow
    · rw [List.mem_singleton] at hrow
      subst hrow
      cases hkey
    · cases hrow

theorem dispatchStep_keys {s s' : Stores} {l l' : OutboxDispatcherService.DispatchState}
    (h : OutboxDispatcherService.dispatchStep w s l = some (s', l')) :
    Table.Keeps OutboxEvent.idempotencyKey s.postgres.outboxEvents s'.postgres.outboxEvents := by
  have hwrite : ∀ d id f, (∀ event : OutboxEvent, (f event).idempotencyKey = event.idempotencyKey) →
      Table.Keeps OutboxEvent.idempotencyKey s.postgres.outboxEvents
        (OutboxDispatcherService.writeEvent d w id f s).postgres.outboxEvents := by
    intro d id f hf
    rcases OutboxDispatcherService.deliver_cases w.databaseDelivery
      (OutboxDispatcherService.updateHeld id d.workerId f) s.postgres with hnone | hsome
    · rw [OutboxDispatcherService.writeEvent, hnone]
      exact Keeps.refl _ _
    · rw [OutboxDispatcherService.writeEvent, hsome]
      refine keeps_update fun event _ => ?_
      split
      · exact hf event
      · rfl
  cases l with
  | start d => cases h; exact Keeps.refl _ _
  | claim d lockCutoff => cases h; exact keeps_updateWhere fun _ _ _ _ => rfl
  | read d ids => cases h; exact Keeps.refl _ _
  | publish d events =>
    cases events with
    | nil => cases h; exact Keeps.refl _ _
    | cons event rest =>
      rw [OutboxDispatcherService.dispatchStep] at h
      split at h
      · cases h; exact hwrite d event.1 _ fun _ => rfl
      · cases h; exact Keeps.refl _ _
  | mark d event rest | fail d event rest => cases h; exact hwrite d event.1 _ fun _ => rfl
  | done => cases h

theorem applyItem_events (size invoiceId automationRunId now : ℕ) (out : Database × ℕ)
    (item : InvoiceItem) : EventsAbout size out.1.outboxEvents
      (applyItem invoiceId automationRunId now out item).1.outboxEvents := by
  unfold applyItem
  split
  · rename_i serviceId periodEnd _ _
    split
    · exact .refl _
    · rename_i service hservice
      have hadvance : (advanceService serviceId periodEnd now service out.1).1.outboxEvents =
          out.1.outboxEvents := by
        rw [advanceService]
        split <;> rfl
      simp only [← hadvance]
      rw [requestUnsuspension]
      split
      · exact .skippingDuplicates (by rintro _ ⟨⟩)
      · exact .refl _
  · exact .refl _

theorem applyItems_events (size invoiceId automationRunId now : ℕ) (items : List InvoiceItem)
    (db : Database) : EventsAbout size db.outboxEvents
      (applyItems invoiceId automationRunId items now db).1.outboxEvents := by
  have hfold : ∀ out : Database × ℕ, EventsAbout size out.1.outboxEvents
      (items.foldl (applyItem invoiceId automationRunId now) out).1.outboxEvents := by
    induction items with
    | nil => exact fun out => .refl _
    | cons item items ih => exact fun out => (applyItem_events size _ _ _ out item).trans (ih _)
  exact hfold (db, 0)

theorem announceAction_events (h : announceAction action invoiceId db = .ok db')
    (hsize : invoiceId < size) :
    EventsAbout size db.outboxEvents db'.outboxEvents := by
  cases action with
  | issue =>
    rw [((db.createOutboxEvent_eq_ok).1 h).2]
    refine .insert fun i hkey => ?_
    obtain rfl := OutboxKey.emailInvoiceCreated.inj hkey
    exact hsize
  | markOverdue =>
    rw [((db.createOutboxEvent_eq_ok).1 h).2]
    exact .insert fun i hkey => nomatch hkey
  | cancel =>
    rw [← Except.ok.inj h]
    exact .refl _

theorem applyActionTransaction_events {invoiceId : RowId} {current : Invoice} {next : InvoiceStatus}
    {decidedAt now : ℕ} {u : Unit}
    (h : applyActionTransaction invoiceId action current next decidedAt now db =
      .ok (db', u)) : EventsAbout db.invoices.size db.outboxEvents db'.outboxEvents := by
  simp only [applyActionTransaction, eq_ok] at h
  obtain ⟨invoice, hinvoice, -, db₁, horder, db₂, hevent, rfl, -⟩ := h
  obtain ⟨orders, -, rfl⟩ := cancelWaitingOrder_eq_ok horder
  have hevents := announceAction_events hevent (lt_size_of_get? hinvoice)
  exact hevents

end

/-! ## Invoices that are withdrawn -/

section

variable (lib : Libraries)

def withdrawnBy (w : World) (db : Database) :
    (op : CycleOperation) → (cycleOperations lib op).Local → List RowId
  | .billing (.ledger .applyAction), .transact invoiceId .cancel current next decidedAt =>
    if (applyActionTransaction invoiceId .cancel current next decidedAt w.now
      db).isOk then [invoiceId] else []
  | .billing (.ledger .adjust), .transact request invoiceId =>
    if (adjustTransaction lib.runtime request invoiceId w.now db).isOk then
      [invoiceId] else []
  | _, _ => []

/-- The invoices that a step cancels or takes a payment back from. -/
def withdrawn (w : World) (db : Database) (t : Thread (cycleOperations lib)) : List RowId :=
  withdrawnBy lib w db t.op t.loc

def actionAllowed : (op : CycleOperation) → (cycleOperations lib op).Local → Prop
  | .billing (.ledger .applyAction), .transact _ action current next _ =>
    ∃ now, nextInvoiceStatus action current.status current.dueAt
      current.balanceDue current.amountPaid now = .ok next
  | _, _ => True

end

/-! ## Every step is one of these writes -/

section

variable {lib : Libraries} {w : World} {db db' : Database}
variable {changed : Bool} {invoice : Invoice} {touched : List RowId} {rt : Runtime}

variable {invoiceId : RowId} {tx : Tx Bool} {request : RenewalRequest}

theorem RenewalEffect.collects {f : Invoice → Invoice}
    (hinvoice : db.invoices.get? invoiceId = some invoice)
    (hkey : (f invoice).submissionKey = invoice.submissionKey)
    (hitems : (f invoice).items = invoice.items)
    (hstatus : invoice.collected → (f invoice).collected)
    (hinvoices : db'.invoices = db.invoices.update invoiceId f)
    (hservices : db'.services = db.services) (hcustomers : db'.customers = db.customers)
    (hrequests : db'.cancellationRequests = db.cancellationRequests)
    (hevents : EventsAbout db.invoices.size db.outboxEvents db'.outboxEvents) :
    RenewalEffect rt w db touched db' :=
  .moved hinvoice hkey hitems (fun h => .inl (hstatus h)) hinvoices hservices hcustomers hrequests
    hevents

theorem collected_chargeInvoice (invoice : Invoice) (amount : ℤ) (now : ℕ)
    (h : invoice.collected) :
    (chargeInvoice invoice amount now invoice).collected := by
  rw [Invoice.collected, chargeInvoice]
  split
  · exact .inr (.inr rfl)
  · exact h

theorem renewalEffect_of_charge {paymentId : RowId} {amount : ℤ} {now : ℕ} {orders : Table Order}
    {payments : Table Payment} (hinvoice : db.invoices.get? invoiceId = some invoice)
    (hwrite : db' = { db with
      payments := payments
      invoices := db.invoices.update invoiceId (chargeInvoice invoice amount now)
      orders := orders
      outboxEvents := db.outboxEvents.insertAll
        (chargeEvents invoiceId invoice paymentId amount) }) :
    RenewalEffect rt w db touched db' := by
  subst hwrite
  exact .collects hinvoice rfl rfl (collected_chargeInvoice invoice amount now) rfl rfl rfl rfl
    (.insertAll chargeEvents_key)

theorem collected_actionData {action : InvoiceAction} {current : Invoice}
    {next : InvoiceStatus} {decidedAt now moment : ℕ} (hstatus : invoice.status = current.status)
    (hnext : nextInvoiceStatus action current.status current.dueAt current.balanceDue
      current.amountPaid moment = .ok next) (hcollected : invoice.collected) :
    (actionData action next decidedAt now invoice).collected ∨ action = .cancel := by
  cases action with
  | issue =>
    simp only [nextInvoiceStatus, eq_ok] at hnext
    rw [Invoice.collected, hstatus, hnext.1] at hcollected
    exact absurd hcollected (by decide)
  | markOverdue =>
    simp only [nextInvoiceStatus, eq_ok] at hnext
    exact .inl (.inr (.inl hnext.2.symm))
  | cancel => exact .inr rfl

theorem isOk_of_eq_ok {ε α : Type} {x : Except ε α} {a : α} (h : x = .ok a) : x.isOk = true := by
  rw [h]
  rfl

theorem renewalEffect_of_settlement (op : BillingOperation) (hop : settlesInvoices op)
    {l l' : (billingOperations lib op).Local}
    (hallowed : actionAllowed lib (.billing op) l)
    (h : (billingOperations lib op).step w db l = some (db', l')) :
    RenewalEffect lib.runtime w db (withdrawnBy lib w db (.billing op) l) db' := by
  cases op with
  | ledger op =>
    cases ledgerWrite_of_step op h with
    | same hsame =>
      subst hsame
      exact .same _ _
    | noted hwrite =>
      subst hwrite
      exact .quiet rfl rfl rfl rfl (.refl _)
    | charged hinvoice _ _ _ _ hwrite => exact renewalEffect_of_charge hinvoice hwrite
    | @adjusted request invoiceId _ _ _ hok hinvoice _ _ hwrite =>
      have hnoted : invoiceId ∈ withdrawnBy lib w db (.billing (.ledger .adjust))
          (AdjustState.transact request invoiceId) := by
        rw [withdrawnBy, if_pos (isOk_of_eq_ok hok)]
        exact List.mem_singleton_self _
      subst hwrite
      exact .moved hinvoice rfl rfl (fun _ => .inr hnoted) rfl rfl rfl rfl (.refl _)
    | delivered heffect =>
      cases heffect with
      | rejected | ignored => exact .quiet rfl rfl rfl rfl (.refl _)
      | failed => exact .quiet rfl rfl rfl rfl (.insert fun _ hkey => nomatch hkey)
      | settled invoice payment transactionId orders hstatus hinvoice =>
        exact .collects hinvoice rfl rfl (fun _ => .inr (.inr rfl)) rfl rfl rfl rfl
          (.insertAll settlementEvents_key)
    | @acted invoiceId action current next decidedAt _ hok =>
      have hevents := applyActionTransaction_events hok
      have hnoted : action = .cancel → invoiceId ∈ withdrawnBy lib w db
          (.billing (.ledger .applyAction))
          (ApplyActionState.transact invoiceId action current next decidedAt) := by
        rintro rfl
        rw [withdrawnBy, if_pos (isOk_of_eq_ok hok)]
        exact List.mem_singleton_self _
      obtain ⟨moment, hnext⟩ := hallowed
      obtain ⟨invoice, orders, events, hinvoice, hstatus, -, -, -, rfl⟩ :=
        applyActionTransaction_eq_ok hok
      exact .moved hinvoice rfl rfl
        (fun hcollected => (collected_actionData hstatus hnext hcollected).imp_right hnoted)
        rfl rfl rfl rfl hevents
    | drafted | redrafted | decided | renewed => exact hop.elim
  | processPayment =>
    rcases paymentStep_writes h with ⟨runs, rfl⟩ | ⟨run, items, events, rfl, hdelivery, hwrite⟩
    · exact .quiet rfl rfl rfl rfl (.refl _)
    · have hstep : db' = (applyItems run.invoiceId run.automationRunId items w.now db).1 := by
        have hstored := (Prod.mk.inj (Option.some.inj h)).1
        rw [if_pos hdelivery] at hstored
        exact hstored.symm
      have hevents := applyItems_events db.invoices.size run.invoiceId run.automationRunId w.now items
        db
      rw [← hstep] at hevents
      rw [hwrite] at hevents ⊢
      exact .applied rfl rfl rfl rfl hevents
  | dispatchOutbox =>
    obtain ⟨⟨s, m⟩, hdispatch, rfl, -⟩ := map_eq_some_pair.1 h
    have hkeys := dispatchStep_keys hdispatch
    obtain ⟨events, hevents⟩ := OutboxDispatcherService.dispatchStep_writes hdispatch
    simp only [hevents] at hkeys ⊢
    exact .quiet rfl rfl rfl rfl (.keeps hkeys)
  | hosting | createService | fulfillAddOn | cancelAddOn | processOpenRenewals => exact hop.elim

/-! ### The cycle -/

theorem attempt_fst (delivery : Delivery) (tx : Tx Bool) (db : Database) :
    (attempt delivery tx db).1 = db ∨ ∃ changed, tx db = .ok
    ((attempt delivery tx db).1, changed) := by
  rw [attempt]
  split
  · exact atomically_fst tx db
  · exact .inl rfl

theorem attempt_eq_some {delivery : Delivery} (h : (attempt delivery tx db).2 = some changed) :
    tx db = .ok ((attempt delivery tx db).1, changed) := by
  rw [attempt] at h ⊢
  split at h
  · rename_i hcarried
    rw [if_pos hcarried]
    simp only at h ⊢
    split at h
    · cases hresult : (atomically tx db).2 with
      | ok a =>
        rw [hresult] at h
        obtain rfl := Option.some.inj h
        exact atomically_snd hresult
      | error e =>
        rw [hresult] at h
        exact nomatch h
    · exact nomatch h
  · exact nomatch h

theorem renewalEffect_of_bill (h : createRenewalInvoiceTx rt request db = .ok (db', changed)) :
    RenewalEffect rt w db touched db' := by
  rw [createRenewalInvoiceTx] at h
  split at h
  · rw [← (Prod.mk.inj (Except.ok.inj h)).1]
    exact .same _ _
  · rcases renewalTransaction_eq_ok _ _ h with
      rfl | ⟨service, hservice, -, hperiod, hunbilled, hbill⟩
    · exact .same _ _
    · obtain rfl := billPeriod_eq_ok _ hbill
      refine .billed hservice hperiod hunbilled rfl rfl rfl rfl (.insert fun i hkey => ?_)
      obtain rfl := OutboxKey.emailInvoiceCreated.inj hkey
      rw [size_insert]
      exact Nat.lt_succ_self _

theorem renewalEffect_of_action {request : OpenRenewalRequest} {action : RenewalAction}
    (htx : actionTx request w action = some tx) (h : tx db = .ok (db', changed)) :
    RenewalEffect lib.runtime w db touched db' := by
  have hannounce : ∀ event : OutboxEvent,
      (∀ i, event.idempotencyKey = .emailInvoiceCreated i → i < db.invoices.size) →
      announceOnce event db = .ok (db', changed) → RenewalEffect lib.runtime w db touched db' := by
    intro event hkey hok
    obtain ⟨rfl, -⟩ := Prod.mk.inj (Except.ok.inj hok)
    have hevents : EventsAbout db.invoices.size db.outboxEvents
        (db.createOutboxEventSkippingDuplicates event).1.outboxEvents := .skippingDuplicates hkey
    rw [Database.createOutboxEventSkippingDuplicates] at hevents ⊢
    split at hevents
    · rename_i htaken
      rw [if_pos htaken]
      exact .same _ _
    · rename_i hfree
      rw [if_neg hfree]
      exact .quiet rfl rfl rfl rfl hevents
  cases action with
  | createReminders => cases htx
  | createReminder days reminderNumber =>
    obtain rfl := Option.some.inj htx
    exact hannounce (renewalReminderEvent request.invoiceId days reminderNumber)
      (by rintro _ ⟨⟩) h
  | requestSuspension serviceId =>
    obtain rfl := Option.some.inj htx
    exact hannounce (suspensionRequestedEvent serviceId request.invoiceId request.automationRunId)
      (by rintro _ ⟨⟩) h
  | markOverdue =>
    obtain rfl := Option.some.inj htx
    rcases markOverdueTransaction_eq_ok h with rfl | ⟨invoice, hinvoice, hoverdue, rfl⟩
    · exact .same _ _
    · exact .collects hinvoice rfl rfl (fun _ => .inr (.inl rfl)) rfl rfl rfl rfl
        (.insert (by rintro _ ⟨⟩))

theorem renewalEffect_of_cycle {l l' : CycleState}
    (h : cycleStep lib.runtime lib.businessDay w db l = some (db', l')) :
    RenewalEffect lib.runtime w db touched db' := by
  unfold cycleStep at h
  split at h
  · split at h <;> (cases h; exact .same _ _)
  · split at h
    · cases h; exact .same _ _
    · split at h <;> (cases h; exact .same _ _)
  · split at h <;> (cases h; exact .same _ _)
  · cases h; exact .same _ _
  · rename_i run now entry services counters
    cases h
    rw [createDueInvoice]
    split
    · rcases attempt_fst w.databaseDelivery
        (createRenewalInvoiceTx lib.runtime ⟨entry.1, run.automationRunId, now⟩) db with
        hsame | ⟨changed, hok⟩
      · simp only [hsame]
        exact .same _ _
      · exact renewalEffect_of_bill hok
    · exact .same _ _
  · split at h <;> (cases h; exact .same _ _)
  · cases h; exact .same _ _
  · cases h; exact .same _ _
  · rename_i run request dueAt action actions invoices counters
    cases h
    rw [takeNextAction]
    split
    · exact .same _ _
    · rename_i tx htx
      rcases attempt_fst w.databaseDelivery tx db with hsame | ⟨changed, hok⟩
      · simp only [hsame]
        exact .same _ _
      · exact renewalEffect_of_action htx hok
  · cases h; exact .quiet rfl rfl rfl rfl (.refl _)
  · cases h; exact .quiet rfl rfl rfl rfl (.refl _)
  · cases h

end

/-! ## Lines and keys -/

/-- A line of the invoice is for the period that starts there. -/
def Invoice.bills (serviceId periodStart : ℕ) (invoice : Invoice) : Prop :=
  ∃ item ∈ invoice.items,
    item.serviceId = some serviceId ∧ item.servicePeriodStart = some periodStart
deriving Decidable

def Invoice.billsPeriod (serviceId periodStart periodEnd : ℕ) (invoice : Invoice) : Prop :=
  ∃ item ∈ invoice.items, item.serviceId = some serviceId ∧
    item.servicePeriodStart = some periodStart ∧ item.servicePeriodEnd = some periodEnd
deriving Decidable

/-- A period that an invoice bills in the one state is billed by no other invoice in the other,
whatever has become of the first. -/
def BilledOnce (db db' : Database) : Prop :=
  ∀ i j invoice invoice' serviceId periodStart periodEnd, db.invoices.get? i = some invoice →
    db'.invoices.get? j = some invoice' → invoice.billsPeriod serviceId periodStart periodEnd →
    invoice'.billsPeriod serviceId periodStart periodEnd → i = j

/-- An invoice under a renewal key bills that renewal. -/
structure RenewalsSound (rt : Runtime) (db : Database) : Prop where
  keyed : ∀ i invoice serviceId periodStart, db.invoices.get? i = some invoice →
    invoice.submissionKey = renewalKey rt serviceId periodStart →
    invoice.bills serviceId periodStart
  announced : ∀ id event i, db.outboxEvents.get? id = some event →
    event.idempotencyKey = .emailInvoiceCreated i → i < db.invoices.size

/-- Renewals are collected, but for the withdrawn invoices. -/
def CollectedBut (withdrawn : List RowId) (db : Database) : Prop :=
  ∀ i invoice serviceId periodStart, db.invoices.get? i = some invoice →
    invoice.bills serviceId periodStart → invoice.collected ∨ i ∈ withdrawn

theorem renewalKey_inj {rt : Runtime} (hdates : Function.Injective rt.toISOString)
    {serviceId serviceId' periodStart periodStart' : ℕ}
    (h : renewalKey rt serviceId periodStart = renewalKey rt serviceId' periodStart') :
    serviceId = serviceId' ∧ periodStart = periodStart' := by
  simp only [renewalKey, String.append_assoc, String.append_right_inj] at h
  rw [← String.append_assoc, ← String.append_assoc] at h
  obtain ⟨hid, hdate⟩ := number_colon_inj h
  exact ⟨hid, hdates hdate⟩

theorem renewalInvoice_bills (rt : Runtime) (serviceId : RowId) (service : Service)
    (addOns : List (RowId × OrderItem)) (periodEnd now : ℕ) :
    (renewalInvoice rt serviceId service addOns periodEnd now).bills serviceId service.nextDueAt :=
  ⟨_, List.mem_cons_self, rfl, rfl⟩

theorem renewalInvoice_collected (rt : Runtime) (serviceId : RowId) (service : Service)
    (addOns : List (RowId × OrderItem)) (periodEnd now : ℕ) :
    (renewalInvoice rt serviceId service addOns periodEnd now).collected := by
  rw [Invoice.collected, renewalInvoice]
  split
  · exact .inr (.inr rfl)
  · exact .inl rfl

theorem periodBilled_of_bills {db : Database} {i : RowId} {invoice : Invoice}
    {serviceId periodStart periodEnd : ℕ} (hinvoice : db.invoices.get? i = some invoice)
    (h : invoice.billsPeriod serviceId periodStart periodEnd) :
    periodBilled db serviceId periodStart periodEnd = true := by
  obtain ⟨item, hitem, hline⟩ := h
  exact any_eq_true.2 ⟨i, invoice, hinvoice,
    List.any_eq_true.2 ⟨item, hitem, decide_eq_true hline⟩⟩

/-- The lines of add-ons name no service. -/
theorem renewalInvoice_billsPeriod {rt : Runtime} {serviceId : RowId} {service : Service}
    {addOns : List (RowId × OrderItem)} {periodEnd now serviceId' periodStart periodEnd' : ℕ}
    (h : (renewalInvoice rt serviceId service addOns periodEnd now).billsPeriod
      serviceId' periodStart periodEnd') :
    serviceId = serviceId' ∧ service.nextDueAt = periodStart ∧ periodEnd = periodEnd' := by
  obtain ⟨item, hitem, hservice, hstart, hend⟩ := h
  rcases List.mem_cons.1 hitem with rfl | haddOn
  · exact ⟨Option.some.inj hservice, Option.some.inj hstart, Option.some.inj hend⟩
  · obtain ⟨entry, -, rfl⟩ := List.mem_map.1 haddOn
    exact nomatch hservice

theorem Invoice.bills_congr {invoice invoice' : Invoice} (h : invoice'.items = invoice.items)
    {serviceId periodStart : ℕ} :
    invoice'.bills serviceId periodStart ↔ invoice.bills serviceId periodStart := by
  rw [Invoice.bills, Invoice.bills, h]

section

variable {w : World} {db db' : Database}
variable {touched : List RowId} {rt : Runtime}

theorem RenewalEffect.sound (hdates : Function.Injective rt.toISOString) (h : RenewalsSound rt db)
    (heffect : RenewalEffect rt w db touched db') : RenewalsSound rt db' := by
  have hannounced : ∀ {size}, EventsAbout size db.outboxEvents db'.outboxEvents →
      size ≤ db'.invoices.size → db.invoices.size ≤ db'.invoices.size →
      ∀ id event i, db'.outboxEvents.get? id = some event →
        event.idempotencyKey = .emailInvoiceCreated i → i < db'.invoices.size := by
    intro size hevents hsize hgrows id event' i hevent' hkey
    rcases hevents id event' hevent' with ⟨event, hevent, hsame⟩ | hnew
    · exact Nat.lt_of_lt_of_le (h.announced id event i hevent (hsame ▸ hkey)) hgrows
    · exact Nat.lt_of_lt_of_le (hnew i hkey) hsize
  cases heffect with
  | quiet hinvoices _ _ _ hevents | applied hinvoices _ _ _ hevents =>
    refine ⟨?_, hannounced hevents (Nat.le_of_eq (by rw [hinvoices]))
        (Nat.le_of_eq (by rw [hinvoices]))⟩
    rw [hinvoices]
    exact h.keyed
  | @moved invoiceId invoice f hinvoice hkey hitems _ hinvoices _ _ _ hevents =>
    have hsize : db'.invoices.size = db.invoices.size := by rw [hinvoices, size_update]
    refine ⟨fun i invoice' serviceId periodStart hinvoice' hsubmission => ?_,
      hannounced hevents (Nat.le_of_eq hsize.symm) (Nat.le_of_eq hsize.symm)⟩
    rw [hinvoices] at hinvoice'
    rcases get?_update_cases hinvoice' with ⟨rfl, row, hrow, rfl⟩ | ⟨-, hold⟩
    · obtain rfl := Option.mem_unique hinvoice hrow
      rw [Invoice.bills_congr hitems]
      exact h.keyed _ _ serviceId periodStart hinvoice (hkey ▸ hsubmission)
    · exact h.keyed i invoice' serviceId periodStart hold hsubmission
  | @billed request service hservice _ _ hinvoices _ _ _ hevents =>
    have hsize : db.invoices.size ≤ db'.invoices.size := by
      rw [hinvoices, size_insert]
      exact Nat.le_succ _
    refine ⟨fun i invoice' serviceId periodStart hinvoice' hsubmission => ?_,
      hannounced hevents (Nat.le_refl _) hsize⟩
    rw [hinvoices] at hinvoice'
    rcases get?_insert_cases hinvoice' with ⟨-, rfl⟩ | hold
    · obtain ⟨rfl, rfl⟩ := renewalKey_inj hdates hsubmission
      exact renewalInvoice_bills _ _ _ _ _ _
    · exact h.keyed i invoice' serviceId periodStart hold hsubmission

theorem RenewalEffect.collected {earlier : List RowId}
    (h : CollectedBut earlier db) (heffect : RenewalEffect rt w db touched db') :
    CollectedBut (earlier ++ touched) db' := by
  have hold : ∀ {i invoice serviceId periodStart}, db.invoices.get? i = some invoice →
      invoice.bills serviceId periodStart → invoice.collected ∨ i ∈ earlier ++ touched :=
    fun hinvoice hbills => (h _ _ _ _ hinvoice hbills).imp_right (List.mem_append_left touched)
  intro i invoice' serviceId periodStart hinvoice' hbills
  cases heffect with
  | quiet hinvoices | applied hinvoices => exact hold (hinvoices ▸ hinvoice') hbills
  | @moved invoiceId invoice f hinvoice _ hitems hstatus hinvoices =>
    rw [hinvoices] at hinvoice'
    rcases get?_update_cases hinvoice' with ⟨rfl, row, hrow, rfl⟩ | ⟨-, hsame⟩
    · obtain rfl := Option.mem_unique hinvoice hrow
      rw [Invoice.bills_congr hitems] at hbills
      rcases hold hinvoice hbills with hcollected | hlisted
      · exact (hstatus hcollected).imp_right (List.mem_append_right earlier)
      · exact .inr hlisted
    · exact hold hsame hbills
  | billed _ _ _ hinvoices =>
    rw [hinvoices] at hinvoice'
    rcases get?_insert_cases hinvoice' with ⟨-, rfl⟩ | hsame
    · exact .inl (renewalInvoice_collected _ _ _ _ _ _)
    · exact hold hsame hbills

/-! ## What a cycle may rely on -/

/-- A service keeps what decides whether it is billed, and is due no earlier. -/
structure Service.Later (service service' : Service) : Prop where
  status : service'.status = service.status
  customerId : service'.customerId = service.customerId
  billingPeriod : service'.billingPeriod = service.billingPeriod
  nextDueAt : service.nextDueAt ≤ service'.nextDueAt

theorem Service.Later.refl (service : Service) : service.Later service :=
  ⟨rfl, rfl, rfl, Nat.le_refl _⟩

theorem Service.Later.trans (service₁ service₂ service₃ : Service) (h : service₁.Later service₂)
    (h' : service₂.Later service₃) : service₁.Later service₃ where
  status := h'.status.trans h.status
  customerId := h'.customerId.trans h.customerId
  billingPeriod := h'.billingPeriod.trans h.billingPeriod
  nextDueAt := Nat.le_trans h.nextDueAt h'.nextDueAt

theorem later_appliedService (now : ℕ) (services : Table Service) (item : InvoiceItem) :
    Table.Grows Service.Later services (appliedService now services item) := by
  unfold appliedService
  split
  · refine grows_update Service.Later.refl fun service _ => ?_
    split
    · rename_i hlt
      exact ⟨rfl, rfl, rfl, Nat.le_of_lt hlt⟩
    · exact Service.Later.refl service
  · exact Grows.refl Service.Later.refl _

theorem later_appliedServices (now : ℕ) (services : Table Service) (items : List InvoiceItem) :
    Table.Grows Service.Later services (appliedServices now services items) := by
  induction items generalizing services with
  | nil => exact Grows.refl Service.Later.refl _
  | cons item items ih =>
    exact Grows.trans Service.Later.trans (later_appliedService now services item) (ih _)

theorem later_billedServices {request : RenewalRequest} {service : Service}
    (hservice : db.services.get? request.serviceId = some service)
    (hperiod : hostingBillingPeriod service.billingPeriod) :
    Table.Grows Service.Later db.services (billedServices request service db) := by
  rw [billedServices]
  split
  · refine grows_update Service.Later.refl fun row hrow => ?_
    obtain rfl := Option.mem_unique hservice hrow
    exact ⟨rfl, rfl, rfl, Nat.le_of_lt (lt_addBillingPeriod_of_hosting hperiod _)⟩
  · exact Grows.refl Service.Later.refl _

def Invoice.KeepsItems (invoice invoice' : Invoice) : Prop := invoice'.items = invoice.items

theorem Invoice.KeepsItems.refl (invoice : Invoice) : invoice.KeepsItems invoice := rfl

/-- What every step leaves of what a cycle reads. -/
structure RenewalsStay (db db' : Database) : Prop where
  invoices : Table.Grows Invoice.KeepsItems db.invoices db'.invoices
  services : Table.Grows Service.Later db.services db'.services
  customers : db'.customers = db.customers
  requests : db'.cancellationRequests = db.cancellationRequests

theorem RenewalEffect.stays (h : RenewalEffect rt w db touched db') : RenewalsStay db db' := by
  have hsame : Table.Grows Invoice.KeepsItems db.invoices db.invoices :=
    Grows.refl Invoice.KeepsItems.refl _
  cases h with
  | quiet hinvoices hservices hcustomers hrequests _ =>
    exact ⟨hinvoices ▸ hsame, hservices ▸ Grows.refl Service.Later.refl _, hcustomers, hrequests⟩
  | moved hinvoice _ hitems _ hinvoices hservices hcustomers hrequests _ =>
    refine ⟨hinvoices ▸ grows_update Invoice.KeepsItems.refl fun row hrow => ?_,
      hservices ▸ Grows.refl Service.Later.refl _, hcustomers, hrequests⟩
    obtain rfl := Option.mem_unique hinvoice hrow
    exact hitems
  | applied hinvoices hservices hcustomers hrequests _ =>
    exact ⟨hinvoices ▸ hsame, hservices ▸ later_appliedServices _ _ _, hcustomers, hrequests⟩
  | billed hservice hperiod _ hinvoices hservices hcustomers hrequests _ =>
    exact ⟨hinvoices ▸ grows_insert Invoice.KeepsItems.refl _ _,
      hservices ▸ later_billedServices hservice hperiod, hcustomers, hrequests⟩

theorem Invoice.KeepsItems.trans (invoice₁ invoice₂ invoice₃ : Invoice)
    (h : invoice₁.KeepsItems invoice₂) (h' : invoice₂.KeepsItems invoice₃) :
    invoice₁.KeepsItems invoice₃ :=
  Eq.trans h' h

theorem BilledOnce.later {db₁ : Database} (h : BilledOnce db db)
    (hkeep : Table.Grows Invoice.KeepsItems db₁.invoices db.invoices) : BilledOnce db₁ db := by
  intro i j invoice invoice' serviceId periodStart periodEnd hinvoice hinvoice' hbills hbills'
  obtain ⟨row, hrow, hitems⟩ := hkeep i invoice hinvoice
  rw [Invoice.billsPeriod, ← hitems] at hbills
  exact h i j row invoice' _ _ _ hrow hinvoice' hbills hbills'

theorem RenewalEffect.billedOnce (heffect : RenewalEffect rt w db touched db')
    (h : BilledOnce db db) : BilledOnce db' db' := by
  -- A write that only keeps lines bills nothing.
  have hkept : Table.Grows Invoice.KeepsItems db'.invoices db.invoices → BilledOnce db' db' := by
    intro hkeep i j invoice invoice' serviceId periodStart periodEnd hinvoice hinvoice' hbills hbills'
    obtain ⟨row, hrow, hitems⟩ := hkeep i invoice hinvoice
    obtain ⟨row', hrow', hitems'⟩ := hkeep j invoice' hinvoice'
    rw [Invoice.billsPeriod, ← hitems] at hbills
    rw [Invoice.billsPeriod, ← hitems'] at hbills'
    exact h i j row row' _ _ _ hrow hrow' hbills hbills'
  cases heffect with
  | quiet hinvoices | applied hinvoices =>
    exact hkept (hinvoices ▸ Grows.refl Invoice.KeepsItems.refl _)
  | @moved invoiceId row f hrow _ hitems _ hinvoices =>
    refine hkept fun i invoice' hinvoice' => ?_
    rw [hinvoices] at hinvoice'
    rcases get?_update_cases hinvoice' with ⟨rfl, invoice, hinvoice, rfl⟩ | ⟨-, hsame⟩
    · obtain rfl := Option.mem_unique hrow hinvoice
      exact ⟨row, hinvoice, hitems.symm⟩
    · exact ⟨invoice', hsame, rfl⟩
  | @billed request service _ _ hunbilled hinvoices =>
    intro i j invoice invoice' serviceId periodStart periodEnd hinvoice hinvoice' hbills hbills'
    -- No invoice that was there before bills the period of the new one.
    have hfresh : ∀ {k row row'}, db.invoices.get? k = some row →
        row.billsPeriod serviceId periodStart periodEnd →
        row' = renewalInvoice rt request.serviceId service (renewingAddOns db service)
          (addBillingPeriod service.nextDueAt service.billingPeriod) request.now →
        ¬ row'.billsPeriod serviceId periodStart periodEnd := by
      rintro k row _ hrow hold rfl hnew
      obtain ⟨rfl, rfl, rfl⟩ := renewalInvoice_billsPeriod hnew
      exact Bool.false_ne_true (hunbilled.symm.trans (periodBilled_of_bills hrow hold))
    rw [hinvoices] at hinvoice hinvoice'
    rcases get?_insert_cases hinvoice with ⟨rfl, hnew⟩ | hold <;>
      rcases get?_insert_cases hinvoice' with ⟨rfl, hnew'⟩ | hold'
    · rfl
    · exact absurd hbills (hfresh hold' hbills' hnew)
    · exact absurd hbills' (hfresh hold hbills hnew')
    · exact h i j invoice invoice' _ _ _ hold hold' hbills hbills'

def PeriodBilled (serviceId periodStart : ℕ) (db : Database) : Prop :=
  ∃ i invoice, db.invoices.get? i = some invoice ∧ invoice.bills serviceId periodStart

def StillRenews (serviceId due : ℕ) (db : Database) : Prop :=
  ∃ service, db.services.get? serviceId = some service ∧ renewable db serviceId service ∧
    hostingBillingPeriod service.billingPeriod ∧ due ≤ service.nextDueAt

def SeenTo (serviceId due : ℕ) (db : Database) : Prop :=
  PeriodBilled serviceId due db ∨
    ∃ service, db.services.get? serviceId = some service ∧ due < service.nextDueAt

section

variable {serviceId due : ℕ}

theorem PeriodBilled.stays (h : PeriodBilled serviceId due db) (hstay : RenewalsStay db db') :
    PeriodBilled serviceId due db' := by
  obtain ⟨i, invoice, hinvoice, hbills⟩ := h
  obtain ⟨invoice', hinvoice', hitems⟩ := hstay.invoices i invoice hinvoice
  exact ⟨i, invoice', hinvoice', (Invoice.bills_congr hitems).2 hbills⟩

theorem StillRenews.stays (h : StillRenews serviceId due db) (hstay : RenewalsStay db db') :
    StillRenews serviceId due db' := by
  obtain ⟨service, hservice, ⟨hstatus, hcustomer, hrequests⟩, hperiod, hdue⟩ := h
  obtain ⟨service', hservice', hlater⟩ := hstay.services serviceId service hservice
  refine ⟨service', hservice', ⟨?_, ?_, ?_⟩, ?_, Nat.le_trans hdue hlater.nextDueAt⟩
  · rw [hlater.status]
    exact hstatus
  · rw [hstay.customers, hlater.customerId]
    exact hcustomer
  · rw [hstay.requests]
    exact hrequests
  · rw [hlater.billingPeriod]
    exact hperiod

theorem SeenTo.stays (h : SeenTo serviceId due db) (hstay : RenewalsStay db db') :
    SeenTo serviceId due db' := by
  rcases h with hbilled | ⟨service, hservice, hlt⟩
  · exact .inl (hbilled.stays hstay)
  · obtain ⟨service', hservice', hlater⟩ := hstay.services serviceId service hservice
    exact .inr ⟨service', hservice', Nat.lt_of_lt_of_le hlt hlater.nextDueAt⟩

theorem billPeriod_conflict {request : RenewalRequest} {service : Service} {periodEnd : ℕ}
    (hsound : RenewalsSound rt db)
    (h : billPeriod rt request service periodEnd db = .error .uniqueConstraint) :
    PeriodBilled request.serviceId service.nextDueAt db := by
  simp only [billPeriod, bind_eq_error, require_eq_error, require_eq_ok, exists_const] at h
  rcases h with ⟨-, hrange⟩ | ⟨-, hinvoice | ⟨⟨db₁, invoiceId⟩, hinvoice, hevent | ⟨_, -, hlast⟩⟩⟩
  · cases hrange
  · simp only [Database.createInvoice, bind_eq_error, require_eq_error, pure_ne_error] at hinvoice
    obtain ⟨hkey, -⟩ | ⟨_, -, hfalse⟩ := hinvoice
    · rw [Bool.not_eq_false, any_eq_true] at hkey
      obtain ⟨i, invoice, hinvoice, hkey⟩ := hkey
      exact ⟨i, invoice, hinvoice,
        hsound.keyed i invoice _ _ hinvoice (of_decide_eq_true hkey)⟩
    · exact hfalse.elim
  · -- No e-mail about the invoice can be there before the invoice is.
    rw [Database.createInvoice_eq_ok] at hinvoice
    obtain ⟨rfl, rfl⟩ := Prod.mk.inj hinvoice.2
    simp only [Database.createOutboxEvent, bind_eq_error, require_eq_error, pure_ne_error] at hevent
    obtain ⟨hkey, -⟩ | ⟨_, -, hfalse⟩ := hevent
    · rw [Bool.not_eq_false, Database.hasOutboxKey, any_eq_true] at hkey
      obtain ⟨id, event, hget, hkey⟩ := hkey
      have hannounced := hsound.announced id event db.invoices.size
      rw [advanceFreePeriod] at hget
      split at hget <;>
      exact absurd (hannounced hget (of_decide_eq_true hkey)) (Nat.lt_irrefl _)
    · exact hfalse.elim
  · cases hlast

theorem seenTo_of_bill {automationRunId now : ℕ} {changed : Bool} (hsound : RenewalsSound rt db)
    (hrenews : StillRenews serviceId due db)
    (h : createRenewalInvoiceTx rt ⟨serviceId, automationRunId, now⟩ db = .ok (db', changed)) :
    SeenTo serviceId due db' := by
  obtain ⟨service, hservice, hrenewable, hperiod, hdue⟩ := hrenews
  rcases Nat.lt_or_eq_of_le hdue with hlt | rfl
  · have heffect : RenewalEffect rt {} db [] db' := renewalEffect_of_bill h
    exact SeenTo.stays (.inr ⟨service, hservice, hlt⟩) heffect.stays
  · have htransaction : renewalTransaction rt addBillingPeriod
        ⟨serviceId, automationRunId, now⟩ db =
        if periodBilled db serviceId service.nextDueAt
          (addBillingPeriod service.nextDueAt service.billingPeriod)
        then .ok (db, false)
        else billPeriod rt ⟨serviceId, automationRunId, now⟩ service
          (addBillingPeriod service.nextDueAt service.billingPeriod) db := by
      rw [renewalTransaction]
      simp only [hservice]
      rw [if_neg (not_not.2 hrenewable), if_neg (not_not.2 hperiod)]
    rw [createRenewalInvoiceTx, htransaction] at h
    split at h
    · rename_i hconflict
      obtain ⟨rfl, -⟩ := Prod.mk.inj (Except.ok.inj h)
      split at hconflict
      · cases hconflict
      · exact .inl (billPeriod_conflict hsound hconflict)
    · split at h
      · rename_i hbilled
        obtain ⟨rfl, -⟩ := Prod.mk.inj (Except.ok.inj h)
        rw [periodBilled, any_eq_true] at hbilled
        obtain ⟨i, invoice, hinvoice, hline⟩ := hbilled
        rw [List.any_eq_true] at hline
        obtain ⟨item, hitem, hline⟩ := hline
        obtain ⟨hitemService, hstart, -⟩ := of_decide_eq_true hline
        exact .inl ⟨i, invoice, hinvoice, item, hitem, hitemService, hstart⟩
      · obtain rfl := billPeriod_eq_ok rt h
        exact .inl ⟨_, _, get?_insert_self _ _, renewalInvoice_bills _ _ _ _ _ _⟩

end

end

/-! ## One cycle -/

section

variable {lib : Libraries} {serviceId due : ℕ}

variable (lib serviceId due) in
/-- What a cycle that has found the service due knows about it, while no write of it has failed. -/
def cycleAssertion (db : Database) : CycleState → Prop
  | .start _ | .findRun _ | .readServices _ => False
  | .createInvoices run now services counters =>
    leadDatePassed lib.businessDay run.policy now due ∧
      (0 < counters.failed ∨ SeenTo serviceId due db ∨ (serviceId, due) ∈ services)
  | .readInvoices _ counters | .act _ _ counters | .finish _ counters =>
    0 < counters.failed ∨ SeenTo serviceId due db
  | .fail _ _ => True
  | .done result => result = .ok () → SeenTo serviceId due db

theorem cycleAssertion_stays {db db' : Database} (hstay : RenewalsStay db db') {l : CycleState}
    (h : cycleAssertion lib serviceId due db l) : cycleAssertion lib serviceId due db' l := by
  cases l with
  | start | findRun | readServices => exact h
  | createInvoices run now services counters =>
    exact ⟨h.1, h.2.imp_right (Or.imp_left fun hseen => hseen.stays hstay)⟩
  | readInvoices | act | finish => exact h.imp_right fun hseen => hseen.stays hstay
  | fail => trivial
  | done result => exact fun hok => (h hok).stays hstay

theorem failed_le_count (counters : Counters) (outcome : Option Bool) :
    counters.failed ≤ (counters.count outcome).failed := by
  cases outcome with
  | none => exact Nat.le_succ _
  | some changed => exact Nat.le_refl _

theorem cycleAssertion_step {w : World} {db db' : Database} {l l' : CycleState}
    (hsound : RenewalsSound lib.runtime db) (hrenews : StillRenews serviceId due db)
    (h : cycleAssertion lib serviceId due db l)
    (hstep : cycleStep lib.runtime lib.businessDay w db l = some (db', l')) :
    cycleAssertion lib serviceId due db' l' := by
  have heffect : RenewalEffect lib.runtime w db [] db' := renewalEffect_of_cycle hstep
  have hstay := heffect.stays
  unfold cycleStep at hstep
  split at hstep
  · exact h.elim
  · exact h.elim
  · exact h.elim
  · cases hstep
    rcases h.2 with hfailed | hseen | hmem
    · exact .inl hfailed
    · exact .inr hseen
    · exact nomatch hmem
  · rename_i run now entry services counters
    cases hstep
    refine ⟨h.1, ?_⟩
    rcases h.2 with hfailed | hseen | hmem
    · refine .inl (Nat.lt_of_lt_of_le hfailed ?_)
      rw [createDueInvoice]
      split
      · exact failed_le_count _ _
      · exact Nat.le_refl _
    · exact .inr (.inl (hseen.stays hstay))
    · rcases List.mem_cons.1 hmem with rfl | hlater
      · -- The service's own turn.
        rw [createDueInvoice, if_pos h.1]
        simp only
        cases hout : (attempt w.databaseDelivery (createRenewalInvoiceTx lib.runtime
          ⟨serviceId, run.automationRunId, now⟩) db).2 with
        | none => exact .inl (Nat.succ_pos _)
        | some changed =>
          exact .inr (.inl (seenTo_of_bill hsound hrenews (attempt_eq_some hout)))
      · exact .inr (.inr hlater)
  · split at hstep
    · cases hstep
      exact h
    · cases hstep
      trivial
  · cases hstep
    exact h
  · cases hstep
    exact h
  · rename_i run request dueAt action actions invoices counters
    cases hstep
    rcases h with hfailed | hseen
    · refine .inl (Nat.lt_of_lt_of_le hfailed ?_)
      rw [takeNextAction]
      split
      · exact Nat.le_refl _
      · exact failed_le_count _ _
    · exact .inr (hseen.stays hstay)
  · rename_i run counters
    cases hstep
    intro hok
    rcases h with hfailed | hseen
    · rw [if_pos hfailed] at hok
      exact nomatch hok
    · exact hseen.stays hstay
  · cases hstep
    exact fun hok => nomatch hok
  · cases hstep

/-! ## Runs -/

variable (lib) in
def renewalOutline : Outline (cycleOperations lib) where
  shared := RenewalsSound lib.runtime
  thread _ t := actionAllowed lib t.op t.loc

variable (lib) in
/-- A step of a cycle, a settlement or an action on an invoice. -/
def settling (_ : World) (_ : Database) (t : Thread (cycleOperations lib)) : Prop :=
  renewsServices t.op
deriving Decidable

variable {w : World} {db' : Database}

theorem renewalEffect_of_step {t t' : Thread (cycleOperations lib)} (hguard : settling lib w db t)
    (hallowed : actionAllowed lib t.op t.loc) (h : t.step w db = some (db', t')) :
    RenewalEffect lib.runtime w db (withdrawn lib w db t) db' := by
  obtain ⟨l', hstep, -⟩ := Thread.step_eq_some h
  obtain ⟨op, l⟩ := t
  cases op with
  | billing op => exact renewalEffect_of_settlement op hguard hallowed hstep
  | processCycle => exact renewalEffect_of_cycle hstep

theorem actionAllowed_begin (op : CycleOperation) (request : (cycleOperations lib op).Request) :
    actionAllowed lib op ((cycleOperations lib op).start request) := by
  cases op with
  | billing op =>
    cases op with
    | ledger op => cases op <;> trivial
    | hosting | createService | fulfillAddOn | cancelAddOn | processOpenRenewals | processPayment
    | dispatchOutbox => trivial
  | processCycle => trivial

theorem actionAllowed_step (op : CycleOperation) {l l' : (cycleOperations lib op).Local}
    (h : (cycleOperations lib op).step w db l = some (db', l')) : actionAllowed lib op l' := by
  cases op with
  | billing op =>
    cases op with
    | ledger op =>
      cases op with
      | applyAction =>
        cases l' with
        | transact invoiceId action current next decidedAt =>
          exact ⟨w.now, (applyActionStep_transact h).2.2⟩
        | read | done => trivial
      | submitManual | recordManual | review | adjust | processNormalizedEvent | createInvoice
      | updateDraft | updateStatus | createRenewalInvoice => trivial
    | hosting | createService | fulfillAddOn | cancelAddOn | processOpenRenewals | processPayment
    | dispatchOutbox => trivial
  | processCycle => trivial

variable (lib) in
theorem renewalOutline_sound (hdates : Function.Injective lib.runtime.toISOString) :
    (renewalOutline lib).Sound (settling lib) where
  symm _ _ h := h
  call _ op request _ := actionAllowed_begin op request
  call_apart _ _ _ := trivial
  own w db t db' t' hguard hsound hallowed hstep := by
    have heffect := renewalEffect_of_step hguard hallowed hstep
    obtain ⟨l', hl, rfl⟩ := Thread.step_eq_some hstep
    exact ⟨heffect.sound hdates hsound, actionAllowed_step t.op hl⟩
  other _ _ _ _ _ _ _ _ _ hu _ _ := ⟨hu, trivial⟩

/-! ### The thread of a cycle -/

variable (lib serviceId due) in
def Tracks (db : Database) (t : Thread (cycleOperations lib)) : Prop :=
  StillRenews serviceId due db ∧
    ∃ l : CycleState, t = ⟨.processCycle, l⟩ ∧ cycleAssertion lib serviceId due db l

variable {db : Database}

theorem Tracks.own {t t' : Thread (cycleOperations lib)}
    (h : Tracks lib serviceId due db t) (hguard : settling lib w db t)
    (hsound : RenewalsSound lib.runtime db) (hallowed : actionAllowed lib t.op t.loc)
    (hstep : t.step w db = some (db', t')) : Tracks lib serviceId due db' t' := by
  have hstay := (renewalEffect_of_step hguard hallowed hstep).stays
  obtain ⟨hrenews, l, rfl, hl⟩ := h
  obtain ⟨l', hl', rfl⟩ := Thread.step_eq_some hstep
  exact ⟨hrenews.stays hstay, l', rfl, cycleAssertion_step hsound hrenews hl hl'⟩

theorem Tracks.other {t t' u : Thread (cycleOperations lib)}
    (h : Tracks lib serviceId due db u) (hguard : settling lib w db t)
    (hallowed : actionAllowed lib t.op t.loc) (hstep : t.step w db = some (db', t')) :
    Tracks lib serviceId due db' u := by
  have hstay := (renewalEffect_of_step hguard hallowed hstep).stays
  obtain ⟨hrenews, l, hl, hknown⟩ := h
  exact ⟨hrenews.stays hstay, l, hl, cycleAssertion_stays hstay hknown⟩

/-! ### What a cycle reads -/

instance : Std.Total dueBefore where
  total a b := by
    rcases Nat.lt_trichotomy a.2 b.2 with hlt | heq | hgt
    · exact .inl (.inl hlt)
    · exact (Nat.le_total a.1 b.1).imp (fun hle => .inr ⟨heq, hle⟩) fun hle => .inr ⟨heq.symm, hle⟩
    · exact .inr (.inl hgt)

instance : IsTrans (RowId × ℕ) dueBefore where
  trans a b c hab hbc := by
    rcases hab with hab | ⟨hab, hid⟩ <;> rcases hbc with hbc | ⟨hbc, hid'⟩
    · exact .inl (Nat.lt_trans hab hbc)
    · exact .inl (hbc ▸ hab)
    · exact .inl (hab ▸ hbc)
    · exact .inr ⟨hab.trans hbc, Nat.le_trans hid hid'⟩

theorem mem_dueServices {policy : RenewalCyclePolicy} {now : ℕ} {service : Service}
    (hcalendar : ∀ now moment days : ℕ, lib.businessDay moment ≤ lib.businessDay now + days →
      moment ≤ now + (days + 2) * millisecondsPerDay)
    (hservice : db.services.get? serviceId = some service)
    (hrecurring : recurring db serviceId service)
    (hlead : leadDatePassed lib.businessDay policy now service.nextDueAt)
    (hpage : (candidates policy now db).countP
      (fun entry => dueBefore entry (serviceId, service.nextDueAt)) ≤ 1000) :
    (serviceId, service.nextDueAt) ∈ dueServices policy now db := by
  refine mem_take_insertionSort ?_ hpage
  rw [candidates, List.mem_map]
  refine ⟨(serviceId, service), mem_select.2 ⟨hservice, decide_eq_true ⟨hrecurring, ?_⟩⟩, rfl⟩
  rw [leadDatePassed] at hlead
  exact hcalendar now service.nextDueAt policy.invoiceLeadDays (by omega)

theorem tracks_of_read {run : CycleRun} {l : CycleState} (hrenews : StillRenews serviceId due db)
    (hlead : leadDatePassed lib.businessDay run.policy w.now due)
    (hmem : (serviceId, due) ∈ dueServices run.policy w.now db)
    (h : cycleStep lib.runtime lib.businessDay w db (.readServices run) = some (db', l)) :
    Tracks lib serviceId due db' ⟨.processCycle, l⟩ := by
  rw [cycleStep] at h
  split at h
  · cases h
    exact ⟨hrenews, _, rfl, hlead, .inr (.inr hmem)⟩
  · cases h
    exact ⟨hrenews, _, rfl, trivial⟩

theorem billedOnce_of_reaches {c c₁ c₂ : Config (cycleOperations lib)}
    (houtline : (renewalOutline lib).Sound (settling lib)) (h : (renewalOutline lib).Holds c)
    (honce : BilledOnce c.shared c.shared) (hr : Reaches (settling lib) c c₁)
    (hlater : Reaches (settling lib) c₁ c₂) : BilledOnce c₁.shared c₂.shared := by
  have honce₂ : BilledOnce c₂.shared c₂.shared :=
    houtline.related (R := fun db db' => BilledOnce db db → BilledOnce db' db') (fun _ => id)
      (fun _ _ _ h h' => h' ∘ h)
      (fun _ _ _ _ _ hguard _ hallowed hstep =>
        (renewalEffect_of_step hguard hallowed hstep).billedOnce)
      h (hr.trans hlater) honce
  have hkeep : Table.Grows Invoice.KeepsItems c₁.shared.invoices c₂.shared.invoices :=
    houtline.related (R := fun db db' => Table.Grows Invoice.KeepsItems db.invoices db'.invoices)
      (fun _ => Grows.refl Invoice.KeepsItems.refl _)
      (fun _ _ _ => Grows.trans Invoice.KeepsItems.trans)
      (fun _ _ _ _ _ hguard _ hallowed hstep =>
        (renewalEffect_of_step hguard hallowed hstep).stays.invoices)
      (houtline.holds h hr) hlater
  exact honce₂.later hkeep

/-- **A cycle without failures bills what was due.**  Take a run of cycles, settlements, cancelled
invoices and adjusted payments, a cycle of it that finishes without a failure, and a service that
could be billed, and whose lead date had come, when the cycle read the services.  If a thousand
others did not come before it, and it is due as it was, then its period has a line, and the
invoice of the line can be collected or was, unless it was cancelled or its payment taken back.  A
period that some invoice bills is billed by no other one for the rest of any such run. -/
theorem due_services_billed (hdates : Function.Injective lib.runtime.toISOString)
    (hcalendar : ∀ now moment days : ℕ, lib.businessDay moment ≤ lib.businessDay now + days →
      moment ≤ now + (days + 2) * millisecondsPerDay)
    {db : Database} (hsound : RenewalsSound lib.runtime db) {earlier : List RowId}
    (hcollected : CollectedBut earlier db) {before during : List (Move (cycleOperations lib))}
    {c c' : Config (cycleOperations lib)} {k : ℕ} {w : World} {run : CycleRun}
    (hbefore : Config.run ⟨db, []⟩ before = some c)
    (hguard : Guarded (settling lib) ⟨db, []⟩ before)
    (hread : c.threads[k]? = some ⟨.processCycle, CycleState.readServices run⟩)
    (hduring : c.run (.advance k w :: during) = some c')
    (hguard' : c.Guarded (settling lib) (.advance k w :: during))
    (hdone : c'.threads[k]? = some ⟨.processCycle, CycleState.done (.ok ())⟩)
    {service service' : Service} (hservice : c.shared.services.get? serviceId = some service)
    (hrenewable : renewable c.shared serviceId service)
    (hperiod : hostingBillingPeriod service.billingPeriod)
    (hlead : leadDatePassed lib.businessDay run.policy w.now service.nextDueAt)
    (hpage : (candidates run.policy w.now c.shared).countP
      (fun entry => dueBefore entry (serviceId, service.nextDueAt)) ≤ 1000)
    (hservice' : c'.shared.services.get? serviceId = some service')
    (hdue : service'.nextDueAt = service.nextDueAt) :
    (∃ i invoice, c'.shared.invoices.get? i = some invoice ∧
      invoice.bills serviceId service'.nextDueAt ∧
      (invoice.collected ∨ i ∈ earlier ++ Config.record (withdrawn lib) ⟨db, []⟩ before ++
        c.record (withdrawn lib) (.advance k w :: during))) ∧
    (BilledOnce db db → ∀ c₁ c₂ : Config (cycleOperations lib),
      Reaches (settling lib) ⟨db, []⟩ c₁ → Reaches (settling lib) c₁ c₂ →
      BilledOnce c₁.shared c₂.shared) := by
  have houtline := renewalOutline_sound lib hdates
  have hcollects : ∀ w db t db' t' ids, settling lib w db t → RenewalsSound lib.runtime db →
      actionAllowed lib t.op t.loc → t.step w db = some (db', t') → CollectedBut ids db →
      CollectedBut (ids ++ withdrawn lib w db t) db' :=
    fun w db t db' t' ids hguard _ hallowed hstep hids =>
      (renewalEffect_of_step hguard hallowed hstep).collected hids
  have hstart : (renewalOutline lib).Holds ⟨db, []⟩ := Outline.holds_idle hsound
  refine ⟨?_, fun honce c₁ c₂ hr hlater => billedOnce_of_reaches houtline hstart honce hr hlater⟩
  have hholds := houtline.holds hstart (reaches_of_run hbefore hguard)
  have hlisted := houtline.recorded hcollects hstart hbefore hguard hcollected
  have hlisted' := houtline.recorded hcollects hholds hduring hguard' hlisted
  -- The first of the later moves reads the services.
  have hrest := hduring
  rw [Config.run, Option.bind_eq_some_iff] at hrest
  obtain ⟨c₁, hfirst, hrest⟩ := hrest
  have hholds₁ := houtline.holds_step hholds (step_of_next hfirst hguard'.1)
  have hguarded := hguard'.2 c₁ hfirst
  have hreaches := reaches_of_run hrest hguarded
  have hrenews : StillRenews serviceId service.nextDueAt c.shared :=
    ⟨service, hservice, hrenewable, hperiod, Nat.le_refl _⟩
  have hmem := mem_dueServices hcalendar hservice ⟨hrenewable.1, hperiod, hrenewable.2.2⟩ hlead hpage
  simp only [Config.next, hread, Option.bind_eq_bind, Option.bind_some, Option.bind_eq_some_iff,
    Option.pure_def, Option.some.injEq] at hfirst
  obtain ⟨⟨db₁, t₁⟩, hstep, rfl⟩ := hfirst
  obtain ⟨l₁, hl₁, rfl⟩ := Thread.step_eq_some hstep
  have hlt := (List.getElem?_eq_some_iff.1 hread).1
  have hstart₁ : Tracks lib serviceId service.nextDueAt db₁ ⟨.processCycle, l₁⟩ :=
    tracks_of_read hrenews hlead hmem hl₁
  -- From then on the thread knows that the service is to be billed.
  obtain ⟨t₂, ht₂, -, l₂, rfl, hknown⟩ := houtline.tracked
    (fun _ _ _ _ _ hguard hsound hallowed htracks hstep =>
      htracks.own hguard hsound hallowed hstep)
    (fun _ _ _ _ _ _ hguard _ hallowed htracks hstep => htracks.other hguard hallowed hstep)
    hholds₁ hreaches (List.getElem?_set_self hlt) hstart₁
  cases Option.mem_unique hdone ht₂
  rw [hdue]
  rcases hknown rfl with ⟨i, invoice, hinvoice, hbills⟩ | ⟨row, hrow, hlater⟩
  · exact ⟨i, invoice, hinvoice, hbills, hlisted' i invoice _ _ hinvoice hbills⟩
  · obtain rfl := Option.mem_unique hservice' hrow
    exact absurd hdue (Nat.ne_of_gt hlater)

end

/-! ### A cancelled invoice is not billed again -/

section

abbrev plainCycles : CycleOperation → Operation Database World :=
  cycleOperations (Libraries.onPlainText fun moment => toString moment)

def cyclePolicy : RenewalCyclePolicy :=
  { invoiceLeadDays := 14, gracePeriodDays := 3, reminderDaysBeforeDue := [] }

def cycleEvent (automationRunId : RowId) : OutboxEvent where
  aggregateType := .automationRun
  aggregateId := automationRunId
  eventType := .renewalInvoiceGenerationRequested
  idempotencyKey := .renewalCycle automationRunId
  payload := .renewalCycle automationRunId
  status := .published

def cycleRequest (automationRunId : RowId) : CycleRequest :=
  ⟨⟨automationRunId, .automationRun, automationRunId, .renewalInvoiceGenerationRequested⟩,
    cyclePolicy⟩

/-- Two days' cycles are published.  The first service costs 100 a month, the customer of the second
one is deleted, and the third one is free and was due long ago. -/
def dueDatabase : Database where
  users := ⟨[{ role := .admin }]⟩
  customers := ⟨[{ userId := 0 }, { userId := 0, deleted := true }]⟩
  services := ⟨[
    { customerId := 0, serverId := 0, status := .active, recurringAmount := 100, currency := "BDT",
      startedAt := 0, nextDueAt := 90 * millisecondsPerDay, updatedAt := 0 },
    { customerId := 1, serverId := 0, status := .active, recurringAmount := 100, currency := "BDT",
      startedAt := 0, nextDueAt := 90 * millisecondsPerDay, updatedAt := 0 },
    { customerId := 0, serverId := 0, status := .active, recurringAmount := 0, currency := "BDT",
      startedAt := 0, nextDueAt := 0, updatedAt := 0 }]⟩
  automationRuns := ⟨[{ idempotencyKey := .renewalCycle "2026-04-01" },
    { idempotencyKey := .renewalCycle "2026-04-02" }]⟩
  outboxEvents := ⟨[cycleEvent 0, cycleEvent 1]⟩

def takesSteps (position steps day : ℕ) : List (Move plainCycles) :=
  List.replicate steps (.advance position { now := day * millisecondsPerDay })

def startsCycle (position day automationRunId : ℕ) : List (Move plainCycles) :=
  .call .processCycle (cycleRequest automationRunId) :: takesSteps position 2 day

def cancelsInvoice : List (Move plainCycles) :=
  startsCycle 0 90 0 ++ takesSteps 0 5 90 ++
  .call (.billing (.ledger .applyAction)) ((1, .cancel) : RowId × InvoiceAction) ::
    takesSteps 1 2 90 ++ takesSteps 0 3 90 ++ startsCycle 2 91 1

def cycleState? (t : Thread plainCycles) : Option CycleState :=
  match t.op, t.loc with
  | .processCycle, l => some l
  | _, _ => none

theorem thread_of_cycleState? {threads : List (Thread plainCycles)} {k : ℕ} {l : CycleState}
    (h : threads[k]?.bind cycleState? = some l) : threads[k]? = some ⟨.processCycle, l⟩ := by
  obtain ⟨⟨op, loc⟩, ht, hl⟩ := Option.bind_eq_some_iff.1 h
  cases op with
  | billing op => exact nomatch hl
  | processCycle =>
    cases hl
    exact ht

theorem renewalsSound_dueDatabase (rt : Runtime) : RenewalsSound rt dueDatabase where
  keyed i invoice _ _ hinvoice _ := absurd hinvoice get?_empty_ne
  announced id event i hevent hkey := by
    obtain hlt := lt_size_of_get? hevent
    match id, hlt with
    | 0, _ | 1, _ => cases hevent; exact nomatch hkey

def secondCycleReads : Config plainCycles :=
  Config.after ⟨dueDatabase, []⟩ cancelsInvoice (by decide +kernel)

def secondCycleDone : Config plainCycles :=
  secondCycleReads.after (takesSteps 2 8 91) (by decide +kernel)

/-- The service is active, it renews and is not being cancelled, its lead date has come, and no
invoice that can be collected, or was, bills it for the period that it is due for. -/
def unbilled (businessDay : ℕ → ℤ) (policy : RenewalCyclePolicy) (now : ℕ) (db : Database)
    (serviceId : RowId) : Prop :=
  ∃ service ∈ db.services.get? serviceId, service.status = .active ∧
    recurring db serviceId service ∧ leadDatePassed businessDay policy now service.nextDueAt ∧
    db.invoices.any (fun _ invoice =>
      invoice.bills serviceId service.nextDueAt ∧ invoice.collected) = false
deriving Decidable

/-- Right after the second cycle, which recorded no failure, the period of the first service has its
line on a cancelled invoice only; nor are the other two services billed for the periods that they
are due for. -/
theorem cancelled_period_not_billed : ∃ c : Config plainCycles, ∃ c' : Config plainCycles,
    Config.run ⟨dueDatabase, []⟩ cancelsInvoice = some c ∧
    Guarded (settling _) ⟨dueDatabase, []⟩ cancelsInvoice ∧
    c.threads[2]? = some ⟨.processCycle, CycleState.readServices ⟨1, cyclePolicy⟩⟩ ∧
    c.run (takesSteps 2 8 91) = some c' ∧ c.Guarded (settling _) (takesSteps 2 8 91) ∧
    c'.threads[2]? = some ⟨.processCycle, CycleState.done (.ok ())⟩ ∧
    ∀ serviceId ∈ [0, 1, 2], unbilled (fun moment => moment / millisecondsPerDay)
      cyclePolicy (91 * millisecondsPerDay) c'.shared serviceId := by
  refine ⟨secondCycleReads, secondCycleDone, ?_⟩
  refine ⟨run_eq_after ?_, by decide +kernel, thread_of_cycleState? ?_,
    run_eq_after ?_, by decide +kernel, thread_of_cycleState? ?_, ?_⟩
  · decide +kernel
  · decide +kernel
  · decide +kernel
  · decide +kernel
  · decide +kernel

/-! ### A period that is billed -/

def firstCycle : List (Move plainCycles) := takesSteps 0 5 90 ++ takesSteps 0 6 91

def firstCycleReads : Config plainCycles :=
  Config.after ⟨dueDatabase, []⟩ (startsCycle 0 90 0) (by decide +kernel)

def firstCycleDone : Config plainCycles := firstCycleReads.after firstCycle (by decide +kernel)

theorem plainCalendar (now moment days : ℕ)
    (h : (moment / millisecondsPerDay : ℤ) ≤
      (now / millisecondsPerDay : ℤ) + days) :
    moment ≤ now + (days + 2) * millisecondsPerDay := by
  rw [millisecondsPerDay] at h ⊢
  omega

theorem due_service_billed : (∃ i invoice, firstCycleDone.shared.invoices.get? i = some invoice ∧
    invoice.bills 0 (90 * millisecondsPerDay) ∧
    (invoice.collected ∨ i ∈ [] ++ Config.record (withdrawn _) ⟨dueDatabase, []⟩ (startsCycle 0 90 0) ++
      firstCycleReads.record (withdrawn _) firstCycle)) ∧
    BilledOnce firstCycleReads.shared firstCycleDone.shared := by
  have hread : firstCycleReads.threads[0]? =
      some ⟨.processCycle, CycleState.readServices ⟨0, cyclePolicy⟩⟩ :=
    thread_of_cycleState? (by decide +kernel)
  have hdone : firstCycleDone.threads[0]? = some ⟨.processCycle, CycleState.done (.ok ())⟩ :=
    thread_of_cycleState? (by decide +kernel)
  have hservice : firstCycleReads.shared.services.get? 0 = dueDatabase.services.get? 0 := by
    decide +kernel
  have hservice' : firstCycleDone.shared.services.get? 0 = dueDatabase.services.get? 0 := by
    decide +kernel
  have hbefore : Config.run ⟨dueDatabase, []⟩ (startsCycle 0 90 0) = some firstCycleReads :=
    run_eq_after (by decide +kernel)
  have hduring : firstCycleReads.run firstCycle = some firstCycleDone :=
    run_eq_after (by decide +kernel)
  have hguard : Guarded (settling _) ⟨dueDatabase, []⟩ (startsCycle 0 90 0) := by
    decide +kernel
  have hguard' : firstCycleReads.Guarded (settling _) firstCycle := by decide +kernel
  have hcollected : CollectedBut [] dueDatabase :=
    fun i invoice _ _ hinvoice => absurd hinvoice get?_empty_ne
  have hbilled := due_services_billed toString_nat_injective plainCalendar
    (renewalsSound_dueDatabase _) hcollected hbefore hguard hread hduring hguard' hdone hservice
    (by decide +kernel) (by decide +kernel) (by decide +kernel) (by decide +kernel) hservice' rfl
  exact ⟨hbilled.1, hbilled.2 (fun _ _ _ _ _ _ _ hinvoice => absurd hinvoice get?_empty_ne) _ _
    (reaches_of_run hbefore hguard) (reaches_of_run hduring hguard')⟩

end

end WebhostBilling
