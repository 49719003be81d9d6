import WebhostBilling.Outbox.BackgroundQueue
import WebhostBilling.Renewal.RenewalProcessor

/-!
# Renewal payments

The worker applies the payment of a renewal invoice to the services that it renews: it moves their
due date to the end of the period that was paid for, and asks for a service that was suspended on
account of the invoice to be unsuspended.  A run row keeps a payment from being applied again.
-/

namespace WebhostBilling

open Store Store.Table Concurrency

namespace RenewalProcessorService

/-! ## The event of a job -/

def permanent (code : String) : Failure := .job .permanent code

def temporary (code : String) : Failure := .job .temporary code

/-- `publishedEvent`. -/
def publishedEvent (data : BackgroundJobData) (db : Database) : Except Failure OutboxEvent := do
  let event ← orThrow (permanent "RENEWAL_OUTBOX_REFERENCE_INVALID")
    (db.outboxEvents.get? data.outboxEventId)
  require (event.status ≠ .failed ∧ event.eventType = data.eventType ∧
      event.aggregateType = data.aggregateType ∧ event.aggregateId = data.aggregateId)
    (permanent "RENEWAL_OUTBOX_REFERENCE_INVALID")
  -- The queue can start the job before the dispatcher commits publication.
  require (event.status = .published) (temporary "RENEWAL_OUTBOX_PUBLICATION_PENDING")
  return event

/-- The payment and the invoice of a job, by `renewalPaymentPayloadSchema`; `process` takes a job
with another event elsewhere, or refuses it. -/
def renewalPaymentPayload (data : BackgroundJobData) (db : Database) :
    Except Failure (RowId × RowId) := do
  require (data.eventType = .renewalPaymentCompleted) (permanent "RENEWAL_EVENT_UNSUPPORTED")
  let event ← publishedEvent data db
  match event.payload with
  | .payment paymentId invoiceId => do
    require (paymentId = data.aggregateId) (permanent "RENEWAL_PAYMENT_PAYLOAD_INVALID")
    return (paymentId, invoiceId)
  | _ => throw (permanent "RENEWAL_PAYMENT_PAYLOAD_INVALID")

/-! ## The run of a payment -/

def upsertRun (db : Database) (paymentId : RowId) : Database × RowId × AutomationStatus :=
  match db.automationRuns.find? fun _ run => run.idempotencyKey = .renewalPayment paymentId with
  | some (runId, run) => (db, runId, run.status)
  | none =>
    let run : AutomationRun := { idempotencyKey := .renewalPayment paymentId }
    ({ db with automationRuns := db.automationRuns.insert run }, db.automationRuns.size, run.status)

def writeRun (runId : RowId) (status : AutomationStatus) (db : Database) : Database :=
  { db with automationRuns := db.automationRuns.update runId fun run =>
      { run with status := status } }

/-! ## Applying a payment -/

def settledItems (paymentId invoiceId : RowId) (db : Database) : List InvoiceItem :=
  match (db.payments.get? paymentId).filter fun payment =>
      payment.invoiceId = invoiceId ∧ payment.status = .succeeded with
  | none => []
  | some _ =>
    match (db.invoices.get? invoiceId).filter fun invoice =>
        invoice.status = .paid ∧ invoice.balanceDue = 0 with
    | none => []
    | some invoice => invoice.items.filter fun item => item.serviceId.isSome

def renewedService (periodEnd now : ℕ) (service : Service) : Service :=
  { service with nextDueAt := periodEnd, updatedAt := now }

def unsuspensionRequestedEvent (serviceId invoiceId automationRunId : RowId) : OutboxEvent where
  aggregateType := .service
  aggregateId := serviceId
  eventType := .hostingUnsuspensionRequested
  idempotencyKey := .automationUnsuspend serviceId invoiceId
  payload := .hostingAutomation serviceId invoiceId automationRunId

def advanceService (serviceId periodEnd now : ℕ) (service : Service) (db : Database) :
    Database × ℕ :=
  if service.nextDueAt < periodEnd then
    ({ db with services := db.services.update serviceId (renewedService periodEnd now) }, 1)
  else (db, 0)

def requestUnsuspension (serviceId invoiceId automationRunId : RowId) (service : Service)
    (db : Database) : Database × ℕ :=
  if service.status = .suspended ∧ service.suspensionInvoiceId = some invoiceId then
    db.createOutboxEventSkippingDuplicates
      (unsuspensionRequestedEvent serviceId invoiceId automationRunId)
  else (db, 0)

def applyItem (invoiceId automationRunId now : ℕ) (out : Database × ℕ) (item : InvoiceItem) :
    Database × ℕ :=
  match item.serviceId, item.servicePeriodEnd with
  | some serviceId, some periodEnd =>
    match out.1.services.get? serviceId with
    | none => out
    | some service =>
      let advanced := advanceService serviceId periodEnd now service out.1
      let requested := requestUnsuspension serviceId invoiceId automationRunId service advanced.1
      (requested.1, out.2 + advanced.2 + requested.2)
  | _, _ => out

/-- The rest of the transaction of `applyRenewalPayment`, for the items that its first read found.
It holds the lock of every service that it reads. -/
def applyItems (invoiceId automationRunId : RowId) (items : List InvoiceItem) (now : ℕ)
    (db : Database) : Database × ℕ :=
  items.foldl (applyItem invoiceId automationRunId now) (db, 0)

structure PaymentRun where
  paymentId : RowId
  invoiceId : RowId
  automationRunId : RowId

/-- How far the processing of a payment is; `items` are those that the application read. -/
inductive PaymentState
  | start (data : BackgroundJobData)
  | upsert (paymentId invoiceId : RowId)
  | read (run : PaymentRun)
  | apply (run : PaymentRun) (items : List InvoiceItem)
  | record (run : PaymentRun)
  | fail (run : PaymentRun)
  | done (result : Except Failure Unit)

/-- The worker goes on to record the run when it was told that a write was carried out. -/
def afterWrite (delivery : Delivery) (recorded failed : PaymentState) : PaymentState :=
  if delivery = .acknowledged then recorded else failed

def paymentStep (w : World) (db : Database) : PaymentState → Option (Database × PaymentState)
  | .start data =>
    match renewalPaymentPayload data db with
    | .ok (paymentId, invoiceId) => some (db, .upsert paymentId invoiceId)
    | .error e => some (db, .done (.error e))
  | .upsert paymentId invoiceId =>
    match upsertRun db paymentId with
    | (db', _, .succeeded) => some (db', .done (.ok ()))
    | (db', runId, _) => some (db', .read ⟨paymentId, invoiceId, runId⟩)
  | .read run => some (db, .apply run (settledItems run.paymentId run.invoiceId db))
  | .apply run items =>
    let applied := (applyItems run.invoiceId run.automationRunId items w.now db).1
    some (if w.databaseDelivery.carriedOut then applied else db,
      afterWrite w.databaseDelivery (.record run) (.fail run))
  | .record run =>
    some (if w.databaseDelivery.carriedOut then writeRun run.automationRunId .succeeded db else db,
      afterWrite w.databaseDelivery (.done (.ok ())) (.fail run))
  | .fail run => some (writeRun run.automationRunId .failed db,
      .done (.error (temporary "RENEWAL_PAYMENT_TEMPORARILY_UNAVAILABLE")))
  | .done _ => none

/-- `processPayment`. -/
def processPayment : Operation Database World where
  Request := BackgroundJobData
  Local := PaymentState
  start := .start
  step := paymentStep

/-! ### What applying a payment does -/

def appliedService (now : ℕ) (services : Table Service) (item : InvoiceItem) : Table Service :=
  match item.serviceId, item.servicePeriodEnd with
  | some serviceId, some periodEnd => services.update serviceId fun service =>
      if service.nextDueAt < periodEnd then renewedService periodEnd now service else service
  | _, _ => services

def appliedServices (now : ℕ) (services : Table Service) (items : List InvoiceItem) :
    Table Service :=
  items.foldl (appliedService now) services

theorem requestUnsuspension_eq (serviceId invoiceId automationRunId : RowId) (service : Service)
    (db : Database) : ∃ events,
      (requestUnsuspension serviceId invoiceId automationRunId service db).1 =
        { db with outboxEvents := events } := by
  rw [requestUnsuspension, Database.createOutboxEventSkippingDuplicates]
  split
  · split
    · exact ⟨db.outboxEvents, rfl⟩
    · exact ⟨_, rfl⟩
  · exact ⟨db.outboxEvents, rfl⟩

theorem applyItem_eq (invoiceId automationRunId now : ℕ) (out : Database × ℕ)
    (item : InvoiceItem) : ∃ events,
      (applyItem invoiceId automationRunId now out item).1 =
        { out.1 with
          services := appliedService now out.1.services item, outboxEvents := events } := by
  unfold applyItem appliedService
  split
  · rename_i serviceId periodEnd _ _
    split
    · rename_i hnone
      refine ⟨out.1.outboxEvents, ?_⟩
      rw [update_eq_self fun row hrow => absurd (hnone.symm.trans hrow) nofun]
    · rename_i service hservice
      obtain ⟨events, hevents⟩ := requestUnsuspension_eq serviceId invoiceId automationRunId service
        (advanceService serviceId periodEnd now service out.1).1
      refine ⟨events, ?_⟩
      simp only [hevents]
      rw [advanceService]
      split
      · rename_i hlt
        have hwrite : ∀ row, out.1.services.get? serviceId = some row →
            (if row.nextDueAt < periodEnd then renewedService periodEnd now row else row) =
              renewedService periodEnd now row := by
          intro row hrow
          rw [hservice, Option.some.injEq] at hrow
          rw [← hrow, if_pos hlt]
        rw [update_congr hwrite]
      · rename_i hge
        have hsame : ∀ row, out.1.services.get? serviceId = some row →
            (if row.nextDueAt < periodEnd then renewedService periodEnd now row else row) = row := by
          intro row hrow
          rw [hservice, Option.some.injEq] at hrow
          rw [← hrow, if_neg hge]
        rw [update_eq_self hsame]
  · exact ⟨out.1.outboxEvents, rfl⟩

theorem applyItems_eq (invoiceId automationRunId : RowId) (items : List InvoiceItem) (now : ℕ)
    (db : Database) : ∃ events,
      (applyItems invoiceId automationRunId items now db).1 =
        { db with services := appliedServices now db.services items, outboxEvents := events } := by
  have hfold : ∀ out : Database × ℕ, ∃ events,
      (items.foldl (applyItem invoiceId automationRunId now) out).1 =
        { out.1 with
          services := appliedServices now out.1.services items, outboxEvents := events } := by
    induction items with
    | nil => exact fun out => ⟨out.1.outboxEvents, rfl⟩
    | cons item items ih =>
      intro out
      obtain ⟨events, hitem⟩ := applyItem_eq invoiceId automationRunId now out item
      obtain ⟨events', hitems⟩ := ih (applyItem invoiceId automationRunId now out item)
      refine ⟨events', ?_⟩
      rw [List.foldl_cons, hitems, hitem]
      rfl
  exact hfold (db, 0)

variable {w : World} {db db' : Database}

theorem paymentStep_writes {l l' : PaymentState} (h : paymentStep w db l = some (db', l')) :
    (∃ runs, db' = { db with automationRuns := runs }) ∨
      ∃ run items events, l = .apply run items ∧ w.databaseDelivery.carriedOut = true ∧
        db' = { db with
          services := appliedServices w.now db.services items, outboxEvents := events } := by
  unfold paymentStep at h
  split at h
  · split at h <;> (cases h; exact .inl ⟨db.automationRuns, rfl⟩)
  · rename_i paymentId invoiceId
    have hupsert : ∃ runs, (upsertRun db paymentId).1 = { db with automationRuns := runs } := by
      rw [upsertRun]
      split
      · exact ⟨db.automationRuns, rfl⟩
      · exact ⟨_, rfl⟩
    split at h <;>
    · rename_i heq
      rw [heq] at hupsert
      cases h
      exact .inl hupsert
  · cases h
    exact .inl ⟨db.automationRuns, rfl⟩
  · rename_i run items
    cases h
    split
    · rename_i hdelivery
      obtain ⟨events, hevents⟩ :=
        applyItems_eq run.invoiceId run.automationRunId items w.now db
      exact .inr ⟨run, items, events, rfl, hdelivery, hevents⟩
    · exact .inl ⟨db.automationRuns, rfl⟩
  · cases h
    split
    · exact .inl ⟨_, rfl⟩
    · exact .inl ⟨db.automationRuns, rfl⟩
  · cases h
    exact .inl ⟨_, rfl⟩
  · cases h

theorem paymentStep_apply {l : PaymentState} {run : PaymentRun} {items : List InvoiceItem}
    (h : paymentStep w db l = some (db', .apply run items)) :
    db' = db ∧ items = settledItems run.paymentId run.invoiceId db := by
  unfold paymentStep at h
  split at h
  · split at h <;> cases h
  · split at h <;> cases h
  · cases h
    exact ⟨rfl, rfl⟩
  · have hstate := (Prod.mk.inj (Option.some.inj h)).2
    rw [afterWrite] at hstate
    split at hstate <;> cases hstate
  · have hstate := (Prod.mk.inj (Option.some.inj h)).2
    rw [afterWrite] at hstate
    split at hstate <;> cases hstate
  · cases h
  · cases h

theorem mem_settledItems {paymentId invoiceId : RowId} {item : InvoiceItem}
    (h : item ∈ settledItems paymentId invoiceId db) :
    ∃ invoice, db.invoices.get? invoiceId = some invoice ∧ invoice.status = .paid ∧
      item ∈ invoice.items ∧ item.serviceId.isSome = true := by
  unfold settledItems at h
  split at h
  · exact nomatch h
  · split at h
    · exact nomatch h
    · rename_i invoice hinvoice
      rw [Option.filter_eq_some_iff, decide_eq_true_eq] at hinvoice
      obtain ⟨hinvoice, hpaid, -⟩ := hinvoice
      rw [List.mem_filter] at h
      exact ⟨invoice, hinvoice, hpaid, h⟩

end RenewalProcessorService

end WebhostBilling
