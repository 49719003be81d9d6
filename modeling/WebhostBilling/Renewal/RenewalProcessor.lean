import WebhostBilling.Invoices.InvoiceService

/-!
# The renewal processor

The worker bills a service's next period some days before it is due, and applies a payment of such
an invoice to the service.
-/

namespace WebhostBilling

open Store Concurrency

namespace RenewalProcessorService

/-! ## Renewal invoices -/

structure RenewalRequest where
  serviceId : RowId
  automationRunId : RowId
  now : ℕ

/-- `hostingBillingPeriodSchema`. -/
def hostingBillingPeriod (period : BillingPeriod) : Prop :=
  period = .monthly ∨ period = .quarterly ∨ period = .annual
deriving Decidable

def renewingAddOns (db : Database) (service : Service) : List (RowId × OrderItem) :=
  match service.orderItemId.bind db.orderItems.get? with
  | none => []
  | some orderItem => db.orderItems.select fun _ item =>
    item.orderId = orderItem.orderId ∧ item.kind = .addOn ∧
    item.billingPeriod = service.billingPeriod ∧ item.currency = service.currency ∧
    item.fulfilledAt.isSome ∧ (∀ endsAt ∈ item.renewalEndsAt, service.nextDueAt < endsAt)

def serviceLine (serviceId : RowId) (service : Service) (periodEnd : ℕ) : InvoiceItem where
  serviceId := some serviceId
  unitAmount := service.recurringAmount
  lineTotal := service.recurringAmount
  servicePeriodStart := some service.nextDueAt
  servicePeriodEnd := some periodEnd

def addOnLine (service : Service) (periodEnd : ℕ) (entry : RowId × OrderItem) : InvoiceItem where
  orderItemId := some entry.1
  quantity := entry.2.quantity
  unitAmount := entry.2.unitAmount
  lineTotal := entry.2.lineTotal
  servicePeriodStart := some service.nextDueAt
  servicePeriodEnd := some periodEnd

def renewalTotal (service : Service) (addOns : List (RowId × OrderItem)) : ℤ :=
  addOns.foldl (fun sum entry => sum + entry.2.lineTotal) service.recurringAmount

/-- `renewal:${service.id}:${periodStart.toISOString()}`. -/
def renewalKey (rt : Runtime) (serviceId : RowId) (periodStart : ℕ) : String :=
  "renewal:" ++ toString serviceId ++ ":" ++ rt.toISOString periodStart

def renewalInvoice (rt : Runtime) (serviceId : RowId) (service : Service)
    (addOns : List (RowId × OrderItem)) (periodEnd now : ℕ) : Invoice :=
  let total := renewalTotal service addOns
  { submissionKey := renewalKey rt serviceId service.nextDueAt
    customerId := service.customerId
    status := if total = 0 then .paid else .unpaid
    currency := service.currency
    subtotal := total
    total := total
    amountPaid := 0
    balanceDue := total
    issuedAt := some now
    -- A late invoice gets its full grace period from the day it is issued.
    dueAt := if service.nextDueAt < now then now else service.nextDueAt
    paidAt := if total = 0 then some now else none
    updatedAt := now
    items := serviceLine serviceId service periodEnd :: addOns.map (addOnLine service periodEnd) }

def invoiceCreatedEvent (invoiceId : RowId) : OutboxEvent where
  aggregateType := .invoice
  aggregateId := invoiceId
  eventType := .emailInvoiceCreated
  idempotencyKey := .emailInvoiceCreated invoiceId
  payload := .invoice invoiceId

/-- The service may be billed for another period. -/
def renewable (db : Database) (serviceId : RowId) (service : Service) : Prop :=
  (service.status = .active ∨ service.status = .suspended) ∧
    (∀ customer ∈ db.customers.get? service.customerId, customer.deleted = false) ∧
    db.cancellationRequests.any (fun _ request => request.serviceId = serviceId ∧
      (request.status = .opened ∨ request.status = .completed)) = false
deriving Decidable

def periodBilled (db : Database) (serviceId : RowId) (periodStart periodEnd : ℕ) : Bool :=
  db.invoices.any fun _ invoice => invoice.items.any fun item =>
    item.serviceId = some serviceId ∧ item.servicePeriodStart = some periodStart ∧
    item.servicePeriodEnd = some periodEnd

section

variable (rt : Runtime)
/- The calendar: the moment one billing period after another. -/
variable (addBillingPeriod : ℕ → BillingPeriod → ℕ)

def advanceFreePeriod (total : ℤ) (serviceId : RowId) (periodEnd now : ℕ) (db : Database) :
    Database :=
  if total = 0 then
    { db with
      services := db.services.update serviceId fun service =>
        { service with nextDueAt := periodEnd, updatedAt := now } }
  else db

/-- The transaction of `createRenewalInvoice` for a service whose period is to be billed. -/
def billPeriod (request : RenewalRequest) (service : Service) (periodEnd : ℕ) : Tx Bool :=
  fun db => do
    let addOns := renewingAddOns db service
    let total := renewalTotal service addOns
    require (total ≤ InvoiceService.postgresBigintMax)
      (.error "Renewal invoice total exceeds the supported range.")
    let (db, invoiceId) ← db.createInvoice
      (renewalInvoice rt request.serviceId service addOns periodEnd request.now)
    let db := advanceFreePeriod total request.serviceId periodEnd request.now db
    let db ← db.createOutboxEvent (invoiceCreatedEvent invoiceId)
    return (db, true)

/-- The transaction of `createRenewalInvoice`. -/
def renewalTransaction (request : RenewalRequest) : Tx Bool := fun db =>
  match db.services.get? request.serviceId with
  | none => .ok (db, false)
  | some service =>
    let periodEnd := addBillingPeriod service.nextDueAt service.billingPeriod
    if ¬ renewable db request.serviceId service then .ok (db, false)
    else if ¬ hostingBillingPeriod service.billingPeriod then .error (.error "ZodError")
    else if periodBilled db request.serviceId service.nextDueAt periodEnd then .ok (db, false)
    else billPeriod rt request service periodEnd db

variable {created : Bool} {db db' : Database} {request : RenewalRequest}

variable {service : Service} {periodEnd : ℕ} {l l' : RenewalState}

theorem billPeriod_eq_ok (h : billPeriod rt request service periodEnd db = .ok (db', created)) :
    db' = { db with
      invoices := db.invoices.insert (renewalInvoice rt request.serviceId service
        (renewingAddOns db service) periodEnd request.now)
      services := if renewalTotal service (renewingAddOns db service) = 0 then
        db.services.update request.serviceId fun service =>
          { service with nextDueAt := periodEnd, updatedAt := request.now }
        else db.services
      outboxEvents := db.outboxEvents.insert (invoiceCreatedEvent db.invoices.size) } := by
  simp only [billPeriod, eq_ok] at h
  obtain ⟨-, ⟨db₁, invoiceId⟩, hinvoice, db₂, hevent, rfl, -⟩ := h
  rw [Database.createInvoice_eq_ok] at hinvoice
  obtain ⟨rfl, rfl⟩ := Prod.mk.inj hinvoice.2
  rw [Database.createOutboxEvent_eq_ok] at hevent
  rw [hevent.2, advanceFreePeriod]
  split <;> rfl

theorem renewalTransaction_eq_ok
    (h : renewalTransaction rt addBillingPeriod request db = .ok (db', created)) :
    db' = db ∨ ∃ service, db.services.get? request.serviceId = some service ∧
      renewable db request.serviceId service ∧ hostingBillingPeriod service.billingPeriod ∧
      periodBilled db request.serviceId service.nextDueAt
        (addBillingPeriod service.nextDueAt service.billingPeriod) = false ∧
      billPeriod rt request service
        (addBillingPeriod service.nextDueAt service.billingPeriod) db = .ok (db', created) := by
  rw [renewalTransaction] at h
  split at h
  · exact .inl (Prod.mk.inj (Except.ok.inj h)).1.symm
  · rename_i service hservice
    simp only at h
    split at h
    · exact .inl (Prod.mk.inj (Except.ok.inj h)).1.symm
    · rename_i hrenewable
      split at h
      · exact absurd h (by simp)
      · rename_i hperiod
        split at h
        · exact .inl (Prod.mk.inj (Except.ok.inj h)).1.symm
        · rename_i hbilled
          exact .inr ⟨service, hservice, Decidable.not_not.1 hrenewable,
            Decidable.not_not.1 hperiod, Bool.eq_false_iff.2 hbilled, h⟩

inductive RenewalState
  | transact (request : RenewalRequest)
  | done (result : Except Failure Bool)

def renewalStep (_ : World) (db : Database) : RenewalState → Option (Database × RenewalState)
  | .transact request =>
    match atomically (renewalTransaction rt addBillingPeriod request) db with
    | (db', .ok created) => some (db', .done (.ok created))
    | (db', .error .uniqueConstraint) => some (db', .done (.ok false))
    | (db', .error e) => some (db', .done (.error e))
  | .done _ => none

theorem renewalStep_commits (w : World)
    (h : renewalStep rt addBillingPeriod w db l = some (db', l')) :
    db' = db ∨ ∃ request created, l = .transact request ∧
      renewalTransaction rt addBillingPeriod request db = .ok (db', created) := by
  unfold renewalStep at h
  split at h
  · rename_i request
    split at h <;>
    · rename_i heq
      cases h
      exact (atomically_store heq).imp_right fun ⟨created, hok⟩ => ⟨request, created, rfl, hok⟩
  · cases h

theorem renewalStep_writes (w : World)
    (h : renewalStep rt addBillingPeriod w db l = some (db', l')) :
    db' = db ∨ ∃ request created,
      renewalTransaction rt addBillingPeriod request db = .ok (db', created) :=
  (renewalStep_commits rt addBillingPeriod w h).imp_right
    fun ⟨request, created, _, hok⟩ => ⟨request, created, hok⟩

/-- `createRenewalInvoice`, for one of the services that `createDueInvoices` found. -/
def createRenewalInvoice : Operation Database World where
  Request := RenewalRequest
  Local := RenewalState
  start := .transact
  step := renewalStep rt addBillingPeriod

end

end RenewalProcessorService

end WebhostBilling
