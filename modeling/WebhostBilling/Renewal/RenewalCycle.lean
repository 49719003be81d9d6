import Mathlib.Data.List.Sort
import WebhostBilling.Renewal.OpenRenewals
import WebhostBilling.Renewal.RenewalCalendar
import WebhostBilling.Renewal.RenewalPayments

/-!
# The renewal cycle

The job bills every service whose next period begins within the lead days of the policy, and then
takes the actions that the open invoices call for.  Each is a write of its own; one that fails is
counted, and the job fails at its end when any did.  The services are read once, and so are the open
invoices, a thousand rows at most of either.
-/

namespace WebhostBilling

open Store Concurrency RenewalCalendar

namespace RenewalProcessorService

/-- The part of `RenewalAutomationPolicy` that a cycle works by; `businessDay` stands for the time
zone. -/
structure RenewalCyclePolicy extends RenewalAutomationPolicy where
  invoiceLeadDays : ℕ
deriving DecidableEq

structure CycleRequest where
  data : BackgroundJobData
  policy : RenewalCyclePolicy
deriving DecidableEq

structure CycleRun where
  automationRunId : RowId
  policy : RenewalCyclePolicy
deriving DecidableEq

structure Counters where
  processed : ℕ := 0
  succeeded : ℕ := 0
  failed : ℕ := 0
deriving DecidableEq

def Counters.count (counters : Counters) : Option Bool → Counters
  | some changed =>
    { counters with
      processed := counters.processed + 1
      succeeded := counters.succeeded + changed.toNat }
  | none =>
    { counters with processed := counters.processed + 1, failed := counters.failed + 1 }

def attempt (delivery : Delivery) (tx : Tx Bool) (db : Database) : Database × Option Bool :=
  if delivery.carriedOut then
    let out := atomically tx db
    (out.1, if delivery = .acknowledged then out.2.toOption else none)
  else (db, none)

/-! ## The services that are due -/

def recurring (db : Database) (serviceId : RowId) (service : Service) : Prop :=
  (service.status = .active ∨ service.status = .suspended) ∧
    hostingBillingPeriod service.billingPeriod ∧
    db.cancellationRequests.any (fun _ request => request.serviceId = serviceId ∧
      (request.status = .opened ∨ request.status = .completed)) = false
deriving Decidable

def broadCutoff (policy : RenewalCyclePolicy) (now : ℕ) : ℕ :=
  now + (policy.invoiceLeadDays + 2) * millisecondsPerDay

/-- The services that a cycle reads. -/
def candidates (policy : RenewalCyclePolicy) (now : ℕ) (db : Database) : List (RowId × ℕ) :=
  (db.services.select fun serviceId service =>
    recurring db serviceId service ∧ service.nextDueAt ≤ broadCutoff policy now).map
      fun entry => (entry.1, entry.2.nextDueAt)

/-- The order in which the services are read. -/
def dueBefore (a b : RowId × ℕ) : Prop := a.2 < b.2 ∨ a.2 = b.2 ∧ a.1 ≤ b.1
deriving Decidable

/-- What `createDueInvoices` reads. -/
def dueServices (policy : RenewalCyclePolicy) (now : ℕ) (db : Database) : List (RowId × ℕ) :=
  ((candidates policy now db).insertionSort dueBefore).take 1000

section

variable (rt : Runtime)
/- The calendar: the number of the business date of a moment, in the time zone of the policy. -/
variable (businessDay : ℕ → ℤ)

/-- The lead date of the next period has come. -/
def leadDatePassed (policy : RenewalCyclePolicy) (now nextDueAt : ℕ) : Prop :=
  businessDay nextDueAt - policy.invoiceLeadDays ≤ businessDay now
deriving Decidable

/-- `createRenewalInvoice`: a period that is billed twice at the same time is no failure. -/
def createRenewalInvoiceTx (request : RenewalRequest) : Tx Bool := fun db =>
  match renewalTransaction rt addBillingPeriod request db with
  | .error .uniqueConstraint => .ok (db, false)
  | result => result

/-! ## The open invoices -/

structure OpenInvoice where
  request : OpenRenewalRequest
  dueAt : ℕ
  actions : List RenewalAction
deriving DecidableEq

def dueFirst (a b : RowId × Invoice) : Prop :=
  a.2.dueAt < b.2.dueAt ∨ a.2.dueAt = b.2.dueAt ∧ a.1 ≤ b.1
deriving Decidable

/-- What `processOpenRenewals` reads. -/
def openInvoices (run : CycleRun) (now : ℕ) (db : Database) : List OpenInvoice :=
  (((db.invoices.select fun _ invoice => openRenewal invoice).insertionSort dueFirst).take 1000).map
    fun entry =>
      let request : OpenRenewalRequest :=
        ⟨entry.1, run.automationRunId, now, run.policy.toRenewalAutomationPolicy⟩
      ⟨request, entry.2.dueAt, renewalActions businessDay request entry.2 db⟩

/-- `createMany` of one event with `skipDuplicates`. -/
def announceOnce (event : OutboxEvent) : Tx Bool := fun db =>
  let out := db.createOutboxEventSkippingDuplicates event
  .ok (out.1, decide (out.2 = 1))

def actionTx (request : OpenRenewalRequest) (w : World) : RenewalAction → Option (Tx Bool)
  | .createReminders => none
  | .createReminder days reminderNumber =>
    some (announceOnce (renewalReminderEvent request.invoiceId days reminderNumber))
  | .markOverdue => some (markOverdueTransaction request.invoiceId request.now w.now)
  | .requestSuspension serviceId =>
    some (announceOnce
      (suspensionRequestedEvent serviceId request.invoiceId request.automationRunId))

/-! ## The job -/

/-- `renewalCyclePayloadSchema`: the run of the job. -/
def renewalCyclePayload (data : BackgroundJobData) (db : Database) : Except Failure RowId := do
  require (data.eventType = .renewalInvoiceGenerationRequested)
    (permanent "RENEWAL_EVENT_UNSUPPORTED")
  let event ← publishedEvent data db
  match event.payload with
  | .renewalCycle automationRunId => do
    require (automationRunId = data.aggregateId) (permanent "RENEWAL_CYCLE_PAYLOAD_INVALID")
    return automationRunId
  | _ => throw (permanent "RENEWAL_CYCLE_PAYLOAD_INVALID")

/-- How far a cycle is.  The clock of `createInvoices` is read with the services, and every open
invoice carries the one that was read with it. -/
inductive CycleState
  | start (request : CycleRequest)
  | findRun (run : CycleRun)
  | readServices (run : CycleRun)
  | createInvoices (run : CycleRun) (now : ℕ) (services : List (RowId × ℕ)) (counters : Counters)
  | readInvoices (run : CycleRun) (counters : Counters)
  | act (run : CycleRun) (invoices : List OpenInvoice) (counters : Counters)
  | finish (run : CycleRun) (counters : Counters)
  | fail (run : CycleRun) (counters : Counters)
  | done (result : Except Failure Unit)
deriving DecidableEq

/-- `finishRun`'s status. -/
def finalStatus (counters : Counters) : AutomationStatus :=
  if counters.failed = 0 then .succeeded
  else if 0 < counters.succeeded then .partiallySucceeded else .failed

def createDueInvoice (run : CycleRun) (now : ℕ) (entry : RowId × ℕ) (counters : Counters) (w : World)
    (db : Database) : Database × Counters :=
  if leadDatePassed businessDay run.policy now entry.2 then
    let out := attempt w.databaseDelivery
      (createRenewalInvoiceTx rt ⟨entry.1, run.automationRunId, now⟩) db
    (out.1, counters.count out.2)
  else (db, counters)

def takeNextAction (invoice : OpenInvoice) (action : RenewalAction) (counters : Counters) (w : World)
    (db : Database) : Database × Counters :=
  match actionTx invoice.request w action with
  | none => (db, counters)
  | some tx =>
    let out := attempt w.databaseDelivery tx db
    (out.1, counters.count out.2)

/-- The reminders that `createReminders` finds due when it reads the clock. -/
def followUps (invoice : OpenInvoice) (w : World) : RenewalAction → List RenewalAction
  | .createReminders => dueReminders businessDay invoice.request.policy invoice.dueAt w.now
  | _ => []

def cycleStep (w : World) (db : Database) : CycleState → Option (Database × CycleState)
  | .start request =>
    match renewalCyclePayload request.data db with
    | .ok automationRunId => some (db, .findRun ⟨automationRunId, request.policy⟩)
    | .error e => some (db, .done (.error e))
  | .findRun run =>
    match db.automationRuns.get? run.automationRunId with
    | none => some (db, .done (.error (permanent "RENEWAL_RUN_UNAVAILABLE")))
    | some row =>
      if row.status = .succeeded ∨ row.status = .skipped then some (db, .done (.ok ()))
      else some (db, .readServices run)
  | .readServices run =>
    if w.databaseDelivery = .acknowledged then
      some (db, .createInvoices run w.now (dueServices run.policy w.now db) {})
    else some (db, .fail run {})
  | .createInvoices run _ [] counters => some (db, .readInvoices run counters)
  | .createInvoices run now (entry :: services) counters =>
    let out := createDueInvoice rt businessDay run now entry counters w db
    some (out.1, .createInvoices run now services out.2)
  | .readInvoices run counters =>
    if w.databaseDelivery = .acknowledged then
      some (db, .act run (openInvoices businessDay run w.now db) counters)
    else some (db, .fail run counters)
  | .act run [] counters => some (db, .finish run counters)
  | .act run (⟨_, _, []⟩ :: invoices) counters => some (db, .act run invoices counters)
  | .act run (⟨request, dueAt, action :: actions⟩ :: invoices) counters =>
    let invoice : OpenInvoice := ⟨request, dueAt, actions⟩
    let out := takeNextAction invoice action counters w db
    some (out.1, .act run
      ({ invoice with actions := followUps businessDay invoice w action ++ actions } :: invoices) out.2)
  | .finish run counters =>
    some (writeRun run.automationRunId (finalStatus counters) db,
      .done (if 0 < counters.failed then .error (temporary "RENEWAL_ACTIONS_FAILED") else .ok ()))
  | .fail run _ =>
    some (writeRun run.automationRunId .failed db,
      .done (.error (temporary "RENEWAL_CYCLE_TEMPORARILY_UNAVAILABLE")))
  | .done _ => none

/-- `processCycle`. -/
def processCycle : Operation Database World where
  Request := CycleRequest
  Local := CycleState
  start := .start
  step := cycleStep rt businessDay

end

end RenewalProcessorService

end WebhostBilling
