import WebhostBilling.Concurrency.Threads
import WebhostBilling.Database.World

/-!
# Open renewal invoices

For a renewal invoice that is still to be paid the worker reminds the customer, marks the invoice
overdue, and asks for the suspension of its services when the grace period is over.  This is decided
on one read; every action is a write of its own, and one that fails is counted and left out.
-/

namespace WebhostBilling

open Store Concurrency

namespace RenewalProcessorService

/-- The part of `RenewalAutomationPolicy` that concerns open invoices. -/
structure RenewalAutomationPolicy where
  gracePeriodDays : ℕ
  reminderDaysBeforeDue : List ℕ
deriving DecidableEq

/-- One invoice of a cycle, which read the clock at `now`. -/
structure OpenRenewalRequest where
  invoiceId : RowId
  automationRunId : RowId
  now : ℕ
  policy : RenewalAutomationPolicy
deriving DecidableEq

/-- `processOpenRenewals` looks at the invoices that are to be paid and have an item of a service. -/
def openRenewal (invoice : Invoice) : Prop :=
  (invoice.status = .unpaid ∨ invoice.status = .overdue) ∧ 0 < invoice.balanceDue ∧
    ∃ item ∈ invoice.items, item.serviceId.isSome = true
deriving Decidable

/-! ## What is to be done for an invoice -/

inductive RenewalAction
  | createReminders
  | createReminder (days reminderNumber : ℕ)
  | markOverdue
  | requestSuspension (serviceId : RowId)
deriving DecidableEq

def activeServices (db : Database) (invoice : Invoice) : List RowId :=
  invoice.items.filterMap fun item => item.serviceId.filter fun serviceId =>
    (db.services.get? serviceId).any (·.status = .active)

section

/- The calendar: the number of the business date of a moment, in the time zone of the policy. -/
variable (businessDay : ℕ → ℤ)

def renewalActions (request : OpenRenewalRequest) (invoice : Invoice) (db : Database) :
    List RenewalAction :=
  (if invoice.status = .unpaid then [.createReminders] else []) ++
  (if businessDay invoice.dueAt < businessDay request.now then [.markOverdue] else []) ++
  (if businessDay invoice.dueAt + (request.policy.gracePeriodDays + 1) ≤ businessDay request.now then
    (activeServices db invoice).map .requestSuspension else [])

/-- The loop of `createReminders`: the reminders that are due, the earliest one first. -/
def dueReminders (policy : RenewalAutomationPolicy) (dueAt now : ℕ) : List RenewalAction :=
  if businessDay dueAt < businessDay now then []
  else
    let reminders := policy.reminderDaysBeforeDue.mergeSort fun a b => decide (b ≤ a)
    (reminders.zipIdx.filter fun entry => businessDay dueAt - entry.1 ≤ businessDay now).map
      fun entry => .createReminder entry.1 (entry.2 + 1)

/-! ## The writes -/

def renewalReminderEvent (invoiceId days reminderNumber : ℕ) : OutboxEvent where
  aggregateType := .invoice
  aggregateId := invoiceId
  eventType := .emailRenewalReminder
  idempotencyKey := .emailRenewalReminder invoiceId days
  payload := .renewalReminder invoiceId reminderNumber

def overdueNoticeEvent (invoiceId : RowId) : OutboxEvent where
  aggregateType := .invoice
  aggregateId := invoiceId
  eventType := .emailOverdueNotice
  idempotencyKey := .emailOverdueNotice invoiceId
  payload := .invoice invoiceId

def suspensionRequestedEvent (serviceId invoiceId automationRunId : RowId) : OutboxEvent where
  aggregateType := .service
  aggregateId := serviceId
  eventType := .hostingSuspensionRequested
  idempotencyKey := .automationSuspend serviceId invoiceId
  payload := .hostingAutomation serviceId invoiceId automationRunId

/-- The condition of `markOverdue`'s update. -/
def becomesOverdue (now : ℕ) (invoice : Invoice) : Prop :=
  invoice.status = .unpaid ∧ 0 < invoice.balanceDue ∧ invoice.dueAt ≤ now
deriving Decidable

def overdueInvoice (updatedAt : ℕ) (invoice : Invoice) : Invoice :=
  { invoice with status := .overdue, updatedAt := updatedAt }

/-- `markOverdue`. -/
def markOverdueTransaction (invoiceId now updatedAt : ℕ) : Tx Bool := fun db =>
  match (db.invoices.get? invoiceId).filter (becomesOverdue now) with
  | none => .ok (db, false)
  | some _ => do
    let db ← (db.updateInvoice invoiceId (overdueInvoice updatedAt)).createOutboxEvent
      (overdueNoticeEvent invoiceId)
    return (db, true)

def takeAction (request : OpenRenewalRequest) (dueAt : ℕ) (w : World) (db : Database) :
    RenewalAction → Database × List RenewalAction
  | .createReminders => (db, dueReminders businessDay request.policy dueAt w.now)
  | .createReminder days reminderNumber =>
    ((db.createOutboxEventSkippingDuplicates
      (renewalReminderEvent request.invoiceId days reminderNumber)).1, [])
  | .markOverdue =>
    ((atomically (markOverdueTransaction request.invoiceId request.now w.now) db).1, [])
  | .requestSuspension serviceId =>
    ((db.createOutboxEventSkippingDuplicates
      (suspensionRequestedEvent serviceId request.invoiceId request.automationRunId)).1, [])

/-- How far the processing of an invoice is; `dueAt` is the one that was read. -/
inductive OpenRenewalState
  | read (request : OpenRenewalRequest)
  | act (request : OpenRenewalRequest) (dueAt : ℕ) (actions : List RenewalAction)

def openRenewalStep (w : World) (db : Database) :
    OpenRenewalState → Option (Database × OpenRenewalState)
  | .read request =>
    match (db.invoices.get? request.invoiceId).filter openRenewal with
    | none => none
    | some invoice =>
      some (db, .act request invoice.dueAt (renewalActions businessDay request invoice db))
  | .act request dueAt (action :: actions) =>
    let out := takeAction businessDay request dueAt w db action
    some (out.1, .act request dueAt (out.2 ++ actions))
  | .act _ _ [] => none

/-- `processOpenRenewals`, for one of the invoices that it found. -/
def processOpenRenewals : Operation Database World where
  Request := OpenRenewalRequest
  Local := OpenRenewalState
  start := .read
  step := openRenewalStep businessDay

/-! ### What an action does -/

theorem markOverdueTransaction_eq_ok {invoiceId now updatedAt : ℕ} {db db' : Database}
    {marked : Bool} (h : markOverdueTransaction invoiceId now updatedAt db = .ok (db', marked)) :
    db' = db ∨ ∃ invoice, db.invoices.get? invoiceId = some invoice ∧ becomesOverdue now invoice ∧
      db' = { db with
        invoices := db.invoices.update invoiceId (overdueInvoice updatedAt)
        outboxEvents := db.outboxEvents.insert (overdueNoticeEvent invoiceId) } := by
  rw [markOverdueTransaction] at h
  split at h
  · exact .inl (Prod.mk.inj (Except.ok.inj h)).1.symm
  · rename_i invoice hinvoice
    rw [Option.filter_eq_some_iff] at hinvoice
    obtain ⟨hinvoice, hoverdue⟩ := hinvoice
    simp only [eq_ok, Database.createOutboxEvent_eq_ok] at h
    obtain ⟨_, ⟨-, rfl⟩, h⟩ := h
    exact .inr ⟨invoice, hinvoice, by simpa using hoverdue, h.1.symm⟩

theorem openRenewalStep_writes {w : World} {db db' : Database} {l l' : OpenRenewalState}
    (h : openRenewalStep businessDay w db l = some (db', l')) :
    (∃ events, db' = { db with outboxEvents := events }) ∨
      ∃ invoiceId now invoice events, db.invoices.get? invoiceId = some invoice ∧
        becomesOverdue now invoice ∧
        db' = { db with
          invoices := db.invoices.update invoiceId (overdueInvoice w.now)
          outboxEvents := events } := by
  have hevent : ∀ row : OutboxEvent, ∃ events,
      (db.createOutboxEventSkippingDuplicates row).1 = { db with outboxEvents := events } := by
    intro row
    rw [Database.createOutboxEventSkippingDuplicates]
    split
    · exact ⟨db.outboxEvents, rfl⟩
    · exact ⟨_, rfl⟩
  unfold openRenewalStep at h
  split at h
  · split at h
    · cases h
    · cases h
      exact .inl ⟨db.outboxEvents, rfl⟩
  · rename_i request dueAt action actions
    cases h
    cases action with
    | createReminders => exact .inl ⟨db.outboxEvents, rfl⟩
    | createReminder days reminderNumber | requestSuspension serviceId => exact .inl (hevent _)
    | markOverdue =>
      simp only [takeAction]
      rcases atomically_fst (markOverdueTransaction request.invoiceId request.now w.now) db with
        hsame | ⟨marked, hok⟩
      · rw [hsame]
        exact .inl ⟨db.outboxEvents, rfl⟩
      · rcases markOverdueTransaction_eq_ok hok with hsame | ⟨invoice, hinvoice, hoverdue, hwrite⟩
        · rw [hsame]
          exact .inl ⟨db.outboxEvents, rfl⟩
        · exact .inr ⟨_, _, invoice, _, hinvoice, hoverdue, hwrite⟩
  · cases h

end

end RenewalProcessorService

end WebhostBilling
