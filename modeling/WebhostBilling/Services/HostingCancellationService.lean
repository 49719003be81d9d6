import WebhostBilling.Concurrency.Threads
import WebhostBilling.Database.World

/-!
# The hosting cancellation service

Each of asking for a cancellation, withdrawing the request and approving it is one transaction that
holds the lock of the service; the suspension itself is left to the worker, which is told by an
outbox event.
-/

namespace WebhostBilling

open Store Concurrency

namespace HostingCancellationService

/-! ## Requests and errors -/

structure HostingCancellationInput where
  timing : HostingCancellationTiming
  /-- `Date.parse(input.expectedEffectiveAt)`. -/
  expectedEffectiveAt : Option ℕ := none
  reason : Option String := none

structure Actor where
  role : UserRole
  customerId : Option RowId := none
  staffRole : Option StaffRole := none

structure CancelServiceRequest where
  serviceId : RowId
  input : HostingCancellationInput
  actor : Actor

/-- What `withdraw` and `approve` are called with. -/
structure ResolveRequest where
  serviceId : RowId
  cancellationId : RowId
  actor : Actor

def forbidden : Failure := .application .forbidden "You do not have access to this service."

def invalid (message : String) : Failure := .application .unprocessableEntity message

/-! ## What is read -/

def ownedService (db : Database) (serviceId : RowId) (actor : Actor) : Except Failure Service := do
  let service ← orThrow forbidden (db.services.get? serviceId)
  require (actor.role = .customer ∧ actor.customerId = some service.customerId) forbidden
  return service

def findRequest (db : Database) (serviceId cancellationId : RowId) :
    Except Failure HostingCancellationRequest :=
  orThrow (invalid "Cancellation request was not found.")
    ((db.cancellationRequests.get? cancellationId).filter fun request =>
      request.serviceId = serviceId)

/-- The request of a service that is open or completed.  There is at most one
(`hosting_cancellation_requests_one_effective_idx`). -/
def effectiveRequest (db : Database) (serviceId : RowId) :
    Option (RowId × HostingCancellationRequest) :=
  db.cancellationRequests.find? fun _ request =>
    request.serviceId = serviceId ∧ (request.status = .opened ∨ request.status = .completed)

/-! ## Events -/

def requestedEvent (serviceId cancellationId : RowId) : OutboxEvent where
  aggregateType := .service
  aggregateId := serviceId
  eventType := .emailHostingCancellationRequested
  idempotencyKey := .emailHostingCancellation cancellationId
  payload := .cancellation cancellationId

/-- `queueSuspension`. -/
def queueSuspension (serviceId cancellationId availableAt : ℕ) (db : Database) :
    Except Failure Database :=
  db.createOutboxEvent {
    aggregateType := .service
    aggregateId := serviceId
    eventType := .hostingCancellationSuspensionRequested
    availableAt := availableAt
    idempotencyKey := .hostingCancellation cancellationId
    payload := .hostingCancellation serviceId cancellationId }

/-! ## Request -/

def effectiveAt (input : HostingCancellationInput) (service : Service) : Option ℕ :=
  if input.timing = .endOfPeriod then some service.nextDueAt else none

/-- `input.reason || null`. -/
def reasonOf (input : HostingCancellationInput) : Option String := input.reason.filter (· ≠ "")

def newRequest (request : CancelServiceRequest) (service : Service) :
    HostingCancellationRequest where
  serviceId := request.serviceId
  reason := reasonOf request.input
  effectiveAt := effectiveAt request.input service

/-- The rest of `request` for a service without a request that is open or completed. -/
def createRequest (request : CancelServiceRequest) (service : Service) (now : ℕ) : Tx RowId :=
  fun db => do
    require (service.status = .active ∨ service.status = .suspended)
      (invalid "This service cannot be cancelled in its current state.")
    require (request.input.timing = .endOfPeriod →
        request.input.expectedEffectiveAt = some service.nextDueAt)
      (invalid "The billing date changed. Reload the service and review the new date.")
    require (∀ moment ∈ effectiveAt request.input service, now < moment)
      (invalid "This billing period has ended. Select immediate review.")
    let cancellationId := db.cancellationRequests.size
    let db := { db with
      cancellationRequests := db.cancellationRequests.insert (newRequest request service) }
    let db ← db.createOutboxEvent (requestedEvent request.serviceId cancellationId)
    match effectiveAt request.input service with
    | some moment => do
      let db ← queueSuspension request.serviceId cancellationId moment db
      return (db, cancellationId)
    | none => return (db, cancellationId)

/-- `request` returns the open request that asks for the same. -/
def requestTransaction (request : CancelServiceRequest) (now : ℕ) : Tx RowId := fun db => do
  let service ← ownedService db request.serviceId request.actor
  match effectiveRequest db request.serviceId with
  | some (cancellationId, existing) => do
    require (existing.status = .opened ∧ existing.timing = request.input.timing ∧
        existing.reason = reasonOf request.input)
      (invalid "This service already has a cancellation request.")
    return (db, cancellationId)
  | none => createRequest request service now db

/-! ## Withdraw and approve -/

def withdrawn (now : ℕ) (request : HostingCancellationRequest) : HostingCancellationRequest :=
  { request with status := .withdrawn, resolvedAt := some now }

def withdrawTransaction (request : ResolveRequest) (now : ℕ) : Tx RowId := fun db => do
  let _ ← ownedService db request.serviceId request.actor
  let current ← findRequest db request.serviceId request.cancellationId
  if current.status = .withdrawn then return (db, request.cancellationId)
  else do
    require (current.status = .opened ∧ current.approvedAt = none ∧
        ∀ moment ∈ current.effectiveAt, now < moment)
      (invalid "This cancellation can no longer be withdrawn.")
    return ({ db with
      cancellationRequests := db.cancellationRequests.update request.cancellationId
        (withdrawn now) }, request.cancellationId)

def approved (now : ℕ) (request : HostingCancellationRequest) : HostingCancellationRequest :=
  { request with approvedAt := some now }

def approveTransaction (request : ResolveRequest) (now : ℕ) : Tx RowId := fun db => do
  require (request.actor.role = .admin ∧ request.actor.staffRole = some .fullAdministrator)
    forbidden
  let current ← findRequest db request.serviceId request.cancellationId
  if current.approvedAt.isSome = true then return (db, request.cancellationId)
  else do
    require (current.status = .opened ∧ current.timing = .immediate)
      (invalid "Only a pending immediate request can be approved.")
    let db ← queueSuspension request.serviceId request.cancellationId now
      { db with
        cancellationRequests := db.cancellationRequests.update request.cancellationId
          (approved now) }
    return (db, request.cancellationId)

/-! ## The operations -/

inductive CancellationState (ι : Type)
  | transact (request : ι)
  | done (result : Except Failure RowId)

def cancellationStep {ι : Type} (tx : ι → ℕ → Tx RowId) (w : World) (db : Database) :
    CancellationState ι → Option (Database × CancellationState ι)
  | .transact request =>
    let out := atomically (tx request w.now) db
    some (out.1, .done out.2)
  | .done _ => none

/-- The operation whose transaction is `tx`. -/
def transactional {ι : Type} (tx : ι → ℕ → Tx RowId) : Operation Database World where
  Request := ι
  Local := CancellationState ι
  start := .transact
  step := cancellationStep tx

/-- `HostingCancellationService.request`. -/
def request : Operation Database World := transactional requestTransaction

/-- `HostingCancellationService.withdraw`. -/
def withdraw : Operation Database World := transactional withdrawTransaction

/-- `HostingCancellationService.approve`. -/
def approve : Operation Database World := transactional approveTransaction

/-! ### What they do -/

variable {db db' : Database} {id : RowId} {now : ℕ}

theorem cancellationStep_commits {ι : Type} {tx : ι → ℕ → Tx RowId} {w : World}
    {l l' : CancellationState ι}
    (h : cancellationStep tx w db l = some (db', l')) :
    db' = db ∨ ∃ request id, tx request w.now db = .ok (db', id) := by
  cases l with
  | transact request =>
    rw [cancellationStep, Option.some.injEq, Prod.mk.injEq] at h
    rw [← h.1]
    exact (atomically_fst _ _).imp_right fun ⟨id, hok⟩ => ⟨request, id, hok⟩
  | done => cases h

theorem queueSuspension_eq_ok {serviceId cancellationId availableAt : ℕ}
    (h : queueSuspension serviceId cancellationId availableAt db = .ok db') :
    ∃ events, db' = { db with outboxEvents := events } := by
  rw [queueSuspension, Database.createOutboxEvent_eq_ok] at h
  exact ⟨_, h.2⟩

theorem requestTransaction_eq_ok {request : CancelServiceRequest}
    (h : requestTransaction request now db = .ok (db', id)) :
    db' = db ∨ ∃ service events, db.services.get? request.serviceId = some service ∧
      effectiveRequest db request.serviceId = none ∧
      db' = { db with
        cancellationRequests := db.cancellationRequests.insert (newRequest request service)
        outboxEvents := events } := by
  simp only [requestTransaction, ownedService, eq_ok] at h
  obtain ⟨_, ⟨service, hservice, -, rfl⟩, h⟩ := h
  split at h
  · simp only [eq_ok] at h
    obtain ⟨-, h⟩ := h
    exact .inl h.1.symm
  · rename_i hnone
    simp only [createRequest, bind_eq_ok, require_eq_ok] at h
    obtain ⟨_, -, _, -, _, -, db₁, hevent, h⟩ := h
    rw [Database.createOutboxEvent_eq_ok] at hevent
    split at h
    · simp only [bind_eq_ok, pure_eq_ok] at h
      obtain ⟨db₂, hqueue, h⟩ := h
      obtain ⟨events, rfl⟩ := queueSuspension_eq_ok hqueue
      obtain ⟨rfl, -⟩ := Prod.mk.inj h
      rw [hevent.2]
      exact .inr ⟨service, events, hservice, hnone, rfl⟩
    · rw [pure_eq_ok] at h
      obtain ⟨rfl, -⟩ := Prod.mk.inj h
      exact .inr ⟨service, _, hservice, hnone, hevent.2⟩

theorem findRequest_eq_ok {serviceId cancellationId : RowId} {request : HostingCancellationRequest}
    (h : findRequest db serviceId cancellationId = .ok request) :
    db.cancellationRequests.get? cancellationId = some request ∧ request.serviceId = serviceId := by
  rw [findRequest, orThrow_eq_ok, Option.filter_eq_some_iff, decide_eq_true_eq] at h
  exact h

variable {request : ResolveRequest}

theorem withdrawTransaction_eq_ok (h : withdrawTransaction request now db = .ok (db', id)) :
    db' = db ∨ ∃ current, db.cancellationRequests.get? request.cancellationId = some current ∧
      current.status = .opened ∧
      db' = { db with
        cancellationRequests := db.cancellationRequests.update request.cancellationId
          (withdrawn now) } := by
  simp only [withdrawTransaction, bind_eq_ok] at h
  obtain ⟨_, -, current, hfind, h⟩ := h
  split at h
  · rw [pure_eq_ok] at h
    exact .inl (Prod.mk.inj h).1.symm
  · simp only [eq_ok] at h
    obtain ⟨⟨hopened, -⟩, h⟩ := h
    exact .inr ⟨current, (findRequest_eq_ok hfind).1, hopened, h.1.symm⟩

theorem approveTransaction_eq_ok (h : approveTransaction request now db = .ok (db', id)) :
    db' = db ∨ ∃ current events,
      db.cancellationRequests.get? request.cancellationId = some current ∧
      current.status = .opened ∧
      db' = { db with
        cancellationRequests := db.cancellationRequests.update request.cancellationId
          (approved now)
        outboxEvents := events } := by
  simp only [approveTransaction, bind_eq_ok, require_eq_ok] at h
  obtain ⟨_, -, current, hfind, h⟩ := h
  split at h
  · rw [pure_eq_ok] at h
    exact .inl (Prod.mk.inj h).1.symm
  · simp only [eq_ok] at h
    obtain ⟨⟨hopened, -⟩, db₁, hqueue, h⟩ := h
    obtain ⟨events, rfl⟩ := queueSuspension_eq_ok hqueue
    exact .inr ⟨current, events, (findRequest_eq_ok hfind).1, hopened,
      h.1.symm⟩

end HostingCancellationService

end WebhostBilling
