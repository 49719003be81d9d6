import WebhostBilling.Concurrency.Threads
import WebhostBilling.Database.HostingGuard
import WebhostBilling.Database.OrderGuard
import WebhostBilling.Database.World

/-!
# The service service

A transition is one transaction that holds the lock of the service's row.  `create` holds the lock
of the order item only: it reads the order first, and what it read decides whether the order is set
to processing at the end.
-/

namespace WebhostBilling

open Store Concurrency

namespace ServiceService

/-! ## The table of transitions -/

def allowedTransitions : ServiceStatus → List ServiceStatus
  | .pending => [.provisioning, .cancelled]
  | .provisioning => [.active, .provisionFailed, .cancelled]
  | .active => [.suspended, .terminated]
  | .suspended => [.active, .terminated]
  | .provisionFailed => [.provisioning, .cancelled]
  | .cancelled => []
  | .terminated => []

def isServiceTransitionAllowed (current next : ServiceStatus) : Bool :=
  next ∈ allowedTransitions current

def statusName : ServiceStatus → String
  | .pending => "PENDING"
  | .provisioning => "PROVISIONING"
  | .active => "ACTIVE"
  | .suspended => "SUSPENDED"
  | .provisionFailed => "PROVISION_FAILED"
  | .cancelled => "CANCELLED"
  | .terminated => "TERMINATED"

/-! ## Errors -/

def notFound : Failure := .application .resourceNotFound "Service was not found."

def invalid (message : String) : Failure := .application .unprocessableEntity message

def conflict (message : String) : Failure := .application .conflict message

/-! ## Moving a service -/

/-- `TransitionServiceRequest`, without the confirmation that its schema asks for. -/
inductive TransitionServiceInput
  | provisioning
  | active (externalAccountId controlPanelUsername : Option String)
  | suspended (reason : String)
  | provisionFailed (reason : String)
  | cancelled (reason : String)
  | terminated (reason : String)

def TransitionServiceInput.status : TransitionServiceInput → ServiceStatus
  | .provisioning => .provisioning
  | .active _ _ => .active
  | .suspended _ => .suspended
  | .provisionFailed _ => .provisionFailed
  | .cancelled _ => .cancelled
  | .terminated _ => .terminated

structure TransitionServiceRequest where
  serviceId : RowId
  input : TransitionServiceInput
  actorUserId : RowId

def completedCancellation (db : Database) (serviceId : RowId) : Bool :=
  db.cancellationRequests.any fun _ request =>
    request.serviceId = serviceId ∧ request.status = .completed

/-- A server takes new accounts. -/
def serverActive (db : Database) (service : Service) : Prop :=
  ∃ server ∈ db.servers.get? service.serverId, server.status = .active ∧ server.deletedAt = none
deriving Decidable

def transitionData (current : Service) (input : TransitionServiceInput) (actorUserId now : ℕ) :
    Except Failure (Service → Service) :=
  match input with
  | .provisioning => .ok fun service =>
    { service with
      status := .provisioning, provisioningFailureReason := none, updatedAt := now }
  | .active externalAccountId controlPanelUsername => do
    let externalAccountId := externalAccountId.or current.externalAccountId
    let controlPanelUsername := controlPanelUsername.or current.controlPanelUsername
    require (truthy externalAccountId = true ∧ truthy controlPanelUsername = true)
      (invalid "Activation requires an external account ID and control-panel username.")
    return fun service =>
      { service with
        status := .active
        externalAccountId := externalAccountId
        controlPanelUsername := controlPanelUsername
        activatedAt := current.activatedAt.or (some now)
        provisioningFailureReason := none
        suspensionInvoiceId := none
        updatedAt := now }
  | .suspended reason => .ok fun service =>
    { service with
      status := .suspended
      suspendedAt := some now
      suspensionReason := some reason
      suspensionInvoiceId := none
      updatedAt := now }
  | .provisionFailed reason => .ok fun service =>
    { service with
      status := .provisionFailed, provisioningFailureReason := some reason, updatedAt := now }
  | .cancelled reason => .ok fun service =>
    { service with
      status := .cancelled
      cancelledAt := some now
      cancellationReason := some reason
      updatedAt := now }
  | .terminated reason => .ok fun service =>
    { service with
      status := .terminated
      terminatedAt := some now
      terminationReason := some reason
      terminatedByUserId := some actorUserId
      updatedAt := now }

def emailEventType (current next : ServiceStatus) : Option OutboxEventType :=
  match next with
  | .suspended => some .emailServiceSuspended
  | .active =>
    if current = .suspended then some .emailServiceReactivated else some .emailServiceProvisioned
  | _ => none

def serviceEvent (serviceId : RowId) (eventType : OutboxEventType) (key : OutboxKey) :
    OutboxEvent where
  aggregateType := .service
  aggregateId := serviceId
  eventType := eventType
  idempotencyKey := key
  payload := .service serviceId

def announceTransition (serviceId : RowId) (current : Service) (next : ServiceStatus)
    (db : Database) : Except Failure Database :=
  match emailEventType current.status next with
  | some eventType => db.createOutboxEvent (serviceEvent serviceId eventType
      (.emailServiceTransition serviceId current.updatedAt next))
  | none => .ok db

def completeFulfilledOrder (orderItemId : Option RowId) (now : ℕ) (db : Database) :
    Except Failure Database :=
  match orderItemId.bind db.orderItems.get? with
  | none => .ok db
  | some item =>
    if db.orderFulfillmentComplete item.orderId = true then
      db.updateOrderWhile item.orderId [.processing] fun order =>
        { order with status := .completed, completedAt := some now, updatedAt := now }
    else .ok db

def completeOrderOnActivation (current : Service) (next : ServiceStatus) (now : ℕ)
    (db : Database) : Except Failure Database :=
  if next = .active then completeFulfilledOrder current.orderItemId now db else .ok db

/-- `transition`, which is one transaction. -/
def transitionTransaction (request : TransitionServiceRequest) (now : ℕ) : Tx Unit := fun db => do
  let current ← orThrow notFound (db.services.get? request.serviceId)
  let next := request.input.status
  require (¬ (next = .active ∧ current.status = .suspended ∧
      completedCancellation db request.serviceId = true))
    (invalid "This service has a completed cancellation.")
  require (isServiceTransitionAllowed current.status next = true)
    (invalid ("Service cannot move from " ++ statusName current.status ++ " to " ++
      statusName next ++ "."))
  require (next = .provisioning → serverActive db current)
    (invalid "The assigned server is not active.")
  let data ← transitionData current request.input request.actorUserId now
  let db ← db.updateService request.serviceId data
  let db ← announceTransition request.serviceId current next db
  let db ← completeOrderOnActivation current next now db
  return (db, ())

inductive TransitionState
  | transact (request : TransitionServiceRequest)
  | done (result : Except Failure Unit)

def transitionStep (w : World) (db : Database) :
    TransitionState → Option (Database × TransitionState)
  | .transact request =>
    let out := atomically (transitionTransaction request w.now) db
    some (out.1, .done out.2)
  | .done _ => none

/-- `ServiceService.transition`. -/
def transition : Operation Database World where
  Request := TransitionServiceRequest
  Local := TransitionState
  start := .transact
  step := transitionStep

/-! ### What a transition does -/

variable {db db' : Database} {now : ℕ}

theorem transitionData_status {current : Service} {input : TransitionServiceInput}
    {actorUserId : ℕ} {data : Service → Service}
    (h : transitionData current input actorUserId now = .ok data) (service : Service) :
    (data service).status = input.status := by
  cases input with
  | active externalAccountId controlPanelUsername =>
    simp only [transitionData, eq_ok] at h
    rw [← h.2]
    rfl
  | provisioning | suspended reason | provisionFailed reason =>
    rw [transitionData, Except.ok.injEq] at h; rw [← h]; rfl
  | cancelled reason | terminated reason => rw [transitionData, Except.ok.injEq] at h; rw [← h]; rfl

theorem completeFulfilledOrder_eq_ok {orderItemId : Option RowId}
    (h : completeFulfilledOrder orderItemId now db = .ok db') :
    ∃ orders, CompletionChecked now orderItemId db orders ∧ db' = { db with orders := orders } := by
  rw [completeFulfilledOrder] at h
  split at h
  · rename_i hnone
    refine ⟨db.orders, .left fun itemId item order hitemId hitem => ?_, (Except.ok.inj h).symm⟩
    rw [hitemId, Option.bind_some, hitem] at hnone
    cases hnone
  · rename_i item hsome
    obtain ⟨itemId, hitemId, hitem⟩ := Option.bind_eq_some_iff.1 hsome
    have hsame : ∀ itemId' item', orderItemId = some itemId' →
        db.orderItems.get? itemId' = some item' → item' = item := by
      intro itemId' item' hitemId' hitem'
      rw [hitemId', Option.bind_some, hitem', Option.some.injEq] at hsome
      exact hsome
    split at h
    · rename_i hcomplete
      rw [Database.updateOrderWhile] at h
      split at h
      · rename_i order horder
        split at h
        · rename_i hstatus
          obtain ⟨order', horder', hguard, rfl⟩ := db.updateOrder_eq_ok h
          exact ⟨_, .completed hitemId hitem horder (by simpa using hstatus) hcomplete hguard, rfl⟩
        · rename_i hstatus
          refine ⟨db.orders, .left fun itemId' item' order' hitemId' hitem' horder' hprocessing => ?_,
            (Except.ok.inj h).symm⟩
          rw [hsame itemId' item' hitemId' hitem', horder, Option.some.injEq] at horder'
          rw [horder', List.mem_singleton] at hstatus
          exact absurd hprocessing hstatus
      · rename_i hnone
        refine ⟨db.orders, .left fun itemId' item' order' hitemId' hitem' horder' _ => ?_,
          (Except.ok.inj h).symm⟩
        rw [hsame itemId' item' hitemId' hitem', hnone] at horder'
        cases horder'
    · rename_i hcomplete
      refine ⟨db.orders, .left fun itemId' item' order' hitemId' hitem' _ _ => ?_,
        (Except.ok.inj h).symm⟩
      rw [hsame itemId' item' hitemId' hitem']
      exact Bool.eq_false_iff.2 hcomplete

theorem announceTransition_eq_ok {serviceId : RowId} {current : Service} {next : ServiceStatus}
    (h : announceTransition serviceId current next db = .ok db') :
    ∃ events, db' = { db with outboxEvents := events } := by
  rw [announceTransition] at h
  split at h
  · rw [Database.createOutboxEvent_eq_ok] at h
    exact ⟨_, h.2⟩
  · exact ⟨db.outboxEvents, (Except.ok.inj h).symm⟩

theorem transitionTransaction_eq_ok {request : TransitionServiceRequest} {u : Unit}
    (h : transitionTransaction request now db = .ok (db', u)) :
    ∃ current data events orders, db.services.get? request.serviceId = some current ∧
      isServiceTransitionAllowed current.status request.input.status = true ∧
      transitionData current request.input request.actorUserId now = .ok data ∧
      (data current).Checked ∧
      OrdersChecked (request.input.status = .active) now current.orderItemId
        { db with services := db.services.update request.serviceId data } orders ∧
      db' = { db with
        services := db.services.update request.serviceId data
        outboxEvents := events
        orders := orders } := by
  simp only [transitionTransaction, eq_ok] at h
  obtain ⟨current, hcurrent, -, hallowed, -, data, hdata, db₁, hwrite, db₂, hevent, db₃, horder,
    rfl, -⟩ := h
  obtain ⟨service, hservice, hchecked, rfl⟩ := db.updateService_eq_ok hwrite
  obtain rfl := Option.mem_unique hcurrent hservice
  obtain ⟨events, rfl⟩ := announceTransition_eq_ok hevent
  rw [completeOrderOnActivation] at horder
  split at horder
  · rename_i hactive
    obtain ⟨orders, hcompleted, rfl⟩ := completeFulfilledOrder_eq_ok horder
    exact ⟨current, data, events, orders, hcurrent, hallowed, hdata, hchecked,
      Or.inr ⟨hactive, hcompleted.congr ⟨rfl, rfl, rfl, rfl, rfl, rfl⟩⟩, rfl⟩
  · rename_i hactive
    rw [Except.ok.injEq] at horder
    subst horder
    exact ⟨current, data, events, db.orders, hcurrent, hallowed, hdata, hchecked,
      Or.inl ⟨hactive, rfl⟩, rfl⟩

theorem transitionStep_writes {w : World} {l l' : TransitionState}
    (h : transitionStep w db l = some (db', l')) :
    db' = db ∨ ∃ request, transitionTransaction request w.now db = .ok (db', ()) := by
  unfold transitionStep at h
  split at h
  · rename_i request
    cases h
    exact (atomically_store rfl).imp_right fun ⟨_, hok⟩ => ⟨request, hok⟩
  · cases h

/-! ## Creating a service -/

structure CreateServiceRequest where
  orderItemId : RowId
  serverId : RowId

structure ServiceCreationResult where
  serviceId : RowId
  duplicate : Bool

def serviceOfOrderItem (db : Database) (orderItemId : RowId) : Option (RowId × Service) :=
  db.services.find? fun _ service => service.orderItemId = some orderItemId

def duplicateResult (existing : RowId × Service) (input : CreateServiceRequest) :
    Except Failure ServiceCreationResult := do
  require (existing.2.serverId = input.serverId)
    (conflict "This order item already has a service on another server.")
  return ⟨existing.1, true⟩

def assigned (db : Database) (serverId : RowId) : ℕ :=
  (db.services.select fun _ service => service.serverId = serverId ∧
    ¬ (service.status = .cancelled ∨ service.status = .terminated)).length

/-- `hostingBillingPeriodSchema`. -/
def hostingBillingPeriod (period : BillingPeriod) : Prop :=
  period = .monthly ∨ period = .quarterly ∨ period = .annual
deriving Decidable

def readItem (input : CreateServiceRequest) (db : Database) : Except Failure (OrderItem × Order) := do
  let unavailable := conflict "This order item already has a service or is unavailable."
  let item ← orThrow unavailable (db.orderItems.get? input.orderItemId)
  require (serviceOfOrderItem db input.orderItemId = none ∧ item.kind = .hosting) unavailable
  let order ← orThrow unavailable (db.orders.get? item.orderId)
  require (order.status = .paid ∨ order.status = .processing)
    (invalid "A service can be created only from a paid order awaiting fulfilment.")
  require (truthy item.requestedDomain = true)
    (invalid "The order item does not have a hosting domain.")
  return (item, order)

def requireServer (input : CreateServiceRequest) (activeAdapter : String) (db : Database) :
    Except Failure Unit := do
  let inactive := invalid "The selected server is not active."
  let server ← orThrow inactive (db.servers.get? input.serverId)
  require (server.adapterKey = activeAdapter ∧ server.status = .active ∧ server.deletedAt = none)
    inactive
  require (∀ maxAccounts ∈ server.maxAccounts, assigned db input.serverId < maxAccounts)
    (invalid "The selected server has reached its account limit.")

def startProcessing (item : OrderItem) (order : Order) (now : ℕ) (db : Database) :
    Except Failure Database :=
  if order.status = .paid then
    db.updateOrder item.orderId fun order =>
      { order with status := .processing, updatedAt := now }
  else .ok db

section

/- The calendar: when a service that starts at a moment is due. -/
variable (nextServiceDueAt : ℕ → BillingPeriod → ℕ)

def newService (input : CreateServiceRequest) (item : OrderItem) (order : Order) (now : ℕ) :
    Service where
  customerId := order.customerId
  orderItemId := some input.orderItemId
  serverId := input.serverId
  status := .pending
  domain := item.requestedDomain
  billingPeriod := item.billingPeriod
  recurringAmount := item.unitAmount
  currency := item.currency
  startedAt := now
  nextDueAt := nextServiceDueAt now item.billingPeriod
  updatedAt := now

/-- The rest of the transaction of `create`.  Its last write is not conditional on the status of
the order that was read at its start. -/
def createTransaction (input : CreateServiceRequest) (activeAdapter : String) (item : OrderItem)
    (order : Order) (now : ℕ) : Tx RowId := fun db => do
  requireServer input activeAdapter db
  require (hostingBillingPeriod item.billingPeriod) (.error "ZodError")
  let (db, serviceId) ← db.createService (newService nextServiceDueAt input item order now)
  let db ← startProcessing item order now db
  return (db, serviceId)

/-- How far a `create` request is; `item` and `order` are the rows as the transaction read them. -/
inductive CreateState
  | read (input : CreateServiceRequest)
  | readItem (input : CreateServiceRequest) (activeAdapter : String)
  | commit (input : CreateServiceRequest) (activeAdapter : String) (item : OrderItem)
      (order : Order)
  | race (input : CreateServiceRequest)
  | done (result : Except Failure ServiceCreationResult)

def createStep (w : World) (db : Database) : CreateState → Option (Database × CreateState)
  | .read input =>
    match serviceOfOrderItem db input.orderItemId with
    | some duplicate => some (db, .done (duplicateResult duplicate input))
    | none => some (db, .readItem input db.activeHostingPanelAdapter)
  | .readItem input activeAdapter =>
    match readItem input db with
    | .ok (item, order) => some (db, .commit input activeAdapter item order)
    | .error e => some (db, .done (.error e))
  | .commit input activeAdapter item order =>
    match atomically (createTransaction nextServiceDueAt input activeAdapter item order w.now) db with
    | (db', .ok serviceId) => some (db', .done (.ok ⟨serviceId, false⟩))
    | (db', .error .uniqueConstraint) => some (db', .race input)
    | (db', .error e) => some (db', .done (.error e))
  | .race input =>
    match serviceOfOrderItem db input.orderItemId with
    | some raced => some (db, .done (duplicateResult raced input))
    | none => some (db, .done (.error (conflict "The service could not be created safely.")))
  | .done _ => none

variable {input : CreateServiceRequest} {order : Order} {item : OrderItem} {activeAdapter : String}

variable {w : World} {serviceId : RowId}

theorem createStep_commit {l : CreateState} (h : createStep nextServiceDueAt w db l =
      some (db', .commit input activeAdapter item order)) :
    db' = db ∧ readItem input db = .ok (item, order) := by
  unfold createStep at h
  split at h
  · split at h <;> cases h
  · split at h
    · rename_i hread
      cases h
      exact ⟨rfl, hread⟩
    · cases h
  · split at h <;> cases h
  · split at h <;> cases h
  · cases h

/-- `ServiceService.create`. -/
def create : Operation Database World where
  Request := CreateServiceRequest
  Local := CreateState
  start := .read
  step := createStep nextServiceDueAt

/-! ### What creating a service does -/

theorem readItem_eq_ok (h : readItem input db = .ok (item, order)) :
    db.orderItems.get? input.orderItemId = some item ∧ db.orders.get? item.orderId = some order ∧
      (order.status = .paid ∨ order.status = .processing) := by
  simp only [readItem, eq_ok] at h
  obtain ⟨item', hitem, -, order', horder, hstatus, -, rfl, rfl⟩ := h
  exact ⟨hitem, horder, hstatus⟩

theorem readItem_hosting (h : readItem input db = .ok (item, order)) : item.kind = .hosting := by
  simp only [readItem, eq_ok] at h
  obtain ⟨item', -, ⟨-, hkind⟩, order', -, -, -, rfl, rfl⟩ := h
  exact hkind

theorem createTransaction_eq_ok
    (h : createTransaction nextServiceDueAt input activeAdapter item order now db =
      .ok (db', serviceId)) :
    (∀ id service, db.services.get? id = some service →
      service.orderItemId ≠ some input.orderItemId) ∧
    ∃ orders, (orders = db.orders ∨ order.status = .paid ∧
        orders = db.orders.update item.orderId fun order =>
          { order with status := .processing, updatedAt := now }) ∧
      db' = { db with
        services := db.services.insert (newService nextServiceDueAt input item order now)
        orders := orders } := by
  simp only [createTransaction, eq_ok] at h
  obtain ⟨-, -, -, ⟨db₁, id⟩, hcreate, db₂, hprocess, rfl, -⟩ := h
  obtain ⟨hfresh, hout⟩ := db.createService_eq_ok hcreate
  obtain ⟨rfl, -⟩ := Prod.mk.inj hout
  refine ⟨fun id service hservice => hfresh rfl id service hservice, ?_⟩
  rw [startProcessing] at hprocess
  split at hprocess
  · rename_i hpaid
    obtain ⟨_, _, _, rfl⟩ := Database.updateOrder_eq_ok _ hprocess
    exact ⟨_, .inr ⟨hpaid, rfl⟩, rfl⟩
  · exact ⟨_, .inl rfl, (Except.ok.inj hprocess).symm⟩

/-- The only step of `create` that writes is its commit. -/
theorem createStep_writes {l l' : CreateState}
    (h : createStep nextServiceDueAt w db l = some (db', l')) :
    db' = db ∨ ∃ input activeAdapter item order serviceId,
      l = .commit input activeAdapter item order ∧
      createTransaction nextServiceDueAt input activeAdapter item order w.now db =
        .ok (db', serviceId) := by
  unfold createStep at h
  split at h
  · split at h <;> exact .inl (Prod.mk.inj (Option.some.inj h)).1.symm
  · split at h <;> exact .inl (Prod.mk.inj (Option.some.inj h)).1.symm
  · rename_i input activeAdapter item order
    split at h <;>
    · rename_i heq
      cases h
      exact (atomically_store heq).imp_right fun ⟨serviceId, hok⟩ =>
        ⟨input, activeAdapter, item, order, serviceId, rfl, hok⟩
  · split at h <;> (cases h; exact .inl rfl)
  · cases h

end

end ServiceService

end WebhostBilling
