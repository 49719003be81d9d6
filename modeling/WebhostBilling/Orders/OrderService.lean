import WebhostBilling.Database.OrderGuard
import WebhostBilling.Database.World
import WebhostBilling.Concurrency.Threads

/-!
# The order service

An administrator moves an order along `allowedTransitions`, and marks the add-ons of a paid order
as fulfilled.  `updateStatus` decides on a read made before its transaction; `fulfillAddOn` reads
everything under the locks of the invoice and the order.
-/

namespace WebhostBilling

open Store Concurrency

namespace OrderService

/-! ## The table of transitions -/

def allowedTransitions : OrderStatus → List OrderStatus
  | .pending => [.awaitingPayment, .rejected, .cancelled, .failed]
  | .awaitingPayment => [.paid, .rejected, .cancelled, .failed]
  | .paid => [.processing]
  | .processing => [.completed, .failed]
  | .completed => []
  | .rejected => []
  | .cancelled => []
  | .failed => [.processing, .cancelled]

def isOrderTransitionAllowed (current next : OrderStatus) : Bool :=
  next ∈ allowedTransitions current

def statusName : OrderStatus → String
  | .pending => "PENDING"
  | .awaitingPayment => "AWAITING_PAYMENT"
  | .paid => "PAID"
  | .processing => "PROCESSING"
  | .completed => "COMPLETED"
  | .rejected => "REJECTED"
  | .cancelled => "CANCELLED"
  | .failed => "FAILED"

/-! ## Errors -/

def notFound : Failure := .application .resourceNotFound "Order was not found."

def invalid (message : String) : Failure := .application .unprocessableEntity message

def conflict (message : String) : Failure := .application .conflict message

/-! ## Moving an order -/

structure UpdateOrderStatusRequest where
  orderId : RowId
  status : OrderStatus

def requestedDomain (db : Database) (orderId : RowId) : Option (RowId × Domain) :=
  db.domains.find? fun _ domain => domain.orderItemId.any fun itemId =>
    (db.itemsOfOrder orderId).any (·.1 = itemId)

def claimed (db : Database) (domainId : RowId) : Bool :=
  db.registrarOperations.any fun _ operation =>
    operation.domainId = domainId ∧ operation.claimedAt.isSome

def requireNoRegistration (db : Database) (orderId : RowId) (status : OrderStatus) :
    Except Failure Unit :=
  match requestedDomain db orderId with
  | none => .ok ()
  | some (domainId, _) => do
    require (status ≠ .processing)
      (conflict "Use the domain registration review to approve this order.")
    require (¬ (status = .completed ∨ claimed db domainId = true ∧
        (status = .cancelled ∨ status = .rejected ∨ status = .failed)))
      (conflict
        "Use the domain registration review; a claimed registration requires reconciliation.")

def requireFulfilled (db : Database) (orderId : RowId) (status : OrderStatus) :
    Except Failure Unit :=
  require (status = .completed → (db.itemsOfOrder orderId).any (·.2.kind = .addOn) = true →
      db.orderFulfillmentComplete orderId = true)
    (conflict "Finish hosting and add-on fulfillment before completing this order.")

def statusData (status : OrderStatus) (decidedAt now : ℕ) (order : Order) : Order :=
  { order with
    status := status
    completedAt := if status = .completed then some decidedAt else order.completedAt
    cancelledAt := if status = .cancelled ∨ status = .rejected then some decidedAt
      else order.cancelledAt
    updatedAt := now }

/-- A closed order takes its invoices that are not overdue or paid along. -/
def cancelInvoices (orderId : RowId) (decidedAt now : ℕ) (db : Database) : Database :=
  { db with
    invoices := db.invoices.updateWhere
      (fun _ invoice => invoice.orderId = some orderId ∧
        (invoice.status = .draft ∨ invoice.status = .unpaid))
      fun invoice =>
        { invoice with status := .cancelled, cancelledAt := some decidedAt, updatedAt := now } }

def orderApprovedEvent (orderId : RowId) (updatedAt : ℕ) : OutboxEvent where
  aggregateType := .order
  aggregateId := orderId
  eventType := .emailOrderApproved
  idempotencyKey := .emailOrderApproved orderId updatedAt
  payload := .order orderId

def decidedInvoices (request : UpdateOrderStatusRequest) (decidedAt now : ℕ) (db : Database) :
    Table Invoice :=
  if request.status = .cancelled ∨ request.status = .rejected then
    (cancelInvoices request.orderId decidedAt now db).invoices
  else db.invoices

/-- The transaction of `updateStatus`.  Its write is not conditional on the status that was read. -/
def updateStatusTransaction (request : UpdateOrderStatusRequest) (current : Order)
    (decidedAt now : ℕ) : Tx Unit := fun db => do
  requireNoRegistration db request.orderId request.status
  requireFulfilled db request.orderId request.status
  let db ← db.updateOrder request.orderId (statusData request.status decidedAt now)
  let db := if request.status = .cancelled ∨ request.status = .rejected then
    cancelInvoices request.orderId decidedAt now db else db
  if request.status = .processing then do
    let db ← db.createOutboxEvent (orderApprovedEvent request.orderId current.updatedAt)
    return (db, ())
  else
    return (db, ())

/-- How far an `updateStatus` request is; `current` is the order as the first read found it. -/
inductive UpdateStatusState
  | read (request : UpdateOrderStatusRequest)
  | transact (request : UpdateOrderStatusRequest) (current : Order) (decidedAt : ℕ)
  | done (result : Except Failure Unit)

def updateStatusStep (w : World) (db : Database) :
    UpdateStatusState → Option (Database × UpdateStatusState)
  | .read request =>
    match db.orders.get? request.orderId with
    | none => some (db, .done (.error notFound))
    | some current =>
      if request.status = .paid then some (db, .done (.error
        (invalid "An order can be marked paid only by a verified payment workflow.")))
      else if isOrderTransitionAllowed current.status request.status = false then
        some (db, .done (.error (invalid
          ("Order cannot move from " ++ statusName current.status ++ " to " ++
            statusName request.status ++ "."))))
      else some (db, .transact request current w.now)
  | .transact request current decidedAt =>
    let out := atomically (updateStatusTransaction request current decidedAt w.now) db
    some (out.1, .done out.2)
  | .done _ => none

variable {db db' : Database} {current : Order} {u : Unit} {request : UpdateOrderStatusRequest}
  {w : World} {decidedAt now : ℕ}

/-- The write of `updateStatus` looks at nothing but the order's row and what its guards read, not
at the status the decision was made on. -/
theorem updateStatusTransaction_eq_ok
    (h : updateStatusTransaction request current decidedAt now db = .ok (db', u)) :
    ∃ order events, db.orders.get? request.orderId = some order ∧
      db.domainOrderGuard request.orderId request.status = .ok () ∧
      requireFulfilled db request.orderId request.status = .ok () ∧
      db' = { db with
        orders := db.orders.update request.orderId (statusData request.status decidedAt now)
        invoices := decidedInvoices request decidedAt now db
        outboxEvents := events } := by
  simp only [updateStatusTransaction, bind_eq_ok] at h
  obtain ⟨_, -, _, hfulfilled, db₁, hwrite, h⟩ := h
  obtain ⟨order, horder, hguard, rfl⟩ := db.updateOrder_eq_ok hwrite
  have hdecided : ∃ events, db' = { db with
      orders := db.orders.update request.orderId (statusData request.status decidedAt now)
      invoices := decidedInvoices request decidedAt now db
      outboxEvents := events } := by
    rw [decidedInvoices]
    split at h
    · simp only [eq_ok, Database.createOutboxEvent_eq_ok] at h
      obtain ⟨db₂, ⟨-, rfl⟩, rfl, -⟩ := h
      split <;> exact ⟨_, rfl⟩
    · rw [pure_eq_ok] at h
      obtain ⟨rfl, -⟩ := Prod.mk.inj h
      split <;> exact ⟨_, rfl⟩
  obtain ⟨events, rfl⟩ := hdecided
  exact ⟨order, events, horder, hguard, hfulfilled, rfl⟩

theorem updateStatusStep_writes {l l' : UpdateStatusState}
    (h : updateStatusStep w db l = some (db', l')) :
    db' = db ∨ ∃ request current decidedAt, l = .transact request current decidedAt ∧
      updateStatusTransaction request current decidedAt w.now db = .ok (db', ()) := by
  unfold updateStatusStep at h
  split at h
  · split at h
    · cases h; exact .inl rfl
    · split at h
      · cases h; exact .inl rfl
      · split at h <;> (cases h; exact .inl rfl)
  · rename_i request current decidedAt
    cases h
    exact (atomically_store rfl).imp_right fun ⟨_, hok⟩ =>
      ⟨request, current, decidedAt, rfl, hok⟩
  · cases h

theorem updateStatusStep_transact {l : UpdateStatusState}
    (h : updateStatusStep w db l = some (db', .transact request current decidedAt)) :
    db' = db ∧ db.orders.get? request.orderId = some current ∧ request.status ≠ .paid ∧
      isOrderTransitionAllowed current.status request.status = true := by
  unfold updateStatusStep at h
  split at h
  · split at h
    · cases h
    · rename_i hcurrent
      split at h
      · cases h
      · rename_i hpaid
        split at h
        · cases h
        · rename_i hallowed
          cases h
          exact ⟨rfl, hcurrent, hpaid, by simpa using hallowed⟩
  · cases h
  · cases h

/-- `OrderService.updateStatus`. -/
def updateStatus : Operation Database World where
  Request := UpdateOrderStatusRequest
  Local := UpdateStatusState
  start := .read
  step := updateStatusStep

/-! ## Add-ons -/

structure FulfillAddOnRequest where
  orderId : RowId
  itemId : RowId

def firstInvoice (db : Database) (orderId : RowId) : Option Invoice :=
  (db.invoices.find? fun _ invoice => invoice.orderId = some orderId).map Prod.snd

/-- `fulfillAddOn`, which is one transaction. -/
def fulfillAddOnTransaction (request : FulfillAddOnRequest) (now : ℕ) : Tx Unit := fun db => do
  let order ← orThrow notFound (db.orders.get? request.orderId)
  let item ← orThrow notFound (db.orderItems.get? request.itemId)
  require (item.orderId = request.orderId ∧ item.kind = .addOn) notFound
  if item.fulfilledAt.isSome then
    return (db, ())
  else
    let unpaid := conflict "Verify full payment before completing this add-on."
    let invoice ← orThrow unpaid (firstInvoice db request.orderId)
    require (invoice.status = .paid ∧ invoice.balanceDue = 0 ∧
      (order.status = .paid ∨ order.status = .processing)) unpaid
    let db : Database := { db with
      orderItems := db.orderItems.update request.itemId fun item =>
        { item with fulfilledAt := some now } }
    if order.status = .processing ∧ db.orderFulfillmentComplete request.orderId = true then do
      let db ← db.updateOrder request.orderId fun order =>
        { order with status := .completed, completedAt := some now, updatedAt := now }
      return (db, ())
    else
      return (db, ())

theorem fulfillAddOnTransaction_eq_ok {request : FulfillAddOnRequest}
    (h : fulfillAddOnTransaction request now db = .ok (db', u)) :
    db' = db ∨ ∃ item orders, db.orderItems.get? request.itemId = some item ∧
      item.orderId = request.orderId ∧ item.kind = .addOn ∧ item.fulfilledAt = none ∧
      CompletionChecked now (some request.itemId)
        { db with orderItems := db.orderItems.update request.itemId fun item =>
            { item with fulfilledAt := some now } } orders ∧
      db' = { db with
        orderItems := db.orderItems.update request.itemId fun item =>
          { item with fulfilledAt := some now }
        orders := orders } := by
  simp only [fulfillAddOnTransaction, eq_ok] at h
  obtain ⟨order, horder, item, hitem, ⟨horderId, hkind⟩, h⟩ := h
  split at h
  · rw [pure_eq_ok] at h
    exact .inl (Prod.mk.inj h).1.symm
  · rename_i hfulfilled
    rw [Bool.not_eq_true, Option.isSome_eq_false_iff, Option.isNone_iff_eq_none] at hfulfilled
    simp only [eq_ok] at h
    obtain ⟨invoice, -, -, h⟩ := h
    have hwritten := Table.get?_update_self (f := fun item : OrderItem =>
      { item with fulfilledAt := some now }) hitem
    refine .inr ⟨item, ?_⟩
    rw [← horderId] at horder h
    split at h
    · rename_i hcomplete
      simp only [eq_ok] at h
      obtain ⟨db₁, hwrite, rfl, -⟩ := h
      obtain ⟨_, -, hguard, rfl⟩ := Database.updateOrder_eq_ok _ hwrite
      exact ⟨_, hitem, horderId, hkind, hfulfilled,
        .completed rfl hwritten horder hcomplete.1 hcomplete.2 hguard, rfl⟩
    · rename_i hcomplete
      rw [pure_eq_ok] at h
      refine ⟨db.orders, hitem, horderId, hkind, hfulfilled,
        .left fun itemId item' order' hitemId hitem' horder' hstatus => ?_, (Prod.mk.inj h).1.symm⟩
      cases hitemId
      obtain rfl := Option.mem_unique (show _ = some item' from hitem') hwritten
      rw [show db.orders.get? item.orderId = some order' from horder', Option.some.injEq] at horder
      subst horder
      exact Bool.eq_false_iff.2 fun hdone => hcomplete ⟨hstatus, hdone⟩

inductive FulfillAddOnState
  | transact (request : FulfillAddOnRequest)
  | done (result : Except Failure Unit)

def fulfillAddOnStep (w : World) (db : Database) :
    FulfillAddOnState → Option (Database × FulfillAddOnState)
  | .transact request =>
    let out := atomically (fulfillAddOnTransaction request w.now) db
    some (out.1, .done out.2)
  | .done _ => none

theorem fulfillAddOnStep_writes {l l' : FulfillAddOnState}
    (h : fulfillAddOnStep w db l = some (db', l')) :
    db' = db ∨ ∃ request, fulfillAddOnTransaction request w.now db = .ok (db', ()) := by
  unfold fulfillAddOnStep at h
  split at h
  · rename_i request
    cases h
    exact (atomically_store rfl).imp_right fun ⟨_, hok⟩ => ⟨request, hok⟩
  · cases h

/-- `OrderService.fulfillAddOn`. -/
def fulfillAddOn : Operation Database World where
  Request := FulfillAddOnRequest
  Local := FulfillAddOnState
  start := .transact
  step := fulfillAddOnStep

end OrderService

end WebhostBilling
