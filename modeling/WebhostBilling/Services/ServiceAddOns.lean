import WebhostBilling.Concurrency.Threads
import WebhostBilling.Database.World

/-!
# The add-ons of a service

The date on which the renewal of an add-on ends is the end of the period that the add-on has been
billed for, or the due date of its service when the current period has not been billed.  The lock of
the service's row is held, so no period is billed and no payment is applied in between.
-/

namespace WebhostBilling

open Store Concurrency

namespace ServiceAddOnsService

def forbidden : Failure :=
  .application .forbidden "You do not have access to this hosting add-on."

def conflict : Failure := .application .conflict
  "The billing period changed. Reload the service and review the cancellation date."

structure CancelAddOnRequest where
  serviceId : RowId
  addOnId : RowId
  expectedEndAt : Option ℕ
  actorRole : UserRole
  actorCustomerId : RowId
  supportAdministrator : Bool := false

/-- The condition of `findAddOns`: an add-on of the service's order that renews along with it. -/
def renews (service : Service) (orderId : RowId) (item : OrderItem) : Prop :=
  item.orderId = orderId ∧ item.kind = .addOn ∧ item.billingPeriod = service.billingPeriod ∧
    item.currency = service.currency ∧ item.fulfilledAt.isSome = true
deriving Decidable

/-- `findAddOns` for one add-on. -/
def findAddOn (db : Database) (service : Service) (addOnId : RowId) : Option OrderItem := do
  let orderItem ← service.orderItemId.bind db.orderItems.get?
  (db.orderItems.get? addOnId).filter (renews service orderItem.orderId)

def billsCurrentPeriod (serviceId : RowId) (service : Service) (invoice : Invoice) : Prop :=
  invoice.issuedAt.isSome = true ∧ invoice.status ≠ .cancelled ∧
    ∃ item ∈ invoice.items, item.serviceId = some serviceId ∧
      item.servicePeriodStart = some service.nextDueAt
deriving Decidable

def billedEnds (db : Database) (serviceId : RowId) (service : Service) (addOnId : RowId) : List ℕ :=
  (db.invoices.select fun _ invoice => billsCurrentPeriod serviceId service invoice).flatMap
    fun entry => entry.2.items.filterMap fun item =>
      if item.orderItemId = some addOnId ∧ item.servicePeriodStart = some service.nextDueAt then
        item.servicePeriodEnd
      else none

/-- `availableEndAt`, for an add-on whose renewal has not been ended. -/
def availableEndAt (db : Database) (serviceId : RowId) (service : Service) (addOnId : RowId) :
    Option ℕ :=
  if service.status = .active ∨ service.status = .suspended then
    some ((billedEnds db serviceId service addOnId).max?.getD service.nextDueAt)
  else none

/-- `order_items_renewal_ends_at_check`. -/
def renewalEndsAtCheck (item : OrderItem) : Prop :=
  item.kind = .addOn ∧ (item.billingPeriod = .monthly ∨ item.billingPeriod = .quarterly ∨
    item.billingPeriod = .annual) ∧ item.fulfilledAt.isSome = true
deriving Decidable

def endRenewal (endAt : ℕ) (item : OrderItem) : OrderItem :=
  { item with renewalEndsAt := some endAt }

/-- `cancel`, which is one transaction. -/
def cancelTransaction (request : CancelAddOnRequest) : Tx Unit := fun db => do
  require (request.supportAdministrator = false ∧ request.actorRole = .customer) forbidden
  let service ← orThrow forbidden (db.services.get? request.serviceId)
  require (service.customerId = request.actorCustomerId) forbidden
  let item ← orThrow forbidden (findAddOn db service request.addOnId)
  if item.renewalEndsAt.isSome then
    return (db, ())
  else
    let endAt ← orThrow conflict (availableEndAt db request.serviceId service request.addOnId)
    require (request.expectedEndAt = some endAt) conflict
    require (renewalEndsAtCheck item) .checkConstraint
    return ({ db with
      orderItems := db.orderItems.update request.addOnId (endRenewal endAt) }, ())

inductive CancelAddOnState
  | transact (request : CancelAddOnRequest)
  | done (result : Except Failure Unit)

def cancelStep (_ : World) (db : Database) :
    CancelAddOnState → Option (Database × CancelAddOnState)
  | .transact request =>
    let out := atomically (cancelTransaction request) db
    some (out.1, .done out.2)
  | .done _ => none

/-- `ServiceAddOnsService.cancel`. -/
def cancel : Operation Database World where
  Request := CancelAddOnRequest
  Local := CancelAddOnState
  start := .transact
  step := cancelStep

/-! ## What a cancellation does -/

variable {db db' : Database}

theorem findAddOn_eq_some {service : Service} {addOnId : RowId} {item : OrderItem}
    (h : findAddOn db service addOnId = some item) :
    ∃ orderItemId orderItem, service.orderItemId = some orderItemId ∧
      db.orderItems.get? orderItemId = some orderItem ∧ db.orderItems.get? addOnId = some item ∧
      renews service orderItem.orderId item := by
  simp only [findAddOn, Option.bind_eq_bind, Option.bind_eq_some_iff, Option.filter_eq_some_iff,
    decide_eq_true_eq] at h
  obtain ⟨orderItem, ⟨orderItemId, horderItemId, horderItem⟩, hitem, hrenews⟩ := h
  exact ⟨orderItemId, orderItem, horderItemId, horderItem, hitem, hrenews⟩

theorem cancelTransaction_eq_ok {request : CancelAddOnRequest} {u : Unit}
    (h : cancelTransaction request db = .ok (db', u)) :
    db' = db ∨ ∃ service item endAt, db.services.get? request.serviceId = some service ∧
      findAddOn db service request.addOnId = some item ∧ item.renewalEndsAt = none ∧
      availableEndAt db request.serviceId service request.addOnId = some endAt ∧
      db' = { db with
        orderItems := db.orderItems.update request.addOnId (endRenewal endAt) } := by
  simp only [cancelTransaction, eq_ok] at h
  obtain ⟨-, service, hservice, -, item, hitem, h⟩ := h
  split at h
  · rw [pure_eq_ok] at h
    exact .inl (Prod.mk.inj h).1.symm
  · rename_i hnone
    simp only [eq_ok] at h
    obtain ⟨endAt, hend, -, -, h⟩ := h
    rw [Bool.not_eq_true, Option.isSome_eq_false_iff, Option.isNone_iff_eq_none] at hnone
    exact .inr ⟨service, item, endAt, hservice, hitem, hnone, hend, h.1.symm⟩

theorem cancelStep_writes {w : World} {l l' : CancelAddOnState}
    (h : cancelStep w db l = some (db', l')) :
    db' = db ∨ ∃ request, cancelTransaction request db = .ok (db', ()) := by
  unfold cancelStep at h
  split at h
  · rename_i request
    cases h
    exact (atomically_store rfl).imp_right fun ⟨_, hok⟩ => ⟨request, hok⟩
  · cases h

end ServiceAddOnsService

end WebhostBilling
