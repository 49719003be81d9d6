import WebhostBilling.Database.Schema

/-!
# Writing orders

Every write to an order passes the trigger `domain_order_guard`: an order is completed only when
its domains are registered and its hosting is active, and it is not closed once a registrar has
claimed the registration of one of its domains.
-/

namespace WebhostBilling

open Store

namespace Database

variable (db : Database)

def itemsOfOrder (orderId : RowId) : List (RowId × OrderItem) :=
  db.orderItems.select fun _ item => item.orderId = orderId

def serviceOfItem (itemId : RowId) : Option Service :=
  (db.services.find? fun _ service => service.orderItemId = some itemId).map Prod.snd

def hostingActive (itemId : RowId) : Bool :=
  (db.serviceOfItem itemId).any (·.status = .active)

def domainRegistered (itemId : RowId) : Bool :=
  db.domains.any fun _ domain => domain.orderItemId = some itemId ∧ domain.state = .registered

def existingDomainLinked (itemId : RowId) : Bool :=
  db.existingDomainOrders.any fun _ link => link.orderItemId = itemId ∧
    (db.domains.get? link.domainId).any fun domain =>
      domain.origin = .existing ∧ domain.state = .registered

def registrationClaimed (orderId : RowId) : Bool :=
  db.registrarOperations.any fun _ operation => operation.claimedAt.isSome ∧
    (db.domains.get? operation.domainId).any fun domain =>
      domain.orderItemId.any fun itemId =>
        (db.orderItems.get? itemId).any fun item => item.orderId = orderId

/-- The trigger `domain_order_guard`, for the status an order is about to get. -/
def domainOrderGuard (orderId : RowId) (next : OrderStatus) : Except Failure Unit := do
  require (next = .completed → ∀ entry ∈ db.itemsOfOrder orderId, entry.2.kind = .domain →
    db.domainRegistered entry.1 = true ∨ db.existingDomainLinked entry.1 = true) .checkConstraint
  require (next = .completed → ∀ entry ∈ db.itemsOfOrder orderId, entry.2.kind = .hosting →
    db.hostingActive entry.1 = true) .checkConstraint
  require ((next = .cancelled ∨ next = .rejected ∨ next = .failed) →
    db.registrationClaimed orderId = false) .checkConstraint

def updateOrder (orderId : RowId) (f : Order → Order) : Except Failure Database := do
  let order ← orThrow (.error "P2025") (db.orders.get? orderId)
  db.domainOrderGuard orderId (f order).status
  return { db with orders := db.orders.update orderId f }

def updateOrderWhile (orderId : RowId) (statuses : List OrderStatus) (f : Order → Order) :
    Except Failure Database :=
  match db.orders.get? orderId with
  | some order => if order.status ∈ statuses then db.updateOrder orderId f else .ok db
  | none => .ok db

def orderFulfillmentComplete (orderId : RowId) : Bool :=
  let items := db.itemsOfOrder orderId
  let domainIds := (items.filter (·.2.kind = .domain)).map Prod.fst
  let registered := (db.domains.select fun _ domain =>
    domain.orderItemId.any (· ∈ domainIds) ∧ domain.state = .registered).length
  let existingIds := (items.filter fun entry =>
    entry.2.kind = .domain ∧ entry.2.linksExistingDomain = true).map Prod.fst
  let existing := (db.existingDomainOrders.select fun _ link => link.orderItemId ∈ existingIds).map
    fun entry => entry.2.domainId
  let linked := (db.domains.select fun id domain =>
    id ∈ existing ∧ domain.origin = .existing ∧ domain.state = .registered).length
  !items.isEmpty &&
    items.all (fun entry =>
      !(entry.2.kind = .hosting ∧ db.hostingActive entry.1 = false ∨
        entry.2.kind = .addOn ∧ entry.2.fulfilledAt = none)) &&
    (domainIds.isEmpty || registered + linked == domainIds.length)

/-! ## What a write does -/

variable {orderId : RowId} {f : Order → Order} {db' : Database}

theorem updateOrder_eq_ok (h : db.updateOrder orderId f = .ok db') :
    ∃ order, db.orders.get? orderId = some order ∧
      db.domainOrderGuard orderId (f order).status = .ok () ∧
      db' = { db with orders := db.orders.update orderId f } := by
  simp only [updateOrder, eq_ok] at h
  obtain ⟨order, horder, u, hguard, rfl⟩ := h
  exact ⟨order, horder, hguard, rfl⟩

theorem updateOrderWhile_eq_ok {statuses : List OrderStatus}
    (h : db.updateOrderWhile orderId statuses f = .ok db') :
    db' = db ∨ ∃ order, db.orders.get? orderId = some order ∧ order.status ∈ statuses ∧
      db.domainOrderGuard orderId (f order).status = .ok () ∧
      db' = { db with orders := db.orders.update orderId f } := by
  rw [updateOrderWhile] at h
  split at h
  · rename_i order horder
    split at h
    · rename_i hstatus
      obtain ⟨order', horder', hguard, rfl⟩ := db.updateOrder_eq_ok h
      obtain rfl := Option.mem_unique horder horder'
      exact .inr ⟨order, horder, hstatus, hguard, rfl⟩
    · exact .inl (Except.ok.inj h).symm
  · exact .inl (Except.ok.inj h).symm

end Database

/-! ## The check that completes an order -/

/-- **A check whether an order is complete**: the order of the item is completed exactly when it is
processed and everything it waits for is there. -/
inductive CompletionChecked (now : ℕ) (orderItemId : Option RowId) (db : Database) :
    Table Order → Prop
  | completed {itemId : RowId} {item : OrderItem} {order : Order} (hitemId : orderItemId = some itemId)
      (hitem : db.orderItems.get? itemId = some item)
      (horder : db.orders.get? item.orderId = some order) (hstatus : order.status = .processing)
      (hcomplete : db.orderFulfillmentComplete item.orderId = true)
      (hguard : db.domainOrderGuard item.orderId .completed = .ok ()) :
      CompletionChecked now orderItemId db (db.orders.update item.orderId fun order =>
        { order with status := .completed, completedAt := some now, updatedAt := now })
  | left (h : ∀ itemId item order, orderItemId = some itemId →
        db.orderItems.get? itemId = some item → db.orders.get? item.orderId = some order →
          order.status = .processing → db.orderFulfillmentComplete item.orderId = false) :
      CompletionChecked now orderItemId db db.orders

structure SameOrderTables (db db' : Database) : Prop where
  orders : db'.orders = db.orders
  orderItems : db'.orderItems = db.orderItems
  services : db'.services = db.services
  domains : db'.domains = db.domains
  existingDomainOrders : db'.existingDomainOrders = db.existingDomainOrders
  registrarOperations : db'.registrarOperations = db.registrarOperations

section

variable {db db' : Database} {now : ℕ} {orderItemId : Option RowId} {orders : Table Order}

theorem SameOrderTables.refl (db : Database) : SameOrderTables db db :=
  ⟨rfl, rfl, rfl, rfl, rfl, rfl⟩

theorem SameOrderTables.complete_eq (h : SameOrderTables db db') (orderId : RowId) :
    db'.orderFulfillmentComplete orderId = db.orderFulfillmentComplete orderId := by
  obtain ⟨horders, hitems, hservices, hdomains, hlinks, hoperations⟩ := h
  cases db
  cases db'
  subst horders hitems hservices hdomains hlinks hoperations
  rfl

theorem SameOrderTables.guard_eq (h : SameOrderTables db db') (orderId : RowId)
    (next : OrderStatus) :
    db'.domainOrderGuard orderId next = db.domainOrderGuard orderId next := by
  obtain ⟨horders, hitems, hservices, hdomains, hlinks, hoperations⟩ := h
  cases db
  cases db'
  subst horders hitems hservices hdomains hlinks hoperations
  rfl

theorem CompletionChecked.congr
    (h : CompletionChecked now orderItemId db orders) (hsame : SameOrderTables db db') :
    CompletionChecked now orderItemId db' orders := by
  cases h with
  | completed hitemId hitem horder hstatus hcomplete hguard =>
    rw [← hsame.orders] at horder ⊢
    exact .completed hitemId (hsame.orderItems ▸ hitem) horder hstatus
      ((hsame.complete_eq _).trans hcomplete) ((hsame.guard_eq _ _).trans hguard)
  | left hleft =>
    rw [← hsame.orders]
    refine .left fun itemId item order hitemId hitem horder hstatus => ?_
    rw [hsame.complete_eq]
    exact hleft itemId item order hitemId (hsame.orderItems ▸ hitem) (hsame.orders ▸ horder) hstatus

/-- The orders after a write that checks the order of an item when `asked`. -/
def OrdersChecked (asked : Prop) (now : ℕ) (orderItemId : Option RowId) (db : Database)
    (orders : Table Order) : Prop :=
  (¬ asked ∧ orders = db.orders) ∨ asked ∧ CompletionChecked now orderItemId db orders

/-- The orders after a completion check: nothing changed, or an order that was being processed is
completed. -/
def OrderCompleted (now : ℕ) (orders orders' : Table Order) : Prop :=
  orders' = orders ∨ ∃ orderId order, orders.get? orderId = some order ∧
    order.status = .processing ∧
    orders' = orders.update orderId fun order =>
      { order with status := .completed, completedAt := some now, updatedAt := now }

theorem CompletionChecked.completed_or_same (h : CompletionChecked now orderItemId db orders) :
    OrderCompleted now db.orders orders := by
  cases h with
  | completed _ _ horder hstatus => exact .inr ⟨_, _, horder, hstatus, rfl⟩
  | left => exact .inl rfl

theorem OrdersChecked.completed_or_same {asked : Prop}
    (h : OrdersChecked asked now orderItemId db orders) : OrderCompleted now db.orders orders :=
  h.elim (fun hsame => .inl hsame.2) fun hchecked => hchecked.2.completed_or_same

end

end WebhostBilling
