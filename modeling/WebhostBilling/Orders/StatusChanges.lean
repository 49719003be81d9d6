import WebhostBilling.Orders.OrderOutline

/-!
# The status of an order

`updateStatus` looks a decision up in the table of moves for the status that it has read, and writes
whatever the status is by then; the creation of a service does so for an order that it read as paid.

All other operations name the status they start from, or are kept from a wrong one by the trigger on
orders: the order of a claimed registration is paid or processed until the registration is known
(`ClaimsOpen`).
-/

namespace WebhostBilling

open Store Store.Table Concurrency Config RegistrarProcessor DomainService

/-! ## Moves along the table -/

/-- An order keeps its status or takes an edge of the table; a registration that completes a paid
order takes it over two edges at once. -/
def StatusMoves (registers : Prop) (order order' : Order) : Prop :=
  order'.status = order.status ∨
    OrderService.isOrderTransitionAllowed order.status order'.status = true ∨
    registers ∧ order.status = .paid ∧ order'.status = .completed

variable {registers : Prop}

theorem StatusMoves.refl (order : Order) : StatusMoves registers order order :=
  Or.inl rfl

/-- Each order keeps its status or moves along an edge. -/
def OrdersMove (registers : Prop) (orders orders' : Table Order) : Prop :=
  Table.Grows (StatusMoves registers) orders orders'

theorem OrdersMove.refl (orders : Table Order) :
    OrdersMove registers orders orders :=
  Grows.refl StatusMoves.refl orders

theorem ordersMove_update {orders : Table Order} {id : RowId} {f : Order → Order}
    {next : OrderStatus} (hf : ∀ order, (f order).status = next)
    (h : ∀ order, orders.get? id = some order →
      order.status = next ∨ OrderService.isOrderTransitionAllowed order.status next = true) :
    OrdersMove registers orders (orders.update id f) := by
  refine grows_update StatusMoves.refl fun order horder => ?_
  rw [StatusMoves, hf order]
  rcases h order horder with hsame | hallowed
  · exact .inl hsame.symm
  · exact .inr (.inl hallowed)

theorem ordersMove_checked {now : ℕ} {orderItemId : Option RowId} {db : Database}
    {orders orders' : Table Order} (h : CompletionChecked now orderItemId db orders')
    (hdb : db.orders = orders) : OrdersMove registers orders orders' := by
  subst hdb
  cases h with
  | left _ => exact .refl _
  | completed _ _ horder hstatus _ _ =>
    refine ordersMove_update (fun _ => rfl) fun order horder' => ?_
    rw [horder, Option.some.injEq] at horder'
    rw [← horder', hstatus]
    exact .inr rfl

/-! ## Registrations that are under way -/

def RegistrationOpen (db : Database) (orderId : RowId) : Prop :=
  ∃ id operation domain itemId item, db.registrarOperations.get? id = some operation ∧
    operation.claimedAt.isSome ∧ db.domains.get? operation.domainId = some domain ∧
    ¬ domain.state.resolved ∧ domain.orderItemId = some itemId ∧
    db.orderItems.get? itemId = some item ∧ item.orderId = orderId

def PaidOrProcessed (orders : Table Order) (orderId : RowId) : Prop :=
  ∃ order, orders.get? orderId = some order ∧ (order.status = .paid ∨ order.status = .processing)

/-- A registration is under way for paid or processed orders only. -/
def ClaimsOpen (db : Database) : Prop :=
  ∀ orderId, RegistrationOpen db orderId → PaidOrProcessed db.orders orderId

section

variable {db db' : Database} {orderId : RowId}

theorem RegistrationOpen.not_completed (h : RegistrationOpen db orderId) (hkeys : FulfilmentKeys db)
    (hguard : db.domainOrderGuard orderId .completed = .ok ()) : False := by
  obtain ⟨id, operation, domain, itemId, item, -, -, hdomain, hopen, hitemId, hitem, horderId⟩ := h
  simp only [Database.domainOrderGuard, eq_ok] at hguard
  have hmem : (itemId, item) ∈ db.itemsOfOrder orderId := by
    rw [Database.itemsOfOrder, mem_select]
    exact ⟨hitem, decide_eq_true horderId⟩
  rcases hguard.1 trivial (itemId, item) hmem (hkeys.domainItem _ _ _ _ hdomain hitemId hitem) with
    hregistered | hlinked
  · obtain ⟨i, other, hother, hp⟩ := any_eq_true.1 hregistered
    obtain ⟨hsame, hstate⟩ := of_decide_eq_true hp
    have hi := hkeys.domain i _ other domain itemId hother hdomain hsame hitemId
    rw [hi, hdomain, Option.some.injEq] at hother
    exact hopen (.inl (hother ▸ hstate))
  · obtain ⟨i, link, hlink, hp⟩ := any_eq_true.1 hlinked
    obtain ⟨hsame, -⟩ := of_decide_eq_true hp
    exact hkeys.linkDomain i link _ domain hlink hdomain (hsame ▸ hitemId)

theorem RegistrationOpen.not_closed (h : RegistrationOpen db orderId) {next : OrderStatus}
    (hnext : next = .cancelled ∨ next = .rejected ∨ next = .failed)
    (hguard : db.domainOrderGuard orderId next = .ok ()) : False := by
  obtain ⟨id, operation, domain, itemId, item, hoperation, hclaimed, hdomain, -, hitemId, hitem,
    horderId⟩ := h
  simp only [Database.domainOrderGuard, eq_ok] at hguard
  have hfree := any_eq_false.1 (hguard.2.2 hnext) id operation hoperation
  simp [hclaimed, hdomain, hitemId, hitem, horderId] at hfree

theorem PaidOrProcessed.update {orders : Table Order} (h : PaidOrProcessed orders orderId)
    {id : RowId} {f : Order → Order} {next : OrderStatus} (hf : ∀ order, (f order).status = next)
    (hnext : id = orderId → ∀ order, orders.get? orderId = some order →
      order.status = .paid ∨ order.status = .processing → next = .paid ∨ next = .processing) :
    PaidOrProcessed (orders.update id f) orderId := by
  obtain ⟨order, horder, hstatus⟩ := h
  by_cases hid : id = orderId
  · refine ⟨f order, hid ▸ get?_update_self (hid ▸ horder), ?_⟩
    rw [hf order]
    exact hnext hid order horder hstatus
  · exact ⟨order, (get?_update_of_ne hid).trans horder, hstatus⟩

end

/-! ## What the operations do to the orders -/

section

variable {lib : Libraries} {settings : RegistrarSettings} {w : World} {db db' : Database}
  {op : OrderOperation} {l : (orderOperations lib settings op).Local}

/-- What a step writes to an order without looking at it meets the status that was read, or one that
the table allows it for as well, or finds itself already written. -/
def DecisionsCurrent (_ : World) (db : Database) (t : Thread (orderOperations lib settings)) : Prop :=
  ∀ decision ∈ decidedStatus lib settings t.op t.loc, ∀ order ∈ db.orders.get? decision.1,
    order.status = decision.2.1 ∨ order.status = decision.2.2 ∨
      OrderService.isOrderTransitionAllowed order.status decision.2.2 = true
deriving Decidable

variable (lib settings) in
/-- The check of the first read: the table allowed the decision then. -/
def decisionAllowed (op : OrderOperation) (l : (orderOperations lib settings op).Local) : Prop :=
  ∀ decision ∈ decidedStatus lib settings op l,
    OrderService.isOrderTransitionAllowed decision.2.1 decision.2.2 = true

variable (lib settings) in
def decisionFits (db : Database) (op : OrderOperation)
    (l : (orderOperations lib settings op).Local) : Prop :=
  ∀ decision ∈ decidedStatus lib settings op l, ∀ order ∈ db.orders.get? decision.1,
    order.status = decision.2.2 ∨
      OrderService.isOrderTransitionAllowed order.status decision.2.2 = true

theorem decisionAllowed_begin (op : OrderOperation)
    {request : (orderOperations lib settings op).Request} :
    decisionAllowed lib settings op ((orderOperations lib settings op).start request) := by
  intro decision hdecision
  cases op with
  | billing op =>
    cases op with
    | ledger op => cases op <;> cases hdecision
    | createService | hosting | fulfillAddOn | cancelAddOn | processOpenRenewals | processPayment
    | dispatchOutbox => cases hdecision
  | approve | reconcile | process => cases hdecision

theorem DecisionsCurrent.fits (hcurrent : DecisionsCurrent w db ⟨op, l⟩)
    (hallowed : decisionAllowed lib settings op l) : decisionFits lib settings db op l := by
  intro decision hdecision order horder
  rcases hcurrent decision hdecision order horder with hread | hfits
  · exact .inr (hread ▸ hallowed decision hdecision)
  · exact hfits

theorem decisionAllowed_step {l' : (orderOperations lib settings op).Local}
    (h : (orderOperations lib settings op).step w db l = some (db', l')) :
    decisionAllowed lib settings op l' := by
  intro decision hdecision
  unfold decidedStatus at hdecision
  split at hdecision
  · cases hdecision
    exact (OrderService.updateStatusStep_transact h).2.2.2
  · split at hdecision
    · cases hdecision
      rfl
    · cases hdecision
  · cases hdecision

theorem RegistrationOpen.before {orderId : RowId} (hs : RegistrationsSound db)
    (heffect : OrderEffect lib settings w db op l db') (h : RegistrationOpen db' orderId) :
    RegistrationOpen db orderId ∨ PaidOrProcessed db.orders orderId := by
  obtain ⟨id, operation, domain, itemId, item', hoperation, hclaimed, hdomain, hopen, hitemId, hitem',
    horderId⟩ := h
  obtain ⟨item, hitem, hline⟩ := heffect.keeps_line itemId item' hitem'
  have hown : item.orderId = orderId := (OrderItem.line_eq hline).1 ▸ horderId
  -- A step that leaves the registrar's tables finds the same registration.
  have hsame (hoperations : db'.registrarOperations = db.registrarOperations)
      (hdomains : db'.domains = db.domains) : RegistrationOpen db orderId :=
    ⟨id, operation, domain, itemId, item, hoperations ▸ hoperation, hclaimed, hdomains ▸ hdomain,
      hopen, hitemId, hitem, hown⟩
  have hregistrar {kind : RegistrarKind} {m : (registrarOperations settings kind).Local}
      (hwrites : RegistrarWrites settings w db kind m db')
      (hclaims : ClaimsPaid db db'.registrarOperations) :
      RegistrationOpen db orderId ∨ PaidOrProcessed db.orders orderId := by
    obtain ⟨domain₀, hdomain₀, hitemId₀⟩ := heffect.keeps_domainItem _ domain hdomain
    rw [hitemId] at hitemId₀
    rcases hclaims id operation hoperation hclaimed with ⟨before, hbefore, hwas⟩ | hpaid
    · obtain ⟨operation', hoperation', hmoves⟩ := hwrites.operations_grow id before hbefore
      obtain rfl := Option.mem_unique hoperation hoperation'
      rw [hmoves.approval.domainId] at hdomain hdomain₀
      obtain ⟨domain₁, hdomain₁, hopen₁⟩ :=
        hwrites.domainsStay hs id before hbefore hwas domain hdomain hopen
      obtain rfl := Option.mem_unique hdomain₀ hdomain₁
      exact .inl ⟨id, before, domain₀, itemId, item, hbefore, hwas, hdomain₀, hopen₁,
        hitemId₀.symm, hitem, hown⟩
    · obtain ⟨row, order, hrow, horder, hstatus⟩ := hpaid domain₀ itemId hdomain₀ hitemId₀.symm
      obtain rfl := Option.mem_unique hitem hrow
      exact .inr ⟨order, hown ▸ horder, hstatus⟩
  cases heffect with
  | registrar hwrites _ hclaims _ => exact hregistrar hwrites hclaims
  | registered hwrites hclaims _ _ _ _ _ _ _ hsame =>
    exact hregistrar hwrites (hsame.registrarOperations ▸ hclaims)
  | quiet _ htables | activated _ _ _ htables | resumed _ _ htables | fulfilled _ htables
  | ended htables | settled _ htables | cancelled _ _ htables | decided _ _ htables
  | created _ _ htables => exact .inl (hsame htables.registrarOperations htables.domains)

theorem allowed_after_payment {current next : OrderStatus}
    (hcurrent : current = .paid ∨ current = .processing)
    (h : OrderService.isOrderTransitionAllowed current next = true) :
    next = .processing ∨ next = .completed ∨ next = .failed := by
  rcases hcurrent with rfl | rfl <;> cases next <;> simp_all [OrderService.isOrderTransitionAllowed,
    OrderService.allowedTransitions]

theorem ClaimsOpen.step (hclaims : ClaimsOpen db) (hs : RegistrationsSound db)
    (hkeys : FulfilmentKeys db) (hfits : decisionFits lib settings db op l)
    (heffect : OrderEffect lib settings w db op l db') : ClaimsOpen db' := by
  intro orderId hopen
  have hkeys' := hkeys.step heffect
  have hpaid : PaidOrProcessed db.orders orderId :=
    (hopen.before hs heffect).elim (hclaims orderId) id
  have hchecked {db₁ : Database} {itemId : Option RowId} {orders : Table Order}
      (hchecked : CompletionChecked w.now itemId db₁ orders) (hdb₁ : db₁.orders = db.orders)
      (hguard : ∀ id, db'.domainOrderGuard id .completed = db₁.domainOrderGuard id .completed) :
      PaidOrProcessed orders orderId := by
    cases hchecked with
    | left _ => exact hdb₁ ▸ hpaid
    | completed _ _ _ _ _ hok =>
      rw [hdb₁]
      refine hpaid.update (fun _ => rfl) fun hid => ?_
      subst hid
      exact (hopen.not_completed hkeys' ((hguard _).trans hok)).elim
  cases heffect with
  | quiet _ hsame | resumed _ _ hsame | ended hsame | registrar _ _ _ hsame =>
    rw [hsame.orders]
    exact hpaid
  | activated _ _ hcheck hsame | fulfilled hcheck hsame =>
    rw [hsame.orders]
    exact hchecked hcheck rfl fun _ => hsame.guard_eq _ _
  | settled hsettled hsame =>
    rw [hsame.orders]
    rcases hsettled with rfl | ⟨id, order, -, -, -, rfl⟩
    · exact hpaid
    · exact hpaid.update (fun _ => rfl) fun _ _ _ _ => .inl rfl
  | cancelled horder hstatus hsame =>
    rw [hsame.orders]
    refine hpaid.update (fun _ => rfl) fun hid order' horder' hpaid' => ?_
    subst hid
    obtain rfl := Option.mem_unique horder horder'
    rcases hstatus with hstatus | hstatus <;> simp [hstatus] at hpaid'
  | @decided db' request current decidedAt hguard hfulfilled hsame =>
    rw [hsame.orders]
    refine hpaid.update (fun _ => rfl) fun hid order horder hpaid' => ?_
    subst hid
    have hguard' := (hsame.guard_eq request.orderId request.status).trans hguard
    rcases hfits (request.orderId, current.status, request.status) rfl order horder with hnext | hallowed
    · have hsame' : order.status = request.status := hnext
      rwa [hsame'] at hpaid'
    · rcases allowed_after_payment hpaid' hallowed with hnext | hnext | hnext
      · exact .inr hnext
      · exact (hopen.not_completed hkeys' (hnext ▸ hguard')).elim
      · exact (hopen.not_closed (.inr (.inr hnext)) hguard').elim
  | @created db' input activeAdapter item order orders horders hfresh hsame =>
    rw [hsame.orders]
    rcases horders with rfl | ⟨-, rfl⟩
    · exact hpaid
    · exact hpaid.update (fun _ => rfl) fun _ _ _ _ => .inr rfl
  | registered _ _ _ _ _ _ _ hf hstatus hsame =>
    rw [hsame.orders]
    refine hpaid.update hf fun hid _ _ _ => ?_
    subst hid
    rcases hstatus with ⟨rfl, hguard, -⟩ | ⟨rfl, -⟩
    · exact (hopen.not_completed hkeys' ((hsame.guard_eq _ _).trans hguard)).elim
    · exact .inr rfl

variable (lib settings) in
/-- A delivery that records the outcome of a registration. -/
def recordsRegistration : (op : OrderOperation) → (orderOperations lib settings op).Local → Prop
  | .process, .recording _ _ => True
  | _, _ => False

theorem ordersMove_of_effect (hclaims : ClaimsOpen db) (hknown : jobKnown db op l)
    (hfits : decisionFits lib settings db op l) (heffect : OrderEffect lib settings w db op l db') :
    OrdersMove (recordsRegistration lib settings op l) db.orders db'.orders := by
  cases heffect with
  | quiet _ hsame | resumed _ _ hsame | ended hsame | registrar _ _ _ hsame =>
    rw [hsame.orders]
    exact .refl _
  | activated _ _ hcheck hsame | fulfilled hcheck hsame =>
    rw [hsame.orders]
    exact ordersMove_checked hcheck rfl
  | settled hsettled hsame =>
    rw [hsame.orders]
    rcases hsettled with rfl | ⟨id, order, -, horder, hstatus, rfl⟩
    · exact .refl _
    · refine ordersMove_update (fun _ => rfl) fun order' horder' => ?_
      rw [horder, Option.some.injEq] at horder'
      rw [← horder', hstatus]
      exact .inr rfl
  | cancelled horder hstatus hsame =>
    rw [hsame.orders]
    refine ordersMove_update (fun _ => rfl) fun order' horder' => ?_
    rw [horder, Option.some.injEq] at horder'
    rw [← horder']
    rcases hstatus with hstatus | hstatus <;> (rw [hstatus]; exact .inr rfl)
  | @decided db' request current decidedAt hguard hfulfilled hsame =>
    rw [hsame.orders]
    exact ordersMove_update (fun _ => rfl) fun order horder =>
      hfits (request.orderId, current.status, request.status) rfl order horder
  | @created db' input activeAdapter item order orders horders hfresh hsame =>
    rw [hsame.orders]
    rcases horders with rfl | ⟨hpaid, rfl⟩
    · exact .refl _
    · refine ordersMove_update (fun _ => rfl) fun row hrow => ?_
      refine hfits (item.orderId, .paid, .processing) ?_ row hrow
      simp only [decidedStatus, if_pos hpaid]
      rfl
  | @registered db' job observation found operations domain item status f m hwrites hclaimed hdomain
      hopen hkeeps horigin hitem hf hstatus hsame =>
    rw [hsame.orders]
    -- The registration was claimed and is not known before, so its order is paid or processed.
    obtain ⟨operation, domain', hoperation, hwas, hdomainId, hdomain', hitemId⟩ := hknown job rfl
    obtain rfl := Option.mem_unique hdomain hdomain'
    have hregistration : RegistrationOpen db item.orderId :=
      ⟨_, operation, domain, job.orderItemId, item, hoperation, hwas, hdomainId ▸ hdomain, hopen,
        hitemId, hitem, rfl⟩
    obtain ⟨order, horder, hpaid⟩ := hclaims item.orderId hregistration
    refine grows_update StatusMoves.refl fun row hrow => ?_
    obtain rfl := Option.mem_unique horder hrow
    rw [StatusMoves, hf order]
    rcases hstatus with ⟨rfl, -⟩ | ⟨rfl, -⟩ <;> rcases hpaid with hpaid | hpaid <;> rw [hpaid]
    · exact .inr (.inr ⟨trivial, rfl, rfl⟩)
    · exact .inr (.inl rfl)
    · exact .inr (.inl rfl)
    · exact .inl rfl

/-! ## Runs -/

variable (lib settings) in
def claimsOpenOutline : Outline (orderOperations lib settings) :=
  (orderOutline lib settings).extend (fun db => RegistrationsSound db ∧ ClaimsOpen db) fun _ t =>
    decisionAllowed lib settings t.op t.loc

theorem RegistrationsSound.orderStep (hs : RegistrationsSound db)
    (heffect : OrderEffect lib settings w db op l db') : RegistrationsSound db' := by
  cases heffect with
  | registrar hwrites _ _ _ | registered hwrites _ _ _ _ _ _ _ _ _ => exact hs.step hwrites
  | quiet _ hsame | activated _ _ _ hsame | resumed _ _ hsame | fulfilled _ hsame | ended hsame
  | settled _ hsame | cancelled _ _ hsame | decided _ _ hsame | created _ _ hsame =>
    constructor
    · rw [hsame.registrarOperations, hsame.domains]
      exact hs.domain
    · rw [hsame.registrarOperations]
      exact hs.unique

variable (lib settings) in
theorem claimsOpenOutline_sound : (claimsOpenOutline lib settings).Sound DecisionsCurrent := by
  refine ((orderOutline_sound lib settings).mono fun _ _ _ _ => trivial).extend
    (fun _ op _ _ => decisionAllowed_begin op) ?_ fun _ _ _ _ _ _ _ _ _ _ _ hu _ => hu
  intro w db t db' t' hcurrent hkeys _ hopen hallowed hstep
  obtain ⟨l, hl, rfl⟩ := Thread.step_eq_some hstep
  have heffect := orderEffect_of_step t.op hl
  exact ⟨⟨hopen.1.orderStep heffect, hopen.2.step hopen.1 hkeys (hcurrent.fits hallowed) heffect⟩,
    decisionAllowed_step hl⟩

/-- **Every order follows the table**, in every run whose decisions are current when they are
written: each further step of the run leaves the status of an order or takes it over an edge, or
over two when it records a registration. -/
theorem order_statuses_followed {db : Database} (hkeys : FulfilmentKeys db)
    (hsound : RegistrationsSound db) (hopen : ClaimsOpen db)
    {c : Config (orderOperations lib settings)}
    (hr : Reaches DecisionsCurrent ⟨db, []⟩ c) {k : ℕ} {w : World}
    {t t' : Thread (orderOperations lib settings)} {db' : Database} (ht : c.threads[k]? = some t)
    (hfits : DecisionsCurrent w c.shared t) (hstep : t.step w c.shared = some (db', t')) :
    OrdersMove (recordsRegistration lib settings t.op t.loc) c.shared.orders db'.orders := by
  have hholds := (claimsOpenOutline_sound lib settings).holds
    (Outline.holds_idle ⟨hkeys, hsound, hopen⟩) hr
  obtain ⟨l, hl, -⟩ := Thread.step_eq_some hstep
  have hthread := hholds.thread t (List.mem_of_getElem? ht)
  exact ordersMove_of_effect hholds.shared.2.2 hthread.1 (hfits.fits hthread.2)
    (orderEffect_of_step t.op hl)

end

/-! ### A decision that overwrites a payment, and one that follows it -/

def beginDecision (position : ℕ) (status : OrderStatus) : List (Move plainOrders) :=
  [.call (.billing (.ledger .updateStatus)) (⟨0, status⟩ : OrderService.UpdateOrderStatusRequest),
    .advance position { now := 7 }]

def payInCash (position : ℕ) : List (Move plainOrders) :=
  [.call (.billing (.ledger .recordManual))
      (⟨⟨"s-1", 0, 100, { method := .cash, reference := "R-1" }⟩, 0⟩ : PaymentService.RecordRequest),
    .advance position { now := 1 }, .advance position { now := 1 }]

/-- The order has been paid since the administrator looked its status up. -/
def paidMeanwhile : Config plainOrders :=
  Config.after ⟨orderedDatabase, []⟩ (beginDecision 0 .cancelled ++ payInCash 1) (by decide +kernel)

def cancelledThen : Config plainOrders :=
  Config.after paidMeanwhile [.advance 0 { now := 8 }] (by decide +kernel)

/-- The paid order is cancelled, which the table does not allow. -/
theorem cancellation_overwrites_payment :
    Config.run ⟨orderedDatabase, []⟩ (beginDecision 0 .cancelled ++ payInCash 1) =
        some paidMeanwhile ∧
      paidMeanwhile.run [.advance 0 { now := 8 }] = some cancelledThen ∧
      (paidMeanwhile.shared.orders.get? 0).map Order.status = some .paid ∧
      (cancelledThen.shared.orders.get? 0).map Order.status = some .cancelled ∧
      OrderService.isOrderTransitionAllowed .paid .cancelled = false ∧
      ¬ OrdersMove True paidMeanwhile.shared.orders cancelledThen.shared.orders := by
  have hpaid : (paidMeanwhile.shared.orders.get? 0).map Order.status = some .paid := by
    decide +kernel
  have hcancelled : (cancelledThen.shared.orders.get? 0).map Order.status = some .cancelled := by
    decide +kernel
  refine ⟨run_eq_after _, run_eq_after _, hpaid, hcancelled, rfl, fun h => ?_⟩
  obtain ⟨order, horder, hstatus⟩ := Option.map_eq_some_iff.1 hpaid
  obtain ⟨order', horder', hmoves⟩ := h 0 order horder
  rw [horder', Option.map_some, Option.some.injEq] at hcancelled
  rw [StatusMoves, hstatus, hcancelled] at hmoves
  exact absurd hmoves (by decide)

/-- The order has been paid before the administrator looks its status up. -/
def readyToProcess : Config plainOrders :=
  Config.after ⟨orderedDatabase, []⟩ (payInCash 0 ++ beginDecision 1 .processing) (by decide +kernel)

theorem fulfilmentKeys_orderedDatabase : FulfilmentKeys orderedDatabase where
  service _ _ _ _ _ ha := absurd ha get?_empty_ne
  domain _ _ _ _ _ ha := absurd ha get?_empty_ne
  domainItem _ _ _ _ hdomain := absurd hdomain get?_empty_ne
  link _ _ _ _ ha := absurd ha get?_empty_ne
  linkItem _ _ _ hlink := absurd hlink get?_empty_ne
  linkDomain _ _ _ _ hlink := absurd hlink get?_empty_ne

theorem processing_follows_payment :
    ∃ t db' t', readyToProcess.threads[1]? = some t ∧
      t.step { now := 8 } readyToProcess.shared = some (db', t') ∧
      (db'.orders.get? 0).map Order.status = some .processing ∧
      OrdersMove (recordsRegistration _ _ t.op t.loc) readyToProcess.shared.orders db'.orders := by
  have hsound : RegistrationsSound orderedDatabase :=
    ⟨fun _ _ h => absurd h get?_empty_ne, fun _ _ _ _ h => absurd h get?_empty_ne⟩
  have hopen : ClaimsOpen orderedDatabase := fun _ h => by
    obtain ⟨id, operation, _, _, _, hoperation, _⟩ := h
    exact absurd hoperation get?_empty_ne
  have hprocessed : ((readyToProcess.threads[1]?.bind fun t =>
      t.step { now := 8 } readyToProcess.shared).map fun p =>
        (p.1.orders.get? 0).map Order.status) = some (some .processing) := by
    decide +kernel
  have hfits : ∀ t ∈ readyToProcess.threads[1]?,
      DecisionsCurrent { now := 8 } readyToProcess.shared t := by
    decide +kernel
  obtain ⟨⟨db', t'⟩, hbind, hstatus⟩ := Option.map_eq_some_iff.1 hprocessed
  obtain ⟨t, ht, hstep⟩ := Option.bind_eq_some_iff.1 hbind
  exact ⟨t, db', t', ht, hstep, hstatus,
    order_statuses_followed fulfilmentKeys_orderedDatabase hsound hopen
      (reaches_of_run (run_eq_after (show (Config.run ⟨orderedDatabase, []⟩
        (payInCash 0 ++ beginDecision 1 .processing)).isSome = true by decide +kernel))
        (by decide +kernel)) ht (hfits t ht) hstep⟩

end WebhostBilling
