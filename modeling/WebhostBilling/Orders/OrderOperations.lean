import WebhostBilling.Billing.BillingOutline
import WebhostBilling.Registrar.OutstandingMutations

/-!
# What moves an order

An order is moved by the operations of billing and by the registration of its domains; `OrderEffect`
says what a step of any of them can write.

`OrderFulfilled` is what an order waits for while it is processed.  The code asks
`orderFulfillmentComplete` instead, which counts the domains of an order; that the count is right
is a matter of the unique keys of the tables (`complete_of_fulfilled`).
-/

namespace WebhostBilling

open RenewalProcessorService

open Store Store.Table Concurrency RegistrarProcessor DomainService ServiceService OrderService

/-! ## The family -/

inductive OrderOperation
  | billing (op : BillingOperation)
  | approve
  | reconcile
  | process

section

variable (lib : Libraries) (settings : RegistrarSettings)

def orderOperations : OrderOperation → Operation Database World
  | .billing op => billingOperations lib op
  | .approve => DomainService.approve settings
  | .reconcile => DomainService.reconcile settings
  | .process => RegistrarProcessor.process settings

end

/-! ## What an order waits for -/

/-- The item was delivered: its service is active, its domain is registered or belonged to the
customer before, or the add-on was marked as fulfilled. -/
def ItemFulfilled (db : Database) (itemId : RowId) (item : OrderItem) : Prop :=
  match item.kind with
  | .hosting => ∃ id service, db.services.get? id = some service ∧
      (service.orderItemId = some itemId ∧ service.status = .active)
  | .domain => db.domainRegistered itemId = true ∨ db.existingDomainLinked itemId = true
  | .addOn => item.fulfilledAt.isSome = true

instance (db : Database) (itemId : RowId) (item : OrderItem) :
    Decidable (ItemFulfilled db itemId item) := by
  unfold ItemFulfilled
  split <;> infer_instance

def OrderFulfilled (db : Database) (orderId : RowId) : Prop :=
  ∀ itemId item, db.orderItems.get? itemId = some item → item.orderId = orderId →
    ItemFulfilled db itemId item
deriving Decidable

/-- The unique keys that fulfilment is counted by: an item has one service and one domain, a domain
it bills that its customer owned before is no domain of its own, and a domain is billed by an item
of its kind. -/
structure FulfilmentKeys (db : Database) : Prop where
  service : ∀ i j a b itemId, db.services.get? i = some a → db.services.get? j = some b →
    a.orderItemId = some itemId → b.orderItemId = some itemId → i = j
  domain : ∀ i j a b itemId, db.domains.get? i = some a → db.domains.get? j = some b →
    a.orderItemId = some itemId → b.orderItemId = some itemId → i = j
  domainItem : ∀ id domain itemId item, db.domains.get? id = some domain →
    domain.orderItemId = some itemId → db.orderItems.get? itemId = some item → item.kind = .domain
  link : ∀ i j a b, db.existingDomainOrders.get? i = some a →
    db.existingDomainOrders.get? j = some b → a.domainId = b.domainId ∨
      a.orderItemId = b.orderItemId → i = j
  linkItem : ∀ i link item, db.existingDomainOrders.get? i = some link →
    db.orderItems.get? link.orderItemId = some item → item.linksExistingDomain = true
  linkDomain : ∀ i link id domain, db.existingDomainOrders.get? i = some link →
    db.domains.get? id = some domain → domain.orderItemId ≠ some link.orderItemId

/-! ## What a step writes -/

def KeepsItem (f : Service → Service) : Prop := ∀ service, (f service).orderItemId = service.orderItemId

def NoneActivated (services services' : Table Service) : Prop :=
  ∀ id service', services'.get? id = some service' → ∃ service, services.get? id = some service ∧
    service'.orderItemId = service.orderItemId ∧
      (service'.status = .active → service.status = .active)

def NoneRegistered (domains domains' : Table Domain) : Prop :=
  ∀ id domain', domains'.get? id = some domain' → ∃ domain, domains.get? id = some domain ∧
    domain'.orderItemId = domain.orderItemId ∧ domain'.origin = domain.origin ∧
      (domain'.state = .registered → domain.state = .registered)

def ClaimsPaid (db : Database) (operations' : Table RegistrarOperation) : Prop :=
  ∀ id operation', operations'.get? id = some operation' → operation'.claimedAt.isSome →
    (∃ operation, db.registrarOperations.get? id = some operation ∧ operation.claimedAt.isSome) ∨
    ∀ domain itemId, db.domains.get? operation'.domainId = some domain →
      domain.orderItemId = some itemId → ∃ item order, db.orderItems.get? itemId = some item ∧
        db.orders.get? item.orderId = some order ∧
        (order.status = .paid ∨ order.status = .processing)

section

variable (lib : Libraries) (settings : RegistrarSettings)

/-- The service that a step makes active again without looking at its order: an unsuspension by the
API or by the worker. -/
def resumedService (db : Database) : (op : OrderOperation) → (orderOperations lib settings op).Local →
    Option RowId
  | .billing (.hosting op), l =>
    match execution lib.requestHash lib.payloadHash op l,
        automation lib.requestHash lib.payloadHash op l with
    | some (.completeSuccess call operationId _), _ =>
      if call.request.input = .unsuspendAccount then
        (db.operations.get? operationId).bind HostingPanelOperation.serviceId else none
    | _, some (.complete job) => if job.action = .unsuspend then some job.payload.serviceId else none
    | _, _ => none
  | _, _ => none

/-- What a step is about to make of an order's status: the order, the status it was read with and
the one to come. -/
def decidedStatus : (op : OrderOperation) → (orderOperations lib settings op).Local →
    Option (RowId × OrderStatus × OrderStatus)
  | .billing (.ledger .updateStatus), .transact request current _ =>
    some (request.orderId, current.status, request.status)
  | .billing .createService, .commit _ _ item order =>
    if order.status = .paid then some (item.orderId, .paid, .processing) else none
  | _, _ => none

/-- **What one step can write to the tables that an order is fulfilled by.** -/
inductive OrderEffect (w : World) (db : Database) :
    (op : OrderOperation) → (orderOperations lib settings op).Local → Database → Prop
  | quiet {op : OrderOperation} {l : (orderOperations lib settings op).Local} {db' : Database}
      {services : Table Service} (hservices : NoneActivated db.services services)
      (hsame : SameOrderTables { db with services := services } db') : OrderEffect w db op l db'
  | activated {op : OrderOperation} {l : (orderOperations lib settings op).Local} {db' : Database}
      {serviceId : RowId} {service : Service} {f : Service → Service} {orders : Table Order}
      (hservice : db.services.get? serviceId = some service) (hkeeps : KeepsItem f)
      (hchecked : CompletionChecked w.now service.orderItemId
        { db with services := db.services.update serviceId f } orders)
      (hsame : SameOrderTables
        { db with services := db.services.update serviceId f, orders := orders } db') :
      OrderEffect w db op l db'
  | resumed {op : OrderOperation} {l : (orderOperations lib settings op).Local} {db' : Database}
      {serviceId : RowId} {f : Service → Service}
      (hresumed : resumedService lib settings db op l = some serviceId) (hkeeps : KeepsItem f)
      (hsame : SameOrderTables { db with services := db.services.update serviceId f } db') :
      OrderEffect w db op l db'
  | fulfilled {op : OrderOperation} {l : (orderOperations lib settings op).Local} {db' : Database}
      {itemId : RowId} {orders : Table Order}
      (hchecked : CompletionChecked w.now (some itemId)
        { db with orderItems := db.orderItems.update itemId fun item =>
            { item with fulfilledAt := some w.now } } orders)
      (hsame : SameOrderTables
        { db with
          orderItems := db.orderItems.update itemId fun item =>
            { item with fulfilledAt := some w.now }
          orders := orders } db') : OrderEffect w db op l db'
  | ended {op : OrderOperation} {l : (orderOperations lib settings op).Local} {db' : Database}
      {itemId endAt : ℕ}
      (hsame : SameOrderTables
        { db with orderItems := db.orderItems.update itemId (ServiceAddOnsService.endRenewal endAt) }
        db') : OrderEffect w db op l db'
  | settled {op : OrderOperation} {l : (orderOperations lib settings op).Local} {db' : Database}
      {invoice : Invoice} {orders : Table Order}
      (hsettled : PaymentService.OrderSettled invoice w.now db.orders orders)
      (hsame : SameOrderTables { db with orders := orders } db') : OrderEffect w db op l db'
  | cancelled {op : OrderOperation} {l : (orderOperations lib settings op).Local} {db' : Database}
      {orderId decidedAt : ℕ} {order : Order} (horder : db.orders.get? orderId = some order)
      (hstatus : order.status = .pending ∨ order.status = .awaitingPayment)
      (hsame : SameOrderTables
        { db with orders := db.orders.update orderId fun order =>
            { order with status := .cancelled, cancelledAt := some decidedAt, updatedAt := w.now } }
        db') : OrderEffect w db op l db'
  | decided {db' : Database} {request : UpdateOrderStatusRequest} {current : Order}
      {decidedAt : ℕ} (hguard : db.domainOrderGuard request.orderId request.status = .ok ())
      (hfulfilled : requireFulfilled db request.orderId request.status = .ok ())
      (hsame : SameOrderTables
        { db with
          orders := db.orders.update request.orderId
            (statusData request.status decidedAt w.now) } db') :
      OrderEffect w db (.billing (.ledger .updateStatus))
        (UpdateStatusState.transact request current decidedAt) db'
  | created {db' : Database} {input : CreateServiceRequest} {activeAdapter : String}
      {item : OrderItem} {order : Order} {orders : Table Order}
      (horders : orders = db.orders ∨ order.status = .paid ∧
        orders = db.orders.update item.orderId fun order =>
          { order with status := .processing, updatedAt := w.now })
      (hfresh : ∀ id service, db.services.get? id = some service →
        service.orderItemId ≠ some input.orderItemId)
      (hsame : SameOrderTables
        { db with
          services := db.services.insert
            (newService RenewalCalendar.nextServiceDueAt input item order w.now)
          orders := orders } db') :
      OrderEffect w db (.billing .createService)
        (CreateState.commit input activeAdapter item order) db'
  | registrar {op : OrderOperation} {l : (orderOperations lib settings op).Local} {db' : Database}
      {kind : RegistrarKind} {m : (registrarOperations settings kind).Local}
      (hwrites : RegistrarWrites settings w db kind m db')
      (hdomains : NoneRegistered db.domains db'.domains)
      (hclaims : ClaimsPaid db db'.registrarOperations)
      (hsame : SameOrderTables
        { db with domains := db'.domains, registrarOperations := db'.registrarOperations } db') :
      OrderEffect w db op l db'
  | registered {db' : Database} {job : Job} {observation found : Option RegistrarObservation}
      {operations : Table RegistrarOperation} {domain : Domain} {item : OrderItem}
      {status : OrderStatus} {f : Order → Order} {m : (registrarOperations settings .process).Local}
      (hwrites : RegistrarWrites settings w db .process m db') (hclaims : ClaimsPaid db operations)
      (hdomain : db.domains.get? job.domainId = some domain) (hopen : ¬ domain.state.resolved)
      (hkeeps : (recordedDomain found domain).orderItemId = domain.orderItemId)
      (horigin : domain.orderItemId.isSome → (recordedDomain found domain).origin ≠ .existing)
      (hitem : db.orderItems.get? job.orderItemId = some item)
      (hf : ∀ order, (f order).status = status)
      (hstatus : status = .completed ∧
          (recorded job found operations db).domainOrderGuard item.orderId .completed = .ok () ∧
          (recorded job found operations db).orderFulfillmentComplete item.orderId = true ∨
        status = .processing ∧
          (recorded job found operations db).orderFulfillmentComplete item.orderId = false)
      (hsame : SameOrderTables
        { recorded job found operations db with orders := db.orders.update item.orderId f } db') :
      OrderEffect w db .process (ProcessState.recording job observation) db'

end

/-! ## The registration of a domain -/

theorem recordedDomain_orderItemId (found : Option RegistrarObservation) (domain : Domain) :
    (recordedDomain found domain).orderItemId = domain.orderItemId := by
  unfold recordedDomain
  split <;> rfl

theorem recordedDomain_origin (found : Option RegistrarObservation) (domain : Domain) :
    (recordedDomain found domain).origin = domain.origin := by
  unfold recordedDomain
  split <;> rfl

theorem recordedDomain_state (found : Option RegistrarObservation) (domain : Domain) :
    (recordedDomain found domain).state = stateOf found := by
  unfold recordedDomain
  split
  · rename_i hstate
    exact hstate.symm
  · rfl

/-! ## Every step is one of these writes -/

section

variable {lib : Libraries} {settings : RegistrarSettings} {w : World} {db db' : Database}

theorem noneActivated_refl (services : Table Service) : NoneActivated services services :=
  fun _ service hservice => ⟨service, hservice, rfl, id⟩

theorem noneActivated_update {services : Table Service} {id : RowId} {f : Service → Service}
    (hf : ∀ service, services.get? id = some service → (f service).orderItemId = service.orderItemId ∧
      ((f service).status = .active → service.status = .active)) :
    NoneActivated services (services.update id f) := by
  intro j service' hservice'
  rcases get?_update_cases hservice' with ⟨rfl, service, hservice, rfl⟩ | ⟨-, hservice⟩
  · exact ⟨service, hservice, hf service hservice⟩
  · exact ⟨service', hservice, rfl, fun h => h⟩

theorem NoneActivated.trans {a b c : Table Service} (h : NoneActivated a b)
    (h' : NoneActivated b c) : NoneActivated a c := by
  intro id service hservice
  obtain ⟨service₁, hservice₁, hitem₁, hactive₁⟩ := h' id service hservice
  obtain ⟨service₀, hservice₀, hitem₀, hactive₀⟩ := h id service₁ hservice₁
  exact ⟨service₀, hservice₀, hitem₁.trans hitem₀, fun hactive => hactive₀ (hactive₁ hactive)⟩

theorem noneActivated_billed (request : RenewalRequest)
    (service : Service) :
    NoneActivated db.services (billedServices request service db) := by
  rw [billedServices]
  split
  · exact noneActivated_update fun _ _ => ⟨rfl, fun h => h⟩
  · exact noneActivated_refl _

theorem noneActivated_applied (now : ℕ) (services : Table Service) (items : List InvoiceItem) :
    NoneActivated services (appliedServices now services items) := by
  rw [appliedServices]
  induction items generalizing services with
  | nil => exact noneActivated_refl services
  | cons item items ih =>
    have hitem : NoneActivated services (appliedService now services item) := by
      unfold appliedService
      split
      · refine noneActivated_update fun service _ => ?_
        split <;> exact ⟨rfl, fun h => h⟩
      · exact noneActivated_refl services
    exact hitem.trans (ih _)

theorem noneRegistered_update {domains : Table Domain} {id : RowId} {f : Domain → Domain}
    (hf : ∀ domain, domains.get? id = some domain → (f domain).orderItemId = domain.orderItemId ∧
      (f domain).origin = domain.origin ∧
      ((f domain).state = .registered → domain.state = .registered)) :
    NoneRegistered domains (domains.update id f) := by
  intro j domain' hdomain'
  rcases get?_update_cases hdomain' with ⟨rfl, domain, hdomain, rfl⟩ | ⟨-, hdomain⟩
  · exact ⟨domain, hdomain, hf domain hdomain⟩
  · exact ⟨domain', hdomain, rfl, rfl, fun h => h⟩

theorem noneRegistered_refl (domains : Table Domain) : NoneRegistered domains domains :=
  fun _ domain hdomain => ⟨domain, hdomain, rfl, rfl, fun h => h⟩

namespace OrderEffect

variable {op : OrderOperation} {l : (orderOperations lib settings op).Local}

theorem same (h : SameOrderTables db db') : OrderEffect lib settings w db op l db' :=
  .quiet (noneActivated_refl db.services) h

theorem serviceWritten (serviceId : RowId) (f : Service → Service) (hkeeps : KeepsItem f)
    (hactive : ∀ service, (f service).status ≠ .active)
    (h : SameOrderTables { db with services := db.services.update serviceId f } db') :
    OrderEffect lib settings w db op l db' :=
  .quiet (noneActivated_update fun service _ =>
    ⟨hkeeps service, fun h => absurd h (hactive service)⟩) h

theorem unsuspended (serviceId : RowId) (f : Service → Service)
    (hresumed : resumedService lib settings db op l = some serviceId) (hkeeps : KeepsItem f)
    (h : SameOrderTables { db with services := db.services.update serviceId f } db') :
    OrderEffect lib settings w db op l db' :=
  .resumed hresumed hkeeps h

theorem ofPaid {invoice : Invoice} {amount : ℤ} {orders : Table Order}
    (horders : PaymentService.OrderPaidBy invoice amount w.now db.orders orders)
    (h : SameOrderTables { db with orders := orders } db') :
    OrderEffect lib settings w db op l db' := by
  rcases horders with rfl | ⟨-, hsettled⟩
  · exact .same h
  · exact .settled hsettled h

end OrderEffect

theorem successData_status {input : HostingPanelService.HostingOperationInput}
    {account : Option HostingAccount}
    {actorUserId now : ℕ} {f : Service → Service}
    (h : HostingPanelService.successData input account actorUserId now = some f) :
    (∀ service, (f service).status ≠ .active) ∨ (input = .createAccount ∧ account.isSome) ∨
      input = .unsuspendAccount := by
  unfold HostingPanelService.successData at h
  split at h
  · exact .inr (.inl ⟨rfl, rfl⟩)
  · rw [Option.some.injEq] at h
    subst h
    exact .inl fun _ h => nomatch h
  · exact .inr (.inr rfl)
  · rw [Option.some.injEq] at h
    subst h
    exact .inl fun _ h => nomatch h
  · cases h

theorem orderEffect_of_hosting (op : HostingOperation)
    {l l' : (hostingOperations lib.requestHash lib.payloadHash op).Local}
    (h : (hostingOperations lib.requestHash lib.payloadHash op).step w db l = some (db', l')) :
    OrderEffect lib settings w db (.billing (.hosting op)) l db' := by
  cases threadStep_of_step (Thread.step_of h) with
  | execute hl hl' hworks hstep =>
    cases hstep with
    | idle howned => exact .same (.refl _)
    | @create call db' operationId service hok =>
      obtain ⟨server, services, -, -, -, -, -, -, hservices, rfl⟩ :=
        HostingPanelService.createTransaction_eq_ok hok
      rcases hservices with ⟨-, rfl⟩ | ⟨-, rfl⟩
      · exact .same ⟨rfl, rfl, rfl, rfl, rfl, rfl⟩
      · exact .serviceWritten call.serviceId (HostingPanelService.provisioningData w.now)
          (fun _ => rfl) (fun _ h => nomatch h) ⟨rfl, rfl, rfl, rfl, rfl, rfl⟩
    | succeed hok | fail herror => exact .same (.refl _)
    | @completeSuccess call operationId result db' operation l' hok howned =>
      obtain ⟨current, services, orders, events, hcurrent, -, hwritten, hnone, horders, rfl⟩ :=
        HostingPanelService.completeSuccessTransaction_eq_ok hok
      cases hid : current.serviceId with
      | none =>
        rw [hid] at horders
        obtain ⟨-, rfl⟩ := horders.resolve_right fun h => nomatch h.1.1
        exact .same ⟨rfl, rfl, hnone hid, rfl, rfl, rfl⟩
      | some serviceId =>
        rw [hid] at horders
        rcases hwritten serviceId hid with ⟨hdata, rfl⟩ | ⟨f, service, hf, hservice, -, rfl⟩
        · have hleft := horders.resolve_right fun ⟨⟨_, hinput, hsome⟩, _⟩ => by
            obtain ⟨account, haccount⟩ := Option.isSome_iff_exists.1 hsome
            rw [hinput, haccount] at hdata
            cases hdata
          exact .same ⟨hleft.2, rfl, rfl, rfl, rfl, rfl⟩
        · have hkeeps : KeepsItem f := fun service =>
            congrArg ServiceTerms.orderItemId (keepsTerms_success hf service)
          rw [Option.bind_some, get?_update_self hservice, Option.bind_some, hkeeps] at horders
          rcases horders with ⟨hasked, rfl⟩ | ⟨-, hchecked⟩
          · rcases successData_status hf with hactive | hcreate | hunsuspend
            · exact .serviceWritten _ _ hkeeps hactive ⟨rfl, rfl, rfl, rfl, rfl, rfl⟩
            · exact absurd ⟨rfl, hcreate⟩ hasked
            · refine .unsuspended serviceId f ?_ hkeeps ⟨rfl, rfl, rfl, rfl, rfl, rfl⟩
              simp only [resumedService, hl, hunsuspend, if_true, hcurrent]
              exact hid
          · exact .activated hservice hkeeps hchecked ⟨rfl, rfl, rfl, rfl, rfl, rfl⟩
    | @completeFailure operationId error db' operation l' hok howned =>
      obtain ⟨current, services, -, -, hservices, rfl⟩ :=
        HostingPanelService.completeFailureTransaction_eq_ok hok
      rcases hservices with ⟨rfl, -⟩ | ⟨serviceId, _, -, -, -, rfl⟩
      · exact .same ⟨rfl, rfl, rfl, rfl, rfl, rfl⟩
      · exact .serviceWritten serviceId (HostingPanelService.failureData error w.now)
          (fun _ => rfl) (fun _ h => nomatch h) ⟨rfl, rfl, rfl, rfl, rfl, rfl⟩
  | automate hl howned hworks hstep =>
    cases hstep with
    | idle hjob => exact .same (.refl _)
    | prepare hok =>
      cases HostingAutomationService.prepareTransaction_eq_ok lib.payloadHash hok with
      | create hrow hrunning hevidence hkey => exact .same ⟨rfl, rfl, rfl, rfl, rfl, rfl⟩
      | found hlatest => exact .same (.refl _)
      | nothing hcancellation hservices =>
        rcases hservices with rfl | rfl
        · exact .same ⟨rfl, rfl, rfl, rfl, rfl, rfl⟩
        · refine .quiet ?_ ⟨rfl, rfl, rfl, rfl, rfl, rfl⟩
          exact noneActivated_update fun _ _ => ⟨rfl, fun h => h⟩
    | skip hok hjob =>
      obtain ⟨operations, -, rfl⟩ := HostingAutomationService.completeSkipped_eq_ok hok
      exact .same ⟨rfl, rfl, rfl, rfl, rfl, rfl⟩
    | @complete job db' l' hok hjob =>
      obtain ⟨service, _, requests, -, -, -, -, -, heq⟩ :=
        HostingAutomationService.completeTransaction_eq_ok hok
      have hsame : SameOrderTables
          { db with
            services := db.services.update job.payload.serviceId
              (HostingAutomationService.completeData job.action job.payload w.now) } db' := by
        rw [show db' = _ from heq]
        exact ⟨rfl, rfl, rfl, rfl, rfl, rfl⟩
      have hkeeps : KeepsItem
          (HostingAutomationService.completeData job.action job.payload w.now) := fun service =>
        congrArg ServiceTerms.orderItemId (keepsTerms_complete service)
      cases haction : job.action with
      | suspend =>
        refine .serviceWritten _ _ hkeeps (fun service => ?_) hsame
        rw [haction]
        exact nofun
      | unsuspend =>
        refine .unsuspended _ _ ?_ hkeeps hsame
        simp only [resumedService, execution_of_automation hl, hl, haction, if_true]
    | fail hok hjob =>
      obtain ⟨operations, -, rfl⟩ := HostingAutomationService.failTransaction_eq_ok hok
      exact .same ⟨rfl, rfl, rfl, rfl, rfl, rfl⟩
  | transition hl howned hworks hstep =>
    obtain ⟨current, data, events, orders, hcurrent, -, hdata, -, horders, rfl⟩ :=
      transitionTransaction_eq_ok hstep
    have hkeeps : KeepsItem data := fun service =>
      congrArg ServiceTerms.orderItemId (keepsTerms_transition hdata service)
    rcases horders with ⟨hactive, rfl⟩ | ⟨-, hchecked⟩
    · exact .serviceWritten _ _ hkeeps (fun service => transitionData_status hdata service ▸ hactive)
        ⟨rfl, rfl, rfl, rfl, rfl, rfl⟩
    · exact .activated hcurrent hkeeps hchecked ⟨rfl, rfl, rfl, rfl, rfl, rfl⟩
  | wait hl howned hworks hsame =>
    subst hsame
    exact .same (.refl _)

theorem orderEffect_of_ledger (op : LedgerOperation)
    {l l' : (ledgerOperations lib.runtime RenewalCalendar.addBillingPeriod op).Local}
    (h : (ledgerOperations lib.runtime RenewalCalendar.addBillingPeriod op).step w db l =
      some (db', l')) : OrderEffect lib settings w db (.billing (.ledger op)) l db' := by
  cases ledgerWrite_of_step op h with
  | same hwrite | noted hwrite | adjusted _ _ _ _ hwrite | drafted hwrite | redrafted _ _ hwrite =>
    subst hwrite
    exact .same ⟨rfl, rfl, rfl, rfl, rfl, rfl⟩
  | charged _ _ _ _ horders hwrite =>
    subst hwrite
    exact .ofPaid horders ⟨rfl, rfl, rfl, rfl, rfl, rfl⟩
  | delivered heffect =>
    cases heffect with
    | rejected | ignored | failed => exact .same ⟨rfl, rfl, rfl, rfl, rfl, rfl⟩
    | settled _ _ _ _ _ _ _ _ _ horders =>
      exact .settled horders ⟨rfl, rfl, rfl, rfl, rfl, rfl⟩
  | acted hok =>
    obtain ⟨invoice, orders, events, -, -, -, -, horders, rfl⟩ :=
      InvoiceService.applyActionTransaction_eq_ok hok
    rcases horders with hsame | ⟨orderId, order, -, -, horder, hstatus, hcancelled⟩
    · exact .same ⟨hsame, rfl, rfl, rfl, rfl, rfl⟩
    · exact .cancelled horder hstatus ⟨hcancelled, rfl, rfl, rfl, rfl, rfl⟩
  | decided hok =>
    obtain ⟨_, events, -, hguard, hfulfilled, rfl⟩ := updateStatusTransaction_eq_ok hok
    exact .decided hguard hfulfilled ⟨rfl, rfl, rfl, rfl, rfl, rfl⟩
  | @renewed request service _ _ _ _ hwrite =>
    subst hwrite
    exact .quiet (noneActivated_billed request service) ⟨rfl, rfl, rfl, rfl, rfl, rfl⟩

theorem orderEffect_of_billing (op : BillingOperation)
    {l l' : (billingOperations lib op).Local}
    (h : (billingOperations lib op).step w db l = some (db', l')) :
    OrderEffect lib settings w db (.billing op) l db' := by
  cases op with
  | ledger op => exact orderEffect_of_ledger op h
  | hosting op => exact orderEffect_of_hosting op h
  | createService =>
    rcases createStep_writes _ h with
      rfl | ⟨input, activeAdapter, item, order, serviceId, rfl, hok⟩
    · exact .same (.refl _)
    · obtain ⟨hfresh, orders, horders, rfl⟩ := createTransaction_eq_ok _ hok
      exact .created horders hfresh ⟨rfl, rfl, rfl, rfl, rfl, rfl⟩
  | fulfillAddOn =>
    rcases fulfillAddOnStep_writes h with rfl | ⟨request, hok⟩
    · exact .same (.refl _)
    · rcases fulfillAddOnTransaction_eq_ok hok with rfl | ⟨item, orders, -, -, -, -, hchecked, rfl⟩
      · exact .same (.refl _)
      · exact .fulfilled hchecked ⟨rfl, rfl, rfl, rfl, rfl, rfl⟩
  | cancelAddOn =>
    rcases ServiceAddOnsService.cancelStep_writes (w := w) h with rfl | ⟨request, hok⟩
    · exact .same (.refl _)
    · rcases ServiceAddOnsService.cancelTransaction_eq_ok hok with
        rfl | ⟨service, item, endAt, -, -, -, -, rfl⟩
      · exact .same (.refl _)
      · exact .ended ⟨rfl, rfl, rfl, rfl, rfl, rfl⟩
  | processOpenRenewals =>
    rcases openRenewalStep_writes _ h with
      ⟨events, rfl⟩ | ⟨invoiceId, now, invoice, events, -, -, rfl⟩ <;>
    exact .same ⟨rfl, rfl, rfl, rfl, rfl, rfl⟩
  | processPayment =>
    rcases paymentStep_writes h with
      ⟨runs, rfl⟩ | ⟨run, items, events, rfl, hdelivery, rfl⟩
    · exact .same ⟨rfl, rfl, rfl, rfl, rfl, rfl⟩
    · exact .quiet (noneActivated_applied w.now db.services items) ⟨rfl, rfl, rfl, rfl, rfl, rfl⟩
  | dispatchOutbox =>
    obtain ⟨⟨s, m⟩, hdispatch, rfl, -⟩ := map_eq_some_pair.1 h
    obtain ⟨events, hevents⟩ := OutboxDispatcherService.dispatchStep_writes hdispatch
    simp only [hevents]
    exact .same ⟨rfl, rfl, rfl, rfl, rfl, rfl⟩

theorem claimsPaid_same (h : db'.registrarOperations = db.registrarOperations) :
    ClaimsPaid db db'.registrarOperations := by
  intro id operation hoperation hclaimed
  rw [h] at hoperation
  exact .inl ⟨operation, hoperation, hclaimed⟩

theorem claimsPaid_update {id : RowId} {f : RegistrarOperation → RegistrarOperation}
    (hf : ∀ operation, db.registrarOperations.get? id = some operation →
      (f operation).claimedAt.isSome → operation.claimedAt.isSome) :
    ClaimsPaid db (db.registrarOperations.update id f) := by
  intro j operation' hoperation' hclaimed
  rcases get?_update_cases hoperation' with ⟨rfl, operation, hoperation, rfl⟩ | ⟨-, hoperation⟩
  · exact .inl ⟨operation, hoperation, hf operation hoperation hclaimed⟩
  · exact .inl ⟨operation', hoperation, hclaimed⟩

theorem orderEffect_of_process {l l' : ProcessState}
    (h : processStep settings w db l = some (db', l')) :
    OrderEffect lib settings w db .process l db' := by
  have hwrites := writes_of_process h
  cases l with
  | locate operationId =>
    simp only [processStep] at h
    split at h
    · cases h; exact .same (.refl _)
    · split at h <;> (cases h; exact .same (.refl _))
  | prepare operationId =>
    have heq : db' = (atomically (prepareTransaction settings operationId w.now) db).1 := by
      simp only [processStep] at h
      split at h <;> (cases h; rfl)
    rcases atomically_fst (prepareTransaction settings operationId w.now) db with hsame | ⟨r, hok⟩
    · rw [heq, hsame]
      exact .same (.refl _)
    · rw [← heq] at hok
      cases prepareTransaction_eq_ok hok with
      | polled hp hclaimed hmoves =>
        refine .registrar hwrites (noneRegistered_refl _) ?_ ⟨rfl, rfl, rfl, rfl, rfl, rfl⟩
        refine claimsPaid_update fun operation hoperation _ => ?_
        rw [hp.operation, Option.some.injEq] at hoperation
        exact hoperation ▸ hclaimed
      | ineligible hp hunclaimed =>
        exact .registrar hwrites (noneRegistered_update fun _ _ => ⟨rfl, rfl, by rintro ⟨⟩⟩)
          (claimsPaid_same rfl) ⟨rfl, rfl, rfl, rfl, rfl, rfl⟩
      | @claimed p order evidence hp hunclaimed heligible _ _ _ item hitem horder =>
        simp only [eligible, Bool.and_eq_true, decide_eq_true_eq] at heligible
        refine .registrar hwrites (noneRegistered_update fun _ _ => ⟨rfl, rfl, by rintro ⟨⟩⟩) ?_
          ⟨rfl, rfl, rfl, rfl, rfl, rfl⟩
        intro id operation' hoperation' hclaimed'
        rcases get?_update_cases hoperation' with ⟨rfl, row, hrow, rfl⟩ | ⟨-, hsame⟩
        · refine .inr fun domain' itemId' hdomain' hitemId' => ?_
          obtain rfl := Option.mem_unique hp.operation hrow
          obtain rfl := Option.mem_unique (show _ = some domain' from hdomain') hp.domain
          obtain rfl := Option.mem_unique hitemId' hp.orderItem
          exact ⟨item, order, hitem, horder, heligible.1.2⟩
        · exact .inl ⟨operation', hsame, hclaimed'⟩
  | quoting job | contacting job | registering job =>
    simp only [processStep, uncertain] at h
    split at h <;> (cases h; exact .same ⟨rfl, rfl, rfl, rfl, rfl, rfl⟩)
  | searching job cost | requoting job =>
    simp only [processStep, uncertain] at h
    split at h
    · split at h <;> (cases h; exact .same ⟨rfl, rfl, rfl, rfl, rfl, rfl⟩)
    · cases h; exact .same ⟨rfl, rfl, rfl, rfl, rfl, rfl⟩
  | observing job =>
    simp only [processStep] at h
    split at h <;> (cases h; exact .same ⟨rfl, rfl, rfl, rfl, rfl, rfl⟩)
  | recording job observation =>
    have heq : db' = (atomically (recordTransaction job observation w.now) db).1 := by
      cases h; rfl
    rcases atomically_fst (recordTransaction job observation w.now) db with hsame | ⟨u, hok⟩
    · rw [heq, hsame]
      exact .same (.refl _)
    · rw [← heq] at hok
      rcases recordTransaction_eq_ok hok with
        rfl | ⟨domain, operation, found, orders, evidence, hdomain, hopen, -, hshape, horders, rfl⟩
      · exact .same (.refl _)
      have hclaims : ClaimsPaid db
          (db.registrarOperations.update job.intent.operationId (nextPoll w.now)) :=
        claimsPaid_update fun _ _ h => h
      rcases horders with ⟨hstate, rfl⟩ | ⟨-, item, f, status, hitem, hf, hstatus, rfl⟩
      · refine .registrar hwrites ?_ hclaims ⟨rfl, rfl, rfl, rfl, rfl, rfl⟩
        refine noneRegistered_update fun domain _ => ⟨recordedDomain_orderItemId found domain,
          recordedDomain_origin found domain, fun hregistered => ?_⟩
        rw [recordedDomain_state] at hregistered
        exact absurd hregistered hstate
      · refine .registered hwrites hclaims hdomain hopen (recordedDomain_orderItemId found domain) ?_
          hitem hf hstatus ⟨rfl, rfl, rfl, rfl, rfl, rfl⟩
        intro hitemId hexisting
        simp only [Database.domainShape, hexisting] at hshape
        rw [recordedDomain_orderItemId] at hshape
        rw [hshape.2.1] at hitemId
        cases hitemId
  | done => cases h

theorem orderEffect_of_step (op : OrderOperation) {l l' : (orderOperations lib settings op).Local}
    (h : (orderOperations lib settings op).step w db l = some (db', l')) :
    OrderEffect lib settings w db op l db' := by
  cases op with
  | billing op => exact orderEffect_of_billing op h
  | process => exact orderEffect_of_process h
  | reconcile =>
    cases l with
    | transact request =>
      cases h
      rcases atomically_fst (reconcileTransaction settings request w.now) db with hsame | ⟨u, hok⟩
      · rw [hsame]
        exact .same (.refl _)
      · obtain ⟨events, heq⟩ := reconcileTransaction_eq_ok hok
        rw [heq]
        exact .same ⟨rfl, rfl, rfl, rfl, rfl, rfl⟩
    | done result => cases h
  | approve =>
    have hwrites : RegistrarWrites settings w db .approve l db' :=
      registrarWrites_of_step RegistrarKind.approve h
    cases l with
    | check request =>
      simp only [orderOperations, approve, approveStep] at h
      split at h <;> (cases h; exact .same (.refl _))
    | quoting approval =>
      simp only [orderOperations, approve, approveStep] at h
      split at h
      · split at h <;> (cases h; exact .same (.refl _))
      · cases h; exact .same (.refl _)
    | transact approval cost =>
      cases h
      rcases atomically_fst (approveTransaction settings approval w.now) db with hsame | ⟨id, hok⟩
      · rw [hsame]
        exact .same (.refl _)
      · obtain ⟨operation, happroved, hsame⟩ := approveTransaction_eq_ok hok
        refine .registrar hwrites ?_ ?_ hsame
        · rw [happroved.domains]
          exact noneRegistered_update fun _ _ => ⟨rfl, rfl, by rintro ⟨⟩⟩
        · rcases happroved.operations with ⟨-, hsame⟩ | ⟨-, -, hinsert⟩
          · exact claimsPaid_same hsame
          · rw [hinsert]
            intro i operation' hoperation' hclaimed
            rcases get?_insert_cases hoperation' with ⟨-, rfl⟩ | hold
            · rw [happroved.unclaimed] at hclaimed
              cases hclaimed
            · exact .inl ⟨operation', hold, hclaimed⟩
    | done result => cases h

end

end WebhostBilling
