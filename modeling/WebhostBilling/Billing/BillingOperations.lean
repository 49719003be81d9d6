import WebhostBilling.HostingPanels.Exclusion
import WebhostBilling.Outbox.OutboxDispatcher
import WebhostBilling.Payments.Conservation
import WebhostBilling.Renewal.OpenRenewals
import WebhostBilling.Renewal.RenewalCalendar
import WebhostBilling.Renewal.RenewalPayments
import WebhostBilling.Services.ServiceAddOns

/-!
# The operations of billing

`BillingEffect` says what one step of any operation of billing can write to orders, items, invoices
and services, one constructor for each kind of write; `effect_of_step` is the only place that goes
through the operations one by one.
-/

namespace WebhostBilling

open PaymentService InvoiceService RenewalCalendar OrderService ServiceAddOnsService

open Store Concurrency HostingPanelService HostingAutomationService RenewalProcessorService

structure Libraries where
  runtime : Runtime
  /-- The number of the business date of a moment, in the time zone of the renewal policy. -/
  businessDay : ℕ → ℤ
  requestHash : RowId → ExecuteHostingOperationRequest → String
  payloadHash : AutomationPayload → String

inductive BillingOperation
  | ledger (op : LedgerOperation)
  | hosting (op : HostingOperation)
  | createService
  | fulfillAddOn
  | cancelAddOn
  | processOpenRenewals
  | processPayment
  | dispatchOutbox
deriving DecidableEq

/-- `OutboxDispatcherService.dispatchOnce`, as it is seen in the database: the queues, which it only
adds to, are left out. -/
def dispatchOutbox : Operation Database World where
  Request := OutboxDispatcherService.Dispatcher
  Local := OutboxDispatcherService.DispatchState
  start := .start
  step w db l := (OutboxDispatcherService.dispatchStep w { postgres := db } l).map fun out =>
    (out.1.postgres, out.2)

section

variable (lib : Libraries)

def billingOperations : BillingOperation → Operation Database World
  | .ledger op => ledgerOperations lib.runtime addBillingPeriod op
  | .hosting op => hostingOperations lib.requestHash lib.payloadHash op
  | .createService => ServiceService.create nextServiceDueAt
  | .fulfillAddOn => fulfillAddOn
  | .cancelAddOn => cancel
  | .processOpenRenewals => processOpenRenewals lib.businessDay
  | .processPayment => processPayment
  | .dispatchOutbox => dispatchOutbox

/-! ## What a step writes -/

/-- The four tables as a step leaves them. -/
structure Writes (db' : Database) (invoices : Table Invoice) (orders : Table Order)
    (orderItems : Table OrderItem) (services : Table Service) : Prop where
  invoices : db'.invoices = invoices
  orders : db'.orders = orders
  orderItems : db'.orderItems = orderItems
  services : db'.services = services

structure ServiceTerms where
  customerId : RowId
  orderItemId : Option RowId
  billingPeriod : BillingPeriod
  recurringAmount : ℤ
  currency : String
  nextDueAt : ℕ

def Service.terms (service : Service) : ServiceTerms :=
  ⟨service.customerId, service.orderItemId, service.billingPeriod, service.recurringAmount,
    service.currency, service.nextDueAt⟩

/-- A write that leaves the columns that a service is billed by. -/
def KeepsTerms (f : Service → Service) : Prop := ∀ service, (f service).terms = service.terms

/-- The services after a write to at most one of them, in columns that it is not billed by. -/
def ServicesKept (services services' : Table Service) : Prop :=
  services' = services ∨ ∃ serviceId f, KeepsTerms f ∧ services' = services.update serviceId f

def billedServices (request : RenewalRequest) (service : Service)
    (db : Database) : Table Service :=
  if renewalTotal service
      (renewingAddOns db service) = 0 then
    db.services.update request.serviceId fun row =>
      { row with
        nextDueAt := addBillingPeriod service.nextDueAt service.billingPeriod
        updatedAt := request.now }
  else db.services

/-- **What one step can write to the four tables.** -/
inductive BillingEffect (w : World) (db : Database) :
    (op : BillingOperation) → (billingOperations lib op).Local → Database → Prop
  | kept {op : BillingOperation} {l : (billingOperations lib op).Local} {db' : Database}
      {orders : Table Order} {services : Table Service}
      (horders : OrderCompleted w.now db.orders orders)
      (hservices : ServicesKept db.services services)
      (hwrites : Writes db' db.invoices orders db.orderItems services) : BillingEffect w db op l db'
  | charged {op : BillingOperation} {l : (billingOperations lib op).Local} {db' : Database}
      {invoiceId : RowId} {invoice : Invoice} {amount : ℤ} {orders : Table Order}
      (hinvoice : db.invoices.get? invoiceId = some invoice) (hpayable : invoice.payable)
      (hpos : 0 < amount) (hle : amount ≤ invoice.balanceDue)
      (horders : OrderPaidBy invoice amount w.now db.orders orders)
      (hwrites : Writes db'
        (db.invoices.update invoiceId (chargeInvoice invoice amount w.now)) orders
        db.orderItems db.services) : BillingEffect w db op l db'
  | settled {op : BillingOperation} {l : (billingOperations lib op).Local} {db' : Database}
      {invoiceId : RowId} {invoice : Invoice} {amount : ℤ} {orders : Table Order}
      (hinvoice : db.invoices.get? invoiceId = some invoice) (hpayable : invoice.payable)
      (hamount : amount = invoice.balanceDue)
      (horders : OrderPaidBy invoice amount w.now db.orders orders)
      (hwrites : Writes db' (db.invoices.update invoiceId
          (PaymentGatewayService.settleInvoiceData invoice amount w.now)) orders
        db.orderItems db.services) : BillingEffect w db op l db'
  | adjusted {op : BillingOperation} {l : (billingOperations lib op).Local} {db' : Database}
      {invoiceId : RowId} {invoice : Invoice} {amount : ℤ}
      (hinvoice : db.invoices.get? invoiceId = some invoice) (hpos : 0 < amount)
      (hle : amount ≤ invoice.amountPaid)
      (hwrites : Writes db'
        (db.invoices.update invoiceId (adjustInvoice invoice amount w.now)) db.orders
        db.orderItems db.services) : BillingEffect w db op l db'
  | drafted {op : BillingOperation} {l : (billingOperations lib op).Local} {db' : Database}
      {input : CreateInvoiceRequest} {amounts : InvoiceTotals}
      (hwrites : Writes db' (db.invoices.insert (draftInvoice input amounts w.now))
        db.orders db.orderItems db.services) : BillingEffect w db op l db'
  | redrafted {op : BillingOperation} {l : (billingOperations lib op).Local} {db' : Database}
      {invoiceId : RowId} {invoice : Invoice} {input : DraftInvoiceFields}
      {amounts : InvoiceTotals}
      (hinvoice : db.invoices.get? invoiceId = some invoice) (hdraft : invoice.status = .draft)
      (hwrites : Writes db'
        (db.invoices.update invoiceId (redraft input amounts w.now)) db.orders
        db.orderItems db.services) : BillingEffect w db op l db'
  | acted {db' : Database} {invoiceId : RowId} {action : InvoiceAction}
      {current invoice : Invoice} {next : InvoiceStatus} {decidedAt : ℕ} {orders : Table Order}
      (hinvoice : db.invoices.get? invoiceId = some invoice)
      (hstatus : invoice.status = current.status) (hbalance : invoice.balanceDue = current.balanceDue)
      (hpaid : invoice.amountPaid = current.amountPaid)
      (horders : OrderCancelled action current decidedAt w.now db.orders orders)
      (hwrites : Writes db'
        (db.invoices.update invoiceId (actionData action next decidedAt w.now)) orders
        db.orderItems db.services) :
      BillingEffect w db (.ledger .applyAction)
        (ApplyActionState.transact invoiceId action current next decidedAt) db'
  | decided {db' : Database} {request : UpdateOrderStatusRequest}
      {current order : Order} {decidedAt : ℕ}
      (horder : db.orders.get? request.orderId = some order)
      (hwrites : Writes db' (decidedInvoices request decidedAt w.now db)
        (db.orders.update request.orderId
          (statusData request.status decidedAt w.now))
        db.orderItems db.services) :
      BillingEffect w db (.ledger .updateStatus)
        (UpdateStatusState.transact request current decidedAt) db'
  | renewed {request : RenewalRequest} {db' : Database} {service : Service}
      (hservice : db.services.get? request.serviceId = some service)
      (hperiod : hostingBillingPeriod service.billingPeriod)
      (hbilled : periodBilled db request.serviceId service.nextDueAt
        (addBillingPeriod service.nextDueAt service.billingPeriod) = false)
      (hwrites : Writes db'
        (db.invoices.insert (renewalInvoice lib.runtime request.serviceId
          service (renewingAddOns db service)
          (addBillingPeriod service.nextDueAt service.billingPeriod) request.now))
        db.orders db.orderItems (billedServices request service db)) :
      BillingEffect w db (.ledger .createRenewalInvoice)
        (RenewalState.transact request) db'
  | overdue {op : BillingOperation} {l : (billingOperations lib op).Local} {db' : Database}
      {invoiceId now : ℕ} {invoice : Invoice}
      (hinvoice : db.invoices.get? invoiceId = some invoice)
      (hbecomes : becomesOverdue now invoice)
      (hwrites : Writes db' (db.invoices.update invoiceId
          (overdueInvoice w.now)) db.orders
        db.orderItems db.services) : BillingEffect w db op l db'
  | applied {db' : Database} {run : PaymentRun} {items : List InvoiceItem}
      (hdelivery : w.databaseDelivery.carriedOut = true)
      (hwrites : Writes db' db.invoices db.orders db.orderItems
        (appliedServices w.now db.services items)) :
      BillingEffect w db .processPayment (PaymentState.apply run items) db'
  | created {db' : Database} {input : ServiceService.CreateServiceRequest} {activeAdapter : String}
      {item : OrderItem} {order : Order} {orders : Table Order}
      (horders : orders = db.orders ∨ order.status = .paid ∧
        orders = db.orders.update item.orderId fun order =>
          { order with status := .processing, updatedAt := w.now })
      (hfresh : ∀ id service, db.services.get? id = some service →
        service.orderItemId ≠ some input.orderItemId)
      (hwrites : Writes db' db.invoices orders db.orderItems (db.services.insert
        (ServiceService.newService nextServiceDueAt input item order w.now))) :
      BillingEffect w db .createService
        (ServiceService.CreateState.commit input activeAdapter item order) db'
  | fulfilled {op : BillingOperation} {l : (billingOperations lib op).Local} {db' : Database}
      {itemId : RowId} {item : OrderItem} {orders : Table Order}
      (hitem : db.orderItems.get? itemId = some item) (hkind : item.kind = .addOn)
      (hfulfilled : item.fulfilledAt = none)
      (horders : OrderCompleted w.now db.orders orders)
      (hwrites : Writes db' db.invoices orders
        (db.orderItems.update itemId fun item => { item with fulfilledAt := some w.now })
        db.services) : BillingEffect w db op l db'
  | ended {op : BillingOperation} {l : (billingOperations lib op).Local} {db' : Database}
      {serviceId addOnId endAt : ℕ} {service : Service} {item : OrderItem}
      (hservice : db.services.get? serviceId = some service)
      (hitem : findAddOn db service addOnId = some item)
      (hnone : item.renewalEndsAt = none)
      (hend : availableEndAt db serviceId service addOnId = some endAt)
      (hwrites : Writes db' db.invoices db.orders
        (db.orderItems.update addOnId (endRenewal endAt)) db.services) :
      BillingEffect w db op l db'

/-! ## Every step is one of these writes -/

variable {lib}

variable {w : World} {db db' : Database} {op : BillingOperation} {actorUserId now : ℕ}

variable {l : (billingOperations lib op).Local}

theorem BillingEffect.same :
    BillingEffect lib w db op l db :=
  .kept (.inl rfl) (.inl rfl) ⟨rfl, rfl, rfl, rfl⟩

theorem keepsTerms_transition {current : Service} {input : ServiceService.TransitionServiceInput}
    {data : Service → Service}
    (h : ServiceService.transitionData current input actorUserId now = .ok data) :
    KeepsTerms data := by
  unfold ServiceService.transitionData at h
  split at h
  · rw [Except.ok.injEq] at h
    subst h
    exact fun _ => rfl
  · simp only [eq_ok] at h
    rw [← h.2]
    exact fun _ => rfl
  all_goals
    rw [Except.ok.injEq] at h
    subst h
    exact fun _ => rfl

theorem keepsTerms_success {input : HostingOperationInput} {account : Option HostingAccount}
    {f : Service → Service} (h : successData input account actorUserId now = some f) :
    KeepsTerms f := by
  unfold successData at h
  split at h <;> first
  | (rw [Option.some.injEq] at h
     subst h
     exact fun _ => rfl)
  | exact nomatch h

theorem keepsTerms_complete {action : AutomationAction} {payload : AutomationPayload} :
    KeepsTerms (completeData action payload now) := by
  cases action <;>
  exact fun _ => rfl

theorem effect_of_hosting (hostingOp : HostingOperation)
    {m m' : (hostingOperations lib.requestHash lib.payloadHash hostingOp).Local}
    (h : (hostingOperations lib.requestHash lib.payloadHash hostingOp).step w db m =
      some (db', m')) : BillingEffect lib w db op l db' := by
  cases threadStep_of_step (Thread.step_of h) with
  | execute hl hl' hworks hstep =>
    cases hstep with
    | idle howned => exact .same
    | create hok =>
      obtain ⟨server, services, -, -, -, -, -, -, hservices, rfl⟩ := createTransaction_eq_ok hok
      refine .kept (.inl rfl) ?_ ⟨rfl, rfl, rfl, rfl⟩
      exact hservices.imp And.right fun hcreate =>
        ⟨_, provisioningData w.now, fun _ => rfl, hcreate.2⟩
    | succeed hok | fail herror => exact .same
    | completeSuccess hok howned =>
      obtain ⟨current, services, orders, events, -, -, hwritten, hnone, horders, rfl⟩ :=
        completeSuccessTransaction_eq_ok hok
      refine .kept horders.completed_or_same ?_ ⟨rfl, rfl, rfl, rfl⟩
      cases hserviceId : current.serviceId with
      | none => exact .inl (hnone hserviceId)
      | some serviceId =>
        rcases hwritten serviceId hserviceId with ⟨-, hsame⟩ | ⟨f, _, hdata, -, -, hupdate⟩
        · exact .inl hsame
        · exact .inr ⟨serviceId, f, keepsTerms_success hdata, hupdate⟩
    | @completeFailure operationId error db' op l' hok howned =>
      obtain ⟨current, services, -, -, hservices, rfl⟩ := completeFailureTransaction_eq_ok hok
      refine .kept (.inl rfl) ?_ ⟨rfl, rfl, rfl, rfl⟩
      exact hservices.imp And.left fun ⟨serviceId, _, _, _, _, hupdate⟩ =>
        ⟨serviceId, failureData error w.now, fun _ => rfl, hupdate⟩
  | automate hl howned hworks hstep =>
    cases hstep with
    | idle hjob => exact .same
    | prepare hok =>
      cases prepareTransaction_eq_ok lib.payloadHash hok with
      | create hrow hrunning hevidence hkey =>
        exact .kept (.inl rfl) (.inl rfl) ⟨rfl, rfl, rfl, rfl⟩
      | found hlatest => exact .same
      | nothing hcancellation hservices =>
        refine .kept (.inl rfl) ?_ ⟨rfl, rfl, rfl, rfl⟩
        exact hservices.imp_right fun hcleared => ⟨_, fun service =>
          { service with suspensionInvoiceId := none, updatedAt := w.now }, fun _ => rfl, hcleared⟩
    | skip hok hjob =>
      obtain ⟨operations, -, rfl⟩ := completeSkipped_eq_ok hok
      exact .kept (.inl rfl) (.inl rfl) ⟨rfl, rfl, rfl, rfl⟩
    | complete hok hjob =>
      obtain ⟨service, _, requests, -, -, -, -, -, rfl⟩ := completeTransaction_eq_ok hok
      exact .kept (.inl rfl) (.inr ⟨_, _, keepsTerms_complete, rfl⟩) ⟨rfl, rfl, rfl, rfl⟩
    | fail hok hjob =>
      obtain ⟨operations, -, rfl⟩ := failTransaction_eq_ok hok
      exact .kept (.inl rfl) (.inl rfl) ⟨rfl, rfl, rfl, rfl⟩
  | transition hl howned hworks hstep =>
    obtain ⟨current, data, events, orders, -, -, hdata, -, horders, rfl⟩ :=
      ServiceService.transitionTransaction_eq_ok hstep
    exact .kept horders.completed_or_same (.inr ⟨_, _, keepsTerms_transition hdata, rfl⟩) ⟨rfl, rfl, rfl, rfl⟩
  | wait hl howned hworks hsame =>
    subst hsame
    exact .same

inductive LedgerWrite (lib : Libraries) (w : World) (db db' : Database) :
    (op : LedgerOperation) →
      (ledgerOperations lib.runtime addBillingPeriod op).Local → Prop
  | same {op l : _} (hsame : db' = db) : LedgerWrite lib w db db' op l
  | noted {op l payments : _} (hwrite : db' = { db with payments := payments }) :
      LedgerWrite lib w db db' op l
  | charged {op l invoiceId paymentId invoice amount orders payments : _}
      (hinvoice : db.invoices.get? invoiceId = some invoice) (hpayable : invoice.payable)
      (hpos : 0 < amount) (hle : amount ≤ invoice.balanceDue)
      (horders : OrderPaidBy invoice amount w.now db.orders orders)
      (hwrite : db' = { db with
        payments := payments
        invoices := db.invoices.update invoiceId (chargeInvoice invoice amount w.now)
        orders := orders
        outboxEvents := db.outboxEvents.insertAll
          (chargeEvents invoiceId invoice paymentId amount) }) :
      LedgerWrite lib w db db' op l
  | adjusted {request invoiceId invoice payments result : _}
      (hok : adjustTransaction lib.runtime request invoiceId w.now db =
        .ok (db', result))
      (hinvoice : db.invoices.get? invoiceId = some invoice) (hpos : 0 < request.input.amount)
      (hle : request.input.amount ≤ invoice.amountPaid)
      (hwrite : db' = { db with
        payments := payments
        invoices := db.invoices.update invoiceId
          (adjustInvoice invoice request.input.amount w.now) }) :
      LedgerWrite lib w db db' .adjust (AdjustState.transact request invoiceId)
  | delivered {op l gateway event payloadHash result : _}
      (heffect : PaymentGatewayService.EventEffect gateway event payloadHash w.now db result db') :
      LedgerWrite lib w db db' op l
  | drafted {l input amounts : _} (hwrite : db' = { db with
        invoices := db.invoices.insert (draftInvoice input amounts w.now) }) :
      LedgerWrite lib w db db' .createInvoice l
  | redrafted {l invoiceId invoice input amounts : _}
      (hinvoice : db.invoices.get? invoiceId = some invoice) (hdraft : invoice.status = .draft)
      (hwrite : db' = db.updateInvoice invoiceId (redraft input amounts w.now)) :
      LedgerWrite lib w db db' .updateDraft l
  | acted {invoiceId action current next decidedAt u : _}
      (hok : applyActionTransaction invoiceId action current next decidedAt w.now db =
        .ok (db', u)) :
      LedgerWrite lib w db db' .applyAction
        (ApplyActionState.transact invoiceId action current next decidedAt)
  | decided {request current decidedAt u : _}
      (hok : updateStatusTransaction request current decidedAt w.now db =
        .ok (db', u)) :
      LedgerWrite lib w db db' .updateStatus
        (UpdateStatusState.transact request current decidedAt)
  | renewed {request service events : _}
      (hservice : db.services.get? request.serviceId = some service)
      (hperiod : hostingBillingPeriod service.billingPeriod)
      (hbilled : periodBilled db request.serviceId service.nextDueAt
        (addBillingPeriod service.nextDueAt service.billingPeriod) = false)
      (hwrite : db' = { db with
        invoices := db.invoices.insert (renewalInvoice lib.runtime
          request.serviceId service (renewingAddOns db service)
          (addBillingPeriod service.nextDueAt service.billingPeriod) request.now)
        services := billedServices request service db
        outboxEvents := events }) :
      LedgerWrite lib w db db' .createRenewalInvoice
        (RenewalState.transact request)

theorem ledgerWrite_of_step (op : LedgerOperation)
    {l l' : (ledgerOperations lib.runtime addBillingPeriod op).Local}
    (h : (ledgerOperations lib.runtime addBillingPeriod op).step w db l =
      some (db', l')) : LedgerWrite lib w db db' op l := by
  cases op with
  | submitManual =>
    rcases Creation.step_commits h with hsame | ⟨request, result, -, hok⟩
    · exact .same hsame
    · rcases submitTransaction_eq_ok hok with ⟨hsame, -⟩ | ⟨_, -, -, -, -, -, hwrite⟩
      · exact .same hsame
      · exact .noted hwrite
  | recordManual =>
    rcases Creation.step_commits h with hsame | ⟨request, result, -, hok⟩
    · exact .same hsame
    · obtain ⟨invoice, orders, hinvoice, hpayable, hpos, hle, horders, -, hwrite⟩ :=
        recordTransaction_eq_ok hok
      exact .charged hinvoice hpayable hpos hle horders hwrite
  | review =>
    rcases reviewStep_writes h with
      hsame | ⟨request, invoiceId, -, ⟨reason, hok⟩ | hok⟩
    · exact .same hsame
    · obtain ⟨_, _, _, _, _, hwrite⟩ := rejectTransaction_eq_ok hok
      exact .noted hwrite
    · obtain ⟨payment, invoice, reference, orders, hpayment, -, -, hinvoice, hpayable, hpos, hle,
        horders, hwrite⟩ := verifyTransaction_eq_ok hok
      exact .charged hinvoice hpayable hpos hle horders hwrite
  | adjust =>
    rcases adjustStep_writes h with hsame | ⟨request, invoiceId, result, rfl, hok⟩
    · exact .same hsame
    · obtain ⟨original, invoice, -, -, -, -, hinvoice, hpos, -, hle, -, hwrite⟩ :=
        adjustTransaction_eq_ok hok
      exact .adjusted hok hinvoice hpos hle hwrite
  | processNormalizedEvent =>
    rcases PaymentGatewayService.processStep_writes h with hsame | ⟨d, result, -, hok⟩
    · exact .same hsame
    · exact .delivered (PaymentGatewayService.processTransaction_eq_ok hok).2
  | createInvoice =>
    rcases createStep_writes h with hsame | ⟨input, amounts, id, -, hok⟩
    · exact .same hsame
    · exact .drafted (createTransaction_eq_ok hok)
  | updateDraft =>
    rcases updateDraftStep_writes h with
      hsame | ⟨invoiceId, input, amounts, updatedAt, -, hok⟩
    · exact .same hsame
    · obtain ⟨invoice, hinvoice, hdraft, hwrite⟩ := updateDraftTransaction_eq_ok hok
      exact .redrafted hinvoice hdraft hwrite
  | applyAction =>
    rcases applyActionStep_writes h with
      hsame | ⟨invoiceId, action, current, next, decidedAt, rfl, hok⟩
    · exact .same hsame
    · exact .acted hok
  | updateStatus =>
    rcases updateStatusStep_writes h with
      hsame | ⟨request, current, decidedAt, rfl, hok⟩
    · exact .same hsame
    · exact .decided hok
  | createRenewalInvoice =>
    rcases renewalStep_commits _ _ w h with
      hsame | ⟨request, created, rfl, hok⟩
    · exact .same hsame
    · rcases renewalTransaction_eq_ok _ _ hok with
        hsame | ⟨service, hservice, -, hperiod, hbilled, hbill⟩
      · exact .same hsame
      · obtain rfl := billPeriod_eq_ok _ hbill
        exact .renewed hservice hperiod hbilled rfl

theorem effect_of_ledger (op : LedgerOperation)
    {l l' : (ledgerOperations lib.runtime addBillingPeriod op).Local}
    (h : (ledgerOperations lib.runtime addBillingPeriod op).step w db l =
      some (db', l')) : BillingEffect lib w db (.ledger op) l db' := by
  cases ledgerWrite_of_step op h with
  | same hsame =>
    subst hsame
    exact .same
  | noted hwrite =>
    subst hwrite
    exact .kept (.inl rfl) (.inl rfl) ⟨rfl, rfl, rfl, rfl⟩
  | charged hinvoice hpayable hpos hle horders hwrite =>
    subst hwrite
    exact .charged hinvoice hpayable hpos hle horders ⟨rfl, rfl, rfl, rfl⟩
  | adjusted _ hinvoice hpos hle hwrite =>
    subst hwrite
    exact .adjusted hinvoice hpos hle ⟨rfl, rfl, rfl, rfl⟩
  | delivered heffect =>
    cases heffect with
    | rejected | ignored | failed =>
      exact .kept (.inl rfl) (.inl rfl) ⟨rfl, rfl, rfl, rfl⟩
    | settled invoice payment transactionId orders hstatus hinvoice _ hvalid _ horders =>
      have hamount := (hvalid.balance hstatus).symm
      exact .settled hinvoice (hvalid.payable hstatus) hamount (.inr ⟨by omega, horders⟩)
        ⟨rfl, rfl, rfl, rfl⟩
  | drafted hwrite =>
    subst hwrite
    exact .drafted ⟨rfl, rfl, rfl, rfl⟩
  | redrafted hinvoice hdraft hwrite =>
    subst hwrite
    exact .redrafted hinvoice hdraft ⟨rfl, rfl, rfl, rfl⟩
  | acted hok =>
    obtain ⟨invoice, orders, events, hinvoice, hstatus, hbalance, hpaid, horders, rfl⟩ :=
      applyActionTransaction_eq_ok hok
    exact .acted hinvoice hstatus hbalance hpaid horders ⟨rfl, rfl, rfl, rfl⟩
  | decided hok =>
    obtain ⟨order, events, horder, -, -, rfl⟩ := updateStatusTransaction_eq_ok hok
    exact .decided horder ⟨rfl, rfl, rfl, rfl⟩
  | renewed hservice hperiod hbilled hwrite =>
    subst hwrite
    exact .renewed hservice hperiod hbilled ⟨rfl, rfl, rfl, rfl⟩

theorem effect_of_step (op : BillingOperation) {l l' : (billingOperations lib op).Local}
    (h : (billingOperations lib op).step w db l = some (db', l')) :
    BillingEffect lib w db op l db' := by
  cases op with
  | ledger op => exact effect_of_ledger op h
  | hosting op => exact effect_of_hosting op h
  | createService =>
    rcases ServiceService.createStep_writes _ h with
      rfl | ⟨input, activeAdapter, item, order, serviceId, rfl, hok⟩
    · exact .same
    · obtain ⟨hfresh, orders, horders, rfl⟩ := ServiceService.createTransaction_eq_ok _ hok
      exact .created horders hfresh ⟨rfl, rfl, rfl, rfl⟩
  | fulfillAddOn =>
    rcases fulfillAddOnStep_writes h with rfl | ⟨request, hok⟩
    · exact .same
    · rcases fulfillAddOnTransaction_eq_ok hok with
        rfl | ⟨item, orders, hitem, -, hkind, hfulfilled, horders, rfl⟩
      · exact .same
      · exact .fulfilled hitem hkind hfulfilled horders.completed_or_same ⟨rfl, rfl, rfl, rfl⟩
  | cancelAddOn =>
    rcases cancelStep_writes (w := w) h with rfl | ⟨request, hok⟩
    · exact .same
    · rcases cancelTransaction_eq_ok hok with
        rfl | ⟨service, item, endAt, hservice, hitem, hnone, hend, rfl⟩
      · exact .same
      · exact .ended hservice hitem hnone hend ⟨rfl, rfl, rfl, rfl⟩
  | processOpenRenewals =>
    rcases openRenewalStep_writes _ h with
      ⟨events, rfl⟩ | ⟨invoiceId, now, invoice, events, hinvoice, hbecomes, rfl⟩
    · exact .kept (.inl rfl) (.inl rfl) ⟨rfl, rfl, rfl, rfl⟩
    · exact .overdue hinvoice hbecomes ⟨rfl, rfl, rfl, rfl⟩
  | processPayment =>
    rcases paymentStep_writes h with
      ⟨runs, rfl⟩ | ⟨run, items, events, rfl, hdelivery, rfl⟩
    · exact .kept (.inl rfl) (.inl rfl) ⟨rfl, rfl, rfl, rfl⟩
    · exact .applied hdelivery ⟨rfl, rfl, rfl, rfl⟩
  | dispatchOutbox =>
    obtain ⟨⟨s, m⟩, hdispatch, rfl, -⟩ := map_eq_some_pair.1 h
    obtain ⟨events, hevents⟩ := OutboxDispatcherService.dispatchStep_writes hdispatch
    simp only [hevents]
    exact .kept (.inl rfl) (.inl rfl) ⟨rfl, rfl, rfl, rfl⟩

end

end WebhostBilling
