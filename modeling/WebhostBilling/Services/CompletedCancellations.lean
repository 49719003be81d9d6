import WebhostBilling.Billing.BillingOperations
import WebhostBilling.Services.HostingCancellationService

/-!
# Completed cancellations

A transition and an operation of the API that would make a service active look at the cancellation;
the worker's unsuspension names the invoice of the suspension, which is forgotten when the
cancellation is completed; and what was under way before is over by then, since the worker completes
a cancellation only while nothing else is done to the account.
-/

namespace WebhostBilling

open Store Store.Table Concurrency HostingPanelService HostingAutomationService

/-! ## The operations -/

inductive CancellationOperation
  | billing (op : BillingOperation)
  | request
  | withdraw
  | approve

section

variable (lib : Libraries)

def cancellationOperations : CancellationOperation → Operation Database World
  | .billing op => billingOperations lib op
  | .request => HostingCancellationService.request
  | .withdraw => HostingCancellationService.withdraw
  | .approve => HostingCancellationService.approve

def panelThread : Thread (cancellationOperations lib) →
    Option (Thread (hostingOperations lib.requestHash lib.payloadHash))
  | ⟨.billing (.hosting op), l⟩ => some ⟨op, l⟩
  | _ => none

end

/-! ## What the other operations leave alone -/

def SameState (service service' : Service) : Prop :=
  service'.status = service.status ∧
    (service.suspensionInvoiceId = none → service'.suspensionInvoiceId = none)

theorem SameState.refl (service : Service) : SameState service service := ⟨rfl, id⟩

theorem SameState.trans {a b c : Service} (h : SameState a b) (h' : SameState b c) :
    SameState a c :=
  ⟨h'.1.trans h.1, fun hnone => h'.2 (h.2 hnone)⟩

structure PanelKept (db db' : Database) : Prop where
  operations : db'.operations = db.operations
  cancellationRequests : db'.cancellationRequests = db.cancellationRequests
  services : Table.Grows SameState db.services db'.services

theorem PanelKept.of_eq {db db' : Database} (hoperations : db'.operations = db.operations)
    (hrequests : db'.cancellationRequests = db.cancellationRequests)
    (hservices : db'.services = db.services) : PanelKept db db' where
  operations := hoperations
  cancellationRequests := hrequests
  services := by
    rw [hservices]
    exact Grows.refl SameState.refl _

theorem PanelKept.refl (db : Database) : PanelKept db db := .of_eq rfl rfl rfl

theorem sameState_appliedServices (now : ℕ) (services : Table Service) (items : List InvoiceItem) :
    Table.Grows SameState services
      (RenewalProcessorService.appliedServices now services items) := by
  induction items generalizing services with
  | nil => exact Grows.refl SameState.refl services
  | cons item items ih =>
    have hitem : Table.Grows SameState services
        (RenewalProcessorService.appliedService now services item) := by
      unfold RenewalProcessorService.appliedService
      split
      · refine grows_update SameState.refl fun service _ => ?_
        split
        · exact ⟨rfl, id⟩
        · exact SameState.refl service
      · exact Grows.refl SameState.refl services
    exact Grows.trans (R := SameState) (fun _ _ _ h h' => h.trans h') hitem (ih _)

section

variable {lib : Libraries} {w : World} {db db' : Database}

theorem panelKept_of_ledger (op : LedgerOperation)
    {l l' : (ledgerOperations lib.runtime RenewalCalendar.addBillingPeriod op).Local}
    (h : (ledgerOperations lib.runtime RenewalCalendar.addBillingPeriod op).step w db l =
      some (db', l')) : PanelKept db db' := by
  cases ledgerWrite_of_step op h with
  | same hwrite | noted hwrite | charged _ _ _ _ _ hwrite | adjusted _ _ _ _ hwrite | drafted hwrite
  | redrafted _ _ hwrite =>
    subst hwrite
    exact .of_eq rfl rfl rfl
  | delivered heffect => cases heffect <;> exact .of_eq rfl rfl rfl
  | acted hok =>
    obtain ⟨_, _, _, _, _, _, _, _, rfl⟩ := InvoiceService.applyActionTransaction_eq_ok hok
    exact .of_eq rfl rfl rfl
  | decided hok =>
    obtain ⟨_, _, _, _, _, rfl⟩ := OrderService.updateStatusTransaction_eq_ok hok
    exact .of_eq rfl rfl rfl
  | renewed _ _ _ hwrite =>
    subst hwrite
    refine ⟨rfl, rfl, ?_⟩
    rw [billedServices]
    split
    · exact grows_update SameState.refl fun _ _ => ⟨rfl, id⟩
    · exact Grows.refl SameState.refl _

/-- **What is not done to a hosting account** leaves operations and cancellations alone, and every
service in its state. -/
theorem panelKept_of_billing (op : BillingOperation) (hop : ∀ hosting, op ≠ .hosting hosting)
    {l l' : (billingOperations lib op).Local}
    (h : (billingOperations lib op).step w db l = some (db', l')) : PanelKept db db' := by
  cases op with
  | ledger op => exact panelKept_of_ledger op h
  | hosting op => exact absurd rfl (hop op)
  | createService =>
    rcases ServiceService.createStep_writes _ h with
      rfl | ⟨input, activeAdapter, item, order, serviceId, rfl, hok⟩
    · exact .refl _
    · obtain ⟨-, orders, -, rfl⟩ := ServiceService.createTransaction_eq_ok _ hok
      exact ⟨rfl, rfl, grows_insert SameState.refl _ _⟩
  | fulfillAddOn =>
    rcases OrderService.fulfillAddOnStep_writes h with rfl | ⟨request, hok⟩
    · exact .refl _
    · rcases OrderService.fulfillAddOnTransaction_eq_ok hok with
        rfl | ⟨_, _, _, _, _, _, _, rfl⟩
      · exact .refl _
      · exact .of_eq rfl rfl rfl
  | cancelAddOn =>
    rcases ServiceAddOnsService.cancelStep_writes (w := w) h with rfl | ⟨request, hok⟩
    · exact .refl _
    · rcases ServiceAddOnsService.cancelTransaction_eq_ok hok with
        rfl | ⟨_, _, _, _, _, _, _, rfl⟩
      · exact .refl _
      · exact .of_eq rfl rfl rfl
  | processOpenRenewals =>
    rcases RenewalProcessorService.openRenewalStep_writes _ h with
      ⟨events, rfl⟩ | ⟨_, _, _, _, _, _, rfl⟩
    · exact .of_eq rfl rfl rfl
    · exact .of_eq rfl rfl rfl
  | processPayment =>
    rcases RenewalProcessorService.paymentStep_writes h with
      ⟨runs, rfl⟩ | ⟨run, items, events, rfl, hdelivery, rfl⟩
    · exact .of_eq rfl rfl rfl
    · exact ⟨rfl, rfl, sameState_appliedServices _ _ _⟩
  | dispatchOutbox =>
    obtain ⟨⟨s, m⟩, hdispatch, rfl, -⟩ := map_eq_some_pair.1 h
    obtain ⟨events, hevents⟩ := OutboxDispatcherService.dispatchStep_writes hdispatch
    simp only [hevents]
    exact .of_eq rfl rfl rfl

end

/-! ## What is final -/

/-- The service is suspended or terminated, no payment lifts the suspension, and the API is not at
work on an operation that makes it active. -/
structure Stopped (db : Database) (serviceId : RowId) : Prop where
  service : ∃ service, db.services.get? serviceId = some service ∧
    (service.status = .suspended ∨ service.status = .terminated) ∧
    service.suspensionInvoiceId = none
  operations : ∀ id op, db.operations.get? id = some op → op.status = .running →
    RecordedByApi op → op.serviceId = some serviceId →
      op.type ≠ .createAccount ∧ op.type ≠ .unsuspendAccount

/-- A cancellation of the service is completed. -/
def Cancelled (db : Database) (serviceId : RowId) : Prop :=
  ∃ id request, db.cancellationRequests.get? id = some request ∧
    request.serviceId = serviceId ∧ request.status = .completed

def CancelledStopped (db : Database) : Prop := ∀ serviceId, Cancelled db serviceId →
  Stopped db serviceId

variable {db db' : Database} {serviceId : RowId}

theorem completedCancellation_iff :
    ServiceService.completedCancellation db serviceId = true ↔ Cancelled db serviceId := by
  rw [ServiceService.completedCancellation, any_eq_true]
  simp only [decide_eq_true_eq, Cancelled]

inductive RequestsMove (db db' : Database) : Prop
  | kept (h : db'.cancellationRequests = db.cancellationRequests)
  | opened {row : HostingCancellationRequest} (hopened : row.status = .opened)
      (h : db'.cancellationRequests = db.cancellationRequests.insert row)
  | written {id : RowId} {request : HostingCancellationRequest}
      {f : HostingCancellationRequest → HostingCancellationRequest}
      (hrequest : db.cancellationRequests.get? id = some request)
      (hopened : request.status = .opened)
      (hcompletes : (f request).status = .completed → Stopped db' (f request).serviceId)
      (h : db'.cancellationRequests = db.cancellationRequests.update id f)

theorem RequestsMove.cancelled (h : RequestsMove db db')
    (hcancelled : Cancelled db serviceId) : Cancelled db' serviceId := by
  obtain ⟨id, request, hrequest, hservice, hcompleted⟩ := hcancelled
  refine ⟨id, request, ?_, hservice, hcompleted⟩
  cases h with
  | kept h => rw [h, hrequest]
  | opened _ h => rw [h, get?_insert_of_some hrequest]
  | @written j row f hrow hopened _ h =>
    have hne : j ≠ id := by
      rintro rfl
      rw [hrow, Option.some.injEq] at hrequest
      rw [← hrequest, hopened] at hcompleted
      cases hcompleted
    rw [h, get?_update_of_ne hne, hrequest]

theorem RequestsMove.cancelledStopped (h : RequestsMove db db')
    (hkept : ∀ serviceId, Cancelled db serviceId → Stopped db' serviceId) :
    CancelledStopped db' := by
  rintro serviceId ⟨id, request, hrequest, rfl, hcompleted⟩
  cases h with
  | kept h =>
    rw [h] at hrequest
    exact hkept _ ⟨id, request, hrequest, rfl, hcompleted⟩
  | opened hopened h =>
    rw [h] at hrequest
    rcases get?_insert_cases hrequest with ⟨-, rfl⟩ | hold
    · rw [hopened] at hcompleted
      cases hcompleted
    · exact hkept _ ⟨id, request, hold, rfl, hcompleted⟩
  | written hrow _ hcompletes h =>
    rw [h] at hrequest
    rcases get?_update_cases hrequest with ⟨rfl, row, hrow', rfl⟩ | ⟨-, hold⟩
    · obtain rfl := Option.mem_unique hrow hrow'
      exact hcompletes hcompleted
    · exact hkept _ ⟨id, request, hold, rfl, hcompleted⟩

/-- The operations of the service that the API is at work on make it active only if they were at work
before. -/
def NothingStarted (db db' : Database) (serviceId : RowId) : Prop :=
  ∀ id op, db'.operations.get? id = some op → op.status = .running → RecordedByApi op →
    op.serviceId = some serviceId → db.operations.get? id = some op ∨
      op.type ≠ .createAccount ∧ op.type ≠ .unsuspendAccount

theorem Stopped.written (h : Stopped db serviceId)
    (hservice : ∀ service, db.services.get? serviceId = some service →
      (service.status = .suspended ∨ service.status = .terminated) →
      service.suspensionInvoiceId = none → ∃ service', db'.services.get? serviceId = some service' ∧
        (service'.status = .suspended ∨ service'.status = .terminated) ∧
        service'.suspensionInvoiceId = none)
    (hoperations : NothingStarted db db' serviceId) : Stopped db' serviceId where
  service := by
    obtain ⟨service, hget, hstatus, hinvoice⟩ := h.service
    exact hservice service hget hstatus hinvoice
  operations id op hop hrunning hapi hof := by
    rcases hoperations id op hop hrunning hapi hof with hold | hnew
    · exact h.operations id op hold hrunning hapi hof
    · exact hnew

theorem Stopped.mono (h : Stopped db serviceId)
    (hservices : Table.Grows SameState db.services db'.services)
    (hoperations : NothingStarted db db' serviceId) : Stopped db' serviceId := by
  refine h.written (fun service hget hstatus hinvoice => ?_) hoperations
  obtain ⟨service', hservice', hsame⟩ := hservices serviceId service hget
  rw [← hsame.1] at hstatus
  exact ⟨service', hservice', hstatus, hsame.2 hinvoice⟩

/-! ## The worker's cancellations -/

section

variable {payloadHash : AutomationPayload → String} {action : AutomationAction}
  {payload : AutomationPayload} {outboxEventId now : ℕ}

theorem dueRequest_eq_some {serviceId cancellationId due : ℕ} {request : HostingCancellationRequest}
    (h : dueRequest db serviceId cancellationId now = some (request, due)) :
    db.cancellationRequests.get? cancellationId = some request ∧ request.serviceId = serviceId ∧
      request.status = .opened := by
  simp only [dueRequest, bind, Option.bind_eq_some_iff, guard] at h
  obtain ⟨row, hrow, _, hguard, moment, -, _, -, heq⟩ := h
  obtain ⟨rfl, -⟩ := Prod.mk.inj (Option.some.inj heq)
  split at hguard
  · rename_i hopened
    exact ⟨hrow, hopened⟩
  · cases hguard

variable {service : Service}

/-- The service of a cancellation that is completed without an operation: it is stopped already, and
no invoice is behind its suspension any more. -/
theorem clearSuspensionInvoice_eq_ok (hservice : db.services.get? serviceId = some service)
    (h : clearSuspensionInvoice serviceId service now db = .ok db') :
    ∃ services, InvoiceCleared serviceId now db.services services ∧
      (∃ service', services.get? serviceId = some service' ∧ service'.status = service.status ∧
        service'.suspensionInvoiceId = none) ∧ db' = { db with services := services } := by
  rw [clearSuspensionInvoice] at h
  split at h
  · obtain ⟨_, _, _, rfl⟩ := db.updateService_eq_ok h
    exact ⟨_, .inr rfl, ⟨_, get?_update_self hservice, rfl, rfl⟩, rfl⟩
  · rename_i hnone
    rw [Except.ok.injEq] at h
    exact ⟨db.services, .inl rfl,
      ⟨service, hservice, rfl, Option.not_isSome_iff_eq_none.1 hnone⟩, h.symm⟩

def ApiIdle (db : Database) (serviceId : RowId) : Prop :=
  ∀ id op, db.operations.get? id = some op → op.status = .running → RecordedByApi op →
    op.serviceId ≠ some serviceId

theorem sameState_cleared {services services' : Table Service}
    (h : InvoiceCleared serviceId now services services') :
    Table.Grows SameState services services' := by
  rcases h with rfl | rfl
  · exact Grows.refl SameState.refl _
  · exact grows_update SameState.refl fun _ _ => ⟨rfl, fun _ => rfl⟩

theorem requestsMove_of_prepareSource {running : Bool}
    (hservice : db.services.get? payload.serviceId = some service)
    (hidle : running = false → ApiIdle db payload.serviceId)
    (h : prepareSource payload outboxEventId now service running db = .ok (some db')) :
    db'.operations = db.operations ∧ Table.Grows SameState db.services db'.services ∧
      RequestsMove db db' := by
  have hservices : Table.Grows SameState db.services db.services :=
    Grows.refl SameState.refl _
  cases payload with
  | renewal => cases h
  | cancellation serviceId cancellationId =>
    rw [prepareSource, prepareCancellation] at h
    split at h
    · rw [Except.ok.injEq, Option.some.injEq] at h
      subst h
      exact ⟨rfl, hservices, .kept rfl⟩
    · rename_i request due hdue
      obtain ⟨hrequest, -, hopened⟩ := dueRequest_eq_some hdue
      split at h
      · simp only [eq_ok, Option.some.injEq] at h
        obtain ⟨-, rfl⟩ := h
        obtain ⟨events, -, hevents⟩ := deferCancellation_eq
        rw [hevents]
        exact ⟨rfl, hservices, .kept rfl⟩
      · rename_i hrunning
        split at h
        · rw [Except.ok.injEq, Option.some.injEq] at h
          subst h
          obtain ⟨events, -, hevents⟩ := deferCancellation_eq
          rw [reschedule, hevents]
          refine ⟨rfl, hservices, .written hrequest hopened (fun hcompleted => ?_) rfl⟩
          rw [show _ = _ from hopened] at hcompleted
          cases hcompleted
        · split at h
          · rename_i hstatus
            simp only [eq_ok, Option.some.injEq] at h
            obtain ⟨db₁, hclear, db₂, hfinish, rfl⟩ := h
            obtain ⟨services, hcleared, ⟨service', hservice', hsame, hinvoice⟩, rfl⟩ :=
              clearSuspensionInvoice_eq_ok hservice hclear
            obtain ⟨request', hrequest', hof, hopened', rfl⟩ := finishCancellation_eq_ok hfinish
            refine ⟨rfl, sameState_cleared hcleared,
              .written hrequest' hopened' (fun _ => ?_) rfl⟩
            refine ⟨⟨service', hof ▸ hservice', hsame ▸ hstatus, hinvoice⟩, ?_⟩
            intro id op hop hrunning' hapi hopService
            exact absurd (hof ▸ hopService) (hidle (by simpa using hrunning) id op hop hrunning' hapi)
          · simp only [eq_ok] at h
            cases h.2

end

end WebhostBilling
