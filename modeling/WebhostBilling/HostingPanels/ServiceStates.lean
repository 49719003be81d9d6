import WebhostBilling.HostingPanels.AccountCreation
import WebhostBilling.Store.Lifecycle

/-!
# The lifecycle of a service

`transition` looks a move up in its table in the transaction that writes, and the worker's
completion names the status it starts from.  The API's operations look at the status when they are
prepared, and write another one when the panel has answered, whatever the status is by then.
-/

namespace WebhostBilling

open Store Store.Table Concurrency Config HostingPanelService HostingAutomationService

/-- The table of `ServiceService`, as a relation. -/
def ServiceEdge (current next : ServiceStatus) : Prop :=
  ServiceService.isServiceTransitionAllowed current next = true
deriving Decidable

/-- Services move along the edges of their life cycle. -/
def ServicesFollow (db db' : Database) : Prop :=
  Table.Follows Service.status ServiceEdge db.services db'.services

/-- A cancelled or terminated service stays so. -/
def ServicesFinal (db db' : Database) : Prop :=
  Table.Grows (fun service service' => service.status = .cancelled ∨ service.status = .terminated →
    service'.status = service.status) db.services db'.services

theorem absorbing_of_final {status : ServiceStatus}
    (h : status = .cancelled ∨ status = .terminated) : Absorbing ServiceEdge status := by
  rcases h with rfl | rfl <;> (intro next; cases next <;> decide)

/-! ## What a completion may find -/

/-- The statuses from which the outcome of a successful operation follows. -/
def SuccessFits (type : HostingPanelOperationType) (status : ServiceStatus) : Prop :=
  match type with
  | .createAccount | .unsuspendAccount =>
    status = .provisioning ∨ status = .suspended ∨ status = .active
  | .suspendAccount => status = .active ∨ status = .suspended
  | .terminateAccount => status = .active ∨ status = .suspended ∨ status = .terminated
  | _ => True

/-- The statuses from which the outcome of a failed creation follows. -/
def FailureFits (status : ServiceStatus) : Prop :=
  status = .provisioning ∨ status = .provisionFailed

instance (type : HostingPanelOperationType) (status : ServiceStatus) :
    Decidable (SuccessFits type status) := by
  unfold SuccessFits
  split <;> infer_instance

instance (status : ServiceStatus) : Decidable (FailureFits status) :=
  inferInstanceAs (Decidable (_ ∨ _))

def Reported (type : HostingPanelOperationType) (account : Option HostingAccount) : Prop :=
  type = .createAccount → account.isSome = true
deriving Decidable

variable {db : Database} {input : HostingOperationInput} {op : HostingPanelOperation}
  {account : Option HostingAccount} {operationId : RowId} {actorUserId now : ℕ}

variable {f : Service → Service} {service : Service} {error : HostingPanelProviderError}
  {db' : Database}

theorem moves_successData_iff (h : successData input account actorUserId now = some f) :
    Moves Service.status ServiceEdge service (f service) ↔
      SuccessFits input.type service.status := by
  unfold successData at h
  split at h <;> first | (rw [Option.some.injEq] at h; subst h) | exact nomatch h
  · show ServiceStatus.active = service.status ∨ ServiceEdge service.status .active ↔
      SuccessFits .createAccount service.status
    cases service.status <;> decide
  · show ServiceStatus.suspended = service.status ∨ ServiceEdge service.status .suspended ↔
      SuccessFits .suspendAccount service.status
    cases service.status <;> decide
  · show ServiceStatus.active = service.status ∨ ServiceEdge service.status .active ↔
      SuccessFits .unsuspendAccount service.status
    cases service.status <;> decide
  · show ServiceStatus.terminated = service.status ∨ ServiceEdge service.status .terminated ↔
      SuccessFits .terminateAccount service.status
    cases service.status <;> decide

theorem reported_of_some (h : successData input account actorUserId now = some f) :
    Reported input.type account := by
  intro htype
  cases account with
  | some account => rfl
  | none =>
    cases input with
    | createAccount => exact nomatch h
    | suspendAccount | unsuspendAccount | terminateAccount => exact nomatch htype
    | getAccount | changePackage | changePassword | generateLoginUrl => exact nomatch htype

theorem successFits_of_none (h : successData input account actorUserId now = none)
    (hreported : Reported input.type account) (status : ServiceStatus) :
    SuccessFits input.type status := by
  cases input with
  | createAccount =>
    obtain ⟨account, rfl⟩ := Option.isSome_iff_exists.1 (hreported rfl)
    exact nomatch h
  | suspendAccount | unsuspendAccount | terminateAccount => exact nomatch h
  | getAccount | changePackage | changePassword | generateLoginUrl => trivial

theorem moves_failureData_iff :
    Moves Service.status ServiceEdge service (failureData error now service) ↔
      FailureFits service.status := by
  show ServiceStatus.provisionFailed = service.status ∨
    ServiceEdge service.status .provisionFailed ↔ _
  cases service.status <;> decide

def serviceOfOperation (db : Database) (operationId : RowId) : Option Service := do
  let op ← db.operations.get? operationId
  let serviceId ← op.serviceId
  db.services.get? serviceId

def isCreation (db : Database) (operationId : RowId) : Bool :=
  (db.operations.get? operationId).any fun op => op.type = .createAccount

def completionFits (db : Database) : ExecuteState → Prop
  | .completeSuccess call operationId result => Reported call.type result.account →
    ∀ service ∈ serviceOfOperation db operationId, SuccessFits call.type service.status
  | .completeFailure operationId _ => isCreation db operationId = true →
    ∀ service ∈ serviceOfOperation db operationId, FailureFits service.status
  | _ => True

instance (db : Database) : (l : ExecuteState) → Decidable (completionFits db l)
  | .completeSuccess call operationId result => inferInstanceAs (Decidable
    (Reported call.type result.account → ∀ service ∈ serviceOfOperation db operationId,
        SuccessFits call.type service.status))
  | .completeFailure operationId _ => inferInstanceAs (Decidable (isCreation db operationId = true →
    ∀ service ∈ serviceOfOperation db operationId, FailureFits service.status))
  | .read _ => inferInstanceAs (Decidable True)
  | .prepare _ => inferInstanceAs (Decidable True)
  | .race _ => inferInstanceAs (Decidable True)
  | .callProvider _ _ _ => inferInstanceAs (Decidable True)
  | .done _ => inferInstanceAs (Decidable True)

theorem serviceOfOperation_eq {serviceId : RowId} (hop : db.operations.get? operationId = some op)
    (hservice : op.serviceId = some serviceId) :
    serviceOfOperation db operationId = db.services.get? serviceId := by
  simp [serviceOfOperation, hop, hservice]

/-! ## What a completion does -/

theorem servicesFollow_success_iff {call : Execution} {result : ProviderSuccess}
    (h : completeSuccessTransaction call operationId result now db = .ok (db', op)) :
    ServicesFollow db db' ↔ completionFits db (.completeSuccess call operationId result) := by
  obtain ⟨current, services, orders, events, hop, -, hwritten, hnone, -, rfl⟩ :=
    completeSuccessTransaction_eq_ok h
  cases hserviceId : current.serviceId with
  | none =>
    have hlookup : serviceOfOperation db operationId = none := by
      simp [serviceOfOperation, hop, hserviceId]
    simp [ServicesFollow, completionFits, hlookup, hnone hserviceId, follows_refl]
  | some serviceId =>
    have hlookup := serviceOfOperation_eq hop hserviceId
    rcases hwritten serviceId hserviceId with ⟨hdata, hsame⟩ | ⟨f, service, hdata, hservice, -, hupdate⟩
    · refine iff_of_true ?_ fun hreported service _ => successFits_of_none hdata hreported _
      rw [ServicesFollow, hsame]
      exact follows_refl _
    · rw [ServicesFollow, hupdate, follows_update_iff hservice, moves_successData_iff hdata]
      simp only [completionFits, hlookup, hservice, Option.mem_some_iff, forall_eq']
      exact ⟨fun hfits _ => hfits, fun hfits => hfits (reported_of_some hdata)⟩

theorem servicesFollow_failure_iff
    (h : completeFailureTransaction operationId error now db = .ok (db', op)) :
    ServicesFollow db db' ↔ completionFits db (.completeFailure operationId error) := by
  obtain ⟨current, services, hop, -, hservices, rfl⟩ := completeFailureTransaction_eq_ok h
  rcases hservices with ⟨rfl, hnot⟩ | ⟨serviceId, service, hserviceId, htype, hservice, rfl⟩
  · refine iff_of_true (follows_refl _) fun hcreation service hlookup => ?_
    obtain ⟨serviceId, hserviceId, -⟩ : ∃ serviceId, current.serviceId = some serviceId ∧ True := by
      cases hserviceId : current.serviceId with
      | none => simp [serviceOfOperation, hop, hserviceId] at hlookup
      | some serviceId => exact ⟨serviceId, rfl, trivial⟩
    simp only [isCreation, hop, Option.any_some, decide_eq_true_eq] at hcreation
    exact absurd hserviceId (hnot hcreation serviceId)
  · have hlookup := serviceOfOperation_eq hop hserviceId
    rw [ServicesFollow, follows_update_iff hservice, moves_failureData_iff]
    simp [completionFits, isCreation, hlookup, hservice, hop, htype]

/-! ## Runs -/

section

variable {requestHash : RowId → ExecuteHostingOperationRequest → String}
variable {payloadHash : AutomationPayload → String}

/-- A completion of the API finds its service in a status that its own follows. -/
def CompletionsFit (_ : World) (db : Database)
    (t : Thread (hostingOperations requestHash payloadHash)) : Prop :=
  ∀ l ∈ execution requestHash payloadHash t.op t.loc, completionFits db l
deriving Decidable

variable {w : World}

theorem servicesFollow_create {call : Execution} {fp : String} {service : Service}
    (h : createTransaction call fp now db = .ok (db', .created operationId service)) :
    ServicesFollow db db' := by
  obtain ⟨server, services, -, hservice, hcheck, -, -, -, hservices, rfl⟩ :=
    createTransaction_eq_ok h
  rcases hservices with ⟨-, rfl⟩ | ⟨htype, rfl⟩
  · exact follows_refl _
  · have hvalid := (checkOperation_eq_ok hcheck).1
    rw [validateAction, htype] at hvalid
    simp only [validateCreation, eq_ok, if_true] at hvalid
    obtain ⟨-, -, -, hstatus, -, -⟩ := hvalid
    refine (follows_update_iff hservice).2 (.inr ?_)
    rcases hstatus with hstatus | hstatus <;>
    · show ServiceEdge service.status .provisioning
      rw [hstatus]
      decide

theorem servicesFollow_execute {l l' : ExecuteState}
    (hfits : completionFits db l) (hstep : Executes requestHash w db l db' l') :
    ServicesFollow db db' := by
  cases hstep with
  | idle hidle => exact follows_refl _
  | create h => exact servicesFollow_create h
  | succeed h | fail h => exact follows_refl _
  | completeSuccess h hidle => exact (servicesFollow_success_iff h).2 hfits
  | completeFailure h hidle => exact (servicesFollow_failure_iff h).2 hfits

theorem servicesFollow_automate {l l' : AutomationState}
    (hstep : Automates payloadHash w db l db' l') : ServicesFollow db db' := by
  cases hstep with
  | idle hidle => exact follows_refl _
  | prepare h =>
    cases prepareTransaction_eq_ok payloadHash h with
    | create hrow hrunning hevidence hkey | found hlatest => exact follows_refl _
    | nothing hcancellation hservices =>
      rcases hservices with rfl | rfl
      · exact follows_refl _
      · exact grows_update Moves.refl fun service _ => .inl rfl
  | skip h hidle =>
    obtain ⟨operations, -, rfl⟩ := completeSkipped_eq_ok h
    exact follows_refl _
  | @complete job db' l' h hidle =>
    obtain ⟨service, op, requests, hservice, hcompletable, -, -, -, rfl⟩ :=
      completeTransaction_eq_ok h
    refine (follows_update_iff hservice).2 (.inr ?_)
    show ServiceEdge service.status (completeData job.action job.payload w.now service).status
    cases haction : job.action with
    | suspend =>
      rw [haction] at hcompletable
      show ServiceEdge service.status .suspended
      rw [show service.status = .active from hcompletable]
      decide
    | unsuspend =>
      rw [haction] at hcompletable
      show ServiceEdge service.status .active
      rw [show service.status = .suspended from hcompletable.1]
      decide
  | fail h hidle =>
    obtain ⟨operations, -, rfl⟩ := failTransaction_eq_ok h
    exact follows_refl _

/-- **A step follows the table**, when it is no completion of the API that comes too late. -/
theorem servicesFollow_of_step
    {t t' : Thread (hostingOperations requestHash payloadHash)} (hfit : CompletionsFit w db t)
    (h : t.step w db = some (db', t')) : ServicesFollow db db' := by
  cases threadStep_of_step h with
  | execute hl hl' hworks hstep => exact servicesFollow_execute (hfit _ hl) hstep
  | automate hl howned hworks hstep => exact servicesFollow_automate hstep
  | @transition hl howned hworks request hstep =>
    obtain ⟨current, data, events, orders, hcurrent, hallowed, hdata, -, -, rfl⟩ :=
      ServiceService.transitionTransaction_eq_ok hstep
    refine (follows_update_iff hcurrent).2 (.inr ?_)
    rw [ServiceEdge, ServiceService.transitionData_status hdata]
    exact hallowed
  | wait hl howned hworks hsame =>
    subst hsame
    exact follows_refl _

theorem servicesFinal_of_arrives
    (h : Table.Arrives Service.status ServiceEdge db.services db'.services) :
    ServicesFinal db db' := by
  intro id service hservice
  obtain ⟨service', hservice', hkeep⟩ := h.absorbed id service hservice
  exact ⟨service', hservice', fun hfinal => hkeep (absorbing_of_final hfinal)⟩

/-- **The services follow the table in every run whose completions find a fitting status**: each
further step of the run keeps every status or moves it along an edge, and cancelled and terminated
services have stayed so. -/
theorem service_states_followed {c c' : Config (hostingOperations requestHash payloadHash)}
    (hr : Reaches CompletionsFit c c') :
    (∀ c'', Config.Step CompletionsFit c' c'' → ServicesFollow c'.shared c''.shared) ∧
      ServicesFinal c.shared c'.shared := by
  constructor
  · intro c'' hstep
    cases hstep with
    | call op request => exact follows_refl _
    | advance ht hfit hs => exact servicesFollow_of_step hfit hs
  · refine servicesFinal_of_arrives ?_
    exact related_of_reaches
      (R := fun db db' => Table.Arrives Service.status ServiceEdge db.services db'.services)
      (fun db => arrives_refl db.services) (fun _ _ _ => Table.Arrives.trans)
      (fun _ _ _ _ _ hfit hs => (servicesFollow_of_step hfit hs).arrives) hr

end

/-! ### A service cancelled during its creation -/

def cancelDuringCreation : List (Move unhashedOperations) :=
  [.call .execute ⟨0, ⟨"k", .createAccount⟩, .admin, 0⟩, .advance 0 {}, .advance 0 {},
    .call .transition ⟨0, .cancelled "by mistake", 0⟩, .advance 1 {}]

def finishCreation : List (Move unhashedOperations) :=
  [.advance 0 accountCreated, .advance 0 {}]

def cancelledConfig : Config unhashedOperations :=
  Config.after ⟨pendingService, []⟩ cancelDuringCreation (by decide +kernel)

def revivedConfig : Config unhashedOperations :=
  cancelledConfig.after finishCreation (by decide +kernel)

/-- The cancelled service becomes active. -/
theorem creation_revives_cancelled :
    Config.run ⟨pendingService, []⟩ cancelDuringCreation = some cancelledConfig ∧
      Config.run cancelledConfig finishCreation = some revivedConfig ∧
      (cancelledConfig.shared.services.get? 0).map Service.status = some .cancelled ∧
      (revivedConfig.shared.services.get? 0).map Service.status = some .active ∧
      ¬ ServicesFinal cancelledConfig.shared revivedConfig.shared := by
  have hcancelled :
      (cancelledConfig.shared.services.get? 0).map Service.status = some .cancelled := by
    decide +kernel
  have hactive : (revivedConfig.shared.services.get? 0).map Service.status = some .active := by
    decide +kernel
  refine ⟨run_eq_after _, run_eq_after _, hcancelled, hactive, fun hfinal => ?_⟩
  obtain ⟨service, hservice, hstatus⟩ := Option.map_eq_some_iff.1 hcancelled
  obtain ⟨service', hservice', hkeep⟩ := hfinal 0 service hservice
  rw [hservice', Option.map_some, hkeep (.inl hstatus), hstatus] at hactive
  exact nomatch hactive

def createAndTerminate : List (Move unhashedOperations) :=
  [.call .execute ⟨0, ⟨"k", .createAccount⟩, .admin, 0⟩, .advance 0 {}, .advance 0 {},
    .advance 0 accountCreated, .advance 0 {},
    .call .transition ⟨0, .terminated "closed", 0⟩, .advance 1 {}]

def terminatedConfig : Config unhashedOperations :=
  Config.after ⟨pendingService, []⟩ createAndTerminate (by decide +kernel)

theorem states_followed_to_termination :
    (terminatedConfig.shared.services.get? 0).map Service.status = some .terminated ∧
      (∀ c'', Config.Step CompletionsFit terminatedConfig c'' →
        ServicesFollow terminatedConfig.shared c''.shared) ∧
      ServicesFinal pendingService terminatedConfig.shared := by
  refine ⟨by decide +kernel, ?_⟩
  exact service_states_followed (reaches_of_run (run_eq_after
    (show (Config.run ⟨pendingService, []⟩ createAndTerminate).isSome = true by decide +kernel))
    (by decide +kernel))

end WebhostBilling
