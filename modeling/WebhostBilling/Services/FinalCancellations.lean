import WebhostBilling.HostingPanels.LiveRuns
import WebhostBilling.Renewal.RenewalLines
import WebhostBilling.Services.CompletedCancellations

/-!
# A completed cancellation is final

No step brings a service back whose cancellation is completed (`stopped_of_panelStep`), and none
bills it again from the moment the cancellation is asked for (`cancellation_not_billed`).  The
theorem about runs is `completed_cancellation_final`.
-/

namespace WebhostBilling

open RenewalProcessorService

open ServiceService

open HostingCancellationService

open Store Store.Table Concurrency Config HostingPanelService HostingAutomationService

/-! ## What a step on a hosting account does to a stopped service -/

theorem not_active_of_stopped {status : ServiceStatus}
    (h : status = .suspended ∨ status = .terminated) : status ≠ .active := by
  rcases h with rfl | rfl <;> exact nofun

variable {db db' : Database} {serviceId : RowId} {service : Service}

theorem nothingStarted_of_same
    (h : db'.operations = db.operations) : NothingStarted db db' serviceId :=
  fun _ _ hop _ _ _ => .inl (h ▸ hop)

theorem nothingStarted_of_update {id : RowId}
    {f : HostingPanelOperation → HostingPanelOperation} (hf : ∀ op, (f op).status ≠ .running)
    (h : db'.operations = db.operations.update id f) : NothingStarted db db' serviceId := by
  intro j op hop hrunning _ _
  rw [h] at hop
  rcases get?_update_cases hop with ⟨-, row, -, rfl⟩ | ⟨-, hold⟩
  · exact absurd hrunning (hf row)
  · exact .inl hold

theorem Stopped.untouched (h : Stopped db serviceId)
    (hservice : db'.services.get? serviceId = db.services.get? serviceId)
    (hoperations : NothingStarted db db' serviceId) : Stopped db' serviceId :=
  h.written (fun service hget hstatus hinvoice => ⟨service, hservice.trans hget, hstatus, hinvoice⟩)
    hoperations

theorem panelSucceeded_not_running (now : ℕ) (op : HostingPanelOperation) :
    (HostingPanelService.succeededOperation now op).status ≠ .running := nofun

theorem panelFailed_not_running (error : HostingPanelProviderError) (now : ℕ)
    (op : HostingPanelOperation) :
    (HostingPanelService.failedOperation error now op).status ≠ .running := by
  show (if error.kind = .inconsistent then _ else _) ≠ _
  split <;> exact nofun

theorem automationFailed_not_running (attemptNumber : ℕ) (error : PanelAutomationError) (now : ℕ)
    (op : HostingPanelOperation) :
    (HostingAutomationService.failedOperation attemptNumber error now op).status ≠ .running := by
  show (if error.kind = .inconsistent then _ else _) ≠ _
  split <;> exact nofun

/-! ### The API -/

variable {call : Execution} {server : Server} {u : Unit}

theorem not_cancelled_of_checkOperation (h : checkOperation call service server db = .ok u)
    (htype : call.type = .unsuspendAccount) : ¬ Cancelled db call.serviceId := by
  simp only [checkOperation, eq_ok, not_and] at h
  rw [← completedCancellation_iff]
  exact h.1 htype

theorem creation_status (h : checkOperation call service server db = .ok u)
    (htype : call.type = .createAccount) :
    service.status = .pending ∨ service.status = .provisionFailed := by
  have hvalid := (checkOperation_eq_ok h).1
  rw [validateAction, htype] at hvalid
  simp only [validateCreation, eq_ok, if_true] at hvalid
  exact hvalid.2.2.2.1

theorem stopped_of_successData {input : HostingOperationInput} {account : Option HostingAccount}
    {actorUserId now : ℕ} {f : Service → Service}
    (h : successData input account actorUserId now = some f)
    (hcreate : input.type ≠ .createAccount) (hunsuspend : input.type ≠ .unsuspendAccount)
    (hinvoice : service.suspensionInvoiceId = none) :
    ((f service).status = .suspended ∨ (f service).status = .terminated) ∧
      (f service).suspensionInvoiceId = none := by
  unfold successData at h
  split at h
  · exact absurd rfl hcreate
  · obtain rfl := Option.some.inj h
    exact ⟨.inl rfl, rfl⟩
  · exact absurd rfl hunsuspend
  · obtain rfl := Option.some.inj h
    exact ⟨.inr rfl, hinvoice⟩
  · cases h

section

variable {requestHash : RowId → ExecuteHostingOperationRequest → String}
variable {payloadHash : AutomationPayload → String}
variable {w : World}
variable {action : AutomationAction} {now operationId : ℕ}

variable {op op' : HostingPanelOperation} {l l' : ExecuteState} {payload : AutomationPayload}
  {request : TransitionServiceRequest} {current : Service}

theorem stopped_of_create {fp : String} {operationId : RowId} (hcancelled : Cancelled db serviceId)
    (hstopped : Stopped db serviceId)
    (h : createTransaction call fp now db = .ok (db', .created operationId service)) :
    Stopped db' serviceId := by
  obtain ⟨server, services, -, hservice, hcheck, -, -, -, hservices, rfl⟩ :=
    createTransaction_eq_ok h
  -- A stopped service is given no account.
  have hcreate : call.serviceId = serviceId → call.type ≠ .createAccount := by
    rintro rfl htype
    obtain ⟨service', hservice', hstatus, -⟩ := hstopped.service
    obtain rfl := Option.mem_unique hservice hservice'
    rcases creation_status hcheck htype with h | h <;> simp [h] at hstatus
  have hoperations : NothingStarted db { db with
      operations := db.operations.insert (HostingPanelService.newOperation call service server fp)
      services := services } serviceId := by
    intro id op hop _ _ hof
    rcases get?_insert_cases hop with ⟨-, rfl⟩ | hold
    · obtain rfl := Option.some.inj hof
      exact .inr ⟨hcreate rfl, fun htype => not_cancelled_of_checkOperation hcheck htype hcancelled⟩
    · exact .inl hold
  refine hstopped.untouched ?_ hoperations
  rcases hservices with ⟨-, rfl⟩ | ⟨htype, rfl⟩
  · rfl
  · exact get?_update_of_ne fun heq => hcreate heq htype

theorem stopped_of_success {result : ProviderSuccess} (hstopped : Stopped db serviceId)
    (hop : db.operations.get? operationId = some op) (hrunning : op.status = .running)
    (hapi : RecordedByApi op) (htype : op.type = call.type)
    (h : completeSuccessTransaction call operationId result now db = .ok (db', op')) :
    Stopped db' serviceId := by
  obtain ⟨current, services, orders, events, hcurrent, -, hwritten, hnone, -, rfl⟩ :=
    completeSuccessTransaction_eq_ok h
  obtain rfl := Option.mem_unique hop hcurrent
  have hoperations : NothingStarted db { db with
      operations := db.operations.update operationId (HostingPanelService.succeededOperation now)
      services := services, orders := orders, outboxEvents := events } serviceId :=
    nothingStarted_of_update (panelSucceeded_not_running now) rfl
  cases hof : op.serviceId with
  | none => exact hstopped.untouched (by rw [hnone hof]) hoperations
  | some id =>
    rcases hwritten id hof with ⟨-, rfl⟩ | ⟨f, service, hf, hservice, -, rfl⟩
    · exact hstopped.untouched rfl hoperations
    · by_cases hid : id = serviceId
      · subst hid
        obtain ⟨hcreate, hunsuspend⟩ := hstopped.operations operationId op hop hrunning hapi hof
        rw [htype] at hcreate hunsuspend
        refine hstopped.written (fun row hrow _ hinvoice => ?_) hoperations
        exact ⟨f row, get?_update_self hrow,
          stopped_of_successData hf hcreate hunsuspend hinvoice⟩
      · exact hstopped.untouched (get?_update_of_ne hid) hoperations

theorem stopped_of_failure {error : HostingPanelProviderError} (hstopped : Stopped db serviceId)
    (hop : db.operations.get? operationId = some op) (hrunning : op.status = .running)
    (hapi : RecordedByApi op)
    (h : completeFailureTransaction operationId error now db = .ok (db', op')) :
    Stopped db' serviceId := by
  obtain ⟨current, services, hcurrent, -, hservices, rfl⟩ := completeFailureTransaction_eq_ok h
  obtain rfl := Option.mem_unique hop hcurrent
  have hoperations : NothingStarted db { db with
      operations := db.operations.update operationId (HostingPanelService.failedOperation error now)
      services := services } serviceId :=
    nothingStarted_of_update (panelFailed_not_running error now) rfl
  refine hstopped.untouched ?_ hoperations
  rcases hservices with ⟨rfl, -⟩ | ⟨id, service, hof, hcreate, -, rfl⟩
  · rfl
  · refine get?_update_of_ne ?_
    rintro rfl
    exact (hstopped.operations operationId op hop hrunning hapi hof).1 hcreate

theorem stopped_of_executes (hcancelled : Cancelled db serviceId) (hstopped : Stopped db serviceId)
    (hl : ExecutionKnown db l) (hown : ∀ id, l.owned = some id →
      Refers (fun op => op.status = .running ∧ RecordedByApi op) db id)
    (h : Executes requestHash w db l db' l') : Stopped db' serviceId := by
  cases h with
  | idle => exact hstopped
  | create h => exact stopped_of_create hcancelled hstopped h
  | succeed | fail => exact hstopped
  | completeSuccess h =>
    obtain ⟨op, hop, hrunning, hapi⟩ := hown _ rfl
    obtain ⟨row, hrow, htype⟩ := hl
    rw [hop, Option.some.injEq] at hrow
    exact stopped_of_success hstopped hop hrunning hapi (hrow ▸ htype) h
  | completeFailure h =>
    obtain ⟨op, hop, hrunning, hapi⟩ := hown _ rfl
    exact stopped_of_failure hstopped hop hrunning hapi h

theorem requests_of_executes (h : Executes requestHash w db l db' l') :
    db'.cancellationRequests = db.cancellationRequests := by
  cases h with
  | idle | succeed | fail => rfl
  | create h =>
    obtain ⟨_, _, -, -, -, -, -, -, -, rfl⟩ := createTransaction_eq_ok h
    rfl
  | completeSuccess h =>
    obtain ⟨_, _, _, _, -, -, -, -, -, rfl⟩ := completeSuccessTransaction_eq_ok h
    rfl
  | completeFailure h =>
    obtain ⟨_, _, -, -, -, rfl⟩ := completeFailureTransaction_eq_ok h
    rfl

/-! ### The worker -/

theorem apiIdle_of_otherRunning
    (h : otherRunning db payload.serviceId (latestOperation db action payload) = false) :
    ApiIdle db payload.serviceId := by
  intro id op hop hrunning hapi hof
  have hother := any_eq_false.1 h id op hop
  rw [decide_eq_false_iff_not] at hother
  refine hother ⟨hof, hrunning, fun entry hentry hid => ?_⟩
  obtain ⟨hop', hautomates⟩ := latestOperation_eq_some (Option.mem_def.1 hentry)
  obtain ⟨retry, hkey⟩ := automates_eq_true hautomates
  rw [← hid, hop, Option.some.injEq] at hop'
  exact hapi.not_worker ⟨_, _, _, _, hop' ▸ hkey⟩

structure StopsCancelled (db db' : Database) : Prop where
  requests : RequestsMove db db'
  stopped : ∀ serviceId, Stopped db serviceId → Stopped db' serviceId

theorem StopsCancelled.refl (db : Database) : StopsCancelled db db := ⟨.kept rfl, fun _ h => h⟩

theorem stopsCancelled_of_prepare {outboxEventId : ℕ} {prepared : HostingAutomationService.Prepared}
    (h : HostingAutomationService.prepareTransaction payloadHash action payload outboxEventId now
      db = .ok (db', prepared)) : StopsCancelled db db' := by
  cases prepareTransaction_eq_ok payloadHash h with
  | nothing _ _ _ hservice hsource =>
    obtain ⟨hoperations, hservices, hrequests⟩ :=
      requestsMove_of_prepareSource hservice apiIdle_of_otherRunning hsource
    exact ⟨hrequests, fun _ hstopped => hstopped.mono hservices (nothingStarted_of_same hoperations)⟩
  | @create row hrow hrunning hevidence hkey =>
    refine ⟨.kept rfl, fun serviceId hstopped => hstopped.untouched rfl ?_⟩
    intro j op' hop' _ hapi _
    rcases get?_insert_cases hop' with ⟨-, rfl⟩ | hold
    · obtain ⟨-, retry, hrowKey⟩ := hrow.running_automation
      exact absurd ⟨_, _, _, _, hrowKey⟩ hapi.not_worker
    · exact .inl hold
  | found hlatest => exact .refl db

theorem stopsCancelled_of_ended {operations : Table HostingPanelOperation}
    {f : HostingPanelOperation → HostingPanelOperation} {id : RowId}
    (hf : ∀ op, (f op).status ≠ .running) (h : OperationEnded f id db.operations operations) :
    StopsCancelled db { db with operations := operations } := by
  refine ⟨.kept rfl, fun serviceId hstopped => hstopped.untouched rfl ?_⟩
  rcases h with rfl | ⟨op, -, -, -, rfl⟩
  · exact nothingStarted_of_same rfl
  · exact nothingStarted_of_update hf rfl

theorem automationSucceeded_not_running (now : ℕ) (op : HostingPanelOperation) :
    (HostingAutomationService.succeededOperation now op).status ≠ .running := nofun

theorem stopsCancelled_of_complete {job : AutomationJob} (hdb : OperationsSound db)
    (hnames : NamesInvoice job.action job.payload)
    (hlive : Refers (fun op => Unfinished job.payload.serviceId op ∧ RecordedByWorker op) db
      job.operationId)
    (h : completeTransaction job.operationId job.action job.payload now db = .ok (db', ())) :
    StopsCancelled db db' := by
  obtain ⟨service, op, requests, hservice, hcompletable, hop, hevidence, hrequests, rfl⟩ :=
    completeTransaction_eq_ok h
  have hoperations : ∀ serviceId, NothingStarted db { db with
      services := db.services.update job.payload.serviceId (completeData job.action job.payload now)
      cancellationRequests := requests
      operations := db.operations.update job.operationId
        (HostingAutomationService.succeededOperation now)
      outboxEvents := db.outboxEvents.insert
        (automationEvent job.action job.payload.serviceId job.operationId) } serviceId :=
    fun _ => nothingStarted_of_update (automationSucceeded_not_running now) rfl
  refine ⟨?_, fun serviceId hstopped => hstopped.untouched ?_ (hoperations serviceId)⟩
  · obtain ⟨operationId, attemptNumber, action, payload⟩ := job
    cases payload with
    | renewal => exact .kept hrequests
    | cancellation serviceId cancellationId =>
      obtain ⟨request, hrequest, rfl, hopened, hwrite⟩ := hrequests
      refine .written hrequest hopened
        (fun _ => ⟨?_, fun id api hapi hrunning hrecorded hopService => ?_⟩) hwrite
      · -- Only a suspension carries out a cancellation.
        have haction : action = .suspend := by
          cases action with
          | suspend => rfl
          | unsuspend => cases hnames rfl
        refine ⟨_, get?_update_self hservice, ?_⟩
        subst haction
        exact ⟨.inl rfl, rfl⟩
      · -- The run's operation was the running one of its service.
        obtain ⟨op', hop', ⟨hunfinished, hopOf⟩, hworker⟩ := hlive
        obtain rfl := Option.mem_unique hop hop'
        have hwas : op.status = .running := by
          by_contra hfinal
          exact hunfinished (succeeded_keeps_final (hdb.evidence _ _ hop) hevidence hfinal).symm
        rcases get?_update_cases hapi with ⟨-, row, -, rfl⟩ | ⟨hne, hold⟩
        · cases hrunning
        · exact absurd (hdb.exclusive operationId id op api request.serviceId hop hold hwas hrunning
            hopOf hopService) hne
  · refine get?_update_of_ne ?_
    rintro rfl
    obtain ⟨service', hservice', hstatus, hinvoice⟩ := hstopped.service
    obtain rfl := Option.mem_unique hservice hservice'
    cases haction : job.action with
    | suspend =>
      rw [haction] at hcompletable
      exact not_active_of_stopped hstatus hcompletable
    | unsuspend =>
      rw [haction] at hcompletable
      have hsome := hnames haction
      rw [← hcompletable.2, hinvoice] at hsome
      cases hsome

theorem stopsCancelled_of_automates {l l' : AutomationState} (hdb : OperationsSound db)
    (hl : ∀ job, l.live = some job → NamesInvoice job.action job.payload ∧
      Refers (fun op => Unfinished job.payload.serviceId op ∧ RecordedByWorker op) db
        job.operationId)
    (h : Automates payloadHash w db l db' l') : StopsCancelled db db' := by
  cases h with
  | idle => exact .refl db
  | prepare h => exact stopsCancelled_of_prepare h
  | skip h =>
    obtain ⟨operations, hended, rfl⟩ := completeSkipped_eq_ok h
    exact stopsCancelled_of_ended (automationSucceeded_not_running w.now) hended
  | @complete job _ _ h =>
    obtain ⟨hnames, hlive⟩ := hl job rfl
    exact stopsCancelled_of_complete hdb hnames hlive h
  | @fail job error _ _ h =>
    obtain ⟨operations, hended, rfl⟩ := failTransaction_eq_ok h
    exact stopsCancelled_of_ended (automationFailed_not_running job.attemptNumber error w.now)
      hended

/-! ### The administrator -/

theorem not_cancelled_of_transition (hcurrent : db.services.get? request.serviceId = some current)
    (hactive : request.input.status = .active) (hsuspended : current.status = .suspended)
    (h : transitionTransaction request now db = .ok (db', ())) :
    ¬ Cancelled db request.serviceId := by
  simp only [transitionTransaction, eq_ok, not_and] at h
  obtain ⟨current', hcurrent', hcheck, -⟩ := h
  obtain rfl := Option.mem_unique hcurrent hcurrent'
  rw [← completedCancellation_iff]
  exact hcheck hactive hsuspended

theorem transitionData_terminated {input : TransitionServiceInput} {actorUserId : ℕ}
    {data : Service → Service} (hterminated : input.status = .terminated)
    (h : transitionData current input actorUserId now = .ok data)
    (service : Service) :
    (data service).status = .terminated ∧
      (data service).suspensionInvoiceId = service.suspensionInvoiceId := by
  cases input with
  | terminated reason =>
    rw [transitionData, Except.ok.injEq] at h
    subst h
    exact ⟨rfl, rfl⟩
  | provisioning | active | suspended | provisionFailed | cancelled => cases hterminated

theorem stopped_of_transition (hcancelled : Cancelled db serviceId)
    (hstopped : Stopped db serviceId)
    (h : transitionTransaction request now db = .ok (db', ())) :
    Stopped db' serviceId := by
  obtain ⟨current, data, events, orders, hcurrent, hallowed, hdata, -, -, rfl⟩ :=
    transitionTransaction_eq_ok h
  by_cases hid : request.serviceId = serviceId
  · subst hid
    refine hstopped.written (fun service hservice hstatus hinvoice => ?_) (nothingStarted_of_same rfl)
    obtain rfl := Option.mem_unique hcurrent hservice
    have hterminated : request.input.status = .terminated := by
      rcases hstatus with hstatus | hstatus
      · have hnext : request.input.status = .active ∨ request.input.status = .terminated := by
          simpa [isServiceTransitionAllowed, allowedTransitions,
            hstatus] using hallowed
        exact hnext.resolve_left fun hactive =>
          not_cancelled_of_transition hcurrent hactive hstatus h hcancelled
      · simp [isServiceTransitionAllowed, allowedTransitions,
          hstatus] at hallowed
    obtain ⟨hwritten, hkept⟩ := transitionData_terminated hterminated hdata current
    exact ⟨data current, get?_update_self hcurrent, .inr hwritten, hkept.trans hinvoice⟩
  · exact hstopped.untouched (get?_update_of_ne hid) (nothingStarted_of_same rfl)

theorem stopped_of_panelStep {t t' : Thread (hostingOperations requestHash payloadHash)}
    (hdb : OperationsSound db) (ht : ThreadKnown db t) (hstopped : CancelledStopped db)
    (h : t.step w db = some (db', t')) :
    RequestsMove db db' ∧ ∀ serviceId, Cancelled db serviceId → Stopped db' serviceId := by
  cases threadStep_of_step h with
  | execute hl hl' hworks hstep =>
    refine ⟨.kept (requests_of_executes hstep), fun serviceId hcancelled => ?_⟩
    exact stopped_of_executes hcancelled (hstopped serviceId hcancelled) (ht.execution _ hl)
      (fun id hid => ht.exclusion.1 id ((owned_of_execution hl).trans hid)) hstep
  | automate hl hnone hworks hstep =>
    obtain ⟨hrequests, hkeeps⟩ := stopsCancelled_of_automates hdb (fun job hjob =>
      refers_of_live ht (by rw [liveJob, hl, Option.bind_some, hjob])) hstep
    exact ⟨hrequests, fun serviceId hcancelled => hkeeps serviceId (hstopped serviceId hcancelled)⟩
  | transition hl hnone hworks hstep =>
    refine ⟨.kept ?_, fun serviceId hcancelled =>
      stopped_of_transition hcancelled (hstopped serviceId hcancelled) hstep⟩
    obtain ⟨_, _, _, _, -, -, -, -, -, rfl⟩ := transitionTransaction_eq_ok hstep
    rfl
  | wait hl hnone hworks hsame =>
    subst hsame
    exact ⟨.kept rfl, hstopped⟩

end

/-! ## The other operations -/

section

variable {lib : Libraries} {w : World} {t t' : Thread (cancellationOperations lib)}

theorem panelThread_embeds : Outline.Embeds (panelThread lib) where
  call op request u h := by
    cases op with
    | billing op =>
      cases op with
      | hosting op => exact ⟨op, request, (Option.some.inj h).symm⟩
      | ledger | createService | fulfillAddOn | cancelAddOn | processOpenRenewals
      | processPayment | dispatchOutbox => cases h
    | request | withdraw | approve => cases h
  step w db t db' t' u' hs hu' := by
    obtain ⟨l, hl, rfl⟩ := Thread.step_eq_some hs
    obtain ⟨op, loc⟩ := t
    cases op with
    | billing op =>
      cases op with
      | hosting op =>
        obtain rfl := Option.some.inj hu'
        exact ⟨⟨op, loc⟩, rfl, @Thread.step_of _ _ _ (hostingOperations _ _) op w db loc _ hl⟩
      | ledger | createService | fulfillAddOn | cancelAddOn | processOpenRenewals
      | processPayment | dispatchOutbox => cases hu'
    | request | withdraw | approve => cases hu'
  stays w db t db' t' u hs hu := by
    obtain ⟨l, hl, rfl⟩ := Thread.step_eq_some hs
    obtain ⟨op, loc⟩ := t
    cases op with
    | billing op =>
      cases op with
      | hosting op => exact ⟨⟨op, l⟩, rfl⟩
      | ledger | createService | fulfillAddOn | cancelAddOn | processOpenRenewals
      | processPayment | dispatchOutbox => cases hu
    | request | withdraw | approve => cases hu

/-- What is not done to a hosting account leaves the operations alone and every service in its state,
and completes no cancellation. -/
structure PanelUntouched (db db' : Database) : Prop where
  operations : db'.operations = db.operations
  services : Table.Grows SameState db.services db'.services
  requests : RequestsMove db db'

theorem PanelUntouched.refl (db : Database) : PanelUntouched db db :=
  ⟨rfl, Grows.refl SameState.refl _, .kept rfl⟩

theorem PanelKept.untouched (h : PanelKept db db') : PanelUntouched db db' :=
  ⟨h.operations, h.services, .kept h.cancellationRequests⟩

variable {id : RowId} {now : ℕ}

theorem panelUntouched_of_request {request : CancelServiceRequest}
    (h : requestTransaction request now db = .ok (db', id)) :
    PanelUntouched db db' := by
  rcases requestTransaction_eq_ok h with
    rfl | ⟨service, events, -, -, rfl⟩
  · exact .refl _
  · exact ⟨rfl, Grows.refl SameState.refl _, .opened rfl rfl⟩

variable {request : ResolveRequest}

theorem panelUntouched_of_withdraw
    (h : withdrawTransaction request now db = .ok (db', id)) :
    PanelUntouched db db' := by
  rcases withdrawTransaction_eq_ok h with
    rfl | ⟨current, hcurrent, hopened, rfl⟩
  · exact .refl _
  · refine ⟨rfl, Grows.refl SameState.refl _,
      .written hcurrent hopened (fun hcompleted => ?_) rfl⟩
    cases hcompleted

theorem panelUntouched_of_approve
    (h : approveTransaction request now db = .ok (db', id)) :
    PanelUntouched db db' := by
  rcases approveTransaction_eq_ok h with
    rfl | ⟨current, events, hcurrent, hopened, rfl⟩
  · exact .refl _
  · refine ⟨rfl, Grows.refl SameState.refl _,
      .written hcurrent hopened (fun hcompleted => ?_) rfl⟩
    cases hopened.symm.trans hcompleted

theorem panelUntouched_of_step (ht : panelThread lib t = none)
    (h : t.step w db = some (db', t')) : PanelUntouched db db' := by
  obtain ⟨l, hl, rfl⟩ := Thread.step_eq_some h
  obtain ⟨op, loc⟩ := t
  cases op with
  | billing op =>
    refine (panelKept_of_billing op ?_ hl).untouched
    rintro hosting rfl
    cases ht
  | request =>
    rcases cancellationStep_commits hl with rfl | ⟨_, _, hok⟩
    · exact .refl _
    · exact panelUntouched_of_request hok
  | withdraw =>
    rcases cancellationStep_commits hl with rfl | ⟨_, _, hok⟩
    · exact .refl _
    · exact panelUntouched_of_withdraw hok
  | approve =>
    rcases cancellationStep_commits hl with rfl | ⟨_, _, hok⟩
    · exact .refl _
    · exact panelUntouched_of_approve hok

theorem OperationsSound.of_operations (hdb : OperationsSound db)
    (h : db'.operations = db.operations) : OperationsSound db' := by
  refine ⟨?_, ?_, ?_⟩ <;> rw [h]
  · exact hdb.evidence
  · exact hdb.exclusive
  · exact hdb.automated

theorem embeddedRuns_sound : ((@runs lib.requestHash lib.payloadHash).embed
    (panelThread lib)).Sound anyStep := by
  refine runs_sound.embed panelThread_embeds fun w db t db' t' hrest hs hdb => ?_
  have hkept := (panelUntouched_of_step hrest hs).operations
  exact ⟨hdb.of_operations hkept, fun u hu => hu.of_operations hkept⟩

/-! ## Runs -/

theorem stopped_of_step (hdb : OperationsSound db)
    (ht : ∀ u ∈ panelThread lib t, ThreadKnown db u) (hstopped : CancelledStopped db)
    (h : t.step w db = some (db', t')) :
    RequestsMove db db' ∧ ∀ serviceId, Cancelled db serviceId → Stopped db' serviceId := by
  cases hu : panelThread lib t with
  | none =>
    have huntouched := panelUntouched_of_step hu h
    exact ⟨huntouched.requests, fun serviceId hcancelled => (hstopped serviceId hcancelled).mono
      huntouched.services (nothingStarted_of_same huntouched.operations)⟩
  | some u =>
    obtain ⟨u', hu'⟩ := panelThread_embeds.stays w db t db' t' u h hu
    obtain ⟨u₁, hu₁, hstep⟩ := panelThread_embeds.step w db t db' t' u' h hu'
    exact stopped_of_panelStep hdb (ht u₁ hu₁) hstopped hstep

def finality (lib : Libraries) : Outline (cancellationOperations lib) :=
  ((@runs lib.requestHash lib.payloadHash).embed (panelThread lib)).extend CancelledStopped
    fun _ _ => True

theorem finality_sound : (finality lib).Sound anyStep := by
  refine embeddedRuns_sound.extend (fun _ _ _ _ => trivial) ?_ fun _ _ _ _ _ _ _ _ _ _ _ _ _ => trivial
  intro w db t db' t' _ hdb ht hstopped _ hs
  obtain ⟨hrequests, hkept⟩ := stopped_of_step hdb ht hstopped hs
  exact ⟨hrequests.cancelledStopped hkept, trivial⟩

theorem cancelled_of_reaches {c c' : Config (cancellationOperations lib)}
    (hholds : (finality lib).Holds c) (hr : Reaches anyStep c c')
    (hcancelled : Cancelled c.shared serviceId) : Cancelled c'.shared serviceId := by
  have hkeeps : ∀ serviceId, Cancelled c.shared serviceId → Cancelled c'.shared serviceId := by
    refine finality_sound.related (R := fun db db' => ∀ serviceId, Cancelled db serviceId →
      Cancelled db' serviceId) (fun _ _ h => h) (fun _ _ _ h h' serviceId hs => h' _ (h _ hs)) ?_
      hholds hr
    intro w db t db' t' _ hshared ht hs serviceId
    exact (stopped_of_step hshared.1 ht.1 hshared.2 hs).1.cancelled
  exact hkeeps serviceId hcancelled

end

/-! ## What is billed -/

/-- A cancellation of the service was asked for, and neither withdrawn nor anything else but carried
out. -/
def Cancelling (db : Database) (serviceId : RowId) : Prop :=
  ∃ id request, db.cancellationRequests.get? id = some request ∧
    request.serviceId = serviceId ∧ (request.status = .opened ∨ request.status = .completed)

/-- No new invoice bills the service. -/
def NotBilled (serviceId : RowId) (db db' : Database) : Prop :=
  ∀ id invoice, db.invoices.get? id = none → db'.invoices.get? id = some invoice →
    billsService invoice serviceId = false

theorem notBilled_of_size (h : db'.invoices.size = db.invoices.size) :
    NotBilled serviceId db db' := by
  intro id invoice hnone hsome
  have hlt := lt_size_of_get? hsome
  rw [h] at hlt
  obtain ⟨row, hrow⟩ := exists_get?_of_lt_size hlt
  rw [hnone] at hrow
  cases hrow

theorem notBilled_of_insert {row : Invoice} (h : db'.invoices = db.invoices.insert row)
    (hrow : billsService row serviceId = false) :
    NotBilled serviceId db db' := by
  intro id invoice hnone hsome
  rw [h] at hsome
  rcases get?_insert_cases hsome with ⟨-, rfl⟩ | hold
  · exact hrow
  · rw [hnone] at hold
    cases hold

theorem Invoice.plain.billsService {invoice : Invoice} (h : invoice.plain) (serviceId : RowId) :
    billsService invoice serviceId = false := by
  rw [HostingAutomationService.billsService, List.any_eq_false]
  intro item hitem
  simp [(h item hitem).1]

section

variable {lib : Libraries} {w : World}

theorem notBilled_of_effect {op : BillingOperation} {l : (billingOperations lib op).Local}
    (hop : op ≠ .ledger .createRenewalInvoice) (h : BillingEffect lib w db op l db')
    (serviceId : RowId) : NotBilled serviceId db db' := by
  cases h with
  | kept _ _ hwrites | fulfilled _ _ _ _ hwrites | ended _ _ _ _ hwrites =>
    exact notBilled_of_size (by rw [hwrites.invoices])
  | applied _ hwrites | created _ _ hwrites =>
    exact notBilled_of_size (by rw [hwrites.invoices])
  | charged _ _ _ _ _ hwrites | settled _ _ _ _ hwrites | adjusted _ _ _ hwrites
  | redrafted _ _ hwrites | acted _ _ _ _ _ hwrites | overdue _ _ hwrites =>
    exact notBilled_of_size (by rw [hwrites.invoices, size_update])
  | decided _ hwrites =>
    refine notBilled_of_size ?_
    rw [hwrites.invoices, OrderService.decidedInvoices]
    split
    · exact size_updateWhere _ _ _
    · rfl
  | @drafted op l db' input amounts hwrites =>
    have hplain : (InvoiceService.draftInvoice input amounts w.now).plain :=
      fun item hitem => plain_zipWith hitem
    exact notBilled_of_insert hwrites.invoices (hplain.billsService serviceId)
  | renewed => exact absurd rfl hop

theorem notBilled_of_renewal {request : RenewalRequest} {created : Bool}
    (hcancelling : Cancelling db serviceId)
    (h : renewalTransaction lib.runtime RenewalCalendar.addBillingPeriod
      request db = .ok (db', created)) : NotBilled serviceId db db' := by
  rcases renewalTransaction_eq_ok _ _ h with rfl | ⟨service, -, hrenewable, -, -, hbill⟩
  · exact notBilled_of_size rfl
  · have hother : request.serviceId ≠ serviceId := by
      rintro rfl
      obtain ⟨id, row, hrow, hof, hstatus⟩ := hcancelling
      have hnot := any_eq_false.1 hrenewable.2.2 id row hrow
      rw [decide_eq_false_iff_not] at hnot
      exact hnot ⟨hof, hstatus⟩
    obtain rfl := billPeriod_eq_ok _ hbill
    refine notBilled_of_insert rfl ?_
    simp [billsService, renewalInvoice, serviceLine, addOnLine, hother]

theorem cancellation_not_billed {t t' : Thread (cancellationOperations lib)}
    (hcancelling : Cancelling db serviceId) (h : t.step w db = some (db', t')) :
    NotBilled serviceId db db' := by
  obtain ⟨l, hl, rfl⟩ := Thread.step_eq_some h
  obtain ⟨op, loc⟩ := t
  cases op with
  | billing op =>
    by_cases hop : op = .ledger .createRenewalInvoice
    · subst hop
      rcases renewalStep_writes _ _ w hl with rfl | ⟨request, created, hok⟩
      · exact notBilled_of_size rfl
      · exact notBilled_of_renewal hcancelling hok
    · exact notBilled_of_effect hop (effect_of_step op hl) serviceId
  | request =>
    rcases cancellationStep_commits hl with rfl | ⟨_, _, hok⟩
    · exact notBilled_of_size rfl
    · rcases requestTransaction_eq_ok hok with rfl | ⟨_, _, -, -, rfl⟩ <;>
      exact notBilled_of_size rfl
  | withdraw =>
    rcases cancellationStep_commits hl with rfl | ⟨_, _, hok⟩
    · exact notBilled_of_size rfl
    · rcases withdrawTransaction_eq_ok hok with rfl | ⟨_, -, -, rfl⟩ <;>
      exact notBilled_of_size rfl
  | approve =>
    rcases cancellationStep_commits hl with rfl | ⟨_, _, hok⟩
    · exact notBilled_of_size rfl
    · rcases approveTransaction_eq_ok hok with rfl | ⟨_, _, -, -, rfl⟩ <;>
      exact notBilled_of_size rfl

end

/-- The service, where there is one, is not active. -/
def NotActive (db : Database) (serviceId : RowId) : Prop :=
  ∀ service, db.services.get? serviceId = some service → service.status ≠ .active

/-- **A completed cancellation is final**: from the moment a cancellation is asked for, until it is
withdrawn, no step bills its service, and once it is completed it stays completed, and the service
does not become active. -/
theorem completed_cancellation_final {lib : Libraries} {db : Database} (hdb : OperationsSound db)
    (hnone : db.cancellationRequests = ∅) {c : Config (cancellationOperations lib)}
    (hr : Reaches anyStep ⟨db, []⟩ c) (serviceId : RowId) :
    (Cancelling c.shared serviceId → ∀ c', Config.Step anyStep c c' →
      NotBilled serviceId c.shared c'.shared) ∧
    (Cancelled c.shared serviceId → ∀ c', Reaches anyStep c c' →
      Cancelled c'.shared serviceId ∧ NotActive c'.shared serviceId) := by
  have hempty : CancelledStopped db := by
    rintro serviceId ⟨id, request, hrequest, -⟩
    rw [hnone] at hrequest
    exact absurd hrequest get?_empty_ne
  have hholds := finality_sound.holds (Outline.holds_idle ⟨hdb, hempty⟩) hr
  constructor
  · intro hcancelling c' hstep
    cases hstep with
    | call op request => exact notBilled_of_size rfl
    | advance ht _ hs => exact cancellation_not_billed hcancelling hs
  · intro hcancelled c' hr'
    have hcancelled' := cancelled_of_reaches hholds hr' hcancelled
    refine ⟨hcancelled', fun service hservice => ?_⟩
    obtain ⟨row, hrow, hstatus, -⟩ :=
      ((finality_sound.holds hholds hr').shared.2 serviceId hcancelled').service
    obtain rfl := Option.mem_unique hservice hrow
    exact not_active_of_stopped hstatus

/-! ### A cancelled service -/

abbrev plainCancellations : CancellationOperation → Operation Database World :=
  cancellationOperations (Libraries.onPlainText fun moment => toString moment)

def hostedDatabase : Database where
  users := ⟨[{ role := .admin }, { role := .customer }]⟩
  customers := ⟨[{ userId := 1 }]⟩
  servers := ⟨[{ adapterKey := "fake-panel" }]⟩
  services := ⟨[{
    customerId := 0, serverId := 0, status := .active, domain := some "a.b",
    controlPanelUsername := some "u", externalAccountId := some "x",
    packageIdentifier := some "p", recurringAmount := 100, currency := "BDT", startedAt := 0,
    nextDueAt := 10, updatedAt := 0 }]⟩

def cancellationAdvances (position steps now : ℕ) : List (Move plainCancellations) :=
  List.replicate steps (.advance position { now := now })

def cancelAtOnce : List (Move plainCancellations) :=
  .call .request (⟨0, { timing := .immediate }, ⟨.customer, some 0, none⟩⟩ :
      CancelServiceRequest) :: cancellationAdvances 0 1 1 ++
  .call .approve (⟨0, 0, ⟨.admin, none, some .fullAdministrator⟩⟩ :
      ResolveRequest) :: cancellationAdvances 1 1 2 ++
  .call (.billing .dispatchOutbox) (⟨"w-1", 10, 60⟩ : OutboxDispatcherService.Dispatcher) ::
    cancellationAdvances 2 7 3 ++
  .call (.billing (.hosting .process))
      (⟨1, .service, 0, .hostingCancellationSuspensionRequested⟩ : BackgroundJobData) ::
    cancellationAdvances 3 5 4

def reactivate : List (Move plainCancellations) :=
  .call (.billing (.hosting .transition))
      (⟨0, .active none none, 0⟩ : TransitionServiceRequest) ::
    cancellationAdvances 4 1 5 ++
  [.call (.billing (.ledger .createRenewalInvoice))
      (⟨0, 0, 6⟩ : RenewalRequest)]

def cancelledAtOnce : Config plainCancellations :=
  Config.after ⟨hostedDatabase, []⟩ cancelAtOnce (by decide +kernel)

def reactivationTried : Config plainCancellations :=
  cancelledAtOnce.after reactivate (by decide +kernel)

/-- The cancellation stays, the service stays suspended, and it is not billed. -/
theorem cancelled_at_once_final :
    Cancelled cancelledAtOnce.shared 0 ∧
      Config.run cancelledAtOnce reactivate = some reactivationTried ∧
      (Cancelled reactivationTried.shared 0 ∧ NotActive reactivationTried.shared 0) ∧
      ∀ c', Config.Step anyStep reactivationTried c' →
        NotBilled 0 reactivationTried.shared c'.shared := by
  have hcancelled : Reaches anyStep ⟨hostedDatabase, []⟩ cancelledAtOnce :=
    reaches_anyStep_of_run (run_eq_after
      (show (Config.run ⟨hostedDatabase, []⟩ cancelAtOnce).isSome = true by decide +kernel))
  have htried : Reaches anyStep cancelledAtOnce reactivationTried :=
    reaches_anyStep_of_run (run_eq_after
      (show (Config.run cancelledAtOnce reactivate).isSome = true by decide +kernel))
  have hcompleted : Cancelled cancelledAtOnce.shared 0 :=
    completedCancellation_iff.1 (by decide +kernel)
  have hfinal := (completed_cancellation_final (operationsSound_empty rfl) rfl hcancelled 0).2
    hcompleted _ htried
  refine ⟨hcompleted, run_eq_after _, hfinal, ?_⟩
  obtain ⟨id, request, hrequest, hof, hstatus⟩ := hfinal.1
  exact (completed_cancellation_final (operationsSound_empty rfl) rfl (hcancelled.trans htried) 0).1
    ⟨id, request, hrequest, hof, .inr hstatus⟩

end WebhostBilling
