import WebhostBilling.HostingPanels.Exclusion

/-!
# What a run on a hosting account may rely on

`runs` adds to the outline `exclusion`: the operation that a run of the worker may still complete
did not succeed before, belongs to the service of the run's event, and is no other run's; and an
execution of the API completes an operation of the type it was asked for.
-/

namespace WebhostBilling

open Store Store.Table Concurrency HostingPanelService HostingAutomationService

/-! ## Runs of the worker -/

def HostingAutomationService.AutomationState.live : AutomationState → Option AutomationJob
  | .readService job => some job
  | .readInvoice job _ _ => some job
  | .readCancellations job _ _ _ => some job
  | .skip job => some job
  | .mutate job => some job
  | .complete job => some job
  | _ => none

def NamesInvoice (action : AutomationAction) (payload : AutomationPayload) : Prop :=
  action = .unsuspend → payload.invoiceId.isSome = true

theorem job_of_live {l : AutomationState} {job : AutomationJob} (h : l.live = some job) :
    l.job = some job := by
  cases l with
  | readService | readInvoice | readCancellations | skip | mutate | complete => exact h
  | start | prepare | fail | done => cases h

theorem live_proceed (job : AutomationJob) (eligible : Bool) :
    (proceed job eligible).live = some job := by
  cases eligible <;> rfl

theorem live_afterInvoice (job : AutomationJob) (invoiceId : RowId) (service : Option Service)
    (invoice : Option Invoice) : (afterInvoice job invoiceId service invoice).live = some job := by
  unfold afterInvoice
  split
  · split
    · rfl
    · split
      · exact live_proceed _ _
      · rfl
  · rfl

section

variable {payloadHash : AutomationPayload → String} {w : World} {db db' : Database}
  {l l' : AutomationState}
variable {a : AutomationAction} {p : AutomationPayload}

theorem namesInvoice_of_event {data : BackgroundJobData} (haction : action data.eventType = .ok a)
    (hpayload : payload data db = .ok p) : NamesInvoice a p := by
  rintro rfl
  simp only [payload, bind_eq_ok, orThrow_eq_ok, pure_eq_ok] at hpayload
  obtain ⟨event, -, _, -, p', hparse, _, -, rfl⟩ := hpayload
  have hevent : data.eventType = .hostingUnsuspensionRequested := by
    unfold action at haction
    split at haction
    · cases haction
    · cases haction
    · assumption
    · cases haction
  rw [hevent] at hparse
  unfold parsePayload at hparse
  split at hparse
  · rw [if_neg (by decide)] at hparse
    rw [← Option.some.inj hparse]
    rfl
  · rw [if_neg (by decide)] at hparse
    cases hparse
  · cases hparse

inductive RunMoves (payloadHash : AutomationPayload → String) (w : World) (db : Database) :
    AutomationState → Database → AutomationState → Prop
  | start {data : BackgroundJobData} {a : AutomationAction} {p : AutomationPayload}
      (hnames : NamesInvoice a p) :
      RunMoves payloadHash w db (.start data) db (.prepare a p data.outboxEventId)
  | prepare {a : AutomationAction} {p : AutomationPayload} {outboxEventId : RowId}
      {db' : Database} {prepared : HostingAutomationService.Prepared}
      (h : HostingAutomationService.prepareTransaction payloadHash a p outboxEventId w.now db =
        .ok (db', prepared)) :
      RunMoves payloadHash w db (.prepare a p outboxEventId) db' (resume a p prepared)
  /-- The run reads, or hears from the panel. -/
  | goOn {l l' : AutomationState} {job : AutomationJob} (hlive : l.live = some job)
      (hlive' : l'.live = some job) : RunMoves payloadHash w db l db l'
  | stop {l l' : AutomationState} {db' : Database} (hlive' : l'.live = none)
      (hprepare : ∀ a p outboxEventId, l' ≠ .prepare a p outboxEventId) :
      RunMoves payloadHash w db l db' l'

theorem runMoves_of_step (h : automationStep payloadHash w db l = some (db', l')) :
    RunMoves payloadHash w db l db' l' := by
  unfold automationStep at h
  split at h
  · split at h
    · cases h
      exact .stop rfl nofun
    · cases h
      exact .stop rfl nofun
    · rename_i haction hpayload
      cases h
      exact .start (namesInvoice_of_event haction hpayload)
  · split at h
    · rename_i heq
      cases h
      have hok := atomically_ok heq
      exact .prepare hok
    · cases h
      exact .stop rfl nofun
  · simp only at h
    split at h
    · cases h
      exact .goOn rfl rfl
    · cases h
      exact .goOn rfl (live_proceed _ _)
  · cases h
    exact .goOn rfl (live_afterInvoice _ _ _ _)
  · cases h
    exact .goOn rfl (live_proceed _ _)
  · split at h <;> (cases h; exact .stop rfl nofun)
  · split at h
    · cases h
      exact .goOn rfl rfl
    · cases h
      exact .stop rfl nofun
  · split at h <;> (cases h; exact .stop rfl nofun)
  · split at h <;> (cases h; exact .stop rfl nofun)
  · cases h

variable {prepared : HostingAutomationService.Prepared} {job : AutomationJob}

theorem live_resume (h : (resume a p prepared).live = some job) :
    ∃ op, prepared = .operation job.operationId op true ∧ job.action = a ∧ job.payload = p := by
  cases prepared with
  | nothing => cases h
  | operation id op fresh =>
    simp only [resume] at h
    split at h
    · cases h
    · split at h
      · rename_i hfresh
        obtain rfl := Option.some.inj h
        exact ⟨op, by rw [hfresh], rfl, rfl⟩
      · cases h
    · cases h

theorem resume_ne_prepare {a' : AutomationAction} {p' : AutomationPayload} {outboxEventId : RowId} :
    resume a p prepared ≠ .prepare a' p' outboxEventId := by
  intro h
  cases prepared with
  | nothing => cases h
  | operation id op fresh =>
    simp only [resume] at h
    split at h
    · cases h
    · split at h <;> cases h
    · cases h

def Unfinished (serviceId : RowId) (op : HostingPanelOperation) : Prop :=
  op.status ≠ .succeeded ∧ op.serviceId = some serviceId

structure RunKnown (db : Database) (l : AutomationState) : Prop where
  prepares : ∀ a p outboxEventId, l = .prepare a p outboxEventId → NamesInvoice a p
  live : ∀ job, l.live = some job → NamesInvoice job.action job.payload ∧
    Refers (Unfinished job.payload.serviceId) db job.operationId

theorem runKnown_of_live_none (hprepare : ∀ a p outboxEventId, l ≠ .prepare a p outboxEventId)
    (hlive : l.live = none) : RunKnown db l where
  prepares a p outboxEventId h := absurd h (hprepare a p outboxEventId)
  live _ h := absurd h (ne_some_of_none hlive)

theorem RunKnown.step (hdb : OperationsSound db) (hl : RunKnown db l)
    (h : RunMoves payloadHash w db l db' l') : RunKnown db' l' := by
  cases h with
  | start hnames =>
    refine ⟨fun a p outboxEventId heq => ?_, nofun⟩
    obtain ⟨rfl, rfl, -⟩ := AutomationState.prepare.inj heq
    exact hnames
  | @prepare a p outboxEventId db' prepared h =>
    refine ⟨fun a' p' outboxEventId' heq => absurd heq resume_ne_prepare, fun job hjob => ?_⟩
    obtain ⟨op, hprepared, rfl, rfl⟩ := live_resume hjob
    refine ⟨hl.prepares _ _ _ rfl, ?_⟩
    cases prepareTransaction_eq_ok payloadHash h with
    | create hrow hrunning hevidence hkey =>
      obtain ⟨hid, rfl, -⟩ := HostingAutomationService.Prepared.operation.inj hprepared
      rw [← hid]
      refine ⟨_, get?_insert_self _ _, ?_, (noneRunning_of_freshRow hdb hrow hrunning).1⟩
      rw [hrow.running_automation.1]
      exact nofun
    | found hlatest | nothing hcancellation hservices => cases hprepared
  | goOn hlive hlive' =>
    refine ⟨fun a p outboxEventId heq => ?_, fun job hjob => ?_⟩
    · rw [heq] at hlive'
      cases hlive'
    · rw [hlive', ← hlive] at hjob
      exact hl.live job hjob
  | stop hlive' hprepare => exact runKnown_of_live_none hprepare hlive'

theorem RunMoves.live (h : RunMoves payloadHash w db l db' l') (hjob : l'.live = some job) :
    l.live = some job ∨ db.operations.size ≤ job.operationId := by
  cases h with
  | start hnames => cases hjob
  | prepare h =>
    obtain ⟨op, hprepared, -, -⟩ := live_resume hjob
    cases prepareTransaction_eq_ok payloadHash h with
    | create hrow hrunning hevidence hkey =>
      exact .inr (Nat.le_of_eq (HostingAutomationService.Prepared.operation.inj hprepared).1)
    | found hlatest | nothing hcancellation hservices => cases hprepared
  | goOn hlive hlive' => exact .inl (by rw [hlive, ← hlive', hjob])
  | stop hlive' hprepare => exact absurd hjob (ne_some_of_none hlive')

end

/-! ## Executions of the API -/

def ExecutionKnown (db : Database) : ExecuteState → Prop
  | .callProvider call operationId _ => Refers (fun op => op.type = call.type) db operationId
  | .completeSuccess call operationId _ => Refers (fun op => op.type = call.type) db operationId
  | _ => True

variable {db db' : Database} {l : ExecuteState}

theorem executionKnown_of_not_owned (h : l.owned = none) :
    ExecutionKnown db l := by
  cases l with
  | callProvider | completeSuccess => cases h
  | read | prepare | race | completeFailure | done => trivial

theorem ExecutionKnown.step {requestHash : RowId → ExecuteHostingOperationRequest → String}
    {w : World} {l' : ExecuteState} (hl : ExecutionKnown db l)
    (h : Executes requestHash w db l db' l') : ExecutionKnown db' l' := by
  cases h with
  | idle hidle => exact executionKnown_of_not_owned hidle
  | create h =>
    obtain ⟨server, services, rfl, -, -, -, -, -, -, rfl⟩ := createTransaction_eq_ok h
    exact ⟨_, get?_insert_self _ _, rfl⟩
  | succeed h => exact hl
  | fail h => trivial
  | completeSuccess h hidle | completeFailure h hidle => exact executionKnown_of_not_owned hidle

theorem ExecutionKnown.mono (hl : ExecutionKnown db l)
    (h : Table.Grows (fun op op' => op'.type = op.type) db.operations db'.operations) :
    ExecutionKnown db' l := by
  have hrefers : ∀ {type operationId}, Refers (fun op => op.type = type) db operationId →
      Refers (fun op => op.type = type) db' operationId := by
    intro type operationId hrefers
    refine refers_mono hrefers fun id op hop => ?_
    obtain ⟨op', hop', htype⟩ := h id op hop
    exact ⟨op', hop', fun heq => htype.trans heq⟩
  cases l with
  | callProvider | completeSuccess => exact hrefers hl
  | read | prepare | race | completeFailure | done => trivial

/-! ## The proof outline -/

theorem OperationsMove.kept (h : OperationsMove db db') :
    Table.Grows (fun op op' => op'.type = op.type ∧ op'.serviceId = op.serviceId)
      db.operations db'.operations := by
  cases h with
  | same h =>
    rw [h]
    exact Grows.refl (fun _ => ⟨rfl, rfl⟩) _
  | insert _ _ _ h =>
    rw [h]
    exact grows_insert (fun _ => ⟨rfl, rfl⟩) _ _
  | @complete id op f hop hf h =>
    rw [h]
    refine grows_update (fun _ => ⟨rfl, rfl⟩) fun row hrow => ?_
    rw [hop, Option.some.injEq] at hrow
    exact hrow ▸ ⟨hf.type, hf.serviceId⟩

section

variable {requestHash : RowId → ExecuteHostingOperationRequest → String}
variable {payloadHash : AutomationPayload → String}
variable {w : World} {t t' : Thread (hostingOperations requestHash payloadHash)}

def liveJob (t : Thread (hostingOperations requestHash payloadHash)) : Option AutomationJob :=
  (automation requestHash payloadHash t.op t.loc).bind AutomationState.live

theorem automation_of_step (h : t.step w db = some (db', t')) {l' : AutomationState}
    (hl' : automation requestHash payloadHash t'.op t'.loc = some l') :
    ∃ l, automation requestHash payloadHash t.op t.loc = some l ∧
      RunMoves payloadHash w db l db' l' := by
  obtain ⟨l, hl, rfl⟩ := Thread.step_eq_some h
  obtain ⟨op, loc⟩ := t
  cases op with
  | process =>
    obtain rfl := Option.some.inj hl'
    exact ⟨loc, rfl, runMoves_of_step hl⟩
  | execute | generateCustomerLogin | retry | transition => cases hl'

theorem execution_of_step (h : t.step w db = some (db', t')) {l' : ExecuteState}
    (hl' : execution requestHash payloadHash t'.op t'.loc = some l') :
    (∃ l, execution requestHash payloadHash t.op t.loc = some l ∧
      Executes requestHash w db l db' l') ∨ l'.owned = none := by
  have howned := owned_of_execution hl'
  cases threadStep_of_step h with
  | execute hl hl₁ hworks hstep =>
    rw [hl', Option.some.injEq] at hl₁
    exact .inl ⟨_, hl, hl₁ ▸ hstep⟩
  | automate hl hnone hworks hstep | transition hl hnone hworks hstep =>
    exact .inr (howned.symm.trans hnone)
  | wait hl hnone hworks hsame => exact .inr (howned.symm.trans hnone)

theorem liveJob_of_succeeded (ht : exclusion.thread db t) (h : t.step w db = some (db', t'))
    {id : RowId} {op op' : HostingPanelOperation} (hop : db.operations.get? id = some op)
    (hworker : RecordedByWorker op) (hunfinished : op.status ≠ .succeeded)
    (hop' : db'.operations.get? id = some op') (hsucceeded : op'.status = .succeeded) :
    ∃ job, liveJob t = some job ∧ job.operationId = id := by
  have hsame : db'.operations.get? id = db.operations.get? id → False := by
    intro hsame
    rw [hsame, hop, Option.some.injEq] at hop'
    exact hunfinished (hop' ▸ hsucceeded)
  -- The operations of the API are others.
  have hapi : ∀ operationId, owned requestHash payloadHash t = some operationId →
      operationId ≠ id := by
    rintro operationId hown rfl
    obtain ⟨row, hrow, -, hrecorded⟩ := ht.1 _ hown
    rw [hop, Option.some.injEq] at hrow
    exact (hrow ▸ hrecorded).not_worker hworker
  cases threadStep_of_step h with
  | execute hl hl' hworks hstep =>
    have hown := owned_of_execution hl
    cases hstep with
    | idle hidle => exact (hsame rfl).elim
    | create h =>
      obtain ⟨server, services, -, -, -, -, -, -, -, rfl⟩ := createTransaction_eq_ok h
      exact (hsame ((get?_insert_of_some hop).trans hop.symm)).elim
    | succeed h | fail h => exact (hsame rfl).elim
    | completeSuccess h hidle =>
      obtain ⟨_, _, _, _, -, -, -, -, -, rfl⟩ := completeSuccessTransaction_eq_ok h
      exact (hsame (get?_update_of_ne (hapi _ hown))).elim
    | completeFailure h hidle =>
      obtain ⟨_, _, -, -, -, rfl⟩ := completeFailureTransaction_eq_ok h
      exact (hsame (get?_update_of_ne (hapi _ hown))).elim
  | automate hl hnone hworks hstep =>
    have hlive : ∀ {l job}, automation requestHash payloadHash t.op t.loc = some l →
        l.live = some job → liveJob t = some job := by
      intro l job hl hjob
      rw [liveJob, hl, Option.bind_some, hjob]
    -- A write to the operation of a run is a write to this one.
    have hupdate : ∀ {operationId f}, db'.operations = db.operations.update operationId f →
        operationId = id := by
      intro operationId f hwrite
      by_contra hne
      exact hsame (by rw [hwrite, get?_update_of_ne hne])
    cases hstep with
    | idle hidle => exact (hsame rfl).elim
    | prepare h =>
      cases prepareTransaction_eq_ok payloadHash h with
      | create => exact (hsame ((get?_insert_of_some hop).trans hop.symm)).elim
      | found | nothing => exact (hsame rfl).elim
    | @skip job db' l' h hidle =>
      obtain ⟨operations, rfl | ⟨_, -, -, -, rfl⟩, rfl⟩ := completeSkipped_eq_ok h
      · exact (hsame rfl).elim
      · exact ⟨job, hlive hl rfl, hupdate rfl⟩
    | @complete job db' l' h hidle =>
      obtain ⟨_, _, _, -, -, -, -, -, rfl⟩ := completeTransaction_eq_ok h
      exact ⟨job, hlive hl rfl, hupdate rfl⟩
    | @fail job error db' l' h hidle =>
      obtain ⟨operations, rfl | ⟨_, -, -, -, rfl⟩, rfl⟩ := failTransaction_eq_ok h
      · exact (hsame rfl).elim
      · obtain rfl := hupdate rfl
        rw [get?_update_self hop, Option.some.injEq] at hop'
        have hended : ∀ {attemptNumber error now}, (HostingAutomationService.failedOperation
            attemptNumber error now op).status ≠ .succeeded := by
          intro attemptNumber error now
          show (if error.kind = .inconsistent then _ else _) ≠ _
          split <;> exact nofun
        exact absurd hsucceeded (hop' ▸ hended)
  | transition hl hnone hworks hstep =>
    obtain ⟨_, _, _, _, -, -, -, -, -, rfl⟩ := ServiceService.transitionTransaction_eq_ok hstep
    exact (hsame rfl).elim
  | wait hl hnone hworks hdb => exact (hsame (by rw [hdb])).elim

structure ThreadKnown (db : Database) (t : Thread (hostingOperations requestHash payloadHash)) :
    Prop where
  exclusion : exclusion.thread db t
  execution : ∀ l, execution requestHash payloadHash t.op t.loc = some l → ExecutionKnown db l
  run : ∀ l, automation requestHash payloadHash t.op t.loc = some l → RunKnown db l

/-- Two threads complete different operations. -/
structure ThreadsApart (t u : Thread (hostingOperations requestHash payloadHash)) : Prop where
  owned : exclusion.apart t u
  live : ∀ job job', liveJob t = some job → liveJob u = some job' →
    job.operationId ≠ job'.operationId

/-- The outline `exclusion`, with what the runs know of their operations. -/
def runs : Outline (hostingOperations requestHash payloadHash) where
  shared := OperationsSound
  thread := ThreadKnown
  apart := ThreadsApart

theorem refers_of_live (ht : ThreadKnown db t) {job : AutomationJob} (hjob : liveJob t = some job) :
    NamesInvoice job.action job.payload ∧
      Refers (fun op => Unfinished job.payload.serviceId op ∧ RecordedByWorker op) db
        job.operationId := by
  obtain ⟨l, hl, hlive⟩ := Option.bind_eq_some_iff.1 hjob
  obtain ⟨hnames, op, hop, hunfinished⟩ := (ht.run l hl).live job hlive
  obtain ⟨op', hop', hworker⟩ := ht.exclusion.2 job
    ((worksOn_of_automation hl).trans (job_of_live hlive))
  rw [hop, Option.some.injEq] at hop'
  exact ⟨hnames, op, hop, hunfinished, hop' ▸ hworker⟩

theorem threadKnown_begin (hdb : OperationsSound db) (op : HostingOperation)
    (request : (hostingOperations requestHash payloadHash op).Request) :
    ThreadKnown db (Thread.begin op request) where
  exclusion := exclusion_sound.call db op request hdb
  execution l hl := executionKnown_of_not_owned
    ((owned_of_execution hl).symm.trans (owned_begin op request))
  run l hl := by
    cases op with
    | process =>
      obtain rfl := Option.some.inj hl
      exact runKnown_of_live_none nofun rfl
    | execute | generateCustomerLogin | retry | transition => cases hl

theorem ThreadKnown.step (hdb : OperationsSound db) (ht : ThreadKnown db t)
    (h : t.step w db = some (db', t')) : ThreadKnown db' t' where
  exclusion := (exclusion_sound.own w db t db' t' trivial hdb ht.exclusion h).2
  execution l hl := by
    rcases execution_of_step h hl with ⟨l₁, hl₁, hstep⟩ | hnone
    · exact (ht.execution l₁ hl₁).step hstep
    · exact executionKnown_of_not_owned hnone
  run l hl := by
    obtain ⟨l₁, hl₁, hmoves⟩ := automation_of_step h hl
    exact (ht.run l₁ hl₁).step hdb hmoves

variable {u : Thread (hostingOperations requestHash payloadHash)}

theorem ThreadKnown.other (hdb : OperationsSound db) (ht : ThreadKnown db t) (hu : ThreadKnown db u)
    (hapart : ThreadsApart t u) (h : t.step w db = some (db', t')) : ThreadKnown db' u where
  exclusion := (exclusion_sound.other w db t db' t' u trivial hdb ht.exclusion hu.exclusion
    hapart.owned h).1
  execution l hl := by
    refine (hu.execution l hl).mono fun id op hop => ?_
    obtain ⟨op', hop', htype, -⟩ := (stepEffect_of_step hdb ht.exclusion h).move.kept id op hop
    exact ⟨op', hop', htype⟩
  run l hl := by
    refine ⟨(hu.run l hl).prepares, fun job hjob => ?_⟩
    have hlive : liveJob u = some job := by rw [liveJob, hl, Option.bind_some, hjob]
    obtain ⟨hnames, op, hop, hunfinished, hworker⟩ := refers_of_live hu hlive
    obtain ⟨op', hop', -, hservice⟩ :=
      (stepEffect_of_step hdb ht.exclusion h).move.kept _ op hop
    refine ⟨hnames, op', hop', fun hsucceeded => ?_, hservice.trans hunfinished.2⟩
    obtain ⟨job', hjob', hid⟩ :=
      liveJob_of_succeeded ht.exclusion h hop hworker hunfinished.1 hop' hsucceeded
    exact hapart.live job' job hjob' hlive hid

theorem ThreadsApart.step (hdb : OperationsSound db) (ht : ThreadKnown db t) (hu : ThreadKnown db u)
    (hapart : ThreadsApart t u) (h : t.step w db = some (db', t')) : ThreadsApart t' u where
  owned := (exclusion_sound.other w db t db' t' u trivial hdb ht.exclusion hu.exclusion
    hapart.owned h).2
  live job job' hjob hjob' := by
    obtain ⟨l, hl, hlive⟩ := Option.bind_eq_some_iff.1 hjob
    obtain ⟨l₁, hl₁, hmoves⟩ := automation_of_step h hl
    rcases hmoves.live hlive with hold | hnew
    · exact hapart.live job job' (by rw [liveJob, hl₁, Option.bind_some, hold]) hjob'
    · -- The operation is new, and that of the other run was there.
      obtain ⟨-, op, hop, -⟩ := refers_of_live hu hjob'
      exact (Nat.lt_of_lt_of_le (lt_size_of_get? hop) hnew).ne'

theorem liveJob_begin (op : HostingOperation)
    (request : (hostingOperations requestHash payloadHash op).Request) :
    liveJob (Thread.begin op request : Thread (hostingOperations requestHash payloadHash)) =
      none := by
  cases op <;> rfl

theorem runs_sound : (@runs requestHash payloadHash).Sound Config.anyStep where
  symm t u h := ⟨exclusion_sound.symm t u h.owned,
    fun job job' hjob hjob' heq => h.live job' job hjob' hjob heq.symm⟩
  call _ op request hdb := threadKnown_begin hdb op request
  call_apart op request u := ⟨exclusion_sound.call_apart op request u,
    fun _ _ hjob _ => absurd hjob (ne_some_of_none (liveJob_begin op request))⟩
  own _ _ _ _ _ _ hdb ht h :=
    ⟨(stepEffect_of_step hdb ht.exclusion h).sound, ht.step hdb h⟩
  other _ _ _ _ _ _ _ hdb ht hu hapart h :=
    ⟨ht.other hdb hu hapart h, hapart.step hdb ht hu h⟩

theorem ThreadKnown.of_operations (ht : ThreadKnown db t)
    (h : db'.operations = db.operations) : ThreadKnown db' t where
  exclusion := ⟨fun id hid => by rw [Refers, h]; exact ht.exclusion.1 id hid,
    fun job hjob => by rw [Refers, h]; exact ht.exclusion.2 job hjob⟩
  execution l hl := (ht.execution l hl).mono (by rw [h]; exact fun _ op hop => ⟨op, hop, rfl⟩)
  run l hl := by
    refine ⟨(ht.run l hl).prepares, fun job hjob => ?_⟩
    rw [Refers, h]
    exact (ht.run l hl).live job hjob

end

end WebhostBilling
