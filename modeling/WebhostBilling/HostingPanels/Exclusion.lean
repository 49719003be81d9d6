import WebhostBilling.HostingPanels.HostingPanelService
import WebhostBilling.Renewal.HostingAutomation

/-!
# One running operation per service

The API and the worker record operations with different code, and complete them without holding the
service's lock.  The API completes only operations it recorded in the same request, and the worker
only operations with a key of its own, so the completions of the API find their operation running.
The worker's may not: such a completion is refused by the check on the evidence.
-/

namespace WebhostBilling

open Store Store.Table Concurrency Config HostingPanelService HostingAutomationService

inductive HostingOperation
  | execute
  | generateCustomerLogin
  | retry
  | transition
  | process
deriving DecidableEq

section

/- The hashes that the API and the worker keep of their requests. -/
variable (requestHash : RowId → ExecuteHostingOperationRequest → String)
variable (payloadHash : AutomationPayload → String)

def hostingOperations : HostingOperation → Operation Database World
  | .execute => execute requestHash
  | .generateCustomerLogin => generateCustomerLogin requestHash
  | .retry => retry requestHash
  | .transition => ServiceService.transition
  | .process => process payloadHash

/-! ## The steps of the threads -/

/-- The execution of an operation of the API, once a thread has got that far. -/
def execution : (op : HostingOperation) → (hostingOperations requestHash payloadHash op).Local →
    Option ExecuteState
  | .execute, state => some state
  | .generateCustomerLogin, .execute state => some state
  | .retry, .execute state => some state
  | _, _ => none

def automation : (op : HostingOperation) → (hostingOperations requestHash payloadHash op).Local →
    Option AutomationState
  | .process, state => some state
  | _, _ => none

def owned (t : Thread (hostingOperations requestHash payloadHash)) : Option RowId :=
  (execution requestHash payloadHash t.op t.loc).bind ExecuteState.owned

def worksOn (t : Thread (hostingOperations requestHash payloadHash)) : Option AutomationJob :=
  (automation requestHash payloadHash t.op t.loc).bind AutomationState.job

inductive ThreadStep (w : World) (db : Database)
    (t : Thread (hostingOperations requestHash payloadHash)) (db' : Database)
    (t' : Thread (hostingOperations requestHash payloadHash)) : Prop
  | execute {l l' : ExecuteState} (hl : execution requestHash payloadHash t.op t.loc = some l)
      (hl' : execution requestHash payloadHash t'.op t'.loc = some l')
      (hworks : worksOn requestHash payloadHash t' = none)
      (hstep : Executes requestHash w db l db' l')
  | automate {l l' : AutomationState} (hl : automation requestHash payloadHash t.op t.loc = some l)
      (howned : owned requestHash payloadHash t' = none)
      (hworks : worksOn requestHash payloadHash t' = l'.job)
      (hstep : Automates payloadHash w db l db' l')
  | transition (hl : execution requestHash payloadHash t.op t.loc = none)
      (howned : owned requestHash payloadHash t' = none)
      (hworks : worksOn requestHash payloadHash t' = none) {request}
      (hstep : ServiceService.transitionTransaction request w.now db = .ok (db', ()))
  | wait (hl : execution requestHash payloadHash t.op t.loc = none)
      (howned : owned requestHash payloadHash t' = none)
      (hworks : worksOn requestHash payloadHash t' = none) (hsame : db' = db)

variable {requestHash payloadHash}

theorem threadStep_of_step {w : World} {db db' : Database}
    {t t' : Thread (hostingOperations requestHash payloadHash)}
    (h : t.step w db = some (db', t')) : ThreadStep requestHash payloadHash w db t db' t' := by
  obtain ⟨l, hl, rfl⟩ := Thread.step_eq_some h
  obtain ⟨op, loc⟩ := t
  cases op with
  | execute => exact .execute rfl rfl rfl (executeStep_cases requestHash hl)
  | generateCustomerLogin =>
    change customerLoginStep requestHash w db loc = some (db', l) at hl
    unfold customerLoginStep at hl
    split at hl
    · split at hl <;> (cases hl; exact .wait rfl rfl rfl rfl)
    · obtain ⟨⟨db₁, l₁⟩, hstep, rfl, rfl⟩ := map_eq_some_pair.1 hl
      exact .execute rfl rfl rfl (executeStep_cases requestHash hstep)
  | retry =>
    change retryStep requestHash w db loc = some (db', l) at hl
    unfold retryStep at hl
    split at hl
    · split at hl <;> (cases hl; exact .wait rfl rfl rfl rfl)
    · split at hl <;> (cases hl; exact .wait rfl rfl rfl rfl)
    · split at hl <;> (cases hl; exact .wait rfl rfl rfl rfl)
    · obtain ⟨⟨db₁, l₁⟩, hstep, rfl, rfl⟩ := map_eq_some_pair.1 hl
      exact .execute rfl rfl rfl (executeStep_cases requestHash hstep)
  | transition =>
    rcases ServiceService.transitionStep_writes hl with rfl | ⟨request, hok⟩
    · exact .wait rfl rfl rfl rfl
    · exact .transition rfl rfl rfl hok
  | process => exact .automate rfl rfl rfl (automationStep_cases payloadHash hl)

theorem owned_begin (op : HostingOperation)
    (request : (hostingOperations requestHash payloadHash op).Request) :
    owned requestHash payloadHash (Thread.begin op request) = none := by
  cases op with
  | execute =>
    change (executeStart request).owned = none
    unfold executeStart
    split <;> rfl
  | retry =>
    change (execution requestHash payloadHash .retry (retryStart request)).bind _ = none
    unfold retryStart
    split <;> rfl
  | generateCustomerLogin | transition | process => rfl

theorem worksOn_begin (op : HostingOperation)
    (request : (hostingOperations requestHash payloadHash op).Request) :
    worksOn requestHash payloadHash (Thread.begin op request) = none := by
  cases op <;> rfl

end

/-! ## What a step does to the operations -/

def NoneRunning (db : Database) (serviceId : Option RowId) : Prop :=
  ∀ id op, db.operations.get? id = some op → op.status = .running → op.serviceId ≠ serviceId

/-- A write that completes an operation: it leaves what identifies the operation alone. -/
structure Completes (f : HostingPanelOperation → HostingPanelOperation)
    (op : HostingPanelOperation) : Prop where
  serviceId : (f op).serviceId = op.serviceId
  idempotencyKey : (f op).idempotencyKey = op.idempotencyKey
  type : (f op).type = op.type
  attemptNumber : (f op).attemptNumber = op.attemptNumber
  retryOfOperationId : (f op).retryOfOperationId = op.retryOfOperationId
  ended : (f op).status ≠ .running
  evidence : (f op).StatusEvidence

/-- The ways in which a step moves the table of operations. -/
inductive OperationsMove (db db' : Database) : Prop
  | same (h : db'.operations = db.operations)
  | insert {row : HostingPanelOperation} (hrunning : row.status = .running)
      (hnone : NoneRunning db row.serviceId) (hevidence : row.StatusEvidence)
      (h : db'.operations = db.operations.insert row)
  | complete {id : RowId} {op : HostingPanelOperation}
      {f : HostingPanelOperation → HostingPanelOperation} (hop : db.operations.get? id = some op)
      (hf : Completes f op) (h : db'.operations = db.operations.update id f)

variable {db : Database} {op : HostingPanelOperation} {now : ℕ}

theorem completes_panelSucceeded
    (h : (HostingPanelService.succeededOperation now op).StatusEvidence) :
    Completes (HostingPanelService.succeededOperation now) op :=
  ⟨rfl, rfl, rfl, rfl, rfl, (nomatch ·), h⟩

theorem completes_panelFailed {error : HostingPanelProviderError}
    (h : (HostingPanelService.failedOperation error now op).StatusEvidence) :
    Completes (HostingPanelService.failedOperation error now) op := by
  refine ⟨rfl, rfl, rfl, rfl, rfl, ?_, h⟩
  show (if error.kind = .inconsistent then _ else _) ≠ _
  split <;> exact fun h => nomatch h

theorem completes_automationSucceeded
    (h : (HostingAutomationService.succeededOperation now op).StatusEvidence) :
    Completes (HostingAutomationService.succeededOperation now) op :=
  ⟨rfl, rfl, rfl, rfl, rfl, (nomatch ·), h⟩

theorem completes_automationFailed {attemptNumber : ℕ} {error : PanelAutomationError}
    (h : (HostingAutomationService.failedOperation attemptNumber error now op).StatusEvidence) :
    Completes (HostingAutomationService.failedOperation attemptNumber error now) op := by
  refine ⟨rfl, rfl, rfl, rfl, rfl, ?_, h⟩
  show (if error.kind = .inconsistent then _ else _) ≠ _
  split <;> exact fun h => nomatch h

def RecordedByApi (op : HostingPanelOperation) : Prop :=
  ∃ key, op.idempotencyKey = .hostingOperation key

def RecordedByWorker (op : HostingPanelOperation) : Prop :=
  ∃ action serviceId source retry,
    op.idempotencyKey = .automation action serviceId source retry

theorem RecordedByApi.not_worker (h : RecordedByApi op) :
    ¬ RecordedByWorker op := by
  rintro ⟨action, serviceId, source, retry, hworker⟩
  obtain ⟨key, hapi⟩ := h
  rw [hapi] at hworker
  exact nomatch hworker

/-! ## The proof outline -/

/-- What holds of the operations of a database. -/
structure OperationsSound (db : Database) : Prop where
  evidence : ∀ id op, db.operations.get? id = some op → op.StatusEvidence
  exclusive : ∀ i j a b serviceId, db.operations.get? i = some a → db.operations.get? j = some b →
    a.status = .running → b.status = .running → a.serviceId = some serviceId →
    b.serviceId = some serviceId → i = j
  automated : ∀ id op action serviceId source retry, db.operations.get? id = some op →
    op.idempotencyKey = .automation action serviceId source retry → op.serviceId = some serviceId

theorem operationsSound_empty (h : db.operations = ∅) : OperationsSound db := by
  constructor <;>
  · intros
    rename_i hget
    rw [h] at *
    exact absurd ‹_› get?_empty_ne

theorem OperationsSound.insert {db' : Database} (hdb : OperationsSound db)
    {row : HostingPanelOperation} (hnone : NoneRunning db row.serviceId)
    (hevidence : row.StatusEvidence)
    (hautomated : ∀ action serviceId source retry,
      row.idempotencyKey = .automation action serviceId source retry →
      row.serviceId = some serviceId)
    (h : db'.operations = db.operations.insert row) : OperationsSound db' where
  evidence id op hop := by
    rw [h] at hop
    rcases get?_insert_cases hop with ⟨-, rfl⟩ | hop
    · exact hevidence
    · exact hdb.evidence id op hop
  exclusive i j a b serviceId hi hj ha hb hai hbj := by
    rw [h] at hi hj
    rcases get?_insert_cases hi with ⟨rfl, rfl⟩ | hi'
    · rcases get?_insert_cases hj with ⟨rfl, -⟩ | hj'
      · rfl
      · exact absurd (hbj.trans hai.symm) (hnone j b hj' hb)
    · rcases get?_insert_cases hj with ⟨rfl, rfl⟩ | hj'
      · exact absurd (hai.trans hbj.symm) (hnone i a hi' ha)
      · exact hdb.exclusive i j a b serviceId hi' hj' ha hb hai hbj
  automated id op action serviceId source retry hop := by
    rw [h] at hop
    rcases get?_insert_cases hop with ⟨-, rfl⟩ | hop
    · exact hautomated action serviceId source retry
    · exact hdb.automated id op action serviceId source retry hop

theorem OperationsSound.complete {db' : Database} (hdb : OperationsSound db) {id : RowId}
    {f : HostingPanelOperation → HostingPanelOperation}
    (hop : db.operations.get? id = some op) (hf : Completes f op)
    (h : db'.operations = db.operations.update id f) : OperationsSound db' := by
  have hcases : ∀ j b, db'.operations.get? j = some b →
      (j = id ∧ b = f op) ∨ db.operations.get? j = some b := by
    intro j b hj
    rw [h] at hj
    rcases get?_update_cases hj with ⟨rfl, a, ha, rfl⟩ | ⟨-, hj⟩
    · rw [hop, Option.some.injEq] at ha
      exact .inl ⟨rfl, by rw [ha]⟩
    · exact .inr hj
  refine ⟨?_, ?_, ?_⟩
  · intro j b hj
    rcases hcases j b hj with ⟨-, rfl⟩ | hj
    · exact hf.evidence
    · exact hdb.evidence j b hj
  · intro i j a b serviceId hi hj ha hb hai hbj
    rcases hcases i a hi with ⟨-, rfl⟩ | hi
    · exact absurd ha hf.ended
    · rcases hcases j b hj with ⟨-, rfl⟩ | hj
      · exact absurd hb hf.ended
      · exact hdb.exclusive i j a b serviceId hi hj ha hb hai hbj
  · intro j b action serviceId source retry hj hkey
    rcases hcases j b hj with ⟨-, rfl⟩ | hj
    · rw [hf.serviceId]
      rw [hf.idempotencyKey] at hkey
      exact hdb.automated id op action serviceId source retry hop hkey
    · exact hdb.automated j b action serviceId source retry hj hkey

theorem ne_some_of_none {α : Type} {o : Option α} (h : o = none) {a : α} : o ≠ some a :=
  Option.eq_none_iff_forall_ne_some.1 h a

def Refers (P : HostingPanelOperation → Prop) (db : Database) (id : RowId) : Prop :=
  ∃ op, db.operations.get? id = some op ∧ P op

section

variable {requestHash : RowId → ExecuteHostingOperationRequest → String}
variable {payloadHash : AutomationPayload → String}

/-- The proof outline: a thread of the API owns a running operation with a key of the API, a run of
the worker works on one with a key of the worker, and no two threads of the API own the same. -/
def exclusion : Outline (hostingOperations requestHash payloadHash) where
  shared := OperationsSound
  thread db t :=
    (∀ id, owned requestHash payloadHash t = some id →
      Refers (fun op => op.status = .running ∧ RecordedByApi op) db id) ∧
    ∀ job, worksOn requestHash payloadHash t = some job →
      Refers RecordedByWorker db job.operationId
  apart t u := ∀ id, owned requestHash payloadHash t = some id →
    owned requestHash payloadHash u ≠ some id

structure StepEffect (db : Database) (t : Thread (hostingOperations requestHash payloadHash))
    (db' : Database) (t' : Thread (hostingOperations requestHash payloadHash)) : Prop where
  move : OperationsMove db db'
  sound : OperationsSound db'
  final : Table.Grows (fun op op' => op.status ≠ .running → op'.status = op.status)
    db.operations db'.operations
  others : ∀ id op, db.operations.get? id = some op → op.status = .running → RecordedByApi op →
    owned requestHash payloadHash t ≠ some id → db'.operations.get? id = some op
  keys : Table.Grows (fun op op' => op'.idempotencyKey = op.idempotencyKey)
    db.operations db'.operations
  thread : exclusion.thread db' t'
  owns : ∀ id, owned requestHash payloadHash t' = some id →
    owned requestHash payloadHash t = some id ∨ db.operations.size ≤ id

variable {l : AutomationState} {db' : Database}
  {t t' : Thread (hostingOperations requestHash payloadHash)} {w : World}

theorem noneRunning_of_runningOperation {serviceId : RowId}
    (h : runningOperation db serviceId = false) : NoneRunning db (some serviceId) := by
  intro id op hop hrunning hservice
  have := any_eq_false.1 h id op hop
  simp [hrunning, hservice] at this

variable {action : AutomationAction} {payload : AutomationPayload} {row : HostingPanelOperation}
  {id : RowId} {f : HostingPanelOperation → HostingPanelOperation} {job : AutomationJob}

theorem noneRunning_of_freshRow (hdb : OperationsSound db)
    (hrow : FreshRow payloadHash db action payload row)
    (hother : otherRunning db payload.serviceId (latestOperation db action payload) = false) :
    row.serviceId = some payload.serviceId ∧ NoneRunning db row.serviceId := by
  have hnone : NoneRunning db (some payload.serviceId) := by
    intro id op hop hrunning hservice
    have hany := any_eq_false.1 hother id op hop
    cases hrow with
    | first hlatest hservice' => simp [hlatest, hrunning, hservice] at hany
    | again hlatest hretryable =>
      -- The latest attempt has failed, so it is not the one that runs.
      simp only [hlatest, hrunning, hservice, Option.mem_def, Option.some.injEq, forall_eq',
        true_and, decide_eq_false_iff_not, not_not] at hany
      subst hany
      obtain ⟨hop', -⟩ := latestOperation_eq_some hlatest
      rw [hop, Option.some.injEq] at hop'
      have hfailed := hretryable.1
      rw [← hop', hrunning] at hfailed
      exact nomatch hfailed
  have hservice : row.serviceId = some payload.serviceId := by
    cases hrow with
    | first hlatest hservice => rfl
    | @again id op hlatest hretryable =>
      obtain ⟨hop, hkey⟩ := latestOperation_eq_some hlatest
      obtain ⟨retry, hkey⟩ := automates_eq_true hkey
      exact hdb.automated id op _ _ _ retry hop hkey
  exact ⟨hservice, hservice ▸ hnone⟩

theorem StepEffect.of_same (hdb : OperationsSound db)
    (h : db'.operations = db.operations) (hthread : exclusion.thread db' t')
    (howns : ∀ id, owned requestHash payloadHash t' = some id →
      owned requestHash payloadHash t = some id) : StepEffect db t db' t' where
  move := .same h
  sound := by
    refine ⟨?_, ?_, ?_⟩ <;> rw [h]
    · exact hdb.evidence
    · exact hdb.exclusive
    · exact hdb.automated
  final := by
    rw [h]
    exact Grows.refl (fun _ _ => rfl) _
  others id op hop _ _ _ := by rw [h, hop]
  keys := by
    rw [h]
    exact fun id op hop => ⟨op, hop, rfl⟩
  thread := hthread
  owns id hid := Or.inl (howns id hid)

theorem StepEffect.of_insert (hdb : OperationsSound db) (hrunning : row.status = .running)
    (hnone : NoneRunning db row.serviceId) (hevidence : row.StatusEvidence)
    (hautomated : ∀ action serviceId source retry,
      row.idempotencyKey = .automation action serviceId source retry →
      row.serviceId = some serviceId) (h : db'.operations = db.operations.insert row)
    (hthread : exclusion.thread db' t')
    (howns : ∀ id, owned requestHash payloadHash t' = some id → db.operations.size ≤ id) :
    StepEffect db t db' t' where
  move := .insert hrunning hnone hevidence h
  sound := hdb.insert hnone hevidence hautomated h
  final := by
    rw [h]
    exact grows_insert (fun _ _ => rfl) _ _
  others id op hop _ _ _ := by rw [h, get?_insert_of_some hop]
  keys := by
    rw [h]
    exact fun id op hop => ⟨op, get?_insert_of_some hop, rfl⟩
  thread := hthread
  owns id hid := Or.inr (howns id hid)

theorem StepEffect.of_complete (hdb : OperationsSound db) (hop : db.operations.get? id = some op)
    (hf : Completes f op) (hfinal : op.status ≠ .running → (f op).status = op.status)
    (hown : owned requestHash payloadHash t = some id ∨ RecordedByWorker op)
    (h : db'.operations = db.operations.update id f)
    (howned : owned requestHash payloadHash t' = none)
    (hworks : worksOn requestHash payloadHash t' = none) : StepEffect db t db' t' where
  move := .complete hop hf h
  sound := hdb.complete hop hf h
  final := by
    rw [h]
    refine grows_update (fun _ _ => rfl) fun row hrow => ?_
    rw [hop, Option.some.injEq] at hrow
    exact hrow ▸ hfinal
  others j row hrow _ hapi hother := by
    rw [h, get?_update_of_ne, hrow]
    rintro rfl
    obtain rfl := Option.mem_unique hop hrow
    rcases hown with hown | hworker
    · exact hother hown
    · exact hapi.not_worker hworker
  keys := by
    rw [h]
    intro j row hrow
    by_cases hj : id = j
    · subst hj
      obtain rfl := Option.mem_unique hop hrow
      exact ⟨f op, get?_update_self hop, hf.idempotencyKey⟩
    · exact ⟨row, by rw [get?_update_of_ne hj, hrow], rfl⟩
  thread := ⟨fun j hj => absurd hj (ne_some_of_none howned),
    fun _ hjob => absurd hjob (ne_some_of_none hworks)⟩
  owns j hj := absurd hj (ne_some_of_none howned)

/-! ### The steps of the API -/

theorem thread_of_not_working {o : Option RowId} (howned : owned requestHash payloadHash t = o)
    (hworks : worksOn requestHash payloadHash t = none)
    (ho : ∀ id, o = some id → Refers (fun op => op.status = .running ∧ RecordedByApi op) db id) :
    exclusion.thread db t :=
  ⟨fun id hid => ho id (howned ▸ hid), fun _ hjob => absurd hjob (ne_some_of_none hworks)⟩

theorem owned_of_execution
    {l : ExecuteState} (hl : execution requestHash payloadHash t.op t.loc = some l) :
    owned requestHash payloadHash t = l.owned := by
  rw [owned, hl, Option.bind_some]

theorem worksOn_of_automation (hl : automation requestHash payloadHash t.op t.loc = some l) :
    worksOn requestHash payloadHash t = l.job := by
  rw [worksOn, hl, Option.bind_some]

theorem execution_of_automation {op : HostingOperation}
    {loc : (hostingOperations requestHash payloadHash op).Local}
    (hl : automation requestHash payloadHash op loc = some l) :
    execution requestHash payloadHash op loc = none := by
  cases op with
  | process => rfl
  | execute | generateCustomerLogin | retry | transition => exact nomatch hl

theorem stepEffect_execute {l l' : ExecuteState}
    (hdb : OperationsSound db) (ht : exclusion.thread db t)
    (hl : execution requestHash payloadHash t.op t.loc = some l)
    (howned : owned requestHash payloadHash t' = l'.owned)
    (hworks : worksOn requestHash payloadHash t' = none)
    (hstep : Executes requestHash w db l db' l') : StepEffect db t db' t' := by
  have hown := owned_of_execution hl
  cases hstep with
  | idle hidle =>
    rw [hidle] at howned
    exact .of_same hdb rfl (thread_of_not_working howned hworks fun id hid => nomatch hid)
      fun id hid => absurd hid (ne_some_of_none howned)
  | create h =>
    obtain ⟨server, services, rfl, hservice, hcheck, hevidence, hkey, hretry, hservices, rfl⟩ :=
      createTransaction_eq_ok h
    have hnone := noneRunning_of_runningOperation (checkOperation_eq_ok hcheck).2.1
    refine .of_insert hdb rfl hnone hevidence (fun _ _ _ _ hkey => nomatch hkey) rfl
      (thread_of_not_working howned hworks ?_) ?_
    · rintro id hid
      obtain rfl := Option.some.inj hid
      exact ⟨_, get?_insert_self _ _, rfl, _, rfl⟩
    · intro id hid
      rw [howned] at hid
      exact Nat.le_of_eq (Option.some.inj hid)
  | succeed h | fail h =>
    exact .of_same hdb rfl (thread_of_not_working howned hworks fun id hid => ht.1 id (hown ▸ hid))
      fun id hid => by rw [hown]; rwa [howned] at hid
  | completeSuccess h hidle =>
    obtain ⟨op, services, orders, events, hop, hevidence, -, -, -, rfl⟩ :=
      completeSuccessTransaction_eq_ok h
    obtain ⟨op', hop', hrunning, hapi⟩ := ht.1 _ hown
    obtain rfl := Option.mem_unique hop hop'
    exact .of_complete hdb hop (completes_panelSucceeded hevidence)
      (fun hfinal => absurd hrunning hfinal) (.inl hown) rfl (howned.trans hidle) hworks
  | completeFailure h hidle =>
    obtain ⟨op, services, hop, hevidence, -, rfl⟩ := completeFailureTransaction_eq_ok h
    obtain ⟨op', hop', hrunning, hapi⟩ := ht.1 _ hown
    obtain rfl := Option.mem_unique hop hop'
    exact .of_complete hdb hop (completes_panelFailed hevidence)
      (fun hfinal => absurd hrunning hfinal) (.inl hown) rfl (howned.trans hidle) hworks

/-! ### The steps of the worker -/

/-- Success is recorded for an operation without an error only, so a final status stays even when
the operation is completed a second time. -/
theorem succeeded_keeps_final (hop : op.StatusEvidence)
    (h : (HostingAutomationService.succeededOperation now op).StatusEvidence)
    (hfinal : op.status ≠ .running) :
    (HostingAutomationService.succeededOperation now op).status = op.status := by
  have herror : op.errorKind = none := h.2.2.1
  show HostingPanelOperationStatus.succeeded = op.status
  unfold HostingPanelOperation.StatusEvidence at hop
  cases hstatus : op.status with
  | running => exact absurd hstatus hfinal
  | succeeded => rfl
  | failed | inconsistent => simp [hstatus, herror] at hop

theorem refers_mono {P : HostingPanelOperation → Prop} (h : Refers P db id)
    (hgrows : Table.Grows (fun op op' => P op → P op') db.operations db'.operations) :
    Refers P db' id := by
  obtain ⟨op, hop, hP⟩ := h
  obtain ⟨op', hop', hkeep⟩ := hgrows id op hop
  exact ⟨op', hop', hkeep hP⟩

theorem job_resume {prepared : HostingAutomationService.Prepared}
    (h : (resume action payload prepared).job = some job) :
    ∃ op fresh, prepared = .operation job.operationId op fresh := by
  cases prepared with
  | nothing => exact nomatch h
  | operation id op fresh =>
    simp only [resume] at h
    split at h
    · exact nomatch h
    · split at h <;>
      · obtain rfl := Option.some.inj h
        exact ⟨op, _, rfl⟩
    · exact nomatch h

theorem stepEffect_ended {operations : Table HostingPanelOperation} (hdb : OperationsSound db)
    (ht : exclusion.thread db t) (hjob : worksOn requestHash payloadHash t = some job)
    (hcompletes : ∀ op, (f op).StatusEvidence → Completes f op)
    (h : OperationEnded f job.operationId db.operations operations)
    (howned : owned requestHash payloadHash t' = none)
    (hworks : worksOn requestHash payloadHash t' = none) :
    StepEffect db t { db with operations := operations } t' := by
  rcases h with rfl | ⟨op, hop, hrunning, hevidence, rfl⟩
  · exact .of_same hdb rfl (thread_of_not_working howned hworks fun id hid => nomatch hid)
      fun id hid => absurd hid (ne_some_of_none howned)
  · obtain ⟨op', hop', hworker⟩ := ht.2 job hjob
    obtain rfl := Option.mem_unique hop hop'
    exact .of_complete hdb hop (hcompletes op hevidence)
      (fun hfinal => absurd hrunning hfinal) (.inr hworker) rfl howned hworks

theorem stepEffect_automate {l' : AutomationState}
    (hdb : OperationsSound db) (ht : exclusion.thread db t)
    (hl : automation requestHash payloadHash t.op t.loc = some l)
    (howned : owned requestHash payloadHash t' = none)
    (hworks : worksOn requestHash payloadHash t' = l'.job)
    (hstep : Automates payloadHash w db l db' l') : StepEffect db t db' t' := by
  have hwork := worksOn_of_automation hl
  have hnotOwned : ∀ id, owned requestHash payloadHash t' = some id →
      owned requestHash payloadHash t = some id := by
    intro id hid
    exact absurd hid (ne_some_of_none howned)
  have hthread : (∀ job, l'.job = some job → Refers RecordedByWorker db' job.operationId) →
      exclusion.thread db' t' := by
    intro hjob
    exact ⟨fun id hid => absurd hid (ne_some_of_none howned), fun job h => hjob job (hworks ▸ h)⟩
  cases hstep with
  | idle hidle =>
    refine .of_same hdb rfl (hthread fun job h => ?_) hnotOwned
    rcases hidle with hnone | hsame
    · rw [hnone] at h
      exact nomatch h
    · exact ht.2 job (by rw [hwork, ← hsame, h])
  | @prepare action payload outboxEventId db' prepared h =>
    cases prepareTransaction_eq_ok payloadHash h with
    | @create row hrow hrunning hevidence hkey =>
      obtain ⟨hservice, hnone⟩ := noneRunning_of_freshRow hdb hrow hrunning
      obtain ⟨hstatus, retry, hrowKey⟩ := hrow.running_automation
      refine .of_insert hdb hstatus hnone hevidence ?_ rfl (hthread fun job hjob => ?_)
        fun id hid => absurd hid (ne_some_of_none howned)
      · intro action' serviceId source retry' hkey'
        rw [hrowKey] at hkey'
        obtain ⟨-, rfl, -, -⟩ := OperationKey.automation.inj hkey'
        exact hservice
      · obtain ⟨op, fresh, hprepared⟩ := job_resume hjob
        obtain ⟨hid, -, -⟩ := HostingAutomationService.Prepared.operation.inj hprepared
        rw [← hid]
        exact ⟨row, get?_insert_self _ _, _, _, _, _, hrowKey⟩
    | found hlatest =>
      obtain ⟨hop, hautomates⟩ := latestOperation_eq_some hlatest
      obtain ⟨retry, hkey⟩ := automates_eq_true hautomates
      refine .of_same hdb rfl (hthread fun job hjob => ?_) hnotOwned
      obtain ⟨op', fresh, hprepared⟩ := job_resume hjob
      obtain ⟨hid, -, -⟩ := HostingAutomationService.Prepared.operation.inj hprepared
      rw [← hid]
      exact ⟨_, hop, _, _, _, _, hkey⟩
    | nothing hcancellation hservices =>
      exact .of_same hdb rfl (hthread fun job hjob => nomatch hjob) hnotOwned
  | skip h hidle =>
    obtain ⟨operations, hended, rfl⟩ := completeSkipped_eq_ok h
    exact stepEffect_ended hdb ht hwork (fun _ => completes_automationSucceeded) hended howned
      (hworks.trans hidle)
  | complete h hidle =>
    obtain ⟨service, op, requests, -, -, hop, hevidence, -, rfl⟩ := completeTransaction_eq_ok h
    obtain ⟨op', hop', hworker⟩ := ht.2 _ hwork
    obtain rfl := Option.mem_unique hop hop'
    exact .of_complete hdb hop (completes_automationSucceeded hevidence)
      (succeeded_keeps_final (hdb.evidence _ _ hop) hevidence) (.inr hworker) rfl howned
      (hworks.trans hidle)
  | fail h hidle =>
    obtain ⟨operations, hended, rfl⟩ := failTransaction_eq_ok h
    exact stepEffect_ended hdb ht hwork (fun _ => completes_automationFailed) hended howned
      (hworks.trans hidle)

theorem stepEffect_of_step (hdb : OperationsSound db)
    (ht : exclusion.thread db t) (h : t.step w db = some (db', t')) : StepEffect db t db' t' := by
  cases threadStep_of_step h with
  | execute hl hl' hworks hstep =>
    exact stepEffect_execute hdb ht hl (owned_of_execution hl') hworks hstep
  | automate hl howned hworks hstep => exact stepEffect_automate hdb ht hl howned hworks hstep
  | transition hl howned hworks hstep =>
    obtain ⟨current, data, events, orders, -, -, -, -, -, rfl⟩ :=
      ServiceService.transitionTransaction_eq_ok hstep
    exact .of_same hdb rfl (thread_of_not_working howned hworks fun id hid => nomatch hid)
      fun id hid => absurd hid (ne_some_of_none howned)
  | wait hl howned hworks hsame =>
    subst hsame
    exact .of_same hdb rfl (thread_of_not_working howned hworks fun id hid => nomatch hid)
      fun id hid => absurd hid (ne_some_of_none howned)

/-! ## Runs -/

theorem exclusion_sound :
    (@exclusion requestHash payloadHash).Sound anyStep where
  symm t u h id hu ht := h id ht hu
  call db op request _ := by
    exact ⟨fun id hid => absurd hid (ne_some_of_none (owned_begin op request)),
      fun job hjob => absurd hjob (ne_some_of_none (worksOn_begin op request))⟩
  call_apart op request u id hid :=
    absurd hid (ne_some_of_none (owned_begin op request))
  own w db t db' t' _ hdb ht h := by
    have heffect := stepEffect_of_step hdb ht h
    exact ⟨heffect.sound, heffect.thread⟩
  other w db t db' t' u _ hdb ht hu hapart h := by
    have heffect := stepEffect_of_step hdb ht h
    refine ⟨⟨fun id hid => ?_, fun job hjob => ?_⟩, fun id hid hid' => ?_⟩
    · obtain ⟨op, hop, hrunning, hapi⟩ := hu.1 id hid
      exact ⟨op, heffect.others id op hop hrunning hapi fun hown => hapart id hown hid, hrunning,
        hapi⟩
    · refine refers_mono (hu.2 job hjob) fun id op hop => ?_
      obtain ⟨op', hop', hkey⟩ := heffect.keys id op hop
      exact ⟨op', hop', fun ⟨action, serviceId, source, retry, h⟩ =>
        ⟨action, serviceId, source, retry, hkey.trans h⟩⟩
    · rcases heffect.owns id hid with hown | hnew
      · exact hapart id hown hid'
      · -- A thread owns operations that are there, and the new one was not.
        obtain ⟨op, hop, -⟩ := hu.1 id hid'
        exact absurd (lt_size_of_get? hop) (Nat.not_lt.2 hnew)

end

/-- No service has two running operations. -/
def OneRunning (db : Database) : Prop :=
  ∀ i j a b serviceId, db.operations.get? i = some a → db.operations.get? j = some b →
    a.status = .running → b.status = .running → a.serviceId = some serviceId →
    b.serviceId = some serviceId → i = j

/-- An operation that has ended keeps its status. -/
def StatusesFinal (db db' : Database) : Prop :=
  Table.Grows (fun op op' => op.status ≠ .running → op'.status = op.status)
    db.operations db'.operations

/-- **At most one operation runs per service, and a final status is never left**, in every
interleaving of the API's operations and the worker's runs. -/
theorem one_running_operation {requestHash : RowId → ExecuteHostingOperationRequest → String}
    {payloadHash : AutomationPayload → String} {db : Database} (hdb : OperationsSound db)
    {c : Config (hostingOperations requestHash payloadHash)}
    (hr : Reaches anyStep ⟨db, []⟩ c) :
    OneRunning c.shared ∧
      ∀ c', Reaches anyStep c c' → StatusesFinal c.shared c'.shared := by
  have hholds := exclusion_sound.holds (Outline.holds_idle hdb) hr
  refine ⟨hholds.shared.exclusive, fun c' hr' => ?_⟩
  refine exclusion_sound.related (fun s => Grows.refl (fun _ _ => rfl) _) ?_ ?_ hholds hr'
  · intro a b c hab hbc
    refine Grows.trans (fun x y z hxy hyz hx => ?_) hab hbc
    rw [hyz (by rw [hxy hx]; exact hx), hxy hx]
  · intro w s t s' t' _ hs ht h
    exact (stepEffect_of_step hs ht h).final

/-! ### A redelivered job -/

def overdueService : Database where
  servers := ⟨[{ adapterKey := "fake-panel" }]⟩
  services := ⟨[{
    customerId := 0, serverId := 0, status := .active, domain := some "a.b",
    controlPanelUsername := some "u", externalAccountId := some "x",
    packageIdentifier := some "p", recurringAmount := 100, currency := "BDT", startedAt := 0,
    nextDueAt := 10, updatedAt := 0 }]⟩
  invoices := ⟨[{
    submissionKey := "r", customerId := 0, status := .overdue, currency := "BDT", subtotal := 100,
    total := 100, balanceDue := 100, dueAt := 10, updatedAt := 0
    items := [{
      serviceId := some 0, unitAmount := 100, lineTotal := 100, servicePeriodStart := some 10,
      servicePeriodEnd := some 40 }] }]⟩
  automationRuns := ⟨[{ idempotencyKey := .renewalCycle "d" }]⟩
  outboxEvents := ⟨[{
    aggregateType := .service, aggregateId := 0, eventType := .hostingSuspensionRequested
    idempotencyKey := .automationSuspend 0 0, payload := .hostingAutomation 0 0 0
    status := .published }]⟩

def suspensionJob : BackgroundJobData := ⟨0, .service, 0, .hostingSuspensionRequested⟩

/-- The operations of the hosting accounts, for runs that store hashes without comparing any. -/
abbrev unhashedOperations : HostingOperation → Operation Database World :=
  hostingOperations (fun _ _ => "") fun _ => ""

/-- The job is delivered a second time while the first delivery has its operation running; the
second gives it up as inconsistent. -/
def redelivery : List (Move unhashedOperations) :=
  [.call .process suspensionJob, .call .process suspensionJob, .advance 0 {}, .advance 0 {},
    .advance 1 {}, .advance 1 {}, .advance 1 {}]

/-- The first delivery goes on: it reads the service and the invoice, changes the account, and tries
to complete its operation. -/
def firstDelivery : List (Move unhashedOperations) :=
  [.advance 0 {}, .advance 0 {}, .advance 0 {}, .advance 0 {}]

def redeliveredConfig : Config unhashedOperations :=
  Config.after ⟨overdueService, []⟩ redelivery (by decide +kernel)

def completedConfig : Config unhashedOperations :=
  redeliveredConfig.after firstDelivery (by decide +kernel)

/-- The completion is refused: the operation stays inconsistent, and the service active. -/
theorem given_up_operation_stays :
    (redeliveredConfig.shared.operations.get? 0).map HostingPanelOperation.status =
        some .inconsistent ∧
      (completedConfig.shared.operations.get? 0).map HostingPanelOperation.status =
        some .inconsistent ∧
      (completedConfig.shared.services.get? 0).map Service.status = some .active ∧
      OneRunning redeliveredConfig.shared ∧
      StatusesFinal redeliveredConfig.shared completedConfig.shared := by
  have hruns := one_running_operation (operationsSound_empty rfl)
    (reaches_anyStep_of_run
      (run_eq_after (show (Config.run ⟨overdueService, []⟩ redelivery).isSome = true by
        decide +kernel)))
  refine ⟨by decide +kernel, by decide +kernel, by decide +kernel, hruns.1, hruns.2 _ ?_⟩
  exact reaches_anyStep_of_run (run_eq_after _)

/-! ### A failure that cannot be recorded -/

namespace HostingAutomationService

variable {operationId : RowId}

/-- `fail` leaves the row that it writes, which the table accepts, and the operation is no longer
running. -/
structure FailureRecorded (db : Database) (operationId : RowId) (op : HostingPanelOperation)
    (error : PanelAutomationError) (now : ℕ) : Prop where
  evidence : (failedOperation op.attemptNumber error now op).StatusEvidence
  ended : ∃ op', (atomically (failTransaction operationId op.attemptNumber error now)
      db).1.operations.get? operationId = some op' ∧ op'.status ≠ .running

theorem failedOperation_evidence_iff (error : PanelAutomationError) (now : ℕ) :
    (failedOperation op.attemptNumber error now op).StatusEvidence ↔
      (error.kind = .temporary → op.attemptNumber < maxAutomationAttempts) := by
  obtain ⟨kind, code⟩ := error
  cases kind <;> simp [failedOperation, HostingPanelOperation.StatusEvidence]

/-- **A failure can be recorded** unless the error may pass and the attempt is the last one: then
`retryable` is false, and the check asks for the opposite. -/
theorem failure_recorded_iff (hop : db.operations.get? operationId = some op)
    (hrunning : op.status = .running) (hknown : op.RequesterKnown) (error : PanelAutomationError)
    (now : ℕ) : FailureRecorded db operationId op error now ↔
      (error.kind = .temporary → op.attemptNumber < maxAutomationAttempts) := by
  rw [← failedOperation_evidence_iff error now]
  refine ⟨FailureRecorded.evidence, fun hevidence => ⟨hevidence, ?_⟩⟩
  have hchecked : (failedOperation op.attemptNumber error now op).StatusEvidence ∧
      (failedOperation op.attemptNumber error now op).RequesterKnown := ⟨hevidence, hknown⟩
  have hwrite : db.updateRunningOperation operationId (failedOperation op.attemptNumber error now) =
      .ok { db with operations :=
        db.operations.update operationId (failedOperation op.attemptNumber error now) } := by
    rw [Database.updateRunningOperation, hop]
    simp only [if_pos hrunning, Database.updateOperation, hop]
    exact bind_eq_ok.2 ⟨op, rfl, bind_eq_ok.2 ⟨(), require_true _ hchecked, rfl⟩⟩
  refine ⟨failedOperation op.attemptNumber error now op, ?_, ?_⟩
  · rw [atomically, failTransaction, hwrite]
    exact get?_update_self hop
  · simp only [failedOperation]
    split <;> simp

def suspensionAttempt (n : ℕ) : HostingPanelOperation where
  serviceId := some 0
  serverId := 0
  automationRunId := some 0
  retryOfOperationId := if n = 1 then none else some (n - 2)
  type := .suspendAccount
  adapterKey := "fake-panel"
  idempotencyKey := .automation .suspend 0 (.invoice 0) (if n = 1 then none else some n)
  requestFingerprint := ""
  attemptNumber := n

/-- `n` attempts have failed, and the next one is running. -/
def attemptsFailed (n : ℕ) : Database :=
  { overdueService with
    operations := ⟨(List.range n).map (fun k => failedOperation (k + 1) temporarilyUnavailable 5
      (suspensionAttempt (k + 1))) ++ [suspensionAttempt (n + 1)]⟩ }

theorem third_failure_not_recorded :
    ¬ FailureRecorded (attemptsFailed 2) 2 (suspensionAttempt 3) temporarilyUnavailable 7 :=
  fun h => absurd h.evidence (by decide)

theorem second_failure_recorded :
    FailureRecorded (attemptsFailed 1) 1 (suspensionAttempt 2) temporarilyUnavailable 7 :=
  (failure_recorded_iff rfl rfl (by decide) _ _).2 fun _ => by decide

end HostingAutomationService

end WebhostBilling
