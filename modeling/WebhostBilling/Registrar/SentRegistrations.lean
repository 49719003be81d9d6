import WebhostBilling.Registrar.OutstandingMutations

/-!
# What is sent to register a domain

A claim is a permit that is given once: `registrationPermit` counts the registrations that are sent
for an operation, or for a domain.  What has come before a registration that was sent is read off
the trace: `ClaimTraced` carries it along a delivery, and `RegistrationsTraced` keeps it.  A
delivery that finds the claim of another one is left with lookups (`LooksUpOnly`).
-/

namespace WebhostBilling

open Store Store.Table Concurrency Config RegistrarProcessor DomainService DomainLifecycleService

section

variable {settings : RegistrarSettings} {w : World} {db db' : Database}
variable {job : Job} {q : RowId → RowId → Bool}

theorem dispatching_of_registering {l' : ProcessState}
    (h : processStep settings w db (.registering job) = some (db', l')) :
    l'.dispatching = none := by
  simp only [processStep, uncertain] at h
  split at h <;> (cases h; rfl)

/-! ## The permit -/

/-- A registration that was sent for an operation and a domain with `q`. -/
def registers (q : RowId → RowId → Bool) : RegistrarEvent → Bool
  | .called operationId domainId .register => q operationId domainId
  | _ => false

/-- The claim of an operation with `q`, as the permit to send its registration. -/
def registrationPermit (settings : RegistrarSettings) (q : RowId → RowId → Bool) :
    Permit (registrarOperations settings) (registrarEvents settings) where
  taken db := ∃ id operation, db.registrarOperations.get? id = some operation ∧
    operation.claimedAt.isSome ∧ q id operation.domainId = true
  holds
    | .process, l => ∃ job, ProcessState.dispatching l = some job ∧
        q job.intent.operationId job.domainId = true
    | _, _ => False
  spends := registers q

/-- No two operations have `q`. -/
def Distinguishes (q : RowId → RowId → Bool) : Prop :=
  ∀ db, RegistrationsSound db → ∀ i j a b, db.registrarOperations.get? i = some a →
    db.registrarOperations.get? j = some b → q i a.domainId = true → q j b.domainId = true → i = j

theorem distinguishes_operation (operationId : RowId) :
    Distinguishes fun id _ => id == operationId :=
  fun _ _ _ _ _ _ _ _ hi hj => (eq_of_beq hi).trans (eq_of_beq hj).symm

theorem distinguishes_domain (domainId : RowId) : Distinguishes fun _ id => id == domainId :=
  fun _ hs i j a b ha hb hi hj =>
    hs.unique i j a b ha hb ((eq_of_beq hi).trans (eq_of_beq hj).symm)

theorem registering_of_event {kind : RegistrarKind}
    {l : (registrarOperations settings kind).Local} {event : RegistrarEvent}
    (hevent : event ∈ registrarEvents settings kind w db l)
    (hregisters : registers q event = true) :
    ∃ job : Job, q job.intent.operationId job.domainId = true ∧
      (⟨kind, l⟩ : Thread (registrarOperations settings)) =
        ⟨.process, ProcessState.registering job⟩ := by
  have hquoting {job : Job} {answer : Except RegistrarError RegistrarQuote}
      (h : event ∈ Job.called job .quote :: quotedEvents job answer) : False := by
    cases answer with
    | ok cost =>
      simp only [quotedEvents, List.mem_cons, List.not_mem_nil, or_false] at h
      rcases h with rfl | rfl <;> cases hregisters
    | error e =>
      simp only [quotedEvents, List.mem_cons, List.not_mem_nil, or_false] at h
      subst h
      cases hregisters
  have hone {event' : RegistrarEvent} (hother : registers q event' = false)
      (h : event ∈ [event']) : False := by
    rw [List.mem_singleton] at h
    rw [h, hother] at hregisters
    cases hregisters
  cases kind with
  | process =>
    cases l with
    | registering job =>
      have heq : event = .called job.intent.operationId job.domainId .register :=
        List.mem_singleton.1 hevent
      rw [heq] at hregisters
      exact ⟨job, hregisters, rfl⟩
    | prepare operationId =>
      simp only [registrarEvents, processEvents] at hevent
      split at hevent
      · exact (hone rfl hevent).elim
      · exact nomatch hevent
    | quoting job | requoting job => exact (hquoting hevent).elim
    | searching job _ | contacting job | observing job => exact (hone rfl hevent).elim
    | locate _ | recording _ _ | done => exact nomatch hevent
  | execute =>
    cases l with
    | claiming run =>
      simp only [registrarEvents, executeEvents, claimEvents] at hevent
      split at hevent
      · split at hevent
        · exact (hone rfl hevent).elim
        · exact nomatch hevent
      · exact nomatch hevent
    | addingContact run | submitting run => exact (hone rfl hevent).elim
    | verifyingContact run contactId | observing run =>
      simp only [registrarEvents, executeEvents] at hevent
      split at hevent
      · exact (hone rfl hevent).elim
      · exact nomatch hevent
    | _ => exact nomatch hevent
  | recoverContact =>
    cases l with
    | verifying input =>
      simp only [registrarEvents, recoverContactEvents] at hevent
      split at hevent
      · exact (hone rfl hevent).elim
      · exact nomatch hevent
    | locate _ | opening _ _ | storing _ | done _ => exact nomatch hevent
  | approve =>
    cases l with
    | transact approval cost =>
      simp only [registrarEvents, approveEvents] at hevent
      split at hevent
      · exact (hone rfl hevent).elim
      · exact nomatch hevent
    | check _ | quoting _ | done _ => exact nomatch hevent
  | createDomain | reconcile | createAction | cancelUnsent | refresh | otherServices =>
    exact nomatch hevent

theorem registration_taken (hq : Distinguishes q) (hs : RegistrationsSound db) {operationId now : ℕ}
    (hok : prepareTransaction settings operationId now db = .ok (db', some (job, true)))
    (hjob : q job.intent.operationId job.domainId = true) :
    ¬ (registrationPermit settings q).taken db ∧ (registrationPermit settings q).taken db' := by
  cases prepareTransaction_eq_ok hok with
  | @claimed p order evidence hp hunclaimed _ _ _ _ =>
    rw [hp.jobOperation, hp.jobDomain] at hjob
    refine ⟨?_, operationId, reservePoll (some now) now p.operation, ?_, rfl, hjob⟩
    · rintro ⟨id, operation, hoperation, hclaimed, hid⟩
      have hsame := hq db hs id operationId operation p.operation hoperation hp.operation hid hjob
      rw [hsame, hp.operation, Option.some.injEq] at hoperation
      rw [← hoperation, hunclaimed] at hclaimed
      exact Bool.false_ne_true hclaimed
    · exact get?_update_self hp.operation

theorem registrationPermit_sound (hq : Distinguishes q) :
    (registrationPermit settings q).Sound RegistrationsSound where
  inv _ _ _ _ _ _ hs h := hs.step (registrarWrites_of_step _ h)
  start kind _ := by
    cases kind with
    | process =>
      rintro ⟨job, hjob, -⟩
      cases hjob
    | _ => exact not_false
  kept _ _ _ _ _ _ _ h := by
    rintro ⟨id, operation, hoperation, hclaimed, hid⟩
    obtain ⟨after, hafter, hmoves⟩ :=
      (registrarWrites_of_step _ h).operations_grow id operation hoperation
    refine ⟨id, after, hafter, ?_, ?_⟩
    · rw [hmoves.claim hclaimed]
      exact hclaimed
    · rw [hmoves.approval.domainId]
      exact hid
  acquired kind w db l db' l' hs h hholds := by
    cases kind with
    | process =>
      obtain ⟨job, hjob, hqjob⟩ := hholds
      rcases job_of_step h (job_of_dispatching hjob) with ⟨-, hold⟩ | ⟨operationId, _, hok, hclaimed⟩
      · exact .inl ⟨job, hold hjob, hqjob⟩
      · obtain rfl := hclaimed hjob
        exact .inr (registration_taken hq hs hok hqjob)
    | _ => exact hholds.elim
  spent kind w db l db' l' _ h hspent := by
    obtain ⟨event, hevent, hregisters⟩ := List.countP_pos_iff.1 hspent
    obtain ⟨job, hjob, heq⟩ := registering_of_event hevent hregisters
    cases heq
    refine ⟨⟨job, rfl, hjob⟩, ?_, ?_⟩
    · rintro ⟨job', hjob', -⟩
      rw [@dispatching_of_registering settings w db db' job l' h] at hjob'
      cases hjob'
    · have hone : [Job.called job .register].countP (registers q) = 1 := by
        rw [List.countP_singleton, if_pos]
        exact hjob
      exact hone

/-! ## What comes before a registration -/

structure ClaimedWhilePaid (db : Database) (operationId domainId : RowId) (ceiling : ℤ) : Prop where
  operation : ∃ operation, db.registrarOperations.get? operationId = some operation ∧
    operation.domainId = domainId ∧ operation.costCeiling = ceiling ∧ operation.claimedAt = none
  paid : ∃ domain invoiceId, db.domains.get? domainId = some domain ∧
    domain.invoiceId = some invoiceId ∧
    verifiedDomainInvoice db invoiceId domain.customerId = true

/-- The registration was approved at a cost within its ceiling and then claimed while it was paid,
and then `later` happened. -/
def ClaimTraced (trace : List RegistrarEvent) (operationId domainId : RowId) (ceiling : ℤ)
    (later : List RegistrarEvent) : Prop :=
  ∃ cost claimDb, cost.costAmount ≤ ceiling ∧
    ClaimedWhilePaid claimDb operationId domainId ceiling ∧
    (.approved operationId cost :: .claimed operationId claimDb :: later).Sublist trace

/-- **What has come before a registration that was sent**: its approval, its claim while it was
paid, and two quotes of a cost within the ceiling. -/
def RegisteredWithin (trace : List RegistrarEvent) (operationId domainId : RowId) : Prop :=
  ∃ ceiling first second, 0 < first.costAmount ∧ first.costAmount ≤ ceiling ∧
    second.costAmount ≤ ceiling ∧ ClaimTraced trace operationId domainId ceiling
      [.quoted operationId first, .quoted operationId second, .called operationId domainId .register]

def ProcessHolds (trace : List RegistrarEvent) : ProcessState → Prop
  | .quoting job =>
    ClaimTraced trace job.intent.operationId job.domainId job.intent.costCeiling []
  | .searching job cost =>
    ClaimTraced trace job.intent.operationId job.domainId job.intent.costCeiling
      [.quoted job.intent.operationId cost]
  | .contacting job => ∃ cost, 0 < cost.costAmount ∧ cost.costAmount ≤ job.intent.costCeiling ∧
      ClaimTraced trace job.intent.operationId job.domainId job.intent.costCeiling
        [.quoted job.intent.operationId cost]
  | .requoting job => ∃ cost, 0 < cost.costAmount ∧ cost.costAmount ≤ job.intent.costCeiling ∧
      ClaimTraced trace job.intent.operationId job.domainId job.intent.costCeiling
        [.quoted job.intent.operationId cost]
  | .registering job => ∃ first second, 0 < first.costAmount ∧
      first.costAmount ≤ job.intent.costCeiling ∧ second.costAmount ≤ job.intent.costCeiling ∧
      ClaimTraced trace job.intent.operationId job.domainId job.intent.costCeiling
        [.quoted job.intent.operationId first, .quoted job.intent.operationId second]
  | _ => True

def RegistrationThread (settings : RegistrarSettings) (trace : List RegistrarEvent) :
    (kind : RegistrarKind) → (registrarOperations settings kind).Local → Prop
  | .process, l => ProcessHolds trace l
  | .approve, .transact approval cost => cost.costAmount ≤ approval.request.costCeiling
  | _, _ => True

/-- **The registrations and the trace agree.** -/
structure RegistrationsTraced (db : Database) (trace : List RegistrarEvent) : Prop where
  approved : ∀ id operation, db.registrarOperations.get? id = some operation →
    ∃ cost, .approved id cost ∈ trace ∧ cost.costAmount ≤ operation.costCeiling
  sent : ∀ operationId domainId, .called operationId domainId .register ∈ trace →
    RegisteredWithin trace operationId domainId

variable {trace trace' : List RegistrarEvent}
variable {l : ProcessState} {kind : RegistrarKind} {domainId operationId : RowId}

variable {ceiling : ℤ} {l' : ProcessState} {operation : RegistrarOperation}

theorem ClaimTraced.append {later events noted : List RegistrarEvent}
    (h : ClaimTraced trace operationId domainId ceiling later) (hnoted : noted.Sublist events) :
    ClaimTraced (trace ++ events) operationId domainId ceiling (later ++ noted) := by
  obtain ⟨cost, claimDb, hcost, hpaid, hsublist⟩ := h
  exact ⟨cost, claimDb, hcost, hpaid, hsublist.append hnoted⟩

theorem ClaimTraced.mono {later : List RegistrarEvent}
    (h : ClaimTraced trace operationId domainId ceiling later) (htrace : trace.Sublist trace') :
    ClaimTraced trace' operationId domainId ceiling later := by
  obtain ⟨cost, claimDb, hcost, hpaid, hsublist⟩ := h
  exact ⟨cost, claimDb, hcost, hpaid, hsublist.trans htrace⟩

theorem RegisteredWithin.mono
    (h : RegisteredWithin trace operationId domainId) (htrace : trace.Sublist trace') :
    RegisteredWithin trace' operationId domainId := by
  obtain ⟨ceiling, first, second, hpos, hfirst, hsecond, hclaim⟩ := h
  exact ⟨ceiling, first, second, hpos, hfirst, hsecond, hclaim.mono htrace⟩

theorem ProcessHolds.mono (h : ProcessHolds trace l)
    (htrace : trace.Sublist trace') : ProcessHolds trace' l := by
  cases l with
  | quoting job | searching job cost => exact ClaimTraced.mono h htrace
  | contacting job | requoting job =>
    obtain ⟨cost, hpos, hcost, hclaim⟩ := h
    exact ⟨cost, hpos, hcost, hclaim.mono htrace⟩
  | registering job =>
    obtain ⟨first, second, hpos, hfirst, hsecond, hclaim⟩ := h
    exact ⟨first, second, hpos, hfirst, hsecond, hclaim.mono htrace⟩
  | locate _ | prepare _ | observing _ | recording _ _ | done => trivial

theorem RegistrationThread.mono
    {l : (registrarOperations settings kind).Local} (h : RegistrationThread settings trace kind l)
    (htrace : trace.Sublist trace') : RegistrationThread settings trace' kind l := by
  cases kind with
  | process => exact ProcessHolds.mono h htrace
  | approve =>
    cases l with
    | transact approval cost => exact h
    | check _ | quoting _ | done _ => trivial
  | createDomain | reconcile | createAction | execute | recoverContact | cancelUnsent | refresh
  | otherServices => trivial

/-! ## One step -/

theorem claimTraced_of_claim (hs : RegistrationsTraced db trace)
    (hok : prepareTransaction settings operationId w.now db = .ok (db', some (job, true))) :
    ClaimTraced (trace ++ processEvents settings w db (.prepare operationId))
      job.intent.operationId job.domainId job.intent.costCeiling [] := by
  have hevents : processEvents settings w db (.prepare operationId) = [.claimed operationId db] := by
    simp only [processEvents, hok]
  cases prepareTransaction_eq_ok hok with
  | @claimed p order evidence hp hunclaimed heligible _ _ _ =>
    obtain ⟨cost, happroved, hcost⟩ := hs.approved operationId p.operation hp.operation
    rw [hevents, hp.jobOperation, hp.jobDomain, hp.jobCeiling]
    refine ⟨cost, db, hcost, ⟨⟨p.operation, hp.operation, rfl, rfl, hunclaimed⟩, ?_⟩, ?_⟩
    · simp only [eligible, Bool.and_eq_true] at heligible
      exact ⟨p.domain, p.invoiceId, hp.domain, hp.invoice, heligible.2⟩
    · exact (List.singleton_sublist.2 happroved).append (List.Sublist.refl _)

theorem processHolds_step (hs : RegistrationsTraced db trace) (ht : ProcessHolds trace l)
    (h : processStep settings w db l = some (db', l')) :
    ProcessHolds (trace ++ processEvents settings w db l) l' := by
  cases l with
  | locate operationId =>
    simp only [processStep] at h
    split at h
    · cases h; trivial
    · split at h <;> (cases h; trivial)
  | prepare operationId =>
    simp only [processStep] at h
    split at h
    · rename_i job hresult
      cases h
      exact claimTraced_of_claim hs (atomically_snd hresult)
    · cases h; trivial
    · cases h; trivial
    · cases h; trivial
  | quoting job =>
    simp only [processStep, uncertain] at h
    split at h
    · rename_i cost hquote
      cases h
      have hevents : processEvents settings w db (.quoting job) =
          [Job.called job .quote, .quoted job.intent.operationId cost] := by
        simp only [processEvents, hquote, quotedEvents]
      rw [hevents]
      exact ht.append (List.sublist_cons_self _ _)
    · cases h; trivial
  | searching job cost =>
    simp only [processStep, uncertain] at h
    split at h
    · split at h
      · rename_i hdispatchable
        cases h
        obtain ⟨-, -, -, -, hceiling, hpos⟩ := hdispatchable
        exact ⟨cost, hpos, hceiling, ht.mono (List.sublist_append_left _ _)⟩
      · cases h; trivial
    · cases h; trivial
  | contacting job =>
    simp only [processStep, uncertain] at h
    split at h
    · cases h
      obtain ⟨cost, hpos, hcost, hclaim⟩ := ht
      exact ⟨cost, hpos, hcost, hclaim.mono (List.sublist_append_left _ _)⟩
    · cases h; trivial
  | requoting job =>
    simp only [processStep, uncertain] at h
    split at h
    · rename_i second hquote
      split at h
      · rename_i hregistrable
        cases h
        obtain ⟨first, hpos, hfirst, hclaim⟩ := ht
        have hevents : processEvents settings w db (.requoting job) =
            [Job.called job .quote, .quoted job.intent.operationId second] := by
          simp only [processEvents, hquote, quotedEvents]
        rw [hevents]
        exact ⟨first, second, hpos, hfirst, hregistrable.2.2,
          hclaim.append (List.sublist_cons_self _ _)⟩
      · cases h; trivial
    · cases h; trivial
  | registering job | observing job =>
    simp only [processStep, uncertain] at h
    split at h <;> (cases h; trivial)
  | recording job observation =>
    simp only [processStep] at h
    cases h; trivial
  | done => cases h

theorem registrationThread_step
    {l l' : (registrarOperations settings kind).Local} (hs : RegistrationsTraced db trace)
    (ht : RegistrationThread settings trace kind l)
    (h : (registrarOperations settings kind).step w db l = some (db', l')) :
    RegistrationThread settings (trace ++ registrarEvents settings kind w db l) kind l' := by
  cases kind with
  | process => exact processHolds_step hs ht h
  | approve =>
    cases l with
    | check request =>
      simp only [registrarOperations, approve, approveStep] at h
      split at h <;> (cases h; trivial)
    | quoting approval =>
      simp only [registrarOperations, approve, approveStep] at h
      split at h
      · split at h
        · rename_i happrovable
          cases h
          exact happrovable.2
        · cases h; trivial
      · cases h; trivial
    | transact approval cost =>
      cases h; trivial
    | done result => cases h
  | createDomain | reconcile | createAction | execute | recoverContact | cancelUnsent | refresh
  | otherServices => trivial

theorem approved_step {l : (registrarOperations settings kind).Local}
    (hs : RegistrationsTraced db trace) (ht : RegistrationThread settings trace kind l)
    (h : RegistrarWrites settings w db kind l db') {id : RowId}
    (hoperation : db'.registrarOperations.get? id = some operation) :
    ∃ cost, .approved id cost ∈ trace ++ registrarEvents settings kind w db l ∧
      cost.costAmount ≤ operation.costCeiling := by
  rcases h.operation_cases hoperation with ⟨before, hbefore, hmoves⟩ | hnone
  · obtain ⟨cost, happroved, hcost⟩ := hs.approved id before hbefore
    refine ⟨cost, List.mem_append_left _ happroved, ?_⟩
    rw [hmoves.approval.costCeiling]
    exact hcost
  · cases h with
    | @approved approval cost _ operationId operation' hok happroved =>
      have hevents : registrarEvents settings .approve w db (ApproveState.transact approval cost) =
          [.approved operationId cost] := by
        simp only [registrarEvents, approveEvents, hok]
      rcases happroved.operations with ⟨-, hsame⟩ | ⟨hid, -, hinsert⟩
      · rw [hsame, hnone] at hoperation
        cases hoperation
      · rw [hinsert] at hoperation
        rcases get?_insert_cases hoperation with ⟨hid', rfl⟩ | hold
        · refine ⟨cost, ?_, ?_⟩
          · rw [hevents, hid', ← hid]
            exact List.mem_append_right _ (List.mem_singleton_self _)
          · rw [happroved.costCeiling]
            exact ht
        · rw [hnone] at hold
          cases hold
    | quiet _ _ htables | domainCreated _ htables | returned _ _ htables
    | actionCreated _ _ _ _ htables | actionClaimed _ _ _ _ _ _ _ _ htables
    | contactStored _ _ _ htables | contactRecovered _ _ _ htables | succeeded _ _ _ htables =>
      rw [htables.operations, hnone] at hoperation
      cases hoperation
    | polled _ _ htables | claimed _ _ _ _ _ _ _ htables | recorded _ _ _ htables =>
      rw [htables.operations, get?_update, hnone] at hoperation
      split at hoperation <;> cases hoperation

theorem registrationsTraced_step
    {l l' : (registrarOperations settings kind).Local} (hs : RegistrationsTraced db trace)
    (ht : RegistrationThread settings trace kind l)
    (h : (registrarOperations settings kind).step w db l = some (db', l')) :
    RegistrationsTraced db' (trace ++ registrarEvents settings kind w db l) where
  approved id operation hoperation := approved_step hs ht
    (registrarWrites_of_step kind h) hoperation
  sent operationId domainId hsent := by
    rcases List.mem_append.1 hsent with hold | hnew
    · exact (hs.sent operationId domainId hold).mono (List.sublist_append_left _ _)
    · have hregisters :
          registers (fun _ _ => true) (.called operationId domainId .register) = true := rfl
      obtain ⟨job, -, heq⟩ := registering_of_event hnew hregisters
      cases heq
      have hcalled : RegistrarEvent.called operationId domainId .register =
          .called job.intent.operationId job.domainId .register := List.mem_singleton.1 hnew
      cases hcalled
      obtain ⟨first, second, hpos, hfirst, hsecond, hclaim⟩ := ht
      exact ⟨job.intent.costCeiling, first, second, hpos, hfirst, hsecond,
        hclaim.append (List.Sublist.refl _)⟩

/-! ## Deliveries that only look up -/

/-- A delivery that finds the registration claimed, or that is past everything it may send. -/
def LooksUpOnly (db : Database) (operationId : RowId) : ProcessState → Prop
  | .locate id => id = operationId ∧
      ∃ operation, db.registrarOperations.get? operationId = some operation ∧
        operation.claimedAt.isSome
  | .prepare id => id = operationId ∧
      ∃ operation, db.registrarOperations.get? operationId = some operation ∧
        operation.claimedAt.isSome
  | .observing job => job.intent.operationId = operationId
  | .recording job _ => job.intent.operationId = operationId
  | .done => True
  | _ => False

theorem LooksUpOnly.mono (h : LooksUpOnly db operationId l)
    (hgrow : db.registrarOperations.Grows RegistrarOperation.Moves db'.registrarOperations) :
    LooksUpOnly db' operationId l := by
  have hclaimed (h : ∃ operation, db.registrarOperations.get? operationId = some operation ∧
      operation.claimedAt.isSome) : ∃ operation,
        db'.registrarOperations.get? operationId = some operation ∧ operation.claimedAt.isSome := by
    obtain ⟨operation, hoperation, hclaimed⟩ := h
    obtain ⟨after, hafter, hmoves⟩ := hgrow operationId operation hoperation
    exact ⟨after, hafter, by rw [hmoves.claim hclaimed]; exact hclaimed⟩
  cases l with
  | locate _ | prepare _ => exact ⟨h.1, hclaimed h.2⟩
  | observing _ | recording _ _ => exact h
  | done => trivial
  | quoting _ | searching _ _ | contacting _ | requoting _ | registering _ => exact h.elim

theorem prepare_of_claimed {operationId now : ℕ} {r : Option (Job × Bool)}
    (hoperation : db.registrarOperations.get? operationId = some operation)
    (hclaimed : operation.claimedAt.isSome)
    (hok : prepareTransaction settings operationId now db = .ok (db', r)) :
    ∃ job : Job, job.intent.operationId = operationId ∧ r = some (job, false) := by
  have hno {p : Prepared} (hp : p.Of operationId db) (hunclaimed : p.operation.claimedAt = none) :
      False := by
    have hsame := hp.operation
    rw [hoperation, Option.some.injEq] at hsame
    rw [hsame, hunclaimed] at hclaimed
    exact Bool.false_ne_true hclaimed
  cases prepareTransaction_eq_ok hok with
  | polled hp _ _ => exact ⟨_, hp.jobOperation, rfl⟩
  | ineligible hp hunclaimed | claimed hp hunclaimed _ _ _ _ => exact (hno hp hunclaimed).elim

theorem looksUpOnly_step (hl : LooksUpOnly db operationId l)
    (h : processStep settings w db l = some (db', l')) :
    LooksUpOnly db' operationId l' ∧ ∀ event ∈ processEvents settings w db l,
      ∃ domainId, event = .called operationId domainId .lookup := by
  cases l with
  | locate id =>
    refine ⟨?_, by rintro _ ⟨⟩⟩
    simp only [processStep] at h
    split at h
    · cases h; trivial
    · split at h
      · cases h; trivial
      · cases h; exact hl
  | prepare id =>
    obtain ⟨rfl, operation, hoperation, hclaimed⟩ := hl
    simp only [processStep] at h
    split at h
    · rename_i job hresult
      obtain ⟨_, -, hjob⟩ := prepare_of_claimed hoperation hclaimed (atomically_snd hresult)
      cases hjob
    · rename_i job hresult
      have hok := atomically_snd hresult
      obtain ⟨_, hid, hjob⟩ := prepare_of_claimed hoperation hclaimed hok
      cases hjob
      cases h
      refine ⟨hid, ?_⟩
      simp only [processEvents, hok]
      rintro _ ⟨⟩
    · rename_i hresult
      obtain ⟨_, -, hjob⟩ := prepare_of_claimed hoperation hclaimed (atomically_snd hresult)
      cases hjob
    · rename_i e hresult
      cases h
      refine ⟨trivial, fun event hevent => ?_⟩
      have hfailed : ∀ out, prepareTransaction settings id w.now db ≠ .ok out := by
        intro out hok
        rw [atomically, hok] at hresult
        cases hresult
      simp only [processEvents] at hevent
      split at hevent
      · rename_i hok
        exact (hfailed _ hok).elim
      · cases hevent
  | observing job =>
    refine ⟨?_, fun event hevent => ?_⟩
    · simp only [processStep] at h
      split at h
      · cases h; exact hl
      · cases h; trivial
    · have hid : job.intent.operationId = operationId := hl
      have heq := List.mem_singleton.1 hevent
      rw [heq, Job.called, hid]
      exact ⟨job.domainId, rfl⟩
  | recording job observation =>
    refine ⟨?_, by rintro _ ⟨⟩⟩
    simp only [processStep] at h
    cases h; trivial
  | done => cases h
  | quoting _ | searching _ _ | contacting _ | requoting _ | registering _ => exact hl.elim

/-! ## Runs -/

def registrationsOutline (settings : RegistrarSettings) : Outline (tracedRegistrar settings) where
  shared s := RegistrationsTraced s.1 s.2
  thread s t := RegistrationThread settings s.2 t.op t.loc

theorem registrationsOutline_sound : (registrationsOutline settings).Sound anyStep where
  symm _ _ h := h
  call _ op _ _ := by
    cases op <;> trivial
  call_apart _ _ _ := trivial
  own w s t s' t' _ hs ht hmove := by
    obtain ⟨l, hstep, htrace, rfl⟩ := Thread.traced_step hmove
    have hshared := registrationsTraced_step hs ht hstep
    have hthread := registrationThread_step hs ht hstep
    rw [← htrace] at hshared hthread
    exact ⟨hshared, hthread⟩
  other w s t s' t' u _ _ _ hu _ hstep := by
    obtain ⟨l, hstep, htrace, rfl⟩ := Thread.traced_step hstep
    have hsublist : s.2.Sublist s'.2 := by
      rw [htrace]
      exact List.sublist_append_left _ _
    exact ⟨RegistrationThread.mono hu hsublist, trivial⟩

def threadEvents (settings : RegistrarSettings) (w : World) (s : Database × List RegistrarEvent)
    (t : Thread (tracedRegistrar settings)) : List RegistrarEvent :=
  registrarEvents settings t.op w s.1 t.loc

def DeliveryLooksUp (settings : RegistrarSettings) (operationId : RowId)
    (s : Database × List RegistrarEvent) (t : Thread (tracedRegistrar settings)) : Prop :=
  ∃ l : ProcessState, t = ⟨.process, l⟩ ∧ LooksUpOnly s.1 operationId l

theorem lookups_of_delivery {k : ℕ} {c c' : Config (tracedRegistrar settings)}
    {ms : List (Move (tracedRegistrar settings))} (hrun : c.run ms = some c')
    {t : Thread (tracedRegistrar settings)} (ht : c.threads[k]? = some t)
    (hlooks : DeliveryLooksUp settings operationId c.shared t) :
    ∀ event ∈ c.recordOf (threadEvents settings) k ms,
      ∃ domainId, event = .called operationId domainId .lookup := by
  refine forall_mem_recordOf (J := DeliveryLooksUp settings operationId) ?_ ?_ hrun ht hlooks
  · rintro w s t s' t' ⟨l, rfl, hl⟩ hmove
    obtain ⟨l', hstep, -, rfl⟩ := Thread.traced_step hmove
    obtain ⟨hnext, hevents⟩ := looksUpOnly_step hl hstep
    exact ⟨⟨l', rfl, hnext⟩, hevents⟩
  · rintro w s t s' t' u ⟨l, rfl, hl⟩ hmove
    obtain ⟨l', hstep, -, -⟩ := Thread.traced_step hmove
    exact ⟨l, rfl, hl.mono (registrarWrites_of_step t.op hstep).operations_grow⟩

/-- **A domain is registered at most once.**  In every interleaving of deliveries with everything
else that runs, wherever they stop and whatever the registrar answers, at most one registration is
sent for an operation and at most one for a domain.  A registration that was sent was claimed before
while its invoice was verified as paid, after an approval and before two quotes of a cost within the
approved ceiling.  And a delivery that finds the claim, or has sent the registration, makes no other
calls than lookups. -/
theorem domain_registered_once (hnone : db.registrarOperations = ∅)
    {c : Config (tracedRegistrar settings)}
    (hr : Reaches anyStep ⟨(db, []), []⟩ c) :
    (∀ operationId, c.shared.2.countP (registers fun id _ => id == operationId) ≤ 1) ∧
      (∀ domainId, c.shared.2.countP (registers fun _ id => id == domainId) ≤ 1) ∧
      (∀ operationId domainId, .called operationId domainId .register ∈ c.shared.2 →
        RegisteredWithin c.shared.2 operationId domainId) ∧
      ∀ k operationId (l : ProcessState), c.threads[k]? = some ⟨.process, l⟩ →
        LooksUpOnly c.shared.1 operationId l → ∀ ms c', c.run ms = some c' →
          ∀ event ∈ c.recordOf (threadEvents settings) k ms,
            ∃ domainId, event = .called operationId domainId .lookup := by
  have hsound : RegistrationsSound db := by
    refine ⟨fun id operation h => ?_, fun i j a b h _ _ => ?_⟩
    · rw [hnone] at h
      exact absurd h get?_empty_ne
    · rw [hnone] at h
      exact absurd h get?_empty_ne
  have hinit : (registrationsOutline settings).shared (db, []) := by
    refine ⟨fun id operation h => ?_, nofun⟩
    rw [hnone] at h
    exact absurd h get?_empty_ne
  have htraced := (registrationsOutline_sound.holds (Outline.holds_idle hinit) hr).shared
  refine ⟨fun operationId => ?_, fun domainId => ?_, htraced.sent, ?_⟩
  · exact ((registrationPermit_sound (distinguishes_operation operationId)).once hsound hr).1
  · exact ((registrationPermit_sound (distinguishes_domain domainId)).once hsound hr).1
  · intro k operationId l ht hlooks ms c' hrun
    exact lookups_of_delivery hrun ht ⟨l, rfl, hlooks⟩

end

/-! ### A registration whose answer is lost -/

abbrev tracedLiveRegistrar : RegistrarKind → Operation (Database × List RegistrarEvent) World :=
  tracedRegistrar ⟨false, true⟩

/-- The registration is approved, claimed and sent; then the job is delivered once more. -/
def sendRegistration : List (Move tracedLiveRegistrar) :=
  [.call .approve registrationApproval, .advance 0 {}, .advance 0 nameIsFree, .advance 0 {},
    .call .process (0 : RowId), .advance 1 {}, .advance 1 {}, .advance 1 nameIsFree,
    .advance 1 nameIsFree, .advance 1 nameIsFree, .advance 1 nameIsFree, .advance 1 {},
    .call .process (0 : RowId)]

def lookRegistrationUp : List (Move tracedLiveRegistrar) :=
  [.advance 2 {}, .advance 2 { now := 360000 }, .advance 2 nameIsFree, .advance 2 {}]

def sentConfig : Config tracedLiveRegistrar :=
  Config.after ⟨(paidDomain, []), []⟩ sendRegistration (by decide +kernel)

theorem sent_config_looks_up : LooksUpOnly sentConfig.shared.1 0 (.locate 0) := by
  refine ⟨rfl, {
    domainId := 0, claimedAt := some 0, nextPollAt := 360000, pollCount := 1, accountId := 0
    credentialId := 0, actorUserId := 0, costCeiling := 12, priceChangeRiskAccepted := true }, ?_,
    rfl⟩
  decide +kernel

/-- One registration was sent, after its claim, and the second delivery only looked it up. -/
theorem lost_answer_looked_up :
    sentConfig.shared.2.countP (registers fun id _ => id == 0) ≤ 1 ∧
      RegisteredWithin sentConfig.shared.2 0 0 ∧
      ∀ event ∈ sentConfig.recordOf (threadEvents ⟨false, true⟩) 2 lookRegistrationUp,
        ∃ domainId, event = .called 0 domainId .lookup := by
  have honce := @domain_registered_once ⟨false, true⟩ paidDomain rfl _
    (reaches_anyStep_of_run (run_eq_after (show (Config.run
      ⟨(paidDomain, []), []⟩ sendRegistration).isSome = true by decide +kernel)))
  refine ⟨honce.1 0, honce.2.2.1 0 0 (by decide +kernel), ?_⟩
  have hrun : (sentConfig.run lookRegistrationUp).isSome = true := by decide +kernel
  refine honce.2.2.2 2 0 (.locate 0) ?_ sent_config_looks_up lookRegistrationUp _
    (run_eq_after hrun)
  rfl

end WebhostBilling
