import WebhostBilling.Concurrency.Permits
import WebhostBilling.Registrar.DomainLifecycleService

/-!
# The operations on registrars

Domains, registrations and domain actions are written by the operations of this family and by
nothing else; `otherServices` stands for all the rest of the application.  `RegistrarEvent` is what
a step notes, and `RegistrarWrites` what one step can write to the three tables.
-/

namespace WebhostBilling

open Store Store.Table Concurrency RegistrarProcessor DomainService DomainLifecycleService

/-! ## The family -/

inductive OtherServicesState
  | write (tables : Database)
  | done

/-- Everything else that uses the database: it may leave any content in the tables that are not the
registrar's. -/
def otherServices : Operation Database World where
  Request := Database
  Local := OtherServicesState
  start := .write
  step _ db
    | .write tables => some ({ tables with
        domains := db.domains
        registrarOperations := db.registrarOperations
        domainActions := db.domainActions }, .done)
    | .done => none

inductive RegistrarKind
  | createDomain
  | approve
  | reconcile
  | process
  | createAction
  | execute
  | recoverContact
  | cancelUnsent
  | refresh
  | otherServices

variable (settings : RegistrarSettings) (w : World)

def registrarOperations : RegistrarKind → Operation Database World
  | .createDomain => DomainService.createDomain
  | .approve => approve settings
  | .reconcile => reconcile settings
  | .process => process settings
  | .createAction => create settings
  | .execute => execute settings
  | .recoverContact => recoverContact settings
  | .cancelUnsent => cancelUnsent
  | .refresh => refresh settings
  | .otherServices => otherServices

/-! ## What a step notes -/

/-- A call that `process` makes to a registrar. -/
inductive RegistrarCall
  | quote
  | lookup
  | ensureContacts
  | register
deriving DecidableEq

/-- What a step asks of the registrar, or decides about it. -/
inductive RegistrarEvent
  | approved (operationId : RowId) (cost : RegistrarQuote)
  | claimed (operationId : RowId) (database : Database)
  | called (operationId domainId : RowId) (call : RegistrarCall)
  | quoted (operationId : RowId) (cost : RegistrarQuote)
  | actionClaimed (actionId : RowId)
  | contactCreationSent (actionId : RowId)
  | contactVerified (actionId : RowId) (contactId : String)
  | mutationSent (actionId : RowId)
  /-- The domain was read for an action, after everything that its execution had sent. -/
  | observed (actionId : RowId) (state : ResellbizManagedState)
deriving DecidableEq

def quotedEvents (job : Job) : Except RegistrarError RegistrarQuote → List RegistrarEvent
  | .ok cost => [.quoted job.intent.operationId cost]
  | .error _ => []

def Job.called (job : Job) (call : RegistrarCall) : RegistrarEvent :=
  .called job.intent.operationId job.domainId call

def approveEvents (db : Database) :
    ApproveState → List RegistrarEvent
  | .transact approval cost =>
    match approveTransaction settings approval w.now db with
    | .ok (_, operationId) => [.approved operationId cost]
    | .error _ => []
  | _ => []

def processEvents (db : Database) :
    ProcessState → List RegistrarEvent
  | .prepare operationId =>
    match prepareTransaction settings operationId w.now db with
    | .ok (_, some (_, true)) => [.claimed operationId db]
    | _ => []
  | .quoting job => Job.called job .quote :: quotedEvents job w.registrarQuote
  | .searching job _ => [Job.called job .lookup]
  | .contacting job => [Job.called job .ensureContacts]
  | .requoting job => Job.called job .quote :: quotedEvents job w.registrarQuote
  | .registering job => [Job.called job .register]
  | .observing job => [Job.called job .lookup]
  | _ => []

def claimEvents (run : ExecuteRun) (now : ℕ) (db : Database) : List RegistrarEvent :=
  match claimTransaction run now db with
  | .ok (_, some _) =>
    if (db.domainActions.get? run.input.actionId).any (·.claimedAt = none) then
      [.actionClaimed run.input.actionId]
    else []
  | _ => []

def executeEvents (db : Database) : ExecuteState → List RegistrarEvent
  | .claiming run => claimEvents run w.now db
  | .addingContact run => [.contactCreationSent run.input.actionId]
  | .verifyingContact run contactId =>
    match w.registrarCall with
    | .ok () => [.contactVerified run.input.actionId contactId]
    | .error _ => []
  | .submitting run => [.mutationSent run.input.actionId]
  | .observing run =>
    match w.registrarManagement with
    | .ok state => [.observed run.input.actionId state]
    | .error _ => []
  | _ => []

def recoverContactEvents : RecoverContactState → List RegistrarEvent
  | .verifying input =>
    match w.registrarCall with
    | .ok () => [.contactVerified input.actionId input.contactId]
    | .error _ => []
  | _ => []

def registrarEvents :
    (kind : RegistrarKind) → World → Database → (registrarOperations settings kind).Local →
      List RegistrarEvent
  | .approve, w, db, l => approveEvents settings w db l
  | .process, w, db, l => processEvents settings w db l
  | .execute, w, db, l => executeEvents w db l
  | .recoverContact, w, _, l => recoverContactEvents w l
  | .createDomain, _, _, _ => []
  | .reconcile, _, _, _ => []
  | .createAction, _, _, _ => []
  | .cancelUnsent, _, _, _ => []
  | .refresh, _, _, _ => []
  | .otherServices, _, _, _ => []

abbrev tracedRegistrar :=
  tracedFamily (registrarOperations settings) (registrarEvents settings)

/-! ## What a step writes -/

/-- The three tables as a step leaves them. -/
structure RegistrarTables (db' : Database) (domains : Table Domain)
    (operations : Table RegistrarOperation) (actions : Table DomainAction) : Prop where
  domains : db'.domains = domains
  operations : db'.registrarOperations = operations
  actions : db'.domainActions = actions

/-- The answer of the registrar that a step writes to a domain. -/
def heldAnswer : (kind : RegistrarKind) → (registrarOperations settings kind).Local →
    Option (RowId × ResellbizManagedState)
  | .refresh, RefreshState.writing input observed => some (input.domainId, observed)
  | .execute, ExecuteState.finishing run observed _ => some (run.input.domainId, observed)
  | _, _ => none

def DomainsKept (answer : Option (RowId × ResellbizManagedState)) (domains domains' : Table Domain) :
    Prop :=
  domains' = domains ∨ ∃ entry ∈ answer,
    domains' = domains.update entry.1 (observedDomain entry.2)

/-- A write to an action that claims nothing, stores no contact and confirms nothing. -/
structure QuietMove (action action' : DomainAction) : Prop where
  moves : action.Moves action'
  checked : action'.Checked
  claim : action'.claimedAt = action.claimedAt
  remoteContact : action'.remoteContactId = action.remoteContactId
  succeeded : action'.state = .succeeded → action.state = .succeeded

def ActionsMoved (actions actions' : Table DomainAction) : Prop :=
  actions' = actions ∨ ∃ id action f, actions.get? id = some action ∧
    QuietMove action (f action) ∧ actions' = actions.update id f

/-- **What one step can write to the registrar's tables.** -/
inductive RegistrarWrites (w : World) (db : Database) :
    (kind : RegistrarKind) → (registrarOperations settings kind).Local → Database → Prop
  | quiet {kind : RegistrarKind} {l : (registrarOperations settings kind).Local} {db' : Database}
      {domains : Table Domain} {actions : Table DomainAction}
      (hdomains : DomainsKept (heldAnswer settings kind l) db.domains domains)
      (hactions : ActionsMoved db.domainActions actions)
      (htables : RegistrarTables db' domains db.registrarOperations actions) :
      RegistrarWrites w db kind l db'
  | domainCreated {input : NewDomain} {db' : Database} {row : Domain}
      (hname : ∀ id domain, db.domains.get? id = some domain → domain.domainName ≠ row.domainName)
      (htables : RegistrarTables db' (db.domains.insert row) db.registrarOperations
        db.domainActions) :
      RegistrarWrites w db .createDomain (CreateDomainState.transact input) db'
  | approved {approval : Approval} {cost : RegistrarQuote} {db' : Database} {operationId : RowId}
      {operation : RegistrarOperation}
      (hok : approveTransaction settings approval w.now db = .ok (db', operationId))
      (happroved : Approved approval w.now db db' operationId operation) :
      RegistrarWrites w db .approve (ApproveState.transact approval cost) db'
  | returned {db' : Database} {operationId : RowId} {p : Prepared} (hp : p.Of operationId db)
      (hunclaimed : p.operation.claimedAt = none)
      (htables : RegistrarTables db'
        (db.domains.update p.operation.domainId (inState .awaitingApproval))
        db.registrarOperations db.domainActions) :
      RegistrarWrites w db .process (ProcessState.prepare operationId) db'
  | polled {db' : Database} {operationId now : ℕ} {p : Prepared} (hp : p.Of operationId db)
      (hmoves : p.operation.Moves (reservePoll p.operation.claimedAt now p.operation))
      (htables : RegistrarTables db' db.domains (db.registrarOperations.update operationId
        (reservePoll p.operation.claimedAt now)) db.domainActions) :
      RegistrarWrites w db .process (ProcessState.prepare operationId) db'
  | claimed {db' : Database} {operationId : RowId} {p : Prepared} {order : Order}
      (hok : prepareTransaction settings operationId w.now db = .ok (db', some (p.job, true)))
      (hp : p.Of operationId db) (hunclaimed : p.operation.claimedAt = none)
      (heligible : eligible p order db = true)
      (hactions : db.actionOutstanding p.operation.effectiveAccount none = false)
      (hregistrations :
        db.registrationOutstanding p.operation.effectiveAccount (some operationId) = false)
      (hmoves : p.operation.Moves (reservePoll (some w.now) w.now p.operation))
      (htables : RegistrarTables db'
        (db.domains.update p.operation.domainId (inState .needsReconciliation))
        (db.registrarOperations.update operationId (reservePoll (some w.now) w.now))
        db.domainActions) :
      RegistrarWrites w db .process (ProcessState.prepare operationId) db'
  | recorded {db' : Database} {job : Job} {observation found : Option RegistrarObservation}
      {now : ℕ} {domain : Domain} {operation : RegistrarOperation}
      (hdomain : db.domains.get? job.domainId = some domain)
      (hunresolved : ¬ domain.state.resolved)
      (hoperation : db.registrarOperations.get? job.intent.operationId = some operation)
      (htables : RegistrarTables db' (db.domains.update job.domainId (recordedDomain found))
        (db.registrarOperations.update job.intent.operationId (nextPoll now)) db.domainActions) :
      RegistrarWrites w db .process (ProcessState.recording job observation) db'
  | actionCreated {kind : RegistrarKind} {l : (registrarOperations settings kind).Local}
      {db' : Database} {row : DomainAction} (hrequested : row.state = .requested)
      (hunclaimed : row.claimedAt = none) (hremote : row.remoteContactId = none)
      (hchecked : row.Checked)
      (htables : RegistrarTables db' db.domains db.registrarOperations
        (db.domainActions.insert row)) : RegistrarWrites w db kind l db'
  | actionClaimed {db' : Database} {run : ExecuteRun} {action : DomainAction}
      (hok : claimTransaction run w.now db = .ok (db', some true))
      (haction : db.domainActions.get? run.input.actionId = some action)
      (hopen : ¬ action.state.terminal) (hunclaimed : action.claimedAt = none)
      (hactions : db.actionOutstanding action.accountId (some run.input.actionId) = false)
      (hregistrations : db.registrationOutstanding action.accountId none = false)
      (hmoves : action.Moves (reserve (some w.now) w.now action))
      (hchecked : (reserve (some w.now) w.now action).Checked)
      (htables : RegistrarTables db' db.domains db.registrarOperations
        (db.domainActions.update run.input.actionId (reserve (some w.now) w.now))) :
      RegistrarWrites w db .execute (ExecuteState.claiming run) db'
  | contactStored {db' : Database} {run : ExecuteRun} {contactId : String} {action : DomainAction}
      (haction : db.domainActions.get? run.input.actionId = some action)
      (hmoves : action.Moves (storeContact contactId action))
      (hchecked : (storeContact contactId action).Checked)
      (htables : RegistrarTables db' db.domains db.registrarOperations
        (db.domainActions.update run.input.actionId (storeContact contactId))) :
      RegistrarWrites w db .execute (ExecuteState.storingContact run contactId) db'
  | contactRecovered {db' : Database} {input : RecoverContactRequest} {action : DomainAction}
      (haction : db.domainActions.get? input.actionId = some action)
      (hmoves : action.Moves (storeContact input.contactId action))
      (hchecked : (storeContact input.contactId action).Checked)
      (htables : RegistrarTables db' db.domains db.registrarOperations
        (db.domainActions.update input.actionId (storeContact input.contactId))) :
      RegistrarWrites w db .recoverContact (RecoverContactState.storing input) db'
  | succeeded {db' : Database} {run : ExecuteRun} {observed : ResellbizManagedState}
      {action : DomainAction}
      (haction : db.domainActions.get? run.input.actionId = some action)
      (hmoves : action.Moves (withState .succeeded action))
      (hchecked : (withState .succeeded action).Checked)
      (htables : RegistrarTables db'
        (db.domains.update run.input.domainId (observedDomain observed)) db.registrarOperations
        (db.domainActions.update run.input.actionId (withState .succeeded))) :
      RegistrarWrites w db .execute (ExecuteState.finishing run observed true) db'

variable {settings}

namespace RegistrarWrites

variable {w} {db db' : Database} {kind : RegistrarKind}
  {l : (registrarOperations settings kind).Local}

theorem same : RegistrarWrites settings w db kind l db :=
  .quiet (.inl rfl) (.inl rfl) ⟨rfl, rfl, rfl⟩

theorem elsewhere (h : RegistrarTables db' db.domains db.registrarOperations db.domainActions) :
    RegistrarWrites settings w db kind l db' :=
  .quiet (.inl rfl) (.inl rfl) h

theorem actionMoved {id : RowId} {action : DomainAction} {f : DomainAction → DomainAction}
    (haction : db.domainActions.get? id = some action) (hmove : QuietMove action (f action))
    (htables : RegistrarTables db' db.domains db.registrarOperations
      (db.domainActions.update id f)) : RegistrarWrites settings w db kind l db' :=
  .quiet (.inl rfl) (.inr ⟨id, action, f, haction, hmove, rfl⟩) htables

theorem of_atomically {ε α : Type} (tx : Transaction Database ε α)
    (hok : ∀ db' a, tx db = .ok (db', a) → RegistrarWrites settings w db kind l db') :
    RegistrarWrites settings w db kind l (atomically tx db).1 := by
  rcases atomically_fst tx db with hsame | ⟨a, ha⟩
  · rw [hsame]
    exact .same
  · exact hok _ a ha

end RegistrarWrites

/-! ## Every step is one of these writes -/

section

variable {w} {db db' : Database}

theorem writes_of_process {l l' : ProcessState}
    (h : processStep settings w db l = some (db', l')) :
    RegistrarWrites settings w db .process l db' := by
  cases l with
  | locate operationId =>
    simp only [processStep] at h
    split at h
    · cases h; exact .same
    · split at h <;> (cases h; exact .same)
  | prepare operationId =>
    have hwrites : RegistrarWrites settings w db .process (ProcessState.prepare operationId)
        (atomically (prepareTransaction settings operationId w.now) db).1 := by
      refine .of_atomically _ fun db' r hok => ?_
      cases prepareTransaction_eq_ok hok with
      | polled hp hclaimed hmoves => exact .polled hp hmoves ⟨rfl, rfl, rfl⟩
      | ineligible hp hunclaimed => exact .returned hp hunclaimed ⟨rfl, rfl, rfl⟩
      | claimed hp hunclaimed heligible hactions hregistrations hmoves =>
        exact .claimed hok hp hunclaimed heligible hactions hregistrations hmoves ⟨rfl, rfl, rfl⟩
    simp only [processStep] at h
    split at h <;> (cases h; exact hwrites)
  | quoting job | contacting job | registering job =>
    simp only [processStep, uncertain] at h
    split at h <;> (cases h; exact .elsewhere ⟨rfl, rfl, rfl⟩)
  | searching job cost | requoting job =>
    simp only [processStep, uncertain] at h
    split at h
    · split at h <;> (cases h; exact .elsewhere ⟨rfl, rfl, rfl⟩)
    · cases h; exact .elsewhere ⟨rfl, rfl, rfl⟩
  | observing job =>
    simp only [processStep] at h
    split at h <;> (cases h; exact .elsewhere ⟨rfl, rfl, rfl⟩)
  | recording job observation =>
    cases h
    refine .of_atomically _ fun _ _ hok => ?_
    rcases recordTransaction_eq_ok hok with
      rfl | ⟨domain, operation, found, _, _, hdomain, hunresolved, hoperation, -, -, rfl⟩
    · exact .same
    · exact .recorded hdomain hunresolved hoperation ⟨rfl, rfl, rfl⟩
  | done => cases h

theorem writes_of_attempt {write : Except Failure Database} {next caught l l' : ExecuteState}
    (h : attempt w db write next caught = (db', l'))
    (hok : write = .ok db' → RegistrarWrites settings w db .execute l db') :
    RegistrarWrites settings w db .execute l db' := by
  rcases attempt_cases h with ⟨hwrite, -⟩ | ⟨rfl, -⟩
  · exact hok hwrite
  · exact .same

theorem writes_of_execute {l l' : ExecuteState}
    (h : executeStep settings w db l = some (db', l')) :
    RegistrarWrites settings w db .execute l db' := by
  cases l with
  | locate input =>
    simp only [executeStep] at h
    split at h
    · cases h; exact .same
    · split at h <;> (cases h; exact .same)
  | opening input located =>
    simp only [executeStep] at h
    split at h <;> (cases h; exact .same)
  | claiming run =>
    have hwrites : RegistrarWrites settings w db .execute (ExecuteState.claiming run)
        (atomically (claimTransaction run w.now) db).1 := by
      refine .of_atomically _ fun db' r hok => ?_
      cases claimTransaction_eq_ok hok with
      | finished haction hterminal => exact .same
      | polled haction hopen hclaimed hmoves hchecked =>
        exact .actionMoved haction ⟨hmoves, hchecked, rfl, rfl, nofun⟩ ⟨rfl, rfl, rfl⟩
      | claimed haction hopen hunclaimed hactions hregistrations hmoves hchecked =>
        exact .actionClaimed hok haction hopen hunclaimed hactions hregistrations hmoves hchecked
          ⟨rfl, rfl, rfl⟩
    simp only [executeStep] at h
    split at h <;> (cases h; exact hwrites)
  | claimingContact run =>
    rw [executeStep, Option.some.injEq] at h
    refine writes_of_attempt h fun hok => ?_
    obtain ⟨action, haction, hmoves, hchecked, rfl⟩ := db.updateDomainAction_eq_ok hok
    exact .actionMoved haction ⟨hmoves, hchecked, rfl, rfl, id⟩ ⟨rfl, rfl, rfl⟩
  | storingContact run contactId =>
    rw [executeStep, Option.some.injEq] at h
    refine writes_of_attempt h fun hok => ?_
    obtain ⟨action, haction, hmoves, hchecked, rfl⟩ := db.updateDomainAction_eq_ok hok
    exact .contactStored haction hmoves hchecked ⟨rfl, rfl, rfl⟩
  | claimingSubmission run =>
    rw [executeStep, Option.some.injEq] at h
    refine writes_of_attempt h fun hok => ?_
    obtain ⟨action, haction, -, -, hmoves, hchecked, rfl⟩ := claimSubmission_eq_ok hok
    exact .actionMoved haction ⟨hmoves, hchecked, rfl, rfl, id⟩ ⟨rfl, rfl, rfl⟩
  | pricing run =>
    simp only [executeStep] at h
    split at h
    · split at h <;> (cases h; exact .same)
    · cases h; exact .same
  | checkingUnsent run =>
    simp only [executeStep] at h
    split at h
    · cases h; exact .same
    · split at h <;> (cases h; exact .same)
  | reading _ _ | addingContact _ | verifyingContact _ _ | submitting _ | observing _
  | confirming _ _ =>
    simp only [executeStep] at h
    split at h <;> (cases h; exact .same)
  | failing run =>
    simp only [executeStep] at h
    cases h
    refine .of_atomically _ fun _ _ hok => ?_
    obtain ⟨action, haction, hmoves, hchecked, rfl⟩ := failTransaction_eq_ok hok
    exact .actionMoved haction ⟨hmoves, hchecked, rfl, rfl, nofun⟩ ⟨rfl, rfl, rfl⟩
  | finishing run observed confirmed =>
    simp only [executeStep] at h
    cases h
    refine .of_atomically _ fun _ _ hok => ?_
    rcases finishTransaction_eq_ok hok with
      rfl | ⟨domain, hget, ⟨-, rfl⟩ | ⟨rfl, action, haction, hmoves, hchecked, rfl⟩⟩
    · exact .same
    · exact .quiet (.inr ⟨_, rfl, rfl⟩) (.inl rfl)
        ⟨rfl, rfl, rfl⟩
    · exact .succeeded haction hmoves hchecked ⟨rfl, rfl, rfl⟩
  | done result => cases h

theorem registrarWrites_of_step (kind : RegistrarKind)
    {l l' : (registrarOperations settings kind).Local}
    (h : (registrarOperations settings kind).step w db l = some (db', l')) :
    RegistrarWrites settings w db kind l db' := by
  cases kind with
  | createDomain =>
    cases l with
    | transact input =>
      cases h
      refine .of_atomically _ fun _ _ hok => ?_
      obtain ⟨-, hname, heq⟩ := db.createDomain_eq_ok hok
      obtain ⟨rfl, -⟩ := Prod.mk.inj heq
      exact .domainCreated hname ⟨rfl, rfl, rfl⟩
    | done result => cases h
  | approve =>
    cases l with
    | check request =>
      simp only [registrarOperations, approve, approveStep] at h
      split at h <;> (cases h; exact .same)
    | quoting approval =>
      simp only [registrarOperations, approve, approveStep] at h
      split at h
      · split at h <;> (cases h; exact .same)
      · cases h; exact .same
    | transact approval cost =>
      cases h
      refine .of_atomically _ fun _ _ hok => ?_
      obtain ⟨operation, happroved, -⟩ := approveTransaction_eq_ok hok
      exact .approved hok happroved
    | done result => cases h
  | reconcile =>
    cases l with
    | transact request =>
      cases h
      refine .of_atomically _ fun _ _ hok => ?_
      obtain ⟨events, rfl⟩ := reconcileTransaction_eq_ok hok
      exact .elsewhere ⟨rfl, rfl, rfl⟩
    | done result => cases h
  | process => exact writes_of_process h
  | createAction =>
    cases l with
    | check input =>
      simp only [registrarOperations, create, createStep] at h
      split at h <;> (cases h; exact .same)
    | transact input context =>
      cases h
      refine .of_atomically _ fun _ _ hok => ?_
      obtain ⟨domain, credentialId, previousExpiry, invoiceId, invoices, hchecked, rfl⟩ :=
        createTransaction_eq_ok hok
      exact .actionCreated rfl rfl rfl hchecked ⟨rfl, rfl, rfl⟩
    | done result => cases h
  | execute => exact writes_of_execute h
  | recoverContact =>
    cases l with
    | storing input =>
      cases h
      refine .of_atomically _ fun _ _ hok => ?_
      simp only [eq_ok] at hok
      obtain ⟨db₁, hwrite, rfl, -⟩ := hok
      obtain ⟨action, haction, hmoves, hchecked, rfl⟩ := db.updateDomainAction_eq_ok hwrite
      exact .contactRecovered haction hmoves hchecked ⟨rfl, rfl, rfl⟩
    | locate _ | opening _ _ | verifying _ =>
      simp only [registrarOperations, recoverContact, recoverContactStep] at h
      split at h <;> (cases h; exact .same)
    | done result => cases h
  | cancelUnsent =>
    cases l with
    | check input =>
      simp only [registrarOperations, cancelUnsent, cancelUnsentStep] at h
      split at h <;> (cases h; exact .same)
    | transact input =>
      cases h
      refine .of_atomically _ fun _ _ hok => ?_
      rcases cancelTransaction_eq_ok hok with
        rfl | ⟨action, invoices, haction, -, hmoves, hchecked, rfl⟩
      · exact .same
      · exact .actionMoved haction ⟨hmoves, hchecked, rfl, rfl, nofun⟩ ⟨rfl, rfl, rfl⟩
    | done result => cases h
  | refresh =>
    cases l with
    | opening _ | reading _ =>
      simp only [registrarOperations, refresh, refreshStep] at h
      split at h <;> (cases h; exact .same)
    | writing input observed =>
      cases h
      refine .of_atomically _ fun _ _ hok => ?_
      simp only [eq_ok] at hok
      obtain ⟨db₁, hwrite, rfl, -⟩ := hok
      obtain ⟨domain, -, -, -, -, rfl⟩ := db.updateDomain_eq_ok hwrite
      exact .quiet (.inr ⟨_, rfl, rfl⟩) (.inl rfl)
        ⟨rfl, rfl, rfl⟩
    | done result => cases h
  | otherServices =>
    cases l with
    | write tables =>
      cases h
      exact .elsewhere ⟨rfl, rfl, rfl⟩
    | done => cases h

/-! ## What every write respects -/

namespace RegistrarWrites

variable {kind : RegistrarKind} {l : (registrarOperations settings kind).Local}

theorem operations_grow (h : RegistrarWrites settings w db kind l db') :
    db.registrarOperations.Grows RegistrarOperation.Moves db'.registrarOperations := by
  have hrefl := RegistrarOperation.Moves.refl
  cases h with
  | quiet _ _ htables | domainCreated _ htables | returned _ _ htables
  | actionCreated _ _ _ _ htables | actionClaimed _ _ _ _ _ _ _ _ htables
  | contactStored _ _ _ htables | contactRecovered _ _ _ htables | succeeded _ _ _ htables =>
    rw [htables.operations]
    exact Grows.refl hrefl _
  | approved _ happroved =>
    rcases happroved.operations with ⟨-, hsame⟩ | ⟨-, -, hinsert⟩
    · rw [hsame]
      exact Grows.refl hrefl _
    · rw [hinsert]
      exact grows_insert hrefl _ _
  | polled hp hmoves htables | claimed _ hp _ _ _ _ hmoves htables =>
    rw [htables.operations]
    refine grows_update hrefl fun operation hoperation => ?_
    rw [hp.operation, Option.some.injEq] at hoperation
    exact hoperation ▸ hmoves
  | recorded _ _ _ htables =>
    rw [htables.operations]
    exact grows_update hrefl fun operation _ =>
      ⟨⟨rfl, rfl, rfl, rfl, rfl, rfl, rfl, rfl⟩, fun _ => rfl, Nat.le_refl _⟩

theorem actions_grow (h : RegistrarWrites settings w db kind l db') :
    db.domainActions.Grows DomainAction.Moves db'.domainActions := by
  have hrefl := DomainAction.Moves.refl
  have hupdate {id : RowId} {action : DomainAction} {f : DomainAction → DomainAction}
      (haction : db.domainActions.get? id = some action) (hmoves : action.Moves (f action)) :
      db.domainActions.Grows DomainAction.Moves (db.domainActions.update id f) := by
    refine grows_update hrefl fun row hrow => ?_
    rw [haction, Option.some.injEq] at hrow
    exact hrow ▸ hmoves
  cases h with
  | domainCreated _ htables | returned _ _ htables | polled _ _ htables
  | claimed _ _ _ _ _ _ _ htables | recorded _ _ _ htables =>
    rw [htables.actions]
    exact Grows.refl hrefl _
  | approved _ happroved =>
    rw [happroved.actions]
    exact Grows.refl hrefl _
  | quiet _ hactions htables =>
    rw [htables.actions]
    rcases hactions with hsame | ⟨id, action, f, haction, hmove, hupdated⟩
    · rw [hsame]
      exact Grows.refl hrefl _
    · rw [hupdated]
      exact hupdate haction hmove.moves
  | actionCreated _ _ _ _ htables =>
    rw [htables.actions]
    exact grows_insert hrefl _ _
  | actionClaimed _ haction _ _ _ _ hmoves _ htables =>
    rw [htables.actions]
    exact hupdate haction hmoves
  | contactStored haction hmoves _ htables | contactRecovered haction hmoves _ htables
  | succeeded haction hmoves _ htables =>
    rw [htables.actions]
    exact hupdate haction hmoves

end RegistrarWrites

end

end WebhostBilling
