import WebhostBilling.Registrar.DomainService

/-!
# Changes to registered domains

`execute` claims the action, reads the domain at the registrar, prepares and sends the one call that
changes it, and confirms the change by another read; executed again, it only reads.  The last
permission to send is `claimSubmission`.  `recoverContact` finds the contact that an interrupted
execution made, and `cancelUnsent` closes an action that was never claimed.
-/

namespace WebhostBilling

open Store Concurrency RegistrarProcessor DomainService

namespace DomainLifecycleService

/-! ## Requesting a change -/

structure CreateActionRequest where
  domainId : RowId
  request : DomainActionRequest
  confirmation : String
  auth : AuthIdentity

def requireCataloguePrice (catalogue : Option DomainCatalogueTld) (sellingAmount : ℤ)
    (catalogueRevision : Option ℕ) : Except Failure Unit :=
  require (∀ entry ∈ catalogue, entry.renewalAmount = some sellingAmount ∧ sellingAmount ≠ 0 ∧
      catalogueRevision = some entry.revision)
    (deny "Renewal pricing changed or is unavailable. Refresh the catalogue price before creating a renewal invoice.")

def renewalInvoice (actionId : RowId) (domain : Domain) (amount : ℤ) (now : ℕ) : Invoice where
  submissionKey := "invoice:domain-renewal:" ++ toString actionId
  customerId := domain.customerId
  status := .unpaid
  currency := "BDT"
  subtotal := amount
  total := amount
  balanceDue := amount
  issuedAt := some now
  dueAt := now
  updatedAt := now
  items := [{ unitAmount := amount, lineTotal := amount }]

def billAction (actionId : RowId) (domain : Domain) (catalogue : Option DomainCatalogueTld)
    (now : ℕ) (db : Database) : DomainActionRequest → Except Failure (Database × Option RowId)
  | .renew sellingAmount costCeiling catalogueRevision => do
    requireCataloguePrice catalogue sellingAmount catalogueRevision
    require (sellingAmount ≤ 999999999999999 ∧ costCeiling ≤ 999999999999999)
      (deny "Renewal amount exceeds the supported range.")
    let (db, invoiceId) ← db.createInvoice (renewalInvoice actionId domain sellingAmount now)
    return (db, some invoiceId)
  | _ => .ok (db, none)

def newAction (context : ManagementContext) (input : CreateActionRequest) (domain : Domain)
    (credentialId previousExpiry now : ℕ) (invoiceId : Option RowId) : DomainAction where
  domainId := input.domainId
  customerId := domain.customerId
  accountId := context.accountId
  credentialId := credentialId
  actorUserId := input.auth.userId
  request := input.request
  previousExpiry := previousExpiry
  invoiceId := invoiceId
  nextPollAt := now

/-- The transaction of `create`. -/
def createTransaction (catalogue : Option DomainCatalogueTld) (context : ManagementContext)
    (input : CreateActionRequest) (now : ℕ) : Tx RowId := fun db => do
  let domain ← orThrow missing (db.domains.get? input.domainId)
  let changed := deny "The domain state changed. Refresh before requesting an action."
  let previousExpiry ← orThrow changed domain.expiresAt
  require (domain.state = .registered ∧ domain.providerOrderId = some context.orderId) changed
  require (db.domainActions.any (fun _ action => action.domainId = input.domainId ∧
      ¬ action.state.terminal) = false)
    (deny "Finish or reconcile the existing domain action first.")
  let credentialId ← orThrow missing (latestCredential db context.accountId)
  let (db, invoiceId) ← billAction db.domainActions.size domain catalogue now db input.request
  db.createDomainAction (newAction context input domain credentialId previousExpiry now invoiceId)

variable {db db' : Database} {u : Unit} {now : ℕ}

variable {catalogue : Option DomainCatalogueTld}

theorem billAction_eq_ok {actionId : RowId} {domain : Domain} {request : DomainActionRequest}
    {invoiceId : Option RowId}
    (h : billAction actionId domain catalogue now db request = .ok (db', invoiceId)) :
    ∃ invoices, db' = { db with invoices } := by
  cases request with
  | renew sellingAmount costCeiling catalogueRevision =>
    simp only [billAction, bind_eq_ok] at h
    obtain ⟨-, -, -, -, ⟨db₁, id⟩, hinvoice, h⟩ := h
    obtain ⟨-, heq⟩ := db.createInvoice_eq_ok.1 hinvoice
    obtain ⟨rfl, rfl⟩ := Prod.mk.inj heq
    rw [pure_eq_ok] at h
    exact ⟨_, (Prod.mk.inj h).1.symm⟩
  | nameservers _ | lock _ | contact _ =>
    exact ⟨db.invoices, (Prod.mk.inj (Except.ok.inj h)).1.symm⟩

theorem createTransaction_eq_ok {context : ManagementContext} {input : CreateActionRequest}
    {id : RowId} (h : createTransaction catalogue context input now db = .ok (db', id)) :
    ∃ domain credentialId previousExpiry invoiceId invoices,
      (newAction context input domain credentialId previousExpiry now invoiceId).Checked ∧
      db' = { db with
        invoices := invoices
        domainActions := db.domainActions.insert
          (newAction context input domain credentialId previousExpiry now invoiceId) } := by
  simp only [createTransaction, bind_eq_ok] at h
  obtain ⟨domain, -, previousExpiry, -, -, -, -, -, credentialId, -, ⟨db₁, invoiceId⟩, hbill,
    hcreate⟩ := h
  obtain ⟨invoices, rfl⟩ := billAction_eq_ok hbill
  obtain ⟨hchecked, heq⟩ := Database.createDomainAction_eq_ok _ hcreate
  obtain ⟨rfl, -⟩ := Prod.mk.inj heq
  exact ⟨domain, credentialId, previousExpiry, invoiceId, invoices, hchecked, rfl⟩

inductive CreateState
  | check (input : CreateActionRequest)
  | transact (input : CreateActionRequest) (context : ManagementContext)
  | done (result : Except Failure RowId)

variable (settings : RegistrarSettings)

/-- The checks of `create` on the domain it is asked to change. -/
def checkCreate (available : Bool) (input : CreateActionRequest) (db : Database) :
    Except Failure ManagementContext := do
  administrator input.auth
  let context ← managementContext settings available input.auth input.domainId db
  require (¬ (context.domain.origin = .existing ∧ input.request.kind = .renew))
    (deny "Linked domains have no approved renewal billing terms. This action cannot purchase a renewal.")
  require (input.confirmation = context.domain.domainName) (deny "Confirm the exact domain name.")
  return context

def createStep (w : World) (db : Database) :
    CreateState → Option (Database × CreateState)
  | .check input =>
    match checkCreate settings w.registrarContextAvailable input db with
    | .ok context => some (db, .transact input context)
    | .error e => some (db, .done (.error e))
  | .transact input context =>
    let out := atomically (createTransaction w.domainCatalogue context input w.now) db
    some (out.1, .done out.2)
  | .done _ => none

/-- `DomainLifecycleService.create`. -/
def create : Operation Database World where
  Request := CreateActionRequest
  Local := CreateState
  start := .check
  step := createStep settings

/-! ## Executing a change -/

structure ExecuteRequest where
  domainId : RowId
  actionId : RowId
  confirmation : String
  auth : AuthIdentity
  reconcileOnly : Bool := false

structure ExecuteRun where
  input : ExecuteRequest
  request : DomainActionRequest
  previousExpiry : ℕ
  orderId : String

def locateAction (db : Database) (domainId actionId : RowId) : Option DomainAction :=
  (db.domainActions.get? actionId).filter fun action => action.domainId = domainId

def openRun (available : Bool) (input : ExecuteRequest) (located : DomainAction) (db : Database) :
    Except Failure ExecuteRun := do
  let context ← managementContext settings available input.auth input.domainId db
  require (input.confirmation = context.domain.domainName) (deny "Confirm the exact domain name.")
  return ⟨input, located.request, located.previousExpiry, context.orderId⟩

def requireEligible (run : ExecuteRun) (action : DomainAction) (db : Database) :
    Except Failure Unit := do
  let domain ← orThrow missing (db.domains.get? run.input.domainId)
  let actor ← orThrow missing (db.users.get? run.input.auth.userId)
  let customer ← orThrow missing (db.customers.get? action.customerId)
  require (domain.state = .registered ∧ domain.providerOrderId = some run.orderId ∧
      actor.active = true ∧ actor.deleted = false ∧ actor.staffRole = some .fullAdministrator ∧
      actor.totpEnabledAt.isSome ∧ customer.active = true ∧ customer.deleted = false ∧
      customer.emailVerified = true)
    (deny "The domain, customer or approving administrator is no longer eligible.")

def requireClaimable (actionId : RowId) (action : DomainAction) (db : Database) :
    Except Failure Unit := do
  require (db.actionOutstanding action.accountId (some actionId) = false)
    (deny "Another registrar action needs reconciliation first.")
  require (db.registrationOutstanding action.accountId none = false)
    (deny "A registration needs reconciliation first.")
  require (action.request.kind = .renew → action.invoiceId.any (fun invoiceId =>
      verifiedDomainInvoice db invoiceId action.customerId) = true)
    (deny "A fully verified, unadjusted BDT renewal payment is required.")

def reserve (claimedAt : Option ℕ) (now : ℕ) (action : DomainAction) : DomainAction :=
  { action with
    state := .needsReconciliation
    claimedAt
    pollCount := action.pollCount + 1
    nextPollAt := now + 180000 }

/-- The transaction of a claim.  Its result is `none` for an action that is over, and otherwise
whether this execution is to send the change. -/
def claimTransaction (run : ExecuteRun) (now : ℕ) : Tx (Option Bool) := fun db => do
  let action ← orThrow missing (db.domainActions.get? run.input.actionId)
  if action.state.terminal then
    return (db, none)
  else do
    require (action.pollCount < 10 ∧ (action.claimedAt.isSome → action.nextPollAt ≤ now))
      (deny "Wait before reconciling, or resolve the exhausted read budget manually.")
    let account ← orThrow missing (db.registrarAccounts.get? action.accountId)
    require (account.enabled = true) (deny "Registrar is disabled.")
    requireEligible run action db
    require (run.input.reconcileOnly = true → action.claimedAt.isSome)
      (deny "Only a claimed action can be reconciled.")
    if action.claimedAt.isSome then do
      let db ← db.updateDomainAction run.input.actionId (reserve action.claimedAt now)
      return (db, some false)
    else do
      requireClaimable run.input.actionId action db
      let db ← db.updateDomainAction run.input.actionId (reserve (some now) now)
      return (db, some (!run.input.reconcileOnly))

/-- **What a committed claim does**: nothing for an action that is over, one more read reserved for
a claimed one, or the claim. -/
inductive Claim (run : ExecuteRun) (now : ℕ) (db : Database) : Database → Option Bool → Prop
  | finished {action : DomainAction} (haction : db.domainActions.get? run.input.actionId = some action)
      (hterminal : action.state.terminal) : Claim run now db db none
  | polled {action : DomainAction}
      (haction : db.domainActions.get? run.input.actionId = some action)
      (hopen : ¬ action.state.terminal) (hclaimed : action.claimedAt.isSome)
      (hmoves : action.Moves (reserve action.claimedAt now action))
      (hchecked : (reserve action.claimedAt now action).Checked) :
      Claim run now db
        { db with
          domainActions := db.domainActions.update run.input.actionId
            (reserve action.claimedAt now) }
        (some false)
  | claimed {action : DomainAction}
      (haction : db.domainActions.get? run.input.actionId = some action)
      (hopen : ¬ action.state.terminal) (hunclaimed : action.claimedAt = none)
      (hactions :
        db.actionOutstanding action.accountId (some run.input.actionId) = false)
      (hregistrations : db.registrationOutstanding action.accountId none = false)
      (hmoves : action.Moves (reserve (some now) now action))
      (hchecked : (reserve (some now) now action).Checked) :
      Claim run now db
        { db with
          domainActions := db.domainActions.update run.input.actionId
            (reserve (some now) now) }
        (some true)

variable {run : ExecuteRun}

theorem claimTransaction_eq_ok {r : Option Bool}
    (h : claimTransaction run now db = .ok (db', r)) : Claim run now db db' r := by
  simp only [claimTransaction, eq_ok] at h
  obtain ⟨action, haction, h⟩ := h
  by_cases hterminal : action.state.terminal
  · rw [if_pos hterminal, pure_eq_ok] at h
    obtain ⟨rfl, rfl⟩ := Prod.mk.inj h
    exact .finished haction hterminal
  simp only [if_neg hterminal, eq_ok] at h
  obtain ⟨-, account, -, -, -, -, hreconcile, h⟩ := h
  by_cases hclaimed : action.claimedAt.isSome
  · simp only [if_pos hclaimed, eq_ok] at h
    obtain ⟨db₁, hwrite, h⟩ := h
    obtain ⟨action', haction', hmoves, hchecked, rfl⟩ := db.updateDomainAction_eq_ok hwrite
    obtain rfl := Option.mem_unique haction haction'
    obtain ⟨rfl, rfl⟩ := h
    exact .polled haction hterminal hclaimed hmoves hchecked
  · simp only [if_neg hclaimed, requireClaimable, eq_ok] at h
    obtain ⟨⟨hactions, hregistrations, -⟩, db₁, hwrite, h⟩ := h
    obtain ⟨action', haction', hmoves, hchecked, rfl⟩ := db.updateDomainAction_eq_ok hwrite
    obtain rfl := Option.mem_unique haction haction'
    -- A call that only reconciles does not get past an unclaimed action.
    have hdispatch : run.input.reconcileOnly = false := by
      rw [Bool.eq_false_iff]
      exact fun h => hclaimed (hreconcile h)
    rw [hdispatch] at h
    obtain ⟨rfl, rfl⟩ := h
    rw [Bool.not_eq_true, Option.isSome_eq_false_iff, Option.isNone_iff_eq_none] at hclaimed
    exact .claimed haction hterminal hclaimed hactions hregistrations hmoves hchecked

def submit (now : ℕ) (action : DomainAction) : DomainAction :=
  { action with submittedAt := some now }

/-- `claimSubmission`: the permission to send the change, which is given once. -/
def claimSubmission (actionId now : ℕ) (db : Database) : Except Failure Database := do
  let (db, count) ← db.updateDomainActionWhere actionId
    (fun action => action.submittedAt = none ∧ action.state = .needsReconciliation)
    (submit now)
  require (count = 1)
    (deny "The domain mutation was already submitted. Reconcile without retrying.")
  return db

theorem claimSubmission_eq_ok {actionId : ℕ} (h : claimSubmission actionId now db = .ok db') :
    ∃ action, db.domainActions.get? actionId = some action ∧ action.submittedAt = none ∧
      action.state = .needsReconciliation ∧ action.Moves (submit now action) ∧
      (submit now action).Checked ∧ db' =
    { db with domainActions := db.domainActions.update actionId (submit now) } := by
  simp only [claimSubmission, eq_ok] at h
  obtain ⟨⟨db₁, count⟩, hwrite, hcount, rfl⟩ := h
  rcases db.updateDomainActionWhere_eq_ok hwrite with
    ⟨rfl, -⟩ | ⟨-, action, haction, ⟨hnone, hstate⟩, hmoves, hchecked, rfl⟩
  · cases hcount
  · exact ⟨action, haction, hnone, hstate, hmoves, hchecked, rfl⟩

def claimContact (now : ℕ) (action : DomainAction) : DomainAction :=
  { action with contactClaimedAt := some now }

def storeContact (contactId : String) (action : DomainAction) : DomainAction :=
  { action with remoteContactId := some contactId }

def withState (state : DomainActionState) (action : DomainAction) : DomainAction :=
  { action with state }

def days (n : ℕ) : ℕ := n * 86400000

def confirmed (run : ExecuteRun) (current : DomainAction) (observed : ResellbizManagedState) :
    Bool :=
  match run.request with
  | .nameservers nameservers => decide (observed.nameservers.Perm nameservers)
  | .lock locked => observed.locked == locked
  | .contact _ => current.remoteContactId.any fun contactId =>
      observed.contactIds.all (· == contactId)
  | .renew _ _ _ => decide (run.previousExpiry + days 330 ≤ observed.expiresAt ∧
      observed.expiresAt ≤ run.previousExpiry + days 370)

def observedDomain (observed : ResellbizManagedState) (domain : Domain) : Domain :=
  { domain with expiresAt := some observed.expiresAt, verification := observed.verification }

def finishTransaction (run : ExecuteRun) (observed : ResellbizManagedState) (confirmed : Bool) :
    Tx Unit := fun db => do
  let latest ← orThrow missing (db.domainActions.get? run.input.actionId)
  if latest.state = .succeeded then
    return (db, ())
  else do
    let db ← db.updateDomain run.input.domainId (observedDomain observed)
    if confirmed = true then do
      let db ← db.updateDomainAction run.input.actionId (withState .succeeded)
      return (db, ())
    else
      return (db, ())

/-- What a committed end of an execution does: nothing for an action that has succeeded, and else it
writes the domain, and the action when the change is confirmed. -/
theorem finishTransaction_eq_ok {observed : ResellbizManagedState} {confirmed : Bool}
    (h : finishTransaction run observed confirmed db = .ok (db', u)) :
    db' = db ∨ ∃ domain, db.domains.get? run.input.domainId = some domain ∧
      ((confirmed = false ∧ db' = { db with
          domains := db.domains.update run.input.domainId (observedDomain observed) }) ∨
        (confirmed = true ∧ ∃ action, db.domainActions.get? run.input.actionId = some action ∧
          action.Moves (withState .succeeded action) ∧
          (withState .succeeded action).Checked ∧ db' = { db with
            domains := db.domains.update run.input.domainId (observedDomain observed)
            domainActions := db.domainActions.update run.input.actionId (withState .succeeded) })) := by
  simp only [finishTransaction, eq_ok] at h
  obtain ⟨latest, -, h⟩ := h
  by_cases hsucceeded : latest.state = .succeeded
  · rw [if_pos hsucceeded, pure_eq_ok] at h
    exact .inl (Prod.mk.inj h).1.symm
  simp only [if_neg hsucceeded, bind_eq_ok] at h
  obtain ⟨db₁, hdomain, h⟩ := h
  obtain ⟨domain, hget, -, -, -, rfl⟩ := db.updateDomain_eq_ok hdomain
  refine .inr ⟨domain, hget, ?_⟩
  cases confirmed with
  | false =>
    rw [if_neg Bool.false_ne_true, pure_eq_ok] at h
    exact .inl ⟨rfl, (Prod.mk.inj h).1.symm⟩
  | true =>
    simp only [if_true, eq_ok] at h
    obtain ⟨db₂, hwrite, h⟩ := h
    obtain ⟨action, haction, hmoves, hchecked, rfl⟩ := Database.updateDomainAction_eq_ok _ hwrite
    obtain ⟨rfl, -⟩ := h
    exact .inr ⟨rfl, action, haction, hmoves, hchecked, rfl⟩

def failTransaction (run : ExecuteRun) : Tx Unit := fun db => do
  let db ← db.updateDomainAction run.input.actionId (withState .failed)
  return (db, ())

theorem failTransaction_eq_ok (h : failTransaction run db = .ok (db', u)) :
    ∃ action, db.domainActions.get? run.input.actionId = some action ∧
      action.Moves (withState .failed action) ∧ (withState .failed action).Checked ∧
      db' = { db with
        domainActions := db.domainActions.update run.input.actionId (withState .failed) } := by
  simp only [failTransaction, eq_ok] at h
  obtain ⟨db₁, hwrite, rfl, -⟩ := h
  exact db.updateDomainAction_eq_ok hwrite

/-- How far an execution is.  The states from `claimingContact` to `checkingUnsent` are those of
the execution that made the claim, inside and right after its `try` block. -/
inductive ExecuteState
  | locate (input : ExecuteRequest)
  | opening (input : ExecuteRequest) (located : DomainAction)
  | claiming (run : ExecuteRun)
  | reading (run : ExecuteRun) (dispatch : Bool)
  | claimingContact (run : ExecuteRun)
  | addingContact (run : ExecuteRun)
  | verifyingContact (run : ExecuteRun) (contactId : String)
  | storingContact (run : ExecuteRun) (contactId : String)
  | pricing (run : ExecuteRun)
  | claimingSubmission (run : ExecuteRun)
  | submitting (run : ExecuteRun)
  | checkingUnsent (run : ExecuteRun)
  | failing (run : ExecuteRun)
  | observing (run : ExecuteRun)
  | confirming (run : ExecuteRun) (observed : ResellbizManagedState)
  | finishing (run : ExecuteRun) (observed : ResellbizManagedState) (confirmed : Bool)
  | done (result : Except Failure Unit)

def dispatch (run : ExecuteRun) (before : ResellbizManagedState) : ExecuteState :=
  match run.request with
  | .nameservers _ => .claimingSubmission run
  | .lock _ => .claimingSubmission run
  | .contact _ => .claimingContact run
  | .renew _ _ _ =>
    if before.expiresAt = run.previousExpiry then .pricing run else .checkingUnsent run

def renewable (run : ExecuteRun) (cost : RegistrarQuote) : Bool :=
  match run.request with
  | .renew _ costCeiling _ => decide (0 < costCeiling ∧ run.previousExpiry % 1000 = 0 ∧
      0 < cost.costAmount ∧ cost.costAmount ≤ costCeiling)
  | _ => false

variable (w : World)

/-- A write inside the `try` block: whatever is thrown, also by a write that took effect, is
caught. -/
def attempt (db : Database) (write : Except Failure Database) (next caught : ExecuteState) :
    Database × ExecuteState :=
  match write with
  | .ok db' =>
    match w.databaseDelivery with
    | .acknowledged => (db', next)
    | .unacknowledged => (db', caught)
    | .refused => (db, caught)
  | .error _ => (db, caught)

theorem attempt_cases {w : World} {write : Except Failure Database}
    {next caught l' : ExecuteState} (h : attempt w db write next caught = (db', l')) :
    (write = .ok db' ∧ (l' = next ∨ l' = caught)) ∨ (db' = db ∧ l' = caught) := by
  unfold attempt at h
  split at h
  · split at h
    · obtain ⟨rfl, rfl⟩ := Prod.mk.inj h
      exact .inl ⟨rfl, .inl rfl⟩
    · obtain ⟨rfl, rfl⟩ := Prod.mk.inj h
      exact .inl ⟨rfl, .inr rfl⟩
    · obtain ⟨rfl, rfl⟩ := Prod.mk.inj h
      exact .inr ⟨rfl, rfl⟩
  · obtain ⟨rfl, rfl⟩ := Prod.mk.inj h
    exact .inr ⟨rfl, rfl⟩

def executeStep (db : Database) :
    ExecuteState → Option (Database × ExecuteState)
  | .locate input =>
    match administrator input.auth with
    | .error e => some (db, .done (.error e))
    | .ok () =>
      match locateAction db input.domainId input.actionId with
      | some located => some (db, .opening input located)
      | none => some (db, .done (.error (deny "Domain action is unavailable.")))
  | .opening input located =>
    match openRun settings w.registrarContextAvailable input located db with
    | .ok run => some (db, .claiming run)
    | .error e => some (db, .done (.error e))
  | .claiming run =>
    let out := atomically (claimTransaction run w.now) db
    match out.2 with
    | .ok (some dispatch) => some (out.1, .reading run dispatch)
    | .ok none => some (out.1, .done (.ok ()))
    | .error e => some (out.1, .done (.error e))
  | .reading run dispatching =>
    match w.registrarManagement, dispatching with
    | .ok before, true => some (db, dispatch run before)
    | .error _, true => some (db, .checkingUnsent run)
    | _, false => some (db, .observing run)
  | .claimingContact run =>
    some (attempt w db (db.updateDomainAction run.input.actionId (claimContact w.now))
      (.addingContact run) (.checkingUnsent run))
  | .addingContact run =>
    match w.registrarContact with
    | .ok contactId => some (db, .verifyingContact run contactId)
    | .error _ => some (db, .checkingUnsent run)
  | .verifyingContact run contactId =>
    match w.registrarCall with
    | .ok () => some (db, .storingContact run contactId)
    | .error _ => some (db, .checkingUnsent run)
  | .storingContact run contactId =>
    some (attempt w db (db.updateDomainAction run.input.actionId (storeContact contactId))
      (.claimingSubmission run) (.checkingUnsent run))
  | .pricing run =>
    match w.registrarQuote with
    | .ok cost =>
      if renewable run cost = true then some (db, .claimingSubmission run)
      else some (db, .checkingUnsent run)
    | .error _ => some (db, .checkingUnsent run)
  | .claimingSubmission run =>
    some (attempt w db (claimSubmission run.input.actionId w.now db)
      (.submitting run) (.checkingUnsent run))
  | .submitting run =>
    match w.registrarCall with
    | .ok () => some (db, .observing run)
    | .error _ => some (db, .checkingUnsent run)
  | .checkingUnsent run =>
    match db.domainActions.get? run.input.actionId with
    | none => some (db, .done (.error missing))
    | some unsent =>
      if unsent.submittedAt = none ∧ unsent.contactClaimedAt = none then some (db, .failing run)
      else some (db, .observing run)
  | .failing run =>
    let out := atomically (failTransaction run) db
    some (out.1, .done out.2)
  | .observing run =>
    match w.registrarManagement with
    | .ok observed => some (db, .confirming run observed)
    | .error _ => some (db, .done (.ok ()))
  | .confirming run observed =>
    match db.domainActions.get? run.input.actionId with
    | none => some (db, .done (.error missing))
    | some current => some (db, .finishing run observed (confirmed run current observed))
  | .finishing run observed confirmed =>
    let out := atomically (finishTransaction run observed confirmed) db
    some (out.1, .done out.2)
  | .done _ => none

/-- `DomainLifecycleService.execute`, also as it is called to reconcile. -/
def execute : Operation Database World where
  Request := ExecuteRequest
  Local := ExecuteState
  start := .locate
  step := executeStep settings

/-! ## Recovering a contact -/

structure RecoverContactRequest where
  domainId : RowId
  actionId : RowId
  contactId : String
  confirmation : String
  auth : AuthIdentity

inductive RecoverContactState
  | locate (input : RecoverContactRequest)
  | opening (input : RecoverContactRequest) (located : DomainAction)
  | verifying (input : RecoverContactRequest)
  | storing (input : RecoverContactRequest)
  | done (result : Except Failure Unit)

def recoverable (action : DomainAction) : Prop :=
  action.request.kind = .contact ∧ action.contactClaimedAt.isSome ∧
    action.state = .needsReconciliation
deriving Decidable

def locateContact (input : RecoverContactRequest) (db : Database) :
    Except Failure DomainAction := do
  administrator input.auth
  let unclaimed :=
    deny "Only an unresolved claimed contact creation can use read-only recovery."
  let action ← orThrow unclaimed (locateAction db input.domainId input.actionId)
  require (recoverable action) unclaimed
  return action

def openContact (available : Bool) (input : RecoverContactRequest) (located : DomainAction)
    (db : Database) : Except Failure Unit := do
  let context ← managementContext settings available input.auth input.domainId db
  require (input.confirmation = context.domain.domainName) (deny "Confirm the exact domain name.")
  require (∀ contactId ∈ located.remoteContactId, contactId = input.contactId)
    (deny "A different immutable contact is already verified.")

def recoverContactStep (db : Database) :
    RecoverContactState → Option (Database × RecoverContactState)
  | .locate input =>
    match locateContact input db with
    | .ok located => some (db, .opening input located)
    | .error e => some (db, .done (.error e))
  | .opening input located =>
    match openContact settings w.registrarContextAvailable input located db with
    | .ok () => some (db, .verifying input)
    | .error e => some (db, .done (.error e))
  | .verifying input =>
    match w.registrarCall with
    | .ok () => some (db, .storing input)
    | .error _ => some (db, .done (.error (deny
        "Replacement contact ownership or snapshot could not be verified. No mutation was sent.")))
  | .storing input =>
    let out := atomically (fun db => do
      let db ← db.updateDomainAction input.actionId (storeContact input.contactId)
      return (db, ())) db
    some (out.1, .done out.2)
  | .done _ => none

/-- `DomainLifecycleService.recoverContact`. -/
def recoverContact : Operation Database World where
  Request := RecoverContactRequest
  Local := RecoverContactState
  start := .locate
  step := recoverContactStep settings

/-! ## Cancelling an action that was not sent -/

structure CancelUnsentRequest where
  domainId : RowId
  actionId : RowId
  confirmation : String
  auth : AuthIdentity

def checkCancel (input : CancelUnsentRequest) (db : Database) : Except Failure Unit := do
  administrator input.auth
  let domain ← orThrow (forbidden "The domain request is unavailable.")
    (db.domains.get? input.domainId)
  let account ← orThrow missing (db.registrarAccounts.get? domain.effectiveAccount)
  requireVisible input.auth domain account
  require (input.confirmation = domain.domainName) (deny "Confirm the exact domain name.")
  let _ ← orThrow (deny "Domain action is unavailable.")
    (locateAction db input.domainId input.actionId)
  return ()

def cancelRenewalInvoice (invoiceId : RowId) (db : Database) : Except Failure Database := do
  let invoice ← orThrow missing (db.invoices.get? invoiceId)
  require ((invoice.status = .draft ∨ invoice.status = .unpaid ∨ invoice.status = .overdue) ∧
      invoice.amountPaid = 0 ∧
      db.payments.any (fun _ payment => payment.invoiceId = invoiceId) = false)
    (deny "A renewal with payment history requires financial review; it cannot be cancelled here.")
  return db.updateInvoice invoiceId fun invoice => { invoice with status := .cancelled }

def cancelInvoiceOf (action : DomainAction) (db : Database) : Except Failure Database :=
  match action.invoiceId with
  | some invoiceId => cancelRenewalInvoice invoiceId db
  | none => .ok db

/-- The transaction of `cancelUnsent`. -/
def cancelTransaction (input : CancelUnsentRequest) : Tx Unit := fun db => do
  let action ← orThrow missing (db.domainActions.get? input.actionId)
  if action.state = .cancelled then
    return (db, ())
  else do
    require (action.claimedAt = none ∧ action.state = .requested)
      (deny "A claimed registrar action cannot be cancelled. Reconcile its outcome.")
    let db ← cancelInvoiceOf action db
    let db ← db.updateDomainAction input.actionId (withState .cancelled)
    return (db, ())

theorem cancelInvoiceOf_eq_ok {action : DomainAction}
    (h : cancelInvoiceOf action db = .ok db') : ∃ invoices, db' = { db with invoices } := by
  unfold cancelInvoiceOf at h
  split at h
  · simp only [cancelRenewalInvoice, eq_ok] at h
    obtain ⟨invoice, -, -, -, rfl⟩ := h
    exact ⟨_, rfl⟩
  · exact ⟨db.invoices, (Except.ok.inj h).symm⟩

theorem cancelTransaction_eq_ok {input : CancelUnsentRequest}
    (h : cancelTransaction input db = .ok (db', u)) :
    db' = db ∨ ∃ action invoices, db.domainActions.get? input.actionId = some action ∧
      action.claimedAt = none ∧ action.Moves (withState .cancelled action) ∧
      (withState .cancelled action).Checked ∧ db' = { db with
        invoices := invoices
        domainActions := db.domainActions.update input.actionId (withState .cancelled) } := by
  simp only [cancelTransaction, eq_ok] at h
  obtain ⟨action, haction, h⟩ := h
  by_cases hcancelled : action.state = .cancelled
  · rw [if_pos hcancelled, pure_eq_ok] at h
    exact .inl (Prod.mk.inj h).1.symm
  simp only [if_neg hcancelled, eq_ok] at h
  obtain ⟨⟨hunclaimed, -⟩, db₁, hinvoice, db₂, hwrite, h⟩ := h
  obtain ⟨invoices, rfl⟩ := cancelInvoiceOf_eq_ok hinvoice
  obtain ⟨action', haction', hmoves, hchecked, rfl⟩ := Database.updateDomainAction_eq_ok _ hwrite
  obtain ⟨rfl, -⟩ := h
  have hsame : action' = action := Option.mem_unique haction' haction
  subst hsame
  exact .inr ⟨action', invoices, haction, hunclaimed, hmoves, hchecked, rfl⟩

inductive CancelUnsentState
  | check (input : CancelUnsentRequest)
  | transact (input : CancelUnsentRequest)
  | done (result : Except Failure Unit)

def cancelUnsentStep (_ : World) (db : Database) :
    CancelUnsentState → Option (Database × CancelUnsentState)
  | .check input =>
    match checkCancel input db with
    | .ok () => some (db, .transact input)
    | .error e => some (db, .done (.error e))
  | .transact input =>
    let out := atomically (cancelTransaction input) db
    some (out.1, .done out.2)
  | .done _ => none

/-- `DomainLifecycleService.cancelUnsent`. -/
def cancelUnsent : Operation Database World where
  Request := CancelUnsentRequest
  Local := CancelUnsentState
  start := .check
  step := cancelUnsentStep

/-! ## Refreshing what is known of a domain -/

structure RefreshRequest where
  domainId : RowId
  auth : AuthIdentity

inductive RefreshState
  | opening (input : RefreshRequest)
  | reading (input : RefreshRequest)
  | writing (input : RefreshRequest) (observed : ResellbizManagedState)
  | done (result : Except Failure Unit)

def refreshStep (db : Database) :
    RefreshState → Option (Database × RefreshState)
  | .opening input =>
    match managementContext settings w.registrarContextAvailable input.auth input.domainId db with
    | .ok _ => some (db, .reading input)
    | .error e => some (db, .done (.error e))
  | .reading input =>
    match w.registrarManagement with
    | .ok observed => some (db, .writing input observed)
    | .error _ => some (db, .done (.error (deny
        "Registrar management evidence is unavailable. No mutation was sent.")))
  | .writing input observed =>
    let out := atomically (fun db => do
      let db ← db.updateDomain input.domainId (observedDomain observed)
      return (db, ())) db
    some (out.1, .done out.2)
  | .done _ => none

/-- `DomainLifecycleService.refresh`. -/
def refresh : Operation Database World where
  Request := RefreshRequest
  Local := RefreshState
  start := .opening
  step := refreshStep settings

end DomainLifecycleService

end WebhostBilling
