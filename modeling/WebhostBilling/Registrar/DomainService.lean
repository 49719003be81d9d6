import Mathlib.Data.List.MinMax
import WebhostBilling.Registrar.RegistrarProcessor

/-!
# The domain service

An administrator approves a paid registration under a ceiling for its cost, which is what a
registration is sent by, and may ask for a claimed one to be looked up again.  `managementContext`
is what every management call on a registered domain starts with.
-/

namespace WebhostBilling

open Store Concurrency RegistrarProcessor

structure AuthIdentity where
  userId : RowId
  role : UserRole
  customerId : Option RowId := none
  staffRole : Option StaffRole := none
  twoFactorEnabled : Bool := false

namespace DomainService

/-! ## Errors -/

def deny (message : String) : Failure := .application .conflict message

def forbidden (message : String) : Failure := .application .forbidden message

def unavailable (message : String) : Failure := .application .serviceUnavailable message

/-- A row that the code reads with `OrThrow` is missing. -/
def missing : Failure := .error "P2025"

/-! ## Who may do it, and where -/

def administrator (auth : AuthIdentity) : Except Failure Unit :=
  require (auth.role = .admin ∧ auth.staffRole = some .fullAdministrator ∧
      auth.twoFactorEnabled = true)
    (forbidden "A full administrator with two-factor authentication is required.")

variable (settings : RegistrarSettings)

def requireSimulation : Except Failure Unit :=
  require (settings.simulationAllowed = true)
    (unavailable "Simulated registrar writes are disabled in production.")

def requireRuntime : Except Failure Unit :=
  if settings.simulationAllowed = false ∧ settings.liveAllowed = false then
    requireSimulation settings
  else .ok ()

def requireMode : RegistrarMode → Except Failure Unit
  | .fake => requireSimulation settings
  | .live => require (settings.liveAllowed = true)
      (unavailable "Live registrar networking is disabled by the installation.")

def requireAccount (account : RegistrarAccount) :
    Except Failure Unit := do
  requireMode settings account.mode
  require (account.enabled = true) (deny "The registrar is disabled.")

def requireVisible (auth : AuthIdentity) (domain : Domain) (account : RegistrarAccount) :
    Except Failure Unit :=
  match auth.role with
  | .customer => require (auth.customerId = some domain.customerId)
      (forbidden "The domain request is unavailable.")
  | .admin => if account.mode = .live then administrator auth else .ok ()

def latestCredential (db : Database) (accountId : RowId) : Option RowId :=
  ((db.registrarCredentials.select fun _ credential => credential.accountId = accountId).argmax
    fun entry => entry.2.version).map Prod.fst

/-! ## Managing a registered domain -/

structure ManagementContext where
  domain : Domain
  accountId : RowId
  orderId : String

/-- `managementContext`, up to the checks on the customer's mapping, the stored secrets and the
evidence of a linked domain, which `available` answers. -/
def managementContext (available : Bool) (auth : AuthIdentity) (domainId : RowId) (db : Database) :
    Except Failure ManagementContext := do
  let domain ← orThrow (forbidden "The domain request is unavailable.") (db.domains.get? domainId)
  let account ← orThrow missing (db.registrarAccounts.get? domain.effectiveAccount)
  requireVisible auth domain account
  requireAccount settings account
  let unmanaged := deny "Only a confirmed live registration can be managed."
  require (account.mode = .live ∧ domain.state = .registered ∧ domain.expiresAt.isSome) unmanaged
  let orderId ← orThrow unmanaged domain.providerOrderId
  let customer ← orThrow missing (db.customers.get? domain.customerId)
  require (customer.deleted = false ∧ customer.active = true ∧ customer.emailVerified = true)
    (deny "The customer account is not eligible for registrar operations.")
  require (domain.origin = .registration → domain.quoteId.isSome)
    (deny "Registration ownership evidence is unavailable.")
  require (available = true) (deny "Registrar ownership evidence is unavailable.")
  return ⟨domain, domain.effectiveAccount, orderId⟩

/-! ## Approving a registration -/

structure ApproveRequest where
  domainId : RowId
  confirmation : String
  registrarAccountId : Option RowId := none
  costCeiling : ℤ
  acceptPriceChangeRisk : Bool := false
  auth : AuthIdentity

structure Approval where
  request : ApproveRequest
  selection : Bool
  selectedAccountId : RowId
  checkedCredentialId : RowId

def checkApproval (available : Bool) (request : ApproveRequest) (db : Database) :
    Except Failure Approval := do
  requireRuntime settings
  administrator request.auth
  let domain ← orThrow missing (db.domains.get? request.domainId)
  let quoteId ← orThrow
    (deny "An existing domain cannot be registered or purchased through approval.") domain.quoteId
  require (domain.origin ≠ .existing ∧ domain.invoiceId.isSome)
    (deny "An existing domain cannot be registered or purchased through approval.")
  require (request.confirmation = domain.domainName) (deny "Type the exact domain name to approve.")
  let quote ← orThrow missing (db.domainQuotes.get? quoteId)
  require (quote.eligibleRegistrars.isSome → request.registrarAccountId.isSome)
    (deny "Select and review the registrar before approval.")
  let selectedAccountId := request.registrarAccountId.getD domain.accountId
  require (selectedAccountId ∈ quote.eligibleRegistrars.getD [domain.accountId])
    (deny "This registrar was not included in the customer consent. Request new customer consent, not an automatic provider switch.")
  let account ← orThrow missing (db.registrarAccounts.get? selectedAccountId)
  requireAccount settings account
  let origin ← orThrow missing (db.registrarAccounts.get? domain.accountId)
  require (account.mode = origin.mode)
    (deny "Simulation and live registrar accounts cannot be mixed.")
  let credentialId ← orThrow missing (latestCredential db selectedAccountId)
  require (account.mode = .live → request.acceptPriceChangeRisk = true)
    (deny "Confirm the real purchase and non-atomic provider price-change risk.")
  require (account.mode = .live → available = true)
    (deny "Please wait before another registrar check.")
  return ⟨request, quote.eligibleRegistrars.isSome, selectedAccountId, credentialId⟩

def operationOf (db : Database) (domainId : RowId) : Option (RowId × RegistrarOperation) :=
  db.registrarOperations.find? fun _ operation => operation.domainId = domainId

def approvedOperation (approval : Approval) (domain : Domain) (account : RegistrarAccount)
    (credentialId selectedCredentialId now : ℕ) : RegistrarOperation where
  domainId := approval.request.domainId
  nextPollAt := now
  accountId := domain.accountId
  credentialId := credentialId
  selectedAccountId := if approval.selection then some approval.selectedAccountId else none
  selectedCredentialId := if approval.selection then some selectedCredentialId else none
  actorUserId := approval.request.auth.userId
  costCeiling := approval.request.costCeiling
  priceChangeRiskAccepted :=
    decide (account.mode = .live) && approval.request.acceptPriceChangeRisk

def approveOperation (prior : Option (RowId × RegistrarOperation)) (row : RegistrarOperation)
    (db : Database) : Except Failure (Database × RowId) :=
  match prior with
  | some (id, _) => .ok (db, id)
  | none => db.createRegistrarOperation row

def pendingDomain (approval : Approval) (domain : Domain) : Domain :=
  { domain with
    state := .pending
    executionAccountId :=
      if approval.selection then some approval.selectedAccountId else domain.executionAccountId }

def registrationEvent (eventType : OutboxEventType) (idempotencyKey : OutboxKey)
    (operationId : RowId) : OutboxEvent where
  aggregateType := .registrarOperation
  aggregateId := operationId
  eventType := eventType
  idempotencyKey := idempotencyKey
  payload := .registrarOperation operationId

/-- The transaction of `approve`; its result is the registration. -/
def approveTransaction (approval : Approval) (now : ℕ) :
    Tx RowId := fun db => do
  let domain ← orThrow missing (db.domains.get? approval.request.domainId)
  let invoiceId ← orThrow (deny "Registration billing records are unavailable.") domain.invoiceId
  require (domain.origin ≠ .existing) (deny "Registration billing records are unavailable.")
  let account ← orThrow missing (db.registrarAccounts.get? approval.selectedAccountId)
  requireAccount settings account
  require (verifiedDomainInvoice db invoiceId domain.customerId = true)
    (deny "A fully verified, unadjusted BDT payment is required.")
  let prior := operationOf db approval.request.domainId
  require (∀ entry ∈ prior, entry.2.claimedAt = none)
    (deny "This operation is already claimed. Use read-only reconciliation.")
  let credentialId ← orThrow missing (latestCredential db domain.accountId)
  let selectedCredentialId ← orThrow missing (latestCredential db approval.selectedAccountId)
  require (selectedCredentialId = approval.checkedCredentialId)
    (deny "Registrar credentials changed during approval. Review again.")
  require (∀ entry ∈ prior, entry.2.effectiveAccount = approval.selectedAccountId)
    (deny "The approved registrar cannot be changed. Reconcile this request instead.")
  let (db, operationId) ← approveOperation prior
    (approvedOperation approval domain account credentialId selectedCredentialId now) db
  require (∀ entry ∈ prior, entry.2.costCeiling = approval.request.costCeiling)
    (deny "The approved cost ceiling cannot be changed on an existing operation.")
  let db ← db.updateDomain approval.request.domainId (pendingDomain approval)
  let db := db.createRegistrarEvidence operationId .fullAdminMfaApproved
  -- A fresh UUID ends the key; the position of the event stands for it.
  let db ← db.createOutboxEvent (registrationEvent .domainRegistrationRequested
    (.domainRegistration operationId db.outboxEvents.size) operationId)
  return (db, operationId)

/-- **What a committed approval does**: it puts the domain before the registration, which is a new
one or one that nobody has claimed. -/
structure Approved (approval : Approval) (now : ℕ) (db db' : Database) (operationId : RowId)
    (operation : RegistrarOperation) : Prop where
  domainId : operation.domainId = approval.request.domainId
  costCeiling : operation.costCeiling = approval.request.costCeiling
  unclaimed : operation.claimedAt = none
  operations : (db.registrarOperations.get? operationId = some operation ∧
      db'.registrarOperations = db.registrarOperations) ∨
    (operationId = db.registrarOperations.size ∧
      (∀ id other, db.registrarOperations.get? id = some other →
        other.domainId ≠ operation.domainId) ∧
      db'.registrarOperations = db.registrarOperations.insert operation)
  domain : (db.domains.get? approval.request.domainId).isSome
  domains : db'.domains = db.domains.update approval.request.domainId (pendingDomain approval)
  actions : db'.domainActions = db.domainActions

variable {settings} {now : ℕ} {db db' : Database}

theorem approveTransaction_eq_ok {approval : Approval} {operationId : RowId}
    (h : approveTransaction settings approval now db = .ok (db', operationId)) :
    ∃ operation, Approved approval now db db' operationId operation ∧ SameOrderTables
      { db with domains := db'.domains, registrarOperations := db'.registrarOperations } db' := by
  simp only [approveTransaction, bind_eq_ok, orThrow_eq_ok, require_eq_ok, exists_const] at h
  obtain ⟨domain, hdomain, invoiceId, -, -, account, -, -, -, -, hunclaimed, credentialId, -,
    selectedCredentialId, -, -, -, ⟨db₁, id⟩, happrove, hceiling, db₂, hwrite, db₃, hevent, h⟩ := h
  obtain ⟨_, -, -, -, -, rfl⟩ := Database.updateDomain_eq_ok _ hwrite
  obtain ⟨-, rfl⟩ := (Database.createOutboxEvent_eq_ok _).1 hevent
  rw [pure_eq_ok] at h
  obtain ⟨rfl, rfl⟩ := Prod.mk.inj h
  cases hprior : operationOf db approval.request.domainId with
  | some entry =>
    obtain ⟨priorId, prior⟩ := entry
    rw [hprior] at happrove hunclaimed hceiling
    obtain ⟨rfl, rfl⟩ := Prod.mk.inj (Except.ok.inj happrove)
    obtain ⟨hget, hp⟩ := Table.find?_eq_some hprior
    exact ⟨prior, ⟨of_decide_eq_true hp, hceiling (_, prior) rfl, hunclaimed (_, prior) rfl,
      Or.inl ⟨hget, rfl⟩, by rw [hdomain]; rfl, rfl, rfl⟩, rfl, rfl, rfl, rfl, rfl, rfl⟩
  | none =>
    rw [hprior] at happrove
    obtain ⟨hfree, heq⟩ := Database.createRegistrarOperation_eq_ok _ happrove
    obtain ⟨rfl, rfl⟩ := Prod.mk.inj heq
    exact ⟨_, ⟨rfl, rfl, rfl, .inr ⟨rfl, hfree, rfl⟩, by rw [hdomain]; rfl, rfl, rfl⟩,
      rfl, rfl, rfl, rfl, rfl, rfl⟩

inductive ApproveState
  | check (request : ApproveRequest)
  | quoting (approval : Approval)
  | transact (approval : Approval) (cost : RegistrarQuote)
  | done (result : Except Failure RowId)

def approvable (approval : Approval) (cost : RegistrarQuote) : Prop :=
  cost.available = true ∧ cost.costAmount ≤ approval.request.costCeiling
deriving Decidable

def approveStep (settings : RegistrarSettings) (w : World) (db : Database) :
    ApproveState → Option (Database × ApproveState)
  | .check request =>
    match checkApproval settings w.registrarContextAvailable request db with
    | .ok approval => some (db, .quoting approval)
    | .error e => some (db, .done (.error e))
  | .quoting approval =>
    match w.registrarQuote with
    | .ok cost =>
      if approvable approval cost then some (db, .transact approval cost)
      else some (db, .done (.error
        (deny "Availability or the approved native cost ceiling changed.")))
    | .error _ => some (db, .done (.error (deny
        "Registrar availability or cost could not be verified. No registration was submitted.")))
  | .transact approval _ =>
    let out := atomically (approveTransaction settings approval w.now) db
    some (out.1, .done out.2)
  | .done _ => none

/-- `DomainService.approve`. -/
def approve (settings : RegistrarSettings) : Operation Database World where
  Request := ApproveRequest
  Local := ApproveState
  start := .check
  step := approveStep settings

/-! ## Asking for another lookup -/

structure ReconcileRequest where
  domainId : RowId
  auth : AuthIdentity

/-- `reconcile`: its reads and the one row it writes. -/
def reconcileTransaction (settings : RegistrarSettings) (request : ReconcileRequest) (now : ℕ) :
    Tx Unit := fun db => do
  requireRuntime settings
  administrator request.auth
  let unclaimed :=
    deny "Only a claimed operation can be reconciled; this action cannot register."
  let (operationId, operation) ← orThrow unclaimed (operationOf db request.domainId)
  let account ← orThrow missing (db.registrarAccounts.get? operation.effectiveAccount)
  requireAccount settings account
  require (operation.claimedAt.isSome) unclaimed
  require (operation.pollCount < 10 ∧ operation.nextPollAt ≤ now)
    (deny "The read-only polling budget is exhausted or not yet available.")
  let db ← db.createOutboxEvent (registrationEvent .domainRegistrationReconcile
    (.domainReconcile operationId db.outboxEvents.size) operationId)
  return (db, ())

theorem reconcileTransaction_eq_ok {request : ReconcileRequest} {u : Unit}
    (h : reconcileTransaction settings request now db = .ok (db', u)) :
    ∃ events, db' = { db with outboxEvents := events } := by
  simp only [reconcileTransaction, bind_eq_ok] at h
  obtain ⟨-, -, -, -, ⟨id, operation⟩, -, account, -, -, -, -, -, -, -, db₁, hevent, h⟩ := h
  obtain ⟨-, rfl⟩ := (db.createOutboxEvent_eq_ok).1 hevent
  rw [pure_eq_ok] at h
  exact ⟨_, (Prod.mk.inj h).1.symm⟩

inductive ReconcileState
  | transact (request : ReconcileRequest)
  | done (result : Except Failure Unit)

def reconcileStep (settings : RegistrarSettings) (w : World) (db : Database) :
    ReconcileState → Option (Database × ReconcileState)
  | .transact request =>
    let out := atomically (reconcileTransaction settings request w.now) db
    some (out.1, .done out.2)
  | .done _ => none

/-- `DomainService.reconcile`. -/
def reconcile (settings : RegistrarSettings) : Operation Database World where
  Request := ReconcileRequest
  Local := ReconcileState
  start := .transact
  step := reconcileStep settings

/-! ## New domains -/

structure NewDomain where
  customerId : RowId
  accountId : RowId
  domainName : String
  quoteId : Option RowId := none
  orderItemId : Option RowId := none
  invoiceId : Option RowId := none
  /-- The credential, the order and the expiry that a linked domain was verified by. -/
  link : Option (RowId × String × ℕ) := none

def NewDomain.row (input : NewDomain) : Domain :=
  match input.link with
  | none =>
    { customerId := input.customerId
      accountId := input.accountId
      domainName := input.domainName
      quoteId := input.quoteId
      orderItemId := input.orderItemId
      invoiceId := input.invoiceId }
  | some (credentialId, orderId, expiresAt) =>
    { customerId := input.customerId
      accountId := input.accountId
      domainName := input.domainName
      origin := .existing
      state := .registered
      executionAccountId := some input.accountId
      linkCredentialId := some credentialId
      providerOrderId := some orderId
      expiresAt := some expiresAt }

inductive CreateDomainState
  | transact (input : NewDomain)
  | done (result : Except Failure RowId)

def createDomainStep (_ : World) (db : Database) :
    CreateDomainState → Option (Database × CreateDomainState)
  | .transact input =>
    let out := atomically (fun db => db.createDomain input.row) db
    some (out.1, .done out.2)
  | .done _ => none

/-- The insertion that an order of a domain, and the linking of one, come down to. -/
def createDomain : Operation Database World where
  Request := NewDomain
  Local := CreateDomainState
  start := .transact
  step := createDomainStep

end DomainService

end WebhostBilling
