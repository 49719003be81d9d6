import WebhostBilling.Concurrency.Threads
import WebhostBilling.Database.DomainGuard
import WebhostBilling.Database.OrderGuard
import WebhostBilling.Database.World

/-!
# The registration of domains

`RegistrarProcessor.process` claims a registration in a transaction, asks the registrar for the
price and for what it already has under the name, prepares the contacts, and sends one registration;
then, and on every later delivery, it only looks up what the registrar has and records it.  A
redelivered job finds the claim of an earlier one, and nothing else tells it what was sent.
-/

namespace WebhostBilling

open Store Concurrency

/-! ## What is outstanding at an account -/

def Database.registrationOutstanding (db : Database) (accountId : RowId)
    (except : Option RowId) : Bool :=
  db.registrarOperations.any fun id operation => some id ≠ except ∧ operation.claimedAt.isSome ∧
    operation.effectiveAccount = accountId ∧
    (db.domains.get? operation.domainId).any fun domain => ¬ domain.state.resolved

def Database.actionOutstanding (db : Database) (accountId : RowId) (except : Option RowId) : Bool :=
  db.domainActions.any fun id action => some id ≠ except ∧ action.accountId = accountId ∧
    action.claimedAt.isSome ∧ ¬ action.state.terminal

/-! ## Paid invoices -/

def verifiedCharge (invoiceId : RowId) (payment : Payment) : Bool :=
  payment.invoiceId = invoiceId ∧ payment.status = .succeeded ∧ payment.kind = .charge ∧
    payment.verifiedAt.isSome

def verifiedDomainInvoice (db : Database) (invoiceId customerId : RowId) : Bool :=
  match db.invoices.get? invoiceId with
  | none => false
  | some invoice =>
    decide (invoice.customerId = customerId ∧ invoice.status = .paid ∧ invoice.currency = "BDT" ∧
      0 < invoice.total ∧ invoice.balanceDue = 0 ∧ invoice.amountPaid = invoice.total) &&
    !(db.payments.any fun _ payment => payment.invoiceId = invoiceId ∧
      payment.status = .succeeded ∧ (payment.kind ≠ .charge ∨
        payment.currency ≠ invoice.currency ∨ payment.verifiedAt = none)) &&
    decide (db.payments.total (verifiedCharge invoiceId) (·.amount) = invoice.total)

namespace RegistrarProcessor

structure RegistrarSettings where
  simulationAllowed : Bool
  liveAllowed : Bool

structure RegistrarIntent where
  operationId : RowId
  accountId : RowId
  customerId : RowId
  domainName : String
  nameservers : List String
  costCeiling : ℤ

structure Job where
  domainId : RowId
  orderItemId : RowId
  mode : RegistrarMode
  intent : RegistrarIntent

/-! ## The preparation -/

/-- A row that a foreign key promises is missing. -/
def notFound : Option Failure := some (.error "P2025")

def unreadable : Option Failure := some (.error "Registrar evidence is unreadable.")

variable (settings : RegistrarSettings)

def modeAllowed (account : RegistrarAccount) (operation : RegistrarOperation) : Prop :=
  match account.mode with
  | .fake => settings.simulationAllowed = true
  | .live => settings.liveAllowed = true ∧ operation.priceChangeRiskAccepted = true

instance (settings : RegistrarSettings) (account : RegistrarAccount)
    (operation : RegistrarOperation) : Decidable (modeAllowed settings account operation) := by
  unfold modeAllowed
  split <;> infer_instance

def selectionCovered (operation : RegistrarOperation) (quote : DomainQuote)
    (config : RegistrarConfiguration) (nameservers : List String) : Prop :=
  match quote.eligibleRegistrars with
  | some eligible => operation.effectiveAccount ∈ eligible ∧ operation.selectedAccountId.isSome
  | none =>
    match config with
    | .connection _ => False
    | .resellbiz _ configured => nameservers = configured

instance (operation : RegistrarOperation) (quote : DomainQuote) (config : RegistrarConfiguration)
    (nameservers : List String) :
    Decidable (selectionCovered operation quote config nameservers) :=
  match quote, config with
  | { eligibleRegistrars := some _, .. }, _ => inferInstanceAs (Decidable (_ ∧ _))
  | { eligibleRegistrars := none, .. }, .connection _ => inferInstanceAs (Decidable False)
  | { eligibleRegistrars := none, .. }, .resellbiz .. => inferInstanceAs (Decidable (_ = _))

def requireLive (account : RegistrarAccount) (operation : RegistrarOperation) (quote : DomainQuote)
    (credential : RegistrarCredential) (nameservers : List String) :
    Except (Option Failure) Unit :=
  match account.mode with
  | .fake => .ok ()
  | .live => do
    let config ← orThrow unreadable account.configuration
    require (config = .connection config.resellerId → account.nativeCostConfirmed = true) none
    let resellerId ← orThrow unreadable credential.resellerId
    require (resellerId = config.resellerId ∧ quote.agreement = "resellbiz-registration-v1" ∧
      selectionCovered operation quote config nameservers) none

structure Prepared where
  operation : RegistrarOperation
  domain : Domain
  account : RegistrarAccount
  orderItemId : RowId
  invoiceId : RowId
  job : Job

/-- The reads of a preparation and the checks that every delivery has to pass.  `none` is what the
transaction fails with where the source returns null. -/
def prepared (operationId now : ℕ) (db : Database) :
    Except (Option Failure) Prepared := do
  let operation ← orThrow notFound (db.registrarOperations.get? operationId)
  let domain ← orThrow notFound (db.domains.get? operation.domainId)
  let account ← orThrow notFound (db.registrarAccounts.get? operation.effectiveAccount)
  let origin ← orThrow notFound (db.registrarAccounts.get? operation.accountId)
  require (account.mode = origin.mode ∧ (operation.selectedAccountId.isSome →
    domain.executionAccountId = some operation.effectiveAccount)) none
  require (account.enabled = true ∧ modeAllowed settings account operation ∧
    account.provider = "stargate" ∧ ¬ domain.state.resolved) none
  require (operation.pollCount < 10 ∧ (operation.claimedAt.isSome → operation.nextPollAt ≤ now)) none
  require (domain.origin ≠ .existing) none
  let quoteId ← orThrow none domain.quoteId
  let orderItemId ← orThrow none domain.orderItemId
  let invoiceId ← orThrow none domain.invoiceId
  let quote ← orThrow notFound (db.domainQuotes.get? quoteId)
  let credential ← orThrow notFound
    (db.registrarCredentials.get? (operation.selectedCredentialId.getD operation.credentialId))
  require (credential.accountId = operation.effectiveAccount) none
  require (credential.readable = true ∧ quote.contactReadable = true) unreadable
  let nameservers ← orThrow unreadable quote.nameservers
  requireLive account operation quote credential nameservers
  let intent : RegistrarIntent :=
    ⟨operationId, operation.effectiveAccount, domain.customerId, domain.domainName, nameservers,
      operation.costCeiling⟩
  return ⟨operation, domain, account, orderItemId, invoiceId,
    ⟨operation.domainId, orderItemId, account.mode, intent⟩⟩

def eligible (p : Prepared) (order : Order) (db : Database) : Bool :=
  (db.users.get? p.operation.actorUserId).any (fun approver =>
    approver.role = .admin ∧ approver.active = true ∧ approver.deleted = false ∧
    approver.staffRole = some .fullAdministrator ∧ approver.totpEnabledAt.isSome) &&
  (db.customers.get? p.domain.customerId).any (fun customer =>
    customer.active = true ∧ customer.deleted = false ∧
    (p.account.mode = .live → customer.emailVerified = true)) &&
  decide (order.status = .paid ∨ order.status = .processing) &&
  verifiedDomainInvoice db p.invoiceId p.domain.customerId

def orderOf (p : Prepared) (db : Database) : Except (Option Failure) Order := do
  let item ← orThrow notFound (db.orderItems.get? p.orderItemId)
  orThrow notFound (db.orders.get? item.orderId)

def failing {α : Type} : Except Failure α → Except (Option Failure) α
  | .ok a => .ok a
  | .error e => .error (some e)

def reservePoll (claimedAt : Option ℕ) (now : ℕ) (operation : RegistrarOperation) :
    RegistrarOperation :=
  { operation with claimedAt, pollCount := operation.pollCount + 1, nextPollAt := now + 360000 }

def inState (state : DomainState) (domain : Domain) : Domain := { domain with state }

def prepareTransaction (operationId now : ℕ) :
    Transaction Database (Option Failure) (Option (Job × Bool)) := fun db => do
  let p ← prepared settings operationId now db
  if p.operation.claimedAt.isSome then do
    let db ← failing
      (db.updateRegistrarOperation operationId (reservePoll p.operation.claimedAt now))
    return (db, some (p.job, false))
  else do
    require (p.account.mode = .live →
      db.actionOutstanding p.operation.effectiveAccount none = false) none
    let order ← orderOf p db
    if eligible p order db = false then do
      let db ← failing (db.updateDomain p.operation.domainId (inState .awaitingApproval))
      return (db.createRegistrarEvidence operationId .paymentOrOwnerIneligible, none)
    else do
      -- One mutation may be outstanding at an account, whichever of the two tables it is in.
      require (db.actionOutstanding p.operation.effectiveAccount none = false) none
      require (db.registrationOutstanding p.operation.effectiveAccount (some operationId) = false)
        none
      let db ← failing (db.updateRegistrarOperation operationId (reservePoll (some now) now))
      let db ← failing (db.updateDomain p.operation.domainId (inState .needsReconciliation))
      return (db.createRegistrarEvidence operationId .dispatchClaimed, some (p.job, true))

/-! ## Recording the outcome -/

def RegistrarObservation.isOf (intent : RegistrarIntent) (now : ℕ)
    (observation : RegistrarObservation) : Bool :=
  observation.accountId = intent.accountId ∧ observation.customerId = intent.customerId ∧
    observation.operationId = intent.operationId ∧ observation.domainName = intent.domainName ∧
    observation.expiresAt.any (now < ·)

def stateOf : Option RegistrarObservation → DomainState
  | none => .needsReconciliation
  | some observation =>
    match observation.state with
    | .active => .registered
    | .rejected => .failed
    | .inactive => .needsReconciliation

def recordedDomain (observation : Option RegistrarObservation) (domain : Domain) : Domain :=
  match stateOf observation, observation with
  | .registered, some found =>
    { domain with
      state := .registered
      providerOrderId := some found.orderId
      expiresAt := found.expiresAt
      verification := found.verification }
  | state, _ => { domain with state }

def outcomeCode : DomainState → RegistrarEvidenceCode
  | .registered => .ownershipAndExpiryConfirmed
  | .failed => .providerRejected
  | _ => .manualReconciliationRequired

/-- The next read is due soon after the first two. -/
def nextPoll (now : ℕ) (operation : RegistrarOperation) : RegistrarOperation :=
  { operation with
    nextPollAt := now +
      (if operation.pollCount = 1 then 15 else if operation.pollCount = 2 then 30 else 360) * 1000 }

def progressOrder (orderItemId now : ℕ) (db : Database) : Except Failure Database := do
  let item ← orThrow (.error "P2025") (db.orderItems.get? orderItemId)
  if db.orderFulfillmentComplete item.orderId = true then
    db.updateOrder item.orderId fun order =>
      { order with status := .completed, completedAt := some now, updatedAt := now }
  else
    db.updateOrder item.orderId fun order => { order with status := .processing, updatedAt := now }

def recordTransaction (job : Job) (observation : Option RegistrarObservation) (now : ℕ) :
    Tx Unit := fun db => do
  let _ ← orThrow (.error "P2025") (db.registrarOperations.get? job.intent.operationId)
  let current ← orThrow (.error "P2025") (db.domains.get? job.domainId)
  if current.state.resolved then
    return (db, ())
  else do
    let found := observation.filter (RegistrarObservation.isOf job.intent now)
    let db ← db.updateRegistrarOperation job.intent.operationId (nextPoll now)
    let db ← db.updateDomain job.domainId (recordedDomain found)
    let db := db.createRegistrarEvidence job.intent.operationId (outcomeCode (stateOf found))
    if stateOf found = .registered then do
      let db ← progressOrder job.orderItemId now db
      return (db, ())
    else
      return (db, ())

/-! ## A delivery -/

/-- How far a delivery is.  The states from `quoting` to `registering` are those of a delivery that
made the claim. -/
inductive ProcessState
  | locate (operationId : RowId)
  | prepare (operationId : RowId)
  | quoting (job : Job)
  | searching (job : Job) (cost : RegistrarQuote)
  | contacting (job : Job)
  | requoting (job : Job)
  | registering (job : Job)
  | observing (job : Job)
  | recording (job : Job) (observation : Option RegistrarObservation)
  | done

/-- The price may be paid, and there is nothing under the name yet. -/
def dispatchable (job : Job) (cost : RegistrarQuote) (existing : Option RegistrarObservation) :
    Prop :=
  existing = none ∧ cost.available = true ∧ cost.costCurrency = "USD" ∧
    (cost.simulated = true ↔ job.mode = .fake) ∧ cost.costAmount ≤ job.intent.costCeiling ∧
    0 < cost.costAmount
deriving Decidable

/-- `registerOnce` asks for the price once more. -/
def registrable (job : Job) (cost : RegistrarQuote) : Prop :=
  0 < job.intent.costCeiling ∧ cost.available = true ∧ cost.costAmount ≤ job.intent.costCeiling
deriving Decidable

/-- Whatever fails on the way to a registration, its outcome is looked up. -/
def uncertain (job : Job) (db : Database) : Option (Database × ProcessState) :=
  some (db.createRegistrarEvidence job.intent.operationId .mutationOutcomeUncertain, .observing job)

def processStep (w : World) (db : Database) :
    ProcessState → Option (Database × ProcessState)
  | .locate operationId =>
    match (db.registrarOperations.get? operationId).bind fun locator =>
        db.domains.get? locator.domainId with
    | none => some (db, .done)
    | some located =>
      if located.origin = .existing ∨ located.invoiceId = none ∨ located.quoteId = none ∨
          located.orderItemId = none then some (db, .done)
      else some (db, .prepare operationId)
  | .prepare operationId =>
    let out := atomically (prepareTransaction settings operationId w.now) db
    match out.2 with
    | .ok (some (job, true)) => some (out.1, .quoting job)
    | .ok (some (job, false)) => some (out.1, .observing job)
    | .ok none | .error _ => some (out.1, .done)
  | .quoting job =>
    match w.registrarQuote with
    | .ok cost => some (db, .searching job cost)
    | .error _ => uncertain job db
  | .searching job cost =>
    match w.registrarLookup with
    | .ok existing =>
      if dispatchable job cost existing then some (db, .contacting job)
      else some (db.createRegistrarEvidence job.intent.operationId .preDispatchConflict, .done)
    | .error _ => uncertain job db
  | .contacting job =>
    match w.registrarCall with
    | .ok () => some (db, .requoting job)
    | .error _ => uncertain job db
  | .requoting job =>
    match w.registrarQuote with
    | .ok cost => if registrable job cost then some (db, .registering job) else uncertain job db
    | .error _ => uncertain job db
  | .registering job =>
    match w.registrarCall with
    | .ok () => some (db.createRegistrarEvidence job.intent.operationId .mutationResponseReceived,
        .observing job)
    | .error _ => uncertain job db
  | .observing job =>
    match w.registrarLookup with
    | .ok observation => some (db, .recording job observation)
    | .error _ =>
      some (db.createRegistrarEvidence job.intent.operationId .readOutcomeUncertain, .done)
  | .recording job observation =>
    let out := atomically (recordTransaction job observation w.now) db
    some (out.1, .done)
  | .done => none

/-- `RegistrarProcessor.process`. -/
def process : Operation Database World where
  Request := RowId
  Local := ProcessState
  start := .locate
  step := processStep settings

/-! ## What the transactions do -/

/-- What is known of a preparation whose checks have passed. -/
structure Prepared.Of (p : Prepared) (operationId : RowId) (db : Database) : Prop where
  operation : db.registrarOperations.get? operationId = some p.operation
  domain : db.domains.get? p.operation.domainId = some p.domain
  account : db.registrarAccounts.get? p.operation.effectiveAccount = some p.account
  unresolved : ¬ p.domain.state.resolved
  invoice : p.domain.invoiceId = some p.invoiceId
  orderItem : p.domain.orderItemId = some p.orderItemId
  jobDomain : p.job.domainId = p.operation.domainId
  jobOrderItem : p.job.orderItemId = p.orderItemId
  jobOperation : p.job.intent.operationId = operationId
  jobAccount : p.job.intent.accountId = p.operation.effectiveAccount
  jobCeiling : p.job.intent.costCeiling = p.operation.costCeiling

variable {db db' : Database} {now : ℕ}

variable {settings} {operationId : ℕ}

theorem prepared_eq_ok {p : Prepared} (h : prepared settings operationId now db = .ok p) :
    p.Of operationId db := by
  simp only [prepared, eq_ok] at h
  obtain ⟨operation, hoperation, domain, hdomain, account, haccount, origin, -, -,
    ⟨-, -, -, hunresolved⟩, -, -, quoteId, -, orderItemId, hitem, invoiceId, hinvoice, quote, -,
    credential, -, -, -, nameservers, -, -, -, rfl⟩ := h
  exact ⟨hoperation, hdomain, haccount, hunresolved, hinvoice, hitem, rfl, rfl, rfl, rfl, rfl⟩

theorem failing_eq_ok {α : Type} {x : Except Failure α} {a : α} :
    failing x = .ok a ↔ x = .ok a := by
  cases x <;> simp [failing]

/-- **What a committed preparation does**: one more read is reserved, the registration is sent back
for another approval, or it is claimed. -/
inductive Preparation (settings : RegistrarSettings) (operationId now : ℕ) (db : Database) :
    Database → Option (Job × Bool) → Prop
  | polled {p : Prepared} (hp : p.Of operationId db) (hclaimed : p.operation.claimedAt.isSome)
      (hmoves : p.operation.Moves (reservePoll p.operation.claimedAt now p.operation)) :
      Preparation settings operationId now db
        { db with
          registrarOperations := db.registrarOperations.update operationId
            (reservePoll p.operation.claimedAt now) }
        (some (p.job, false))
  | ineligible {p : Prepared} {evidence : Table RegistrarEvidence} (hp : p.Of operationId db)
      (hunclaimed : p.operation.claimedAt = none) :
      Preparation settings operationId now db
        { db with
          domains := db.domains.update p.operation.domainId (inState .awaitingApproval)
          registrarEvidence := evidence }
        none
  | claimed {p : Prepared} {order : Order} {evidence : Table RegistrarEvidence}
      (hp : p.Of operationId db) (hunclaimed : p.operation.claimedAt = none)
      (heligible : eligible p order db = true)
      (hactions : db.actionOutstanding p.operation.effectiveAccount none = false)
      (hregistrations :
        db.registrationOutstanding p.operation.effectiveAccount (some operationId) = false)
      (hmoves : p.operation.Moves (reservePoll (some now) now p.operation))
      {item : OrderItem} (hitem : db.orderItems.get? p.orderItemId = some item)
      (horder : db.orders.get? item.orderId = some order) :
      Preparation settings operationId now db
        { db with
          registrarOperations := db.registrarOperations.update operationId
            (reservePoll (some now) now)
          domains := db.domains.update p.operation.domainId (inState .needsReconciliation)
          registrarEvidence := evidence }
        (some (p.job, true))

theorem prepareTransaction_eq_ok {r : Option (Job × Bool)}
    (h : prepareTransaction settings operationId now db = .ok (db', r)) :
    Preparation settings operationId now db db' r := by
  rw [prepareTransaction, bind_eq_ok] at h
  obtain ⟨p, hp, h⟩ := h
  have hp := prepared_eq_ok hp
  by_cases hclaimed : p.operation.claimedAt.isSome
  · simp only [if_pos hclaimed, eq_ok, failing_eq_ok] at h
    obtain ⟨db₁, hwrite, h⟩ := h
    obtain ⟨operation, hoperation, hmoves, rfl⟩ := db.updateRegistrarOperation_eq_ok hwrite
    obtain rfl := Option.mem_unique hp.operation hoperation
    obtain ⟨rfl, rfl⟩ := h
    exact .polled hp hclaimed hmoves
  · simp only [if_neg hclaimed, eq_ok] at h
    rw [Bool.not_eq_true, Option.isSome_eq_false_iff, Option.isNone_iff_eq_none] at hclaimed
    obtain ⟨-, order, horder, h⟩ := h
    simp only [orderOf, eq_ok] at horder
    obtain ⟨item, hitem, horder⟩ := horder
    by_cases heligible : eligible p order db = true
    · simp only [heligible, Bool.true_eq_false, if_false, eq_ok, failing_eq_ok] at h
      obtain ⟨hactions, hregistrations, db₁, hwrite, db₂, hdomain, h⟩ := h
      obtain ⟨operation, hoperation, hmoves, rfl⟩ := db.updateRegistrarOperation_eq_ok hwrite
      obtain rfl := Option.mem_unique hp.operation hoperation
      obtain ⟨_, -, -, -, -, rfl⟩ := Database.updateDomain_eq_ok _ hdomain
      obtain ⟨rfl, rfl⟩ := h
      exact .claimed hp hclaimed heligible hactions hregistrations hmoves hitem horder
    · simp only [heligible, if_true, eq_ok, failing_eq_ok] at h
      obtain ⟨db₁, hdomain, h⟩ := h
      obtain ⟨_, -, -, -, -, rfl⟩ := Database.updateDomain_eq_ok _ hdomain
      obtain ⟨rfl, rfl⟩ := h
      exact .ineligible hp hclaimed

/-- The order of a registered domain is completed, or processed while something is missing. -/
def OrderProgressed (orderItemId : RowId) (db : Database) (orders : Table Order) : Prop :=
  ∃ item f status, db.orderItems.get? orderItemId = some item ∧
    (∀ order : Order, (f order).status = status) ∧
    (status = .completed ∧ db.domainOrderGuard item.orderId .completed = .ok () ∧
        db.orderFulfillmentComplete item.orderId = true ∨
      status = .processing ∧ db.orderFulfillmentComplete item.orderId = false) ∧
    orders = db.orders.update item.orderId f

theorem progressOrder_eq_ok {orderItemId : ℕ} (h : progressOrder orderItemId now db = .ok db') :
    ∃ orders, OrderProgressed orderItemId db orders ∧ db' = { db with orders } := by
  rw [progressOrder, bind_eq_ok] at h
  obtain ⟨item, hitem, h⟩ := h
  rw [orThrow_eq_ok] at hitem
  split at h <;> rename_i hcomplete
  · obtain ⟨_, -, hguard, rfl⟩ := db.updateOrder_eq_ok h
    exact ⟨_, ⟨item, _, .completed, hitem, fun _ => rfl, .inl ⟨rfl, hguard, hcomplete⟩, rfl⟩, rfl⟩
  · obtain ⟨_, -, -, rfl⟩ := db.updateOrder_eq_ok h
    exact ⟨_, ⟨item, _, .processing, hitem, fun _ => rfl,
      .inr ⟨rfl, Bool.eq_false_iff.2 hcomplete⟩, rfl⟩, rfl⟩

def recorded (job : Job) (found : Option RegistrarObservation) (operations : Table RegistrarOperation)
    (db : Database) : Database :=
  { db with
    domains := db.domains.update job.domainId (recordedDomain found)
    registrarOperations := operations }

/-- What a recording does: nothing once the outcome is known, and else it writes the outcome, which
may be that nothing is known yet. -/
theorem recordTransaction_eq_ok {job : Job} {observation : Option RegistrarObservation} {u : Unit}
    (h : recordTransaction job observation now db = .ok (db', u)) :
    db' = db ∨ ∃ domain operation found orders evidence,
      db.domains.get? job.domainId = some domain ∧ ¬ domain.state.resolved ∧
      db.registrarOperations.get? job.intent.operationId = some operation ∧
      Database.domainShape (recordedDomain found domain) ∧
      (stateOf found ≠ .registered ∧ orders = db.orders ∨
        stateOf found = .registered ∧ OrderProgressed job.orderItemId (recorded job found
          (db.registrarOperations.update job.intent.operationId (nextPoll now)) db) orders) ∧
      db' = { db with
        registrarOperations := db.registrarOperations.update job.intent.operationId (nextPoll now)
        domains := db.domains.update job.domainId (recordedDomain found)
        orders := orders
        registrarEvidence := evidence } := by
  simp only [recordTransaction, eq_ok] at h
  obtain ⟨operation, hoperation, domain, hdomain, h⟩ := h
  by_cases hresolved : domain.state.resolved
  · rw [if_pos hresolved, pure_eq_ok] at h
    exact .inl (Prod.mk.inj h).1.symm
  · simp only [if_neg hresolved, bind_eq_ok] at h
    obtain ⟨db₁, hpoll, db₂, hwrite, h⟩ := h
    obtain ⟨_, -, -, rfl⟩ := db.updateRegistrarOperation_eq_ok hpoll
    obtain ⟨domain', hdomain', -, hshape, -, rfl⟩ := Database.updateDomain_eq_ok _ hwrite
    obtain rfl := Option.mem_unique (show _ = some domain from hdomain) hdomain'
    refine .inr ⟨domain, operation, observation.filter (RegistrarObservation.isOf job.intent now),
      ?_⟩
    split at h <;> rename_i hstate
    · simp only [eq_ok] at h
      obtain ⟨db₃, horder, h⟩ := h
      obtain ⟨orders, hprogressed, rfl⟩ := progressOrder_eq_ok horder
      obtain ⟨rfl, -⟩ := h
      exact ⟨orders, _, hdomain, hresolved, hoperation, hshape, .inr ⟨hstate, hprogressed⟩, rfl⟩
    · rw [pure_eq_ok] at h
      obtain ⟨rfl, -⟩ := Prod.mk.inj h
      exact ⟨db.orders, _, hdomain, hresolved, hoperation, hshape, .inl ⟨hstate, rfl⟩, rfl⟩

/-! ## The job of a delivery -/

def ProcessState.job : ProcessState → Option Job
  | .quoting job => some job
  | .searching job _ => some job
  | .contacting job => some job
  | .requoting job => some job
  | .registering job => some job
  | .observing job => some job
  | .recording job _ => some job
  | _ => none

/-- The job of a delivery that made the claim and has not sent the registration. -/
def ProcessState.dispatching : ProcessState → Option Job
  | .quoting job => some job
  | .searching job _ => some job
  | .contacting job => some job
  | .requoting job => some job
  | .registering job => some job
  | _ => none

variable {w : World} {job : Job}

theorem job_of_dispatching {l : ProcessState} (h : l.dispatching = some job) : l.job = some job := by
  cases l <;> first | exact h | cases h

/-- A job comes from a preparation, and one that dispatches from a claim. -/
theorem job_of_step {l l' : ProcessState} (h : processStep settings w db l = some (db', l'))
    (hjob : l'.job = some job) :
    l.job = some job ∧ (l'.dispatching = some job → l.dispatching = some job) ∨
      ∃ operationId claimed,
        prepareTransaction settings operationId w.now db = .ok (db', some (job, claimed)) ∧
        (l'.dispatching = some job → claimed = true) := by
  cases l with
  | locate operationId =>
    simp only [processStep] at h
    split at h
    · cases h; cases hjob
    · split at h <;> (cases h; cases hjob)
  | prepare operationId =>
    simp only [processStep] at h
    split at h
    · rename_i job' hresult
      cases h
      cases hjob
      exact .inr ⟨operationId, true, atomically_snd hresult, fun _ => rfl⟩
    · rename_i job' hresult
      cases h
      cases hjob
      exact .inr ⟨operationId, false, atomically_snd hresult, nofun⟩
    · cases h; cases hjob
    · cases h; cases hjob
  | quoting _ | contacting _ | registering _ =>
    simp only [processStep, uncertain] at h
    split at h <;> (cases h; exact .inl ⟨hjob, fun _ => hjob⟩)
  | searching _ _ | requoting _ =>
    simp only [processStep, uncertain] at h
    split at h
    · split at h <;> (cases h; first | exact .inl ⟨hjob, fun _ => hjob⟩ | cases hjob)
    · cases h; exact .inl ⟨hjob, fun _ => hjob⟩
  | observing _ =>
    simp only [processStep] at h
    split at h
    · cases h; exact .inl ⟨hjob, nofun⟩
    · cases h; cases hjob
  | recording _ _ =>
    cases h
    cases hjob
  | done => cases h

end RegistrarProcessor

end WebhostBilling
