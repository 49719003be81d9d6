import WebhostBilling.Auth.AccountStatus
import WebhostBilling.Auth.AuthOperations
import WebhostBilling.Concurrency.Traces
import WebhostBilling.Staff.StaffService

/-!
# Support sessions

A full administrator may look at the portal as a customer sees it, with a second cookie.
`SessionAuthGuard` gives such a request the customer's identity, refuses it, or lets it pass without
an identity.  It reads the administrator's session first, and then the support session.

The guards that come after this one can only refuse a request and are not modelled.
-/

namespace WebhostBilling

open Store Concurrency

namespace Support

open Auth

/-! ## The store -/

structure CustomerProfile where
  userId : RowId
  status : Accounts.CustomerStatus := .active
  deleted : Bool := false

structure CustomerSupportSession where
  adminSessionId : RowId
  customerId : RowId
  expiresAt : ℕ
  endedAt : Option ℕ := none

structure SupportStore where
  staff : StaffStore := {}
  customers : Table CustomerProfile := ∅
  customerSupportSessions : Table CustomerSupportSession := ∅

/-- What a step is told from outside: what the steps of the authentication are told, and that the
transaction of a staff operation is aborted. -/
structure SupportWorld extends AuthWorld where
  aborted : Bool := false

/-- A support session that was started or ended. -/
inductive SupportEvent
  | started (sessionId adminSessionId customerId startedAt : ℕ)
  | ended (sessionId : RowId)

/-- `eligibleSupportCustomer`. -/
def eligibleSupportCustomer (db : AuthDatabase) (customer : CustomerProfile) : Bool :=
  customer.status = .active ∧ customer.deleted = false ∧
    (db.users.get? customer.userId).any fun user =>
      user.role = .customer ∧ user.status = .active ∧ user.deleted = false ∧
        user.emailVerified = true

/-! ## The administrator's session -/

structure SessionContext where
  sessionId : RowId
  userId : RowId
  role : UserRole
  staffRole : Option StaffRole

/-- The session with a token, as `authenticateSession` reads it. -/
def contextOf (sessionId : RowId) (db : AuthDatabase) : Option SessionContext := do
  let session ← db.authSessions.get? sessionId
  let user ← db.users.get? session.userId
  return ⟨sessionId, session.userId, user.role, user.staffRole⟩

def fullAdministratorRequired : Failure :=
  .application .forbidden "Full administrator access is required."

/-- What `requireFullAdministrator` asks for. -/
def SessionContext.fullAdministrator (context : SessionContext) : Bool :=
  context.role = .admin ∧ context.staffRole = some .fullAdministrator

/-! ## Starting and ending -/

structure StartRequest where
  admin : SessionContext
  customerId : RowId

inductive StartState
  | preparing (request : StartRequest)
  | creating (request : StartRequest) (startedAt : ℕ)
  | done (result : Except Failure RowId)

def supportSessionTtl : ℕ := 15 * 60 * 1000

/-- The transaction of `startCustomerSupportSession`. -/
def createSupportSession (request : StartRequest) (startedAt : ℕ) :
    Transaction SupportStore Failure RowId := fun s => do
  require ((s.customers.get? request.customerId).any
      (eligibleSupportCustomer s.staff.auth) = true)
    (.application .resourceNotFound "An active, verified customer account is required.")
  require ((s.staff.auth.authSessions.get? request.admin.sessionId).isSome) .checkConstraint
  return ({ s with
    customerSupportSessions := s.customerSupportSessions.insert
      { adminSessionId := request.admin.sessionId, customerId := request.customerId
        expiresAt := startedAt + supportSessionTtl } }, s.customerSupportSessions.size)

variable (settings : AuthSettings) (w : SupportWorld)

def startStep (s : SupportStore) :
    StartState → Option (SupportStore × StartState)
  | .preparing request =>
    if request.admin.fullAdministrator = true then some (s, .creating request w.now)
    else some (s, .done (.error fullAdministratorRequired))
  | .creating request startedAt =>
    let out := atomically (createSupportSession request startedAt) s
    some (out.1, .done out.2)
  | .done _ => none

/-- `startCustomerSupportSession`. -/
def startCustomerSupportSession : Operation SupportStore SupportWorld where
  Request := StartRequest
  Local := StartState
  start := .preparing
  step := startStep

structure EndRequest where
  adminToken : Option RowId
  supportToken : Option RowId

inductive EndState
  | ending (request : EndRequest)
  | done (customerId : Option RowId)

def EndRequest.found (request : EndRequest) (s : SupportStore) :
    Option (RowId × CustomerSupportSession) := do
  let adminToken ← request.adminToken
  let supportToken ← request.supportToken
  let session ← s.customerSupportSessions.get? supportToken
  guard (session.adminSessionId = adminToken)
  return (supportToken, session)

/-- `updateMany` of the session, which does not end it again. -/
def SupportStore.endSession (s : SupportStore) (sessionId now : ℕ) : SupportStore :=
  { s with
    customerSupportSessions := s.customerSupportSessions.updateWhere
      (fun id session => id = sessionId ∧ session.endedAt = none)
      fun session => { session with endedAt := some now } }

def endStep (s : SupportStore) : EndState → Option (SupportStore × EndState)
  | .ending request =>
    match request.found s with
    | some (sessionId, session) => some (s.endSession sessionId w.now, .done (some session.customerId))
    | none => some (s, .done none)
  | .done _ => none

/-- `endCustomerSupportSession`. -/
def endCustomerSupportSession : Operation SupportStore SupportWorld where
  Request := EndRequest
  Local := EndState
  start := .ending
  step := endStep

/-! ## Requests -/

inductive SupportAccess
  | read
  | end
deriving DecidableEq

structure Handler where
  isPublic : Bool := false
  access : Option SupportAccess := none

structure ApiRequest where
  handler : Handler
  method : String
  sessionToken : Option RowId := none
  supportToken : Option RowId := none

def ApiRequest.read (request : ApiRequest) : Bool :=
  request.method = "GET" ∨ request.method = "HEAD"

structure SupportIdentity where
  sessionId : RowId
  customerId : RowId
  userId : RowId
  administratorId : RowId

/-- `request.auth`. -/
inductive RequestAuth
  | own (context : SessionContext)
  | support (identity : SupportIdentity)

inductive RequestState
  | guarding
  | authenticating (sessionToken : RowId)
  | writing (context : Option SessionContext) (state : AuthService.AuthenticateState)
  | resolving (context : SessionContext) (supportToken : RowId)
  | done (result : Except Failure (Option RequestAuth))

def endSupportFirst : Failure :=
  .application .forbidden "End the read-only support session before performing this action."

/-- What `canActivate` does before it looks at the database. -/
def canActivate (request : ApiRequest) : RequestState :=
  if request.supportToken.isSome then
    if request.handler.isPublic = true ∧ ((request.read = true ∧ request.handler.access = some .read) ∨
        request.handler.access = some .end) then .done (.ok none)
    else if request.read = false ∨ request.handler.access ≠ some .read then
      .done (.error endSupportFirst)
    else match request.sessionToken with
      | some token => .authenticating token
      | none => .done (.error AuthService.authenticationRequired)
  else if request.handler.isPublic = true then .done (.ok none)
  else match request.sessionToken with
    | some token => .authenticating token
    | none => .done (.error AuthService.authenticationRequired)

def afterAuthentication (request : ApiRequest) (context : SessionContext) : RequestState :=
  match request.supportToken with
  | none => .done (.ok (some (.own context)))
  | some supportToken =>
    if context.fullAdministrator = true then .resolving context supportToken
    else .done (.error fullAdministratorRequired)

/-- How a request goes on with what `authenticateSession` has come to. -/
def proceed (request : ApiRequest) (context : Option SessionContext) :
    AuthService.AuthenticateState → RequestState
  | .done (.ok _) => context.elim (.done (.error AuthService.authenticationRequired))
      (afterAuthentication request)
  | .done (.error e) => .done (.error e)
  | pending => .writing context pending

/-- The query of `authenticateCustomerSupportSession`. -/
def findSupportSession (s : SupportStore) (now adminSessionId supportToken : ℕ) :
    Option (CustomerSupportSession × CustomerProfile) := do
  let session ← s.customerSupportSessions.get? supportToken
  let customer ← s.customers.get? session.customerId
  guard (session.adminSessionId = adminSessionId ∧ session.endedAt = none ∧
    now < session.expiresAt ∧ eligibleSupportCustomer s.staff.auth customer = true)
  return (session, customer)

def requestStep (s : SupportStore) (request : ApiRequest) :
    RequestState → Option (SupportStore × RequestState)
  | .guarding => some (s, canActivate request)
  | .authenticating token =>
    some (s, proceed request (contextOf token s.staff.auth)
      (AuthService.readSession settings w.toAuthWorld token s.staff.auth))
  | .writing context state =>
    (AuthService.authenticateStep settings w.toAuthWorld s.staff.auth state).map fun out =>
      ({ s with staff := { s.staff with auth := out.1 } }, proceed request context out.2)
  | .resolving context supportToken =>
    match findSupportSession s w.now context.sessionId supportToken with
    | some (session, customer) =>
      some (s, .done (.ok (some (.support
        ⟨supportToken, session.customerId, customer.userId, context.userId⟩))))
    | none => some (s, .done (.error AuthService.invalidCredentials))
  | .done _ => none

/-- A request on its way through `SessionAuthGuard`. -/
def apiRequest : Operation SupportStore SupportWorld where
  Request := ApiRequest
  Local := ApiRequest × RequestState
  start request := (request, .guarding)
  step w s l := (requestStep settings w s l.1 l.2).map fun out => (out.1, (l.1, out.2))

/-! ## The operations -/

def elsewhere : Operation SupportStore SupportWorld where
  Request := SupportStore
  Local := Option SupportStore
  start := some
  step _ s pending := pending.map fun written =>
    ({ written with customerSupportSessions := s.customerSupportSessions }, none)

inductive SupportKind
  | startCustomerSupportSession
  | endCustomerSupportSession
  | apiRequest
  | auth (kind : AuthKind)
  | staff (kind : StaffService.StaffKind)
  | elsewhere

def supportOps (staffSettings : StaffSettings) :
    SupportKind → Operation SupportStore SupportWorld
  | .startCustomerSupportSession => startCustomerSupportSession
  | .endCustomerSupportSession => endCustomerSupportSession
  | .apiRequest => apiRequest settings
  | .auth kind => (authOperations settings kind).within (fun s => s.staff.auth)
      (fun auth s => { s with staff := { s.staff with auth } }) SupportWorld.toAuthWorld
  | .staff kind => (StaffService.staffOperations staffSettings kind).within SupportStore.staff
      (fun staff s => { s with staff }) fun w => ⟨w.now, w.aborted⟩
  | .elsewhere => elsewhere

def supportEvents (staffSettings : StaffSettings) :
    (kind : SupportKind) → SupportWorld → SupportStore →
      (supportOps settings staffSettings kind).Local → List SupportEvent
  | .startCustomerSupportSession, _, s, .creating request startedAt =>
    match createSupportSession request startedAt s with
    | .ok (_, id) => [.started id request.admin.sessionId request.customerId startedAt]
    | .error _ => []
  | .endCustomerSupportSession, _, s, .ending request =>
    match request.found s with
    | some (sessionId, session) => if session.endedAt = none then [.ended sessionId] else []
    | none => []
  | _, _, _, _ => []

end Support

end WebhostBilling
