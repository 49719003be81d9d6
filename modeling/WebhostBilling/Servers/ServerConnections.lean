import WebhostBilling.Concurrency.Threads
import WebhostBilling.Database.World

/-!
# Servers and the tests of their connections

`updateServer` and `configureCpanelServer` are one transaction each under the lock of the server's
row; `executeConnectionTest` reads the server, records an operation, reads the server again, calls
the panel and records how the call ended, each in a step of its own.

Every reading of the clock is later than the ones before: a step that reads it moves it on.
-/

namespace WebhostBilling

open Store Concurrency

namespace Servers

/-! ## Rows -/

/-- What `CpanelCredentialCipher.encrypt` makes of a token: no two encryptions share their `iv`. -/
structure CredentialCiphertext where
  iv : ℕ
  token : String
deriving DecidableEq

/-- `cpanel-whm`, `fake-panel` and `virtualizor`. -/
inductive AdapterKey
  | cpanelWhm
  | fakePanel
  | virtualizor
deriving DecidableEq

structure Server where
  name : String
  hostname : String
  status : ServerStatus := .active
  adapterKey : AdapterKey
  apiUsername : Option String := none
  credentialsCiphertext : Option CredentialCiphertext := none
  port : ℕ := 2087
  useTls : Bool := true
  maxAccounts : Option ℕ := none
  updatedAt : ℕ
  deletedAt : Option ℕ := none
deriving DecidableEq

/-- The host, port, user and token that a panel is reached with. -/
structure ConnectionSettings where
  hostname : String
  port : ℕ
  apiUsername : Option String
  credential : Option String
deriving DecidableEq

def Server.settings (server : Server) : ConnectionSettings where
  hostname := server.hostname
  port := server.port
  apiUsername := server.apiUsername
  credential := server.credentialsCiphertext.map (·.token)

structure HostingPanelConnection extends ConnectionSettings where
  serverId : RowId
  useTls : Bool

def connection (serverId : RowId) (server : Server) : HostingPanelConnection where
  toConnectionSettings := server.settings
  serverId := serverId
  useTls := server.useTls

inductive PanelOperationType
  | testConnection
  | serviceOperation
deriving DecidableEq

inductive RequestFingerprint
  | testConnection (serverId : RowId)
  | other (text : String)
deriving DecidableEq

/-- What an adapter's `testConnection` returns. -/
structure ConnectionTestResult where
  providerVersion : String
  capabilities : List String

structure PanelOperation where
  serverId : RowId
  type : PanelOperationType
  status : HostingPanelOperationStatus := .running
  adapterKey : AdapterKey
  idempotencyKey : String
  requestFingerprint : RequestFingerprint
  attemptNumber : ℕ := 1
  retryOfOperationId : Option RowId := none
  retryable : Bool := false
  errorKind : Option HostingPanelErrorKind := none
  errorCode : Option String := none
  errorMessage : Option String := none
  resultMetadata : Option ConnectionTestResult := none
  startedAt : ℕ
  completedAt : Option ℕ := none

/-- The servers, their connection tests and the clock. -/
structure ServerStore where
  servers : Table Server := ∅
  operations : Table PanelOperation := ∅
  clock : ℕ := 0

structure ServerWorld where
  /-- How much later the clock is read, beyond the least that it moves. -/
  elapsed : ℕ := 0
  /-- The `iv` that an encryption draws. -/
  iv : ℕ := 0
  assignedServices : ℕ := 0
  unresolvedServiceOperation : Bool := false
  /-- How the call of the adapter's `testConnection` ends. -/
  panelResult : Except HostingPanelProviderError ConnectionTestResult := .error ⟨.temporary, "", ""⟩

def ServerStore.now (s : ServerStore) (w : ServerWorld) : ℕ := s.clock + 1 + w.elapsed

theorem ServerStore.clock_lt_now (s : ServerStore) (w : ServerWorld) : s.clock < s.now w := by
  rw [now]
  omega

/-! ## Errors -/

def forbidden (message : String) : Failure := .application .forbidden message

def notFound : Failure := .application .resourceNotFound "Server was not found."

def invalid (message : String) : Failure := .application .unprocessableEntity message

def conflict (message : String) : Failure := .application .conflict message

/-! ## Writing a server -/

/-- `servers_cpanel_configuration_check`. -/
def Server.configurationChecked (server : Server) : Bool :=
  server.adapterKey ≠ .cpanelWhm ∨
    (server.deletedAt.isSome ∧ server.status = .disabled ∧ server.apiUsername = none ∧
      server.credentialsCiphertext = none) ∨
    (server.deletedAt = none ∧ server.useTls = true ∧ (server.port = 443 ∨ server.port = 2087) ∧
      server.apiUsername.isSome ∧ server.credentialsCiphertext.isSome)

def ServerStore.writeServer (s : ServerStore) (serverId : RowId) (server : Server) (now : ℕ) :
    Except Failure ServerStore := do
  require (s.servers.any (fun id other => id ≠ serverId ∧
      (other.name = server.name ∨ other.hostname = server.hostname)) = false) .uniqueConstraint
  require (server.configurationChecked = true) .checkConstraint
  return { s with
    servers := s.servers.update serverId fun _ => { server with updatedAt := now }
    clock := now }

def ServerStore.unresolved (s : ServerStore) (w : ServerWorld) (serverId : RowId) : Bool :=
  w.unresolvedServiceOperation || s.operations.any fun _ op =>
    op.serverId = serverId ∧ (op.status = .running ∨ op.status = .inconsistent)

/-! ## updateServer -/

structure UpdateCpanelServerRequest where
  name : Option String := none
  hostname : Option String := none
  port : Option ℕ := none
  apiUsername : Option String := none
  apiToken : Option String := none
  /-- `some none` takes the limit away. -/
  maxAccounts : Option (Option ℕ) := none
  status : Option ServerStatus := none

def UpdateCpanelServerRequest.identityChanged (input : UpdateCpanelServerRequest)
    (current : Server) : Bool :=
  input.hostname.any (· ≠ current.hostname) || input.port.any (· ≠ current.port) ||
    input.apiUsername.any (some · ≠ current.apiUsername)

def ServerStore.tested (s : ServerStore) (serverId : RowId) (current : Server) : Bool :=
  s.operations.any fun _ op => op.serverId = serverId ∧ op.type = .testConnection ∧
    op.status = .succeeded ∧ current.updatedAt < op.startedAt

def checkActivation (s : ServerStore) (serverId : RowId) (input : UpdateCpanelServerRequest)
    (current : Server) : Except Failure Unit :=
  if input.status = some .active ∧ (current.status ≠ .active ∨ input.apiToken.isSome) then do
    require (¬ (input.identityChanged current = true ∨ input.apiToken.isSome))
      (invalid "Save the WHM connection, test it, then activate the server.")
    require (s.tested serverId current = true)
      (invalid "Test the current WHM connection before activating this server.")
  else .ok ()

variable (w : ServerWorld)

def checkUpdate (s : ServerStore) (serverId : RowId) (input : UpdateCpanelServerRequest)
    (current : Server) : Except Failure Unit := do
  let identityChanged := input.identityChanged current
  require (identityChanged = true ∨ input.apiToken.isSome → s.unresolved w serverId = false)
    (conflict "Resolve outstanding panel operations before changing the WHM connection.")
  require (¬ (identityChanged = true ∧ 0 < w.assignedServices))
    (conflict "A server assigned to services cannot change its WHM address or username. Rotate its token or add another server.")
  require (¬ (identityChanged = true ∧ current.status ≠ .disabled))
    (conflict "Disable the unassigned server before changing its WHM connection.")
  require (identityChanged = true → input.apiToken.isSome)
    (invalid "Enter a new API token when changing the WHM connection.")
  checkActivation s serverId input current

def updatedStatus (input : UpdateCpanelServerRequest) (current : Server) : ServerStatus :=
  if input.apiToken.isSome ∧ input.status = none ∧ current.status = .active then .maintenance
  else input.status.getD current.status

def updatedServer (input : UpdateCpanelServerRequest) (current : Server) :
    Server :=
  { current with
    name := input.name.getD current.name
    hostname := input.hostname.getD current.hostname
    port := input.port.getD current.port
    apiUsername := input.apiUsername <|> current.apiUsername
    maxAccounts := input.maxAccounts.getD current.maxAccounts
    status := updatedStatus input current
    credentialsCiphertext := (input.apiToken.map (CredentialCiphertext.mk w.iv)) <|>
      current.credentialsCiphertext }

def ServerStore.findServer (s : ServerStore) (serverId : RowId) : Option Server :=
  (s.servers.get? serverId).filter (·.deletedAt = none)

def updateTransaction (serverId : RowId) (input : UpdateCpanelServerRequest) (s : ServerStore) :
    Except Failure ServerStore := do
  let current ← orThrow notFound
    ((s.findServer serverId).filter (·.adapterKey = .cpanelWhm))
  checkUpdate w s serverId input current
  s.writeServer serverId (updatedServer w input current) (s.now w)

/-! ## configureCpanelServer -/

structure ConfigureCpanelServerRequest where
  hostname : String
  port : ℕ := 2087
  apiUsername : String
  apiToken : String

def ConfigureCpanelServerRequest.identityChanged (input : ConfigureCpanelServerRequest)
    (current : Server) : Bool :=
  input.hostname ≠ current.hostname || input.port ≠ current.port ||
    some input.apiUsername ≠ current.apiUsername

def configuredServer (input : ConfigureCpanelServerRequest) (current : Server) :
    Server :=
  { current with
    hostname := input.hostname
    port := input.port
    useTls := true
    adapterKey := .cpanelWhm
    apiUsername := some input.apiUsername
    credentialsCiphertext := some ⟨w.iv, input.apiToken⟩
    status := if current.status = .active then .maintenance else current.status }

def configureTransaction (w : ServerWorld) (serverId : RowId) (input : ConfigureCpanelServerRequest)
    (s : ServerStore) : Except Failure ServerStore := do
  let current ← orThrow notFound (s.findServer serverId)
  require (current.adapterKey = .cpanelWhm ∨ current.adapterKey = .fakePanel)
    (invalid "This server cannot use the cPanel/WHM adapter.")
  require (¬ (0 < w.assignedServices ∧ current.adapterKey ≠ .cpanelWhm))
    (conflict "A server assigned to services cannot change its hosting panel adapter.")
  require (¬ (0 < w.assignedServices ∧ input.identityChanged current = true))
    (conflict "A server assigned to services cannot change its WHM address or username.")
  require (¬ (current.status ≠ .disabled ∧ input.identityChanged current = true))
    (conflict "Disable the unassigned server before changing its WHM connection.")
  s.writeServer serverId (configuredServer w input current) (s.now w)

inductive ChangeState (ι : Type)
  | writing (actorRole : UserRole) (serverId : RowId) (input : ι)
  | done (result : Except Failure Unit)

def changeStep {ι : Type} (refusal : Failure)
    (tx : ServerWorld → RowId → ι → ServerStore → Except Failure ServerStore) (w : ServerWorld)
    (s : ServerStore) : ChangeState ι → Option (ServerStore × ChangeState ι)
  | .writing actorRole serverId input =>
    match (do require (actorRole = UserRole.admin) refusal; tx w serverId input s) with
    | .ok s' => some (s', .done (.ok ()))
    | .error e => some (s, .done (.error e))
  | .done _ => none

def updateServer : Operation ServerStore ServerWorld where
  Request := UserRole × RowId × UpdateCpanelServerRequest
  Local := ChangeState UpdateCpanelServerRequest
  start request := .writing request.1 request.2.1 request.2.2
  step := changeStep (forbidden "Only administrators can edit panel servers.") updateTransaction

def configureCpanelServer : Operation ServerStore ServerWorld where
  Request := UserRole × RowId × ConfigureCpanelServerRequest
  Local := ChangeState ConfigureCpanelServerRequest
  start request := .writing request.1 request.2.1 request.2.2
  step := changeStep (forbidden "Only administrators can configure panel servers.")
    configureTransaction

/-! ## executeConnectionTest -/

structure TestRequest where
  actorRole : UserRole
  serverId : RowId
  submissionKey : String
  attemptNumber : ℕ := 1
  retryOfOperationId : Option RowId := none

/-- How far a test is.  `server` is the server as it was read at first. -/
inductive TestState
  | reading (request : TestRequest)
  | findingDuplicate (request : TestRequest) (server : Server)
  | creating (request : TestRequest) (server : Server)
  | findingRaced (request : TestRequest)
  | rechecking (request : TestRequest) (server : Server) (operationId : RowId)
  | calling (request : TestRequest) (server : Server) (operationId : RowId)
  | completing (operationId : RowId)
      (outcome : Except HostingPanelProviderError ConnectionTestResult)
  | done (result : Except Failure (RowId × Bool))

def TestRequest.key (request : TestRequest) : String := "hosting-operation:" ++ request.submissionKey

/-- `findDuplicate`, for a test. -/
def findDuplicate (request : TestRequest) (s : ServerStore) : Except Failure (Option RowId) :=
  match s.operations.find? fun _ op => op.idempotencyKey = request.key with
  | none => .ok none
  | some duplicate => do
    require (duplicate.2.requestFingerprint = .testConnection request.serverId)
      (conflict "The submission key was already used for another request.")
    return some duplicate.1

def newTest (request : TestRequest) (server : Server) (now : ℕ) : PanelOperation where
  serverId := request.serverId
  type := .testConnection
  adapterKey := server.adapterKey
  idempotencyKey := request.key
  requestFingerprint := .testConnection request.serverId
  attemptNumber := request.attemptNumber
  retryOfOperationId := request.retryOfOperationId
  startedAt := now

/-- `createOperation`, under the unique keys of the operations. -/
def createTest (request : TestRequest) (server : Server) (s : ServerStore) :
    Except Failure ServerStore := do
  require (s.operations.any (fun _ op => op.idempotencyKey = request.key) = false) .uniqueConstraint
  require (request.retryOfOperationId.isSome → s.operations.any (fun _ op =>
      op.retryOfOperationId = request.retryOfOperationId) = false) .uniqueConstraint
  return { s with
    operations := s.operations.insert (newTest request server (s.now w))
    clock := s.now w }

def unchanged (server latest : Server) : Bool :=
  latest.updatedAt = server.updatedAt ∧ latest.hostname = server.hostname ∧
    latest.port = server.port ∧ latest.apiUsername = server.apiUsername ∧
    latest.credentialsCiphertext = server.credentialsCiphertext

def connectionChangedError : HostingPanelProviderError :=
  ⟨.permanent, "PANEL_CONNECTION_CHANGED",
    "The server configuration changed. Run a new connection test."⟩

/-- What `completeSuccess` and `completeFailure` write. -/
def completedTest (outcome : Except HostingPanelProviderError ConnectionTestResult) (now : ℕ)
    (op : PanelOperation) : PanelOperation :=
  match outcome with
  | .ok result =>
    { op with status := .succeeded, completedAt := some now, resultMetadata := some result }
  | .error error =>
    { op with
      status := if error.kind = .inconsistent then .inconsistent else .failed
      retryable := error.kind = .temporary
      errorKind := some error.kind
      errorCode := some error.code
      errorMessage := some error.message
      completedAt := some now }

def testStep (s : ServerStore) : TestState → Option (ServerStore × TestState)
  | .reading request =>
    if request.actorRole ≠ .admin then
      some (s, .done (.error (forbidden "Only administrators can test panel connections.")))
    else match s.findServer request.serverId with
      | none => some (s, .done (.error notFound))
      | some server => some (s, .findingDuplicate request server)
  | .findingDuplicate request server =>
    match findDuplicate request s with
    | .error e => some (s, .done (.error e))
    | .ok (some operationId) => some (s, .done (.ok (operationId, true)))
    | .ok none => some (s, .creating request server)
  | .creating request server =>
    match createTest w request server s with
    | .error _ => some (s, .findingRaced request)
    | .ok s' => some (s', .rechecking request server s.operations.size)
  | .findingRaced request =>
    match findDuplicate request s with
    | .error e => some (s, .done (.error e))
    | .ok (some operationId) => some (s, .done (.ok (operationId, true)))
    | .ok none =>
      some (s, .done (.error (conflict "The connection test could not be created safely.")))
  | .rechecking request server operationId =>
    if (s.findServer request.serverId).any (unchanged server) = true then
      some (s, .calling request server operationId)
    else some (s, .completing operationId (.error connectionChangedError))
  | .calling _ _ operationId => some (s, .completing operationId w.panelResult)
  | .completing operationId outcome =>
    some ({ s with
      operations := s.operations.update operationId (completedTest outcome (s.now w))
      clock := s.now w }, .done (.ok (operationId, false)))
  | .done _ => none

/-- `executeConnectionTest`, which `testConnection` and the retry of a test call. -/
def executeConnectionTest : Operation ServerStore ServerWorld where
  Request := TestRequest
  Local := TestState
  start request := .reading request
  step := testStep

inductive ServerOperation
  | updateServer
  | configureCpanelServer
  | executeConnectionTest
deriving DecidableEq

def serverOperations : ServerOperation → Operation ServerStore ServerWorld
  | .updateServer => updateServer
  | .configureCpanelServer => configureCpanelServer
  | .executeConnectionTest => executeConnectionTest

end Servers

end WebhostBilling
