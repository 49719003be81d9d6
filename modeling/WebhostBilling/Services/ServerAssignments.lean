import WebhostBilling.HostingPanels.Exclusion
import WebhostBilling.Servers.ServerConnections

/-!
# Assigning services to servers

`ServiceService.create` counts the services of a server and inserts one more while it holds the lock
of the server's row.  What else writes a service holds at most the lock of the service, and may do
so between the count and the insertion; here these two are steps of their own.
-/

namespace WebhostBilling

open Store Concurrency ServiceService

namespace Capacity

/-- The database, with the locks on its servers. -/
structure CapacityStore where
  db : Database
  locked : List RowId := []

def CapacityStore.unlock (s : CapacityStore) (serverId : RowId) : CapacityStore :=
  { s with locked := s.locked.erase serverId }

/-! ## create -/

section

/- The calendar: when a service that starts at a moment is due. -/
variable (nextServiceDueAt : ℕ → BillingPeriod → ℕ)

/-- What is left of the transaction of `create` after its server took another account. -/
def insertTransaction (input : CreateServiceRequest) (item : OrderItem)
    (order : Order) (now : ℕ) : Tx RowId := fun db => do
  require (hostingBillingPeriod item.billingPeriod) (.error "ZodError")
  let (db, serviceId) ← db.createService
    (newService nextServiceDueAt input item order now)
  let db ← startProcessing item order now db
  return (db, serviceId)

/-- How far a `create` request is. -/
inductive CreateState
  | reading (state : ServiceService.CreateState)
  | counting (input : CreateServiceRequest) (activeAdapter : String)
      (item : OrderItem) (order : Order)
  | inserting (input : CreateServiceRequest) (item : OrderItem) (order : Order)

def createStep (w : World) (s : CapacityStore) :
    CreateState → Option (CapacityStore × CreateState)
  | .reading (.commit input activeAdapter item order) =>
    if input.serverId ∈ s.locked then none
    else some ({ s with locked := input.serverId :: s.locked },
      .counting input activeAdapter item order)
  | .reading state =>
    (ServiceService.createStep nextServiceDueAt w s.db state).map fun out =>
      ({ s with db := out.1 }, .reading out.2)
  | .counting input activeAdapter item order =>
    match requireServer input activeAdapter s.db with
    | .ok _ => some (s, .inserting input item order)
    | .error e => some (s.unlock input.serverId, .reading (.done (.error e)))
  | .inserting input item order =>
    match atomically (insertTransaction nextServiceDueAt input item order w.now) s.db with
    | (db', .ok serviceId) =>
      some ({ s with db := db' }.unlock input.serverId, .reading (.done (.ok ⟨serviceId, false⟩)))
    | (_, .error .uniqueConstraint) => some (s.unlock input.serverId, .reading (.race input))
    | (_, .error e) => some (s.unlock input.serverId, .reading (.done (.error e)))

/-- `ServiceService.create`. -/
def create : Operation CapacityStore World where
  Request := CreateServiceRequest
  Local := CreateState
  start input := .reading (.read input)
  step := createStep nextServiceDueAt

/-- **Nothing is added to `create`**: when no other step comes in between, taking the lock, counting
and inserting are the one step of `ServiceService.create`. -/
theorem createStep_undisturbed {w : World} {s : CapacityStore}
    {input : CreateServiceRequest} {activeAdapter : String} {item : OrderItem}
    {order : Order} (hfree : input.serverId ∉ s.locked) :
    ((createStep nextServiceDueAt w s (.reading (.commit input activeAdapter item order))).bind
      fun locked => (createStep nextServiceDueAt w locked.1 locked.2).bind fun counted =>
        (createStep nextServiceDueAt w counted.1 counted.2).or (some counted)) =
    (ServiceService.createStep nextServiceDueAt w s.db (.commit input activeAdapter item order)).map
      fun out => ({ s with db := out.1 }, .reading out.2) := by
  have hunlock : ∀ db, ({ db, locked := input.serverId :: s.locked } : CapacityStore).unlock
      input.serverId = { s with db } := fun db => by
    rw [CapacityStore.unlock, List.erase_cons_head]
  rw [createStep, if_neg hfree, Option.bind_some]
  cases hserver : requireServer input activeAdapter s.db with
  | error e =>
    have hkind : e ≠ .uniqueConstraint := by
      rintro rfl
      simp [requireServer, bind_eq_error, require_eq_error, orThrow_eq_error,
        ServiceService.invalid] at hserver
    have hfailed : atomically (createTransaction nextServiceDueAt input activeAdapter
        item order w.now) s.db = (s.db, .error e) := by
      rw [atomically, createTransaction, hserver]
      rfl
    simp only [createStep, hserver, ServiceService.createStep, hfailed, hunlock]
    rfl
  | ok u =>
    have hrest : createTransaction nextServiceDueAt input activeAdapter item order
        w.now s.db = insertTransaction nextServiceDueAt input item order w.now s.db := by
      rw [createTransaction, hserver]
      rfl
    simp only [createStep, hserver, ServiceService.createStep, atomically, hrest, Option.bind_some]
    cases insertTransaction nextServiceDueAt input item order w.now s.db with
    | ok out => simp [hunlock]
    | error e => cases e <;> simp [hunlock]

end

/-! ## Updates of a server -/

structure UpdateServerRequest where
  actorRole : UserRole
  serverId : RowId
  adapterKey : String := "cpanel-whm"
  /-- `some none` takes the limit away. -/
  maxAccounts : Option (Option ℕ) := none
  status : Option ServerStatus := none
  apiToken : Bool := false
  connection : Except Failure Unit := .ok ()

def forbidden : Failure := .application .forbidden "Only administrators can edit panel servers."

def notFound : Failure := .application .resourceNotFound "Server was not found."

def conflict (message : String) : Failure := .application .conflict message

def findServer (request : UpdateServerRequest) (db : Database) : Option Server :=
  (db.servers.get? request.serverId).filter fun server =>
    server.deletedAt = none ∧ server.adapterKey = request.adapterKey

def updatedStatus (request : UpdateServerRequest) (current : Server) : ServerStatus :=
  if request.apiToken = true ∧ request.status = none ∧ current.status = .active then .maintenance
  else request.status.getD current.status

/-- `HostingPanelService.updateServer`. -/
def updateServerTransaction (request : UpdateServerRequest) (db : Database) :
    Except Failure Database := do
  require (request.actorRole = .admin) forbidden
  let _ ← orThrow notFound (findServer request db)
  request.connection
  return { db with
    servers := db.servers.update request.serverId fun current =>
      { current with
        maxAccounts := request.maxAccounts.getD current.maxAccounts
        status := updatedStatus request current } }

/-! ### The same update of everything that a panel is reached with -/

def adapterKeyText : Servers.AdapterKey → String
  | .cpanelWhm => "cpanel-whm"
  | .fakePanel => "fake-panel"
  | .virtualizor => "virtualizor"

/-- What an assignment looks at in a server. -/
def assignable (server : Servers.Server) : Server where
  adapterKey := adapterKeyText server.adapterKey
  status := server.status
  deletedAt := server.deletedAt
  maxAccounts := server.maxAccounts

/-- An update of a server as an assignment sees it. -/
def ofCpanelUpdate (w : Servers.ServerWorld) (s : Servers.ServerStore) (actorRole : UserRole)
    (serverId : RowId) (input : Servers.UpdateCpanelServerRequest) : UpdateServerRequest where
  actorRole := actorRole
  serverId := serverId
  maxAccounts := input.maxAccounts
  status := input.status
  apiToken := input.apiToken.isSome
  connection := (Servers.updateTransaction w serverId input s).map fun _ => ()

section

variable {w : Servers.ServerWorld} {s : Servers.ServerStore} {serverId : RowId}
  {input : Servers.UpdateCpanelServerRequest} {db : Database}

theorem findServer_assignable (h : db.servers = s.servers.map assignable) :
    findServer (ofCpanelUpdate w s .admin serverId input) db =
      ((s.findServer serverId).filter (·.adapterKey = .cpanelWhm)).map assignable := by
  have hadapter : ∀ key, adapterKeyText key = "cpanel-whm" ↔ key = .cpanelWhm := by
    intro key
    cases key <;> decide
  rw [findServer, Servers.ServerStore.findServer, h, ofCpanelUpdate, Table.get?_map,
    Option.filter_filter]
  cases s.servers.get? serverId with
  | none => rfl
  | some server => simp [Option.filter, assignable, hadapter]

/-- **Both models of `updateServer` agree**: the one by which services are assigned is the one by
which panels are reached, seen through `assignable`. -/
theorem updateServerTransaction_assignable (h : db.servers = s.servers.map assignable) :
    updateServerTransaction (ofCpanelUpdate w s .admin serverId input) db =
      (Servers.updateTransaction w serverId input s).map fun s' =>
        { db with servers := s'.servers.map assignable } := by
  have hfound : findServer (ofCpanelUpdate w s .admin serverId input) db = _ :=
    findServer_assignable h
  rw [updateServerTransaction, hfound]
  cases hserver : (s.findServer serverId).filter (·.adapterKey = .cpanelWhm) with
  | none =>
    rw [Servers.updateTransaction, hserver]
    rfl
  | some current =>
    cases hupdate : Servers.updateTransaction w serverId input s with
    | error e =>
      rw [ofCpanelUpdate, hupdate]
      rfl
    | ok s' =>
      have hrows : s'.servers.map assignable = db.servers.update serverId fun current =>
          { current with
            maxAccounts := input.maxAccounts.getD current.maxAccounts
            status := updatedStatus (ofCpanelUpdate w s .admin serverId input) current } := by
        simp only [Servers.updateTransaction, hserver, Servers.ServerStore.writeServer, eq_ok]
          at hupdate
        obtain ⟨_, hcurrent, _, -, -, -, rfl⟩ := hupdate
        obtain rfl := Option.some.inj hcurrent
        rw [h]
        refine Table.map_update fun row hrow => ?_
        obtain ⟨hrow', -⟩ := Option.filter_eq_some_iff.1 hserver
        obtain rfl := Option.mem_unique hrow (Option.filter_eq_some_iff.1 hrow').1
        rfl
      rw [ofCpanelUpdate, hupdate]
      exact congrArg (fun servers => Except.ok { db with servers }) hrows.symm

end

def unresolved (db : Database) (serverId : RowId) : Bool :=
  db.operations.any fun _ op =>
    op.serverId = serverId ∧ (op.status = .running ∨ op.status = .inconsistent)

/-- `ServerAdministrationService.update`, for the servers of another panel: those that no service
was ever assigned to. -/
def updateTransaction (request : UpdateServerRequest) (db : Database) :
    Except Failure Database := do
  require (request.actorRole = .admin) forbidden
  let _ ← orThrow
    (conflict "Server type cannot be changed. Add a separate server.") (findServer request db)
  require (¬ (unresolved db request.serverId = true ∨
      db.services.any (fun _ service => service.serverId = request.serverId) = true))
    (conflict "Resolve assigned services and outstanding operations before editing this connection.")
  request.connection
  return { db with
    servers := db.servers.update request.serverId fun current =>
      { current with
        maxAccounts := request.maxAccounts.getD current.maxAccounts
        status := .disabled } }

inductive UpdateState
  | writing (request : UpdateServerRequest)
  | done (result : Except Failure Unit)

def updateStep (tx : UpdateServerRequest → Database → Except Failure Database) (_ : World)
    (s : CapacityStore) : UpdateState → Option (CapacityStore × UpdateState)
  | .writing request =>
    if request.serverId ∈ s.locked then none
    else match tx request s.db with
      | .ok db' => some ({ s with db := db' }, .done (.ok ()))
      | .error e => some (s, .done (.error e))
  | .done _ => none

def updateServer : Operation CapacityStore World where
  Request := UpdateServerRequest
  Local := UpdateState
  start := .writing
  step := updateStep updateServerTransaction

def update : Operation CapacityStore World where
  Request := UpdateServerRequest
  Local := UpdateState
  start := .writing
  step := updateStep updateTransaction

/-! ## All operations -/

def unlocked (op : Operation Database World) : Operation CapacityStore World where
  Request := op.Request
  Local := op.Local
  start := op.start
  step w s l := (op.step w s.db l).map fun out => ({ s with db := out.1 }, out.2)

inductive CapacityOperation
  | create
  | hosting (op : HostingOperation)
  | updateServer
  | update

section

variable (nextServiceDueAt : ℕ → BillingPeriod → ℕ)
variable (requestHash : RowId → HostingPanelService.ExecuteHostingOperationRequest → String)
variable (payloadHash : HostingAutomationService.AutomationPayload → String)

def capacityOperations : CapacityOperation → Operation CapacityStore World
  | .create => create nextServiceDueAt
  | .hosting op => unlocked (hostingOperations requestHash payloadHash op)
  | .updateServer => updateServer
  | .update => update

end

end Capacity

end WebhostBilling
