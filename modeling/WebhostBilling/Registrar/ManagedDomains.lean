import WebhostBilling.Concurrency.Traces
import WebhostBilling.Registrar.RegistrarOperations

/-!
# What is recorded of a managed domain

A refresh reads a domain at its registrar and records what it saw; an execution of a domain action
does the same at its end.  `managed` runs the operations on a database with the column
`managementSnapshot`, which carries the moment of the read; a thread keeps the moment of its last
read, as the answer of `management` does.
-/

namespace WebhostBilling

open Store Concurrency RegistrarProcessor DomainService DomainLifecycleService

/-! ## The snapshot -/

/-- `domainManagementSchema`. -/
structure DomainManagement where
  nameservers : List String
  locked : Bool
  observedAt : ℕ
  expiresAt : ℕ
  verification : RegistrarVerification
deriving DecidableEq

/-- What is recorded of an answer of `management`, with the moment of the answer. -/
def projected (observed : ResellbizManagedState) (observedAt : ℕ) : DomainManagement where
  nameservers := observed.nameservers
  locked := observed.locked
  observedAt := observedAt
  expiresAt := observed.expiresAt
  verification := observed.verification

/-- The database, with the snapshots of its domains. -/
structure ManagedDatabase where
  database : Database
  snapshots : RowId → Option DomainManagement := fun _ => none
  clock : ℕ := 0

/-! ## The operations -/

inductive ManagementKind
  | refresh
  /-- `execute`, also as it is called to reconcile. -/
  | execute
  | createAction
  | recoverContact
  | cancelUnsent
  | otherServices

abbrev ManagementKind.registrar : ManagementKind → RegistrarKind
  | refresh => .refresh
  | execute => .execute
  | createAction => .createAction
  | recoverContact => .recoverContact
  | cancelUnsent => .cancelUnsent
  | otherServices => .otherServices

variable (settings : RegistrarSettings)

/-- How far an operation is, without the moment of its last read. -/
abbrev ManagementLocal (kind : ManagementKind) : Type :=
  (registrarOperations settings kind.registrar).Local

variable {settings}

def askedDomain : (kind : ManagementKind) → ManagementLocal settings kind → Option RowId
  | .refresh, RefreshState.reading input => some input.domainId
  | .execute, ExecuteState.reading run _ => some run.input.domainId
  | .execute, ExecuteState.observing run => some run.input.domainId
  | _, _ => none

def readDomain (w : World) (kind : ManagementKind) (l : ManagementLocal settings kind) :
    Option RowId :=
  match w.registrarManagement with
  | .ok _ => askedDomain kind l
  | .error _ => none

/-- `refresh` records what it read, whatever the domain shows by then. -/
def refreshRecords (input : RefreshRequest) (observed : ResellbizManagedState) (db : Database) :
    Option (RowId × ResellbizManagedState) :=
  match db.updateDomain input.domainId (observedDomain observed) with
  | .ok _ => some (input.domainId, observed)
  | .error _ => none

/-- `execute` records what it read, unless its action has succeeded by then. -/
def executeRecords (run : ExecuteRun) (observed : ResellbizManagedState) (confirmed : Bool)
    (db : Database) : Option (RowId × ResellbizManagedState) :=
  match finishTransaction run observed confirmed db with
  | .ok _ =>
    if (db.domainActions.get? run.input.actionId).any (·.state = .succeeded) then none
    else some (run.input.domainId, observed)
  | .error _ => none

def recordedState (db : Database) :
    (kind : ManagementKind) → ManagementLocal settings kind → Option (RowId × ResellbizManagedState)
  | .refresh, RefreshState.writing input observed => refreshRecords input observed db
  | .execute, ExecuteState.finishing run observed confirmed =>
    executeRecords run observed confirmed db
  | _, _ => none

/-- The snapshots after a step, whose thread made its last read at `observedAt`. -/
def snapshotsAfter (snapshots : RowId → Option DomainManagement) (observedAt : ℕ) :
    Option (RowId × ResellbizManagedState) → RowId → Option DomainManagement
  | some (domainId, observed) =>
    Function.update snapshots domainId (some (projected observed observedAt))
  | none => snapshots

def readAt (now : ℕ) (domainId : Option RowId) (before : ℕ) : ℕ :=
  if domainId.isSome then now else before

variable (settings)

def managed (kind : ManagementKind) : Operation ManagedDatabase World where
  Request := (registrarOperations settings kind.registrar).Request
  Local := ManagementLocal settings kind × ℕ
  start request := ((registrarOperations settings kind.registrar).start request, 0)
  step w s l := ((registrarOperations settings kind.registrar).step w s.database l.1).map fun out =>
    ({ database := out.1
       snapshots := snapshotsAfter s.snapshots l.2 (recordedState s.database kind l.1)
       clock := readAt w.now (readDomain w kind l.1) s.clock },
      (out.2, readAt w.now (readDomain w kind l.1) l.2))

/-! ## What a step notes -/

/-- A read of the registrar, a stored snapshot or a sent action. -/
inductive ManagementEvent
  | read (domainId : RowId) (observedAt : ℕ)
  | stored (domainId : RowId) (management : DomainManagement) (replaced : Option DomainManagement)
  | sent (actionId : RowId)
  | confirmed (actionId domainId : RowId) (observedAt : ℕ)
deriving DecidableEq

variable {settings}

def sentAction : (kind : ManagementKind) → ManagementLocal settings kind → Option RowId
  | .execute, ExecuteState.submitting run => some run.input.actionId
  | _, _ => none

def confirmedAction : (kind : ManagementKind) → ManagementLocal settings kind → Option RowId
  | .execute, ExecuteState.finishing run _ true => some run.input.actionId
  | _, _ => none

def storedEvents (snapshots : RowId → Option DomainManagement) (observedAt : ℕ)
    (confirmed : Option RowId) : Option (RowId × ResellbizManagedState) → List ManagementEvent
  | some (domainId, observed) =>
    .stored domainId (projected observed observedAt) (snapshots domainId) ::
      confirmed.toList.map fun actionId => .confirmed actionId domainId observedAt
  | none => []

def managementEvents (kind : ManagementKind) (w : World) (s : ManagedDatabase)
    (l : ManagementLocal settings kind × ℕ) : List ManagementEvent :=
  (readDomain w kind l.1).toList.map (.read · w.now) ++ (sentAction kind l.1).toList.map .sent ++
    storedEvents s.snapshots l.2 (confirmedAction kind l.1) (recordedState s.database kind l.1)

variable (settings)

abbrev tracedManagement :=
  tracedFamily (managed settings) fun kind w s l => @managementEvents settings kind w s l

end WebhostBilling
