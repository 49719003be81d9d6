import WebhostBilling.Concurrency.Locks
import WebhostBilling.HostingPanels.ServiceStates
import WebhostBilling.Services.ServerAssignments

/-!
# The capacity of a server

A service counts until it is cancelled or terminated.  The count of `create` is the only place that
looks at the limit of the server.  The API's operations write the outcome of a call whatever the
status has become, and so a service that was cancelled meanwhile counts again, on a server that may
be full by then.
-/

namespace WebhostBilling

open Store Store.Table Concurrency Config ServiceService

namespace Capacity

/-! ## What counts -/

def Ended (service : Service) : Prop :=
  service.status = .cancelled ∨ service.status = .terminated
deriving Decidable

/-- **What the claim is about**: a step that lets a server have more services than before leaves it
with no more than its limit. -/
def KeepsCapacity (db db' : Database) : Prop :=
  ∀ serverId server maxAccounts, db'.servers.get? serverId = some server →
    server.maxAccounts = some maxAccounts →
    assigned db serverId < assigned db' serverId →
    assigned db' serverId ≤ maxAccounts

def HasRoom (db : Database) (serverId : RowId) : Prop :=
  ∀ server maxAccounts, db.servers.get? serverId = some server →
    server.maxAccounts = some maxAccounts → assigned db serverId < maxAccounts

variable {db db' : Database}

theorem hasRoom_of_requireServer {input : CreateServiceRequest}
    {activeAdapter : String} {u : Unit}
    (h : requireServer input activeAdapter db = .ok u) :
    HasRoom db input.serverId := by
  simp only [requireServer, eq_ok] at h
  obtain ⟨server, hserver, -, hlimit⟩ := h
  intro found maxAccounts hfound hmax
  obtain rfl := Option.mem_unique hserver hfound
  exact hlimit maxAccounts hmax

def NotRevived (service service' : Service) : Prop :=
  service'.serverId = service.serverId ∧ (Ended service → Ended service')

theorem NotRevived.refl (service : Service) : NotRevived service service := ⟨rfl, id⟩

/-- No service is new and none counts that did not, and no server was written. -/
structure NoneRevived (db db' : Database) : Prop where
  servers : db'.servers = db.servers
  size : db'.services.size = db.services.size
  services : Table.Grows NotRevived db.services db'.services

theorem NoneRevived.refl (db : Database) : NoneRevived db db :=
  ⟨rfl, rfl, Grows.refl NotRevived.refl db.services⟩

theorem NoneRevived.of_services_eq (hservers : db'.servers = db.servers)
    (hservices : db'.services = db.services) : NoneRevived db db' :=
  ⟨hservers, by rw [hservices], by
    rw [hservices]
    exact Grows.refl NotRevived.refl db.services⟩

theorem NoneRevived.of_update {serviceId : RowId} {f : Service → Service}
    (hservers : db'.servers = db.servers)
    (hservices : db'.services = db.services.update serviceId f)
    (hf : ∀ service, db.services.get? serviceId = some service → NotRevived service (f service)) :
    NoneRevived db db' :=
  ⟨hservers, by rw [hservices, size_update], by
    rw [hservices]
    exact grows_update NotRevived.refl hf⟩

theorem NoneRevived.assigned_le (h : NoneRevived db db') (serverId : RowId) :
    assigned db' serverId ≤ assigned db serverId := by
  refine length_select_le h.services h.size fun id service service' hnot hcounts => ?_
  simp only [decide_eq_true_eq] at hcounts ⊢
  exact ⟨hnot.1 ▸ hcounts.1, fun hended => hcounts.2 (hnot.2 hended)⟩

theorem NoneRevived.keepsCapacity (h : NoneRevived db db') :
    KeepsCapacity db db' := by
  intro serverId _ _ _ _ hmore
  have := h.assigned_le serverId
  omega

theorem NoneRevived.hasRoom (h : NoneRevived db db') {serverId : RowId}
    (hroom : HasRoom db serverId) : HasRoom db' serverId := by
  intro server maxAccounts hserver hmax
  rw [h.servers] at hserver
  exact (h.assigned_le serverId).trans_lt (hroom server maxAccounts hserver hmax)

/-! ## Completions -/

section Completions

open HostingPanelService HostingAutomationService

def leavesCounting (input : HostingOperationInput) (account : Option HostingAccount) : Bool :=
  match input with
  | .createAccount => account.isSome
  | .suspendAccount _ | .unsuspendAccount => true
  | _ => false

/-- A completion finds its service ended, and is about to write a status that counts. -/
def revives (db : Database) : ExecuteState → Bool
  | .completeSuccess call operationId result => leavesCounting call.request.input result.account &&
      (serviceOfOperation db operationId).any (Ended ·)
  | .completeFailure operationId _ =>
    isCreation db operationId && (serviceOfOperation db operationId).any (Ended ·)
  | _ => false

variable {now : ℕ} {operationId : RowId} {op : HostingPanelOperation}

theorem notRevived_successData {input : HostingOperationInput} {account : Option HostingAccount}
    {actorUserId : ℕ} {f : Service → Service} {service : Service}
    (h : successData input account actorUserId now = some f)
    (hended : leavesCounting input account = true → ¬ Ended service) :
    NotRevived service (f service) := by
  cases input with
  | createAccount =>
    cases account with
    | none => cases h
    | some account =>
      cases h
      exact ⟨rfl, fun hwas => absurd hwas (hended rfl)⟩
  | suspendAccount reason | unsuspendAccount =>
    cases h
    exact ⟨rfl, fun hwas => absurd hwas (hended rfl)⟩
  | terminateAccount reason =>
    cases h
    exact ⟨rfl, fun _ => .inr rfl⟩
  | getAccount | changePackage | changePassword | generateLoginUrl => cases h

theorem noneRevived_success {call : Execution} {result : ProviderSuccess}
    (h : completeSuccessTransaction call operationId result now db = .ok (db', op))
    (hguard : revives db (.completeSuccess call operationId result) = false) :
    NoneRevived db db' := by
  obtain ⟨current, services, orders, events, hop, -, hwritten, hnone, -, rfl⟩ :=
    completeSuccessTransaction_eq_ok h
  cases hserviceId : current.serviceId with
  | none => exact .of_services_eq rfl (hnone hserviceId)
  | some serviceId =>
    rcases hwritten serviceId hserviceId with ⟨-, hsame⟩ | ⟨f, service, hdata, hservice, -, hupdate⟩
    · exact .of_services_eq rfl hsame
    · refine .of_update rfl hupdate fun found hfound => ?_
      refine notRevived_successData hdata fun hcounting hended => ?_
      simp [revives, hcounting, serviceOfOperation_eq hop hserviceId, hfound, hended] at hguard

theorem noneRevived_failure {error : HostingPanelProviderError}
    (h : completeFailureTransaction operationId error now db = .ok (db', op))
    (hguard : revives db (.completeFailure operationId error) = false) : NoneRevived db db' := by
  obtain ⟨current, services, hop, -, hservices, rfl⟩ := completeFailureTransaction_eq_ok h
  rcases hservices with ⟨rfl, -⟩ | ⟨serviceId, service, hserviceId, htype, hservice, rfl⟩
  · exact .of_services_eq rfl rfl
  · refine .of_update rfl rfl fun found hfound => ⟨rfl, fun hended => ?_⟩
    simp [revives, isCreation, hop, htype, serviceOfOperation_eq hop hserviceId, hfound, hended]
      at hguard

variable {requestHash : RowId → ExecuteHostingOperationRequest → String}
variable {payloadHash : AutomationPayload → String}
variable {w : World}

theorem noneRevived_execute {l l' : ExecuteState}
    (hguard : revives db l = false) (hstep : Executes requestHash w db l db' l') :
    NoneRevived db db' := by
  cases hstep with
  | idle _ | succeed _ | fail _ => exact .refl db
  | create h =>
    obtain ⟨server, services, -, hservice, hcheck, -, -, -, hservices, rfl⟩ :=
      createTransaction_eq_ok h
    rcases hservices with ⟨-, rfl⟩ | ⟨htype, rfl⟩
    · exact .of_services_eq rfl rfl
    · refine .of_update rfl rfl fun found hfound => ⟨rfl, fun hended => ?_⟩
      obtain rfl := Option.mem_unique hservice hfound
      -- An account is created for a pending service, or for one whose creation failed.
      have hvalid := (checkOperation_eq_ok hcheck).1
      rw [validateAction, htype] at hvalid
      simp only [validateCreation, eq_ok, if_true] at hvalid
      obtain ⟨-, -, -, hstatus, -, -⟩ := hvalid
      rcases hstatus with hstatus | hstatus <;> rcases hended with hended | hended <;>
        (rw [hstatus] at hended; cases hended)
  | completeSuccess h _ => exact noneRevived_success h hguard
  | completeFailure h _ => exact noneRevived_failure h hguard

theorem noneRevived_automate {l l' : AutomationState}
    (hstep : Automates payloadHash w db l db' l') : NoneRevived db db' := by
  cases hstep with
  | idle _ => exact .refl db
  | prepare h =>
    cases prepareTransaction_eq_ok payloadHash h with
    | create _ _ _ _ => exact .of_services_eq rfl rfl
    | found _ => exact .refl db
    | nothing _ hservices =>
      rcases hservices with rfl | rfl
      · exact .of_services_eq rfl rfl
      · exact .of_update rfl rfl fun _ _ => ⟨rfl, id⟩
  | skip h _ =>
    obtain ⟨operations, -, rfl⟩ := completeSkipped_eq_ok h
    exact .of_services_eq rfl rfl
  | @complete job db' l' h _ =>
    obtain ⟨service, op, requests, hservice, hcompletable, -, -, -, rfl⟩ :=
      completeTransaction_eq_ok h
    refine .of_update rfl rfl fun found hfound => ?_
    obtain rfl := Option.mem_unique hservice hfound
    have hcounts : service.status = .active ∨ service.status = .suspended := by
      cases haction : job.action with
      | suspend =>
        rw [haction] at hcompletable
        exact .inl hcompletable
      | unsuspend =>
        rw [haction] at hcompletable
        exact .inr hcompletable.1
    refine ⟨by cases job.action <;> rfl, fun hended => ?_⟩
    rcases hcounts with hstatus | hstatus <;> rcases hended with hended | hended <;>
      (rw [hstatus] at hended; cases hended)
  | fail h _ =>
    obtain ⟨operations, -, rfl⟩ := failTransaction_eq_ok h
    exact .of_services_eq rfl rfl

theorem transitionData_serverId {current : Service}
    {input : TransitionServiceInput} {actorUserId now : ℕ} {data : Service → Service}
    (h : transitionData current input actorUserId now = .ok data)
    (service : Service) : (data service).serverId = service.serverId := by
  cases input with
  | active externalAccountId controlPanelUsername =>
    simp only [transitionData, eq_ok] at h
    obtain ⟨-, rfl⟩ := h
    rfl
  | provisioning | suspended | provisionFailed | cancelled | terminated =>
    cases h
    rfl

theorem noneRevived_transition {request : TransitionServiceRequest} {now : ℕ}
    {u : Unit}
    (h : transitionTransaction request now db = .ok (db', u)) :
    NoneRevived db db' := by
  obtain ⟨current, data, events, orders, hcurrent, hallowed, hdata, -, -, rfl⟩ :=
    transitionTransaction_eq_ok h
  refine .of_update rfl rfl fun found hfound => ?_
  obtain rfl := Option.mem_unique hcurrent hfound
  exact ⟨transitionData_serverId hdata current,
    fun hended => absurd hallowed (absorbing_of_final hended _)⟩

/-- **A step of an operation on a hosting account** lets no service count that did not, when it is
no completion that comes too late. -/
theorem noneRevived_of_step {t t' : Thread (hostingOperations requestHash payloadHash)}
    (hguard : ∀ l ∈ execution requestHash payloadHash t.op t.loc, revives db l = false)
    (h : t.step w db = some (db', t')) : NoneRevived db db' := by
  cases threadStep_of_step h with
  | execute hl _ _ hstep => exact noneRevived_execute (hguard _ hl) hstep
  | automate _ _ _ hstep => exact noneRevived_automate hstep
  | transition _ _ _ hstep => exact noneRevived_transition hstep
  | wait _ _ _ hsame =>
    subst hsame
    exact .refl db'

end Completions

/-! ## All operations -/

section

variable {nextServiceDueAt : ℕ → BillingPeriod → ℕ}
variable {requestHash : RowId → HostingPanelService.ExecuteHostingOperationRequest → String}
variable {payloadHash : HostingAutomationService.AutomationPayload → String}

def stepRevives (db : Database) : (op : CapacityOperation) →
    (capacityOperations nextServiceDueAt requestHash payloadHash op).Local → Bool
  | .hosting op, l => (execution requestHash payloadHash op l).any (revives db)
  | _, _ => false

/-- **The guard**: no completion of the API finds its service ended and makes it count again. -/
def CompletionsInTime (_ : World) (s : CapacityStore)
    (t : Thread (capacityOperations nextServiceDueAt requestHash payloadHash)) : Prop :=
  stepRevives s.db t.op t.loc = false
deriving Decidable

def CreateState.server? : CreateState → Option RowId
  | .reading _ => none
  | .counting input _ _ _ => some input.serverId
  | .inserting input _ _ => some input.serverId

def holdsServer : (op : CapacityOperation) →
    (capacityOperations nextServiceDueAt requestHash payloadHash op).Local → Option RowId
  | .create, l => CreateState.server? l
  | .hosting _, _ => none
  | .updateServer, _ => none
  | .update, _ => none

def ReliesOnRoom (serverId : RowId) (s : CapacityStore) : (op : CapacityOperation) →
    (capacityOperations nextServiceDueAt requestHash payloadHash op).Local → Prop
  | .create, l => match (l : CreateState) with
    | .inserting input _ _ => input.serverId = serverId → HasRoom s.db serverId
    | _ => True
  | .hosting _, _ => True
  | .updateServer, _ => True
  | .update, _ => True

/-- What a step of `create` does. -/
inductive CreateEffect (nextServiceDueAt : ℕ → BillingPeriod → ℕ) (w : World) (s : CapacityStore) :
    CreateState → CapacityStore → CreateState → Prop
  | reads {state : ServiceService.CreateState} {l' : CreateState} (hserver : l'.server? = none) :
      CreateEffect nextServiceDueAt w s (.reading state) s l'
  | locks {input : CreateServiceRequest} {activeAdapter : String} {item : OrderItem}
      {order : Order} (hfree : input.serverId ∉ s.locked) :
      CreateEffect nextServiceDueAt w s (.reading (.commit input activeAdapter item order))
        { s with locked := input.serverId :: s.locked } (.counting input activeAdapter item order)
  | counts {input : CreateServiceRequest} {activeAdapter : String} {item : OrderItem}
      {order : Order} (hroom : HasRoom s.db input.serverId) :
      CreateEffect nextServiceDueAt w s (.counting input activeAdapter item order)
        s (.inserting input item order)
  | rollsBack {input : CreateServiceRequest} {l l' : CreateState}
      (hserver : l.server? = some input.serverId) (hserver' : l'.server? = none) :
      CreateEffect nextServiceDueAt w s l (s.unlock input.serverId) l'
  | inserts {input : CreateServiceRequest} {item : OrderItem} {order : Order}
      {orders : Table Order} {l' : CreateState} (hserver' : l'.server? = none) :
      CreateEffect nextServiceDueAt w s (.inserting input item order)
        ({ s with db := { s.db with
            services := s.db.services.insert
              (newService nextServiceDueAt input item order w.now)
            orders := orders } }.unlock input.serverId) l'

variable {s s' : CapacityStore} {w : World}

theorem insertTransaction_eq_ok {input : CreateServiceRequest} {item : OrderItem}
    {order : Order} {now : ℕ} {serviceId : RowId}
    (h : insertTransaction nextServiceDueAt input item order now db = .ok (db', serviceId)) :
    ∃ orders, db' = { db with
      services := db.services.insert
        (newService nextServiceDueAt input item order now)
      orders := orders } := by
  simp only [insertTransaction, eq_ok] at h
  obtain ⟨-, ⟨db₁, id⟩, hcreate, db₂, hprocess, rfl, -⟩ := h
  obtain ⟨rfl, -⟩ := Prod.mk.inj (db.createService_eq_ok hcreate).2
  rw [startProcessing] at hprocess
  split at hprocess
  · obtain ⟨_, _, _, rfl⟩ := Database.updateOrder_eq_ok _ hprocess
    exact ⟨_, rfl⟩
  · cases hprocess
    exact ⟨_, rfl⟩

theorem createEffect_of_step {l l' : CreateState}
    (h : createStep nextServiceDueAt w s l = some (s', l')) :
    CreateEffect nextServiceDueAt w s l s' l' := by
  cases l with
  | reading state =>
    have hreads : (ServiceService.createStep nextServiceDueAt w s.db state).map
          (fun out => ({ s with db := out.1 }, CreateState.reading out.2)) = some (s', l') →
        (∀ input activeAdapter item order,
          state ≠ .commit input activeAdapter item order) →
        CreateEffect nextServiceDueAt w s (.reading state) s' l' := by
      intro hmap hstate
      obtain ⟨⟨db, state'⟩, hstep, rfl, rfl⟩ := map_eq_some_pair.1 hmap
      rcases ServiceService.createStep_writes nextServiceDueAt hstep with
        rfl | ⟨input, activeAdapter, item, order, _, rfl, -⟩
      · exact .reads rfl
      · exact absurd rfl (hstate input activeAdapter item order)
    cases state with
    | commit input activeAdapter item order =>
      rw [createStep] at h
      split at h
      · cases h
      · rename_i hfree
        cases h
        exact .locks hfree
    | read | readItem | race | done => exact hreads h fun _ _ _ _ heq => by cases heq
  | counting input activeAdapter item order =>
    rw [createStep] at h
    split at h
    · rename_i hserver
      cases h
      exact .counts (hasRoom_of_requireServer hserver)
    · cases h
      exact .rollsBack rfl rfl
  | inserting input item order =>
    rw [createStep] at h
    split at h
    · rename_i db' serviceId heq
      cases h
      have hok := atomically_ok heq
      obtain ⟨orders, rfl⟩ := insertTransaction_eq_ok hok
      exact .inserts rfl
    · cases h
      exact .rollsBack rfl rfl
    · cases h
      exact .rollsBack rfl rfl

inductive CapacityEffect (w : World) (s s' : CapacityStore) : (op : CapacityOperation) →
    (capacityOperations nextServiceDueAt requestHash payloadHash op).Local →
    (capacityOperations nextServiceDueAt requestHash payloadHash op).Local → Prop
  | creates {l l' : CreateState}
      (heffect : CreateEffect nextServiceDueAt w s l s' l') :
      CapacityEffect w s s' .create l l'
  | keeps {op : CapacityOperation}
      {l l' : (capacityOperations nextServiceDueAt requestHash payloadHash op).Local}
      (hop : op ≠ .create) (hlocked : s'.locked = s.locked) (hnone : NoneRevived s.db s'.db) :
      CapacityEffect w s s' op l l'
  | rewrites {op : CapacityOperation}
      {l l' : (capacityOperations nextServiceDueAt requestHash payloadHash op).Local}
      {serverId : RowId} {f : Server → Server} (hop : op ≠ .create)
      (hfree : serverId ∉ s.locked)
      (hstore : s' = { s with db := { s.db with servers := s.db.servers.update serverId f } }) :
      CapacityEffect w s s' op l l'

variable {request : UpdateServerRequest}

theorem updateServerTransaction_eq_ok (h : updateServerTransaction request db = .ok db') :
    ∃ f, db' = { db with servers := db.servers.update request.serverId f } := by
  simp only [updateServerTransaction, eq_ok] at h
  obtain ⟨_, -, _, -, _, -, rfl⟩ := h
  exact ⟨_, rfl⟩

theorem updateTransaction_eq_ok (h : updateTransaction request db = .ok db') :
    ∃ f, db' = { db with servers := db.servers.update request.serverId f } := by
  simp only [updateTransaction, eq_ok] at h
  obtain ⟨_, -, _, -, _, -, _, -, rfl⟩ := h
  exact ⟨_, rfl⟩

theorem updateStep_eq_some {tx : UpdateServerRequest → Database → Except Failure Database}
    (htx : ∀ request db db', tx request db = .ok db' →
      ∃ f, db' = { db with servers := db.servers.update request.serverId f }) {l l' : UpdateState}
    (h : updateStep tx w s l = some (s', l')) :
    s' = s ∨ ∃ serverId f, serverId ∉ s.locked ∧
      s' = { s with db := { s.db with servers := s.db.servers.update serverId f } } := by
  cases l with
  | writing request =>
    rw [updateStep] at h
    split at h
    · cases h
    · rename_i hfree
      split at h
      · rename_i db' hok
        cases h
        obtain ⟨f, rfl⟩ := htx request s.db db' hok
        exact .inr ⟨request.serverId, f, hfree, rfl⟩
      · cases h
        exact .inl rfl
  | done result => cases h

theorem capacityEffect_of_step {op : CapacityOperation}
    {l l' : (capacityOperations nextServiceDueAt requestHash payloadHash op).Local}
    (hguard : stepRevives s.db op l = false)
    (h : (capacityOperations nextServiceDueAt requestHash payloadHash op).step w s l =
      some (s', l')) : CapacityEffect w s s' op l l' := by
  cases op with
  | create => exact .creates (createEffect_of_step h)
  | hosting op =>
    obtain ⟨⟨db, l₁⟩, hstep, rfl, rfl⟩ := map_eq_some_pair.1 h
    refine .keeps nofun rfl (noneRevived_of_step (t := ⟨op, l⟩) (fun state hstate => ?_)
      (Thread.step_of hstep))
    by_contra hrevives
    have hany : stepRevives s.db (.hosting op) l = true :=
      (Option.any_eq_true _ _).2 ⟨state, hstate, Bool.eq_true_of_not_eq_false hrevives⟩
    rw [hguard] at hany
    cases hany
  | updateServer =>
    rcases updateStep_eq_some (w := w) (fun _ _ _ hok => updateServerTransaction_eq_ok hok) h with
      rfl | ⟨serverId, f, hfree, rfl⟩
    · exact .keeps nofun rfl (.refl _)
    · exact .rewrites nofun hfree rfl
  | update =>
    rcases updateStep_eq_some (w := w) (fun _ _ _ hok => updateTransaction_eq_ok hok) h with
      rfl | ⟨serverId, f, hfree, rfl⟩
    · exact .keeps nofun rfl (.refl _)
    · exact .rewrites nofun hfree rfl

/-! ### The lock of a server -/

variable {serverId : RowId}

theorem holdsServer_of_ne {op : CapacityOperation} (hop : op ≠ .create)
    (l : (capacityOperations nextServiceDueAt requestHash payloadHash op).Local) :
    holdsServer op l = none := by
  cases op with
  | create => exact absurd rfl hop
  | hosting | updateServer | update => rfl

theorem reliesOnRoom_of_ne {op : CapacityOperation}
    {l : (capacityOperations nextServiceDueAt requestHash payloadHash op).Local}
    (h : holdsServer op l ≠ some serverId) : ReliesOnRoom serverId s op l := by
  cases op with
  | create =>
    cases l with
    | reading | counting => trivial
    | inserting input item order => exact fun hid => absurd (congrArg some hid) h
  | hosting | updateServer | update => trivial

theorem mem_unlock_of_ne {unlockedId : RowId} (h : unlockedId ≠ serverId) :
    serverId ∈ (s.unlock unlockedId).locked ↔ serverId ∈ s.locked :=
  List.mem_erase_of_ne (Ne.symm h)

variable (nextServiceDueAt requestHash payloadHash) in
def serverLock (serverId : RowId) :
    Lock (capacityOperations nextServiceDueAt requestHash payloadHash) where
  taken s := serverId ∈ s.locked
  holds t := holdsServer t.op t.loc = some serverId

theorem moves_unlock {unlockedId : RowId}
    {t t' : Thread (capacityOperations nextServiceDueAt requestHash payloadHash)}
    (hholds : holdsServer t.op t.loc = some unlockedId) (hnone : holdsServer t'.op t'.loc = none)
    (hlocked : s'.locked = (s.unlock unlockedId).locked) :
    (serverLock nextServiceDueAt requestHash payloadHash serverId).Moves s s' t t' := by
  by_cases hid : unlockedId = serverId
  · subst hid
    exact .releases hholds (by simp [serverLock, hnone])
  · refine .stays (by simp [serverLock, hnone, hholds, hid]) ?_
    show serverId ∈ s'.locked ↔ serverId ∈ s.locked
    rw [hlocked]
    exact mem_unlock_of_ne hid

theorem serverLock_sound :
    (serverLock nextServiceDueAt requestHash payloadHash serverId).Sound CompletionsInTime where
  start op request := by
    cases op with
    | create | hosting | updateServer | update => exact fun hholds => nomatch hholds
  moves w s t s' t' hguard _ hstep := by
    obtain ⟨l', hl, rfl⟩ := Thread.step_eq_some hstep
    obtain ⟨op, l⟩ := t
    have hstays : holdsServer op l' = holdsServer op l → s'.locked = s.locked →
        (serverLock nextServiceDueAt requestHash payloadHash serverId).Moves s s' ⟨op, l⟩ ⟨op, l'⟩ :=
          fun hholds hlocked =>
      .stays (by simp [serverLock, hholds]) (by simp [serverLock, hlocked])
    cases capacityEffect_of_step hguard hl with
    | creates hcreate =>
      cases hcreate with
      | reads hserver => exact hstays hserver rfl
      | @locks input _ _ _ hfree =>
        by_cases hid : input.serverId = serverId
        · subst hid
          exact .takes hfree (List.mem_cons_self ..)
        · refine .stays (by simp [serverLock, holdsServer, CreateState.server?, hid]) ?_
          exact List.mem_cons.trans (or_iff_right (Ne.symm hid))
      | counts _ => exact hstays rfl rfl
      | rollsBack hserver hserver' => exact moves_unlock hserver hserver' rfl
      | inserts hserver' => exact moves_unlock rfl hserver' rfl
    | keeps hop hlocked _ =>
      exact hstays (by rw [holdsServer_of_ne hop, holdsServer_of_ne hop]) hlocked
    | rewrites hop _ hstore =>
      exact hstays (by rw [holdsServer_of_ne hop, holdsServer_of_ne hop]) (by rw [hstore])

/-! ### The room that was counted -/

variable {op : CapacityOperation}

theorem assigned_insert {service : Service} {orders : Table Order}
    (hstatus : service.status = .pending) :
    assigned
        { db with services := db.services.insert service, orders := orders } serverId =
      assigned db serverId + if service.serverId = serverId then 1 else 0 := by
  simp only [assigned, select_insert, List.length_append, hstatus]
  split <;> simp_all

variable {l l' : (capacityOperations nextServiceDueAt requestHash payloadHash op).Local}

theorem CapacityEffect.hasRoom (heffect : CapacityEffect w s s' op l l')
    (hlocked : serverId ∈ s.locked) (hholds : holdsServer op l ≠ some serverId)
    (hroom : HasRoom s.db serverId) :
    HasRoom s'.db serverId := by
  cases heffect with
  | creates hcreate =>
    cases hcreate with
    | reads | locks | counts | rollsBack => exact hroom
    | @inserts input item order orders _ hserver' =>
      intro server maxAccounts hserver hmax
      have hne : input.serverId ≠ serverId := fun hid => hholds (congrArg some hid)
      have hsame : assigned
          { s.db with
            services := s.db.services.insert
              (newService nextServiceDueAt input item order w.now)
            orders := orders } serverId = assigned s.db serverId :=
        (assigned_insert rfl).trans (congrArg (_ + ·) (if_neg hne))
      exact hsame.trans_lt (hroom server maxAccounts hserver hmax)
  | keeps _ _ hnone => exact hnone.hasRoom hroom
  | @rewrites _ _ _ writtenId f _ hfree hstore =>
    subst hstore
    intro server maxAccounts hserver hmax
    have hne : writtenId ≠ serverId := by
      rintro rfl
      exact hfree hlocked
    rw [get?_update_of_ne hne] at hserver
    exact hroom server maxAccounts hserver hmax

theorem CapacityEffect.keepsCapacity (heffect : CapacityEffect w s s' op l l')
    (hrelies : ∀ serverId, ReliesOnRoom serverId s op l) :
    KeepsCapacity s.db s'.db := by
  cases heffect with
  | creates hcreate =>
    cases hcreate with
    | reads | locks | counts | rollsBack => exact (NoneRevived.refl s.db).keepsCapacity
    | @inserts input item order orders _ hserver' =>
      intro serverId server maxAccounts hserver hmax hmore
      have hassigned : assigned
          { s.db with
            services := s.db.services.insert
              (newService nextServiceDueAt input item order w.now)
            orders := orders } serverId =
          assigned s.db serverId + if input.serverId = serverId then 1 else 0 :=
        assigned_insert rfl
      by_cases hid : input.serverId = serverId
      · rw [if_pos hid] at hassigned
        exact hassigned.trans_le (hrelies serverId hid server maxAccounts hserver hmax)
      · rw [if_neg hid] at hassigned
        exact absurd hassigned hmore.ne'
  | keeps _ _ hnone => exact hnone.keepsCapacity
  | rewrites _ _ hstore =>
    subst hstore
    intro serverId _ _ _ _ hmore
    exact absurd hmore (Nat.lt_irrefl _)

variable (nextServiceDueAt requestHash payloadHash) in
def capacityOutline (serverId : RowId) :
    Outline (capacityOperations nextServiceDueAt requestHash payloadHash) :=
  (serverLock _ _ _ serverId).outline (fun _ => True) fun s t => ReliesOnRoom serverId s t.op t.loc

theorem capacityOutline_sound :
    (capacityOutline nextServiceDueAt requestHash payloadHash serverId).Sound
      CompletionsInTime := by
  refine serverLock_sound.outline_sound ?_ ?_ ?_
  · intro s op request _
    cases op with
    | create | hosting | updateServer | update => trivial
  · intro w s t s' t' hguard _ _ _ hstep
    refine ⟨trivial, ?_⟩
    obtain ⟨l', hl, rfl⟩ := Thread.step_eq_some hstep
    obtain ⟨op, l⟩ := t
    cases capacityEffect_of_step hguard hl with
    | creates hcreate =>
      cases hcreate with
      | reads hserver | rollsBack _ hserver | inserts hserver =>
        exact reliesOnRoom_of_ne (by simp [holdsServer, hserver])
      | locks _ => trivial
      | counts hroom => exact fun hid => hid ▸ hroom
    | keeps hop _ _ | rewrites hop _ _ =>
      exact reliesOnRoom_of_ne (by simp [holdsServer_of_ne hop])
  · intro w s t s' t' u hguard _ _ hu htaken hexcludes hstep
    obtain ⟨l', hl, rfl⟩ := Thread.step_eq_some hstep
    obtain ⟨uop, ul⟩ := u
    by_cases hholds : holdsServer uop ul = some serverId
    · cases uop with
      | create =>
        cases ul with
        | reading => cases hholds
        | counting => trivial
        | inserting input item order =>
          exact fun hid => (capacityEffect_of_step hguard hl).hasRoom (htaken hholds)
            (hexcludes hholds) (hu hid)
      | hosting | updateServer | update => trivial
    · exact reliesOnRoom_of_ne hholds

/-- **Server capacity is respected**, in every interleaving of creations, operations of the API,
transitions, runs of the worker and updates of servers in which no completion of the API makes an
ended service count again: no step lets the number of services that count on a server grow beyond
the limit of the server. -/
theorem server_capacity_respected
    {c c' : Config (capacityOperations nextServiceDueAt requestHash payloadHash)}
    (hr : Reaches CompletionsInTime ⟨s, []⟩ c) (hstep : Config.Step CompletionsInTime c c') :
    KeepsCapacity c.shared.db c'.shared.db := by
  have hholds : ∀ serverId,
      (capacityOutline nextServiceDueAt requestHash payloadHash serverId).Holds c := fun serverId =>
    capacityOutline_sound.holds
      (Outline.holds_idle (P := capacityOutline _ _ _ serverId) trivial) hr
  cases hstep with
  | call op request => exact (NoneRevived.refl c.shared.db).keepsCapacity
  | advance ht hguard hs =>
    obtain ⟨l', hl, rfl⟩ := Thread.step_eq_some hs
    exact (capacityEffect_of_step hguard hl).keepsCapacity fun serverId =>
      ((hholds serverId).thread _ (List.mem_of_getElem? ht)).2

end

/-! ### A service that is cancelled during its creation -/

def fullServer : CapacityStore where
  db :=
    { pendingService with
      servers := ⟨[{ adapterKey := "fake-panel", maxAccounts := some 1 }]⟩
      orders := ⟨[{ customerId := 0, status := .paid, updatedAt := 0 }]⟩
      orderItems := ⟨[{ orderId := 0, currency := "BDT", requestedDomain := some "c.d" }]⟩
      activeHostingPanelAdapter := "fake-panel" }

abbrev unhashedCapacity : CapacityOperation → Operation CapacityStore World :=
  capacityOperations (fun now _ => now) (fun _ _ => "") fun _ => ""

def cancelFirst : List (Move unhashedCapacity) :=
  [.call (.hosting .execute) ⟨0, ⟨"k", .createAccount⟩, .admin, 0⟩, .advance 0 {}, .advance 0 {},
    .call (.hosting .transition) ⟨0, .cancelled "by mistake", 0⟩, .advance 1 {}]

def createSecond : List (Move unhashedCapacity) :=
  [.call .create ⟨0, 0⟩, .advance 2 {}, .advance 2 {}, .advance 2 {}, .advance 2 {}, .advance 2 {}]

def createdLate : List (Move unhashedCapacity) :=
  cancelFirst ++ createSecond ++ [.advance 0 accountCreated]

def createdLateConfig : Config unhashedCapacity :=
  Config.after ⟨fullServer, []⟩ createdLate (by decide +kernel)

def overLimitConfig : Config unhashedCapacity :=
  createdLateConfig.after [.advance 0 {}] (by decide +kernel)

/-- **A server gets more services than it takes.** -/
theorem revived_beyond_limit :
    Config.run ⟨fullServer, []⟩ createdLate = some createdLateConfig ∧
    createdLateConfig.run [.advance 0 {}] = some overLimitConfig ∧
    assigned createdLateConfig.shared.db 0 = 1 ∧
    assigned overLimitConfig.shared.db 0 = 2 ∧
    (overLimitConfig.shared.db.servers.get? 0).map Server.maxAccounts = some (some 1) ∧
    ¬ KeepsCapacity createdLateConfig.shared.db overLimitConfig.shared.db := by
  have hbefore : assigned createdLateConfig.shared.db 0 = 1 := by decide +kernel
  have hafter : assigned overLimitConfig.shared.db 0 = 2 := by decide +kernel
  have hlimit : (overLimitConfig.shared.db.servers.get? 0).map Server.maxAccounts =
      some (some 1) := by
    decide +kernel
  refine ⟨run_eq_after _, run_eq_after _, hbefore, hafter, hlimit, fun hkeeps => ?_⟩
  obtain ⟨server, hserver, hmax⟩ := Option.map_eq_some_iff.1 hlimit
  have := hkeeps 0 server 1 hserver hmax (by rw [hbefore, hafter]; decide)
  rw [hafter] at this
  exact absurd this (by decide)

/-- The first service is cancelled before its account is created, and the second one is created up
to its insertion. -/
def cancelThenCreate : List (Move unhashedCapacity) :=
  [.call (.hosting .transition) ⟨0, .cancelled "by mistake", 0⟩, .advance 0 {},
    .call .create ⟨0, 0⟩, .advance 1 {}, .advance 1 {}, .advance 1 {}, .advance 1 {}]

def countedConfig : Config unhashedCapacity :=
  Config.after ⟨fullServer, []⟩ cancelThenCreate (by decide +kernel)

def insertedConfig : Config unhashedCapacity :=
  countedConfig.after [.advance 1 {}] (by decide +kernel)

theorem second_service_fits :
    assigned countedConfig.shared.db 0 = 0 ∧
    assigned insertedConfig.shared.db 0 = 1 ∧
    KeepsCapacity countedConfig.shared.db insertedConfig.shared.db := by
  refine ⟨by decide +kernel, by decide +kernel, ?_⟩
  have hnext : countedConfig.next (.advance 1 {}) = some insertedConfig := by
    have hrun : countedConfig.run [.advance 1 {}] = some insertedConfig := run_eq_after _
    simpa only [Config.run, Option.bind_fun_some] using hrun
  exact server_capacity_respected
    (reaches_of_run (run_eq_after
      (show (Config.run ⟨fullServer, []⟩ cancelThenCreate).isSome = true by decide +kernel))
      (by decide +kernel))
    (step_of_next hnext (by decide +kernel))

end Capacity

end WebhostBilling
