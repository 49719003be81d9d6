import WebhostBilling.Servers.ServerConnections

/-!
# Only a tested connection is active

A test calls the panel with the server as it was read before the test was recorded, and only when a
second read, after that, found the server unchanged.  An activation asks for a test that succeeded
and was started after the server was last written, and after it every change of the settings needs a
server that is out of use, or takes it out of use (`Rewrites`).
-/

namespace WebhostBilling

open Store Store.Table Concurrency Config

namespace Servers

/-! ## What is noted -/

def Server.columns (server : Server) :
    String × ℕ × Option String × Option CredentialCiphertext :=
  (server.hostname, server.port, server.apiUsername, server.credentialsCiphertext)

inductive ServerEvent
  | changed (serverId : RowId) (time : ℕ)
  | exercised (operationId : RowId) (settings : ConnectionSettings)

def changeEvents (s s' : ServerStore) (serverId : RowId) : List ServerEvent :=
  match s.servers.get? serverId, s'.servers.get? serverId with
  | some server, some server' =>
    if server'.columns = server.columns then [] else [.changed serverId server'.updatedAt]
  | _, _ => []

def changeNotes {ι : Type} (s : ServerStore) (out : Option (ServerStore × ChangeState ι)) :
    ChangeState ι → List ServerEvent
  | .writing _ serverId _ => out.elim [] fun out => changeEvents s out.1 serverId
  | .done _ => []

def testNotes : TestState → List ServerEvent
  | .calling request server operationId =>
    [.exercised operationId (connection request.serverId server).toConnectionSettings]
  | _ => []

def serverEvents : (op : ServerOperation) → ServerWorld → ServerStore →
    (serverOperations op).Local → List ServerEvent
  | .updateServer, w, s, l => changeNotes s (updateServer.step w s l) l
  | .configureCpanelServer, w, s, l => changeNotes s (configureCpanelServer.step w s l) l
  | .executeConnectionTest, _, _, l => testNotes l

abbrev tracedServers := tracedFamily serverOperations serverEvents

/-! ## The invariant -/

section

variable {serverId : RowId} {s s' : ServerStore} {events : List ServerEvent} {w : ServerWorld}

/-- What the rows and the trace say of the tests of one server: a test that was started after the
server was last written has called the panel with the settings of the server, if it called it, and
has called it if it succeeded. -/
structure ConnectionHistory (serverId : RowId) (s : ServerStore) (events : List ServerEvent) :
    Prop where
  servers : ∀ server, s.servers.get? serverId = some server → server.updatedAt ≤ s.clock
  operations : ∀ id op, s.operations.get? id = some op → op.startedAt ≤ s.clock
  changes : ∀ time server, .changed serverId time ∈ events →
    s.servers.get? serverId = some server → time ≤ server.updatedAt
  recorded : ∀ id settings, .exercised id settings ∈ events → id < s.operations.size
  current : ∀ id settings op server, .exercised id settings ∈ events →
    s.operations.get? id = some op → op.serverId = serverId →
    s.servers.get? serverId = some server → server.updatedAt < op.startedAt →
    settings = server.settings
  succeeded : ∀ id op server, s.operations.get? id = some op → op.serverId = serverId →
    op.type = .testConnection → op.status = .succeeded →
    s.servers.get? serverId = some server → server.updatedAt < op.startedAt →
    ∃ settings, .exercised id settings ∈ events

theorem connectionHistory_untested
    (hservers : ∀ server, s.servers.get? serverId = some server → server.updatedAt ≤ s.clock)
    (hoperations : ∀ id op, s.operations.get? id = some op → op.startedAt ≤ s.clock)
    (huntested : ∀ id op server, s.operations.get? id = some op → op.serverId = serverId →
      s.servers.get? serverId = some server → op.startedAt ≤ server.updatedAt) :
    ConnectionHistory serverId s [] where
  servers := hservers
  operations := hoperations
  changes _ _ hmem := absurd hmem List.not_mem_nil
  recorded _ _ hmem := absurd hmem List.not_mem_nil
  current _ _ _ _ hmem := absurd hmem List.not_mem_nil
  succeeded id op server hop howner _ _ hserver hlater :=
    absurd hlater (Nat.not_lt.2 (huntested id op server hop howner hserver))

def HasTest (serverId : RowId) (s : ServerStore) (events : List ServerEvent)
    (settings : ConnectionSettings) : Prop :=
  ∃ id op, s.operations.get? id = some op ∧ op.serverId = serverId ∧ op.type = .testConnection ∧
    op.status = .succeeded ∧ .exercised id settings ∈ events ∧
    ∀ time, .changed serverId time ∈ events → time < op.startedAt

/-- **What the claim is about**: a server in use has a test of the settings that it has. -/
def ActiveTested (serverId : RowId) (s : ServerStore) (events : List ServerEvent) : Prop :=
  ∀ server, s.servers.get? serverId = some server → server.status = .active →
    HasTest serverId s events server.settings

variable {changedId id : RowId} {current server : Server} {op : ServerOperation} {l l' : TestState}
  {input : UpdateCpanelServerRequest}

theorem ConnectionHistory.hasTest (h : ConnectionHistory serverId s events)
    (hserver : s.servers.get? serverId = some server) (htested : s.tested serverId server = true) :
    HasTest serverId s events server.settings := by
  rw [ServerStore.tested, any_eq_true] at htested
  obtain ⟨id, op, hop, htest⟩ := htested
  rw [decide_eq_true_eq] at htest
  obtain ⟨howner, htype, hstatus, hlater⟩ := htest
  obtain ⟨settings, hexercised⟩ :=
    h.succeeded id op server hop howner htype hstatus hserver hlater
  have hsettings := h.current id settings op server hexercised hop howner hserver hlater
  subst hsettings
  refine ⟨id, op, hop, howner, htype, hstatus, hexercised, fun time hchanged => ?_⟩
  have := h.changes time server hchanged hserver
  omega

/-! ## Changes of a server -/

/-- A change of a server: its row is written at a new time.  A server that is in use after it keeps
its connection, and was in use already or has been tested. -/
structure Rewrites (s : ServerStore) (w : ServerWorld) (serverId : RowId) (s' : ServerStore)
    (current server : Server) : Prop where
  found : s.servers.get? serverId = some current
  store : s' = { s with
    servers := s.servers.update serverId fun _ => { server with updatedAt := s.now w }
    clock := s.now w }
  inUse : server.status = .active → server.columns = current.columns ∧
    (current.status = .active ∨ s.tested serverId current = true)

theorem writeServer_eq_ok {now : ℕ} (h : s.writeServer serverId server now = .ok s') : s' = { s with
      servers := s.servers.update serverId fun _ => { server with updatedAt := now }
      clock := now } := by
  simp only [ServerStore.writeServer, eq_ok] at h
  obtain ⟨_, -, _, -, rfl⟩ := h
  rfl

theorem findServer_eq_some (h : s.findServer serverId = some server) :
    s.servers.get? serverId = some server := by
  rw [ServerStore.findServer, Option.filter_eq_some_iff] at h
  exact h.1

/-- A request without a new address, user or token leaves the connection alone. -/
theorem columns_updatedServer
    (hidentity : input.identityChanged current = false) (htoken : input.apiToken = none) :
    (updatedServer w input current).columns = current.columns := by
  simp only [UpdateCpanelServerRequest.identityChanged, Bool.or_eq_false_iff] at hidentity
  obtain ⟨⟨hhostname, hport⟩, husername⟩ := hidentity
  have hgetD : ∀ {α : Type} [DecidableEq α] (field : Option α) (value : α),
      field.any (· ≠ value) = false → field.getD value = value := by
    intro α _ field value h
    cases field with
    | none => rfl
    | some a => simpa using h
  have husername' : (input.apiUsername <|> current.apiUsername) = current.apiUsername := by
    cases huser : input.apiUsername with
    | none => rfl
    | some username =>
      rw [huser] at husername
      simpa using husername
  simp only [Server.columns, updatedServer, hgetD _ _ hhostname, hgetD _ _ hport, husername',
    htoken]
  rfl

theorem inUse_of_checkUpdate (hcheck : checkUpdate w s serverId input current = .ok ())
    (hactive : (updatedServer w input current).status = .active) :
    (updatedServer w input current).columns = current.columns ∧
      (current.status = .active ∨ s.tested serverId current = true) := by
  simp only [checkUpdate, bind_eq_ok, require_eq_ok] at hcheck
  obtain ⟨_, -, _, -, _, -, _, hneedsToken, hactivation⟩ := hcheck
  have hstatus : updatedStatus input current = .active := hactive
  -- A token with the status asked for is refused, and without it takes the server out of use.
  have htoken : input.apiToken = none := by
    by_contra hsome
    have hisSome : input.apiToken.isSome = true := Option.isSome_iff_ne_none.2 hsome
    rw [updatedStatus] at hstatus
    split at hstatus
    · cases hstatus
    · rename_i hkeeps
      cases hasked : input.status with
      | none =>
        rw [hasked, Option.getD_none] at hstatus
        exact hkeeps ⟨hisSome, hasked, hstatus⟩
      | some status =>
        rw [hasked, Option.getD_some] at hstatus
        subst hstatus
        rw [checkActivation, if_pos ⟨hasked, .inr hisSome⟩] at hactivation
        simp only [bind_eq_ok, require_eq_ok] at hactivation
        obtain ⟨_, hrefused, -⟩ := hactivation
        exact hrefused (.inr hisSome)
  have hidentity : input.identityChanged current = false := by
    by_contra hchanged
    have := hneedsToken (Bool.eq_true_of_not_eq_false hchanged)
    rw [htoken] at this
    cases this
  refine ⟨columns_updatedServer hidentity htoken, ?_⟩
  by_cases hcurrent : current.status = .active
  · exact .inl hcurrent
  · have hasked : input.status = some .active := by
      rw [updatedStatus, if_neg fun h => hcurrent h.2.2] at hstatus
      cases hinput : input.status with
      | none =>
        rw [hinput] at hstatus
        exact absurd hstatus hcurrent
      | some status =>
        rw [hinput] at hstatus
        exact congrArg some hstatus
    rw [checkActivation, if_pos ⟨hasked, .inl hcurrent⟩] at hactivation
    simp only [bind_eq_ok, require_eq_ok] at hactivation
    obtain ⟨_, -, htested⟩ := hactivation
    exact .inr htested

theorem rewrites_of_update (h : updateTransaction w serverId input s = .ok s') :
    ∃ current server, Rewrites s w serverId s' current server := by
  simp only [updateTransaction, eq_ok, Option.filter_eq_some_iff] at h
  obtain ⟨current, ⟨hcurrent, -⟩, _, hcheck, hwrite⟩ := h
  exact ⟨current, _, findServer_eq_some hcurrent, writeServer_eq_ok hwrite,
    inUse_of_checkUpdate hcheck⟩

theorem rewrites_of_configure {input : ConfigureCpanelServerRequest}
    (h : configureTransaction w serverId input s = .ok s') :
    ∃ current server, Rewrites s w serverId s' current server := by
  simp only [configureTransaction, bind_eq_ok, orThrow_eq_ok, require_eq_ok] at h
  obtain ⟨current, hcurrent, _, -, _, -, _, -, _, -, hwrite⟩ := h
  refine ⟨current, _, findServer_eq_some hcurrent, writeServer_eq_ok hwrite, fun hactive => ?_⟩
  simp only [configuredServer] at hactive
  split at hactive
  · cases hactive
  · rename_i hnot
    exact absurd hactive hnot

theorem Rewrites.get? (h : Rewrites s w changedId s' current server) {row : Server}
    (hrow : s'.servers.get? serverId = some row) :
    (changedId = serverId ∧ row = { server with updatedAt := s.now w }) ∨
      (changedId ≠ serverId ∧ s.servers.get? serverId = some row) := by
  rw [h.store] at hrow
  rcases get?_update_cases hrow with ⟨hid, _, -, heq⟩ | ⟨hid, hrow⟩
  · exact .inl ⟨hid, heq⟩
  · exact .inr ⟨hid, hrow⟩

def NewOrSame (serverId : RowId) (s s' : ServerStore) : Prop :=
  ∀ row, s'.servers.get? serverId = some row →
    s.servers.get? serverId = some row ∨ s.clock < row.updatedAt

theorem Rewrites.newOrSame
    (h : Rewrites s w changedId s' current server) : NewOrSame serverId s s' := by
  intro row hrow
  rcases h.get? hrow with ⟨-, rfl⟩ | ⟨-, hsame⟩
  · exact .inr (s.clock_lt_now w)
  · exact .inl hsame

theorem Rewrites.mem_changeEvents
    (h : Rewrites s w changedId s' current server) {event : ServerEvent}
    (hevent : event ∈ changeEvents s s' changedId) :
    event = .changed changedId (s.now w) ∧ server.columns ≠ current.columns := by
  have hafter : s'.servers.get? changedId = some { server with updatedAt := s.now w } := by
    rw [h.store]
    exact get?_update_self h.found
  simp only [changeEvents, h.found, hafter] at hevent
  split at hevent
  · cases hevent
  · rename_i hcolumns
    exact ⟨List.mem_singleton.1 hevent, hcolumns⟩

theorem ConnectionHistory.rewrites
    (h : ConnectionHistory serverId s events) (hchange : Rewrites s w changedId s' current server) :
    ConnectionHistory serverId s' (events ++ changeEvents s s' changedId) := by
  have hclock := s.clock_lt_now w
  have hstore := hchange.store
  have hoperations : s'.operations = s.operations := by rw [hstore]
  have hclock' : s'.clock = s.now w := by rw [hstore]
  have hexercised : ∀ id settings, .exercised id settings ∈ events ++ changeEvents s s' changedId →
      .exercised id settings ∈ events := by
    intro id settings hmem
    rcases List.mem_append.1 hmem with hmem | hmem
    · exact hmem
    · cases (hchange.mem_changeEvents hmem).1
  -- A test that was started after this server was written is one that was so before.
  have hbefore : ∀ id op row, s.operations.get? id = some op →
      s'.servers.get? serverId = some row → row.updatedAt < op.startedAt →
      s.servers.get? serverId = some row := by
    intro id op row hop hrow hlater
    rcases hchange.newOrSame row hrow with hsame | hnew
    · exact hsame
    · have := h.operations id op hop
      omega
  refine ⟨fun row hrow => ?_, fun id op hop => ?_, fun time row hmem hrow => ?_, ?_, ?_, ?_⟩
  · rw [hclock']
    rcases hchange.get? hrow with ⟨-, rfl⟩ | ⟨-, hsame⟩
    · exact Nat.le_refl _
    · have := h.servers row hsame
      omega
  · rw [hoperations] at hop
    have := h.operations id op hop
    omega
  · rcases hchange.get? hrow with ⟨rfl, rfl⟩ | ⟨hne, hsame⟩
    · rcases List.mem_append.1 hmem with hold | hnew
      · have := h.changes time current hold hchange.found
        have := h.servers current hchange.found
        show time ≤ s.now w
        omega
      · obtain ⟨heq, -⟩ := hchange.mem_changeEvents hnew
        cases heq
        exact Nat.le_refl _
    · rcases List.mem_append.1 hmem with hold | hnew
      · exact h.changes time row hold hsame
      · obtain ⟨heq, -⟩ := hchange.mem_changeEvents hnew
        cases heq
        exact absurd rfl hne
  · intro id settings hmem
    rw [hoperations]
    exact h.recorded id settings (hexercised id settings hmem)
  · intro id settings op row hmem hop howner hrow hlater
    rw [hoperations] at hop
    exact h.current id settings op row (hexercised id settings hmem) hop howner
      (hbefore id op row hop hrow hlater) hlater
  · intro id op row hop howner htype hstatus hrow hlater
    rw [hoperations] at hop
    obtain ⟨settings, hmem⟩ := h.succeeded id op row hop howner htype hstatus
      (hbefore id op row hop hrow hlater) hlater
    exact ⟨settings, List.mem_append_left _ hmem⟩

theorem settings_of_columns (h : server.columns = current.columns) :
    server.settings = current.settings := by
  simp only [Server.columns, Prod.mk.injEq] at h
  obtain ⟨hhostname, hport, husername, hcipher⟩ := h
  simp only [Server.settings, hhostname, hport, husername, hcipher]

variable {events' notes : List ServerEvent} {u : TestState}

theorem HasTest.mono {settings : ConnectionSettings} (h : HasTest serverId s events settings)
    (hoperations : ∀ id op, s.operations.get? id = some op → op.status = .succeeded →
      s'.operations.get? id = some op) (hevents : ∀ event ∈ events, event ∈ events')
    (hchanges : ∀ time, .changed serverId time ∈ events' → .changed serverId time ∈ events) :
    HasTest serverId s' events' settings := by
  obtain ⟨id, op, hop, howner, htype, hstatus, hexercised, hlater⟩ := h
  exact ⟨id, op, hoperations id op hop hstatus, howner, htype, hstatus, hevents _ hexercised,
    fun time hmem => hlater time (hchanges time hmem)⟩

theorem ActiveTested.rewrites
    (h : ActiveTested serverId s events) (hhistory : ConnectionHistory serverId s events)
    (hchange : Rewrites s w changedId s' current server) :
    ActiveTested serverId s' (events ++ changeEvents s s' changedId) := by
  intro row hrow hactive
  have hoperations : ∀ id op, s.operations.get? id = some op → op.status = .succeeded →
      s'.operations.get? id = some op := by
    intro id op hop _
    rw [hchange.store]
    exact hop
  have hevents : ∀ event ∈ events, event ∈ events ++ changeEvents s s' changedId :=
    fun event hmem => List.mem_append_left _ hmem
  rcases hchange.get? hrow with ⟨rfl, rfl⟩ | ⟨hne, hsame⟩
  · obtain ⟨hcolumns, hwas⟩ := hchange.inUse hactive
    have hsettings : ({ server with updatedAt := s.now w } : Server).settings = current.settings :=
      settings_of_columns hcolumns
    have htest : HasTest changedId s events current.settings := by
      rcases hwas with hcurrent | htested
      · exact h current hchange.found hcurrent
      · exact hhistory.hasTest hchange.found htested
    rw [hsettings]
    refine htest.mono hoperations hevents fun time hmem => ?_
    rcases List.mem_append.1 hmem with hold | hnew
    · exact hold
    · exact absurd hcolumns (hchange.mem_changeEvents hnew).2
  · refine (h row hsame hactive).mono hoperations hevents fun time hmem => ?_
    rcases List.mem_append.1 hmem with hold | hnew
    · exact hold
    · cases (hchange.mem_changeEvents hnew).1
      exact absurd rfl hne

/-! ## Tests -/

def RunningTest (s : ServerStore) (testedId : RowId) (operationId : RowId) : Prop :=
  ∃ op, s.operations.get? operationId = some op ∧ op.serverId = testedId ∧ op.status = .running

def StillCurrent (s : ServerStore) (testedId : RowId) (operationId : RowId)
    (settings : ConnectionSettings) : Prop :=
  ∀ op current, s.operations.get? operationId = some op → s.servers.get? testedId = some current →
    current.updatedAt < op.startedAt → settings = current.settings

def TestState.operation? : TestState → Option RowId
  | .rechecking _ _ operationId | .calling _ _ operationId | .completing operationId _ =>
    some operationId
  | _ => none

def TestRelies (s : ServerStore) (events : List ServerEvent) : TestState → Prop
  | .rechecking request _ operationId => RunningTest s request.serverId operationId
  | .calling request server operationId => RunningTest s request.serverId operationId ∧
      StillCurrent s request.serverId operationId server.settings
  | .completing operationId outcome => (∃ testedId, RunningTest s testedId operationId) ∧
      ∀ result, outcome = .ok result → ∃ settings, .exercised operationId settings ∈ events
  | _ => True

theorem testRelies_of_operation?_eq_none (h : l.operation? = none) :
    TestRelies s events l := by
  cases l with
  | rechecking | calling | completing => cases h
  | reading | findingDuplicate | creating | findingRaced | done => trivial

theorem TestRelies.lt_size {operationId : RowId} (h : TestRelies s events l)
    (hid : l.operation? = some operationId) : operationId < s.operations.size := by
  have hrow : ∃ testedId, RunningTest s testedId operationId := by
    cases l with
    | rechecking =>
      cases hid
      exact ⟨_, h⟩
    | calling =>
      cases hid
      exact ⟨_, h.1⟩
    | completing =>
      cases hid
      exact h.1
    | reading | findingDuplicate | creating | findingRaced | done => cases hid
  obtain ⟨_, op, hop, -⟩ := hrow
  exact lt_size_of_get? hop

inductive TestEffect (w : ServerWorld) (s : ServerStore) :
    TestState → ServerStore → TestState → Prop
  | reads {l l' : TestState} (hl : l.operation? = none) (hl' : l'.operation? = none) :
      TestEffect w s l s l'
  | records (request : TestRequest) (server : Server) :
      TestEffect w s (.creating request server)
        { s with operations := s.operations.insert (newTest request server (s.now w))
                 clock := s.now w }
        (.rechecking request server s.operations.size)
  | confirms {request : TestRequest} {server latest : Server} (operationId : RowId)
      (hlatest : s.servers.get? request.serverId = some latest)
      (hcolumns : latest.columns = server.columns) :
      TestEffect w s (.rechecking request server operationId) s
        (.calling request server operationId)
  | givesUp (request : TestRequest) (server : Server) (operationId : RowId) :
      TestEffect w s (.rechecking request server operationId) s
        (.completing operationId (.error connectionChangedError))
  | calls (request : TestRequest) (server : Server) (operationId : RowId) :
      TestEffect w s (.calling request server operationId) s
        (.completing operationId w.panelResult)
  | completes (operationId : RowId)
      (outcome : Except HostingPanelProviderError ConnectionTestResult) :
      TestEffect w s (.completing operationId outcome)
        { s with operations := s.operations.update operationId (completedTest outcome (s.now w))
                 clock := s.now w }
        (.done (.ok (operationId, false)))

theorem testEffect_of_step (h : testStep w s l = some (s', l')) :
    TestEffect w s l s' l' := by
  cases l with
  | reading request =>
    rw [testStep] at h
    split at h
    · cases h
      exact .reads rfl rfl
    · split at h <;> cases h <;> exact .reads rfl rfl
  | findingDuplicate request server =>
    rw [testStep] at h
    split at h <;> cases h <;> exact .reads rfl rfl
  | creating request server =>
    rw [testStep] at h
    split at h
    · cases h
      exact .reads rfl rfl
    · rename_i s₁ hcreate
      cases h
      simp only [createTest, eq_ok] at hcreate
      obtain ⟨_, -, _, -, rfl⟩ := hcreate
      exact .records request server
  | findingRaced request =>
    rw [testStep] at h
    split at h <;> cases h <;> exact .reads rfl rfl
  | rechecking request server operationId =>
    rw [testStep] at h
    split at h
    · rename_i hunchanged
      cases h
      rw [Option.any_eq_true] at hunchanged
      obtain ⟨latest, hlatest, hsame⟩ := hunchanged
      simp only [unchanged, decide_eq_true_eq] at hsame
      obtain ⟨-, hhostname, hport, husername, hcipher⟩ := hsame
      exact .confirms operationId (findServer_eq_some hlatest)
        (by simp only [Server.columns, hhostname, hport, husername, hcipher])
    · cases h
      exact .givesUp request server operationId
  | calling request server operationId =>
    cases h
    exact .calls request server operationId
  | completing operationId outcome =>
    cases h
    exact .completes operationId outcome
  | done result => cases h

theorem TestEffect.servers (heffect : TestEffect w s l s' l') :
    s'.servers = s.servers := by
  cases heffect with
  | reads | records | confirms | givesUp | calls | completes => rfl

theorem not_changed_mem_testNotes {testedId : RowId} {time : ℕ} :
    .changed testedId time ∉ testNotes l := by
  cases l with
  | calling => exact fun hmem => nomatch List.mem_singleton.1 hmem
  | rechecking | completing | reading | findingDuplicate | creating | findingRaced | done =>
    exact fun hmem => absurd hmem List.not_mem_nil

theorem TestEffect.operation_before (heffect : TestEffect w s l s' l') {op : PanelOperation}
    (hop : s'.operations.get? id = some op) :
    (id = s.operations.size ∧ op.status = .running ∧ op.startedAt = s.now w ∧ s'.clock = s.now w) ∨
    ∃ before, s.operations.get? id = some before ∧ op.serverId = before.serverId ∧
      op.type = before.type ∧ op.startedAt = before.startedAt ∧
      (op = before ∨ l'.operation? = none ∧ ∃ outcome, l = .completing id outcome ∧
        (op.status = .succeeded → ∃ result, outcome = .ok result)) := by
  cases heffect with
  | reads | confirms | givesUp | calls => exact .inr ⟨op, hop, rfl, rfl, rfl, .inl rfl⟩
  | records request server =>
    rcases get?_insert_cases hop with ⟨hid, heq⟩ | hold
    · exact .inl ⟨hid, by rw [heq]; rfl, by rw [heq]; rfl, rfl⟩
    · exact .inr ⟨op, hold, rfl, rfl, rfl, .inl rfl⟩
  | completes operationId outcome =>
    rcases get?_update_cases hop with ⟨rfl, before, hbefore, heq⟩ | ⟨-, hold⟩
    · refine .inr ⟨before, hbefore, ?_⟩
      cases outcome with
      | ok result =>
        subst heq
        exact ⟨rfl, rfl, rfl, .inr ⟨rfl, _, rfl, fun _ => ⟨result, rfl⟩⟩⟩
      | error error =>
        subst heq
        refine ⟨rfl, rfl, rfl, .inr ⟨rfl, _, rfl, fun hstatus => ?_⟩⟩
        simp only [completedTest] at hstatus
        split at hstatus <;> cases hstatus
    · exact .inr ⟨op, hold, rfl, rfl, rfl, .inl rfl⟩

theorem TestEffect.clock_le (heffect : TestEffect w s l s' l') :
    s.clock ≤ s'.clock := by
  have := s.clock_lt_now w
  cases heffect with
  | reads | confirms | givesUp | calls => exact Nat.le_refl _
  | records | completes => exact this.le

theorem ConnectionHistory.tests (h : ConnectionHistory serverId s events)
    (hrelies : TestRelies s events l) (heffect : TestEffect w s l s' l') :
    ConnectionHistory serverId s' (events ++ testNotes l) := by
  have hclock := heffect.clock_le
  refine ⟨fun server hserver => ?_, fun id op hop => ?_, fun time server hmem hserver => ?_,
    fun id settings hmem => ?_, fun id settings op server hmem hop howner hserver hlater => ?_,
    fun id op server hop howner htype hstatus hserver hlater => ?_⟩
  · rw [heffect.servers] at hserver
    exact (h.servers server hserver).trans hclock
  · rcases heffect.operation_before hop with
      ⟨-, -, hstarted, hnow⟩ | ⟨before, hbefore, -, -, hsame, -⟩
    · rw [hstarted, hnow]
    · rw [hsame]
      exact (h.operations id before hbefore).trans hclock
  · rw [heffect.servers] at hserver
    rcases List.mem_append.1 hmem with hold | hnew
    · exact h.changes time server hold hserver
    · exact absurd hnew not_changed_mem_testNotes
  · have hsize : s.operations.size ≤ s'.operations.size := by
      cases heffect with
      | reads | confirms | givesUp | calls => exact Nat.le_refl _
      | records | completes => simp
    rcases List.mem_append.1 hmem with hold | hnew
    · exact (h.recorded id settings hold).trans_le hsize
    · cases l with
      | calling request server operationId =>
        cases List.mem_singleton.1 hnew
        exact (hrelies.lt_size rfl).trans_le hsize
      | rechecking | completing | reading | findingDuplicate | creating | findingRaced | done =>
        exact absurd hnew List.not_mem_nil
  · rw [heffect.servers] at hserver
    rcases List.mem_append.1 hmem with hold | hnew
    · rcases heffect.operation_before hop with ⟨rfl, -⟩ | ⟨before, hbefore, hsame, -, hstarted, -⟩
      · exact absurd (h.recorded _ settings hold) (Nat.lt_irrefl _)
      · rw [hsame] at howner
        rw [hstarted] at hlater
        exact h.current id settings before server hold hbefore howner hserver hlater
    · cases l with
      | calling request read operationId =>
        cases List.mem_singleton.1 hnew
        cases heffect with
        | reads hl => cases hl
        | calls =>
          obtain ⟨⟨running, hrunning, htested, -⟩, hcurrent⟩ := hrelies
          obtain rfl := Option.mem_unique hrunning hop
          subst howner
          rw [htested] at hserver
          exact hcurrent running server hrunning hserver hlater
      | rechecking | completing | reading | findingDuplicate | creating | findingRaced | done =>
        exact absurd hnew List.not_mem_nil
  · rw [heffect.servers] at hserver
    rcases heffect.operation_before hop with
      ⟨-, hrunning, -⟩ | ⟨before, hbefore, hsame, hsameType, hstarted, hrow⟩
    · rw [hrunning] at hstatus
      cases hstatus
    · rcases hrow with rfl | ⟨-, outcome, rfl, hsucceeds⟩
      · obtain ⟨settings, hmem⟩ :=
          h.succeeded id op server hbefore howner htype hstatus hserver hlater
        exact ⟨settings, List.mem_append_left _ hmem⟩
      · obtain ⟨result, rfl⟩ := hsucceeds hstatus
        obtain ⟨settings, hmem⟩ := hrelies.2 result rfl
        exact ⟨settings, List.mem_append_left _ hmem⟩

/-- What a test relies on stays true when another thread takes a step that leaves its operation
alone. -/
theorem TestRelies.congr (hu : TestRelies s events u)
    (htimes : ∀ id op, s.operations.get? id = some op → op.startedAt ≤ s.clock)
    (hoperations : ∀ id, u.operation? = some id → s'.operations.get? id = s.operations.get? id)
    (hservers : ∀ testedId, NewOrSame testedId s s') (hevents : ∀ event ∈ events, event ∈ events') :
    TestRelies s' events' u := by
  have hrunning : ∀ testedId id, u.operation? = some id → RunningTest s testedId id →
      RunningTest s' testedId id := by
    rintro testedId id hid ⟨op, hop, hrow⟩
    exact ⟨op, (hoperations id hid).trans hop, hrow⟩
  cases u with
  | rechecking request server operationId => exact hrunning _ _ rfl hu
  | calling request server operationId =>
    refine ⟨hrunning _ _ rfl hu.1, fun op current hop hcurrent hlater => ?_⟩
    rw [hoperations operationId rfl] at hop
    rcases hservers _ current hcurrent with hsame | hnew
    · exact hu.2 op current hop hsame hlater
    · have := htimes operationId op hop
      omega
  | completing operationId outcome =>
    obtain ⟨⟨testedId, hrow⟩, hexercised⟩ := hu
    refine ⟨⟨testedId, hrunning _ _ rfl hrow⟩, fun result hresult => ?_⟩
    obtain ⟨settings, hmem⟩ := hexercised result hresult
    exact ⟨settings, hevents _ hmem⟩
  | reading | findingDuplicate | creating | findingRaced | done => trivial

theorem TestRelies.step (h : TestRelies s events l)
    (heffect : TestEffect w s l s' l') : TestRelies s' (events ++ testNotes l) l' := by
  cases heffect with
  | reads _ hl' => exact testRelies_of_operation?_eq_none hl'
  | records request server => exact ⟨_, get?_insert_self _ _, rfl, rfl⟩
  | confirms operationId hlatest hcolumns =>
    refine ⟨h, fun op current _ hcurrent _ => ?_⟩
    obtain rfl := Option.mem_unique hlatest hcurrent
    exact (settings_of_columns hcolumns).symm
  | givesUp request server operationId => exact ⟨⟨_, h⟩, fun _ hresult => nomatch hresult⟩
  | calls request server operationId =>
    exact ⟨⟨_, h.1⟩, fun _ _ => ⟨_, List.mem_append_right _ (List.mem_singleton_self _)⟩⟩
  | completes => trivial

theorem TestEffect.operation_of_other (heffect : TestEffect w s l s' l')
    (hu : TestRelies s events u) (hapart : ∀ id, l.operation? = some id → u.operation? ≠ some id)
    (hid : u.operation? = some id) :
    s'.operations.get? id = s.operations.get? id := by
  cases heffect with
  | reads | confirms | givesUp | calls => rfl
  | records request server =>
    obtain ⟨op, hop⟩ := exists_get?_of_lt_size (hu.lt_size hid)
    exact (get?_insert_of_some hop).trans hop.symm
  | completes operationId outcome =>
    refine get?_update_of_ne fun heq => hapart operationId rfl ?_
    rw [heq]
    exact hid

theorem TestEffect.operation?_eq (heffect : TestEffect w s l s' l')
    (hid : l'.operation? = some id) : l.operation? = some id ∨ id = s.operations.size := by
  cases heffect with
  | reads _ hl' =>
    rw [hl'] at hid
    cases hid
  | records =>
    cases hid
    exact .inr rfl
  | confirms | givesUp | calls => exact .inl hid
  | completes => cases hid

theorem ActiveTested.tests (h : ActiveTested serverId s events)
    (hrelies : TestRelies s events l) (heffect : TestEffect w s l s' l') :
    ActiveTested serverId s' (events ++ testNotes l) := by
  intro server hserver hactive
  rw [heffect.servers] at hserver
  refine (h server hserver hactive).mono (fun id op hop hsucceeded => ?_)
    (fun event hmem => List.mem_append_left _ hmem) fun time hmem => ?_
  · cases heffect with
    | reads | confirms | givesUp | calls => exact hop
    | records => exact get?_insert_of_some hop
    | completes operationId outcome =>
      obtain ⟨⟨_, running, hrunning, -, hstatus⟩, -⟩ := hrelies
      rw [← hop]
      refine get?_update_of_ne fun heq => ?_
      subst heq
      obtain rfl := Option.mem_unique hrunning hop
      rw [hstatus] at hsucceeded
      cases hsucceeded
  · rcases List.mem_append.1 hmem with hold | hnew
    · exact hold
    · exact absurd hnew not_changed_mem_testNotes

/-! ## All operations -/

def recordedTest? : (op : ServerOperation) → (serverOperations op).Local → Option RowId
  | .updateServer, _ => none
  | .configureCpanelServer, _ => none
  | .executeConnectionTest, l => TestState.operation? l

def ReliesOnTest (s : ServerStore) (events : List ServerEvent) :
    (op : ServerOperation) → (serverOperations op).Local → Prop
  | .updateServer, _ => True
  | .configureCpanelServer, _ => True
  | .executeConnectionTest, l => TestRelies s events l

theorem changeStep_eq_some {ι : Type} {refusal : Failure}
    {tx : ServerWorld → RowId → ι → ServerStore → Except Failure ServerStore}
    {l l' : ChangeState ι} (h : changeStep refusal tx w s l = some (s', l')) :
    ∃ actorRole changedId input, l = .writing actorRole changedId input ∧
      (s' = s ∨ tx w changedId input s = .ok s') := by
  cases l with
  | writing actorRole changedId input =>
    refine ⟨actorRole, changedId, input, rfl, ?_⟩
    rw [changeStep] at h
    split at h
    · rename_i s₁ htx
      cases h
      simp only [bind_eq_ok, require_eq_ok] at htx
      obtain ⟨_, -, htx⟩ := htx
      exact .inr htx
    · cases h
      exact .inl rfl
  | done result => cases h

inductive ServerEffect (w : ServerWorld) (s : ServerStore) (s' : ServerStore) :
    (op : ServerOperation) → (serverOperations op).Local → (serverOperations op).Local →
    List ServerEvent → Prop
  | changes {op : ServerOperation} {l l' : (serverOperations op).Local} {changedId : RowId}
      {current server : Server} (hop : op ≠ .executeConnectionTest)
      (hchange : Rewrites s w changedId s' current server) :
      ServerEffect w s s' op l l' (changeEvents s s' changedId)
  | refuses {op : ServerOperation} {l l' : (serverOperations op).Local}
      (hop : op ≠ .executeConnectionTest) (hsame : s' = s) : ServerEffect w s s' op l l' []
  | tests {l l' : TestState} (heffect : TestEffect w s l s' l') :
      ServerEffect w s s' .executeConnectionTest l l' (testNotes l)

theorem changeEvents_self (s : ServerStore) (changedId : RowId) : changeEvents s s changedId =
    [] := by
  rw [changeEvents]
  split
  · rename_i server server' hserver hserver'
    rw [hserver] at hserver'
    cases hserver'
    exact if_pos rfl
  · rfl

theorem serverEffect_of_step {l l' : (serverOperations op).Local}
    (h : (serverOperations op).step w s l = some (s', l')) :
    ServerEffect w s s' op l l' (serverEvents op w s l) := by
  cases op with
  | updateServer | configureCpanelServer =>
    have hnotes : serverEvents _ w s l = changeNotes s (some (s', l')) l :=
      congrArg (changeNotes s · l) h
    obtain ⟨_, changedId, input, rfl, hwritten⟩ := changeStep_eq_some h
    rw [hnotes]
    show ServerEffect w s s' _ _ _ (changeEvents s s' changedId)
    rcases hwritten with rfl | htx
    · rw [changeEvents_self]
      exact .refuses nofun rfl
    · obtain ⟨_, _, hchange⟩ : ∃ current server, Rewrites s w changedId s' current server := by
        first | exact rewrites_of_update htx | exact rewrites_of_configure htx
      exact .changes nofun hchange
  | executeConnectionTest => exact .tests (testEffect_of_step h)

theorem reliesOnTest_of_ne (hop : op ≠ .executeConnectionTest)
    (l : (serverOperations op).Local) : ReliesOnTest s events op l := by
  cases op with
  | updateServer | configureCpanelServer => trivial
  | executeConnectionTest => exact absurd rfl hop

theorem recordedTest?_of_ne (hop : op ≠ .executeConnectionTest)
    (l : (serverOperations op).Local) : recordedTest? op l = none := by
  cases op with
  | updateServer | configureCpanelServer => rfl
  | executeConnectionTest => exact absurd rfl hop

theorem ServerEffect.preserves {l l' : (serverOperations op).Local}
    (heffect : ServerEffect w s s' op l l' notes)
    (h : ConnectionHistory serverId s events ∧ ActiveTested serverId s events)
    (hrelies : ReliesOnTest s events op l) :
    (ConnectionHistory serverId s' (events ++ notes) ∧ ActiveTested serverId s' (events ++ notes)) ∧
      ReliesOnTest s' (events ++ notes) op l' := by
  cases heffect with
  | changes hop hchange =>
    exact ⟨⟨h.1.rewrites hchange, h.2.rewrites h.1 hchange⟩, reliesOnTest_of_ne hop _⟩
  | refuses hop hsame =>
    subst hsame
    rw [List.append_nil]
    exact ⟨h, reliesOnTest_of_ne hop _⟩
  | tests htest => exact ⟨⟨h.1.tests hrelies htest, h.2.tests hrelies htest⟩, hrelies.step htest⟩

theorem ServerEffect.keeps {uop : ServerOperation} {l l' : (serverOperations op).Local}
    {u : (serverOperations uop).Local} (heffect : ServerEffect w s s' op l l' notes)
    (h : ConnectionHistory serverId s events) (hu : ReliesOnTest s events uop u)
    (hapart : ∀ id, recordedTest? op l = some id → recordedTest? uop u ≠ some id) :
    ReliesOnTest s' (events ++ notes) uop u ∧
      ∀ id, recordedTest? op l' = some id → recordedTest? uop u ≠ some id := by
  by_cases huop : uop = .executeConnectionTest
  · subst huop
    have hevents : ∀ event ∈ events, event ∈ events ++ notes :=
      fun event hmem => List.mem_append_left _ hmem
    cases heffect with
    | changes hop hchange =>
      refine ⟨TestRelies.congr hu h.operations (fun id _ => by rw [hchange.store])
        (fun testedId => hchange.newOrSame) hevents, fun id hid => ?_⟩
      rw [recordedTest?_of_ne hop] at hid
      cases hid
    | refuses hop hsame =>
      subst hsame
      refine ⟨TestRelies.congr hu h.operations (fun id _ => rfl) (fun _ _ hrow => .inl hrow) hevents,
        fun id hid => ?_⟩
      rw [recordedTest?_of_ne hop] at hid
      cases hid
    | tests htest =>
      refine ⟨TestRelies.congr hu h.operations
        (fun id hid => htest.operation_of_other hu hapart hid) (fun testedId row hrow => ?_) hevents,
        fun id hid huid => ?_⟩
      · rw [htest.servers] at hrow
        exact .inl hrow
      · rcases htest.operation?_eq hid with hold | rfl
        · exact hapart id hold huid
        · exact absurd (TestRelies.lt_size hu huid) (Nat.lt_irrefl _)
  · refine ⟨reliesOnTest_of_ne huop u, fun id _ huid => ?_⟩
    rw [recordedTest?_of_ne huop] at huid
    cases huid

def serverOutline (serverId : RowId) : Outline tracedServers where
  shared s := ConnectionHistory serverId s.1 s.2 ∧ ActiveTested serverId s.1 s.2
  thread s t := ReliesOnTest s.1 s.2 t.op t.loc
  apart t u := ∀ id, recordedTest? t.op t.loc = some id → recordedTest? u.op u.loc ≠ some id

theorem serverOutline_sound : (serverOutline serverId).Sound anyStep where
  symm t u h id hu ht := h id ht hu
  call s op request _ := by
    cases op with
    | updateServer | configureCpanelServer | executeConnectionTest => trivial
  call_apart op request u id hid := by
    cases op with
    | updateServer | configureCpanelServer | executeConnectionTest => cases hid
  own w s t s' t' _ hs ht hmove := by
    obtain ⟨l, hstep, htrace, rfl⟩ := Thread.traced_step hmove
    rw [serverOutline]
    dsimp only
    rw [htrace]
    exact (serverEffect_of_step hstep).preserves hs ht
  other w s t s' t' u _ hs ht hu hapart hmove := by
    obtain ⟨l, hstep, htrace, rfl⟩ := Thread.traced_step hmove
    rw [serverOutline]
    dsimp only
    rw [htrace]
    exact (serverEffect_of_step hstep).keeps hs.1 hu hapart

/-- **Only a tested connection is active.**  From a server that is not in use, every interleaving of
updates, configurations and tests leads to a state in which the server, if it is in use, has a test
that succeeded, was started after the last change of the connection and called the panel with the
host, the port, the user and the token that the server has. -/
theorem active_connection_tested {c : Config tracedServers}
    (hhistory : ConnectionHistory serverId s events)
    (hinactive : ∀ server, s.servers.get? serverId = some server → server.status ≠ .active)
    (hr : Reaches anyStep ⟨(s, events), []⟩ c) :
    ActiveTested serverId c.shared.1 c.shared.2 :=
  have hinit : (serverOutline serverId).shared (s, events) :=
    ⟨hhistory, fun server hserver hactive => absurd hactive (hinactive server hserver)⟩
  (serverOutline_sound.holds (Outline.holds_idle (P := serverOutline serverId) hinit) hr).shared.2

end

/-! ### A server that is tested and then activated -/

def newServer : Server where
  name := "Web 1"
  hostname := "web1.example.test"
  status := .disabled
  adapterKey := .cpanelWhm
  apiUsername := some "root"
  credentialsCiphertext := some ⟨0, "first-token"⟩
  updatedAt := 0

def newServerStore : ServerStore where
  servers := ⟨[newServer]⟩

theorem newServer_history : ConnectionHistory 0 newServerStore [] := by
  refine connectionHistory_untested (fun server hserver => ?_)
    (fun id op hop => absurd hop get?_empty_ne)
    fun id op server hop => absurd hop get?_empty_ne
  obtain rfl := Option.some.inj hserver
  exact Nat.le_refl _

def testServer : List (Move tracedServers) :=
  [.call .executeConnectionTest { actorRole := .admin, serverId := 0, submissionKey := "test-1" },
    .advance 0 {}, .advance 0 {}, .advance 0 {}, .advance 0 {},
    .advance 0 { panelResult := .ok ⟨"11.126", []⟩ }, .advance 0 {}]

def testThenActivate : List (Move tracedServers) :=
  testServer ++ [.call .updateServer (.admin, 0, { status := some .active }), .advance 1 {}]

def activatedConfig : Config tracedServers :=
  Config.after ⟨(newServerStore, []), []⟩ testThenActivate (by decide +kernel)

theorem activated_server_tested :
    (activatedConfig.shared.1.servers.get? 0).map (·.status) = some .active ∧
    ActiveTested 0 activatedConfig.shared.1 activatedConfig.shared.2 :=
  ⟨by decide +kernel,
    active_connection_tested newServer_history
      (fun server hserver => by
        obtain rfl := Option.some.inj hserver
        decide)
      (reaches_anyStep_of_run (run_eq_after
        (show (Config.run ⟨(newServerStore, []), []⟩ testThenActivate).isSome = true
          by decide +kernel)))⟩

end Servers

end WebhostBilling
