import WebhostBilling.Registrar.ManagedDomains

/-!
# What the steps on managed domains do

`domains_of_step` says that a step writes the domains by what it records and in no other way,
`succeeded_of_step` that an action succeeds only by what a step records, and `kept_of_step` what a
step leaves its thread with.
-/

namespace WebhostBilling

open Store Store.Table Concurrency RegistrarProcessor DomainService DomainLifecycleService

variable {settings : RegistrarSettings} {w : World}

/-! ## What a call holds -/

/-- The domain whose answer a call holds, and has not yet recorded. -/
def heldDomain : (kind : ManagementKind) → ManagementLocal settings kind → Option RowId
  | .refresh, RefreshState.writing input _ => some input.domainId
  | .execute, ExecuteState.confirming run _ => some run.input.domainId
  | .execute, ExecuteState.finishing run _ _ => some run.input.domainId
  | _, _ => none

def locatedRequest : (kind : ManagementKind) → ManagementLocal settings kind → Option ExecuteRequest
  | .execute, ExecuteState.opening input _ => some input
  | .execute, ExecuteState.claiming run => some run.input
  | .execute, ExecuteState.reading run _ => some run.input
  | .execute, ExecuteState.claimingContact run => some run.input
  | .execute, ExecuteState.addingContact run => some run.input
  | .execute, ExecuteState.verifyingContact run _ => some run.input
  | .execute, ExecuteState.storingContact run _ => some run.input
  | .execute, ExecuteState.pricing run => some run.input
  | .execute, ExecuteState.claimingSubmission run => some run.input
  | .execute, ExecuteState.submitting run => some run.input
  | .execute, ExecuteState.checkingUnsent run => some run.input
  | .execute, ExecuteState.failing run => some run.input
  | .execute, ExecuteState.observing run => some run.input
  | .execute, ExecuteState.confirming run _ => some run.input
  | .execute, ExecuteState.finishing run _ _ => some run.input
  | _, _ => none

def OfDomain (db : Database) (input : ExecuteRequest) : Prop :=
  ∃ action, db.domainActions.get? input.actionId = some action ∧ action.domainId = input.domainId

theorem OfDomain.mono {db db' : Database} {input : ExecuteRequest} (h : OfDomain db input)
    (hgrow : db.domainActions.Grows DomainAction.Moves db'.domainActions) : OfDomain db' input := by
  obtain ⟨action, haction, hdomain⟩ := h
  obtain ⟨action', haction', hmoves⟩ := hgrow _ action haction
  exact ⟨action', haction', hmoves.intent.domainId.trans hdomain⟩

theorem ofDomain_of_locateAction {db : Database} {input : ExecuteRequest} {located : DomainAction}
    (h : locateAction db input.domainId input.actionId = some located) : OfDomain db input := by
  rw [locateAction, Option.filter_eq_some_iff] at h
  exact ⟨located, h.1, of_decide_eq_true h.2⟩

section

variable {db db' : Database}

/-! ## What a step records -/

variable {observed : ResellbizManagedState} {entry : RowId × ResellbizManagedState}
  {kind : ManagementKind} {id : RowId} {l' l : ExecuteState} {action' : DomainAction}

theorem refreshRecords_eq_some {input : RefreshRequest}
    (h : refreshRecords input observed db = some entry) :
    entry = (input.domainId, observed) := by
  unfold refreshRecords at h
  split at h
  · exact (Option.some.inj h).symm
  · cases h

theorem executeRecords_eq_some {run : ExecuteRun} {confirmed : Bool}
    (h : executeRecords run observed confirmed db = some entry) :
    entry = (run.input.domainId, observed) := by
  unfold executeRecords at h
  split at h
  · split at h
    · cases h
    · exact (Option.some.inj h).symm
  · cases h

theorem held_of_recorded {l : ManagementLocal settings kind}
    (h : recordedState db kind l = some (id, observed)) :
    heldDomain kind l = some id ∧ askedDomain kind l = none ∧ sentAction kind l = none := by
  cases kind with
  | refresh =>
    cases l with
    | writing input observed' =>
      obtain ⟨rfl, -⟩ := Prod.mk.inj (refreshRecords_eq_some h)
      exact ⟨rfl, rfl, rfl⟩
    | _ => cases h
  | execute =>
    cases l with
    | finishing run observed' confirmed =>
      obtain ⟨rfl, -⟩ := Prod.mk.inj (executeRecords_eq_some h)
      exact ⟨rfl, rfl, rfl⟩
    | _ => cases h
  | createAction | recoverContact | cancelUnsent | otherServices => cases h

theorem located_of_confirmed {l : ManagementLocal settings kind} {actionId : RowId}
    (h : recordedState db kind l = some (id, observed))
    (hconfirmed : confirmedAction kind l = some actionId) :
    ∃ input, locatedRequest kind l = some input ∧ input.actionId = actionId ∧ input.domainId = id := by
  cases kind with
  | execute =>
    cases l with
    | finishing run observed' confirmed =>
      obtain ⟨rfl, -⟩ := Prod.mk.inj (executeRecords_eq_some h)
      cases confirmed with
      | true => exact ⟨run.input, rfl, Option.some.inj hconfirmed, rfl⟩
      | false => cases hconfirmed
    | _ => cases h
  | refresh | createAction | recoverContact | cancelUnsent | otherServices => cases hconfirmed

def recordedDomains (domains : Table Domain) : Option (RowId × ResellbizManagedState) → Table Domain
  | some (id, observed) => domains.update id (observedDomain observed)
  | none => domains

/-- A step that records finds the domain. -/
def FoundDomain (db : Database) (entry : Option (RowId × ResellbizManagedState)) : Prop :=
  ∀ id observed, entry = some (id, observed) → ∃ domain, db.domains.get? id = some domain

/-- **The end of an execution** records what the execution holds, or changes nothing. -/
theorem executeRecords_effect (run : ExecuteRun) (observed : ResellbizManagedState)
    (confirmed : Bool) (db : Database) :
    FoundDomain db (executeRecords run observed confirmed db) ∧
      (atomically (finishTransaction run observed confirmed) db).1.domains =
        recordedDomains db.domains (executeRecords run observed confirmed db) ∧
      (executeRecords run observed confirmed db = none →
        (atomically (finishTransaction run observed confirmed) db).1 = db) := by
  cases hok : finishTransaction run observed confirmed db with
  | error e =>
    have hnone : executeRecords run observed confirmed db = none := by rw [executeRecords, hok]
    have hsame : (atomically (finishTransaction run observed confirmed) db).1 = db := by
      rw [atomically, hok]
    rw [hnone, hsame]
    exact ⟨by rintro _ _ ⟨⟩, rfl, fun _ => rfl⟩
  | ok out =>
    obtain ⟨db', u⟩ := out
    have hout : (atomically (finishTransaction run observed confirmed) db).1 = db' := by
      rw [atomically, hok]
    rw [hout]
    have hopen := hok
    simp only [finishTransaction, eq_ok] at hopen
    obtain ⟨latest, hlatest, hopen⟩ := hopen
    by_cases hsucceeded : latest.state = .succeeded
    · rw [if_pos hsucceeded, pure_eq_ok] at hopen
      obtain ⟨rfl, -⟩ := Prod.mk.inj hopen
      have hnone : executeRecords run observed confirmed db = none := by
        simp only [executeRecords, hok]
        rw [hlatest, Option.any_some, if_pos (decide_eq_true hsucceeded)]
      rw [hnone]
      exact ⟨by rintro _ _ ⟨⟩, rfl, fun _ => rfl⟩
    · have hsome : executeRecords run observed confirmed db = some (run.input.domainId, observed) := by
        simp only [executeRecords, hok]
        rw [hlatest, Option.any_some, if_neg (by simpa using hsucceeded)]
      rw [hsome]
      simp only [if_neg hsucceeded, bind_eq_ok] at hopen
      obtain ⟨db₁, hwrite, hopen⟩ := hopen
      obtain ⟨domain, hdomain, -, -, -, rfl⟩ := db.updateDomain_eq_ok hwrite
      refine ⟨fun id o heq => ?_, ?_, by rintro ⟨⟩⟩
      · cases heq
        exact ⟨domain, hdomain⟩
      · cases confirmed with
        | false =>
          rw [if_neg Bool.false_ne_true, pure_eq_ok] at hopen
          rw [← (Prod.mk.inj hopen).1]
          rfl
        | true =>
          simp only [if_true, eq_ok] at hopen
          obtain ⟨db₂, haction, hopen⟩ := hopen
          obtain ⟨-, -, -, -, rfl⟩ := Database.updateDomainAction_eq_ok _ haction
          rw [← hopen.1]
          rfl

/-- Only a step that holds an answer writes a domain. -/
theorem domains_of_writes {kind : RegistrarKind} {l : (registrarOperations settings kind).Local}
    (h : RegistrarWrites settings w db kind l db') (hheld : heldAnswer settings kind l = none)
    (hkind : kind ≠ .createDomain ∧ kind ≠ .approve ∧ kind ≠ .process) :
    db'.domains = db.domains := by
  cases h with
  | quiet hdomains _ htables =>
    rw [htables.domains]
    rcases hdomains with hsame | ⟨entry, hentry, -⟩
    · exact hsame
    · rw [hheld] at hentry
      cases hentry
  | domainCreated => exact absurd rfl hkind.1
  | approved => exact absurd rfl hkind.2.1
  | returned | polled | claimed | recorded => exact absurd rfl hkind.2.2
  | actionCreated _ _ _ _ htables | actionClaimed _ _ _ _ _ _ _ _ htables
  | contactStored _ _ _ htables | contactRecovered _ _ _ htables => exact htables.domains
  | succeeded => cases hheld

theorem refreshRecords_effect (input : RefreshRequest) (observed : ResellbizManagedState)
    {l' : RefreshState} (h : refreshStep settings w db (.writing input observed) = some (db', l')) :
    FoundDomain db (refreshRecords input observed db) ∧
      db'.domains = recordedDomains db.domains (refreshRecords input observed db) := by
  cases h
  rw [refreshRecords]
  cases hwrite : db.updateDomain input.domainId (observedDomain observed) with
  | error e =>
    simp only [atomically, hwrite]
    exact ⟨by rintro _ _ ⟨⟩, rfl⟩
  | ok db₁ =>
    obtain ⟨domain, hdomain, -, -, -, rfl⟩ := db.updateDomain_eq_ok hwrite
    simp only [atomically, hwrite]
    refine ⟨fun id o heq => ?_, rfl⟩
    cases heq
    exact ⟨domain, hdomain⟩

theorem domains_of_step (kind : ManagementKind) {l l' : ManagementLocal settings kind}
    (h : (registrarOperations settings kind.registrar).step w db l = some (db', l')) :
    FoundDomain db (recordedState db kind l) ∧
      db'.domains = recordedDomains db.domains (recordedState db kind l) := by
  have hquiet (hheld : heldAnswer settings kind.registrar l = none)
      (hrecorded : recordedState db kind l = none) : FoundDomain db (recordedState db kind l) ∧
        db'.domains = recordedDomains db.domains (recordedState db kind l) := by
    rw [hrecorded]
    refine ⟨by rintro _ _ ⟨⟩, domains_of_writes (registrarWrites_of_step _ h) hheld ?_⟩
    cases kind <;> exact ⟨nofun, nofun, nofun⟩
  cases kind with
  | refresh =>
    cases l with
    | writing input observed => exact @refreshRecords_effect settings w db db' input observed l' h
    | _ => exact hquiet rfl rfl
  | execute =>
    cases l with
    | finishing run observed confirmed =>
      cases h
      have heffect := executeRecords_effect run observed confirmed db
      exact ⟨heffect.1, heffect.2.1⟩
    | _ => exact hquiet rfl rfl
  | createAction | recoverContact | cancelUnsent | otherServices => exact hquiet rfl rfl

/-! ## Which step makes an action succeed -/

def confirming : (kind : RegistrarKind) → (registrarOperations settings kind).Local → Option RowId
  | .execute, ExecuteState.finishing run _ true => some run.input.actionId
  | _, _ => none

theorem succeeded_of_writes {kind : RegistrarKind} {l : (registrarOperations settings kind).Local}
    (h : RegistrarWrites settings w db kind l db')
    (haction' : db'.domainActions.get? id = some action')
    (hsucceeded : action'.state = .succeeded) :
    (∃ action, db.domainActions.get? id = some action ∧ action.state = .succeeded) ∨
      confirming kind l = some id := by
  -- A write of one row that does not make it succeed.
  have hupdate {id' : RowId} {f : DomainAction → DomainAction}
      (hactions : db'.domainActions = db.domainActions.update id' f)
      (hf : ∀ action, db.domainActions.get? id' = some action → (f action).state = .succeeded →
        action.state = .succeeded) :
      ∃ action, db.domainActions.get? id = some action ∧ action.state = .succeeded := by
    rw [hactions] at haction'
    rcases get?_update_cases haction' with ⟨rfl, row, hrow, rfl⟩ | ⟨-, hrow⟩
    · exact ⟨row, hrow, hf row hrow hsucceeded⟩
    · exact ⟨action', hrow, hsucceeded⟩
  cases h with
  | domainCreated _ htables | returned _ _ htables | polled _ _ htables
  | claimed _ _ _ _ _ _ _ htables | recorded _ _ _ htables =>
    rw [htables.actions] at haction'
    exact .inl ⟨action', haction', hsucceeded⟩
  | approved _ happroved =>
    rw [happroved.actions] at haction'
    exact .inl ⟨action', haction', hsucceeded⟩
  | quiet _ hactions htables =>
    rcases hactions with hsame | ⟨id', action, f, haction, hmove, hupdated⟩
    · rw [htables.actions, hsame] at haction'
      exact .inl ⟨action', haction', hsucceeded⟩
    · refine .inl (hupdate (htables.actions.trans hupdated) fun row hrow hstate => ?_)
      obtain rfl := Option.mem_unique haction hrow
      exact hmove.succeeded hstate
  | actionCreated hrequested _ _ _ htables =>
    rw [htables.actions] at haction'
    rcases get?_insert_cases haction' with ⟨-, rfl⟩ | hrow
    · rw [hrequested] at hsucceeded
      cases hsucceeded
    · exact .inl ⟨action', hrow, hsucceeded⟩
  | actionClaimed _ _ _ _ _ _ _ _ htables =>
    exact .inl (hupdate htables.actions fun _ _ hstate => nomatch hstate)
  | contactStored _ _ _ htables | contactRecovered _ _ _ htables =>
    exact .inl (hupdate htables.actions fun _ _ hstate => hstate)
  | succeeded _ _ _ htables =>
    rw [htables.actions] at haction'
    rcases get?_update_cases haction' with ⟨rfl, -⟩ | ⟨-, hrow⟩
    · exact .inr rfl
    · exact .inl ⟨action', hrow, hsucceeded⟩

theorem succeeded_of_step (kind : ManagementKind) {l l' : ManagementLocal settings kind}
    (h : (registrarOperations settings kind.registrar).step w db l = some (db', l'))
    (haction' : db'.domainActions.get? id = some action')
    (hsucceeded : action'.state = .succeeded) :
    (∃ action, db.domainActions.get? id = some action ∧ action.state = .succeeded) ∨
      confirmedAction kind l = some id ∧ ∃ entry, recordedState db kind l = some entry := by
  rcases succeeded_of_writes (registrarWrites_of_step kind.registrar h) haction' hsucceeded with
    hbefore | hconfirming
  · exact .inl hbefore
  cases kind with
  | execute =>
    cases l with
    | finishing run observed confirmed =>
      cases confirmed with
      | true =>
        cases hrecorded : executeRecords run observed true db with
        | none =>
          -- Nothing was written, so the action had succeeded before.
          cases h
          rw [(executeRecords_effect run observed true db).2.2 hrecorded] at haction'
          exact .inl ⟨action', haction', hsucceeded⟩
        | some entry => exact .inr ⟨hconfirming, entry, hrecorded⟩
      | false => cases hconfirming
    | _ => cases hconfirming
  | refresh | createAction | recoverContact | cancelUnsent | otherServices => cases hconfirming

/-! ## What a step leaves its thread with -/

theorem readDomain_of_ok (h : w.registrarManagement = .ok observed) (kind : ManagementKind)
    (l : ManagementLocal settings kind) : readDomain w kind l = askedDomain kind l := by
  unfold readDomain
  rw [h]

theorem readDomain_of_asked {l : ManagementLocal settings kind} (h : askedDomain kind l = none)
    (w : World) : readDomain w kind l = none := by
  unfold readDomain
  split
  · exact h
  · rfl

/-- What a step leaves a thread with: the request it had or one that it has just located, and the
answer it had or the one it has just read. -/
structure Kept (w : World) (db : Database) {kind : ManagementKind}
    (l l' : ManagementLocal settings kind) : Prop where
  located : ∀ input, locatedRequest kind l' = some input →
    locatedRequest kind l = some input ∨ OfDomain db input
  held : ∀ id, heldDomain kind l' = some id →
    readDomain w kind l = some id ∨ heldDomain kind l = some id ∧ readDomain w kind l = none

theorem Kept.of_located {l l' : ManagementLocal settings kind}
    (hlocated : ∀ input, locatedRequest kind l' = some input → locatedRequest kind l = some input)
    (hheld : heldDomain kind l' = none) : Kept w db l l' where
  located input h := Or.inl (hlocated input h)
  held _ h := nomatch hheld.symm.trans h

theorem kept_of_refresh {l l' : RefreshState} (h : refreshStep settings w db l = some (db', l')) :
    @Kept settings w db .refresh l l' := by
  cases l with
  | opening input =>
    simp only [refreshStep] at h
    split at h <;> (cases h; exact .of_located (by rintro _ ⟨⟩) rfl)
  | reading input =>
    simp only [refreshStep] at h
    split at h
    · rename_i observed hread
      cases h
      exact ⟨by rintro _ ⟨⟩, fun id hid => .inl ((readDomain_of_ok hread .refresh _).trans hid)⟩
    · cases h; exact .of_located (by rintro _ ⟨⟩) rfl
  | writing input observed => cases h; exact .of_located (by rintro _ ⟨⟩) rfl
  | done result => cases h

theorem kept_of_execute (h : executeStep settings w db l = some (db', l')) :
    @Kept settings w db .execute l l' := by
  cases l with
  | locate input =>
    simp only [executeStep] at h
    split at h
    · cases h; exact .of_located (by rintro _ ⟨⟩) rfl
    · split at h
      · rename_i located hlocated
        cases h
        refine ⟨fun request hrequest => .inr ?_, by rintro _ ⟨⟩⟩
        obtain rfl := Option.some.inj hrequest
        exact ofDomain_of_locateAction hlocated
      · cases h; exact .of_located (by rintro _ ⟨⟩) rfl
  | opening input located =>
    simp only [executeStep] at h
    split at h
    · rename_i run hrun
      cases h
      simp only [openRun, eq_ok] at hrun
      obtain ⟨context, -, -, -, rfl⟩ := hrun
      exact .of_located (fun _ h => h) rfl
    · cases h; exact .of_located (by rintro _ ⟨⟩) rfl
  | claiming run =>
    simp only [executeStep] at h
    split at h
    · cases h; exact .of_located (fun _ h => h) rfl
    · cases h; exact .of_located (by rintro _ ⟨⟩) rfl
    · cases h; exact .of_located (by rintro _ ⟨⟩) rfl
  | reading run dispatching =>
    simp only [executeStep] at h
    split at h
    · cases h
      unfold dispatch
      split
      · exact .of_located (fun _ h => h) rfl
      · exact .of_located (fun _ h => h) rfl
      · exact .of_located (fun _ h => h) rfl
      · split <;> exact .of_located (fun _ h => h) rfl
    · cases h; exact .of_located (fun _ h => h) rfl
    · cases h; exact .of_located (fun _ h => h) rfl
  | claimingContact run | storingContact run _ | claimingSubmission run =>
    rw [executeStep, Option.some.injEq] at h
    rcases attempt_cases h with ⟨-, rfl | rfl⟩ | ⟨-, rfl⟩ <;> exact .of_located (fun _ h => h) rfl
  | addingContact _ | verifyingContact _ _ | submitting _ =>
    simp only [executeStep] at h
    split at h <;> (cases h; exact .of_located (fun _ h => h) rfl)
  | pricing run =>
    simp only [executeStep] at h
    split at h
    · split at h <;> (cases h; exact .of_located (fun _ h => h) rfl)
    · cases h; exact .of_located (fun _ h => h) rfl
  | checkingUnsent run =>
    simp only [executeStep] at h
    split at h
    · cases h; exact .of_located (by rintro _ ⟨⟩) rfl
    · split at h <;> (cases h; exact .of_located (fun _ h => h) rfl)
  | failing run => cases h; exact .of_located (by rintro _ ⟨⟩) rfl
  | observing run =>
    simp only [executeStep] at h
    split at h
    · rename_i observed hread
      cases h
      exact ⟨fun _ h => .inl h,
        fun id hid => .inl ((readDomain_of_ok hread .execute _).trans hid)⟩
    · cases h; exact .of_located (by rintro _ ⟨⟩) rfl
  | confirming run observed =>
    simp only [executeStep] at h
    split at h
    · cases h; exact .of_located (by rintro _ ⟨⟩) rfl
    · cases h
      exact ⟨fun _ h => .inl h, fun id hid => .inr ⟨hid, readDomain_of_asked rfl w⟩⟩
  | finishing run observed confirmed => cases h; exact .of_located (by rintro _ ⟨⟩) rfl
  | done result => cases h

theorem kept_of_step (kind : ManagementKind) {l l' : ManagementLocal settings kind}
    (h : (registrarOperations settings kind.registrar).step w db l = some (db', l')) :
    Kept w db l l' := by
  cases kind with
  | refresh => exact kept_of_refresh h
  | execute => exact kept_of_execute h
  | createAction | recoverContact | cancelUnsent | otherServices => exact .of_located nofun rfl

end

end WebhostBilling
