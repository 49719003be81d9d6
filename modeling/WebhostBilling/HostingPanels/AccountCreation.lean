import WebhostBilling.HostingPanels.Exclusion

/-!
# The attempts to create an account

The operations that create the account of a service form one chain (`SafeChain`): each continues the
one before, and only the last one can have an outcome other than a failure that is safe to retry.
No check of the code says so by itself; those of `assertAccountCreationAttempt` together do
(`safeNext_of_checkOperation`).
-/

namespace WebhostBilling

open Store Store.Table Concurrency Config HostingPanelService HostingAutomationService

/-! ## Chains -/

/-- The account creations of a service, in their order. -/
def accountCreations (db : Database) (serviceId : RowId) : List (RowId × HostingPanelOperation) :=
  db.operations.select fun _ op => op.serviceId = some serviceId ∧ op.type = .createAccount

/-- A failure that is safe to retry. -/
def SafelyFailed (op : HostingPanelOperation) : Prop :=
  op.status = .failed ∧ op.retryable = true

/-- Attempts that retry each other, each after the panel refused the last. -/
structure SafeChain (chain : List (RowId × HostingPanelOperation)) : Prop where
  numbered : ∀ (k : ℕ) entry, chain[k]? = some entry → entry.2.attemptNumber = k + 1
  first : ∀ entry, chain[0]? = some entry → entry.2.retryOfOperationId = none
  linked : ∀ (k : ℕ) entry next, chain[k]? = some entry → chain[k + 1]? = some next →
    next.2.retryOfOperationId = some entry.1
  failed : ∀ (k : ℕ) entry, chain[k]? = some entry → k + 1 < chain.length → SafelyFailed entry.2
  bounded : chain.length ≤ maxManualAttempts

structure SafeNext (chain : List (RowId × HostingPanelOperation)) (row : HostingPanelOperation) :
    Prop where
  attemptNumber : row.attemptNumber = chain.length + 1
  retryOf : row.retryOfOperationId = chain.getLast?.map Prod.fst
  failed : ∀ entry ∈ chain.getLast?, SafelyFailed entry.2
  bounded : chain.length < maxManualAttempts

theorem safeChain_nil : SafeChain [] := by
  constructor <;> simp

variable {db db' : Database} {op row : HostingPanelOperation}
  {f : HostingPanelOperation → HostingPanelOperation} {chain : List (RowId × HostingPanelOperation)}
  {id : RowId}

theorem SafeChain.append (h : SafeChain chain) (hnext : SafeNext chain row) :
    SafeChain (chain ++ [(id, row)]) := by
  have hcases : ∀ (k : ℕ) entry, (chain ++ [(id, row)])[k]? = some entry →
      (k < chain.length ∧ chain[k]? = some entry) ∨ (k = chain.length ∧ entry = (id, row)) := by
    intro k entry hk
    rw [List.getElem?_append] at hk
    split at hk
    · rename_i hlt
      exact .inl ⟨hlt, hk⟩
    · rename_i hge
      rw [List.getElem?_singleton] at hk
      split at hk
      · exact .inr ⟨by omega, (Option.some.inj hk).symm⟩
      · exact nomatch hk
  refine ⟨?_, ?_, ?_, ?_, ?_⟩
  · intro k entry hk
    rcases hcases k entry hk with ⟨-, hk⟩ | ⟨rfl, rfl⟩
    · exact h.numbered k entry hk
    · exact hnext.attemptNumber
  · intro entry hk
    rcases hcases 0 entry hk with ⟨-, hk⟩ | ⟨hlength, rfl⟩
    · exact h.first entry hk
    · rw [List.length_eq_zero_iff.1 hlength.symm] at hnext
      exact hnext.retryOf
  · intro k entry next hk hk'
    rcases hcases (k + 1) next hk' with ⟨hlt, hk'⟩ | ⟨hlength, rfl⟩
    · rcases hcases k entry hk with ⟨-, hk⟩ | ⟨rfl, -⟩
      · exact h.linked k entry next hk hk'
      · omega
    · rcases hcases k entry hk with ⟨-, hk⟩ | ⟨rfl, -⟩
      · rw [hnext.retryOf, List.getLast?_eq_getElem?, ← hlength, Nat.add_sub_cancel, hk,
          Option.map_some]
      · omega
  · intro k entry hk hlt
    rw [List.length_append, List.length_singleton] at hlt
    rcases hcases k entry hk with ⟨-, hk⟩ | ⟨rfl, -⟩
    · by_cases hlast : k + 1 < chain.length
      · exact h.failed k entry hk hlast
      · refine hnext.failed entry ?_
        rw [List.getLast?_eq_getElem?, show chain.length - 1 = k by omega, hk]
        rfl
    · omega
  · rw [List.length_append, List.length_singleton]
    exact hnext.bounded

theorem SafeChain.complete (h : SafeChain chain)
    (hf : ∀ entry ∈ chain, entry.1 = id → entry.2.status = .running ∧ Completes f entry.2) :
    SafeChain (chain.map fun entry => if entry.1 = id then (entry.1, f entry.2) else entry) := by
  have hcases : ∀ (k : ℕ) entry,
      (chain.map fun entry => if entry.1 = id then (entry.1, f entry.2) else entry)[k]? =
        some entry → ∃ old, chain[k]? = some old ∧ entry.1 = old.1 ∧
          entry.2.attemptNumber = old.2.attemptNumber ∧
          entry.2.retryOfOperationId = old.2.retryOfOperationId ∧
          (old.2.status ≠ .running → entry.2 = old.2) := by
    intro k entry hk
    rw [List.getElem?_map, Option.map_eq_some_iff] at hk
    obtain ⟨old, hold, rfl⟩ := hk
    refine ⟨old, hold, ?_⟩
    split
    · rename_i hid
      obtain ⟨hrunning, hcompletes⟩ := hf old (List.mem_of_getElem? hold) hid
      exact ⟨rfl, hcompletes.attemptNumber, hcompletes.retryOfOperationId,
        fun hnot => absurd hrunning hnot⟩
    · exact ⟨rfl, rfl, rfl, fun _ => rfl⟩
  refine ⟨?_, ?_, ?_, ?_, ?_⟩
  · intro k entry hk
    obtain ⟨old, hold, -, hattempt, -, -⟩ := hcases k entry hk
    rw [hattempt, h.numbered k old hold]
  · intro entry hk
    obtain ⟨old, hold, -, -, hretry, -⟩ := hcases 0 entry hk
    rw [hretry, h.first old hold]
  · intro k entry next hk hk'
    obtain ⟨old, hold, hid, -, -, -⟩ := hcases k entry hk
    obtain ⟨oldNext, holdNext, -, -, hretry, -⟩ := hcases (k + 1) next hk'
    rw [hretry, hid, h.linked k old oldNext hold holdNext]
  · intro k entry hk hlt
    rw [List.length_map] at hlt
    obtain ⟨old, hold, -, -, -, hsame⟩ := hcases k entry hk
    have hfailed := h.failed k old hold hlt
    rw [hsame (by rw [hfailed.1]; exact (nomatch ·))]
    exact hfailed
  · rw [List.length_map]
    exact h.bounded

theorem SafeChain.eq_last (h : SafeChain chain)
    {k : ℕ} {entry : RowId × HostingPanelOperation} (hk : chain[k]? = some entry)
    (hnot : ¬ SafelyFailed entry.2) : k + 1 = chain.length := by
  have hlt := (List.getElem?_eq_some_iff.1 hk).1
  by_contra hne
  exact hnot (h.failed k entry hk (by omega))

/-! ## How the chains move -/

theorem mem_accountCreations {serviceId : RowId} : (id, op) ∈ accountCreations db serviceId ↔
      db.operations.get? id = some op ∧ op.serviceId = some serviceId ∧
        op.type = .createAccount := by
  rw [accountCreations, mem_select, decide_eq_true_eq]

theorem accountCreations_insert
    (h : db'.operations = db.operations.insert row) (serviceId : RowId) :
    accountCreations db' serviceId = accountCreations db serviceId ++
      if row.serviceId = some serviceId ∧ row.type = .createAccount
        then [(db.operations.size, row)] else [] := by
  rw [accountCreations, h, select_insert]
  simp only [decide_eq_true_eq]
  rfl

theorem accountCreations_complete (hop : db.operations.get? id = some op)
    (hf : Completes f op) (h : db'.operations = db.operations.update id f) (serviceId : RowId) :
    accountCreations db' serviceId = (accountCreations db serviceId).map fun entry =>
      if entry.1 = id then (entry.1, f entry.2) else entry := by
  rw [accountCreations, h]
  refine select_update fun row hrow => ?_
  obtain rfl := Option.mem_unique hop hrow
  rw [hf.serviceId, hf.type]

/-- **The checks under the service's lock continue the chain**: a creation that passes them is the
first attempt, or retries the last one, which has failed safely. -/
theorem safeNext_of_checkOperation {call : Execution} {service : Service}
    {server : Server} {hash : String} (hchain : SafeChain (accountCreations db call.serviceId))
    (htype : call.type = .createAccount) (h : checkOperation call service server db = .ok ()) :
    SafeNext (accountCreations db call.serviceId)
      (HostingPanelService.newOperation call service server hash) := by
  have hassert := (checkOperation_eq_ok h).2.2 htype
  unfold assertAccountCreationAttempt at hassert
  split at hassert
  · rename_i hretry
    rw [require_eq_ok, any_eq_false] at hassert
    have hnil : accountCreations db call.serviceId = [] := by
      refine List.eq_nil_iff_forall_not_mem.2 ?_
      rintro ⟨id, op⟩ hmem
      obtain ⟨hop, hservice, hcreate⟩ := mem_accountCreations.1 hmem
      simpa [hservice, hcreate] using hassert id op hop
    rw [hnil]
    refine ⟨?_, hretry, by simp, by decide⟩
    show call.options.attemptNumber.getD 1 = _
    rw [call.options.paired hretry]
    rfl
  · rename_i originalId hretry
    simp only [eq_ok, any_eq_false, decide_eq_false_iff_not] at hassert
    obtain ⟨original, horiginal, ⟨hservice, hcreate, hfailed, hretryable, hattempts, hnumber⟩,
      hchild, -⟩ := hassert
    obtain ⟨k, hk⟩ := List.mem_iff_getElem?.1
      (mem_accountCreations.2 ⟨horiginal, hservice, hcreate⟩)
    -- The attempt after the original would be its child.
    have hlast : k + 1 = (accountCreations db call.serviceId).length := by
      have hlt := (List.getElem?_eq_some_iff.1 hk).1
      by_contra hne
      have hlt' : k + 1 < (accountCreations db call.serviceId).length := by omega
      obtain ⟨⟨id, next⟩, hnext⟩ : ∃ next, (accountCreations db call.serviceId)[k + 1]? = some next :=
        ⟨_, List.getElem?_eq_getElem hlt'⟩
      have hlink := hchain.linked k _ _ hk hnext
      exact hchild id next (mem_accountCreations.1 (List.mem_of_getElem? hnext)).1 hlink
    have hgetLast : (accountCreations db call.serviceId).getLast? = some (originalId, original) := by
      rw [List.getLast?_eq_getElem?, ← hlast, Nat.add_sub_cancel, hk]
    have hnumbered := hchain.numbered k _ hk
    refine ⟨?_, ?_, ?_, ?_⟩
    · show call.options.attemptNumber.getD 1 = _
      rw [hnumber, Option.getD_some, hnumbered, hlast]
    · show call.options.retryOfOperationId = _
      rw [hretry, hgetLast, Option.map_some]
    · intro entry hentry
      rw [hgetLast, Option.mem_some_iff] at hentry
      rw [← hentry]
      exact ⟨hfailed, hretryable⟩
    · rw [← hlast, ← hnumbered]
      exact hattempts

/-- What holds of the account creations of a database. -/
structure CreationsSound (db : Database) : Prop where
  operations : OperationsSound db
  worker : ∀ id op, db.operations.get? id = some op → RecordedByWorker op →
    op.type ≠ .createAccount
  chains : ∀ serviceId, SafeChain (accountCreations db serviceId)

theorem creationsSound_empty (h : db.operations = ∅) : CreationsSound db where
  operations := operationsSound_empty h
  worker id op hop := by
    rw [h] at hop
    exact absurd hop get?_empty_ne
  chains serviceId := by
    rw [accountCreations, h]
    exact safeChain_nil

theorem CreationsSound.of_same (hdb : CreationsSound db)
    (hsound : OperationsSound db') (h : db'.operations = db.operations) : CreationsSound db' where
  operations := hsound
  worker := by
    rw [h]
    exact hdb.worker
  chains serviceId := by
    rw [accountCreations, h]
    exact hdb.chains serviceId

theorem CreationsSound.insert (hdb : CreationsSound db) (hsound : OperationsSound db')
    (hworker : RecordedByWorker row → row.type ≠ .createAccount)
    (hnext : ∀ serviceId, row.serviceId = some serviceId → row.type = .createAccount →
      SafeNext (accountCreations db serviceId) row)
    (h : db'.operations = db.operations.insert row) : CreationsSound db' where
  operations := hsound
  worker id op hop := by
    rw [h] at hop
    rcases get?_insert_cases hop with ⟨-, rfl⟩ | hop
    · exact hworker
    · exact hdb.worker id op hop
  chains serviceId := by
    rw [accountCreations_insert h]
    split
    · rename_i hrow
      exact (hdb.chains serviceId).append (hnext serviceId hrow.1 hrow.2)
    · rw [List.append_nil]
      exact hdb.chains serviceId

theorem CreationsSound.complete (hdb : CreationsSound db)
    (hsound : OperationsSound db') (hop : db.operations.get? id = some op)
    (hf : Completes f op) (hrunning : op.type = .createAccount → op.status = .running)
    (h : db'.operations = db.operations.update id f) : CreationsSound db' where
  operations := hsound
  worker j row hj hworker := by
    rw [h] at hj
    rcases get?_update_cases hj with ⟨rfl, old, hold, rfl⟩ | ⟨-, hj⟩
    · obtain rfl := Option.mem_unique hop hold
      rw [hf.type]
      obtain ⟨action, serviceId, source, retry, hkey⟩ := hworker
      exact hdb.worker id op hop ⟨action, serviceId, source, retry, hf.idempotencyKey ▸ hkey⟩
    · exact hdb.worker j row hj hworker
  chains serviceId := by
    rw [accountCreations_complete hop hf h]
    refine (hdb.chains serviceId).complete ?_
    rintro ⟨j, row⟩ hmem rfl
    obtain ⟨hrow, -, hcreate⟩ := mem_accountCreations.1 hmem
    obtain rfl := Option.mem_unique hop hrow
    exact ⟨hrunning hcreate, hf⟩

section

variable {requestHash : RowId → ExecuteHostingOperationRequest → String}
variable {payloadHash : AutomationPayload → String}
variable {w : World}

theorem freshRow_type {action : AutomationAction} {payload : AutomationPayload}
    (hdb : CreationsSound db) (h : FreshRow payloadHash db action payload row) :
    row.type ≠ .createAccount := by
  cases h with
  | first hlatest hservice => cases action <;> exact (nomatch ·)
  | @again id op hlatest hretryable =>
    obtain ⟨hop, hautomates⟩ := latestOperation_eq_some hlatest
    obtain ⟨retry, hkey⟩ := automates_eq_true hautomates
    show op.type ≠ .createAccount
    exact hdb.worker id op hop ⟨_, _, _, _, hkey⟩

theorem creationsSound_execute {l l' : ExecuteState}
    (hdb : CreationsSound db) (hsound : OperationsSound db')
    (hown : ∀ id, l.owned = some id → Refers (fun op => op.status = .running) db id)
    (hstep : Executes requestHash w db l db' l') : CreationsSound db' := by
  cases hstep with
  | idle hidle => exact hdb
  | create h =>
    obtain ⟨server, services, rfl, hservice, hcheck, hevidence, hkey, hretry, hservices, rfl⟩ :=
      createTransaction_eq_ok h
    refine hdb.insert hsound (fun ⟨_, _, _, _, hkey⟩ => nomatch hkey) ?_ rfl
    rintro serviceId hserviceId htype
    obtain rfl := Option.some.inj hserviceId
    exact safeNext_of_checkOperation (hdb.chains _) htype hcheck
  | succeed h | fail h => exact hdb
  | completeSuccess h hidle =>
    obtain ⟨op, services, orders, events, hop, hevidence, -, -, -, rfl⟩ :=
      completeSuccessTransaction_eq_ok h
    obtain ⟨op', hop', hrunning⟩ := hown _ rfl
    rw [hop, Option.some.injEq] at hop'
    exact hdb.complete hsound hop (completes_panelSucceeded hevidence)
      (fun _ => hop' ▸ hrunning) rfl
  | completeFailure h hidle =>
    obtain ⟨op, services, hop, hevidence, -, rfl⟩ := completeFailureTransaction_eq_ok h
    obtain ⟨op', hop', hrunning⟩ := hown _ rfl
    rw [hop, Option.some.injEq] at hop'
    exact hdb.complete hsound hop (completes_panelFailed hevidence)
      (fun _ => hop' ▸ hrunning) rfl

theorem creationsSound_ended {operations : Table HostingPanelOperation} {job : AutomationJob}
    (hdb : CreationsSound db) (hsound : OperationsSound { db with operations := operations })
    (hcompletes : ∀ op, (f op).StatusEvidence → Completes f op)
    (h : OperationEnded f job.operationId db.operations operations) :
    CreationsSound { db with operations := operations } := by
  rcases h with rfl | ⟨op, hop, hrunning, hevidence, rfl⟩
  · exact hdb
  · exact hdb.complete hsound hop (hcompletes op hevidence) (fun _ => hrunning) rfl

theorem creationsSound_automate {l l' : AutomationState}
    (hdb : CreationsSound db) (hsound : OperationsSound db')
    (hworks : ∀ job, l.job = some job → Refers RecordedByWorker db job.operationId)
    (hstep : Automates payloadHash w db l db' l') : CreationsSound db' := by
  cases hstep with
  | idle hidle => exact hdb
  | prepare h =>
    cases prepareTransaction_eq_ok payloadHash h with
    | create hrow hrunning hevidence hkey =>
      exact hdb.insert hsound (fun _ => freshRow_type hdb hrow)
        (fun _ _ htype => absurd htype (freshRow_type hdb hrow)) rfl
    | found hlatest => exact hdb
    | nothing hcancellation hservices => exact hdb.of_same hsound rfl
  | @skip job db' l' h hidle =>
    obtain ⟨operations, hended, rfl⟩ := completeSkipped_eq_ok h
    exact creationsSound_ended hdb hsound (fun _ => completes_automationSucceeded) hended
  | complete h hidle =>
    obtain ⟨service, op, requests, -, -, hop, hevidence, -, rfl⟩ := completeTransaction_eq_ok h
    obtain ⟨op', hop', hworker⟩ := hworks _ rfl
    obtain rfl := Option.mem_unique hop hop'
    exact hdb.complete hsound hop (completes_automationSucceeded hevidence)
      (fun htype => absurd htype (hdb.worker _ _ hop hworker)) rfl
  | @fail job error db' l' h hidle =>
    obtain ⟨operations, hended, rfl⟩ := failTransaction_eq_ok h
    exact creationsSound_ended hdb hsound (fun _ => completes_automationFailed) hended

theorem creationsSound_of_step
    {t t' : Thread (hostingOperations requestHash payloadHash)} (hdb : CreationsSound db)
    (ht : exclusion.thread db t) (h : t.step w db = some (db', t')) : CreationsSound db' := by
  have hsound := (stepEffect_of_step hdb.operations ht h).sound
  cases threadStep_of_step h with
  | execute hl hl' hworks hstep =>
    refine creationsSound_execute hdb hsound (fun id hid => ?_) hstep
    obtain ⟨op, hop, hrunning, -⟩ := ht.1 id ((owned_of_execution hl).trans hid)
    exact ⟨op, hop, hrunning⟩
  | automate hl howned hworks hstep =>
    exact creationsSound_automate hdb hsound
      (fun job hjob => ht.2 job ((worksOn_of_automation hl).trans hjob)) hstep
  | transition hl howned hworks hstep =>
    obtain ⟨current, data, events, orders, -, -, -, -, -, rfl⟩ :=
      ServiceService.transitionTransaction_eq_ok hstep
    exact hdb.of_same hsound rfl
  | wait hl howned hworks hsame => exact hsame ▸ hdb

end

/-! ## What the panel saw -/

/-- A call of `createAccount`, with the panel's answer. -/
structure AccountCall where
  operationId : RowId
  serviceId : RowId
  answer : Except HostingPanelProviderError ProviderSuccess

/-- The panel is known not to have created the account: it refused, for a reason that may pass. -/
def AccountCall.NotDone (call : AccountCall) : Prop :=
  ∃ error, call.answer = .error error ∧ error.kind = .temporary

section

variable (requestHash : RowId → ExecuteHostingOperationRequest → String)
variable (payloadHash : AutomationPayload → String)

/-- The call of `createAccount` that an execution is about to make. -/
def createCall (w : World) : ExecuteState → Option AccountCall
  | .callProvider call operationId _ =>
    if call.type = .createAccount then some ⟨operationId, call.serviceId, w.panelResult⟩ else none
  | _ => none

/-- The call of `createAccount` that a thread is about to make. -/
def accountCall (op : HostingOperation) (w : World)
    (l : (hostingOperations requestHash payloadHash op).Local) : Option AccountCall :=
  (execution requestHash payloadHash op l).bind (createCall w)

/-- The operations of the hosting accounts, with a record of the calls of `createAccount`. -/
def observedOperations (op : HostingOperation) : Operation (Database × List AccountCall) World :=
  (hostingOperations requestHash payloadHash op).observed (accountCall requestHash payloadHash op)

variable {requestHash payloadHash}

def Creates (serviceId : RowId) (op : HostingPanelOperation) : Prop :=
  op.serviceId = some serviceId ∧ op.type = .createAccount

/-- The record agrees with the operations: every call was made by an operation, which has failed
safely only when the call is known not to have been done; and no call follows one of the same
service that may have been done. -/
structure CallsSound (db : Database) (calls : List AccountCall) : Prop where
  recorded : ∀ call ∈ calls, Refers
    (fun op => Creates call.serviceId op ∧ (SafelyFailed op → call.NotDone)) db call.operationId
  ordered : calls.Pairwise fun earlier later =>
    earlier.serviceId = later.serviceId → earlier.NotDone

/-- What a thread knows about the calls of the operation it owns. -/
def callsKnown (db : Database) (calls : List AccountCall) : ExecuteState → Prop
  | .callProvider call operationId _ =>
    (call.type = .createAccount → Refers (Creates call.serviceId) db operationId) ∧
      ∀ made ∈ calls, made.operationId ≠ operationId
  | .completeFailure operationId error =>
    error.kind = .temporary → ∀ made ∈ calls, made.operationId = operationId → made.NotDone
  | _ => True

def creation : Outline (observedOperations requestHash payloadHash) where
  shared s := CreationsSound s.1 ∧ CallsSound s.1 s.2
  thread s t := exclusion.thread s.1 t.unobserved ∧
    ∀ l, execution requestHash payloadHash t.op t.loc = some l → callsKnown s.1 s.2 l
  apart t u := exclusion.apart t.unobserved u.unobserved

theorem validateAccount_not_temporary {service : Service} {readable : Bool}
    {account : HostingAccount} {error : HostingPanelProviderError}
    (h : validateAccount service .createAccount readable account = .error error) :
    error.kind = .inconsistent := by
  simp only [validateAccount, bind_eq_error, require_eq_error] at h
  rcases h with ⟨-, rfl⟩ | ⟨-, -, ⟨-, rfl⟩ | ⟨-, -, ⟨-, rfl⟩ | ⟨-, -, -, rfl⟩⟩⟩ <;> rfl

variable {made : AccountCall} {calls : List AccountCall} {l : Option ExecuteState}
  {serviceId : RowId} {t t' : Thread (hostingOperations requestHash payloadHash)} {w : World}

theorem notDone_of_providerOutcome {service : Service}
    {error : HostingPanelProviderError} {operationId : RowId}
    (h : providerOutcome w service .createAccount = .error error)
    (hkind : error.kind = .temporary) :
    (AccountCall.mk operationId serviceId w.panelResult).NotDone := by
  simp only [providerOutcome, bind_eq_error, pure_ne_error, and_false, exists_false,
    or_false] at h
  rcases h with hpanel | ⟨result, -, hvalidate⟩
  · exact ⟨error, hpanel, hkind⟩
  · have hinconsistent : error.kind = .inconsistent := by
      rw [validateProviderResult, if_neg (by decide), bind_eq_error] at hvalidate
      rcases hvalidate with hmissing | ⟨account, -, hvalidate⟩
      · rw [← (orThrow_eq_error.1 hmissing).2]
        rfl
      · exact validateAccount_not_temporary hvalidate
    rw [hinconsistent] at hkind
    exact nomatch hkind

/-! ### What a step adds to the record -/

theorem accountCall_eq_some {op : HostingOperation}
    {l : (hostingOperations requestHash payloadHash op).Local}
    (h : accountCall requestHash payloadHash op w l = some made) :
    ∃ call service, execution requestHash payloadHash op l =
        some (.callProvider call made.operationId service) ∧
      call.type = .createAccount ∧ made = ⟨made.operationId, call.serviceId, w.panelResult⟩ := by
  obtain ⟨state, hstate, hcall⟩ := Option.bind_eq_some_iff.1 h
  unfold createCall at hcall
  split at hcall
  · rename_i call operationId service
    split at hcall
    · rename_i htype
      obtain rfl := Option.some.inj hcall
      exact ⟨call, service, hstate, htype, rfl⟩
    · exact nomatch hcall
  · exact nomatch hcall

/-- What a step of a thread in the state `l` does to the operations: each stays an operation of its
service and type, and a creation comes to have failed safely in one way only, when its own request
records an error that may pass. -/
def CreationsMove (l : Option ExecuteState) (db db' : Database) : Prop :=
  ∀ id op, db.operations.get? id = some op → ∃ op', db'.operations.get? id = some op' ∧
    op'.serviceId = op.serviceId ∧ op'.type = op.type ∧
    (op.type = .createAccount → SafelyFailed op' → SafelyFailed op ∨
      ∃ error, l = some (.completeFailure id error) ∧ error.kind = .temporary)

theorem creationsMove_same (h : db'.operations = db.operations) : CreationsMove l db db' :=
  fun _ op hop => ⟨op, by rw [h, hop], rfl, rfl, fun _ => .inl⟩

variable {l' state : ExecuteState}

theorem creationsMove_insert (h : db'.operations = db.operations.insert row) :
    CreationsMove l db db' :=
  fun _ op hop => ⟨op, by rw [h, get?_insert_of_some hop], rfl, rfl, fun _ => .inl⟩

theorem creationsMove_complete {current : HostingPanelOperation}
    (hcurrent : db.operations.get? id = some current) (hf : Completes f current)
    (hfailed : current.type = .createAccount → SafelyFailed (f current) →
      ∃ error, l = some (.completeFailure id error) ∧ error.kind = .temporary)
    (h : db'.operations = db.operations.update id f) : CreationsMove l db db' := by
  intro j op hop
  by_cases hj : id = j
  · subst hj
    obtain rfl := Option.mem_unique hop hcurrent
    exact ⟨f op, by rw [h, get?_update_self hop], hf.serviceId, hf.type,
      fun htype hsafe => .inr (hfailed htype hsafe)⟩
  · exact ⟨op, by rw [h, get?_update_of_ne hj, hop], rfl, rfl, fun _ => .inl⟩

theorem creationsMove_execute {l : ExecuteState} (hstep : Executes requestHash w db l db' l') :
    CreationsMove (some l) db db' := by
  cases hstep with
  | idle hidle => exact creationsMove_same rfl
  | create h =>
    obtain ⟨server, services, -, -, -, -, -, -, -, rfl⟩ := createTransaction_eq_ok h
    exact creationsMove_insert rfl
  | succeed h | fail h => exact creationsMove_same rfl
  | completeSuccess h hidle =>
    obtain ⟨op, services, orders, events, hop, hevidence, -, -, -, rfl⟩ :=
      completeSuccessTransaction_eq_ok h
    exact creationsMove_complete hop (completes_panelSucceeded hevidence)
      (fun _ hsafe => nomatch hsafe.1) rfl
  | @completeFailure operationId error db' op l' h hidle =>
    obtain ⟨op, services, hop, hevidence, -, rfl⟩ := completeFailureTransaction_eq_ok h
    exact creationsMove_complete hop (completes_panelFailed hevidence)
      (fun _ hsafe => ⟨error, rfl, of_decide_eq_true hsafe.2⟩) rfl

theorem creationsMove_ended {operations : Table HostingPanelOperation} {job : AutomationJob}
    (hdb : CreationsSound db) (hjob : Refers RecordedByWorker db job.operationId)
    (hcompletes : ∀ op, (f op).StatusEvidence → Completes f op)
    (h : OperationEnded f job.operationId db.operations operations) :
    CreationsMove none db { db with operations := operations } := by
  rcases h with rfl | ⟨op, hop, -, hevidence, rfl⟩
  · exact creationsMove_same rfl
  · obtain ⟨row, hrow, hworker⟩ := hjob
    obtain rfl := Option.mem_unique hop hrow
    exact creationsMove_complete hop (hcompletes op hevidence)
      (fun htype => absurd htype (hdb.worker _ _ hop hworker)) rfl

theorem creationsMove_automate {l l' : AutomationState} (hdb : CreationsSound db)
    (hworks : ∀ job, l.job = some job → Refers RecordedByWorker db job.operationId)
    (hstep : Automates payloadHash w db l db' l') : CreationsMove none db db' := by
  cases hstep with
  | idle hidle => exact creationsMove_same rfl
  | prepare h =>
    cases prepareTransaction_eq_ok payloadHash h with
    | create hrow hrunning hevidence hkey => exact creationsMove_insert rfl
    | found hlatest | nothing hcancellation hservices => exact creationsMove_same rfl
  | skip h hidle =>
    obtain ⟨operations, hended, rfl⟩ := completeSkipped_eq_ok h
    exact creationsMove_ended hdb (hworks _ rfl) (fun _ => completes_automationSucceeded) hended
  | complete h hidle =>
    obtain ⟨service, op, requests, -, -, hop, hevidence, -, rfl⟩ := completeTransaction_eq_ok h
    obtain ⟨row, hrow, hworker⟩ := hworks _ rfl
    obtain rfl := Option.mem_unique hop hrow
    exact creationsMove_complete hop (completes_automationSucceeded hevidence)
      (fun htype => absurd htype (hdb.worker _ _ hop hworker)) rfl
  | fail h hidle =>
    obtain ⟨operations, hended, rfl⟩ := failTransaction_eq_ok h
    exact creationsMove_ended hdb (hworks _ rfl) (fun _ => completes_automationFailed) hended

theorem creationsMove_of_step (hdb : CreationsSound db)
    (ht : exclusion.thread db t) (h : t.step w db = some (db', t')) :
    CreationsMove (execution requestHash payloadHash t.op t.loc) db db' := by
  cases threadStep_of_step h with
  | execute hl hl' hworks hstep => exact hl ▸ creationsMove_execute hstep
  | automate hl howned hworks hstep =>
    rw [execution_of_automation hl]
    exact creationsMove_automate hdb
      (fun job hjob => ht.2 job ((worksOn_of_automation hl).trans hjob)) hstep
  | transition hl howned hworks hstep =>
    obtain ⟨current, data, events, orders, -, -, -, -, -, rfl⟩ :=
      ServiceService.transitionTransaction_eq_ok hstep
    exact creationsMove_same rfl
  | wait hl howned hworks hsame => exact creationsMove_same (hsame ▸ rfl)

/-! ### The record stays sound -/

theorem refers_of_creationsMove
    (hmove : CreationsMove l db db') (h : Refers (Creates serviceId) db id) :
    Refers (Creates serviceId) db' id := by
  obtain ⟨op, hop, hservice, htype⟩ := h
  obtain ⟨op', hop', hservice', htype', -⟩ := hmove id op hop
  exact ⟨op', hop', hservice'.trans hservice, htype'.trans htype⟩

theorem CallsSound.move (h : CallsSound db calls) (hmove : CreationsMove l db db')
    (hknown : ∀ id error, l = some (.completeFailure id error) →
      callsKnown db calls (.completeFailure id error)) : CallsSound db' calls where
  recorded made hmade := by
    obtain ⟨op, hop, ⟨hservice, htype⟩, hsafe⟩ := h.recorded made hmade
    obtain ⟨op', hop', hservice', htype', hfailed⟩ := hmove made.operationId op hop
    refine ⟨op', hop', ⟨hservice'.trans hservice, htype'.trans htype⟩, fun hsafe' => ?_⟩
    rcases hfailed htype hsafe' with hold | ⟨error, hl, hkind⟩
    · exact hsafe hold
    · exact hknown _ _ hl hkind made hmade rfl
  ordered := h.ordered

theorem safelyFailed_of_ne_running (hdb : CreationsSound db) {j : RowId}
    {running : HostingPanelOperation} (hid : db.operations.get? id = some running)
    (hcreates : Creates serviceId running) (hrunning : running.status = .running)
    (hj : db.operations.get? j = some op) (hop : Creates serviceId op) (hne : j ≠ id) :
    SafelyFailed op := by
  have hchain := hdb.chains serviceId
  obtain ⟨k, hk⟩ := List.mem_iff_getElem?.1
    (mem_accountCreations.2 ⟨hid, hcreates.1, hcreates.2⟩)
  obtain ⟨m, hm⟩ := List.mem_iff_getElem?.1 (mem_accountCreations.2 ⟨hj, hop.1, hop.2⟩)
  have hlast := hchain.eq_last hk fun hsafe => by
    rw [show running.status = .failed from hsafe.1] at hrunning
    exact nomatch hrunning
  have hmk : m ≠ k := by
    rintro rfl
    rw [hk, Option.some.injEq, Prod.mk.injEq] at hm
    exact hne hm.1.symm
  have hlt := (List.getElem?_eq_some_iff.1 hm).1
  exact hchain.failed m _ hm (by omega)

theorem CallsSound.call (h : CallsSound db calls) (hdb : CreationsSound db)
    (hcreates : Refers (Creates made.serviceId) db made.operationId)
    (hrunning : Refers (fun op => op.status = .running) db made.operationId)
    (hfirst : ∀ earlier ∈ calls, earlier.operationId ≠ made.operationId) :
    CallsSound db (calls ++ [made]) := by
  obtain ⟨op, hop, hcreates⟩ := hcreates
  obtain ⟨op', hop', hrunning⟩ := hrunning
  obtain rfl := Option.mem_unique hop hop'
  refine ⟨?_, ?_⟩
  · intro call hcall
    rcases List.mem_append.1 hcall with hcall | hcall
    · exact h.recorded call hcall
    · obtain rfl := List.mem_singleton.1 hcall
      refine ⟨op, hop, hcreates, fun hsafe => ?_⟩
      rw [hsafe.1] at hrunning
      exact nomatch hrunning
  · refine List.pairwise_append.2 ⟨h.ordered, List.pairwise_singleton _ _, ?_⟩
    intro earlier hearlier later hlater hservice
    obtain rfl := List.mem_singleton.1 hlater
    obtain ⟨old, hold, holdCreates, hsafe⟩ := h.recorded earlier hearlier
    exact hsafe (safelyFailed_of_ne_running hdb hop hcreates hrunning hold
      (hservice ▸ holdCreates) (hfirst earlier hearlier))

theorem callsKnown_of_move {new : List AccountCall} (h : callsKnown db calls state)
    (hmove : CreationsMove l db db') (hnew : ∀ made ∈ new, state.owned ≠ some made.operationId) :
    callsKnown db' (calls ++ new) state := by
  cases state with
  | callProvider call operationId service =>
    refine ⟨fun htype => refers_of_creationsMove hmove (h.1 htype), fun made hmade => ?_⟩
    rcases List.mem_append.1 hmade with hmade | hmade
    · exact h.2 made hmade
    · rintro rfl
      exact hnew made hmade rfl
  | completeFailure operationId error =>
    intro hkind made hmade hid
    rcases List.mem_append.1 hmade with hmade | hmade
    · exact h hkind made hmade hid
    · subst hid
      exact absurd rfl (hnew made hmade)
  | read | prepare | race | completeSuccess | done => trivial

theorem callsKnown_of_not_owned (h : state.owned = none) : callsKnown db calls state := by
  cases state with
  | callProvider | completeFailure => exact nomatch h
  | read | prepare | race | completeSuccess | done => trivial

theorem callsKnown_of_execute {l : ExecuteState} (hcalls : CallsSound db calls)
    (hknown : callsKnown db calls l) (hstep : Executes requestHash w db l db' l') :
    callsKnown db' (calls ++ (createCall w l).toList) l' := by
  cases hstep with
  | idle hidle => exact callsKnown_of_not_owned hidle
  | @create call db' operationId service h =>
    obtain ⟨server, services, rfl, -, -, -, -, -, -, rfl⟩ := createTransaction_eq_ok h
    refine ⟨fun htype => ⟨_, get?_insert_self _ _, rfl, htype⟩, fun made hmade => ?_⟩
    replace hmade : made ∈ calls := by simpa [createCall] using hmade
    obtain ⟨op, hop, -⟩ := hcalls.recorded made hmade
    exact Nat.ne_of_lt (lt_size_of_get? hop)
  | succeed h => trivial
  | @fail call operationId service error h =>
    intro hkind made hmade hid
    rcases List.mem_append.1 hmade with hmade | hmade
    · exact absurd hid (hknown.2 made hmade)
    · rw [createCall] at hmade
      split at hmade
      · rename_i htype
        obtain rfl := List.mem_singleton.1 hmade
        rw [htype] at h
        exact notDone_of_providerOutcome h hkind
      · exact nomatch hmade
  | completeSuccess h hidle | completeFailure h hidle => exact callsKnown_of_not_owned hidle

theorem owned_of_accountCall (h : accountCall requestHash payloadHash t.op w t.loc = some made) :
    owned requestHash payloadHash t = some made.operationId := by
  obtain ⟨call, service, hstate, -, -⟩ := accountCall_eq_some h
  exact owned_of_execution hstate

theorem callsSound_of_step (hdb : CreationsSound db)
    (hcalls : CallsSound db calls) (ht : exclusion.thread db t)
    (hknown : ∀ l, execution requestHash payloadHash t.op t.loc = some l → callsKnown db calls l)
    (h : t.step w db = some (db', t')) :
    CallsSound db' (calls ++ (accountCall requestHash payloadHash t.op w t.loc).toList) := by
  have hmove := creationsMove_of_step hdb ht h
  cases hcall : accountCall requestHash payloadHash t.op w t.loc with
  | none =>
    rw [Option.toList_none, List.append_nil]
    exact hcalls.move hmove fun id error => hknown _
  | some made =>
    obtain ⟨call, service, hstate, htype, hmade⟩ := accountCall_eq_some hcall
    have hknown' := hknown _ hstate
    obtain ⟨op, hop, hrunning, -⟩ := ht.1 _ (owned_of_accountCall hcall)
    have hcall' : CallsSound db (calls ++ [made]) := by
      refine hcalls.call hdb ?_ ⟨op, hop, hrunning⟩ hknown'.2
      rw [hmade]
      exact hknown'.1 htype
    -- A step that calls the panel does not record an outcome.
    refine hcall'.move hmove fun id error hstate' => ?_
    rw [hstate] at hstate'
    exact nomatch hstate'

theorem callsKnown_of_owned_none (h : owned requestHash payloadHash t = none) (l : ExecuteState)
    (hl : execution requestHash payloadHash t.op t.loc = some l) : callsKnown db calls l :=
  callsKnown_of_not_owned ((owned_of_execution hl).symm.trans h)

theorem callsKnown_of_step (hcalls : CallsSound db calls)
    (hknown : ∀ l, execution requestHash payloadHash t.op t.loc = some l → callsKnown db calls l)
    (h : t.step w db = some (db', t')) (l' : ExecuteState)
    (hl' : execution requestHash payloadHash t'.op t'.loc = some l') :
    callsKnown db' (calls ++ (accountCall requestHash payloadHash t.op w t.loc).toList) l' := by
  cases threadStep_of_step h with
  | @execute l l₁ hl hl₁ hworks hstep =>
    obtain rfl := Option.mem_unique hl' hl₁
    rw [accountCall, hl, Option.bind_some]
    exact callsKnown_of_execute hcalls (hknown l hl) hstep
  | automate hl howned hworks hstep | transition hl howned hworks hstep =>
    exact callsKnown_of_owned_none howned l' hl'
  | wait hl howned hworks hsame => exact callsKnown_of_owned_none howned l' hl'

theorem creation_sound : (@creation requestHash payloadHash).Sound anyStep where
  symm t u h := exclusion_sound.symm _ _ h
  call s op request hs := by
    exact ⟨exclusion_sound.call s.1 op request hs.1.operations,
      callsKnown_of_owned_none (owned_begin op request)⟩
  call_apart op request u := exclusion_sound.call_apart op request u.unobserved
  own w s t s' t' _ hs ht h := by
    obtain ⟨db', calls⟩ := s'
    obtain ⟨hstep, rfl⟩ := Thread.observed_step h
    have hown := exclusion_sound.own w s.1 t.unobserved db' t'.unobserved trivial hs.1.operations
      ht.1 hstep
    exact ⟨⟨creationsSound_of_step hs.1 ht.1 hstep, callsSound_of_step hs.1 hs.2 ht.1 ht.2 hstep⟩,
      hown.2, callsKnown_of_step hs.2 ht.2 hstep⟩
  other w s t s' t' u _ hs ht hu hapart h := by
    obtain ⟨db', calls⟩ := s'
    obtain ⟨hstep, rfl⟩ := Thread.observed_step h
    have hother := exclusion_sound.other w s.1 t.unobserved db' t'.unobserved u.unobserved trivial
      hs.1.operations ht.1 hu.1 hapart hstep
    refine ⟨⟨hother.1, fun l hl => ?_⟩, hother.2⟩
    refine callsKnown_of_move (hu.2 l hl) (creationsMove_of_step hs.1 ht.1 hstep) ?_
    intro made hmade hid
    exact hapart _ (owned_of_accountCall (t := t.unobserved) (Option.mem_toList.1 hmade))
      ((owned_of_execution (t := u.unobserved) hl).trans hid)

/-- **The creations of a service's account form one safe chain**, in every interleaving of the
API's operations and the worker's runs; and the panel is not asked again to create an account after
a call that may have created it. -/
theorem account_creation_chain {db : Database} (hdb : CreationsSound db)
    {c : Config (observedOperations requestHash payloadHash)}
    (hr : Reaches anyStep ⟨(db, []), []⟩ c) :
    (∀ serviceId, SafeChain (accountCreations c.shared.1 serviceId)) ∧
      c.shared.2.Pairwise fun earlier later =>
        earlier.serviceId = later.serviceId → earlier.NotDone := by
  have hidle : (@creation requestHash payloadHash).Holds ⟨(db, []), []⟩ :=
    Outline.holds_idle ⟨hdb, by simp, List.Pairwise.nil⟩
  have hholds := creation_sound.holds hidle hr
  exact ⟨hholds.shared.1.chains, hholds.shared.2.ordered⟩

end

/-! ### A creation and its retry -/

def pendingService : Database where
  servers := ⟨[{ adapterKey := "fake-panel" }]⟩
  services := ⟨[{
    customerId := 0, serverId := 0, status := .pending, domain := some "a.b",
    packageIdentifier := some "p", recurringAmount := 100, currency := "BDT", startedAt := 0,
    nextDueAt := 10, updatedAt := 0 }]⟩

abbrev unhashedCreations : HostingOperation → Operation (Database × List AccountCall) World :=
  observedOperations (fun _ _ => "") fun _ => ""

def accountCreated : World where
  panelResult := .ok { account := some ⟨"x", "u", "a.b", .active⟩ }

/-- The first attempt meets a panel that is not available, the second one succeeds. -/
def creationAndRetry : List (Move unhashedCreations) :=
  [.call .execute ⟨0, ⟨"k", .createAccount⟩, .admin, 0⟩, .advance 0 {}, .advance 0 {},
    .advance 0 {}, .advance 0 {}, .call .retry ⟨0, "r", none, false, .admin, 0⟩, .advance 1 {},
    .advance 1 {}, .advance 1 {}, .advance 1 {}, .advance 1 {}, .advance 1 accountCreated,
    .advance 1 {}]

def retriedConfig : Config unhashedCreations :=
  Config.after ⟨(pendingService, []), []⟩ creationAndRetry (by decide +kernel)

theorem creation_chain_after_retry :
    (accountCreations retriedConfig.shared.1 0).map (fun entry => entry.2.status) =
        [.failed, .succeeded] ∧
      retriedConfig.shared.2.map AccountCall.operationId = [0, 1] ∧
      SafeChain (accountCreations retriedConfig.shared.1 0) ∧
      retriedConfig.shared.2.Pairwise fun earlier later =>
        earlier.serviceId = later.serviceId → earlier.NotDone := by
  have hruns := account_creation_chain (creationsSound_empty rfl)
    (reaches_anyStep_of_run (run_eq_after
      (show (Config.run ⟨(pendingService, []), []⟩ creationAndRetry).isSome = true by
        decide +kernel)))
  exact ⟨by decide +kernel, by decide +kernel, hruns.1 0, hruns.2⟩

end WebhostBilling
