import WebhostBilling.Registrar.RegistrarOperations

/-!
# What the outcome of a domain action means

The three outcomes of an action are written by different transactions, one of them after a read that
may be stale, and any number of executions of the same action may be under way.  What they mean
follows from the columns that are written before anything is sent: the claim, the claim of a contact
and the permission to send, which the table's guard keeps.

`ActionsTraced` relates the rows of the actions to the trace of what was done, and `ExecuteHolds`
says what an execution knows on its way.
-/

namespace WebhostBilling

open DomainAction

open Store Store.Table Concurrency RegistrarProcessor DomainService DomainLifecycleService Config

/-! ## What is shown and what is supported -/

/-- A read of the domain shows the change that the action asks for.  A new contact is shown when all
four contacts of the domain are the one that the registrar confirmed for the action. -/
def Shows (trace : List RegistrarEvent) (id : RowId) (action : DomainAction)
    (observed : ResellbizManagedState) : Prop :=
  match action.request with
  | .nameservers nameservers => observed.nameservers.Perm nameservers
  | .lock locked => observed.locked = locked
  | .contact _ => ∃ contactId, action.remoteContactId = some contactId ∧
      .contactVerified id contactId ∈ trace ∧ ∀ shown ∈ observed.contactIds, shown = contactId
  | .renew _ _ _ => action.previousExpiry + days 330 ≤ observed.expiresAt ∧
      observed.expiresAt ≤ action.previousExpiry + days 370

structure RowTraced (trace : List RegistrarEvent) (id : RowId) (action : DomainAction) : Prop where
  checked : action.Checked
  claimed : action.claimedAt.isSome → .actionClaimed id ∈ trace
  remoteContact : ∀ contactId, action.remoteContactId = some contactId →
    .contactVerified id contactId ∈ trace
  succeeded : action.state = .succeeded → ∃ observed,
    [.actionClaimed id, .observed id observed].Sublist trace ∧ Shows trace id action observed

/-- The row of an action satisfies `p`. -/
def ActionIs (db : Database) (id : RowId) (p : DomainAction → Prop) : Prop :=
  ∃ action, db.domainActions.get? id = some action ∧ p action

def Supported (db : Database) : RegistrarEvent → Prop
  | .actionClaimed id => ActionIs db id fun action => action.claimedAt.isSome
  | .contactCreationSent id => ActionIs db id fun action => action.contactClaimedAt.isSome
  | .mutationSent id => ActionIs db id fun action => action.submittedAt.isSome
  | _ => True

/-- **The rows of the actions and the trace agree.** -/
structure ActionsTraced (db : Database) (trace : List RegistrarEvent) : Prop where
  rows : ∀ id action, db.domainActions.get? id = some action → RowTraced trace id action
  events : ∀ event ∈ trace, Supported db event

/-- The actions are as `create` leaves them. -/
def FreshActions (db : Database) : Prop :=
  ∀ id action, db.domainActions.get? id = some action →
    action.state = .requested ∧ action.claimedAt = none ∧ action.remoteContactId = none ∧
      action.Checked

theorem actionsTraced_fresh {db : Database} (h : FreshActions db) : ActionsTraced db [] where
  rows id action haction := by
    obtain ⟨hrequested, hunclaimed, hremote, hchecked⟩ := h id action haction
    refine ⟨hchecked, ?_, ?_, ?_⟩
    · rw [hunclaimed]
      exact nofun
    · rw [hremote]
      exact nofun
    · rw [hrequested]
      exact nofun
  events event hevent := nomatch hevent

/-! ## What later steps keep -/

section

variable {db db' : Database} {trace trace' : List RegistrarEvent}
variable {action : DomainAction} {id : RowId}

variable {action' : DomainAction} {run : ExecuteRun}

theorem Shows.mono {observed : ResellbizManagedState} (h : Shows trace id action observed)
    (hmoves : action.Moves action') (htrace : trace ⊆ trace') :
    Shows trace' id action' observed := by
  unfold Shows at h ⊢
  rw [hmoves.intent.request, hmoves.intent.previousExpiry]
  generalize action.request = request at h ⊢
  cases request with
  | nameservers _ | lock _ | renew _ _ _ => exact h
  | contact _ =>
    obtain ⟨contactId, hremote, hverified, hshown⟩ := h
    have hkept := hmoves.remoteContact (hremote ▸ rfl)
    exact ⟨contactId, hkept.trans hremote, htrace hverified, hshown⟩

theorem ActionIs.mono {p q : DomainAction → Prop} (h : ActionIs db id p)
    (hgrow : db.domainActions.Grows DomainAction.Moves db'.domainActions)
    (hpq : ∀ action action', action.Moves action' → p action → q action') : ActionIs db' id q := by
  obtain ⟨action, haction, hp⟩ := h
  obtain ⟨action', haction', hmoves⟩ := hgrow id action haction
  exact ⟨action', haction', hpq action action' hmoves hp⟩

theorem isSome_of_kept {α : Type} {a b : Option α} (h : a.isSome → b = a) (ha : a.isSome) :
    b.isSome := by
  rw [h ha]
  exact ha

theorem Supported.mono {event : RegistrarEvent} (h : Supported db event)
    (hgrow : db.domainActions.Grows DomainAction.Moves db'.domainActions) :
    Supported db' event := by
  cases event with
  | actionClaimed id => exact ActionIs.mono h hgrow fun _ _ hm => isSome_of_kept hm.claim
  | contactCreationSent id =>
    exact ActionIs.mono h hgrow fun _ _ hm => isSome_of_kept hm.contactClaim
  | mutationSent id => exact ActionIs.mono h hgrow fun _ _ hm => isSome_of_kept hm.submission
  | _ => trivial

theorem RowTraced.mono (h : RowTraced trace id action)
    (htrace : trace.Sublist trace') : RowTraced trace' id action where
  checked := h.checked
  claimed hclaimed := htrace.subset (h.claimed hclaimed)
  remoteContact contactId hremote := htrace.subset (h.remoteContact contactId hremote)
  succeeded hstate := by
    obtain ⟨observed, hsublist, hshows⟩ := h.succeeded hstate
    exact ⟨observed, hsublist.trans htrace, hshows.mono (.refl action) htrace.subset⟩

theorem RowTraced.quiet (h : RowTraced trace id action) (hmove : QuietMove action action') :
    RowTraced trace id action' where
  checked := hmove.checked
  claimed hclaimed := h.claimed (hmove.claim ▸ hclaimed)
  remoteContact contactId hremote := h.remoteContact contactId (hmove.remoteContact ▸ hremote)
  succeeded hstate := by
    obtain ⟨observed, hsublist, hshows⟩ := h.succeeded (hmove.succeeded hstate)
    exact ⟨observed, hsublist, hshows.mono hmove.moves fun _ he => he⟩

/-! ## What an execution knows -/

/-- An execution works on what its action asks for. -/
def Knows (db : Database) (run : ExecuteRun) : Prop :=
  ActionIs db run.input.actionId fun action =>
    action.request = run.request ∧ action.previousExpiry = run.previousExpiry

structure Underway (db : Database) (trace : List RegistrarEvent) (run : ExecuteRun) : Prop where
  knows : Knows db run
  claimed : .actionClaimed run.input.actionId ∈ trace

def ObservedAfterClaim (trace : List RegistrarEvent) (run : ExecuteRun)
    (observed : ResellbizManagedState) : Prop :=
  [.actionClaimed run.input.actionId, .observed run.input.actionId observed].Sublist trace

/-- **What an execution may rely on**, given how far it is. -/
def ExecuteHolds (db : Database) (trace : List RegistrarEvent) : ExecuteState → Prop
  | .locate _ => True
  | .opening input located => ActionIs db input.actionId fun action =>
      action.request = located.request ∧ action.previousExpiry = located.previousExpiry
  | .claiming run => Knows db run
  | .reading run _ => Underway db trace run
  | .claimingContact run => Underway db trace run
  | .addingContact run => Underway db trace run ∧
      ActionIs db run.input.actionId fun action => action.contactClaimedAt.isSome
  | .verifyingContact run _ => Underway db trace run
  | .storingContact run contactId => Underway db trace run ∧
      .contactVerified run.input.actionId contactId ∈ trace
  | .pricing run => Underway db trace run
  | .claimingSubmission run => Underway db trace run
  | .submitting run => Underway db trace run ∧
      ActionIs db run.input.actionId fun action => action.submittedAt.isSome
  | .checkingUnsent run => Underway db trace run
  | .failing run => Underway db trace run
  | .observing run => Underway db trace run
  | .confirming run observed => Underway db trace run ∧ ObservedAfterClaim trace run observed
  | .finishing run observed confirmed => Underway db trace run ∧
      ObservedAfterClaim trace run observed ∧ (confirmed = true →
        ActionIs db run.input.actionId fun action => Shows trace run.input.actionId action observed)
  | .done _ => True

def ActionThread (settings : RegistrarSettings) (db : Database) (trace : List RegistrarEvent) :
    (kind : RegistrarKind) → (registrarOperations settings kind).Local → Prop
  | .execute, l => ExecuteHolds db trace l
  | .recoverContact, .storing input => .contactVerified input.actionId input.contactId ∈ trace
  | _, _ => True

theorem Knows.mono (h : Knows db run)
    (hgrow : db.domainActions.Grows DomainAction.Moves db'.domainActions) : Knows db' run :=
  ActionIs.mono h hgrow fun _ _ hm hrun =>
    ⟨hm.intent.request.trans hrun.1, hm.intent.previousExpiry.trans hrun.2⟩

theorem Underway.mono (h : Underway db trace run)
    (hgrow : db.domainActions.Grows DomainAction.Moves db'.domainActions)
    (htrace : trace.Sublist trace') : Underway db' trace' run :=
  ⟨h.knows.mono hgrow, htrace.subset h.claimed⟩

theorem ExecuteHolds.mono {l : ExecuteState} (h : ExecuteHolds db trace l)
    (hgrow : db.domainActions.Grows DomainAction.Moves db'.domainActions)
    (htrace : trace.Sublist trace') : ExecuteHolds db' trace' l := by
  cases l with
  | locate _ | done _ => trivial
  | opening input located =>
    exact ActionIs.mono h hgrow fun _ _ hm hrun =>
      ⟨hm.intent.request.trans hrun.1, hm.intent.previousExpiry.trans hrun.2⟩
  | claiming run => exact Knows.mono h hgrow
  | reading _ _ | claimingContact _ | verifyingContact _ _ | pricing _ | claimingSubmission _
  | checkingUnsent _ | failing _ | observing _ => exact Underway.mono h hgrow htrace
  | addingContact run =>
    exact ⟨h.1.mono hgrow htrace, h.2.mono hgrow fun _ _ hm => isSome_of_kept hm.contactClaim⟩
  | storingContact run contactId => exact ⟨h.1.mono hgrow htrace, htrace.subset h.2⟩
  | submitting run =>
    exact ⟨h.1.mono hgrow htrace, h.2.mono hgrow fun _ _ hm => isSome_of_kept hm.submission⟩
  | confirming run observed => exact ⟨h.1.mono hgrow htrace, h.2.trans htrace⟩
  | finishing run observed confirmed =>
    refine ⟨h.1.mono hgrow htrace, h.2.1.trans htrace, fun hconfirmed => ?_⟩
    exact (h.2.2 hconfirmed).mono hgrow fun _ _ hm hshows => hshows.mono hm htrace.subset

/-! ## One step of an execution -/

variable {settings : RegistrarSettings} {w : World}
variable {c : Config (tracedRegistrar settings)} {l' : ExecuteState} {kind : RegistrarKind}
  {l : (registrarOperations settings kind).Local}

theorem locateAction_eq_some {domainId actionId : RowId}
    (h : locateAction db domainId actionId = some action) :
    db.domainActions.get? actionId = some action :=
  (Option.filter_eq_some_iff.1 h).1

theorem openRun_eq_ok {available : Bool} {input : ExecuteRequest} {located : DomainAction}
    (h : openRun settings available input located db = .ok run) :
    run.input = input ∧ run.request = located.request ∧
      run.previousExpiry = located.previousExpiry := by
  simp only [openRun, eq_ok] at h
  obtain ⟨context, -, -, -, rfl⟩ := h
  exact ⟨rfl, rfl, rfl⟩

theorem shows_of_confirmed {current : DomainAction}
    {observed : ResellbizManagedState} (hrequest : current.request = run.request)
    (hexpiry : current.previousExpiry = run.previousExpiry)
    (hrow : RowTraced trace run.input.actionId current)
    (h : confirmed run current observed = true) :
    Shows trace run.input.actionId current observed := by
  unfold confirmed at h
  unfold Shows
  rw [hrequest, hexpiry]
  generalize run.request = request at h
  cases request with
  | nameservers _ | renew _ _ _ | lock _ => simpa using h
  | contact _ =>
    simp only [Option.any_eq_true, List.all_eq_true, beq_iff_eq] at h
    obtain ⟨contactId, hremote, hshown⟩ := h
    exact ⟨contactId, hremote, hrow.remoteContact contactId hremote, hshown⟩

/-- Wherever an execution goes on after its first read, it knows no more than that it is under
way. -/
theorem executeHolds_dispatch {before : ResellbizManagedState}
    (h : Underway db trace run) : ExecuteHolds db trace (dispatch run before) := by
  unfold dispatch
  split
  · exact h
  · exact h
  · exact h
  · split
    · exact h
    · exact h

theorem executeHolds_attempt {write : Except Failure Database} {next caught : ExecuteState}
    (h : attempt w db write next caught = (db', l'))
    (hcaught : ExecuteHolds db' trace caught)
    (hnext : write = .ok db' → ExecuteHolds db' trace next) : ExecuteHolds db' trace l' := by
  rcases attempt_cases h with ⟨hwrite, rfl | rfl⟩ | ⟨rfl, rfl⟩
  · exact hnext hwrite
  · exact hcaught
  · exact hcaught

variable {f : DomainAction → DomainAction} {p : DomainAction → Prop} {now : ℕ} {dispatch : Bool}
  {event : RegistrarEvent} {c' : Config (tracedRegistrar settings)}

theorem actionIs_update (haction : db.domainActions.get? id = some action)
    (hdb : db'.domainActions = db.domainActions.update id f) (hp : p (f action)) :
    ActionIs db' id p :=
  ⟨f action, by rw [hdb, get?_update_self haction], hp⟩

theorem claimEvents_claimed (hok : claimTransaction run now db = .ok (db', some dispatch))
    (haction : db.domainActions.get? run.input.actionId = some action)
    (hunclaimed : action.claimedAt = none) :
    claimEvents run now db = [.actionClaimed run.input.actionId] := by
  simp [claimEvents, hok, haction, hunclaimed]

theorem underway_of_claim (hs : ActionsTraced db trace) (ht : Knows db run)
    (hgrow : db.domainActions.Grows DomainAction.Moves db'.domainActions)
    (hok : claimTransaction run now db = .ok (db', some dispatch)) :
    Underway db' (trace ++ claimEvents run now db) run := by
  refine ⟨ht.mono hgrow, ?_⟩
  rw [List.mem_append]
  cases claimTransaction_eq_ok hok with
  | polled haction _ hclaimed _ _ => exact .inl ((hs.rows _ _ haction).claimed hclaimed)
  | claimed haction _ hunclaimed _ _ _ _ =>
    rw [claimEvents_claimed hok haction hunclaimed]
    exact .inr (List.mem_singleton_self _)

theorem executeHolds_step {l : ExecuteState} (hs : ActionsTraced db trace)
    (ht : ExecuteHolds db trace l)
    (hgrow : db.domainActions.Grows DomainAction.Moves db'.domainActions)
    (h : executeStep settings w db l = some (db', l')) :
    ExecuteHolds db' (trace ++ executeEvents w db l) l' := by
  have hkept {run : ExecuteRun} (hrun : Underway db trace run) :
      Underway db' (trace ++ executeEvents w db l) run :=
    hrun.mono hgrow (List.sublist_append_left _ _)
  cases l with
  | locate input =>
    simp only [executeStep] at h
    split at h
    · cases h; trivial
    · split at h
      · rename_i located hlocated
        cases h
        exact ⟨located, locateAction_eq_some hlocated, rfl, rfl⟩
      · cases h; trivial
  | opening input located =>
    simp only [executeStep] at h
    split at h
    · rename_i run hrun
      cases h
      obtain ⟨hinput, hrequest, hexpiry⟩ := openRun_eq_ok hrun
      obtain ⟨action, haction, hsame⟩ := ht
      refine ⟨action, hinput ▸ haction, ?_, ?_⟩
      · rw [hrequest, hsame.1]
      · rw [hexpiry, hsame.2]
    · cases h; trivial
  | claiming run =>
    simp only [executeStep] at h
    split at h
    · rename_i dispatch hresult
      cases h
      exact underway_of_claim hs ht hgrow (atomically_snd hresult)
    · cases h; trivial
    · cases h; trivial
  | reading run dispatching =>
    simp only [executeStep] at h
    split at h
    · cases h
      exact executeHolds_dispatch (hkept ht)
    · cases h
      exact hkept ht
    · cases h
      exact hkept ht
  | claimingContact run =>
    rw [executeStep, Option.some.injEq] at h
    refine executeHolds_attempt h (hkept ht) fun hok => ⟨hkept ht, ?_⟩
    obtain ⟨action, haction, -, -, hdb⟩ := db.updateDomainAction_eq_ok hok
    exact actionIs_update haction (by rw [hdb]) rfl
  | addingContact run =>
    simp only [executeStep] at h
    split at h <;> (cases h; exact hkept ht.1)
  | verifyingContact run contactId =>
    simp only [executeStep] at h
    split at h
    · rename_i hcall
      cases h
      refine ⟨hkept ht, ?_⟩
      simp [executeEvents, hcall]
    · cases h
      exact hkept ht
  | storingContact run contactId =>
    rw [executeStep, Option.some.injEq] at h
    exact executeHolds_attempt h (hkept ht.1) fun _ => hkept ht.1
  | pricing run =>
    simp only [executeStep] at h
    split at h
    · split at h <;> (cases h; exact hkept ht)
    · cases h; exact hkept ht
  | claimingSubmission run =>
    rw [executeStep, Option.some.injEq] at h
    refine executeHolds_attempt h (hkept ht) fun hok => ⟨hkept ht, ?_⟩
    obtain ⟨action, haction, -, -, -, -, hdb⟩ := claimSubmission_eq_ok hok
    exact actionIs_update haction (by rw [hdb]) rfl
  | submitting run =>
    simp only [executeStep] at h
    split at h <;> (cases h; exact hkept ht.1)
  | checkingUnsent run =>
    simp only [executeStep] at h
    split at h
    · cases h; trivial
    · split at h
      · cases h; exact hkept ht
      · cases h; exact hkept ht
  | failing run =>
    simp only [executeStep] at h
    cases h; trivial
  | observing run =>
    simp only [executeStep] at h
    split at h
    · rename_i observed hobserved
      cases h
      have hevents : executeEvents w db (.observing run) =
          [.observed run.input.actionId observed] := by
        simp [executeEvents, hobserved]
      refine ⟨hkept ht, ?_⟩
      rw [ObservedAfterClaim, hevents]
      exact (List.singleton_sublist.2 ht.claimed).append (List.Sublist.refl _)
    · cases h; trivial
  | confirming run observed =>
    simp only [executeStep] at h
    split at h
    · cases h; trivial
    · rename_i current hcurrent
      cases h
      have hevents : executeEvents w db (.confirming run observed) = [] := rfl
      rw [hevents, List.append_nil]
      refine ⟨ht.1, ht.2, fun hconfirmed => ?_⟩
      obtain ⟨action, haction, hrequest, hexpiry⟩ := ht.1.knows
      obtain rfl := Option.mem_unique hcurrent haction
      exact ⟨current, hcurrent,
        shows_of_confirmed hrequest hexpiry (hs.rows _ _ hcurrent) hconfirmed⟩
  | finishing run observed confirmed =>
    simp only [executeStep] at h
    cases h; trivial
  | done result => cases h

/-! ## One step of any operation -/

theorem rowsTraced_update
    (hs : ∀ i action, db.domainActions.get? i = some action → RowTraced trace i action)
    (htrace : trace.Sublist trace') (hdb : db'.domainActions = db.domainActions.update id f)
    (hf : ∀ action, db.domainActions.get? id = some action → RowTraced trace' id (f action)) :
    ∀ i action, db'.domainActions.get? i = some action → RowTraced trace' i action := by
  intro i action haction
  rw [hdb] at haction
  rcases get?_update_cases haction with ⟨rfl, row, hrow, rfl⟩ | ⟨-, hrow⟩
  · exact hf row hrow
  · exact (hs i action hrow).mono htrace

theorem RowTraced.storeContact {contactId : String}
    (h : RowTraced trace id action) (hverified : .contactVerified id contactId ∈ trace)
    (hmoves : action.Moves (storeContact contactId action))
    (hchecked : (DomainLifecycleService.storeContact contactId action).Checked) :
    RowTraced trace id (DomainLifecycleService.storeContact contactId action) where
  checked := hchecked
  claimed := h.claimed
  remoteContact contactId' hremote := by
    cases hremote
    exact hverified
  succeeded hstate := by
    have hterminal : action.state.terminal := by
      have hsame : action.state = .succeeded := hstate
      rw [hsame]
      trivial
    rw [hmoves.terminal hterminal]
    exact h.succeeded hstate

theorem rowsTraced_step (hs : ActionsTraced db trace) (ht : ActionThread settings db trace kind l)
    (h : RegistrarWrites settings w db kind l db') :
    ∀ id action, db'.domainActions.get? id = some action →
      RowTraced (trace ++ registrarEvents settings kind w db l) id action := by
  have htrace : trace.Sublist (trace ++ registrarEvents settings kind w db l) :=
    List.sublist_append_left _ _
  have hold (id : RowId) (action : DomainAction)
      (haction : db.domainActions.get? id = some action) :
      RowTraced (trace ++ registrarEvents settings kind w db l) id action :=
    (hs.rows id action haction).mono htrace
  cases h with
  | domainCreated _ htables | returned _ _ htables | polled _ _ htables
  | claimed _ _ _ _ _ _ _ htables | recorded _ _ _ htables =>
    rw [htables.actions]
    exact hold
  | approved _ happroved =>
    rw [happroved.actions]
    exact hold
  | quiet _ hactions htables =>
    rcases hactions with hsame | ⟨id, action, f, haction, hmove, hupdated⟩
    · rw [htables.actions, hsame]
      exact hold
    · refine rowsTraced_update hs.rows htrace (htables.actions.trans hupdated) fun row hrow => ?_
      obtain rfl := Option.mem_unique haction hrow
      exact (hold id action haction).quiet hmove
  | actionCreated hrequested hunclaimed hremote hchecked htables =>
    intro id action haction
    rw [htables.actions] at haction
    rcases get?_insert_cases haction with ⟨-, rfl⟩ | haction
    · refine ⟨hchecked, ?_, ?_, ?_⟩
      · rw [hunclaimed]
        exact nofun
      · rw [hremote]
        exact nofun
      · rw [hrequested]
        exact nofun
    · exact hold id action haction
  | @actionClaimed _ run _ hok haction _ hunclaimed _ _ _ hchecked htables =>
    have hevents : registrarEvents settings .execute w db (ExecuteState.claiming run) =
        [.actionClaimed run.input.actionId] := claimEvents_claimed hok haction hunclaimed
    refine rowsTraced_update hs.rows htrace htables.actions fun row hrow => ?_
    obtain rfl := Option.mem_unique haction hrow
    refine ⟨hchecked, fun _ => ?_, (hold _ _ haction).remoteContact, nofun⟩
    rw [hevents]
    exact List.mem_append_right _ (List.mem_singleton_self _)
  | contactStored haction hmoves hchecked htables =>
    refine rowsTraced_update hs.rows htrace htables.actions fun row hrow => ?_
    obtain rfl := Option.mem_unique haction hrow
    have hverified := htrace.subset ht.2
    exact (hold _ _ haction).storeContact hverified hmoves hchecked
  | contactRecovered haction hmoves hchecked htables =>
    refine rowsTraced_update hs.rows htrace htables.actions fun row hrow => ?_
    obtain rfl := Option.mem_unique haction hrow
    have hverified := htrace.subset ht
    exact (hold _ _ haction).storeContact hverified hmoves hchecked
  | succeeded haction hmoves hchecked htables =>
    refine rowsTraced_update hs.rows htrace htables.actions fun row hrow => ?_
    obtain rfl := Option.mem_unique haction hrow
    have hrow := hold _ _ haction
    refine ⟨hchecked, hrow.claimed, hrow.remoteContact, fun _ => ?_⟩
    obtain ⟨-, hobserved, hshows⟩ := ht
    obtain ⟨action', haction', hshows⟩ := hshows rfl
    obtain rfl := Option.mem_unique haction haction'
    exact ⟨_, hobserved.trans htrace, hshows.mono hmoves htrace.subset⟩

theorem executeEvents_supported {l : ExecuteState} (ht : ExecuteHolds db trace l)
    (h : executeStep settings w db l = some (db', l')) :
    ∀ event ∈ executeEvents w db l, Supported db' event := by
  intro event hevent
  cases l with
  | claiming run =>
    have hclaim : ∃ db₁ r, claimTransaction run w.now db = .ok (db₁, some r) ∧
        event = .actionClaimed run.input.actionId := by
      simp only [executeEvents, claimEvents] at hevent
      split at hevent
      · rename_i db₁ r hok
        split at hevent
        · exact ⟨db₁, r, hok, List.mem_singleton.1 hevent⟩
        · cases hevent
      · cases hevent
    obtain ⟨db₁, r, hok, rfl⟩ := hclaim
    have hdb : db' = db₁ := by
      simp only [executeStep, atomically, hok, Option.some.injEq] at h
      exact (Prod.mk.inj h).1.symm
    subst hdb
    cases claimTransaction_eq_ok hok with
    | polled haction _ hclaimed _ _ => exact actionIs_update haction rfl hclaimed
    | claimed haction _ _ _ _ _ _ => exact actionIs_update haction rfl rfl
  | addingContact run | submitting run =>
    rw [executeEvents, List.mem_singleton] at hevent
    subst hevent
    simp only [executeStep] at h
    split at h <;> (cases h; exact ht.2)
  | verifyingContact run contactId | observing run =>
    simp only [executeEvents] at hevent
    split at hevent
    · rw [List.mem_singleton] at hevent
      subst hevent
      trivial
    · cases hevent
  | _ => cases hevent

/-- What `process` notes says nothing of the actions. -/
theorem processEvents_supported {l : ProcessState} (h : event ∈ processEvents settings w db l) :
    Supported db' event := by
  have hquoted {job : Job} {answer : Except RegistrarError RegistrarQuote}
      (h : event ∈ Job.called job .quote :: quotedEvents job answer) : Supported db' event := by
    cases answer with
    | ok cost =>
      simp only [quotedEvents, List.mem_cons, List.not_mem_nil, or_false] at h
      rcases h with rfl | rfl <;> trivial
    | error e =>
      simp only [quotedEvents, List.mem_cons, List.not_mem_nil, or_false] at h
      subst h
      trivial
  have hcalled {job : Job} {call : RegistrarCall} (h : event ∈ [Job.called job call]) :
      Supported db' event := by
    rw [List.mem_singleton] at h
    subst h
    trivial
  cases l with
  | prepare operationId =>
    simp only [processEvents] at h
    split at h
    · rw [List.mem_singleton] at h
      subst h
      trivial
    · exact nomatch h
  | quoting job | requoting job => exact hquoted h
  | searching job _ | contacting job | registering job | observing job => exact hcalled h
  | locate _ | recording _ _ | done => exact nomatch h

theorem registrarEvents_supported
    {l' : (registrarOperations settings kind).Local} (ht : ActionThread settings db trace kind l)
    (h : (registrarOperations settings kind).step w db l = some (db', l')) :
    ∀ event ∈ registrarEvents settings kind w db l, Supported db' event := by
  intro event hevent
  cases kind with
  | execute => exact executeEvents_supported ht h event hevent
  | recoverContact =>
    cases l with
    | verifying input =>
      simp only [registrarEvents, recoverContactEvents] at hevent
      split at hevent
      · rw [List.mem_singleton] at hevent
        subst hevent
        trivial
      · exact nomatch hevent
    | locate _ | opening _ _ | storing _ | done _ => exact nomatch hevent
  | approve =>
    cases l with
    | transact approval cost =>
      simp only [registrarEvents, approveEvents] at hevent
      split at hevent
      · rw [List.mem_singleton] at hevent
        subst hevent
        trivial
      · exact nomatch hevent
    | check _ | quoting _ | done _ => exact nomatch hevent
  | process => exact processEvents_supported hevent
  | createDomain | reconcile | createAction | cancelUnsent | refresh | otherServices =>
    exact nomatch hevent

theorem actionsTraced_step {l' : (registrarOperations settings kind).Local}
    (hs : ActionsTraced db trace) (ht : ActionThread settings db trace kind l)
    (h : (registrarOperations settings kind).step w db l = some (db', l')) :
    ActionsTraced db' (trace ++ registrarEvents settings kind w db l) where
  rows := rowsTraced_step hs ht (registrarWrites_of_step kind h)
  events event hevent := by
    rw [List.mem_append] at hevent
    rcases hevent with hevent | hevent
    · exact (hs.events event hevent).mono (registrarWrites_of_step kind h).actions_grow
    · exact registrarEvents_supported ht h event hevent

theorem actionThread_step {l' : (registrarOperations settings kind).Local}
    (hs : ActionsTraced db trace) (ht : ActionThread settings db trace kind l)
    (h : (registrarOperations settings kind).step w db l = some (db', l')) :
    ActionThread settings db' (trace ++ registrarEvents settings kind w db l) kind l' := by
  have hgrow := (registrarWrites_of_step kind h).actions_grow
  cases kind with
  | execute => exact executeHolds_step hs ht hgrow h
  | recoverContact =>
    cases l' with
    | storing input =>
      cases l with
      | verifying input' =>
        simp only [registrarOperations, recoverContact, recoverContactStep] at h
        split at h
        · rename_i hcall
          cases h
          refine List.mem_append_right _ ?_
          simp [registrarEvents, recoverContactEvents, hcall]
        · cases h
      | locate _ | opening _ _ =>
        simp only [registrarOperations, recoverContact, recoverContactStep] at h
        split at h <;> cases h
      | storing _ | done _ => cases h
    | locate _ | opening _ _ | verifying _ | done _ => trivial
  | createDomain | approve | reconcile | process | createAction | cancelUnsent | refresh
  | otherServices => trivial

theorem ActionThread.mono (h : ActionThread settings db trace kind l)
    (hgrow : db.domainActions.Grows DomainAction.Moves db'.domainActions)
    (htrace : trace.Sublist trace') : ActionThread settings db' trace' kind l := by
  cases kind with
  | execute => exact ExecuteHolds.mono h hgrow htrace
  | recoverContact =>
    cases l with
    | storing input => exact htrace.subset h
    | locate _ | opening _ _ | verifying _ | done _ => trivial
  | createDomain | approve | reconcile | process | createAction | cancelUnsent | refresh
  | otherServices => trivial

/-! ## Runs -/

def actionsOutline (settings : RegistrarSettings) : Outline (tracedRegistrar settings) where
  shared s := ActionsTraced s.1 s.2
  thread s t := ActionThread settings s.1 s.2 t.op t.loc

theorem actionsOutline_sound : (actionsOutline settings).Sound anyStep where
  symm _ _ h := h
  call _ op _ _ := by
    cases op <;> trivial
  call_apart _ _ _ := trivial
  own w s t s' t' _ hs ht hmove := by
    obtain ⟨l, hstep, htrace, rfl⟩ := Thread.traced_step hmove
    have hshared := actionsTraced_step hs ht hstep
    have hthread := actionThread_step hs ht hstep
    rw [← htrace] at hshared hthread
    exact ⟨hshared, hthread⟩
  other w s t s' t' u _ hs ht hu _ hmove := by
    obtain ⟨l, hstep, htrace, rfl⟩ := Thread.traced_step hmove
    have hgrow := (registrarWrites_of_step t.op hstep).actions_grow
    have hsublist : s.2.Sublist s'.2 := by
      rw [htrace]
      exact List.sublist_append_left _ _
    exact ⟨ActionThread.mono hu hgrow hsublist, trivial⟩

theorem actionsTraced_of_reaches (hfresh : FreshActions db)
    (hr : Reaches anyStep ⟨(db, []), []⟩ c) :
    ActionsTraced c.shared.1 c.shared.2 := by
  have hinit : (actionsOutline settings).shared (db, []) := actionsTraced_fresh hfresh
  exact (actionsOutline_sound.holds (Outline.holds_idle hinit) hr).shared

theorem RegistrarOperation.SameApproval.trans {a b d : RegistrarOperation}
    (h : a.SameApproval b) (h' : b.SameApproval d) : a.SameApproval d where
  domainId := h'.domainId.trans h.domainId
  accountId := h'.accountId.trans h.accountId
  credentialId := h'.credentialId.trans h.credentialId
  selectedAccountId := h'.selectedAccountId.trans h.selectedAccountId
  selectedCredentialId := h'.selectedCredentialId.trans h.selectedCredentialId
  actorUserId := h'.actorUserId.trans h.actorUserId
  costCeiling := h'.costCeiling.trans h.costCeiling
  priceChangeRiskAccepted := h'.priceChangeRiskAccepted.trans h.priceChangeRiskAccepted

theorem RegistrarOperation.Moves.trans {a b d : RegistrarOperation} (h : a.Moves b)
    (h' : b.Moves d) : a.Moves d where
  approval := h.approval.trans h'.approval
  claim := DomainAction.written_trans h.claim h'.claim
  polls := h.polls.trans h'.polls

/-- What a step adds to, or changes in, the actions and the registrations. -/
def RegistrarGrows (s s' : Database × List RegistrarEvent) : Prop :=
  s.1.registrarOperations.Grows RegistrarOperation.Moves s'.1.registrarOperations ∧
    s.1.domainActions.Grows DomainAction.Moves s'.1.domainActions

theorem registrarGrows_of_reaches (hr : Reaches anyStep c c') :
    RegistrarGrows c.shared c'.shared := by
  refine related_of_reaches ?_ ?_ ?_ hr
  · exact fun s => ⟨Grows.refl RegistrarOperation.Moves.refl _,
      Grows.refl DomainAction.Moves.refl _⟩
  · exact fun a b d hab hbd => ⟨Grows.trans (fun _ _ _ h h' => h.trans h') hab.1 hbd.1,
      Grows.trans (fun _ _ _ h h' => h.trans h') hab.2 hbd.2⟩
  · intro w s t s' t' _ hstep
    obtain ⟨l, hl, -⟩ := Thread.step_eq_some hstep
    have hwrites := registrarWrites_of_step t.op (Operation.traced_step hl).1
    exact ⟨hwrites.operations_grow, hwrites.actions_grow⟩

/-- **What was approved, requested or claimed stands**, in every interleaving with everything else
that runs: a registration keeps its approval and an action its request, and neither loses its claim
or a moment at which something was sent for it. -/
theorem registrar_claims_stand (hr : Reaches anyStep c c') :
    c.shared.1.registrarOperations.Grows RegistrarOperation.Moves
        c'.shared.1.registrarOperations ∧
      c.shared.1.domainActions.Grows DomainAction.Moves c'.shared.1.domainActions :=
  registrarGrows_of_reaches hr

theorem terminal_stays (hr : Reaches anyStep c c')
    (haction : c.shared.1.domainActions.get? id = some action) (hterminal : action.state.terminal) :
    c'.shared.1.domainActions.get? id = some action := by
  obtain ⟨action', haction', hmoves⟩ := (registrarGrows_of_reaches hr).2 id action haction
  rw [haction', hmoves.terminal hterminal]

theorem ActionsTraced.not_mem (h : ActionsTraced db trace)
    (haction : db.domainActions.get? id = some action)
    (hsupported : Supported db event → ActionIs db id p) (hp : ¬ p action) : event ∉ trace := by
  intro hevent
  obtain ⟨action', haction', hp'⟩ := hsupported (h.events event hevent)
  obtain rfl := Option.mem_unique haction haction'
  exact hp hp'

/-- **What the outcome of a domain action means**, in every interleaving of executions,
reconciliations, contact recoveries and cancellations with everything else that runs.  An outcome is
never changed.  An action has succeeded only if a read of the domain, made after the claim of the
action, showed the change; it has failed only if neither the change nor a contact was ever sent for
it, nor will be; and it is cancelled only if it was never claimed, nor will be. -/
theorem domain_action_outcomes (hfresh : FreshActions db) {c c' : Config (tracedRegistrar settings)}
    (hr : Reaches anyStep ⟨(db, []), []⟩ c) (hr' : Reaches anyStep c c')
    {id : RowId} {action : DomainAction}
    (haction : c.shared.1.domainActions.get? id = some action) (hterminal : action.state.terminal) :
    c'.shared.1.domainActions.get? id = some action ∧
      (action.state = .succeeded → ∃ observed,
        [.actionClaimed id, .observed id observed].Sublist c.shared.2 ∧
          Shows c.shared.2 id action observed) ∧
      (action.state = .failed →
        .mutationSent id ∉ c'.shared.2 ∧ .contactCreationSent id ∉ c'.shared.2) ∧
      (action.state = .cancelled → action.claimedAt = none ∧ .actionClaimed id ∉ c'.shared.2) := by
  have hnow := (actionsTraced_of_reaches hfresh hr).rows id action haction
  have hlater := actionsTraced_of_reaches hfresh (hr.trans hr')
  have hstays := terminal_stays hr' haction hterminal
  refine ⟨hstays, hnow.succeeded, fun hfailed => ?_, fun hcancelled => ?_⟩
  · obtain ⟨hunsent, huncreated⟩ := hnow.checked.failed hfailed
    refine ⟨hlater.not_mem hstays (fun h => h) ?_, hlater.not_mem hstays (fun h => h) ?_⟩
    · rw [hunsent]
      exact Bool.false_ne_true
    · rw [huncreated]
      exact Bool.false_ne_true
  · have hunclaimed := hnow.checked.cancelled hcancelled
    refine ⟨hunclaimed, hlater.not_mem hstays (fun h => h) ?_⟩
    rw [hunclaimed]
    exact Bool.false_ne_true

end

/-! ### A lock that is asked for -/

def managedDomain : Database where
  users := ⟨[{ role := .admin, staffRole := some .fullAdministrator, totpEnabledAt := some 0 }]⟩
  customers := ⟨[{ userId := 0, emailVerified := true }]⟩
  registrarAccounts := ⟨[{ mode := .live, enabled := true }]⟩
  registrarCredentials := ⟨[{ accountId := 0 }]⟩
  domains := ⟨[{
    customerId := 0, orderItemId := some 0, invoiceId := some 0, state := .registered
    quoteId := some 0, domainName := "a.b", providerOrderId := some "1", expiresAt := some 0 }]⟩
  domainActions := ⟨[{
    domainId := 0, customerId := 0, accountId := 0, credentialId := 0, actorUserId := 0
    request := .lock true, previousExpiry := 0, nextPollAt := 0 }]⟩

theorem managedDomain_fresh : FreshActions managedDomain := by
  intro id action haction
  obtain ⟨-, rfl⟩ := eq_of_get?_singleton haction
  decide

def fullAdministrator : AuthIdentity where
  userId := 0
  role := .admin
  staffRole := some .fullAdministrator
  twoFactorEnabled := true

abbrev liveRegistrar : RegistrarKind → Operation (Database × List RegistrarEvent) World :=
  tracedRegistrar ⟨false, true⟩

def lockRequest : ExecuteRequest := ⟨0, 0, "a.b", fullAdministrator, false⟩

def lockedIs (locked : Bool) : World where
  now := 180000
  registrarManagement := .ok ⟨[], locked, 0, .verified, "1", "1", "1", "1"⟩
  registrarCall := .ok ()

def sendLock : List (Move liveRegistrar) :=
  [.call .execute lockRequest, .advance 0 {}, .advance 0 {}, .advance 0 {},
    .advance 0 (lockedIs false), .advance 0 {}]

def confirmLock : List (Move liveRegistrar) :=
  [.advance 0 (lockedIs false), .advance 0 (lockedIs true), .advance 0 {}, .advance 0 {}]

def lockedConfig : Config liveRegistrar :=
  after ⟨(managedDomain, []), []⟩ (sendLock ++ confirmLock) (by decide +kernel)

def lockedAction : DomainAction where
  domainId := 0
  customerId := 0
  accountId := 0
  credentialId := 0
  actorUserId := 0
  request := .lock true
  previousExpiry := 0
  state := .succeeded
  claimedAt := some 0
  submittedAt := some 0
  nextPollAt := 180000
  pollCount := 1

/-- Another action takes the lock off again. -/
def createUnlock : List (Move liveRegistrar) :=
  [.call .createAction (⟨0, .lock false, "a.b", fullAdministrator⟩ : CreateActionRequest),
    .advance 1 { now := 200000 }, .advance 1 { now := 200000 }]

def unlockingConfig : Config liveRegistrar := after lockedConfig createUnlock (by decide +kernel)

/-- The domain was seen to be locked after the claim, and the action stays as it is. -/
theorem lock_shown : unlockingConfig.shared.1.domainActions.size = 2 ∧
    unlockingConfig.shared.1.domainActions.get? 0 = some lockedAction ∧
    ∃ observed, [.actionClaimed 0, .observed 0 observed].Sublist lockedConfig.shared.2 ∧
      observed.locked = true := by
  have houtcome := domain_action_outcomes managedDomain_fresh
    (reaches_anyStep_of_run (run_eq_after (show (run
      ⟨(managedDomain, []), []⟩ (sendLock ++ confirmLock)).isSome = true by decide +kernel)))
    (reaches_anyStep_of_run (run_eq_after
      (show (run lockedConfig createUnlock).isSome = true by decide +kernel)))
    (show lockedConfig.shared.1.domainActions.get? 0 = some lockedAction by decide +kernel)
    (by decide)
  exact ⟨by decide +kernel, houtcome.1, houtcome.2.1 rfl⟩

def sentLock : Config liveRegistrar :=
  after ⟨(managedDomain, []), []⟩ sendLock (by decide +kernel)

theorem lock_claim_stands :
    ∃ action, (after sentLock confirmLock (by decide +kernel)).shared.1.domainActions.get? 0 =
      some action ∧ action.claimedAt = some 0 := by
  have hstands := (registrar_claims_stand (reaches_anyStep_of_run (run_eq_after
    (show (run sentLock confirmLock).isSome = true by decide +kernel)))).2
  have hsent : (sentLock.shared.1.domainActions.get? 0).any (·.claimedAt = some 0) = true := by
    decide +kernel
  obtain ⟨action, haction, hclaimed⟩ := (Option.any_eq_true _ _).1 hsent
  rw [decide_eq_true_eq] at hclaimed
  obtain ⟨action', haction', hmoves⟩ := hstands 0 action haction
  exact ⟨action', haction', (hmoves.claim (hclaimed ▸ rfl)).trans hclaimed⟩

section

variable {db db' : Database} {settings : RegistrarSettings} {w : World}

/-! ## The permission to send -/

/-- The permission to send the change of an action, which `claimSubmission` gives. -/
def mutationPermit (settings : RegistrarSettings) (id : RowId) :
    Permit (registrarOperations settings) (registrarEvents settings) where
  taken db := ActionIs db id fun action => action.submittedAt.isSome
  holds
    | .execute, .submitting run => run.input.actionId = id
    | _, _ => False
  spends event := event == .mutationSent id

variable {id : RowId} {kind : RegistrarKind}

variable {l : (registrarOperations settings kind).Local}

theorem holds_of_mutationSent (h : .mutationSent id ∈ registrarEvents settings kind w db l) :
    (mutationPermit settings id).holds kind l := by
  have hcalled {job : Job} {answer : Except RegistrarError RegistrarQuote} :
      .mutationSent id ∉ Job.called job .quote :: quotedEvents job answer := by
    cases answer <;> simp [quotedEvents, Job.called]
  cases kind with
  | execute =>
    cases l with
    | submitting run =>
      have hid : id = run.input.actionId := by
        simpa [registrarEvents, executeEvents] using h
      exact hid.symm
    | claiming run =>
      simp only [registrarEvents, executeEvents, claimEvents] at h
      split at h
      · split at h <;> simp at h
      · simp at h
    | addingContact run => simp [registrarEvents, executeEvents] at h
    | verifyingContact run contactId | observing run =>
      simp only [registrarEvents, executeEvents] at h
      split at h <;> simp at h
    | _ => exact nomatch h
  | recoverContact =>
    cases l with
    | verifying input =>
      simp only [registrarEvents, recoverContactEvents] at h
      split at h <;> simp at h
    | locate _ | opening _ _ | storing _ | done _ => exact nomatch h
  | approve =>
    cases l with
    | transact approval cost =>
      simp only [registrarEvents, approveEvents] at h
      split at h <;> simp at h
    | check _ | quoting _ | done _ => exact nomatch h
  | process =>
    cases l with
    | prepare operationId =>
      simp only [registrarEvents, processEvents] at h
      split at h <;> simp at h
    | quoting job | requoting job => exact absurd h hcalled
    | searching job _ | contacting job | registering job | observing job =>
      simp [registrarEvents, processEvents, Job.called] at h
    | locate _ | recording _ _ | done => exact nomatch h
  | createDomain | reconcile | createAction | cancelUnsent | refresh | otherServices =>
    exact nomatch h

theorem eq_submitting_of_holds (h : (mutationPermit settings id).holds kind l) :
    ∃ run : ExecuteRun, run.input.actionId = id ∧
      (⟨kind, l⟩ : Thread (registrarOperations settings)) =
        ⟨.execute, ExecuteState.submitting run⟩ := by
  cases kind with
  | execute =>
    cases l with
    | submitting run => exact ⟨run, h, rfl⟩
    | _ => exact h.elim
  | _ => exact h.elim

theorem submitting_of_step {run : ExecuteRun} {l : ExecuteState}
    (h : executeStep settings w db l = some (db', .submitting run)) :
    claimSubmission run.input.actionId w.now db = .ok db' := by
  cases l with
  | claimingSubmission run' =>
    rw [executeStep, Option.some.injEq] at h
    rcases attempt_cases h with ⟨hok, hnext | hcaught⟩ | ⟨-, hcaught⟩
    · cases hnext
      exact hok
    · cases hcaught
    · cases hcaught
  | claimingContact run' | storingContact run' _ =>
    rw [executeStep, Option.some.injEq] at h
    rcases attempt_cases h with ⟨-, hnext | hcaught⟩ | ⟨-, hcaught⟩
    · cases hnext
    · cases hcaught
    · cases hcaught
  | locate _ | checkingUnsent _ =>
    simp only [executeStep] at h
    split at h
    · cases h
    · split at h <;> cases h
  | pricing _ =>
    simp only [executeStep] at h
    split at h
    · split at h <;> cases h
    · cases h
  | reading run' dispatching =>
    simp only [executeStep] at h
    split at h
    · have hdispatch := (Prod.mk.inj (Option.some.inj h)).2
      unfold dispatch at hdispatch
      split at hdispatch
      · cases hdispatch
      · cases hdispatch
      · cases hdispatch
      · split at hdispatch <;> cases hdispatch
    · cases h
    · cases h
  | opening _ _ | claiming _ | addingContact _ | verifyingContact _ _ | submitting _ | observing _
  | confirming _ _ =>
    simp only [executeStep] at h
    split at h <;> cases h
  | failing _ | finishing _ _ _ | done _ => cases h

theorem mutationPermit_sound (id : RowId) : (mutationPermit settings id).Sound fun _ => True where
  inv _ _ _ _ _ _ _ _ := trivial
  start kind _ := by
    cases kind <;> exact not_false
  kept _ _ _ _ _ _ _ h htaken :=
    htaken.mono (registrarWrites_of_step _ h).actions_grow fun _ _ hm => isSome_of_kept hm.submission
  acquired kind w db l db' l' _ h hholds := by
    obtain ⟨run, hid, heq⟩ := eq_submitting_of_holds hholds
    cases heq
    have hclaim := submitting_of_step h
    obtain ⟨action, haction, hunsent, -, -, -, hdb⟩ := claimSubmission_eq_ok hclaim
    rw [hid] at haction hdb
    refine .inr ⟨?_, actionIs_update haction (by rw [hdb]) rfl⟩
    rintro ⟨action', haction', hsent⟩
    rw [haction, Option.some.injEq] at haction'
    rw [← haction', hunsent] at hsent
    exact Bool.false_ne_true hsent
  spent kind w db l db' l' _ h hspent := by
    obtain ⟨event, hevent, hspends⟩ := List.countP_pos_iff.1 hspent
    have hholds : (mutationPermit settings id).holds kind l := by
      rw [eq_of_beq hspends] at hevent
      exact holds_of_mutationSent hevent
    refine ⟨hholds, ?_, ?_⟩
    · intro hholds'
      obtain ⟨run, -, heq⟩ := eq_submitting_of_holds hholds
      obtain ⟨run', -, heq'⟩ := eq_submitting_of_holds hholds'
      cases heq
      cases heq'
      simp only [registrarOperations, execute, executeStep] at h
      split at h <;> cases h
    · obtain ⟨run, hid, heq⟩ := eq_submitting_of_holds hholds
      cases heq
      simp [registrarEvents, executeEvents, mutationPermit, hid]

/-- **The change that an action asks for is sent at most once**, in every interleaving of
executions, reconciliations, contact recoveries and cancellations, however often they are called and
wherever they stop, and never for an action that is cancelled. -/
theorem domain_mutation_sent_once (hfresh : FreshActions db)
    {c : Config (tracedRegistrar settings)}
    (hr : Reaches anyStep ⟨(db, []), []⟩ c) (id : RowId) :
    c.shared.2.count (.mutationSent id) ≤ 1 ∧
      ∀ action, c.shared.1.domainActions.get? id = some action → action.state = .cancelled →
        ∀ c', Reaches anyStep c c' → .mutationSent id ∉ c'.shared.2 := by
  refine ⟨((mutationPermit_sound id).once trivial hr).1, fun action haction hcancelled c' hr' => ?_⟩
  have hnow := (actionsTraced_of_reaches hfresh hr).rows id action haction
  have hlater := actionsTraced_of_reaches hfresh (hr.trans hr')
  have hterminal : action.state.terminal := by
    rw [hcancelled]
    trivial
  refine hlater.not_mem (terminal_stays hr' haction hterminal) (fun h => h) fun hsubmitted => ?_
  have hclaimed := hnow.checked.submitted hsubmitted
  rw [hnow.checked.cancelled hcancelled] at hclaimed
  exact Bool.false_ne_true hclaimed

end

/-! ### A lock whose answer is lost -/

/-- The answer to the change is lost and the read fails; three minutes later another execution finds
the domain locked. -/
def loseLock : List (Move liveRegistrar) :=
  [.advance 0 {}, .advance 0 {}, .advance 0 {}, .call .execute lockRequest, .advance 1 {},
    .advance 1 {}, .advance 1 (lockedIs true), .advance 1 {}, .advance 1 (lockedIs true),
    .advance 1 {}, .advance 1 {}]

def lostLockConfig : Config liveRegistrar :=
  after ⟨(managedDomain, []), []⟩ (sendLock ++ loseLock) (by decide +kernel)

/-- The second execution has confirmed the change that the first one sent. -/
theorem lock_sent_once : (lostLockConfig.shared.1.domainActions.get? 0).map state =
      some .succeeded ∧
    RegistrarEvent.mutationSent 0 ∈ lostLockConfig.shared.2 ∧
    lostLockConfig.shared.2.count (.mutationSent 0) ≤ 1 := by
  refine ⟨by decide +kernel, by decide +kernel, ?_⟩
  exact (domain_mutation_sent_once managedDomain_fresh
    (reaches_anyStep_of_run (run_eq_after (show (run
      ⟨(managedDomain, []), []⟩ (sendLock ++ loseLock)).isSome = true by decide +kernel))) 0).1

end WebhostBilling
