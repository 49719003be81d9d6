import WebhostBilling.Registrar.RegistrarOperations

/-!
# One outstanding mutation per account

A registration and a domain action are claimed by two services that know each other only by their
tables.  Each claim looks for anything unresolved at the account, in both tables, and nothing else
makes a mutation unresolved (`unresolved_cases`).
-/

namespace WebhostBilling

open Store Store.Table Concurrency Config RegistrarProcessor DomainService DomainLifecycleService

/-! ## Unresolved mutations -/

inductive RegistrarMutation
  | registration (operationId : RowId)
  | action (actionId : RowId)

def Unresolved (db : Database) (accountId : RowId) : RegistrarMutation → Prop
  | .registration id => ∃ operation domain, db.registrarOperations.get? id = some operation ∧
      operation.claimedAt.isSome ∧ operation.effectiveAccount = accountId ∧
      db.domains.get? operation.domainId = some domain ∧ ¬ domain.state.resolved
  | .action id => ∃ action, db.domainActions.get? id = some action ∧ action.claimedAt.isSome ∧
      action.accountId = accountId ∧ ¬ action.state.terminal

/-- Each registration has a domain of its own. -/
structure RegistrationsSound (db : Database) : Prop where
  domain : ∀ id operation, db.registrarOperations.get? id = some operation →
    (db.domains.get? operation.domainId).isSome
  unique : ∀ i j a b, db.registrarOperations.get? i = some a →
    db.registrarOperations.get? j = some b → a.domainId = b.domainId → i = j

/-- Nothing has been claimed yet. -/
structure NothingClaimed (db : Database) : Prop where
  operations : ∀ id operation, db.registrarOperations.get? id = some operation →
    operation.claimedAt = none
  actions : ∀ id action, db.domainActions.get? id = some action → action.claimedAt = none

theorem NothingClaimed.not_unresolved {db : Database} (h : NothingClaimed db) (accountId : RowId)
    (m : RegistrarMutation) : ¬ Unresolved db accountId m := by
  cases m with
  | registration id =>
    rintro ⟨operation, domain, hoperation, hclaimed, -⟩
    rw [h.operations id operation hoperation] at hclaimed
    exact Bool.false_ne_true hclaimed
  | action id =>
    rintro ⟨action, haction, hclaimed, -⟩
    rw [h.actions id action haction] at hclaimed
    exact Bool.false_ne_true hclaimed

theorem not_unresolved_of_outstanding {db : Database} {accountId : RowId} {except : Option RowId}
    {except' : Option RowId} (hactions : db.actionOutstanding accountId except = false)
    (hregistrations : db.registrationOutstanding accountId except' = false)
    {m : RegistrarMutation} (h : Unresolved db accountId m) :
    (∃ id, m = .action id ∧ some id = except) ∨ ∃ id, m = .registration id ∧ some id = except' := by
  cases m with
  | registration id =>
    obtain ⟨operation, domain, hoperation, hclaimed, haccount, hdomain, hunresolved⟩ := h
    refine .inr ⟨id, rfl, ?_⟩
    by_contra hne
    have hnone := any_eq_false.1 hregistrations id operation hoperation
    rw [decide_eq_false_iff_not] at hnone
    refine hnone ⟨hne, hclaimed, haccount, ?_⟩
    rw [hdomain, Option.any_some, decide_eq_true_eq]
    exact hunresolved
  | action id =>
    obtain ⟨action, haction, hclaimed, haccount, hopen⟩ := h
    refine .inl ⟨id, rfl, ?_⟩
    by_contra hne
    have hnone := any_eq_false.1 hactions id action haction
    rw [decide_eq_false_iff_not] at hnone
    exact hnone ⟨hne, haccount, hclaimed, hopen⟩

section

variable {settings : RegistrarSettings} {w : World} {db db' : Database} {kind : RegistrarKind}
  {l : (registrarOperations settings kind).Local}

/-! ## The keys of the registrations -/

variable {operation : RegistrarOperation} {id : RowId}

theorem RegistrarWrites.domain_isSome (h : RegistrarWrites settings w db kind l db')
    (hid : (db.domains.get? id).isSome) : (db'.domains.get? id).isSome := by
  obtain ⟨domain, hdomain⟩ := Option.isSome_iff_exists.1 hid
  have hupdate (i : RowId) (f : Domain → Domain) : ((db.domains.update i f).get? id).isSome := by
    rw [get?_update, hdomain]
    split <;> rfl
  cases h with
  | quiet hdomains _ htables =>
    rw [htables.domains]
    rcases hdomains with hsame | ⟨entry, -, hupdated⟩
    · rw [hsame]
      exact hid
    · rw [hupdated]
      exact hupdate _ _
  | domainCreated _ htables =>
    rw [htables.domains, get?_insert_of_some hdomain]
    rfl
  | approved _ happroved =>
    rw [happroved.domains]
    exact hupdate _ _
  | returned _ _ htables | claimed _ _ _ _ _ _ _ htables | recorded _ _ _ htables
  | succeeded _ _ _ htables =>
    rw [htables.domains]
    exact hupdate _ _
  | polled _ _ htables | actionCreated _ _ _ _ htables | actionClaimed _ _ _ _ _ _ _ _ htables
  | contactStored _ _ _ htables | contactRecovered _ _ _ htables =>
    rw [htables.domains]
    exact hid

theorem RegistrarWrites.new_operation (h : RegistrarWrites settings w db kind l db')
    (hnone : db.registrarOperations.get? id = none)
    (hoperation : db'.registrarOperations.get? id = some operation) :
    id = db.registrarOperations.size ∧ operation.claimedAt = none ∧
      (db.domains.get? operation.domainId).isSome ∧ ∀ i other,
        db.registrarOperations.get? i = some other → other.domainId ≠ operation.domainId := by
  have hupdate {i : RowId} {f : RegistrarOperation → RegistrarOperation}
      (hops : db'.registrarOperations = db.registrarOperations.update i f) : False := by
    rw [hops, get?_update, hnone] at hoperation
    split at hoperation <;> cases hoperation
  cases h with
  | approved _ happroved =>
    rcases happroved.operations with ⟨-, hsame⟩ | ⟨-, hfree, hinsert⟩
    · rw [hsame, hnone] at hoperation
      cases hoperation
    · rw [hinsert] at hoperation
      rcases get?_insert_cases hoperation with ⟨hid, rfl⟩ | hold
      · refine ⟨hid, happroved.unclaimed, ?_, hfree⟩
        rw [happroved.domainId]
        exact happroved.domain
      · rw [hnone] at hold
        cases hold
  | quiet _ _ htables | domainCreated _ htables | returned _ _ htables
  | actionCreated _ _ _ _ htables | actionClaimed _ _ _ _ _ _ _ _ htables
  | contactStored _ _ _ htables | contactRecovered _ _ _ htables | succeeded _ _ _ htables =>
    rw [htables.operations, hnone] at hoperation
    cases hoperation
  | polled _ _ htables | claimed _ _ _ _ _ _ _ htables | recorded _ _ _ htables =>
    exact (hupdate htables.operations).elim

theorem RegistrarWrites.operation_cases (h : RegistrarWrites settings w db kind l db')
    (hoperation : db'.registrarOperations.get? id = some operation) :
    (∃ before, db.registrarOperations.get? id = some before ∧ before.Moves operation) ∨
      db.registrarOperations.get? id = none := by
  cases hbefore : db.registrarOperations.get? id with
  | none => exact .inr rfl
  | some before =>
    obtain ⟨after, hafter, hmoves⟩ := h.operations_grow id before hbefore
    rw [hoperation, Option.some.injEq] at hafter
    exact .inl ⟨before, rfl, hafter ▸ hmoves⟩

theorem RegistrationsSound.step (hs : RegistrationsSound db)
    (h : RegistrarWrites settings w db kind l db') : RegistrationsSound db' where
  domain id operation hoperation := by
    refine h.domain_isSome ?_
    rcases h.operation_cases hoperation with ⟨before, hbefore, hmoves⟩ | hnone
    · rw [hmoves.approval.domainId]
      exact hs.domain id before hbefore
    · exact (h.new_operation hnone hoperation).2.2.1
  unique i j a b ha hb hsame := by
    rcases h.operation_cases ha with ⟨a₀, ha₀, hma⟩ | hanone
    · rcases h.operation_cases hb with ⟨b₀, hb₀, hmb⟩ | hbnone
      · refine hs.unique i j a₀ b₀ ha₀ hb₀ ?_
        rw [← hma.approval.domainId, ← hmb.approval.domainId, hsame]
      · refine absurd ?_ ((h.new_operation hbnone hb).2.2.2 i a₀ ha₀)
        rw [← hma.approval.domainId, hsame]
    · rcases h.operation_cases hb with ⟨b₀, hb₀, hmb⟩ | hbnone
      · refine absurd ?_ ((h.new_operation hanone ha).2.2.2 j b₀ hb₀)
        rw [← hmb.approval.domainId, hsame]
      · -- At most one row is inserted in a step.
        rw [(h.new_operation hanone ha).1, (h.new_operation hbnone hb).1]

/-! ## What becomes unresolved -/

def DomainsStay (db : Database) (domains : Table Domain) : Prop :=
  ∀ id operation, db.registrarOperations.get? id = some operation → operation.claimedAt.isSome →
    ∀ domain, domains.get? operation.domainId = some domain → ¬ domain.state.resolved →
      ∃ before, db.domains.get? operation.domainId = some before ∧ ¬ before.state.resolved

theorem domainsStay_refl : DomainsStay db db.domains :=
  fun _ _ _ _ domain hdomain hunresolved => ⟨domain, hdomain, hunresolved⟩

theorem domainsStay_update {domainId : RowId} {f : Domain → Domain}
    (h : ∀ id operation, db.registrarOperations.get? id = some operation →
      operation.claimedAt.isSome → operation.domainId = domainId →
        ∀ before, db.domains.get? domainId = some before → ¬ (f before).state.resolved →
          ¬ before.state.resolved) : DomainsStay db (db.domains.update domainId f) := by
  intro id operation hoperation hclaimed domain hdomain hunresolved
  rcases get?_update_cases hdomain with ⟨hid, before, hbefore, rfl⟩ | ⟨-, hdomain⟩
  · rw [← hid]
    exact ⟨before, hbefore, h id operation hoperation hclaimed hid.symm before hbefore hunresolved⟩
  · exact ⟨domain, hdomain, hunresolved⟩

theorem domainsStay_kept {answer : Option (RowId × ResellbizManagedState)}
    {domains : Table Domain} (h : DomainsKept answer db.domains domains) :
    DomainsStay db domains := by
  rcases h with rfl | ⟨entry, -, rfl⟩
  · exact domainsStay_refl
  · exact domainsStay_update fun _ _ _ _ _ before _ hunresolved => hunresolved

theorem domainsStay_insert (hs : RegistrationsSound db) (row : Domain) :
    DomainsStay db (db.domains.insert row) := by
  intro id operation hoperation _ domain hdomain hunresolved
  obtain ⟨before, hbefore⟩ := Option.isSome_iff_exists.1 (hs.domain id operation hoperation)
  obtain rfl := Option.mem_unique (get?_insert_of_some hbefore) hdomain
  exact ⟨before, hbefore, hunresolved⟩

theorem domainsStay_unclaimed (hs : RegistrationsSound db)
    (hoperation : db.registrarOperations.get? id = some operation)
    (hunclaimed : operation.claimedAt = none) (f : Domain → Domain) :
    DomainsStay db (db.domains.update operation.domainId f) := by
  refine domainsStay_update fun i other hother hclaimed hsame => ?_
  have hi : i = id := hs.unique i id other operation hother hoperation hsame
  rw [hi, hoperation, Option.some.injEq] at hother
  rw [← hother, hunclaimed] at hclaimed
  exact absurd hclaimed Bool.false_ne_true

variable {accountId i : RowId} {action : DomainAction}

theorem unresolved_registration
    (hoperation : ∀ operation, db'.registrarOperations.get? id = some operation →
      operation.claimedAt.isSome → ∃ before, db.registrarOperations.get? id = some before ∧
        before.claimedAt.isSome ∧ before.SameApproval operation)
    (hdomains : DomainsStay db db'.domains) (h : Unresolved db' accountId (.registration id)) :
    Unresolved db accountId (.registration id) := by
  obtain ⟨operation, domain, hop, hclaimed, haccount, hdomain, hunresolved⟩ := h
  obtain ⟨before, hbefore, hwas, hsame⟩ := hoperation operation hop hclaimed
  rw [hsame.domainId] at hdomain
  obtain ⟨domain', hdomain', hunresolved'⟩ :=
    hdomains id before hbefore hwas domain hdomain hunresolved
  refine ⟨before, domain', hbefore, hwas, ?_, hdomain', hunresolved'⟩
  rw [← hsame.effectiveAccount]
  exact haccount

theorem unresolved_action {f : DomainAction → DomainAction}
    (haction : db.domainActions.get? i = some action) (hmoves : action.Moves (f action))
    (hclaim : (f action).claimedAt = action.claimedAt)
    (hactions : db'.domainActions = db.domainActions.update i f)
    (h : Unresolved db' accountId (.action id)) : Unresolved db accountId (.action id) := by
  obtain ⟨row, hrow, hclaimed, haccount, hopen⟩ := h
  rw [hactions] at hrow
  rcases get?_update_cases hrow with ⟨rfl, before, hbefore, rfl⟩ | ⟨-, hrow⟩
  · obtain rfl := Option.mem_unique haction hbefore
    rw [hclaim] at hclaimed
    rw [hmoves.intent.accountId] at haccount
    refine ⟨action, haction, hclaimed, haccount, fun hterminal => hopen ?_⟩
    rw [hmoves.terminal hterminal]
    exact hterminal
  · exact ⟨row, hrow, hclaimed, haccount, hopen⟩

/-- A step makes no mutation unresolved, or one, at an account that had none. -/
def AtMostOneClaimed (db db' : Database) : Prop :=
  (∀ accountId m, Unresolved db' accountId m → Unresolved db accountId m) ∨
    ∃ account claimed, (∀ m, ¬ Unresolved db account m) ∧ ∀ accountId m,
      Unresolved db' accountId m → Unresolved db accountId m ∨ accountId = account ∧ m = claimed

theorem unresolved_of_registrations_same
    (hops : db'.registrarOperations = db.registrarOperations)
    (hdomains : DomainsStay db db'.domains)
    (hactions : ∀ accountId id, Unresolved db' accountId (.action id) →
      Unresolved db accountId (.action id)) : AtMostOneClaimed db db' := by
  refine .inl fun accountId m hm => ?_
  cases m with
  | registration id =>
    refine unresolved_registration (fun operation hop hclaimed => ?_) hdomains hm
    rw [hops] at hop
    exact ⟨operation, hop, hclaimed, .refl operation⟩
  | action id => exact hactions accountId id hm

theorem unresolved_of_registration_updated {f : RegistrarOperation → RegistrarOperation}
    (hops : db'.registrarOperations = db.registrarOperations.update i f)
    (hf : ∀ operation, db.registrarOperations.get? i = some operation →
      (f operation).claimedAt = operation.claimedAt ∧ operation.SameApproval (f operation))
    (hdomains : DomainsStay db db'.domains) (hactions : db'.domainActions = db.domainActions) :
    AtMostOneClaimed db db' := by
  refine .inl fun accountId m hm => ?_
  cases m with
  | registration id =>
    refine unresolved_registration (fun operation hop hclaimed => ?_) hdomains hm
    rw [hops] at hop
    rcases get?_update_cases hop with ⟨rfl, before, hbefore, rfl⟩ | ⟨-, hop⟩
    · obtain ⟨hclaim, hsame⟩ := hf before hbefore
      exact ⟨before, hbefore, hclaim ▸ hclaimed, hsame⟩
    · exact ⟨operation, hop, hclaimed, .refl operation⟩
  | action id =>
    obtain ⟨row, hrow, h⟩ := hm
    exact ⟨row, hactions ▸ hrow, h⟩

theorem atMostOneClaimed_registration (hs : RegistrationsSound db) {operationId now : ℕ}
    {p : Prepared} (hp : p.Of operationId db) (hunclaimed : p.operation.claimedAt = none)
    (hactions : db.actionOutstanding p.operation.effectiveAccount none = false)
    (hregistrations :
      db.registrationOutstanding p.operation.effectiveAccount (some operationId) = false)
    (htables : RegistrarTables db'
      (db.domains.update p.operation.domainId (inState .needsReconciliation))
      (db.registrarOperations.update operationId (reservePoll (some now) now)) db.domainActions) :
    AtMostOneClaimed db db' := by
  refine .inr ⟨p.operation.effectiveAccount, .registration operationId, ?_, ?_⟩
  · intro m hm
    rcases not_unresolved_of_outstanding hactions hregistrations hm with
      ⟨id, -, hid⟩ | ⟨id, rfl, hid⟩
    · cases hid
    · cases hid
      obtain ⟨operation, -, hoperation, hclaimed, -⟩ := hm
      rw [hp.operation, Option.some.injEq] at hoperation
      rw [← hoperation, hunclaimed] at hclaimed
      exact Bool.false_ne_true hclaimed
  · intro accountId m hm
    cases m with
    | registration id =>
      by_cases hid : id = operationId
      · subst hid
        obtain ⟨operation, -, hoperation, -, haccount, -⟩ := hm
        rw [htables.operations, get?_update_self hp.operation, Option.some.injEq]
          at hoperation
        rw [← hoperation] at haccount
        exact .inr ⟨haccount.symm, rfl⟩
      · refine .inl (unresolved_registration (fun operation hoperation hclaimed => ?_) ?_ hm)
        · rw [htables.operations, get?_update_of_ne (Ne.symm hid)] at hoperation
          exact ⟨operation, hoperation, hclaimed, .refl operation⟩
        · rw [htables.domains]
          exact domainsStay_unclaimed hs hp.operation hunclaimed _
    | action id =>
      obtain ⟨row, hrow, h⟩ := hm
      exact .inl ⟨row, htables.actions ▸ hrow, h⟩

theorem atMostOneClaimed_action {actionId now : ℕ}
    (haction : db.domainActions.get? actionId = some action) (hunclaimed : action.claimedAt = none)
    (hactions : db.actionOutstanding action.accountId (some actionId) = false)
    (hregistrations : db.registrationOutstanding action.accountId none = false)
    (htables : RegistrarTables db' db.domains db.registrarOperations
      (db.domainActions.update actionId (reserve (some now) now))) : AtMostOneClaimed db db' := by
  refine .inr ⟨action.accountId, .action actionId, ?_, ?_⟩
  · intro m hm
    rcases not_unresolved_of_outstanding hactions hregistrations hm with
      ⟨id, rfl, hid⟩ | ⟨id, -, hid⟩
    · cases hid
      obtain ⟨row, hrow, hclaimed, -⟩ := hm
      rw [haction, Option.some.injEq] at hrow
      rw [← hrow, hunclaimed] at hclaimed
      exact Bool.false_ne_true hclaimed
    · cases hid
  · intro accountId m hm
    cases m with
    | registration id =>
      obtain ⟨operation, domain, hoperation, hclaimed, haccount, hdomain, hunresolved⟩ := hm
      rw [htables.operations] at hoperation
      rw [htables.domains] at hdomain
      exact .inl ⟨operation, domain, hoperation, hclaimed, haccount, hdomain, hunresolved⟩
    | action id =>
      obtain ⟨row, hrow, hclaimed, haccount, hopen⟩ := hm
      rw [htables.actions] at hrow
      rcases get?_update_cases hrow with ⟨rfl, before, hbefore, rfl⟩ | ⟨-, hrow⟩
      · obtain rfl := Option.mem_unique haction hbefore
        exact .inr ⟨haccount.symm, rfl⟩
      · exact .inl ⟨row, hrow, hclaimed, haccount, hopen⟩

theorem RegistrarWrites.domainsStay (hs : RegistrationsSound db)
    (h : RegistrarWrites settings w db kind l db') : DomainsStay db db'.domains := by
  cases h with
  | quiet hdomains _ htables =>
    rw [htables.domains]
    exact domainsStay_kept hdomains
  | domainCreated _ htables =>
    rw [htables.domains]
    exact domainsStay_insert hs _
  | approved _ happroved =>
    rw [happroved.domains, ← happroved.domainId]
    rcases happroved.operations with ⟨hget, -⟩ | ⟨-, hfree, -⟩
    · exact domainsStay_unclaimed hs hget happroved.unclaimed _
    · exact domainsStay_update fun i other hother _ hsame => absurd hsame (hfree i other hother)
  | returned hp hunclaimed htables | claimed _ hp hunclaimed _ _ _ _ htables =>
    rw [htables.domains]
    exact domainsStay_unclaimed hs hp.operation hunclaimed _
  | recorded hdomain hunresolved _ htables =>
    rw [htables.domains]
    refine domainsStay_update fun _ _ _ _ _ before hbefore _ => ?_
    rw [hdomain, Option.some.injEq] at hbefore
    rw [← hbefore]
    exact hunresolved
  | succeeded _ _ _ htables =>
    rw [htables.domains]
    exact domainsStay_kept (.inr ⟨(_, _), rfl, rfl⟩)
  | polled _ _ htables | actionCreated _ _ _ _ htables | actionClaimed _ _ _ _ _ _ _ _ htables
  | contactStored _ _ _ htables | contactRecovered _ _ _ htables =>
    rw [htables.domains]
    exact domainsStay_refl

theorem unresolved_cases (hs : RegistrationsSound db)
    (h : RegistrarWrites settings w db kind l db') : AtMostOneClaimed db db' := by
  have hactions (hsame : db'.domainActions = db.domainActions) (accountId id : RowId)
      (hm : Unresolved db' accountId (.action id)) : Unresolved db accountId (.action id) := by
    obtain ⟨row, hrow, hm⟩ := hm
    exact ⟨row, hsame ▸ hrow, hm⟩
  have hstay := h.domainsStay hs
  cases h with
  | quiet _ hmoved htables =>
    refine unresolved_of_registrations_same htables.operations hstay fun accountId id hm => ?_
    rcases hmoved with hsame | ⟨i, action, f, haction, hmove, hupdated⟩
    · exact hactions (htables.actions.trans hsame) accountId id hm
    · exact unresolved_action haction hmove.moves hmove.claim (htables.actions.trans hupdated) hm
  | domainCreated _ htables =>
    exact unresolved_of_registrations_same htables.operations hstay (hactions htables.actions)
  | approved _ happroved =>
    rcases happroved.operations with ⟨-, hsame⟩ | ⟨-, -, hinsert⟩
    · exact unresolved_of_registrations_same hsame hstay (hactions happroved.actions)
    · refine .inl fun accountId m hm => ?_
      cases m with
      | registration id =>
        refine unresolved_registration (fun operation hoperation hclaimed => ?_) hstay hm
        rw [hinsert] at hoperation
        rcases get?_insert_cases hoperation with ⟨-, rfl⟩ | hoperation
        · rw [happroved.unclaimed] at hclaimed
          exact absurd hclaimed Bool.false_ne_true
        · exact ⟨operation, hoperation, hclaimed, .refl operation⟩
      | action id => exact hactions happroved.actions accountId id hm
  | returned _ _ htables =>
    exact unresolved_of_registrations_same htables.operations hstay (hactions htables.actions)
  | polled hp hmoves htables =>
    refine unresolved_of_registration_updated htables.operations (fun operation hoperation => ?_)
      hstay htables.actions
    obtain rfl := Option.mem_unique hp.operation hoperation
    exact ⟨rfl, hmoves.approval⟩
  | claimed _ hp hunclaimed _ hactions hregistrations _ htables =>
    exact atMostOneClaimed_registration hs hp hunclaimed hactions hregistrations htables
  | recorded _ _ _ htables =>
    exact unresolved_of_registration_updated htables.operations
      (fun operation _ => ⟨rfl, ⟨rfl, rfl, rfl, rfl, rfl, rfl, rfl, rfl⟩⟩) hstay htables.actions
  | actionCreated _ hunclaimed _ _ htables =>
    refine unresolved_of_registrations_same htables.operations hstay
      fun accountId id hm => ?_
    obtain ⟨row, hrow, hclaimed, hm⟩ := hm
    rw [htables.actions] at hrow
    rcases get?_insert_cases hrow with ⟨-, rfl⟩ | hrow
    · rw [hunclaimed] at hclaimed
      exact absurd hclaimed Bool.false_ne_true
    · exact ⟨row, hrow, hclaimed, hm⟩
  | actionClaimed _ haction _ hunclaimed hactions hregistrations _ _ htables =>
    exact atMostOneClaimed_action haction hunclaimed hactions hregistrations htables
  | contactStored haction hmoves _ htables | contactRecovered haction hmoves _ htables
  | succeeded haction hmoves _ htables =>
    exact unresolved_of_registrations_same htables.operations hstay
      fun _ _ => unresolved_action haction hmoves rfl htables.actions

/-! ## Runs -/

/-- An account has one unresolved mutation at most. -/
def OneOutstanding (db : Database) : Prop :=
  ∀ accountId m m', Unresolved db accountId m → Unresolved db accountId m' → m = m'

/-- A step that leaves a mutation unresolved which it found otherwise found none at the account. -/
def StartsAlone (db db' : Database) : Prop :=
  ∀ accountId m m', Unresolved db' accountId m → ¬ Unresolved db accountId m →
    ¬ Unresolved db accountId m'

theorem AtMostOneClaimed.startsAlone (h : AtMostOneClaimed db db') : StartsAlone db db' := by
  intro accountId m m' hm hnew hm'
  rcases h with hkept | ⟨account, claimed, hfree, hclaims⟩
  · exact hnew (hkept accountId m hm)
  · rcases hclaims accountId m hm with hold | ⟨rfl, -⟩
    · exact hnew hold
    · exact hfree m' hm'

theorem OneOutstanding.step (h : OneOutstanding db) (hclaims : AtMostOneClaimed db db') :
    OneOutstanding db' := by
  intro accountId m m' hm hm'
  rcases hclaims with hkept | ⟨account, claimed, hfree, hclaims⟩
  · exact h accountId m m' (hkept _ _ hm) (hkept _ _ hm')
  · rcases hclaims accountId m hm with hold | ⟨rfl, rfl⟩
    · rcases hclaims accountId m' hm' with hold' | ⟨rfl, -⟩
      · exact h accountId m m' hold hold'
      · exact absurd hold (hfree m)
    · rcases hclaims accountId m' hm' with hold' | ⟨-, rfl⟩
      · exact absurd hold' (hfree m')
      · rfl

def claimsOutline (settings : RegistrarSettings) : Outline (registrarOperations settings) where
  shared db := RegistrationsSound db ∧ OneOutstanding db

theorem claimsOutline_sound : (claimsOutline settings).Sound anyStep where
  symm _ _ h := h
  call _ _ _ _ := trivial
  call_apart _ _ _ := trivial
  own w db t db' t' _ hs _ hstep := by
    obtain ⟨l, hl, -⟩ := Thread.step_eq_some hstep
    have hwrites := registrarWrites_of_step t.op hl
    exact ⟨⟨hs.1.step hwrites, hs.2.step (unresolved_cases hs.1 hwrites)⟩, trivial⟩
  other _ _ _ _ _ _ _ _ _ _ _ _ := ⟨trivial, trivial⟩

/-- **At most one mutation per registrar account is claimed and unresolved**, in every interleaving
of deliveries, executions, reconciliations and recoveries with everything else that runs, and no
step starts one at an account that has one. -/
theorem one_outstanding_mutation (hsound : RegistrationsSound db) (hnothing : NothingClaimed db)
    {c : Config (registrarOperations settings)}
    (hr : Reaches anyStep ⟨db, []⟩ c) :
    OneOutstanding c.shared ∧
      ∀ c', Config.Step anyStep c c' → StartsAlone c.shared c'.shared := by
  have hone : OneOutstanding db := fun accountId m _ hm _ =>
    absurd hm (hnothing.not_unresolved accountId m)
  have hinit : (claimsOutline settings).shared db := ⟨hsound, hone⟩
  have hshared := (claimsOutline_sound.holds (Outline.holds_idle hinit) hr).shared
  refine ⟨hshared.2, fun c' hstep => ?_⟩
  cases hstep with
  | call op request => exact fun _ _ _ hm hnew _ => hnew hm
  | advance ht _ hs =>
    obtain ⟨l, hl, -⟩ := Thread.step_eq_some hs
    exact (unresolved_cases hshared.1 (registrarWrites_of_step _ hl)).startsAlone

end

/-! ### Two mutations at one account -/

def paidDomain : Database where
  users := ⟨[{ role := .admin, staffRole := some .fullAdministrator, totpEnabledAt := some 0 }]⟩
  customers := ⟨[{ userId := 0, emailVerified := true }]⟩
  registrarAccounts := ⟨[{
    mode := .live, enabled := true, configuration := some (.resellbiz "7" ["ns1.b", "ns2.b"]) }]⟩
  registrarCredentials := ⟨[{ accountId := 0, resellerId := some "7" }]⟩
  orders := ⟨[{ customerId := 0, status := .paid, updatedAt := 0 }]⟩
  orderItems := ⟨[{ orderId := 0, kind := .domain, currency := "BDT" }]⟩
  invoices := ⟨[{
    submissionKey := "d", customerId := 0, status := .paid, currency := "BDT", subtotal := 900
    total := 900, amountPaid := 900, balanceDue := 0, dueAt := 0, updatedAt := 0, items := [] }]⟩
  payments := ⟨[{
    invoiceId := 0, status := .succeeded, provider := "manual", idempotencyKey := "d"
    amount := 900, currency := "BDT", verifiedAt := some 0 }]⟩
  domainQuotes := ⟨[{
    customerId := 0, accountId := 0, domainName := "a.b", costAmount := 10
    agreement := "resellbiz-registration-v1", nameservers := some ["ns1.b", "ns2.b"] }]⟩
  domains := ⟨[{
    customerId := 0, orderItemId := some 0, invoiceId := some 0, quoteId := some 0
    domainName := "a.b" }, {
    customerId := 0, orderItemId := some 1, invoiceId := some 1, state := .registered
    quoteId := some 1, domainName := "c.d", providerOrderId := some "1", expiresAt := some 0 }]⟩
  domainActions := ⟨[{
    domainId := 1, customerId := 0, accountId := 0, credentialId := 0, actorUserId := 0
    request := .lock true, previousExpiry := 0, nextPollAt := 0 }]⟩

theorem paidDomain_sound : RegistrationsSound paidDomain where
  domain _ _ h := absurd h get?_empty_ne
  unique _ _ _ _ h _ _ := absurd h get?_empty_ne

theorem paidDomain_unclaimed : NothingClaimed paidDomain where
  operations _ _ h := absurd h get?_empty_ne
  actions id action h := by
    obtain ⟨-, rfl⟩ := eq_of_get?_singleton h
    decide

def registrationApprover : AuthIdentity where
  userId := 0
  role := .admin
  staffRole := some .fullAdministrator
  twoFactorEnabled := true

def registrationApproval : ApproveRequest where
  domainId := 0
  confirmation := "a.b"
  costCeiling := 12
  acceptPriceChangeRisk := true
  auth := registrationApprover

def nameIsFree : World where
  registrarQuote := .ok ⟨true, 10, "USD", false⟩
  registrarLookup := .ok none
  registrarCall := .ok ()

abbrev liveRegistrarOperations : RegistrarKind → Operation Database World :=
  registrarOperations ⟨false, true⟩

def claimBoth : List (Move liveRegistrarOperations) :=
  [.call .approve registrationApproval, .advance 0 {}, .advance 0 nameIsFree, .advance 0 {},
    .call .process (0 : RowId), .advance 1 {}, .advance 1 {},
    .call .execute (⟨1, 0, "c.d", registrationApprover, false⟩ : ExecuteRequest), .advance 2 {},
    .advance 2 {}, .advance 2 {}]

def busyConfig : Config liveRegistrarOperations :=
  Config.after ⟨paidDomain, []⟩ claimBoth (by decide +kernel)

theorem registration_unresolved : Unresolved busyConfig.shared 0 (.registration 0) := by
  refine ⟨{
    domainId := 0, claimedAt := some 0, nextPollAt := 360000, pollCount := 1, accountId := 0
    credentialId := 0, actorUserId := 0, costCeiling := 12, priceChangeRiskAccepted := true }, {
    customerId := 0, orderItemId := some 0, invoiceId := some 0, quoteId := some 0
    state := .needsReconciliation, domainName := "a.b" }, ?_, rfl, rfl, ?_, ?_⟩
  · decide +kernel
  · decide +kernel
  · decide

/-- Only the registration is unresolved: the lock was not claimed. -/
theorem lock_not_claimed : Unresolved busyConfig.shared 0 (.registration 0) ∧
    ¬ Unresolved busyConfig.shared 0 (.action 0) := by
  refine ⟨registration_unresolved, fun haction => ?_⟩
  have hone := (one_outstanding_mutation paidDomain_sound paidDomain_unclaimed
    (reaches_anyStep_of_run (run_eq_after (show (Config.run
      ⟨paidDomain, []⟩ claimBoth).isSome = true by decide +kernel)))).1
  exact nomatch hone 0 _ _ registration_unresolved haction

end WebhostBilling
