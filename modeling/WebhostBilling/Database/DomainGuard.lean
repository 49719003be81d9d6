import Mathlib.Tactic.MkIffOfInductiveProp
import WebhostBilling.Database.Schema

/-!
# Writing domains, registrations and domain actions

What was approved of a registration stays as it was approved, and its claim as it was made.  A
domain keeps its identity, and gets the account that its approved registration selected.  A domain
action keeps its request, claims and verified contact, and one that is over is never written again.

The part of `domain_integrity` that compares a domain with its invoice lines is left out: none of
the columns it compares is ever written.
-/

namespace WebhostBilling

open Store

/-! ## Registrations -/

@[mk_iff]
structure RegistrarOperation.SameApproval (operation operation' : RegistrarOperation) : Prop where
  domainId : operation'.domainId = operation.domainId
  accountId : operation'.accountId = operation.accountId
  credentialId : operation'.credentialId = operation.credentialId
  selectedAccountId : operation'.selectedAccountId = operation.selectedAccountId
  selectedCredentialId : operation'.selectedCredentialId = operation.selectedCredentialId
  actorUserId : operation'.actorUserId = operation.actorUserId
  costCeiling : operation'.costCeiling = operation.costCeiling
  priceChangeRiskAccepted :
    operation'.priceChangeRiskAccepted = operation.priceChangeRiskAccepted

/-- What an update of a registration may do. -/
@[mk_iff]
structure RegistrarOperation.Moves (operation operation' : RegistrarOperation) : Prop where
  approval : operation.SameApproval operation'
  claim : operation.claimedAt.isSome → operation'.claimedAt = operation.claimedAt
  polls : operation.pollCount ≤ operation'.pollCount

namespace RegistrarOperation

instance (operation operation' : RegistrarOperation) :
    Decidable (operation.SameApproval operation') :=
  decidable_of_iff' _ (RegistrarOperation.sameApproval_iff _ _)

instance (operation operation' : RegistrarOperation) : Decidable (operation.Moves operation') :=
  decidable_of_iff' _ (RegistrarOperation.moves_iff _ _)

theorem SameApproval.refl (operation : RegistrarOperation) : operation.SameApproval operation :=
  ⟨rfl, rfl, rfl, rfl, rfl, rfl, rfl, rfl⟩

theorem SameApproval.effectiveAccount {a b : RegistrarOperation} (h : a.SameApproval b) :
    b.effectiveAccount = a.effectiveAccount := by
  rw [RegistrarOperation.effectiveAccount, RegistrarOperation.effectiveAccount,
    h.selectedAccountId, h.accountId]

theorem Moves.refl (operation : RegistrarOperation) : operation.Moves operation :=
  ⟨.refl operation, fun _ => rfl, Nat.le_refl _⟩

end RegistrarOperation

/-! ## Domain actions -/

/-- The checks of the table `domain_actions` on the columns of one row. -/
@[mk_iff]
structure DomainAction.Checked (action : DomainAction) : Prop where
  invoice : action.request.kind = .renew ↔ action.invoiceId.isSome
  cancelled : action.state = .cancelled → action.claimedAt = none
  failed : action.state = .failed → action.submittedAt = none ∧ action.contactClaimedAt = none
  submitted : action.submittedAt.isSome → action.claimedAt.isSome
  contactClaimed : action.contactClaimedAt.isSome →
    action.request.kind = .contact ∧ action.claimedAt.isSome
  remoteContact : action.remoteContactId.isSome →
    action.request.kind = .contact ∧ action.contactClaimedAt.isSome
  pollCount : action.pollCount ≤ 10

@[mk_iff]
structure DomainAction.SameIntent (action action' : DomainAction) : Prop where
  domainId : action'.domainId = action.domainId
  customerId : action'.customerId = action.customerId
  accountId : action'.accountId = action.accountId
  credentialId : action'.credentialId = action.credentialId
  actorUserId : action'.actorUserId = action.actorUserId
  request : action'.request = action.request
  previousExpiry : action'.previousExpiry = action.previousExpiry
  invoiceId : action'.invoiceId = action.invoiceId

/-- What `domain_action_guard` lets a write to an action do. -/
@[mk_iff]
structure DomainAction.Moves (action action' : DomainAction) : Prop where
  intent : action.SameIntent action'
  claim : action.claimedAt.isSome → action'.claimedAt = action.claimedAt
  contactClaim : action.contactClaimedAt.isSome →
    action'.contactClaimedAt = action.contactClaimedAt
  submission : action.submittedAt.isSome → action'.submittedAt = action.submittedAt
  remoteContact : action.remoteContactId.isSome → action'.remoteContactId = action.remoteContactId
  terminal : action.state.terminal → action' = action
  polls : action.pollCount ≤ action'.pollCount

namespace DomainAction

instance (action : DomainAction) : Decidable action.Checked :=
  decidable_of_iff' _ (DomainAction.checked_iff _)

instance (action action' : DomainAction) : Decidable (action.SameIntent action') :=
  decidable_of_iff' _ (DomainAction.sameIntent_iff _ _)

instance (action action' : DomainAction) : Decidable (action.Moves action') :=
  decidable_of_iff' _ (DomainAction.moves_iff _ _)

theorem SameIntent.refl (action : DomainAction) : action.SameIntent action :=
  ⟨rfl, rfl, rfl, rfl, rfl, rfl, rfl, rfl⟩

theorem SameIntent.trans {a b c : DomainAction} (h : a.SameIntent b) (h' : b.SameIntent c) :
    a.SameIntent c where
  domainId := h'.domainId.trans h.domainId
  customerId := h'.customerId.trans h.customerId
  accountId := h'.accountId.trans h.accountId
  credentialId := h'.credentialId.trans h.credentialId
  actorUserId := h'.actorUserId.trans h.actorUserId
  request := h'.request.trans h.request
  previousExpiry := h'.previousExpiry.trans h.previousExpiry
  invoiceId := h'.invoiceId.trans h.invoiceId

theorem Moves.refl (action : DomainAction) : action.Moves action :=
  ⟨.refl action, fun _ => rfl, fun _ => rfl, fun _ => rfl, fun _ => rfl, fun _ => rfl, Nat.le_refl _⟩

theorem written_trans {α : Type} {a b c : Option α} (h : a.isSome → b = a) (h' : b.isSome → c = b)
    (ha : a.isSome) : c = a := by
  have hb := h ha
  rw [← hb]
  exact h' (hb ▸ ha)

theorem Moves.trans {a b c : DomainAction} (h : a.Moves b) (h' : b.Moves c) : a.Moves c where
  intent := h.intent.trans h'.intent
  claim := written_trans h.claim h'.claim
  contactClaim := written_trans h.contactClaim h'.contactClaim
  submission := written_trans h.submission h'.submission
  remoteContact := written_trans h.remoteContact h'.remoteContact
  terminal hterminal := by
    have hb := h.terminal hterminal
    rw [← hb]
    exact h'.terminal (hb ▸ hterminal)
  polls := Nat.le_trans h.polls h'.polls

end DomainAction

namespace Database

variable (db : Database)

/-! ## Domains -/

/-- `domain_execution_account_guard`: an account is set once, to the one that the unclaimed
registration of the domain selected. -/
def executionAccountGuard (domainId : RowId) (domain domain' : Domain) : Prop :=
  domain'.executionAccountId = domain.executionAccountId ∨
    domain.executionAccountId = none ∧
      db.registrarOperations.any (fun _ operation => operation.domainId = domainId ∧
        operation.selectedAccountId = domain'.executionAccountId ∧
        operation.claimedAt = none) = true
deriving Decidable

/-- The columns of a domain that `domain_integrity` and `existing_domain_link_guard` keep. -/
@[mk_iff]
structure SameDomain (domain domain' : Domain) : Prop where
  quoteId : domain'.quoteId = domain.quoteId
  customerId : domain'.customerId = domain.customerId
  accountId : domain'.accountId = domain.accountId
  invoiceId : domain'.invoiceId = domain.invoiceId
  orderItemId : domain'.orderItemId = domain.orderItemId
  domainName : domain'.domainName = domain.domainName
  origin : domain'.origin = domain.origin
  linkCredentialId : domain'.linkCredentialId = domain.linkCredentialId

instance (domain domain' : Domain) : Decidable (SameDomain domain domain') :=
  decidable_of_iff' _ (sameDomain_iff _ _)

/-- `domain_origin_shape`. -/
def domainShape (domain : Domain) : Prop :=
  match domain.origin with
  | .registration => domain.quoteId.isSome ∧ domain.orderItemId.isSome ∧ domain.invoiceId.isSome ∧
      domain.linkCredentialId = none
  | .existing => domain.quoteId = none ∧ domain.orderItemId = none ∧ domain.invoiceId = none ∧
      domain.linkCredentialId.isSome ∧ domain.state = .registered ∧
      domain.providerOrderId.isSome ∧ domain.expiresAt.isSome ∧
      domain.executionAccountId = some domain.accountId

instance (domain : Domain) : Decidable (domainShape domain) := by
  unfold domainShape
  split <;> infer_instance

/-- No other domain has the same order at the same account
(`domains_actual_account_provider_order_key`). -/
def requireFreeProviderOrder (domainId : RowId) (domain : Domain) : Except Failure Unit :=
  require (domain.providerOrderId.isSome → db.domains.any (fun id other => id ≠ domainId ∧
      other.effectiveAccount = domain.effectiveAccount ∧
      other.providerOrderId = domain.providerOrderId) = false) .uniqueConstraint

def createDomain (row : Domain) : Except Failure (Database × RowId) := do
  require (domainShape row) .checkConstraint
  require (row.origin = .registration → row.executionAccountId = none) .checkConstraint
  require (db.domains.any (fun _ domain => domain.domainName = row.domainName ∨
      row.quoteId.isSome ∧ domain.quoteId = row.quoteId ∨
      row.orderItemId.isSome ∧ domain.orderItemId = row.orderItemId ∨
      row.invoiceId.isSome ∧ domain.invoiceId = row.invoiceId) = false) .uniqueConstraint
  db.requireFreeProviderOrder db.domains.size row
  return ({ db with domains := db.domains.insert row }, db.domains.size)

def updateDomain (id : RowId) (f : Domain → Domain) : Except Failure Database := do
  let domain ← orThrow (.error "P2025") (db.domains.get? id)
  require (SameDomain domain (f domain) ∧ domainShape (f domain) ∧
      db.executionAccountGuard id domain (f domain)) .checkConstraint
  db.requireFreeProviderOrder id (f domain)
  return { db with domains := db.domains.update id f }

/-! ## Registrations -/

/-- `registrar_selection_guard`: the account that is selected is one that the quote names, and a
quote that names accounts needs one of them to be selected. -/
def registrarSelectionGuard (row : RegistrarOperation) : Prop :=
  match ((db.domains.get? row.domainId).bind Domain.quoteId).bind db.domainQuotes.get? with
  | none => row.selectedAccountId = none
  | some quote =>
    match quote.eligibleRegistrars, row.selectedAccountId with
    | none, selected => selected = none
    | some _, none => False
    | some eligible, some selected => selected ∈ eligible

instance (row : RegistrarOperation) : Decidable (db.registrarSelectionGuard row) := by
  unfold registrarSelectionGuard
  split
  · infer_instance
  · split <;> infer_instance

/-- `registrar_live_operation_guard`: a live registration needs the risk of another price to be
accepted. -/
def liveOperationGuard (row : RegistrarOperation) : Prop :=
  (db.registrarAccounts.get? row.accountId).any (·.mode = .live) → row.priceChangeRiskAccepted = true
deriving Decidable

def createRegistrarOperation (row : RegistrarOperation) : Except Failure (Database × RowId) := do
  require (0 < row.costCeiling ∧ row.pollCount ≤ 10 ∧
      (row.selectedAccountId.isSome ↔ row.selectedCredentialId.isSome)) .checkConstraint
  require ((db.domains.get? row.domainId).any (·.origin = .registration)) .checkConstraint
  require (db.registrarSelectionGuard row ∧ db.liveOperationGuard row) .checkConstraint
  require (db.registrarOperations.any (fun _ operation => operation.domainId = row.domainId) = false)
    .uniqueConstraint
  return ({ db with registrarOperations := db.registrarOperations.insert row },
    db.registrarOperations.size)

def updateRegistrarOperation (id : RowId) (f : RegistrarOperation → RegistrarOperation) :
    Except Failure Database := do
  let operation ← orThrow (.error "P2025") (db.registrarOperations.get? id)
  require (operation.Moves (f operation) ∧ (f operation).pollCount ≤ 10) .checkConstraint
  require (db.registrarSelectionGuard (f operation) ∧ db.liveOperationGuard (f operation))
    .checkConstraint
  return { db with registrarOperations := db.registrarOperations.update id f }

def createRegistrarEvidence (operationId : RowId) (code : RegistrarEvidenceCode) : Database :=
  { db with registrarEvidence := db.registrarEvidence.insert ⟨operationId, code⟩ }

/-! ## Domain actions -/

/-- What `domain_action_guard` and `domain_action_execution_owner_guard` look up elsewhere. -/
@[mk_iff]
structure ActionReferences (row : DomainAction) : Prop where
  credential : (db.registrarCredentials.get? row.credentialId).any (·.accountId = row.accountId)
  live : (db.registrarAccounts.get? row.accountId).any (·.mode = .live)
  invoice : row.request.kind = .renew → (row.invoiceId.bind db.invoices.get?).any fun invoice =>
    invoice.customerId = row.customerId ∧ invoice.currency = "BDT"
  owner : (db.domains.get? row.domainId).any fun domain =>
    domain.customerId = row.customerId ∧ domain.effectiveAccount = row.accountId

instance (row : DomainAction) : Decidable (db.ActionReferences row) :=
  decidable_of_iff' _ (actionReferences_iff _ _)

/-- Insert an action, the only open one of its domain (`domain_actions_one_open`); an existing
domain is not renewed (`existing_domain_renewal_guard`). -/
def createDomainAction (row : DomainAction) : Except Failure (Database × RowId) := do
  require (row.Checked ∧ db.ActionReferences row) .checkConstraint
  require (row.request.kind = .renew →
    (db.domains.get? row.domainId).any (·.origin = .registration)) .checkConstraint
  require (¬ row.state.terminal → db.domainActions.any (fun _ action =>
      action.domainId = row.domainId ∧ ¬ action.state.terminal) = false) .uniqueConstraint
  return ({ db with domainActions := db.domainActions.insert row }, db.domainActions.size)

def updateDomainAction (id : RowId) (f : DomainAction → DomainAction) : Except Failure Database := do
  let action ← orThrow (.error "P2025") (db.domainActions.get? id)
  require (action.Moves (f action) ∧ (f action).Checked ∧ db.ActionReferences (f action))
    .checkConstraint
  return { db with domainActions := db.domainActions.update id f }

/-- Write one action that satisfies `p`; the number of actions that were written. -/
def updateDomainActionWhere (id : RowId) (p : DomainAction → Prop) [DecidablePred p]
    (f : DomainAction → DomainAction) : Except Failure (Database × ℕ) :=
  match db.domainActions.get? id with
  | some action =>
    if p action then do
      let db ← db.updateDomainAction id f
      return (db, 1)
    else .ok (db, 0)
  | none => .ok (db, 0)

/-! ## What a write does -/

variable {db' : Database} {out : Database × RowId} {id : RowId}

theorem createDomain_eq_ok {row : Domain} (h : db.createDomain row = .ok out) :
    domainShape row ∧ (∀ id domain, db.domains.get? id = some domain →
        domain.domainName ≠ row.domainName) ∧
      out = ({ db with domains := db.domains.insert row }, db.domains.size) := by
  simp only [createDomain, requireFreeProviderOrder, eq_ok, Table.any_eq_false,
    decide_eq_false_iff_not, not_or] at h
  obtain ⟨hshape, -, hfree, -, rfl⟩ := h
  exact ⟨hshape, fun id domain hdomain => (hfree id domain hdomain).1, rfl⟩

theorem updateDomain_eq_ok {f : Domain → Domain} (h : db.updateDomain id f = .ok db') :
    ∃ domain, db.domains.get? id = some domain ∧ SameDomain domain (f domain) ∧
      domainShape (f domain) ∧ db.executionAccountGuard id domain (f domain) ∧
      db' = { db with domains := db.domains.update id f } := by
  simp only [updateDomain, requireFreeProviderOrder, eq_ok] at h
  obtain ⟨domain, hdomain, ⟨hsame, hshape, hguard⟩, -, rfl⟩ := h
  exact ⟨domain, hdomain, hsame, hshape, hguard, rfl⟩

theorem createRegistrarOperation_eq_ok {row : RegistrarOperation}
    (h : db.createRegistrarOperation row = .ok out) :
    (∀ id operation, db.registrarOperations.get? id = some operation →
        operation.domainId ≠ row.domainId) ∧
      out = ({ db with registrarOperations := db.registrarOperations.insert row },
        db.registrarOperations.size) := by
  simp only [createRegistrarOperation, eq_ok, Table.any_eq_false, decide_eq_false_iff_not] at h
  obtain ⟨-, -, -, hfree, rfl⟩ := h
  exact ⟨hfree, rfl⟩

theorem updateRegistrarOperation_eq_ok {f : RegistrarOperation → RegistrarOperation}
    (h : db.updateRegistrarOperation id f = .ok db') :
    ∃ operation, db.registrarOperations.get? id = some operation ∧ operation.Moves (f operation) ∧
      db' = { db with registrarOperations := db.registrarOperations.update id f } := by
  simp only [updateRegistrarOperation, eq_ok] at h
  obtain ⟨operation, hoperation, ⟨hmoves, -⟩, -, rfl⟩ := h
  exact ⟨operation, hoperation, hmoves, rfl⟩

theorem createDomainAction_eq_ok {row : DomainAction} (h : db.createDomainAction row = .ok out) :
    row.Checked ∧ out = ({ db with domainActions := db.domainActions.insert row },
      db.domainActions.size) := by
  simp only [createDomainAction, eq_ok] at h
  obtain ⟨⟨hchecked, -⟩, -, -, rfl⟩ := h
  exact ⟨hchecked, rfl⟩

variable {f : DomainAction → DomainAction}

theorem updateDomainAction_eq_ok (h : db.updateDomainAction id f = .ok db') :
    ∃ action, db.domainActions.get? id = some action ∧ action.Moves (f action) ∧
      (f action).Checked ∧ db' = { db with domainActions := db.domainActions.update id f } := by
  simp only [updateDomainAction, eq_ok] at h
  obtain ⟨action, haction, ⟨hmoves, hchecked, -⟩, rfl⟩ := h
  exact ⟨action, haction, hmoves, hchecked, rfl⟩

/-- A conditional write leaves the database as it was, or writes one action that satisfies `p`. -/
theorem updateDomainActionWhere_eq_ok {p : DomainAction → Prop} [DecidablePred p] {count : ℕ}
    (h : db.updateDomainActionWhere id p f = .ok (db', count)) :
    (count = 0 ∧ db' = db) ∨ (count = 1 ∧ ∃ action, db.domainActions.get? id = some action ∧
      p action ∧ action.Moves (f action) ∧ (f action).Checked ∧
      db' = { db with domainActions := db.domainActions.update id f }) := by
  rw [updateDomainActionWhere] at h
  split at h
  · rename_i action haction
    split at h
    · rename_i hp
      simp only [eq_ok] at h
      obtain ⟨db₁, hwrite, rfl, rfl⟩ := h
      obtain ⟨action', haction', hmoves, hchecked, rfl⟩ := db.updateDomainAction_eq_ok hwrite
      obtain rfl := Option.mem_unique haction haction'
      exact .inr ⟨rfl, action, haction, hp, hmoves, hchecked, rfl⟩
    · obtain ⟨rfl, rfl⟩ := Prod.mk.inj (Except.ok.inj h)
      exact .inl ⟨rfl, rfl⟩
  · obtain ⟨rfl, rfl⟩ := Prod.mk.inj (Except.ok.inj h)
    exact .inl ⟨rfl, rfl⟩

end Database

end WebhostBilling
