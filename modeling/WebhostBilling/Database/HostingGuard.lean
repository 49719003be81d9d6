import Mathlib.Tactic.MkIffOfInductiveProp
import WebhostBilling.Database.Schema

/-!
# Writing services and panel operations

A service that is active, suspended or terminated has an account, and every decided status has its
evidence.  A panel operation keeps the evidence of its status, so that a completed operation cannot
be completed in another way: the columns of the first completion stay and contradict the second.
-/

namespace WebhostBilling

open Store

def truthy (text : Option String) : Bool := text.any (· ≠ "")

/-- The checks of the table `services` on the columns a transition writes. -/
@[mk_iff]
structure Service.Checked (service : Service) : Prop where
  activeIdentity : service.status = .active ∨ service.status = .suspended ∨
    service.status = .terminated → service.externalAccountId.isSome ∧
      service.controlPanelUsername.isSome
  suspensionMetadata : service.status = .suspended →
    service.suspendedAt.isSome ∧ service.suspensionReason.isSome
  failureMetadata : service.status = .provisionFailed →
    service.provisioningFailureReason.isSome
  cancellationMetadata : service.status = .cancelled →
    service.cancelledAt.isSome ∧ service.cancellationReason.isSome
  terminationMetadata : service.status = .terminated →
    service.terminatedAt.isSome ∧ service.terminationReason.isSome ∧
      service.terminatedByUserId.isSome

instance (service : Service) : Decidable service.Checked :=
  decidable_of_iff' _ (Service.checked_iff _)

namespace HostingPanelOperation

/-- `hosting_panel_operations_status_evidence_check`. -/
def StatusEvidence (op : HostingPanelOperation) : Prop :=
  match op.status with
  | .running => op.completedAt = none ∧ op.retryable = false ∧ op.errorKind = none ∧
      op.errorCode = none ∧ op.errorMessage = none
  | .succeeded => op.completedAt.isSome ∧ op.retryable = false ∧ op.errorKind = none ∧
      op.errorCode = none ∧ op.errorMessage = none
  | .failed => op.completedAt.isSome ∧
      (op.errorKind = some .temporary ∨ op.errorKind = some .permanent) ∧ op.errorCode.isSome ∧
      op.errorMessage.isSome ∧ (op.retryable = true ↔ op.errorKind = some .temporary)
  | .inconsistent => op.completedAt.isSome ∧ op.retryable = false ∧
      op.errorKind = some .inconsistent ∧ op.errorCode.isSome ∧ op.errorMessage.isSome

instance (op : HostingPanelOperation) : Decidable op.StatusEvidence := by
  unfold StatusEvidence
  split <;> infer_instance

/-- `hosting_panel_operations_requester_check`. -/
def RequesterKnown (op : HostingPanelOperation) : Prop :=
  (op.requestedByUserId.isSome ∧ op.automationRunId = none) ∨
    (op.requestedByUserId = none ∧ op.automationRunId.isSome)
deriving Decidable

end HostingPanelOperation

namespace Database

variable (db : Database)

/-- Write one service, whose external account no other service of its server has
(`services_server_external_account_key`). -/
def updateService (id : RowId) (f : Service → Service) : Except Failure Database := do
  let service ← orThrow (.error "P2025") (db.services.get? id)
  require (f service).Checked .checkConstraint
  require ((f service).externalAccountId.isSome → db.services.any (fun j other => j ≠ id ∧
      other.serverId = (f service).serverId ∧
      other.externalAccountId = (f service).externalAccountId) = false)
    .uniqueConstraint
  return { db with services := db.services.update id f }

/-- Insert a service, the only one of its order item (`services_order_item_id_key`). -/
def createService (row : Service) : Except Failure (Database × RowId) := do
  require row.Checked .checkConstraint
  require (row.orderItemId.isSome →
      db.services.any (fun _ service => service.orderItemId = row.orderItemId) = false)
    .uniqueConstraint
  return ({ db with services := db.services.insert row }, db.services.size)

def createOperation (row : HostingPanelOperation) : Except Failure (Database × RowId) := do
  require (0 < row.attemptNumber ∧ row.StatusEvidence ∧ row.RequesterKnown) .checkConstraint
  require (db.operations.any (fun _ op => op.idempotencyKey = row.idempotencyKey) = false)
    .uniqueConstraint
  require (row.retryOfOperationId.isSome →
      db.operations.any (fun _ op => op.retryOfOperationId = row.retryOfOperationId) = false)
    .uniqueConstraint
  return ({ db with operations := db.operations.insert row }, db.operations.size)

def updateOperation (id : RowId) (f : HostingPanelOperation → HostingPanelOperation) :
    Except Failure Database := do
  let op ← orThrow (.error "P2025") (db.operations.get? id)
  require ((f op).StatusEvidence ∧ (f op).RequesterKnown) .checkConstraint
  return { db with operations := db.operations.update id f }

def updateRunningOperation (id : RowId) (f : HostingPanelOperation → HostingPanelOperation) :
    Except Failure Database :=
  match db.operations.get? id with
  | some op => if op.status = .running then db.updateOperation id f else .ok db
  | none => .ok db

/-! ## What a write does -/

variable {db' : Database} {id : RowId}

theorem updateService_eq_ok {f : Service → Service} (h : db.updateService id f = .ok db') :
    ∃ service, db.services.get? id = some service ∧ (f service).Checked ∧
      db' = { db with services := db.services.update id f } := by
  simp only [updateService, eq_ok] at h
  obtain ⟨service, hservice, hchecked, -, rfl⟩ := h
  exact ⟨service, hservice, hchecked, rfl⟩

variable {out : Database × RowId} {f : HostingPanelOperation → HostingPanelOperation}

theorem createService_eq_ok {row : Service} (h : db.createService row = .ok out) :
    (row.orderItemId.isSome → ∀ id service, db.services.get? id = some service →
      service.orderItemId ≠ row.orderItemId) ∧
      out = ({ db with services := db.services.insert row }, db.services.size) := by
  simp only [createService, eq_ok, Table.any_eq_false, decide_eq_false_iff_not] at h
  exact ⟨h.2.1, h.2.2.symm⟩

theorem createOperation_eq_ok {row : HostingPanelOperation} :
    db.createOperation row = .ok out ↔
      (0 < row.attemptNumber ∧ row.StatusEvidence ∧ row.RequesterKnown) ∧
      (∀ id op, db.operations.get? id = some op → op.idempotencyKey ≠ row.idempotencyKey) ∧
      (row.retryOfOperationId.isSome → ∀ id op, db.operations.get? id = some op →
        op.retryOfOperationId ≠ row.retryOfOperationId) ∧
      out = ({ db with operations := db.operations.insert row }, db.operations.size) := by
  simp only [createOperation, eq_ok, Table.any_eq_false, decide_eq_false_iff_not, ne_eq,
    eq_comm (a := out)]

theorem updateOperation_eq_ok (h : db.updateOperation id f = .ok db') :
    ∃ op, db.operations.get? id = some op ∧ (f op).StatusEvidence ∧
      db' = { db with operations := db.operations.update id f } := by
  simp only [updateOperation, eq_ok] at h
  obtain ⟨op, hop, hevidence, rfl⟩ := h
  exact ⟨op, hop, hevidence.1, rfl⟩

theorem updateRunningOperation_eq_ok (h : db.updateRunningOperation id f = .ok db') :
    db' = db ∨ ∃ op, db.operations.get? id = some op ∧ op.status = .running ∧
      (f op).StatusEvidence ∧ db' = { db with operations := db.operations.update id f } := by
  rw [updateRunningOperation] at h
  split at h
  · rename_i op hop
    split at h
    · rename_i hrunning
      obtain ⟨op', hop', hevidence, rfl⟩ := db.updateOperation_eq_ok h
      obtain rfl := Option.mem_unique hop hop'
      exact .inr ⟨op, hop, hrunning, hevidence, rfl⟩
    · exact .inl (Except.ok.inj h).symm
  · exact .inl (Except.ok.inj h).symm

end Database

end WebhostBilling
