import WebhostBilling.Registrar.RegistrarPreparations

/-!
# What is written to preparations

`Writes` is one write to the table: a row under a new key, or an update that the trigger lets pass.
Of the updates, only a claim makes a customer unrecorded, and it finds no other one of the same
account and customer.
-/

namespace WebhostBilling

open Store Store.Table Json

namespace ResellbizLiveRegistrar

/-! ## One row moves -/

section Settled

variable {α : Type} {a b c : Option α}

theorem Settled.refl (a : Option α) : Settled a a := fun _ => rfl

theorem Settled.isSome (h : Settled a b) (ha : a.isSome = true) : b.isSome = true := by
  rw [h ha]
  exact ha

theorem Settled.trans (hab : Settled a b) (hbc : Settled b c) : Settled a c :=
  fun ha => (hbc (hab.isSome ha)).trans (hab ha)

end Settled

namespace RegistrarPreparation

variable {old new newer : RegistrarPreparation}

theorem Moves.refl (row : RegistrarPreparation) : row.Moves row where
  key := rfl
  operationId := rfl
  customerClaimedAt := .refl _
  remoteCustomerId := .refl _
  contactClaimedAt := .refl _
  remoteContactId := .refl _

theorem Moves.trans (h : old.Moves new) (h' : new.Moves newer) : old.Moves newer where
  key := h'.key.trans h.key
  operationId := h'.operationId.trans h.operationId
  customerClaimedAt := h.customerClaimedAt.trans h'.customerClaimedAt
  remoteCustomerId := h.remoteCustomerId.trans h'.remoteCustomerId
  contactClaimedAt := h.contactClaimedAt.trans h'.contactClaimedAt
  remoteContactId := h.remoteContactId.trans h'.remoteContactId

theorem Moves.claimedAt (h : old.Moves new) {step : CreationStep}
    (hclaimed : (old.claimedAt step).isSome = true) : (new.claimedAt step).isSome = true := by
  cases step with
  | customer => exact h.customerClaimedAt.isSome hclaimed
  | contact => exact h.contactClaimedAt.isSome hclaimed

theorem claimedAt_claimed (step : CreationStep) (now : ℕ) (row : RegistrarPreparation) :
    (row.claimed step now).claimedAt step = some now := by
  cases step <;> rfl

theorem key_claimed (step : CreationStep) (now : ℕ) (row : RegistrarPreparation) :
    (row.claimed step now).toPreparationKey = row.toPreparationKey := by
  cases step <;> rfl

theorem unrecorded_iff {row : RegistrarPreparation} :
    row.unrecorded = true ↔ row.customerClaimedAt.isSome = true ∧ row.remoteCustomerId = none := by
  rw [unrecorded, decide_eq_true_eq]

end RegistrarPreparation

/-! ## The table -/

def RegistrarPreparation.Beside (a b : RegistrarPreparation) : Prop :=
  a.accountId = b.accountId ∧ a.customerId = b.customerId

structure PreparationsSound (t : Table RegistrarPreparation) : Prop where
  unique : ∀ i j a b, t.get? i = some a → t.get? j = some b →
    a.toPreparationKey = b.toPreparationKey → i = j
  /-- One unrecorded customer of an account and a customer. -/
  one : ∀ i j a b, t.get? i = some a → t.get? j = some b → a.Beside b → a.unrecorded = true →
    b.unrecorded = true → i = j

theorem preparationsSound_empty : PreparationsSound ∅ where
  unique _ _ _ _ h := absurd h get?_empty_ne
  one _ _ _ _ h := absurd h get?_empty_ne

inductive Writes (t : Table RegistrarPreparation) : Table RegistrarPreparation → Prop
  | nothing : Writes t t
  | insert {fresh : RegistrarPreparation}
      (hkey : ∀ id row, t.get? id = some row → row.toPreparationKey ≠ fresh.toPreparationKey)
      (hrecorded : fresh.unrecorded = false) : Writes t (t.insert fresh)
  | update {id : RowId} {old : RegistrarPreparation}
      {f : RegistrarPreparation → RegistrarPreparation} (hold : t.get? id = some old)
      (hmoves : old.Moves (f old))
      (hone : (f old).unrecorded = true → old.unrecorded = true ∨
        ∀ i row, t.get? i = some row → i ≠ id → row.Beside old → row.unrecorded = false) :
      Writes t (t.update id f)

section

variable {t t' : Table RegistrarPreparation}

theorem Writes.grows (h : Writes t t') : Table.Grows RegistrarPreparation.Moves t t' := by
  cases h with
  | nothing => exact Grows.refl RegistrarPreparation.Moves.refl t
  | insert _ _ => exact grows_insert RegistrarPreparation.Moves.refl t _
  | update hold hmoves _ =>
    refine grows_update RegistrarPreparation.Moves.refl fun row hrow => ?_
    obtain rfl := Option.mem_unique hold hrow
    exact hmoves

theorem PreparationsSound.insert (hs : PreparationsSound t) {fresh : RegistrarPreparation}
    (hkey : ∀ id row, t.get? id = some row → row.toPreparationKey ≠ fresh.toPreparationKey)
    (hrecorded : fresh.unrecorded = false) : PreparationsSound (t.insert fresh) where
  unique i j a b ha hb hab := by
    rcases get?_insert_cases ha with ⟨rfl, rfl⟩ | hold <;>
      rcases get?_insert_cases hb with ⟨rfl, rfl⟩ | hold'
    · rfl
    · exact absurd hab.symm (hkey j b hold')
    · exact absurd hab (hkey i a hold)
    · exact hs.unique i j a b hold hold' hab
  one i j a b ha hb hbeside hua hub := by
    rcases get?_insert_cases ha with ⟨-, rfl⟩ | ha
    · rw [hrecorded] at hua
      cases hua
    rcases get?_insert_cases hb with ⟨-, rfl⟩ | hb
    · rw [hrecorded] at hub
      cases hub
    exact hs.one i j a b ha hb hbeside hua hub

theorem PreparationsSound.update (hs : PreparationsSound t) {id : RowId}
    {old : RegistrarPreparation} {f : RegistrarPreparation → RegistrarPreparation}
    (hold : t.get? id = some old) (hmoves : old.Moves (f old))
    (hone : (f old).unrecorded = true → old.unrecorded = true ∨
      ∀ i row, t.get? i = some row → i ≠ id → row.Beside old → row.unrecorded = false) :
    PreparationsSound (t.update id f) := by
  have hkey : (f old).toPreparationKey = old.toPreparationKey := hmoves.key
  have haccount : (f old).accountId = old.accountId := congrArg (·.accountId) hkey
  have hcustomer : (f old).customerId = old.customerId := congrArg (·.customerId) hkey
  -- A row after the update is the one that was written, or another one.
  have hcases : ∀ i row, (t.update id f).get? i = some row →
      (i = id ∧ row = f old) ∨ (i ≠ id ∧ t.get? i = some row) := by
    intro i row hi
    rcases get?_update_cases hi with ⟨rfl, row', hrow', rfl⟩ | ⟨hne, hi⟩
    · obtain rfl := Option.mem_unique hold hrow'
      exact .inl ⟨rfl, rfl⟩
    · exact .inr ⟨hne.symm, hi⟩
  -- An unrecorded customer beside the written one is the written one.
  have hbeside : ∀ i row, i ≠ id → t.get? i = some row → row.Beside old →
      row.unrecorded = true → (f old).unrecorded = true → False := by
    intro i row hne hi hb hu hf
    rcases hone hf with hwas | hfree
    · exact hne (hs.one i id row old hi hold hb hu hwas)
    · rw [hfree i row hi hne hb] at hu
      cases hu
  refine ⟨fun i j a b ha hb hab => ?_, fun i j a b ha hb hab hua hub => ?_⟩
  · rcases hcases i a ha with ⟨rfl, rfl⟩ | ⟨hi, hrow⟩ <;>
      rcases hcases j b hb with ⟨rfl, rfl⟩ | ⟨hj, hrow'⟩
    · rfl
    · exact hs.unique i j old b hold hrow' (hkey.symm.trans hab)
    · exact hs.unique i j a old hrow hold (hab.trans hkey)
    · exact hs.unique i j a b hrow hrow' hab
  · rcases hcases i a ha with ⟨rfl, rfl⟩ | ⟨hi, hrow⟩ <;>
      rcases hcases j b hb with ⟨rfl, rfl⟩ | ⟨hj, hrow'⟩
    · rfl
    · exact (hbeside j b hj hrow' ⟨hab.1.symm.trans haccount, hab.2.symm.trans hcustomer⟩ hub
        hua).elim
    · exact (hbeside i a hi hrow ⟨hab.1.trans haccount, hab.2.trans hcustomer⟩ hua hub).elim
    · exact hs.one i j a b hrow hrow' hab hua hub

theorem Writes.sound (h : Writes t t') (hs : PreparationsSound t) : PreparationsSound t' := by
  cases h with
  | nothing => exact hs
  | insert hkey hrecorded => exact hs.insert hkey hrecorded
  | update hold hmoves hone => exact hs.update hold hmoves hone

end

/-! ## What the transactions write -/

section

variable {db db' : PreparationStore} {intent : RegistrarIntent} {fingerprint : Text}

namespace PreparationStore
variable {row : RegistrarPreparation} {id : RowId}

variable {key : PreparationKey} {f : RegistrarPreparation → RegistrarPreparation}

theorem find_eq_some (h : db.find key = some (id, row)) :
    db.preparations.get? id = some row ∧ row.toPreparationKey = key := by
  obtain ⟨hrow, hkey⟩ := find?_eq_some h
  exact ⟨hrow, of_decide_eq_true hkey⟩

theorem find_eq_none (h : db.find key = none) :
    ∀ id row, db.preparations.get? id = some row → row.toPreparationKey ≠ key :=
  fun id row hrow => of_decide_eq_false (find?_eq_none.1 h id row hrow)

theorem find_of_get? (hs : PreparationsSound db.preparations)
    (hrow : db.preparations.get? id = some row) :
    db.find row.toPreparationKey = some (id, row) := by
  cases hfind : db.find row.toPreparationKey with
  | none => exact absurd rfl (find_eq_none hfind id row hrow)
  | some found =>
    obtain ⟨hfound, hkey⟩ := find_eq_some hfind
    obtain rfl := hs.unique _ _ _ _ hfound hrow hkey
    obtain rfl := Option.mem_unique hfound hrow
    rfl

theorem updatePreparation_ok {old : RegistrarPreparation}
    (h : db.updatePreparation id old f = .ok db') :
    old.Moves (f old) ∧ db' = { db with preparations := db.preparations.update id f } := by
  simp only [updatePreparation, eq_ok] at h
  obtain ⟨⟨hmoves, -⟩, rfl⟩ := h
  exact ⟨hmoves, rfl⟩

theorem insertPreparation_ok (h : db.insertPreparation row = .ok db') :
    db' = { db with preparations := db.preparations.insert row } := by
  simp only [insertPreparation, eq_ok] at h
  obtain ⟨-, -, rfl⟩ := h
  rfl

theorem upsert_ok {fresh : RegistrarPreparation} {found : Upserted}
    (h : db.upsert fresh f = .ok found) :
    (∃ old, db.preparations.get? found.id = some old ∧
      old.toPreparationKey = fresh.toPreparationKey ∧ old.Moves (f old) ∧ found.row = f old ∧
      found.store = { db with preparations := db.preparations.update found.id f }) ∨
    (∀ id row, db.preparations.get? id = some row →
      row.toPreparationKey ≠ fresh.toPreparationKey) ∧ found.id = db.preparations.size ∧
      found.row = fresh ∧
      found.store = { db with preparations := db.preparations.insert fresh } := by
  rw [upsert] at h
  split at h
  · rename_i id old hfind
    simp only [eq_ok] at h
    obtain ⟨store, hstore, rfl⟩ := h
    obtain ⟨hmoves, rfl⟩ := updatePreparation_ok hstore
    obtain ⟨hold, hkey⟩ := find_eq_some hfind
    exact .inl ⟨old, hold, hkey, hmoves, rfl, rfl⟩
  · rename_i hfind
    simp only [eq_ok] at h
    obtain ⟨store, hstore, rfl⟩ := h
    exact .inr ⟨find_eq_none hfind, rfl, rfl, insertPreparation_ok hstore⟩

end PreparationStore

open PreparationStore

/-- What a claim that was committed found and wrote: a row of its own registration, which may be
new, without this claim, and for a customer no other unrecorded one. -/
structure Claimed (db : PreparationStore) (intent : RegistrarIntent) (fingerprint : Text)
    (step : CreationStep) (now : ℕ) (db' : PreparationStore) (t : Table RegistrarPreparation)
    (id : RowId) (row : RegistrarPreparation) : Prop where
  found : Writes db.preparations t
  there : t.get? id = some row
  key : row.toPreparationKey = intent.key fingerprint
  operationId : row.operationId = intent.operationId
  unclaimed : row.claimedAt step = none
  free : step = .customer → ∀ i other, t.get? i = some other → i ≠ id → other.Beside row →
    other.unrecorded = false
  moves : row.Moves (row.claimed step now)
  preparations : db'.preparations = t.update id (.claimed step now)

variable {step : CreationStep} {now : ℕ}

theorem claim_ok (h : claim db intent fingerprint step now = .ok db') :
    ∃ t id row, Claimed db intent fingerprint step now db' t id row := by
  simp only [claim, bind_eq_ok, require_eq_ok] at h
  obtain ⟨found, hfound, -, ⟨hoperation, hunclaimed⟩, _, hstep, hupdate⟩ := h
  obtain ⟨hmoves, rfl⟩ := updatePreparation_ok hupdate
  -- The row that was found or made, in the table in which it is.
  have hrow : Writes db.preparations found.store.preparations ∧
      found.store.preparations.get? found.id = some found.row ∧
      found.row.toPreparationKey = intent.key fingerprint := by
    rcases upsert_ok hfound with ⟨old, hold, hkey, -, hrow, hstore⟩ | ⟨hkey, hid, hrow, hstore⟩
    · have hsame : found.store.preparations = db.preparations := by
        rw [hstore]
        exact update_eq_self fun _ _ => rfl
      rw [hsame, hrow]
      exact ⟨.nothing, hold, hkey⟩
    · rw [hstore, hrow, hid]
      exact ⟨.insert hkey rfl, get?_insert_self _ _, rfl⟩
  refine ⟨found.store.preparations, found.id, found.row, ?_⟩
  refine ⟨hrow.1, hrow.2.1, hrow.2.2, hoperation, hunclaimed, ?_, hmoves, rfl⟩
  rintro rfl i other hi hne hbeside
  rw [requireStep, require_eq_ok, any_eq_false] at hstep
  have hfree := of_decide_eq_false (hstep i other hi)
  have haccount : found.row.accountId = intent.accountId := congrArg (·.accountId) hrow.2.2
  have hcustomer : found.row.customerId = intent.customerId := congrArg (·.customerId) hrow.2.2
  rw [← Bool.not_eq_true]
  exact fun hu => hfree ⟨hbeside.1.trans haccount, hbeside.2.trans hcustomer, hne, hu⟩

theorem Claimed.write {t : Table RegistrarPreparation} {id : RowId} {row : RegistrarPreparation}
    (h : Claimed db intent fingerprint step now db' t id row) :
    Writes t db'.preparations := by
  rw [h.preparations]
  refine .update h.there h.moves fun hu => ?_
  cases step with
  | customer => exact .inr (h.free rfl)
  | contact => exact .inl hu

theorem customer_ok {remoteId : Text} (h : customer db intent fingerprint remoteId = .ok db') :
    Writes db.preparations db'.preparations := by
  simp only [customer, eq_ok] at h
  obtain ⟨found, hfound, rfl⟩ := h
  rcases upsert_ok hfound with ⟨old, hold, -, hmoves, -, hstore⟩ | ⟨hkey, -, -, hstore⟩
  · rw [hstore]
    refine .update hold hmoves fun hu => ?_
    rw [RegistrarPreparation.unrecorded_iff] at hu
    exact nomatch hu.2
  · rw [hstore]
    exact .insert hkey (by simp [RegistrarPreparation.unrecorded])

theorem complete_ok {customerId contactId : Text}
    (h : complete db intent fingerprint customerId contactId = .ok db') :
    Writes db.preparations db'.preparations := by
  simp only [complete, eq_ok] at h
  obtain ⟨⟨id, old⟩, hfind, db₁, hupdate, -, -, rfl⟩ := h
  obtain ⟨hold, -⟩ := find_eq_some hfind
  obtain ⟨hmoves, rfl⟩ := updatePreparation_ok hupdate
  exact .update hold hmoves Or.inl

end

end ResellbizLiveRegistrar

end WebhostBilling
