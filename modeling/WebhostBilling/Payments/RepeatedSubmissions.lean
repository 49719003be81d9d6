import WebhostBilling.Payments.Conservation
import WebhostBilling.Payments.SubmissionKeys

/-!
# Repeated submissions

The checks of `recordManual` and `adjust` come before the key's uniqueness is noticed: a request
that arrives while its twin settles the invoice is told that the invoice cannot be paid.  And a
payment date that a request leaves out is not compared with the payment's.
-/

namespace WebhostBilling

open Store Store.Table Concurrency Config

namespace PaymentService

section

variable {rt : Runtime} {w : World} {db db' : Database}

/-! ## One payment for each key -/

def OnePayment (key : String) (db : Database) : Prop :=
  ∀ id id' payment payment', db.payments.get? id = some payment → payment.idempotencyKey = key →
    db.payments.get? id' = some payment' → payment'.idempotencyKey = key → id = id'

variable {result : Except Failure ManualPaymentCreationResult} {op : ManualOperation}
  {payment : Payment} {id : RowId} {key : String} {t : Thread (manualOperations rt)}

theorem Kept.of_size_eq (h : Kept db db')
    (hsize : db'.payments.size = db.payments.size) {payment' : Payment}
    (hpayment : db'.payments.get? id = some payment') (hkey : payment'.idempotencyKey = key) :
    ∃ payment, db.payments.get? id = some payment ∧ payment.idempotencyKey = key := by
  obtain ⟨payment, hold, hsame⟩ := h.payments.before hsize hpayment
  exact ⟨payment, hold, hsame.idempotencyKey.symm.trans hkey⟩

theorem OnePayment.step {asked : Option String} (hone : OnePayment key db)
    (hkept : Kept db db') (hchange : KeyChange asked db db') : OnePayment key db' := by
  intro id id' payment payment' hpayment hkey hpayment' hkey'
  cases hchange with
  | keeps hsize =>
    obtain ⟨_, hold, hold_key⟩ := hkept.of_size_eq hsize hpayment hkey
    obtain ⟨_, hold', hold_key'⟩ := hkept.of_size_eq hsize hpayment' hkey'
    exact hone _ _ _ _ hold hold_key hold' hold_key'
  | creates _ hfree hinsert =>
    rw [hinsert] at hpayment hpayment'
    -- A row that was there and the new one do not share a key.
    rcases get?_insert_cases hpayment with ⟨rfl, rfl⟩ | hold <;>
      rcases get?_insert_cases hpayment' with ⟨rfl, rfl⟩ | hold'
    · rfl
    · exact absurd ⟨id', payment', hold', hkey'.trans hkey.symm⟩ hfree
    · exact absurd ⟨id, payment, hold, hkey.trans hkey'.symm⟩ hfree
    · exact hone _ _ _ _ hold hkey hold' hkey'

theorem Kept.taken_of_taken {asked : Option String} (hkept : Kept db db')
    (hchange : KeyChange asked db db') (h : Taken key db') :
    Taken key db ∨ asked = some key ∧ db'.payments.size = db.payments.size + 1 := by
  obtain ⟨id, payment, hpayment, hkey⟩ := h
  cases hchange with
  | keeps hsize =>
    obtain ⟨payment₁, hold, hold_key⟩ := hkept.of_size_eq hsize hpayment hkey
    exact .inl ⟨id, payment₁, hold, hold_key⟩
  | creates hasked _ hinsert =>
    rw [hinsert] at hpayment ⊢
    rcases get?_insert_cases hpayment with ⟨-, rfl⟩ | hold
    · rw [hkey] at hasked
      exact .inr ⟨hasked, size_insert _ _⟩
    · exact .inl ⟨id, payment, hold, hkey⟩

def HasKey (key : String) (t : Thread (manualOperations rt)) : Prop :=
  submissionKey t.op (asked t.op t.loc) = some key
deriving Decidable

def Done (t : Thread (manualOperations rt)) (result : Except Failure ManualPaymentCreationResult) :
    Prop :=
  phase t.op t.loc = .done result

def Created (key : String) (t : Thread (manualOperations rt)) : Prop :=
  HasKey key t ∧ ∃ id, Done t (.ok ⟨id, false⟩)

def Answered (key : String) (db : Database) (t : Thread (manualOperations rt))
    (result : Except Failure ManualPaymentCreationResult) : Prop :=
  ∃ id payment, db.payments.get? id = some payment ∧ payment.idempotencyKey = key ∧
    ((Describes db payment t.op (asked t.op t.loc) ∧ ∃ duplicate, result = .ok ⟨id, duplicate⟩) ∨
      (¬ Describes db payment t.op (asked t.op t.loc) ∧ result = .error (keyConflict t.op)))

/-- A call with the key passes the checks of its transaction. -/
def ChecksPass (key : String) (w : World) (db : Database) (t : Thread (manualOperations rt)) :
    Prop :=
  HasKey key t → acceptable w db t.op t.loc
deriving Decidable

theorem Answered.taken (h : Answered key db t result) :
    Taken key db := by
  obtain ⟨id, payment, hpayment, hkey, -⟩ := h
  exact ⟨id, payment, hpayment, hkey⟩

theorem Answered.kept (h : Answered key db t result)
    (hkept : Kept db db') : Answered key db' t result := by
  obtain ⟨id, payment, hpayment, hkey, h⟩ := h
  obtain ⟨payment', hpayment', hsame⟩ := hkept.payments id payment hpayment
  refine ⟨id, payment', hpayment', hsame.idempotencyKey.trans hkey, ?_⟩
  rw [hkept.describes_iff hsame]
  exact h

structure KeyAssertion (key : String) (db : Database) (t : Thread (manualOperations rt)) : Prop where
  raced : phase t.op t.loc = .raced → Taken key db
  done : ∀ result, Done t result → Answered key db t result

def keyOutline (key : String) : Outline (manualOperations rt) where
  shared db := PaymentEventsKnown db ∧ OnePayment key db
  thread db t := (∀ r ∈ pending t.op t.loc, r = asked t.op t.loc) ∧
    (HasKey key t → KeyAssertion key db t)
  apart t u := ¬ (Created key t ∧ Created key u)

theorem phase_begin (request : (manualOperations rt op).Request) :
    phase op ((manualOperations rt op).start request) = .running := by
  cases op <;> rfl

theorem pending_begin (request : (manualOperations rt op).Request) :
    ∀ r ∈ pending op ((manualOperations rt op).start request),
      r = asked op ((manualOperations rt op).start request) := by
  intro r hr
  cases op with
  | submitManual | recordManual => exact (Option.some.inj hr).symm
  | review => exact nomatch hr
  | adjust => exact (Option.some.inj hr).symm

theorem not_created_begin (key : String) (op : ManualOperation)
    (request : (manualOperations rt op).Request) : ¬ Created key (Thread.begin op request) := by
  rintro ⟨-, id, hdone⟩
  exact nomatch (phase_begin request).symm.trans hdone

theorem Answers.assertion {l : (manualOperations rt op).Local}
    (h : Answers key (fun db payment => Describes db payment op (asked op l)) (keyConflict op) db db'
      (phase op l)) : KeyAssertion key db' ⟨op, l⟩ := by
  generalize hphase : phase op l = p at h
  cases h with
  | goesOn => exact ⟨fun hraced => absurd (hphase.symm.trans hraced) nofun,
      fun result hdone => absurd (hphase.symm.trans hdone) nofun⟩
  | loses htaken => exact ⟨fun _ => htaken, fun result hdone => absurd (hphase.symm.trans hdone) nofun⟩
  | returns hpayment hkey hdescribes =>
    refine ⟨fun hraced => absurd (hphase.symm.trans hraced) nofun, fun result hdone => ?_⟩
    obtain rfl := Phase.done.inj (hphase.symm.trans hdone)
    exact ⟨_, _, hpayment, hkey, .inl ⟨hdescribes, true, rfl⟩⟩
  | conflicts hpayment hkey hdescribes =>
    refine ⟨fun hraced => absurd (hphase.symm.trans hraced) nofun, fun result hdone => ?_⟩
    obtain rfl := Phase.done.inj (hphase.symm.trans hdone)
    exact ⟨_, _, hpayment, hkey, .inr ⟨hdescribes, rfl⟩⟩
  | creates hfree hinsert hkey hdescribes =>
    refine ⟨fun hraced => absurd (hphase.symm.trans hraced) nofun, fun result hdone => ?_⟩
    obtain rfl := Phase.done.inj (hphase.symm.trans hdone)
    refine ⟨_, _, ?_, hkey, .inl ⟨hdescribes, false, rfl⟩⟩
    rw [hinsert]
    exact get?_insert_self _ _

/-- A step of a request with the key takes the key exactly when it creates the payment, and
otherwise leaves the database alone. -/
theorem Answers.created_or_same {l : (manualOperations rt op).Local}
    (h : Answers key (fun db payment => Describes db payment op (asked op l)) (keyConflict op) db db'
      (phase op l)) :
    (¬ Taken key db ∧ ∃ id, phase op l = .done (.ok ⟨id, false⟩)) ∨
      db' = db ∧ ∀ id, phase op l ≠ .done (.ok ⟨id, false⟩) := by
  generalize phase op l = p at h
  cases h with
  | goesOn | loses htaken | returns hpayment hkey hdescribes | conflicts hpayment hkey hdescribes =>
    exact .inr ⟨rfl, nofun⟩
  | creates hfree hinsert hkey hdescribes => exact .inl ⟨hfree, _, rfl⟩

theorem keyOutline_sound (key : String) :
    (@keyOutline rt key).Sound (ChecksPass key) where
  symm _ _ h := fun ⟨ht, hu⟩ => h ⟨hu, ht⟩
  call _ op request _ := by
    refine ⟨pending_begin request, fun _ => ⟨fun hraced => ?_, fun result hdone => ?_⟩⟩
    · exact nomatch (phase_begin request).symm.trans hraced
    · exact nomatch (phase_begin request).symm.trans hdone
  call_apart op request _ := fun h => not_created_begin key op request h.1
  own w db t db' t' hφ hshared ht hs := by
    obtain ⟨l, hstep, rfl⟩ := Thread.step_eq_some hs
    obtain ⟨hkept, hchange⟩ := keyChange_of_step ht.1 hstep
    obtain ⟨hasked, hpending⟩ := asked_of_step ht.1 hstep
    refine ⟨⟨hkept.known hshared.1, hshared.2.step hkept hchange⟩, hpending, fun hkey => ?_⟩
    have hkey_t : HasKey key t := by
      rw [HasKey, ← hasked]
      exact hkey
    have hanswers := answers_of_step hshared.1 hkey_t ht.1 (hφ hkey_t) (ht.2 hkey_t).raced hstep
    rw [← hasked] at hanswers
    exact hanswers.assertion
  other w db t db' t' u hφ hshared ht hu hapart hs := by
    obtain ⟨l, hstep, rfl⟩ := Thread.step_eq_some hs
    obtain ⟨hkept, hchange⟩ := keyChange_of_step ht.1 hstep
    obtain ⟨hasked, hpending⟩ := asked_of_step ht.1 hstep
    refine ⟨⟨hu.1, fun hkey => ⟨fun hraced => hkept.taken ((hu.2 hkey).raced hraced),
      fun result hdone => ((hu.2 hkey).done result hdone).kept hkept⟩⟩, ?_⟩
    rintro ⟨⟨hkey, id, hdone⟩, hkey_u, id_u, hdone_u⟩
    have hkey_t : HasKey key t := by
      rw [HasKey, ← hasked]
      exact hkey
    have hanswers := answers_of_step hshared.1 hkey_t ht.1 (hφ hkey_t) (ht.2 hkey_t).raced hstep
    rw [← hasked] at hanswers
    -- The payment of the other request was there before this one could create one.
    rcases hanswers.created_or_same with ⟨hfree, -⟩ | ⟨-, hnot⟩
    · exact hfree ((hu.2 hkey_u).done _ hdone_u).taken
    · exact hnot id hdone

/-! ## Every request is answered -/

def CreationState.stepsLeft {R : Type} : CreationState R → ℕ
  | .lookup _ => 3
  | .transact _ => 2
  | .raced _ => 1
  | .done _ => 0

def AdjustState.stepsLeft : AdjustState → ℕ
  | .lookup _ => 4
  | .locate _ => 3
  | .transact _ _ => 2
  | .raced _ => 1
  | .done _ => 0

def stepsLeft : (op : ManualOperation) → (manualOperations rt op).Local → ℕ
  | .submitManual, l => CreationState.stepsLeft l.2
  | .recordManual, l => CreationState.stepsLeft l.2
  | .review, _ => 0
  | .adjust, l => AdjustState.stepsLeft l.2

theorem Creation.stepsLeft_lt {R : Type} (creation : Creation R) (w : World) (db : Database)
    {l : CreationState R} (h : ∀ result, l.phase ≠ .done result) :
    ∃ out, creation.step w db l = some out ∧ out.2.stepsLeft < l.stepsLeft := by
  unfold Creation.step
  split
  · split
    · exact ⟨_, rfl, by simp [CreationState.stepsLeft]⟩
    · split <;> exact ⟨_, rfl, by simp [CreationState.stepsLeft]⟩
  · split <;> exact ⟨_, rfl, by simp [CreationState.stepsLeft]⟩
  · exact ⟨_, rfl, by simp [CreationState.stepsLeft]⟩
  · rename_i result
    exact absurd rfl (h result)

theorem adjustStep_stepsLeft (w : World) (db : Database) {l : AdjustState}
    (h : ∀ result, l.phase ≠ .done result) :
    ∃ out, adjustStep rt w db l = some out ∧ out.2.stepsLeft < l.stepsLeft := by
  unfold adjustStep
  split
  · split <;> exact ⟨_, rfl, by simp [AdjustState.stepsLeft]⟩
  · split <;> exact ⟨_, rfl, by simp [AdjustState.stepsLeft]⟩
  · split <;> exact ⟨_, rfl, by simp [AdjustState.stepsLeft]⟩
  · split <;> exact ⟨_, rfl, by simp [AdjustState.stepsLeft]⟩
  · rename_i result
    exact absurd rfl (h result)

theorem stepsLeft_of_not_done
    (hkey : HasKey key t) (h : ∀ result, ¬ Done t result) (w : World) (db : Database) :
    ∃ out, t.step w db = some out ∧ stepsLeft out.2.op out.2.loc < stepsLeft t.op t.loc := by
  obtain ⟨op, l⟩ := t
  cases op with
  | submitManual =>
    obtain ⟨out, hout, hlt⟩ := Creation.stepsLeft_lt (submitCreation rt) w db h
    exact ⟨_, Thread.step_of (Operation.remembering_step_of hout), hlt⟩
  | recordManual =>
    obtain ⟨out, hout, hlt⟩ := Creation.stepsLeft_lt (recordCreation rt) w db h
    exact ⟨_, Thread.step_of (Operation.remembering_step_of hout), hlt⟩
  | review => exact nomatch hkey
  | adjust =>
    obtain ⟨out, hout, hlt⟩ := @adjustStep_stepsLeft rt w db _ h
    exact ⟨_, Thread.step_of (Operation.remembering_step_of hout), hlt⟩

theorem step_of_done (h : Done t result) (w : World) (db : Database) : t.step w db = none := by
  obtain ⟨op, l⟩ := t
  cases op with
  | submitManual | recordManual =>
    obtain ⟨request, l⟩ := l
    cases l with
    | done _ => rfl
    | _ => exact nomatch h
  | review => exact nomatch h
  | adjust =>
    obtain ⟨request, l⟩ := l
    cases l with
    | done _ => rfl
    | _ => exact nomatch h

theorem created_or_same_of_step {t' : Thread (manualOperations rt)}
    (hknown : PaymentEventsKnown db) (ht : (keyOutline key).thread db t) (hkey : HasKey key t)
    (hφ : ChecksPass key w db t) (hs : t.step w db = some (db', t')) :
    (¬ Taken key db ∧ Created key t') ∨ db' = db ∧ ¬ Created key t' := by
  obtain ⟨l, hstep, rfl⟩ := Thread.step_eq_some hs
  obtain ⟨hasked, -⟩ := asked_of_step ht.1 hstep
  have hanswers := answers_of_step hknown hkey ht.1 (hφ hkey) (ht.2 hkey).raced hstep
  rw [← hasked] at hanswers
  rcases hanswers.created_or_same with ⟨hfree, hcreated⟩ | ⟨hsame, hnot⟩
  · refine .inl ⟨hfree, ?_, hcreated⟩
    rw [HasKey, hasked]
    exact hkey
  · exact .inr ⟨hsame, fun ⟨_, id, hdone⟩ => hnot id hdone⟩

theorem exists_created {c : Config (manualOperations rt)}
    (hknown : PaymentEventsKnown db) (hfree : ¬ Taken key db)
    (hr : Reaches (ChecksPass key) ⟨db, []⟩ c) (htaken : Taken key c.shared) :
    ∃ t ∈ c.threads, Created key t := by
  have hidle : (@keyOutline rt key).Holds ⟨db, []⟩ :=
    Outline.holds_idle ⟨hknown, fun id _ payment _ hpayment hkey =>
      absurd ⟨id, payment, hpayment, hkey⟩ hfree⟩
  induction hr with
  | refl => exact absurd htaken hfree
  | @tail c c' hr hstep ih =>
    have hholds := (keyOutline_sound key).holds hidle hr
    cases hstep with
    | call op request =>
      obtain ⟨t, ht, hcreated⟩ := ih htaken
      exact ⟨t, List.mem_append_left _ ht, hcreated⟩
    | @advance k w t t' s' ht hφ hs =>
      have hthread := hholds.thread t (List.mem_of_getElem? ht)
      by_cases hbefore : Taken key c.shared
      · obtain ⟨u, hu, hcreated⟩ := ih hbefore
        obtain ⟨j, hj⟩ := List.mem_iff_getElem?.1 hu
        have hkj : k ≠ j := by
          rintro rfl
          obtain rfl := Option.mem_unique ht hj
          obtain ⟨-, id, hdone⟩ := hcreated
          rw [step_of_done hdone] at hs
          exact nomatch hs
        refine ⟨u, ?_, hcreated⟩
        rw [List.mem_iff_getElem?]
        exact ⟨j, by rw [List.getElem?_set_ne hkj, hj]⟩
      · have hcreated : Created key t' := by
          obtain ⟨l, hstep, -⟩ := Thread.step_eq_some hs
          obtain ⟨hkept, hchange⟩ := keyChange_of_step hthread.1 hstep
          rcases hkept.taken_of_taken hchange htaken with htaken' | ⟨hkey, hsize⟩
          · exact absurd htaken' hbefore
          · rcases created_or_same_of_step hholds.shared.1 hthread hkey hφ hs with
              ⟨-, hcreated⟩ | ⟨hsame, -⟩
            · exact hcreated
            · have hsame : s' = c.shared := hsame
              rw [hsame] at htaken
              exact absurd htaken hbefore
        refine ⟨t', ?_, hcreated⟩
        have hlt := (List.getElem?_eq_some_iff.1 ht).1
        exact List.mem_of_getElem? (by rw [List.getElem?_set_self hlt])

/-- Two charges differ: in anything but their dates, or in the dates that both give. -/
def DifferentCharge (input input' : SubmitManualPaymentRequest) : Prop :=
  { input with proof := { input.proof with paidAt := none } } ≠
      { input' with proof := { input'.proof with paidAt := none } } ∨
    ∃ paidAt ∈ input.proof.paidAt, ∃ paidAt' ∈ input'.proof.paidAt, paidAt ≠ paidAt'

def DifferentInput : (op : ManualOperation) → (r r' : (manualOperations rt op).Request) → Prop
  | .submitManual, (r : SubmitRequest), (r' : SubmitRequest) =>
    r.customerId ≠ r'.customerId ∨ DifferentCharge r.input r'.input
  | .recordManual, (r : RecordRequest), (r' : RecordRequest) => DifferentCharge r.input r'.input
  | .review, _, _ => False
  | .adjust, (r : AdjustRequest), (r' : AdjustRequest) =>
    r.originalPaymentId ≠ r'.originalPaymentId ∨ r.input ≠ r'.input

theorem not_differentCharge {input input' : SubmitManualPaymentRequest}
    {role role' : UserRole} {customerId customerId' : Option RowId}
    (hkey : input.submissionKey = input'.submissionKey)
    (h : SameCharge db payment input role customerId)
    (h' : SameCharge db payment input' role' customerId') : ¬ DifferentCharge input input' := by
  obtain ⟨submissionKey, invoiceId, amount, ⟨method, reference, payerName, note, paidAt⟩⟩ := input
  obtain ⟨submissionKey', invoiceId', amount', ⟨method', reference', payerName', note', paidAt'⟩⟩ :=
    input'
  obtain ⟨-, hinvoice, -, -, hamount, hmethod, hreference, hpayer, hnote, hdate⟩ := h
  obtain ⟨-, hinvoice', -, -, hamount', hmethod', hreference', hpayer', hnote', hdate'⟩ := h'
  simp only at hkey hinvoice hamount hmethod hreference hpayer hnote hdate
  simp only at hinvoice' hamount' hmethod' hreference' hpayer' hnote' hdate'
  rintro (hdiffer | ⟨date, hmem, date', hmem', hdiffer⟩)
  · refine hdiffer ?_
    rw [hinvoice] at hinvoice'
    rw [hamount] at hamount'
    rw [hmethod, Option.some.injEq] at hmethod'
    rw [hreference, Option.some.injEq] at hreference'
    rw [hpayer] at hpayer'
    rw [hnote] at hnote'
    rw [hkey, hinvoice', hamount', hmethod', hreference', hpayer', hnote']
  · rw [Option.mem_def] at hmem hmem'
    simp only at hmem hmem'
    subst hmem hmem'
    have hreceived := hdate rfl
    rw [hdate' rfl, Option.some.injEq] at hreceived
    exact hdiffer hreceived.symm

theorem not_differentInput
    {r r' : (manualOperations rt op).Request} (hkey : submissionKey op r = submissionKey op r')
    (h : Describes db payment op r) (h' : Describes db payment op r') :
    ¬ DifferentInput op r r' := by
  cases op with
  | submitManual =>
    rintro (hcustomer | hdiffer)
    · have heq := (h.2.2.1 _ rfl).symm.trans (h'.2.2.1 _ rfl)
      exact hcustomer (Option.some.inj heq)
    · exact not_differentCharge (Option.some.inj hkey) h h' hdiffer
  | recordManual => exact not_differentCharge (Option.some.inj hkey) h h'
  | review => exact id
  | adjust =>
    obtain ⟨horiginal, hkind, hamount, hreference, hnote⟩ := h
    obtain ⟨horiginal', hkind', hamount', hreference', hnote'⟩ := h'
    rintro (hdiffer | hdiffer)
    · exact hdiffer (Option.mem_unique horiginal horiginal')
    · refine hdiffer ?_
      obtain ⟨original, ⟨submissionKey, kind, amount, reference, note⟩, userId⟩ := r
      obtain ⟨original', ⟨submissionKey', kind', amount', reference', note'⟩, userId'⟩ := r'
      simp only at hkind hamount hreference hnote hkind' hamount' hreference' hnote'
      have hkinds := hkind.symm.trans hkind'
      have hkinds : kind = kind' := by cases kind <;> cases kind' <;> first | rfl | exact nomatch hkinds
      have hkeys : submissionKey = submissionKey' := Option.some.inj hkey
      have hreferences := Option.mem_unique hreference hreference'
      rw [hkeys, hkinds, hreferences, ← hamount, ← hnote, ← hamount', ← hnote']

theorem AdjustmentKind.toPaymentKind_ne_charge (kind : AdjustmentKind) :
    kind.toPaymentKind ≠ .charge := by
  cases kind <;> exact nofun

theorem op_eq_of_describes {op' : ManualOperation}
    {r : (manualOperations rt op).Request} {r' : (manualOperations rt op').Request}
    (h : Describes db payment op r) (h' : Describes db payment op' r') : op' = op := by
  cases op with
  | submitManual =>
    cases op' with
    | submitManual => rfl
    | recordManual => exact absurd (h.2.2.2.1.symm.trans h'.2.2.2.1) nofun
    | review => exact h'.elim
    | adjust => exact absurd (h'.2.1.symm.trans h.1) (AdjustmentKind.toPaymentKind_ne_charge _)
  | recordManual =>
    cases op' with
    | submitManual => exact absurd (h.2.2.2.1.symm.trans h'.2.2.2.1) nofun
    | recordManual => rfl
    | review => exact h'.elim
    | adjust => exact absurd (h'.2.1.symm.trans h.1) (AdjustmentKind.toPaymentKind_ne_charge _)
  | review => exact h.elim
  | adjust =>
    cases op' with
    | submitManual | recordManual =>
      exact absurd (h.2.1.symm.trans h'.1) (AdjustmentKind.toPaymentKind_ne_charge _)
    | review => exact h'.elim
    | adjust => rfl

def Identical (t u : Thread (manualOperations rt)) : Prop :=
  ∃ h : u.op = t.op, SameInput t.op (asked t.op t.loc) (h ▸ asked u.op u.loc)

/-- Two requests that differ, in their kinds or in their inputs. -/
def Different (t u : Thread (manualOperations rt)) : Prop :=
  ∀ h : u.op = t.op, DifferentInput t.op (asked t.op t.loc) (h ▸ asked u.op u.loc)

/-- One call with the key records a payment, and the others return it. -/
structure ExactlyOnce (key : String) (c : Config (manualOperations rt)) : Prop where
  onePayment : OnePayment key c.shared
  creator : Taken key c.shared → ∃ (i : ℕ) (t : Thread (manualOperations rt)),
    c.threads[i]? = some t ∧ Created key t ∧
      ∀ (j : ℕ) (u : Thread (manualOperations rt)), c.threads[j]? = some u → Created key u → j = i
  /-- A request that is done returns the payment when it is the one it asks for, and is otherwise
  told of the conflict. -/
  answered : ∀ t ∈ c.threads, HasKey key t → ∀ result, Done t result →
    Answered key c.shared t result
  /-- A request identical to the one that created the payment returns it as a duplicate, and a
  different one is told of the conflict. -/
  others : ∀ (i j : ℕ) (t u : Thread (manualOperations rt)) (id : RowId), c.threads[i]? = some t →
    c.threads[j]? = some u → i ≠ j → HasKey key t → Done t (.ok ⟨id, false⟩) → HasKey key u →
    ∀ result, Done u result →
      (Identical t u → result = .ok ⟨id, true⟩) ∧
      (Different t u → result = .error (keyConflict u.op))
  /-- The step of a request changes nothing unless it creates the payment, for a key that is free. -/
  changes : ∀ t ∈ c.threads, HasKey key t → ∀ w db' t', ChecksPass key w c.shared t →
    t.step w c.shared = some (db', t') → db' = c.shared ∨ ¬ Taken key c.shared ∧ Created key t'
  /-- A request that is not done can take a step, and takes finitely many. -/
  progress : ∀ t ∈ c.threads, HasKey key t → (∃ result, Done t result) ∨
    ∀ w, ∃ out, t.step w c.shared = some out ∧ stepsLeft out.2.op out.2.loc < stepsLeft t.op t.loc

theorem Answered.describes {duplicate : Bool} (h : Answered key db t (.ok ⟨id, duplicate⟩)) :
    ∃ payment, db.payments.get? id = some payment ∧ payment.idempotencyKey = key ∧
      Describes db payment t.op (asked t.op t.loc) := by
  obtain ⟨id', payment, hpayment, hkey, ⟨hdescribes, duplicate', hresult⟩ | ⟨-, hresult⟩⟩ := h
  · obtain rfl : id = id' := congrArg ManualPaymentCreationResult.paymentId (Except.ok.inj hresult)
    exact ⟨payment, hpayment, hkey, hdescribes⟩
  · exact nomatch hresult

theorem others_answered {u : Thread (manualOperations rt)} (hone : OnePayment key db)
    (hkey : HasKey key t) (hkey' : HasKey key u) (ht : Answered key db t (.ok ⟨id, false⟩))
    (hu : Answered key db u result) (hsecond : ∀ id', result ≠ .ok ⟨id', false⟩) :
    (Identical t u → result = .ok ⟨id, true⟩) ∧
      (Different t u → result = .error (keyConflict u.op)) := by
  obtain ⟨payment, hpayment, hpayment_key, hdescribes⟩ := ht.describes
  obtain ⟨id', payment', hpayment', hpayment_key', hanswer⟩ := hu
  obtain rfl := hone _ _ _ _ hpayment hpayment_key hpayment' hpayment_key'
  obtain rfl := Option.mem_unique hpayment hpayment'
  obtain ⟨op, l⟩ := t
  obtain ⟨op', l'⟩ := u
  constructor
  · rintro ⟨hop, hsame⟩
    have hop : op' = op := hop
    subst hop
    have hdescribes' := (describes_congr _ hsame).1 hdescribes
    rcases hanswer with ⟨-, duplicate, rfl⟩ | ⟨hnot, -⟩
    · cases duplicate with
      | true => rfl
      | false => exact absurd rfl (hsecond id)
    · exact absurd hdescribes' hnot
  · intro hdifferent
    rcases hanswer with ⟨hdescribes', -⟩ | ⟨-, hresult⟩
    · have hop : op' = op := op_eq_of_describes hdescribes hdescribes'
      subst hop
      exact absurd (hdifferent rfl) (not_differentInput (hkey.trans hkey'.symm) hdescribes hdescribes')
    · exact hresult

end

/-- **Exactly-once creation.** From a database in which the key is free, in every run in which the
checks of the requests with the key pass, they create one payment, and every other one of them
returns it or is told of the conflict. -/
theorem submissions_exactly_once {rt : Runtime} {key : String} {db : Database}
    {c : Config (manualOperations rt)} (hknown : PaymentEventsKnown db) (hfree : ¬ Taken key db)
    (hr : Reaches (ChecksPass key) ⟨db, []⟩ c) : ExactlyOnce key c := by
  have hidle : (@keyOutline rt key).Holds ⟨db, []⟩ :=
    Outline.holds_idle ⟨hknown, fun id _ payment _ hpayment hkey =>
      absurd ⟨id, payment, hpayment, hkey⟩ hfree⟩
  have hholds := (keyOutline_sound key).holds hidle hr
  have hanswered : ∀ t ∈ c.threads, HasKey key t → ∀ result, Done t result →
      Answered key c.shared t result :=
    fun t ht hkey => ((hholds.thread t ht).2 hkey).done
  refine ⟨hholds.shared.2, fun htaken => ?_, hanswered, ?_, ?_, ?_⟩
  · obtain ⟨t, ht, hcreated⟩ := exists_created hknown hfree hr htaken
    obtain ⟨i, hi⟩ := List.mem_iff_getElem?.1 ht
    refine ⟨i, t, hi, hcreated, fun j u hj hcreated' => ?_⟩
    by_contra hij
    exact hholds.apart j i u t hij hj hi ⟨hcreated', hcreated⟩
  · intro i j t u id hi hj hij hkey hdone hkey' result hdone'
    refine others_answered hholds.shared.2 hkey hkey'
      (hanswered t (List.mem_of_getElem? hi) hkey _ hdone)
      (hanswered u (List.mem_of_getElem? hj) hkey' _ hdone') ?_
    rintro id' rfl
    exact hholds.apart i j t u hij hi hj ⟨⟨hkey, id, hdone⟩, hkey', id', hdone'⟩
  · intro t ht hkey w db' t' hφ hs
    rcases created_or_same_of_step hholds.shared.1 (hholds.thread t ht) hkey hφ hs with
      hcreated | ⟨hsame, -⟩
    · exact .inr hcreated
    · exact .inl hsame
  · intro t ht hkey
    by_cases hdone : ∃ result, Done t result
    · exact .inl hdone
    · rw [not_exists] at hdone
      exact .inr fun w => stepsLeft_of_not_done hkey hdone w c.shared

/-! ### Two overlapping records -/

def plainRuntime : Runtime :=
  Runtime.onPlainText referenceHash fun _ => "1970-01-01T00:00:00.000Z"

def cashRecord (amount : ℤ) (paidAt : Option ℕ) : RecordRequest :=
  ⟨⟨"s-1", 0, amount, { method := .cash, reference := "R-1", paidAt := paidAt }⟩, 0⟩

/-- Two records of an amount look the key up, and then both run their transactions. -/
def overlappingRecords (amount : ℤ) : List (Move (manualOperations plainRuntime)) :=
  [.call .recordManual (cashRecord amount none), .call .recordManual (cashRecord amount none),
    .advance 0 {}, .advance 1 {}, .advance 0 {}, .advance 1 {}]

theorem paymentEventsKnown_unpaidDatabase : PaymentEventsKnown unpaidDatabase :=
  fun _ _ h => absurd h get?_empty_ne

/-- Two records of 40 on an invoice over 100: the second one returns the payment of the first. -/
theorem exactly_once_partial_payment : ∃ c : Config (manualOperations plainRuntime),
    Config.run ⟨unpaidDatabase, []⟩ (overlappingRecords 40 ++ [.advance 1 {}]) = some c ∧
      c.threads.map (fun t => phase t.op t.loc) = [.done (.ok ⟨0, false⟩), .done (.ok ⟨0, true⟩)] ∧
      ExactlyOnce "s-1" c :=
  ⟨_, rfl, rfl, submissions_exactly_once paymentEventsKnown_unpaidDatabase (by decide)
    (reaches_of_run
      (rfl : Config.run ⟨unpaidDatabase, []⟩ (overlappingRecords 40 ++ [.advance 1 {}]) = some _)
      (by decide +kernel))⟩

def undatedRetry : List (Move (manualOperations plainRuntime)) :=
  [.call .recordManual (cashRecord 100 (some 3)), .advance 0 {}, .advance 0 {},
    .call .recordManual (cashRecord 100 none), .advance 1 {}]

/-- What a key promises when its requests are compared by their inputs alone: identical requests
return one payment, and of two others one is told of the conflict. -/
def InputsDecide (key : String) (c : Config (manualOperations plainRuntime)) : Prop :=
  ∀ (i j : ℕ) (t u : Thread (manualOperations plainRuntime)), c.threads[i]? = some t →
    c.threads[j]? = some u → i ≠ j → HasKey key t → HasKey key u →
    ∀ result result', Done t result → Done u result' →
      (Identical t u → ∃ id duplicate duplicate', result = .ok ⟨id, duplicate⟩ ∧
        result' = .ok ⟨id, duplicate'⟩) ∧
      (¬ Identical t u → result = .error (keyConflict t.op) ∨ result' = .error (keyConflict u.op))

def doneRecord (amount : ℤ) (paidAt : Option ℕ)
    (result : Except Failure ManualPaymentCreationResult) :
    Thread (manualOperations plainRuntime) :=
  ⟨.recordManual, ((cashRecord amount paidAt, .done result) :
    RecordRequest × CreationState RecordRequest)⟩

def refusedPayment : Failure := invalid "Only an unpaid or overdue invoice can be paid."

theorem not_inputsDecide_refused {c : Config (manualOperations plainRuntime)}
    (h : c.threads = [doneRecord 100 none (.ok ⟨0, false⟩),
      doneRecord 100 none (.error refusedPayment)]) : ¬ InputsDecide "s-1" c := by
  intro hdecide
  have hfirst : c.threads[0]? = some (doneRecord 100 none (.ok ⟨0, false⟩)) := by rw [h]; rfl
  have hsecond : c.threads[1]? = some (doneRecord 100 none (.error refusedPayment)) := by rw [h]; rfl
  obtain ⟨hidentical, -⟩ := hdecide 0 1 _ _ hfirst hsecond nofun rfl rfl _ _ rfl rfl
  obtain ⟨id, duplicate, duplicate', -, hresult⟩ := hidentical ⟨rfl, rfl⟩
  exact nomatch hresult

theorem not_inputsDecide_undated {c : Config (manualOperations plainRuntime)}
    (h : c.threads = [doneRecord 100 (some 3) (.ok ⟨0, false⟩),
      doneRecord 100 none (.ok ⟨0, true⟩)]) : ¬ InputsDecide "s-1" c := by
  intro hdecide
  have hfirst : c.threads[0]? = some (doneRecord 100 (some 3) (.ok ⟨0, false⟩)) := by rw [h]; rfl
  have hsecond : c.threads[1]? = some (doneRecord 100 none (.ok ⟨0, true⟩)) := by rw [h]; rfl
  obtain ⟨-, hdiffer⟩ := hdecide 0 1 _ _ hfirst hsecond nofun rfl rfl _ _ rfl rfl
  have hinputs : (cashRecord 100 (some 3)).input ≠ (cashRecord 100 none).input := by decide
  rcases hdiffer fun ⟨_, hsame⟩ => hinputs hsame with hresult | hresult
  · exact nomatch hresult
  · exact nomatch hresult

/-- Of two identical records over the whole balance, the second is told that the invoice cannot be
paid; and a record that leaves the date of the first one out returns its payment. -/
theorem retry_by_inputs_fails :
    (¬ ∀ c : Config (manualOperations plainRuntime),
      Reaches anyStep ⟨unpaidDatabase, []⟩ c → InputsDecide "s-1" c) ∧
    ∃ c c' : Config (manualOperations plainRuntime),
      Config.run ⟨unpaidDatabase, []⟩ (overlappingRecords 100) = some c ∧
      c.threads = [doneRecord 100 none (.ok ⟨0, false⟩),
        doneRecord 100 none (.error refusedPayment)] ∧ ¬ InputsDecide "s-1" c ∧
      Config.run ⟨unpaidDatabase, []⟩ undatedRetry = some c' ∧
      c'.threads = [doneRecord 100 (some 3) (.ok ⟨0, false⟩), doneRecord 100 none (.ok ⟨0, true⟩)] ∧
      ¬ InputsDecide "s-1" c' := by
  obtain ⟨c, hrun, hthreads⟩ : ∃ c : Config (manualOperations plainRuntime),
      Config.run ⟨unpaidDatabase, []⟩ (overlappingRecords 100) = some c ∧
      c.threads = [doneRecord 100 none (.ok ⟨0, false⟩),
        doneRecord 100 none (.error refusedPayment)] := ⟨_, rfl, rfl⟩
  obtain ⟨c', hrun', hthreads'⟩ : ∃ c : Config (manualOperations plainRuntime),
      Config.run ⟨unpaidDatabase, []⟩ undatedRetry = some c ∧
      c.threads = [doneRecord 100 (some 3) (.ok ⟨0, false⟩),
        doneRecord 100 none (.ok ⟨0, true⟩)] := ⟨_, rfl, rfl⟩
  have hrefused := not_inputsDecide_refused hthreads
  exact ⟨fun h => hrefused (h c (reaches_anyStep_of_run hrun)), c, c', hrun, hthreads, hrefused,
    hrun', hthreads', not_inputsDecide_undated hthreads'⟩

end PaymentService

end WebhostBilling
