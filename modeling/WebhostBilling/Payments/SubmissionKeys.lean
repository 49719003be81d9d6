import WebhostBilling.Payments.PaymentService

/-!
# Submission keys

Each of the three operations that create a payment looks its key up before its transaction;
`submitManual` does so again under the invoice's lock, while `recordManual` and `adjust` rely on the
key's uniqueness and look it up when their insertion has failed.

`Answers` is what a step of a request can come to as far as its key is concerned, when its own
checks pass (`acceptable`); what every step leaves alone is `keyChange_of_step`.
-/

namespace WebhostBilling

open Store Store.Table Concurrency Database

namespace PaymentService

/-! ## Whether a payment is what a request asks for -/

/-- The charge is the one that the input asks for; a date that the input leaves out is the one the
payment was recorded with. -/
def SameCharge (db : Database) (payment : Payment) (input : SubmitManualPaymentRequest)
    (submittedByRole : UserRole) (customerId : Option RowId) : Prop :=
  payment.kind = .charge ∧ payment.invoiceId = input.invoiceId ∧
    (∀ customer ∈ customerId, invoiceCustomer db payment = some customer) ∧
    createdByRole db payment = some submittedByRole ∧ payment.amount = input.amount ∧
    payment.manualMethod = some input.proof.method ∧
    payment.reference = some input.proof.reference ∧
    payment.payerName = input.proof.payerName ∧ payment.note = input.proof.note ∧
    (input.proof.paidAt.isSome → payment.receivedAt = input.proof.paidAt)
deriving Decidable

def SameAdjustment (payment : Payment) (originalPaymentId : RowId)
    (input : CreatePaymentAdjustmentRequest) : Prop :=
  payment.originalPaymentId = some originalPaymentId ∧
    payment.kind = input.kind.toPaymentKind ∧ payment.amount = input.amount ∧
    payment.reference = some input.reference ∧ payment.note = input.note
deriving Decidable

def anotherPayment : Failure :=
  conflict "This submission key has already been used for another payment."

def anotherAdjustment : Failure :=
  conflict "This submission key has already been used for another adjustment."

theorem duplicateChargeResult_eq (db : Database) (existing : RowId × Payment)
    (input : SubmitManualPaymentRequest) (submittedByRole : UserRole) (customerId : Option RowId) :
    duplicateChargeResult db existing input submittedByRole customerId =
      if SameCharge db existing.2 input submittedByRole customerId then .ok ⟨existing.1, true⟩
      else .error anotherPayment := by
  by_cases h : SameCharge db existing.2 input submittedByRole customerId
  · rw [if_pos h]
    unfold SameCharge at h
    rw [duplicateChargeResult, require_true _ h]
    rfl
  · rw [if_neg h]
    unfold SameCharge at h
    rw [duplicateChargeResult, require_false _ h]
    rfl

theorem duplicateAdjustmentResult_eq (existing : RowId × Payment) (originalPaymentId : RowId)
    (input : CreatePaymentAdjustmentRequest) :
    duplicateAdjustmentResult existing originalPaymentId input =
      if SameAdjustment existing.2 originalPaymentId input then .ok ⟨existing.1, true⟩
      else .error anotherAdjustment := by
  by_cases h : SameAdjustment existing.2 originalPaymentId input
  · rw [if_pos h]
    unfold SameAdjustment at h
    rw [duplicateAdjustmentResult, require_true _ h]
    rfl
  · rw [if_neg h]
    unfold SameAdjustment at h
    rw [duplicateAdjustmentResult, require_false _ h]
    rfl

/-! ## The operations on manual payments -/

inductive ManualOperation
  | submitManual
  | recordManual
  | review
  | adjust

def manualOperations (rt : Runtime) : ManualOperation → Operation Database World
  | .submitManual => (submitManual rt).remembering
  | .recordManual => (recordManual rt).remembering
  | .review => (review rt).remembering
  | .adjust => (adjust rt).remembering

section

variable {rt : Runtime}

def submissionKey : (op : ManualOperation) → (manualOperations rt op).Request → Option String
  | .submitManual, (request : SubmitRequest) => some request.input.submissionKey
  | .recordManual, (request : RecordRequest) => some request.input.submissionKey
  | .review, _ => none
  | .adjust, (request : AdjustRequest) => some request.input.submissionKey

def Describes (db : Database) (payment : Payment) :
    (op : ManualOperation) → (manualOperations rt op).Request → Prop
  | .submitManual, (request : SubmitRequest) =>
    SameCharge db payment request.input .customer (some request.customerId)
  | .recordManual, (request : RecordRequest) => SameCharge db payment request.input .admin none
  | .review, _ => False
  | .adjust, (request : AdjustRequest) =>
    SameAdjustment payment request.originalPaymentId request.input

def keyConflict : ManualOperation → Failure
  | .adjust => anotherAdjustment
  | _ => anotherPayment

def SameInput : (op : ManualOperation) → (r r' : (manualOperations rt op).Request) → Prop
  | .submitManual, (r : SubmitRequest), (r' : SubmitRequest) =>
    r.input = r'.input ∧ r.customerId = r'.customerId
  | .recordManual, (r : RecordRequest), (r' : RecordRequest) => r.input = r'.input
  | .review, _, _ => False
  | .adjust, (r : AdjustRequest), (r' : AdjustRequest) =>
    r.originalPaymentId = r'.originalPaymentId ∧ r.input = r'.input

variable {db : Database} {customerId : Option RowId} {existing : RowId × Payment} {key : String}
  {input : SubmitManualPaymentRequest} {role : UserRole}

theorem describes_congr {payment : Payment} (op : ManualOperation)
    {r r' : (manualOperations rt op).Request} (h : SameInput op r r') :
    Describes db payment op r ↔ Describes db payment op r' := by
  cases op with
  | submitManual =>
    obtain ⟨hinput, hcustomer⟩ : (r : SubmitRequest).input = (r' : SubmitRequest).input ∧
      (r : SubmitRequest).customerId = (r' : SubmitRequest).customerId := h
    show SameCharge db payment (r : SubmitRequest).input .customer _ ↔ _
    rw [hinput, hcustomer]
    rfl
  | recordManual =>
    have hinput : (r : RecordRequest).input = (r' : RecordRequest).input := h
    show SameCharge db payment (r : RecordRequest).input .admin none ↔ _
    rw [hinput]
    rfl
  | review => exact h.elim
  | adjust =>
    obtain ⟨horiginal, hinput⟩ : (r : AdjustRequest).originalPaymentId =
      (r' : AdjustRequest).originalPaymentId ∧ (r : AdjustRequest).input =
        (r' : AdjustRequest).input := h
    show SameAdjustment payment (r : AdjustRequest).originalPaymentId (r : AdjustRequest).input ↔ _
    rw [horiginal, hinput]
    rfl

/-- How far a request is, as far as its key is concerned. -/
inductive Phase
  | running
  | raced
  | done (result : Except Failure ManualPaymentCreationResult)

def CreationState.phase {R : Type} : CreationState R → Phase
  | .lookup _ | .transact _ => .running
  | .raced _ => .raced
  | .done result => .done result

def AdjustState.phase : AdjustState → Phase
  | .lookup _ | .locate _ | .transact _ _ => .running
  | .raced _ => .raced
  | .done result => .done result

def phase : (op : ManualOperation) → (manualOperations rt op).Local → Phase
  | .submitManual, l => CreationState.phase l.2
  | .recordManual, l => CreationState.phase l.2
  | .review, _ => .running
  | .adjust, l => AdjustState.phase l.2

/-- What a step of a request with the key can come to. -/
inductive Answers (key : String) (describes : Database → Payment → Prop) (conflict : Failure)
    (db : Database) : Database → Phase → Prop
  | goesOn : Answers key describes conflict db db .running
  | loses (h : Taken key db) : Answers key describes conflict db db .raced
  | returns {id : RowId} {payment : Payment} (hpayment : db.payments.get? id = some payment)
      (hkey : payment.idempotencyKey = key) (h : describes db payment) :
      Answers key describes conflict db db (.done (.ok ⟨id, true⟩))
  | conflicts {id : RowId} {payment : Payment} (hpayment : db.payments.get? id = some payment)
      (hkey : payment.idempotencyKey = key) (h : ¬ describes db payment) :
      Answers key describes conflict db db (.done (.error conflict))
  | creates {db' : Database} {payment : Payment} (hfree : ¬ Taken key db)
      (hpayments : db'.payments = db.payments.insert payment)
      (hkey : payment.idempotencyKey = key) (h : describes db' payment) :
      Answers key describes conflict db db' (.done (.ok ⟨db.payments.size, false⟩))

/-! ## Looking a key up -/

theorem findBySubmissionKey_eq_some (h : findBySubmissionKey db key = some existing) :
    db.payments.get? existing.1 = some existing.2 ∧ existing.2.idempotencyKey = key := by
  obtain ⟨hget, hkey⟩ := find?_eq_some h
  exact ⟨hget, by simpa using hkey⟩

theorem findBySubmissionKey_eq_none :
    findBySubmissionKey db key = none ↔ ¬ Taken key db := by
  rw [findBySubmissionKey, find?_eq_none]
  constructor
  · rintro h ⟨id, payment, hpayment, hkey⟩
    simpa [hkey] using h id payment hpayment
  · intro h id payment hpayment
    rw [decide_eq_false_iff_not]
    exact fun hkey => h ⟨id, payment, hpayment, hkey⟩

instance (key : String) (db : Database) : Decidable (Taken key db) :=
  decidable_of_iff ((findBySubmissionKey db key).isSome = true) (by
    rw [← not_iff_not, ← findBySubmissionKey_eq_none]
    simp)

theorem answers_duplicate (describes : Database → Payment → Prop) {conflict : Failure}
    (h : findBySubmissionKey db key = some existing) [Decidable (describes db existing.2)] :
    Answers key describes conflict db db
      (.done (if describes db existing.2 then .ok ⟨existing.1, true⟩ else .error conflict)) := by
  obtain ⟨hget, hkey⟩ := findBySubmissionKey_eq_some h
  by_cases hsame : describes db existing.2
  · rw [if_pos hsame]
    exact .returns hget hkey hsame
  · rw [if_neg hsame]
    exact .conflicts hget hkey hsame

/-! ## The checks of a request -/

def ReferenceFree (db : Database) (reference : String) : Prop :=
  ∀ id payment, db.payments.get? id = some payment →
    ¬ (payment.provider = "manual" ∧ payment.providerTransactionId = some reference)
deriving Decidable

/-- What `assertPayableAmount` asks for. -/
def PayableAmount (db : Database) (invoice : Invoice) (amount : ℤ) : Prop :=
  invoice.payable ∧ (0 < amount ∧ amount ≤ invoice.balanceDue) ∧
    (readSettings db = true ∨ amount = invoice.balanceDue)
deriving Decidable

def ValidDate (proof : ManualPaymentProof) (now : ℕ) : Prop :=
  ∀ paidAt ∈ proof.paidAt, paidAt ≤ now + 5 * 60 * 1000
deriving Decidable

/-- A customer submits for an invoice of theirs; unless the key is taken, its amount can be paid and
the reference does not wait for its review yet. -/
def SubmitChecks (rt : Runtime) (request : SubmitRequest) (db : Database) : Prop :=
  (db.users.get? request.userId).map User.role = some .customer ∧
    ∃ invoice ∈ db.invoices.get? request.input.invoiceId,
      invoice.customerId = request.customerId ∧
      (Taken request.input.submissionKey db ∨
        PayableAmount db invoice request.input.amount ∧
          referencePending rt db request.input = false)
deriving Decidable

def RecordChecks (rt : Runtime) (request : RecordRequest) (db : Database) : Prop :=
  (db.users.get? request.userId).map User.role = some .admin ∧
    ∃ invoice ∈ db.invoices.get? request.input.invoiceId,
      PayableAmount db invoice request.input.amount ∧
      (Taken request.input.submissionKey db ∨
        ReferenceFree db (providerReference rt request.input.proof.method
          request.input.proof.reference))
deriving Decidable

/-- An administrator adjusts a verified manual charge by an amount that is left of it; unless the
key is taken, the reference is free. -/
def AdjustChecks (rt : Runtime) (request : AdjustRequest) (invoiceId : RowId) (db : Database) :
    Prop :=
  ∃ original ∈ db.payments.get? request.originalPaymentId,
    (original.provider = "manual" ∧ original.kind = .charge ∧ original.status = .succeeded) ∧
    ∃ invoice ∈ db.invoices.get? invoiceId, 0 < request.input.amount ∧
      (request.input.amount ≤ original.amount - adjustedAmount db request.originalPaymentId ∧
        request.input.amount ≤ invoice.amountPaid) ∧
      (Taken request.input.submissionKey db ∨
        ReferenceFree db (providerReference rt (original.manualMethod.getD .other)
          request.input.reference))
deriving Decidable

/-- Events about payments are about recorded ones. -/
def PaymentEventsKnown (db : Database) : Prop :=
  ∀ i event, db.outboxEvents.get? i = some event → ∀ id,
    (event.idempotencyKey = .emailPaymentReceived id ∨ event.idempotencyKey = .renewalPayment id) →
      id < db.payments.size

theorem createPayment_eq_error {row : Payment} {e : Failure}
    (hpos : 0 < row.amount) (h : db.createPayment row = .error e) :
    e = .uniqueConstraint ∧ (Taken row.idempotencyKey db ∨ ∃ id payment,
      db.payments.get? id = some payment ∧ payment.provider = row.provider ∧
        row.providerTransactionId.isSome ∧
        payment.providerTransactionId = row.providerTransactionId) := by
  simp only [createPayment, bind_eq_error, require_eq_error, require_eq_ok,
    exists_const, Bool.not_eq_false, any_eq_true, decide_eq_true_eq] at h
  rcases h with ⟨hneg, -⟩ | ⟨-, ⟨⟨id, payment, hget, hkey⟩, rfl⟩ | ⟨-, ⟨hreference, rfl⟩ | ⟨-, h⟩⟩⟩
  · exact absurd hpos hneg
  · exact ⟨rfl, .inl ⟨id, payment, hget, hkey⟩⟩
  · rw [Classical.not_imp] at hreference
    obtain ⟨hsome, hany⟩ := hreference
    rw [Bool.not_eq_false, any_eq_true] at hany
    obtain ⟨id, payment, hget, hsame⟩ := hany
    rw [decide_eq_true_eq] at hsame
    exact ⟨rfl, .inr ⟨id, payment, hget, hsame.1, hsome, hsame.2⟩⟩
  · exact absurd h pure_ne_error

theorem sameCharge_chargeData {rt : Runtime}
    {userId : RowId} {verified : Bool} {currency : String} {now : ℕ}
    (hrole : (db.users.get? userId).map User.role = some role)
    (hcustomer : ∀ customer ∈ customerId,
      (db.invoices.get? input.invoiceId).map Invoice.customerId = some customer) :
    SameCharge db (chargeData rt input userId verified currency now) input role customerId := by
  refine ⟨rfl, rfl, hcustomer, hrole, rfl, rfl, rfl, rfl, rfl, fun hsome => ?_⟩
  obtain ⟨paidAt, hpaidAt⟩ := Option.isSome_iff_exists.1 hsome
  show some (input.proof.paidAt.getD now) = input.proof.paidAt
  rw [hpaidAt, Option.getD_some]

/-! ## Submitting -/

def CreationState.request {R : Type} : CreationState R → Option R
  | .lookup request | .transact request | .raced request => some request
  | .done _ => none

/-- The checks of a request pass in its next step. -/
def Creation.acceptable {R : Type} (creation : Creation R) (checks : R → Prop) (w : World)
    (db : Database) : CreationState R → Prop
  | .lookup request =>
    Taken (creation.input request).submissionKey db ∨ ValidDate (creation.input request).proof w.now
  | .transact request => checks request
  | _ => True

instance Creation.decidableAcceptable {R : Type} (creation : Creation R) (checks : R → Prop)
    [DecidablePred checks] (w : World) (db : Database) :
    (l : CreationState R) → Decidable (creation.acceptable checks w db l)
  | .lookup _ => inferInstanceAs (Decidable (_ ∨ _))
  | .transact request => inferInstanceAs (Decidable (checks request))
  | .raced _ | .done _ => inferInstanceAs (Decidable True)

theorem answers_duplicateCharge (h : findBySubmissionKey db input.submissionKey = some existing) :
    Answers input.submissionKey (fun db payment => SameCharge db payment input role customerId)
      anotherPayment db db (.done (duplicateChargeResult db existing input role customerId)) := by
  rw [duplicateChargeResult_eq]
  exact answers_duplicate (fun db payment => SameCharge db payment input role customerId) h

theorem answers_handleCreationError (h : Taken input.submissionKey db) :
    Answers input.submissionKey (fun db payment => SameCharge db payment input role customerId)
      anotherPayment db db (.done (handleCreationError db input role customerId)) := by
  rw [handleCreationError]
  split
  · rename_i existing hfind
    exact answers_duplicateCharge hfind
  · rename_i hfind
    exact absurd h (findBySubmissionKey_eq_none.1 hfind)

theorem validateReceivedAt_eq_ok {proof : ManualPaymentProof} {now : ℕ} {u : Unit} :
    validateReceivedAt proof now = .ok u ↔ ValidDate proof now := by
  rw [validateReceivedAt, require_eq_ok]
  rfl

variable {w : World} {db' : Database}
variable {e : Failure} {invoice : Invoice} {result : ManualPaymentCreationResult}
  {payment payment' : Payment} {invoiceId : RowId} {now : ℕ} {amount : ℤ}

theorem answers_of_submitTransaction {request : SubmitRequest}
    (hchecks : SubmitChecks rt request db)
    (h : submitTransaction rt request now db = .ok (db', result)) :
    Answers request.input.submissionKey
      (fun db payment => SameCharge db payment request.input .customer (some request.customerId))
      anotherPayment db db' (.done (.ok result)) := by
  obtain ⟨hrole, -⟩ := hchecks
  rcases submitTransaction_eq_ok h with
    ⟨rfl, existing, hfind, hresult⟩ | ⟨invoice, hinvoice, hcustomer, -, hfree, rfl, rfl⟩
  · rw [← hresult]
    exact answers_duplicateCharge hfind
  · refine .creates hfree rfl rfl (sameCharge_chargeData hrole fun customer hmem => ?_)
    show (db.invoices.get? request.input.invoiceId).map Invoice.customerId = some customer
    rw [hinvoice, Option.map_some, hcustomer]
    exact hmem

theorem answers_of_submitTransaction_error {request : SubmitRequest}
    (hchecks : SubmitChecks rt request db)
    (h : submitTransaction rt request now db = .error e) :
    e = anotherPayment ∧ Answers request.input.submissionKey
      (fun db payment => SameCharge db payment request.input .customer (some request.customerId))
      anotherPayment db db (.done (.error e)) := by
  obtain ⟨-, invoice, hinvoice, hcustomer, hpay⟩ := hchecks
  rw [Option.mem_def] at hinvoice
  simp only [submitTransaction, bind_eq_error, orThrow_eq_error, eq_ok, require_eq_error, hinvoice,
    reduceCtorEq, false_and, false_or, Option.some.injEq, exists_eq_left', hcustomer,
    not_true_eq_false, true_and] at h
  split at h
  · rename_i raced hfind
    simp only [bind_eq_error, pure_ne_error, and_false, exists_false, or_false] at h
    have he : e = anotherPayment := by
      rw [duplicateChargeResult_eq] at h
      split at h
      · cases h
      · exact (Except.error.inj h).symm
    refine ⟨he, ?_⟩
    rw [← h]
    exact answers_duplicateCharge hfind
  · rename_i hfind
    have hfree := findBySubmissionKey_eq_none.1 hfind
    obtain ⟨hpayable, hpending⟩ := hpay.resolve_left hfree
    have hassert : assertPayableAmount db invoice request.input.amount = .ok () :=
      assertPayableAmount_eq_ok.2 hpayable
    simp only [bind_eq_error, hassert, reduceCtorEq, false_or, require_eq_error, hpending,
      not_true_eq_false, false_and, require_eq_ok, true_and, exists_const, pure_ne_error, and_false,
      exists_false, or_false] at h
    obtain ⟨-, htaken | ⟨_, _, -, -, hsome, -⟩⟩ := createPayment_eq_error hpayable.2.1.1 h
    · exact absurd htaken hfree
    · cases hsome

/-- An attempt that passed its checks created the payment, or lost the key to another one. -/
theorem Creation.answers {R : Type} (creation : Creation R) {checks : R → Prop} {request : R}
    {l l' : CreationState R} {key : String} (hkey : (creation.input request).submissionKey = key)
    (hrequest : ∀ r ∈ l.request, r = request) (haccept : creation.acceptable checks w db l)
    (hraced : l.phase = .raced → Taken key db)
    (hok : checks request → ∀ db' result, creation.transaction request w.now db = .ok (db', result) →
      Answers key (fun db payment => SameCharge db payment (creation.input request)
        creation.submittedByRole (creation.customerId request)) anotherPayment db db'
        (.done (.ok result)))
    (herror : checks request → ∀ e, creation.transaction request w.now db = .error e →
      e = .uniqueConstraint ∧ Taken key db ∨ e = anotherPayment ∧
        Answers key (fun db payment => SameCharge db payment (creation.input request)
          creation.submittedByRole (creation.customerId request)) anotherPayment db db
          (.done (.error e)))
    (h : creation.step w db l = some (db', l')) :
    Answers key (fun db payment => SameCharge db payment (creation.input request)
      creation.submittedByRole (creation.customerId request)) anotherPayment db db' l'.phase := by
  subst hkey
  unfold Creation.step at h
  split at h
  · obtain rfl := hrequest _ rfl
    split at h
    · rename_i duplicate hfind
      cases h
      exact answers_duplicateCharge hfind
    · rename_i hfind
      have hdate := haccept.resolve_left (findBySubmissionKey_eq_none.1 hfind)
      split at h
      · cases h
        exact .goesOn
      · rename_i hinvalid
        rw [(validateReceivedAt_eq_ok (u := ())).2 hdate] at hinvalid
        exact nomatch hinvalid
  · obtain rfl := hrequest _ rfl
    split at h
    · rename_i heq
      cases h
      exact hok haccept _ _ (atomically_ok heq)
    · rename_i heq
      cases h
      obtain ⟨hfailed, rfl⟩ := atomically_error heq
      rcases herror haccept _ hfailed with ⟨-, htaken⟩ | ⟨hother, -⟩
      · exact .loses htaken
      · exact nomatch hother
    · rename_i hnot heq
      cases h
      obtain ⟨hfailed, rfl⟩ := atomically_error heq
      rcases herror haccept _ hfailed with ⟨rfl, -⟩ | ⟨-, hanswers⟩
      · exact (hnot rfl).elim
      · exact hanswers
  · obtain rfl := hrequest _ rfl
    cases h
    exact answers_handleCreationError (hraced rfl)
  · cases h

/-! ## Recording -/

theorem domainOrderGuard_paid (db : Database) (orderId : RowId) :
    db.domainOrderGuard orderId .paid = .ok () := by
  rw [domainOrderGuard, require_true _ nofun, require_true _ nofun, require_true]
  · rfl
  · rintro (h | h | h) <;> exact nomatch h

theorem markInvoiceOrderPaid_ne_error :
    markInvoiceOrderPaid invoice now db ≠ .error e := by
  rw [markInvoiceOrderPaid]
  split
  · rename_i orderId _
    rw [markOrderPaid, updateOrderWhile]
    split
    · rename_i order horder
      split
      · simp only [updateOrder, ne_eq, bind_eq_error, orThrow_eq_error, orThrow_eq_ok,
          horder, reduceCtorEq, false_and, domainOrderGuard_paid, pure_ne_error, and_false,
          exists_false, or_self, not_false_eq_true]
      · rintro ⟨⟩
    · rintro ⟨⟩
  · rintro ⟨⟩

variable {paymentId originalPaymentId : RowId} {invoices : Table Invoice}

theorem applyVerifiedCharge_ne_error
    (hreceived : db.hasOutboxKey (.emailPaymentReceived paymentId) = false)
    (hrenewal : db.hasOutboxKey (.renewalPayment paymentId) = false) :
    applyVerifiedCharge invoiceId invoice paymentId amount now db ≠ .error e := by
  intro h
  simp only [applyVerifiedCharge, bind_eq_error] at h
  rcases h with h | ⟨db₁, horder, h | ⟨db₂, hevent, h⟩⟩
  · rw [payOrder] at h
    split at h
    · exact markInvoiceOrderPaid_ne_error h
    · cases h
  · obtain ⟨orders, -, rfl⟩ := payOrder_eq_ok horder
    simp only [createOutboxEvent, bind_eq_error, require_eq_error, pure_ne_error, and_false,
      exists_false, or_false] at h
    exact h.1 hreceived
  · obtain ⟨orders, -, rfl⟩ := payOrder_eq_ok horder
    rw [createOutboxEvent_eq_ok] at hevent
    obtain ⟨-, rfl⟩ := hevent
    rw [announceRenewal] at h
    split at h
    · simp only [createOutboxEvent, bind_eq_error, require_eq_error, pure_ne_error,
        and_false, exists_false, or_false] at h
      refine h.1 ?_
      rw [hasOutboxKey, any_eq_false] at hrenewal ⊢
      intro i event hevent
      rcases get?_insert_cases hevent with ⟨-, rfl⟩ | hevent
      · rfl
      · exact hrenewal i event hevent
    · cases h

theorem PaymentEventsKnown.fresh (h : PaymentEventsKnown db) {key : OutboxKey}
    (hkey : key = .emailPaymentReceived db.payments.size ∨ key = .renewalPayment db.payments.size) :
    db.hasOutboxKey key = false := by
  rw [hasOutboxKey, any_eq_false]
  intro i event hevent
  rw [decide_eq_false_iff_not]
  rintro rfl
  exact Nat.lt_irrefl _ (h i event hevent _ hkey)

theorem answers_of_recordTransaction {request : RecordRequest}
    (hchecks : RecordChecks rt request db)
    (h : recordTransaction rt request now db = .ok (db', result)) :
    Answers request.input.submissionKey
      (fun db payment => SameCharge db payment request.input .admin none)
      anotherPayment db db' (.done (.ok result)) := by
  obtain ⟨hrole, -⟩ := hchecks
  obtain ⟨invoice, orders, -, -, -, -, -, ⟨hfree, rfl⟩, rfl⟩ := recordTransaction_eq_ok h
  refine .creates hfree rfl rfl ⟨rfl, rfl, nofun, hrole, rfl, rfl, rfl, rfl, rfl, fun hsome => ?_⟩
  show some (request.input.proof.paidAt.getD now) = request.input.proof.paidAt
  obtain ⟨paidAt, hpaidAt⟩ := Option.isSome_iff_exists.1 hsome
  rw [hpaidAt, Option.getD_some]

theorem taken_of_recordTransaction_error {request : RecordRequest}
    (hknown : PaymentEventsKnown db) (hchecks : RecordChecks rt request db)
    (h : recordTransaction rt request now db = .error e) :
    e = .uniqueConstraint ∧ Taken request.input.submissionKey db := by
  obtain ⟨-, invoice, hinvoice, hpayable, hreference⟩ := hchecks
  rw [Option.mem_def] at hinvoice
  have hassert : assertPayableAmount db invoice request.input.amount = .ok () :=
    assertPayableAmount_eq_ok.2 hpayable
  simp only [recordTransaction, bind_eq_error, orThrow_eq_error, orThrow_eq_ok, exists_const,
    hinvoice, reduceCtorEq, false_and, false_or, Option.some.injEq, exists_eq_left', hassert,
    true_and, pure_ne_error, and_false, exists_false, or_false] at h
  rcases h with h | ⟨out, hcreate, h⟩
  · obtain ⟨rfl, htaken | ⟨id, payment, hpayment, hprovider, -, hid⟩⟩ :=
      createPayment_eq_error hpayable.2.1.1 h
    · exact ⟨rfl, htaken⟩
    · exact ⟨rfl, hreference.resolve_right fun hfree =>
        hfree id payment hpayment ⟨hprovider, hid⟩⟩
  · rw [createPayment_eq_ok] at hcreate
    obtain ⟨-, -, -, rfl⟩ := hcreate
    exact absurd h (applyVerifiedCharge_ne_error (hknown.fresh (.inl rfl))
      (hknown.fresh (.inr rfl)))

/-! ## Adjusting -/

def AdjustState.request : AdjustState → Option AdjustRequest
  | .lookup request | .locate request | .transact request _ | .raced request => some request
  | .done _ => none

def adjustAcceptable (rt : Runtime) (db : Database) : AdjustState → Prop
  | .locate request => (db.payments.get? request.originalPaymentId).isSome = true
  | .transact request invoiceId => AdjustChecks rt request invoiceId db
  | _ => True

instance decidableAdjustAcceptable (rt : Runtime) (db : Database) :
    (l : AdjustState) → Decidable (adjustAcceptable rt db l)
  | .lookup _ => inferInstanceAs (Decidable True)
  | .locate _ => inferInstanceAs (Decidable (_ = true))
  | .transact request invoiceId => inferInstanceAs (Decidable (AdjustChecks rt request invoiceId db))
  | .raced _ => inferInstanceAs (Decidable True)
  | .done _ => inferInstanceAs (Decidable True)

theorem answers_duplicateAdjustment {input : CreatePaymentAdjustmentRequest}
    (h : findBySubmissionKey db input.submissionKey = some existing) :
    Answers input.submissionKey (fun _ payment => SameAdjustment payment originalPaymentId input)
      anotherAdjustment db db
      (.done (duplicateAdjustmentResult existing originalPaymentId input)) := by
  rw [duplicateAdjustmentResult_eq]
  exact answers_duplicate (fun _ payment => SameAdjustment payment originalPaymentId input) h

theorem answers_of_adjustTransaction {request : AdjustRequest}
    (h : adjustTransaction rt request invoiceId now db = .ok (db', result)) :
    Answers request.input.submissionKey
      (fun _ payment => SameAdjustment payment request.originalPaymentId request.input)
      anotherAdjustment db db' (.done (.ok result)) := by
  obtain ⟨original, invoice, -, -, -, -, -, -, -, -, ⟨hfree, rfl⟩, rfl⟩ := adjustTransaction_eq_ok h
  exact .creates hfree rfl rfl ⟨rfl, rfl, rfl, rfl, rfl⟩

theorem taken_of_adjustTransaction_error {request : AdjustRequest}
    (hchecks : AdjustChecks rt request invoiceId db)
    (h : adjustTransaction rt request invoiceId now db = .error e) :
    e = .uniqueConstraint ∧ Taken request.input.submissionKey db := by
  obtain ⟨original, horiginal, hcharge, invoice, hinvoice, hpos, hleft, hreference⟩ := hchecks
  rw [Option.mem_def] at horiginal hinvoice
  simp only [adjustTransaction, bind_eq_error, orThrow_eq_error, eq_ok, require_eq_error,
    horiginal, hinvoice, reduceCtorEq, false_and, false_or, Option.some.injEq, exists_eq_left',
    hcharge, hleft, and_self, not_true_eq_false, true_and, pure_ne_error, and_false, exists_false,
    or_false] at h
  obtain ⟨rfl, htaken | ⟨id, payment, hpayment, hprovider, -, hid⟩⟩ := createPayment_eq_error hpos h
  · exact ⟨rfl, htaken⟩
  · exact ⟨rfl, hreference.resolve_right fun hfree => hfree id payment hpayment ⟨hprovider, hid⟩⟩

theorem answers_adjustStep {request : AdjustRequest} {l l' : AdjustState}
    (hrequest : ∀ r ∈ l.request, r = request) (haccept : adjustAcceptable rt db l)
    (hraced : l.phase = .raced → Taken request.input.submissionKey db)
    (h : adjustStep rt w db l = some (db', l')) :
    Answers request.input.submissionKey
      (fun _ payment => SameAdjustment payment request.originalPaymentId request.input)
      anotherAdjustment db db' l'.phase := by
  unfold adjustStep at h
  split at h
  · obtain rfl := hrequest _ rfl
    split at h
    · rename_i duplicate hfind
      cases h
      exact answers_duplicateAdjustment hfind
    · cases h
      exact .goesOn
  · obtain rfl := hrequest _ rfl
    split at h
    · cases h
      exact .goesOn
    · rename_i hnone
      rw [adjustAcceptable, hnone] at haccept
      exact nomatch haccept
  · obtain rfl := hrequest _ rfl
    split at h
    · rename_i heq
      cases h
      have hok := atomically_ok heq
      exact answers_of_adjustTransaction hok
    · rename_i heq
      cases h
      obtain ⟨herror, rfl⟩ := atomically_error heq
      exact .loses (taken_of_adjustTransaction_error haccept herror).2
    · rename_i hnot heq
      have herror := (atomically_error heq).1
      obtain ⟨rfl, -⟩ := taken_of_adjustTransaction_error haccept herror
      exact (hnot rfl).elim
  · obtain rfl := hrequest _ rfl
    have htaken := hraced rfl
    split at h
    · rename_i raced hfind
      cases h
      exact answers_duplicateAdjustment hfind
    · rename_i hfind
      exact absurd htaken (findBySubmissionKey_eq_none.1 hfind)
  · cases h

/-! ## What requests leave alone -/

/-- The columns by which a payment is compared with a request never change. -/
structure SamePayment (payment payment' : Payment) : Prop where
  kind : payment'.kind = payment.kind
  invoiceId : payment'.invoiceId = payment.invoiceId
  createdByUserId : payment'.createdByUserId = payment.createdByUserId
  originalPaymentId : payment'.originalPaymentId = payment.originalPaymentId
  idempotencyKey : payment'.idempotencyKey = payment.idempotencyKey
  amount : payment'.amount = payment.amount
  reference : payment'.reference = payment.reference
  manualMethod : payment'.manualMethod = payment.manualMethod
  payerName : payment'.payerName = payment.payerName
  note : payment'.note = payment.note
  receivedAt : payment'.receivedAt = payment.receivedAt

theorem SamePayment.refl (payment : Payment) : SamePayment payment payment := by
  constructor <;> rfl

theorem samePayment_rejected (reason : String) (userId : RowId) (now : ℕ) (payment : Payment) :
    SamePayment payment (rejectedPayment reason userId now payment) := by
  constructor <;> rfl

theorem samePayment_verified (reference : String) (userId : RowId) (now : ℕ) (payment : Payment) :
    SamePayment payment (verifiedPayment reference userId now payment) := by
  constructor <;> rfl

/-- What every step of every request leaves alone. -/
structure Kept (db db' : Database) : Prop where
  users : db'.users = db.users
  customers : db'.invoices.map Invoice.customerId = db.invoices.map Invoice.customerId
  payments : db.payments.Grows SamePayment db'.payments
  known : PaymentEventsKnown db → PaymentEventsKnown db'

theorem Kept.refl (db : Database) : Kept db db where
  users := rfl
  customers := rfl
  payments := Grows.refl SamePayment.refl _
  known h := h

theorem Kept.taken (h : Kept db db') (htaken : Taken key db) :
    Taken key db' := by
  obtain ⟨id, payment, hpayment, hkey⟩ := htaken
  obtain ⟨payment', hpayment', hsame⟩ := h.payments id payment hpayment
  exact ⟨id, payment', hpayment', hsame.idempotencyKey.trans hkey⟩

theorem Kept.invoiceCustomer (h : Kept db db') (hsame : SamePayment payment payment') :
    invoiceCustomer db' payment' = invoiceCustomer db payment := by
  rw [PaymentService.invoiceCustomer, PaymentService.invoiceCustomer, ← get?_map,
    ← get?_map, h.customers, hsame.invoiceId]

theorem Kept.createdByRole (h : Kept db db') (hsame : SamePayment payment payment') :
    createdByRole db' payment' = createdByRole db payment := by
  rw [PaymentService.createdByRole, PaymentService.createdByRole, h.users, hsame.createdByUserId]

theorem Kept.sameCharge_iff (h : Kept db db') (hsame : SamePayment payment payment') :
    SameCharge db' payment' input role customerId ↔ SameCharge db payment input role customerId := by
  rw [SameCharge, SameCharge, h.invoiceCustomer hsame, h.createdByRole hsame, hsame.kind,
    hsame.invoiceId, hsame.amount, hsame.manualMethod, hsame.reference, hsame.payerName, hsame.note,
    hsame.receivedAt]

theorem sameAdjustment_iff (hsame : SamePayment payment payment')
    {input : CreatePaymentAdjustmentRequest} :
    SameAdjustment payment' originalPaymentId input ↔
      SameAdjustment payment originalPaymentId input := by
  rw [SameAdjustment, SameAdjustment, hsame.originalPaymentId, hsame.kind, hsame.amount,
    hsame.reference, hsame.note]

theorem Kept.describes_iff (h : Kept db db')
    (hsame : SamePayment payment payment') (op : ManualOperation)
    (request : (manualOperations rt op).Request) :
    Describes db' payment' op request ↔ Describes db payment op request := by
  cases op with
  | submitManual | recordManual => exact h.sameCharge_iff hsame
  | review => exact Iff.rfl
  | adjust => exact sameAdjustment_iff hsame

inductive KeyChange (key : Option String) (db db' : Database) : Prop
  | keeps (h : db'.payments.size = db.payments.size)
  | creates {payment : Payment} (hkey : key = some payment.idempotencyKey)
      (hfree : ¬ Taken payment.idempotencyKey db) (h : db'.payments = db.payments.insert payment)

theorem known_of_chargeEvents (hsize : db.payments.size ≤ db'.payments.size)
    (hpayment : paymentId < db'.payments.size) (hevents : db'.outboxEvents =
      db.outboxEvents.insertAll (chargeEvents invoiceId invoice paymentId amount))
    (h : PaymentEventsKnown db) : PaymentEventsKnown db' := by
  intro i event hevent id hkey
  rw [hevents] at hevent
  rcases get?_insertAll_cases hevent with ⟨-, hnew⟩ | hevent
  · have hid : paymentId = id := by
      rw [chargeEvents, List.mem_cons] at hnew
      rcases hnew with rfl | hnew
      · rcases hkey with hkey | hkey
        · exact OutboxKey.emailPaymentReceived.inj hkey
        · cases hkey
      · rw [renewalEvents] at hnew
        split at hnew
        · split at hnew
          · rw [List.mem_singleton] at hnew
            subst hnew
            rcases hkey with hkey | hkey
            · cases hkey
            · exact OutboxKey.renewalPayment.inj hkey
          · exact absurd hnew List.not_mem_nil
        · exact absurd hnew List.not_mem_nil
    rw [← hid]
    exact hpayment
  · exact (h i event hevent id hkey).trans_le hsize

theorem map_customerId_chargeInvoice :
    (invoices.update invoiceId (chargeInvoice invoice amount now)).map Invoice.customerId =
      invoices.map Invoice.customerId :=
  map_update_eq fun _ _ => rfl

theorem map_customerId_adjustInvoice :
    (invoices.update invoiceId (adjustInvoice invoice amount now)).map Invoice.customerId =
      invoices.map Invoice.customerId :=
  map_update_eq fun _ _ => rfl

variable {op : ManualOperation} {l l' : (manualOperations rt op).Local}

theorem keyChange_submit {request : SubmitRequest}
    (h : submitTransaction rt request now db = .ok (db', result)) :
    Kept db db' ∧ KeyChange (some request.input.submissionKey) db db' := by
  rcases submitTransaction_eq_ok h with ⟨rfl, -⟩ | ⟨invoice, -, -, -, hfree, -, rfl⟩
  · exact ⟨Kept.refl _, .keeps rfl⟩
  · refine ⟨⟨rfl, rfl, grows_insert SamePayment.refl _ _, fun hknown => ?_⟩,
      .creates rfl hfree rfl⟩
    intro i event hevent id hkey
    refine (hknown i event hevent id hkey).trans_le ?_
    rw [size_insert]
    exact Nat.le_succ _

theorem keyChange_record {request : RecordRequest}
    (h : recordTransaction rt request now db = .ok (db', result)) :
    Kept db db' ∧ KeyChange (some request.input.submissionKey) db db' := by
  obtain ⟨invoice, orders, -, -, -, -, -, ⟨hfree, -⟩, rfl⟩ := recordTransaction_eq_ok h
  refine ⟨⟨rfl, map_customerId_chargeInvoice, grows_insert SamePayment.refl _ _,
    known_of_chargeEvents ?_ ?_ rfl⟩, .creates rfl hfree rfl⟩
  · rw [size_insert]
    exact Nat.le_succ _
  · rw [size_insert]
    exact Nat.lt_succ_self _

variable {paymentId userId : RowId} {u : Unit}

theorem keyChange_adjust {request : AdjustRequest}
    (h : adjustTransaction rt request invoiceId now db = .ok (db', result)) :
    Kept db db' ∧ KeyChange (some request.input.submissionKey) db db' := by
  obtain ⟨original, invoice, -, -, -, -, -, -, -, -, ⟨hfree, -⟩, rfl⟩ := adjustTransaction_eq_ok h
  refine ⟨⟨rfl, map_customerId_adjustInvoice, grows_insert SamePayment.refl _ _,
    fun hknown => ?_⟩, .creates rfl hfree rfl⟩
  intro i event hevent id hkey
  refine (hknown i event hevent id hkey).trans_le ?_
  rw [size_insert]
  exact Nat.le_succ _

theorem keyChange_reject {reason : String}
    (h : rejectTransaction paymentId reason userId now db = .ok (db', u)) :
    Kept db db' ∧ KeyChange none db db' := by
  obtain ⟨payment, -, -, -, -, rfl⟩ := rejectTransaction_eq_ok h
  refine ⟨⟨rfl, rfl, grows_update SamePayment.refl fun row _ =>
    samePayment_rejected reason userId now row, fun hknown i event hevent id hkey => ?_⟩,
    .keeps (size_update _ _ _)⟩
  rw [size_update]
  exact hknown i event hevent id hkey

theorem keyChange_verify
    (h : verifyTransaction rt paymentId invoiceId userId now db = .ok (db', u)) :
    Kept db db' ∧ KeyChange none db db' := by
  obtain ⟨payment, invoice, reference, orders, hpayment, -, -, -, -, -, -, -, rfl⟩ :=
    verifyTransaction_eq_ok h
  have hsize := size_update db.payments paymentId (verifiedPayment reference userId now)
  refine ⟨⟨rfl, map_customerId_chargeInvoice, grows_update SamePayment.refl fun row _ =>
    samePayment_verified reference userId now row, known_of_chargeEvents hsize.ge ?_ rfl⟩,
    .keeps hsize⟩
  rw [hsize]
  exact lt_size_of_get? hpayment

/-! ## The steps of all requests -/

def asked : (op : ManualOperation) → (manualOperations rt op).Local →
    (manualOperations rt op).Request
  | .submitManual, l => l.1
  | .recordManual, l => l.1
  | .review, l => l.1
  | .adjust, l => l.1

def pending : (op : ManualOperation) → (manualOperations rt op).Local →
    Option (manualOperations rt op).Request
  | .submitManual, l => CreationState.request l.2
  | .recordManual, l => CreationState.request l.2
  | .review, _ => none
  | .adjust, l => AdjustState.request l.2

/-- **A step of any request** keeps what payments are compared by, and creates a payment under the
request's own key and only when the key is free. -/
theorem keyChange_of_step (hpending : ∀ r ∈ pending op l, r = asked op l)
    (h : (manualOperations rt op).step w db l = some (db', l')) :
    Kept db db' ∧ KeyChange (submissionKey op (asked op l)) db db' := by
  cases op with
  | submitManual =>
    obtain ⟨hstep, -⟩ := Operation.remembering_step h
    rcases Creation.step_commits hstep with rfl | ⟨request, result, hl, hok⟩
    · exact ⟨Kept.refl _, .keeps rfl⟩
    · have hrequest : request = l.1 := hpending request (congrArg CreationState.request hl)
      have hchange := keyChange_submit hok
      rw [hrequest] at hchange
      exact hchange
  | recordManual =>
    obtain ⟨hstep, -⟩ := Operation.remembering_step h
    rcases Creation.step_commits hstep with rfl | ⟨request, result, hl, hok⟩
    · exact ⟨Kept.refl _, .keeps rfl⟩
    · have hrequest : request = l.1 := hpending request (congrArg CreationState.request hl)
      have hchange := keyChange_record hok
      rw [hrequest] at hchange
      exact hchange
  | review =>
    obtain ⟨hstep, -⟩ := Operation.remembering_step h
    rcases reviewStep_writes hstep with rfl | ⟨request, invoiceId, -, ⟨reason, hok⟩ | hok⟩
    · exact ⟨Kept.refl _, .keeps rfl⟩
    · exact keyChange_reject hok
    · exact keyChange_verify hok
  | adjust =>
    obtain ⟨hstep, -⟩ := Operation.remembering_step h
    rcases adjustStep_writes hstep with rfl | ⟨request, invoiceId, result, hl, hok⟩
    · exact ⟨Kept.refl _, .keeps rfl⟩
    · have hrequest : request = l.1 := hpending request (congrArg AdjustState.request hl)
      have hchange := keyChange_adjust hok
      rw [hrequest] at hchange
      exact hchange

theorem Creation.step_request {R : Type} {creation : Creation R} {l l' : CreationState R}
    (h : creation.step w db l = some (db', l')) : ∀ r ∈ l'.request, r ∈ l.request := by
  unfold Creation.step at h
  split at h
  · split at h
    · cases h; exact nofun
    · split at h <;> cases h
      · exact fun r hr => hr
      · exact nofun
  · split at h <;> cases h
    · exact nofun
    · exact fun r hr => hr
    · exact nofun
  · cases h; exact nofun
  · cases h

theorem adjustStep_request {l l' : AdjustState} (h : adjustStep rt w db l = some (db', l')) :
    ∀ r ∈ l'.request, r ∈ l.request := by
  unfold adjustStep at h
  split at h
  · split at h <;> cases h
    · exact nofun
    · exact fun r hr => hr
  · split at h <;> cases h
    · exact fun r hr => hr
    · exact nofun
  · split at h <;> cases h
    · exact nofun
    · exact fun r hr => hr
    · exact nofun
  · split at h <;> (cases h; exact nofun)
  · cases h

theorem asked_of_step (hpending : ∀ r ∈ pending op l, r = asked op l)
    (h : (manualOperations rt op).step w db l = some (db', l')) :
    asked op l' = asked op l ∧ ∀ r ∈ pending op l', r = asked op l' := by
  cases op with
  | submitManual =>
    obtain ⟨hstep, hasked⟩ := Operation.remembering_step h
    exact ⟨hasked, fun r hr => (hpending r (Creation.step_request hstep r hr)).trans hasked.symm⟩
  | recordManual =>
    obtain ⟨hstep, hasked⟩ := Operation.remembering_step h
    exact ⟨hasked, fun r hr => (hpending r (Creation.step_request hstep r hr)).trans hasked.symm⟩
  | review =>
    obtain ⟨-, hasked⟩ := Operation.remembering_step h
    exact ⟨hasked, nofun⟩
  | adjust =>
    obtain ⟨hstep, hasked⟩ := Operation.remembering_step h
    exact ⟨hasked, fun r hr => (hpending r (adjustStep_request hstep r hr)).trans hasked.symm⟩

/-- The checks of a request pass in its next step. -/
def acceptable (w : World) (db : Database) :
    (op : ManualOperation) → (manualOperations rt op).Local → Prop
  | .submitManual, l => (submitCreation rt).acceptable (SubmitChecks rt · db) w db l.2
  | .recordManual, l => (recordCreation rt).acceptable (RecordChecks rt · db) w db l.2
  | .review, _ => True
  | .adjust, l => adjustAcceptable rt db l.2

instance (w : World) (db : Database) :
    (op : ManualOperation) → (l : (manualOperations rt op).Local) → Decidable (acceptable w db op l)
  | .submitManual, l => (submitCreation rt).decidableAcceptable (SubmitChecks rt · db) w db l.2
  | .recordManual, l => (recordCreation rt).decidableAcceptable (RecordChecks rt · db) w db l.2
  | .review, _ => inferInstanceAs (Decidable True)
  | .adjust, l => decidableAdjustAcceptable rt db l.2

theorem answers_of_step (hknown : PaymentEventsKnown db)
    (hkey : submissionKey op (asked op l) = some key)
    (hpending : ∀ r ∈ pending op l, r = asked op l) (haccept : acceptable w db op l)
    (hraced : phase op l = .raced → Taken key db)
    (h : (manualOperations rt op).step w db l = some (db', l')) :
    Answers key (fun db payment => Describes db payment op (asked op l)) (keyConflict op) db db'
      (phase op l') := by
  cases op with
  | submitManual =>
    obtain rfl := Option.some.inj hkey
    exact (submitCreation rt).answers rfl hpending haccept hraced
      (fun hchecks _ _ => answers_of_submitTransaction hchecks)
      (fun hchecks _ herror => .inr (answers_of_submitTransaction_error hchecks herror))
      (Operation.remembering_step h).1
  | recordManual =>
    obtain rfl := Option.some.inj hkey
    exact (recordCreation rt).answers rfl hpending haccept hraced
      (fun hchecks _ _ => answers_of_recordTransaction hchecks)
      (fun hchecks _ herror => .inl (taken_of_recordTransaction_error hknown hchecks herror))
      (Operation.remembering_step h).1
  | review => exact nomatch hkey
  | adjust =>
    obtain rfl := Option.some.inj hkey
    exact answers_adjustStep hpending haccept hraced (Operation.remembering_step h).1

end

end PaymentService

end WebhostBilling
