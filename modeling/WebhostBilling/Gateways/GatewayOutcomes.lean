import WebhostBilling.Gateways.ProviderEvents

/-!
# The outcome of a gateway payment

Events look at the status of a payment before they write it, but the error paths of `createSession`
and of the bKash callback do not: they write the status that follows from their own call to the
provider, and another callback or notification may have settled the payment meanwhile.
-/

namespace WebhostBilling

open Store Store.Table Concurrency Config

namespace PaymentGatewayService

/-- What can happen to a gateway payment; a notification is processed by
`processNormalizedEvent`. -/
inductive GatewayOperation
  | createSession
  | processNormalizedEvent
  | completeBkashCallback
  | reconcilePayment

def gatewayOperations (rt : Runtime) : GatewayOperation → Operation Database World
  | .createSession => createSession
  | .processNormalizedEvent => processNormalizedEvent
  | .completeBkashCallback => completeBkashCallback rt
  | .reconcilePayment => reconcilePayment rt

/-! ## What each operation writes -/

def errorStatus (outcome : ProviderOutcome) : PaymentStatus :=
  if outcome = .failed then .failed else .pending

def ErrorWritable (db : Database) (id : RowId) (outcome : ProviderOutcome) : Prop :=
  ∀ payment ∈ db.payments.get? id, payment.status = .pending ∨ payment.status = errorStatus outcome
deriving Decidable

variable {db db' : Database} {w : World}

theorem settles_of_inserted {row : Payment} (hrow : row.status = .pending) :
    Settles db { db with payments := db.payments.insert row } where
  events := Grows.refl (fun _ => rfl) _
  payments := grows_insert Payment.Advances.refl _ _
  invoicesSize := rfl
  invoices i invoice hi := by
    refine ⟨invoice, hi, ?_⟩
    rw [succeededTotal, succeededTotal, total_insert]
    simp [paysInvoice, hrow]

theorem settles_of_noted {id : RowId} (f : Payment → Payment)
    (hf : ∀ p, Payment.Advances p (f p) ∧ (f p).status = p.status) :
    Settles db (db.updatePayment id f) :=
  settles_of_unpaid (Grows.refl (fun _ => rfl) _) f
    (fun p _ => ⟨(hf p).1, by rw [(hf p).2]⟩) rfl rfl

theorem settles_writeProviderError_iff {id : RowId} {outcome : ProviderOutcome} {message : String} :
    Settles db (writeProviderError id outcome message db) ↔ ErrorWritable db id outcome := by
  constructor
  · intro h payment hpayment
    obtain ⟨payment', hpayment', hadvance⟩ := h.payments id payment hpayment
    rw [writeProviderError, Database.updatePayment, get?_update_self hpayment,
      Option.some.injEq] at hpayment'
    by_cases hpending : payment.status = .pending
    · exact .inl hpending
    · right
      rw [← hadvance.settled hpending, ← hpayment']
      rfl
  · intro h
    refine settles_of_unpaid (Grows.refl (fun _ => rfl) _) _ ?_ rfl rfl
    intro p hp
    have hne : errorStatus outcome ≠ .succeeded := by
      cases outcome <;> simp [errorStatus]
    refine ⟨⟨rfl, rfl, rfl, fun hsettled => ?_⟩, ?_⟩
    · rcases h p hp with hpending | hsame
      · exact absurd hpending hsettled
      · exact hsame.symm
    · show errorStatus outcome = .succeeded ↔ p.status = .succeeded
      rcases h p hp with hpending | hsame
      · simp [hne, hpending]
      · simp [hne, hsame]

theorem sessionTransaction_eq_ok {request : CreatePaymentSessionRequest}
    {created : RowId × Payment} (h : sessionTransaction request db = .ok (db', created)) :
    ∃ row : Payment, row.status = .pending ∧
      db' = { db with payments := db.payments.insert row } := by
  simp only [sessionTransaction, eq_ok] at h
  obtain ⟨invoice, -, -, -, -, ⟨db₁, id⟩, hcreate, h⟩ := h
  rw [Database.createPayment_eq_ok] at hcreate
  obtain ⟨rfl, -⟩ := h
  exact ⟨_, rfl, (Prod.mk.inj hcreate.2.2.2).1⟩

/-- A step of `createSession` settles, unless it is an error path that overwrites an outcome. -/
theorem sessionStep_settles {l l' : SessionState}
    (hwritable : ∀ id outcome message, l = .fail id outcome message → ErrorWritable db id outcome)
    (h : sessionStep w db l = some (db', l')) : Settles db db' := by
  unfold sessionStep at h
  split at h
  · split at h <;> (cases h; exact Settles.refl _)
  · split at h <;>
    · rename_i heq
      cases h
      rcases atomically_store heq with rfl | ⟨created, hok⟩
      · exact Settles.refl _
      · obtain ⟨row, hrow, rfl⟩ := sessionTransaction_eq_ok hok
        exact settles_of_inserted hrow
  · split at h <;> (cases h; exact Settles.refl _)
  · split at h
    · split at h
      · cases h
        exact settles_of_noted _ fun p => ⟨⟨rfl, rfl, rfl, fun _ => rfl⟩, rfl⟩
      · cases h; exact Settles.refl _
    · cases h; exact Settles.refl _
  · split at h <;> (cases h; exact Settles.refl _)
  · rename_i id payment duplicate session
    cases h
    refine settles_of_noted _ fun p => ?_
    rw [sessionRecorded]
    split
    · exact ⟨⟨rfl, rfl, rfl, fun _ => rfl⟩, rfl⟩
    · exact ⟨Payment.Advances.refl p, rfl⟩
  · rename_i id outcome message
    cases h
    exact settles_writeProviderError_iff.2 (hwritable id outcome message rfl)
  · cases h

theorem callbackStep_settles {rt : Runtime} {l l' : CallbackState}
    (hwritable : ∀ id invoiceId outcome message, l = .fail id invoiceId outcome message →
      ErrorWritable db id outcome)
    (h : callbackStep rt w db l = some (db', l')) : Settles db db' := by
  unfold callbackStep at h
  split at h
  · split at h
    · cases h; exact Settles.refl _
    · split at h <;> (cases h; exact Settles.refl _)
  · split at h <;> (cases h; exact Settles.refl _)
  · split at h
    · cases h; exact Settles.refl _
    · cases h; exact Settles.refl _
    · obtain ⟨out, hout, rfl, -⟩ := map_eq_some_pair.1 h
      exact processStep_settles hout
  · rename_i id invoiceId outcome message
    cases h
    exact settles_writeProviderError_iff.2 (hwritable id invoiceId outcome message rfl)
  · cases h

/-- A reconciliation writes nothing but a failure reason on its error path. -/
theorem reconcileStep_settles {rt : Runtime}
    {l l' : ReconcileState} (h : reconcileStep rt w db l = some (db', l')) : Settles db db' := by
  unfold reconcileStep at h
  split at h
  · split at h
    · cases h; exact Settles.refl _
    · split at h
      · cases h; exact Settles.refl _
      · split at h <;> (cases h; exact Settles.refl _)
  · split at h <;> (cases h; exact Settles.refl _)
  · split at h
    · cases h; exact Settles.refl _
    · obtain ⟨out, hout, rfl, -⟩ := map_eq_some_pair.1 h
      exact processStep_settles hout
  · cases h
    exact settles_of_noted _ fun p => ⟨⟨rfl, rfl, rfl, fun _ => rfl⟩, rfl⟩
  · cases h

/-! ## Runs -/

section

variable (rt : Runtime)

def errorWrite : (op : GatewayOperation) → (gatewayOperations rt op).Local →
    Option (RowId × ProviderOutcome)
  | .createSession, .fail id outcome _ => some (id, outcome)
  | .completeBkashCallback, .fail id _ outcome _ => some (id, outcome)
  | _, _ => none

/-- An error path writes only while its payment is pending, or has the status it writes. -/
def ErrorsFindPending (_ : World) (db : Database) (t : Thread (gatewayOperations rt)) : Prop :=
  ∀ write ∈ errorWrite rt t.op t.loc, ErrorWritable db write.1 write.2
deriving Decidable

/-- Succeeded payments cover what an invoice counts as paid. -/
def Backed (db : Database) : Prop :=
  ∀ i invoice, db.invoices.get? i = some invoice → invoice.amountPaid ≤ succeededTotal db i
deriving Decidable

/-- A payment that succeeded or failed stays so. -/
def OutcomesFinal (db db' : Database) : Prop :=
  ∀ id payment, db.payments.get? id = some payment →
    payment.status = .succeeded ∨ payment.status = .failed →
    ∃ payment', db'.payments.get? id = some payment' ∧ payment'.status = payment.status

theorem OutcomesFinal.map_status (h : OutcomesFinal db db') {id : RowId}
    (hstatus : (db.payments.get? id).map Payment.status = some .succeeded) :
    (db'.payments.get? id).map Payment.status = some .succeeded := by
  obtain ⟨payment, hpayment, hsucceeded⟩ := Option.map_eq_some_iff.1 hstatus
  obtain ⟨payment', hpayment', heq⟩ := h id payment hpayment (.inl hsucceeded)
  rw [hpayment', Option.map_some, heq, hsucceeded]

theorem step_settles {w : World} {t t' : Thread (gatewayOperations rt)}
    (hguard : ErrorsFindPending rt w db t) (h : t.step w db = some (db', t')) : Settles db db' := by
  obtain ⟨l, hl, -⟩ := Thread.step_eq_some h
  obtain ⟨op, loc⟩ := t
  cases op with
  | createSession =>
    refine sessionStep_settles ?_ hl
    rintro id outcome message rfl
    exact hguard (id, outcome) rfl
  | processNormalizedEvent => exact processStep_settles hl
  | completeBkashCallback =>
    refine callbackStep_settles ?_ hl
    rintro id invoiceId outcome message rfl
    exact hguard (id, outcome) rfl
  | reconcilePayment => exact reconcileStep_settles hl

theorem outcomesFinal_of_settles (h : Settles db db') : OutcomesFinal db db' := by
  intro id payment hpayment hstatus
  obtain ⟨payment', hpayment', hadvance⟩ := h.payments id payment hpayment
  refine ⟨payment', hpayment', hadvance.settled ?_⟩
  rcases hstatus with hstatus | hstatus <;> (rw [hstatus]; exact fun h => nomatch h)

theorem backed_of_settles (h : Settles db db') (hbacked : Backed db) :
    Backed db' := by
  intro i invoice' hi'
  have hlt := lt_size_of_get? hi'
  rw [h.invoicesSize] at hlt
  obtain ⟨invoice, hi⟩ := exists_get?_of_lt_size hlt
  obtain ⟨invoice₂, hi₂, heq⟩ := h.invoices i invoice hi
  obtain rfl := Option.mem_unique hi' hi₂
  have := hbacked i invoice hi
  omega

/-- **Outcomes are final in every run whose error paths find their payment pending**, and what an
invoice counts as paid stays backed. -/
theorem outcomes_final {c c' : Config (gatewayOperations rt)}
    (hr : Reaches (ErrorsFindPending rt) c c') :
    OutcomesFinal c.shared c'.shared ∧ (Backed c.shared → Backed c'.shared) := by
  have hsettles : Settles c.shared c'.shared :=
    related_of_reaches Settles.refl (fun _ _ _ => Settles.trans)
      (fun _ _ _ _ _ hguard hstep => step_settles rt hguard hstep) hr
  exact ⟨outcomesFinal_of_settles hsettles, backed_of_settles hsettles⟩

end

/-! ### Two callbacks of one session -/

def confirmedWorld : World where
  now := 7
  gatewayExecution := .ok {
    providerTransactionId := some "TRX9", status := .succeeded, amount := 100, currency := "BDT",
    occurredAt := 5, failureReason := none }

def unansweredWorld : World where
  now := 8
  gatewayStatus := .error (.provider .unknown
    "The payment provider could not be reached. Reconciliation is required before retrying.")
  gatewayExecution := .error (.provider .unknown
    "The payment provider could not be reached. Reconciliation is required before retrying.")

/-- The library functions, for a run that stores hashes without comparing any. -/
def callbackRuntime : Runtime :=
  .onPlainText (fun _ => "b6a1d0e1a1c4b1f7") fun _ => "1970-01-01T00:00:00.005Z"

def successCallback : CallbackRequest := ⟨"TR001", "success"⟩

def overlappingReads : List (Move (gatewayOperations callbackRuntime)) :=
  [.call .completeBkashCallback successCallback, .call .completeBkashCallback successCallback,
    .advance 0 {}, .advance 1 {}]

def settleFirst : List (Move (gatewayOperations callbackRuntime)) :=
  [.advance 0 confirmedWorld, .advance 0 {}, .advance 0 {}]

/-- The second callback cannot reach bKash, and writes that the payment is pending. -/
def failSecond : List (Move (gatewayOperations callbackRuntime)) :=
  [.advance 1 unansweredWorld, .advance 1 unansweredWorld]

def settledConfig : Config (gatewayOperations callbackRuntime) :=
  Config.after ⟨openSession .bkash "TR001", []⟩ (overlappingReads ++ settleFirst) (by decide +kernel)

def overwrittenConfig : Config (gatewayOperations callbackRuntime) :=
  Config.after settledConfig failSecond (by decide +kernel)

theorem callback_overwrites_outcome :
    Config.run ⟨openSession .bkash "TR001", []⟩ (overlappingReads ++ settleFirst) =
        some settledConfig ∧
      Config.run settledConfig failSecond = some overwrittenConfig ∧
      (settledConfig.shared.payments.get? 0).map Payment.status = some .succeeded ∧
      (overwrittenConfig.shared.payments.get? 0).map Payment.status = some .pending ∧
      ¬ OutcomesFinal settledConfig.shared overwrittenConfig.shared ∧
      Backed settledConfig.shared ∧ ¬ Backed overwrittenConfig.shared := by
  have hsucceeded :
      (settledConfig.shared.payments.get? 0).map Payment.status = some .succeeded := by
    decide +kernel
  have hpending :
      (overwrittenConfig.shared.payments.get? 0).map Payment.status = some .pending := by
    decide +kernel
  refine ⟨run_eq_after _, run_eq_after _, hsucceeded, hpending, ?_, ?_, ?_⟩
  · intro h
    have := h.map_status hsucceeded
    rw [hpending] at this
    exact nomatch this
  · decide +kernel
  · decide +kernel

/-- The other way round, the error is written while the payment is pending, and the payment is
settled afterwards. -/
def settledLateConfig : Config (gatewayOperations callbackRuntime) :=
  Config.after ⟨openSession .bkash "TR001", []⟩ (overlappingReads ++ failSecond ++ settleFirst)
    (by decide +kernel)

/-- A notification of a failure, under an identifier of its own, for the payment by now settled. -/
def failedDelivery : Delivery where
  gateway := .bkash
  event := {
    providerEventId := "evt-2", eventType := "payment.failed", status := .failed,
    merchantId := "bkash-sandbox", paymentId := 0, invoiceId := 0, amount := 100,
    currency := "BDT", providerTransactionId := none, occurredAt := 6,
    failureReason := some "Declined." }
  payloadHash := "f00d"

def notifyFailure : List (Move (gatewayOperations callbackRuntime)) :=
  [.call .processNormalizedEvent failedDelivery, .advance 2 {}, .advance 2 {}]

theorem outcomes_final_after_early_error :
    (settledLateConfig.shared.payments.get? 0).map Payment.status = some .succeeded ∧
      settledLateConfig.shared.paymentEvents.size <
        (settledLateConfig.after notifyFailure (by decide +kernel)).shared.paymentEvents.size ∧
      OutcomesFinal settledLateConfig.shared
        (settledLateConfig.after notifyFailure (by decide +kernel)).shared ∧
      (Backed settledLateConfig.shared →
        Backed (settledLateConfig.after notifyFailure (by decide +kernel)).shared) :=
  ⟨by decide +kernel, by decide +kernel, outcomes_final callbackRuntime
    (reaches_of_run (run_eq_after _) (by decide +kernel))⟩

end PaymentGatewayService

end WebhostBilling
