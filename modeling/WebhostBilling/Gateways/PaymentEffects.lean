import WebhostBilling.Gateways.ConfirmedPayments

/-!
# What a step does to the payments

Every step of the operations that can settle a payment inserts a pending one, updates one without
settling it, or settles the one that its delivery is about (`confirmedStep_payments`).  A payment
keeps its reference meanwhile.
-/

namespace WebhostBilling

open Store Store.Table Concurrency

namespace PaymentGatewayService

/-! ## The effects -/

/-- An update that takes no reference away and settles nothing. -/
structure Harmless (f : Payment → Payment) : Prop where
  reference : ∀ row reference, row.reference = some reference → (f row).reference = some reference
  status : ∀ row, (f row).status = .succeeded → row.status = .succeeded

theorem harmless_noted (reason : String) : Harmless (notedPayment reason) where
  reference _ _ h := h
  status _ h := h

theorem harmless_errored (outcome : ProviderOutcome) (message : String) :
    Harmless (erroredPayment outcome message) where
  reference _ _ h := h
  status _ h := by
    cases outcome <;> exact nomatch h

theorem harmless_failed (event : NormalizedPaymentEvent) : Harmless (failedPayment event) where
  reference _ _ h := h
  status _ h := nomatch h

theorem harmless_recorded (session : GatewayPaymentSession) :
    Harmless (sessionRecorded session) where
  reference row reference h := by
    rw [sessionRecorded, if_neg (by rw [h]; rintro ⟨⟩)]
    exact h
  status row h := by
    unfold sessionRecorded at h
    split at h <;> exact h

/-- **What a step does to the payments**: only a delivery of success settles one. -/
inductive PaymentsEffect (payments : Table Payment) (applied : Option Delivery) :
    Table Payment → Prop
  | quiet : PaymentsEffect payments applied payments
  | inserted {row : Payment} (hstatus : row.status = .pending) :
      PaymentsEffect payments applied (payments.insert row)
  | updated {id : RowId} {f : Payment → Payment} (hf : Harmless f) :
      PaymentsEffect payments applied (payments.update id f)
  | settled {d : Delivery} {payment : Payment} {transactionId : String} {now : ℕ}
      (happlied : applied = some d) (hstatus : d.event.status = .succeeded)
      (hpayment : payments.get? d.event.paymentId = some payment)
      (hprovider : payment.provider = d.gateway.key) (hamount : payment.amount = d.event.amount)
      (hcurrency : payment.currency = d.event.currency) :
      PaymentsEffect payments applied
        (payments.update d.event.paymentId (settledPayment d.event transactionId now))

section

variable {rt : ProviderRuntime} {production : Bool} {w : World} {db db' : Database}

theorem CheckoutEffect.payments {payments payments' : Table Payment} {claiming : Option RowId}
    {applying : Option Delivery} {stage stage' : Stage} {calls : List CheckoutCall}
    (h : CheckoutEffect payments claiming applying stage payments' stage' calls) :
    PaymentsEffect payments applying payments' := by
  cases h with
  | quiet | found | called => exact .quiet
  | inserted hpending => exact .inserted hpending
  | claimed | noted => exact .updated (harmless_noted _)
  | recorded => exact .updated (harmless_recorded _)
  | errored => exact .updated (harmless_errored _ _)
  | decided happlying _ hdecides =>
    cases hdecides with
    | failed => exact .updated (harmless_failed _)
    | settled hstatus hpayment hprovider hamount hcurrency =>
      exact .settled happlying hstatus hpayment hprovider hamount hcurrency

theorem processStep_delivery {l l' : ProcessState} (h : processStep w db l = some (db', l')) :
    l'.delivery = l.delivery := by
  unfold processStep at h
  split at h
  · split at h <;> (cases h; rfl)
  · split at h <;> (cases h; rfl)
  · split at h <;> (cases h; rfl)
  · exact nomatch h

def applied : (op : ConfirmedOperation) → (confirmedOperations rt production op).Local →
    Option Delivery
  | .processWebhook, (_, .processing state) => applying rt.toRuntime .processNormalizedEvent state
  | .completeBkashCallback, (_, state) => applying rt.toRuntime .completeBkashCallback state
  | .reconcilePayment, (_, state) => applying rt.toRuntime .reconcilePayment state
  | _, _ => none

variable {s s' : GatewayStore} {wp : ProviderWorld}

theorem normalizeWebhook_db (now : ℕ) (s : GatewayStore) (request : WebhookRequest) :
    (normalizeWebhook rt now s request).1.db = s.db := by
  unfold normalizeWebhook
  split <;> rfl

theorem webhookStep_payments {request : WebhookRequest} {l l' : WebhookState}
    (h : webhookStep rt production wp s request l = some (s', l')) :
    PaymentsEffect s.db.payments (@applied rt production .processWebhook (request, l))
      s'.db.payments := by
  cases l with
  | received =>
    rw [webhookStep] at h
    split_ifs at h <;> (cases h; exact .quiet)
  | validating ipn =>
    rw [webhookStep] at h
    split at h <;> (cases h; exact .quiet)
  | verified =>
    rw [webhookStep] at h
    have hdb : (normalizeWebhook rt wp.now s request).1.db = s.db := normalizeWebhook_db _ _ _
    split at h <;>
    · rename_i heq
      cases h
      rw [heq] at hdb
      rw [hdb]
      exact .quiet
  | processing state =>
    cases state with
    | done d result =>
      cases h
      exact .quiet
    | lookup _ | transact _ | raced _ =>
      obtain ⟨out, hstep, rfl, rfl⟩ := map_eq_some_pair.1 h
      exact (processStep_effect rt.toRuntime .idle hstep).payments
  | done result => exact nomatch h

theorem confirmCallbackStep_payments {session : String} {l l' : CallbackState}
    (h : confirmCallbackStep rt production wp db session l = some (db', l')) :
    PaymentsEffect db.payments (applying rt.toRuntime .completeBkashCallback l) db'.payments := by
  unfold confirmCallbackStep at h
  split at h
  · split at h
    · exact (callbackStep_effect h).payments
    · cases h
      exact .quiet
  · exact (callbackStep_effect h).payments

theorem confirmReconcileStep_payments {reference : String} {l l' : ReconcileState}
    (h : confirmReconcileStep rt production wp db reference l = some (db', l')) :
    PaymentsEffect db.payments (applying rt.toRuntime .reconcilePayment l) db'.payments := by
  unfold confirmReconcileStep at h
  split at h
  · split at h
    · exact (reconcileStep_effect h).payments
    · cases h
      exact .quiet
  · exact (reconcileStep_effect h).payments
  · exact (reconcileStep_effect h).payments

theorem confirmedStep_payments {op : ConfirmedOperation}
    {l l' : (confirmedOperations rt production op).Local}
    (h : (confirmedOperations rt production op).step wp s l = some (s', l')) :
    PaymentsEffect s.db.payments (applied op l) s'.db.payments := by
  cases op with
  | createSession =>
    obtain ⟨out, hstep, rfl, rfl⟩ := map_eq_some_pair.1 h
    exact (@sessionStep_effect rt.toRuntime _ _ _ _ _ hstep).payments
  | processWebhook =>
    obtain ⟨out, hstep, rfl, rfl⟩ := map_eq_some_pair.1 h
    exact webhookStep_payments hstep
  | completeBkashCallback =>
    obtain ⟨out, hstep, rfl, rfl⟩ := map_eq_some_pair.1 h
    exact confirmCallbackStep_payments hstep
  | reconcilePayment =>
    obtain ⟨out, hstep, rfl, rfl⟩ := map_eq_some_pair.1 h
    exact confirmReconcileStep_payments hstep

/-! ## References and settlements -/

def Carries (payments : Table Payment) (id : RowId) (reference : String) : Prop :=
  ∃ row, payments.get? id = some row ∧ row.reference = some reference

variable {payments payments' : Table Payment} {applied : Option Delivery} {id : RowId}

theorem PaymentsEffect.carries (h : PaymentsEffect payments applied payments') {reference : String}
    (hcarries : Carries payments id reference) : Carries payments' id reference := by
  obtain ⟨row, hrow, hreference⟩ := hcarries
  have hupdated : ∀ (j : RowId) (f : Payment → Payment),
      (∀ row reference, row.reference = some reference → (f row).reference = some reference) →
      Carries (payments.update j f) id reference := by
    intro j f hf
    by_cases hj : j = id
    · subst hj
      exact ⟨f row, get?_update_self hrow, hf row reference hreference⟩
    · exact ⟨row, by rw [get?_update_of_ne hj]; exact hrow, hreference⟩
  cases h with
  | quiet => exact ⟨row, hrow, hreference⟩
  | inserted => exact ⟨row, get?_insert_of_some hrow, hreference⟩
  | updated hf => exact hupdated _ _ hf.reference
  | settled => exact hupdated _ _ fun _ _ h => h

theorem PaymentsEffect.newly_settled (h : PaymentsEffect payments applied payments') {row : Payment}
    (hrow : payments'.get? id = some row) (hstatus : row.status = .succeeded)
    (hnew : ∀ before ∈ payments.get? id, before.status ≠ .succeeded) :
    ∃ d, applied = some d ∧ d.event.status = .succeeded ∧ d.event.paymentId = id ∧
      row.provider = d.gateway.key ∧ row.amount = d.event.amount ∧
      row.currency = d.event.currency ∧
      ∀ reference, Carries payments id reference → row.reference = some reference := by
  cases h with
  | quiet => exact absurd hstatus (hnew row hrow)
  | inserted hpending =>
    rcases get?_insert_cases hrow with ⟨-, rfl⟩ | hold
    · exact nomatch hpending.symm.trans hstatus
    · exact absurd hstatus (hnew row hold)
  | updated hf =>
    rcases get?_update_cases hrow with ⟨rfl, before, hbefore, rfl⟩ | ⟨-, hold⟩
    · exact absurd (hf.status before hstatus) (hnew before hbefore)
    · exact absurd hstatus (hnew row hold)
  | @settled d payment transactionId now happlied hevent hpayment hprovider hamount hcurrency =>
    rcases get?_update_cases hrow with ⟨rfl, before, hbefore, rfl⟩ | ⟨-, hold⟩
    · obtain rfl := Option.mem_unique hpayment hbefore
      refine ⟨d, happlied, hevent, rfl, hprovider, hamount, hcurrency, ?_⟩
      rintro reference ⟨carried, hcarried, hreference⟩
      obtain rfl := Option.mem_unique hpayment hcarried
      exact hreference
    · exact absurd hstatus (hnew row hold)

end

end PaymentGatewayService

end WebhostBilling
