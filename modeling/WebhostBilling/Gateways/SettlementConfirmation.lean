import WebhostBilling.Concurrency.Traces
import WebhostBilling.Gateways.PaymentEffects

/-!
# Settlements and the answers behind them

An event that reports success carries what an answer said, and a thread that delivers one relies on
that answer (`Backed`) and on the reference by which it found the payment (`Carries`).  What the map
of an SSLCOMMERZ adapter holds was answered for a body with the same hash.  The fake gateway has no
provider that could answer.
-/

namespace WebhostBilling

open Store Store.Table Concurrency Config SslCommerzPaymentGateway

namespace PaymentGatewayService

/-! ## What is behind a settlement -/

def ProviderCall.gateway : ProviderCall → PaymentGateway
  | .validation _ _ => .sslcommerz
  | .execution _ => .bkash
  | .status gateway _ => gateway

section

variable (rt : ProviderRuntime) (production : Bool)

def ConfirmedBy (id : RowId) (amount : ℤ) (currency : String) :
    ProviderCall → PaymentHttpResponse → Prop
  | .validation _ valId => Confirms rt valId id amount currency
  | .execution session | .status .bkash session =>
    BkashPaymentGateway.Confirms rt session amount currency
  | .status .sslcommerz reference => Reports rt reference amount currency
  | .status .fake _ => fun _ => False

/-- The request was made for what a caller sent; `same` says which bodies are taken for one. -/
def MadeFor (same : Body → Body → Prop) : SettlementSource → ProviderCall → Prop
  | .body rawBody _, .validation validated _ => same rawBody validated
  | .session reference, .execution session => session = reference
  | .session reference, .status _ asked => asked = reference
  | _, _ => False

def SignedFor : SettlementSource → Prop
  | .body rawBody signature =>
    production = false ∧ FakePaymentGateway.verifyWebhookSignature rt rawBody signature
  | _ => False

/-- **What settles a payment of a gateway**: an answer of its provider or, for the fake gateway, a
signed body. -/
def Confirmed (same : Body → Body → Prop) (trace : List ConfirmationNote)
    (source : SettlementSource) (gateway : PaymentGateway) (id : RowId) (amount : ℤ)
    (currency : String) : Prop :=
  (∃ call response, .answered call response ∈ trace ∧ MadeFor same source call ∧
    call.gateway = gateway ∧ ConfirmedBy rt id amount currency call response) ∨
  (gateway = .fake ∧ SignedFor rt production source)

/-- What was noted before a settlement confirms it. -/
def SettlementConfirmed (same : List ConfirmationNote → Body → Body → Prop)
    (before : List ConfirmationNote) : ConfirmationNote → Prop
  | .settled id payment source =>
    (∃ gateway : PaymentGateway, payment.provider = gateway.key ∧
      Confirmed rt production (same before) before source gateway id payment.amount
        payment.currency) ∧
    ∀ reference, source = .session reference → payment.reference = some reference
  | _ => True

def SameHash (trace : List ConfirmationNote) (rawBody validated : Body) : Prop :=
  .received rawBody ∈ trace ∧ .received validated ∈ trace ∧
    rt.payloadHash rawBody = rt.payloadHash validated

/-- An event that reports success has what settles its payment behind it. -/
def EventConfirmed (trace : List ConfirmationNote) (source : SettlementSource) (d : Delivery) :
    Prop :=
  d.event.status = .succeeded → Confirmed rt production (SameHash rt trace) trace source d.gateway
    d.event.paymentId d.event.amount d.event.currency

def VerifiedSound (trace : List ConfirmationNote)
    (verified : ℕ × String → Option VerifiedNotification) : Prop :=
  ∀ key found, verified key = some found → ∃ rawBody response,
    .received rawBody ∈ trace ∧ key.2 = rt.payloadHash rawBody ∧
      .answered (.validation rawBody found.validation.valId) response ∈ trace ∧
      response.successful ∧
      validationSchema response.body = some found.validation

def WebhookSound (trace : List ConfirmationNote) (request : WebhookRequest) : WebhookState → Prop
  | .received | .done _ => True
  | .validating _ => .received request.rawBody ∈ trace ∧ request.gateway = .sslcommerz
  | .verified => .received request.rawBody ∈ trace ∧
      (request.gateway = .fake → SignedFor rt production (.body request.rawBody request.signature))
  | .processing state =>
    EventConfirmed rt production trace (.body request.rawBody request.signature) state.delivery

def CallbackSound (payments : Table Payment) (trace : List ConfirmationNote)
    (request : CallbackRequest) : CallbackState → Prop
  | .read asked => asked = request
  | .call asked id _ => asked = request ∧ Carries payments id request.providerSessionId
  | .process _ _ state =>
    Carries payments state.delivery.event.paymentId request.providerSessionId ∧
      EventConfirmed rt production trace (.session request.providerSessionId) state.delivery
  | .fail _ _ _ _ | .done _ => True

def ReconcileSound (payments : Table Payment) (trace : List ConfirmationNote)
    (reference : String) : ReconcileState → Prop
  | .call request _ => Carries payments request.paymentId reference
  | .process state =>
    Carries payments state.delivery.event.paymentId reference ∧
      EventConfirmed rt production trace (.session reference) state.delivery
  | .read _ | .fail _ _ | .done _ => True

def ThreadSound (s : GatewayStore × List ConfirmationNote) :
    (op : ConfirmedOperation) → (confirmedOperations rt production op).Local → Prop
  | .createSession, _ => True
  | .processWebhook, l => WebhookSound rt production s.2 l.1 l.2
  | .completeBkashCallback, l => CallbackSound rt production s.1.db.payments s.2 l.1 l.2
  | .reconcilePayment, l => ReconcileSound rt production s.1.db.payments s.2 l.1 l.2

end

/-! ### What is noted later takes nothing away -/

section

variable {rt : ProviderRuntime} {production : Bool} {trace trace' : List ConfirmationNote}

theorem Confirmed.mono {same same' : Body → Body → Prop} {source : SettlementSource}
    {gateway : PaymentGateway} {id : RowId} {amount : ℤ} {currency : String}
    (htrace : trace ⊆ trace') (hsame : ∀ a b, same a b → same' a b)
    (h : Confirmed rt production same trace source gateway id amount currency) :
    Confirmed rt production same' trace' source gateway id amount currency := by
  refine h.imp_left fun ⟨call, response, hanswered, hmade, hgateway, hconfirmed⟩ =>
    ⟨call, response, htrace hanswered, ?_, hgateway, hconfirmed⟩
  cases source <;> cases call <;> first | exact hmade | exact hsame _ _ hmade

theorem SameHash.mono (htrace : trace ⊆ trace') (a b : Body) (h : SameHash rt trace a b) :
    SameHash rt trace' a b :=
  ⟨htrace h.1, htrace h.2.1, h.2.2⟩

theorem EventConfirmed.mono (htrace : trace ⊆ trace') {source : SettlementSource} {d : Delivery}
    (h : EventConfirmed rt production trace source d) :
    EventConfirmed rt production trace' source d :=
  fun hstatus => (h hstatus).mono htrace (SameHash.mono htrace)

theorem VerifiedSound.mono (htrace : trace ⊆ trace')
    {verified : ℕ × String → Option VerifiedNotification}
    (h : VerifiedSound rt trace verified) : VerifiedSound rt trace' verified := by
  intro key found hfound
  obtain ⟨rawBody, response, hreceived, hkey, hanswered, hanswer⟩ := h key found hfound
  exact ⟨rawBody, response, htrace hreceived, hkey, htrace hanswered, hanswer⟩

theorem settlementConfirmed_mono (before more : List ConfirmationNote) (note : ConfirmationNote)
    (h : SettlementConfirmed rt production (SameHash rt) before note) :
    SettlementConfirmed rt production (SameHash rt) (before ++ more) note := by
  have hsubset : before ⊆ before ++ more := List.subset_append_left before more
  cases note with
  | received | answered => trivial
  | settled id payment source =>
    obtain ⟨⟨gateway, hprovider, hconfirmed⟩, hreference⟩ := h
    exact ⟨⟨gateway, hprovider, hconfirmed.mono hsubset (SameHash.mono hsubset)⟩, hreference⟩

theorem ThreadSound.mono {s s' : GatewayStore × List ConfirmationNote} {op : ConfirmedOperation}
    {l : (confirmedOperations rt production op).Local} (htrace : s.2 ⊆ s'.2)
    (hcarries : ∀ id reference, Carries s.1.db.payments id reference →
      Carries s'.1.db.payments id reference)
    (h : ThreadSound rt production s op l) : ThreadSound rt production s' op l := by
  cases op with
  | createSession => trivial
  | processWebhook =>
    obtain ⟨request, l⟩ := l
    cases l with
    | received | done => trivial
    | validating ipn | verified => exact ⟨htrace h.1, h.2⟩
    | processing state => exact EventConfirmed.mono htrace h
  | completeBkashCallback =>
    obtain ⟨request, l⟩ := l
    cases l with
    | read asked => exact h
    | call asked id invoiceId => exact ⟨h.1, hcarries _ _ h.2⟩
    | process id invoiceId state => exact ⟨hcarries _ _ h.1, h.2.mono htrace⟩
    | fail | done => trivial
  | reconcilePayment =>
    obtain ⟨reference, l⟩ := l
    cases l with
    | call request invoiceId => exact hcarries _ _ h
    | process state => exact ⟨hcarries _ _ h.1, h.2.mono htrace⟩
    | read | fail | done => trivial

/-! ### A thread's own step -/

variable {w : ProviderWorld} {s s' : GatewayStore}

theorem mem_noteAnswer {call : ProviderCall} {answer : Except Failure PaymentHttpResponse}
    {response : PaymentHttpResponse} (h : answer = .ok response) :
    .answered call response ∈ noteAnswer call answer := by
  rw [h]
  exact List.mem_singleton_self _

variable {request : WebhookRequest}

variable {event : NormalizedPaymentEvent}

theorem normalizeWebhook_confirmed {now : ℕ} (hverified : VerifiedSound rt trace s.verified)
    (hsound : WebhookSound rt production trace request .verified)
    (h : normalizeWebhook rt now s request = (s', .ok event)) :
    EventConfirmed rt production trace (.body request.rawBody request.signature)
      ⟨request.gateway, event, rt.payloadHash request.rawBody⟩ := by
  intro hstatus
  obtain ⟨hreceived, hsigned⟩ := hsound
  unfold normalizeWebhook at h
  split at h
  · exact nomatch (Prod.mk.inj h).2
  · rename_i hgateway
    exact .inr ⟨hgateway, hsigned hgateway⟩
  · rename_i hgateway
    obtain ⟨-, hevent⟩ := Prod.mk.inj h
    split at hevent
    · exact nomatch hevent
    · rename_i found hfound
      obtain ⟨rawBody, response, hvalidated, hkey, hanswered, hsuccessful, hschema⟩ :=
        hverified _ _ hfound
      exact .inl ⟨_, response, hanswered, ⟨hreceived, hvalidated, hkey⟩, hgateway.symm,
        eventOf_confirms hsuccessful hschema hevent hstatus⟩

theorem normalizeWebhook_verified (now : ℕ) (s : GatewayStore) (request : WebhookRequest) :
    ∀ key found, (normalizeWebhook rt now s request).1.verified key = some found →
      s.verified key = some found := by
  intro key found hfound
  unfold normalizeWebhook at hfound
  split at hfound
  · exact hfound
  · exact hfound
  · have hupdated : Function.update s.verified (request.key rt) none key = some found := hfound
    rw [Function.update_apply] at hupdated
    split at hupdated
    · exact nomatch hupdated
    · exact hupdated

theorem verifyWebhook_sound (hreceived : .received request.rawBody ∈ trace)
    (hregistered : registered production w request.gateway ≠ false) :
    WebhookSound rt production trace request (verifyWebhook rt w request) := by
  unfold verifyWebhook
  split
  · trivial
  · rename_i hgateway
    split
    · rename_i hsigned
      refine ⟨hreceived, fun _ => ⟨?_, hsigned⟩⟩
      rw [hgateway] at hregistered
      simpa [registered] using hregistered
    · trivial
  · rename_i hgateway
    split
    · trivial
    · split
      · trivial
      · exact ⟨hreceived, hgateway⟩

/-- **A step of a notification** keeps what it relies on, and what the adapters hold. -/
theorem webhookStep_sound {l l' : WebhookState} (hverified : VerifiedSound rt trace s.verified)
    (hsound : WebhookSound rt production trace request l) (htrace : trace ⊆ trace')
    (hnotes : answers rt production .processWebhook w (request, l) ⊆ trace')
    (h : webhookStep rt production w s request l = some (s', l')) :
    WebhookSound rt production trace' request l' ∧ VerifiedSound rt trace' s'.verified := by
  have hkept := hverified.mono htrace
  cases l with
  | received =>
    rw [webhookStep] at h
    split_ifs at h with hregistered hlength
    · cases h
      exact ⟨trivial, hkept⟩
    · cases h
      exact ⟨trivial, hkept⟩
    · cases h
      exact ⟨verifyWebhook_sound (hnotes (List.mem_singleton_self _)) hregistered, hkept⟩
  | validating ipn =>
    rw [webhookStep] at h
    split at h
    · cases h
      exact ⟨trivial, hkept⟩
    · cases h
      exact ⟨trivial, hkept⟩
    · rename_i found hok
      cases h
      obtain ⟨response, hanswer, hsuccessful, hschema, hvalId⟩ :=
        verifyValidation_eq_ok hok
      refine ⟨⟨htrace hsound.1, fun hfake => by cases hfake.symm.trans hsound.2⟩, ?_⟩
      intro key other hother
      have hupdated : Function.update s.verified (request.key rt) (some found) key = some other :=
        hother
      rw [Function.update_apply] at hupdated
      split at hupdated
      · rename_i hkey
        obtain rfl := Option.some.inj hupdated
        refine ⟨request.rawBody, response, htrace hsound.1, by rw [hkey]; rfl, ?_, hsuccessful,
          hschema⟩
        rw [hvalId]
        exact hnotes (mem_noteAnswer hanswer)
      · exact hkept key other hupdated
  | verified =>
    rw [webhookStep] at h
    have hstill : ∀ key found, (normalizeWebhook rt w.now s request).1.verified key = some found →
        s.verified key = some found := normalizeWebhook_verified _ _ _
    split at h
    · rename_i heq
      cases h
      rw [heq] at hstill
      exact ⟨trivial, fun key found hfound => hkept key found (hstill key found hfound)⟩
    · rename_i event heq
      cases h
      rw [heq] at hstill
      exact ⟨(normalizeWebhook_confirmed hverified hsound heq).mono htrace,
        fun key found hfound => hkept key found (hstill key found hfound)⟩
  | processing state =>
    cases state with
    | done d result =>
      cases h
      exact ⟨trivial, hkept⟩
    | lookup _ | transact _ | raced _ =>
      obtain ⟨out, hstep, rfl, rfl⟩ := map_eq_some_pair.1 h
      refine ⟨?_, hkept⟩
      have hsame := processStep_delivery hstep
      show EventConfirmed rt production trace' _ out.2.delivery
      rw [hsame]
      exact EventConfirmed.mono htrace hsound
  | done result => cases h

theorem toEvent_parse {rt : Runtime} {status : GatewayTransactionStatus} {gateway : PaymentGateway}
    {providerEventId : String} {paymentId invoiceId : RowId}
    (h : (status.toEvent gateway providerEventId paymentId invoiceId).parse rt = .ok event) :
    event.paymentId = paymentId ∧ event.amount = status.amount ∧ event.currency = status.currency ∧
      (event.status = .succeeded → status.status = .succeeded) := by
  rw [NormalizedPaymentEvent.parse_eq_ok h]
  exact ⟨rfl, rfl, rfl, GatewayStatus.toEventStatus_eq_succeeded⟩

variable (production) in
theorem callbackEvent_confirmed {request : CallbackRequest} {paymentId invoiceId : RowId}
    {event : NormalizedPaymentEvent} (same : Body → Body → Prop)
    (h : callbackEvent rt.toRuntime (bkashWorld rt w request.providerSessionId) request paymentId
      invoiceId = .ok event) :
    event.paymentId = paymentId ∧ (event.status = .succeeded →
      Confirmed rt production same (callbackAnswers rt w request)
        (.session request.providerSessionId) .bkash event.paymentId event.amount event.currency) := by
  have hqueried : ∀ status,
      BkashPaymentGateway.queryTransactionStatus rt w.now w.query request.providerSessionId =
        .ok status → noteAnswer (.status .bkash request.providerSessionId) w.query ⊆
        callbackAnswers rt w request →
      BkashPaymentGateway.statusToEvent rt.toRuntime status request.providerSessionId paymentId
        invoiceId = .ok event →
      event.paymentId = paymentId ∧ (event.status = .succeeded →
        Confirmed rt production same (callbackAnswers rt w request)
          (.session request.providerSessionId) .bkash event.paymentId event.amount
          event.currency) := by
    intro status hstatus hnoted hevent
    obtain ⟨hid, hamount, hcurrency, hsucceeded⟩ := toEvent_parse hevent
    refine ⟨hid, fun h => ?_⟩
    obtain ⟨response, hanswer, hconfirms⟩ :=
      BkashPaymentGateway.queryTransactionStatus_confirms hstatus (hsucceeded h)
    rw [hamount, hcurrency]
    exact .inl ⟨_, response, hnoted (mem_noteAnswer hanswer), rfl, rfl, hconfirms⟩
  unfold callbackEvent at h
  split at h
  · rename_i hsuccess
    unfold BkashPaymentGateway.completePaymentSession at h
    split at h
    · rename_i status hstatus
      obtain ⟨hid, hamount, hcurrency, hsucceeded⟩ := toEvent_parse h
      refine ⟨hid, fun h => ?_⟩
      obtain ⟨response, hanswer, hconfirms⟩ :=
        BkashPaymentGateway.executePayment_confirms hstatus (hsucceeded h)
      rw [hamount, hcurrency]
      refine .inl ⟨.execution request.providerSessionId, response, ?_, rfl, rfl, hconfirms⟩
      rw [callbackAnswers, if_pos hsuccess]
      exact List.mem_append_left _ (mem_noteAnswer hanswer)
    · -- The outcome of the execution is unknown, so the status is asked for.
      rename_i message hunknown
      obtain ⟨status, hstatus, hevent⟩ := bind_eq_ok.1 h
      refine hqueried status hstatus ?_ hevent
      have hexecution : BkashPaymentGateway.executePayment rt w.now w.execution
          request.providerSessionId = .error (.provider .unknown message) := hunknown
      rw [callbackAnswers, if_pos hsuccess, hexecution]
      exact List.subset_append_right _ _
    · exact nomatch h
  · rename_i hother
    obtain ⟨status, hstatus, hevent⟩ := bind_eq_ok.1 h
    refine hqueried status hstatus ?_ hevent
    rw [callbackAnswers, if_neg hother]
    exact fun _ h => h

theorem confirmCallbackStep_sound {request : CallbackRequest} {db db' : Database}
    {l l' : CallbackState} (hsound : CallbackSound rt production db.payments trace request l)
    (htrace : trace ⊆ trace')
    (hcarries : ∀ id reference, Carries db.payments id reference →
      Carries db'.payments id reference)
    (hnotes : answers rt production .completeBkashCallback w (request, l) ⊆ trace')
    (h : confirmCallbackStep rt production w db request.providerSessionId l = some (db', l')) :
    CallbackSound rt production db'.payments trace' request l' := by
  cases l with
  | read asked =>
    obtain rfl : asked = request := hsound
    rw [confirmCallbackStep, callbackStep] at h
    split at h
    · split at h
      · cases h
        trivial
      · rename_i id payment hfind
        obtain ⟨hrow, hfound⟩ := find?_eq_some hfind
        split at h
        · cases h
          trivial
        · cases h
          exact ⟨rfl, payment, hrow, (of_decide_eq_true hfound).2⟩
    · cases h
      trivial
  | call asked paymentId invoiceId =>
    obtain ⟨rfl, hcarried⟩ := hsound
    change callbackStep rt.toRuntime (bkashWorld rt w asked.providerSessionId) db
      (.call asked paymentId invoiceId) = some (db', l') at h
    rw [callbackStep] at h
    split at h
    · rename_i event hevent
      cases h
      obtain ⟨hid, hconfirmed⟩ := callbackEvent_confirmed production (SameHash rt trace') hevent
      refine ⟨?_, fun hstatus => (hconfirmed hstatus).mono hnotes fun _ _ h => h⟩
      show Carries _ event.paymentId _
      rw [hid]
      exact hcarries _ _ hcarried
    · cases h
      trivial
    · cases h
      trivial
  | process paymentId invoiceId state =>
    cases state with
    | done d result =>
      cases result with
      | ok _ | error _ =>
        cases h
        trivial
    | lookup _ | transact _ | raced _ =>
      obtain ⟨out, hstep, rfl, rfl⟩ := map_eq_some_pair.1 h
      have hsame := processStep_delivery hstep
      show Carries _ out.2.delivery.event.paymentId _ ∧ EventConfirmed _ _ _ _ out.2.delivery
      rw [hsame]
      exact ⟨hcarries _ _ hsound.1, hsound.2.mono htrace⟩
  | fail paymentId invoiceId outcome message =>
    cases h
    trivial
  | done result => cases h

variable (production) in
theorem reconciliationEvent_confirmed {request : ReconcileRequest} {reference : String}
    {invoiceId : RowId} {event : NormalizedPaymentEvent} (same : Body → Body → Prop)
    (h : (queryTransactionStatus rt w reference request.gateway).bind
      (reconciliationEvent rt.toRuntime request.gateway request.paymentId invoiceId) = .ok event) :
    event.paymentId = request.paymentId ∧ (event.status = .succeeded →
      Confirmed rt production same
        (answers rt production .reconcilePayment w (reference, .call request invoiceId))
        (.session reference) request.gateway event.paymentId event.amount event.currency) := by
  obtain ⟨status, hstatus, hevent⟩ := bind_eq_ok.1 h
  simp only [reconciliationEvent, bind_eq_ok] at hevent
  obtain ⟨-, -, hparsed⟩ := hevent
  obtain ⟨hid, hamount, hcurrency, hsucceeded⟩ := toEvent_parse hparsed
  refine ⟨hid, fun h => ?_⟩
  have hpaid := hsucceeded h
  obtain ⟨gateway, paymentId⟩ := request
  rw [hamount, hcurrency]
  cases gateway with
  | bkash =>
    obtain ⟨response, hanswer, hconfirms⟩ :=
      BkashPaymentGateway.queryTransactionStatus_confirms hstatus hpaid
    exact .inl ⟨_, response, mem_noteAnswer hanswer, rfl, rfl, hconfirms⟩
  | sslcommerz =>
    obtain ⟨response, hanswer, hreports⟩ :=
      queryStatus_reports hstatus hpaid
    exact .inl ⟨_, response, mem_noteAnswer hanswer, rfl, rfl, hreports⟩
  | fake => cases hstatus

variable {op : ConfirmedOperation}

theorem confirmReconcileStep_sound {db db' : Database} {l l' : ReconcileState}
    (hsound : ReconcileSound rt production db.payments trace reference l) (htrace : trace ⊆ trace')
    (hcarries : ∀ id reference, Carries db.payments id reference →
      Carries db'.payments id reference)
    (hnotes : answers rt production .reconcilePayment w (reference, l) ⊆ trace')
    (h : confirmReconcileStep rt production w db reference l = some (db', l')) :
    ReconcileSound rt production db'.payments trace' (readReference db reference l) l' := by
  cases l with
  | read request =>
    rw [confirmReconcileStep, reconcileStep] at h
    split at h
    · split at h
      · cases h
        trivial
      · rename_i payment hrow
        split at h
        · cases h
          trivial
        · split at h
          · cases h
            trivial
          · rename_i hpending
            cases h
            refine ⟨payment, hrow, ?_⟩
            rw [readReference, hrow, Option.bind_some]
            cases hreference : payment.reference with
            | none => exact absurd (.inr hreference) hpending
            | some found => rfl
    · cases h
      trivial
  | call request invoiceId =>
    rw [confirmReconcileStep, reconcileStep] at h
    split at h
    · rename_i event hevent
      cases h
      obtain ⟨hid, hconfirmed⟩ := reconciliationEvent_confirmed production (SameHash rt trace') hevent
      refine ⟨?_, fun hstatus => (hconfirmed hstatus).mono hnotes fun _ _ h => h⟩
      show Carries _ event.paymentId _
      rw [hid]
      exact hcarries _ _ hsound
    · cases h
      trivial
    · cases h
      trivial
  | process state =>
    cases state with
    | done d result =>
      cases h
      trivial
    | lookup _ | transact _ | raced _ =>
      obtain ⟨out, hstep, rfl, rfl⟩ := map_eq_some_pair.1 h
      have hsame := processStep_delivery hstep
      show Carries _ out.2.delivery.event.paymentId _ ∧ EventConfirmed _ _ _ _ out.2.delivery
      rw [hsame]
      exact ⟨hcarries _ _ hsound.1, hsound.2.mono htrace⟩
  | fail paymentId message =>
    cases h
    trivial
  | done result => cases h

/-! ## The outline -/

variable {l : (confirmedOperations rt production op).Local}

theorem ThreadSound.applied {s : GatewayStore × List ConfirmationNote} {d : Delivery}
    (h : ThreadSound rt production s op l) (happlied : applied op l = some d) :
    EventConfirmed rt production s.2 (source rt production op l) d ∧
      ∀ reference, source rt production op l = .session reference →
        Carries s.1.db.payments d.event.paymentId reference := by
  have hprocess : ∀ state : ProcessState,
      applying rt.toRuntime .processNormalizedEvent state = some d → state.delivery = d := by
    intro state hstate
    cases state with
    | transact d => exact Option.some.inj hstate
    | lookup | raced | done => exact nomatch hstate
  cases op with
  | createSession => exact nomatch happlied
  | processWebhook =>
    obtain ⟨request, l⟩ := l
    cases l with
    | received | validating | verified | done => exact nomatch happlied
    | processing state =>
      refine ⟨?_, fun _ hsource => nomatch hsource⟩
      rw [← hprocess state happlied]
      exact h
  | completeBkashCallback =>
    obtain ⟨request, l⟩ := l
    cases l with
    | read | call | fail | done => exact nomatch happlied
    | process id invoiceId state =>
      rw [← hprocess state (by cases state <;> exact happlied)]
      refine ⟨h.2, fun reference hsource => ?_⟩
      obtain rfl := SettlementSource.session.inj hsource
      exact h.1
  | reconcilePayment =>
    obtain ⟨reference, l⟩ := l
    cases l with
    | read | call | fail | done => exact nomatch happlied
    | process state =>
      rw [← hprocess state (by cases state <;> exact happlied)]
      refine ⟨h.2, fun reference hsource => ?_⟩
      obtain rfl := SettlementSource.session.inj hsource
      exact h.1

theorem answers_confirmed {same : List ConfirmationNote → Body → Body → Prop} :
    ∀ note ∈ answers rt production op w l, SettlementConfirmed rt production same trace note := by
  have hnoted : ∀ call answer, ∀ note ∈ noteAnswer call answer,
      SettlementConfirmed rt production same trace note := by
    intro call answer note hnote
    cases answer with
    | error e => exact absurd hnote List.not_mem_nil
    | ok response =>
      rw [List.mem_singleton.1 hnote]
      trivial
  intro note hnote
  unfold answers at hnote
  split at hnote
  · rw [List.mem_singleton.1 hnote]
    trivial
  · exact hnoted _ _ note hnote
  · unfold callbackAnswers at hnote
    split at hnote
    · rcases List.mem_append.1 hnote with hnote | hnote
      · exact hnoted _ _ note hnote
      · split at hnote
        · exact hnoted _ _ note hnote
        · exact absurd hnote List.not_mem_nil
    · exact hnoted _ _ note hnote
  · split at hnote
    · exact absurd hnote List.not_mem_nil
    · exact hnoted _ _ note hnote
  · exact absurd hnote List.not_mem_nil

variable (rt production)

/-- The invariant: every settlement is confirmed by what was noted before it, what the adapters hold
was answered, and who is settled was so from the start or is noted. -/
structure SettlementsSound (initially : RowId → Prop) (s : GatewayStore × List ConfirmationNote) :
    Prop where
  confirmed : Preceded (SettlementConfirmed rt production (SameHash rt)) s.2
  verified : VerifiedSound rt s.2 s.1.verified
  noted : ∀ id payment, s.1.db.payments.get? id = some payment → payment.status = .succeeded →
    initially id ∨ ∃ row source, .settled id row source ∈ s.2

def confirmationOutline (initially : RowId → Prop) :
    Outline (tracedConfirmations rt production) where
  shared := SettlementsSound rt production initially
  thread s t := ThreadSound rt production s t.op t.loc

variable {rt production}

structure StepNotes (op : ConfirmedOperation) (w : ProviderWorld)
    (s : GatewayStore × List ConfirmationNote) (l : (confirmedOperations rt production op).Local)
    (s' : GatewayStore × List ConfirmationNote) : Prop where
  payments : PaymentsEffect s.1.db.payments (applied op l) s'.1.db.payments
  trace : s'.2 = s.2 ++ (answers rt production op w l ++
    settlementNotes (source rt production op l) s.1.db s'.1.db)

theorem stepNotes {s s' : GatewayStore × List ConfirmationNote}
    {l l' : (confirmedOperations rt production op).Local}
    (h : (tracedConfirmations rt production op).step w s l = some (s', l')) :
    (confirmedOperations rt production op).step w s.1 l = some (s'.1, l') ∧
      StepNotes op w s l s' := by
  obtain ⟨hstep, htrace⟩ := Operation.traced_step h
  refine ⟨hstep, confirmedStep_payments hstep, ?_⟩
  rw [htrace, confirmationNotes, hstep, Option.elim_some]

section

variable {s s' : GatewayStore × List ConfirmationNote}
  {l l' : (confirmedOperations rt production op).Local}

theorem StepNotes.subset (h : StepNotes op w s l s') : s.2 ⊆ s'.2 := by
  rw [h.trace]
  exact List.subset_append_left _ _

theorem StepNotes.answers_subset (h : StepNotes op w s l s') :
    answers rt production op w l ⊆ s'.2 := by
  rw [h.trace]
  exact fun note hnote => List.mem_append_right _ (List.mem_append_left _ hnote)

theorem StepNotes.confirmed (h : StepNotes op w s l s') (hsound : ThreadSound rt production s op l)
    {note : ConfirmationNote}
    (hnote : note ∈ settlementNotes (source rt production op l) s.1.db s'.1.db) :
    SettlementConfirmed rt production (SameHash rt) s.2 note := by
  obtain ⟨⟨id, payment⟩, hentry, rfl⟩ := List.mem_map.1 hnote
  obtain ⟨hrow, hnew⟩ := mem_select.1 hentry
  obtain ⟨hstatus, hnew⟩ := of_decide_eq_true hnew
  obtain ⟨d, happlied, hevent, rfl, hprovider, hamount, hcurrency, hcarried⟩ :=
    h.payments.newly_settled hrow hstatus hnew
  obtain ⟨hconfirmed, hcarries⟩ := hsound.applied happlied
  refine ⟨⟨d.gateway, hprovider, ?_⟩, fun reference hsource =>
    hcarried reference (hcarries reference hsource)⟩
  rw [hamount, hcurrency]
  exact hconfirmed hevent

theorem StepNotes.sound {initially : RowId → Prop} (h : StepNotes op w s l s')
    (hs : SettlementsSound rt production initially s) (hsound : ThreadSound rt production s op l)
    (hverified : VerifiedSound rt s'.2 s'.1.verified) :
    SettlementsSound rt production initially s' where
  confirmed := by
    rw [h.trace]
    refine hs.confirmed.append_all settlementConfirmed_mono fun note hnote => ?_
    rcases List.mem_append.1 hnote with hnote | hnote
    · exact answers_confirmed note hnote
    · exact h.confirmed hsound hnote
  verified := hverified
  noted id payment hrow hstatus := by
    by_cases hnew : ∀ before ∈ s.1.db.payments.get? id, before.status ≠ .succeeded
    · refine .inr ⟨payment, source rt production op l, ?_⟩
      rw [h.trace]
      refine List.mem_append_right _ (List.mem_append_right _
        (List.mem_map.2 ⟨(id, payment), ?_, rfl⟩))
      exact mem_select.2 ⟨hrow, decide_eq_true ⟨hstatus, hnew⟩⟩
    · push Not at hnew
      obtain ⟨before, hbefore, hsettled⟩ := hnew
      exact (hs.noted id before hbefore hsettled).imp_right fun ⟨row, source, hmem⟩ =>
        ⟨row, source, h.subset hmem⟩

theorem StepNotes.own (h : StepNotes op w s l s')
    (hstep : (confirmedOperations rt production op).step w s.1 l = some (s'.1, l'))
    (hverified : VerifiedSound rt s.2 s.1.verified) (hsound : ThreadSound rt production s op l) :
    ThreadSound rt production s' op l' ∧ VerifiedSound rt s'.2 s'.1.verified := by
  obtain ⟨s, trace⟩ := s
  obtain ⟨s', trace'⟩ := s'
  have hcarries : ∀ id reference, Carries s.db.payments id reference →
      Carries s'.db.payments id reference := fun _ _ => h.payments.carries
  cases op with
  | createSession =>
    obtain ⟨out, -, rfl, rfl⟩ := map_eq_some_pair.1 hstep
    exact ⟨trivial, hverified.mono h.subset⟩
  | processWebhook =>
    obtain ⟨out, hwebhook, rfl, rfl⟩ := map_eq_some_pair.1 hstep
    exact webhookStep_sound hverified hsound h.subset h.answers_subset hwebhook
  | completeBkashCallback =>
    obtain ⟨out, hcallback, rfl, rfl⟩ := map_eq_some_pair.1 hstep
    exact ⟨confirmCallbackStep_sound hsound h.subset hcarries h.answers_subset hcallback,
      hverified.mono h.subset⟩
  | reconcilePayment =>
    obtain ⟨out, hreconcile, rfl, rfl⟩ := map_eq_some_pair.1 hstep
    exact ⟨confirmReconcileStep_sound hsound h.subset hcarries h.answers_subset hreconcile,
      hverified.mono h.subset⟩

end

theorem confirmationOutline_sound (initially : RowId → Prop) :
    (confirmationOutline rt production initially).Sound anyStep where
  symm _ _ _ := trivial
  call s op request _ := by
    cases op with
    | createSession | processWebhook | reconcilePayment => trivial
    | completeBkashCallback => rfl
  call_apart _ _ _ := trivial
  own w s t s' t' _ hs ht hstep := by
    obtain ⟨l', hl, rfl⟩ := Thread.step_eq_some hstep
    obtain ⟨hinner, hnotes⟩ := stepNotes hl
    obtain ⟨hthread, hverified⟩ := hnotes.own hinner hs.verified ht
    exact ⟨hnotes.sound hs ht hverified, hthread⟩
  other w s t s' t' u _ hs _ hu _ hstep := by
    obtain ⟨l', hl, rfl⟩ := Thread.step_eq_some hstep
    obtain ⟨-, hnotes⟩ := stepNotes hl
    exact ⟨ThreadSound.mono hnotes.subset (fun _ _ h => hnotes.payments.carries h) hu, trivial⟩

/-- **Settlements are confirmed by the provider.**  In every run of notifications, callbacks and
reconciliations, with checkouts being created, every payment that has become `SUCCEEDED` was
preceded by an answer of its provider, to a request made for the very body or session with which a
caller got it settled: a transaction that succeeded without a high risk, names this payment or the
session it carries, and has its amount and its currency.  Only a payment of the fake gateway, which
production does not have, is settled by a signed body.  Bodies are told apart by their hashes. -/
theorem settlement_confirmed (db : Database) (c : Config (tracedConfirmations rt production))
    (hr : Reaches anyStep ⟨(⟨db, fun _ => none⟩, []), []⟩ c)
    (hhash : Set.InjOn rt.payloadHash {rawBody | .received rawBody ∈ c.shared.2}) :
    Preceded (SettlementConfirmed rt production fun _ => Eq) c.shared.2 ∧
      ∀ id payment, c.shared.1.db.payments.get? id = some payment → payment.status = .succeeded →
        (∃ before, db.payments.get? id = some before ∧ before.status = .succeeded) ∨
          ∃ row source, .settled id row source ∈ c.shared.2 := by
  have hinit : SettlementsSound rt production
      (fun id => ∃ before, db.payments.get? id = some before ∧ before.status = .succeeded)
      (⟨db, fun _ => none⟩, []) :=
    ⟨preceded_nil, fun _ _ h => (nomatch h),
      fun id payment hrow hstatus => .inl ⟨payment, hrow, hstatus⟩⟩
  have hsound := ((confirmationOutline_sound _).holds
    (P := confirmationOutline rt production _) (Outline.holds_idle hinit) hr).shared
  refine ⟨hsound.confirmed.imp fun before note hbefore hnote => ?_, hsound.noted⟩
  cases note with
  | received | answered => trivial
  | settled id payment source =>
    obtain ⟨⟨gateway, hprovider, hconfirmed⟩, hreference⟩ := hnote
    refine ⟨⟨gateway, hprovider, hconfirmed.mono (fun _ h => h) fun a b hsame => ?_⟩, hreference⟩
    exact hhash (hbefore hsame.1) (hbefore hsame.2.1) hsame.2.2

end

/-! ### A notification that SSLCOMMERZ validates -/

def ConfirmationNote.received? : ConfirmationNote → Option Body
  | .received rawBody => some rawBody
  | _ => none

theorem injOn_of_received {rt : ProviderRuntime} {trace : List ConfirmationNote} (rawBody : Body)
    (h : trace.filterMap ConfirmationNote.received? = [rawBody]) :
    Set.InjOn rt.payloadHash {body | .received body ∈ trace} := by
  have hone : ∀ body, .received body ∈ trace → body = rawBody := by
    intro body hbody
    have hmem : body ∈ trace.filterMap ConfirmationNote.received? :=
      List.mem_filterMap.2 ⟨_, hbody, rfl⟩
    rw [h] at hmem
    exact List.mem_singleton.1 hmem
  intro a ha b hb _
  rw [hone a ha, hone b hb]

def bytes (pieces : List String) : Body :=
  pieces.flatMap fun piece => piece.toList.map fun c => c.toNat.toUInt8

def notificationBody : Body :=
  bytes ["val_id=V1&", "tran_id=T-1&", "amount=1.00&", "currency=BDT&", "store_id=testbox&",
    "status=VALID&", "value_a=0&", "value_b=0"]

def notificationFields : List (String × String) :=
  [("val_id", "V1"), ("tran_id", "T-1"), ("amount", "1.00"), ("currency", "BDT"),
    ("store_id", "testbox"), ("status", "VALID"), ("value_a", "0"), ("value_b", "0")]

def notificationRuntime : ProviderRuntime where
  toRuntime := callbackRuntime
  payloadHash _ := "90ebe3834b613cb8ebfdb37c049072d2034f8ecaa7d521b0bf7c9bc6379f4b1e"
  hmac _ := "8b64ebc74b607257cf0c8f7168abbd9b4f2009a4473cfcbd3aad68ec8142b3d8"
  searchParams _ := notificationFields
  parseJson _ := none
  toLowerCase text := text
  parseDate _ := none

def notificationRequest : WebhookRequest where
  process := 0
  gateway := .sslcommerz
  rawBody := notificationBody
  signature := ""

def validatedWorld : ProviderWorld where
  validation := .ok {
    status := 200
    body := .object (("APIConnect", .string "DONE") :: ("bank_tran_id", .string "B1") ::
      notificationFields.map fun field => (field.1, .string field.2)) }

def notifyPayment : List (Move (tracedConfirmations notificationRuntime true)) :=
  [.call .processWebhook notificationRequest, .advance 0 {}, .advance 0 validatedWorld,
    .advance 0 {}, .advance 0 {}, .advance 0 {}]

def notifiedConfig : Config (tracedConfirmations notificationRuntime true) :=
  Config.after ⟨(⟨openSession .sslcommerz "T-1", fun _ => none⟩, []), []⟩ notifyPayment
    (by decide +kernel)

/-- The notification settles the payment, after the answer that confirms it. -/
theorem notification_settles_confirmed :
    (notifiedConfig.shared.1.db.payments.get? 0).map Payment.status = some .succeeded ∧
      Preceded (SettlementConfirmed notificationRuntime true fun _ => Eq) notifiedConfig.shared.2 :=
  ⟨by decide +kernel, (settlement_confirmed _ notifiedConfig
    (reaches_anyStep_of_run (run_eq_after _))
    (injOn_of_received notificationBody (by decide +kernel))).1⟩

/-! ### A notification that is only signed -/

def signedBody : Body :=
  bytes ["\x7b\"event_id\":", "\"evt-1\",", "\"type\":", "\"payment.succeeded\",",
    "\"merchant_id\":", "\"webhost-billing-fake\",", "\"data\":\x7b", "\"payment_id\":\"0\",",
    "\"invoice_id\":\"0\",", "\"amount\":\"100\",", "\"currency\":\"BDT\",",
    "\"transaction_id\":", "\"trx-1\",", "\"occurred_at\":", "\"1970-01-01T", "00:00:00.005Z\"",
    "\x7d\x7d"]

def signedPayload : ProviderValue :=
  .object [("event_id", .string "evt-1"), ("type", .string "payment.succeeded"),
    ("merchant_id", .string "webhost-billing-fake"),
    ("data", .object [("payment_id", .string "0"), ("invoice_id", .string "0"),
      ("amount", .string "100"), ("currency", .string "BDT"), ("transaction_id", .string "trx-1"),
      ("occurred_at", .string "1970-01-01T00:00:00.005Z")])]

def signedRuntime : ProviderRuntime :=
  { notificationRuntime with parseJson := fun _ => some signedPayload, parseDate := fun _ => some 5 }

def signedRequest : WebhookRequest where
  process := 0
  gateway := .fake
  rawBody := signedBody
  signature := "sha256=8b64ebc74b607257cf0c8f7168abbd9b4f2009a4473cfcbd3aad68ec8142b3d8"

def notifySigned : List (Move (tracedConfirmations signedRuntime false)) :=
  [.call .processWebhook signedRequest, .advance 0 {}, .advance 0 {}, .advance 0 {}, .advance 0 {}]

def signedConfig : Config (tracedConfirmations signedRuntime false) :=
  Config.after ⟨(⟨openSession .fake "fps_1", fun _ => none⟩, []), []⟩ notifySigned
    (by decide +kernel)

def ConfirmationNote.isAnswer : ConfirmationNote → Bool
  | .answered _ _ => true
  | _ => false

/-- **A payment of the fake gateway is settled without an answer**: outside production, the signed
body of a caller is enough. -/
theorem fake_settled_without_answer :
    Config.run ⟨(⟨openSession .fake "fps_1", fun _ => none⟩, []), []⟩ notifySigned =
        some signedConfig ∧
      ((openSession .fake "fps_1").payments.get? 0).map Payment.status = some .pending ∧
      (signedConfig.shared.1.db.payments.get? 0).map Payment.status = some .succeeded ∧
      signedConfig.shared.2.any ConfirmationNote.isAnswer = false :=
  ⟨run_eq_after _, by decide +kernel, by decide +kernel, by decide +kernel⟩

end PaymentGatewayService

end WebhostBilling
