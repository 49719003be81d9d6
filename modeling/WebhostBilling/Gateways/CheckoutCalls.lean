import WebhostBilling.Gateways.GatewayOutcomes

/-!
# The checkout of a gateway payment

`createSession` may ask the provider for the checkout of a payment after it has claimed the row,
which it does when `reference` and `failureReason` are both empty.  It does not look at the status,
and a settlement empties `failureReason`.
-/

namespace WebhostBilling

open Store Store.Table Concurrency Config

namespace PaymentGatewayService

/-! ## What is noted -/

/-- A session asked of the provider, with the status of its payment. -/
structure CheckoutCall where
  paymentId : RowId
  status : Option PaymentStatus
deriving DecidableEq

def sessionNotes (db : Database) : SessionState → List CheckoutCall
  | .call _ id _ _ => [⟨id, (db.payments.get? id).map Payment.status⟩]
  | _ => []

section

variable (rt : Runtime)

def checkoutNotes : (op : GatewayOperation) → World → Database → (gatewayOperations rt op).Local →
    List CheckoutCall
  | .createSession => fun _ => sessionNotes
  | .processNormalizedEvent | .completeBkashCallback | .reconcilePayment => fun _ _ _ => []

abbrev tracedCheckouts := tracedFamily (gatewayOperations rt) (checkoutNotes rt)

/-! ## Where a thread is -/

inductive Stage
  | idle
  | claimed (id : RowId)
  | asked (id : RowId)
  | returned (id : RowId)

def SessionState.stage : SessionState → Stage
  | .call _ id _ _ => .claimed id
  | .record id _ _ _ | .fail id _ _ => .asked id
  | _ => .idle

def CallbackState.stage : CallbackState → Stage
  | .call _ id _ | .process id _ _ | .fail id _ _ _ => .returned id
  | _ => .idle

def stage : (op : GatewayOperation) → (gatewayOperations rt op).Local → Stage
  | .createSession, l => SessionState.stage l
  | .completeBkashCallback, l => CallbackState.stage l
  | .processNormalizedEvent, _ | .reconcilePayment, _ => .idle

def claiming : (op : GatewayOperation) → (gatewayOperations rt op).Local → Option RowId
  | .createSession, .claim _ id _ _ => some id
  | _, _ => none

def applying : (op : GatewayOperation) → (gatewayOperations rt op).Local → Option Delivery
  | .processNormalizedEvent, .transact d => some d
  | .completeBkashCallback, .process _ _ (.transact d) => some d
  | .reconcilePayment, .process (.transact d) => some d
  | _, _ => none

/-- The payment is pending when it is claimed, and an event that decides a payment comes after its
provider was asked for the checkout. -/
def ClaimsPending (_ : World) (s : Database × List CheckoutCall) (t : Thread (tracedCheckouts rt)) :
    Prop :=
  (∀ id ∈ claiming rt t.op t.loc, ∀ row ∈ s.1.payments.get? id, claimable row →
    row.status = .pending) ∧
  ∀ d ∈ applying rt t.op t.loc, d.event.status ≠ .pending →
    (∃ call ∈ s.2, call.paymentId = d.event.paymentId) ∨
      ∃ row ∈ s.1.payments.get? d.event.paymentId, row.reference ≠ none
deriving Decidable

end

/-! ## What a step does to the payments -/

/-- What a delivery decides: that its payment has failed, or that it is settled. -/
inductive Decides (payments : Table Payment) (d : Delivery) : (Payment → Payment) → Prop
  | failed : Decides payments d (failedPayment d.event)
  | settled {payment : Payment} {transactionId : String} {now : ℕ}
      (hstatus : d.event.status = .succeeded)
      (hpayment : payments.get? d.event.paymentId = some payment)
      (hprovider : payment.provider = d.gateway.key) (hamount : payment.amount = d.event.amount)
      (hcurrency : payment.currency = d.event.currency) :
      Decides payments d (settledPayment d.event transactionId now)

def erroredPayment (outcome : ProviderOutcome) (message : String) (payment : Payment) : Payment :=
  { payment with status := errorStatus outcome, failureReason := some message }

inductive CheckoutEffect (payments : Table Payment) (claiming : Option RowId)
    (applying : Option Delivery) : Stage → Table Payment → Stage → List CheckoutCall → Prop
  | quiet {stage stage' : Stage} (hstage : stage' = stage ∨ stage' = .idle) :
      CheckoutEffect payments claiming applying stage payments stage' []
  | found {id : RowId} {row : Payment} (hrow : payments.get? id = some row)
      (hreference : row.reference ≠ none) :
      CheckoutEffect payments claiming applying .idle payments (.returned id) []
  | inserted {row : Payment} (hpending : row.status = .pending) :
      CheckoutEffect payments claiming applying .idle (payments.insert row) .idle []
  | claimed {id : RowId} {row : Payment} (hclaiming : claiming = some id)
      (hrow : payments.get? id = some row) (hclaimable : claimable row) :
      CheckoutEffect payments claiming applying .idle
        (payments.update id (notedPayment sessionCreationInProgress)) (.claimed id) []
  | called {id : RowId} :
      CheckoutEffect payments claiming applying (.claimed id) payments (.asked id)
        [⟨id, (payments.get? id).map Payment.status⟩]
  | recorded {id : RowId} {session : GatewayPaymentSession} :
      CheckoutEffect payments claiming applying (.asked id)
        (payments.update id (sessionRecorded session)) .idle []
  | errored {stage : Stage} {id : RowId} {outcome : ProviderOutcome} {message : String}
      (hstage : stage = .asked id ∨ stage = .returned id) :
      CheckoutEffect payments claiming applying stage
        (payments.update id (erroredPayment outcome message)) .idle []
  | noted {stage stage' : Stage} {id : RowId} {reason : String}
      (hstage : stage' = stage ∨ stage' = .idle) :
      CheckoutEffect payments claiming applying stage (payments.update id (notedPayment reason))
        stage' []
  | decided {stage : Stage} {d : Delivery} {f : Payment → Payment} (happlying : applying = some d)
      (hstatus : d.event.status ≠ .pending) (hdecides : Decides payments d f) :
      CheckoutEffect payments claiming applying stage (payments.update d.event.paymentId f) stage []

section

variable {rt : Runtime} {w : World} {db db' : Database}

variable (rt) in
theorem processStep_effect (stage : Stage) {l l' : ProcessState}
    (h : processStep w db l = some (db', l')) :
    CheckoutEffect db.payments none (applying rt .processNormalizedEvent l) stage db'.payments
      stage [] := by
  rcases processStep_writes h with rfl | ⟨d, result, rfl, hok⟩
  · exact .quiet (.inl rfl)
  · cases (processTransaction_eq_ok hok).2 with
    | rejected message stored payments hpayments _ =>
      rcases hpayments with rfl | ⟨payment, -, -, rfl⟩
      · exact .quiet (.inl rfl)
      · exact .noted (.inl rfl)
    | ignored invoice payment payments _ _ _ hpayments =>
      rcases hpayments with rfl | ⟨reason, rfl⟩
      · exact .quiet (.inl rfl)
      · exact .noted (.inl rfl)
    | failed invoice payment hstatus =>
      exact .decided rfl (by rw [hstatus]; exact nofun) .failed
    | settled invoice payment transactionId orders hstatus _ hpayment hvalid =>
      exact .decided rfl (by rw [hstatus]; exact nofun)
        (.settled hstatus hpayment hvalid.provider hvalid.amount hvalid.paymentCurrency)

theorem sessionStep_effect {l l' : SessionState} (h : sessionStep w db l = some (db', l')) :
    CheckoutEffect db.payments (claiming rt .createSession l) (applying rt .createSession l) l.stage
      db'.payments l'.stage (sessionNotes db l) := by
  have hfound : ∀ (request : CreatePaymentSessionRequest) (found : RowId × Payment) (now : ℕ),
      (foundSession db request found now).stage = .idle := by
    intro request found now
    unfold foundSession
    split
    · unfold resumeSession
      split
      · split <;> rfl
      · rfl
    · rfl
  cases l with
  | lookup request =>
    rw [sessionStep] at h
    split at h
    · cases h
      exact .quiet (.inr (hfound _ _ _))
    · cases h
      exact .quiet (.inr rfl)
  | transact request =>
    rw [sessionStep] at h
    split at h <;>
    · rename_i heq
      cases h
      rcases atomically_store heq with rfl | ⟨created, hok⟩
      · exact .quiet (.inr rfl)
      · obtain ⟨row, hpending, rfl⟩ := sessionTransaction_eq_ok hok
        exact .inserted hpending
  | raced request =>
    rw [sessionStep] at h
    split at h
    · cases h
      exact .quiet (.inr (hfound _ _ _))
    · cases h
      exact .quiet (.inr rfl)
  | claim request id payment duplicate =>
    rw [sessionStep] at h
    split at h
    · rename_i row hrow
      split at h
      · rename_i hclaimable
        cases h
        exact .claimed rfl hrow hclaimable
      · cases h
        exact .quiet (.inr rfl)
    · cases h
      exact .quiet (.inr rfl)
  | call request id payment duplicate =>
    rw [sessionStep] at h
    split at h <;> (cases h; exact .called)
  | record id payment duplicate session =>
    cases h
    exact .recorded
  | fail id outcome message =>
    cases h
    exact .errored (.inl rfl)
  | done result => exact nomatch h

theorem callbackStep_effect {l l' : CallbackState} (h : callbackStep rt w db l = some (db', l')) :
    CheckoutEffect db.payments none (applying rt .completeBkashCallback l) l.stage db'.payments
      l'.stage [] := by
  cases l with
  | read request =>
    rw [callbackStep] at h
    split at h
    · cases h
      exact .quiet (.inr rfl)
    · rename_i id payment hfind
      obtain ⟨hrow, hfound⟩ := find?_eq_some hfind
      split at h
      · cases h
        exact .quiet (.inr rfl)
      · cases h
        refine .found hrow ?_
        rw [(of_decide_eq_true hfound).2]
        exact nofun
  | call request paymentId invoiceId =>
    rw [callbackStep] at h
    split at h
    · cases h
      exact .quiet (.inl rfl)
    · cases h
      exact .quiet (.inl rfl)
    · cases h
      exact .quiet (.inr rfl)
  | process paymentId invoiceId state =>
    cases state with
    | done d result =>
      cases result with
      | ok _ | error _ =>
        cases h
        exact .quiet (.inr rfl)
    | lookup _ | transact _ | raced _ =>
      obtain ⟨⟨db₁, state'⟩, hstep, rfl, rfl⟩ := map_eq_some_pair.1 h
      exact processStep_effect rt _ hstep
  | fail paymentId invoiceId outcome message =>
    cases h
    exact .errored (.inr rfl)
  | done result => exact nomatch h

theorem reconcileStep_effect {l l' : ReconcileState}
    (h : reconcileStep rt w db l = some (db', l')) :
    CheckoutEffect db.payments none (applying rt .reconcilePayment l) .idle db'.payments .idle
    [] := by
  cases l with
  | read request =>
    rw [reconcileStep] at h
    split at h
    · cases h
      exact .quiet (.inr rfl)
    · split at h
      · cases h
        exact .quiet (.inr rfl)
      · split at h <;> (cases h; exact .quiet (.inr rfl))
  | call request invoiceId =>
    rw [reconcileStep] at h
    split at h <;> (cases h; exact .quiet (.inr rfl))
  | process state =>
    cases state with
    | done d result =>
      cases h
      exact .quiet (.inr rfl)
    | lookup _ | transact _ | raced _ =>
      obtain ⟨⟨db₁, state'⟩, hstep, rfl, rfl⟩ := map_eq_some_pair.1 h
      exact processStep_effect rt _ hstep
  | fail paymentId message =>
    cases h
    exact .noted (.inr rfl)
  | done result => exact nomatch h

theorem gatewayStep_effect {op : GatewayOperation} {l l' : (gatewayOperations rt op).Local}
    (h : (gatewayOperations rt op).step w db l = some (db', l')) :
    CheckoutEffect db.payments (claiming rt op l) (applying rt op l) (stage rt op l) db'.payments
      (stage rt op l') (checkoutNotes rt op w db l) := by
  cases op with
  | createSession => exact sessionStep_effect h
  | completeBkashCallback => exact callbackStep_effect h
  | reconcilePayment => exact reconcileStep_effect h
  | processNormalizedEvent => exact processStep_effect rt _ h

/-! ## The right to ask -/

/-- How often a session was asked for. -/
def callCount (id : RowId) (calls : List CheckoutCall) : ℕ :=
  calls.countP fun call => call.paymentId = id

def ClaimTaken (id : RowId) (payments : Table Payment) : Prop :=
  ∃ row, payments.get? id = some row ∧ ¬ (row.status = .pending ∧ claimable row)

def HasReference (id : RowId) (payments : Table Payment) : Prop :=
  ∃ row, payments.get? id = some row ∧ row.reference ≠ none

def BeingCreated (id : RowId) (payments : Table Payment) : Prop :=
  ∃ row, payments.get? id = some row ∧ row.status = .pending ∧ row.reference = none ∧
    row.failureReason ≠ none

structure KeepsClaim (f : Payment → Payment) : Prop where
  taken : ∀ row, ¬ (row.status = .pending ∧ claimable row) →
    ¬ ((f row).status = .pending ∧ claimable (f row))
  reference : ∀ row, row.reference ≠ none → (f row).reference ≠ none

variable {f : Payment → Payment} {id j : RowId} {payments : Table Payment}

theorem keepsClaim_of_reason (hreason : ∀ row, (f row).failureReason ≠ none)
    (hreference : ∀ row, (f row).reference = row.reference) : KeepsClaim f where
  taken row _ h := hreason row h.2.2
  reference row h := by
    rw [hreference]
    exact h

theorem keepsClaim_noted (reason : String) : KeepsClaim (notedPayment reason) :=
  keepsClaim_of_reason (fun _ => nofun) fun _ => rfl

theorem keepsClaim_errored (outcome : ProviderOutcome) (message : String) :
    KeepsClaim (erroredPayment outcome message) :=
  keepsClaim_of_reason (fun _ => nofun) fun _ => rfl

theorem keepsClaim_recorded (session : GatewayPaymentSession) : KeepsClaim
    (sessionRecorded session) where
  taken row htaken h := by
    unfold sessionRecorded at h
    split at h
    · exact nomatch h.2.1
    · exact htaken h
  reference row hreference := by
    rw [sessionRecorded, if_neg hreference]
    exact hreference

theorem keepsClaim_decides {d : Delivery} (h : Decides payments d f) : KeepsClaim f := by
  cases h with
  | failed => exact keepsClaim_of_reason (fun _ => nofun) fun _ => rfl
  | settled => exact ⟨fun _ _ h => (nomatch h.1), fun _ h => h⟩

theorem KeepsClaim.claimTaken (hf : KeepsClaim f) (h : ClaimTaken id payments) : ClaimTaken id
    (payments.update j f) := by
  obtain ⟨row, hrow, htaken⟩ := h
  by_cases hj : j = id
  · subst hj
    exact ⟨f row, get?_update_self hrow, hf.taken row htaken⟩
  · exact ⟨row, by rw [get?_update_of_ne hj]; exact hrow, htaken⟩

theorem KeepsClaim.hasReference (hf : KeepsClaim f) (h : HasReference id payments) :
    HasReference id (payments.update j f) := by
  obtain ⟨row, hrow, hreference⟩ := h
  by_cases hj : j = id
  · subst hj
    exact ⟨f row, get?_update_self hrow, hf.reference row hreference⟩
  · exact ⟨row, by rw [get?_update_of_ne hj]; exact hrow, hreference⟩

theorem BeingCreated.update_of_ne
    (h : BeingCreated id payments) (hj : j ≠ id) : BeingCreated id (payments.update j f) := by
  obtain ⟨row, hrow, hcreated⟩ := h
  exact ⟨row, by rw [get?_update_of_ne hj]; exact hrow, hcreated⟩

theorem BeingCreated.noted {reason : String}
    (h : BeingCreated id payments) : BeingCreated id (payments.update j (notedPayment reason)) := by
  by_cases hj : j = id
  · obtain ⟨row, hrow, hpending, hreference, -⟩ := h
    subst hj
    exact ⟨_, get?_update_self hrow, hpending, hreference, nofun⟩
  · exact h.update_of_ne hj

theorem BeingCreated.taken (h : BeingCreated id payments) :
    ClaimTaken id payments := by
  obtain ⟨row, hrow, -, -, hreason⟩ := h
  exact ⟨row, hrow, fun hfree => hreason hfree.2.2⟩

theorem BeingCreated.not_hasReference
    (h : BeingCreated id payments) : ¬ HasReference id payments := by
  obtain ⟨row, hrow, -, hreference, -⟩ := h
  rintro ⟨row', hrow', hset⟩
  obtain rfl := Option.mem_unique hrow hrow'
  exact hset hreference

/-! ## The outline -/

structure AskedOnce (id : RowId) (s : Database × List CheckoutCall) : Prop where
  once : callCount id s.2 ≤ 1
  taken : 0 < callCount id s.2 → ClaimTaken id s.1.payments
  pending : ∀ call ∈ s.2, call.paymentId = id → call.status = some .pending

def StageSound (id : RowId) (s : Database × List CheckoutCall) : Stage → Prop
  | .idle => True
  | .claimed j => j = id → callCount id s.2 = 0 ∧ BeingCreated id s.1.payments
  | .asked j => j = id → 0 < callCount id s.2
  | .returned j => j = id → HasReference id s.1.payments

def checkoutOutline (rt : Runtime) (id : RowId) : Outline (tracedCheckouts rt) where
  shared := AskedOnce id
  thread s t := StageSound id s (stage rt t.op t.loc)
  apart t u := ¬ (stage rt t.op t.loc = .claimed id ∧ stage rt u.op u.loc = .claimed id)

variable {s : Database × List CheckoutCall} {payments' : Table Payment} {claiming : Option RowId}
  {applying : Option Delivery} {stage stage' other : Stage} {calls : List CheckoutCall}

theorem callCount_append (id : RowId) (calls calls' : List CheckoutCall) :
    callCount id (calls ++ calls') = callCount id calls + callCount id calls' :=
  List.countP_append

theorem CheckoutEffect.keeps
    (h : CheckoutEffect s.1.payments claiming applying stage payments' stage' calls) :
    (ClaimTaken id s.1.payments → ClaimTaken id payments') ∧
      (HasReference id s.1.payments → HasReference id payments') := by
  cases h with
  | quiet | found | called => exact ⟨fun h => h, fun h => h⟩
  | inserted =>
    exact ⟨fun ⟨row, hrow, htaken⟩ => ⟨row, get?_insert_of_some hrow, htaken⟩,
      fun ⟨row, hrow, hreference⟩ => ⟨row, get?_insert_of_some hrow, hreference⟩⟩
  | claimed | noted =>
    exact ⟨(keepsClaim_noted _).claimTaken, (keepsClaim_noted _).hasReference⟩
  | recorded => exact ⟨(keepsClaim_recorded _).claimTaken, (keepsClaim_recorded _).hasReference⟩
  | errored =>
    exact ⟨(keepsClaim_errored _ _).claimTaken, (keepsClaim_errored _ _).hasReference⟩
  | decided _ _ hdecides =>
    exact ⟨(keepsClaim_decides hdecides).claimTaken, (keepsClaim_decides hdecides).hasReference⟩

structure Guarded (s : Database × List CheckoutCall) (claiming : Option RowId)
    (applying : Option Delivery) : Prop where
  claims : ∀ id ∈ claiming, ∀ row ∈ s.1.payments.get? id, claimable row → row.status = .pending
  decides : ∀ d ∈ applying, d.event.status ≠ .pending →
    (∃ call ∈ s.2, call.paymentId = d.event.paymentId) ∨
      ∃ row ∈ s.1.payments.get? d.event.paymentId, row.reference ≠ none

theorem Guarded.decided {d : Delivery} (h : Guarded s claiming applying)
    (happlying : applying = some d)
    (hstatus : d.event.status ≠ .pending) :
    0 < callCount d.event.paymentId s.2 ∨ HasReference d.event.paymentId s.1.payments := by
  rcases h.decides d happlying hstatus with ⟨call, hcall, hid⟩ | ⟨row, hrow, hreference⟩
  · exact .inl (List.countP_pos_iff.2 ⟨call, hcall, decide_eq_true hid⟩)
  · exact .inr ⟨row, hrow, hreference⟩

theorem CheckoutEffect.beingCreated (hguard : Guarded s claiming applying)
    (h : CheckoutEffect s.1.payments claiming applying stage payments' stage' calls)
    (hstage : StageSound id s stage) (hnone : callCount id s.2 = 0)
    (hcreated : BeingCreated id s.1.payments) : BeingCreated id payments' := by
  cases h with
  | quiet | found | called => exact hcreated
  | inserted =>
    obtain ⟨row, hrow, hrest⟩ := hcreated
    exact ⟨row, get?_insert_of_some hrow, hrest⟩
  | claimed | noted => exact hcreated.noted
  | @recorded j =>
    refine hcreated.update_of_ne fun hj => ?_
    have hpos := hstage hj
    omega
  | @errored _ j _ _ hj' =>
    refine hcreated.update_of_ne fun hj => ?_
    rcases hj' with rfl | rfl
    · have hpos := hstage hj
      omega
    · exact hcreated.not_hasReference (hstage hj)
  | @decided _ d _ happlying hstatus _ =>
    refine hcreated.update_of_ne ?_
    rintro rfl
    rcases hguard.decided happlying hstatus with hpos | hreference
    · omega
    · exact hcreated.not_hasReference hreference

theorem CheckoutEffect.claims (hguard : Guarded s claiming applying)
    (h : CheckoutEffect s.1.payments claiming applying stage payments' (.claimed id) calls) :
    stage = .claimed id ∨
    (¬ ClaimTaken id s.1.payments ∧ BeingCreated id payments' ∧ calls = []) := by
  cases h with
  | quiet hsame | noted hsame =>
    rcases hsame with hsame | hsame
    · exact .inl hsame.symm
    · exact nomatch hsame
  | @claimed _ row hclaiming hrow hclaimable =>
    have hpending := hguard.claims id hclaiming row hrow hclaimable
    refine .inr ⟨?_, ⟨_, get?_update_self hrow, hpending, hclaimable.1, nofun⟩, rfl⟩
    rintro ⟨row', hrow', htaken⟩
    obtain rfl := Option.mem_unique hrow hrow'
    exact htaken ⟨hpending, hclaimable⟩
  | decided => exact .inl rfl

theorem CheckoutEffect.calls_eq
    (h : CheckoutEffect s.1.payments claiming applying stage payments' stage' calls) :
    calls = [] ∨ ∃ j, stage = .claimed j ∧ stage' = .asked j ∧
      calls = [⟨j, (s.1.payments.get? j).map Payment.status⟩] := by
  cases h with
  | called => exact .inr ⟨_, rfl, rfl, rfl⟩
  | quiet | found | inserted | claimed | recorded | errored | noted | decided => exact .inl rfl

theorem callCount_singleton (id j : RowId) (status : Option PaymentStatus) :
    callCount id [⟨j, status⟩] = if j = id then 1 else 0 := by
  simp [callCount, List.countP_singleton]

theorem AskedOnce.step (h : AskedOnce id s) (hstage : StageSound id s stage)
    (heffect : CheckoutEffect s.1.payments claiming applying stage db'.payments stage' calls) :
    AskedOnce id (db', s.2 ++ calls) := by
  rcases heffect.calls_eq with rfl | ⟨j, rfl, -, rfl⟩
  · rw [List.append_nil]
    exact ⟨h.once, fun hpos => heffect.keeps.1 (h.taken hpos), h.pending⟩
  · by_cases hj : j = id
    · subst hj
      obtain ⟨hnone, hcreated⟩ := hstage rfl
      refine ⟨?_, fun _ => heffect.keeps.1 hcreated.taken, fun call hcall hid => ?_⟩
      · rw [callCount_append, callCount_singleton, if_pos rfl, hnone]
      · rcases List.mem_append.1 hcall with hcall | hcall
        · exact h.pending call hcall hid
        · obtain rfl := List.mem_singleton.1 hcall
          obtain ⟨row, hrow, hpending, -⟩ := hcreated
          rw [hrow, Option.map_some, hpending]
    · refine ⟨?_, fun hpos => heffect.keeps.1 (h.taken ?_), fun call hcall hid => ?_⟩
      · rw [callCount_append, callCount_singleton, if_neg hj]
        exact h.once
      · rw [callCount_append, callCount_singleton, if_neg hj] at hpos
        exact hpos
      · rcases List.mem_append.1 hcall with hcall | hcall
        · exact h.pending call hcall hid
        · obtain rfl := List.mem_singleton.1 hcall
          exact absurd hid hj

theorem StageSound.kept (h : StageSound id s other)
    (hreference : HasReference id s.1.payments → HasReference id db'.payments)
    (hclaimed : other = .claimed id → callCount id calls = 0 ∧ BeingCreated id db'.payments) :
    StageSound id (db', s.2 ++ calls) other := by
  cases other with
  | idle => trivial
  | claimed j =>
    rintro rfl
    obtain ⟨hcalls, hcreated⟩ := hclaimed rfl
    refine ⟨?_, hcreated⟩
    show callCount j (s.2 ++ calls) = 0
    rw [callCount_append, (h rfl).1, hcalls]
  | asked j =>
    intro hj
    have hpos := h hj
    show 0 < callCount id (s.2 ++ calls)
    rw [callCount_append]
    exact Nat.add_pos_left hpos _
  | returned j => exact fun hj => hreference (h hj)

theorem StageSound.own (hs : AskedOnce id s) (h : StageSound id s stage)
    (hguard : Guarded s claiming applying)
    (heffect : CheckoutEffect s.1.payments claiming applying stage db'.payments stage' calls) :
    StageSound id (db', s.2 ++ calls) stage' := by
  have hsame (hstage : stage' = stage) (hcalls : calls = []) :
      StageSound id (db', s.2 ++ calls) stage' := by
    subst hstage
    refine h.kept heffect.keeps.2 fun hclaimed => ⟨by rw [hcalls]; rfl, ?_⟩
    subst hclaimed
    exact heffect.beingCreated hguard h (h rfl).1 (h rfl).2
  cases stage' with
  | idle => trivial
  | claimed j =>
    rintro rfl
    rcases heffect.claims hguard with hclaimed | ⟨hfree, hcreated, hcalls⟩
    · rcases heffect.calls_eq with hcalls | ⟨_, _, heq, -⟩
      · exact hsame hclaimed.symm hcalls rfl
      · exact nomatch heq
    · refine ⟨?_, hcreated⟩
      show callCount j (s.2 ++ calls) = 0
      rw [hcalls, List.append_nil]
      exact Nat.eq_zero_of_not_pos fun hpos => hfree (hs.taken hpos)
  | asked j =>
    rcases heffect.calls_eq with hcalls | ⟨k, hstage, heq, hcalls⟩
    · generalize db'.payments = payments' at heffect
      cases heffect with
      | quiet hstage | noted hstage =>
        rcases hstage with hstage | hstage
        · exact hsame hstage hcalls
        · exact nomatch hstage
      | decided => exact hsame rfl hcalls
      | called => exact nomatch hcalls
    · rintro rfl
      obtain rfl := Stage.asked.inj heq
      show 0 < callCount j (s.2 ++ calls)
      rw [hcalls, callCount_append, callCount_singleton, if_pos rfl]
      exact Nat.succ_pos _
  | returned j =>
    have hkept : HasReference j s.1.payments → HasReference j db'.payments := heffect.keeps.2
    generalize db'.payments = payments' at heffect
    cases heffect with
    | quiet hstage | noted hstage =>
      rcases hstage with hstage | hstage
      · exact hsame hstage rfl
      · exact nomatch hstage
    | decided => exact hsame rfl rfl
    | found hrow hreference =>
      rintro rfl
      exact hkept ⟨_, hrow, hreference⟩

theorem checkoutOutline_sound (rt : Runtime) (id : RowId) :
    (checkoutOutline rt id).Sound (ClaimsPending rt) where
  symm t u hapart hboth := hapart hboth.symm
  call s op request _ := by
    cases op with
    | createSession | processNormalizedEvent | completeBkashCallback | reconcilePayment => trivial
  call_apart op request u hboth := by
    cases op with
    | createSession | processNormalizedEvent | completeBkashCallback | reconcilePayment =>
      exact nomatch hboth.1
  own w s t s' t' hφ hs ht hstep := by
    obtain ⟨db', trace⟩ := s'
    obtain ⟨l, hone, htrace, rfl⟩ := Thread.traced_step hstep
    have heffect := gatewayStep_effect hone
    obtain rfl : trace = s.2 ++ _ := htrace
    exact ⟨hs.step ht heffect, ht.own hs ⟨hφ.1, hφ.2⟩ heffect⟩
  other w s t s' t' u hφ hs ht hu hapart hstep := by
    obtain ⟨db', trace⟩ := s'
    obtain ⟨l, hone, htrace, rfl⟩ := Thread.traced_step hstep
    have heffect := gatewayStep_effect hone
    have hguard : Guarded s (claiming rt t.op t.loc) (applying rt t.op t.loc) := ⟨hφ.1, hφ.2⟩
    obtain rfl : trace = s.2 ++ _ := htrace
    constructor
    · refine hu.kept heffect.keeps.2 fun hclaimed => ?_
      rw [show (checkoutOutline rt id).thread s u = StageSound id s (stage rt u.op u.loc) from rfl,
        hclaimed] at hu
      obtain ⟨hnone, hcreated⟩ := hu rfl
      refine ⟨?_, heffect.beingCreated hguard ht hnone hcreated⟩
      rcases heffect.calls_eq with hcalls | ⟨j, hstage, -, hcalls⟩
      · rw [hcalls]
        rfl
      · have hj : j ≠ id := by
          rintro rfl
          exact hapart ⟨hstage, hclaimed⟩
        rw [hcalls, callCount_singleton, if_neg hj]
    · rintro ⟨hclaims, hclaimed⟩
      rw [show (checkoutOutline rt id).thread s u = StageSound id s (stage rt u.op u.loc) from rfl,
        hclaimed] at hu
      rw [hclaims] at heffect
      rcases heffect.claims hguard with hstage | ⟨hfree, -⟩
      · exact hapart ⟨hstage, hclaimed⟩
      · exact hfree (hu rfl).2.taken

end

/-- **The provider is asked for a checkout at most once**, and only while the payment is pending, in
every run in which payments are pending when they are claimed and are not decided before the provider
was asked. -/
theorem checkout_once (rt : Runtime) (db : Database) (c : Config (tracedCheckouts rt))
    (hr : Reaches (ClaimsPending rt) ⟨(db, []), []⟩ c) (id : RowId) :
    callCount id c.shared.2 ≤ 1 ∧
      ∀ call ∈ c.shared.2, call.paymentId = id → call.status = some .pending := by
  have hinit : (checkoutOutline rt id).shared (db, []) :=
    ⟨Nat.zero_le 1, fun hpos => absurd hpos (Nat.lt_irrefl 0), fun _ h => absurd h List.not_mem_nil⟩
  have hasked := ((checkoutOutline_sound rt id).holds (Outline.holds_idle hinit) hr).shared
  exact ⟨hasked.once, hasked.pending⟩

/-! ### A settlement between two requests -/

def unpaidInvoice : Database := { openSession .sslcommerz "T-1" with payments := ∅ }

def sessionRequest : CreatePaymentSessionRequest where
  gateway := .sslcommerz
  invoiceId := 0
  submissionKey := "s-1"
  actor := ⟨0, .customer, some 0⟩

def unansweredSession : World where
  gatewaySession := .error (.provider .unknown
    "SSLCOMMERZ could not be reached. Reconciliation is required before retrying.")

def notifiedDelivery : Delivery where
  gateway := .sslcommerz
  event := {
    providerEventId := "sslcommerz:val-1", eventType := "payment.succeeded", status := .succeeded,
    merchantId := "sslcommerz-sandbox", paymentId := 0, invoiceId := 0, amount := 100,
    currency := "BDT", providerTransactionId := some "T-1", occurredAt := 3,
    failureReason := none }
  payloadHash := "c0ffee"

/-- Two requests read the payment, and the first one asks for the checkout, without an answer. -/
def askUnanswered : List (Move (tracedCheckouts callbackRuntime)) :=
  [.call .createSession sessionRequest, .advance 0 {}, .advance 0 {},
    .call .createSession sessionRequest, .advance 1 {},
    .advance 0 {}, .advance 0 unansweredSession, .advance 0 {}]

def settleUnanswered : List (Move (tracedCheckouts callbackRuntime)) :=
  [.call .processNormalizedEvent notifiedDelivery, .advance 2 {}, .advance 2 {}]

def askAgain : List (Move (tracedCheckouts callbackRuntime)) :=
  [.advance 1 {}, .advance 1 {}]

def askedConfig : Config (tracedCheckouts callbackRuntime) :=
  Config.after ⟨(unpaidInvoice, []), []⟩ (askUnanswered ++ settleUnanswered) (by decide +kernel)

def askedTwiceConfig : Config (tracedCheckouts callbackRuntime) :=
  Config.after ⟨(unpaidInvoice, []), []⟩ (askUnanswered ++ settleUnanswered ++ askAgain)
    (by decide +kernel)

/-- Until the second request goes on, the checkout was asked for once. -/
theorem asked_once_before :
    askedConfig.shared.2 = [⟨0, some .pending⟩] ∧ callCount 0 askedConfig.shared.2 ≤ 1 ∧
      ∀ call ∈ askedConfig.shared.2, call.paymentId = 0 → call.status = some .pending := by
  have honce := checkout_once callbackRuntime unpaidInvoice askedConfig
    (reaches_of_run (run_eq_after (by decide +kernel)) (by decide +kernel)) 0
  exact ⟨by decide +kernel, honce.1, honce.2⟩

/-- The settlement empties the failure reason, and the second request asks for the checkout of a
payment that has succeeded. -/
theorem checkout_called_after_settlement :
    Reaches anyStep ⟨(unpaidInvoice, []), []⟩ askedTwiceConfig ∧
      askedTwiceConfig.shared.2 = [⟨0, some .pending⟩, ⟨0, some .succeeded⟩] ∧
      callCount 0 askedTwiceConfig.shared.2 = 2 :=
  ⟨reaches_anyStep_of_run (run_eq_after (by decide +kernel)), by decide +kernel,
    by decide +kernel⟩

end PaymentGatewayService

end WebhostBilling
