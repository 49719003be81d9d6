import WebhostBilling.Orders.SpentQuotes

/-!
# What the calls for a quote are answered

A call for a quote waits for at most one lock, whoever has it can give it back, and every step
brings the call nearer to its end.
-/

namespace WebhostBilling

open Store Store.Table Concurrency Config RegistrarProcessor DomainService OrderService

/-! ## The steps that are left -/

namespace OrderingView

def stepsLeft : OrderingView → ℕ
  | .purchase _ (.locking _) => 3
  | .purchase _ (.writing _ _ _) => 2
  | .purchase _ (.raced _) => 1
  | .purchase _ (.done _) => 0
  | .create _ (.finding _) => 4
  | .create _ (.locking _) => 3
  | .create _ (.writing _ _ _ _ _) => 2
  | .create _ (.raced _) => 1
  | .create _ (.done _) => 0
  | .other (some _) => 1
  | .other none => 0

def awaited : OrderingView → Option RowId
  | .purchase _ (.locking call) => some call.quoteId
  | .create _ (.locking request) => request.domainQuoteId
  | _ => none

end OrderingView

section

variable {settings : RegistrarSettings} {w : OrderingWorld} {quoteId : RowId}
  {s s' : OrderingDatabase × List QuoteEvent} {db' : OrderingDatabase} {events : List QuoteEvent}
  {view view' : OrderingView}
variable {db : OrderingDatabase}

variable {opened : Except Failure PurchaseCall} {request : CreateOrderRequest}

theorem PurchaseEffect.stepsLeft_lt {state state' : PurchaseState}
    (h : PurchaseEffect w db state db' events state') :
    (OrderingView.purchase opened state').stepsLeft <
      (OrderingView.purchase opened state).stepsLeft := by
  cases h with
  | prior _ _ _ _ hstate | refused _ _ _ hstate =>
    rcases hstate with rfl | rfl <;> exact Nat.succ_pos _
  | quoted => exact Nat.lt_succ_self 2
  | sells => exact Nat.succ_pos 1
  | rolledBack _ _ _ _ hstate =>
    rcases hstate with rfl | ⟨e, rfl⟩
    · exact Nat.lt_succ_self 1
    · exact Nat.succ_pos 1

theorem CreateEffect.stepsLeft_lt {state state' : CreateState}
    (h : CreateEffect w db state db' events state') :
    (OrderingView.create request state').stepsLeft <
      (OrderingView.create request state).stepsLeft := by
  cases h with
  | replays _ _ _ _ hstate | refused _ _ _ hstate =>
    rcases hstate with rfl | rfl | rfl <;> exact Nat.succ_pos _
  | opens => exact Nat.lt_succ_self 3
  | quoted | unquoted => exact Nat.lt_succ_self 2
  | sells | places => exact Nat.succ_pos 1
  | rolledBack _ _ _ _ _ _ hstate =>
    rcases hstate with rfl | ⟨e, rfl⟩
    · exact Nat.lt_succ_self 1
    · exact Nat.succ_pos 1

theorem otherStep_stepsLeft_lt {state state' : Option OtherWrite}
    (h : otherStep db state = some (db', state')) :
    (OrderingView.other state').stepsLeft < (OrderingView.other state).stepsLeft := by
  match state with
  | none => cases h
  | some (.quote row) =>
    obtain ⟨-, rfl⟩ := Prod.mk.inj (Option.some.inj h)
    exact Nat.succ_pos 0
  | some (.link row) =>
    rw [otherStep] at h
    split at h <;>
    · obtain ⟨-, rfl⟩ := Prod.mk.inj (Option.some.inj h)
      exact Nat.succ_pos 0

theorem OrderingStep.stepsLeft_lt (h : OrderingStep settings w s.1 view db' events view')
    (hrelies : Relies quoteId s view) : view'.stepsLeft < view.stepsLeft := by
  cases h with
  | purchase _ hstep => exact (purchaseStep_effect hstep).stepsLeft_lt
  | create _ hstep => exact (createStep_effect hrelies.agrees hstep).stepsLeft_lt
  | other hstep => exact otherStep_stepsLeft_lt hstep

theorem OrderingStep.asks_eq
    (h : OrderingStep settings w db view db' events view') : view'.asks = view.asks := by
  cases h with
  | purchase opened => cases opened <;> rfl
  | create | other => rfl

theorem purchaseStep_isSome {state : PurchaseState}
    (hleft : 0 < (OrderingView.purchase opened state).stepsLeft)
    (hfree : ∀ id, (OrderingView.purchase opened state).awaited = some id →
      id ∉ db.lockedQuotes) :
    (purchaseStep settings w db state).isSome := by
  cases state with
  | locking call =>
    rw [purchaseStep, if_neg (hfree call.quoteId rfl)]
    split <;> rfl
  | writing call quote checkedAt =>
    simp only [purchaseStep]
    split <;> rfl
  | raced call => rfl
  | done result => exact absurd hleft (Nat.lt_irrefl 0)

theorem createStep_isSome {state : CreateState}
    (hleft : 0 < (OrderingView.create request state).stepsLeft)
    (hfree : ∀ id, (OrderingView.create request state).awaited = some id →
      id ∉ db.lockedQuotes) : (createStep settings w db state).isSome := by
  cases state with
  | finding request' =>
    simp only [createStep]
    split
    · rfl
    · split <;> rfl
  | locking request' =>
    have hunlocked : ¬ ∃ id ∈ request'.domainQuoteId, id ∈ db.lockedQuotes := by
      rintro ⟨id, hid, hlocked⟩
      exact hfree id hid hlocked
    rw [createStep, if_neg hunlocked]
    split <;> rfl
  | writing request' hosting addOns quote checkedAt =>
    simp only [createStep]
    split <;> rfl
  | raced request' => rfl
  | done result => exact absurd hleft (Nat.lt_irrefl 0)

theorem otherStep_isSome {state : Option OtherWrite}
    (hleft : 0 < (OrderingView.other state).stepsLeft) : (otherStep db state).isSome := by
  match state with
  | none => exact absurd hleft (Nat.lt_irrefl 0)
  | some (.quote row) => rfl
  | some (.link row) =>
    rw [otherStep]
    split <;> rfl

theorem exists_step {t : OrderingThread settings} (w : OrderingWorld)
    (hleft : 0 < (orderingView t).stepsLeft)
    (hfree : ∀ id, (orderingView t).awaited = some id → id ∉ s.1.lockedQuotes) :
    ∃ out, t.step w s = some out := by
  obtain ⟨kind, l⟩ := t
  cases kind with
  | purchase =>
    obtain ⟨out, hout⟩ := Option.isSome_iff_exists.1 (purchaseStep_isSome hleft hfree)
    refine ⟨((out.1, s.2 ++ purchaseEvents settings w s.1 l.2), ⟨.purchase, (l.1, out.2)⟩), ?_⟩
    show (((purchaseStep settings w s.1 l.2).map _).map _).map _ = _
    rw [hout]
    rfl
  | adminPurchase =>
    obtain ⟨out, hout⟩ := Option.isSome_iff_exists.1 (purchaseStep_isSome hleft hfree)
    refine ⟨((out.1, s.2 ++ purchaseEvents settings w s.1 l.2), ⟨.adminPurchase, (l.1, out.2)⟩), ?_⟩
    show (((purchaseStep settings w s.1 l.2).map _).map _).map _ = _
    rw [hout]
    rfl
  | create =>
    obtain ⟨out, hout⟩ := Option.isSome_iff_exists.1 (createStep_isSome hleft hfree)
    refine ⟨((out.1, s.2 ++ createEvents settings w s.1 l.2), ⟨.create, (l.1, out.2)⟩), ?_⟩
    show (((createStep settings w s.1 l.2).map _).map _).map _ = _
    rw [hout]
    rfl
  | other =>
    obtain ⟨out, hout⟩ := Option.isSome_iff_exists.1 (otherStep_isSome hleft)
    refine ⟨((out.1, s.2 ++ []), ⟨.other, out.2⟩), ?_⟩
    show ((otherStep s.1 l).map _).map _ = _
    rw [hout]
    rfl

end

/-! ## Answers -/

def orderingStart (settings : RegistrarSettings) (quotes : Table SellingQuote) :
    OrderingConfig settings :=
  ⟨({ quotes := quotes }, []), []⟩

section

variable {settings : RegistrarSettings} {quotes : Table SellingQuote} {c : OrderingConfig settings}
  {k : ℕ} {t : OrderingThread settings}

theorem spending_start (quotes : Table SellingQuote) (quoteId : RowId) :
    Spending quoteId ({ quotes := quotes }, []) where
  references := ⟨fun _ _ h => absurd h get?_empty_ne, fun _ _ h => absurd h get?_empty_ne⟩
  apart _ _ _ _ h := absurd h get?_empty_ne
  sold _ _ h := absurd h get?_empty_ne

theorem quoteOutline_start (settings : RegistrarSettings) (quotes : Table SellingQuote)
    (quoteId : RowId) : (quoteOutline settings quoteId).Holds (orderingStart settings quotes) :=
  Outline.holds_idle (spending_start quotes quoteId)

theorem quoteOutline_holds (hreach : Reaches anyStep (orderingStart settings quotes) c)
    (quoteId : RowId) : (quoteOutline settings quoteId).Holds c :=
  (quoteOutline_sound settings quoteId).holds (quoteOutline_start settings quotes quoteId) hreach

variable {view : OrderingView} {call : QuoteCall} {id : RowId}

theorem ready_of_locked (h : view.locked = some id) :
    view.awaited = none ∧ 0 < view.stepsLeft := by
  cases view with
  | purchase opened state | create request state => cases state with
    | writing => exact ⟨rfl, Nat.succ_pos 1⟩
    | _ => cases h
  | other => cases h

theorem locked_of_awaited (h : view.awaited = some id) :
    view.locked = none := by
  cases view with
  | purchase opened state | create request state => cases state with
    | locking => rfl
    | _ => cases h
  | other => rfl

theorem exists_locked (hreach : Reaches anyStep (orderingStart settings quotes) c)
    (htaken : id ∈ c.shared.1.lockedQuotes) :
    ∃ (j : ℕ) (u : OrderingThread settings), c.threads[j]? = some u ∧
      (orderingView u).locked = some id := by
  have hrelying := (quoteOutline_sound settings id).reaches_relying
    (quoteOutline_start settings quotes id) hreach
  refine (quoteLock settings id).held_of_reaches ?_ hrelying (fun h => absurd h List.not_mem_nil)
    htaken
  intro w s t s' t' hguard hstep htaken'
  exact (locksMove_of_step hguard.2.2.2 hstep).kept htaken'

/-- **A call is never stuck**: when it waits for a lock, one step of the call that has it is
enough. -/
theorem exists_ready (hreach : Reaches anyStep (orderingStart settings quotes) c)
    (ht : c.threads[k]? = some t) (hleft : 0 < (orderingView t).stepsLeft) :
    ∃ c', Reaches anyStep c c' ∧ c'.threads[k]? = some t ∧
      ∃ w out, anyStep w c'.shared t ∧ t.step w c'.shared = some out := by
  by_cases hwaits : ∃ id, (orderingView t).awaited = some id ∧ id ∈ c.shared.1.lockedQuotes
  · obtain ⟨id, hawaited, htaken⟩ := hwaits
    obtain ⟨j, u, hu, hlocked⟩ := exists_locked hreach htaken
    have hjk : j ≠ k := by
      rintro rfl
      obtain rfl := Option.mem_unique ht hu
      rw [locked_of_awaited hawaited] at hlocked
      cases hlocked
    obtain ⟨hnone, huleft⟩ := ready_of_locked hlocked
    obtain ⟨⟨s', u'⟩, hstep⟩ := exists_step (s := c.shared) {} huleft fun id' h => by
      rw [hnone] at h
      cases h
    have hfree : id ∉ s'.1.lockedQuotes := by
      have hholds := quoteOutline_holds hreach id
      have hmove := locksMove_of_step (hholds.thread u (List.mem_of_getElem? hu)).2 hstep
      rw [hlocked] at hmove
      generalize s'.1.lockedQuotes = locks, (orderingView u').locked = held at hmove ⊢
      cases hmove with
      | releases => simp
    have ht' : (c.threads.set j u')[k]? = some t := by
      rw [List.getElem?_set_ne hjk]
      exact ht
    refine ⟨⟨s', c.threads.set j u'⟩, Relation.ReflTransGen.single (Step.advance hu trivial hstep),
      ht', {}, ?_⟩
    obtain ⟨out, hout⟩ := exists_step (s := s') {} hleft fun id' h => by
      rw [hawaited, Option.some.injEq] at h
      rw [← h]
      exact hfree
    exact ⟨out, trivial, hout⟩
  · obtain ⟨out, hout⟩ := exists_step (s := c.shared) {} hleft fun id h hlocked =>
      hwaits ⟨id, h, hlocked⟩
    exact ⟨c, .refl, ht, {}, out, trivial, hout⟩

theorem asks_of_reaches {c' : OrderingConfig settings}
    (hreach : Reaches anyStep (orderingStart settings quotes) c) (hreach' : Reaches anyStep c c')
    (ht : c.threads[k]? = some t) (hasks : (orderingView t).asks = some call) :
    ∃ t', c'.threads[k]? = some t' ∧ (orderingView t').asks = some call := by
  refine (quoteOutline_sound settings 0).tracked (J := fun _ t => (orderingView t).asks = some call)
    ?_ (fun _ _ _ _ _ _ _ _ _ h _ => h) (quoteOutline_holds hreach 0) hreach' ht hasks
  intro w s t s' t' _ _ _ hasks hstep
  obtain ⟨events, hstep, -⟩ := orderingStep_of_step hstep
  exact hstep.asks_eq.trans hasks

theorem outcome_of_finished (hasks : view.asks = some call)
    (hleft : view.stepsLeft = 0) : view.outcome.isSome := by
  cases view with
  | purchase opened state | create request state => cases state with
    | done => rfl
    | _ => cases hleft
  | other => cases hasks

theorem exists_answer
    (hreach : Reaches anyStep (orderingStart settings quotes) c) (ht : c.threads[k]? = some t)
    (hasks : (orderingView t).asks = some call) :
    ∃ c' t', Reaches anyStep c c' ∧ c'.threads[k]? = some t' ∧
      (orderingView t').asks = some call ∧ (orderingView t').outcome.isSome := by
  have hfinished : ∃ c' t', Reaches anyStep c c' ∧ c'.threads[k]? = some t' ∧
      (orderingView t').stepsLeft = 0 := by
    refine @exists_finished _ _ _ _ anyStep (fun t => (orderingView t).stepsLeft)
      (Reaches anyStep (orderingStart settings quotes)) (fun _ _ h h' => h.trans h') ?_
      (fun _ _ _ h ht hleft => exists_ready h ht hleft) c k t hreach ht
    intro c k t w s' t' hreach ht hstep
    have hthread := (quoteOutline_holds hreach 0).thread t (List.mem_of_getElem? ht)
    obtain ⟨events, hstep, -⟩ := orderingStep_of_step hstep
    exact hstep.stepsLeft_lt hthread.2
  obtain ⟨c', t', hreach', ht', hleft⟩ := hfinished
  obtain ⟨u, hu, hasks'⟩ := asks_of_reaches hreach hreach' ht hasks
  obtain rfl := Option.mem_unique ht' hu
  exact ⟨c', t', hreach', ht', hasks', outcome_of_finished hasks' hleft⟩

/-! ## Accepted calls -/

variable {answer quoteId : RowId} {s : OrderingDatabase × List QuoteEvent} {domain : DomainRequest}

theorem soldTo_of_accepted (hreach : Reaches anyStep (orderingStart settings quotes) c)
    (ht : c.threads[k]? = some t) (hasks : (orderingView t).asks = some call)
    (haccepted : (orderingView t).outcome = some (.ok answer)) :
    ∃ id, SoldTo call.quoteId c.shared.1 call.submissionKey call.customerId id ∧
      ∀ opened state, orderingView t = .purchase opened state → id = answer := by
  have hrelies : Relies call.quoteId c.shared (orderingView t) :=
    ((quoteOutline_holds hreach call.quoteId).thread t (List.mem_of_getElem? ht)).2
  generalize orderingView t = view at *
  cases view with
  | purchase opened state =>
    cases state with
    | done result =>
      obtain rfl := Option.some.inj haccepted
      cases opened with
      | error e => cases hasks
      | ok call' =>
        obtain rfl := Option.some.inj hasks
        exact ⟨answer, hrelies call' rfl rfl, fun _ _ _ => rfl⟩
    | _ => cases haccepted
  | create request state =>
    cases state with
    | done result =>
      obtain rfl := Option.some.inj haccepted
      obtain ⟨quoteId, hnamed, rfl⟩ := Option.map_eq_some_iff.1 hasks
      obtain ⟨id, hsold⟩ := hrelies hnamed
      exact ⟨id, hsold, fun _ _ h => nomatch h⟩
    | _ => cases haccepted
  | other => cases hasks

theorem OrderingStep.unchanged {w : OrderingWorld} {db' : OrderingDatabase}
    {events : List QuoteEvent} {view' : OrderingView}
    (h : OrderingStep settings w s.1 view db' events view') (hrelies : Relies quoteId s view)
    (hasks : view.asks = some call) :
    db' = { s.1 with lockedQuotes := db'.lockedQuotes } ∨ ∃ id, view'.outcome = some (.ok id) := by
  cases h with
  | purchase _ hstep =>
    rcases (purchaseStep_effect hstep).unchanged with hsame | ⟨id, rfl⟩
    · exact .inl hsame
    · exact .inr ⟨id, rfl⟩
  | create _ hstep =>
    rcases (createStep_effect hrelies.agrees hstep).unchanged with hsame | ⟨id, rfl⟩
    · exact .inl hsame
    · exact .inr ⟨id, rfl⟩
  | other => cases hasks

theorem eq_of_submissionKey {id' : RowId} {domain' : DomainRequest} (h : Spending quoteId s)
    (hdomain : s.1.domains.get? id = some domain) (hdomain' : s.1.domains.get? id' = some domain')
    (hkey : domain'.submissionKey = domain.submissionKey) : id' = id ∧ domain' = domain := by
  obtain rfl := h.apart id id' domain domain' hdomain hdomain'
    (.inr (.inr (.inr (.inr hkey))))
  exact ⟨rfl, Option.mem_unique hdomain' hdomain⟩

theorem not_accepted (hreach : Reaches anyStep (orderingStart settings quotes) c)
    (ht : c.threads[k]? = some t) (hasks : (orderingView t).asks = some call)
    (hdomain : c.shared.1.domains.get? id = some domain)
    (hkey : domain.submissionKey = call.submissionKey)
    (hother : domain.quoteId ≠ some call.quoteId ∨ domain.customerId ≠ call.customerId) :
    (orderingView t).outcome ≠ some (.ok answer) := by
  intro haccepted
  obtain ⟨id', ⟨domain', hdomain', hkey', hquote, hcustomer⟩, -⟩ :=
    soldTo_of_accepted hreach ht hasks haccepted
  obtain ⟨-, rfl⟩ := eq_of_submissionKey (quoteOutline_holds hreach call.quoteId).shared hdomain
    hdomain' (hkey'.trans hkey.symm)
  rcases hother with hother | hother
  · exact hother hquote
  · exact hother hcustomer

end

/-! ## Purchases that were made before -/

/-- A purchase asks for what a domain became, by the route that its quote is for. -/
structure Repeated (call : PurchaseCall) (id : RowId) (db : OrderingDatabase) : Prop where
  sold : SoldTo call.quoteId db call.submissionKey call.customerId id
  quote : ∃ quote, db.quotes.get? call.quoteId = some quote ∧
    quote.customerId = call.customerId ∧ quote.offlineConsent.isSome = call.adminAssisted

/-- A purchase that was made before is not about to write, and was not refused. -/
def RepeatedView (call : PurchaseCall) (id : RowId) (view : OrderingView) : Prop :=
  view = .purchase (.ok call) (.locking call) ∨ view = .purchase (.ok call) (.raced call) ∨
    view = .purchase (.ok call) (.done (.ok id))

section

variable {settings : RegistrarSettings} {w : OrderingWorld} {call : PurchaseCall} {id : RowId}
  {s : OrderingDatabase × List QuoteEvent} {db' : OrderingDatabase} {events : List QuoteEvent}
  {view view' : OrderingView}

theorem Repeated.domainOfKey (h : Repeated call id s.1) (hspending : Spending call.quoteId s) :
    ∃ domain, s.1.domainOfKey call.submissionKey = some (id, domain) ∧
      domain.customerId = call.customerId ∧ domain.quoteId = some call.quoteId := by
  obtain ⟨domain, hdomain, hkey, hquote, hcustomer⟩ := h.sold
  cases hfound : s.1.domainOfKey call.submissionKey with
  | none => exact absurd hkey (OrderingDatabase.domainOfKey_eq_none hfound hdomain)
  | some found =>
    obtain ⟨id', domain'⟩ := found
    obtain ⟨hget, hkey'⟩ := OrderingDatabase.domainOfKey_eq_some hfound
    obtain ⟨rfl, rfl⟩ := eq_of_submissionKey hspending hdomain hget (hkey'.trans hkey.symm)
    exact ⟨domain', rfl, hcustomer, hquote⟩

theorem Repeated.checkPurchase (h : Repeated call id s.1) (hspending : Spending call.quoteId s)
    (now : ℕ) : checkPurchase call now s.1 = .ok (.prior id) := by
  obtain ⟨domain, hfound, hcustomer, hquote⟩ := h.domainOfKey hspending
  obtain ⟨quote, hrow, howner, hconsent⟩ := h.quote
  have hfilter : (s.1.quotes.get? call.quoteId).filter (·.customerId = call.customerId) =
      some quote := by
    rw [hrow, Option.filter_some, if_pos (decide_eq_true howner)]
  rw [DomainService.checkPurchase, bind_eq_ok]
  refine ⟨quote, orThrow_eq_ok.2 hfilter, bind_eq_ok.2 ⟨(), require_eq_ok.2 hconsent, ?_⟩⟩
  rw [hfound]
  exact bind_eq_ok.2 ⟨(), require_eq_ok.2 ⟨hcustomer, hquote⟩, rfl⟩

theorem Repeated.racedPurchase (h : Repeated call id s.1) (hspending : Spending call.quoteId s) :
    racedPurchase call s.1 = .ok id := by
  obtain ⟨domain, hfound, hcustomer, hquote⟩ := h.domainOfKey hspending
  obtain ⟨quote, hrow, -, hconsent⟩ := h.quote
  have hreplay : ((domain.quoteId.bind s.1.quotes.get?).bind SellingQuote.offlineConsent).isSome =
      call.adminAssisted := by
    rw [hquote, Option.bind_some, hrow, Option.bind_some]
    exact hconsent
  simp only [DomainService.racedPurchase, hfound]
  rw [require, if_pos ⟨hcustomer, hquote, hreplay⟩]
  rfl

theorem Repeated.grown {s' : OrderingDatabase × List QuoteEvent} (h : Repeated call id s.1)
    (hgrown : Grown s s') : Repeated call id s'.1 where
  sold := h.sold.grown hgrown
  quote := by
    obtain ⟨quote, hrow, hquote⟩ := h.quote
    exact ⟨quote, hgrown.quotes _ quote hrow, hquote⟩

theorem OrderingStep.repeated (h : OrderingStep settings w s.1 view db' events view')
    (hspending : Spending call.quoteId s) (hrepeated : Repeated call id s.1)
    (hview : RepeatedView call id view) : RepeatedView call id view' := by
  rcases hview with rfl | rfl | rfl
  · cases h with
    | purchase _ hstep =>
      rw [purchaseStep] at hstep
      split at hstep
      · cases hstep
      · rw [hrepeated.checkPurchase hspending] at hstep
        obtain ⟨-, rfl⟩ := Prod.mk.inj (Option.some.inj hstep)
        exact .inr (.inr rfl)
  · cases h with
    | purchase _ hstep =>
      rw [purchaseStep, hrepeated.racedPurchase hspending] at hstep
      obtain ⟨-, rfl⟩ := Prod.mk.inj (Option.some.inj hstep)
      exact .inr (.inr rfl)
  · cases h with
    | purchase _ hstep => cases hstep

theorem repeatedView_of_relies {state : PurchaseState} (hrepeated : Repeated call id s.1)
    (hrelies : Relies call.quoteId s (.purchase (.ok call) state))
    (hunfinished : ∀ result, state ≠ .done result) :
    RepeatedView call id (.purchase (.ok call) state) := by
  cases state with
  | locking call' =>
    obtain rfl := Except.ok.inj hrelies
    exact .inl rfl
  | writing call' quote checkedAt =>
    obtain ⟨hcall, hheld⟩ := hrelies
    obtain rfl := Except.ok.inj hcall
    obtain ⟨domain, hdomain, hkey, hquote, -⟩ := hrepeated.sold
    exact absurd hkey ((hheld rfl).2 id domain hdomain hquote)
  | raced call' =>
    obtain rfl := Except.ok.inj hrelies
    exact .inr (.inl rfl)
  | done result => exact absurd rfl (hunfinished result)

end

section

variable {settings : RegistrarSettings} {quotes : Table SellingQuote} {c : OrderingConfig settings}
  {k : ℕ} {t : OrderingThread settings}

/-- **A purchase that was made before is answered with its domain**, at any later time. -/
theorem outcome_of_repeated {call : PurchaseCall} {id : RowId} {state : PurchaseState}
    (hreach : Reaches anyStep (orderingStart settings quotes) c) (ht : c.threads[k]? = some t)
    (hview : orderingView t = .purchase (.ok call) state)
    (hunfinished : ∀ result, state ≠ .done result) (hrepeated : Repeated call id c.shared.1)
    {c' : OrderingConfig settings} {t' : OrderingThread settings} {result : Except Failure RowId}
    (hreach' : Reaches anyStep c c') (ht' : c'.threads[k]? = some t')
    (hresult : (orderingView t').outcome = some result) : result = .ok id := by
  have hholds := quoteOutline_holds hreach call.quoteId
  have hrelies : Relies call.quoteId c.shared (orderingView t) :=
    (hholds.thread t (List.mem_of_getElem? ht)).2
  have hstart : Repeated call id c.shared.1 ∧ RepeatedView call id (orderingView t) := by
    rw [hview] at hrelies ⊢
    exact ⟨hrepeated, repeatedView_of_relies hrepeated hrelies hunfinished⟩
  have htracked : ∃ u, c'.threads[k]? = some u ∧
      (Repeated call id c'.shared.1 ∧ RepeatedView call id (orderingView u)) := by
    refine (quoteOutline_sound settings call.quoteId).tracked
      (J := fun s t => Repeated call id s.1 ∧ RepeatedView call id (orderingView t)) ?_ ?_ hholds
      hreach' ht hstart
    · intro w s t s' t' _ hspending hrelies hrepeated hstep
      have hgrown := grown_of_step hrelies.2 hstep
      obtain ⟨events, hstep, -⟩ := orderingStep_of_step hstep
      exact ⟨hrepeated.1.grown hgrown, hstep.repeated hspending hrepeated.1 hrepeated.2⟩
    · intro w s t s' t' u _ _ hrelies hrepeated hstep
      exact ⟨hrepeated.1.grown (grown_of_step hrelies.2 hstep), hrepeated.2⟩
  obtain ⟨u, hu, -, hend⟩ := htracked
  obtain rfl := Option.mem_unique hu ht'
  rcases hend with hend | hend | hend <;> rw [hend] at hresult <;> cases hresult
  rfl

/-! ## Quotes are sold once -/

/-- **What is certain of the quotes and of the calls that name them.** -/
structure QuotesSpent (c : OrderingConfig settings) : Prop where
  once : ∀ quoteId id id' domain domain', c.shared.1.domains.get? id = some domain →
    c.shared.1.domains.get? id' = some domain' → domain.quoteId = some quoteId →
    domain'.quoteId = some quoteId → id = id'
  /-- It has one item and one line of an invoice, for the customer and at the price of the quote,
  which was found unexpired under its lock and agrees with the catalogue. -/
  billed : ∀ quoteId id domain, c.shared.1.domains.get? id = some domain →
    domain.quoteId = some quoteId → ∃ quote bill, c.shared.1.quotes.get? quoteId = some quote ∧
      Billed c.shared.1 quote domain bill ∧ SoldAfterCheck c.shared.2 id quoteId quote
  answered : ∀ (k : ℕ) t call, c.threads[k]? = some t → (orderingView t).asks = some call →
    ∃ c' t', Reaches anyStep c c' ∧ c'.threads[k]? = some t' ∧
      (orderingView t').asks = some call ∧ (orderingView t').outcome.isSome
  accepted : ∀ (k : ℕ) t call answer, c.threads[k]? = some t → (orderingView t).asks = some call →
    (orderingView t).outcome = some (.ok answer) →
    ∃ id, SoldTo call.quoteId c.shared.1 call.submissionKey call.customerId id ∧
      ∀ opened state, orderingView t = .purchase opened state → id = answer
  repeated : ∀ (k : ℕ) t call state id, c.threads[k]? = some t →
    orderingView t = .purchase (.ok call) state → (∀ result, state ≠ .done result) →
    Repeated call id c.shared.1 → ∀ c' t' result, Reaches anyStep c c' →
    c'.threads[k]? = some t' → (orderingView t').outcome = some result → result = .ok id
  refused : ∀ (k : ℕ) t call id domain, c.threads[k]? = some t →
    (orderingView t).asks = some call → c.shared.1.domains.get? id = some domain →
    domain.submissionKey = call.submissionKey →
    domain.quoteId ≠ some call.quoteId ∨ domain.customerId ≠ call.customerId →
    (∀ answer, (orderingView t).outcome ≠ some (.ok answer)) ∧
      ∀ w s' t', t.step w c.shared = some (s', t') →
        s'.1 = { c.shared.1 with lockedQuotes := s'.1.lockedQuotes }

/-- **Quotes are spent once** in every run, and repeated calls return what was ordered. -/
theorem quotes_spent_once (hreach : Reaches anyStep (orderingStart settings quotes) c) :
    QuotesSpent c where
  once quoteId id id' domain domain' hdomain hdomain' hquote hquote' :=
    (quoteOutline_holds hreach quoteId).shared.apart id id' domain domain' hdomain hdomain'
      (.inl ⟨Option.isSome_of_eq_some hquote, hquote'.trans hquote.symm⟩)
  billed quoteId := (quoteOutline_holds hreach quoteId).shared.sold
  answered k t call ht := exists_answer hreach ht
  accepted k t call answer ht := soldTo_of_accepted hreach ht
  repeated k t call state id ht hview hunfinished hrepeated c' t' result :=
    outcome_of_repeated hreach ht hview hunfinished hrepeated
  refused k t call id domain ht hasks hdomain hkey hother := by
    refine ⟨fun answer => not_accepted hreach ht hasks hdomain hkey hother, ?_⟩
    intro w s' t' hstep
    have hrelies := ((quoteOutline_holds hreach 0).thread t (List.mem_of_getElem? ht)).2
    have hgrown := grown_of_step hrelies hstep
    have hnext : Reaches anyStep (orderingStart settings quotes) ⟨s', c.threads.set k t'⟩ :=
      hreach.tail (Step.advance ht trivial hstep)
    have ht' : (c.threads.set k t')[k]? = some t' :=
      List.getElem?_set_self (List.getElem?_eq_some_iff.1 ht).1
    obtain ⟨events, hstep, -⟩ := orderingStep_of_step hstep
    rcases hstep.unchanged hrelies hasks with hsame | ⟨answer, haccepted⟩
    · exact hsame
    · exact absurd haccepted (not_accepted hnext ht' (hstep.asks_eq.trans hasks)
        (hgrown.domains id domain hdomain) hkey hother)

end

/-! ### A quote that expires while it is ordered -/

def soldSelection : DomainSelectionSnapshot where
  catalogueId := 0
  catalogueRevision := 1
  priceId := 0
  policies := ⟨"", "", ""⟩
  eligibleRegistrars := [(0, "")]

def soldQuote : SellingQuote where
  customerId := 0
  accountId := 0
  offerId := 0
  domainName := "a.com"
  sellingAmount := 1500
  nameservers := []
  selectionSnapshot := some soldSelection
  expiresAt := 8

def sellingWorld (now : ℕ) : OrderingWorld where
  now := now
  offers _ := some ⟨0, "com", 0⟩
  accounts _ := some { enabled := true }
  prices _ := some { productId := 0, kind := .domain, amount := 1500 }
  customers _ := some {}
  catalogue := .ok (some ⟨soldSelection, []⟩)

abbrev sellingOps : OrderingKind → Operation (OrderingDatabase × List QuoteEvent) OrderingWorld :=
  tracedFamily (orderingOps ⟨true, false⟩) (orderingEvents ⟨true, false⟩)

def soldRequest (quoteId : RowId) : PurchaseRequest where
  quoteId := quoteId
  submissionKey := "a"
  auth := { userId := 0, role := .customer, customerId := some 0 }

/-- The quote is checked at 5, and sold at 10 after it expired at 8.  Then the purchase is repeated,
and its key used for another quote. -/
def lateSale : List (Move sellingOps) :=
  [.call .purchase (soldRequest 0), .advance 0 (sellingWorld 5), .advance 0 (sellingWorld 10),
    .call .purchase (soldRequest 0), .call .purchase (soldRequest 1)]

def soldConfig : OrderingConfig ⟨true, false⟩ :=
  Config.after (orderingStart ⟨true, false⟩ ⟨[soldQuote, soldQuote]⟩) lateSale (by decide +kernel)

theorem sold_config_reached :
    Reaches anyStep (orderingStart ⟨true, false⟩ ⟨[soldQuote, soldQuote]⟩) soldConfig :=
  reaches_anyStep_of_run (run_eq_after (by decide +kernel))

/-- The order was placed after the quote expired. -/
theorem quote_sold_late :
    Reaches anyStep (orderingStart ⟨true, false⟩ ⟨[soldQuote, soldQuote]⟩) soldConfig ∧
    ∃ domain ∈ soldConfig.shared.1.domains.get? 0, domain.quoteId = some 0 ∧
      ∃ quote ∈ soldConfig.shared.1.quotes.get? 0, ∃ itemId ∈ domain.orderItemId,
        ∃ item ∈ soldConfig.shared.1.orderItems.get? itemId,
          ∃ order ∈ soldConfig.shared.1.orders.get? item.orderId,
            quote.expiresAt < order.placedAt :=
  ⟨sold_config_reached, by decide +kernel⟩

def soldCall : PurchaseCall where
  quoteId := 0
  submissionKey := "a"
  customerId := 0
  adminAssisted := false

theorem soldCall_repeated : Repeated soldCall 0 soldConfig.shared.1 where
  sold := by
    have h : ∃ domain ∈ soldConfig.shared.1.domains.get? 0, domain.submissionKey = "a" ∧
        domain.quoteId = some 0 ∧ domain.customerId = 0 := by decide +kernel
    exact h
  quote := by
    have h : ∃ quote ∈ soldConfig.shared.1.quotes.get? 0, quote.customerId = 0 ∧
        quote.offlineConsent.isSome = false := by decide +kernel
    exact h

/-- The repeated purchase is answered with the domain that was sold, and the call for the other quote
is not accepted. -/
theorem sold_quote_stays_sold :
    (∀ c' t' result, Reaches anyStep soldConfig c' → c'.threads[1]? = some t' →
      (orderingView t').outcome = some result → result = .ok 0) ∧
    ∀ t ∈ soldConfig.threads[2]?, ∀ answer, (orderingView t).outcome ≠ some (.ok answer) := by
  have hspent : QuotesSpent soldConfig := quotes_spent_once sold_config_reached
  refine ⟨fun c' t' result => hspent.repeated 1 ⟨.purchase, (soldRequest 0, .locking soldCall)⟩
    soldCall (.locking soldCall) 0 rfl rfl (fun _ h => nomatch h) soldCall_repeated c' t' result, ?_⟩
  intro t ht
  obtain ⟨domain, hdomain, hkey, hquote, -⟩ := soldCall_repeated.sold
  obtain rfl := Option.some.inj ht
  refine (hspent.refused 2 _ ⟨1, "a", 0⟩ 0 domain ht rfl hdomain hkey (.inl ?_)).1
  rw [hquote]
  decide

end WebhostBilling
