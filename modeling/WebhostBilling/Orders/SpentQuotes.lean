import WebhostBilling.Concurrency.Alone
import WebhostBilling.Concurrency.RowLocks
import WebhostBilling.Orders.QuoteEffects

/-!
# A domain quote is sold once and at its own price

A call that sells a quote has its lock from the check to the insertion, and the unique keys of the
domain requests do the rest.  The quote is checked before the transaction waits for the catalogue
and writes, so what is certain is that it was unexpired at the check.
-/

namespace WebhostBilling

open OrderingDatabase

open Store Store.Table Concurrency Config RegistrarProcessor DomainService OrderService

/-! ## The system -/

inductive OtherWrite
  | quote (row : SellingQuote)
  | link (row : DomainRequest)

def otherStep (db : OrderingDatabase) :
    Option OtherWrite → Option (OrderingDatabase × Option OtherWrite)
  | some (.quote row) => some ({ db with quotes := db.quotes.insert row }, none)
  | some (.link row) =>
    match db.createDomain { row with quoteId := none, orderItemId := none, invoiceId := none } with
    | .ok (db', _) => some (db', none)
    | .error _ => some (db, none)
  | none => none

inductive OrderingKind
  | purchase
  | adminPurchase
  | create
  | other

variable (settings : RegistrarSettings)

def orderingOps :
    OrderingKind → Operation OrderingDatabase OrderingWorld
  | .purchase => (purchase settings).remembering
  | .adminPurchase => (adminPurchase settings).remembering
  | .create => (OrderService.create settings).remembering
  | .other =>
    { Request := OtherWrite
      Local := Option OtherWrite
      start := some
      step := fun _ => otherStep }

def orderingEvents : (kind : OrderingKind) → OrderingWorld →
    OrderingDatabase → (orderingOps settings kind).Local → List QuoteEvent
  | .purchase, w, db, l => purchaseEvents settings w db l.2
  | .adminPurchase, w, db, l => purchaseEvents settings w db l.2
  | .create, w, db, l => createEvents settings w db l.2
  | .other, _, _, _ => []

abbrev OrderingThread :=
  Thread (tracedFamily (orderingOps settings) (orderingEvents settings))

abbrev OrderingConfig :=
  Config (tracedFamily (orderingOps settings) (orderingEvents settings))

inductive OrderingView
  | purchase (opened : Except Failure PurchaseCall) (state : PurchaseState)
  | create (request : CreateOrderRequest) (state : CreateState)
  | other (state : Option OtherWrite)

def orderingView {settings : RegistrarSettings} : OrderingThread settings → OrderingView
  | ⟨.purchase, l⟩ => .purchase (openPurchase settings l.1) l.2
  | ⟨.adminPurchase, l⟩ => .purchase (openAdminPurchase settings l.1) l.2
  | ⟨.create, l⟩ => .create l.1 l.2
  | ⟨.other, l⟩ => .other l

inductive OrderingView.Starts : OrderingView → Prop
  | purchase (opened : Except Failure PurchaseCall) : Starts (.purchase opened (.opened opened))
  | create (request : CreateOrderRequest) : Starts (.create request (.finding request))
  | other (write : Option OtherWrite) : Starts (.other write)

theorem starts_begin {settings : RegistrarSettings} (op : OrderingKind)
    (request : (tracedFamily (orderingOps settings) (orderingEvents settings) op).Request) :
    (orderingView (Thread.begin op request)).Starts := by
  cases op with
  | purchase => exact .purchase (openPurchase settings request)
  | adminPurchase => exact .purchase (openAdminPurchase settings request)
  | create => exact .create request
  | other => exact .other (some request)

structure QuoteCall where
  quoteId : RowId
  submissionKey : String
  customerId : RowId

namespace OrderingView

def asks : OrderingView → Option QuoteCall
  | .purchase (.ok call) _ => some ⟨call.quoteId, call.submissionKey, call.customerId⟩
  | .purchase (.error _) _ => none
  | .create request _ => request.domainQuoteId.map fun quoteId =>
    ⟨quoteId, request.submissionKey, request.customerId⟩
  | .other _ => none

/-- What a call answered: the domain of a purchase, or the order of `create`. -/
def outcome : OrderingView → Option (Except Failure RowId)
  | .purchase _ (.done result) => some result
  | .create _ (.done result) => some result
  | _ => none

def locked : OrderingView → Option RowId
  | .purchase _ (.writing call _ _) => some call.quoteId
  | .create _ (.writing request _ _ _ _) => request.domainQuoteId
  | _ => none

end OrderingView

/-! ## Steps -/

/-- A step, seen without what both ways of purchasing share. -/
inductive OrderingStep (settings : RegistrarSettings) (w : OrderingWorld) (db : OrderingDatabase) :
    OrderingView → OrderingDatabase → List QuoteEvent → OrderingView → Prop
  | purchase (opened : Except Failure PurchaseCall) {state state' : PurchaseState}
      {db' : OrderingDatabase} (h : purchaseStep settings w db state = some (db', state')) :
      OrderingStep settings w db (.purchase opened state) db' (purchaseEvents settings w db state)
        (.purchase opened state')
  | create (request : CreateOrderRequest) {state state' : CreateState} {db' : OrderingDatabase}
      (h : createStep settings w db state = some (db', state')) :
      OrderingStep settings w db (.create request state) db' (createEvents settings w db state)
        (.create request state')
  | other {state state' : Option OtherWrite} {db' : OrderingDatabase}
      (h : otherStep db state = some (db', state')) :
      OrderingStep settings w db (.other state) db' [] (.other state')

section

variable {settings} {w : OrderingWorld} {s s' : OrderingDatabase × List QuoteEvent}
  {t t' : OrderingThread settings}

theorem orderingStep_of_step (h : t.step w s = some (s', t')) :
    ∃ events, OrderingStep settings w s.1 (orderingView t) s'.1 events (orderingView t') ∧
      s'.2 = s.2 ++ events := by
  obtain ⟨kind, l⟩ := t
  obtain ⟨l', hstep, htrace, rfl⟩ := Thread.traced_step h
  refine ⟨orderingEvents settings kind w s.1 l, ?_, htrace⟩
  cases kind with
  | purchase | adminPurchase =>
    obtain ⟨hstep, hrequest⟩ := Operation.remembering_step hstep
    obtain ⟨request, state⟩ := l
    obtain ⟨request', state'⟩ := l'
    obtain rfl : request' = request := hrequest
    exact .purchase _ hstep
  | create =>
    obtain ⟨hstep, hrequest⟩ := Operation.remembering_step hstep
    obtain ⟨request, state⟩ := l
    obtain ⟨request', state'⟩ := l'
    obtain rfl : request' = request := hrequest
    exact .create _ hstep
  | other => exact .other hstep

end

/-! ## The domains of a quote -/

/-- A quote was sold after a check that found it unexpired, for an answer of the catalogue that
agrees with it. -/
def SoldAfterCheck (trace : List QuoteEvent) (domainId quoteId : RowId) (quote : SellingQuote) :
    Prop :=
  ∃ before after checkedAt fresh, trace = before ++ .spent domainId quoteId checkedAt fresh :: after ∧
    .checked quoteId checkedAt ∈ before ∧ checkedAt < quote.expiresAt ∧
    selectionUnchanged quote fresh

theorem SoldAfterCheck.append {trace : List QuoteEvent} {domainId quoteId : RowId}
    {quote : SellingQuote} (h : SoldAfterCheck trace domainId quoteId quote)
    (events : List QuoteEvent) : SoldAfterCheck (trace ++ events) domainId quoteId quote := by
  obtain ⟨before, after, checkedAt, fresh, rfl, hchecked⟩ := h
  exact ⟨before, after ++ events, checkedAt, fresh, by rw [List.append_assoc, List.cons_append],
    hchecked⟩

structure Spending (quoteId : RowId) (s : OrderingDatabase × List QuoteEvent) : Prop where
  references : References s.1
  apart : ∀ id id' domain domain', s.1.domains.get? id = some domain →
    s.1.domains.get? id' = some domain' → clashes domain domain' → id = id'
  sold : ∀ id domain, s.1.domains.get? id = some domain → domain.quoteId = some quoteId →
    ∃ quote bill, s.1.quotes.get? quoteId = some quote ∧ Billed s.1 quote domain bill ∧
      SoldAfterCheck s.2 id quoteId quote

theorem OrderingDatabase.clashes_symm {row other : DomainRequest}
    (h : clashes row other) : clashes other row := by
  rcases h with ⟨hsome, hsame⟩ | ⟨hsome, hsame⟩ | ⟨hsome, hsame⟩ | hsame | hsame
  · exact .inl ⟨hsame ▸ hsome, hsame.symm⟩
  · exact .inr (.inl ⟨hsame ▸ hsome, hsame.symm⟩)
  · exact .inr (.inr (.inl ⟨hsame ▸ hsome, hsame.symm⟩))
  · exact .inr (.inr (.inr (.inl hsame.symm)))
  · exact .inr (.inr (.inr (.inr hsame.symm)))

theorem apart_insert {domains : Table DomainRequest} {row : DomainRequest}
    (h : ∀ id id' domain domain', domains.get? id = some domain →
      domains.get? id' = some domain' → clashes domain domain' → id = id')
    (hfree : ∀ id other, domains.get? id = some other → ¬ clashes row other)
    {id id' : RowId} {domain domain' : DomainRequest}
    (hdomain : (domains.insert row).get? id = some domain)
    (hdomain' : (domains.insert row).get? id' = some domain')
    (hclashes : clashes domain domain') : id = id' := by
  rcases get?_insert_cases hdomain with ⟨rfl, rfl⟩ | hold <;>
  rcases get?_insert_cases hdomain' with ⟨rfl, rfl⟩ | hold'
  · rfl
  · exact absurd hclashes (hfree id' domain' hold')
  · exact absurd (clashes_symm hclashes) (hfree id domain hold)
  · exact h id id' domain domain' hold hold' hclashes

section

variable {quoteId : RowId} {s : OrderingDatabase × List QuoteEvent} {seller : Option RowId}
  {base : OrderingDatabase} {events : List QuoteEvent}

theorem Spending.relock {db : OrderingDatabase} {trace : List QuoteEvent}
    (h : Spending quoteId (db, trace)) (locks : List RowId) :
    Spending quoteId ({ db with lockedQuotes := locks }, trace) where
  references := h.references.relock locks
  apart := h.apart
  sold id domain hdomain hquote := by
    obtain ⟨quote, bill, hrow, hbilled, hsold⟩ := h.sold id domain hdomain hquote
    exact ⟨quote, bill, hrow, hbilled.relock locks, hsold⟩

theorem Spending.written (h : Spending quoteId s)
    (hwritten : Written quoteId s seller base events) :
    Spending quoteId (base, s.2 ++ events) := by
  cases hwritten with
  | nothing =>
    refine ⟨h.references, h.apart, fun id domain hdomain hquote => ?_⟩
    obtain ⟨quote, bill, hrow, hbilled, hsold⟩ := h.sold id domain hdomain hquote
    exact ⟨quote, bill, hrow, hbilled, hsold.append events⟩
  | quote row =>
    refine ⟨⟨h.references.items, h.references.lines⟩, h.apart, fun id domain hdomain hquote => ?_⟩
    obtain ⟨quote, bill, hrow, hbilled, hsold⟩ := h.sold id domain hdomain hquote
    exact ⟨quote, bill, get?_insert_of_some hrow, hbilled.others _ _, hsold.append []⟩
  | linked row hnone hfree =>
    refine ⟨⟨h.references.items, h.references.lines⟩,
      fun _ _ _ _ => apart_insert h.apart hfree, fun id domain hdomain hquote => ?_⟩
    rcases get?_insert_cases hdomain with ⟨-, rfl⟩ | hold
    · rw [hnone] at hquote
      cases hquote
    · obtain ⟨quote, bill, hrow, hbilled, hsold⟩ := h.sold id domain hold hquote
      exact ⟨quote, bill, hrow, hbilled.others _ _, hsold.append []⟩
  | placed order items invoice hplaced =>
    have hdomains : (s.1.place order items invoice []).domains = s.1.domains :=
      insertAll_nil s.1.domains
    refine ⟨h.references.place hplaced, ?_, fun id domain hdomain hquote => ?_⟩
    · rw [hdomains]
      exact h.apart
    · rw [hdomains] at hdomain
      obtain ⟨quote, bill, hrow, hbilled, hsold⟩ := h.sold id domain hdomain hquote
      exact ⟨quote, bill, hrow, hbilled.place hplaced, hsold.append []⟩
  | sold order items invoice row quote soldId checkedAt submissionKey fresh _ hheld hplaced hsale
      hselection =>
    refine ⟨h.references.place hplaced, fun _ _ _ _ => apart_insert h.apart hsale.free,
      fun id domain hdomain hquote => ?_⟩
    rcases get?_insert_cases hdomain with ⟨rfl, rfl⟩ | hold
    · obtain rfl := Option.some.inj (hsale.ofQuote.symm.trans hquote)
      have hheld := hheld rfl
      obtain ⟨bill, hbilled⟩ := hsale.billed hplaced h.references hheld.customer
      exact ⟨quote, bill, hheld.row, hbilled, s.2, [], checkedAt, fresh, rfl, hheld.checked,
        hheld.unexpired, hselection⟩
    · obtain ⟨quote, bill, hrow, hbilled, hsold⟩ := h.sold id domain hold hquote
      exact ⟨quote, bill, hrow, hbilled.place hplaced, hsold.append _⟩

structure Grown (s s' : OrderingDatabase × List QuoteEvent) : Prop where
  quotes : ∀ id row, s.1.quotes.get? id = some row → s'.1.quotes.get? id = some row
  domains : ∀ id row, s.1.domains.get? id = some row → s'.1.domains.get? id = some row
  trace : s.2 ⊆ s'.2

theorem Written.grown (h : Written quoteId s seller base events) : Grown s
    (base, s.2 ++ events) := by
  have htrace : s.2 ⊆ s.2 ++ events := List.subset_append_left _ _
  cases h with
  | nothing => exact ⟨fun _ _ h => h, fun _ _ h => h, htrace⟩
  | quote => exact ⟨fun _ _ => get?_insert_of_some, fun _ _ h => h, htrace⟩
  | linked => exact ⟨fun _ _ h => h, fun _ _ => get?_insert_of_some, htrace⟩
  | placed | sold => exact ⟨fun _ _ h => h, fun _ _ => get?_insertAll_of_some, htrace⟩

theorem Written.domains_of_unlocked (h : Written quoteId s seller base events)
    (hseller : seller ≠ some quoteId) {id : RowId} {domain : DomainRequest}
    (hdomain : base.domains.get? id = some domain) (hquote : domain.quoteId = some quoteId) :
    s.1.domains.get? id = some domain := by
  cases h with
  | nothing | quote => exact hdomain
  | linked row hnone =>
    rcases get?_insert_cases hdomain with ⟨-, rfl⟩ | hold
    · rw [hnone] at hquote
      cases hquote
    · exact hold
  | placed =>
    rcases get?_insertAll_cases hdomain with ⟨-, hnew⟩ | hold
    · exact absurd hnew List.not_mem_nil
    · exact hold
  | sold _ _ _ row _ _ _ _ _ hsold _ _ hsale =>
    rcases get?_insert_cases hdomain with ⟨-, rfl⟩ | hold
    · exact absurd (hsold.trans (hsale.ofQuote.symm.trans hquote)) hseller
    · exact hold

end

/-! ## What a call relies on -/

def SoldTo (quoteId : RowId) (db : OrderingDatabase) (submissionKey : String) (customerId : RowId)
    (id : RowId) : Prop :=
  ∃ domain, db.domains.get? id = some domain ∧ domain.submissionKey = submissionKey ∧
    domain.quoteId = some quoteId ∧ domain.customerId = customerId

def PurchaseRelies (quoteId : RowId) (s : OrderingDatabase × List QuoteEvent)
    (opened : Except Failure PurchaseCall) : PurchaseState → Prop
  | .locking call => opened = .ok call
  | .writing call quote checkedAt => opened = .ok call ∧ (call.quoteId = quoteId →
    Held quoteId s quote call.customerId checkedAt ∧
      ∀ id domain, s.1.domains.get? id = some domain → domain.quoteId = some quoteId →
        domain.submissionKey ≠ call.submissionKey)
  | .raced call => opened = .ok call
  | .done (.ok id) => ∀ call, opened = .ok call → call.quoteId = quoteId →
    SoldTo quoteId s.1 call.submissionKey call.customerId id
  | .done (.error _) => True

def CreateRelies (quoteId : RowId) (s : OrderingDatabase × List QuoteEvent)
    (request : CreateOrderRequest) : CreateState → Prop
  | .writing request' hosting addOns quote checkedAt => request' = request ∧
    CreateState.agrees (.writing request' hosting addOns quote checkedAt) ∧
    (request.domainQuoteId = some quoteId →
      ∀ row ∈ quote, Held quoteId s row request.customerId checkedAt)
  | .done (.ok _) => request.domainQuoteId = some quoteId →
    ∃ id, SoldTo quoteId s.1 request.submissionKey request.customerId id
  | .done (.error _) => True
  | state => state.waits request

/-- What a call relies on while other requests go on, as far as a quote is concerned. -/
def Relies (quoteId : RowId) (s : OrderingDatabase × List QuoteEvent) : OrderingView → Prop
  | .purchase opened state => PurchaseRelies quoteId s opened state
  | .create request state => CreateRelies quoteId s request state
  | .other _ => True

section

variable {quoteId : RowId} {s s' : OrderingDatabase × List QuoteEvent}

theorem Held.grown {quote : SellingQuote} {customerId : RowId} {checkedAt : ℕ}
    (h : Held quoteId s quote customerId checkedAt) (hgrown : Grown s s') :
    Held quoteId s' quote customerId checkedAt :=
  ⟨hgrown.quotes _ _ h.row, h.customer, h.unexpired, hgrown.trace h.checked⟩

theorem SoldTo.grown {submissionKey : String} {customerId id : RowId}
    (h : SoldTo quoteId s.1 submissionKey customerId id) (hgrown : Grown s s') :
    SoldTo quoteId s'.1 submissionKey customerId id := by
  obtain ⟨domain, hdomain, hsold⟩ := h
  exact ⟨domain, hgrown.domains id domain hdomain, hsold⟩

theorem Relies.grown {view : OrderingView} (h : Relies quoteId s view) (hgrown : Grown s s')
    (hlocked : view.locked = some quoteId → ∀ id domain, s'.1.domains.get? id = some domain →
      domain.quoteId = some quoteId → s.1.domains.get? id = some domain) :
    Relies quoteId s' view := by
  match view with
  | .purchase opened (.locking call) => exact h
  | .purchase opened (.writing call quote checkedAt) =>
    refine ⟨h.1, fun hcall => ⟨(h.2 hcall).1.grown hgrown, fun id domain hdomain hquote => ?_⟩⟩
    exact (h.2 hcall).2 id domain (hlocked (congrArg some hcall) id domain hdomain hquote) hquote
  | .purchase opened (.raced call) => exact h
  | .purchase opened (.done (.ok id)) => exact fun call hcall hid => (h call hcall hid).grown hgrown
  | .purchase opened (.done (.error e)) => trivial
  | .create request (.finding _) | .create request (.locking _) => exact h
  | .create request (.writing request' hosting addOns quote checkedAt) =>
    exact ⟨h.1, h.2.1, fun hnamed row hrow => (h.2.2 hnamed row hrow).grown hgrown⟩
  | .create request (.raced _) => exact h
  | .create request (.done (.ok _)) =>
    intro hnamed
    obtain ⟨id, hsold⟩ := h hnamed
    exact ⟨id, hsold.grown hgrown⟩
  | .create request (.done (.error e)) | .other state => trivial

end

/-! ## What a step keeps -/

section

variable {settings} {w : OrderingWorld} {quoteId : RowId} {s : OrderingDatabase × List QuoteEvent}
  {db' : OrderingDatabase} {events : List QuoteEvent}
variable {request : CreateOrderRequest} {state : CreateState}

theorem sameOrder_soldTo {id : RowId} {order : PlacedOrder}
    (hspending : Spending quoteId s) (horder : s.1.orders.get? id = some order)
    (hkey : order.submissionKey = .order request.submissionKey)
    (hsame : sameOrder s.1 request id order) (hnamed : request.domainQuoteId = some quoteId) :
    ∃ id, SoldTo quoteId s.1 request.submissionKey request.customerId id := by
  obtain ⟨hcustomer, -, hquote, -, -⟩ := hsame
  rw [hnamed, Option.bind_eq_some_iff] at hquote
  obtain ⟨domain, hregistration, hquote⟩ := hquote
  rw [Option.bind_eq_some_iff] at hregistration
  obtain ⟨⟨itemId, item⟩, hitem, hregistration⟩ := hregistration
  rw [registrationOf, Option.map_eq_some_iff] at hregistration
  obtain ⟨⟨domainId, domain'⟩, hfound, rfl⟩ := hregistration
  obtain ⟨hget, hof⟩ := find?_eq_some hfound
  obtain ⟨hitemGet, hitemOf⟩ := find?_eq_some hitem
  obtain ⟨quote, bill, hrow, hbilled, -⟩ := hspending.sold domainId domain' hget hquote
  -- The item is the one that bills the domain, so the order is the one of its bill.
  have hid : bill.itemId = itemId :=
    Option.some.inj (hbilled.itemId.symm.trans (of_decide_eq_true hof))
  have hbillItem := hbilled.item
  rw [hid, hitemGet] at hbillItem
  have hbillOrder := hbilled.order
  rw [← Option.some.inj hbillItem, (of_decide_eq_true hitemOf).1, horder] at hbillOrder
  obtain rfl := Option.some.inj hbillOrder
  refine ⟨domainId, domain', hget, ?_, hquote, ?_⟩
  · rcases hbilled.order_key with hdomain | hdomain
    · rw [hkey, OrderKey.order.injEq] at hdomain
      exact hdomain.symm
    · rw [hkey] at hdomain
      cases hdomain
  · exact hbilled.customer.trans (hbilled.order_customer.symm.trans hcustomer)

variable {opened : Except Failure PurchaseCall} {state' : CreateState}

theorem PurchaseEffect.written {state state' : PurchaseState}
    (h : PurchaseEffect w s.1 state db' events state')
    (hrelies : PurchaseRelies quoteId s opened state) :
    ∃ base, Written quoteId s (OrderingView.purchase opened state).locked base events ∧
      db' = { base with lockedQuotes := db'.lockedQuotes } := by
  cases h with
  | prior | refused => exact ⟨s.1, .nothing [], rfl⟩
  | quoted => exact ⟨s.1, .nothing _, rfl⟩
  | sells call quote checkedAt order items invoice row fresh hselection hcustomer hplaced hsale =>
    refine ⟨_, .sold order items invoice row quote call.quoteId checkedAt call.submissionKey fresh
      rfl (fun hid => ?_) hplaced hsale hselection, rfl⟩
    rw [hcustomer]
    exact (hrelies.2 hid).1
  | rolledBack => exact ⟨s.1, .nothing [], rfl⟩

theorem PurchaseEffect.relies {state state' : PurchaseState}
    (h : PurchaseEffect w s.1 state db' events state')
    (hrelies : PurchaseRelies quoteId s opened state) :
    PurchaseRelies quoteId (db', s.2 ++ events) opened state' := by
  cases h with
  | prior call _ id domain hstate hdomain hkey hcustomer hquote =>
    intro call' hcall hid
    have hopened : opened = .ok call := by
      rcases hstate with rfl | rfl <;> exact hrelies
    obtain rfl := Except.ok.inj (hopened.symm.trans hcall)
    exact ⟨domain, hdomain, hkey, by rw [hquote, hid], hcustomer⟩
  | refused => trivial
  | quoted call quote _ hquote hcustomer hnone hunexpired =>
    refine ⟨hrelies, fun hid => ⟨⟨?_, hcustomer, hunexpired, ?_⟩, fun id domain hdomain _ =>
      hnone id domain hdomain⟩⟩
    · rw [← hid]
      exact hquote
    · rw [← hid]
      exact List.mem_append_right _ (List.mem_singleton.2 rfl)
  | sells call quote checkedAt order items invoice row fresh _ hcustomer hplaced hsale =>
    intro call' hcall hid
    obtain rfl := Except.ok.inj (hrelies.1.symm.trans hcall)
    exact ⟨row, get?_insert_self _ row, hsale.ofKey, by rw [hsale.ofQuote, hid],
      hsale.customer.trans hcustomer⟩
  | rolledBack call _ _ _ hstate =>
    rcases hstate with rfl | ⟨e, rfl⟩
    · exact hrelies.1
    · trivial

theorem eq_of_waits {request' : CreateOrderRequest}
    (hrelies : CreateRelies quoteId s request state) (hstate : state.waits request') :
    request' = request := by
  rcases hstate with rfl | rfl | rfl <;> rcases hrelies with h | h | h <;> cases h <;> rfl

theorem CreateEffect.written (h : CreateEffect w s.1 state db' events state')
    (hrelies : CreateRelies quoteId s request state) :
    ∃ base, Written quoteId s (OrderingView.create request state).locked base events ∧
      db' = { base with lockedQuotes := db'.lockedQuotes } := by
  cases h with
  | replays | refused | opens => exact ⟨s.1, .nothing [], rfl⟩
  | quoted => exact ⟨s.1, .nothing _, rfl⟩
  | unquoted => exact ⟨s.1, .nothing [], rfl⟩
  | sells request' _ _ soldId quote checkedAt order items invoice row fresh hnamed hselection
      hcustomer hplaced hsale =>
    refine ⟨_, .sold order items invoice row quote soldId checkedAt request'.submissionKey fresh
      hnamed (fun hid => ?_) hplaced hsale hselection, rfl⟩
    obtain ⟨rfl, -, hheld⟩ := hrelies
    rw [hcustomer]
    exact hheld (hnamed.trans (congrArg some hid)) quote rfl
  | places _ _ _ _ order items invoice _ hplaced =>
    exact ⟨_, .placed order items invoice hplaced, rfl⟩
  | rolledBack request' => exact ⟨s.1, .nothing [], unlockNamed_tables request' s.1⟩

theorem CreateEffect.relies (h : CreateEffect w s.1 state db' events state')
    (hspending : Spending quoteId s) (hrelies : CreateRelies quoteId s request state) :
    CreateRelies quoteId (db', s.2 ++ events) request state' := by
  cases h with
  | replays request' _ id order hstate horder hkey hsame =>
    intro hnamed
    obtain rfl := eq_of_waits hrelies hstate
    obtain ⟨id, hsold⟩ := sameOrder_soldTo hspending horder hkey hsame hnamed
    exact ⟨id, hsold⟩
  | refused => trivial
  | opens request' =>
    obtain rfl := eq_of_waits hrelies (.inl rfl)
    exact .inr (.inl rfl)
  | quoted request' _ _ soldId quote hid _ hquote hcustomer hunexpired =>
    obtain rfl := eq_of_waits hrelies (.inr (.inl rfl))
    refine ⟨rfl, ?_, fun hnamed row hrow => ?_⟩
    · show (some quote).isSome = request'.domainQuoteId.isSome
      rw [hid]
      rfl
    · obtain rfl := Option.mem_unique hid hnamed
      obtain rfl := Option.some.inj hrow
      exact ⟨hquote, hcustomer, hunexpired, List.mem_append_right _ (List.mem_singleton.2 rfl)⟩
  | unquoted request' _ _ hid =>
    obtain rfl := eq_of_waits hrelies (.inr (.inl rfl))
    refine ⟨rfl, ?_, fun _ row hrow => nomatch hrow⟩
    show false = request'.domainQuoteId.isSome
    rw [hid]
    rfl
  | sells request' _ _ soldId quote checkedAt order items invoice row fresh hid _ hcustomer hplaced
      hsale =>
    intro hnamed
    obtain ⟨rfl, -, -⟩ := hrelies
    obtain rfl := Option.mem_unique hid hnamed
    exact ⟨_, row, get?_insert_self _ row, hsale.ofKey, hsale.ofQuote,
      hsale.customer.trans hcustomer⟩
  | places request' _ _ _ _ _ _ hid =>
    intro hnamed
    obtain ⟨rfl, -, -⟩ := hrelies
    rw [hid] at hnamed
    cases hnamed
  | rolledBack request' _ _ _ _ _ hstate =>
    obtain ⟨rfl, -, -⟩ := hrelies
    rcases hstate with rfl | ⟨e, rfl⟩
    · exact .inr (.inr rfl)
    · trivial

theorem CreateRelies.agrees (h : CreateRelies quoteId s request state) : state.agrees := by
  cases state with
  | writing => exact h.2.1
  | _ => trivial

theorem otherStep_written {state state' : Option OtherWrite}
    (h : otherStep s.1 state = some (db', state')) (seller : Option RowId) :
    ∃ base, Written quoteId s seller base [] ∧ db' = base := by
  match state with
  | none => cases h
  | some (.quote row) =>
    obtain ⟨rfl, -⟩ := Prod.mk.inj (Option.some.inj h)
    exact ⟨_, .quote row, rfl⟩
  | some (.link row) =>
    rw [otherStep] at h
    split at h
    · rename_i hcreate
      obtain ⟨rfl, -⟩ := Prod.mk.inj (Option.some.inj h)
      obtain ⟨hfree, heq⟩ := createDomain_eq_ok hcreate
      obtain ⟨rfl, -⟩ := Prod.mk.inj heq
      exact ⟨_, .linked _ rfl hfree, rfl⟩
    · obtain ⟨rfl, -⟩ := Prod.mk.inj (Option.some.inj h)
      exact ⟨_, .nothing [], rfl⟩

variable {view view' : OrderingView}

theorem OrderingStep.written (h : OrderingStep settings w s.1 view db' events view')
    (hrelies : Relies quoteId s view) :
    ∃ base, Written quoteId s view.locked base events ∧
      db' = { base with lockedQuotes := db'.lockedQuotes } := by
  cases h with
  | purchase _ hstep => exact (purchaseStep_effect hstep).written hrelies
  | create _ hstep => exact (createStep_effect hrelies.agrees hstep).written hrelies
  | other hstep =>
    obtain ⟨base, hwritten, rfl⟩ := otherStep_written hstep _
    exact ⟨db', hwritten, rfl⟩

theorem OrderingStep.relies (h : OrderingStep settings w s.1 view db' events view')
    (hspending : Spending quoteId s) (hrelies : Relies quoteId s view) :
    Relies quoteId (db', s.2 ++ events) view' := by
  cases h with
  | purchase _ hstep => exact (purchaseStep_effect hstep).relies hrelies
  | create _ hstep => exact (createStep_effect hrelies.agrees hstep).relies hspending hrelies
  | other => trivial

theorem OrderingStep.spending (h : OrderingStep settings w s.1 view db' events view')
    (hspending : Spending quoteId s) (hrelies : Relies quoteId s view) :
    Spending quoteId (db', s.2 ++ events) := by
  obtain ⟨base, hwritten, hbase⟩ := h.written hrelies
  rw [hbase]
  exact (hspending.written hwritten).relock db'.lockedQuotes

theorem OrderingStep.grown (h : OrderingStep settings w s.1 view db' events view')
    (hrelies : Relies quoteId s view) : Grown s (db', s.2 ++ events) := by
  obtain ⟨base, hwritten, hbase⟩ := h.written hrelies
  have hgrown := hwritten.grown
  rw [hbase]
  exact ⟨hgrown.quotes, hgrown.domains, hgrown.trace⟩

theorem OrderingStep.domains_of_unlocked (h : OrderingStep settings w s.1 view db' events view')
    (hrelies : Relies quoteId s view) (hlocked : view.locked ≠ some quoteId) {id : RowId}
    {domain : DomainRequest} (hdomain : db'.domains.get? id = some domain)
    (hquote : domain.quoteId = some quoteId) : s.1.domains.get? id = some domain := by
  obtain ⟨base, hwritten, hbase⟩ := h.written hrelies
  rw [hbase] at hdomain
  exact hwritten.domains_of_unlocked hlocked hdomain hquote

/-! ## The locks of the quotes -/

variable {db : OrderingDatabase}

theorem PurchaseEffect.locks {state state' : PurchaseState}
    (h : PurchaseEffect w db state db' events state') :
    LocksMove db.lockedQuotes (OrderingView.purchase opened state).locked db'.lockedQuotes
      (OrderingView.purchase opened state').locked := by
  cases h with
  | prior _ _ _ _ hstate | refused _ _ _ hstate => rcases hstate with rfl | rfl <;> exact .stays
  | quoted call _ hfree => exact .takes call.quoteId hfree
  | sells call => exact .releases call.quoteId
  | rolledBack call _ _ _ hstate =>
    rcases hstate with rfl | ⟨e, rfl⟩ <;> exact .releases call.quoteId

theorem locked_of_waits {request' : CreateOrderRequest} (h : state.waits request') :
    (OrderingView.create request state).locked = none := by
  rcases h with rfl | rfl | rfl <;> rfl

theorem CreateEffect.locks (h : CreateEffect w db state db' events state') :
    LocksMove db.lockedQuotes (OrderingView.create request state).locked db'.lockedQuotes
      (OrderingView.create request state').locked := by
  cases h with
  | replays _ _ _ _ hstate | refused _ _ _ hstate =>
    rw [locked_of_waits hstate]
    exact .stays
  | opens => exact .stays
  | quoted request' _ _ id _ hnamed hfree =>
    show LocksMove _ none _ request'.domainQuoteId
    rw [hnamed]
    exact .takes id hfree
  | unquoted request' _ _ hnamed =>
    show LocksMove _ none _ request'.domainQuoteId
    rw [hnamed]
    exact .stays
  | sells request' _ _ id _ _ _ _ _ _ _ hnamed =>
    show LocksMove _ request'.domainQuoteId _ none
    rw [hnamed]
    exact .releases id
  | places request' _ _ _ _ _ _ hnamed =>
    show LocksMove _ request'.domainQuoteId _ none
    rw [hnamed]
    exact .stays
  | rolledBack request' _ _ _ _ _ hstate =>
    have hlocked : (OrderingView.create request state').locked = none := by
      rcases hstate with rfl | ⟨e, rfl⟩ <;> rfl
    rw [hlocked, OrderingView.locked, unlockNamed]
    cases request'.domainQuoteId with
    | none => exact .stays
    | some id => exact .releases id

theorem otherStep_locks {state state' : Option OtherWrite}
    (h : otherStep db state = some (db', state')) : db'.lockedQuotes = db.lockedQuotes := by
  match state with
  | none => cases h
  | some (.quote row) =>
    obtain ⟨rfl, -⟩ := Prod.mk.inj (Option.some.inj h)
    rfl
  | some (.link row) =>
    rw [otherStep] at h
    split at h
    · rename_i hcreate
      obtain ⟨rfl, -⟩ := Prod.mk.inj (Option.some.inj h)
      obtain ⟨-, heq⟩ := createDomain_eq_ok hcreate
      obtain ⟨rfl, -⟩ := Prod.mk.inj heq
      rfl
    · obtain ⟨rfl, -⟩ := Prod.mk.inj (Option.some.inj h)
      rfl

end

section

variable {settings} {w : OrderingWorld} {quoteId : RowId}

def quoteLock (settings : RegistrarSettings) (quoteId : RowId) :
    Lock (tracedFamily (orderingOps settings) (orderingEvents settings)) where
  taken s := quoteId ∈ s.1.lockedQuotes
  holds t := (orderingView t).locked = some quoteId

def quoteOutline (settings : RegistrarSettings) (quoteId : RowId) :
    Outline (tracedFamily (orderingOps settings) (orderingEvents settings)) :=
  (quoteLock settings quoteId).outline (Spending quoteId) fun s t =>
    Relies quoteId s (orderingView t)

variable {s s' : OrderingDatabase × List QuoteEvent} {t t' : OrderingThread settings}
  {view : OrderingView}

theorem locksMove_of_step (hrelies : Relies quoteId s (orderingView t))
    (h : t.step w s = some (s', t')) :
    LocksMove s.1.lockedQuotes (orderingView t).locked s'.1.lockedQuotes
    (orderingView t').locked := by
  obtain ⟨events, hstep, -⟩ := orderingStep_of_step h
  generalize orderingView t = view at *
  generalize orderingView t' = view' at *
  cases hstep with
  | purchase _ hstep => exact (purchaseStep_effect hstep).locks
  | create _ hstep => exact (createStep_effect hrelies.agrees hstep).locks
  | other hstep =>
    rw [otherStep_locks hstep]
    exact .stays

theorem grown_of_step (hrelies : Relies quoteId s (orderingView t))
    (h : t.step w s = some (s', t')) : Grown s s' := by
  obtain ⟨events, hstep, htrace⟩ := orderingStep_of_step h
  obtain ⟨db', trace'⟩ := s'
  obtain rfl : trace' = s.2 ++ events := htrace
  exact hstep.grown hrelies

theorem locked_of_starts (h : view.Starts) : view.locked = none := by
  cases h with
  | purchase opened => cases opened <;> rfl
  | create | other => rfl

theorem relies_of_starts (h : view.Starts) : Relies quoteId s view := by
  cases h with
  | purchase opened =>
    cases opened with
    | ok call => exact rfl
    | error e => trivial
  | create request => exact .inl rfl
  | other => trivial

theorem quoteLock_sound : (quoteLock settings quoteId).Sound fun w s t => anyStep w s t ∧
    (quoteOutline settings quoteId).shared s ∧ (quoteOutline settings quoteId).thread s t where
  start op request hholds := by
    have hlocked : (orderingView (Thread.begin op request)).locked = some quoteId := hholds
    rw [locked_of_starts (starts_begin op request)] at hlocked
    cases hlocked
  moves w s t s' t' hguard _ hstep := by
    rcases (locksMove_of_step hguard.2.2.2 hstep).cases quoteId with ⟨hholds, htaken⟩ |
        ⟨hholds, hholds'⟩ |
      ⟨hfree, htaken⟩
    · exact .stays hholds htaken
    · exact .releases hholds hholds'
    · exact .takes hfree htaken

theorem quoteOutline_sound (settings : RegistrarSettings) (quoteId : RowId) :
    (quoteOutline settings quoteId).Sound anyStep := by
  refine Outline.Sound.relying (quoteLock_sound.outline_sound ?_ ?_ ?_)
  · intro s op request _
    exact relies_of_starts (starts_begin op request)
  · intro w s t s' t' _ hspending _ hrelies hstep
    obtain ⟨events, hstep, htrace⟩ := orderingStep_of_step hstep
    obtain ⟨db', trace'⟩ := s'
    obtain rfl : trace' = s.2 ++ events := htrace
    exact ⟨hstep.spending hspending hrelies, hstep.relies hspending hrelies⟩
  · intro w s t s' t' u _ _ hrelies hrelies' _ hexcludes hstep
    obtain ⟨events, hstep, htrace⟩ := orderingStep_of_step hstep
    obtain ⟨db', trace'⟩ := s'
    obtain rfl : trace' = s.2 ++ events := htrace
    exact hrelies'.grown (hstep.grown hrelies) fun hlocked id domain =>
      hstep.domains_of_unlocked hrelies (hexcludes hlocked)

end

end WebhostBilling
