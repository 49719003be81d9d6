import WebhostBilling.Orders.QuoteSpending

/-!
# What the steps of the ordering calls do

`PurchaseEffect` and `CreateEffect` say once what a step of each call does, and `Written` what any
step leaves in the tables.  A trace notes when a quote was checked under its lock, and that it was
sold.
-/

namespace WebhostBilling

open Store Concurrency RegistrarProcessor DomainService OrderService

/-! ## The events -/

/-- A quote that was checked, or spent on a domain. -/
inductive QuoteEvent
  | checked (quoteId now : ℕ)
  | spent (domainId quoteId checkedAt : ℕ) (fresh : Option CatalogueContext)

def purchaseEvents (settings : RegistrarSettings) (w : OrderingWorld) (db : OrderingDatabase) :
    PurchaseState → List QuoteEvent
  | .locking call =>
    match checkPurchase call w.now db with
    | .ok (.quoted _) => if call.quoteId ∈ db.lockedQuotes then [] else [.checked call.quoteId w.now]
    | _ => []
  | .writing call quote checkedAt =>
    match purchaseTransaction settings w call quote db, catalogueOf quote w with
    | .ok (_, domainId), .ok fresh => [.spent domainId call.quoteId checkedAt fresh]
    | _, _ => []
  | .raced _ => []
  | .done _ => []

def createEvents (settings : RegistrarSettings) (w : OrderingWorld) (db : OrderingDatabase) :
    CreateState → List QuoteEvent
  | .locking request =>
    match checkCreate settings w request db with
    | .ok (.placing _ _ _) =>
      request.domainQuoteId.toList.filterMap fun quoteId =>
        if quoteId ∈ db.lockedQuotes then none else some (.checked quoteId w.now)
    | _ => []
  | .writing request hosting addOns (some quote) checkedAt =>
    match createTransaction settings w request hosting addOns (some quote) db,
        catalogueOf quote w with
    | .ok _, .ok fresh =>
      request.domainQuoteId.toList.map fun quoteId =>
        .spent db.domains.size quoteId checkedAt fresh
    | _, _ => []
  | _ => []

/-! ## What is written -/

/-- What a call knows of a quote whose lock it has. -/
structure Held (quoteId : RowId) (s : OrderingDatabase × List QuoteEvent) (quote : SellingQuote)
    (customerId : RowId) (checkedAt : ℕ) : Prop where
  row : s.1.quotes.get? quoteId = some quote
  customer : quote.customerId = customerId
  unexpired : checkedAt < quote.expiresAt
  checked : .checked quoteId checkedAt ∈ s.2

/-- What a step leaves in the tables, whatever it does to the locks, and what it notes, when it has
the lock of at most the quote `seller`; what it knows is of interest when it sells a certain quote. -/
inductive Written (quoteId : RowId) (s : OrderingDatabase × List QuoteEvent)
    (seller : Option RowId) : OrderingDatabase → List QuoteEvent → Prop
  | nothing (events : List QuoteEvent) : Written quoteId s seller s.1 events
  | quote (row : SellingQuote) :
      Written quoteId s seller { s.1 with quotes := s.1.quotes.insert row } []
  | linked (row : DomainRequest) (hquote : row.quoteId = none)
      (hfree : ∀ id other, s.1.domains.get? id = some other →
        ¬ OrderingDatabase.clashes row other) :
      Written quoteId s seller { s.1 with domains := s.1.domains.insert row } []
  | placed (order : PlacedOrder) (items : List PlacedItem) (invoice : PlacedInvoice)
      (hplaced : Placement s.1 items invoice) :
      Written quoteId s seller (s.1.place order items invoice []) []
  | sold (order : PlacedOrder) (items : List PlacedItem) (invoice : PlacedInvoice)
      (row : DomainRequest) (quote : SellingQuote) (soldId checkedAt : ℕ) (submissionKey : String)
      (fresh : Option CatalogueContext) (hseller : seller = some soldId)
      (hheld : soldId = quoteId → Held quoteId s quote order.customerId checkedAt)
      (hplaced : Placement s.1 items invoice)
      (hsale : Sale s.1 order items invoice quote soldId submissionKey row)
      (hselection : selectionUnchanged quote fresh) :
      Written quoteId s seller (s.1.place order items invoice [row])
        [.spent s.1.domains.size soldId checkedAt fresh]

/-! ## Purchases -/

inductive PurchaseEffect (w : OrderingWorld) (db : OrderingDatabase) :
    PurchaseState → OrderingDatabase → List QuoteEvent → PurchaseState → Prop
  | prior (call : PurchaseCall) (state : PurchaseState) (id : RowId) (domain : DomainRequest)
      (hstate : state = .locking call ∨ state = .raced call)
          (hdomain : db.domains.get? id = some domain)
      (hkey : domain.submissionKey = call.submissionKey)
          (hcustomer : domain.customerId = call.customerId)
      (hquote : domain.quoteId = some call.quoteId) : PurchaseEffect w db state db [] (.done (.ok id))
  | refused (call : PurchaseCall) (state : PurchaseState) (e : Failure)
      (hstate : state = .locking call ∨ state = .raced call) :
      PurchaseEffect w db state db [] (.done (.error e))
  | quoted (call : PurchaseCall) (quote : SellingQuote) (hfree : call.quoteId ∉ db.lockedQuotes)
      (hquote : db.quotes.get? call.quoteId = some quote)
      (hcustomer : quote.customerId = call.customerId)
      (hnone : ∀ id domain, db.domains.get? id = some domain →
        domain.submissionKey ≠ call.submissionKey)
      (hunexpired : w.now < quote.expiresAt) :
      PurchaseEffect w db (.locking call) (db.lock call.quoteId) [.checked call.quoteId w.now]
        (.writing call quote w.now)
  | sells (call : PurchaseCall) (quote : SellingQuote) (checkedAt : ℕ) (order : PlacedOrder)
      (items : List PlacedItem) (invoice : PlacedInvoice) (row : DomainRequest)
      (fresh : Option CatalogueContext) (hselection : selectionUnchanged quote fresh)
      (hcustomer : order.customerId = call.customerId) (hplaced : Placement db items invoice)
      (hsale : Sale db order items invoice quote call.quoteId call.submissionKey row) :
      PurchaseEffect w db (.writing call quote checkedAt)
        ((db.place order items invoice [row]).unlock call.quoteId)
        [.spent db.domains.size call.quoteId checkedAt fresh] (.done (.ok db.domains.size))
  | rolledBack (call : PurchaseCall) (quote : SellingQuote) (checkedAt : ℕ) (state : PurchaseState)
      (hstate : state = .raced call ∨ ∃ e, state = .done (.error e)) :
      PurchaseEffect w db (.writing call quote checkedAt) (db.unlock call.quoteId) [] state

section

variable {settings : RegistrarSettings} {w : OrderingWorld} {db db' : OrderingDatabase}

variable {call : PurchaseCall} {state state' : PurchaseState}

theorem checkPurchase_prior {now id : ℕ} (h : checkPurchase call now db = .ok (.prior id)) :
    ∃ domain, db.domains.get? id = some domain ∧ domain.submissionKey = call.submissionKey ∧
      domain.customerId = call.customerId ∧ domain.quoteId = some call.quoteId := by
  simp only [checkPurchase, eq_ok] at h
  obtain ⟨quote, -, -, h⟩ := h
  split at h
  · rename_i id' prior hprior
    simp only [eq_ok, QuoteCheck.prior.injEq] at h
    obtain ⟨⟨hcustomer, hquote⟩, rfl⟩ := h
    obtain ⟨hget, hkey⟩ := OrderingDatabase.domainOfKey_eq_some hprior
    exact ⟨prior, hget, hkey, hcustomer, hquote⟩
  · simp only [eq_ok, reduceCtorEq, and_false, exists_false] at h

theorem checkPurchase_quoted {now : ℕ} {quote : SellingQuote}
    (h : checkPurchase call now db = .ok (.quoted quote)) :
    db.quotes.get? call.quoteId = some quote ∧ quote.customerId = call.customerId ∧
      (∀ id domain, db.domains.get? id = some domain →
        domain.submissionKey ≠ call.submissionKey) ∧ now < quote.expiresAt := by
  simp only [checkPurchase, eq_ok, Option.filter_eq_some_iff, decide_eq_true_eq] at h
  obtain ⟨row, ⟨hget, hcustomer⟩, -, h⟩ := h
  split at h
  · simp only [eq_ok, reduceCtorEq, and_false, exists_false] at h
  · rename_i hnone
    simp only [eq_ok, QuoteCheck.quoted.injEq] at h
    obtain ⟨hunexpired, rfl⟩ := h
    exact ⟨hget, hcustomer, fun id domain => OrderingDatabase.domainOfKey_eq_none hnone, hunexpired⟩

theorem racedPurchase_ok {id : RowId} (h : racedPurchase call db = .ok id) :
    ∃ domain, db.domains.get? id = some domain ∧ domain.submissionKey = call.submissionKey ∧
      domain.customerId = call.customerId ∧ domain.quoteId = some call.quoteId := by
  rw [racedPurchase] at h
  split at h
  · rename_i id' prior hprior
    simp only [eq_ok] at h
    obtain ⟨⟨hcustomer, hquote, -⟩, rfl⟩ := h
    obtain ⟨hget, hkey⟩ := OrderingDatabase.domainOfKey_eq_some hprior
    exact ⟨prior, hget, hkey, hcustomer, hquote⟩
  · cases h

theorem purchaseStep_effect (h : purchaseStep settings w db state = some (db', state')) :
    PurchaseEffect w db state db' (purchaseEvents settings w db state) state' := by
  cases state with
  | locking call =>
    simp only [purchaseStep] at h
    split at h
    · cases h
    rename_i hfree
    simp only [purchaseEvents]
    split at h
    · rename_i domainId hcheck
      cases h
      obtain ⟨domain, hdomain, hkey, hcustomer, hquote⟩ := checkPurchase_prior hcheck
      rw [hcheck]
      exact .prior call _ domainId domain (.inl rfl) hdomain hkey hcustomer hquote
    · rename_i quote hcheck
      cases h
      obtain ⟨hquote, hcustomer, hnone, hunexpired⟩ := checkPurchase_quoted hcheck
      simp only [hcheck, if_neg hfree]
      exact .quoted call quote hfree hquote hcustomer hnone hunexpired
    · rename_i e hcheck
      cases h
      rw [hcheck]
      exact .refused call _ e (.inl rfl)
  | writing call quote checkedAt =>
    simp only [purchaseStep] at h
    simp only [purchaseEvents]
    cases htx : purchaseTransaction settings w call quote db with
    | ok out =>
      obtain ⟨db₁, domainId⟩ := out
      rw [atomically, htx] at h
      cases h
      obtain ⟨order, items, invoice, row, fresh, hfresh, hselection, hcustomer, -, rfl, rfl, hplaced,
        hsale⟩ := purchaseTransaction_eq_ok htx
      rw [hfresh]
      exact .sells call quote checkedAt order items invoice row fresh hselection hcustomer hplaced
        hsale
    | error e =>
      rw [atomically, htx] at h
      cases e with
      | uniqueConstraint =>
        cases h
        exact .rolledBack call quote checkedAt _ (.inl rfl)
      | _ =>
        cases h
        exact .rolledBack call quote checkedAt _ (.inr ⟨_, rfl⟩)
  | raced call =>
    cases h
    cases hraced : racedPurchase call db with
    | ok id =>
      obtain ⟨domain, hdomain, hkey, hcustomer, hquote⟩ := racedPurchase_ok hraced
      exact .prior call _ id domain (.inr rfl) hdomain hkey hcustomer hquote
    | error e => exact .refused call _ e (.inr rfl)
  | done result => cases h

theorem PurchaseEffect.unchanged {events : List QuoteEvent}
    (h : PurchaseEffect w db state db' events state') :
    db' = { db with lockedQuotes := db'.lockedQuotes } ∨ ∃ id, state' = .done (.ok id) := by
  cases h with
  | prior _ _ id => exact .inr ⟨id, rfl⟩
  | refused | quoted => exact .inl rfl
  | sells => exact .inr ⟨_, rfl⟩
  | rolledBack => exact .inl rfl

end

/-! ## Orders for hosting -/

def OrderService.CreateState.agrees : CreateState → Prop
  | .writing request _ _ quote _ => quote.isSome = request.domainQuoteId.isSome
  | _ => True

def OrderService.CreateState.waits (request : CreateOrderRequest) (state : CreateState) : Prop :=
  state = .finding request ∨ state = .locking request ∨ state = .raced request

/-- Everything that a step of `OrderService.create` does. -/
inductive CreateEffect (w : OrderingWorld) (db : OrderingDatabase) :
    CreateState → OrderingDatabase → List QuoteEvent → CreateState → Prop
  | replays (request : CreateOrderRequest) (state : CreateState) (id : RowId) (order : PlacedOrder)
      (hstate : state.waits request) (horder : db.orders.get? id = some order)
      (hkey : order.submissionKey = .order request.submissionKey)
      (hsame : sameOrder db request id order) : CreateEffect w db state db [] (.done (.ok id))
  | refused (request : CreateOrderRequest) (state : CreateState) (e : Failure)
      (hstate : state.waits request) : CreateEffect w db state db [] (.done (.error e))
  | opens (request : CreateOrderRequest) :
      CreateEffect w db (.finding request) db [] (.locking request)
  | quoted (request : CreateOrderRequest) (hosting : SellingPrice)
      (addOns : List (RowId × SellingPrice)) (quoteId : RowId) (quote : SellingQuote)
      (hnamed : request.domainQuoteId = some quoteId) (hfree : quoteId ∉ db.lockedQuotes)
      (hquote : db.quotes.get? quoteId = some quote)
      (hcustomer : quote.customerId = request.customerId) (hunexpired : w.now < quote.expiresAt) :
      CreateEffect w db (.locking request) (db.lock quoteId) [.checked quoteId w.now]
        (.writing request hosting addOns (some quote) w.now)
  | unquoted (request : CreateOrderRequest) (hosting : SellingPrice)
      (addOns : List (RowId × SellingPrice)) (hnamed : request.domainQuoteId = none) :
      CreateEffect w db (.locking request) db [] (.writing request hosting addOns none w.now)
  | sells (request : CreateOrderRequest) (hosting : SellingPrice)
      (addOns : List (RowId × SellingPrice)) (quoteId : RowId) (quote : SellingQuote)
      (checkedAt : ℕ) (order : PlacedOrder) (items : List PlacedItem) (invoice : PlacedInvoice)
      (row : DomainRequest) (fresh : Option CatalogueContext)
      (hnamed : request.domainQuoteId = some quoteId) (hselection : selectionUnchanged quote fresh)
      (hcustomer : order.customerId = request.customerId) (hplaced : Placement db items invoice)
      (hsale : Sale db order items invoice quote quoteId request.submissionKey row) :
      CreateEffect w db (.writing request hosting addOns (some quote) checkedAt)
        ((db.place order items invoice [row]).unlock quoteId)
        [.spent db.domains.size quoteId checkedAt fresh] (.done (.ok db.orders.size))
  | places (request : CreateOrderRequest) (hosting : SellingPrice)
      (addOns : List (RowId × SellingPrice)) (checkedAt : ℕ) (order : PlacedOrder)
      (items : List PlacedItem) (invoice : PlacedInvoice) (hnamed : request.domainQuoteId = none)
      (hplaced : Placement db items invoice) :
      CreateEffect w db (.writing request hosting addOns none checkedAt)
        (db.place order items invoice []) [] (.done (.ok db.orders.size))
  | rolledBack (request : CreateOrderRequest) (hosting : SellingPrice)
      (addOns : List (RowId × SellingPrice)) (quote : Option SellingQuote) (checkedAt : ℕ)
      (state : CreateState) (hstate : state = .raced request ∨ ∃ e, state = .done (.error e)) :
      CreateEffect w db (.writing request hosting addOns quote checkedAt) (unlockNamed request db)
        [] state

section

variable {settings : RegistrarSettings} {w : OrderingWorld} {db db' : OrderingDatabase}
  {request : CreateOrderRequest}

variable {id orderId : RowId} {order : PlacedOrder} {state state' : CreateState}
  {hosting : SellingPrice} {addOns : List (RowId × SellingPrice)} {quote : Option SellingQuote}

theorem duplicateResult_ok (h : duplicateResult request id order db = .ok orderId) :
    orderId = id ∧ sameOrder db request id order := by
  simp only [duplicateResult, eq_ok] at h
  exact ⟨h.2.symm, h.1⟩

theorem CreateEffect.of_orderOfKey (hstate : state.waits request)
    (hfound : db.orderOfKey (.order request.submissionKey) = some (id, order)) :
    CreateEffect w db state db [] (.done (duplicateResult request id order db)) := by
  obtain ⟨horder, hkey⟩ := OrderingDatabase.orderOfKey_eq_some hfound
  cases hresult : duplicateResult request id order db with
  | ok orderId =>
    obtain ⟨rfl, hsame⟩ := duplicateResult_ok hresult
    exact .replays request state orderId order hstate horder hkey hsame
  | error e => exact .refused request state e hstate

theorem checkQuote_eq_ok {quoteId : RowId} {now : ℕ} {quote : SellingQuote}
    (h : checkQuote settings request quoteId now db = .ok quote) :
    db.quotes.get? quoteId = some quote ∧ quote.customerId = request.customerId ∧
      now < quote.expiresAt := by
  rw [checkQuote] at h
  split at h <;>
  · simp only [eq_ok, Option.filter_eq_some_iff, decide_eq_true_eq] at h
    obtain ⟨-, -, row, ⟨hget, hcustomer, -, -, hunexpired⟩, -, rfl⟩ := h
    exact ⟨hget, hcustomer, hunexpired⟩

theorem checkSelection_placing
    (h : checkSelection settings w request db = .ok (.placing hosting addOns quote)) :
    checkNamedQuote settings request w.now db = .ok quote := by
  simp only [checkSelection, eq_ok, CreateCheck.placing.injEq] at h
  obtain ⟨hosting', -, -, -, -, quote', hquote, -, -, rfl⟩ := h
  exact hquote

theorem checkSelection_replay :
    checkSelection settings w request db ≠ .ok (.replay orderId) := by
  intro h
  simp only [checkSelection, eq_ok, reduceCtorEq, and_false, exists_false] at h

theorem checkCreate_replay (h : checkCreate settings w request db = .ok (.replay orderId)) :
    ∃ order, db.orders.get? orderId = some order ∧
      order.submissionKey = .order request.submissionKey ∧ sameOrder db request orderId order := by
  simp only [checkCreate, eq_ok] at h
  obtain ⟨-, -, h⟩ := h
  split at h
  · rename_i id order hfound
    simp only [eq_ok, CreateCheck.replay.injEq] at h
    obtain ⟨orderId', hresult, rfl⟩ := h
    obtain ⟨rfl, hsame⟩ := duplicateResult_ok hresult
    split at hfound
    · obtain ⟨horder, hkey⟩ := OrderingDatabase.orderOfKey_eq_some hfound
      exact ⟨order, horder, hkey, hsame⟩
    · cases hfound
  · exact absurd h checkSelection_replay

theorem checkCreate_placing
    (h : checkCreate settings w request db = .ok (.placing hosting addOns quote)) :
    checkNamedQuote settings request w.now db = .ok quote := by
  simp only [checkCreate, eq_ok] at h
  obtain ⟨-, -, h⟩ := h
  split at h
  · simp only [eq_ok, reduceCtorEq, and_false, exists_false] at h
  · exact checkSelection_placing h

theorem createStep_effect (hagrees : state.agrees)
    (h : createStep settings w db state = some (db', state')) :
    CreateEffect w db state db' (createEvents settings w db state) state' := by
  cases state with
  | finding request =>
    simp only [createStep] at h
    split at h
    · rename_i e _
      cases h
      exact .refused request _ e (.inl rfl)
    · split at h
      · rename_i id order hfound
        cases h
        exact .of_orderOfKey (.inl rfl) hfound
      · cases h
        exact .opens request
  | locking request =>
    simp only [createStep] at h
    split at h
    · cases h
    rename_i hfree
    simp only [createEvents]
    split at h
    · rename_i orderId hcheck
      cases h
      obtain ⟨order, horder, hkey, hsame⟩ := checkCreate_replay hcheck
      rw [hcheck]
      exact .replays request _ orderId order (.inr (.inl rfl)) horder hkey hsame
    · rename_i hosting addOns quote hcheck
      cases h
      have hnamed := checkCreate_placing hcheck
      rw [checkNamedQuote] at hnamed
      simp only [hcheck]
      cases hid : request.domainQuoteId with
      | none =>
        rw [hid] at hnamed
        obtain rfl := Except.ok.inj hnamed
        rw [lockNamed, hid]
        exact .unquoted request hosting addOns hid
      | some quoteId =>
        rw [hid] at hnamed hfree
        simp only [eq_ok] at hnamed
        obtain ⟨row, hrow, rfl⟩ := hnamed
        obtain ⟨hquote, hcustomer, hunexpired⟩ := checkQuote_eq_ok hrow
        have hfree' : quoteId ∉ db.lockedQuotes := fun hlocked => hfree ⟨quoteId, rfl, hlocked⟩
        rw [lockNamed, hid, Option.toList_some]
        simp only [List.filterMap_cons, List.filterMap_nil, if_neg hfree']
        exact .quoted request hosting addOns quoteId row hid hfree' hquote hcustomer hunexpired
    · rename_i e hcheck
      cases h
      rw [hcheck]
      exact .refused request _ e (.inr (.inl rfl))
  | writing request hosting addOns quote checkedAt =>
    simp only [createStep] at h
    cases htx : createTransaction settings w request hosting addOns quote db with
    | ok out =>
      obtain ⟨db₁, orderId⟩ := out
      rw [atomically, htx] at h
      cases h
      obtain ⟨-, -, rfl, -⟩ := orderTransaction_eq_ok htx
      cases quote with
      | none =>
        have hid : request.domainQuoteId = none := 
          Option.isNone_iff_eq_none.1 (Option.isSome_eq_false_iff.1 hagrees.symm)
        obtain ⟨order, items, invoice, rfl, hplaced⟩ := createTransaction_none htx
        rw [unlockNamed, hid]
        exact .places request hosting addOns checkedAt order items invoice hid hplaced
      | some quote =>
        obtain ⟨quoteId, hid⟩ := Option.isSome_iff_exists.1 hagrees.symm
        obtain ⟨order, items, invoice, row, fresh, hfresh, hselection, hcustomer, -, rfl, hplaced,
          hsale⟩ := createTransaction_some hid htx
        rw [unlockNamed, hid]
        simp only [createEvents, htx, hfresh, hid, Option.toList_some, List.map_singleton]
        exact .sells request hosting addOns quoteId quote checkedAt order items invoice row fresh hid
          hselection hcustomer hplaced hsale
    | error e =>
      have hevents : createEvents settings w db (.writing request hosting addOns quote checkedAt) =
          [] := by
        cases quote with
        | none => rfl
        | some quote => simp only [createEvents, htx]
      rw [atomically, htx] at h
      rw [hevents]
      cases e with
      | uniqueConstraint =>
        cases h
        exact .rolledBack request hosting addOns quote checkedAt _ (.inl rfl)
      | _ =>
        cases h
        exact .rolledBack request hosting addOns quote checkedAt _ (.inr ⟨_, rfl⟩)
  | raced request =>
    cases h
    rw [racedCreate]
    split
    · rename_i id order hfound
      exact .of_orderOfKey (.inr (.inr rfl)) hfound
    · exact .refused request _ _ (.inr (.inr rfl))
  | done result => cases h

theorem unlockNamed_tables (request : CreateOrderRequest) (db : OrderingDatabase) :
    unlockNamed request db = { db with lockedQuotes := (unlockNamed request db).lockedQuotes } := by
  rw [unlockNamed]
  cases request.domainQuoteId <;> rfl

/-- A call of `create` leaves the tables as they were, unless it is answered with an order. -/
theorem CreateEffect.unchanged {events : List QuoteEvent}
    (h : CreateEffect w db state db' events state') :
    db' = { db with lockedQuotes := db'.lockedQuotes } ∨ ∃ id, state' = .done (.ok id) := by
  cases h with
  | replays _ _ id => exact .inr ⟨id, rfl⟩
  | refused | opens | quoted | unquoted => exact .inl rfl
  | sells | places => exact .inr ⟨_, rfl⟩
  | rolledBack request => exact .inl (unlockNamed_tables request db)

end

end WebhostBilling
