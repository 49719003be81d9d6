import WebhostBilling.Orders.OrderCreation

/-!
# What a placed order adds to the tables

`Placement` says how the rows of a placed order refer to each other, `Sale` what they have to do
with the quote that is sold; the two services place orders of this kind and do nothing else.
-/

namespace WebhostBilling

open Store Store.Table Concurrency RegistrarProcessor DomainService OrderService

/-! ## The rows -/

def OrderingDatabase.place (db : OrderingDatabase) (order : PlacedOrder) (items : List PlacedItem)
    (invoice : PlacedInvoice) (requests : List DomainRequest) : OrderingDatabase :=
  { db with
    orders := db.orders.insert order
    orderItems := db.orderItems.insertAll items
    invoices := db.invoices.insert invoice
    domains := db.domains.insertAll requests }

structure Placement (db : OrderingDatabase) (items : List PlacedItem) (invoice : PlacedInvoice) :
    Prop where
  ofItems : ∀ item ∈ items, item.orderId = db.orders.size
  ofInvoice : invoice.orderId = db.orders.size
  lines : ∀ line ∈ invoice.items, db.orderItems.size ≤ line.orderItemId ∧
    line.orderItemId < db.orderItems.size + items.length

structure SoldItem (db : OrderingDatabase) (items : List PlacedItem) (invoice : PlacedInvoice)
    (quote : SellingQuote) (position : ℕ) (item : PlacedItem) (line : PlacedLine) : Prop where
  get : items[position]? = some item
  kind : item.kind = .domain
  quantity : item.quantity = 1
  unitAmount : item.unitAmount = quote.sellingAmount
  lineTotal : item.lineTotal = quote.sellingAmount
  only : ∀ (other : ℕ) (row : PlacedItem), items[other]? = some row → row.kind = .domain →
    other = position
  lines : (invoice.items.filter fun line => line.orderItemId = db.orderItems.size + position) =
    [line]
  line_quantity : line.quantity = 1
  line_unitAmount : line.unitAmount = quote.sellingAmount
  line_lineTotal : line.lineTotal = quote.sellingAmount

/-- **What is sold**: the domain of a quote, to the customer of the quote, with a submission key that
the order has as well. -/
structure Sale (db : OrderingDatabase) (order : PlacedOrder) (items : List PlacedItem)
    (invoice : PlacedInvoice) (quote : SellingQuote) (quoteId : RowId) (submissionKey : String)
    (row : DomainRequest) : Prop where
  ofQuote : row.quoteId = some quoteId
  ofKey : row.submissionKey = submissionKey
  customer : row.customerId = order.customerId
  invoiceCustomer : invoice.customerId = order.customerId
  orderKey : order.submissionKey = .order submissionKey ∨
    order.submissionKey = .domain submissionKey
  invoiceId : row.invoiceId = some db.invoices.size
  item : ∃ position item line, row.orderItemId = some (db.orderItems.size + position) ∧
    SoldItem db items invoice quote position item line
  free : ∀ id other, db.domains.get? id = some other → ¬ OrderingDatabase.clashes row other

/-! ## The insertions -/

namespace OrderingDatabase

variable {db : OrderingDatabase}

theorem insert_place (db : OrderingDatabase) (order : PlacedOrder) (items : List PlacedItem)
    (invoice : PlacedInvoice) (row : DomainRequest) :
    { db.place order items invoice [] with
      domains := (db.place order items invoice []).domains.insert row } =
      db.place order items invoice [row] := by
  simp only [place, insertAll_nil]
  rfl

variable {out : OrderingDatabase × RowId} {id : RowId}

theorem createOrder_eq_ok {row : PlacedOrder} (h : db.createOrder row = .ok out) :
    out = ({ db with orders := db.orders.insert row }, db.orders.size) := by
  simp only [createOrder, eq_ok] at h
  obtain ⟨-, -, rfl⟩ := h
  rfl

theorem createInvoice_eq_ok {row : PlacedInvoice} (h : db.createInvoice row = .ok out) :
    out = ({ db with invoices := db.invoices.insert row }, db.invoices.size) := by
  simp only [createInvoice, eq_ok] at h
  obtain ⟨-, -, rfl⟩ := h
  rfl

theorem createDomain_eq_ok {row : DomainRequest} (h : db.createDomain row = .ok out) :
    (∀ id other, db.domains.get? id = some other → ¬ clashes row other) ∧
      out = ({ db with domains := db.domains.insert row }, db.domains.size) := by
  simp only [createDomain, eq_ok, any_eq_false, decide_eq_false_iff_not] at h
  obtain ⟨-, hfree, rfl⟩ := h
  exact ⟨hfree, rfl⟩

variable {submissionKey : String} {domain : DomainRequest}

theorem domainOfKey_eq_some (h : db.domainOfKey submissionKey = some (id, domain)) :
    db.domains.get? id = some domain ∧ domain.submissionKey = submissionKey :=
  ⟨(find?_eq_some h).1, of_decide_eq_true (find?_eq_some h).2⟩

theorem domainOfKey_eq_none (h : db.domainOfKey submissionKey = none)
    (hdomain : db.domains.get? id = some domain) :
    domain.submissionKey ≠ submissionKey :=
  of_decide_eq_false (find?_eq_none.1 h id domain hdomain)

theorem orderOfKey_eq_some {key : OrderKey} {order : PlacedOrder}
    (h : db.orderOfKey key = some (id, order)) :
    db.orders.get? id = some order ∧ order.submissionKey = key :=
  ⟨(find?_eq_some h).1, of_decide_eq_true (find?_eq_some h).2⟩

end OrderingDatabase

/-! ## A purchase -/

section

variable {settings : RegistrarSettings} {w : OrderingWorld} {db db' : OrderingDatabase}

theorem purchase_placement (call : PurchaseCall) (quote : SellingQuote) (price : SellingPrice)
    (priceId : RowId) (db : OrderingDatabase) (now : ℕ) :
    Placement db [domainItem quote price priceId db.orders.size none]
      (purchasedInvoice call quote db.orders.size db.orderItems.size now) where
  ofItems item hitem := by
    rw [List.mem_singleton.1 hitem]
    rfl
  ofInvoice := rfl
  lines line hline := by
    rw [List.mem_singleton.1 hline]
    exact ⟨Nat.le_refl _, Nat.lt_succ_self _⟩

theorem purchase_soldItem (call : PurchaseCall) (quote : SellingQuote) (price : SellingPrice)
    (priceId : RowId) (db : OrderingDatabase) (now : ℕ) :
    SoldItem db [domainItem quote price priceId db.orders.size none]
      (purchasedInvoice call quote db.orders.size db.orderItems.size now) quote 0
      (domainItem quote price priceId db.orders.size none)
      (domainLine quote db.orderItems.size 1) where
  get := rfl
  kind := rfl
  quantity := rfl
  unitAmount := rfl
  lineTotal := rfl
  only other row hrow _ := by
    have hlt := (List.getElem?_eq_some_iff.1 hrow).1
    rw [List.length_singleton] at hlt
    omega
  lines := by
    rw [Nat.add_zero]
    exact List.filter_cons_of_pos (decide_eq_true rfl)
  line_quantity := rfl
  line_unitAmount := rfl
  line_lineTotal := rfl

variable {request : CreateOrderRequest} {addOns : List (RowId × SellingPrice)} {orderId : RowId}
  {hosting : SellingPrice} {quote : SellingQuote}

theorem purchaseTransaction_eq_ok {call : PurchaseCall} {domainId : RowId}
    (h : purchaseTransaction settings w call quote db = .ok (db', domainId)) :
    ∃ order items invoice row fresh, catalogueOf quote w = .ok fresh ∧
      selectionUnchanged quote fresh ∧ order.customerId = call.customerId ∧
      order.placedAt = w.now ∧ domainId = db.domains.size ∧ db' = db.place order items invoice
    [row] ∧
      Placement db items invoice ∧
      Sale db order items invoice quote call.quoteId call.submissionKey row := by
  simp only [purchaseTransaction, eq_ok] at h
  obtain ⟨offer, -, account, -, fresh, hfresh, hselection, price, -, customer, -, -, -, -, -, -, -, -,
    -, ⟨db₁, orderId⟩, horder, ⟨db₂, invoiceId⟩, hinvoice, hdomain⟩ := h
  obtain ⟨rfl, rfl⟩ := Prod.mk.inj (OrderingDatabase.createOrder_eq_ok horder)
  obtain ⟨rfl, rfl⟩ := Prod.mk.inj (OrderingDatabase.createInvoice_eq_ok hinvoice)
  obtain ⟨hfree, heq⟩ := OrderingDatabase.createDomain_eq_ok hdomain
  obtain ⟨rfl, rfl⟩ := Prod.mk.inj heq
  exact ⟨_, _, _, _, fresh, hfresh, hselection, rfl, rfl, rfl, rfl,
    purchase_placement call quote price _ db w.now,
    { ofQuote := rfl
      ofKey := rfl
      customer := rfl
      invoiceCustomer := rfl
      orderKey := Or.inr rfl
      invoiceId := rfl
      item := ⟨0, _, _, rfl, purchase_soldItem call quote price _ db w.now⟩
      free := hfree }⟩

/-! ## An order for hosting -/

theorem length_createdItems (request : CreateOrderRequest) (selection : Selection)
    (orderId : RowId) : (createdItems request selection orderId).length =
      1 + selection.domain.toList.length + selection.addOns.length := by
  rw [createdItems, List.length_append, List.length_cons, List.length_map, List.length_map]
  omega

theorem mem_createdLines {selection : Selection} {itemId : RowId} {line : PlacedLine}
    (h : line ∈ createdLines selection itemId) : ∃ k : ℕ, line.orderItemId = itemId + k ∧
      k < 1 + selection.domain.toList.length + selection.addOns.length := by
  simp only [createdLines, List.mem_append, List.mem_cons, List.mem_map, List.mem_mapIdx] at h
  rcases h with ((rfl | h) | ⟨domain, hdomain, rfl⟩) | ⟨index, hlt, rfl⟩
  · exact ⟨0, rfl, by omega⟩
  · split at h
    · rw [List.mem_singleton.1 h]
      exact ⟨0, rfl, by omega⟩
    · exact absurd h List.not_mem_nil
  · have hpos := List.length_pos_of_mem hdomain
    exact ⟨1, rfl, by omega⟩
  · exact ⟨1 + selection.domain.toList.length + index, by
      rw [← Nat.add_assoc, ← Nat.add_assoc]
      rfl, by omega⟩

theorem create_placement (request : CreateOrderRequest) (selection : Selection)
    (db : OrderingDatabase) (now : ℕ) :
    Placement db (createdItems request selection db.orders.size)
      (createdInvoice request selection db.orders.size db.orderItems.size now) where
  ofItems item hitem := by
    simp only [createdItems, List.mem_append, List.mem_cons, List.mem_map] at hitem
    rcases hitem with (rfl | ⟨domain, -, rfl⟩) | ⟨addOn, -, rfl⟩ <;> rfl
  ofInvoice := rfl
  lines line hline := by
    obtain ⟨k, hk, hlt⟩ := mem_createdLines hline
    rw [length_createdItems, hk]
    exact ⟨Nat.le_add_right _ _, Nat.add_lt_add_left hlt _⟩

theorem filter_createdLines (hosting : SellingPrice) (addOns : List (RowId × SellingPrice))
    (domain : QuotedDomain) (itemId : ℕ) :
    ∃ position, (createdLines ⟨hosting, addOns, some domain⟩ itemId).filter
      (fun line => line.orderItemId = itemId + 1) =
    [domainLine domain.quote (itemId + 1) position] := by
  refine ⟨2 + if 0 < hosting.setupFee then 1 else 0, ?_⟩
  have hsetup : (if 0 < hosting.setupFee then [placedLine itemId 2 hosting.currency hosting.setupFee]
      else []).filter (fun line => decide (line.orderItemId = itemId + 1)) = [] := by
    refine List.filter_eq_nil_iff.2 fun line hline => ?_
    split at hline
    · rw [List.mem_singleton.1 hline]
      simp [placedLine]
    · exact absurd hline List.not_mem_nil
  have haddOns : ∀ first, (addOns.mapIdx fun index addOn => placedLine (itemId + 1 + 1 + index)
      (first + index) hosting.currency addOn.2.amount).filter
        (fun line => decide (line.orderItemId = itemId + 1)) = [] := by
    intro first
    refine List.filter_eq_nil_iff.2 fun line hline => ?_
    obtain ⟨index, hlt, rfl⟩ := List.mem_mapIdx.1 hline
    rw [decide_eq_true_eq]
    intro h
    rw [placedLine, Nat.add_assoc, Nat.add_eq_left] at h
    omega
  have hplan : ¬ decide ((placedLine itemId 1 hosting.currency hosting.amount).orderItemId =
      itemId + 1) = true := by
    simp [placedLine]
  simp only [createdLines, Option.toList_some, List.map_singleton, List.length_singleton,
    List.cons_append]
  rw [List.filter_cons_of_neg (by simpa using hplan), List.filter_append, List.filter_append,
    hsetup, haddOns, List.nil_append, List.append_nil]
  exact List.filter_cons_of_pos (decide_eq_true rfl)

theorem create_soldItem (request : CreateOrderRequest) (hosting : SellingPrice)
    (addOns : List (RowId × SellingPrice)) (domain : QuotedDomain) (db : OrderingDatabase)
    (now : ℕ) : ∃ item line,
      SoldItem db (createdItems request ⟨hosting, addOns, some domain⟩ db.orders.size)
        (createdInvoice request ⟨hosting, addOns, some domain⟩ db.orders.size db.orderItems.size now)
        domain.quote 1 item line := by
  obtain ⟨position, hlines⟩ := filter_createdLines hosting addOns domain db.orderItems.size
  refine ⟨_, _, rfl, rfl, rfl, rfl, rfl, fun other row hrow hkind => ?_, hlines, rfl, rfl, rfl⟩
  have hitems : createdItems request ⟨hosting, addOns, some domain⟩ db.orders.size =
      hostingItem request hosting db.orders.size ::
        domainItem domain.quote domain.price domain.priceId db.orders.size request.domainAction ::
          addOns.map (addOnItem request hosting db.orders.size) := rfl
  rw [hitems] at hrow
  match other with
  | 0 =>
    rw [List.getElem?_cons_zero, Option.some.injEq] at hrow
    rw [← hrow] at hkind
    cases hkind
  | 1 => rfl
  | n + 2 =>
    rw [List.getElem?_cons_succ, List.getElem?_cons_succ, List.getElem?_map,
      Option.map_eq_some_iff] at hrow
    obtain ⟨addOn, -, rfl⟩ := hrow
    cases hkind

theorem confirmQuote_eq_ok {quoteId : RowId}
    {domain : QuotedDomain} (h : confirmQuote settings w request quoteId quote = .ok domain) :
    domain.quote = quote ∧ domain.quoteId = quoteId ∧
      ∃ fresh, catalogueOf quote w = .ok fresh ∧ selectionUnchanged quote fresh := by
  simp only [confirmQuote, eq_ok] at h
  obtain ⟨offer, -, account, -, -, -, -, -, fresh, hfresh, hselection, price, -, -, rfl⟩ := h
  exact ⟨rfl, rfl, fresh, hfresh, hselection⟩

theorem orderTransaction_eq_ok {quote : Option SellingQuote}
    (h : createTransaction settings w request hosting addOns quote db = .ok (db', orderId)) :
    ∃ domain, confirmNamedQuote settings w request quote = .ok domain ∧ orderId = db.orders.size ∧
      createRegistration request db.orderItems.size db.invoices.size
        (db.place (createdOrder request ⟨hosting, addOns, domain⟩ w.now)
          (createdItems request ⟨hosting, addOns, domain⟩ db.orders.size)
          (createdInvoice request ⟨hosting, addOns, domain⟩ db.orders.size db.orderItems.size w.now)
          []) domain = .ok db' := by
  simp only [createTransaction, eq_ok] at h
  obtain ⟨domain, hdomain, -, -, -, -, -, -, ⟨db₁, id⟩, horder, ⟨db₂, invoiceId⟩, hinvoice, db₃,
    hregistration, h⟩ := h
  obtain ⟨rfl, rfl⟩ := Prod.mk.inj (OrderingDatabase.createOrder_eq_ok horder)
  obtain ⟨rfl, rfl⟩ := Prod.mk.inj (OrderingDatabase.createInvoice_eq_ok hinvoice)
  obtain ⟨rfl, rfl⟩ := h
  refine ⟨domain, hdomain, rfl, ?_⟩
  rw [OrderingDatabase.place, insertAll_nil]
  exact hregistration

theorem createTransaction_none
    (h : createTransaction settings w request hosting addOns none db = .ok (db', orderId)) :
    ∃ order items invoice, db' = db.place order items invoice [] ∧ Placement db items invoice := by
  obtain ⟨domain, hdomain, -, hregistration⟩ := orderTransaction_eq_ok h
  obtain rfl := Except.ok.inj hdomain
  obtain rfl := Except.ok.inj hregistration
  exact ⟨_, _, _, rfl, create_placement request _ db w.now⟩

theorem createTransaction_some {quoteId : RowId} (hquote : request.domainQuoteId = some quoteId)
    (h : createTransaction settings w request hosting addOns (some quote) db =
      .ok (db', orderId)) :
    ∃ order items invoice row fresh, catalogueOf quote w = .ok fresh ∧
      selectionUnchanged quote fresh ∧ order.customerId = request.customerId ∧
      order.placedAt = w.now ∧ db' = db.place order items invoice [row] ∧
      Placement db items invoice ∧
      Sale db order items invoice quote quoteId request.submissionKey row := by
  obtain ⟨domain, hdomain, -, hregistration⟩ := orderTransaction_eq_ok h
  simp only [confirmNamedQuote, eq_ok] at hdomain
  obtain ⟨quoted, hconfirm, rfl⟩ := hdomain
  obtain ⟨rfl, hid, fresh, hfresh, hselection⟩ := confirmQuote_eq_ok hconfirm
  rw [hquote, Option.getD_some] at hid
  simp only [createRegistration, eq_ok] at hregistration
  obtain ⟨⟨db₁, domainId⟩, hcreate, rfl⟩ := hregistration
  obtain ⟨hfree, heq⟩ := OrderingDatabase.createDomain_eq_ok hcreate
  obtain ⟨rfl, -⟩ := Prod.mk.inj heq
  obtain ⟨item, line, hsold⟩ := create_soldItem request hosting addOns quoted db w.now
  rw [OrderingDatabase.place, insertAll_nil] at hfree
  let selection : Selection := ⟨hosting, addOns, some quoted⟩
  refine ⟨createdOrder request selection w.now, createdItems request selection db.orders.size,
    createdInvoice request selection db.orders.size db.orderItems.size w.now,
    quotedRequest quoted.quote quoted.quoteId request.customerId (db.orderItems.size + 1)
      db.invoices.size request.submissionKey, fresh, hfresh, hselection, rfl, rfl,
    OrderingDatabase.insert_place ..,
    create_placement request selection db w.now,
    { ofQuote := congrArg some hid
      ofKey := rfl
      customer := rfl
      invoiceCustomer := rfl
      orderKey := Or.inl rfl
      invoiceId := rfl
      item := ⟨1, item, line, rfl, hsold⟩
      free := hfree }⟩

end

/-! ## What an order leaves alone -/

structure References (db : OrderingDatabase) : Prop where
  items : ∀ id item, db.orderItems.get? id = some item → item.orderId < db.orders.size
  lines : ∀ id invoice, db.invoices.get? id = some invoice →
    ∀ line ∈ invoice.items, line.orderItemId < db.orderItems.size

theorem size_insertAll (t : Table PlacedItem) (items : List PlacedItem) :
    (t.insertAll items).size = t.size + items.length := List.length_append

section

variable {db : OrderingDatabase} {order : PlacedOrder} {items : List PlacedItem}
  {invoice : PlacedInvoice} {rows : List DomainRequest}

theorem References.place (h : References db) (hplaced : Placement db items invoice) :
    References (db.place order items invoice rows) where
  items id item hitem := by
    rw [OrderingDatabase.place, size_insert]
    rcases get?_insertAll_cases hitem with ⟨-, hnew⟩ | hold
    · rw [hplaced.ofItems item hnew]
      exact Nat.lt_succ_self _
    · exact Nat.lt_succ_of_lt (h.items id item hold)
  lines id row hrow line hline := by
    rw [OrderingDatabase.place, size_insertAll]
    rcases get?_insert_cases hrow with ⟨-, rfl⟩ | hold
    · exact (hplaced.lines line hline).2
    · exact Nat.lt_add_right _ (h.lines id row hold line hline)

theorem References.relock (h : References db) (locks : List RowId) :
    References { db with lockedQuotes := locks } where
  items := h.items
  lines := h.lines

/-! ## Billed domains -/

structure Bill where
  itemId : RowId
  item : PlacedItem
  order : PlacedOrder
  invoiceId : RowId
  invoice : PlacedInvoice
  line : PlacedLine

/-- **A domain is billed once, at the price of its quote**: its item is the only one of its order
that is for a domain, and the line of its invoice the only one that is for this item. -/
structure Billed (db : OrderingDatabase) (quote : SellingQuote) (domain : DomainRequest)
    (bill : Bill) : Prop where
  customer : domain.customerId = quote.customerId
  itemId : domain.orderItemId = some bill.itemId
  item : db.orderItems.get? bill.itemId = some bill.item
  item_kind : bill.item.kind = .domain
  item_quantity : bill.item.quantity = 1
  item_unitAmount : bill.item.unitAmount = quote.sellingAmount
  item_lineTotal : bill.item.lineTotal = quote.sellingAmount
  onlyItem : ∀ id other, db.orderItems.get? id = some other → other.orderId = bill.item.orderId →
    other.kind = .domain → id = bill.itemId
  order : db.orders.get? bill.item.orderId = some bill.order
  order_key : bill.order.submissionKey = .order domain.submissionKey ∨
    bill.order.submissionKey = .domain domain.submissionKey
  order_customer : bill.order.customerId = quote.customerId
  invoiceId : domain.invoiceId = some bill.invoiceId
  invoice : db.invoices.get? bill.invoiceId = some bill.invoice
  invoice_order : bill.invoice.orderId = bill.item.orderId
  invoice_customer : bill.invoice.customerId = quote.customerId
  lines : (bill.invoice.items.filter fun line => line.orderItemId = bill.itemId) = [bill.line]
  onlyInvoice : ∀ id other, db.invoices.get? id = some other →
    ∀ line ∈ other.items, line.orderItemId = bill.itemId → id = bill.invoiceId
  line_quantity : bill.line.quantity = 1
  line_unitAmount : bill.line.unitAmount = quote.sellingAmount
  line_lineTotal : bill.line.lineTotal = quote.sellingAmount

variable {quote : SellingQuote} {domain : DomainRequest} {bill : Bill}

theorem Billed.place (h : Billed db quote domain bill) (hplaced : Placement db items invoice) :
    Billed (db.place order items invoice rows) quote domain bill :=
  { h with
    item := get?_insertAll_of_some h.item
    onlyItem := fun id other hother horder hkind => by
      rcases get?_insertAll_cases hother with ⟨-, hnew⟩ | hold
      · rw [hplaced.ofItems other hnew] at horder
        exact absurd horder (Nat.ne_of_gt (lt_size_of_get? h.order))
      · exact h.onlyItem id other hold horder hkind
    order := get?_insert_of_some h.order
    invoice := get?_insert_of_some h.invoice
    onlyInvoice := fun id other hother line hline hitem => by
      rcases get?_insert_cases hother with ⟨-, rfl⟩ | hold
      · have hle := (hplaced.lines line hline).1
        rw [hitem] at hle
        exact absurd (lt_size_of_get? h.item) (Nat.not_lt.2 hle)
      · exact h.onlyInvoice id other hold line hline hitem }

theorem Billed.relock (h : Billed db quote domain bill) (locks : List RowId) :
    Billed { db with lockedQuotes := locks } quote domain bill :=
  { h with
    item := h.item
    onlyItem := h.onlyItem
    order := h.order
    invoice := h.invoice
    onlyInvoice := h.onlyInvoice }

theorem Billed.others (h : Billed db quote domain bill) (quotes : Table SellingQuote)
    (domains : Table DomainRequest) :
    Billed { db with quotes := quotes, domains := domains } quote domain bill :=
  { h with
    item := h.item
    onlyItem := h.onlyItem
    order := h.order
    invoice := h.invoice
    onlyInvoice := h.onlyInvoice }

theorem Sale.billed {quoteId : RowId} {submissionKey : String} {row : DomainRequest}
    (hsale : Sale db order items invoice quote quoteId submissionKey row)
    (hplaced : Placement db items invoice) (hreferences : References db)
    (hcustomer : quote.customerId = order.customerId) :
    ∃ bill, Billed (db.place order items invoice rows) quote row bill := by
  obtain ⟨position, item, line, hitemId, hsold⟩ := hsale.item
  have horderId : item.orderId = db.orders.size :=
    hplaced.ofItems item (List.mem_of_getElem? hsold.get)
  refine ⟨⟨db.orderItems.size + position, item, order, db.invoices.size, invoice, line⟩, ?_⟩
  exact {
    customer := hsale.customer.trans hcustomer.symm
    itemId := hitemId
    item := (get?_insertAll_add _ _ position).trans hsold.get
    item_kind := hsold.kind
    item_quantity := hsold.quantity
    item_unitAmount := hsold.unitAmount
    item_lineTotal := hsold.lineTotal
    onlyItem := fun id other hother hsame hkind => by
      rcases get?_insertAll_position hother with ⟨k, rfl, hk⟩ | hold
      · rw [hsold.only k other hk hkind]
      · have hlt := hreferences.items id other hold
        rw [hsame, horderId] at hlt
        exact absurd hlt (Nat.lt_irrefl _)
    order := by
      rw [horderId]
      exact get?_insert_self _ _
    order_key := by
      rw [hsale.ofKey]
      exact hsale.orderKey
    order_customer := hcustomer.symm
    invoiceId := hsale.invoiceId
    invoice := get?_insert_self _ _
    invoice_order := hplaced.ofInvoice.trans horderId.symm
    invoice_customer := hsale.invoiceCustomer.trans hcustomer.symm
    lines := hsold.lines
    onlyInvoice := fun id other hother line hline hitem => by
      rcases get?_insert_cases hother with ⟨rfl, -⟩ | hold
      · rfl
      · have hlt := hreferences.lines id other hold line hline
        rw [hitem] at hlt
        exact absurd hlt (Nat.not_lt.2 (Nat.le_add_right _ _))
    line_quantity := hsold.line_quantity
    line_unitAmount := hsold.line_unitAmount
    line_lineTotal := hsold.line_lineTotal }

end

end WebhostBilling
