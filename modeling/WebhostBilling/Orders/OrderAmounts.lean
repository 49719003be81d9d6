import WebhostBilling.Invoices.InvoiceTotals
import WebhostBilling.Orders.OrderCreation

/-!
# The amounts of an order

An order for hosting has up to four parts: the plan, its setup fee, a domain, and add-ons.  `create`
computes the totals of the order, its items and the lines of its invoice from these parts in
expressions of their own; the lines refer to the items as the database returns them, in any order.
-/

namespace WebhostBilling

open Store

namespace OrderService

open InvoiceService (inRange postgresBigintMax)

/-- The prices that an order is made of; the amount of the domain is that of its quote, or of the
price of an existing domain. -/
structure OrderParts where
  amount : ℤ
  setupFee : ℤ
  domain : Option ℤ := none
  addOns : List ℤ := []

structure ItemAmounts where
  kind : ProductKind
  unitAmount : ℤ
  setupFee : ℤ := 0
  quantity : ℤ := 1
  lineTotal : ℤ
deriving DecidableEq

structure LineAmounts where
  orderItemId : RowId
  linePosition : ℕ
  quantity : ℤ := 1
  unitAmount : ℤ
  lineTotal : ℤ

structure OrderAmounts where
  subtotal : ℤ
  setupTotal : ℤ
  total : ℤ
  items : List ItemAmounts
  invoiceSubtotal : ℤ
  invoiceTotal : ℤ
  balanceDue : ℤ
  lines : List LineAmounts

def addOnLines (first : ℕ) (items : List (RowId × ItemAmounts)) : List LineAmounts :=
  items.mapIdx fun index item => ⟨item.1, first + index, 1, item.2.unitAmount, item.2.lineTotal⟩

namespace OrderParts

variable (parts : OrderParts)

def domainAmount : ℤ := parts.domain.getD 0

def hostingTotal : ℤ := parts.amount + parts.setupFee

def total : ℤ := parts.hostingTotal + parts.domainAmount + parts.addOns.sum

def addOnItem (amount : ℤ) : ItemAmounts where
  kind := .addOn
  unitAmount := amount
  lineTotal := amount

def domainItem (amount : ℤ) : ItemAmounts where
  kind := .domain
  unitAmount := amount
  lineTotal := amount

def hostingItem : ItemAmounts where
  kind := .hosting
  unitAmount := parts.amount
  setupFee := parts.setupFee
  lineTotal := parts.hostingTotal

def items : List ItemAmounts :=
  parts.hostingItem :: (parts.domain.toList.map domainItem ++ parts.addOns.map addOnItem)

def lines (stored : List (RowId × ItemAmounts)) : Except String (List LineAmounts) := do
  let orderItem ← orThrow "Order item creation failed"
    (stored.find? fun item => item.2.kind = .hosting)
  let domainItem := stored.find? fun item => item.2.kind = .domain
  let firstAddOnPosition := 2 + (decide (0 < parts.setupFee)).toNat + domainItem.isSome.toNat
  let setup : List LineAmounts := if 0 < parts.setupFee then
    [⟨orderItem.1, 2, 1, parts.setupFee, parts.setupFee⟩] else []
  let domain : List LineAmounts := match parts.domain, domainItem with
    | some _, some item =>
      [⟨item.1, if 0 < parts.setupFee then 3 else 2, 1, parts.domainAmount, parts.domainAmount⟩]
    | _, _ => []
  let addOns := addOnLines firstAddOnPosition (stored.filter fun item => item.2.kind = .addOn)
  return ⟨orderItem.1, 1, 1, parts.amount, parts.amount⟩ :: (setup ++ domain ++ addOns)

/-- The amounts that `create` writes, or its refusal of them. -/
def place (stored : List (RowId × ItemAmounts)) : Except String OrderAmounts := do
  require (¬ parts.amount > postgresBigintMax - parts.setupFee)
    "The selected price total exceeds the supported range."
  require (¬ parts.total > postgresBigintMax)
    "The combined order total exceeds the supported range."
  let lines ← parts.lines stored
  return {
    subtotal := parts.amount + parts.domainAmount + parts.addOns.sum, setupTotal := parts.setupFee
    total := parts.total, items := parts.items, invoiceSubtotal := parts.total
    invoiceTotal := parts.total, balanceDue := parts.total, lines }

/-- The prices are in range. -/
def priced : Prop :=
  inRange parts.amount ∧ inRange parts.setupFee ∧ (∀ amount ∈ parts.domain, inRange amount) ∧
    ∀ amount ∈ parts.addOns, inRange amount
deriving Decidable

end OrderParts

/-- Every amount that is stored. -/
def OrderAmounts.written (amounts : OrderAmounts) : List ℤ :=
  [amounts.subtotal, amounts.setupTotal, amounts.total, amounts.invoiceSubtotal,
    amounts.invoiceTotal, amounts.balanceDue] ++
  amounts.items.flatMap (fun item => [item.unitAmount, item.setupFee, item.lineTotal]) ++
  amounts.lines.flatMap fun line => [line.unitAmount, line.lineTotal]

section

variable {parts : OrderParts} {stored : List (RowId × ItemAmounts)} {lines : List LineAmounts}

theorem OrderParts.priced.nonneg (h : parts.priced) :
    0 ≤ parts.amount ∧ 0 ≤ parts.setupFee ∧ 0 ≤ parts.domainAmount ∧ 0 ≤ parts.addOns.sum := by
  refine ⟨h.1.1, h.2.1.1, ?_, List.sum_nonneg fun amount hmem => (h.2.2.2 amount hmem).1⟩
  rw [OrderParts.domainAmount]
  cases hdomain : parts.domain with
  | none => simp
  | some amount => exact (h.2.2.1 amount hdomain).1

theorem exists_stored (hstored : (stored.map Prod.snd).Perm parts.items) {item : ItemAmounts}
    (hitem : item ∈ parts.items) :
    ∃ entry ∈ stored, stored.find? (fun entry => entry.2.kind = item.kind) = some entry := by
  obtain ⟨entry, hentry, rfl⟩ := List.mem_map.1 (hstored.mem_iff.2 hitem)
  have hsome : (stored.find? fun found => found.2.kind = entry.2.kind).isSome :=
    List.find?_isSome.2 ⟨entry, hentry, by simp⟩
  obtain ⟨found, hfound⟩ := Option.isSome_iff_exists.1 hsome
  exact ⟨found, List.mem_of_find?_eq_some hfound, hfound⟩

theorem addOns_stored (hstored : (stored.map Prod.snd).Perm parts.items) :
    ((stored.filter fun item => item.2.kind = .addOn).map Prod.snd).Perm
      (parts.addOns.map OrderParts.addOnItem) := by
  have hfilter := hstored.filter fun item => item.kind = .addOn
  rw [List.filter_map] at hfilter
  have hitems : (parts.items.filter fun item => item.kind = .addOn) =
      parts.addOns.map OrderParts.addOnItem := by
    have haddOns : ((parts.addOns.map OrderParts.addOnItem).filter fun item => item.kind = .addOn) =
        parts.addOns.map OrderParts.addOnItem := by
      rw [List.filter_eq_self]
      simp [OrderParts.addOnItem]
    rw [OrderParts.items, List.filter_cons_of_neg (by simp [OrderParts.hostingItem]),
      List.filter_append, haddOns]
    cases parts.domain <;> simp [OrderParts.domainItem]
  rwa [hitems] at hfilter

theorem sum_items (parts : OrderParts) :
    (parts.items.map ItemAmounts.lineTotal).sum = parts.total := by
  have haddOns :
      ((parts.addOns.map OrderParts.addOnItem).map ItemAmounts.lineTotal) = parts.addOns := by
    simp [OrderParts.addOnItem, Function.comp_def]
  rw [OrderParts.items, List.map_cons, List.sum_cons, List.map_append, List.sum_append, haddOns,
    OrderParts.total, OrderParts.domainAmount]
  cases parts.domain <;> simp [OrderParts.hostingItem, OrderParts.domainItem, add_assoc]

/-- The lines are numbered from a position on, bill an amount together, one piece each, and refer to
items that are stored. -/
structure Bills (stored : List (RowId × ItemAmounts)) (first : ℕ) (amount : ℤ)
    (lines : List LineAmounts) : Prop where
  positions : lines.map LineAmounts.linePosition = List.range' first lines.length
  total : (lines.map LineAmounts.lineTotal).sum = amount
  line : ∀ line ∈ lines, (∃ item, (line.orderItemId, item) ∈ stored) ∧ line.quantity = 1 ∧
    line.unitAmount = line.lineTotal ∧ 0 ≤ line.lineTotal

variable {first : ℕ} {amount amount' : ℤ} {lines' : List LineAmounts}

theorem Bills.append (h : Bills stored first amount lines)
    (h' : Bills stored (first + lines.length) amount' lines') :
    Bills stored first (amount + amount') (lines ++ lines') where
  positions := by
    rw [List.map_append, h.positions, h'.positions, List.length_append, List.range'_append_1]
  total := by rw [List.map_append, List.sum_append, h.total, h'.total]
  line line hline := (List.mem_append.1 hline).elim (h.line line) (h'.line line)

theorem bills_nothing : Bills stored first 0 [] where
  positions := rfl
  total := rfl
  line _ hline := nomatch hline

theorem bills_item {entry : RowId × ItemAmounts} (hentry : entry ∈ stored) (hamount : 0 ≤ amount) :
    Bills stored first amount [⟨entry.1, first, 1, amount, amount⟩] where
  positions := rfl
  total := by simp
  line line hline := by
    obtain rfl := List.mem_singleton.1 hline
    exact ⟨⟨entry.2, hentry⟩, rfl, rfl, hamount⟩

theorem bills_addOns (hpriced : parts.priced)
    (hstored : (stored.map Prod.snd).Perm parts.items) (first : ℕ) :
    Bills stored first parts.addOns.sum
      (addOnLines first (stored.filter fun item => item.2.kind = .addOn)) := by
  have haddOns := addOns_stored hstored
  have hsub : (stored.filter fun item => item.2.kind = .addOn) ⊆ stored :=
    List.filter_sublist.subset
  generalize (stored.filter fun item => item.2.kind = .addOn) = items at haddOns hsub ⊢
  have htotals : (addOnLines first items).map LineAmounts.lineTotal =
      (items.map Prod.snd).map ItemAmounts.lineTotal :=
    List.ext_getElem (by simp [addOnLines]) (by simp [addOnLines])
  refine ⟨List.ext_getElem (by simp) (by simp [addOnLines]), ?_, ?_⟩
  · rw [htotals, (haddOns.map ItemAmounts.lineTotal).sum_eq]
    simp [OrderParts.addOnItem, Function.comp_def]
  · intro line hline
    obtain ⟨index, hindex, rfl⟩ := List.mem_mapIdx.1 hline
    have hmem : items[index] ∈ items := List.getElem_mem hindex
    obtain ⟨amount, hamount, hitem⟩ :=
      List.mem_map.1 (haddOns.mem_iff.1 (List.mem_map_of_mem (f := Prod.snd) hmem))
    refine ⟨⟨items[index].2, hsub hmem⟩, rfl, ?_⟩
    show items[index].2.unitAmount = items[index].2.lineTotal ∧ 0 ≤ items[index].2.lineTotal
    rw [← hitem]
    exact ⟨rfl, (hpriced.2.2.2 amount hamount).1⟩

theorem domain_stored (hstored : (stored.map Prod.snd).Perm parts.items) :
    (parts.domain = none ∧ stored.find? (fun item => item.2.kind = .domain) = none) ∨
      ∃ amount, parts.domain = some amount ∧ ∃ entry ∈ stored,
        stored.find? (fun item => item.2.kind = .domain) = some entry := by
  cases hdomain : parts.domain with
  | none =>
    refine .inl ⟨rfl, List.find?_eq_none.2 fun entry hentry => ?_⟩
    have hitem := hstored.mem_iff.1 (List.mem_map_of_mem (f := Prod.snd) hentry)
    simp only [OrderParts.items, hdomain, Option.toList_none, List.map_nil, List.nil_append,
      List.mem_cons, List.mem_map] at hitem
    rcases hitem with hitem | ⟨amount, -, hitem⟩
    · simp [hitem, OrderParts.hostingItem]
    · simp [← hitem, OrderParts.addOnItem]
  | some amount =>
    have hitem : OrderParts.domainItem amount ∈ parts.items := by simp [OrderParts.items, hdomain]
    exact .inr ⟨amount, rfl, exists_stored hstored hitem⟩

theorem lines_of_stored (hpriced : parts.priced)
    (hstored : (stored.map Prod.snd).Perm parts.items) :
    ∃ lines, parts.lines stored = .ok lines ∧ Bills stored 1 parts.total lines := by
  obtain ⟨hamount, hsetupFee, hdomainAmount, -⟩ := hpriced.nonneg
  have hitem : parts.hostingItem ∈ parts.items := List.mem_cons_self ..
  obtain ⟨orderItem, horderItem, hhosting⟩ := exists_stored hstored hitem
  have hfound : orThrow "Order item creation failed"
      (stored.find? fun item => item.2.kind = .hosting) = .ok orderItem := orThrow_eq_ok.2 hhosting
  refine ⟨_, bind_eq_ok.2 ⟨orderItem, hfound, rfl⟩, ?_⟩
  have hplan : Bills stored 1 parts.amount _ := bills_item horderItem hamount
  have hsetup : Bills stored 2 parts.setupFee (if 0 < parts.setupFee then
      [⟨orderItem.1, 2, 1, parts.setupFee, parts.setupFee⟩] else []) := by
    split
    · exact bills_item horderItem hsetupFee
    · rw [le_antisymm (not_lt.1 ‹_›) hsetupFee]
      exact bills_nothing
  have htotal : parts.total =
      parts.amount + (parts.setupFee + parts.domainAmount + parts.addOns.sum) := by
    rw [OrderParts.total, OrderParts.hostingTotal]
    omega
  rw [htotal]
  refine hplan.append ((hsetup.append ?_).append ?_)
  · rcases domain_stored hstored with ⟨hdomain, hnone⟩ | ⟨amount, hdomain, entry, hentry, hsome⟩
    · rw [OrderParts.domainAmount, hdomain]
      exact bills_nothing
    · simp only [hdomain, hsome]
      have hposition : [LineAmounts.mk orderItem.1 1 1 parts.amount parts.amount].length = 1 := rfl
      split <;> exact bills_item hentry hdomainAmount
  · convert bills_addOns hpriced hstored _ using 2
    rcases domain_stored hstored with ⟨hdomain, hnone⟩ | ⟨amount, hdomain, entry, hentry, hsome⟩
    · simp only [hdomain, hnone]
      by_cases hpos : 0 < parts.setupFee <;> simp [hpos]
    · simp only [hdomain, hsome]
      by_cases hpos : 0 < parts.setupFee <;> simp [hpos]

theorem inRange_of_mem {amounts : List ℤ} {total : ℤ} (hsum : amounts.sum = total)
    (htotal : total ≤ postgresBigintMax) (hnonneg : ∀ amount ∈ amounts, 0 ≤ amount)
    (hmem : amount ∈ amounts) : inRange amount :=
  ⟨hnonneg amount hmem, (List.single_le_sum hnonneg amount hmem).trans (hsum ▸ htotal)⟩

theorem lineTotal_of_mem (hpriced : parts.priced) {item : ItemAmounts}
    (hitem : item ∈ parts.items) :
    item.quantity = 1 ∧ item.lineTotal = item.unitAmount + item.setupFee ∧
      0 ≤ item.unitAmount ∧ 0 ≤ item.setupFee := by
  simp only [OrderParts.items, List.mem_cons, List.mem_append, List.mem_map, Option.mem_toList]
    at hitem
  rcases hitem with rfl | ⟨amount, hamount, rfl⟩ | ⟨amount, hamount, rfl⟩
  · simp [OrderParts.hostingItem, OrderParts.hostingTotal, hpriced.1.1, hpriced.2.1.1]
  · simp [OrderParts.domainItem, (hpriced.2.2.1 amount hamount).1]
  · simp [OrderParts.addOnItem, (hpriced.2.2.2 amount hamount).1]

theorem place_eq_ok_iff (hpriced : parts.priced)
    (hstored : (stored.map Prod.snd).Perm parts.items) {amounts : OrderAmounts} :
    parts.place stored = .ok amounts ↔ parts.total ≤ postgresBigintMax ∧
      ∃ lines, Bills stored 1 parts.total lines ∧ parts.lines stored = .ok lines ∧
        ⟨parts.amount + parts.domainAmount + parts.addOns.sum, parts.setupFee, parts.total,
          parts.items, parts.total, parts.total, parts.total, lines⟩ = amounts := by
  have hnonneg := hpriced.nonneg
  obtain ⟨lines, hlines, hbills⟩ := lines_of_stored hpriced hstored
  simp only [OrderParts.place, eq_ok, hlines, Except.ok.injEq, exists_eq_left', gt_iff_lt, not_lt]
  constructor
  · rintro ⟨-, htotal, rfl⟩
    exact ⟨htotal, lines, hbills, rfl, rfl⟩
  · rintro ⟨htotal, _, -, rfl, rfl⟩
    refine ⟨?_, htotal, rfl⟩
    rw [OrderParts.total, OrderParts.hostingTotal] at htotal
    omega

/-- **An order conserves money.**  Its total is that of its items, of its invoice and of the lines of
the invoice, which are numbered from one on and refer to items of the order; every amount fits its
column; and an order is refused for its range exactly when its total does not fit. -/
theorem order_conserves_money (hpriced : parts.priced)
    (hstored : (stored.map Prod.snd).Perm parts.items) :
    (∀ amounts, parts.place stored = .ok amounts →
      amounts.total = amounts.subtotal + amounts.setupTotal ∧
      amounts.total = (amounts.items.map ItemAmounts.lineTotal).sum ∧
      amounts.total = amounts.invoiceTotal ∧ amounts.total = amounts.balanceDue ∧
      amounts.total = (amounts.lines.map LineAmounts.lineTotal).sum ∧
      (∀ item ∈ amounts.items,
        item.lineTotal = item.unitAmount * item.quantity + item.setupFee) ∧
      amounts.lines.map LineAmounts.linePosition = List.range' 1 amounts.lines.length ∧
      (∀ line ∈ amounts.lines, ∃ item ∈ amounts.items, (line.orderItemId, item) ∈ stored) ∧
      ∀ value ∈ amounts.written, inRange value) ∧
    ((∃ message, parts.place stored = .error message) ↔ postgresBigintMax < parts.total) := by
  have hnonneg := hpriced.nonneg
  constructor
  · intro amounts hamounts
    obtain ⟨htotal, lines, hbills, -, rfl⟩ := (place_eq_ok_iff hpriced hstored).1 hamounts
    have hsums :
        parts.total = parts.amount + parts.domainAmount + parts.addOns.sum + parts.setupFee := by
      rw [OrderParts.total, OrderParts.hostingTotal]
      omega
    have hitems : ∀ value ∈ parts.items.map ItemAmounts.lineTotal, 0 ≤ value := by
      simp only [List.forall_mem_map]
      intro item hitem
      obtain ⟨-, hline, hunit, hsetup⟩ := lineTotal_of_mem hpriced hitem
      omega
    have hlines : ∀ value ∈ lines.map LineAmounts.lineTotal, 0 ≤ value := by
      simp only [List.forall_mem_map]
      exact fun line hline => (hbills.line line hline).2.2.2
    refine ⟨hsums, (sum_items parts).symm, rfl, rfl, hbills.total.symm, ?_, hbills.positions, ?_, ?_⟩
    · intro item hitem
      obtain ⟨hquantity, hline, -⟩ := lineTotal_of_mem hpriced hitem
      rw [hline, hquantity, mul_one]
    · intro line hline
      obtain ⟨⟨item, hitem⟩, -⟩ := hbills.line line hline
      exact ⟨item, hstored.mem_iff.1 (List.mem_map_of_mem (f := Prod.snd) hitem), hitem⟩
    · simp only [OrderAmounts.written, List.forall_mem_append, List.mem_flatMap, forall_exists_index,
        and_imp, List.mem_cons, List.not_mem_nil, or_false]
      refine ⟨⟨?_, ?_⟩, ?_⟩
      · intro value hvalue
        rw [inRange]
        omega
      · intro value item hitem hvalue
        obtain ⟨-, hline, hunit, hsetup⟩ := lineTotal_of_mem hpriced hitem
        have hfits := inRange_of_mem (sum_items parts) htotal hitems (List.mem_map_of_mem hitem)
        rw [inRange] at hfits ⊢
        omega
      · intro value line hline hvalue
        obtain ⟨-, -, hunit, -⟩ := hbills.line line hline
        have hfits := inRange_of_mem hbills.total htotal hlines (List.mem_map_of_mem hline)
        rw [hunit, or_self] at hvalue
        rwa [hvalue]
  · have hplaced : (∃ amounts, parts.place stored = .ok amounts) ↔
        parts.total ≤ postgresBigintMax := by
      obtain ⟨lines, hlines, hbills⟩ := lines_of_stored hpriced hstored
      simp only [place_eq_ok_iff hpriced hstored, exists_and_left]
      exact ⟨And.left, fun htotal => ⟨htotal, _, lines, hbills, hlines, rfl⟩⟩
    rw [← not_le, ← hplaced]
    cases parts.place stored <;> simp

end

def combinedParts : OrderParts :=
  { amount := 100, setupFee := 20, domain := some 5, addOns := [7, 9] }

def combinedItems : List (RowId × ItemAmounts) :=
  [(3, OrderParts.addOnItem 9), (1, OrderParts.domainItem 5), (0, combinedParts.hostingItem),
    (2, OrderParts.addOnItem 7)]

theorem combined_order_conserves :
    ∃ amounts, combinedParts.place combinedItems = .ok amounts ∧
      141 = (amounts.lines.map LineAmounts.lineTotal).sum := by
  have hconserves := order_conserves_money (by decide : combinedParts.priced)
    (by decide : (combinedItems.map Prod.snd).Perm combinedParts.items)
  exact ⟨_, rfl, (hconserves.1 _ rfl).2.2.2.2.1⟩

/-! ## The amounts of the rows -/

def PlacedItem.amounts (item : PlacedItem) : ItemAmounts :=
  ⟨item.kind, item.unitAmount, item.setupFee, item.quantity, item.lineTotal⟩

def PlacedLine.amounts (line : PlacedLine) : LineAmounts :=
  ⟨line.orderItemId, line.linePosition, line.quantity, line.unitAmount, line.lineTotal⟩

def Selection.parts (selection : Selection) : OrderParts where
  amount := selection.hosting.amount
  setupFee := selection.hosting.setupFee
  domain := selection.domain.map fun domain => domain.quote.sellingAmount
  addOns := selection.addOns.map fun addOn => addOn.2.amount

def storedItems (request : CreateOrderRequest) (selection : Selection) (orderId itemId : ℕ) :
    List (RowId × ItemAmounts) :=
  (createdItems request selection orderId).mapIdx fun index item =>
    (itemId + index, PlacedItem.amounts item)

theorem lines_selection (request : CreateOrderRequest) (selection : Selection)
    (orderId itemId : ℕ) :
    selection.parts.lines (storedItems request selection orderId itemId) =
      .ok ((createdLines selection itemId).map PlacedLine.amounts) := by
  obtain ⟨hosting, addOns, domain⟩ := selection
  have haddOns : ∀ f : ℕ → RowId, ((addOns.map (addOnItem request hosting orderId)).mapIdx
      fun index item => (f index, PlacedItem.amounts item)).filter (fun item => item.2.kind = .addOn) =
      addOns.mapIdx fun index addOn => (f index, OrderParts.addOnItem addOn.2.amount) := by
    intro f
    rw [List.filter_eq_self.2]
    · exact List.ext_getElem (by simp)
        (by simp [PlacedItem.amounts, addOnItem, OrderParts.addOnItem])
    · simp only [List.mem_mapIdx, forall_exists_index]
      rintro _ index hindex rfl
      simp [PlacedItem.amounts, addOnItem]
  have hnoDomain : ∀ f : ℕ → RowId, ((addOns.map (addOnItem request hosting orderId)).mapIdx
      fun index item => (f index, PlacedItem.amounts item)).find? (fun item => item.2.kind = .domain) =
      none := by
    intro f
    simp only [List.find?_eq_none, List.mem_mapIdx, forall_exists_index]
    rintro _ index hindex rfl
    simp [PlacedItem.amounts, addOnItem]
  have hlines : ∀ (f : ℕ → ℕ) (item first : ℕ), (∀ index, f index = item + index) →
      addOnLines first (addOns.mapIdx fun index addOn =>
        (f index, OrderParts.addOnItem addOn.2.amount)) =
      (addOns.mapIdx fun index addOn => placedLine (item + index) (first + index) hosting.currency
        addOn.2.amount).map PlacedLine.amounts := fun f item first hf =>
    List.ext_getElem (by simp [addOnLines])
      (by simp [addOnLines, hf, PlacedLine.amounts, placedLine, OrderParts.addOnItem])
  refine bind_eq_ok.2 ⟨(itemId, PlacedItem.amounts (hostingItem request hosting orderId)), ?_, ?_⟩
  · refine orThrow_eq_ok.2 ?_
    simp [storedItems, createdItems, PlacedItem.amounts, hostingItem]
  rw [pure_eq_ok]
  have hkind : (PlacedItem.amounts (hostingItem request hosting orderId)).kind = .hosting := rfl
  have hnext : ∀ index : ℕ, itemId + (index + 1) = itemId + 1 + index := fun index => by omega
  have hlater : ∀ index : ℕ, itemId + (index + 1 + 1) = itemId + 1 + 1 + index :=
    fun index => by omega
  cases domain with
  | none =>
    by_cases hsetup : 0 < hosting.setupFee <;>
      simp [storedItems, createdItems, List.mapIdx_cons, haddOns, hnoDomain, hkind, Selection.parts,
        createdLines, hsetup]
    · exact ⟨rfl, rfl, hlines (fun index => itemId + (index + 1)) _ _ hnext⟩
    · exact ⟨rfl, hlines (fun index => itemId + (index + 1)) _ _ hnext⟩
  | some domain =>
    have hdomain : (PlacedItem.amounts (DomainService.domainItem domain.quote domain.price
      domain.priceId orderId request.domainAction)).kind = .domain := rfl
    by_cases hsetup : 0 < hosting.setupFee <;>
      simp [storedItems, createdItems, List.mapIdx_cons, haddOns, hkind, hdomain, Selection.parts,
        OrderParts.domainAmount, createdLines, hsetup]
    · exact ⟨rfl, rfl, rfl, hlines (fun index => itemId + (index + 1 + 1)) _ _ hlater⟩
    · exact ⟨rfl, rfl, hlines (fun index => itemId + (index + 1 + 1)) _ _ hlater⟩

/-- **The rows of an order have these amounts**, when its items are stored in their order. -/
theorem place_selection {selection : Selection}
    (hhosting : selection.hosting.amount + selection.hosting.setupFee ≤ postgresBigintMax)
    (htotal : selection.total ≤ postgresBigintMax) (request : CreateOrderRequest)
    (orderId itemId now : ℕ) :
    selection.parts.place (storedItems request selection orderId itemId) =
      .ok ⟨(createdOrder request selection now).subtotal,
        (createdOrder request selection now).setupTotal, (createdOrder request selection now).total,
        (createdItems request selection orderId).map PlacedItem.amounts,
        (createdInvoice request selection orderId itemId now).subtotal,
        (createdInvoice request selection orderId itemId now).total,
        (createdInvoice request selection orderId itemId now).balanceDue,
        (createdInvoice request selection orderId itemId now).items.map PlacedLine.amounts⟩ := by
  have hitems : selection.parts.items =
      (createdItems request selection orderId).map PlacedItem.amounts := by
    have haddOns : ∀ hosting : SellingPrice,
        PlacedItem.amounts ∘ addOnItem request hosting orderId =
          OrderParts.addOnItem ∘ fun addOn : RowId × SellingPrice => addOn.2.amount := fun _ => rfl
    obtain ⟨hosting, addOns, _ | domain⟩ := selection
    · simp only [OrderParts.items, Selection.parts, createdItems, Option.map_none, Option.toList_none,
        List.map_nil, List.nil_append, List.cons_append, List.map_cons, List.map_map, haddOns]
      rfl
    · simp only [OrderParts.items, Selection.parts, createdItems, Option.map_some, Option.toList_some,
        List.map_nil, List.nil_append, List.cons_append, List.map_cons, List.map_map, haddOns]
      rfl
  have hamount : selection.parts.domainAmount = selection.domainAmount := by
    rw [OrderParts.domainAmount, Selection.parts, Selection.domainAmount]
  have hparts : selection.parts.total = selection.total := by
    rw [OrderParts.total, Selection.total, hamount]
    rfl
  refine bind_eq_ok.2 ⟨(), require_true _ ?_, bind_eq_ok.2
    ⟨(), require_true _ ?_, bind_eq_ok.2 ⟨_, lines_selection .., ?_⟩⟩⟩
  · simp only [Selection.parts]
    omega
  · omega
  · rw [pure_eq_ok, hitems, hparts, hamount]
    rfl

/-- A plan with a setup fee, and an add-on. -/
def planWithAddOn : Selection where
  hosting := { productId := 0, kind := .hosting, amount := 100, setupFee := 20 }
  addOns := [(1, { productId := 1, kind := .addOn, amount := 7 })]
  domain := none

def planRequest : CreateOrderRequest where
  fromAdministrator := false
  customerId := 0
  productId := 0
  priceId := 0
  requestedDomain := "example.com"
  submissionKey := "key"
  addOnPriceIds := [1]
  auth := { userId := 0, role := .customer, customerId := some 0 }

theorem planWithAddOn_placed :
    ∃ amounts, planWithAddOn.parts.place (storedItems planRequest planWithAddOn 3 8) = .ok amounts ∧
      amounts.invoiceTotal = 127 :=
  ⟨_, place_selection (by decide) (by decide) planRequest 3 8 0, rfl⟩

end OrderService

end WebhostBilling
