import WebhostBilling.Invoices.InvoiceService

/-!
# The exact totals of an invoice

Every product and sum is checked against the range of a column before it is used.  Amounts are not
negative, so a sum that stays in the range at the end has done so all along: the checks together ask
no more than that the exact values fit.
-/

namespace WebhostBilling

open Store

namespace InvoiceService

/-! ## The values themselves -/

def CalculableItem.gross (item : CalculableItem) : ℤ := item.unitAmount * item.quantity

def CalculableItem.lineTotal (item : CalculableItem) : ℤ :=
  item.gross - item.discountAmount + item.taxAmount

/-- The totals in unbounded arithmetic. -/
def exactTotals (items : List CalculableItem) (creditTotal amountPaid : ℤ) : InvoiceTotals :=
  let subtotal := (items.map CalculableItem.gross).sum
  let discountTotal := (items.map CalculableItem.discountAmount).sum
  let taxTotal := (items.map CalculableItem.taxAmount).sum
  let total := subtotal - discountTotal + taxTotal
  { subtotal, discountTotal, taxTotal, total, creditTotal, amountPaid
    balanceDue := total - creditTotal - amountPaid
    lineTotals := items.map CalculableItem.lineTotal }

def InvoiceTotals.amounts (totals : InvoiceTotals) : List ℤ :=
  [totals.subtotal, totals.discountTotal, totals.taxTotal, totals.total, totals.creditTotal,
    totals.amountPaid, totals.balanceDue] ++ totals.lineTotals

def CalculableItem.amounts (item : CalculableItem) : List ℤ :=
  [item.unitAmount, item.discountAmount, item.taxAmount, item.gross, item.gross - item.discountAmount]

/-- Every amount that the totals are made of. -/
def exactValues (items : List CalculableItem) (creditTotal amountPaid : ℤ) : List ℤ :=
  items.flatMap CalculableItem.amounts ++ (exactTotals items creditTotal amountPaid).amounts

/-- The value fits the column of an amount. -/
def inRange (value : ℤ) : Prop := 0 ≤ value ∧ value ≤ postgresBigintMax
deriving Decidable

def CalculableItem.counted (item : CalculableItem) : Prop :=
  1 ≤ item.quantity ∧ item.quantity ≤ maxSafeInteger
deriving Decidable

/-! ## The constraints of the tables -/

/-- `invoices_amounts_check`, `invoices_total_check`, `invoices_settlement_limit_check` and
`invoices_balance_check`. -/
structure InvoiceTotals.Checks (totals : InvoiceTotals) : Prop where
  amounts : 0 ≤ totals.subtotal ∧ 0 ≤ totals.discountTotal ∧ 0 ≤ totals.taxTotal ∧
    0 ≤ totals.total ∧ 0 ≤ totals.creditTotal ∧ 0 ≤ totals.amountPaid ∧ 0 ≤ totals.balanceDue
  total : totals.total = totals.subtotal - totals.discountTotal + totals.taxTotal
  settlementLimit : totals.creditTotal + totals.amountPaid ≤ totals.total
  balance : totals.balanceDue = totals.total - totals.creditTotal - totals.amountPaid

/-- `invoice_items_quantity_check`, `invoice_items_amounts_check` and `invoice_items_total_check`. -/
structure CalculableItem.Checks (item : CalculableItem) (lineTotal : ℤ) : Prop where
  quantity : 0 < item.quantity
  amounts : 0 ≤ item.unitAmount ∧ 0 ≤ item.discountAmount ∧ 0 ≤ item.taxAmount ∧ 0 ≤ lineTotal
  total : lineTotal = item.unitAmount * item.quantity - item.discountAmount + item.taxAmount

/-! ## What the checks ask -/

variable {items : List CalculableItem} {item : CalculableItem} {sums sums' : RunningTotals}
  {creditTotal amountPaid : ℤ} {totals : InvoiceTotals}

def CalculableItem.fits (item : CalculableItem) : Prop :=
  item.counted ∧ (∀ value ∈ item.amounts, inRange value) ∧ inRange item.lineTotal

theorem gross_le_iff (hquantity : 1 ≤ item.quantity) (hunit : 0 ≤ item.unitAmount) :
    (0 < item.unitAmount → item.quantity ≤ postgresBigintMax / item.unitAmount) ↔
      item.unitAmount ≤ postgresBigintMax ∧ item.gross ≤ postgresBigintMax := by
  rcases hunit.eq_or_lt with hzero | hpos
  · simp [CalculableItem.gross, ← hzero, postgresBigintMax]
  · have hunit_le : item.unitAmount ≤ item.gross := le_mul_of_one_le_right hunit hquantity
    rw [Int.le_ediv_iff_mul_le hpos, mul_comm, ← CalculableItem.gross]
    constructor
    · intro hle
      exact ⟨hunit_le.trans (hle hpos), hle hpos⟩
    · exact fun hle _ => hle.2

theorem fits_iff : item.fits ↔ item.counted ∧
    (0 ≤ item.unitAmount ∧ 0 ≤ item.discountAmount ∧ 0 ≤ item.taxAmount) ∧
    (item.unitAmount ≤ postgresBigintMax ∧ item.gross ≤ postgresBigintMax) ∧
    item.discountAmount ≤ item.gross ∧ item.lineTotal ≤ postgresBigintMax := by
  simp only [CalculableItem.fits, CalculableItem.amounts, List.forall_mem_cons, List.not_mem_nil,
    false_implies, implies_true, inRange, and_true, CalculableItem.lineTotal,
    CalculableItem.counted]
  constructor <;> intro h <;> omega

theorem addItem_eq_ok_iff : addItem sums item = .ok sums' ↔ item.fits ∧
    sums.subtotal + item.gross ≤ postgresBigintMax ∧
    sums.discountTotal + item.discountAmount ≤ postgresBigintMax ∧
    sums.taxTotal + item.taxAmount ≤ postgresBigintMax ∧
    sums' = ⟨sums.subtotal + item.gross, sums.discountTotal + item.discountAmount,
      sums.taxTotal + item.taxAmount, sums.lineTotals ++ [item.lineTotal]⟩ := by
  simp only [addItem, eq_ok, checkedAdd_eq_ok, fits_iff]
  rw [← CalculableItem.gross]
  constructor
  · rintro ⟨hquantity, hamounts, hgross, hdiscount, line, ⟨hline, rfl⟩, subtotal, ⟨hsub, rfl⟩,
      discountTotal, ⟨hdisc, rfl⟩, taxTotal, ⟨htax, rfl⟩, rfl⟩
    have hfits := (gross_le_iff hquantity.1 hamounts.1).1 hgross
    rw [CalculableItem.lineTotal]
    exact ⟨⟨hquantity, hamounts, hfits, hdiscount, by omega⟩, by omega, by omega, by omega, rfl⟩
  · rintro ⟨⟨hquantity, hamounts, hfits, hdiscount, hline⟩, hsub, hdisc, htax, rfl⟩
    have hgross := (gross_le_iff hquantity.1 hamounts.1).2 hfits
    rw [CalculableItem.lineTotal] at hline
    exact ⟨hquantity, hamounts, hgross, hdiscount, _, ⟨by omega, rfl⟩, _, ⟨by omega, rfl⟩, _,
      ⟨by omega, rfl⟩, _, ⟨by omega, rfl⟩, rfl⟩

theorem sums_nonneg (hfits : ∀ item ∈ items, item.fits) :
    0 ≤ (items.map CalculableItem.gross).sum ∧
      0 ≤ (items.map CalculableItem.discountAmount).sum ∧
      0 ≤ (items.map CalculableItem.taxAmount).sum ∧
      (items.map CalculableItem.discountAmount).sum ≤ (items.map CalculableItem.gross).sum := by
  induction items with
  | nil => simp
  | cons item items ih =>
    have hitem := fits_iff.1 (hfits item (List.mem_cons_self ..))
    have hitems := ih fun item h => hfits item (List.mem_cons_of_mem _ h)
    simp only [List.map_cons, List.sum_cons]
    omega

theorem foldlM_addItem_eq_ok_iff : items.foldlM addItem sums = .ok sums' ↔
    (∀ item ∈ items, item.fits) ∧
      (items ≠ [] → sums.subtotal + (items.map CalculableItem.gross).sum ≤ postgresBigintMax ∧
        sums.discountTotal + (items.map CalculableItem.discountAmount).sum ≤ postgresBigintMax ∧
        sums.taxTotal + (items.map CalculableItem.taxAmount).sum ≤ postgresBigintMax) ∧
      sums' = ⟨sums.subtotal + (items.map CalculableItem.gross).sum,
        sums.discountTotal + (items.map CalculableItem.discountAmount).sum,
        sums.taxTotal + (items.map CalculableItem.taxAmount).sum,
        sums.lineTotals ++ items.map CalculableItem.lineTotal⟩ := by
  induction items generalizing sums with
  | nil =>
    rw [List.foldlM_nil, pure_eq_ok]
    simp [eq_comm]
  | cons item items ih =>
    simp only [List.foldlM_cons, bind_eq_ok, addItem_eq_ok_iff, List.forall_mem_cons, List.map_cons,
      List.sum_cons, ne_eq, reduceCtorEq, not_false_eq_true, forall_const]
    constructor
    · rintro ⟨_, ⟨hitem, hsub, hdisc, htax, rfl⟩, hrest⟩
      obtain ⟨hitems, hsums, rfl⟩ := ih.1 hrest
      refine ⟨⟨hitem, hitems⟩, ?_, by simp [add_assoc]⟩
      by_cases hnil : items = []
      · simpa [hnil] using ⟨hsub, hdisc, htax⟩
      · have := hsums hnil
        simp only at this
        omega
    · rintro ⟨⟨hitem, hitems⟩, hsums, rfl⟩
      have hrest := sums_nonneg hitems
      refine ⟨_, ⟨hitem, by omega, by omega, by omega, rfl⟩, ih.2 ⟨hitems, fun _ => ?_, ?_⟩⟩
      · simp only
        omega
      · simp [add_assoc]

theorem exactValues_inRange_iff :
    ((∀ item ∈ items, item.counted) ∧
      ∀ value ∈ exactValues items creditTotal amountPaid, inRange value) ↔
    (∀ item ∈ items, item.fits) ∧
      inRange (exactTotals items creditTotal amountPaid).subtotal ∧
      inRange (exactTotals items creditTotal amountPaid).discountTotal ∧
      inRange (exactTotals items creditTotal amountPaid).taxTotal ∧
      inRange (exactTotals items creditTotal amountPaid).total ∧
      inRange creditTotal ∧ inRange amountPaid ∧
      inRange (exactTotals items creditTotal amountPaid).balanceDue := by
  simp only [exactValues, InvoiceTotals.amounts, List.forall_mem_append, List.forall_mem_cons,
    List.mem_flatMap, forall_exists_index, and_imp, exactTotals, List.forall_mem_map,
    List.not_mem_nil, false_implies, implies_true, and_true, CalculableItem.fits]
  constructor
  · rintro ⟨hcounted, hamounts, htotals, hlines⟩
    exact ⟨fun item hitem => ⟨hcounted item hitem, fun value => hamounts value item hitem,
      hlines item hitem⟩, htotals⟩
  · rintro ⟨hfits, htotals⟩
    exact ⟨fun item hitem => (hfits item hitem).1,
      fun value item hitem => (hfits item hitem).2.1 value, htotals,
      fun item hitem => (hfits item hitem).2.2⟩

theorem calculateInvoiceTotals_eq_ok_iff :
    calculateInvoiceTotals items creditTotal amountPaid = .ok totals ↔
      items ≠ [] ∧ ((∀ item ∈ items, item.counted) ∧
        ∀ value ∈ exactValues items creditTotal amountPaid, inRange value) ∧
        totals = exactTotals items creditTotal amountPaid := by
  simp only [calculateInvoiceTotals, eq_ok, checkedAdd_eq_ok, foldlM_addItem_eq_ok_iff,
    exactValues_inRange_iff, zero_add, List.nil_append]
  constructor
  · rintro ⟨hitems, sums, ⟨hfits, hsums, rfl⟩, total, ⟨htotal, rfl⟩, hsettled, settled,
      ⟨-, rfl⟩, hbalance, rfl⟩
    have hnonneg := sums_nonneg hfits
    have := hsums hitems
    refine ⟨hitems, ⟨hfits, ?_⟩, ?_⟩
    · simp only [inRange, exactTotals] at *
      omega
    · simp [exactTotals, sub_sub]
  · rintro ⟨hitems, ⟨hfits, hranges⟩, rfl⟩
    simp only [inRange, exactTotals] at hranges
    refine ⟨hitems, _, ⟨hfits, fun _ => by omega, rfl⟩, _, ⟨?_, rfl⟩, by omega, _, ⟨?_, rfl⟩, ?_, ?_⟩
    · simp only
      omega
    · omega
    · simp only
      omega
    · simp [exactTotals, sub_sub]

theorem sum_lineTotals (items : List CalculableItem) (creditTotal amountPaid : ℤ) :
    (exactTotals items creditTotal amountPaid).lineTotals.sum =
      (exactTotals items creditTotal amountPaid).total := by
  simp only [exactTotals]
  induction items with
  | nil => simp
  | cons item items ih =>
    simp only [List.map_cons, List.sum_cons, ih, CalculableItem.lineTotal]
    omega

/-- Totals whose amounts fit pass the constraints of `invoices`. -/
theorem exactTotals_checks
    (h : ∀ value ∈ exactValues items creditTotal amountPaid, inRange value) :
    (exactTotals items creditTotal amountPaid).Checks := by
  simp only [exactValues, InvoiceTotals.amounts, List.forall_mem_append, List.forall_mem_cons,
    inRange] at h
  refine ⟨by omega, rfl, ?_, rfl⟩
  have hbalance : 0 ≤ (exactTotals items creditTotal amountPaid).total - creditTotal - amountPaid :=
    h.2.1.2.2.2.2.2.2.1.1
  show creditTotal + amountPaid ≤ _
  omega

/-- An item that fits passes the constraints of `invoice_items`. -/
theorem CalculableItem.fits.checks (h : item.fits) : item.Checks item.lineTotal := by
  have hline : 0 ≤ item.lineTotal := h.2.2.1
  obtain ⟨hcounted, hamounts, -⟩ := fits_iff.1 h
  exact ⟨hcounted.1, ⟨hamounts.1, hamounts.2.1, hamounts.2.2, hline⟩, rfl⟩

/-- **The totals of an invoice are exact.**  Totals that are calculated are the sums of the items,
every amount of them fits its column and passes the constraints of the tables; and none are
calculated exactly when there is no item, a quantity counts nothing or is not a safe integer, or an
exact value does not fit. -/
theorem totals_exact (items : List CalculableItem) (creditTotal amountPaid : ℤ) :
    (∀ totals, calculateInvoiceTotals items creditTotal amountPaid = .ok totals →
      totals = exactTotals items creditTotal amountPaid ∧
      totals.lineTotals.sum = totals.total ∧
      totals.balanceDue = totals.total - creditTotal - amountPaid ∧
      (∀ value ∈ totals.amounts, inRange value) ∧ totals.Checks ∧
      ∀ entry ∈ items.zip totals.lineTotals, entry.1.Checks entry.2) ∧
    ((∃ message, calculateInvoiceTotals items creditTotal amountPaid = .error message) ↔
      items = [] ∨ (∃ item ∈ items, ¬ item.counted) ∨
        ∃ value ∈ exactValues items creditTotal amountPaid, ¬ inRange value) := by
  constructor
  · intro totals htotals
    obtain ⟨-, hvalues, rfl⟩ := calculateInvoiceTotals_eq_ok_iff.1 htotals
    have hfits := (exactValues_inRange_iff.1 hvalues).1
    refine ⟨rfl, sum_lineTotals items creditTotal amountPaid, rfl, fun value hvalue =>
      hvalues.2 value (List.mem_append_right _ hvalue), exactTotals_checks hvalues.2, ?_⟩
    intro entry hentry
    simp only [exactTotals, ← List.map_prod_left_eq_zip, List.mem_map] at hentry
    obtain ⟨item, hitem, rfl⟩ := hentry
    exact (hfits item hitem).checks
  · have hok : (∃ message, calculateInvoiceTotals items creditTotal amountPaid = .error message) ↔
        ¬ ∃ totals, calculateInvoiceTotals items creditTotal amountPaid = .ok totals := by
      cases calculateInvoiceTotals items creditTotal amountPaid <;> simp
    simp only [hok, calculateInvoiceTotals_eq_ok_iff, exists_and_left, exists_eq, and_true,
      not_and_or, not_forall, exists_prop, not_not]

/-- An invoice without items is refused, although its totals would all be zero. -/
theorem no_items_refused :
    ¬ ∀ items creditTotal amountPaid,
      (∃ message, calculateInvoiceTotals items creditTotal amountPaid = .error message) ↔
        ∃ value ∈ exactValues items creditTotal amountPaid, ¬ inRange value := by
  intro hall
  obtain ⟨value, hmem, hvalue⟩ := (hall [] 0 0).1 ⟨_, rfl⟩
  exact hvalue ((by decide : ∀ value ∈ exactValues [] 0 0, inRange value) value hmem)

end InvoiceService

end WebhostBilling
