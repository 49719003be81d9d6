import WebhostBilling.Renewal.ServicePeriods

/-!
# The aging of overdue invoices

The buckets of the aging report are ranges of days; each is turned into a range of moments.
-/

namespace WebhostBilling

namespace Reports

open RenewalCalendar (CivilDay monthLength monthStart monthStart_mono civilFromDay_spec
  millisecondsPerDay)
open ServicePeriods (civilDay makeDay makeDay_of cycles_of_nonneg)

/-- What `invoiceAgingFilterSchema` accepts as a date: one of the calendar, from 1900 on. -/
structure AsOfDate extends CivilDay where
  valid : day < monthLength month
  since1900 : 23160 ≤ month

/-- `date.split('-')`, and the text of the date that many days later. -/
def addCalendarDays (date : CivilDay) (days : ℤ) : CivilDay :=
  civilDay (makeDay (date.month / 12 - 30) (date.month % 12) (date.day + 1 + days))

def dayNumber (date : CivilDay) : ℤ := monthStart date.month - 730485 + date.day

/-- `new Date` of the text of a date and `T00:00:00.000Z`. -/
def midnight (date : CivilDay) : ℤ := dayNumber date * millisecondsPerDay

/-- The identifiers of `invoiceAgingBuckets`. -/
inductive AgingBucket
  | days1To30
  | days31To60
  | days61To90
  | days91Plus
deriving DecidableEq

namespace AgingBucket

def minimumDays : AgingBucket → ℤ
  | days1To30 => 1
  | days31To60 => 31
  | days61To90 => 61
  | days91Plus => 91

def maximumDays : AgingBucket → Option ℤ
  | days1To30 => some 30
  | days31To60 => some 60
  | days61To90 => some 90
  | days91Plus => none

/-- The days are in the range of the bucket. -/
def Contains (bucket : AgingBucket) (days : ℤ) : Prop :=
  bucket.minimumDays ≤ days ∧ ∀ maximum ∈ bucket.maximumDays, days ≤ maximum

end AgingBucket

def invoiceAgingBuckets : List AgingBucket := [.days1To30, .days31To60, .days61To90, .days91Plus]

structure LedgerInvoice where
  status : InvoiceStatus
  currency : String
  balanceDue : ℤ
  dueAt : ℤ

def invoiceAgingWhere (agingBucket : AgingBucket) (agingAsOf : CivilDay) (agingCurrency : String)
    (invoice : LedgerInvoice) : Bool :=
  invoice.status = .overdue ∧ invoice.currency = agingCurrency ∧ 0 < invoice.balanceDue ∧
    invoice.dueAt < midnight (addCalendarDays agingAsOf (1 - agingBucket.minimumDays)) ∧
    agingBucket.maximumDays.all fun maximum =>
      midnight (addCalendarDays agingAsOf (-maximum)) ≤ invoice.dueAt

def invoiceAging (asOf : CivilDay) (currency : String) (invoices : List LedgerInvoice) :
    List (ℤ × ℤ) :=
  invoiceAgingBuckets.map fun bucket =>
    let matched := invoices.filter (invoiceAgingWhere bucket asOf currency)
    (matched.length, (matched.map LedgerInvoice.balanceDue).sum)

variable (asOf : AsOfDate) (currency : String)

def daysOverdue (invoice : LedgerInvoice) : ℤ :=
  dayNumber asOf.toCivilDay - invoice.dueAt / millisecondsPerDay

/-- An overdue invoice with a balance, a day late at least. -/
def Aging (invoice : LedgerInvoice) : Prop :=
  invoice.status = .overdue ∧ invoice.currency = currency ∧ 0 < invoice.balanceDue ∧
    0 < daysOverdue asOf invoice
deriving Decidable

theorem midnight_addCalendarDays {days : ℤ} (h : -90 ≤ days) :
    midnight (addCalendarDays asOf.toCivilDay days) =
      (dayNumber asOf.toCivilDay + days) * millisecondsPerDay := by
  have hlate := asOf.since1900
  have hstart := monthStart_mono (show 4 ≤ asOf.month by omega)
  rw [show monthStart 4 = 120 by decide] at hstart
  have hmake := makeDay_of (show 1560 ≤ asOf.month by omega) 0 (asOf.day + 1 + days)
  obtain ⟨hsum, -⟩ := civilFromDay_spec
    (monthStart asOf.month - 730485 + (asOf.day + 1 + days - 1) + 730485 + 146097 * (0 : ℕ) : ℤ).toNat
  simp only [Nat.cast_zero, Int.add_zero, Nat.add_zero] at hmake
  rw [midnight, addCalendarDays, hmake, civilDay, cycles_of_nonneg (by omega) (by decide), dayNumber,
    dayNumber]
  congr 1
  omega

def AgingBucket.ofDays (days : ℤ) : AgingBucket :=
  if days ≤ 30 then .days1To30 else if days ≤ 60 then .days31To60
  else if days ≤ 90 then .days61To90 else .days91Plus

theorem AgingBucket.contains_iff {days : ℤ} (h : 0 < days) (bucket : AgingBucket) :
    bucket.Contains days ↔ bucket = ofDays days := by
  rw [Contains, ofDays]
  cases bucket <;> simp only [minimumDays, maximumDays, Option.mem_def, Option.some.injEq,
    reduceCtorEq, false_implies, implies_true, forall_eq'] <;> split_ifs <;> simp <;> omega

theorem invoiceAgingWhere_iff (bucket : AgingBucket) (invoice : LedgerInvoice) :
    invoiceAgingWhere bucket asOf.toCivilDay currency invoice = true ↔
      Aging asOf currency invoice ∧ bucket.Contains (daysOverdue asOf invoice) := by
  rw [invoiceAgingWhere, decide_eq_true_eq, Aging, AgingBucket.Contains, daysOverdue]
  cases bucket <;>
    simp (disch := decide) only [AgingBucket.minimumDays, AgingBucket.maximumDays, Option.all_some,
      Option.all_none, decide_eq_true_eq, Option.mem_def, Option.some.injEq, reduceCtorEq,
      false_implies, implies_true, forall_eq', midnight_addCalendarDays,
      and_assoc, and_true, show (millisecondsPerDay : ℤ) = 86400000 from rfl] <;>
    exact and_congr_right fun _ => and_congr_right fun _ => and_congr_right fun _ => by omega

theorem invoiceAgingWhere_eq (invoice : LedgerInvoice) (bucket : AgingBucket) :
    invoiceAgingWhere bucket asOf.toCivilDay currency invoice = decide
      (Aging asOf currency invoice ∧ bucket = .ofDays (daysOverdue asOf invoice)) := by
  rw [Bool.eq_iff_iff, decide_eq_true_eq, invoiceAgingWhere_iff]
  exact and_congr_right fun h => AgingBucket.contains_iff h.2.2.2 bucket

theorem sum_buckets (weight : LedgerInvoice → ℤ) (invoices : List LedgerInvoice) :
    (invoiceAgingBuckets.map fun bucket => ((invoices.filter
        (invoiceAgingWhere bucket asOf.toCivilDay currency)).map weight).sum).sum =
      ((invoices.filter (Aging asOf currency ·)).map weight).sum := by
  induction invoices with
  | nil => rfl
  | cons invoice invoices ih =>
    simp only [invoiceAgingBuckets, List.map_cons, List.map_nil, List.sum_cons, List.sum_nil,
      List.filter_cons, invoiceAgingWhere_eq, decide_eq_true_eq] at ih ⊢
    by_cases h : Aging asOf currency invoice
    · cases AgingBucket.ofDays (daysOverdue asOf invoice) <;>
        simp only [h, reduceCtorEq, and_true, and_false, if_true, if_false, List.map_cons,
          List.sum_cons] <;>
        omega
    · simpa only [h, false_and, if_false] using ih

theorem mem_invoiceAgingBuckets (bucket : AgingBucket) : bucket ∈ invoiceAgingBuckets := by
  cases bucket <;> decide

/-- **The buckets partition the overdue ledger.** -/
theorem aging_partitioned (invoices : List LedgerInvoice) :
    (∀ invoice, Aging asOf currency invoice → ∃ bucket ∈ invoiceAgingBuckets,
      bucket.Contains (daysOverdue asOf invoice) ∧ ∀ other ∈ invoiceAgingBuckets,
        invoiceAgingWhere other asOf.toCivilDay currency invoice = true ↔ other = bucket) ∧
    (∀ invoice, ∀ bucket ∈ invoiceAgingBuckets,
      invoiceAgingWhere bucket asOf.toCivilDay currency invoice = true →
        Aging asOf currency invoice) ∧
    ((invoiceAging asOf.toCivilDay currency invoices).map Prod.fst).sum =
      (invoices.filter (Aging asOf currency ·)).length ∧
    ((invoiceAging asOf.toCivilDay currency invoices).map Prod.snd).sum =
      ((invoices.filter (Aging asOf currency ·)).map LedgerInvoice.balanceDue).sum := by
  refine ⟨fun invoice h => ⟨.ofDays (daysOverdue asOf invoice), mem_invoiceAgingBuckets _,
    (AgingBucket.contains_iff h.2.2.2 _).2 rfl, fun other _ => ?_⟩,
    fun invoice bucket _ h => ((invoiceAgingWhere_iff asOf currency bucket invoice).1 h).1, ?_, ?_⟩
  · rw [invoiceAgingWhere_eq, decide_eq_true_eq, and_iff_right h]
  · have hlength : ∀ l : List LedgerInvoice, (l.map fun _ => (1 : ℤ)).sum = l.length := by simp
    have hcount := sum_buckets asOf currency (fun _ => 1) invoices
    simp only [hlength] at hcount
    rw [invoiceAging, List.map_map]
    exact hcount
  · rw [invoiceAging, List.map_map]
    exact sum_buckets asOf currency LedgerInvoice.balanceDue invoices

/-- 31 March 2026, and an invoice that was due 45 days before. -/
def marchEnd : AsOfDate := ⟨⟨24674, 30⟩, by decide, by decide⟩

def overdueInvoice : LedgerInvoice where
  status := .overdue
  currency := "BDT"
  balanceDue := 500
  dueAt := (dayNumber marchEnd.toCivilDay - 45) * millisecondsPerDay

theorem overdueInvoice_aging :
    ∃ bucket ∈ invoiceAgingBuckets, bucket.Contains 45 ∧ ∀ other ∈ invoiceAgingBuckets,
      invoiceAgingWhere other marchEnd.toCivilDay "BDT" overdueInvoice = true ↔ other = bucket := by
  have hdays : daysOverdue marchEnd overdueInvoice = 45 := by
    rw [daysOverdue, overdueInvoice, Int.mul_ediv_cancel _ (by decide)]
    omega
  have haging : Aging marchEnd "BDT" overdueInvoice := ⟨rfl, rfl, by decide, by rw [hdays]; decide⟩
  have hbucket := (aging_partitioned marchEnd "BDT" [overdueInvoice]).1 overdueInvoice haging
  rwa [hdays] at hbucket

end Reports

end WebhostBilling
