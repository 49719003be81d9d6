import WebhostBilling.Database.Rows

/-!
# The renewal calendar

A moment is a number of milliseconds since the beginning of 1970, in UTC.  `addBillingPeriod` moves
it by whole months: to the same day of the target month, or to that month's last day when it has
fewer days.  `civilFromDay` walks over the months up to the one a day is in.
-/

namespace WebhostBilling

namespace RenewalCalendar

def millisecondsPerDay : ℕ := 86400000

/-! ## Months -/

def leapYear (year : ℕ) : Bool :=
  (year % 4 = 0 ∧ year % 100 ≠ 0) ∨ year % 400 = 0

def monthLength (month : ℕ) : ℕ :=
  match month % 12 with
  | 1 => if leapYear (1970 + month / 12) then 29 else 28
  | 3 | 5 | 8 | 10 => 30
  | _ => 31

theorem monthLength_pos (month : ℕ) : 0 < monthLength month := by
  unfold monthLength
  split
  · split <;> omega
  all_goals omega

def monthStart : ℕ → ℕ
  | 0 => 0
  | month + 1 => monthStart month + monthLength month

theorem monthStart_mono {month month' : ℕ} (h : month ≤ month') :
    monthStart month ≤ monthStart month' := by
  induction h with
  | refl => exact Nat.le_refl _
  | @step n _ ih =>
    rw [monthStart]
    omega

structure CivilDay where
  month : ℕ
  day : ℕ

/-- Walk over the months, beginning with `month`, to the one the day is in. -/
def civilFrom : ℕ → ℕ → ℕ → CivilDay
  | 0, month, day => ⟨month, day⟩
  | fuel + 1, month, day =>
    if day < monthLength month then ⟨month, day⟩
    else civilFrom fuel (month + 1) (day - monthLength month)

/-- `getUTCFullYear`, `getUTCMonth` and `getUTCDate` of a day, as its month and its day. -/
def civilFromDay (day : ℕ) : CivilDay := civilFrom day 0 day

theorem civilFrom_spec {fuel month day : ℕ} (h : day ≤ fuel) :
    monthStart (civilFrom fuel month day).month + (civilFrom fuel month day).day =
        monthStart month + day ∧
      (civilFrom fuel month day).day < monthLength (civilFrom fuel month day).month := by
  induction fuel generalizing month day with
  | zero =>
    have hzero : day = 0 := by omega
    subst hzero
    exact ⟨rfl, monthLength_pos month⟩
  | succ fuel ih =>
    have hpos := monthLength_pos month
    rw [civilFrom]
    split
    · rename_i hday
      exact ⟨rfl, hday⟩
    · obtain ⟨hsum, hlt⟩ := @ih (month + 1) (day - monthLength month) (by omega)
      refine ⟨?_, hlt⟩
      rw [hsum, monthStart]
      omega

theorem civilFromDay_spec (day : ℕ) :
    monthStart (civilFromDay day).month + (civilFromDay day).day = day ∧
      (civilFromDay day).day < monthLength (civilFromDay day).month := by
  obtain ⟨hsum, hlt⟩ := @civilFrom_spec day 0 day (Nat.le_refl day)
  refine ⟨?_, hlt⟩
  rw [civilFromDay, hsum, monthStart, Nat.zero_add]

/-! ## Billing periods -/

def periodMonths : BillingPeriod → ℕ
  | .monthly => 1
  | .quarterly => 3
  | .annual => 12
  | _ => 0

def addMonths (months : ℕ) (civil : CivilDay) : CivilDay where
  month := civil.month + months
  day := min civil.day (monthLength (civil.month + months) - 1)

def addBillingPeriod (value : ℕ) (billingPeriod : BillingPeriod) : ℕ :=
  let civil := addMonths (periodMonths billingPeriod) (civilFromDay (value / millisecondsPerDay))
  (monthStart civil.month + civil.day) * millisecondsPerDay + value % millisecondsPerDay

/-- `nextServiceDueAt`: the API repeats the worker's function for the first period of a service. -/
def nextServiceDueAt (startedAt : ℕ) (billingPeriod : BillingPeriod) : ℕ :=
  addBillingPeriod startedAt billingPeriod

theorem lt_addBillingPeriod {value : ℕ} {billingPeriod : BillingPeriod}
    (h : 0 < periodMonths billingPeriod) : value < addBillingPeriod value billingPeriod := by
  have hdiv := Nat.div_add_mod' value millisecondsPerDay
  obtain ⟨hday, hlt⟩ := civilFromDay_spec (value / millisecondsPerDay)
  -- The target month starts after the month of the day has ended.
  have hmonth : monthStart ((civilFromDay (value / millisecondsPerDay)).month + 1) ≤
      monthStart ((civilFromDay (value / millisecondsPerDay)).month + periodMonths billingPeriod) :=
    monthStart_mono (by omega)
  rw [monthStart] at hmonth
  have hnext : value / millisecondsPerDay + 1 ≤
      monthStart ((civilFromDay (value / millisecondsPerDay)).month + periodMonths billingPeriod) := by
    omega
  have hms := Nat.mul_le_mul_right millisecondsPerDay hnext
  rw [Nat.add_mul, Nat.one_mul] at hms
  simp only [addBillingPeriod, addMonths, Nat.add_mul]
  have hpos : 0 < millisecondsPerDay := by decide
  omega

example : addBillingPeriod (760 * millisecondsPerDay + 5) .monthly =
    789 * millisecondsPerDay + 5 := by decide +kernel

end RenewalCalendar

end WebhostBilling
