import WebhostBilling.Renewal.RenewalCalendar

/-!
# The periods of a service

A `Date` is any number of milliseconds since 1970, and its months are counted from January of the
year -30: the Gregorian calendar repeats itself after 400 years, so before that a day is found a
number of such cycles later.
-/

namespace WebhostBilling

namespace ServicePeriods

open RenewalCalendar (leapYear monthLength monthStart CivilDay civilFromDay civilFromDay_spec periodMonths
  millisecondsPerDay monthStart_mono)

/-! ## Dates -/

/-- How many cycles lie between an index before the year -30 and the first one that begins then. -/
def cycles (index length : ℤ) : ℕ := (-(index / length)).toNat

/-- The day of the calendar; in whole cycles later, when it comes before the year -30. -/
def civilDay (day : ℤ) : CivilDay :=
  civilFromDay (day + 730485 + 146097 * cycles (day + 730485) 146097).toNat

def civil (value : ℤ) : CivilDay := civilDay (value / millisecondsPerDay)

def getUTCFullYear (value : ℤ) : ℤ :=
  (civil value).month / 12 - 30 - 400 * cycles (value / millisecondsPerDay + 730485) 146097

def getUTCMonth (value : ℤ) : ℤ := (civil value).month % 12

def getUTCDate (value : ℤ) : ℤ := (civil value).day + 1

/-- `getUTCHours`, `getUTCMinutes`, `getUTCSeconds` and `getUTCMilliseconds`, in milliseconds. -/
def timeOfDay (value : ℤ) : ℤ := value % millisecondsPerDay

/-- The number of days that `Date.UTC` makes of its first three arguments; the years from 0 to 99
are of the twentieth century. -/
def makeDay (year month date : ℤ) : ℤ :=
  let fullYear := if 0 ≤ year ∧ year ≤ 99 then 1900 + year else year
  let index := (fullYear + 30) * 12 + month
  monthStart (index + 4800 * cycles index 4800).toNat - 146097 * cycles index 4800 - 730485 +
    (date - 1)

/-- `new Date`, when the moment is one that a `Date` can have. -/
def newDate (value : ℤ) : Option ℤ :=
  if -8640000000000000 ≤ value ∧ value ≤ 8640000000000000 then some value else none

/-! ## Billing periods -/

/-- `addBillingPeriod` of the worker; an invalid date makes what is computed from it invalid. -/
def addBillingPeriod (value : ℤ) (billingPeriod : BillingPeriod) : Option ℤ := do
  let targetMonth := getUTCMonth value + periodMonths billingPeriod
  let targetYear := getUTCFullYear value + targetMonth / 12
  let normalizedMonth := (targetMonth % 12 + 12) % 12
  let last ← newDate (makeDay targetYear (normalizedMonth + 1) 0 * millisecondsPerDay)
  newDate (makeDay targetYear normalizedMonth (min (getUTCDate value) (getUTCDate last)) *
    millisecondsPerDay + timeOfDay value)

/-- `nextServiceDueAt` of the API. -/
def nextServiceDueAt (startedAt : ℤ) (billingPeriod : BillingPeriod) : Option ℤ := do
  let months := periodMonths billingPeriod
  let targetMonth := getUTCMonth startedAt + months
  let targetYear := getUTCFullYear startedAt + targetMonth / 12
  let normalizedMonth := targetMonth % 12
  let last ← newDate (makeDay targetYear (normalizedMonth + 1) 0 * millisecondsPerDay)
  newDate (makeDay targetYear normalizedMonth (min (getUTCDate startedAt) (getUTCDate last)) *
    millisecondsPerDay + timeOfDay startedAt)

theorem nextServiceDueAt_eq (value : ℤ) (billingPeriod : BillingPeriod) :
    nextServiceDueAt value billingPeriod = addBillingPeriod value billingPeriod := by
  have hmonth : ∀ month : ℤ, (month % 12 + 12) % 12 = month % 12 := by omega
  simp only [nextServiceDueAt, addBillingPeriod, hmonth]

/-- The successive ends of `n` monthly periods. -/
def monthlyPeriods (value : ℤ) : ℕ → Option ℤ
  | 0 => some value
  | n + 1 => (monthlyPeriods value n).bind (addBillingPeriod · .monthly)

/-! ## Months -/

theorem civilFromDay_of {month day : ℕ} (h : day < monthLength month) :
    civilFromDay (monthStart month + day) = ⟨month, day⟩ := by
  obtain ⟨hsum, hlt⟩ := civilFromDay_spec (monthStart month + day)
  have hapart : ∀ {m m' d d' : ℕ}, m < m' → d < monthLength m →
      monthStart m + d ≠ monthStart m' + d' := by
    intro m m' d d' hm hd
    have hmono := monthStart_mono (Nat.succ_le_of_lt hm)
    rw [monthStart] at hmono
    omega
  generalize civilFromDay (monthStart month + day) = c at hsum hlt
  obtain ⟨month', day'⟩ := c
  rcases Nat.lt_trichotomy month month' with hm | rfl | hm
  · exact absurd hsum.symm (hapart hm h)
  · exact congrArg _ (Nat.add_left_cancel hsum)
  · exact absurd hsum (hapart hm hlt)

theorem cycles_of_nonneg {index length : ℤ} (h : 0 ≤ index) (hlength : 0 ≤ length) :
    cycles index length = 0 := by
  have := Int.ediv_nonneg h hlength
  rw [cycles]
  omega

variable {value : ℤ} {month day : ℕ} {billingPeriod : BillingPeriod}

theorem civil_of (h : day < monthLength month) {time : ℤ} (htime : 0 ≤ time)
    (hlt : time < millisecondsPerDay) :
    civil (((monthStart month : ℤ) - 730485 + day) * millisecondsPerDay + time) = ⟨month, day⟩ := by
  rw [civil, Int.mul_comm, Int.mul_add_ediv_left _ _ (by decide), Int.ediv_eq_zero_of_lt htime hlt,
    Int.add_zero, civilDay, cycles_of_nonneg (by omega) (by decide), ← civilFromDay_of h]
  congr 1
  omega

/-- Every day of a `Date` is split into the days before its month and those within it. -/
theorem civil_sum (value : ℤ) :
    (monthStart (civil value).month : ℤ) + (civil value).day -
        146097 * cycles (value / millisecondsPerDay + 730485) 146097 - 730485 =
      value / millisecondsPerDay := by
  obtain ⟨hsum, -⟩ := civilFromDay_spec (value / millisecondsPerDay + 730485 +
    146097 * cycles (value / millisecondsPerDay + 730485) 146097).toNat
  have hindex := Int.mul_ediv_add_emod (value / millisecondsPerDay + 730485) 146097
  have hmod := Int.emod_nonneg (value / millisecondsPerDay + 730485) (by decide : (146097 : ℤ) ≠ 0)
  rw [civil, civilDay]
  rw [cycles] at hsum ⊢
  omega

theorem civil_day_lt (value : ℤ) : (civil value).day < monthLength (civil value).month :=
  (civilFromDay_spec _).2

theorem monthStart_cycle (month : ℕ) : monthStart (month + 4800) = monthStart month + 146097 := by
  induction month with
  | zero => decide +kernel
  | succ month ih =>
    have hlength : monthLength (month + 4800) = monthLength month := by
      have hmod : (month + 4800) % 12 = month % 12 := by omega
      have hyear : (month + 4800) / 12 = month / 12 + 400 := by omega
      have hleap : leapYear (1970 + (month / 12 + 400)) = leapYear (1970 + month / 12) := by
        simp only [leapYear]
        congr 1
        exact propext (by omega)
      rw [monthLength, monthLength, hmod, hyear, hleap]
    have hnext : monthStart (month + 1 + 4800) =
        monthStart (month + 4800) + monthLength (month + 4800) := by
      rw [Nat.add_right_comm]
      rfl
    rw [hnext, ih, hlength, monthStart]
    omega

theorem monthStart_cycles (month n : ℕ) :
    monthStart (month + 4800 * n) = monthStart month + 146097 * n := by
  induction n with
  | zero => rfl
  | succ n ih =>
    rw [Nat.mul_succ, ← Nat.add_assoc, monthStart_cycle, ih]
    omega

/-- A year that is counted from a later cycle is not one after 100. -/
theorem index_nonneg (h : 100 ≤ getUTCFullYear value) :
    0 ≤ value / millisecondsPerDay + 730485 := by
  by_contra hneg
  have hsum := civil_sum value
  have hindex := Int.mul_ediv_add_emod (value / millisecondsPerDay + 730485) 146097
  have hmod := Int.emod_lt_of_pos (value / millisecondsPerDay + 730485) (by decide : (0 : ℤ) < 146097)
  have hcycles : (cycles (value / millisecondsPerDay + 730485) 146097 : ℤ) =
      -((value / millisecondsPerDay + 730485) / 146097) := by
    rw [cycles]
    omega
  have hmonth : (civil value).month < 4800 := by
    by_contra hlate
    have hstart := monthStart_mono (Nat.le_of_not_lt hlate)
    have hcycle := monthStart_cycle 0
    rw [Nat.zero_add, monthStart] at hcycle
    omega
  rw [getUTCFullYear] at h
  omega

theorem getUTCFullYear_of_nonneg (h : 0 ≤ value / millisecondsPerDay + 730485) :
    getUTCFullYear value = (civil value).month / 12 - 30 := by
  rw [getUTCFullYear, cycles_of_nonneg h (by decide)]
  omega

theorem value_eq (h : 100 ≤ getUTCFullYear value) :
    value = ((monthStart (civil value).month : ℤ) - 730485 + (civil value).day) *
      millisecondsPerDay + timeOfDay value := by
  have hsum := civil_sum value
  rw [cycles_of_nonneg (index_nonneg h) (by decide)] at hsum
  have hday : (monthStart (civil value).month : ℤ) - 730485 + (civil value).day =
      value / millisecondsPerDay := by
    omega
  rw [hday, timeOfDay]
  exact (Int.mul_comm _ _ ▸ Int.mul_ediv_add_emod value millisecondsPerDay).symm

theorem makeDay_of (h : 1560 ≤ month) (offset : ℕ) (date : ℤ) :
    makeDay (month / 12 - 30) (month % 12 + offset) date =
      monthStart (month + offset) - 730485 + (date - 1) := by
  simp only [makeDay]
  rw [if_neg (by omega), cycles_of_nonneg (by omega) (by decide)]
  simp only [Nat.cast_zero, Int.mul_zero, Int.add_zero, Int.sub_zero]
  congr 4
  omega

theorem addBillingPeriod_eq (hyear : 100 ≤ getUTCFullYear value)
    (hmonth : month = (civil value).month + periodMonths billingPeriod) :
    addBillingPeriod value billingPeriod =
      (newDate ((monthStart (month + 1) - 730486) * millisecondsPerDay)).bind fun last =>
        newDate ((monthStart month - 730485 + (min (getUTCDate value) (getUTCDate last) - 1)) *
          millisecondsPerDay + timeOfDay value) := by
  have hvalue := getUTCFullYear_of_nonneg (index_nonneg hyear)
  rw [hvalue] at hyear
  have hfull : getUTCFullYear value + (getUTCMonth value + periodMonths billingPeriod) / 12 =
      month / 12 - 30 := by
    rw [hvalue, getUTCMonth]
    omega
  have hnormalized : ((getUTCMonth value + periodMonths billingPeriod) % 12 + 12) % 12 =
      (month : ℤ) % 12 := by
    rw [getUTCMonth]
    omega
  have hlast := @makeDay_of month (by omega) 1 0
  have hfirst := @makeDay_of month (by omega) 0
  simp only [Nat.cast_zero, Nat.cast_one, Int.add_zero, Nat.add_zero] at hlast hfirst
  simp only [addBillingPeriod, hfull, hnormalized, hlast, hfirst]
  rw [show (monthStart (month + 1) : ℤ) - 730485 + (0 - 1) = monthStart (month + 1) - 730486 by omega]
  rfl

/-- The last day of the month is before the last day of a `Date`, 13 September 275760. -/
def Representable (month : ℕ) : Prop := (monthStart (month + 1) : ℤ) - 730486 < 100000000

def endDay (value : ℤ) (month : ℕ) : ℕ := min (civil value).day (monthLength month - 1)

theorem endDay_lt (value : ℤ) (month : ℕ) : endDay value month < monthLength month := by
  have hpos := RenewalCalendar.monthLength_pos month
  rw [endDay]
  omega

theorem timeOfDay_bounds (value : ℤ) : 0 ≤ timeOfDay value ∧ timeOfDay value < millisecondsPerDay :=
  ⟨Int.emod_nonneg _ (by decide), Int.emod_lt_of_pos _ (by decide)⟩

theorem addBillingPeriod_eq_some (hyear : 100 ≤ getUTCFullYear value)
    (hmonth : month = (civil value).month + periodMonths billingPeriod)
    (h : Representable month) :
    addBillingPeriod value billingPeriod =
      some (((monthStart month : ℤ) - 730485 + endDay value month) * millisecondsPerDay +
        timeOfDay value) := by
  have hms : (millisecondsPerDay : ℤ) = 86400000 := rfl
  have hpos := RenewalCalendar.monthLength_pos month
  rw [Representable, monthStart] at h
  have hlast : ((monthStart (month + 1) : ℤ) - 730486) * millisecondsPerDay =
      ((monthStart month : ℤ) - 730485 + (monthLength month - 1 : ℕ)) * millisecondsPerDay + 0 := by
    rw [monthStart, Int.add_zero]
    congr 1
    omega
  have hdate : getUTCDate (((monthStart (month + 1) : ℤ) - 730486) * millisecondsPerDay) =
      monthLength month := by
    rw [getUTCDate, hlast, civil_of (Nat.sub_lt hpos Nat.one_pos) (Int.le_refl 0) (by decide)]
    dsimp only
    omega
  have hnew : newDate (((monthStart (month + 1) : ℤ) - 730486) * millisecondsPerDay) =
      some (((monthStart (month + 1) : ℤ) - 730486) * millisecondsPerDay) := by
    rw [newDate, if_pos]
    rw [monthStart, hms]
    omega
  have hmin : min (getUTCDate value) (monthLength month) - 1 = (endDay value month : ℤ) := by
    rw [getUTCDate, endDay]
    omega
  have hend := endDay_lt value month
  have htime := timeOfDay_bounds value
  rw [addBillingPeriod_eq hyear hmonth, hnew, Option.bind_some, hdate, hmin, newDate, if_pos]
  rw [hms] at htime ⊢
  omega

/-- Later, at the same time of day and this many months on. -/
structure PeriodEnd (value : ℤ) (months : ℕ) (next : ℤ) : Prop where
  later : value < next
  timeOfDay : timeOfDay next = timeOfDay value
  month : (civil next).month = (civil value).month + months

theorem addBillingPeriod_spec (hyear : 100 ≤ getUTCFullYear value)
    (hmonths : 0 < periodMonths billingPeriod)
    (h : Representable ((civil value).month + periodMonths billingPeriod)) :
    ∃ next, addBillingPeriod value billingPeriod = some next ∧
      PeriodEnd value (periodMonths billingPeriod) next ∧
      (civil next).day = endDay value ((civil value).month + periodMonths billingPeriod) := by
  have htime := timeOfDay_bounds value
  have hcivil := civil_of (endDay_lt value ((civil value).month + periodMonths billingPeriod))
    htime.1 htime.2
  refine ⟨_, addBillingPeriod_eq_some hyear rfl h, ⟨?_, ?_, ?_⟩, ?_⟩
  · have hstart := monthStart_mono (show (civil value).month + 1 ≤
      (civil value).month + periodMonths billingPeriod by omega)
    have hday := civil_day_lt value
    have hms : (millisecondsPerDay : ℤ) = 86400000 := rfl
    have hvalue := value_eq hyear
    rw [monthStart] at hstart
    rw [hms] at hvalue ⊢
    omega
  · rw [timeOfDay, Int.add_comm, Int.add_mul_emod_self_right]
    exact Int.emod_eq_of_lt htime.1 htime.2
  · rw [hcivil]
  · rw [hcivil]

theorem monthlyPeriods_spec (hyear : 100 ≤ getUTCFullYear value) (n : ℕ)
    (h : Representable ((civil value).month + n)) :
    ∃ next, monthlyPeriods value n = some next ∧ value ≤ next ∧
      (civil next).month = (civil value).month + n ∧
      getUTCDate next = ((List.range n).map fun i =>
        (monthLength ((civil value).month + i + 1) : ℤ)).foldl min (getUTCDate value) := by
  induction n with
  | zero => exact ⟨value, rfl, Int.le_refl _, rfl, rfl⟩
  | succ n ih =>
    have hmono : Representable ((civil value).month + n) := by
      have hstart := monthStart_mono (show (civil value).month + n + 1 ≤
        (civil value).month + (n + 1) + 1 by omega)
      rw [Representable] at h ⊢
      omega
    obtain ⟨last, hlast, hlater, hmonth, hdate⟩ := ih hmono
    have hindex := index_nonneg hyear
    have hindex' : 0 ≤ last / millisecondsPerDay + 730485 := by
      have := Int.ediv_le_ediv (by decide : (0 : ℤ) < millisecondsPerDay) hlater
      omega
    have hyear' : 100 ≤ getUTCFullYear last := by
      rw [getUTCFullYear_of_nonneg hindex] at hyear
      rw [getUTCFullYear_of_nonneg hindex']
      omega
    have hmonth' : (civil last).month + periodMonths .monthly = (civil value).month + (n + 1) := by
      rw [hmonth]
      rfl
    obtain ⟨next, hnext, hend, hday⟩ := @addBillingPeriod_spec _ .monthly hyear'
      Nat.one_pos (hmonth' ▸ h)
    refine ⟨next, ?_, hlater.trans hend.later.le, hend.month.trans hmonth', ?_⟩
    · rw [monthlyPeriods, hlast, Option.bind_some, hnext]
    · have hpos := RenewalCalendar.monthLength_pos ((civil value).month + (n + 1))
      rw [List.range_succ, List.map_append, List.foldl_append, ← hdate, getUTCDate, hday, hmonth',
        endDay, getUTCDate]
      simp only [List.map_cons, List.map_nil, List.foldl_cons, List.foldl_nil]
      rw [Nat.add_assoc]
      omega

/-- **The API and the worker agree**, and months are neither skipped nor billed twice: the end of a
period is in the month that many months later, and after `n` months the day is the least of the
first day and the lengths of the months since. -/
theorem servicePeriods_exact :
    (∀ value billingPeriod,
      nextServiceDueAt value billingPeriod = addBillingPeriod value billingPeriod) ∧
    (∀ value billingPeriod, 100 ≤ getUTCFullYear value → 0 < periodMonths billingPeriod →
      Representable ((civil value).month + periodMonths billingPeriod) →
      ∃ next, addBillingPeriod value billingPeriod = some next ∧
        PeriodEnd value (periodMonths billingPeriod) next) ∧
    ∀ value n, 100 ≤ getUTCFullYear value → Representable ((civil value).month + n) →
      ∃ next, monthlyPeriods value n = some next ∧
        (civil next).month = (civil value).month + n ∧
        getUTCDate next = ((List.range n).map fun i =>
          (monthLength ((civil value).month + i + 1) : ℤ)).foldl min (getUTCDate value) := by
  refine ⟨nextServiceDueAt_eq, fun value billingPeriod hyear hmonths h => ?_,
    fun value n hyear h => ?_⟩
  · obtain ⟨next, hnext, hend, -⟩ := addBillingPeriod_spec hyear hmonths h
    exact ⟨next, hnext, hend⟩
  · obtain ⟨next, hnext, -, hmonth, hdate⟩ := monthlyPeriods_spec hyear n h
    exact ⟨next, hnext, hmonth, hdate⟩

/-- From noon of 31 January 2024 on, a month ends in February and the one after it on 29 March. -/
theorem leapYear_periods :
    (∃ next, addBillingPeriod 1706702400000 .monthly = some next ∧
      PeriodEnd 1706702400000 (periodMonths .monthly) next) ∧
    ∃ next, monthlyPeriods 1706702400000 2 = some next ∧ (civil next).month = 24650 ∧
      getUTCDate next = 29 := by
  have hstart : ∀ n, monthStart (24648 + n) = monthStart (648 + n) + 146097 * 5 := fun n => by
    rw [← monthStart_cycles, show 24648 = 648 + 4800 * 5 from rfl, Nat.add_right_comm]
  have hcivil : civil 1706702400000 = ⟨24648, 30⟩ := by
    have := @civil_of 24648 30 (by decide) 43200000 (by decide) (by decide)
    rwa [hstart 0, show monthStart (648 + 0) = 19723 by decide +kernel] at this
  have hyear : 100 ≤ getUTCFullYear 1706702400000 := by
    rw [getUTCFullYear_of_nonneg (by decide), hcivil]
    decide
  have hrepresentable : ∀ n ≤ 2, Representable ((civil 1706702400000).month + n) := by
    intro n hn
    have hlast := monthStart_mono (show 648 + (n + 1) ≤ 651 by omega)
    rw [show monthStart 651 = 19814 by decide +kernel] at hlast
    rw [hcivil, Representable, Nat.add_assoc, hstart]
    omega
  have hmonthly : 1 = periodMonths .monthly := rfl
  refine ⟨servicePeriods_exact.2.1 1706702400000 .monthly hyear Nat.one_pos
    (hmonthly ▸ hrepresentable 1 (by decide)), ?_⟩
  obtain ⟨next, hnext, hmonth, hdate⟩ :=
    servicePeriods_exact.2.2 1706702400000 2 hyear (hrepresentable 2 (by decide))
  refine ⟨next, hnext, ?_, ?_⟩
  · rw [hmonth, hcivil]
  · rw [hdate, getUTCDate, hcivil]
    decide

/-! ## Moments since 1970 -/

theorem monthLength_cycles (month n : ℕ) : monthLength (month + 4800 * n) = monthLength month := by
  have hstart := monthStart_cycles month n
  have hnext := monthStart_cycles (month + 1) n
  rw [Nat.add_right_comm, monthStart, monthStart] at hnext
  omega

theorem civil_natCast (value : ℕ) : civil value =
    ⟨(civilFromDay (value / millisecondsPerDay)).month + 4800 * 5,
      (civilFromDay (value / millisecondsPerDay)).day⟩ := by
  obtain ⟨hsum, hlt⟩ := civilFromDay_spec (value / millisecondsPerDay)
  have hstart := monthStart_cycles (civilFromDay (value / millisecondsPerDay)).month 5
  rw [civil, civilDay, ← Int.natCast_ediv, cycles_of_nonneg (by omega) (by decide),
    ← civilFromDay_of ((monthLength_cycles _ 5).symm ▸ hlt)]
  congr 1
  omega

/-- **The calendar of the renewals is this one**, for every moment since 1970. -/
theorem addBillingPeriod_natCast (value : ℕ) (billingPeriod : BillingPeriod)
    (h : Representable ((civil value).month + periodMonths billingPeriod)) :
    addBillingPeriod value billingPeriod =
      some (RenewalCalendar.addBillingPeriod value billingPeriod : ℤ) := by
  have hcivil := civil_natCast value
  have hindex : 0 ≤ (value : ℤ) / millisecondsPerDay + 730485 := by
    rw [← Int.natCast_ediv]
    exact Int.natCast_nonneg _
  have hyear : 100 ≤ getUTCFullYear value := by
    rw [getUTCFullYear_of_nonneg hindex, hcivil]
    dsimp only
    omega
  have hbefore : ∀ start day : ℕ, ((start + 146097 * 5 : ℕ) : ℤ) - 730485 + day = (start + day : ℕ) := by
    omega
  rw [addBillingPeriod_eq_some hyear rfl h, endDay, timeOfDay, hcivil]
  dsimp only
  rw [Nat.add_right_comm, monthStart_cycles, monthLength_cycles, hbefore]
  rfl

/-- On the last day of a `Date` no period begins that has an end. -/
theorem addBillingPeriod_last (h : value / millisecondsPerDay = 100000000) :
    100 ≤ getUTCFullYear value ∧ addBillingPeriod value .monthly = none := by
  have hindex : 0 ≤ value / millisecondsPerDay + 730485 := by omega
  have hsum := civil_sum value
  rw [cycles_of_nonneg hindex (by decide)] at hsum
  have hday := civil_day_lt value
  have hlate : 1560 ≤ (civil value).month := by
    by_contra hearly
    have hstart := monthStart_mono (show (civil value).month + 1 ≤ 1560 by omega)
    rw [monthStart, show monthStart 1560 = 47482 by decide +kernel] at hstart
    omega
  have hyear : 100 ≤ getUTCFullYear value := by
    rw [getUTCFullYear_of_nonneg hindex]
    omega
  have hpos := RenewalCalendar.monthLength_pos ((civil value).month + 1)
  refine ⟨hyear, ?_⟩
  rw [addBillingPeriod_eq hyear rfl, show periodMonths .monthly = 1 from rfl, newDate, if_neg]
  · rfl
  · rw [monthStart, monthStart, show (millisecondsPerDay : ℤ) = 86400000 from rfl]
    omega

/-- 13 September 275760 is a date that no period begins on. -/
theorem lastDay_unbilled :
    ¬ ∀ value billingPeriod, newDate value = some value → 100 ≤ getUTCFullYear value →
      0 < periodMonths billingPeriod →
      ∃ next, addBillingPeriod value billingPeriod = some next := by
  intro h
  obtain ⟨hyear, hnone⟩ := @addBillingPeriod_last 8640000000000000 (by decide)
  obtain ⟨next, hnext⟩ := h _ .monthly (by decide) hyear Nat.one_pos
  rw [hnone] at hnext
  exact nomatch hnext

end ServicePeriods

end WebhostBilling
