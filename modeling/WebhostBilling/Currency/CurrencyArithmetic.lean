import WebhostBilling.Currency.CurrencyPolicy

/-!
# Converting an amount between currencies

The conversion of `currency-arithmetic.ts`: texts of digits are multiplied as integers of any size,
and the quotient is rounded to the nearest integer, ties to the even one.
-/

namespace WebhostBilling

open Json Store

namespace Currency

/-! ## Schemas -/

/-- `POSTGRES_BIGINT_MAX` -/
def postgresBigintMax : ℕ := 9223372036854775807

/-- `CURRENCY_ARITHMETIC_LIMITS.ratioDigits` -/
def ratioDigits : ℕ := 96

/-- `/^(0|[1-9]\d*)$/` -/
def matchesWhole (t : Text) : Bool := t.all isDigit = true ∧ Json.isWhole t = true

/-- `/^[1-9]\d*$/` -/
def matchesPositive (t : Text) : Bool := matchesWhole t = true ∧ t.head? ≠ some 0x30

def fitsPostgresBigint (t : Text) : Bool :=
  matchesWhole t = true ∧ (t.length < (printNat postgresBigintMax).length ∨
    (t.length = (printNat postgresBigintMax).length ∧ ¬ printNat postgresBigintMax < t))

/-- `boundedAmountSchema` -/
def boundedAmount (t : Text) : Bool :=
  t.length ≤ 19 ∧ matchesWhole t = true ∧ fitsPostgresBigint t = true

/-- `positiveRatioIntegerSchema` -/
def positiveRatioInteger (t : Text) : Bool := t.length ≤ ratioDigits ∧ matchesPositive t = true

/-- A ratio, in decimal digits. -/
structure ExactRatio where
  numerator : Text
  denominator : Text
deriving DecidableEq

/-- The texts of a ratio pass `exactRatioSchema`. -/
def ExactRatio.checked (ratio : ExactRatio) : Bool :=
  positiveRatioInteger ratio.numerator && positiveRatioInteger ratio.denominator

structure DirectedCurrencyRate where
  ratio : ExactRatio
  sourceCurrency : Text
  targetCurrency : Text
deriving DecidableEq

structure CurrencyConversionInput where
  amount : Text
  source : CurrencyPolicyUnitReference
  target : CurrencyPolicyUnitReference
  rate : Option DirectedCurrencyRate
deriving DecidableEq

def directedCurrencyRateSchema (v : Value JsNumber) : Option DirectedCurrencyRate := do
  guard (v.hasKeys [text "numerator", text "denominator", text "sourceCurrency",
    text "targetCurrency"] = true)
  let ratio : ExactRatio := ⟨← (← v.member (text "numerator")).text?,
    ← (← v.member (text "denominator")).text?⟩
  guard (ratio.checked = true)
  let sourceCurrency ← (← v.member (text "sourceCurrency")).text?
  let targetCurrency ← (← v.member (text "targetCurrency")).text?
  guard (schemaPatterns.code sourceCurrency = true ∧ schemaPatterns.code targetCurrency = true)
  return ⟨ratio, sourceCurrency, targetCurrency⟩

def unitReferenceSchema (v : Value JsNumber) : Option CurrencyPolicyUnitReference := do
  let reference ← CurrencyPolicyUnitReference.ofValue v
  guard (schemaPatterns.reference reference = true)
  return reference

def currencyConversionInputSchema (v : Value JsNumber) : Option CurrencyConversionInput := do
  let required := [text "amount", text "source", text "target"]
  guard (v.hasKeys required = true ∨ v.hasKeys (required ++ [text "rate"]) = true)
  let amount ← (← v.member (text "amount")).text?
  guard (boundedAmount amount = true)
  let source ← unitReferenceSchema (← v.member (text "source"))
  let target ← unitReferenceSchema (← v.member (text "target"))
  match v.member (text "rate") with
  | none => return ⟨amount, source, target, none⟩
  | some rate => return ⟨amount, source, target, some (← directedCurrencyRateSchema rate)⟩

/-! ## Ratios -/

def greatestCommonDivisor (left right : ℕ) : ℕ :=
  if right = 0 then left else greatestCommonDivisor right (left % right)
termination_by right
decreasing_by exact Nat.mod_lt _ (Nat.pos_of_ne_zero ‹_›)

theorem greatestCommonDivisor_eq_gcd (left right : ℕ) :
    greatestCommonDivisor left right = Nat.gcd left right := by
  induction left, right using greatestCommonDivisor.induct with
  | case1 left => simp [greatestCommonDivisor]
  | case2 left right h ih => rw [greatestCommonDivisor, if_neg h, ih, Nat.gcd_comm right,
      ← Nat.gcd_rec, Nat.gcd_comm]

def reducedRatio (numerator denominator : ℕ) : ExactRatio :=
  let divisor := greatestCommonDivisor numerator denominator
  ⟨printNat (numerator / divisor), printNat (denominator / divisor)⟩

/-- `BigInt` of a text of digits is its value. -/
def normalizeExactRatio (ratio : ExactRatio) : Option ExactRatio := do
  guard (ratio.checked = true)
  return reducedRatio (Json.digitsValue ratio.numerator) (Json.digitsValue ratio.denominator)

/-! ## The conversion -/

inductive ConversionError
  | invalid
  | range (message : String)

inductive ConversionMethod
  | identity
  | conversion

structure ConvertedMoney where
  amount : Text
  currency : Text
  definition : CurrencyUnitDefinition

structure ConversionRounding where
  quotient : Text
  remainder : Text
  divisor : Text
  incremented : Bool

structure CurrencyConversionResult where
  policyVersion : String := "currency-half-even-v1"
  method : ConversionMethod
  source : ConvertedMoney
  target : ConvertedMoney
  rate : Option DirectedCurrencyRate
  rounding : ConversionRounding

def resolveDefinition (definitions : List CurrencyUnitDefinition)
    (reference : CurrencyPolicyUnitReference) : Except ConversionError CurrencyUnitDefinition :=
  orThrow (.range "Currency metadata is not in the explicit context")
    (findUnit definitions reference)

def identityConversion (input : CurrencyConversionInput) (source target : CurrencyUnitDefinition) :
    Except ConversionError CurrencyConversionResult := do
  require (source.metadataVersion = target.metadataVersion ∧ input.rate = none)
    (.range "Identity requires matching metadata and no external rate")
  return {
    method := .identity
    source := ⟨input.amount, source.code, source⟩
    target := ⟨input.amount, source.code, target⟩
    rate := none
    rounding := ⟨input.amount, text "0", text "1", false⟩ }

def ratedConversion (input : CurrencyConversionInput) (source target : CurrencyUnitDefinition) :
    Except ConversionError CurrencyConversionResult := do
  let unmatched : ConversionError := .range "Conversion requires a matching directed rate"
  let rate ← orThrow unmatched input.rate
  require (rate.sourceCurrency = source.code ∧ rate.targetCurrency = target.code) unmatched
  let ratio ← orThrow .invalid (normalizeExactRatio rate.ratio)
  let numerator := Json.digitsValue input.amount * Json.digitsValue ratio.numerator *
    10 ^ target.minorUnitExponent
  let divisor := Json.digitsValue ratio.denominator * 10 ^ source.minorUnitExponent
  let quotient := numerator / divisor
  let remainder := numerator % divisor
  let doubledRemainder := remainder * 2
  let incremented : Bool :=
    divisor < doubledRemainder ∨ (doubledRemainder = divisor ∧ quotient % 2 = 1)
  let rounded := quotient + if incremented then 1 else 0
  require (rounded ≤ postgresBigintMax)
    (.range "Converted amount exceeds the PostgreSQL BIGINT range")
  return {
    method := .conversion
    source := ⟨input.amount, source.code, source⟩
    target := ⟨printNat rounded, target.code, target⟩
    rate := some ⟨ratio, source.code, target.code⟩
    rounding := ⟨printNat quotient, printNat remainder, printNat divisor, incremented⟩ }

def convertCurrencyMinorUnits (value explicitDefinitions : Value JsNumber) :
    Except ConversionError CurrencyConversionResult := do
  let input ← orThrow .invalid (currencyConversionInputSchema value)
  let definitions ← orThrow .invalid (currencyUnitContextSchema explicitDefinitions)
  let source ← resolveDefinition definitions input.source
  let target ← resolveDefinition definitions input.target
  if source.code = target.code then identityConversion input source target
  else ratedConversion input source target

/-! ## What it computes -/

/-- A conversion between two currencies that passes the schemas: `source` and `target` are the units
that the context has for it, and `rate` goes from one to the other. -/
structure Convertible (explicitDefinitions : Value JsNumber)
    (source target : CurrencyUnitDefinition) (rate : DirectedCurrencyRate)
    (input : CurrencyConversionInput) (value : Value JsNumber) : Prop where
  parsed : currencyConversionInputSchema value = some input
  defined : ∃ definitions, currencyUnitContextSchema explicitDefinitions = some definitions ∧
    findUnit definitions input.source = some source ∧
    findUnit definitions input.target = some target
  distinct : source.code ≠ target.code
  rated : input.rate = some rate
  directed : rate.sourceCurrency = source.code ∧ rate.targetCurrency = target.code

def exactAmount (source target : CurrencyUnitDefinition) (ratio : ExactRatio) (amount : Text) : ℚ :=
  (Json.digitsValue amount * Json.digitsValue ratio.numerator * 10 ^ target.minorUnitExponent) /
    (Json.digitsValue ratio.denominator * 10 ^ source.minorUnitExponent)

structure RoundingEvidence (source target : CurrencyUnitDefinition) (ratio : ExactRatio)
    (amount : Text) (result : CurrencyConversionResult) (reduced : ExactRatio) : Prop where
  rate : result.rate = some ⟨reduced, source.code, target.code⟩
  lowest : Nat.Coprime (Json.digitsValue reduced.numerator) (Json.digitsValue reduced.denominator)
  same : Json.digitsValue reduced.numerator * Json.digitsValue ratio.denominator =
    Json.digitsValue ratio.numerator * Json.digitsValue reduced.denominator
  divisor : Json.digitsValue result.rounding.divisor =
    Json.digitsValue reduced.denominator * 10 ^ source.minorUnitExponent
  dividend : Json.digitsValue result.rounding.quotient * Json.digitsValue result.rounding.divisor +
      Json.digitsValue result.rounding.remainder =
    Json.digitsValue amount * Json.digitsValue reduced.numerator * 10 ^ target.minorUnitExponent
  remainder : Json.digitsValue result.rounding.remainder < Json.digitsValue result.rounding.divisor
  target : Json.digitsValue result.target.amount =
    Json.digitsValue result.rounding.quotient + if result.rounding.incremented then 1 else 0

theorem le_foldl_digits (t : Text) (n : ℕ) :
    n ≤ t.foldl (fun n c => 10 * n + (c.toNat - 0x30)) n := by
  induction t generalizing n with
  | nil => exact Nat.le_refl n
  | cons c t ih =>
    have hle : n ≤ 10 * n + (c.toNat - 0x30) := by omega
    exact Nat.le_trans hle (ih _)

theorem digitsValue_pos {t : Text} (h : matchesPositive t = true) : 0 < Json.digitsValue t := by
  rw [matchesPositive, decide_eq_true_eq, matchesWhole, decide_eq_true_eq] at h
  obtain ⟨⟨hdigits, hwhole⟩, hhead⟩ := h
  cases t with
  | nil => exact absurd hwhole (by decide)
  | cons c t =>
    have hdigit : isDigit c = true := List.all_eq_true.1 hdigits c List.mem_cons_self
    rw [isDigit, decide_eq_true_eq, UInt16.le_iff_toNat_le] at hdigit
    have hne : c.toNat ≠ 0x30 := fun heq => hhead (congrArg some (UInt16.toNat_inj.1 heq))
    have hlow : 0x30 ≤ c.toNat := hdigit.1
    have hpos : 0 < 10 * 0 + (c.toNat - 0x30) := by omega
    exact Nat.lt_of_lt_of_le hpos (le_foldl_digits t _)

theorem ExactRatio.checked_pos {ratio : ExactRatio} (h : ratio.checked = true) :
    0 < Json.digitsValue ratio.numerator ∧ 0 < Json.digitsValue ratio.denominator := by
  rw [ExactRatio.checked, Bool.and_eq_true, positiveRatioInteger, positiveRatioInteger,
    decide_eq_true_eq, decide_eq_true_eq] at h
  exact ⟨digitsValue_pos h.1.2, digitsValue_pos h.2.2⟩

theorem normalizeExactRatio_eq {ratio : ExactRatio} (h : ratio.checked = true) :
    ∃ n d g, 0 < g ∧ 0 < d ∧ Nat.Coprime n d ∧ Json.digitsValue ratio.numerator = n * g ∧
      Json.digitsValue ratio.denominator = d * g ∧
      normalizeExactRatio ratio = some ⟨printNat n, printNat d⟩ := by
  obtain ⟨hnumerator, hdenominator⟩ := ratio.checked_pos h
  have hgcd := greatestCommonDivisor_eq_gcd (Json.digitsValue ratio.numerator)
    (Json.digitsValue ratio.denominator)
  have hg : 0 < Nat.gcd (Json.digitsValue ratio.numerator) (Json.digitsValue ratio.denominator) :=
    Nat.gcd_pos_of_pos_left _ hnumerator
  refine ⟨_, _, _, hg, Nat.div_pos (Nat.gcd_le_right _ hdenominator) hg,
    Nat.coprime_div_gcd_div_gcd hg, (Nat.div_mul_cancel (Nat.gcd_dvd_left _ _)).symm,
    (Nat.div_mul_cancel (Nat.gcd_dvd_right _ _)).symm, ?_⟩
  simp [normalizeExactRatio, h, reducedRatio, hgcd]

variable {explicitDefinitions value value' : Value JsNumber} {source target : CurrencyUnitDefinition}
  {rate rate' : DirectedCurrencyRate} {input input' : CurrencyConversionInput}

theorem directedCurrencyRateSchema_checked {v : Value JsNumber}
    (h : directedCurrencyRateSchema v = some rate) : rate.ratio.checked = true := by
  simp only [directedCurrencyRateSchema, eq_some] at h
  obtain ⟨-, _, -, _, -, _, -, _, -, hchecked, _, -, _, -, _, -, _, -, -, rfl⟩ := h
  exact hchecked

theorem Convertible.checked (h : Convertible explicitDefinitions source target rate input value) :
    rate.ratio.checked = true := by
  have hparsed := h.parsed
  have hrated := h.rated
  simp only [currencyConversionInputSchema, eq_some] at hparsed
  obtain ⟨-, _, -, _, -, -, _, -, _, -, _, -, _, -, hrate⟩ := hparsed
  split at hrate
  · cases hrate
    exact nomatch hrated
  · obtain ⟨rate', hrate', hinput⟩ := Option.bind_eq_some_iff.1 hrate
    cases hinput
    cases hrated
    exact directedCurrencyRateSchema_checked hrate'

theorem Convertible.convert_eq
    (h : Convertible explicitDefinitions source target rate input value) :
    convertCurrencyMinorUnits value explicitDefinitions = ratedConversion input source target := by
  obtain ⟨definitions, hdefinitions, hsource, htarget⟩ := h.defined
  rw [convertCurrencyMinorUnits, h.parsed, hdefinitions]
  show (do
    let source ← resolveDefinition definitions input.source
    let target ← resolveDefinition definitions input.target
    if source.code = target.code then identityConversion input source target
    else ratedConversion input source target) = _
  rw [resolveDefinition, hsource, resolveDefinition, htarget]
  exact if_neg h.distinct

variable {ratio : ExactRatio} {n d g : ℕ}

theorem exactAmount_eq (hg : 0 < g) (hn : Json.digitsValue ratio.numerator = n * g)
    (hd : Json.digitsValue ratio.denominator = d * g) (amount : Text) :
    exactAmount source target ratio amount =
      ((Json.digitsValue amount * n * 10 ^ target.minorUnitExponent : ℕ) : ℚ) /
        (d * 10 ^ source.minorUnitExponent : ℕ) := by
  have hne : (g : ℚ) ≠ 0 := Nat.cast_ne_zero.2 hg.ne'
  rw [exactAmount, hn, hd]
  push_cast
  field_simp

theorem roundHalfEven_exactAmount (hg : 0 < g) (hpos : 0 < d)
    (hn : Json.digitsValue ratio.numerator = n * g)
    (hd : Json.digitsValue ratio.denominator = d * g) (amount : Text) :
    let numerator := Json.digitsValue amount * n * 10 ^ target.minorUnitExponent
    let divisor := d * 10 ^ source.minorUnitExponent
    roundHalfEven (exactAmount source target ratio amount) =
      ((numerator / divisor + if divisor < numerator % divisor * 2 ∨
        (numerator % divisor * 2 = divisor ∧ numerator / divisor % 2 = 1) then 1 else 0 : ℕ) : ℤ) := by
  rw [exactAmount_eq hg hn hd]
  exact roundHalfEven_div _ (Nat.mul_pos hpos (Nat.pow_pos (by decide)))

theorem Convertible.of_ok (h : Convertible explicitDefinitions source target rate input value)
    {result : CurrencyConversionResult}
    (hresult : convertCurrencyMinorUnits value explicitDefinitions = .ok result) :
    roundHalfEven (exactAmount source target rate.ratio input.amount) ≤ postgresBigintMax ∧
      result.target = ⟨printNat (roundHalfEven (exactAmount source target rate.ratio
        input.amount)).toNat, target.code, target⟩ ∧
      ∃ reduced, RoundingEvidence source target rate.ratio input.amount result reduced := by
  obtain ⟨n, d, g, hg, hpos, hcoprime, hn, hd, hnormal⟩ := normalizeExactRatio_eq h.checked
  have hround := @roundHalfEven_exactAmount source target _ _ _ _ hg hpos hn hd input.amount
  rw [h.convert_eq] at hresult
  simp only [ratedConversion, h.rated, hnormal, eq_ok, Option.some.injEq, exists_eq_left',
    digitsValue_printNat, decide_eq_true_eq] at hresult
  obtain ⟨-, hfits, rfl⟩ := hresult
  rw [hround, Int.toNat_natCast]
  refine ⟨Nat.cast_le.2 hfits, rfl, ⟨printNat n, printNat d⟩, rfl, ?_, ?_, ?_, ?_, ?_, ?_⟩
  · simpa only [digitsValue_printNat] using hcoprime
  · simp only [digitsValue_printNat, hn, hd, Nat.mul_assoc, Nat.mul_comm g]
  · simp only [digitsValue_printNat]
  · simp only [digitsValue_printNat, Nat.div_add_mod']
  · simp only [digitsValue_printNat]
    exact Nat.mod_lt _ (Nat.mul_pos hpos (Nat.pow_pos (by decide)))
  · simp only [digitsValue_printNat, decide_eq_true_eq]

theorem Convertible.exists_ok (h : Convertible explicitDefinitions source target rate input value)
    (hfits : roundHalfEven (exactAmount source target rate.ratio input.amount) ≤ postgresBigintMax) :
    ∃ result, convertCurrencyMinorUnits value explicitDefinitions = .ok result := by
  obtain ⟨n, d, g, hg, hpos, -, hn, hd, hnormal⟩ := normalizeExactRatio_eq h.checked
  have hround := @roundHalfEven_exactAmount source target _ _ _ _ hg hpos hn hd input.amount
  rw [hround, Nat.cast_le] at hfits
  rw [h.convert_eq]
  simp only [ratedConversion, h.rated, hnormal, eq_ok, Option.some.injEq, exists_eq_left',
    digitsValue_printNat, decide_eq_true_eq]
  exact ⟨_, h.directed, hfits, rfl⟩

theorem normalizeExactRatio_scaled {ratio' : ExactRatio} {k : ℕ} (h : ratio.checked = true)
    (h' : ratio'.checked = true)
    (hnumerator : Json.digitsValue ratio'.numerator = k * Json.digitsValue ratio.numerator)
    (hdenominator : Json.digitsValue ratio'.denominator = k * Json.digitsValue ratio.denominator) :
    normalizeExactRatio ratio' = normalizeExactRatio ratio := by
  have hpos : 0 < k * Json.digitsValue ratio.numerator := hnumerator ▸ (ratio'.checked_pos h').1
  have hk : 0 < k := Nat.pos_of_mul_pos_right hpos
  simp only [normalizeExactRatio, h, h', reducedRatio, greatestCommonDivisor_eq_gcd, hnumerator,
    hdenominator, Nat.gcd_mul_left, Nat.mul_div_mul_left _ _ hk]

/-- **A conversion is exact.** -/
structure ExactConversion (explicitDefinitions : Value JsNumber)
    (source target : CurrencyUnitDefinition) (rate : DirectedCurrencyRate)
    (input : CurrencyConversionInput) (value : Value JsNumber) : Prop where
  converts : ∀ result, convertCurrencyMinorUnits value explicitDefinitions = .ok result →
    result.target = ⟨printNat (roundHalfEven (exactAmount source target rate.ratio
        input.amount)).toNat, target.code, target⟩ ∧
      ∃ reduced, RoundingEvidence source target rate.ratio input.amount result reduced
  fails : (∃ e, convertCurrencyMinorUnits value explicitDefinitions = .error e) ↔
    postgresBigintMax < roundHalfEven (exactAmount source target rate.ratio input.amount)
  /-- Both terms of the rate multiplied by `k`. -/
  scaled : ∀ k rate' input' value',
    Convertible explicitDefinitions source target rate' input' value' →
    input'.amount = input.amount →
    Json.digitsValue rate'.ratio.numerator = k * Json.digitsValue rate.ratio.numerator →
    Json.digitsValue rate'.ratio.denominator = k * Json.digitsValue rate.ratio.denominator →
    convertCurrencyMinorUnits value' explicitDefinitions =
      convertCurrencyMinorUnits value explicitDefinitions
  monotone : ∀ input' value', Convertible explicitDefinitions source target rate input' value' →
    Json.digitsValue input.amount ≤ Json.digitsValue input'.amount → ∀ result result',
    convertCurrencyMinorUnits value explicitDefinitions = .ok result →
    convertCurrencyMinorUnits value' explicitDefinitions = .ok result' →
    Json.digitsValue result.target.amount ≤ Json.digitsValue result'.target.amount

/-- **A conversion is the exact value**, rounded half to even, or an error beyond the range. -/
theorem conversion_exact (h : Convertible explicitDefinitions source target rate input value) :
    ExactConversion explicitDefinitions source target rate input value where
  converts _ hresult := (h.of_ok hresult).2
  fails := by
    constructor
    · rintro ⟨e, he⟩
      by_contra hfits
      obtain ⟨result, hresult⟩ := h.exists_ok (not_lt.1 hfits)
      rw [he] at hresult
      exact nomatch hresult
    · intro hlt
      cases hresult : convertCurrencyMinorUnits value explicitDefinitions with
      | error e => exact ⟨e, rfl⟩
      | ok result => exact absurd (h.of_ok hresult).1 (not_le.2 hlt)
  scaled k rate' input' value' h' hamount hnumerator hdenominator := by
    have hnormal := normalizeExactRatio_scaled h.checked h'.checked hnumerator hdenominator
    rw [h.convert_eq, h'.convert_eq]
    simp only [ratedConversion, h.rated, h'.rated, hamount, hnormal, orThrow, bind, Except.bind]
    rw [require_true _ h.directed, require_true _ h'.directed]
  monotone input' value' h' hle result result' hresult hresult' := by
    rw [(h.of_ok hresult).2.1, (h'.of_ok hresult').2.1, digitsValue_printNat, digitsValue_printNat]
    refine Int.toNat_le_toNat (roundHalfEven_mono ?_)
    unfold exactAmount
    gcongr

/-! ### A conversion -/

def dollarUnit : CurrencyUnitDefinition :=
  ⟨text "USD", text "2026", 2, text "ISO-4217", .current⟩

def yenUnit : CurrencyUnitDefinition :=
  ⟨text "JPY", text "2026", 0, text "ISO-4217", .current⟩

def dollarToYen : DirectedCurrencyRate := ⟨⟨text "310", text "2"⟩, text "USD", text "JPY"⟩

def tenCents : CurrencyConversionInput :=
  ⟨text "10", dollarUnit.reference, yenUnit.reference, some dollarToYen⟩

def tenCentsValue : Value JsNumber :=
  .object [(text "amount", .string (text "10")),
    (text "source", dollarUnit.reference.toValue), (text "target", yenUnit.reference.toValue),
    (text "rate", .object [(text "numerator", .string (text "310")),
      (text "denominator", .string (text "2")), (text "sourceCurrency", .string (text "USD")),
      (text "targetCurrency", .string (text "JPY"))])]

/-- The tie is rounded to 16. -/
theorem tenCents_converted :
    ExactConversion (definitionsValue [dollarUnit, yenUnit]) dollarUnit yenUnit dollarToYen
      tenCents tenCentsValue :=
  conversion_exact {
    parsed := by decide +kernel
    defined := ⟨[dollarUnit, yenUnit], by decide +kernel, by decide +kernel, by decide +kernel⟩
    distinct := by decide +kernel
    rated := rfl
    directed := by decide +kernel }

end Currency

end WebhostBilling
