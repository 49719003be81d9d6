import WebhostBilling.Currency.CurrencyArithmetic
import WebhostBilling.Json.Decimals

/-!
# Exchange rates

A rate is written as a plain decimal and kept as a ratio in lowest terms, which is again a rate that
a conversion accepts.
-/

namespace WebhostBilling

open Json Store

namespace Currency

/-! ## Parsing -/

/-- `(?:\.\d+)?$` -/
def matchesDecimals : Text → Bool
  | [] => true
  | c :: cs => c = point ∧ cs ≠ [] ∧ cs.all isDigit = true

/-- `decimalRateTokenSchema` -/
def decimalRateToken (t : Text) : Bool :=
  t.length ≤ 97 ∧ Json.isWhole (t.takeWhile isDigit) = true ∧
    matchesDecimals (t.dropWhile isDigit) = true

def parseExactDecimalRate (value : Text) : Except ConversionError ExactRatio := do
  require (decimalRateToken value = true) .invalid
  let whole := value.takeWhile (· ≠ point)
  let fraction := (value.dropWhile (· ≠ point)).drop 1
  require (whole.length ≤ 64 ∧ fraction.length ≤ 32) (.range "Rate exceeds exact decimal limits")
  let numerator := Json.digitsValue (whole ++ fraction)
  require (numerator ≠ 0) (.range "Rate must be positive")
  return reducedRatio numerator (10 ^ fraction.length)

/-! ## Plain decimals -/

/-- A plain decimal without superfluous leading zeros. -/
structure PlainDecimal (t whole fraction : Text) : Prop where
  wholePart : matchesWhole whole = true
  decimals : fraction.all isDigit = true
  text_eq : t = whole ++ if fraction = [] then [] else point :: fraction

def decimalValue (whole fraction : Text) : ℚ :=
  Json.digitsValue whole + Json.digitsValue fraction / 10 ^ fraction.length

variable {t whole fraction : Text} {ratio : ExactRatio}

theorem ne_point {c : CodeUnit} (h : isDigit c = true) : c ≠ point := by
  rintro rfl
  exact absurd h (by decide)

theorem decimalValue_eq (whole fraction : Text) : decimalValue whole fraction =
    (Json.digitsValue (whole ++ fraction) : ℚ) / (10 ^ fraction.length : ℕ) := by
  rw [decimalValue, digitsValue_append]
  push_cast
  field_simp

namespace PlainDecimal

theorem digits (h : PlainDecimal t whole fraction) : whole.all isDigit = true := by
  have hwhole := h.wholePart
  rw [matchesWhole, decide_eq_true_eq] at hwhole
  exact hwhole.1

theorem cut (h : PlainDecimal t whole fraction) {p : CodeUnit → Bool}
    (hdigit : ∀ c, isDigit c = true → p c = true) (hpoint : p point = false) :
    t.takeWhile p = whole ∧ t.dropWhile p = if fraction = [] then [] else point :: fraction := by
  have hpass : ∀ c ∈ whole, p c = true := fun c hc => hdigit c (List.all_eq_true.1 h.digits c hc)
  rw [h.text_eq, List.takeWhile_append_of_pos hpass, List.dropWhile_append_of_pos hpass]
  split <;> simp [hpoint]

theorem token (h : PlainDecimal t whole fraction) :
    decimalRateToken t = true ↔ t.length ≤ 97 := by
  have hwhole := h.wholePart
  rw [matchesWhole, decide_eq_true_eq] at hwhole
  obtain ⟨htake, hdrop⟩ := h.cut (fun _ hc => hc) (by decide)
  rw [decimalRateToken, decide_eq_true_eq, htake, hdrop]
  refine and_iff_left ⟨hwhole.2, ?_⟩
  split
  · rfl
  · rename_i hne
    exact decide_eq_true ⟨rfl, hne, h.decimals⟩

theorem parse_eq_ok (h : PlainDecimal t whole fraction) :
    parseExactDecimalRate t = .ok ratio ↔ whole.length ≤ 64 ∧ fraction.length ≤ 32 ∧
      Json.digitsValue (whole ++ fraction) ≠ 0 ∧
      reducedRatio (Json.digitsValue (whole ++ fraction)) (10 ^ fraction.length) = ratio := by
  obtain ⟨htake, hdrop⟩ := h.cut (p := (· ≠ point)) (fun _ hc => decide_eq_true (ne_point hc))
    (by decide)
  have hfraction : (t.dropWhile (· ≠ point)).drop 1 = fraction := by
    rw [hdrop]
    split
    · rename_i hnil
      rw [hnil]
      rfl
    · rfl
  have hlength : whole.length ≤ 64 ∧ fraction.length ≤ 32 → t.length ≤ 97 := by
    rintro ⟨hwhole, hfraction⟩
    rw [h.text_eq, List.length_append]
    split
    · simp only [List.length_nil]; omega
    · simp only [List.length_cons]; omega
  simp only [parseExactDecimalRate, eq_ok, htake, hfraction, h.token]
  tauto

end PlainDecimal

theorem exists_plainDecimal (h : parseExactDecimalRate t = .ok ratio) :
    ∃ whole fraction, PlainDecimal t whole fraction := by
  simp only [parseExactDecimalRate, eq_ok, decimalRateToken, decide_eq_true_eq] at h
  obtain ⟨⟨-, hwhole, hdecimals⟩, -⟩ := h
  have hmatches : matchesWhole (t.takeWhile isDigit) = true :=
    decide_eq_true ⟨List.all_takeWhile, hwhole⟩
  have hsplit := (List.takeWhile_append_dropWhile (p := isDigit) (l := t)).symm
  cases hdrop : t.dropWhile isDigit with
  | nil =>
    rw [hdrop] at hsplit
    exact ⟨_, [], hmatches, rfl, hsplit⟩
  | cons c cs =>
    rw [hdrop, matchesDecimals, decide_eq_true_eq] at hdecimals
    rw [hdrop, hdecimals.1] at hsplit
    exact ⟨_, cs, hmatches, hdecimals.2.2, hsplit.trans (by rw [if_neg hdecimals.2.1])⟩

/-! ## Lowest terms -/

/-- A reduced ratio of this value. -/
structure InLowestTerms (ratio : ExactRatio) (value : ℚ) : Prop where
  numerator : matchesPositive ratio.numerator = true
  denominator : matchesPositive ratio.denominator = true
  coprime : Nat.Coprime (Json.digitsValue ratio.numerator) (Json.digitsValue ratio.denominator)
  value : (Json.digitsValue ratio.numerator : ℚ) / Json.digitsValue ratio.denominator = value

theorem printNat_of_matchesPositive (h : matchesPositive t = true) :
    printNat (Json.digitsValue t) = t := by
  rw [matchesPositive, decide_eq_true_eq, matchesWhole, decide_eq_true_eq] at h
  exact printNat_digitsValue h.1.1 h.1.2

theorem matchesPositive_printNat {n : ℕ} (hn : 0 < n) : matchesPositive (printNat n) = true := by
  have hwhole := isWhole_printNat n
  refine decide_eq_true ⟨decide_eq_true ⟨all_isDigit_printNat n, hwhole⟩, fun hhead => ?_⟩
  rw [Json.isWhole, decide_eq_true_eq] at hwhole
  obtain ⟨c, hc⟩ := List.length_eq_one_iff.1 (hwhole.2 hhead)
  have hzero := digitsValue_printNat n
  rw [hc] at hhead hzero
  rw [Option.some.inj hhead] at hzero
  exact hn.ne hzero

theorem inLowestTerms_iff {n d : ℕ} (hn : 0 < n) (hd : 0 < d) :
    InLowestTerms ratio ((n : ℚ) / d) ↔ ratio = reducedRatio n d := by
  have hg : 0 < Nat.gcd n d := Nat.gcd_pos_of_pos_left _ hn
  have hn' : 0 < n / Nat.gcd n d := Nat.div_pos (Nat.gcd_le_left _ hn) hg
  have hd' : 0 < d / Nat.gcd n d := Nat.div_pos (Nat.gcd_le_right _ hd) hg
  have hcoprime := Nat.coprime_div_gcd_div_gcd hg
  have hvalue : ((n / Nat.gcd n d : ℕ) : ℚ) / (d / Nat.gcd n d : ℕ) = n / d := by
    have hne : (Nat.gcd n d : ℚ) ≠ 0 := Nat.cast_ne_zero.2 hg.ne'
    rw [← mul_div_mul_right _ _ hne]
    norm_cast
    rw [Nat.div_mul_cancel (Nat.gcd_dvd_left n d), Nat.div_mul_cancel (Nat.gcd_dvd_right n d)]
  rw [reducedRatio, greatestCommonDivisor_eq_gcd]
  constructor
  · intro h
    obtain ⟨hnumerator, hdenominator⟩ := Rat.div_int_inj
      (a := Json.digitsValue ratio.numerator) (b := Json.digitsValue ratio.denominator)
      (c := (n / Nat.gcd n d : ℕ)) (d := (d / Nat.gcd n d : ℕ))
      (Nat.cast_pos.2 (digitsValue_pos h.denominator)) (Nat.cast_pos.2 hd') h.coprime hcoprime
      (by simpa only [Int.cast_natCast] using h.value.trans hvalue.symm)
    rw [← Nat.cast_inj.1 hnumerator, ← Nat.cast_inj.1 hdenominator,
      printNat_of_matchesPositive h.numerator, printNat_of_matchesPositive h.denominator]
  · rintro rfl
    refine ⟨matchesPositive_printNat hn', matchesPositive_printNat hd', ?_, ?_⟩
    · simpa only [digitsValue_printNat] using hcoprime
    · simpa only [digitsValue_printNat] using hvalue

theorem reducedRatio_checked {n d : ℕ} (hn : 0 < n) (hd : 0 < d) (hn96 : n < 10 ^ ratioDigits)
    (hd96 : d < 10 ^ ratioDigits) : (reducedRatio n d).checked = true := by
  have hterms := (inLowestTerms_iff hn hd).2 rfl
  rw [ExactRatio.checked, Bool.and_eq_true]
  refine ⟨decide_eq_true ⟨?_, hterms.numerator⟩, decide_eq_true ⟨?_, hterms.denominator⟩⟩
  · exact (length_printNat_le (by decide)).2 ((Nat.div_le_self _ _).trans_lt hn96)
  · exact (length_printNat_le (by decide)).2 ((Nat.div_le_self _ _).trans_lt hd96)

def ExactRatio.value (ratio : ExactRatio) : ℚ :=
  Json.digitsValue ratio.numerator / Json.digitsValue ratio.denominator

/-- The rate `{ ...ratio, sourceCurrency, targetCurrency }`. -/
def ExactRatio.directed (ratio : ExactRatio) (sourceCurrency targetCurrency : Text) :
    Value JsNumber :=
  .object [(text "numerator", .string ratio.numerator),
    (text "denominator", .string ratio.denominator),
    (text "sourceCurrency", .string sourceCurrency),
    (text "targetCurrency", .string targetCurrency)]

theorem directedCurrencyRateSchema_directed (h : ratio.checked = true) {source target : Text}
    (hsource : schemaPatterns.code source = true) (htarget : schemaPatterns.code target = true) :
    directedCurrencyRateSchema (ratio.directed source target) = some ⟨ratio, source, target⟩ := by
  have hkeys : (ratio.directed source target).hasKeys [text "numerator", text "denominator",
      text "sourceCurrency", text "targetCurrency"] = true := rfl
  rw [directedCurrencyRateSchema, hkeys]
  show ((do
    guard (ratio.checked = true)
    guard (schemaPatterns.code source = true ∧ schemaPatterns.code target = true)
    return ⟨ratio, source, target⟩) : Option DirectedCurrencyRate) = _
  simp [h, hsource, htarget]

theorem parse_checked (h : parseExactDecimalRate t = .ok ratio) : ratio.checked = true := by
  obtain ⟨whole, fraction, hplain⟩ := exists_plainDecimal h
  obtain ⟨hwhole, hfraction, hne, rfl⟩ := hplain.parse_eq_ok.1 h
  have hall : (whole ++ fraction).all isDigit = true := by
    rw [List.all_append, hplain.digits, hplain.decimals]
    rfl
  refine reducedRatio_checked (Nat.pos_of_ne_zero hne) (Nat.pow_pos (by decide))
    ((digitsValue_lt hall).trans_le (Nat.pow_le_pow_right (by decide) ?_))
    (Nat.pow_lt_pow_right (by decide) (hfraction.trans_lt (by decide)))
  rw [List.length_append]
  exact Nat.add_le_add hwhole hfraction

theorem normalizeExactRatio_checked (h : ratio.checked = true) : (reducedRatio
    (Json.digitsValue ratio.numerator) (Json.digitsValue ratio.denominator)).checked = true := by
  obtain ⟨hn, hd⟩ := ratio.checked_pos h
  rw [ExactRatio.checked, Bool.and_eq_true, positiveRatioInteger, positiveRatioInteger,
    decide_eq_true_eq, decide_eq_true_eq] at h
  have hlt : ∀ t : Text, t.length ≤ ratioDigits ∧ matchesPositive t = true →
      Json.digitsValue t < 10 ^ ratioDigits := by
    rintro t ⟨hlength, hmatches⟩
    rw [← length_printNat_le (by decide), printNat_of_matchesPositive hmatches]
    exact hlength
  exact reducedRatio_checked hn hd (hlt _ h.1) (hlt _ h.2)

/-- **Rates are exact**, and each can be used in a conversion. -/
theorem rates_exact :
    (∀ t, (∃ ratio, parseExactDecimalRate t = .ok ratio) ↔ ∃ whole fraction,
      PlainDecimal t whole fraction ∧ whole.length ≤ 64 ∧ fraction.length ≤ 32 ∧
        0 < decimalValue whole fraction) ∧
    (∀ t whole fraction ratio, PlainDecimal t whole fraction →
      parseExactDecimalRate t = .ok ratio →
        ∀ other, InLowestTerms other (decimalValue whole fraction) ↔ other = ratio) ∧
    (∀ ratio : ExactRatio, ratio.checked = true → ∃ reduced,
      normalizeExactRatio ratio = some reduced ∧
        (∀ other, InLowestTerms other ratio.value ↔ other = reduced) ∧
        normalizeExactRatio reduced = some reduced) ∧
    ∀ ratio, ((∃ t, parseExactDecimalRate t = .ok ratio) ∨
        ∃ given, normalizeExactRatio given = some ratio) →
      ∀ source target, schemaPatterns.code source = true → schemaPatterns.code target = true →
        directedCurrencyRateSchema (ratio.directed source target) =
          some ⟨ratio, source, target⟩ := by
  have hpow : ∀ k : ℕ, 0 < 10 ^ k := fun k => Nat.pow_pos (by decide)
  have hvalue : ∀ whole fraction,
      0 < decimalValue whole fraction ↔ Json.digitsValue (whole ++ fraction) ≠ 0 := by
    intro whole fraction
    rw [decimalValue_eq, div_pos_iff_of_pos_right (Nat.cast_pos.2 (hpow _)), Nat.cast_pos,
      Nat.pos_iff_ne_zero]
  refine ⟨fun t => ⟨?_, ?_⟩, ?_, ?_, ?_⟩
  · rintro ⟨ratio, hparse⟩
    obtain ⟨whole, fraction, hplain⟩ := exists_plainDecimal hparse
    obtain ⟨hwhole, hfraction, hne, -⟩ := hplain.parse_eq_ok.1 hparse
    exact ⟨whole, fraction, hplain, hwhole, hfraction, (hvalue _ _).2 hne⟩
  · rintro ⟨whole, fraction, hplain, hwhole, hfraction, hpos⟩
    exact ⟨_, hplain.parse_eq_ok.2 ⟨hwhole, hfraction, (hvalue _ _).1 hpos, rfl⟩⟩
  · intro t whole fraction ratio hplain hparse other
    obtain ⟨-, -, hne, rfl⟩ := hplain.parse_eq_ok.1 hparse
    rw [decimalValue_eq]
    exact inLowestTerms_iff (Nat.pos_of_ne_zero hne) (hpow _)
  · intro ratio h
    have hpos := ratio.checked_pos h
    have hiff := fun other => @inLowestTerms_iff other _ _ hpos.1 hpos.2
    have hchecked := normalizeExactRatio_checked h
    have hpos' := ExactRatio.checked_pos hchecked
    refine ⟨_, by simp [normalizeExactRatio, h], hiff, ?_⟩
    have hlowest := (hiff _).2 rfl
    have hsame := (inLowestTerms_iff hpos'.1 hpos'.2).1 { hlowest with value := rfl }
    simp only [normalizeExactRatio, hchecked, ← hsame]
    rfl
  · rintro ratio hratio source target hsource htarget
    refine directedCurrencyRateSchema_directed ?_ hsource htarget
    rcases hratio with ⟨t, hparse⟩ | ⟨given, hgiven⟩
    · exact parse_checked hparse
    · simp only [normalizeExactRatio, eq_some] at hgiven
      obtain ⟨hchecked, rfl⟩ := hgiven
      exact normalizeExactRatio_checked hchecked

end Currency

end WebhostBilling
