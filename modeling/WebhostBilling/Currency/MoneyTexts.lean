import WebhostBilling.Currency.CurrencyArithmetic
import WebhostBilling.Currency.SelectionIntent
import WebhostBilling.Gateways.ProviderAnswers
import WebhostBilling.Json.Decimals
import WebhostBilling.Settings.InvoiceNumbering

/-!
# Texts of money

The providers are told an amount in major units, with two decimals; the API serializes it in minor
units, as digits.  Both texts give the amount back.
-/

namespace WebhostBilling

open Json Store WebhostBilling

namespace Currency

/-! ## Major units -/

def minorToMajor (amount : ℤ) : Except Failure String := do
  require (0 ≤ amount) invalidMoney
  let whole := amount / 100
  let fraction := Settings.padStart (toString (amount % 100)) 2 '0'
  return toString whole ++ "." ++ fraction

/-- A canonical amount with two decimals at most. -/
structure MajorAmount (s : String) (whole fraction : List Char) : Prop where
  digits : ∀ c ∈ whole ++ fraction, c.isDigit = true
  canonical : isWhole whole = true
  short : fraction.length ≤ 2
  text : s.toList = whole ++ if fraction = [] then [] else '.' :: fraction

def twoDecimals (whole fraction : List Char) : String :=
  String.ofList (whole ++ '.' :: (fraction ++ List.replicate (2 - fraction.length) '0'))

variable {s : String} {whole fraction : List Char}

theorem leftpad_hundredths : ∀ n < 100,
    (Nat.toDigits 10 n).leftpad 2 '0' = [(n / 10).digitChar, (n % 10).digitChar] := by
  decide +kernel

theorem minorToMajor_natCast (n : ℕ) : minorToMajor n = .ok (twoDecimals (Nat.toDigits 10 (n / 100))
    [(n % 100 / 10).digitChar, (n % 10).digitChar]) := by
  have hpad := leftpad_hundredths (n % 100) (Nat.mod_lt _ (by decide))
  rw [show n % 100 % 10 = n % 10 by omega] at hpad
  have hprint : ∀ k : ℕ, toString (k : ℤ) = String.ofList (Nat.toDigits 10 k) := fun k =>
    Nat.toString_eq_ofList_toDigits
  rw [minorToMajor, require_true _ (Int.natCast_nonneg n)]
  show Except.ok (toString ((n / 100 : ℕ) : ℤ) ++ "." ++
    Settings.padStart (toString ((n % 100 : ℕ) : ℤ)) 2 '0') = _
  rw [hprint, hprint, Settings.padStart, String.toList_ofList, hpad]
  refine congrArg Except.ok (String.toList_inj.1 ?_)
  simp [twoDecimals]

theorem minorToMajor_inj {m n : ℕ} (h : minorToMajor m = minorToMajor n) : m = n := by
  rw [minorToMajor_natCast, minorToMajor_natCast] at h
  have hlist := congrArg String.toList (Except.ok.inj h)
  rw [twoDecimals, twoDecimals, String.toList_ofList, String.toList_ofList] at hlist
  obtain ⟨hwhole, hfraction⟩ := List.append_inj' hlist rfl
  have hwhole' := congrArg (Nat.ofDigitChars 10 · 0) hwhole
  simp only [Nat.ofDigitChars_ten_toDigits] at hwhole'
  obtain ⟨htens, hunits⟩ : _ ∧ _ := by simpa using hfraction
  have hinj : ∀ j < 10, ∀ k < 10, j.digitChar = k.digitChar → j = k := by decide
  have htens' := hinj _ (by omega) _ (by omega) htens
  have hunits' := hinj _ (by omega) _ (by omega) hunits
  omega

namespace MajorAmount

theorem hundredths_eq (h : MajorAmount s whole fraction) :
    ∃ f < 100, hundredths (if fraction = [] then [] else '.' :: fraction) = some f ∧
      fraction ++ List.replicate (2 - fraction.length) '0' =
        [(f / 10).digitChar, (f % 10).digitChar] := by
  have hdigits : ∀ c ∈ fraction, c.isDigit = true := fun c hc =>
    h.digits c (List.mem_append_right _ hc)
  match fraction, h.short with
  | [], _ => exact ⟨0, by decide, rfl, rfl⟩
  | [t], _ =>
    have ht := hdigits t (by simp)
    obtain ⟨hlt, hchar⟩ := digitChar_sub ht
    refine ⟨10 * (t.toNat - '0'.toNat), by omega, ?_, ?_⟩
    · simp [hundredths, ht, digitsValue]
    · rw [Nat.mul_div_cancel_left _ (by decide), Nat.mul_mod_right, hchar]
      rfl
  | [t, u], _ =>
    have ht := hdigits t (by simp)
    have hu := hdigits u (by simp)
    obtain ⟨hlt, hchar⟩ := digitChar_sub ht
    obtain ⟨hlt', hchar'⟩ := digitChar_sub hu
    refine ⟨10 * (t.toNat - '0'.toNat) + (u.toNat - '0'.toNat), by omega, ?_, ?_⟩
    · simp [hundredths, ht, hu, digitsValue]
    · rw [Nat.mul_add_div (by decide), Nat.div_eq_of_lt hlt', Nat.mul_add_mod,
        Nat.mod_eq_of_lt hlt', Nat.add_zero, hchar, hchar']
      rfl

theorem codec (h : MajorAmount s whole fraction) :
    ∃ n : ℕ, majorToMinor s = .ok (n : ℤ) ∧ minorToMajor n = .ok (twoDecimals whole fraction) := by
  have hwhole : ∀ c ∈ whole, c.isDigit = true := fun c hc =>
    h.digits c (List.mem_append_left _ hc)
  obtain ⟨f, hf, hhundredths, hpadded⟩ := h.hundredths_eq
  have hcut : s.toList.takeWhile Char.isDigit = whole ∧ s.toList.dropWhile Char.isDigit =
      if fraction = [] then [] else '.' :: fraction := by
    rw [h.text, List.takeWhile_append_of_pos hwhole, List.dropWhile_append_of_pos hwhole]
    split <;> simp
  have hcanonical := h.canonical
  rw [isWhole, decide_eq_true_eq] at hcanonical
  have hprinted : Nat.toDigits 10 (digitsValue whole) = whole := by
    refine toDigits_ofDigitChars hwhole ?_ ?_
    · rintro rfl
      simp at hcanonical
    · rcases hcanonical with rfl | ⟨-, hhead⟩
      · exact fun _ => rfl
      · exact fun heq => absurd heq hhead
  refine ⟨digitsValue whole * 100 + f, ?_, ?_⟩
  · rw [majorToMinor_eq_ok, majorToMinor?, hcut.1, hcut.2, h.canonical, hhundredths]
    simp
  · rw [minorToMajor_natCast, show (digitsValue whole * 100 + f) / 100 =
      digitsValue whole by omega, show
      (digitsValue whole * 100 + f) % 100 = f by omega,
      show (digitsValue whole * 100 + f) % 10 = f % 10 by omega, hprinted]
    simp [twoDecimals, hpadded]

end MajorAmount

/-- What `majorToMinor` accepts has the form. -/
theorem exists_majorAmount {n : ℤ} (h : majorToMinor s = .ok n) :
    ∃ whole fraction, MajorAmount s whole fraction := by
  rw [majorToMinor_eq_ok, majorToMinor?] at h
  simp only [eq_some] at h
  obtain ⟨hcanonical, f, hfraction, -⟩ := h
  have hdigits : ∀ c ∈ s.toList.takeWhile Char.isDigit, c.isDigit = true :=
    List.all_eq_true.1 List.all_takeWhile
  have hsplit := (List.takeWhile_append_dropWhile (p := Char.isDigit) (l := s.toList)).symm
  unfold hundredths at hfraction
  split at hfraction
  · rename_i hdrop
    exact ⟨_, [], by simpa using hdigits, hcanonical, by simp, by rwa [hdrop] at hsplit⟩
  · rename_i t hdrop
    split at hfraction
    · rename_i ht
      refine ⟨_, [t], ?_, hcanonical, by simp, by rwa [hdrop] at hsplit⟩
      exact List.forall_mem_append.2 ⟨hdigits, by simpa using ht⟩
    · exact nomatch hfraction
  · rename_i t u hdrop
    split at hfraction
    · rename_i htu
      refine ⟨_, [t, u], ?_, hcanonical, by simp, by rwa [hdrop] at hsplit⟩
      exact List.forall_mem_append.2 ⟨hdigits, by simpa using htu⟩
    · exact nomatch hfraction
  · exact nomatch hfraction

theorem majorAmount_natCast (n : ℕ) : MajorAmount
    (twoDecimals (Nat.toDigits 10 (n / 100)) [(n % 100 / 10).digitChar, (n % 10).digitChar])
    (Nat.toDigits 10 (n / 100)) [(n % 100 / 10).digitChar, (n % 10).digitChar] where
  digits := by
    have hdigit : ∀ k < 10, k.digitChar.isDigit = true := by decide
    refine List.forall_mem_append.2 ⟨fun c hc =>
      Nat.isDigit_of_mem_toDigits (by decide) (by decide) hc, ?_⟩
    simp [hdigit _ (show n % 100 / 10 < 10 by omega), hdigit _ (show n % 10 < 10 by omega)]
  canonical := by
    rw [isWhole, decide_eq_true_eq]
    by_cases hzero : n / 100 = 0
    · exact .inl (by rw [hzero]; rfl)
    · exact .inr ⟨Nat.toDigits_ne_nil, fun hhead => hzero (eq_zero_of_head_toDigits hhead)⟩
  short := le_rfl
  text := by simp [twoDecimals]

/-! ## Minor units -/

/-- `minorUnitAmountSchema` -/
def minorUnitAmount (t : Text) : Bool := matchesWhole t = true ∧ fitsPostgresBigint t = true

structure SerializedMoney where
  amount : Text
  currency : Text

structure MoneyValue where
  amount : ℕ
  currency : Text

def SerializedMoney.toValue (money : SerializedMoney) : Value JsNumber :=
  .object [(text "amount", .string money.amount), (text "currency", .string money.currency)]

def moneySchema (v : Value JsNumber) : Option SerializedMoney := do
  guard (v.hasKeys [text "amount", text "currency"] = true)
  let amount ← (← v.member (text "amount")).text?
  let currency ← (← v.member (text "currency")).text?
  guard (minorUnitAmount amount = true ∧ matchesCode currency = true)
  return ⟨amount, currency⟩

def serializeMoney (amount : ℤ) (currency : Text) : Option SerializedMoney :=
  moneySchema (SerializedMoney.toValue ⟨printInt amount, currency⟩)

def parseMoney (value : Value JsNumber) : Option MoneyValue := do
  let serialized ← moneySchema value
  return ⟨Json.digitsValue serialized.amount, serialized.currency⟩

theorem moneySchema_toValue (money : SerializedMoney) : moneySchema money.toValue =
    if minorUnitAmount money.amount = true ∧ matchesCode money.currency = true then some money
    else none := by
  have hkeys : money.toValue.hasKeys [text "amount", text "currency"] = true := rfl
  rw [moneySchema, hkeys]
  show ((do
    guard (minorUnitAmount money.amount = true ∧ matchesCode money.currency = true)
    return money) : Option SerializedMoney) = _
  split <;> simp [*]

theorem minorUnitAmount_iff (t : Text) :
    minorUnitAmount t = true ↔ ∃ n : ℕ, n ≤ postgresBigintMax ∧ t = printNat n := by
  rw [minorUnitAmount, decide_eq_true_eq, fitsPostgresBigint, decide_eq_true_eq, matchesWhole,
    decide_eq_true_eq]
  constructor
  · rintro ⟨⟨hdigits, hwhole⟩, -, hfits⟩
    have hprinted := printNat_digitsValue hdigits hwhole
    rw [← hprinted, printNat_le_iff] at hfits
    exact ⟨_, hfits, hprinted.symm⟩
  · rintro ⟨n, hle, rfl⟩
    have hmatches := And.intro (all_isDigit_printNat n) (isWhole_printNat n)
    exact ⟨hmatches, hmatches, (printNat_le_iff _ _).2 hle⟩

theorem minorUnitAmount_printInt (n : ℤ) :
    minorUnitAmount (printInt n) = true ↔ 0 ≤ n ∧ n ≤ postgresBigintMax := by
  rw [minorUnitAmount_iff, printInt]
  split
  · rename_i hneg
    refine iff_of_false ?_ (by omega)
    rintro ⟨k, -, heq⟩
    have hdigit := isDigit_of_mem_printNat (heq ▸ List.mem_cons_self : minus ∈ printNat k)
    exact absurd hdigit (by decide)
  · rename_i hpos
    constructor
    · rintro ⟨k, hle, heq⟩
      have hk := printNat_inj heq
      omega
    · rintro ⟨-, hle⟩
      exact ⟨_, by omega, rfl⟩

/-- **The texts of money are exact.** -/
theorem money_exact :
    (∀ n : ℤ, 0 ≤ n → ∃ s, minorToMajor n = .ok s ∧ majorToMinor s = .ok n) ∧
    (∀ s, (∃ n, majorToMinor s = .ok n) ↔ ∃ whole fraction, MajorAmount s whole fraction) ∧
    (∀ s whole fraction n, MajorAmount s whole fraction → majorToMinor s = .ok n →
      minorToMajor n = .ok (twoDecimals whole fraction)) ∧
    (∀ t, minorUnitAmount t = true ↔ ∃ n : ℕ, n ≤ postgresBigintMax ∧ t = printNat n) ∧
    ∀ (n : ℤ) (currency : Text), matchesCode currency = true →
      (0 ≤ n ∧ n ≤ postgresBigintMax → ∃ money, serializeMoney n currency = some money ∧
        parseMoney money.toValue = some ⟨n.toNat, currency⟩) ∧
      (¬ (0 ≤ n ∧ n ≤ postgresBigintMax) → serializeMoney n currency = none) := by
  refine ⟨fun n hn => ?_, fun s => ⟨?_, ?_⟩, ?_, minorUnitAmount_iff, ?_⟩
  · obtain ⟨n, rfl⟩ := Int.eq_ofNat_of_zero_le hn
    obtain ⟨m, hmajor, hminor⟩ := (majorAmount_natCast n).codec
    rw [← minorToMajor_inj (hminor.trans (minorToMajor_natCast n).symm)]
    exact ⟨_, hminor, hmajor⟩
  · rintro ⟨n, h⟩
    exact exists_majorAmount h
  · rintro ⟨whole, fraction, h⟩
    obtain ⟨n, hn, -⟩ := h.codec
    exact ⟨n, hn⟩
  · intro s whole fraction n h hn
    obtain ⟨m, hm, hmajor⟩ := h.codec
    rw [hm] at hn
    cases hn
    exact hmajor
  · intro n currency hcurrency
    rw [← minorUnitAmount_printInt]
    refine ⟨fun hamount => ⟨_, (moneySchema_toValue _).trans (if_pos ⟨hamount, hcurrency⟩), ?_⟩,
      fun hamount => (moneySchema_toValue _).trans (if_neg fun h => hamount h.1)⟩
    rw [parseMoney, moneySchema_toValue, if_pos ⟨hamount, hcurrency⟩]
    have hpos := ((minorUnitAmount_printInt n).1 hamount).1
    simp [printInt, not_lt.2 hpos, digitsValue_printNat]
    omega

end Currency

end WebhostBilling
