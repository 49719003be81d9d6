import WebhostBilling.Currency.MoneyTexts
import WebhostBilling.Registrar.RegistrarPreparations

/-!
# Displayed money

Amounts are shown in major units in the forms of the portal, in mails and on invoices, each by a
renderer of its own.  All show the same decimal, and what is typed into a form is read exactly.
-/

namespace WebhostBilling

open Json ResellbizLiveRegistrar

namespace Currency

section

-- What `Intl.NumberFormat('en', { style: 'currency', currency }).resolvedOptions()` says.
variable (maximumFractionDigits : Text → Option ℕ)

/-! ## The form -/

/-- `fractionDigits` of `money-input.ts`. -/
def fractionDigits (currency : Text) : Except Text ℕ :=
  if matchesCode currency = true then .ok ((maximumFractionDigits currency).getD 2)
  else .error (text "Enter a three-letter currency code, such as BDT.")

/-- `amount` is a text of `minorUnitAmountSchema`. -/
def moneyForInput (amount currency : Text) : Except Text Text := do
  let digits ← fractionDigits maximumFractionDigits currency
  let value := Json.digitsValue amount
  let divisor := 10 ^ digits
  let whole := printNat (value / divisor)
  return if digits = 0 then whole
    else whole ++ point :: (printNat (value % divisor)).leftpad digits 0x30

/-- `^\d+(?:\.\d{1,digits})?$`, and `^\d+$` when there are none. -/
def matchesAmount (digits : ℕ) (t : Text) : Bool :=
  t.takeWhile isDigit ≠ [] && match t.dropWhile isDigit with
    | [] => true
    | c :: fraction => digits ≠ 0 ∧ c = point ∧ fraction ≠ [] ∧ fraction.length ≤ digits ∧
      fraction.all isDigit = true

def moneyToMinor (value currency label : Text) : Except Text Text := do
  let digits ← fractionDigits maximumFractionDigits currency
  let t := trim value
  if 40 < t.length ∨ matchesAmount digits t = false then
    throw (label ++ text " must be a non-negative amount with " ++
      (if digits = 0 then text "no decimal places"
        else text "at most " ++ printNat digits ++ text " decimal places") ++
      text " in " ++ currency ++ [point])
  let whole := t.takeWhile (· ≠ point)
  let fraction := (t.dropWhile (· ≠ point)).tail.takeWhile (· ≠ point)
  let padded := fraction.rightpad digits 0x30
  let amount := printNat (Json.digitsValue whole * 10 ^ digits +
    Json.digitsValue (if padded = [] then [0x30] else padded))
  if minorUnitAmount amount = false then throw (label ++ text " exceeds the supported amount.")
  return amount

/-! ## The mail -/

/-- `toLocaleString('en-US')` of a `BigInt`: digits in groups of three. -/
def toLocaleString (n : ℕ) : Text :=
  if n < 1000 then printNat n
  else toLocaleString (n / 1000) ++ comma :: (printNat (n % 1000)).leftpad 3 0x30

/-- `formatMoney` of the templates. -/
def formatMoney (amount : ℕ) (currency : Text) : Text :=
  let digits := (maximumFractionDigits currency).getD 2
  let divisor := 10 ^ digits
  let fraction := (printNat (amount % divisor)).leftpad digits 0x30
  currency ++ blank :: (toLocaleString (amount / divisor) ++
    if 0 < digits then point :: fraction else [])

/-! ## The invoice -/

/-- `(\d{3})+(?!\d)` -/
def matchesThrees : Text → Bool
  | a :: b :: c :: rest => isDigit a && isDigit b && isDigit c &&
    (matchesThrees rest || !rest.head?.any isDigit)
  | _ => false

/-- `[A-Za-z0-9_]` -/
def isWord (c : CodeUnit) : Bool := isAlphanumeric c || c = 0x5F

/-- `replace(/\B(?=(\d{3})+(?!\d))/g, ',')`, after a character that is part of a word or not. -/
def groupFrom : Bool → Text → Text
  | _, [] => []
  | afterWord, c :: cs =>
    if afterWord = isWord c ∧ matchesThrees (c :: cs) = true then
      comma :: c :: groupFrom (isWord c) cs
    else c :: groupFrom (isWord c) cs

def groupDigits (value : Text) : Text := groupFrom false value

/-- `money` of the PDF. -/
def money (value : SerializedMoney) : Text :=
  let amount := Json.digitsValue value.amount
  let digits := if value.currency = text "BDT" then 2
    else (maximumFractionDigits value.currency).getD 2
  let divisor := 10 ^ digits
  let whole := printNat (amount / divisor)
  if digits = 0 then value.currency ++ blank :: groupDigits whole
  else value.currency ++ blank :: (groupDigits whole ++
    point :: (printNat (amount % divisor)).leftpad digits 0x30)

end

/-! ## Groups of digits -/

variable {s t : Text} {c : CodeUnit} {d n : ℕ}

theorem isWord_of_isDigit (h : isDigit c = true) : isWord c = true := by
  rw [isWord, isAlphanumeric, h, Bool.or_true, Bool.true_or]

theorem matchesThrees_eq (t : Text) (h : t.all isDigit = true) :
    matchesThrees t = decide (t ≠ [] ∧ t.length % 3 = 0) := by
  match t with
  | [] | [_] | [_, _] => rfl
  | a :: b :: c :: rest =>
    simp only [List.all_cons, Bool.and_eq_true] at h
    rw [matchesThrees, h.1, h.2.1, h.2.2.1, matchesThrees_eq rest h.2.2.2]
    cases rest with
    | nil => simp
    | cons x xs =>
      rw [List.all_cons, Bool.and_eq_true] at h
      simp [h.2.2.2.1]
      omega

theorem groupFrom_cons (h : (c :: t).all isDigit = true) (afterWord : Bool) :
    groupFrom afterWord (c :: t) =
      (if afterWord = true ∧ (c :: t).length % 3 = 0 then [comma] else []) ++
        c :: groupFrom true t := by
  have hc := isWord_of_isDigit (Bool.and_eq_true _ _ ▸ h : isDigit c = true ∧ _).1
  rw [groupFrom, matchesThrees_eq _ h, hc]
  split <;> simp_all

theorem groupFrom_short (h : t.length < 3) (afterWord : Bool) : groupFrom afterWord t = t := by
  match t, h with
  | [], _ | [_], _ | [_, _], _ => simp [groupFrom, matchesThrees]

/-- A comma stands before the last three digits, and those before them are grouped alone. -/
theorem groupFrom_append (hs : s.all isDigit = true) (ht : t.all isDigit = true)
    (hne : s ≠ []) (hlength : t.length = 3) (afterWord : Bool) :
    groupFrom afterWord (s ++ t) = groupFrom afterWord s ++ comma :: t := by
  induction s generalizing afterWord with
  | nil => exact absurd rfl hne
  | cons c s ih =>
    have hall : (c :: (s ++ t)).all isDigit = true := by simp_all
    have hlength' : (c :: (s ++ t)).length % 3 = (c :: s).length % 3 := by simp [hlength]; omega
    rw [List.cons_append, groupFrom_cons hall, groupFrom_cons hs, hlength', List.append_assoc]
    cases s with
    | nil =>
      match t, hlength with
      | [x, y, z], _ => simp [groupFrom_cons ht, groupFrom_short]
    | cons x xs =>
      rw [ih (Bool.and_eq_true _ _ ▸ hs : _ ∧ _).2 (List.cons_ne_nil _ _), List.cons_append]

theorem digitsValue_zeros (k : ℕ) : Json.digitsValue (List.replicate k 0x30) = 0 := by
  induction k with
  | zero => rfl
  | succ k ih => rw [List.replicate_succ, Json.digitsValue_cons, ih]; rfl

/-- A number below a power of ten, with zeros before it. -/
theorem leftpad_digits (hn : n < 10 ^ d) (hd : 0 < d) :
    ((printNat n).leftpad d 0x30).all isDigit = true ∧
      ((printNat n).leftpad d 0x30).length = d ∧
      Json.digitsValue ((printNat n).leftpad d 0x30) = n := by
  refine ⟨?_, ?_, ?_⟩
  · rw [List.leftpad, List.all_append, all_isDigit_printNat, Bool.and_true, List.all_replicate]
    split <;> rfl
  · have := (length_printNat_le hd).2 hn
    rw [List.leftpad, List.length_append, List.length_replicate]
    omega
  · rw [List.leftpad, Json.digitsValue_append, digitsValue_zeros, digitsValue_printNat,
      Nat.mul_zero, Nat.zero_add]

theorem leftpad_thousands (n : ℕ) :
    ((printNat (n % 1000)).leftpad 3 0x30).all isDigit = true ∧
      ((printNat (n % 1000)).leftpad 3 0x30).length = 3 ∧
      Json.digitsValue ((printNat (n % 1000)).leftpad 3 0x30) = n % 1000 :=
  leftpad_digits (Nat.mod_lt n (by decide)) (by decide)

/-- The last three digits of a printed number. -/
theorem printNat_thousands (hn : 1000 ≤ n) :
    printNat n = printNat (n / 1000) ++ (printNat (n % 1000)).leftpad 3 0x30 := by
  obtain ⟨hdigits, hlength, hvalue⟩ := leftpad_thousands n
  have hwhole := isWhole_printNat (n / 1000)
  have hpos : printNat (n / 1000) ≠ [0x30] := fun h => by
    have := printNat_inj (h.trans (rfl : _ = printNat 0))
    omega
  rw [Json.isWhole, decide_eq_true_eq] at hwhole
  rw [← printNat_digitsValue (t := _ ++ _), Json.digitsValue_append, hlength, hvalue,
    digitsValue_printNat, show 10 ^ 3 = 1000 from rfl, Nat.div_add_mod]
  · rw [List.all_append, all_isDigit_printNat, hdigits]; rfl
  · rw [Json.isWhole, decide_eq_true_eq, List.head?_append_of_ne_nil _ hwhole.1]
    refine ⟨List.append_ne_nil_of_left_ne_nil hwhole.1 _, fun hhead => absurd ?_ hpos⟩
    have hone := hwhole.2 hhead
    obtain ⟨c, hc⟩ := List.length_eq_one_iff.1 hone
    rw [hc] at hhead ⊢
    rw [Option.some.inj hhead]

/-- **The lookahead of the invoice groups by thousands**, as `toLocaleString` does. -/
theorem groupDigits_printNat (n : ℕ) : groupDigits (printNat n) = toLocaleString n := by
  induction n using Nat.strongRecOn with
  | ind n ih =>
    rw [toLocaleString]
    split
    · rename_i hlt
      have hdigits := all_isDigit_printNat n
      have hlength := (length_printNat_le (k := 3) (by decide)).2 hlt
      match printNat n, hdigits, hlength with
      | [], _, _ => rfl
      | c :: cs, hdigits, hlength =>
        simp [groupDigits, groupFrom_cons hdigits, groupFrom_short (Nat.lt_of_succ_le hlength)]
    · rename_i hle
      obtain ⟨hdigits, hlength, -⟩ := leftpad_thousands n
      have hwhole := isWhole_printNat (n / 1000)
      rw [Json.isWhole, decide_eq_true_eq] at hwhole
      rw [printNat_thousands (not_lt.1 hle), groupDigits, groupFrom_append
        (all_isDigit_printNat _) hdigits hwhole.1 hlength, ← groupDigits, ih _ (by omega)]

/-! ## Decimals -/

/-- Digits, and a fraction after a point where there is one. -/
structure UnsignedDecimal (t whole fraction : Text) : Prop where
  digits : (whole ++ fraction).all isDigit = true
  whole_ne : whole ≠ []
  text : t = whole ++ if fraction = [] then [] else point :: fraction

namespace UnsignedDecimal

variable {whole fraction : Text}

theorem parts (h : UnsignedDecimal t whole fraction) :
    (∀ c ∈ whole, isDigit c = true) ∧ ∀ c ∈ fraction, isDigit c = true := by
  have hdigits := h.digits
  rw [List.all_append, Bool.and_eq_true, List.all_eq_true, List.all_eq_true] at hdigits
  exact hdigits

theorem cut (h : UnsignedDecimal t whole fraction) {p : CodeUnit → Bool}
    (hdigit : ∀ c, isDigit c = true → p c = true) (hpoint : p point = false) :
    t.takeWhile p = whole ∧
      t.dropWhile p = if fraction = [] then [] else point :: fraction := by
  have hp : ∀ c ∈ whole, p c = true := fun c hc => hdigit c (h.parts.1 c hc)
  rw [h.text, List.takeWhile_append_of_pos hp, List.dropWhile_append_of_pos hp]
  split <;> simp [hpoint]

theorem not_mem {c : CodeUnit} (h : UnsignedDecimal t whole fraction) (hc : isDigit c = false)
    (hpoint : c ≠ point) : c ∉ t := by
  have hparts := h.parts
  rw [h.text, List.mem_append]
  rintro (hmem | hmem)
  · exact absurd (hparts.1 c hmem) (by simp [hc])
  · split at hmem
    · exact absurd hmem List.not_mem_nil
    · rcases List.mem_cons.1 hmem with rfl | hmem
      · exact hpoint rfl
      · exact absurd (hparts.2 c hmem) (by simp [hc])

theorem trim_eq (h : UnsignedDecimal t whole fraction) : trim t = t := by
  have hdrop : ∀ s : Text, (∀ c ∈ s, c ∈ t) → s.dropWhile isSpace = s := by
    intro s hs
    cases s with
    | nil => rfl
    | cons c s =>
      refine List.dropWhile_cons_of_neg fun hspace => ?_
      have hnot : isDigit c = false ∧ c ≠ point := by
        refine ⟨?_, by rintro rfl; exact absurd hspace (by decide)⟩
        rw [← Bool.not_eq_true]
        intro hdigit
        have := toNat_digit hdigit
        simp only [isSpace, decide_eq_true_eq, List.mem_cons, List.not_mem_nil, or_false,
          UInt16.le_iff_toNat_le, ← UInt16.toNat_inj, UInt16.reduceToNat] at hspace
        have hblank : blank.toNat = 0x20 := rfl
        omega
      exact h.not_mem hnot.1 hnot.2 (hs c List.mem_cons_self)
  rw [trim, hdrop t fun _ hc => hc, hdrop _ fun _ hc => List.mem_reverse.1 hc,
    List.reverse_reverse]

theorem value (h : UnsignedDecimal t whole fraction) :
    Json.decimalValue t = Json.digitsValue (whole ++ fraction) / 10 ^ fraction.length := by
  have hminus : t.head? ≠ some minus := fun hhead =>
    h.not_mem (c := minus) rfl (by decide) (List.mem_of_head? hhead)
  have hdrop : dropMinus t = t := by
    cases t with
    | nil => rfl
    | cons c cs => exact if_neg fun hc => hminus (congrArg some hc)
  obtain ⟨htake, hrest⟩ := h.cut (p := isDigit) (fun _ hc => hc) rfl
  have hsplit : splitFraction (if fraction = [] then [] else point :: fraction) =
      (fraction, []) := by
    split
    · rename_i hnil
      rw [hnil]
      rfl
    · rw [splitFraction, if_pos rfl, List.takeWhile_eq_self_iff.2 h.parts.2,
        List.dropWhile_eq_nil_iff.2 h.parts.2]
  simp only [Json.decimalValue, hdrop, htake, hrest, hsplit, if_neg hminus, exponentValue]
  rw [zero_sub, zpow_neg, zpow_natCast, div_eq_mul_inv]

theorem minor (h : UnsignedDecimal t whole fraction) (hlength : fraction.length ≤ d) :
    ((Json.digitsValue whole * 10 ^ d + Json.digitsValue (fraction.rightpad d 0x30) : ℕ) : ℚ) =
      Json.decimalValue t * 10 ^ d := by
  have hpow : (10 : ℚ) ^ d = 10 ^ fraction.length * 10 ^ (d - fraction.length) := by
    rw [← pow_add, Nat.add_sub_cancel' hlength]
  rw [h.value, List.rightpad, Json.digitsValue_append, Json.digitsValue_append, digitsValue_zeros,
    List.length_replicate, hpow]
  push_cast
  rw [hpow]
  field_simp
  ring

end UnsignedDecimal

theorem matchesAmount_iff : matchesAmount d t = true ↔
    ∃ whole fraction, UnsignedDecimal t whole fraction ∧ fraction.length ≤ d := by
  constructor
  · intro h
    rw [matchesAmount, Bool.and_eq_true, decide_eq_true_eq] at h
    obtain ⟨hne, hrest⟩ := h
    have hsplit := (List.takeWhile_append_dropWhile (p := isDigit) (l := t)).symm
    have hwhole : (t.takeWhile isDigit).all isDigit = true :=
      List.all_eq_true.2 fun c hc => (List.mem_takeWhile_imp hc)
    split at hrest
    · rename_i hnil
      exact ⟨_, [], ⟨by rwa [List.append_nil], hne, by rwa [hnil] at hsplit⟩, Nat.zero_le _⟩
    · rename_i c fraction hcons
      rw [decide_eq_true_eq] at hrest
      obtain ⟨-, rfl, hfraction, hlength, hdigits⟩ := hrest
      refine ⟨_, fraction, ⟨by rw [List.all_append, hwhole, hdigits]; rfl, hne, ?_⟩, hlength⟩
      rwa [if_neg hfraction, ← hcons]
  · rintro ⟨whole, fraction, h, hlength⟩
    obtain ⟨htake, hrest⟩ := h.cut (p := isDigit) (fun _ hc => hc) rfl
    rw [matchesAmount, htake, hrest, Bool.and_eq_true, decide_eq_true_eq]
    refine ⟨h.whole_ne, ?_⟩
    by_cases hnil : fraction = []
    · rw [if_pos hnil]
    · rw [if_neg hnil]
      have hpos := List.length_pos_iff.2 hnil
      exact decide_eq_true ⟨by omega, rfl, hnil, hlength, List.all_eq_true.2 h.parts.2⟩

variable {maximumFractionDigits : Text → Option ℕ} {currency label : Text} {result : Text}

/-- **What is typed is read exactly**, when it is a decimal of the currency. -/
theorem moneyToMinor_iff (hcurrency : matchesCode currency = true) :
    moneyToMinor maximumFractionDigits s currency label = .ok result ↔
      (trim s).length ≤ 40 ∧ ∃ whole fraction, UnsignedDecimal (trim s) whole fraction ∧
        fraction.length ≤ (maximumFractionDigits currency).getD 2 ∧
        ∃ n ≤ postgresBigintMax, result = printNat n ∧
          (n : ℚ) = Json.decimalValue (trim s) * 10 ^ (maximumFractionDigits currency).getD 2 := by
  generalize hd : (maximumFractionDigits currency).getD 2 = d
  have hinput : ∀ {whole fraction}, UnsignedDecimal (trim s) whole fraction →
      (trim s).takeWhile (· ≠ point) = whole ∧
        ((trim s).dropWhile (· ≠ point)).tail.takeWhile (· ≠ point) = fraction := by
    intro whole fraction h
    have hdigit : ∀ c, isDigit c = true → decide (c ≠ point) = true := by
      refine fun c hc => decide_eq_true ?_
      rintro rfl
      exact absurd hc (by decide)
    obtain ⟨htake, hrest⟩ := h.cut hdigit (decide_eq_false (not_not.2 rfl))
    refine ⟨htake, ?_⟩
    rw [hrest]
    split
    · rename_i hnil
      rw [hnil]
      rfl
    · exact List.takeWhile_eq_self_iff.2 fun c hc => hdigit c (h.parts.2 c hc)
  have hzero : ∀ padded : Text,
      Json.digitsValue (if padded = [] then [0x30] else padded) = Json.digitsValue padded := by
    intro padded
    split
    · rename_i hnil
      rw [hnil]
      rfl
    · rfl
  simp only [moneyToMinor, fractionDigits, if_pos hcurrency, hd, bind, Except.bind, throw,
    throwThe, MonadExceptOf.throw, pure, Except.pure, hzero]
  constructor
  · intro h
    split at h
    · exact nomatch h
    · rename_i hguard
      rw [not_or, not_lt, Bool.not_eq_false] at hguard
      obtain ⟨whole, fraction, hdecimal, hlength⟩ := matchesAmount_iff.1 hguard.2
      split at h
      · exact nomatch h
      · rename_i hfits
        rw [Bool.not_eq_false, minorUnitAmount_iff] at hfits
        obtain ⟨n, hn, hprint⟩ := hfits
        have hminor := hdecimal.minor hlength
        rw [← (hinput hdecimal).1, ← (hinput hdecimal).2, printNat_inj hprint] at hminor
        exact ⟨hguard.1, whole, fraction, hdecimal, hlength, n, hn,
          (Except.ok.inj h).symm.trans hprint, hminor⟩
  · rintro ⟨hshort, whole, fraction, hdecimal, hlength, n, hn, rfl, hvalue⟩
    have hminor := (hdecimal.minor hlength).trans hvalue.symm
    rw [if_neg (not_or.2 ⟨not_lt.2 hshort,
      Bool.not_eq_false _ ▸ matchesAmount_iff.2 ⟨whole, fraction, hdecimal, hlength⟩⟩),
      (hinput hdecimal).1, (hinput hdecimal).2, Nat.cast_injective hminor,
      if_neg (Bool.not_eq_false _ ▸ (minorUnitAmount_iff _).2 ⟨n, hn, rfl⟩)]

theorem filter_groupFrom (afterWord : Bool) (t : Text) :
    (groupFrom afterWord t).filter (· ≠ comma) = t.filter (· ≠ comma) := by
  induction t generalizing afterWord with
  | nil => rfl
  | cons c cs ih =>
    rw [groupFrom]
    split
    · rw [List.filter_cons_of_neg (by simp), List.filter_cons, List.filter_cons, ih]
    · rw [List.filter_cons, List.filter_cons, ih]

theorem filter_digits (h : t.all isDigit = true) : t.filter (· ≠ comma) = t := by
  refine List.filter_eq_self.2 fun c hc => decide_eq_true ?_
  rintro rfl
  exact absurd (List.all_eq_true.1 h _ hc) (by decide)

theorem filter_toLocaleString (n : ℕ) : (toLocaleString n).filter (· ≠ comma) = printNat n := by
  rw [← groupDigits_printNat, groupDigits, filter_groupFrom, filter_digits (all_isDigit_printNat n)]

/-- **Displayed money is the billed money**: the form, the mail and the invoice show one decimal,
whose value is the amount, and the form reads exactly the decimals of its currency. -/
theorem displayed_money_is_billed (hbdt : maximumFractionDigits (text "BDT") = some 2)
    (hcurrency : matchesCode currency = true)
    (hdigits : (maximumFractionDigits currency).getD 2 ≤ 20) :
    (∀ a ≤ postgresBigintMax, ∃ shown grouped,
      moneyForInput maximumFractionDigits (printNat a) currency = .ok shown ∧
      formatMoney maximumFractionDigits a currency = currency ++ blank :: grouped ∧
      money maximumFractionDigits ⟨printNat a, currency⟩ = currency ++ blank :: grouped ∧
      grouped.filter (· ≠ comma) = shown ∧
      Json.decimalValue shown = a / 10 ^ (maximumFractionDigits currency).getD 2 ∧
      ∀ label, moneyToMinor maximumFractionDigits shown currency label = .ok (printNat a)) ∧
    ∀ s label result, moneyToMinor maximumFractionDigits s currency label = .ok result ↔
      (trim s).length ≤ 40 ∧ ∃ whole fraction, UnsignedDecimal (trim s) whole fraction ∧
        fraction.length ≤ (maximumFractionDigits currency).getD 2 ∧
        ∃ n ≤ postgresBigintMax, result = printNat n ∧
          (n : ℚ) = Json.decimalValue (trim s) * 10 ^ (maximumFractionDigits currency).getD 2 := by
  refine ⟨fun a ha => ?_, fun s label result => moneyToMinor_iff hcurrency⟩
  have hmoney : (if currency = text "BDT" then 2 else (maximumFractionDigits currency).getD 2) =
      (maximumFractionDigits currency).getD 2 := by
    split
    · rename_i heq
      rw [heq, hbdt]
      rfl
    · rfl
  have hminor := fun shown label =>
    @moneyToMinor_iff shown maximumFractionDigits currency label (printNat a) hcurrency
  generalize hd : (maximumFractionDigits currency).getD 2 = d at *
  have hpos : (0 : ℚ) < 10 ^ d := by positivity
  -- Without fraction digits there is no point.
  obtain ⟨fraction, hfraction, hvalue, hall⟩ : ∃ fraction : Text, fraction.length = d ∧
      Json.digitsValue fraction = a % 10 ^ d ∧ fraction.all isDigit = true ∧
      (0 < d → fraction = (printNat (a % 10 ^ d)).leftpad d 0x30) := by
    rcases Nat.eq_zero_or_pos d with rfl | hd
    · exact ⟨[], rfl, by simp [Json.digitsValue, Nat.mod_one], rfl, nofun⟩
    · obtain ⟨hall, hlength, hvalue⟩ := leftpad_digits (Nat.mod_lt a (Nat.pow_pos (by decide))) hd
      exact ⟨_, hlength, hvalue, hall, fun _ => rfl⟩
  obtain ⟨hall, heq⟩ := hall
  have hnil : fraction = [] ↔ d = 0 := by rw [← hfraction, List.length_eq_zero_iff]
  have hdecimal : UnsignedDecimal (printNat (a / 10 ^ d) ++
      if fraction = [] then [] else point :: fraction) (printNat (a / 10 ^ d)) fraction :=
    ⟨by rw [List.all_append, all_isDigit_printNat, hall]; rfl, fun h => by
      have := isWhole_printNat (a / 10 ^ d)
      simp [Json.isWhole, h] at this, rfl⟩
  have hshown := hdecimal.value
  rw [Json.digitsValue_append, hvalue, digitsValue_printNat, hfraction, Nat.div_add_mod] at hshown
  refine ⟨_, toLocaleString (a / 10 ^ d) ++ if fraction = [] then [] else point :: fraction,
    ?_, ?_, ?_, ?_, hshown, fun label => ?_⟩
  · simp only [moneyForInput, fractionDigits, if_pos hcurrency, hd, bind, Except.bind, pure,
      Except.pure, digitsValue_printNat, hnil]
    split
    · rw [List.append_nil]
    · rw [heq (Nat.pos_of_ne_zero ‹_›)]
  · simp only [formatMoney, hd, hnil]
    rcases Nat.eq_zero_or_pos d with hzero | hpos
    · rw [if_neg (by omega), if_pos hzero]
    · rw [if_pos hpos, if_neg (by omega), heq hpos]
  · simp only [money, hd, hmoney, digitsValue_printNat, groupDigits_printNat, hnil]
    split
    · rw [List.append_nil]
    · rw [heq (Nat.pos_of_ne_zero ‹_›)]
  · rw [List.filter_append, filter_toLocaleString]
    congr 1
    split
    · rfl
    · rw [List.filter_cons_of_pos (by decide), filter_digits hall]
  · refine (hminor _ label).2 ⟨?_, _, fraction, by rwa [hdecimal.trim_eq], hfraction.le, a, ha, rfl,
      ?_⟩
    · have hwhole : (printNat (a / 10 ^ d)).length ≤ 19 :=
        (length_printNat_le (by decide)).2 (((Nat.div_le_self _ _).trans ha).trans_lt (by decide))
      rw [hdecimal.trim_eq, List.length_append]
      split
      · rw [List.length_nil]
        omega
      · rw [List.length_cons, hfraction]
        omega
    · rw [hdecimal.trim_eq, hshown, div_mul_cancel₀ _ hpos.ne']

/-- Yen have no fraction digits, and taka two. -/
theorem displayed_taka : ∃ shown grouped,
    moneyForInput (fun c => some (if c = text "JPY" then 0 else 2)) (printNat 123456700)
      (text "BDT") = .ok shown ∧
    money (fun c => some (if c = text "JPY" then 0 else 2)) ⟨printNat 123456700, text "BDT"⟩ =
      text "BDT" ++ blank :: grouped ∧ grouped.filter (· ≠ comma) = shown := by
  obtain ⟨shown, grouped, hform, -, hpdf, hsame, -⟩ := (@displayed_money_is_billed
    (fun c => some (if c = text "JPY" then 0 else 2)) (text "BDT") rfl rfl (by decide)).1
    123456700 (by decide)
  exact ⟨shown, grouped, hform, hpdf, hsame⟩

end Currency

end WebhostBilling
