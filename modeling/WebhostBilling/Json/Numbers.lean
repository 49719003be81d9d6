import Mathlib.Data.Int.Log
import Mathlib.Data.List.TakeWhile
import Mathlib.Data.Rat.Floor
import WebhostBilling.Json.RoundTrip

/-!
# Numbers in JSON texts

A natural number is printed in decimal, which is a number of the grammar and gives the number back.
What `JSON.parse` makes of any number of the grammar is the double next to its exact value.
-/

namespace Json

/-! ## Natural numbers -/

def printNat (n : ℕ) : Text := (Nat.toDigits 10 n).map fun c => c.toNat.toUInt16

def digitsValue (t : Text) : ℕ := t.foldl (fun n c => 10 * n + (c.toNat - 0x30)) 0

theorem digit_toUInt16 {c : Char} (h : c.isDigit = true) :
    isDigit c.toNat.toUInt16 = true ∧ c.toNat.toUInt16.toNat = c.toNat := by
  rw [Char.isDigit, Bool.and_eq_true, decide_eq_true_eq, decide_eq_true_eq] at h
  have hlow : 0x30 ≤ c.toNat := h.1
  have hhigh : c.toNat ≤ 0x39 := h.2
  have hvalue : c.toNat.toUInt16.toNat = c.toNat := by
    rw [Nat.toUInt16, UInt16.toNat_ofNat']
    exact Nat.mod_eq_of_lt (by omega)
  refine ⟨?_, hvalue⟩
  rw [isDigit, decide_eq_true_eq, UInt16.le_iff_toNat_le, UInt16.le_iff_toNat_le, hvalue]
  exact ⟨hlow, hhigh⟩

theorem isDigit_of_mem_printNat {n : ℕ} {c : CodeUnit} (h : c ∈ printNat n) : isDigit c = true := by
  obtain ⟨d, hd, rfl⟩ := List.mem_map.1 h
  exact (digit_toUInt16 (Nat.isDigit_of_mem_toDigits (by decide) (by decide) hd)).1

theorem foldl_digits {cs : List Char} (h : ∀ c ∈ cs, c.isDigit = true) (n : ℕ) :
    (cs.map fun c => c.toNat.toUInt16).foldl (fun n c => 10 * n + (c.toNat - 0x30)) n =
      Nat.ofDigitChars 10 cs n := by
  induction cs generalizing n with
  | nil => rfl
  | cons c cs ih =>
    rw [List.forall_mem_cons] at h
    rw [List.map_cons, List.foldl_cons, ih h.2, (digit_toUInt16 h.1).2, Nat.ofDigitChars_cons]
    rfl

theorem digitsValue_printNat (n : ℕ) : digitsValue (printNat n) = n := by
  rw [digitsValue, printNat, foldl_digits fun c hc =>
    Nat.isDigit_of_mem_toDigits (by decide) (by decide) hc]
  exact Nat.ofDigitChars_ten_toDigits

theorem printNat_inj {m n : ℕ} (h : printNat m = printNat n) : m = n := by
  rw [← digitsValue_printNat m, h, digitsValue_printNat]

theorem eq_zero_of_head_toDigits {n : ℕ} (h : (Nat.toDigits 10 n).head? = some '0') : n = 0 := by
  induction n using Nat.strongRecOn with
  | ind n ih =>
    rw [Nat.toDigits_eq_if (by decide)] at h
    split at h
    · rename_i hlt
      interval_cases n <;> first | rfl | (exact absurd h (by decide))
    · rename_i hle
      have hne : Nat.toDigits 10 (n / 10) ≠ [] := Nat.toDigits_ne_nil
      rw [List.head?_append_of_ne_nil _ hne] at h
      have := ih (n / 10) (by omega) h
      omega

theorem isWhole_printNat (n : ℕ) : isWhole (printNat n) = true := by
  rw [isWhole, decide_eq_true_eq]
  refine ⟨fun hnil => Nat.toDigits_ne_nil (List.map_eq_nil_iff.1 hnil), fun hhead => ?_⟩
  rw [printNat, List.head?_map, Option.map_eq_some_iff] at hhead
  obtain ⟨c, hc, hzero⟩ := hhead
  have hdigit := (digit_toUInt16 (Nat.isDigit_of_mem_toDigits (by decide) (by decide)
    (List.mem_of_head? hc))).2
  rw [hzero] at hdigit
  have hchar : c = '0' := Char.toNat_inj.1 hdigit.symm
  have hn : n = 0 := eq_zero_of_head_toDigits (hchar ▸ hc)
  rw [hn]
  rfl

theorem numberText_printNat (n : ℕ) : NumberText (printNat n) where
  grammar := by
    have hdigits : ∀ c ∈ printNat n, isDigit c = true := fun c hc => isDigit_of_mem_printNat hc
    have hminus : dropMinus (printNat n) = printNat n := by
      cases hn : printNat n with
      | nil => rfl
      | cons c cs =>
        refine if_neg ?_
        rintro rfl
        exact absurd (hdigits minus (hn ▸ List.mem_cons_self)) (by decide)
    have htake : (printNat n).takeWhile isDigit = printNat n := List.takeWhile_eq_self_iff.2 hdigits
    have hdrop : (printNat n).dropWhile isDigit = [] := List.dropWhile_eq_nil_iff.2 hdigits
    rw [isNumber, hminus, htake, hdrop, isWhole_printNat]
    rfl
  numeric c hc := by
    rw [isNumberUnit, isDigit_of_mem_printNat hc]
    rfl

/-! ## Doubles -/

/-- What a program with IEEE 754 doubles has for a number, where the two zeros are one. -/
inductive JsNumber
  | finite (value : ℚ)
  | infinite (negative : Bool)
deriving DecidableEq

def splitFraction : Text → Text × Text
  | [] => ([], [])
  | c :: cs => if c = point then (cs.takeWhile isDigit, cs.dropWhile isDigit) else ([], c :: cs)

def exponentValue : Text → ℤ
  | [] => 0
  | _ :: cs =>
    if cs.head? = some minus then -(digitsValue (dropSign cs)) else digitsValue (dropSign cs)

def decimalValue (t : Text) : ℚ :=
  let whole := (dropMinus t).takeWhile isDigit
  let (fraction, rest) := splitFraction ((dropMinus t).dropWhile isDigit)
  let magnitude : ℚ :=
    digitsValue (whole ++ fraction) * (10 : ℚ) ^ (exponentValue rest - fraction.length)
  if t.head? = some minus then -magnitude else magnitude

def roundHalfEven (x : ℚ) : ℤ :=
  let low := ⌊x⌋
  if x - low < 1 / 2 then low
  else if 1 / 2 < x - low then low + 1
  else if low % 2 = 0 then low
  else low + 1

theorem roundHalfEven_mono {x y : ℚ} (h : x ≤ y) : roundHalfEven x ≤ roundHalfEven y := by
  have hfloor := Int.floor_le_floor h
  have hx := Int.floor_le x
  have hy := Int.floor_le y
  simp only [roundHalfEven]
  rcases hfloor.eq_or_lt with heq | hlt
  · rw [heq]
    split_ifs <;> first | omega | (exfalso; rw [heq] at *; linarith)
  · split_ifs <;> omega

theorem roundHalfEven_div (n : ℕ) {d : ℕ} (hd : 0 < d) :
    roundHalfEven ((n : ℚ) / d) =
      ((n / d + if d < n % d * 2 ∨ (n % d * 2 = d ∧ n / d % 2 = 1) then 1 else 0 : ℕ) : ℤ) := by
  have hpos : (0 : ℚ) < d := Nat.cast_pos.2 hd
  have hfloor : ⌊(n : ℚ) / d⌋ = ((n / d : ℕ) : ℤ) := by
    rw [Rat.floor_natCast_div_natCast, Int.natCast_ediv]
  have hrest : (n : ℚ) / d - ((n / d : ℕ) : ℤ) = (n % d : ℕ) / d := by
    rw [sub_eq_iff_eq_add, eq_comm, Int.cast_natCast, div_add' _ _ _ hpos.ne']
    congr 1
    exact_mod_cast Nat.mod_add_div' n d
  have hlow : ((n % d : ℕ) : ℚ) / d < 1 / 2 ↔ n % d * 2 < d := by
    rw [div_lt_div_iff₀ hpos two_pos, one_mul]
    exact_mod_cast Iff.rfl
  have hhigh : 1 / 2 < ((n % d : ℕ) : ℚ) / d ↔ d < n % d * 2 := by
    rw [div_lt_div_iff₀ two_pos hpos, one_mul]
    exact_mod_cast Iff.rfl
  simp only [roundHalfEven, hfloor, hrest, hlow, hhigh]
  split_ifs <;> omega

/-- The double next to a number: a significand of 53 bits, and fewer for a subnormal number. -/
def roundToDouble (x : ℚ) : JsNumber :=
  if x = 0 then .finite 0
  else
    let exponent := max (Int.log 2 |x| - 52) (-1074)
    let rounded : ℚ := roundHalfEven (|x| / (2 : ℚ) ^ exponent) * (2 : ℚ) ^ exponent
    if (2 : ℚ) ^ (1024 : ℤ) ≤ rounded then .infinite (x < 0)
    else .finite (if x < 0 then -rounded else rounded)

/-- What `JSON.parse` makes of a number. -/
def JsNumber.read (t : Text) : JsNumber := roundToDouble (decimalValue t)

end Json
