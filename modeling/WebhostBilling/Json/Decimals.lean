import WebhostBilling.Json.Numbers

/-!
# Decimal texts

The texts that are numbers without superfluous leading zeros and the natural numbers are the same:
each prints as the other.  The order of two texts of one length is the order of their numbers.
-/

namespace Json

theorem digitChar_sub {c : Char} (h : c.isDigit = true) :
    c.toNat - '0'.toNat < 10 ∧ (c.toNat - '0'.toNat).digitChar = c := by
  rw [Char.isDigit, Bool.and_eq_true, decide_eq_true_eq, decide_eq_true_eq] at h
  have hlow : 48 ≤ c.toNat := h.1
  have hhigh : c.toNat ≤ 57 := h.2
  have hlt : c.toNat - 48 < 10 := by omega
  refine ⟨hlt, Char.toNat_inj.1 ?_⟩
  exact (Nat.toNat_digitChar_of_lt_ten hlt).trans (Nat.add_sub_cancel' hlow)

variable {cs : List Char} {t : Text}

theorem toDigits_append (h : ∀ c ∈ cs, c.isDigit = true) {n : ℕ} (hn : 0 < n) :
    Nat.toDigits 10 n ++ cs = Nat.toDigits 10 (Nat.ofDigitChars 10 cs n) := by
  induction cs generalizing n with
  | nil => rw [List.append_nil, Nat.ofDigitChars_nil]
  | cons c cs ih =>
    rw [List.forall_mem_cons] at h
    obtain ⟨hlt, hchar⟩ := digitChar_sub h.1
    have hlast : Nat.toDigits 10 (c.toNat - '0'.toNat) = [c] := by
      rw [Nat.toDigits_of_lt_base hlt, hchar]
    rw [Nat.ofDigitChars_cons, ← ih h.2 (by omega),
      ← Nat.toDigits_append_toDigits (by decide) hn hlt, hlast, List.append_assoc]
    rfl

theorem toDigits_ofDigitChars (h : ∀ c ∈ cs, c.isDigit = true) (hne : cs ≠ [])
    (hhead : cs.head? = some '0' → cs.length = 1) :
    Nat.toDigits 10 (Nat.ofDigitChars 10 cs 0) = cs := by
  cases cs with
  | nil => exact absurd rfl hne
  | cons c cs =>
    rw [List.forall_mem_cons] at h
    obtain ⟨hlt, hchar⟩ := digitChar_sub h.1
    rw [Nat.ofDigitChars_cons, Nat.mul_zero, Nat.zero_add]
    by_cases hzero : c = '0'
    · have hnil : cs = [] :=
        List.length_eq_zero_iff.1 (Nat.succ_inj.1 (hhead (congrArg some hzero)))
      rw [hnil, hzero]
      rfl
    · have hpos : 0 < c.toNat - '0'.toNat := by
        refine Nat.pos_of_ne_zero fun heq => hzero ?_
        rw [← hchar, heq]
        rfl
      rw [← toDigits_append h.2 hpos, Nat.toDigits_of_lt_base hlt, hchar]
      rfl

/-! ## Texts of digits -/

theorem toNat_digit {c : CodeUnit} (h : isDigit c = true) : 48 ≤ c.toNat ∧ c.toNat ≤ 57 := by
  rwa [isDigit, decide_eq_true_eq, UInt16.le_iff_toNat_le, UInt16.le_iff_toNat_le] at h

theorem exists_chars (h : t.all isDigit = true) :
    ∃ cs : List Char, (∀ c ∈ cs, c.isDigit = true) ∧ t = cs.map fun c => c.toNat.toUInt16 := by
  induction t with
  | nil => exact ⟨[], by simp, rfl⟩
  | cons u t ih =>
    rw [List.all_cons, Bool.and_eq_true] at h
    obtain ⟨cs, hcs, rfl⟩ := ih h.2
    have hchar : ∃ c : Char, c.isDigit = true ∧ c.toNat.toUInt16 = u := by
      obtain ⟨hlow, hhigh⟩ := toNat_digit h.1
      refine ⟨(u.toNat - 48).digitChar, ?_, UInt16.toNat_inj.1 ?_⟩ <;>
        generalize u.toNat = n at hlow hhigh <;> interval_cases n <;> rfl
    obtain ⟨c, hc, rfl⟩ := hchar
    exact ⟨c :: cs, List.forall_mem_cons.2 ⟨hc, hcs⟩, rfl⟩

theorem printNat_digitsValue (h : t.all isDigit = true) (hwhole : isWhole t = true) :
    printNat (digitsValue t) = t := by
  obtain ⟨cs, hcs, rfl⟩ := exists_chars h
  rw [isWhole, decide_eq_true_eq] at hwhole
  rw [digitsValue, foldl_digits hcs, printNat, toDigits_ofDigitChars hcs]
  · exact fun hnil => hwhole.1 (congrArg _ hnil)
  · intro hhead
    rw [← List.length_map (f := fun c : Char => c.toNat.toUInt16)]
    exact hwhole.2 (by rw [List.head?_map, hhead]; rfl)

theorem all_isDigit_printNat (n : ℕ) : (printNat n).all isDigit = true :=
  List.all_eq_true.2 fun _ hc => isDigit_of_mem_printNat hc

theorem length_printNat_le {n k : ℕ} (hk : 0 < k) : (printNat n).length ≤ k ↔ n < 10 ^ k := by
  rw [printNat, List.length_map]
  exact Nat.length_toDigits_le_iff (by decide) hk

theorem foldl_digitsValue (t : Text) (n : ℕ) :
    t.foldl (fun n c => 10 * n + (c.toNat - 0x30)) n = 10 ^ t.length * n + digitsValue t := by
  induction t generalizing n with
  | nil => simp [digitsValue]
  | cons c t ih =>
    rw [digitsValue, List.foldl_cons, List.foldl_cons, ih, ih (10 * 0 + _), List.length_cons,
      Nat.pow_succ]
    ring

theorem digitsValue_append (s t : Text) :
    digitsValue (s ++ t) = 10 ^ t.length * digitsValue s + digitsValue t := by
  rw [digitsValue, List.foldl_append, foldl_digitsValue]
  rfl

theorem digitsValue_cons (c : CodeUnit) (t : Text) :
    digitsValue (c :: t) = 10 ^ t.length * (c.toNat - 48) + digitsValue t := by
  rw [digitsValue, List.foldl_cons, foldl_digitsValue, Nat.mul_zero, Nat.zero_add]

theorem digitsValue_lt (h : t.all isDigit = true) : digitsValue t < 10 ^ t.length := by
  induction t with
  | nil => exact Nat.one_pos
  | cons c t ih =>
    rw [List.all_cons, Bool.and_eq_true] at h
    have hc := toNat_digit h.1
    have hstep := Nat.mul_le_mul_left (10 ^ t.length) (show c.toNat - 48 + 1 ≤ 10 by omega)
    have hlt := ih h.2
    rw [Nat.mul_succ] at hstep
    rw [digitsValue_cons, List.length_cons, Nat.pow_succ]
    omega

theorem text_lt_iff {s : Text} (hs : s.all isDigit = true) (ht : t.all isDigit = true)
    (hlength : s.length = t.length) : s < t ↔ digitsValue s < digitsValue t := by
  induction s generalizing t with
  | nil => simp [List.length_eq_zero_iff.1 hlength.symm]
  | cons c s ih =>
    cases t with
    | nil => exact absurd hlength (Nat.succ_ne_zero _)
    | cons d t =>
      rw [List.all_cons, Bool.and_eq_true] at hs ht
      have hlen : s.length = t.length := Nat.succ_inj.1 hlength
      have hc := toNat_digit hs.1
      have hd := toNat_digit ht.1
      have hslt := digitsValue_lt hs.2
      have htlt := digitsValue_lt ht.2
      rw [List.cons_lt_cons_iff, ih hs.2 ht.2 hlen, digitsValue_cons, digitsValue_cons,
        ← hlen, UInt16.lt_iff_toNat_lt]
      rw [← hlen] at htlt
      rcases Nat.lt_trichotomy c.toNat d.toNat with hlt | heq | hgt
      · have hstep := Nat.mul_le_mul_left (10 ^ s.length)
          (show c.toNat - 48 + 1 ≤ d.toNat - 48 by omega)
        rw [Nat.mul_succ] at hstep
        exact iff_of_true (.inl hlt) (by omega)
      · have hcd : c = d := UInt16.toNat_inj.1 heq
        simp [hcd]
      · have hstep := Nat.mul_le_mul_left (10 ^ s.length)
          (show d.toNat - 48 + 1 ≤ c.toNat - 48 by omega)
        rw [Nat.mul_succ] at hstep
        refine iff_of_false ?_ (by omega)
        rintro (hlt | ⟨rfl, -⟩) <;> omega

theorem printNat_le_iff (m n : ℕ) :
    ((printNat m).length < (printNat n).length ∨
      ((printNat m).length = (printNat n).length ∧ ¬ printNat n < printNat m)) ↔ m ≤ n := by
  have hlt : ∀ {m n : ℕ}, (printNat m).length < (printNat n).length → m < n := by
    intro m n h
    have hpos : 0 < (printNat m).length := by
      rw [printNat, List.length_map]
      exact Nat.length_toDigits_pos
    exact ((length_printNat_le hpos).1 le_rfl).trans_le
      (not_lt.1 fun hn => not_lt.2 ((length_printNat_le hpos).2 hn) h)
  rcases Nat.lt_trichotomy (printNat m).length (printNat n).length with h | h | h
  · exact iff_of_true (.inl h) (hlt h).le
  · rw [text_lt_iff (all_isDigit_printNat n) (all_isDigit_printNat m) h.symm,
      digitsValue_printNat, digitsValue_printNat, not_lt]
    omega
  · exact iff_of_false (by omega) (not_le.2 (hlt h))

end Json
