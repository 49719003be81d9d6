import Mathlib.Data.Nat.Digits.Lemmas
import Mathlib.Tactic.Ring

/-!
# Repacking bits

The bit operators of JavaScript work on the low 32 bits of a number, with a sign.  An accumulator
that is shifted and never masked loses its high bits, but those that a repacking of digits still
reads are intact: `Repacked` says what the accumulator is worth.
-/

namespace Bits

/-! ## Operators -/

/-- The 32 bits that an operator sees of a number. -/
def word (x : ℤ) : BitVec 32 := BitVec.ofInt 32 x

/-- `x << n` -/
def shiftLeft (x : ℤ) (n : ℕ) : ℤ := (word x <<< (n % 32)).toInt

/-- `x >>> n` -/
def shiftRight (x : ℤ) (n : ℕ) : ℤ := (word x >>> (n % 32)).toNat

/-- `x | y` -/
def bitOr (x y : ℤ) : ℤ := (word x ||| word y).toInt

/-- `x & y` -/
def bitAnd (x y : ℤ) : ℤ := (word x &&& word y).toInt

def low (bits : ℕ) (x : ℤ) : ℕ := (word x).toNat % 2 ^ bits

variable {x : ℤ} {bits n d : ℕ}

theorem low_lt : low bits x < 2 ^ bits := Nat.mod_lt _ (Nat.two_pow_pos _)

theorem word_toInt (b : BitVec 32) : word b.toInt = b := BitVec.ofInt_toInt

theorem toNat_word (h : d < 2 ^ 32) : (word d).toNat = d := by
  rw [word, BitVec.ofInt_natCast, BitVec.toNat_ofNat, Nat.mod_eq_of_lt h]

/-- Shifting makes room for new bits below those that are live. -/
theorem low_push (hd : d < 2 ^ n) (hn : n < 32) (hbits : bits + n ≤ 32) :
    low (bits + n) (bitOr (shiftLeft x n) d) = low bits x * 2 ^ n + d := by
  have hword : d < 2 ^ 32 := hd.trans_le (Nat.pow_le_pow_right Nat.two_pos hn.le)
  have hor : (word x).toNat * 2 ^ n % 2 ^ 32 ||| d = (word x).toNat * 2 ^ n % 2 ^ 32 + d := by
    have hsplit : (word x).toNat * 2 ^ n % 2 ^ 32 = 2 ^ n * ((word x).toNat % 2 ^ (32 - n)) := by
      rw [← Nat.mul_mod_mul_left, ← Nat.pow_add, Nat.add_sub_cancel' hn.le, Nat.mul_comm]
    rw [hsplit, Nat.two_pow_add_eq_or_of_lt hd]
  rw [low, bitOr, word_toInt, BitVec.toNat_or, shiftLeft, word_toInt, Nat.mod_eq_of_lt hn,
    BitVec.toNat_shiftLeft, Nat.shiftLeft_eq, toNat_word hword, hor, low, Nat.add_mod,
    Nat.mod_mod_of_dvd _ (Nat.pow_dvd_pow 2 hbits), Nat.pow_add, Nat.mul_mod_mul_right,
    Nat.mod_eq_of_lt (hd.trans_le (Nat.le_mul_of_pos_left _ (Nat.two_pow_pos _))),
    Nat.mod_eq_of_lt]
  calc _ < (word x).toNat % 2 ^ bits * 2 ^ n + 2 ^ n := Nat.add_lt_add_left hd _
    _ = ((word x).toNat % 2 ^ bits + 1) * 2 ^ n := by ring
    _ ≤ _ := Nat.mul_le_mul_right _ (Nat.mod_lt _ (Nat.two_pow_pos _))

theorem toNat_mask (b : BitVec 32) (hn : n < 32) :
    bitAnd b.toNat (2 ^ n - 1 : ℕ) = (b.toNat % 2 ^ n : ℕ) := by
  have hmask : 2 ^ n - 1 < 2 ^ 32 :=
    (Nat.sub_le _ _).trans_lt (Nat.pow_lt_pow_right Nat.one_lt_two hn)
  have hle : b.toNat % 2 ^ n < 2 ^ 31 :=
    (Nat.mod_lt _ (Nat.two_pow_pos _)).trans_le (Nat.pow_le_pow_right Nat.two_pos (by omega))
  have hand : (word b.toNat &&& word (2 ^ n - 1 : ℕ)).toNat = b.toNat % 2 ^ n := by
    rw [BitVec.toNat_and, toNat_word b.isLt, toNat_word hmask, Nat.and_two_pow_sub_one_eq_mod]
  rw [bitAnd, BitVec.toInt_eq_toNat_of_lt (by omega), hand]

/-- Masking what was shifted down reads the highest live bits. -/
theorem mask_shiftRight (hn : n ≤ bits) (hbits : bits ≤ 32) (hlt : n < 32) (hpos : 0 < n) :
    bitAnd (shiftRight x (bits - n)) (2 ^ n - 1 : ℕ) = (low bits x / 2 ^ (bits - n) : ℕ) := by
  rw [shiftRight, toNat_mask _ hlt, BitVec.toNat_ushiftRight, Nat.shiftRight_eq_div_pow,
    Nat.mod_eq_of_lt (by omega : bits - n < 32), low, ← Nat.mod_mul_right_div_self, ← Nat.pow_add,
    Nat.sub_add_cancel hn]

theorem mask_shiftLeft (hn : n < 32) (hbits : bits ≤ n) :
    bitAnd (shiftLeft x (n - bits)) (2 ^ n - 1 : ℕ) = (low bits x * 2 ^ (n - bits) : ℕ) := by
  have hmask := toNat_mask (word x <<< (n - bits)) hn
  have hword : word ((word x <<< (n - bits)).toNat : ℕ) = word x <<< (n - bits) := by
    rw [word, BitVec.ofInt_natCast, BitVec.ofNat_toNat, BitVec.setWidth_eq]
  rw [bitAnd, hword] at hmask
  have hpow : 2 ^ n = 2 ^ bits * 2 ^ (n - bits) := by rw [← Nat.pow_add, Nat.add_sub_cancel' hbits]
  rw [bitAnd, shiftLeft, word_toInt, Nat.mod_eq_of_lt (by omega : n - bits < 32), hmask,
    BitVec.toNat_shiftLeft, Nat.shiftLeft_eq, Nat.mod_mod_of_dvd _ (Nat.pow_dvd_pow 2 hn.le), hpow,
    Nat.mul_mod_mul_right, low]

/-! ## Digits -/

/-- The number of digits of so many bits, the highest first. -/
def packed (width : ℕ) (digits : List ℕ) : ℕ := Nat.ofDigits (2 ^ width) digits.reverse

variable {u v : ℕ} {digits digits' : List ℕ} {value : ℤ}

theorem packed_append : packed u (digits ++ [d]) = packed u digits * 2 ^ u + d := by
  rw [packed, List.reverse_append, List.reverse_singleton, List.singleton_append, Nat.ofDigits_cons,
    ← packed]
  ring

theorem packed_inj (hu : 0 < u) (hlength : digits.length = digits'.length)
    (hd : ∀ d ∈ digits, d < 2 ^ u) (hd' : ∀ d ∈ digits', d < 2 ^ u)
    (h : packed u digits = packed u digits') : digits = digits' := by
  refine List.reverse_injective (Nat.ofDigits_inj_of_len_eq (Nat.one_lt_two_pow hu.ne') ?_ ?_ ?_ h)
  · rw [List.length_reverse, List.length_reverse, hlength]
  · exact fun d hmem => hd d (List.mem_reverse.1 hmem)
  · exact fun d hmem => hd' d (List.mem_reverse.1 hmem)

/-- Digits of `u` bits, repacked into digits of `v` bits and the low bits of an accumulator. -/
structure Repacked (u v : ℕ) (digits : List ℕ) (bits : ℕ) (value : ℤ) (out : List ℕ) : Prop where
  length : u * digits.length = v * out.length + bits
  number : packed u digits = packed v out * 2 ^ bits + low bits value
  small : ∀ d ∈ out, d < 2 ^ v

namespace Repacked

variable {out : List ℕ}

theorem empty : Repacked u v [] 0 0 [] := ⟨rfl, by simp [packed, low, word], by simp⟩

theorem push (h : Repacked u v digits bits value out) (hd : d < 2 ^ u) (hu : u < 32)
    (hbits : bits + u ≤ 32) :
    Repacked u v (digits ++ [d]) (bits + u) (bitOr (shiftLeft value u) d) out where
  length := by
    have := h.length
    rw [List.length_append, List.length_singleton, Nat.mul_add, Nat.mul_one]
    omega
  number := by
    rw [packed_append, h.number, low_push hd hu hbits, Nat.pow_add]
    ring
  small := h.small

theorem pop (h : Repacked u v digits bits value out) (hv : v ≤ bits) :
    Repacked u v digits (bits - v) value (out ++ [low bits value / 2 ^ (bits - v)]) where
  length := by
    have := h.length
    rw [List.length_append, List.length_singleton, Nat.mul_add, Nat.mul_one]
    omega
  number := by
    have hlow : low (bits - v) value = low bits value % 2 ^ (bits - v) := by
      rw [low, low, Nat.mod_mod_of_dvd _ (Nat.pow_dvd_pow 2 (Nat.sub_le _ _))]
    have hdiv := Nat.div_add_mod (low bits value) (2 ^ (bits - v))
    have hpow : 2 ^ bits = 2 ^ v * 2 ^ (bits - v) := by rw [← Nat.pow_add, Nat.add_sub_cancel' hv]
    rw [h.number, packed_append, hlow, hpow]
    conv_lhs => rw [← hdiv]
    ring
  small := by
    refine List.forall_mem_append.2 ⟨h.small, List.forall_mem_singleton.2 ?_⟩
    rw [Nat.div_lt_iff_lt_mul (Nat.two_pow_pos _), ← Nat.pow_add, Nat.add_sub_cancel' hv]
    exact low_lt

theorem inverse {padded : List ℕ} {pad : ℕ} (h : Repacked v u padded bits value out)
    (hlength : v * padded.length = u * digits.length + pad)
    (hnumber : packed v padded = packed u digits * 2 ^ pad) (hpad : pad < u) (hbits : bits < u)
    (hdigits : ∀ d ∈ digits, d < 2 ^ u) : out = digits := by
  have hsame : u * out.length + bits = u * digits.length + pad := h.length.symm.trans hlength
  have hbits' : bits = pad := by
    have := congrArg (· % u) hsame
    simpa [Nat.mul_add_mod, Nat.mod_eq_of_lt, hpad, hbits] using this
  subst hbits'
  refine packed_inj (by omega) (Nat.eq_of_mul_eq_mul_left (by omega) (Nat.add_right_cancel hsame))
    h.small hdigits ?_
  have hdiv := congrArg (· / 2 ^ bits) (h.number.symm.trans hnumber)
  simpa [Nat.mul_add_div, Nat.mul_comm _ (2 ^ bits), Nat.div_eq_of_lt low_lt] using hdiv

end Repacked

end Bits
