import Mathlib.Algebra.Order.Floor.Div
import Mathlib.GroupTheory.GroupAction.Ring
import WebhostBilling.Bits.Repacking
import WebhostBilling.Json.Numbers

/-!
# The secrets of one-time passwords

A secret is random bytes, which are shown and stored as a base32 text.  Encoding and decoding are
the same repacking of bits, from bytes to letters and from letters to bytes.
-/

namespace WebhostBilling

open Json Bits

namespace TotpService

/-! ## Base32 -/

def ALPHABET : Text := text "ABCDEFGHIJKLMNOPQRSTUVWXYZ234567"

/-- `ALPHABET[index]` -/
def letter (index : ℤ) : CodeUnit := ALPHABET.getD index.toNat 0

/-- `while (bits >= 5)`, with the bits that are left and the output. -/
def emitLetters (bits : ℕ) (value : ℤ) (output : Text) : ℕ × Text :=
  if 5 ≤ bits then
    emitLetters (bits - 5) value (output ++ [letter (bitAnd (shiftRight value (bits - 5)) 31)])
  else (bits, output)

/-- The variables of the loops over bytes and over letters. -/
structure Accumulator (α : Type) where
  bits : ℕ := 0
  value : ℤ := 0
  output : List α := []

def encodeByte (s : Accumulator CodeUnit) (byte : UInt8) : Accumulator CodeUnit :=
  let value := bitOr (shiftLeft s.value 8) byte.toNat
  let (bits, output) := emitLetters (s.bits + 8) value s.output
  { bits, value, output }

def encodeBase32 (input : List UInt8) : Text :=
  let s := input.foldl encodeByte {}
  if 0 < s.bits then s.output ++ [letter (bitAnd (shiftLeft s.value (5 - s.bits)) 31)]
  else s.output

/-- `toUpperCase` of a character.  Those that have no capital letters of the alphabet are left: an
input with such a character is invalid in either case. -/
def upperUnit (c : CodeUnit) : Text :=
  if 0x61 ≤ c ∧ c ≤ 0x7A then [c - 0x20]
  else if c = 0xDF then text "SS"
  else if c = 0x131 then text "I"
  else if c = 0x17F then text "S"
  else if 0xFB00 ≤ c ∧ c ≤ 0xFB06 then
    [text "FF", text "FI", text "FL", text "FFI", text "FFL", text "ST", text "ST"].getD
      (c.toNat - 0xFB00) []
  else [c]

def toUpperCase (t : Text) : Text := t.flatMap upperUnit

def decodeLetter (s : Accumulator UInt8) (character : CodeUnit) :
    Except String (Accumulator UInt8) := do
  let some index := ALPHABET.idxOf? character | throw "Invalid base32 secret"
  let value := bitOr (shiftLeft s.value 5) index
  let bits := s.bits + 5
  if 8 ≤ bits then
    let byte := (bitAnd (shiftRight value (bits - 8)) 255).toNat.toUInt8
    return { bits := bits - 8, value, output := s.output ++ [byte] }
  else return { s with bits, value }

def decodeBase32 (input : Text) : Except String (List UInt8) := do
  let s ← (toUpperCase (input.filter (· ≠ 0x3D))).foldlM decodeLetter {}
  return s.output

/-! ## Codes -/

/-- `counter.writeBigUInt64BE(timeStep)` -/
def counter (timeStep : ℤ) : Except String (List UInt8) :=
  if 0 ≤ timeStep ∧ timeStep < 2 ^ 64 then
    .ok ((List.range 8).map fun i => (timeStep.toNat / 256 ^ (7 - i)).toUInt8)
  else .error "The value of \"value\" is out of range."

/-- The six digits that are read off a digest. -/
def code (digest : List UInt8) : Text :=
  let byte (i : ℤ) : ℤ := (digest.getD i.toNat 0).toNat
  let offset := bitAnd (byte (digest.length - 1)) 0x0F
  let number := bitOr (bitOr (bitOr (shiftLeft (bitAnd (byte offset) 0x7F) 24)
    (shiftLeft (byte (offset + 1)) 16)) (shiftLeft (byte (offset + 2)) 8)) (byte (offset + 3))
  (printNat (number.toNat % 1000000)).leftpad 6 0x30

/-- `createHmac key message` is the digest of the HMAC with SHA-1. -/
def hotp (createHmac : List UInt8 → List UInt8 → List UInt8) (secret : Text) (timeStep : ℤ) :
    Except String Text := do
  let message ← counter timeStep
  let key ← decodeBase32 secret
  return code (createHmac key message)

/-! ## Letters and bytes -/

/-- Every letter is its own capital, no padding, and found at its index. -/
theorem letter_spec : ∀ d : ℕ, d < 32 → letter d ≠ 0x3D ∧ upperUnit (letter d) = [letter d] ∧
    ALPHABET.idxOf? (letter d) = some d ∧ letter d ∈ ALPHABET := by
  decide +kernel

def letters (digits : List ℕ) : Text := digits.map fun d : ℕ => letter d

theorem letters_append (digits : List ℕ) (d : ℕ) :
    letters (digits ++ [d]) = letters digits ++ [letter d] := List.map_append

variable {digits out : List ℕ} {bits : ℕ} {value : ℤ}

theorem letter_digit (hbits : bits ≤ 32) (h : 5 ≤ bits) :
    letter (bitAnd (shiftRight value (bits - 5)) 31) =
      letter (low bits value / 2 ^ (bits - 5) : ℕ) :=
  congrArg letter (mask_shiftRight h hbits (by decide) (by decide))

theorem emitLetters_repacked (h : Repacked 8 5 digits bits value out) (hbits : bits ≤ 32) :
    ∃ out' : List ℕ, emitLetters bits value (letters out) =
      (bits % 5, letters out') ∧ Repacked 8 5 digits (bits % 5) value out' := by
  induction bits using Nat.strongRecOn generalizing out with
  | ind bits ih =>
    rw [emitLetters]
    split
    · rename_i hle
      have hpopped := h.pop hle
      obtain ⟨out', hemit, hout⟩ := ih (bits - 5) (by omega) hpopped (by omega)
      rw [letters_append] at hemit
      rw [letter_digit hbits hle, hemit, ← Nat.mod_eq_sub_mod hle]
      exact ⟨out', rfl, Nat.mod_eq_sub_mod hle ▸ hout⟩
    · rename_i hlt
      rw [Nat.mod_eq_of_lt (by omega)]
      exact ⟨out, rfl, h⟩

theorem encode_repacked (input : List UInt8) : ∃ s out, input.foldl encodeByte {} = s ∧
    s.output = letters out ∧ s.bits < 5 ∧
    Repacked 8 5 (input.map UInt8.toNat) s.bits s.value out := by
  induction input using List.reverseRecOn with
  | nil => exact ⟨_, [], rfl, rfl, by decide, .empty⟩
  | append_singleton input byte ih =>
    obtain ⟨s, out, hs, houtput, hbits, h⟩ := ih
    obtain ⟨out', hemit, hout⟩ := emitLetters_repacked
      (h.push byte.toNat_lt (by decide) (by omega)) (by omega)
    refine ⟨_, out', rfl, ?_⟩
    rw [List.foldl_append, hs, List.foldl_cons, List.foldl_nil, encodeByte, houtput, hemit]
    refine ⟨rfl, Nat.mod_lt _ (by decide), ?_⟩
    rw [List.map_append]
    exact hout

/-- The letters of a secret are the bits of its bytes, padded to whole letters. -/
theorem encodeBase32_packed (input : List UInt8) : ∃ (out : List ℕ) (pad : ℕ),
    encodeBase32 input = letters out ∧ (∀ d ∈ out, d < 32) ∧ pad < 5 ∧
    5 * out.length = 8 * input.length + pad ∧
    packed 5 out = packed 8 (input.map UInt8.toNat) * 2 ^ pad := by
  obtain ⟨s, out, hs, houtput, hbits, h⟩ := encode_repacked input
  have hlength := h.length
  rw [List.length_map] at hlength
  simp only [encodeBase32, hs]
  split
  · rename_i hpos
    have hletter := mask_shiftLeft (x := s.value) (n := 5) (by decide) hbits.le
    have hpow : 2 ^ s.bits * 2 ^ (5 - s.bits) = 2 ^ 5 := by
      rw [← Nat.pow_add, Nat.add_sub_cancel' hbits.le]
    refine ⟨out ++ [low s.bits s.value * 2 ^ (5 - s.bits)], 5 - s.bits, ?_, ?_, by omega, ?_, ?_⟩
    · rw [houtput, letters_append, ← hletter]
      rfl
    · refine List.forall_mem_append.2 ⟨h.small, List.forall_mem_singleton.2 ?_⟩
      rw [show 32 = 2 ^ s.bits * 2 ^ (5 - s.bits) from hpow.symm]
      exact Nat.mul_lt_mul_of_pos_right low_lt (Nat.two_pow_pos _)
    · rw [List.length_append, List.length_singleton]
      omega
    · rw [packed_append, h.number, Nat.add_mul, Nat.mul_assoc, hpow]
  · rename_i hzero
    have hbits : s.bits = 0 := by omega
    refine ⟨out, 0, houtput, h.small, by decide, by omega, ?_⟩
    rw [h.number, hbits, low, Nat.pow_zero, Nat.mod_one, Nat.add_zero, Nat.mul_one,
      Nat.mul_one]

theorem decode_repacked (out : List ℕ) (hsmall : ∀ d ∈ out, d < 32) : ∃ s bytes,
    (letters out).foldlM decodeLetter {} = .ok s ∧
    s.output = bytes.map Nat.toUInt8 ∧ s.bits < 8 ∧ Repacked 5 8 out s.bits s.value bytes := by
  induction out using List.reverseRecOn with
  | nil => exact ⟨_, [], rfl, rfl, by decide, .empty⟩
  | append_singleton out d ih =>
    obtain ⟨hinit, hd⟩ := List.forall_mem_append.1 hsmall
    rw [List.forall_mem_singleton] at hd
    obtain ⟨s, bytes, hs, houtput, hbits, h⟩ := ih hinit
    have hpushed := h.push hd (by decide) (by omega)
    rw [letters_append, List.foldlM_append, hs]
    simp only [bind, Except.bind, List.foldlM_cons, List.foldlM_nil, decodeLetter,
      (letter_spec d hd).2.2.1, pure, Except.pure]
    by_cases hle : 8 ≤ s.bits + 5
    · have hbyte := mask_shiftRight (x := bitOr (shiftLeft s.value 5) d) (n := 8) hle (by omega)
        (by decide) (by decide)
      simp only [if_pos hle]
      refine ⟨_, _, rfl, ?_, by simp only; omega, hpushed.pop hle⟩
      rw [List.map_append, houtput, List.map_singleton]
      exact congrArg (fun b : ℤ => bytes.map Nat.toUInt8 ++ [b.toNat.toUInt8]) hbyte
    · simp only [if_neg hle]
      exact ⟨_, _, rfl, houtput, by simp only; omega, hpushed⟩

theorem toUpperCase_letters (out : List ℕ) (hsmall : ∀ d ∈ out, d < 32) :
    toUpperCase ((letters out).filter (· ≠ 0x3D)) = letters out := by
  have hfilter : (letters out).filter (· ≠ 0x3D) = letters out := by
    refine List.filter_eq_self.2 fun c hc => ?_
    obtain ⟨d, hd, rfl⟩ := List.mem_map.1 hc
    exact decide_eq_true (letter_spec d (hsmall d hd)).1
  rw [hfilter, toUpperCase]
  clear hfilter
  induction out with
  | nil => rfl
  | cons d out ih =>
    rw [List.forall_mem_cons] at hsmall
    rw [letters, List.map_cons, List.flatMap_cons, ← letters, ih hsmall.2,
      (letter_spec d hsmall.1).2.1]
    rfl

theorem decode_encode (b : List UInt8) : decodeBase32 (encodeBase32 b) = .ok b := by
  obtain ⟨out, pad, hout, hsmall, hpad, hlength, hnumber⟩ := encodeBase32_packed b
  obtain ⟨s, bytes, hs, houtput, hbits, h⟩ := decode_repacked out hsmall
  have hbytes : bytes = b.map UInt8.toNat :=
    h.inverse (by rw [List.length_map, hlength]) hnumber (by omega) hbits fun d hd => by
      obtain ⟨byte, -, rfl⟩ := List.mem_map.1 hd
      exact byte.toNat_lt
  rw [decodeBase32, hout, toUpperCase_letters out hsmall, hs]
  refine congrArg Except.ok (houtput.trans ?_)
  rw [hbytes, List.map_map]
  exact (List.map_congr_left fun byte _ => UInt8.ofNat_toNat).trans (List.map_id b)

/-- **The secret that is shown is the one that codes are computed with**: a base32 text of the
alphabet, as long as the bytes need, and decoded to the same bytes. -/
theorem base32_round_trip :
    (∀ b : List UInt8, decodeBase32 (encodeBase32 b) = .ok b ∧
      (encodeBase32 b).length = 8 * b.length ⌈/⌉ 5 ∧ ∀ c ∈ encodeBase32 b, c ∈ ALPHABET) ∧
    ∀ createHmac (b : List UInt8) timeStep, hotp createHmac (encodeBase32 b) timeStep =
      (counter timeStep).map fun message => code (createHmac b message) := by
  refine ⟨fun b => ⟨decode_encode b, ?_, ?_⟩, fun createHmac b timeStep => ?_⟩
  · obtain ⟨out, pad, hout, -, hpad, hlength, -⟩ := encodeBase32_packed b
    rw [hout, letters, List.length_map, Nat.ceilDiv_eq_add_pred_div]
    omega
  · obtain ⟨out, -, hout, hsmall, -⟩ := encodeBase32_packed b
    rw [hout, letters, List.forall_mem_map]
    exact fun d hd => (letter_spec d (hsmall d hd)).2.2.2
  · rw [hotp]
    cases counter timeStep with
    | error message => rfl
    | ok message =>
      simp only [decode_encode, bind, Except.bind, pure, Except.pure, Except.map]

end TotpService

end WebhostBilling
