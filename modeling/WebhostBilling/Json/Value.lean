import Mathlib.Data.List.Basic
import Mathlib.Data.Nat.Notation

/-!
# JSON values and their texts

A `Text` is any list of UTF-16 code units: a surrogate need not have its pair.  `utf8Length` is the
number of bytes of a text, where a lone surrogate counts as the replacement character.
-/

namespace Json

/-! ## Texts -/

abbrev CodeUnit := UInt16

abbrev Text := List CodeUnit

def isHigh (c : CodeUnit) : Bool := 0xD800 ≤ c ∧ c ≤ 0xDBFF

def isLow (c : CodeUnit) : Bool := 0xDC00 ≤ c ∧ c ≤ 0xDFFF

def units (c : Char) : Text :=
  if c.toNat < 0x10000 then [c.toNat.toUInt16]
  else [(0xD800 + (c.toNat - 0x10000) / 0x400).toUInt16,
    (0xDC00 + (c.toNat - 0x10000) % 0x400).toUInt16]

def text (s : String) : Text := s.toList.flatMap units

/-- The bytes that a code unit adds; a pair is four bytes, three of them counted with its first
half. -/
def unitBytes (afterHigh : Bool) (c : CodeUnit) : ℕ :=
  if c < 0x80 then 1
  else if c < 0x800 then 2
  else if afterHigh && isLow c then 1
  else 3

def utf8LengthFrom : Bool → Text → ℕ
  | _, [] => 0
  | afterHigh, c :: cs => unitBytes afterHigh c + utf8LengthFrom (isHigh c) cs

def utf8Length (t : Text) : ℕ := utf8LengthFrom false t

theorem utf8LengthFrom_of_ascii {t : Text} (h : ∀ c ∈ t, c < 0x80) (afterHigh : Bool) :
    utf8LengthFrom afterHigh t = t.length := by
  induction t generalizing afterHigh with
  | nil => rfl
  | cons c cs ih =>
    rw [List.forall_mem_cons] at h
    rw [utf8LengthFrom, unitBytes, if_pos h.1, ih h.2, List.length_cons, Nat.add_comm]

theorem utf8Length_of_ascii {t : Text} (h : ∀ c ∈ t, c < 0x80) : utf8Length t = t.length :=
  utf8LengthFrom_of_ascii h false

theorem unitBytes_pos (afterHigh : Bool) (c : CodeUnit) : 0 < unitBytes afterHigh c := by
  rw [unitBytes]
  split_ifs <;> decide

theorem length_le_utf8LengthFrom (afterHigh : Bool) (t : Text) :
    t.length ≤ utf8LengthFrom afterHigh t := by
  induction t generalizing afterHigh with
  | nil => exact Nat.le_refl _
  | cons c cs ih =>
    have := ih (isHigh c)
    have := unitBytes_pos afterHigh c
    rw [utf8LengthFrom, List.length_cons]
    omega

theorem length_le_utf8Length (t : Text) : t.length ≤ utf8Length t :=
  length_le_utf8LengthFrom false t

/-! ## Values -/

/-- A JSON value over the numbers `ν`; the members of an object in the order of its text. -/
inductive Value (ν : Type)
  | null
  | bool (b : Bool)
  | number (n : ν)
  | string (s : Text)
  | array (items : List (Value ν))
  | object (members : List (Text × Value ν))

namespace Value

variable {ν μ : Type}

mutual

def map (f : ν → μ) : Value ν → Value μ
  | null => null
  | bool b => bool b
  | number n => number (f n)
  | string s => string s
  | array items => array (mapItems f items)
  | object members => object (mapMembers f members)

def mapItems (f : ν → μ) : List (Value ν) → List (Value μ)
  | [] => []
  | v :: vs => map f v :: mapItems f vs

def mapMembers (f : ν → μ) : List (Text × Value ν) → List (Text × Value μ)
  | [] => []
  | (key, v) :: vs => (key, map f v) :: mapMembers f vs

end

end Value

/-! ## Stringifying -/

def backspace : CodeUnit := 0x08
def tab : CodeUnit := 0x09
def lineFeed : CodeUnit := 0x0A
def formFeed : CodeUnit := 0x0C
def carriageReturn : CodeUnit := 0x0D
def blank : CodeUnit := 0x20
def quotationMark : CodeUnit := 0x22
def plus : CodeUnit := 0x2B
def comma : CodeUnit := 0x2C
def minus : CodeUnit := 0x2D
def point : CodeUnit := 0x2E
def solidus : CodeUnit := 0x2F
def colon : CodeUnit := 0x3A
def leftBracket : CodeUnit := 0x5B
def reverseSolidus : CodeUnit := 0x5C
def rightBracket : CodeUnit := 0x5D
def leftBrace : CodeUnit := 0x7B
def rightBrace : CodeUnit := 0x7D

def shortEscape (c : CodeUnit) : Option CodeUnit :=
  if c = quotationMark then some quotationMark
  else if c = reverseSolidus then some reverseSolidus
  else if c = backspace then some 0x62
  else if c = formFeed then some 0x66
  else if c = lineFeed then some 0x6E
  else if c = carriageReturn then some 0x72
  else if c = tab then some 0x74
  else none

def hexUnit (n : ℕ) : CodeUnit := (if n < 10 then 0x30 + n else 0x57 + n).toUInt16

def unicodeEscape (c : CodeUnit) : Text :=
  [reverseSolidus, 0x75, hexUnit (c.toNat / 0x1000), hexUnit (c.toNat / 0x100 % 0x10),
    hexUnit (c.toNat / 0x10 % 0x10), hexUnit (c.toNat % 0x10)]

/-- A code unit inside a string; `lone` is set for a surrogate without its pair. -/
def escapeUnit (lone : Bool) (c : CodeUnit) : Text :=
  match shortEscape c with
  | some e => [reverseSolidus, e]
  | none => if c < blank ∨ lone = true then unicodeEscape c else [c]

def isLone (afterHigh : Bool) (c : CodeUnit) (rest : Text) : Bool :=
  (isHigh c && !rest.head?.any isLow) || (isLow c && !afterHigh)

def escapeFrom : Bool → Text → Text
  | _, [] => []
  | afterHigh, c :: cs => escapeUnit (isLone afterHigh c cs) c ++ escapeFrom (isHigh c) cs

def quote (s : Text) : Text := quotationMark :: (escapeFrom false s ++ [quotationMark])

/-- An ASCII character that stands for itself in a string. -/
def isPlain (c : CodeUnit) : Bool :=
  blank ≤ c ∧ c < 0x80 ∧ c ≠ quotationMark ∧ c ≠ reverseSolidus

theorem escapeUnit_of_plain {c : CodeUnit} (h : isPlain c = true) (afterHigh : Bool) (rest : Text) :
    escapeUnit (isLone afterHigh c rest) c = [c] := by
  rw [isPlain, decide_eq_true_eq] at h
  obtain ⟨hblank, hascii, hquote, hreverse⟩ := h
  rw [UInt16.le_iff_toNat_le] at hblank
  rw [UInt16.lt_iff_toNat_lt] at hascii
  have hlow : 0x20 ≤ c.toNat := hblank
  have hhigh : c.toNat < 0x80 := hascii
  have hnot : ∀ d : CodeUnit, d.toNat < 0x20 → c ≠ d := by
    rintro d hd rfl
    omega
  have hshort : shortEscape c = none := by
    rw [shortEscape, if_neg hquote, if_neg hreverse, if_neg (hnot _ (by decide)),
      if_neg (hnot _ (by decide)), if_neg (hnot _ (by decide)), if_neg (hnot _ (by decide)),
      if_neg (hnot _ (by decide))]
  have hsurrogate : isHigh c = false ∧ isLow c = false := by
    rw [isHigh, isLow, decide_eq_false_iff_not, decide_eq_false_iff_not]
    refine ⟨fun hc => ?_, fun hc => ?_⟩
    · have : 0xD800 ≤ c.toNat := UInt16.le_iff_toNat_le.1 hc.1
      omega
    · have : 0xDC00 ≤ c.toNat := UInt16.le_iff_toNat_le.1 hc.1
      omega
  rw [escapeUnit, hshort]
  refine if_neg ?_
  rw [isLone, hsurrogate.1, hsurrogate.2]
  rintro (hlt | hlone)
  · have : c.toNat < 0x20 := UInt16.lt_iff_toNat_lt.1 hlt
    omega
  · cases hlone

theorem escapeFrom_of_plain {s : Text} (h : ∀ c ∈ s, isPlain c = true) (afterHigh : Bool) :
    escapeFrom afterHigh s = s := by
  induction s generalizing afterHigh with
  | nil => rfl
  | cons c cs ih =>
    rw [List.forall_mem_cons] at h
    rw [escapeFrom, escapeUnit_of_plain h.1, ih h.2, List.singleton_append]

theorem quote_of_plain {s : Text} (h : ∀ c ∈ s, isPlain c = true) :
    quote s = quotationMark :: (s ++ [quotationMark]) := by
  rw [quote, escapeFrom_of_plain h]

section

variable {ν : Type} (print : ν → Text)

mutual

/-- `JSON.stringify`, without spaces. -/
def stringify : Value ν → Text
  | .null => text "null"
  | .bool true => text "true"
  | .bool false => text "false"
  | .number n => print n
  | .string s => quote s
  | .array [] => [leftBracket, rightBracket]
  | .array (v :: vs) => leftBracket :: (stringify v ++ stringifyItems vs)
  | .object [] => [leftBrace, rightBrace]
  | .object ((key, v) :: vs) =>
    leftBrace :: (quote key ++ colon :: (stringify v ++ stringifyMembers vs))

def stringifyItems : List (Value ν) → Text
  | [] => [rightBracket]
  | v :: vs => comma :: (stringify v ++ stringifyItems vs)

def stringifyMembers : List (Text × Value ν) → Text
  | [] => [rightBrace]
  | (key, v) :: vs => comma :: (quote key ++ colon :: (stringify v ++ stringifyMembers vs))

end

end

end Json
