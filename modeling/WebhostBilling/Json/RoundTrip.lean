import Mathlib.Tactic.IntervalCases
import WebhostBilling.Json.Parse

/-!
# Parsing what was stringified

`parse_stringify`: parsing the text of a value gives the value back, with every number as it is read
from its own text.  So two values whose numbers are read back have the same text only when they are
equal (`stringify_inj`).
-/

namespace Json

/-! ## Strings -/

theorem hexDigit?_hexUnit {n : ℕ} (h : n < 16) : hexDigit? (hexUnit n) = some n := by
  interval_cases n <;> rfl

theorem hexUnit?_unicodeEscape (c : CodeUnit) :
    hexUnit? (hexUnit (c.toNat / 0x1000)) (hexUnit (c.toNat / 0x100 % 0x10))
      (hexUnit (c.toNat / 0x10 % 0x10)) (hexUnit (c.toNat % 0x10)) = some c := by
  have hlt := c.toNat_lt
  have hvalue : c.toNat / 0x1000 * 0x1000 + c.toNat / 0x100 % 0x10 * 0x100 +
      c.toNat / 0x10 % 0x10 * 0x10 + c.toNat % 0x10 = c.toNat := by
    omega
  rw [hexUnit?, hexDigit?_hexUnit (by omega), hexDigit?_hexUnit (by omega),
    hexDigit?_hexUnit (by omega), hexDigit?_hexUnit (by omega)]
  simp only [Option.bind_eq_bind, Option.bind_some, Option.pure_def, hvalue]
  simp

variable {c e : CodeUnit} {rest : Text}

theorem shortEscape?_eq (h : shortEscape c = some e) :
    shortEscape? e = some c := by
  unfold shortEscape at h
  split_ifs at h with h₁ h₂ h₃ h₄ h₅ h₆ h₇ <;> cases h <;> subst c <;> rfl

theorem ne_of_shortEscape_eq_none (h : shortEscape c = none) :
    c ≠ quotationMark ∧ c ≠ reverseSolidus := by
  constructor <;>
  · rintro rfl
    cases h

theorem parseString_end (t : Text) : parseString (quotationMark :: t) = some ([], t) := by
  rw [parseString.eq_def]
  exact if_pos rfl

theorem parseString_short (h : shortEscape? e = some c) (t : Text) :
    parseString (reverseSolidus :: e :: t) =
      (parseString t).map fun out => (c :: out.1, out.2) := by
  rw [parseString.eq_def]
  simp only [show reverseSolidus ≠ quotationMark by decide, if_false, if_true, h]

theorem parseString_unicode (c : CodeUnit) (t : Text) : parseString (unicodeEscape c ++ t) =
    (parseString t).map fun out => (c :: out.1, out.2) := by
  simp only [unicodeEscape, List.cons_append, List.nil_append]
  rw [parseString.eq_def]
  simp only [show reverseSolidus ≠ quotationMark by decide, if_false, if_true,
    show shortEscape? 0x75 = none from rfl, hexUnit?_unicodeEscape]

theorem parseString_raw (hquote : c ≠ quotationMark) (hreverse : c ≠ reverseSolidus)
    (hblank : ¬ c < blank) (t : Text) :
    parseString (c :: t) = (parseString t).map fun out => (c :: out.1, out.2) := by
  rw [parseString.eq_def]
  simp only [hquote, hreverse, hblank, if_false]

theorem parseString_escapeUnit (lone : Bool) (c : CodeUnit) (t : Text) :
    parseString (escapeUnit lone c ++ t) = (parseString t).map fun out => (c :: out.1, out.2) := by
  rw [escapeUnit]
  split
  · rename_i e he
    exact parseString_short (shortEscape?_eq he) t
  · rename_i hnone
    split
    · exact parseString_unicode c t
    · rename_i hraw
      obtain ⟨hquote, hreverse⟩ := ne_of_shortEscape_eq_none hnone
      exact parseString_raw hquote hreverse (fun hblank => hraw (.inl hblank)) t

theorem parseString_escapeFrom (afterHigh : Bool) (s rest : Text) :
    parseString (escapeFrom afterHigh s ++ quotationMark :: rest) = some (s, rest) := by
  induction s generalizing afterHigh with
  | nil => exact parseString_end rest
  | cons c cs ih =>
    rw [escapeFrom, List.append_assoc, parseString_escapeUnit, ih]
    rfl

theorem parseString_quote (s rest : Text) :
    parseString ((quote s ++ rest).tail) = some (s, rest) := by
  rw [quote, List.cons_append, List.tail_cons, List.append_assoc, List.singleton_append]
  exact parseString_escapeFrom false s rest

/-! ## Values -/

structure NumberText (t : Text) : Prop where
  grammar : isNumber t = true
  numeric : ∀ c ∈ t, isNumberUnit c = true

/-- What follows a value does not go on with a number. -/
def Ends (rest : Text) : Prop := ∀ c ∈ rest.head?, isNumberUnit c = false

theorem ends_nil : Ends [] := fun _ hc => nomatch hc

theorem ends_cons {cs : Text} (h : isNumberUnit c = false) : Ends (c :: cs) := by
  intro d hd
  rw [List.head?_cons, Option.mem_some] at hd
  exact hd ▸ h

theorem takeWhile_of_ends (h : Ends rest) : rest.takeWhile isNumberUnit = [] := by
  cases rest with
  | nil => rfl
  | cons c cs => rw [List.takeWhile_cons_of_neg (by simp [h c rfl])]

theorem dropWhile_of_ends (h : Ends rest) : rest.dropWhile isNumberUnit = rest := by
  cases rest with
  | nil => rfl
  | cons c cs => rw [List.dropWhile_cons_of_neg (by simp [h c rfl])]

section

variable {ν μ : Type} {print : ν → Text} {read : Text → μ}

theorem parseScalar_number {t : Text} (ht : NumberText t) (hrest : Ends rest) :
    parseScalar read (t ++ rest) = some (.number (read t), rest) := by
  have htake : (t ++ rest).takeWhile isNumberUnit = t := by
    rw [List.takeWhile_append_of_pos ht.numeric, takeWhile_of_ends hrest, List.append_nil]
  have hdrop : (t ++ rest).dropWhile isNumberUnit = rest := by
    rw [List.dropWhile_append_of_pos ht.numeric, dropWhile_of_ends hrest]
  rw [parseScalar, htake, hdrop, if_pos ht.grammar]

theorem parseScalar_literal (hc : isNumberUnit c = false) (cs : Text) :
    parseScalar read (c :: cs) = ((expect (text "null") (c :: cs)).map (Value.null, ·) <|>
      (expect (text "true") (c :: cs)).map (Value.bool true, ·) <|>
      (expect (text "false") (c :: cs)).map (Value.bool false, ·)) := by
  rw [parseScalar, List.takeWhile_cons_of_neg (by simp [hc])]
  rfl

theorem parseScalar_null (read : Text → μ) (rest : Text) :
    parseScalar read (text "null" ++ rest) = some (.null, rest) :=
  parseScalar_literal (c := 0x6E) rfl _

theorem parseScalar_true (read : Text → μ) (rest : Text) :
    parseScalar read (text "true" ++ rest) = some (.bool true, rest) :=
  parseScalar_literal (c := 0x74) rfl _

theorem parseScalar_false (read : Text → μ) (rest : Text) :
    parseScalar read (text "false" ++ rest) = some (.bool false, rest) :=
  parseScalar_literal (c := 0x66) rfl _

/-! ### Composite values -/

theorem stringify_head (hprint : ∀ n, NumberText (print n)) (v : Value ν) :
    ∃ c cs, stringify print v = c :: cs ∧ isWhitespace c = false ∧ c ≠ rightBracket := by
  cases v with
  | null => exact ⟨_, _, rfl, rfl, by decide⟩
  | bool b => cases b <;> exact ⟨_, _, rfl, rfl, by decide⟩
  | number n =>
    rw [stringify]
    cases hn : print n with
    | nil =>
      have := (hprint n).grammar
      rw [hn] at this
      cases this
    | cons c cs =>
      have hc := (hprint n).numeric c (hn ▸ List.mem_cons_self)
      refine ⟨c, cs, rfl, ?_, ?_⟩
      · by_contra hwhite
        simp only [isWhitespace, decide_eq_true_eq, Bool.not_eq_false] at hwhite
        rcases hwhite with rfl | rfl | rfl | rfl <;> exact absurd hc (by decide)
      · rintro rfl
        exact absurd hc (by decide)
  | string s => exact ⟨_, _, rfl, rfl, by decide⟩
  | array items => cases items <;> exact ⟨_, _, by rw [stringify], rfl, by decide⟩
  | object members =>
    cases members with
    | nil | cons m ms => exact ⟨_, _, by rw [stringify], rfl, by decide⟩

theorem skipWhitespace_cons (h : isWhitespace c = false) (cs : Text) :
    skipWhitespace (c :: cs) = c :: cs :=
  List.dropWhile_cons_of_neg (by simp [h])

theorem skipWhitespace_stringify (hprint : ∀ n, NumberText (print n)) (v : Value ν) (rest : Text) :
    skipWhitespace (stringify print v ++ rest) = stringify print v ++ rest := by
  obtain ⟨c, cs, hcs, hwhite, -⟩ := stringify_head hprint v
  rw [hcs, List.cons_append, skipWhitespace_cons hwhite]

theorem parseKey_quote (hprint : ∀ n, NumberText (print n)) (key : Text) (v : Value ν)
    (rest : Text) : parseKey (quote key ++ colon :: (stringify print v ++ rest)) =
      some (key, stringify print v ++ rest) := by
  have hstring := parseString_quote key (colon :: (stringify print v ++ rest))
  rw [quote, List.cons_append] at hstring ⊢
  rw [List.tail_cons] at hstring
  rw [parseKey, if_pos rfl, hstring]
  simp only [Option.bind_eq_bind, Option.bind_some]
  rw [skipWhitespace_cons rfl]
  simp only [if_true, skipWhitespace_stringify hprint]

theorem ends_stringifyItems (vs : List (Value ν)) (rest : Text) :
    Ends (stringifyItems print vs ++ rest) := by
  cases vs with
  | nil | cons v vs => exact ends_cons rfl

theorem ends_stringifyMembers (vs : List (Text × Value ν)) (rest : Text) :
    Ends (stringifyMembers print vs ++ rest) := by
  cases vs with
  | nil | cons v vs => exact ends_cons rfl

theorem length_stringify_pos (hprint : ∀ n, NumberText (print n)) (v : Value ν) :
    0 < (stringify print v).length := by
  obtain ⟨c, cs, hcs, -⟩ := stringify_head hprint v
  rw [hcs]
  exact Nat.succ_pos _

mutual

theorem parseValue_stringify (hprint : ∀ n, NumberText (print n)) : (v : Value ν) →
    ∀ (fuel : ℕ) (rest : Text), 2 * (stringify print v).length ≤ fuel → Ends rest →
      parseValue read fuel (stringify print v ++ rest) =
        some (v.map fun n => read (print n), rest)
  | v, 0, _, hfuel, _ => by
    have := length_stringify_pos hprint v
    omega
  | .null, fuel + 1, rest, _, _ => parseScalar_null read rest
  | .bool true, fuel + 1, rest, _, _ => parseScalar_true read rest
  | .bool false, fuel + 1, rest, _, _ => parseScalar_false read rest
  | .number n, fuel + 1, rest, _, hrest => by
    obtain ⟨c, cs, hcs, -⟩ := stringify_head hprint (.number n)
    have hc := (hprint n).numeric c (by
      rw [← show stringify print (.number n) = print n from by rw [stringify], hcs]
      exact List.mem_cons_self)
    have hscalar : parseScalar read _ = _ := parseScalar_number (hprint n) hrest
    rw [stringify] at hcs ⊢
    rw [hcs, List.cons_append] at hscalar ⊢
    rw [parseValue]
    have hne : ∀ d, isNumberUnit d = false → c ≠ d := by
      rintro d hd rfl
      rw [hd] at hc
      cases hc
    rw [if_neg (hne _ rfl), if_neg (hne _ rfl), if_neg (hne _ rfl), hscalar, Value.map, ← hcs]
  | .string s, fuel + 1, rest, _, _ => by
    have hstring := parseString_quote s rest
    rw [stringify]
    rw [quote, List.cons_append] at hstring ⊢
    rw [List.tail_cons] at hstring
    rw [parseValue, if_pos rfl, hstring]
    rfl
  | .array [], fuel + 1, rest, _, _ => rfl
  | .array (v :: vs), fuel + 1, rest, hfuel, _ => by
    have hitems := parseItems_stringify hprint (v :: vs) fuel rest v vs rfl
    rw [stringify] at hfuel ⊢
    rw [List.cons_append, parseValue, if_neg (by decide), if_pos rfl, List.append_assoc,
      skipWhitespace_stringify hprint]
    obtain ⟨c, cs, hcs, -, hc⟩ := stringify_head hprint v
    rw [if_neg (by
      rw [hcs, List.cons_append, List.head?_cons]
      exact fun heq => hc (Option.some.inj heq)), hitems]
    · rfl
    · simp only [List.length_cons, List.length_append] at hfuel ⊢
      omega
  | .object [], fuel + 1, rest, _, _ => rfl
  | .object ((key, v) :: vs), fuel + 1, rest, hfuel, _ => by
    have hmembers :=
      parseMembers_stringify hprint ((key, v) :: vs) fuel rest key v vs rfl
    rw [stringify] at hfuel ⊢
    have hquote : skipWhitespace (quote key ++ colon :: (stringify print v ++
        stringifyMembers print vs) ++ rest) =
        quote key ++ colon :: (stringify print v ++ (stringifyMembers print vs ++ rest)) := by
      simp only [quote, List.cons_append, List.append_assoc]
      exact skipWhitespace_cons rfl _
    rw [List.cons_append, parseValue, if_neg (by decide), if_neg (by decide), if_pos rfl, hquote,
      if_neg (by
        rw [quote, List.cons_append, List.head?_cons]
        exact fun heq => absurd (Option.some.inj heq) (by decide)), hmembers]
    · rfl
    · simp only [List.length_cons, List.length_append] at hfuel ⊢
      omega

theorem parseItems_stringify (hprint : ∀ n, NumberText (print n)) : (items : List (Value ν)) →
    ∀ (fuel : ℕ) (rest : Text) (v : Value ν) (vs : List (Value ν)), items = v :: vs →
      2 * (stringify print v ++ stringifyItems print vs).length + 1 ≤ fuel →
      parseItems read fuel (stringify print v ++ (stringifyItems print vs ++ rest)) =
        some (Value.mapItems (fun n => read (print n)) (v :: vs), rest)
  | [], _, _, _, _, heq, _ => nomatch heq
  | w :: ws, 0, _, _, _, _, hfuel => by omega
  | w :: ws, fuel + 1, rest, v, vs, heq, hfuel => by
    obtain ⟨rfl, rfl⟩ := List.cons.inj heq
    have hvalue := parseValue_stringify hprint w fuel (stringifyItems print ws ++ rest) (by
        simp only [List.length_append] at hfuel
        omega) (ends_stringifyItems ws rest)
    rw [parseItems, hvalue]
    cases hws : ws with
    | nil =>
      simp only [stringifyItems, List.singleton_append]
      rw [skipWhitespace_cons rfl]
      exact if_pos rfl
    | cons u us =>
      have hitems := parseItems_stringify hprint ws fuel rest u us hws (by
          simp only [hws, stringifyItems, List.length_append, List.length_cons] at hfuel ⊢
          have := length_stringify_pos hprint w
          omega)
      simp only [stringifyItems, List.cons_append, List.append_assoc]
      rw [skipWhitespace_cons rfl]
      simp only [show comma ≠ rightBracket by decide, if_false, if_true]
      rw [skipWhitespace_stringify hprint, hitems]
      rfl

theorem parseMembers_stringify (hprint : ∀ n, NumberText (print n)) :
    (members : List (Text × Value ν)) →
    ∀ (fuel : ℕ) (rest : Text) (key : Text) (v : Value ν) (vs : List (Text × Value ν)),
      members = (key, v) :: vs →
      2 * (quote key ++ colon :: (stringify print v ++ stringifyMembers print vs)).length + 1 ≤
        fuel →
      parseMembers read fuel
          (quote key ++ colon :: (stringify print v ++ (stringifyMembers print vs ++ rest))) =
        some (Value.mapMembers (fun n => read (print n)) ((key, v) :: vs), rest)
  | [], _, _, _, _, _, heq, _ => nomatch heq
  | w :: ws, 0, _, _, _, _, _, hfuel => by omega
  | (k, w) :: ws, fuel + 1, rest, key, v, vs, heq, hfuel => by
    obtain ⟨hkey, rfl⟩ := List.cons.inj heq
    obtain ⟨rfl, rfl⟩ := Prod.mk.inj hkey
    have hvalue := parseValue_stringify hprint w fuel (stringifyMembers print ws ++ rest) (by
        simp only [List.length_append, List.length_cons] at hfuel
        omega) (ends_stringifyMembers ws rest)
    rw [parseMembers, parseKey_quote hprint]
    simp only [hvalue]
    cases hws : ws with
    | nil =>
      simp only [stringifyMembers, List.singleton_append]
      rw [skipWhitespace_cons rfl]
      exact if_pos rfl
    | cons m us =>
      obtain ⟨k', u⟩ := m
      have hmembers := parseMembers_stringify hprint ws fuel rest k' u us hws (by
          simp only [hws, stringifyMembers, List.length_append, List.length_cons] at hfuel ⊢
          omega)
      have hquote : skipWhitespace (quote k' ++ colon :: (stringify print u ++
          (stringifyMembers print us ++ rest))) =
          quote k' ++ colon :: (stringify print u ++ (stringifyMembers print us ++ rest)) := by
        rw [quote, List.cons_append]
        exact skipWhitespace_cons rfl _
      simp only [stringifyMembers, List.cons_append, List.append_assoc]
      rw [skipWhitespace_cons rfl]
      simp only [show comma ≠ rightBrace by decide, if_false, if_true]
      rw [hquote, hmembers]
      rfl

end

theorem parse_stringify (read : Text → μ) (hprint : ∀ n, NumberText (print n)) (v : Value ν) :
    parse read (stringify print v) = some (v.map fun n => read (print n)) := by
  have hskip := skipWhitespace_stringify hprint v []
  have hvalue : parseValue read _ (stringify print v ++ []) = _ :=
    parseValue_stringify hprint v (2 * (stringify print v).length + 1) [] (by omega) ends_nil
  rw [List.append_nil] at hskip hvalue
  rw [parse, hskip, hvalue]
  rfl

mutual

theorem map_id (f : ν → ν) (hf : ∀ n, f n = n) : (v : Value ν) → v.map f = v
  | .null | .bool _ | .string _ => rfl
  | .number n => congrArg Value.number (hf n)
  | .array items => congrArg Value.array (mapItems_id f hf items)
  | .object members => congrArg Value.object (mapMembers_id f hf members)

theorem mapItems_id (f : ν → ν) (hf : ∀ n, f n = n) :
    (items : List (Value ν)) → Value.mapItems f items = items
  | [] => rfl
  | v :: vs => by rw [Value.mapItems, map_id f hf v, mapItems_id f hf vs]

theorem mapMembers_id (f : ν → ν) (hf : ∀ n, f n = n) :
    (members : List (Text × Value ν)) → Value.mapMembers f members = members
  | [] => rfl
  | (key, v) :: vs => by rw [Value.mapMembers, map_id f hf v, mapMembers_id f hf vs]

end

theorem stringify_inj {read : Text → ν} (hprint : ∀ n, NumberText (print n))
    (hread : ∀ n, read (print n) = n) {v w : Value ν}
    (h : stringify print v = stringify print w) : v = w := by
  have hv := parse_stringify read hprint v
  have hw := parse_stringify read hprint w
  rw [map_id _ hread] at hv hw
  rw [h, hw] at hv
  exact (Option.some.inj hv).symm

end

end Json
