import WebhostBilling.Json.Value

/-!
# Parsing JSON

`JSON.parse`, by recursive descent.  A nested value is shorter than the text around it, so fuel that
is twice the length of the text never runs out.  What a number token stands for is a parameter.
-/

namespace Json

/-! ## Lexical parts -/

def isWhitespace (c : CodeUnit) : Bool :=
  c = tab ∨ c = lineFeed ∨ c = carriageReturn ∨ c = blank

def skipWhitespace (t : Text) : Text := t.dropWhile isWhitespace

def isDigit (c : CodeUnit) : Bool := 0x30 ≤ c ∧ c ≤ 0x39

def hexDigit? (c : CodeUnit) : Option ℕ :=
  if 0x30 ≤ c ∧ c ≤ 0x39 then some (c.toNat - 0x30)
  else if 0x61 ≤ c ∧ c ≤ 0x66 then some (c.toNat - 0x57)
  else if 0x41 ≤ c ∧ c ≤ 0x46 then some (c.toNat - 0x37)
  else none

def hexUnit? (a b c d : CodeUnit) : Option CodeUnit := do
  let a ← hexDigit? a
  let b ← hexDigit? b
  let c ← hexDigit? c
  let d ← hexDigit? d
  return (a * 0x1000 + b * 0x100 + c * 0x10 + d).toUInt16

def shortEscape? (e : CodeUnit) : Option CodeUnit :=
  if e = quotationMark then some quotationMark
  else if e = reverseSolidus then some reverseSolidus
  else if e = solidus then some solidus
  else if e = 0x62 then some backspace
  else if e = 0x66 then some formFeed
  else if e = 0x6E then some lineFeed
  else if e = 0x72 then some carriageReturn
  else if e = 0x74 then some tab
  else none

def parseString : Text → Option (Text × Text)
  | [] => none
  | c :: cs =>
    if c = quotationMark then some ([], cs)
    else if c = reverseSolidus then
      match cs with
      | [] => none
      | e :: rest =>
        match shortEscape? e with
        | some unit => (parseString rest).map fun out => (unit :: out.1, out.2)
        | none =>
          if e = 0x75 then
            match rest with
            | h₁ :: h₂ :: h₃ :: h₄ :: rest =>
              match hexUnit? h₁ h₂ h₃ h₄ with
              | some unit => (parseString rest).map fun out => (unit :: out.1, out.2)
              | none => none
            | _ => none
          else none
    else if c < blank then none
    else (parseString cs).map fun out => (c :: out.1, out.2)

/-! ## Numbers -/

def isNumberUnit (c : CodeUnit) : Bool :=
  isDigit c || c = minus || c = plus || c = point || c = 0x65 || c = 0x45

def dropMinus : Text → Text
  | [] => []
  | c :: cs => if c = minus then cs else c :: cs

def isWhole (digits : Text) : Bool :=
  digits ≠ [] ∧ (digits.head? = some 0x30 → digits.length = 1)

def dropFraction : Text → Option Text
  | [] => some []
  | c :: cs =>
    if c = point then
      if cs.takeWhile isDigit = [] then none else some (cs.dropWhile isDigit)
    else some (c :: cs)

def dropSign : Text → Text
  | [] => []
  | c :: cs => if c = minus ∨ c = plus then cs else c :: cs

def isExponent : Text → Bool
  | [] => true
  | c :: cs => (c = 0x65 ∨ c = 0x45) ∧ dropSign cs ≠ [] ∧ (dropSign cs).all isDigit

def isNumber (t : Text) : Bool :=
  isWhole ((dropMinus t).takeWhile isDigit) &&
    (dropFraction ((dropMinus t).dropWhile isDigit)).any isExponent

/-! ## Values -/

section

variable {ν : Type} (read : Text → ν)

def expect (expected t : Text) : Option Text :=
  if t.take expected.length = expected then some (t.drop expected.length) else none

def parseScalar (t : Text) : Option (Value ν × Text) :=
  if isNumber (t.takeWhile isNumberUnit) then
    some (.number (read (t.takeWhile isNumberUnit)), t.dropWhile isNumberUnit)
  else
    (expect (text "null") t).map (Value.null, ·) <|>
    (expect (text "true") t).map (Value.bool true, ·) <|>
    (expect (text "false") t).map (Value.bool false, ·)

def parseKey : Text → Option (Text × Text)
  | [] => none
  | c :: cs =>
    if c = quotationMark then do
      let (key, t) ← parseString cs
      match skipWhitespace t with
      | [] => none
      | c :: cs => if c = colon then some (key, skipWhitespace cs) else none
    else none

mutual

def parseValue : ℕ → Text → Option (Value ν × Text)
  | 0, _ => none
  | _ + 1, [] => none
  | fuel + 1, c :: cs =>
    if c = quotationMark then (parseString cs).map fun out => (.string out.1, out.2)
    else if c = leftBracket then
      if (skipWhitespace cs).head? = some rightBracket then
        some (.array [], (skipWhitespace cs).tail)
      else (parseItems fuel (skipWhitespace cs)).map fun out => (.array out.1, out.2)
    else if c = leftBrace then
      if (skipWhitespace cs).head? = some rightBrace then
        some (.object [], (skipWhitespace cs).tail)
      else (parseMembers fuel (skipWhitespace cs)).map fun out => (.object out.1, out.2)
    else parseScalar read (c :: cs)

def parseItems : ℕ → Text → Option (List (Value ν) × Text)
  | 0, _ => none
  | fuel + 1, t =>
    match parseValue fuel t with
    | none => none
    | some (v, rest) =>
      match skipWhitespace rest with
      | [] => none
      | c :: cs =>
        if c = rightBracket then some ([v], cs)
        else if c = comma then
          (parseItems fuel (skipWhitespace cs)).map fun out => (v :: out.1, out.2)
        else none

def parseMembers : ℕ → Text → Option (List (Text × Value ν) × Text)
  | 0, _ => none
  | fuel + 1, t =>
    match parseKey t with
    | none => none
    | some (key, t) =>
      match parseValue fuel t with
      | none => none
      | some (v, rest) =>
        match skipWhitespace rest with
        | [] => none
        | c :: cs =>
          if c = rightBrace then some ([(key, v)], cs)
          else if c = comma then
            (parseMembers fuel (skipWhitespace cs)).map fun out => ((key, v) :: out.1, out.2)
          else none

end

/-- `JSON.parse`: one value, with nothing but white space around it. -/
def parse (t : Text) : Option (Value ν) :=
  match parseValue read (2 * t.length + 1) (skipWhitespace t) with
  | none => none
  | some (v, rest) => if skipWhitespace rest = [] then some v else none

end

end Json
