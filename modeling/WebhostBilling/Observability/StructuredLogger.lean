import WebhostBilling.Currency.DisplayedMoney
import WebhostBilling.Texts.Replacement

/-!
# The structured logger

A message becomes one line of JSON.  Values under the keys of secrets are left out, and what a text
seems to say of a credential is replaced, in three passes over the text.
-/

namespace WebhostBilling

open Json Replacement
open ResellbizLiveRegistrar (isSpace trim)
open Currency (isWord)

namespace StructuredLogger

/-! ## Texts -/

def lower (c : CodeUnit) : CodeUnit := if 0x41 ≤ c ∧ c ≤ 0x5A then c + 0x20 else c

/-- A literal in small letters is matched in either case. -/
def startsWith (literal t : Text) : Bool := literal.isPrefixOf (t.map lower)

def isControl (c : CodeUnit) : Bool := c < 0x20 ∨ c = 0x7F

/-- `[^\s,;]` -/
def isRun (c : CodeUnit) : Bool := !isSpace c && c ≠ comma && c ≠ 0x3B

/-- `[^\s,;]+` -/
def runLength (t : Text) : Option ℕ :=
  if t.takeWhile isRun = [] then none else some (t.takeWhile isRun).length

/-- `Bearer\s+[^\s,;]+` -/
def bearerLength (t : Text) : Option ℕ :=
  let value := (t.drop 6).dropWhile isSpace
  if startsWith (text "bearer") t ∧ (t.drop 6).head?.any isSpace then
    (runLength value).map (t.length - value.length + ·)
  else none

/-- `\b(keys)\b(\s*[:=]\s*)value`, replaced by `$1$2[REDACTED]`. -/
def fieldPattern (keys : List Text) (value : Text → Option ℕ) : Pattern CodeUnit Bool :=
  fun afterWord t => do
    let key ← keys.find? (startsWith · t)
    let rest := t.drop key.length
    let separated := rest.dropWhile isSpace
    if afterWord || rest.head?.any isWord || !separated.head?.any (· ∈ [colon, 0x3D]) then none
    else
      let secret := separated.tail.dropWhile isSpace
      let start := t.length - secret.length
      (value secret).map fun length => (start + length, t.take start ++ text "[REDACTED]")

def authorizationPattern : Pattern CodeUnit Bool :=
  fieldPattern [text "authorization"] fun t => bearerLength t <|> runLength t

def bearerPattern : Pattern CodeUnit Bool :=
  fun _ t => (bearerLength t).map (·, text "Bearer [REDACTED]")

def sensitiveText : Pattern CodeUnit Bool :=
  fieldPattern (["password", "passphrase", "secret", "token", "apikey", "api-key", "api_key",
    "api key", "cookie", "signature", "credential"].map text) runLength

def replace (pattern : Pattern CodeUnit Bool) (t : Text) : Text :=
  replaceFrom pattern isWord 0 false t

/-- `replace(/[\u0000-\u001f\u007f]/g, ' ')` -/
def withoutControls (t : Text) : Text := t.map fun c => if isControl c then blank else c

def sanitizeLogText (value : Text) : Text :=
  (replace sensitiveText (replace bearerPattern
    (replace authorizationPattern (withoutControls value)))).take 2048

/-! ## Values -/

/-- A value that is logged.  What is neither JSON nor a date nor an error has only the text that
`String` makes of it; an error may have members of its own. -/
inductive LogValue (ν : Type)
  | null
  | bool (b : Bool)
  | number (n : ν)
  | string (s : Text)
  | other (printed : Text)
  | date (iso : Text)
  | error (name message : Text) (members : List (Text × LogValue ν))
  | array (items : List (LogValue ν))
  | object (members : List (Text × LogValue ν))

variable {ν : Type}

/-- The alternatives of `sensitiveKey`: a text, with at most one unit before a second one. -/
def sensitiveKeys : List (Text × Text) :=
  [("password", ""), ("passphrase", ""), ("secret", ""), ("token", ""), ("api", "key"),
    ("private", "key"), ("access", "hash"), ("authorization", ""), ("cookie", ""),
    ("signature", ""), ("credential", ""), ("raw", "body"), ("request", "body"), ("payload", ""),
    ("headers", ""), ("proof", "")].map fun (first, second) => (text first, text second)

/-- What `.` matches. -/
def isAny (c : CodeUnit) : Bool := c ∉ [lineFeed, carriageReturn, 0x2028, 0x2029]

def sensitiveKey (key : Text) : Bool :=
  key.tails.any fun t => sensitiveKeys.any fun (first, second) =>
    let rest := t.drop first.length
    startsWith first t && (startsWith second rest ||
      rest.head?.any isAny && startsWith second rest.tail)

def redacted : Json.Value ν := .string (text "[REDACTED]")

/-- Values that are nested deeper than six times are left out. -/
def truncated (depth : ℕ) (v : Json.Value ν) : Json.Value ν :=
  if 6 < depth then .string (text "[TRUNCATED]") else v

mutual

def redactLogValue (depth : ℕ) : LogValue ν → Json.Value ν
  | .null => truncated depth .null
  | .bool b => truncated depth (.bool b)
  | .number n => truncated depth (.number n)
  | .string s => truncated depth (.string (sanitizeLogText s))
  | .other printed => truncated depth (.string printed)
  | .date iso => truncated depth (.string iso)
  | .error name message _ => truncated depth (.object
      [(text "name", .string name), (text "message", .string (sanitizeLogText message))])
  | .array items => truncated depth (.array ((redactItems depth items).take 50))
  | .object members => truncated depth (.object ((redactMembers depth members).take 100))

def redactItems (depth : ℕ) : List (LogValue ν) → List (Json.Value ν)
  | [] => []
  | v :: vs => redactLogValue (depth + 1) v :: redactItems depth vs

def redactMembers (depth : ℕ) : List (Text × LogValue ν) → List (Text × Json.Value ν)
  | [] => []
  | (key, v) :: vs =>
    (key, if sensitiveKey key then redacted else redactLogValue (depth + 1) v) ::
      redactMembers depth vs

end

/-! ## Records -/

def index? (key : Text) : Option ℕ :=
  if key.all isDigit ∧ Json.isWhole key ∧ Json.digitsValue key < 2 ^ 32 - 1 then
    some (Json.digitsValue key)
  else none

/-- The members in the order of an object: a key that is given again keeps its place, and the
indices come first. -/
def ownProperties {α : Type} (members : List (Text × α)) : List (Text × α) :=
  let assigned := members.foldl (fun own (key, v) =>
    if own.any (·.1 = key) then own.map fun entry => if entry.1 = key then (key, v) else entry
    else own ++ [(key, v)]) []
  (assigned.filter fun entry => (index? entry.1).isSome).mergeSort
      (fun a b => (index? a.1).getD 0 ≤ (index? b.1).getD 0) ++
    assigned.filter fun entry => (index? entry.1).isNone

mutual

def ofJson : Json.Value ν → LogValue ν
  | .null => .null
  | .bool b => .bool b
  | .number n => .number n
  | .string s => .string s
  | .array items => .array (ofItems items)
  | .object members => .object (ownProperties (ofMembers members))

def ofItems : List (Json.Value ν) → List (LogValue ν)
  | [] => []
  | v :: vs => ofJson v :: ofItems vs

def ofMembers : List (Text × Json.Value ν) → List (Text × LogValue ν)
  | [] => []
  | (key, v) :: vs => (key, ofJson v) :: ofMembers vs

end

/-- What a logger is made with and what it is called in, with the numbers of the program. -/
structure Logger (ν : Type) where
  readNumber : Text → ν
  printNumber : ν → Text
  now : Text
  service : Text
  environment : Option Text
  logContext : List (Text × Text)

variable (logger : Logger ν)

def parseRecord : LogValue ν → Option (List (Text × LogValue ν))
  | .object members | .error _ _ members => some members
  | .date _ => some []
  | .string s =>
    if (trim s).head? = some leftBrace then
      (parse logger.readNumber s).bind fun
        | .object members => some (ownProperties (ofMembers members))
        | _ => none
    else none
  | _ => none

def eventOf (members : List (Text × LogValue ν)) : Text :=
  match members.lookup (text "event") with
  | some (.string event) => (sanitizeLogText event).take 120
  | _ => text "application_log"

def logRecord (message : LogValue ν) : Text × List (Text × LogValue ν) :=
  match parseRecord logger message with
  | some members => (eventOf members, members.filter (·.1 ≠ text "event"))
  | none => (text "application_log", [(text "message", ofJson (redactLogValue 0 message))])

def string? : LogValue ν → Option Text
  | .string s => some s
  | _ => none

def emit (level : Text) (message : LogValue ν) (optionalParams : List (LogValue ν)) : Text :=
  let (event, fields) := logRecord logger message
  let context := (optionalParams.reverse.findSome? string?).filter (· ≠ [])
  let redacted := ((redactMembers 0 fields).take 100).filter fun (key, _) =>
    key ∉ [text "timestamp", text "level", text "service"]
  let texts := [(text "timestamp", logger.now), (text "level", level),
    (text "service", logger.service)] ++
    ((logger.environment.filter (· ≠ [])).map (text "environment", ·)).toList ++
    [(text "event", event)] ++ logger.logContext ++
    (context.map fun context => (text "context", sanitizeLogText context)).toList
  stringify logger.printNumber
    (.object (ownProperties (texts.map (fun (key, t) => (key, .string t)) ++ redacted)))

end StructuredLogger

end WebhostBilling
