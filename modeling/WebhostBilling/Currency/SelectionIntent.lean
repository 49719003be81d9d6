import WebhostBilling.Currency.Patterns

/-!
# The intent of a currency selection

`encodeCurrencySelectionIntent` reads the JSON text of an intent, checks it and writes its canonical
text; `currency_selection_intent_canonical` puts the same text together in SQL, from typed
arguments.
-/

namespace WebhostBilling

open Json

namespace Currency

/-! ## TypeScript -/

/-- `CURRENCY_SELECTION_INTENT_LIMITS` -/
def intentInputBytes : ℕ := 65536
def intentCanonicalBytes : ℕ := 1024
def generationDigits : ℕ := 19
def generationMaximum : ℕ := 9223372036854775807

structure IntentTexts where
  installationId : Text
  executionDomainId : Text
  action : Text
  actorUserId : Text
  sessionId : Text
  requestKeyText : Text
  expectedRevision : Option Text
  expectedGeneration : Text
  proposedRevision : Text

def intentTag : Text := text "currency-selection-request-v1"

/-- A text, or `null`. -/
def textOrNull {ν : Type} : Option Text → Value ν
  | none => .null
  | some t => .string t

def IntentTexts.value {ν : Type} (x : IntentTexts) : Value ν :=
  .array [.string intentTag, .array [.string x.installationId, .string x.executionDomainId],
    .string x.action, .string x.actorUserId, .string x.sessionId, .string x.requestKeyText,
    textOrNull x.expectedRevision, .string x.expectedGeneration, .string x.proposedRevision]

/-- The texts of a tuple, where every position has one; only a revision may be `null`. -/
def readIntent : Value JsNumber → Option IntentTexts
  | .array [.string tag, .array [.string installationId, .string executionDomainId],
      .string action, .string actorUserId, .string sessionId, .string requestKeyText,
      expectedRevision, .string expectedGeneration, .string proposedRevision] =>
    if tag = intentTag then
      match expectedRevision with
      | .null => some ⟨installationId, executionDomainId, action, actorUserId, sessionId,
          requestKeyText, none, expectedGeneration, proposedRevision⟩
      | .string revision => some ⟨installationId, executionDomainId, action, actorUserId, sessionId,
          requestKeyText, some revision, expectedGeneration, proposedRevision⟩
      | _ => none
    else none
  | _ => none

/-- `isUuid` -/
def isUuid (t : Text) (grammar : Text → Bool) : Bool := t.length = 36 ∧ grammar t = true

/-- `isGeneration` -/
def isGeneration (t : Text) : Bool :=
  t.length ≤ generationDigits ∧ (t.all isDigit = true ∧ isWhole t = true) ∧
    digitsValue t ≤ generationMaximum

def IntentTexts.actionChecked (x : IntentTexts) : Bool :=
  if x.action = text "initialize" ∨ x.action = text "adopt" then
    x.expectedRevision = none ∧ x.expectedGeneration = text "0"
  else if x.action = text "replace" then
    x.expectedRevision.any isVersion = true ∧ x.expectedGeneration ≠ text "0" ∧
      x.expectedRevision ≠ some x.proposedRevision
  else false

def IntentTexts.checked (x : IntentTexts) : Bool :=
  isUuid x.installationId serverUuid ∧ isUuid x.executionDomainId serverUuid ∧
    isUuid x.actorUserId serverUuid ∧ isUuid x.sessionId serverUuid ∧
    isUuid x.requestKeyText requestUuid ∧ isVersion x.proposedRevision ∧
    isGeneration x.expectedGeneration ∧ x.actionChecked

structure CurrencySelectionIntent where
  canonicalText : Text
  stableIntentDigest : Text

/-- `JSON.stringify` of a tuple of texts. -/
def IntentTexts.canonicalText (x : IntentTexts) : Text := stringify printNat x.value

section

/- The SHA-256 hash of a text, in hexadecimal. -/
variable (sha256 : Text → Text)

def encodeCurrencySelectionIntent (text : Text) : Option CurrencySelectionIntent := do
  guard (text.length ≤ intentInputBytes)
  guard (utf8Length text ≤ intentInputBytes)
  let input ← parse JsNumber.read text
  let intent ← readIntent input
  guard (intent.checked = true)
  guard (utf8Length intent.canonicalText ≤ intentCanonicalBytes)
  return ⟨intent.canonicalText, sha256 intent.canonicalText⟩

end

/-! ## SQL -/

/-- The 32 digits of a `uuid`. -/
structure Uuid where
  digits : List (Fin 16)
  length_eq : digits.length = 32

/-- `uuid::text` -/
def Uuid.text (u : Uuid) : Text :=
  let digits := u.digits.map fun d => hexUnit d.val
  digits.take 8 ++ minus :: ((digits.drop 8).take 4 ++ minus :: ((digits.drop 12).take 4 ++
    minus :: ((digits.drop 16).take 4 ++ minus :: digits.drop 20)))

/-- `int8::text` -/
def printInt (n : ℤ) : Text :=
  if n < 0 then minus :: printNat n.natAbs else printNat n.natAbs

/-- The arguments of `currency_selection_intent_canonical`; only the prior revision may be null. -/
structure IntentArguments where
  installationUuid : Uuid
  domainUuid : Uuid
  actorUuid : Uuid
  sessionUuid : Uuid
  keyText : Text
  operation : Text
  priorRevision : Option Text
  generation : Int64
  nextRevision : Text

def IntentArguments.operationChecked (x : IntentArguments) : Bool :=
  if x.operation = text "initialize" ∨ x.operation = text "adopt" then
    ¬ (x.priorRevision.isSome = true ∨ x.generation ≠ 0)
  else if x.operation = text "replace" then
    ¬ (x.priorRevision = none ∨ x.generation ≤ 0 ∨ x.priorRevision = some x.nextRevision)
  else false

def IntentArguments.result (x : IntentArguments) : Text :=
  text "[\"currency-selection-request-v1\",[\"" ++ x.installationUuid.text ++ text "\",\"" ++
    x.domainUuid.text ++ text "\"],\"" ++ x.operation ++ text "\",\"" ++ x.actorUuid.text ++
    text "\",\"" ++ x.sessionUuid.text ++ text "\",\"" ++ x.keyText ++ text "\"," ++
    (match x.priorRevision with
      | none => text "null"
      | some revision => text "\"" ++ revision ++ text "\"") ++
    text ",\"" ++ printInt x.generation.toInt ++ text "\",\"" ++ x.nextRevision ++ text "\"]"

def currencySelectionIntentCanonical (x : IntentArguments) : Option Text := do
  guard (∀ u ∈ [x.installationUuid, x.domainUuid, x.actorUuid, x.sessionUuid],
    serverUuid u.text = true)
  guard (utf8Length x.keyText = 36)
  guard (requestUuid x.keyText = true)
  guard (isSqlVersion x.nextRevision = true)
  guard (∀ revision ∈ x.priorRevision, isSqlVersion revision = true)
  guard (x.operationChecked = true)
  guard (utf8Length x.result ≤ 1024)
  return x.result

/-- The JSON array of the arguments: identifiers in lower case, the generation in decimal. -/
def IntentArguments.texts (x : IntentArguments) : IntentTexts where
  installationId := x.installationUuid.text
  executionDomainId := x.domainUuid.text
  action := x.operation
  actorUserId := x.actorUuid.text
  sessionId := x.sessionUuid.text
  requestKeyText := x.keyText
  expectedRevision := x.priorRevision
  expectedGeneration := printInt x.generation.toInt
  proposedRevision := x.nextRevision

end Currency

end WebhostBilling
