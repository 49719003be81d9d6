import Mathlib.Data.List.Sort
import WebhostBilling.Currency.CurrencyPolicy

/-!
# The encoder of policy contexts

`encodeCurrencyPolicyContext` reads a policy and the definitions of its units from a JSON text of
tuples, checks them on its own and writes their canonical text, where both lists are sorted.
-/

namespace WebhostBilling

open Json Store

namespace Currency

/-- `CURRENCY_POLICY_CONTEXT_LIMITS` -/
def contextInputBytes : ℕ := 65536
def contextCanonicalBytes : ℕ := 24576
def contextEntries : ℕ := 32

/-! ## Tuples -/

def copyReference : Value JsNumber → Option CurrencyPolicyUnitReference
  | .array [.string code, .string version] =>
    if matchesCode code = true ∧ isVersion version = true then some ⟨code, version⟩ else none
  | _ => none

/-- The preferred secondary unit, or `null`. -/
def copySecondary : Value JsNumber → Option (Option CurrencyPolicyUnitReference)
  | .null => some none
  | v => (copyReference v).map some

def copyCapability : Value JsNumber → Option CurrencyPolicyEntry
  | .array [.string code, .string version, .bool display, .bool newSales, .bool collection] =>
    if matchesCode code = true ∧ isVersion version = true then
      some ⟨⟨code, version⟩, ⟨display, newSales, collection⟩⟩
    else none
  | _ => none

def copyDefinition : Value JsNumber → Option CurrencyUnitDefinition
  | .array [.string code, .string version, .number exponent, .string provenance, .string status] =>
    encoderPatterns.read ⟨code, version, exponent, provenance, status⟩
  | _ => none

/-! ## Checks -/

/-- `byUnit.get` -/
def unitUnder (definitions : List CurrencyUnitDefinition) (r : CurrencyPolicyUnitReference) :
    Option CurrencyUnitDefinition :=
  definitions.find? fun d => d.reference.identity = r.identity

/-- `byCode.get` -/
def capabilityUnder (capabilities : List CurrencyPolicyEntry) (code : Text) :
    Option CurrencyPolicyEntry :=
  capabilities.find? fun e => e.unit.code = code

def capabilityAllowed (definitions : List CurrencyUnitDefinition) (e : CurrencyPolicyEntry) : Bool :=
  match unitUnder definitions e.unit with
  | none => false
  | some unit => ¬ (unit.status = .historical ∧
      (e.capabilities.display = true ∨ e.capabilities.newSales = true))

def referenceAllowed (capabilities : List CurrencyPolicyEntry)
    (definitions : List CurrencyUnitDefinition) (isBase : Bool) (r : CurrencyPolicyUnitReference) :
    Bool :=
  match capabilityUnder capabilities r.code, unitUnder definitions r with
  | some entry, some unit => entry.unit.metadataVersion = r.metadataVersion ∧
      ¬ (isBase = false ∧ (entry.capabilities.display = false ∨ unit.status ≠ .current))
  | _, _ => false

/-! ## The canonical text -/

/-- `asciiCompare(left, right) <= 0` -/
def asciiLe (left right : Text) : Bool := ¬ right < left

def sortCapabilities (capabilities : List CurrencyPolicyEntry) : List CurrencyPolicyEntry :=
  capabilities.mergeSort fun left right => asciiLe left.unit.code right.unit.code

def CurrencyPolicy.sorted (p : CurrencyPolicy) : CurrencyPolicy :=
  { p with currencies := sortCapabilities p.currencies }

def sortDefinitions (definitions : List CurrencyUnitDefinition) : List CurrencyUnitDefinition :=
  definitions.mergeSort fun left right =>
    if left.code = right.code then asciiLe left.metadataVersion right.metadataVersion
    else asciiLe left.code right.code

section

variable {ν : Type}

def CurrencyPolicyUnitReference.tuple (r : CurrencyPolicyUnitReference) : Value ν :=
  .array [.string r.code, .string r.metadataVersion]

def secondaryTuple : Option CurrencyPolicyUnitReference → Value ν
  | none => .null
  | some r => r.tuple

def CurrencyPolicyEntry.tuple (e : CurrencyPolicyEntry) : Value ν :=
  .array [.string e.unit.code, .string e.unit.metadataVersion, .bool e.capabilities.display,
    .bool e.capabilities.newSales, .bool e.capabilities.collection]

def CurrencyPolicy.tuple (p : CurrencyPolicy) : Value ν :=
  .array [.string p.revision, p.base.tuple, p.defaultBrowsing.tuple,
    secondaryTuple p.preferredSecondary, .array (p.currencies.map CurrencyPolicyEntry.tuple)]

end

def CurrencyUnitDefinition.tuple (d : CurrencyUnitDefinition) : Value ℕ :=
  .array [.string d.code, .string d.metadataVersion, .number d.minorUnitExponent,
    .string d.provenance, .string d.status.text]

/-- `JSON.stringify` of the policy and the definitions, with their lists sorted. -/
def CurrencyPolicyContext.canonicalText (c : CurrencyPolicyContext) : Text :=
  stringify printNat (.array
    [CurrencyPolicy.tuple { c.policy with currencies := sortCapabilities c.policy.currencies },
      .array ((sortDefinitions c.definitions).map CurrencyUnitDefinition.tuple)])

def copyContext (input : Value JsNumber) : Option CurrencyPolicyContext := do
  let .array [.array [.string revision, base, browsing, secondary, .array entries], .array units] :=
    input | none
  guard (1 ≤ entries.length ∧ entries.length ≤ contextEntries)
  guard (1 ≤ units.length ∧ units.length ≤ contextEntries)
  guard (isVersion revision = true)
  let base ← copyReference base
  let browsing ← copyReference browsing
  let secondary ← copySecondary secondary
  guard (¬ secondary.any (·.code = browsing.code) = true)
  let capabilities ← readDistinct copyCapability (·.unit.code) [] entries
  let definitions ← readDistinct copyDefinition (·.reference.identity) [] units
  guard (definitions.length = capabilities.length)
  guard (∀ e ∈ capabilities, capabilityAllowed definitions e = true)
  guard (referenceAllowed capabilities definitions true base = true)
  guard (∀ r ∈ browsing :: secondary.toList,
    referenceAllowed capabilities definitions false r = true)
  return ⟨⟨revision, base, browsing, secondary, capabilities⟩, definitions⟩

def encodeCurrencyPolicyContext (text : Text) : Option Text := do
  guard (text.length ≤ contextInputBytes)
  guard (utf8Length text ≤ contextInputBytes)
  let input ← parse JsNumber.read text
  let context ← copyContext input
  guard (utf8Length context.canonicalText ≤ contextCanonicalBytes)
  return context.canonicalText

end Currency

end WebhostBilling
