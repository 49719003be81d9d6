import WebhostBilling.Currency.CurrencyUnits

/-!
# Currency policies

The schemas of `currency-policy.ts`: a policy, a policy with the definitions of its units, and the
transition from one policy to the next.  A schema reads a value of its shape, checks the texts in it
and then collects the issues of its refinement; it accepts a value without issues.
-/

namespace WebhostBilling

open Json Store

namespace Currency

/-! ## Policies -/

structure CurrencyCapabilities where
  display : Bool
  newSales : Bool
  collection : Bool

structure CurrencyPolicyEntry where
  unit : CurrencyPolicyUnitReference
  capabilities : CurrencyCapabilities

structure CurrencyPolicy where
  revision : Text
  base : CurrencyPolicyUnitReference
  defaultBrowsing : CurrencyPolicyUnitReference
  preferredSecondary : Option CurrencyPolicyUnitReference
  currencies : List CurrencyPolicyEntry

structure CurrencyPolicyContext where
  policy : CurrencyPolicy
  definitions : List CurrencyUnitDefinition

def CurrencyPolicy.selected (policy : CurrencyPolicy) :
    List (String × CurrencyPolicyUnitReference) :=
  ("base", policy.base) :: ("defaultBrowsing", policy.defaultBrowsing) ::
    policy.preferredSecondary.toList.map ("preferredSecondary", ·)

def CurrencyPolicy.references (policy : CurrencyPolicy) : List CurrencyPolicyUnitReference :=
  policy.selected.map Prod.snd ++ policy.currencies.map CurrencyPolicyEntry.unit

/-- `CURRENCY_POLICY_LIMITS.entries` -/
def entryLimit : ℕ := 32

/-! ### As values -/

def CurrencyCapabilities.toValue (c : CurrencyCapabilities) : Value JsNumber :=
  .object [(text "display", .bool c.display), (text "newSales", .bool c.newSales),
    (text "collection", .bool c.collection)]

def CurrencyCapabilities.ofValue (v : Value JsNumber) : Option CurrencyCapabilities := do
  guard (v.hasKeys [text "display", text "newSales", text "collection"] = true)
  let display ← (← v.member (text "display")).bool?
  let newSales ← (← v.member (text "newSales")).bool?
  let collection ← (← v.member (text "collection")).bool?
  return ⟨display, newSales, collection⟩

def CurrencyPolicyEntry.toValue (e : CurrencyPolicyEntry) : Value JsNumber :=
  .object [(text "unit", e.unit.toValue), (text "capabilities", e.capabilities.toValue)]

def CurrencyPolicyEntry.ofValue (v : Value JsNumber) : Option CurrencyPolicyEntry := do
  guard (v.hasKeys [text "unit", text "capabilities"] = true)
  let unit ← CurrencyPolicyUnitReference.ofValue (← v.member (text "unit"))
  let capabilities ← CurrencyCapabilities.ofValue (← v.member (text "capabilities"))
  return ⟨unit, capabilities⟩

def CurrencyPolicy.toValue (p : CurrencyPolicy) : Value JsNumber :=
  .object ([(text "revision", .string p.revision), (text "base", p.base.toValue),
    (text "defaultBrowsing", p.defaultBrowsing.toValue),
    (text "currencies", .array (p.currencies.map CurrencyPolicyEntry.toValue))] ++
      p.preferredSecondary.toList.map fun r => (text "preferredSecondary", r.toValue))

def policyKeys : List Text :=
  [text "revision", text "base", text "defaultBrowsing", text "currencies"]

def CurrencyPolicy.ofValue (v : Value JsNumber) : Option CurrencyPolicy := do
  guard (v.hasKeys policyKeys = true ∨ v.hasKeys (policyKeys ++ [text "preferredSecondary"]) = true)
  let revision ← (← v.member (text "revision")).text?
  let base ← CurrencyPolicyUnitReference.ofValue (← v.member (text "base"))
  let defaultBrowsing ← CurrencyPolicyUnitReference.ofValue (← v.member (text "defaultBrowsing"))
  let preferredSecondary ← match v.member (text "preferredSecondary") with
    | none => some none
    | some secondary => (CurrencyPolicyUnitReference.ofValue secondary).map some
  let currencies ← (← (← v.member (text "currencies")).items?).mapM CurrencyPolicyEntry.ofValue
  return ⟨revision, base, defaultBrowsing, preferredSecondary, currencies⟩

theorem mapM_ofValue (currencies : List CurrencyPolicyEntry) :
    (currencies.map CurrencyPolicyEntry.toValue).mapM CurrencyPolicyEntry.ofValue =
      some currencies := by
  rw [List.mapM_map]
  exact (List.mapM_pure (f := id)).trans (congrArg some (List.map_id currencies))

theorem CurrencyPolicy.ofValue_toValue (p : CurrencyPolicy) : ofValue p.toValue = some p := by
  obtain ⟨revision, base, defaultBrowsing, preferredSecondary, currencies⟩ := p
  cases preferredSecondary with
  | none | some secondary =>
    show ((currencies.map CurrencyPolicyEntry.toValue).mapM CurrencyPolicyEntry.ofValue).bind _ = _
    rw [mapM_ofValue]
    rfl

/-! ### The schema of a policy -/

def UnitPatterns.reference (patterns : UnitPatterns) (r : CurrencyPolicyUnitReference) : Bool :=
  patterns.code r.code && patterns.metadataVersion r.metadataVersion

/-- The issues of the refinement of `currencyPolicySchema`. -/
def currencyPolicyIssues (policy : CurrencyPolicy) : List Issue :=
  (repeated (fun entry => entry.unit.code) policy.currencies).map (fun index =>
    ⟨[.key "currencies", .index index, .key "unit"],
      "Duplicate or conflicting currency policy entry"⟩) ++
  if policy.preferredSecondary.any (·.code = policy.defaultBrowsing.code) = true then
    [⟨[.key "preferredSecondary"],
      "Secondary currency must differ from default browsing currency"⟩]
  else []

def currencyPolicySchema (v : Value JsNumber) : Option CurrencyPolicy := do
  let policy ← CurrencyPolicy.ofValue v
  guard (boundedVersion policy.revision = true)
  guard (∀ reference ∈ policy.references, schemaPatterns.reference reference = true)
  guard (0 < policy.currencies.length ∧ policy.currencies.length ≤ entryLimit)
  guard (currencyPolicyIssues policy = [])
  return policy

/-! ## Policies in the context of their units -/

def entryIssues (definitions : List CurrencyUnitDefinition) (entry : CurrencyPolicyEntry)
    (index : ℕ) : List Issue :=
  match findUnit definitions entry.unit with
  | none => [⟨[.key "policy", .key "currencies", .index index, .key "unit"],
      "Policy unit is not in the explicit context"⟩]
  | some definition =>
    if definition.status = .historical ∧
        (entry.capabilities.display = true ∨ entry.capabilities.newSales = true) then
      [⟨[.key "policy", .key "currencies", .index index, .key "capabilities"],
        "Historical units cannot enable new browsing or sales"⟩]
    else []

def CurrencyPolicy.entry? (policy : CurrencyPolicy) (reference : CurrencyPolicyUnitReference) :
    Option CurrencyPolicyEntry :=
  policy.currencies.find? fun candidate => candidate.unit = reference

def selectedIssues (policy : CurrencyPolicy) (definitions : List CurrencyUnitDefinition)
    (field : String) (reference : CurrencyPolicyUnitReference) : List Issue :=
  match policy.entry? reference, findUnit definitions reference with
  | some entry, some definition =>
    if field ≠ "base" ∧ (entry.capabilities.display = false ∨ definition.status ≠ .current) then
      [⟨[.key "policy", .key field],
        "Browsing choice requires a current display-enabled unit"⟩]
    else []
  | _, _ => [⟨[.key "policy", .key field],
      "Selected unit must match an explicit policy entry and definition"⟩]

/-- The issues of the refinement of `currencyPolicyContextSchema`. -/
def currencyPolicyContextIssues (policy : CurrencyPolicy)
    (definitions : List CurrencyUnitDefinition) : List Issue :=
  (policy.currencies.zipIdx.flatMap fun (entry, index) => entryIssues definitions entry index) ++
    policy.selected.flatMap fun (field, reference) =>
      selectedIssues policy definitions field reference

def currencyPolicyContextSchema (v : Value JsNumber) : Option CurrencyPolicyContext := do
  guard (v.hasKeys [text "policy", text "definitions"] = true)
  let policy ← currencyPolicySchema (← v.member (text "policy"))
  let definitions ← currencyUnitContextSchema (← v.member (text "definitions"))
  guard (currencyPolicyContextIssues policy definitions = [])
  return ⟨policy, definitions⟩

/-- The object `{ policy, definitions }`. -/
def contextValue (policy definitions : Value JsNumber) : Value JsNumber :=
  .object [(text "policy", policy), (text "definitions", definitions)]

def CurrencyUnitDefinition.facts (d : CurrencyUnitDefinition) : UnitFacts :=
  ⟨d.code, d.metadataVersion, .finite d.minorUnitExponent, d.provenance, d.status.text⟩

def definitionsValue (definitions : List CurrencyUnitDefinition) : Value JsNumber :=
  .array (definitions.map fun d => d.facts.toValue)

/-! ## Transitions -/

/-- What `validateCurrencyPolicyTransition` throws. -/
inductive CurrencyPolicyError
  | invalid
  | range (message : String)

structure CurrencyPolicyTransitionInput where
  current : CurrencyPolicy
  proposed : CurrencyPolicy
  definitions : List CurrencyUnitDefinition
  expectedRevision : Text
  financialHistoryExists : Bool

def currencyPolicyTransitionInputSchema (v : Value JsNumber) :
    Option CurrencyPolicyTransitionInput := do
  guard (v.hasKeys [text "current", text "proposed", text "definitions", text "expectedRevision",
    text "financialHistoryExists"] = true)
  let current ← currencyPolicySchema (← v.member (text "current"))
  let proposed ← currencyPolicySchema (← v.member (text "proposed"))
  let definitions ← currencyUnitContextSchema (← v.member (text "definitions"))
  let expectedRevision ← (← v.member (text "expectedRevision")).text?
  guard (boundedVersion expectedRevision = true)
  let financialHistoryExists ← (← v.member (text "financialHistoryExists")).bool?
  return ⟨current, proposed, definitions, expectedRevision, financialHistoryExists⟩

def validateCurrencyPolicyTransition (v : Value JsNumber) :
    Except CurrencyPolicyError CurrencyPolicyContext := do
  let input ← orThrow .invalid (currencyPolicyTransitionInputSchema v)
  let current ← orThrow .invalid (currencyPolicyContextSchema
    (contextValue input.current.toValue (definitionsValue input.definitions)))
  let proposed ← orThrow .invalid (currencyPolicyContextSchema
    (contextValue input.proposed.toValue (definitionsValue input.definitions)))
  require (input.expectedRevision = current.policy.revision)
    (.range "Currency policy revision is stale")
  require (proposed.policy.revision ≠ current.policy.revision)
    (.range "Replacement revision must differ from current revision")
  require (¬ (input.financialHistoryExists = true ∧
      proposed.policy.base.code ≠ current.policy.base.code))
    (.range "Base currency is locked after financial history exists")
  return proposed

end Currency

end WebhostBilling
