import WebhostBilling.Currency.PolicyContext

/-!
# Policy revisions in the database

The trigger on `currency_policy_revisions`, which checks the JSON of a new row against
`currency_unit_definitions` and sorts its entries, and the constraints of the table.
-/

namespace WebhostBilling

open Json Store

namespace Currency

/-- A row of `currency_policy_revisions`; `policy` is `jsonb`. -/
structure PolicyRow where
  revision : Text
  policy : Value JsNumber

/-- An iteration over the entries: the unit is well-formed and defined, and a historical one is neither
displayed nor sold. -/
def validateEntry (table : List CurrencyUnitDefinition) (entry : CurrencyPolicyEntry) :
    Option CurrencyPolicyEntry := do
  guard (sqlPatterns.reference entry.unit = true)
  let definition ← findUnit table entry.unit
  guard (¬ (definition.status = .historical ∧
    (entry.capabilities.display = true ∨ entry.capabilities.newSales = true)))
  return entry

def validateSelected (table : List CurrencyUnitDefinition) (policy : CurrencyPolicy) (field : String)
    (chosen : CurrencyPolicyUnitReference) : Bool :=
  sqlPatterns.reference chosen &&
    match policy.entry? chosen with
    | none => false
    | some entry => ¬ (field ≠ "base" ∧
        ((findUnit table chosen).map CurrencyUnitDefinition.status ≠ some .current ∨
          entry.capabilities.display = false))

/-- `validate_currency_policy_snapshot`; what it asks of the types and the keys of `NEW.policy` is
checked where the policy is read. -/
def validateCurrencyPolicySnapshot (table : List CurrencyUnitDefinition) (row : PolicyRow) :
    Option PolicyRow := do
  let policy ← CurrencyPolicy.ofValue row.policy
  guard (policy.revision = row.revision)
  guard (1 ≤ policy.currencies.length ∧ policy.currencies.length ≤ 32)
  let entries ← readDistinct (validateEntry table) (·.unit.code) [] policy.currencies
  guard (∀ x ∈ policy.selected, validateSelected table policy x.1 x.2 = true)
  guard (¬ policy.preferredSecondary.any (·.code = policy.defaultBrowsing.code) = true)
  return { row with policy := CurrencyPolicy.toValue { policy with
    currencies := sortCapabilities entries } }

/-- `currency_policy_revisions_revision_check` and `currency_policy_revisions_identity_check` -/
def PolicyRow.checked (row : PolicyRow) : Bool :=
  sqlPatterns.metadataVersion row.revision = true ∧
    (row.policy.member (text "revision")).bind Value.text? = some row.revision

def insertedRow (table : List CurrencyUnitDefinition) (row : PolicyRow) : Option PolicyRow := do
  let row ← validateCurrencyPolicySnapshot table row
  guard (row.checked = true)
  return row

end Currency

end WebhostBilling
