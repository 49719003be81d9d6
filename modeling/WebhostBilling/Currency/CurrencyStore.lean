import WebhostBilling.Concurrency.Threads
import WebhostBilling.Currency.PolicyRevisions
import WebhostBilling.Store.ReadCommitted

/-!
# Storing units and policies

`currency-units.ts` and `currency-policies.ts`, statement by statement.  A caller runs their
functions one after another, on the client, where every statement commits, or in a transaction,
which commits at the end or is rolled back.
-/

namespace WebhostBilling

open Concurrency Json Store

namespace Currency

inductive CurrencyStoreError
  | invalid
  | message (text : String)
  | database

/-! ## Units -/

def parseReference (reference : CurrencyPolicyUnitReference) :
    Except CurrencyStoreError CurrencyPolicyUnitReference := do
  require (schemaPatterns.reference reference = true) .invalid
  require (reference.metadataVersion.all isVersionUnit = true)
    (.message "Invalid currency unit reference")
  return reference

def parseDefinition (facts : UnitFacts) : Except CurrencyStoreError CurrencyUnitDefinition := do
  let definition ← orThrow .invalid (schemaPatterns.read facts)
  let _ ← parseReference definition.reference
  require (definition.provenance.all isPrintable = true)
    (.message "Invalid currency unit provenance")
  return definition

/-- `readExactCurrencyUnits`, over the definitions that its statement sees. -/
def readExactCurrencyUnits (units : List CurrencyUnitDefinition)
    (value : List CurrencyPolicyUnitReference) :
    Except CurrencyStoreError (List CurrencyUnitDefinition) := do
  require (1 ≤ value.length ∧ value.length ≤ definitionLimit)
    (.message "Expected 1–32 exact currency unit references")
  let references ← value.mapM parseReference
  require ((references.map CurrencyPolicyUnitReference.identity).dedup.length = references.length)
    (.message "Duplicate currency unit reference")
  let rows := units.filter fun d => d.reference ∈ references
  let definitions ← rows.mapM fun d => parseDefinition d.facts
  require (definitions.length = references.length ∧
      (definitions.map (·.reference.identity)).dedup.length = references.length)
    (.message "Exact currency unit context is unavailable")
  references.mapM fun r => orThrow (.message "Exact currency unit context is unavailable")
    (unitUnder definitions r)

/-! ## Policies -/

def parseRevision (revision : Text) : Except CurrencyStoreError Text := do
  require (boundedVersion revision = true) .invalid
  require (revision.all isVersionUnit = true) (.message "Invalid currency policy revision")
  return revision

def canonicalPolicy (value : Value JsNumber) : Except CurrencyStoreError CurrencyPolicy := do
  let policy ← orThrow .invalid (currencyPolicySchema value)
  let _ ← parseRevision policy.revision
  require (∀ r ∈ policy.references,
      r.code.all isUpper = true ∧ r.metadataVersion.all isVersionUnit = true)
    (.message "Invalid currency policy unit reference")
  return policy.sorted

/-- `context`, over the definitions that its statement sees. -/
def context (units : List CurrencyUnitDefinition) (value : Value JsNumber) :
    Except CurrencyStoreError CurrencyPolicyContext := do
  let policy ← canonicalPolicy value
  let definitions ← readExactCurrencyUnits units (policy.currencies.map CurrencyPolicyEntry.unit)
  orThrow .invalid
    (currencyPolicyContextSchema (contextValue policy.toValue (definitionsValue definitions)))

/-- `facts` -/
def facts (policy : CurrencyPolicy) : Text :=
  stringify printNat (.array [.string policy.revision, policy.base.tuple,
    policy.defaultBrowsing.tuple, secondaryTuple policy.preferredSecondary,
    .array (policy.currencies.map fun e => .array [e.unit.tuple, .bool e.capabilities.display,
      .bool e.capabilities.newSales, .bool e.capabilities.collection])])

/-! ## Statements -/

/-- The versions of units and policies. -/
structure CurrencyStore where
  units : Versions CurrencyUnitDefinition
  revisions : Versions PolicyRow
  transactions : ℕ

namespace CurrencyStore

def empty : CurrencyStore := ⟨.empty, .empty, 0⟩

def commit (s : CurrencyStore) (k : ℕ) : CurrencyStore :=
  { s with units := s.units.commit k, revisions := s.revisions.commit k }

def rollback (s : CurrencyStore) (k : ℕ) : CurrencyStore :=
  { s with units := s.units.rollback k, revisions := s.revisions.rollback k }

end CurrencyStore

inductive Call
  | appendCurrencyUnit (value : Value JsNumber)
  | readExactCurrencyUnits (references : List CurrencyPolicyUnitReference)
  | appendCurrencyPolicyRevision (value : Value JsNumber)
  | readExactCurrencyPolicyRevision (revision : Text)

inductive Progress
  | ready
  /-- `appendCurrencyUnit` has inserted. -/
  | unitInserted (definition : CurrencyUnitDefinition)
  /-- `appendCurrencyPolicyRevision` has the context of its value. -/
  | policyChecked (value : Value JsNumber) (input : CurrencyPolicyContext)
  /-- It has inserted `count` rows. -/
  | policyInserted (value : Value JsNumber) (input : CurrencyPolicyContext) (count : ℕ)
  | policyFound (value : Value JsNumber) (input : CurrencyPolicyContext) (count : ℕ)
      (row : PolicyRow)
  /-- `readExactCurrencyPolicyRevision` has found the row of the revision. -/
  | revisionFound (revision : Text) (row : PolicyRow)

inductive Outcome
  | unitAppended (definition : CurrencyUnitDefinition)
  | unitsRead (definitions : List CurrencyUnitDefinition)
  | policyAppended (value : Value JsNumber) (result : CurrencyPolicyContext)
  | policyRead (revision : Text) (result : CurrencyPolicyContext)
  /-- `Conflicting immutable currency policy facts`, after `count` rows were inserted. -/
  | policyConflict (value : Value JsNumber) (count : ℕ)
  | failed (error : CurrencyStoreError)

/-- How a statement ends: within the call, at its end, or with an error of the database, after which a
transaction can only be rolled back. -/
inductive Result
  | goes (progress : Progress)
  | returns (outcome : Outcome)
  | aborts

section

variable (s : CurrencyStore) (viewer : Option ℕ)

def insertUnit (value : Value JsNumber) : Option (CurrencyStore × Result) :=
  match orThrow .invalid (UnitFacts.ofValue value) >>= parseDefinition with
  | .error e => some (s, .returns (.failed e))
  | .ok definition =>
    match sqlPatterns.read definition.facts with
    | none => some (s, .aborts)
    | some row => (s.units.insertNew CurrencyUnitDefinition.reference viewer row).map fun out =>
        ({ s with units := out.1 }, .goes (.unitInserted definition))

def findInsertedUnit (definition : CurrencyUnitDefinition) : Result :=
  match findUnit (s.units.visible viewer) definition.reference with
  | none =>
    .returns (.failed (.message "Currency unit append must be retried as a whole transaction"))
  | some stored =>
    match parseDefinition stored.facts with
    | .error e => .returns (.failed e)
    | .ok result =>
      if result.minorUnitExponent ≠ definition.minorUnitExponent ∨
          result.provenance ≠ definition.provenance ∨ result.status ≠ definition.status then
        .returns (.failed (.message "Conflicting immutable currency unit facts"))
      else .returns (.unitAppended result)

def readUnits (references : List CurrencyPolicyUnitReference) : Result :=
  match readExactCurrencyUnits (s.units.visible viewer) references with
  | .error e => .returns (.failed e)
  | .ok definitions => .returns (.unitsRead definitions)

def checkPolicy (value : Value JsNumber) : Result :=
  match context (s.units.visible viewer) value with
  | .error e => .returns (.failed e)
  | .ok input => .goes (.policyChecked value input)

def insertPolicy (value : Value JsNumber) (input : CurrencyPolicyContext) :
    Option (CurrencyStore × Result) :=
  match insertedRow (s.units.visible viewer) ⟨input.policy.revision, input.policy.toValue⟩ with
  | none => some (s, .aborts)
  | some row => (s.revisions.insertNew PolicyRow.revision viewer row).map fun out =>
      ({ s with revisions := out.1 }, .goes (.policyInserted value input out.2))

def findRevision (revision : Text) : Option PolicyRow :=
  (s.revisions.visible viewer).find? fun row => row.revision = revision

def findInsertedPolicy (value : Value JsNumber) (input : CurrencyPolicyContext) (count : ℕ) :
    Result :=
  match findRevision s viewer input.policy.revision with
  | none =>
    .returns (.failed (.message "Currency policy append must be retried as a whole transaction"))
  | some row => .goes (.policyFound value input count row)

def comparePolicy (value : Value JsNumber) (input : CurrencyPolicyContext) (count : ℕ)
    (row : PolicyRow) : Result :=
  match context (s.units.visible viewer) row.policy with
  | .error e => .returns (.failed e)
  | .ok result =>
    if row.revision ≠ result.policy.revision ∨ facts input.policy ≠ facts result.policy then
      .returns (.policyConflict value count)
    else .returns (.policyAppended value result)

def findPolicy (revision : Text) : Result :=
  match parseRevision revision with
  | .error e => .returns (.failed e)
  | .ok revision =>
    match findRevision s viewer revision with
    | none => .returns (.failed (.message "Exact currency policy revision is unavailable"))
    | some row => .goes (.revisionFound revision row)

def readPolicy (revision : Text) (row : PolicyRow) : Result :=
  match context (s.units.visible viewer) row.policy with
  | .error e => .returns (.failed e)
  | .ok result =>
    if row.revision ≠ revision ∨ result.policy.revision ≠ revision then
      .returns (.failed (.message "Invalid stored currency policy revision"))
    else .returns (.policyRead revision result)

def Call.statement : Call → Option (CurrencyStore × Result)
  | appendCurrencyUnit value => insertUnit s viewer value
  | readExactCurrencyUnits references => some (s, readUnits s viewer references)
  | appendCurrencyPolicyRevision value => some (s, checkPolicy s viewer value)
  | readExactCurrencyPolicyRevision revision => some (s, findPolicy s viewer revision)

def Progress.statement : Progress → Option (CurrencyStore × Result)
  | ready => none
  | unitInserted definition => some (s, findInsertedUnit s viewer definition)
  | policyChecked value input => insertPolicy s viewer value input
  | policyInserted value input count => some (s, findInsertedPolicy s viewer value input count)
  | policyFound value input count row => some (s, comparePolicy s viewer value input count row)
  | revisionFound revision row => some (s, readPolicy s viewer revision row)

end

/-! ## Callers -/

inductive Session
  | waiting (transactional : Bool) (calls : List Call)
  | running (viewer : Option ℕ) (calls : List Call) (progress : Progress)
      (outcomes : List Outcome)
  | ended (outcomes : List Outcome)
  | rolledBack

def giveUp (s : CurrencyStore) (viewer : Option ℕ) (outcomes : List Outcome) :
    CurrencyStore × Session :=
  match viewer with
  | none => (s, .ended outcomes)
  | some k => (s.rollback k, .rolledBack)

def finish (s : CurrencyStore) (viewer : Option ℕ) (outcomes : List Outcome) :
    CurrencyStore × Session :=
  match viewer with
  | none => (s, .ended outcomes)
  | some k => (s.commit k, .ended outcomes)

def goOn (viewer : Option ℕ) (calls : List Call) (outcomes : List Outcome) (s : CurrencyStore) :
    Result → CurrencyStore × Session
  | .goes progress => (s, .running viewer calls progress outcomes)
  | .returns outcome => (s, .running viewer calls .ready (outcomes ++ [outcome]))
  | .aborts => giveUp s viewer (outcomes ++ [.failed .database])

def Session.step (givesUp : Bool) (s : CurrencyStore) : Session → Option (CurrencyStore × Session)
  | waiting false calls => some (s, running none calls .ready [])
  | waiting true calls =>
    some ({ s with transactions := s.transactions + 1 },
      running (some s.transactions) calls .ready [])
  | running viewer calls progress outcomes =>
    if givesUp then some (giveUp s viewer outcomes)
    else
      match progress, calls with
      | .ready, [] => some (finish s viewer outcomes)
      | .ready, call :: calls =>
        (call.statement s viewer).map fun out => goOn viewer calls outcomes out.1 out.2
      | progress, calls =>
        (progress.statement s viewer).map fun out => goOn viewer calls outcomes out.1 out.2
  | ended _ | rolledBack => none

def currencyOperations (_ : Unit) : Operation CurrencyStore Bool where
  Request := Bool × List Call
  Local := Session
  start request := .waiting request.1 request.2
  step givesUp s l := l.step givesUp s

def Session.returned : Session → List Outcome
  | running none _ _ outcomes | ended outcomes => outcomes
  | _ => []

end Currency

end WebhostBilling
