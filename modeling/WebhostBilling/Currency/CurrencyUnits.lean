import WebhostBilling.Currency.Patterns
import WebhostBilling.Json.Objects
import WebhostBilling.Store.Keys

/-!
# Currency units

The definition of a currency unit and the reference to one, with the checks that the shared schemas,
the encoder of policy contexts and the database make of them.  The three check the same facts of a
definition, each with its own patterns for the texts.
-/

namespace WebhostBilling

open Json Store

namespace Currency

/-! ## Definitions -/

inductive UnitStatus
  | current
  | historical
deriving DecidableEq

def UnitStatus.text : UnitStatus → Text
  | current => Json.text "current"
  | historical => Json.text "historical"

def UnitStatus.ofText? (t : Text) : Option UnitStatus :=
  if t = Json.text "current" then some current
  else if t = Json.text "historical" then some historical
  else none

structure CurrencyPolicyUnitReference where
  code : Text
  metadataVersion : Text
deriving DecidableEq

structure CurrencyUnitDefinition where
  code : Text
  metadataVersion : Text
  minorUnitExponent : ℕ
  provenance : Text
  status : UnitStatus
deriving DecidableEq

def CurrencyUnitDefinition.reference (d : CurrencyUnitDefinition) : CurrencyPolicyUnitReference :=
  ⟨d.code, d.metadataVersion⟩

/-- `code:metadataVersion`, which the programs tell definitions apart by. -/
def CurrencyPolicyUnitReference.identity (r : CurrencyPolicyUnitReference) : Text :=
  r.code ++ colon :: r.metadataVersion

structure UnitFacts where
  code : Text
  metadataVersion : Text
  minorUnitExponent : JsNumber
  provenance : Text
  status : Text

def UnitFacts.reference (u : UnitFacts) : CurrencyPolicyUnitReference :=
  ⟨u.code, u.metadataVersion⟩

/-- `CURRENCY_ARITHMETIC_LIMITS.definitions` -/
def definitionLimit : ℕ := 32

/-- `CURRENCY_ARITHMETIC_LIMITS.minorUnitExponent` -/
def exponentLimit : ℕ := 4

def readExponent : JsNumber → Option ℕ
  | .finite q =>
    if q.den = 1 ∧ 0 ≤ q.num ∧ q.num ≤ exponentLimit then some q.num.toNat else none
  | .infinite _ => none

structure UnitPatterns where
  code : Text → Bool
  metadataVersion : Text → Bool
  provenance : Text → Bool

def UnitPatterns.read (patterns : UnitPatterns) (u : UnitFacts) : Option CurrencyUnitDefinition := do
  guard (patterns.code u.code = true)
  guard (patterns.metadataVersion u.metadataVersion = true)
  let minorUnitExponent ← readExponent u.minorUnitExponent
  guard (patterns.provenance u.provenance = true)
  let status ← UnitStatus.ofText? u.status
  return ⟨u.code, u.metadataVersion, minorUnitExponent, u.provenance, status⟩

/-! ## Patterns -/

/-- `/^[A-Z]{3}$/` -/
def matchesCode (t : Text) : Bool := matchesClasses (List.replicate 3 isUpper) t

/-- `/^[\x21-\x7e](?:[\x20-\x7e]*[\x21-\x7e])?$/`: the ends are visible, and blanks may stand between
them. -/
def matchesProvenance (t : Text) : Bool :=
  t.head?.any isVisible = true ∧ t.getLast?.any isVisible = true ∧ t.all isPrintable = true

/-- A version of at most 64 code units: `revisionSchema` and `metadataVersionSchema`. -/
def boundedVersion (t : Text) : Bool := t.length ≤ 64 ∧ matchesVersion t = true

/-- `currencyUnitDefinitionSchema` -/
def schemaPatterns : UnitPatterns where
  code t := t.length = 3 ∧ matchesCode t = true
  metadataVersion := boundedVersion
  provenance t := 1 ≤ t.length ∧ t.length ≤ 256 ∧ matchesProvenance t = true

/-- `isCode`, `isVersion` and `isProvenance` -/
def encoderPatterns : UnitPatterns where
  code := matchesCode
  metadataVersion := isVersion
  provenance t := 1 ≤ t.length ∧ t.length ≤ 256 ∧ matchesProvenance t = true

/-- The checks of the columns of `currency_unit_definitions`, and of references in SQL. -/
def sqlPatterns : UnitPatterns where
  code t := utf8Length t = 3 ∧ matchesCode t = true
  metadataVersion t :=
    (1 ≤ utf8Length t ∧ utf8Length t ≤ 64) ∧ matchesVersion t = true ∧ t.all isVersionUnit = true
  provenance t :=
    (1 ≤ utf8Length t ∧ utf8Length t ≤ 256) ∧ matchesProvenance t = true ∧ t.all isPrintable = true

theorem isPlain_of_isUpper {c : CodeUnit} (h : isUpper c = true) : isPlain c = true :=
  isPlain_of_isVersionUnit (isVersionUnit_of_isAlphanumeric (by
    rw [isAlphanumeric, h, Bool.true_or, Bool.true_or]))

theorem isUpper_of_matchesCode {t : Text} (h : matchesCode t = true) : ∀ c ∈ t, isUpper c = true :=
  forall_of_matchesClasses (fun _ hp _ hc => List.eq_of_mem_replicate hp ▸ hc) h

theorem length_of_matchesCode {t : Text} (h : matchesCode t = true) : t.length = 3 :=
  (length_of_matchesClasses h).trans (List.length_replicate ..)

/-! ### The patterns agree -/

theorem schema_code_iff (t : Text) : schemaPatterns.code t = true ↔ matchesCode t = true := by
  rw [schemaPatterns, decide_eq_true_eq]
  exact and_iff_right_of_imp length_of_matchesCode

theorem sql_code_iff (t : Text) : sqlPatterns.code t = true ↔ matchesCode t = true := by
  rw [sqlPatterns, decide_eq_true_eq]
  refine and_iff_right_of_imp fun h => ?_
  rw [utf8Length_of_plain fun c hc => isPlain_of_isUpper (isUpper_of_matchesCode h c hc)]
  exact length_of_matchesCode h

theorem boundedVersion_iff (t : Text) : boundedVersion t = true ↔ isVersion t = true := by
  rw [boundedVersion, isVersion, decide_eq_true_eq, decide_eq_true_eq]
  refine ⟨?_, And.right⟩
  rintro ⟨hlength, hmatches⟩
  refine ⟨?_, hlength, hmatches⟩
  cases t with
  | nil => cases hmatches
  | cons c cs => exact Nat.succ_pos _

theorem sql_version_iff (t : Text) : sqlPatterns.metadataVersion t = true ↔ isVersion t = true := by
  rw [sqlPatterns, isVersion, decide_eq_true_eq, decide_eq_true_eq]
  constructor
  · rintro ⟨hbytes, hmatches, -⟩
    rw [utf8Length_of_plain (isPlain_of_matchesVersion hmatches)] at hbytes
    exact ⟨hbytes.1, hbytes.2, hmatches⟩
  · rintro ⟨hlow, hhigh, hmatches⟩
    rw [utf8Length_of_plain (isPlain_of_matchesVersion hmatches)]
    exact ⟨⟨hlow, hhigh⟩, hmatches, List.all_eq_true.2 (isVersionUnit_of_matchesVersion hmatches)⟩

theorem utf8Length_of_printable {t : Text} (h : t.all isPrintable = true) :
    utf8Length t = t.length :=
  utf8Length_of_ascii fun c hc => by
    have hprintable := List.all_eq_true.1 h c hc
    rw [isPrintable, decide_eq_true_eq, UInt16.le_iff_toNat_le, UInt16.le_iff_toNat_le] at hprintable
    rw [UInt16.lt_iff_toNat_lt]
    exact Nat.lt_of_le_of_lt hprintable.2 (by decide)

theorem sql_provenance_iff (t : Text) :
    sqlPatterns.provenance t = true ↔ schemaPatterns.provenance t = true := by
  rw [sqlPatterns, schemaPatterns, decide_eq_true_eq, decide_eq_true_eq]
  constructor
  · rintro ⟨hbytes, hmatches, hprintable⟩
    rw [utf8Length_of_printable hprintable] at hbytes
    exact ⟨hbytes.1, hbytes.2, hmatches⟩
  · rintro ⟨hlow, hhigh, hmatches⟩
    have hprintable : t.all isPrintable = true := by
      rw [matchesProvenance, decide_eq_true_eq] at hmatches
      exact hmatches.2.2
    rw [utf8Length_of_printable hprintable]
    exact ⟨⟨hlow, hhigh⟩, hmatches, hprintable⟩

theorem encoder_read (u : UnitFacts) : encoderPatterns.read u = schemaPatterns.read u := by
  simp only [UnitPatterns.read, schema_code_iff, boundedVersion_iff, encoderPatterns,
    show schemaPatterns.metadataVersion = boundedVersion from rfl]
  rfl

theorem sql_read (u : UnitFacts) : sqlPatterns.read u = schemaPatterns.read u := by
  simp only [UnitPatterns.read, schema_code_iff, sql_code_iff, sql_version_iff, sql_provenance_iff,
    boundedVersion_iff, show schemaPatterns.metadataVersion = boundedVersion from rfl]

/-! ## Values -/

def CurrencyPolicyUnitReference.toValue (r : CurrencyPolicyUnitReference) : Value JsNumber :=
  .object [(text "code", .string r.code), (text "metadataVersion", .string r.metadataVersion)]

def CurrencyPolicyUnitReference.ofValue (v : Value JsNumber) :
    Option CurrencyPolicyUnitReference := do
  guard (v.hasKeys [text "code", text "metadataVersion"] = true)
  let code ← (← v.member (text "code")).text?
  let metadataVersion ← (← v.member (text "metadataVersion")).text?
  return ⟨code, metadataVersion⟩

def UnitFacts.toValue (u : UnitFacts) : Value JsNumber :=
  .object [(text "code", .string u.code), (text "minorUnitExponent", .number u.minorUnitExponent),
    (text "metadataVersion", .string u.metadataVersion),
    (text "provenance", .string u.provenance), (text "status", .string u.status)]

def UnitFacts.ofValue (v : Value JsNumber) : Option UnitFacts := do
  guard (v.hasKeys [text "code", text "minorUnitExponent", text "metadataVersion",
    text "provenance", text "status"] = true)
  let code ← (← v.member (text "code")).text?
  let minorUnitExponent ← (← v.member (text "minorUnitExponent")).number?
  let metadataVersion ← (← v.member (text "metadataVersion")).text?
  let provenance ← (← v.member (text "provenance")).text?
  let status ← (← v.member (text "status")).text?
  return ⟨code, metadataVersion, minorUnitExponent, provenance, status⟩

/-! ## Lists of definitions -/

inductive PathSegment
  | key (name : String)
  | index (i : ℕ)

structure Issue where
  path : List PathSegment
  message : String

def currencyUnitDefinitionSchema (v : Value JsNumber) : Option CurrencyUnitDefinition := do
  schemaPatterns.read (← UnitFacts.ofValue v)

def currencyUnitContextIssues (definitions : List CurrencyUnitDefinition) : List Issue :=
  (repeated (fun d => d.reference.identity) definitions).map fun i =>
    ⟨[.index i], "Duplicate or conflicting currency definition"⟩

def currencyUnitContextSchema (v : Value JsNumber) : Option (List CurrencyUnitDefinition) := do
  let items ← v.items?
  guard (0 < items.length ∧ items.length ≤ definitionLimit)
  let definitions ← items.mapM currencyUnitDefinitionSchema
  guard (currencyUnitContextIssues definitions = [])
  return definitions

/-- `findUnit` -/
def findUnit (definitions : List CurrencyUnitDefinition) (reference : CurrencyPolicyUnitReference) :
    Option CurrencyUnitDefinition :=
  definitions.find? fun definition => definition.reference = reference

/-- Insert definitions into `currency_unit_definitions`, with its checks and its primary key. -/
def insertUnits (table : List CurrencyUnitDefinition) (units : List UnitFacts) :
    Option (List CurrencyUnitDefinition) :=
  (readDistinct sqlPatterns.read CurrencyUnitDefinition.reference
    (table.map CurrencyUnitDefinition.reference) units).map (table ++ ·)

end Currency

end WebhostBilling
