import Mathlib.Tactic.MkIffOfInductiveProp
import WebhostBilling.Database.Schema
import WebhostBilling.Json.Objects
import WebhostBilling.Json.Parse

/-!
# The preparation of registrar customers and contacts

A customer and a contact at the registrar are paid for, so each is claimed before it is created:
`claim` writes the claim to the one row that an account, a customer and a fingerprint have together,
`customer` the customer that was verified, and `complete` the contact.  An update that changes a
claim or an identifier is refused (`RegistrarPreparation.Moves`).
-/

namespace WebhostBilling

open Store Json

namespace ResellbizLiveRegistrar

/-! ## Contacts -/

structure DomainContact where
  name : Text
  company : Text
  address : Text
  addressLine2 : Option Text := none
  city : Text
  region : Text
  postalCode : Text
  country : Text
  email : Text
  phoneCountryCode : Text
  phone : Text

/-- The schemas of texts that are used as they are: `z.email()`, `domainNameSchema` and
`registrarNameserversSchema`, by what they accept. -/
structure Schemas where
  email : Text → Bool
  domainName : Text → Bool
  nameservers : List Text → Bool

/-- A code unit that `trim` takes away. -/
def isSpace (c : CodeUnit) : Bool :=
  (0x09 ≤ c ∧ c ≤ 0x0D) ∨ (0x2000 ≤ c ∧ c ≤ 0x200A) ∨
    c ∈ [blank, 0xA0, 0x1680, 0x2028, 0x2029, 0x202F, 0x205F, 0x3000, 0xFEFF]

def trim (t : Text) : Text := ((t.dropWhile isSpace).reverse.dropWhile isSpace).reverse

/-- `z.string().trim().min(least).max(most)`. -/
def boundedText (least most : ℕ) (t : Text) : Option Text :=
  if least ≤ (trim t).length ∧ (trim t).length ≤ most then some (trim t) else none

/-- `[1-9]` -/
def isPositiveDigit (c : CodeUnit) : Bool := 0x31 ≤ c ∧ c ≤ 0x39

/-- `/^[1-9][0-9]{0,most}$/` -/
def isPositiveDecimal (most : ℕ) : Text → Bool
  | [] => false
  | c :: cs => isPositiveDigit c && cs.length ≤ most && cs.all isDigit

/-- `[A-Z]` -/
def isCapital (c : CodeUnit) : Bool := 0x41 ≤ c ∧ c ≤ 0x5A

/-- `resellbizContactSchema.parse` -/
def Schemas.parseContact (schemas : Schemas) (contact : DomainContact) : Option DomainContact := do
  let name ← boundedText 1 160 contact.name
  let company ← boundedText 1 160 contact.company
  let address ← boundedText 1 64 contact.address
  let addressLine2 ← contact.addressLine2.mapM (boundedText 0 64)
  let city ← boundedText 1 64 contact.city
  let region ← boundedText 1 64 contact.region
  let postalCode ← boundedText 1 10 contact.postalCode
  guard (contact.country.length = 2 ∧ contact.country.all isCapital = true)
  guard (schemas.email contact.email = true ∧ contact.email.length ≤ 320)
  guard (isPositiveDecimal 2 contact.phoneCountryCode = true)
  guard (4 ≤ contact.phone.length ∧ contact.phone.length ≤ 12 ∧ contact.phone.all isDigit = true)
  return { contact with
    name := name
    company := company
    address := address
    addressLine2 := addressLine2
    city := city
    region := region
    postalCode := postalCode }

/-! ## Intents and rows -/

structure RegistrarIntent where
  operationId : RowId
  accountId : RowId
  customerId : RowId
  domainName : Text
  nameservers : List Text
  contact : DomainContact
  costCeiling : ℤ

structure PreparationKey where
  accountId : RowId
  customerId : RowId
  fingerprint : Text
deriving DecidableEq

def RegistrarIntent.key (intent : RegistrarIntent) (fingerprint : Text) : PreparationKey where
  accountId := intent.accountId
  customerId := intent.customerId
  fingerprint := fingerprint

/-- The claims and the identifiers of a customer and its contact. -/
structure RegistrarPreparation extends PreparationKey where
  operationId : RowId
  customerClaimedAt : Option ℕ := none
  remoteCustomerId : Option Text := none
  contactClaimedAt : Option ℕ := none
  remoteContactId : Option Text := none

structure RegistrarMapping extends PreparationKey where
  remoteCustomerId : Text
  remoteContactId : Text

/-- What the trigger on preparations reads of a registration; `accountId` is the selected account,
when there is one. -/
structure RegistrarDispatch where
  accountId : RowId
  customerId : RowId
  claimedAt : Option ℕ := none

/-- The rows that a preparation of contacts works on. -/
structure PreparationStore where
  accounts : Table RegistrarMode := ∅
  operations : Table RegistrarDispatch := ∅
  preparations : Table RegistrarPreparation := ∅
  mappings : Table RegistrarMapping := ∅

/-! ## What the schema enforces -/

/-- `/^[a-f0-9]{64}$/` -/
def isFingerprint (t : Text) : Bool :=
  t.length = 64 ∧ t.all (fun c => isDigit c || decide (0x61 ≤ c ∧ c ≤ 0x66)) = true

/-- `/^[1-9][0-9]{0,18}$/` -/
def isIdentifier (t : Text) : Bool := isPositiveDecimal 18 t

def RegistrarPreparation.checked (row : RegistrarPreparation) : Bool :=
  isFingerprint row.fingerprint = true ∧ row.remoteCustomerId.all isIdentifier = true ∧
    (row.remoteContactId.isSome → row.remoteCustomerId.isSome ∧ row.contactClaimedAt.isSome) ∧
    row.remoteContactId.all isIdentifier = true

def Settled {α : Type} (old new : Option α) : Prop := old.isSome = true → new = old

instance {α : Type} [DecidableEq α] (old new : Option α) : Decidable (Settled old new) :=
  inferInstanceAs (Decidable (_ → _))

@[mk_iff]
structure RegistrarPreparation.Moves (old new : RegistrarPreparation) : Prop where
  key : new.toPreparationKey = old.toPreparationKey
  operationId : new.operationId = old.operationId
  customerClaimedAt : Settled old.customerClaimedAt new.customerClaimedAt
  remoteCustomerId : Settled old.remoteCustomerId new.remoteCustomerId
  contactClaimedAt : Settled old.contactClaimedAt new.contactClaimedAt
  remoteContactId : Settled old.remoteContactId new.remoteContactId

instance (old new : RegistrarPreparation) : Decidable (old.Moves new) :=
  decidable_of_iff' _ (RegistrarPreparation.moves_iff _ _)

namespace PreparationStore

def claimedLive (db : PreparationStore) (row : RegistrarPreparation) : Bool :=
  (db.operations.get? row.operationId).any fun op => op.accountId = row.accountId ∧
    op.customerId = row.customerId ∧ op.claimedAt.isSome = true ∧
    db.accounts.get? op.accountId = some .live

/-- `registrar_preparation_guard` and the checks of the table, on an insertion. -/
def insertPreparation (db : PreparationStore) (row : RegistrarPreparation) :
    Except Failure PreparationStore := do
  require (row.checked = true ∧ db.claimedLive row = true) .checkConstraint
  return { db with preparations := db.preparations.insert row }

/-- The same on an update of the row `old`. -/
def updatePreparation (db : PreparationStore) (id : RowId) (old : RegistrarPreparation)
    (f : RegistrarPreparation → RegistrarPreparation) : Except Failure PreparationStore := do
  require (old.Moves (f old) ∧ (f old).checked = true ∧ db.claimedLive (f old) = true)
    .checkConstraint
  return { db with preparations := db.preparations.update id f }

def find (db : PreparationStore) (key : PreparationKey) : Option (RowId × RegistrarPreparation) :=
  db.preparations.find? fun _ row => row.toPreparationKey = key

/-- What `upsert` returns: the store, and the row with its identifier. -/
structure Upserted where
  store : PreparationStore
  id : RowId
  row : RegistrarPreparation

/-- Insert `fresh`, or write to the row that is there under its key. -/
def upsert (db : PreparationStore) (fresh : RegistrarPreparation)
    (f : RegistrarPreparation → RegistrarPreparation) : Except Failure Upserted :=
  match db.find fresh.toPreparationKey with
  | some (id, old) => do
    let store ← db.updatePreparation id old f
    return { store := store, id := id, row := f old }
  | none => do
    let store ← db.insertPreparation fresh
    return { store := store, id := db.preparations.size, row := fresh }

end PreparationStore

/-! ## `DatabaseRegistrarPreparation` -/

structure ResellbizBinding where
  accountId : RowId
  localCustomerId : RowId
  remoteCustomerId : Text
  remoteContactId : Text

def load (db : PreparationStore) (intent : RegistrarIntent) (fingerprint : Text) :
    Option ResellbizBinding :=
  (db.mappings.find? fun _ mapping => mapping.toPreparationKey = intent.key fingerprint).map
    fun found =>
      { accountId := intent.accountId
        localCustomerId := intent.customerId
        remoteCustomerId := found.2.remoteCustomerId
        remoteContactId := found.2.remoteContactId }

inductive CreationStep
  | customer
  | contact
deriving DecidableEq

def RegistrarPreparation.claimedAt (row : RegistrarPreparation) : CreationStep → Option ℕ
  | .customer => row.customerClaimedAt
  | .contact => row.contactClaimedAt

def RegistrarPreparation.claimed (step : CreationStep) (now : ℕ) (row : RegistrarPreparation) :
    RegistrarPreparation :=
  match step with
  | .customer => { row with customerClaimedAt := some now }
  | .contact => { row with contactClaimedAt := some now }

def RegistrarPreparation.unrecorded (row : RegistrarPreparation) : Bool :=
  row.customerClaimedAt.isSome = true ∧ row.remoteCustomerId = none

def RegistrarIntent.preparation (intent : RegistrarIntent) (fingerprint : Text) :
    RegistrarPreparation where
  toPreparationKey := intent.key fingerprint
  operationId := intent.operationId

def previouslyClaimed : Failure :=
  .error "Registrar creation was previously claimed. Reconcile without retrying."

def needsReconciliation : Failure :=
  .error "An earlier registrar customer creation needs reconciliation."

def customerNotVerified : Failure := .error "Registrar customer is not verified."

def requireStep (db : PreparationStore) (intent : RegistrarIntent) (id : RowId)
    (row : RegistrarPreparation) : CreationStep → Except Failure Unit
  | .customer =>
    require (db.preparations.any (fun other prior => prior.accountId = intent.accountId ∧
      prior.customerId = intent.customerId ∧ other ≠ id ∧ prior.unrecorded = true) = false)
      needsReconciliation
  | .contact => require (row.remoteCustomerId.isSome = true) customerNotVerified

def claim (db : PreparationStore) (intent : RegistrarIntent) (fingerprint : Text)
    (step : CreationStep) (now : ℕ) : Except Failure PreparationStore := do
  let found ← db.upsert (intent.preparation fingerprint) id
  require (found.row.operationId = intent.operationId ∧ found.row.claimedAt step = none)
    previouslyClaimed
  requireStep found.store intent found.id found.row step
  found.store.updatePreparation found.id found.row (.claimed step now)

def customer (db : PreparationStore) (intent : RegistrarIntent) (fingerprint remoteId : Text) :
    Except Failure PreparationStore := do
  let found ← db.upsert
    { intent.preparation fingerprint with remoteCustomerId := some remoteId }
    fun row => { row with remoteCustomerId := some remoteId }
  return found.store

def complete (db : PreparationStore) (intent : RegistrarIntent) (fingerprint : Text)
    (customerId contactId : Text) : Except Failure PreparationStore := do
  let found ← orThrow (.error "P2025") (db.find (intent.key fingerprint))
  let db ← db.updatePreparation found.1 found.2
    fun row => { row with remoteContactId := some contactId }
  let mapping : RegistrarMapping :=
    { toPreparationKey := intent.key fingerprint
      remoteCustomerId := customerId
      remoteContactId := contactId }
  require (db.mappings.any (fun _ other => other.toPreparationKey = mapping.toPreparationKey ∨
    (other.accountId = mapping.accountId ∧ other.remoteCustomerId = customerId ∧
      other.remoteContactId = contactId)) = false) .uniqueConstraint
  return { db with mappings := db.mappings.insert mapping }

end ResellbizLiveRegistrar

end WebhostBilling
