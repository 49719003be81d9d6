import WebhostBilling.Concurrency.Threads
import WebhostBilling.Registrar.RegistrarPreparations

/-!
# Creating customers and contacts at the registrar

`ensureContacts` looks for the customer at the registrar and signs one up when there is none, checks
that it is the one that was meant, and adds the contact.  Every call to the registrar and every
transaction is a step of its own, and each of them may fail.

What the registrar answers is JSON whose numbers arrive as texts, so a value without numbers.
-/

namespace WebhostBilling

open Store Concurrency Json

namespace ResellbizLiveRegistrar

/-! ## Evidence -/

/-- What a call returns: `losslessRegistrarJson` leaves no numbers. -/
abbrev Evidence := Value Empty

def evidenceUnavailable : Failure := .error "Registrar evidence is unavailable."

/-- `record` -/
def record (value : Evidence) : Except Failure (List (Text × Evidence)) :=
  match value with
  | .object members => .ok members
  | _ => .error evidenceUnavailable

/-- `identifier` -/
def identifier (value : Option Evidence) : Except Failure Text :=
  match value with
  | some (.string t) =>
    if isIdentifier t = true then .ok t else .error (.error "Registrar identity is unavailable.")
  | _ => .error (.error "Registrar identity is unavailable.")

def hasText (members : List (Text × Evidence)) (key : Text) (t : Text) : Bool :=
  (members.lookup key).any fun value => value.text? = some t

/-- `/^[0-9]+$/` -/
def isPosition (key : Text) : Bool := !key.isEmpty && key.all isDigit

/-- What `ensureContacts` was called with, and the object it was called on. -/
structure EnsureCall where
  resellerId : Text
  binding : Option ResellbizBinding := none
  intent : RegistrarIntent
  fingerprint : Text

def EnsureCall.key (call : EnsureCall) : PreparationKey := call.intent.key call.fingerprint

def ambiguousSearch : Failure :=
  .error "Registrar customer search is incomplete or ambiguous."

/-- How many customers a search found: both counts are the same text, `0` or `1`, there are so many
rows, and nothing else. -/
def searchedRows (search : List (Text × Evidence)) : Except Failure (List (Text × Evidence)) := do
  let rows := search.filter fun entry => isPosition entry.1
  let count := ((search.lookup (text "recsonpage")).bind Value.text?).getD []
  require (search.all (fun entry => entry.1 = text "recsonpage" || entry.1 = text "recsindb" ||
    isPosition entry.1) = true) ambiguousSearch
  require (hasText search (text "recsindb") count = true) ambiguousSearch
  require ((count = text "0" ∧ rows.length = 0) ∨ (count = text "1" ∧ rows.length = 1))
    ambiguousSearch
  return rows

def searchedCustomer (call : EnsureCall) (email : Text) (evidence : Evidence) :
    Except Failure (Option Text) := do
  match ← searchedRows (← record evidence) with
  | [] => return none
  | row :: _ => do
    let found ← record row.2
    require (hasText found (text "customer.username") email = true ∧
      hasText found (text "customer.resellerid") call.resellerId = true ∧
      hasText found (text "customer.customerstatus") (text "Active") = true)
      (.error "Registrar customer identity does not match.")
    let id ← identifier (found.lookup (text "customer.customerid"))
    return some id

/-- `contactEvidence` -/
def contactEvidence (contact : DomainContact) : List (Text × Text) :=
  [(text "name", contact.name), (text "company", contact.company),
    (text "address1", contact.address)] ++
  (match contact.addressLine2 with
    | none | some [] => []
    | some line => [(text "address2", line)]) ++
  [(text "city", contact.city), (text "state", contact.region), (text "zip", contact.postalCode),
    (text "country", contact.country), (text "emailaddr", contact.email),
    (text "telnocc", contact.phoneCountryCode), (text "telno", contact.phone)]

def customerMismatch : Failure :=
  .error "Registrar customer ownership or identity does not match."

def requireCustomer (call : EnsureCall) (email remoteCustomerId : Text) (evidence : Evidence) :
    Except Failure Unit := do
  let customer ← record evidence
  let id ← identifier (customer.lookup (text "customerid"))
  require (id = remoteCustomerId) customerMismatch
  let reseller ← identifier (customer.lookup (text "resellerid"))
  require (reseller = call.resellerId) customerMismatch
  require (hasText customer (text "customerstatus") (text "Active") = true ∧
    hasText customer (text "username") email = true ∧
    (contactEvidence call.intent.contact).all (fun entry =>
      hasText customer (if entry.1 = text "emailaddr" then text "useremail" else entry.1) entry.2) =
        true) customerMismatch

def snapshotMismatch : Failure :=
  .error "Registrar customer/contact ownership or snapshot does not match."

/-- `verifyContacts`, on what its two calls returned. -/
def requireContact (call : EnsureCall) (binding : ResellbizBinding)
    (customer contact : List (Text × Evidence)) : Except Failure Unit := do
  let customerId ← identifier (customer.lookup (text "customerid"))
  require (customerId = binding.remoteCustomerId) snapshotMismatch
  let reseller ← identifier (customer.lookup (text "resellerid"))
  require (reseller = call.resellerId) snapshotMismatch
  require (hasText customer (text "customerstatus") (text "Active") = true) snapshotMismatch
  let contactId ← identifier (contact.lookup (text "entityid"))
  require (contactId = binding.remoteContactId) snapshotMismatch
  let owner ← identifier (contact.lookup (text "customerid"))
  require (owner = binding.remoteCustomerId) snapshotMismatch
  require (hasText contact (text "type") (text "Contact") = true ∧
    hasText contact (text "currentstatus") (text "Active") = true ∧
    (contactEvidence call.intent.contact).all (fun entry => hasText contact entry.1 entry.2) = true)
    snapshotMismatch

/-! ## The checks before the first call -/

variable (schemas : Schemas) (w : RegistrarWorld)

def requireIntent (call : EnsureCall) : Except Failure DomainContact := do
  require (0 < call.intent.costCeiling) (.error "Registration cost approval is required.")
  let contact ← orThrow (.error "ZodError") (schemas.parseContact call.intent.contact)
  require (isFingerprint call.fingerprint = true)
    (.error "Registrar contact evidence is unavailable.")
  return contact

/-- `bind` -/
def requireBinding (call : EnsureCall) (binding : ResellbizBinding) :
    Except Failure Unit := do
  require (schemas.domainName call.intent.domainName = true ∧
    schemas.nameservers call.intent.nameservers = true) (.error "ZodError")
  require (call.intent.accountId = binding.accountId ∧
    call.intent.customerId = binding.localCustomerId ∧ 0 ≤ call.intent.costCeiling)
    (.error "Registrar ownership is unavailable.")
  let _ ← identifier (some (.string binding.remoteCustomerId))
  let _ ← identifier (some (.string binding.remoteContactId))

/-! ## The operation -/

structure RegistrarWorld where
  now : ℕ := 0
  /-- What the registrar answers, when the answer comes and can be read. -/
  reply : Option Evidence := none
  databaseFails : Bool := false

def RegistrarWorld.evidence : Except Failure Evidence :=
  orThrow (.error ("Registrar evidence is unavailable. " ++
    "Reconcile without repeating a registration.")) w.reply

inductive EnsureState
  | loading (call : EnsureCall)
  | searching (call : EnsureCall) (email : Text)
  | claimingCustomer (call : EnsureCall) (email : Text)
  | signingUp (call : EnsureCall) (email : Text)
  | checkingCustomer (call : EnsureCall) (email remoteCustomerId : Text)
  | recordingCustomer (call : EnsureCall) (remoteCustomerId : Text)
  | claimingContact (call : EnsureCall) (remoteCustomerId : Text)
  | addingContact (call : EnsureCall) (remoteCustomerId : Text)
  /-- The two calls of `verifyContacts`; `created` when the contact is new. -/
  | readingCustomer (call : EnsureCall) (binding : ResellbizBinding) (created : Bool)
  | readingContact (call : EnsureCall) (binding : ResellbizBinding) (created : Bool)
    (customer : List (Text × Evidence))
  | completing (call : EnsureCall) (binding : ResellbizBinding)
  | done (result : Except Failure Unit)

def goOn (result : Except Failure EnsureState) : EnsureState :=
  match result with
  | .ok next => next
  | .error e => .done (.error e)

def databaseUnavailable : Failure := .error "P1001"

/-- A transaction, after which the thread goes on to `next`. -/
def commit (db : PreparationStore) (result : Except Failure PreparationStore) (next : EnsureState) :
    PreparationStore × EnsureState :=
  if w.databaseFails = true then (db, .done (.error databaseUnavailable))
  else match result with
    | .ok db' => (db', next)
    | .error e => (db, .done (.error e))

def afterLoad (db : PreparationStore) (call : EnsureCall) (email : Text) :
    EnsureState :=
  match call.binding with
  | some binding => .readingCustomer call binding false
  | none =>
    if w.databaseFails = true then .done (.error databaseUnavailable)
    else match load db call.intent call.fingerprint with
      | some binding => .readingCustomer call binding false
      | none => .searching call email

/-- The call of `details-by-id` for a customer that was found or signed up. -/
def checkedCustomer (call : EnsureCall) (email remoteCustomerId : Text) :
    Except Failure Unit := do
  let evidence ← w.evidence
  requireCustomer call email remoteCustomerId evidence

def ensureContactsStep (db : PreparationStore) :
    EnsureState → Option (PreparationStore × EnsureState)
  | .loading call =>
    some (db, goOn do
      let contact ← requireIntent schemas call
      return afterLoad w db call contact.email)
  | .searching call email =>
    some (db, goOn do
      let evidence ← w.evidence
      let found ← searchedCustomer call email evidence
      return found.elim (.claimingCustomer call email) (.checkingCustomer call email))
  | .claimingCustomer call email =>
    some (commit w db (claim db call.intent call.fingerprint .customer w.now)
      (.signingUp call email))
  | .signingUp call email =>
    some (db, goOn do
      let evidence ← w.evidence
      let id ← identifier (some evidence)
      return .checkingCustomer call email id)
  | .checkingCustomer call email id =>
    some (db, goOn do
      let _ ← checkedCustomer w call email id
      return .recordingCustomer call id)
  | .recordingCustomer call id =>
    some (commit w db (customer db call.intent call.fingerprint id) (.claimingContact call id))
  | .claimingContact call id =>
    some (commit w db (claim db call.intent call.fingerprint .contact w.now)
      (.addingContact call id))
  | .addingContact call id =>
    some (db, goOn do
      let evidence ← w.evidence
      let contactId ← identifier (some evidence)
      let binding : ResellbizBinding :=
        { accountId := call.intent.accountId
          localCustomerId := call.intent.customerId
          remoteCustomerId := id
          remoteContactId := contactId }
      return .readingCustomer call binding true)
  | .readingCustomer call binding created =>
    some (db, goOn do
      let _ ← requireBinding schemas call binding
      let customer ← record (← w.evidence)
      return .readingContact call binding created customer)
  | .readingContact call binding created customer =>
    some (db, goOn do
      let contact ← record (← w.evidence)
      let _ ← requireContact call binding customer contact
      return if created = true then .completing call binding else .done (.ok ()))
  | .completing call binding =>
    some (commit w db (complete db call.intent call.fingerprint binding.remoteCustomerId
      binding.remoteContactId) (.done (.ok ())))
  | .done _ => none

def ensureContacts : Operation PreparationStore RegistrarWorld where
  Request := EnsureCall
  Local := EnsureState
  start := .loading
  step := ensureContactsStep schemas

def contactOperations : Unit → Operation PreparationStore RegistrarWorld :=
  fun _ => ensureContacts schemas

/-! ## What is noted -/

inductive CreationEvent
  | claimed (step : CreationStep) (key : PreparationKey)
  /-- A signup was sent.  `recorded` is the identifier that its own row then had, and `unrecorded`
  has the other claimed customers of the same account and customer without an identifier. -/
  | signup (key : PreparationKey) (recorded : Option Text) (unrecorded : List PreparationKey)
  | verified (key : PreparationKey) (remoteCustomerId : Text)
  | contact (key : PreparationKey) (remoteCustomerId : Text)
deriving DecidableEq

def PreparationStore.recorded (db : PreparationStore) (key : PreparationKey) : Option Text :=
  (db.find key).bind (·.2.remoteCustomerId)

def PreparationStore.unrecordedBeside (db : PreparationStore) (key : PreparationKey) :
    List PreparationKey :=
  (db.preparations.select fun _ row => row.accountId = key.accountId ∧
    row.customerId = key.customerId ∧ row.toPreparationKey ≠ key ∧ row.unrecorded = true).map
      (·.2.toPreparationKey)

def claimEvents (db : PreparationStore) (call : EnsureCall) (step : CreationStep) :
    List CreationEvent :=
  match claim db call.intent call.fingerprint step w.now with
  | .ok _ => if w.databaseFails = true then [] else [.claimed step call.key]
  | .error _ => []

def ensureContactsEvents (db : PreparationStore) :
    EnsureState → List CreationEvent
  | .claimingCustomer call _ => claimEvents w db call .customer
  | .signingUp call _ => [.signup call.key (db.recorded call.key) (db.unrecordedBeside call.key)]
  | .checkingCustomer call email id =>
    match checkedCustomer w call email id with
    | .ok _ => [.verified call.key id]
    | .error _ => []
  | .claimingContact call _ => claimEvents w db call .contact
  | .addingContact call id => [.contact call.key id]
  | _ => []

abbrev tracedContacts :=
  tracedFamily (contactOperations schemas) fun _ => ensureContactsEvents

end ResellbizLiveRegistrar

end WebhostBilling
