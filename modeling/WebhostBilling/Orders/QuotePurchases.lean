import Mathlib.Data.List.Sort
import WebhostBilling.Orders.OrderService
import WebhostBilling.Orders.OrderingDatabase
import WebhostBilling.Registrar.DomainService

/-!
# How a domain quote is ordered

Each of `purchase`, `adminPurchase` and `OrderService.create` runs a transaction that locks the
quote and checks it, waits for the lock of the catalogue when the quote has a selection to compare
with it, and writes.  A transaction that violates a unique key is rolled back, and the request looks
for the order that was faster.

One step reads under the lock of the quote and one writes; other requests and time go by in between.
-/

namespace WebhostBilling

open Store Concurrency RegistrarProcessor

/-! ## What a transaction reads without a lock -/

structure DomainOffer where
  accountId : RowId
  tld : String
  priceId : RowId

/-- A row of `product_prices` with its product. -/
structure SellingPrice where
  productId : RowId
  kind : ProductKind
  productActive : Bool := true
  publicVisible : Bool := true
  productDeleted : Bool := false
  hostingPackageIdentifier : Option String := none
  hostingPlans : List RowId := []
  isActive : Bool := true
  deleted : Bool := false
  currency : String := "BDT"
  amount : ℤ
  setupFee : ℤ := 0
  billingPeriod : BillingPeriod := .annual
  validFrom : Option ℕ := none
  validUntil : Option ℕ := none

structure OrderingCustomer where
  active : Bool := true
  deleted : Bool := false
  userActive : Bool := true
  userDeleted : Bool := false
  emailVerified : Bool := true

/-- What `catalogueContext` returns for an extension that the catalogue manages. -/
structure CatalogueContext where
  snapshot : DomainSelectionSnapshot
  nameservers : List String
deriving DecidableEq

structure OrderingWorld where
  now : ℕ := 0
  offers : RowId → Option DomainOffer := fun _ => none
  accounts : RowId → Option RegistrarAccount := fun _ => none
  prices : RowId → Option SellingPrice := fun _ => none
  customers : RowId → Option OrderingCustomer := fun _ => none
  /-- The answer of `catalogueContext`. -/
  catalogue : Except Failure (Option CatalogueContext) := .ok none
  requiredTerms : Option String := none
  /-- The acting administrator passes `lockActor`. -/
  administratorEligible : Bool := true
  numbersFree : Bool := true

/-! ## What both services check -/

def SellingPrice.validAt (price : SellingPrice) (now : ℕ) : Prop :=
  (∀ start ∈ price.validFrom, start ≤ now) ∧ ∀ stop ∈ price.validUntil, now < stop
deriving Decidable

def selectionUnchanged (quote : SellingQuote) (fresh : Option CatalogueContext) : Prop :=
  ∀ selection ∈ quote.selectionSnapshot, fresh = some ⟨selection, quote.nameservers⟩
deriving Decidable

def catalogueOf (quote : SellingQuote) (w : OrderingWorld) :
    Except Failure (Option CatalogueContext) :=
  if quote.selectionSnapshot.isSome then w.catalogue else .ok none

def quotedPrice (quote : SellingQuote) (offer : DomainOffer) : RowId :=
  (quote.selectionSnapshot.map DomainSelectionSnapshot.priceId).getD offer.priceId

/-- `requireCheckoutTerms`, for the version that is required when one is. -/
def requireCheckoutTerms (required accepted : Option String) : Except Failure Unit :=
  require (∀ version ∈ required, accepted = some version) (OrderService.invalid
    "Review and accept the current terms of service before placing your order.")

def requireNumbers (w : OrderingWorld) : Except Failure Unit :=
  require (w.numbersFree = true) .uniqueConstraint

abbrev OrderingTx (α : Type) := Transaction OrderingDatabase Failure α

def OrderingDatabase.lock (db : OrderingDatabase) (quoteId : RowId) : OrderingDatabase :=
  { db with lockedQuotes := quoteId :: db.lockedQuotes }

def OrderingDatabase.unlock (db : OrderingDatabase) (quoteId : RowId) : OrderingDatabase :=
  { db with lockedQuotes := db.lockedQuotes.filter (· ≠ quoteId) }

namespace DomainService

/-! ## Ordering a domain alone -/

/-- A call of `purchaseForCustomer`. -/
structure PurchaseCall where
  quoteId : RowId
  submissionKey : String
  acceptedTermsVersion : Option String := none
  customerId : RowId
  adminAssisted : Bool

/-- What the check under the lock of the quote finds: the request that was made before with this
key, or a quote that can be ordered. -/
inductive QuoteCheck
  | prior (domainId : RowId)
  | quoted (quote : SellingQuote)

def checkPurchase (call : PurchaseCall) (now : ℕ) (db : OrderingDatabase) :
    Except Failure QuoteCheck := do
  let quote ← orThrow (forbidden "This quote is not available to your account.")
    ((db.quotes.get? call.quoteId).filter (·.customerId = call.customerId))
  require (quote.offlineConsent.isSome = call.adminAssisted)
    (forbidden "This quote cannot be ordered through this route.")
  match db.domainOfKey call.submissionKey with
  | some (id, prior) => do
    require (prior.customerId = call.customerId ∧ prior.quoteId = some call.quoteId)
      (deny "This submission key belongs to a different request.")
    return .prior id
  | none => do
    require (now < quote.expiresAt) (deny "The quote expired. Request a new quote explicitly.")
    return .quoted quote

def purchasable (quote : SellingQuote) (account : RegistrarAccount) (price : SellingPrice)
    (customer : OrderingCustomer) : Prop :=
  account.enabled = true ∧ (quote.selectionSnapshot = none → price.isActive = true) ∧
    price.deleted = false ∧ price.productDeleted = false ∧ price.productActive = true ∧
    price.publicVisible = true ∧ price.amount = quote.sellingAmount ∧ customer.active = true ∧
    customer.deleted = false ∧ customer.userActive = true ∧
    (account.mode = .live → customer.emailVerified = true) ∧ customer.userDeleted = false
deriving Decidable

def purchasedOrder (call : PurchaseCall) (quote : SellingQuote) (now : ℕ) : PlacedOrder where
  submissionKey := .domain call.submissionKey
  customerId := call.customerId
  currency := "BDT"
  subtotal := quote.sellingAmount
  total := quote.sellingAmount
  placedAt := now

def domainItem (quote : SellingQuote) (price : SellingPrice) (priceId orderId : RowId)
    (action : Option AdminDomainAction) : PlacedItem where
  orderId := orderId
  kind := .domain
  productId := price.productId
  productPriceId := priceId
  billingPeriod := .annual
  currency := "BDT"
  unitAmount := quote.sellingAmount
  lineTotal := quote.sellingAmount
  requestedDomain := quote.domainName
  adminDomainAction := action

def domainLine (quote : SellingQuote) (itemId : RowId) (linePosition : ℕ) : PlacedLine where
  orderItemId := itemId
  linePosition := linePosition
  currency := "BDT"
  unitAmount := quote.sellingAmount
  lineTotal := quote.sellingAmount

def purchasedInvoice (call : PurchaseCall) (quote : SellingQuote) (orderId itemId now : ℕ) :
    PlacedInvoice where
  submissionKey := .domain call.submissionKey
  customerId := call.customerId
  orderId := orderId
  currency := "BDT"
  subtotal := quote.sellingAmount
  total := quote.sellingAmount
  balanceDue := quote.sellingAmount
  issuedAt := now
  dueAt := now
  items := [domainLine quote itemId 1]

def quotedRequest (quote : SellingQuote) (quoteId customerId itemId invoiceId : RowId)
    (submissionKey : String) : DomainRequest where
  quoteId := some quoteId
  customerId := customerId
  accountId := quote.accountId
  orderItemId := some itemId
  invoiceId := some invoiceId
  domainName := quote.domainName
  submissionKey := submissionKey

variable (settings : RegistrarSettings)

/-- The rest of the transaction of `purchaseForCustomer`, after the quote was checked. -/
def purchaseTransaction (w : OrderingWorld) (call : PurchaseCall) (quote : SellingQuote) :
    OrderingTx RowId := fun db => do
  let offer ← orThrow missing (w.offers quote.offerId)
  let account ← orThrow missing (w.accounts quote.accountId)
  let fresh ← catalogueOf quote w
  require (selectionUnchanged quote fresh)
    (deny "The price, DNS or consent scope changed. Request a new quote.")
  let price ← orThrow missing (w.prices (quotedPrice quote offer))
  let customer ← orThrow missing (w.customers call.customerId)
  requireAccount settings account
  require (call.adminAssisted = true → account.mode = .fake)
    (deny "Admin-assisted orders currently support simulated registrar offers only.")
  require (purchasable quote account price customer)
    (deny "The offer or customer changed. Request a new quote.")
  requireCheckoutTerms (if call.adminAssisted then none else w.requiredTerms)
    call.acceptedTermsVersion
  requireNumbers w
  let (db, orderId) ← db.createOrder (purchasedOrder call quote w.now)
  let itemId := db.orderItems.size
  let db := db.createOrderItems [domainItem quote price (quotedPrice quote offer) orderId none]
  let (db, invoiceId) ← db.createInvoice (purchasedInvoice call quote orderId itemId w.now)
  db.createDomain
    (quotedRequest quote call.quoteId call.customerId itemId invoiceId call.submissionKey)

/-- What `purchaseForCustomer` answers when a unique key was taken. -/
def racedPurchase (call : PurchaseCall) (db : OrderingDatabase) : Except Failure RowId :=
  let taken := deny "The domain or quote already has a registration request."
  match db.domainOfKey call.submissionKey with
  | some (id, prior) => do
    let replayQuote := prior.quoteId.bind db.quotes.get?
    require (prior.customerId = call.customerId ∧ prior.quoteId = some call.quoteId ∧
      (replayQuote.bind SellingQuote.offlineConsent).isSome = call.adminAssisted) taken
    return id
  | none => .error taken

structure PurchaseRequest where
  quoteId : RowId
  submissionKey : String
  acceptedTermsVersion : Option String := none
  auth : AuthIdentity

structure AdminPurchaseRequest where
  quoteId : RowId
  submissionKey : String
  customerId : RowId
  auth : AuthIdentity

def signedInCustomer (auth : AuthIdentity) : Except Failure RowId :=
  match auth.role, auth.customerId with
  | .customer, some customerId => .ok customerId
  | _, _ => .error (forbidden "Sign in as the customer to accept the registration agreement.")

/-- The checks of `purchase`. -/
def openPurchase (request : PurchaseRequest) :
    Except Failure PurchaseCall := do
  requireRuntime settings
  let customerId ← signedInCustomer request.auth
  return { quoteId := request.quoteId, submissionKey := request.submissionKey
           acceptedTermsVersion := request.acceptedTermsVersion, customerId := customerId
           adminAssisted := false }

/-- The checks of `adminPurchase`. -/
def openAdminPurchase (request : AdminPurchaseRequest) :
    Except Failure PurchaseCall := do
  administrator request.auth
  requireSimulation settings
  return { quoteId := request.quoteId, submissionKey := request.submissionKey
           customerId := request.customerId, adminAssisted := true }

inductive PurchaseState
  | locking (call : PurchaseCall)
  | writing (call : PurchaseCall) (quote : SellingQuote) (checkedAt : ℕ)
  | raced (call : PurchaseCall)
  | done (result : Except Failure RowId)

def PurchaseState.opened : Except Failure PurchaseCall → PurchaseState
  | .ok call => .locking call
  | .error e => .done (.error e)

def purchaseStep (w : OrderingWorld) (db : OrderingDatabase) :
    PurchaseState → Option (OrderingDatabase × PurchaseState)
  | .locking call =>
    if call.quoteId ∈ db.lockedQuotes then none
    else
      match checkPurchase call w.now db with
      | .ok (.prior domainId) => some (db, .done (.ok domainId))
      | .ok (.quoted quote) => some (db.lock call.quoteId, .writing call quote w.now)
      | .error e => some (db, .done (.error e))
  | .writing call quote _ =>
    let out := atomically (purchaseTransaction settings w call quote) db
    match out.2 with
    | .ok domainId => some (out.1.unlock call.quoteId, .done (.ok domainId))
    | .error .uniqueConstraint => some (out.1.unlock call.quoteId, .raced call)
    | .error e => some (out.1.unlock call.quoteId, .done (.error e))
  | .raced call => some (db, .done (racedPurchase call db))
  | .done _ => none

/-- `DomainService.purchase`. -/
def purchase : Operation OrderingDatabase OrderingWorld where
  Request := PurchaseRequest
  Local := PurchaseState
  start request := .opened (openPurchase settings request)
  step := purchaseStep settings

/-- `DomainService.adminPurchase`. -/
def adminPurchase : Operation OrderingDatabase OrderingWorld where
  Request := AdminPurchaseRequest
  Local := PurchaseState
  start request := .opened (openAdminPurchase settings request)
  step := purchaseStep settings

end DomainService

end WebhostBilling
