import WebhostBilling.Invoices.InvoiceService
import WebhostBilling.Orders.QuotePurchases

/-!
# The creation of an order for hosting

`OrderService.create` places an order for a hosting plan with its add-ons, and with a quoted domain
when the request names a quote.  The notices and the activity log that the transaction also writes
are not modelled.
-/

namespace WebhostBilling

open Store Concurrency RegistrarProcessor DomainService

namespace OrderService

/-! ## The request -/

/-- A request of `create`, which may name a domain quote: a customer's `domainQuoteId`, or the one
of an administrator's `domainOrder`. -/
structure CreateOrderRequest where
  fromAdministrator : Bool
  customerId : RowId
  productId : RowId
  priceId : RowId
  requestedDomain : String
  submissionKey : String
  addOnPriceIds : List RowId := []
  hostingProvisioningMode : Option HostingProvisioningMode := none
  domainQuoteId : Option RowId := none
  acceptedTermsVersion : Option String := none
  auth : AuthIdentity

/-- `adminDomain`: an administrator orders the domain for the customer. -/
def CreateOrderRequest.adminDomain (request : CreateOrderRequest) : Bool :=
  request.fromAdministrator && request.domainQuoteId.isSome

def CreateOrderRequest.domainAction (request : CreateOrderRequest) : Option AdminDomainAction :=
  if request.adminDomain then some .registration else none

/-- `AdminOrderDomainService.authorize`. -/
def authorize (auth : AuthIdentity) : Except Failure Unit :=
  require (auth.role = .admin ∧ auth.staffRole = some .fullAdministrator ∧
      auth.twoFactorEnabled = true)
    (forbidden
      "A full administrator with two-factor authentication is required for domain orders.")

/-- The checks of `create` before it looks at the database. -/
def openCreate (request : CreateOrderRequest) : Except Failure Unit := do
  if request.adminDomain then authorize request.auth else .ok ()
  require (request.hostingProvisioningMode.isSome → request.fromAdministrator = true)
    (forbidden "Only administrators can choose hosting preservation.")

/-! ## A submission key that was used before -/

def itemOfKind (db : OrderingDatabase) (orderId : RowId) (kind : ProductKind) :
    Option (RowId × PlacedItem) :=
  db.orderItems.find? fun _ item => item.orderId = orderId ∧ item.kind = kind

def registrationOf (db : OrderingDatabase) (itemId : RowId) : Option DomainRequest :=
  (db.domains.find? fun _ domain => domain.orderItemId = some itemId).map Prod.snd

def matchesAddOns (db : OrderingDatabase) (orderId : RowId) (priceIds : List RowId) : Prop :=
  let purchased :=
    (db.orderItems.select fun _ item => item.orderId = orderId ∧ item.kind = .addOn).map Prod.snd
  purchased.length = priceIds.length ∧ ∀ item ∈ purchased, item.productPriceId ∈ priceIds
deriving Decidable

def sameOrder (db : OrderingDatabase) (request : CreateOrderRequest) (orderId : RowId)
    (order : PlacedOrder) : Prop :=
  let domainItem := itemOfKind db orderId .domain
  let registration := domainItem.bind fun entry => registrationOf db entry.1
  order.customerId = request.customerId ∧
    (∃ entry ∈ itemOfKind db orderId .hosting, entry.2.productId = request.productId ∧
      entry.2.productPriceId = request.priceId ∧
      entry.2.requestedDomain = request.requestedDomain ∧
      entry.2.hostingProvisioningMode = request.hostingProvisioningMode.getD .standard) ∧
    registration.bind DomainRequest.quoteId = request.domainQuoteId ∧
    domainItem.bind (fun entry => entry.2.adminDomainAction) = request.domainAction ∧
    matchesAddOns db orderId request.addOnPriceIds
deriving Decidable

def duplicateResult (request : CreateOrderRequest) (orderId : RowId) (order : PlacedOrder)
    (db : OrderingDatabase) : Except Failure RowId := do
  require (sameOrder db request orderId order)
    (conflict "This submission key has already been used for another order.")
  return orderId

/-! ## The checks of the transaction -/

def customerEligible (request : CreateOrderRequest) (customer : OrderingCustomer) : Prop :=
  customer.deleted = false ∧ customer.active = true ∧
    (request.adminDomain = true → customer.emailVerified = true) ∧ customer.userActive = true ∧
    customer.userDeleted = false
deriving Decidable

def hostingForSale (request : CreateOrderRequest) (now : ℕ) (price : SellingPrice) : Prop :=
  price.productId = request.productId ∧ price.isActive = true ∧ price.deleted = false ∧
    price.validAt now ∧ price.kind = .hosting ∧ price.productDeleted = false ∧
    price.productActive = true ∧ (request.fromAdministrator = false → price.publicVisible = true)
deriving Decidable

def addOnForSale (hosting : SellingPrice) (now : ℕ) (price : SellingPrice) : Prop :=
  price.currency = hosting.currency ∧ price.isActive = true ∧ price.deleted = false ∧
    price.validAt now ∧
    (price.billingPeriod = .oneTime ∨ price.billingPeriod = hosting.billingPeriod) ∧
    price.kind = .addOn ∧ price.productActive = true ∧ price.productDeleted = false ∧
    hosting.productId ∈ price.hostingPlans
deriving Decidable

def addOnPrices (request : CreateOrderRequest) (hosting : SellingPrice) (w : OrderingWorld) :
    List (RowId × SellingPrice) :=
  (request.addOnPriceIds.filterMap fun id =>
    ((w.prices id).filter fun price => addOnForSale hosting w.now price).map fun price =>
      (id, price)).insertionSort fun a b => a.2.productId ≤ b.2.productId

variable (settings : RegistrarSettings) (w : OrderingWorld)

/-- The first half of `quoteForHostingOrder`, under the lock of the quote. -/
def checkQuote (request : CreateOrderRequest) (quoteId now : ℕ) (db : OrderingDatabase) :
    Except Failure SellingQuote := do
  if request.adminDomain then requireRuntime settings else requireSimulation settings
  let quote ← orThrow (deny "This domain quote is unavailable. Request a new quote.")
    ((db.quotes.get? quoteId).filter fun quote => quote.customerId = request.customerId ∧
      quote.domainName = request.requestedDomain ∧
      quote.offlineConsent.isSome = request.adminDomain ∧ now < quote.expiresAt)
  require (db.domainOfQuote quoteId = none) (deny "This domain quote already has an order.")
  return quote

inductive CreateCheck
  | replay (orderId : RowId)
  | placing (hosting : SellingPrice) (addOns : List (RowId × SellingPrice))
    (quote : Option SellingQuote)

def checkNamedQuote (request : CreateOrderRequest) (now : ℕ) (db : OrderingDatabase) :
    Except Failure (Option SellingQuote) :=
  match request.domainQuoteId with
  | some quoteId => do
    let quote ← checkQuote settings request quoteId now db
    return some quote
  | none => .ok none

def checkSelection (request : CreateOrderRequest) (db : OrderingDatabase) :
    Except Failure CreateCheck := do
  let hosting ← orThrow (invalid "The selected product price is not available for sale.")
    ((w.prices request.priceId).filter fun price => hostingForSale request w.now price)
  require (hosting.hostingPackageIdentifier.isSome)
    (invalid "The selected product is not ready for provisioning.")
  require (hosting.amount + hosting.setupFee ≤ InvoiceService.postgresBigintMax)
    (invalid "The selected price total exceeds the supported range.")
  let addOns := addOnPrices request hosting w
  require (addOns.length = request.addOnPriceIds.length ∧
      (addOns.map fun entry => entry.2.productId).Nodup)
    (invalid "A selected add-on is no longer available for this plan or price.")
  let quote ← checkNamedQuote settings request w.now db
  return .placing hosting addOns quote

/-- The transaction of `create` up to the check of the quote. -/
def checkCreate (request : CreateOrderRequest) (db : OrderingDatabase) :
    Except Failure CreateCheck := do
  require (request.adminDomain = true → w.administratorEligible = true)
    (forbidden "The approving administrator is no longer eligible.")
  require ((w.customers request.customerId).any fun customer => customerEligible request customer)
    (invalid "The selected customer account is not active.")
  -- Another request may have been faster while this one waited for a lock.
  match if request.adminDomain then db.orderOfKey (.order request.submissionKey) else none with
  | some (orderId, order) => do
    let orderId ← duplicateResult request orderId order db
    return .replay orderId
  | none => checkSelection settings w request db

/-! ## The order -/

structure QuotedDomain where
  quote : SellingQuote
  quoteId : RowId
  price : SellingPrice
  priceId : RowId

def domainForSale (quote : SellingQuote) (account : RegistrarAccount) (price : SellingPrice)
    (now : ℕ) : Prop :=
  account.enabled = true ∧ (quote.selectionSnapshot = none → price.isActive = true) ∧
    price.deleted = false ∧ price.productDeleted = false ∧ price.kind = .domain ∧
    price.productActive = true ∧ price.publicVisible = true ∧ price.currency = "BDT" ∧
    0 < price.amount ∧ price.setupFee = 0 ∧ price.billingPeriod = .annual ∧ price.validAt now ∧
    price.amount = quote.sellingAmount
deriving Decidable

/-- The second half of `quoteForHostingOrder`, after the lock of the catalogue. -/
def confirmQuote (request : CreateOrderRequest) (quoteId : RowId) (quote : SellingQuote) :
    Except Failure QuotedDomain := do
  let offer ← orThrow missing (w.offers quote.offerId)
  let account ← orThrow missing (w.accounts quote.accountId)
  require (offer.accountId = quote.accountId ∧
      (request.adminDomain = false → account.mode = .fake))
    (deny "This domain offer cannot be combined through this route.")
  require (request.adminDomain = true → quote.offlineConsent = some true) (.error "ZodError")
  requireAccount settings account
  let fresh ← catalogueOf quote w
  require (selectionUnchanged quote fresh)
    (deny "The domain catalogue changed. Request a new quote.")
  let price ← orThrow missing (w.prices (quotedPrice quote offer))
  require (domainForSale quote account price w.now)
    (deny "The domain offer changed. Request a new quote.")
  return { quote := quote, quoteId := quoteId, price := price, priceId := quotedPrice quote offer }

def confirmNamedQuote (request : CreateOrderRequest) :
    Option SellingQuote → Except Failure (Option QuotedDomain)
  | some quote => do
    let domain ← confirmQuote settings w request (request.domainQuoteId.getD 0) quote
    return some domain
  | none => .ok none

/-- What an order is for, with its prices. -/
structure Selection where
  hosting : SellingPrice
  addOns : List (RowId × SellingPrice)
  domain : Option QuotedDomain

namespace Selection

variable (selection : Selection)

def domainAmount : ℤ := (selection.domain.map fun domain => domain.quote.sellingAmount).getD 0

def addOnTotal : ℤ := (selection.addOns.map fun entry => entry.2.amount).sum

def total : ℤ :=
  selection.hosting.amount + selection.hosting.setupFee + selection.domainAmount +
    selection.addOnTotal

end Selection

def createdOrder (request : CreateOrderRequest) (selection : Selection) (now : ℕ) :
    PlacedOrder where
  submissionKey := .order request.submissionKey
  customerId := request.customerId
  currency := selection.hosting.currency
  subtotal := selection.hosting.amount + selection.domainAmount + selection.addOnTotal
  setupTotal := selection.hosting.setupFee
  total := selection.total
  placedAt := now

def hostingItem (request : CreateOrderRequest) (hosting : SellingPrice) (orderId : RowId) :
    PlacedItem where
  orderId := orderId
  kind := .hosting
  productId := hosting.productId
  productPriceId := request.priceId
  billingPeriod := hosting.billingPeriod
  currency := hosting.currency
  unitAmount := hosting.amount
  setupFee := hosting.setupFee
  lineTotal := hosting.amount + hosting.setupFee
  requestedDomain := request.requestedDomain
  hostingProvisioningMode := request.hostingProvisioningMode.getD .standard

def addOnItem (request : CreateOrderRequest) (hosting : SellingPrice) (orderId : RowId)
    (addOn : RowId × SellingPrice) : PlacedItem where
  orderId := orderId
  kind := .addOn
  productId := addOn.2.productId
  productPriceId := addOn.1
  billingPeriod := addOn.2.billingPeriod
  currency := hosting.currency
  unitAmount := addOn.2.amount
  lineTotal := addOn.2.amount
  requestedDomain := request.requestedDomain

def createdItems (request : CreateOrderRequest) (selection : Selection) (orderId : RowId) :
    List PlacedItem :=
  hostingItem request selection.hosting orderId ::
    (selection.domain.toList.map fun domain =>
      domainItem domain.quote domain.price domain.priceId orderId request.domainAction) ++
    selection.addOns.map (addOnItem request selection.hosting orderId)

def placedLine (itemId linePosition : ℕ) (currency : String) (amount : ℤ) : PlacedLine where
  orderItemId := itemId
  linePosition := linePosition
  currency := currency
  unitAmount := amount
  lineTotal := amount

/-- The lines of the invoice; the first item of the order is `itemId`. -/
def createdLines (selection : Selection) (itemId : RowId) : List PlacedLine :=
  let setup := if 0 < selection.hosting.setupFee then 1 else 0
  let domains := selection.domain.toList.length
  placedLine itemId 1 selection.hosting.currency selection.hosting.amount ::
    (if 0 < selection.hosting.setupFee then
      [placedLine itemId 2 selection.hosting.currency selection.hosting.setupFee] else []) ++
    (selection.domain.toList.map fun domain => domainLine domain.quote (itemId + 1) (2 + setup)) ++
    selection.addOns.mapIdx fun index addOn => placedLine (itemId + 1 + domains + index)
      (2 + setup + domains + index) selection.hosting.currency addOn.2.amount

def createdInvoice (request : CreateOrderRequest) (selection : Selection)
    (orderId itemId now : ℕ) : PlacedInvoice where
  submissionKey := .order request.submissionKey
  customerId := request.customerId
  orderId := orderId
  currency := selection.hosting.currency
  subtotal := selection.total
  total := selection.total
  balanceDue := selection.total
  issuedAt := now
  dueAt := now
  items := createdLines selection itemId

def createRegistration (request : CreateOrderRequest) (itemId invoiceId : RowId)
    (db : OrderingDatabase) : Option QuotedDomain → Except Failure OrderingDatabase
  | some domain => do
    let (db, _) ← db.createDomain (quotedRequest domain.quote domain.quoteId request.customerId
      (itemId + 1) invoiceId request.submissionKey)
    return db
  | none => .ok db

/-- The rest of the transaction of `create`, after the quote was checked. -/
def createTransaction (w : OrderingWorld) (request : CreateOrderRequest) (hosting : SellingPrice)
    (addOns : List (RowId × SellingPrice)) (quote : Option SellingQuote) :
    OrderingTx RowId := fun db => do
  let domain ← confirmNamedQuote settings w request quote
  let selection : Selection := ⟨hosting, addOns, domain⟩
  require (domain.isSome → hosting.currency = "BDT")
    (invalid "Combined hosting and domain orders require BDT pricing.")
  require (selection.total ≤ InvoiceService.postgresBigintMax)
    (invalid "The combined order total exceeds the supported range.")
  requireCheckoutTerms (if request.fromAdministrator then none else w.requiredTerms)
    request.acceptedTermsVersion
  requireNumbers w
  let (db, orderId) ← db.createOrder (createdOrder request selection w.now)
  let itemId := db.orderItems.size
  let db := db.createOrderItems (createdItems request selection orderId)
  let (db, invoiceId) ← db.createInvoice (createdInvoice request selection orderId itemId w.now)
  let db ← createRegistration request itemId invoiceId db domain
  return (db, orderId)

/-- What `create` answers when a unique key was taken. -/
def racedCreate (request : CreateOrderRequest) (db : OrderingDatabase) : Except Failure RowId :=
  match db.orderOfKey (.order request.submissionKey) with
  | some (orderId, order) => duplicateResult request orderId order db
  | none => .error (conflict "Could not allocate a unique order number. Try again.")

inductive CreateState
  | finding (request : CreateOrderRequest)
  | locking (request : CreateOrderRequest)
  | writing (request : CreateOrderRequest) (hosting : SellingPrice)
    (addOns : List (RowId × SellingPrice)) (quote : Option SellingQuote) (checkedAt : ℕ)
  | raced (request : CreateOrderRequest)
  | done (result : Except Failure RowId)

def lockNamed (request : CreateOrderRequest) (db : OrderingDatabase) : OrderingDatabase :=
  (request.domainQuoteId.map db.lock).getD db

def unlockNamed (request : CreateOrderRequest) (db : OrderingDatabase) : OrderingDatabase :=
  (request.domainQuoteId.map db.unlock).getD db

def createStep (w : OrderingWorld) (db : OrderingDatabase) :
    CreateState → Option (OrderingDatabase × CreateState)
  | .finding request =>
    match openCreate request with
    | .error e => some (db, .done (.error e))
    | .ok () =>
      match db.orderOfKey (.order request.submissionKey) with
      | some (orderId, order) => some (db, .done (duplicateResult request orderId order db))
      | none => some (db, .locking request)
  | .locking request =>
    if ∃ quoteId ∈ request.domainQuoteId, quoteId ∈ db.lockedQuotes then none
    else
      match checkCreate settings w request db with
      | .ok (.replay orderId) => some (db, .done (.ok orderId))
      | .ok (.placing hosting addOns quote) =>
        some (lockNamed request db, .writing request hosting addOns quote w.now)
      | .error e => some (db, .done (.error e))
  | .writing request hosting addOns quote _ =>
    let out := atomically (createTransaction settings w request hosting addOns quote) db
    match out.2 with
    | .ok orderId => some (unlockNamed request out.1, .done (.ok orderId))
    | .error .uniqueConstraint => some (unlockNamed request out.1, .raced request)
    | .error e => some (unlockNamed request out.1, .done (.error e))
  | .raced request => some (db, .done (racedCreate request db))
  | .done _ => none

/-- `OrderService.create`. -/
def create : Operation OrderingDatabase OrderingWorld where
  Request := CreateOrderRequest
  Local := CreateState
  start := .finding
  step := createStep settings

end OrderService

end WebhostBilling
