import WebhostBilling.Database.Schema

/-!
# The tables of a placed order

The rows of a placed order as they are inserted, the unique keys of their tables, whose violation is
the error P2002, and `domain_integrity`, which compares a domain request with the rows that it
names. Quotes are never changed (`quote_immutable`).
-/

namespace WebhostBilling

open Store

/-! ## Quotes -/

/-- `domainPolicySchema`. -/
structure DomainPolicies where
  agreementUrl : String
  customerTermsUrl : String
  customerPrivacyUrl : String
deriving DecidableEq

/-- `domainSelectionSnapshotSchema`. -/
structure DomainSelectionSnapshot where
  catalogueId : RowId
  catalogueRevision : ℕ
  priceId : RowId
  policies : DomainPolicies
  eligibleRegistrars : List (RowId × String)
deriving DecidableEq

/-- A row of `domain_quotes`. -/
structure SellingQuote where
  customerId : RowId
  accountId : RowId
  offerId : RowId
  domainName : String
  sellingAmount : ℤ
  nameservers : List String
  selectionSnapshot : Option DomainSelectionSnapshot := none
  offlineConsent : Option Bool := none
  expiresAt : ℕ

/-! ## Orders and their invoices -/

/-- The submission key of an order: that of the request, or `domain:` and that of a purchase.  The
invoice of the order has the same key behind `invoice:`. -/
inductive OrderKey
  | order (submissionKey : String)
  | domain (submissionKey : String)
deriving DecidableEq

structure PlacedOrder where
  submissionKey : OrderKey
  customerId : RowId
  currency : String
  subtotal : ℤ
  setupTotal : ℤ := 0
  total : ℤ
  placedAt : ℕ

inductive HostingProvisioningMode
  | standard
  | preserveExisting
deriving DecidableEq

/-- `adminDomainAction` of a provisioning snapshot. -/
inductive AdminDomainAction
  | existing
  | registration
deriving DecidableEq

structure PlacedItem where
  orderId : RowId
  kind : ProductKind
  productId : RowId
  productPriceId : RowId
  billingPeriod : BillingPeriod
  currency : String
  unitAmount : ℤ
  setupFee : ℤ := 0
  quantity : ℤ := 1
  lineTotal : ℤ
  requestedDomain : String
  hostingProvisioningMode : HostingProvisioningMode := .standard
  adminDomainAction : Option AdminDomainAction := none

structure PlacedLine where
  orderItemId : RowId
  linePosition : ℕ
  currency : String
  quantity : ℤ := 1
  unitAmount : ℤ
  lineTotal : ℤ

structure PlacedInvoice where
  submissionKey : OrderKey
  customerId : RowId
  orderId : RowId
  currency : String
  subtotal : ℤ
  total : ℤ
  balanceDue : ℤ
  issuedAt : ℕ
  dueAt : ℕ
  items : List PlacedLine

/-! ## Domain requests -/

structure DomainRequest where
  quoteId : Option RowId
  customerId : RowId
  accountId : RowId
  orderItemId : Option RowId
  invoiceId : Option RowId
  domainName : String
  submissionKey : String

/-! ## The tables -/

/-- The tables of quotes and what they order. -/
structure OrderingDatabase where
  quotes : Table SellingQuote := ∅
  orders : Table PlacedOrder := ∅
  orderItems : Table PlacedItem := ∅
  invoices : Table PlacedInvoice := ∅
  domains : Table DomainRequest := ∅
  lockedQuotes : List RowId := []

namespace OrderingDatabase

variable (db : OrderingDatabase)

/-- `orders_submission_key_key`. -/
def createOrder (row : PlacedOrder) : Except Failure (OrderingDatabase × RowId) := do
  require (db.orders.any (fun _ order => order.submissionKey = row.submissionKey) = false)
    .uniqueConstraint
  return ({ db with orders := db.orders.insert row }, db.orders.size)

def createOrderItems (rows : List PlacedItem) : OrderingDatabase :=
  { db with orderItems := db.orderItems.insertAll rows }

/-- `invoices_submission_key_key`. -/
def createInvoice (row : PlacedInvoice) : Except Failure (OrderingDatabase × RowId) := do
  require (db.invoices.any (fun _ invoice => invoice.submissionKey = row.submissionKey) = false)
    .uniqueConstraint
  return ({ db with invoices := db.invoices.insert row }, db.invoices.size)

def billedBy (row : DomainRequest) (quote : SellingQuote) (itemId : RowId) (item : PlacedItem)
    (invoice : PlacedInvoice) : Prop :=
  item.orderId = invoice.orderId ∧ invoice.customerId = row.customerId ∧
    invoice.currency = "BDT" ∧ item.kind = .domain ∧ item.currency = "BDT" ∧
    item.requestedDomain = row.domainName ∧ quote.domainName = row.domainName ∧
    quote.customerId = row.customerId ∧ quote.accountId = row.accountId ∧
    quote.sellingAmount = item.lineTotal ∧
    (∃ line ∈ invoice.items, line.orderItemId = itemId ∧ line.lineTotal = item.lineTotal ∧
      line.currency = "BDT" ∧ line.quantity = 1) ∧
    invoice.total = (invoice.items.map PlacedLine.lineTotal).sum
deriving Decidable

/-- What `domain_integrity` and the reference to the quote look up, for a request that names a
quote. -/
def domainIntegrity (row : DomainRequest) : Prop :=
  ∀ quoteId ∈ row.quoteId, ∃ itemId ∈ row.orderItemId, ∃ quote ∈ db.quotes.get? quoteId,
    ∃ item ∈ db.orderItems.get? itemId, ∃ invoice ∈ row.invoiceId.bind db.invoices.get?,
      billedBy row quote itemId item invoice
deriving Decidable

/-- The unique keys of `domains`, where null clashes with nothing. -/
def clashes (row other : DomainRequest) : Prop :=
  (row.quoteId.isSome ∧ other.quoteId = row.quoteId) ∨
    (row.orderItemId.isSome ∧ other.orderItemId = row.orderItemId) ∨
    (row.invoiceId.isSome ∧ other.invoiceId = row.invoiceId) ∨
    other.domainName = row.domainName ∨ other.submissionKey = row.submissionKey
deriving Decidable

def createDomain (row : DomainRequest) : Except Failure (OrderingDatabase × RowId) := do
  require (db.domainIntegrity row) .checkConstraint
  require (db.domains.any (fun _ other => clashes row other) = false) .uniqueConstraint
  return ({ db with domains := db.domains.insert row }, db.domains.size)

def orderOfKey (key : OrderKey) : Option (RowId × PlacedOrder) :=
  db.orders.find? fun _ order => order.submissionKey = key

def domainOfKey (submissionKey : String) : Option (RowId × DomainRequest) :=
  db.domains.find? fun _ domain => domain.submissionKey = submissionKey

def domainOfQuote (quoteId : RowId) : Option (RowId × DomainRequest) :=
  db.domains.find? fun _ domain => domain.quoteId = some quoteId

end OrderingDatabase

end WebhostBilling
