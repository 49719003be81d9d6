import WebhostBilling.Concurrency.Threads
import WebhostBilling.Database.Schema

/-!
# The product service

`ProductEdit` reads a product and its active prices, checks what it has read, and then writes in a
transaction of its own; `update`, `updateStatus` and `definePrice` are its instances.  An update
writes the columns that the request has, whatever the others are by then.
-/

namespace WebhostBilling

open Store Concurrency

namespace Products

/-! ## Rows and requests -/

inductive ProductStatus
  | draft
  | active
  | archived
deriving DecidableEq

structure Product where
  groupId : Option RowId := none
  kind : ProductKind := .hosting
  slug : String
  name : String
  description : Option String := none
  status : ProductStatus := .draft
  publicVisible : Bool := false
  displayOrder : ℕ := 0
  hostingPackageIdentifier : Option String := none
  storageFeature : Option String := none
  websiteFeature : Option String := none
  emailFeature : Option String := none
  bandwidthFeature : Option String := none
  deletedAt : Option ℕ := none
deriving DecidableEq

structure ProductPrice where
  productId : RowId
  billingPeriod : BillingPeriod
  currency : String
  amount : ℤ
  setupFee : ℤ := 0
  isActive : Bool := true
  validFrom : Option ℕ := none
  validUntil : Option ℕ := none
  deletedAt : Option ℕ := none

/-- The product tables. -/
structure Catalogue where
  productGroups : Table String := ∅
  products : Table Product := ∅
  productPrices : Table ProductPrice := ∅

/-- `hostingBillingPeriodSchema`. -/
inductive HostingBillingPeriod
  | monthly
  | quarterly
  | annual

def HostingBillingPeriod.toBillingPeriod : HostingBillingPeriod → BillingPeriod
  | .monthly => .monthly
  | .quarterly => .quarterly
  | .annual => .annual

/-- `PUBLIC_BILLING_PERIODS`. -/
def publicBillingPeriods : List BillingPeriod := [.monthly, .quarterly, .annual]

theorem HostingBillingPeriod.mem_public (period : HostingBillingPeriod) :
    period.toBillingPeriod ∈ publicBillingPeriods := by
  cases period <;> decide

structure ProductPriceInput where
  billingPeriod : HostingBillingPeriod
  currency : String
  amount : ℤ
  setupFee : ℤ := 0

structure CreateProductRequest where
  groupId : Option RowId := none
  slug : String
  name : String
  description : Option String := none
  publicVisible : Bool := false
  displayOrder : ℕ := 0
  hostingPackageIdentifier : Option String := none
  storageFeature : Option String := none
  websiteFeature : Option String := none
  emailFeature : Option String := none
  bandwidthFeature : Option String := none
  prices : List ProductPriceInput := []

/-- A field that the request leaves out is `none`; one that it sets to `null` is `some none`. -/
structure UpdateProductRequest where
  groupId : Option (Option RowId) := none
  slug : Option String := none
  name : Option String := none
  description : Option (Option String) := none
  publicVisible : Option Bool := none
  displayOrder : Option ℕ := none
  hostingPackageIdentifier : Option (Option String) := none
  storageFeature : Option (Option String) := none
  websiteFeature : Option (Option String) := none
  emailFeature : Option (Option String) := none
  bandwidthFeature : Option (Option String) := none

/-- The product with the fields of the request: `{ ...current, ...input }`. -/
def UpdateProductRequest.apply (input : UpdateProductRequest) (product : Product) : Product :=
  { product with
    groupId := input.groupId.getD product.groupId
    slug := input.slug.getD product.slug
    name := input.name.getD product.name
    description := input.description.getD product.description
    publicVisible := input.publicVisible.getD product.publicVisible
    displayOrder := input.displayOrder.getD product.displayOrder
    hostingPackageIdentifier :=
      input.hostingPackageIdentifier.getD product.hostingPackageIdentifier
    storageFeature := input.storageFeature.getD product.storageFeature
    websiteFeature := input.websiteFeature.getD product.websiteFeature
    emailFeature := input.emailFeature.getD product.emailFeature
    bandwidthFeature := input.bandwidthFeature.getD product.bandwidthFeature }

/-! ## Readiness for sale -/

/-- A problem that keeps a product from being sold. -/
structure ValidationIssue where
  field : String
  message : String

structure ActivatableProduct where
  hostingPackageIdentifier : Option String
  storageFeature : Option String
  websiteFeature : Option String
  emailFeature : Option String
  bandwidthFeature : Option String
  activePriceCount : ℕ

def Product.activatable (product : Product) (activePriceCount : ℕ) : ActivatableProduct where
  hostingPackageIdentifier := product.hostingPackageIdentifier
  storageFeature := product.storageFeature
  websiteFeature := product.websiteFeature
  emailFeature := product.emailFeature
  bandwidthFeature := product.bandwidthFeature
  activePriceCount := activePriceCount

def isFilled (text : Option String) : Bool := text.any (· ≠ "")

def issueUnless (p : Prop) [Decidable p] (issue : ValidationIssue) : List ValidationIssue :=
  if p then [] else [issue]

theorem issueUnless_eq_nil {p : Prop} [Decidable p] {issue : ValidationIssue} :
    issueUnless p issue = [] ↔ p := by
  by_cases h : p <;> simp [issueUnless, h]

def activationValidationIssues (product : ActivatableProduct) : List ValidationIssue :=
  issueUnless (isFilled product.hostingPackageIdentifier = true)
    ⟨"hostingPackageIdentifier", "Enter the cPanel package identifier in Details."⟩ ++
  [(product.storageFeature, "storageFeature", "Storage display"),
    (product.websiteFeature, "websiteFeature", "Websites display"),
    (product.emailFeature, "emailFeature", "Email display"),
    (product.bandwidthFeature, "bandwidthFeature", "Bandwidth display")].flatMap
      (fun (text, field, label) =>
        issueUnless (isFilled text = true) ⟨field, "Fill in " ++ label ++ " in Details."⟩) ++
  issueUnless (product.activePriceCount ≠ 0)
    ⟨"prices", "Add at least one active price in Pricing."⟩

/-! ## Errors -/

inductive ProductFailure
  | application (code : ErrorCode) (message : String) (issues : List ValidationIssue := [])
  | database

namespace ProductService

def notFound : ProductFailure := .application .resourceNotFound "Product was not found."

def unknownGroup : ProductFailure :=
  .application .unprocessableEntity "Choose an existing product group."

def alreadyExists : ProductFailure :=
  .application .conflict "A product or active price with these identifiers already exists."

def mustRemainReady (issues : List ValidationIssue) : ProductFailure :=
  .application .unprocessableEntity "An active product must remain ready for sale." issues

def notReady (issues : List ValidationIssue) : ProductFailure :=
  .application .unprocessableEntity "Product is not ready for activation." issues

def archivedProduct : ProductFailure :=
  .application .unprocessableEntity
    "Move the product out of archived status before defining prices."

end ProductService

/-! ## The tables -/

def Catalogue.findProduct (db : Catalogue) (productId : RowId) : Option Product :=
  (db.products.get? productId).filter fun product =>
    product.deletedAt = none ∧ product.kind = .hosting

def ProductPrice.onSale (productId : RowId) (price : ProductPrice) : Bool :=
  price.productId = productId ∧ price.isActive = true ∧ price.deletedAt = none ∧
    price.billingPeriod ∈ publicBillingPeriods

/-- `_count.prices`. -/
def Catalogue.activePriceCount (db : Catalogue) (productId : RowId) : ℕ :=
  (db.productPrices.select fun _ price => price.onSale productId).length

def Catalogue.pricesOf (db : Catalogue) (productId : RowId) : List ProductPrice :=
  let prices := (db.productPrices.select fun _ price => price.productId = productId).map (·.2)
  (prices.filter (·.isActive)).reverse ++ (prices.filter (!·.isActive)).reverse

def ProductPrice.sameKey (price other : ProductPrice) : Bool :=
  price.productId = other.productId ∧ price.billingPeriod = other.billingPeriod ∧
    price.currency = other.currency ∧ other.isActive = true ∧ other.deletedAt = none

def Catalogue.createPrice (db : Catalogue) (price : ProductPrice) :
    Except ProductFailure Catalogue := do
  require (db.productPrices.any (fun _ other => price.sameKey other) = false)
    ProductService.alreadyExists
  return { db with productPrices := db.productPrices.insert price }

def Catalogue.checkKeys (db : Catalogue) (productId : RowId) (product : Product) :
    Except ProductFailure Unit := do
  require (db.products.any (fun id other => id ≠ productId ∧ other.slug = product.slug) = false)
    ProductService.alreadyExists
  require (∀ groupId ∈ product.groupId, (db.productGroups.get? groupId).isSome)
    ProductService.unknownGroup

def Catalogue.updateProduct (db : Catalogue) (productId : RowId) (f : Product → Product) :
    Except ProductFailure Catalogue := do
  let product ← orThrow .database (db.products.get? productId)
  db.checkKeys productId (f product)
  return { db with products := db.products.update productId f }

namespace ProductService

/-- What a step is told from outside: the clock, and that the database refuses the write because of
a transaction that is not committed yet. -/
structure ProductWorld where
  now : ℕ := 0
  raced : Bool := false

abbrev ProductView := Product × List ProductPrice

/-! ## Edits -/

/-- How far an edit is.  `current` is the product as it was read. -/
inductive EditState (ι : Type)
  | assertingGroup (productId groupId : RowId) (input : ι)
  | reading (productId : RowId) (input : ι)
  | writing (productId : RowId) (input : ι) (current : Product)
  | answering (productId : RowId)
  | done (result : Except ProductFailure ProductView)

structure ProductEdit (ι : Type) where
  groupId : ι → Option RowId
  check : ι → Product → ℕ → Except ProductFailure Unit
  write : ProductWorld → RowId → ι → Catalogue → Except ProductFailure Catalogue

section

variable {ι : Type}

/-- `getAdmin`. -/
def getAdmin (productId : RowId) (db : Catalogue) : Except ProductFailure ProductView := do
  let product ← orThrow notFound (db.findProduct productId)
  return (product, db.pricesOf productId)

def ProductEdit.read (edit : ProductEdit ι) (productId : RowId) (input : ι) (db : Catalogue) :
    Except ProductFailure Product := do
  let current ← orThrow notFound (db.findProduct productId)
  edit.check input current (db.activePriceCount productId)
  return current

def ProductEdit.step (edit : ProductEdit ι) (w : ProductWorld) (db : Catalogue) :
    EditState ι → Option (Catalogue × EditState ι)
  | .assertingGroup productId groupId input =>
    if (db.productGroups.get? groupId).isSome then some (db, .reading productId input)
    else some (db, .done (.error unknownGroup))
  | .reading productId input =>
    match edit.read productId input db with
    | .ok current => some (db, .writing productId input current)
    | .error e => some (db, .done (.error e))
  | .writing productId input _ =>
    match edit.write w productId input db with
    | .ok db' => some (db', .answering productId)
    | .error e => some (db, .done (.error e))
  | .answering productId => some (db, .done (getAdmin productId db))
  | .done _ => none

def ProductEdit.operation (edit : ProductEdit ι) : Operation Catalogue ProductWorld where
  Request := RowId × ι
  Local := EditState ι
  start request :=
    match edit.groupId request.2 with
    | some groupId => .assertingGroup request.1 groupId request.2
    | none => .reading request.1 request.2
  step := edit.step

end

def update : ProductEdit UpdateProductRequest where
  groupId input := input.groupId.join
  check input current activePriceCount := do
    let issues := activationValidationIssues ((input.apply current).activatable activePriceCount)
    require (current.status = .active → issues = []) (mustRemainReady issues)
  write _ productId input db := db.updateProduct productId input.apply

def withStatus (status : ProductStatus) (product : Product) : Product :=
  { product with
    status := status
    publicVisible := if status = .archived then false else product.publicVisible }

def updateStatus : ProductEdit ProductStatus where
  groupId _ := none
  check status current activePriceCount := do
    let issues := activationValidationIssues (current.activatable activePriceCount)
    require (status = .active → issues = []) (notReady issues)
  write _ productId status db := db.updateProduct productId (withStatus status)

/-- `priceCreateData`. -/
def priceCreateData (productId : RowId) (input : ProductPriceInput) : ProductPrice where
  productId := productId
  billingPeriod := input.billingPeriod.toBillingPeriod
  currency := input.currency
  amount := input.amount
  setupFee := input.setupFee

/-- No active price has the period and currency of `price` any more. -/
def endPrices (now : ℕ) (price : ProductPrice) (db : Catalogue) : Catalogue :=
  { db with
    productPrices := db.productPrices.updateWhere (fun _ other => price.sameKey other)
      (fun other => { other with isActive := false, validUntil := some now }) }

/-- The new price takes the place of the active one with the same period and currency. -/
def replacePrice (now : ℕ) (productId : RowId) (input : ProductPriceInput) (db : Catalogue) :
    Except ProductFailure Catalogue :=
  let price := { priceCreateData productId input with validFrom := some now }
  (endPrices now price db).createPrice price

def definePrice : ProductEdit ProductPriceInput where
  groupId _ := none
  check _ current _ := require (current.status ≠ .archived) archivedProduct
  write w productId input db := do
    require (w.raced = false) alreadyExists
    replacePrice w.now productId input db

/-! ## Creation -/

inductive CreateState
  | assertingGroup (groupId : RowId) (input : CreateProductRequest)
  | writing (input : CreateProductRequest)
  | done (result : Except ProductFailure ProductView)

def createdProduct (input : CreateProductRequest) : Product where
  groupId := input.groupId
  slug := input.slug
  name := input.name
  description := input.description
  status := .draft
  publicVisible := input.publicVisible
  displayOrder := input.displayOrder
  hostingPackageIdentifier := input.hostingPackageIdentifier
  storageFeature := input.storageFeature
  websiteFeature := input.websiteFeature
  emailFeature := input.emailFeature
  bandwidthFeature := input.bandwidthFeature

def createPrices (productId : RowId) (prices : List ProductPriceInput) (db : Catalogue) :
    Except ProductFailure Catalogue :=
  prices.foldlM (fun db price => db.createPrice (priceCreateData productId price)) db

def createProduct (input : CreateProductRequest) (db : Catalogue) :
    Except ProductFailure (Catalogue × ProductView) := do
  let productId := db.products.size
  let product := createdProduct input
  db.checkKeys productId product
  let created ← createPrices productId input.prices
    { db with products := db.products.insert product }
  return (created, product, created.pricesOf productId)

def create : Operation Catalogue ProductWorld where
  Request := CreateProductRequest
  Local := CreateState
  start input :=
    match input.groupId with
    | some groupId => .assertingGroup groupId input
    | none => .writing input
  step _ db
    | .assertingGroup groupId input =>
      if (db.productGroups.get? groupId).isSome then some (db, .writing input)
      else some (db, .done (.error unknownGroup))
    | .writing input =>
      match createProduct input db with
      | .ok (db', view) => some (db', .done (.ok view))
      | .error e => some (db, .done (.error e))
    | .done _ => none

inductive ProductOperation
  | create
  | update
  | updateStatus
  | definePrice

def productOperations : ProductOperation → Operation Catalogue ProductWorld
  | .create => create
  | .update => update.operation
  | .updateStatus => updateStatus.operation
  | .definePrice => definePrice.operation

end ProductService

end Products

end WebhostBilling
