import WebhostBilling.Products.ProductService

/-!
# Active products are sellable

An edit of an active product is checked to leave it ready for sale, and an activation is checked to
find it ready.  Both checks are about the product as it was read, and the write that follows is
about the product as it is by then.  A price is only ever replaced, so a product that had one on
sale always has one (`OnSale.step`).
-/

namespace WebhostBilling

open Store Store.Table Concurrency Config

namespace Products

open ProductService

/-! ## Ready products -/

/-- Every text that an order needs is filled in. -/
structure Product.Filled (product : Product) : Prop where
  hostingPackageIdentifier : isFilled product.hostingPackageIdentifier = true
  storageFeature : isFilled product.storageFeature = true
  websiteFeature : isFilled product.websiteFeature = true
  emailFeature : isFilled product.emailFeature = true
  bandwidthFeature : isFilled product.bandwidthFeature = true

theorem Product.filled_iff (product : Product) : product.Filled ↔
    isFilled product.hostingPackageIdentifier = true ∧ isFilled product.storageFeature = true ∧
      isFilled product.websiteFeature = true ∧ isFilled product.emailFeature = true ∧
      isFilled product.bandwidthFeature = true :=
  ⟨fun h => ⟨h.1, h.2, h.3, h.4, h.5⟩, fun h => ⟨h.1, h.2.1, h.2.2.1, h.2.2.2.1, h.2.2.2.2⟩⟩

instance (product : Product) : Decidable product.Filled :=
  decidable_of_iff _ product.filled_iff.symm

variable {db db' : Catalogue} {product : Product} {productId : RowId} {input : UpdateProductRequest}

theorem activationValidationIssues_eq_nil {count : ℕ} :
    activationValidationIssues (product.activatable count) = [] ↔ product.Filled ∧ 0 < count := by
  dsimp only [activationValidationIssues, Product.activatable]
  simp only [List.append_eq_nil_iff, List.flatMap_cons, List.flatMap_nil, issueUnless_eq_nil,
    Product.filled_iff, and_true, and_assoc, Nat.pos_iff_ne_zero]

def clearsText (field : Option (Option String)) : Bool := field.any fun text => !isFilled text

def UpdateProductRequest.clears (input : UpdateProductRequest) : Bool :=
  clearsText input.hostingPackageIdentifier || clearsText input.storageFeature ||
    clearsText input.websiteFeature || clearsText input.emailFeature ||
    clearsText input.bandwidthFeature

theorem isFilled_getD {field : Option (Option String)} {text : Option String} :
    (isFilled (field.getD text) = true → clearsText field = false) ∧
      (clearsText field = false → isFilled text = true → isFilled (field.getD text) = true) := by
  cases field with
  | none => simp [clearsText]
  | some value =>
    refine ⟨fun h => by simpa [clearsText] using h, fun h _ => by simpa [clearsText] using h⟩

theorem UpdateProductRequest.clears_eq_false :
    input.clears = false ↔ clearsText input.hostingPackageIdentifier = false ∧
      clearsText input.storageFeature = false ∧ clearsText input.websiteFeature = false ∧
      clearsText input.emailFeature = false ∧ clearsText input.bandwidthFeature = false := by
  simp only [clears, Bool.or_eq_false_iff]
  tauto

theorem clears_eq_false_of_filled (h : (input.apply product).Filled) : input.clears = false := by
  obtain ⟨hpackage, hstorage, hwebsite, hemail, hbandwidth⟩ := h
  exact UpdateProductRequest.clears_eq_false.2 ⟨isFilled_getD.1 hpackage, isFilled_getD.1 hstorage,
    isFilled_getD.1 hwebsite, isFilled_getD.1 hemail, isFilled_getD.1 hbandwidth⟩

theorem filled_apply
    (hclears : input.clears = false) (h : product.Filled) : (input.apply product).Filled := by
  obtain ⟨hpackage, hstorage, hwebsite, hemail, hbandwidth⟩ :=
    UpdateProductRequest.clears_eq_false.1 hclears
  exact ⟨isFilled_getD.2 hpackage h.1, isFilled_getD.2 hstorage h.2, isFilled_getD.2 hwebsite h.3,
    isFilled_getD.2 hemail h.4, isFilled_getD.2 hbandwidth h.5⟩

/-- **The invariant**: every active hosting product passes the validation. -/
def ActiveSellable (db : Catalogue) : Prop :=
  ∀ id product, db.products.get? id = some product → product.kind = .hosting →
    product.status = .active →
      activationValidationIssues (product.activatable (db.activePriceCount id)) = []

/-! ## Prices -/

def OnSale (db : Catalogue) (productId : RowId) : Prop :=
  ∃ id price, db.productPrices.get? id = some price ∧ price.onSale productId = true

theorem activePriceCount_pos :
    0 < db.activePriceCount productId ↔ OnSale db productId := by
  rw [Catalogue.activePriceCount, List.length_pos_iff_exists_mem]
  constructor
  · rintro ⟨⟨id, price⟩, hmem⟩
    exact ⟨id, price, mem_select.1 hmem⟩
  · rintro ⟨id, price, hprice⟩
    exact ⟨(id, price), mem_select.2 hprice⟩

variable {price : ProductPrice} {f : Product → Product}

theorem createPrice_eq_ok (h : db.createPrice price = .ok db') :
    db' = { db with productPrices := db.productPrices.insert price } := by
  simp only [Catalogue.createPrice, eq_ok] at h
  obtain ⟨_, -, rfl⟩ := h
  rfl

theorem onSale_createPrice (h : db.createPrice price = .ok db') (hsale : OnSale db productId) :
    OnSale db' productId := by
  obtain ⟨id, other, hother, hon⟩ := hsale
  rw [createPrice_eq_ok h]
  exact ⟨id, other, get?_insert_of_some hother, hon⟩

theorem createPrices_eq_ok {prices : List ProductPriceInput}
    (h : createPrices productId prices db = .ok db') :
    db'.products = db.products ∧ ∀ id, OnSale db id → OnSale db' id := by
  induction prices generalizing db with
  | nil =>
    rw [createPrices, List.foldlM_nil, pure_eq_ok] at h
    rw [h]
    exact ⟨rfl, fun _ hsale => hsale⟩
  | cons price prices ih =>
    rw [createPrices, List.foldlM_cons, bind_eq_ok] at h
    obtain ⟨db₁, hprice, hrest⟩ := h
    obtain ⟨hproducts, hsales⟩ := ih hrest
    refine ⟨hproducts.trans ?_, fun id hsale => hsales id (onSale_createPrice hprice hsale)⟩
    rw [createPrice_eq_ok hprice]

theorem replacePrice_eq_ok {now : ℕ} {input : ProductPriceInput}
    (h : replacePrice now productId input db = .ok db') :
    db'.products = db.products ∧ ∀ id, OnSale db id → OnSale db' id := by
  have hcreated := createPrice_eq_ok h
  refine ⟨by rw [hcreated]; rfl, fun id hsale => ?_⟩
  by_cases hid : id = productId
  · have hprice : ({ priceCreateData productId input with validFrom := some now } :
        ProductPrice).onSale id = true := by
      simp [ProductPrice.onSale, priceCreateData, hid, input.billingPeriod.mem_public]
    rw [hcreated]
    exact ⟨_, _, get?_insert_self _ _, hprice⟩
  · -- The prices of any other product are not the ones that end.
    obtain ⟨k, price, hprice, hon⟩ := hsale
    have howner : price.productId = id := by
      simp only [ProductPrice.onSale, decide_eq_true_eq] at hon
      exact hon.1
    refine onSale_createPrice h ⟨k, price, ?_, hon⟩
    rw [endPrices, get?_updateWhere, hprice, Option.map_some, if_neg]
    simp only [ProductPrice.sameKey, priceCreateData, decide_eq_true_eq, howner]
    exact fun hkey => hid hkey.1.symm

/-! ## One step -/

theorem updateProduct_eq_ok (h : db.updateProduct productId f = .ok db') :
    db' = { db with products := db.products.update productId f } := by
  simp only [Catalogue.updateProduct, eq_ok] at h
  obtain ⟨_, -, _, -, rfl⟩ := h
  rfl

inductive EditEffect {ι : Type} (edit : ProductEdit ι) (w : ProductWorld) (db : Catalogue) :
    EditState ι → Catalogue → EditState ι → Prop
  | moved {l l' : EditState ι} (hl' : ∀ productId input current,
      l' ≠ .writing productId input current) : EditEffect edit w db l db l'
  | read {productId : RowId} {input : ι} {current : Product}
      (hread : edit.read productId input db = .ok current) :
      EditEffect edit w db (.reading productId input) db (.writing productId input current)
  | wrote {productId : RowId} {input : ι} {current : Product} {db' : Catalogue}
      (hwrite : edit.write w productId input db = .ok db') :
      EditEffect edit w db (.writing productId input current) db' (.answering productId)

theorem editEffect_of_step {ι : Type} {edit : ProductEdit ι} {w : ProductWorld}
    {l l' : EditState ι} (h : edit.step w db l = some (db', l')) :
    EditEffect edit w db l db' l' := by
  cases l with
  | assertingGroup productId groupId input =>
    rw [ProductEdit.step] at h
    split at h
    · cases h
      exact .moved fun _ _ _ => nofun
    · cases h
      exact .moved fun _ _ _ => nofun
  | reading productId input =>
    rw [ProductEdit.step] at h
    split at h
    · rename_i current hread
      cases h
      exact .read hread
    · cases h
      exact .moved fun _ _ _ => nofun
  | writing productId input current =>
    rw [ProductEdit.step] at h
    split at h
    · rename_i written hwrite
      cases h
      exact .wrote hwrite
    · cases h
      exact .moved fun _ _ _ => nofun
  | answering productId =>
    cases h
    exact .moved fun _ _ _ => nofun
  | done result => cases h

theorem ActiveSellable.update (h : ActiveSellable db)
    (hf : ∀ product, db.products.get? productId = some product →
      (f product).kind = .hosting → (f product).status = .active →
        (f product).Filled ∧ OnSale db productId) :
    ActiveSellable { db with products := db.products.update productId f } := by
  intro id product hproduct hkind hactive
  rcases get?_update_cases hproduct with ⟨rfl, row, hrow, rfl⟩ | ⟨_, hrow⟩
  · obtain ⟨hfilled, hsale⟩ := hf row hrow hkind hactive
    exact activationValidationIssues_eq_nil.2 ⟨hfilled, activePriceCount_pos.2 hsale⟩
  · exact h id product hrow hkind hactive

theorem ActiveSellable.of_prices (h : ActiveSellable db)
    (hproducts : db'.products = db.products) (hsales : ∀ id, OnSale db id → OnSale db' id) :
    ActiveSellable db' := by
  intro id product hproduct hkind hactive
  rw [hproducts] at hproduct
  obtain ⟨hfilled, hpos⟩ := activationValidationIssues_eq_nil.1 (h id product hproduct hkind hactive)
  exact activationValidationIssues_eq_nil.2
    ⟨hfilled, activePriceCount_pos.2 (hsales id (activePriceCount_pos.1 hpos))⟩

/-! ## Runs -/

/-- What an edit of the fields relies on at its write: an active product that it has read was
checked with the fields of the request. -/
def UpdateReads : EditState UpdateProductRequest → Prop
  | .writing _ input current => current.status = .active → input.clears = false
  | _ => True

def StatusReads (db : Catalogue) : EditState ProductStatus → Prop
  | .writing productId status _ => status = .active → OnSale db productId
  | _ => True

def ProductReads (db : Catalogue) : (op : ProductOperation) → (productOperations op).Local → Prop
  | .update, l => UpdateReads l
  | .updateStatus, l => StatusReads db l
  | .create, _ => True
  | .definePrice, _ => True

def updateCheckHolds (db : Catalogue) : EditState UpdateProductRequest → Bool
  | .writing productId input current => !input.clears || current.status = .active ||
      (db.products.get? productId).all (·.status ≠ .active)
  | _ => true

def statusCheckHolds (db : Catalogue) : EditState ProductStatus → Bool
  | .writing productId status _ =>
    status ≠ .active || (db.products.get? productId).all fun product => decide product.Filled
  | _ => true

def checkHolds (db : Catalogue) : (op : ProductOperation) → (productOperations op).Local → Bool
  | .update, l => updateCheckHolds db l
  | .updateStatus, l => statusCheckHolds db l
  | .create, _ => true
  | .definePrice, _ => true

/-- The guard: what a check has found still holds at the write. -/
def CheckHolds (_ : ProductWorld) (db : Catalogue) (t : Thread productOperations) : Prop :=
  checkHolds db t.op t.loc = true
deriving Decidable

/-- A step keeps active products sellable and prices on sale, and what its thread goes on with is
what it has read. -/
structure Progress (db db' : Catalogue) (reads : Prop) : Prop where
  sellable : ActiveSellable db'
  sales : ∀ id, OnSale db id → OnSale db' id
  reads : reads

section

variable {w : ProductWorld}

theorem update_progress {l l' : EditState UpdateProductRequest} (hdb : ActiveSellable db)
    (hreads : UpdateReads l) (hcheck : updateCheckHolds db l = true)
    (h : update.step w db l = some (db', l')) : Progress db db' (UpdateReads l') := by
  cases editEffect_of_step h with
  | moved hl' =>
    refine ⟨hdb, fun _ hsale => hsale, ?_⟩
    cases l' with
    | writing productId input current => exact absurd rfl (hl' productId input current)
    | assertingGroup _ _ _ | reading _ _ | answering _ | done _ => trivial
  | read hread =>
    refine ⟨hdb, fun _ hsale => hsale, fun hactive => ?_⟩
    simp only [ProductEdit.read, ProductService.update, eq_ok]
      at hread
    obtain ⟨current, _, hissues, rfl⟩ := hread
    exact clears_eq_false_of_filled (activationValidationIssues_eq_nil.1 (hissues hactive)).1
  | wrote hwrite =>
    rename_i productId input current
    have hdb' := updateProduct_eq_ok hwrite
    rw [hdb']
    refine ⟨hdb.update fun product hproduct hkind hactive => ?_, fun _ hsale => hsale, trivial⟩
    have hwas : product.status = .active := hactive
    obtain ⟨hfilled, hpos⟩ :=
      activationValidationIssues_eq_nil.1 (hdb productId product hproduct hkind hwas)
    -- The edit clears a text only of a product that was not active, and then it is not active now.
    have hclears : input.clears = false := by
      by_cases hcurrent : current.status = .active
      · exact hreads hcurrent
      · simpa [updateCheckHolds, hcurrent, hproduct, hwas] using hcheck
    exact ⟨filled_apply hclears hfilled, activePriceCount_pos.1 hpos⟩

theorem updateStatus_progress {l l' : EditState ProductStatus} (hdb : ActiveSellable db)
    (hreads : StatusReads db l) (hcheck : statusCheckHolds db l = true)
    (h : updateStatus.step w db l = some (db', l')) : Progress db db' (StatusReads db' l') := by
  cases editEffect_of_step h with
  | moved hl' =>
    refine ⟨hdb, fun _ hsale => hsale, ?_⟩
    cases l' with
    | writing productId status current => exact absurd rfl (hl' productId status current)
    | assertingGroup _ _ _ | reading _ _ | answering _ | done _ => trivial
  | read hread =>
    refine ⟨hdb, fun _ hsale => hsale, fun hactive => ?_⟩
    simp only [ProductEdit.read, updateStatus, eq_ok] at hread
    obtain ⟨current, _, hissues, rfl⟩ := hread
    exact activePriceCount_pos.1 (activationValidationIssues_eq_nil.1 (hissues hactive)).2
  | wrote hwrite =>
    rename_i productId status current
    have hdb' := updateProduct_eq_ok hwrite
    rw [hdb']
    refine ⟨hdb.update fun product hproduct _ hactive => ?_, fun _ hsale => hsale, trivial⟩
    have hstatus : status = .active := hactive
    have hfilled : product.Filled := by
      simpa [statusCheckHolds, hstatus, hproduct] using hcheck
    exact ⟨⟨hfilled.1, hfilled.2, hfilled.3, hfilled.4, hfilled.5⟩, hreads hstatus⟩

theorem definePrice_progress {l l' : EditState ProductPriceInput} (hdb : ActiveSellable db)
    (h : definePrice.step w db l = some (db', l')) : Progress db db' True := by
  cases editEffect_of_step h with
  | moved _ | read _ => exact ⟨hdb, fun _ hsale => hsale, trivial⟩
  | wrote hwrite =>
    simp only [definePrice, bind_eq_ok, require_eq_ok] at hwrite
    obtain ⟨_, -, hreplaced⟩ := hwrite
    obtain ⟨hproducts, hsales⟩ := replacePrice_eq_ok hreplaced
    exact ⟨hdb.of_prices hproducts hsales, hsales, trivial⟩

variable {op : ProductOperation}

theorem ActiveSellable.insert (hdb : ActiveSellable db) (hdraft : product.status ≠ .active) :
    ActiveSellable { db with products := db.products.insert product } := by
  intro id row hrow hkind hactive
  rcases get?_insert_cases hrow with ⟨-, rfl⟩ | hrow
  · exact absurd hactive hdraft
  · exact hdb id row hrow hkind hactive

theorem create_progress {l l' : CreateState} (hdb : ActiveSellable db)
    (h : ProductService.create.step w db l = some (db', l')) : Progress db db' True := by
  cases l with
  | assertingGroup groupId input =>
    simp only [ProductService.create] at h
    split at h
    · cases h
      exact ⟨hdb, fun _ hsale => hsale, trivial⟩
    · cases h
      exact ⟨hdb, fun _ hsale => hsale, trivial⟩
  | writing input =>
    simp only [ProductService.create] at h
    split at h
    · rename_i created view hcreate
      cases h
      simp only [createProduct, eq_ok] at hcreate
      obtain ⟨_, -, created, hprices, rfl, -⟩ := hcreate
      obtain ⟨hproducts, hsales⟩ := createPrices_eq_ok hprices
      have hinserted : ActiveSellable
          { db with products := db.products.insert (createdProduct input) } :=
        hdb.insert fun hactive => nomatch hactive
      exact ⟨hinserted.of_prices hproducts hsales, hsales, trivial⟩
    · cases h
      exact ⟨hdb, fun _ hsale => hsale, trivial⟩
  | done result => cases h

theorem product_step {l l' : (productOperations op).Local} (hdb : ActiveSellable db)
    (hreads : ProductReads db op l) (hcheck : checkHolds db op l = true)
    (h : (productOperations op).step w db l = some (db', l')) :
    Progress db db' (ProductReads db' op l') := by
  cases op with
  | create => exact create_progress hdb h
  | update => exact update_progress hdb hreads hcheck h
  | updateStatus => exact updateStatus_progress hdb hreads hcheck h
  | definePrice => exact definePrice_progress hdb h

theorem ProductReads.mono {l : (productOperations op).Local}
    (hsales : ∀ id, OnSale db id → OnSale db' id) (h : ProductReads db op l) :
    ProductReads db' op l := by
  cases op with
  | create | update | definePrice => exact h
  | updateStatus =>
    change StatusReads db l at h
    change StatusReads db' l
    cases l with
    | writing productId status current => exact fun hactive => hsales productId (h hactive)
    | assertingGroup _ _ _ | reading _ _ | answering _ | done _ => trivial

end

theorem productReads_begin (db : Catalogue) (op : ProductOperation)
    (request : (productOperations op).Request) :
    ProductReads db op ((productOperations op).start request) := by
  cases op with
  | create | definePrice => trivial
  | update =>
    change UpdateReads (update.operation.start request)
    simp only [ProductEdit.operation]
    split <;> trivial
  | updateStatus => trivial

def productOutline : Outline productOperations where
  shared := ActiveSellable
  thread db t := ProductReads db t.op t.loc

theorem productOutline_sound : productOutline.Sound CheckHolds where
  symm _ _ _ := trivial
  call db op request _ := productReads_begin db op request
  call_apart _ _ _ := trivial
  own w db t db' t' hcheck hdb ht hstep := by
    obtain ⟨l, hl, rfl⟩ := Thread.step_eq_some hstep
    have hprogress := product_step hdb ht hcheck hl
    exact ⟨hprogress.sellable, hprogress.reads⟩
  other w db t db' t' u hcheck hdb ht hu _ hstep := by
    obtain ⟨l, hl, rfl⟩ := Thread.step_eq_some hstep
    exact ⟨hu.mono (product_step hdb ht hcheck hl).sales, trivial⟩

/-- **Active products are sellable**, in every run of the product service in which no write comes
too late for its check: an activation still finds the texts that it has read, and an edit that
clears a text of a product that was not active does not find it active. -/
theorem active_products_sellable {db : Catalogue} (hdb : ActiveSellable db)
    {c : Config productOperations} (hr : Reaches CheckHolds ⟨db, []⟩ c) :
    ActiveSellable c.shared :=
  (productOutline_sound.holds (Outline.holds_idle hdb) hr).shared

/-! ### An activation and an edit at the same time -/

def readyDraft : Product where
  slug := "starter"
  name := "Starter"
  hostingPackageIdentifier := some "starter_pkg"
  storageFeature := some "10 GB"
  websiteFeature := some "1"
  emailFeature := some "5"
  bandwidthFeature := some "100 GB"

def readyCatalogue : Catalogue where
  products := ⟨[readyDraft]⟩
  productPrices :=
    ⟨[{ productId := 0, billingPeriod := .monthly, currency := "BDT", amount := 50000 }]⟩

theorem readyCatalogue_sellable : ActiveSellable readyCatalogue := by
  intro id product hproduct _ hactive
  obtain ⟨-, rfl⟩ := eq_of_get?_singleton hproduct
  exact absurd hactive (by decide)

/-- The price is replaced, the product is activated, and then an edit tries to clear a text of the
active product. -/
def activationThenEdit : List (Move productOperations) :=
  [.call .definePrice (0, ⟨.monthly, "BDT", 60000, 0⟩), .call .updateStatus (0, .active),
    .call .update (0, { storageFeature := some none }),
    .advance 0 { now := 5 }, .advance 0 { now := 5 }, .advance 1 { now := 6 },
    .advance 1 { now := 6 }, .advance 2 { now := 7 }]

def activatedConfig : Config productOperations :=
  Config.after ⟨readyCatalogue, []⟩ activationThenEdit (by decide +kernel)

theorem activated_product_sellable :
    (activatedConfig.shared.products.get? 0).map (·.status) = some .active ∧
      ActiveSellable activatedConfig.shared :=
  ⟨by decide +kernel,
    active_products_sellable readyCatalogue_sellable (reaches_of_run
      (run_eq_after (show (Config.run ⟨readyCatalogue, []⟩ activationThenEdit).isSome = true
        by decide +kernel)) (by decide +kernel))⟩

/-- The activation and the edit both read the draft.  The edit may clear the text of a draft, and
the activation has found the text. -/
def activationDuringEdit : List (Move productOperations) :=
  [.call .updateStatus (0, .active), .call .update (0, { storageFeature := some none }),
    .advance 0 {}, .advance 1 {}, .advance 1 {}, .advance 0 {}]

/-- **An active product without a text that an order needs.** -/
theorem active_product_without_storage : ∃ c : Config productOperations,
    Config.run ⟨readyCatalogue, []⟩ activationDuringEdit = some c ∧
      ActiveSellable readyCatalogue ∧ ¬ ActiveSellable c.shared := by
  refine ⟨Config.after _ _ (by decide +kernel), run_eq_after (by decide +kernel),
    readyCatalogue_sellable, fun h => ?_⟩
  have hrow : (Config.after ⟨readyCatalogue, []⟩ activationDuringEdit
      (by decide +kernel)).shared.products.get? 0 =
        some { readyDraft with status := .active, storageFeature := none } := by
    decide +kernel
  have hissues := h 0 _ hrow rfl rfl
  have hfilled := (activationValidationIssues_eq_nil.1 hissues).1
  exact absurd hfilled.storageFeature (by decide)

end Products

end WebhostBilling
