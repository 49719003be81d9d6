import WebhostBilling.Orders.OrderOutline
import WebhostBilling.Store.Matching

/-!
# The completion of an order

Each operation that delivers an item asks whether its order is complete now, and completes it.  An
unsuspension delivers a service again and does not ask; neither does an administrator who starts to
process an order that has everything already.
-/

namespace WebhostBilling

open Store Store.Table Concurrency Config RegistrarProcessor DomainService

/-! ## The count of the domains -/

section

variable {db db' : Database} {orderId : RowId}
variable {item : OrderItem} {itemId : RowId}

theorem mem_itemsOfOrder :
    (itemId, item) ∈ db.itemsOfOrder orderId ↔
      db.orderItems.get? itemId = some item ∧ item.orderId = orderId := by
  rw [Database.itemsOfOrder, mem_select, decide_eq_true_eq]

theorem FulfilmentKeys.hostingActive (hkeys : FulfilmentKeys db) {id : RowId}
    {service : Service} (hservice : db.services.get? id = some service)
    (hitem : service.orderItemId = some itemId) (hactive : service.status = .active) :
    db.hostingActive itemId = true := by
  rw [Database.hostingActive, Database.serviceOfItem]
  cases hfound : db.services.find? fun _ service => service.orderItemId = some itemId with
  | none => exact absurd hitem (of_decide_eq_false (find?_eq_none.1 hfound id service hservice))
  | some entry =>
    obtain ⟨id', service'⟩ := entry
    obtain ⟨hservice', hp⟩ := find?_eq_some hfound
    have hid := hkeys.service id' id service' service itemId hservice' hservice
      (of_decide_eq_true hp) hitem
    rw [hid, hservice, Option.some.injEq] at hservice'
    subst hservice'
    simpa using hactive

theorem itemFulfilled_hostingActive (hkind : item.kind = .hosting)
    (h : db.hostingActive itemId = true) : ItemFulfilled db itemId item := by
  rw [Database.hostingActive, Database.serviceOfItem, Option.any_map, Option.any_eq_true] at h
  obtain ⟨⟨id, service⟩, hfound, hactive⟩ := h
  obtain ⟨hservice, hp⟩ := find?_eq_some hfound
  rw [ItemFulfilled, hkind]
  exact ⟨id, service, hservice, of_decide_eq_true hp, by simpa using hactive⟩

theorem FulfilmentKeys.registered_length (hkeys : FulfilmentKeys db) {itemIds : List RowId}
    (hnodup : itemIds.Nodup) :
    (db.domains.select fun _ domain =>
      domain.orderItemId.any (· ∈ itemIds) ∧ domain.state = .registered).length =
        (itemIds.filter db.domainRegistered).length := by
  refine length_eq_of_matched (r := fun entry itemId => entry.2.orderItemId = some itemId)
    (db.domains.nodup_select _).of_map (hnodup.filter _) ?_ ?_ ?_ ?_
  · rintro ⟨id, domain⟩ hmem
    obtain ⟨hdomain, hp⟩ := mem_select.1 hmem
    obtain ⟨hitem, hstate⟩ := of_decide_eq_true hp
    obtain ⟨itemId, hitemId, hin⟩ := (Option.any_eq_true _ _).1 hitem
    refine ⟨itemId, List.mem_filter.2 ⟨of_decide_eq_true hin, ?_⟩, hitemId⟩
    exact any_eq_true.2 ⟨id, domain, hdomain, decide_eq_true ⟨hitemId, hstate⟩⟩
  · intro itemId hmem
    obtain ⟨hin, hregistered⟩ := List.mem_filter.1 hmem
    obtain ⟨id, domain, hdomain, hp⟩ := any_eq_true.1 hregistered
    obtain ⟨hitemId, hstate⟩ := of_decide_eq_true hp
    refine ⟨(id, domain), mem_select.2 ⟨hdomain, decide_eq_true ⟨?_, hstate⟩⟩, hitemId⟩
    rw [hitemId, Option.any_some]
    exact decide_eq_true hin
  · rintro ⟨i, a⟩ ha ⟨j, b⟩ hb itemId - hai hbj
    have hget := (mem_select.1 ha).1
    obtain rfl := hkeys.domain i j a b itemId hget (mem_select.1 hb).1 hai hbj
    exact congrArg (Prod.mk i) (Option.some.inj (hget.symm.trans (mem_select.1 hb).1))
  · intro itemId _ itemId' _ entry _ h h'
    exact Option.mem_unique h h'

theorem FulfilmentKeys.linked_length (hkeys : FulfilmentKeys db) {itemIds existingIds : List RowId}
    (hnodup : itemIds.Nodup)
    (hexisting : ∀ i link, db.existingDomainOrders.get? i = some link →
      (link.orderItemId ∈ existingIds ↔ link.orderItemId ∈ itemIds)) :
    (db.domains.select fun id domain =>
      id ∈ (db.existingDomainOrders.select fun _ link => link.orderItemId ∈ existingIds).map
        (fun entry => entry.2.domainId) ∧
      domain.origin = .existing ∧ domain.state = .registered).length =
        (itemIds.filter db.existingDomainLinked).length := by
  refine length_eq_of_matched (r := fun entry itemId => ∃ i link,
    db.existingDomainOrders.get? i = some link ∧ link.domainId = entry.1 ∧
      link.orderItemId = itemId) (db.domains.nodup_select _).of_map (hnodup.filter _) ?_ ?_ ?_ ?_
  · rintro ⟨id, domain⟩ hmem
    obtain ⟨hdomain, hp⟩ := mem_select.1 hmem
    obtain ⟨hlinked, horigin⟩ := of_decide_eq_true hp
    obtain ⟨⟨i, link⟩, hselected, hid⟩ := List.mem_map.1 hlinked
    obtain ⟨hlink, hin⟩ := mem_select.1 hselected
    refine ⟨link.orderItemId, List.mem_filter.2
      ⟨(hexisting i link hlink).1 (of_decide_eq_true hin), ?_⟩, i, link, hlink, hid, rfl⟩
    refine any_eq_true.2 ⟨i, link, hlink, decide_eq_true ⟨rfl, ?_⟩⟩
    rw [show link.domainId = id from hid, hdomain, Option.any_some]
    exact decide_eq_true horigin
  · intro itemId hmem
    obtain ⟨hin, hlinked⟩ := List.mem_filter.1 hmem
    obtain ⟨i, link, hlink, hp⟩ := any_eq_true.1 hlinked
    obtain ⟨hitem, hdomain⟩ := of_decide_eq_true hp
    obtain ⟨domain, hget, horigin⟩ := (Option.any_eq_true _ _).1 hdomain
    refine ⟨(link.domainId, domain), mem_select.2 ⟨hget, decide_eq_true
      ⟨List.mem_map.2 ⟨(i, link), mem_select.2 ⟨hlink, decide_eq_true ?_⟩, rfl⟩,
        of_decide_eq_true horigin⟩⟩, i, link, hlink, rfl, hitem⟩
    exact (hexisting i link hlink).2 (hitem ▸ hin)
  · rintro ⟨i, a⟩ ha ⟨j, b⟩ hb itemId - ⟨x, link, hx, hxid, hxitem⟩ ⟨y, link', hy, hyid, hyitem⟩
    obtain rfl := hkeys.link x y link link' hx hy (.inr (hxitem.trans hyitem.symm))
    obtain rfl := Option.mem_unique hx hy
    obtain rfl : i = j := hxid.symm.trans hyid
    exact congrArg (Prod.mk i)
      (Option.some.inj ((mem_select.1 ha).1.symm.trans (mem_select.1 hb).1))
  · rintro itemId - itemId' - ⟨i, a⟩ - ⟨x, link, hx, hxid, hxitem⟩ ⟨y, link', hy, hyid, hyitem⟩
    obtain rfl := hkeys.link x y link link' hx hy (.inl (hxid.trans hyid.symm))
    obtain rfl := Option.mem_unique hx hy
    exact hxitem.symm.trans hyitem

theorem FulfilmentKeys.complete_of_fulfilled (hkeys : FulfilmentKeys db)
    (hitems : ∃ itemId item, db.orderItems.get? itemId = some item ∧ item.orderId = orderId)
    (h : OrderFulfilled db orderId) : db.orderFulfillmentComplete orderId = true := by
  have hdelivered (entry : RowId × OrderItem) (hmem : entry ∈ db.itemsOfOrder orderId) :
      ItemFulfilled db entry.1 entry.2 := by
    obtain ⟨hitem, horderId⟩ := mem_itemsOfOrder.1 hmem
    exact h entry.1 entry.2 hitem horderId
  have hnonempty : db.itemsOfOrder orderId ≠ [] := by
    obtain ⟨itemId, item, hitem, horderId⟩ := hitems
    exact List.ne_nil_of_mem (mem_itemsOfOrder.2 ⟨hitem, horderId⟩)
  rw [Database.orderFulfillmentComplete]
  simp only [Bool.and_eq_true, Bool.or_eq_true, Bool.not_eq_true', List.all_eq_true,
    beq_iff_eq, List.isEmpty_eq_false_iff]
  refine ⟨⟨hnonempty, fun entry hmem => ?_⟩, .inr ?_⟩
  · have hitem := hdelivered entry hmem
    refine decide_eq_false ?_
    rintro (⟨hkind, hinactive⟩ | ⟨hkind, hnone⟩)
    · rw [ItemFulfilled, hkind] at hitem
      obtain ⟨id, service, hservice, hitemId, hactive⟩ := hitem
      rw [hkeys.hostingActive hservice hitemId hactive] at hinactive
      exact nomatch hinactive
    · rw [ItemFulfilled, hkind] at hitem
      simp only [hnone, Option.isSome_none] at hitem
      exact nomatch hitem
  · -- Each domain item has a registered domain or an existing one, and never both.
    have hnodup : (((db.itemsOfOrder orderId).filter fun entry => entry.2.kind = .domain).map
        Prod.fst).Nodup :=
      (db.orderItems.nodup_select _).sublist (List.filter_sublist.map _)
    have hexclusive (itemId : RowId) (hmem : itemId ∈ ((db.itemsOfOrder orderId).filter fun entry =>
        entry.2.kind = .domain).map Prod.fst) :
        db.existingDomainLinked itemId = !db.domainRegistered itemId := by
      obtain ⟨entry, hentry, rfl⟩ := List.mem_map.1 hmem
      obtain ⟨hin, hkind⟩ := List.mem_filter.1 hentry
      have hitem := hdelivered entry hin
      rw [ItemFulfilled, of_decide_eq_true hkind] at hitem
      cases hregistered : db.domainRegistered entry.1 with
      | false => exact hitem.resolve_left (by simp [hregistered])
      | true =>
        refine any_eq_false.2 fun i link hlink => decide_eq_false fun hlinked => ?_
        obtain ⟨id, domain, hdomain, hp⟩ := any_eq_true.1 hregistered
        exact hkeys.linkDomain i link id domain hlink hdomain
          (hlinked.1.symm ▸ (of_decide_eq_true hp).1)
    rw [hkeys.registered_length hnodup, hkeys.linked_length hnodup fun i link hlink => ?_,
      List.filter_congr hexclusive, ← List.length_eq_length_filter_add]
    rw [List.mem_map, List.mem_map]
    refine exists_congr fun entry => and_congr_left fun hid => ?_
    rw [List.mem_filter, List.mem_filter, decide_eq_true_eq, decide_eq_true_eq]
    refine and_congr_right fun hin => and_iff_left_of_imp fun _ => ?_
    exact hkeys.linkItem i link entry.2 hlink (hid ▸ (mem_itemsOfOrder.1 hin).1)

theorem fulfilled_of_guard (db : Database)
    (hguard : db.domainOrderGuard orderId .completed = .ok ())
    (haddOns : (db.itemsOfOrder orderId).any (·.2.kind = .addOn) = true →
      db.orderFulfillmentComplete orderId = true) : OrderFulfilled db orderId := by
  intro itemId item hitem horderId
  have hmem := mem_itemsOfOrder.2 ⟨hitem, horderId⟩
  simp only [Database.domainOrderGuard, eq_ok] at hguard
  obtain ⟨hdomains, hhosting, -⟩ := hguard
  cases hkind : item.kind with
  | hosting => exact itemFulfilled_hostingActive hkind (hhosting trivial (itemId, item) hmem hkind)
  | domain =>
    rw [ItemFulfilled, hkind]
    exact hdomains trivial (itemId, item) hmem hkind
  | addOn =>
    have hcomplete := haddOns (List.any_eq_true.2 ⟨(itemId, item), hmem, by simp [hkind]⟩)
    simp only [Database.orderFulfillmentComplete, Bool.and_eq_true, List.all_eq_true] at hcomplete
    have hdone := hcomplete.1.2 (itemId, item) hmem
    rw [ItemFulfilled, hkind]
    simpa [hkind, Option.isSome_iff_ne_none] using hdone

/-! ## Deliveries -/

theorem ItemFulfilled.transfer {item' : OrderItem}
    (h : ItemFulfilled db' itemId item') (hkind : item'.kind = item.kind)
    (hservices : ∀ id service', db'.services.get? id = some service' →
      service'.orderItemId = some itemId → service'.status = .active →
        ∃ service, db.services.get? id = some service ∧ service.orderItemId = some itemId ∧
          service.status = .active)
    (hregistered : db'.domainRegistered itemId = true → db.domainRegistered itemId = true)
    (hlinked : db'.existingDomainLinked itemId = true → db.existingDomainLinked itemId = true)
    (haddOn : item'.fulfilledAt.isSome = true → item.fulfilledAt.isSome = true) :
    ItemFulfilled db itemId item := by
  rw [ItemFulfilled, hkind] at h
  rw [ItemFulfilled]
  cases hitem : item.kind with
  | hosting =>
    rw [hitem] at h
    obtain ⟨id, service', hservice', hitemId, hactive⟩ := h
    obtain ⟨service, hservice⟩ := hservices id service' hservice' hitemId hactive
    exact ⟨id, service, hservice⟩
  | domain =>
    rw [hitem] at h
    exact h.imp hregistered hlinked
  | addOn =>
    rw [hitem] at h
    exact haddOn h

/-- Every order has an item. -/
def OrdersHaveItems (db : Database) : Prop :=
  ∀ orderId order, db.orders.get? orderId = some order →
    ∃ itemId item, db.orderItems.get? itemId = some item ∧ item.orderId = orderId

/-- No order whose items are all fulfilled is left processing. -/
def NoneForgotten (db : Database) : Prop :=
  ∀ orderId order, db.orders.get? orderId = some order → order.status = .processing →
    ¬ OrderFulfilled db orderId

def OthersFulfilled (db : Database) (orderId itemId : RowId) : Prop :=
  ∀ other item, db.orderItems.get? other = some item → item.orderId = orderId ∧ other ≠ itemId →
    ItemFulfilled db other item
deriving Decidable

/-- An order becomes completed when all its items are fulfilled. -/
def CompletedFulfilled (db db' : Database) : Prop :=
  ∀ orderId order', db'.orders.get? orderId = some order' → order'.status = .completed →
    (∃ order, db.orders.get? orderId = some order ∧ order.status = .completed) ∨
      OrderFulfilled db' orderId

theorem SameOrderTables.fulfilled_iff (h : SameOrderTables db db') :
    OrderFulfilled db' orderId ↔ OrderFulfilled db orderId := by
  obtain ⟨-, hitems, hservices, hdomains, hlinks, -⟩ := h
  simp only [OrderFulfilled, ItemFulfilled, Database.domainRegistered, Database.existingDomainLinked,
    hitems, hservices, hdomains, hlinks]

theorem ItemFulfilled.of_service {serviceId : RowId} {f : Service → Service} (hkeeps : KeepsItem f)
    (hother : ∀ service, db.services.get? serviceId = some service →
      service.orderItemId ≠ some itemId)
    (h : ItemFulfilled { db with services := db.services.update serviceId f } itemId item) :
    ItemFulfilled db itemId item := by
  refine h.transfer rfl (fun id service' hservice' hitemId hactive => ?_) id id id
  rcases get?_update_cases hservice' with ⟨rfl, service, hservice, rfl⟩ | ⟨-, hsame⟩
  · exact absurd ((hkeeps service).symm.trans hitemId) (hother service hservice)
  · exact ⟨service', hsame, hitemId, hactive⟩

theorem ItemFulfilled.of_recorded {job : Job} {found : Option RegistrarObservation}
    {operations : Table RegistrarOperation} {domain : Domain}
    (hdomain : db.domains.get? job.domainId = some domain)
    (hjob : domain.orderItemId = some job.orderItemId) (hother : job.orderItemId ≠ itemId)
    (horigin : (recordedDomain found domain).origin ≠ .existing)
    (h : ItemFulfilled (recorded job found operations db) itemId item) :
    ItemFulfilled db itemId item := by
  refine h.transfer rfl (fun _ service' hservice' hitemId hactive =>
    ⟨service', hservice', hitemId, hactive⟩) (fun hregistered => ?_) (fun hlinked => ?_) id
  · obtain ⟨id, domain', hdomain', hp⟩ := any_eq_true.1 hregistered
    rcases get?_update_cases hdomain' with ⟨rfl, row, hrow, rfl⟩ | ⟨-, hsame⟩
    · obtain rfl := Option.mem_unique hdomain hrow
      have hitemId := (of_decide_eq_true hp).1
      rw [recordedDomain_orderItemId, hjob, Option.some.injEq] at hitemId
      exact absurd hitemId hother
    · exact any_eq_true.2 ⟨id, domain', hsame, hp⟩
  · obtain ⟨i, link, hlink, hp⟩ := any_eq_true.1 hlinked
    obtain ⟨hitemId, hexisting⟩ := of_decide_eq_true hp
    obtain ⟨domain', hdomain', hq⟩ := (Option.any_eq_true _ _).1 hexisting
    refine any_eq_true.2 ⟨i, link, hlink, decide_eq_true ⟨hitemId, ?_⟩⟩
    rcases get?_update_cases hdomain' with ⟨-, row, hrow, rfl⟩ | ⟨-, hsame⟩
    · obtain rfl := Option.mem_unique hdomain hrow
      exact absurd (of_decide_eq_true hq).1 horigin
    · exact (Option.any_eq_true _ _).2 ⟨domain', hsame, hq⟩

theorem NoneForgotten.checked {mid : Database} {now : ℕ} {itemId? : Option RowId}
    {orders : Table Order} (h : NoneForgotten db)
    (hcomplete : ∀ orderId, OrderFulfilled db' orderId → (db'.orders.get? orderId).isSome →
      db'.orderFulfillmentComplete orderId = true)
    (hchecked : CompletionChecked now itemId? mid orders) (horders : mid.orders = db.orders)
    (hothers : ∀ orderId, (∀ itemId item, itemId? = some itemId →
        mid.orderItems.get? itemId = some item → item.orderId ≠ orderId) →
      OrderFulfilled mid orderId → OrderFulfilled db orderId)
    (hsame : SameOrderTables { mid with orders := orders } db') : NoneForgotten db' := by
  intro orderId order horder hstatus hfulfilled
  have hmid : OrderFulfilled mid orderId := hsame.fulfilled_iff.1 hfulfilled
  have hcomplete' := hcomplete orderId hfulfilled (Option.isSome_iff_exists.2 ⟨order, horder⟩)
  rw [hsame.orders] at horder
  by_cases hdelivered : ∃ itemId item, itemId? = some itemId ∧
      mid.orderItems.get? itemId = some item ∧ item.orderId = orderId
  · obtain ⟨itemId, item, hitemId, hitem, rfl⟩ := hdelivered
    cases hchecked with
    | @completed itemId' item' order' hitemId' hitem' horder' hstatus' hcomplete' hguard =>
      obtain rfl := Option.mem_unique hitemId hitemId'
      obtain rfl := Option.mem_unique hitem hitem'
      rw [get?_update_self horder', Option.some.injEq] at horder
      rw [← horder] at hstatus
      exact nomatch hstatus
    | left hleft =>
      have hincomplete := hleft itemId item order hitemId hitem horder hstatus
      exact nomatch ((hsame.complete_eq _).symm.trans hcomplete').symm.trans hincomplete
  · have hother : OrderFulfilled db orderId := by
      refine hothers orderId (fun itemId item hitemId hitem horderId => ?_) hmid
      exact hdelivered ⟨itemId, item, hitemId, hitem, horderId⟩
    refine h orderId order ?_ hstatus hother
    rw [← horders]
    cases hchecked with
    | @completed itemId' item' order' hitemId' hitem' horder' hstatus' hcomplete' hguard =>
      have hne : item'.orderId ≠ orderId := fun horderId =>
        hdelivered ⟨itemId', item', hitemId', hitem', horderId⟩
      rwa [get?_update_of_ne hne] at horder
    | left _ => exact horder

end

/-! ## Steps -/

section

variable {lib : Libraries} {settings : RegistrarSettings} {w : World} {db db' : Database}
  {op : OrderOperation} {l : (orderOperations lib settings op).Local}

variable (lib settings) in
def startsProcessing : (op : OrderOperation) → (orderOperations lib settings op).Local → Option RowId
  | .billing (.ledger .updateStatus), .transact request _ _ =>
    if request.status = .processing then some request.orderId else none
  | _, _ => none

/-- The step does not deliver the last item of a processed order by an unsuspension, and starts to
process no order that has everything. -/
def CompletionKept (_ : World) (db : Database) (t : Thread (orderOperations lib settings)) : Prop :=
  (∀ serviceId ∈ resumedService lib settings db t.op t.loc,
    ∀ service ∈ db.services.get? serviceId, ∀ itemId ∈ service.orderItemId,
    ∀ item ∈ db.orderItems.get? itemId, ∀ order ∈ db.orders.get? item.orderId,
      order.status = .processing → ¬ OthersFulfilled db item.orderId itemId) ∧
  ∀ orderId ∈ startsProcessing lib settings t.op t.loc, ¬ OrderFulfilled db orderId
deriving Decidable

def createsHosting (db : Database) :
    (op : OrderOperation) → (orderOperations lib settings op).Local → Prop
  | .billing .createService, .commit input _ item _ => ∃ row,
      db.orderItems.get? input.orderItemId = some row ∧ row.line = item.line ∧ row.kind = .hosting
  | _, _ => True

theorem OrderEffect.orders_keep (h : OrderEffect lib settings w db op l db') :
    Table.Keeps (fun _ => ()) db.orders db'.orders := by
  have hupdate (id : ℕ) (f : Order → Order) :
      Table.Keeps (fun _ => ()) db.orders (db.orders.update id f) :=
    keeps_update fun _ _ => rfl
  have hchecked {mid : Database} {itemId : Option RowId} {orders : Table Order}
      (hchecked : CompletionChecked w.now itemId mid orders) (hmid : mid.orders = db.orders) :
      Table.Keeps (fun _ => ()) db.orders orders := by
    cases hchecked with
    | completed _ _ _ _ _ _ => exact hmid ▸ hupdate _ _
    | left _ => exact hmid ▸ Keeps.refl _ _
  cases h with
  | activated _ _ hcheck hsame | fulfilled hcheck hsame => exact hsame.orders ▸ hchecked hcheck rfl
  | settled hsettled hsame =>
    rw [hsame.orders]
    rcases hsettled with rfl | ⟨id, order, -, -, -, rfl⟩
    · exact Keeps.refl _ _
    · exact hupdate _ _
  | created horders _ hsame =>
    rw [hsame.orders]
    rcases horders with rfl | ⟨-, rfl⟩
    · exact Keeps.refl _ _
    · exact hupdate _ _
  | cancelled _ _ hsame | decided _ _ hsame | registered _ _ _ _ _ _ _ _ _ hsame =>
    rw [hsame.orders]
    exact hupdate _ _
  | quiet _ hsame | resumed _ _ hsame | ended hsame | registrar _ _ _ hsame =>
    rw [hsame.orders]
    exact Keeps.refl _ _

theorem OrdersHaveItems.step (hitems : OrdersHaveItems db)
    (h : OrderEffect lib settings w db op l db') : OrdersHaveItems db' := by
  intro orderId order' horder'
  obtain ⟨order, horder, -⟩ := h.orders_keep orderId order' horder'
  obtain ⟨itemId, item, hitem, horderId⟩ := hitems orderId order horder
  obtain ⟨item', hitem', hline⟩ := h.items_stay hitem
  exact ⟨itemId, item', hitem', (OrderItem.line_eq hline).1.trans horderId⟩

theorem NoneForgotten.step (h : NoneForgotten db) (hkeys : FulfilmentKeys db')
    (hitems : OrdersHaveItems db') (hcreates : createsHosting db op l) (hknown : jobKnown db op l)
    (hkept : CompletionKept w db ⟨op, l⟩) (heffect : OrderEffect lib settings w db op l db') :
    NoneForgotten db' := by
  have hcomplete (orderId : RowId) (hfulfilled : OrderFulfilled db' orderId)
      (horder : (db'.orders.get? orderId).isSome) : db'.orderFulfillmentComplete orderId = true := by
    obtain ⟨order, horder⟩ := Option.isSome_iff_exists.1 horder
    exact hkeys.complete_of_fulfilled (hitems orderId order horder) hfulfilled
  -- A step that delivers nothing and processes no further order forgets none.
  have hquiet (hdelivered : ∀ orderId, OrderFulfilled db' orderId → OrderFulfilled db orderId)
      (hprocessed : ∀ orderId order', db'.orders.get? orderId = some order' →
        order'.status = .processing → ∃ order, db.orders.get? orderId = some order ∧
          order.status = .processing) : NoneForgotten db' := by
    intro orderId order' horder' hstatus' hfulfilled
    obtain ⟨order, horder, hstatus⟩ := hprocessed orderId order' horder' hstatus'
    exact h orderId order horder hstatus (hdelivered orderId hfulfilled)
  have hupdated {id : ℕ} {f : Order → Order} {next : OrderStatus}
      (hf : ∀ order, (f order).status = next) (hnext : next ≠ .processing) (orderId : RowId)
      (order' : Order) (horder' : (db.orders.update id f).get? orderId = some order')
      (hstatus : order'.status = .processing) : ∃ order, db.orders.get? orderId = some order ∧
        order.status = .processing := by
    rcases get?_update_cases horder' with ⟨-, order, -, rfl⟩ | ⟨-, hsame⟩
    · exact absurd ((hf order).symm.trans hstatus) hnext
    · exact ⟨order', hsame, hstatus⟩
  cases heffect with
  | @quiet op l db' services hservices hsame =>
    refine hquiet (fun orderId hfulfilled itemId item hitem horderId => ?_)
      fun orderId order horder hstatus => ⟨order, hsame.orders ▸ horder, hstatus⟩
    refine (hsame.fulfilled_iff.1 hfulfilled itemId item hitem horderId).transfer rfl ?_ id id id
    intro id service' hservice' hitemId hactive
    obtain ⟨service, hservice, hsameItem, hwas⟩ := hservices id service' hservice'
    exact ⟨service, hservice, hsameItem ▸ hitemId, hwas hactive⟩
  | @activated op l db' serviceId service f orders hservice hkeeps hchecked hsame =>
    refine h.checked hcomplete hchecked rfl ?_ hsame
    intro orderId hother hfulfilled itemId item hitem horderId
    refine (hfulfilled itemId item hitem horderId).of_service hkeeps fun row hrow hitemId => ?_
    rw [hservice, Option.some.injEq] at hrow
    exact hother itemId item (hrow ▸ hitemId) hitem horderId
  | @resumed op l db' serviceId f hresumed hkeeps hsame =>
    intro orderId order horder hstatus hfulfilled
    have horder₀ : db.orders.get? orderId = some order := hsame.orders ▸ horder
    have hmid := hsame.fulfilled_iff.1 hfulfilled
    by_cases hdelivered : ∃ service itemId item, db.services.get? serviceId = some service ∧
        service.orderItemId = some itemId ∧ db.orderItems.get? itemId = some item ∧
        item.orderId = orderId
    · obtain ⟨service, itemId, item, hservice, hitemId, hitem, rfl⟩ := hdelivered
      refine hkept.1 serviceId hresumed service hservice itemId hitemId item hitem order horder₀
        hstatus fun other item' hitem' ⟨horderId, hne⟩ => ?_
      refine (hmid other item' hitem' horderId).of_service hkeeps fun row hrow hother => ?_
      rw [hservice, Option.some.injEq] at hrow
      rw [← hrow, hitemId, Option.some.injEq] at hother
      exact hne hother.symm
    · refine h orderId order horder₀ hstatus fun itemId item hitem horderId => ?_
      refine (hmid itemId item hitem horderId).of_service hkeeps fun service hservice hitemId => ?_
      exact hdelivered ⟨service, itemId, item, hservice, hitemId, hitem, horderId⟩
  | @fulfilled op l db' itemId orders hchecked hsame =>
    refine h.checked hcomplete hchecked rfl ?_ hsame
    intro orderId hother hfulfilled other item hitem horderId
    by_cases hid : itemId = other
    · subst hid
      exact absurd horderId
        (hother itemId { item with fulfilledAt := some w.now } rfl (get?_update_self hitem))
    · exact hfulfilled other item ((get?_update_of_ne hid).trans hitem) horderId
  | @ended op l db' itemId endAt hsame =>
    refine hquiet (fun orderId hfulfilled other item hitem horderId => ?_)
      fun orderId order horder hstatus => ⟨order, hsame.orders ▸ horder, hstatus⟩
    have hmid := hsame.fulfilled_iff.1 hfulfilled
    by_cases hid : itemId = other
    · subst hid
      exact hmid itemId (ServiceAddOnsService.endRenewal endAt item) (get?_update_self hitem)
        horderId
    · exact hmid other item ((get?_update_of_ne hid).trans hitem) horderId
  | settled hsettled hsame =>
    refine hquiet (fun orderId => hsame.fulfilled_iff.1) ?_
    rw [hsame.orders]
    rcases hsettled with rfl | ⟨id, order, -, -, -, rfl⟩
    · exact fun _ order horder hstatus => ⟨order, horder, hstatus⟩
    · exact hupdated (fun _ => rfl) nofun
  | cancelled _ _ hsame =>
    refine hquiet (fun orderId => hsame.fulfilled_iff.1) ?_
    rw [hsame.orders]
    exact hupdated (fun _ => rfl) nofun
  | @decided db' request current decidedAt hguard hfulfilled hsame =>
    by_cases hstatus : request.status = .processing
    · intro orderId order horder hprocessing hdelivered
      rw [hsame.orders] at horder
      have hbefore : OrderFulfilled db orderId := hsame.fulfilled_iff.1 hdelivered
      by_cases hid : request.orderId = orderId
      · refine hkept.2 request.orderId ?_ (hid ▸ hbefore)
        simp only [startsProcessing, if_pos hstatus, Option.mem_def]
      · rw [get?_update_of_ne hid] at horder
        exact h orderId order horder hprocessing hbefore
    · refine hquiet (fun orderId => hsame.fulfilled_iff.1) ?_
      rw [hsame.orders]
      exact hupdated (fun _ => rfl) hstatus
  | @created db' input activeAdapter item order orders horders hfresh hsame =>
    intro orderId order' horder' hprocessing hfulfilled
    rw [hsame.orders] at horder'
    have hbefore : OrderFulfilled db orderId := by
      intro itemId item' hitem' horderId
      refine (hsame.fulfilled_iff.1 hfulfilled itemId item' hitem' horderId).transfer rfl ?_ id id id
      intro id service hservice hitemId hactive
      rcases get?_insert_cases hservice with ⟨-, rfl⟩ | hold
      · exact nomatch hactive
      · exact ⟨service, hold, hitemId, hactive⟩
    rcases horders with rfl | ⟨-, rfl⟩
    · exact h orderId order' horder' hprocessing hbefore
    · rcases get?_update_cases horder' with ⟨rfl, -⟩ | ⟨-, hold⟩
      · -- The item that gets the service had no active one.
        obtain ⟨row, hrow, hline, hkind⟩ := hcreates
        have hitem := hbefore input.orderItemId row hrow (OrderItem.line_eq hline).1
        rw [ItemFulfilled, hkind] at hitem
        obtain ⟨id, service, hservice, hitemId, -⟩ := hitem
        exact hfresh id service hservice hitemId
      · exact h orderId order' hold hprocessing hbefore
  | @registrar op l db' kind m hwrites hdomains hclaims hsame =>
    refine hquiet (fun orderId hfulfilled itemId item hitem horderId => ?_)
      fun orderId order horder hstatus => ⟨order, hsame.orders ▸ horder, hstatus⟩
    refine (hsame.fulfilled_iff.1 hfulfilled itemId item hitem horderId).transfer rfl
      (fun _ service hservice hitemId hactive => ⟨service, hservice, hitemId, hactive⟩)
      (fun hregistered => ?_) (fun hlinked => ?_) id
    · obtain ⟨id, domain', hdomain', hp⟩ := any_eq_true.1 hregistered
      obtain ⟨hitemId, hstate⟩ := of_decide_eq_true hp
      obtain ⟨domain, hdomain, hsameItem, -, hwas⟩ := hdomains id domain' hdomain'
      exact any_eq_true.2 ⟨id, domain, hdomain, decide_eq_true ⟨hsameItem ▸ hitemId, hwas hstate⟩⟩
    · obtain ⟨i, link, hlink, hp⟩ := any_eq_true.1 hlinked
      obtain ⟨hitemId, hexisting⟩ := of_decide_eq_true hp
      obtain ⟨domain', hdomain', hq⟩ := (Option.any_eq_true _ _).1 hexisting
      obtain ⟨horigin, hstate⟩ := of_decide_eq_true hq
      obtain ⟨domain, hdomain, -, hsameOrigin, hwas⟩ := hdomains _ domain' hdomain'
      exact any_eq_true.2 ⟨i, link, hlink, decide_eq_true ⟨hitemId, (Option.any_eq_true _ _).2
        ⟨domain, hdomain, decide_eq_true ⟨hsameOrigin ▸ horigin, hwas hstate⟩⟩⟩⟩
  | @registered db' job observation found operations domain item status f m hwrites hclaims hdomain
      hopen hkeeps horigin hitem hf hstatus hsame =>
    intro orderId order' horder' hprocessing hfulfilled
    have hcomplete' := hcomplete orderId hfulfilled (Option.isSome_iff_exists.2 ⟨order', horder'⟩)
    have hmid : OrderFulfilled (recorded job found operations db) orderId :=
      hsame.fulfilled_iff.1 hfulfilled
    rw [hsame.orders] at horder'
    rcases get?_update_cases horder' with ⟨rfl, order, -, rfl⟩ | ⟨hne, hold⟩
    · rw [hf order] at hprocessing
      rcases hstatus with ⟨rfl, -⟩ | ⟨-, hincomplete⟩
      · exact nomatch hprocessing
      · exact nomatch ((hsame.complete_eq _).symm.trans hcomplete').symm.trans hincomplete
    · obtain ⟨operation, domain', -, -, -, hdomain', hjob⟩ := hknown job rfl
      obtain rfl := Option.mem_unique hdomain hdomain'
      refine h orderId order' hold hprocessing fun itemId item' hitem' horderId => ?_
      refine (hmid itemId item' hitem' horderId).of_recorded hdomain hjob ?_
        (horigin (by rw [hjob]; rfl))
      rintro rfl
      rw [hitem, Option.some.injEq] at hitem'
      exact hne (hitem' ▸ horderId)

theorem completedFulfilled_of_effect (heffect : OrderEffect lib settings w db op l db') :
    CompletedFulfilled db db' := by
  -- A step that completes no further order.
  have hupdated {id : ℕ} {f : Order → Order} (horders : db'.orders = db.orders.update id f)
      (hf : ∀ order, (f order).status = .completed → OrderFulfilled db' id) :
      CompletedFulfilled db db' := by
    intro orderId order' horder' hstatus
    rw [horders] at horder'
    rcases get?_update_cases horder' with ⟨rfl, order, -, rfl⟩ | ⟨-, hold⟩
    · exact .inr (hf order hstatus)
    · exact .inl ⟨order', hold, hstatus⟩
  have hkept (horders : db'.orders = db.orders) : CompletedFulfilled db db' :=
    fun orderId order horder hstatus => .inl ⟨order, horders ▸ horder, hstatus⟩
  have hchecked {mid : Database} {itemId : Option RowId} {orders : Table Order}
      (hchecked : CompletionChecked w.now itemId mid orders) (hmid : mid.orders = db.orders)
      (hsame : SameOrderTables { mid with orders := orders } db') : CompletedFulfilled db db' := by
    cases hchecked with
    | completed _ _ _ _ hcomplete hguard =>
      refine hupdated (hsame.orders.trans (by rw [hmid])) fun _ _ => ?_
      exact hsame.fulfilled_iff.2 (fulfilled_of_guard mid hguard fun _ => hcomplete)
    | left _ => exact hkept (hsame.orders.trans hmid)
  cases heffect with
  | quiet _ hsame | resumed _ _ hsame | ended hsame | registrar _ _ _ hsame =>
    exact hkept hsame.orders
  | activated _ _ hcheck hsame | fulfilled hcheck hsame => exact hchecked hcheck rfl hsame
  | settled hsettled hsame =>
    rcases hsettled with rfl | ⟨id, order, -, -, -, rfl⟩
    · exact hkept hsame.orders
    · exact hupdated hsame.orders fun _ hstatus => nomatch hstatus
  | cancelled _ _ hsame => exact hupdated hsame.orders fun _ hstatus => nomatch hstatus
  | @decided db' request current decidedAt hguard hfulfilled hsame =>
    refine hupdated hsame.orders fun order hstatus => hsame.fulfilled_iff.2 ?_
    have hcompleted : request.status = .completed := hstatus
    rw [OrderService.requireFulfilled, require_eq_ok] at hfulfilled
    exact fulfilled_of_guard db (hcompleted ▸ hguard) (hfulfilled hcompleted)
  | created horders _ hsame =>
    rcases horders with rfl | ⟨-, rfl⟩
    · exact hkept hsame.orders
    · exact hupdated hsame.orders fun _ hstatus => nomatch hstatus
  | @registered db' job observation found operations domain item status f m _ _ _ _ _ _ _ hf hstatus
      hsame =>
    refine hupdated hsame.orders fun order hcompleted => hsame.fulfilled_iff.2 ?_
    rw [hf order] at hcompleted
    rcases hstatus with ⟨-, hguard, hcomplete⟩ | ⟨rfl, -⟩
    · exact fulfilled_of_guard (recorded job found operations db) hguard fun _ => hcomplete
    · exact nomatch hcompleted

/-! ## Runs -/

theorem createsHosting_begin (db : Database) (op : OrderOperation)
    (request : (orderOperations lib settings op).Request) :
    createsHosting db op ((orderOperations lib settings op).start request) := by
  cases op with
  | billing op => cases op <;> trivial
  | approve | reconcile | process => trivial

theorem createsHosting_step {l l' : (orderOperations lib settings op).Local}
    (h : (orderOperations lib settings op).step w db l = some (db', l')) :
    createsHosting db' op l' := by
  cases op with
  | billing op =>
    cases op with
    | createService =>
      cases l' with
      | commit input activeAdapter item order =>
        obtain ⟨hkind, -, row, hrow, hstays⟩ :=
          billingAssertion_step lib .createService l _ h
        rw [ItemStays] at hstays
        exact ⟨row, hrow, by rw [hstays]; rfl, by rw [hstays]; exact hkind⟩
      | read | readItem | race | done => trivial
    | ledger | hosting | fulfillAddOn | cancelAddOn | processOpenRenewals | processPayment
    | dispatchOutbox => trivial
  | approve | reconcile | process => trivial

theorem createsHosting_other {op' : OrderOperation} {l' : (orderOperations lib settings op').Local}
    (heffect : OrderEffect lib settings w db op l db') (h : createsHosting db op' l') :
    createsHosting db' op' l' := by
  cases op' with
  | billing op' =>
    cases op' with
    | createService =>
      cases l' with
      | commit input activeAdapter item order =>
        obtain ⟨row, hrow, hline, hkind⟩ := h
        obtain ⟨row', hrow', hline'⟩ := heffect.items_stay hrow
        exact ⟨row', hrow', hline'.trans hline, (OrderItem.line_eq hline').2.1.trans hkind⟩
      | read | readItem | race | done => trivial
    | ledger | hosting | fulfillAddOn | cancelAddOn | processOpenRenewals | processPayment
    | dispatchOutbox => trivial
  | approve | reconcile | process => trivial

variable (lib settings)

def completionOutline : Outline (orderOperations lib settings) :=
  (orderOutline lib settings).extend (fun db => OrdersHaveItems db ∧ NoneForgotten db)
    fun db t => createsHosting db t.op t.loc

theorem completionOutline_sound : (completionOutline lib settings).Sound CompletionKept := by
  refine ((orderOutline_sound lib settings).mono fun _ _ _ _ => trivial).extend
    (fun db op request _ => createsHosting_begin db op request) ?_ ?_
  · intro w db t db' t' hkept hkeys hknown hopen hcreates hstep
    obtain ⟨l, hl, rfl⟩ := Thread.step_eq_some hstep
    have heffect := orderEffect_of_step t.op hl
    have hitems := hopen.1.step heffect
    exact ⟨⟨hitems, hopen.2.step (hkeys.step heffect) hitems hcreates hknown hkept heffect⟩,
      createsHosting_step hl⟩
  · intro w db t db' t' u _ _ _ _ _ hu hstep
    obtain ⟨l, hl, rfl⟩ := Thread.step_eq_some hstep
    exact createsHosting_other (orderEffect_of_step t.op hl) hu

variable {lib settings}

/-- **An order is completed exactly when everything was delivered**: every step of every run that
completes an order finds it delivered, and after a run that keeps the completion no processed order
is. -/
theorem orders_completed_exactly {db : Database} (hkeys : FulfilmentKeys db)
    (hitems : OrdersHaveItems db) (hopen : NoneForgotten db)
    {c : Config (orderOperations lib settings)} :
    (∀ c', Config.Step anyStep c c' → CompletedFulfilled c.shared c'.shared) ∧
      (Reaches CompletionKept ⟨db, []⟩ c → NoneForgotten c.shared) := by
  constructor
  · intro c' hstep
    cases hstep with
    | call op request => exact fun orderId order horder hstatus => .inl ⟨order, horder, hstatus⟩
    | advance ht _ hs =>
      obtain ⟨l, hl, -⟩ := Thread.step_eq_some hs
      exact completedFulfilled_of_effect (orderEffect_of_step _ hl)
  · intro hr
    exact ((completionOutline_sound lib settings).holds
      (Outline.holds_idle ⟨hkeys, hitems, hopen⟩) hr).shared.2.2

end

/-! ### An order that is forgotten, and one that is completed -/

def hostingWithAddOn : Database where
  users := ⟨[{ role := .admin }]⟩
  customers := ⟨[{ userId := 0 }]⟩
  orders := ⟨[{ customerId := 0, status := .processing, updatedAt := 0 }]⟩
  orderItems := ⟨[
    { orderId := 0, currency := "BDT", unitAmount := 100, lineTotal := 100 },
    { orderId := 0, kind := .addOn, currency := "BDT", unitAmount := 10, lineTotal := 10 }]⟩
  servers := ⟨[{ adapterKey := "fake-panel" }]⟩
  services := ⟨[{
    customerId := 0, orderItemId := some 0, serverId := 0, status := .active, domain := some "a.b"
    packageIdentifier := some "p", externalAccountId := some "x", controlPanelUsername := some "u"
    recurringAmount := 100, currency := "BDT", startedAt := 0, nextDueAt := 10, updatedAt := 0 }]⟩
  invoices := ⟨[{
    submissionKey := "invoice:order", customerId := 0, orderId := some 0, status := .paid
    currency := "BDT", subtotal := 110, total := 110, amountPaid := 110, balanceDue := 0
    dueAt := 5, updatedAt := 0, items := [] }]⟩

def runPanel (position : ℕ) (submissionKey : String)
    (input : HostingPanelService.HostingOperationInput) (state : HostingAccountState) :
    List (Move plainOrders) :=
  .call (.billing (.hosting .execute))
      (⟨0, ⟨submissionKey, input⟩, .admin, 0⟩ : HostingPanelService.ExecuteRequest) ::
    List.replicate 4 (.advance position
      { panelResult := .ok { account := some ⟨"x", "u", "a.b", state⟩ } })

def suspendAccount (position : ℕ) : List (Move plainOrders) :=
  runPanel position "s" (.suspendAccount "by hand") .suspended

def unsuspendAccount (position : ℕ) : List (Move plainOrders) :=
  runPanel position "u" .unsuspendAccount .active

def fulfilAddOn (position : ℕ) : List (Move plainOrders) :=
  [.call (.billing .fulfillAddOn) (⟨0, 1⟩ : OrderService.FulfillAddOnRequest), .advance position {}]

def fulfilWhileSuspended : List (Move plainOrders) :=
  suspendAccount 0 ++ fulfilAddOn 1 ++ unsuspendAccount 2

def forgottenOrder : Config plainOrders :=
  Config.after ⟨hostingWithAddOn, []⟩ fulfilWhileSuspended (by decide +kernel)

/-- All operations have ended, everything was delivered, and the order is still processed. -/
theorem unsuspension_forgets_order :
    Config.run ⟨hostingWithAddOn, []⟩ fulfilWhileSuspended = some forgottenOrder ∧
      (forgottenOrder.threads.all fun t => (t.step {} forgottenOrder.shared).isNone) = true ∧
      (forgottenOrder.shared.orders.get? 0).map Order.status = some .processing ∧
      OrderFulfilled forgottenOrder.shared 0 ∧ ¬ NoneForgotten forgottenOrder.shared := by
  have hprocessing : (forgottenOrder.shared.orders.get? 0).map Order.status = some .processing := by
    decide +kernel
  have hfulfilled : OrderFulfilled forgottenOrder.shared 0 := by
    decide +kernel
  obtain ⟨order, horder, hstatus⟩ := Option.map_eq_some_iff.1 hprocessing
  exact ⟨run_eq_after _, by decide +kernel, hprocessing, hfulfilled,
    fun h => h 0 order horder hstatus hfulfilled⟩

theorem fulfilmentKeys_hostingWithAddOn : FulfilmentKeys hostingWithAddOn where
  service i j a b _ ha hb _ _ := by
    obtain ⟨rfl, -⟩ := eq_of_get?_singleton ha
    obtain ⟨rfl, -⟩ := eq_of_get?_singleton hb
    rfl
  domain _ _ _ _ _ ha := absurd ha get?_empty_ne
  domainItem _ _ _ _ hdomain := absurd hdomain get?_empty_ne
  link _ _ _ _ ha := absurd ha get?_empty_ne
  linkItem _ _ _ hlink := absurd hlink get?_empty_ne
  linkDomain _ _ _ _ hlink := absurd hlink get?_empty_ne

def fulfilWhileActive : List (Move plainOrders) :=
  suspendAccount 0 ++ unsuspendAccount 1 ++ fulfilAddOn 2

def completedOrder : Config plainOrders :=
  Config.after ⟨hostingWithAddOn, []⟩ fulfilWhileActive (by decide +kernel)

theorem completed_with_last_item :
    (completedOrder.shared.orders.get? 0).map Order.status = some .completed ∧
      NoneForgotten completedOrder.shared := by
  have hitems : OrdersHaveItems hostingWithAddOn := fun orderId order horder => by
    obtain ⟨rfl, -⟩ := eq_of_get?_singleton horder
    exact ⟨0, _, rfl, rfl⟩
  have hopen : NoneForgotten hostingWithAddOn := fun orderId order horder _ => by
    obtain ⟨rfl, -⟩ := eq_of_get?_singleton horder
    decide +kernel
  exact ⟨by decide +kernel,
    (orders_completed_exactly fulfilmentKeys_hostingWithAddOn hitems hopen).2
      (reaches_of_run (run_eq_after
        (show (Config.run ⟨hostingWithAddOn, []⟩ fulfilWhileActive).isSome = true by
          decide +kernel)) (by decide +kernel))⟩

end WebhostBilling
