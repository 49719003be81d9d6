import WebhostBilling.Orders.OrderOperations

/-!
# What the operations on orders may rely on

No operation moves a service or a domain to another item.  A delivery of a registration that has
been prepared works on a claimed registration, and on the domain and the item that it is for.
-/

namespace WebhostBilling

open Store Store.Table Concurrency RegistrarProcessor DomainService

def OrderItem.line (item : OrderItem) : RowId × ProductKind × Bool :=
  (item.orderId, item.kind, item.linksExistingDomain)

theorem OrderItem.line_eq {item item' : OrderItem} (h : item'.line = item.line) :
    item'.orderId = item.orderId ∧ item'.kind = item.kind ∧
      item'.linksExistingDomain = item.linksExistingDomain := by
  obtain ⟨horder, hrest⟩ := Prod.mk.inj h
  exact ⟨horder, Prod.mk.inj hrest⟩

theorem NoneActivated.keeps {services services' : Table Service}
    (h : NoneActivated services services') :
    Table.Keeps Service.orderItemId services services' := by
  intro id service' hservice'
  obtain ⟨service, hservice, hitem, -⟩ := h id service' hservice'
  exact ⟨service, hservice, hitem⟩

theorem NoneRegistered.keeps {domains domains' : Table Domain}
    (h : NoneRegistered domains domains') : Table.Keeps Domain.orderItemId domains domains' := by
  intro id domain' hdomain'
  obtain ⟨domain, hdomain, hitem, -⟩ := h id domain' hdomain'
  exact ⟨domain, hdomain, hitem⟩

section

variable {lib : Libraries} {settings : RegistrarSettings} {w : World} {db db' : Database}
  {op : OrderOperation} {l : (orderOperations lib settings op).Local}

/-! ## The keys -/

namespace OrderEffect

theorem keeps_line (h : OrderEffect lib settings w db op l db') :
    Table.Keeps OrderItem.line db.orderItems db'.orderItems := by
  cases h with
  | fulfilled _ hsame | ended hsame =>
    rw [hsame.orderItems]
    exact keeps_update fun _ _ => rfl
  | quiet _ hsame | activated _ _ _ hsame | resumed _ _ hsame | settled _ hsame
  | cancelled _ _ hsame | decided _ _ hsame | created _ _ hsame | registrar _ _ _ hsame
  | registered _ _ _ _ _ _ _ _ _ hsame =>
    rw [hsame.orderItems]
    exact Keeps.refl _ _

theorem items_stay (h : OrderEffect lib settings w db op l db') {itemId : RowId} {item : OrderItem}
    (hitem : db.orderItems.get? itemId = some item) :
    ∃ item', db'.orderItems.get? itemId = some item' ∧ item'.line = item.line := by
  have hupdate (id : ℕ) (f : OrderItem → OrderItem) (hf : ∀ item, (f item).line = item.line) :
      ∃ item', (db.orderItems.update id f).get? itemId = some item' ∧ item'.line = item.line :=
    grows_update (R := fun item item' => item'.line = item.line) (fun _ => rfl)
      (fun item _ => hf item) itemId item hitem
  cases h with
  | fulfilled _ hsame | ended hsame =>
    rw [hsame.orderItems]
    exact hupdate _ _ fun _ => rfl
  | quiet _ hsame | activated _ _ _ hsame | resumed _ _ hsame | settled _ hsame
  | cancelled _ _ hsame | decided _ _ hsame | created _ _ hsame | registrar _ _ _ hsame
  | registered _ _ _ _ _ _ _ _ _ hsame =>
    rw [hsame.orderItems]
    exact ⟨item, hitem, rfl⟩

theorem keeps_domainItem (h : OrderEffect lib settings w db op l db') :
    Table.Keeps Domain.orderItemId db.domains db'.domains := by
  cases h with
  | registrar _ hdomains _ hsame => exact hdomains.keeps
  | registered _ _ _ _ _ _ _ _ _ hsame =>
    rw [hsame.domains]
    exact keeps_update fun domain _ => recordedDomain_orderItemId _ domain
  | quiet _ hsame | activated _ _ _ hsame | resumed _ _ hsame | fulfilled _ hsame | ended hsame
  | settled _ hsame | cancelled _ _ hsame | decided _ _ hsame | created _ _ hsame =>
    rw [hsame.domains]
    exact Keeps.refl _ _

theorem links_eq (h : OrderEffect lib settings w db op l db') :
    db'.existingDomainOrders = db.existingDomainOrders := by
  cases h with
  | quiet _ hsame | activated _ _ _ hsame | resumed _ _ hsame | fulfilled _ hsame | ended hsame
  | settled _ hsame | cancelled _ _ hsame | decided _ _ hsame | created _ _ hsame
  | registrar _ _ _ hsame | registered _ _ _ _ _ _ _ _ _ hsame => exact hsame.existingDomainOrders

theorem services_keyed (h : OrderEffect lib settings w db op l db')
    (hkeys : ∀ i j a b itemId, db.services.get? i = some a → db.services.get? j = some b →
      a.orderItemId = some itemId → b.orderItemId = some itemId → i = j)
    (i j : RowId) (a b : Service) (itemId : RowId) (ha : db'.services.get? i = some a)
    (hb : db'.services.get? j = some b) (hai : a.orderItemId = some itemId)
    (hbj : b.orderItemId = some itemId) : i = j := by
  have hkept (hkeeps : Table.Keeps Service.orderItemId db.services db'.services) : i = j := by
    obtain ⟨a₀, ha₀, hasame⟩ := hkeeps i a ha
    obtain ⟨b₀, hb₀, hbsame⟩ := hkeeps j b hb
    exact hkeys i j a₀ b₀ itemId ha₀ hb₀ (hasame ▸ hai) (hbsame ▸ hbj)
  cases h with
  | quiet hservices hsame => exact hkept (hsame.services ▸ hservices.keeps)
  | activated _ hkeeps _ hsame | resumed _ hkeeps hsame =>
    exact hkept (hsame.services ▸ keeps_update fun service _ => hkeeps service)
  | created _ hfresh hsame =>
    rw [hsame.services] at ha hb
    rcases get?_insert_cases ha with ⟨rfl, rfl⟩ | ha'
    · rcases get?_insert_cases hb with ⟨rfl, -⟩ | hb'
      · rfl
      · exact absurd (hbj.trans hai.symm) (hfresh j b hb')
    · rcases get?_insert_cases hb with ⟨rfl, rfl⟩ | hb'
      · exact absurd (hai.trans hbj.symm) (hfresh i a ha')
      · exact hkeys i j a b itemId ha' hb' hai hbj
  | fulfilled _ hsame | ended hsame | settled _ hsame | cancelled _ _ hsame | decided _ _ hsame
  | registrar _ _ _ hsame | registered _ _ _ _ _ _ _ _ _ hsame =>
    exact hkept (hsame.services ▸ Keeps.refl _ _)

end OrderEffect

theorem FulfilmentKeys.step (hkeys : FulfilmentKeys db)
    (h : OrderEffect lib settings w db op l db') : FulfilmentKeys db' where
  service := h.services_keyed hkeys.service
  domain i j a b itemId ha hb hai hbj := by
    obtain ⟨a₀, ha₀, hasame⟩ := h.keeps_domainItem i a ha
    obtain ⟨b₀, hb₀, hbsame⟩ := h.keeps_domainItem j b hb
    exact hkeys.domain i j a₀ b₀ itemId ha₀ hb₀ (hasame ▸ hai) (hbsame ▸ hbj)
  domainItem id domain itemId item hdomain hitemId hitem := by
    obtain ⟨domain₀, hdomain₀, hsame⟩ := h.keeps_domainItem id domain hdomain
    obtain ⟨item₀, hitem₀, hline⟩ := h.keeps_line itemId item hitem
    rw [(OrderItem.line_eq hline).2.1]
    exact hkeys.domainItem id domain₀ itemId item₀ hdomain₀ (hsame ▸ hitemId) hitem₀
  link := h.links_eq ▸ hkeys.link
  linkItem i link item hlink hitem := by
    rw [h.links_eq] at hlink
    obtain ⟨item₀, hitem₀, hline⟩ := h.keeps_line link.orderItemId item hitem
    rw [(OrderItem.line_eq hline).2.2]
    exact hkeys.linkItem i link item₀ hlink hitem₀
  linkDomain i link id domain hlink hdomain := by
    rw [h.links_eq] at hlink
    obtain ⟨domain₀, hdomain₀, hsame⟩ := h.keeps_domainItem id domain hdomain
    rw [hsame]
    exact hkeys.linkDomain i link id domain₀ hlink hdomain₀

/-! ## The jobs -/

end

def JobKnown (db : Database) (job : Job) : Prop :=
  ∃ operation domain, db.registrarOperations.get? job.intent.operationId = some operation ∧
    operation.claimedAt.isSome ∧ operation.domainId = job.domainId ∧
    db.domains.get? job.domainId = some domain ∧ domain.orderItemId = some job.orderItemId

def StaysWithItem (domain domain' : Domain) : Prop := domain'.orderItemId = domain.orderItemId

theorem StaysWithItem.refl (domain : Domain) : StaysWithItem domain domain := rfl

structure RegistrationsStay (db db' : Database) : Prop where
  operations : db.registrarOperations.Grows RegistrarOperation.Moves db'.registrarOperations
  domains : db.domains.Grows StaysWithItem db'.domains

theorem registrationsStay_of_same {db db' : Database}
    (hoperations : db'.registrarOperations = db.registrarOperations)
    (hdomains : db'.domains = db.domains) : RegistrationsStay db db' := by
  constructor
  · rw [hoperations]
    exact Grows.refl RegistrarOperation.Moves.refl _
  · rw [hdomains]
    exact Grows.refl StaysWithItem.refl _

theorem JobKnown.mono {db db' : Database} {job : Job} (hstay : RegistrationsStay db db')
    (h : JobKnown db job) : JobKnown db' job := by
  obtain ⟨operation, domain, hoperation, hclaimed, hdomainId, hdomain, hitem⟩ := h
  obtain ⟨operation', hoperation', hmoves⟩ := hstay.operations _ _ hoperation
  obtain ⟨domain', hdomain', hsame⟩ := hstay.domains _ _ hdomain
  exact ⟨operation', domain', hoperation', (hmoves.claim hclaimed).symm ▸ hclaimed,
    hmoves.approval.domainId.trans hdomainId, hdomain', hsame.trans hitem⟩

section

variable {lib : Libraries} {settings : RegistrarSettings} {w : World} {db db' : Database}

theorem OrderEffect.registrationsStay {op : OrderOperation}
    {l : (orderOperations lib settings op).Local} (h : OrderEffect lib settings w db op l db') :
    RegistrationsStay db db' := by
  cases h with
  | registrar hwrites hdomains hclaims hsame =>
    refine ⟨hwrites.operations_grow, fun id domain hdomain => ?_⟩
    obtain ⟨domain', hdomain'⟩ := Option.isSome_iff_exists.1
      (hwrites.domain_isSome (by rw [hdomain]; rfl : (db.domains.get? id).isSome))
    obtain ⟨before, hbefore, hitem, -⟩ := hdomains id domain' hdomain'
    rw [hdomain, Option.some.injEq] at hbefore
    exact ⟨domain', hdomain', hbefore ▸ hitem⟩
  | registered hwrites _ _ _ _ _ _ _ _ hsame =>
    refine ⟨hwrites.operations_grow, ?_⟩
    rw [hsame.domains]
    exact grows_update StaysWithItem.refl fun domain _ => recordedDomain_orderItemId _ domain
  | quiet _ hsame | activated _ _ _ hsame | resumed _ _ hsame | fulfilled _ hsame | ended hsame
  | settled _ hsame | cancelled _ _ hsame | decided _ _ hsame | created _ _ hsame =>
    exact registrationsStay_of_same hsame.registrarOperations hsame.domains

theorem jobKnown_of_prepared {operationId now : ℕ} {job : Job} {claimed : Bool}
    (h : prepareTransaction settings operationId now db = .ok (db', some (job, claimed))) :
    JobKnown db' job := by
  cases prepareTransaction_eq_ok h with
  | @polled p hp hclaimed hmoves =>
    refine ⟨reservePoll p.operation.claimedAt now p.operation, p.domain, ?_, hclaimed,
        hp.jobDomain.symm, ?_, ?_⟩
    · rw [hp.jobOperation]
      exact get?_update_self hp.operation
    · rw [hp.jobDomain]
      exact hp.domain
    · rw [hp.jobOrderItem]
      exact hp.orderItem
  | @claimed p order evidence hp hunclaimed heligible hactions hregistrations hmoves =>
    refine ⟨reservePoll (some now) now p.operation, inState .needsReconciliation p.domain, ?_, rfl,
        hp.jobDomain.symm, ?_, ?_⟩
    · rw [hp.jobOperation]
      exact get?_update_self hp.operation
    · rw [hp.jobDomain]
      exact get?_update_self hp.domain
    · rw [hp.jobOrderItem]
      exact hp.orderItem

def jobKnown (db : Database) : (op : OrderOperation) → (orderOperations lib settings op).Local → Prop
  | .process, l => ∀ job ∈ ProcessState.job l, JobKnown db job
  | _, _ => True

variable (lib settings)

def orderOutline : Outline (orderOperations lib settings) where
  shared := FulfilmentKeys
  thread db t := jobKnown db t.op t.loc

theorem orderOutline_sound : (orderOutline lib settings).Sound Config.anyStep where
  symm _ _ h := h
  call db op request _ := by
    cases op with
    | process => exact fun _ h => nomatch h
    | billing | approve | reconcile => trivial
  call_apart _ _ _ := trivial
  own w db t db' t' _ hkeys hknown hstep := by
    obtain ⟨l, hl, rfl⟩ := Thread.step_eq_some hstep
    have heffect := orderEffect_of_step t.op hl
    refine ⟨hkeys.step heffect, ?_⟩
    obtain ⟨op, loc⟩ := t
    cases op with
    | process =>
      intro job hjob
      rcases job_of_step hl hjob with ⟨hold, -⟩ | ⟨operationId, claimed, hok, -⟩
      · exact (hknown job hold).mono heffect.registrationsStay
      · exact jobKnown_of_prepared hok
    | billing | approve | reconcile => trivial
  other w db t db' t' u _ _ _ hu _ hstep := by
    obtain ⟨l, hl, rfl⟩ := Thread.step_eq_some hstep
    have hstay := (orderEffect_of_step t.op hl).registrationsStay
    refine ⟨?_, trivial⟩
    obtain ⟨op, loc⟩ := u
    cases op with
    | process => exact fun job hjob => (hu job hjob).mono hstay
    | billing | approve | reconcile => trivial

end

abbrev plainOrders : OrderOperation → Operation Database World :=
  orderOperations (Libraries.onPlainText fun moment => toString moment)
    { simulationAllowed := true, liveAllowed := false }

end WebhostBilling
