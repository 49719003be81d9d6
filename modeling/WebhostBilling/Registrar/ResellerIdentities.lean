import WebhostBilling.Registrar.ConnectionSteps

/-!
# Reseller identities of live accounts

`createConnection` and `setupLive` look for an account with the same reseller identity and insert
one under an advisory lock, but each has a lock of its own.
-/

namespace WebhostBilling

open Store Store.Table Concurrency Config RegistrarProcessor DomainService DomainAdministrationService

/-! ## Identities -/

def liveIdentity (account : RegistrarAccount) : Option String :=
  if account.mode = .live then account.configuration.map RegistrarConfiguration.resellerId else none

def ConnectionStore.identities (s : ConnectionStore) : Table (Option String) :=
  s.accounts.map liveIdentity

/-- No two live accounts have one reseller identity. -/
def UniqueIdentities (s : ConnectionStore) : Prop :=
  ∀ id id' resellerId, s.identities.get? id = some (some resellerId) →
    s.identities.get? id' = some (some resellerId) → id = id'

def IdentityFree (s : ConnectionStore) (resellerId : String) : Prop :=
  ∀ id, s.identities.get? id ≠ some (some resellerId)

section

variable {s s' : ConnectionStore}

theorem UniqueIdentities.of_eq (h : UniqueIdentities s) (hsame : s'.identities = s.identities) :
    UniqueIdentities s' := by
  rw [UniqueIdentities, hsame]
  exact h

variable {resellerId : String}

theorem IdentityFree.of_eq (h : IdentityFree s resellerId)
    (hsame : s'.identities = s.identities) : IdentityFree s' resellerId := by
  rw [IdentityFree, hsame]
  exact h

theorem UniqueIdentities.insert (h : UniqueIdentities s) (hfree : IdentityFree s resellerId)
    (hsame : s'.identities = s.identities.insert (some resellerId)) : UniqueIdentities s' := by
  intro id id' other hid hid'
  rw [hsame] at hid hid'
  rcases get?_insert_cases hid with ⟨rfl, hother⟩ | hold <;>
  rcases get?_insert_cases hid' with ⟨rfl, hother'⟩ | hold'
  · rfl
  · exact absurd ((Option.some.inj hother) ▸ hold') (hfree id')
  · exact absurd ((Option.some.inj hother') ▸ hold) (hfree id)
  · exact h id id' other hold hold'

theorem IdentityFree.insert {other : String} (h : IdentityFree s resellerId)
    (hne : resellerId ≠ other) (hsame : s'.identities = s.identities.insert (some other)) :
    IdentityFree s' resellerId := by
  intro id hid
  rw [hsame] at hid
  rcases get?_insert_cases hid with ⟨-, hother⟩ | hold
  · exact hne (Option.some.inj hother)
  · exact h id hold

theorem identities_saveConnection (configuration : RegistrarConfiguration) :
    (s.saveConnection configuration).identities =
      s.identities.insert (some configuration.resellerId) := by
  rw [ConnectionStore.identities, ConnectionStore.saveConnection, map_insert]
  rfl

theorem identities_update {id : RowId} {f : RegistrarAccount → RegistrarAccount}
    (hs : s'.accounts = s.accounts.update id f)
    (hf : ∀ account, liveIdentity (f account) = liveIdentity account) :
    s'.identities = s.identities := by
  rw [ConnectionStore.identities, hs]
  exact map_update_eq fun account _ => hf account

/-! ## The checks -/

theorem mem_liveAccounts {account : RegistrarAccount} :
    account ∈ s.liveAccounts ↔
      ∃ id, s.accounts.get? id = some account ∧ account.mode = .live := by
  simp only [ConnectionStore.liveAccounts, List.mem_map, Prod.exists, mem_select,
    decide_eq_true_eq]
  constructor
  · rintro ⟨id, other, ⟨hrow, hlive⟩, rfl⟩
    exact ⟨id, hrow, hlive⟩
  · rintro ⟨id, hrow, hlive⟩
    exact ⟨id, account, ⟨hrow, hlive⟩, rfl⟩

theorem ne_of_identityTaken {accounts : List RegistrarAccount}
    (h : identityTaken resellerId accounts = .ok false) :
    ∀ account ∈ accounts,
      account.configuration.map RegistrarConfiguration.resellerId ≠ some resellerId := by
  induction accounts with
  | nil => exact fun _ hmem => nomatch hmem
  | cons account accounts ih =>
    simp only [identityTaken, eq_ok, registrarIdentity] at h
    obtain ⟨identity, hidentity, hrest⟩ := h
    split at hrest
    · cases hrest
    · rename_i hne
      intro other hmem
      rcases List.mem_cons.1 hmem with rfl | hmem
      · rw [hidentity]
        exact fun heq => hne (Option.some.inj heq)
      · exact ih hrest other hmem

theorem identityFree_of_live (h : ∀ account ∈ s.liveAccounts,
      account.configuration.map RegistrarConfiguration.resellerId ≠ some resellerId) :
    IdentityFree s resellerId := by
  intro id hid
  rw [ConnectionStore.identities, get?_map, Option.map_eq_some_iff] at hid
  obtain ⟨account, hrow, hidentity⟩ := hid
  rw [liveIdentity] at hidentity
  split at hidentity
  · rename_i hlive
    exact h account (mem_liveAccounts.2 ⟨id, hrow, hlive⟩) hidentity
  · cases hidentity

theorem identityFree_of_checkConnection
    (h : checkConnection resellerId s = .ok ()) : IdentityFree s resellerId := by
  simp only [checkConnection, eq_ok] at h
  obtain ⟨-, taken, htaken, rfl⟩ := h
  exact identityFree_of_live (ne_of_identityTaken htaken)

theorem identityFree_of_noLive (resellerId : String) (h : s.liveAccounts = []) :
    IdentityFree s resellerId := by
  refine identityFree_of_live fun account hmem => ?_
  rw [h] at hmem
  cases hmem

end

/-! ## What a call holds -/

def SavingState.checks : SavingState → Option String
  | .locking configuration => some configuration.resellerId
  | _ => none

def SavingState.saves : SavingState → Option String
  | .writing configuration => some configuration.resellerId
  | _ => none

def RotationState.inCatalogue : RotationState → Bool
  | .row _ _ | .writing _ _ _ => true
  | _ => false

/-- A call of `toggle` has the lock of the catalogue. -/
def ToggleState.inCatalogue : ToggleState → Bool
  | .row _ _ | .writing _ _ => true
  | _ => false

inductive AdvisoryHold
  | nothing
  /-- The lock of the catalogue, by `rotate` or `toggle`. -/
  | catalogue
  /-- The lock of the catalogue, by `createConnection`. -/
  | connection (resellerId : String)
  /-- The lock of `setupLive`. -/
  | setup (resellerId : String)

namespace AdvisoryHold

def catalogueHeld : AdvisoryHold → Option CatalogueHolder
  | .catalogue => some .other
  | .connection resellerId => some (.connection resellerId)
  | _ => none

def setupHeld : AdvisoryHold → Option String
  | .setup resellerId => some resellerId
  | _ => none

def saves : AdvisoryHold → Option String
  | .connection resellerId | .setup resellerId => some resellerId
  | _ => none

end AdvisoryHold

def advisoryHold {settings : RegistrarSettings} : ConnectionThread settings → AdvisoryHold
  | ⟨.createConnection, l⟩ => (SavingState.saves l).elim .nothing .connection
  | ⟨.setupLive, l⟩ => (SavingState.saves l).elim .nothing .setup
  | ⟨.rotate, l⟩ => bif RotationState.inCatalogue l then .catalogue else .nothing
  | ⟨.toggle, l⟩ => bif ToggleState.inCatalogue l then .catalogue else .nothing
  | _ => .nothing

def servicesApart (settings : RegistrarSettings) (_w : ConnectionWorld)
    (s : ConnectionStore × List ConnectionEvent) : ConnectionThread settings → Prop
  | ⟨.createConnection, l⟩ => ∀ resellerId ∈ SavingState.checks l,
      (checkConnection resellerId s.1).toBool → s.1.setupLock ≠ some resellerId
  | ⟨.setupLive, l⟩ => ∀ resellerId ∈ SavingState.checks l,
      s.1.liveAccounts = [] → s.1.catalogueLock ≠ some (.connection resellerId)
  | _ => True

instance (settings : RegistrarSettings) (w : ConnectionWorld)
    (s : ConnectionStore × List ConnectionEvent) :
    (t : ConnectionThread settings) → Decidable (servicesApart settings w s t)
  | ⟨.createConnection, l⟩ => inferInstanceAs (Decidable (∀ resellerId ∈ SavingState.checks l,
      (checkConnection resellerId s.1).toBool → s.1.setupLock ≠ some resellerId))
  | ⟨.setupLive, l⟩ => inferInstanceAs (Decidable (∀ resellerId ∈ SavingState.checks l,
      s.1.liveAccounts = [] → s.1.catalogueLock ≠ some (.connection resellerId)))
  | ⟨.rotate, _⟩ | ⟨.rotateLiveCredential, _⟩ | ⟨.toggle, _⟩ | ⟨.toggleLive, _⟩ =>
    inferInstanceAs (Decidable True)

/-! ## Steps -/

inductive IdentityStep (s : ConnectionStore) :
    AdvisoryHold → ConnectionStore → AdvisoryHold → Prop
  | keeps (hold : AdvisoryHold) {s' : ConnectionStore} (hidentities : s'.identities = s.identities)
      (hcatalogue : s'.catalogueLock = s.catalogueLock) (hsetup : s'.setupLock = s.setupLock) :
      IdentityStep s hold s' hold
  | waits {s' : ConnectionStore} (hidentities : s'.identities = s.identities)
      (hfree : s.catalogueLock = none) (hcatalogue : s'.catalogueLock = some .other)
      (hsetup : s'.setupLock = s.setupLock) : IdentityStep s .nothing s' .catalogue
  | returns {s' : ConnectionStore} (hidentities : s'.identities = s.identities)
      (hcatalogue : s'.catalogueLock = none) (hsetup : s'.setupLock = s.setupLock) :
      IdentityStep s .catalogue s' .nothing
  | checksConnection (resellerId : String) (hfree : s.catalogueLock = none)
      (hcheck : checkConnection resellerId s = .ok ()) (hapart : s.setupLock ≠ some resellerId) :
      IdentityStep s .nothing { s with catalogueLock := some (.connection resellerId) }
        (.connection resellerId)
  | checksSetup (resellerId : String) (hfree : s.setupLock = none) (hlive : s.liveAccounts = [])
      (hapart : s.catalogueLock ≠ some (.connection resellerId)) :
      IdentityStep s .nothing { s with setupLock := some resellerId } (.setup resellerId)
  | savesConnection (resellerId : String) {s' : ConnectionStore}
      (hidentities : s'.identities = s.identities ∨
        s'.identities = s.identities.insert (some resellerId))
      (hcatalogue : s'.catalogueLock = none) (hsetup : s'.setupLock = s.setupLock) :
      IdentityStep s (.connection resellerId) s' .nothing
  | savesSetup (resellerId : String) {s' : ConnectionStore}
      (hidentities : s'.identities = s.identities ∨
        s'.identities = s.identities.insert (some resellerId))
      (hcatalogue : s'.catalogueLock = s.catalogueLock) (hsetup : s'.setupLock = none) :
      IdentityStep s (.setup resellerId) s' .nothing

section

variable {settings : RegistrarSettings} {w : ConnectionWorld} {s s' : ConnectionStore}

variable {state state' : SavingState}

theorem createConnectionStep_identities (hapart : ∀ resellerId ∈ state.checks,
      (checkConnection resellerId s).toBool → s.setupLock ≠ some resellerId)
    (h : createConnectionStep w s state = some (s', state')) :
    IdentityStep s (state.saves.elim .nothing .connection) s'
      (state'.saves.elim .nothing .connection) := by
  cases state with
  | locking configuration =>
    rw [createConnectionStep] at h
    split at h
    · cases h
    rename_i hlock
    have hfree : s.catalogueLock = none := by simpa using hlock
    split at h <;> rename_i hcheck <;> cases h
    · exact .checksConnection configuration.resellerId hfree hcheck
        (hapart configuration.resellerId rfl (by rw [hcheck]; rfl))
    · exact .keeps .nothing rfl rfl rfl
  | writing configuration =>
    rw [createConnectionStep] at h
    split at h <;> cases h
    · exact .savesConnection configuration.resellerId
        (.inr (identities_saveConnection configuration)) rfl rfl
    · exact .savesConnection configuration.resellerId (.inl rfl) rfl rfl
  | done result => cases h

theorem setupLiveStep_identities (hapart : ∀ resellerId ∈ state.checks,
      s.liveAccounts = [] → s.catalogueLock ≠ some (.connection resellerId))
    (h : setupLiveStep w s state = some (s', state')) :
    IdentityStep s (state.saves.elim .nothing .setup) s' (state'.saves.elim .nothing .setup) := by
  cases state with
  | locking configuration =>
    rw [setupLiveStep] at h
    split at h
    · cases h
    rename_i hlock
    have hfree : s.setupLock = none := by simpa using hlock
    split at h <;> rename_i hlive <;> cases h
    · exact .keeps .nothing rfl rfl rfl
    · have hlive : s.liveAccounts = [] := by simpa using hlive
      exact .checksSetup configuration.resellerId hfree hlive
        (hapart configuration.resellerId rfl hlive)
  | writing configuration =>
    rw [setupLiveStep] at h
    split at h <;> cases h
    · exact .savesSetup configuration.resellerId
        (.inr (identities_saveConnection configuration)) rfl rfl
    · exact .savesSetup configuration.resellerId (.inl rfl) rfl rfl
  | done result => cases h

theorem writeCredential_identities {id : RowId} {resellerId : String} {version : ℕ}
    (h : writeCredential w id resellerId version s = .ok s') :
    s'.identities = s.identities ∧ s'.catalogueLock = s.catalogueLock ∧
      s'.setupLock = s.setupLock := by
  obtain ⟨-, rfl⟩ := writeCredential_eq_ok h
  exact ⟨identities_update rfl (fun _ => rfl), rfl, rfl⟩

theorem identities_setEnabled (id : RowId) (checked : Option RowId) :
    (s.setEnabled id checked).identities = s.identities :=
  identities_update rfl fun _ => rfl

theorem rotateStep_identities {state state' : RotationState}
    (h : rotateStep w s state = some (s', state')) :
    IdentityStep s (bif state.inCatalogue then .catalogue else .nothing) s'
      (bif state'.inCatalogue then .catalogue else .nothing) := by
  cases state with
  | catalogue id resellerId =>
    rw [rotateStep] at h
    split at h
    · cases h
    rename_i hlock
    have hfree : s.catalogueLock = none := by simpa using hlock
    cases h
    exact .waits rfl hfree rfl rfl
  | row id resellerId =>
    rw [rotateStep] at h
    split at h
    · cases h
    split at h <;> cases h
    · exact .keeps .catalogue rfl rfl rfl
    · exact .returns rfl rfl rfl
  | writing id resellerId version =>
    rw [rotateStep] at h
    split at h <;> rename_i hwrite <;> cases h
    · obtain ⟨hidentities, -, hsetup⟩ := writeCredential_identities hwrite
      exact .returns hidentities rfl hsetup
    · exact .returns rfl rfl rfl
  | done result => cases h

theorem rotateLiveCredentialStep_identities {state state' : RotationState}
    (h : rotateLiveCredentialStep w s state = some (s', state')) :
    IdentityStep s .nothing s' .nothing := by
  cases state with
  | catalogue id resellerId => cases h
  | row id resellerId =>
    rw [rotateLiveCredentialStep] at h
    split at h
    · cases h
    split at h <;> cases h
    · exact .keeps .nothing rfl rfl rfl
    · exact .keeps .nothing rfl rfl rfl
  | writing id resellerId version =>
    rw [rotateLiveCredentialStep] at h
    split at h <;> rename_i hwrite <;> cases h
    · obtain ⟨hidentities, hcatalogue, hsetup⟩ := writeCredential_identities hwrite
      exact .keeps .nothing hidentities hcatalogue hsetup
    · exact .keeps .nothing rfl rfl rfl
  | done result => cases h

theorem toggleStep_identities {state state' : ToggleState}
    (h : toggleStep settings w s state = some (s', state')) :
    IdentityStep s (bif state.inCatalogue then .catalogue else .nothing) s'
      (bif state'.inCatalogue then .catalogue else .nothing) := by
  cases state with
  | catalogue id checked =>
    simp only [toggleStep] at h
    split at h
    · cases h
    rename_i hlock
    have hfree : s.catalogueLock = none := by simpa using hlock
    cases h
    exact .waits rfl hfree rfl rfl
  | row id checked =>
    simp only [toggleStep] at h
    split at h
    · cases h
    split at h <;> cases h
    · exact .keeps .catalogue rfl rfl rfl
    · exact .returns rfl rfl rfl
  | writing id checked =>
    simp only [toggleStep] at h
    split at h <;> cases h
    · exact .returns (identities_setEnabled id checked) rfl rfl
    · exact .returns rfl rfl rfl
  | _ =>
    -- The check comes before the transaction and writes neither accounts nor locks.
    simp only [toggleStep] at h
    repeat' split at h
    all_goals cases h
    all_goals exact .keeps .nothing rfl rfl rfl

theorem toggleLiveStep_identities {state state' : ToggleState}
    (h : toggleLiveStep settings w s state = some (s', state')) :
    IdentityStep s .nothing s' .nothing := by
  cases state with
  | writing id checked =>
    simp only [toggleLiveStep] at h
    split at h <;> cases h
    · exact .keeps .nothing (identities_setEnabled id checked) rfl rfl
    · exact .keeps .nothing rfl rfl rfl
  | reserving id current used =>
    cases used with
    | some used => cases h
    | none =>
      simp only [toggleLiveStep] at h
      repeat' split at h
      all_goals cases h
      all_goals exact .keeps .nothing rfl rfl rfl
  | _ =>
    simp only [toggleLiveStep] at h
    repeat' split at h
    all_goals cases h
    all_goals exact .keeps .nothing rfl rfl rfl

theorem identityStep_of_step {s s' : ConnectionStore × List ConnectionEvent}
    {t t' : ConnectionThread settings} (hapart : servicesApart settings w s t)
    (h : t.step w s = some (s', t')) :
    IdentityStep s.1 (advisoryHold t) s'.1 (advisoryHold t') := by
  obtain ⟨kind, l⟩ := t
  obtain ⟨l', hstep, -, rfl⟩ := Thread.traced_step h
  cases kind with
  | createConnection => exact createConnectionStep_identities hapart hstep
  | setupLive => exact setupLiveStep_identities hapart hstep
  | rotate => exact rotateStep_identities hstep
  | rotateLiveCredential => exact rotateLiveCredentialStep_identities hstep
  | toggle => exact toggleStep_identities hstep
  | toggleLive => exact toggleLiveStep_identities hstep

end

/-! ## The outline -/

/-- No two live accounts have one identity, and the two services do not save one either. -/
structure IdentitiesKept (s : ConnectionStore) : Prop where
  unique : UniqueIdentities s
  apart : ∀ resellerId, s.catalogueLock = some (.connection resellerId) →
    s.setupLock ≠ some resellerId

structure HoldKept (s : ConnectionStore) (hold : AdvisoryHold) : Prop where
  catalogue : ∀ work, hold.catalogueHeld = some work → s.catalogueLock = some work
  setup : ∀ work, hold.setupHeld = some work → s.setupLock = some work
  free : ∀ resellerId, hold.saves = some resellerId → IdentityFree s resellerId

/-- Two calls do not have the same lock. -/
structure HoldsApart (hold other : AdvisoryHold) : Prop where
  catalogue : ¬ (hold.catalogueHeld.isSome ∧ other.catalogueHeld.isSome)
  setup : ¬ (hold.setupHeld.isSome ∧ other.setupHeld.isSome)

section

variable {s s' : ConnectionStore} {hold hold' others : AdvisoryHold}

theorem holdKept_nothing : HoldKept s .nothing where
  catalogue _ h := nomatch h
  setup _ h := nomatch h
  free _ h := nomatch h

theorem IdentityStep.catalogue (h : IdentityStep s hold s' hold') :
    HeldMove s.catalogueLock hold.catalogueHeld s'.catalogueLock hold'.catalogueHeld := by
  cases h with
  | keeps _ _ hcatalogue =>
    rw [hcatalogue]
    exact .stays _
  | waits _ hfree hcatalogue =>
    rw [hcatalogue]
    exact .takes CatalogueHolder.other hfree
  | returns _ hcatalogue =>
    rw [hcatalogue]
    exact .releases CatalogueHolder.other
  | checksConnection resellerId hfree => exact .takes (CatalogueHolder.connection resellerId) hfree
  | checksSetup => exact .stays none
  | savesConnection resellerId _ hcatalogue =>
    rw [hcatalogue]
    exact .releases (CatalogueHolder.connection resellerId)
  | savesSetup _ _ hcatalogue =>
    rw [hcatalogue]
    exact .stays none

theorem IdentityStep.setup (h : IdentityStep s hold s' hold') :
    HeldMove s.setupLock hold.setupHeld s'.setupLock hold'.setupHeld := by
  cases h with
  | keeps _ _ _ hsetup =>
    rw [hsetup]
    exact .stays _
  | waits _ _ _ hsetup | returns _ _ hsetup =>
    rw [hsetup]
    exact .stays none
  | checksConnection => exact .stays none
  | checksSetup resellerId hfree => exact .takes resellerId hfree
  | savesConnection _ _ _ hsetup =>
    rw [hsetup]
    exact .stays none
  | savesSetup resellerId _ _ hsetup =>
    rw [hsetup]
    exact .releases resellerId

theorem IdentityStep.identities (h : IdentityStep s hold s' hold') :
    s'.identities = s.identities ∨
      ∃ resellerId, hold.saves = some resellerId ∧
        s'.identities = s.identities.insert (some resellerId) := by
  cases h with
  | keeps _ hidentities | waits hidentities | returns hidentities => exact .inl hidentities
  | checksConnection | checksSetup => exact .inl rfl
  | savesConnection resellerId hidentities | savesSetup resellerId hidentities =>
    exact hidentities.imp_right fun hinsert => ⟨resellerId, rfl, hinsert⟩

theorem IdentityStep.saves (h : IdentityStep s hold s' hold') {resellerId : String}
    (hsaves : hold'.saves = some resellerId) :
    s'.identities = s.identities ∧ (hold.saves = some resellerId ∨ IdentityFree s resellerId) := by
  cases h with
  | keeps _ hidentities => exact ⟨hidentities, .inl hsaves⟩
  | waits | returns => cases hsaves
  | checksConnection _ _ hcheck =>
    cases hsaves
    exact ⟨rfl, .inr (identityFree_of_checkConnection hcheck)⟩
  | checksSetup _ _ hlive =>
    cases hsaves
    exact ⟨rfl, .inr (identityFree_of_noLive resellerId hlive)⟩
  | savesConnection | savesSetup => cases hsaves

theorem IdentityStep.apart (h : IdentityStep s hold s' hold')
    (hapart : ∀ resellerId, s.catalogueLock = some (.connection resellerId) →
      s.setupLock ≠ some resellerId) {resellerId : String}
    (hcatalogue : s'.catalogueLock = some (.connection resellerId)) :
    s'.setupLock ≠ some resellerId := by
  cases h with
  | keeps _ _ hsame hsetup =>
    rw [hsetup]
    exact hapart resellerId (hsame ▸ hcatalogue)
  | waits _ _ hother =>
    rw [hother] at hcatalogue
    cases hcatalogue
  | returns _ hnone =>
    rw [hnone] at hcatalogue
    cases hcatalogue
  | checksConnection _ _ _ hfree =>
    cases hcatalogue
    exact hfree
  | checksSetup other _ _ hfree =>
    rintro hsetup
    cases hsetup
    exact hfree hcatalogue
  | savesConnection _ _ hnone =>
    rw [hnone] at hcatalogue
    cases hcatalogue
  | savesSetup _ _ _ hnone =>
    rw [hnone]
    exact fun hsome => nomatch hsome

theorem IdentityStep.kept (h : IdentityStep s hold s' hold') (hkept : IdentitiesKept s)
    (hhold : HoldKept s hold) : IdentitiesKept s' where
  unique := by
    rcases h.identities with hsame | ⟨resellerId, hsaves, hinsert⟩
    · exact hkept.unique.of_eq hsame
    · exact hkept.unique.insert (hhold.free resellerId hsaves) hinsert
  apart _ := h.apart hkept.apart

theorem IdentityStep.own (h : IdentityStep s hold s' hold') (hhold : HoldKept s hold) :
    HoldKept s' hold' where
  catalogue _ := h.catalogue.own hhold.catalogue
  setup _ := h.setup.own hhold.setup
  free resellerId hsaves := by
    obtain ⟨hsame, hsaved | hfree⟩ := h.saves hsaves
    · exact (hhold.free resellerId hsaved).of_eq hsame
    · exact hfree.of_eq hsame

theorem saves_ne (hkept : IdentitiesKept s) (hhold : HoldKept s hold) (hother : HoldKept s others)
    (hapart : HoldsApart hold others) {resellerId resellerId' : String}
    (hsaves : hold.saves = some resellerId) (hsaves' : others.saves = some resellerId') :
    resellerId' ≠ resellerId := by
  rintro rfl
  cases hold with
  | nothing | catalogue => cases hsaves
  | connection =>
    cases hsaves
    cases others with
    | nothing | catalogue => cases hsaves'
    | connection => exact hapart.catalogue ⟨rfl, rfl⟩
    | setup =>
      cases hsaves'
      exact hkept.apart _ (hhold.catalogue _ rfl) (hother.setup _ rfl)
  | setup =>
    cases hsaves
    cases others with
    | nothing | catalogue => cases hsaves'
    | connection =>
      cases hsaves'
      exact hkept.apart _ (hother.catalogue _ rfl) (hhold.setup _ rfl)
    | setup => exact hapart.setup ⟨rfl, rfl⟩

theorem IdentityStep.other (h : IdentityStep s hold s' hold') (hkept : IdentitiesKept s)
    (hhold : HoldKept s hold) (hother : HoldKept s others) (hapart : HoldsApart hold others) :
    HoldKept s' others ∧ HoldsApart hold' others := by
  refine ⟨⟨fun work hwork => ?_, fun work hwork => ?_, fun resellerId hsaves => ?_⟩, ⟨?_, ?_⟩⟩
  · have hlock := hother.catalogue work hwork
    have hnone : hold.catalogueHeld = none := by
      rw [← Option.not_isSome_iff_eq_none]
      exact fun hsome => hapart.catalogue ⟨hsome, Option.isSome_of_eq_some hwork⟩
    rw [(h.catalogue.other (Option.isSome_of_eq_some hlock) hnone).1, hlock]
  · have hlock := hother.setup work hwork
    have hnone : hold.setupHeld = none := by
      rw [← Option.not_isSome_iff_eq_none]
      exact fun hsome => hapart.setup ⟨hsome, Option.isSome_of_eq_some hwork⟩
    rw [(h.setup.other (Option.isSome_of_eq_some hlock) hnone).1, hlock]
  · rcases h.identities with hsame | ⟨saved, hsaved, hinsert⟩
    · exact (hother.free resellerId hsaves).of_eq hsame
    · exact (hother.free resellerId hsaves).insert
        (saves_ne hkept hhold hother hapart hsaved hsaves) hinsert
  · refine h.catalogue.apart (fun hsome => ?_) hapart.catalogue
    obtain ⟨work, hwork⟩ := Option.isSome_iff_exists.1 hsome
    exact Option.isSome_of_eq_some (hother.catalogue work hwork)
  · refine h.setup.apart (fun hsome => ?_) hapart.setup
    obtain ⟨work, hwork⟩ := Option.isSome_iff_exists.1 hsome
    exact Option.isSome_of_eq_some (hother.setup work hwork)

theorem HoldsApart.symm (h : HoldsApart hold others) : HoldsApart others hold where
  catalogue hboth := h.catalogue hboth.symm
  setup hboth := h.setup hboth.symm

end

def identityOutline (settings : RegistrarSettings) :
    Outline (tracedFamily (connectionOps settings) (connectionEvents settings)) where
  shared s := IdentitiesKept s.1
  thread s t := HoldKept s.1 (advisoryHold t)
  apart t u := HoldsApart (advisoryHold t) (advisoryHold u)

section

variable {settings : RegistrarSettings}

theorem saves_opened (opened : Except Failure RegistrarConfiguration) :
    (SavingState.opened opened).saves = none := by
  cases opened <;> rfl

theorem rotate_starts (request : RotationRequest) :
    (bif RotationState.inCatalogue (rotate.start request) then AdvisoryHold.catalogue
      else .nothing) = .nothing := by
  dsimp only [rotate]
  split <;> rfl

theorem toggle_starts (request : ToggleRequest) :
    (bif ToggleState.inCatalogue ((toggle settings).start request) then AdvisoryHold.catalogue
      else .nothing) = .nothing := by
  dsimp only [toggle]
  split <;> rfl

theorem advisoryHold_begin (op : ConnectionKind)
    (request : (tracedFamily (connectionOps settings) (connectionEvents settings) op).Request) :
    advisoryHold (Thread.begin op request) = .nothing := by
  cases op with
  | createConnection =>
    show (SavingState.opened _).saves.elim AdvisoryHold.nothing .connection = .nothing
    rw [saves_opened]
    rfl
  | setupLive =>
    show (SavingState.opened _).saves.elim AdvisoryHold.nothing .setup = .nothing
    rw [saves_opened]
    rfl
  | rotate => exact rotate_starts request
  | rotateLiveCredential => rfl
  | toggle => exact @toggle_starts settings request
  | toggleLive => rfl

theorem identityOutline_sound :
    (identityOutline settings).Sound (servicesApart settings) where
  symm _ _ h := h.symm
  call s op request _ := by
    show HoldKept s.1 (advisoryHold _)
    rw [advisoryHold_begin]
    exact holdKept_nothing
  call_apart op request u := by
    show HoldsApart (advisoryHold _) _
    rw [advisoryHold_begin]
    exact ⟨fun hboth => Bool.noConfusion hboth.1, fun hboth => Bool.noConfusion hboth.1⟩
  own w s t s' t' hapart hkept hhold hstep := by
    have h := identityStep_of_step hapart hstep
    exact ⟨h.kept hkept hhold, h.own hhold⟩
  other w s t s' t' u hguard hkept hhold hother hapart hstep :=
    (identityStep_of_step hguard hstep).other hkept hhold hother hapart

/-- **Reseller identities are unique**, in every state of a run in which no check of `createConnection`
or `setupLive` finds a call of the other service between its check and its insertion. -/
theorem reseller_identities_unique {s : ConnectionStore} {trace : List ConnectionEvent}
    (hunique : UniqueIdentities s) (hfree : s.setupLock = none) {c : ConnectionConfig settings}
    (hr : Reaches (servicesApart settings) ⟨(s, trace), []⟩ c) : UniqueIdentities c.shared.1 := by
  have hstart : (identityOutline settings).shared (s, trace) := by
    refine ⟨hunique, fun resellerId _ hsetup => ?_⟩
    rw [hfree] at hsetup
    cases hsetup
  exact (identityOutline_sound.holds (Outline.holds_idle hstart) hr).shared.unique

end

/-! ## Two calls that overlap -/

def connectionAdmin : AuthIdentity where
  userId := 0
  role := .admin
  staffRole := some .fullAdministrator
  twoFactorEnabled := true

def connectionStart (settings : RegistrarSettings) : ConnectionConfig settings := ⟨({}, []), []⟩

def bothServices (settings : RegistrarSettings) :
    List (Move (tracedFamily (connectionOps settings) (connectionEvents settings))) :=
  [.call .createConnection ⟨"r", connectionAdmin⟩, .call .setupLive ⟨"r", [], connectionAdmin⟩]

def overlapped : ConnectionConfig ⟨false, true⟩ :=
  (connectionStart ⟨false, true⟩).after (bothServices ⟨false, true⟩ ++
    [.advance 0 {}, .advance 1 {}, .advance 0 {}, .advance 1 {}]) (by decide +kernel)

/-- Two live accounts have one reseller identity. -/
theorem identity_saved_twice :
    Reaches anyStep (connectionStart ⟨false, true⟩) overlapped ∧
      ¬ UniqueIdentities overlapped.shared.1 := by
  refine ⟨reaches_anyStep_of_run (run_eq_after (by decide +kernel)), fun hunique => ?_⟩
  have hsame : overlapped.shared.1.identities.get? 0 = some (some "r") ∧
      overlapped.shared.1.identities.get? 1 = some (some "r") := by decide +kernel
  cases hunique 0 1 "r" hsame.1 hsame.2

def inTurn : ConnectionConfig ⟨false, true⟩ :=
  (connectionStart ⟨false, true⟩).after (bothServices ⟨false, true⟩ ++
    [.advance 0 {}, .advance 0 {}, .advance 1 {}]) (by decide +kernel)

theorem identity_saved_once :
    UniqueIdentities inTurn.shared.1 ∧ inTurn.shared.1.accounts.size = 1 := by
  have hempty : UniqueIdentities {} := fun _ _ _ hid => absurd hid get?_empty_ne
  exact ⟨reseller_identities_unique hempty rfl
    (reaches_of_run (run_eq_after (by decide +kernel)) (by decide +kernel)), by decide +kernel⟩

end WebhostBilling
