import WebhostBilling.Settings.SettingsSteps

/-!
# The business currency

Whoever writes the currency has the lock on the row of the automation policy, so what a save has
read of it still holds when the save commits.  What does not hold still is that there is no invoice:
invoices are created without any of these locks.
-/

namespace WebhostBilling

open Store Concurrency Config

namespace Settings

/-! ## What is noted -/

def changedCurrency (op : SettingsOperation) (w : SettingsWorld) (s : SettingsStore)
    (l : (settingsOperations op).Local) : List (String × String) :=
  ((settingsOperations op).step w s l).elim [] fun out =>
    if out.1.businessCurrency = s.businessCurrency then []
    else [(s.businessCurrency, out.1.businessCurrency)]

/-- A save has seen the invoices that were there when it checked the currency. -/
def seenInvoices : (op : SettingsOperation) → SettingsStore × List (String × String) →
    (settingsOperations op).Local → Option (List String) → Option (List String)
  | .save, s, .checkingCurrency _ _ _ _, _ => some s.1.invoices
  | _, _, _, seen => seen

abbrev currencyOperations (op : SettingsOperation) :
    Operation (SettingsStore × List (String × String)) SettingsWorld :=
  (tracedFamily settingsOperations changedCurrency op).seeing none (seenInvoices op)

/-- The currency was confirmed, or there is an invoice. -/
def CurrencySettled (s : SettingsStore) : Prop := s.currencySelection.isSome ∨ s.invoices ≠ []

/-- **The invariant**: the currency was changed at most once, from the default one, and then it was
confirmed. -/
structure ChangedOnce (s : SettingsStore) (changes : List (String × String)) : Prop where
  once : changes.length ≤ 1
  default : ∀ change ∈ changes, change.1 = defaultLocalization.currency
  confirmed : changes ≠ [] → s.currencySelection.isSome

/-! ## What a save relies on -/

section

variable {w : SettingsWorld} {s s' : SettingsStore} {changes : List (String × String)}
variable {op : SettingsOperation} {request : SettingsRequest} {l l' : (settingsOperations op).Local}
variable {seen : Option (List String)}

theorem currencyThread_step {s s' : SettingsStore × List (String × String)}
    {t t' : Thread currencyOperations} (h : t.step w s = some (s', t')) :
    ∃ l, (settingsOperations t.op).step w s.1 t.loc.2 = some (s'.1, l) ∧
      s'.2 = s.2 ++ changedCurrency t.op w s.1 t.loc.2 ∧
      t' = ⟨t.op, (seenInvoices t.op s t.loc.2 t.loc.1, l)⟩ := by
  obtain ⟨l, hl, rfl⟩ := Thread.seeing_step h
  obtain ⟨hstep, htrace⟩ := Operation.traced_step hl
  exact ⟨l, hstep, htrace, rfl⟩

theorem SettingsRequest.locksRenewal_of_locksCurrency
    (h : request.locksCurrency = true) : request.locksRenewal = true := by
  cases request with
  | update settings => rfl
  | patch input =>
    simp only [SettingsRequest.locksCurrency, SettingsRequest.locksRenewal, decide_eq_true_eq] at h ⊢
    have hlocalization : input.localization.isSome = true := by
      by_contra hnone
      rw [Bool.not_eq_true] at hnone
      simp only [SettingsRequest.keys, hnone, Bool.false_eq_true, if_false, Bool.false_or,
        List.nil_append] at h
      repeat' split at h
      all_goals simp at h
    simp [SettingsRequest.keys, hlocalization]

/-- A save that is about to write the currency changes it only from the default one that was not
confirmed, when it has seen no invoice, and confirms no other than the one it writes. -/
structure ConfirmsChange (s : SettingsStore) (seen : Option (List String))
    (settings : BusinessSettings) (confirmedCurrency : Option String) : Prop where
  confirms : ∀ currency, confirmedCurrency = some currency → currency = settings.currency
  change : settings.currency ≠ s.businessCurrency → confirmedCurrency = some settings.currency ∧
    s.currencySelection = none ∧ s.businessCurrency = defaultLocalization.currency ∧ seen = some []

def SaveCurrency (s : SettingsStore) (seen : Option (List String)) : SaveState → Prop
  | .lockingRenewal _ | .lockingNumbering _ | .merging _ | .done _ => True
  | .lockingCurrency request _ | .readingCurrency request _ => request.locksCurrency = true
  | .checkingCurrency request _ current selection => request.locksCurrency = true ∧
      current = s.businessCurrency ∧ selection = s.currencySelection
  | .writing request settings confirmedCurrency =>
    if request.locksCurrency = true then ConfirmsChange s seen settings confirmedCurrency
    else confirmedCurrency = none

theorem SaveCurrency.congr {l : SaveState} (h : SaveCurrency s seen l)
    (hsame : l.holdsRenewal = true → s'.localization = s.localization ∧
      s'.currencySelection = s.currencySelection) : SaveCurrency s' seen l := by
  have hcurrency : l.holdsRenewal = true → s'.businessCurrency = s.businessCurrency := by
    intro hholds
    rw [SettingsStore.businessCurrency, (hsame hholds).1, (hsame hholds).2]
    rfl
  cases l with
  | lockingRenewal _ | lockingNumbering _ | merging _ | done _ => trivial
  | lockingCurrency _ _ | readingCurrency _ _ => exact h
  | checkingCurrency request settings current selection =>
    have hholds := SettingsRequest.locksRenewal_of_locksCurrency h.1
    exact ⟨h.1, h.2.1.trans (hcurrency hholds).symm, h.2.2.trans (hsame hholds).2.symm⟩
  | writing request settings confirmedCurrency =>
    simp only [SaveCurrency] at h ⊢
    split
    · rename_i hlocks
      rw [if_pos hlocks] at h
      have hholds := SettingsRequest.locksRenewal_of_locksCurrency hlocks
      refine ⟨h.confirms, fun hne => ?_⟩
      rw [hcurrency hholds] at hne ⊢
      rw [(hsame hholds).2]
      exact h.change hne
    · rename_i hlocks
      rw [if_neg hlocks] at h
      exact h

variable {settings : BusinessSettings} {confirmedCurrency : Option String}

theorem confirmsChange_of_check
    (h : checkCurrency w s request settings s.businessCurrency s.currencySelection =
      .ok confirmedCurrency) : ConfirmsChange s (some s.invoices) settings confirmedCurrency := by
  simp only [checkCurrency, eq_ok] at h
  obtain ⟨hlocked, hconfirms, _, -, rfl⟩ := h
  refine ⟨fun currency hsome => ?_, fun hne => ?_⟩
  · split at hsome
    · exact (Option.some.inj hsome).symm
    · cases hsome
  · have hfree := hlocked hne
    refine ⟨if_pos ⟨hfree, hconfirms hne⟩, ?_⟩
    simp only [currencyIsLocked, Bool.or_eq_false_iff, Option.isSome_eq_false_iff,
      Option.isNone_iff_eq_none, decide_eq_false_iff_not, not_not] at hfree
    exact ⟨hfree.1.1, hfree.1.2, congrArg some hfree.2⟩

/-! ## One step -/

theorem ConfirmsChange.commit (h : ConfirmsChange s seen settings confirmedCurrency)
    (hkey : .localization ∈ request.keys) :
    (writeSettings request settings confirmedCurrency s).businessCurrency = settings.currency := by
  simp only [SettingsStore.businessCurrency, writeSettings, if_pos hkey, Option.getD_some]
  cases hconfirmed : confirmedCurrency with
  | some currency => exact h.confirms currency hconfirmed
  | none =>
    have hsame : settings.currency = s.businessCurrency := by
      by_contra hne
      have := (h.change hne).1
      rw [hconfirmed] at this
      cases this
    cases hselection : s.currencySelection with
    | none => rfl
    | some currency => simp [hsame, SettingsStore.businessCurrency, hselection]

/-- A step leaves the currency, or is the commit of a change. -/
inductive CurrencyEffect (s s' : SettingsStore) : Prop
  | same (hcurrency : s'.businessCurrency = s.businessCurrency)
      (hselection : s.currencySelection.isSome → s'.currencySelection.isSome)
  | changed (hfirst : s.currencySelection = none)
      (hdefault : s.businessCurrency = defaultLocalization.currency)
      (hconfirmed : s'.currencySelection.isSome) (hinvoices : s.invoices = [])

def invoicesAsSeen (s : SettingsStore) (seen : Option (List String)) : SaveState → Bool
  | .writing request settings _ => request.locksCurrency = false ∨
      settings.currency = s.businessCurrency ∨ seen = some s.invoices
  | _ => true

theorem SaveEffect.currency {l l' : SaveState} (heffect : SaveEffect w s l s' l')
    (changes : List (String × String)) (h : SaveCurrency s seen l)
    (hseen : invoicesAsSeen s seen l = true) :
    CurrencyEffect s s' ∧ SaveCurrency s' (seenInvoices .save (s, changes) l seen) l' := by
  cases heffect with
  | lockedRenewal _ _ | skippedRenewal _ | lockedNumbering _ _ | skippedNumbering _ =>
    exact ⟨.same rfl id, trivial⟩
  | merged hsettings hlocks => exact ⟨.same rfl id, hlocks⟩
  | mergedOther hsettings hlocks =>
    refine ⟨.same rfl id, ?_⟩
    simp only [SaveCurrency, hlocks, Bool.false_eq_true, if_false]
  | lockedCurrency hfree => exact ⟨.same rfl id, h⟩
  | readCurrency request settings => exact ⟨.same rfl id, h, rfl, rfl⟩
  | checked hcheck =>
    obtain ⟨hlocks, rfl, rfl⟩ := h
    refine ⟨.same rfl id, ?_⟩
    simp only [SaveCurrency, hlocks, if_true]
    exact confirmsChange_of_check hcheck
  | rolledBack e => exact ⟨.same release_businessCurrency id, trivial⟩
  | @wrote request settings confirmedCurrency hfree =>
    refine ⟨?_, trivial⟩
    simp only [SaveCurrency] at h
    split at h
    · rename_i hlocks
      have hcommit := h.commit (of_decide_eq_true hlocks)
      by_cases hsame : settings.currency = s.businessCurrency
      · refine .same ?_ fun hsome => ?_
        · rw [release_businessCurrency, hcommit, hsame]
        · rw [release_currencySelection, writeSettings]
          cases confirmedCurrency with
          | none => exact hsome
          | some currency => rfl
      · obtain ⟨hconfirmed, hnone, hdefault, rfl⟩ := h.change hsame
        refine .changed hnone hdefault ?_ ?_
        · rw [release_currencySelection, writeSettings, hconfirmed]
          rfl
        · simpa [invoicesAsSeen, hlocks, hsame] using hseen
    · rename_i hlocks
      subst h
      have hkey : .localization ∉ request.keys := fun hkey => hlocks (decide_eq_true hkey)
      refine .same ?_ fun hsome => ?_
      · rw [release_businessCurrency]
        simp [SettingsStore.businessCurrency, writeSettings, hkey]
      · rw [release_currencySelection, writeSettings]
        exact hsome

theorem SaveEffect.localization {l l' : SaveState} (heffect : SaveEffect w s l s' l')
    (h : SaveCurrency s seen l) (hholds : l.holdsRenewal = false) :
    s'.localization = s.localization ∧ s'.currencySelection = s.currencySelection := by
  cases heffect with
  | @wrote request settings confirmedCurrency hfree =>
    have hlocks : request.locksCurrency = false := by
      by_contra hlocks
      rw [Bool.not_eq_false] at hlocks
      have hrenewal := SettingsRequest.locksRenewal_of_locksCurrency hlocks
      rw [SaveState.holdsRenewal, hrenewal] at hholds
      cases hholds
    simp only [SaveCurrency, hlocks, Bool.false_eq_true, if_false] at h
    subst h
    have hkey : .localization ∉ request.keys := of_decide_eq_false hlocks
    simp [SaveState.release, writeSettings, hkey]
  | lockedRenewal _ _ | skippedRenewal _ | lockedNumbering _ _ | skippedNumbering _ | merged _ _
  | mergedOther _ _ | lockedCurrency _ | readCurrency _ _ | checked _ | rolledBack _ =>
    exact ⟨rfl, rfl⟩

theorem createInvoiceStep_currency {l l' : InvoiceState}
    (h : createInvoiceStep w s l = some (s', l')) :
    (s'.localization = s.localization ∧ s'.currencySelection = s.currencySelection ∧
      s'.renewalLocked = s.renewalLocked) ∧ (s.invoices ≠ [] → s'.invoices ≠ []) := by
  cases l with
  | writing =>
    rw [createInvoiceStep] at h
    split at h
    · cases h
      exact ⟨⟨rfl, rfl, rfl⟩, id⟩
    split at h
    · cases h
    split at h
    · rename_i s₁ number hok
      cases h
      simp only [createInvoiceTransaction, allocateInvoiceNumber, eq_ok] at hok
      obtain ⟨⟨s₁, number⟩, ⟨next, -, heq⟩, -, hok⟩ := hok
      obtain ⟨rfl, rfl⟩ := Prod.mk.inj heq
      obtain ⟨rfl, -⟩ := hok
      exact ⟨⟨rfl, rfl, rfl⟩, fun _ hnil => List.append_ne_nil_of_right_ne_nil _ (by simp) hnil⟩
    · cases h
      exact ⟨⟨rfl, rfl, rfl⟩, id⟩
  | done result => cases h

/-! ## The automation policy -/

/-- `updatePolicy` has the lock on the row of the policy. -/
def PolicyState.holdsRenewal : PolicyState → Bool
  | .lockingRenewal _ | .done _ => false
  | .reading _ | .writing _ => true

def PolicyCurrency (s : SettingsStore) : PolicyState → Prop
  | .writing localization =>
    localization.currency = (s.localization.getD defaultLocalization).currency
  | .lockingRenewal _ | .reading _ | .done _ => True

theorem PolicyCurrency.congr {l : PolicyState} (h : PolicyCurrency s l)
    (hsame : l.holdsRenewal = true → s'.localization = s.localization) : PolicyCurrency s' l := by
  cases l with
  | lockingRenewal _ | reading _ | done _ => trivial
  | writing localization =>
    rw [PolicyCurrency, hsame rfl]
    exact h

/-- **A step of the policy**: the lock is taken, kept or given back, and the currency stays. -/
theorem updatePolicyStep_currency {l l' : PolicyState} (hcurrency : PolicyCurrency s l)
    (h : updatePolicyStep w s l = some (s', l')) :
    (s'.businessCurrency = s.businessCurrency ∧ s'.currencySelection = s.currencySelection ∧
      s'.invoices = s.invoices ∧ PolicyCurrency s' l') ∧
    (l.holdsRenewal = false → s'.localization = s.localization) := by
  cases l with
  | lockingRenewal timeZone =>
    rw [updatePolicyStep] at h
    split at h
    · cases h
      exact ⟨⟨rfl, rfl, rfl, trivial⟩, fun _ => rfl⟩
    split at h
    · cases h
    · cases h
      exact ⟨⟨rfl, rfl, rfl, trivial⟩, fun _ => rfl⟩
  | reading timeZone =>
    rw [updatePolicyStep] at h
    split at h
    · cases h
      exact ⟨⟨rfl, rfl, rfl, trivial⟩, fun _ => rfl⟩
    · cases h
      exact ⟨⟨rfl, rfl, rfl, rfl⟩, fun _ => rfl⟩
  | writing localization =>
    rw [updatePolicyStep] at h
    split at h
    · cases h
      exact ⟨⟨rfl, rfl, rfl, trivial⟩, fun hholds => nomatch hholds⟩
    · cases h
      refine ⟨⟨?_, rfl, rfl, trivial⟩, fun hholds => nomatch hholds⟩
      change s.currencySelection.getD localization.currency = s.businessCurrency
      rw [hcurrency]
      rfl
  | done result => cases h

theorem updatePolicyStep_moves {l l' : PolicyState} (h : updatePolicyStep w s l = some (s', l')) :
    (l.holdsRenewal = true ∧ l'.holdsRenewal = false) ∨
    (l'.holdsRenewal = l.holdsRenewal ∧ s'.renewalLocked = s.renewalLocked) ∨
    (s.renewalLocked = false ∧ s'.renewalLocked = true) := by
  cases l with
  | lockingRenewal timeZone =>
    rw [updatePolicyStep] at h
    split at h
    · cases h
      exact .inr (.inl ⟨rfl, rfl⟩)
    split at h
    · cases h
    · rename_i hfree
      cases h
      exact .inr (.inr ⟨Bool.eq_false_of_not_eq_true hfree, rfl⟩)
  | reading timeZone =>
    rw [updatePolicyStep] at h
    split at h
    · cases h
      exact .inl ⟨rfl, rfl⟩
    · cases h
      exact .inr (.inl ⟨rfl, rfl⟩)
  | writing localization =>
    rw [updatePolicyStep] at h
    split at h
    · cases h
      exact .inl ⟨rfl, rfl⟩
    · cases h
      exact .inl ⟨rfl, rfl⟩
  | done result => cases h

/-! ## Runs -/

def holdsRenewal : (op : SettingsOperation) → (settingsOperations op).Local → Bool
  | .createInvoice, _ => false
  | .save, l => SaveState.holdsRenewal l
  | .updatePolicy, l => PolicyState.holdsRenewal l

def ReliesOnCurrency (s : SettingsStore) (seen : Option (List String)) :
    (op : SettingsOperation) → (settingsOperations op).Local → Prop
  | .createInvoice, _ => True
  | .save, l => SaveCurrency s seen l
  | .updatePolicy, l => PolicyCurrency s l

def stepAsSeen (s : SettingsStore) (seen : Option (List String)) :
    (op : SettingsOperation) → (settingsOperations op).Local → Bool
  | .createInvoice, _ => true
  | .save, l => invoicesAsSeen s seen l
  | .updatePolicy, _ => true

/-- **The guard**: when a save commits a change of the currency, no invoice was committed since it
has checked that the currency is not locked. -/
def InvoicesAsSeen (_ : SettingsWorld) (s : SettingsStore × List (String × String))
    (t : Thread currencyOperations) : Prop :=
  stepAsSeen s.1 t.loc.1 t.op t.loc.2 = true
deriving Decidable

def renewalLock : Lock currencyOperations where
  taken s := s.1.renewalLocked = true
  holds t := holdsRenewal t.op t.loc.2 = true

theorem SaveEffect.renewalLock_moves {l l' : SaveState} (heffect : SaveEffect w s l s' l') :
    (l.holdsRenewal = true ∧ l'.holdsRenewal = false) ∨
    (l'.holdsRenewal = l.holdsRenewal ∧ s'.renewalLocked = s.renewalLocked) ∨
    (s.renewalLocked = false ∧ s'.renewalLocked = true) := by
  cases heffect with
  | lockedRenewal hlocks hfree => exact .inr (.inr ⟨hfree, rfl⟩)
  | skippedRenewal hlocks => exact .inr (.inl ⟨hlocks, rfl⟩)
  | @wrote request settings confirmedCurrency hfree =>
    by_cases hlocks : request.locksRenewal = true
    · exact .inl ⟨hlocks, rfl⟩
    · have hwithout := Bool.eq_false_of_not_eq_true hlocks
      exact .inr (.inl ⟨hwithout.symm, release_renewalLocked hwithout⟩)
  | rolledBack e =>
    by_cases hholds : l.holdsRenewal = true
    · exact .inl ⟨hholds, rfl⟩
    · have hwithout := Bool.eq_false_of_not_eq_true hholds
      exact .inr (.inl ⟨hwithout.symm, release_renewalLocked hwithout⟩)
  | lockedNumbering _ _ | skippedNumbering _ | merged _ _ | mergedOther _ _ | lockedCurrency _
  | readCurrency _ _ | checked _ => exact .inr (.inl ⟨rfl, rfl⟩)

theorem renewalLock_sound : renewalLock.Sound InvoicesAsSeen where
  start op request := by
    cases op with
    | createInvoice | save | updatePolicy => exact fun hholds => nomatch hholds
  moves w s t s' t' _ _ hmove := by
    obtain ⟨l, hstep, -, rfl⟩ := currencyThread_step hmove
    have hmoves : (holdsRenewal t.op t.loc.2 = true ∧ holdsRenewal t.op l = false) ∨
        (holdsRenewal t.op l = holdsRenewal t.op t.loc.2 ∧
          s'.1.renewalLocked = s.1.renewalLocked) ∨
        (s.1.renewalLocked = false ∧ s'.1.renewalLocked = true) := by
      obtain ⟨op, seen, loc⟩ := t
      cases op with
      | createInvoice => exact .inr (.inl ⟨rfl, (createInvoiceStep_currency hstep).1.2.2⟩)
      | save => exact (saveEffect_of_step hstep).renewalLock_moves
      | updatePolicy => exact updatePolicyStep_moves hstep
    rcases hmoves with ⟨hholds, hreleased⟩ | ⟨hsame, htaken⟩ | ⟨hfree, htaken⟩
    · exact .releases hholds (by simp [renewalLock, hreleased])
    · exact .stays (by simp [renewalLock, hsame]) (by simp [renewalLock, htaken])
    · exact .takes (by simp [renewalLock, hfree]) htaken

theorem currency_step (changes : List (String × String))
    (hrelies : ReliesOnCurrency s seen op l) (hseen : stepAsSeen s seen op l = true)
    (hstep : (settingsOperations op).step w s l = some (s', l')) :
    CurrencyEffect s s' ∧ ReliesOnCurrency s' (seenInvoices op (s, changes) l seen) op l' ∧
      (s.invoices ≠ [] → s'.invoices ≠ []) := by
  cases op with
  | createInvoice =>
    obtain ⟨⟨hlocalization, hselection, -⟩, hinvoices⟩ := createInvoiceStep_currency hstep
    refine ⟨.same ?_ (by rw [hselection]; exact id), trivial, hinvoices⟩
    rw [SettingsStore.businessCurrency, hlocalization, hselection]
    rfl
  | save =>
    have heffect := saveEffect_of_step hstep
    obtain ⟨hcurrency, hsave⟩ := heffect.currency changes hrelies hseen
    exact ⟨hcurrency, hsave, by rw [heffect.invoices]; exact id⟩
  | updatePolicy =>
    obtain ⟨⟨hcurrency, hselection, hinvoices, hpolicy⟩, -⟩ :=
      updatePolicyStep_currency hrelies hstep
    exact ⟨.same hcurrency (by rw [hselection]; exact id), hpolicy, by rw [hinvoices]; exact id⟩

theorem localization_of_step
    (hrelies : ReliesOnCurrency s seen op l) (hholds : holdsRenewal op l = false)
    (hstep : (settingsOperations op).step w s l = some (s', l')) :
    s'.localization = s.localization ∧ s'.currencySelection = s.currencySelection := by
  cases op with
  | createInvoice =>
    have hkept := (createInvoiceStep_currency hstep).1
    exact ⟨hkept.1, hkept.2.1⟩
  | save => exact (saveEffect_of_step hstep).localization hrelies hholds
  | updatePolicy =>
    obtain ⟨⟨-, hselection, -⟩, hlocalization⟩ := updatePolicyStep_currency hrelies hstep
    exact ⟨hlocalization hholds, hselection⟩

theorem ReliesOnCurrency.congr (h : ReliesOnCurrency s seen op l)
    (hsame : holdsRenewal op l = true →
      s'.localization = s.localization ∧ s'.currencySelection = s.currencySelection) :
    ReliesOnCurrency s' seen op l := by
  cases op with
  | createInvoice => trivial
  | save => exact SaveCurrency.congr h hsame
  | updatePolicy => exact PolicyCurrency.congr h fun hholds => (hsame hholds).1

theorem CurrencyEffect.changedOnce (heffect : CurrencyEffect s s') (h : ChangedOnce s changes)
    (hstep : (settingsOperations op).step w s l = some (s', l')) :
    ChangedOnce s' (changes ++ changedCurrency op w s l) := by
  rw [changedCurrency, hstep, Option.elim_some]
  cases heffect with
  | same hcurrency hselection =>
    rw [if_pos hcurrency, List.append_nil]
    exact ⟨h.once, h.default, fun hne => hselection (h.confirmed hne)⟩
  | changed hfirst hdefault hconfirmed _ =>
    have hnone : changes = [] := by
      by_contra hne
      have := h.confirmed hne
      rw [hfirst] at this
      cases this
    subst hnone
    split
    · exact ⟨Nat.zero_le 1, fun _ hmem => absurd hmem List.not_mem_nil, fun _ => hconfirmed⟩
    · refine ⟨Nat.le_refl 1, fun change hmem => ?_, fun _ => hconfirmed⟩
      rw [List.nil_append, List.mem_singleton] at hmem
      rw [hmem]
      exact hdefault

def currencyOutline : Outline currencyOperations :=
  renewalLock.outline (fun s => ChangedOnce s.1 s.2) fun s t =>
    ReliesOnCurrency s.1 t.loc.1 t.op t.loc.2

theorem currencyOutline_sound : currencyOutline.Sound InvoicesAsSeen := by
  refine renewalLock_sound.outline_sound ?_ ?_ ?_
  · intro s op request _
    cases op with
    | createInvoice | save | updatePolicy => trivial
  · intro w s t s' t' hseen hs _ hrelies hmove
    obtain ⟨l, hstep, htrace, rfl⟩ := currencyThread_step hmove
    obtain ⟨heffect, hrelies', -⟩ := currency_step s.2 hrelies hseen hstep
    rw [htrace]
    exact ⟨heffect.changedOnce hs hstep, hrelies'⟩
  · intro w s t s' t' u _ _ hrelies hu _ hexcludes hmove
    obtain ⟨l, hstep, -, rfl⟩ := currencyThread_step hmove
    refine hu.congr fun hholds => ?_
    exact localization_of_step hrelies (Bool.eq_false_of_not_eq_true (hexcludes hholds)) hstep

def StaysSettled (s s' : SettingsStore × List (String × String)) : Prop :=
  CurrencySettled s.1 → CurrencySettled s'.1 ∧ s'.1.businessCurrency = s.1.businessCurrency

theorem staysSettled_of_step
    (hrelies : ReliesOnCurrency s seen op l) (hseen : stepAsSeen s seen op l = true)
    (hstep : (settingsOperations op).step w s l = some (s', l')) (hsettled : CurrencySettled s) :
    CurrencySettled s' ∧ s'.businessCurrency = s.businessCurrency := by
  obtain ⟨heffect, -, hinvoices⟩ := currency_step [] hrelies hseen hstep
  cases heffect with
  | same hcurrency hselection => exact ⟨hsettled.imp hselection hinvoices, hcurrency⟩
  | changed hfirst _ _ hnone =>
    rcases hsettled with hsome | hne
    · rw [hfirst] at hsome
      cases hsome
    · exact absurd hnone hne

/-- **The business currency is settled.**  In every interleaving of saves, invoices and changes of
the automation policy in which no invoice is committed between the check and the commit of a change:
the currency changes at most once, from the default one, and from any point on at which it was
confirmed or an invoice exists it does not change any more. -/
theorem business_currency_settled {c c' : Config currencyOperations}
    (hr : Reaches InvoicesAsSeen ⟨(s, []), []⟩ c)
    (hr' : Reaches InvoicesAsSeen c c') :
    ChangedOnce c'.shared.1 c'.shared.2 ∧ (CurrencySettled c.shared.1 →
      c'.shared.1.businessCurrency = c.shared.1.businessCurrency) := by
  have hinit : ChangedOnce s [] :=
    ⟨Nat.zero_le 1, fun _ hmem => absurd hmem List.not_mem_nil, fun hne => absurd rfl hne⟩
  have hholds := currencyOutline_sound.holds
    (Outline.holds_idle (P := currencyOutline) (s := (s, [])) hinit) hr
  have hstays : StaysSettled c.shared c'.shared := by
    refine currencyOutline_sound.related (fun _ h => ⟨h, rfl⟩) (fun a b c hab hbc h => ?_)
      (fun w s t s' t' hseen _ ht hstep hsettled => ?_) hholds hr'
    · obtain ⟨hb, hcurrency⟩ := hab h
      obtain ⟨hc, hcurrency'⟩ := hbc hb
      exact ⟨hc, hcurrency'.trans hcurrency⟩
    · obtain ⟨l, hmove, -⟩ := currencyThread_step hstep
      exact staysSettled_of_step ht.2 hseen hmove hsettled
  exact ⟨(currencyOutline_sound.holds hholds hr').shared, fun hsettled => (hstays hsettled).2⟩

end

/-! ### A currency that is confirmed while the first invoice is created -/

def confirmDollars : SettingsRequest :=
  .patch { localization := some ⟨"USD", "Asia/Dhaka"⟩, confirmCurrency := true }

def checkLocalization : List (Move currencyOperations) :=
  [.call .save confirmDollars, .advance 0 {}, .advance 0 {}, .advance 0 {}, .advance 0 {},
    .advance 0 {}, .advance 0 {}]

def confirmedConfig : Config currencyOperations :=
  Config.after ⟨({}, []), []⟩ (checkLocalization ++ [.advance 0 {}]) (by decide +kernel)

def billAndPatch : List (Move currencyOperations) :=
  [.call .createInvoice (), .advance 1 {},
    .call .save (.patch { localization := some ⟨"EUR", "Asia/Dhaka"⟩, confirmCurrency := true }),
    .advance 2 {}, .advance 2 {}, .advance 2 {}, .advance 2 {}, .advance 2 {}, .advance 2 {}]

def billedConfig : Config currencyOperations :=
  Config.after confirmedConfig billAndPatch (by decide +kernel)

theorem confirmed_currency_settled : confirmedConfig.shared.1.businessCurrency = "USD" ∧
    ChangedOnce billedConfig.shared.1 billedConfig.shared.2 ∧
    (CurrencySettled confirmedConfig.shared.1 →
      billedConfig.shared.1.businessCurrency = confirmedConfig.shared.1.businessCurrency) :=
  ⟨by decide +kernel,
    business_currency_settled
      (reaches_of_run (run_eq_after
        (show (Config.run ⟨({}, []), []⟩ (checkLocalization ++ [.advance 0 {}])).isSome = true
          by decide +kernel)) (by decide +kernel))
      (reaches_of_run (run_eq_after
        (show (confirmedConfig.run billAndPatch).isSome = true by decide +kernel))
        (by decide +kernel))⟩

def invoiceDuringSave : List (Move currencyOperations) :=
  checkLocalization ++ [.call .createInvoice (), .advance 1 {}]

def invoicedConfig : Config currencyOperations :=
  Config.after ⟨({}, []), []⟩ invoiceDuringSave (by decide +kernel)

def committedConfig : Config currencyOperations :=
  Config.after invoicedConfig [.advance 0 {}] (by decide +kernel)

/-- **The currency changes while an invoice exists.** -/
theorem currency_changed_after_invoice :
    Config.run ⟨({}, []), []⟩ invoiceDuringSave = some invoicedConfig ∧
    invoicedConfig.run [.advance 0 {}] = some committedConfig ∧
    invoicedConfig.shared.1.invoices = ["INV-001001"] ∧
    invoicedConfig.shared.1.businessCurrency = "BDT" ∧
    committedConfig.shared.1.businessCurrency = "USD" :=
  ⟨run_eq_after _, run_eq_after _, by decide +kernel, by decide +kernel,
    by decide +kernel⟩

end Settings

end WebhostBilling
