import WebhostBilling.Settings.SettingsSteps

/-!
# Invoice numbers only go up

Every invoice takes the next number from the row of the numbers and moves it on, under the lock of
that row.  A tab that does not submit the next number keeps the one that it has read under the lock;
but a form always submits it, as it was when the form was read, and a tab may.
-/

namespace WebhostBilling

open Store Concurrency Config

namespace Settings

/-! ## What is noted -/

def issued (s : SettingsStore) : InvoiceState → List InvoiceNumberingSettings
  | .done (.ok _) => [s.numbering]
  | _ => []

def issuing (w : SettingsWorld) (s : SettingsStore) (l : InvoiceState) :
    List InvoiceNumberingSettings :=
  (createInvoiceStep w s l).elim [] fun out => issued s out.2

def issuedBy : (op : SettingsOperation) → SettingsWorld → SettingsStore →
    (settingsOperations op).Local → List InvoiceNumberingSettings
  | .createInvoice, w, s, l => issuing w s l
  | .save, _, _, _ => []
  | .updatePolicy, _, _, _ => []

abbrev numberedOperations := tracedFamily settingsOperations issuedBy

/-- **The numbers are in order**: the invoices have those that were given out, no two the same, and
the next one lies above all of them. -/
structure Numbered (s : SettingsStore) (numbers : List InvoiceNumberingSettings) : Prop where
  invoices : s.invoices = numbers.map formatInvoiceNumber
  distinct : s.invoices.Nodup
  below : ∀ given ∈ numbers, given.nextNumber < s.numbering.nextNumber

section

variable {w : SettingsWorld} {s s' : SettingsStore} {numbers : List InvoiceNumberingSettings}

theorem Numbered.notMem (h : Numbered s numbers) :
    formatInvoiceNumber s.numbering ∉ s.invoices := by
  intro hmem
  rw [h.invoices, List.mem_map] at hmem
  obtain ⟨given, hgiven, hformat⟩ := hmem
  have hsame := (formatInvoiceNumber_inj hformat).2
  have hbelow := h.below given hgiven
  omega

theorem Numbered.of_above (h : Numbered s numbers) (hinvoices : s'.invoices = s.invoices)
    (habove : ∀ given ∈ numbers, given.nextNumber < s'.numbering.nextNumber) :
    Numbered s' numbers where
  invoices := hinvoices.trans h.invoices
  distinct := hinvoices ▸ h.distinct
  below := habove

/-! ## An invoice -/

theorem createInvoiceTransaction_eq_ok {invoiceNumber : String}
    (h : createInvoiceTransaction s = .ok (s', invoiceNumber)) :
    ∃ next, s.numbering.advance = some next ∧ formatInvoiceNumber s.numbering ∉ s.invoices ∧
      s' = { s with
        invoiceNumbering := some next
        invoices := s.invoices ++ [formatInvoiceNumber s.numbering] } := by
  simp only [createInvoiceTransaction, allocateInvoiceNumber, eq_ok] at h
  obtain ⟨⟨s₁, number⟩, ⟨next, hnext, heq⟩, hfree, h⟩ := h
  obtain ⟨rfl, rfl⟩ := Prod.mk.inj heq
  obtain ⟨rfl, -⟩ := h
  exact ⟨next, hnext, hfree, rfl⟩

theorem createInvoiceTransaction_eq_error (hfree : formatInvoiceNumber s.numbering ∉ s.invoices)
    {e : Failure} (h : createInvoiceTransaction s = .error e) : e = exhausted := by
  simp only [createInvoiceTransaction, allocateInvoiceNumber, bind_eq_error, bind_eq_ok,
    orThrow_eq_ok, orThrow_eq_error, pure_eq_ok] at h
  rcases h with (⟨-, rfl⟩ | ⟨_, -, hpure⟩) | ⟨⟨s₁, number⟩, ⟨next, -, heq⟩, hrest⟩
  · rfl
  · exact absurd hpure pure_ne_error
  · obtain ⟨rfl, rfl⟩ := Prod.mk.inj heq
    rcases hrest with hrequire | ⟨_, -, hpure⟩
    · rw [require_eq_error] at hrequire
      exact absurd hfree hrequire.1
    · exact absurd hpure pure_ne_error

def NotTaken (l : InvoiceState) : Prop := l ≠ .done (.error .uniqueConstraint)

theorem createInvoice_step {l l' : InvoiceState} (h : Numbered s numbers)
    (hstep : createInvoiceStep w s l = some (s', l')) :
    NotTaken l' ∧ Numbered s' (numbers ++ issuing w s l) ∧
      (s.numberingLocked = true → s'.numbering = s.numbering) ∧
      s'.numberingLocked = s.numberingLocked := by
  rw [issuing, hstep, Option.elim_some]
  cases l with
  | writing =>
    rw [createInvoiceStep] at hstep
    split at hstep
    · cases hstep
      exact ⟨by simp [NotTaken, transactionAborted], by simpa [issued] using h, fun _ => rfl, rfl⟩
    split at hstep
    · cases hstep
    rename_i hunlocked
    split at hstep
    · rename_i s₁ number hok
      cases hstep
      obtain ⟨next, hnext, hfree, rfl⟩ := createInvoiceTransaction_eq_ok hok
      have hnumber : next.nextNumber = s.numbering.nextNumber + 1 :=
        InvoiceNumberingSettings.nextNumber_advance hnext
      refine ⟨by simp [NotTaken], ⟨?_, ?_, fun given hgiven => ?_⟩,
        fun hlocked => absurd hlocked hunlocked, rfl⟩
      · rw [List.map_append, ← h.invoices]
        rfl
      · exact List.nodup_append.2 ⟨h.distinct, List.nodup_singleton _, fun a ha b hb => by
          rw [List.mem_singleton] at hb
          rintro rfl
          exact hfree (hb ▸ ha)⟩
      · change given.nextNumber < next.nextNumber
        rw [hnumber]
        rcases List.mem_append.1 hgiven with hold | hnew
        · have := h.below given hold
          omega
        · rw [List.mem_singleton.1 hnew]
          omega
    · rename_i e herror
      cases hstep
      have hexhausted := createInvoiceTransaction_eq_error h.notMem herror
      exact ⟨by simp [NotTaken, hexhausted, exhausted], by simpa [issued] using h, fun _ => rfl, rfl⟩
  | done result => cases hstep

/-! ## A save -/

def SaveState.saved? : SaveState → Option (SettingsRequest × BusinessSettings)
  | .lockingRenewal _ | .lockingNumbering _ | .merging _ | .done _ => none
  | .lockingCurrency request settings | .readingCurrency request settings
  | .checkingCurrency request settings _ _ | .writing request settings _ =>
    some (request, settings)

variable {l l' : SaveState}

variable {request : SettingsRequest} {settings : BusinessSettings} {op : SettingsOperation}

theorem holdsNumbering_of_saved (h : l.saved? = some (request, settings)) :
    l.holdsNumbering = request.locksNumbering := by
  cases l with
  | lockingRenewal _ | lockingNumbering _ | merging _ | done _ => cases h
  | lockingCurrency _ _ | readingCurrency _ _ | checkingCurrency _ _ _ _ | writing _ _ _ =>
    cases h
    rfl

def SaveNumbers (s : SettingsStore) (l : SaveState) : Prop :=
  ∀ request settings, l.saved? = some (request, settings) → .invoiceNumbering ∈ request.keys →
    settings.invoiceNumbering.nextNumber = request.submittedNumber.getD s.numbering.nextNumber

theorem nextNumber_settings (h : request.settings s = .ok settings) :
    settings.invoiceNumbering.nextNumber =
      request.submittedNumber.getD s.numbering.nextNumber := by
  cases request with
  | update form =>
    cases h
    rfl
  | patch input =>
    simp only [SettingsRequest.settings, eq_ok] at h
    obtain ⟨numbering, hmerge, rfl⟩ := h
    have hnumber := (InvoiceNumberingSettings.parse_eq_some hmerge).2.1
    simp only [SettingsStore.overview] at hnumber
    rw [hnumber, SettingsRequest.submittedNumber]
    cases input.invoiceNumbering <;> rfl

def submitsAbove (numbers : List InvoiceNumberingSettings) : SaveState → Bool
  | .writing request _ _ => .invoiceNumbering ∉ request.keys ∨
      ∀ n ∈ request.submittedNumber, ∀ given ∈ numbers, given.nextNumber < n
  | _ => true

theorem SaveEffect.numbered (heffect : SaveEffect w s l s' l')
    (h : Numbered s numbers) (hsave : SaveNumbers s l) (habove : submitsAbove numbers l = true) :
    Numbered s' numbers ∧ SaveNumbers s' l' := by
  cases heffect with
  | lockedRenewal _ _ | skippedRenewal _ | lockedNumbering _ _ | skippedNumbering _ =>
    exact ⟨⟨h.invoices, h.distinct, h.below⟩, fun _ _ hnone => nomatch hnone⟩
  | merged hsettings _ | mergedOther hsettings _ =>
    refine ⟨h, fun request settings hsome _ => ?_⟩
    cases hsome
    exact nextNumber_settings hsettings
  | lockedCurrency _ | readCurrency _ _ | checked _ =>
    refine ⟨⟨h.invoices, h.distinct, h.below⟩, fun request settings hsome hkey => ?_⟩
    cases hsome
    exact hsave _ _ rfl hkey
  | rolledBack e =>
    exact ⟨⟨h.invoices, h.distinct, h.below⟩, fun _ _ hnone => nomatch hnone⟩
  | @wrote request settings confirmedCurrency hfree =>
    refine ⟨h.of_above rfl fun given hgiven => ?_, fun _ _ hnone => nomatch hnone⟩
    rw [release_numbering]
    by_cases hkey : .invoiceNumbering ∈ request.keys
    · have hnumber := hsave request settings rfl hkey
      have hwritten : (writeSettings request settings confirmedCurrency s).numbering =
          settings.invoiceNumbering := by
        simp [SettingsStore.numbering, writeSettings, hkey]
      rw [hwritten, hnumber]
      cases hsubmitted : request.submittedNumber with
      | none => exact h.below given hgiven
      | some n =>
        simp only [submitsAbove, hsubmitted, Option.mem_some_iff, forall_eq', decide_eq_true_eq]
          at habove
        exact habove.elim (absurd hkey) fun hlt => hlt given hgiven
    · have hkept : (writeSettings request settings confirmedCurrency s).numbering = s.numbering := by
        simp [SettingsStore.numbering, writeSettings, hkey]
      rw [hkept]
      exact h.below given hgiven

theorem SaveEffect.numbering (heffect : SaveEffect w s l s' l')
    (hlocked : s.numberingLocked = true) (hholds : l.holdsNumbering = false) :
    s'.numbering = s.numbering := by
  cases heffect with
  | @wrote request settings confirmedCurrency hfree =>
    rw [release_numbering]
    have hkey : .invoiceNumbering ∉ request.keys := by
      intro hkey
      have hunlocked := hfree hkey hholds
      rw [hunlocked] at hlocked
      cases hlocked
    simp [SettingsStore.numbering, writeSettings, hkey]
  | rolledBack e => exact release_numbering
  | lockedRenewal _ _ | skippedRenewal _ | lockedNumbering _ _ | skippedNumbering _ | merged _ _
  | mergedOther _ _ | lockedCurrency _ | readCurrency _ _ | checked _ => rfl

theorem updatePolicyStep_numbers {l l' : PolicyState} (h : updatePolicyStep w s l = some (s', l')) :
    s'.invoices = s.invoices ∧ s'.numbering = s.numbering ∧
      s'.numberingLocked = s.numberingLocked := by
  cases l with
  | lockingRenewal timeZone =>
    rw [updatePolicyStep] at h
    split at h
    · cases h
      exact ⟨rfl, rfl, rfl⟩
    · split at h
      · cases h
      · cases h
        exact ⟨rfl, rfl, rfl⟩
  | reading timeZone | writing localization =>
    rw [updatePolicyStep] at h
    split at h
    · cases h
      exact ⟨rfl, rfl, rfl⟩
    · cases h
      exact ⟨rfl, rfl, rfl⟩
  | done result => cases h

/-! ## Runs -/

def HoldsNumbering : (op : SettingsOperation) → (settingsOperations op).Local → Prop
  | .createInvoice, _ => False
  | .save, l => SaveState.holdsNumbering l = true
  | .updatePolicy, _ => False

/-- What is asserted of a thread: an invoice did not fail because its number was taken, and a save
writes the number that was submitted or is current. -/
def NumbersKept (s : SettingsStore) : (op : SettingsOperation) → (settingsOperations op).Local → Prop
  | .createInvoice, l => NotTaken l
  | .save, l => SaveNumbers s l
  | .updatePolicy, _ => True

def stepSubmitsAbove (numbers : List InvoiceNumberingSettings) :
    (op : SettingsOperation) → (settingsOperations op).Local → Bool
  | .createInvoice, _ => true
  | .save, l => submitsAbove numbers l
  | .updatePolicy, _ => true

/-- **The guard**: when a save writes the row of the numbers, the next number that its request
submits, if it submits one, lies above every number that was given out. -/
def SubmitsAbove (_ : SettingsWorld) (s : SettingsStore × List InvoiceNumberingSettings)
    (t : Thread numberedOperations) : Prop :=
  stepSubmitsAbove s.2 t.op t.loc = true
deriving Decidable

def numberingLock : Lock numberedOperations where
  taken s := s.1.numberingLocked = true
  holds t := HoldsNumbering t.op t.loc

theorem SaveEffect.numberingLock_moves (heffect : SaveEffect w s l s' l') :
    ((l'.holdsNumbering = true ↔ l.holdsNumbering = true) ∧
      s'.numberingLocked = s.numberingLocked) ∨
    (l.holdsNumbering = true ∧ l'.holdsNumbering = false) ∨
    (s.numberingLocked = false ∧ s'.numberingLocked = true) := by
  cases heffect with
  | lockedNumbering hlocks hfree => exact .inr (.inr ⟨hfree, rfl⟩)
  | skippedNumbering hlocks => exact .inl ⟨by simp [SaveState.holdsNumbering, hlocks], rfl⟩
  | @wrote request settings confirmedCurrency hfree =>
    by_cases hlocks : request.locksNumbering = true
    · exact .inr (.inl ⟨hlocks, rfl⟩)
    · refine .inl ⟨by simp [SaveState.holdsNumbering, hlocks], ?_⟩
      exact release_numberingLocked (Bool.eq_false_of_not_eq_true hlocks)
  | rolledBack e =>
    by_cases hholds : l.holdsNumbering = true
    · exact .inr (.inl ⟨hholds, rfl⟩)
    · have hwithout := Bool.eq_false_of_not_eq_true hholds
      exact .inl ⟨⟨(nomatch ·), (absurd · hholds)⟩, release_numberingLocked hwithout⟩
  | lockedRenewal _ _ | skippedRenewal _ | merged _ _ | mergedOther _ _ | lockedCurrency _
  | readCurrency _ _ | checked _ => exact .inl ⟨Iff.rfl, rfl⟩

theorem createInvoiceStep_locked {l l' : InvoiceState}
    (h : createInvoiceStep w s l = some (s', l')) : s'.numberingLocked = s.numberingLocked := by
  cases l with
  | writing =>
    rw [createInvoiceStep] at h
    split at h
    · cases h
      rfl
    split at h
    · cases h
    split at h
    · rename_i s₁ number hok
      cases h
      obtain ⟨next, -, -, rfl⟩ := createInvoiceTransaction_eq_ok hok
      rfl
    · cases h
      rfl
  | done result => cases h

theorem numberingLock_sound : numberingLock.Sound SubmitsAbove where
  start op request := by
    cases op with
    | createInvoice | updatePolicy => exact id
    | save => exact fun hholds => nomatch hholds
  moves w s t s' t' _ _ hmove := by
    obtain ⟨l, hstep, -, rfl⟩ := Thread.traced_step hmove
    obtain ⟨op, loc⟩ := t
    cases op with
    | createInvoice =>
      refine .stays Iff.rfl ?_
      change s'.1.numberingLocked = true ↔ s.1.numberingLocked = true
      rw [createInvoiceStep_locked hstep]
    | save =>
      rcases (saveEffect_of_step hstep).numberingLock_moves with
        ⟨hsame, htaken⟩ | ⟨hholds, hreleased⟩ | ⟨hfree, htaken⟩
      · refine .stays hsame ?_
        change s'.1.numberingLocked = true ↔ s.1.numberingLocked = true
        rw [htaken]
      · refine .releases hholds ?_
        change ¬ SaveState.holdsNumbering l = true
        rw [hreleased]
        exact Bool.false_ne_true
      · exact .takes (by simp [numberingLock, hfree]) htaken
    | updatePolicy =>
      refine .stays Iff.rfl ?_
      change s'.1.numberingLocked = true ↔ s.1.numberingLocked = true
      rw [(updatePolicyStep_numbers hstep).2.2]

def numberingOutline : Outline numberedOperations :=
  numberingLock.outline (fun s => Numbered s.1 s.2) fun s t => NumbersKept s.1 t.op t.loc

theorem numbered_step {l l' : (settingsOperations op).Local} (h : Numbered s numbers)
    (hkept : NumbersKept s op l) (habove : stepSubmitsAbove numbers op l = true)
    (hstep : (settingsOperations op).step w s l = some (s', l')) :
    Numbered s' (numbers ++ issuedBy op w s l) ∧ NumbersKept s' op l' := by
  cases op with
  | createInvoice =>
    obtain ⟨hnot, hnumbered, -, -⟩ := createInvoice_step h hstep
    exact ⟨hnumbered, hnot⟩
  | save =>
    obtain ⟨hnumbered, hsave⟩ := (saveEffect_of_step hstep).numbered h hkept habove
    refine ⟨?_, hsave⟩
    rw [issuedBy, List.append_nil]
    exact hnumbered
  | updatePolicy =>
    obtain ⟨hinvoices, hnumbering, -⟩ := updatePolicyStep_numbers hstep
    refine ⟨?_, trivial⟩
    rw [issuedBy, List.append_nil]
    exact h.of_above hinvoices (hnumbering ▸ h.below)

/-- A thread without the lock leaves the next number alone while another one has it. -/
theorem numbering_of_step {l l' : (settingsOperations op).Local} (h : Numbered s numbers)
    (hlocked : s.numberingLocked = true) (hholds : ¬ HoldsNumbering op l)
    (hstep : (settingsOperations op).step w s l = some (s', l')) :
    s'.numbering = s.numbering := by
  cases op with
  | createInvoice => exact (createInvoice_step h hstep).2.2.1 hlocked
  | save =>
    exact (saveEffect_of_step hstep).numbering hlocked (Bool.eq_false_of_not_eq_true hholds)
  | updatePolicy => exact (updatePolicyStep_numbers hstep).2.1

theorem numberingOutline_sound : numberingOutline.Sound SubmitsAbove := by
  refine numberingLock_sound.outline_sound ?_ ?_ ?_
  · intro s op request _
    cases op with
    | createInvoice => exact fun h => nomatch h
    | save => exact fun _ _ h => nomatch h
    | updatePolicy => trivial
  · intro w s t s' t' habove hs _ hkept hmove
    obtain ⟨l, hstep, htrace, rfl⟩ := Thread.traced_step hmove
    rw [htrace]
    exact numbered_step hs hkept habove hstep
  · intro w s t s' t' u _ hs _ hu htaken hexcludes hmove
    obtain ⟨l, hstep, -, rfl⟩ := Thread.traced_step hmove
    obtain ⟨op, loc⟩ := u
    cases op with
    | createInvoice => exact hu
    | updatePolicy => trivial
    | save =>
      intro request settings hsaved hkey
      rw [hu request settings hsaved hkey]
      cases hsubmitted : request.submittedNumber with
      | some n => rfl
      | none =>
        -- The tab has the lock, so the current number is still the one that it has read.
        have hholds : SaveState.holdsNumbering loc = true :=
          (holdsNumbering_of_saved hsaved).trans
            (SettingsRequest.locksNumbering_of_submittedNumber hkey hsubmitted)
        rw [numbering_of_step hs (htaken hholds) (hexcludes hholds) hstep]

/-- No invoice of the configuration failed because its number was taken. -/
def NoneTaken (c : Config numberedOperations) : Prop :=
  ∀ t ∈ c.threads, ∀ l : InvoiceState, t = ⟨.createInvoice, l⟩ → NotTaken l

/-- **Invoice numbers never go back.**  In every interleaving of invoices, of saves of the settings
and of the automation policy, in which what a save submits as the next number lies above every
number given out by then: the invoices have the numbers that were given out, no two of them the
same, the next number lies above all of them, and no invoice fails because its number is taken. -/
theorem invoice_numbers_never_go_back (hnumbered : Numbered s numbers)
    {c : Config numberedOperations} (hr : Reaches SubmitsAbove ⟨(s, numbers), []⟩ c) :
    Numbered c.shared.1 c.shared.2 ∧ NoneTaken c := by
  have hholds := numberingOutline_sound.holds
    (Outline.holds_idle (P := numberingOutline) (s := (s, numbers)) hnumbered) hr
  refine ⟨hholds.shared, fun t ht l hl => ?_⟩
  subst hl
  exact (hholds.thread _ ht).2

end

/-! ### A form that was read before an invoice was created -/

def defaultForm : BusinessSettings := SettingsStore.overview {}

theorem numbered_empty : Numbered {} [] where
  invoices := rfl
  distinct := List.nodup_nil
  below := fun _ h => nomatch h

def saveForm (position : ℕ) : List (Move numberedOperations) :=
  [.advance position {}, .advance position {}, .advance position {}, .advance position {},
    .advance position {}, .advance position {}, .advance position {}]

def savesInOrder : List (Move numberedOperations) :=
  [.call .save (.update defaultForm)] ++ saveForm 0 ++
    [.call .createInvoice (), .advance 1 {},
      .call .save (.patch { invoiceNumbering := some { nextNumber := some 2000 } }),
      .advance 2 {}, .advance 2 {}, .advance 2 {}, .advance 2 {},
      .call .createInvoice (), .advance 3 {}]

def orderlyConfig : Config numberedOperations :=
  Config.after ⟨({}, []), []⟩ savesInOrder (by decide +kernel)

theorem orderly_numbers : orderlyConfig.shared.1.invoices = ["INV-001001", "INV-002000"] ∧
    Numbered orderlyConfig.shared.1 orderlyConfig.shared.2 ∧ NoneTaken orderlyConfig :=
  ⟨by decide +kernel,
    invoice_numbers_never_go_back numbered_empty (reaches_of_run
      (run_eq_after (show (Config.run ⟨({}, []), []⟩ savesInOrder).isSome = true
        by decide +kernel)) (by decide +kernel))⟩

def staleForm : List (Move numberedOperations) :=
  [.call .createInvoice (), .advance 0 {}, .call .save (.update defaultForm)] ++ saveForm 1 ++
    [.call .createInvoice (), .advance 2 {}]

def staleConfig : Config numberedOperations :=
  Config.after ⟨({}, []), []⟩ staleForm (by decide +kernel)

/-- **The numbers go back**: after a save of the form as it was read at first the next number is one
that was given out, and the next invoice fails. -/
theorem next_number_taken_again : Config.run ⟨({}, []), []⟩ staleForm = some staleConfig ∧
    staleConfig.shared.1.invoices = ["INV-001001"] ∧
    staleConfig.shared.1.numbering = defaultForm.invoiceNumbering ∧
    ¬ Numbered staleConfig.shared.1 staleConfig.shared.2 ∧ ¬ NoneTaken staleConfig := by
  have hinvoices : staleConfig.shared.1.invoices = ["INV-001001"] := by decide +kernel
  have hnumbering : staleConfig.shared.1.numbering = defaultForm.invoiceNumbering := by
    decide +kernel
  refine ⟨run_eq_after _, hinvoices, hnumbering, fun h => ?_, fun h => ?_⟩
  · refine h.notMem ?_
    rw [hinvoices, hnumbering]
    decide +kernel
  · have hfailed : staleConfig.threads[2]? =
        some ⟨.createInvoice, (.done (.error .uniqueConstraint) : InvoiceState)⟩ := by
      rfl
    exact h _ (List.mem_of_getElem? hfailed) _ rfl rfl

end Settings

end WebhostBilling
