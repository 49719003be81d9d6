import WebhostBilling.Concurrency.Locks
import WebhostBilling.Settings.SettingsService

/-!
# What a save does

`SaveEffect` lists what one step of a save can do; everything about runs of the settings service is
read off it.
-/

namespace WebhostBilling

open Store Concurrency

namespace Settings

section

variable {w : SettingsWorld} {s s' : SettingsStore} {l l' : SaveState}

inductive SaveEffect (w : SettingsWorld) (s : SettingsStore) :
    SaveState → SettingsStore → SaveState → Prop
  | lockedRenewal {request : SettingsRequest} (hlocks : request.locksRenewal = true)
      (hfree : s.renewalLocked = false) :
      SaveEffect w s (.lockingRenewal request) { s with renewalLocked := true }
        (.lockingNumbering request)
  | skippedRenewal {request : SettingsRequest} (hlocks : request.locksRenewal = false) :
      SaveEffect w s (.lockingRenewal request) s (.lockingNumbering request)
  | lockedNumbering {request : SettingsRequest} (hlocks : request.locksNumbering = true)
      (hfree : s.numberingLocked = false) :
      SaveEffect w s (.lockingNumbering request) { s with numberingLocked := true }
        (.merging request)
  | skippedNumbering {request : SettingsRequest} (hlocks : request.locksNumbering = false) :
      SaveEffect w s (.lockingNumbering request) s (.merging request)
  | merged {request : SettingsRequest} {settings : BusinessSettings}
      (hsettings : request.settings s = .ok settings) (hlocks : request.locksCurrency = true) :
      SaveEffect w s (.merging request) s (.lockingCurrency request settings)
  | mergedOther {request : SettingsRequest} {settings : BusinessSettings}
      (hsettings : request.settings s = .ok settings) (hlocks : request.locksCurrency = false) :
      SaveEffect w s (.merging request) s (.writing request settings none)
  | lockedCurrency {request : SettingsRequest} {settings : BusinessSettings}
      (hfree : s.currencyLocked = false) :
      SaveEffect w s (.lockingCurrency request settings) { s with currencyLocked := true }
        (.readingCurrency request settings)
  | readCurrency (request : SettingsRequest) (settings : BusinessSettings) :
      SaveEffect w s (.readingCurrency request settings) s
        (.checkingCurrency request settings s.businessCurrency s.currencySelection)
  | checked {request : SettingsRequest} {settings : BusinessSettings} {current : String}
      {selection confirmedCurrency : Option String}
      (hcheck : checkCurrency w s request settings current selection = .ok confirmedCurrency) :
      SaveEffect w s (.checkingCurrency request settings current selection) s
        (.writing request settings confirmedCurrency)
  | wrote {request : SettingsRequest} {settings : BusinessSettings}
      {confirmedCurrency : Option String}
      (hfree : .invoiceNumbering ∈ request.keys → request.locksNumbering = false →
        s.numberingLocked = false) :
      SaveEffect w s (.writing request settings confirmedCurrency)
        ((SaveState.writing request settings confirmedCurrency).release
          (writeSettings request settings confirmedCurrency s)) (.done (.ok ()))
  | rolledBack {l : SaveState} (e : Failure) :
      SaveEffect w s l (l.release s) (.done (.error e))

theorem saveEffect_of_statement (h : saveStatement w s l = .ok (some (s', l'))) :
    SaveEffect w s l s' l' := by
  cases l with
  | lockingRenewal request =>
    rw [saveStatement] at h
    split at h
    · rename_i hlocks
      cases h
      exact .skippedRenewal hlocks
    · rename_i hlocks
      split at h
      · cases h
      · rename_i htaken
        cases h
        exact .lockedRenewal (Bool.eq_true_of_not_eq_false hlocks)
          (Bool.eq_false_of_not_eq_true htaken)
  | lockingNumbering request =>
    rw [saveStatement] at h
    split at h
    · rename_i hlocks
      cases h
      exact .skippedNumbering hlocks
    · rename_i hlocks
      split at h
      · cases h
      · rename_i htaken
        cases h
        exact .lockedNumbering (Bool.eq_true_of_not_eq_false hlocks)
          (Bool.eq_false_of_not_eq_true htaken)
  | merging request =>
    rw [saveStatement, bind_eq_ok] at h
    obtain ⟨settings, hsettings, h⟩ := h
    split at h
    · rename_i hlocks
      cases h
      exact .merged hsettings hlocks
    · rename_i hlocks
      cases h
      exact .mergedOther hsettings (Bool.eq_false_of_not_eq_true hlocks)
  | lockingCurrency request settings =>
    rw [saveStatement] at h
    split at h
    · cases h
    · rename_i htaken
      cases h
      exact .lockedCurrency (Bool.eq_false_of_not_eq_true htaken)
  | readingCurrency request settings =>
    cases h
    exact .readCurrency request settings
  | checkingCurrency request settings current selection =>
    rw [saveStatement, bind_eq_ok] at h
    obtain ⟨confirmedCurrency, hcheck, h⟩ := h
    cases h
    exact .checked hcheck
  | writing request settings confirmedCurrency =>
    rw [saveStatement] at h
    split at h
    · cases h
    · rename_i hfree
      cases h
      refine .wrote fun hkey hlocks => Bool.eq_false_of_not_eq_true fun htaken => ?_
      exact hfree ⟨hkey, hlocks, htaken⟩
  | done result => cases h

theorem saveEffect_of_step (h : saveStep w s l = some (s', l')) : SaveEffect w s l s' l' := by
  unfold saveStep at h
  split at h
  · cases h
  · rename_i out hok
    simp only [bind_eq_ok, require_eq_ok] at hok
    obtain ⟨_, -, hok⟩ := hok
    rw [h] at hok
    exact saveEffect_of_statement hok
  · cases h
    exact .rolledBack _

/-! ## The tables and the locks -/

@[simp] theorem release_numbering : (l.release s).numbering = s.numbering := rfl

@[simp] theorem release_businessCurrency :
    (l.release s).businessCurrency = s.businessCurrency := rfl

@[simp] theorem release_currencySelection :
    (l.release s).currencySelection = s.currencySelection := rfl

theorem release_numberingLocked (h : l.holdsNumbering = false) :
    (l.release s).numberingLocked = s.numberingLocked := by
  simp [SaveState.release, h]

theorem release_renewalLocked (h : l.holdsRenewal = false) :
    (l.release s).renewalLocked = s.renewalLocked := by
  simp [SaveState.release, h]

theorem SaveEffect.invoices (h : SaveEffect w s l s' l') : s'.invoices = s.invoices := by
  cases h <;> rfl

/-- Only a form submits its next number always; a tab that writes the row has its lock. -/
theorem SettingsRequest.locksNumbering_of_submittedNumber {request : SettingsRequest}
    (hkey : .invoiceNumbering ∈ request.keys) (hnone : request.submittedNumber = none) :
    request.locksNumbering = true := by
  cases request with
  | update settings => cases hnone
  | patch input => exact decide_eq_true hkey

end

end Settings

end WebhostBilling
