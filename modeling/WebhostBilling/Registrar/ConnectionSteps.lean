import WebhostBilling.Concurrency.RowLocks
import WebhostBilling.Registrar.LiveConnections

/-!
# What the steps on a connection do

The six calls on live registrar accounts run at once.  `SavingEffect`, `RotationEffect` and
`ToggleEffect` say once what a step of each pair of calls does to the accounts, the credentials and
the locked rows; the lock of the catalogue comes after them.
-/

namespace WebhostBilling

open Store Concurrency RegistrarProcessor DomainService DomainAdministrationService

/-! ## The system -/

inductive ConnectionKind
  | createConnection
  | setupLive
  | rotate
  | rotateLiveCredential
  | toggle
  | toggleLive

variable (settings : RegistrarSettings) (w : ConnectionWorld)

def connectionOps :
    ConnectionKind → Operation ConnectionStore ConnectionWorld
  | .createConnection => createConnection
  | .setupLive => setupLive
  | .rotate => rotate
  | .rotateLiveCredential => rotateLiveCredential
  | .toggle => toggle settings
  | .toggleLive => toggleLive settings

def savingEvents (s : ConnectionStore) : SavingState → List ConnectionEvent
  | .writing _ => if w.commits then [.saved s.accounts.size s.credentials.size] else []
  | _ => []

def rotationEvents (s : ConnectionStore) :
    RotationState → List ConnectionEvent
  | .writing id resellerId version =>
    match writeCredential w id resellerId version s with
    | .ok _ => [.saved id s.credentials.size]
    | .error _ => []
  | _ => []

def toggleEvents (s : ConnectionStore) : ToggleState → List ConnectionEvent
  | .calling _ _ used => [.began s.checksBegun used]
  | .answering _ _ used check => if w.quoted then [.passed check used] else []
  | _ => []

def connectionEvents : (kind : ConnectionKind) → ConnectionWorld →
    ConnectionStore → (connectionOps settings kind).Local → List ConnectionEvent
  | .createConnection, w, s, l => savingEvents w s l
  | .setupLive, w, s, l => savingEvents w s l
  | .rotate, w, s, l => rotationEvents w s l
  | .rotateLiveCredential, w, s, l => rotationEvents w s l
  | .toggle, w, s, l => toggleEvents w s l
  | .toggleLive, w, s, l => toggleEvents w s l

abbrev ConnectionThread :=
  Thread (tracedFamily (connectionOps settings) (connectionEvents settings))

abbrev ConnectionConfig :=
  Config (tracedFamily (connectionOps settings) (connectionEvents settings))

def Relocked (s s' : ConnectionStore) : Prop :=
  s' = { s with catalogueLock := s'.catalogueLock, setupLock := s'.setupLock }

/-! ## Saving a connection -/

inductive SavingEffect (s : ConnectionStore) :
    SavingState → ConnectionStore → List ConnectionEvent → SavingState → Prop
  | refused (configuration : RegistrarConfiguration) (e : Failure) :
      SavingEffect s (.locking configuration) s [] (.done (.error e))
  | checked (configuration : RegistrarConfiguration) {s' : ConnectionStore}
      (hlocks : Relocked s s') : SavingEffect s (.locking configuration) s' [] (.writing configuration)
  | saved (configuration : RegistrarConfiguration) {s' : ConnectionStore}
      (hlocks : Relocked (s.saveConnection configuration) s') :
      SavingEffect s (.writing configuration) s' [.saved s.accounts.size s.credentials.size]
        (.done (.ok ()))
  | failed (configuration : RegistrarConfiguration) (e : Failure) {s' : ConnectionStore}
      (hlocks : Relocked s s') :
      SavingEffect s (.writing configuration) s' [] (.done (.error e))

section

variable {w} {s s' : ConnectionStore}

variable {state state' : SavingState}

theorem createConnectionStep_effect (h : createConnectionStep w s state = some (s', state')) :
    SavingEffect s state s' (savingEvents w s state) state' := by
  cases state with
  | locking configuration =>
    rw [createConnectionStep] at h
    split at h
    · cases h
    · split at h <;> cases h
      · exact .checked configuration rfl
      · exact .refused configuration _
  | writing configuration =>
    rw [createConnectionStep] at h
    split at h <;> rename_i hcommits <;> cases h
    · rw [savingEvents, if_pos hcommits]
      exact .saved configuration rfl
    · rw [savingEvents, if_neg hcommits]
      exact .failed configuration _ rfl
  | done result => cases h

theorem setupLiveStep_effect (h : setupLiveStep w s state = some (s', state')) :
    SavingEffect s state s' (savingEvents w s state) state' := by
  cases state with
  | locking configuration =>
    rw [setupLiveStep] at h
    split at h
    · cases h
    · split at h <;> cases h
      · exact .refused configuration _
      · exact .checked configuration rfl
  | writing configuration =>
    rw [setupLiveStep] at h
    split at h <;> rename_i hcommits <;> cases h
    · rw [savingEvents, if_pos hcommits]
      exact .saved configuration rfl
    · rw [savingEvents, if_neg hcommits]
      exact .failed configuration _ rfl
  | done result => cases h

/-! ## Replacing a credential -/

def RotationState.locked : RotationState → Option RowId
  | .writing id _ _ => some id
  | _ => none

inductive RotationEffect (s : ConnectionStore) :
    RotationState → ConnectionStore → List ConnectionEvent → RotationState → Prop
  | waits (id : RowId) (resellerId : String) {s' : ConnectionStore} (hlocks : Relocked s s') :
      RotationEffect s (.catalogue id resellerId) s' [] (.row id resellerId)
  | refused (id : RowId) (resellerId : String) (e : Failure) {s' : ConnectionStore}
      (hlocks : Relocked s s') :
      RotationEffect s (.row id resellerId) s' [] (.done (.error e))
  | checked (id : RowId) (resellerId : String) (version : ℕ) (account : RegistrarAccount)
      (latest : RowId × RegistrarCredential) (hfree : id ∉ s.lockedAccounts)
      (haccount : s.accounts.get? id = some account) (hlive : account.mode = .live)
      (hlatest : s.latestCredential id = some latest) (hversion : latest.2.version = version) :
      RotationEffect s (.row id resellerId) (s.lockAccount id) [] (.writing id resellerId version)
  | saved (id : RowId) (resellerId : String) (version : ℕ) {s' : ConnectionStore}
      (hfree : ∀ credentialId credential, s.credentials.get? credentialId = some credential →
        ¬ (credential.accountId = id ∧ credential.version = version + 1))
      (hlocks : Relocked ((s.saveCredential id (version + 1) resellerId).unlockAccount id) s') :
      RotationEffect s (.writing id resellerId version) s' [.saved id s.credentials.size]
        (.done (.ok ()))
  | failed (id : RowId) (resellerId : String) (version : ℕ) (e : Failure) {s' : ConnectionStore}
      (hlocks : Relocked (s.unlockAccount id) s') :
      RotationEffect s (.writing id resellerId version) s' [] (.done (.error e))

variable {state' : RotationState} {identityOf : RegistrarAccount → Except Failure String}
  {id : RowId} {resellerId : String} {version : ℕ}

theorem checkRotation_eq_ok (h : checkRotation identityOf id resellerId s = .ok version) :
    ∃ account latest, s.accounts.get? id = some account ∧ account.mode = .live ∧
      s.latestCredential id = some latest ∧ latest.2.version = version := by
  simp only [checkRotation, eq_ok] at h
  obtain ⟨account, haccount, hlive, -, -, -, latest, hlatest, hversion⟩ := h
  exact ⟨account, latest, haccount, hlive, hlatest, hversion⟩

theorem writeCredential_eq_ok (h : writeCredential w id resellerId version s = .ok s') :
    (∀ credentialId credential, s.credentials.get? credentialId = some credential →
      ¬ (credential.accountId = id ∧ credential.version = version + 1)) ∧
    s' = s.saveCredential id (version + 1) resellerId := by
  simp only [writeCredential, eq_ok] at h
  obtain ⟨hnone, -, rfl⟩ := h
  refine ⟨fun credentialId credential hrow => ?_, rfl⟩
  simpa using Table.any_eq_false.1 hnone credentialId credential hrow

/-- The row is locked and the credential checked, or the call ends; `refused` unlocks at most. -/
theorem rotation_checked {refused : ConnectionStore} (h : (if id ∈ s.lockedAccounts then none
      else match checkRotation identityOf id resellerId s with
        | .ok version => some (s.lockAccount id, .writing id resellerId version)
        | .error e => some (refused, .done (.error e))) = some (s', state'))
    (hrefused : Relocked s refused) :
    RotationEffect s (.row id resellerId) s' [] state' := by
  split at h
  · cases h
  rename_i hfree
  split at h <;> rename_i hcheck <;> cases h
  · obtain ⟨account, latest, haccount, hlive, hlatest, hversion⟩ := checkRotation_eq_ok hcheck
    exact .checked id resellerId _ account latest hfree haccount hlive hlatest hversion
  · exact .refused id resellerId _ hrefused

/-- The credential is saved, or the call ends; `unlock` unlocks at most. -/
theorem rotation_written {unlock : ConnectionStore → ConnectionStore}
    (hunlock : ∀ s, Relocked s (unlock s))
    (h : (match writeCredential w id resellerId version s with
      | .ok saved => some (unlock (saved.unlockAccount id), .done (.ok ()))
      | .error e => some (unlock (s.unlockAccount id), .done (.error e))) = some (s', state')) :
    RotationEffect s (.writing id resellerId version) s'
      (rotationEvents w s (.writing id resellerId version)) state' := by
  rw [rotationEvents]
  cases hwrite : writeCredential w id resellerId version s with
  | ok saved =>
    rw [hwrite] at h
    cases h
    obtain ⟨hfree, rfl⟩ := writeCredential_eq_ok hwrite
    exact .saved id resellerId version hfree (hunlock _)
  | error e =>
    rw [hwrite] at h
    cases h
    exact .failed id resellerId version e (hunlock _)

theorem rotateStep_effect {state : RotationState} (h : rotateStep w s state = some (s', state')) :
    RotationEffect s state s' (rotationEvents w s state) state' := by
  cases state with
  | catalogue id resellerId =>
    rw [rotateStep] at h
    split at h
    · cases h
    · cases h
      exact .waits id resellerId rfl
  | row id resellerId => exact rotation_checked h rfl
  | writing id resellerId version =>
    exact @rotation_written _ _ _ _ _ _ _ ConnectionStore.unlockCatalogue (fun _ => rfl) h
  | done result => cases h

theorem rotateLiveCredentialStep_effect {state : RotationState}
    (h : rotateLiveCredentialStep w s state = some (s', state')) :
    RotationEffect s state s' (rotationEvents w s state) state' := by
  cases state with
  | catalogue id resellerId => cases h
  | row id resellerId => exact rotation_checked h rfl
  | writing id resellerId version => exact @rotation_written _ _ _ _ _ _ _ (fun s => s) (fun _ => rfl) h
  | done result => cases h

/-! ## Enabling an account -/

inductive CheckStage
  | nothing
  | read (id current : RowId)
  | chosen (id current used : RowId)
  | sent (id current used : RowId) (check : ℕ)
  | passed (id current : RowId)
  /-- The row is locked, and the credential that was read first is the newest. -/
  | confirmed (id current : RowId)

namespace ToggleState

def stage : ToggleState → CheckStage
  | .opening _ _ _ | .reading _ _ | .catalogue _ none | .row _ none | .writing _ none | .done _ =>
    .nothing
  | .verifying id current | .rereading id current | .reserving id current none => .read id current
  | .reserving id current (some used) | .calling id current used => .chosen id current used
  | .answering id current used check => .sent id current used check
  | .catalogue id (some current) | .row id (some current) => .passed id current
  | .writing id (some current) => .confirmed id current

def locked : ToggleState → Option RowId
  | .writing id _ => some id
  | _ => none

end ToggleState

inductive ToggleEffect (s : ConnectionStore) :
    ToggleState → ConnectionStore → List ConnectionEvent → ToggleState → Prop
  | proceeds {state state' : ToggleState} {s' : ConnectionStore} (hstage : state'.stage = state.stage)
      (hunlocked : state.locked = none) (hunlocked' : state'.locked = none)
      (hlocks : Relocked s s') : ToggleEffect s state s' [] state'
  | refused {state : ToggleState} (e : Failure) {s' : ConnectionStore}
      (hunlocked : state.locked = none) (hlocks : Relocked s s') :
      ToggleEffect s state s' [] (.done (.error e))
  | read (id : RowId) {current : RowId} {credential : RegistrarCredential}
      {state state' : ToggleState} (hlatest : s.latestCredential id = some (current, credential))
      (hunlocked : state.locked = none) (hunlocked' : state'.locked = none)
      (hstage : state'.stage = .read id current) : ToggleEffect s state s [] state'
  | chosen (id : RowId) {current used : RowId} {credential : RegistrarCredential}
      {state' : ToggleState} (hlatest : s.latestCredential id = some (used, credential))
      (hunlocked' : state'.locked = none) (hstage : state'.stage = .chosen id current used) :
      ToggleEffect s (.rereading id current) s [] state'
  | began (id current used : RowId) :
      ToggleEffect s (.calling id current used) { s with checksBegun := s.checksBegun + 1 }
        [.began s.checksBegun used] (.answering id current used s.checksBegun)
  | passed (id current used : RowId) (check : ℕ) {state' : ToggleState}
      (hunlocked' : state'.locked = none) (hstage : state'.stage = .passed id current) :
      ToggleEffect s (.answering id current used check) s [.passed check used] state'
  | confirmed (id : RowId) (checked : Option RowId) (hfree : id ∉ s.lockedAccounts)
      (hlatest : ∀ current ∈ checked, ∃ credential,
        s.latestCredential id = some (current, credential)) :
      ToggleEffect s (.row id checked) (s.lockAccount id) [] (.writing id checked)
  | written (id : RowId) (checked : Option RowId) {s' : ConnectionStore}
      (hlocks : Relocked ((s.setEnabled id checked).unlockAccount id) s') :
      ToggleEffect s (.writing id checked) s' [] (.done (.ok ()))
  | failed (id : RowId) (checked : Option RowId) (e : Failure) {s' : ConnectionStore}
      (hlocks : Relocked (s.unlockAccount id) s') :
      ToggleEffect s (.writing id checked) s' [] (.done (.error e))

variable {settings}

variable {current : RowId} {state state' : ToggleState}

theorem provider_eq_ok (h : provider settings id s = .ok current) :
    ∃ credential, s.latestCredential id = some (current, credential) := by
  simp only [provider, eq_ok] at h
  obtain ⟨-, -, -, ⟨current', credential⟩, hlatest, -, -, rfl⟩ := h
  exact ⟨credential, hlatest⟩

theorem liveProvider_eq_ok (h : liveProvider id s = .ok current) :
    ∃ credential, s.latestCredential id = some (current, credential) := by
  simp only [liveProvider, eq_ok] at h
  obtain ⟨-, -, -, ⟨current', credential⟩, hlatest, -, -, rfl⟩ := h
  exact ⟨credential, hlatest⟩

theorem stillLatest_eq_ok {checked : Option RowId} {message : String}
    (h : stillLatest checked id message s = .ok ()) :
    ∀ current ∈ checked, ∃ credential, s.latestCredential id = some (current, credential) := by
  rintro current rfl
  simp only [stillLatest, eq_ok] at h
  obtain ⟨⟨current', credential⟩, hlatest, rfl⟩ := h
  exact ⟨credential, hlatest⟩

theorem toggleStep_effect (h : toggleStep settings w s state = some (s', state')) :
    ToggleEffect s state s' (toggleEvents w s state) state' := by
  cases state with
  | opening id enabled confirmed =>
    simp only [toggleStep] at h
    split at h
    · cases h
      exact .refused _ rfl rfl
    · split at h
      · cases h
        exact .refused _ rfl rfl
      · split at h <;> cases h
        · exact .proceeds rfl rfl rfl rfl
        · exact .proceeds rfl rfl rfl rfl
  | reading id confirmed =>
    simp only [toggleStep] at h
    split at h
    · cases h
      exact .refused _ rfl rfl
    · rename_i hprovider
      obtain ⟨credential, hlatest⟩ := provider_eq_ok hprovider
      split at h <;> cases h
      · exact .read id hlatest rfl rfl rfl
      · exact .refused _ rfl rfl
  | verifying id current => cases h
  | rereading id current =>
    simp only [toggleStep] at h
    split at h <;> rename_i hprovider <;> cases h
    · exact .refused _ rfl rfl
    · obtain ⟨credential, hlatest⟩ := provider_eq_ok hprovider
      exact .chosen id hlatest rfl rfl
  | reserving id current used =>
    simp only [toggleStep] at h
    split at h
    · cases h
    · split at h <;> cases h
      · exact .proceeds rfl rfl rfl rfl
      · exact .refused _ rfl rfl
  | calling id current used =>
    cases h
    exact .began id current used
  | answering id current used check =>
    simp only [toggleStep] at h
    split at h <;> rename_i hquoted <;> cases h
    · rw [toggleEvents, if_pos hquoted]
      exact .passed id current used check rfl rfl
    · rw [toggleEvents, if_neg hquoted]
      exact .refused _ rfl rfl
  | catalogue id checked =>
    simp only [toggleStep] at h
    split at h
    · cases h
    · cases h
      cases checked <;> exact .proceeds rfl rfl rfl rfl
  | row id checked =>
    simp only [toggleStep] at h
    split at h
    · cases h
    rename_i hfree
    split at h <;> rename_i hcheck <;> cases h
    · exact .confirmed id checked hfree (stillLatest_eq_ok hcheck)
    · exact .refused _ rfl rfl
  | writing id checked =>
    simp only [toggleStep] at h
    split at h <;> cases h
    · exact .written id checked rfl
    · exact .failed id checked _ rfl
  | done result => cases h

theorem toggleLiveStep_effect (h : toggleLiveStep settings w s state = some (s', state')) :
    ToggleEffect s state s' (toggleEvents w s state) state' := by
  cases state with
  | opening id enabled confirmed =>
    simp only [toggleLiveStep] at h
    split at h
    · split at h <;> rename_i hlatest <;> cases h
      · exact .read id hlatest rfl rfl rfl
      · exact .refused _ rfl rfl
    · cases h
      exact .proceeds rfl rfl rfl rfl
  | reading id confirmed => cases h
  | verifying id current =>
    simp only [toggleLiveStep] at h
    split at h <;> cases h
    · exact .proceeds rfl rfl rfl rfl
    · exact .refused _ rfl rfl
  | rereading id current =>
    simp only [toggleLiveStep] at h
    split at h <;> rename_i hprovider <;> cases h
    · exact .refused _ rfl rfl
    · obtain ⟨credential, hlatest⟩ := liveProvider_eq_ok hprovider
      exact .chosen id hlatest rfl rfl
  | reserving id current used =>
    cases used with
    | some used => cases h
    | none =>
      simp only [toggleLiveStep] at h
      split at h
      · cases h
      · split at h <;> cases h
        · exact .proceeds rfl rfl rfl rfl
        · exact .refused _ rfl rfl
  | calling id current used =>
    cases h
    exact .began id current used
  | answering id current used check =>
    simp only [toggleLiveStep] at h
    split at h <;> rename_i hquoted <;> cases h
    · rw [toggleEvents, if_pos hquoted]
      exact .passed id current used check rfl rfl
    · rw [toggleEvents, if_neg hquoted]
      exact .refused _ rfl rfl
  | catalogue id checked => cases h
  | row id checked =>
    simp only [toggleLiveStep] at h
    split at h
    · cases h
    rename_i hfree
    split at h <;> rename_i hcheck <;> cases h
    · simp only [checkToggleLive, eq_ok] at hcheck
      obtain ⟨-, -, -, hlatest⟩ := hcheck
      exact .confirmed id checked hfree (stillLatest_eq_ok hlatest)
    · exact .refused _ rfl rfl
  | writing id checked =>
    simp only [toggleLiveStep] at h
    split at h <;> cases h
    · exact .written id checked rfl
    · exact .failed id checked _ rfl
  | done result => cases h

end

/-! ## All calls -/

inductive ConnectionView
  | saving (state : SavingState)
  | rotation (state : RotationState)
  | toggle (state : ToggleState)

def connectionView {settings : RegistrarSettings} : ConnectionThread settings → ConnectionView
  | ⟨.createConnection, l⟩ | ⟨.setupLive, l⟩ => .saving l
  | ⟨.rotate, l⟩ | ⟨.rotateLiveCredential, l⟩ => .rotation l
  | ⟨.toggle, l⟩ | ⟨.toggleLive, l⟩ => .toggle l

def ConnectionView.locked : ConnectionView → Option RowId
  | .saving _ => none
  | .rotation state => state.locked
  | .toggle state => state.locked

inductive ConnectionStep (s : ConnectionStore) :
    ConnectionView → ConnectionStore → List ConnectionEvent → ConnectionView → Prop
  | saving {state state' : SavingState} {s' : ConnectionStore} {events : List ConnectionEvent}
      (h : SavingEffect s state s' events state') :
      ConnectionStep s (.saving state) s' events (.saving state')
  | rotation {state state' : RotationState} {s' : ConnectionStore} {events : List ConnectionEvent}
      (h : RotationEffect s state s' events state') :
      ConnectionStep s (.rotation state) s' events (.rotation state')
  | toggle {state state' : ToggleState} {s' : ConnectionStore} {events : List ConnectionEvent}
      (h : ToggleEffect s state s' events state') :
      ConnectionStep s (.toggle state) s' events (.toggle state')

theorem connectionStep_of_step {settings : RegistrarSettings} {w : ConnectionWorld}
    {s s' : ConnectionStore × List ConnectionEvent} {t t' : ConnectionThread settings}
    (h : t.step w s = some (s', t')) :
    ∃ events, ConnectionStep s.1 (connectionView t) s'.1 events (connectionView t') ∧
      s'.2 = s.2 ++ events := by
  obtain ⟨kind, l⟩ := t
  obtain ⟨l', hstep, htrace, rfl⟩ := Thread.traced_step h
  refine ⟨connectionEvents settings kind w s.1 l, ?_, htrace⟩
  cases kind with
  | createConnection => exact .saving (createConnectionStep_effect hstep)
  | setupLive => exact .saving (setupLiveStep_effect hstep)
  | rotate => exact .rotation (rotateStep_effect hstep)
  | rotateLiveCredential => exact .rotation (rotateLiveCredentialStep_effect hstep)
  | toggle => exact .toggle (toggleStep_effect hstep)
  | toggleLive => exact .toggle (toggleLiveStep_effect hstep)

end WebhostBilling
