import WebhostBilling.Registrar.ConnectionSteps

/-!
# Only a checked credential is enabled

A call that enables an account has its row from the comparison with the newest credential to the
commit, and a rotation needs the row as well, so nothing replaces the credential in between.  The
check may use a newer credential than the call read first; when the one that was read first is still
the newest, it is the one that was checked.
-/

namespace WebhostBilling

open Store Store.Table Concurrency Config RegistrarProcessor DomainService DomainAdministrationService

/-! ## The newest credential -/

section

variable {s s' : ConnectionStore} {id current : RowId} {credential : RegistrarCredential}

def OwnedBy (s : ConnectionStore) (id credentialId : RowId) (version : ℕ) : Prop :=
  ∃ credential, s.credentials.get? credentialId = some credential ∧ credential.accountId = id ∧
    credential.version = version

theorem ownedBy_of_latest (h : s.latestCredential id = some (current, credential)) :
    OwnedBy s id current credential.version := by
  obtain ⟨hrow, hid⟩ := mem_select.1 (List.argmax_mem h)
  exact ⟨credential, hrow, of_decide_eq_true hid, rfl⟩

theorem version_le_latest (h : s.latestCredential id = some (current, credential))
    {credentialId : RowId} {version : ℕ} (howned : OwnedBy s id credentialId version) :
    version ≤ credential.version := by
  obtain ⟨other, hrow, hid, rfl⟩ := howned
  have hmem : (credentialId, other) ∈ s.credentials.select fun _ credential =>
      credential.accountId = id := mem_select.2 ⟨hrow, decide_eq_true hid⟩
  exact List.le_of_mem_argmax (f := fun entry => entry.2.version) hmem h

theorem latestCredential_insert_of_ne (hne : credential.accountId ≠ id)
    (hs : s'.credentials = s.credentials.insert credential) :
    s'.latestCredential id = s.latestCredential id := by
  rw [ConnectionStore.latestCredential, hs, select_insert,
    if_neg (by rw [decide_eq_true_eq]; exact hne), List.append_nil, ConnectionStore.latestCredential]

theorem latestCredential_insert_self (hid : credential.accountId = id)
    (hnewer : ∀ credentialId version, OwnedBy s id credentialId version →
      version < credential.version)
    (hs : s'.credentials = s.credentials.insert credential) :
    s'.latestCredential id = some (s.credentials.size, credential) := by
  rw [ConnectionStore.latestCredential, hs, select_insert, if_pos (decide_eq_true hid),
    List.argmax_concat]
  cases hlatest : s.latestCredential id with
  | none =>
    rw [ConnectionStore.latestCredential] at hlatest
    rw [hlatest]
  | some latest =>
    have hlt := hnewer latest.1 latest.2.version (ownedBy_of_latest hlatest)
    rw [ConnectionStore.latestCredential] at hlatest
    rw [hlatest]
    exact if_pos hlt

end

/-! ## What is known -/

def CheckedLatest (s : ConnectionStore × List ConnectionEvent) (id : RowId) : Prop :=
  ∃ current credential check, s.1.latestCredential id = some (current, credential) ∧
    [.saved id current, .began check current, .passed check current].Sublist s.2

/-- Every saved version is of an account that is there, has one credential, and was noted when it
was saved. -/
structure CredentialsSaved (s : ConnectionStore × List ConnectionEvent) : Prop where
  owned : ∀ accountId credentialId version, OwnedBy s.1 accountId credentialId version →
    accountId < s.1.accounts.size
  unique : ∀ accountId credentialId credentialId' version,
    OwnedBy s.1 accountId credentialId version → OwnedBy s.1 accountId credentialId' version →
    credentialId = credentialId'
  saved : ∀ accountId credentialId version, OwnedBy s.1 accountId credentialId version →
    .saved accountId credentialId ∈ s.2

structure ConnectionsKept (id : RowId) (s : ConnectionStore × List ConnectionEvent) : Prop
    extends CredentialsSaved s where
  checked : ∀ account, s.1.accounts.get? id = some account → account.mode = .live →
    account.enabled = true → CheckedLatest s id

/-- The credential that a check uses is no older than the one that was read first. -/
def Chosen (s : ConnectionStore) (id current used : RowId) : Prop :=
  ∃ version version', OwnedBy s id current version ∧ OwnedBy s id used version' ∧
    version ≤ version'

def CheckPassed (s : ConnectionStore × List ConnectionEvent) (id current : RowId) : Prop :=
  ∃ used check, Chosen s.1 id current used ∧
    [.saved id used, .began check used, .passed check used].Sublist s.2

def CheckStage.Relies (accountId : RowId) (s : ConnectionStore × List ConnectionEvent) :
    CheckStage → Prop
  | .nothing => True
  | .read id current => ∃ version, OwnedBy s.1 id current version
  | .chosen id current used => Chosen s.1 id current used
  | .sent id current used check =>
    Chosen s.1 id current used ∧ [.saved id used, .began check used].Sublist s.2
  | .passed id current => CheckPassed s id current
  | .confirmed id current => CheckPassed s id current ∧
    (id = accountId → ∃ credential, s.1.latestCredential id = some (current, credential))

def RotationState.Relies (accountId : RowId) (s : ConnectionStore) : RotationState → Prop
  | .writing id _ version => id < s.accounts.size ∧ (id = accountId →
    ∀ credentialId older, OwnedBy s id credentialId older → older ≤ version)
  | _ => True

def ConnectionView.Relies (accountId : RowId) (s : ConnectionStore × List ConnectionEvent) :
    ConnectionView → Prop
  | .saving _ => True
  | .rotation state => state.Relies accountId s.1
  | .toggle state => state.stage.Relies accountId s

/-! ## What a step writes -/

inductive ConnectionWrite (accountId : RowId) (s : ConnectionStore × List ConnectionEvent) :
    Option RowId → ConnectionStore → List ConnectionEvent → Prop
  | nothing (locked : Option RowId) {events : List ConnectionEvent}
      (hevents : ∀ id credentialId, .saved id credentialId ∉ events) :
      ConnectionWrite accountId s locked s.1 events
  | created (configuration : RegistrarConfiguration) :
      ConnectionWrite accountId s none (s.1.saveConnection configuration)
        [.saved s.1.accounts.size s.1.credentials.size]
  | rotated (id : RowId) (resellerId : String) (version : ℕ) (hid : id < s.1.accounts.size)
      (hfree : ∀ credentialId, ¬ OwnedBy s.1 id credentialId (version + 1))
      (hnewest : id = accountId → ∀ credentialId older, OwnedBy s.1 id credentialId older →
        older ≤ version) :
      ConnectionWrite accountId s (some id) (s.1.saveCredential id (version + 1) resellerId)
        [.saved id s.1.credentials.size]
  | switched (id : RowId) (checked : Option RowId)
      (hconfirmed : ∀ current ∈ checked, (CheckStage.confirmed id current).Relies accountId s) :
      ConnectionWrite accountId s (some id) (s.1.setEnabled id checked) []

structure SameRows (s s' : ConnectionStore) : Prop where
  accounts : s'.accounts = s.accounts
  credentials : s'.credentials = s.credentials

theorem SameRows.refl (s : ConnectionStore) : SameRows s s := ⟨rfl, rfl⟩

theorem Relocked.sameRows {s base s' : ConnectionStore} (h : Relocked base s')
    (hsame : SameRows s base) : SameRows s s' := by
  rw [Relocked] at h
  rw [h]
  exact ⟨hsame.accounts, hsame.credentials⟩

section

variable {s : ConnectionStore × List ConnectionEvent} {s' base : ConnectionStore}
  {events : List ConnectionEvent} {accountId : RowId}

theorem SavingEffect.write {state state' : SavingState}
    (h : SavingEffect s.1 state s' events state') :
    ∃ base, ConnectionWrite accountId s none base events ∧ SameRows base s' := by
  cases h with
  | refused => exact ⟨s.1, .nothing none (fun _ _ => List.not_mem_nil), .refl s.1⟩
  | checked _ hlocks =>
    exact ⟨s.1, .nothing none (fun _ _ => List.not_mem_nil), hlocks.sameRows (.refl s.1)⟩
  | saved configuration hlocks => exact ⟨_, .created configuration, hlocks.sameRows (.refl _)⟩
  | failed _ _ hlocks =>
    exact ⟨s.1, .nothing none (fun _ _ => List.not_mem_nil), hlocks.sameRows (.refl s.1)⟩

theorem RotationEffect.write {state state' : RotationState}
    (h : RotationEffect s.1 state s' events state') (hrelies : state.Relies accountId s.1) :
    ∃ base, ConnectionWrite accountId s state.locked base events ∧ SameRows base s' := by
  cases h with
  | waits _ _ hlocks | refused _ _ _ hlocks =>
    exact ⟨s.1, .nothing none (fun _ _ => List.not_mem_nil), hlocks.sameRows (.refl s.1)⟩
  | checked => exact ⟨s.1, .nothing none (fun _ _ => List.not_mem_nil), rfl, rfl⟩
  | saved id resellerId version hfree hlocks =>
    refine ⟨_, .rotated id resellerId version hrelies.1 ?_ hrelies.2, hlocks.sameRows ⟨rfl, rfl⟩⟩
    rintro credentialId ⟨credential, hrow, howned⟩
    exact hfree credentialId credential hrow howned
  | failed _ _ _ _ hlocks =>
    exact ⟨s.1, .nothing _ (fun _ _ => List.not_mem_nil), hlocks.sameRows ⟨rfl, rfl⟩⟩

theorem ToggleEffect.write {state state' : ToggleState}
    (h : ToggleEffect s.1 state s' events state') (hrelies : state.stage.Relies accountId s) :
    ∃ base, ConnectionWrite accountId s state.locked base events ∧ SameRows base s' := by
  cases h with
  | proceeds _ _ _ hlocks | refused _ _ hlocks =>
    exact ⟨s.1, .nothing _ (fun _ _ => List.not_mem_nil), hlocks.sameRows (.refl s.1)⟩
  | read | chosen => exact ⟨s.1, .nothing _ (fun _ _ => List.not_mem_nil), .refl s.1⟩
  | began => exact ⟨s.1, .nothing _ (by simp), rfl, rfl⟩
  | passed => exact ⟨s.1, .nothing _ (by simp), .refl s.1⟩
  | confirmed => exact ⟨s.1, .nothing _ (fun _ _ => List.not_mem_nil), rfl, rfl⟩
  | written id checked hlocks =>
    refine ⟨_, .switched id checked ?_, hlocks.sameRows ⟨rfl, rfl⟩⟩
    rintro current rfl
    exact hrelies
  | failed _ _ _ hlocks =>
    exact ⟨s.1, .nothing _ (fun _ _ => List.not_mem_nil), hlocks.sameRows ⟨rfl, rfl⟩⟩

theorem ConnectionStep.write {view view' : ConnectionView}
    (h : ConnectionStep s.1 view s' events view') (hrelies : view.Relies accountId s) :
    ∃ base, ConnectionWrite accountId s view.locked base events ∧ SameRows base s' := by
  cases h with
  | saving h => exact h.write
  | rotation h | toggle h => exact h.write hrelies

/-! ### What a write leaves -/

variable {locked : Option RowId} {id : RowId}

variable {credentialId : RowId} {version : ℕ}

theorem ConnectionWrite.owned (h : ConnectionWrite accountId s locked base events)
    (howned : OwnedBy s.1 id credentialId version) :
    OwnedBy base id credentialId version := by
  obtain ⟨credential, hrow, hid, hversion⟩ := howned
  refine ⟨credential, ?_, hid, hversion⟩
  cases h with
  | nothing => exact hrow
  | created | rotated => exact get?_insert_of_some hrow
  | switched => exact hrow

theorem ConnectionWrite.size_le (h : ConnectionWrite accountId s locked base events) :
    s.1.accounts.size ≤ base.accounts.size := by
  cases h with
  | nothing => exact le_rfl
  | created =>
    rw [ConnectionStore.saveConnection, size_insert]
    exact Nat.le_succ _
  | rotated => rw [ConnectionStore.saveCredential, size_update]
  | switched => rw [ConnectionStore.setEnabled, size_update]

theorem ConnectionWrite.owned_cases (h : ConnectionWrite accountId s locked base events)
    (howned : ∀ accountId credentialId version, OwnedBy s.1 accountId credentialId version →
      accountId < s.1.accounts.size) (hnew : OwnedBy base id credentialId version) :
    OwnedBy s.1 id credentialId version ∨
      (credentialId = s.1.credentials.size ∧ .saved id credentialId ∈ events ∧
        id < base.accounts.size ∧ (id = s.1.accounts.size ∨ locked = some id) ∧
        ∀ other, ¬ OwnedBy s.1 id other version) := by
  obtain ⟨credential, hrow, rfl, rfl⟩ := hnew
  cases h with
  | nothing => exact .inl ⟨credential, hrow, rfl, rfl⟩
  | created =>
    rcases get?_insert_cases hrow with ⟨rfl, rfl⟩ | hold
    · refine .inr ⟨rfl, List.mem_singleton.2 rfl, ?_, .inl rfl, fun other hother => ?_⟩
      · rw [ConnectionStore.saveConnection, size_insert]
        exact Nat.lt_succ_self _
      · exact Nat.lt_irrefl _ (howned _ _ _ hother)
    · exact .inl ⟨credential, hold, rfl, rfl⟩
  | rotated _ _ _ hid hfree =>
    rcases get?_insert_cases hrow with ⟨rfl, rfl⟩ | hold
    · refine .inr ⟨rfl, List.mem_singleton.2 rfl, ?_, .inr rfl, hfree⟩
      rw [ConnectionStore.saveCredential, size_update]
      exact hid
    · exact .inl ⟨credential, hold, rfl, rfl⟩
  | switched => exact .inl ⟨credential, hrow, rfl, rfl⟩

theorem ConnectionWrite.latest (h : ConnectionWrite accountId s locked base events)
    (hid : id < s.1.accounts.size) (hlocked : locked ≠ some id) :
    base.latestCredential id = s.1.latestCredential id := by
  cases h with
  | nothing => rfl
  | created => exact latestCredential_insert_of_ne (Nat.ne_of_gt hid) rfl
  | rotated other =>
    exact latestCredential_insert_of_ne (fun hsame => hlocked (congrArg some hsame)) rfl
  | switched => rfl

theorem ConnectionWrite.saved_latest (h : ConnectionWrite accountId s locked base events)
    (howned : ∀ accountId credentialId version, OwnedBy s.1 accountId credentialId version →
      accountId < s.1.accounts.size) (hsaved : .saved accountId credentialId ∈ events) :
    ∃ credential, base.latestCredential accountId = some (credentialId, credential) := by
  cases h with
  | nothing _ hevents => exact absurd hsaved (hevents accountId credentialId)
  | created configuration =>
    cases List.mem_singleton.1 hsaved
    exact ⟨_, latestCredential_insert_self rfl (fun credentialId version hold =>
      absurd (howned _ _ _ hold) (Nat.lt_irrefl _)) rfl⟩
  | rotated _ resellerId version _ _ hnewest =>
    cases List.mem_singleton.1 hsaved
    exact ⟨_, latestCredential_insert_self rfl (fun credentialId older hold =>
      Nat.lt_succ_of_le (hnewest rfl credentialId older hold)) rfl⟩
  | switched => exact nomatch hsaved

theorem SameRows.owned_iff (h : SameRows base s') :
    OwnedBy s' id credentialId version ↔ OwnedBy base id credentialId version := by
  rw [OwnedBy, OwnedBy, h.credentials]

theorem SameRows.latest (h : SameRows base s') :
    s'.latestCredential id = base.latestCredential id := by
  rw [ConnectionStore.latestCredential, h.credentials, ConnectionStore.latestCredential]

end

/-! ## What a step keeps -/

section

variable {s : ConnectionStore × List ConnectionEvent} {s' : ConnectionStore}
  {events : List ConnectionEvent} {view view' : ConnectionView} {accountId : RowId}

structure ConnectionsGrown (s s' : ConnectionStore × List ConnectionEvent) : Prop where
  owned : ∀ id credentialId version, OwnedBy s.1 id credentialId version →
    OwnedBy s'.1 id credentialId version
  size : s.1.accounts.size ≤ s'.1.accounts.size
  trace : ∀ events : List ConnectionEvent, events.Sublist s.2 → events.Sublist s'.2

theorem ConnectionStep.grown (h : ConnectionStep s.1 view s' events view')
    (hrelies : view.Relies accountId s) : ConnectionsGrown s (s', s.2 ++ events) := by
  obtain ⟨base, hwrite, hsame⟩ := h.write hrelies
  refine ⟨fun id credentialId version howned => hsame.owned_iff.2 (hwrite.owned howned), ?_,
    fun _ hsub => hsub.trans (List.sublist_append_left _ _)⟩
  show _ ≤ s'.accounts.size
  rw [hsame.accounts]
  exact hwrite.size_le

variable {id current : RowId} {state : ToggleState}

theorem Chosen.grown {s' : ConnectionStore × List ConnectionEvent} {used : RowId}
    (h : Chosen s.1 id current used) (hgrown : ConnectionsGrown s s') :
    Chosen s'.1 id current used := by
  obtain ⟨version, version', hcurrent, hused, hle⟩ := h
  exact ⟨version, version', hgrown.owned _ _ _ hcurrent, hgrown.owned _ _ _ hused, hle⟩

theorem CheckPassed.grown {s' : ConnectionStore × List ConnectionEvent}
    (h : CheckPassed s id current) (hgrown : ConnectionsGrown s s') :
    CheckPassed s' id current := by
  obtain ⟨used, check, hchosen, hsub⟩ := h
  exact ⟨used, check, hchosen.grown hgrown, hgrown.trace _ hsub⟩

theorem ConnectionsKept.checkedLatest (h : ConnectionsKept accountId s)
    {credential : RegistrarCredential} (hpassed : CheckPassed s id current)
    (hlatest : s.1.latestCredential id = some (current, credential)) : CheckedLatest s id := by
  obtain ⟨used, check, ⟨version, version', hcurrent, hused, hle⟩, hsub⟩ := hpassed
  -- The credential that was used is no older than the newest, so it is the newest.
  have hversion : version = credential.version := by
    obtain ⟨_, hrow, -, rfl⟩ := hcurrent
    obtain ⟨_, hrow', -, hsame⟩ := ownedBy_of_latest hlatest
    rw [← hsame, Option.mem_unique hrow hrow']
  have hle' := version_le_latest hlatest hused
  obtain rfl : version' = version := by omega
  obtain rfl := h.unique id used current version' hused hcurrent
  exact ⟨used, credential, check, hlatest, hsub⟩

theorem CheckedLatest.grown {s s' : ConnectionStore × List ConnectionEvent} {id : RowId}
    (h : CheckedLatest s id) (hlatest : s'.1.latestCredential id = s.1.latestCredential id)
    (hgrown : ConnectionsGrown s s') : CheckedLatest s' id := by
  obtain ⟨current, credential, check, hrow, hsub⟩ := h
  exact ⟨current, credential, check, hlatest.trans hrow, hgrown.trace _ hsub⟩

theorem ConnectionWrite.checked {base : ConnectionStore} {locked : Option RowId}
    (h : ConnectionWrite accountId s locked base events) (hkept : ConnectionsKept accountId s)
    {account : RegistrarAccount} (hrow : base.accounts.get? accountId = some account)
    (hlive : account.mode = .live) (henabled : account.enabled = true) :
    CheckedLatest s accountId ∧ base.latestCredential accountId = s.1.latestCredential accountId := by
  have hwrite := h
  cases h with
  | nothing => exact ⟨hkept.checked account hrow hlive henabled, rfl⟩
  | created configuration =>
    rcases get?_insert_cases hrow with ⟨-, rfl⟩ | hold
    · cases henabled
    · exact ⟨hkept.checked account hold hlive henabled,
        hwrite.latest (lt_size_of_get? hold) (fun hlocked => nomatch hlocked)⟩
  | rotated id =>
    rcases get?_update_cases hrow with ⟨-, _, -, rfl⟩ | ⟨hne, hold⟩
    · cases henabled
    · exact ⟨hkept.checked account hold hlive henabled, hwrite.latest (lt_size_of_get? hold)
        fun hlocked => hne (Option.some.inj hlocked)⟩
  | switched id checked hconfirmed =>
    rcases get?_update_cases hrow with ⟨rfl, _, -, rfl⟩ | ⟨-, hold⟩
    · obtain ⟨current, hchecked⟩ := Option.isSome_iff_exists.1 henabled
      obtain ⟨hpassed, hlatest⟩ := hconfirmed current hchecked
      obtain ⟨credential, hlatest⟩ := hlatest rfl
      exact ⟨hkept.checkedLatest hpassed hlatest, rfl⟩
    · exact ⟨hkept.checked account hold hlive henabled, rfl⟩

theorem ConnectionStep.kept (h : ConnectionStep s.1 view s' events view')
    (hkept : ConnectionsKept accountId s) (hrelies : view.Relies accountId s) :
    ConnectionsKept accountId (s', s.2 ++ events) := by
  have hgrown := h.grown hrelies
  obtain ⟨base, hwrite, hsame⟩ := h.write hrelies
  refine ⟨⟨fun id credentialId version howned => ?_,
    fun id credentialId credentialId' version howned howned' => ?_,
    fun id credentialId version howned => ?_⟩, fun account hrow hlive henabled => ?_⟩
  · show id < s'.accounts.size
    rw [hsame.accounts]
    rcases hwrite.owned_cases hkept.owned (hsame.owned_iff.1 howned) with hold | ⟨-, -, hid, -, -⟩
    · exact Nat.lt_of_lt_of_le (hkept.owned id credentialId version hold) hwrite.size_le
    · exact hid
  · rcases hwrite.owned_cases hkept.owned (hsame.owned_iff.1 howned) with
      hold | ⟨rfl, -, -, -, hnew⟩ <;>
    rcases hwrite.owned_cases hkept.owned (hsame.owned_iff.1 howned') with
      hold' | ⟨rfl, -, -, -, hnew'⟩
    · exact hkept.unique id credentialId credentialId' version hold hold'
    · exact absurd hold (hnew' credentialId)
    · exact absurd hold' (hnew credentialId')
    · rfl
  · rcases hwrite.owned_cases hkept.owned (hsame.owned_iff.1 howned) with hold | ⟨-, hsaved, -⟩
    · exact List.mem_append_left _ (hkept.saved id credentialId version hold)
    · exact List.mem_append_right _ hsaved
  · obtain ⟨hchecked, hlatest⟩ := hwrite.checked hkept (hsame.accounts ▸ hrow) hlive henabled
    exact hchecked.grown (hsame.latest.trans hlatest) hgrown

/-! ## What a call relies on -/

theorem locked_of_confirmed (h : state.stage = .confirmed id current) : state.locked = some id := by
  cases state with
  | writing id' checked =>
    cases checked with
    | none => cases h
    | some current' =>
      cases h
      rfl
  | reserving id' current' used => cases used <;> cases h
  | catalogue id' checked | row id' checked => cases checked <;> cases h
  | _ => cases h

theorem CheckStage.Relies.grown {s' : ConnectionStore × List ConnectionEvent} {stage : CheckStage}
    (h : stage.Relies accountId s) (hgrown : ConnectionsGrown s s')
    (hlatest : ∀ current, stage = .confirmed accountId current →
      s'.1.latestCredential accountId = s.1.latestCredential accountId) :
    stage.Relies accountId s' := by
  cases stage with
  | nothing => trivial
  | read id current =>
    obtain ⟨version, howned⟩ := h
    exact ⟨version, hgrown.owned _ _ _ howned⟩
  | chosen id current used => exact Chosen.grown h hgrown
  | sent id current used check => exact ⟨h.1.grown hgrown, hgrown.trace _ h.2⟩
  | passed id current => exact CheckPassed.grown h hgrown
  | confirmed id current =>
    refine ⟨h.1.grown hgrown, fun hid => ?_⟩
    subst hid
    rw [hlatest current rfl]
    exact h.2 rfl

theorem ToggleEffect.relies {state' : ToggleState} (h : ToggleEffect s.1 state s' events state')
    (hkept : ConnectionsKept accountId s) (hrelies : state.stage.Relies accountId s) :
    state'.stage.Relies accountId (s', s.2 ++ events) := by
  have hview : ConnectionView.Relies accountId s (.toggle state) := hrelies
  have hgrown : ConnectionsGrown s (s', s.2 ++ events) := (ConnectionStep.toggle h).grown hview
  cases h with
  | proceeds hstage hunlocked _ hlocks =>
    rw [hstage]
    refine hrelies.grown hgrown fun current hconfirmed => ?_
    rw [locked_of_confirmed hconfirmed] at hunlocked
    cases hunlocked
  | refused => trivial
  | read id hlatest _ _ hstage =>
    rw [hstage]
    exact ⟨_, hgrown.owned _ _ _ (ownedBy_of_latest hlatest)⟩
  | @chosen id current used credential _ hlatest _ hstage =>
    rw [hstage]
    obtain ⟨version, howned⟩ := hrelies
    exact Chosen.grown ⟨version, credential.version, howned, ownedBy_of_latest hlatest,
      version_le_latest hlatest howned⟩ hgrown
  | began id current used =>
    have hchosen : Chosen s.1 id current used := hrelies
    obtain ⟨_, version', -, hused, -⟩ := hrelies
    refine ⟨hchosen.grown hgrown, ?_⟩
    have hsaved := hkept.saved id used version' hused
    exact (List.singleton_sublist.2 hsaved).append (.refl _)
  | passed id current used check _ hstage =>
    rw [hstage]
    exact ⟨used, check, hrelies.1.grown hgrown, hrelies.2.append (.refl _)⟩
  | confirmed id checked _ hlatest =>
    cases checked with
    | none => trivial
    | some current =>
      exact ⟨CheckPassed.grown hrelies hgrown, fun _ => hlatest current rfl⟩
  | written | failed => trivial

theorem RotationEffect.relies {state state' : RotationState}
    (h : RotationEffect s.1 state s' events state') : state'.Relies accountId s' := by
  cases h with
  | waits | refused => trivial
  | checked id resellerId version account latest _ haccount _ hlatest hversion =>
    refine ⟨lt_size_of_get? haccount, fun _ credentialId older howned => ?_⟩
    obtain ⟨current, credential⟩ := latest
    exact hversion ▸ version_le_latest hlatest howned
  | saved | failed => trivial

theorem ConnectionStep.relies (h : ConnectionStep s.1 view s' events view')
    (hkept : ConnectionsKept accountId s) (hrelies : view.Relies accountId s) :
    view'.Relies accountId (s', s.2 ++ events) := by
  cases h with
  | saving => trivial
  | rotation h => exact h.relies
  | toggle h => exact h.relies hkept hrelies

theorem ConnectionStep.relies_other {other : ConnectionView}
    (h : ConnectionStep s.1 view s' events view') (hkept : ConnectionsKept accountId s)
    (hrelies : view.Relies accountId s) (hother : other.Relies accountId s)
    (hexcludes : other.locked = some accountId → view.locked ≠ some accountId) :
    other.Relies accountId (s', s.2 ++ events) := by
  have hgrown := h.grown hrelies
  obtain ⟨base, hwrite, hsame⟩ := h.write hrelies
  cases other with
  | saving => trivial
  | rotation state =>
    cases state with
    | writing id resellerId version =>
      refine ⟨Nat.lt_of_lt_of_le hother.1 hgrown.size, fun hid credentialId older howned => ?_⟩
      subst hid
      rcases hwrite.owned_cases hkept.owned (hsame.owned_iff.1 howned) with
        hold | ⟨-, -, -, hnew | hlocked, -⟩
      · exact hother.2 rfl credentialId older hold
      · exact absurd hother.1 (hnew ▸ Nat.lt_irrefl _)
      · exact absurd hlocked (hexcludes rfl)
    | _ => trivial
  | toggle state =>
    have hstage : state.stage.Relies accountId s := hother
    refine hstage.grown hgrown fun current hconfirmed => ?_
    have hlocked := hexcludes (locked_of_confirmed hconfirmed)
    rw [hconfirmed] at hstage
    obtain ⟨⟨_, _, ⟨version, _, howned, -⟩, -⟩, -⟩ := hstage
    exact hsame.latest.trans (hwrite.latest (hkept.owned _ _ _ howned) hlocked)

/-! ## The lock of a row -/

theorem ConnectionStep.locks (h : ConnectionStep s.1 view s' events view') :
    LocksMove s.1.lockedAccounts view.locked s'.lockedAccounts view'.locked := by
  have hrelocked : ∀ {base : ConnectionStore}, Relocked base s' →
      s'.lockedAccounts = base.lockedAccounts := by
    intro base hlocks
    rw [hlocks]
  cases h with
  | saving h =>
    have hsame : s'.lockedAccounts = s.1.lockedAccounts := by
      cases h with
      | refused => rfl
      | checked _ hlocks => exact hrelocked hlocks
      | saved _ hlocks => exact (hrelocked hlocks).trans rfl
      | failed _ _ hlocks => exact hrelocked hlocks
    rw [hsame]
    exact .stays
  | rotation h =>
    cases h with
    | waits _ _ hlocks | refused _ _ _ hlocks =>
      rw [hrelocked hlocks]
      exact .stays
    | checked id _ _ _ _ hfree => exact .takes id hfree
    | saved id _ _ _ hlocks | failed id _ _ _ hlocks =>
      rw [hrelocked hlocks]
      exact .releases id
  | @toggle state state' _ _ h =>
    show LocksMove _ state.locked _ state'.locked
    cases h with
    | proceeds _ hunlocked hunlocked' hlocks =>
      rw [hrelocked hlocks, hunlocked, hunlocked']
      exact .stays
    | refused _ hunlocked hlocks =>
      rw [hrelocked hlocks, hunlocked]
      exact .stays
    | read _ _ hunlocked hunlocked' =>
      rw [hunlocked, hunlocked']
      exact .stays
    | chosen _ _ hunlocked' =>
      rw [hunlocked']
      exact .stays
    | began => exact .stays
    | passed _ _ _ _ hunlocked' =>
      rw [hunlocked']
      exact .stays
    | confirmed id _ hfree => exact .takes id hfree
    | written id _ hlocks | failed id _ _ hlocks =>
      rw [hrelocked hlocks]
      exact .releases id

end

section

variable {settings : RegistrarSettings} {accountId : RowId}

def accountLock (settings : RegistrarSettings) (accountId : RowId) :
    Lock (tracedFamily (connectionOps settings) (connectionEvents settings)) where
  taken s := accountId ∈ s.1.lockedAccounts
  holds t := (connectionView t).locked = some accountId

def accountOutline (settings : RegistrarSettings) (accountId : RowId) :
    Outline (tracedFamily (connectionOps settings) (connectionEvents settings)) :=
  (accountLock settings accountId).outline (ConnectionsKept accountId) fun s t =>
    (connectionView t).Relies accountId s

theorem rotation_starts (request : RotationRequest) (state : RotationState)
    (hstate : state.locked = none) :
    (match administrator request.auth with
      | .ok () => state
      | .error e => .done (.error e)).locked = none := by
  split
  · exact hstate
  · rfl

theorem rotation_relies {state : RotationState} {s : ConnectionStore} (h : state.locked = none) :
    state.Relies accountId s := by
  cases state with
  | writing => cases h
  | _ => trivial

theorem toggle_starts_idle (request : ToggleRequest) :
    (ConnectionView.toggle (match administrator request.auth with
      | .ok () => .opening request.id request.enabled request.confirmNativeUsdCosts
      | .error e => .done (.error e))).locked = none ∧
    ∀ s, (ConnectionView.toggle (match administrator request.auth with
      | .ok () => .opening request.id request.enabled request.confirmNativeUsdCosts
      | .error e => .done (.error e))).Relies accountId s := by
  split
  · exact ⟨rfl, fun _ => trivial⟩
  · exact ⟨rfl, fun _ => trivial⟩

theorem connectionView_begin (op : ConnectionKind)
    (request : (tracedFamily (connectionOps settings) (connectionEvents settings) op).Request) :
    (connectionView (Thread.begin op request)).locked = none ∧
      ∀ s, (connectionView (Thread.begin op request)).Relies accountId s := by
  cases op with
  | createConnection | setupLive => exact ⟨rfl, fun _ => trivial⟩
  | rotate =>
    have hlocked : RotationState.locked (rotate.start request) = none :=
      rotation_starts request (.catalogue _ _) rfl
    exact ⟨hlocked, fun _ => rotation_relies hlocked⟩
  | rotateLiveCredential =>
    have hlocked : RotationState.locked (rotateLiveCredential.start request) = none :=
      rotation_starts request (.row _ _) rfl
    exact ⟨hlocked, fun _ => rotation_relies hlocked⟩
  | toggle | toggleLive => exact toggle_starts_idle request

theorem accountLock_sound : (accountLock settings accountId).Sound anyStep where
  start op request hholds := by
    have hlocked : (connectionView (Thread.begin op request)).locked = some accountId := hholds
    rw [(@connectionView_begin settings accountId op request).1] at hlocked
    cases hlocked
  moves w s t s' t' _ _ hstep := by
    obtain ⟨events, hstep, -⟩ := connectionStep_of_step hstep
    rcases hstep.locks.cases accountId with ⟨hholds, htaken⟩ | ⟨hholds, hholds'⟩ | ⟨hfree, htaken⟩
    · exact .stays hholds htaken
    · exact .releases hholds hholds'
    · exact .takes hfree htaken

theorem accountOutline_sound (settings : RegistrarSettings) (accountId : RowId) :
    (accountOutline settings accountId).Sound anyStep := by
  refine accountLock_sound.outline_sound ?_ ?_ ?_
  · intro s op request _
    exact (connectionView_begin op request).2 s
  · intro w s t s' t' _ hkept _ hrelies hstep
    obtain ⟨events, hstep, htrace⟩ := connectionStep_of_step hstep
    obtain ⟨store, trace⟩ := s'
    obtain rfl : trace = s.2 ++ events := htrace
    exact ⟨hstep.kept hkept hrelies, hstep.relies hkept hrelies⟩
  · intro w s t s' t' u _ hkept hrelies hother _ hexcludes hstep
    obtain ⟨events, hstep, htrace⟩ := connectionStep_of_step hstep
    obtain ⟨store, trace⟩ := s'
    obtain rfl : trace = s.2 ++ events := htrace
    exact hstep.relies_other hkept hrelies hother hexcludes

structure NothingEnabled (s : ConnectionStore × List ConnectionEvent) : Prop
    extends CredentialsSaved s where
  disabled : ∀ id account, s.1.accounts.get? id = some account → account.mode = .live →
    account.enabled = false

/-- What holds of the live accounts at any time. -/
structure AccountsChecked (c : ConnectionConfig settings) : Prop where
  checked : ∀ id account, c.shared.1.accounts.get? id = some account → account.mode = .live →
    account.enabled = true → CheckedLatest c.shared id
  newest : ∀ w t s' t' events id credentialId, t ∈ c.threads → t.step w c.shared = some (s', t') →
    s'.2 = c.shared.2 ++ events → .saved id credentialId ∈ events →
    ∃ credential, s'.1.latestCredential id = some (credentialId, credential)

/-- **Only a checked credential is enabled**, whatever the calls that save, replace and enable
connections do, and whenever their checks are answered. -/
theorem accounts_checked {s : ConnectionStore × List ConnectionEvent} (hstart : NothingEnabled s)
    {c : ConnectionConfig settings} (hr : Reaches anyStep ⟨s, []⟩ c) : AccountsChecked c := by
  have hholds : ∀ id, (accountOutline settings id).Holds c := by
    intro id
    have hkept : (accountOutline settings id).shared s := by
      refine ⟨hstart.toCredentialsSaved, fun account hrow hlive henabled => ?_⟩
      rw [hstart.disabled id account hrow hlive] at henabled
      cases henabled
    exact (accountOutline_sound settings id).holds (Outline.holds_idle hkept) hr
  refine ⟨fun id account => (hholds id).shared.checked account, ?_⟩
  intro w t s' t' events id credentialId ht hstep htrace hsaved
  obtain ⟨events', hstep, htrace'⟩ := connectionStep_of_step hstep
  obtain rfl : events' = events := List.append_cancel_left (htrace'.symm.trans htrace)
  obtain ⟨base, hwrite, hsame⟩ := hstep.write ((hholds id).thread t ht).2
  obtain ⟨credential, hlatest⟩ := hwrite.saved_latest (hholds id).shared.owned hsaved
  exact ⟨credential, hsame.latest.trans hlatest⟩

end

/-! ## An account that is enabled -/

def liveAdmin : AuthIdentity where
  userId := 0
  role := .admin
  staffRole := some .fullAdministrator
  twoFactorEnabled := true

def enabledConfig : ConnectionConfig ⟨false, true⟩ :=
  Config.after ⟨({}, []), []⟩ ([.call .createConnection ⟨"r", liveAdmin⟩, .advance 0 {},
    .advance 0 {}, .call .toggle ⟨0, true, true, liveAdmin⟩, .advance 1 {}, .advance 1 {},
    .call .rotate ⟨0, "r", liveAdmin⟩, .advance 2 {}, .advance 2 {}, .advance 2 {}] ++
    List.replicate 6 (.advance 1 {}) ++ [.call .toggleLive ⟨0, true, false, liveAdmin⟩] ++
    List.replicate 8 (.advance 3 {})) (by decide +kernel)

theorem enabled_account_checked :
    (∃ account ∈ enabledConfig.shared.1.accounts.get? 0,
      account.mode = .live ∧ account.enabled = true) ∧ CheckedLatest enabledConfig.shared 0 := by
  have hempty : NothingEnabled ({}, []) := by
    refine ⟨⟨?_, ?_, ?_⟩, ?_⟩
    · rintro accountId credentialId version ⟨_, hrow, -⟩
      exact absurd hrow get?_empty_ne
    · rintro accountId credentialId credentialId' version ⟨_, hrow, -⟩
      exact absurd hrow get?_empty_ne
    · rintro accountId credentialId version ⟨_, hrow, -⟩
      exact absurd hrow get?_empty_ne
    · intro id account hrow
      exact absurd hrow get?_empty_ne
  have henabled : ∃ account ∈ enabledConfig.shared.1.accounts.get? 0,
      account.mode = .live ∧ account.enabled = true := by decide +kernel
  have hchecked : AccountsChecked enabledConfig := accounts_checked hempty
    (reaches_anyStep_of_run (run_eq_after (by decide +kernel)))
  obtain ⟨account, hrow, hlive, hon⟩ := henabled
  exact ⟨⟨account, hrow, hlive, hon⟩, hchecked.checked 0 account hrow hlive hon⟩

end WebhostBilling
