import WebhostBilling.Auth.AuthOperations

/-!
# The second factor of an administrator

A login that finds no enabled credential inserts a session that counts as verified, whenever it gets
to insert it.  Enabling a credential revokes the other sessions of its user, but only those that are
there.
-/

namespace WebhostBilling

open Store Store.Table Concurrency Config

namespace Auth

open AuthService

def ProvedFactor (db : AuthDatabase) (trace : List AuthEvent) (sessionId credentialId : RowId) :
    Prop :=
  (∃ factor, .factorAccepted credentialId factor (some sessionId) ∈ trace ∧
    FactorFor db credentialId factor) ∨
    ∃ run, .enabled run ∈ trace ∧ run.auth.sessionId = sessionId ∧ run.credentialId = credentialId

def EnabledCredential (db : AuthDatabase) (credentialId userId : RowId) : Prop :=
  ∃ credential, db.adminTotpCredentials.get? credentialId = some credential ∧
    credential.userId = userId ∧ credential.deleted = false ∧ credential.enabledAt.isSome

/-- **Every session that is accepted while its user's credential is enabled has shown the second
factor.** -/
def SecondFactorEnforced (settings : AuthSettings) (db : AuthDatabase) (trace : List AuthEvent) :
    Prop :=
  ∀ now sessionId session credentialId, db.accepts settings now sessionId = true →
    db.authSessions.get? sessionId = some session →
      EnabledCredential db credentialId session.userId → ProvedFactor db trace sessionId credentialId

/-- A login with the password alone creates the session of an administrator while the second factor
is not enabled. -/
def PasswordOnlyBeforeEnabling (_ : AuthWorld) (db : AuthDatabase) (_ : List AuthEvent) :
    AuthEvent → Prop
  | .passwordSession _ userId _ =>
    db.roleOf userId = some .admin → db.secondFactorEnabled userId = false
  | _ => True

instance (w : AuthWorld) (db : AuthDatabase) (trace : List AuthEvent) (event : AuthEvent) :
    Decidable (PasswordOnlyBeforeEnabling w db trace event) := by
  unfold PasswordOnlyBeforeEnabling
  split <;> infer_instance

/-! ## The invariant -/

def OpenSession (db : AuthDatabase) (sessionId userId : RowId) : Prop :=
  ∃ session, db.authSessions.get? sessionId = some session ∧ session.userId = userId ∧
    session.revokedAt = none

def SessionsProved (db : AuthDatabase) (trace : List AuthEvent) : Prop :=
  ∀ sessionId credentialId userId, OpenSession db sessionId userId →
    EnabledCredential db credentialId userId → ProvedFactor db trace sessionId credentialId

section

variable {db db' : AuthDatabase} {trace : List AuthEvent}

theorem SessionsProved.enforced (h : SessionsProved db trace) (settings : AuthSettings) :
    SecondFactorEnforced settings db trace := by
  intro now sessionId session credentialId haccepted hsession hcredential
  refine h sessionId credentialId session.userId ⟨session, hsession, rfl, ?_⟩ hcredential
  rw [AuthDatabase.accepts, hsession, Option.any_some, Option.any_eq_true] at haccepted
  obtain ⟨user, -, haccepted⟩ := haccepted
  exact (of_decide_eq_true haccepted).1

variable {sessionId credentialId userId : RowId} {session : AuthSession} {factor : Factor}

theorem ProvedFactor.mono {events : List AuthEvent}
    (h : ProvedFactor db trace sessionId credentialId) (hextends : AuthExtends db db') :
    ProvedFactor db' (trace ++ events) sessionId credentialId := by
  rcases h with ⟨factor, haccepted, hfactor⟩ | ⟨run, henabled, hrest⟩
  · exact .inl ⟨factor, List.mem_append_left _ haccepted, hextends.factorFor hfactor⟩
  · exact .inr ⟨run, List.mem_append_left _ henabled, hrest⟩

/-! ## What was so before a write -/

theorem OpenSession.before (h : OpenSession db' sessionId userId) (hextends : AuthExtends db db')
    (hsize : db'.authSessions.size = db.authSessions.size) :
    OpenSession db sessionId userId := by
  obtain ⟨session', hsession', huser, hopen⟩ := h
  obtain ⟨session, hsession, hmoves⟩ := hextends.sessions.before hsize hsession'
  refine ⟨session, hsession, hmoves.userId.symm.trans huser, ?_⟩
  cases hrevoked : session.revokedAt with
  | none => rfl
  | some at_ =>
    have hstill := hmoves.revoked (Option.isSome_of_eq_some hrevoked)
    rw [hopen] at hstill
    cases hstill

theorem OpenSession.created (h : OpenSession (createSession session db) sessionId userId) :
    (sessionId = db.authSessions.size ∧ session.userId = userId) ∨
      OpenSession db sessionId userId := by
  obtain ⟨found, hfound, huser, hopen⟩ := h
  rcases get?_insert_cases hfound with ⟨hid, rfl⟩ | hbefore
  · exact .inl ⟨hid, huser⟩
  · exact .inr ⟨found, hbefore, huser, hopen⟩

def NoneEnabled (db db' : AuthDatabase) : Prop :=
  ∀ credentialId userId, EnabledCredential db' credentialId userId →
    EnabledCredential db credentialId userId

theorem NoneEnabled.of_eq (h : db'.adminTotpCredentials = db.adminTotpCredentials) :
    NoneEnabled db db' := by
  intro credentialId userId henabled
  rw [EnabledCredential, h] at henabled
  exact henabled

theorem NoneEnabled.of_update {f : AdminTotpCredential → AdminTotpCredential}
    (hcredentials : db'.adminTotpCredentials = db.adminTotpCredentials.update credentialId f)
    (hf : ∀ credential, (f credential).userId = credential.userId ∧
      (f credential).enabledAt = credential.enabledAt ∧
        ((f credential).deleted = false → credential.deleted = false)) : NoneEnabled db db' := by
  rintro id userId ⟨credential', hcredential', huser, hlive, henabled⟩
  rw [hcredentials] at hcredential'
  rcases get?_update_cases hcredential' with ⟨rfl, credential, hcredential, rfl⟩ | ⟨-, hbefore⟩
  · obtain ⟨hsame, hsameEnabled, hdeleted⟩ := hf credential
    exact ⟨credential, hcredential, hsame.symm.trans huser, hdeleted hlive, hsameEnabled ▸ henabled⟩
  · exact ⟨credential', hbefore, huser, hlive, henabled⟩

theorem FactorConsumed.noneEnabled {credentialId now : ℕ}
    (h : FactorConsumed db credentialId now factor db') : NoneEnabled db db' := by
  cases h with
  | timeStep _ _ _ => exact .of_update rfl fun _ => ⟨rfl, rfl, fun hlive => hlive⟩
  | recoveryCode _ _ _ => exact .of_eq rfl

theorem upsertCredential_noneEnabled (userId : RowId) (secret : String) :
    NoneEnabled db (upsertCredential userId secret db) := by
  rw [upsertCredential]
  split
  · exact .of_update rfl fun _ => ⟨rfl, rfl, fun hlive => hlive⟩
  · rintro id u ⟨credential, hcredential, huser, hlive, henabled⟩
    rcases get?_insert_cases hcredential with ⟨-, rfl⟩ | hbefore
    · cases henabled
    · exact ⟨credential, hbefore, huser, hlive, henabled⟩

/-! ## Whose credential it is -/

theorem AuthConsistent.enabled_unique (hs : AuthConsistent db) {i j : RowId}
    (hi : EnabledCredential db i userId) (hj : EnabledCredential db j userId) : i = j := by
  obtain ⟨a, ha, hau, hai, -⟩ := hi
  obtain ⟨b, hb, hbu, hbj, -⟩ := hj
  exact hs.unique i j a b ha hb hai hbj (hau.trans hbu.symm)

theorem AuthConsistent.enabled_admin (hs : AuthConsistent db)
    (h : EnabledCredential db credentialId userId) : db.roleOf userId = some .admin := by
  obtain ⟨credential, hcredential, rfl, -⟩ := h
  exact hs.admin credentialId credential hcredential

theorem AuthConsistent.secondFactorEnabled (hs : AuthConsistent db)
    (h : EnabledCredential db credentialId userId) : db.secondFactorEnabled userId = true := by
  obtain ⟨credential, hcredential, huser, hlive, henabled⟩ := h
  rw [AuthDatabase.secondFactorEnabled, Option.any_eq_true]
  cases hfind : db.credentialOf userId with
  | none =>
    have hnone := find?_eq_none.1 hfind credentialId credential hcredential
    rw [decide_eq_false_iff_not] at hnone
    exact absurd ⟨huser, hlive⟩ hnone
  | some entry =>
    obtain ⟨id, found⟩ := entry
    obtain ⟨hget, hfoundUser, hfoundLive⟩ := credentialOf_eq_some hfind
    have hid : id = credentialId :=
      hs.unique id credentialId found credential hget hcredential hfoundLive hlive
        (hfoundUser.trans huser.symm)
    rw [hid, hcredential, Option.some.injEq] at hget
    exact ⟨_, rfl, hget ▸ henabled⟩

theorem FactorConsumed.enabledCredential {credentialId now userId : ℕ} (hs : AuthConsistent db)
    (h : FactorConsumed db credentialId now factor db')
    (hcredential : EnabledFor db credentialId userId) (hfactor : FactorFor db credentialId factor) :
    EnabledCredential db credentialId userId := by
  obtain ⟨credential, hget, huser, henabled⟩ := hcredential
  refine ⟨credential, hget, huser, ?_, henabled⟩
  cases h with
  | timeStep hsame hlive _ =>
    rw [hget, Option.some.injEq] at hsame
    rw [hsame]
    exact hlive
  | @recoveryCode id code hcode hlive hunused =>
    obtain ⟨found, hfound, hof⟩ := hfactor id rfl
    rw [hcode, Option.some.injEq] at hfound
    obtain ⟨owner, howner, hownerLive, -⟩ := hs.codes id code hcode hlive
    rw [hfound, hof, hget, Option.some.injEq] at howner
    rw [howner]
    exact hownerLive

/-! ## What the writes keep -/

theorem SessionsProved.quiet (h : SessionsProved db trace) (hextends : AuthExtends db db')
    (hsize : db'.authSessions.size = db.authSessions.size) (hnone : NoneEnabled db db')
    (events : List AuthEvent) : SessionsProved db' (trace ++ events) := by
  intro sessionId credentialId userId hsession hcredential
  exact (h sessionId credentialId userId (hsession.before hextends hsize)
    (hnone credentialId userId hcredential)).mono hextends

theorem SessionsProved.create (h : SessionsProved db trace)
    (hextends : AuthExtends db (createSession session db))
    (hnone : ∀ credentialId, ¬ EnabledCredential db credentialId session.userId)
    (events : List AuthEvent) : SessionsProved (createSession session db) (trace ++ events) := by
  intro sessionId credentialId userId hsession hcredential
  rcases hsession.created with ⟨-, rfl⟩ | hbefore
  · exact absurd hcredential (hnone credentialId)
  · exact (h sessionId credentialId userId hbefore hcredential).mono hextends

theorem SessionsProved.enable (h : SessionsProved db trace) {run : EnableRun}
    {credential : AdminTotpCredential} (hextends : AuthExtends db (enabledDatabase run db))
    (hcredential : db.adminTotpCredentials.get? run.credentialId = some credential)
    (huser : credential.userId = run.auth.userId) :
    SessionsProved (enabledDatabase run db) (trace ++ [.enabled run]) := by
  have hsize : (enabledDatabase run db).authSessions.size = db.authSessions.size := by
    rw [enabledDatabase, size_update]
    exact size_updateWhere _ _ _
  intro sessionId credentialId userId hsession henabled
  have hbefore := hsession.before hextends hsize
  obtain ⟨found, hfound, hfoundUser, hlive, hfoundEnabled⟩ := henabled
  rcases get?_update_cases hfound with ⟨rfl, row, hrow, rfl⟩ | ⟨-, hother⟩
  · -- Of the sessions of the user only the one that enables the credential is left.
    obtain rfl := Option.mem_unique hcredential hrow
    by_cases hid : run.auth.sessionId = sessionId
    · exact .inr ⟨run, List.mem_append_right _ (List.mem_singleton_self _), hid, rfl⟩
    · obtain ⟨session', hsession', -, hopen⟩ := hsession
      obtain ⟨session, hget, hgetUser, -⟩ := hbefore
      obtain ⟨revoked, hrevoked, -, hisRevoked⟩ :=
        @get?_revoked db run.now (fun id session =>
          session.userId = run.auth.userId ∧ id ≠ run.auth.sessionId) sessionId session hget
      rw [enabledDatabase, get?_update_of_ne hid, hrevoked, Option.some.injEq] at hsession'
      have hof : session.userId = run.auth.userId := by
        rw [hgetUser, ← hfoundUser, ← huser]
        rfl
      have hnot := hisRevoked (decide_eq_true ⟨hof, fun heq => hid heq.symm⟩)
      rw [hsession', hopen] at hnot
      cases hnot
  · exact (h sessionId credentialId userId hbefore
      ⟨found, hother, hfoundUser, hlive, hfoundEnabled⟩).mono hextends

/-! ## Runs -/

variable {settings : AuthSettings}

theorem sessionsProved_step : KeptByWrites settings PasswordOnlyBeforeEnabling SessionsProved := by
  intro w db trace events db' hs hwrites hG h
  have hextends := hwrites.extends
  cases hwrites with
  | same | resetTokens | attemptCounted | adminCompared _ _ | emailRefused _ _ | emailChallenge _ _
  | adminChallenge _ | codesReplaced _ _ _ => exact h.quiet hextends rfl (.of_eq rfl) _
  | sessionsRevoked | sessionTouched | preferenceChanged | passwordReset =>
    exact h.quiet hextends (size_updateWhere _ _ _) (.of_eq rfl) _
  | disabled _ =>
    exact h.quiet hextends (size_updateWhere _ _ _) (.of_update rfl fun _ =>
      ⟨rfl, rfl, fun hlive => Bool.noConfusion hlive⟩) _
  | setupStarted _ =>
    refine h.quiet hextends ?_ (upsertCredential_noneEnabled _ _) _
    rw [upsertCredential]
    split <;> rfl
  | factorConsumed hconsumed _ _ =>
    exact h.quiet hextends (congrArg Table.size hconsumed.tables.2.1) hconsumed.noneEnabled _
  | enabled _ hcredential _ _ huser _ _ _ => exact h.enable hextends hcredential huser
  | @sessionByPassword userId hash session hsession hrole =>
    refine h.create hextends (fun credentialId henabled => ?_) _
    rw [hsession] at henabled
    rcases hrole with hadmin | ⟨hcustomer, -⟩
    · have hnot := hG _ (List.mem_singleton_self _) hadmin
      rw [hs.secondFactorEnabled henabled] at hnot
      cases hnot
    · rw [hs.enabled_admin henabled] at hcustomer
      cases hcustomer
  | @emailCompleted input userId user row session hlock _ _ _ hsession =>
    have hquiet : SessionsProved { db with
      customerEmailChallenges := db.customerEmailChallenges.update input.challengeId
        (useEmailChallenge w.now) } trace := h
    refine hquiet.create ?_ (fun credentialId henabled => ?_) _
    · exact { AuthExtends.refl _ with sessions := grows_insert SessionMoves.refl _ _ }
    · rw [hsession] at henabled
      have hcustomer := (roleOf_lockCustomer hlock).1
      rw [hs.enabled_admin henabled] at hcustomer
      cases hcustomer
  | @adminCompleted run factor row consumed session hconsumed hcredential hfactor _ _ _ _ _ hsession =>
    have henabled := hconsumed.enabledCredential hs hcredential hfactor
    obtain ⟨-, hsessions, -, -⟩ := hconsumed.tables
    intro sessionId credentialId userId hopen hfound
    have hbefore : EnabledCredential db credentialId userId :=
      hconsumed.noneEnabled credentialId userId hfound
    rcases hopen.created with ⟨hid, huser⟩ | hopen
    · -- The new session has consumed a factor of the one credential that its user has.
      have hu : userId = run.userId := huser.symm.trans hsession
      subst hu
      rw [hs.enabled_unique hbefore henabled, hid]
      refine .inl ⟨factor, List.mem_append_right _ ?_, hextends.factorFor hfactor⟩
      rw [hsessions]
      exact List.mem_cons_self
    · refine (h sessionId credentialId userId ?_ hbefore).mono hextends
      rw [OpenSession, ← hsessions]
      exact hopen

/-- **Two-factor enforcement has no gap.**  In every interleaving of logins, completions, enablings
and disablings with everything else that the service does: a session that is accepted while the
credential of its user is enabled was created by a completion that has consumed a factor of that
credential, or is the session that has enabled it.  It is so as long as no login creates a session
with the password alone when the second factor has been enabled since it looked. -/
theorem second_factor_enforced (hdb : NobodySignedIn db) {c : Config (tracedAuth settings)}
    (hr : Reaches (NotesOnly settings PasswordOnlyBeforeEnabling) ⟨(db, []), []⟩ c) :
    SecondFactorEnforced settings c.shared.1 c.shared.2 := by
  have hinit : SessionsProved db [] := by
    rintro sessionId credentialId userId ⟨session, hsession, -⟩
    rw [hdb.sessions] at hsession
    exact absurd hsession get?_empty_ne
  exact (holds_of_writes sessionsProved_step hdb hinit hr).2.enforced settings

end

/-! ### A login that is overtaken by the enabling -/

/-- A second login of the administrator finds no credential, and creates its session after the
enabling. -/
def loginAcrossEnabling : List (Move tracedSample) :=
  enrolment.take 8 ++ [.call .login ownerLogin, .advance 2 { now := 1200000 },
    .call .enableTwoFactor (⟨0, "492039"⟩ : EnableRequest), .advance 3 { now := 1200000 },
    .advance 3 { now := 1200000, recoveryCodes := ["ALPHA", "BRAVO"] },
    .advance 3 { now := 1200000 }, .advance 2 { now := 1210000 }]

def acrossConfig : Config tracedSample :=
  Config.after ⟨(sampleUsers, []), []⟩ loginAcrossEnabling (by decide +kernel)

theorem not_proved_across : ¬ ProvedFactor acrossConfig.shared.1 acrossConfig.shared.2 1 0 := by
  have hevents : ∀ event ∈ acrossConfig.shared.2,
      (∀ factor, event ≠ .factorAccepted 0 factor (some 1)) ∧
        ∀ run, event = .enabled run → run.auth.sessionId ≠ 1 := by
    have hall : acrossConfig.shared.2.all (fun event => match event with
        | .factorAccepted _ _ _ => false
        | .enabled run => run.auth.sessionId ≠ 1
        | _ => true) = true := by decide +kernel
    intro event hevent
    have hone := List.all_eq_true.1 hall event hevent
    refine ⟨fun factor heq => ?_, fun run heq => ?_⟩
    · rw [heq] at hone
      cases hone
    · rw [heq] at hone
      exact of_decide_eq_true hone
  rintro (⟨factor, haccepted, -⟩ | ⟨run, henabled, hsession, -⟩)
  · exact (hevents _ haccepted).1 factor rfl
  · exact (hevents _ henabled).2 run rfl hsession

/-- The session that has shown a password only is accepted while the credential is enabled. -/
theorem password_only_session_accepted :
    ¬ ∀ c : Config tracedSample, Reaches anyStep ⟨(sampleUsers, []), []⟩ c →
      SecondFactorEnforced sampleSettings c.shared.1 c.shared.2 := by
  intro h
  have henforced := h acrossConfig (reaches_anyStep_of_run
    (run_eq_after (show (Config.run ⟨(sampleUsers, []), []⟩ loginAcrossEnabling).isSome = true
      by decide +kernel)))
  refine not_proved_across (henforced 1210000 1 {
    userId := 0, mode := .browser, createdAt := 1210000, expiresAt := 87610000, lastSeenAt := 1210000
    twoFactorVerifiedAt := some 1210000 } 0 (by decide +kernel) (by decide +kernel) ?_)
  refine ⟨{ userId := 0, secret := "JBSWY3DP", enabledAt := some 1200000, lastUsedTimeStep := some 40 },
    ?_, rfl, rfl, rfl⟩
  decide +kernel

def loginAfterEnabling : List (Move tracedSample) :=
  enrolment ++ [.call .login ownerLogin, .advance 3 { now := 1230000 }, .advance 3 { now := 1230000 },
    .call .completeTwoFactorLogin (⟨0, "817264", false, "office"⟩ : TwoFactorLoginRequest),
    .advance 4 { now := 1230000 }, .advance 4 { now := 1230000 }]

def enforcedConfig : Config tracedSample :=
  Config.after ⟨(sampleUsers, []), []⟩ loginAfterEnabling (by decide +kernel)

theorem both_factors_enforced :
    SecondFactorEnforced sampleSettings enforcedConfig.shared.1 enforcedConfig.shared.2 ∧
      enforcedConfig.shared.1.accepts sampleSettings 1230000 1 = true :=
  ⟨second_factor_enforced sampleUsers_nobodySignedIn (reaches_of_run
    (run_eq_after (show (Config.run ⟨(sampleUsers, []), []⟩ loginAfterEnabling).isSome = true
      by decide +kernel)) (by decide +kernel)), by decide +kernel⟩

end Auth

end WebhostBilling
