import WebhostBilling.Auth.AuthOperations

/-!
# Password resets

For a customer, the write of a login compares the password hash once more, and a challenge carries
the hash that it was made for.  Neither is so for an administrator.

Password hashes are numbered in the order in which they were made, so the hash that a reset replaces
has a smaller number than the new one, for ever.
-/

namespace WebhostBilling

open Store Store.Table Concurrency Config

namespace Auth

open AuthService

/-! ## What was obtained from a password -/

/-- The session was obtained from a verification of the password hash: by a login, or by the
completion of the challenge that a login has created. -/
def ObtainedWith (trace : List AuthEvent) (sessionId userId passwordHash : RowId) : Prop :=
  .passwordSession sessionId userId passwordHash ∈ trace ∨
    ∃ completion, .completed completion ∈ trace ∧ completion.sessionId = sessionId ∧
      .challenged completion.challenge userId passwordHash ∈ trace

/-- **A reset ends what was obtained from an older password hash of its user.** -/
structure AccessEnded (settings : AuthSettings) (db : AuthDatabase) (trace : List AuthEvent) :
    Prop where
  sessions : ∀ userId new sessionId old, .passwordReset userId new ∈ trace →
    ObtainedWith trace sessionId userId old → old < new →
      ∀ now, db.accepts settings now sessionId = false
  challenges : ∀ userId new completion old,
    [.passwordReset userId new, .completed completion].Sublist trace →
      .challenged completion.challenge userId old ∈ trace → ¬ old < new

/-- A challenge that has expired counts as well: a completion that looked before is under way. -/
def AuthDatabase.challengeUnused (db : AuthDatabase) (userId : RowId) : Bool :=
  db.adminLoginChallenges.any fun _ challenge =>
    challenge.userId = userId ∧ challenge.usedAt = none

/-- The login of an administrator writes while the password hash that it has verified is the
administrator's, and the password of an administrator is reset when every challenge was used. -/
def WritesCurrent (_ : AuthWorld) (db : AuthDatabase) (_ : List AuthEvent) : AuthEvent → Prop
  | .passwordSession _ userId passwordHash | .challenged _ userId passwordHash =>
    db.roleOf userId = some .admin → db.currentHash userId = some passwordHash
  | .passwordReset userId _ => db.challengeUnused userId = false
  | _ => True

instance (w : AuthWorld) (db : AuthDatabase) (trace : List AuthEvent) (event : AuthEvent) :
    Decidable (WritesCurrent w db trace event) :=
  match event with
  | .passwordSession .. | .challenged .. => inferInstanceAs (Decidable (_ → _))
  | .passwordReset .. => inferInstanceAs (Decidable (_ = _))
  | .codeCompared .. | .completed _ | .factorAccepted .. | .setupStarted _ | .enabled _
  | .codesReplaced .. => inferInstanceAs (Decidable True)

/-! ## The invariant -/

def SessionCurrent (db : AuthDatabase) (sessionId userId passwordHash : RowId) : Prop :=
  ∃ session, db.authSessions.get? sessionId = some session ∧ session.userId = userId ∧
    (session.revokedAt.isSome ∨ db.currentHash userId = some passwordHash)

def ChallengeCurrent (db : AuthDatabase) (userId passwordHash : RowId) : Challenge → Prop
  | .email id => ∃ challenge, db.customerEmailChallenges.get? id = some challenge ∧
      challenge.userId = userId ∧ challenge.credentialBinding.2 = some passwordHash
  | .admin id => ∃ challenge, db.adminLoginChallenges.get? id = some challenge ∧
      challenge.userId = userId ∧
        (challenge.usedAt.isSome ∨ db.currentHash userId = some passwordHash)

def ChallengeExists (db : AuthDatabase) : Challenge → Prop
  | .email id => (db.customerEmailChallenges.get? id).isSome
  | .admin id => (db.adminLoginChallenges.get? id).isSome

structure ResetsTraced (db : AuthDatabase) (trace : List AuthEvent) : Prop where
  resets : ∀ userId new, .passwordReset userId new ∈ trace →
    new < db.passwordHashes.size ∧ ∀ hash, db.currentHash userId = some hash → new ≤ hash
  byPassword : ∀ sessionId userId hash, .passwordSession sessionId userId hash ∈ trace →
    SessionCurrent db sessionId userId hash
  challenged : ∀ challenge userId hash, .challenged challenge userId hash ∈ trace →
    ChallengeCurrent db userId hash challenge
  completed : ∀ completion, .completed completion ∈ trace →
    ChallengeExists db completion.challenge ∧
      ∀ userId hash, .challenged completion.challenge userId hash ∈ trace →
        userId = completion.userId ∧ completion.passwordHash = some hash ∧
          SessionCurrent db completion.sessionId userId hash
  ordered : ∀ userId new completion, [.passwordReset userId new, .completed completion].Sublist trace →
    completion.userId = userId → ∀ hash, completion.passwordHash = some hash → new ≤ hash

section

variable {db db' : AuthDatabase} {trace : List AuthEvent}

theorem ResetsTraced.nil : ResetsTraced db [] where
  resets _ _ h := nomatch h
  byPassword _ _ _ h := nomatch h
  challenged _ _ _ h := nomatch h
  completed _ h := nomatch h
  ordered _ _ _ h := nomatch h

variable {sessionId userId hash id : RowId} {challenge : Challenge} {event : AuthEvent}

theorem SessionCurrent.not_accepted {settings : AuthSettings}
    (h : SessionCurrent db sessionId userId hash) (hreplaced : db.currentHash userId ≠ some hash)
    (now : ℕ) : db.accepts settings now sessionId = false := by
  obtain ⟨session, hsession, -, hrevoked | hcurrent⟩ := h
  · rw [AuthDatabase.accepts, hsession, Option.any_some]
    cases huser : db.users.get? session.userId with
    | none => rfl
    | some user =>
      rw [Option.any_some, decide_eq_false_iff_not]
      intro haccepted
      rw [haccepted.1] at hrevoked
      cases hrevoked
  · exact absurd hcurrent hreplaced

theorem ResetsTraced.accessEnded (h : ResetsTraced db trace) (settings : AuthSettings) :
    AccessEnded settings db trace where
  sessions userId new sessionId old hreset hobtained hold now := by
    have hreplaced : db.currentHash userId ≠ some old := by
      intro hcurrent
      exact absurd hold (Nat.not_lt.2 ((h.resets userId new hreset).2 old hcurrent))
    rcases hobtained with hsession | ⟨completion, hcompleted, rfl, hchallenged⟩
    · exact (h.byPassword sessionId userId old hsession).not_accepted hreplaced now
    · exact ((h.completed completion hcompleted).2 userId old hchallenged).2.2.not_accepted
        hreplaced now
  challenges userId new completion old hsublist hchallenged := by
    have hcompleted : .completed completion ∈ trace :=
      hsublist.subset (List.mem_cons_of_mem _ (List.mem_singleton_self _))
    obtain ⟨huser, hhash, -⟩ := (h.completed completion hcompleted).2 userId old hchallenged
    exact Nat.not_lt.2 (h.ordered userId new completion hsublist huser.symm old hhash)

/-! ## What the writes keep -/

theorem SessionCurrent.mono (h : SessionCurrent db sessionId userId hash)
    (hextends : AuthExtends db db') (hcurrent : db'.currentHash userId = db.currentHash userId) :
    SessionCurrent db' sessionId userId hash := by
  obtain ⟨session, hsession, huser, hstate⟩ := h
  obtain ⟨session', hsession', hmoves⟩ := hextends.sessions sessionId session hsession
  refine ⟨session', hsession', hmoves.userId.trans huser, ?_⟩
  rw [hcurrent]
  exact hstate.imp_left hmoves.revoked

theorem ChallengeCurrent.mono (h : ChallengeCurrent db userId hash challenge)
    (hextends : AuthExtends db db') (hcurrent : db'.currentHash userId = db.currentHash userId) :
    ChallengeCurrent db' userId hash challenge := by
  cases challenge with
  | email id =>
    obtain ⟨row, hrow, huser, hbinding⟩ := h
    obtain ⟨row', hrow', hmoves⟩ := hextends.emailChallenges id row hrow
    exact ⟨row', hrow', hmoves.userId.trans huser, hmoves.credentialBinding ▸ hbinding⟩
  | admin id =>
    obtain ⟨row, hrow, huser, hstate⟩ := h
    obtain ⟨row', hrow', hmoves⟩ := hextends.adminChallenges id row hrow
    refine ⟨row', hrow', hmoves.userId.trans huser, ?_⟩
    rw [hcurrent]
    exact hstate.imp_left hmoves.used

theorem ChallengeExists.mono (h : ChallengeExists db challenge) (hextends : AuthExtends db db') :
    ChallengeExists db' challenge := by
  cases challenge with
  | email id =>
    obtain ⟨row, hrow⟩ := Option.isSome_iff_exists.1 h
    obtain ⟨row', hrow', -⟩ := hextends.emailChallenges id row hrow
    exact Option.isSome_of_eq_some hrow'
  | admin id =>
    obtain ⟨row, hrow⟩ := Option.isSome_iff_exists.1 h
    obtain ⟨row', hrow', -⟩ := hextends.adminChallenges id row hrow
    exact Option.isSome_of_eq_some hrow'

structure PasswordsKept (db db' : AuthDatabase) : Prop where
  currentHash : ∀ userId, db'.currentHash userId = db.currentHash userId
  hashes : db'.passwordHashes = db.passwordHashes

theorem PasswordsKept.of_eq (husers : db'.users = db.users)
    (hhashes : db'.passwordHashes = db.passwordHashes) : PasswordsKept db db' :=
  ⟨fun userId => by rw [AuthDatabase.currentHash, husers, AuthDatabase.currentHash], hhashes⟩

theorem ResetsTraced.mono (h : ResetsTraced db trace) (hextends : AuthExtends db db')
    (hkept : PasswordsKept db db') : ResetsTraced db' trace where
  resets userId new hreset := by
    rw [hkept.hashes, hkept.currentHash]
    exact h.resets userId new hreset
  byPassword sessionId userId hash hsession :=
    (h.byPassword sessionId userId hash hsession).mono hextends (hkept.currentHash userId)
  challenged challenge userId hash hchallenged :=
    (h.challenged challenge userId hash hchallenged).mono hextends (hkept.currentHash userId)
  completed completion hcompleted := by
    obtain ⟨hexists, hfrom⟩ := h.completed completion hcompleted
    refine ⟨hexists.mono hextends, fun userId hash hchallenged => ?_⟩
    obtain ⟨huser, hhash, hsession⟩ := hfrom userId hash hchallenged
    exact ⟨huser, hhash, hsession.mono hextends (hkept.currentHash userId)⟩
  ordered := h.ordered

/-! ## What one more event does -/

theorem mem_append_event {e : AuthEvent} (h : e ∈ trace ++ [event]) :
    e ∈ trace ∨ e = event := by
  rw [List.mem_append, List.mem_singleton] at h
  exact h

theorem pair_sublist_append {a b : AuthEvent} (h : [a, b].Sublist (trace ++ [event])) :
    [a, b].Sublist trace ∨ (a ∈ trace ∧ b = event) := by
  obtain ⟨l₁, l₂, heq, h₁, h₂⟩ := List.sublist_append_iff.1 h
  rcases List.sublist_singleton.1 h₂ with rfl | rfl
  · rw [List.append_nil] at heq
    exact .inl (heq ▸ h₁)
  · have hpair : [a] ++ [b] = l₁ ++ [event] := heq
    obtain ⟨rfl, hlast⟩ := List.append_inj' hpair rfl
    rw [List.singleton_inj] at hlast
    exact .inr ⟨List.singleton_sublist.1 h₁, hlast⟩

def Noteworthy (db : AuthDatabase) (trace : List AuthEvent) : AuthEvent → Prop
  | .passwordReset userId new =>
    new < db.passwordHashes.size ∧ ∀ hash, db.currentHash userId = some hash → new ≤ hash
  | .passwordSession sessionId userId hash => SessionCurrent db sessionId userId hash
  | .challenged challenge userId hash => ChallengeCurrent db userId hash challenge ∧
      ∀ completion, .completed completion ∈ trace → completion.challenge ≠ challenge
  | .completed completion => ChallengeExists db completion.challenge ∧
      completion.passwordHash = db.currentHash completion.userId ∧
        ∀ userId hash, .challenged completion.challenge userId hash ∈ trace →
          userId = completion.userId ∧ completion.passwordHash = some hash ∧
            SessionCurrent db completion.sessionId userId hash
  | _ => True

theorem ResetsTraced.append (h : ResetsTraced db trace) (hevent : Noteworthy db trace event) :
    ResetsTraced db (trace ++ [event]) where
  resets userId new hreset := by
    rcases mem_append_event hreset with hreset | rfl
    · exact h.resets userId new hreset
    · exact hevent
  byPassword sessionId userId hash hsession := by
    rcases mem_append_event hsession with hsession | rfl
    · exact h.byPassword sessionId userId hash hsession
    · exact hevent
  challenged challenge userId hash hchallenged := by
    rcases mem_append_event hchallenged with hchallenged | rfl
    · exact h.challenged challenge userId hash hchallenged
    · exact hevent.1
  completed completion hcompleted := by
    rcases mem_append_event hcompleted with hcompleted | rfl
    · obtain ⟨hexists, hfrom⟩ := h.completed completion hcompleted
      refine ⟨hexists, fun userId hash hchallenged => ?_⟩
      rcases mem_append_event hchallenged with hchallenged | heq
      · exact hfrom userId hash hchallenged
      · rw [← heq] at hevent
        exact absurd rfl (hevent.2 completion hcompleted)
    · refine ⟨hevent.1, fun userId hash hchallenged => ?_⟩
      rcases mem_append_event hchallenged with hchallenged | heq
      · exact hevent.2.2 userId hash hchallenged
      · cases heq
  ordered userId new completion hsublist huser hash hhash := by
    rcases pair_sublist_append hsublist with hbefore | ⟨hreset, rfl⟩
    · exact h.ordered userId new completion hbefore huser hash hhash
    · refine (h.resets userId new hreset).2 hash ?_
      rw [← huser, ← hevent.2.1, hhash]

theorem ResetsTraced.write (h : ResetsTraced db trace) (hextends : AuthExtends db db')
    (hkept : PasswordsKept db db') (hevent : Noteworthy db' trace event) :
    ResetsTraced db' (trace ++ [event]) :=
  (h.mono hextends hkept).append hevent

theorem ResetsTraced.not_completed (h : ResetsTraced db trace)
    (hnew : ¬ ChallengeExists db challenge) (completion : Completion)
    (hcompleted : .completed completion ∈ trace) : completion.challenge ≠ challenge := by
  rintro rfl
  exact hnew (h.completed completion hcompleted).1

theorem sessionCurrent_created {session : AuthSession} (huser : session.userId = userId)
    (hcurrent : db.currentHash userId = some hash) :
    SessionCurrent (createSession session db) db.authSessions.size userId hash :=
  ⟨session, get?_insert_self _ _, huser, .inr hcurrent⟩

theorem ResetsTraced.reset (h : ResetsTraced db trace) {userId now : ℕ} {password : String}
    {tokens : Table PasswordResetToken}
    (hextends : AuthExtends db db')
    (hdb' : db' = { db with
      passwordResetTokens := tokens
      passwordHashes := db.passwordHashes.insert password
      users := db.users.update userId fun user =>
        { user with passwordHash := some db.passwordHashes.size }
      authSessions := db.revoked (fun _ session => session.userId = userId) now })
    (hclosed : db.challengeUnused userId = false) : ResetsTraced db' trace := by
  have hother {u : RowId} (hne : userId ≠ u) : db'.currentHash u = db.currentHash u := by
    rw [hdb', AuthDatabase.currentHash, get?_update_of_ne hne, AuthDatabase.currentHash]
  have hsession {sessionId u hash : RowId} (hs : SessionCurrent db sessionId u hash) :
      SessionCurrent db' sessionId u hash := by
    by_cases hu : userId = u
    · subst hu
      obtain ⟨session, hget, huser, -⟩ := hs
      obtain ⟨session', hget', huser', hrevoked⟩ :=
        @get?_revoked db now (fun _ session => session.userId = userId) sessionId session hget
      rw [hdb']
      exact ⟨session', hget', huser'.trans huser, .inl (hrevoked (decide_eq_true huser))⟩
    · exact hs.mono hextends (hother hu)
  have hchallenge {challenge : Challenge} {u hash : RowId}
      (hc : ChallengeCurrent db u hash challenge) : ChallengeCurrent db' u hash challenge := by
    by_cases hu : userId = u
    · subst hu
      cases challenge with
      | email id =>
        rw [hdb']
        exact hc
      | admin id =>
        obtain ⟨row, hrow, huser, -⟩ := hc
        have hused := any_eq_false.1 hclosed id row hrow
        rw [decide_eq_false_iff_not] at hused
        refine ⟨row, by rw [hdb']; exact hrow, huser, .inl ?_⟩
        cases husedAt : row.usedAt with
        | none => exact absurd ⟨huser, husedAt⟩ hused
        | some _ => rfl
    · exact hc.mono hextends (hother hu)
  refine ⟨fun u new hreset => ?_, fun s u p hbefore => hsession (h.byPassword s u p hbefore),
    fun c u p hbefore => hchallenge (h.challenged c u p hbefore), fun completion hcompleted => ?_,
    h.ordered⟩
  · obtain ⟨hlt, hle⟩ := h.resets u new hreset
    rw [hdb']
    refine ⟨?_, fun hash hhash => ?_⟩
    · rw [size_insert]
      exact Nat.lt_succ_of_lt hlt
    · by_cases hu : userId = u
      · subst hu
        rw [AuthDatabase.currentHash, get?_update, if_pos rfl] at hhash
        obtain ⟨user, huser, hsome⟩ := Option.bind_eq_some_iff.1 hhash
        obtain ⟨before, -, rfl⟩ := Option.map_eq_some_iff.1 huser
        rw [Option.some.injEq] at hsome
        rw [← hsome]
        exact Nat.le_of_lt hlt
      · rw [← hdb', hother hu] at hhash
        exact hle hash hhash
  · obtain ⟨hexists, hfrom⟩ := h.completed completion hcompleted
    refine ⟨hexists.mono hextends, fun u p hbefore => ?_⟩
    obtain ⟨huser, hhash, hs⟩ := hfrom u p hbefore
    exact ⟨huser, hhash, hsession hs⟩

/-! ## Runs -/

theorem PasswordsKept.preference {emailTwoStep : Bool} (db' : AuthDatabase)
    (hhashes : db'.passwordHashes = db.passwordHashes)
    (husers : db'.users = db.users.update userId fun user => { user with emailTwoStep }) :
    PasswordsKept db db' := by
  refine ⟨fun u => ?_, hhashes⟩
  rw [AuthDatabase.currentHash, husers, get?_update, AuthDatabase.currentHash]
  split
  · cases db.users.get? u with
    | none | some user => rfl
  · rfl

theorem FactorConsumed.passwordsKept {credentialId now : ℕ} {factor : Factor}
    (h : FactorConsumed db credentialId now factor db') : PasswordsKept db db' := by
  cases h with
  | timeStep _ _ _ | recoveryCode _ _ _ => exact .of_eq rfl rfl

theorem upsertCredential_passwordsKept (userId : RowId) (secret : String) :
    PasswordsKept db (upsertCredential userId secret db) := by
  rw [upsertCredential]
  split
  · exact .of_eq rfl rfl
  · exact .of_eq rfl rfl

theorem challengeExists_of_email {challenge : CustomerEmailChallenge}
    (h : db.customerEmailChallenges.get? id = some challenge) : ChallengeExists db (.email id) :=
  Option.isSome_of_eq_some h

theorem challengeExists_of_admin {challenge : AdminLoginChallenge}
    (h : db.adminLoginChallenges.get? id = some challenge) : ChallengeExists db (.admin id) :=
  Option.isSome_of_eq_some h

variable {settings : AuthSettings}

theorem resetsTraced_step : KeptByWrites settings WritesCurrent ResetsTraced := by
  intro w db trace events db' _ hwrites hG h
  have hextends := hwrites.extends
  cases hwrites with
  | same | resetTokens | sessionsRevoked | sessionTouched | attemptCounted | disabled _ =>
    rw [List.append_nil]
    exact h.mono hextends (.of_eq rfl rfl)
  | preferenceChanged =>
    rw [List.append_nil]
    exact h.mono hextends (.preference _ rfl rfl)
  | emailRefused _ _ | adminCompared _ _ | enabled _ _ _ _ _ _ _ _ | codesReplaced _ _ _ =>
    exact h.write hextends (.of_eq rfl rfl) trivial
  | setupStarted _ => exact h.write hextends (upsertCredential_passwordsKept _ _) trivial
  | factorConsumed hconsumed _ _ => exact h.write hextends hconsumed.passwordsKept trivial
  | @sessionByPassword userId hash session hsession hrole =>
    have hcurrent : db.currentHash userId = some hash := by
      rcases hrole with hadmin | ⟨-, hcurrent⟩
      · exact hG _ (List.mem_singleton_self _) hadmin
      · exact hcurrent
    exact h.write hextends (.of_eq rfl rfl) (sessionCurrent_created hsession hcurrent)
  | @emailChallenge input userId hash user hlock hcurrent =>
    have hsize : (db.supersedeEmailChallenges userId w.now).customerEmailChallenges.size =
        db.customerEmailChallenges.size := size_updateWhere _ _ _
    refine h.write hextends (.of_eq rfl rfl)
        ⟨⟨newEmailChallenge w input userId user, ?_, rfl, hcurrent⟩,
      h.not_completed ?_⟩
    · rw [← hsize]
      exact get?_insert_self _ _
    · rw [ChallengeExists, get?_size]
      exact Bool.false_ne_true
  | @adminChallenge input userId hash hrole =>
    have hcurrent : db.currentHash userId = some hash := hG _ (List.mem_singleton_self _) hrole
    have hsize : (db.supersedeAdminChallenges userId w.now).adminLoginChallenges.size =
        db.adminLoginChallenges.size := size_updateWhere _ _ _
    refine h.write hextends (.of_eq rfl rfl) ⟨⟨newAdminChallenge w input userId, ?_, rfl,
      Or.inr hcurrent⟩, h.not_completed ?_⟩
    · rw [← hsize]
      exact get?_insert_self _ _
    · rw [ChallengeExists, get?_size]
      exact Bool.false_ne_true
  | @emailCompleted input userId user row session hlock hrow hopen huser hsession =>
    rw [List.append_cons]
    have hlocked := (roleOf_lockCustomer hlock).2
    have hcompared : ResetsTraced db (trace ++ [.codeCompared (.email input.challengeId) true]) :=
      h.append trivial
    refine hcompared.write hextends (.of_eq rfl rfl) ⟨(challengeExists_of_email hrow).mono hextends,
      hlocked.symm, fun u hash hchallenged => ?_⟩
    -- The challenge is bound to the password hash that the user has.
    rcases mem_append_event hchallenged with hchallenged | heq
    · obtain ⟨row', hrow', huser', hbinding⟩ := h.challenged _ u hash hchallenged
      obtain rfl := Option.mem_unique hrow hrow'
      have hhash : user.passwordHash = some hash := by
        rw [hopen.2.2.2.2.2] at hbinding
        exact hbinding
      have hu : u = userId := huser'.symm.trans huser
      subst hu
      exact ⟨rfl, hhash, sessionCurrent_created hsession (hlocked.trans hhash)⟩
    · cases heq
  | @adminCompleted run factor row consumed session hconsumed hcredential hfactor hrow hunused _ _
      huser hsession =>
    rw [List.append_cons]
    have hkept : PasswordsKept db consumed := hconsumed.passwordsKept
    obtain ⟨-, hsessions, -, -⟩ := hconsumed.tables
    have haccepted : ResetsTraced db (trace ++ [.factorAccepted run.credentialId factor
        (some db.authSessions.size)]) := h.append trivial
    refine haccepted.write hextends ⟨hkept.currentHash, hkept.hashes⟩
      ⟨(challengeExists_of_admin hrow).mono hextends, (hkept.currentHash run.userId).symm,
        fun u hash hchallenged => ?_⟩
    -- The challenge was not used, so its password hash is the one that the user has.
    rcases mem_append_event hchallenged with hchallenged | heq
    · obtain ⟨row', hrow', huser', hstate⟩ := h.challenged _ u hash hchallenged
      obtain rfl := Option.mem_unique hrow hrow'
      rw [hunused] at hstate
      have hu : u = run.userId := huser'.symm.trans huser
      subst hu
      rcases hstate with hused | hcurrent
      · cases hused
      · refine ⟨rfl, hcurrent, session, ?_, hsession, .inr ?_⟩
        · rw [createSession, hsessions]
          exact get?_insert_self _ _
        · exact (hkept.currentHash run.userId).trans hcurrent
    · cases heq
  | @passwordReset userId now password tokens =>
    have hclosed : db.challengeUnused userId = false := hG _ (List.mem_singleton_self _)
    refine (h.reset hextends rfl hclosed).append ⟨?_, fun hash hhash => ?_⟩
    · rw [size_insert]
      exact Nat.lt_succ_self _
    · rw [AuthDatabase.currentHash, get?_update, if_pos rfl] at hhash
      obtain ⟨user, huser, hsome⟩ := Option.bind_eq_some_iff.1 hhash
      obtain ⟨before, -, rfl⟩ := Option.map_eq_some_iff.1 huser
      rw [Option.some.injEq] at hsome
      exact Nat.le_of_eq hsome

/-- **A password reset ends what was obtained with the old password.**  In every interleaving of
logins, completions of their challenges and resets with everything else that the service does: no
session that was obtained from a password hash which the user had before a reset is accepted after
it, and no challenge that was created from such a hash is completed.  It is so as long as an
administrator's login does not write after the password that it has verified was reset, and no
challenge of an administrator is left unused when the password is. -/
theorem password_reset_ends_access (hdb : NobodySignedIn db) {c : Config (tracedAuth settings)}
    (hr : Reaches (NotesOnly settings WritesCurrent) ⟨(db, []), []⟩ c) :
    AccessEnded settings c.shared.1 c.shared.2 :=
  (holds_of_writes resetsTraced_step hdb ResetsTraced.nil hr).2.accessEnded settings

end

/-! ### A login that is overtaken by a reset -/

def ownerReset : List (Move tracedSample) :=
  [.call .requestPasswordReset "owner@host.example", .advance 1 { now := 1210000 },
    .advance 1 { now := 1210000 },
    .call .confirmPasswordReset (⟨0, "spring is here"⟩ : PasswordResetConfirmation),
    .advance 2 { now := 1220000 }, .advance 2 { now := 1220000 }]

/-- A login verifies the old password, and creates its session after the reset. -/
def overtakenLogin : List (Move tracedSample) :=
  [.call .login ownerLogin, .advance 0 { now := 1200000 }] ++ ownerReset ++
    [.advance 0 { now := 1230000 }]

def overtakenConfig : Config tracedSample :=
  Config.after ⟨(sampleUsers, []), []⟩ overtakenLogin (by decide +kernel)

/-- The session is accepted, although the password that it was obtained with was reset. -/
theorem overtaken_login_accepted :
    ¬ ∀ c : Config tracedSample, Reaches anyStep ⟨(sampleUsers, []), []⟩ c →
      AccessEnded sampleSettings c.shared.1 c.shared.2 := by
  intro h
  have hended := h overtakenConfig (reaches_anyStep_of_run
    (run_eq_after (show (Config.run ⟨(sampleUsers, []), []⟩ overtakenLogin).isSome = true by
      decide +kernel)))
  have hrejected := hended.sessions 0 2 0 0 (by decide +kernel) (.inl (by decide +kernel))
    (by decide) 1230000
  have haccepted : overtakenConfig.shared.1.accepts sampleSettings 1230000 0 = true := by
    decide +kernel
  rw [haccepted] at hrejected
  cases hrejected

def loginThenReset : List (Move tracedSample) :=
  [.call .login ownerLogin, .advance 0 { now := 1200000 }, .advance 0 { now := 1200000 }] ++ ownerReset

def resetConfig : Config tracedSample :=
  Config.after ⟨(sampleUsers, []), []⟩ loginThenReset (by decide +kernel)

theorem login_ended_by_reset :
    AccessEnded sampleSettings resetConfig.shared.1 resetConfig.shared.2 ∧
    .passwordReset 0 2 ∈ resetConfig.shared.2 ∧ ObtainedWith resetConfig.shared.2 0 0 0 :=
  ⟨password_reset_ends_access sampleUsers_nobodySignedIn (reaches_of_run
    (run_eq_after (show (Config.run ⟨(sampleUsers, []), []⟩ loginThenReset).isSome = true by
      decide +kernel)) (by decide +kernel)), by decide +kernel, .inl (by decide +kernel)⟩

end Auth

end WebhostBilling
