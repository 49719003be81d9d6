import WebhostBilling.Auth.AuthOperations

/-!
# What has ended stays ended

A session that was revoked, a challenge that was used and a credential that was disabled keep their
rows.  `AuthExtends` says that no write takes an ending back; it is transitive, so no run does, and
nothing that has ended gives access again.
-/

namespace WebhostBilling

open Store Store.Table Concurrency Config

namespace Auth

section

variable {db db' db'' : AuthDatabase} {settings : AuthSettings} {id : RowId}

theorem UserStays.trans {a b c : User} (h : UserStays a b) (h' : UserStays b c) : UserStays a c :=
  Eq.trans h' h

theorem CredentialMoves.trans {a b c : AdminTotpCredential} (h : CredentialMoves a b)
    (h' : CredentialMoves b c) : CredentialMoves a c :=
  ⟨h'.userId.trans h.userId, fun he => h'.enabled (h.enabled he),
    fun hd => h'.deleted (h.deleted hd)⟩

theorem AuthExtends.trans (h : AuthExtends db db') (h' : AuthExtends db' db'') :
    AuthExtends db db'' where
  users := Grows.trans (fun _ _ _ => .trans) h.users h'.users
  sessions := Grows.trans (fun _ _ _ => .trans) h.sessions h'.sessions
  credentials := Grows.trans (fun _ _ _ => .trans) h.credentials h'.credentials
  codes := Grows.trans (fun _ _ _ => .trans) h.codes h'.codes
  adminChallenges := Grows.trans (fun _ _ _ => .trans) h.adminChallenges h'.adminChallenges
  emailChallenges := Grows.trans (fun _ _ _ => .trans) h.emailChallenges h'.emailChallenges

/-! ## What gives no access any more -/

/-- **Nothing that has ended in `db` gives access in `db'`**, at any time. -/
structure EndedForGood (settings : AuthSettings) (db db' : AuthDatabase) : Prop where
  sessions : ∀ id session, db.authSessions.get? id = some session → session.revokedAt.isSome →
    ∀ now, db'.accepts settings now id = false
  emailChallenges : ∀ id challenge, db.customerEmailChallenges.get? id = some challenge →
    challenge.usedAt.isSome → ∀ now, db'.intact now (.email id) = false
  adminChallenges : ∀ id challenge, db.adminLoginChallenges.get? id = some challenge →
    challenge.usedAt.isSome → ∀ now, db'.intact now (.admin id) = false
  credentials : ∀ id credential, db.adminTotpCredentials.get? id = some credential →
    credential.deleted = true → ¬ LiveCredential db' id
  /-- A recovery code is no longer among those that a login may use. -/
  codes : ∀ id code, db.adminRecoveryCodes.get? id = some code →
    code.usedAt.isSome ∨ code.deleted = true → ∀ credentialId code',
      (id, code') ∉ db'.unusedRecoveryCodes credentialId

theorem AuthExtends.endedForGood (h : AuthExtends db db') : EndedForGood settings db db' where
  sessions id session hsession hrevoked now := by
    obtain ⟨session', hsession', hmoves⟩ := h.sessions id session hsession
    have hstill := Option.isSome_iff_ne_none.1 (hmoves.revoked hrevoked)
    simp [AuthDatabase.accepts, hsession', hstill]
  emailChallenges id challenge hchallenge hused now := by
    obtain ⟨challenge', hchallenge', hmoves⟩ := h.emailChallenges id challenge hchallenge
    have hstill := Option.isSome_iff_ne_none.1 (hmoves.used hused)
    simp [AuthDatabase.intact, hchallenge', hstill]
  adminChallenges id challenge hchallenge hused now := by
    obtain ⟨challenge', hchallenge', hmoves⟩ := h.adminChallenges id challenge hchallenge
    have hstill := Option.isSome_iff_ne_none.1 (hmoves.used hused)
    simp [AuthDatabase.intact, hchallenge', hstill]
  credentials id credential hcredential hdeleted hlive := by
    obtain ⟨credential', hcredential', hmoves⟩ := h.credentials id credential hcredential
    obtain ⟨live, hget, hpresent, -⟩ := hlive
    obtain rfl := Option.mem_unique hcredential' hget
    rw [hmoves.deleted hdeleted] at hpresent
    cases hpresent
  codes id code hcode hended credentialId code' hmem := by
    obtain ⟨after, hafter, hmoves⟩ := h.codes id code hcode
    obtain ⟨hget, hunused⟩ := mem_select.1 hmem
    obtain rfl := Option.mem_unique hafter hget
    simp only [decide_eq_true_eq] at hunused
    rcases hended with hused | hdeleted
    · exact Option.isSome_iff_ne_none.1 (hmoves.used hused) hunused.2.1
    · rw [hmoves.deleted hdeleted] at hunused
      cases hunused.2.2

/-! ## Runs -/

theorem authOutline_anyStep : (authOutline settings fun _ _ => True).Sound anyStep :=
  (authOutline_sound (G := fun _ _ _ _ => True) fun _ _ _ _ _ _ _ _ _ => trivial).mono
    fun _ _ _ _ _ _ => trivial

variable {c c' : Config (tracedAuth settings)}

theorem authOutline_holds (hdb : NobodySignedIn db)
    (hr : Reaches anyStep ⟨(db, []), []⟩ c) :
    (authOutline settings fun _ _ => True).Holds c :=
  authOutline_anyStep.holds (Outline.holds_idle ⟨hdb.consistent, trivial⟩) hr

/-- **The credentials are consistent in every state**: a user has one live credential at most, only
administrators have any, and a live recovery code belongs to a credential that is enabled. -/
theorem credentials_consistent (hdb : NobodySignedIn db)
    (hr : Reaches anyStep ⟨(db, []), []⟩ c) : AuthConsistent c.shared.1 :=
  (authOutline_holds hdb hr).shared.1

theorem extends_of_reaches (h : (authOutline settings fun _ _ => True).Holds c)
    (hr : Reaches anyStep c c') : AuthExtends c.shared.1 c'.shared.1 := by
  refine authOutline_anyStep.related (R := fun s s' => AuthExtends s.1 s'.1)
    (fun s => .refl s.1) (fun _ _ _ => .trans) ?_ h hr
  intro w s t s' t' _ _ hreads hstep
  obtain ⟨l, hl, -, -⟩ := Thread.traced_step hstep
  exact (authWrites_of_step t.op hreads hl).1.extends

/-- **What has ended stays ended.**  Whatever the authentication service does after a state that it
has reached, in any interleaving of its operations, nothing that had ended there gives access. -/
theorem ended_for_good (hdb : NobodySignedIn db)
    (hr : Reaches anyStep ⟨(db, []), []⟩ c)
    (hr' : Reaches anyStep c c') :
    EndedForGood settings c.shared.1 c'.shared.1 :=
  (extends_of_reaches (authOutline_holds hdb hr) hr').endedForGood

end

/-! ### An administrator who signs out -/

def enrolledConfig : Config tracedSample :=
  Config.after ⟨(sampleUsers, []), []⟩ enrolment (by decide +kernel)

theorem enrolled_consistent : AuthConsistent enrolledConfig.shared.1 :=
  credentials_consistent sampleUsers_nobodySignedIn (reaches_anyStep_of_run
    (run_eq_after (show (Config.run ⟨(sampleUsers, []), []⟩ enrolment).isSome = true by
      decide +kernel)))

/-- The administrator signs in and out again. -/
def signingOut : List (Move tracedSample) :=
  [.call .login ownerLogin, .advance 0 { now := 1200000 }, .advance 0 { now := 1200000 },
    .call .endSessions ((0, .own) : RowId × AuthService.EndedSessions),
    .advance 1 { now := 1210000 }, .advance 1 { now := 1210000 }]

def signedOutConfig : Config tracedSample :=
  Config.after ⟨(sampleUsers, []), []⟩ signingOut (by decide +kernel)

def signingInAgain : List (Move tracedSample) :=
  [.call .login ownerLogin, .advance 2 { now := 1220000 }, .advance 2 { now := 1220000 }]

def signedInAgain : Config tracedSample := signedOutConfig.after signingInAgain (by decide +kernel)

/-- The next session is accepted, and the one that was ended is not. -/
theorem signed_out_for_good :
    (signedOutConfig.shared.1.authSessions.get? 0).any (·.revokedAt.isSome) = true ∧
      signedInAgain.shared.1.accepts sampleSettings 1230000 1 = true ∧
      EndedForGood sampleSettings signedOutConfig.shared.1 signedInAgain.shared.1 := by
  have hout : Config.run ⟨(sampleUsers, []), []⟩ signingOut = some signedOutConfig :=
    run_eq_after (by decide +kernel)
  have hagain : signedOutConfig.run signingInAgain = some signedInAgain :=
    run_eq_after (by decide +kernel)
  exact ⟨by decide +kernel, by decide +kernel, ended_for_good sampleUsers_nobodySignedIn
    (reaches_anyStep_of_run hout) (reaches_anyStep_of_run hagain)⟩

end Auth

end WebhostBilling
