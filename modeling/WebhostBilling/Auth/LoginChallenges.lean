import Mathlib.Data.List.Count
import WebhostBilling.Auth.AuthOperations

/-!
# Login challenges

For the challenge of a customer, code and count are one transaction under a lock.  For that of an
administrator the code is compared first and a wrong one counted later, in a transaction of its own,
so that any number of wrong codes can be compared before the first of them counts.
-/

namespace WebhostBilling

open Store Store.Table Concurrency Config

namespace Auth

open AuthService

/-! ## What is noted of a challenge -/

def completes (challenge : Challenge) : AuthEvent → Bool
  | .completed completion => completion.challenge = challenge
  | _ => false

def wrongCodes (trace : List AuthEvent) (challenge : Challenge) : ℕ :=
  trace.count (.codeCompared challenge false)

/-- **A challenge is bounded and single use.** -/
structure ChallengeBounded (trace : List AuthEvent) (challenge : Challenge) : Prop where
  once : trace.countP (completes challenge) ≤ 1
  wrongCodes : wrongCodes trace challenge ≤ 5
  /-- A code is accepted before the fifth wrong one, and while the challenge is unused, not
  superseded and not expired. -/
  accepted : ∀ before completion, before ++ [.completed completion] <+: trace →
    completion.challenge = challenge →
      Auth.wrongCodes before challenge < 5 ∧ completion.intact = true

def AuthDatabase.failedAttempts (db : AuthDatabase) : Challenge → ℕ
  | .email id => (db.customerEmailChallenges.get? id).elim 0 (·.failedAttempts)
  | .admin id => (db.adminLoginChallenges.get? id).elim 0 (·.failedAttempts)

def AuthDatabase.used (db : AuthDatabase) : Challenge → Bool
  | .email id => (db.customerEmailChallenges.get? id).any (·.usedAt.isSome)
  | .admin id => (db.adminLoginChallenges.get? id).any (·.usedAt.isSome)

def AuthDatabase.notExpired (db : AuthDatabase) (now id : ℕ) : Bool :=
  (db.adminLoginChallenges.get? id).any fun challenge => now < challenge.expiresAt

/-- Every wrong code is counted before the next one is compared; and between the comparison of a
right one and its completion the fifth failure is not counted and the challenge does not expire. -/
def CountedFirst : Challenge → AuthWorld → AuthDatabase → List AuthEvent → AuthEvent → Prop
  | .admin id, _, db, trace, .codeCompared compared _ => compared = .admin id →
      wrongCodes trace (.admin id) ≤ db.failedAttempts (.admin id)
  | .admin id, w, db, trace, .completed completion => ∀ run ∈ completion.run, run.challengeId = id →
      wrongCodes trace (.admin id) ≤ db.failedAttempts (.admin id) ∧
        (db.failedAttempts (.admin id) = run.failedAttempts ∨ db.failedAttempts (.admin id) < 5) ∧
        (w.now ≤ run.now ∨ db.notExpired w.now id = true)
  | _, _, _, _, _ => True

instance (challenge : Challenge) (w : AuthWorld) (db : AuthDatabase) (trace : List AuthEvent)
    (event : AuthEvent) : Decidable (CountedFirst challenge w db trace event) := by
  unfold CountedFirst
  split <;> infer_instance

/-! ## What one more event does -/

section

variable {challenge : Challenge} {db db' : AuthDatabase} {trace : List AuthEvent}

theorem ChallengeBounded.nil : ChallengeBounded [] challenge where
  once := Nat.zero_le 1
  wrongCodes := Nat.zero_le 5
  accepted before completion h _ := by
    have hnil := List.prefix_nil.1 h
    exact absurd hnil (List.append_ne_nil_of_right_ne_nil _ (List.cons_ne_nil _ _))

theorem wrongCodes_append (events : List AuthEvent) : wrongCodes (trace ++ events) challenge =
    wrongCodes trace challenge + wrongCodes events challenge :=
  List.count_append

variable {event : AuthEvent} {completion : Completion}

theorem ChallengeBounded.append (h : ChallengeBounded trace challenge)
    (hcompletes : completes challenge event = false)
    (hwrong : event = .codeCompared challenge false → Auth.wrongCodes trace challenge < 5) :
    ChallengeBounded (trace ++ [event]) challenge where
  once := by
    rw [List.countP_append, List.countP_singleton, hcompletes]
    exact h.once
  wrongCodes := by
    rw [wrongCodes_append]
    by_cases hevent : event = .codeCompared challenge false
    · have hlt := hwrong hevent
      have hone : Auth.wrongCodes [event] challenge ≤ 1 := List.count_le_length
      omega
    · have hzero : Auth.wrongCodes [event] challenge = 0 := by
        rw [Auth.wrongCodes, List.count_singleton, beq_eq_false_iff_ne.2 hevent]
        rfl
      rw [hzero]
      exact h.wrongCodes
  accepted before completion hprefix hof := by
    rcases List.prefix_concat_iff.1 hprefix with heq | hbefore
    · have hlast := (List.append_inj' heq rfl).2
      rw [List.singleton_inj] at hlast
      rw [← hlast, completes, decide_eq_false_iff_not] at hcompletes
      exact absurd hof hcompletes
    · exact h.accepted before completion hbefore hof

theorem ChallengeBounded.append_completed (h : ChallengeBounded trace challenge)
    (hnone : trace.countP (completes challenge) = 0) (hwrong : Auth.wrongCodes trace challenge < 5)
    (hintact : completion.intact = true) :
    ChallengeBounded (trace ++ [.completed completion]) challenge where
  once := by
    rw [List.countP_append, hnone, Nat.zero_add]
    exact List.countP_le_length
  wrongCodes := by
    rw [wrongCodes_append]
    exact h.wrongCodes
  accepted before later hprefix hof := by
    rcases List.prefix_concat_iff.1 hprefix with heq | hbefore
    · obtain ⟨rfl, hlast⟩ := List.append_inj' heq rfl
      rw [List.singleton_inj, AuthEvent.completed.injEq] at hlast
      rw [hlast]
      exact ⟨hwrong, hintact⟩
    · exact h.accepted before later hbefore hof

/-! ## What the writes keep -/

theorem AuthExtends.failedAttempts_le (h : AuthExtends db db') (challenge : Challenge) :
    db.failedAttempts challenge ≤ db'.failedAttempts challenge := by
  cases challenge with
  | email id =>
    rw [AuthDatabase.failedAttempts, AuthDatabase.failedAttempts]
    cases hrow : db.customerEmailChallenges.get? id with
    | none => exact Nat.zero_le _
    | some row =>
      obtain ⟨row', hrow', hmoves⟩ := h.emailChallenges id row hrow
      rw [hrow']
      exact hmoves.failedAttempts
  | admin id =>
    rw [AuthDatabase.failedAttempts, AuthDatabase.failedAttempts]
    cases hrow : db.adminLoginChallenges.get? id with
    | none => exact Nat.zero_le _
    | some row =>
      obtain ⟨row', hrow', hmoves⟩ := h.adminChallenges id row hrow
      rw [hrow']
      exact hmoves.failedAttempts

theorem AuthExtends.used (h : AuthExtends db db') (hused : db.used challenge = true) :
    db'.used challenge = true := by
  cases challenge with
  | email id =>
    obtain ⟨row, hrow, husedRow⟩ := (Option.any_eq_true _ _).1 hused
    obtain ⟨row', hrow', hmoves⟩ := h.emailChallenges id row hrow
    rw [AuthDatabase.used, hrow', Option.any_some, hmoves.used husedRow]
  | admin id =>
    obtain ⟨row, hrow, husedRow⟩ := (Option.any_eq_true _ _).1 hused
    obtain ⟨row', hrow', hmoves⟩ := h.adminChallenges id row hrow
    rw [AuthDatabase.used, hrow', Option.any_some, hmoves.used husedRow]

/-- What the rows of the challenges say of the trace.  Only a customer's wrong codes are all
counted. -/
structure ChallengeTraced (db : AuthDatabase) (trace : List AuthEvent) (challenge : Challenge) :
    Prop where
  bounded : ChallengeBounded trace challenge
  used : 0 < trace.countP (completes challenge) → db.used challenge = true
  counted : ∀ id, challenge = .email id → wrongCodes trace challenge ≤ db.failedAttempts challenge

def IrrelevantTo (challenge : Challenge) (event : AuthEvent) : Prop :=
  completes challenge event = false ∧ event ≠ .codeCompared challenge false

theorem ChallengeTraced.mono (h : ChallengeTraced db trace challenge)
    (hextends : AuthExtends db db') :
    ChallengeTraced db' trace challenge where
  bounded := h.bounded
  used hpos := hextends.used (h.used hpos)
  counted id hid := Nat.le_trans (h.counted id hid) (hextends.failedAttempts_le challenge)

theorem ChallengeTraced.irrelevant (h : ChallengeTraced db trace challenge)
    (hevent : IrrelevantTo challenge event) : ChallengeTraced db (trace ++ [event]) challenge where
  bounded := h.bounded.append hevent.1 fun heq => absurd heq hevent.2
  used hpos := by
    rw [List.countP_append, List.countP_singleton, hevent.1] at hpos
    exact h.used hpos
  counted id hid := by
    have hzero : wrongCodes [event] challenge = 0 := by
      rw [wrongCodes, List.count_singleton, beq_eq_false_iff_ne.2 hevent.2]
      rfl
    rw [wrongCodes_append, hzero]
    exact h.counted id hid

theorem ChallengeTraced.wrong (h : ChallengeTraced db trace challenge)
    (hextends : AuthExtends db db') (hleft : wrongCodes trace challenge < 5)
    (hcounted : ∀ id, challenge = .email id →
      db'.failedAttempts challenge = db.failedAttempts challenge + 1) :
    ChallengeTraced db' (trace ++ [.codeCompared challenge false]) challenge where
  bounded := h.bounded.append rfl fun _ => hleft
  used hpos := by
    rw [List.countP_append] at hpos
    exact hextends.used (h.used hpos)
  counted id hid := by
    have hone : wrongCodes [.codeCompared challenge false] challenge ≤ 1 := List.count_le_length
    have hbefore := h.counted id hid
    rw [wrongCodes_append, hcounted id hid]
    omega

theorem ChallengeTraced.completed (h : ChallengeTraced db trace challenge)
    (hextends : AuthExtends db db') (hunused : db.used challenge = false)
    (hused : db'.used challenge = true) (hleft : wrongCodes trace challenge < 5)
    (hintact : completion.intact = true) :
    ChallengeTraced db' (trace ++ [.completed completion]) challenge where
  bounded := by
    refine h.bounded.append_completed (Nat.eq_zero_of_not_pos fun hpos => ?_) hleft hintact
    rw [h.used hpos] at hunused
    cases hunused
  used _ := hused
  counted id hid := by
    rw [wrongCodes_append]
    exact Nat.le_trans (h.counted id hid) (hextends.failedAttempts_le challenge)

/-! ## Runs -/

variable {settings : AuthSettings}

theorem challengeTraced_step : KeptByWrites settings (CountedFirst challenge) fun db trace =>
    ChallengeTraced db trace challenge := by
  intro w db trace events db' _ hwrites hG h
  have hextends := hwrites.extends
  cases hwrites with
  | same | attemptCounted | resetTokens | sessionsRevoked | sessionTouched | preferenceChanged
  | disabled _ =>
    rw [List.append_nil]
    exact h.mono hextends
  | sessionByPassword _ _ | emailChallenge _ _ | adminChallenge _ | passwordReset | setupStarted _
  | enabled _ _ _ _ _ _ _ _ | factorConsumed _ _ _ | codesReplaced _ _ _ =>
    exact (h.mono hextends).irrelevant ⟨rfl, by rintro ⟨⟩⟩
  | @emailRefused input user row hrow hopen =>
    by_cases hof : challenge = .email input.challengeId
    · subst hof
      have hbefore : db.failedAttempts (.email input.challengeId) = row.failedAttempts := by
        rw [AuthDatabase.failedAttempts, hrow, Option.elim_some]
      have hcounted := h.counted _ rfl
      have hattempts := hopen.2.2.2.1
      refine h.wrong hextends (by omega) fun _ _ => ?_
      rw [hbefore, AuthDatabase.failedAttempts, get?_update_self hrow, Option.elim_some]
      rfl
    · refine (h.mono hextends).irrelevant ⟨rfl, fun heq => hof ?_⟩
      rw [AuthEvent.codeCompared.injEq] at heq
      exact heq.1.symm
  | @emailCompleted input userId user row session hlock hrow hopen huser hsession =>
    have hcompared : ChallengeTraced db (trace ++ [.codeCompared (.email input.challengeId) true])
        challenge := by
      refine h.irrelevant ⟨rfl, fun heq => ?_⟩
      rw [AuthEvent.codeCompared.injEq] at heq
      exact Bool.noConfusion heq.2
    rw [List.append_cons]
    by_cases hof : challenge = .email input.challengeId
    · subst hof
      have hbefore : db.failedAttempts (.email input.challengeId) = row.failedAttempts := by
        rw [AuthDatabase.failedAttempts, hrow, Option.elim_some]
      have hcounted := hcompared.counted _ rfl
      have hattempts := hopen.2.2.2.1
      refine hcompared.completed hextends ?_ ?_ (by omega) rfl
      · rw [AuthDatabase.used, hrow, Option.any_some, hopen.2.1]
        rfl
      · have hrow' : (createSession session { db with
            customerEmailChallenges := db.customerEmailChallenges.update input.challengeId
              (useEmailChallenge w.now) }).customerEmailChallenges.get? input.challengeId =
            some (useEmailChallenge w.now row) := get?_update_self hrow
        rw [AuthDatabase.used, hrow']
        rfl
    · refine (hcompared.mono hextends).irrelevant ⟨?_, by rintro ⟨⟩⟩
      rw [completes, decide_eq_false_iff_not]
      exact fun heq => hof heq.symm
  | @adminCompared id right row hrow hattempts =>
    by_cases hof : AuthEvent.codeCompared (.admin id) right = .codeCompared challenge false
    · obtain ⟨rfl, rfl⟩ := AuthEvent.codeCompared.inj hof
      have hcounted : wrongCodes trace (.admin id) ≤ db.failedAttempts (.admin id) :=
        hG _ (List.mem_singleton_self _) rfl
      rw [AuthDatabase.failedAttempts, hrow, Option.elim_some] at hcounted
      exact h.wrong hextends (by omega) (by rintro _ ⟨⟩)
    · exact h.irrelevant ⟨rfl, hof⟩
  | @adminCompleted run factor row consumed session hconsumed hcredential hfactor hrow hunused hexpires
      hattempts huser hsession =>
    have haccepted : ChallengeTraced db (trace ++ [.factorAccepted run.credentialId factor
        (some db.authSessions.size)]) challenge := h.irrelevant ⟨rfl, by rintro ⟨⟩⟩
    rw [List.append_cons]
    by_cases hof : challenge = .admin run.challengeId
    · subst hof
      obtain ⟨hcounted, hleft, htime⟩ := hG (secondFactorCompleted w db run db.authSessions.size)
        (List.mem_cons_of_mem _ (List.mem_singleton_self _)) run rfl rfl
      have hsame : wrongCodes (trace ++ [.factorAccepted run.credentialId factor
          (some db.authSessions.size)]) (.admin run.challengeId) =
          wrongCodes trace (.admin run.challengeId) := wrongCodes_append _
      refine haccepted.completed hextends ?_ ?_ (by omega) ?_
      · rw [AuthDatabase.used, hrow, Option.any_some, hunused]
        rfl
      · have hrow' : (createSession session { consumed with
            adminLoginChallenges := db.adminLoginChallenges.update run.challengeId
              (useAdminChallenge run.now) }).adminLoginChallenges.get? run.challengeId =
            some (useAdminChallenge run.now row) := get?_update_self hrow
        rw [AuthDatabase.used, hrow']
        rfl
      · change db.intact w.now (.admin run.challengeId) = true
        rw [AuthDatabase.notExpired, hrow, Option.any_some, decide_eq_true_eq] at htime
        rw [AuthDatabase.intact, hrow, Option.any_some, decide_eq_true_eq]
        exact ⟨hunused, htime.elim (Nat.lt_of_le_of_lt · hexpires) id⟩
    · refine (haccepted.mono hextends).irrelevant ⟨?_, by rintro ⟨⟩⟩
      exact decide_eq_false fun heq => hof heq.symm

/-- **Login challenges are bounded and single use.**  In every interleaving of logins and of their
completions with everything else that the service does: at most one session is created from a
challenge, at most five wrong codes are compared for it, and none is accepted after that, or once
the challenge was used, superseded or has expired.  Of a customer's challenge this holds in every
run; of an administrator's, in those in which every wrong code is counted before the next one is
compared or accepted. -/
theorem login_challenge_bounded (hdb : NobodySignedIn db) {c : Config (tracedAuth settings)}
    (hr : Reaches (NotesOnly settings (CountedFirst challenge)) ⟨(db, []), []⟩ c) :
    ChallengeBounded c.shared.2 challenge := by
  have hinit : ChallengeTraced db [] challenge :=
    ⟨ChallengeBounded.nil, fun hpos => absurd hpos (Nat.lt_irrefl 0), fun _ _ => Nat.zero_le _⟩
  exact (holds_of_writes challengeTraced_step hdb hinit hr).2.bounded

end

/-! ### Guesses in parallel -/

/-- The administrator signs in with the password, and is asked for a code. -/
def ownerChallenged : List (Move tracedSample) :=
  enrolment ++ [.call .login ownerLogin, .advance 3 { now := 1230000 }, .advance 3 { now := 1230000 }]

def ownerCode (code : String) : TwoFactorLoginRequest where
  challengeId := 0
  code := code
  ipAddressHash := "office"

/-- Six wrong codes are compared before any of them is counted, and then the right one. -/
def parallelGuesses : List (Move tracedSample) :=
  ownerChallenged ++
    [.call .completeTwoFactorLogin (ownerCode "000001"), .advance 4 { now := 1230000 },
      .call .completeTwoFactorLogin (ownerCode "000002"), .advance 5 { now := 1230000 },
      .call .completeTwoFactorLogin (ownerCode "000003"), .advance 6 { now := 1230000 },
      .call .completeTwoFactorLogin (ownerCode "000004"), .advance 7 { now := 1230000 },
      .call .completeTwoFactorLogin (ownerCode "000005"), .advance 8 { now := 1230000 },
      .call .completeTwoFactorLogin (ownerCode "000006"), .advance 9 { now := 1230000 },
      .call .completeTwoFactorLogin (ownerCode "817264"), .advance 10 { now := 1230000 },
      .advance 10 { now := 1230000 }]

def guessedConfig : Config tracedSample :=
  Config.after ⟨(sampleUsers, []), []⟩ parallelGuesses (by decide +kernel)

/-- Six wrong codes were compared for one challenge of an administrator, and then it was completed. -/
theorem parallel_guesses_unbounded :
    ¬ ∀ c : Config tracedSample, Reaches anyStep ⟨(sampleUsers, []), []⟩ c →
      ChallengeBounded c.shared.2 (.admin 0) := by
  intro h
  have hbounded := h guessedConfig (reaches_anyStep_of_run
    (run_eq_after (show (Config.run ⟨(sampleUsers, []), []⟩ parallelGuesses).isSome = true by
      decide +kernel)))
  have hsix : wrongCodes guessedConfig.shared.2 (.admin 0) = 6 := by decide +kernel
  have hfive := hbounded.wrongCodes
  omega

def honestCompletion : List (Move tracedSample) :=
  ownerChallenged ++
    [.call .completeTwoFactorLogin (ownerCode "000001"), .advance 4 { now := 1230000 },
      .advance 4 { now := 1230000 }, .advance 4 { now := 1230000 },
      .call .completeTwoFactorLogin (ownerCode "817264"), .advance 5 { now := 1230000 },
      .advance 5 { now := 1230000 }]

def honestConfig : Config tracedSample :=
  Config.after ⟨(sampleUsers, []), []⟩ honestCompletion (by decide +kernel)

theorem honest_completion_bounded : ChallengeBounded honestConfig.shared.2 (.admin 0) ∧
    honestConfig.shared.2.countP (completes (.admin 0)) = 1 :=
  ⟨login_challenge_bounded sampleUsers_nobodySignedIn (reaches_of_run
    (run_eq_after (show (Config.run ⟨(sampleUsers, []), []⟩ honestCompletion).isSome = true by
      decide +kernel)) (by decide +kernel)), by decide +kernel⟩

end Auth

end WebhostBilling
