import Mathlib.Data.List.Count
import WebhostBilling.Auth.FactorEnforcement

/-!
# Replayed factors

A time step of a code is accepted by a conditional write, only after the last one that was used, and
a recovery code once.  What is checked before that write was read earlier, and decides nothing.
-/

namespace WebhostBilling

open Store Store.Table Concurrency Config

namespace Auth

open AuthService

/-! ## What was accepted -/

def acceptedStep (credentialId : RowId) : AuthEvent → Option ℕ
  | .enabled run => if run.credentialId = credentialId then some run.timeStep else none
  | .factorAccepted id (.timeStep step) _ => if id = credentialId then some step else none
  | _ => none

def acceptedSteps (trace : List AuthEvent) (credentialId : RowId) : List ℕ :=
  trace.filterMap (acceptedStep credentialId)

def acceptsCode (codeId : RowId) : AuthEvent → Bool
  | .factorAccepted _ (.recoveryCode id) _ => id = codeId
  | _ => false

/-- **Factors are single use.** -/
structure FactorsSingleUse (trace : List AuthEvent) : Prop where
  increasing : ∀ credentialId, (acceptedSteps trace credentialId).Pairwise (· < ·)
  enabledFirst : ∀ before credentialId factor sessionId,
    before ++ [.factorAccepted credentialId factor sessionId] <+: trace →
      ∃ run, .enabled run ∈ before ∧ run.credentialId = credentialId
  once : ∀ codeId, trace.countP (acceptsCode codeId) ≤ 1

/-- No enrolment is started again while the credential is enabled. -/
def NotRestarted (_ : AuthWorld) (db : AuthDatabase) (_ : List AuthEvent) : AuthEvent → Prop
  | .setupStarted userId => db.secondFactorEnabled userId = false
  | _ => True

instance (w : AuthWorld) (db : AuthDatabase) (trace : List AuthEvent) (event : AuthEvent) :
    Decidable (NotRestarted w db trace event) := by
  unfold NotRestarted
  split <;> infer_instance

/-! ## The invariant -/

def StepSpent (db : AuthDatabase) (credentialId step : ℕ) : Prop :=
  ∃ credential last, db.adminTotpCredentials.get? credentialId = some credential ∧
    credential.enabledAt.isSome ∧ credential.lastUsedTimeStep = some last ∧ step ≤ last

def CodeSpent (db : AuthDatabase) (codeId : RowId) : Prop :=
  ∃ code, db.adminRecoveryCodes.get? codeId = some code ∧ code.usedAt.isSome

structure FactorsTraced (db : AuthDatabase) (trace : List AuthEvent) : Prop where
  singleUse : FactorsSingleUse trace
  steps : ∀ credentialId, ∀ step ∈ acceptedSteps trace credentialId, StepSpent db credentialId step
  codes : ∀ codeId, 0 < trace.countP (acceptsCode codeId) → CodeSpent db codeId
  enabled : ∀ credentialId credential,
    db.adminTotpCredentials.get? credentialId = some credential → credential.enabledAt.isSome →
      ∃ run, .enabled run ∈ trace ∧ run.credentialId = credentialId

section

variable {db db' : AuthDatabase} {trace : List AuthEvent}

theorem FactorsTraced.nil (hdb : NobodySignedIn db) : FactorsTraced db [] where
  singleUse := {
    increasing := fun _ => List.Pairwise.nil
    enabledFirst := fun _ _ _ _ h => absurd (List.prefix_nil.1 h)
      (List.append_ne_nil_of_right_ne_nil _ (List.cons_ne_nil _ _))
    once := fun _ => Nat.zero_le 1 }
  steps _ _ h := nomatch h
  codes _ hpos := absurd hpos (Nat.lt_irrefl 0)
  enabled credentialId credential h := by
    rw [hdb.credentials] at h
    exact absurd h get?_empty_ne

/-! ## What one more event does -/

variable {event : AuthEvent} {credentialId : RowId} {factor : Factor}

theorem acceptedSteps_append :
    acceptedSteps (trace ++ [event]) credentialId =
      acceptedSteps trace credentialId ++ (acceptedStep credentialId event).toList := by
  rw [acceptedSteps, List.filterMap_append, acceptedSteps]
  cases hstep : acceptedStep credentialId event with
  | none => rw [List.filterMap_cons_none hstep, List.filterMap_nil, Option.toList_none]
  | some step => rw [List.filterMap_cons_some hstep, List.filterMap_nil, Option.toList_some]

structure Accepts (trace : List AuthEvent) (event : AuthEvent) : Prop where
  later : ∀ credentialId step, acceptedStep credentialId event = some step →
    ∀ earlier ∈ acceptedSteps trace credentialId, earlier < step
  enabled : ∀ credentialId factor sessionId, event = .factorAccepted credentialId factor sessionId →
    ∃ run, .enabled run ∈ trace ∧ run.credentialId = credentialId
  fresh : ∀ codeId, acceptsCode codeId event = true → trace.countP (acceptsCode codeId) = 0

theorem FactorsSingleUse.append (h : FactorsSingleUse trace) (hevent : Accepts trace event) :
    FactorsSingleUse (trace ++ [event]) where
  increasing credentialId := by
    rw [acceptedSteps_append]
    cases hstep : acceptedStep credentialId event with
    | none =>
      rw [Option.toList_none, List.append_nil]
      exact h.increasing credentialId
    | some step =>
      rw [Option.toList_some, List.pairwise_append]
      refine ⟨h.increasing credentialId, List.pairwise_singleton _ _,
          fun earlier hearlier later hlater => ?_⟩
      rw [List.mem_singleton] at hlater
      rw [hlater]
      exact hevent.later credentialId step hstep earlier hearlier
  enabledFirst before credentialId factor sessionId hprefix := by
    rcases List.prefix_concat_iff.1 hprefix with heq | hbefore
    · obtain ⟨rfl, hlast⟩ := List.append_inj' heq rfl
      exact hevent.enabled credentialId factor sessionId (List.singleton_inj.1 hlast).symm
    · exact h.enabledFirst before credentialId factor sessionId hbefore
  once codeId := by
    rw [List.countP_append, List.countP_singleton]
    split
    · rename_i haccepts
      rw [hevent.fresh codeId haccepts]
    · exact h.once codeId

theorem FactorsTraced.quiet (h : FactorsTraced db trace)
    (hstep : ∀ credentialId, acceptedStep credentialId event = none)
    (hcode : ∀ codeId, acceptsCode codeId event = false) (hfactor : ∀ credentialId factor sessionId,
      event ≠ .factorAccepted credentialId factor sessionId) :
    FactorsTraced db (trace ++ [event]) where
  singleUse := by
    refine h.singleUse.append ⟨fun credentialId step heq => ?_,
        fun credentialId factor sessionId heq => ?_,
      fun codeId heq => ?_⟩
    · rw [hstep] at heq
      cases heq
    · exact absurd heq (hfactor credentialId factor sessionId)
    · rw [hcode] at heq
      cases heq
  steps credentialId step hmem := by
    rw [acceptedSteps_append, hstep, Option.toList_none, List.append_nil] at hmem
    exact h.steps credentialId step hmem
  codes codeId hpos := by
    rw [List.countP_append, List.countP_singleton, hcode] at hpos
    exact h.codes codeId hpos
  enabled credentialId credential hcredential henabled := by
    obtain ⟨run, hrun, hof⟩ := h.enabled credentialId credential hcredential henabled
    exact ⟨run, List.mem_append_left _ hrun, hof⟩

/-! ## What the writes keep -/

theorem CodeSpent.mono {codeId : RowId} (h : CodeSpent db codeId) (hextends : AuthExtends db db') :
    CodeSpent db' codeId := by
  obtain ⟨code, hcode, hused⟩ := h
  obtain ⟨code', hcode', hmoves⟩ := hextends.codes codeId code hcode
  exact ⟨code', hcode', hmoves.used hused⟩

theorem FactorsTraced.mono (h : FactorsTraced db trace) (hextends : AuthExtends db db')
    (hsteps : ∀ credentialId step, StepSpent db credentialId step → StepSpent db' credentialId step)
    (hnone : ∀ credentialId credential', db'.adminTotpCredentials.get? credentialId = some credential' →
      credential'.enabledAt.isSome → ∃ credential,
        db.adminTotpCredentials.get? credentialId = some credential ∧ credential.enabledAt.isSome) :
    FactorsTraced db' trace where
  singleUse := h.singleUse
  steps credentialId step hstep := hsteps credentialId step (h.steps credentialId step hstep)
  codes codeId hpos := (h.codes codeId hpos).mono hextends
  enabled credentialId credential' hcredential' henabled := by
    obtain ⟨credential, hcredential, hbefore⟩ := hnone credentialId credential' hcredential' henabled
    exact h.enabled credentialId credential hcredential hbefore

theorem FactorsTraced.frame (h : FactorsTraced db trace) (hextends : AuthExtends db db')
    (hcredentials : db'.adminTotpCredentials = db.adminTotpCredentials) :
    FactorsTraced db' trace := by
  refine h.mono hextends (fun credentialId step hstep => ?_)
      fun credentialId credential hget henabled => ?_
  · rw [StepSpent, hcredentials]
    exact hstep
  · rw [hcredentials] at hget
    exact ⟨credential, hget, henabled⟩

theorem FactorsTraced.credential (h : FactorsTraced db trace) (hextends : AuthExtends db db')
    {f : AdminTotpCredential → AdminTotpCredential}
    (hcredentials : db'.adminTotpCredentials = db.adminTotpCredentials.update credentialId f)
    (henabled : ∀ credential, (f credential).enabledAt = credential.enabledAt)
    (hlast : ∀ credential, db.adminTotpCredentials.get? credentialId = some credential →
      credential.enabledAt.isSome → ∀ last, credential.lastUsedTimeStep = some last →
        ∃ later, (f credential).lastUsedTimeStep = some later ∧ last ≤ later) :
    FactorsTraced db' trace := by
  refine h.mono hextends ?_ ?_
  · rintro id step ⟨credential, last, hcredential, hsome, hused, hle⟩
    rw [StepSpent, hcredentials, get?_update, hcredential]
    split
    · rename_i hid
      subst hid
      obtain ⟨later, hlater, hlastLe⟩ := hlast credential hcredential hsome last hused
      refine ⟨f credential, later, rfl, ?_, hlater, Nat.le_trans hle hlastLe⟩
      rw [henabled]
      exact hsome
    · exact ⟨credential, last, rfl, hsome, hused, hle⟩
  · intro id credential' hcredential' hsome
    rw [hcredentials] at hcredential'
    rcases get?_update_cases hcredential' with ⟨rfl, credential, hcredential, rfl⟩ | ⟨-, hbefore⟩
    · rw [henabled] at hsome
      exact ⟨credential, hcredential, hsome⟩
    · exact ⟨credential', hbefore, hsome⟩

theorem FactorsTraced.setup (h : FactorsTraced db trace) {userId : RowId} {secret : String}
    (hnot : db.secondFactorEnabled userId = false) :
    FactorsTraced (upsertCredential userId secret db) trace := by
  have hextends := @upsertCredential_extends db userId secret
  rw [upsertCredential] at hextends ⊢
  cases hfind : db.credentialOf userId with
  | some entry =>
    obtain ⟨credentialId, credential⟩ := entry
    rw [hfind] at hextends
    have hpending : credential.enabledAt.isSome = false := by
      rw [AuthDatabase.secondFactorEnabled, hfind, Option.any_some] at hnot
      exact hnot
    refine h.credential hextends rfl (fun _ => rfl) fun found hfound henabled => ?_
    rw [(credentialOf_eq_some hfind).1, Option.some.injEq] at hfound
    rw [← hfound, hpending] at henabled
    cases henabled
  | none =>
    rw [hfind] at hextends
    refine h.mono hextends ?_ ?_
    · rintro id step ⟨credential, last, hcredential, hrest⟩
      exact ⟨credential, last, get?_insert_of_some hcredential, hrest⟩
    · intro id credential hcredential henabled
      rcases get?_insert_cases hcredential with ⟨-, rfl⟩ | hbefore
      · cases henabled
      · exact ⟨credential, hbefore, henabled⟩

theorem FactorsTraced.consume (h : FactorsTraced db trace) {credentialId now userId : ℕ}
    (hconsumed : FactorConsumed db credentialId now factor db')
    (hcredential : EnabledFor db credentialId userId) (sessionId : Option RowId) :
    FactorsTraced db' (trace ++ [.factorAccepted credentialId factor sessionId]) := by
  have hextends := hconsumed.extends
  obtain ⟨credential, hget, -, henabled⟩ := hcredential
  have hfirst := h.enabled credentialId credential hget henabled
  have hold {run : EnableRun} {event : AuthEvent} (hrun : .enabled run ∈ trace) :
      .enabled run ∈ trace ++ [event] := List.mem_append_left _ hrun
  cases hconsumed with
  | @timeStep step found hfound hlive hlast =>
    obtain rfl := Option.mem_unique hget hfound
    have hkept := h.credential hextends rfl (fun _ => rfl) fun found hfound _ last hused => by
      obtain rfl := Option.mem_unique hget hfound
      exact ⟨step, rfl, Nat.le_of_lt (hlast last hused)⟩
    have hlater {earlier : ℕ} (hmem : earlier ∈ acceptedSteps trace credentialId) : earlier < step := by
      obtain ⟨row, last, hrow, -, hused, hle⟩ := h.steps credentialId earlier hmem
      rw [hget, Option.some.injEq] at hrow
      exact Nat.lt_of_le_of_lt hle (hlast last (hrow ▸ hused))
    refine ⟨h.singleUse.append ⟨fun id later heq earlier hearlier => ?_, fun id factor s heq => ?_,
      nofun⟩, fun id later hmem => ?_, fun codeId hpos => ?_, fun id row hrow hsome => ?_⟩
    · rw [acceptedStep] at heq
      split at heq
      · rename_i hid
        subst hid
        rw [Option.some.injEq] at heq
        rw [← heq]
        exact hlater hearlier
      · cases heq
    · cases heq
      exact hfirst
    · rw [acceptedSteps_append, List.mem_append] at hmem
      rcases hmem with hbefore | hnew
      · exact hkept.steps id later hbefore
      · rw [acceptedStep] at hnew
        split at hnew
        · rename_i hid
          subst hid
          rw [Option.toList_some, List.mem_singleton] at hnew
          exact ⟨useTimeStep step credential, step, get?_update_self hget, henabled, rfl,
            Nat.le_of_eq hnew⟩
        · cases hnew
    · rw [List.countP_append] at hpos
      exact hkept.codes codeId hpos
    · obtain ⟨run, hrun, hof⟩ := hkept.enabled id row hrow hsome
      exact ⟨run, hold hrun, hof⟩
  | @recoveryCode codeId code hcode hlive hunused =>
    have hkept := h.frame hextends rfl
    have hfresh : trace.countP (acceptsCode codeId) = 0 := by
      refine Nat.eq_zero_of_not_pos fun hpos => ?_
      obtain ⟨row, hrow, hused⟩ := h.codes codeId hpos
      rw [hcode, Option.some.injEq] at hrow
      rw [← hrow, hunused] at hused
      cases hused
    refine ⟨h.singleUse.append ⟨nofun, fun id factor s heq => ?_, fun id heq => ?_⟩,
      fun id later hmem => ?_, fun id hpos => ?_, fun id row hrow hsome => ?_⟩
    · cases heq
      exact hfirst
    · rw [acceptsCode, decide_eq_true_eq] at heq
      rw [← heq]
      exact hfresh
    · have hstep : acceptedStep id (.factorAccepted credentialId (.recoveryCode codeId) sessionId) =
          none := rfl
      rw [acceptedSteps_append, hstep, Option.toList_none, List.append_nil] at hmem
      exact hkept.steps id later hmem
    · by_cases hid : codeId = id
      · subst hid
        exact ⟨useRecoveryCode now code, get?_update_self hcode, rfl⟩
      · rw [List.countP_append, List.countP_singleton, acceptsCode, decide_eq_false hid] at hpos
        exact hkept.codes id hpos
    · obtain ⟨run, hrun, hof⟩ := hkept.enabled id row hrow hsome
      exact ⟨run, hold hrun, hof⟩

theorem FactorsTraced.enable (h : FactorsTraced db trace) {run : EnableRun}
    {credential : AdminTotpCredential} (hextends : AuthExtends db (enabledDatabase run db))
    (hcredential : db.adminTotpCredentials.get? run.credentialId = some credential)
    (hpending : credential.enabledAt = none) :
    FactorsTraced (enabledDatabase run db) (trace ++ [.enabled run]) := by
  have hnone (step : ℕ) : step ∉ acceptedSteps trace run.credentialId := by
    intro hmem
    obtain ⟨row, last, hrow, hsome, -⟩ := h.steps run.credentialId step hmem
    rw [hcredential, Option.some.injEq] at hrow
    rw [← hrow, hpending] at hsome
    cases hsome
  refine ⟨h.singleUse.append ⟨fun id step heq earlier hearlier => ?_, nofun, nofun⟩,
    fun id step hmem => ?_, fun codeId hpos => ?_, fun id row hrow hsome => ?_⟩
  · rw [acceptedStep] at heq
    split at heq
    · rename_i hid
      subst hid
      exact absurd hearlier (hnone earlier)
    · cases heq
  · rw [acceptedSteps_append, List.mem_append] at hmem
    by_cases hid : run.credentialId = id
    · subst hid
      rcases hmem with hbefore | hnew
      · exact absurd hbefore (hnone step)
      · rw [acceptedStep, if_pos rfl, Option.toList_some, List.mem_singleton] at hnew
        exact ⟨enableCredential run.now run.timeStep credential, run.timeStep,
          get?_update_self hcredential, rfl, rfl, Nat.le_of_eq hnew⟩
    · rcases hmem with hbefore | hnew
      · obtain ⟨row, last, hrow, hrest⟩ := h.steps id step hbefore
        refine ⟨row, last, ?_, hrest⟩
        rw [enabledDatabase, get?_update_of_ne hid, hrow]
      · rw [acceptedStep, if_neg hid] at hnew
        cases hnew
  · rw [List.countP_append] at hpos
    exact (h.codes codeId hpos).mono hextends
  · by_cases hid : run.credentialId = id
    · exact ⟨run, List.mem_append_right _ (List.mem_singleton_self _), hid⟩
    · rw [enabledDatabase, get?_update_of_ne hid] at hrow
      obtain ⟨earlier, hearlier, hof⟩ := h.enabled id row hrow hsome
      exact ⟨earlier, List.mem_append_left _ hearlier, hof⟩

/-! ## Completions -/

def FactorLeftConsumed (db db' : AuthDatabase) : Prop :=
  db'.adminTotpCredentials ≠ db.adminTotpCredentials ∨ db'.adminRecoveryCodes ≠ db.adminRecoveryCodes

theorem FactorConsumed.leftConsumed {credentialId now : ℕ}
    (h : FactorConsumed db credentialId now factor db') : FactorLeftConsumed db db' := by
  cases h with
  | @timeStep step credential hcredential hlive hlast =>
    refine .inl fun heq => ?_
    have hupdate : db.adminTotpCredentials.update credentialId (useTimeStep step) =
        db.adminTotpCredentials := heq
    have hsame := get?_update_self hcredential (f := useTimeStep step)
    rw [hupdate, hcredential, Option.some.injEq] at hsame
    have hstep : credential.lastUsedTimeStep = some step := by
      rw [hsame]
      rfl
    exact absurd (hlast step hstep) (Nat.lt_irrefl step)
  | @recoveryCode id code hcode hlive hunused =>
    refine .inr fun heq => ?_
    have hupdate : db.adminRecoveryCodes.update id (useRecoveryCode now) = db.adminRecoveryCodes :=
      heq
    have hsame := get?_update_self hcode (f := useRecoveryCode now)
    rw [hupdate, hcode, Option.some.injEq] at hsame
    rw [hsame] at hunused
    cases hunused

theorem insert_ne_self (sessions : Table AuthSession) (session : AuthSession) :
    sessions.insert session ≠ sessions := by
  intro heq
  have hsize := congrArg Table.size heq
  rw [size_insert] at hsize
  omega

theorem twoFactorStep_consumes_iff {settings : AuthSettings} {w : AuthWorld} {l l' : TwoFactorState}
    (h : twoFactorStep settings w db l = some (db', l')) :
    FactorLeftConsumed db db' ↔ db'.authSessions ≠ db.authSessions := by
  have hneither (hcredentials : db'.adminTotpCredentials = db.adminTotpCredentials)
      (hcodes : db'.adminRecoveryCodes = db.adminRecoveryCodes)
      (hsessions : db'.authSessions = db.authSessions) :
      FactorLeftConsumed db db' ↔ db'.authSessions ≠ db.authSessions := by
    rw [FactorLeftConsumed, hcredentials, hcodes, hsessions]
    simp
  cases l with
  | evaluate input =>
    rw [twoFactorStep] at h
    split at h <;> cases h <;> exact hneither rfl rfl rfl
  | consuming run =>
    rw [twoFactorStep] at h
    cases hok : completeTransaction settings run db with
    | error e =>
      rw [hok] at h
      cases e <;> cases h <;> exact hneither rfl rfl rfl
    | ok out =>
      obtain ⟨after, sessionId⟩ := out
      obtain ⟨factor, consumed, challenge, -, hconsumed, -, -, -, -, rfl⟩ :=
          completeTransaction_eq_ok hok
      rw [hok] at h
      cases h
      refine iff_of_true hconsumed.leftConsumed ?_
      rw [createSession, hconsumed.tables.2.1]
      exact insert_ne_self _ _
  | counting run e =>
    cases h
    exact hneither rfl rfl rfl
  | done result => cases h

/-! ## Runs -/

variable {settings : AuthSettings}

theorem factorsTraced_step : KeptByWrites settings NotRestarted FactorsTraced := by
  intro w db trace events db' _ hwrites hG h
  have hextends := hwrites.extends
  have hquiet {event : AuthEvent} (hkept : FactorsTraced db' trace)
      (hstep : ∀ credentialId, acceptedStep credentialId event = none)
      (hcode : ∀ codeId, acceptsCode codeId event = false)
      (hfactor : ∀ credentialId factor sessionId,
        event ≠ .factorAccepted credentialId factor sessionId) :
      FactorsTraced db' (trace ++ [event]) := hkept.quiet hstep hcode hfactor
  cases hwrites with
  | same | resetTokens | attemptCounted | sessionsRevoked | sessionTouched | preferenceChanged =>
    rw [List.append_nil]
    exact h.frame hextends rfl
  | disabled _ =>
    rw [List.append_nil]
    exact h.credential hextends rfl (fun _ => rfl) fun _ _ _ last hused => ⟨last, hused, Nat.le_refl _⟩
  | adminCompared _ _ | emailRefused _ _ | emailChallenge _ _ | adminChallenge _
  | codesReplaced _ _ _ | sessionByPassword _ _ | passwordReset =>
    exact hquiet (h.frame hextends rfl) (fun _ => rfl) (fun _ => rfl) nofun
  | setupStarted _ =>
    exact hquiet (h.setup (hG _ (List.mem_singleton_self _))) (fun _ => rfl) (fun _ => rfl) nofun
  | enabled _ hcredential _ hpending _ _ _ _ => exact h.enable hextends hcredential hpending
  | factorConsumed hconsumed hcredential _ => exact h.consume hconsumed hcredential none
  | emailCompleted _ _ _ _ _ =>
    rw [List.append_cons]
    refine FactorsTraced.quiet (hquiet (h.frame hextends rfl) ?_ ?_ ?_) ?_ ?_ ?_
    all_goals first | exact fun _ => rfl | exact nofun
  | @adminCompleted run factor row consumed session hconsumed hcredential _ _ _ _ _ _ _ =>
    rw [List.append_cons]
    have hconsume := h.consume hconsumed hcredential (some db.authSessions.size)
    refine FactorsTraced.quiet (hconsume.frame (hconsumed.completed_extends session) rfl) ?_ ?_ ?_
    · exact fun _ => rfl
    · exact fun _ => rfl
    · exact nofun

/-- **Second factors are single use.**  In every interleaving of completions, disablings and
regenerations of recovery codes with everything else that the service does, as long as no enrolment
is started again while a credential is enabled: the time steps that are accepted of a credential, in
the order of commit, are strictly increasing from the one that it was enabled with, and a recovery
code is accepted at most once.  And a completion consumes a factor if and only if it creates a
session. -/
theorem second_factor_single_use (hdb : NobodySignedIn db) {c : Config (tracedAuth settings)}
    (hr : Reaches (NotesOnly settings NotRestarted) ⟨(db, []), []⟩ c) :
    FactorsSingleUse c.shared.2 ∧
      ∀ w before l after l', (completeTwoFactorLogin settings).step w before l = some (after, l') →
        (FactorLeftConsumed before after ↔ after.authSessions ≠ before.authSessions) :=
  ⟨(holds_of_writes factorsTraced_step hdb (.nil hdb) hr).2.singleUse,
    fun _ _ _ _ _ hstep => twoFactorStep_consumes_iff hstep⟩

end

/-! ### One code for two requests -/

/-- The administrator signs in with a code, and somebody tries to regenerate the recovery codes with
it at the same time. -/
def codeUsedTwice : List (Move tracedSample) :=
  enrolment ++ [.call .login ownerLogin, .advance 3 { now := 1230000 }, .advance 3 { now := 1230000 },
    .call .completeTwoFactorLogin (⟨0, "817264", false, "office"⟩ : TwoFactorLoginRequest),
    .call .regenerateRecoveryCodes (⟨0, "winter is over", "817264"⟩ : FactorRequest),
    .advance 4 { now := 1230000 }, .advance 5 { now := 1230000 }, .advance 5 { now := 1230000 },
    .advance 5 { now := 1230000 }, .advance 4 { now := 1230000 }, .advance 5 { now := 1230000 }]

def replayedConfig : Config tracedSample :=
  Config.after ⟨(sampleUsers, []), []⟩ codeUsedTwice (by decide +kernel)

/-- One of the two is refused. -/
theorem code_accepted_once : FactorsSingleUse replayedConfig.shared.2 ∧
    acceptedSteps replayedConfig.shared.2 0 = [40, 41] :=
  ⟨(second_factor_single_use sampleUsers_nobodySignedIn (reaches_of_run
    (run_eq_after (show (Config.run ⟨(sampleUsers, []), []⟩ codeUsedTwice).isSome = true by
      decide +kernel)) (by decide +kernel))).1, by decide +kernel⟩

end Auth

end WebhostBilling
