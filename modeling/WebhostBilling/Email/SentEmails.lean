import WebhostBilling.Concurrency.Locks
import WebhostBilling.Concurrency.Permits
import WebhostBilling.Email.EmailDeliveryService

/-!
# An e-mail whose outcome is unknown

An attempt is claimed by one delivery, and only that one sends for it.  A log becomes `FAILED` also
when the outcome of its attempt is unknown, and then only the job stands in the way of another one,
which is ended in a later step: a worker that crashes in between leaves a job that is delivered
again. As long as no delivery makes its claim in such a log, having claimed an attempt is a lock.
-/

namespace WebhostBilling

open Store Store.Table Concurrency Config

namespace EmailDeliveryService

section

variable {adapterKey : String} {w : EmailWorld} {s s' : EmailStore} {l l' : DeliveryState}

/-! ## What a step does -/

def DeliveryState.attempt : DeliveryState → Option RowId
  | .sending _ attemptId | .recordingSuccess _ attemptId _ | .recordingFailure _ attemptId _ _ =>
    some attemptId
  | .taking | .resolving _ | .claiming _ _ | .settling _ _ | .done => none

inductive DeliveryEffect (adapterKey : String) (w : EmailWorld) (s : EmailStore) :
    DeliveryState → EmailStore → DeliveryState → Prop
  | quiet {l l' : DeliveryState} {s' : EmailStore} (hlog : s'.log = s.log)
      (hattempts : s'.attempts = s.attempts) (hattempt : l'.attempt = l.attempt ∨ l'.attempt = none) :
      DeliveryEffect adapterKey w s l s' l'
  | abandoned {token : ℕ} {message : ResolvedEmailMessage} {l' : DeliveryState} {log : EmailLog}
      (hlog : s.log = some log) (hstatus : log.status = .sending) (hattempt : l'.attempt = none) :
      DeliveryEffect adapterKey w s (.claiming token message)
        { s with
          attempts := s.attempts.updateWhere (fun _ attempt => attempt.status = .started)
            (EmailAttempt.abandoned w.now)
          log := some (log.failed outcomeUnknown w.now) } l'
  | claimed {token : ℕ} {message : ResolvedEmailMessage} {l' : DeliveryState} {log : EmailLog}
      (hlog : s.log = some log ∨ s.log = none ∧ log = freshLog adapterKey message)
      (hstatus : log.status = .queued ∨ log.status = .failed)
      (hattempt : l'.attempt = some s.attempts.size ∨ l'.attempt = none) :
      DeliveryEffect adapterKey w s (.claiming token message)
        { s with
          attempts := s.attempts.insert
            { attemptNumber := log.attemptCount + 1, provider := adapterKey }
          log := some (log.claimed adapterKey (log.attemptCount + 1)) } l'
  | succeeded {token : ℕ} {attemptId : RowId} {result : EmailSendResult} {l' : DeliveryState}
      {attempt : EmailAttempt} (hrow : s.attempts.get? attemptId = some attempt)
      (hchecked : (attempt.succeeded result w.now).stateChecked = true)
      (hattempt : l'.attempt = some attemptId ∨ l'.attempt = none) :
      DeliveryEffect adapterKey w s (.recordingSuccess token attemptId result)
        { s with
          attempts := s.attempts.update attemptId (EmailAttempt.succeeded result w.now)
          log := s.log.map (EmailLog.succeeded result w.now) } l'
  | failed {token : ℕ} {attemptId : RowId} {kind : BackgroundFailureKind} {code : String}
      {l' : DeliveryState} {attempt : EmailAttempt} (hrow : s.attempts.get? attemptId = some attempt)
      (hchecked : (attempt.failed kind code w.now).stateChecked = true)
      (hattempt : l'.attempt = none) :
      DeliveryEffect adapterKey w s (.recordingFailure token attemptId kind code)
        { s with
          attempts := s.attempts.update attemptId (EmailAttempt.failed kind code w.now)
          log := s.log.map (EmailLog.failed code w.now) } l'

/-- A transaction is committed, and its answer arrives or is lost, or nothing happens. -/
theorem transact_cases {α : Type} {result : Except Failure (EmailStore × α)}
    {next : α → DeliveryState}
    {failed : Failure → DeliveryState} (h : transact w s result next failed = (s', l')) :
    (∃ a, result = .ok (s', a) ∧ (l' = next a ∨ ∃ e, l' = failed e)) ∨
      (s' = s ∧ ∃ e, l' = failed e) := by
  unfold transact at h
  split at h
  · rename_i hrun
    cases h
    exact .inl ⟨_, Commit.run_ok hrun, .inl rfl⟩
  · rename_i hrun
    cases h
    rcases Commit.run_cases hrun with ⟨a, ha, -⟩ | ⟨hs, -⟩
    · exact .inl ⟨a, ha, .inr ⟨_, rfl⟩⟩
    · exact .inr ⟨hs, _, rfl⟩

theorem updateAttempt_eq_ok {attemptId : RowId} {f : EmailAttempt → EmailAttempt} :
    updateAttempt attemptId f s = .ok s' ↔
      ∃ attempt, s.attempts.get? attemptId = some attempt ∧ (f attempt).stateChecked = true ∧
        s' = { s with attempts := s.attempts.update attemptId f } := by
  simp only [updateAttempt, bind_eq_ok, orThrow_eq_ok, require_eq_ok, pure_eq_ok]
  constructor
  · rintro ⟨attempt, hrow, _, hchecked, rfl⟩
    exact ⟨attempt, hrow, hchecked, rfl⟩
  · rintro ⟨attempt, hrow, hchecked, rfl⟩
    exact ⟨attempt, hrow, (), hchecked, rfl⟩

theorem recordSuccess_eq_ok {attemptId : RowId} {result : EmailSendResult} {now : ℕ} :
    recordSuccess attemptId result now s = .ok s' ↔
      ∃ attempt, s.attempts.get? attemptId = some attempt ∧
        (attempt.succeeded result now).stateChecked = true ∧
        s' = { s with
          attempts := s.attempts.update attemptId (EmailAttempt.succeeded result now)
          log := s.log.map (EmailLog.succeeded result now) } := by
  simp only [recordSuccess, eq_ok, updateAttempt_eq_ok]
  constructor
  · rintro ⟨_, ⟨attempt, hrow, hchecked, rfl⟩, rfl⟩
    exact ⟨attempt, hrow, hchecked, rfl⟩
  · rintro ⟨attempt, hrow, hchecked, rfl⟩
    exact ⟨_, ⟨attempt, hrow, hchecked, rfl⟩, rfl⟩

theorem recordFailure_eq_ok {attemptId : RowId} {kind : BackgroundFailureKind} {code : String}
    {now : ℕ} :
    recordFailure attemptId kind code now s = .ok s' ↔
      ∃ attempt, s.attempts.get? attemptId = some attempt ∧
        (attempt.failed kind code now).stateChecked = true ∧
        s' = { s with
          attempts := s.attempts.update attemptId (EmailAttempt.failed kind code now)
          log := s.log.map (EmailLog.failed code now) } := by
  simp only [recordFailure, eq_ok, updateAttempt_eq_ok]
  constructor
  · rintro ⟨_, ⟨attempt, hrow, hchecked, rfl⟩, rfl⟩
    exact ⟨attempt, hrow, hchecked, rfl⟩
  · rintro ⟨attempt, hrow, hchecked, rfl⟩
    exact ⟨_, ⟨attempt, hrow, hchecked, rfl⟩, rfl⟩

theorem map_eq_ok {ε α β : Type} {x : Except ε α} {f : α → β} {b : β} :
    x.map f = .ok b ↔ ∃ a, x = .ok a ∧ f a = b := by
  cases x with
  | error e | ok a => simp [Except.map]

variable {message : ResolvedEmailMessage} {token : ℕ}

theorem getD_log {log : EmailLog} (h : s.log.getD (freshLog adapterKey message) = log) :
    s.log = some log ∨ s.log = none ∧ log = freshLog adapterKey message := by
  cases hlog : s.log with
  | none => exact .inr ⟨rfl, by rw [← h, hlog, Option.getD_none]⟩
  | some log' => exact .inl (by rw [← h, hlog, Option.getD_some])

theorem claimAttempt_effect {claim : Claim}
    (h : claimAttempt adapterKey message w.now s = .ok (s', claim))
    (hattempt : l'.attempt = none ∨ l' = afterClaim token claim) :
    DeliveryEffect adapterKey w s (.claiming token message) s' l' := by
  have hlog := getD_log (rfl : s.log.getD (freshLog adapterKey message) = _)
  rw [claimAttempt] at h
  generalize s.log.getD (freshLog adapterKey message) = log at h hlog
  cases hstatus : log.status with
  | sent =>
    simp only [hstatus, Except.ok.injEq, Prod.mk.injEq] at h
    obtain ⟨rfl, rfl⟩ := h
    rcases hlog with hlog | ⟨-, rfl⟩
    · refine .quiet hlog.symm rfl (.inr ?_)
      rcases hattempt with hattempt | rfl
      · exact hattempt
      · rfl
    · exact nomatch hstatus
  | sending =>
    simp only [hstatus, Except.ok.injEq, Prod.mk.injEq] at h
    obtain ⟨rfl, rfl⟩ := h
    rcases hlog with hlog | ⟨-, rfl⟩
    · refine .abandoned hlog hstatus ?_
      rcases hattempt with hattempt | rfl
      · exact hattempt
      · rfl
    · exact nomatch hstatus
  | queued | failed =>
    simp only [hstatus, eq_ok] at h
    obtain ⟨-, rfl, rfl⟩ := h
    refine .claimed hlog (by simp [hstatus]) ?_
    rcases hattempt with hattempt | rfl
    · exact .inr hattempt
    · exact .inl rfl

theorem deliverStep_effect (h : deliverStep adapterKey w s l = some (s', l')) :
    DeliveryEffect adapterKey w s l s' l' := by
  cases l with
  | taking =>
    rw [deliverStep] at h
    split at h <;> cases h <;> exact .quiet rfl rfl (.inl rfl)
  | resolving token =>
    rw [deliverStep] at h
    split at h
    · cases h
      exact .quiet rfl rfl (.inl rfl)
    · split at h <;> cases h <;> exact .quiet rfl rfl (.inl rfl)
  | claiming token message =>
    rw [deliverStep, Option.some.injEq] at h
    rcases transact_cases h with ⟨claim, hclaim, hnext⟩ | ⟨rfl, e, rfl⟩
    · refine claimAttempt_effect hclaim ?_
      rcases hnext with hnext | ⟨e, rfl⟩
      · exact .inr hnext
      · exact .inl rfl
    · exact .quiet rfl rfl (.inl rfl)
  | sending token attemptId =>
    rw [deliverStep] at h
    split at h
    · cases h
      exact .quiet rfl rfl (.inl rfl)
    · split at h <;> cases h <;> exact .quiet rfl rfl (.inl rfl)
  | recordingSuccess token attemptId result =>
    rw [deliverStep, Option.some.injEq] at h
    rcases transact_cases h with ⟨_, hok, hnext⟩ | ⟨rfl, e, rfl⟩
    · obtain ⟨s₁, hrecorded, heq⟩ := map_eq_ok.1 hok
      obtain ⟨rfl, -⟩ := Prod.mk.inj heq
      obtain ⟨attempt, hrow, hchecked, rfl⟩ := recordSuccess_eq_ok.1 hrecorded
      refine .succeeded hrow hchecked ?_
      rcases hnext with rfl | ⟨e, rfl⟩
      · exact .inr rfl
      · exact .inl rfl
    · exact .quiet rfl rfl (.inl rfl)
  | recordingFailure token attemptId kind code =>
    rw [deliverStep, Option.some.injEq] at h
    rcases transact_cases h with ⟨_, hok, hnext⟩ | ⟨rfl, e, rfl⟩
    · obtain ⟨s₁, hrecorded, heq⟩ := map_eq_ok.1 hok
      obtain ⟨rfl, -⟩ := Prod.mk.inj heq
      obtain ⟨attempt, hrow, hchecked, rfl⟩ := recordFailure_eq_ok.1 hrecorded
      refine .failed hrow hchecked ?_
      rcases hnext with rfl | ⟨e, rfl⟩ <;> rfl
    · exact .quiet rfl rfl (.inr rfl)
  | settling token result =>
    rw [deliverStep] at h
    split at h <;> cases h <;> exact .quiet rfl rfl (.inl rfl)
  | done => cases h

/-! ## The attempts of a log -/

def EmailStore.attemptCount (s : EmailStore) : ℕ := s.log.elim 0 EmailLog.attemptCount

def Numbered (s : EmailStore) : Prop :=
  s.attempts.rows.map EmailAttempt.attemptNumber = List.range' 1 s.attemptCount

theorem Numbered.size_eq (h : Numbered s) : s.attempts.size = s.attemptCount := by
  have hlength := congrArg List.length h
  rw [List.length_map, List.length_range'] at hlength
  exact hlength

theorem Numbered.written (h : Numbered s) {f : EmailLog → EmailLog} (hlog : s'.log = s.log.map f)
    (hf : ∀ log, (f log).attemptCount = log.attemptCount)
    (hattempts : s'.attempts.map EmailAttempt.attemptNumber =
      s.attempts.map EmailAttempt.attemptNumber) : Numbered s' := by
  have hcount : s'.attemptCount = s.attemptCount := by
    rw [EmailStore.attemptCount, hlog, EmailStore.attemptCount]
    cases s.log with
    | none => rfl
    | some log => exact hf log
  rw [Numbered, hcount]
  exact (congrArg Table.rows hattempts).trans h

theorem DeliveryEffect.numbered (heffect : DeliveryEffect adapterKey w s l s' l')
    (h : Numbered s) : Numbered s' := by
  cases heffect with
  | quiet hlog hattempts _ =>
    rw [Numbered, EmailStore.attemptCount, hlog, hattempts]
    exact h
  | @abandoned token message l' log hlog hstatus _ =>
    exact h.written (f := EmailLog.failed outcomeUnknown w.now) (by rw [hlog]; rfl) (fun _ => rfl)
      (map_updateWhere_eq fun _ => rfl)
  | @claimed token message l' log hlog hstatus _ =>
    have hcount : s.attemptCount = log.attemptCount := by
      rw [EmailStore.attemptCount]
      rcases hlog with hlog | ⟨hlog, rfl⟩ <;> rw [hlog] <;> rfl
    rw [Numbered, hcount] at h
    show (s.attempts.rows ++ [_]).map _ = List.range' 1 (log.attemptCount + 1)
    rw [List.map_append, h, List.range'_concat, Nat.one_mul, Nat.add_comm 1]
    rfl
  | succeeded _ _ _ | failed _ _ _ =>
    exact h.written rfl (fun _ => rfl) (map_update_eq fun _ _ => rfl)

/-! ## An attempt is sent once -/

def EmailEvent.attemptId : EmailEvent → RowId
  | .send attemptId _ => attemptId

def sendPermit (adapterKey : String) (attemptId : RowId) :
    Permit (emailDeliveries adapterKey) fun _ => emailEvents where
  taken s := attemptId < s.attempts.size
  holds _ l := ∃ token, l = .sending token attemptId
  spends event := event.attemptId = attemptId

theorem DeliveryEffect.size_le (heffect : DeliveryEffect adapterKey w s l s' l') :
    s.attempts.size ≤ s'.attempts.size := by
  cases heffect with
  | quiet _ hattempts _ => rw [hattempts]
  | abandoned _ _ _ => rw [size_updateWhere]
  | claimed _ _ _ => rw [size_insert]; exact Nat.le_succ _
  | succeeded _ _ _ | failed _ _ _ => rw [size_update]

theorem acquired_of_step {attemptId : RowId}
    (h : deliverStep adapterKey w s l = some (s', .sending token attemptId)) :
    s.attempts.size ≤ attemptId ∧ attemptId < s'.attempts.size := by
  have heffect := deliverStep_effect h
  cases l with
  | claiming token' message =>
    cases heffect with
    | quiet _ _ hattempt => rcases hattempt with hattempt | hattempt <;> exact nomatch hattempt
    | abandoned _ _ hattempt => exact nomatch hattempt
    | claimed _ _ hattempt =>
      rcases hattempt with hattempt | hattempt
      · obtain rfl := Option.some.inj hattempt
        exact ⟨Nat.le_refl _, by rw [size_insert]; exact Nat.lt_succ_self _⟩
      · exact nomatch hattempt
  | taking | resolving _ | sending _ _ | settling _ _ =>
    rw [deliverStep] at h
    repeat' split at h
    all_goals cases h
  | recordingSuccess _ _ _ | recordingFailure _ _ _ _ =>
    rw [deliverStep, Option.some.injEq] at h
    rcases transact_cases h with ⟨_, _, hnext | ⟨_, hnext⟩⟩ | ⟨_, _, hnext⟩ <;> exact nomatch hnext
  | done => cases h

theorem emailEvents_of_mem {event : EmailEvent} (h : event ∈ emailEvents w s l) :
    ∃ token attemptId, l = .sending token attemptId ∧
      emailEvents w s l = [.send attemptId s.attempts] := by
  cases l with
  | sending token attemptId =>
    rw [emailEvents] at h ⊢
    split at h
    · exact nomatch h
    · rename_i hlive
      exact ⟨token, attemptId, rfl, if_neg hlive⟩
  | taking | resolving _ | claiming _ _ | recordingSuccess _ _ _ | recordingFailure _ _ _ _
  | settling _ _ | done => exact nomatch h

theorem not_sending_of_sending {token' : ℕ} {attemptId attemptId' : RowId}
    (h : deliverStep adapterKey w s (.sending token attemptId) = some (s', l')) :
    l' ≠ .sending token' attemptId' := by
  rintro rfl
  rw [deliverStep] at h
  repeat' split at h
  all_goals cases h

theorem sendPermit_sound (attemptId : RowId) :
    (sendPermit adapterKey attemptId).Sound fun _ => True where
  inv _ _ _ _ _ _ _ _ := trivial
  start _ _ := fun ⟨_, h⟩ => nomatch h
  kept _ w s l s' l' _ hstep htaken :=
    Nat.lt_of_lt_of_le htaken (@deliverStep_effect adapterKey _ _ _ _ _ hstep).size_le
  acquired _ w s l s' l' _ hstep hholds := by
    obtain ⟨token, rfl⟩ := hholds
    have hclaimed := acquired_of_step hstep
    exact .inr ⟨Nat.not_lt.2 hclaimed.1, hclaimed.2⟩
  spent _ w s l s' l' _ hstep hpos := by
    obtain ⟨event, hmem, hspends⟩ := List.countP_pos_iff.1 hpos
    obtain ⟨token, sentId, rfl, hevents⟩ := emailEvents_of_mem hmem
    rw [hevents] at hmem ⊢
    obtain rfl := List.mem_singleton.1 hmem
    obtain rfl : sentId = attemptId := of_decide_eq_true hspends
    refine ⟨⟨token, rfl⟩, fun ⟨token', h⟩ =>
      @not_sending_of_sending adapterKey _ _ _ _ _ _ _ _ hstep h, ?_⟩
    rw [List.countP_singleton, if_pos hspends]

/-! ## No claim after an unknown outcome -/

def knownOutcome (s : EmailStore) : DeliveryState → Bool
  | .claiming _ _ =>
    s.log.any (fun log => log.status = .sent ∨ log.status = .sending) ∨
      s.attempts.any (fun _ attempt => attempt.status = .inconsistent) = false
  | _ => true

/-- All other attempts have failed. -/
def OthersFailed (attempts : Table EmailAttempt) (attemptId : RowId) : Prop :=
  ∀ id attempt, attempts.get? id = some attempt → id ≠ attemptId → attempt.status = .failed

structure EmailLogged (s : EmailStore) : Prop where
  numbered : Numbered s
  sent : ∀ id attempt, s.attempts.get? id = some attempt → attempt.status = .sent →
    ∃ log, s.log = some log ∧ log.status = .sent
  started : ∀ id attempt, s.attempts.get? id = some attempt → attempt.status = .started →
    ∃ log, s.log = some log ∧ log.status = .sending
  checked : ∀ id attempt, s.attempts.get? id = some attempt → attempt.stateChecked = true

/-- What a delivery relies on while it has claimed an attempt. -/
structure AttemptClaimed (s : EmailStore) (attemptId : RowId) : Prop where
  claimed : ∃ attempt, s.attempts.get? attemptId = some attempt ∧ attempt.status ≠ .failed
  others : OthersFailed s.attempts attemptId

theorem EmailLogged.congr (h : EmailLogged s) (hlog : s'.log = s.log)
    (hattempts : s'.attempts = s.attempts) : EmailLogged s' := by
  obtain ⟨hnumbered, hsent, hstarted, hchecked⟩ := h
  refine ⟨?_, ?_, ?_, ?_⟩
  · rw [Numbered, EmailStore.attemptCount, hlog, hattempts]
    exact hnumbered
  · rw [hlog, hattempts]
    exact hsent
  · rw [hlog, hattempts]
    exact hstarted
  · rw [hattempts]
    exact hchecked

theorem EmailLogged.all_failed (h : EmailLogged s)
    {log : EmailLog} (hlog : s.log = some log ∨ s.log = none ∧ log = freshLog adapterKey message)
    (hstatus : log.status = .queued ∨ log.status = .failed)
    (hknown : knownOutcome s (.claiming token message) = true) {id : RowId} {attempt : EmailAttempt}
    (hrow : s.attempts.get? id = some attempt) : attempt.status = .failed := by
  have hread : ∀ log', s.log = some log' → log'.status = .queued ∨ log'.status = .failed := by
    intro log' hlog'
    rcases hlog with hlog | ⟨hlog, -⟩
    · rw [hlog, Option.some.injEq] at hlog'
      rw [← hlog']
      exact hstatus
    · rw [hlog] at hlog'
      exact nomatch hlog'
  cases hattempt : attempt.status with
  | failed => rfl
  | started =>
    obtain ⟨log', hlog', hsending⟩ := h.started id attempt hrow hattempt
    rcases hread log' hlog' with h | h <;> rw [hsending] at h <;> exact nomatch h
  | sent =>
    obtain ⟨log', hlog', hsent⟩ := h.sent id attempt hrow hattempt
    rcases hread log' hlog' with h | h <;> rw [hsent] at h <;> exact nomatch h
  | inconsistent =>
    rcases of_decide_eq_true hknown with hopen | hnone
    · obtain ⟨log', hlog', hopen⟩ := (Option.any_eq_true _ _).1 hopen
      rcases hread log' hlog' with h | h <;> simp [h] at hopen
    · have hfalse := any_eq_false.1 hnone id attempt hrow
      exact absurd hattempt (of_decide_eq_false hfalse)

theorem DeliveryEffect.logged (heffect : DeliveryEffect adapterKey w s l s' l') (h : EmailLogged s)
    (hclaimed : ∀ attemptId, l.attempt = some attemptId → AttemptClaimed s attemptId)
    (hknown : knownOutcome s l = true) : EmailLogged s' := by
  have hnumbered := heffect.numbered h.numbered
  cases heffect with
  | quiet hlog hattempts _ => exact h.congr hlog hattempts
  | @abandoned token message l' log hlog hstatus _ =>
    have hrows : ∀ id attempt, (s.attempts.updateWhere (fun _ attempt => attempt.status = .started)
        (EmailAttempt.abandoned w.now)).get? id = some attempt →
        attempt.stateChecked = true ∧ attempt.status ≠ .sent ∧ attempt.status ≠ .started := by
      intro id attempt hrow
      obtain ⟨row, hfound, rfl⟩ := get?_updateWhere_cases hrow
      have hchecked := h.checked id row hfound
      split
      · rename_i hstarted
        have hstarted := of_decide_eq_true hstarted
        simp only [EmailAttempt.stateChecked, hstarted, decide_eq_true_eq] at hchecked
        exact ⟨by simp [EmailAttempt.stateChecked, EmailAttempt.abandoned, hchecked], nofun, nofun⟩
      · rename_i hstarted
        refine ⟨hchecked, fun hsent => ?_, of_decide_eq_false (Bool.eq_false_of_not_eq_true hstarted)⟩
        obtain ⟨log', hlog', hsent⟩ := h.sent id row hfound hsent
        obtain rfl := Option.mem_unique hlog hlog'
        rw [hstatus] at hsent
        exact nomatch hsent
    exact ⟨hnumbered, fun id attempt hrow hsent => absurd hsent (hrows id attempt hrow).2.1,
      fun id attempt hrow hstarted => absurd hstarted (hrows id attempt hrow).2.2,
      fun id attempt hrow => (hrows id attempt hrow).1⟩
  | claimed hlog hstatus _ =>
    have hfailed : ∀ id attempt, s.attempts.get? id = some attempt → attempt.status = .failed :=
      fun id attempt => h.all_failed hlog hstatus hknown
    refine ⟨hnumbered, fun id attempt hrow hsent => ?_, fun id attempt hrow hstarted => ?_,
      fun id attempt hrow => ?_⟩ <;>
    rcases get?_insert_cases hrow with ⟨-, rfl⟩ | hrow
    · exact nomatch hsent
    · rw [hfailed id attempt hrow] at hsent
      exact nomatch hsent
    · exact ⟨_, rfl, rfl⟩
    · exact ⟨_, rfl, rfl⟩
    · rfl
    · exact h.checked id attempt hrow
  | @succeeded token attemptId result l' attempt hrow hchecked _ =>
    have hothers := (hclaimed attemptId rfl).others
    obtain ⟨log, hlog⟩ : ∃ log, s.log = some log := by
      have hsize := lt_size_of_get? hrow
      rw [h.numbered.size_eq, EmailStore.attemptCount] at hsize
      cases hlog : s.log with
      | none => rw [hlog] at hsize; exact absurd hsize (Nat.not_lt_zero _)
      | some log => exact ⟨log, rfl⟩
    refine ⟨hnumbered, fun id row hget hsent => ?_, fun id row hget hstarted => ?_,
      fun id row hget => ?_⟩
    · exact ⟨_, congrArg (Option.map (EmailLog.succeeded result w.now)) hlog, rfl⟩
    · rcases get?_update_cases hget with ⟨-, row, -, rfl⟩ | ⟨hne, hget⟩
      · exact nomatch hstarted
      · rw [hothers id row hget (Ne.symm hne)] at hstarted
        exact nomatch hstarted
    · rcases get?_update_cases hget with ⟨rfl, row', hrow', rfl⟩ | ⟨hne, hget⟩
      · obtain rfl := Option.mem_unique hrow hrow'
        exact hchecked
      · exact h.checked id row hget
  | @failed token attemptId kind code l' attempt hrow hchecked _ =>
    have hothers := (hclaimed attemptId rfl).others
    have hended : ∀ row : EmailAttempt, (row.failed kind code w.now).status ≠ .sent ∧
        (row.failed kind code w.now).status ≠ .started := by
      intro row
      rw [EmailAttempt.failed]
      split <;> exact ⟨nofun, nofun⟩
    have hrows : ∀ id row, (s.attempts.update attemptId (EmailAttempt.failed kind code w.now)).get? id =
        some row → row.stateChecked = true ∧ row.status ≠ .sent ∧ row.status ≠ .started := by
      intro id row hget
      rcases get?_update_cases hget with ⟨rfl, row', hrow', rfl⟩ | ⟨hne, hget⟩
      · obtain rfl := Option.mem_unique hrow hrow'
        exact ⟨hchecked, hended attempt⟩
      · have hfailed := hothers id row hget (Ne.symm hne)
        rw [hfailed]
        exact ⟨h.checked id row hget, nofun, nofun⟩
    exact ⟨hnumbered, fun id row hget hsent => absurd hsent (hrows id row hget).2.1,
      fun id row hget hstarted => absurd hstarted (hrows id row hget).2.2,
      fun id row hget => (hrows id row hget).1⟩

theorem DeliveryEffect.claimed_own (heffect : DeliveryEffect adapterKey w s l s' l')
    (h : EmailLogged s)
    (hclaimed : ∀ attemptId, l.attempt = some attemptId → AttemptClaimed s attemptId)
    (hknown : knownOutcome s l = true) {attemptId : RowId}
    (hattempt : l'.attempt = some attemptId) :
    AttemptClaimed s' attemptId := by
  cases heffect with
  | quiet hlog hattempts hnext =>
    rw [hattempt] at hnext
    have hbefore := hclaimed attemptId (hnext.resolve_right nofun).symm
    exact ⟨by rw [hattempts]; exact hbefore.claimed, by rw [hattempts]; exact hbefore.others⟩
  | abandoned _ _ hnext | failed _ _ hnext =>
    rw [hattempt] at hnext
    exact nomatch hnext
  | claimed hlog hstatus hnext =>
    rw [hattempt] at hnext
    obtain rfl := Option.some.inj (hnext.resolve_right nofun)
    refine ⟨⟨_, get?_insert_self _ _, nofun⟩, fun id attempt hrow hne => ?_⟩
    rcases get?_insert_cases hrow with ⟨rfl, -⟩ | hrow
    · exact absurd rfl hne
    · exact h.all_failed hlog hstatus hknown hrow
  | succeeded hrow _ hnext =>
    rw [hattempt] at hnext
    obtain rfl := Option.some.inj (hnext.resolve_right nofun)
    refine ⟨⟨_, get?_update_self hrow, nofun⟩, fun id attempt hget hne => ?_⟩
    rw [get?_update_of_ne (Ne.symm hne)] at hget
    exact (hclaimed attemptId rfl).others id attempt hget hne

theorem DeliveryEffect.claimed_other (heffect : DeliveryEffect adapterKey w s l s' l')
    (h : EmailLogged s) (hknown : knownOutcome s l = true) (hfree : l.attempt = none)
    {attemptId : RowId} (hclaimed : AttemptClaimed s attemptId) : AttemptClaimed s' attemptId := by
  obtain ⟨⟨attempt, hrow, hstatus⟩, hothers⟩ := hclaimed
  cases heffect with
  | quiet hlog hattempts _ =>
    exact ⟨⟨attempt, by rw [hattempts]; exact hrow, hstatus⟩, by rw [hattempts]; exact hothers⟩
  | abandoned _ _ _ =>
    refine ⟨⟨_, by rw [get?_updateWhere, hrow, Option.map_some], ?_⟩, ?_⟩
    · split
      · exact nofun
      · exact hstatus
    · intro id row hget hne
      obtain ⟨row, hfound, rfl⟩ := get?_updateWhere_cases hget
      have hfailed := hothers id row hfound hne
      rw [if_neg (by simp [hfailed])]
      exact hfailed
  | claimed hlog hlogged _ => exact absurd (h.all_failed hlog hlogged hknown hrow) hstatus
  | succeeded _ _ _ | failed _ _ _ => exact nomatch hfree

/-! ## The lock -/

abbrev EmailThread (adapterKey : String) := Thread (tracedEmails adapterKey)

/-- Having claimed an attempt is a lock, as long as no outcome is unknown when a claim is made. -/
def attemptLock (adapterKey : String) : Lock (tracedEmails adapterKey) where
  taken s := ∃ id attempt, s.1.attempts.get? id = some attempt ∧ attempt.status ≠ .failed
  holds t := ∃ attemptId, DeliveryState.attempt t.loc = some attemptId

def EmailsSent (s : EmailStore × List EmailEvent) : Prop :=
  EmailLogged s.1 ∧
    ∀ attemptId attempts, .send attemptId attempts ∈ s.2 → OthersFailed attempts attemptId

def EmailThreadClaimed (s : EmailStore × List EmailEvent) (t : EmailThread adapterKey) : Prop :=
  ∀ attemptId, DeliveryState.attempt t.loc = some attemptId → AttemptClaimed s.1 attemptId

/-- The guard: no claim is made in a log with an attempt whose outcome is unknown. -/
def claimsKnown (_ : EmailWorld) (s : EmailStore × List EmailEvent) (t : EmailThread adapterKey) :
    Prop :=
  knownOutcome s.1 t.loc = true
deriving Decidable

theorem DeliveryEffect.moves {trace trace' : List EmailEvent} {op : Unit}
    (heffect : DeliveryEffect adapterKey w s l s' l') (h : EmailLogged s)
    (hknown : knownOutcome s l = true)
    (hholds : ∀ attemptId, l.attempt = some attemptId → AttemptClaimed s attemptId) :
    (attemptLock adapterKey).Moves (s, trace) (s', trace') ⟨op, l⟩ ⟨op, l'⟩ := by
  cases heffect with
  | quiet hlog hattempts hnext =>
    have htaken : (attemptLock adapterKey).taken (s', trace') ↔
        (attemptLock adapterKey).taken (s, trace) := by
      simp only [attemptLock, hattempts]
    rcases hnext with hnext | hnext
    · refine .stays ?_ htaken
      simp only [attemptLock, hnext]
    · cases hattempt : l.attempt with
      | none =>
        refine .stays ?_ htaken
        simp only [attemptLock, hnext, hattempt]
      | some attemptId => exact .releases ⟨attemptId, hattempt⟩ (by simp [attemptLock, hnext])
  | abandoned _ _ hnext =>
    refine .stays ?_ ?_
    · simp only [attemptLock, hnext]
      rfl
    · simp only [attemptLock, get?_updateWhere, Option.map_eq_some_iff]
      constructor
      · rintro ⟨id, _, ⟨row, hrow, rfl⟩, hstatus⟩
        refine ⟨id, row, hrow, fun hfailed => hstatus ?_⟩
        rw [if_neg (by simp [hfailed])]
        exact hfailed
      · rintro ⟨id, row, hrow, hstatus⟩
        refine ⟨id, _, ⟨row, hrow, rfl⟩, ?_⟩
        split
        · exact nofun
        · exact hstatus
  | claimed hlog hstatus hnext =>
    refine .takes ?_ ⟨_, _, get?_insert_self _ _, nofun⟩
    rintro ⟨id, attempt, hrow, hne⟩
    exact hne (h.all_failed hlog hstatus hknown hrow)
  | @succeeded token attemptId result l' attempt hrow hchecked hnext =>
    obtain ⟨found, hfound, hne⟩ := (hholds attemptId rfl).claimed
    rcases hnext with hnext | hnext
    · refine .stays ?_ ?_
      · simp only [attemptLock, hnext]
        rfl
      · exact ⟨fun _ => ⟨_, found, hfound, hne⟩, fun _ => ⟨_, _, get?_update_self hrow, nofun⟩⟩
    · exact .releases ⟨attemptId, rfl⟩ (by simp [attemptLock, hnext])
  | @failed token attemptId kind code l' attempt hrow hchecked hnext =>
    exact .releases ⟨attemptId, rfl⟩ (by simp [attemptLock, hnext])

theorem tracedEmails_step {s s' : EmailStore × List EmailEvent} {t t' : EmailThread adapterKey}
    (h : t.step w s = some (s', t')) :
    DeliveryEffect adapterKey w s.1 t.loc s'.1 t'.loc ∧ s'.2 = s.2 ++ emailEvents w s.1 t.loc := by
  obtain ⟨l, hstep, htrace, rfl⟩ := Thread.traced_step h
  exact ⟨deliverStep_effect hstep, htrace⟩

def EmailRelied (w : EmailWorld) (s : EmailStore × List EmailEvent) (t : EmailThread adapterKey) :
    Prop :=
  claimsKnown w s t ∧ EmailsSent s ∧
    (((attemptLock adapterKey).holds t → (attemptLock adapterKey).taken s) ∧ EmailThreadClaimed s t)

theorem attemptLock_sound : (attemptLock adapterKey).Sound EmailRelied where
  start _ _ := fun ⟨_, h⟩ => nomatch h
  moves _ _ _ _ _ hrelied _ hstep :=
    (tracedEmails_step hstep).1.moves hrelied.2.1.1 hrelied.1 hrelied.2.2.2

def emailOutline (adapterKey : String) : Outline (tracedEmails adapterKey) :=
  (attemptLock adapterKey).outline EmailsSent EmailThreadClaimed

theorem emailOutline_sound : (emailOutline adapterKey).Sound claimsKnown := by
  refine Outline.Sound.relying ?_
  refine attemptLock_sound.outline_sound (fun _ _ _ _ _ h => nomatch h) ?_ ?_
  · intro w s t s' t' hrelied hs _ ht hstep
    obtain ⟨heffect, htrace⟩ := tracedEmails_step hstep
    refine ⟨⟨heffect.logged hs.1 ht hrelied.1, ?_⟩, fun attemptId hattempt =>
      heffect.claimed_own hs.1 ht hrelied.1 hattempt⟩
    intro attemptId attempts hsend
    rw [htrace, List.mem_append] at hsend
    rcases hsend with hsend | hsend
    · exact hs.2 attemptId attempts hsend
    · obtain ⟨token, sentId, hloc, hevents⟩ := emailEvents_of_mem hsend
      rw [hevents, List.mem_singleton] at hsend
      obtain ⟨rfl, rfl⟩ := EmailEvent.send.inj hsend
      exact (ht attemptId (by rw [hloc]; rfl)).others
  · intro w s t s' t' u hrelied hs ht hu _ hexcludes hstep attemptId hattempt
    have hfree : DeliveryState.attempt t.loc = none := by
      cases hloc : DeliveryState.attempt t.loc with
      | none => rfl
      | some attemptId' => exact absurd ⟨attemptId', hloc⟩ (hexcludes ⟨attemptId, hattempt⟩)
    exact (tracedEmails_step hstep).1.claimed_other hs.1 hrelied.1 hfree (hu attemptId hattempt)

def numberedOutline (adapterKey : String) : Outline (tracedEmails adapterKey) where
  shared s := Numbered s.1

theorem numberedOutline_sound : (numberedOutline adapterKey).Sound anyStep where
  symm _ _ _ := trivial
  call _ _ _ _ := trivial
  call_apart _ _ _ := trivial
  own _ _ _ _ _ _ hs _ hstep := ⟨(tracedEmails_step hstep).1.numbered hs, trivial⟩
  other _ _ _ _ _ _ _ _ _ _ _ _ := ⟨trivial, trivial⟩

/-! ## Runs -/

def publishedEmail : EmailStore := {}

def emailsConfig (adapterKey : String) : Config (tracedEmails adapterKey) :=
  ⟨(publishedEmail, []), []⟩

/-- **An e-mail is sent again only after known failures.**  In every interleaving of deliveries of
one job, wherever they stop, the attempts of its log are numbered from 1, and each is sent at most
once.  When no delivery makes a claim in a log with an attempt whose outcome is unknown, every send
finds all other attempts `FAILED`. -/
theorem never_resent_of_known (adapterKey : String) (c : Config (tracedEmails adapterKey)) :
    (Reaches anyStep (emailsConfig adapterKey) c →
      c.shared.1.attempts.rows.map EmailAttempt.attemptNumber =
          List.range' 1 c.shared.1.attemptCount ∧
        ∀ attemptId, c.shared.2.countP (fun event => event.attemptId = attemptId) ≤ 1) ∧
    (Reaches claimsKnown (emailsConfig adapterKey) c →
      ∀ attemptId attempts, .send attemptId attempts ∈ c.shared.2 →
        OthersFailed attempts attemptId) := by
  refine ⟨fun hr => ⟨?_, fun attemptId => ?_⟩, fun hr => ?_⟩
  · have hinit : (numberedOutline adapterKey).shared (publishedEmail, []) := rfl
    exact (numberedOutline_sound.holds (Outline.holds_idle hinit) hr).shared
  · exact ((sendPermit_sound attemptId).once trivial hr).1
  · have hinit : (emailOutline adapterKey).shared (publishedEmail, []) := by
      refine ⟨⟨rfl, ?_, ?_, ?_⟩, fun _ _ h => nomatch h⟩
      all_goals exact fun _ _ h => absurd h get?_empty_ne
    exact (emailOutline_sound.holds (Outline.holds_idle hinit) hr).shared.2

end

/-! ### A temporary failure is retried -/

abbrev SmtpMove := Move (tracedEmails "smtp")

/-- The adapter refuses the e-mail for now, and the next delivery sends it. -/
def retryEmail : List SmtpMove :=
  [.call () (), .advance 0 {}, .advance 0 {}, .advance 0 {},
    .advance 0 { sent := .error (.provider .temporary "EMAIL_PROVIDER_UNAVAILABLE") },
    .advance 0 {}, .advance 0 {},
    .call () (), .advance 1 {}, .advance 1 {}, .advance 1 {}, .advance 1 {}, .advance 1 {},
    .advance 1 {}]

def retriedConfig : Config (tracedEmails "smtp") :=
  Config.after (emailsConfig "smtp") retryEmail (by decide +kernel)

theorem retried_after_failure :
    (retriedConfig.shared.1.attempts.rows.map EmailAttempt.attemptNumber =
        List.range' 1 retriedConfig.shared.1.attemptCount ∧
      ∀ attemptId, retriedConfig.shared.2.countP (fun event => event.attemptId = attemptId) ≤ 1) ∧
    ∀ attemptId attempts, .send attemptId attempts ∈ retriedConfig.shared.2 →
      OthersFailed attempts attemptId := by
  have hrun : (Config.run (emailsConfig "smtp") retryEmail).isSome = true := by decide +kernel
  have hsent := never_resent_of_known "smtp" retriedConfig
  exact ⟨hsent.1 (reaches_anyStep_of_run (run_eq_after hrun)),
    hsent.2 (reaches_of_run (run_eq_after hrun) (by decide +kernel))⟩

/-! ### A worker that crashes before the job has failed -/

/-- The outcome of the first attempt is recorded as unknown, and the worker crashes before it ends
the job, which another worker takes. -/
def crashAfterFailure : List SmtpMove :=
  [.call () (), .advance 0 {}, .advance 0 {}, .advance 0 {}, .advance 0 { sent := .error .other },
    .advance 0 {},
    .call () (), .advance 1 {}, .advance 1 {}, .advance 1 {}, .advance 1 {}]

def crashedConfig : Config (tracedEmails "smtp") :=
  Config.after (emailsConfig "smtp") crashAfterFailure (by decide +kernel)

/-- **The e-mail is sent again after an unknown outcome.** -/
theorem sent_after_crash :
    Reaches anyStep (emailsConfig "smtp") crashedConfig ∧
      crashedConfig.shared.2.map EmailEvent.attemptId = [0, 1] ∧
      ∃ attempts attempt, .send 1 attempts ∈ crashedConfig.shared.2 ∧
        attempts.get? 0 = some attempt ∧ attempt.status = .inconsistent := by
  refine ⟨reaches_anyStep_of_run (run_eq_after (by decide +kernel)),
    by decide +kernel, ?_⟩
  refine ⟨⟨[{ attemptNumber := 1, provider := "smtp", status := .inconsistent
              failureKind := some .inconsistent
              failureCode := some "EMAIL_DELIVERY_OUTCOME_UNKNOWN", completedAt := some 0 },
            { attemptNumber := 2, provider := "smtp" }]⟩, _, by decide +kernel, rfl, rfl⟩

end EmailDeliveryService

end WebhostBilling
