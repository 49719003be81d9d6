import WebhostBilling.Outbox.BackgroundWorker
import WebhostBilling.Store.Commit

/-!
# The delivery of e-mails

`EmailDeliveryService.deliver` claims an attempt in the log of the e-mail, has the adapter send, and
records how that ended.  A log that is found `SENDING` belongs to an attempt that nobody finished;
it is recorded as inconsistent, and the e-mail is not sent.

The store is what one job works on.  A worker takes the job under a token of its own; a job whose
worker has crashed or stalled is taken again, and a worker that has lost it can no longer end it.
-/

namespace WebhostBilling

open Store Concurrency

namespace EmailDeliveryService

/-! ## Rows -/

inductive EmailAttemptStatus
  | started
  | sent
  | failed
  | inconsistent
deriving DecidableEq

abbrev BackgroundFailureKind := HostingPanelErrorKind

structure EmailLog where
  templateKey : String
  recipientEmail : String
  subjectSnapshot : String
  status : EmailStatus := .queued
  provider : String
  providerMessageId : Option String := none
  attemptCount : ℕ := 0
  lastError : Option String := none
  sentAt : Option ℕ := none
  failedAt : Option ℕ := none

structure EmailAttempt where
  attemptNumber : ℕ
  status : EmailAttemptStatus := .started
  provider : String
  providerMessageId : Option String := none
  failureKind : Option BackgroundFailureKind := none
  failureCode : Option String := none
  completedAt : Option ℕ := none
deriving DecidableEq

/-- `email_attempts_state_check` -/
def EmailAttempt.stateChecked (attempt : EmailAttempt) : Bool :=
  match attempt.status with
  | .started => attempt.completedAt = none ∧ attempt.providerMessageId = none ∧
      attempt.failureKind = none ∧ attempt.failureCode = none
  | .sent => attempt.completedAt.isSome = true ∧ attempt.providerMessageId.isSome = true ∧
      attempt.failureKind = none ∧ attempt.failureCode = none
  | .failed => attempt.completedAt.isSome = true ∧ attempt.providerMessageId = none ∧
      (attempt.failureKind = some .temporary ∨ attempt.failureKind = some .permanent) ∧
      attempt.failureCode.isSome = true
  | .inconsistent => attempt.completedAt.isSome = true ∧ attempt.providerMessageId = none ∧
      attempt.failureKind = some .inconsistent ∧ attempt.failureCode.isSome = true

inductive JobState
  /-- It is taken next, or once more after a temporary failure. -/
  | waiting
  | active (token : ℕ)
  | completed
  | unrecoverable
deriving DecidableEq

/-- A mail, its attempts and its job. -/
structure EmailStore where
  log : Option EmailLog := none
  attempts : Table EmailAttempt := ∅
  job : JobState := .waiting
  /-- How often the job was taken, which is the token of whoever takes it next. -/
  deliveries : ℕ := 0

/-! ## What a step is told -/

structure ResolvedEmailMessage where
  templateKey : String
  recipientEmail : String
  subject : String

structure EmailSendResult where
  provider : String
  providerMessageId : String

/-- What the adapter throws: an `EmailProviderError`, or anything else. -/
inductive SendError
  | provider (kind : BackgroundFailureKind) (code : String)
  | other

structure EmailWorld where
  now : ℕ := 0
  /-- `signal.aborted` -/
  aborted : Bool := false
  message : Except Failure ResolvedEmailMessage := .ok ⟨"", "", ""⟩
  sent : Except SendError EmailSendResult := .ok ⟨"", ""⟩
  commit : Commit := .answered

/-! ## The transactions -/

def temporary (code : String) : Failure := .job .temporary code

def inconsistent (code : String) : Failure := .job .inconsistent code

def outcomeUnknown : String := "EMAIL_PREVIOUS_ATTEMPT_OUTCOME_UNKNOWN"

/-- What `claimAttempt` returns. -/
inductive Claim
  | sent
  | inconsistent
  | attempt (attemptId : RowId)

def freshLog (adapterKey : String) (message : ResolvedEmailMessage) : EmailLog where
  templateKey := message.templateKey
  recipientEmail := message.recipientEmail
  subjectSnapshot := message.subject
  provider := adapterKey

def EmailAttempt.abandoned (now : ℕ) (attempt : EmailAttempt) : EmailAttempt :=
  { attempt with
    status := .inconsistent
    failureKind := some .inconsistent
    failureCode := some outcomeUnknown
    completedAt := some now }

def EmailAttempt.succeeded (result : EmailSendResult) (now : ℕ) (attempt : EmailAttempt) :
    EmailAttempt :=
  { attempt with
    status := .sent
    providerMessageId := some result.providerMessageId
    completedAt := some now }

def EmailAttempt.failed (kind : BackgroundFailureKind) (code : String) (now : ℕ)
    (attempt : EmailAttempt) : EmailAttempt :=
  { attempt with
    status := if kind = .inconsistent then .inconsistent else .failed
    failureKind := some kind
    failureCode := some code
    completedAt := some now }

def EmailLog.claimed (adapterKey : String) (attemptNumber : ℕ) (log : EmailLog) : EmailLog :=
  { log with
    status := .sending
    provider := adapterKey
    attemptCount := attemptNumber
    lastError := none
    failedAt := none }

def EmailLog.succeeded (result : EmailSendResult) (now : ℕ) (log : EmailLog) : EmailLog :=
  { log with
    status := .sent
    provider := result.provider
    providerMessageId := some result.providerMessageId
    lastError := none
    sentAt := some now
    failedAt := none }

def EmailLog.failed (code : String) (now : ℕ) (log : EmailLog) : EmailLog :=
  { log with
    status := .failed
    lastError := some code
    failedAt := some now }

def claimAttempt (adapterKey : String) (message : ResolvedEmailMessage) (now : ℕ)
    (s : EmailStore) : Except Failure (EmailStore × Claim) :=
  let log := s.log.getD (freshLog adapterKey message)
  match log.status with
  | .sent => .ok ({ s with log := some log }, .sent)
  | .sending => .ok ({ s with
      attempts := s.attempts.updateWhere (fun _ attempt => attempt.status = .started)
        (EmailAttempt.abandoned now)
      log := some (log.failed outcomeUnknown now) }, .inconsistent)
  | .queued | .failed => do
    let attemptNumber := log.attemptCount + 1
    require (s.attempts.any (fun _ attempt => attempt.attemptNumber = attemptNumber) = false)
      .uniqueConstraint
    return ({ s with
      attempts := s.attempts.insert { attemptNumber := attemptNumber, provider := adapterKey }
      log := some (log.claimed adapterKey attemptNumber) }, .attempt s.attempts.size)

def updateAttempt (attemptId : RowId) (f : EmailAttempt → EmailAttempt) (s : EmailStore) :
    Except Failure EmailStore := do
  let attempt ← orThrow (.error "P2025") (s.attempts.get? attemptId)
  require ((f attempt).stateChecked = true) .checkConstraint
  return { s with attempts := s.attempts.update attemptId f }

def recordSuccess (attemptId : RowId) (result : EmailSendResult) (now : ℕ) (s : EmailStore) :
    Except Failure EmailStore := do
  let s ← updateAttempt attemptId (EmailAttempt.succeeded result now) s
  return { s with log := s.log.map (EmailLog.succeeded result now) }

def recordFailure (attemptId : RowId) (kind : BackgroundFailureKind) (code : String) (now : ℕ)
    (s : EmailStore) : Except Failure EmailStore := do
  let s ← updateAttempt attemptId (EmailAttempt.failed kind code now) s
  return { s with log := s.log.map (EmailLog.failed code now) }

/-! ## A delivery -/

inductive DeliveryState
  | taking
  | resolving (token : ℕ)
  | claiming (token : ℕ) (message : ResolvedEmailMessage)
  | sending (token : ℕ) (attemptId : RowId)
  | recordingSuccess (token : ℕ) (attemptId : RowId) (result : EmailSendResult)
  | recordingFailure (token : ℕ) (attemptId : RowId) (kind : BackgroundFailureKind) (code : String)
  /-- `deliver` has ended, and the worker ends the job. -/
  | settling (token : ℕ) (result : Except Failure Unit)
  | done

def connectionFailed : Failure := .error "P1017"

def transact {α : Type} (w : EmailWorld) (s : EmailStore)
    (result : Except Failure (EmailStore × α)) (next : α → DeliveryState)
    (failed : Failure → DeliveryState) : EmailStore × DeliveryState :=
  match w.commit.run connectionFailed s result with
  | (s', .ok a) => (s', next a)
  | (s', .error e) => (s', failed e)

def throwing (token : ℕ) (e : Failure) : DeliveryState := .settling token (.error e)

/-- The error that the `catch` of `deliver` classifies. -/
def SendError.classified : SendError → BackgroundFailureKind × String
  | .provider kind code => (kind, code)
  | .other => (.inconsistent, "EMAIL_DELIVERY_OUTCOME_UNKNOWN")

/-- What `deliver` goes on with after its claim. -/
def afterClaim (token : ℕ) : Claim → DeliveryState
  | .sent => .settling token (.ok ())
  | .inconsistent => throwing token (EmailDeliveryService.inconsistent outcomeUnknown)
  | .attempt attemptId => .sending token attemptId

def JobState.settled (result : Except Failure Unit) : JobState :=
  match result with
  | .ok _ => .completed
  | .error e => if (BackgroundWorker.classified e).1 = .temporary then .waiting else .unrecoverable

def deliverStep (adapterKey : String) (w : EmailWorld) (s : EmailStore) :
    DeliveryState → Option (EmailStore × DeliveryState)
  | .taking =>
    match s.job with
    | .waiting | .active _ =>
      some ({ s with job := .active s.deliveries, deliveries := s.deliveries + 1 },
        .resolving s.deliveries)
    | .completed | .unrecoverable => some (s, .done)
  | .resolving token =>
    if w.aborted = true then some (s, throwing token (temporary "EMAIL_DELIVERY_ABORTED"))
    else match w.message with
      | .ok message => some (s, .claiming token message)
      | .error e => some (s, throwing token e)
  | .claiming token message =>
    some (transact w s (claimAttempt adapterKey message w.now s) (afterClaim token)
      (throwing token))
  | .sending token attemptId =>
    if w.aborted = true then
      some (s, .recordingFailure token attemptId .temporary "EMAIL_DELIVERY_ABORTED")
    else match w.sent with
      | .ok result => some (s, .recordingSuccess token attemptId result)
      | .error e =>
        some (s, .recordingFailure token attemptId e.classified.1 e.classified.2)
  | .recordingSuccess token attemptId result =>
    -- Whatever this transaction throws is caught, and is no `EmailProviderError`.
    some (transact w s ((recordSuccess attemptId result w.now s).map fun s => (s, ()))
      (fun _ => .settling token (.ok ()))
      fun _ => .recordingFailure token attemptId SendError.other.classified.1
        SendError.other.classified.2)
  | .recordingFailure token attemptId kind code =>
    some (transact w s ((recordFailure attemptId kind code w.now s).map fun s => (s, ()))
      (fun _ => throwing token (.job kind code)) (throwing token))
  | .settling token result =>
    if s.job = .active token then some ({ s with job := JobState.settled result }, .done)
    else some (s, .done)
  | .done => none

/-- A worker takes the job, and `deliver` is its handler. -/
def deliver (adapterKey : String) : Operation EmailStore EmailWorld where
  Request := Unit
  Local := DeliveryState
  start _ := .taking
  step := deliverStep adapterKey

def emailDeliveries (adapterKey : String) : Unit → Operation EmailStore EmailWorld :=
  fun _ => deliver adapterKey

/-! ## What is noted -/

/-- A mail handed to the provider. -/
inductive EmailEvent
  | send (attemptId : RowId) (attempts : Table EmailAttempt)
deriving DecidableEq

def emailEvents (w : EmailWorld) (s : EmailStore) : DeliveryState → List EmailEvent
  | .sending _ attemptId => if w.aborted = true then [] else [.send attemptId s.attempts]
  | _ => []

abbrev tracedEmails (adapterKey : String) :=
  tracedFamily (emailDeliveries adapterKey) fun _ => emailEvents

end EmailDeliveryService

end WebhostBilling
