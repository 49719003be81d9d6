import WebhostBilling.Renewal.HostingAutomation

/-!
# The background worker

A worker takes a job from its queue, runs the queue's handler on the job's data, and records how
the run ended.  An error that is classified as temporary is retried as often as the queue's policy
says, and afterwards by an administrator; any other error is final.
-/

namespace WebhostBilling

open Store Concurrency

namespace BackgroundWorker

def classified : Failure → HostingPanelErrorKind × String
  | .job kind code => (kind, code)
  | _ => (.temporary, "BACKGROUND_JOB_UNEXPECTED")

/-- What a failed run leaves in its job: only a temporary error has the queue run it again. -/
def failedJob (failure : Failure) (job : BackgroundJob) : BackgroundJob :=
  let temporary := (classified failure).1 = .temporary
  { job with
    failureKind := some (classified failure).1
    failureCode := some (classified failure).2
    manualRetryAllowed := temporary
    attemptsMade := job.attemptsMade + 1
    state := if temporary ∧ job.attemptsMade + 1 < job.attempts then .waiting else .failed }

def settledJob : Except Failure Unit → BackgroundJob → BackgroundJob
  | .ok _, job => { job with state := .completed, attemptsMade := job.attemptsMade + 1 }
  | .error failure, job => failedJob failure job

/-- A job can be taken while it waits, and once more when the worker that had it has stalled. -/
def takeable (job : BackgroundJob) : Prop := job.state = .waiting ∨ job.state = .active
deriving Decidable

def hostingQueue (queueName : BackgroundQueueName) : Prop :=
  queueName = .hostingSuspension ∨ queueName = .hostingUnsuspension
deriving Decidable

inductive WorkerState
  | take (jobKey : RowId)
  | handle (jobKey : RowId) (run : HostingAutomationService.AutomationState)
  | done

section

variable (fingerprint : HostingAutomationService.AutomationPayload → String)

def workerStep (w : World) (s : Stores) : WorkerState → Option (Stores × WorkerState)
  | .take jobKey =>
    match s.redis.get? jobKey with
    | none => some (s, .done)
    | some job =>
      if hostingQueue job.queueName ∧ takeable job then
        some ({ s with redis := s.redis.update jobKey fun job => { job with state := .active } },
          .handle jobKey (.start job.data))
      else some (s, .done)
  | .handle jobKey (.done result) =>
    some ({ s with redis := s.redis.update jobKey (settledJob result) }, .done)
  | .handle jobKey run =>
    (HostingAutomationService.automationStep fingerprint w s.postgres run).map fun out =>
      ({ s with postgres := out.1 }, .handle jobKey out.2)
  | .done => none

/-- `BackgroundWorker.process`, with `HostingAutomationService.process` as its handler. -/
def process : Operation Stores World where
  Request := RowId
  Local := WorkerState
  start := .take
  step := workerStep fingerprint

inductive Works (w : World) (s : Stores) : WorkerState → Stores → WorkerState → Prop
  | idle {l : WorkerState} : Works w s l s .done
  | take {jobKey : RowId} {job : BackgroundJob} (hjob : s.redis.get? jobKey = some job)
      (hqueue : hostingQueue job.queueName) : Works w s (.take jobKey)
      { s with redis := s.redis.update jobKey fun job => { job with state := .active } }
      (.handle jobKey (.start job.data))
  | settle {jobKey : RowId} {result : Except Failure Unit} : Works w s (.handle jobKey (.done result))
      { s with redis := s.redis.update jobKey (settledJob result) } .done
  | run {jobKey : RowId} {run run' : HostingAutomationService.AutomationState} {db : Database}
      (h : HostingAutomationService.automationStep fingerprint w s.postgres run = some (db, run')) :
      Works w s (.handle jobKey run) { s with postgres := db } (.handle jobKey run')

theorem workerStep_cases {w : World} {s s' : Stores} {l l' : WorkerState}
    (h : workerStep fingerprint w s l = some (s', l')) : Works fingerprint w s l s' l' := by
  unfold workerStep at h
  split at h
  · split at h
    · cases h
      exact .idle
    · rename_i job hjob
      split at h
      · rename_i htake
        cases h
        exact .take hjob htake.1
      · cases h
        exact .idle
  · cases h
    exact .settle
  · rw [Option.map_eq_some_iff] at h
    obtain ⟨⟨db, run'⟩, hstep, heq⟩ := h
    cases heq
    exact .run hstep
  · cases h

end

end BackgroundWorker

/-! ## Retrying by hand -/

namespace BackgroundJobService

def notFound (message : String) : Failure := .application .resourceNotFound message

def conflict (message : String) : Failure := .application .conflict message

structure RetryQueueJobRequest where
  queueName : BackgroundQueueName
  jobId : BackgroundJobId

def retryable (job : BackgroundJob) : Prop :=
  job.state = .failed ∧ job.failureKind = some .temporary ∧ job.manualRetryAllowed = true
deriving Decidable

inductive RetryState
  | read (request : RetryQueueJobRequest)
  | retry (jobKey : RowId)
  | done (result : Except Failure Unit)

def retryStep (_ : World) (s : Stores) : RetryState → Option (Stores × RetryState)
  | .read request =>
    match s.redis.find? fun _ job => job.queueName = request.queueName ∧ job.jobId = request.jobId with
    | none => some (s, .done (.error (notFound "Background job was not found.")))
    | some (jobKey, job) =>
      if retryable job then some (s, .retry jobKey)
      else some (s, .done (.error (conflict
        "Only failed jobs classified as temporarily retryable may be retried.")))
  | .retry jobKey =>
    match s.redis.get? jobKey with
    | none => some (s, .done (.error (.error "Missing key for job")))
    | some job =>
      if job.state = .failed then
        some ({ s with redis := s.redis.update jobKey fun job => { job with state := .waiting } },
          .done (.ok ()))
      else some (s, .done (.error (.error "Job is not in the failed state")))
  | .done _ => none

/-- `BackgroundJobService.retryQueueJob`. -/
def retryQueueJob : Operation Stores World where
  Request := RetryQueueJobRequest
  Local := RetryState
  start := .read
  step := retryStep

theorem retryStep_cases {w : World} {s s' : Stores} {l l' : RetryState}
    (h : retryStep w s l = some (s', l')) :
    s' = s ∨ ∃ jobKey, s' =
      { s with redis := s.redis.update jobKey fun job => { job with state := .waiting } } := by
  unfold retryStep at h
  split at h
  · split at h
    · cases h; exact .inl rfl
    · split at h <;> (cases h; exact .inl rfl)
  · rename_i jobKey
    split at h
    · cases h; exact .inl rfl
    · split at h
      · cases h; exact .inr ⟨jobKey, rfl⟩
      · cases h; exact .inl rfl
  · cases h

end BackgroundJobService

end WebhostBilling
