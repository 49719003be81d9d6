import WebhostBilling.Database.World

/-!
# The background queues

The queues live in a store of their own, next to the database.  A job refers to an outbox event and
is identified by it: `addOutboxJob` gives every job of one event the same identifier, and a queue
does not take a job whose identifier it has already got.
-/

namespace WebhostBilling

open Store

/-! ## Queues and routes -/

inductive BackgroundQueueName
  | notifications
  | emails
  | hostingProvisioning
  | hostingSuspension
  | hostingUnsuspension
  | hostingStatusReconciliation
  | paymentReconciliation
  | renewalInvoiceGeneration
  | domainRegistration
deriving DecidableEq

structure BackgroundQueuePolicy where
  attempts : ℕ
  backoffMilliseconds : ℕ

def backgroundQueuePolicies : BackgroundQueueName → BackgroundQueuePolicy
  | .notifications => ⟨5, 2000⟩
  | .domainRegistration => ⟨1, 0⟩
  | .emails => ⟨5, 2000⟩
  | .hostingProvisioning => ⟨1, 0⟩
  | .hostingSuspension => ⟨1, 0⟩
  | .hostingUnsuspension => ⟨1, 0⟩
  | .hostingStatusReconciliation => ⟨4, 5000⟩
  | .paymentReconciliation => ⟨4, 5000⟩
  | .renewalInvoiceGeneration => ⟨3, 3000⟩

structure OutboxQueueRoute where
  queueName : BackgroundQueueName
  jobName : String

def routeOutboxEvent : OutboxEventType → Option OutboxQueueRoute
  | .notificationDeliveryRequested => some ⟨.notifications, "preview-notification"⟩
  | .domainRegistrationRequested => some ⟨.domainRegistration, "register-domain-once"⟩
  | .domainRegistrationReconcile => some ⟨.domainRegistration, "reconcile-domain"⟩
  | .authEmailVerificationRequested => some ⟨.emails, "send-auth-email"⟩
  | .authPasswordResetRequested => some ⟨.emails, "send-auth-email"⟩
  | .authCustomerEmailCodeRequested => some ⟨.emails, "send-auth-email"⟩
  | .emailOrderReceived => some ⟨.emails, "send-order-email"⟩
  | .emailOrderApproved => some ⟨.emails, "send-order-email"⟩
  | .emailPaymentReceived => some ⟨.emails, "send-payment-email"⟩
  | .emailInvoiceCreated => some ⟨.emails, "send-invoice-email"⟩
  | .emailRenewalReminder => some ⟨.emails, "send-invoice-email"⟩
  | .emailOverdueNotice => some ⟨.emails, "send-invoice-email"⟩
  | .emailServiceProvisioned => some ⟨.emails, "send-service-email"⟩
  | .emailServiceSuspended => some ⟨.emails, "send-service-email"⟩
  | .emailServiceReactivated => some ⟨.emails, "send-service-email"⟩
  | .emailHostingCancellationRequested => some ⟨.emails, "send-service-email"⟩
  | .emailTicketReply => some ⟨.emails, "send-ticket-email"⟩
  | .gatewayPaymentSucceeded => some ⟨.paymentReconciliation, "reconcile-payment-follow-up"⟩
  | .gatewayPaymentFailed => some ⟨.paymentReconciliation, "reconcile-payment-follow-up"⟩
  | .hostingProvisioningRequested => some ⟨.hostingProvisioning, "provision-hosting"⟩
  | .hostingSuspensionRequested => some ⟨.hostingSuspension, "suspend-hosting"⟩
  | .hostingCancellationSuspensionRequested => some ⟨.hostingSuspension, "suspend-hosting"⟩
  | .hostingUnsuspensionRequested => some ⟨.hostingUnsuspension, "unsuspend-hosting"⟩
  | .hostingStatusReconciliationRequested =>
    some ⟨.hostingStatusReconciliation, "reconcile-hosting-status"⟩
  | .paymentReconciliationRequested => some ⟨.paymentReconciliation, "reconcile-payment"⟩
  | .renewalInvoiceGenerationRequested =>
    some ⟨.renewalInvoiceGeneration, "generate-renewal-invoice"⟩
  | .renewalPaymentCompleted => some ⟨.renewalInvoiceGeneration, "apply-renewal-payment"⟩
  | .other _ => none

/-! ## Jobs -/

/-- `BackgroundJobData`: a job of the queue refers to an outbox event. -/
structure BackgroundJobData where
  outboxEventId : RowId
  aggregateType : AggregateType
  aggregateId : RowId
  eventType : OutboxEventType
deriving DecidableEq

/-- The identifier of a job, `outbox-⟨event⟩` with the event's identifier without its hyphens. -/
inductive BackgroundJobId
  | outbox (outboxEventId : RowId)
deriving DecidableEq

inductive BackgroundJobState
  | waiting
  | active
  | completed
  | failed
deriving DecidableEq

/-- A job in the queue. -/
structure BackgroundJob where
  queueName : BackgroundQueueName
  jobName : String
  jobId : BackgroundJobId
  data : BackgroundJobData
  attempts : ℕ
  backoffMilliseconds : ℕ
  state : BackgroundJobState := .waiting
  attemptsMade : ℕ := 0
  failureKind : Option HostingPanelErrorKind := none
  failureCode : Option String := none
  manualRetryAllowed : Bool := false

/-- The database and the queue, which do not commit together. -/
structure Stores where
  postgres : Database := {}
  redis : Table BackgroundJob := ∅

def jobData (id : RowId) (event : OutboxEvent) : BackgroundJobData where
  outboxEventId := id
  aggregateType := event.aggregateType
  aggregateId := event.aggregateId
  eventType := event.eventType

def outboxJob (route : OutboxQueueRoute) (id : RowId) (event : OutboxEvent) : BackgroundJob where
  queueName := route.queueName
  jobName := route.jobName
  jobId := .outbox id
  data := jobData id event
  attempts := (backgroundQueuePolicies route.queueName).attempts
  backoffMilliseconds := (backgroundQueuePolicies route.queueName).backoffMilliseconds

/-- `Queue.add`: a queue that has got a job with the identifier stays as it is. -/
def addJob (job : BackgroundJob) (jobs : Table BackgroundJob) : Table BackgroundJob :=
  if jobs.any fun _ j => j.queueName = job.queueName ∧ j.jobId = job.jobId then jobs
  else jobs.insert job

def addOutboxJob (route : OutboxQueueRoute) (id : RowId) (event : OutboxEvent)
    (jobs : Table BackgroundJob) : Table BackgroundJob :=
  addJob (outboxJob route id event) jobs

theorem addJob_cases (job : BackgroundJob) (jobs : Table BackgroundJob) :
    (addJob job jobs = jobs ∧ ∃ k j, jobs.get? k = some j ∧ j.queueName = job.queueName ∧
      j.jobId = job.jobId) ∨
    (addJob job jobs = jobs.insert job ∧ ∀ k j, jobs.get? k = some j →
      j.queueName = job.queueName → j.jobId ≠ job.jobId) := by
  rw [addJob]
  by_cases h : jobs.any fun _ j => j.queueName = job.queueName ∧ j.jobId = job.jobId
  · rw [if_pos h]
    obtain ⟨k, j, hj, hsame⟩ := Table.any_eq_true.1 h
    rw [decide_eq_true_eq] at hsame
    exact .inl ⟨rfl, k, j, hj, hsame⟩
  · rw [if_neg h]
    rw [Bool.not_eq_true, Table.any_eq_false] at h
    exact .inr ⟨rfl, fun k j hj hqueue hid => by simpa [hqueue, hid] using h k j hj⟩

end WebhostBilling
