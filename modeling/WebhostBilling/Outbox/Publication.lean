import WebhostBilling.Outbox.BackgroundWorker
import WebhostBilling.Outbox.OutboxDispatcher
import WebhostBilling.Payments.PaymentService

/-!
# Publication

Any number of dispatchers publish the events that the services create, while the workers already
take the jobs.  `Stores.Consistent` holds between the two stores at all times: a published event has
its job, and a job belongs to one event and is the only one that does.
-/

namespace WebhostBilling

open Store Store.Table Concurrency Config OutboxEvent

/-! ## New events -/

def Announces (events events' : Table OutboxEvent) : Prop :=
  ∃ rows, events' = events.insertAll rows ∧ ∀ row ∈ rows, row.status = .pending

theorem announces_refl (events : Table OutboxEvent) : Announces events events :=
  ⟨[], (insertAll_nil events).symm, fun _ h => absurd h List.not_mem_nil⟩

theorem announces_insert {events : Table OutboxEvent} {row : OutboxEvent}
    (h : row.status = .pending) : Announces events (events.insert row) :=
  ⟨[row], insert_eq_insertAll events row, fun r hr => by rwa [List.mem_singleton.1 hr]⟩

theorem Announces.grows {R : OutboxEvent → OutboxEvent → Prop} (hR : ∀ event, R event event)
    {events events' : Table OutboxEvent} (h : Announces events events') :
    Table.Grows R events events' := by
  obtain ⟨rows, rfl, -⟩ := h
  exact fun id event hevent => ⟨event, get?_insertAll_of_some hevent, hR event⟩

namespace HostingAutomationService

theorem Deferred.announces {events events' : Table OutboxEvent} (h : Deferred events events') :
    Announces events events' := by
  rcases h with rfl | ⟨event, hpending, rfl⟩
  · exact announces_refl _
  · exact announces_insert hpending

variable {fingerprint : AutomationPayload → String} {db db' : Database}

theorem automationStep_announces {w : World} {l l' : AutomationState}
    (h : automationStep fingerprint w db l = some (db', l')) :
    Announces db.outboxEvents db'.outboxEvents := by
  cases automationStep_cases fingerprint h with
  | idle hjob => exact announces_refl _
  | prepare hok =>
    cases prepareTransaction_eq_ok fingerprint hok with
    | create | found => exact announces_refl _
    | nothing _ _ hevents => exact hevents.announces
  | skip hok hjob =>
    obtain ⟨operations, -, rfl⟩ := completeSkipped_eq_ok hok
    exact announces_refl _
  | complete hok hjob =>
    obtain ⟨_, _, _, _, _, _, _, _, rfl⟩ := completeTransaction_eq_ok hok
    exact announces_insert rfl
  | fail hok hjob =>
    obtain ⟨operations, -, rfl⟩ := failTransaction_eq_ok hok
    exact announces_refl _

end HostingAutomationService

/-! ## The operations on the two stores -/

inductive CreateEventState
  | create (event : OutboxEvent)
  | done

def newEvent (event : OutboxEvent) : OutboxEvent :=
  { event with
    status := .pending
    attemptCount := 0
    lockedAt := none
    lockedBy := none
    publishedAt := none
    lastError := none }

/-- `outboxEvent.create`, in the transaction of whatever service announces something. -/
def createEventStep (_ : World) (s : Stores) : CreateEventState → Option (Stores × CreateEventState)
  | .create event =>
    match s.postgres.createOutboxEvent (newEvent event) with
    | .ok db => some ({ s with postgres := db }, .done)
    | .error _ => some (s, .done)
  | .done => none

def createEvent : Operation Stores World where
  Request := OutboxEvent
  Local := CreateEventState
  start := .create
  step := createEventStep

theorem createEventStep_cases {w : World} {s s' : Stores} {l l' : CreateEventState}
    (h : createEventStep w s l = some (s', l')) :
    s'.redis = s.redis ∧ Announces s.postgres.outboxEvents s'.postgres.outboxEvents := by
  unfold createEventStep at h
  split at h
  · split at h
    · rename_i hcreate
      cases h
      rw [((s.postgres.createOutboxEvent_eq_ok).1 hcreate).2]
      exact ⟨rfl, announces_insert rfl⟩
    · cases h
      exact ⟨rfl, announces_refl _⟩
  · cases h

inductive QueueOperation
  | createEvent
  | dispatchOnce
  | processJob
  | retryQueueJob

section

variable (fingerprint : HostingAutomationService.AutomationPayload → String)

/-- What writes events or jobs. -/
def queueOperations : QueueOperation → Operation Stores World
  | .createEvent => createEvent
  | .dispatchOnce => OutboxDispatcherService.dispatchOnce
  | .processJob => BackgroundWorker.process fingerprint
  | .retryQueueJob => BackgroundJobService.retryQueueJob

end

/-! ## Events and their jobs -/

/-- The publication of the event is neither committed nor given up. -/
def OutboxEvent.unpublished (event : OutboxEvent) : Prop :=
  event.status = .pending ∨ event.status = .processing
deriving Decidable

/-- What becomes of an event: its reference and its payload stay, claims are counted, and a
publication that was committed or given up stays so. -/
structure OutboxEvent.Later (event event' : OutboxEvent) : Prop where
  aggregateType : event'.aggregateType = event.aggregateType
  aggregateId : event'.aggregateId = event.aggregateId
  eventType : event'.eventType = event.eventType
  payload : event'.payload = event.payload
  attemptCount : event.attemptCount ≤ event'.attemptCount
  settled : ¬ event.unpublished → event'.status = event.status

namespace OutboxEvent.Later

theorem refl (event : OutboxEvent) : Later event event :=
  ⟨rfl, rfl, rfl, rfl, Nat.le_refl _, fun _ => rfl⟩

theorem trans {e₁ e₂ e₃ : OutboxEvent} (h : Later e₁ e₂) (h' : Later e₂ e₃) : Later e₁ e₃ where
  aggregateType := h'.aggregateType.trans h.aggregateType
  aggregateId := h'.aggregateId.trans h.aggregateId
  eventType := h'.eventType.trans h.eventType
  payload := h'.payload.trans h.payload
  attemptCount := Nat.le_trans h.attemptCount h'.attemptCount
  settled hsettled := by
    have hstatus := h.settled hsettled
    have hsettled' : ¬ e₂.unpublished := by rwa [unpublished, hstatus]
    exact (h'.settled hsettled').trans hstatus

theorem jobData {e e' : OutboxEvent} (h : Later e e') (id : RowId) :
    WebhostBilling.jobData id e' = WebhostBilling.jobData id e := by
  rw [WebhostBilling.jobData, h.aggregateType, h.aggregateId, h.eventType]
  rfl

end OutboxEvent.Later

structure BackgroundJob.Of (job : BackgroundJob) (id : RowId) (event : OutboxEvent) : Prop where
  jobId : job.jobId = .outbox id
  data : job.data = jobData id event
  route : routeOutboxEvent event.eventType = some ⟨job.queueName, job.jobName⟩

/-- A job stays the job of its event, whatever its runs are recorded as. -/
def BackgroundJob.Same (job job' : BackgroundJob) : Prop :=
  job'.queueName = job.queueName ∧ job'.jobName = job.jobName ∧ job'.jobId = job.jobId ∧
    job'.data = job.data

namespace BackgroundJob

theorem Same.refl (job : BackgroundJob) : Same job job := ⟨rfl, rfl, rfl, rfl⟩

theorem Of.later {job job' : BackgroundJob} {id : RowId} {event event' : OutboxEvent}
    (h : job.Of id event) (hevent : event.Later event') (hjob : job.Same job') :
    job'.Of id event' where
  jobId := hjob.2.2.1.trans h.jobId
  data := by rw [hjob.2.2.2, h.data, hevent.jobData]
  route := by rw [hevent.eventType, hjob.1, hjob.2.1, h.route]

theorem of_outboxJob {route : OutboxQueueRoute} {id : RowId} {event : OutboxEvent}
    (h : routeOutboxEvent event.eventType = some route) : (outboxJob route id event).Of id event :=
  ⟨rfl, rfl, h⟩

end BackgroundJob

namespace Stores

/-- A job of the event is in the queue. -/
def HasJob (s : Stores) (id : RowId) (event : OutboxEvent) : Prop :=
  ∃ key job, s.redis.get? key = some job ∧ job.Of id event

/-- Published events have their job, and jobs have their event. -/
structure Consistent (s : Stores) : Prop where
  published : ∀ id event, s.postgres.outboxEvents.get? id = some event →
    event.status = .published → s.HasJob id event
  jobs : ∀ key job, s.redis.get? key = some job →
    ∃ id event, s.postgres.outboxEvents.get? id = some event ∧ job.Of id event
  unique : ∀ key key' job job', s.redis.get? key = some job → s.redis.get? key' = some job' →
    job.jobId = job'.jobId → key = key'

structure Advances (s s' : Stores) : Prop where
  events : Table.Grows Later s.postgres.outboxEvents s'.postgres.outboxEvents
  jobs : Table.Grows BackgroundJob.Same s.redis s'.redis

variable {s s' : Stores}

theorem Advances.refl (s : Stores) : Advances s s :=
  ⟨Grows.refl Later.refl _, Grows.refl BackgroundJob.Same.refl _⟩

theorem advances_of_events (hredis : s'.redis = s.redis)
    (h : Table.Grows Later s.postgres.outboxEvents s'.postgres.outboxEvents) :
    Advances s s' :=
  ⟨h, hredis ▸ Grows.refl BackgroundJob.Same.refl _⟩

theorem HasJob.later {id : RowId} {event event' : OutboxEvent} (h : s.HasJob id event)
    (hs : s.Advances s') (hevent : event.Later event') : s'.HasJob id event' := by
  obtain ⟨key, job, hjob, hof⟩ := h
  obtain ⟨job', hjob', hsame⟩ := hs.jobs key job hjob
  exact ⟨key, job', hjob', hof.later hevent hsame⟩

theorem Consistent.of_events (h : s.Consistent) (hredis : s'.redis = s.redis)
    (hgrow : Table.Grows Later s.postgres.outboxEvents s'.postgres.outboxEvents)
    (hpublished : ∀ id event', s'.postgres.outboxEvents.get? id = some event' →
      event'.status = .published → s.postgres.outboxEvents.get? id = some event' ∨
        ∃ event, event.Later event' ∧ s.HasJob id event) : s'.Consistent where
  published id event' hevent' hstatus := by
    have hs := advances_of_events hredis hgrow
    rcases hpublished id event' hevent' hstatus with hevent | ⟨event, hlater, hjob⟩
    · exact (h.published id event' hevent hstatus).later hs (Later.refl event')
    · exact hjob.later hs hlater
  jobs key job hjob := by
    rw [hredis] at hjob
    obtain ⟨id, event, hevent, hof⟩ := h.jobs key job hjob
    obtain ⟨event', hevent', hlater⟩ := hgrow id event hevent
    exact ⟨id, event', hevent', hof.later hlater (BackgroundJob.Same.refl job)⟩
  unique := by
    rw [hredis]
    exact h.unique

theorem Consistent.of_announces (h : s.Consistent) (hredis : s'.redis = s.redis)
    (hnew : Announces s.postgres.outboxEvents s'.postgres.outboxEvents) :
    s.Advances s' ∧ s'.Consistent := by
  have hgrow := hnew.grows Later.refl
  refine ⟨advances_of_events hredis hgrow, h.of_events hredis hgrow fun id event' hevent' hstatus => ?_⟩
  obtain ⟨rows, hrows, hpending⟩ := hnew
  rw [hrows] at hevent'
  rcases get?_insertAll_cases hevent' with ⟨-, hmem⟩ | hevent
  · rw [hpending event' hmem] at hstatus
    exact nomatch hstatus
  · exact .inl hevent

theorem Consistent.of_update (h : s.Consistent) {key : RowId} {f : BackgroundJob → BackgroundJob}
    (hf : ∀ job : BackgroundJob, job.Same (f job)) :
    s.Advances { s with redis := s.redis.update key f } ∧
      Consistent { s with redis := s.redis.update key f } := by
  have hs : s.Advances { s with redis := s.redis.update key f } :=
    ⟨Grows.refl Later.refl _,
      grows_update BackgroundJob.Same.refl fun job _ => hf job⟩
  have hjob : ∀ k job', (s.redis.update key f).get? k = some job' →
      ∃ job, s.redis.get? k = some job ∧ job.Same job' := by
    intro k job' hjob'
    rcases get?_update_cases hjob' with ⟨rfl, job, hjob, rfl⟩ | ⟨-, hjob⟩
    · exact ⟨job, hjob, hf job⟩
    · exact ⟨job', hjob, BackgroundJob.Same.refl job'⟩
  refine ⟨hs, fun id event hevent hstatus => ?_, fun k job' hjob' => ?_, fun k k' j j' hj hj' heq => ?_⟩
  · exact (h.published id event hevent hstatus).later hs (Later.refl event)
  · obtain ⟨job, hget, hsame⟩ := hjob k job' hjob'
    obtain ⟨id, event, hevent, hof⟩ := h.jobs k job hget
    exact ⟨id, event, hevent, hof.later (Later.refl event) hsame⟩
  · obtain ⟨job, hget, hsame⟩ := hjob k j hj
    obtain ⟨job', hget', hsame'⟩ := hjob k' j' hj'
    refine h.unique k k' job job' hget hget' ?_
    rw [← hsame.2.2.1, ← hsame'.2.2.1, heq]

theorem Consistent.of_add (h : s.Consistent) {route : OutboxQueueRoute} {id : RowId}
    {event row : OutboxEvent} (hrow : s.postgres.outboxEvents.get? id = some row)
    (hlater : event.Later row) (hroute : routeOutboxEvent event.eventType = some route) :
    s.Advances { s with redis := addOutboxJob route id event s.redis } ∧
      Consistent { s with redis := addOutboxJob route id event s.redis } ∧
      HasJob { s with redis := addOutboxJob route id event s.redis } id event := by
  have hroute' : routeOutboxEvent row.eventType = some route := by rw [hlater.eventType, hroute]
  have hof : (outboxJob route id event).Of id event := BackgroundJob.of_outboxJob hroute
  -- A job with the identifier is a job of this event, and so in the same queue.
  have hold : ∀ key job, s.redis.get? key = some job → job.jobId = .outbox id →
      job.queueName = route.queueName ∧ job.Of id row := by
    intro key job hjob hid
    obtain ⟨id', event', hevent', hof'⟩ := h.jobs key job hjob
    have hsame : id = id' := BackgroundJobId.outbox.inj (hid.symm.trans hof'.jobId)
    subst hsame
    obtain rfl := Option.mem_unique hrow hevent'
    have := hof'.route
    rw [hroute', Option.some.injEq] at this
    exact ⟨(congrArg OutboxQueueRoute.queueName this).symm, hof'⟩
  rcases addJob_cases (outboxJob route id event) s.redis with
    ⟨hsame, key, job, hjob, -, hid⟩ | ⟨hinsert, hnew⟩
  · rw [addOutboxJob, hsame]
    have hjobOf := (hold key job hjob hid).2
    refine ⟨Advances.refl s, h, key, job, hjob, hjobOf.jobId, ?_, ?_⟩
    · rw [hjobOf.data, hlater.jobData]
    · rw [← hlater.eventType, hjobOf.route]
  · rw [addOutboxJob, hinsert]
    have hs : s.Advances { s with redis := s.redis.insert (outboxJob route id event) } :=
      ⟨Grows.refl Later.refl _, grows_insert BackgroundJob.Same.refl _ _⟩
    refine ⟨hs, ⟨fun i e he hstatus => ?_, fun key job hjob => ?_, fun k k' j j' hj hj' heq => ?_⟩,
      s.redis.size, outboxJob route id event, get?_insert_self _ _, hof⟩
    · exact (h.published i e he hstatus).later hs (Later.refl e)
    · rcases get?_insert_cases hjob with ⟨-, rfl⟩ | hjob
      · exact ⟨id, row, hrow, hof.later hlater (BackgroundJob.Same.refl _)⟩
      · exact h.jobs key job hjob
    · rcases get?_insert_cases hj with ⟨rfl, rfl⟩ | hj
      · rcases get?_insert_cases hj' with ⟨rfl, -⟩ | hj'
        · rfl
        · exact absurd heq.symm (hnew k' j' hj' (hold k' j' hj' heq.symm).1)
      · rcases get?_insert_cases hj' with ⟨rfl, rfl⟩ | hj'
        · exact absurd heq (hnew k j hj (hold k j hj heq).1)
        · exact h.unique k k' j j' hj hj' heq

end Stores

/-! ## What one step does to an event -/

namespace OutboxDispatcherService

/-- The events that the next step claims. -/
def claimedBy (w : World) (db : Database) : Option DispatchState → List RowId
  | some (.claim d lockCutoff) => candidates d lockCutoff w db
  | _ => []

/-- The next step records that a publication attempt at the event has failed. -/
def RecordsFailure (id : RowId) : Option DispatchState → Prop
  | some (.fail _ event _) => event.1 = id
  | _ => False

/-- The next step is an attempt at the event that fails: its job cannot be added, or its publication
cannot be recorded. -/
def AttemptFails (w : World) (id : RowId) : Option DispatchState → Prop
  | some (.publish _ (event :: _)) => event.1 = id ∧ w.queueDelivery ≠ .acknowledged
  | some (.mark _ event _) => event.1 = id ∧ w.databaseDelivery ≠ .acknowledged
  | _ => False

end OutboxDispatcherService

/-- Every claim is counted and nothing else is, and an unpublished event is left alone, published, or
given up: an event of an unknown type at once, any other when an attempt at it has failed and it was
claimed as often as it is tried. -/
structure OutboxEvent.Dispatched (w : World) (db : Database)
    (l : Option OutboxDispatcherService.DispatchState) (id : RowId) (event event' : OutboxEvent) :
    Prop where
  later : event.Later event'
  claimed : id ∈ OutboxDispatcherService.claimedBy w db l →
    event'.status = .processing ∧ event'.attemptCount = event.attemptCount + 1
  unclaimed : id ∉ OutboxDispatcherService.claimedBy w db l →
    event'.attemptCount = event.attemptCount
  leaves : event.unpublished → event'.unpublished ∨ event'.status = .published ∨
    event'.status = .failed ∧ (routeOutboxEvent event.eventType = none ∨
      OutboxDispatcherService.maxPublicationAttempts ≤ event.attemptCount ∧
        OutboxDispatcherService.RecordsFailure id l)

namespace OutboxDispatcherService

/-- An event as it was read back is an earlier version of its row. -/
def Known (s : Stores) (event : RowId × OutboxEvent) : Prop :=
  ∃ row, s.postgres.outboxEvents.get? event.1 = some row ∧ event.2.Later row

theorem Known.advance {s s' : Stores} {event : RowId × OutboxEvent} (h : Known s event)
    (hs : s.Advances s') : Known s' event := by
  obtain ⟨row, hrow, hlater⟩ := h
  obtain ⟨row', hrow', hlater'⟩ := hs.events event.1 row hrow
  exact ⟨row', hrow', hlater.trans hlater'⟩

def dispatchAssertion (s : Stores) : DispatchState → Prop
  | .publish _ events => ∀ event ∈ events, Known s event
  | .mark _ event rest => (∀ e ∈ event :: rest, Known s e) ∧ s.HasJob event.1 event.2
  | .fail _ event rest => ∀ e ∈ event :: rest, Known s e
  | _ => True

theorem dispatchAssertion_advance {s s' : Stores} (hs : s.Advances s') :
    ∀ {l : DispatchState}, dispatchAssertion s l → dispatchAssertion s' l
  | .publish _ _, h => fun e he => (h e he).advance hs
  | .mark _ event _, h => ⟨fun e he => (h.1 e he).advance hs,
      h.2.later hs (Later.refl event.2)⟩
  | .fail _ _ _, h => fun e he => (h e he).advance hs
  | .start _, _ | .claim _ _, _ | .read _ _, _ | .done, _ => trivial

variable {event : OutboxEvent} {now : ℕ}

theorem later_claimedEvent {workerId : String} (h : event.unpublished) :
    event.Later (claimedEvent workerId now event) :=
  ⟨rfl, rfl, rfl, rfl, Nat.le_succ _, fun hsettled => absurd h hsettled⟩

theorem unpublished_of_held {workerId : String} (h : held workerId event) :
    event.unpublished :=
  Or.inr h.1

theorem later_publishedEvent (h : event.unpublished) : event.Later (publishedEvent now event) :=
  ⟨rfl, rfl, rfl, rfl, Nat.le_refl _, fun hsettled => absurd h hsettled⟩

theorem later_unroutableEvent (h : event.unpublished) : event.Later (unroutableEvent event) :=
  ⟨rfl, rfl, rfl, rfl, Nat.le_refl _, fun hsettled => absurd h hsettled⟩

theorem later_failedPublication {claimed : OutboxEvent} (h : event.unpublished) :
    event.Later (failedPublication claimed now event) :=
  ⟨rfl, rfl, rfl, rfl, Nat.le_refl _, fun hsettled => absurd h hsettled⟩

structure Steps (s s' : Stores) : Prop where
  advances : s.Advances s'
  consistent : s'.Consistent

variable {s : Stores} {w : World} {d : Dispatcher}

theorem Steps.refl (h : s.Consistent) : Steps s s :=
  ⟨Stores.Advances.refl s, h⟩

theorem steps_of_events {s' : Stores} (h : s.Consistent) (hredis : s'.redis = s.redis)
    (hgrow : Table.Grows Later s.postgres.outboxEvents s'.postgres.outboxEvents)
    (hpublished : ∀ id event', s'.postgres.outboxEvents.get? id = some event' →
      event'.status = .published → s.postgres.outboxEvents.get? id = some event' ∨
        ∃ event, event.Later event' ∧ s.HasJob id event) : Steps s s' :=
  ⟨Stores.advances_of_events hredis hgrow, h.of_events hredis hgrow hpublished⟩

theorem steps_claim {ids : List RowId} {now : ℕ} {workerId : String} (h : s.Consistent)
    (hids : ∀ id ∈ ids, ∃ event, s.postgres.outboxEvents.get? id = some event ∧
      event.unpublished) :
    Steps s { s with postgres := claimEvents ids workerId now s.postgres } := by
  refine steps_of_events h rfl (grows_updateWhere Later.refl ?_) ?_
  · intro id event hevent hmem
    obtain ⟨row, hrow, hopen⟩ := hids id (by simpa using hmem)
    rw [hevent, Option.some.injEq] at hrow
    exact later_claimedEvent (hrow ▸ hopen)
  · intro id event' hevent' hstatus
    obtain ⟨event, hevent, rfl⟩ := get?_updateWhere_cases hevent'
    split at hstatus
    · exact nomatch hstatus
    · rename_i hmem
      rw [if_neg hmem]
      exact .inl hevent

theorem steps_writeEvent {id : RowId} {f : OutboxEvent → OutboxEvent} (h : s.Consistent)
    (hf : ∀ event, s.postgres.outboxEvents.get? id = some event → event.unpublished →
      event.Later (f event) ∧ ((f event).status = .published → s.HasJob id event)) :
    Steps s (writeEvent d w id f s) := by
  rcases deliver_cases w.databaseDelivery (updateHeld id d.workerId f) s.postgres with
    hsame | hwrite
  · rw [writeEvent, hsame]
    exact Steps.refl h
  · rw [writeEvent, hwrite]
    refine steps_of_events h rfl (grows_update Later.refl ?_) ?_
    · intro event hevent
      by_cases hheld : held d.workerId event
      · rw [if_pos hheld]
        exact (hf event hevent (unpublished_of_held hheld)).1
      · rw [if_neg hheld]
        exact Later.refl event
    · intro i event' hevent' hstatus
      rcases get?_update_cases hevent' with ⟨rfl, event, hevent, rfl⟩ | ⟨-, hevent⟩
      · by_cases hheld : held d.workerId event
        · rw [if_pos hheld] at hstatus ⊢
          obtain ⟨hlater, hjob⟩ := hf event hevent (unpublished_of_held hheld)
          exact .inr ⟨event, hlater, hjob hstatus⟩
        · rw [if_neg hheld]
          exact .inl hevent
      · exact .inl hevent

theorem steps_dispatch {s' : Stores} {l l' : DispatchState} (h : s.Consistent)
    (hl : dispatchAssertion s l) (hstep : dispatchStep w s l = some (s', l')) :
    Steps s s' ∧ dispatchAssertion s' l' := by
  unfold dispatchStep at hstep
  split at hstep
  · cases hstep
    exact ⟨Steps.refl h, trivial⟩
  · rename_i d lockCutoff
    cases hstep
    refine ⟨steps_claim h fun id hmem => ?_, ?_⟩
    · obtain ⟨event, hevent, hdue⟩ := claimable_of_mem_candidates hmem
      exact ⟨event, hevent, status_of_claimable hdue⟩
    · split <;> trivial
  · cases hstep
    refine ⟨Steps.refl h, fun event hmem => ?_⟩
    exact ⟨event.2, get?_of_mem_readEvents hmem, Later.refl event.2⟩
  · cases hstep
    exact ⟨Steps.refl h, trivial⟩
  · rename_i d event rest
    obtain ⟨hknown, hrest⟩ := List.forall_mem_cons.1 hl
    obtain ⟨row, hrow, hlater⟩ := hknown
    split at hstep
    · rename_i hroute
      cases hstep
      have hsteps : Steps s (writeEvent d w event.1 unroutableEvent s) :=
        steps_writeEvent h fun e he hopen => ⟨later_unroutableEvent hopen, nofun⟩
      refine ⟨hsteps, ?_⟩
      split
      · exact fun e he => (hrest e he).advance hsteps.advances
      · trivial
    · rename_i route hroute
      cases hstep
      obtain ⟨hs, hconsistent, hjob⟩ := h.of_add hrow hlater hroute
      have hsteps : Steps s (addEventJob w route event s) := by
        rcases deliver_cases w.queueDelivery (addOutboxJob route event.1 event.2) s.redis with
          hnone | hadd
        · rw [addEventJob, hnone]
          exact Steps.refl h
        · rw [addEventJob, hadd]
          exact ⟨hs, hconsistent⟩
      refine ⟨hsteps, ?_⟩
      have hknown' : ∀ e ∈ event :: rest, Known (addEventJob w route event s) e :=
        fun e he => (hl e he).advance hsteps.advances
      by_cases hacknowledged : w.queueDelivery = .acknowledged
      · rw [if_pos hacknowledged]
        refine ⟨hknown', ?_⟩
        rw [addEventJob, deliver_of_acknowledged _ _ hacknowledged]
        exact hjob
      · rw [if_neg hacknowledged]
        exact hknown'
  · rename_i d event rest
    cases hstep
    have hsteps : Steps s (writeEvent d w event.1 (publishedEvent w.now) s) := by
      refine steps_writeEvent h fun e he hopen => ⟨later_publishedEvent hopen, fun _ => ?_⟩
      obtain ⟨row, hrow, hlater⟩ := hl.1 event List.mem_cons_self
      rw [hrow, Option.some.injEq] at he
      exact he ▸ hl.2.later (Stores.Advances.refl s) hlater
    refine ⟨hsteps, ?_⟩
    split
    · exact fun e he => (hl.1 e (List.mem_cons_of_mem _ he)).advance hsteps.advances
    · exact fun e he => (hl.1 e he).advance hsteps.advances
  · rename_i d event rest
    cases hstep
    have hsteps : Steps s (writeEvent d w event.1 (failedPublication event.2 w.now) s) := by
      refine steps_writeEvent h fun e he hopen => ⟨later_failedPublication hopen, fun hstatus => ?_⟩
      simp only [failedPublication] at hstatus
      split at hstatus <;> exact nomatch hstatus
    refine ⟨hsteps, ?_⟩
    split
    · exact fun e he => (hl e (List.mem_cons_of_mem _ he)).advance hsteps.advances
    · trivial
  · cases hstep

/-! ### Claims and failures -/

variable {s' : Stores} {l l' : DispatchState} {id : RowId}

theorem Dispatched.same {db : Database} {l : Option DispatchState} (hclaimed : id ∉ claimedBy w db l) :
    event.Dispatched w db l id event where
  later := Later.refl event
  claimed hmem := absurd hmem hclaimed
  unclaimed _ := rfl
  leaves := .inl

theorem dispatched_claim {lockCutoff : ℤ} (hevent : s.postgres.outboxEvents.get? id = some event) :
    ∃ event', (claimEvents (candidates d lockCutoff w s.postgres) d.workerId w.now
        s.postgres).outboxEvents.get? id = some event' ∧
      event.Dispatched w s.postgres (some (.claim d lockCutoff)) id event' := by
  rw [claimEvents, get?_updateWhere, hevent, Option.map_some]
  refine ⟨_, rfl, ?_⟩
  by_cases hmem : id ∈ candidates d lockCutoff w s.postgres
  · rw [if_pos (by simpa using hmem)]
    obtain ⟨row, hrow, hdue⟩ := claimable_of_mem_candidates hmem
    obtain rfl := Option.mem_unique hevent hrow
    exact ⟨later_claimedEvent (status_of_claimable hdue), fun _ => ⟨rfl, rfl⟩,
      fun hnot => absurd hmem hnot, fun _ => .inl (.inr rfl)⟩
  · rw [if_neg (by simpa using hmem)]
    exact Dispatched.same hmem

/-- A write to one event dispatches every event, when it is one that the held event allows. -/
theorem dispatched_write {l : Option DispatchState} {i : RowId} {f : OutboxEvent → OutboxEvent}
    (hclaimed : claimedBy w s.postgres l = [])
    (hf : ∀ row, s.postgres.outboxEvents.get? i = some row → held d.workerId row →
      row.Dispatched w s.postgres l i (f row))
    (hevent : s.postgres.outboxEvents.get? id = some event) :
    ∃ event', (writeEvent d w i f s).postgres.outboxEvents.get? id = some event' ∧
      event.Dispatched w s.postgres l id event' := by
  have hsame : event.Dispatched w s.postgres l id event :=
    Dispatched.same (hclaimed ▸ List.not_mem_nil)
  rcases deliver_cases w.databaseDelivery (updateHeld i d.workerId f) s.postgres with
    hnone | hwrite
  · rw [writeEvent, hnone]
    exact ⟨event, hevent, hsame⟩
  · rw [writeEvent, hwrite, updateHeld, get?_update, hevent]
    by_cases hid : i = id
    · subst hid
      refine ⟨if held d.workerId event then f event else event, if_pos rfl, ?_⟩
      by_cases hheld : held d.workerId event
      · rw [if_pos hheld]
        exact hf event hevent hheld
      · rwa [if_neg hheld]
    · exact ⟨event, if_neg hid, hsame⟩

theorem dispatched_step (hl : dispatchAssertion s l) (hstep : dispatchStep w s l = some (s', l'))
    (hevent : s.postgres.outboxEvents.get? id = some event) :
    ∃ event', s'.postgres.outboxEvents.get? id = some event' ∧
      event.Dispatched w s.postgres (some l) id event' := by
  have hsame : claimedBy w s.postgres (some l) = [] →
      event.Dispatched w s.postgres (some l) id event := fun hclaimed =>
    Dispatched.same (hclaimed ▸ List.not_mem_nil)
  cases l with
  | start d => cases hstep; exact ⟨event, hevent, hsame rfl⟩
  | claim d lockCutoff => cases hstep; exact dispatched_claim hevent
  | read d ids => cases hstep; exact ⟨event, hevent, hsame rfl⟩
  | publish d events =>
    cases events with
    | nil => cases hstep; exact ⟨event, hevent, hsame rfl⟩
    | cons known rest =>
      rw [dispatchStep] at hstep
      split at hstep
      · rename_i hroute
        cases hstep
        refine dispatched_write rfl (fun row hrow hheld => ?_) hevent
        obtain ⟨row', hrow', hlater⟩ := hl known List.mem_cons_self
        obtain rfl := Option.mem_unique hrow hrow'
        exact ⟨later_unroutableEvent (unpublished_of_held hheld),
          fun hmem => absurd hmem List.not_mem_nil, fun _ => rfl,
          fun _ => .inr (.inr ⟨rfl, .inl (by rw [hlater.eventType, hroute])⟩)⟩
      · cases hstep
        exact ⟨event, hevent, hsame rfl⟩
  | mark d known rest =>
    cases hstep
    exact dispatched_write rfl (fun row hrow hheld =>
      ⟨later_publishedEvent (unpublished_of_held hheld),
        fun hmem => absurd hmem List.not_mem_nil, fun _ => rfl, fun _ => .inr (.inl rfl)⟩) hevent
  | fail d known rest =>
    cases hstep
    refine dispatched_write rfl (fun row hrow hheld => ?_) hevent
    obtain ⟨row', hrow', hlater⟩ := hl known List.mem_cons_self
    obtain rfl := Option.mem_unique hrow hrow'
    refine ⟨later_failedPublication (unpublished_of_held hheld),
      fun hmem => absurd hmem List.not_mem_nil, fun _ => rfl, fun _ => ?_⟩
    by_cases hexhausted : maxPublicationAttempts ≤ known.2.attemptCount
    · exact .inr (.inr ⟨if_pos hexhausted,
        .inr ⟨Nat.le_trans hexhausted hlater.attemptCount, rfl⟩⟩)
    · exact .inl (.inl (if_neg hexhausted))
  | done => cases hstep

theorem attemptFails_of_step (hstep : dispatchStep w s l = some (s', l'))
    (h : RecordsFailure id (some l')) : AttemptFails w id (some l) := by
  cases l with
  | start d => cases hstep; exact h.elim
  | claim d lockCutoff =>
    cases hstep
    split at h <;> exact h.elim
  | read d ids => cases hstep; exact h.elim
  | publish d events =>
    cases events with
    | nil => cases hstep; exact h.elim
    | cons known rest =>
      rw [dispatchStep] at hstep
      split at hstep
      · cases hstep
        split at h <;> exact h.elim
      · cases hstep
        split at h
        · exact h.elim
        · rename_i hadd
          exact ⟨h, hadd⟩
  | mark d known rest =>
    cases hstep
    split at h
    · exact h.elim
    · rename_i hmark
      exact ⟨h, hmark⟩
  | fail d known rest =>
    cases hstep
    split at h <;> exact h.elim
  | done => cases hstep

end OutboxDispatcherService

/-! ## Runs -/

section

variable {fingerprint : HostingAutomationService.AutomationPayload → String}

open OutboxDispatcherService
variable {s s' : Stores}

theorem steps_of_announces (h : s.Consistent) (hredis : s'.redis = s.redis)
    (hnew : Announces s.postgres.outboxEvents s'.postgres.outboxEvents) : Steps s s' :=
  ⟨(h.of_announces hredis hnew).1, (h.of_announces hredis hnew).2⟩

theorem steps_of_update {key : RowId} {f : BackgroundJob → BackgroundJob}
    (h : s.Consistent) (hf : ∀ job : BackgroundJob, job.Same (f job)) :
    Steps s { s with redis := s.redis.update key f } :=
  ⟨(h.of_update hf).1, (h.of_update hf).2⟩

theorem same_settledJob (result : Except Failure Unit) (job : BackgroundJob) :
    job.Same (BackgroundWorker.settledJob result job) := by
  cases result <;> exact ⟨rfl, rfl, rfl, rfl⟩

theorem steps_work {w : World} {l l' : BackgroundWorker.WorkerState}
    (h : s.Consistent) (hstep : BackgroundWorker.Works fingerprint w s l s' l') : Steps s s' := by
  cases hstep with
  | idle => exact Steps.refl h
  | take hjob hqueue => exact steps_of_update h fun _ => ⟨rfl, rfl, rfl, rfl⟩
  | settle => exact steps_of_update h (same_settledJob _)
  | run hrun =>
    exact steps_of_announces h rfl (HostingAutomationService.automationStep_announces hrun)

def queueAssertion (s : Stores) :
    (op : QueueOperation) → (queueOperations fingerprint op).Local → Prop
  | .dispatchOnce, l => dispatchAssertion s l
  | _, _ => True

theorem queueAssertion_advance (hs : s.Advances s') (op : QueueOperation)
    {l : (queueOperations fingerprint op).Local} (h : queueAssertion s op l) :
    queueAssertion s' op l := by
  cases op with
  | dispatchOnce => exact dispatchAssertion_advance hs h
  | createEvent | processJob | retryQueueJob => trivial

theorem steps_of_step {w : World} (h : s.Consistent) (op : QueueOperation)
    {l l' : (queueOperations fingerprint op).Local} (hl : queueAssertion s op l)
    (hstep : (queueOperations fingerprint op).step w s l = some (s', l')) :
    Steps s s' ∧ queueAssertion s' op l' := by
  cases op with
  | createEvent =>
    obtain ⟨hredis, hnew⟩ := createEventStep_cases (w := w) hstep
    exact ⟨steps_of_announces h hredis hnew, trivial⟩
  | dispatchOnce => exact steps_dispatch h hl hstep
  | processJob => exact ⟨steps_work h (BackgroundWorker.workerStep_cases _ hstep), trivial⟩
  | retryQueueJob =>
    refine ⟨?_, trivial⟩
    rcases BackgroundJobService.retryStep_cases (w := w) hstep with rfl | ⟨jobKey, rfl⟩
    · exact Steps.refl h
    · exact steps_of_update h fun _ => ⟨rfl, rfl, rfl, rfl⟩

/-- The state of a dispatcher's cycle. -/
def dispatching : (op : QueueOperation) → (queueOperations fingerprint op).Local →
    Option DispatchState
  | .dispatchOnce, l => some l
  | _, _ => none

theorem dispatched_of_step {w : World} (op : QueueOperation)
    {l l' : (queueOperations fingerprint op).Local} (hl : queueAssertion s op l)
    (hstep : (queueOperations fingerprint op).step w s l = some (s', l')) {id : RowId}
    {event : OutboxEvent} (hevent : s.postgres.outboxEvents.get? id = some event) :
    ∃ event', s'.postgres.outboxEvents.get? id = some event' ∧
      event.Dispatched w s.postgres (dispatching op l) id event' := by
  have hnew : Announces s.postgres.outboxEvents s'.postgres.outboxEvents →
      s'.postgres.outboxEvents.get? id = some event := by
    rintro ⟨rows, hrows, -⟩
    rw [hrows]
    exact get?_insertAll_of_some hevent
  have hsame : dispatching op l = none → event.Dispatched w s.postgres (dispatching op l) id event :=
    fun hnone => hnone ▸ Dispatched.same List.not_mem_nil
  cases op with
  | createEvent => exact ⟨event, hnew (createEventStep_cases (w := w) hstep).2, hsame rfl⟩
  | dispatchOnce => exact dispatched_step hl hstep hevent
  | processJob =>
    refine ⟨event, hnew ?_, hsame rfl⟩
    cases BackgroundWorker.workerStep_cases _ hstep with
    | idle | take | settle => exact announces_refl _
    | run hrun => exact HostingAutomationService.automationStep_announces hrun
  | retryQueueJob =>
    refine ⟨event, hnew ?_, hsame rfl⟩
    rcases BackgroundJobService.retryStep_cases (w := w) hstep with rfl | ⟨jobKey, rfl⟩ <;>
      exact announces_refl _

def queueOutline : Outline (queueOperations fingerprint) where
  shared := Stores.Consistent
  thread s t := queueAssertion s t.op t.loc

theorem queueOutline_sound :
    (@queueOutline fingerprint).Sound anyStep where
  symm _ _ h := h
  call _ op _ _ := by cases op <;> trivial
  call_apart _ _ _ := trivial
  own w s t s' t' _ hshared hthread hstep := by
    obtain ⟨l, hl, rfl⟩ := Thread.step_eq_some hstep
    obtain ⟨hsteps, hassert⟩ := steps_of_step hshared t.op hthread hl
    exact ⟨hsteps.consistent, hassert⟩
  other w s t s' t' u _ hshared hthread hu _ hstep := by
    obtain ⟨l, hl, rfl⟩ := Thread.step_eq_some hstep
    exact ⟨queueAssertion_advance (steps_of_step hshared t.op hthread hl).1.advances u.op hu,
      trivial⟩

/-- **Publication is at least once, with one job for each event**: in every run from consistent
stores, a published event has its job, two jobs of one event are the same job, every further step
dispatches the events as it should, and a dispatcher that records a failure is one whose attempt at
that event has failed. -/
theorem publication_at_least_once {s : Stores} (h : s.Consistent)
    {c : Config (queueOperations fingerprint)} (hr : Reaches anyStep ⟨s, []⟩ c) :
    (∀ id event, c.shared.postgres.outboxEvents.get? id = some event →
      event.status = .published → c.shared.HasJob id event) ∧
    (∀ key key' job job', c.shared.redis.get? key = some job →
      c.shared.redis.get? key' = some job' →
      job.data.outboxEventId = job'.data.outboxEventId → job.jobId = job'.jobId ∧ key = key') ∧
    (∀ w s' (t t' : Thread (queueOperations fingerprint)), t ∈ c.threads →
      t.step w c.shared = some (s', t') →
      ∀ id event, c.shared.postgres.outboxEvents.get? id = some event →
        ∃ event', s'.postgres.outboxEvents.get? id = some event' ∧
          event.Dispatched w c.shared.postgres (dispatching t.op t.loc) id event') ∧
    ∀ (k : ℕ) t id, c.threads[k]? = some t → RecordsFailure id (dispatching t.op t.loc) →
      ∃ c₁ w u s' u', Reaches anyStep ⟨s, []⟩ c₁ ∧ c₁.threads[k]? = some u ∧
        AttemptFails w id (dispatching u.op u.loc) ∧ u.step w c₁.shared = some (s', u') ∧
        Reaches anyStep ⟨s', c₁.threads.set k u'⟩ c := by
  have hholds := queueOutline_sound.holds (Outline.holds_idle h) hr
  have hconsistent : c.shared.Consistent := hholds.shared
  refine ⟨hconsistent.published, fun key key' job job' hjob hjob' hdata => ?_,
    fun w s' t t' ht hs id event hevent => ?_, fun k t id ht hfails => ?_⟩
  · obtain ⟨id, event, hevent, hof⟩ := hconsistent.jobs key job hjob
    obtain ⟨id', event', hevent', hof'⟩ := hconsistent.jobs key' job' hjob'
    have hid : id = id' := by simpa [hof.data, hof'.data, jobData] using hdata
    have hjobId : job.jobId = job'.jobId := by rw [hof.jobId, hof'.jobId, hid]
    exact ⟨hjobId, hconsistent.unique key key' job job' hjob hjob' hjobId⟩
  · obtain ⟨l, hl, -⟩ := Thread.step_eq_some hs
    exact dispatched_of_step t.op (hholds.thread t ht) hl hevent
  · obtain ⟨c₁, w, u, s', u', hc₁, hu, -, -, hs, hu', hlater⟩ :=
      exists_entry (J := fun t => RecordsFailure id (dispatching t.op t.loc))
        (fun op request hfails => by cases op <;> exact hfails) hr (by simp) ht hfails
    refine ⟨c₁, w, u, s', u', hc₁, hu, ?_, hs, hlater⟩
    obtain ⟨l, hl, rfl⟩ := Thread.step_eq_some hs
    cases u with
    | mk op l₀ =>
      cases op with
      | dispatchOnce => exact attemptFails_of_step hl hu'
      | createEvent | processJob | retryQueueJob => exact hu'.elim

end

/-! ### Dispatchers that overtake each other -/

abbrev unreadPayloadOperations : QueueOperation → Operation Stores World :=
  queueOperations fun _ => "44136fa355b3678a1146ad16f7e8649e94fb4fc21fe77e8310c060f61caaff8a"

def announcedPayment : Stores where
  postgres := { outboxEvents := ⟨[PaymentService.paymentReceivedEvent 0 0]⟩ }

theorem consistent_announcedPayment : announcedPayment.Consistent where
  published id event hevent hstatus := by
    obtain ⟨-, rfl⟩ := eq_of_get?_singleton hevent
    exact nomatch hstatus
  jobs key job hjob := absurd hjob get?_empty_ne
  unique key key' job job' hjob := absurd hjob get?_empty_ne

/-- A dispatcher that is the thread at the given position claims the event, reads it back and turns
to its queue. -/
def claimAndAdd (position : ℕ) (workerId : String) (now : ℕ) (queueDelivery : Delivery) :
    List (Move unreadPayloadOperations) :=
  [.call .dispatchOnce (⟨workerId, 25, 60⟩ : OutboxDispatcherService.Dispatcher),
    .advance position { now := now }, .advance position { now := now },
    .advance position { now := now },
    .advance position { now := now, queueDelivery := queueDelivery }]

def recordAndFinish (position now : ℕ) : List (Move unreadPayloadOperations) :=
  [.advance position { now := now }, .advance position { now := now }]

/-- Four dispatchers add the event's job, but each is overtaken before it marks the event published;
the queue refuses the fifth one. -/
def overtakenPublications : List (Move unreadPayloadOperations) :=
  claimAndAdd 0 "outbox-1" 0 .acknowledged ++ claimAndAdd 1 "outbox-2" 100000 .acknowledged ++
    recordAndFinish 0 100000 ++ claimAndAdd 2 "outbox-3" 200000 .acknowledged ++
    recordAndFinish 1 200000 ++ claimAndAdd 3 "outbox-4" 300000 .acknowledged ++
    recordAndFinish 2 300000 ++ claimAndAdd 4 "outbox-5" 400000 .refused ++
    recordAndFinish 3 400000 ++ recordAndFinish 4 400000

def failsDelivery : Move unreadPayloadOperations → Bool
  | .call _ _ => false
  | .advance _ w => w.queueDelivery ≠ .acknowledged ∨ w.databaseDelivery ≠ .acknowledged

def overtakenConfig : Config unreadPayloadOperations :=
  Config.after ⟨announcedPayment, []⟩ overtakenPublications (by decide +kernel)

/-- A single attempt has failed, the job is in its queue, and the event is given up. -/
theorem overtaken_publication_fails :
    Config.run ⟨announcedPayment, []⟩ overtakenPublications = some overtakenConfig ∧
      overtakenPublications.countP failsDelivery = 1 ∧
      1 < OutboxDispatcherService.maxPublicationAttempts ∧
      (routeOutboxEvent (PaymentService.paymentReceivedEvent 0 0).eventType).isSome = true ∧
      (overtakenConfig.shared.postgres.outboxEvents.get? 0).map status =
        some .failed ∧
      (overtakenConfig.shared.redis.get? 0).map BackgroundJob.jobId = some (.outbox 0) :=
  ⟨run_eq_after _, by decide +kernel, by decide, by decide, by decide +kernel,
    by decide +kernel⟩

def publishOnce : List (Move unreadPayloadOperations) :=
  claimAndAdd 0 "outbox-1" 0 .acknowledged ++ recordAndFinish 0 0

def publishedConfig : Config unreadPayloadOperations :=
  Config.after ⟨announcedPayment, []⟩ publishOnce (by decide +kernel)

theorem published_with_its_job :
    (publishedConfig.shared.postgres.outboxEvents.get? 0).map status =
      some .published ∧
    ∀ id event, publishedConfig.shared.postgres.outboxEvents.get? id = some event →
      event.status = .published → publishedConfig.shared.HasJob id event :=
  ⟨by decide +kernel, (publication_at_least_once consistent_announcedPayment
    (reaches_anyStep_of_run (run_eq_after
      (show (Config.run ⟨announcedPayment, []⟩ publishOnce).isSome = true by decide +kernel)))).1⟩

end WebhostBilling
