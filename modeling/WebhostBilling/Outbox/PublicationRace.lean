import WebhostBilling.Outbox.Publication

/-!
# The publication race

A job can be taken as soon as its queue has it, which is before the dispatcher marks the event
published.  The renewal consumer takes an event that is not published yet for a temporary problem;
the hosting automation takes it for an invalid reference and fails its job for good.
-/

namespace WebhostBilling

open Store Store.Table Concurrency Config OutboxDispatcherService HostingAutomationService

/-! ## Hosting events -/

def OutboxEvent.hostingPayload (event : OutboxEvent) :
    Option AutomationPayload :=
  match action event.eventType with
  | .ok _ => (parsePayload event.eventType event.payload).filter
      fun payload => payload.serviceId = event.aggregateId
  | .error _ => none

/-- A suspension, unsuspension or cancellation event that names its service. -/
def OutboxEvent.WellFormed (event : OutboxEvent) : Prop :=
  event.aggregateType = .service ∧ event.hostingPayload.isSome = true
deriving Decidable

theorem OutboxEvent.Later.wellFormed_iff {event event' : OutboxEvent} (h : event.Later event') :
    event'.WellFormed ↔ event.WellFormed := by
  rw [WellFormed, WellFormed, hostingPayload, hostingPayload, h.aggregateType, h.aggregateId,
    h.eventType, h.payload]

/-! ## Jobs that are lost -/

/-- No job of a well-formed hosting event has failed for good while the publication of the event is
still going on. -/
def NeverLost (s : Stores) : Prop :=
  ∀ key job id event, s.redis.get? key = some job → s.postgres.outboxEvents.get? id = some event →
    job.Of id event → event.WellFormed → event.unpublished → job.failureKind ≠ some .permanent

/-- The job at a position belongs to an event that is malformed, or whose publication is over. -/
def Settled (s : Stores) (key : RowId) : Prop :=
  ∃ job id event, s.redis.get? key = some job ∧ s.postgres.outboxEvents.get? id = some event ∧
    job.Of id event ∧ (event.WellFormed → ¬ event.unpublished)

variable {s s' : Stores}

theorem Settled.advance {key : RowId} (h : Settled s key) (hs : s.Advances s') :
    Settled s' key := by
  obtain ⟨job, id, event, hjob, hevent, hof, hsettled⟩ := h
  obtain ⟨job', hjob', hsame⟩ := hs.jobs key job hjob
  obtain ⟨event', hevent', hlater⟩ := hs.events id event hevent
  refine ⟨job', id, event', hjob', hevent', hof.later hlater hsame, fun hformed => ?_⟩
  have hclosed := hsettled (hlater.wellFormed_iff.1 hformed)
  rwa [OutboxEvent.unpublished, hlater.settled hclosed]

def PermanentSettled (s : Stores) : Prop :=
  ∀ key job, s.redis.get? key = some job → job.failureKind = some .permanent → Settled s key

theorem permanentSettled_of_neverLost (hconsistent : s.Consistent) (h : NeverLost s) :
    PermanentSettled s := by
  intro key job hjob hpermanent
  obtain ⟨id, event, hevent, hof⟩ := hconsistent.jobs key job hjob
  exact ⟨job, id, event, hjob, hevent, hof, fun hformed hopen =>
    h key job id event hjob hevent hof hformed hopen hpermanent⟩

theorem neverLost_of_permanentSettled (h : PermanentSettled s) : NeverLost s := by
  intro key job id event hjob hevent hof hformed hopen hpermanent
  obtain ⟨job', id', event', hjob', hevent', hof', hsettled⟩ := h key job hjob hpermanent
  obtain rfl := Option.mem_unique hjob hjob'
  obtain rfl : id = id' := BackgroundJobId.outbox.inj (hof.jobId.symm.trans hof'.jobId)
  rw [hevent, Option.some.injEq] at hevent'
  exact hsettled (hevent' ▸ hformed) (hevent' ▸ hopen)

theorem PermanentSettled.step (h : PermanentSettled s) (hs : s.Advances s')
    (hold : ∀ key job', s'.redis.get? key = some job' → job'.failureKind = some .permanent →
      Settled s key ∨ ∃ job, s.redis.get? key = some job ∧ job.failureKind = some .permanent) :
    PermanentSettled s' := by
  intro key job' hjob' hpermanent
  rcases hold key job' hjob' hpermanent with hsettled | ⟨job, hjob, hjobPermanent⟩
  · exact hsettled.advance hs
  · exact (h key job hjob hjobPermanent).advance hs

/-! ## Runs in which consumers come second -/

section

variable {fingerprint : AutomationPayload → String}

def lookup : (op : QueueOperation) → (queueOperations fingerprint op).Local →
    Option BackgroundJobData
  | .processJob, .handle _ (.start data) => some data
  | _, _ => none

/-- A consumer that looks up a well-formed hosting event finds its publication over. -/
def PublishedFirst (_ : World) (s : Stores) (t : Thread (queueOperations fingerprint)) : Prop :=
  ∀ data ∈ lookup t.op t.loc, ∀ event ∈ s.postgres.outboxEvents.get? data.outboxEventId,
    event.WellFormed → ¬ event.unpublished
deriving Decidable

/-- What a worker may rely on: it has the data of its job, and once it has looked its event up, the
job is settled. -/
def workerAssertion (s : Stores) : BackgroundWorker.WorkerState → Prop
  | .handle key (.start data) =>
    (∃ job, s.redis.get? key = some job ∧ job.data = data) ∨ Settled s key
  | .handle key _ => Settled s key
  | _ => True

variable {w : World}

theorem workerAssertion_advance (hs : s.Advances s')
    {l : BackgroundWorker.WorkerState} (h : workerAssertion s l) : workerAssertion s' l := by
  unfold workerAssertion at h ⊢
  split at h
  · rcases h with ⟨job, hjob, hdata⟩ | hsettled
    · obtain ⟨job', hjob', hsame⟩ := hs.jobs _ job hjob
      exact .inl ⟨job', hjob', hsame.2.2.2.trans hdata⟩
    · exact .inr (hsettled.advance hs)
  · exact h.advance hs
  · trivial

theorem workerAssertion_of_settled {key : RowId} (h : Settled s key)
    (run : AutomationState) : workerAssertion s (.handle key run) := by
  unfold workerAssertion
  split
  · rename_i heq
    cases heq
    exact .inr h
  · rename_i heq
    cases heq
    exact h
  · trivial

theorem settled_of_run {key : RowId}
    {run : AutomationState} (hconsistent : s.Consistent)
    (hfirst : PublishedFirst w s
      (⟨.processJob, .handle key run⟩ : Thread (queueOperations fingerprint)))
    (h : workerAssertion s (.handle key run)) : Settled s key := by
  unfold workerAssertion at h
  split at h
  · rename_i data heq
    cases heq
    rcases h with ⟨job, hjob, rfl⟩ | hsettled
    · obtain ⟨id, event, hevent, hof⟩ := hconsistent.jobs key job hjob
      refine ⟨job, id, event, hjob, hevent, hof, hfirst job.data rfl event ?_⟩
      rw [hof.data]
      exact hevent
    · exact hsettled
  · rename_i heq
    cases heq
    exact h
  · rename_i hhandle
    exact absurd rfl (hhandle key run)

theorem permanentSettled_work {l l' : BackgroundWorker.WorkerState}
    (hconsistent : s.Consistent) (h : PermanentSettled s)
    (hfirst : PublishedFirst w s (⟨.processJob, l⟩ : Thread (queueOperations fingerprint)))
    (hl : workerAssertion s l) (hstep : BackgroundWorker.Works fingerprint w s l s' l') :
    PermanentSettled s' ∧ workerAssertion s' l' := by
  have hs := (steps_work hconsistent hstep).advances
  cases hstep with
  | idle => exact ⟨h, trivial⟩
  | @take key job hjob hqueue =>
    refine ⟨h.step hs fun k job' hjob' hpermanent => ?_, .inl ?_⟩
    · rcases get?_update_cases hjob' with ⟨rfl, job, hjob, rfl⟩ | ⟨-, hjob⟩
      · exact .inr ⟨job, hjob, hpermanent⟩
      · exact .inr ⟨job', hjob, hpermanent⟩
    · exact ⟨_, get?_update_self hjob, rfl⟩
  | @settle key result =>
    refine ⟨h.step hs fun k job' hjob' hpermanent => ?_, trivial⟩
    rcases get?_update_cases hjob' with ⟨rfl, job, hjob, rfl⟩ | ⟨-, hjob⟩
    · exact .inl (settled_of_run hconsistent hfirst hl)
    · exact .inr ⟨job', hjob, hpermanent⟩
  | run hrun =>
    refine ⟨h.step hs fun k job' hjob' hpermanent => .inr ⟨job', hjob', hpermanent⟩, ?_⟩
    exact workerAssertion_of_settled ((settled_of_run hconsistent hfirst hl).advance hs) _

theorem dispatchStep_redis {l l' : DispatchState} (h : dispatchStep w s l = some (s', l')) :
    s'.redis = s.redis ∨ ∃ route id event, s'.redis = addOutboxJob route id event s.redis := by
  unfold dispatchStep at h
  split at h
  · cases h; exact .inl rfl
  · cases h; exact .inl rfl
  · cases h; exact .inl rfl
  · cases h; exact .inl rfl
  · split at h
    · cases h; exact .inl rfl
    · rename_i event _ _ route _
      cases h
      exact (deliver_cases w.queueDelivery (addOutboxJob route event.1 event.2) s.redis).imp_right
        fun hadd => ⟨route, event.1, event.2, hadd⟩
  · cases h; exact .inl rfl
  · cases h; exact .inl rfl
  · cases h

theorem permanentSettled_dispatch {l l' : DispatchState}
    (h : PermanentSettled s) (hs : s.Advances s')
    (hstep : dispatchStep w s l = some (s', l')) : PermanentSettled s' := by
  refine h.step hs fun key job' hjob' hpermanent => .inr ?_
  rcases dispatchStep_redis hstep with hsame | ⟨route, id, event, hadd⟩
  · exact ⟨job', hsame ▸ hjob', hpermanent⟩
  · rw [hadd, addOutboxJob] at hjob'
    rcases addJob_cases (outboxJob route id event) s.redis with ⟨hsame, -⟩ | ⟨hinsert, -⟩
    · exact ⟨job', hsame ▸ hjob', hpermanent⟩
    · rw [hinsert] at hjob'
      rcases get?_insert_cases hjob' with ⟨-, rfl⟩ | hjob
      · cases hpermanent
      · exact ⟨job', hjob, hpermanent⟩

def raceAssertion (s : Stores) :
    (op : QueueOperation) → (queueOperations fingerprint op).Local → Prop
  | .processJob, l => workerAssertion s l
  | .dispatchOnce, l => dispatchAssertion s l
  | _, _ => True

theorem queueAssertion_of_raceAssertion {op : QueueOperation}
    {l : (queueOperations fingerprint op).Local} (h : raceAssertion s op l) :
    queueAssertion s op l := by
  cases op with
  | dispatchOnce => exact h
  | createEvent | processJob | retryQueueJob => trivial

theorem permanentSettled_step (hconsistent : s.Consistent)
    (h : PermanentSettled s) (op : QueueOperation)
    {l l' : (queueOperations fingerprint op).Local} (hl : raceAssertion s op l)
    (hfirst : PublishedFirst w s (⟨op, l⟩ : Thread (queueOperations fingerprint)))
    (hstep : (queueOperations fingerprint op).step w s l = some (s', l')) :
    PermanentSettled s' ∧ raceAssertion s' op l' := by
  obtain ⟨hsteps, hassert⟩ :=
    steps_of_step hconsistent op (queueAssertion_of_raceAssertion hl) hstep
  cases op with
  | createEvent =>
    obtain ⟨hredis, -⟩ := createEventStep_cases (w := w) hstep
    exact ⟨h.step hsteps.advances fun key job' hjob' hpermanent =>
      Or.inr ⟨job', hredis ▸ hjob', hpermanent⟩, trivial⟩
  | dispatchOnce => exact ⟨permanentSettled_dispatch h hsteps.advances hstep, hassert⟩
  | processJob =>
    exact permanentSettled_work hconsistent h hfirst hl
      (BackgroundWorker.workerStep_cases _ hstep)
  | retryQueueJob =>
    refine ⟨h.step hsteps.advances fun key job' hjob' hpermanent => .inr ?_, trivial⟩
    rcases BackgroundJobService.retryStep_cases (w := w) hstep with rfl | ⟨jobKey, rfl⟩
    · exact ⟨job', hjob', hpermanent⟩
    · rcases get?_update_cases hjob' with ⟨rfl, job, hjob, rfl⟩ | ⟨-, hjob⟩
      · exact ⟨job, hjob, hpermanent⟩
      · exact ⟨job', hjob, hpermanent⟩

def raceOutline : Outline (queueOperations fingerprint) where
  shared s := s.Consistent ∧ PermanentSettled s
  thread s t := raceAssertion s t.op t.loc

theorem raceOutline_sound : (@raceOutline fingerprint).Sound PublishedFirst where
  symm _ _ h := h
  call _ op _ _ := by cases op <;> trivial
  call_apart _ _ _ := trivial
  own w s t s' t' hfirst hshared hthread hstep := by
    obtain ⟨l, hl, rfl⟩ := Thread.step_eq_some hstep
    obtain ⟨hsettled, hassert⟩ :=
      permanentSettled_step hshared.1 hshared.2 t.op hthread hfirst hl
    have hsteps := (steps_of_step hshared.1 t.op (queueAssertion_of_raceAssertion hthread) hl).1
    exact ⟨⟨hsteps.consistent, hsettled⟩, hassert⟩
  other w s t s' t' u _ hshared hthread hu _ hstep := by
    obtain ⟨l, hl, rfl⟩ := Thread.step_eq_some hstep
    have hs := (steps_of_step hshared.1 t.op (queueAssertion_of_raceAssertion hthread) hl).1.advances
    obtain ⟨op, lu⟩ := u
    cases op with
    | processJob => exact ⟨workerAssertion_advance hs hu, trivial⟩
    | dispatchOnce => exact ⟨dispatchAssertion_advance hs hu, trivial⟩
    | createEvent | retryQueueJob => exact ⟨trivial, trivial⟩

/-- **No hosting event is lost to the race** in a run whose consumers look their events up only
after the publication. -/
theorem hosting_event_never_lost {s : Stores} (hconsistent : s.Consistent) (h : NeverLost s)
    {c : Config (queueOperations fingerprint)} (hr : Reaches PublishedFirst ⟨s, []⟩ c) :
    NeverLost c.shared :=
  neverLost_of_permanentSettled (raceOutline_sound.holds
    (Outline.holds_idle ⟨hconsistent, permanentSettled_of_neverLost hconsistent h⟩) hr).shared.2

end

/-! ### A consumer that comes first -/

def requestedUnsuspension : Stores where
  postgres := {
    servers := ⟨[{ adapterKey := "cpanel-whm" }]⟩
    services := ⟨[{
      customerId := 0, serverId := 0, status := .suspended, suspensionInvoiceId := some 0
      currency := "BDT", startedAt := 0, nextDueAt := 40, updatedAt := 0 }]⟩
    automationRuns := ⟨[{ idempotencyKey := .renewalPayment 0 }]⟩
    outboxEvents := ⟨[{
      aggregateType := .service, aggregateId := 0, eventType := .hostingUnsuspensionRequested
      idempotencyKey := .automationUnsuspend 0 0, payload := .hostingAutomation 0 0 0 }]⟩ }

theorem consistent_requestedUnsuspension : requestedUnsuspension.Consistent where
  published id event hevent hstatus := by
    obtain ⟨-, rfl⟩ := eq_of_get?_singleton hevent
    exact nomatch hstatus
  jobs key job hjob := absurd hjob get?_empty_ne
  unique key key' job job' hjob := absurd hjob get?_empty_ne

/-- The job is taken between its addition and the mark, and its run ends at once. -/
def consumeEarly : List (Move unreadPayloadOperations) :=
  claimAndAdd 0 "outbox-1" 0 .acknowledged ++
    [.call .processJob (0 : RowId), .advance 1 {}, .advance 1 {}, .advance 1 {}]

/-- The event is marked published, and an administrator tries to have the job run again. -/
def publishAndRetry : List (Move unreadPayloadOperations) :=
  recordAndFinish 0 0 ++ [.call .retryQueueJob
    (⟨.hostingUnsuspension, .outbox 0⟩ : BackgroundJobService.RetryQueueJobRequest),
    .advance 2 {}]

def lostConfig : Config unreadPayloadOperations :=
  Config.after ⟨requestedUnsuspension, []⟩ consumeEarly (by decide +kernel)

def publishedTooLateConfig : Config unreadPayloadOperations :=
  lostConfig.after publishAndRetry (by decide +kernel)

/-- The job of an event that is still being published has failed for good: it stays failed after the
publication, whatever the administrator tries. -/
theorem race_fails_for_good :
    Config.run ⟨requestedUnsuspension, []⟩ consumeEarly = some lostConfig ∧
      ¬ NeverLost lostConfig.shared ∧
      Config.run lostConfig publishAndRetry = some publishedTooLateConfig ∧
      (publishedTooLateConfig.shared.postgres.outboxEvents.get? 0).map OutboxEvent.status =
        some .published ∧
      (publishedTooLateConfig.shared.redis.get? 0).map
        (fun job => (job.state, job.failureCode, job.manualRetryAllowed)) =
        some (.failed, some "HOSTING_AUTOMATION_OUTBOX_REFERENCE_INVALID", false) := by
  refine ⟨run_eq_after _, fun hnever => ?_, run_eq_after _, by decide +kernel,
    by decide +kernel⟩
  have hjob : (lostConfig.shared.redis.get? 0).map BackgroundJob.failureKind =
      some (some .permanent) := by decide +kernel
  have hevent : (lostConfig.shared.postgres.outboxEvents.get? 0).map
      (fun event => decide (event.WellFormed ∧ event.unpublished)) = some true := by decide +kernel
  have hdata : (lostConfig.shared.redis.get? 0).map
      (fun job => (job.jobId, job.data, job.queueName, job.jobName)) =
      (lostConfig.shared.postgres.outboxEvents.get? 0).map fun event =>
        (.outbox 0, jobData 0 event, .hostingUnsuspension, "unsuspend-hosting") := by decide +kernel
  have hroute : (lostConfig.shared.postgres.outboxEvents.get? 0).map OutboxEvent.eventType =
      some .hostingUnsuspensionRequested := by decide +kernel
  obtain ⟨job, hget, hkind⟩ := Option.map_eq_some_iff.1 hjob
  obtain ⟨event, hgetEvent, hopen⟩ := Option.map_eq_some_iff.1 hevent
  rw [decide_eq_true_eq] at hopen
  rw [hget, hgetEvent, Option.map_some, Option.map_some, Option.some.injEq] at hdata
  rw [hgetEvent, Option.map_some, Option.some.injEq] at hroute
  simp only [Prod.mk.injEq] at hdata
  obtain ⟨hid, hjobData, hqueue, hname⟩ := hdata
  refine hnever 0 job 0 event hget hgetEvent ⟨hid, hjobData, ?_⟩ hopen.1 hopen.2 hkind
  rw [hroute, hqueue, hname]
  rfl

def consumePublished : List (Move unreadPayloadOperations) :=
  claimAndAdd 0 "outbox-1" 0 .acknowledged ++ recordAndFinish 0 0 ++
    [.call .processJob (0 : RowId), .advance 1 {}, .advance 1 {}, .advance 1 {}]

def startedConfig : Config unreadPayloadOperations :=
  Config.after ⟨requestedUnsuspension, []⟩ consumePublished (by decide +kernel)

theorem never_lost_after_publication :
    (startedConfig.shared.postgres.operations.get? 0).map HostingPanelOperation.status =
      some .running ∧ NeverLost startedConfig.shared :=
  ⟨by decide +kernel, hosting_event_never_lost consistent_requestedUnsuspension
    (fun key job id event hjob _ _ _ _ => absurd hjob get?_empty_ne)
    (reaches_of_run (run_eq_after
      (show (Config.run ⟨requestedUnsuspension, []⟩ consumePublished).isSome = true by
        decide +kernel)) (by decide +kernel))⟩

end WebhostBilling
