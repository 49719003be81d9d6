import Mathlib.Data.List.Sort
import WebhostBilling.Concurrency.Threads
import WebhostBilling.Outbox.BackgroundQueue

/-!
# The outbox dispatcher

A dispatcher claims due events for a limited time, reads them back, and publishes one after another.
Claiming, adding and marking are steps of their own, so a slow dispatcher finds its events claimed
by another one; what it writes then depends on whether the event is still locked under its own name,
and two processes may have the same.
-/

namespace WebhostBilling

open Store Concurrency

namespace OutboxDispatcherService

def maxPublicationAttempts : ℕ := 5

structure Dispatcher where
  workerId : String
  batchSize : ℕ
  lockTimeoutSeconds : ℕ

/-! ## Claiming -/

def claimable (lockCutoff : ℤ) (now : ℕ) (event : OutboxEvent) : Bool :=
  (event.status = .pending ∧ event.availableAt ≤ now) ∨
    (event.status = .processing ∧ ∃ lockedAt ∈ event.lockedAt, (lockedAt : ℤ) < lockCutoff)

def ordered (events : List (RowId × OutboxEvent)) : List (RowId × OutboxEvent) :=
  events.insertionSort fun a b => a.2.availableAt ≤ b.2.availableAt

def candidates (d : Dispatcher) (lockCutoff : ℤ) (w : World) (db : Database) : List RowId :=
  ((ordered (db.outboxEvents.select fun id event =>
    claimable lockCutoff w.now event ∧ id ∉ w.lockedRows)).take d.batchSize).map Prod.fst

def claimedEvent (workerId : String) (now : ℕ) (event : OutboxEvent) : OutboxEvent :=
  { event with
    status := .processing
    attemptCount := event.attemptCount + 1
    lockedAt := some now
    lockedBy := some workerId }

def claimEvents (ids : List RowId) (workerId : String) (now : ℕ) (db : Database) : Database :=
  { db with
    outboxEvents := db.outboxEvents.updateWhere (fun id _ => id ∈ ids) (claimedEvent workerId now) }

def readEvents (ids : List RowId) (db : Database) : List (RowId × OutboxEvent) :=
  ordered (db.outboxEvents.select fun id _ => id ∈ ids)

/-! ## Publishing -/

def held (workerId : String) (event : OutboxEvent) : Prop :=
  event.status = .processing ∧ event.lockedBy = some workerId
deriving Decidable

def updateHeld (id : RowId) (workerId : String) (f : OutboxEvent → OutboxEvent) (db : Database) :
    Database :=
  { db with
    outboxEvents := db.outboxEvents.update id fun event =>
      if held workerId event then f event else event }

def publishedEvent (now : ℕ) (event : OutboxEvent) : OutboxEvent :=
  { event with
    status := .published
    publishedAt := some now
    lockedAt := none
    lockedBy := none
    lastError := none }

/-- What `failPermanently` writes. -/
def unroutableEvent (event : OutboxEvent) : OutboxEvent :=
  { event with
    status := .failed
    lockedAt := none
    lockedBy := none
    lastError := some "OUTBOX_EVENT_UNROUTABLE" }

/-- What `publicationFailed` writes, after an attempt on the event as `claimed` was read back. -/
def failedPublication (claimed : OutboxEvent) (now : ℕ) (event : OutboxEvent) : OutboxEvent :=
  { event with
    status := if maxPublicationAttempts ≤ claimed.attemptCount then .failed else .pending
    availableAt := now + min 300000 (2000 * 2 ^ (claimed.attemptCount - 1))
    lockedAt := none
    lockedBy := none
    lastError := some (if maxPublicationAttempts ≤ claimed.attemptCount then
      "OUTBOX_PUBLICATION_ATTEMPTS_EXHAUSTED"
      else "OUTBOX_PUBLICATION_TEMPORARILY_UNAVAILABLE") }

/-! ## One cycle -/

/-- How far a cycle is; the events of `publish`, `mark` and `fail` are as they were read back. -/
inductive DispatchState
  | start (d : Dispatcher)
  | claim (d : Dispatcher) (lockCutoff : ℤ)
  | read (d : Dispatcher) (ids : List RowId)
  | publish (d : Dispatcher) (events : List (RowId × OutboxEvent))
  | mark (d : Dispatcher) (event : RowId × OutboxEvent) (rest : List (RowId × OutboxEvent))
  | fail (d : Dispatcher) (event : RowId × OutboxEvent) (rest : List (RowId × OutboxEvent))
  | done

def deliver {α : Type} (delivery : Delivery) (f : α → α) (a : α) : α :=
  if delivery.carriedOut then f a else a

def writeEvent (d : Dispatcher) (w : World) (id : RowId) (f : OutboxEvent → OutboxEvent)
    (s : Stores) : Stores :=
  { s with postgres := deliver w.databaseDelivery (updateHeld id d.workerId f) s.postgres }

def addEventJob (w : World) (route : OutboxQueueRoute) (event : RowId × OutboxEvent)
    (s : Stores) : Stores :=
  { s with redis := deliver w.queueDelivery (addOutboxJob route event.1 event.2) s.redis }

/-- An error of `failPermanently` or `publicationFailed` ends the cycle; one of the publication
itself is recorded. -/
def dispatchStep (w : World) (s : Stores) : DispatchState → Option (Stores × DispatchState)
  | .start d => some (s, .claim d (w.now - d.lockTimeoutSeconds * 1000))
  | .claim d lockCutoff =>
    let ids := candidates d lockCutoff w s.postgres
    some ({ s with postgres := claimEvents ids d.workerId w.now s.postgres },
      if ids = [] then .done else .read d ids)
  | .read d ids => some (s, .publish d (readEvents ids s.postgres))
  | .publish _ [] => some (s, .done)
  | .publish d (event :: rest) =>
    match routeOutboxEvent event.2.eventType with
    | none => some (writeEvent d w event.1 unroutableEvent s,
        if w.databaseDelivery = .acknowledged then .publish d rest else .done)
    | some route => some (addEventJob w route event s,
        if w.queueDelivery = .acknowledged then .mark d event rest else .fail d event rest)
  | .mark d event rest => some (writeEvent d w event.1 (publishedEvent w.now) s,
      if w.databaseDelivery = .acknowledged then .publish d rest else .fail d event rest)
  | .fail d event rest => some (writeEvent d w event.1 (failedPublication event.2 w.now) s,
      if w.databaseDelivery = .acknowledged then .publish d rest else .done)
  | .done => none

/-- `OutboxDispatcherService.dispatchOnce`. -/
def dispatchOnce : Operation Stores World where
  Request := Dispatcher
  Local := DispatchState
  start := .start
  step := dispatchStep

/-! ## What is read and claimed -/

variable {event : RowId × OutboxEvent} {lockCutoff : ℤ} {w : World} {db : Database}

theorem mem_ordered {events : List (RowId × OutboxEvent)} :
    event ∈ ordered events ↔ event ∈ events :=
  List.mem_insertionSort _

theorem claimable_of_mem_candidates {d : Dispatcher} {id : RowId}
    (h : id ∈ candidates d lockCutoff w db) :
    ∃ event, db.outboxEvents.get? id = some event ∧
      claimable lockCutoff w.now event = true := by
  rw [candidates, List.mem_map] at h
  obtain ⟨⟨i, event⟩, hmem, rfl⟩ := h
  have hselected := mem_ordered.1 (List.mem_of_mem_take hmem)
  obtain ⟨hevent, hdue⟩ := Table.mem_select.1 hselected
  rw [decide_eq_true_eq] at hdue
  exact ⟨event, hevent, hdue.1⟩

theorem status_of_claimable {now : ℕ} {event : OutboxEvent}
    (h : claimable lockCutoff now event = true) :
    event.status = .pending ∨ event.status = .processing := by
  rw [claimable, decide_eq_true_eq] at h
  exact h.imp And.left And.left

theorem get?_of_mem_readEvents {ids : List RowId} (h : event ∈ readEvents ids db) :
    db.outboxEvents.get? event.1 = some event.2 :=
  (Table.mem_select.1 (mem_ordered.1 h)).1

theorem deliver_cases {α : Type} (delivery : Delivery) (f : α → α) (a : α) :
    deliver delivery f a = a ∨ deliver delivery f a = f a := by
  rw [deliver]
  by_cases h : delivery.carriedOut
  · exact .inr (if_pos h)
  · exact .inl (if_neg h)

theorem deliver_of_acknowledged {α : Type} {delivery : Delivery} (f : α → α) (a : α)
    (h : delivery = .acknowledged) : deliver delivery f a = f a := by
  rw [deliver, h]
  exact if_pos rfl

theorem dispatchStep_writes {s s' : Stores} {l l' : DispatchState}
    (h : dispatchStep w s l = some (s', l')) :
    ∃ events, s'.postgres = { s.postgres with outboxEvents := events } := by
  have hsame : ∃ events, s.postgres = { s.postgres with outboxEvents := events } := ⟨_, rfl⟩
  have hwrite : ∀ d id f, ∃ events, (writeEvent d w id f s).postgres =
      { s.postgres with outboxEvents := events } := by
    intro d id f
    rcases deliver_cases w.databaseDelivery (updateHeld id d.workerId f) s.postgres with
      hnone | hsome
    · rw [writeEvent, hnone]
      exact hsame
    · rw [writeEvent, hsome]
      exact ⟨_, rfl⟩
  cases l with
  | start d => cases h; exact hsame
  | claim d lockCutoff => cases h; exact ⟨_, rfl⟩
  | read d ids => cases h; exact hsame
  | publish d events =>
    cases events with
    | nil => cases h; exact hsame
    | cons event rest =>
      rw [dispatchStep] at h
      split at h
      · cases h; exact hwrite d event.1 unroutableEvent
      · cases h; exact hsame
  | mark d event rest => cases h; exact hwrite d event.1 (publishedEvent w.now)
  | fail d event rest => cases h; exact hwrite d event.1 (failedPublication event.2 w.now)
  | done => cases h

end OutboxDispatcherService

end WebhostBilling
