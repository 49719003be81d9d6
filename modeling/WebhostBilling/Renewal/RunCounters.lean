import WebhostBilling.Renewal.DueServices

/-!
# The counters of automation runs

A constraint keeps the successes and failures of a run row together from exceeding what was tried.
When an unexpected error stops a cycle, the run is recorded with at least one failure, which need
not be one that was counted.  The job for a payment records one failed write over whatever number of
successes the row holds.
-/

namespace WebhostBilling

open Store Concurrency

namespace RenewalProcessorService

/-- The counters of a row of `automation_runs`. -/
structure RunCounts where
  processedCount : ℕ := 0
  succeededCount : ℕ := 0
  failedCount : ℕ := 0

/-- `automation_runs_counts_check`. -/
def RunCounts.check (counts : RunCounts) : Prop :=
  counts.succeededCount + counts.failedCount ≤ counts.processedCount
deriving Decidable

section

variable (rt : Runtime) (businessDay : ℕ → ℤ)

/-! ## A cycle -/

def triedWrite (w : World) (db : Database) : CycleState → Option (Option Bool)
  | .createInvoices run now (entry :: _) _ =>
    if leadDatePassed businessDay run.policy now entry.2 then
      some (attempt w.databaseDelivery
        (createRenewalInvoiceTx rt ⟨entry.1, run.automationRunId, now⟩) db).2
    else none
  | .act _ (⟨request, _, action :: _⟩ :: _) _ =>
    (actionTx request w action).map fun tx => (attempt w.databaseDelivery tx db).2
  | _ => none

/-- The run and the counters of a cycle inside the `try` of `processCycle`. -/
def CycleState.tried : CycleState → Option (CycleRun × Counters)
  | .readServices run => some (run, {})
  | .createInvoices run _ _ counters => some (run, counters)
  | .readInvoices run counters => some (run, counters)
  | .act run _ counters => some (run, counters)
  | _ => none

/-- A cycle of a job and how the writes that it tried turned out, in their order.  The database and
the world are whatever they are at each of its steps, and an unexpected error may stop it at any
point. -/
inductive CyclePath (request : CycleRequest) : List (Option Bool) → CycleState → Prop
  | start : CyclePath request [] (.start request)
  | step {writes : List (Option Bool)} {l l' : CycleState} {w : World} {db db' : Database}
      (before : CyclePath request writes l)
      (h : cycleStep rt businessDay w db l = some (db', l')) :
      CyclePath request (writes ++ (triedWrite rt businessDay w db l).toList) l'
  | interrupt {writes : List (Option Bool)} {l : CycleState} {run : CycleRun} {counters : Counters}
      (before : CyclePath request writes l) (h : l.tried = some (run, counters)) :
      CyclePath request writes (.fail run counters)

/-- What `finishRun` writes. -/
def finishedCounts (counters : Counters) : RunCounts :=
  ⟨counters.processed, counters.succeeded, counters.failed⟩

/-- What the `catch` of `processCycle` writes. -/
def interruptedCounts (counters : Counters) : RunCounts :=
  ⟨counters.processed, counters.succeeded, max 1 counters.failed⟩

/-- The counts that a cycle writes at its end. -/
def cycleUpdate : CycleState → Option RunCounts
  | .finish _ counters => some (finishedCounts counters)
  | .fail _ counters => some (interruptedCounts counters)
  | _ => none

def CycleState.interrupted : CycleState → Prop
  | .fail _ _ => True
  | _ => False

/-- The counters of a cycle are the tally of its writes; before its first read it has tried none. -/
def tallied (writes : List (Option Bool)) : CycleState → Prop
  | .start _ | .findRun _ | .readServices _ => writes = []
  | .createInvoices _ _ _ counters | .readInvoices _ counters | .act _ _ counters
  | .finish _ counters | .fail _ counters => writes.foldl Counters.count {} = counters
  | .done _ => True

theorem foldl_count (writes : List (Option Bool)) (counters : Counters) :
    writes.foldl Counters.count counters =
      ⟨counters.processed + writes.length, counters.succeeded + writes.count (some true),
        counters.failed + writes.count none⟩ := by
  induction writes generalizing counters with
  | nil => rfl
  | cons write writes ih =>
    rw [List.foldl_cons, ih]
    obtain _ | _ | _ := write <;> simp [Counters.count] <;> omega

theorem count_add_count_le (writes : List (Option Bool)) :
    writes.count (some true) + writes.count none ≤ writes.length := by
  induction writes with
  | nil => simp
  | cons write writes ih =>
    obtain _ | _ | _ := write <;> simp <;> omega

variable {rt businessDay}
variable {request : CycleRequest} {writes : List (Option Bool)} {l l' : CycleState} {w : World}
  {db db' : Database} {counters : Counters}

theorem cycleStep_tallied (h : cycleStep rt businessDay w db l = some (db', l'))
    (htallied : tallied writes l) :
    tallied (writes ++ (triedWrite rt businessDay w db l).toList) l' := by
  cases l with
  | start request =>
    rw [cycleStep] at h
    split at h <;> cases h
    · simpa [triedWrite, tallied] using htallied
    · trivial
  | findRun run =>
    rw [cycleStep] at h
    split at h
    · cases h
      trivial
    · split at h <;> cases h
      · trivial
      · simpa [triedWrite, tallied] using htallied
  | readServices run =>
    have hnone : writes = [] := htallied
    rw [cycleStep] at h
    split at h <;> cases h <;> simp [triedWrite, tallied, hnone]
  | createInvoices run now services counters =>
    have hcounters : writes.foldl Counters.count {} = counters := htallied
    cases services with
    | nil =>
      cases h
      simpa [triedWrite, tallied] using hcounters
    | cons entry services =>
      cases h
      by_cases hlead : leadDatePassed businessDay run.policy now entry.2
      · simp [triedWrite, tallied, createDueInvoice, hlead, hcounters]
      · simp [triedWrite, tallied, createDueInvoice, hlead, hcounters]
  | readInvoices run counters =>
    have hcounters : writes.foldl Counters.count {} = counters := htallied
    rw [cycleStep] at h
    split at h <;> cases h <;> simp [triedWrite, tallied, hcounters]
  | act run invoices counters =>
    have hcounters : writes.foldl Counters.count {} = counters := htallied
    rcases invoices with _ | ⟨⟨request, dueAt, _ | ⟨action, actions⟩⟩, invoices⟩
    · cases h
      simpa [triedWrite, tallied] using hcounters
    · cases h
      simpa [triedWrite, tallied] using hcounters
    · cases h
      cases htx : actionTx request w action with
      | none => simp [triedWrite, tallied, takeNextAction, htx, hcounters]
      | some tx => simp [triedWrite, tallied, takeNextAction, htx, hcounters]
  | finish run counters =>
    cases h
    trivial
  | fail run counters =>
    cases h
    trivial
  | done result => cases h

theorem CyclePath.tallied (h : CyclePath rt businessDay request writes l) : tallied writes l := by
  induction h with
  | start => rfl
  | step _ h ih => exact cycleStep_tallied h ih
  | @interrupt writes l run counters _ h ih =>
    cases l <;> simp only [CycleState.tried, reduceCtorEq, Option.some.injEq, Prod.mk.injEq] at h
    · obtain ⟨rfl, rfl⟩ := h
      have hnone : writes = [] := ih
      rw [hnone]
      rfl
    all_goals
      obtain ⟨rfl, rfl⟩ := h
      exact ih

theorem finishedCounts_check (writes : List (Option Bool)) :
    (finishedCounts (writes.foldl Counters.count {})).check := by
  have hle := count_add_count_le writes
  rw [foldl_count, finishedCounts, RunCounts.check]
  simpa using hle

theorem interruptedCounts_check_iff (writes : List (Option Bool)) :
    (interruptedCounts (writes.foldl Counters.count {})).check ↔
      ∃ write ∈ writes, write ≠ some true := by
  have hle := count_add_count_le writes
  have hlt : (∃ write ∈ writes, write ≠ some true) ↔ writes.count (some true) < writes.length := by
    constructor
    · rintro ⟨write, hmem, hne⟩
      refine lt_of_le_of_ne List.count_le_length fun hall => hne ?_
      exact (List.count_eq_length.1 hall write hmem).symm
    · intro hlt
      by_contra hall
      push Not at hall
      exact hlt.ne (List.count_eq_length.2 fun write hmem => (hall write hmem).symm)
  rw [hlt, foldl_count, interruptedCounts, RunCounts.check]
  simp only [zero_add]
  omega

end

/-! ## The job for a payment -/

def appliedCounts (processed : ℕ) : RunCounts := ⟨processed, processed, 0⟩

/-- What the `catch` of `processPayment` makes of the row. -/
def unappliedCounts (row : RunCounts) : RunCounts :=
  { row with processedCount := 1, failedCount := 1 }

def appliedChanges (w : World) (db : Database) (processed : ℕ) : PaymentState → ℕ
  | .apply run items => (applyItems run.invoiceId run.automationRunId items w.now db).2
  | _ => processed

/-- The processing of a payment, with what it has applied. -/
inductive PaymentPath (data : BackgroundJobData) : ℕ → PaymentState → Prop
  | start : PaymentPath data 0 (.start data)
  | step {processed : ℕ} {l l' : PaymentState} {w : World} {db db' : Database}
      (before : PaymentPath data processed l) (h : paymentStep w db l = some (db', l')) :
      PaymentPath data (appliedChanges w db processed l) l'

/-- The counts that a payment writes at its end. -/
def paymentUpdate (processed : ℕ) (row : RunCounts) : PaymentState → Option RunCounts
  | .record _ => some (appliedCounts processed)
  | .fail _ => some (unappliedCounts row)
  | _ => none

def PaymentState.failed : PaymentState → Prop
  | .fail _ => True
  | _ => False

theorem paymentUpdate_check_iff {processed : ℕ} {row counts : RunCounts} {l : PaymentState}
    (h : paymentUpdate processed row l = some counts) :
    counts.check ↔ (l.failed → row.succeededCount = 0) := by
  cases l <;> simp only [paymentUpdate, reduceCtorEq, Option.some.injEq] at h
  · subst h
    simp [appliedCounts, RunCounts.check, PaymentState.failed]
  · subst h
    simp [unappliedCounts, RunCounts.check, PaymentState.failed]

/-- **When the counters of a run can be recorded**: those of a cycle unless it was stopped after
nothing but successes, and those of a payment unless a failure follows a recorded success. -/
theorem counters_recorded_iff (rt : Runtime) (businessDay : ℕ → ℤ) :
    (∀ request writes l, CyclePath rt businessDay request writes l →
      ∀ counts, cycleUpdate l = some counts →
        (counts.check ↔ (l.interrupted → ∃ write ∈ writes, write ≠ some true))) ∧
    ∀ data processed l, PaymentPath data processed l →
      ∀ row counts, paymentUpdate processed row l = some counts →
        (counts.check ↔ (l.failed → row.succeededCount = 0)) := by
  refine ⟨?_, fun _ _ _ _ _ _ hupdate => paymentUpdate_check_iff hupdate⟩
  intro request writes l hpath counts hupdate
  have htallied := hpath.tallied
  cases l <;> simp only [cycleUpdate, reduceCtorEq, Option.some.injEq] at hupdate
  case finish run counters =>
    obtain rfl : writes.foldl Counters.count {} = counters := htallied
    rw [← hupdate]
    exact iff_of_true (finishedCounts_check writes) (False.elim ·)
  case fail run counters =>
    obtain rfl : writes.foldl Counters.count {} = counters := htallied
    rw [← hupdate, interruptedCounts_check_iff]
    exact ⟨fun h _ => h, fun h => h trivial⟩

/-- The one invoice of a cycle cannot be created, and then the open invoices cannot be read. -/
theorem failed_write_recorded :
    ∃ run counters counts, CyclePath (Libraries.onPlainText fun moment => toString moment).runtime
        (fun _ => 0) (cycleRequest 0) [none] (.fail run counters) ∧
      cycleUpdate (.fail run counters) = some counts ∧ counts.check := by
  let rt := (Libraries.onPlainText fun moment => toString moment).runtime
  let lost : World := { databaseDelivery := .refused }
  have hstart : CyclePath rt (fun _ => 0) (cycleRequest 0) [] (.start (cycleRequest 0)) := .start
  have hfound : cycleStep rt (fun _ => 0) {} dueDatabase (.start (cycleRequest 0)) =
    some (dueDatabase, .findRun ⟨0, cyclePolicy⟩) := rfl
  have hread : cycleStep rt (fun _ => 0) {} dueDatabase (.findRun ⟨0, cyclePolicy⟩) =
    some (dueDatabase, .readServices ⟨0, cyclePolicy⟩) := rfl
  have hservices : cycleStep rt (fun _ => 0) {} dueDatabase (.readServices ⟨0, cyclePolicy⟩) =
    some (dueDatabase, .createInvoices ⟨0, cyclePolicy⟩ 0 [(2, 0)] {}) := by
    decide +kernel
  have hrefused : cycleStep rt (fun _ => 0) lost dueDatabase
      (.createInvoices ⟨0, cyclePolicy⟩ 0 [(2, 0)] {}) =
    some (dueDatabase, .createInvoices ⟨0, cyclePolicy⟩ 0 [] ⟨1, 0, 1⟩) := by
    decide +kernel
  have hfailed := ((((hstart.step hfound).step hread).step hservices).step hrefused).interrupt rfl
  have hwritten : triedWrite rt (fun _ => 0) lost dueDatabase
      (.createInvoices ⟨0, cyclePolicy⟩ 0 [(2, 0)] {}) = some none := by
    decide +kernel
  rw [hwritten] at hfailed
  refine ⟨_, _, _, hfailed, rfl, ?_⟩
  exact ((counters_recorded_iff _ _).1 _ _ _ hfailed _ rfl).2
    fun _ => ⟨none, List.mem_singleton_self _, nofun⟩

/-- A cycle that cannot read the services has failed once and tried nothing. -/
theorem counters_not_recorded :
    ¬ ∀ request writes l, CyclePath (Libraries.onPlainText fun moment => toString moment).runtime
        (fun _ => 0) request writes l →
      ∀ counts, cycleUpdate l = some counts → counts.check := by
  intro hall
  let rt := (Libraries.onPlainText fun moment => toString moment).runtime
  have hstart : CyclePath rt (fun _ => 0) (cycleRequest 0) [] (.start (cycleRequest 0)) := .start
  have hfound : cycleStep rt (fun _ => 0) {} dueDatabase (.start (cycleRequest 0)) =
    some (dueDatabase, .findRun ⟨0, cyclePolicy⟩) := rfl
  have hread : cycleStep rt (fun _ => 0) {} dueDatabase (.findRun ⟨0, cyclePolicy⟩) =
    some (dueDatabase, .readServices ⟨0, cyclePolicy⟩) := rfl
  have hfailed := ((hstart.step hfound).step hread).interrupt rfl
  exact absurd (hall _ _ _ hfailed _ rfl) (by decide)

end RenewalProcessorService

end WebhostBilling
