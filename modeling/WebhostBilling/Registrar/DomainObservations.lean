import WebhostBilling.Registrar.DomainActions
import WebhostBilling.Registrar.ManagementSteps

/-!
# Whether what is recorded of a domain can go back

Every read of a registrar is stamped with the clock.  What is recorded goes back when a call records
a read that was `overtaken`: since it was made, another call has read the domain and has already
recorded that later read.  A refresh does not look at what the domain shows when it writes, and an
execution looks only at whether its own action has succeeded.
-/

namespace WebhostBilling

open Store Concurrency Config RegistrarProcessor DomainService DomainLifecycleService

variable {settings : RegistrarSettings} {w : World}

/-! ## The order of reads and writes -/

abbrev ManagedState := ManagedDatabase × List ManagementEvent

def readStamp : ManagementEvent → Option ℕ
  | .read _ observedAt => some observedAt
  | _ => none

def storedAt (domainId : RowId) (observedAt : ℕ) : ManagementEvent → Bool
  | .stored id management _ => id == domainId && management.observedAt == observedAt
  | _ => false

def overtaken (trace : List ManagementEvent) (domainId : RowId) (observedAt : ℕ) : Bool :=
  (since (.read domainId observedAt) trace).any fun
    | .read id later => id == domainId && trace.any (storedAt domainId later)
    | _ => false

def Ticks (w : World) (s : ManagedState) (t : Thread (tracedManagement settings)) : Prop :=
  (readDomain w t.op t.loc.1).isSome → s.1.clock < w.now

def InOrder (s : ManagedState) (t : Thread (tracedManagement settings)) : Prop :=
  ∀ entry ∈ recordedState s.1.database t.op t.loc.1, overtaken s.2 entry.1 t.loc.2 = false

/-- What a domain shows is what its snapshot says. -/
def Shown (db : Database) (id : RowId) (management : DomainManagement) : Prop :=
  ∃ domain, db.domains.get? id = some domain ∧ domain.expiresAt = some management.expiresAt ∧
    domain.verification = management.verification

/-- A database before any call: its snapshots were observed in the past, and are what the domains
show. -/
def ManagedDatabase.Consistent (start : ManagedDatabase) : Prop :=
  ∀ id management, start.snapshots id = some management →
    management.observedAt ≤ start.clock ∧ Shown start.database id management

/-- Something was recorded of a domain, observed at a moment or later. -/
def ObservedSince (s : ManagedDatabase) (id : RowId) (observedAt : ℕ) : Prop :=
  ∃ management, s.snapshots id = some management ∧ observedAt ≤ management.observedAt

/-- The action had succeeded at the start. -/
def SucceededBefore (start : ManagedDatabase) (id : RowId) : Prop :=
  ∃ action, start.database.domainActions.get? id = some action ∧ action.state = .succeeded

/-- **The snapshots and the trace agree**, in a run from `start`. -/
structure Observations (start : ManagedDatabase) (s : ManagedState) : Prop where
  clock : start.clock ≤ s.1.clock
  sorted : (s.2.filterMap readStamp).Pairwise (· < ·)
  stamps : ∀ t ∈ s.2.filterMap readStamp, start.clock < t ∧ t ≤ s.1.clock
  shown : ∀ id management, s.1.snapshots id = some management → Shown s.1.database id management
  traced : ∀ id management, s.1.snapshots id = some management →
    management.observedAt ≤ start.clock ∨ .read id management.observedAt ∈ s.2 ∧
      ∃ replaced, .stored id management replaced ∈ s.2
  stored : ∀ id management replaced, .stored id management (some replaced) ∈ s.2 →
    replaced.observedAt ≤ management.observedAt
  confirmed : ∀ actionId id observedAt, .confirmed actionId id observedAt ∈ s.2 →
    .read id observedAt ∈ s.2 ∧ ObservedSince s.1 id observedAt
  succeeded : ∀ id action, s.1.database.domainActions.get? id = some action →
    action.state = .succeeded → SucceededBefore start id ∨
      ∃ observedAt, .confirmed id action.domainId observedAt ∈ s.2

/-- What a call relies on: the trace has the read whose answer it holds, and its action is one of
its domain. -/
structure CallHolds (s : ManagedState) {kind : ManagementKind}
    (l : ManagementLocal settings kind × ℕ) : Prop where
  held : ∀ id, heldDomain kind l.1 = some id → .read id l.2 ∈ s.2
  located : ∀ input, locatedRequest kind l.1 = some input → OfDomain s.1.database input

theorem overtaken_of_lt {trace : List ManagementEvent} {id : RowId} {t : ℕ}
    {management : DomainManagement} {replaced : Option DomainManagement}
    (hsorted : (trace.filterMap readStamp).Pairwise (· < ·)) (hread : .read id t ∈ trace)
    (hlater : .read id management.observedAt ∈ trace)
    (hstored : .stored id management replaced ∈ trace) (hlt : t < management.observedAt) :
    overtaken trace id t = true := by
  obtain ⟨before, htrace⟩ := eq_append_since hread
  refine List.any_eq_true.2 ⟨.read id management.observedAt, ?_, ?_⟩
  · exact mem_after_of_lt htrace hsorted rfl rfl hlt hlater
  · refine Bool.and_eq_true_iff.2 ⟨beq_self_eq_true id, List.any_eq_true.2 ⟨_, hstored, ?_⟩⟩
    exact Bool.and_eq_true_iff.2 ⟨beq_self_eq_true id, beq_self_eq_true _⟩

theorem Observations.le_of_not_overtaken {start : ManagedDatabase} {s : ManagedState}
    (h : Observations start s) {id : RowId} {t : ℕ} {old : DomainManagement}
    (hold : s.1.snapshots id = some old) (hread : .read id t ∈ s.2)
    (horder : overtaken s.2 id t = false) : old.observedAt ≤ t := by
  have hstart := (h.stamps t (List.mem_filterMap.2 ⟨_, hread, rfl⟩)).1
  rcases h.traced id old hold with hpast | ⟨hlater, replaced, hstored⟩
  · omega
  · refine Nat.le_of_not_lt fun hlt => ?_
    rw [overtaken_of_lt h.sorted hread hlater hstored hlt] at horder
    cases horder

/-! ## What a step keeps -/

section

variable {s s' : ManagedState} {kind : ManagementKind} {l l' : ManagementLocal settings kind × ℕ}

/-- **What a step does**: a step of the operation, which records what it has to and notes it. -/
structure ManagedStep (w : World) (s s' : ManagedState) (l l' : ManagementLocal settings kind × ℕ) :
    Prop where
  step : (registrarOperations settings kind.registrar).step w s.1.database l.1 =
    some (s'.1.database, l'.1)
  snapshots : s'.1.snapshots =
    snapshotsAfter s.1.snapshots l.2 (recordedState s.1.database kind l.1)
  clock : s'.1.clock = readAt w.now (readDomain w kind l.1) s.1.clock
  moment : l'.2 = readAt w.now (readDomain w kind l.1) l.2
  trace : s'.2 = s.2 ++ managementEvents kind w s.1 l

theorem managedStep_of_step
    (h : (tracedManagement settings kind).step w s l = some (s', l')) :
    ManagedStep w s s' l l' := by
  obtain ⟨managed', trace'⟩ := s'
  obtain ⟨local', moment'⟩ := l'
  obtain ⟨hmanaged, htrace⟩ := Operation.traced_step h
  obtain ⟨⟨db', next⟩, hstep, rfl, hlocal⟩ := map_eq_some_pair.1 hmanaged
  obtain ⟨rfl, rfl⟩ := Prod.mk.inj hlocal
  exact ⟨hstep, rfl, rfl, rfl, htrace⟩

namespace ManagedStep

variable {start : ManagedDatabase}

theorem stamps_events (kind : ManagementKind) (l : ManagementLocal settings kind × ℕ)
    (w : World) (s : ManagedDatabase) :
    (managementEvents kind w s l).filterMap readStamp =
      (readDomain w kind l.1).toList.map fun _ => w.now := by
  have hread : ((readDomain w kind l.1).toList.map (ManagementEvent.read · w.now)).filterMap
      readStamp = (readDomain w kind l.1).toList.map fun _ => w.now := by
    cases readDomain w kind l.1 <;> rfl
  have hsent : ((sentAction kind l.1).toList.map ManagementEvent.sent).filterMap readStamp = [] := by
    cases sentAction kind l.1 <;> rfl
  have hstored : (storedEvents s.snapshots l.2 (confirmedAction kind l.1)
      (recordedState s.database kind l.1)).filterMap readStamp = [] := by
    cases recordedState s.database kind l.1 with
    | none => rfl
    | some entry => cases confirmedAction kind l.1 <;> rfl
  rw [managementEvents, List.filterMap_append, List.filterMap_append, hread, hsent, hstored,
    List.append_nil, List.append_nil]

theorem actions_grow (h : ManagedStep w s s' l l') :
    s.1.database.domainActions.Grows DomainAction.Moves s'.1.database.domainActions :=
  (registrarWrites_of_step kind.registrar h.step).actions_grow

theorem trace_subset (h : ManagedStep w s s' l l') : s.2 ⊆ s'.2 := by
  rw [h.trace]
  exact List.subset_append_left _ _

theorem sorted (h : ManagedStep w s s' l l') (hobs : Observations start s)
    (hticks : (readDomain w kind l.1).isSome → s.1.clock < w.now) :
    start.clock ≤ s'.1.clock ∧ (s'.2.filterMap readStamp).Pairwise (· < ·) ∧
      ∀ t ∈ s'.2.filterMap readStamp, start.clock < t ∧ t ≤ s'.1.clock := by
  have hclock := h.clock
  have hpast := hobs.clock
  rw [h.trace, List.filterMap_append, stamps_events]
  cases hread : readDomain w kind l.1 with
  | none =>
    rw [hread, readAt, Option.isSome_none, if_neg Bool.false_ne_true] at hclock
    rw [Option.toList_none, List.map_nil, List.append_nil, hclock]
    exact ⟨hpast, hobs.sorted, hobs.stamps⟩
  | some id =>
    rw [hread] at hclock hticks
    have hnow := hticks rfl
    rw [readAt, Option.isSome_some, if_pos rfl] at hclock
    rw [Option.toList_some, List.map_singleton, hclock]
    refine ⟨by omega, List.pairwise_append.2 ⟨hobs.sorted, List.pairwise_singleton _ _, ?_⟩, ?_⟩
    · intro t ht u hu
      rw [List.mem_singleton.1 hu]
      have hle := (hobs.stamps t ht).2
      omega
    · intro t ht
      rcases List.mem_append.1 ht with ht | ht
      · have hle := hobs.stamps t ht
        omega
      · rw [List.mem_singleton.1 ht]
        omega

theorem mem_events {s : ManagedDatabase} {event : ManagementEvent}
    (h : event ∈ managementEvents kind w s l) :
    (∃ id, event = .read id w.now) ∨ (∃ actionId, event = .sent actionId) ∨
      ∃ id observed, recordedState s.database kind l.1 = some (id, observed) ∧
        (event = .stored id (projected observed l.2) (s.snapshots id) ∨
          ∃ actionId, event = .confirmed actionId id l.2) := by
  rcases List.mem_append.1 h with h | h
  · rcases List.mem_append.1 h with h | h
    · obtain ⟨id, -, rfl⟩ := List.mem_map.1 h
      exact .inl ⟨id, rfl⟩
    · obtain ⟨actionId, -, rfl⟩ := List.mem_map.1 h
      exact .inr (.inl ⟨actionId, rfl⟩)
  · refine .inr (.inr ?_)
    cases hrecorded : recordedState s.database kind l.1 with
    | none =>
      rw [hrecorded] at h
      exact absurd h List.not_mem_nil
    | some entry =>
      obtain ⟨id, observed⟩ := entry
      rw [hrecorded] at h
      refine ⟨id, observed, rfl, ?_⟩
      rcases List.mem_cons.1 h with rfl | h
      · exact .inl rfl
      · obtain ⟨actionId, -, rfl⟩ := List.mem_map.1 h
        exact .inr ⟨actionId, rfl⟩

variable {id : RowId} {observed : ResellbizManagedState}

theorem storedEvents_subset (h : ManagedStep w s s' l l')
    (hrecorded : recordedState s.1.database kind l.1 = some (id, observed)) :
    storedEvents s.1.snapshots l.2 (confirmedAction kind l.1) (some (id, observed)) ⊆ s'.2 := by
  rw [h.trace, managementEvents, hrecorded]
  exact fun _ he => List.mem_append_right _ (List.mem_append_right _ he)

theorem snapshot_cases (h : ManagedStep w s s' l l') {management : DomainManagement}
    (hsnapshot : s'.1.snapshots id = some management) :
    (∃ observed, recordedState s.1.database kind l.1 = some (id, observed) ∧
        management = projected observed l.2) ∨
      s.1.snapshots id = some management ∧
        ∀ observed, recordedState s.1.database kind l.1 ≠ some (id, observed) := by
  rw [h.snapshots] at hsnapshot
  cases hrecorded : recordedState s.1.database kind l.1 with
  | none =>
    rw [hrecorded] at hsnapshot
    exact .inr ⟨hsnapshot, nofun⟩
  | some entry =>
    obtain ⟨id', observed⟩ := entry
    rw [hrecorded, snapshotsAfter, Function.update_apply] at hsnapshot
    split at hsnapshot
    · rename_i hid
      exact .inl ⟨observed, by rw [hid], (Option.some.inj hsnapshot).symm⟩
    · rename_i hid
      refine .inr ⟨hsnapshot, fun observed' heq => ?_⟩
      exact hid (Prod.mk.inj (Option.some.inj heq)).1.symm

theorem read_mem (hcall : CallHolds s l)
    (hrecorded : recordedState s.1.database kind l.1 = some (id, observed)) : .read id l.2 ∈ s.2 :=
  hcall.held id (held_of_recorded hrecorded).1

theorem observedSince (h : ManagedStep w s s' l l') (hobs : Observations start s)
    (hcall : CallHolds s l)
    (horder : ∀ entry ∈ recordedState s.1.database kind l.1, overtaken s.2 entry.1 l.2 = false)
    {observedAt : ℕ} (hsince : ObservedSince s.1 id observedAt) :
    ObservedSince s'.1 id observedAt := by
  obtain ⟨old, hold, hle⟩ := hsince
  have hafter := h.snapshots
  cases hrecorded : recordedState s.1.database kind l.1 with
  | none =>
    rw [hrecorded, snapshotsAfter] at hafter
    exact ⟨old, hafter ▸ hold, hle⟩
  | some entry =>
    obtain ⟨id', observed⟩ := entry
    rw [hrecorded, snapshotsAfter] at hafter
    by_cases hid : id = id'
    · subst hid
      have hadvance := hobs.le_of_not_overtaken hold (read_mem hcall hrecorded)
        (horder _ hrecorded)
      refine ⟨projected observed l.2, ?_, hle.trans hadvance⟩
      rw [hafter, Function.update_self]
    · refine ⟨old, ?_, hle⟩
      rw [hafter, Function.update_of_ne hid]
      exact hold

theorem shown (h : ManagedStep w s s' l l') (hobs : Observations start s)
    {management : DomainManagement} (hsnapshot : s'.1.snapshots id = some management) :
    Shown s'.1.database id management := by
  obtain ⟨hfound, hdomains⟩ := domains_of_step kind h.step
  rcases h.snapshot_cases hsnapshot with ⟨observed, hrecorded, rfl⟩ | ⟨hsame, hother⟩
  · obtain ⟨domain, hdomain⟩ := hfound id observed hrecorded
    refine ⟨observedDomain observed domain, ?_, rfl, rfl⟩
    rw [hdomains, hrecorded]
    exact Table.get?_update_self hdomain
  · obtain ⟨domain, hdomain, hexpires, hverification⟩ := hobs.shown id management hsame
    refine ⟨domain, ?_, hexpires, hverification⟩
    rw [hdomains]
    cases hrecorded : recordedState s.1.database kind l.1 with
    | none => exact hdomain
    | some entry =>
      obtain ⟨id', observed⟩ := entry
      have hid : id' ≠ id := by
        rintro rfl
        exact hother observed hrecorded
      exact (Table.get?_update_of_ne hid).trans hdomain

theorem observations (h : ManagedStep w s s' l l') (hobs : Observations start s)
    (hcall : CallHolds s l) (hticks : (readDomain w kind l.1).isSome → s.1.clock < w.now)
    (horder : ∀ entry ∈ recordedState s.1.database kind l.1, overtaken s.2 entry.1 l.2 = false) :
    Observations start s' := by
  obtain ⟨hclock, hsorted, hstamps⟩ := h.sorted hobs hticks
  refine ⟨hclock, hsorted, hstamps, fun id management => h.shown hobs, ?_, ?_, ?_, ?_⟩
  · intro id management hsnapshot
    rcases h.snapshot_cases hsnapshot with ⟨observed, hrecorded, rfl⟩ | ⟨hsame, -⟩
    · refine .inr ⟨h.trace_subset (read_mem hcall hrecorded), s.1.snapshots id, ?_⟩
      exact h.storedEvents_subset hrecorded List.mem_cons_self
    · rcases hobs.traced id management hsame with hpast | ⟨hread, replaced, hstored⟩
      · exact .inl hpast
      · exact .inr ⟨h.trace_subset hread, replaced, h.trace_subset hstored⟩
  · intro id management replaced hstored
    rw [h.trace] at hstored
    rcases List.mem_append.1 hstored with hbefore | hnew
    · exact hobs.stored id management replaced hbefore
    · rcases mem_events hnew with ⟨_, heq⟩ | ⟨_, heq⟩ | ⟨id', observed, hrecorded, heq | ⟨_, heq⟩⟩
      · cases heq
      · cases heq
      · injection heq with hid hmanagement hreplaced
        subst hid hmanagement
        exact hobs.le_of_not_overtaken hreplaced.symm (read_mem hcall hrecorded)
          (horder _ hrecorded)
      · cases heq
  · intro actionId id observedAt hconfirmed
    rw [h.trace] at hconfirmed
    rcases List.mem_append.1 hconfirmed with hbefore | hnew
    · obtain ⟨hread, hsince⟩ := hobs.confirmed actionId id observedAt hbefore
      exact ⟨h.trace_subset hread, h.observedSince hobs hcall horder hsince⟩
    · rcases mem_events hnew with ⟨_, heq⟩ | ⟨_, heq⟩ | ⟨id', observed, hrecorded, heq | ⟨_, heq⟩⟩
      · cases heq
      · cases heq
      · cases heq
      · injection heq with _ hid hmoment
        subst hid hmoment
        refine ⟨h.trace_subset (read_mem hcall hrecorded), projected observed l.2, ?_, Nat.le_refl _⟩
        rw [h.snapshots, hrecorded, snapshotsAfter, Function.update_self]
  · intro id action' haction' hsucceeded
    -- The action was there before, and is one of the same domain.
    have hdomain : ∀ action, s.1.database.domainActions.get? id = some action →
        action'.domainId = action.domainId := by
      intro action haction
      obtain ⟨after, hafter, hmoves⟩ := h.actions_grow id action haction
      obtain rfl := Option.mem_unique hafter haction'
      exact hmoves.intent.domainId
    rcases succeeded_of_step kind h.step haction' hsucceeded with
      ⟨action, haction, hbefore⟩ | ⟨hconfirmed, ⟨id', observed⟩, hrecorded⟩
    · rw [hdomain action haction]
      rcases hobs.succeeded id action haction hbefore with hstart | ⟨observedAt, hevent⟩
      · exact .inl hstart
      · exact .inr ⟨observedAt, h.trace_subset hevent⟩
    · obtain ⟨input, hlocated, rfl, rfl⟩ := located_of_confirmed hrecorded hconfirmed
      obtain ⟨action, haction, hof⟩ := hcall.located input hlocated
      refine .inr ⟨l.2, ?_⟩
      rw [hdomain action haction, hof]
      refine h.storedEvents_subset hrecorded (List.mem_cons_of_mem _ ?_)
      rw [hconfirmed]
      exact List.mem_singleton.2 rfl

theorem callHolds (h : ManagedStep w s s' l l') (hcall : CallHolds s l) : CallHolds s' l' where
  held id hid := by
    have hmoment := h.moment
    rcases (kept_of_step kind h.step).held id hid with hread | ⟨hheld, hnone⟩
    · rw [hread, readAt, Option.isSome_some, if_pos rfl] at hmoment
      rw [hmoment, h.trace, managementEvents, hread]
      exact List.mem_append_right _ (List.mem_append_left _ List.mem_cons_self)
    · rw [hnone, readAt, Option.isSome_none, if_neg Bool.false_ne_true] at hmoment
      rw [hmoment]
      exact h.trace_subset (hcall.held id hheld)
  located input hinput := by
    rcases (kept_of_step kind h.step).located input hinput with hbefore | hnow
    · exact (hcall.located input hbefore).mono h.actions_grow
    · exact hnow.mono h.actions_grow

theorem callHolds_other (h : ManagedStep w s s' l l') {other : ManagementKind}
    {u : ManagementLocal settings other × ℕ} (hcall : CallHolds s u) : CallHolds s' u where
  held id hid := h.trace_subset (hcall.held id hid)
  located input hinput := (hcall.located input hinput).mono h.actions_grow

end ManagedStep

end

/-! ## What every run keeps -/

section

variable {start : ManagedDatabase}

/-- The guard of a run in which no step records what has been overtaken. -/
def TicksInOrder (w : World) (s : ManagedState) (t : Thread (tracedManagement settings)) : Prop :=
  Ticks w s t ∧ InOrder s t

def observationsOutline (settings : RegistrarSettings) (start : ManagedDatabase) :
    Outline (tracedManagement settings) where
  shared := Observations start
  thread s t := CallHolds s t.loc

theorem observations_sound : (observationsOutline settings start).Sound TicksInOrder where
  symm _ _ _ := trivial
  call s kind request _ := by
    cases kind <;> exact ⟨nofun, nofun⟩
  call_apart _ _ _ := trivial
  own w s t s' t' hguard hobs hcall hstep := by
    obtain ⟨kind, l⟩ := t
    obtain ⟨l', hl, rfl⟩ := Thread.step_eq_some hstep
    have hmanaged := managedStep_of_step hl
    exact ⟨hmanaged.observations hobs hcall hguard.1 hguard.2, hmanaged.callHolds hcall⟩
  other w s t s' t' u _ _ _ hu _ hstep := by
    obtain ⟨kind, l⟩ := t
    obtain ⟨l', hl, rfl⟩ := Thread.step_eq_some hstep
    exact ⟨(managedStep_of_step hl).callHolds_other hu, trivial⟩

theorem observations_start (hstart : start.Consistent) : Observations start (start, []) where
  clock := Nat.le_refl _
  sorted := List.Pairwise.nil
  stamps _ h := absurd h List.not_mem_nil
  shown id management h := (hstart id management h).2
  traced id management h := Or.inl (hstart id management h).1
  stored _ _ _ h := absurd h List.not_mem_nil
  confirmed _ _ _ h := absurd h List.not_mem_nil
  succeeded _ action haction hsucceeded := Or.inl ⟨action, haction, hsucceeded⟩

theorem observedSince_of_reaches {c c' : Config (tracedManagement settings)}
    (hholds : (observationsOutline settings start).Holds c) (hr : Reaches TicksInOrder c c')
    {id : RowId} {observedAt : ℕ} (hsince : ObservedSince c.shared.1 id observedAt) :
    ObservedSince c'.shared.1 id observedAt := by
  induction hr with
  | refl => exact hsince
  | tail hr hstep ih =>
    have hbefore := observations_sound.holds hholds hr
    cases hstep with
    | call kind request => exact ih
    | advance ht hguard hs =>
      rename_i k w t t' s'
      obtain ⟨kind, l⟩ := t
      obtain ⟨l', hl, rfl⟩ := Thread.step_eq_some hs
      exact (managedStep_of_step hl).observedSince hbefore.shared
        (hbefore.thread _ (List.mem_of_getElem? ht)) hguard.2 ih

/-- What is recorded of a domain was not observed before `observedAt`, is what the domain shows, and
was read after the change of an action was sent, if the read at `observedAt` was. -/
def RecordedSince (s : ManagedState) (actionId domainId : RowId) (observedAt : ℕ) : Prop :=
  ∃ management, s.1.snapshots domainId = some management ∧ observedAt ≤ management.observedAt ∧
    Shown s.1.database domainId management ∧
    ∀ before after, s.2 = before ++ .sent actionId :: after →
      .read domainId observedAt ∈ after → .read domainId management.observedAt ∈ after

theorem Observations.recordedSince {s : ManagedState} (h : Observations start s)
    {actionId domainId : RowId} {observedAt : ℕ}
    (hconfirmed : .confirmed actionId domainId observedAt ∈ s.2) :
    RecordedSince s actionId domainId observedAt := by
  obtain ⟨hread, management, hsnapshot, hle⟩ := h.confirmed _ _ _ hconfirmed
  refine ⟨management, hsnapshot, hle, h.shown _ _ hsnapshot, fun before after htrace hafter => ?_⟩
  rcases Nat.eq_or_lt_of_le hle with heq | hlt
  · exact heq ▸ hafter
  -- The read of what is recorded is in the trace, and later than the one after the change.
  have hstamp := (h.stamps observedAt (List.mem_filterMap.2 ⟨_, hread, rfl⟩)).1
  have hlater : .read domainId management.observedAt ∈ s.2 := by
    rcases h.traced _ _ hsnapshot with hpast | ⟨hlater, -⟩
    · omega
    · exact hlater
  obtain ⟨middle, rest, rfl⟩ := List.append_of_mem hafter
  have hsplit : s.2 = (before ++ .sent actionId :: middle) ++ .read domainId observedAt :: rest := by
    rw [htrace, List.append_assoc, List.cons_append]
  exact List.mem_append_right _
    (List.mem_cons_of_mem _ (mem_after_of_lt hsplit h.sorted rfl rfl hlt hlater))

/-- **What is recorded of a domain never goes back**, in every run of refreshes, executions and
reconciliations in which no step records a read that was overtaken.  Nothing replaces a later
observation, what is recorded later was not observed earlier, and once an action has succeeded, its
domain never shows again what was observed before the read that confirmed the action, nor what was
read before the action's change was sent when that read came after it. -/
theorem observations_advance (hstart : start.Consistent)
    {c c' : Config (tracedManagement settings)}
    (hr : Reaches TicksInOrder ⟨(start, []), []⟩ c)
    (hr' : Reaches TicksInOrder c c') :
    (∀ id management replaced, .stored id management (some replaced) ∈ c'.shared.2 →
      replaced.observedAt ≤ management.observedAt) ∧
    (∀ id earlier, c.shared.1.snapshots id = some earlier → ∃ later,
      c'.shared.1.snapshots id = some later ∧ earlier.observedAt ≤ later.observedAt) ∧
    ∀ id action, c'.shared.1.database.domainActions.get? id = some action →
      action.state = .succeeded → SucceededBefore start id ∨
        ∃ observedAt, .confirmed id action.domainId observedAt ∈ c'.shared.2 ∧
          RecordedSince c'.shared id action.domainId observedAt := by
  have hholds := observations_sound.holds (Outline.holds_idle (observations_start hstart)) hr
  have hlater := (observations_sound.holds hholds hr').shared
  refine ⟨hlater.stored, fun id earlier hearlier => ?_, fun id action haction hsucceeded => ?_⟩
  · exact observedSince_of_reaches hholds hr' ⟨earlier, hearlier, Nat.le_refl _⟩
  · rcases hlater.succeeded id action haction hsucceeded with hbefore | ⟨observedAt, hconfirmed⟩
    · exact .inl hbefore
    · exact .inr ⟨observedAt, hconfirmed, hlater.recordedSince hconfirmed⟩

end

/-! ### A lock that is forgotten -/

abbrev liveManagement : ManagementKind → Operation ManagedState World :=
  tracedManagement ⟨false, true⟩

instance (w : World) (s : ManagedState) (t : Thread liveManagement) : Decidable (Ticks w s t) :=
  inferInstanceAs (Decidable (_ → _))

instance (w : World) (s : ManagedState) (t : Thread liveManagement) :
    Decidable (TicksInOrder w s t) :=
  inferInstanceAs (Decidable (_ ∧ ∀ entry ∈ recordedState s.1.database t.op t.loc.1,
    overtaken s.2 entry.1 t.loc.2 = false))

def unobservedDomain : ManagedDatabase where
  database := managedDomain

theorem unobservedDomain_consistent : unobservedDomain.Consistent := nofun

def seenAt (now : ℕ) (locked : Bool) : World where
  now := now
  registrarManagement := .ok ⟨[], locked, 0, .verified, "1", "1", "1", "1"⟩
  registrarCall := .ok ()

def recordedAt (observedAt : ℕ) (locked : Bool) : DomainManagement where
  nameservers := []
  locked := locked
  observedAt := observedAt
  expiresAt := 0
  verification := .verified

def readUnlocked : List (Move liveManagement) :=
  [.call .refresh (⟨0, fullAdministrator⟩ : RefreshRequest), .advance 0 {},
    .advance 0 (seenAt 1 false)]

def lockAndConfirm : List (Move liveManagement) :=
  [.call .execute lockRequest, .advance 1 {}, .advance 1 {}, .advance 1 {},
    .advance 1 (seenAt 2 false), .advance 1 {}, .advance 1 (seenAt 2 false),
    .advance 1 (seenAt 3 true), .advance 1 {}, .advance 1 {}]

def recordRead : List (Move liveManagement) := [.advance 0 {}]

def forgottenConfig : Config liveManagement :=
  Config.after ⟨(unobservedDomain, []), []⟩ (readUnlocked ++ lockAndConfirm ++ recordRead)
    (by decide +kernel)

/-- **A refresh takes back what a successful action has recorded.**  The refresh reads the domain
before it is locked and records it as unlocked after the lock was confirmed, so the domain shows what
was read before the change of its successful action was sent. -/
theorem refresh_forgets_lock :
    unobservedDomain.Consistent ∧
      Reaches Ticks ⟨(unobservedDomain, []), []⟩ forgottenConfig ∧
      (∃ management replaced, .stored 0 management (some replaced) ∈ forgottenConfig.shared.2 ∧
        management.observedAt < replaced.observedAt) ∧
      ∃ action management before after,
        forgottenConfig.shared.1.database.domainActions.get? 0 = some action ∧
        action.state = .succeeded ∧ action.request = .lock true ∧
        forgottenConfig.shared.1.snapshots action.domainId = some management ∧
        management.locked = false ∧
        forgottenConfig.shared.2 = before ++ .sent 0 :: after ∧
        .read action.domainId management.observedAt ∈ before := by
  have hrun : Config.run ⟨(unobservedDomain, []), []⟩
      (readUnlocked ++ lockAndConfirm ++ recordRead) = some forgottenConfig :=
    run_eq_after (by decide +kernel)
  refine ⟨unobservedDomain_consistent, reaches_of_run hrun (by decide +kernel), ?_, ?_⟩
  · exact ⟨recordedAt 1 false, recordedAt 3 true, by decide +kernel, by decide⟩
  · exact ⟨lockedAction, recordedAt 1 false,
      [.read 0 1, .read 0 2],
      [.read 0 3, .stored 0 (recordedAt 3 true) none, .confirmed 0 0 3,
        .stored 0 (recordedAt 1 false) (some (recordedAt 3 true))],
      by decide +kernel, rfl, rfl, by decide +kernel, rfl, by decide +kernel, by decide⟩

def keptConfig : Config liveManagement :=
  Config.after ⟨(unobservedDomain, []), []⟩ (readUnlocked ++ recordRead ++ lockAndConfirm)
    (by decide +kernel)

def refreshAgain : List (Move liveManagement) :=
  [.call .refresh (⟨0, fullAdministrator⟩ : RefreshRequest), .advance 2 {},
    .advance 2 (seenAt 4 true), .advance 2 {}]

def refreshedConfig : Config liveManagement := Config.after keptConfig refreshAgain (by decide +kernel)

/-- The lock stays recorded, also by a refresh that comes later. -/
theorem lock_stays_recorded :
    refreshedConfig.shared.1.snapshots 0 = some (recordedAt 4 true) ∧
    ∃ observedAt, .confirmed 0 0 observedAt ∈ refreshedConfig.shared.2 ∧
      RecordedSince refreshedConfig.shared 0 0 observedAt := by
  have hrun : Config.run ⟨(unobservedDomain, []), []⟩
      (readUnlocked ++ recordRead ++ lockAndConfirm) = some keptConfig :=
    run_eq_after (by decide +kernel)
  have hlater : keptConfig.run refreshAgain = some refreshedConfig :=
    run_eq_after (by decide +kernel)
  have hadvance := observations_advance unobservedDomain_consistent
    (reaches_of_run hrun (by decide +kernel))
    (reaches_of_run hlater (by decide +kernel))
  refine ⟨by decide +kernel, (hadvance.2.2 0 lockedAction (by decide +kernel) rfl).resolve_left ?_⟩
  rintro ⟨action, haction, hsucceeded⟩
  obtain rfl := Option.some.inj haction
  cases hsucceeded

end WebhostBilling
