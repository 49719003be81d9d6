import WebhostBilling.Concurrency.Locks

/-!
# How a step moves a lock

A store that lists what is locked shows no holders, and one that keeps what the holder does shows
that.  `LocksMove` and `HeldMove` say what a step may do with such locks, given what its thread
holds before and after it.
-/

namespace Concurrency

/-! ## A list of locked rows -/

section

variable {κ : Type} [DecidableEq κ]

/-- What a step does with the locks: nothing, or it takes or gives back the one of its thread. -/
inductive LocksMove (locks : List κ) : Option κ → List κ → Option κ → Prop
  | stays : LocksMove locks none locks none
  | takes (id : κ) (hfree : id ∉ locks) : LocksMove locks none (id :: locks) (some id)
  | releases (id : κ) : LocksMove locks (some id) (locks.filter (· ≠ id)) none

variable {locks locks' : List κ} {held held' : Option κ}

theorem LocksMove.cases (h : LocksMove locks held locks' held') (id : κ) :
    ((held' = some id ↔ held = some id) ∧ (id ∈ locks' ↔ id ∈ locks)) ∨
      (held = some id ∧ held' ≠ some id) ∨ (id ∉ locks ∧ id ∈ locks') := by
  cases h with
  | stays => exact .inl ⟨Iff.rfl, Iff.rfl⟩
  | takes id' hfree =>
    by_cases hid : id' = id
    · subst hid
      exact .inr (.inr ⟨hfree, List.mem_cons_self⟩)
    · refine .inl ⟨by simp [hid], ?_⟩
      rw [List.mem_cons, or_iff_right (Ne.symm hid)]
  | releases id' =>
    by_cases hid : id' = id
    · subst hid
      exact .inr (.inl ⟨rfl, by simp⟩)
    · exact .inl ⟨by simp [hid], by simp [Ne.symm hid]⟩

theorem LocksMove.kept {id : κ} (h : LocksMove locks held locks' held') (hid : id ∈ locks') :
    held' = some id ∨ (id ∈ locks ∧ held ≠ some id) := by
  cases h with
  | stays => exact .inr ⟨hid, by simp⟩
  | takes id' =>
    rcases List.mem_cons.1 hid with rfl | hold
    · exact .inl rfl
    · exact .inr ⟨hold, by simp⟩
  | releases id' =>
    rw [List.mem_filter, decide_eq_true_eq] at hid
    exact .inr ⟨hid.1, fun h => hid.2 (Option.some.inj h).symm⟩

end

/-! ## A lock that shows what its holder does -/

section

variable {κ : Type}

inductive HeldMove (lock : Option κ) : Option κ → Option κ → Option κ → Prop
  | stays (held : Option κ) : HeldMove lock held lock held
  | takes (work : κ) (hfree : lock = none) : HeldMove lock none (some work) (some work)
  | releases (work : κ) : HeldMove lock (some work) none none

variable {lock lock' held held' : Option κ}

theorem HeldMove.own (h : HeldMove lock held lock' held')
    (hshown : ∀ work, held = some work → lock = some work) {work : κ} (hwork : held' = some work) :
    lock' = some work := by
  cases h with
  | stays => exact hshown work hwork
  | takes => exact hwork
  | releases => cases hwork

theorem HeldMove.other (h : HeldMove lock held lock' held') (hlock : lock.isSome)
    (hheld : held = none) : lock' = lock ∧ held' = none := by
  cases h with
  | stays => exact ⟨rfl, hheld⟩
  | takes _ hfree =>
    rw [hfree] at hlock
    cases hlock
  | releases => cases hheld

theorem HeldMove.apart {work : Option κ} (h : HeldMove lock held lock' held')
    (hlock : work.isSome → lock.isSome) (hapart : ¬ (held.isSome ∧ work.isSome)) :
    ¬ (held'.isSome ∧ work.isSome) := by
  rintro ⟨hheld', hwork⟩
  cases h with
  | stays => exact hapart ⟨hheld', hwork⟩
  | takes _ hfree =>
    have hsome := hlock hwork
    rw [hfree] at hsome
    cases hsome
  | releases => cases hheld'

end

end Concurrency
