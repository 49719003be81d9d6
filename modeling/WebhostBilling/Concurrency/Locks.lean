import WebhostBilling.Concurrency.Threads

/-!
# Locks

A lock is taken when nobody has it and given back by whoever has it.  `Lock` says where a store
shows that the lock is taken and which threads have it, `Lock.Sound` is what has to be checked of
every step, and `Lock.outline` is the outline in which at most one thread has the lock.
-/

namespace Concurrency

variable {σ ω ι : Type} {ops : ι → Operation σ ω}

structure Lock (ops : ι → Operation σ ω) where
  taken : σ → Prop
  holds : Thread ops → Prop

namespace Lock

/-- What a step does with a lock: it keeps it or stays without it, gives it back, or takes it. -/
inductive Moves (L : Lock ops) (s s' : σ) (t t' : Thread ops) : Prop
  | stays (hholds : L.holds t' ↔ L.holds t) (htaken : L.taken s' ↔ L.taken s)
  | releases (hholds : L.holds t) (hholds' : ¬ L.holds t')
  | takes (hfree : ¬ L.taken s) (htaken : L.taken s')

/-- What has to be checked of a lock: nobody has it at the start, and every step moves it in one of
the three ways. -/
structure Sound (L : Lock ops) (φ : ω → σ → Thread ops → Prop) : Prop where
  start : ∀ op request, ¬ L.holds (Thread.begin op request)
  moves : ∀ w s t s' t', φ w s t → (L.holds t → L.taken s) → t.step w s = some (s', t') →
    L.Moves s s' t t'

/-- At most one thread has the lock, which then is taken; `I` is asserted of the store and `J` of
every thread. -/
def outline (L : Lock ops) (I : σ → Prop) (J : σ → Thread ops → Prop) : Outline ops where
  shared := I
  thread s t := (L.holds t → L.taken s) ∧ J s t
  apart t u := ¬ (L.holds t ∧ L.holds u)

variable {L : Lock ops} {φ : ω → σ → Thread ops → Prop} {I : σ → Prop}
  {J : σ → Thread ops → Prop}

/-- **Assertions under a lock**: a step re-establishes what its own thread relies on, and what any
other thread relies on, where only one of the two has the lock. -/
theorem Sound.outline_sound (hL : L.Sound φ)
    (hcall : ∀ s op request, I s → J s (Thread.begin op request))
    (hown : ∀ w s t s' t', φ w s t → I s → (L.holds t → L.taken s) → J s t →
      t.step w s = some (s', t') → I s' ∧ J s' t')
    (hother : ∀ w s t s' t' u, φ w s t → I s → J s t → J s u → (L.holds u → L.taken s) →
      (L.holds u → ¬ L.holds t) → t.step w s = some (s', t') → J s' u) :
    (L.outline I J).Sound φ where
  symm t u hapart hholds := hapart hholds.symm
  call s op request hs := ⟨fun hholds => absurd hholds (hL.start op request), hcall s op request hs⟩
  call_apart op request u hholds := hL.start op request hholds.1
  own w s t s' t' hφ hs ht hstep := by
    have hown' := hown w s t s' t' hφ hs ht.1 ht.2 hstep
    refine ⟨hown'.1, fun hholds => ?_, hown'.2⟩
    cases hL.moves w s t s' t' hφ ht.1 hstep with
    | stays hsame htaken => exact htaken.2 (ht.1 (hsame.1 hholds))
    | releases _ hreleased => exact absurd hholds hreleased
    | takes _ htaken => exact htaken
  other w s t s' t' u hφ hs ht hu hapart hstep := by
    have hexcludes : L.holds u → ¬ L.holds t := fun hholds ht' => hapart ⟨ht', hholds⟩
    have hkept := hother w s t s' t' u hφ hs ht.2 hu.2 hu.1 hexcludes hstep
    cases hL.moves w s t s' t' hφ ht.1 hstep with
    | stays hsame htaken =>
      exact ⟨⟨fun hholds => htaken.2 (hu.1 hholds), hkept⟩,
        fun hboth => hapart ⟨hsame.1 hboth.1, hboth.2⟩⟩
    | releases ht' hreleased =>
      exact ⟨⟨fun hholds => absurd ht' (hexcludes hholds), hkept⟩, fun hboth => hreleased hboth.1⟩
    | takes hfree _ =>
      -- Nobody else has a lock that was free.
      exact ⟨⟨fun hholds => absurd (hu.1 hholds) hfree, hkept⟩,
        fun hboth => hfree (hu.1 hboth.2)⟩

/-- **A lock that is taken is held** by some thread, when no step leaves it taken without its thread
having it, unless the thread did not have it before and it was taken already. -/
theorem held_of_reaches
    (hkept : ∀ w s t s' t', φ w s t → t.step w s = some (s', t') → L.taken s' →
      L.holds t' ∨ (L.taken s ∧ ¬ L.holds t))
    {c c' : Config ops} (hr : Config.Reaches φ c c')
    (h : L.taken c.shared → ∃ (k : ℕ) (t : Thread ops), c.threads[k]? = some t ∧ L.holds t) :
    L.taken c'.shared → ∃ (k : ℕ) (t : Thread ops), c'.threads[k]? = some t ∧ L.holds t := by
  induction hr with
  | refl => exact h
  | tail _ hstep ih =>
    intro htaken
    cases hstep with
    | call op request =>
      obtain ⟨k, t, ht, hholds⟩ := ih htaken
      exact ⟨k, t, by rw [List.getElem?_append_left (List.getElem?_eq_some_iff.1 ht).1]; exact ht,
        hholds⟩
    | @advance k w t t' s' ht hφ hs =>
      have hlt := (List.getElem?_eq_some_iff.1 ht).1
      rcases hkept _ _ _ _ _ hφ hs htaken with hholds | ⟨hold, hnot⟩
      · exact ⟨k, t', List.getElem?_set_self hlt, hholds⟩
      · obtain ⟨j, u, hu, hholds⟩ := ih hold
        have hne : k ≠ j := by
          rintro rfl
          obtain rfl := Option.mem_unique ht hu
          exact hnot hholds
        exact ⟨j, u, by rw [List.getElem?_set_ne hne]; exact hu, hholds⟩

end Lock

end Concurrency
