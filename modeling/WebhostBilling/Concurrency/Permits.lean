import Mathlib.Data.List.Count
import WebhostBilling.Concurrency.Threads

/-!
# Permits

Something that must happen at most once is often guarded by a permit: a thread may only do it after
it has taken the permit, the store remembers that the permit is taken, and a permit that is taken
is never given out again.  `Permit.Sound` is what has to be checked of every step, and
`Permit.Sound.once` concludes that the permit was spent at most once, and only if it is taken.
-/

namespace Concurrency

variable {σ ω ι ε : Type} {ops : ι → Operation σ ω}
  {note : (i : ι) → ω → σ → (ops i).Local → List ε}

/-- A permit of the operations `ops`, whose steps leave the trace `note`. -/
structure Permit (ops : ι → Operation σ ω) (note : (i : ι) → ω → σ → (ops i).Local → List ε) where
  /-- The store remembers that some thread got the permit. -/
  taken : σ → Prop
  holds : (i : ι) → (ops i).Local → Prop
  spends : ε → Bool

namespace Permit

/-- **What has to be checked of a permit.** -/
structure Sound (P : Permit ops note) (I : σ → Prop) : Prop where
  inv : ∀ i w s l s' l', I s → (ops i).step w s l = some (s', l') → I s'
  start : ∀ i request, ¬ P.holds i ((ops i).start request)
  kept : ∀ i w s l s' l', I s → (ops i).step w s l = some (s', l') → P.taken s → P.taken s'
  /-- A thread gets the permit by taking it. -/
  acquired : ∀ i w s l s' l', I s → (ops i).step w s l = some (s', l') → P.holds i l' →
    P.holds i l ∨ (¬ P.taken s ∧ P.taken s')
  spent : ∀ i w s l s' l', I s → (ops i).step w s l = some (s', l') →
    0 < (note i w s l).countP P.spends →
      P.holds i l ∧ ¬ P.holds i l' ∧ (note i w s l).countP P.spends = 1

variable {P : Permit ops note} {I : σ → Prop}

/-- The outline of a permit: spent at most once and then taken, and as long as a thread has it not
spent at all. -/
def outline (P : Permit ops note) (I : σ → Prop) : Outline (tracedFamily ops note) where
  shared s := I s.1 ∧ s.2.countP P.spends ≤ 1 ∧ (0 < s.2.countP P.spends → P.taken s.1)
  thread s t := P.holds t.op t.loc → P.taken s.1 ∧ s.2.countP P.spends = 0
  apart t u := ¬ (P.holds t.op t.loc ∧ P.holds u.op u.loc)

theorem Sound.outline (h : P.Sound I) : (P.outline I).Sound Config.anyStep where
  symm t u hapart hholds := hapart hholds.symm
  call s op request _ hholds := absurd hholds (h.start op request)
  call_apart op request u hholds := h.start op request hholds.1
  own w s t s' t' _ hs ht hmove := by
    obtain ⟨l, hstep, htrace, rfl⟩ := Thread.traced_step hmove
    obtain ⟨hI, honce, htaken⟩ := hs
    have hkept := h.kept _ _ _ _ _ _ hI hstep
    have hspent := h.spent _ _ _ _ _ _ hI hstep
    have hcount : s'.2.countP P.spends =
        s.2.countP P.spends + (note t.op w s.1 t.loc).countP P.spends := by
      rw [htrace, List.countP_append]
    rcases Nat.eq_zero_or_pos ((note t.op w s.1 t.loc).countP P.spends) with hzero | hpos
    · rw [hzero, Nat.add_zero] at hcount
      refine ⟨⟨h.inv _ _ _ _ _ _ hI hstep, ?_, ?_⟩, ?_⟩
      · rw [hcount]
        exact honce
      · rw [hcount]
        exact fun hpos => hkept (htaken hpos)
      · intro hholds
        rw [hcount]
        rcases h.acquired _ _ _ _ _ _ hI hstep hholds with hheld | ⟨hfree, htook⟩
        · exact (ht hheld).imp hkept id
        · refine ⟨htook, Nat.eq_zero_of_not_pos fun hpos => hfree (htaken hpos)⟩
    · obtain ⟨hheld, hgone, hone⟩ := hspent hpos
      obtain ⟨htook, hunspent⟩ := ht hheld
      refine ⟨⟨h.inv _ _ _ _ _ _ hI hstep, ?_, fun _ => hkept htook⟩, fun hholds => ?_⟩
      · omega
      · exact absurd hholds hgone
  other w s t s' t' u _ hs ht hu hapart hmove := by
    obtain ⟨l, hstep, htrace, rfl⟩ := Thread.traced_step hmove
    have hI := hs.1
    refine ⟨fun hholds => ?_, fun hboth => ?_⟩
    · obtain ⟨htook, hunspent⟩ := hu hholds
      refine ⟨h.kept _ _ _ _ _ _ hI hstep htook, ?_⟩
      rcases Nat.eq_zero_or_pos ((note t.op w s.1 t.loc).countP P.spends) with hzero | hpos
      · rw [htrace, List.countP_append, hzero, hunspent]
      · exact absurd ⟨(h.spent _ _ _ _ _ _ hI hstep hpos).1, hholds⟩ hapart
    · rcases h.acquired _ _ _ _ _ _ hI hstep hboth.1 with hheld | ⟨hfree, -⟩
      · exact hapart ⟨hheld, hboth.2⟩
      · exact hfree (hu hboth.2).1

theorem Sound.once (h : P.Sound I) {s : σ} (hI : I s) {c : Config (tracedFamily ops note)}
    (hr : Config.Reaches Config.anyStep ⟨(s, []), []⟩ c) :
    c.shared.2.countP P.spends ≤ 1 ∧ (0 < c.shared.2.countP P.spends → P.taken c.shared.1) := by
  have hinit : (P.outline I).shared (s, []) :=
    ⟨hI, Nat.zero_le 1, fun hpos => absurd hpos (Nat.lt_irrefl 0)⟩
  exact ((Sound.outline h).holds (Outline.holds_idle hinit) hr).shared.2

end Permit

end Concurrency
