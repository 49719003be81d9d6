import Mathlib.Data.List.Basic
import Mathlib.Order.Basic

/-!
# Chains of intervals

An interval does not contain the point where it ends.  `Chained next` says of a list of intervals
that each begins where the one before it ends and reaches to the `next` point.  Such a list has no
gaps, and when `next` moves ahead no overlaps and no repetitions either.
-/

namespace Intervals

section

variable {α : Type}

/-- The intervals lead from one point to another, each to the `next` point. -/
def Chained (next : α → α) : α → List (α × α) → α → Prop
  | start, [], stop => start = stop
  | start, interval :: rest, stop =>
    interval = (start, next start) ∧ Chained next (next start) rest stop

section

variable {next : α → α} {a b c : α} {xs ys : List (α × α)}

theorem Chained.append (h : Chained next a xs b) (h' : Chained next b ys c) :
    Chained next a (xs ++ ys) c := by
  induction xs generalizing a with
  | nil =>
    rw [Chained] at h
    rw [List.nil_append, h]
    exact h'
  | cons x xs ih =>
    rw [List.cons_append]
    exact ⟨h.1, ih h.2⟩

theorem chained_singleton (next : α → α) (a : α) : Chained next a [(a, next a)] (next a) :=
  ⟨rfl, rfl⟩

/-- The last interval ends where the chain leads to; without intervals, it leads nowhere. -/
theorem Chained.stop_eq (h : Chained next a xs b) : b = (xs.getLast?.map Prod.snd).getD a := by
  induction xs generalizing a with
  | nil => exact h.symm
  | cons x xs ih =>
    obtain ⟨rfl, hrest⟩ := h
    rw [ih hrest]
    cases xs with
    | nil => rfl
    | cons y ys => simp [List.getLast?_cons]

theorem Chained.snd_eq (h : Chained next a xs b) : ∀ x ∈ xs, x.2 = next x.1 := by
  induction xs generalizing a with
  | nil => exact fun x hx => nomatch hx
  | cons y ys ih =>
    intro x hx
    rcases List.mem_cons.1 hx with rfl | hx
    · rw [h.1]
    · exact ih h.2 x hx

variable [Preorder α]

theorem Chained.bounds (h : Chained next a xs b) (hnext : ∀ x, x < next x) :
    a ≤ b ∧ ∀ x ∈ xs, a ≤ x.1 ∧ x.2 ≤ b := by
  induction xs generalizing a with
  | nil =>
    rw [Chained] at h
    subst h
    exact ⟨le_refl _, fun x hx => nomatch hx⟩
  | cons y ys ih =>
    obtain ⟨rfl, hrest⟩ := h
    obtain ⟨hle, hbounds⟩ := ih hrest
    have hahead := le_of_lt (hnext a)
    refine ⟨le_trans hahead hle, fun x hx => ?_⟩
    rcases List.mem_cons.1 hx with rfl | hx
    · exact ⟨le_refl _, hle⟩
    · obtain ⟨hstart, hstop⟩ := hbounds x hx
      exact ⟨le_trans hahead hstart, hstop⟩

theorem Chained.disjoint (h : Chained next a xs b) (hnext : ∀ x, x < next x) :
    xs.Pairwise fun x y => x.2 ≤ y.1 := by
  induction xs generalizing a with
  | nil => exact List.Pairwise.nil
  | cons x xs ih =>
    obtain ⟨rfl, hrest⟩ := h
    exact List.pairwise_cons.2 ⟨fun y hy => ((hrest.bounds hnext).2 y hy).1, ih hrest⟩

theorem Chained.nodup (h : Chained next a xs b) (hnext : ∀ x, x < next x) : xs.Nodup := by
  have hdisjoint := h.disjoint hnext
  refine List.Pairwise.imp_of_mem (fun {x y} hx _ hxy heq => ?_) hdisjoint
  subst heq
  have hx := h.snd_eq x hx
  rw [hx] at hxy
  exact absurd (hnext x.1) (not_lt_of_ge hxy)

end

end

end Intervals
