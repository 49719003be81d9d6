import Mathlib.Data.List.Basic

/-!
# What comes before what in a trace

A trace grows at its end, so what comes before an entry is looked at once, when the entry is added.
Where entries carry stamps that increase, the stamps say what was noted since one of them.
-/

namespace Concurrency

section

variable {ε : Type} {Q R : List ε → ε → Prop} {trace : List ε}

/-- Every entry of a trace is in `Q` with what was noted before it. -/
def Preceded (Q : List ε → ε → Prop) (trace : List ε) : Prop :=
  ∀ before e after, trace = before ++ e :: after → Q before e

theorem preceded_nil : Preceded Q [] := by
  intro before e after h
  exact absurd h.symm (List.append_ne_nil_of_right_ne_nil before (List.cons_ne_nil e after))

theorem preceded_append_singleton {e : ε} :
    Preceded Q (trace ++ [e]) ↔ Preceded Q trace ∧ Q trace e := by
  constructor
  · intro h
    refine ⟨fun before d after htrace => ?_, h trace e [] rfl⟩
    refine h before d (after ++ [e]) ?_
    rw [htrace, List.append_assoc, List.cons_append]
  · rintro ⟨htrace, hlast⟩ before d after h
    cases List.eq_nil_or_concat' after with
    | inl hnil =>
      subst hnil
      obtain ⟨rfl, heq⟩ := List.append_inj' h rfl
      obtain rfl := List.singleton_inj.1 heq
      exact hlast
    | inr hconcat =>
      obtain ⟨after, last, rfl⟩ := hconcat
      rw [← List.cons_append, ← List.append_assoc] at h
      exact htrace before d after (List.append_inj' h rfl).1

theorem Preceded.append {es : List ε} (h : Preceded Q trace) (hlength : es.length ≤ 1)
    (hes : ∀ e ∈ es, Q trace e) : Preceded Q (trace ++ es) := by
  cases es with
  | nil =>
    rw [List.append_nil]
    exact h
  | cons e es =>
    have hnil : es = [] := List.eq_nil_of_length_eq_zero (by rw [List.length_cons] at hlength; omega)
    subst hnil
    exact preceded_append_singleton.2 ⟨h, hes e (List.mem_singleton.2 rfl)⟩

theorem Preceded.append_all {es : List ε} (h : Preceded Q trace)
    (hmono : ∀ before more e, Q before e → Q (before ++ more) e) (hes : ∀ e ∈ es, Q trace e) :
    Preceded Q (trace ++ es) := by
  induction es generalizing trace with
  | nil =>
    rw [List.append_nil]
    exact h
  | cons e es ih =>
    rw [List.append_cons]
    refine ih (preceded_append_singleton.2 ⟨h, hes e List.mem_cons_self⟩) fun d hd => ?_
    exact hmono trace [e] d (hes d (List.mem_cons_of_mem e hd))

theorem Preceded.imp (h : Preceded Q trace)
    (himp : ∀ before e, before ⊆ trace → Q before e → R before e) : Preceded R trace := by
  intro before e after htrace
  refine himp before e ?_ (h before e after htrace)
  rw [htrace]
  exact List.subset_append_left before _

end

/-! ## What comes after an entry -/

section

variable {ε : Type} [DecidableEq ε] {trace : List ε} {e d : ε}

def since (e : ε) (trace : List ε) : List ε := (trace.dropWhile (· ≠ e)).tail

theorem eq_append_since (h : e ∈ trace) : ∃ before, trace = before ++ e :: since e trace := by
  induction trace with
  | nil => exact absurd h List.not_mem_nil
  | cons d trace ih =>
    by_cases hd : d = e
    · subst hd
      refine ⟨[], ?_⟩
      rw [since, List.dropWhile_cons_of_neg (by simp), List.tail_cons, List.nil_append]
    · obtain ⟨before, htrace⟩ := ih ((List.mem_cons.1 h).resolve_left fun h => hd h.symm)
      refine ⟨d :: before, ?_⟩
      rw [since, List.dropWhile_cons_of_pos (by simpa using hd), List.cons_append]
      exact congrArg (d :: ·) htrace

variable {stamp : ε → Option ℕ} {t u : ℕ}

theorem mem_after_of_lt {before after : List ε} (htrace : trace = before ++ e :: after)
    (hsorted : (trace.filterMap stamp).Pairwise (· < ·)) (he : stamp e = some t)
    (hd : stamp d = some u) (hlt : t < u) (hmem : d ∈ trace) : d ∈ after := by
  rw [htrace, List.filterMap_append, List.filterMap_cons_some he, List.pairwise_append] at hsorted
  rw [htrace, List.mem_append, List.mem_cons] at hmem
  rcases hmem with hbefore | rfl | hafter
  · have hlt' := hsorted.2.2 u (List.mem_filterMap.2 ⟨d, hbefore, hd⟩) t List.mem_cons_self
    omega
  · rw [he, Option.some.injEq] at hd
    omega
  · exact hafter

end

end Concurrency
