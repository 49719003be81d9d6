import Mathlib.Data.List.Basic

/-!
# Replacing what a pattern matches

A text is read from left to right.  Where a pattern matches, the match is replaced and reading goes
on after it.  What a pattern sees of the symbols before a place is a state, which the last of them
decides, such as whether it belonged to a word.
-/

namespace Replacement

variable {α σ : Type}

/-- The number of symbols of a match, and what comes in their place. -/
abbrev Pattern (α σ : Type) := σ → List α → Option (ℕ × List α)

variable (pattern : Pattern α σ) (after : α → σ)

/-- Replace the matches, when `skip` symbols of the last one are left. -/
def replaceFrom : ℕ → σ → List α → List α
  | _, _, [] => []
  | skip + 1, _, c :: t => replaceFrom skip (after c) t
  | 0, state, c :: t =>
    match pattern state (c :: t) with
    | some (length, replacement) => replacement ++ replaceFrom (length - 1) (after c) t
    | none => c :: replaceFrom 0 (after c) t

/-- The symbols left of the last match, and the state, where a text goes on with `rest`. -/
def scanTo (rest : List α) : ℕ → σ → List α → ℕ × σ
  | skip, state, [] => (skip, state)
  | skip + 1, _, c :: t => scanTo rest skip (after c) t
  | 0, state, c :: t =>
    match pattern state (c :: t ++ rest) with
    | some (length, _) => scanTo rest (length - 1) (after c) t
    | none => scanTo rest 0 (after c) t

/-- When no match looks further than `rest`, what is read before it is the same whatever follows,
and a match that goes on after it is the last thing there. -/
theorem exists_replaceFrom_append (rest : List α)
    (hlocal : ∀ state t more, t ≠ [] →
      pattern state (t ++ (rest ++ more)) = pattern state (t ++ rest))
    (skip : ℕ) (state : σ) (t : List α) :
    ∃ out, (∀ more, replaceFrom pattern after skip state (t ++ (rest ++ more)) =
        out ++ replaceFrom pattern after (scanTo pattern after rest skip state t).1
          (scanTo pattern after rest skip state t).2 (rest ++ more)) ∧
      ((scanTo pattern after rest skip state t).1 ≠ 0 →
        skip = t.length + (scanTo pattern after rest skip state t).1 ∧ out = [] ∨
        ∃ state' t' out' replacement, t' ≠ [] ∧ pattern state' (t' ++ rest) =
            some (t'.length + (scanTo pattern after rest skip state t).1, replacement) ∧
          out = out' ++ replacement) := by
  induction t generalizing skip state with
  | nil => exact ⟨[], fun more => by simp [scanTo], fun _ => .inl ⟨by simp [scanTo], rfl⟩⟩
  | cons c t ih =>
    cases skip with
    | succ skip =>
      obtain ⟨out, hout, hlast⟩ := ih skip (after c)
      refine ⟨out, by simpa only [List.cons_append, replaceFrom, scanTo] using hout, fun hk => ?_⟩
      exact (hlast hk).imp_left fun h => ⟨by simp only [List.length_cons, scanTo]; omega, h.2⟩
    | zero =>
      have hsame := fun more => hlocal state (c :: t) more (List.cons_ne_nil _ _)
      simp only [List.cons_append] at hsame
      simp only [List.cons_append, replaceFrom, scanTo, hsame]
      cases hfound : pattern state (c :: (t ++ rest)) with
      | none =>
        obtain ⟨out, hout, hlast⟩ := ih 0 (after c)
        refine ⟨c :: out, fun more => by simp [hout], fun hk => .inr ?_⟩
        rcases hlast hk with ⟨h, -⟩ | ⟨state', t', out', replacement, ht', hmatch, rfl⟩
        · exact absurd (Nat.add_eq_zero_iff.1 h.symm).2 hk
        · exact ⟨state', t', c :: out', replacement, ht', hmatch, rfl⟩
      | some found =>
        obtain ⟨length, replacement⟩ := found
        obtain ⟨out, hout, hlast⟩ := ih (length - 1) (after c)
        refine ⟨replacement ++ out, fun more => by simp [hout], fun hk => .inr ?_⟩
        rcases hlast hk with ⟨h, rfl⟩ | ⟨state', t', out', last, ht', hmatch, rfl⟩
        · refine ⟨state, c :: t, [], replacement, List.cons_ne_nil _ _, ?_, by simp⟩
          rw [List.cons_append, hfound, List.length_cons]
          exact congrArg some (Prod.ext (by dsimp only at h hk ⊢; omega) rfl)
        · exact ⟨state', t', replacement ++ out', last, ht', hmatch, by simp⟩

/-- Where no match begins, a text is kept. -/
theorem replaceFrom_of_none {t rest : List α}
    (hnone : ∀ s, s ≠ [] → s <:+ t → ∀ state, pattern state (s ++ rest) = none) (state : σ) :
    replaceFrom pattern after 0 state (t ++ rest) =
      t ++ replaceFrom pattern after 0 (t.foldl (fun _ c => after c) state) rest := by
  induction t generalizing state with
  | nil => rfl
  | cons c t ih =>
    have hhere := hnone (c :: t) (List.cons_ne_nil _ _) (List.suffix_refl _) state
    rw [List.cons_append] at hhere ⊢
    simp only [replaceFrom, hhere, ih fun s hs hst => hnone s hs (hst.trans (List.suffix_cons _ _)),
      List.cons_append, List.foldl_cons]

theorem scanTo_length_le (rest : List α) {skip : ℕ} (state : σ) {t : List α}
    (h : t.length ≤ skip) : (scanTo pattern after rest skip state t).1 = skip - t.length := by
  induction t generalizing skip state with
  | nil => rfl
  | cons c t ih =>
    cases skip with
    | zero => exact absurd h (Nat.not_succ_le_zero _)
    | succ skip =>
      rw [scanTo, ih _ (Nat.le_of_succ_le_succ h)]
      simp

/-- A text that no match runs over is replaced on its own, and keeps what its symbols and the
replacements have in common. -/
theorem exists_replaceFrom_within {p : α → Prop} {rest : List α}
    (hreplacement : ∀ state t length replacement, (∀ c ∈ t, p c) →
      pattern state (t ++ rest) = some (length, replacement) → length ≤ t.length →
      replacement ≠ [] ∧ ∀ c ∈ replacement, p c)
    (skip : ℕ) (state : σ) {t : List α} (ht : ∀ c ∈ t, p c)
    (hend : (scanTo pattern after rest skip state t).1 = 0) :
    ∃ out, (∀ c ∈ out, p c) ∧ (skip = 0 → t ≠ [] → out ≠ []) ∧
      ∃ state', replaceFrom pattern after skip state (t ++ rest) =
        out ++ replaceFrom pattern after 0 state' rest := by
  induction t generalizing skip state with
  | nil => exact ⟨[], by simp, fun _ h => absurd rfl h, state, by rw [← hend]; rfl⟩
  | cons c t ih =>
    have hc := ht c List.mem_cons_self
    have ih := fun skip => ih skip (after c) fun c hc => ht c (List.mem_cons_of_mem _ hc)
    cases skip with
    | succ skip =>
      obtain ⟨out, hout, -, h⟩ := ih skip hend
      exact ⟨out, hout, fun h => absurd h (Nat.succ_ne_zero _), h⟩
    | zero =>
      simp only [List.cons_append, replaceFrom, scanTo] at hend ⊢
      cases hfound : pattern state (c :: (t ++ rest)) with
      | none =>
        rw [hfound] at hend
        obtain ⟨out, hout, -, state', h⟩ := ih 0 hend
        exact ⟨c :: out, List.forall_mem_cons.2 ⟨hc, hout⟩, fun _ _ => List.cons_ne_nil _ _,
          state', by simp [h]⟩
      | some found =>
        simp only [hfound] at hend
        obtain ⟨out, hout, -, state', h⟩ := ih (found.1 - 1) hend
        have hlength : found.1 ≤ (c :: t).length := by
          by_contra hlt
          rw [scanTo_length_le pattern after rest _ (by simp at hlt; omega)] at hend
          simp at hlt
          omega
        obtain ⟨hne, hall⟩ := hreplacement state (c :: t) found.1 found.2 ht hfound hlength
        exact ⟨found.2 ++ out, List.forall_mem_append.2 ⟨hall, hout⟩, fun _ _ => by simp [hne],
          state', by simp [h]⟩

variable {pattern after}

theorem replaceFrom_length (state : σ) (t rest : List α) :
    replaceFrom pattern after t.length state (t ++ rest) =
      replaceFrom pattern after 0 (t.foldl (fun _ c => after c) state) rest := by
  induction t generalizing state with
  | nil => rfl
  | cons c t ih => exact ih (after c)

theorem replaceFrom_match {state : σ} {t rest replacement : List α} (ht : t ≠ [])
    (h : pattern state (t ++ rest) = some (t.length, replacement)) :
    replaceFrom pattern after 0 state (t ++ rest) =
      replacement ++ replaceFrom pattern after 0 (t.foldl (fun _ c => after c) state) rest := by
  cases t with
  | nil => exact absurd rfl ht
  | cons c t =>
    rw [List.cons_append] at h ⊢
    rw [replaceFrom, h]
    exact congrArg _ (replaceFrom_length (after c) t rest)

end Replacement
