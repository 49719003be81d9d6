import Mathlib.Data.Option.Basic

/-!
# Transactions

When a transaction fails the store keeps the value it had before (`atomically`).  The checks it is
made of are `require` for a condition and `orThrow` for a row that has to be there.  The lemmas take
a transaction that succeeded apart.
-/

namespace Store

/-- A transaction on a store `σ`: it fails with an `ε`, or returns the new store and a result. -/
abbrev Transaction (σ ε α : Type) := σ → Except ε (σ × α)

section

variable {σ ε α β : Type}

/-- Fail with `e` unless the condition holds. -/
def require (p : Prop) [Decidable p] (e : ε) : Except ε Unit :=
  if p then .ok () else .error e

/-- The value of an option, or the failure `e`. -/
def orThrow (e : ε) : Option α → Except ε α
  | some a => .ok a
  | none => .error e

/-- Run a transaction: a failure rolls the store back. -/
def atomically (tx : Transaction σ ε α) (s : σ) : σ × Except ε α :=
  match tx s with
  | .ok (s', a) => (s', .ok a)
  | .error e => (s, .error e)

theorem bind_eq_ok {x : Except ε α} {f : α → Except ε β} {b : β} :
    x >>= f = .ok b ↔ ∃ a, x = .ok a ∧ f a = .ok b := by
  cases x with
  | error e | ok a => simp [bind, Except.bind]

variable {p : Prop} {tx : Transaction σ ε α} {a : α} {e : ε} {s : σ}

theorem bind_eq_error {x : Except ε α} {f : α → Except ε β} :
    x >>= f = .error e ↔ x = .error e ∨ ∃ a, x = .ok a ∧ f a = .error e := by
  cases x with
  | error e' | ok a => simp [bind, Except.bind]

theorem pure_eq_ok {b : α} : (pure a : Except ε α) = .ok b ↔ a = b := by
  simp [pure, Except.pure]

theorem pure_ne_error : (pure a : Except ε α) ≠ .error e := by
  simp [pure, Except.pure]

theorem throw_eq_ok : (throw e : Except ε α) = .ok a ↔ False := by
  simp [throw, throwThe, MonadExceptOf.throw]

theorem require_eq_ok [Decidable p] {u : Unit} :
    require p e = .ok u ↔ p := by
  by_cases h : p <;> simp [require, h]

variable {e' : ε} {o : Option α} {s' : σ} {r : Except ε α}

theorem require_eq_error [Decidable p] :
    require p e = .error e' ↔ ¬ p ∧ e = e' := by
  by_cases h : p <;> simp [require, h]

theorem orThrow_eq_error :
    orThrow e o = .error e' ↔ o = none ∧ e = e' := by
  cases o <;> simp [orThrow]

theorem orThrow_eq_ok : orThrow e o = .ok a ↔ o = some a := by
  cases o <;> simp [orThrow]

/-- What the steps of a computation that succeeds have done, as one list of rules for `simp`. -/
theorem eq_ok :
    (∀ {ε α β : Type} {x : Except ε α} {f : α → Except ε β} {b : β},
      x >>= f = .ok b ↔ ∃ a, x = .ok a ∧ f a = .ok b) ∧
    (∀ {ε : Type} {p : Prop} [Decidable p] {e : ε} {u : Unit}, require p e = .ok u ↔ p) ∧
    (∀ {ε α : Type} {e : ε} {o : Option α} {a : α}, orThrow e o = .ok a ↔ o = some a) ∧
    (∀ {ε α : Type} {a b : α}, (pure a : Except ε α) = .ok b ↔ a = b) ∧
    (∀ {α β : Type} {a b : α} {c d : β}, (a, c) = (b, d) ↔ a = b ∧ c = d) ∧
    ∀ {p : Prop}, (∃ _ : Unit, p) ↔ p :=
  ⟨bind_eq_ok, require_eq_ok, orThrow_eq_ok, pure_eq_ok, Prod.ext_iff, exists_const _⟩

theorem eq_some :
    (∀ {α β : Type} {x : Option α} {f : α → Option β}, x >>= f = x.bind f) ∧
    (∀ {α β : Type} {x : Option α} {f : α → Option β} {b : β},
      x.bind f = some b ↔ ∃ a, x = some a ∧ f a = some b) ∧
    (∀ {p : Prop} [Decidable p] {u : Unit}, guard p = some u ↔ p) ∧
    (∀ {α : Type} {a b : α}, (pure a : Option α) = some b ↔ a = b) ∧
    (∀ {α : Type} {a b : α}, some a = some b ↔ a = b) ∧
    ∀ {p : Prop}, (∃ _ : Unit, p) ↔ p :=
  ⟨rfl, Option.bind_eq_some_iff, Option.guard_eq_some' _, Option.some_inj, Option.some_inj,
    exists_const _⟩

theorem require_true [Decidable p] (e : ε) (h : p) : require p e = .ok () :=
  if_pos h

theorem require_false [Decidable p] (e : ε) (h : ¬ p) : require p e = .error e :=
  if_neg h

theorem atomically_cases (h : atomically tx s = (s', r)) :
    (∃ a, tx s = .ok (s', a) ∧ r = .ok a) ∨ (∃ e, tx s = .error e ∧ s' = s ∧ r = .error e) := by
  rw [atomically] at h
  split at h
  · rename_i s₁ a heq
    obtain ⟨rfl, rfl⟩ := Prod.mk.inj h
    exact .inl ⟨a, heq, rfl⟩
  · rename_i e heq
    obtain ⟨rfl, rfl⟩ := Prod.mk.inj h
    exact .inr ⟨e, heq, rfl, rfl⟩

theorem atomically_ok (h : atomically tx s = (s', .ok a)) : tx s = .ok (s', a) := by
  rcases atomically_cases h with ⟨b, hok, hb⟩ | ⟨e, -, -, he⟩
  · rwa [Except.ok.inj hb]
  · cases he

theorem atomically_error (h : atomically tx s = (s', .error e)) :
    tx s = .error e ∧ s' = s := by
  rcases atomically_cases h with ⟨b, -, hb⟩ | ⟨e, herror, hs, he⟩
  · cases hb
  · exact ⟨Except.error.inj he ▸ herror, hs⟩

theorem atomically_store (h : atomically tx s = (s', r)) : s' = s ∨ ∃ a, tx s = .ok (s', a) := by
  rcases atomically_cases h with ⟨a, hok, -⟩ | ⟨-, -, hs, -⟩
  · exact .inr ⟨a, hok⟩
  · exact .inl hs

/-- The same for the store as `atomically` returns it. -/
theorem atomically_fst (tx : Transaction σ ε α) (s : σ) :
    (atomically tx s).1 = s ∨ ∃ a, tx s = .ok ((atomically tx s).1, a) :=
  atomically_store rfl

theorem atomically_snd (h : (atomically tx s).2 = .ok a) :
    tx s = .ok ((atomically tx s).1, a) := by
  have heq : atomically tx s = ((atomically tx s).1, .ok a) := by rw [← h]
  exact atomically_ok heq

theorem atomically_fst_of_error (h : (atomically tx s).2 = .error e) : (atomically tx s).1 = s := by
  rcases atomically_cases (Prod.eta (atomically tx s)).symm with ⟨a, -, hok⟩ | ⟨-, -, hs, -⟩
  · rw [h] at hok
    cases hok
  · exact hs

end

end Store
