import WebhostBilling.Store.Transaction

/-!
# How a commit is answered

A client that runs a transaction learns its result from the answer of the database.  The transaction
may fail before it is committed, and its answer may be lost after it was.
-/

namespace Store

inductive Commit
  | answered
  | failed
  | lost

variable {σ ε α : Type}

/-- The store afterwards and what the client learns; `e` is the error of a connection that fails. -/
def Commit.run (commit : Commit) (e : ε) (s : σ) (result : Except ε (σ × α)) : σ × Except ε α :=
  match commit, result with
  | .failed, _ => (s, .error e)
  | .answered, .ok (s', a) => (s', .ok a)
  | .lost, .ok (s', _) => (s', .error e)
  | _, .error e' => (s, .error e')

variable {commit : Commit} {e : ε} {s s' : σ} {result : Except ε (σ × α)}

theorem Commit.run_cases {r : Except ε α} (h : commit.run e s result = (s', r)) :
    (∃ a, result = .ok (s', a) ∧ (r = .ok a ∨ r = .error e)) ∨ (s' = s ∧ ∃ e', r = .error e') := by
  unfold Commit.run at h
  split at h
  · cases h
    exact .inr ⟨rfl, _, rfl⟩
  · cases h
    exact .inl ⟨_, rfl, .inl rfl⟩
  · cases h
    exact .inl ⟨_, rfl, .inr rfl⟩
  · cases h
    exact .inr ⟨rfl, _, rfl⟩

theorem Commit.run_ok {a : α} (h : commit.run e s result = (s', .ok a)) : result = .ok (s', a) := by
  rcases run_cases h with ⟨b, hb, hr | hr⟩ | ⟨-, _, hr⟩
  · rw [hb, Except.ok.inj hr]
  · exact nomatch hr
  · exact nomatch hr

end Store
