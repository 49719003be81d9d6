import Mathlib.Data.List.Sort
import Mathlib.Data.Nat.Notation

/-!
# Keys and pages

What a query for some rows relies on: that a key made of parts says what its parts are, and that a
row which few rows come before is on the first page.
-/

namespace Store

/-! ## Keys made of parts -/

/-- Of two texts with a separator each, the parts before the first separator agree. -/
theorem append_cons_inj {α : Type} {c : α} {as as' bs bs' : List α} (has : c ∉ as) (has' : c ∉ as')
    (h : as ++ c :: bs = as' ++ c :: bs') : as = as' ∧ bs = bs' := by
  induction as generalizing as' with
  | nil =>
    cases as' with
    | nil => exact ⟨rfl, (List.cons.inj h).2⟩
    | cons a as' => exact absurd (List.mem_cons.2 (.inl (List.cons.inj h).1)) has'
  | cons a as ih =>
    cases as' with
    | nil => exact absurd (List.mem_cons.2 (.inl (List.cons.inj h).1.symm)) has
    | cons a' as' =>
      obtain ⟨rfl, htail⟩ := List.cons.inj h
      obtain ⟨rfl, rfl⟩ := ih (List.not_mem_of_not_mem_cons has)
        (List.not_mem_of_not_mem_cons has') htail
      exact ⟨rfl, rfl⟩

theorem colon_notMem_toString (n : ℕ) : ':' ∉ (toString n).toList := by
  rw [Nat.toString_eq_repr, Nat.toList_repr]
  intro hmem
  have hdigit := Nat.isDigit_of_mem_toDigits (by decide) (by decide) hmem
  exact absurd hdigit (by decide)

theorem toString_nat_injective : Function.Injective (toString : ℕ → String) := by
  intro m n h
  have hdigits := congrArg String.toList h
  rw [Nat.toString_eq_repr, Nat.toString_eq_repr, Nat.toList_repr, Nat.toList_repr] at hdigits
  have hvalue := congrArg (fun digits => Nat.ofDigitChars 10 digits 0) hdigits
  simpa using hvalue

theorem number_colon_inj {m n : ℕ} {a b : String}
    (h : toString m ++ ":" ++ a = toString n ++ ":" ++ b) : m = n ∧ a = b := by
  have hlist := congrArg String.toList h
  simp only [String.toList_append, List.append_assoc] at hlist
  obtain ⟨hnumber, htext⟩ :=
    append_cons_inj (colon_notMem_toString m) (colon_notMem_toString n) hlist
  exact ⟨toString_nat_injective (String.toList_inj.1 hnumber), String.toList_inj.1 htext⟩

theorem leftpad_toDigits_inj {m n k l : ℕ}
    (h : (Nat.toDigits 10 m).leftpad k '0' = (Nat.toDigits 10 n).leftpad l '0') : m = n := by
  have hvalue := congrArg (fun digits => Nat.ofDigitChars 10 digits 0) h
  simpa [List.leftpad, Nat.ofDigitChars_append] using hvalue

/-! ## The first page -/

/-- An element that at most `n` elements come before, itself among them, is one of the first `n`. -/
theorem mem_take_insertionSort {α : Type} {r : α → α → Prop} [DecidableRel r] [Std.Total r]
    [IsTrans α r] {l : List α} {a : α} {n : ℕ} (hmem : a ∈ l)
    (hcount : l.countP (fun b => r b a) ≤ n) : a ∈ (l.insertionSort r).take n := by
  have hsorted := List.mem_insertionSort (r := r).2 hmem
  rw [← List.take_append_drop n (l.insertionSort r), List.mem_append] at hsorted
  rcases hsorted with htake | hdrop
  · exact htake
  · -- Otherwise all of the first `n` come before it, and it comes before itself.
    have hpairs := List.pairwise_insertionSort r l
    rw [← List.take_append_drop n (l.insertionSort r), List.pairwise_append] at hpairs
    have hbefore : ∀ b ∈ (l.insertionSort r).take n, r b a := fun b hb => hpairs.2.2 b hb a hdrop
    have hlength : ((l.insertionSort r).take n).length = n := by
      rw [List.length_take]
      have := List.length_pos_of_mem hdrop
      rw [List.length_drop] at this
      omega
    have hperm := (List.perm_insertionSort r l).countP_eq (fun b => decide (r b a))
    rw [← List.take_append_drop n (l.insertionSort r), List.countP_append] at hperm
    have htaken : ((l.insertionSort r).take n).countP (fun b => decide (r b a)) = n := by
      rw [List.countP_eq_length.2 fun b hb => decide_eq_true (hbefore b hb), hlength]
    have hself : 0 < ((l.insertionSort r).drop n).countP (fun b => decide (r b a)) :=
      List.countP_pos_iff.2 ⟨a, hdrop, decide_eq_true ((Std.Total.total a a).elim id id)⟩
    omega

end Store
