import Mathlib.Data.List.Nodup
import Mathlib.Data.List.Basic
import WebhostBilling.Store.Transaction

/-!
# Lists with keys

A program reads the items of a list one by one, refuses a key for the second time or reports where
it is, and looks an item up under its key.
-/

namespace Store

variable {α β κ : Type}
variable {xs : List α} {ys : List β} {ε : Type} {read : α → Option β}

theorem mapM_eq_some :
    xs.mapM read = some ys ↔ List.Forall₂ (fun x y => read x = some y) xs ys := by
  induction xs generalizing ys with
  | nil =>
    rw [List.mapM_nil, List.forall₂_nil_left_iff, Option.pure_def, Option.some.injEq, eq_comm]
  | cons x xs ih =>
    simp only [List.mapM_cons, eq_some, List.forall₂_cons_left_iff, ih]
    constructor
    · rintro ⟨y, hy, ys, hys, rfl⟩
      exact ⟨y, ys, hy, hys, rfl⟩
    · rintro ⟨y, ys, hy, hys, rfl⟩
      exact ⟨y, hy, ys, hys, rfl⟩

theorem mapM_eq_ok {read : α → Except ε β} :
    xs.mapM read = .ok ys ↔ List.Forall₂ (fun x y => read x = .ok y) xs ys := by
  induction xs generalizing ys with
  | nil => rw [List.mapM_nil, List.forall₂_nil_left_iff, pure_eq_ok, eq_comm]
  | cons x xs ih =>
    simp only [List.mapM_cons, eq_ok, List.forall₂_cons_left_iff, ih]
    constructor
    · rintro ⟨y, hy, ys, hys, rfl⟩
      exact ⟨y, ys, hy, hys, rfl⟩
    · rintro ⟨y, ys, hy, hys, rfl⟩
      exact ⟨y, hy, ys, hys, rfl⟩

theorem forall₂_of_mapM_ok {read : α → Except ε β} {P : α → β → Prop}
    (hread : ∀ x ∈ xs, ∀ y, read x = .ok y → P x y) (h : xs.mapM read = .ok ys) :
    List.Forall₂ P xs ys := by
  have hall := mapM_eq_ok.1 h
  clear h
  induction hall with
  | nil => exact .nil
  | cons hxy _ ih =>
    rw [List.forall_mem_cons] at hread
    exact .cons (hread.1 _ hxy) (ih hread.2)

theorem eq_of_mapM_ok {read : α → Except ε α} {ys : List α}
    (hread : ∀ x ∈ xs, ∀ y, read x = .ok y → x = y) (h : xs.mapM read = .ok ys) : xs = ys := by
  have hall := forall₂_of_mapM_ok hread h
  rwa [List.forall₂_eq_eq_eq] at hall

theorem exists_of_mapM
    (h : xs.mapM read = some ys) {y : β} (hy : y ∈ ys) : ∃ x ∈ xs, read x = some y := by
  have hall := mapM_eq_some.1 h
  obtain ⟨i, hi, rfl⟩ := List.getElem_of_mem hy
  have hlength := hall.length_eq
  exact ⟨xs[i], List.getElem_mem _, List.forall₂_iff_get.1 hall |>.2 i (hlength ▸ hi) hi⟩

theorem map_eq_of_mapM {γ : Type} {f : α → γ} {g : β → γ}
    (hread : ∀ x y, read x = some y → g y = f x)
    (h : xs.mapM read = some ys) : ys.map g = xs.map f := by
  have hall := mapM_eq_some.1 h
  clear h
  induction hall with
  | nil => rfl
  | cons hxy _ ih => rw [List.map_cons, List.map_cons, hread _ _ hxy, ih]

variable [DecidableEq κ]

def readDistinct (read : α → Option β) (key : β → κ) : List κ → List α → Option (List β)
  | _, [] => some []
  | seen, x :: xs => do
    let y ← read x
    guard (key y ∉ seen)
    let ys ← readDistinct read key (seen ++ [key y]) xs
    return y :: ys

variable {key : α → κ}

variable {seen : List κ}

theorem readDistinct_eq_some {key : β → κ} : readDistinct read key seen xs = some ys ↔
      xs.mapM read = some ys ∧ (ys.map key).Nodup ∧ ∀ y ∈ ys, key y ∉ seen := by
  induction xs generalizing seen ys with
  | nil =>
    simp only [readDistinct, List.mapM_nil, Option.pure_def, Option.some.injEq]
    refine ⟨fun h => ⟨h, ?_⟩, And.left⟩
    subst h
    simp
  | cons x xs ih =>
    simp only [readDistinct, eq_some, List.mapM_cons, ih]
    constructor
    · rintro ⟨y, hy, hnew, ys, ⟨hys, hnodup, hseen⟩, rfl⟩
      refine ⟨⟨y, hy, ys, hys, rfl⟩, ?_, ?_⟩
      · rw [List.map_cons, List.nodup_cons]
        refine ⟨fun hmem => ?_, hnodup⟩
        obtain ⟨z, hz, heq⟩ := List.mem_map.1 hmem
        exact hseen z hz (List.mem_append_right _ (List.mem_singleton.2 heq))
      · exact List.forall_mem_cons.2
          ⟨hnew, fun z hz hmem => hseen z hz (List.mem_append_left _ hmem)⟩
    · rintro ⟨⟨y, hy, ys, hys, rfl⟩, hnodup, hseen⟩
      rw [List.map_cons, List.nodup_cons] at hnodup
      rw [List.forall_mem_cons] at hseen
      refine ⟨y, hy, hseen.1, ys, ⟨hys, hnodup.2, fun z hz hmem => ?_⟩, rfl⟩
      rcases List.mem_append.1 hmem with hold | hkey
      · exact hseen.2 z hz hold
      · exact hnodup.1 (List.mem_singleton.1 hkey ▸ List.mem_map_of_mem hz)

def repeatedFrom (key : α → κ) : List κ → ℕ → List α → List ℕ
  | _, _, [] => []
  | seen, i, x :: xs =>
    (if key x ∈ seen then [i] else []) ++ repeatedFrom key (key x :: seen) (i + 1) xs

def repeated (key : α → κ) (xs : List α) : List ℕ := repeatedFrom key [] 0 xs

theorem repeatedFrom_eq_nil {i : ℕ} :
    repeatedFrom key seen i xs = [] ↔ (xs.map key).Nodup ∧ ∀ x ∈ xs, key x ∉ seen := by
  induction xs generalizing seen i with
  | nil => simp [repeatedFrom]
  | cons x xs ih =>
    rw [repeatedFrom, List.append_eq_nil_iff, ih, List.map_cons, List.nodup_cons,
      List.forall_mem_cons]
    have hseen : (if key x ∈ seen then [i] else []) = [] ↔ key x ∉ seen := by
      split <;> simp_all
    rw [hseen]
    constructor
    · rintro ⟨hnew, hnodup, hrest⟩
      refine ⟨⟨fun hmem => ?_, hnodup⟩, hnew, fun y hy hmem => hrest y hy (List.mem_cons_of_mem _ hmem)⟩
      obtain ⟨y, hy, heq⟩ := List.mem_map.1 hmem
      exact hrest y hy (heq ▸ List.mem_cons_self)
    · rintro ⟨⟨hmem, hnodup⟩, hnew, hrest⟩
      refine ⟨hnew, hnodup, fun y hy hkey => ?_⟩
      rcases List.mem_cons.1 hkey with heq | hold
      · exact hmem (heq ▸ List.mem_map_of_mem hy)
      · exact hrest y hy hold

theorem repeated_eq_nil :
    repeated key xs = [] ↔ (xs.map key).Nodup := by
  rw [repeated, repeatedFrom_eq_nil]
  exact and_iff_left fun x _ => List.not_mem_nil

theorem find?_key (h : (xs.map key).Nodup) {k : κ} {x : α} :
    xs.find? (fun y => key y = k) = some x ↔ x ∈ xs ∧ key x = k := by
  constructor
  · intro hfind
    have hkey := List.find?_some hfind
    exact ⟨List.mem_of_find?_eq_some hfind, of_decide_eq_true hkey⟩
  · rintro ⟨hmem, rfl⟩
    induction xs with
    | nil => exact absurd hmem List.not_mem_nil
    | cons y ys ih =>
      rw [List.map_cons, List.nodup_cons] at h
      by_cases hy : y = x
      · subst hy
        exact List.find?_cons_of_pos (decide_eq_true rfl)
      · have hx : x ∈ ys := (List.mem_cons.1 hmem).resolve_left (Ne.symm hy)
        rw [List.find?_cons_of_neg, ih h.2 hx]
        rw [decide_eq_true_eq]
        exact fun heq => h.1 (heq ▸ List.mem_map_of_mem hx)

end Store
