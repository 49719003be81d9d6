import Mathlib.Data.List.Nodup

/-!
# Tables under read committed

A statement sees the rows that were committed before it and those of its own transaction.  Rows are
never updated or deleted, and every row has a key of its own.  What a transaction sees, it sees
again, whatever the others do.
-/

namespace Store

structure Versions (α : Type) where
  rows : List (Option ℕ × α)

namespace Versions

variable {α κ : Type}

def empty : Versions α := ⟨[]⟩

/-- What a statement of a transaction sees; a statement outside of transactions sees what is
committed. -/
def visible (t : Versions α) (viewer : Option ℕ) : List α :=
  (t.rows.filter fun x => x.1 = none ∨ x.1 = viewer).map Prod.snd

def insertNew [DecidableEq κ] (key : α → κ) (t : Versions α) (owner : Option ℕ) (row : α) :
    Option (Versions α × ℕ) :=
  if (t.visible owner).any (fun r => key r = key row) = true then some (t, 0)
  else if t.rows.any (fun x => key x.2 = key row) = true then none
  else some (⟨t.rows ++ [(owner, row)]⟩, 1)

def commit (t : Versions α) (k : ℕ) : Versions α :=
  ⟨t.rows.map fun x => (if x.1 = some k then none else x.1, x.2)⟩

def rollback (t : Versions α) (k : ℕ) : Versions α := ⟨t.rows.filter fun x => x.1 ≠ some k⟩

def Keyed (key : α → κ) (t : Versions α) : Prop := (t.rows.map fun x => key x.2).Nodup

variable {key : α → κ} {t t' : Versions α} {r : α} {viewer owner : Option ℕ} {k : ℕ}

theorem mem_visible : r ∈ t.visible viewer ↔ (none, r) ∈ t.rows ∨ (viewer, r) ∈ t.rows := by
  simp only [visible, List.mem_map, List.mem_filter, decide_eq_true_eq]
  constructor
  · rintro ⟨⟨_, _⟩, ⟨hmem, rfl | rfl⟩, rfl⟩
    · exact .inl hmem
    · exact .inr hmem
  · rintro (hmem | hmem)
    · exact ⟨_, ⟨hmem, .inl rfl⟩, rfl⟩
    · exact ⟨_, ⟨hmem, .inr rfl⟩, rfl⟩

theorem mem_visible_of_committed (h : r ∈ t.visible none) : r ∈ t.visible viewer :=
  mem_visible.2 (.inl ((mem_visible.1 h).elim id id))

theorem Keyed.eq_of_mem (h : t.Keyed key) {x y : Option ℕ × α} (hx : x ∈ t.rows) (hy : y ∈ t.rows)
    (hkey : key x.2 = key y.2) : x = y :=
  List.inj_on_of_nodup_map h hx hy hkey

theorem Keyed.eq_of_visible (h : t.Keyed key) {r' : α} (hr : r ∈ t.visible viewer)
    (hr' : r' ∈ t.visible viewer) (hkey : key r = key r') : r = r' := by
  rcases mem_visible.1 hr with hx | hx <;> rcases mem_visible.1 hr' with hy | hy <;>
    exact congrArg Prod.snd (h.eq_of_mem hx hy hkey)

theorem Keyed.append (h : t.Keyed key) {row : α} (hnew : ∀ x ∈ t.rows, key x.2 ≠ key row) :
    (⟨t.rows ++ [(owner, row)]⟩ : Versions α).Keyed key := by
  rw [Keyed, List.map_append, List.nodup_append]
  refine ⟨h, List.nodup_singleton _, ?_⟩
  rintro _ hx _ hy rfl
  obtain ⟨x, hx, heq⟩ := List.mem_map.1 hx
  exact hnew x hx (heq.trans (List.mem_singleton.1 hy))

/-! ### Inserting -/

section Inserting

variable [DecidableEq κ]
variable {row : α} {n : ℕ}

theorem insertNew_cases (h : t.insertNew key owner row = some (t', n)) :
    (n = 0 ∧ t' = t ∧ ∃ r ∈ t.visible owner, key r = key row) ∨
      n = 1 ∧ t' = ⟨t.rows ++ [(owner, row)]⟩ ∧ ∀ x ∈ t.rows, key x.2 ≠ key row := by
  rw [insertNew] at h
  split at h
  · rename_i hany
    cases h
    simp only [List.any_eq_true, decide_eq_true_eq] at hany
    exact .inl ⟨rfl, rfl, hany⟩
  · split at h
    · cases h
    · rename_i hnone
      cases h
      refine .inr ⟨rfl, rfl, fun x hx heq => hnone ?_⟩
      exact List.any_eq_true.2 ⟨x, hx, decide_eq_true heq⟩

theorem mem_insertNew (h : t.insertNew key owner row = some (t', n))
    {x : Option ℕ × α} (hx : x ∈ t'.rows) : x ∈ t.rows ∨ x = (owner, row) := by
  rcases insertNew_cases h with ⟨-, rfl, -⟩ | ⟨-, rfl, -⟩
  · exact .inl hx
  · exact (List.mem_append.1 hx).imp_right List.mem_singleton.1

theorem visible_insertNew (h : t.insertNew key owner row = some (t', n))
    (hr : r ∈ t.visible viewer) : r ∈ t'.visible viewer := by
  rcases insertNew_cases h with ⟨-, rfl, -⟩ | ⟨-, rfl, -⟩
  · exact hr
  · exact mem_visible.2 ((mem_visible.1 hr).imp (List.mem_append_left _) (List.mem_append_left _))

theorem exists_visible_insertNew (h : t.insertNew key owner row = some (t', n)) :
    ∃ r ∈ t'.visible owner, key r = key row ∧ (n ≠ 0 → r = row) := by
  rcases insertNew_cases h with ⟨rfl, rfl, r, hr, hkey⟩ | ⟨rfl, rfl, -⟩
  · exact ⟨r, hr, hkey, fun hn => absurd rfl hn⟩
  · exact ⟨row, mem_visible.2 (.inr (List.mem_append_right _ (List.mem_singleton.2 rfl))), rfl,
      fun _ => rfl⟩

theorem Keyed.insertNew (hkeyed : t.Keyed key)
    (h : t.insertNew key owner row = some (t', n)) : t'.Keyed key := by
  rcases insertNew_cases h with ⟨-, rfl, -⟩ | ⟨-, rfl, hnew⟩
  · exact hkeyed
  · exact hkeyed.append hnew

end Inserting

/-! ### Ending a transaction -/

theorem mem_commit {x : Option ℕ × α} (hx : x ∈ (t.commit k).rows) :
    ∃ y ∈ t.rows, x = (if y.1 = some k then none else y.1, y.2) := by
  obtain ⟨y, hy, rfl⟩ := List.mem_map.1 hx
  exact ⟨y, hy, rfl⟩

theorem committed_commit (hr : r ∈ t.visible (some k)) : r ∈ (t.commit k).visible none := by
  rcases mem_visible.1 hr with hmem | hmem
  · exact mem_visible.2 (.inl (List.mem_map.2 ⟨_, hmem, by simp⟩))
  · exact mem_visible.2 (.inl (List.mem_map.2 ⟨_, hmem, by simp⟩))

theorem visible_commit (hr : r ∈ t.visible viewer) : r ∈ (t.commit k).visible viewer := by
  by_cases hviewer : viewer = some k
  · subst hviewer
    exact mem_visible_of_committed (committed_commit hr)
  · rcases mem_visible.1 hr with hmem | hmem
    · exact mem_visible.2 (.inl (List.mem_map.2 ⟨_, hmem, by simp⟩))
    · exact mem_visible.2 (.inr (List.mem_map.2 ⟨_, hmem, by simp [hviewer]⟩))

theorem Keyed.commit (h : t.Keyed key) (k : ℕ) : (t.commit k).Keyed key := by
  rw [Keyed, Versions.commit, List.map_map]
  exact h

theorem mem_rollback {x : Option ℕ × α} :
    x ∈ (t.rollback k).rows ↔ x ∈ t.rows ∧ x.1 ≠ some k := by
  rw [rollback, List.mem_filter, decide_eq_true_eq]

theorem visible_rollback (hr : r ∈ t.visible viewer) (hviewer : viewer ≠ some k) :
    r ∈ (t.rollback k).visible viewer := by
  rw [mem_visible, mem_rollback, mem_rollback]
  exact (mem_visible.1 hr).imp (fun hmem => ⟨hmem, nofun⟩) fun hmem => ⟨hmem, hviewer⟩

theorem Keyed.rollback (h : t.Keyed key) (k : ℕ) : (t.rollback k).Keyed key :=
  List.Nodup.sublist (List.Sublist.map _ List.filter_sublist) h

end Versions

end Store
