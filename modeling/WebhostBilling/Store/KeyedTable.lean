import Mathlib.Data.List.Nodup
import WebhostBilling.Store.Table

/-!
# Tables whose rows have keys

A row may have a key that whoever inserts it has chosen.  `lookup` is the first row with a key,
which stays the first whatever is inserted later; `Keyed` says that every key is there once.
-/

namespace Store

namespace Table

variable {α κ : Type} [DecidableEq κ] {t : Table α} {key : α → κ} {k : κ} {row r : α} {id : ℕ}

def lookup (t : Table α) (key : α → κ) (k : κ) : Option α := t.rows.find? fun row => key row = k

omit [DecidableEq κ] in
def Keyed (key : α → κ) (t : Table α) : Prop := (t.rows.map key).Nodup

theorem lookup_eq_some (h : t.lookup key k = some row) :
    key row = k ∧ ∃ id, t.get? id = some row := by
  rw [lookup] at h
  have hkey := List.find?_some h
  exact ⟨of_decide_eq_true hkey, List.mem_iff_getElem?.1 (List.mem_of_find?_eq_some h)⟩

theorem lookup_eq_none :
    t.lookup key k = none ↔ ∀ id row, t.get? id = some row → key row ≠ k := by
  rw [lookup, List.find?_eq_none]
  constructor
  · intro h id row hrow hkey
    exact h row (List.mem_of_getElem? hrow) (decide_eq_true hkey)
  · intro h row hmem hkey
    obtain ⟨id, hrow⟩ := List.mem_iff_getElem?.1 hmem
    exact h id row hrow (of_decide_eq_true hkey)

/-! ## Keys that are there once -/

omit [DecidableEq κ] in
theorem keyed_empty : Keyed key (∅ : Table α) := List.nodup_nil

omit [DecidableEq κ] in
theorem Keyed.eq_of_get? (h : t.Keyed key) {i j : ℕ} {a b : α} (ha : t.get? i = some a)
    (hb : t.get? j = some b) (hkey : key a = key b) : i = j := by
  have hlt : i < (t.rows.map key).length := by
    rw [List.length_map]
    exact lt_size_of_get? ha
  refine (List.getElem?_inj hlt h).1 ?_
  rw [List.getElem?_map, List.getElem?_map]
  show (t.get? i).map key = (t.get? j).map key
  rw [ha, hb, Option.map_some, Option.map_some, hkey]

theorem Keyed.insert (h : t.Keyed key) (hnew : t.lookup key (key row) = none) :
    (t.insert row).Keyed key := by
  rw [Keyed, Table.insert, List.map_append, List.map_singleton]
  refine List.Nodup.append h (List.nodup_singleton _) ?_
  rw [List.disjoint_singleton]
  intro hmem
  obtain ⟨r, hr, hkey⟩ := List.mem_map.1 hmem
  obtain ⟨id, hid⟩ := List.mem_iff_getElem?.1 hr
  exact lookup_eq_none.1 hnew id r hid hkey

omit [DecidableEq κ] in
theorem Keyed.updateWhere (h : t.Keyed key) {p : ℕ → α → Bool} {f : α → α}
    (hf : ∀ row, key (f row) = key row) : (t.updateWhere p f).Keyed key := by
  have hsame : (t.updateWhere p f).map key = t.map key := map_updateWhere_eq hf
  rw [Keyed, ← show (t.map key).rows = t.rows.map key from rfl, ← hsame] at h
  exact h

/-! ## Looking up after a write -/

theorem lookup_insert_of_some (h : t.lookup key k = some r) :
    (t.insert row).lookup key k = some r := by
  rw [lookup, Table.insert, List.find?_append]
  rw [lookup] at h
  rw [h, Option.some_or]

theorem lookup_insert_of_none (h : t.lookup key k = none) :
    (t.insert row).lookup key k = if key row = k then some row else none := by
  rw [lookup, Table.insert, List.find?_append]
  rw [lookup] at h
  rw [h, Option.none_or, List.find?_singleton]
  by_cases hkey : key row = k <;> simp [hkey]

theorem lookup_insert_cases (h : (t.insert row).lookup key k = some r) :
    t.lookup key k = some r ∨ (t.lookup key k = none ∧ key row = k ∧ r = row) := by
  cases hold : t.lookup key k with
  | some r' =>
    rw [lookup_insert_of_some hold] at h
    exact .inl h
  | none =>
    rw [lookup_insert_of_none hold] at h
    split at h
    · rename_i hkey
      exact .inr ⟨rfl, hkey, (Option.some.inj h).symm⟩
    · cases h

theorem lookup_updateWhere {p : α → Bool} {f : α → α} (hf : ∀ row, key (f row) = key row) :
    (t.updateWhere (fun _ row => p row) f).lookup key k =
      (t.lookup key k).map fun row => if p row then f row else row := by
  have hkey : ∀ row, key (if p row then f row else row) = key row := by
    intro row
    split
    · exact hf row
    · rfl
  have hrows : (t.updateWhere (fun _ row => p row) f).rows =
      t.rows.map fun row => if p row then f row else row := by
    refine List.ext_getElem? fun id => ?_
    rw [updateWhere, List.getElem?_mapIdx, List.getElem?_map]
  rw [lookup, hrows, List.find?_map, lookup]
  refine congrArg (Option.map _) (congrArg (List.find? · t.rows) (funext fun row => ?_))
  rw [Function.comp_apply, hkey]

end Table

end Store
