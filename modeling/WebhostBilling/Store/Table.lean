import Mathlib.Data.List.Basic
import Mathlib.Algebra.Order.BigOperators.Group.List
import Mathlib.Algebra.Order.Ring.Int

/-!
# Tables of rows

A row is never deleted: its identifier is the position at which it was inserted, so identifiers are
never reused and a row, once there, can be found for ever under its own.

* `total p f` is the sum of `f` over the rows that satisfy `p`; the lemmas say by how much each
  write moves it, which is all a ledger proof needs.
* `Table.Grows R` says that every row is still there and has moved along `R`, and `Table.Keeps f`
  that no row is new and `f` shows the same of every row.
-/

namespace Store

/-- Rows under their positions. -/
structure Table (α : Type) where
  rows : List α
deriving DecidableEq

namespace Table

section

variable {α : Type}

def empty : Table α := ⟨[]⟩

instance : EmptyCollection (Table α) := ⟨empty⟩
instance : Inhabited (Table α) := ⟨empty⟩

def size (t : Table α) : ℕ := t.rows.length

def get? (t : Table α) (id : ℕ) : Option α := t.rows[id]?

def insert (t : Table α) (row : α) : Table α := ⟨t.rows ++ [row]⟩

def insertAll (t : Table α) (rows : List α) : Table α := ⟨t.rows ++ rows⟩

/-- Rewrite the row with an identifier; without such a row, nothing happens. -/
def update (t : Table α) (id : ℕ) (f : α → α) : Table α := ⟨t.rows.modify id f⟩

/-- Rewrite every row that satisfies `p`. -/
def updateWhere (t : Table α) (p : ℕ → α → Bool) (f : α → α) : Table α :=
  ⟨t.rows.mapIdx fun id row => if p id row then f row else row⟩

/-- The first row that satisfies `p`, with its identifier. -/
def find? (t : Table α) (p : ℕ → α → Bool) : Option (ℕ × α) :=
  (t.rows.zipIdx.find? fun entry => p entry.2 entry.1).map fun entry => (entry.2, entry.1)

/-- Some row satisfies `p`. -/
def any (t : Table α) (p : ℕ → α → Bool) : Bool :=
  t.rows.zipIdx.any fun entry => p entry.2 entry.1

/-- The rows that satisfy `p`, with their identifiers. -/
def select (t : Table α) (p : ℕ → α → Bool) : List (ℕ × α) :=
  (t.rows.zipIdx.filter fun entry => p entry.2 entry.1).map fun entry => (entry.2, entry.1)

/-- The sum of `f` over the rows that satisfy `p`. -/
def total (t : Table α) (p : α → Bool) (f : α → ℤ) : ℤ :=
  (t.rows.map fun row => if p row then f row else 0).sum

def map {β : Type} (t : Table α) (f : α → β) : Table β := ⟨t.rows.map f⟩

/-! ## Reading after a write -/

theorem get?_empty (id : ℕ) : (∅ : Table α).get? id = none := rfl

variable {rows : List α} {t : Table α} {r row : α} {f g : α → α} {id : ℕ} {p : ℕ → α → Bool}

theorem get?_empty_ne : (∅ : Table α).get? id ≠ some row := by
  rw [get?_empty]
  exact fun h => nomatch h

theorem eq_of_get?_singleton (h : (⟨[row]⟩ : Table α).get? id = some r) :
    id = 0 ∧ r = row := by
  rw [get?, List.getElem?_singleton] at h
  split at h
  · rename_i hid
    exact ⟨hid, (Option.some.inj h).symm⟩
  · exact nomatch h

theorem lt_size_of_get? (h : t.get? id = some row) :
    id < t.size :=
  (List.getElem?_eq_some_iff.1 h).1

theorem exists_get?_of_lt_size (h : id < t.size) :
    ∃ row, t.get? id = some row :=
  ⟨t.rows.get ⟨id, h⟩, List.getElem?_eq_getElem h⟩

theorem get?_size (t : Table α) : t.get? t.size = none :=
  List.getElem?_eq_none (Nat.le_refl _)

@[simp] theorem size_insert (t : Table α) (row : α) : (t.insert row).size = t.size + 1 := by
  simp [size, insert]

@[simp] theorem size_update (t : Table α) (id : ℕ) (f : α → α) : (t.update id f).size = t.size := by
  simp [size, update]

@[simp] theorem size_updateWhere (t : Table α) (p : ℕ → α → Bool) (f : α → α) :
    (t.updateWhere p f).size = t.size := by
  simp [size, updateWhere]

theorem get?_insert (t : Table α) (row : α) (id : ℕ) :
    (t.insert row).get? id = if id = t.size then some row else t.get? id := by
  rw [get?, insert, get?, size, List.getElem?_append]
  split
  · rw [if_neg (by omega)]
  · rename_i h
    rw [List.getElem?_singleton]
    split
    · rw [if_pos (by omega)]
    · rw [if_neg (by omega), List.getElem?_eq_none (by omega)]

theorem get?_insert_self (t : Table α) (row : α) : (t.insert row).get? t.size = some row := by
  rw [get?_insert, if_pos rfl]

theorem get?_insert_of_some (h : t.get? id = some r) :
    (t.insert row).get? id = some r := by
  rw [get?_insert, if_neg (Nat.ne_of_lt (lt_size_of_get? h)), h]

theorem get?_insert_cases (h : (t.insert row).get? id = some r) :
    (id = t.size ∧ r = row) ∨ t.get? id = some r := by
  rw [get?_insert] at h
  split at h
  · rename_i hid
    exact .inl ⟨hid, (Option.some.inj h).symm⟩
  · exact .inr h

theorem insertAll_nil (t : Table α) : t.insertAll [] = t := by
  rw [insertAll, List.append_nil]

theorem insert_insertAll (t : Table α) (row : α) (rows : List α) :
    (t.insert row).insertAll rows = t.insertAll (row :: rows) := by
  rw [insert, insertAll, insertAll, List.append_assoc, List.singleton_append]

theorem insert_eq_insertAll (t : Table α) (row : α) : t.insert row = t.insertAll [row] := rfl

theorem get?_insertAll_of_some (h : t.get? id = some r) : (t.insertAll rows).get? id = some r := by
  rw [get?, insertAll, List.getElem?_append_left (lt_size_of_get? h)]
  exact h

theorem get?_insertAll_add (t : Table α) (rows : List α) (k : ℕ) :
    (t.insertAll rows).get? (t.size + k) = rows[k]? := by
  rw [get?, insertAll, size, List.getElem?_append_right (Nat.le_add_right _ _),
    Nat.add_sub_cancel_left]

theorem get?_insertAll_position (h : (t.insertAll rows).get? id = some r) :
    (∃ k, id = t.size + k ∧ rows[k]? = some r) ∨ t.get? id = some r := by
  by_cases hid : id < t.size
  · rw [get?, insertAll, List.getElem?_append_left hid] at h
    exact .inr h
  · obtain ⟨k, rfl⟩ := Nat.exists_eq_add_of_le (Nat.le_of_not_lt hid)
    rw [get?_insertAll_add] at h
    exact .inl ⟨k, rfl, h⟩

theorem get?_insertAll_cases (h : (t.insertAll rows).get? id = some r) :
    (t.size ≤ id ∧ r ∈ rows) ∨ t.get? id = some r := by
  rcases get?_insertAll_position h with ⟨k, rfl, hk⟩ | hbefore
  · exact .inl ⟨Nat.le_add_right _ _, List.mem_of_getElem? hk⟩
  · exact .inr hbefore

theorem update_insert_self (t : Table α) (row : α) (f : α → α) :
    (t.insert row).update t.size f = t.insert (f row) := by
  obtain ⟨rows⟩ := t
  simp only [insert, update, size, mk.injEq]
  induction rows with
  | nil => rfl
  | cons r rows ih => simpa using ih

theorem get?_update (t : Table α) (id : ℕ) (f : α → α) (j : ℕ) :
    (t.update id f).get? j = if id = j then (t.get? j).map f else t.get? j := by
  rw [get?, update, List.getElem?_modify]
  split
  · rfl
  · simp [get?]

theorem get?_update_self (h : t.get? id = some row) :
    (t.update id f).get? id = some (f row) := by
  rw [get?_update, if_pos rfl, h, Option.map_some]

theorem get?_update_of_ne {j : ℕ} (h : id ≠ j) :
    (t.update id f).get? j = t.get? j := by
  rw [get?_update, if_neg h]

theorem get?_update_cases {j : ℕ} (h : (t.update id f).get? j = some r) :
    (id = j ∧ ∃ row, t.get? id = some row ∧ r = f row) ∨ (id ≠ j ∧ t.get? j = some r) := by
  rw [get?_update] at h
  split at h
  · rename_i hid
    obtain ⟨row, hrow, rfl⟩ := Option.map_eq_some_iff.1 h
    exact .inl ⟨hid, row, hid ▸ hrow, rfl⟩
  · rename_i hid
    exact .inr ⟨hid, h⟩

theorem update_congr
    (h : ∀ row, t.get? id = some row → f row = g row) : t.update id f = t.update id g := by
  obtain ⟨rows⟩ := t
  simp only [update, mk.injEq]
  simp only [get?] at h
  induction rows generalizing id with
  | nil => simp
  | cons r rows ih =>
    cases id with
    | zero => simpa using h r rfl
    | succ id => simpa using ih h

theorem update_eq_self (h : ∀ row, t.get? id = some row → f row = row) : t.update id f = t := by
  have hid : t.update id f = t.update id fun row => row := update_congr h
  rw [hid]
  exact congrArg mk (List.modify_id id _)

theorem get?_updateWhere (t : Table α) (p : ℕ → α → Bool) (f : α → α) (id : ℕ) :
    (t.updateWhere p f).get? id = (t.get? id).map fun row => if p id row then f row else row := by
  rw [get?, updateWhere, List.getElem?_mapIdx, get?]

theorem get?_updateWhere_cases (h : (t.updateWhere p f).get? id = some r) :
    ∃ row, t.get? id = some row ∧ r = if p id row then f row else row := by
  rw [get?_updateWhere, Option.map_eq_some_iff] at h
  obtain ⟨row, hrow, rfl⟩ := h
  exact ⟨row, hrow, rfl⟩

/-! ## Searching -/

theorem find?_eq_some
    (h : t.find? p = some (id, row)) : t.get? id = some row ∧ p id row = true := by
  rw [find?, Option.map_eq_some_iff] at h
  obtain ⟨entry, hfind, heq⟩ := h
  obtain ⟨rfl, rfl⟩ := Prod.mk.inj heq
  have hp := List.find?_some hfind
  exact ⟨List.mem_zipIdx_iff_getElem?.1 (List.mem_of_find?_eq_some hfind), hp⟩

theorem find?_eq_none :
    t.find? p = none ↔ ∀ id row, t.get? id = some row → p id row = false := by
  rw [find?, Option.map_eq_none_iff, List.find?_eq_none]
  constructor
  · intro h id row hrow
    have := h (row, id) (List.mem_zipIdx_iff_getElem?.2 hrow)
    simpa using this
  · rintro h ⟨row, id⟩ hmem
    simpa using h id row (List.mem_zipIdx_iff_getElem?.1 hmem)

theorem any_eq_true :
    t.any p = true ↔ ∃ id row, t.get? id = some row ∧ p id row = true := by
  rw [any, List.any_eq_true]
  constructor
  · rintro ⟨⟨row, id⟩, hmem, hp⟩
    exact ⟨id, row, List.mem_zipIdx_iff_getElem?.1 hmem, hp⟩
  · rintro ⟨id, row, hrow, hp⟩
    exact ⟨(row, id), List.mem_zipIdx_iff_getElem?.2 hrow, hp⟩

theorem any_eq_false :
    t.any p = false ↔ ∀ id row, t.get? id = some row → p id row = false := by
  rw [← Bool.not_eq_true, any_eq_true]
  constructor
  · intro h id row hrow
    rw [← Bool.not_eq_true]
    exact fun hp => h ⟨id, row, hrow, hp⟩
  · rintro h ⟨id, row, hrow, hp⟩
    rw [h id row hrow] at hp
    exact absurd hp (by simp)

theorem mem_select :
    (id, row) ∈ t.select p ↔ t.get? id = some row ∧ p id row = true := by
  rw [select, List.mem_map]
  constructor
  · rintro ⟨⟨row', id'⟩, hmem, heq⟩
    obtain ⟨rfl, rfl⟩ := Prod.mk.inj heq
    rw [List.mem_filter] at hmem
    exact ⟨List.mem_zipIdx_iff_getElem?.1 hmem.1, hmem.2⟩
  · rintro ⟨hrow, hp⟩
    exact ⟨(row, id), List.mem_filter.2 ⟨List.mem_zipIdx_iff_getElem?.2 hrow, hp⟩, rfl⟩

theorem nodup_select (t : Table α) (p : ℕ → α → Bool) : ((t.select p).map Prod.fst).Nodup := by
  have hids : (t.rows.zipIdx.map Prod.snd).Nodup := by
    rw [List.zipIdx_map_snd]
    exact List.nodup_range'
  rw [select, List.map_map]
  exact hids.sublist (List.filter_sublist.map Prod.snd)

theorem select_insert (t : Table α) (row : α) (p : ℕ → α → Bool) :
    (t.insert row).select p = t.select p ++ if p t.size row then [(t.size, row)] else [] := by
  rw [select, insert, List.zipIdx_append, List.filter_append, List.map_append, select, size]
  simp only [List.zipIdx_cons, List.zipIdx_nil, Nat.zero_add, List.filter_cons, List.filter_nil]
  split <;> rfl

theorem map_zipIdx_modify (rows : List α) (id n : ℕ) (f : α → α) :
    (rows.modify id f).zipIdx n =
      (rows.zipIdx n).map fun entry => if entry.2 = n + id then (f entry.1, entry.2) else entry := by
  induction rows generalizing id n with
  | nil => simp
  | cons row rows ih =>
    cases id with
    | zero =>
      have hrest : ∀ entry ∈ rows.zipIdx (n + 1),
          (if entry.2 = n then (f entry.1, entry.2) else entry) = entry := by
        intro entry hentry
        have := List.le_snd_of_mem_zipIdx hentry
        rw [if_neg (by omega)]
      simp only [List.modify_zero_cons, List.zipIdx_cons, List.map_cons, Nat.add_zero, if_true]
      rw [List.map_congr_left hrest, List.map_id']
    | succ id =>
      simp only [List.modify_succ_cons, List.zipIdx_cons, List.map_cons]
      rw [ih, if_neg (by omega)]
      refine congrArg _ (List.map_congr_left fun entry _ => ?_)
      rw [show n + 1 + id = n + (id + 1) by omega]

theorem select_update (h : ∀ row, t.get? id = some row → p id (f row) = p id row) :
    (t.update id f).select p =
      (t.select p).map fun entry => if entry.1 = id then (entry.1, f entry.2) else entry := by
  rw [select, update, map_zipIdx_modify, List.filter_map, List.map_map, select, List.map_map]
  have hfilter : (t.rows.zipIdx.filter ((fun entry => p entry.2 entry.1) ∘ fun entry =>
      if entry.2 = 0 + id then (f entry.1, entry.2) else entry)) =
      t.rows.zipIdx.filter fun entry => p entry.2 entry.1 := by
    refine List.filter_congr fun entry hentry => ?_
    simp only [Function.comp_apply, Nat.zero_add]
    split
    · rename_i hid
      subst hid
      exact h entry.1 (List.mem_zipIdx_iff_getElem?.1 hentry)
    · rfl
  rw [hfilter]
  refine List.map_congr_left fun entry _ => ?_
  simp only [Function.comp_apply, Nat.zero_add]
  split <;> rfl

instance decidableForallRows {p : ℕ → α → Prop} [∀ id row, Decidable (p id row)] (t : Table α) :
    Decidable (∀ id row, t.get? id = some row → p id row) :=
  decidable_of_iff (∀ entry ∈ t.rows.zipIdx, p entry.2 entry.1)
    ⟨fun h id row hrow => h (row, id) (List.mem_zipIdx_iff_getElem?.2 hrow),
      fun h entry hentry => h entry.2 entry.1 (List.mem_zipIdx_iff_getElem?.1 hentry)⟩

instance decidableExistsRow {p : ℕ → α → Prop} [∀ id row, Decidable (p id row)] (t : Table α) :
    Decidable (∃ id row, t.get? id = some row ∧ p id row) :=
  decidable_of_iff (t.any (fun id row => p id row) = true) (by
    simp only [any_eq_true, decide_eq_true_eq])

/-! ## Totals -/

theorem total_empty (p : α → Bool) (f : α → ℤ) : (∅ : Table α).total p f = 0 := rfl

theorem total_insert (t : Table α) (row : α) (p : α → Bool) (f : α → ℤ) :
    (t.insert row).total p f = t.total p f + if p row then f row else 0 := by
  simp [total, insert]

theorem total_update (h : t.get? id = some row) (p : α → Bool) (f : α → ℤ) :
    (t.update id g).total p f =
      t.total p f - (if p row then f row else 0) + if p (g row) then f (g row) else 0 := by
  obtain ⟨rows⟩ := t
  simp only [total, update, get?] at h ⊢
  induction rows generalizing id with
  | nil => exact absurd h (by simp)
  | cons r rows ih =>
    cases id with
    | zero =>
      obtain rfl := Option.mem_unique List.getElem?_cons_zero h
      simp only [List.modify_zero_cons, List.map_cons, List.sum_cons]
      omega
    | succ id =>
      rw [List.getElem?_cons_succ] at h
      simp only [List.modify_succ_cons, List.map_cons, List.sum_cons]
      rw [ih h]
      omega

theorem total_update_eq {p : α → Bool} {f : α → ℤ} (h : ∀ row, t.get? id = some row →
      (if p (g row) then f (g row) else 0) = if p row then f row else 0) :
    (t.update id g).total p f = t.total p f := by
  cases hrow : t.get? id with
  | none =>
    have : t.rows.modify id g = t.rows := List.modify_eq_self (List.getElem?_eq_none_iff.1 hrow)
    rw [update, this]
  | some row =>
    rw [total_update hrow, h row hrow]
    omega

theorem total_congr {p q : α → Bool} {f : α → ℤ}
    (h : ∀ id row, t.get? id = some row → p row = q row) : t.total p f = t.total q f := by
  rw [total, total]
  refine congrArg List.sum (List.map_congr_left fun row hmem => ?_)
  obtain ⟨id, hid⟩ := List.mem_iff_getElem?.1 hmem
  rw [h id row hid]

theorem total_eq_zero {p : α → Bool} {f : α → ℤ}
    (h : ∀ id row, t.get? id = some row → p row = false) : t.total p f = 0 := by
  apply List.sum_eq_zero
  intro x hx
  obtain ⟨row, hmem, rfl⟩ := List.mem_map.1 hx
  obtain ⟨id, hid⟩ := List.mem_iff_getElem?.1 hmem
  rw [h id row hid]
  rfl

/-! ## Views -/

section Map

variable {β : Type}

@[simp] theorem size_map (t : Table α) (f : α → β) : (t.map f).size = t.size := by
  simp [size, map]

theorem get?_map (t : Table α) (f : α → β) (id : ℕ) : (t.map f).get? id = (t.get? id).map f := by
  rw [get?, map, List.getElem?_map, get?]

theorem map_insert (t : Table α) (row : α) (f : α → β) :
    (t.insert row).map f = (t.map f).insert (f row) := by
  simp [map, insert]

variable {f : α → β}

theorem map_update {g' : β → β} (h : ∀ row, t.get? id = some row → f (g row) = g' (f row)) :
    (t.update id g).map f = (t.map f).update id g' := by
  obtain ⟨rows⟩ := t
  simp only [map, update, mk.injEq]
  induction rows generalizing id with
  | nil => simp
  | cons r rows ih =>
    cases id with
    | zero => simp [h r rfl]
    | succ id => simpa using ih h

theorem map_update_eq (h : ∀ row, t.get? id = some row → f (g row) = f row) :
    (t.update id g).map f = t.map f := by
  have hview : (t.update id g).map f = (t.map f).update id fun b => b := map_update h
  rw [hview]
  exact congrArg mk (List.modify_id id _)

theorem map_updateWhere_eq (h : ∀ row, f (g row) = f row) :
    (t.updateWhere p g).map f = t.map f := by
  simp only [map, updateWhere, mk.injEq]
  refine List.ext_getElem? fun id => ?_
  rw [List.getElem?_map, List.getElem?_mapIdx, List.getElem?_map]
  cases t.rows[id]? with
  | none => rfl
  | some row =>
    simp only [Option.map_some, Option.some.injEq]
    split
    · exact h row
    · rfl

theorem total_map (t : Table α) (f : α → β) (p : β → Bool) (g : β → ℤ) :
    (t.map f).total p g = t.total (fun row => p (f row)) fun row => g (f row) := by
  simp [total, map, Function.comp_def]

end Map

/-! ## Growth -/

/-- Every row of `t` is still in `t'`, where it has moved along `R`. -/
def Grows (R : α → α → Prop) (t t' : Table α) : Prop :=
  ∀ id row, t.get? id = some row → ∃ row', t'.get? id = some row' ∧ R row row'

variable {t' : Table α} {R : α → α → Prop}

theorem Grows.refl (hR : ∀ a, R a a) (t : Table α) : Grows R t t :=
  fun _ row h => ⟨row, h, hR row⟩

theorem Grows.trans (hR : ∀ a b c, R a b → R b c → R a c) {t₁ t₂ t₃ : Table α}
    (h₁ : Grows R t₁ t₂) (h₂ : Grows R t₂ t₃) : Grows R t₁ t₃ := by
  intro id row h
  obtain ⟨row₂, hrow₂, hR₁⟩ := h₁ id row h
  obtain ⟨row₃, hrow₃, hR₂⟩ := h₂ id row₂ hrow₂
  exact ⟨row₃, hrow₃, hR _ _ _ hR₁ hR₂⟩

theorem Grows.size_le (h : Grows R t t') :
    t.size ≤ t'.size := by
  cases hsize : t.size with
  | zero => exact Nat.zero_le _
  | succ n =>
    have hlt : n < t.size := by omega
    obtain ⟨row, hrow⟩ := exists_get?_of_lt_size hlt
    obtain ⟨row', hrow', -⟩ := h n row hrow
    exact lt_size_of_get? hrow'

/-- A table that gained no row has each of its rows from before. -/
theorem Grows.before (h : Grows R t t') (hsize : t'.size = t.size) {row' : α}
    (hrow' : t'.get? id = some row') : ∃ row, t.get? id = some row ∧ R row row' := by
  obtain ⟨row, hrow⟩ := exists_get?_of_lt_size (hsize ▸ lt_size_of_get? hrow')
  obtain ⟨moved, hmoved, hR⟩ := h id row hrow
  obtain rfl := Option.mem_unique hmoved hrow'
  exact ⟨row, hrow, hR⟩

theorem grows_insert (hR : ∀ a, R a a) (t : Table α) (row : α) :
    Grows R t (t.insert row) :=
  fun _ r h => ⟨r, get?_insert_of_some h, hR r⟩

theorem grows_update (hR : ∀ a, R a a) (h : ∀ row, t.get? id = some row → R row (f row)) :
    Grows R t (t.update id f) := by
  intro j row hrow
  by_cases hid : id = j
  · subst hid
    exact ⟨f row, get?_update_self hrow, h row hrow⟩
  · exact ⟨row, by rw [get?_update_of_ne hid, hrow], hR row⟩

theorem grows_updateWhere (hR : ∀ a, R a a)
    (h : ∀ id row, t.get? id = some row → p id row = true → R row (f row)) :
    Grows R t (t.updateWhere p f) := by
  intro j row hrow
  refine ⟨_, by rw [get?_updateWhere, hrow, Option.map_some], ?_⟩
  split
  · rename_i hp
    exact h j row hrow hp
  · exact hR row

theorem length_select_le (h : Grows R t t') (hsize : t'.size = t.size)
    (hp : ∀ id row row', R row row' → p id row' = true → p id row = true) :
    (t'.select p).length ≤ (t.select p).length := by
  have hsub : (t'.select p).map Prod.fst ⊆ (t.select p).map Prod.fst := by
    intro id hid
    obtain ⟨⟨_, row'⟩, hmem, rfl⟩ := List.mem_map.1 hid
    obtain ⟨hrow', hselected⟩ := mem_select.1 hmem
    obtain ⟨row, hrow, hR⟩ := h.before hsize hrow'
    exact List.mem_map.2 ⟨(_, row), mem_select.2 ⟨hrow, hp _ _ _ hR hselected⟩, rfl⟩
  have := (List.subperm_of_subset (t'.nodup_select p) hsub).length_le
  simpa using this

theorem Grows.map_eq {β : Type} (h : Grows R t t') (hsize : t'.size = t.size) {f : α → β}
    (hf : ∀ id row row', t.get? id = some row → R row row' → f row' = f row) :
    t'.map f = t.map f := by
  refine congrArg mk (List.ext_getElem? fun id => ?_)
  rw [List.getElem?_map, List.getElem?_map]
  cases hrow : t.rows[id]? with
  | none =>
    have hid : t.size ≤ id := List.getElem?_eq_none_iff.1 hrow
    rw [← hsize] at hid
    rw [List.getElem?_eq_none hid]
  | some row =>
    obtain ⟨row', hrow', hR⟩ := h id row hrow
    rw [get?] at hrow'
    rw [hrow', Option.map_some, Option.map_some, hf id row row' hrow hR]

/-! ## Kept columns -/

section Keeps

variable {β : Type}

/-- No row of `t'` is new, and every row shows the same of itself as it did in `t`. -/
def Keeps (f : α → β) (t t' : Table α) : Prop :=
  ∀ id row', t'.get? id = some row' → ∃ row, t.get? id = some row ∧ f row' = f row

theorem Keeps.refl (f : α → β) (t : Table α) : Keeps f t t := fun _ row h => ⟨row, h, rfl⟩

variable {f : α → β}

theorem Keeps.trans {t₁ t₂ t₃ : Table α} (h₁ : Keeps f t₁ t₂) (h₂ : Keeps f t₂ t₃) :
    Keeps f t₁ t₃ := by
  intro id row₃ h
  obtain ⟨row₂, hrow₂, hf₂⟩ := h₂ id row₃ h
  obtain ⟨row₁, hrow₁, hf₁⟩ := h₁ id row₂ hrow₂
  exact ⟨row₁, hrow₁, hf₂.trans hf₁⟩

theorem Keeps.comp {γ : Type} (h : Keeps f t t') (g : β → γ) :
    Keeps (fun row => g (f row)) t t' := by
  intro id row' hrow'
  obtain ⟨row, hrow, hf⟩ := h id row' hrow'
  exact ⟨row, hrow, congrArg g hf⟩

theorem keeps_update (h : ∀ row, t.get? id = some row → f (g row) = f row) :
    Keeps f t (t.update id g) := by
  intro j row' hrow'
  rcases get?_update_cases hrow' with ⟨rfl, row, hrow, rfl⟩ | ⟨-, hrow⟩
  · exact ⟨row, hrow, h row hrow⟩
  · exact ⟨row', hrow, rfl⟩

theorem keeps_updateWhere
    (h : ∀ id row, t.get? id = some row → p id row = true → f (g row) = f row) :
    Keeps f t (t.updateWhere p g) := by
  intro j row' hrow'
  obtain ⟨row, hrow, rfl⟩ := get?_updateWhere_cases hrow'
  refine ⟨row, hrow, ?_⟩
  split
  · rename_i hp
    exact h j row hrow hp
  · rfl

end Keeps

/-! ## What newly counts -/

/-- The sum of `f` over the rows of `t'` that satisfy `p` and did not satisfy it in `t`, where they
may not even have been. -/
def newTotal (t t' : Table α) (p : α → Bool) (f : α → ℤ) : ℤ :=
  ((t.rows.zip t'.rows).map fun rows =>
      if p rows.2 = true ∧ p rows.1 = false then f rows.2 else 0).sum +
    (mk (t'.rows.drop t.rows.length)).total p f

theorem total_eq_add_newTotal {t t' : Table α} {p : α → Bool} {f : α → ℤ}
    (h : Grows (fun row row' => p row = true → p row' = true ∧ f row' = f row) t t') :
    t'.total p f = t.total p f + newTotal t t' p f := by
  obtain ⟨rows⟩ := t
  obtain ⟨rows'⟩ := t'
  simp only [Grows, get?, total, newTotal] at h ⊢
  induction rows generalizing rows' with
  | nil => simp
  | cons row rows ih =>
    cases rows' with
    | nil =>
      obtain ⟨_, hrow, -⟩ := h 0 row rfl
      exact nomatch hrow
    | cons row' rows' =>
      have hrest := ih rows' fun id r hr => h (id + 1) r hr
      obtain ⟨_, hrow', hrow⟩ := h 0 row rfl
      obtain rfl := Option.some.inj hrow'
      simp only [List.zip_cons_cons, List.map_cons, List.sum_cons, List.length_cons,
        List.drop_succ_cons]
      rw [hrest]
      cases hp : p row with
      | true =>
        obtain ⟨hp', hf⟩ := hrow hp
        simp [hp', hf, Int.add_assoc]
      | false =>
        simp only [Bool.false_eq_true, if_false, and_true]
        omega

end

end Table

end Store
