import Mathlib.Data.List.Basic

/-!
# Delimited tables

The writer puts every field in quotes and doubles the quotes in it.  The reader is a reader of
RFC 4180: a field is quoted as a whole or has no quote, and a record ends with a line break of two
characters, which the last one may lack.
-/

namespace Delimited

structure Dialect (α : Type) where
  quote : α
  separator : α
  cr : α
  lf : α
  separator_ne : separator ≠ quote
  cr_ne : cr ≠ quote ∧ cr ≠ separator

variable {α : Type} [DecidableEq α] (d : Dialect α)

/-! ## Writing -/

def Dialect.escape (field : List α) : List α :=
  field.flatMap fun c => if c = d.quote then [d.quote, d.quote] else [c]

def Dialect.quoted (field : List α) : List α := d.quote :: (d.escape field ++ [d.quote])

def Dialect.record (fields : List (List α)) : List α :=
  List.intercalate [d.separator] (fields.map d.quoted)

def Dialect.document (table : List (List (List α))) : List α :=
  List.intercalate [d.cr, d.lf] (table.map d.record) ++ [d.cr, d.lf]

/-! ## Reading -/

inductive Cursor
  | start
  | plain
  | quoted
  /-- After a quote in a quoted field: it ended the field, or is the first of two. -/
  | closed
  | newline
deriving DecidableEq

/-- The records from here on, after the ended fields `row` and the part `field` of this one. -/
def Dialect.read : Cursor → List (List α) → List α → List α → Option (List (List (List α)))
  | .start, [], _, [] => some []
  | .quoted, _, _, [] | .newline, _, _, [] => none
  | _, row, field, [] => some [row ++ [field]]
  | .quoted, row, field, c :: rest =>
    if c = d.quote then read .closed row field rest else read .quoted row (field ++ [c]) rest
  | .newline, row, field, c :: rest =>
    if c = d.lf then (read .start [] [] rest).map ((row ++ [field]) :: ·) else none
  | cursor, row, field, c :: rest =>
    if c = d.quote then
      if cursor = .start then read .quoted row field rest
      else if cursor = .closed then read .quoted row (field ++ [c]) rest
      else none
    else if c = d.separator then read .start (row ++ [field]) [] rest
    else if c = d.cr then read .newline row field rest
    else if c = d.lf ∨ cursor = .closed then none
    else read .plain row (field ++ [c]) rest

variable {d} {row cells : List (List α)} {field rest : List α}

theorem read_escape (t : List α) : d.read .quoted row field (d.escape t ++ d.quote :: rest) =
    d.read .closed row (field ++ t) rest := by
  induction t generalizing field with
  | nil => simp [Dialect.escape, Dialect.read]
  | cons c t ih =>
    rw [Dialect.escape, List.flatMap_cons, ← Dialect.escape, List.append_cons field]
    split
    · rename_i hquote
      simp [Dialect.read, hquote, ih]
    · rename_i hquote
      simp [Dialect.read, hquote, ih]

theorem read_quoted (t : List α) :
    d.read .start row [] (d.quoted t ++ rest) = d.read .closed row t rest := by
  rw [Dialect.quoted, List.cons_append, List.append_assoc, Dialect.read]
  · simp [read_escape]
  all_goals simp

theorem read_record (hcells : cells ≠ []) :
    d.read .start row [] (d.record cells ++ d.cr :: d.lf :: rest) =
      (d.read .start [] [] rest).map ((row ++ cells) :: ·) := by
  induction cells generalizing row with
  | nil => exact absurd rfl hcells
  | cons t cells ih =>
    cases cells with
    | nil =>
      simp only [Dialect.record, List.map_cons, List.map_nil, List.intercalate_singleton]
      rw [read_quoted]
      simp [Dialect.read, d.cr_ne]
    | cons u cells =>
      rw [Dialect.record, List.map_cons, List.map_cons, List.intercalate_cons_cons, ← List.map_cons,
        ← Dialect.record, List.append_assoc, List.append_assoc, read_quoted, List.cons_append]
      have hrest := @ih (row ++ [t]) (List.cons_ne_nil u cells)
      simp [Dialect.read, d.separator_ne, hrest]

/-- **A table of records with fields is read back as it was written.** -/
theorem read_document {table : List (List (List α))} (htable : table ≠ [])
    (h : ∀ cells ∈ table, cells ≠ []) : d.read .start [] [] (d.document table) = some table := by
  induction table with
  | nil => exact absurd rfl htable
  | cons cells table ih =>
    have hcells := h cells List.mem_cons_self
    cases table with
    | nil =>
      simp only [Dialect.document, List.map_cons, List.map_nil, List.intercalate_singleton]
      rw [read_record hcells]
      rfl
    | cons next table =>
      have hrest := ih (List.cons_ne_nil next table) fun cells' hmem =>
        h cells' (List.mem_cons_of_mem _ hmem)
      rw [Dialect.document, List.map_cons, List.map_cons, List.intercalate_cons_cons,
        ← List.map_cons, List.append_assoc, List.append_assoc, ← Dialect.document,
        List.cons_append, List.cons_append, List.nil_append, read_record hcells, hrest]
      rfl

end Delimited
