import WebhostBilling.Currency.SelectionIntent
import WebhostBilling.Texts.Delimited

/-!
# Exported tables

`csvDocument` writes the rows of a report for a spreadsheet.  Every cell is quoted, and a text that
would be evaluated as a formula gets an apostrophe first; a reader of the format sees the same
table, and no cell that begins like a formula.
-/

namespace WebhostBilling

open Json

namespace Reports

/-- A value of a row: a date, a big integer, or a plain value, `undefined` being `null`. -/
inductive CsvValue (δ ν : Type)
  | date (d : δ)
  | bigint (n : ℤ)
  | plain (v : Value ν)

variable {δ ν : Type} (toISOString : δ → Text) (print : ν → Text)

/-- The text of a value.  `String` and `JSON.stringify` print a boolean alike. -/
def CsvValue.text : CsvValue δ ν → Text
  | .date d => toISOString d
  | .bigint n => Currency.printInt n
  | .plain .null => []
  | .plain (.string s) => s
  | .plain v => stringify print v

/-- `=`, `+`, `-` and `@` -/
def formulaTriggers : List CodeUnit := [0x3D, 0x2B, 0x2D, 0x40]

def neutralized (t : Text) : Text :=
  if t.head?.any (· ∈ formulaTriggers) = true then 0x27 :: t else t

def csv : Delimited.Dialect CodeUnit where
  quote := 0x22
  separator := 0x2C
  cr := 0x0D
  lf := 0x0A
  separator_ne := by decide
  cr_ne := by decide

def csvCell (value : CsvValue δ ν) : Text :=
  csv.quoted (neutralized (value.text toISOString print))

def csvDocument (headers : List Text) (rows : List (List (CsvValue δ ν))) : Text :=
  let table := headers.map (fun header => .plain (.string header)) :: rows
  0xFEFF :: (List.intercalate [csv.cr, csv.lf] (table.map fun row =>
    List.intercalate [csv.separator] (row.map (csvCell toISOString print))) ++ [csv.cr, csv.lf])

/-- A spreadsheet drops the byte order mark. -/
def readCsv : Text → Option (List (List Text))
  | 0xFEFF :: t => csv.read .start [] [] t
  | t => csv.read .start [] [] t

/-! ## Reading an export -/

theorem neutralized_head (t : Text) : ∀ c ∈ (neutralized t).head?, c ∉ formulaTriggers := by
  rw [neutralized]
  split
  · intro c hc
    obtain rfl := Option.some.inj hc
    decide
  · rename_i h
    intro c hc htrigger
    rw [Option.mem_def.1 hc] at h
    exact h (by simpa using htrigger)

/-- **An export is read back cell by cell.**  A cell is the text of its value, with an apostrophe
before it where the text begins like a formula, so that no cell does. -/
theorem csv_round_trip (headers : List Text) (rows : List (List (CsvValue δ ν)))
    (hheaders : headers ≠ []) (hrows : ∀ row ∈ rows, row ≠ []) :
    ∃ table, readCsv (csvDocument toISOString print headers rows) = some table ∧
      table = (headers.map neutralized) ::
        rows.map (·.map fun value => neutralized (value.text toISOString print)) ∧
      ∀ cells ∈ table, ∀ cell ∈ cells, ∀ c ∈ cell.head?, c ∉ formulaTriggers := by
  have hdocument : csvDocument toISOString print headers rows = 0xFEFF :: csv.document
      (headers.map neutralized :: rows.map
        (·.map fun value => neutralized (value.text toISOString print))) := by
    simp only [csvDocument, Delimited.Dialect.document, Delimited.Dialect.record, List.map_cons,
      List.map_map, Function.comp_def]
    rfl
  refine ⟨_, ?_, rfl, fun cells hcells cell hcell => ?_⟩
  · rw [hdocument, readCsv, Delimited.read_document (List.cons_ne_nil _ _)]
    intro cells hcells
    rcases List.mem_cons.1 hcells with rfl | hmem
    · exact fun h => hheaders (List.map_eq_nil_iff.1 h)
    · obtain ⟨row, hrow, rfl⟩ := List.mem_map.1 hmem
      exact fun h => hrows row hrow (List.map_eq_nil_iff.1 h)
  · rcases List.mem_cons.1 hcells with rfl | hmem
    · obtain ⟨header, -, rfl⟩ := List.mem_map.1 hcell
      exact neutralized_head header
    · obtain ⟨row, -, rfl⟩ := List.mem_map.1 hmem
      obtain ⟨value, -, rfl⟩ := List.mem_map.1 hcell
      exact neutralized_head _

/-- A formula in a note is read as a text. -/
theorem csv_formula_read : ∃ table, readCsv (csvDocument (fun _ : Unit => []) printNat
    [text "Note", text "Amount"] [[.plain (.string (text "=1+\"2\"")), .bigint 9007199254740993]]) =
      some table ∧
    table = [[text "Note", text "Amount"], [text "'=1+\"2\"", text "9007199254740993"]] ∧
    ∀ cells ∈ table, ∀ cell ∈ cells, ∀ c ∈ cell.head?, c ∉ formulaTriggers := by
  obtain ⟨table, hread, htable, hplain⟩ := csv_round_trip (fun _ : Unit => []) printNat
    [text "Note", text "Amount"] [[.plain (.string (text "=1+\"2\"")), .bigint 9007199254740993]]
    (List.cons_ne_nil _ _) (by simp)
  exact ⟨table, hread, htable.trans (by decide +kernel), hplain⟩

end Reports

end WebhostBilling
