import WebhostBilling.Currency.DisplayedMoney

/-!
# The items of a printed invoice

A description is broken into lines, between words and within a word that is too wide, and the lines
are drawn in rows, which are continued on a new page when the present one is full.  The document
that is drawn to is the list of its marks, with the position below the last of them.
-/

namespace WebhostBilling

open Json Currency
open ResellbizLiveRegistrar (isSpace)

namespace InvoicePdfService

/-! ## Lines -/

inductive Font
  | regularLatin
  | boldLatin
  | regularBengali
  | boldBengali

def fontName (bengali bold : Bool) : Font :=
  if bengali then if bold then .boldBengali else .regularBengali
  else if bold then .boldLatin else .regularLatin

/-- What is computed elsewhere: the width of a text in a font of a size, with exact arithmetic, the
date of a moment, and the fraction digits of a currency. -/
structure PdfRuntime where
  widthOfString : Font → ℚ → Text → ℚ
  width_nil : ∀ font size, widthOfString font size [] = 0
  formatCalendarDate : Option Text → Text
  maximumFractionDigits : Text → Option ℕ

/-- `Array.from`: the characters of a text, where a surrogate without its pair is one. -/
def characters : Text → List Text
  | [] => []
  | [c] => [[c]]
  | c :: d :: cs =>
    if isHigh c && isLow d then [c, d] :: characters cs else [c] :: characters (d :: cs)

structure TextRun where
  text : Text
  bengali : Bool

/-- `/[\u0980-\u09ff]/` -/
def isBengali (character : Text) : Bool := character.any fun c => 0x0980 ≤ c ∧ c ≤ 0x09FF

def addCharacter (runs : List TextRun) (character : Text) : List TextRun :=
  match runs.getLast? with
  | some last =>
    if last.bengali = isBengali character then
      runs.dropLast ++ [{ last with text := last.text ++ character }]
    else runs ++ [⟨character, isBengali character⟩]
  | none => [⟨character, isBengali character⟩]

def splitRuns (value : Text) : List TextRun :=
  let runs := (characters value).foldl addCharacter []
  if runs = [] then [⟨[], false⟩] else runs

def paragraphs (value : Text) : List Text := value.splitOnP (· = lineFeed)

/-- `replaceAll('\r\n', '\n')` -/
def unixLines : Text → Text
  | [] => []
  | [c] => [c]
  | c :: d :: cs =>
    if c = carriageReturn ∧ d = lineFeed then lineFeed :: unixLines cs
    else c :: unixLines (d :: cs)

/-- `split(/\s+/).filter(Boolean)` -/
def words (paragraph : Text) : List Text := (paragraph.splitOnP isSpace).filter (· ≠ [])

section

variable (fits : Text → Bool)

def wrapCharacter (state : List Text × Text) (character : Text) : List Text × Text :=
  let (lines, fragment) := state
  if fragment ≠ [] ∧ fits (fragment ++ character) = false then (lines ++ [fragment], character)
  else (lines, fragment ++ character)

def wrapWord (state : List Text × Text) (word : Text) : List Text × Text :=
  let (lines, current) := state
  let candidate := if current ≠ [] then current ++ blank :: word else word
  if fits candidate = true then (lines, candidate)
  else
    let lines := if current ≠ [] then lines ++ [current] else lines
    if fits word = true then (lines, word)
    else (characters word).foldl (wrapCharacter fits) (lines, [])

def wrapParagraph (lines : List Text) (paragraph : Text) : List Text :=
  let (lines, current) := (words paragraph).foldl (wrapWord fits) (lines, [])
  let lines := if current ≠ [] then lines ++ [current] else lines
  if words paragraph = [] then lines ++ [[]] else lines

section

variable {fits}

/-- A text without its white space. -/
def visible (t : Text) : Text := t.filter (!isSpace ·)

def FitsOrSingle (fits : Text → Bool) (line : Text) : Prop :=
  fits line = true ∨ characters line = [line]

@[simp]
theorem visible_append (s t : Text) : visible (s ++ t) = visible s ++ visible t :=
  List.filter_append ..

theorem characters_flatten (t : Text) : (characters t).flatten = t := by
  fun_induction characters t <;> simp_all

theorem characters_of_mem {c t : Text} (hc : c ∈ characters t) : characters c = [c] := by
  fun_induction characters t <;> grind [characters]

theorem splitOnP_flatten (p : CodeUnit → Bool) (t : Text) :
    (t.splitOnP p).flatten = t.filter (!p ·) := by
  induction t with
  | nil => rfl
  | cons c t ih =>
    obtain ⟨line, rest, h⟩ := List.exists_cons_of_ne_nil (List.splitOnP_ne_nil p t)
    cases hc : p c <;> simp_all [List.splitOnP_cons_eq_if_modifyHead]

theorem visible_words (t : Text) : visible (words t).flatten = visible t := by
  rw [words, List.flatten_filter_ne_nil, splitOnP_flatten]
  simp [visible]

theorem visible_unixLines (t : Text) : visible (unixLines t) = visible t := by
  have hcr : isSpace carriageReturn = true := by decide
  have hlf : isSpace lineFeed = true := by decide
  fun_induction unixLines t <;> simp_all [visible, List.filter_cons]

theorem visible_paragraphs (t : Text) : visible (paragraphs t).flatten = visible t := by
  have hlf : ∀ c, isSpace c = false → c ≠ lineFeed := by
    rintro c hc rfl
    exact absurd hc (by decide)
  simp only [paragraphs, splitOnP_flatten, visible, List.filter_filter]
  exact List.filter_congr fun c _ => by simpa using hlf c

/-- What the lines and the current one are after the texts of `content`. -/
structure Wrapped (fits : Text → Bool) (content : Text) (state : List Text × Text) : Prop where
  content : visible state.1.flatten ++ visible state.2 = content
  lines : ∀ line ∈ state.1, FitsOrSingle fits line
  current : FitsOrSingle fits state.2

theorem foldl_conserves {State : Type} (P : Text → State → Prop) {step : State → Text → State}
    (ts : List Text) (hstep : ∀ t ∈ ts, ∀ content state, P content state →
      P (content ++ visible t) (step state t)) {content : Text} {state : State}
    (h : P content state) : P (content ++ visible ts.flatten) (ts.foldl step state) := by
  induction ts generalizing content state with
  | nil => simpa [visible] using h
  | cons t ts ih =>
    rw [List.foldl_cons, List.flatten_cons, visible_append, ← List.append_assoc]
    exact ih (fun t ht => hstep t (List.mem_cons_of_mem _ ht))
      (hstep t List.mem_cons_self _ _ h)

variable {content : Text} {state : List Text × Text}

theorem Wrapped.push (h : Wrapped fits content state) {next : Text}
    (hnext : FitsOrSingle fits next) :
    Wrapped fits (content ++ visible next) (state.1 ++ [state.2], next) where
  content := by simp [← h.content]
  lines := by simpa [or_imp, forall_and] using And.intro h.lines h.current
  current := hnext

theorem Wrapped.flush (h : Wrapped fits content state) (hnil : fits [] = true) :
    Wrapped fits content (if state.2 ≠ [] then state.1 ++ [state.2] else state.1, []) := by
  split
  · simpa [visible] using h.push (.inl hnil)
  · have hc := h.content
    exact ⟨by simp_all, h.lines, .inl hnil⟩

theorem wrapCharacter_wrapped (h : Wrapped fits content state) {c : Text}
    (hc : characters c = [c]) :
    Wrapped fits (content ++ visible c) (wrapCharacter fits state c) := by
  obtain ⟨lines, fragment⟩ := state
  by_cases hfull : fragment ≠ [] ∧ fits (fragment ++ c) = false
  · simpa [wrapCharacter, hfull] using h.push (.inr hc)
  · have hline : FitsOrSingle fits (fragment ++ c) := by
      rcases eq_or_ne fragment [] with rfl | hne
      · exact .inr hc
      · exact .inl (by simpa [hne] using hfull)
    simp only [wrapCharacter, hfull, if_false]
    exact ⟨by simp [← h.content], h.lines, hline⟩

theorem wrapWord_wrapped (hnil : fits [] = true) (h : Wrapped fits content state) (word : Text) :
    Wrapped fits (content ++ visible word) (wrapWord fits state word) := by
  obtain ⟨lines, current⟩ := state
  have hflush := h.flush hnil
  by_cases hcandidate : fits (if current ≠ [] then current ++ blank :: word else word) = true
  · simp only [wrapWord, hcandidate, if_true]
    refine ⟨?_, h.lines, .inl hcandidate⟩
    have hblank : visible (blank :: word) = visible word := List.filter_cons_of_neg (by decide)
    rw [← h.content]
    split
    · simp [hblank]
    · simp_all [visible]
  by_cases hword : fits word = true
  · simp only [wrapWord, hcandidate, hword, if_true]
    exact ⟨by simp [← hflush.content, visible], hflush.lines, .inl hword⟩
  · simp only [wrapWord, hcandidate, hword]
    conv in visible word => rw [← characters_flatten word]
    exact foldl_conserves (Wrapped fits) _
      (fun c hc _ _ h => wrapCharacter_wrapped h (characters_of_mem hc)) hflush

theorem wrapParagraph_wrapped (hnil : fits [] = true) {lines : List Text}
    (h : Wrapped fits content (lines, [])) (paragraph : Text) :
    Wrapped fits (content ++ visible paragraph) (wrapParagraph fits lines paragraph, []) := by
  have hwords := (foldl_conserves (Wrapped fits) (words paragraph)
    (fun word _ _ _ h => wrapWord_wrapped hnil h word) h).flush hnil
  rw [visible_words] at hwords
  simp only [wrapParagraph]
  split
  · simpa [visible] using hwords.push (.inl hnil)
  · exact hwords

end

end

variable (rt : PdfRuntime)

def richWidth (value : Text) (bold : Bool) (size : ℚ) : ℚ :=
  (splitRuns value).foldl
    (fun width run => width + rt.widthOfString (fontName run.bengali bold) size run.text) 0

def wrapText (value : Text) (width : ℚ) (bold : Bool) (size : ℚ) : List Text :=
  let lines := (paragraphs (unixLines value)).foldl
    (wrapParagraph fun line => richWidth rt line bold size ≤ width) []
  if lines ≠ [] then lines else [[]]

theorem richWidth_nil (bold : Bool) (size : ℚ) : richWidth rt [] bold size = 0 := by
  simp [richWidth, splitRuns, characters, rt.width_nil]

theorem wrapText_wrapped (value : Text) {width : ℚ} (hwidth : 0 ≤ width) (bold : Bool) (size : ℚ) :
    Wrapped (fun line => richWidth rt line bold size ≤ width) (visible value)
      (wrapText rt value width bold size, []) := by
  have hnil : decide (richWidth rt [] bold size ≤ width) = true := by
    simpa [richWidth_nil] using hwidth
  have hnone : Wrapped (fun line => richWidth rt line bold size ≤ width) [] ([], []) :=
    ⟨rfl, by simp, .inl hnil⟩
  have hlines := foldl_conserves (fun content lines => Wrapped _ content (lines, []))
    (paragraphs (unixLines value)) (fun paragraph _ _ _ h => wrapParagraph_wrapped hnil h paragraph)
    hnone
  rw [visible_paragraphs, visible_unixLines, List.nil_append] at hlines
  simp only [wrapText]
  split
  · exact hlines
  · have hpushed := hlines.push (.inl hnil)
    simp_all [visible]

/-! ## Rows -/

def MARGIN : ℚ := 42
def PAGE_WIDTH : ℚ := 595.28
def CONTENT_WIDTH : ℚ := PAGE_WIDTH - MARGIN * 2
def ITEM_BOTTOM : ℚ := 748

structure TextOptions where
  width : ℚ
  size : ℚ
  bold : Bool := false
  right : Bool := false
  color : String := "#0f172a"
  characterSpacing : ℚ := 0

/-- What the page is given, in order. -/
inductive Mark
  | page
  | text (value : Text) (x y : ℚ) (options : TextOptions)
  | rectangle (x y width height radius : ℚ) (color : String)
  | line (x y x' y' : ℚ)

structure PrintedItem where
  description : Text
  quantity : ℕ
  unitAmount : SerializedMoney
  discountAmount : SerializedMoney
  taxAmount : SerializedMoney
  lineTotal : SerializedMoney
  servicePeriodStart : Option Text
  servicePeriodEnd : Option Text

structure PrintedInvoice where
  invoiceNumber : Text
  businessName : Text
  items : List PrintedItem

structure Document where
  y : ℚ
  marks : List Mark

/-- `addPage`, for a page that is not the first. -/
def addPage (invoice : PrintedInvoice) (document : Document) : Document where
  y := 72
  marks := document.marks ++ [.page,
    .text invoice.businessName MARGIN 34 { width := 280, size := 10, bold := true },
    .text (text "Invoice " ++ invoice.invoiceNumber) (PAGE_WIDTH - 242) 34
      { width := 200, size := 10, bold := true, right := true },
    .line MARGIN 55 (PAGE_WIDTH - MARGIN) 55]

def tableHeader (document : Document) : Document where
  y := document.y + 28
  marks := document.marks ++ .rectangle MARGIN document.y CONTENT_WIDTH 28 4 "#0f172a" ::
    [("Description", MARGIN + 7, 205, false), ("Qty", 253, 30, true), ("Unit", 286, 64, true),
      ("Discount", 353, 62, true), ("Tax", 418, 52, true), ("Total", 473, 80, true)].map
      fun (label, x, width, right) => .text (text label) x (document.y + 9)
        { width, size := 6.5, bold := true, right, color := "#ffffff", characterSpacing := 0.6 }

def truthy (value : Option Text) : Bool := value.any (· ≠ [])

def servicePeriod (item : PrintedItem) : Option Text :=
  if truthy item.servicePeriodStart || truthy item.servicePeriodEnd then
    some (text "Service period " ++ rt.formatCalendarDate item.servicePeriodStart ++ text " – " ++
      rt.formatCalendarDate item.servicePeriodEnd)
  else none

def descriptionLines (item : PrintedItem) : List Text :=
  wrapText rt item.description 205 false 8 ++ (servicePeriod rt item).toList

/-- A segment of an item, as one row of the table. -/
structure Row where
  index : ℕ
  item : PrintedItem
  firstSegment : Bool
  lines : List Text
  top : ℚ
  newPage : Bool

namespace Row

def height (row : Row) : ℚ := max 34 (row.lines.length * 11 + 14)

def lineMark (row : Row) (line : Text) (lineIndex : ℕ) : Mark :=
  let period := some line = servicePeriod rt row.item
  .text ((if row.firstSegment ∨ 0 < lineIndex then [] else text "(continued) ") ++ line)
    (MARGIN + 7) (row.top + 7 + lineIndex * 11)
    { width := 205, size := if period then 7 else 8
      color := if period then "#64748b" else "#0f172a" }

def tableValue (row : Row) (value : Text) (x width : ℚ) (bold : Bool) : Mark :=
  .text value x (row.top + 10) { width, size := 7.2, bold, right := true }

def valueMarks (row : Row) : List Mark :=
  let money := money rt.maximumFractionDigits
  [row.tableValue (printNat row.item.quantity) 253 30 false,
    row.tableValue (money row.item.unitAmount) 286 64 false,
    row.tableValue (money row.item.discountAmount) 353 62 false,
    row.tableValue (money row.item.taxAmount) 418 52 false,
    row.tableValue (money row.item.lineTotal) 473 80 true]

def marks (row : Row) : List Mark :=
  (if row.index % 2 = 1 then
    [.rectangle MARGIN row.top CONTENT_WIDTH row.height 0 "#f8fafc"] else []) ++
  row.lines.zipIdx.map (fun (line, lineIndex) => row.lineMark rt line lineIndex) ++
  (if row.firstSegment then row.valueMarks rt else []) ++
  [.line MARGIN (row.top + row.height) (PAGE_WIDTH - MARGIN) (row.top + row.height)]

end Row

variable (invoice : PrintedInvoice)

def continueTable (document : Document) : Document := tableHeader (addPage invoice document)

def nextPage (document : Document) : Document :=
  if ITEM_BOTTOM - 34 < document.y then continueTable invoice document else document

def availableLines (page : Document) : ℕ := (max 1 ⌊(ITEM_BOTTOM - page.y - 14) / 11⌋).toNat

/-- `while (position < descriptionLines.length)`, for the lines from `position` on. -/
def drawSegments (index : ℕ) (item : PrintedItem) (lines : List Text) (firstSegment : Bool)
    (document : Document) : Document :=
  if lines = [] then document
  else
    let page := nextPage invoice document
    let row : Row := ⟨index, item, firstSegment, lines.take (availableLines page), page.y,
      ITEM_BOTTOM - 34 < document.y⟩
    drawSegments index item (lines.drop (availableLines page)) false
      ⟨row.top + row.height, page.marks ++ row.marks rt⟩
termination_by lines.length
decreasing_by
  have hpos := List.length_pos_iff.2 ‹_›
  rw [List.length_drop, availableLines]
  omega

def drawItems (document : Document) : Document :=
  invoice.items.zipIdx.foldl
    (fun document (item, index) =>
      drawSegments rt invoice index item (descriptionLines rt item) true document)
    (tableHeader document)

/-! ## What is drawn -/

/-- The text of a mark, with the left edge of its column. -/
def Mark.written : Mark → Option (Text × ℚ)
  | .text value x _ _ => some (value, x)
  | _ => none

/-- The lines of a row that continues an item on the next page. -/
def continuedLines : List Text → List Text
  | [] => []
  | line :: lines => (text "(continued) " ++ line) :: lines

/-- The quantity and the amounts of an item, each in its column. -/
def itemValues (item : PrintedItem) : List (Text × ℚ) :=
  let money := money rt.maximumFractionDigits
  [(printNat item.quantity, 253), (money item.unitAmount, 286), (money item.discountAmount, 353),
    (money item.taxAmount, 418), (money item.lineTotal, 473)]

/-- A row, after the heading of a new page where it starts one. -/
def Row.drawn (row : Row) : List Mark :=
  (if row.newPage then (continueTable invoice ⟨0, []⟩).marks else []) ++ row.marks rt

/-- The rows of an item, or of what remains of it: every line once, and the values on the first. -/
structure DrawnRows (index : ℕ) (item : PrintedItem) (lines : List Text) (firstSegment : Bool)
    (rows : List Row) : Prop where
  lines : rows.flatMap Row.lines = lines
  first : rows.map Row.firstSegment = (List.replicate rows.length false).set 0 firstSegment
  item : ∀ row ∈ rows, row.index = index ∧ row.item = item
  bottom : ∀ row ∈ rows, row.top + row.height ≤ ITEM_BOTTOM

theorem continueTable_eq (document : Document) :
    continueTable invoice document =
      ⟨100, document.marks ++ (continueTable invoice ⟨0, []⟩).marks⟩ := by
  simp only [continueTable, tableHeader, addPage]
  norm_num

/-- There is room for as many lines as are taken, and for one on any page. -/
theorem row_bottom {row : Row} (htop : row.top ≤ ITEM_BOTTOM - 34)
    (hlines : (row.lines.length : ℤ) ≤ max 1 ⌊(ITEM_BOTTOM - row.top - 14) / 11⌋) :
    row.top + row.height ≤ ITEM_BOTTOM := by
  suffices row.height ≤ ITEM_BOTTOM - row.top by linarith
  refine max_le (by linarith) ?_
  rcases le_max_iff.1 hlines with hone | hfloor
  · have : (row.lines.length : ℚ) ≤ 1 := by exact_mod_cast hone
    linarith
  · have := Int.le_floor.1 hfloor
    push_cast at this
    linarith

theorem nextPage_y_le (document : Document) : (nextPage invoice document).y ≤ ITEM_BOTTOM - 34 := by
  unfold nextPage
  split
  · rw [continueTable_eq]
    norm_num [ITEM_BOTTOM]
  · simp_all

theorem drawSegments_draws (index : ℕ) (item : PrintedItem) (lines : List Text)
    (firstSegment : Bool) (document : Document) :
    ∃ rows, DrawnRows index item lines firstSegment rows ∧
      (drawSegments rt invoice index item lines firstSegment document).marks =
        document.marks ++ rows.flatMap (Row.drawn rt invoice) := by
  induction lines, firstSegment, document using drawSegments.induct rt invoice index item with
  | case1 firstSegment document =>
    exact ⟨[], ⟨rfl, rfl, by simp, by simp⟩, by simp [drawSegments]⟩
  | case2 lines firstSegment document hlines page row ih =>
    obtain ⟨rows, hrows, hmarks⟩ := ih
    have hcount : (row.lines.length : ℤ) ≤ max 1 ⌊(ITEM_BOTTOM - page.y - 14) / 11⌋ := by
      simp only [row, List.length_take, availableLines]
      omega
    have hfirst : rows.map Row.firstSegment = List.replicate rows.length false := by
      rw [hrows.first]
      cases rows <;> rfl
    have hpage : page.marks =
        document.marks ++ if row.newPage then (continueTable invoice ⟨0, []⟩).marks else [] := by
      simp only [page, row, nextPage, decide_eq_true_eq]
      split
      · rw [continueTable_eq]
      · simp
    refine ⟨row :: rows, ⟨?_, ?_, ?_, ?_⟩, ?_⟩
    · simp [hrows.lines, row]
    · simp [hfirst, row, List.replicate_succ]
    · exact List.forall_mem_cons.2 ⟨⟨rfl, rfl⟩, hrows.item⟩
    · have hbottom := row_bottom (nextPage_y_le invoice document) hcount
      exact List.forall_mem_cons.2 ⟨hbottom, hrows.bottom⟩
    · rw [drawSegments, if_neg hlines, hmarks, hpage]
      simp [Row.drawn]

theorem Row.written_lines (row : Row) :
    (row.lines.zipIdx.map fun (line, lineIndex) => row.lineMark rt line lineIndex).filterMap
        Mark.written =
      (if row.firstSegment then row.lines else continuedLines row.lines).map (·, MARGIN + 7) := by
  -- Behind the first line the index is positive.
  have hlater : ∀ (lines : List Text) (n : ℕ), row.firstSegment = true ∨ 0 < n →
      ((lines.zipIdx n).map fun (line, lineIndex) => row.lineMark rt line lineIndex).filterMap
        Mark.written = lines.map (·, MARGIN + 7) := by
    intro lines
    induction lines with
    | nil => exact fun _ _ => rfl
    | cons line lines ih =>
      intro n hn
      have hmark : Mark.written (row.lineMark rt line n) = some (line, MARGIN + 7) := by
        rw [lineMark, if_pos hn]
        rfl
      rw [List.zipIdx_cons, List.map_cons, List.filterMap_cons_some hmark, List.map_cons,
        ih (n + 1) (.inr (Nat.succ_pos n))]
  cases hfirst : row.firstSegment with
  | true => exact hlater row.lines 0 (.inl hfirst)
  | false =>
    rw [if_neg Bool.false_ne_true]
    cases row.lines with
    | nil => rfl
    | cons line lines =>
      have hmark : Mark.written (row.lineMark rt line 0) =
          some (text "(continued) " ++ line, MARGIN + 7) := by
        rw [lineMark, hfirst, if_neg (by simp)]
        rfl
      rw [List.zipIdx_cons, List.map_cons, List.filterMap_cons_some hmark, continuedLines,
        List.map_cons, hlater lines (0 + 1) (.inr Nat.one_pos)]

theorem Row.written_marks (row : Row) : (row.marks rt).filterMap Mark.written =
    (if row.firstSegment then row.lines else continuedLines row.lines).map (·, MARGIN + 7) ++
      if row.firstSegment then itemValues rt row.item else [] := by
  have hstripe : (if row.index % 2 = 1 then
      [.rectangle MARGIN row.top CONTENT_WIDTH row.height 0 "#f8fafc"] else []).filterMap
        Mark.written = [] := by
    split <;> rfl
  have hvalues : (if row.firstSegment then row.valueMarks rt else []).filterMap Mark.written =
      if row.firstSegment then itemValues rt row.item else [] := by
    split <;> rfl
  have hline : [Mark.line MARGIN (row.top + row.height) (PAGE_WIDTH - MARGIN)
      (row.top + row.height)].filterMap Mark.written = [] := rfl
  rw [marks, List.filterMap_append, List.filterMap_append, List.filterMap_append, hstripe, hline,
    row.written_lines, hvalues, List.nil_append, List.append_nil]

/-- Every text of a row is between its top and its bottom. -/
theorem Row.text_within {row : Row} {value : Text} {x y : ℚ} {options : TextOptions}
    (h : .text value x y options ∈ row.marks rt) :
    row.top ≤ y ∧ y + options.size ≤ row.top + row.height := by
  have hmin : 34 ≤ row.height := le_max_left _ _
  have hlines : (row.lines.length : ℚ) * 11 + 14 ≤ row.height := le_max_right _ _
  simp only [marks, List.mem_append] at h
  rcases h with ((hstripe | hline) | hvalue) | hrule
  · split at hstripe <;> simp at hstripe
  · obtain ⟨⟨line, lineIndex⟩, hmem, hmark⟩ := List.mem_map.1 hline
    obtain ⟨-, hlt, -⟩ := List.mem_zipIdx hmem
    have hindex : (lineIndex : ℚ) + 1 ≤ row.lines.length := by
      exact_mod_cast Nat.succ_le_of_lt (by omega)
    have hsize : (if some line = servicePeriod rt row.item then 7 else 8 : ℚ) ≤ 8 := by
      split <;> norm_num
    have hnonneg : (0 : ℚ) ≤ lineIndex := Nat.cast_nonneg _
    simp only [lineMark, Mark.text.injEq] at hmark
    obtain ⟨-, -, rfl, rfl⟩ := hmark
    constructor <;> linarith
  · split at hvalue
    · simp only [valueMarks, tableValue, List.mem_cons, List.not_mem_nil, or_false,
        Mark.text.injEq] at hvalue
      rcases hvalue with ⟨-, -, rfl, rfl⟩ | ⟨-, -, rfl, rfl⟩ | ⟨-, -, rfl, rfl⟩ |
        ⟨-, -, rfl, rfl⟩ | ⟨-, -, rfl, rfl⟩ <;> constructor <;> norm_num <;> linarith
    · simp at hvalue
  · simp at hrule

/-- The rows of an item: its lines, in their column and in order, the values once, beside the lines
of the first row, and the later rows marked as continued. -/
structure DrawnItem (entry : PrintedItem × ℕ) (rows : List Row) : Prop extends
    DrawnRows entry.2 entry.1 (descriptionLines rt entry.1) true rows where
  written : ∃ first rest, rows = first :: rest ∧
    (rows.flatMap (Row.marks rt)).filterMap Mark.written =
      first.lines.map (·, MARGIN + 7) ++ itemValues rt entry.1 ++
        rest.flatMap fun row => (continuedLines row.lines).map (·, MARGIN + 7)
  within : ∀ row ∈ rows, ∀ value x y options, .text value x y options ∈ row.marks rt →
    row.top ≤ y ∧ y + options.size ≤ row.top + row.height

theorem DrawnRows.drawnItem {item : PrintedItem × ℕ} {rows : List Row}
    (h : DrawnRows item.2 item.1 (descriptionLines rt item.1) true rows) (hne : rows ≠ []) :
    DrawnItem rt item rows := by
  obtain ⟨first, rest, rfl⟩ := List.exists_cons_of_ne_nil hne
  refine ⟨h, ⟨first, rest, rfl, ?_⟩, fun row _ value x y options => Row.text_within rt⟩
  have hsegments := h.first
  simp only [List.map_cons, List.length_cons, List.replicate_succ, List.set_cons_zero,
    List.cons.injEq] at hsegments
  obtain ⟨hfirst, hrest⟩ := hsegments
  have hcontinued : ∀ row ∈ rest, (row.marks rt).filterMap Mark.written =
      (continuedLines row.lines).map (·, MARGIN + 7) := by
    intro row hrow
    have hlater : row.firstSegment = false :=
      List.eq_of_mem_replicate (hrest ▸ List.mem_map_of_mem hrow)
    rw [row.written_marks, hlater]
    simp
  rw [List.flatMap_cons, List.filterMap_append, first.written_marks, hfirst, if_pos rfl, if_pos rfl,
    (h.item first List.mem_cons_self).2, List.filterMap_flatMap]
  exact congrArg _ (List.flatMap_congr hcontinued)

theorem descriptionLines_ne_nil (item : PrintedItem) : descriptionLines rt item ≠ [] := by
  simp only [descriptionLines, wrapText]
  split <;> simp_all

theorem items_drawn (items : List (PrintedItem × ℕ)) (document : Document) :
    ∃ segments : List (List Row), List.Forall₂ (DrawnItem rt) items segments ∧
      (items.foldl (fun document (item, index) => drawSegments rt invoice index item
        (descriptionLines rt item) true document) document).marks =
        document.marks ++ segments.flatten.flatMap (Row.drawn rt invoice) := by
  induction items generalizing document with
  | nil => exact ⟨[], .nil, by simp⟩
  | cons item items ih =>
    obtain ⟨rows, hrows, hmarks⟩ := drawSegments_draws rt invoice item.2 item.1
      (descriptionLines rt item.1) true document
    obtain ⟨segments, hsegments, hrest⟩ := ih (drawSegments rt invoice item.2 item.1
      (descriptionLines rt item.1) true document)
    have hne : rows ≠ [] := by
      rintro rfl
      exact descriptionLines_ne_nil rt item.1 hrows.lines.symm
    refine ⟨rows :: segments, .cons (hrows.drawnItem rt hne) hsegments, ?_⟩
    rw [List.foldl_cons, hrest, hmarks]
    simp

end InvoicePdfService

end WebhostBilling
