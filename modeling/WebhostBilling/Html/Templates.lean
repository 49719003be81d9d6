import WebhostBilling.Json.Value

/-!
# Documents with escaped fields

A template is a document with holes, each for a field whose text is escaped.  Where the holes stand
in the text of an element or in a quoted attribute value, the document is read as the template is
with the plain texts in its holes, so that no text of a field becomes markup.
-/

namespace Html

open Json

/-! ## Reading a document -/

structure Tag where
  name : Text
  attributes : List (Text × Text)

/-- What a page is read into. -/
inductive Token
  | declaration (value : Text)
  | startTag (tag : Tag)
  | endTag (name : Text)
  | characters (value : Text)

inductive State
  | data (value : Text)
  | tagOpen (value : Text)
  | declaration (value : Text)
  | endTag (name : Text)
  | tagName (name : Text)
  | attributes (tag : Tag)
  | attributeName (tag : Tag) (name : Text)
  | beforeValue (tag : Tag) (name : Text)
  | attributeValue (tag : Tag) (name value : Text)

def less : CodeUnit := 0x3C
def greater : CodeUnit := 0x3E
def ampersand : CodeUnit := 0x26
def solidus : CodeUnit := 0x2F

def isBlank (c : CodeUnit) : Bool := c ∈ [blank, 0x09, 0x0A, 0x0C]

def isLetter (c : CodeUnit) : Bool := (0x41 ≤ c ∧ c ≤ 0x5A) ∨ (0x61 ≤ c ∧ c ≤ 0x7A)

def emit (value : Text) : List Token := if value = [] then [] else [.characters value]

def step (c : CodeUnit) : State → Option (List Token × State)
  | .data value => some ([], if c = less then .tagOpen value else .data (value ++ [c]))
  | .tagOpen value =>
    if c = 0x21 then some (emit value, .declaration [])
    else if c = solidus then some (emit value, .endTag [])
    else if isLetter c then some (emit value, .tagName [c])
    else if c = less then some ([], .tagOpen (value ++ [less]))
    else some ([], .data (value ++ [less, c]))
  | .declaration value =>
    if c = greater then some ([.declaration value], .data [])
    else some ([], .declaration (value ++ [c]))
  | .endTag name =>
    if c = greater then some ([.endTag name], .data []) else some ([], .endTag (name ++ [c]))
  | .tagName name =>
    if c = greater then some ([.startTag ⟨name, []⟩], .data [])
    else if isBlank c then some ([], .attributes ⟨name, []⟩)
    else if c = solidus then none
    else some ([], .tagName (name ++ [c]))
  | .attributes tag =>
    if c = greater then some ([.startTag tag], .data [])
    else if isBlank c then some ([], .attributes tag)
    else if c = solidus then none
    else some ([], .attributeName tag [c])
  | .attributeName tag name =>
    if c = 0x3D then some ([], .beforeValue tag name)
    else if c = greater ∨ c = solidus ∨ isBlank c then none
    else some ([], .attributeName tag (name ++ [c]))
  | .beforeValue tag name =>
    if c = quotationMark then some ([], .attributeValue tag name []) else none
  | .attributeValue tag name value =>
    some ([], if c = quotationMark then .attributes ⟨tag.name, tag.attributes ++ [(name, value)]⟩
      else .attributeValue tag name (value ++ [c]))

def State.inert (t : Text) : State → Option State
  | .data value => some (.data (value ++ t))
  | .attributeValue tag name value => some (.attributeValue tag name (value ++ t))
  | _ => none

section

variable {Hole : Type}

/-- A document in which some texts are no markup, the rest read one unit at a time. -/
def lex (read : Hole → Text) : List (CodeUnit ⊕ Hole) → State → Option (List Token)
  | [], .data value => some (emit value)
  | [], _ => none
  | .inl c :: rest, s => (step c s).bind fun (tokens, s) => (lex read rest s).map (tokens ++ ·)
  | .inr hole :: rest, s => (s.inert (read hole)).bind (lex read rest)

/-! ## Tags and the names of their attributes -/

def Tag.names (tag : Tag) : Tag where
  name := tag.name
  attributes := tag.attributes.map fun (name, _) => (name, [])

/-- The tags, without what is written in them. -/
def skeleton (tokens : List Token) : List Token :=
  tokens.filterMap fun
    | .startTag tag => some (.startTag tag.names)
    | .characters _ => none
    | token => some token

def State.shape : State → State
  | .data _ => .data []
  | .tagOpen _ => .tagOpen []
  | .attributes tag => .attributes tag.names
  | .attributeName tag name => .attributeName tag.names name
  | .beforeValue tag name => .beforeValue tag.names name
  | .attributeValue tag name _ => .attributeValue tag.names name []
  | s => s

@[simp]
theorem skeleton_append (tokens tokens' : List Token) :
    skeleton (tokens ++ tokens') = skeleton tokens ++ skeleton tokens' := List.filterMap_append ..

@[simp]
theorem skeleton_emit (value : Text) : skeleton (emit value) = [] := by
  unfold emit
  split <;> rfl

@[simp]
theorem skeleton_startTag (tag : Tag) : skeleton [.startTag tag] = [.startTag tag.names] := rfl

@[simp]
theorem names_names (tag : Tag) : tag.names.names = tag.names := by simp [Tag.names]

theorem step_shape (c : CodeUnit) (s : State) :
    (step c s.shape).map (Prod.map skeleton State.shape) =
      (step c s).map (Prod.map skeleton State.shape) := by
  cases s <;> simp only [State.shape, step] <;> split_ifs <;>
    simp [State.shape]
  all_goals simp [Tag.names]

theorem inert_shape (t t' : Text) {s s' : State} (h : s.shape = s'.shape) :
    (s.inert t).map State.shape = (s'.inert t').map State.shape := by
  cases s <;> cases s' <;> simp_all [State.shape, State.inert]

/-- What stands in the holes decides no tag and no attribute name. -/
theorem lex_skeleton (read read' : Hole → Text) (template : List (CodeUnit ⊕ Hole)) {s s' : State}
    (h : s.shape = s'.shape) :
    (lex read template s).map skeleton = (lex read' template s').map skeleton := by
  induction template generalizing s s' with
  | nil => cases s <;> cases s' <;> simp_all [State.shape, lex]
  | cons symbol rest ih =>
    cases symbol with
    | inl c =>
      have hstep := (step_shape c s).symm.trans (h ▸ step_shape c s')
      cases hs : step c s <;> cases hs' : step c s' <;> simp_all [lex]
      case some.some next next' =>
        have hrest := ih (congrArg Prod.snd hstep)
        have htokens : skeleton next.1 = skeleton next'.1 := congrArg Prod.fst hstep
        revert hrest
        cases lex read rest next.2 <;> cases lex read' rest next'.2 <;> simp_all
    | inr hole =>
      have hinert := inert_shape (read hole) (read' hole) h
      cases hs : s.inert (read hole) <;> cases hs' : s'.inert (read' hole) <;> simp_all [lex]
      exact ih hinert

/-! ## Escaped fields -/

def references : List (CodeUnit × Text) :=
  [(ampersand, text "&amp;"), (less, text "&lt;"), (greater, text "&gt;"),
    (quotationMark, text "&quot;"), (0x27, text "&#39;")]

def escapeUnit (c : CodeUnit) : Text := (references.lookup c).getD [c]

def escape (t : Text) : Text := t.flatMap escapeUnit

/-- A text whose character references are read; what they stand for is no markup. -/
def readReferences : Text → List (CodeUnit ⊕ CodeUnit)
  | [] => []
  | c :: t =>
    match references.find? (·.2.isPrefixOf (c :: t)) with
    | some (d, reference) => .inr d :: readReferences (t.drop (reference.length - 1))
    | none => .inl c :: readReferences t
termination_by t => t.length

/-- A page as a browser reads it. -/
def read (html : Text) : Option (List Token) := lex ([·]) (readReferences html) (.data [])

def render (fields : Hole → Text) (template : List (CodeUnit ⊕ Hole)) : Text :=
  template.flatMap (Sum.elim ([·]) fun hole => escape (fields hole))

def symbol (c : CodeUnit) : CodeUnit ⊕ CodeUnit :=
  if (references.lookup c).isSome then .inr c else .inl c

theorem head_reference : ∀ r ∈ references, r.2.head? = some ampersand := by decide

theorem readReferences_cons {c : CodeUnit} (hc : c ≠ ampersand) (rest : Text) :
    readReferences (c :: rest) = .inl c :: readReferences rest := by
  have hnone : references.find? (·.2.isPrefixOf (c :: rest)) = none := by
    refine List.find?_eq_none.2 fun r hr hprefix => ?_
    have hhead := head_reference r hr
    obtain ⟨t, ht⟩ : r.2 <+: c :: rest := by simpa using hprefix
    cases hr : r.2 <;> simp_all
  rw [readReferences, hnone]

theorem find_reference {r : CodeUnit × Text} (hr : r ∈ references) (rest : Text) :
    references.find? (·.2.isPrefixOf (r.2 ++ rest)) = some r := by
  revert r
  simp only [references, List.forall_mem_cons]
  exact ⟨rfl, rfl, rfl, rfl, rfl, by simp⟩

theorem readReferences_escapeUnit (c : CodeUnit) (rest : Text) :
    readReferences (escapeUnit c ++ rest) = symbol c :: readReferences rest := by
  unfold escapeUnit symbol
  cases hlookup : references.lookup c with
  | none =>
    have hc : c ≠ ampersand := by
      rintro rfl
      exact absurd hlookup (by decide)
    exact readReferences_cons hc rest
  | some reference =>
    obtain ⟨before, after, hsplit, -⟩ := List.lookup_eq_some_iff.1 hlookup
    have hmem : (c, reference) ∈ references := by simp [hsplit]
    have hhead := head_reference _ hmem
    have hfind := find_reference hmem rest
    cases reference with
    | nil => simp at hhead
    | cons d t =>
      rw [Option.getD_some, List.cons_append, readReferences, ← List.cons_append, hfind]
      simp

theorem inert_append (t t' : Text) (s : State) :
    s.inert (t ++ t') = (s.inert t).bind (State.inert t') := by
  cases s <;> simp [State.inert]

/-- A unit that is not escaped is none that ends a text or a value. -/
theorem lex_symbol {c : CodeUnit} {s s' : State} (h : s.inert [c] = some s')
    (rest : List (CodeUnit ⊕ CodeUnit)) : lex ([·]) (symbol c :: rest) s = lex ([·]) rest s' := by
  unfold symbol
  split
  · simp [lex, h]
  · next hplain =>
    have hc : c ≠ less ∧ c ≠ quotationMark := by
      constructor <;> rintro rfl <;> exact hplain (by decide)
    cases s <;> simp_all [State.inert, lex, step]

theorem lex_escape (t : Text) {s s' : State} (h : s.inert t = some s') (rest : Text) :
    lex ([·]) (readReferences (escape t ++ rest)) s = lex ([·]) (readReferences rest) s' := by
  induction t generalizing s with
  | nil =>
    have hs : s = s' := by cases s <;> simp_all [State.inert]
    rw [hs]
    rfl
  | cons c t ih =>
    rw [← List.singleton_append, inert_append, Option.bind_eq_some_iff] at h
    obtain ⟨s₁, hs₁, ht⟩ := h
    rw [escape, List.flatMap_cons, List.append_assoc, readReferences_escapeUnit, lex_symbol hs₁]
    exact ih ht

/-- **Escaped fields are inert**: where a template can be read, the document made of it is read as
the template with the fields in its holes. -/
theorem read_render (fields : Hole → Text) {template : List (CodeUnit ⊕ Hole)}
    (htemplate : ∀ symbol ∈ template, symbol ≠ .inl ampersand) {s : State} {tokens : List Token}
    (h : lex fields template s = some tokens) :
    lex ([·]) (readReferences (render fields template)) s = some tokens := by
  induction template generalizing s tokens with
  | nil =>
    rw [render, List.flatMap_nil, readReferences]
    cases s <;> simp_all [lex]
  | cons first rest ih =>
    rw [List.forall_mem_cons] at htemplate
    cases first with
    | inl c =>
      rw [lex, Option.bind_eq_some_iff] at h
      obtain ⟨⟨out, s₁⟩, hs₁, hrest⟩ := h
      obtain ⟨tokens, htokens, rfl⟩ := Option.map_eq_some_iff.1 hrest
      have hc : c ≠ ampersand := fun hc => htemplate.1 (congrArg _ hc)
      have hrender : render fields (.inl c :: rest) = c :: render fields rest := rfl
      simp [hrender, readReferences_cons hc, lex, hs₁, ih htemplate.2 htokens]
    | inr hole =>
      rw [lex, Option.bind_eq_some_iff] at h
      obtain ⟨s₁, hs₁, hrest⟩ := h
      exact (lex_escape _ hs₁ _).trans (ih htemplate.2 hrest)

theorem exists_read {template : List (CodeUnit ⊕ Hole)}
    (htemplate : ∀ symbol ∈ template, symbol ≠ .inl ampersand)
    (hread : (lex (fun _ => []) template (.data [])).isSome) (fields : Hole → Text) :
    ∃ tokens, lex fields template (.data []) = some tokens ∧
      read (render fields template) = some tokens := by
  have hskeleton := lex_skeleton (fun _ => []) fields template (s := .data []) rfl
  obtain ⟨tokens, htokens⟩ : ∃ tokens, lex fields template (.data []) = some tokens := by
    rw [← Option.isSome_iff_exists, ← Option.isSome_map, ← hskeleton, Option.isSome_map]
    exact hread
  exact ⟨tokens, htokens, read_render fields htemplate htokens⟩

end

end Html
