import Mathlib.Data.Bool.AllAny
import Mathlib.Data.List.Infix
import WebhostBilling.Observability.StructuredLogger

/-!
# What redaction hides

Messages that differ only under the keys of secrets, or only in texts that are sanitized to the same
text, become the same line.  The credential of an `Authorization` header is hidden when its scheme
is `Bearer`, and after every other scheme it is written out.
-/

namespace WebhostBilling

open Json Replacement
open ResellbizLiveRegistrar (isSpace trim)
open Currency (isWord)

namespace StructuredLogger

variable {ν : Type}

/-! ## Messages that differ in secrets -/

section

variable (R : Text → Text → Prop)

mutual

/-- Values that differ under the keys of secrets, and in texts that `R` relates. -/
def Alike : LogValue ν → LogValue ν → Prop
  | .null, .null => True
  | .bool b, .bool b' => b = b'
  | .number n, .number n' => n = n'
  | .string s, .string s' => s = s' ∨ R s s'
  | .other t, .other t' => t = t'
  | .date iso, .date iso' => iso = iso'
  | .error name s members, .error name' s' members' =>
    name = name' ∧ (s = s' ∨ R s s') ∧ AlikeMembers members members'
  | .array items, .array items' => AlikeItems items items'
  | .object members, .object members' => AlikeMembers members members'
  | _, _ => False

/-- `Alike`, item by item. -/
def AlikeItems : List (LogValue ν) → List (LogValue ν) → Prop
  | [], [] => True
  | v :: vs, v' :: vs' => Alike v v' ∧ AlikeItems vs vs'
  | _, _ => False

/-- The same keys in the same order, with `Alike` values except under the keys of secrets. -/
def AlikeMembers : List (Text × LogValue ν) → List (Text × LogValue ν) → Prop
  | [], [] => True
  | (key, v) :: vs, (key', v') :: vs' =>
    key = key' ∧ (sensitiveKey key = true ∨ Alike v v') ∧ AlikeMembers vs vs'
  | _, _ => False

end

/-- Messages that are alike as records, or as values where neither is a record. -/
def AlikeMessages (logger : Logger ν) (message message' : LogValue ν) : Prop :=
  match parseRecord logger message, parseRecord logger message' with
  | some members, some members' => AlikeMembers R members members'
  | none, none => Alike R message message'
  | _, _ => False

variable {R}

/-- Leaving members out by their key keeps the rest alike. -/
theorem AlikeMembers.filter (p : Text → Bool) : {vs vs' : List (Text × LogValue ν)} →
    AlikeMembers R vs vs' → AlikeMembers R (vs.filter (p ·.1)) (vs'.filter (p ·.1))
  | [], [], _ => trivial
  | (key, _) :: _, (_, _) :: _, ⟨rfl, hv, hrest⟩ => by
    by_cases hkey : p key = true
    · simpa [hkey, AlikeMembers, hv] using filter p hrest
    · simpa [hkey] using filter p hrest

/-- Texts that `R` relates are sanitized to one text. -/
def Hides (R : Text → Text → Prop) : Prop :=
  ∀ s s', R s s' → sanitizeLogText s = sanitizeLogText s'

/-- Texts that are equal or hidden are sanitized alike. -/
theorem sanitizeLogText_congr (hR : Hides R) {s s' : Text} (h : s = s' ∨ R s s') :
    sanitizeLogText s = sanitizeLogText s' :=
  h.elim (congrArg _) (hR s s')

mutual

/-- Values that are alike are redacted to one value. -/
theorem redactLogValue_alike (hR : Hides R) (depth : ℕ) : (v v' : LogValue ν) → Alike R v v' →
    redactLogValue depth v = redactLogValue depth v'
  | .array items, .array items', h => by
    rw [redactLogValue, redactLogValue, redactItems_alike hR depth items items' h]
  | .object members, .object members', h => by
    rw [redactLogValue, redactLogValue, redactMembers_alike hR depth members members' h]
  | .error name s _, .error name' s' _, h => by
    rw [redactLogValue, redactLogValue, h.1, sanitizeLogText_congr hR h.2.1]
  | .string s, .string s', h => by
    rw [redactLogValue, redactLogValue, sanitizeLogText_congr hR h]
  | .null, v', h | .bool _, v', h | .number _, v', h | .other _, v', h | .date _, v', h => by
    cases v' <;> simp_all [Alike]

theorem redactItems_alike (hR : Hides R) (depth : ℕ) :
    (vs vs' : List (LogValue ν)) → AlikeItems R vs vs' →
    redactItems depth vs = redactItems depth vs'
  | [], [], _ => rfl
  | v :: vs, v' :: vs', h => by
    rw [redactItems, redactItems, redactLogValue_alike hR (depth + 1) v v' h.1,
      redactItems_alike hR depth vs vs' h.2]

theorem redactMembers_alike (hR : Hides R) (depth : ℕ) : (vs vs' : List (Text × LogValue ν)) →
    AlikeMembers R vs vs' → redactMembers depth vs = redactMembers depth vs'
  | [], [], _ => rfl
  | (key, v) :: vs, (_, v') :: vs', ⟨rfl, hv, hrest⟩ => by
    rw [redactMembers, redactMembers, redactMembers_alike hR depth vs vs' hrest]
    rcases hv with hsensitive | hv
    · rw [if_pos hsensitive, if_pos hsensitive]
    · rw [redactLogValue_alike hR (depth + 1) v v' hv]

end

/-- The name of the event is read from members that are alike. -/
theorem eventOf_alike (hR : Hides R) : {vs vs' : List (Text × LogValue ν)} → AlikeMembers R vs vs' →
    eventOf vs = eventOf vs'
  | [], [], _ => rfl
  | (key, v) :: vs, (_, v') :: vs', ⟨rfl, hv, hrest⟩ => by
    have hevent : sensitiveKey (text "event") = false := by decide +kernel
    by_cases hkey : text "event" = key
    · subst hkey
      have hv : Alike R v v' := by simpa [hevent] using hv
      cases v <;> cases v' <;> simp_all [eventOf, Alike]
      case string s s' => rw [sanitizeLogText_congr hR hv]
    · have hlookup : ∀ (v : LogValue ν) vs, eventOf ((key, v) :: vs) = eventOf vs := fun v vs => by
        simp [eventOf, List.lookup_cons, beq_false_of_ne hkey]
      rw [hlookup, hlookup, eventOf_alike hR hrest]

/-- Messages that differ only so become the same line. -/
theorem emit_alike (hR : Hides R) (logger : Logger ν) (level : Text) {message message' : LogValue ν}
    (optionalParams : List (LogValue ν)) (h : AlikeMessages R logger message message') :
    emit logger level message optionalParams = emit logger level message' optionalParams := by
  have hrecord : (logRecord logger message).1 = (logRecord logger message').1 ∧
      redactMembers 0 (logRecord logger message).2 =
        redactMembers 0 (logRecord logger message').2 := by
    unfold AlikeMessages at h
    simp only [logRecord]
    cases hm : parseRecord logger message <;> cases hm' : parseRecord logger message' <;>
      rw [hm, hm'] at h <;> simp only at h
    · rw [redactLogValue_alike hR 0 _ _ h]
      exact ⟨rfl, rfl⟩
    · exact ⟨eventOf_alike hR h, redactMembers_alike hR 0 _ _ (h.filter (· ≠ text "event"))⟩
  simp only [emit, hrecord]

end

/-! ## Where a match ends -/

/-- What may stand before the run that a match ends with. -/
def isGap (c : CodeUnit) : Bool := isSpace c || c = colon || c = 0x3D

/-- A match of this length ends with a run, and takes all of it. -/
def EndsRun (t : Text) (length : ℕ) : Prop :=
  ∃ gap c rest n, t = gap ++ c :: rest ∧ isGap c = true ∧ runLength rest = some n ∧
    length = gap.length + 1 + n

/-- A match that ends a run still does so after more text. -/
theorem EndsRun.append {t : Text} {length : ℕ} (h : EndsRun t length) (before : Text) :
    EndsRun (before ++ t) (before.length + length) := by
  obtain ⟨gap, c, rest, n, rfl, hc, hn, rfl⟩ := h
  refine ⟨before ++ gap, c, rest, n, (List.append_assoc _ _ _).symm, hc, hn, ?_⟩
  rw [List.length_append]
  omega

theorem endsRun_spaces {c : CodeUnit} (hc : isGap c = true) {t : Text} {n : ℕ}
    (hn : runLength (t.dropWhile isSpace) = some n) :
    EndsRun (c :: t) ((c :: t).length - (t.dropWhile isSpace).length + n) := by
  induction t generalizing c with
  | nil => exact ⟨[], c, [], n, rfl, hc, hn, by simp⟩
  | cons d t ih =>
    by_cases hd : isSpace d = true
    · rw [List.dropWhile_cons_of_pos hd] at hn ⊢
      have hle : (t.dropWhile isSpace).length ≤ t.length := List.length_dropWhile_le _ _
      have h := (ih (c := d) (by simp [isGap, hd]) hn).append [c]
      rw [List.singleton_append] at h
      convert h using 1
      simp only [List.length_cons, List.length_nil]
      omega
    · rw [List.dropWhile_cons_of_neg hd] at hn ⊢
      exact ⟨[], c, d :: t, n, rfl, hc, hn, by simp⟩

/-- A match of the `Bearer` credential takes its run whole. -/
theorem bearerLength_ends {t : Text} {length : ℕ} (h : bearerLength t = some length) :
    EndsRun t length := by
  unfold bearerLength at h
  simp only at h
  split at h
  · next hbearer =>
    obtain ⟨n, hn, rfl⟩ := Option.map_eq_some_iff.1 h
    cases hrest : t.drop 6 with
    | nil => simp [hrest] at hbearer
    | cons c rest =>
      rw [hrest, List.head?_cons, Option.any_some] at hbearer
      rw [hrest, List.dropWhile_cons_of_pos hbearer.2] at hn
      rw [List.dropWhile_cons_of_pos hbearer.2]
      have hle : (rest.dropWhile isSpace).length ≤ rest.length := List.length_dropWhile_le _ _
      have hends := (endsRun_spaces (c := c) (by simp [isGap, hbearer.2]) hn).append (t.take 6)
      rw [← hrest, List.take_append_drop, hrest] at hends
      have hlength := congrArg List.length hrest
      simp only [List.length_drop, List.length_cons] at hlength
      convert hends using 1
      simp only [List.length_take, List.length_cons]
      omega
  · cases h

/-- A match of the header takes its run whole, and writes the text before it back. -/
theorem authorizationPattern_ends {afterWord : Bool} {t replacement : Text} {length : ℕ}
    (h : authorizationPattern afterWord t = some (length, replacement)) : EndsRun t length ∧
      ∃ start ≤ length, replacement = t.take start ++ text "[REDACTED]" := by
  simp only [authorizationPattern, fieldPattern, Option.bind_eq_bind, Option.bind_eq_some_iff] at h
  obtain ⟨key, -, h⟩ := h
  split at h
  · cases h
  next hseparated =>
  obtain ⟨n, hn, heq⟩ := Option.map_eq_some_iff.1 h
  obtain ⟨rfl, rfl⟩ := Prod.mk.inj heq
  refine ⟨?_, _, Nat.le_add_right _ _, rfl⟩
  cases hrest : (t.drop key.length).dropWhile isSpace with
  | nil => simp [hrest] at hseparated
  | cons c rest =>
    rw [hrest, List.tail_cons] at hn
    rw [List.tail_cons]
    have hc : isGap c = true := by
      have hname : c = colon ∨ c = 0x3D := by
        simp only [hrest, Bool.or_eq_true, not_or, List.head?_cons, Option.any_some] at hseparated
        simpa [imp_iff_not_or] using hseparated.2
      rcases hname with rfl | rfl <;> decide
    have hsplit : t =
        (t.take key.length ++ (t.drop key.length).takeWhile isSpace) ++ c :: rest := by
      rw [← hrest, List.append_assoc, List.takeWhile_append_dropWhile, List.take_append_drop]
    generalize t.take key.length ++ (t.drop key.length).takeWhile isSpace = before at hsplit
    subst hsplit
    have hle : (rest.dropWhile isSpace).length ≤ rest.length := List.length_dropWhile_le _ _
    rcases (Option.orElse_eq_some _ _ _).1 hn with hn | ⟨-, hn⟩
    · have hends := (bearerLength_ends hn).append (before ++ c :: rest.takeWhile isSpace)
      rw [List.append_assoc, List.cons_append, List.takeWhile_append_dropWhile] at hends
      convert hends using 1
      have := congrArg List.length (List.takeWhile_append_dropWhile (p := isSpace) (l := rest))
      simp only [List.length_append, List.length_cons] at this ⊢
      omega
    · have hends := (endsRun_spaces hc hn).append before
      convert hends using 1
      simp only [List.length_append, List.length_cons]
      omega

/-! ## Where a header stands -/

/-- The start of a header that carries a credential. -/
def header : Text := text "Authorization: "

/-- A text with one blank, at its end, that no match begins in. -/
structure Stops (stop : Text) : Prop where
  long : 6 ≤ stop.length
  start : stop.head?.any isSpace = false
  ends : (stop.takeWhile isRun).length + 1 = stop.length
  gaps : ∀ s ∈ stop.tails, s.head?.any isGap = true → runLength s.tail = none
  bearer : ∀ k < 6, startsWith ((text "bearer").drop k) stop = false
  plain : ∀ c ∈ stop, lower c ≠ 0x62

/-- No match begins in the header. -/
theorem header_stops : Stops header where
  long := by decide
  start := rfl
  ends := rfl
  gaps := by decide
  bearer := by decide
  plain := List.all_iff_forall_prop.1 (by decide)

theorem redacted_stops : Stops (text "[REDACTED] ") where
  long := by decide
  start := rfl
  ends := rfl
  gaps := by decide
  bearer := by decide
  plain := List.all_iff_forall_prop.1 (by decide)

variable {stop : Text}

theorem Stops.ne_nil (h : Stops stop) : stop ≠ [] :=
  List.ne_nil_of_length_pos (by have := h.long; omega)

theorem Stops.takeWhile (h : Stops stop) (more : Text) :
    (stop ++ more).takeWhile isRun = stop.takeWhile isRun := by
  have hends := h.ends
  rw [List.takeWhile_append, if_neg (by omega)]

/-- A match that runs into the stop takes all of it but the blank. -/
theorem Stops.ends_eq (h : Stops stop) {t : Text} {length : ℕ} (hends : EndsRun (t ++ stop) length)
    (hlong : t.length < length) : length + 1 = t.length + stop.length := by
  obtain ⟨gap, c, rest, n, heq, hc, hn, rfl⟩ := hends
  have hgap : ¬ c :: rest <:+ stop := fun hsuffix => by
    have hnone := h.gaps (c :: rest) ((List.mem_tails _ _).2 hsuffix) (by simpa using hc)
    rw [List.tail_cons, hn] at hnone
    cases hnone
  rcases List.append_eq_append_iff.1 heq with ⟨s, rfl, hstop⟩ | ⟨s, rfl, hrest⟩
  · exact absurd ⟨s, hstop.symm⟩ hgap
  · cases s with
    | nil => exact absurd ⟨[], hrest⟩ hgap
    | cons d s =>
      obtain ⟨rfl, rfl⟩ := List.cons.inj hrest
      have hstop := h.ends
      have htake : (s ++ stop).takeWhile isRun ≠ [] ∧ ((s ++ stop).takeWhile isRun).length = n := by
        simpa [runLength] using hn
      rw [List.takeWhile_append] at htake
      split at htake
      · have := htake.2
        simp only [List.length_append, List.length_cons] at this ⊢
        omega
      · have hle : (s.takeWhile isRun).length ≤ s.length := (List.takeWhile_sublist _).length_le
        have := htake.2
        simp only [List.length_append, List.length_cons] at hlong
        omega

theorem startsWith_iff {literal t : Text} :
    startsWith literal t = true ↔ literal <+: t.map lower := by
  simp [startsWith]

theorem startsWith_append {literal t : Text} (h : literal.length ≤ t.length) (more : Text) :
    startsWith literal (t ++ more) = startsWith literal t := by
  rw [Bool.eq_iff_iff, startsWith_iff, startsWith_iff, List.map_append]
  exact ⟨fun hp => List.prefix_of_prefix_length_le hp (List.prefix_append _ _) (by simpa using h),
    fun hp => hp.trans (List.prefix_append _ _)⟩

/-- A literal of small letters that is not matched by `stop` is matched before it. -/
theorem length_le_of_startsWith {literal t more : Text}
    (hstop : t.length < literal.length → startsWith (literal.drop t.length) stop = false)
    (hlength : literal.length ≤ stop.length)
    (h : startsWith literal (t ++ (stop ++ more)) = true) : literal.length ≤ t.length := by
  by_contra hlt
  have hdrop : startsWith (literal.drop t.length) (stop ++ more) = true := by
    obtain ⟨rest, hrest⟩ := startsWith_iff.1 h
    refine startsWith_iff.2 ⟨rest, ?_⟩
    rw [← List.drop_append_of_le_length (by omega), hrest]
    simp
  rw [startsWith_append (by simp; omega)] at hdrop
  exact absurd hdrop (by simpa using hstop (by omega))

theorem startsWith_stop (literal : Text) {t : Text} (hlength : literal.length ≤ stop.length)
    (hstop : t.length < literal.length → startsWith (literal.drop t.length) stop = false)
    (more : Text) : startsWith literal (t ++ (stop ++ more)) = true ↔
      literal.length ≤ t.length ∧ startsWith literal t = true := by
  refine ⟨fun h => ?_, fun ⟨hle, h⟩ => by rwa [startsWith_append hle]⟩
  have hle := length_le_of_startsWith hstop hlength h
  exact ⟨hle, by rwa [startsWith_append hle] at h⟩

theorem Stops.dropWhile (h : Stops stop) (t more : Text) :
    (t ++ (stop ++ more)).dropWhile isSpace = t.dropWhile isSpace ++ (stop ++ more) := by
  rw [List.dropWhile_append]
  split
  · next hempty =>
    obtain ⟨c, rest, rfl⟩ := List.exists_cons_of_ne_nil h.ne_nil
    rw [List.isEmpty_iff.1 hempty, List.cons_append, List.dropWhile_cons_of_neg]
    · rfl
    · simpa using h.start
  · rfl

theorem Stops.head (h : Stops stop) (t more : Text) :
    (t ++ (stop ++ more)).head? = (t ++ stop).head? := by
  obtain ⟨c, rest, rfl⟩ := List.exists_cons_of_ne_nil h.ne_nil
  cases t <;> rfl

theorem Stops.runLength (h : Stops stop) (t more : Text) :
    runLength (t ++ (stop ++ more)) = runLength (t ++ stop) := by
  simp only [StructuredLogger.runLength, List.takeWhile_append, h.takeWhile]

theorem Stops.bearerLength (h : Stops stop) (t more more' : Text) :
    bearerLength (t ++ (stop ++ more)) = bearerLength (t ++ (stop ++ more')) := by
  have hstarts := startsWith_stop (text "bearer") h.long (h.bearer t.length)
  by_cases hlong : 6 ≤ t.length
  · simp only [StructuredLogger.bearerLength, List.drop_append_of_le_length hlong, h.dropWhile,
      h.head, h.runLength, hstarts, List.length_append, Nat.add_sub_add_right]
  · have hshort : ¬ (text "bearer").length ≤ t.length := hlong
    simp [StructuredLogger.bearerLength, hstarts, hshort]

theorem authorizationPattern_header (afterWord : Bool) {t : Text} (ht : t ≠ [])
    (more more' : Text) :
    authorizationPattern afterWord (t ++ (header ++ more)) =
      authorizationPattern afterWord (t ++ (header ++ more')) := by
  have hdrop : ∀ k < 13, 0 < k → startsWith ((text "authorization").drop k) header = false := by
    decide
  have hstarts := startsWith_stop (text "authorization") (by decide) fun hlt =>
    hdrop t.length hlt (List.length_pos_iff.2 ht)
  have h := header_stops
  simp only [authorizationPattern, fieldPattern, List.find?_cons, List.find?_nil]
  by_cases hkey : 13 ≤ t.length ∧ startsWith (text "authorization") t = true
  · have hfound := fun more => (hstarts more).2 hkey
    have hlength : (text "authorization").length = 13 := by decide
    simp only [hfound, Option.bind_eq_bind, Option.bind_some, hlength,
      List.drop_append_of_le_length hkey.1, h.dropWhile, h.head]
    cases hrest : (t.drop 13).dropWhile isSpace with
    | nil =>
      have hname : ([] ++ header).head?.any (· ∈ [colon, 0x3D]) = false := rfl
      simp only [hname, Bool.not_false, Bool.or_true, if_true]
    | cons c rest =>
      simp only [List.cons_append, List.head?_cons, List.tail_cons, h.dropWhile, h.runLength,
        List.length_append, Nat.add_sub_add_right,
        List.take_append_of_le_length (Nat.sub_le _ _), h.bearerLength _ more more']
  · have hnone := fun more => Bool.eq_false_iff.2 (mt (hstarts more).1 hkey)
    simp only [hnone, Option.bind_eq_bind, Option.bind_none]

/-! ## Credentials -/

/-- A run of units without white space, control characters, commas and semicolons. -/
structure Run where
  value : Text
  ne_nil : value ≠ []
  plain : ∀ c ∈ value, isRun c = true ∧ isControl c = false

/-- The scan for authorization fields comes to the header between two matches, at a new word. -/
def FreeHeader (before : Text) : Prop :=
  scanTo authorizationPattern isWord header 0 false (withoutControls before) = (0, false)

/-- No match of the scan that begins in the credential runs over its end. -/
def Contained (credential : Run) (after : Text) : Prop :=
  (scanTo authorizationPattern isWord ((withoutControls after).dropWhile isRun) 0 false
    (credential.value ++ (withoutControls after).takeWhile isRun)).1 = 0

/-- Two texts that are equal but for the credential that follows the scheme in a header. -/
inductive CredentialDiffers (scheme : Run) : Text → Text → Prop
  | intro (before after : Text) (credential credential' : Run)
    (hfree : FreeHeader before ∨ Contained credential after ∧ Contained credential' after) :
    CredentialDiffers scheme
      (before ++ (header ++ (scheme.value ++ blank :: (credential.value ++ after))))
      (before ++ (header ++ (scheme.value ++ blank :: (credential'.value ++ after))))

theorem Run.isRun (run : Run) : ∀ c ∈ run.value, isRun c = true := fun c hc => (run.plain c hc).1

theorem dropWhile_run {run : Text} (hne : run ≠ []) (hrun : ∀ c ∈ run, isRun c = true) (t : Text) :
    (run ++ t).dropWhile isSpace = run ++ t := by
  obtain ⟨c, rest, rfl⟩ := List.exists_cons_of_ne_nil hne
  have hc := hrun c List.mem_cons_self
  rw [List.cons_append, List.dropWhile_cons_of_neg]
  intro hspace
  simp [isRun, hspace] at hc

theorem runLength_run {run : Text} (hne : run ≠ []) (hrun : ∀ c ∈ run, isRun c = true) (t : Text) :
    runLength (run ++ t) = some (run.length + (t.takeWhile isRun).length) := by
  simp [runLength, List.takeWhile_append_of_pos hrun, hne]

/-- A run has no control characters to lose. -/
theorem withoutControls_run (run : Run) : withoutControls run.value = run.value := by
  unfold withoutControls
  conv_rhs => rw [← List.map_id run.value]
  exact List.map_congr_left fun c hc => by simp [(run.plain c hc).2]

theorem authorizationPattern_at_header {t : Text} (ht : t.dropWhile isSpace = t) :
    authorizationPattern false (header ++ t) = (bearerLength t <|> runLength t).map fun length =>
      (15 + length, header ++ text "[REDACTED]") := by
  have hkey : startsWith (text "authorization") (header ++ t) = true := by
    rw [startsWith_append (by decide)]
    decide
  have hlength : (text "authorization").length = 13 := by decide
  have hdrop : (header ++ t).drop 13 = colon :: blank :: t := rfl
  have hspace : (colon :: blank :: t).dropWhile isSpace = colon :: blank :: t := rfl
  have hblank : (blank :: t).dropWhile isSpace = t := ht
  simp [authorizationPattern, fieldPattern, hkey, hlength, hdrop, hspace, hblank]
  rfl

variable {scheme : Run}

theorem head_dropWhile (t : Text) : ∀ c ∈ (t.dropWhile isRun).head?, isRun c = false := by
  intro c hc
  have hhead := List.head?_dropWhile_not isRun t
  rwa [hc] at hhead

theorem length_bearer (hscheme : scheme.value.map lower = text "bearer") :
    scheme.value.length = 6 := by
  rw [← List.length_map lower, hscheme]
  decide

theorem bearerLength_bearer (hscheme : scheme.value.map lower = text "bearer") {run : Text}
    (hne : run ≠ []) (hrun : ∀ c ∈ run, isRun c = true) (t : Text) :
    bearerLength (scheme.value ++ blank :: (run ++ t)) =
      some (7 + (run.length + (t.takeWhile isRun).length)) := by
  have hlength := length_bearer hscheme
  have hstarts : startsWith (text "bearer") (scheme.value ++ blank :: (run ++ t)) = true :=
    startsWith_iff.2 (by rw [List.map_append, hscheme]; exact List.prefix_append _ _)
  have hdrop : (scheme.value ++ blank :: (run ++ t)).drop 6 = blank :: (run ++ t) := by
    rw [← hlength, List.drop_left]
  have hspace : (blank :: (run ++ t)).dropWhile isSpace = run ++ t := dropWhile_run hne hrun t
  have hblank : isSpace blank = true := by decide
  simp only [bearerLength, hstarts, hdrop, hspace, runLength_run hne hrun, List.head?_cons,
    Option.any_some, hblank, and_self, if_true, Option.map_some, List.length_append,
    List.length_cons, hlength]
  congr 1
  omega

theorem bearerLength_of_ne (hscheme : scheme.value.map lower ≠ text "bearer") (t : Text) :
    bearerLength (scheme.value ++ blank :: t) = none := by
  refine if_neg fun ⟨hstarts, hspace⟩ => ?_
  obtain ⟨rest, hrest⟩ := startsWith_iff.1 hstarts
  rw [List.map_append] at hrest
  have hlength : (text "bearer").length = 6 := by decide
  rcases lt_trichotomy scheme.value.length 6 with hshort | hequal | hlong
  · have hletters : ∀ k < 6, (text "bearer")[k]? ≠ some blank := by decide
    have hat := congrArg (·[scheme.value.length]?) hrest
    simp only [List.getElem?_append_left (hshort.trans_eq hlength.symm)] at hat
    rw [List.getElem?_append_right (by simp)] at hat
    exact hletters _ hshort (hat.trans (by simp [lower]; decide))
  · exact hscheme (List.append_inj_left hrest (by simp [hlength, hequal])).symm
  · rw [List.drop_append_of_le_length hlong.le, List.drop_eq_getElem_cons hlong] at hspace
    have hrun := (scheme.plain _ (List.getElem_mem hlong)).1
    simp_all [isRun]

theorem isRun_of_lower {c : CodeUnit} (h : 0x61 ≤ lower c) (h' : lower c ≤ 0x7A) :
    isRun c = true := by
  have hletters : ∀ n < 0x7B, 0x41 ≤ n → n ≤ 0x5A ∨ 0x61 ≤ n → isRun (UInt16.ofNat n) = true := by
    decide
  rw [← UInt16.ofNat_toNat (x := c)]
  have hrange : 0x41 ≤ c ∧ c ≤ 0x5A ∨ 0x61 ≤ c ∧ c ≤ 0x7A := by
    unfold lower at h h'
    grind
  simp only [UInt16.le_iff_toNat_le, UInt16.reduceToNat] at hrange
  exact hletters _ (by omega) (by omega) (by omega)

theorem startsWith_of_not_run {c : CodeUnit} (hc : isRun c = false) (literal : Text)
    (hliteral : ∃ l ∈ literal.head?, 0x61 ≤ l ∧ l ≤ 0x7A) (t : Text) :
    startsWith literal (c :: t) = false := by
  rw [Bool.eq_false_iff, Ne, startsWith_iff]
  rintro ⟨rest, hrest⟩
  obtain ⟨l, hl, hle, hle'⟩ := hliteral
  obtain ⟨tail, rfl⟩ := List.head?_eq_some_iff.1 hl
  obtain rfl := (List.cons.inj hrest).1
  rw [isRun_of_lower hle hle'] at hc
  cases hc

/-- Only a letter starts a match of the header. -/
theorem authorizationPattern_of_not_run {c : CodeUnit} (hc : isRun c = false) (afterWord : Bool)
    (t : Text) : authorizationPattern afterWord (c :: t) = none := by
  have hstarts := startsWith_of_not_run hc (text "authorization") (by decide) t
  simp [authorizationPattern, fieldPattern, hstarts]

theorem bearerPattern_of_not_run {c : CodeUnit} (hc : isRun c = false) (afterWord : Bool)
    (t : Text) : bearerPattern afterWord (c :: t) = none := by
  have hstarts := startsWith_of_not_run hc (text "bearer") (by decide) t
  simp [bearerPattern, bearerLength, hstarts]

/-- Where no match can begin, it does not matter what comes before. -/
theorem replaceFrom_not_run {pattern : Pattern CodeUnit Bool}
    (hpattern : ∀ {c}, isRun c = false → ∀ afterWord t, pattern afterWord (c :: t) = none)
    (afterWord : Bool) {t : Text} (ht : ∀ c ∈ t.head?, isRun c = false) :
    replaceFrom pattern isWord 0 afterWord t = replace pattern t := by
  cases t with
  | nil => rfl
  | cons c t => simp only [replace, replaceFrom, hpattern (ht c rfl)]

/-- The credential of a free header with `Bearer` is left out with its scheme. -/
theorem replace_free (hscheme : scheme.value.map lower = text "bearer") {before : Text}
    (hfree : scanTo authorizationPattern isWord header 0 false before = (0, false))
    (after : Text) : ∃ out, ∀ credential : Run, replace authorizationPattern
      (before ++ (header ++ (scheme.value ++ blank :: (credential.value ++ after)))) = out := by
  obtain ⟨out, hout, -⟩ := exists_replaceFrom_append authorizationPattern isWord header
    (fun afterWord t more ht => by simpa using authorizationPattern_header afterWord ht more [])
    0 false before
  rw [hfree] at hout
  refine ⟨out ++ (header ++ text "[REDACTED]" ++
    replace authorizationPattern (after.dropWhile isRun)), fun credential => ?_⟩
  have hfound := authorizationPattern_at_header (dropWhile_run scheme.ne_nil scheme.isRun
    (blank :: (credential.value ++ after)))
  rw [bearerLength_bearer hscheme credential.ne_nil credential.isRun] at hfound
  have hsplit : header ++ (scheme.value ++ blank :: (credential.value ++ after)) =
      (header ++ scheme.value ++ blank :: (credential.value ++ after.takeWhile isRun)) ++
        after.dropWhile isRun := by
    simp [List.takeWhile_append_dropWhile]
  rw [hsplit] at hfound
  have hlength : (header ++ scheme.value ++ blank :: (credential.value ++
      after.takeWhile isRun)).length =
      15 + (7 + (credential.value.length + (after.takeWhile isRun).length)) := by
    have hheader : header.length = 15 := by decide
    simp only [List.length_append, List.length_cons, length_bearer hscheme, hheader]
    omega
  rw [replace, hout, hsplit, replaceFrom_match (by simp) (by rw [hfound, hlength]; rfl),
    replaceFrom_not_run authorizationPattern_of_not_run _ (head_dropWhile after)]

/-- No match begins between the header and its credential. -/
theorem authorizationPattern_inside (hscheme : scheme.value.map lower = text "bearer") {t : Text}
    (ht : t ≠ []) (hsuffix : t <:+ header.tail ++ (scheme.value ++ [blank])) (afterWord : Bool)
    (more : Text) : authorizationPattern afterWord (t ++ more) = none := by
  have hinside : ∀ s ∈ (text "uthorization: bearer ").tails, s ≠ [] →
      ¬ text "authorization" <+: s ∧ ¬ s <+: text "authorization" := by decide +kernel
  have hlower : t.map lower ∈ (text "uthorization: bearer ").tails := by
    have hmap := hsuffix.map lower
    rw [List.map_append, List.map_append, hscheme] at hmap
    exact (List.mem_tails _ _).2 hmap
  have hnot := hinside _ hlower (by simpa using ht)
  have hstarts : startsWith (text "authorization") (t ++ more) = false := by
    rw [Bool.eq_false_iff, Ne, startsWith_iff, List.map_append]
    intro hstarts
    rcases List.prefix_or_prefix_of_prefix hstarts (List.prefix_append _ _) with h | h
    · exact hnot.1 h
    · exact hnot.2 h
  simp [authorizationPattern, fieldPattern, hstarts]

/-- Up to its credential a header is kept. -/
theorem replace_inside (hscheme : scheme.value.map lower = text "bearer") {t : Text}
    (ht : t ≠ []) (hsuffix : t <:+ header.tail ++ (scheme.value ++ [blank])) (afterWord : Bool)
    (more : Text) : replaceFrom authorizationPattern isWord 0 afterWord (t ++ more) =
      t ++ replace authorizationPattern more := by
  rw [replaceFrom_of_none _ _ fun s hs hst state =>
    authorizationPattern_inside hscheme hs (hst.trans hsuffix) state more]
  obtain rfl | ⟨s, c, rfl⟩ := List.eq_nil_or_concat' t
  · exact absurd rfl ht
  · obtain ⟨first, hfirst⟩ := hsuffix
    rw [← List.append_assoc, ← List.append_assoc] at hfirst
    obtain rfl := List.singleton_inj.1 (List.append_inj' hfirst rfl).2
    rw [List.foldl_append]
    rfl

/-- Where the scan comes to a header inside a match or inside a word, the scheme is kept. -/
theorem replace_not_free (hscheme : scheme.value.map lower = text "bearer") {before : Text}
    (hfree : scanTo authorizationPattern isWord header 0 false before ≠ (0, false)) :
    ∃ out stop, Stops stop ∧ ∀ more, replace authorizationPattern
      (before ++ (header ++ (scheme.value ++ blank :: more))) =
      out ++ (stop ++ (scheme.value ++ blank :: replace authorizationPattern more)) := by
  obtain ⟨out, hout, hlast⟩ := exists_replaceFrom_append authorizationPattern isWord header
    (fun afterWord t more ht => by simpa using authorizationPattern_header afterWord ht more [])
    0 false before
  generalize scanTo authorizationPattern isWord header 0 false before = scanned at *
  obtain ⟨skip, afterWord⟩ := scanned
  by_cases hskip : skip = 0
  · subst hskip
    obtain rfl : afterWord = true := by simpa using hfree
    refine ⟨out, header, header_stops, fun more => ?_⟩
    have hkept := replace_inside hscheme (t := header.tail ++ (scheme.value ++ [blank]))
      (by simp) (List.suffix_refl _) true more
    simp only [List.append_assoc, List.singleton_append] at hkept
    have hword : ∀ t, authorizationPattern true t = none := fun t => by
      simp [authorizationPattern, fieldPattern]
    have hfirst : replaceFrom authorizationPattern isWord 0 true
        (header ++ (scheme.value ++ blank :: more)) =
        0x41 :: replaceFrom authorizationPattern isWord 0 true
          (header.tail ++ (scheme.value ++ blank :: more)) := by
      have hheader : header = 0x41 :: header.tail := by decide
      have hafter : isWord 0x41 = true := by decide
      nth_rewrite 1 [hheader]
      rw [List.cons_append, replaceFrom, hword, hafter]
    rw [replace, hout, hfirst, hkept]
    rfl
  · rcases hlast hskip with ⟨h, -⟩ | ⟨state', t', out', replacement, ht', hmatch, rfl⟩
    · exact absurd (Nat.add_eq_zero_iff.1 h.symm).2 hskip
    · obtain ⟨hends, start, -, rfl⟩ := authorizationPattern_ends hmatch
      have hlength := header_stops.ends_eq hends (by omega)
      have hheader : header.length = 15 := by decide
      obtain rfl : skip = 14 := by omega
      refine ⟨out' ++ (t' ++ header).take start, text "[REDACTED] ", redacted_stops, fun more => ?_⟩
      have hkept := replace_inside hscheme (t := [blank] ++ (scheme.value ++ [blank]))
        (by simp) ⟨text "uthorization:", by rfl⟩ (isWord colon) more
      simp only [List.cons_append, List.append_assoc, List.nil_append] at hkept
      have hskipped : replaceFrom authorizationPattern isWord 14 afterWord
          (header ++ (scheme.value ++ blank :: more)) = replaceFrom authorizationPattern isWord 0
            (isWord colon) (blank :: (scheme.value ++ blank :: more)) := rfl
      rw [replace, hout, hskipped, hkept, List.append_assoc, List.append_assoc, List.append_assoc]
      rfl

/-- A credential that no match runs over stays a run. -/
theorem replace_contained {credential after : Text} (hne : credential ≠ [])
    (hrun : ∀ c ∈ credential, isRun c = true)
    (hend : (scanTo authorizationPattern isWord (after.dropWhile isRun) 0 false
      (credential ++ after.takeWhile isRun)).1 = 0) :
    ∃ run, run ≠ [] ∧ (∀ c ∈ run, isRun c = true) ∧
      replace authorizationPattern (credential ++ after) =
        run ++ replace authorizationPattern (after.dropWhile isRun) := by
  have hall : ∀ c ∈ credential ++ after.takeWhile isRun, isRun c = true :=
    List.forall_mem_append.2 ⟨hrun, fun c hc => List.mem_takeWhile_imp hc⟩
  have hreplacement : ∀ state t length replacement, (∀ c ∈ t, isRun c = true) →
      authorizationPattern state (t ++ after.dropWhile isRun) = some (length, replacement) →
      length ≤ t.length → replacement ≠ [] ∧ ∀ c ∈ replacement, isRun c = true := by
    intro _ t length replacement ht hmatch hlength
    obtain ⟨-, start, hstart, rfl⟩ := authorizationPattern_ends hmatch
    refine ⟨fun h => absurd (List.append_eq_nil_iff.1 h).2 (by decide),
      List.forall_mem_append.2 ⟨fun c hc => ?_, List.all_iff_forall_prop.1 (by decide)⟩⟩
    rw [List.take_append_of_le_length (hstart.trans hlength)] at hc
    exact ht c (List.mem_of_mem_take hc)
  obtain ⟨run, hplain, hfull, afterWord, h⟩ := exists_replaceFrom_within authorizationPattern isWord
    hreplacement 0 false hall hend
  refine ⟨run, hfull rfl (by simp [hne]), hplain, ?_⟩
  rw [List.append_assoc, List.takeWhile_append_dropWhile,
    replaceFrom_not_run authorizationPattern_of_not_run _ (head_dropWhile after)] at h
  exact h

/-- The scan for `Bearer` comes to what follows a stop between two matches. -/
theorem Stops.replace_bearer {stop : Text} (hstop : Stops stop) (before : Text) :
    ∃ out afterWord, ∀ more, replace bearerPattern (before ++ (stop ++ more)) =
      out ++ replaceFrom bearerPattern isWord 0 afterWord more := by
  obtain ⟨out, hout, hlast⟩ := exists_replaceFrom_append bearerPattern isWord stop
    (fun _ t more _ => by simp [bearerPattern, hstop.bearerLength t more []]) 0 false before
  generalize scanTo bearerPattern isWord stop 0 false before = scanned at *
  obtain ⟨skip, afterWord⟩ := scanned
  have hskip : skip ≤ stop.length := by
    by_cases hskip : skip = 0
    · omega
    · rcases hlast hskip with ⟨h, -⟩ | ⟨state', t', out', replacement, ht', hmatch, rfl⟩
      · exact absurd (Nat.add_eq_zero_iff.1 h.symm).2 hskip
      · obtain ⟨length, hlength, heq⟩ := Option.map_eq_some_iff.1 hmatch
        obtain rfl := (Prod.mk.inj heq).1
        have := hstop.ends_eq (bearerLength_ends hlength) (by omega)
        omega
  have hnone : ∀ s, s ≠ [] → s <:+ stop.drop skip → ∀ afterWord more,
      bearerPattern afterWord (s ++ more) = none := by
    intro s hs hsuffix afterWord more
    obtain ⟨c, rest, rfl⟩ := List.exists_cons_of_ne_nil hs
    have hc := hstop.plain c ((hsuffix.trans (List.drop_suffix _ _)).mem List.mem_cons_self)
    have hstarts : startsWith (text "bearer") (c :: (rest ++ more)) = false := by
      rw [Bool.eq_false_iff, Ne, startsWith_iff]
      rintro ⟨tail, htail⟩
      exact hc (List.cons.inj htail).1.symm
    simp [bearerPattern, StructuredLogger.bearerLength, hstarts]
  refine ⟨out ++ stop.drop skip, (stop.drop skip).foldl (fun _ c => isWord c)
    ((stop.take skip).foldl (fun _ c => isWord c) afterWord), fun more => ?_⟩
  have hsplit : stop ++ more = stop.take skip ++ (stop.drop skip ++ more) := by
    rw [← List.append_assoc, List.take_append_drop]
  have hlength : (stop.take skip).length = skip := List.length_take_of_le hskip
  have hskipped : replaceFrom bearerPattern isWord skip afterWord
      (stop.take skip ++ (stop.drop skip ++ more)) = replaceFrom bearerPattern isWord 0
        ((stop.take skip).foldl (fun _ c => isWord c) afterWord) (stop.drop skip ++ more) := by
    simpa only [hlength] using replaceFrom_length afterWord (stop.take skip) (stop.drop skip ++ more)
  rw [replace, hout, hsplit, hskipped, replaceFrom_of_none _ _ fun s hs hsuffix state =>
    hnone s hs hsuffix state more, List.append_assoc]

theorem head_replace (t : Text) (ht : ∀ c ∈ t.head?, isRun c = false) :
    ∀ c ∈ (replace authorizationPattern t).head?, isRun c = false := by
  cases t with
  | nil => exact fun _ hc => nomatch hc
  | cons c t =>
    rw [replace, replaceFrom, authorizationPattern_of_not_run (ht c rfl)]
    exact ht

/-- The credential of a header with `Bearer` is left out with its scheme. -/
theorem credential_hidden (hscheme : scheme.value.map lower = text "bearer") :
    Hides (CredentialDiffers scheme) := by
  rintro _ _ ⟨before, after, credential, credential', hheader⟩
  have hcontrols : ∀ credential : Run, withoutControls
      (before ++ (header ++ (scheme.value ++ blank :: (credential.value ++ after)))) =
      withoutControls before ++ (header ++ (scheme.value ++ blank ::
        (credential.value ++ withoutControls after))) := fun credential => by
    have hheader : withoutControls header = header := by decide
    have hscheme := withoutControls_run scheme
    have hcredential := withoutControls_run credential
    unfold withoutControls at *
    simp only [List.map_append, List.map_cons, hheader, hscheme, hcredential]
    rfl
  simp only [sanitizeLogText, hcontrols]
  by_cases hfree : FreeHeader before
  · obtain ⟨out, hout⟩ := replace_free hscheme hfree (withoutControls after)
    rw [hout, hout]
  · obtain ⟨out, stop, hstop, hout⟩ := replace_not_free hscheme hfree
    obtain ⟨out', afterWord, hout'⟩ := hstop.replace_bearer out
    suffices ∃ text, ∀ credential : Run, Contained credential after → replace bearerPattern
        (replace authorizationPattern (withoutControls before ++ (header ++ (scheme.value ++
          blank :: (credential.value ++ withoutControls after))))) = text by
      obtain ⟨text, htext⟩ := this
      obtain ⟨h, h'⟩ := hheader.resolve_left hfree
      rw [htext credential h, htext credential' h']
    let rest := replace authorizationPattern ((withoutControls after).dropWhile isRun)
    have hrest : ∀ c ∈ rest.head?, isRun c = false := head_replace _ (head_dropWhile _)
    refine ⟨out' ++ (text "Bearer [REDACTED]" ++ replace bearerPattern rest),
      fun credential hcontained => ?_⟩
    obtain ⟨run, hne, hrun, h⟩ := replace_contained credential.ne_nil credential.isRun hcontained
    have hsplit : scheme.value ++ blank :: (run ++ rest) =
        (scheme.value ++ blank :: run) ++ rest := by simp
    have hempty : rest.takeWhile isRun = [] := by
      cases hcase : rest with
      | nil => rfl
      | cons c t => exact List.takeWhile_cons_of_neg (by simp [hrest c (by simp [hcase])])
    have hfound := bearerLength_bearer hscheme hne hrun rest
    rw [hempty, hsplit] at hfound
    have hlength : (scheme.value ++ blank :: run).length = 7 + (run.length + 0) := by
      simp only [List.length_append, List.length_cons, length_bearer hscheme]
      omega
    rw [hout, h, hout', hsplit, replaceFrom_match (by simp) (by
      rw [bearerPattern, hfound, hlength]; rfl),
      replaceFrom_not_run bearerPattern_of_not_run _ hrest]

/-- A credential that goes on as an authorization field of its own can be told from another. -/
example : sanitizeLogText (text "xAuthorization: Bearer authorization: more") ≠
    sanitizeLogText (text "xAuthorization: Bearer a more") := by decide +kernel

/-- Of another scheme only the word is redacted, and the credential stays. -/
theorem sanitizeLogText_of_ne (hscheme : scheme.value.map lower ≠ text "bearer") (t : Text) :
    sanitizeLogText (header ++ (scheme.value ++ blank :: t)) =
      (replace sensitiveText (replace bearerPattern (header ++ text "[REDACTED]" ++
        replace authorizationPattern (blank :: withoutControls t)))).take 2048 := by
  have hcontrols : withoutControls (header ++ (scheme.value ++ blank :: t)) =
      header ++ scheme.value ++ blank :: withoutControls t := by
    have hheader : withoutControls header = header := by decide
    have hscheme := withoutControls_run scheme
    simp only [withoutControls, List.map_append, List.map_cons] at hheader hscheme ⊢
    rw [hheader, hscheme, List.append_assoc]
    rfl
  have hfound := authorizationPattern_at_header (dropWhile_run scheme.ne_nil scheme.isRun
    (blank :: withoutControls t))
  have htake : (blank :: withoutControls t).takeWhile isRun = [] := rfl
  have hlength : (header ++ scheme.value).length = 15 + (scheme.value.length + 0) :=
    List.length_append
  rw [bearerLength_of_ne hscheme, runLength_run scheme.ne_nil scheme.isRun,
    ← List.append_assoc, htake] at hfound
  rw [sanitizeLogText, hcontrols]
  nth_rewrite 3 [replace]
  rw [replaceFrom_match (by simp [scheme.ne_nil]) (by rw [hfound, hlength]; rfl),
    replaceFrom_not_run authorizationPattern_of_not_run _ (by simp; decide)]

/-- A logger without context. -/
def plainLogger : Logger ℕ where
  readNumber _ := 0
  printNumber := printNat
  now := text "2026-01-01T00:00:00.000Z"
  service := text "api"
  environment := none
  logContext := []

def basic : Run := ⟨text "Basic", by decide, List.all_iff_forall_prop.1 (by decide)⟩

def credentialA : Run := ⟨text "a", by decide, List.all_iff_forall_prop.1 (by decide)⟩

def credentialB : Run := ⟨text "b", by decide, List.all_iff_forall_prop.1 (by decide)⟩

/-- The credential of the `Basic` scheme is in the line. -/
theorem basic_credential_logged : CredentialDiffers basic (text "Authorization: Basic a")
      (text "Authorization: Basic b") ∧
    emit plainLogger (text "info") (.string (text "Authorization: Basic a")) [] ≠
      emit plainLogger (text "info") (.string (text "Authorization: Basic b")) [] := by
  refine ⟨.intro [] [] credentialA credentialB (.inl rfl), ?_⟩
  decide +kernel

theorem emit_of_sanitizeLogText (logger : Logger ν) (level : Text) {s s' : Text}
    (h : sanitizeLogText s = sanitizeLogText s') :
    emit logger level (.array [.string s]) [] = emit logger level (.array [.string s']) [] := by
  simp only [emit, logRecord, parseRecord, redactLogValue, redactItems, h]

/-- **What the redaction hides**: secrets under their keys always, and the credential of a header
exactly when its scheme is `Bearer`, in either case. -/
theorem redaction_noninterference (scheme : Run) :
    (∀ (ν : Type) (logger : Logger ν) level optionalParams message message',
      AlikeMessages (fun _ _ => False) logger message message' →
        emit logger level message optionalParams = emit logger level message' optionalParams) ∧
    ((∀ (ν : Type) (logger : Logger ν) level optionalParams message message',
      AlikeMessages (CredentialDiffers scheme) logger message message' →
        emit logger level message optionalParams = emit logger level message' optionalParams) ↔
      scheme.value.map lower = text "bearer") := by
  refine ⟨fun ν logger level params _ _ => emit_alike (fun _ _ => False.elim) logger level params,
    fun h => ?_, fun hscheme ν logger level params _ _ =>
      emit_alike (credential_hidden hscheme) logger level params⟩
  by_contra hscheme
  have hsame := h ℕ plainLogger (text "info") [] (.array [.string _]) (.array [.string _])
    ⟨.inr (.intro [] [] credentialA credentialB (.inl rfl)), trivial⟩
  have hbasic : basic.value.map lower ≠ text "bearer" := by decide
  have hplain : ∀ credential : Run, sanitizeLogText
      ([] ++ (header ++ (scheme.value ++ blank :: (credential.value ++ [])))) =
      sanitizeLogText (header ++ (basic.value ++ blank :: credential.value)) := fun credential => by
    rw [List.nil_append, List.append_nil, sanitizeLogText_of_ne hscheme,
      sanitizeLogText_of_ne hbasic]
  rw [emit_of_sanitizeLogText _ _ (hplain credentialA),
    emit_of_sanitizeLogText _ _ (hplain credentialB)] at hsame
  revert hsame
  decide +kernel

def bearer : Run := ⟨text "bEaReR", by decide, List.all_iff_forall_prop.1 (by decide)⟩

theorem bearer_credential_hidden :
    emit plainLogger (text "info") (.string (text "Authorization: bEaReR a")) [] =
      emit plainLogger (text "info") (.string (text "Authorization: bEaReR b")) [] :=
  (redaction_noninterference bearer).2.2 (by decide) ℕ plainLogger (text "info") [] (.string _)
    (.string _) (.inr (.intro [] [] credentialA credentialB (.inl rfl)))

end StructuredLogger

end WebhostBilling
