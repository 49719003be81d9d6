import WebhostBilling.Currency.SelectionIntent

/-!
# Canonical intents in TypeScript and in SQL

The JSON array of the arguments of `currency_selection_intent_canonical` is the text that
`encodeCurrencySelectionIntent` writes for them, when it accepts them: every text in it is plain, so
nothing is escaped, and what SQL puts together is that text as well.
-/

namespace WebhostBilling

open Json

namespace Currency

/-! ## What TypeScript accepts -/

theorem readIntent_value (x : IntentTexts) : readIntent x.value = some x := by
  obtain ⟨_, _, _, _, _, _, expectedRevision, _, _⟩ := x
  cases expectedRevision with
  | none | some revision => simp [readIntent, IntentTexts.value, textOrNull]

theorem map_value {ν μ : Type} (f : ν → μ) (x : IntentTexts) : x.value.map f = x.value := by
  obtain ⟨_, _, _, _, _, _, expectedRevision, _, _⟩ := x
  cases expectedRevision <;> rfl

theorem parse_canonicalText (x : IntentTexts) :
    parse JsNumber.read x.canonicalText = some x.value := by
  rw [IntentTexts.canonicalText, parse_stringify JsNumber.read numberText_printNat, map_value]

variable {sha256 : Text → Text}

variable {t : Text} {result : CurrencySelectionIntent}

theorem encode_eq_some (h : encodeCurrencySelectionIntent sha256 t = some result) :
    ∃ x : IntentTexts, x.checked = true ∧ utf8Length x.canonicalText ≤ intentCanonicalBytes ∧
      result = ⟨x.canonicalText, sha256 x.canonicalText⟩ := by
  simp only [encodeCurrencySelectionIntent, Option.bind_eq_bind, Option.bind_eq_some_iff,
    Option.guard_eq_some', Option.pure_def, Option.some.injEq] at h
  obtain ⟨-, -, -, -, -, -, x, -, -, hchecked, -, hbytes, rfl⟩ := h
  exact ⟨x, hchecked, hbytes, rfl⟩

theorem encode_canonicalText (x : IntentTexts) (result : CurrencySelectionIntent) :
    encodeCurrencySelectionIntent sha256 x.canonicalText = some result ↔
      x.checked = true ∧ utf8Length x.canonicalText ≤ intentCanonicalBytes ∧
        result = ⟨x.canonicalText, sha256 x.canonicalText⟩ := by
  simp only [encodeCurrencySelectionIntent, Option.bind_eq_bind, parse_canonicalText,
    readIntent_value, Option.bind_some, Option.bind_eq_some_iff, Option.guard_eq_some',
    Option.pure_def, Option.some.injEq, exists_const]
  constructor
  · rintro ⟨-, -, hchecked, hbytes, rfl⟩
    exact ⟨hchecked, hbytes, rfl⟩
  · rintro ⟨hchecked, hbytes, rfl⟩
    -- the input budget is larger than that of the canonical text
    have hlength := length_le_utf8Length x.canonicalText
    have hbudget : intentCanonicalBytes ≤ intentInputBytes := by decide
    exact ⟨by omega, by omega, hchecked, hbytes, rfl⟩

theorem encode_encoded (h : encodeCurrencySelectionIntent sha256 t = some result) :
    encodeCurrencySelectionIntent sha256 result.canonicalText = some result := by
  obtain ⟨x, hchecked, hbytes, rfl⟩ := encode_eq_some h
  exact (encode_canonicalText x _).2 ⟨hchecked, hbytes, rfl⟩

/-! ## The conditions of SQL -/

variable {a : IntentArguments} {n : ℤ}

theorem isGeneration_printInt (hlow : -(2 ^ 63) ≤ n) (hhigh : n < 2 ^ 63) :
    isGeneration (printInt n) = true ↔ 0 ≤ n := by
  rw [isGeneration, decide_eq_true_eq, printInt]
  split
  · rename_i hneg
    refine ⟨fun h => absurd h.2.1.1 ?_, fun h => by omega⟩
    simp [show isDigit minus = false by decide]
  · rename_i hpos
    have hbound : n.natAbs ≤ generationMaximum := by
      rw [generationMaximum]
      omega
    refine ⟨fun _ => by omega, fun _ => ⟨?_, ⟨?_, isWhole_printNat _⟩, ?_⟩⟩
    · rw [printNat, List.length_map, generationDigits]
      refine (Nat.length_toDigits_le_iff (by decide) (by decide)).2 ?_
      rw [generationMaximum] at hbound
      omega
    · exact List.all_eq_true.2 fun c hc => isDigit_of_mem_printNat hc
    · rw [digitsValue_printNat]
      exact hbound

theorem printInt_inj {m : ℤ} (h : printInt m = printInt n) : m = n := by
  have hne : ∀ k l : ℕ, minus :: printNat k ≠ printNat l := by
    intro k l heq
    have hdigit := isDigit_of_mem_printNat (heq ▸ List.mem_cons_self : minus ∈ printNat l)
    exact absurd hdigit (by decide)
  rw [printInt, printInt] at h
  split at h <;> split at h
  · have := printNat_inj (List.cons.inj h).2
    omega
  · exact absurd h (hne _ _)
  · exact absurd h.symm (hne _ _)
  · have := printNat_inj h
    omega

theorem printInt_zero : printInt 0 = text "0" := by decide

theorem printInt_eq_zero_iff (n : ℤ) : printInt n = text "0" ↔ n = 0 :=
  ⟨fun h => printInt_inj (h.trans printInt_zero.symm), fun h => h ▸ printInt_zero⟩

theorem isUuid_server_iff (t : Text) : isUuid t serverUuid = true ↔ serverUuid t = true := by
  rw [isUuid, decide_eq_true_eq]
  exact and_iff_right_of_imp fun h => (serverUuid_units h).1

theorem isUuid_request_iff (t : Text) :
    isUuid t requestUuid = true ↔ utf8Length t = 36 ∧ requestUuid t = true := by
  rw [isUuid, decide_eq_true_eq]
  refine and_congr_left fun h => ?_
  obtain ⟨hlength, hunits⟩ := requestUuid_units h
  rw [utf8Length_of_plain fun c hc => isPlain_of_isVersionUnit (hunits c hc)]

theorem generation_eq_zero_iff (g : Int64) : g = 0 ↔ g.toInt = 0 := by
  rw [← Int64.toInt_inj, Int64.toInt_zero]

theorem generation_nonpos_iff (g : Int64) : g ≤ 0 ↔ g.toInt ≤ 0 := by
  rw [Int64.le_iff_toInt_le, Int64.toInt_zero]

def IntentArguments.admitted (a : IntentArguments) : Prop :=
  (∀ u ∈ [a.installationUuid, a.domainUuid, a.actorUuid, a.sessionUuid], serverUuid u.text = true) ∧
    utf8Length a.keyText = 36 ∧ requestUuid a.keyText = true ∧ isSqlVersion a.nextRevision = true ∧
    (∀ revision ∈ a.priorRevision, isSqlVersion revision = true) ∧ a.operationChecked = true

variable {c : Text} {b : IntentArguments}

theorem canonical_eq_some :
    currencySelectionIntentCanonical a = some c ↔
      a.admitted ∧ utf8Length a.result ≤ 1024 ∧ c = a.result := by
  simp only [currencySelectionIntentCanonical, IntentArguments.admitted, Option.bind_eq_bind,
    Option.bind_eq_some_iff, Option.guard_eq_some', Option.pure_def, Option.some.injEq,
    exists_const, and_assoc, eq_comm (a := c)]

theorem actionChecked_texts (a : IntentArguments) :
    (isGeneration (printInt a.generation.toInt) = true ∧ a.texts.actionChecked = true) ↔
      ((∀ revision ∈ a.priorRevision, isSqlVersion revision = true) ∧
        a.operationChecked = true) := by
  rw [isGeneration_printInt a.generation.le_toInt a.generation.toInt_lt,
    IntentTexts.actionChecked, IntentArguments.operationChecked]
  simp only [IntentArguments.texts, printInt_eq_zero_iff, generation_eq_zero_iff,
    generation_nonpos_iff, isSqlVersion_eq, ne_eq]
  cases a.priorRevision with
  | none =>
    split
    · simp only [Option.mem_def, reduceCtorEq, false_implies, implies_true, true_and,
        Option.isSome_none, Bool.false_eq_true, false_or, not_not, decide_eq_true_eq]
      omega
    · split <;> simp
  | some revision =>
    split
    · simp
    · split
      · simp only [Option.any_some, Option.mem_def, Option.some.injEq, forall_eq', reduceCtorEq,
          false_or, decide_eq_true_eq, not_or]
        constructor
        · rintro ⟨hlow, hversion, hne, hother⟩
          exact ⟨hversion, by omega, hother⟩
        · rintro ⟨hversion, hpos, hother⟩
          exact ⟨by omega, hversion, by omega, hother⟩
      · simp

theorem checked_texts (a : IntentArguments) : a.texts.checked = true ↔ a.admitted := by
  have haction := actionChecked_texts a
  rw [IntentTexts.checked, decide_eq_true_eq, IntentArguments.admitted]
  simp only [IntentArguments.texts, isUuid_server_iff, isUuid_request_iff, isSqlVersion_eq,
    List.forall_mem_cons, List.not_mem_nil, false_implies, implies_true, and_true] at haction ⊢
  tauto

/-! ## The canonical text -/

theorem isPlain_of_operationChecked (h : a.operationChecked = true) :
    ∀ c ∈ a.operation, isPlain c = true := by
  rw [IntentArguments.operationChecked] at h
  split at h
  · rename_i hoperation
    rcases hoperation with hoperation | hoperation <;>
    · rw [hoperation]
      exact List.all_eq_true.1 (by decide)
  · split at h
    · rename_i hoperation
      rw [hoperation]
      exact List.all_eq_true.1 (by decide)
    · cases h

theorem isVersionUnit_of_mem_printInt {c : CodeUnit} (h : c ∈ printInt n) :
    isVersionUnit c = true := by
  have hdigits : ∀ c ∈ printNat n.natAbs, isVersionUnit c = true := fun c hc =>
    isVersionUnit_of_isHex (by rw [isHex, isLowerHex, isDigit_of_mem_printNat hc]; rfl)
  rw [printInt] at h
  split at h
  · rcases List.mem_cons.1 h with rfl | hc
    · decide
    · exact hdigits c hc
  · exact hdigits c h

theorem result_eq (h : a.admitted) : a.result = a.texts.canonicalText := by
  obtain ⟨huuids, -, hkey, hnext, hprior, hoperation⟩ := h
  have quote_uuid : ∀ u ∈ [a.installationUuid, a.domainUuid, a.actorUuid, a.sessionUuid],
      quote u.text = quotationMark :: (u.text ++ [quotationMark]) := fun u hu =>
    quote_of_plain fun c hc => isPlain_of_isVersionUnit ((serverUuid_units (huuids u hu)).2 c hc)
  have quote_version : ∀ t, isSqlVersion t = true →
      quote t = quotationMark :: (t ++ [quotationMark]) := by
    intro t ht
    rw [isSqlVersion_eq, isVersion, decide_eq_true_eq] at ht
    exact quote_of_plain (isPlain_of_matchesVersion ht.2.2)
  have quote_key : quote a.keyText = quotationMark :: (a.keyText ++ [quotationMark]) :=
    quote_of_plain fun c hc => isPlain_of_isVersionUnit ((requestUuid_units hkey).2 c hc)
  have quote_tag : quote intentTag = quotationMark :: (intentTag ++ [quotationMark]) :=
    quote_of_plain (List.all_eq_true.1 (by decide))
  have quote_generation : quote (printInt a.generation.toInt) =
      quotationMark :: (printInt a.generation.toInt ++ [quotationMark]) :=
    quote_of_plain fun c hc => isPlain_of_isVersionUnit (isVersionUnit_of_mem_printInt hc)
  have quote_operation := quote_of_plain (isPlain_of_operationChecked hoperation)
  have hopen : text "[\"currency-selection-request-v1\",[\"" =
      leftBracket :: quotationMark ::
        (intentTag ++ [quotationMark, comma, leftBracket, quotationMark]) := by decide
  have hbetween : text "\",\"" = [quotationMark, comma, quotationMark] := by decide
  have hclose : text "\"],\"" = [quotationMark, rightBracket, comma, quotationMark] := by decide
  have hbefore : text "\"," = [quotationMark, comma] := by decide
  have hafter : text ",\"" = [comma, quotationMark] := by decide
  have hend : text "\"]" = [quotationMark, rightBracket] := by decide
  have hquote : text "\"" = [quotationMark] := by decide
  simp only [List.forall_mem_cons] at quote_uuid
  obtain ⟨hinstallation, hdomain, hactor, hsession, -⟩ := quote_uuid
  rw [IntentArguments.result, IntentTexts.canonicalText, IntentTexts.value, hopen, hbetween,
    hclose, hbefore, hafter, hend, hquote]
  simp only [IntentArguments.texts, stringify, stringifyItems, quote_tag, quote_key,
    quote_generation, quote_operation, quote_version _ hnext, hinstallation, hdomain, hactor,
    hsession]
  cases hcase : a.priorRevision with
  | none => simp [textOrNull, stringify]
  | some revision => simp [textOrNull, stringify, quote_version revision (hprior revision hcase)]

/-! ## Equal texts -/

theorem hexUnit_inj {d e : Fin 16} (h : hexUnit d.val = hexUnit e.val) : d = e := by
  revert d e
  decide

theorem hexUnit_ne_minus (d : Fin 16) : hexUnit d.val ≠ minus := by
  revert d
  decide

/-- The digits of a `uuid` are what is left of its text without the dashes. -/
theorem filter_text (u : Uuid) :
    u.text.filter (· ≠ minus) = u.digits.map fun d => hexUnit d.val := by
  have hdash : ∀ c ∈ u.digits.map fun d => hexUnit d.val, c ≠ minus := by
    intro c hc
    obtain ⟨d, -, rfl⟩ := List.mem_map.1 hc
    exact hexUnit_ne_minus d
  rw [Uuid.text]
  generalize (u.digits.map fun d => hexUnit d.val) = ds at hdash
  have hkeep : ∀ cs : Text, cs ⊆ ds → cs.filter (· ≠ minus) = cs := fun cs hcs =>
    List.filter_eq_self.2 fun c hc => decide_eq_true (hdash c (hcs hc))
  have hpiece : ∀ m n : ℕ, (ds.drop m).take n ⊆ ds := fun m n =>
    List.Subset.trans (List.take_subset _ _) (List.drop_subset _ _)
  have hgroup : ∀ m : ℕ, (ds.drop m).take 4 ++ ds.drop (m + 4) = ds.drop m := fun m => by
    rw [← List.drop_drop, List.take_append_drop]
  simp only [List.filter_append, List.filter_cons_of_neg, ne_eq, not_true_eq_false, decide_false,
    Bool.false_eq_true, not_false_eq_true]
  rw [hkeep _ (List.take_subset _ _), hkeep _ (hpiece _ _), hkeep _ (hpiece _ _),
    hkeep _ (hpiece _ _), hkeep _ (List.drop_subset _ _), hgroup, hgroup, hgroup,
    List.take_append_drop]

theorem Uuid.text_inj {u v : Uuid} (h : u.text = v.text) : u = v := by
  obtain ⟨ds, hds⟩ := u
  obtain ⟨es, hes⟩ := v
  have hdigits : ds.map _ = es.map _ :=
    (filter_text ⟨ds, hds⟩).symm.trans ((congrArg _ h).trans (filter_text ⟨es, hes⟩))
  have hinj : Function.Injective fun d : Fin 16 => hexUnit d.val := fun _ _ => hexUnit_inj
  cases hinj.list_map hdigits
  rfl

theorem canonicalText_inj {x y : IntentTexts} (h : x.canonicalText = y.canonicalText) : x = y := by
  have hparse := parse_canonicalText x
  rw [h, parse_canonicalText, Option.some.injEq] at hparse
  have hread := readIntent_value x
  rw [← hparse, readIntent_value, Option.some.injEq] at hread
  exact hread.symm

theorem texts_inj (h : a.texts = b.texts) : a = b := by
  obtain ⟨a₁, a₂, a₃, a₄, a₅, a₆, a₇, a₈, a₉⟩ := a
  obtain ⟨b₁, b₂, b₃, b₄, b₅, b₆, b₇, b₈, b₉⟩ := b
  simp only [IntentArguments.texts, IntentTexts.mk.injEq] at h
  obtain ⟨h₁, h₂, h₆, h₃, h₄, h₅, h₇, h₈, h₉⟩ := h
  rw [Uuid.text_inj h₁, Uuid.text_inj h₂, Uuid.text_inj h₃, Uuid.text_inj h₄, h₅, h₆, h₇,
    Int64.toInt_inj.1 (printInt_inj h₈), h₉]

theorem canonical_inj (ha : currencySelectionIntentCanonical a = some c)
    (hb : currencySelectionIntentCanonical b = some c) : a = b := by
  obtain ⟨hadmitted, -, rfl⟩ := canonical_eq_some.1 ha
  obtain ⟨hadmitted', -, hresult⟩ := canonical_eq_some.1 hb
  rw [result_eq hadmitted, result_eq hadmitted'] at hresult
  exact texts_inj (canonicalText_inj hresult)

/-- **TypeScript encodes the JSON array of the arguments to the text of SQL.** -/
theorem encode_texts (sha256 : Text → Text) (a : IntentArguments) :
    (encodeCurrencySelectionIntent sha256 a.texts.canonicalText).map
      CurrencySelectionIntent.canonicalText = currencySelectionIntentCanonical a := by
  refine Option.ext fun c => ?_
  simp only [Option.map_eq_some_iff, canonical_eq_some, encode_canonicalText, checked_texts]
  constructor
  · rintro ⟨_, ⟨hadmitted, hbytes, rfl⟩, rfl⟩
    rw [result_eq hadmitted]
    exact ⟨hadmitted, hbytes, rfl⟩
  · rintro ⟨hadmitted, hbytes, rfl⟩
    rw [result_eq hadmitted] at hbytes ⊢
    exact ⟨_, ⟨hadmitted, hbytes, rfl⟩, rfl⟩

/-- **The canonical intents of TypeScript and of SQL agree.**  For all arguments, TypeScript accepts
their JSON array when SQL gives a text, and with that text; a canonical text is encoded to itself;
and accepted arguments with one canonical text are the same. -/
theorem canonical_intents_agree (sha256 : Text → Text) :
    (∀ a : IntentArguments,
      (encodeCurrencySelectionIntent sha256 a.texts.canonicalText).map
        CurrencySelectionIntent.canonicalText = currencySelectionIntentCanonical a) ∧
      (∀ t result, encodeCurrencySelectionIntent sha256 t = some result →
        encodeCurrencySelectionIntent sha256 result.canonicalText = some result) ∧
      ∀ a b c, currencySelectionIntentCanonical a = some c →
        currencySelectionIntentCanonical b = some c → a = b :=
  ⟨encode_texts sha256, fun _ _ => encode_encoded, fun _ _ _ => canonical_inj⟩

def someUuid : Uuid := ⟨List.replicate 32 0, rfl⟩

example : (currencySelectionIntentCanonical ⟨someUuid, someUuid, someUuid, someUuid, maxUuid,
    text "initialize", none, 0, text "v1"⟩).isSome = true := by decide +kernel

end Currency

end WebhostBilling
