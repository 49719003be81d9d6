import WebhostBilling.Currency.CanonicalPolicies

/-!
# Canonical contexts

The text that `encodeCurrencyPolicyContext` writes is accepted again as it is, states the same
policy and definitions, and is the same for every order they were submitted in.
-/

namespace WebhostBilling

open Json Store

namespace Currency

/-! ## The order of the definitions -/

theorem definitionLe_iff (left right : CurrencyUnitDefinition) :
    (if left.code = right.code then asciiLe left.metadataVersion right.metadataVersion
      else asciiLe left.code right.code) = true ↔
      left.code ≤ right.code ∧
        (left.code = right.code → left.metadataVersion ≤ right.metadataVersion) := by
  by_cases h : left.code = right.code
  · rw [if_pos h, asciiLe_iff]
    exact ⟨fun hle => ⟨h ▸ List.le_refl _, fun _ => hle⟩, fun hle => hle.2 h⟩
  · rw [if_neg h, asciiLe_iff]
    exact ⟨fun hle => ⟨hle, fun heq => absurd heq h⟩, And.left⟩

theorem sortDefinitions_perm (definitions : List CurrencyUnitDefinition) :
    (sortDefinitions definitions).Perm definitions :=
  List.mergeSort_perm _ _

theorem pairwise_sortDefinitions (definitions : List CurrencyUnitDefinition) :
    (sortDefinitions definitions).Pairwise fun left right =>
      (if left.code = right.code then asciiLe left.metadataVersion right.metadataVersion
        else asciiLe left.code right.code) = true := by
  refine List.pairwise_mergeSort (fun a b c hab hbc => ?_) (fun a b => ?_) definitions
  · rw [definitionLe_iff] at hab hbc ⊢
    refine ⟨List.le_trans hab.1 hbc.1, fun h => ?_⟩
    -- between two equal codes there is no other
    have hb : a.code = b.code := List.le_antisymm hab.1 (h ▸ hbc.1)
    exact List.le_trans (hab.2 hb) (hbc.2 (hb.symm.trans h))
  · rw [Bool.or_eq_true, definitionLe_iff, definitionLe_iff]
    by_cases h : a.code = b.code
    · rcases List.le_total a.metadataVersion b.metadataVersion with hle | hle
      · exact .inl ⟨h ▸ List.le_refl _, fun _ => hle⟩
      · exact .inr ⟨h ▸ List.le_refl _, fun _ => hle⟩
    · rcases List.le_total a.code b.code with hle | hle
      · exact .inl ⟨hle, fun heq => absurd heq h⟩
      · exact .inr ⟨hle, fun heq => absurd heq.symm h⟩

theorem sortDefinitions_eq_of_perm {definitions definitions' : List CurrencyUnitDefinition}
    (hds : Definitions definitions) (h : definitions.Perm definitions') :
    sortDefinitions definitions = sortDefinitions definitions' := by
  have hperm := (sortDefinitions_perm definitions).trans
    (h.trans (sortDefinitions_perm definitions').symm)
  refine List.Perm.eq_of_pairwise ?_ (pairwise_sortDefinitions definitions)
    (pairwise_sortDefinitions definitions') hperm
  intro a b ha hb hab hba
  rw [definitionLe_iff] at hab hba
  have hcode := List.le_antisymm hab.1 hba.1
  have hversion := List.le_antisymm (hab.2 hcode) (hba.2 hcode.symm)
  refine List.inj_on_of_nodup_map hds.distinct ((sortDefinitions_perm _).mem_iff.1 ha)
    (h.mem_iff.2 ((sortDefinitions_perm _).mem_iff.1 hb)) ?_
  rw [CurrencyUnitDefinition.reference, CurrencyUnitDefinition.reference, hcode, hversion]

/-! ## What a text states -/

variable {v : Value JsNumber} {t u : Text} {c c' : CurrencyPolicyContext}

theorem eq_tuple_of_copyReference {r : CurrencyPolicyUnitReference}
    (h : copyReference v = some r) : v = r.tuple := by
  rw [copyReference.eq_def] at h
  split at h
  · rw [Option.ite_none_right_eq_some, Option.some.injEq] at h
    rw [← h.2]
    rfl
  · cases h

theorem eq_tuple_of_copySecondary {secondary : Option CurrencyPolicyUnitReference}
    (h : copySecondary v = some secondary) : v = secondaryTuple secondary := by
  rw [copySecondary.eq_def] at h
  split at h
  · cases h
    rfl
  · obtain ⟨r, hr, rfl⟩ := Option.map_eq_some_iff.1 h
    exact eq_tuple_of_copyReference hr

theorem eq_tuple_of_copyCapability {e : CurrencyPolicyEntry} (h : copyCapability v = some e) :
    v = e.tuple := by
  rw [copyCapability.eq_def] at h
  split at h
  · rw [Option.ite_none_right_eq_some, Option.some.injEq] at h
    rw [← h.2]
    rfl
  · cases h

theorem UnitStatus.eq_text {s : UnitStatus} (h : UnitStatus.ofText? t = some s) : t = s.text := by
  rw [ofText?] at h
  split at h
  · cases h
    assumption
  · split at h
    · cases h
      assumption
    · cases h

theorem eq_facts_of_read {facts : UnitFacts} {d : CurrencyUnitDefinition}
    (h : schemaPatterns.read facts = some d) : facts = d.facts := by
  obtain ⟨-, hexponent, -, hstatus, href, hprovenance⟩ := schema_read_eq_some.1 h
  obtain ⟨hcode, hversion⟩ := CurrencyPolicyUnitReference.mk.inj href
  rw [CurrencyUnitDefinition.facts, hcode, hversion, hprovenance, ← UnitStatus.eq_text hstatus,
    ← (readExponent_eq_some.1 hexponent).1]

theorem eq_tuple_of_copyDefinition {d : CurrencyUnitDefinition} (h : copyDefinition v = some d) :
    v = d.facts.tuple := by
  rw [copyDefinition.eq_def] at h
  split at h
  · rw [encoder_read] at h
    rw [← eq_facts_of_read h]
    rfl
  · cases h

/-- The tuple of a context, as a text spells it. -/
def CurrencyPolicyContext.tuple (c : CurrencyPolicyContext) : Value JsNumber :=
  contextTuple c.policy (c.definitions.map CurrencyUnitDefinition.facts)

/-- **An accepted value is the tuple of what it states.** -/
theorem eq_contextTuple (h : copyContext v = some c) : v = c.tuple := by
  rw [copyContext.eq_def] at h
  split at h
  · simp only [eq_some] at h
    obtain ⟨-, -, -, r, hbase, s, hbrowsing, o, hsecondary, -, es, hentries, ds, hunits, -, -, -, -,
      rfl⟩ := h
    have hentries := map_eq_of_mapM (f := id) (fun _ _ h => (eq_tuple_of_copyCapability h).symm)
      (readDistinct_eq_some.1 hentries).1
    have hunits := map_eq_of_mapM (f := id) (fun _ _ h => (eq_tuple_of_copyDefinition h).symm)
      (readDistinct_eq_some.1 hunits).1
    rw [List.map_id] at hentries hunits
    rw [eq_tuple_of_copyReference hbase, eq_tuple_of_copyReference hbrowsing,
      eq_tuple_of_copySecondary hsecondary, ← hentries, ← hunits, CurrencyPolicyContext.tuple,
      contextTuple, List.map_map]
    rfl
  · cases h

theorem facts_injective : Function.Injective CurrencyUnitDefinition.facts := by
  rintro ⟨_, _, _, _, status⟩ ⟨_, _, _, _, status'⟩ h
  simp only [CurrencyUnitDefinition.facts, UnitFacts.mk.injEq, JsNumber.finite.injEq,
    Nat.cast_inj] at h
  obtain ⟨rfl, rfl, rfl, rfl, hstatus⟩ := h
  have hread := status.ofText?_text
  rw [hstatus, UnitStatus.ofText?_text, Option.some.injEq] at hread
  rw [hread]

theorem tuple_stated (h : copyContext c.tuple = some c') : c = c' := by
  rw [CurrencyPolicyContext.tuple, copyContext_eq_some] at h
  obtain ⟨hpolicy, -, hread, -⟩ := h
  have hdefinitions := map_eq_of_mapM (f := id) (fun _ _ h => (eq_facts_of_read h).symm) hread
  rw [List.map_id] at hdefinitions
  rw [CurrencyPolicyContext.mk.injEq, facts_injective.list_map hdefinitions, hpolicy]
  exact ⟨rfl, rfl⟩

/-! ## The canonical text -/

def CurrencyPolicyContext.sorted (c : CurrencyPolicyContext) : CurrencyPolicyContext :=
  ⟨c.policy.sorted, sortDefinitions c.definitions⟩

/-- The context that a text states. -/
def contextOf (t : Text) : Option CurrencyPolicyContext :=
  (parse JsNumber.read t).bind copyContext

/-- The same policy and definitions, whose lists may be in other orders. -/
structure CurrencyPolicyContext.Same (c c' : CurrencyPolicyContext) : Prop where
  policy : c'.policy = { c.policy with currencies := c'.policy.currencies }
  currencies : c.policy.currencies.Perm c'.policy.currencies
  definitions : c.definitions.Perm c'.definitions

theorem same_sorted (c : CurrencyPolicyContext) : c.Same c.sorted :=
  ⟨rfl, (sortCapabilities_perm _).symm, (sortDefinitions_perm _).symm⟩

theorem sorted_eq_iff (hc : c.policy.WellFormed) (hds : Definitions c.definitions) :
    c'.sorted = c.sorted ↔ c.Same c' := by
  constructor
  · intro h
    obtain ⟨hpolicy, hdefinitions⟩ := CurrencyPolicyContext.mk.inj h
    have hcurrencies : sortCapabilities c'.policy.currencies = sortCapabilities c.policy.currencies :=
      congrArg CurrencyPolicy.currencies hpolicy
    refine ⟨?_, ?_, ?_⟩
    · exact congrArg (fun p : CurrencyPolicy => { p with currencies := c'.policy.currencies }) hpolicy
    · exact (sortCapabilities_perm _).symm.trans (hcurrencies ▸ sortCapabilities_perm _)
    · exact (sortDefinitions_perm _).symm.trans (hdefinitions ▸ sortDefinitions_perm _)
  · rintro ⟨hpolicy, hcurrencies, hdefinitions⟩
    rw [CurrencyPolicyContext.sorted, CurrencyPolicyContext.sorted,
      sortDefinitions_eq_of_perm hds hdefinitions, CurrencyPolicy.sorted, CurrencyPolicy.sorted,
      sortCapabilities_eq_of_perm hc.codes hcurrencies, hpolicy]

theorem canonicalText_of_sorted (h : c.sorted = c'.sorted) :
    c.canonicalText = c'.canonicalText := by
  obtain ⟨hpolicy, hdefinitions⟩ := CurrencyPolicyContext.mk.inj h
  rw [CurrencyPolicy.sorted] at hpolicy
  rw [CurrencyPolicyContext.canonicalText, hpolicy, hdefinitions]
  rfl

variable {p : CurrencyPolicy} {entries : List CurrencyPolicyEntry}

theorem CurrencyPolicy.Fits.of_perm
    {unitOf : CurrencyPolicyUnitReference → Option CurrencyUnitDefinition} (hfits : p.Fits unitOf)
    (h : p.currencies.Perm entries) : { p with currencies := entries }.Fits unitOf where
  entries e he := hfits.entries e (h.mem_iff.2 he)
  base := hfits.base.imp fun _ he => he.imp_left h.mem_iff.1
  browsing r hr := (hfits.browsing r hr).imp fun _ he => he.imp_left h.mem_iff.1

theorem findUnit_of_perm {definitions definitions' : List CurrencyUnitDefinition}
    (hds : Definitions definitions) (hds' : Definitions definitions')
    (h : definitions.Perm definitions') : findUnit definitions = findUnit definitions' := by
  funext r
  refine Option.ext fun d => ?_
  rw [hds.findUnit_eq_some, hds'.findUnit_eq_some, h.mem_iff]

/-- **A context is accepted in every order.** -/
theorem CurrencyPolicyContext.Same.accepted (hsame : c.Same c')
    (h : copyContext v = some c) : copyContext c'.tuple = some c' := by
  rw [eq_contextTuple h, CurrencyPolicyContext.tuple, copyContext_eq_some] at h
  obtain ⟨-, hp, hread, hds, hlength, hfits⟩ := h
  obtain ⟨hpolicy, hcurrencies, hperm⟩ := hsame
  have hds' : Definitions c'.definitions :=
    ⟨fun d hd => hds.wellFormed d (hperm.mem_iff.2 hd), (hperm.map _).nodup_iff.1 hds.distinct⟩
  refine copyContext_eq_some.2 ⟨rfl, hpolicy ▸ hp.of_perm hcurrencies, ?_, hds', ?_, ?_⟩
  · rw [mapM_eq_some, List.forall₂_map_left_iff, List.forall₂_same]
    intro d hd
    obtain ⟨facts, -, hfacts⟩ := exists_of_mapM hread (hperm.mem_iff.2 hd)
    exact read_facts hfacts
  · rw [← hperm.length_eq, hlength, hcurrencies.length_eq]
  · rw [← findUnit_of_perm hds hds' hperm, hpolicy]
    exact hfits.of_perm hcurrencies

theorem mapItems_map {α ν μ : Type} {f : ν → μ} {write : α → Value ν} {write' : α → Value μ}
    {xs : List α} (h : ∀ x ∈ xs, (write x).map f = write' x) :
    Value.mapItems f (xs.map write) = xs.map write' := by
  induction xs with
  | nil => rfl
  | cons x xs ih =>
    rw [List.forall_mem_cons] at h
    rw [List.map_cons, List.map_cons, Value.mapItems, h.1, ih h.2]

theorem CurrencyPolicy.tuple_map {ν μ : Type} (f : ν → μ) (p : CurrencyPolicy) :
    (p.tuple : Value ν).map f = p.tuple := by
  have hsecondary : (secondaryTuple p.preferredSecondary : Value ν).map f =
      secondaryTuple p.preferredSecondary := by
    cases p.preferredSecondary <;> rfl
  simp only [tuple, Value.map, Value.mapItems, hsecondary,
    mapItems_map fun (e : CurrencyPolicyEntry) _ => (rfl : (e.tuple : Value ν).map f = e.tuple)]
  rfl

theorem read_exponent {e : ℕ} (h : e ≤ exponentLimit) :
    JsNumber.read (printNat e) = .finite e := by
  rw [exponentLimit] at h
  interval_cases e <;> decide +kernel

theorem CurrencyUnitDefinition.tuple_map {d : CurrencyUnitDefinition}
    (h : d.minorUnitExponent ≤ exponentLimit) :
    d.tuple.map (fun n => JsNumber.read (printNat n)) = d.facts.tuple := by
  simp only [tuple, Value.map, Value.mapItems, read_exponent h]
  rfl

theorem parse_canonicalContext (h : copyContext v = some c) :
    parse JsNumber.read c.canonicalText = some c.sorted.tuple := by
  rw [eq_contextTuple h, CurrencyPolicyContext.tuple, copyContext_eq_some] at h
  obtain ⟨-, -, hread, -⟩ := h
  have hdefinitions : Value.mapItems (fun n => JsNumber.read (printNat n))
      ((sortDefinitions c.definitions).map CurrencyUnitDefinition.tuple) =
      (sortDefinitions c.definitions).map fun d => d.facts.tuple := by
    refine mapItems_map fun d hd => ?_
    obtain ⟨facts, -, hfacts⟩ := exists_of_mapM hread ((sortDefinitions_perm _).mem_iff.1 hd)
    have hexponent := (schema_read_eq_some.1 hfacts).2.1
    exact CurrencyUnitDefinition.tuple_map (readExponent_eq_some.1 hexponent).2
  rw [CurrencyPolicyContext.canonicalText, parse_stringify JsNumber.read numberText_printNat]
  simp only [Value.map, Value.mapItems, CurrencyPolicy.tuple_map, hdefinitions]
  rw [CurrencyPolicyContext.tuple, contextTuple, List.map_map]
  rfl

theorem encodeContext_eq_some : encodeCurrencyPolicyContext t = some u ↔
    t.length ≤ contextInputBytes ∧ utf8Length t ≤ contextInputBytes ∧ ∃ c, contextOf t = some c ∧
      utf8Length c.canonicalText ≤ contextCanonicalBytes ∧ c.canonicalText = u := by
  simp only [encodeCurrencyPolicyContext, contextOf, eq_some]
  constructor
  · rintro ⟨hlength, hbytes, v, hv, c, hc, hcanonical, rfl⟩
    exact ⟨hlength, hbytes, c, ⟨v, hv, hc⟩, hcanonical, rfl⟩
  · rintro ⟨hlength, hbytes, c, ⟨v, hv, hc⟩, hcanonical, rfl⟩
    exact ⟨hlength, hbytes, v, hv, c, hc, hcanonical, rfl⟩

theorem contextOf_canonicalText (h : contextOf t = some c) :
    contextOf c.canonicalText = some c.sorted := by
  obtain ⟨v, -, hv⟩ := Option.bind_eq_some_iff.1 h
  rw [contextOf, parse_canonicalContext hv, Option.bind_some, (same_sorted c).accepted hv]

/-- **Canonical texts.**  What the encoder writes for a text it writes again for that text itself,
which states the same policy and definitions.  It writes it for another text of tuples exactly when
that one states them too, in whatever order. -/
theorem context_text_canonical (h : encodeCurrencyPolicyContext t = some u) :
    encodeCurrencyPolicyContext u = some u ∧
      ∃ c, contextOf t = some c ∧ contextOf u = some c.sorted ∧ c.Same c.sorted ∧
        ∀ t' c', t'.length ≤ contextInputBytes → utf8Length t' ≤ contextInputBytes →
          parse JsNumber.read t' = some c'.tuple →
            (encodeCurrencyPolicyContext t' = some u ↔ c.Same c') := by
  obtain ⟨-, -, c, hc, hcanonical, rfl⟩ := encodeContext_eq_some.1 h
  obtain ⟨v, -, hv⟩ := Option.bind_eq_some_iff.1 hc
  have hsound := hv
  rw [eq_contextTuple hv, CurrencyPolicyContext.tuple, copyContext_eq_some] at hsound
  obtain ⟨-, hp, -, hds, -⟩ := hsound
  have hagain := contextOf_canonicalText hc
  have htext : c.sorted.canonicalText = c.canonicalText :=
    canonicalText_of_sorted ((sorted_eq_iff hp hds).2 (same_sorted c))
  -- the input budget is larger than that of the canonical text
  have hlength := length_le_utf8Length c.canonicalText
  have hbudget : contextCanonicalBytes ≤ contextInputBytes := by decide
  refine ⟨encodeContext_eq_some.2 ⟨by omega, by omega, c.sorted, hagain, htext ▸ hcanonical, htext⟩,
    c, hc, hagain, same_sorted c, fun t' c' hunits hbytes hparse => ?_⟩
  constructor
  · intro h'
    obtain ⟨-, -, d, hd, -, heq⟩ := encodeContext_eq_some.1 h'
    have hagain' := contextOf_canonicalText hd
    rw [heq, hagain, Option.some.injEq] at hagain'
    rw [contextOf, hparse, Option.bind_some] at hd
    exact (sorted_eq_iff hp hds).1 (tuple_stated hd ▸ hagain'.symm)
  · intro hsame
    have heq := canonicalText_of_sorted ((sorted_eq_iff hp hds).2 hsame)
    refine encodeContext_eq_some.2 ⟨hunits, hbytes, c', ?_, heq ▸ hcanonical, heq⟩
    rw [contextOf, hparse, Option.bind_some, hsame.accepted hv]

/-- A text with blanks, whose exponents are decimal fractions, and whose currencies and definitions
come in different orders. -/
def spacedContext : Text :=
  text "[[\"r1\",[\"BDT\",\"v2\"],[\"USD\",\"v1\"],null, [[\"USD\",\"v1\",true,true,true]," ++
  text "[\"BDT\",\"v2\",true,true,false]]], [[\"BDT\",\"v2\",2.0,\"iso\",\"current\"]," ++
  text "[\"USD\",\"v1\", 2.0 ,\"iso\",\"current\"]]]"

theorem spacedContext_canonical :
    ∃ u, encodeCurrencyPolicyContext spacedContext = some u ∧ spacedContext ≠ u ∧
      encodeCurrencyPolicyContext u = some u := by
  have hstated : (contextOf spacedContext).any (fun c => c.IsPair ∧
      utf8Length c.pairText ≤ contextCanonicalBytes ∧ spacedContext ≠ c.pairText) = true := by
    decide +kernel
  obtain ⟨c, hc, hpair⟩ := (Option.any_eq_true _ _).1 hstated
  obtain ⟨hpair, hbytes, hne⟩ := of_decide_eq_true hpair
  rw [← hpair.canonicalText] at hbytes hne
  have hu : encodeCurrencyPolicyContext spacedContext = some c.canonicalText :=
    encodeContext_eq_some.2 ⟨by decide +kernel, by decide +kernel, c, hc, hbytes, rfl⟩
  exact ⟨_, hu, hne, (context_text_canonical hu).1⟩

end Currency

end WebhostBilling
