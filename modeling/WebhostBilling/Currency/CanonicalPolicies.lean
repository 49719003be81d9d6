import WebhostBilling.Currency.CurrencyStore
import WebhostBilling.Currency.PolicyValidators

/-!
# Canonical policies and exact units

What `canonicalPolicy`, `readExactCurrencyUnits` and `context` return, apart from who calls them:
the policy with its entries in the order of their codes, and for every entry the definition of its
unit.
-/

namespace WebhostBilling

open Json Store

namespace Currency

/-! ## The order of the entries -/

theorem asciiLe_iff (left right : Text) : asciiLe left right = true ↔ left ≤ right := by
  rw [asciiLe, decide_eq_true_eq, List.not_lt]

theorem sortCapabilities_perm (entries : List CurrencyPolicyEntry) :
    (sortCapabilities entries).Perm entries :=
  List.mergeSort_perm _ _

theorem pairwise_sortCapabilities (entries : List CurrencyPolicyEntry) :
    (sortCapabilities entries).Pairwise fun left right =>
      asciiLe left.unit.code right.unit.code = true := by
  refine List.pairwise_mergeSort (fun a b c hab hbc => ?_) (fun a b => ?_) entries
  · rw [asciiLe_iff] at hab hbc ⊢
    exact List.le_trans hab hbc
  · rw [Bool.or_eq_true, asciiLe_iff, asciiLe_iff]
    exact List.le_total _ _

theorem sortCapabilities_eq_of_perm {entries entries' : List CurrencyPolicyEntry}
    (hcodes : (entries.map (·.unit.code)).Nodup) (h : entries.Perm entries') :
    sortCapabilities entries = sortCapabilities entries' := by
  have hperm : (sortCapabilities entries).Perm (sortCapabilities entries') :=
    (sortCapabilities_perm entries).trans (h.trans (sortCapabilities_perm entries').symm)
  refine List.Perm.eq_of_pairwise ?_ (pairwise_sortCapabilities entries)
    (pairwise_sortCapabilities entries') hperm
  intro a b ha hb hab hba
  rw [asciiLe_iff] at hab hba
  exact List.inj_on_of_nodup_map hcodes ((sortCapabilities_perm entries).mem_iff.1 ha)
    (h.mem_iff.2 ((sortCapabilities_perm entries').mem_iff.1 hb)) (List.le_antisymm hab hba)

variable {p : CurrencyPolicy} {v : Value JsNumber}

theorem CurrencyPolicy.sorted_sorted (p : CurrencyPolicy) : p.sorted.sorted = p.sorted := by
  rw [sorted, show sortCapabilities p.sorted.currencies = p.sorted.currencies from
    List.mergeSort_of_pairwise (pairwise_sortCapabilities p.currencies)]

theorem CurrencyPolicy.WellFormed.of_perm {entries : List CurrencyPolicyEntry} (hp : p.WellFormed)
    (h : p.currencies.Perm entries) : { p with currencies := entries }.WellFormed where
  revision := hp.revision
  references r hr := by
    refine hp.references r (mem_references.2 ((mem_references.1 hr).imp_right fun h' =>
      h'.imp_right (Exists.imp fun _ => And.imp_left h.mem_iff.2)))
  nonempty := h.length_eq ▸ hp.nonempty
  bounded := h.length_eq ▸ hp.bounded
  codes := ((h.map _).nodup_iff).1 hp.codes
  secondary := hp.secondary

theorem CurrencyPolicy.WellFormed.sorted (hp : p.WellFormed) :
    p.sorted.WellFormed :=
  hp.of_perm (sortCapabilities_perm _).symm

/-! ## Canonical policies -/

theorem canonicalPolicy_eq_ok :
    canonicalPolicy v = .ok p ↔ ∃ q, currencyPolicySchema v = some q ∧ p = q.sorted := by
  simp only [canonicalPolicy, parseRevision, bind_eq_ok, orThrow_eq_ok, require_eq_ok, pure_eq_ok]
  constructor
  · rintro ⟨q, hq, -, -, -, -, rfl⟩
    exact ⟨q, hq, rfl⟩
  · rintro ⟨q, hq, rfl⟩
    have hwell := (currencyPolicySchema_eq_some.1 hq).2
    have hversion : ∀ t, isVersion t = true → t.all isVersionUnit = true := by
      intro t ht
      rw [isVersion, decide_eq_true_eq] at ht
      exact List.all_eq_true.2 (isVersionUnit_of_matchesVersion ht.2.2)
    refine ⟨q, hq, _, ⟨(), (boundedVersion_iff _).2 hwell.revision, (), hversion _ hwell.revision,
      rfl⟩, (), fun r hr => ?_, rfl⟩
    have hr := hwell.references r hr
    exact ⟨List.all_eq_true.2 (isUpper_of_matchesCode hr.1), hversion _ hr.2⟩

theorem canonicalPolicy_wellFormed
    (h : canonicalPolicy v = .ok p) : p.WellFormed ∧ p.sorted = p := by
  obtain ⟨q, hq, rfl⟩ := canonicalPolicy_eq_ok.1 h
  exact ⟨(currencyPolicySchema_eq_some.1 hq).2.sorted, q.sorted_sorted⟩

theorem canonicalPolicy_toValue (hp : p.WellFormed) (hsorted : p.sorted = p) :
    canonicalPolicy p.toValue = .ok p :=
  canonicalPolicy_eq_ok.2 ⟨p, currencyPolicySchema_toValue.2 ⟨hp, rfl⟩, hsorted.symm⟩

variable {q : CurrencyPolicy} {units : List CurrencyUnitDefinition}

/-- **The order of the submitted entries does not matter.** -/
theorem canonicalPolicy_of_perm {w : Value JsNumber} (hv : currencyPolicySchema v = some p)
    (hw : currencyPolicySchema w = some q) (hsame : { p with currencies := q.currencies } = q)
    (hperm : p.currencies.Perm q.currencies) :
    canonicalPolicy v = canonicalPolicy w := by
  have hentries := sortCapabilities_eq_of_perm (currencyPolicySchema_eq_some.1 hv).2.codes hperm
  have hsorted : p.sorted = q.sorted := by
    rw [← hsame]
    simp only [CurrencyPolicy.sorted, hentries]
  rw [canonicalPolicy_eq_ok.2 ⟨p, hv, rfl⟩, canonicalPolicy_eq_ok.2 ⟨q, hw, rfl⟩, hsorted]

/-! ## Exact units -/

theorem parseReference_eq_ok {r r' : CurrencyPolicyUnitReference} :
    parseReference r = .ok r' ↔ r.WellFormed ∧ r = r' := by
  simp only [parseReference, bind_eq_ok, require_eq_ok, pure_eq_ok, schema_reference_iff]
  constructor
  · rintro ⟨-, hr, -, -, rfl⟩
    exact ⟨hr, rfl⟩
  · rintro ⟨hr, rfl⟩
    have hversion := hr.2
    rw [isVersion, decide_eq_true_eq] at hversion
    exact ⟨(), hr, (), List.all_eq_true.2 (isVersionUnit_of_matchesVersion hversion.2.2), rfl⟩

theorem parseDefinition_eq_ok {u : UnitFacts} {d : CurrencyUnitDefinition} :
    parseDefinition u = .ok d ↔ schemaPatterns.read u = some d := by
  simp only [parseDefinition, bind_eq_ok, orThrow_eq_ok, require_eq_ok, pure_eq_ok]
  constructor
  · rintro ⟨d, hread, -, -, -, -, rfl⟩
    exact hread
  · intro hread
    have hprovenance : d.provenance.all isPrintable = true := by
      obtain ⟨-, -, hmatches, -, -, heq⟩ := schema_read_eq_some.1 hread
      rw [schemaPatterns, decide_eq_true_eq] at hmatches
      have := hmatches.2.2
      rw [matchesProvenance, decide_eq_true_eq] at this
      exact heq ▸ this.2.2
    exact ⟨d, hread, _, parseReference_eq_ok.2 ⟨wellFormed_of_read hread, rfl⟩, (), hprovenance,
      rfl⟩

def CurrencyUnitDefinition.Stored (d : CurrencyUnitDefinition) : Prop :=
  schemaPatterns.read d.facts = some d

theorem readExactCurrencyUnits_ok (hunits : ∀ d ∈ units, d.Stored)
    {references : List CurrencyPolicyUnitReference} {definitions : List CurrencyUnitDefinition}
    (h : readExactCurrencyUnits units references = .ok definitions) :
    (∀ d ∈ definitions, d ∈ units) ∧
      definitions.map CurrencyUnitDefinition.reference = references := by
  simp only [readExactCurrencyUnits, bind_eq_ok, require_eq_ok] at h
  obtain ⟨-, -, references', hreferences, -, -, rows, hrows, -, -, hall⟩ := h
  have hwell : List.Forall₂ (fun r r' => r.WellFormed ∧ r = r') references references' :=
    forall₂_of_mapM_ok (fun _ _ _ => parseReference_eq_ok.1) hreferences
  obtain rfl := eq_of_mapM_ok (fun _ _ _ hr => (parseReference_eq_ok.1 hr).2) hreferences
  rw [List.forall₂_same] at hwell
  obtain rfl := eq_of_mapM_ok (fun d hd e he => by
    have hstored := hunits d (List.mem_filter.1 hd).1
    rw [parseDefinition_eq_ok, hstored] at he
    exact Option.some.inj he) hrows
  -- a reference finds a definition with its identity, which is the one of its unit
  have hfound : List.Forall₂ (fun r d => d ∈ units ∧ d.reference = r) references definitions := by
    refine forall₂_of_mapM_ok (fun r hr d hd => ?_) hall
    rw [orThrow_eq_ok, unitUnder] at hd
    have hidentity := List.find?_some hd
    have hmem := (List.mem_filter.1 (List.mem_of_find?_eq_some hd)).1
    exact ⟨hmem, identity_inj (wellFormed_of_read (hunits d hmem)) (hwell r hr).1
      (of_decide_eq_true hidentity)⟩
  refine ⟨fun d hd => ?_, ?_⟩
  · obtain ⟨i, hi, rfl⟩ := List.getElem_of_mem hd
    exact ((List.forall₂_iff_get.1 hfound).2 i (hfound.length_eq ▸ hi) hi).1
  · have hmap := hfound.imp fun _ _ h => h.2.symm
    rw [← List.forall₂_map_right_iff (R := Eq), List.forall₂_eq_eq_eq] at hmap
    exact hmap.symm

/-! ## Contexts -/

theorem context_ok (hunits : ∀ d ∈ units, d.Stored) {c : CurrencyPolicyContext}
    (h : context units v = .ok c) :
    canonicalPolicy v = .ok c.policy ∧ (∀ d ∈ c.definitions, d ∈ units) ∧
      c.definitions.map CurrencyUnitDefinition.reference =
        c.policy.currencies.map CurrencyPolicyEntry.unit := by
  simp only [context, eq_ok] at h
  obtain ⟨p, hp, definitions, hdefinitions, hschema⟩ := h
  obtain ⟨hmem, href⟩ := readExactCurrencyUnits_ok hunits hdefinitions
  obtain ⟨hpolicy, hunitsOk, -⟩ := currencyPolicyContextSchema_eq_some.1 hschema
  obtain ⟨-, hpolicy⟩ := currencyPolicySchema_toValue.1 hpolicy
  rw [currencyUnitContextSchema_definitionsValue fun d hd => hunits d (hmem d hd)] at hunitsOk
  rw [← hunitsOk.1, ← hpolicy]
  exact ⟨hp, hmem, href⟩

/-! ## Facts -/

theorem CurrencyPolicyUnitReference.tuple_inj {ν : Type} {r s : CurrencyPolicyUnitReference}
    (h : (r.tuple : Value ν) = s.tuple) : r = s := by
  obtain ⟨_, _⟩ := r
  obtain ⟨_, _⟩ := s
  simp only [tuple, Value.array.injEq, List.cons.injEq, Value.string.injEq, and_true] at h
  rw [h.1, h.2]

theorem secondaryTuple_inj {ν : Type} {r s : Option CurrencyPolicyUnitReference}
    (h : (secondaryTuple r : Value ν) = secondaryTuple s) : r = s := by
  cases r <;> cases s
  · rfl
  · cases h
  · cases h
  · exact congrArg some (CurrencyPolicyUnitReference.tuple_inj h)

theorem facts_inj (h : facts p = facts q) : p = q := by
  obtain ⟨_, _, _, _, entries⟩ := p
  obtain ⟨_, _, _, _, entries'⟩ := q
  have hvalue := stringify_inj numberText_printNat digitsValue_printNat h
  simp only [Value.array.injEq, List.cons.injEq, Value.string.injEq, and_true] at hvalue
  obtain ⟨hrevision, hbase, hdefault, hsecondary, hentries⟩ := hvalue
  have hinj : Function.Injective fun e : CurrencyPolicyEntry => (Value.array [e.unit.tuple,
      .bool e.capabilities.display, .bool e.capabilities.newSales,
      .bool e.capabilities.collection] : Value ℕ) := by
    rintro ⟨unit, _, _, _⟩ ⟨unit', _, _, _⟩ heq
    simp only [Value.array.injEq, List.cons.injEq, Value.bool.injEq, and_true] at heq
    obtain ⟨hunit, rfl, rfl, rfl⟩ := heq
    rw [CurrencyPolicyUnitReference.tuple_inj hunit]
  rw [hrevision, CurrencyPolicyUnitReference.tuple_inj hbase,
    CurrencyPolicyUnitReference.tuple_inj hdefault, secondaryTuple_inj hsecondary,
    hinj.list_map hentries]

end Currency

end WebhostBilling
