import WebhostBilling.Currency.CurrencyPolicy

/-!
# The rules of currency policies

What a well-formed policy is, and when it fits the definitions of its units, apart from how a
program checks it.  The schemas accept exactly the policies that follow the rules.
-/

namespace WebhostBilling

open Json Store

namespace Currency

/-! ## The rules -/

def CurrencyPolicyUnitReference.WellFormed (r : CurrencyPolicyUnitReference) : Prop :=
  matchesCode r.code = true ∧ isVersion r.metadataVersion = true

def CurrencyPolicy.browsing (p : CurrencyPolicy) : List CurrencyPolicyUnitReference :=
  p.defaultBrowsing :: p.preferredSecondary.toList

structure CurrencyPolicy.WellFormed (p : CurrencyPolicy) : Prop where
  revision : isVersion p.revision = true
  references : ∀ r ∈ p.references, r.WellFormed
  nonempty : 0 < p.currencies.length
  bounded : p.currencies.length ≤ entryLimit
  codes : (p.currencies.map fun e => e.unit.code).Nodup
  secondary : ∀ r ∈ p.preferredSecondary, r.code ≠ p.defaultBrowsing.code

/-- A policy fits its units: all of them are defined, historical ones are not sold, the base is an
entry, and so are the units to browse in, which are current and displayed. -/
structure CurrencyPolicy.Fits (p : CurrencyPolicy)
    (unitOf : CurrencyPolicyUnitReference → Option CurrencyUnitDefinition) : Prop where
  entries : ∀ e ∈ p.currencies, ∃ d, unitOf e.unit = some d ∧
    (d.status = .historical → e.capabilities.display = false ∧ e.capabilities.newSales = false)
  base : ∃ e ∈ p.currencies, e.unit = p.base
  browsing : ∀ r ∈ p.browsing, ∃ e ∈ p.currencies, e.unit = r ∧ e.capabilities.display = true ∧
    ∃ d, unitOf r = some d ∧ d.status = .current

structure Definitions (definitions : List CurrencyUnitDefinition) : Prop where
  wellFormed : ∀ d ∈ definitions, d.reference.WellFormed
  distinct : (definitions.map CurrencyUnitDefinition.reference).Nodup

variable {p : CurrencyPolicy} {r : CurrencyPolicyUnitReference} {d : CurrencyUnitDefinition}
  {definitions : List CurrencyUnitDefinition} {u : UnitFacts} {v : Value JsNumber}

theorem CurrencyPolicy.mem_references :
    r ∈ p.references ↔ r = p.base ∨ r ∈ p.browsing ∨ ∃ e ∈ p.currencies, e.unit = r := by
  simp only [references, selected, browsing, List.mem_append, List.map_cons, List.map_map,
    List.mem_cons, List.mem_map, Function.comp_def, List.map_id', or_assoc]

theorem CurrencyPolicy.Fits.exists_entry
    {unitOf : CurrencyPolicyUnitReference → Option CurrencyUnitDefinition} (h : p.Fits unitOf)
    (hr : r ∈ p.references) : ∃ e ∈ p.currencies, e.unit = r := by
  rcases mem_references.1 hr with rfl | hr | hentry
  · exact h.base
  · obtain ⟨e, he, hunit, -⟩ := h.browsing r hr
    exact ⟨e, he, hunit⟩
  · exact hentry

theorem CurrencyPolicy.WellFormed.entry?_eq_some (hp : p.WellFormed) {e : CurrencyPolicyEntry} :
    p.entry? r = some e ↔ e ∈ p.currencies ∧ e.unit = r := by
  have hunits : (p.currencies.map CurrencyPolicyEntry.unit).Nodup := by
    have := hp.codes
    rw [← Function.comp_def CurrencyPolicyUnitReference.code CurrencyPolicyEntry.unit,
      ← List.map_map] at this
    exact this.of_map _
  exact find?_key hunits

theorem Definitions.findUnit_eq_some (h : Definitions definitions) :
    findUnit definitions r = some d ↔ d ∈ definitions ∧ d.reference = r :=
  find?_key h.distinct

theorem identity_inj {s : CurrencyPolicyUnitReference} (hr : r.WellFormed) (hs : s.WellFormed)
    (h : r.identity = s.identity) : r = s := by
  obtain ⟨hcode, hversion⟩ := List.append_inj h
    ((length_of_matchesCode hr.1).trans (length_of_matchesCode hs.1).symm)
  obtain ⟨_, _⟩ := r
  obtain ⟨_, _⟩ := s
  cases hcode
  cases (List.cons.inj hversion).2
  rfl

theorem nodup_identity_iff (h : ∀ d ∈ definitions, d.reference.WellFormed) :
    (definitions.map fun d => d.reference.identity).Nodup ↔
      (definitions.map CurrencyUnitDefinition.reference).Nodup := by
  rw [← Function.comp_def CurrencyPolicyUnitReference.identity CurrencyUnitDefinition.reference,
    ← List.map_map]
  refine ⟨List.Nodup.of_map _, fun hnodup => hnodup.map_on ?_⟩
  intro r hr s hs heq
  obtain ⟨d, hd, rfl⟩ := List.mem_map.1 hr
  obtain ⟨e, he, rfl⟩ := List.mem_map.1 hs
  exact identity_inj (h d hd) (h e he) heq

/-! ## The schemas -/

theorem schema_reference_iff (r : CurrencyPolicyUnitReference) :
    schemaPatterns.reference r = true ↔ r.WellFormed := by
  rw [UnitPatterns.reference, Bool.and_eq_true, schema_code_iff]
  exact and_congr_right fun _ => boundedVersion_iff r.metadataVersion

theorem currencyPolicyIssues_eq_nil : currencyPolicyIssues p = [] ↔
    (p.currencies.map fun e => e.unit.code).Nodup ∧
      ∀ r ∈ p.preferredSecondary, r.code ≠ p.defaultBrowsing.code := by
  rw [currencyPolicyIssues, List.append_eq_nil_iff, List.map_eq_nil_iff, repeated_eq_nil]
  refine and_congr_right fun _ => ?_
  cases p.preferredSecondary <;> simp

theorem currencyPolicySchema_eq_some :
    currencyPolicySchema v = some p ↔ CurrencyPolicy.ofValue v = some p ∧ p.WellFormed := by
  simp only [currencyPolicySchema, eq_some, boundedVersion_iff, schema_reference_iff,
    currencyPolicyIssues_eq_nil]
  constructor
  · rintro ⟨q, hread, hrevision, hreferences, ⟨hnonempty, hbounded⟩, ⟨hcodes, hsecondary⟩, rfl⟩
    exact ⟨hread, hrevision, hreferences, hnonempty, hbounded, hcodes, hsecondary⟩
  · rintro ⟨hread, hp⟩
    exact ⟨p, hread, hp.revision, hp.references, ⟨hp.nonempty, hp.bounded⟩,
      ⟨hp.codes, hp.secondary⟩, rfl⟩

theorem currencyPolicySchema_toValue {q : CurrencyPolicy} :
    currencyPolicySchema p.toValue = some q ↔ p.WellFormed ∧ p = q := by
  rw [currencyPolicySchema_eq_some, CurrencyPolicy.ofValue_toValue, Option.some.injEq]
  constructor
  · rintro ⟨rfl, hp⟩
    exact ⟨hp, rfl⟩
  · rintro ⟨hp, rfl⟩
    exact ⟨rfl, hp⟩

/-! ### Definitions -/

theorem schema_read_eq_some :
    schemaPatterns.read u = some d ↔ u.reference.WellFormed ∧
      readExponent u.minorUnitExponent = some d.minorUnitExponent ∧
      schemaPatterns.provenance u.provenance = true ∧ UnitStatus.ofText? u.status = some d.status ∧
      d.reference = u.reference ∧ d.provenance = u.provenance := by
  obtain ⟨code, metadataVersion, minorUnitExponent, provenance, status⟩ := d
  simp only [UnitPatterns.read, eq_some, schema_code_iff,
    show schemaPatterns.metadataVersion = boundedVersion from rfl, boundedVersion_iff,
    CurrencyPolicyUnitReference.WellFormed, UnitFacts.reference, CurrencyUnitDefinition.reference,
    CurrencyUnitDefinition.mk.injEq, CurrencyPolicyUnitReference.mk.injEq]
  constructor
  · rintro ⟨hcode, hversion, e, he, hprovenance, s, hs, rfl, rfl, rfl, rfl, rfl⟩
    exact ⟨⟨hcode, hversion⟩, he, hprovenance, hs, ⟨rfl, rfl⟩, rfl⟩
  · rintro ⟨⟨hcode, hversion⟩, he, hprovenance, hs, ⟨rfl, rfl⟩, rfl⟩
    exact ⟨hcode, hversion, _, he, hprovenance, _, hs, rfl, rfl, rfl, rfl, rfl⟩

theorem reference_of_read (h : schemaPatterns.read u = some d) : d.reference = u.reference :=
  (schema_read_eq_some.1 h).2.2.2.2.1

theorem wellFormed_of_read (h : schemaPatterns.read u = some d) : d.reference.WellFormed :=
  reference_of_read h ▸ (schema_read_eq_some.1 h).1

theorem UnitStatus.ofText?_text (s : UnitStatus) : ofText? s.text = some s := by
  cases s <;> decide

theorem readExponent_eq_some {n : JsNumber} {e : ℕ} :
    readExponent n = some e ↔ n = .finite e ∧ e ≤ exponentLimit := by
  cases n with
  | infinite negative => simp [readExponent]
  | finite q =>
    rw [readExponent, Option.ite_none_right_eq_some, Option.some.injEq, JsNumber.finite.injEq]
    constructor
    · rintro ⟨⟨hden, hlow, hhigh⟩, rfl⟩
      refine ⟨Rat.ext ?_ hden, by omega⟩
      rw [Rat.num_natCast, Int.toNat_of_nonneg hlow]
    · rintro ⟨rfl, hhigh⟩
      rw [Rat.num_natCast, Rat.den_natCast]
      exact ⟨⟨rfl, Int.natCast_nonneg e, Int.ofNat_le.2 hhigh⟩, Int.toNat_natCast e⟩

theorem read_facts (h : schemaPatterns.read u = some d) : schemaPatterns.read d.facts = some d := by
  obtain ⟨hunit, hexponent, hprovenance, hstatus, href, hprov⟩ := schema_read_eq_some.1 h
  have hunit' : d.facts.reference.WellFormed := by
    rw [← href] at hunit
    exact hunit
  have hexponent' : readExponent d.facts.minorUnitExponent = some d.minorUnitExponent :=
    readExponent_eq_some.2 ⟨rfl, (readExponent_eq_some.1 hexponent).2⟩
  have hprovenance' : schemaPatterns.provenance d.facts.provenance = true := by
    rw [← hprov] at hprovenance
    exact hprovenance
  exact schema_read_eq_some.2
    ⟨hunit', hexponent', hprovenance', d.status.ofText?_text, rfl, rfl⟩

theorem currencyUnitContextIssues_eq_nil (h : ∀ d ∈ definitions, d.reference.WellFormed) :
    currencyUnitContextIssues definitions = [] ↔
      (definitions.map CurrencyUnitDefinition.reference).Nodup := by
  rw [currencyUnitContextIssues, List.map_eq_nil_iff, repeated_eq_nil, nodup_identity_iff h]

theorem wellFormed_of_schema
    (h : currencyUnitDefinitionSchema v = some d) : d.reference.WellFormed := by
  rw [currencyUnitDefinitionSchema, Option.bind_eq_bind, Option.bind_eq_some_iff] at h
  obtain ⟨u, -, hread⟩ := h
  exact wellFormed_of_read hread

theorem currencyUnitContextSchema_eq_some :
    currencyUnitContextSchema v = some definitions ↔ ∃ items, v.items? = some items ∧
      items.mapM currencyUnitDefinitionSchema = some definitions ∧ Definitions definitions ∧
      0 < definitions.length ∧ definitions.length ≤ definitionLimit := by
  simp only [currencyUnitContextSchema, eq_some]
  refine exists_congr fun items => and_congr_right fun _ => ?_
  constructor
  · rintro ⟨⟨hpos, hlimit⟩, ds, hmap, hissues, rfl⟩
    have hwell : ∀ d ∈ ds, d.reference.WellFormed := fun d hd =>
      (exists_of_mapM hmap hd).elim fun _ h => wellFormed_of_schema h.2
    rw [(mapM_eq_some.1 hmap).length_eq] at hpos hlimit
    exact ⟨hmap, ⟨hwell, (currencyUnitContextIssues_eq_nil hwell).1 hissues⟩, hpos, hlimit⟩
  · rintro ⟨hmap, hds, hpos, hlimit⟩
    rw [(mapM_eq_some.1 hmap).length_eq]
    exact ⟨⟨hpos, hlimit⟩, definitions, hmap,
      (currencyUnitContextIssues_eq_nil hds.wellFormed).2 hds.distinct, rfl⟩

theorem mapM_schema_toValue (units : List UnitFacts) :
    (units.map UnitFacts.toValue).mapM currencyUnitDefinitionSchema =
      units.mapM schemaPatterns.read :=
  List.mapM_map

theorem currencyUnitContextSchema_array {units : List UnitFacts} :
    currencyUnitContextSchema (.array (units.map UnitFacts.toValue)) = some definitions ↔
      units.mapM schemaPatterns.read = some definitions ∧ Definitions definitions ∧
        0 < definitions.length ∧ definitions.length ≤ definitionLimit := by
  rw [currencyUnitContextSchema_eq_some]
  constructor
  · rintro ⟨items, hitems, hmap, h⟩
    cases hitems
    exact ⟨mapM_schema_toValue units ▸ hmap, h⟩
  · rintro ⟨hmap, h⟩
    exact ⟨_, rfl, (mapM_schema_toValue units).trans hmap, h⟩

theorem currencyUnitContextSchema_definitionsValue {ds es : List CurrencyUnitDefinition}
    (hread : ∀ d ∈ ds, schemaPatterns.read d.facts = some d) :
    currencyUnitContextSchema (definitionsValue ds) = some es ↔
      ds = es ∧ Definitions ds ∧ 0 < ds.length ∧ ds.length ≤ definitionLimit := by
  have hvalue : definitionsValue ds =
      .array ((ds.map CurrencyUnitDefinition.facts).map UnitFacts.toValue) := by
    rw [definitionsValue, List.map_map]
    rfl
  have hmap : (ds.map CurrencyUnitDefinition.facts).mapM schemaPatterns.read = some ds := by
    rw [mapM_eq_some, List.forall₂_map_left_iff, List.forall₂_same]
    exact hread
  rw [hvalue, currencyUnitContextSchema_array, hmap, Option.some.injEq]
  exact and_congr_right fun h => h ▸ Iff.rfl

/-! ### Contexts -/

theorem entryIssues_eq_nil {e : CurrencyPolicyEntry}
    {index : ℕ} : entryIssues definitions e index = [] ↔
      ∃ d, findUnit definitions e.unit = some d ∧ (d.status = .historical →
        e.capabilities.display = false ∧ e.capabilities.newSales = false) := by
  rw [entryIssues]
  cases findUnit definitions e.unit with
  | none => simp
  | some d =>
    cases e.capabilities.display <;> cases e.capabilities.newSales <;> simp

theorem baseIssues_eq_nil :
    selectedIssues p definitions "base" p.base = [] ↔
      (∃ e, p.entry? p.base = some e) ∧ ∃ d, findUnit definitions p.base = some d := by
  rw [selectedIssues]
  cases p.entry? p.base <;> cases findUnit definitions p.base <;> simp

theorem browsingIssues_eq_nil {field : String} (hfield : field ≠ "base") :
    selectedIssues p definitions field r = [] ↔
      (∃ e, p.entry? r = some e ∧ e.capabilities.display = true) ∧
        ∃ d, findUnit definitions r = some d ∧ d.status = .current := by
  rw [selectedIssues]
  cases p.entry? r with
  | none => simp
  | some e =>
    cases findUnit definitions r with
    | none => simp
    | some d => cases hdisplay : e.capabilities.display <;> simp [hfield, hdisplay]

theorem CurrencyPolicy.forall_selected {q : String → CurrencyPolicyUnitReference → Prop} :
    (∀ x ∈ p.selected, q x.1 x.2) ↔ q "base" p.base ∧ q "defaultBrowsing" p.defaultBrowsing ∧
      ∀ r ∈ p.preferredSecondary, q "preferredSecondary" r := by
  rw [selected]
  cases p.preferredSecondary <;> simp

theorem currencyPolicyContextIssues_eq_nil (hp : p.WellFormed) :
    currencyPolicyContextIssues p definitions = [] ↔ p.Fits (findUnit definitions) := by
  have hentries : (∀ x ∈ p.currencies.zipIdx, entryIssues definitions x.1 x.2 = []) ↔
        ∀ e ∈ p.currencies, ∃ d, findUnit definitions e.unit = some d ∧ (d.status = .historical →
          e.capabilities.display = false ∧ e.capabilities.newSales = false) := by
    constructor
    · intro h e he
      obtain ⟨i, hi, rfl⟩ := List.getElem_of_mem he
      exact entryIssues_eq_nil.1 (h _ (List.mk_mem_zipIdx_iff_getElem?.2
        (List.getElem?_eq_getElem hi)))
    · rintro h ⟨e, i⟩ hmem
      exact entryIssues_eq_nil.2 (h e (List.mem_of_getElem? (List.mk_mem_zipIdx_iff_getElem?.1 hmem)))
  have hbrowse : ∀ (field : String) (r : CurrencyPolicyUnitReference), field ≠ "base" →
      (selectedIssues p definitions field r = [] ↔ ∃ e ∈ p.currencies, e.unit = r ∧
        e.capabilities.display = true ∧ ∃ d, findUnit definitions r = some d ∧
          d.status = .current) := by
    intro field r hfield
    rw [browsingIssues_eq_nil hfield]
    simp only [hp.entry?_eq_some, and_assoc]
    constructor
    · rintro ⟨⟨e, he, hunit, hdisplay⟩, hd⟩
      exact ⟨e, he, hunit, hdisplay, hd⟩
    · rintro ⟨e, he, hunit, hdisplay, hd⟩
      exact ⟨⟨e, he, hunit, hdisplay⟩, hd⟩
  rw [currencyPolicyContextIssues, List.append_eq_nil_iff, List.flatMap_eq_nil_iff,
    List.flatMap_eq_nil_iff]
  have hselected := p.forall_selected (q := fun field r => selectedIssues p definitions field r = [])
  rw [show (∀ x ∈ p.selected, selectedIssues p definitions x.1 x.2 = []) ↔ _ from hselected,
    baseIssues_eq_nil, hbrowse _ _ (by decide)]
  refine (and_congr_left' hentries).trans ?_
  constructor
  · rintro ⟨hall, ⟨⟨e, he⟩, -⟩, hdefault, hsecondary⟩
    refine ⟨hall, ⟨e, hp.entry?_eq_some.1 he⟩, fun r hr => ?_⟩
    rcases List.mem_cons.1 hr with rfl | hmem
    · exact hdefault
    · exact (hbrowse _ _ (by decide)).1 (hsecondary r (Option.mem_toList.1 hmem))
  · intro h
    obtain ⟨e, he, hunit⟩ := h.base
    obtain ⟨d, hd, -⟩ := h.entries e he
    refine ⟨h.entries, ⟨⟨e, hp.entry?_eq_some.2 ⟨he, hunit⟩⟩, d, hunit ▸ hd⟩,
      h.browsing _ List.mem_cons_self, fun r hr => ?_⟩
    exact (hbrowse _ _ (by decide)).2
      (h.browsing r (List.mem_cons_of_mem _ (Option.mem_toList.2 hr)))

theorem currencyPolicyContextSchema_eq_some {policy definitions : Value JsNumber}
    {c : CurrencyPolicyContext} :
    currencyPolicyContextSchema (contextValue policy definitions) = some c ↔
      currencyPolicySchema policy = some c.policy ∧
        currencyUnitContextSchema definitions = some c.definitions ∧
        c.policy.Fits (findUnit c.definitions) := by
  obtain ⟨p, ds⟩ := c
  have hmembers : currencyPolicyContextSchema (contextValue policy definitions) =
      (currencyPolicySchema policy).bind fun p => (currencyUnitContextSchema definitions).bind
        fun ds => (guard (currencyPolicyContextIssues p ds = []) : Option Unit).bind
          fun _ => some ⟨p, ds⟩ := rfl
  simp only [hmembers, eq_some, CurrencyPolicyContext.mk.injEq]
  constructor
  · rintro ⟨q, hq, es, hes, hissues, rfl, rfl⟩
    exact ⟨hq, hes,
      (currencyPolicyContextIssues_eq_nil (currencyPolicySchema_eq_some.1 hq).2).1 hissues⟩
  · rintro ⟨hq, hes, hfits⟩
    exact ⟨p, hq, ds, hes,
      (currencyPolicyContextIssues_eq_nil (currencyPolicySchema_eq_some.1 hq).2).2 hfits, rfl, rfl⟩

end Currency

end WebhostBilling
