import WebhostBilling.Currency.PolicyRevisions
import WebhostBilling.Currency.PolicyRules

/-!
# The three validators of currency policies

The shared schema, the encoder of policy contexts and the database accept a policy by the same
rules: each accepts it when it is well-formed and fits the definitions of its units.
-/

namespace WebhostBilling

open Json Store

namespace Currency

/-! ## The encoder -/

def UnitFacts.tuple (u : UnitFacts) : Value JsNumber :=
  .array [.string u.code, .string u.metadataVersion, .number u.minorUnitExponent,
    .string u.provenance, .string u.status]

def contextTuple (p : CurrencyPolicy) (units : List UnitFacts) : Value JsNumber :=
  .array [p.tuple, .array (units.map UnitFacts.tuple)]

theorem copyReference_tuple {r q : CurrencyPolicyUnitReference} :
    copyReference r.tuple = some q ↔ r.WellFormed ∧ r = q := by
  rw [CurrencyPolicyUnitReference.tuple, copyReference, Option.ite_none_right_eq_some,
    Option.some.injEq]
  rfl

theorem copySecondary_tuple {secondary q : Option CurrencyPolicyUnitReference} :
    copySecondary (secondaryTuple secondary) = some q ↔
      (∀ r ∈ secondary, r.WellFormed) ∧ secondary = q := by
  cases secondary with
  | none => simp [secondaryTuple, copySecondary]
  | some r =>
    rw [secondaryTuple, show copySecondary r.tuple = (copyReference r.tuple).map some from rfl,
      Option.map_eq_some_iff]
    simp only [copyReference_tuple, Option.mem_some_iff, forall_eq']
    constructor
    · rintro ⟨_, ⟨hr, rfl⟩, rfl⟩
      exact ⟨hr, rfl⟩
    · rintro ⟨hr, rfl⟩
      exact ⟨r, ⟨hr, rfl⟩, rfl⟩

theorem copyCapability_tuple {e f : CurrencyPolicyEntry} :
    copyCapability e.tuple = some f ↔ e.unit.WellFormed ∧ e = f := by
  rw [CurrencyPolicyEntry.tuple, copyCapability, Option.ite_none_right_eq_some, Option.some.injEq]
  rfl

theorem copyDefinition_tuple (u : UnitFacts) :
    copyDefinition u.tuple = schemaPatterns.read u := encoder_read u

theorem mapM_guarded {α β : Type} {read : α → Option β} {f : β → α} {p : β → Prop}
    (hread : ∀ x y, read (f x) = some y ↔ p x ∧ x = y) {xs ys : List β} :
    (xs.map f).mapM read = some ys ↔ (∀ x ∈ xs, p x) ∧ xs = ys := by
  rw [mapM_eq_some, List.forall₂_map_left_iff]
  simp only [hread]
  constructor
  · intro h
    induction h with
    | nil => exact ⟨fun _ hx => absurd hx List.not_mem_nil, rfl⟩
    | cons hxy _ ih => exact ⟨List.forall_mem_cons.2 ⟨hxy.1, ih.1⟩, by rw [hxy.2, ih.2]⟩
  · rintro ⟨hp, rfl⟩
    exact List.forall₂_same.2 fun x hx => ⟨hp x hx, rfl⟩

theorem readDistinct_capabilities {currencies entries : List CurrencyPolicyEntry} :
    readDistinct copyCapability (·.unit.code) [] (currencies.map CurrencyPolicyEntry.tuple) =
        some entries ↔
      (∀ e ∈ currencies, e.unit.WellFormed) ∧ (currencies.map (·.unit.code)).Nodup ∧
        currencies = entries := by
  rw [readDistinct_eq_some, mapM_guarded fun _ _ => copyCapability_tuple]
  constructor
  · rintro ⟨⟨hwell, rfl⟩, hnodup, -⟩
    exact ⟨hwell, hnodup, rfl⟩
  · rintro ⟨hwell, hnodup, rfl⟩
    exact ⟨⟨hwell, rfl⟩, hnodup, fun _ _ => List.not_mem_nil⟩

theorem readDistinct_definitions {units : List UnitFacts}
    {definitions : List CurrencyUnitDefinition} :
    readDistinct copyDefinition (·.reference.identity) [] (units.map UnitFacts.tuple) =
        some definitions ↔
      units.mapM schemaPatterns.read = some definitions ∧ Definitions definitions := by
  rw [readDistinct_eq_some, List.mapM_map, show copyDefinition ∘ UnitFacts.tuple =
    schemaPatterns.read from funext copyDefinition_tuple]
  refine and_congr_right fun hmap => ?_
  have hwell : ∀ d ∈ definitions, d.reference.WellFormed := fun d hd =>
    (exists_of_mapM hmap hd).elim fun _ h => wellFormed_of_read h.2
  rw [nodup_identity_iff hwell]
  exact ⟨fun h => ⟨hwell, h.1⟩, fun h => ⟨h.distinct, fun _ _ => List.not_mem_nil⟩⟩

section

variable {definitions : List CurrencyUnitDefinition}
variable {p : CurrencyPolicy} {r : CurrencyPolicyUnitReference}

theorem unitUnder_eq (h : Definitions definitions)
    (hr : r.WellFormed) : unitUnder definitions r = findUnit definitions r := by
  refine Option.ext fun d => ?_
  rw [h.findUnit_eq_some,
    show unitUnder definitions r = some d ↔ _ from find?_key ((nodup_identity_iff h.wellFormed).2
      h.distinct)]
  exact and_congr_right fun hd =>
    ⟨identity_inj (h.wellFormed d hd) hr, congrArg CurrencyPolicyUnitReference.identity⟩

theorem capabilityAllowed_iff (h : Definitions definitions) {e : CurrencyPolicyEntry}
    (he : e.unit.WellFormed) : capabilityAllowed definitions e = true ↔
      ∃ d, findUnit definitions e.unit = some d ∧ (d.status = .historical →
        e.capabilities.display = false ∧ e.capabilities.newSales = false) := by
  rw [capabilityAllowed, unitUnder_eq h he]
  cases findUnit definitions e.unit with
  | none => simp
  | some d => cases e.capabilities.display <;> cases e.capabilities.newSales <;> simp

theorem capabilityUnder_iff (hp : p.WellFormed) {e : CurrencyPolicyEntry} :
    (capabilityUnder p.currencies r.code = some e ∧ e.unit.metadataVersion = r.metadataVersion) ↔
      e ∈ p.currencies ∧ e.unit = r := by
  rw [show capabilityUnder p.currencies r.code = some e ↔ _ from find?_key hp.codes]
  rw [and_assoc]
  refine and_congr_right fun _ => ?_
  obtain ⟨code, metadataVersion⟩ := r
  obtain ⟨⟨code', metadataVersion'⟩, capabilities⟩ := e
  exact (CurrencyPolicyUnitReference.mk.injEq ..).symm ▸ Iff.rfl

theorem referenceAllowed_iff (hp : p.WellFormed) (h : Definitions definitions)
    {isBase : Bool} (hr : r.WellFormed) :
    referenceAllowed p.currencies definitions isBase r = true ↔
      ∃ e ∈ p.currencies, e.unit = r ∧ ∃ d, findUnit definitions r = some d ∧
        (isBase = false → e.capabilities.display = true ∧ d.status = .current) := by
  rw [referenceAllowed, unitUnder_eq h hr]
  constructor
  · intro hallowed
    cases hentry : capabilityUnder p.currencies r.code with
    | none =>
      rw [hentry] at hallowed
      cases hallowed
    | some e =>
      cases hunit : findUnit definitions r with
      | none =>
        rw [hentry, hunit] at hallowed
        cases hallowed
      | some d =>
        rw [hentry, hunit] at hallowed
        simp only [decide_eq_true_eq, not_and, not_or, Bool.not_eq_false, ne_eq, not_not] at hallowed
        obtain ⟨he, hr⟩ := (capabilityUnder_iff hp).1 ⟨hentry, hallowed.1⟩
        exact ⟨e, he, hr, d, rfl, hallowed.2⟩
  · rintro ⟨e, he, hunit, d, hd, hbrowse⟩
    obtain ⟨hentry, hversion⟩ := (capabilityUnder_iff hp).2 ⟨he, hunit⟩
    rw [hentry, hd]
    simp only [decide_eq_true_eq, not_and, not_or, Bool.not_eq_false, ne_eq, not_not]
    exact ⟨hversion, hbrowse⟩

theorem allowed_iff_fits (hp : p.WellFormed) (h : Definitions definitions) :
    ((∀ e ∈ p.currencies, capabilityAllowed definitions e = true) ∧
      referenceAllowed p.currencies definitions true p.base = true ∧
      ∀ r ∈ p.browsing, referenceAllowed p.currencies definitions false r = true) ↔
        p.Fits (findUnit definitions) := by
  have hentry : ∀ e ∈ p.currencies, e.unit.WellFormed := fun e he =>
    hp.references _ (CurrencyPolicy.mem_references.2 (.inr (.inr ⟨e, he, rfl⟩)))
  have hbase : p.base.WellFormed := hp.references _ (CurrencyPolicy.mem_references.2 (.inl rfl))
  have hbrowsing : ∀ r ∈ p.browsing, r.WellFormed := fun r hr =>
    hp.references r (CurrencyPolicy.mem_references.2 (.inr (.inl hr)))
  constructor
  · rintro ⟨hcapabilities, hallowed, hbrowse⟩
    obtain ⟨e, he, hunit, -⟩ := (referenceAllowed_iff hp h hbase).1 hallowed
    refine ⟨fun e he => (capabilityAllowed_iff h (hentry e he)).1 (hcapabilities e he),
      ⟨e, he, hunit⟩, fun r hr => ?_⟩
    obtain ⟨e, he, hunit, d, hd, hchoice⟩ :=
      (referenceAllowed_iff hp h (hbrowsing r hr)).1 (hbrowse r hr)
    exact ⟨e, he, hunit, (hchoice rfl).1, d, hd, (hchoice rfl).2⟩
  · intro hfits
    obtain ⟨e, he, hunit⟩ := hfits.base
    obtain ⟨d, hd, -⟩ := hfits.entries e he
    refine ⟨fun e he => (capabilityAllowed_iff h (hentry e he)).2 (hfits.entries e he),
      (referenceAllowed_iff hp h hbase).2 ⟨e, he, hunit, d, hunit ▸ hd, nofun⟩, fun r hr => ?_⟩
    obtain ⟨e, he, hunit, hdisplay, d, hd, hcurrent⟩ := hfits.browsing r hr
    exact (referenceAllowed_iff hp h (hbrowsing r hr)).2
      ⟨e, he, hunit, d, hd, fun _ => ⟨hdisplay, hcurrent⟩⟩

end
variable {p : CurrencyPolicy} {table : List CurrencyUnitDefinition} {units : List UnitFacts}

theorem CurrencyPolicy.secondary_iff :
    ¬ p.preferredSecondary.any (·.code = p.defaultBrowsing.code) = true ↔
      ∀ r ∈ p.preferredSecondary, r.code ≠ p.defaultBrowsing.code := by
  cases p.preferredSecondary <;> simp

theorem copyContext_eq_some
    {c : CurrencyPolicyContext} : copyContext (contextTuple p units) = some c ↔
      c.policy = p ∧ p.WellFormed ∧ units.mapM schemaPatterns.read = some c.definitions ∧
        Definitions c.definitions ∧ c.definitions.length = p.currencies.length ∧
        p.Fits (findUnit c.definitions) := by
  obtain ⟨q, definitions⟩ := c
  simp only [copyContext, contextTuple, CurrencyPolicy.tuple, eq_some, copyReference_tuple,
    copySecondary_tuple, readDistinct_capabilities, readDistinct_definitions, List.length_map,
    CurrencyPolicyContext.mk.injEq]
  constructor
  · rintro ⟨⟨hnonempty, hbounded⟩, -, hrevision, _, ⟨hbase, rfl⟩, _, ⟨hdefault, rfl⟩, _,
      ⟨hsecondary, rfl⟩, hother, _, ⟨hentries, hcodes, rfl⟩, _, ⟨hmap, hds⟩, hlength, hcapabilities,
      hallowed, hbrowse, rfl, rfl⟩
    have hp : p.WellFormed := by
      refine ⟨hrevision, fun r hr => ?_, hnonempty, hbounded, hcodes,
          CurrencyPolicy.secondary_iff.1 hother⟩
      rcases CurrencyPolicy.mem_references.1 hr with rfl | hr | ⟨e, he, rfl⟩
      · exact hbase
      · rcases List.mem_cons.1 hr with rfl | hr
        · exact hdefault
        · exact hsecondary r (Option.mem_toList.1 hr)
      · exact hentries e he
    exact ⟨rfl, hp, hmap, hds, hlength, (allowed_iff_fits hp hds).1 ⟨hcapabilities, hallowed, hbrowse⟩⟩
  · rintro ⟨rfl, hp, hmap, hds, hlength, hfits⟩
    obtain ⟨hcapabilities, hallowed, hbrowse⟩ := (allowed_iff_fits hp hds).2 hfits
    have hunits : units.length = q.currencies.length :=
      (mapM_eq_some.1 hmap).length_eq.trans hlength
    have hreference := fun r hr => hp.references r (CurrencyPolicy.mem_references.2 hr)
    exact ⟨⟨hp.nonempty, hp.bounded⟩, hunits ▸ ⟨hp.nonempty, hp.bounded⟩, hp.revision, _,
      ⟨hreference _ (.inl rfl), rfl⟩, _, ⟨hreference _ (.inr (.inl List.mem_cons_self)), rfl⟩, _,
      ⟨fun r hr => hreference r (.inr (.inl (List.mem_cons_of_mem _ (Option.mem_toList.2 hr)))), rfl⟩,
      CurrencyPolicy.secondary_iff.2 hp.secondary, _,
          ⟨fun e he => hreference _ (.inr (.inr ⟨e, he, rfl⟩)), hp.codes, rfl⟩, _,
      ⟨hmap, hds⟩, hlength, hcapabilities, hallowed, hbrowse, rfl, rfl⟩

/-! ## The database -/

theorem sql_reference_iff (r : CurrencyPolicyUnitReference) :
    sqlPatterns.reference r = true ↔ r.WellFormed := by
  rw [UnitPatterns.reference, Bool.and_eq_true, sql_code_iff, sql_version_iff]
  rfl

theorem validateEntry_eq_some {e f : CurrencyPolicyEntry} :
    validateEntry table e = some f ↔ (e.unit.WellFormed ∧ ∃ d, findUnit table e.unit = some d ∧
      (d.status = .historical → e.capabilities.display = false ∧ e.capabilities.newSales = false)) ∧
        e = f := by
  simp only [validateEntry, eq_some, sql_reference_iff, not_and, not_or, Bool.not_eq_true]
  constructor
  · rintro ⟨hunit, d, hd, hstatus, rfl⟩
    exact ⟨⟨hunit, d, hd, hstatus⟩, rfl⟩
  · rintro ⟨⟨hunit, d, hd, hstatus⟩, rfl⟩
    exact ⟨hunit, d, hd, hstatus, rfl⟩

theorem readDistinct_entries {currencies entries : List CurrencyPolicyEntry} :
    readDistinct (validateEntry table) (·.unit.code) [] currencies = some entries ↔
      (∀ e ∈ currencies, e.unit.WellFormed ∧ ∃ d, findUnit table e.unit = some d ∧
        (d.status = .historical →
          e.capabilities.display = false ∧ e.capabilities.newSales = false)) ∧
      (currencies.map (·.unit.code)).Nodup ∧ currencies = entries := by
  rw [readDistinct_eq_some, ← List.map_id currencies,
    mapM_guarded (f := id) fun _ _ => validateEntry_eq_some, List.map_id]
  constructor
  · rintro ⟨⟨hwell, rfl⟩, hnodup, -⟩
    exact ⟨hwell, hnodup, rfl⟩
  · rintro ⟨hwell, hnodup, rfl⟩
    exact ⟨⟨hwell, rfl⟩, hnodup, fun _ _ => List.not_mem_nil⟩

variable {r : CurrencyPolicyUnitReference} {definitions : List CurrencyUnitDefinition}

theorem CurrencyPolicy.of_entry? {e : CurrencyPolicyEntry} (h : p.entry? r = some e) :
    e ∈ p.currencies ∧ e.unit = r := by
  have hunit := List.find?_some h
  exact ⟨List.mem_of_find?_eq_some h, of_decide_eq_true hunit⟩

theorem validateBase_iff :
    validateSelected table p "base" p.base = true ↔
      p.base.WellFormed ∧ ∃ e, p.entry? p.base = some e := by
  rw [validateSelected, Bool.and_eq_true, sql_reference_iff]
  cases p.entry? p.base <;> simp

theorem validateBrowsing_iff {field : String} (hfield : field ≠ "base") :
    validateSelected table p field r = true ↔ r.WellFormed ∧
      ∃ e, p.entry? r = some e ∧ e.capabilities.display = true ∧
        ∃ d, findUnit table r = some d ∧ d.status = .current := by
  rw [validateSelected, Bool.and_eq_true, sql_reference_iff]
  refine and_congr_right fun _ => ?_
  cases p.entry? r with
  | none => simp
  | some e => cases findUnit table r <;> simp [hfield, and_comm]

theorem validateSelected_iff :
    (∀ x ∈ p.selected, validateSelected table p x.1 x.2 = true) ↔
      (p.base.WellFormed ∧ ∃ e, p.entry? p.base = some e) ∧
        ∀ r ∈ p.browsing, r.WellFormed ∧ ∃ e, p.entry? r = some e ∧
          e.capabilities.display = true ∧ ∃ d, findUnit table r = some d ∧ d.status = .current := by
  have hselected := p.forall_selected (q := fun field r => validateSelected table p field r = true)
  rw [hselected, validateBase_iff, validateBrowsing_iff (by decide)]
  refine and_congr_right fun _ => ?_
  rw [CurrencyPolicy.browsing, List.forall_mem_cons]
  refine and_congr_right fun _ => ⟨fun h r hr => ?_, fun h r hr => ?_⟩
  · exact (validateBrowsing_iff (by decide)).1 (h r (Option.mem_toList.1 hr))
  · exact (validateBrowsing_iff (by decide)).2 (h r (Option.mem_toList.2 hr))

theorem CurrencyPolicy.revision_member (p : CurrencyPolicy) :
    (p.toValue.member (text "revision")).bind Value.text? = some p.revision := rfl

theorem insertedRow_eq_some {row row' : PolicyRow} :
    insertedRow table row = some row' ↔ ∃ p, CurrencyPolicy.ofValue row.policy = some p ∧
      p.revision = row.revision ∧ p.WellFormed ∧ p.Fits (findUnit table) ∧
      row' = ⟨row.revision, p.sorted.toValue⟩ := by
  simp only [insertedRow, validateCurrencyPolicySnapshot, eq_some, readDistinct_entries,
    validateSelected_iff, PolicyRow.checked, decide_eq_true_eq, sql_version_iff]
  constructor
  · rintro ⟨_, ⟨p, hread, hrevision, ⟨hnonempty, hbounded⟩, _, ⟨hentries, hcodes, rfl⟩,
      ⟨⟨hbase, b, hb⟩, hbrowsing⟩, hother, rfl⟩, ⟨hversion, -⟩, rfl⟩
    have hp : p.WellFormed := by
      refine ⟨hrevision ▸ hversion, fun r hr => ?_, hnonempty, hbounded, hcodes, 
        CurrencyPolicy.secondary_iff.1 hother⟩
      rcases CurrencyPolicy.mem_references.1 hr with rfl | hr | ⟨e, he, rfl⟩
      · exact hbase
      · exact (hbrowsing r hr).1
      · exact (hentries e he).1
    refine ⟨p, hread, hrevision, hp, ⟨fun e he => (hentries e he).2,
      ⟨b, CurrencyPolicy.of_entry? hb⟩, fun r hr => ?_⟩, rfl⟩
    obtain ⟨-, e, he, hdisplay, hd⟩ := hbrowsing r hr
    exact ⟨e, (CurrencyPolicy.of_entry? he).1, (CurrencyPolicy.of_entry? he).2, hdisplay, hd⟩
  · rintro ⟨p, hread, hrevision, hp, hfits, rfl⟩
    have hreference := fun r hr => hp.references r (CurrencyPolicy.mem_references.2 hr)
    obtain ⟨b, hb, hunit⟩ := hfits.base
    refine ⟨_, ⟨p, hread, hrevision, ⟨hp.nonempty, hp.bounded⟩, _,
      ⟨fun e he => ⟨hreference _ (.inr (.inr ⟨e, he, rfl⟩)), hfits.entries e he⟩, hp.codes, rfl⟩,
      ⟨⟨hreference _ (.inl rfl), b, hp.entry?_eq_some.2 ⟨hb, hunit⟩⟩, fun r hr => ?_⟩,
        CurrencyPolicy.secondary_iff.2 hp.secondary, rfl⟩,
      ⟨hrevision ▸ hp.revision, ?_⟩, rfl⟩
    · obtain ⟨e, he, hunit, hdisplay, hd⟩ := hfits.browsing r hr
      exact ⟨hreference r (.inr (.inl hr)), e, hp.entry?_eq_some.2 ⟨he, hunit⟩, hdisplay, hd⟩
    · rw [← hrevision]
      exact Option.bind_eq_some_iff.1 (CurrencyPolicy.revision_member _)

theorem insertUnits_eq_some :
    insertUnits [] units = some definitions ↔
      units.mapM schemaPatterns.read = some definitions ∧ Definitions definitions := by
  have hread : sqlPatterns.read = schemaPatterns.read := funext sql_read
  rw [insertUnits, List.map_nil, show (([] : List CurrencyUnitDefinition) ++ ·) = id from rfl,
    Option.map_id_fun, id, readDistinct_eq_some, hread]
  refine and_congr_right fun hmap => ?_
  constructor
  · rintro ⟨hnodup, -⟩
    exact ⟨fun d hd => (exists_of_mapM hmap hd).elim fun _ h => wellFormed_of_read h.2, hnodup⟩
  · rintro ⟨-, hnodup⟩
    exact ⟨hnodup, fun _ _ => List.not_mem_nil⟩

/-! ## The three together -/

/-- The definitions are those of the units that the policy names. -/
def Covers (units : List UnitFacts) (p : CurrencyPolicy) : Prop :=
  ∀ r, r ∈ units.map UnitFacts.reference ↔ r ∈ p.references

/-- The text and its canonical form are short enough. -/
def WithinBudgets (t : Text) (p : CurrencyPolicy) (units : List UnitFacts) : Prop :=
  t.length ≤ contextInputBytes ∧ utf8Length t ≤ contextInputBytes ∧
    ∀ c, copyContext (contextTuple p units) = some c →
      utf8Length c.canonicalText ≤ contextCanonicalBytes

/-- The policy as the database takes it, after its units. -/
def insertContext (p : CurrencyPolicy) (units : List UnitFacts) : Option PolicyRow := do
  let table ← insertUnits [] units
  insertedRow table ⟨p.revision, p.toValue⟩

theorem length_of_covers (hcover : Covers units p) (hp : p.WellFormed)
    (hmap : units.mapM schemaPatterns.read = some definitions) (h : Definitions definitions)
    (hfits : p.Fits (findUnit definitions)) : definitions.length = p.currencies.length := by
  have hunits : (p.currencies.map CurrencyPolicyEntry.unit).Nodup := by
    have := hp.codes
    rw [← Function.comp_def CurrencyPolicyUnitReference.code CurrencyPolicyEntry.unit,
      ← List.map_map] at this
    exact this.of_map _
  have hmentioned : ∀ r, r ∈ p.references → r ∈ p.currencies.map CurrencyPolicyEntry.unit := by
    intro r hr
    obtain ⟨e, he, rfl⟩ := hfits.exists_entry hr
    exact List.mem_map_of_mem he
  have hperm : (definitions.map CurrencyUnitDefinition.reference).Perm
      (p.currencies.map CurrencyPolicyEntry.unit) := by
    refine (List.perm_ext_iff_of_nodup h.distinct hunits).2 fun r => ?_
    rw [map_eq_of_mapM (fun _ _ => reference_of_read) hmap, hcover]
    refine ⟨hmentioned r, fun hr => ?_⟩
    obtain ⟨e, he, rfl⟩ := List.mem_map.1 hr
    exact CurrencyPolicy.mem_references.2 (.inr (.inr ⟨e, he, rfl⟩))
  rw [← List.length_map CurrencyUnitDefinition.reference, hperm.length_eq, List.length_map]

def Accepts (p : CurrencyPolicy) (units : List UnitFacts) : Prop :=
  ∃ definitions, p.WellFormed ∧ units.mapM schemaPatterns.read = some definitions ∧
    Definitions definitions ∧ p.Fits (findUnit definitions)

theorem schema_accepts (hcover : Covers units p) :
    (currencyPolicyContextSchema
      (contextValue p.toValue (.array (units.map UnitFacts.toValue)))).isSome = true ↔
        Accepts p units := by
  rw [Option.isSome_iff_exists]
  simp only [currencyPolicyContextSchema_eq_some, currencyPolicySchema_toValue,
    currencyUnitContextSchema_array]
  constructor
  · rintro ⟨⟨_, definitions⟩, ⟨hp, rfl⟩, ⟨hmap, h, -⟩, hfits⟩
    exact ⟨definitions, hp, hmap, h, hfits⟩
  · rintro ⟨definitions, hp, hmap, h, hfits⟩
    have hlength := length_of_covers hcover hp hmap h hfits
    exact ⟨⟨p, definitions⟩, ⟨hp, rfl⟩,
      ⟨hmap, h, hlength ▸ hp.nonempty, hlength ▸ hp.bounded⟩, hfits⟩

theorem encoder_accepts (hcover : Covers units p)
    {t : Text} (hparse : parse JsNumber.read t = some (contextTuple p units))
    (hbudgets : WithinBudgets t p units) :
    (encodeCurrencyPolicyContext t).isSome = true ↔ Accepts p units := by
  obtain ⟨hlength, hbytes, hcanonical⟩ := hbudgets
  rw [Option.isSome_iff_exists]
  simp only [encodeCurrencyPolicyContext, hparse, eq_some, Option.bind_some]
  constructor
  · rintro ⟨_, -, -, c, hc, -⟩
    obtain ⟨-, hp, hmap, h, -, hfits⟩ := copyContext_eq_some.1 hc
    exact ⟨c.definitions, hp, hmap, h, hfits⟩
  · rintro ⟨definitions, hp, hmap, h, hfits⟩
    have hc : copyContext (contextTuple p units) = some ⟨p, definitions⟩ :=
      copyContext_eq_some.2
        ⟨rfl, hp, hmap, h, length_of_covers hcover hp hmap h hfits, hfits⟩
    exact ⟨_, hlength, hbytes, _, hc, hcanonical _ hc, rfl⟩

theorem database_accepts :
    (insertContext p units).isSome = true ↔ Accepts p units := by
  rw [Option.isSome_iff_exists]
  simp only [insertContext, eq_some, insertUnits_eq_some, insertedRow_eq_some,
    CurrencyPolicy.ofValue_toValue]
  constructor
  · rintro ⟨_, definitions, ⟨hmap, h⟩, _, rfl, -, hp, hfits, -⟩
    exact ⟨definitions, hp, hmap, h, hfits⟩
  · rintro ⟨definitions, hp, hmap, h, hfits⟩
    exact ⟨_, definitions, ⟨hmap, h⟩, p, rfl, rfl, hp, hfits, rfl⟩

/-- **The three validators agree.**  For every policy and all definitions that cover the currencies
it mentions, within the byte budgets: the encoder accepts the text of the policy with its definitions
when the schema accepts them, and the schema when the database accepts the row. -/
theorem policy_validators_agree {p : CurrencyPolicy} {units : List UnitFacts}
    (hcover : Covers units p) {t : Text}
    (hparse : parse JsNumber.read t = some (contextTuple p units))
    (hbudgets : WithinBudgets t p units) :
    ((encodeCurrencyPolicyContext t).isSome = true ↔
      (currencyPolicyContextSchema
        (contextValue p.toValue (.array (units.map UnitFacts.toValue)))).isSome = true) ∧
    ((currencyPolicyContextSchema
      (contextValue p.toValue (.array (units.map UnitFacts.toValue)))).isSome = true ↔
        (insertContext p units).isSome = true) :=
  ⟨(encoder_accepts hcover hparse hbudgets).trans (schema_accepts hcover).symm,
    (schema_accepts hcover).trans database_accepts.symm⟩

/-! ## Two currencies -/

/-- The sort of a list of two. -/
def pairSorted {α : Type} (le : α → α → Bool) : List α → List α
  | [a, b] => if le a b then [a, b] else [b, a]
  | l => l

theorem mergeSort_pair {α : Type} (le : α → α → Bool) {l : List α} (h : l.length = 2) :
    l.mergeSort le = pairSorted le l := by
  obtain ⟨a, b, rfl⟩ := List.length_eq_two.1 h
  simp [List.mergeSort, List.MergeSort.Internal.splitInTwo, List.merge, pairSorted]

def CurrencyPolicyContext.IsPair (c : CurrencyPolicyContext) : Prop :=
  c.policy.currencies.length = 2 ∧ c.definitions.length = 2
deriving Decidable

/-- The canonical text of a context with two currencies, in a form that evaluates. -/
def CurrencyPolicyContext.pairText (c : CurrencyPolicyContext) : Text :=
  let currencies := pairSorted (fun left right => asciiLe left.unit.code right.unit.code)
    c.policy.currencies
  let definitions := pairSorted (fun left right =>
    if left.code = right.code then asciiLe left.metadataVersion right.metadataVersion
    else asciiLe left.code right.code) c.definitions
  stringify printNat (.array [CurrencyPolicy.tuple { c.policy with currencies },
    .array (definitions.map CurrencyUnitDefinition.tuple)])

theorem CurrencyPolicyContext.IsPair.canonicalText {c : CurrencyPolicyContext} (h : c.IsPair) :
    c.canonicalText = c.pairText := by
  rw [CurrencyPolicyContext.canonicalText, sortCapabilities, sortDefinitions, mergeSort_pair _ h.1,
    mergeSort_pair _ h.2]
  rfl

def dollar : UnitFacts := ⟨text "USD", text "v1", .finite 2, text "test", text "current"⟩

def taka : UnitFacts := ⟨text "BDT", text "v2", .finite 2, text "test", text "current"⟩

/-- Taka are the base, dollars are what one browses in. -/
def twoCurrencies : CurrencyPolicy where
  revision := text "r1"
  base := taka.reference
  defaultBrowsing := dollar.reference
  preferredSecondary := some taka.reference
  currencies := [⟨dollar.reference, ⟨true, true, false⟩⟩, ⟨taka.reference, ⟨true, true, true⟩⟩]

def twoCurrenciesTuple : Value ℕ :=
  .array [twoCurrencies.tuple, .array ([dollar, taka].map fun u => .array [.string u.code,
    .string u.metadataVersion, .number 2, .string u.provenance, .string u.status])]

/-- All three validators accept the policy with two currencies. -/
theorem twoCurrencies_accepted :
    (encodeCurrencyPolicyContext (stringify printNat twoCurrenciesTuple)).isSome = true ∧
      (currencyPolicyContextSchema (contextValue twoCurrencies.toValue
        (.array ([dollar, taka].map UnitFacts.toValue)))).isSome = true ∧
      (insertContext twoCurrencies [dollar, taka]).isSome = true := by
  have hcover : Covers [dollar, taka] twoCurrencies := by
    intro r
    simp [CurrencyPolicy.mem_references, twoCurrencies, CurrencyPolicy.browsing, eq_comm]
    tauto
  have hexponent : JsNumber.read (printNat 2) = .finite 2 := by decide +kernel
  have hparse : parse JsNumber.read (stringify printNat twoCurrenciesTuple) =
      some (contextTuple twoCurrencies [dollar, taka]) := by
    rw [parse_stringify JsNumber.read numberText_printNat]
    show some (Value.array [twoCurrencies.tuple, .array ([dollar, taka].map fun u =>
      .array [.string u.code, .string u.metadataVersion, .number (JsNumber.read (printNat 2)),
        .string u.provenance, .string u.status])]) = _
    rw [hexponent]
    rfl
  have hcanonical : (copyContext (contextTuple twoCurrencies [dollar, taka])).all
      (fun c => c.IsPair ∧ utf8Length c.pairText ≤ contextCanonicalBytes) = true := by
    decide +kernel
  have hbudgets : WithinBudgets (stringify printNat twoCurrenciesTuple) twoCurrencies
      [dollar, taka] := by
    refine ⟨by decide +kernel, by decide +kernel, fun c hc => ?_⟩
    rw [hc, Option.all_some, decide_eq_true_eq] at hcanonical
    exact hcanonical.1.canonicalText ▸ hcanonical.2
  obtain ⟨hencoder, hdatabase⟩ := policy_validators_agree hcover hparse hbudgets
  have hstored : (insertContext twoCurrencies [dollar, taka]).isSome = true := by decide +kernel
  exact ⟨hencoder.2 (hdatabase.2 hstored), hdatabase.2 hstored, hstored⟩

end Currency

end WebhostBilling
