import WebhostBilling.Currency.PolicyRules

/-!
# Chains of currency policies

A transition compares the codes of the two bases only while financial history is reported, and never
their metadata versions: the base keeps its code along steps that report history, and its exponent
as long as it keeps its metadata version.
-/

namespace WebhostBilling

open Json Store

namespace Currency

/-! ## One transition -/

structure PolicyStep where
  proposed : Value JsNumber
  expectedRevision : Value JsNumber
  financialHistoryExists : Value JsNumber

/-- The input of `validateCurrencyPolicyTransition`. -/
def PolicyStep.input (step : PolicyStep) (definitions current : Value JsNumber) : Value JsNumber :=
  .object [(text "current", current), (text "proposed", step.proposed),
    (text "definitions", definitions), (text "expectedRevision", step.expectedRevision),
    (text "financialHistoryExists", step.financialHistoryExists)]

theorem definitionsValue_read {v : Value JsNumber} {definitions : List CurrencyUnitDefinition}
    (h : currencyUnitContextSchema v = some definitions) :
    currencyUnitContextSchema (definitionsValue definitions) = some definitions := by
  obtain ⟨items, -, hmap, hds⟩ := currencyUnitContextSchema_eq_some.1 h
  refine (currencyUnitContextSchema_definitionsValue fun d hd => ?_).2 ⟨rfl, hds⟩
  obtain ⟨w, -, hw⟩ := exists_of_mapM hmap hd
  rw [currencyUnitDefinitionSchema, Option.bind_eq_bind, Option.bind_eq_some_iff] at hw
  obtain ⟨u, -, hu⟩ := hw
  exact read_facts hu

theorem currencyPolicyContextSchema_read {policy definitions : Value JsNumber} {p : CurrencyPolicy}
    {ds : List CurrencyUnitDefinition} (hp : currencyPolicySchema policy = some p)
    (hds : currencyUnitContextSchema definitions = some ds) {c : CurrencyPolicyContext} :
    currencyPolicyContextSchema (contextValue p.toValue (definitionsValue ds)) = some c ↔
      currencyPolicyContextSchema (contextValue policy definitions) = some c := by
  have hagain : currencyPolicySchema p.toValue = some p :=
    currencyPolicySchema_toValue.2 ⟨(currencyPolicySchema_eq_some.1 hp).2, rfl⟩
  rw [currencyPolicyContextSchema_eq_some, currencyPolicyContextSchema_eq_some, hagain, hp, hds,
    definitionsValue_read hds]

theorem validateCurrencyPolicyTransition_ok {step : PolicyStep}
    {definitions current : Value JsNumber}
    {c' : CurrencyPolicyContext}
    (h : validateCurrencyPolicyTransition (step.input definitions current) = .ok c') :
    ∃ c, currencyPolicyContextSchema (contextValue current definitions) = some c ∧
      currencyPolicyContextSchema (contextValue step.proposed definitions) = some c' ∧
      step.expectedRevision = .string c.policy.revision ∧ c'.policy.revision ≠ c.policy.revision ∧
      (step.financialHistoryExists = .bool true → c'.policy.base.code = c.policy.base.code) := by
  simp only [validateCurrencyPolicyTransition, eq_ok] at h
  obtain ⟨input, hinput, c, hc, c'', hc'', hrevision, hother, hbase, rfl⟩ := h
  have hmembers : currencyPolicyTransitionInputSchema (step.input definitions current) =
      (currencyPolicySchema current).bind fun p => (currencyPolicySchema step.proposed).bind fun q =>
        (currencyUnitContextSchema definitions).bind fun ds => (step.expectedRevision.text?).bind
          fun revision => (guard (boundedVersion revision = true) : Option Unit).bind fun _ =>
            (step.financialHistoryExists.bool?).bind fun history =>
              some ⟨p, q, ds, revision, history⟩ := rfl
  simp only [hmembers, Option.bind_eq_some_iff, Option.some.injEq] at hinput
  obtain ⟨p, hp, q, hq, ds, hds, revision, htext, -, -, history, hbool, rfl⟩ := hinput
  rw [currencyPolicyContextSchema_read hp hds] at hc
  rw [currencyPolicyContextSchema_read hq hds] at hc''
  refine ⟨c, hc, hc'', ?_, hother, fun hhistory => ?_⟩
  · rw [Value.text?_eq_some.1 htext, ← hrevision]
  · rw [hhistory] at hbool
    cases hbool
    by_contra hne
    exact hbase ⟨rfl, hne⟩

/-! ## Chains -/

def accepted (definitions : Value JsNumber) : Value JsNumber → List PolicyStep → Bool
  | _, [] => true
  | current, step :: steps =>
    (validateCurrencyPolicyTransition (step.input definitions current)).isOk &&
      accepted definitions step.proposed steps

theorem exists_ok_of_isOk {ε α : Type} {r : Except ε α} (h : r.isOk = true) : ∃ a, r = .ok a := by
  cases r with
  | ok a => exact ⟨a, rfl⟩
  | error e => cases h

def policies (first : Value JsNumber) (steps : List PolicyStep) : List (Value JsNumber) :=
  first :: steps.map PolicyStep.proposed

def contextAt (definitions first : Value JsNumber) (steps : List PolicyStep) (k : ℕ) :
    Option CurrencyPolicyContext :=
  (policies first steps)[k]?.bind fun policy =>
    currencyPolicyContextSchema (contextValue policy definitions)

def CurrencyPolicyContext.baseExponent (c : CurrencyPolicyContext) : Option ℕ :=
  (findUnit c.definitions c.policy.base).map CurrencyUnitDefinition.minorUnitExponent

section

variable {definitions first : Value JsNumber} {steps : List PolicyStep}

theorem accepted_step (h : accepted definitions first steps = true) {k : ℕ} {step : PolicyStep}
    (hk : steps[k]? = some step) :
    ∃ c c', contextAt definitions first steps k = some c ∧
      contextAt definitions first steps (k + 1) = some c' ∧
      step.expectedRevision = .string c.policy.revision ∧ c'.policy.revision ≠ c.policy.revision ∧
      (step.financialHistoryExists = .bool true → c'.policy.base.code = c.policy.base.code) := by
  induction steps generalizing first k with
  | nil => cases hk
  | cons s steps ih =>
    rw [accepted, Bool.and_eq_true] at h
    obtain ⟨c', hc'⟩ := exists_ok_of_isOk h.1
    cases k with
    | zero =>
      cases hk
      obtain ⟨c, hcurrent, hproposed, hstep⟩ := validateCurrencyPolicyTransition_ok hc'
      exact ⟨c, c', hcurrent, hproposed, hstep⟩
    | succ k => exact ih h.2 hk

variable {i j : ℕ} {c c' : CurrencyPolicyContext}

theorem accepted_base_code (h : accepted definitions first steps = true) (hij : i ≤ j)
    (hj : j ≤ steps.length) (hhistory : ∀ k step, i ≤ k → k < j → steps[k]? = some step →
      step.financialHistoryExists = .bool true) (hc : contextAt definitions first steps i = some c)
    (hc' : contextAt definitions first steps j = some c') :
    c'.policy.base.code = c.policy.base.code := by
  induction j, hij using Nat.le_induction generalizing c' with
  | base =>
    rw [hc] at hc'
    cases hc'
    rfl
  | succ j hij ih =>
    have hstep : steps[j]? = some steps[j] := List.getElem?_eq_getElem hj
    obtain ⟨d, d', hd, hd', -, -, hcode⟩ := accepted_step h hstep
    rw [hc'] at hd'
    cases hd'
    rw [hcode (hhistory j _ hij (Nat.lt_succ_self j) hstep)]
    exact ih (Nat.le_of_succ_le hj)
      (fun k step hik hkj => hhistory k step hik (Nat.lt_succ_of_lt hkj)) hd

theorem baseExponent_isSome {policy : Value JsNumber}
    (h : currencyPolicyContextSchema (contextValue policy definitions) = some c) :
    ∃ d, findUnit c.definitions c.policy.base = some d := by
  obtain ⟨-, -, hfits⟩ := currencyPolicyContextSchema_eq_some.1 h
  obtain ⟨e, he, hunit⟩ := hfits.base
  obtain ⟨d, hd, -⟩ := hfits.entries e he
  exact ⟨d, hunit ▸ hd⟩

theorem baseExponent_eq (hc : contextAt definitions first steps i = some c)
    (hc' : contextAt definitions first steps j = some c') (hbase : c'.policy.base = c.policy.base) :
    ∃ n, c.baseExponent = some n ∧ c'.baseExponent = some n := by
  obtain ⟨policy, -, hschema⟩ := Option.bind_eq_some_iff.1 hc
  obtain ⟨policy', -, hschema'⟩ := Option.bind_eq_some_iff.1 hc'
  have hds := (currencyPolicyContextSchema_eq_some.1 hschema).2.1
  have hds' := (currencyPolicyContextSchema_eq_some.1 hschema').2.1
  rw [hds, Option.some.injEq] at hds'
  obtain ⟨d, hd⟩ := baseExponent_isSome hschema
  refine ⟨d.minorUnitExponent, ?_, ?_⟩
  · rw [CurrencyPolicyContext.baseExponent, hd, Option.map_some]
  · rw [CurrencyPolicyContext.baseExponent, hbase, ← hds', hd, Option.map_some]

/-- **The base along a chain of transitions.**  Every step is taken between two valid contexts and
expects the revision of the first.  From a step that reports financial history on, for as long as
every step reports it, the base keeps its code; and it keeps its exponent where it keeps its metadata
version. -/
theorem base_along_chain (h : accepted definitions first steps = true) :
    (∀ k step, steps[k]? = some step → ∃ c c', contextAt definitions first steps k = some c ∧
      contextAt definitions first steps (k + 1) = some c' ∧
      step.expectedRevision = .string c.policy.revision) ∧
    ∀ i j c c', i ≤ j → contextAt definitions first steps i = some c →
      contextAt definitions first steps j = some c' →
      (∀ k step, i ≤ k → k < j → steps[k]? = some step →
        step.financialHistoryExists = .bool true) →
      c'.policy.base.code = c.policy.base.code ∧
        (c'.policy.base.metadataVersion = c.policy.base.metadataVersion →
          ∃ n, c.baseExponent = some n ∧ c'.baseExponent = some n) := by
  refine ⟨fun k step hk => ?_, fun i j c c' hij hc hc' hhistory => ?_⟩
  · obtain ⟨c, c', hc, hc', hrevision, -⟩ := accepted_step h hk
    exact ⟨c, c', hc, hc', hrevision⟩
  · have hj : j ≤ steps.length := by
      obtain ⟨policy, hpolicy, -⟩ := Option.bind_eq_some_iff.1 hc'
      have hlt := (List.getElem?_eq_some_iff.1 hpolicy).1
      rw [policies, List.length_cons, List.length_map] at hlt
      omega
    have hcode := accepted_base_code h hij hj hhistory hc hc'
    refine ⟨hcode, fun hversion => baseExponent_eq hc hc' ?_⟩
    cases hbase : c.policy.base
    cases hbase' : c'.policy.base
    rw [hbase, hbase'] at hcode hversion
    cases hcode
    cases hversion
    rfl

end

/-! ## Two metadata versions of one currency -/

def singlePolicy (revision : Text) (unit : CurrencyPolicyUnitReference) : Value JsNumber :=
  CurrencyPolicy.toValue ⟨revision, unit, unit, none, [⟨unit, ⟨true, true, true⟩⟩]⟩

def thousandths : CurrencyUnitDefinition := ⟨text "XAA", text "v1", 3, text "test", .current⟩

def hundredths : CurrencyUnitDefinition := ⟨text "XAA", text "v2", 2, text "test", .current⟩

def otherUnit : CurrencyUnitDefinition := ⟨text "XBB", text "v1", 2, text "test", .current⟩

def someDefinitions : Value JsNumber := definitionsValue [thousandths, hundredths, otherUnit]

/-- With financial history, from one metadata version of the base to the next. -/
def versionSteps : List PolicyStep :=
  [⟨singlePolicy (text "r2") hundredths.reference, .string (text "r1"), .bool true⟩]

def forgottenSteps : List PolicyStep :=
  [⟨singlePolicy (text "r2") thousandths.reference, .string (text "r1"), .bool true⟩,
    ⟨singlePolicy (text "r3") otherUnit.reference, .string (text "r2"), .bool false⟩]

def firstPolicy : Value JsNumber := singlePolicy (text "r1") thousandths.reference

/-- A step that reports financial history keeps the code of the base and changes its exponent, and
history that is no longer reported does not keep the code. -/
theorem base_exponent_changed :
    (accepted someDefinitions firstPolicy versionSteps = true ∧
      ((contextAt someDefinitions firstPolicy versionSteps 0).bind (·.baseExponent)) = some 3 ∧
      ((contextAt someDefinitions firstPolicy versionSteps 1).bind (·.baseExponent)) = some 2) ∧
    accepted someDefinitions firstPolicy forgottenSteps = true ∧
      (contextAt someDefinitions firstPolicy forgottenSteps 1).map (·.policy.base.code) =
        some (text "XAA") ∧
      (contextAt someDefinitions firstPolicy forgottenSteps 2).map (·.policy.base.code) =
        some (text "XBB") := by
  decide +kernel

/-- The currency keeps its code while its metadata version changes. -/
theorem base_along_versionSteps :
    accepted someDefinitions firstPolicy versionSteps = true ∧
      ∀ c c', contextAt someDefinitions firstPolicy versionSteps 0 = some c →
        contextAt someDefinitions firstPolicy versionSteps 1 = some c' →
        c'.policy.base.code = c.policy.base.code := by
  have haccepted : accepted someDefinitions firstPolicy versionSteps = true := by decide +kernel
  refine ⟨haccepted, fun c c' hc hc' =>
    ((base_along_chain haccepted).2 0 1 c c' (by decide) hc hc' fun k step _ hk hstep => ?_).1⟩
  obtain rfl : k = 0 := by omega
  cases hstep
  rfl

end Currency

end WebhostBilling
