import WebhostBilling.Currency.CanonicalPolicies

/-!
# Policies among concurrent callers

A row is stored once and stays; a policy is stored in its canonical form, with the definitions of
all its units at hand.  A caller, on the client or in a transaction, is told the context of a row
that it sees, so two callers that are told of one revision are told the same.
-/

namespace WebhostBilling

open Concurrency Config Json Store Versions

namespace Currency

/-! ## The store -/

def StoredPolicy (s : CurrencyStore) (viewer : Option ℕ) (row : PolicyRow) : Prop :=
  ∃ p : CurrencyPolicy, row = ⟨p.revision, p.toValue⟩ ∧ p.WellFormed ∧ p.sorted = p ∧
    ∀ r ∈ p.references, ∃ d ∈ s.units.visible viewer, d.reference = r

structure StoreOk (s : CurrencyStore) : Prop where
  units : s.units.Keyed CurrencyUnitDefinition.reference
  revisions : s.revisions.Keyed PolicyRow.revision
  stored : ∀ x ∈ s.units.rows, x.2.Stored
  policies : ∀ x ∈ s.revisions.rows, StoredPolicy s x.1 x.2

/-- What the viewer sees stays visible. -/
structure Sees (viewer : Option ℕ) (s s' : CurrencyStore) : Prop where
  units : ∀ d ∈ s.units.visible viewer, d ∈ s'.units.visible viewer
  revisions : ∀ row ∈ s.revisions.visible viewer, row ∈ s'.revisions.visible viewer

section

variable {s s' : CurrencyStore} {viewer : Option ℕ} {row : PolicyRow}

theorem Sees.refl (viewer : Option ℕ) (s : CurrencyStore) : Sees viewer s s :=
  ⟨fun _ h => h, fun _ h => h⟩

theorem Sees.trans {s'' : CurrencyStore} (h : Sees viewer s s') (h' : Sees viewer s' s'') :
    Sees viewer s s'' :=
  ⟨fun d hd => h'.units d (h.units d hd), fun r hr => h'.revisions r (h.revisions r hr)⟩

theorem StoredPolicy.mono (h : StoredPolicy s viewer row) {viewer' : Option ℕ}
    (hsees : ∀ d ∈ s.units.visible viewer, d ∈ s'.units.visible viewer') :
    StoredPolicy s' viewer' row := by
  obtain ⟨p, hrow, hp, hsorted, hunits⟩ := h
  exact ⟨p, hrow, hp, hsorted, fun r hr =>
    (hunits r hr).imp fun d hd => ⟨hsees d hd.1, hd.2⟩⟩

theorem StoreOk.visible_stored (h : StoreOk s) : ∀ d ∈ s.units.visible viewer, d.Stored :=
  fun _ hd => (mem_visible.1 hd).elim (h.stored _) (h.stored _)

theorem StoreOk.visible_policy (h : StoreOk s) (hrow : row ∈ s.revisions.visible viewer) :
    StoredPolicy s viewer row := by
  rcases mem_visible.1 hrow with hmem | hmem
  · exact (h.policies _ hmem).mono fun _ => mem_visible_of_committed
  · exact h.policies _ hmem

theorem storeOk_empty : StoreOk .empty where
  units := List.nodup_nil
  revisions := List.nodup_nil
  stored _ h := absurd h List.not_mem_nil
  policies _ h := absurd h List.not_mem_nil

/-! ### Ending a transaction -/

theorem sees_commit (k : ℕ) : Sees viewer s (s.commit k) :=
  ⟨fun _ => visible_commit, fun _ => visible_commit⟩

theorem StoreOk.commit (h : StoreOk s) (k : ℕ) : StoreOk (s.commit k) where
  units := h.units.commit k
  revisions := h.revisions.commit k
  stored x hx := by
    obtain ⟨y, hy, rfl⟩ := mem_commit hx
    exact h.stored y hy
  policies x hx := by
    obtain ⟨y, hy, rfl⟩ := mem_commit hx
    refine (h.policies y hy).mono fun d hd => ?_
    by_cases howner : y.1 = some k
    · rw [if_pos howner]
      exact committed_commit (howner ▸ hd)
    · rw [if_neg howner]
      exact visible_commit hd

theorem sees_rollback {k : ℕ} (hviewer : viewer ≠ some k) : Sees viewer s (s.rollback k) :=
  ⟨fun _ h => visible_rollback h hviewer, fun _ h => visible_rollback h hviewer⟩

theorem StoreOk.rollback (h : StoreOk s) (k : ℕ) : StoreOk (s.rollback k) where
  units := h.units.rollback k
  revisions := h.revisions.rollback k
  stored x hx := h.stored x (mem_rollback.1 hx).1
  policies x hx := by
    obtain ⟨hmem, howner⟩ := mem_rollback.1 hx
    exact (h.policies x hmem).mono fun d hd => visible_rollback hd howner

/-! ## What callers are told -/

structure Returned (s : CurrencyStore) (viewer : Option ℕ) (c : CurrencyPolicyContext) : Prop where
  row : ⟨c.policy.revision, c.policy.toValue⟩ ∈ s.revisions.visible viewer
  units : ∀ d ∈ c.definitions, d ∈ s.units.visible viewer
  references : c.definitions.map CurrencyUnitDefinition.reference =
    c.policy.currencies.map CurrencyPolicyEntry.unit

variable {c input : CurrencyPolicyContext} {result : Result} {value : Value JsNumber}

theorem Returned.mono (h : Returned s viewer c) (hsees : Sees viewer s s') : Returned s' viewer c :=
  ⟨hsees.revisions _ h.row, fun d hd => hsees.units d (h.units d hd), h.references⟩

theorem StoreOk.returned_unique (h : StoreOk s) {c' : CurrencyPolicyContext}
    (hc : Returned s viewer c) (hc' : Returned s viewer c')
    (hrevision : c.policy.revision = c'.policy.revision) : c = c' := by
  have hrow := h.revisions.eq_of_visible hc.row hc'.row hrevision
  have hvalue : CurrencyPolicy.ofValue c.policy.toValue = CurrencyPolicy.ofValue c'.policy.toValue :=
    congrArg (fun row => CurrencyPolicy.ofValue row.policy) hrow
  rw [CurrencyPolicy.ofValue_toValue, CurrencyPolicy.ofValue_toValue, Option.some.injEq] at hvalue
  have hreferences : c.definitions.map CurrencyUnitDefinition.reference =
      c'.definitions.map CurrencyUnitDefinition.reference := by
    rw [hc.references, hc'.references, hvalue]
  have hdefinitions : c.definitions = c'.definitions := by
    refine List.ext_getElem (by simpa using congrArg List.length hreferences) fun i hi hi' => ?_
    have hi_eq := List.getElem_of_eq hreferences (i := i) (by simpa using hi)
    rw [List.getElem_map, List.getElem_map] at hi_eq
    exact h.units.eq_of_visible (hc.units _ (List.getElem_mem hi))
      (hc'.units _ (List.getElem_mem hi')) hi_eq
  obtain ⟨_, _⟩ := c
  obtain ⟨_, _⟩ := c'
  cases hvalue
  cases hdefinitions
  rfl

def OutcomeOk (s : CurrencyStore) (viewer : Option ℕ) : Outcome → Prop
  | .unitAppended d => d ∈ s.units.visible viewer
  | .unitsRead ds => ∀ d ∈ ds, d ∈ s.units.visible viewer
  | .policyAppended value c => Returned s viewer c ∧ canonicalPolicy value = .ok c.policy
  | .policyRead revision c => Returned s viewer c ∧ c.policy.revision = revision
  | .policyConflict _ count => count = 0
  | .failed _ => True

/-- What is known between two statements of a call. -/
def ProgressOk (s : CurrencyStore) (viewer : Option ℕ) : Progress → Prop
  | .ready | .unitInserted _ => True
  | .policyChecked value input => canonicalPolicy value = .ok input.policy
  | .policyInserted value input count => canonicalPolicy value = .ok input.policy ∧
      (count ≠ 0 → ⟨input.policy.revision, input.policy.toValue⟩ ∈ s.revisions.visible viewer)
  | .policyFound value input count row => canonicalPolicy value = .ok input.policy ∧
      (count ≠ 0 → ⟨input.policy.revision, input.policy.toValue⟩ ∈ s.revisions.visible viewer) ∧
      row ∈ s.revisions.visible viewer ∧ row.revision = input.policy.revision
  | .revisionFound revision row => row ∈ s.revisions.visible viewer ∧ row.revision = revision

variable {outcome : Outcome} {progress : Progress} {revision : Text} {count : ℕ}

theorem OutcomeOk.mono (h : OutcomeOk s viewer outcome) (hsees : Sees viewer s s') :
    OutcomeOk s' viewer outcome := by
  cases outcome with
  | unitAppended d => exact hsees.units d h
  | unitsRead ds => exact fun d hd => hsees.units d (h d hd)
  | policyAppended value c | policyRead revision c => exact ⟨h.1.mono hsees, h.2⟩
  | policyConflict value count => exact h
  | failed e => trivial

theorem OutcomeOk.committed {k : ℕ} (h : OutcomeOk s (some k) outcome) :
    OutcomeOk (s.commit k) none outcome := by
  have hreturned : ∀ c, Returned s (some k) c → Returned (s.commit k) none c := fun c hc =>
    ⟨committed_commit hc.row, fun d hd => committed_commit (hc.units d hd),
      hc.references⟩
  cases outcome with
  | unitAppended d => exact committed_commit h
  | unitsRead ds => exact fun d hd => committed_commit (h d hd)
  | policyAppended value c | policyRead revision c => exact ⟨hreturned c h.1, h.2⟩
  | policyConflict value count => exact h
  | failed e => trivial

theorem ProgressOk.mono (h : ProgressOk s viewer progress) (hsees : Sees viewer s s') :
    ProgressOk s' viewer progress := by
  cases progress with
  | ready | unitInserted d => trivial
  | policyChecked value input => exact h
  | policyInserted value input count => exact ⟨h.1, fun hn => hsees.revisions _ (h.2 hn)⟩
  | policyFound value input count row =>
    exact ⟨h.1, fun hn => hsees.revisions _ (h.2.1 hn), hsees.revisions _ h.2.2.1, h.2.2.2⟩
  | revisionFound revision row => exact ⟨hsees.revisions _ h.1, h.2⟩

/-! ## Statements -/

def ResultOk (s : CurrencyStore) (viewer : Option ℕ) : Result → Prop
  | .goes progress => ProgressOk s viewer progress
  | .returns outcome => OutcomeOk s viewer outcome
  | .aborts => True

structure StatementOk (s s' : CurrencyStore) (viewer : Option ℕ) (result : Result) : Prop where
  store : StoreOk s'
  sees : ∀ v, Sees v s s'
  transactions : s'.transactions = s.transactions
  result : ResultOk s' viewer result

theorem StoreOk.unchanged (h : StoreOk s) (hresult : ResultOk s viewer result) :
    StatementOk s s viewer result :=
  ⟨h, fun v => .refl v s, rfl, hresult⟩

theorem StoreOk.context_of_row (h : StoreOk s) (hrow : row ∈ s.revisions.visible viewer)
    (hc : context (s.units.visible viewer) row.policy = .ok c) :
    Returned s viewer c ∧ row = ⟨c.policy.revision, c.policy.toValue⟩ := by
  obtain ⟨p, rfl, hp, hsorted, -⟩ := h.visible_policy hrow
  obtain ⟨hcanonical, hunits, hreferences⟩ := context_ok h.visible_stored hc
  rw [canonicalPolicy_toValue hp hsorted, Except.ok.injEq] at hcanonical
  subst hcanonical
  exact ⟨⟨hrow, hunits, hreferences⟩, rfl⟩

theorem insertUnit_ok (h : StoreOk s)
    (hstep : insertUnit s viewer value = some (s', result)) : StatementOk s s' viewer result := by
  rw [insertUnit] at hstep
  split at hstep
  · cases hstep
    exact h.unchanged trivial
  · rename_i definition _
    split at hstep
    · cases hstep
      exact h.unchanged trivial
    · rename_i d hread
      obtain ⟨⟨t, n⟩, hinsert, heq⟩ := Option.map_eq_some_iff.1 hstep
      cases heq
      rw [sql_read] at hread
      have hsees : ∀ v, Sees v s { s with units := t } := fun v =>
        ⟨fun _ => visible_insertNew hinsert, fun _ hr => hr⟩
      refine ⟨⟨h.units.insertNew hinsert, h.revisions, fun x hx => ?_, fun x hx =>
        (h.policies x hx).mono (hsees x.1).units⟩, hsees, rfl, trivial⟩
      rcases mem_insertNew hinsert hx with hold | rfl
      · exact h.stored x hold
      · exact read_facts hread

theorem findInsertedUnit_ok (h : StoreOk s) (definition : CurrencyUnitDefinition) :
    ResultOk s viewer (findInsertedUnit s viewer definition) := by
  rw [findInsertedUnit]
  split
  · trivial
  · rename_i stored hfind
    split
    · trivial
    · rename_i result hparse
      split
      · trivial
      · have hmem : stored ∈ s.units.visible viewer := List.mem_of_find?_eq_some hfind
        have hstored := h.visible_stored stored hmem
        rw [parseDefinition_eq_ok, hstored, Option.some.injEq] at hparse
        exact hparse ▸ hmem

theorem readUnits_ok (h : StoreOk s) (references : List CurrencyPolicyUnitReference) :
    ResultOk s viewer (readUnits s viewer references) := by
  rw [readUnits]
  split
  · trivial
  · rename_i definitions hread
    exact (readExactCurrencyUnits_ok h.visible_stored hread).1

theorem checkPolicy_ok (h : StoreOk s) (value : Value JsNumber) :
    ResultOk s viewer (checkPolicy s viewer value) := by
  rw [checkPolicy]
  split
  · trivial
  · rename_i input hcontext
    exact (context_ok h.visible_stored hcontext).1

theorem insertPolicy_ok (h : StoreOk s) (hinput : canonicalPolicy value = .ok input.policy)
    (hstep : insertPolicy s viewer value input = some (s', result)) :
    StatementOk s s' viewer result := by
  rw [insertPolicy] at hstep
  split at hstep
  · cases hstep
    exact h.unchanged trivial
  · rename_i row' hrow
    obtain ⟨⟨t, n⟩, hinsert, heq⟩ := Option.map_eq_some_iff.1 hstep
    cases heq
    obtain ⟨hp, hsorted⟩ := canonicalPolicy_wellFormed hinput
    obtain ⟨p, hread, -, -, hfits, hrow⟩ := insertedRow_eq_some.1 hrow
    rw [CurrencyPolicy.ofValue_toValue, Option.some.injEq] at hread
    subst hread
    rw [hsorted] at hrow
    subst hrow
    have hsees : ∀ v, Sees v s { s with revisions := t } := fun v =>
      ⟨fun _ hd => hd, fun _ => visible_insertNew hinsert⟩
    refine ⟨⟨h.units, h.revisions.insertNew hinsert, h.stored, fun x hx => ?_⟩, hsees, rfl, hinput,
      fun hn => ?_⟩
    · rcases mem_insertNew hinsert hx with hold | rfl
      · exact h.policies x hold
      · refine ⟨input.policy, rfl, hp, hsorted, fun r hr => ?_⟩
        obtain ⟨e, he, rfl⟩ := hfits.exists_entry hr
        obtain ⟨d, hd, -⟩ := hfits.entries e he
        have href := List.find?_some hd
        exact ⟨d, List.mem_of_find?_eq_some hd, of_decide_eq_true href⟩
    · obtain ⟨r, hr, -, hrow⟩ := exists_visible_insertNew hinsert
      exact hrow hn ▸ hr

theorem findRevision_eq_some (hfind : findRevision s viewer revision = some row) :
    row ∈ s.revisions.visible viewer ∧ row.revision = revision := by
  have hrevision := List.find?_some hfind
  exact ⟨List.mem_of_find?_eq_some hfind, of_decide_eq_true hrevision⟩

theorem findInsertedPolicy_ok
    (hprogress : ProgressOk s viewer (.policyInserted value input count)) :
    ResultOk s viewer (findInsertedPolicy s viewer value input count) := by
  rw [findInsertedPolicy]
  split
  · trivial
  · rename_i row hfind
    exact ⟨hprogress.1, hprogress.2, findRevision_eq_some hfind⟩

theorem comparePolicy_ok (h : StoreOk s)
    (hprogress : ProgressOk s viewer (.policyFound value input count row)) :
    ResultOk s viewer (comparePolicy s viewer value input count row) := by
  obtain ⟨hinput, hinserted, hrow, hrevision⟩ := hprogress
  rw [comparePolicy]
  split
  · trivial
  · rename_i result hcontext
    obtain ⟨hreturned, hstored⟩ := h.context_of_row hrow hcontext
    split
    · rename_i hconflict
      by_contra hcount
      -- an inserted row is the one that was found, which has the facts of the submitted policy
      have hsame : row = ⟨input.policy.revision, input.policy.toValue⟩ :=
        h.revisions.eq_of_visible hrow (hinserted hcount) hrevision
      have hvalue := congrArg (fun r => CurrencyPolicy.ofValue r.policy) (hstored.symm.trans hsame)
      simp only [CurrencyPolicy.ofValue_toValue, Option.some.injEq] at hvalue
      rcases hconflict with hne | hne
      · exact hne (congrArg PolicyRow.revision hstored)
      · exact hne (congrArg facts hvalue.symm)
    · rename_i hsame
      rw [not_or, not_not, not_not] at hsame
      rw [facts_inj hsame.2] at hinput
      exact ⟨hreturned, hinput⟩

theorem findPolicy_ok (revision : Text) : ResultOk s viewer (findPolicy s viewer revision) := by
  rw [findPolicy]
  split
  · trivial
  · split
    · trivial
    · rename_i row hfind
      exact findRevision_eq_some hfind

theorem readPolicy_ok (h : StoreOk s)
    (hprogress : ProgressOk s viewer (.revisionFound revision row)) :
    ResultOk s viewer (readPolicy s viewer revision row) := by
  rw [readPolicy]
  split
  · trivial
  · rename_i result hcontext
    split
    · trivial
    · rename_i hsame
      rw [not_or, not_not, not_not] at hsame
      exact ⟨(h.context_of_row hprogress.1 hcontext).1, hsame.2⟩

theorem Call.statement_ok (h : StoreOk s) {call : Call}
    (hstep : call.statement s viewer = some (s', result)) : StatementOk s s' viewer result := by
  cases call with
  | appendCurrencyUnit value => exact insertUnit_ok h hstep
  | readExactCurrencyUnits references =>
    cases hstep
    exact h.unchanged (readUnits_ok h references)
  | appendCurrencyPolicyRevision value =>
    cases hstep
    exact h.unchanged (checkPolicy_ok h value)
  | readExactCurrencyPolicyRevision revision =>
    cases hstep
    exact h.unchanged (findPolicy_ok revision)

theorem Progress.statement_ok (h : StoreOk s) (hprogress : ProgressOk s viewer progress)
    (hstep : progress.statement s viewer = some (s', result)) :
    StatementOk s s' viewer result := by
  cases progress with
  | ready => cases hstep
  | unitInserted definition =>
    cases hstep
    exact h.unchanged (findInsertedUnit_ok h definition)
  | policyChecked value input => exact insertPolicy_ok h hprogress hstep
  | policyInserted value input count =>
    cases hstep
    exact h.unchanged (findInsertedPolicy_ok hprogress)
  | policyFound value input count row =>
    cases hstep
    exact h.unchanged (comparePolicy_ok h hprogress)
  | revisionFound revision row =>
    cases hstep
    exact h.unchanged (readPolicy_ok h hprogress)

/-! ## Callers -/

def Session.transaction : Session → Option ℕ
  | running viewer _ _ _ => viewer
  | _ => none

def SessionOk (s : CurrencyStore) : Session → Prop
  | .running viewer _ progress outcomes => (∀ k ∈ viewer, k < s.transactions) ∧
      ProgressOk s viewer progress ∧ ∀ o ∈ outcomes, OutcomeOk s viewer o
  | .ended outcomes => ∀ o ∈ outcomes, OutcomeOk s none o
  | .waiting _ _ | .rolledBack => True

structure SessionStepOk (s s' : CurrencyStore) (l l' : Session) : Prop where
  store : StoreOk s'
  session : SessionOk s' l'
  sees : ∀ v, (∀ k ∈ l.transaction, v ≠ some k) → Sees v s s'
  transactions : s.transactions ≤ s'.transactions
  transaction : ∀ k ∈ l'.transaction, k ∈ l.transaction ∨ k = s.transactions

variable {calls : List Call} {outcomes : List Outcome}

variable {l : Session}

theorem SessionOk.mono (h : SessionOk s l)
    (hsees : ∀ v, (v = none ∨ v = l.transaction) → Sees v s s')
    (htransactions : s.transactions ≤ s'.transactions) : SessionOk s' l := by
  cases l with
  | waiting transactional calls => trivial
  | running viewer calls progress outcomes =>
    obtain ⟨hk, hprogress, houtcomes⟩ := h
    have hviewer := hsees viewer (.inr rfl)
    exact ⟨fun k hmem => Nat.lt_of_lt_of_le (hk k hmem) htransactions, hprogress.mono hviewer,
      fun o ho => (houtcomes o ho).mono hviewer⟩
  | ended outcomes => exact fun o ho => (h o ho).mono (hsees none (.inl rfl))
  | rolledBack => trivial

theorem SessionOk.transaction_lt (h : SessionOk s l) {k : ℕ} (hk : k ∈ l.transaction) :
    k < s.transactions := by
  cases l with
  | running viewer calls progress outcomes => exact h.1 k hk
  | _ => cases hk

theorem SessionOk.returned (h : SessionOk s l) :
    ∀ o ∈ l.returned, OutcomeOk s none o := by
  cases l with
  | running viewer calls progress outcomes =>
    cases viewer with
    | none => exact h.2.2
    | some k => exact fun _ ho => absurd ho List.not_mem_nil
  | ended outcomes => exact h
  | _ => exact fun _ ho => absurd ho List.not_mem_nil

theorem giveUp_ok (h : StoreOk s) (hl : SessionOk s (.running viewer calls progress outcomes)) :
    SessionStepOk s (giveUp s viewer outcomes).1 (.running viewer calls progress outcomes)
      (giveUp s viewer outcomes).2 := by
  cases viewer with
  | none => exact ⟨h, hl.2.2, fun v _ => .refl v s, Nat.le_refl _, fun _ hk => nomatch hk⟩
  | some k =>
    exact ⟨h.rollback k, trivial, fun v hv => sees_rollback (hv k rfl), Nat.le_refl _,
      fun _ hk => nomatch hk⟩

theorem finish_ok (h : StoreOk s) (hl : SessionOk s (.running viewer calls progress outcomes)) :
    SessionStepOk s (finish s viewer outcomes).1 (.running viewer calls progress outcomes)
      (finish s viewer outcomes).2 := by
  cases viewer with
  | none => exact ⟨h, hl.2.2, fun v _ => .refl v s, Nat.le_refl _, fun _ hk => nomatch hk⟩
  | some k =>
    refine ⟨h.commit k, fun o ho => ?_, fun v _ => sees_commit k, Nat.le_refl _,
      fun _ hk => nomatch hk⟩
    exact (hl.2.2 o ho).committed

theorem goOn_ok (hl : SessionOk s (.running viewer calls progress outcomes))
    (h : StatementOk s s' viewer result) (calls' : List Call) :
    SessionStepOk s (goOn viewer calls' outcomes s' result).1
      (.running viewer calls progress outcomes) (goOn viewer calls' outcomes s' result).2 := by
  have hk : ∀ k ∈ viewer, k < s'.transactions := fun k hk => h.transactions ▸ hl.1 k hk
  have houtcomes : ∀ o ∈ outcomes, OutcomeOk s' viewer o := fun o ho =>
    (hl.2.2 o ho).mono (h.sees viewer)
  have hmore : ∀ o, OutcomeOk s' viewer o → ∀ o' ∈ outcomes ++ [o], OutcomeOk s' viewer o' := by
    intro o ho o' ho'
    rcases List.mem_append.1 ho' with hmem | hmem
    · exact houtcomes o' hmem
    · exact List.mem_singleton.1 hmem ▸ ho
  have htransactions : s.transactions ≤ s'.transactions := Nat.le_of_eq h.transactions.symm
  cases result with
  | goes progress' =>
    exact ⟨h.store, ⟨hk, h.result, houtcomes⟩, fun v _ => h.sees v, htransactions,
      fun k hmem => .inl hmem⟩
  | returns outcome =>
    exact ⟨h.store, ⟨hk, trivial, hmore outcome h.result⟩, fun v _ => h.sees v, htransactions,
      fun k hmem => .inl hmem⟩
  | aborts =>
    have hready : SessionOk s' (.running viewer calls' .ready (outcomes ++ [.failed .database])) :=
      ⟨hk, trivial, hmore (.failed .database) trivial⟩
    have hgiveUp := giveUp_ok h.store hready
    refine ⟨hgiveUp.store, hgiveUp.session, fun v hv => (h.sees v).trans (hgiveUp.sees v hv),
      htransactions.trans hgiveUp.transactions, fun k hmem => ?_⟩
    exact (hgiveUp.transaction k hmem).imp_right (h.transactions ▸ ·)

theorem Session.step_begun (hprogress : progress ≠ .ready) :
    (running viewer calls progress outcomes).step false s =
      (progress.statement s viewer).map fun out => goOn viewer calls outcomes out.1 out.2 := by
  cases progress with
  | ready => exact absurd rfl hprogress
  | _ => rfl

theorem Session.step_ok (h : StoreOk s) {l' : Session} (hl : SessionOk s l) {givesUp : Bool}
    (hstep : l.step givesUp s = some (s', l')) : SessionStepOk s s' l l' := by
  cases l with
  | waiting transactional calls =>
    cases transactional with
    | false =>
      cases hstep
      exact ⟨h, ⟨(fun _ hk => nomatch hk), trivial, fun _ ho => absurd ho List.not_mem_nil⟩,
        fun v _ => .refl v s, Nat.le_refl _, fun _ hk => nomatch hk⟩
    | true =>
      cases hstep
      refine ⟨⟨h.units, h.revisions, h.stored, fun x hx =>
        (h.policies x hx).mono fun _ hd => hd⟩, ⟨fun k hk => ?_, trivial,
        fun _ ho => absurd ho List.not_mem_nil⟩, fun v _ => ⟨fun _ hd => hd, fun _ hr => hr⟩,
        Nat.le_succ _, fun k hk => .inr (Option.some.inj hk).symm⟩
      exact Option.some.inj hk ▸ Nat.lt_succ_self _
  | running viewer calls progress outcomes =>
    cases givesUp with
    | true =>
      have hgiveUp := giveUp_ok h hl
      rwa [show giveUp s viewer outcomes = (s', l') from Option.some.inj hstep] at hgiveUp
    | false =>
      by_cases hready : progress = .ready
      · subst hready
        cases calls with
        | nil =>
          have hfinish := finish_ok h hl
          rwa [show finish s viewer outcomes = (s', l') from Option.some.inj hstep] at hfinish
        | cons call calls =>
          obtain ⟨⟨s₁, result⟩, hstatement, heq⟩ := Option.map_eq_some_iff.1 hstep
          have hgoOn := goOn_ok hl (Call.statement_ok h hstatement) calls
          rwa [heq] at hgoOn
      · rw [Session.step_begun hready] at hstep
        obtain ⟨⟨s₁, result⟩, hstatement, heq⟩ := Option.map_eq_some_iff.1 hstep
        have hgoOn := goOn_ok hl (Progress.statement_ok h hl.2.1 hstatement) calls
        rwa [heq] at hgoOn
  | ended outcomes | rolledBack => cases hstep

end

/-! ## All callers together -/

def sessionOutline : Outline currencyOperations where
  shared := StoreOk
  thread s t := SessionOk s t.loc
  apart t u := ∀ k ∈ t.loc.transaction, k ∉ u.loc.transaction

theorem sessionOutline_sound : sessionOutline.Sound anyStep where
  symm _ _ h k hk hk' := h k hk' hk
  call _ _ _ _ := trivial
  call_apart _ _ _ _ hk := nomatch hk
  own w s t s' t' _ h ht hstep := by
    obtain ⟨l, hl, rfl⟩ := Thread.step_eq_some hstep
    have hok := Session.step_ok h ht hl
    exact ⟨hok.store, hok.session⟩
  other w s t s' t' u _ h ht hu hapart hstep := by
    obtain ⟨l, hl, rfl⟩ := Thread.step_eq_some hstep
    have hok := Session.step_ok h ht hl
    refine ⟨SessionOk.mono hu (fun v hv => hok.sees v fun k hk heq => ?_) hok.transactions,
      fun k hk hk' => ?_⟩
    · rcases hv with rfl | rfl
      · cases heq
      · exact hapart k hk heq
    · rcases hok.transaction k hk with hold | rfl
      · exact hapart k hold hk'
      · exact Nat.lt_irrefl _ (SessionOk.transaction_lt hu hk')

def Outcome.context? : Outcome → Option CurrencyPolicyContext
  | policyAppended _ c | policyRead _ c => some c
  | _ => none

/-- What holds in every configuration: callers that were told of one revision were told the same, and
that it is what they submitted or asked for; an append whose facts conflict with the stored ones is not
among those that succeeded, and inserted nothing; the stored revisions have all their units. -/
structure RevisionsAgree (c : Config currencyOperations) : Prop where
  agreed : ∀ t ∈ c.threads, ∀ u ∈ c.threads, ∀ o ∈ t.loc.returned, ∀ o' ∈ u.loc.returned,
    ∀ r ∈ o.context?, ∀ r' ∈ o'.context?, r.policy.revision = r'.policy.revision → r = r'
  submitted : ∀ t ∈ c.threads, ∀ value r, .policyAppended value r ∈ t.loc.returned →
    canonicalPolicy value = .ok r.policy
  requested : ∀ t ∈ c.threads, ∀ revision r, .policyRead revision r ∈ t.loc.returned →
    r.policy.revision = revision
  rejected : ∀ row ∈ c.shared.revisions.visible none, ∀ value p, canonicalPolicy value = .ok p →
    row.revision = p.revision → row.policy ≠ p.toValue → ∀ t ∈ c.threads, ∀ r,
      .policyAppended value r ∉ t.loc.returned
  unchanged : ∀ t ∈ c.threads, ∀ value count, .policyConflict value count ∈ t.loc.returned →
    count = 0
  stored : ∀ row ∈ c.shared.revisions.visible none, ∃ p : CurrencyPolicy,
    row = ⟨p.revision, p.toValue⟩ ∧ ∀ r ∈ p.references,
      ∃ d ∈ c.shared.units.visible none, d.reference = r

theorem OutcomeOk.returned {s : CurrencyStore} {o : Outcome} (h : OutcomeOk s none o)
    {r : CurrencyPolicyContext} (hr : r ∈ o.context?) : Returned s none r := by
  cases o with
  | policyAppended value c | policyRead revision c => exact Option.some.inj hr ▸ h.1
  | _ => cases hr

theorem Outline.Holds.revisionsAgree {c : Config currencyOperations}
    (h : sessionOutline.Holds c) : RevisionsAgree c where
  agreed t ht u hu o ho o' ho' r hr r' hr' hrevision :=
    h.shared.returned_unique ((SessionOk.returned (h.thread t ht) o ho).returned hr)
      ((SessionOk.returned (h.thread u hu) o' ho').returned hr') hrevision
  submitted t ht value r hr := (SessionOk.returned (h.thread t ht) _ hr).2
  requested t ht revision r hr := (SessionOk.returned (h.thread t ht) _ hr).2
  rejected row hrow value p hp hrevision hne t ht r hr := by
    obtain ⟨hreturned, hsubmitted⟩ := SessionOk.returned (h.thread t ht) _ hr
    obtain rfl := Except.ok.inj (hp.symm.trans hsubmitted)
    have hsame := h.shared.revisions.eq_of_visible hrow hreturned.row hrevision
    exact hne (congrArg PolicyRow.policy hsame)
  unchanged t ht value count hc := SessionOk.returned (h.thread t ht) _ hc
  stored row hrow := by
    obtain ⟨p, heq, -, -, hunits⟩ := h.shared.visible_policy hrow
    exact ⟨p, heq, hunits⟩

theorem insertPolicy_of_found {s s' : CurrencyStore} {viewer : Option ℕ} {value : Value JsNumber}
    {input : CurrencyPolicyContext} {result : Result}
    (hstep : insertPolicy s viewer value input = some (s', result))
    (hfound : ∃ row ∈ s.revisions.visible viewer, row.revision = input.policy.revision) :
    s' = s := by
  rw [insertPolicy] at hstep
  split at hstep
  · cases hstep
    rfl
  · rename_i row hrow
    obtain ⟨⟨t, n⟩, hinsert, heq⟩ := Option.map_eq_some_iff.1 hstep
    cases heq
    obtain ⟨p, -, -, -, -, rfl⟩ := insertedRow_eq_some.1 hrow
    obtain ⟨r, hr, hrevision⟩ := hfound
    rcases insertNew_cases hinsert with ⟨-, rfl, -⟩ | ⟨-, -, hnew⟩
    · rfl
    · rcases mem_visible.1 hr with hmem | hmem
      · exact absurd hrevision (hnew _ hmem)
      · exact absurd hrevision (hnew _ hmem)

/-- **Policy revisions are immutable and agreed.**  Whatever calls run side by side: the callers agree
on every revision, and a stored row or definition stays as it is; the entries of a submitted policy may
come in any order; and an append that finds the revision changes nothing. -/
theorem policy_revisions_agreed {c : Config currencyOperations}
    (h : Reaches anyStep ⟨.empty, []⟩ c) :
    RevisionsAgree c ∧
      (∀ c', Reaches anyStep c c' → Sees none c.shared c'.shared) ∧
      (∀ v w p q, currencyPolicySchema v = some p → currencyPolicySchema w = some q →
        { p with currencies := q.currencies } = q → p.currencies.Perm q.currencies →
        canonicalPolicy v = canonicalPolicy w) ∧
      ∀ s viewer value input s' result, insertPolicy s viewer value input = some (s', result) →
        (∃ row ∈ s.revisions.visible viewer, row.revision = input.policy.revision) → s' = s := by
  have hholds := sessionOutline_sound.holds (Outline.holds_idle storeOk_empty) h
  refine ⟨Outline.Holds.revisionsAgree hholds, fun c' hc' => ?_,
    fun _ _ _ _ hv hw hsame hperm => canonicalPolicy_of_perm hv hw hsame hperm,
    fun _ _ _ _ _ _ hstep hfound => insertPolicy_of_found hstep hfound⟩
  refine sessionOutline_sound.related (Sees.refl none) (fun _ _ _ => Sees.trans)
    (fun w s t s' t' _ hs ht hstep => ?_) hholds hc'
  obtain ⟨l, hl, rfl⟩ := Thread.step_eq_some hstep
  exact (Session.step_ok hs ht hl).sees none fun k _ heq => nomatch heq

/-! ## Two callers -/

def dollarPolicy : CurrencyPolicy :=
  ⟨text "r1", dollar.reference, dollar.reference, none, [⟨dollar.reference, ⟨true, true, false⟩⟩]⟩

/-- One caller appends a unit and a policy.  Between its check of the policy and its insert another
one appends the same policy, in a transaction, and reads it. -/
def appendMoves : List (Move currencyOperations) :=
  .call () (false, [.appendCurrencyUnit dollar.toValue,
      .appendCurrencyPolicyRevision dollarPolicy.toValue]) ::
    .call () (true, [.appendCurrencyPolicyRevision dollarPolicy.toValue,
      .readExactCurrencyPolicyRevision dollarPolicy.revision]) ::
    List.replicate 4 (.advance 0 false) ++ List.replicate 8 (.advance 1 false) ++
    List.replicate 4 (.advance 0 false)

def appendRun : Option (Config currencyOperations) :=
  (⟨.empty, []⟩ : Config currencyOperations).run appendMoves

/-- Both callers succeed, and what they were told is agreed. -/
theorem appended_policy_agreed : ∃ c, appendRun = some c ∧ RevisionsAgree c ∧
    c.threads.map (fun t => t.loc.returned.countP fun o => o.context?.isSome) = [1, 2] := by
  have hrun : (appendRun.any fun c => c.threads.map (fun t =>
      t.loc.returned.countP fun o => o.context?.isSome) = [1, 2]) = true := by
    decide +kernel
  cases hc : appendRun with
  | none =>
    rw [hc] at hrun
    cases hrun
  | some c =>
    rw [hc, Option.any_some, decide_eq_true_eq] at hrun
    exact ⟨c, rfl, (policy_revisions_agreed (reaches_anyStep_of_run hc)).1, hrun⟩

end Currency

end WebhostBilling
