import WebhostBilling.Concurrency.Permits
import WebhostBilling.Concurrency.Traces
import WebhostBilling.Registrar.ContactCreation
import WebhostBilling.Registrar.PreparationWrites

/-!
# Customers and contacts are created at most once

A claim is the permit to send a creation: it is given once for each key, and spent at most once.  A
contact is created for a customer that the same call has verified, and a signup is sent after its
claim, which found the identifiers of all customers claimed before it.
-/

namespace WebhostBilling

open Store Store.Table Concurrency Config Json

namespace ResellbizLiveRegistrar

variable {schemas : Schemas} {w : RegistrarWorld} {db db' : PreparationStore} {l l' : EnsureState}

/-! ## What a step does -/

def EnsureState.creating : EnsureState → Option (CreationStep × PreparationKey)
  | .signingUp call _ => some (.customer, call.key)
  | .addingContact call _ => some (.contact, call.key)
  | _ => none

def EnsureState.claiming : EnsureState → Option (CreationStep × EnsureCall)
  | .claimingCustomer call _ => some (.customer, call)
  | .claimingContact call _ => some (.contact, call)
  | _ => none

def EnsureState.relies : EnsureState → Option (EnsureCall × Text)
  | .recordingCustomer call id => some (call, id)
  | .claimingContact call id => some (call, id)
  | .addingContact call id => some (call, id)
  | _ => none

inductive EnsureEffect (w : RegistrarWorld) (db : PreparationStore) (l : EnsureState)
    (db' : PreparationStore) (l' : EnsureState) : Prop
  | plain (hwrites : Writes db.preparations db'.preparations) (hcreating : l'.creating = none)
      (hrelies : l'.relies = none)
  | verified (call : EnsureCall) (email id : Text) (hfrom : l = .checkingCustomer call email id)
      (hchecked : checkedCustomer w call email id = .ok ()) (hdb : db' = db)
      (hto : l' = .recordingCustomer call id)
  | recorded (call : EnsureCall) (id : Text) (hfrom : l = .recordingCustomer call id)
      (hwrites : Writes db.preparations db'.preparations) (hto : l' = .claimingContact call id)
  | claims (step : CreationStep) (call : EnsureCall) (hclaiming : l.claiming = some (step, call))
      (hclaim : claim db call.intent call.fingerprint step w.now = .ok db')
      (hconnected : w.databaseFails = false) (hcreating : l'.creating = some (step, call.key))
      (hrelies : l'.relies = l.relies)

theorem commit_cases {result : Except Failure PreparationStore} {next : EnsureState}
    (h : commit w db result next = (db', l')) :
    (db' = db ∧ ∃ e, l' = .done (.error e)) ∨
      (w.databaseFails = false ∧ result = .ok db' ∧ l' = next) := by
  unfold commit at h
  split at h
  · obtain ⟨rfl, rfl⟩ := Prod.mk.inj h
    exact .inl ⟨rfl, _, rfl⟩
  · rename_i hconnected
    split at h
    · obtain ⟨rfl, rfl⟩ := Prod.mk.inj h
      exact .inr ⟨Bool.eq_false_iff.2 hconnected, rfl, rfl⟩
    · obtain ⟨rfl, rfl⟩ := Prod.mk.inj h
      exact .inl ⟨rfl, _, rfl⟩

theorem goOn_plain {result : Except Failure EnsureState}
    (h : ∀ next, result = .ok next → next.creating = none ∧ next.relies = none) :
    (goOn result).creating = none ∧ (goOn result).relies = none := by
  cases result with
  | ok next => exact h next rfl
  | error e => exact ⟨rfl, rfl⟩

theorem afterLoad_plain (w : RegistrarWorld) (db : PreparationStore) (call : EnsureCall)
    (email : Text) :
    (afterLoad w db call email).creating = none ∧ (afterLoad w db call email).relies = none := by
  rw [afterLoad]
  split
  · exact ⟨rfl, rfl⟩
  · split
    · exact ⟨rfl, rfl⟩
    · split <;> exact ⟨rfl, rfl⟩

theorem effect_of_step (h : ensureContactsStep schemas w db l = some (db', l')) :
    EnsureEffect w db l db' l' := by
  -- A step without a transaction.
  have hplain {result : Except Failure EnsureState} (heq : some (db, goOn result) = some (db', l'))
      (hresult : ∀ next, result = .ok next → next.creating = none ∧ next.relies = none) :
      EnsureEffect w db l db' l' := by
    cases heq
    exact .plain .nothing (goOn_plain hresult).1 (goOn_plain hresult).2
  cases l with
  | loading call =>
    refine hplain h fun next hnext => ?_
    simp only [eq_ok] at hnext
    obtain ⟨contact, -, rfl⟩ := hnext
    exact afterLoad_plain w db call contact.email
  | searching call email =>
    refine hplain h fun next hnext => ?_
    simp only [eq_ok] at hnext
    obtain ⟨-, -, found, -, rfl⟩ := hnext
    cases found <;> exact ⟨rfl, rfl⟩
  | claimingCustomer call email =>
    rcases commit_cases (Option.some.inj h) with ⟨rfl, e, rfl⟩ | ⟨hconnected, hok, rfl⟩
    · exact .plain .nothing rfl rfl
    · exact .claims .customer call rfl hok hconnected rfl rfl
  | signingUp call email =>
    refine hplain h fun next hnext => ?_
    simp only [eq_ok] at hnext
    obtain ⟨-, -, id, -, rfl⟩ := hnext
    exact ⟨rfl, rfl⟩
  | checkingCustomer call email id =>
    cases h
    cases hchecked : checkedCustomer w call email id with
    | ok _ => exact .verified call email id rfl hchecked rfl rfl
    | error e => exact .plain .nothing rfl rfl
  | recordingCustomer call id =>
    rcases commit_cases (Option.some.inj h) with ⟨rfl, e, rfl⟩ | ⟨-, hok, rfl⟩
    · exact .plain .nothing rfl rfl
    · exact .recorded call id rfl (customer_ok hok) rfl
  | claimingContact call id =>
    rcases commit_cases (Option.some.inj h) with ⟨rfl, e, rfl⟩ | ⟨hconnected, hok, rfl⟩
    · exact .plain .nothing rfl rfl
    · exact .claims .contact call rfl hok hconnected rfl rfl
  | addingContact call id =>
    refine hplain h fun next hnext => ?_
    simp only [eq_ok] at hnext
    obtain ⟨-, -, contactId, -, rfl⟩ := hnext
    exact ⟨rfl, rfl⟩
  | readingCustomer call binding created =>
    refine hplain h fun next hnext => ?_
    simp only [eq_ok] at hnext
    obtain ⟨-, -, -, -, customer, -, rfl⟩ := hnext
    exact ⟨rfl, rfl⟩
  | readingContact call binding created customer =>
    refine hplain h fun next hnext => ?_
    simp only [eq_ok] at hnext
    obtain ⟨-, -, -, -, -, -, rfl⟩ := hnext
    cases created <;> exact ⟨rfl, rfl⟩
  | completing call binding =>
    rcases commit_cases (Option.some.inj h) with ⟨rfl, e, rfl⟩ | ⟨-, hok, rfl⟩
    · exact .plain .nothing rfl rfl
    · exact .plain (complete_ok hok) rfl rfl
  | done result => cases h

theorem EnsureEffect.writes (h : EnsureEffect w db l db' l') :
    ∃ t, Writes db.preparations t ∧ Writes t db'.preparations := by
  cases h with
  | plain hwrites _ _ => exact ⟨_, hwrites, .nothing⟩
  | verified _ _ _ _ _ hdb _ =>
    rw [hdb]
    exact ⟨_, .nothing, .nothing⟩
  | recorded _ _ _ hwrites _ => exact ⟨_, hwrites, .nothing⟩
  | claims step call _ hclaim _ _ _ =>
    obtain ⟨t, id, row, hclaimed⟩ := claim_ok hclaim
    exact ⟨t, hclaimed.found, hclaimed.write⟩

theorem EnsureEffect.sound (h : EnsureEffect w db l db' l')
    (hs : PreparationsSound db.preparations) : PreparationsSound db'.preparations := by
  obtain ⟨t, hfirst, hsecond⟩ := h.writes
  exact hsecond.sound (hfirst.sound hs)

theorem EnsureEffect.grows (h : EnsureEffect w db l db' l') :
    Table.Grows RegistrarPreparation.Moves db.preparations db'.preparations := by
  obtain ⟨t, hfirst, hsecond⟩ := h.writes
  exact Grows.trans (fun _ _ _ h h' => h.trans h') hfirst.grows hsecond.grows

variable {key : PreparationKey}

theorem EnsureEffect.creating (h : EnsureEffect w db l db' l') {step : CreationStep}
    (hcreating : l'.creating = some (step, key)) :
    ∃ call, key = call.key ∧ l.claiming = some (step, call) ∧
      claim db call.intent call.fingerprint step w.now = .ok db' ∧ w.databaseFails = false := by
  cases h with
  | plain _ hnone _ =>
    rw [hnone] at hcreating
    cases hcreating
  | verified _ _ _ _ _ _ hto | recorded _ _ _ _ hto =>
    rw [hto] at hcreating
    cases hcreating
  | claims step' call hclaiming hclaim hconnected hcreates _ =>
    obtain ⟨rfl, rfl⟩ := Prod.mk.inj (Option.mem_unique hcreates hcreating)
    exact ⟨call, rfl, hclaiming, hclaim, hconnected⟩

theorem EnsureEffect.relies (h : EnsureEffect w db l db' l') {call : EnsureCall} {id : Text}
    (hrelies : l'.relies = some (call, id)) :
    l.relies = some (call, id) ∨
      ∃ email, l = .checkingCustomer call email id ∧ checkedCustomer w call email id = .ok () := by
  cases h with
  | plain _ _ hnone =>
    rw [hnone] at hrelies
    cases hrelies
  | verified call email id hfrom hchecked _ hto =>
    rw [hto] at hrelies
    cases hrelies
    exact .inr ⟨email, hfrom, hchecked⟩
  | recorded call id hfrom _ hto =>
    rw [hto] at hrelies
    rw [hfrom]
    exact .inl hrelies
  | claims _ _ _ _ _ _ hsame => exact .inl (hsame.symm.trans hrelies)

theorem creating_of_claiming {p : CreationStep × EnsureCall} (h : l.claiming = some p) :
    l.creating = none := by
  cases l <;> first | rfl | cases h

/-! ## What is claimed and recorded -/

def Taken (db : PreparationStore) (step : CreationStep) (key : PreparationKey) : Prop :=
  ∃ id row, db.preparations.get? id = some row ∧ row.toPreparationKey = key ∧
    (row.claimedAt step).isSome = true

def Recorded (db : PreparationStore) (key : PreparationKey) : Prop :=
  ∃ id row, db.preparations.get? id = some row ∧ row.toPreparationKey = key ∧
    row.remoteCustomerId.isSome = true

theorem Taken.grow {step : CreationStep} (h : Taken db step key)
    (hgrows : Table.Grows RegistrarPreparation.Moves db.preparations db'.preparations) :
    Taken db' step key := by
  obtain ⟨id, row, hrow, hkey, hclaimed⟩ := h
  obtain ⟨row', hrow', hmoves⟩ := hgrows id row hrow
  exact ⟨id, row', hrow', hmoves.key.trans hkey, hmoves.claimedAt hclaimed⟩

theorem Recorded.grow (h : Recorded db key)
    (hgrows : Table.Grows RegistrarPreparation.Moves db.preparations db'.preparations) :
    Recorded db' key := by
  obtain ⟨id, row, hrow, hkey, hrecorded⟩ := h
  obtain ⟨row', hrow', hmoves⟩ := hgrows id row hrow
  exact ⟨id, row', hrow', hmoves.key.trans hkey, hmoves.remoteCustomerId.isSome hrecorded⟩

section Claim

variable {call : EnsureCall} {step : CreationStep}

theorem not_taken_of_claim (hs : PreparationsSound db.preparations)
    (h : claim db call.intent call.fingerprint step w.now = .ok db') :
    ¬ Taken db step call.key := by
  obtain ⟨t, id, row, hclaimed⟩ := claim_ok h
  rintro ⟨i, prior, hprior, hkey, htaken⟩
  obtain ⟨prior', hprior', hmoves⟩ := hclaimed.found.grows i prior hprior
  obtain rfl := (hclaimed.found.sound hs).unique _ _ _ _ hprior' hclaimed.there
    ((hmoves.key.trans hkey).trans hclaimed.key.symm)
  obtain rfl := Option.some.inj (hprior'.symm.trans hclaimed.there)
  have hstill := hmoves.claimedAt htaken
  rw [hclaimed.unclaimed] at hstill
  cases hstill

theorem taken_of_claim (h : claim db call.intent call.fingerprint step w.now = .ok db') :
    Taken db' step call.key := by
  obtain ⟨t, id, row, hclaimed⟩ := claim_ok h
  refine ⟨id, row.claimed step w.now, ?_, ?_, ?_⟩
  · rw [hclaimed.preparations]
    exact get?_update_self hclaimed.there
  · rw [RegistrarPreparation.key_claimed]
    exact hclaimed.key
  · rw [RegistrarPreparation.claimedAt_claimed]
    rfl

theorem recorded_of_claim (hs : PreparationsSound db.preparations)
    (h : claim db call.intent call.fingerprint .customer w.now = .ok db') {other : PreparationKey}
    (htaken : Taken db .customer other) (haccount : other.accountId = call.key.accountId)
    (hcustomer : other.customerId = call.key.customerId) : Recorded db' other := by
  have hfree := not_taken_of_claim hs h
  obtain ⟨t, id, row, hclaimed⟩ := claim_ok h
  obtain ⟨i, prior, hprior, rfl, hprior_taken⟩ := htaken
  obtain ⟨prior', hprior', hmoves⟩ := hclaimed.found.grows i prior hprior
  have hne : i ≠ id := by
    rintro rfl
    obtain rfl := Option.some.inj (hprior'.symm.trans hclaimed.there)
    have hstill := hmoves.claimedAt hprior_taken
    rw [hclaimed.unclaimed] at hstill
    cases hstill
  have hkey : prior'.toPreparationKey = prior.toPreparationKey := hmoves.key
  have hbeside : prior'.Beside row := by
    refine ⟨?_, ?_⟩
    · exact (congrArg (·.accountId) hkey).trans
        (haccount.trans (congrArg (·.accountId) hclaimed.key).symm)
    · exact (congrArg (·.customerId) hkey).trans
        (hcustomer.trans (congrArg (·.customerId) hclaimed.key).symm)
  have hrecorded : prior'.remoteCustomerId.isSome = true := by
    have hstill : prior'.customerClaimedAt.isSome = true :=
      hmoves.customerClaimedAt.isSome hprior_taken
    have hnot := hclaimed.free rfl i prior' hprior' hne hbeside
    rw [← Bool.not_eq_true, RegistrarPreparation.unrecorded_iff, not_and] at hnot
    exact Option.isSome_iff_ne_none.2 (hnot hstill)
  obtain ⟨prior₂, hprior₂, hmoves₂⟩ := hclaimed.write.grows i prior' hprior'
  exact ⟨i, prior₂, hprior₂, hmoves₂.key.trans hkey, hmoves₂.remoteCustomerId.isSome hrecorded⟩

end Claim

/-! ## The permit -/

def CreationEvent.creates : CreationEvent → Option (CreationStep × PreparationKey)
  | .signup key _ _ => some (.customer, key)
  | .contact key _ => some (.contact, key)
  | _ => none

/-- The event sends a signup of this step for the key. -/
def sends (step : CreationStep) (key : PreparationKey) (event : CreationEvent) : Bool :=
  event.creates = some (step, key)

def creationPermit (schemas : Schemas) (step : CreationStep) (key : PreparationKey) :
    Permit (contactOperations schemas) fun _ => ensureContactsEvents where
  taken db := Taken db step key
  holds _ l := EnsureState.creating l = some (step, key)
  spends := sends step key

theorem events_cases (w : RegistrarWorld) (db : PreparationStore) (l : EnsureState) :
    ensureContactsEvents w db l = [] ∨
      ∃ event, ensureContactsEvents w db l = [event] ∧ event.creates = l.creating := by
  have hclaim (call : EnsureCall) (step : CreationStep) :
      claimEvents w db call step = [] ∨ claimEvents w db call step = [.claimed step call.key] := by
    rw [claimEvents]
    split
    · split
      · exact .inl rfl
      · exact .inr rfl
    · exact .inl rfl
  cases l with
  | claimingCustomer call email =>
    exact (hclaim call .customer).imp id fun h => ⟨_, h, rfl⟩
  | claimingContact call remoteId =>
    exact (hclaim call .contact).imp id fun h => ⟨_, h, rfl⟩
  | signingUp call email | addingContact call id => exact .inr ⟨_, rfl, rfl⟩
  | checkingCustomer call email id =>
    rw [ensureContactsEvents]
    split
    · exact .inr ⟨_, rfl, rfl⟩
    · exact .inl rfl
  | loading _ | searching _ _ | recordingCustomer _ _ | readingCustomer _ _ _
  | readingContact _ _ _ _ | completing _ _ | done _ => exact .inl rfl

theorem creationPermit_sound (step : CreationStep) (key : PreparationKey) :
    (creationPermit schemas step key).Sound fun db => PreparationsSound db.preparations where
  inv _ w db l db' l' hs h := (effect_of_step h).sound hs
  start _ _ h := nomatch h
  kept _ w db l db' l' hs h htaken := htaken.grow (effect_of_step h).grows
  acquired _ w db l db' l' hs h hholds := by
    obtain ⟨call, rfl, -, hclaim, -⟩ := (effect_of_step h).creating hholds
    exact .inr ⟨not_taken_of_claim hs hclaim, taken_of_claim hclaim⟩
  spent _ w db l db' l' hs h hspent := by
    rcases events_cases w db l with hnone | ⟨event, hevents, hcreates⟩
    · rw [hnone] at hspent
      cases hspent
    · have hcount : (ensureContactsEvents w db l).countP (sends step key) =
          if sends step key event = true then 1 else 0 := by
        rw [hevents, List.countP_singleton]
      have hsends : sends step key event = true := by
        by_contra hnot
        rw [if_neg hnot] at hcount
        exact absurd hspent (Nat.not_lt.2 (Nat.le_of_eq hcount))
      have hcreating : l.creating = some (step, key) :=
        hcreates.symm.trans (of_decide_eq_true hsends)
      refine ⟨hcreating, fun hagain => ?_, ?_⟩
      · obtain ⟨call, -, hclaiming, -⟩ := (effect_of_step h).creating hagain
        rw [creating_of_claiming hclaiming] at hcreating
        cases hcreating
      · exact hcount.trans (if_pos hsends)

/-! ## What comes before what -/

/-- A contact is created for a verified customer. -/
def ContactVerified (before : List CreationEvent) : CreationEvent → Prop
  | .contact key remoteCustomerId => .verified key remoteCustomerId ∈ before
  | _ => True

/-- No signup is sent while an earlier signup of the same account and customer is unrecorded. -/
def SignupExclusive (before : List CreationEvent) : CreationEvent → Prop
  | .signup _ _ unrecorded => ∀ other ∈ unrecorded, ∀ recorded beside,
      .signup other recorded beside ∉ before
  | _ => True

/-- A signup is sent when no other customer is unrecorded, unless an identifier is already recorded
for the signup itself; and after its claim, before which no unrecorded one was claimed. -/
def SignupInOrder (before : List CreationEvent) : CreationEvent → Prop
  | .signup key recorded unrecorded => (recorded = none → unrecorded = []) ∧
      ∃ earlier later, before = earlier ++ .claimed .customer key :: later ∧
        ∀ other ∈ unrecorded, .claimed .customer other ∉ earlier
  | _ => True

variable {other : PreparationKey}

theorem mem_unrecordedBeside (h : other ∈ db.unrecordedBeside key) :
    ∃ id row, db.preparations.get? id = some row ∧ row.toPreparationKey = other ∧
      other.accountId = key.accountId ∧ other.customerId = key.customerId ∧ other ≠ key ∧
      row.unrecorded = true := by
  obtain ⟨⟨id, row⟩, hmem, rfl⟩ := List.mem_map.1 h
  obtain ⟨hrow, hp⟩ := mem_select.1 hmem
  rw [decide_eq_true_eq] at hp
  exact ⟨id, row, hrow, rfl, hp.1, hp.2.1, hp.2.2.1, hp.2.2.2⟩

theorem unrecordedBeside_eq_nil (hs : PreparationsSound db.preparations)
    (htaken : Taken db .customer key) (hnone : db.recorded key = none) :
    db.unrecordedBeside key = [] := by
  rw [List.eq_nil_iff_forall_not_mem]
  intro other hother
  obtain ⟨i, row, hrow, rfl, haccount, hcustomer, hne, hu⟩ := mem_unrecordedBeside hother
  obtain ⟨id, own, hown, rfl, hclaimed⟩ := htaken
  rw [PreparationStore.recorded, PreparationStore.find_of_get? hs hown, Option.bind_some] at hnone
  have hown_unrecorded : own.unrecorded = true :=
    RegistrarPreparation.unrecorded_iff.2 ⟨hclaimed, hnone⟩
  obtain rfl := hs.one i id row own hrow hown ⟨haccount, hcustomer⟩ hu hown_unrecorded
  obtain rfl := Option.mem_unique hrow hown
  exact hne rfl

theorem Recorded.notMem_unrecordedBeside (hs : PreparationsSound db.preparations)
    (h : Recorded db other) : other ∉ db.unrecordedBeside key := by
  intro hother
  obtain ⟨i, row, hrow, rfl, -, -, -, hu⟩ := mem_unrecordedBeside hother
  obtain ⟨j, row', hrow', hkey, hrecorded⟩ := h
  obtain rfl := hs.unique j i row' row hrow' hrow hkey
  obtain rfl := Option.mem_unique hrow' hrow
  rw [RegistrarPreparation.unrecorded_iff.1 hu |>.2] at hrecorded
  cases hrecorded

/-! ## The outline -/

structure ContactTrace (s : PreparationStore × List CreationEvent) : Prop where
  sound : PreparationsSound s.1.preparations
  claimed : ∀ step key, .claimed step key ∈ s.2 → Taken s.1 step key
  verified : Preceded ContactVerified s.2
  inOrder : Preceded SignupInOrder s.2

def ClaimedInOrder (s : PreparationStore × List CreationEvent) (key : PreparationKey) : Prop :=
  Taken s.1 .customer key ∧ ∃ earlier later, s.2 = earlier ++ .claimed .customer key :: later ∧
    ∀ other, .claimed .customer other ∈ earlier → other.accountId = key.accountId →
      other.customerId = key.customerId → Recorded s.1 other

structure CallTrace (s : PreparationStore × List CreationEvent) (l : EnsureState) : Prop where
  verified : ∀ call id, l.relies = some (call, id) → .verified call.key id ∈ s.2
  claimed : ∀ key, l.creating = some (.customer, key) → ClaimedInOrder s key

def contactsOutline (schemas : Schemas) : Outline (tracedContacts schemas) where
  shared := ContactTrace
  thread s t := CallTrace s t.loc

section Step

variable {trace : List CreationEvent}

theorem ClaimedInOrder.grow (h : ClaimedInOrder (db, trace) key)
    (hgrows : Table.Grows RegistrarPreparation.Moves db.preparations db'.preparations)
    (notes : List CreationEvent) : ClaimedInOrder (db', trace ++ notes) key := by
  obtain ⟨htaken, earlier, later, htrace, hrecorded⟩ := h
  refine ⟨htaken.grow hgrows, earlier, later ++ notes, ?_, fun other hother haccount hcustomer =>
    (hrecorded other hother haccount hcustomer).grow hgrows⟩
  rw [show trace = _ from htrace, List.append_assoc, List.cons_append]

theorem CallTrace.grow (h : CallTrace (db, trace) l)
    (hgrows : Table.Grows RegistrarPreparation.Moves db.preparations db'.preparations)
    (notes : List CreationEvent) : CallTrace (db', trace ++ notes) l where
  verified call id hrelies := List.mem_append_left _ (h.verified call id hrelies)
  claimed key hcreating := (h.claimed key hcreating).grow hgrows notes

theorem taken_of_event (h : ensureContactsStep schemas w db l = some (db', l'))
    {step : CreationStep} (hevent : .claimed step key ∈ ensureContactsEvents w db l) :
    Taken db' step key := by
  have hclaim {call : EnsureCall} {step' : CreationStep} {next : EnsureState}
      (heq : some (commit w db (claim db call.intent call.fingerprint step' w.now) next) =
        some (db', l')) (hmem : .claimed step key ∈ claimEvents w db call step') :
      Taken db' step key := by
    rw [claimEvents] at hmem
    split at hmem
    · rename_i db₁ hok
      split at hmem
      · cases hmem
      · rename_i hconnected
        rw [List.mem_singleton, CreationEvent.claimed.injEq] at hmem
        obtain ⟨rfl, rfl⟩ := hmem
        rw [hok] at heq
        unfold commit at heq
        rw [if_neg hconnected] at heq
        obtain ⟨rfl, -⟩ := Prod.mk.inj (Option.some.inj heq)
        exact taken_of_claim hok
    · cases hmem
  cases l with
  | claimingCustomer call email | claimingContact call id => exact hclaim h hevent
  | checkingCustomer call email id =>
    rw [ensureContactsEvents] at hevent
    split at hevent
    · rw [List.mem_singleton] at hevent
      cases hevent
    · cases hevent
  | signingUp _ _ | addingContact _ _ =>
    rw [ensureContactsEvents, List.mem_singleton] at hevent
    cases hevent
  | loading _ | searching _ _ | recordingCustomer _ _ | readingCustomer _ _ _
  | readingContact _ _ _ _ | completing _ _ | done _ => cases hevent

theorem events_of_claiming {step : CreationStep} {call : EnsureCall}
    (hclaiming : l.claiming = some (step, call)) (hconnected : w.databaseFails = false)
    (hok : claim db call.intent call.fingerprint step w.now = .ok db') :
    ensureContactsEvents w db l = [.claimed step call.key] := by
  have hevents : claimEvents w db call step = [.claimed step call.key] := by
    rw [claimEvents, hok, hconnected]
    rfl
  cases l with
  | claimingCustomer call' email | claimingContact call' id =>
    cases hclaiming
    exact hevents
  | loading _ | searching _ _ | signingUp _ _ | checkingCustomer _ _ _ | recordingCustomer _ _
  | addingContact _ _ | readingCustomer _ _ _ | readingContact _ _ _ _ | completing _ _
  | done _ => cases hclaiming

theorem precedes_of_event (ht : ContactTrace (db, trace)) (hl : CallTrace (db, trace) l)
    {event : CreationEvent} (hevent : event ∈ ensureContactsEvents w db l) :
    ContactVerified trace event ∧ SignupInOrder trace event := by
  have hclaim {call : EnsureCall} {step : CreationStep}
      (hmem : event ∈ claimEvents w db call step) :
      ContactVerified trace event ∧ SignupInOrder trace event := by
    rw [claimEvents] at hmem
    split at hmem
    · split at hmem
      · cases hmem
      · rw [List.mem_singleton] at hmem
        rw [hmem]
        exact ⟨trivial, trivial⟩
    · cases hmem
  cases l with
  | claimingCustomer call email | claimingContact call id => exact hclaim hevent
  | checkingCustomer call email id =>
    rw [ensureContactsEvents] at hevent
    split at hevent
    · rw [List.mem_singleton] at hevent
      rw [hevent]
      exact ⟨trivial, trivial⟩
    · cases hevent
  | signingUp call email =>
    rw [ensureContactsEvents, List.mem_singleton] at hevent
    rw [hevent]
    obtain ⟨htaken, earlier, later, htrace, hrecorded⟩ := hl.claimed call.key rfl
    refine ⟨trivial, unrecordedBeside_eq_nil ht.sound htaken, earlier, later, htrace, ?_⟩
    intro other hother hearlier
    obtain ⟨-, -, -, -, haccount, hcustomer, -⟩ := mem_unrecordedBeside hother
    exact (hrecorded other hearlier haccount hcustomer).notMem_unrecordedBeside ht.sound hother
  | addingContact call id =>
    rw [ensureContactsEvents, List.mem_singleton] at hevent
    rw [hevent]
    exact ⟨hl.verified call id rfl, trivial⟩
  | loading _ | searching _ _ | recordingCustomer _ _ | readingCustomer _ _ _
  | readingContact _ _ _ _ | completing _ _ | done _ => cases hevent

theorem ContactTrace.step (ht : ContactTrace (db, trace)) (hl : CallTrace (db, trace) l)
    (h : ensureContactsStep schemas w db l = some (db', l')) :
    ContactTrace (db', trace ++ ensureContactsEvents w db l) := by
  have heffect := effect_of_step h
  have hlength : (ensureContactsEvents w db l).length ≤ 1 := by
    rcases events_cases w db l with hnone | ⟨event, hevents, -⟩
    · rw [hnone]
      exact Nat.zero_le 1
    · rw [hevents]
      exact Nat.le_refl 1
  refine ⟨heffect.sound ht.sound, fun step key hmem => ?_, ?_, ?_⟩
  · rcases List.mem_append.1 hmem with hmem | hmem
    · exact (ht.claimed step key hmem).grow heffect.grows
    · exact taken_of_event h hmem
  · exact ht.verified.append hlength fun event hevent => (precedes_of_event ht hl hevent).1
  · exact ht.inOrder.append hlength fun event hevent => (precedes_of_event ht hl hevent).2

theorem CallTrace.step (ht : ContactTrace (db, trace)) (hl : CallTrace (db, trace) l)
    (h : ensureContactsStep schemas w db l = some (db', l')) :
    CallTrace (db', trace ++ ensureContactsEvents w db l) l' := by
  have heffect := effect_of_step h
  refine ⟨fun call id hrelies => ?_, fun key hcreating => ?_⟩
  · rcases heffect.relies hrelies with hbefore | ⟨email, rfl, hchecked⟩
    · exact List.mem_append_left _ (hl.verified call id hbefore)
    · refine List.mem_append_right _ ?_
      rw [ensureContactsEvents, hchecked]
      exact List.mem_singleton.2 rfl
  · obtain ⟨call, rfl, hclaiming, hclaim, hconnected⟩ := heffect.creating hcreating
    refine ⟨taken_of_claim hclaim, trace, [], ?_, fun other hother haccount hcustomer => ?_⟩
    · rw [events_of_claiming hclaiming hconnected hclaim]
    · exact recorded_of_claim ht.sound hclaim (ht.claimed .customer other hother) haccount hcustomer

end Step

theorem contactsOutline_sound : (contactsOutline schemas).Sound anyStep where
  symm _ _ _ := trivial
  call s op request _ := ⟨fun _ _ h => (nomatch h), fun _ h => (nomatch h)⟩
  call_apart _ _ _ := trivial
  own w s t s' t' _ hs ht hmove := by
    obtain ⟨l, hstep, htrace, rfl⟩ := Thread.traced_step hmove
    obtain ⟨db', trace'⟩ := s'
    subst htrace
    exact ⟨ContactTrace.step hs ht hstep, CallTrace.step hs ht hstep⟩
  other w s t s' t' u _ hs ht hu _ hmove := by
    obtain ⟨l, hstep, htrace, rfl⟩ := Thread.traced_step hmove
    obtain ⟨db', trace'⟩ := s'
    subst htrace
    exact ⟨hu.grow (effect_of_step hstep).grows _, trivial⟩

/-- **Customers and contacts are created at most once.**  In every interleaving of calls, wherever
they stop and whatever the registrar answers, at most one signup and one creation of a contact are
sent for each account, customer and fingerprint, and a contact is created only for a customer that
was verified before.  When a signup is sent, every customer of the account and customer that was
claimed before it is recorded; and unless its own is recorded already, so are all others. -/
theorem created_at_most_once (hnone : db.preparations = ∅) {c : Config (tracedContacts schemas)}
    (hr : Reaches anyStep ⟨(db, []), []⟩ c) :
    (∀ step key, c.shared.2.countP (sends step key) ≤ 1) ∧
      Preceded ContactVerified c.shared.2 ∧ Preceded SignupInOrder c.shared.2 := by
  have hsound : PreparationsSound db.preparations := by
    rw [hnone]
    exact preparationsSound_empty
  have hinit : (contactsOutline schemas).shared (db, []) :=
    ⟨hsound, fun _ _ h => (nomatch h), preceded_nil, preceded_nil⟩
  have htrace := (contactsOutline_sound.holds (Outline.holds_idle hinit) hr).shared
  exact ⟨fun step key => ((creationPermit_sound step key).once hsound hr).1, htrace.verified,
    htrace.inOrder⟩

/-! ### A customer who is signed up, and a signup that is overtaken -/

def openSchemas : Schemas where
  email _ := true
  domainName _ := true
  nameservers _ := true

def answer (entries : List (String × String)) : Evidence :=
  .object (entries.map fun entry => (text entry.1, .string (text entry.2)))

def exampleContact (email : String) : DomainContact where
  name := text "Asha"
  company := text "Asha Ltd"
  address := text "Road 1"
  city := text "Dhaka"
  region := text "Dhaka"
  postalCode := text "1205"
  country := text "BD"
  email := text email
  phoneCountryCode := text "880"
  phone := text "17000000"

def exampleCall (operationId : RowId) (email : String) (digit : Char) : EnsureCall where
  resellerId := text "777"
  intent :=
    { operationId := operationId
      accountId := 0
      customerId := 0
      domainName := text "asha.com"
      nameservers := [text "ns1.asha.net", text "ns2.asha.net"]
      contact := exampleContact email
      costCeiling := 1000 }
  fingerprint := text (String.ofList (List.replicate 64 digit))

def liveAccount : PreparationStore where
  accounts := ⟨[.live]⟩
  operations := ⟨List.replicate 3 { accountId := 0, customerId := 0, claimedAt := some 0 }⟩

def noneFound : RegistrarWorld := { reply := some (answer [("recsonpage", "0"), ("recsindb", "0")]) }

def oneFound (email : String) : RegistrarWorld where
  reply := some (.object [(text "recsonpage", .string (text "1")),
    (text "recsindb", .string (text "1")),
    (text "0", answer [("customer.username", email), ("customer.resellerid", "777"),
      ("customer.customerstatus", "Active"), ("customer.customerid", "23456")])])

def contactMembers (email : String) : List (String × String) :=
  [("name", "Asha"), ("company", "Asha Ltd"), ("address1", "Road 1"), ("city", "Dhaka"),
    ("state", "Dhaka"), ("zip", "1205"), ("country", "BD"), ("emailaddr", email),
    ("telnocc", "880"), ("telno", "17000000")]

def customerDetails (email : String) : RegistrarWorld where
  reply := some (answer ([("customerid", "23456"), ("resellerid", "777"),
    ("customerstatus", "Active"), ("username", email), ("useremail", email)] ++
      contactMembers email))

def contactDetails (email : String) : RegistrarWorld where
  reply := some (answer ([("entityid", "34567"), ("customerid", "23456"), ("type", "Contact"),
    ("currentstatus", "Active")] ++ contactMembers email))

def newIdentifier (id : String) : RegistrarWorld := { reply := some (.string (text id)) }

def signUpAndAdd : List (Move (tracedContacts openSchemas)) :=
  [.call () (exampleCall 0 "asha@example.com" 'a'), .advance 0 {}, .advance 0 noneFound,
    .advance 0 {}, .advance 0 (newIdentifier "23456"), .advance 0 (customerDetails "asha@example.com"),
    .advance 0 {}, .advance 0 {}, .advance 0 (newIdentifier "34567"),
    .advance 0 (customerDetails "asha@example.com"), .advance 0 (contactDetails "asha@example.com"),
    .advance 0 {}]

def signedUp : Config (tracedContacts openSchemas) :=
  Config.after ⟨(liveAccount, []), []⟩ signUpAndAdd (by decide +kernel)

theorem signedUp_at_most_once :
    ((∀ step key, signedUp.shared.2.countP (sends step key) ≤ 1) ∧
      Preceded ContactVerified signedUp.shared.2 ∧ Preceded SignupInOrder signedUp.shared.2) ∧
      signedUp.shared.1.mappings.size = 1 :=
  ⟨created_at_most_once rfl (reaches_anyStep_of_run (run_eq_after _)),
    by decide +kernel⟩

/-- The first call finds no customer and claims one.  The second call finds a customer, verifies it
and records it on the row of the first.  The third, for another contact of the customer, finds
nothing unrecorded and signs up; then the first signs up as well. -/
def overtake : List (Move (tracedContacts openSchemas)) :=
  [.call () (exampleCall 0 "asha@example.com" 'a'), .call () (exampleCall 1 "asha@example.com" 'a'),
    .call () (exampleCall 2 "sales@example.com" 'b'),
    .advance 0 {}, .advance 0 noneFound, .advance 0 {},
    .advance 1 {}, .advance 1 (oneFound "asha@example.com"),
    .advance 1 (customerDetails "asha@example.com"), .advance 1 {},
    .advance 2 {}, .advance 2 noneFound, .advance 2 {}, .advance 2 {},
    .advance 0 {}]

def overtaken : Config (tracedContacts openSchemas) :=
  Config.after ⟨(liveAccount, []), []⟩ overtake (by decide +kernel)

/-- **A signup is sent while an earlier one is unrecorded.** -/
theorem signup_overtaken :
    Reaches anyStep ⟨(liveAccount, []), []⟩ overtaken ∧
      ¬ Preceded SignupExclusive overtaken.shared.2 := by
  refine ⟨reaches_anyStep_of_run (run_eq_after _), fun h => ?_⟩
  have htrace : overtaken.shared.2 =
      [.claimed .customer (exampleCall 0 "asha@example.com" 'a').key,
        .verified (exampleCall 1 "asha@example.com" 'a').key (text "23456"),
        .claimed .customer (exampleCall 2 "sales@example.com" 'b').key,
        .signup (exampleCall 2 "sales@example.com" 'b').key none []] ++
      .signup (exampleCall 0 "asha@example.com" 'a').key (some (text "23456"))
        [(exampleCall 2 "sales@example.com" 'b').key] :: [] := by
    decide +kernel
  exact h _ _ _ htrace _ (List.mem_singleton.2 rfl) none [] (by decide +kernel)

end ResellbizLiveRegistrar

end WebhostBilling
