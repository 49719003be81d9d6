import WebhostBilling.Auth.FactorReplay

/-!
# Enrolling a second factor

Enabling a credential verifies a code against the secret that it has read, and then sets
`enabledAt` of whatever the credential has become.  An enrolment replaces the secret after a check
that may be out of date, and two regenerations of the recovery codes delete the codes that they saw.
-/

namespace WebhostBilling

open Store Store.Table Concurrency Config

namespace Auth

open AuthService

/-! ## What was issued -/

def issuedBy (credentialId : RowId) : AuthEvent → Option (List String)
  | .enabled run => if run.credentialId = credentialId then some run.codeHashes else none
  | .codesReplaced id _ codeHashes => if id = credentialId then some codeHashes else none
  | _ => none

def issuedCodes (trace : List AuthEvent) (credentialId : RowId) : Option (List String) :=
  (trace.filterMap (issuedBy credentialId)).getLast?

def liveHash (credentialId : RowId) (code : AdminRecoveryCode) : Option String :=
  if code.credentialId = credentialId ∧ code.deleted = false then some code.codeHash else none

def liveHashes (db : AuthDatabase) (credentialId : RowId) : List String :=
  db.adminRecoveryCodes.rows.filterMap (liveHash credentialId)

def CodeAccepted (trace : List AuthEvent) (codeId : RowId) : Prop :=
  ∃ event ∈ trace, acceptsCode codeId event = true

/-- **An enabled credential has the secret that was verified, and the codes that were issued.** -/
structure EnrolmentSound (settings : AuthSettings) (db : AuthDatabase) (trace : List AuthEvent) :
    Prop where
  secret : ∀ credentialId credential,
    db.adminTotpCredentials.get? credentialId = some credential → credential.deleted = false →
      credential.enabledAt.isSome → ∃ run, .enabled run ∈ trace ∧ CodeVerified settings run ∧
        run.credentialId = credentialId ∧ run.secret = credential.secret
  codes : ∀ credentialId, LiveCredential db credentialId →
    issuedCodes trace credentialId = some (liveHashes db credentialId)
  unused : ∀ codeId code, db.adminRecoveryCodes.get? codeId = some code →
    (code.usedAt = none ↔ ¬ CodeAccepted trace codeId)

/-- A credential is enabled with the secret that was verified, an enrolment is started where none is
enabled, and a regeneration replaces all the codes that are there. -/
def WritesWhatItRead (_ : AuthWorld) (db : AuthDatabase) (_ : List AuthEvent) : AuthEvent → Prop
  | .enabled run =>
    (db.adminTotpCredentials.get? run.credentialId).map (·.secret) = some run.secret
  | .setupStarted userId => db.secondFactorEnabled userId = false
  | .codesReplaced credentialId seen _ => recoveryCodeIds credentialId db = seen
  | _ => True

instance (w : AuthWorld) (db : AuthDatabase) (trace : List AuthEvent) (event : AuthEvent) :
    Decidable (WritesWhatItRead w db trace event) :=
  match event with
  | .enabled _ | .setupStarted _ | .codesReplaced .. => inferInstanceAs (Decidable (_ = _))
  | .passwordSession .. | .challenged .. | .codeCompared .. | .completed _ | .factorAccepted ..
  | .passwordReset .. => inferInstanceAs (Decidable True)

/-! ## The recovery codes after a write -/

section

variable {settings : AuthSettings} {db db' : AuthDatabase} {trace trace' : List AuthEvent}

def SameHash (credentialId : RowId) (code code' : AdminRecoveryCode) : Prop :=
  liveHash credentialId code' = liveHash credentialId code

theorem SameHash.refl (credentialId : RowId) (code : AdminRecoveryCode) :
    SameHash credentialId code code := rfl

variable {event : AuthEvent} {credentialId : RowId} {codes : Table AdminRecoveryCode}

theorem liveHashes_eq
    (hgrows : db.adminRecoveryCodes.Grows (SameHash credentialId) db'.adminRecoveryCodes)
    (hsize : db'.adminRecoveryCodes.size = db.adminRecoveryCodes.size) :
    liveHashes db' credentialId = liveHashes db credentialId := by
  have hmap : db'.adminRecoveryCodes.map (liveHash credentialId) =
      db.adminRecoveryCodes.map (liveHash credentialId) :=
    hgrows.map_eq hsize fun _ _ _ _ heq => heq
  have hrows : db'.adminRecoveryCodes.rows.map (liveHash credentialId) =
      db.adminRecoveryCodes.rows.map (liveHash credentialId) := congrArg Table.rows hmap
  have hfilter (codes : List AdminRecoveryCode) : codes.filterMap (liveHash credentialId) =
      (codes.map (liveHash credentialId)).filterMap fun hash => hash := by
    rw [List.filterMap_map]
    rfl
  rw [liveHashes, liveHashes, hfilter, hfilter, hrows]

theorem liveHashes_eq_nil
    (h : ∀ id code, db.adminRecoveryCodes.get? id = some code → code.deleted = false →
      code.credentialId ≠ credentialId) : liveHashes db credentialId = [] := by
  rw [liveHashes, List.filterMap_eq_nil_iff]
  intro code hcode
  obtain ⟨id, hid⟩ := List.mem_iff_getElem?.1 hcode
  rw [liveHash, if_neg]
  exact fun hlive => h id code hid hlive.2 hlive.1

theorem liveHashes_deleted {p : RowId → AdminRecoveryCode → Bool}
    (hp : ∀ id code, db.adminRecoveryCodes.get? id = some code → p id code = true →
      code.deleted = false → code.credentialId ≠ credentialId) :
    liveHashes (db.deleteRecoveryCodes p) credentialId = liveHashes db credentialId := by
  refine liveHashes_eq (grows_updateWhere (SameHash.refl credentialId)
    fun id code hcode hdeleted => ?_) (size_updateWhere _ _ _)
  rw [SameHash, liveHash, if_neg (fun hlive => Bool.noConfusion hlive.2), liveHash, if_neg]
  exact fun hlive => hp id code hcode hdeleted hlive.2 hlive.1

theorem filterMap_insertAll (codes : Table AdminRecoveryCode) (credentialId id : RowId)
    (codeHashes : List String) :
    (codes.insertAll (codeHashes.map fun codeHash => { credentialId, codeHash })).rows.filterMap
      (liveHash id) =
        codes.rows.filterMap (liveHash id) ++ if credentialId = id then codeHashes else [] := by
  rw [Table.insertAll, List.filterMap_append, List.filterMap_map]
  congr 1
  split
  · rename_i hid
    have hall : (liveHash id ∘ fun codeHash => ({ credentialId, codeHash } : AdminRecoveryCode)) =
        some := by
      funext codeHash
      rw [Function.comp_apply, liveHash, if_pos ⟨hid, rfl⟩]
    rw [hall, List.filterMap_some]
  · rename_i hid
    rw [List.filterMap_eq_nil_iff]
    intro codeHash _
    rw [Function.comp_apply, liveHash, if_neg fun hlive => hid hlive.1]

/-! ## Accepted codes -/

theorem codeAccepted_append {codeId : RowId} :
    CodeAccepted (trace ++ [event]) codeId ↔
      CodeAccepted trace codeId ∨ acceptsCode codeId event = true := by
  constructor
  · rintro ⟨e, hmem, haccepts⟩
    rcases List.mem_append.1 hmem with hmem | hmem
    · exact .inl ⟨e, hmem, haccepts⟩
    · exact .inr (List.mem_singleton.1 hmem ▸ haccepts)
  · rintro (⟨e, hmem, haccepts⟩ | haccepts)
    · exact ⟨e, List.mem_append_left _ hmem, haccepts⟩
    · exact ⟨event, List.mem_append_right _ (List.mem_singleton_self _), haccepts⟩

structure CodesTraced (codes : Table AdminRecoveryCode) (trace : List AuthEvent) : Prop where
  unused : ∀ codeId code, codes.get? codeId = some code →
    (code.usedAt = none ↔ ¬ CodeAccepted trace codeId)
  present : ∀ codeId, CodeAccepted trace codeId → (codes.get? codeId).isSome

theorem CodesTraced.append (h : CodesTraced codes trace)
    (hcode : ∀ codeId, acceptsCode codeId event = false) :
    CodesTraced codes (trace ++ [event]) := by
  have hsame (codeId : RowId) : CodeAccepted (trace ++ [event]) codeId ↔ CodeAccepted trace codeId := by
    rw [codeAccepted_append, hcode]
    simp
  refine ⟨fun codeId code hget => ?_, fun codeId haccepted => ?_⟩
  · rw [hsame]
    exact h.unused codeId code hget
  · exact h.present codeId ((hsame codeId).1 haccepted)

theorem CodesTraced.deleted (h : CodesTraced db.adminRecoveryCodes trace)
    (p : RowId → AdminRecoveryCode → Bool) :
    CodesTraced (db.deleteRecoveryCodes p).adminRecoveryCodes trace where
  unused codeId code hget := by
    obtain ⟨before, hbefore, rfl⟩ := get?_updateWhere_cases hget
    rw [← h.unused codeId before hbefore]
    split <;> rfl
  present codeId haccepted := by
    rw [AuthDatabase.deleteRecoveryCodes, get?_updateWhere, Option.isSome_map]
    exact h.present codeId haccepted

theorem CodesTraced.insertAll (h : CodesTraced codes trace)
    {rows : List AdminRecoveryCode} (hrows : ∀ code ∈ rows, code.usedAt = none) :
    CodesTraced (codes.insertAll rows) trace where
  unused codeId code hget := by
    rcases get?_insertAll_cases hget with ⟨hid, hmem⟩ | hbefore
    · refine iff_of_true (hrows code hmem) fun haccepted => ?_
      obtain ⟨row, hrow⟩ := Option.isSome_iff_exists.1 (h.present codeId haccepted)
      exact absurd (lt_size_of_get? hrow) (Nat.not_lt.2 hid)
    · exact h.unused codeId code hbefore
  present codeId haccepted := by
    obtain ⟨row, hrow⟩ := Option.isSome_iff_exists.1 (h.present codeId haccepted)
    exact Option.isSome_of_eq_some (get?_insertAll_of_some hrow)

theorem CodesTraced.use (h : CodesTraced codes trace)
    {codeId now credentialId : ℕ} {code : AdminRecoveryCode} (hcode : codes.get? codeId = some code)
    (sessionId : Option RowId) : CodesTraced (codes.update codeId (useRecoveryCode now))
      (trace ++ [.factorAccepted credentialId (.recoveryCode codeId) sessionId]) where
  unused id found hfound := by
    rcases get?_update_cases hfound with ⟨rfl, before, -, rfl⟩ | ⟨hid, hbefore⟩
    · refine iff_of_false nofun fun hnot => hnot (codeAccepted_append.2 (.inr ?_))
      exact decide_eq_true rfl
    · have hother : acceptsCode id (.factorAccepted credentialId (.recoveryCode codeId) sessionId) =
          false := decide_eq_false hid
      rw [codeAccepted_append, hother, h.unused id found hbefore]
      simp
  present id haccepted := by
    rw [get?_update]
    by_cases hid : codeId = id
    · subst hid
      rw [if_pos rfl, hcode]
      rfl
    · rw [if_neg hid]
      refine h.present id ((codeAccepted_append.1 haccepted).resolve_right fun haccepts => ?_)
      exact hid (of_decide_eq_true haccepts)

/-! ## The invariant -/

structure EnrolmentTraced (settings : AuthSettings) (db : AuthDatabase) (trace : List AuthEvent) :
    Prop where
  secret : ∀ credentialId credential,
    db.adminTotpCredentials.get? credentialId = some credential → credential.deleted = false →
      credential.enabledAt.isSome → ∃ run, .enabled run ∈ trace ∧ CodeVerified settings run ∧
        run.credentialId = credentialId ∧ run.secret = credential.secret
  issued : ∀ credentialId, LiveCredential db credentialId →
    issuedCodes trace credentialId = some (liveHashes db credentialId)
  codes : CodesTraced db.adminRecoveryCodes trace

theorem EnrolmentTraced.sound (h : EnrolmentTraced settings db trace) :
    EnrolmentSound settings db trace :=
  ⟨h.secret, h.issued, h.codes.unused⟩

theorem EnrolmentTraced.nil (hdb : NobodySignedIn db) : EnrolmentTraced settings db [] where
  secret credentialId credential h := by
    rw [hdb.credentials] at h
    exact absurd h get?_empty_ne
  issued credentialId h := by
    obtain ⟨credential, hcredential, -⟩ := h
    rw [hdb.credentials] at hcredential
    exact absurd hcredential get?_empty_ne
  codes := by
    rw [hdb.codes]
    exact ⟨fun _ _ h => absurd h get?_empty_ne, fun _ ⟨_, hevent, _⟩ => nomatch hevent⟩

theorem issuedCodes_append :
    issuedCodes (trace ++ [event]) credentialId =
      (issuedBy credentialId event).or (issuedCodes trace credentialId) := by
  rw [issuedCodes, List.filterMap_append, issuedCodes]
  cases hissued : issuedBy credentialId event with
  | none =>
    rw [List.filterMap_cons_none hissued, List.filterMap_nil, List.append_nil, Option.none_or]
  | some codeHashes =>
    rw [List.filterMap_cons_some hissued, List.filterMap_nil, List.getLast?_append,
      List.getLast?_singleton, Option.some_or]

theorem EnrolmentTraced.mono (h : EnrolmentTraced settings db trace)
    (hcredentials : ∀ id credential', db'.adminTotpCredentials.get? id = some credential' →
      credential'.deleted = false → credential'.enabledAt.isSome → ∃ credential,
        db.adminTotpCredentials.get? id = some credential ∧ credential.deleted = false ∧
          credential.enabledAt.isSome ∧ credential.secret = credential'.secret)
    (hhashes : ∀ id, LiveCredential db' id → liveHashes db' id = liveHashes db id)
    (hsub : trace ⊆ trace') (hissued : ∀ id, issuedCodes trace' id = issuedCodes trace id)
    (hcodes : CodesTraced db'.adminRecoveryCodes trace') : EnrolmentTraced settings db' trace' where
  secret id credential' hget hlive henabled := by
    obtain ⟨credential, hcredential, hliveBefore, henabledBefore, hsecret⟩ :=
      hcredentials id credential' hget hlive henabled
    obtain ⟨run, hrun, hcode, hof, hverified⟩ :=
      h.secret id credential hcredential hliveBefore henabledBefore
    exact ⟨run, hsub hrun, hcode, hof, hverified.trans hsecret⟩
  issued id hlive := by
    rw [hissued, hhashes id hlive]
    obtain ⟨credential', hget, hliveRow, henabled⟩ := hlive
    obtain ⟨credential, hcredential, hliveBefore, henabledBefore, -⟩ :=
      hcredentials id credential' hget hliveRow henabled
    exact h.issued id ⟨credential, hcredential, hliveBefore, henabledBefore⟩
  codes := hcodes

/-! ## What the writes keep -/

structure Unissuing (event : AuthEvent) : Prop where
  issued : ∀ credentialId, issuedBy credentialId event = none
  accepted : ∀ codeId, acceptsCode codeId event = false

theorem EnrolmentTraced.append (h : EnrolmentTraced settings db trace)
    (hevent : Unissuing event) : EnrolmentTraced settings db (trace ++ [event]) := by
  refine h.mono (fun id credential hget hlive henabled => ⟨credential, hget, hlive, henabled, rfl⟩)
    (fun _ _ => rfl) (List.subset_append_left _ _) (fun id => ?_) (h.codes.append hevent.accepted)
  rw [issuedCodes_append, hevent.issued, Option.none_or]

theorem EnrolmentTraced.frame (h : EnrolmentTraced settings db trace)
    (hcredentials : db'.adminTotpCredentials = db.adminTotpCredentials)
    (hcodes : db'.adminRecoveryCodes = db.adminRecoveryCodes) : EnrolmentTraced settings db' trace := by
  refine h.mono (fun id credential hget hlive henabled => ?_) (fun id _ => ?_) (List.Subset.refl _)
    (fun _ => rfl) ?_
  · rw [hcredentials] at hget
    exact ⟨credential, hget, hlive, henabled, rfl⟩
  · rw [liveHashes, hcodes, liveHashes]
  · rw [hcodes]
    exact h.codes

theorem EnrolmentTraced.quiet (h : EnrolmentTraced settings db trace)
    (hcredentials : db'.adminTotpCredentials = db.adminTotpCredentials)
    (hcodes : db'.adminRecoveryCodes = db.adminRecoveryCodes) (hevent : Unissuing event) :
    EnrolmentTraced settings db' (trace ++ [event]) :=
  (h.frame hcredentials hcodes).append hevent

theorem EnrolmentTraced.consume (h : EnrolmentTraced settings db trace) {credentialId now : ℕ}
    {factor : Factor} (hconsumed : FactorConsumed db credentialId now factor db')
    (sessionId : Option RowId) :
    EnrolmentTraced settings db' (trace ++ [.factorAccepted credentialId factor sessionId]) := by
  cases hconsumed with
  | @timeStep step row _ _ _ =>
    have hevent : Unissuing (.factorAccepted credentialId (.timeStep step) sessionId) :=
      ⟨fun _ => rfl, fun _ => rfl⟩
    refine h.mono (fun id credential' hget hlive henabled => ?_) (fun _ _ => rfl)
      (List.subset_append_left _ _) (fun id => ?_) (h.codes.append hevent.accepted)
    · rcases get?_update_cases hget with ⟨rfl, credential, hcredential, rfl⟩ | ⟨-, hbefore⟩
      · exact ⟨credential, hcredential, hlive, henabled, rfl⟩
      · exact ⟨credential', hbefore, hlive, henabled, rfl⟩
    · rw [issuedCodes_append, hevent.issued, Option.none_or]
  | @recoveryCode codeId code hcode hlive hunused =>
    refine h.mono (fun id credential hget hliveRow henabled =>
      ⟨credential, hget, hliveRow, henabled, rfl⟩) (fun id _ => ?_) (List.subset_append_left _ _)
        (fun id => ?_) (h.codes.use hcode sessionId)
    · exact liveHashes_eq (grows_update (SameHash.refl id) fun _ _ => rfl)
        (size_update _ _ _)
    · have hnone : issuedBy id (.factorAccepted credentialId (.recoveryCode codeId) sessionId) =
          none := rfl
      rw [issuedCodes_append, hnone, Option.none_or]

theorem EnrolmentTraced.remove (h : EnrolmentTraced settings db trace)
    {f : AdminTotpCredential → AdminTotpCredential}
    (hcredentials : db'.adminTotpCredentials = db.adminTotpCredentials.update credentialId f)
    (hcodes : db'.adminRecoveryCodes = (db.deleteRecoveryCodes fun _ code =>
      code.credentialId = credentialId).adminRecoveryCodes)
    (hf : ∀ credential, db.adminTotpCredentials.get? credentialId = some credential →
      (f credential).deleted = false → ¬ (f credential).enabledAt.isSome) :
    EnrolmentTraced settings db' trace := by
  have hother {id : RowId} {credential' : AdminTotpCredential}
      (hget : db'.adminTotpCredentials.get? id = some credential') (hlive : credential'.deleted = false)
      (henabled : credential'.enabledAt.isSome) :
      credentialId ≠ id ∧ db.adminTotpCredentials.get? id = some credential' := by
    rw [hcredentials] at hget
    rcases get?_update_cases hget with ⟨rfl, credential, hcredential, rfl⟩ | hbefore
    · exact absurd henabled (hf credential hcredential hlive)
    · exact hbefore
  refine h.mono (fun id credential' hget hlive henabled => ?_) (fun id hlive => ?_)
    (List.Subset.refl _) (fun _ => rfl) ?_
  · exact ⟨credential', (hother hget hlive henabled).2, hlive, henabled, rfl⟩
  · obtain ⟨credential', hget, hliveRow, henabled⟩ := hlive
    have hne := (hother hget hliveRow henabled).1
    rw [liveHashes, hcodes]
    refine liveHashes_deleted fun _ code _ hp _ hid => ?_
    exact hne ((of_decide_eq_true hp).symm.trans hid)
  · rw [hcodes]
    exact h.codes.deleted _

theorem EnrolmentTraced.setup (h : EnrolmentTraced settings db trace) {userId : RowId} {secret : String}
    (hnot : db.secondFactorEnabled userId = false) :
    EnrolmentTraced settings (upsertCredential userId secret db) trace := by
  rw [upsertCredential]
  cases hfind : db.credentialOf userId with
  | some entry =>
    obtain ⟨credentialId, credential⟩ := entry
    rw [AuthDatabase.secondFactorEnabled, hfind, Option.any_some] at hnot
    refine h.remove rfl rfl fun found hfound _ henabled => ?_
    rw [(credentialOf_eq_some hfind).1, Option.some.injEq] at hfound
    rw [← hfound] at henabled
    exact Bool.false_ne_true (hnot.symm.trans henabled)
  | none =>
    refine h.mono (fun id credential hget hlive henabled => ?_) (fun _ _ => rfl) (List.Subset.refl _)
      (fun _ => rfl) h.codes
    rcases get?_insert_cases hget with ⟨-, rfl⟩ | hbefore
    · cases henabled
    · exact ⟨credential, hbefore, hlive, henabled, rfl⟩

theorem issued_usedAt {codeHashes : List String} :
    ∀ code ∈ codeHashes.map (fun codeHash =>
      ({ credentialId, codeHash } : AdminRecoveryCode)), code.usedAt = none := by
  intro code hcode
  obtain ⟨codeHash, -, rfl⟩ := List.mem_map.1 hcode
  rfl

theorem EnrolmentTraced.enable (h : EnrolmentTraced settings db trace) (hs : AuthConsistent db)
    {run : EnableRun} {credential : AdminTotpCredential}
    (hcredential : db.adminTotpCredentials.get? run.credentialId = some credential)
    (hpending : credential.enabledAt = none) (hcode : CodeVerified settings run)
    (hverified : run.secret = credential.secret) :
    EnrolmentTraced settings (enabledDatabase run db) (trace ++ [.enabled run]) := by
  have hnone : liveHashes db run.credentialId = [] := by
    refine liveHashes_eq_nil fun id code hcode hlive hid => ?_
    obtain ⟨row, hrow, -, henabled⟩ := hs.codes id code hcode hlive
    rw [hid, hcredential, Option.some.injEq] at hrow
    rw [← hrow, hpending] at henabled
    cases henabled
  have hhashes (id : RowId) : liveHashes (enabledDatabase run db) id =
      liveHashes db id ++ if run.credentialId = id then run.codeHashes else [] :=
    filterMap_insertAll _ _ _ _
  have hother {id : RowId} {credential' : AdminTotpCredential} (hid : run.credentialId ≠ id)
      (hget : (enabledDatabase run db).adminTotpCredentials.get? id = some credential') :
      db.adminTotpCredentials.get? id = some credential' := by
    rw [enabledDatabase, get?_update_of_ne hid] at hget
    exact hget
  refine ⟨fun id credential' hget hlive henabled => ?_, fun id hlive => ?_, ?_⟩
  · by_cases hid : run.credentialId = id
    · subst hid
      rw [enabledDatabase, get?_update_self hcredential, Option.some.injEq] at hget
      refine ⟨run, List.mem_append_right _ (List.mem_singleton_self _), hcode, rfl, ?_⟩
      rw [hverified, ← hget]
      rfl
    · obtain ⟨earlier, hearlier, hrest⟩ := h.secret id credential' (hother hid hget) hlive henabled
      exact ⟨earlier, List.mem_append_left _ hearlier, hrest⟩
  · rw [issuedCodes_append, issuedBy, hhashes]
    by_cases hid : run.credentialId = id
    · subst hid
      rw [if_pos rfl, if_pos rfl, hnone, Option.some_or, List.nil_append]
    · obtain ⟨credential', hget, hrest⟩ := hlive
      rw [if_neg hid, if_neg hid, Option.none_or, List.append_nil]
      exact h.issued id ⟨credential', hother hid hget, hrest⟩
  · exact (h.codes.insertAll issued_usedAt).append fun _ => rfl

theorem EnrolmentTraced.replace (h : EnrolmentTraced settings db trace)
    {seen : List RowId} {codeHashes : List String}
    (hseen : recoveryCodeIds credentialId db = seen) :
    EnrolmentTraced settings (replacedDatabase credentialId seen codeHashes db)
      (trace ++ [.codesReplaced credentialId seen codeHashes]) := by
  have hmem {id : RowId} : id ∈ seen ↔ ∃ code, db.adminRecoveryCodes.get? id = some code ∧
      code.credentialId = credentialId ∧ code.deleted = false := by
    rw [← hseen, recoveryCodeIds, List.mem_map]
    constructor
    · rintro ⟨⟨i, code⟩, hselect, rfl⟩
      obtain ⟨hget, hp⟩ := mem_select.1 hselect
      exact ⟨code, hget, of_decide_eq_true hp⟩
    · rintro ⟨code, hget, hp⟩
      exact ⟨(id, code), mem_select.2 ⟨hget, decide_eq_true hp⟩, rfl⟩
  have hhashes (id : RowId) : liveHashes (replacedDatabase credentialId seen codeHashes db) id =
      liveHashes (db.deleteRecoveryCodes fun i _ => decide (i ∈ seen)) id ++
        if credentialId = id then codeHashes else [] := filterMap_insertAll _ _ _ _
  refine ⟨fun id credential hget hlive henabled => ?_, fun id hlive => ?_, ?_⟩
  · obtain ⟨run, hrun, hrest⟩ := h.secret id credential hget hlive henabled
    exact ⟨run, List.mem_append_left _ hrun, hrest⟩
  · rw [issuedCodes_append, issuedBy, hhashes]
    by_cases hid : credentialId = id
    · subst hid
      have hnone : liveHashes (db.deleteRecoveryCodes fun i _ => decide (i ∈ seen)) credentialId =
          [] := by
        refine liveHashes_eq_nil fun i code hcode hliveCode hof => ?_
        obtain ⟨hbefore, hnot⟩ := live_of_deleteRecoveryCodes hcode hliveCode
        exact of_decide_eq_false hnot (hmem.2 ⟨code, hbefore, hof, hliveCode⟩)
      rw [if_pos rfl, if_pos rfl, hnone, Option.some_or, List.nil_append]
    · have hkept : liveHashes (db.deleteRecoveryCodes fun i _ => decide (i ∈ seen)) id =
          liveHashes db id := by
        refine liveHashes_deleted fun i code hcode hp _ hof => ?_
        obtain ⟨found, hfound, hfoundOf, -⟩ := hmem.1 (of_decide_eq_true hp)
        rw [hcode, Option.some.injEq] at hfound
        exact hid (hfoundOf.symm.trans (hfound ▸ hof))
      rw [if_neg hid, if_neg hid, Option.none_or, List.append_nil, hkept]
      exact h.issued id hlive
  · exact ((h.codes.deleted _).insertAll issued_usedAt).append fun _ => rfl

/-! ## Runs -/

theorem enrolmentTraced_step : KeptByWrites settings WritesWhatItRead (EnrolmentTraced settings) := by
  intro w db trace events db' hs hwrites hG h
  cases hwrites with
  | same | resetTokens | attemptCounted | sessionsRevoked | sessionTouched | preferenceChanged =>
    rw [List.append_nil]
    exact h.frame rfl rfl
  | adminCompared _ _ | emailRefused _ _ | emailChallenge _ _ | adminChallenge _
  | sessionByPassword _ _ | passwordReset =>
    exact h.quiet rfl rfl ⟨fun _ => rfl, fun _ => rfl⟩
  | @emailCompleted input _ _ _ _ _ _ _ _ _ =>
    have hcompared : EnrolmentTraced settings db (trace ++ [.codeCompared (.email input.challengeId) true]) :=
      h.append ⟨fun _ => rfl, fun _ => rfl⟩
    rw [List.append_cons]
    exact hcompared.quiet rfl rfl ⟨fun _ => rfl, fun _ => rfl⟩
  | adminCompleted hconsumed _ _ _ _ _ _ _ _ =>
    have hconsume := h.consume hconsumed (some db.authSessions.size)
    rw [List.append_cons]
    exact hconsume.quiet rfl rfl ⟨fun _ => rfl, fun _ => rfl⟩
  | factorConsumed hconsumed _ _ => exact h.consume hconsumed none
  | setupStarted _ =>
    exact (h.setup (hG _ (List.mem_singleton_self _))).append ⟨fun _ => rfl, fun _ => rfl⟩
  | disabled _ =>
    rw [List.append_nil]
    exact h.remove rfl rfl fun _ _ hlive => Bool.noConfusion hlive
  | @enabled run credential session hcode hcredential hlive hpending huser hnodup hsession hof =>
    have hverified := hG _ (List.mem_singleton_self _)
    rw [WritesWhatItRead, hcredential, Option.map_some, Option.some.injEq] at hverified
    exact h.enable hs hcredential hpending hcode hverified.symm
  | codesReplaced _ _ _ => exact h.replace (hG _ (List.mem_singleton_self _))

/-- **Enrolment installs the verified secret.**  In every interleaving of enrolments, enablings,
regenerations and disablings with everything else that the service does: an enabled credential has
the secret against which the code of the enabling was verified, and its recovery codes are those that the
latest committed enabling or regeneration has issued, of which the unused ones are those that were
not consumed.  It is so as long as an enabling finds the secret that it has verified, no enrolment
writes while the credential is enabled, and a regeneration finds no codes but those that it has
seen. -/
theorem verified_secret_installed (hdb : NobodySignedIn db) {c : Config (tracedAuth settings)}
    (hr : Reaches (NotesOnly settings WritesWhatItRead) ⟨(db, []), []⟩ c) :
    EnrolmentSound settings c.shared.1 c.shared.2 :=
  (holds_of_writes enrolmentTraced_step hdb (.nil hdb) hr).2.sound

end

/-! ### An enrolment that is overtaken by another one -/

/-- While the code of the first secret is being verified, a second enrolment replaces the secret. -/
def secretReplaced : List (Move tracedSample) :=
  enrolment.take 11 ++
    [.call .beginTwoFactorSetup (⟨0, "winter is over"⟩ : SetupRequest), .advance 3 { now := 1200000 },
      .advance 3 { now := 1200000, secret := "KRSXG5CT" }, .advance 3 { now := 1200000 },
      .advance 3 { now := 1200000 }, .advance 2 { now := 1200000 }]

def replacedConfig : Config tracedSample :=
  Config.after ⟨(sampleUsers, []), []⟩ secretReplaced (by decide +kernel)

/-- The credential is enabled with a secret that no code was verified against. -/
theorem unverified_secret_enabled :
    ¬ ∀ c : Config tracedSample, Reaches anyStep ⟨(sampleUsers, []), []⟩ c →
      EnrolmentSound sampleSettings c.shared.1 c.shared.2 := by
  intro h
  have hsound := h replacedConfig (reaches_anyStep_of_run
    (run_eq_after (show (Config.run ⟨(sampleUsers, []), []⟩ secretReplaced).isSome = true by
      decide +kernel)))
  obtain ⟨run, hrun, -, -, hsecret⟩ := hsound.secret 0
    { userId := 0, secret := "KRSXG5CT", enabledAt := some 1200000, lastUsedTimeStep := some 40 }
    (by decide +kernel) rfl rfl
  have hall : replacedConfig.shared.2.all (fun event => match event with
      | .enabled run => run.secret ≠ "KRSXG5CT"
      | _ => true) = true := by decide +kernel
  exact of_decide_eq_true (List.all_eq_true.1 hall _ hrun) hsecret

/-- The administrator enables the second factor and then asks for new recovery codes. -/
def codesRegenerated : List (Move tracedSample) :=
  enrolment ++
    [.call .regenerateRecoveryCodes (⟨0, "winter is over", "ALPHA"⟩ : FactorRequest),
      .advance 3 { now := 1230000 }, .advance 3 { now := 1230000 }, .advance 3 { now := 1230000 },
      .advance 3 { now := 1230000 },
      .advance 3 { now := 1230000, recoveryCodes := ["CHARLIE", "DELTA"] },
      .advance 3 { now := 1230000 }]

def regeneratedConfig : Config tracedSample :=
  Config.after ⟨(sampleUsers, []), []⟩ codesRegenerated (by decide +kernel)

theorem codes_regenerated_sound :
    EnrolmentSound sampleSettings regeneratedConfig.shared.1 regeneratedConfig.shared.2 ∧
      liveHashes regeneratedConfig.shared.1 0 = ["CHARLIE", "DELTA"] :=
  ⟨verified_secret_installed sampleUsers_nobodySignedIn (reaches_of_run
    (run_eq_after (show (Config.run ⟨(sampleUsers, []), []⟩ codesRegenerated).isSome = true by
      decide +kernel)) (by decide +kernel)), by decide +kernel⟩

end Auth

end WebhostBilling
