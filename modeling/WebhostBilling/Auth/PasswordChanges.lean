import Mathlib.Data.List.Nodup
import WebhostBilling.Auth.AuthOperations

/-!
# Password changes

`changePassword` verifies the present password and writes the new hash later, whatever the hash has
become.  A request for a reset supersedes the unused tokens that its bulk update sees, and then
inserts its own.  A confirmation compares the expiry of its token with the time at which it began.
-/

namespace WebhostBilling

open Store Store.Table Concurrency Config

namespace Auth

open AuthService

/-! ## The operations -/

namespace CustomerService

def customerNotFound : Failure := .application .resourceNotFound "Customer was not found."

def currentPasswordIncorrect : Failure :=
  .application .invalidCredentials "Current password is incorrect."

structure ChangePasswordRequest where
  userId : RowId
  currentPassword : String
  newPassword : String

inductive ChangePasswordState
  | verifying (request : ChangePasswordRequest)
  | writing (request : ChangePasswordRequest) (verified : RowId)
  | done (result : Except Failure Unit)

def verifyCurrent (request : ChangePasswordRequest) (db : AuthDatabase) : Except Failure RowId := do
  let user ← orThrow customerNotFound (db.users.get? request.userId)
  require (user.customer = true) customerNotFound
  let passwordHash ← orThrow customerNotFound user.passwordHash
  require (db.verifyPassword passwordHash request.currentPassword = true) currentPasswordIncorrect
  return passwordHash

/-- The transaction of `changePassword`. -/
def writePassword (request : ChangePasswordRequest) (now : ℕ) :
    Transaction AuthDatabase Failure Unit := fun db => do
  require ((db.users.get? request.userId).isSome) rowMissing
  let changed : AuthDatabase := { db with
    passwordHashes := db.passwordHashes.insert request.newPassword
    users := db.users.update request.userId fun user =>
      { user with passwordHash := some db.passwordHashes.size } }
  let db ← changed.revokeSessions (fun _ session => session.userId = request.userId) now
  return (db, ())

def changePasswordStep (w : AuthWorld) (db : AuthDatabase) :
    ChangePasswordState → Option (AuthDatabase × ChangePasswordState)
  | .verifying request =>
    match verifyCurrent request db with
    | .ok verified => some (db, .writing request verified)
    | .error e => some (db, .done (.error e))
  | .writing request _ =>
    let out := atomically (writePassword request w.now) db
    some (out.1, .done out.2)
  | .done _ => none

/-- `CustomerService.changePassword`. -/
def changePassword : Operation AuthDatabase AuthWorld where
  Request := ChangePasswordRequest
  Local := ChangePasswordState
  start := .verifying
  step := changePasswordStep

end CustomerService

namespace OverlappingRequests

/-- The transaction of a request is in two steps: its bulk update looks for the unused tokens, and
it commits. -/
inductive RequestResetState
  | locate (email : String)
  | superseding (userId now : ℕ)
  | inserting (userId now : ℕ) (seen : List RowId)
  | done

def unusedTokens (userId : RowId) (db : AuthDatabase) : List RowId :=
  (db.passwordResetTokens.select fun _ token =>
    token.userId = userId ∧ token.usedAt = none).map Prod.fst

variable (settings : AuthSettings)

/-- The tokens that the bulk update has found are superseded unless they were used since, and a token
is inserted. -/
def insertToken (userId now : ℕ) (seen : List RowId) (db : AuthDatabase) :
    AuthDatabase :=
  { db with
    passwordResetTokens := (db.passwordResetTokens.updateWhere (fun id token =>
      id ∈ seen ∧ token.usedAt = none) (usePasswordResetToken now)).insert
        { userId, expiresAt := now + settings.passwordResetTtlMilliseconds } }

def requestResetStep (w : AuthWorld) (db : AuthDatabase) :
    RequestResetState → Option (AuthDatabase × RequestResetState)
  | .locate email =>
    match db.users.find? fun _ user => user.email = email with
    | some (userId, user) =>
      if user.passwordHash.isSome ∧ user.deleted = false then some (db, .superseding userId w.now)
      else some (db, .done)
    | none => some (db, .done)
  | .superseding userId now => some (db, .inserting userId now (unusedTokens userId db))
  | .inserting userId now seen => some (insertToken settings userId now seen db, .done)
  | .done => none

/-- `requestPasswordReset`. -/
def requestPasswordReset : Operation AuthDatabase AuthWorld where
  Request := String
  Local := RequestResetState
  start := .locate
  step := requestResetStep settings

end OverlappingRequests

open CustomerService

inductive PasswordKind
  | changePassword
  | requestPasswordReset
  | confirmPasswordReset

variable (settings : AuthSettings) (w : AuthWorld)

def passwordOps : PasswordKind → Operation AuthDatabase AuthWorld
  | .changePassword => changePassword
  | .requestPasswordReset => OverlappingRequests.requestPasswordReset settings
  | .confirmPasswordReset => AuthService.confirmPasswordReset

/-! ## What is noted -/

/-- The users whose password hash differs. -/
def AuthDatabase.rehashed (db db' : AuthDatabase) : List RowId :=
  (List.range db.users.size).filter fun userId => db'.currentHash userId ≠ db.currentHash userId

/-- The token that a thread is about to use. -/
def confirmedToken : (kind : PasswordKind) → (passwordOps settings kind).Local → Option RowId
  | .confirmPasswordReset, .transact input _ _ => some input.tokenId
  | _, _ => none

/-- A step notes the users whose password hash it changes, with the token that it uses. -/
def passwordNotes (kind : PasswordKind) (w : AuthWorld) (db : AuthDatabase)
    (l : (passwordOps settings kind).Local) : List (RowId × Option RowId) :=
  ((passwordOps settings kind).step w db l).elim [] fun out =>
    (db.rehashed out.1).map fun userId => (userId, confirmedToken settings kind l)

def usedTokens (notes : List (RowId × Option RowId)) : List RowId := notes.filterMap Prod.snd

/-- How often the password of the user was changed. -/
def changesOf (userId : RowId) (notes : List (RowId × Option RowId)) : ℕ :=
  notes.countP fun note => note.1 = userId

/-- A change of the password has seen those before its verification. -/
def seenChanges : (kind : PasswordKind) → AuthDatabase × List (RowId × Option RowId) →
    (passwordOps settings kind).Local → ℕ → ℕ
  | .changePassword, s, .verifying request, _ => changesOf request.userId s.2
  | _, _, _, seen => seen

abbrev notedPasswords (kind : PasswordKind) :
    Operation (AuthDatabase × List (RowId × Option RowId)) AuthWorld :=
  (tracedFamily (passwordOps settings) (passwordNotes settings) kind).seeing 0
    (seenChanges settings kind)

abbrev PasswordThread := Thread (notedPasswords settings)

abbrev PasswordConfig := Config (notedPasswords settings)

/-! ## What authorises a change -/

def AuthDatabase.tokenOwners (db : AuthDatabase) : Table RowId :=
  db.passwordResetTokens.map PasswordResetToken.userId

/-- The last token that was requested for the user. -/
def AuthDatabase.newestToken (db : AuthDatabase) (userId : RowId) : Option RowId :=
  ((db.tokenOwners.select fun _ owner => owner = userId).map Prod.fst).getLast?

/-- What allows the next step of a thread to change the password of the user: the present password
was verified against the hash that is replaced, or the token is an unused, unexpired one of the user,
and the last that was requested. -/
def Authorised (db : AuthDatabase) (userId : RowId) : PasswordThread settings → Prop
  | ⟨.changePassword, _, .writing request verified⟩ =>
    request.userId = userId ∧ db.currentHash userId = some verified ∧
      db.verifyPassword verified request.currentPassword = true
  | ⟨.confirmPasswordReset, _, .transact input _ _⟩ =>
    ∃ token ∈ db.passwordResetTokens.get? input.tokenId, token.userId = userId ∧
      token.usedAt = none ∧ w.now < token.expiresAt ∧ db.newestToken userId = some input.tokenId
  | _ => False

instance (settings : AuthSettings) (w : AuthWorld) (db : AuthDatabase) (userId : RowId)
    (t : PasswordThread settings) : Decidable (Authorised settings w db userId t) := by
  unfold Authorised
  split <;> infer_instance

/-- Every step of a thread that passes the guard changes only passwords that it is authorised to
change, and no token was used for two changes. -/
structure ChangesAuthorised (φ : AuthWorld → AuthDatabase × List (RowId × Option RowId) →
    PasswordThread settings → Prop) (c : PasswordConfig settings) : Prop where
  authorised : ∀ w t s' t', t ∈ c.threads → φ w c.shared t → t.step w c.shared = some (s', t') →
    ∀ userId, s'.1.currentHash userId ≠ c.shared.1.currentHash userId →
      Authorised settings w c.shared.1 userId t
  once : (usedTokens c.shared.2).Nodup

/-- **The guard**: no other change of the password is committed between the verification of a change
and its commit, no token of the user is committed between the bulk update of a request and its
commit, and no token expires between the beginning of a confirmation and its commit. -/
def undisturbed (s : AuthDatabase × List (RowId × Option RowId)) : PasswordThread settings → Prop
  | ⟨.changePassword, seen, .writing request _⟩ => changesOf request.userId s.2 = seen
  | ⟨.requestPasswordReset, _, .inserting userId _ seen⟩ =>
    OverlappingRequests.unusedTokens userId s.1 ⊆ seen
  | ⟨.confirmPasswordReset, _, .transact input _ now⟩ =>
    ∀ token ∈ s.1.passwordResetTokens.get? input.tokenId,
      now < token.expiresAt → w.now < token.expiresAt
  | _ => True

instance (settings : AuthSettings) (w : AuthWorld)
    (s : AuthDatabase × List (RowId × Option RowId)) (t : PasswordThread settings) :
    Decidable (undisturbed settings w s t) := by
  unfold undisturbed
  split <;> infer_instance

/-! ## What a step writes -/

/-- The hash of the user becomes one of the new password. -/
structure Rehashes (db : AuthDatabase) (userId : RowId) (password : String) (db' : AuthDatabase) :
    Prop where
  users : db'.users = db.users.update userId fun user =>
    { user with passwordHash := some db.passwordHashes.size }
  hashes : db'.passwordHashes = db.passwordHashes.insert password

inductive PasswordWrite (db : AuthDatabase) : Option RowId → AuthDatabase → Prop
  | nothing (token : Option RowId) : PasswordWrite db token db
  | changed {userId : RowId} {password : String} {db' : AuthDatabase}
      (hrehashes : Rehashes db userId password db')
      (htokens : db'.passwordResetTokens = db.passwordResetTokens) : PasswordWrite db none db'
  | requested (settings : AuthSettings) (userId now : ℕ) (seen : List RowId)
      (hseen : OverlappingRequests.unusedTokens userId db ⊆ seen) :
      PasswordWrite db none (OverlappingRequests.insertToken settings userId now seen db)
  | reset {userId tokenId now : ℕ} {password : String} {token : PasswordResetToken}
      {db' : AuthDatabase} (htoken : db.passwordResetTokens.get? tokenId = some token)
      (hunused : token.usedAt = none) (hrehashes : Rehashes db userId password db')
      (htokens : db'.passwordResetTokens =
        db.passwordResetTokens.update tokenId (usePasswordResetToken now)) :
      PasswordWrite db (some tokenId) db'

section

variable {settings w} {db db' : AuthDatabase}

theorem writePassword_eq_ok {request : ChangePasswordRequest} {now : ℕ} {u : Unit}
    (h : writePassword request now db = .ok (db', u)) :
    Rehashes db request.userId request.newPassword db' ∧
      db'.passwordResetTokens = db.passwordResetTokens := by
  simp only [writePassword, eq_ok] at h
  obtain ⟨-, db₁, hrevoked, rfl, -⟩ := h
  rw [revokeSessions_eq_ok hrevoked]
  exact ⟨⟨rfl, rfl⟩, rfl⟩

theorem confirmReset_tokens {input : PasswordResetConfirmation} {userId now : ℕ} {u : Unit}
    (h : confirmReset input userId now db = .ok (db', u)) :
    Rehashes db userId input.password db' ∧
    ∃ token, db.passwordResetTokens.get? input.tokenId = some token ∧ token.usedAt = none ∧
      now < token.expiresAt ∧ db'.passwordResetTokens =
        db.passwordResetTokens.update input.tokenId (usePasswordResetToken now) := by
  simp only [confirmReset, eq_ok] at h
  obtain ⟨token, htoken, hunused, -, db₁, hrevoked, rfl, -⟩ := h
  rw [revokeSessions_eq_ok hrevoked]
  exact ⟨⟨rfl, rfl⟩, token, htoken, hunused.1, hunused.2, rfl⟩

theorem Rehashes.currentHash_of_ne {userId other : RowId} {password : String}
    (h : Rehashes db userId password db') (hne : userId ≠ other) :
    db'.currentHash other = db.currentHash other := by
  rw [AuthDatabase.currentHash, h.users, get?_update_of_ne hne, AuthDatabase.currentHash]

theorem changePasswordStep_write {l l' : ChangePasswordState}
    (h : changePasswordStep w db l = some (db', l')) : PasswordWrite db none db' := by
  cases l with
  | verifying request =>
    rw [changePasswordStep] at h
    split at h <;> obtain ⟨rfl, -⟩ := Prod.mk.inj (Option.some.inj h)
    · exact .nothing none
    · exact .nothing none
  | writing request verified =>
    obtain ⟨rfl, -⟩ := Prod.mk.inj (Option.some.inj h)
    rcases hwrite : writePassword request w.now db with e | ⟨db₁, u⟩
    · rw [atomically, hwrite]
      exact .nothing none
    · rw [atomically, hwrite]
      obtain ⟨hrehashes, htokens⟩ := writePassword_eq_ok hwrite
      exact .changed hrehashes htokens
  | done result => cases h

theorem requestResetStep_cases {l l' : OverlappingRequests.RequestResetState}
    (h : OverlappingRequests.requestResetStep settings w db l = some (db', l')) :
    db' = db ∨ ∃ userId now seen, l = .inserting userId now seen ∧
      db' = OverlappingRequests.insertToken settings userId now seen db := by
  cases l with
  | locate email =>
    rw [OverlappingRequests.requestResetStep] at h
    split at h
    · split at h <;> exact .inl (Prod.mk.inj (Option.some.inj h)).1.symm
    · exact .inl (Prod.mk.inj (Option.some.inj h)).1.symm
  | superseding userId now => exact .inl (Prod.mk.inj (Option.some.inj h)).1.symm
  | inserting userId now seen =>
    exact .inr ⟨userId, now, seen, rfl, (Prod.mk.inj (Option.some.inj h)).1.symm⟩
  | done => cases h

theorem confirmResetStep_write {l l' : ConfirmResetState}
    (h : confirmResetStep w db l = some (db', l')) :
    PasswordWrite db (confirmedToken settings .confirmPasswordReset l) db' := by
  cases l with
  | read input =>
    rw [confirmResetStep] at h
    split at h <;> cases h
    · exact .nothing none
    · exact .nothing none
  | transact input userId now =>
    cases h
    rcases hreset : confirmReset input userId now db with e | ⟨db₁, u⟩
    · rw [atomically, hreset]
      exact .nothing _
    · obtain ⟨hrehashes, token, htoken, hunused, -, htokens⟩ := confirmReset_tokens hreset
      rw [atomically, hreset]
      exact .reset htoken hunused hrehashes htokens
  | done result => cases h

/-! ## What a write keeps -/

theorem tokenOwners_insertToken (userId now : ℕ) (seen : List RowId) :
    (OverlappingRequests.insertToken settings userId now seen db).tokenOwners =
      db.tokenOwners.insert userId := by
  have hsame : (db.passwordResetTokens.updateWhere (fun id token => id ∈ seen ∧ token.usedAt = none)
      (usePasswordResetToken now)).map PasswordResetToken.userId = db.tokenOwners :=
    map_updateWhere_eq fun _ => rfl
  rw [AuthDatabase.tokenOwners, OverlappingRequests.insertToken, map_insert, hsame]

theorem tokenOwners_use {tokenId usedAt : ℕ} (htokens : db'.passwordResetTokens =
    db.passwordResetTokens.update tokenId (usePasswordResetToken usedAt)) :
    db'.tokenOwners = db.tokenOwners := by
  rw [AuthDatabase.tokenOwners, htokens]
  exact map_update_eq fun _ _ => rfl

variable {tokenId? : Option RowId}

theorem PasswordWrite.owners (h : PasswordWrite db tokenId? db') :
    db'.tokenOwners = db.tokenOwners ∨ ∃ owner, db'.tokenOwners = db.tokenOwners.insert owner := by
  cases h with
  | nothing => exact .inl rfl
  | changed _ htokens =>
    rw [AuthDatabase.tokenOwners, htokens]
    exact .inl rfl
  | requested _ userId now seen => exact .inr ⟨userId, tokenOwners_insertToken userId now seen⟩
  | reset _ _ _ htokens => exact .inl (tokenOwners_use htokens)

theorem PasswordWrite.size_users (h : PasswordWrite db tokenId? db') :
    db'.users.size = db.users.size := by
  cases h with
  | nothing | requested => rfl
  | changed hrehashes | reset _ _ hrehashes => rw [hrehashes.users, size_update]

theorem PasswordWrite.verifyPassword (h : PasswordWrite db tokenId? db') {hash : RowId}
    {password : String} (hverified : db.verifyPassword hash password = true) :
    db'.verifyPassword hash password = true := by
  cases h with
  | nothing | requested => exact hverified
  | changed hrehashes | reset _ _ hrehashes =>
    rw [AuthDatabase.verifyPassword, decide_eq_true_eq] at hverified ⊢
    rw [hrehashes.hashes]
    exact get?_insert_of_some hverified

variable {userId : RowId} {token : PasswordResetToken}

theorem mem_rehashed (hsize : db'.users.size = db.users.size)
    (h : db'.currentHash userId ≠ db.currentHash userId) : userId ∈ db.rehashed db' := by
  refine List.mem_filter.2 ⟨List.mem_range.2 ?_, decide_eq_true h⟩
  by_contra hbeyond
  have hnone : ∀ db₁ : AuthDatabase, db₁.users.size = db.users.size →
      db₁.currentHash userId = none := by
    intro db₁ hsize₁
    cases huser : db₁.users.get? userId with
    | none => rw [AuthDatabase.currentHash, huser, Option.bind_none]
    | some user => exact absurd (hsize₁ ▸ lt_size_of_get? huser) hbeyond
  exact h ((hnone db' hsize).trans (hnone db rfl).symm)

theorem rehashed_of_rehashes {password : String} (h : Rehashes db userId password db') :
    db.rehashed db' = List.replicate (db.rehashed db').length userId := by
  refine List.eq_replicate_of_mem fun other hmem => ?_
  obtain ⟨-, hchanged⟩ := List.mem_filter.1 hmem
  by_contra hne
  exact of_decide_eq_true hchanged (h.currentHash_of_ne (Ne.symm hne))

theorem newestToken_insert_self (h : db'.tokenOwners = db.tokenOwners.insert userId) :
    db'.newestToken userId = some db.tokenOwners.size := by
  rw [AuthDatabase.newestToken, h, select_insert, if_pos (decide_eq_true rfl), List.map_append,
    List.map_singleton, List.getLast?_concat]

theorem newestToken_insert_of_ne {owner : RowId} (h : db'.tokenOwners = db.tokenOwners.insert owner)
    (hne : owner ≠ userId) :
    db'.newestToken userId = db.newestToken userId := by
  rw [AuthDatabase.newestToken, h, select_insert,
    if_neg (by rw [decide_eq_true_eq]; exact hne), List.append_nil, AuthDatabase.newestToken]

/-- The unused token of a user is the last that was requested, and no token was used twice. -/
structure TokensKept (s : AuthDatabase × List (RowId × Option RowId)) : Prop where
  newest : ∀ id token, s.1.passwordResetTokens.get? id = some token → token.usedAt = none →
    s.1.newestToken token.userId = some id
  once : (usedTokens s.2).Nodup
  used : ∀ tokenId ∈ usedTokens s.2, ∃ token, s.1.passwordResetTokens.get? tokenId = some token ∧
    token.usedAt.isSome

theorem PasswordWrite.newest (h : PasswordWrite db tokenId? db')
    (hnewest : ∀ id token, db.passwordResetTokens.get? id = some token → token.usedAt = none →
      db.newestToken token.userId = some id) {id : RowId}
    (htoken : db'.passwordResetTokens.get? id = some token) (hunused : token.usedAt = none) :
    db'.newestToken token.userId = some id := by
  cases h with
  | nothing => exact hnewest id token htoken hunused
  | changed _ htokens =>
    rw [AuthDatabase.newestToken, AuthDatabase.tokenOwners, htokens]
    exact hnewest id token (htokens ▸ htoken) hunused
  | requested settings userId now seen hseen =>
    have howners := @tokenOwners_insertToken settings db userId now seen
    rcases get?_insert_cases htoken with ⟨rfl, rfl⟩ | hold
    · rw [newestToken_insert_self howners, AuthDatabase.tokenOwners, size_map,
        size_updateWhere]
    · obtain ⟨row, hrow, rfl⟩ := get?_updateWhere_cases hold
      split at hunused
      · cases hunused
      · rename_i hunseen
        rw [decide_eq_true_eq] at hunseen
        rw [if_neg (by rw [decide_eq_true_eq]; exact hunseen)]
        -- A token of the user would have been seen.
        have hne : userId ≠ row.userId := by
          rintro rfl
          refine hunseen ⟨hseen (List.mem_map.2 ⟨(id, row), ?_, rfl⟩), hunused⟩
          exact mem_select.2 ⟨hrow, decide_eq_true ⟨rfl, hunused⟩⟩
        rw [newestToken_insert_of_ne howners hne]
        exact hnewest id row hrow hunused
  | reset _ _ _ htokens =>
    rw [AuthDatabase.newestToken, tokenOwners_use htokens]
    rw [htokens] at htoken
    rcases get?_update_cases htoken with ⟨-, _, -, rfl⟩ | ⟨-, hold⟩
    · cases hunused
    · exact hnewest id token hold hunused

theorem PasswordWrite.used (h : PasswordWrite db tokenId? db') {tokenId : RowId}
    (htoken : db.passwordResetTokens.get? tokenId = some token) (hused : token.usedAt.isSome) :
    ∃ token', db'.passwordResetTokens.get? tokenId = some token' ∧ token'.usedAt.isSome := by
  cases h with
  | nothing => exact ⟨token, htoken, hused⟩
  | changed _ htokens => exact ⟨token, htokens ▸ htoken, hused⟩
  | requested settings userId now seen =>
    have hrow := get?_updateWhere db.passwordResetTokens
      (fun id token => id ∈ seen ∧ token.usedAt = none) (usePasswordResetToken now) tokenId
    rw [htoken, Option.map_some] at hrow
    refine ⟨_, get?_insert_of_some hrow, ?_⟩
    split
    · rfl
    · exact hused
  | reset _ _ _ htokens =>
    rw [htokens, get?_update, htoken]
    split
    · exact ⟨_, rfl, rfl⟩
    · exact ⟨token, rfl, hused⟩

/-- What a write notes. -/
def writeNotes (db : AuthDatabase) (tokenId? : Option RowId) (db' : AuthDatabase) :
    List (RowId × Option RowId) :=
  (db.rehashed db').map fun userId => (userId, tokenId?)

theorem usedTokens_append (notes notes' : List (RowId × Option RowId)) :
    usedTokens (notes ++ notes') = usedTokens notes ++ usedTokens notes' :=
  List.filterMap_append

theorem usedTokens_writeNotes_none (db db' : AuthDatabase) :
    usedTokens (writeNotes db none db') = [] := by
  rw [usedTokens, writeNotes, List.filterMap_map]
  exact List.filterMap_eq_nil_iff.2 fun _ _ => rfl

theorem TokensKept.write {notes : List (RowId × Option RowId)} (hkept : TokensKept (db, notes))
    (h : PasswordWrite db tokenId? db') : TokensKept (db', notes ++ writeNotes db tokenId? db') := by
  have holder : ∀ tokenId ∈ usedTokens notes,
      ∃ token, db'.passwordResetTokens.get? tokenId = some token ∧ token.usedAt.isSome := by
    intro tokenId hmem
    obtain ⟨token, htoken, hused⟩ := hkept.used tokenId hmem
    exact h.used htoken hused
  have hquiet : usedTokens (writeNotes db tokenId? db') = [] →
      TokensKept (db', notes ++ writeNotes db tokenId? db') := by
    intro hnone
    have hsame : usedTokens (notes ++ writeNotes db tokenId? db') = usedTokens notes := by
      rw [usedTokens_append, hnone, List.append_nil]
    exact ⟨fun _ _ => h.newest hkept.newest, hsame ▸ hkept.once, hsame ▸ holder⟩
  have hwrite := h
  cases h with
  | nothing =>
    refine hquiet ?_
    have hnone : db.rehashed db = [] := List.filter_eq_nil_iff.2 fun _ _ => by simp
    rw [writeNotes, hnone]
    rfl
  | changed | requested => exact hquiet (usedTokens_writeNotes_none _ _)
  | @reset userId tokenId now password token _ htoken hunused hrehashes htokens =>
    -- One user's hash is changed at most, and the token was not used before.
    have hlength : (db.rehashed db').length ≤ 1 := by
      have hnodup : (db.rehashed db').Nodup := List.Nodup.filter _ List.nodup_range
      rw [rehashed_of_rehashes hrehashes] at hnodup
      exact List.nodup_replicate.1 hnodup
    have htokenIds : usedTokens (writeNotes db (some tokenId) db') =
        List.replicate (db.rehashed db').length tokenId := by
      rw [usedTokens, writeNotes, List.filterMap_map, ← List.map_const']
      exact congrFun List.filterMap_eq_map' _
    refine ⟨fun _ _ => hwrite.newest hkept.newest, ?_, fun usedId hmem => ?_⟩
    · rw [usedTokens_append, htokenIds]
      refine hkept.once.append (List.nodup_replicate.2 hlength) fun usedId hmem hnew => ?_
      obtain rfl := List.eq_of_mem_replicate hnew
      obtain ⟨token', htoken', hused⟩ := hkept.used usedId hmem
      rw [Option.mem_unique htoken' htoken, hunused] at hused
      cases hused
    · rw [usedTokens_append, List.mem_append, htokenIds] at hmem
      rcases hmem with hold | hnew
      · exact holder usedId hold
      · obtain rfl := List.eq_of_mem_replicate hnew
        exact ⟨_, htokens ▸ get?_update_self htoken, rfl⟩

end

/-! ## Whole runs -/

section

variable {settings}

/-- What a thread relies on: as long as no other change was noted, the hash that it has verified is
the user's; and a token stays its user's. -/
def passwordAssertion (s : AuthDatabase × List (RowId × Option RowId)) :
    PasswordThread settings → Prop
  | ⟨.changePassword, seen, .writing request verified⟩ =>
    seen ≤ changesOf request.userId s.2 ∧
      (changesOf request.userId s.2 = seen → s.1.currentHash request.userId = some verified) ∧
      s.1.verifyPassword verified request.currentPassword = true
  | ⟨.confirmPasswordReset, _, .transact input userId _⟩ =>
    s.1.tokenOwners.get? input.tokenId = some userId
  | _ => True

def passwordOutline (settings : AuthSettings) : Outline (notedPasswords settings) where
  shared := TokensKept
  thread := passwordAssertion

variable {w : AuthWorld} {s s' : AuthDatabase × List (RowId × Option RowId)}
variable {t t' : PasswordThread settings}

theorem passwordThread_step (h : t.step w s = some (s', t')) :
    ∃ l, (passwordOps settings t.op).step w s.1 t.loc.2 = some (s'.1, l) ∧
      s'.2 = s.2 ++ writeNotes s.1 (confirmedToken settings t.op t.loc.2) s'.1 ∧
      t' = ⟨t.op, seenChanges settings t.op s t.loc.2 t.loc.1, l⟩ := by
  obtain ⟨l, hl, rfl⟩ := Thread.seeing_step h
  obtain ⟨hstep, htrace⟩ := Operation.traced_step hl
  have hnotes : passwordNotes settings t.op w s.1 t.loc.2 =
      ((passwordOps settings t.op).step w s.1 t.loc.2).elim [] fun out =>
        writeNotes s.1 (confirmedToken settings t.op t.loc.2) out.1 := rfl
  rw [hstep, Option.elim_some] at hnotes
  exact ⟨l, hstep, hnotes ▸ htrace, rfl⟩

theorem passwordWrite_of_step (hguard : undisturbed settings w s t)
    (h : t.step w s = some (s', t')) :
    PasswordWrite s.1 (confirmedToken settings t.op t.loc.2) s'.1 := by
  obtain ⟨kind, seen, l⟩ := t
  obtain ⟨l', hstep, -, -⟩ := passwordThread_step h
  cases kind with
  | changePassword => exact changePasswordStep_write hstep
  | requestPasswordReset =>
    rcases requestResetStep_cases hstep with hsame | ⟨userId, now, unused, rfl, hinsert⟩
    · rw [hsame]
      exact .nothing none
    · rw [hinsert]
      exact .requested settings userId now unused hguard
  | confirmPasswordReset => exact confirmResetStep_write hstep

theorem changesOf_append (userId : RowId) (notes notes' : List (RowId × Option RowId)) :
    changesOf userId (notes ++ notes') = changesOf userId notes + changesOf userId notes' :=
  List.countP_append

theorem changesOf_writeNotes_pos {db db' : AuthDatabase} (tokenId? : Option RowId) {userId : RowId}
    (h : userId ∈ db.rehashed db') : 0 < changesOf userId (writeNotes db tokenId? db') :=
  List.countP_pos_iff.2 ⟨(userId, tokenId?), List.mem_map_of_mem h, decide_eq_true rfl⟩

theorem passwordAssertion.other {u : PasswordThread settings} (hu : passwordAssertion s u)
    (hguard : undisturbed settings w s t) (h : t.step w s = some (s', t')) :
    passwordAssertion s' u := by
  have hwrite := passwordWrite_of_step hguard h
  obtain ⟨l', -, hnotes, -⟩ := passwordThread_step h
  unfold passwordAssertion at hu ⊢
  split at hu
  · rename_i seen request verified
    obtain ⟨hle, hcurrent, hverified⟩ := hu
    refine ⟨?_, fun hsame => ?_, hwrite.verifyPassword hverified⟩
    · rw [hnotes, changesOf_append]
      exact Nat.le_trans hle (Nat.le_add_right _ _)
    · rw [hnotes, changesOf_append] at hsame
      -- A change would have been noted.
      have hunchanged : s'.1.currentHash request.userId = s.1.currentHash request.userId := by
        by_contra hne
        have hpos := changesOf_writeNotes_pos (confirmedToken settings t.op t.loc.2)
          (mem_rehashed hwrite.size_users hne)
        omega
      rw [hunchanged]
      exact hcurrent (by omega)
  · rcases hwrite.owners with hsame | ⟨owner, hinsert⟩
    · rw [hsame]
      exact hu
    · rw [hinsert]
      exact get?_insert_of_some hu
  · trivial

theorem passwordAssertion_own (h : t.step w s = some (s', t')) : passwordAssertion s' t' := by
  obtain ⟨kind, seen, l⟩ := t
  obtain ⟨l', hstep, hnotes, rfl⟩ := passwordThread_step h
  cases kind with
  | changePassword =>
    cases l with
    | verifying request =>
      have hstep' : changePasswordStep w s.1 (.verifying request) = some (s'.1, l') := hstep
      rw [changePasswordStep] at hstep'
      split at hstep'
      · rename_i verified hverify
        obtain ⟨hdb, rfl⟩ := Prod.mk.inj (Option.some.inj hstep')
        simp only [verifyCurrent, eq_ok] at hverify
        obtain ⟨user, huser, -, passwordHash, hhash, hverified, rfl⟩ := hverify
        rw [← hdb] at hnotes
        have hnone : s.1.rehashed s.1 = [] := List.filter_eq_nil_iff.2 fun _ _ => by simp
        rw [writeNotes, hnone, List.map_nil, List.append_nil] at hnotes
        refine ⟨?_, fun _ => ?_, ?_⟩
        · rw [hnotes]
          exact Nat.le_refl _
        · rw [← hdb, AuthDatabase.currentHash, huser, Option.bind_some, hhash]
        · rw [← hdb]
          exact hverified
      · obtain ⟨-, rfl⟩ := Prod.mk.inj (Option.some.inj hstep')
        trivial
    | writing request verified =>
      obtain ⟨-, rfl⟩ := Prod.mk.inj (Option.some.inj hstep)
      trivial
    | done result => cases hstep
  | requestPasswordReset => trivial
  | confirmPasswordReset =>
    cases l with
    | read input =>
      have hstep' : confirmResetStep w s.1 (.read input) = some (s'.1, l') := hstep
      rw [confirmResetStep] at hstep'
      split at hstep' <;> rename_i hread <;> obtain ⟨hdb, rfl⟩ := Prod.mk.inj (Option.some.inj hstep')
      · simp only [readResetToken, eq_ok] at hread
        obtain ⟨token, htoken, -, -, rfl⟩ := hread
        change s'.1.tokenOwners.get? input.tokenId = some token.userId
        rw [← hdb, AuthDatabase.tokenOwners, get?_map, htoken, Option.map_some]
      · trivial
    | transact input userId now =>
      obtain ⟨-, rfl⟩ := Prod.mk.inj (Option.some.inj hstep)
      trivial
    | done result => cases hstep

theorem passwordOutline_sound : (passwordOutline settings).Sound (undisturbed settings) where
  symm _ _ _ := trivial
  call s op request _ := by
    cases op with
    | changePassword | requestPasswordReset | confirmPasswordReset => trivial
  call_apart _ _ _ := trivial
  own w s t s' t' hguard hkept _ hstep := by
    have hwrite := passwordWrite_of_step hguard hstep
    obtain ⟨l, -, hnotes, -⟩ := passwordThread_step hstep
    have hkept' : TokensKept (s'.1, s.2 ++ writeNotes s.1
        (confirmedToken settings t.op t.loc.2) s'.1) := TokensKept.write hkept hwrite
    rw [← hnotes] at hkept'
    exact ⟨hkept', passwordAssertion_own hstep⟩
  other w s t s' t' u hguard _ _ hu _ hstep := ⟨hu.other hguard hstep, trivial⟩

/-- **Whoever changes a password is authorised to**, by what it relies on. -/
theorem authorised_of_step (hguard : undisturbed settings w s t) (hkept : TokensKept s)
    (hrelies : passwordAssertion s t) (h : t.step w s = some (s', t')) {userId : RowId}
    (hchanged : s'.1.currentHash userId ≠ s.1.currentHash userId) :
    Authorised settings w s.1 userId t := by
  obtain ⟨kind, seen, l⟩ := t
  obtain ⟨l', hstep, -, -⟩ := passwordThread_step h
  have hsame : s'.1 ≠ s.1 := fun heq => hchanged (congrArg (·.currentHash userId) heq)
  have huser : ∀ {owner password}, Rehashes s.1 owner password s'.1 → owner = userId := by
    intro owner password hrehashes
    by_contra hne
    exact hchanged (hrehashes.currentHash_of_ne hne)
  cases kind with
  | changePassword =>
    have hstep' : changePasswordStep w s.1 l = some (s'.1, l') := hstep
    cases l with
    | verifying request =>
      rw [changePasswordStep] at hstep'
      split at hstep' <;> exact absurd (Prod.mk.inj (Option.some.inj hstep')).1.symm hsame
    | writing request verified =>
      have hdb := (Prod.mk.inj (Option.some.inj hstep')).1
      rcases hwrite : writePassword request w.now s.1 with e | ⟨db₁, u⟩
      · rw [atomically, hwrite] at hdb
        exact absurd hdb.symm hsame
      · rw [atomically, hwrite] at hdb
        obtain rfl : db₁ = s'.1 := hdb
        obtain rfl := huser (writePassword_eq_ok hwrite).1
        exact ⟨rfl, hrelies.2.1 hguard, hrelies.2.2⟩
    | done result => cases hstep
  | requestPasswordReset =>
    rcases requestResetStep_cases hstep with hdb | ⟨_, _, _, -, hinsert⟩
    · exact absurd hdb hsame
    · rw [hinsert] at hchanged
      exact absurd rfl hchanged
  | confirmPasswordReset =>
    have hstep' : confirmResetStep w s.1 l = some (s'.1, l') := hstep
    cases l with
    | read input =>
      rw [confirmResetStep] at hstep'
      split at hstep' <;> exact absurd (Prod.mk.inj (Option.some.inj hstep')).1.symm hsame
    | transact input owner now =>
      have hdb := (Prod.mk.inj (Option.some.inj hstep')).1
      rcases hreset : confirmReset input owner now s.1 with e | ⟨db₁, u⟩
      · rw [atomically, hreset] at hdb
        exact absurd hdb.symm hsame
      · rw [atomically, hreset] at hdb
        obtain rfl : db₁ = s'.1 := hdb
        obtain ⟨hrehashes, token, htoken, hunused, hlive, -⟩ := confirmReset_tokens hreset
        obtain rfl := huser hrehashes
        have howner : s.1.tokenOwners.get? input.tokenId = some owner := hrelies
        rw [AuthDatabase.tokenOwners, get?_map, htoken, Option.map_some,
          Option.some.injEq] at howner
        subst howner
        exact ⟨token, htoken, rfl, hunused, hguard token htoken hlive,
          hkept.newest input.tokenId token htoken hunused⟩
    | done result => cases hstep

/-- **Every password change is authorised by the state that it replaces**, and each token authorises
one at most, in a run whose calls do not disturb each other, from users whose unused tokens are the
last ones. -/
theorem password_changes_authorised {db : AuthDatabase}
    (hnewest : ∀ id token, db.passwordResetTokens.get? id = some token → token.usedAt = none →
      db.newestToken token.userId = some id) {c : PasswordConfig settings}
    (hr : Reaches (undisturbed settings) ⟨(db, []), []⟩ c) :
    ChangesAuthorised settings (undisturbed settings) c := by
  have hstart : (passwordOutline settings).shared (db, []) :=
    ⟨hnewest, List.nodup_nil, fun _ h => (nomatch h)⟩
  have hholds := passwordOutline_sound.holds (Outline.holds_idle hstart) hr
  have hkept : TokensKept c.shared := hholds.shared
  exact ⟨fun w t s' t' ht hguard hstep userId hchanged =>
    authorised_of_step hguard hkept (hholds.thread t ht) hstep hchanged, hkept.once⟩

end

/-! ## Calls that disturb each other -/

def passwordStart : PasswordConfig sampleSettings := ⟨(sampleUsers, []), []⟩

def newPassword (current new : String) : ChangePasswordRequest where
  userId := 1
  currentPassword := current
  newPassword := new

/-- Two requests of the customer overlap, a change of the password is verified, and then the token of
the first request is read. -/
def disturbed : PasswordConfig sampleSettings :=
  passwordStart.after [.call .requestPasswordReset "buyer@shop.example",
    .call .requestPasswordReset "buyer@shop.example", .advance 0 {}, .advance 1 {}, .advance 0 {},
    .advance 1 {}, .advance 0 {}, .advance 1 {},
    .call .changePassword (newPassword "a shop of my own" "open all night"), .advance 2 {},
    .call .confirmPasswordReset ⟨0, "closed on sundays"⟩, .advance 3 {}] (by decide +kernel)

def disturbedReset : PasswordConfig sampleSettings :=
  disturbed.after [.advance 3 {}] (by decide +kernel)

def disturbedChange : PasswordConfig sampleSettings :=
  disturbedReset.after [.advance 2 {}] (by decide +kernel)

theorem not_changesAuthorised {c c' : PasswordConfig sampleSettings} {k : ℕ} (userId : RowId)
    (hrun : c.run [.advance k {}] = some c')
    (hchanged : c'.shared.1.currentHash userId ≠ c.shared.1.currentHash userId)
    (hnot : ∀ t ∈ c.threads[k]?, ¬ Authorised sampleSettings {} c.shared.1 userId t) :
    ¬ ChangesAuthorised sampleSettings anyStep c := by
  intro h
  simp only [run, next, Option.bind_eq_bind, Option.bind_eq_some_iff, Option.pure_def,
    Option.some.injEq] at hrun
  obtain ⟨_, ⟨t, ht, ⟨s', t'⟩, hstep, rfl⟩, rfl⟩ := hrun
  exact hnot t ht (h.authorised {} t s' t' (List.mem_of_getElem? ht) trivial hstep userId hchanged)

/-- A token that is not the last one resets the password, and a change overwrites a hash that it has
not verified. -/
theorem disturbed_not_authorised :
    Reaches anyStep passwordStart disturbed ∧ Reaches anyStep disturbed disturbedReset ∧
      disturbed.shared.1.currentHash 1 = some 1 ∧ disturbedReset.shared.1.currentHash 1 = some 2 ∧
      disturbedChange.shared.1.currentHash 1 = some 3 ∧
      ¬ ChangesAuthorised sampleSettings anyStep disturbed ∧
      ¬ ChangesAuthorised sampleSettings anyStep disturbedReset := by
  have hreset : disturbed.run [.advance 3 {}] = some disturbedReset :=
    run_eq_after (by decide +kernel)
  have hchange : disturbedReset.run [.advance 2 {}] = some disturbedChange :=
    run_eq_after (by decide +kernel)
  refine ⟨reaches_anyStep_of_run (run_eq_after (by decide +kernel)), reaches_anyStep_of_run hreset,
    by decide +kernel, by decide +kernel, by decide +kernel, ?_, ?_⟩
  · exact not_changesAuthorised 1 hreset (by decide +kernel) (by decide +kernel)
  · exact not_changesAuthorised 1 hchange (by decide +kernel) (by decide +kernel)

/-- A token is requested and used, and then the new password is changed; the change is about to
commit. -/
def inOrder : PasswordConfig sampleSettings :=
  passwordStart.after [.call .requestPasswordReset "buyer@shop.example", .advance 0 {},
    .advance 0 {}, .advance 0 {}, .call .confirmPasswordReset ⟨0, "closed on sundays"⟩,
    .advance 1 {}, .advance 1 {},
    .call .changePassword (newPassword "closed on sundays" "open all night"), .advance 2 {}]
    (by decide +kernel)

theorem inOrder_authorised :
    inOrder.shared.2 = [(1, some 0)] ∧
      ChangesAuthorised sampleSettings (undisturbed sampleSettings) inOrder := by
  refine ⟨by decide +kernel, password_changes_authorised (fun id token htoken => ?_)
    (reaches_of_run (run_eq_after (by decide +kernel)) (by decide +kernel))⟩
  exact absurd htoken get?_empty_ne

end Auth

end WebhostBilling
