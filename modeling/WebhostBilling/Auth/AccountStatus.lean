import WebhostBilling.Auth.AuthService

/-!
# The status of a customer's account

A user is disabled while its customer is inactive, waits for a verification while the e-mail address
of an active one is not verified, and is active once it is.  `updateAccess` computes the status from
what it read of the user before its transaction, so a verification that lands in between is lost.

A customer is kept together with its user.  Sessions, audit log and mails are not modelled.
-/

namespace WebhostBilling

open Store Store.Table Concurrency Config

namespace Accounts

open Auth (UserStatus AuthService.invalidToken)

/-! ## The store -/

inductive CustomerStatus
  | active
  | inactive
  | suspended
deriving DecidableEq

structure CustomerAccount where
  email : String
  customerStatus : CustomerStatus := .active
  customerDeleted : Bool := false
  role : UserRole := .customer
  userStatus : UserStatus := .pendingVerification
  userDeleted : Bool := false
  emailVerifiedAt : Option ℕ := none

structure EmailVerificationToken where
  userId : RowId
  createdAt : ℕ
  expiresAt : ℕ
  usedAt : Option ℕ := none

structure AccountStore where
  accounts : Table CustomerAccount := ∅
  emailVerificationTokens : Table EmailVerificationToken := ∅
  resends : List (RowId × String) := []

structure AccountWorld where
  now : ℕ := 0
  commits : Bool := true

structure AccountSettings where
  emailVerificationTtlMilliseconds : ℕ

/-! ## Registration and verification -/

inductive SingleStep (Request : Type)
  | transacting (request : Request)
  | done (result : Except Failure Unit)

def SingleStep.step {Request : Type}
    (tx : AccountWorld → Request → Transaction AccountStore Failure Unit) (w : AccountWorld)
    (s : AccountStore) : SingleStep Request → Option (AccountStore × SingleStep Request)
  | .transacting request =>
    let out := atomically (tx w request) s
    some (out.1, .done out.2)
  | .done _ => none

variable (settings : AccountSettings) (w : AccountWorld)

/-- The transaction of `register`. -/
def registerCustomer (email : String) :
    Transaction AccountStore Failure Unit := fun s => do
  require (s.accounts.any (fun _ account => account.email = email) = false)
    (.application .conflict "An account with this email already exists.")
  require (w.commits = true) (.error "not committed")
  return ({ s with
    accounts := s.accounts.insert { email }
    emailVerificationTokens := s.emailVerificationTokens.insert
      { userId := s.accounts.size, createdAt := w.now
        expiresAt := w.now + settings.emailVerificationTtlMilliseconds } }, ())

/-- `register`. -/
def register : Operation AccountStore AccountWorld where
  Request := String
  Local := SingleStep String
  start := .transacting
  step := SingleStep.step (registerCustomer settings)

structure ResendRequest where
  customerId : RowId
  requestId : String
  role : UserRole
  staffRole : Option StaffRole

/-- `resendCustomerVerification`, whose transaction has locked the customer and the user. -/
def resendVerification (request : ResendRequest) :
    Transaction AccountStore Failure Unit := fun s => do
  require (request.role = .admin ∧ request.staffRole = some .fullAdministrator)
    (.application .forbidden "Only a full administrator can resend verification emails.")
  let customerNotFound : Failure := .application .resourceNotFound "Customer was not found."
  let account ← orThrow customerNotFound (s.accounts.get? request.customerId)
  require (account.customerDeleted = false) customerNotFound
  require (account.customerStatus = .active ∧ account.userDeleted = false ∧
      account.role = .customer ∧ account.userStatus = .pendingVerification ∧
      account.emailVerifiedAt = none)
    (.application .conflict
      "Only an active customer awaiting email verification can receive this email.")
  if (request.customerId, request.requestId) ∈ s.resends then return (s, ())
  else do
    require (s.emailVerificationTokens.any (fun _ token =>
        token.userId = request.customerId ∧ w.now < token.createdAt + 60000) = false)
      (.application .rateLimited
        "A verification email was requested recently. Wait one minute before resending.")
    require (w.commits = true) (.error "not committed")
    return ({ s with
      emailVerificationTokens := s.emailVerificationTokens.insert
        { userId := request.customerId, createdAt := w.now
          expiresAt := w.now + settings.emailVerificationTtlMilliseconds }
      resends := (request.customerId, request.requestId) :: s.resends }, ())

/-- `resendCustomerVerification`. -/
def resendCustomerVerification :
    Operation AccountStore AccountWorld where
  Request := ResendRequest
  Local := SingleStep ResendRequest
  start := .transacting
  step := SingleStep.step (resendVerification settings)

/-- The transaction of `verifyEmail`. -/
def consumeVerification (tokenId : RowId) :
    Transaction AccountStore Failure Unit := fun s => do
  let token ← orThrow AuthService.invalidToken (s.emailVerificationTokens.get? tokenId)
  require (token.usedAt = none ∧ w.now < token.expiresAt) AuthService.invalidToken
  let account ← orThrow AuthService.invalidToken (s.accounts.get? token.userId)
  require (account.userStatus = .pendingVerification ∧ account.userDeleted = false)
      AuthService.invalidToken
  require (w.commits = true) (.error "not committed")
  return ({ s with
    emailVerificationTokens := s.emailVerificationTokens.update tokenId fun token =>
      { token with usedAt := some w.now }
    accounts := s.accounts.update token.userId fun account =>
      { account with emailVerifiedAt := some w.now, userStatus := .active } }, ())

/-- `verifyEmail`. -/
def verifyEmail : Operation AccountStore AccountWorld where
  Request := RowId
  Local := SingleStep RowId
  start := .transacting
  step := SingleStep.step consumeVerification

/-! ## Access -/

def accountStatusAfterActivation (emailVerifiedAt : Option ℕ) : UserStatus :=
  if emailVerifiedAt.isSome then .active else .pendingVerification

structure UpdateAccessRequest where
  customerId : RowId
  active : Bool

inductive UpdateAccessState
  | reading (request : UpdateAccessRequest)
  | writing (request : UpdateAccessRequest) (emailVerifiedAt : Option ℕ)
  | done (result : Except Failure Unit)

/-- What `updateAccess` makes of an account. -/
def CustomerAccount.withAccess (account : CustomerAccount) (active : Bool)
    (emailVerifiedAt : Option ℕ) : CustomerAccount :=
  { account with
    customerStatus := if active then .active else .inactive
    userStatus := if active then accountStatusAfterActivation emailVerifiedAt else .disabled }

def updateAccessStep (s : AccountStore) :
    UpdateAccessState → Option (AccountStore × UpdateAccessState)
  | .reading request =>
    match s.accounts.get? request.customerId with
    | some account =>
      if account.customerDeleted = false then some (s, .writing request account.emailVerifiedAt)
      else some (s, .done (.error (.application .resourceNotFound "Customer was not found.")))
    | none => some (s, .done (.error (.application .resourceNotFound "Customer was not found.")))
  | .writing request emailVerifiedAt =>
    if w.commits then
      some ({ s with
        accounts := s.accounts.update request.customerId fun account =>
          account.withAccess request.active emailVerifiedAt }, .done (.ok ()))
    else some (s, .done (.error (.error "not committed")))
  | .done _ => none

/-- `CustomerService.updateAccess`. -/
def updateAccess : Operation AccountStore AccountWorld where
  Request := UpdateAccessRequest
  Local := UpdateAccessState
  start := .reading
  step := updateAccessStep

inductive AccountKind
  | register
  | resendCustomerVerification
  | verifyEmail
  | updateAccess

def accountOps : AccountKind → Operation AccountStore AccountWorld
  | .register => register settings
  | .resendCustomerVerification => resendCustomerVerification settings
  | .verifyEmail => verifyEmail
  | .updateAccess => updateAccess

/-! ## The status -/

def CustomerAccount.StatusAgrees (account : CustomerAccount) : Prop :=
  match account.customerStatus with
  | .inactive => account.userStatus = .disabled
  | .active => account.userStatus = accountStatusAfterActivation account.emailVerifiedAt
  | .suspended => True

instance : DecidablePred CustomerAccount.StatusAgrees := fun account => by
  unfold CustomerAccount.StatusAgrees
  split <;> infer_instance

/-- Every user has the status that the customer's calls for. -/
def StatusesAgree (s : AccountStore) : Prop :=
  ∀ id account, s.accounts.get? id = some account → account.StatusAgrees

/-- When an account is activated, its e-mail address is as verified as it was when it was read. -/
def verifiedAsRead (_w : AccountWorld) (s : AccountStore) :
    Thread (accountOps settings) → Prop
  | ⟨.updateAccess, .writing request emailVerifiedAt⟩ => request.active = true →
    ∀ account ∈ s.accounts.get? request.customerId,
      account.emailVerifiedAt.isSome = emailVerifiedAt.isSome
  | _ => True

instance (settings : AccountSettings) (w : AccountWorld) (s : AccountStore)
    (t : Thread (accountOps settings)) : Decidable (verifiedAsRead settings w s t) := by
  unfold verifiedAsRead
  split <;> infer_instance

/-- What `updateAccess` makes of an account agrees when the account is as verified as it was read. -/
theorem withAccess_agrees_iff (account : CustomerAccount) (active : Bool)
    (emailVerifiedAt : Option ℕ) : (account.withAccess active emailVerifiedAt).StatusAgrees ↔
      (active = true → account.emailVerifiedAt.isSome = emailVerifiedAt.isSome) := by
  cases active with
  | false => exact ⟨fun _ h => (nomatch h), fun _ => rfl⟩
  | true =>
    show accountStatusAfterActivation emailVerifiedAt =
      accountStatusAfterActivation account.emailVerifiedAt ↔ _
    rw [accountStatusAfterActivation, accountStatusAfterActivation]
    cases emailVerifiedAt <;> cases account.emailVerifiedAt <;> simp

section

variable {settings w} {s s' : AccountStore}

theorem StatusesAgree.update (h : StatusesAgree s) {id : RowId}
    {f : CustomerAccount → CustomerAccount}
    (hs : s'.accounts = s.accounts.update id f)
    (hf : ∀ account, s.accounts.get? id = some account → account.StatusAgrees →
      (f account).StatusAgrees) : StatusesAgree s' := by
  intro id' account haccount
  rw [hs] at haccount
  rcases get?_update_cases haccount with ⟨rfl, row, hrow, rfl⟩ | ⟨-, hold⟩
  · exact hf row hrow (h id row hrow)
  · exact h id' account hold

theorem StatusesAgree.register {email : String} {u : Unit} (h : StatusesAgree s)
    (hs : registerCustomer settings w email s = .ok (s', u)) : StatusesAgree s' := by
  simp only [registerCustomer, eq_ok] at hs
  obtain ⟨-, -, rfl, -⟩ := hs
  intro id account haccount
  rcases get?_insert_cases haccount with ⟨-, rfl⟩ | hold
  · rfl
  · exact h id account hold

theorem StatusesAgree.resend {request : ResendRequest} {u : Unit} (h : StatusesAgree s)
    (hs : resendVerification settings w request s = .ok (s', u)) : StatusesAgree s' := by
  simp only [resendVerification, eq_ok] at hs
  obtain ⟨-, -, -, -, -, hs⟩ := hs
  split at hs
  · obtain ⟨rfl, -⟩ := Prod.mk.inj (pure_eq_ok.1 hs)
    exact h
  · simp only [eq_ok] at hs
    obtain ⟨-, -, rfl, -⟩ := hs
    exact h

theorem StatusesAgree.verify {tokenId : RowId} {u : Unit} (h : StatusesAgree s)
    (hs : consumeVerification w tokenId s = .ok (s', u)) : StatusesAgree s' := by
  simp only [consumeVerification, eq_ok] at hs
  obtain ⟨token, -, -, account, haccount, hpending, -, rfl, -⟩ := hs
  refine h.update rfl fun account' haccount' hagrees => ?_
  obtain rfl := Option.mem_unique haccount haccount'
  rw [CustomerAccount.StatusAgrees] at hagrees ⊢
  cases hstatus : account.customerStatus with
  | active => rfl
  | inactive =>
    rw [hstatus, hpending.1] at hagrees
    cases hagrees
  | suspended => trivial

theorem StatusesAgree.single {Request : Type}
    {tx : AccountWorld → Request → Transaction AccountStore Failure Unit}
    {l l' : SingleStep Request} (h : StatusesAgree s)
    (htx : ∀ request s' u, tx w request s = .ok (s', u) → StatusesAgree s')
    (hstep : l.step tx w s = some (s', l')) : StatusesAgree s' := by
  cases l with
  | transacting request =>
    obtain ⟨rfl, -⟩ := Prod.mk.inj (Option.some.inj hstep)
    rw [atomically]
    rcases hout : tx w request s with e | ⟨s₁, u⟩
    · exact h
    · exact htx request s₁ u hout
  | done => cases hstep

theorem StatusesAgree.access {l l' : UpdateAccessState} (h : StatusesAgree s)
    (hread : ∀ request emailVerifiedAt, l = .writing request emailVerifiedAt →
      request.active = true → ∀ account ∈ s.accounts.get? request.customerId,
        account.emailVerifiedAt.isSome = emailVerifiedAt.isSome)
    (hstep : updateAccessStep w s l = some (s', l')) : StatusesAgree s' := by
  cases l with
  | reading request =>
    rw [updateAccessStep] at hstep
    split at hstep
    · split at hstep <;> obtain ⟨rfl, -⟩ := Prod.mk.inj (Option.some.inj hstep)
      · exact h
      · exact h
    · obtain ⟨rfl, -⟩ := Prod.mk.inj (Option.some.inj hstep)
      exact h
  | writing request emailVerifiedAt =>
    rw [updateAccessStep] at hstep
    split at hstep <;> obtain ⟨rfl, -⟩ := Prod.mk.inj (Option.some.inj hstep)
    · refine h.update rfl fun account haccount _ => ?_
      exact (withAccess_agrees_iff account request.active emailVerifiedAt).2 fun hactive =>
        hread request emailVerifiedAt rfl hactive account haccount
    · exact h
  | done result => cases hstep

theorem StatusesAgree.step (h : StatusesAgree s) {t t' : Thread (accountOps settings)}
    (hread : verifiedAsRead settings w s t) (hstep : t.step w s = some (s', t')) :
    StatusesAgree s' := by
  obtain ⟨kind, l⟩ := t
  obtain ⟨l', hop, rfl⟩ := Thread.step_eq_some hstep
  cases kind with
  | register => exact h.single (fun _ _ _ => h.register) hop
  | resendCustomerVerification => exact h.single (fun _ _ _ => h.resend) hop
  | verifyEmail => exact h.single (fun _ _ _ => h.verify) hop
  | updateAccess =>
    refine h.access (fun request emailVerifiedAt hl => ?_) hop
    obtain rfl : l = .writing request emailVerifiedAt := hl
    exact hread

/-- **The status of every account agrees** in every state of a run in which no verification lands
between what `updateAccess` reads and what it writes. -/
theorem account_statuses_agree (h : StatusesAgree s) {c : Config (accountOps settings)}
    (hr : Reaches (verifiedAsRead settings) ⟨s, []⟩ c) : StatusesAgree c.shared := by
  induction hr with
  | refl => exact h
  | tail _ hstep ih =>
    cases hstep with
    | call op request => exact ih
    | advance _ hread hstep => exact ih.step hread hstep

end

/-! ## A verification that is lost -/

def accountSettings : AccountSettings := ⟨86400000⟩

/-- The customer verifies the address between what `updateAccess` reads and what it writes. -/
def lostVerification : Config (accountOps accountSettings) :=
  Config.after ⟨{}, []⟩ [.call .register "buyer@shop.example", .advance 0 {},
    .call .updateAccess ⟨0, true⟩, .advance 1 {}, .call .verifyEmail (0 : RowId),
    .advance 2 { now := 1 }, .advance 1 { now := 2 },
    .call .resendCustomerVerification ⟨0, "again", .admin, some .fullAdministrator⟩,
    .advance 3 { now := 70000 }] (by decide +kernel)

/-- The customer is verified and waits for a verification, which is not sent again. -/
theorem verification_lost :
    Reaches anyStep ⟨{}, []⟩ lostVerification ∧ ¬ StatusesAgree lostVerification.shared ∧
      (∃ account ∈ lostVerification.shared.accounts.get? 0, account.customerStatus = .active ∧
        account.emailVerifiedAt = some 1 ∧ account.userStatus = .pendingVerification) ∧
      lostVerification.shared.resends = [] := by
  have haccount : ∃ account ∈ lostVerification.shared.accounts.get? 0,
      account.customerStatus = .active ∧ account.emailVerifiedAt = some 1 ∧
        account.userStatus = .pendingVerification := by decide +kernel
  refine ⟨reaches_anyStep_of_run (run_eq_after (by decide +kernel)), fun h => ?_, haccount,
    by decide +kernel⟩
  obtain ⟨account, hrow, hactive, hverified, hpending⟩ := haccount
  have hagrees := h 0 account hrow
  rw [CustomerAccount.StatusAgrees, hactive, hverified, hpending] at hagrees
  cases hagrees

def verifiedInTime : Config (accountOps accountSettings) :=
  Config.after ⟨{}, []⟩ [.call .register "buyer@shop.example", .advance 0 {},
    .call .updateAccess ⟨0, true⟩, .advance 1 {}, .advance 1 {}, .call .verifyEmail (0 : RowId),
    .advance 2 { now := 1 }, .call .updateAccess ⟨0, true⟩, .advance 3 {}, .advance 3 {}]
    (by decide +kernel)

theorem verifiedInTime_agrees : StatusesAgree verifiedInTime.shared := by
  have hempty : StatusesAgree {} := fun id account haccount => absurd haccount get?_empty_ne
  exact account_statuses_agree hempty
    (reaches_of_run (run_eq_after (by decide +kernel)) (by decide +kernel))

end Accounts

end WebhostBilling
