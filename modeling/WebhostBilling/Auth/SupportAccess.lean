import WebhostBilling.Auth.SupportSessions
import WebhostBilling.Staff.FullAdministrators

/-!
# What a support session gives access to

A request with a support cookie is given the customer's identity for reading only, while the support
session runs and its customer may be supported.  The administrator's session was accepted a little
earlier, when the same request asked for it.
-/

namespace WebhostBilling

open Store Store.Table Concurrency Config

namespace Support

open Auth

/-! ## Support sessions and what was noted of them -/

abbrev NotedStore := SupportStore × List SupportEvent

def Noted (s : NotedStore) : Prop :=
  ∀ id session, s.1.customerSupportSessions.get? id = some session →
    (∃ startedAt, .started id session.adminSessionId session.customerId startedAt ∈ s.2 ∧
      session.expiresAt = startedAt + supportSessionTtl) ∧
    (.ended id ∈ s.2 → session.endedAt.isSome)

def EndsKnown (s : NotedStore) : Prop :=
  ∀ id, .ended id ∈ s.2 → id < s.1.customerSupportSessions.size

inductive SupportWrite (s : SupportStore) : SupportStore → List SupportEvent → Prop
  | nothing {s' : SupportStore}
      (h : s'.customerSupportSessions = s.customerSupportSessions) : SupportWrite s s' []
  | starts (request : StartRequest) (startedAt : ℕ) :
      SupportWrite s
        { s with
          customerSupportSessions := s.customerSupportSessions.insert
            { adminSessionId := request.admin.sessionId, customerId := request.customerId
              expiresAt := startedAt + supportSessionTtl } }
        [.started s.customerSupportSessions.size request.admin.sessionId request.customerId
          startedAt]
  | ends {sessionId now : ℕ} {session : CustomerSupportSession}
      (hsession : s.customerSupportSessions.get? sessionId = some session) :
      SupportWrite s (s.endSession sessionId now)
        (if session.endedAt = none then [.ended sessionId] else [])

section

variable {settings : AuthSettings} {staffSettings : StaffSettings} {w : SupportWorld}
  {s s' : SupportStore} {events : List SupportEvent}

variable {id : RowId} {session : CustomerSupportSession} {n n' : NotedStore}

theorem createSupportSession_eq_ok {request : StartRequest} {startedAt : ℕ}
    (h : createSupportSession request startedAt s = .ok (s', id)) :
    id = s.customerSupportSessions.size ∧ s' = { s with
      customerSupportSessions := s.customerSupportSessions.insert
        { adminSessionId := request.admin.sessionId, customerId := request.customerId
          expiresAt := startedAt + supportSessionTtl } } := by
  simp only [createSupportSession, eq_ok] at h
  obtain ⟨-, -, rfl, rfl⟩ := h
  exact ⟨rfl, rfl⟩

theorem EndRequest.found_eq_some {request : EndRequest} (h : request.found s = some (id, session)) :
    s.customerSupportSessions.get? id = some session := by
  simp only [EndRequest.found, eq_some] at h
  obtain ⟨adminToken, -, supportToken, -, session', hsession, -, heq⟩ := h
  obtain ⟨rfl, rfl⟩ := Prod.mk.inj heq
  exact hsession

theorem requestStep_sessions {request : ApiRequest} {state state' : RequestState}
    (h : requestStep settings w s request state = some (s', state')) :
    s'.customerSupportSessions = s.customerSupportSessions := by
  cases state with
  | guarding | authenticating token =>
    obtain ⟨rfl, -⟩ := Prod.mk.inj (Option.some.inj h)
    rfl
  | writing context state =>
    obtain ⟨out, -, rfl, -⟩ := map_eq_some_pair.1 h
    rfl
  | resolving context supportToken =>
    rw [requestStep] at h
    split at h <;> obtain ⟨rfl, -⟩ := Prod.mk.inj (Option.some.inj h) <;> rfl
  | done => cases h

abbrev notedOps (settings : AuthSettings) (staffSettings : StaffSettings) :
    SupportKind → Operation NotedStore SupportWorld :=
  tracedFamily (supportOps settings staffSettings) (supportEvents settings staffSettings)

theorem supportWrite_of_step {t t' : Thread (notedOps settings staffSettings)}
    (h : t.step w n = some (n', t')) :
    ∃ events, SupportWrite n.1 n'.1 events ∧ n'.2 = n.2 ++ events := by
  obtain ⟨kind, l⟩ := t
  obtain ⟨l', hstep, htrace, rfl⟩ := Thread.traced_step h
  refine ⟨_, ?_, htrace⟩
  cases kind with
  | startCustomerSupportSession =>
    cases l with
    | preparing request =>
      have hrun : startStep w n.1 (.preparing request) = some (n'.1, l') := hstep
      rw [startStep] at hrun
      split at hrun <;> obtain ⟨hs, -⟩ := Prod.mk.inj (Option.some.inj hrun) <;>
        exact .nothing (by rw [← hs])
    | creating request startedAt =>
      obtain ⟨hs, -⟩ := Prod.mk.inj (Option.some.inj hstep)
      rw [supportEvents, ← hs, atomically]
      cases hcreate : createSupportSession request startedAt n.1 with
      | error e => exact .nothing rfl
      | ok out =>
        obtain ⟨created, id⟩ := out
        obtain ⟨rfl, rfl⟩ := createSupportSession_eq_ok hcreate
        exact .starts request startedAt
    | done => cases hstep
  | endCustomerSupportSession =>
    cases l with
    | ending request =>
      have hrun : endStep w n.1 (.ending request) = some (n'.1, l') := hstep
      rw [endStep] at hrun
      rw [supportEvents]
      cases hfound : request.found n.1 with
      | some entry =>
        rw [hfound] at hrun
        obtain ⟨hs, -⟩ := Prod.mk.inj (Option.some.inj hrun)
        rw [← hs]
        exact .ends (EndRequest.found_eq_some hfound)
      | none =>
        rw [hfound] at hrun
        obtain ⟨hs, -⟩ := Prod.mk.inj (Option.some.inj hrun)
        rw [← hs]
        exact .nothing rfl
    | done => cases hstep
  | apiRequest =>
    obtain ⟨request, state⟩ := l
    obtain ⟨out, hout, hs, -⟩ := map_eq_some_pair.1 hstep
    exact .nothing (by rw [← hs]; exact requestStep_sessions hout)
  | auth kind =>
    obtain ⟨⟨auth, l₁⟩, -, hs, -⟩ := map_eq_some_pair.1 hstep
    exact .nothing (by rw [← hs])
  | staff kind =>
    obtain ⟨⟨staff, l₁⟩, -, hs, -⟩ := map_eq_some_pair.1 hstep
    exact .nothing (by rw [← hs])
  | elsewhere =>
    obtain ⟨written, -, hs, -⟩ := map_eq_some_pair.1 hstep
    exact .nothing (by rw [← hs])

/-! ## What is kept -/

theorem get?_endSession {id sessionId now : ℕ}
    (h : (s.endSession sessionId now).customerSupportSessions.get? id = some session) :
    ∃ old, s.customerSupportSessions.get? id = some old ∧
      session.adminSessionId = old.adminSessionId ∧ session.customerId = old.customerId ∧
      session.expiresAt = old.expiresAt ∧ (old.endedAt.isSome → session.endedAt.isSome) ∧
      (id = sessionId → session.endedAt.isSome) := by
  obtain ⟨old, hold, rfl⟩ := get?_updateWhere_cases h
  refine ⟨old, hold, ?_⟩
  split
  · exact ⟨rfl, rfl, rfl, fun _ => rfl, fun _ => rfl⟩
  · rename_i hkept
    refine ⟨rfl, rfl, rfl, fun hsome => hsome, fun hid => ?_⟩
    rw [decide_eq_true_eq, not_and] at hkept
    exact Option.isSome_iff_ne_none.2 (hkept hid)

theorem noted_of_write (h : Noted n ∧ EndsKnown n) (hwrite : SupportWrite n.1 n'.1 events)
    (htrace : n'.2 = n.2 ++ events) :
    Noted n' ∧ EndsKnown n' := by
  obtain ⟨hnoted, hends⟩ := h
  obtain ⟨s, trace⟩ := n
  obtain ⟨s', trace'⟩ := n'
  obtain rfl : trace' = trace ++ events := htrace
  cases hwrite with
  | nothing hsame =>
    rw [List.append_nil]
    exact ⟨fun id session hsession => hnoted id session (hsame ▸ hsession),
      fun id hid => lt_of_lt_of_eq (hends id hid) (congrArg Table.size hsame.symm)⟩
  | starts request startedAt =>
    refine ⟨fun id session hsession => ?_, fun id hid => ?_⟩
    · rcases get?_insert_cases hsession with ⟨rfl, rfl⟩ | hold
      · refine ⟨⟨startedAt, List.mem_append_right _ (List.mem_singleton.2 rfl), rfl⟩, fun hended => ?_⟩
        rcases List.mem_append.1 hended with hended | hended
        · exact absurd (hends _ hended) (Nat.lt_irrefl _)
        · cases List.mem_singleton.1 hended
      · obtain ⟨⟨t, hstarted, hexpires⟩, hended⟩ := hnoted id session hold
        refine ⟨⟨t, List.mem_append_left _ hstarted, hexpires⟩, fun hmem => ?_⟩
        rcases List.mem_append.1 hmem with hmem | hmem
        · exact hended hmem
        · cases List.mem_singleton.1 hmem
    · rcases List.mem_append.1 hid with hid | hid
      · exact lt_of_lt_of_le (hends id hid) (by rw [size_insert]; exact Nat.le_succ _)
      · cases List.mem_singleton.1 hid
  | @ends sessionId now session hsession =>
    have hmem : ∀ {id : RowId}, SupportEvent.ended id ∈ trace ++
        (if session.endedAt = none then [.ended sessionId] else []) →
          SupportEvent.ended id ∈ trace ∨ id = sessionId := by
      intro id hid
      rcases List.mem_append.1 hid with hid | hid
      · exact .inl hid
      · split at hid
        · exact .inr (SupportEvent.ended.inj (List.mem_singleton.1 hid))
        · cases hid
    refine ⟨fun id row hrow => ?_, fun id hid => ?_⟩
    · obtain ⟨old, hold, hadmin, hcustomer, hexpires, hkept, hnew⟩ := get?_endSession hrow
      obtain ⟨⟨t, hstarted, hexpiry⟩, hended⟩ := hnoted id old hold
      rw [hadmin, hcustomer, hexpires]
      refine ⟨⟨t, List.mem_append_left _ hstarted, hexpiry⟩, fun hid => ?_⟩
      rcases hmem hid with hid | hid
      · exact hkept (hended hid)
      · exact hnew hid
    · have hsize : (s.endSession sessionId now).customerSupportSessions.size =
          s.customerSupportSessions.size := size_updateWhere _ _ _
      show id < (s.endSession sessionId now).customerSupportSessions.size
      rw [hsize]
      rcases hmem hid with hid | rfl
      · exact hends id hid
      · exact lt_size_of_get? hsession

variable {c : Config (notedOps settings staffSettings)}

theorem noted_of_reaches (h : Noted n ∧ EndsKnown n) (hr : Reaches anyStep ⟨n, []⟩ c) :
    Noted c.shared ∧ EndsKnown c.shared := by
  induction hr with
  | refl => exact h
  | tail _ hstep ih =>
    cases hstep with
    | call op request => exact ih
    | advance _ _ hstep =>
      obtain ⟨events, hwrite, htrace⟩ := supportWrite_of_step hstep
      exact noted_of_write ih hwrite htrace

/-! ## Requests -/

def requestView : Thread (notedOps settings staffSettings) → Option (ApiRequest × RequestState)
  | ⟨.apiRequest, (l : ApiRequest × RequestState)⟩ => some l
  | _ => none

theorem requestView_of_step {t t' : Thread (notedOps settings staffSettings)} {n n' : NotedStore}
    {request : ApiRequest} {state : RequestState} (h : t.step w n = some (n', t'))
    (hview : requestView t' = some (request, state)) :
    ∃ earlier, requestView t = some (request, earlier) ∧
      requestStep settings w n.1 request earlier = some (n'.1, state) := by
  obtain ⟨kind, l⟩ := t
  obtain ⟨l', hstep, -, rfl⟩ := Thread.traced_step h
  cases kind with
  | apiRequest =>
    obtain ⟨request₁, earlier⟩ := l
    obtain ⟨out, hout, hs, rfl⟩ := map_eq_some_pair.1 hstep
    cases hview
    exact ⟨earlier, rfl, by rw [← hs]; exact hout⟩
  | startCustomerSupportSession | endCustomerSupportSession | auth | staff | elsewhere =>
    cases hview

end

/-- A support session may be used for what the request asks for. -/
def ApiRequest.SupportRead (request : ApiRequest) : Prop :=
  request.read = true ∧ request.handler.access = some .read

def ApiRequest.SupportPublic (request : ApiRequest) : Prop :=
  request.handler.isPublic = true ∧ ((request.read = true ∧ request.handler.access = some .read) ∨
    request.handler.access = some .end)

def Guarded (request : ApiRequest) : RequestState → Prop
  | .guarding => True
  | .authenticating token =>
    request.sessionToken = some token ∧ (request.supportToken.isSome → request.SupportRead)
  | .writing context state =>
    (∀ known ∈ context, request.sessionToken = some known.sessionId) ∧
      (request.supportToken.isSome → request.SupportRead) ∧ ∀ token, state ≠ .read token
  | .resolving context supportToken =>
    request.supportToken = some supportToken ∧ request.sessionToken = some context.sessionId ∧
      request.SupportRead ∧ context.fullAdministrator = true
  | .done (.ok none) => request.supportToken.isSome → request.SupportPublic
  | .done (.ok (some (.own _))) => request.supportToken = none
  | .done (.ok (some (.support identity))) =>
    request.supportToken = some identity.sessionId ∧ request.SupportRead
  | .done (.error _) => True

section

variable {settings : AuthSettings} {staffSettings : StaffSettings} {w : SupportWorld}
  {s s' : SupportStore} {request : ApiRequest} {state state' : RequestState}

theorem guarded_canActivate (request : ApiRequest) : Guarded request (canActivate request) := by
  rw [canActivate]
  split
  · split
    · rename_i hpass
      exact fun _ => hpass
    · split
      · trivial
      · rename_i hread
        rw [not_or, Bool.not_eq_false, not_not] at hread
        split
        · rename_i token htoken
          exact ⟨htoken, fun _ => hread⟩
        · trivial
  · rename_i hnone
    split
    · exact fun hsome => absurd hsome hnone
    · split
      · rename_i token htoken
        exact ⟨htoken, fun hsome => absurd hsome hnone⟩
      · trivial

variable {db : AuthDatabase} {aw : AuthWorld} {token : RowId} {context : SessionContext}

theorem guarded_afterAuthentication (htoken : request.sessionToken = some context.sessionId)
    (hread : request.supportToken.isSome → request.SupportRead) :
    Guarded request (afterAuthentication request context) := by
  rw [afterAuthentication]
  split
  · rename_i hnone
    exact hnone
  · rename_i supportToken hsome
    split
    · rename_i hfull
      exact ⟨hsome, htoken, hread (Option.isSome_of_eq_some hsome), hfull⟩
    · trivial

theorem guarded_proceed {context : Option SessionContext} {state : AuthService.AuthenticateState}
    (htoken : ∀ known ∈ context, request.sessionToken = some known.sessionId)
    (hread : request.supportToken.isSome → request.SupportRead)
    (hstate : ∀ token, state ≠ .read token) : Guarded request (proceed request context state) := by
  cases state with
  | read token => exact absurd rfl (hstate token)
  | revoking | touching => exact ⟨htoken, hread, fun _ h => nomatch h⟩
  | done result =>
    cases result with
    | error e => trivial
    | ok id =>
      cases context with
      | none => trivial
      | some known => exact guarded_afterAuthentication (htoken known rfl) hread

theorem contextOf_sessionId
    (h : contextOf token db = some context) : context.sessionId = token := by
  simp only [contextOf, eq_some] at h
  obtain ⟨-, -, -, -, rfl⟩ := h
  rfl

theorem readSession_ne_read (token' : RowId) :
    AuthService.readSession settings aw token db ≠ .read token' := by
  rw [AuthService.readSession]
  split
  · exact fun h => nomatch h
  · split
    · exact fun h => nomatch h
    · split
      · exact fun h => nomatch h
      · split <;> exact fun h => nomatch h

theorem authenticateStep_ne_read
    {state : AuthService.AuthenticateState} {out : AuthDatabase × AuthService.AuthenticateState}
    (h : AuthService.authenticateStep settings aw db state = some out) (token : RowId) :
    out.2 ≠ .read token := by
  cases state with
  | read id =>
    obtain rfl := Option.some.inj h
    exact readSession_ne_read token
  | revoking id now =>
    rw [AuthService.authenticateStep] at h
    split at h <;> obtain rfl := Option.some.inj h <;> rintro ⟨⟩
  | touching id now legacy =>
    obtain rfl := Option.some.inj h
    rintro ⟨⟩
  | done => cases h

theorem findSupportSession_eq_some {now adminSessionId supportToken : ℕ}
    {session : CustomerSupportSession} {customer : CustomerProfile}
    (h : findSupportSession s now adminSessionId supportToken = some (session, customer)) :
    s.customerSupportSessions.get? supportToken = some session ∧
      s.customers.get? session.customerId = some customer ∧
      session.adminSessionId = adminSessionId ∧ session.endedAt = none ∧
      now < session.expiresAt ∧ eligibleSupportCustomer s.staff.auth customer = true := by
  simp only [findSupportSession, eq_some] at h
  obtain ⟨session', hsession, customer', hcustomer, hvalid, heq⟩ := h
  obtain ⟨rfl, rfl⟩ := Prod.mk.inj heq
  exact ⟨hsession, hcustomer, hvalid⟩

theorem requestStep_guarded (h : Guarded request state)
    (hstep : requestStep settings w s request state = some (s', state')) :
    Guarded request state' := by
  cases state with
  | guarding =>
    obtain ⟨-, rfl⟩ := Prod.mk.inj (Option.some.inj hstep)
    exact guarded_canActivate request
  | authenticating token =>
    obtain ⟨-, rfl⟩ := Prod.mk.inj (Option.some.inj hstep)
    refine guarded_proceed (fun known hknown => ?_) h.2 readSession_ne_read
    rw [h.1, contextOf_sessionId hknown]
  | writing context state =>
    obtain ⟨out, hout, -, rfl⟩ := map_eq_some_pair.1 hstep
    exact guarded_proceed h.1 h.2.1 (authenticateStep_ne_read hout)
  | resolving context supportToken =>
    rw [requestStep] at hstep
    split at hstep <;> obtain ⟨-, rfl⟩ := Prod.mk.inj (Option.some.inj hstep)
    · exact ⟨h.1, h.2.2.1⟩
    · trivial
  | done => cases hstep

def guardOutline (settings : AuthSettings) (staffSettings : StaffSettings) :
    Outline (notedOps settings staffSettings) where
  shared _ := True
  thread _ t := ∀ entry ∈ requestView t, Guarded entry.1 entry.2

theorem guardOutline_sound (settings : AuthSettings) (staffSettings : StaffSettings) :
    (guardOutline settings staffSettings).Sound anyStep where
  symm _ _ h := h
  call _ op request _ := by
    intro entry hentry
    cases op with
    | apiRequest =>
      obtain rfl := Option.some.inj hentry
      trivial
    | startCustomerSupportSession | endCustomerSupportSession | auth | staff | elsewhere =>
      cases hentry
  call_apart _ _ _ := trivial
  own _ _ t _ _ _ _ ht hstep := by
    refine ⟨trivial, fun entry hentry => ?_⟩
    obtain ⟨earlier, hview, hrun⟩ := requestView_of_step hstep hentry
    exact requestStep_guarded (ht (entry.1, earlier) hview) hrun
  other _ _ _ _ _ _ _ _ _ hu hapart _ := ⟨hu, hapart⟩

/-! ## When the administrator was accepted -/

def AdministratorAccepted (settings : AuthSettings) (now : ℕ) (s : SupportStore)
    (sessionId administratorId : RowId) : Prop :=
  s.staff.auth.accepts settings now sessionId = true ∧
    ∃ context ∈ contextOf sessionId s.staff.auth,
      context.userId = administratorId ∧ context.fullAdministrator = true
deriving Decidable

def GoesOn (context : SessionContext) : RequestState → Prop
  | .writing known (.touching _ _ _) => known = some context
  | .resolving known _ => known = context
  | _ => False

theorem proceed_goesOn (h : GoesOn context (proceed request (contextOf token db)
      (AuthService.readSession settings aw token db))) :
    db.accepts settings aw.now token = true ∧ contextOf token db = some context := by
  rw [AuthService.readSession] at h
  split at h
  · exact h.elim
  · split at h
    · exact h.elim
    · split at h
      · exact h.elim
      · rename_i haccepts
        refine ⟨Bool.eq_true_of_not_eq_false haccepts, ?_⟩
        split at h
        · exact h
        · rw [proceed] at h
          cases hcontext : contextOf token db with
          | none =>
            rw [hcontext] at h
            exact h.elim
          | some known =>
            rw [hcontext, Option.elim_some, afterAuthentication] at h
            split at h
            · exact h.elim
            · split at h
              · rw [show known = context from h]
              · exact h.elim

theorem requestStep_goesOn (hguarded : Guarded request state)
    (hnot : ¬ GoesOn context state) (h : GoesOn context state')
    (hstep : requestStep settings w s request state = some (s', state')) :
    state = .authenticating context.sessionId ∧
      s.staff.auth.accepts settings w.now context.sessionId = true ∧
      contextOf context.sessionId s.staff.auth = some context := by
  cases state with
  | guarding =>
    obtain ⟨-, rfl⟩ := Prod.mk.inj (Option.some.inj hstep)
    rw [canActivate] at h
    split at h
    · split at h
      · exact h.elim
      · split at h
        · exact h.elim
        · split at h <;> exact h.elim
    · split at h
      · exact h.elim
      · split at h <;> exact h.elim
  | authenticating token =>
    obtain ⟨-, rfl⟩ := Prod.mk.inj (Option.some.inj hstep)
    obtain ⟨haccepts, hcontext⟩ := proceed_goesOn h
    obtain rfl := contextOf_sessionId hcontext
    exact ⟨rfl, haccepts, hcontext⟩
  | writing known pending =>
    obtain ⟨out, hout, -, rfl⟩ := map_eq_some_pair.1 hstep
    cases pending with
    | read token => exact absurd rfl (hguarded.2.2 token)
    | revoking id now =>
      rw [AuthService.authenticateStep] at hout
      split at hout <;> obtain rfl := Option.some.inj hout <;> exact h.elim
    | touching id now legacy =>
      obtain rfl := Option.some.inj hout
      rw [proceed] at h
      cases known with
      | none => exact h.elim
      | some known =>
        refine absurd ?_ hnot
        rw [Option.elim_some, afterAuthentication] at h
        split at h
        · exact h.elim
        · split at h
          · exact congrArg some h
          · exact h.elim
    | done => cases hout
  | resolving known supportToken =>
    rw [requestStep] at hstep
    split at hstep <;> obtain ⟨-, rfl⟩ := Prod.mk.inj (Option.some.inj hstep) <;> exact h.elim
  | done => cases hstep

end

/-! ## Runs -/

/-- What holds when a request is given a customer's identity: it reads a handler that is marked for
it, and the support session that the administrator's session has started runs for a customer who may
be supported. -/
structure Admitted (w : SupportWorld) (n : NotedStore) (request : ApiRequest)
    (identity : SupportIdentity) (adminSessionId : RowId) : Prop where
  cookies : request.supportToken = some identity.sessionId ∧
    request.sessionToken = some adminSessionId
  reading : request.SupportRead
  started : ∃ startedAt,
    .started identity.sessionId adminSessionId identity.customerId startedAt ∈ n.2 ∧
      w.now < startedAt + supportSessionTtl
  running : .ended identity.sessionId ∉ n.2
  eligible : ∃ customer, n.1.customers.get? identity.customerId = some customer ∧
    customer.userId = identity.userId ∧
      eligibleSupportCustomer n.1.staff.auth customer = true

section

variable {settings : AuthSettings} {staffSettings : StaffSettings} {w : SupportWorld}
  {n n' : NotedStore} {c : Config (notedOps settings staffSettings)} {k : ℕ}
  {t t' : Thread (notedOps settings staffSettings)} {request : ApiRequest}
  {identity : SupportIdentity}

theorem resolving_of_support {s s' : SupportStore} {state : RequestState}
    (hguarded : Guarded request state) (hstep : requestStep settings w s request state =
      some (s', .done (.ok (some (.support identity))))) :
    ∃ context session customer, state = .resolving context identity.sessionId ∧
      identity.administratorId = context.userId ∧ identity.customerId = session.customerId ∧
      identity.userId = customer.userId ∧
      findSupportSession s w.now context.sessionId identity.sessionId = some
    (session, customer) := by
  have hafter : ∀ context : SessionContext,
      afterAuthentication request context ≠ .done (.ok (some (.support identity))) := by
    intro context
    rw [afterAuthentication]
    split
    · exact fun h => nomatch h
    · split <;> exact fun h => nomatch h
  have hproceed : ∀ (context : Option SessionContext) pending,
      proceed request context pending ≠ .done (.ok (some (.support identity))) := by
    intro context pending
    cases pending with
    | done result =>
      cases result with
      | error e => exact fun h => nomatch h
      | ok id =>
        cases context with
        | none => exact fun h => nomatch h
        | some context => exact hafter context
    | _ => exact fun h => nomatch h
  cases state with
  | guarding =>
    obtain ⟨-, hdone⟩ := Prod.mk.inj (Option.some.inj hstep)
    rw [canActivate] at hdone
    split at hdone
    · split at hdone
      · cases hdone
      · split at hdone
        · cases hdone
        · split at hdone <;> cases hdone
    · split at hdone
      · cases hdone
      · split at hdone <;> cases hdone
  | authenticating token =>
    obtain ⟨-, hdone⟩ := Prod.mk.inj (Option.some.inj hstep)
    exact absurd hdone (hproceed _ _)
  | writing context pending =>
    obtain ⟨out, -, -, hdone⟩ := map_eq_some_pair.1 hstep
    exact absurd hdone (hproceed _ _)
  | resolving context supportToken =>
    rw [requestStep] at hstep
    split at hstep
    · rename_i session customer hfound
      obtain ⟨-, hdone⟩ := Prod.mk.inj (Option.some.inj hstep)
      cases hdone
      exact ⟨context, session, customer, rfl, rfl, rfl, rfl, hfound⟩
    · obtain ⟨-, hdone⟩ := Prod.mk.inj (Option.some.inj hstep)
      cases hdone
  | done => cases hstep

/-- **What is certain of requests with a support cookie.** -/
structure SupportBounded (start c : Config (notedOps settings staffSettings)) : Prop where
  /-- A customer's identity is given as it should be, and the administrator's session was accepted
  in the earlier step in which the same request read it. -/
  given : ∀ (k : ℕ) t w n' t' request identity, c.threads[k]? = some t →
    t.step w c.shared = some (n', t') →
    requestView t' = some (request, .done (.ok (some (.support identity)))) →
    ∃ adminSessionId, Admitted w c.shared request identity adminSessionId ∧
      ∃ c₁, ∃ w₁ : SupportWorld, ∃ u n₁ u', Reaches anyStep start c₁ ∧ c₁.threads[k]? = some u ∧
        requestView u = some (request, .authenticating adminSessionId) ∧
        u.step w₁ c₁.shared = some (n₁, u') ∧ Reaches anyStep ⟨n₁, c₁.threads.set k u'⟩ c ∧
        AdministratorAccepted settings w₁.now c₁.shared.1 adminSessionId identity.administratorId
  passed : ∀ t request auth, t ∈ c.threads → requestView t = some (request, .done (.ok auth)) →
    request.supportToken.isSome →
    (∃ identity, auth = some (.support identity) ∧ request.SupportRead) ∨
      (auth = none ∧ request.SupportPublic)

/-- **Support access is bounded and read-only** in every run. -/
theorem support_access_bounded (h : n.1.customerSupportSessions = ∅ ∧ n.2 = [])
    (hr : Reaches anyStep ⟨n, []⟩ c) : SupportBounded ⟨n, []⟩ c := by
  have hstart : Noted n ∧ EndsKnown n := by
    refine ⟨fun id session hsession => ?_, fun id hid => ?_⟩
    · rw [h.1] at hsession
      exact absurd hsession get?_empty_ne
    · rw [h.2] at hid
      exact absurd hid List.not_mem_nil
  have hnoted := (noted_of_reaches hstart hr).1
  have houtline := fun {c'} (hr' : Reaches anyStep ⟨n, []⟩ c') =>
    (guardOutline_sound settings staffSettings).holds (Outline.holds_idle trivial) hr'
  refine ⟨?_, ?_⟩
  · intro k t w n' t' request identity ht hstep hview'
    obtain ⟨state, hview, hrun⟩ := requestView_of_step hstep hview'
    have hguarded : Guarded request state :=
      (houtline hr).thread t (List.mem_of_getElem? ht) (request, state) hview
    obtain ⟨context, session, customer, rfl, hadmin, hcustomerId, huserId, hfound⟩ :=
      resolving_of_support hguarded hrun
    obtain ⟨hsession, hcustomer, hadminSession, hrunning, hexpires, heligible⟩ :=
      findSupportSession_eq_some hfound
    obtain ⟨hcookie, htoken, hread, hfull⟩ := hguarded
    obtain ⟨⟨startedAt, hstarted, hexpiry⟩, hended⟩ := hnoted _ session hsession
    refine ⟨context.sessionId, ⟨⟨hcookie, htoken⟩, hread, ⟨startedAt, ?_, hexpiry ▸ hexpires⟩, ?_,
      ⟨customer, ?_, huserId.symm, heligible⟩⟩, ?_⟩
    · rw [hcustomerId, ← hadminSession]
      exact hstarted
    · intro hmem
      have hsome := hended hmem
      rw [hrunning] at hsome
      cases hsome
    · rw [hcustomerId]
      exact hcustomer
    · -- The request has entered what it is in by reading an accepted session.
      have hbegin : ∀ op req, ¬ ∃ state,
          requestView (Thread.begin op req : Thread (notedOps settings staffSettings)) =
            some (request, state) ∧ GoesOn context state := by
        rintro op req ⟨state, hbegun, hgoes⟩
        cases op with
        | apiRequest =>
          obtain ⟨-, rfl⟩ := Prod.mk.inj (Option.some.inj hbegun)
          exact hgoes
        | startCustomerSupportSession | endCustomerSupportSession | auth | staff | elsewhere =>
          cases hbegun
      obtain ⟨c₁, w₁, u, n₁, u', hc₁, hu, hnot, -, hentry, ⟨state', hview₁, hgoes⟩, hlater⟩ :=
        exists_entry (J := fun t => ∃ state, requestView t = some (request, state) ∧
          GoesOn context state) hbegin hr (fun u hu => nomatch hu) ht
          ⟨_, hview, rfl⟩
      obtain ⟨earlier, hearlier, hrun₁⟩ := requestView_of_step hentry hview₁
      have hguarded₁ : Guarded request earlier :=
        (houtline hc₁).thread u (List.mem_of_getElem? hu) (request, earlier) hearlier
      obtain ⟨rfl, haccepts, hcontext⟩ := requestStep_goesOn hguarded₁
        (fun hgoes => hnot ⟨earlier, hearlier, hgoes⟩) hgoes hrun₁
      exact ⟨c₁, w₁, u, n₁, u', hc₁, hu, hearlier, hentry, hlater, haccepts, context, hcontext,
        hadmin.symm, hfull⟩
  · intro t request auth ht hview hsome
    have hguarded : Guarded request (.done (.ok auth)) := (houtline hr).thread t ht _ hview
    match auth with
    | none => exact .inr ⟨rfl, hguarded hsome⟩
    | some (.own context) =>
      have hnone : request.supportToken = none := hguarded
      rw [hnone] at hsome
      cases hsome
    | some (.support identity) => exact .inl ⟨identity, rfl, hguarded.2⟩

end

/-! ### An administrator who signs out while a request is on its way -/

def supportSettings : AuthSettings where
  sessionTtlMilliseconds := 86400000
  passwordResetTtlMilliseconds := 3600000
  hotp _ _ := ""
  hashRecoveryCode code := code

def supportStart : NotedStore :=
  ({ staff := {
      auth := {
        users := ⟨[sampleAdministrator "first@host.example" 0,
          { email := "buyer@shop.example", role := .customer, status := .active
            emailVerified := true, customer := true }]⟩
        authSessions := ⟨[{ userId := 0, mode := .browser, createdAt := 0, expiresAt := 86400000
                            lastSeenAt := 0 }]⟩ } }
     customers := ⟨[{ userId := 1 }]⟩ }, [])

def supportRead : ApiRequest where
  handler := { access := some .read }
  method := "GET"
  sessionToken := some 0
  supportToken := some 0

def supportedCustomer : SupportIdentity := ⟨0, 0, 1, 0⟩

def resolvingRead : Config (notedOps supportSettings sampleStaffSettings) :=
  Config.after ⟨supportStart, []⟩
    [.call .startCustomerSupportSession ⟨⟨0, 0, .admin, some .fullAdministrator⟩, 0⟩,
      .advance 0 { now := 1000 }, .advance 0 { now := 1001 }, .call .apiRequest supportRead,
      .advance 1 {}, .advance 1 { now := 2000 }] (by decide +kernel)

def signedOut : Config (notedOps supportSettings sampleStaffSettings) :=
  Config.after resolvingRead
      [.call (.auth .endSessions) ((0, .own) : RowId × AuthService.EndedSessions),
    .advance 2 { now := 2001 }, .advance 2 { now := 2001 }] (by decide +kernel)

/-- The request is given the customer's identity, and the session is not accepted any more. -/
theorem identity_given_late :
    Reaches anyStep ⟨supportStart, []⟩ signedOut ∧
      (∃ t n' t', signedOut.threads[1]? = some t ∧
        t.step { now := 2002 } signedOut.shared = some (n', t') ∧
        requestView t' = some (supportRead, .done (.ok (some (.support supportedCustomer))))) ∧
      ¬ AdministratorAccepted supportSettings 2002 signedOut.shared.1 0 0 := by
  have hresolving : Reaches anyStep ⟨supportStart, []⟩ resolvingRead :=
    reaches_anyStep_of_run (run_eq_after (by decide +kernel))
  exact ⟨hresolving.trans (reaches_anyStep_of_run (run_eq_after (by decide +kernel))),
    ⟨_, _, _, rfl, rfl, rfl⟩, by decide +kernel⟩

/-- Before that it is admitted. -/
theorem support_read_admitted :
    ∃ adminSessionId, Admitted { now := 2002 } resolvingRead.shared supportRead supportedCustomer
      adminSessionId := by
  have hbounded : SupportBounded ⟨supportStart, []⟩ resolvingRead :=
    support_access_bounded ⟨rfl, rfl⟩ (reaches_anyStep_of_run (run_eq_after (by decide +kernel)))
  obtain ⟨adminSessionId, hadmitted, -⟩ :=
    hbounded.given 1 _ { now := 2002 } _ _ supportRead supportedCustomer rfl rfl rfl
  exact ⟨adminSessionId, hadmitted⟩

end Support

end WebhostBilling
