import WebhostBilling.Staff.StaffService

/-!
# Full administrators

The actor is read after the lock was taken, and only a holder of the lock writes users; so the actor
still is what it was read to be when the transaction commits.  Nobody may demote or disable the own
account: the actor is the full administrator who remains.
-/

namespace WebhostBilling

open Store Store.Table Concurrency Config

namespace Auth

open StaffService

/-! ## What is noted of a commit -/

/-- A transaction of the staff service was committed: on whose behalf, and the tables before and
after. -/
structure StaffCommit where
  actorId : RowId
  before : AuthDatabase
  after : AuthDatabase

/-- There is an active full administrator. -/
def HasFullAdministrator (db : AuthDatabase) : Prop :=
  ∃ id user, db.users.get? id = some user ∧ activeFullAdministrator user = true

def Acting (users : Table User) (actorId : RowId) : Prop :=
  ∃ user, users.get? actorId = some user ∧ mayChangeStaff user = true

/-- The actor of a commit may change the staff, in the tables that the transaction finds and in
those that it leaves. -/
def StaffCommit.Authorized (commit : StaffCommit) : Prop :=
  Acting commit.before.users commit.actorId ∧ Acting commit.after.users commit.actorId

variable {db : AuthDatabase} {actorId : RowId}

theorem Acting.hasFullAdministrator (h : Acting db.users actorId) : HasFullAdministrator db := by
  obtain ⟨user, huser, hmay⟩ := h
  rw [mayChangeStaff, decide_eq_true_eq] at hmay
  exact ⟨actorId, user, huser, hmay.1⟩

theorem authorize_eq_ok (h : authorize actorId db = .ok ()) :
    Acting db.users actorId := by
  simp only [authorize, eq_ok] at h
  obtain ⟨user, huser, hmay, -⟩ := h
  exact ⟨user, huser, hmay⟩

/-! ## One operation -/

section

variable {ι ρ α : Type}

theorem statement_cases (w : StaffWorld) (s : StaffStore) (result : Except Failure α)
    (next : α → StaffStore × StaffState ι ρ) :
    (∃ a, w.aborted = false ∧ result = .ok a ∧ statement w s result next = next a) ∨
      ∃ e, (w.aborted = true ∨ result = .error e) ∧
        statement w s result next = ({ s with locked := false }, .done (.error e)) := by
  rw [statement]
  split
  · rename_i a hok
    simp only [bind_eq_ok, require_eq_ok] at hok
    obtain ⟨_, hrunning, hok⟩ := hok
    exact .inl ⟨a, hrunning, hok, rfl⟩
  · rename_i e herror
    refine .inr ⟨e, ?_, rfl⟩
    simp only [bind_eq_error, require_eq_error, require_eq_ok] at herror
    rcases herror with ⟨haborted, -⟩ | ⟨_, -, herror⟩
    · exact .inl (Bool.eq_true_of_not_eq_false haborted)
    · exact .inr herror

def Inside : StaffState ι ρ → Prop
  | .authorizing _ | .reading _ | .checking _ _ | .writing _ _ => True
  | .waiting _ | .done _ => False

/-- What a staff operation relies on: the lock once it has it, the actor once it was read, and what
was read of the account as long as nobody else can write it. -/
def Relies (m : StaffMutation ι ρ) (s : StaffStore) : StaffState ι ρ → Prop
  | .waiting _ | .done _ => True
  | .authorizing _ => s.locked = true
  | .reading input => s.locked = true ∧ Acting s.auth.users (m.actorId input)
  | .checking input found | .writing input found =>
    s.locked = true ∧ Acting s.auth.users (m.actorId input) ∧
      m.read input s.auth.users = .ok found

def commits (m : StaffMutation ι ρ) (w : StaffWorld) (s : StaffStore) :
    StaffState ι ρ → List StaffCommit
  | .writing input found =>
    match w.aborted, m.write w input found s with
    | false, .ok s' => [⟨m.actorId input, s.auth, s'.auth⟩]
    | _, _ => []
  | _ => []

def SparesActor (m : StaffMutation ι ρ) : Prop :=
  ∀ w input found s s', m.read input s.auth.users = .ok found → m.write w input found s = .ok s' →
    Acting s.auth.users (m.actorId input) → Acting s'.auth.users (m.actorId input)

inductive StaffEffect (m : StaffMutation ι ρ) (s : StaffStore) :
    StaffState ι ρ → List StaffCommit → StaffStore → StaffState ι ρ → Prop
  | gaveUp (input : ι) :
      StaffEffect m s (.waiting input) [] s (.done (.error transactionAborted))
  | locked {input : ι} (hfree : s.locked = false) :
      StaffEffect m s (.waiting input) [] { s with locked := true } (.authorizing input)
  | authorized {input : ι} (hactor : Acting s.auth.users (m.actorId input)) :
      StaffEffect m s (.authorizing input) [] s (.reading input)
  | read {input : ι} {found : ρ} (hread : m.read input s.auth.users = .ok found) :
      StaffEffect m s (.reading input) [] s (.checking input found)
  | checked (input : ι) (found : ρ) :
      StaffEffect m s (.checking input found) [] s (.writing input found)
  | committed {w : StaffWorld} {input : ι} {found : ρ} {s' : StaffStore}
      (hwrite : m.write w input found s = .ok s') :
      StaffEffect m s (.writing input found) [⟨m.actorId input, s.auth, s'.auth⟩]
        { s' with locked := false } (.done (.ok ()))
  | rolledBack {l : StaffState ι ρ} {e : Failure} (hinside : Inside l) :
      StaffEffect m s l [] { s with locked := false } (.done (.error e))

theorem staffEffect_of_step {m : StaffMutation ι ρ} {w : StaffWorld} {s s' : StaffStore}
    {l l' : StaffState ι ρ} (h : m.step w s l = some (s', l')) :
    StaffEffect m s l (commits m w s l) s' l' := by
  cases l with
  | waiting input =>
    rw [StaffMutation.step] at h
    split at h
    · cases h
      exact .gaveUp input
    · split at h
      · cases h
      · rename_i hlocked
        cases h
        exact .locked (Bool.eq_false_of_not_eq_true hlocked)
  | authorizing input =>
    rw [StaffMutation.step, Option.some.injEq] at h
    rcases statement_cases w s (authorize (m.actorId input) s.auth)
      fun _ => ((s, .reading input) : StaffStore × StaffState ι ρ) with ⟨_, _, hok, heq⟩ | ⟨e, _, heq⟩
    · cases heq.symm.trans h
      exact .authorized (authorize_eq_ok hok)
    · cases heq.symm.trans h
      exact .rolledBack trivial
  | reading input =>
    rw [StaffMutation.step, Option.some.injEq] at h
    rcases statement_cases w s (m.read input s.auth.users)
      fun found => ((s, .checking input found) : StaffStore × StaffState ι ρ)
      with ⟨found, _, hok, heq⟩ | ⟨e, _, heq⟩
    · cases heq.symm.trans h
      exact .read hok
    · cases heq.symm.trans h
      exact .rolledBack trivial
  | checking input found =>
    rw [StaffMutation.step, Option.some.injEq] at h
    rcases statement_cases w s (m.check input found s.auth.users)
      fun _ => ((s, .writing input found) : StaffStore × StaffState ι ρ) with ⟨_, _, _, heq⟩ |
          ⟨e, _, heq⟩
    · cases heq.symm.trans h
      exact .checked input found
    · cases heq.symm.trans h
      exact .rolledBack trivial
  | writing input found =>
    rw [StaffMutation.step, Option.some.injEq] at h
    rcases statement_cases w s (m.write w input found s)
      fun s' => (({ s' with locked := false }, .done (.ok ())) : StaffStore × StaffState ι ρ)
      with ⟨written, hrunning, hok, heq⟩ | ⟨e, hfailed, heq⟩
    · cases heq.symm.trans h
      have hcommits : commits m w s (.writing input found) =
          [⟨m.actorId input, s.auth, written.auth⟩] := by
        simp only [commits, hrunning, hok]
      rw [hcommits]
      exact .committed hok
    · cases heq.symm.trans h
      have hcommits : commits m w s (.writing input found) = [] := by
        rcases hfailed with haborted | herror
        · simp only [commits, haborted]
        · simp only [commits, herror]
          split <;> first | rfl | contradiction
      rw [hcommits]
      exact .rolledBack trivial
  | done result => cases h

/-! ## What is kept -/

variable {m : StaffMutation ι ρ} {s s' : StaffStore} {l l' : StaffState ι ρ}
  {committed : List StaffCommit}

theorem Relies.locked (h : Relies m s l) (hinside : Inside l) : s.locked = true := by
  cases l with
  | waiting _ | done _ => exact hinside.elim
  | authorizing _ => exact h
  | reading _ | checking _ _ | writing _ _ => exact h.1

theorem relies_of_outside (h : ¬ Inside l) : Relies m s l := by
  cases l with
  | waiting _ | done _ => trivial
  | authorizing _ | reading _ | checking _ _ | writing _ _ => exact absurd trivial h

theorem Relies.congr (h : Relies m s l) (husers : s'.auth.users = s.auth.users)
    (hlocked : s'.locked = s.locked) : Relies m s' l := by
  cases l with
  | waiting _ | done _ => trivial
  | authorizing _ => exact hlocked.trans h
  | reading _ | checking _ _ | writing _ _ =>
    simp only [Relies, husers, hlocked]
    exact h

theorem StaffEffect.authorized_users (heffect : StaffEffect m s l committed s' l')
    (hspares : SparesActor m) (h : Relies m s l) :
    (∀ commit ∈ committed, commit.Authorized) ∧
      (s'.auth.users = s.auth.users ∨ ∃ actorId, Acting s'.auth.users actorId) := by
  cases heffect with
  | gaveUp _ | locked _ | authorized _ | read _ | checked _ _ | rolledBack _ =>
    exact ⟨fun commit hcommit => absurd hcommit List.not_mem_nil, .inl rfl⟩
  | committed hwrite =>
    obtain ⟨-, hactor, hread⟩ := h
    have hafter := hspares _ _ _ _ _ hread hwrite hactor
    refine ⟨fun commit hcommit => ?_, .inr ⟨_, hafter⟩⟩
    rw [List.mem_singleton] at hcommit
    rw [hcommit]
    exact ⟨hactor, hafter⟩

theorem StaffEffect.relies (heffect : StaffEffect m s l committed s' l') (h : Relies m s l) :
    Relies m s' l' := by
  cases heffect with
  | gaveUp _ | committed _ | rolledBack _ => trivial
  | locked _ => exact rfl
  | authorized hactor => exact ⟨h, hactor⟩
  | read hread => exact ⟨h.1, h.2, hread⟩
  | checked _ _ => exact h

theorem StaffEffect.outside (heffect : StaffEffect m s l committed s' l') (houtside : ¬ Inside l) :
    (s' = s ∧ ¬ Inside l') ∨ s.locked = false := by
  cases heffect with
  | gaveUp _ => exact .inl ⟨rfl, id⟩
  | locked hfree => exact .inr hfree
  | authorized _ | read _ | checked _ _ | committed _ => exact absurd trivial houtside
  | rolledBack hinside => exact absurd hinside houtside

end

/-! ## The three operations -/

section

variable {settings : StaffSettings}

theorem create_spares : SparesActor (StaffService.create settings) := by
  intro w input found s s' _ hwrite ⟨actor, hactor, hmay⟩
  simp only [StaffService.create, eq_ok] at hwrite
  obtain ⟨_, -, rfl⟩ := hwrite
  exact ⟨actor, get?_insert_of_some hactor, hmay⟩

variable {input : UpdateStaffRequest}

theorem revokeSessions_users {db' : AuthDatabase} {p : RowId → AuthSession → Bool} {now : ℕ}
    (h : db.revokeSessions p now = .ok db') : db'.users = db.users := by
  simp only [AuthDatabase.revokeSessions, eq_ok] at h
  obtain ⟨_, -, rfl⟩ := h
  rfl

theorem update_users {w : StaffWorld} {found : User} {s s' : StaffStore}
    (h : StaffService.update.write w input found s = .ok s') :
    s'.auth.users = s.auth.users.update input.userId (changeAccess input found) := by
  simp only [StaffService.update, eq_ok] at h
  obtain ⟨auth, hrevoked, rfl⟩ := h
  have husers := revokeSessions_users hrevoked
  split
  · exact husers
  · exact husers

theorem mayChangeStaff_changeAccess {user : User} (hkeeps : input.demotes = false)
    (hmay : mayChangeStaff user = true) :
    mayChangeStaff (changeAccess input user user) = true := by
  simp only [UpdateStaffRequest.demotes, decide_eq_false_iff_not, not_or, not_not,
    Bool.not_eq_false] at hkeeps
  simp only [mayChangeStaff, activeFullAdministrator, decide_eq_true_eq] at hmay
  obtain ⟨⟨hrole, -, hdeleted, hverified, -⟩, hpassword⟩ := hmay
  simp [mayChangeStaff, activeFullAdministrator, changeAccess, hkeeps, hrole, hdeleted, hverified,
    hpassword]

theorem update_spares : SparesActor StaffService.update := by
  intro w input found s s' hread hwrite ⟨actor, hactor, hmay⟩
  rw [update_users hwrite]
  by_cases hself : input.userId = input.actorId
  · simp only [StaffService.update, eq_ok, findAccount, Option.filter_eq_some_iff] at hread
    obtain ⟨user, ⟨huser, -⟩, hown, rfl⟩ := hread
    have hkeeps : input.demotes = false := Bool.eq_false_of_not_eq_true fun h => hown ⟨hself, h⟩
    have hsame : user = actor := by
      rw [hself] at huser
      exact Option.mem_unique huser hactor
    subst hsame
    refine ⟨_, ?_, mayChangeStaff_changeAccess hkeeps hmay⟩
    rw [hself]
    exact get?_update_self hactor
  · exact ⟨actor, (get?_update_of_ne hself).trans hactor, hmay⟩

theorem resend_spares : SparesActor (StaffService.resend settings) := by
  intro w input found s s' _ hwrite hactor
  simp only [StaffService.resend, pure_eq_ok] at hwrite
  rw [← hwrite]
  exact hactor

/-! ## Runs -/

def staffCommits (settings : StaffSettings) :
    (kind : StaffKind) → StaffWorld → StaffStore → (staffOperations settings kind).Local →
      List StaffCommit
  | .create, w, s, l => commits (StaffService.create settings) w s l
  | .update, w, s, l => commits StaffService.update w s l
  | .resend, w, s, l => commits (StaffService.resend settings) w s l
  | .elsewhere, _, _, _ => []

abbrev tracedStaff (settings : StaffSettings) :=
  tracedFamily (staffOperations settings) (staffCommits settings)

def InsideLock (settings : StaffSettings) :
    (kind : StaffKind) → (staffOperations settings kind).Local → Prop
  | .create, l => @Inside CreateStaffRequest Unit l
  | .update, l => @Inside UpdateStaffRequest User l
  | .resend, l => @Inside ResendStaffRequest User l
  | .elsewhere, _ => False

def StaffRelies (settings : StaffSettings) (s : StaffStore) :
    (kind : StaffKind) → (staffOperations settings kind).Local → Prop
  | .create, l => Relies (StaffService.create settings) s l
  | .update, l => Relies StaffService.update s l
  | .resend, l => Relies (StaffService.resend settings) s l
  | .elsewhere, _ => True

variable {kind : StaffKind} {w : StaffWorld} {s s' : StaffStore}
  {l l' : (staffOperations settings kind).Local}

theorem StaffRelies.locked (h : StaffRelies settings s kind l)
    (hinside : InsideLock settings kind l) :
    s.locked = true := by
  cases kind with
  | create | update | resend => exact Relies.locked h hinside
  | elsewhere => exact hinside.elim

theorem staffRelies_of_outside (h : ¬ InsideLock settings kind l) :
    StaffRelies settings s kind l := by
  cases kind with
  | create | update | resend => exact relies_of_outside h
  | elsewhere => trivial

theorem StaffRelies.congr (h : StaffRelies settings s kind l)
    (husers : s'.auth.users = s.auth.users) (hlocked : s'.locked = s.locked) :
    StaffRelies settings s' kind l := by
  cases kind with
  | create | update | resend => exact Relies.congr h husers hlocked
  | elsewhere => trivial

theorem not_insideLock_begin (request : (staffOperations settings kind).Request) :
    ¬ InsideLock settings kind ((staffOperations settings kind).start request) := by
  cases kind with
  | create | update | resend | elsewhere => exact id

theorem elsewhere_step {pending pending' : Option StaffStore}
    (h : elsewhere.step w s pending = some (s', pending')) :
    s'.auth.users = s.auth.users ∧ s'.locked = s.locked := by
  obtain ⟨written, -, heq⟩ := Option.map_eq_some_iff.1 h
  cases heq
  exact ⟨rfl, rfl⟩

theorem staff_step (h : (staffOperations settings kind).step w s l = some (s', l'))
    (hrelies : StaffRelies settings s kind l) :
    StaffRelies settings s' kind l' ∧
      (∀ commit ∈ staffCommits settings kind w s l, commit.Authorized) ∧
      (s'.auth.users = s.auth.users ∨ ∃ actorId, Acting s'.auth.users actorId) := by
  cases kind with
  | create =>
    have heffect := staffEffect_of_step h
    exact ⟨heffect.relies hrelies, heffect.authorized_users create_spares hrelies⟩
  | update =>
    have heffect := staffEffect_of_step h
    exact ⟨heffect.relies hrelies, heffect.authorized_users update_spares hrelies⟩
  | resend =>
    have heffect := staffEffect_of_step h
    exact ⟨heffect.relies hrelies, heffect.authorized_users resend_spares hrelies⟩
  | elsewhere =>
    exact ⟨trivial, fun commit hcommit => absurd hcommit List.not_mem_nil,
      Or.inl (elsewhere_step h).1⟩

theorem staff_outside (h : (staffOperations settings kind).step w s l = some (s', l'))
    (houtside : ¬ InsideLock settings kind l) :
    (s'.auth.users = s.auth.users ∧ s'.locked = s.locked ∧ ¬ InsideLock settings kind l') ∨
      s.locked = false := by
  cases kind with
  | create | update | resend =>
    rcases (staffEffect_of_step h).outside houtside with ⟨rfl, hout⟩ | hfree
    · exact .inl ⟨rfl, rfl, hout⟩
    · exact .inr hfree
  | elsewhere =>
    have hkept := elsewhere_step h
    exact .inl ⟨hkept.1, hkept.2, id⟩

def staffOutline (settings : StaffSettings) : Outline (tracedStaff settings) where
  shared s := HasFullAdministrator s.1.auth ∧ ∀ commit ∈ s.2, commit.Authorized
  thread s t := StaffRelies settings s.1 t.op t.loc
  apart t u := ¬ (InsideLock settings t.op t.loc ∧ InsideLock settings u.op u.loc)

theorem staffOutline_sound : (staffOutline settings).Sound anyStep where
  symm t u hapart hboth := hapart hboth.symm
  call s op request _ := staffRelies_of_outside (not_insideLock_begin request)
  call_apart op request u hboth := not_insideLock_begin request hboth.1
  own w s t s' t' _ hs ht hmove := by
    obtain ⟨l, hstep, htrace, rfl⟩ := Thread.traced_step hmove
    obtain ⟨hrelies, hcommits, husers⟩ := staff_step hstep ht
    refine ⟨⟨?_, fun commit hcommit => ?_⟩, hrelies⟩
    · rcases husers with hsame | ⟨actorId, hactor⟩
      · obtain ⟨id, user, huser, hfull⟩ := hs.1
        exact ⟨id, user, (congrArg (·.get? id) hsame).trans huser, hfull⟩
      · exact hactor.hasFullAdministrator
    · rw [htrace, List.mem_append] at hcommit
      rcases hcommit with hcommit | hcommit
      · exact hs.2 commit hcommit
      · exact hcommits commit hcommit
  other w s t s' t' u _ hs ht hu hapart hmove := by
    obtain ⟨l, hstep, -, rfl⟩ := Thread.traced_step hmove
    by_cases hinside : InsideLock settings u.op u.loc
    · have houtside : ¬ InsideLock settings t.op t.loc := fun h => hapart ⟨h, hinside⟩
      have hlocked := StaffRelies.locked hu hinside
      rcases staff_outside hstep houtside with ⟨husers, hkept, hout⟩ | hfree
      · exact ⟨StaffRelies.congr hu husers hkept, fun hboth => hout hboth.1⟩
      · rw [hfree] at hlocked
        cases hlocked
    · exact ⟨staffRelies_of_outside hinside, fun hboth => hinside hboth.2⟩

/-- **There is always a full administrator.**  In every interleaving of any number of invitations,
changes and repeated invitations, by any actors, with whatever the rest of the application writes
elsewhere: once there is an active, verified full administrator there always is one, and every
change of the staff that is committed was asked for by a user who at that time is one. -/
theorem full_administrator_remains (hfull : HasFullAdministrator s.auth)
    {c : Config (tracedStaff settings)}
    (hr : Reaches anyStep ⟨(s, []), []⟩ c) :
    HasFullAdministrator c.shared.1.auth ∧ ∀ commit ∈ c.shared.2, commit.Authorized := by
  have hinit : (staffOutline settings).shared (s, []) :=
    ⟨hfull, fun commit hcommit => absurd hcommit List.not_mem_nil⟩
  exact (staffOutline_sound.holds (Outline.holds_idle hinit) hr).shared

end

/-! ### Two administrators, who demote each other -/

def sampleStaffSettings : StaffSettings where
  emailVerificationTtlMilliseconds := 86400000
  passwordResetTtlMilliseconds := 3600000

def sampleAdministrator (email : String) (passwordHash : RowId) : User where
  email := email
  role := .admin
  status := .active
  passwordHash := some passwordHash
  emailVerified := true
  staffRole := some .fullAdministrator

def twoAdministrators : StaffStore where
  auth := {
    users := ⟨[sampleAdministrator "first@host.example" 0, sampleAdministrator "second@host.example" 1]⟩
    adminTotpCredentials :=
      ⟨[{ userId := 0, secret := "A", enabledAt := some 1 },
        { userId := 1, secret := "B", enabledAt := some 1 }]⟩ }

def demotion (actorId userId : RowId) : UpdateStaffRequest where
  actorId := actorId
  userId := userId
  staffRole := .billingOperator
  enabled := true

/-- Both ask at the same time.  The second waits for the lock, and then is no full administrator
any more. -/
def mutualDemotion : List (Move (tracedStaff sampleStaffSettings)) :=
  [.call .update (demotion 0 1), .call .update (demotion 1 0), .advance 0 { now := 2 },
    .advance 0 { now := 2 }, .advance 0 { now := 2 }, .advance 0 { now := 2 },
    .advance 0 { now := 2 }, .advance 1 { now := 3 }, .advance 1 { now := 3 }]

def demotedConfig : Config (tracedStaff sampleStaffSettings) :=
  Config.after ⟨(twoAdministrators, []), []⟩ mutualDemotion (by decide +kernel)

theorem administrator_remains_of_two : demotedConfig.shared.2.map (·.actorId) = [0] ∧
    HasFullAdministrator demotedConfig.shared.1.auth ∧
      ∀ commit ∈ demotedConfig.shared.2, commit.Authorized :=
  ⟨by decide +kernel,
    full_administrator_remains ⟨0, _, rfl, by decide⟩ (reaches_anyStep_of_run
      (run_eq_after (show (Config.run ⟨(twoAdministrators, []), []⟩ mutualDemotion).isSome = true
        by decide +kernel)))⟩

end Auth

end WebhostBilling
