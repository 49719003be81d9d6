import WebhostBilling.Concurrency.Locks
import WebhostBilling.Concurrency.Permits
import WebhostBilling.Concurrency.Traces
import WebhostBilling.Notifications.NotificationDeliveryService

/-!
# A live notification is submitted at most once

In live mode only a queued entry is claimed, and nothing queues an entry again.  So the claim is a
permit for the submission, and a lock on the entry as long as its result is not recorded.
-/

namespace WebhostBilling

open Store Concurrency Config Notification

namespace NotificationDeliveryService

/-! ## Who may be told -/

structure Eligible (key : NotificationKey) (user : NotificationUser)
    (customer : Option NotificationCustomer) : Prop where
  verified : user.emailVerifiedAt ≠ none
  active : user.active = true
  kept : user.deletedAt = none
  audience : user.role = (notificationDefinition key).audience
  customer : user.role = .customer →
    ∃ row, customer = some row ∧ row.active = true ∧ row.deletedAt = none
  administrator : user.role = .admin → key ≠ .adminSecurityAlert →
    user.staffRole = some .fullAdministrator

/-- The recipient may be told of the entry by the message: it is eligible, has not opted out, and the
message goes to the number that the entry was made for. -/
structure Contactable (environment : WorkerEnvironment) (user : NotificationUser)
    (customer : Option NotificationCustomer) (entry : NotificationEntry)
    (message : WhatsAppNotificationMessage) : Prop where
  key : notificationKeySchema entry.key = some message.key
  eligible : Eligible message.key user customer
  optedIn : ∀ preference, user.preference = some preference → preference.whatsAppEnabled = true
  current : message.recipient = whatsAppDestination environment user customer
  unchanged : entry.metadata.destinationFingerprint =
    some (environment.fingerprint message.recipient)

section

variable {environment : WorkerEnvironment} {w : NotificationWorld} {s s' : NotificationStore}
  {l l' : DeliverState}

theorem eligible_of_not_suppressed {key : NotificationKey} {user : NotificationUser}
    {customer : Option NotificationCustomer}
    (h : recipientSuppressed key user customer = false) : Eligible key user customer := by
  simp only [recipientSuppressed, decide_eq_false_iff_not, not_or, not_and, ne_eq, not_not,
    Bool.not_eq_false, Option.isSome_iff_ne_none] at h
  obtain ⟨hverified, hactive, hkept, haudience, hcustomer, hadministrator⟩ := h
  refine ⟨hverified, hactive, hkept, haudience, fun hrole => ?_, hadministrator⟩
  obtain ⟨row, hrow, hopen⟩ := (Option.any_eq_true _ _).1 (hcustomer hrole)
  exact ⟨row, hrow, of_decide_eq_true hopen⟩

variable {entry : NotificationEntry}

theorem contactable_of_not_suppressed {id : RowId} {key : NotificationKey}
    {user : NotificationUser} (hkey : notificationKeySchema entry.key = some key)
    (hchannel : entry.channel = .whatsApp) (h : suppressed environment key entry user w = false) :
    Contactable environment user w.customer entry (whatsAppMessage environment id key entry
      (destinationOf environment entry.channel user w.customer) w) := by
  simp only [suppressed, decide_eq_false_iff_not, not_or, Bool.not_eq_true, ne_eq, not_not] at h
  obtain ⟨hrecipient, -, hopen, hfingerprint⟩ := h
  rw [hchannel] at hopen hfingerprint ⊢
  simp only [channelSuppressed, decide_eq_false_iff_not, not_or, Bool.not_eq_true] at hopen
  refine ⟨hkey, eligible_of_not_suppressed hrecipient, fun preference hpreference => ?_, rfl,
    hfingerprint⟩
  have hopted := hopen.2.2.2.1
  rw [hpreference, Option.any_some] at hopted
  simpa using hopted

/-! ## What a step does in live mode -/

variable {job : BackgroundJob} {metadata : NotificationMetadata}
  {outcome : Except WhatsAppErrorKind (Option String)} {note : NotificationNote}

theorem deliverable_live (hlive : environment.deliveryMode = .live) :
    deliverable environment job entry = true ↔ entry.status = .queued := by
  simp [deliverable, hlive]

/-- What a committed transaction has made of the entry. -/
inductive Transacted (environment : WorkerEnvironment) (w : NotificationWorld)
    (s : NotificationStore) : NotificationStore → Delivered → Prop
  | left : Transacted environment w s s .nothing
  | closed {status : NotificationStatus} (hqueued : s.entry.status = .queued)
      (hfinal : status.isFinal = true) :
      Transacted environment w s { s with entry := s.entry.closed status w.now } .nothing
  | claimed {message : WhatsAppNotificationMessage} (hqueued : s.entry.status = .queued)
      (hcontactable : Contactable environment s.user w.customer s.entry message) :
      Transacted environment w s { s with entry := s.entry.claimed }
        (.submission message s.entry.metadata)

theorem deliverTransaction_live {delivered : Delivered} (hlive : environment.deliveryMode = .live)
    (h : deliverTransaction environment w job s = .ok (s', delivered)) :
    Transacted environment w s s' delivered := by
  simp only [deliverTransaction, bind_eq_ok] at h
  obtain ⟨id, -, h⟩ := h
  split at h
  · rw [pure_eq_ok, Prod.mk.injEq] at h
    obtain ⟨rfl, rfl⟩ := h
    exact .left
  rename_i hdeliverable
  have hqueued := (deliverable_live hlive).1 (Bool.eq_true_of_not_eq_false hdeliverable)
  simp only [eq_ok] at h
  obtain ⟨key, hkey, h⟩ := h
  split at h
  · rw [pure_eq_ok, Prod.mk.injEq] at h
    obtain ⟨rfl, rfl⟩ := h
    exact .closed hqueued rfl
  rename_i hopen
  split at h
  · rw [pure_eq_ok, Prod.mk.injEq] at h
    obtain ⟨rfl, rfl⟩ := h
    exact .closed hqueued rfl
  rename_i hallowed
  split at h
  · rename_i hwhatsApp
    rw [pure_eq_ok, Prod.mk.injEq] at h
    obtain ⟨rfl, rfl⟩ := h
    exact .claimed hqueued
      (contactable_of_not_suppressed hkey hwhatsApp.1 (Bool.eq_false_of_not_eq_true hopen))
  · rename_i hwhatsApp
    -- In live mode only WhatsApp messages go out.
    rw [Bool.not_eq_false] at hallowed
    simp [modeAllows, hlive] at hallowed hwhatsApp
    exact absurd hallowed.1 hwhatsApp

def DeliverState.message : DeliverState → Option WhatsAppNotificationMessage
  | .submitting _ message _ => some message
  | _ => none

def DeliverState.claims : DeliverState → Bool
  | .submitting _ _ _ | .recording _ _ _ => true
  | .taking | .opening _ _ | .settling _ _ | .done => false

/-- **What a step of a delivery does to the entry**, and whether it is about to send. -/
inductive DeliverEffect (environment : WorkerEnvironment) (w : NotificationWorld)
    (s : NotificationStore) : DeliverState → NotificationStore → DeliverState → Prop
  | quiet {l l' : DeliverState} {s' : NotificationStore} (hentry : s'.entry = s.entry)
      (hmessage : l'.message = none) (hclaims : l'.claims = true → l.claims = true) :
      DeliverEffect environment w s l s' l'
  | closed {l l' : DeliverState} {status : NotificationStatus}
      (hqueued : s.entry.status = .queued) (hfinal : status.isFinal = true)
      (hclaims : l'.claims = false) :
      DeliverEffect environment w s l { s with entry := s.entry.closed status w.now } l'
  | claimed {token : ℕ} {job : BackgroundJob} {l' : DeliverState}
      {message : WhatsAppNotificationMessage} (hqueued : s.entry.status = .queued)
      (hnext : l'.claims = false ∨ l' = .submitting token message s.entry.metadata ∧
        deliverNotes environment w s (.opening token job) =
          [.claim s.user w.customer s.entry message] ∧
        Contactable environment s.user w.customer s.entry message) :
      DeliverEffect environment w s (.opening token job) { s with entry := s.entry.claimed } l'
  | recorded {token : ℕ} {metadata : NotificationMetadata}
      {outcome : Except WhatsAppErrorKind (Option String)} {l' : DeliverState}
      (hsubmitting : s.entry.status = .submitting) (hmessage : l'.message = none) :
      DeliverEffect environment w s (.recording token metadata outcome)
        { s with entry := s.entry.submitted metadata outcome w.now } l'

theorem afterRecording_message {token : ℕ} {r : Except Failure Unit} :
    (afterRecording token metadata outcome r).message = none := by
  unfold afterRecording
  split
  · rfl
  · split <;> rfl

theorem deliverStep_effect (hlive : environment.deliveryMode = .live)
    (h : deliverStep environment w s l = some (s', l')) :
    DeliverEffect environment w s l s' l' := by
  cases l with
  | taking =>
    rw [deliverStep] at h
    split at h <;> cases h <;> exact .quiet rfl rfl nofun
  | opening token job =>
    rw [deliverStep] at h
    generalize hrun : w.commit.run connectionFailed s (deliverTransaction environment w job s) = out
      at h
    obtain ⟨s₁, r⟩ := out
    cases h
    rcases Commit.run_cases hrun with ⟨delivered, hok, hr⟩ | ⟨rfl, e, rfl⟩
    · cases deliverTransaction_live hlive hok with
      | left => rcases hr with rfl | rfl <;> exact .quiet rfl rfl nofun
      | closed hqueued hfinal =>
        rcases hr with rfl | rfl <;> exact .closed hqueued hfinal rfl
      | @claimed message hqueued hcontactable =>
        refine @DeliverEffect.claimed _ _ _ _ _ _ message hqueued ?_
        rcases hr with rfl | rfl
        · refine .inr ⟨rfl, ?_, hcontactable⟩
          rw [deliverNotes, hrun]
        · exact .inl rfl
    · exact .quiet rfl rfl nofun
  | submitting token message metadata =>
    cases h
    exact .quiet rfl rfl fun _ => rfl
  | recording token metadata outcome =>
    rw [deliverStep] at h
    generalize hrun : w.commit.run connectionFailed s
      (.ok (recordSubmission metadata outcome w.now s, ())) = out at h
    obtain ⟨s₁, r⟩ := out
    cases h
    rcases Commit.run_cases hrun with ⟨_, hok, -⟩ | ⟨rfl, -⟩
    · obtain ⟨rfl, -⟩ := Prod.mk.inj (Except.ok.inj hok)
      rw [recordSubmission]
      split
      · rename_i hsubmitting
        exact .recorded hsubmitting afterRecording_message
      · exact .quiet rfl afterRecording_message fun _ => rfl
    · exact .quiet rfl afterRecording_message fun _ => rfl
  | settling token result =>
    rw [deliverStep] at h
    split at h <;> cases h <;> exact .quiet rfl rfl nofun
  | done => cases h

theorem submitted_final {now : ℕ} :
    (entry.submitted metadata outcome now).status.isFinal = true := by
  unfold NotificationEntry.submitted
  split
  · rfl
  · rfl
  · show (if _ then NotificationStatus.unknown else .failed).isFinal = true
    split <;> rfl

theorem notificationStep_entry (op : NotificationOperation) (hop : op ≠ .deliver)
    {l l' : (notificationOperations environment op).Local}
    (h : (notificationOperations environment op).step w s l = some (s', l')) :
    s'.entry = s.entry ∨
      (s.entry.status = .queued ∧ s'.entry = s.entry.closed .suppressed w.now) := by
  cases op with
  | deliver => exact absurd rfl hop
  | retryQueueJob =>
    replace h : retryStep w s l = some (s', l') := h
    cases l with
    | read | retry => rw [retryStep] at h; split at h <;> cases h <;> exact .inl rfl
    | done result => cases h
  | preferences =>
    replace h : preferencesStep environment w s l = some (s', l') := h
    cases l with
    | none => cases h
    | some request =>
      cases h
      simp only [updatePreferences]
      split
      · rename_i hcloses
        exact .inr ⟨hcloses.2.1, rfl⟩
      · exact .inl rfl
  | changeUser =>
    replace h : userStep w s l = some (s', l') := h
    cases l with
    | none => cases h
    | some user => cases h; exact .inl rfl

/-! ## Threads -/

abbrev NotificationThread (environment : WorkerEnvironment) := Thread (tracedNotifications environment)

theorem notificationThread_step (hlive : environment.deliveryMode = .live)
    {s s' : NotificationStore × List NotificationNote} {t t' : NotificationThread environment}
    (h : t.step w s = some (s', t')) :
    (∃ l l' : DeliverState, t = ⟨.deliver, l⟩ ∧ t' = ⟨.deliver, l'⟩ ∧
      DeliverEffect environment w s.1 l s'.1 l' ∧ s'.2 = s.2 ++ deliverNotes environment w s.1 l) ∨
    (t.op ≠ .deliver ∧ t'.op ≠ .deliver ∧ s'.2 = s.2 ∧ (s'.1.entry = s.1.entry ∨
      (s.1.entry.status = .queued ∧ s'.1.entry = s.1.entry.closed .suppressed w.now))) := by
  obtain ⟨op, l⟩ := t
  obtain ⟨l', hstep, htrace, rfl⟩ := Thread.traced_step h
  by_cases hop : op = .deliver
  · subst hop
    exact .inl ⟨l, l', rfl, rfl, deliverStep_effect hlive hstep, htrace⟩
  · refine .inr ⟨hop, hop, ?_, notificationStep_entry op hop hstep⟩
    rw [htrace]
    cases op with
    | deliver => exact absurd rfl hop
    | retryQueueJob | preferences | changeUser => exact List.append_nil _

def claimsEntry (t : NotificationThread environment) : Prop :=
  ∃ l : DeliverState, t = ⟨.deliver, l⟩ ∧ l.claims = true

theorem claimsEntry_deliver :
    claimsEntry (⟨.deliver, l⟩ : NotificationThread environment) ↔ l.claims = true :=
  ⟨fun ⟨_, heq, hclaims⟩ => by cases heq; exact hclaims, fun hclaims => ⟨l, rfl, hclaims⟩⟩

theorem not_claimsEntry {t : NotificationThread environment} (h : t.op ≠ .deliver) :
    ¬ claimsEntry t := by
  rintro ⟨l, rfl, -⟩
  exact h rfl

def entryLock (environment : WorkerEnvironment) : Lock (tracedNotifications environment) where
  taken s := s.1.entry.status ≠ .queued
  holds := claimsEntry

theorem entryLock_taken_congr {trace trace' : List NotificationNote} (h : s'.entry = s.entry) :
    (entryLock environment).taken (s', trace') ↔ (entryLock environment).taken (s, trace) :=
  iff_of_eq (congrArg (fun entry : NotificationEntry => entry.status ≠ .queued) h)

theorem not_queued_of_final {status : NotificationStatus} (h : status.isFinal = true) :
    status ≠ .queued := by
  rintro rfl
  exact nomatch h

/-- What precedes a note: a message is sent while the entry is `SUBMITTING`, after the entry was
claimed for it. -/
def SentWithin (environment : WorkerEnvironment) (before : List NotificationNote) :
    NotificationNote → Prop
  | .claim _ _ _ _ => True
  | .send message status => status = .submitting ∧ ∃ user customer entry,
      .claim user customer entry message ∈ before ∧
        Contactable environment user customer entry message

/-- What a delivery relies on that is about to send. -/
def SubmissionClaimed (environment : WorkerEnvironment)
    (s : NotificationStore × List NotificationNote) (t : NotificationThread environment) : Prop :=
  ∀ l : DeliverState, t = ⟨.deliver, l⟩ → ∀ message, l.message = some message →
    SentWithin environment s.2 (.send message s.1.entry.status)

theorem claims_of_message {message : WhatsAppNotificationMessage} (h : l.message = some message) :
    l.claims = true ∧ deliverNotes environment w s l = [.send message s.entry.status] := by
  cases l with
  | submitting token message' metadata =>
    obtain rfl := Option.some.inj h
    exact ⟨rfl, rfl⟩
  | taking | opening _ _ | recording _ _ _ | settling _ _ | done => cases h

theorem SentWithin.mono {before after : List NotificationNote}
    (h : SentWithin environment before note) (hsub : before ⊆ after) :
    SentWithin environment after note := by
  cases note with
  | claim _ _ _ _ => trivial
  | send message status =>
    obtain ⟨hstatus, user, customer, entry, hmem, hcontactable⟩ := h
    exact ⟨hstatus, user, customer, entry, hsub hmem, hcontactable⟩

theorem entryLock_sound (hlive : environment.deliveryMode = .live) :
    (entryLock environment).Sound anyStep where
  start op request := by
    rintro ⟨l, heq, hclaims⟩
    cases op with
    | deliver => cases heq; exact nomatch hclaims
    | retryQueueJob | preferences | changeUser => cases heq
  moves w := by
    rintro ⟨s, trace⟩ t ⟨s', trace'⟩ t' _ hholds hstep
    rcases notificationThread_step hlive hstep with ⟨l, l', rfl, rfl, heffect, -⟩ |
        ⟨hop, hop', -, hentry⟩
    · have hkept : (l'.claims = true → l.claims = true) →
          ((entryLock environment).taken (s', trace') ↔ (entryLock environment).taken (s, trace)) →
          (entryLock environment).Moves (s, trace) (s', trace') ⟨.deliver, l⟩ ⟨.deliver, l'⟩ := by
        intro hclaims htaken
        by_cases hl : l.claims = true
        · by_cases hl' : l'.claims = true
          · exact .stays (by simp [entryLock, claimsEntry_deliver, hl, hl']) htaken
          · exact .releases (claimsEntry_deliver.2 hl) fun h => hl' (claimsEntry_deliver.1 h)
        · refine .stays ?_ htaken
          exact ⟨fun h => absurd (hclaims (claimsEntry_deliver.1 h)) hl,
            fun h => absurd (claimsEntry_deliver.1 h) hl⟩
      cases heffect with
      | quiet hentry _ hclaims => exact hkept hclaims (entryLock_taken_congr hentry)
      | closed hqueued hfinal _ =>
        exact .takes (not_not.2 hqueued) (not_queued_of_final hfinal)
      | claimed hqueued _ => exact .takes (not_not.2 hqueued) nofun
      | recorded hsubmitting _ =>
        have hfree : s.entry.status ≠ .queued := fun hqueued => nomatch hqueued.symm.trans hsubmitting
        exact hkept (fun _ => rfl) (iff_of_true (not_queued_of_final submitted_final) hfree)
    · rcases hentry with hentry | ⟨hqueued, hclosed⟩
      · exact .stays (iff_of_false (not_claimsEntry hop') (not_claimsEntry hop))
          (entryLock_taken_congr hentry)
      · refine .takes (not_not.2 hqueued) fun hstill => ?_
        rw [show s'.entry = _ from hclosed] at hstill
        exact nomatch hstill

/-- **The outline**: every message was sent within its claim, and who is about to send has it. -/
def notificationOutline (environment : WorkerEnvironment) : Outline (tracedNotifications environment) :=
  (entryLock environment).outline (fun s => Preceded (SentWithin environment) s.2)
    (SubmissionClaimed environment)

theorem deliverNotes_length : (deliverNotes environment w s l).length ≤ 1 := by
  unfold deliverNotes
  split
  · split <;> simp
  · simp
  · simp

theorem mem_deliverNotes (h : note ∈ deliverNotes environment w s l) :
    (∃ user customer entry message, note = .claim user customer entry message) ∨
      ∃ message, l.message = some message ∧ note = .send message s.entry.status := by
  cases l with
  | opening token job =>
    rw [deliverNotes] at h
    split at h
    · exact .inl ⟨_, _, _, _, List.mem_singleton.1 h⟩
    · exact nomatch h
  | submitting token message metadata => exact .inr ⟨message, rfl, List.mem_singleton.1 h⟩
  | taking | recording _ _ _ | settling _ _ | done => exact nomatch h

theorem message_of_not_claims (h : l.claims = false) : l.message = none := by
  cases l with
  | submitting _ _ _ => exact nomatch h
  | taking | opening _ _ | recording _ _ _ | settling _ _ | done => rfl

theorem notificationOutline_sound (hlive : environment.deliveryMode = .live) :
    (notificationOutline environment).Sound anyStep := by
  refine (entryLock_sound hlive).outline_sound ?_ ?_ ?_
  · intro s op request _ l heq message hmessage
    cases op with
    | deliver => cases heq; exact nomatch hmessage
    | retryQueueJob | preferences | changeUser => cases heq
  · rintro w ⟨s, trace⟩ t ⟨s', trace'⟩ t' _ hs _ ht hstep
    rcases notificationThread_step hlive hstep with ⟨l, l', rfl, rfl, heffect, htrace⟩ |
        ⟨hop, hop', htrace, hentry⟩
    · refine ⟨?_, fun l₁ heq message hmessage => ?_⟩
      · rw [show trace' = _ from htrace]
        refine hs.append deliverNotes_length fun note hnote => ?_
        rcases mem_deliverNotes hnote with ⟨_, _, _, _, rfl⟩ | ⟨message, hmessage, rfl⟩
        · trivial
        · exact ht l rfl message hmessage
      · cases heq
        cases heffect with
        | quiet _ hnone _ => rw [hnone] at hmessage; exact nomatch hmessage
        | closed _ _ hclaims =>
          rw [message_of_not_claims hclaims] at hmessage
          exact nomatch hmessage
        | claimed _ hnext =>
          rcases hnext with hclaims | ⟨rfl, hnotes, hcontactable⟩
          · rw [message_of_not_claims hclaims] at hmessage
            exact nomatch hmessage
          · obtain rfl := Option.some.inj hmessage
            refine ⟨rfl, _, _, _, ?_, hcontactable⟩
            rw [show trace' = _ from htrace, hnotes]
            exact List.mem_append_right _ (List.mem_singleton_self _)
        | recorded _ hnone => rw [hnone] at hmessage; exact nomatch hmessage
    · refine ⟨by rw [show trace' = _ from htrace]; exact hs, fun l₁ heq => ?_⟩
      rw [heq] at hop'
      exact absurd rfl hop'
  · rintro w ⟨s, trace⟩ t ⟨s', trace'⟩ t' u _ hs _ hu _ hexcludes hstep l rfl message hmessage
    have hsent := hu l rfl message hmessage
    have hfree := hexcludes (claimsEntry_deliver.2 (@claims_of_message environment w s l _ hmessage).1)
    have hsubmitting : s.entry.status = .submitting := hsent.1
    -- Nobody else moves an entry that is being submitted.
    have hsame : s'.entry = s.entry ∧ trace ⊆ trace' := by
      rcases notificationThread_step hlive hstep with ⟨l₁, l₁', rfl, rfl, heffect, htrace⟩ |
          ⟨-, -, htrace, hentry⟩
      · refine ⟨?_, by rw [show trace' = _ from htrace]; exact List.subset_append_left _ _⟩
        cases heffect with
        | quiet hentry _ _ => exact hentry
        | closed hqueued _ _ | claimed hqueued _ => exact nomatch hqueued.symm.trans hsubmitting
        | recorded _ _ => exact absurd (claimsEntry_deliver.2 rfl) hfree
      · refine ⟨?_, by rw [show trace' = _ from htrace]; exact fun _ h => h⟩
        rcases hentry with hentry | ⟨hqueued, -⟩
        · exact hentry
        · exact nomatch hqueued.symm.trans hsubmitting
    show SentWithin environment trace' (.send message s'.entry.status)
    rw [hsame.1]
    exact hsent.mono hsame.2

/-! ## The permit -/

def NotificationNote.isSend : NotificationNote → Bool
  | .claim _ _ _ _ => false
  | .send _ _ => true

def submissionPermit (environment : WorkerEnvironment) :
    Permit (notificationOperations environment) (notificationNotes environment) where
  taken s := s.entry.status ≠ .queued
  holds
    | .deliver, l => (DeliverState.message l).isSome
    | .retryQueueJob, _ | .preferences, _ | .changeUser, _ => False
  spends := NotificationNote.isSend

/-- **A step of live operations**: the entry is left, or closed or claimed while it is queued, or its
result is recorded while it is being submitted. -/
theorem notificationStep_status (hlive : environment.deliveryMode = .live)
    {op : NotificationOperation} {l l' : (notificationOperations environment op).Local}
    (h : (notificationOperations environment op).step w s l = some (s', l')) :
    s'.entry = s.entry ∨ (s.entry.status = .queued ∧ s'.entry.status ≠ .queued) ∨
      (s.entry.status = .submitting ∧ s'.entry.status.isFinal = true) := by
  by_cases hop : op = .deliver
  · subst hop
    cases deliverStep_effect hlive h with
    | quiet hentry _ _ => exact .inl hentry
    | closed hqueued hfinal _ => exact .inr (.inl ⟨hqueued, not_queued_of_final hfinal⟩)
    | claimed hqueued _ => exact .inr (.inl ⟨hqueued, nofun⟩)
    | recorded hsubmitting _ => exact .inr (.inr ⟨hsubmitting, submitted_final⟩)
  · rcases notificationStep_entry op hop h with hentry | ⟨hqueued, hclosed⟩
    · exact .inl hentry
    · refine .inr (.inl ⟨hqueued, ?_⟩)
      rw [hclosed]
      exact nofun

theorem submissionPermit_sound (hlive : environment.deliveryMode = .live) :
    (submissionPermit environment).Sound fun _ => True where
  inv _ _ _ _ _ _ _ _ := trivial
  start op request := by
    cases op with
    | deliver => exact nofun
    | retryQueueJob | preferences | changeUser => exact id
  kept op w s l s' l' _ hstep htaken := by
    rcases notificationStep_status hlive hstep with hentry | ⟨-, hleft⟩ | ⟨-, hfinal⟩
    · exact fun hqueued => htaken (hentry ▸ hqueued)
    · exact hleft
    · exact not_queued_of_final hfinal
  acquired op w s l s' l' _ hstep hholds := by
    cases op with
    | deliver =>
      obtain ⟨message, hmessage⟩ := Option.isSome_iff_exists.1 hholds
      cases deliverStep_effect hlive hstep with
      | quiet _ hnone _ => rw [hnone] at hmessage; exact nomatch hmessage
      | closed _ _ hclaims =>
        rw [message_of_not_claims hclaims] at hmessage
        exact nomatch hmessage
      | claimed hqueued _ => exact .inr ⟨not_not.2 hqueued, nofun⟩
      | recorded _ hnone => rw [hnone] at hmessage; exact nomatch hmessage
    | retryQueueJob | preferences | changeUser => exact hholds.elim
  spent op w s l s' l' _ hstep hpos := by
    obtain ⟨note, hnote, hspends⟩ := List.countP_pos_iff.1 hpos
    cases op with
    | deliver =>
      rcases mem_deliverNotes hnote with ⟨_, _, _, _, rfl⟩ | ⟨message, hmessage, rfl⟩
      · exact nomatch hspends
      · have hnotes := (@claims_of_message environment w s l _ hmessage).2
        refine ⟨Option.isSome_iff_exists.2 ⟨message, hmessage⟩, fun hholds => ?_, ?_⟩
        · cases l with
          | submitting token message metadata => cases hstep; exact nomatch hholds
          | taking | opening _ _ | recording _ _ _ | settling _ _ | done => exact nomatch hmessage
        · show (deliverNotes environment w s l).countP _ = 1
          rw [hnotes]
          rfl
    | retryQueueJob | preferences | changeUser => exact nomatch hnote

/-! ## Runs -/

/-- **A live WhatsApp notification is submitted at most once.**  In every interleaving of deliveries
and manual retries with changes of the recipient, wherever they stop, at most one message is handed
to the provider, while the entry is `SUBMITTING` and after it was claimed for a recipient that could
be told of it.  And an entry with a final status stays as it is. -/
theorem live_notification_submitted_once (hlive : environment.deliveryMode = .live)
    (s₀ : NotificationStore) (c : Config (tracedNotifications environment))
    (hr : Reaches anyStep ⟨(s₀, []), []⟩ c) :
    c.shared.2.countP NotificationNote.isSend ≤ 1 ∧
      Preceded (SentWithin environment) c.shared.2 ∧
      ∀ c', Reaches anyStep c c' → c.shared.1.entry.status.isFinal = true →
        c'.shared.1.entry = c.shared.1.entry := by
  refine ⟨((submissionPermit_sound hlive).once trivial hr).1, ?_, fun c' hr' => ?_⟩
  · have hinit : (notificationOutline environment).shared (s₀, []) := preceded_nil
    exact ((notificationOutline_sound hlive).holds (Outline.holds_idle hinit) hr).shared
  · refine related_of_reaches
      (R := fun s s' : NotificationStore × List NotificationNote =>
        s.1.entry.status.isFinal = true → s'.1.entry = s.1.entry) ?_ ?_ ?_ hr'
    · exact fun _ _ => rfl
    · intro a b c hab hbc hfinal
      have hb := hab hfinal
      exact (hbc (hb ▸ hfinal)).trans hb
    · intro w s t s' t' _ hstep hfinal
      obtain ⟨l, hl, -⟩ := Thread.step_eq_some hstep
      rcases notificationStep_status hlive (Operation.traced_step hl).1 with
        hentry | ⟨hqueued, -⟩ | ⟨hsubmitting, -⟩
      · exact hentry
      · rw [hqueued] at hfinal
        exact nomatch hfinal
      · rw [hsubmitting] at hfinal
        exact nomatch hfinal

end

/-! ### A submission whose answer is lost -/

def liveEnvironment : WorkerEnvironment where
  deliveryMode := .live
  whatsAppLiveEnabled := true
  whatsAppKey := "meta"
  brandName := "WebHost"
  publicWebUrl := "https://billing.example"
  urlOf path := "https://billing.example" ++ path
  encrypt := id
  decrypt := some
  fingerprint := id
  businessDate _ moment := moment / 86400000
  formatDate _ := "01/01/1970"

def securityAlert : NotificationStore where
  user := {
    email := "root@billing.example", role := .admin, emailVerifiedAt := some 1
    preference := some { phoneCiphertext := some "+8801711000000" } }
  entry := {
    key := "admin-security-alert", channel := .whatsApp, status := .queued
    metadata := { destinationFingerprint := some "+8801711000000" } }
  job := {
    queueName := .notifications, jobName := "preview-notification", jobId := .outbox 0
    data := ⟨0, .notification, 7, .notificationDeliveryRequested⟩
    attempts := 5, backoffMilliseconds := 2000 }

def publishedAlert : NotificationWorld where
  event := some ⟨.notificationDeliveryRequested, .notification, 7, .published, ⟨some 7, some 1, false⟩⟩

/-- The message is sent, its outcome is unknown, and the job is delivered once more. -/
def submitAlert : List (Move (tracedNotifications liveEnvironment)) :=
  [.call .deliver (), .advance 0 {}, .advance 0 publishedAlert, .advance 0 {},
    .advance 0 {}, .call .deliver (), .advance 1 {}, .advance 1 publishedAlert, .advance 1 {}]

def submittedConfig : Config (tracedNotifications liveEnvironment) :=
  Config.after ⟨(securityAlert, []), []⟩ submitAlert (by decide +kernel)

/-- The run has one submission, and its entry is final. -/
theorem alert_submitted_once :
    submittedConfig.shared.1.entry.status = .unknown ∧
      submittedConfig.shared.2.countP NotificationNote.isSend = 1 ∧
      submittedConfig.shared.2.countP NotificationNote.isSend ≤ 1 ∧
      Preceded (SentWithin liveEnvironment) submittedConfig.shared.2 := by
  have honce := @live_notification_submitted_once liveEnvironment rfl securityAlert
    submittedConfig (reaches_anyStep_of_run (run_eq_after (by decide +kernel)))
  exact ⟨by decide +kernel, by decide +kernel, honce.1, honce.2.1⟩

end NotificationDeliveryService

end WebhostBilling
