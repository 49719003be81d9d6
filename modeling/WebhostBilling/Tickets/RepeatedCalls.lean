import WebhostBilling.Tickets.Conversations

/-!
# Repeated calls

A repeated reply must not find the ticket closed in its transaction, which looks at the status
before the key.  Texts that are compared must be spelled as they are stored.  And the message that a
repeated ticket is compared with must be the one that it was opened with, which the order of the
time stamps need not say.
-/

namespace WebhostBilling

open Store Store.Table Concurrency Config

namespace Tickets

/-! ## What a call asks for -/

/-- The ticket under the key is what the call asks for, by its first message too. -/
def Created (s : TicketStore) (call : CreateCall) : Prop :=
  ∃ ticket ∈ s.findTicket call.submissionKey.value, ticket.customerId = call.customerId ∧
    ticket.subject = call.subject ∧ ticket.serviceId = call.serviceId.map SentUuid.value ∧
    ∃ initial ∈ s.initialMessage call.submissionKey.value,
      initial.authorUserId = call.userId ∧ initial.body = call.body
deriving Decidable

/-- The message under the key is what the call asks for. -/
def Replied (s : TicketStore) (call : ReplyCall) : Prop :=
  ∃ message ∈ s.findMessage call.submissionKey.value, message.ticketId = call.ticketId.value ∧
    message.authorUserId = call.actor.userId ∧ message.body = call.body
deriving Decidable

namespace TicketCall

/-- What the call asks for has been recorded. -/
def Describes (s : TicketStore) : TicketCall → Prop
  | .create call => Created s call
  | .reply call => Replied s call

/-- The key of the call is recorded. -/
def KeyTaken (s : TicketStore) : TicketCall → Prop
  | .create call => ∃ ticket, s.findTicket call.submissionKey.value = some ticket
  | .reply call => ∃ message, s.findMessage call.submissionKey.value = some message

/-- The caller may read the ticket. -/
def MayRead (s : TicketStore) : TicketCall → Prop
  | .create _ => True
  | .reply call => ∃ ticket ∈ s.findTicket call.ticketId.value, call.actor.owns ticket = true

/-- The ticket that the call answers with. -/
def answer : TicketCall → RowId
  | .create call => call.submissionKey.value
  | .reply call => call.ticketId.value

/-- What a call has found to be recorded once it answers. -/
def Reached (s : TicketStore) (call : TicketCall) : TicketState → Prop
  | .fetching => call.Describes s
  | .done (.ok id) => call.Describes s ∧ call.MayRead s ∧ id = call.answer
  | _ => True

/-- The recorded ticket is compared with its first message, and with the service as it is stored. -/
def Compares (s : TicketStore) (call : CreateCall) : Prop :=
  ∀ ticket ∈ s.findTicket call.submissionKey.value,
    s.firstMessage ticket.id = s.initialMessage call.submissionKey.value ∧
      (Created s call → ∀ sent ∈ call.serviceId, sent.asStored = true)
deriving Decidable

/-- The condition under which a step of a call treats a repeated call as such. -/
def Undisturbed (s : TicketStore) : TicketCall → TicketState → Prop
  | .create call, .looking => Compares s call
  | .create call, .racing => Compares s call
  | .reply call, .looking => Replied s call → call.ticketId.asStored = true
  | .reply call, .racing => Replied s call → call.ticketId.asStored = true
  | .reply call, .transacting => Replied s call →
    ∀ ticket ∈ s.findTicket call.ticketId.value, ticket.status ≠ .closed
  | _, _ => True

instance decidableUndisturbed (s : TicketStore) (call : TicketCall) (state : TicketState) :
    Decidable (call.Undisturbed s state) := by
  unfold Undisturbed
  split <;> infer_instance

/-- How many steps a call can still take. -/
def stepsLeft : TicketState → ℕ
  | .looking => 4
  | .transacting => 3
  | .racing => 2
  | .fetching => 1
  | .done _ => 0

end TicketCall

section

variable {w : TicketWorld} {s s' : TicketStore} {state state' : TicketState}

/-! ## What is there stays there -/

/-- A recorded ticket stays as it was asked for. -/
theorem Grown.created (h : Grown s s') {call : CreateCall} (hcreated : Created s call) :
    Created s' call := by
  obtain ⟨ticket, hticket, hcustomer, hsubject, hservice, initial, hinitial, hmessage⟩ := hcreated
  obtain ⟨ticket', hticket', hopened⟩ := h.tickets _ ticket hticket
  simp only [Ticket.opened, Prod.mk.injEq] at hopened
  exact ⟨ticket', hticket', hopened.2.1.trans hcustomer, hopened.2.2.1.trans hsubject,
    hopened.2.2.2.trans hservice, initial, h.initial _ initial hinitial, hmessage⟩

/-- A recorded reply stays as it was asked for. -/
theorem Grown.replied (h : Grown s s') {call : ReplyCall} (hreplied : Replied s call) :
    Replied s' call := by
  obtain ⟨message, hmessage, hsame⟩ := hreplied
  exact ⟨message, h.messages _ message hmessage, hsame⟩

variable {id : RowId} {ticket : Ticket} {call : TicketCall}

theorem Grown.describes (h : Grown s s') (hdescribes : call.Describes s) :
    call.Describes s' := by
  cases call with
  | create call => exact h.created hdescribes
  | reply call => exact h.replied hdescribes

theorem owns_congr {actor : TicketActor} {ticket' : Ticket}
    (h : ticket'.opened = ticket.opened) : actor.owns ticket' = actor.owns ticket := by
  simp only [Ticket.opened, Prod.mk.injEq] at h
  cases actor with
  | admin userId => rfl
  | customer userId customerId => rw [TicketActor.owns, TicketActor.owns, h.2.1]

theorem Grown.mayRead (h : Grown s s') (hread : call.MayRead s) :
    call.MayRead s' := by
  cases call with
  | create => trivial
  | reply call =>
    obtain ⟨ticket, hticket, howns⟩ := hread
    obtain ⟨ticket', hticket', hopened⟩ := h.tickets _ ticket hticket
    exact ⟨ticket', hticket', (owns_congr hopened).trans howns⟩

theorem Grown.reached (h : Grown s s') (hreached : call.Reached s state) :
    call.Reached s' state := by
  match state with
  | .looking | .transacting | .racing => trivial
  | .fetching => exact h.describes hreached
  | .done (.ok id) => exact ⟨h.describes hreached.1, h.mayRead hreached.2.1, hreached.2.2⟩
  | .done (.error e) => trivial

theorem Grown.describes_of_taken (h : Grown s s') (hs : Conversations s)
    (htaken : call.KeyTaken s) (hdescribes : call.Describes s') : call.Describes s := by
  cases call with
  | create call =>
    obtain ⟨ticket, hticket⟩ := htaken
    obtain ⟨initial, hinitial⟩ := hs.begun _ ticket hticket
    obtain ⟨ticket', hticket', hopened⟩ := h.tickets _ ticket hticket
    obtain ⟨ticket₁, hticket₁, hcustomer, hsubject, hservice, initial₁, hinitial₁, hmessage⟩ :=
      hdescribes
    obtain rfl := Option.mem_unique hticket' hticket₁
    obtain rfl := Option.some.inj ((h.initial _ initial hinitial).symm.trans hinitial₁)
    simp only [Ticket.opened, Prod.mk.injEq] at hopened
    exact ⟨ticket, hticket, hopened.2.1.symm.trans hcustomer, hopened.2.2.1.symm.trans hsubject,
      hopened.2.2.2.symm.trans hservice, initial, hinitial, hmessage⟩
  | reply call =>
    obtain ⟨message, hmessage⟩ := htaken
    obtain ⟨message₁, hmessage₁, hsame⟩ := hdescribes
    obtain rfl := Option.some.inj ((h.messages _ message hmessage).symm.trans hmessage₁)
    exact ⟨message, hmessage, hsame⟩

/-! ## What the checks say -/

theorem get_eq_ok {ticketId : RowId} {actor : TicketActor} :
    get s ticketId actor = .ok id ↔
      ∃ ticket, s.findTicket ticketId = some ticket ∧ actor.owns ticket = true ∧ ticket.id = id := by
  simp only [get, eq_ok]

theorem id_of_findTicket (h : s.findTicket id = some ticket) :
    ticket.id = id :=
  (lookup_eq_some h).1

theorem map_ofStored_eq {stored : Option RowId} {sent : Option SentUuid} :
    stored.map .ofStored = sent ↔
      stored = sent.map SentUuid.value ∧ ∀ id ∈ sent, id.asStored = true := by
  cases stored with
  | none => cases sent <;> simp
  | some id =>
    cases sent with
    | none => simp
    | some sent =>
      obtain ⟨value, asStored⟩ := sent
      simp only [Option.map_some, Option.some.injEq, SentUuid.ofStored, SentUuid.mk.injEq,
        Option.mem_def, forall_eq']
      exact and_congr_right fun _ => eq_comm

theorem duplicateCreate_eq_ok {call : CreateCall}
    (hticket : s.findTicket call.submissionKey.value = some ticket)
    (hcompares : TicketCall.Compares s call) :
    duplicateCreate s ticket call = .ok id ↔ Created s call ∧ id = call.submissionKey.value := by
  obtain ⟨hfirst, hspelled⟩ := hcompares ticket hticket
  rw [id_of_findTicket hticket] at hfirst
  simp only [duplicateCreate, eq_ok, map_ofStored_eq, id_of_findTicket hticket, hfirst]
  constructor
  · rintro ⟨⟨hcustomer, hsubject, ⟨hservice, -⟩, hinitial⟩, rfl⟩
    exact ⟨⟨ticket, hticket, hcustomer, hsubject, hservice, hinitial⟩, rfl⟩
  · rintro ⟨hcreated, rfl⟩
    have hstored := hspelled hcreated
    obtain ⟨ticket', hticket', hcustomer, hsubject, hservice, hinitial⟩ := hcreated
    obtain rfl := Option.mem_unique hticket hticket'
    exact ⟨⟨hcustomer, hsubject, ⟨hservice, hstored⟩, hinitial⟩, rfl⟩

theorem repeats_eq_true {call : ReplyCall} {message : TicketMessage} :
    call.repeats message = true ↔ (message.ticketId = call.ticketId.value ∧
      message.authorUserId = call.actor.userId ∧ message.body = call.body) ∧
      call.ticketId.asStored = true := by
  obtain ⟨⟨value, asStored⟩, submissionKey, body, actor⟩ := call
  simp only [ReplyCall.repeats, SentUuid.ofStored, decide_eq_true_eq, SentUuid.mk.injEq]
  constructor
  · rintro ⟨⟨hticket, hstored⟩, hsame⟩
    exact ⟨⟨hticket, hsame⟩, hstored.symm⟩
  · rintro ⟨⟨hticket, hsame⟩, hstored⟩
    exact ⟨⟨hticket, hstored.symm⟩, hsame⟩

/-! ## What a call reaches -/

theorem created_open {call : CreateCall} (h : Conversations s)
    (hkey : s.findTicket call.submissionKey.value = none) : Created (s.open w call) call := by
  have hnone : s.initialMessage call.submissionKey.value = none := by
    refine lookup_eq_none.2 fun i message hrow hid => ?_
    obtain ⟨ticket, hticket⟩ := h.belongs i message hrow
    rw [hid, hkey] at hticket
    cases hticket
  refine ⟨newTicket w call, ?_, rfl, rfl, rfl, openingMessage w call, ?_, rfl, rfl⟩
  · show (s.tickets.insert (newTicket w call)).lookup Ticket.id call.submissionKey.value = _
    rw [lookup_insert_of_none hkey]
    exact if_pos rfl
  · show (s.messages.insert (openingMessage w call)).lookup TicketMessage.ticketId
      call.submissionKey.value = _
    rw [lookup_insert_of_none hnone]
    exact if_pos rfl

theorem replied_reply {call : ReplyCall} (hkey : s.findMessage call.submissionKey.value = none) :
    Replied (s.reply w call) call := by
  refine ⟨newReply w call, ?_, rfl, rfl, rfl⟩
  show (s.messages.insert (newReply w call)).lookup TicketMessage.id call.submissionKey.value = _
  rw [lookup_insert_of_none hkey]
  exact if_pos rfl

theorem reached_of_result {result : Except Failure RowId}
    (h : ∀ id, result = .ok id → call.Describes s ∧ call.MayRead s ∧ id = call.answer) :
    call.Reached s (.done result) := by
  cases result with
  | error e => trivial
  | ok id => exact h id rfl

theorem createStep_reached {call : CreateCall} (h : Conversations s)
    (hundisturbed : (TicketCall.create call).Undisturbed s state)
    (hreached : (TicketCall.create call).Reached s state)
    (hstep : createStep w s call state = some (s', state')) :
    (TicketCall.create call).Reached s' state' := by
  cases state with
  | looking =>
    rw [createStep] at hstep
    split at hstep <;> cases hstep
    · rename_i existing hfound
      refine reached_of_result fun id hid => ?_
      obtain ⟨hcreated, rfl⟩ := (duplicateCreate_eq_ok hfound hundisturbed).1 hid
      exact ⟨hcreated, trivial, rfl⟩
    · trivial
  | transacting =>
    rcases afterTransaction_cases (Option.some.inj hstep) with
      ⟨u, hcommit, rfl⟩ | ⟨-, rfl | ⟨e, rfl⟩⟩
    · obtain ⟨-, hkey, -, rfl⟩ := createTransaction_eq_ok hcommit
      exact created_open h hkey
    · trivial
    · trivial
  | racing =>
    rw [createStep] at hstep
    split at hstep <;> cases hstep
    · rename_i raced hfound
      refine reached_of_result fun id hid => ?_
      obtain ⟨hcreated, rfl⟩ := (duplicateCreate_eq_ok hfound hundisturbed).1 hid
      exact ⟨hcreated, trivial, rfl⟩
    · trivial
  | fetching =>
    cases hstep
    refine reached_of_result fun id hid => ⟨hreached, trivial, ?_⟩
    obtain ⟨ticket, hticket, -, rfl⟩ := get_eq_ok.1 hid
    exact id_of_findTicket hticket
  | done => cases hstep

theorem replyStep_reached {call : ReplyCall} (hreached : (TicketCall.reply call).Reached s state)
    (hstep : replyStep w s call state = some (s', state')) :
    (TicketCall.reply call).Reached s' state' := by
  cases state with
  | looking =>
    rw [replyStep] at hstep
    split at hstep
    · rename_i existing hfound
      split at hstep <;> cases hstep
      · rename_i hrepeats
        exact ⟨existing, hfound, (repeats_eq_true.1 hrepeats).1⟩
      · trivial
    · cases hstep
      trivial
  | transacting =>
    rcases afterTransaction_cases (Option.some.inj hstep) with
      ⟨u, hcommit, rfl⟩ | ⟨-, rfl | ⟨e, rfl⟩⟩
    · obtain ⟨ticket, -, -, -, hkey, rfl⟩ := replyTransaction_eq_ok hcommit
      exact replied_reply hkey
    · trivial
    · trivial
  | racing =>
    rw [replyStep] at hstep
    split at hstep <;> cases hstep
    · rename_i hrepeats
      obtain ⟨raced, hfound, hraced⟩ := (Option.any_eq_true _ _).1 hrepeats
      exact ⟨raced, hfound, (repeats_eq_true.1 hraced).1⟩
    · trivial
  | fetching =>
    cases hstep
    refine reached_of_result fun id hid => ?_
    obtain ⟨ticket, hticket, howns, rfl⟩ := get_eq_ok.1 hid
    exact ⟨hreached, ⟨ticket, hticket, howns⟩, id_of_findTicket hticket⟩
  | done => cases hstep

/-- An undisturbed step answers only with what is recorded. -/
theorem TicketCall.reached_step (h : Conversations s)
    (hundisturbed : call.Undisturbed s state) (hreached : call.Reached s state)
    (hstep : call.step w s state = some (s', state')) : call.Reached s' state' := by
  cases call with
  | create call => exact createStep_reached h hundisturbed hreached hstep
  | reply call => exact replyStep_reached hreached hstep

/-! ## A repeated call is not refused -/

/-- The call has not ended with an error. -/
def Unrefused : TicketState → Prop
  | .done (.error _) => False
  | _ => True

/-- Opening the recorded ticket again fails on its key. -/
theorem createTransaction_repeated {call : CreateCall} (h : Conversations s)
    (hcreated : Created s call) : createTransaction w call s = .error .uniqueConstraint := by
  obtain ⟨ticket, hticket, hcustomer, -, hservice, -⟩ := hcreated
  have howner : ∀ sent ∈ call.serviceId,
      s.serviceOwners.get? sent.value = some call.customerId := by
    intro sent hsent
    rw [← hcustomer]
    refine h.served _ ticket hticket sent.value ?_
    rw [hservice, Option.mem_def.1 hsent]
    rfl
  have htaken : ¬ s.findTicket call.submissionKey.value = none := by
    rw [Option.mem_def.1 hticket]
    exact fun hnone => nomatch hnone
  rw [createTransaction, require_true _ howner, require_false _ htaken]
  rfl

theorem createStep_unrefused {call : CreateCall} (h : Conversations s)
    (hundisturbed : (TicketCall.create call).Undisturbed s state) (hcreated : Created s call)
    (hstate : Unrefused state) (hstep : createStep w s call state = some (s', state')) :
    Unrefused state' := by
  obtain ⟨ticket, hticket, hcustomer, -⟩ := id hcreated
  rw [Option.mem_def] at hticket
  cases state with
  | looking =>
    rw [createStep, hticket] at hstep
    cases hstep
    rw [(duplicateCreate_eq_ok hticket hundisturbed).2 ⟨hcreated, rfl⟩]
    trivial
  | transacting =>
    rw [createStep, createTransaction_repeated h hcreated] at hstep
    cases hstep
    trivial
  | racing =>
    rw [createStep, hticket] at hstep
    cases hstep
    rw [(duplicateCreate_eq_ok hticket hundisturbed).2 ⟨hcreated, rfl⟩]
    trivial
  | fetching =>
    cases hstep
    have howns : (TicketActor.customer call.userId call.customerId).owns ticket = true :=
      decide_eq_true hcustomer.symm
    rw [get_eq_ok.2 ⟨ticket, hticket, howns, rfl⟩]
    trivial
  | done => cases hstep

/-- Sending the recorded reply again fails on its key. -/
theorem replyTransaction_repeated {call : ReplyCall}
    (hreplied : Replied s call) (hticket : s.findTicket call.ticketId.value = some ticket)
    (howns : call.actor.owns ticket = true) (hopen : ticket.status ≠ .closed) :
    replyTransaction w call s = .error .uniqueConstraint := by
  obtain ⟨message, hmessage, -⟩ := hreplied
  have htaken : ¬ s.findMessage call.submissionKey.value = none := by
    rw [Option.mem_def.1 hmessage]
    exact fun hnone => nomatch hnone
  rw [replyTransaction, hticket]
  show (require _ _ >>= _) = _
  rw [require_true _ howns]
  show (require _ _ >>= _) = _
  rw [require_true _ hopen]
  show (require _ _ >>= _) = _
  rw [require_false _ htaken]
  rfl

theorem replyStep_unrefused {call : ReplyCall}
    (hundisturbed : (TicketCall.reply call).Undisturbed s state) (hreplied : Replied s call)
    (hread : (TicketCall.reply call).MayRead s) (hstate : Unrefused state)
    (hstep : replyStep w s call state = some (s', state')) : Unrefused state' := by
  obtain ⟨message, hmessage, hsame⟩ := id hreplied
  rw [Option.mem_def] at hmessage
  obtain ⟨ticket, hticket, howns⟩ := hread
  rw [Option.mem_def] at hticket
  cases state with
  | looking =>
    rw [replyStep, hmessage] at hstep
    have hrepeats := repeats_eq_true.2 ⟨hsame, hundisturbed hreplied⟩
    simp only [if_pos hrepeats] at hstep
    cases hstep
    trivial
  | transacting =>
    -- The ticket is not closed, so the transaction comes to the key.
    have hopen := hundisturbed hreplied ticket hticket
    rw [replyStep, replyTransaction_repeated hreplied hticket howns hopen] at hstep
    cases hstep
    trivial
  | racing =>
    have hrepeats := repeats_eq_true.2 ⟨hsame, hundisturbed hreplied⟩
    rw [replyStep, hmessage, Option.any_some, if_pos hrepeats] at hstep
    cases hstep
    trivial
  | fetching =>
    cases hstep
    rw [get_eq_ok.2 ⟨ticket, hticket, howns, rfl⟩]
    trivial
  | done => cases hstep

/-- An undisturbed step does not refuse a repeated call. -/
theorem TicketCall.unrefused_step (h : Conversations s)
    (hundisturbed : call.Undisturbed s state) (hdescribes : call.Describes s)
    (hread : call.MayRead s) (hstate : Unrefused state)
    (hstep : call.step w s state = some (s', state')) : Unrefused state' := by
  cases call with
  | create call => exact createStep_unrefused h hundisturbed hdescribes hstate hstep
  | reply call => exact replyStep_unrefused hundisturbed hdescribes hread hstate hstep

/-! ## A key that is taken -/

/-- A call whose key is taken writes nothing. -/
theorem TicketCall.unchanged_of_taken (htaken : call.KeyTaken s)
    (hstep : call.step w s state = some (s', state')) : s' = s := by
  have hread : ∀ {result : TicketState}, some (s, result) = some (s', state') → s' = s := by
    intro result hsome
    obtain ⟨rfl, -⟩ := Prod.mk.inj (Option.some.inj hsome)
    rfl
  cases call with
  | create call =>
    obtain ⟨ticket, hticket⟩ := htaken
    rw [TicketCall.step] at hstep
    cases state with
    | looking => rw [createStep, hticket] at hstep; exact hread hstep
    | transacting =>
      rcases afterTransaction_cases (Option.some.inj hstep) with ⟨u, hcommit, -⟩ | ⟨rfl, -⟩
      · obtain ⟨-, hkey, -⟩ := createTransaction_eq_ok hcommit
        rw [hticket] at hkey
        cases hkey
      · rfl
    | racing => rw [createStep, hticket] at hstep; exact hread hstep
    | fetching => exact hread hstep
    | done => cases hstep
  | reply call =>
    obtain ⟨message, hmessage⟩ := htaken
    rw [TicketCall.step] at hstep
    cases state with
    | looking =>
      rw [replyStep, hmessage] at hstep
      simp only at hstep
      split at hstep <;> exact hread hstep
    | transacting =>
      rcases afterTransaction_cases (Option.some.inj hstep) with ⟨u, hcommit, -⟩ | ⟨rfl, -⟩
      · obtain ⟨-, -, -, -, hkey, -⟩ := replyTransaction_eq_ok hcommit
        rw [hmessage] at hkey
        cases hkey
      · rfl
    | racing => rw [replyStep] at hstep; split at hstep <;> exact hread hstep
    | fetching => exact hread hstep
    | done => cases hstep

theorem TicketCall.step_isSome (w : TicketWorld) (s : TicketStore)
    (hleft : 0 < stepsLeft state) : (call.step w s state).isSome := by
  cases call with
  | create call =>
    cases state with
    | looking => rw [TicketCall.step, createStep]; split <;> rfl
    | transacting => rfl
    | racing => rw [TicketCall.step, createStep]; split <;> rfl
    | fetching => rfl
    | done => exact absurd hleft (Nat.lt_irrefl 0)
  | reply call =>
    cases state with
    | looking =>
      rw [TicketCall.step, replyStep]
      split
      · split <;> rfl
      · rfl
    | transacting => rfl
    | racing => rw [TicketCall.step, replyStep]; split <;> rfl
    | fetching => rfl
    | done => exact absurd hleft (Nat.lt_irrefl 0)

theorem afterTransaction_stepsLeft {result : Except Failure (TicketStore × Unit)}
    (h : afterTransaction s result = (s', state')) :
    TicketCall.stepsLeft state' < TicketCall.stepsLeft .transacting := by
  rcases afterTransaction_cases h with ⟨-, -, rfl⟩ | ⟨-, rfl | ⟨e, rfl⟩⟩
  · exact Nat.succ_lt_succ (Nat.succ_pos 1)
  · exact Nat.lt_succ_self 2
  · exact Nat.succ_pos 2

/-- Every step brings a call nearer to its end. -/
theorem TicketCall.stepsLeft_lt
    (hstep : call.step w s state = some (s', state')) : stepsLeft state' < stepsLeft state := by
  cases call with
  | create call =>
    rw [TicketCall.step] at hstep
    cases state with
    | looking =>
      rw [createStep] at hstep
      split at hstep <;> obtain ⟨-, rfl⟩ := Prod.mk.inj (Option.some.inj hstep)
      · exact Nat.succ_pos 3
      · exact Nat.lt_succ_self 3
    | transacting => exact afterTransaction_stepsLeft (Option.some.inj hstep)
    | racing =>
      rw [createStep] at hstep
      split at hstep <;> obtain ⟨-, rfl⟩ := Prod.mk.inj (Option.some.inj hstep)
      · exact Nat.succ_pos 1
      · exact Nat.succ_pos 1
    | fetching =>
      obtain ⟨-, rfl⟩ := Prod.mk.inj (Option.some.inj hstep)
      exact Nat.succ_pos 0
    | done => cases hstep
  | reply call =>
    rw [TicketCall.step] at hstep
    cases state with
    | looking =>
      rw [replyStep] at hstep
      split at hstep
      · split at hstep <;> obtain ⟨-, rfl⟩ := Prod.mk.inj (Option.some.inj hstep)
        · exact Nat.succ_lt_succ (Nat.succ_pos 2)
        · exact Nat.succ_pos 3
      · obtain ⟨-, rfl⟩ := Prod.mk.inj (Option.some.inj hstep)
        exact Nat.lt_succ_self 3
    | transacting => exact afterTransaction_stepsLeft (Option.some.inj hstep)
    | racing =>
      rw [replyStep] at hstep
      split at hstep <;> obtain ⟨-, rfl⟩ := Prod.mk.inj (Option.some.inj hstep)
      · exact Nat.lt_succ_self 1
      · exact Nat.succ_pos 1
    | fetching =>
      obtain ⟨-, rfl⟩ := Prod.mk.inj (Option.some.inj hstep)
      exact Nat.succ_pos 0
    | done => cases hstep

end

/-! ## Runs -/

/-- The condition on a step: it treats a repeated call as such. -/
def undisturbed (settings : Auth.StaffSettings) (_w : TicketWorld) (s : TicketStore)
    (t : Thread (ticketOps settings)) : Prop :=
  ∀ entry ∈ ticketView t, entry.1.Undisturbed s entry.2
deriving Decidable

/-- The conversations are kept, and each call answers with what is recorded. -/
def ticketOutline (settings : Auth.StaffSettings) : Outline (ticketOps settings) where
  shared := Conversations
  thread s t := ∀ entry ∈ ticketView t, entry.1.Reached s entry.2

section

variable {settings : Auth.StaffSettings} {w : TicketWorld} {s s' : TicketStore}
  {t t' : Thread (ticketOps settings)}

theorem reached_begin (s : TicketStore) (kind : TicketKind)
    (request : (ticketOps settings kind).Request) :
    ∀ entry ∈ ticketView (Thread.begin kind request), entry.1.Reached s entry.2 := by
  intro entry hentry
  cases kind with
  | create | reply =>
    obtain rfl := Option.some.inj hentry
    trivial
  | update | staff | elsewhere => cases hentry

theorem ticketOutline_sound (settings : Auth.StaffSettings) :
    (ticketOutline settings).Sound (undisturbed settings) where
  symm _ _ h := h
  call s op request _ := reached_begin s op request
  call_apart _ _ _ := trivial
  own w s t s' t' hφ hs ht hstep := by
    refine ⟨hs.write (ticketWrite_of_step hstep), fun entry hentry => ?_⟩
    rcases ticketView_of_step hstep with ⟨call, state, state', hview, hview', hop⟩ | ⟨-, hview', -⟩
    · rw [hview'] at hentry
      obtain rfl := Option.some.inj hentry
      exact TicketCall.reached_step hs (hφ (call, state) hview) (ht (call, state) hview) hop
    · rw [hview'] at hentry
      cases hentry
  other w s t s' t' u hφ hs ht hu hapart hstep :=
    ⟨fun entry hentry => (ticketWrite_of_step hstep).grown.reached (hu entry hentry), hapart⟩

variable {c c' : Config (ticketOps settings)} {call : TicketCall} {state : TicketState}

theorem grown_of_reaches {φ : TicketWorld → TicketStore → Thread (ticketOps settings) → Prop}
    (hr : Reaches φ c c') : Grown c.shared c'.shared :=
  related_of_reaches Grown.refl (fun _ _ _ h h' => h.trans h')
    (fun _ _ _ _ _ _ hstep => (ticketWrite_of_step hstep).grown) hr

/-- A repeated call is not refused in a run whose steps are undisturbed. -/
theorem unrefused_of_reaches {k : ℕ} (hholds : (ticketOutline settings).Holds c)
    (hr : Reaches (undisturbed settings) c c') (hdescribes : call.Describes c.shared)
    (hread : call.MayRead c.shared) (ht : c.threads[k]? = some t)
    (hview : ticketView t = some (call, state)) (hstate : Unrefused state) :
    ∃ t', c'.threads[k]? = some t' ∧
      ∃ state', ticketView t' = some (call, state') ∧ Unrefused state' := by
  have htracked : ∃ t', c'.threads[k]? = some t' ∧
      (call.Describes c'.shared ∧ call.MayRead c'.shared) ∧
        ∃ state', ticketView t' = some (call, state') ∧ Unrefused state' := by
    refine (ticketOutline_sound settings).tracked
      (J := fun s t => (call.Describes s ∧ call.MayRead s) ∧
        ∃ state, ticketView t = some (call, state) ∧ Unrefused state) ?_ ?_ hholds hr ht
      ⟨⟨hdescribes, hread⟩, state, hview, hstate⟩
    · rintro w s t s' t' hφ hs - ⟨⟨hdescribes, hread⟩, state, hview, hstate⟩ hstep
      have hgrown := (ticketWrite_of_step hstep).grown
      refine ⟨⟨hgrown.describes hdescribes, hgrown.mayRead hread⟩, ?_⟩
      rcases ticketView_of_step hstep with ⟨call', state₁, state', hview₁, hview', hop⟩ | ⟨hnone, -⟩
      · obtain ⟨rfl, rfl⟩ := Prod.mk.inj (Option.mem_unique hview hview₁)
        exact ⟨state', hview', TicketCall.unrefused_step hs (hφ (call, state) hview) hdescribes
          hread hstate hop⟩
      · rw [hview] at hnone
        cases hnone
    · rintro w s t s' t' u - - - ⟨⟨hdescribes, hread⟩, hstate⟩ hstep
      have hgrown := (ticketWrite_of_step hstep).grown
      exact ⟨⟨hgrown.describes hdescribes, hgrown.mayRead hread⟩, hstate⟩
  obtain ⟨t', ht', -, hend⟩ := htracked
  exact ⟨t', ht', hend⟩

/-- **What is certain of the conversations and of the calls.** -/
structure ConversationsKept (c : Config (ticketOps settings)) : Prop where
  /-- A submission key stands for one ticket, a reply key for one message and one event. -/
  ticket : ∀ i j a b, c.shared.tickets.get? i = some a → c.shared.tickets.get? j = some b →
    a.id = b.id → i = j
  message : ∀ i j a b, c.shared.messages.get? i = some a → c.shared.messages.get? j = some b →
    a.id = b.id → i = j
  event : ∀ i j a b, c.shared.replyEvents.get? i = some a → c.shared.replyEvents.get? j = some b →
    a.messageId = b.messageId → i = j
  closed : ∀ i ticket, c.shared.tickets.get? i = some ticket →
    (ticket.closedAt.isSome ↔ ticket.status = .closed)
  opened : ∀ w t s' t', t ∈ c.threads → t.step w c.shared = some (s', t') →
    ∀ i message, c.shared.messages.get? i = none → s'.messages.get? i = some message →
    ∀ ticket, c.shared.findTicket message.ticketId = some ticket → ticket.status ≠ .closed
  /-- Once a call has succeeded, the same call of another thread returns the ticket too. -/
  repeated : ∀ (j k : ℕ) t u call state id, c.threads[j]? = some u →
    ticketView u = some (call, .done (.ok id)) → c.threads[k]? = some t →
    ticketView t = some (call, state) → (∀ result, state ≠ .done result) →
    ∀ c' t' result, Reaches (undisturbed settings) c c' → c'.threads[k]? = some t' →
      ticketView t' = some (call, .done result) → result = .ok id
  /-- A call whose key was used for something else never succeeds and writes nothing. -/
  refused : ∀ (k : ℕ) t call state, c.threads[k]? = some t → ticketView t = some (call, state) →
    call.KeyTaken c.shared → ¬ call.Describes c.shared →
    (∀ c' t' id, Reaches (undisturbed settings) c c' → c'.threads[k]? = some t' →
      ticketView t' ≠ some (call, .done (.ok id))) ∧
    ∀ w s' t', t.step w c.shared = some (s', t') → s' = c.shared
  answered : ∀ t call state, t ∈ c.threads → ticketView t = some (call, state) →
    (∀ result, state ≠ .done result) → ∀ w, ∃ s' t' state', t.step w c.shared = some (s', t') ∧
      ticketView t' = some (call, state') ∧
      TicketCall.stepsLeft state' < TicketCall.stepsLeft state

/-- A call that has not ended can take a step. -/
theorem exists_step (w : TicketWorld) (s : TicketStore)
    (hview : ticketView t = some (call, state)) (hstate : ∀ result, state ≠ .done result) :
    ∃ out, t.step w s = some out := by
  have hleft : 0 < TicketCall.stepsLeft state := by
    cases state with
    | done result => exact absurd rfl (hstate result)
    | _ => exact Nat.succ_pos _
  obtain ⟨out, hout⟩ := Option.isSome_iff_exists.1 (@TicketCall.step_isSome _ call w s hleft)
  obtain ⟨kind, l⟩ := t
  cases kind with
  | create =>
    obtain ⟨call', state'⟩ := l
    cases hview
    refine ⟨(out.1, ⟨.create, (call', out.2)⟩), ?_⟩
    show ((createStep w s call' state').map _).map _ = _
    rw [show createStep w s call' state' = some out from hout]
    rfl
  | reply =>
    obtain ⟨call', state'⟩ := l
    cases hview
    refine ⟨(out.1, ⟨.reply, (call', out.2)⟩), ?_⟩
    show ((replyStep w s call' state').map _).map _ = _
    rw [show replyStep w s call' state' = some out from hout]
    rfl
  | update | staff | elsewhere => cases hview

theorem ticketOutline_holds (h : Conversations s)
    (hr : Reaches (undisturbed settings) ⟨s, []⟩ c) : (ticketOutline settings).Holds c :=
  (ticketOutline_sound settings).holds (Outline.holds_idle h) hr

/-- **Conversations are consistent and calls can be repeated**, in every run whose steps treat a
repeated call as such. -/
theorem conversations_kept {c : Config (ticketOps settings)} (h : Conversations s)
    (hr : Reaches (undisturbed settings) ⟨s, []⟩ c) : ConversationsKept c := by
  have hholds := ticketOutline_holds h hr
  have hs : Conversations c.shared := hholds.shared
  refine ⟨fun i j a b => hs.tickets.eq_of_get?, fun i j a b => hs.messages.eq_of_get?,
    fun i j a b => hs.events.eq_of_get?, hs.closed, ?_, ?_, ?_, ?_⟩
  · intro w t s' t' _ hstep i message hnew hrow ticket hticket
    exact (ticketWrite_of_step hstep).not_closed hnew hrow hticket
  · intro j k t u call state id hu hdone ht hview hunfinished c' t' result hr' ht' hresult
    have hreached := hholds.thread u (List.mem_of_getElem? hu) _ hdone
    obtain ⟨hdescribes, hread, hid⟩ := hreached
    have hstate : Unrefused state := by
      cases state with
      | done result => exact absurd rfl (hunfinished result)
      | _ => trivial
    obtain ⟨v, hv, state', hend, hunrefused⟩ :=
      unrefused_of_reaches hholds hr' hdescribes hread ht hview hstate
    obtain rfl := Option.mem_unique hv ht'
    obtain ⟨-, rfl⟩ := Prod.mk.inj (Option.mem_unique hend hresult)
    cases result with
    | error e => exact hunrefused.elim
    | ok id =>
      have hanswer := ((ticketOutline_sound settings).holds hholds hr').thread v
        (List.mem_of_getElem? ht') _ hresult
      exact congrArg Except.ok (hanswer.2.2.trans hid.symm)
  · intro k t call state ht hview htaken hother
    refine ⟨fun c' t' id hr' ht' hdone => ?_, fun w s' t' hstep => ?_⟩
    · have hanswer := ((ticketOutline_sound settings).holds hholds hr').thread t'
        (List.mem_of_getElem? ht') _ hdone
      exact hother ((grown_of_reaches hr').describes_of_taken hs htaken hanswer.1)
    · rcases ticketView_of_step hstep with ⟨call', state₁, state', hview₁, -, hop⟩ | ⟨hnone, -⟩
      · obtain ⟨rfl, -⟩ := Prod.mk.inj (Option.mem_unique hview hview₁)
        exact TicketCall.unchanged_of_taken htaken hop
      · rw [hview] at hnone
        cases hnone
  · intro t call state _ hview hunfinished w
    obtain ⟨⟨s', t'⟩, hstep⟩ := exists_step w c.shared hview hunfinished
    rcases ticketView_of_step hstep with ⟨call', state₁, state', hview₁, hview', hop⟩ | ⟨hnone, -⟩
    · obtain ⟨rfl, rfl⟩ := Prod.mk.inj (Option.mem_unique hview hview₁)
      exact ⟨s', t', state', hstep, hview', TicketCall.stepsLeft_lt hop⟩
    · rw [hview] at hnone
      cases hnone

end

/-! ### A reply that is repeated and finds its ticket closed -/

def ticketSettings : Auth.StaffSettings := ⟨86400000, 3600000⟩

def openingCall : CreateCall where
  submissionKey := ⟨1, true⟩
  subject := "Help"
  body := "The site is down."
  userId := 3
  customerId := 5

def replyingCall : ReplyCall where
  ticketId := ⟨1, true⟩
  submissionKey := ⟨2, true⟩
  body := "It is still down."
  actor := .customer 3 5

def closingCall : UpdateCall where
  ticketId := ⟨1, true⟩
  status := some .closed
  actor := .admin 0

/-- The customer's reply is sent twice; both look their key up, and one of them is recorded. -/
def repliedOnce : Config (ticketOps ticketSettings) :=
  Config.after ⟨{}, []⟩ [.call .create openingCall, .advance 0 {},
    .advance 0 { now := 1, messageId := 9, ticketNumber := "TKT-1" }, .advance 0 {},
    .call .reply replyingCall, .call .reply replyingCall, .advance 1 {}, .advance 2 {},
    .advance 1 { now := 2 }, .advance 1 {}] (by decide +kernel)

/-- The ticket is closed before the repeated reply reaches its transaction. -/
def overtakenByClose : Config (ticketOps ticketSettings) :=
  Config.after repliedOnce [.call .update closingCall, .advance 3 { now := 3 },
    .advance 2 { now := 4 }] (by decide +kernel)

/-- The same reply has succeeded, and the repeated one is refused. -/
theorem repeated_reply_refused :
    Reaches anyStep ⟨{}, []⟩ repliedOnce ∧ Reaches anyStep repliedOnce overtakenByClose ∧
      repliedOnce.threads[1]?.bind ticketView = some (.reply replyingCall, .done (.ok 1)) ∧
      repliedOnce.threads[2]?.bind ticketView = some (.reply replyingCall, .transacting) ∧
      overtakenByClose.threads[2]?.bind ticketView = some (.reply replyingCall,
        .done (.error (invalid
          "A closed ticket must be reopened by an administrator before replying."))) :=
  ⟨reaches_anyStep_of_run (run_eq_after (by decide +kernel)),
    reaches_anyStep_of_run (run_eq_after (by decide +kernel)), by decide +kernel,
    by decide +kernel, by decide +kernel⟩

theorem conversations_empty : Conversations {} where
  tickets := keyed_empty
  messages := keyed_empty
  events := keyed_empty
  announced _ _ h := absurd h get?_empty_ne
  belongs _ _ h := absurd h get?_empty_ne
  begun _ _ h := nomatch h
  closed _ _ h := absurd h get?_empty_ne
  served _ _ h := nomatch h

/-- Once the first reply has ended, the repeated one can only end with its ticket. -/
theorem repeated_reply_answered : ConversationsKept repliedOnce :=
  conversations_kept conversations_empty
    (reaches_of_run (run_eq_after (by decide +kernel)) (by decide +kernel))

end Tickets

end WebhostBilling
