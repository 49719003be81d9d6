import WebhostBilling.Tickets.TicketWrites

/-!
# Conversations

Every ticket, message and event is there once for its key, a message belongs to a ticket, and a
ticket is closed when its status says so: each write keeps this.  No write changes what a ticket was
opened with, or adds a message to a ticket that is closed.
-/

namespace WebhostBilling

open Store Store.Table Concurrency

namespace Tickets

/-! ## The tables -/

def Ticket.opened (ticket : Ticket) : RowId × RowId × String × Option RowId :=
  (ticket.id, ticket.customerId, ticket.subject, ticket.serviceId)

structure Conversations (s : TicketStore) : Prop where
  tickets : s.tickets.Keyed Ticket.id
  messages : s.messages.Keyed TicketMessage.id
  events : s.replyEvents.Keyed ReplyEvent.messageId
  announced : ∀ i event, s.replyEvents.get? i = some event →
    ∃ message, s.findMessage event.messageId = some message ∧ message.ticketId = event.ticketId
  belongs : ∀ i message, s.messages.get? i = some message →
    ∃ ticket, s.findTicket message.ticketId = some ticket
  begun : ∀ id ticket, s.findTicket id = some ticket →
    ∃ initial, s.initialMessage id = some initial
  closed : ∀ i ticket, s.tickets.get? i = some ticket →
    (ticket.closedAt.isSome ↔ ticket.status = .closed)
  served : ∀ id ticket, s.findTicket id = some ticket →
    ∀ serviceId ∈ ticket.serviceId, s.serviceOwners.get? serviceId = some ticket.customerId

structure Grown (s s' : TicketStore) : Prop where
  tickets : ∀ id ticket, s.findTicket id = some ticket →
    ∃ ticket', s'.findTicket id = some ticket' ∧ ticket'.opened = ticket.opened
  messages : ∀ id message, s.findMessage id = some message → s'.findMessage id = some message
  initial : ∀ id message, s.initialMessage id = some message → s'.initialMessage id = some message
  serviceOwners : s'.serviceOwners = s.serviceOwners

section

variable {w : TicketWorld} {s s' : TicketStore}

theorem Grown.refl (s : TicketStore) : Grown s s where
  tickets _ ticket h := ⟨ticket, h, rfl⟩
  messages _ _ h := h
  initial _ _ h := h
  serviceOwners := rfl

theorem Grown.trans {s₁ s₂ s₃ : TicketStore} (h : Grown s₁ s₂) (h' : Grown s₂ s₃) :
    Grown s₁ s₃ where
  tickets id ticket hticket := by
    obtain ⟨ticket₂, hticket₂, hopened₂⟩ := h.tickets id ticket hticket
    obtain ⟨ticket₃, hticket₃, hopened₃⟩ := h'.tickets id ticket₂ hticket₂
    exact ⟨ticket₃, hticket₃, hopened₃.trans hopened₂⟩
  messages id message hmessage := h'.messages id message (h.messages id message hmessage)
  initial id message hmessage := h'.initial id message (h.initial id message hmessage)
  serviceOwners := h'.serviceOwners.trans h.serviceOwners

variable {id : RowId} {ticket : Ticket} {f : Ticket → Ticket}

theorem findTicket_updateWhere (hf : ∀ row, (f row).id = row.id)
    (hs : s'.tickets = s.tickets.updateWhere (fun _ row => row.id = id) f) (key : RowId) :
    s'.findTicket key = (s.findTicket key).map fun row => if row.id = id then f row else row := by
  rw [TicketStore.findTicket, hs, lookup_updateWhere hf]
  refine congrArg (Option.map · _) (funext fun row => ?_)
  by_cases hid : row.id = id <;> simp [hid]

theorem exists_findTicket_updateWhere {key : RowId} (hf : ∀ row, (f row).opened = row.opened)
    (hs : s'.tickets = s.tickets.updateWhere (fun _ row => row.id = id) f)
    (h : s.findTicket key = some ticket) :
    ∃ ticket', s'.findTicket key = some ticket' ∧ ticket'.opened = ticket.opened := by
  refine ⟨if ticket.id = id then f ticket else ticket, ?_, ?_⟩
  · rw [findTicket_updateWhere (fun row => (Prod.mk.inj (hf row)).1) hs, h, Option.map_some]
  split
  · exact hf ticket
  · rfl

theorem TicketWrite.grown (h : TicketWrite w s s') : Grown s s' := by
  cases h with
  | staff => exact ⟨fun _ ticket h => ⟨ticket, h, rfl⟩, fun _ _ h => h, fun _ _ h => h, rfl⟩
  | opens call =>
    exact ⟨fun _ ticket h => ⟨ticket, lookup_insert_of_some h, rfl⟩,
      fun _ _ h => lookup_insert_of_some h, fun _ _ h => lookup_insert_of_some h, rfl⟩
  | replies call =>
    exact ⟨fun _ _ h => exists_findTicket_updateWhere (f := answered w call) (fun _ => rfl) rfl h,
      fun _ _ h => lookup_insert_of_some h, fun _ _ h => lookup_insert_of_some h, rfl⟩
  | updates call =>
    exact ⟨fun _ _ h => exists_findTicket_updateWhere (f := updated w call) (fun _ => rfl) rfl h,
      fun _ _ h => h, fun _ _ h => h, rfl⟩

/-! ## Each write keeps the tables -/

theorem Conversations.staff (h : Conversations s) (staff : Auth.StaffStore) :
    Conversations { s with staff } :=
  ⟨h.tickets, h.messages, h.events, h.announced, h.belongs, h.begun, h.closed, h.served⟩

theorem Conversations.open (h : Conversations s) {call : CreateCall}
    (hservice : ∀ sent ∈ call.serviceId, s.serviceOwners.get? sent.value = some call.customerId)
    (hkey : s.findTicket call.submissionKey.value = none)
    (hmessage : s.findMessage w.messageId = none) : Conversations (s.open w call) := by
  have hgrown := (TicketWrite.opens (w := w) call hservice hkey hmessage).grown
  have hnone : s.initialMessage call.submissionKey.value = none := by
    refine lookup_eq_none.2 fun i message hrow hid => ?_
    obtain ⟨ticket, hticket⟩ := h.belongs i message hrow
    rw [hid, hkey] at hticket
    cases hticket
  have hticket : (s.open w call).findTicket call.submissionKey.value = some (newTicket w call) := by
    show (s.tickets.insert (newTicket w call)).lookup Ticket.id _ = _
    rw [lookup_insert_of_none hkey]
    exact if_pos rfl
  refine ⟨h.tickets.insert hkey, h.messages.insert hmessage, h.events, ?_, ?_, ?_, ?_, ?_⟩
  · intro i event hevent
    obtain ⟨message, hfound, hid⟩ := h.announced i event hevent
    exact ⟨message, hgrown.messages _ _ hfound, hid⟩
  · intro i message hrow
    rcases get?_insert_cases hrow with ⟨-, rfl⟩ | hold
    · exact ⟨_, hticket⟩
    · obtain ⟨ticket, hfound⟩ := h.belongs i message hold
      obtain ⟨ticket', hfound', -⟩ := hgrown.tickets _ _ hfound
      exact ⟨ticket', hfound'⟩
  · intro id ticket hfound
    rcases lookup_insert_cases hfound with hold | ⟨-, rfl, -⟩
    · obtain ⟨initial, hinitial⟩ := h.begun id ticket hold
      exact ⟨initial, hgrown.initial _ _ hinitial⟩
    · refine ⟨openingMessage w call, ?_⟩
      show (s.messages.insert (openingMessage w call)).lookup TicketMessage.ticketId
        call.submissionKey.value = _
      rw [lookup_insert_of_none hnone]
      exact if_pos rfl
  · intro i ticket hrow
    rcases get?_insert_cases hrow with ⟨-, rfl⟩ | hold
    · exact ⟨fun hnone => (nomatch hnone), fun hclosed => (nomatch hclosed)⟩
    · exact h.closed i ticket hold
  · intro id ticket hfound serviceId hid
    rcases lookup_insert_cases hfound with hold | ⟨-, -, rfl⟩
    · exact h.served id ticket hold serviceId hid
    · obtain ⟨sent, hsent, rfl⟩ := Option.map_eq_some_iff.1 hid
      exact hservice sent hsent

theorem Conversations.rewrite (h : Conversations s) (hf : ∀ row, (f row).opened = row.opened)
    (hclosed : ∀ row, (row.closedAt.isSome ↔ row.status = .closed) →
      ((f row).closedAt.isSome ↔ (f row).status = .closed)) :
    Conversations { s with tickets := s.tickets.updateWhere (fun _ row => row.id = id) f } := by
  have hid : ∀ row, (f row).id = row.id := fun row => (Prod.mk.inj (hf row)).1
  have hfind := @findTicket_updateWhere s
    { s with tickets := s.tickets.updateWhere (fun _ row => row.id = id) f } id f hid rfl
  refine ⟨h.tickets.updateWhere hid, h.messages, h.events, h.announced, ?_, ?_, ?_, ?_⟩
  · intro i message hrow
    obtain ⟨ticket, hfound⟩ := h.belongs i message hrow
    exact ⟨_, (hfind _).trans (by rw [hfound, Option.map_some])⟩
  · intro key ticket hfound
    rw [hfind] at hfound
    obtain ⟨old, hold, -⟩ := Option.map_eq_some_iff.1 hfound
    exact h.begun key old hold
  · intro i ticket hrow
    obtain ⟨old, hold, rfl⟩ := get?_updateWhere_cases hrow
    split
    · exact hclosed old (h.closed i old hold)
    · exact h.closed i old hold
  · intro key ticket hfound serviceId hservice
    rw [hfind] at hfound
    obtain ⟨old, hold, rfl⟩ := Option.map_eq_some_iff.1 hfound
    have hopened : (if old.id = id then f old else old).opened = old.opened := by
      split
      · exact hf old
      · rfl
    obtain ⟨-, hopened⟩ := Prod.mk.inj hopened
    obtain ⟨hcustomer, hopened⟩ := Prod.mk.inj hopened
    obtain ⟨-, hserviceId⟩ := Prod.mk.inj hopened
    rw [hcustomer]
    rw [hserviceId] at hservice
    exact h.served key old hold serviceId hservice

theorem Conversations.reply (h : Conversations s) {call : ReplyCall}
    (hticket : s.findTicket call.ticketId.value = some ticket)
    (hkey : s.findMessage call.submissionKey.value = none) : Conversations (s.reply w call) := by
  have hnew : s.replyEvents.lookup ReplyEvent.messageId call.submissionKey.value = none := by
    refine lookup_eq_none.2 fun i event hrow hid => ?_
    obtain ⟨message, hmessage, -⟩ := h.announced i event hrow
    rw [hid, hkey] at hmessage
    cases hmessage
  have hmessage : (s.messages.insert (newReply w call)).lookup TicketMessage.id
      call.submissionKey.value = some (newReply w call) := by
    rw [lookup_insert_of_none hkey]
    exact if_pos rfl
  -- The message and the event first, then what the reply makes of the ticket.
  have hadded : Conversations { s with
      messages := s.messages.insert (newReply w call)
      replyEvents := s.replyEvents.insert
        ⟨call.submissionKey, call.ticketId.value, call.submissionKey.value⟩ } := by
    refine ⟨h.tickets, h.messages.insert hkey, h.events.insert hnew, ?_, ?_, ?_, h.closed,
      h.served⟩
    · intro i event hrow
      rcases get?_insert_cases hrow with ⟨-, rfl⟩ | hold
      · exact ⟨_, hmessage, rfl⟩
      · obtain ⟨message, hfound, hid⟩ := h.announced i event hold
        exact ⟨message, lookup_insert_of_some hfound, hid⟩
    · intro i message hrow
      rcases get?_insert_cases hrow with ⟨-, rfl⟩ | hold
      · exact ⟨ticket, hticket⟩
      · exact h.belongs i message hold
    · intro id ticket hfound
      obtain ⟨initial, hinitial⟩ := h.begun id ticket hfound
      exact ⟨initial, lookup_insert_of_some hinitial⟩
  refine hadded.rewrite (f := answered w call) (fun _ => rfl) fun row _ => ?_
  have hstatus : (answered w call row).status ≠ .closed := by
    show call.actor.replies.2 ≠ .closed
    cases call.actor <;> exact fun hclosed => (nomatch hclosed)
  exact ⟨fun hnone => (nomatch hnone), fun hclosed => absurd hclosed hstatus⟩

theorem updated_closed {call : UpdateCall} {row : Ticket}
    (h : row.closedAt.isSome ↔ row.status = .closed) :
    (updated w call row).closedAt.isSome ↔ (updated w call row).status = .closed := by
  show (call.status.elim row.closedAt _).isSome ↔ call.status.getD row.status = .closed
  cases call.status with
  | none => exact h
  | some status =>
    show (if status = .closed then some w.now else none).isSome ↔ status = .closed
    by_cases hclosed : status = .closed <;> simp [hclosed]

/-- **A step keeps what is certain of the tables.** -/
theorem Conversations.write (h : Conversations s) (hwrite : TicketWrite w s s') :
    Conversations s' := by
  cases hwrite with
  | staff staff => exact h.staff staff
  | opens call hservice hkey hmessage => exact h.open hservice hkey hmessage
  | replies call hticket howns hstatus hkey => exact h.reply hticket hkey
  | updates call => exact h.rewrite (f := updated w call) (fun _ => rfl) fun _ => updated_closed

theorem TicketWrite.not_closed (hwrite : TicketWrite w s s') {i : ℕ} {message : TicketMessage}
    (hnew : s.messages.get? i = none) (hrow : s'.messages.get? i = some message)
    (hticket : s.findTicket message.ticketId = some ticket) : ticket.status ≠ .closed := by
  have hinserted : ∀ row, (s.messages.insert row).get? i = some message → message = row := by
    intro row hget
    rcases get?_insert_cases hget with ⟨-, heq⟩ | hold
    · exact heq
    · rw [hnew] at hold
      cases hold
  cases hwrite with
  | staff =>
    rw [hnew] at hrow
    cases hrow
  | opens call _ hkey =>
    obtain rfl := hinserted _ hrow
    have hnone : s.findTicket (openingMessage w call).ticketId = none := hkey
    rw [hnone] at hticket
    cases hticket
  | replies call hfound _ hstatus =>
    obtain rfl := hinserted _ hrow
    obtain rfl := Option.mem_unique hfound hticket
    exact hstatus
  | updates =>
    have hold : s.messages.get? i = some message := hrow
    rw [hnew] at hold
    cases hold

end

end Tickets

end WebhostBilling
