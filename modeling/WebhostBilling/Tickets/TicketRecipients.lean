import WebhostBilling.Json.Value
import WebhostBilling.Tickets.RepeatedCalls

/-!
# Who a customer's reply is mailed to

The resolver asks only whether the administrator a ticket is assigned to is active; otherwise it
takes the oldest active one.  Neither looks at the role, so a billing operator may be mailed the
customer's text.

When a user was created is not kept in its row here; it is never written again, and is a parameter.
-/

namespace WebhostBilling

open Store Store.Table Concurrency Config

namespace Tickets

/-! ## Permissions -/

inductive StaffPermission
  | staffManage
  | accountSelf
  | customersRead
  | invoicesRead
  | invoicesManage
  | paymentsRead
  | paymentsManage
  | ticketsManage
  | businessPresentation
deriving DecidableEq

def staffPermissions : List StaffPermission :=
  [.staffManage, .accountSelf, .customersRead, .invoicesRead, .invoicesManage, .paymentsRead,
    .paymentsManage, .ticketsManage, .businessPresentation]

def grants : StaffRole → List StaffPermission
  | .fullAdministrator => staffPermissions
  | .billingOperator => [.accountSelf, .customersRead, .invoicesRead, .invoicesManage,
    .paymentsRead, .paymentsManage, .businessPresentation]
  | .supportOperator => [.accountSelf, .ticketsManage]

def hasStaffPermission (role : Option StaffRole) (permission : StaffPermission) : Bool :=
  role.any fun role => permission ∈ grants role

theorem hasStaffPermission_tickets {role : Option StaffRole} :
    hasStaffPermission role .ticketsManage = true ↔
      role.isSome ∧ role ≠ some .billingOperator := by
  cases role with
  | none => decide
  | some role => cases role <;> decide

/-! ## The resolver -/

/-- Whom an e-mail is sent to: an administrator, or the user of a customer. -/
inductive EmailRecipient
  | staff (userId : RowId)
  | customer (customerId : RowId)
deriving DecidableEq

/-- The e-mail `ticket-reply`. -/
structure TicketEmail where
  recipient : EmailRecipient
  ticketNumber : String
  subject : String
  replyExcerpt : Json.Text
  ticketUrl : String
  customerId : RowId
  ticketId : RowId
deriving DecidableEq

/-- `body.slice(0, 500)`. -/
def TicketMessage.replyExcerpt (message : TicketMessage) : Json.Text :=
  (Json.text message.body).take 500

def TicketStore.assignedAdmin (s : TicketStore) (ticket : Ticket) : Option (RowId × Auth.User) := do
  let id ← ticket.assignedAdminId
  let user ← s.staff.auth.users.get? id
  guard (user.status = .active ∧ user.deleted = false)
  return (id, user)

def TicketStore.activeAdmins (s : TicketStore) : List (RowId × Auth.User) :=
  s.staff.auth.users.select fun _ user =>
    user.role = .admin ∧ user.status = .active ∧ user.deleted = false ∧ user.staffRole.isSome

def TicketStore.oldestAdmin (createdAt : RowId → ℕ) (s : TicketStore) :
    Option (RowId × Auth.User) :=
  s.activeAdmins.argmin fun entry => toLex (createdAt entry.1, entry.1)

def TicketStore.pickedAdmin (createdAt : RowId → ℕ) (s : TicketStore) (ticket : Ticket) :
    Option (RowId × Auth.User) :=
  (s.assignedAdmin ticket).or (s.oldestAdmin createdAt)

/-- `resolveTicket`. -/
def resolveTicket (createdAt : RowId → ℕ) (s : TicketStore) (event : ReplyEvent) :
    Except Failure TicketEmail := do
  let unavailable : Failure := .job .permanent "EMAIL_TICKET_REPLY_UNAVAILABLE"
  let ticket ← orThrow unavailable (s.findTicket event.ticketId)
  let message ← orThrow unavailable
    ((s.findMessage event.messageId).filter fun message => message.ticketId = event.ticketId)
  if message.kind = .customer then do
    let (id, _) ← orThrow (.job .permanent "EMAIL_TICKET_ADMIN_UNAVAILABLE")
      (s.pickedAdmin createdAt ticket)
    return ⟨.staff id, ticket.ticketNumber, ticket.subject, message.replyExcerpt,
      "/admin/support", ticket.customerId, ticket.id⟩
  else
    return ⟨.customer ticket.customerId, ticket.ticketNumber, ticket.subject,
      message.replyExcerpt, "/portal/support", ticket.customerId, ticket.id⟩

/-! ## Who may be mailed -/

def HandlesTickets (user : Auth.User) : Prop :=
  user.role = .admin ∧ user.status = .active ∧ user.deleted = false ∧
    hasStaffPermission user.staffRole .ticketsManage = true
deriving Decidable

/-- A reply goes to a member of the staff who handles tickets, if there is one. -/
def MailedToStaff (createdAt : RowId → ℕ) (s : TicketStore) (event : ReplyEvent) : Prop :=
  (∃ id user, s.staff.auth.users.get? id = some user ∧ HandlesTickets user) →
    ∃ email id user, resolveTicket createdAt s event = .ok email ∧ email.recipient = .staff id ∧
      s.staff.auth.users.get? id = some user ∧ HandlesTickets user

/-- The administrator a ticket is assigned to is no billing operator, as long as it is active; and
without such an administrator, the oldest active one is none. -/
def SparesBilling (createdAt : RowId → ℕ) (s : TicketStore) (ticket : Ticket) : Prop :=
  match s.assignedAdmin ticket with
  | some (_, user) => user.staffRole ≠ some .billingOperator
  | none => ∀ entry ∈ s.oldestAdmin createdAt, entry.2.staffRole ≠ some .billingOperator

instance (createdAt : RowId → ℕ) (s : TicketStore) (ticket : Ticket) :
    Decidable (SparesBilling createdAt s ticket) := by
  unfold SparesBilling
  split <;> infer_instance

/-- Tickets are assigned to members of the staff. -/
def AssignedToAdmins (s : TicketStore) : Prop :=
  ∀ i ticket, s.tickets.get? i = some ticket → ∀ id ∈ ticket.assignedAdminId,
    ∃ user, s.staff.auth.users.get? id = some user ∧ user.role = .admin ∧ user.staffRole.isSome

section

variable {w : TicketWorld} {s s' : TicketStore} {createdAt : RowId → ℕ} {ticket : Ticket}
  {id : RowId} {user : Auth.User}

theorem assignable_office (h : assignable user = true) :
    user.role = .admin ∧ user.staffRole.isSome := by
  rw [assignable, decide_eq_true_eq] at h
  obtain ⟨hrole, -, -, hstaffRole⟩ := h
  refine ⟨hrole, ?_⟩
  rcases hstaffRole with hstaffRole | hstaffRole <;> rw [hstaffRole] <;> rfl

theorem AssignedToAdmins.write (h : AssignedToAdmins s) (hwrite : TicketWrite w s s') :
    AssignedToAdmins s' := by
  cases hwrite with
  | staff staff hoffices =>
    intro i ticket hticket id hid
    obtain ⟨user, huser, hrole, hprofile⟩ := h i ticket hticket id hid
    obtain ⟨user', huser', hrole', hprofile'⟩ := hoffices id user huser
    exact ⟨user', huser', hrole'.trans hrole, hprofile' hprofile⟩
  | opens call =>
    intro i ticket hticket id hid
    rcases get?_insert_cases hticket with ⟨-, rfl⟩ | hold
    · cases hid
    · exact h i ticket hold id hid
  | replies call =>
    intro i ticket hticket id hid
    obtain ⟨old, hold, rfl⟩ := get?_updateWhere_cases hticket
    refine h i old hold id ?_
    split at hid <;> exact hid
  | updates call hassigned =>
    intro i ticket hticket id hid
    obtain ⟨old, hold, rfl⟩ := get?_updateWhere_cases hticket
    split at hid
    · have hgiven : id ∈ call.assignedAdminId.getD old.assignedAdminId := hid
      cases hadmin : call.assignedAdminId with
      | none =>
        rw [hadmin] at hgiven
        exact h i old hold id hgiven
      | some admin =>
        rw [hadmin] at hgiven
        obtain ⟨user, huser, hassignable⟩ := hassigned admin hadmin id hgiven
        exact ⟨user, huser, assignable_office hassignable⟩
    · exact h i old hold id hid

theorem assignedAdmin_eq_some (h : s.assignedAdmin ticket = some (id, user)) :
    id ∈ ticket.assignedAdminId ∧ s.staff.auth.users.get? id = some user ∧
      user.status = .active ∧ user.deleted = false := by
  simp only [TicketStore.assignedAdmin, eq_some] at h
  obtain ⟨id', hid, user', huser, hactive, heq⟩ := h
  obtain ⟨rfl, rfl⟩ := Prod.mk.inj heq
  exact ⟨hid, huser, hactive⟩

theorem mem_activeAdmins : (id, user) ∈ s.activeAdmins ↔
    s.staff.auth.users.get? id = some user ∧ user.role = .admin ∧ user.status = .active ∧
      user.deleted = false ∧ user.staffRole.isSome := by
  rw [TicketStore.activeAdmins, mem_select, decide_eq_true_eq]

theorem handlesTickets_iff : HandlesTickets user ↔ (user.role = .admin ∧ user.status = .active ∧
    user.deleted = false ∧ user.staffRole.isSome) ∧ user.staffRole ≠ some .billingOperator := by
  rw [HandlesTickets, hasStaffPermission_tickets]
  tauto

theorem pickedAdmin_active (hassigned : AssignedToAdmins s) {i : ℕ}
    (hticket : s.tickets.get? i = some ticket)
    (hpicked : s.pickedAdmin createdAt ticket = some (id, user)) : (id, user) ∈ s.activeAdmins := by
  rw [TicketStore.pickedAdmin, Option.or_eq_some_iff] at hpicked
  rcases hpicked with h | ⟨-, h⟩
  · obtain ⟨hid, huser, hstatus, hdeleted⟩ := assignedAdmin_eq_some h
    obtain ⟨user', huser', hrole, hprofile⟩ := hassigned i ticket hticket id hid
    obtain rfl := Option.mem_unique huser huser'
    exact mem_activeAdmins.2 ⟨huser, hrole, hstatus, hdeleted, hprofile⟩
  · exact List.argmin_mem h

theorem exists_pickedAdmin (h : (id, user) ∈ s.activeAdmins) :
    ∃ entry, s.pickedAdmin createdAt ticket = some entry := by
  rw [TicketStore.pickedAdmin]
  cases hassigned : s.assignedAdmin ticket with
  | some entry => exact ⟨entry, Option.some_or⟩
  | none =>
    rw [Option.none_or]
    cases holdest : s.oldestAdmin createdAt with
    | some entry => exact ⟨entry, rfl⟩
    | none =>
      rw [TicketStore.oldestAdmin, List.argmin_eq_none] at holdest
      rw [holdest] at h
      exact absurd h List.not_mem_nil

theorem sparesBilling_iff : SparesBilling createdAt s ticket ↔
    ∀ entry ∈ s.pickedAdmin createdAt ticket, entry.2.staffRole ≠ some .billingOperator := by
  rw [SparesBilling, TicketStore.pickedAdmin]
  cases s.assignedAdmin ticket with
  | some entry | none => simp

variable {event : ReplyEvent} {message : TicketMessage}

theorem resolveTicket_eq_ok {email : TicketEmail}
    (hticket : s.findTicket event.ticketId = some ticket)
    (hmessage : s.findMessage event.messageId = some message)
    (hbelongs : message.ticketId = event.ticketId) (hkind : message.kind = .customer) :
    resolveTicket createdAt s event = .ok email ↔
      ∃ entry, s.pickedAdmin createdAt ticket = some entry ∧
        email = ⟨.staff entry.1, ticket.ticketNumber, ticket.subject, message.replyExcerpt,
          "/admin/support", ticket.customerId, ticket.id⟩ := by
  have hfound : (s.findMessage event.messageId).filter
      (fun message => message.ticketId = event.ticketId) = some message := by
    rw [hmessage, Option.filter_some, if_pos (decide_eq_true hbelongs)]
  simp only [resolveTicket, eq_ok, hticket, hfound, Option.some.injEq, exists_eq_left', hkind,
    if_true, Prod.exists]
  simp only [eq_comm]

theorem mailedToStaff_iff (hassigned : AssignedToAdmins s)
    (hticket : s.findTicket event.ticketId = some ticket)
    (hmessage : s.findMessage event.messageId = some message)
    (hbelongs : message.ticketId = event.ticketId) (hkind : message.kind = .customer) :
    MailedToStaff createdAt s event ↔
      ((∃ id user, s.staff.auth.users.get? id = some user ∧ HandlesTickets user) →
        SparesBilling createdAt s ticket) := by
  obtain ⟨-, i, hrow⟩ := lookup_eq_some hticket
  rw [MailedToStaff, sparesBilling_iff]
  refine imp_congr_right fun hexists => ?_
  constructor
  · rintro ⟨email, id, user, hemail, hrecipient, huser, hhandles⟩ ⟨pickedId, pickedUser⟩ hpicked
    obtain ⟨entry, hentry, rfl⟩ :=
      (resolveTicket_eq_ok hticket hmessage hbelongs hkind).1 hemail
    obtain rfl := Option.mem_unique hentry hpicked
    obtain rfl : pickedId = id := by
      injection hrecipient
    have hactive := mem_activeAdmins.1 (pickedAdmin_active hassigned hrow hpicked)
    obtain rfl := Option.some.inj (hactive.1.symm.trans huser)
    exact (handlesTickets_iff.1 hhandles).2
  · intro hspares
    obtain ⟨id, user, huser, hhandles⟩ := hexists
    have hcandidate := mem_activeAdmins.2 ⟨huser, (handlesTickets_iff.1 hhandles).1⟩
    obtain ⟨⟨pickedId, pickedUser⟩, hpicked⟩ :
        ∃ entry, s.pickedAdmin createdAt ticket = some entry := exists_pickedAdmin hcandidate
    have hactive := mem_activeAdmins.1 (pickedAdmin_active hassigned hrow hpicked)
    exact ⟨_, pickedId, pickedUser,
      (resolveTicket_eq_ok hticket hmessage hbelongs hkind).2 ⟨_, hpicked, rfl⟩, rfl, hactive.1,
      handlesTickets_iff.2 ⟨hactive.2, hspares _ hpicked⟩⟩

variable {settings : Auth.StaffSettings} {c : Config (ticketOps settings)}

theorem tables_of_reaches (h : Conversations s) (hassigned : AssignedToAdmins s)
    (hr : Reaches anyStep ⟨s, []⟩ c) : Conversations c.shared ∧ AssignedToAdmins c.shared := by
  induction hr with
  | refl => exact ⟨h, hassigned⟩
  | tail _ hstep ih =>
    cases hstep with
    | call op request => exact ih
    | advance _ _ hstep =>
      have hwrite := ticketWrite_of_step hstep
      exact ⟨ih.1.write hwrite, ih.2.write hwrite⟩

/-- **Where customers' replies are mailed to**, after every history of replies, assignments and
changes of the staff: to an active administrator whose role grants the tickets, exactly when a billing
operator is neither the active administrator the ticket is assigned to nor, without one, the oldest. -/
theorem customer_replies_mailed (createdAt : RowId → ℕ) (h : Conversations s)
    (hassigned : AssignedToAdmins s) (hr : Reaches anyStep ⟨s, []⟩ c) :
    ∀ i event message, c.shared.replyEvents.get? i = some event →
      c.shared.findMessage event.messageId = some message → message.kind = .customer →
      ∃ ticket, c.shared.findTicket event.ticketId = some ticket ∧
        (MailedToStaff createdAt c.shared event ↔
          ((∃ id user, c.shared.staff.auth.users.get? id = some user ∧ HandlesTickets user) →
            SparesBilling createdAt c.shared ticket)) := by
  intro i event message hevent hmessage hkind
  obtain ⟨hs, hadmins⟩ := tables_of_reaches h hassigned hr
  obtain ⟨message', hmessage', hbelongs⟩ := hs.announced i event hevent
  obtain rfl := Option.mem_unique hmessage hmessage'
  obtain ⟨-, j, hrow⟩ := lookup_eq_some hmessage
  obtain ⟨ticket, hticket⟩ := hs.belongs j message hrow
  rw [hbelongs] at hticket
  exact ⟨ticket, hticket, mailedToStaff_iff hadmins hticket hmessage hbelongs hkind⟩

end

/-! ### A ticket whose administrator becomes a billing operator -/

def ticketStaff : TicketStore where
  staff := {
    auth := {
      users := ⟨[Auth.sampleAdministrator "first@host.example" 0,
        { Auth.sampleAdministrator "second@host.example" 1 with
          staffRole := some .supportOperator }]⟩
      adminTotpCredentials := ⟨[{ userId := 0, secret := "A", enabledAt := some 1 }]⟩ } }

def assigningCall : UpdateCall where
  ticketId := ⟨1, true⟩
  assignedAdminId := some (some 1)
  actor := .admin 0

def assignedTicket : Config (ticketOps ticketSettings) :=
  Config.after ⟨ticketStaff, []⟩ [.call .create openingCall, .advance 0 {},
    .advance 0 { now := 1, messageId := 9, ticketNumber := "TKT-1" }, .advance 0 {},
    .call .update assigningCall, .advance 1 { now := 2 }] (by decide +kernel)

/-- The support operator becomes a billing operator, and the customer replies. -/
def demotedAssignee : Config (ticketOps ticketSettings) :=
  Config.after assignedTicket [.call (.staff .update) (Auth.demotion 0 1), .advance 2 { now := 3 },
    .advance 2 { now := 3 }, .advance 2 { now := 3 }, .advance 2 { now := 3 },
    .advance 2 { now := 3 }, .call .reply replyingCall, .advance 3 { now := 4 },
    .advance 3 { now := 4 }] (by decide +kernel)

def replyingEvent : ReplyEvent := ⟨⟨2, true⟩, 1, 2⟩

def mailedReply (userId : RowId) : TicketEmail :=
  ⟨.staff userId, "TKT-1", "Help", Json.text "It is still down.", "/admin/support", 5, 1⟩

/-- The reply is mailed to the billing operator. -/
theorem reply_mailed_to_billing :
    Reaches anyStep ⟨ticketStaff, []⟩ demotedAssignee ∧
      demotedAssignee.shared.replyEvents.get? 0 = some replyingEvent ∧
      resolveTicket id demotedAssignee.shared replyingEvent = .ok (mailedReply 1) ∧
      ¬ MailedToStaff id demotedAssignee.shared replyingEvent := by
  have hassigned : Reaches anyStep ⟨ticketStaff, []⟩ assignedTicket :=
    reaches_anyStep_of_run (run_eq_after (by decide +kernel))
  have hresolved : resolveTicket id demotedAssignee.shared replyingEvent = .ok (mailedReply 1) := by
    decide +kernel
  refine ⟨hassigned.trans (reaches_anyStep_of_run (run_eq_after (by decide +kernel))),
    by decide +kernel, hresolved, fun hmailed => ?_⟩
  have hfull : ∃ user ∈ demotedAssignee.shared.staff.auth.users.get? 0, HandlesTickets user := by
    decide +kernel
  have hbilling : ∀ user ∈ demotedAssignee.shared.staff.auth.users.get? 1,
      ¬ HandlesTickets user := by
    decide +kernel
  obtain ⟨full, hfull⟩ := hfull
  obtain ⟨email, userId, user, hemail, hrecipient, huser, hhandles⟩ := hmailed ⟨0, full, hfull⟩
  obtain rfl := Except.ok.inj (hresolved.symm.trans hemail)
  obtain rfl := EmailRecipient.staff.inj hrecipient
  exact hbilling user huser hhandles

/-- Without the change, it is mailed to the support operator. -/
def repliedToAssignee : Config (ticketOps ticketSettings) :=
  Config.after assignedTicket [.call .reply replyingCall, .advance 2 { now := 4 },
    .advance 2 { now := 4 }] (by decide +kernel)

theorem reply_mailed_to_support :
    resolveTicket id repliedToAssignee.shared replyingEvent = .ok (mailedReply 1) ∧
      MailedToStaff id repliedToAssignee.shared replyingEvent := by
  have hassigned : Reaches anyStep ⟨ticketStaff, []⟩ assignedTicket :=
    reaches_anyStep_of_run (run_eq_after (by decide +kernel))
  have hspares : ∀ ticket ∈ repliedToAssignee.shared.findTicket 1,
      SparesBilling id repliedToAssignee.shared ticket := by decide +kernel
  have hmessage : ∃ message ∈ repliedToAssignee.shared.findMessage 2,
      message.kind = .customer := by decide +kernel
  obtain ⟨message, hmessage, hkind⟩ := hmessage
  obtain ⟨ticket, hticket, hmailed⟩ := customer_replies_mailed id
    (conversations_empty.staff ticketStaff.staff) (fun _ _ h => absurd h get?_empty_ne)
    (hassigned.trans (reaches_anyStep_of_run (run_eq_after (by decide +kernel))))
    0 replyingEvent message (by decide +kernel) hmessage hkind
  exact ⟨by decide +kernel, hmailed.2 fun _ => hspares ticket hticket⟩

end Tickets

end WebhostBilling
