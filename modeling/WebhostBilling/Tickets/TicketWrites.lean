import WebhostBilling.Staff.FullAdministrators
import WebhostBilling.Tickets.TicketService

/-!
# What the ticket service writes

`TicketWrite` is what a step can do: a call opens a ticket, replies to one that is not closed or
updates one, or only the staff's part of the store is written, where whoever is an administrator
stays one.  The invariants of the tables and what stays as it was are case analyses over it.
-/

namespace WebhostBilling

open Store Store.Table Concurrency

namespace Tickets

inductive TicketCall
  | create (call : CreateCall)
  | reply (call : ReplyCall)
deriving DecidableEq

def TicketStore.open (s : TicketStore) (w : TicketWorld) (call : CreateCall) : TicketStore :=
  { s with
    tickets := s.tickets.insert (newTicket w call)
    messages := s.messages.insert (openingMessage w call) }

def TicketStore.reply (s : TicketStore) (w : TicketWorld) (call : ReplyCall) : TicketStore :=
  { s with
    messages := s.messages.insert (newReply w call)
    tickets := s.tickets.updateWhere (fun _ row => row.id = call.ticketId.value) (answered w call)
    replyEvents := s.replyEvents.insert
      ⟨call.submissionKey, call.ticketId.value, call.submissionKey.value⟩ }

def TicketStore.update (s : TicketStore) (w : TicketWorld) (call : UpdateCall) : TicketStore :=
  { s with
    tickets := s.tickets.updateWhere (fun _ row => row.id = call.ticketId.value) (updated w call) }

/-- The role stays, and an administrator's profile. -/
def SameOffice (user user' : Auth.User) : Prop :=
  user'.role = user.role ∧ (user.staffRole.isSome → user'.staffRole.isSome)

inductive TicketWrite (w : TicketWorld) (s : TicketStore) : TicketStore → Prop
  | staff (staff : Auth.StaffStore)
      (hoffices : Table.Grows SameOffice s.staff.auth.users staff.auth.users) :
      TicketWrite w s { s with staff }
  | opens (call : CreateCall)
      (hservice : ∀ sent ∈ call.serviceId, s.serviceOwners.get? sent.value = some call.customerId)
      (hkey : s.findTicket call.submissionKey.value = none)
      (hmessage : s.findMessage w.messageId = none) : TicketWrite w s (s.open w call)
  | replies (call : ReplyCall) {ticket : Ticket}
      (hticket : s.findTicket call.ticketId.value = some ticket)
      (howns : call.actor.owns ticket = true) (hstatus : ticket.status ≠ .closed)
      (hkey : s.findMessage call.submissionKey.value = none) : TicketWrite w s (s.reply w call)
  | updates (call : UpdateCall)
      (hassigned : ∀ admin ∈ call.assignedAdminId, ∀ id ∈ admin,
        ∃ user ∈ s.staff.auth.users.get? id, assignable user = true) :
      TicketWrite w s (s.update w call)

theorem TicketWrite.nothing (w : TicketWorld) (s : TicketStore) : TicketWrite w s s :=
  .staff s.staff (Grows.refl (fun _ => ⟨rfl, id⟩) s.staff.auth.users)

/-! ## The staff's part -/

section

open Auth Auth.StaffService

variable {settings : StaffSettings} {w : StaffWorld} {s s' : StaffStore}

theorem offices_of_mutation {ι ρ : Type} {m : StaffMutation ι ρ} {l l' : StaffState ι ρ}
    (hwrite : ∀ w input found s s', m.write w input found s = .ok s' →
      Table.Grows SameOffice s.auth.users s'.auth.users)
    (h : m.step w s l = some (s', l')) : Table.Grows SameOffice s.auth.users s'.auth.users := by
  have hrefl : Table.Grows SameOffice s.auth.users s.auth.users :=
    Grows.refl (fun _ => ⟨rfl, id⟩) _
  have heffect := staffEffect_of_step h
  generalize commits m w s l = committed at heffect
  cases heffect with
  | @committed w input found written hcommit => exact hwrite w input found s written hcommit
  | gaveUp | locked | authorized | read | checked | rolledBack => exact hrefl

theorem offices_of_step {kind : StaffKind} {l l' : (staffOperations settings kind).Local}
    (h : (staffOperations settings kind).step w s l = some (s', l')) :
    Table.Grows SameOffice s.auth.users s'.auth.users := by
  cases kind with
  | create =>
    refine offices_of_mutation (fun w input found s s' hwrite => ?_) h
    simp only [StaffService.create, eq_ok] at hwrite
    obtain ⟨-, rfl⟩ := hwrite
    exact grows_insert (fun _ => ⟨rfl, id⟩) _ _
  | update =>
    refine offices_of_mutation (fun w input found s s' hwrite => ?_) h
    rw [update_users hwrite]
    exact grows_update (fun _ => ⟨rfl, id⟩) fun _ _ => ⟨rfl, fun _ => rfl⟩
  | resend =>
    refine offices_of_mutation (fun w input found s s' hwrite => ?_) h
    simp only [StaffService.resend, pure_eq_ok] at hwrite
    rw [← hwrite]
    exact Grows.refl (fun _ => ⟨rfl, id⟩) _
  | elsewhere =>
    rw [(elsewhere_step h).1]
    exact Grows.refl (fun _ => ⟨rfl, id⟩) _

end

/-! ## The transactions -/

section

variable {w : TicketWorld} {s s' : TicketStore} {state' : TicketState}

variable {u : Unit} {call : UpdateCall} {result : Except Failure (TicketStore × Unit)}
  {state : TicketState}

theorem createTransaction_eq_ok {call : CreateCall} (h : createTransaction w call s = .ok (s', u)) :
    (∀ sent ∈ call.serviceId, s.serviceOwners.get? sent.value = some call.customerId) ∧
      s.findTicket call.submissionKey.value = none ∧ s.findMessage w.messageId = none ∧
      s' = s.open w call := by
  simp only [createTransaction, eq_ok] at h
  obtain ⟨hservice, hkey, -, hmessage, rfl, -⟩ := h
  exact ⟨hservice, hkey, hmessage, rfl⟩

theorem replyTransaction_eq_ok {call : ReplyCall} (h : replyTransaction w call s = .ok (s', u)) :
    ∃ ticket, s.findTicket call.ticketId.value = some ticket ∧ call.actor.owns ticket = true ∧
      ticket.status ≠ .closed ∧ s.findMessage call.submissionKey.value = none ∧
      s' = s.reply w call := by
  simp only [replyTransaction, eq_ok] at h
  obtain ⟨ticket, hticket, howns, hstatus, hkey, -, rfl, -⟩ := h
  exact ⟨ticket, hticket, howns, hstatus, hkey, rfl⟩

theorem updateTransaction_eq_ok (h : updateTransaction w call s = .ok (s', u)) :
    (∀ admin ∈ call.assignedAdminId, ∀ id ∈ admin,
      ∃ user ∈ s.staff.auth.users.get? id, assignable user = true) ∧ s' = s.update w call := by
  simp only [updateTransaction, eq_ok] at h
  obtain ⟨-, -, hassigned, rfl, -⟩ := h
  exact ⟨hassigned, rfl⟩

theorem afterTransaction_cases (h : afterTransaction s result = (s', state')) :
    (∃ u, result = .ok (s', u) ∧ state' = .fetching) ∨
      s' = s ∧ (state' = .racing ∨ ∃ e, state' = .done (.error e)) := by
  unfold afterTransaction at h
  split at h <;> obtain ⟨rfl, rfl⟩ := Prod.mk.inj h
  · exact .inl ⟨_, rfl, rfl⟩
  · exact .inr ⟨rfl, .inl rfl⟩
  · exact .inr ⟨rfl, .inr ⟨_, rfl⟩⟩

theorem afterTransaction_write (h : afterTransaction s result = (s', state'))
    (hwrite : ∀ s₁ u, result = .ok (s₁, u) → TicketWrite w s s₁) : TicketWrite w s s' := by
  rcases afterTransaction_cases h with ⟨u, hresult, -⟩ | ⟨rfl, -⟩
  · exact hwrite s' u hresult
  · exact .nothing w s'

/-! ## The steps -/

def TicketCall.step (w : TicketWorld) (s : TicketStore) :
    TicketCall → TicketState → Option (TicketStore × TicketState)
  | .create call => createStep w s call
  | .reply call => replyStep w s call

theorem TicketCall.write_of_step {call : TicketCall} (h : call.step w s state = some (s', state')) :
    TicketWrite w s s' := by
  have hread : ∀ {result : TicketState}, some (s, result) = some (s', state') →
      TicketWrite w s s' := by
    intro result hsome
    obtain ⟨rfl, -⟩ := Prod.mk.inj (Option.some.inj hsome)
    exact .nothing w s
  cases call with
  | create call =>
    rw [TicketCall.step] at h
    cases state with
    | looking => rw [createStep] at h; split at h <;> exact hread h
    | transacting =>
      refine afterTransaction_write (Option.some.inj h) fun s₁ u hcommit => ?_
      obtain ⟨hservice, hkey, hmessage, rfl⟩ := createTransaction_eq_ok hcommit
      exact .opens call hservice hkey hmessage
    | racing => rw [createStep] at h; split at h <;> exact hread h
    | fetching => exact hread h
    | done => cases h
  | reply call =>
    rw [TicketCall.step] at h
    cases state with
    | looking =>
      rw [replyStep] at h
      split at h
      · split at h <;> exact hread h
      · exact hread h
    | transacting =>
      refine afterTransaction_write (Option.some.inj h) fun s₁ u hcommit => ?_
      obtain ⟨ticket, hticket, howns, hstatus, hkey, rfl⟩ := replyTransaction_eq_ok hcommit
      exact .replies call hticket howns hstatus hkey
    | racing => rw [replyStep] at h; split at h <;> exact hread h
    | fetching => exact hread h
    | done => cases h

theorem updateStep_write (h : updateStep w s call state = some (s', state')) :
    TicketWrite w s s' := by
  cases state with
  | transacting =>
    refine afterTransaction_write (Option.some.inj h) fun s₁ u hcommit => ?_
    obtain ⟨hassigned, rfl⟩ := updateTransaction_eq_ok hcommit
    exact .updates call hassigned
  | fetching =>
    obtain ⟨rfl, -⟩ := Prod.mk.inj (Option.some.inj h)
    exact .nothing w s
  | looking | racing | done => cases h

variable {settings : Auth.StaffSettings}

def ticketView : Thread (ticketOps settings) → Option (TicketCall × TicketState)
  | ⟨.create, (l : CreateCall × TicketState)⟩ => some (.create l.1, l.2)
  | ⟨.reply, (l : ReplyCall × TicketState)⟩ => some (.reply l.1, l.2)
  | _ => none

theorem ticketOperation_step {Call : Type} {start : TicketState}
    {step : TicketWorld → TicketStore → Call → TicketState → Option (TicketStore × TicketState)}
    {l l' : Call × TicketState}
    (h : (ticketOperation start step).step w s l = some (s', l')) :
    step w s l.1 l.2 = some (s', l'.2) ∧ l'.1 = l.1 := by
  obtain ⟨⟨s₁, state⟩, hstep, rfl, rfl⟩ := map_eq_some_pair.1 h
  exact ⟨hstep, rfl⟩

variable {t t' : Thread (ticketOps settings)}

theorem ticketView_of_step (h : t.step w s = some (s', t')) :
    (∃ call state state', ticketView t = some (call, state) ∧
      ticketView t' = some (call, state') ∧ call.step w s state = some (s', state')) ∨
    (ticketView t = none ∧ ticketView t' = none ∧ TicketWrite w s s') := by
  obtain ⟨kind, l⟩ := t
  obtain ⟨l', hop, rfl⟩ := Thread.step_eq_some h
  cases kind with
  | create =>
    obtain ⟨call, state⟩ := l
    obtain ⟨call', state'⟩ := l'
    obtain ⟨hstep, rfl⟩ := ticketOperation_step hop
    exact .inl ⟨.create _, state, state', rfl, rfl, hstep⟩
  | reply =>
    obtain ⟨call, state⟩ := l
    obtain ⟨call', state'⟩ := l'
    obtain ⟨hstep, rfl⟩ := ticketOperation_step hop
    exact .inl ⟨.reply _, state, state', rfl, rfl, hstep⟩
  | update =>
    obtain ⟨call, state⟩ := l
    obtain ⟨call', state'⟩ := l'
    obtain ⟨hstep, rfl⟩ := ticketOperation_step hop
    exact .inr ⟨rfl, rfl, updateStep_write hstep⟩
  | staff kind =>
    have hwithin : (staffOperation settings kind).step w s l = some (s', l') := hop
    obtain ⟨staff, hstaff, rfl⟩ := Operation.within_step hwithin
    exact .inr ⟨rfl, rfl, .staff staff (offices_of_step hstaff)⟩
  | elsewhere =>
    obtain ⟨staff, -, rfl, -⟩ := map_eq_some_pair.1 hop
    refine .inr ⟨rfl, rfl, ?_⟩
    split
    · rename_i hkeeps
      refine .staff staff fun id user huser => ?_
      obtain ⟨user', huser', hrole, hstaffRole⟩ := hkeeps id user huser
      exact ⟨user', huser', hrole, fun hsome => hstaffRole ▸ hsome⟩
    · exact .nothing w s

theorem ticketWrite_of_step (h : t.step w s = some (s', t')) : TicketWrite w s s' := by
  rcases ticketView_of_step h with ⟨call, state, state', -, -, hstep⟩ | ⟨-, -, hwrite⟩
  · exact TicketCall.write_of_step hstep
  · exact hwrite

end

end Tickets

end WebhostBilling
