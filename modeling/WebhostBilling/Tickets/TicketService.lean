import Mathlib.Data.List.MinMax
import Mathlib.Data.Prod.Lex
import WebhostBilling.Staff.StaffService
import WebhostBilling.Store.KeyedTable

/-!
# The ticket service

A ticket and a reply have the submission key of the request that made them as their identifier.
`create` and `reply` look the key up before their transaction and once more when the transaction
fails on a unique key; the transaction of a reply locks the ticket first.

A UUID in a request may have capital letters, and the database returns it without: where the code
compares texts, this makes a difference.  The activity log is not modelled.
-/

namespace WebhostBilling

open Store Concurrency

namespace Tickets

/-! ## Rows -/

inductive TicketStatus
  | open
  | waitingForCustomer
  | waitingForStaff
  | closed
deriving DecidableEq

inductive TicketPriority
  | low
  | normal
  | high
  | urgent

inductive TicketMessageKind
  | customer
  | admin
  | system
deriving DecidableEq

structure Ticket where
  id : RowId
  ticketNumber : String
  customerId : RowId
  serviceId : Option RowId := none
  assignedAdminId : Option RowId := none
  subject : String
  status : TicketStatus := .open
  priority : TicketPriority := .normal
  lastReplyAt : Option ℕ := none
  closedAt : Option ℕ := none

structure TicketMessage where
  id : RowId
  ticketId : RowId
  authorUserId : RowId
  kind : TicketMessageKind
  body : String
  createdAt : ℕ
deriving DecidableEq

structure SentUuid where
  value : RowId
  asStored : Bool := true
deriving DecidableEq

def SentUuid.ofStored (value : RowId) : SentUuid := ⟨value, true⟩

/-- An event `EMAIL_TICKET_REPLY`, with the key after `email:ticket-reply:`. -/
structure ReplyEvent where
  idempotencyKey : SentUuid
  ticketId : RowId
  messageId : RowId
deriving DecidableEq

/-- The tickets with their messages and events. -/
structure TicketStore where
  tickets : Table Ticket := ∅
  messages : Table TicketMessage := ∅
  replyEvents : Table ReplyEvent := ∅
  serviceOwners : Table RowId := ∅
  staff : Auth.StaffStore := {}

/-- What a step is told from outside: the clock and what is drawn at random. -/
structure TicketWorld where
  now : ℕ := 0
  messageId : RowId := 0
  /-- What `createHumanReadableNumber` returns. -/
  ticketNumber : String := ""
  aborted : Bool := false

namespace TicketStore

variable (s : TicketStore)

def findTicket (id : RowId) : Option Ticket := s.tickets.lookup Ticket.id id

def findMessage (id : RowId) : Option TicketMessage := s.messages.lookup TicketMessage.id id

def initialMessage (ticketId : RowId) : Option TicketMessage :=
  s.messages.lookup TicketMessage.ticketId ticketId

/-- `messages[0]` of a ticket, ordered by `createdAt` and `id`. -/
def firstMessage (ticketId : RowId) : Option TicketMessage :=
  (s.messages.rows.filter fun message => message.ticketId = ticketId).argmin
    fun message => toLex (message.createdAt, message.id)

end TicketStore

/-! ## Errors -/

def notFound : Failure := .application .resourceNotFound "Ticket was not found."

def noAccess : Failure := .application .forbidden "You do not have access to this ticket."

def invalid (message : String) : Failure := .application .unprocessableEntity message

def conflict (message : String) : Failure := .application .conflict message

/-! ## Calls -/

inductive TicketActor
  | admin (userId : RowId)
  | customer (userId customerId : RowId)
deriving DecidableEq

def TicketActor.userId : TicketActor → RowId
  | .admin userId => userId
  | .customer userId _ => userId

/-- What `assertOwnership` asks for. -/
def TicketActor.owns : TicketActor → Ticket → Bool
  | .admin _, _ => true
  | .customer _ customerId, ticket => customerId = ticket.customerId

structure CreateCall where
  submissionKey : SentUuid
  subject : String
  body : String
  serviceId : Option SentUuid := none
  userId : RowId
  customerId : RowId
deriving DecidableEq

structure ReplyCall where
  ticketId : SentUuid
  submissionKey : SentUuid
  body : String
  actor : TicketActor
deriving DecidableEq

/-- A field that is left out is not changed; `some none` takes the administrator away. -/
structure UpdateCall where
  ticketId : SentUuid
  status : Option TicketStatus := none
  priority : Option TicketPriority := none
  assignedAdminId : Option (Option RowId) := none
  actor : TicketActor

inductive TicketState
  | looking
  | transacting
  | racing
  | fetching
  | done (result : Except Failure RowId)
deriving DecidableEq

/-- `get`. -/
def get (s : TicketStore) (ticketId : RowId) (actor : TicketActor) : Except Failure RowId := do
  let ticket ← orThrow notFound (s.findTicket ticketId)
  require (actor.owns ticket = true) noAccess
  return ticket.id

def afterTransaction (s : TicketStore) :
    Except Failure (TicketStore × Unit) → TicketStore × TicketState
  | .ok (s', _) => (s', .fetching)
  | .error .uniqueConstraint => (s, .racing)
  | .error e => (s, .done (.error e))

/-! ## Create -/

/-- `duplicateCreate`. -/
def duplicateCreate (s : TicketStore) (ticket : Ticket) (call : CreateCall) :
    Except Failure RowId := do
  require (ticket.customerId = call.customerId ∧ ticket.subject = call.subject ∧
      ticket.serviceId.map .ofStored = call.serviceId ∧
      ∃ initial ∈ s.firstMessage ticket.id,
        initial.authorUserId = call.userId ∧ initial.body = call.body)
    (conflict "This ticket submission key was already used.")
  return ticket.id

variable (w : TicketWorld)

def newTicket (call : CreateCall) : Ticket where
  id := call.submissionKey.value
  ticketNumber := w.ticketNumber
  customerId := call.customerId
  serviceId := call.serviceId.map SentUuid.value
  subject := call.subject
  lastReplyAt := some w.now

def openingMessage (call : CreateCall) : TicketMessage where
  id := w.messageId
  ticketId := call.submissionKey.value
  authorUserId := call.userId
  kind := .customer
  body := call.body
  createdAt := w.now

/-- The transaction of `create`. -/
def createTransaction (call : CreateCall) :
    Transaction TicketStore Failure Unit := fun s => do
  require (∀ sent ∈ call.serviceId, s.serviceOwners.get? sent.value = some call.customerId)
    (invalid "The selected hosting service is not available to this customer.")
  require (s.findTicket call.submissionKey.value = none) .uniqueConstraint
  require (s.tickets.lookup Ticket.ticketNumber w.ticketNumber = none) .uniqueConstraint
  require (s.findMessage w.messageId = none) .uniqueConstraint
  return ({ s with
    tickets := s.tickets.insert (newTicket w call)
    messages := s.messages.insert (openingMessage w call) }, ())

def createStep (s : TicketStore) (call : CreateCall) :
    TicketState → Option (TicketStore × TicketState)
  | .looking =>
    match s.findTicket call.submissionKey.value with
    | some existing => some (s, .done (duplicateCreate s existing call))
    | none => some (s, .transacting)
  | .transacting => some (afterTransaction s (createTransaction w call s))
  | .racing =>
    match s.findTicket call.submissionKey.value with
    | some raced => some (s, .done (duplicateCreate s raced call))
    | none => some (s, .done (.error (conflict "The ticket could not be created safely.")))
  | .fetching =>
    some (s, .done (get s call.submissionKey.value (.customer call.userId call.customerId)))
  | .done _ => none

/-! ## Reply -/

def ReplyCall.repeats (call : ReplyCall) (message : TicketMessage) : Bool :=
  .ofStored message.ticketId = call.ticketId ∧ message.authorUserId = call.actor.userId ∧
    message.body = call.body

def TicketActor.replies : TicketActor → TicketMessageKind × TicketStatus
  | .admin _ => (.admin, .waitingForCustomer)
  | .customer _ _ => (.customer, .waitingForStaff)

def newReply (call : ReplyCall) : TicketMessage where
  id := call.submissionKey.value
  ticketId := call.ticketId.value
  authorUserId := call.actor.userId
  kind := call.actor.replies.1
  body := call.body
  createdAt := w.now

def answered (call : ReplyCall) (ticket : Ticket) : Ticket :=
  { ticket with
    status := call.actor.replies.2
    lastReplyAt := some w.now
    closedAt := none }

/-- The transaction of `reply`. -/
def replyTransaction (call : ReplyCall) :
    Transaction TicketStore Failure Unit := fun s => do
  let ticket ← orThrow notFound (s.findTicket call.ticketId.value)
  require (call.actor.owns ticket = true) noAccess
  require (ticket.status ≠ .closed)
    (invalid "A closed ticket must be reopened by an administrator before replying.")
  require (s.findMessage call.submissionKey.value = none) .uniqueConstraint
  require (s.replyEvents.lookup ReplyEvent.idempotencyKey call.submissionKey = none) .uniqueConstraint
  return ({ s with
    messages := s.messages.insert (newReply w call)
    tickets := s.tickets.updateWhere (fun _ row => row.id = call.ticketId.value) (answered w call)
    replyEvents := s.replyEvents.insert
      ⟨call.submissionKey, call.ticketId.value, call.submissionKey.value⟩ }, ())

def replyStep (s : TicketStore) (call : ReplyCall) :
    TicketState → Option (TicketStore × TicketState)
  | .looking =>
    match s.findMessage call.submissionKey.value with
    | some existing =>
      if call.repeats existing = true then some (s, .fetching)
      else some (s, .done (.error (conflict "This reply submission key was already used.")))
    | none => some (s, .transacting)
  | .transacting => some (afterTransaction s (replyTransaction w call s))
  | .racing =>
    if (s.findMessage call.submissionKey.value).any call.repeats = true then some (s, .fetching)
    else some (s, .done (.error (conflict "The ticket reply could not be recorded safely.")))
  | .fetching => some (s, .done (get s call.ticketId.value call.actor))
  | .done _ => none

/-! ## Update -/

def assignable (user : Auth.User) : Bool :=
  user.role = .admin ∧ user.status = .active ∧ user.deleted = false ∧
    (user.staffRole = some .fullAdministrator ∨ user.staffRole = some .supportOperator)

def updated (call : UpdateCall) (ticket : Ticket) : Ticket :=
  { ticket with
    status := call.status.getD ticket.status
    closedAt := call.status.elim ticket.closedAt fun status =>
      if status = .closed then some w.now else none
    priority := call.priority.getD ticket.priority
    assignedAdminId := call.assignedAdminId.getD ticket.assignedAdminId }

/-- The transaction of `update`. -/
def updateTransaction (call : UpdateCall) :
    Transaction TicketStore Failure Unit := fun s => do
  let _ ← orThrow notFound (s.findTicket call.ticketId.value)
  require (∀ admin ∈ call.assignedAdminId, ∀ id ∈ admin,
      ∃ user ∈ s.staff.auth.users.get? id, assignable user = true)
    (invalid "The selected administrator is inactive.")
  return ({ s with
    tickets := s.tickets.updateWhere (fun _ row => row.id = call.ticketId.value)
      (updated w call) }, ())

def updateStep (s : TicketStore) (call : UpdateCall) :
    TicketState → Option (TicketStore × TicketState)
  | .transacting => some (afterTransaction s (updateTransaction w call s))
  | .fetching => some (s, .done (get s call.ticketId.value call.actor))
  | _ => none

/-! ## The operations -/

def ticketOperation {Call : Type} (start : TicketState)
    (step : TicketWorld → TicketStore → Call → TicketState → Option (TicketStore × TicketState)) :
    Operation TicketStore TicketWorld where
  Request := Call
  Local := Call × TicketState
  start call := (call, start)
  step w s l := (step w s l.1 l.2).map fun out => (out.1, (l.1, out.2))

def create : Operation TicketStore TicketWorld := ticketOperation .looking createStep

def reply : Operation TicketStore TicketWorld := ticketOperation .looking replyStep

def update : Operation TicketStore TicketWorld := ticketOperation .transacting updateStep

def staffOperation (settings : Auth.StaffSettings) (kind : Auth.StaffService.StaffKind) :
    Operation TicketStore TicketWorld :=
  (Auth.StaffService.staffOperations settings kind).within TicketStore.staff
    (fun staff s => { s with staff }) fun w => ⟨w.now, w.aborted⟩

/-- Every user stays what it is: its role is written by nothing, and the one in an administrator's
profile by the staff service. -/
def keepsOffices (staff staff' : Auth.StaffStore) : Prop :=
  ∀ id user, staff.auth.users.get? id = some user →
    ∃ user' ∈ staff'.auth.users.get? id, user'.role = user.role ∧ user'.staffRole = user.staffRole
deriving Decidable

/-- The rest of the application may write anything but the tickets, the owners of services and who is
an administrator. -/
def elsewhere : Operation TicketStore TicketWorld where
  Request := Auth.StaffStore
  Local := Option Auth.StaffStore
  start := some
  step _ s pending := pending.map fun staff =>
    (if keepsOffices s.staff staff then { s with staff } else s, none)

inductive TicketKind
  | create
  | reply
  | update
  | staff (kind : Auth.StaffService.StaffKind)
  | elsewhere

def ticketOps (settings : Auth.StaffSettings) : TicketKind → Operation TicketStore TicketWorld
  | .create => create
  | .reply => reply
  | .update => update
  | .staff kind => staffOperation settings kind
  | .elsewhere => elsewhere

end Tickets

end WebhostBilling
