import RomaBridge.Model.PyUuid
import RomaBridge.Model.SupportTickets

/-! What `support_chat/service.py` and `support_chat/chat_service.py` keep of a ticket beside its row. The
row is found by the UUID of the path; messages, participants, attachments and ratings are kept in memory
by a text. Random ids and dates are left out.
-/

namespace RomaBridge.Model.TicketDetails

open RomaBridge.Foundation
open RomaBridge.Model.Support (TicketStatus validStatusTransitions)

inductive ParticipantRole where
  | tenantUser
  | tenantAdmin
  | supportAgent
  | superAdmin
  deriving DecidableEq, Repr

inductive MessageType where
  | text
  | system
  | internalNote
  | file
  deriving DecidableEq, Repr

structure ChatMessage where
  ticketId : Uuid
  senderId : String
  senderRole : ParticipantRole
  body : String
  messageType : MessageType := .text
  isInternal : Bool := false
  attachmentIds : List Uuid := []
  deriving DecidableEq

structure ChatParticipant where
  ticketId : Uuid
  userId : String
  role : ParticipantRole
  tenantId : String
  deriving DecidableEq

structure TicketAttachment where
  ticketId : Uuid
  messageId : Option Uuid
  filename : String
  contentType : String
  sizeBytes : ℕ
  url : String
  uploadedBy : String
  deriving DecidableEq

structure CsatRating where
  ticketId : Uuid
  tenantId : String
  score : ℕ
  comment : Option String
  ratedBy : String
  deriving DecidableEq

structure TenantContext where
  tenantId : String
  actorId : String

/-- The columns of a ticket's row that are read here. -/
structure TicketRecord where
  tenantId : String
  status : TicketStatus
  assignedAgentId : Option String
  deriving DecidableEq

/-- `SupportTicketService`: the table, and the dictionaries in memory. -/
structure SupportService where
  tickets : Uuid → Option TicketRecord
  messages : String → List ChatMessage := fun _ => []
  participants : String → List ChatParticipant := fun _ => []
  attachments : String → List TicketAttachment := fun _ => []
  csat : String → Option CsatRating := fun _ => none

inductive ServiceError where
  /-- The primary key is taken. -/
  | integrity
  /-- `ValueError(f"Ticket {ticket_id} not found")`. -/
  | notFound (ticketId : String)
  /-- `TicketNotFoundError`. -/
  | ticketNotFound (ticketId : String)
  /-- `TicketStatusConflictError`. -/
  | conflict (ticketId : String) (current : TicketStatus)

namespace SupportService

/-- `self._messages.setdefault(str(message.ticket_id), []).append(message)`. -/
def chatMessage (service : SupportService) (message : ChatMessage) : SupportService :=
  { service with
    messages := Function.update service.messages message.ticketId.str
      (service.messages message.ticketId.str ++ [message]) }

/-- `add_system_message`. -/
def systemMessage (ticketId : Uuid) (body : String) : ChatMessage :=
  { ticketId, senderId := "system", senderRole := .superAdmin, body, messageType := .system }

def tenantMessage (ticketId : Uuid) (body : String) (attachmentIds : List Uuid)
    (tenant : TenantContext)
    : ChatMessage :=
  { ticketId, senderId := tenant.actorId, senderRole := .tenantUser, body, attachmentIds }

/-- `self._participants.setdefault(key, []).append(participant)`. -/
def addParticipant (service : SupportService) (key : String) (participant : ChatParticipant)
    : SupportService :=
  { service with
    participants := Function.update service.participants key
      (service.participants key ++ [participant]) }

def writeTicket (service : SupportService) (ticketId : Uuid) (ticket : TicketRecord)
    : SupportService :=
  { service with tickets := Function.update service.tickets ticketId (some ticket) }

/-- `create_ticket`, with the UUID that is drawn. -/
def createTicket (service : SupportService) (ticketId : Uuid) (body : String)
    (tenant : TenantContext)
    : Except ServiceError SupportService :=
  match service.tickets ticketId with
  | some _ => .error .integrity
  | none =>
      let inserted := service.writeTicket ticketId ⟨tenant.tenantId, .open_, none⟩
      let joined := inserted.addParticipant ticketId.str
        ⟨ticketId, tenant.actorId, .tenantUser, tenant.tenantId⟩
      let opened :=
        if body = "" then joined else joined.chatMessage (tenantMessage ticketId body [] tenant)
      .ok (opened.chatMessage (systemMessage ticketId ("Ticket created by " ++ tenant.actorId)))

/-- The row that a path names, if its tenant may be seen. -/
def ticketWhere (service : SupportService) (path : String) (visible : String → Bool)
    : Option (Uuid × TicketRecord) :=
  (Uuid.ofText path).bind (fun ticketId => (service.tickets ticketId).bind (fun ticket =>
    if visible ticket.tenantId then some (ticketId, ticket) else none))

/-- The row that a path names, if it is the tenant's. -/
def ticketOf (service : SupportService) (path tenantId : String) : Option (Uuid × TicketRecord) :=
  service.ticketWhere path (fun owner => owner = tenantId)

def addMessage (service : SupportService) (path body : String) (attachmentIds : List Uuid)
    (tenant : TenantContext)
    : Except ServiceError SupportService :=
  match service.ticketOf path tenant.tenantId with
  | none => .error (.notFound path)
  | some (ticketId, ticket) =>
      let message := tenantMessage ticketId body attachmentIds tenant
      if ticket.status = .waitingCustomer then
        let resumed := service.writeTicket ticketId { ticket with status := .inProgress }
        .ok ((resumed.chatMessage
          (systemMessage ticketId "Customer replied — status → in_progress")).chatMessage message)
      else
        .ok (service.chatMessage message)

/-- The rest of `assign_agent` and `assign_agent_to_self`, once the row is found: the participant is kept
under the path.
-/
def assignTo (service : SupportService) (path : String) (ticketId : Uuid) (ticket : TicketRecord)
    (agentId : String)
    : Except ServiceError SupportService :=
  if ticket.status ≠ .inProgress ∧ .inProgress ∉ validStatusTransitions ticket.status then
    .error (.conflict path ticket.status)
  else
    let assigned := service.writeTicket ticketId
      { ticket with status := .inProgress, assignedAgentId := some agentId }
    let joined := assigned.addParticipant path ⟨ticketId, agentId, .supportAgent, ticket.tenantId⟩
    .ok (joined.chatMessage (systemMessage ticketId ("Agent " ++ agentId ++ " assigned")))

def assignAgent (service : SupportService) (path agentId : String) (tenant : TenantContext)
    : Except ServiceError SupportService :=
  match service.ticketOf path tenant.tenantId with
  | none => .error (.ticketNotFound path)
  | some (ticketId, ticket) => service.assignTo path ticketId ticket agentId

def ticketOfScopes (service : SupportService) (path : String) (tenantScopes : List String)
    : Option (Uuid × TicketRecord) :=
  service.ticketWhere path (fun owner => owner ∈ tenantScopes)

def assignAgentToSelf (service : SupportService) (path actorId : String)
    (tenantScopes : List String)
    : Except ServiceError SupportService :=
  match service.ticketOfScopes path tenantScopes with
  | none => .error (.ticketNotFound path)
  | some (ticketId, ticket) => service.assignTo path ticketId ticket actorId

/-- `submit_csat`. The rating is kept under the path. -/
def submitCsat (service : SupportService) (path : String) (score : ℕ) (comment : Option String)
    (tenant : TenantContext)
    : Except ServiceError SupportService :=
  match service.ticketOf path tenant.tenantId with
  | none => .error (.notFound path)
  | some (ticketId, _) =>
      let rated := { service with
        csat := Function.update service.csat path
          (some ⟨ticketId, tenant.tenantId, score, comment, tenant.actorId⟩) }
      .ok (rated.chatMessage (systemMessage ticketId ("CSAT: " ++ toString score ++ "/5")))

def addAttachment (service : SupportService) (attachment : TicketAttachment) : SupportService :=
  { service with
    attachments := Function.update service.attachments attachment.ticketId.str
      (service.attachments attachment.ticketId.str ++ [attachment]) }

/-- `get_visible_messages` for a tenant's user, with the default limit. -/
def getVisibleMessages (service : SupportService) (path : String) : List ChatMessage :=
  let messages := service.messages path
  (messages.drop (messages.length - 100)).filter
    (fun message => !message.isInternal && message.messageType ≠ .internalNote)

end SupportService

/-- `TicketDetailResponse`. -/
structure TicketDetail where
  ticket : TicketRecord
  messages : List ChatMessage
  participants : List ChatParticipant
  attachments : List TicketAttachment
  csat : Option CsatRating
  deriving DecidableEq

namespace SupportService

def detail (service : SupportService) (path : String) (ticket : TicketRecord) : TicketDetail :=
  { ticket
    messages := service.getVisibleMessages path
    participants := service.participants path
    attachments := service.attachments path
    csat := service.csat path }

def getTicketDetail (service : SupportService) (path : String) (tenant : TenantContext)
    : Option TicketDetail :=
  (service.ticketOf path tenant.tenantId).map (fun found => service.detail path found.2)

def agentGetTicketDetail (service : SupportService) (path : String) (tenantScopes : List String)
    : Option TicketDetail :=
  (service.ticketOfScopes path tenantScopes).map (fun found => service.detail path found.2)

end SupportService

inductive ServiceCall where
  | createTicket (ticketId : Uuid) (body : String) (tenant : TenantContext)
  | addMessage (path body : String) (attachmentIds : List Uuid) (tenant : TenantContext)
  | assignAgent (path agentId : String) (tenant : TenantContext)
  | assignAgentToSelf (path actorId : String) (tenantScopes : List String)
  | submitCsat (path : String) (score : ℕ) (comment : Option String) (tenant : TenantContext)
  | addAttachment (attachment : TicketAttachment)

/-- A call: the state it leaves, or the error it raises. -/
def SupportService.call (service : SupportService) : ServiceCall → Except ServiceError SupportService
  | .createTicket ticketId body tenant => service.createTicket ticketId body tenant
  | .addMessage path body attachmentIds tenant =>
      service.addMessage path body attachmentIds tenant
  | .assignAgent path agentId tenant => service.assignAgent path agentId tenant
  | .assignAgentToSelf path actorId tenantScopes =>
      service.assignAgentToSelf path actorId tenantScopes
  | .submitCsat path score comment tenant => service.submitCsat path score comment tenant
  | .addAttachment attachment => .ok (service.addAttachment attachment)

/-- A call as a step: one that raises leaves the state. -/
def SupportService.step (service : SupportService) (call : ServiceCall)
    : Except ServiceError Unit × SupportService :=
  match service.call call with
  | .error error => (.error error, service)
  | .ok next => (.ok (), next)

end RomaBridge.Model.TicketDetails
