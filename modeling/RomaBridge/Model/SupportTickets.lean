import RomaBridge.Foundation.Paging
import RomaBridge.Foundation.Table
import RomaBridge.Foundation.Trace

/-! The writers of a ticket's row in `support_chat/service.py`. Under READ COMMITTED a call is the
read of the row and, later, one UPDATE with its commit: the row stays locked in between, and the
WHERE clause is checked against what was committed last.
-/

namespace RomaBridge.Model.Support

open RomaBridge.Foundation

inductive TicketStatus where
  | open_
  | inProgress
  | waitingCustomer
  | resolved
  | closed
  deriving DecidableEq, Repr

def validStatusTransitions : TicketStatus → List TicketStatus
  | .open_ => [.inProgress, .closed]
  | .inProgress => [.waitingCustomer, .resolved, .closed]
  | .waitingCustomer => [.inProgress, .closed]
  | .resolved => [.closed, .open_]
  | .closed => [.open_]

/-- The columns of `SupportTicketModel` that the writers read or set. -/
structure SupportTicket where
  tenantId : String
  status : TicketStatus
  assignedAgentId : Option String
  updatedAt : ℕ
  resolvedAt : Option ℕ
  deriving DecidableEq, Repr

/-- The table by primary key. An id that is no UUID has no row. -/
abbrev Tickets : Type := String → Option SupportTicket

inductive TicketError where
  | notFound (ticketId : String)
  | ticketNotFound (ticketId : String)
  | assignmentNotAllowed (ticketId : String) (current : TicketStatus)
  | assignmentConflict (ticketId : String)
  | cannotTransition (current new : TicketStatus)
  | changedConcurrently (current new : TicketStatus)
  deriving DecidableEq, Repr

/-- An UPDATE to a status where the row still has the tenant and the status that were read. The new
status was checked against the graph; an assignment may keep it.
-/
structure StatusUpdate (new : TicketStatus) where
  ticketId : String
  tenantId : String
  current : TicketStatus
  valid : new = current ∨ new ∈ validStatusTransitions current

/-- What a session is to write: a flush of the loaded row by primary key, an assignment, or a
transition. An agent's writes come with the scopes that the tenant is in.
-/
inductive Pending where
  | flush (ticketId : String) (statusChanged : Bool)
  | assign (update : StatusUpdate .inProgress) (agentId : String)
  | assignSelf (update : StatusUpdate .inProgress) (actorId : String) (tenantScopes : List String)
      (inScope : update.tenantId ∈ tenantScopes)
  | transition (newStatus : TicketStatus) (update : StatusUpdate newStatus)
  | transitionAssigned (newStatus : TicketStatus) (update : StatusUpdate newStatus)
      (actorId : String) (tenantScopes : List String) (inScope : update.tenantId ∈ tenantScopes)

/-- The calls by what they are given. -/
inductive Request where
  | addMessage (ticketId tenantId : String)
  | assignAgent (ticketId agentId tenantId : String)
  | assignAgentToSelf (ticketId actorId : String) (tenantScopes : List String)
  | transitionStatus (ticketId : String) (newStatus : TicketStatus) (tenantId : String)
  | transitionStatusAsAssignee (ticketId : String) (newStatus : TicketStatus) (actorId : String)
      (tenantScopes : List String)

abbrev UpdateOf (row : SupportTicket) (newStatus : TicketStatus) : Type :=
  { update : StatusUpdate newStatus // update.tenantId = row.tenantId }

def assignmentUpdate (ticketId : String) (row : SupportTicket)
    : Except TicketError (UpdateOf row .inProgress) :=
  if allowed : .inProgress = row.status ∨ .inProgress ∈ validStatusTransitions row.status then
    .ok ⟨⟨ticketId, row.tenantId, row.status, allowed⟩, rfl⟩
  else .error (.assignmentNotAllowed ticketId row.status)

def transitionUpdate (ticketId : String) (row : SupportTicket) (newStatus : TicketStatus)
    : Except TicketError (UpdateOf row newStatus) :=
  if allowed : newStatus ∈ validStatusTransitions row.status then
    .ok ⟨⟨ticketId, row.tenantId, row.status, .inr allowed⟩, rfl⟩
  else .error (.cannotTransition row.status newStatus)

/-- `_add_message_sync` up to its commit. -/
def addMessage (tickets : Tickets) (ticketId tenantId : String) : Except TicketError Pending :=
  match tickets ticketId with
  | none => .error (.notFound ticketId)
  | some row =>
      if row.tenantId = tenantId then .ok (.flush ticketId (row.status == .waitingCustomer))
      else .error (.notFound ticketId)

/-- `_assign_agent_sync` up to its UPDATE. -/
def assignAgent (tickets : Tickets) (ticketId agentId tenantId : String)
    : Except TicketError Pending :=
  match tickets ticketId with
  | none => .error (.ticketNotFound ticketId)
  | some row =>
      if row.tenantId = tenantId then
        (assignmentUpdate ticketId row).map (fun update => .assign update.val agentId)
      else .error (.ticketNotFound ticketId)

/-- `_transition_sync` up to its UPDATE. -/
def transitionStatus (tickets : Tickets) (ticketId : String) (newStatus : TicketStatus)
    (tenantId : String) : Except TicketError Pending :=
  match tickets ticketId with
  | none => .error (.notFound ticketId)
  | some row =>
      if row.tenantId = tenantId then
        (transitionUpdate ticketId row newStatus).map (fun update => .transition newStatus update.val)
      else .error (.notFound ticketId)

/-- `_assign_self_sync` up to its UPDATE. -/
def assignAgentToSelf (tickets : Tickets) (ticketId actorId : String) (tenantScopes : List String)
    : Except TicketError Pending :=
  match tickets ticketId with
  | none => .error (.ticketNotFound ticketId)
  | some row =>
      if inScope : row.tenantId ∈ tenantScopes then
        (assignmentUpdate ticketId row).map (fun update : UpdateOf row .inProgress =>
          .assignSelf update.val actorId tenantScopes (by rw [update.property]; exact inScope))
      else .error (.ticketNotFound ticketId)

/-- `_transition_assigned_sync` up to its UPDATE. -/
def transitionStatusAsAssignee (tickets : Tickets) (ticketId : String) (newStatus : TicketStatus)
    (actorId : String) (tenantScopes : List String) : Except TicketError Pending :=
  match tickets ticketId with
  | none => .error (.ticketNotFound ticketId)
  | some row =>
      if inScope : row.tenantId ∈ tenantScopes then
        if row.assignedAgentId = some actorId then
          (transitionUpdate ticketId row newStatus).map (fun update : UpdateOf row newStatus =>
            .transitionAssigned newStatus update.val actorId tenantScopes
              (by rw [update.property]; exact inScope))
        else .error (.ticketNotFound ticketId)
      else .error (.ticketNotFound ticketId)

def prepare (tickets : Tickets) : Request → Except TicketError Pending
  | .addMessage ticketId tenantId => addMessage tickets ticketId tenantId
  | .assignAgent ticketId agentId tenantId => assignAgent tickets ticketId agentId tenantId
  | .assignAgentToSelf ticketId actorId tenantScopes =>
      assignAgentToSelf tickets ticketId actorId tenantScopes
  | .transitionStatus ticketId newStatus tenantId =>
      transitionStatus tickets ticketId newStatus tenantId
  | .transitionStatusAsAssignee ticketId newStatus actorId tenantScopes =>
      transitionStatusAsAssignee tickets ticketId newStatus actorId tenantScopes

/-- The row that an UPDATE finds: the tenant and the status are those that were read, and the
assignee is the one that is asked for.
-/
def StatusUpdate.matched {newStatus : TicketStatus} (update : StatusUpdate newStatus)
    (tickets : Tickets) (assignee : Option String) : Option SupportTicket :=
  (tickets update.ticketId).filter (fun row =>
    row.tenantId == update.tenantId && row.status == update.current
      && (assignee.isNone || row.assignedAgentId == assignee))

def SupportTicket.assigned (row : SupportTicket) (agentId : String) (now : ℕ) : SupportTicket :=
  { row with assignedAgentId := some agentId, status := .inProgress, updatedAt := now }

def SupportTicket.moved (row : SupportTicket) (newStatus : TicketStatus) (now : ℕ)
    : SupportTicket :=
  { row with
    status := newStatus
    updatedAt := now
    resolvedAt := if newStatus = .resolved then some now else row.resolvedAt }

/-- The row after the flush of a message: its status is written only if the session changed it. -/
def SupportTicket.flushed (row : SupportTicket) (statusChanged : Bool) (now : ℕ) : SupportTicket :=
  { row with
    status := if statusChanged then .inProgress else row.status
    updatedAt := now }

inductive TicketReply where
  | prepared
  | failed (error : TicketError)
  | messageAdded (statusChanged : Bool)
  | applied
  | idle
  deriving DecidableEq, Repr

def Pending.commit (tickets : Tickets) (now : ℕ) : Pending → TicketReply × Tickets
  | .flush ticketId statusChanged =>
      match tickets ticketId with
      | none => (.idle, tickets)
      | some row =>
          (.messageAdded statusChanged,
            Function.update tickets ticketId (some (row.flushed statusChanged now)))
  | .assign update agentId =>
      match update.matched tickets none with
      | none => (.failed (.assignmentConflict update.ticketId), tickets)
      | some row =>
          (.applied, Function.update tickets update.ticketId (some (row.assigned agentId now)))
  | .assignSelf update actorId _ _ =>
      match update.matched tickets none with
      | none => (.failed (.assignmentConflict update.ticketId), tickets)
      | some row =>
          (.applied, Function.update tickets update.ticketId (some (row.assigned actorId now)))
  | .transition newStatus update =>
      match update.matched tickets none with
      | none => (.failed (.changedConcurrently update.current newStatus), tickets)
      | some row =>
          (.applied, Function.update tickets update.ticketId (some (row.moved newStatus now)))
  | .transitionAssigned newStatus update actorId _ _ =>
      match update.matched tickets (some actorId) with
      | none => (.failed (.changedConcurrently update.current newStatus), tickets)
      | some row =>
          (.applied, Function.update tickets update.ticketId (some (row.moved newStatus now)))

/-- The committed rows, and what each session is to write. -/
structure TicketRun where
  tickets : Tickets
  sessions : ℕ → Option Pending

/-- The two steps of a call. A read in a session that had not committed drops what it was to write.
-/
inductive TicketCall where
  | read (session : ℕ) (request : Request)
  | commit (session now : ℕ)

def ticketStep (run : TicketRun) : TicketCall → TicketReply × TicketRun
  | .read session request =>
      match prepare run.tickets request with
      | .error error =>
          (.failed error, { run with sessions := Function.update run.sessions session none })
      | .ok pending =>
          (.prepared, { run with sessions := Function.update run.sessions session (some pending) })
  | .commit session now =>
      match run.sessions session with
      | none => (.idle, run)
      | some pending =>
          ((pending.commit run.tickets now).1,
            { tickets := (pending.commit run.tickets now).2
              sessions := Function.update run.sessions session none })

end RomaBridge.Model.Support

/-! The two ticket lists of `support_chat/service.py`. A query comes with the result that the database
gives it.
-/

namespace RomaBridge.Model.Support

open RomaBridge.Foundation

/-- The columns of `SupportTicketModel` that the lists read; the id as its number, the time of creation in
microseconds.
-/
structure TicketRow where
  ticketId : ℕ
  tenantId : String
  status : TicketStatus
  createdAt : ℤ
  deriving DecidableEq, Repr

/-- `support_tickets`. -/
abbrev TicketTable := Table ℕ TicketRow TicketRow.ticketId

structure TicketListResponse where
  tickets : List TicketRow
  total : ℕ
  page : ℕ
  pageSize : ℕ

/-- `ORDER BY created_at`. -/
def byCreation (left right : TicketRow) : Prop := left.createdAt ≤ right.createdAt

/-- `ORDER BY created_at, ticket_id`. -/
def byCreationAndId (left right : TicketRow) : Prop :=
  left.createdAt < right.createdAt
    ∨ left.createdAt = right.createdAt ∧ left.ticketId ≤ right.ticketId

instance : DecidableRel byCreation := fun left right =>
  inferInstanceAs (Decidable (left.createdAt ≤ right.createdAt))

instance : DecidableRel byCreationAndId := fun left right =>
  inferInstanceAs (Decidable (left.createdAt < right.createdAt
    ∨ left.createdAt = right.createdAt ∧ left.ticketId ≤ right.ticketId))

/-- `if status is not None: q = q.filter(status == status.value)`. -/
def hasStatus (status : Option TicketStatus) (row : TicketRow) : Bool :=
  status.all (fun wanted => row.status = wanted)

/-- The filters of `_list_tickets_sync`. -/
def tenantRows (table : TicketTable) (tenantId : String) (status : Option TicketStatus)
    : List TicketRow :=
  table.rows.filter (fun row => row.tenantId = tenantId && hasStatus status row)

/-- `_list_tickets_sync`. -/
def listTickets {table : TicketTable} {tenantId : String} {status : Option TicketStatus}
    (result : Served byCreation (tenantRows table tenantId status)) (page pageSize : ℕ)
    : TicketListResponse :=
  { tickets := offsetPage result.list page pageSize
    total := (tenantRows table tenantId status).length
    page, pageSize }

/-- `scopes`, narrowed; none where the answer is empty without a query. -/
def queryScopes (tenantIds : List String) (tenantFilter : Option String) : List String :=
  match tenantFilter with
  | none => tenantIds
  | some tenant => if tenant ∈ tenantIds then [tenant] else []

/-- The filters of `_list_tickets_for_scopes_sync`. -/
def scopeRows (table : TicketTable) (scopes : List String) (status : Option TicketStatus)
    : List TicketRow :=
  table.rows.filter (fun row => row.tenantId ∈ scopes && hasStatus status row)

/-- `_list_tickets_for_scopes_sync`. -/
def listTicketsForScopes {table : TicketTable} {tenantIds : List String}
    {tenantFilter : Option String} {status : Option TicketStatus}
    (result : Served byCreationAndId
      (scopeRows table (queryScopes tenantIds tenantFilter) status))
    (page pageSize : ℕ)
    : TicketListResponse :=
  if queryScopes tenantIds tenantFilter = [] then
    { tickets := [], total := 0, page, pageSize }
  else
    { tickets := offsetPage result.list page pageSize
      total := (scopeRows table (queryScopes tenantIds tenantFilter) status).length
      page, pageSize }

end RomaBridge.Model.Support
