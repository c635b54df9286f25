import RomaBridge.Foundation.StableSort
import RomaBridge.Model.SupportTickets

/-! The graph of ticket statuses under concurrent writers, and the lists of tickets page by page. The
UPDATE of an assignment or a transition checks again the status that was read; the flush of a message
does not, so it follows the graph as long as the ticket was not resolved or closed in between. A
tenant's list is ordered by the time of creation alone.
-/

namespace RomaBridge.Properties

open RomaBridge.Foundation RomaBridge.Model.Support

variable {newStatus : TicketStatus} {assignee : Option String}

/-- The status stays, or moves along an edge of the graph. -/
def FollowsEdge (old new : TicketStatus) : Prop := new = old ∨ new ∈ validStatusTransitions old

def StatusesFollow (before after : Tickets) : Prop :=
  ∀ ticketId row next, before ticketId = some row → after ticketId = some next →
    FollowsEdge row.status next.status

/-- An agent's transition found a ticket that is assigned to the agent, an agent's assignment made
it so, and the tenant of the ticket is in the agent's scopes.
-/
def AgentActs (before after : Tickets) : Pending → Prop
  | .transitionAssigned _ update actorId tenantScopes _ =>
      ∃ row, before update.ticketId = some row ∧ row.assignedAgentId = some actorId
        ∧ row.tenantId ∈ tenantScopes
  | .assignSelf update actorId tenantScopes _ =>
      ∃ row next, before update.ticketId = some row ∧ after update.ticketId = some next
        ∧ next.assignedAgentId = some actorId ∧ row.tenantId ∈ tenantScopes
  | _ => True

/-- A step changes statuses along edges only, and applies what an agent writes only in the agent's
scopes and on the agent's tickets.
-/
def FollowsGraph (visit : Visit TicketRun TicketCall TicketReply) : Prop :=
  StatusesFollow visit.before.tickets visit.after.tickets
  ∧ ∀ session now pending, visit.call = .commit session now →
      visit.before.sessions session = some pending → visit.reply = .applied →
      AgentActs visit.before.tickets visit.after.tickets pending

/-- A message that reopens its ticket finds it neither resolved nor closed. -/
def FlushFits (run : TicketRun) : TicketCall → Prop
  | .read _ _ => True
  | .commit session _ =>
      ∀ ticketId row, run.sessions session = some (.flush ticketId true) →
        run.tickets ticketId = some row → row.status ≠ .resolved ∧ row.status ≠ .closed

variable {tickets : Tickets} {ticketId : String} {row next : SupportTicket}

theorem statusesFollow_refl : StatusesFollow tickets tickets := by
  intro ticketId row next before after
  rw [before] at after
  cases after
  exact .inl rfl

theorem statusesFollow_update_iff (found : tickets ticketId = some row)
    : StatusesFollow tickets (Function.update tickets ticketId (some next))
      ↔ FollowsEdge row.status next.status := by
  constructor
  · intro follow
    exact follow ticketId row next found (Function.update_self _ _ _)
  · intro edge other old new before after
    by_cases same : other = ticketId
    · subst same
      rw [found] at before
      rw [Function.update_self] at after
      cases before
      cases after
      exact edge
    · rw [Function.update_of_ne same] at after
      exact statusesFollow_refl other old new before after

theorem StatusUpdate.matched_spec {update : StatusUpdate newStatus}
    (matched : update.matched tickets assignee = some row)
    : tickets update.ticketId = some row ∧ row.tenantId = update.tenantId
      ∧ row.status = update.current
      ∧ (assignee = none ∨ row.assignedAgentId = assignee) := by
  obtain ⟨found, agrees⟩ := Option.filter_eq_some_iff.mp matched
  simp only [Bool.and_eq_true, beq_iff_eq, Bool.or_eq_true, Option.isNone_iff_eq_none] at agrees
  exact ⟨found, agrees.1.1, agrees.1.2, agrees.2⟩

theorem followsEdge_of_matched {update : StatusUpdate newStatus}
    (matched : update.matched tickets assignee = some row)
    : FollowsEdge row.status newStatus := by
  obtain ⟨_, _, status, _⟩ := StatusUpdate.matched_spec matched
  rw [status]
  exact update.valid

theorem followsEdge_flushed_iff (statusChanged : Bool) (now : ℕ)
    : FollowsEdge row.status (row.flushed statusChanged now).status
      ↔ (statusChanged = true → row.status ≠ .resolved ∧ row.status ≠ .closed) := by
  unfold FollowsEdge SupportTicket.flushed
  cases statusChanged with
  | false => simp
  | true => cases row.status <;> simp [validStatusTransitions]

def FlushKeeps (tickets : Tickets) : Pending → Prop
  | .flush ticketId statusChanged =>
      ∀ row, tickets ticketId = some row →
        statusChanged = true → row.status ≠ .resolved ∧ row.status ≠ .closed
  | _ => True

theorem flush_follows_iff (ticketId : String) (statusChanged : Bool) (now : ℕ)
    : StatusesFollow tickets ((Pending.flush ticketId statusChanged).commit tickets now).2
      ↔ FlushKeeps tickets (.flush ticketId statusChanged) := by
  simp only [Pending.commit, FlushKeeps]
  cases found : tickets ticketId with
  | none => exact iff_of_true statusesFollow_refl (by simp)
  | some row =>
      simp only [Option.some.injEq, forall_eq']
      rw [statusesFollow_update_iff found]
      exact followsEdge_flushed_iff statusChanged now

theorem statusesFollow_of_matched {update : StatusUpdate newStatus}
    (matched : update.matched tickets assignee = some row) (written : next.status = newStatus)
    : StatusesFollow tickets (Function.update tickets update.ticketId (some next)) := by
  rw [statusesFollow_update_iff (StatusUpdate.matched_spec matched).1, written]
  exact followsEdge_of_matched matched

theorem commit_follows_iff (pending : Pending) (now : ℕ)
    : StatusesFollow tickets (pending.commit tickets now).2 ↔ FlushKeeps tickets pending := by
  cases pending with
  | flush ticketId statusChanged => exact flush_follows_iff ticketId statusChanged now
  | assign update agentId =>
      refine iff_of_true ?_ trivial
      simp only [Pending.commit]
      cases matched : update.matched tickets none with
      | none => exact statusesFollow_refl
      | some row => exact statusesFollow_of_matched matched rfl
  | assignSelf update actorId tenantScopes inScope =>
      refine iff_of_true ?_ trivial
      simp only [Pending.commit]
      cases matched : update.matched tickets none with
      | none => exact statusesFollow_refl
      | some row => exact statusesFollow_of_matched matched rfl
  | transition newStatus update =>
      refine iff_of_true ?_ trivial
      simp only [Pending.commit]
      cases matched : update.matched tickets none with
      | none => exact statusesFollow_refl
      | some row => exact statusesFollow_of_matched matched rfl
  | transitionAssigned newStatus update actorId tenantScopes inScope =>
      refine iff_of_true ?_ trivial
      simp only [Pending.commit]
      cases matched : update.matched tickets (some actorId) with
      | none => exact statusesFollow_refl
      | some row => exact statusesFollow_of_matched matched rfl

theorem agentActs_of_applied (pending : Pending) (now : ℕ)
    (applied : (pending.commit tickets now).1 = .applied)
    : AgentActs tickets (pending.commit tickets now).2 pending := by
  cases pending with
  | flush ticketId statusChanged => trivial
  | assign update agentId => trivial
  | transition newStatus update => trivial
  | assignSelf update actorId tenantScopes inScope =>
      simp only [Pending.commit] at applied ⊢
      cases matched : update.matched tickets none with
      | none => simp [matched] at applied
      | some row =>
          obtain ⟨found, tenant, _⟩ := StatusUpdate.matched_spec matched
          refine ⟨row, row.assigned actorId now, found, Function.update_self _ _ _, rfl, ?_⟩
          rw [tenant]
          exact inScope
  | transitionAssigned newStatus update actorId tenantScopes inScope =>
      simp only [Pending.commit] at applied
      cases matched : update.matched tickets (some actorId) with
      | none => simp [matched] at applied
      | some row =>
          obtain ⟨found, tenant, _, assignee⟩ := StatusUpdate.matched_spec matched
          refine ⟨row, found, assignee.resolve_left (by simp), ?_⟩
          rw [tenant]
          exact inScope

theorem followsGraph_step_iff (run : TicketRun) (call : TicketCall)
    : FollowsGraph ⟨run, call, (ticketStep run call).1, (ticketStep run call).2⟩
      ↔ FlushFits run call := by
  cases call with
  | read session request =>
      refine iff_of_true ⟨?_, by simp⟩ trivial
      simp only [ticketStep]
      cases prepare run.tickets request with
      | error error => exact statusesFollow_refl
      | ok pending => exact statusesFollow_refl
  | commit session now =>
      simp only [FollowsGraph, FlushFits, ticketStep]
      cases loaded : run.sessions session with
      | none => simp [statusesFollow_refl]
      | some pending =>
          have agents : ∀ other time current, TicketCall.commit session now = .commit other time →
              run.sessions other = some current → (pending.commit run.tickets now).1 = .applied →
              AgentActs run.tickets (pending.commit run.tickets now).2 current := by
            intro other time current same found applied
            cases same
            rw [loaded] at found
            cases found
            exact agentActs_of_applied pending now applied
          rw [and_iff_left agents, commit_follows_iff]
          cases pending with
          | flush ticketId statusChanged =>
              constructor
              · intro keeps other row same found
                cases same
                exact keeps row found rfl
              · intro fits row found changed
                subst changed
                exact fits ticketId row rfl found
          | assign update agentId => simp [FlushKeeps]
          | assignSelf update actorId tenantScopes inScope => simp [FlushKeeps]
          | transition newStatus update => simp [FlushKeeps]
          | transitionAssigned newStatus update actorId tenantScopes inScope => simp [FlushKeeps]

/-- In every interleaving of the five writers all changes of status are edges of the graph, and
agents act in their scopes and on their tickets, exactly when every message that reopens its ticket
finds it neither resolved nor closed.
-/
theorem ticket_status_graph_iff (run : TicketRun) (calls : List TicketCall)
    : (∀ visit ∈ visits ticketStep run calls, FollowsGraph visit)
      ↔ ∀ visit ∈ visits ticketStep run calls, FlushFits visit.before visit.call := by
  refine forall₂_congr ?_
  intro visit visited
  have stepped := step_of_mem_visits visited
  rw [← followsGraph_step_iff, stepped]

def waitingTicket : SupportTicket := ⟨"tenant-1", .waitingCustomer, some "agent-1", 0, none⟩

def messageAroundClose : List TicketCall :=
  [.read 1 (.addMessage "ticket-1" "tenant-1"),
    .read 2 (.transitionStatusAsAssignee "ticket-1" .closed "agent-1" ["tenant-1"]),
    .commit 2 1]

def waitingRun : TicketRun :=
  ⟨Function.update (fun _ => none) "ticket-1" (some waitingTicket), fun _ => none⟩

/-- A message that read a waiting ticket reopens it after it was closed. -/
theorem message_reopens_closed_ticket
    : ((finalState ticketStep waitingRun messageAroundClose).tickets "ticket-1").map (·.status)
        = some .closed
      ∧ ((finalState ticketStep waitingRun (messageAroundClose ++ [.commit 1 2])).tickets
          "ticket-1").map (·.status) = some .inProgress
      ∧ ¬ ∀ visit ∈ visits ticketStep waitingRun (messageAroundClose ++ [.commit 1 2]),
          FollowsGraph visit := by
  refine ⟨by decide, by decide, ?_⟩
  intro follow
  rw [visits_append, List.forall_mem_append] at follow
  obtain ⟨_, last⟩ := follow
  simp only [visits, List.forall_mem_singleton] at last
  have edge := last.1 "ticket-1" ⟨"tenant-1", .closed, some "agent-1", 1, none⟩
    ⟨"tenant-1", .inProgress, some "agent-1", 2, none⟩ (by decide) (by decide)
  exact absurd edge (by unfold FollowsEdge; decide)

variable {table : TicketTable} {tenantId : String} {tenantIds : List String}
  {tenantFilter : Option String} {status : Option TicketStatus} {pageSize : ℕ}

/-- The pages of a list from the first to the last, joined. -/
def allPages (list : ℕ → TicketListResponse) (pageSize : ℕ) : List TicketRow :=
  (List.range (pageCount (list 1).total pageSize)).flatMap (fun index => (list (index + 1)).tickets)

def OfTenant (tenantId : String) (status : Option TicketStatus) (row : TicketRow) : Prop :=
  row.tenantId = tenantId ∧ ∀ wanted, status = some wanted → row.status = wanted

def OfScopes (tenantIds : List String) (tenantFilter : Option String)
    (status : Option TicketStatus) (row : TicketRow) : Prop :=
  row.tenantId ∈ tenantIds ∧ (∀ tenant, tenantFilter = some tenant → row.tenantId = tenant)
    ∧ ∀ wanted, status = some wanted → row.status = wanted

def OnceEach (pages : List TicketRow) (table : TicketTable) (kind : TicketRow → Prop) : Prop :=
  pages.Nodup ∧ ∀ row, row ∈ pages ↔ row ∈ table.rows ∧ kind row

/-- Whatever the database answers to the query of each page, both lists have every ticket once. -/
structure PagesComplete (table : TicketTable) (tenantId : String) (tenantIds : List String)
    (tenantFilter : Option String) (status : Option TicketStatus) (pageSize : ℕ) : Prop where
  tenant : ∀ result : ℕ → Served byCreation (tenantRows table tenantId status),
    OnceEach (allPages (fun page => listTickets (result page) page pageSize) pageSize) table
      (OfTenant tenantId status)
  agent : ∀ result : ℕ → Served byCreationAndId
      (scopeRows table (queryScopes tenantIds tenantFilter) status),
    OnceEach (allPages (fun page => listTicketsForScopes (result page) page pageSize) pageSize)
      table (OfScopes tenantIds tenantFilter status)

-- The rows of the queries

instance : Std.Total byCreation := ⟨fun _ _ => Int.le_total _ _⟩

instance : IsTrans TicketRow byCreation := ⟨fun _ _ _ => Int.le_trans⟩

instance : Std.Total byCreationAndId where
  total left right := by
    unfold byCreationAndId
    omega

instance : IsTrans TicketRow byCreationAndId where
  trans first second third := by
    unfold byCreationAndId
    omega

theorem hasStatus_iff {row : TicketRow}
    : hasStatus status row = true ↔ ∀ wanted, status = some wanted → row.status = wanted := by
  cases status <;> simp [hasStatus]

theorem mem_tenantRows {row : TicketRow}
    : row ∈ tenantRows table tenantId status ↔ row ∈ table.rows ∧ OfTenant tenantId status row := by
  simp [tenantRows, OfTenant, hasStatus_iff]

theorem mem_queryScopes {tenant : String}
    : tenant ∈ queryScopes tenantIds tenantFilter
      ↔ tenant ∈ tenantIds ∧ ∀ wanted, tenantFilter = some wanted → tenant = wanted := by
  cases tenantFilter with
  | none => simp [queryScopes]
  | some wanted =>
      simp only [queryScopes, Option.some.injEq, forall_eq']
      by_cases member : wanted ∈ tenantIds
      · rw [if_pos member, List.mem_singleton]
        exact ⟨fun same => ⟨same ▸ member, same⟩, fun both => both.2⟩
      · rw [if_neg member]
        exact ⟨fun absent => absurd absent List.not_mem_nil,
          fun ⟨given, same⟩ => absurd (same ▸ given) member⟩

theorem mem_scopeRows {row : TicketRow}
    : row ∈ scopeRows table (queryScopes tenantIds tenantFilter) status
      ↔ row ∈ table.rows ∧ OfScopes tenantIds tenantFilter status row := by
  simp [scopeRows, OfScopes, hasStatus_iff, mem_queryScopes, and_assoc]

theorem nodup_rows (table : TicketTable) : table.rows.Nodup := List.Nodup.of_map _ table.unique

theorem onceEach_iff {pages rows : List TicketRow} {kind : TicketRow → Prop} (distinct : rows.Nodup)
    (matching : ∀ row, row ∈ rows ↔ row ∈ table.rows ∧ kind row)
    : OnceEach pages table kind ↔ pages.Perm rows := by
  simp only [OnceEach, ← matching]
  constructor
  · exact fun once => (List.perm_ext_iff_of_nodup once.1 distinct).mpr once.2
  · exact fun same => ⟨same.nodup_iff.mpr distinct, fun _ => same.mem_iff⟩

-- The pages

theorem byCreationAndId_apart {left right : TicketRow} (member : left ∈ table.rows)
    (member' : right ∈ table.rows) (below : byCreationAndId left right)
    (above : byCreationAndId right left) : left = right := by
  refine Table.eq_of_key member member' ?_
  unfold byCreationAndId at below above
  omega

theorem agent_pages_complete (positive : 0 < pageSize)
    (result : ℕ → Served byCreationAndId
      (scopeRows table (queryScopes tenantIds tenantFilter) status))
    : OnceEach (allPages (fun page => listTicketsForScopes (result page) page pageSize) pageSize)
        table (OfScopes tenantIds tenantFilter status) := by
  have distinct : (scopeRows table (queryScopes tenantIds tenantFilter) status).Nodup :=
    (nodup_rows table).filter _
  rw [onceEach_iff distinct (fun _ => mem_scopeRows)]
  by_cases none_ : queryScopes tenantIds tenantFilter = []
  · have empty : scopeRows table (queryScopes tenantIds tenantFilter) status = [] := by
      simp [scopeRows, none_]
    rw [empty]
    simp [allPages, listTicketsForScopes, none_]
  · have separated := separatedCuts_of_apart (result 1) distinct positive
      (fun left member right member' => byCreationAndId_apart (mem_scopeRows.mp member).1
        (mem_scopeRows.mp member').1)
    simp only [allPages, listTicketsForScopes, if_neg none_]
    exact (joinedPages_perm_iff (result 1) distinct positive).mpr separated result

def storedOrder (rows : List TicketRow) : Served byCreation rows where
  list := rows.insertionSort byCreation
  perm := List.perm_insertionSort byCreation rows
  ordered := List.pairwise_insertionSort byCreation rows

theorem tenant_pages_complete_iff (positive : 0 < pageSize)
    : (∀ result : ℕ → Served byCreation (tenantRows table tenantId status),
        OnceEach (allPages (fun page => listTickets (result page) page pageSize) pageSize) table
          (OfTenant tenantId status))
      ↔ SeparatedCuts byCreation pageSize
          ((tenantRows table tenantId status).insertionSort byCreation) := by
  have distinct : (tenantRows table tenantId status).Nodup := (nodup_rows table).filter _
  simp only [onceEach_iff distinct (fun _ => mem_tenantRows)]
  exact joinedPages_perm_iff (storedOrder _) distinct positive

/-- For every ticket table, tenant, scopes, filters and page size, both lists page without loss or
repetition exactly if the pages of the tenant's list, in the order of creation, are cut between tickets of
different times.
-/
theorem ticket_pages_iff (table : TicketTable) (tenantId : String) (tenantIds : List String)
    (tenantFilter : Option String) (status : Option TicketStatus) (pageSize : ℕ)
    (positive : 0 < pageSize)
    : PagesComplete table tenantId tenantIds tenantFilter status pageSize
      ↔ SeparatedCuts byCreation pageSize
          ((tenantRows table tenantId status).insertionSort byCreation) := by
  rw [← tenant_pages_complete_iff positive]
  exact ⟨fun complete => complete.tenant, fun tenant => ⟨tenant, agent_pages_complete positive⟩⟩

def twoTickets (second : ℤ) : TicketTable where
  rows := [⟨1, "tenant-acme", .open_, 0⟩, ⟨2, "tenant-acme", .open_, second⟩]
  unique := by simp

/-- Tickets of different times, one on a page. -/
theorem pages_of_two_times
    : PagesComplete (twoTickets 1) "tenant-acme" ["tenant-acme"] none none 1 := by
  refine (ticket_pages_iff _ _ _ _ _ 1 Nat.one_pos).mpr ?_
  intro count left right found found'
  cases count with
  | zero =>
      cases found
      cases found'
      decide
  | succ count =>
      have length : ((tenantRows (twoTickets 1) "tenant-acme" none).insertionSort
          byCreation).length = 2 := by decide
      obtain ⟨bound, _⟩ := List.getElem?_eq_some_iff.mp found'
      omega

/-- Of two tickets of one time, one on a page, the first can come on both. -/
theorem pages_of_one_time
    : ¬ PagesComplete (twoTickets 0) "tenant-acme" ["tenant-acme"] none none 1 := by
  intro complete
  have separated := (tenant_pages_complete_iff Nat.one_pos).mp complete.tenant
  refine separated 0 ⟨1, "tenant-acme", .open_, 0⟩ ⟨2, "tenant-acme", .open_, 0⟩ ?_ ?_ ?_
  · decide
  · decide
  · decide

end RomaBridge.Properties
