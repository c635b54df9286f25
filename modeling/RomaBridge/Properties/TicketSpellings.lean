import RomaBridge.Model.TicketDetails

/-! What a ticket's detail shows under the spellings of its id. Messages and attachments are kept under the
canonical spelling, agents and ratings under that of the call, and all is read under that of the reader.
-/

namespace RomaBridge.Properties

open RomaBridge.Foundation RomaBridge.Model RomaBridge.Model.TicketDetails

/-- Something that a call adds to a ticket, with the key it is kept under where the path tells that. -/
inductive Addition where
  | message (message : ChatMessage)
  | participant (key : String) (participant : ChatParticipant)
  | attachment (attachment : TicketAttachment)
  | rating (key : String) (rating : CsatRating)

def Addition.ticketId : Addition → Uuid
  | .message sent => sent.ticketId
  | .participant _ joined => joined.ticketId
  | .attachment file => file.ticketId
  | .rating _ given => given.ticketId

def assignmentAdditions (path : String) (ticketId : Uuid) (ticket : TicketRecord) (agentId : String)
    : List Addition :=
  if ticket.status ≠ .inProgress
      ∧ .inProgress ∉ Support.validStatusTransitions ticket.status then
    []
  else
    [.participant path ⟨ticketId, agentId, .supportAgent, ticket.tenantId⟩,
      .message (SupportService.systemMessage ticketId ("Agent " ++ agentId ++ " assigned"))]

def additionsOf (service : SupportService) : ServiceCall → List Addition
  | .createTicket ticketId body tenant =>
      match service.tickets ticketId with
      | some _ => []
      | none =>
          .participant ticketId.str ⟨ticketId, tenant.actorId, .tenantUser, tenant.tenantId⟩
            :: (if body = "" then []
              else [.message (SupportService.tenantMessage ticketId body [] tenant)])
            ++ [.message (SupportService.systemMessage ticketId
              ("Ticket created by " ++ tenant.actorId))]
  | .addMessage path body attachmentIds tenant =>
      match service.ticketOf path tenant.tenantId with
      | none => []
      | some (ticketId, ticket) =>
          (if ticket.status = .waitingCustomer then [.message (SupportService.systemMessage ticketId
            "Customer replied — status → in_progress")] else [])
            ++ [.message (SupportService.tenantMessage ticketId body attachmentIds tenant)]
  | .assignAgent path agentId tenant =>
      match service.ticketOf path tenant.tenantId with
      | none => []
      | some (ticketId, ticket) => assignmentAdditions path ticketId ticket agentId
  | .assignAgentToSelf path actorId tenantScopes =>
      match service.ticketOfScopes path tenantScopes with
      | none => []
      | some (ticketId, ticket) => assignmentAdditions path ticketId ticket actorId
  | .submitCsat path score comment tenant =>
      match service.ticketOf path tenant.tenantId with
      | none => []
      | some (ticketId, _) =>
          [.rating path ⟨ticketId, tenant.tenantId, score, comment, tenant.actorId⟩,
            .message (SupportService.systemMessage ticketId ("CSAT: " ++ toString score ++ "/5"))]
  | .addAttachment attachment => [.attachment attachment]

def addedBy (service : SupportService) (calls : List ServiceCall) : List Addition :=
  (visits SupportService.step service calls).flatMap
    (fun visit => additionsOf visit.before visit.call)

section Parts

variable (added : List Addition) (ticketId : Uuid)

def messagesOf : List ChatMessage :=
  added.filterMap fun
    | .message sent => if sent.ticketId = ticketId then some sent else none
    | _ => none

def participantsOf : List (String × ChatParticipant) :=
  added.filterMap fun
    | .participant key joined => if joined.ticketId = ticketId then some (key, joined) else none
    | _ => none

def attachmentsOf : List TicketAttachment :=
  added.filterMap fun
    | .attachment file => if file.ticketId = ticketId then some file else none
    | _ => none

def ratingsOf : List (String × CsatRating) :=
  added.filterMap fun
    | .rating key given => if given.ticketId = ticketId then some (key, given) else none
    | _ => none

def lastRatingUnder (key : String) : Option CsatRating :=
  (((ratingsOf added ticketId).filter (fun rating => rating.1 = key)).map Prod.snd).getLast?

def wholeDetail (ticket : TicketRecord) : TicketDetail :=
  { ticket
    messages := messagesOf added ticketId
    participants := (participantsOf added ticketId).map Prod.snd
    attachments := attachmentsOf added ticketId
    csat := ((ratingsOf added ticketId).map Prod.snd).getLast? }

/-- Under a path, whoever may see the ticket sees everything that was added to it. -/
structure ShowsEverything (service : SupportService) (path : String) : Prop where
  tenant : ∀ tenant, service.getTicketDetail path tenant
    = (service.tickets ticketId).bind (fun ticket =>
        if ticket.tenantId = tenant.tenantId then some (wholeDetail added ticketId ticket) else none)
  agent : ∀ tenantScopes, service.agentGetTicketDetail path tenantScopes
    = (service.tickets ticketId).bind (fun ticket =>
        if ticket.tenantId ∈ tenantScopes then some (wholeDetail added ticketId ticket) else none)

def NothingAdded : Prop := ∀ addition ∈ added, addition.ticketId ≠ ticketId

/-- The agents were assigned under the canonical spelling, the last rating was given under it, and there
are at most 100 messages.
-/
structure CanonicalOnly : Prop where
  participants : ∀ entry ∈ participantsOf added ticketId, entry.1 = ticketId.str
  rating : lastRatingUnder added ticketId ticketId.str
    = ((ratingsOf added ticketId).map Prod.snd).getLast?
  messages : (messagesOf added ticketId).length ≤ 100

end Parts

-- What the dictionaries hold

def keep (service : SupportService) : Addition → SupportService
  | .message sent => service.chatMessage sent
  | .participant key joined => service.addParticipant key joined
  | .attachment file => service.addAttachment file
  | .rating key given => { service with csat := Function.update service.csat key (some given) }

theorem keep_tickets (tickets : Uuid → Option TicketRecord) (addition : Addition)
    (service : SupportService)
    : keep { service with tickets } addition = { keep service addition with tickets } := by
  cases addition with
  | message sent => simp only [keep, SupportService.chatMessage]
  | participant key joined => simp only [keep, SupportService.addParticipant]
  | attachment file => simp only [keep, SupportService.addAttachment]
  | rating key given => simp only [keep]

theorem foldl_keep_tickets (tickets : Uuid → Option TicketRecord) (added : List Addition)
    (service : SupportService)
    : added.foldl keep { service with tickets } = { added.foldl keep service with tickets } := by
  induction added generalizing service with
  | nil => rfl
  | cons addition rest ih =>
      rw [List.foldl_cons, List.foldl_cons, keep_tickets, ih]

theorem assignTo_keeps (service : SupportService) (path : String) (ticketId : Uuid)
    (ticket : TicketRecord) (agentId : String) {next : SupportService}
    (assigned : service.assignTo path ticketId ticket agentId = .ok next)
    : next = (assignmentAdditions path ticketId ticket agentId).foldl keep
        { service with tickets := next.tickets } := by
  unfold SupportService.assignTo at assigned
  split at assigned
  · cases assigned
  · rename_i admitted
    simp only [assignmentAdditions, if_neg admitted, List.foldl_cons, List.foldl_nil, keep]
    cases assigned
    simp only [SupportService.chatMessage, SupportService.addParticipant,
      SupportService.writeTicket]

theorem assignTo_refused {service : SupportService} {path : String} {ticketId : Uuid}
    {ticket : TicketRecord} {agentId : String} {error : ServiceError}
    (refused : service.assignTo path ticketId ticket agentId = .error error)
    : assignmentAdditions path ticketId ticket agentId = [] := by
  unfold SupportService.assignTo at refused
  split at refused
  · rename_i conflict
    exact if_pos conflict
  · cases refused

theorem call_keeps (service : SupportService) {call : ServiceCall} {next : SupportService}
    (called : service.call call = .ok next)
    : next = (additionsOf service call).foldl keep { service with tickets := next.tickets } := by
  cases call with
  | createTicket ticketId body tenant =>
      simp only [SupportService.call, SupportService.createTicket] at called
      cases found : service.tickets ticketId with
      | some ticket => simp [found] at called
      | none =>
          simp only [found, Except.ok.injEq] at called
          subst called
          simp only [additionsOf, found]
          by_cases empty : body = ""
          · simp only [if_pos empty, List.cons_append, List.nil_append, List.foldl_cons,
              List.foldl_nil, keep, SupportService.chatMessage, SupportService.addParticipant,
              SupportService.writeTicket]
          · simp only [if_neg empty, List.cons_append, List.nil_append, List.foldl_cons,
              List.foldl_nil, keep, SupportService.chatMessage, SupportService.addParticipant,
              SupportService.writeTicket]
  | addMessage path body attachmentIds tenant =>
      simp only [SupportService.call, SupportService.addMessage] at called
      cases found : service.ticketOf path tenant.tenantId with
      | none => simp [found] at called
      | some entry =>
          simp only [found] at called
          simp only [additionsOf, found]
          split at called
          · rename_i waiting
            simp only [Except.ok.injEq] at called
            subst called
            simp only [if_pos waiting, List.cons_append, List.nil_append, List.foldl_cons,
              List.foldl_nil, keep, SupportService.chatMessage, SupportService.writeTicket]
          · rename_i other
            simp only [Except.ok.injEq] at called
            subst called
            simp only [if_neg other, List.nil_append, List.foldl_cons,
              List.foldl_nil, keep, SupportService.chatMessage]
  | assignAgent path agentId tenant =>
      simp only [SupportService.call, SupportService.assignAgent] at called
      cases found : service.ticketOf path tenant.tenantId with
      | none => simp [found] at called
      | some entry =>
          simp only [found] at called
          simp only [additionsOf, found]
          exact assignTo_keeps service path _ _ agentId called
  | assignAgentToSelf path actorId tenantScopes =>
      simp only [SupportService.call, SupportService.assignAgentToSelf] at called
      cases found : service.ticketOfScopes path tenantScopes with
      | none => simp [found] at called
      | some entry =>
          simp only [found] at called
          simp only [additionsOf, found]
          exact assignTo_keeps service path _ _ actorId called
  | submitCsat path score comment tenant =>
      simp only [SupportService.call, SupportService.submitCsat] at called
      cases found : service.ticketOf path tenant.tenantId with
      | none => simp [found] at called
      | some entry =>
          simp only [found, Except.ok.injEq] at called
          subst called
          simp only [additionsOf, found, List.foldl_cons, List.foldl_nil, keep,
            SupportService.chatMessage]
  | addAttachment attachment =>
      simp only [SupportService.call, Except.ok.injEq] at called
      subst called
      simp only [additionsOf, List.foldl_cons, List.foldl_nil, keep, SupportService.addAttachment]

theorem call_refused {service : SupportService} {call : ServiceCall} {error : ServiceError}
    (refused : service.call call = .error error)
    : additionsOf service call = [] := by
  cases call with
  | createTicket ticketId body tenant =>
      simp only [SupportService.call, SupportService.createTicket] at refused
      cases found : service.tickets ticketId with
      | some ticket => simp only [additionsOf, found]
      | none => simp [found] at refused
  | addMessage path body attachmentIds tenant =>
      simp only [SupportService.call, SupportService.addMessage] at refused
      cases found : service.ticketOf path tenant.tenantId with
      | none => simp only [additionsOf, found]
      | some entry =>
          simp only [found] at refused
          split at refused <;> cases refused
  | assignAgent path agentId tenant =>
      simp only [SupportService.call, SupportService.assignAgent] at refused
      cases found : service.ticketOf path tenant.tenantId with
      | none => simp only [additionsOf, found]
      | some entry =>
          simp only [found] at refused
          simp only [additionsOf, found]
          exact assignTo_refused refused
  | assignAgentToSelf path actorId tenantScopes =>
      simp only [SupportService.call, SupportService.assignAgentToSelf] at refused
      cases found : service.ticketOfScopes path tenantScopes with
      | none => simp only [additionsOf, found]
      | some entry =>
          simp only [found] at refused
          simp only [additionsOf, found]
          exact assignTo_refused refused
  | submitCsat path score comment tenant =>
      simp only [SupportService.call, SupportService.submitCsat] at refused
      cases found : service.ticketOf path tenant.tenantId with
      | none => simp only [additionsOf, found]
      | some entry => simp [found] at refused
  | addAttachment attachment => cases refused

theorem step_keeps (service : SupportService) (call : ServiceCall)
    : (service.step call).2 = { (additionsOf service call).foldl keep service with
        tickets := (service.step call).2.tickets } := by
  unfold SupportService.step
  cases called : service.call call with
  | error error => simp only [call_refused called, List.foldl_nil]
  | ok next =>
      have kept := call_keeps service called
      rw [foldl_keep_tickets] at kept
      exact kept

theorem finalState_keeps (service : SupportService) (calls : List ServiceCall)
    : finalState SupportService.step service calls
      = { (addedBy service calls).foldl keep service with
          tickets := (finalState SupportService.step service calls).tickets } := by
  induction calls generalizing service with
  | nil => rfl
  | cons call rest ih =>
      have overwritten : ∀ (added : List Addition) (next kept : SupportService) tickets,
          next = { kept with tickets } →
          added.foldl keep next = { added.foldl keep kept with tickets } := by
        rintro added _ kept tickets rfl
        exact foldl_keep_tickets tickets added kept
      have later := ih (service.step call).2
      rw [overwritten _ _ _ _ (step_keeps service call)] at later
      have added : addedBy service (call :: rest)
          = additionsOf service call ++ addedBy (service.step call).2 rest := by
        simp only [addedBy, visits, List.flatMap_cons]
      rw [added, List.foldl_append]
      exact later

-- What a path finds

/-- What is kept of a service that starts with a table and nothing else. -/
structure KeptBy (service : SupportService) (added : List Addition) : Prop where
  messages : ∀ key, service.messages key = added.filterMap fun
    | .message sent => if sent.ticketId.str = key then some sent else none
    | _ => none
  participants : ∀ key, service.participants key = added.filterMap fun
    | .participant name joined => if name = key then some joined else none
    | _ => none
  attachments : ∀ key, service.attachments key = added.filterMap fun
    | .attachment file => if file.ticketId.str = key then some file else none
    | _ => none
  csat : ∀ key, service.csat key = (added.filterMap fun
    | .rating name given => if name = key then some given else none
    | _ => none).getLast?

theorem update_append {β : Type} (dictionary : String → List β) (name key : String) (item : β)
    : Function.update dictionary name (dictionary name ++ [item]) key
      = dictionary key ++ if name = key then [item] else [] := by
  by_cases here : name = key
  · subst here
    simp
  · simp [here, Function.update_of_ne (Ne.symm here)]

theorem KeptBy.keep {service : SupportService} {added : List Addition} (kept : KeptBy service added)
    (addition : Addition)
    : KeptBy (keep service addition) (added ++ [addition]) where
  messages := by
    intro key
    rw [List.filterMap_append, ← kept.messages key]
    cases addition with
    | message sent =>
        simp only [Properties.keep, SupportService.chatMessage, update_append]
        by_cases here : sent.ticketId.str = key <;> simp [here]
    | participant name joined => simp [Properties.keep, SupportService.addParticipant]
    | attachment file => simp [Properties.keep, SupportService.addAttachment]
    | rating name given => simp [Properties.keep]
  participants := by
    intro key
    rw [List.filterMap_append, ← kept.participants key]
    cases addition with
    | message sent => simp [Properties.keep, SupportService.chatMessage]
    | participant name joined =>
        simp only [Properties.keep, SupportService.addParticipant, update_append]
        by_cases here : name = key <;> simp [here]
    | attachment file => simp [Properties.keep, SupportService.addAttachment]
    | rating name given => simp [Properties.keep]
  attachments := by
    intro key
    rw [List.filterMap_append, ← kept.attachments key]
    cases addition with
    | message sent => simp [Properties.keep, SupportService.chatMessage]
    | participant name joined => simp [Properties.keep, SupportService.addParticipant]
    | attachment file =>
        simp only [Properties.keep, SupportService.addAttachment, update_append]
        by_cases here : file.ticketId.str = key <;> simp [here]
    | rating name given => simp [Properties.keep]
  csat := by
    intro key
    rw [List.filterMap_append, List.getLast?_append, ← kept.csat key]
    cases addition with
    | message sent => simp [Properties.keep, SupportService.chatMessage]
    | participant name joined => simp [Properties.keep, SupportService.addParticipant]
    | attachment file => simp [Properties.keep, SupportService.addAttachment]
    | rating name given =>
        by_cases here : name = key
        · subst here
          simp [Properties.keep]
        · simp [Properties.keep, here, Function.update_of_ne (Ne.symm here)]

theorem keptBy_foldl (tickets : Uuid → Option TicketRecord) (added : List Addition)
    : KeptBy (added.foldl keep { tickets }) added := by
  induction added using List.reverseRecOn with
  | nil => exact ⟨fun _ => rfl, fun _ => rfl, fun _ => rfl, fun _ => rfl⟩
  | append_singleton added last ih =>
      rw [List.foldl_append]
      exact ih.keep last

theorem keptBy_finalState (tickets : Uuid → Option TicketRecord) (calls : List ServiceCall)
    : KeptBy (finalState SupportService.step { tickets } calls) (addedBy { tickets } calls) := by
  have kept := keptBy_foldl tickets (addedBy { tickets } calls)
  rw [finalState_keeps]
  exact ⟨kept.messages, kept.participants, kept.attachments, kept.csat⟩

-- Which keys belong to a ticket

/-- What holds of an addition among others: a message is no internal note; a key names the ticket, and
with what is kept under it comes a message.
-/
def Announced (added : List Addition) : Addition → Prop
  | .message sent => sent.isInternal = false ∧ sent.messageType ≠ .internalNote
  | .participant key joined =>
      Uuid.ofText key = some joined.ticketId
      ∧ ∃ sent, .message sent ∈ added ∧ sent.ticketId = joined.ticketId
  | .attachment _ => True
  | .rating key given =>
      Uuid.ofText key = some given.ticketId
      ∧ ∃ sent, .message sent ∈ added ∧ sent.ticketId = given.ticketId

theorem Announced.mono {added more : List Addition} {addition : Addition}
    (announced : Announced added addition) (grown : added ⊆ more)
    : Announced more addition := by
  cases addition with
  | message sent => exact announced
  | attachment file => trivial
  | participant key joined =>
      obtain ⟨named, sent, member, same⟩ := announced
      exact ⟨named, sent, grown member, same⟩
  | rating key given =>
      obtain ⟨named, sent, member, same⟩ := announced
      exact ⟨named, sent, grown member, same⟩

variable {service : SupportService} {path : String} {ticketId : Uuid} {ticket : TicketRecord}

theorem ticketWhere_eq_some {visible : String → Bool} {found : Uuid × TicketRecord}
    : service.ticketWhere path visible = some found
      ↔ Uuid.ofText path = some found.1 ∧ service.tickets found.1 = some found.2
        ∧ visible found.2.tenantId = true := by
  obtain ⟨ticketId, ticket⟩ := found
  simp only [SupportService.ticketWhere, Option.bind_eq_some_iff, Option.ite_none_right_eq_some,
    Option.some.injEq, Prod.mk.injEq]
  constructor
  · rintro ⟨_, named, _, stored, seen, rfl, rfl⟩
    exact ⟨named, stored, seen⟩
  · rintro ⟨named, stored, seen⟩
    exact ⟨ticketId, named, ticket, stored, seen, rfl, rfl⟩

theorem announced_assignment {agentId : String} (named : Uuid.ofText path = some ticketId)
    : ∀ addition ∈ assignmentAdditions path ticketId ticket agentId,
        Announced (assignmentAdditions path ticketId ticket agentId) addition := by
  unfold assignmentAdditions
  split
  · simp
  · simp only [List.forall_mem_cons]
    refine ⟨⟨named, _, List.mem_cons_of_mem _ List.mem_cons_self, rfl⟩, ⟨rfl, nofun⟩, by simp⟩

theorem announced_call (service : SupportService) (call : ServiceCall)
    : ∀ addition ∈ additionsOf service call, Announced (additionsOf service call) addition := by
  cases call with
  | createTicket ticketId body tenant =>
      cases found : service.tickets ticketId with
      | some ticket => simp [additionsOf, found]
      | none =>
          simp only [additionsOf, found, List.cons_append, List.forall_mem_cons,
            List.forall_mem_append]
          refine ⟨⟨ticketId.ofText_str, SupportService.systemMessage ticketId
            ("Ticket created by " ++ tenant.actorId), by simp, rfl⟩, ?_, ⟨rfl, nofun⟩, by simp⟩
          split
          · simp
          · exact List.forall_mem_cons.mpr ⟨⟨rfl, nofun⟩, by simp⟩
  | addMessage path body attachmentIds tenant =>
      cases found : service.ticketOf path tenant.tenantId with
      | none => simp [additionsOf, found]
      | some entry =>
          simp only [additionsOf, found, List.forall_mem_append, List.forall_mem_cons]
          refine ⟨?_, ⟨rfl, nofun⟩, by simp⟩
          split
          · exact List.forall_mem_cons.mpr ⟨⟨rfl, nofun⟩, by simp⟩
          · simp
  | assignAgent path agentId tenant =>
      cases found : service.ticketOf path tenant.tenantId with
      | none => simp [additionsOf, found]
      | some entry =>
          simp only [additionsOf, found]
          exact announced_assignment (ticketWhere_eq_some.mp found).1
  | assignAgentToSelf path actorId tenantScopes =>
      cases found : service.ticketOfScopes path tenantScopes with
      | none => simp [additionsOf, found]
      | some entry =>
          simp only [additionsOf, found]
          exact announced_assignment (ticketWhere_eq_some.mp found).1
  | submitCsat path score comment tenant =>
      cases found : service.ticketOf path tenant.tenantId with
      | none => simp [additionsOf, found]
      | some entry =>
          simp only [additionsOf, found, List.forall_mem_cons]
          have named := (ticketWhere_eq_some.mp found).1
          exact ⟨⟨named, _, List.mem_cons_of_mem _ List.mem_cons_self, rfl⟩, ⟨rfl, nofun⟩, by simp⟩
  | addAttachment attachment => simp [additionsOf, Announced]

theorem announced_addedBy (service : SupportService) (calls : List ServiceCall)
    : ∀ addition ∈ addedBy service calls, Announced (addedBy service calls) addition := by
  intro addition member
  obtain ⟨visit, visited, added⟩ := List.mem_flatMap.mp member
  exact (announced_call _ _ addition added).mono
    (fun other given => List.mem_flatMap.mpr ⟨visit, visited, given⟩)

-- What a path shows

variable {added : List Addition}

theorem str_ne_of_other (named : Uuid.ofText path = some ticketId) (other : path ≠ ticketId.str)
    (uuid : Uuid) : uuid.str ≠ path := by
  rintro rfl
  rw [Uuid.ofText_str, Option.some.injEq] at named
  exact other (by rw [named])

theorem KeptBy.messages_eq (kept : KeptBy service added) (named : Uuid.ofText path = some ticketId)
    : service.messages path = if path = ticketId.str then messagesOf added ticketId else [] := by
  rw [kept.messages path]
  split
  · rename_i canonical
    refine List.filterMap_congr ?_
    intro addition _
    cases addition <;> simp [canonical, Uuid.str_injective.eq_iff]
  · rename_i other
    refine List.filterMap_eq_nil_iff.mpr ?_
    intro addition _
    cases addition <;> simp [str_ne_of_other named other]

theorem KeptBy.attachments_eq (kept : KeptBy service added)
    (named : Uuid.ofText path = some ticketId)
    : service.attachments path
      = if path = ticketId.str then attachmentsOf added ticketId else [] := by
  rw [kept.attachments path]
  split
  · rename_i canonical
    refine List.filterMap_congr ?_
    intro addition _
    cases addition <;> simp [canonical, Uuid.str_injective.eq_iff]
  · rename_i other
    refine List.filterMap_eq_nil_iff.mpr ?_
    intro addition _
    cases addition <;> simp [str_ne_of_other named other]

theorem KeptBy.participants_eq (kept : KeptBy service added)
    (announced : ∀ addition ∈ added, Announced added addition)
    (named : Uuid.ofText path = some ticketId)
    : service.participants path
      = ((participantsOf added ticketId).filter (fun entry => entry.1 = path)).map Prod.snd := by
  rw [kept.participants path, participantsOf, List.filter_filterMap, List.map_filterMap]
  refine List.filterMap_congr ?_
  intro addition member
  cases addition with
  | participant key joined =>
      have owner := (announced _ member).1
      by_cases here : key = path
      · subst here
        rw [named, Option.some.injEq] at owner
        simp [owner]
      · by_cases mine : joined.ticketId = ticketId <;> simp [here, mine]
  | _ => simp

theorem KeptBy.csat_eq (kept : KeptBy service added)
    (announced : ∀ addition ∈ added, Announced added addition)
    (named : Uuid.ofText path = some ticketId)
    : service.csat path = lastRatingUnder added ticketId path := by
  rw [kept.csat path, lastRatingUnder, ratingsOf, List.filter_filterMap, List.map_filterMap]
  refine congrArg List.getLast? (List.filterMap_congr ?_)
  intro addition member
  cases addition with
  | rating key given =>
      have owner := (announced _ member).1
      by_cases here : key = path
      · subst here
        rw [named, Option.some.injEq] at owner
        simp [owner]
      · by_cases mine : given.ticketId = ticketId <;> simp [here, mine]
  | _ => simp

theorem messagesOf_visible (announced : ∀ addition ∈ added, Announced added addition)
    : ∀ sent ∈ messagesOf added ticketId,
        (!sent.isInternal && sent.messageType ≠ .internalNote : Bool) = true := by
  intro sent member
  obtain ⟨addition, given, kind⟩ := List.mem_filterMap.mp member
  cases addition with
  | message other =>
      obtain ⟨_, same⟩ := Option.ite_none_right_eq_some.mp kind
      cases same
      obtain ⟨plain, text⟩ := announced _ given
      simp [plain, text]
  | _ => cases kind

theorem getVisibleMessages_eq_iff {messages : List ChatMessage}
    (held : service.messages path = messages)
    (visible : ∀ sent ∈ messages,
      (!sent.isInternal && sent.messageType ≠ .internalNote : Bool) = true)
    : service.getVisibleMessages path = messages ↔ messages.length ≤ 100 := by
  have shown : service.getVisibleMessages path = messages.drop (messages.length - 100) := by
    simp only [SupportService.getVisibleMessages, held]
    exact List.filter_eq_self.mpr (fun sent member => visible sent (List.mem_of_mem_drop member))
  rw [shown]
  constructor
  · intro same
    have lengths := congrArg List.length same
    rw [List.length_drop] at lengths
    omega
  · intro few
    rw [Nat.sub_eq_zero_of_le few, List.drop_zero]

theorem map_filter_eq_iff {β γ : Type} {entries : List β} {kept : β → Bool} {read : β → γ}
    : (entries.filter kept).map read = entries.map read ↔ ∀ entry ∈ entries, kept entry = true := by
  constructor
  · intro same
    have lengths := congrArg List.length same
    rw [List.length_map, List.length_map] at lengths
    exact List.length_filter_eq_length_iff.mp lengths
  · intro all
    rw [List.filter_eq_self.mpr all]

theorem untouched_of_empty (announced : ∀ addition ∈ added, Announced added addition)
    (messages : messagesOf added ticketId = []) (attachments : attachmentsOf added ticketId = [])
    : NothingAdded added ticketId := by
  have silent : ∀ sent, .message sent ∈ added → sent.ticketId ≠ ticketId := by
    intro sent member same
    have absent := List.filterMap_eq_nil_iff.mp messages _ member
    simp [same] at absent
  intro addition member
  cases addition with
  | message sent => exact silent sent member
  | attachment file =>
      intro same
      have absent := List.filterMap_eq_nil_iff.mp attachments _ member
      simp only [Addition.ticketId] at same
      simp [same] at absent
  | participant key joined =>
      obtain ⟨_, sent, given, owner⟩ := announced _ member
      exact fun same => silent sent given (owner.trans same)
  | rating key given =>
      obtain ⟨_, sent, other, owner⟩ := announced _ member
      exact fun same => silent sent other (owner.trans same)

theorem NothingAdded.empty (untouched : NothingAdded added ticketId)
    : messagesOf added ticketId = [] ∧ participantsOf added ticketId = []
      ∧ attachmentsOf added ticketId = [] ∧ ratingsOf added ticketId = [] := by
  refine ⟨?_, ?_, ?_, ?_⟩
  all_goals
    refine List.filterMap_eq_nil_iff.mpr ?_
    intro addition member
    have other := untouched addition member
    cases addition <;> first | rfl | exact if_neg other

theorem ticketWhere_of_found (named : Uuid.ofText path = some ticketId)
    (found : service.tickets ticketId = some ticket) (visible : String → Bool)
    : service.ticketWhere path visible
      = if visible ticket.tenantId then some (ticketId, ticket) else none := by
  simp only [SupportService.ticketWhere, named, found, Option.bind_some]

theorem showsEverything_iff_detail (named : Uuid.ofText path = some ticketId)
    (found : service.tickets ticketId = some ticket)
    : ShowsEverything added ticketId service path
      ↔ service.detail path ticket = wholeDetail added ticketId ticket := by
  constructor
  · intro shows
    have seen := shows.tenant ⟨ticket.tenantId, ""⟩
    simpa [SupportService.getTicketDetail, SupportService.ticketOf,
      ticketWhere_of_found named found, found] using seen
  · intro same
    constructor
    · intro tenant
      simp only [SupportService.getTicketDetail, SupportService.ticketOf,
        ticketWhere_of_found named found, found, Option.bind_some, decide_eq_true_eq]
      split
      · rw [Option.map_some, same]
      · rfl
    · intro tenantScopes
      simp only [SupportService.agentGetTicketDetail, SupportService.ticketOfScopes,
        ticketWhere_of_found named found, found, Option.bind_some, decide_eq_true_eq]
      split
      · rw [Option.map_some, same]
      · rfl

theorem detail_eq_iff (kept : KeptBy service added)
    (announced : ∀ addition ∈ added, Announced added addition)
    (named : Uuid.ofText path = some ticketId)
    : service.detail path ticket = wholeDetail added ticketId ticket
      ↔ NothingAdded added ticketId ∨ path = ticketId.str ∧ CanonicalOnly added ticketId := by
  have messages := kept.messages_eq named
  have attachments := kept.attachments_eq named
  have participants := kept.participants_eq announced named
  have csat := kept.csat_eq announced named
  have visible := @messagesOf_visible ticketId _ announced
  simp only [SupportService.detail, wholeDetail, TicketDetail.mk.injEq, true_and, participants,
    attachments, csat, map_filter_eq_iff, decide_eq_true_eq]
  constructor
  · intro ⟨sameMessages, sameParticipants, sameAttachments, sameCsat⟩
    by_cases canonical : path = ticketId.str
    · rw [if_pos canonical] at messages
      rw [getVisibleMessages_eq_iff messages visible] at sameMessages
      subst canonical
      exact .inr ⟨rfl, sameParticipants, sameCsat, sameMessages⟩
    · rw [if_neg canonical] at messages sameAttachments
      have none_ : service.getVisibleMessages path = [] := by
        simp [SupportService.getVisibleMessages, messages]
      exact .inl (untouched_of_empty announced (sameMessages.symm.trans none_)
        sameAttachments.symm)
  · intro either
    rcases either with untouched | ⟨rfl, canonical⟩
    · obtain ⟨noMessages, noParticipants, noAttachments, noRatings⟩ := untouched.empty
      have none_ : service.messages path = [] := by simp [messages, noMessages]
      simp [SupportService.getVisibleMessages, none_, noMessages, noParticipants, noAttachments,
        lastRatingUnder, noRatings]
    · rw [if_pos rfl] at messages
      exact ⟨(getVisibleMessages_eq_iff messages visible).mpr canonical.messages,
        canonical.participants, if_pos rfl, canonical.rating⟩

/-- For every table, history of calls, ticket and two texts that name it: under both, everything is shown
that the calls added, exactly if they added nothing, or both are the canonical text, the agents were
assigned and the last rating was given under it, and there are at most 100 messages.
-/
theorem spellings_agree_iff (tickets : Uuid → Option TicketRecord) (calls : List ServiceCall)
    (ticketId : Uuid) (ticket : TicketRecord) (first second : String)
    (found : (finalState SupportService.step { tickets } calls).tickets ticketId = some ticket)
    (named : Uuid.ofText first = some ticketId) (named' : Uuid.ofText second = some ticketId)
    : ShowsEverything (addedBy { tickets } calls) ticketId
          (finalState SupportService.step { tickets } calls) first
        ∧ ShowsEverything (addedBy { tickets } calls) ticketId
          (finalState SupportService.step { tickets } calls) second
      ↔ NothingAdded (addedBy { tickets } calls) ticketId
        ∨ (first = ticketId.str ∧ second = ticketId.str)
          ∧ CanonicalOnly (addedBy { tickets } calls) ticketId := by
  have kept := keptBy_finalState tickets calls
  have announced := announced_addedBy { tickets } calls
  rw [showsEverything_iff_detail named found, showsEverything_iff_detail named' found,
    detail_eq_iff kept announced named, detail_eq_iff kept announced named', ← or_and_left,
    and_and_and_comm, and_self]

def sampleTicketId : Uuid := 0x0f8fad5bd9cb469fa16570867728950e

def canonicalText : String := "0f8fad5b-d9cb-469f-a165-70867728950e"

def upperText : String := "0F8FAD5B-D9CB-469F-A165-70867728950E"

def acmeTenant : TenantContext := ⟨"tenant-acme", "tenant:tenant-acme"⟩

/-- A ticket is opened, and an agent takes it under a text. -/
def takenUnder (path : String) : List ServiceCall :=
  [.createTicket sampleTicketId "Help" acmeTenant,
    .assignAgentToSelf path "agent-1" ["tenant-acme"]]

/-- Under the canonical text, everything is shown. -/
theorem taken_under_canonical
    : ShowsEverything (addedBy { tickets := fun _ => none } (takenUnder canonicalText))
          sampleTicketId
          (finalState SupportService.step { tickets := fun _ => none } (takenUnder canonicalText))
          canonicalText
        ∧ ShowsEverything (addedBy { tickets := fun _ => none } (takenUnder canonicalText))
          sampleTicketId
          (finalState SupportService.step { tickets := fun _ => none } (takenUnder canonicalText))
          canonicalText := by
  refine (spellings_agree_iff (fun _ => none) (takenUnder canonicalText) sampleTicketId
    ⟨"tenant-acme", .inProgress, some "agent-1"⟩ canonicalText canonicalText ?_ ?_ ?_).mpr
    (.inr ⟨⟨?_, ?_⟩, ?_, ?_, ?_⟩)
  all_goals decide +kernel

/-- Taken under upper case, the ticket has no agent under the canonical text, and nothing else under the
other one.
-/
theorem taken_under_upper_case
    : ¬ (ShowsEverything (addedBy { tickets := fun _ => none } (takenUnder upperText))
            sampleTicketId
            (finalState SupportService.step { tickets := fun _ => none } (takenUnder upperText))
            canonicalText
          ∧ ShowsEverything (addedBy { tickets := fun _ => none } (takenUnder upperText))
            sampleTicketId
            (finalState SupportService.step { tickets := fun _ => none } (takenUnder upperText))
            upperText) := by
  intro ⟨shown, _⟩
  exact absurd (shown.tenant acmeTenant) (by decide +kernel)

end RomaBridge.Properties
