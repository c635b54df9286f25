import Mathlib.Data.List.Induction
import Mathlib.Data.List.Perm.Subperm
import RomaBridge.Model.StripeStream
import RomaBridge.Model.WebhookQueue

/-! Stripe events are neither lost nor added twice, and processed once. The dedup key is set before the entry
it stands for is added, so that a failure in between turns every later delivery into an accepted
duplicate. A restart of the file queue forgets which ids were processed.
-/

namespace RomaBridge.Properties

open RomaBridge.Foundation RomaBridge.Model.StripeStream

def IsAdded (log : List WebhookEffect) (eventId : String) : Prop :=
  ∃ event, .added event ∈ log ∧ event.id = eventId

/-- An accepted event has been added, and one that is answered as processed has had its tenant sync
attempted after it was added by this delivery.
-/
structure AnswersEvent (event : StripeEvent) (before : StripeWebhook) (reply : WebhookReply)
    (after : StripeWebhook)
    : Prop where
  added : reply.accepted → IsAdded after.log event.id
  synced : reply = .response true → ∃ later, after.log = before.log ++ .added event :: later
    ∧ ∀ tenantId, tenantSync event = some tenantId → .syncTenant tenantId event.type ∈ later

/-- Whatever is delivered next, and wherever it fails, is answered for. -/
def AnswersRight (webhook : StripeWebhook) : Prop :=
  ∀ request faults event, request.event = some event →
    AnswersEvent event webhook (webhook.stripeWebhook request faults).1
      (webhook.stripeWebhook request faults).2

def AddedOnce (webhook : StripeWebhook) : Prop :=
  ∀ eventId, webhook.keys eventId = true → webhook.addsSince eventId ≤ 1

/-- Redis is connected, and what has a live key has been added. -/
structure NoEventLost (webhook : StripeWebhook) : Prop where
  connected : webhook.redis = true
  kept : ∀ eventId, eventId ≠ "" → webhook.keys eventId = true → IsAdded webhook.log eventId

/-- A delivery sets the key of an event that was never added, Redis keeps the key, and the entry is
not added.
-/
def Loses (webhook : StripeWebhook) (request : StripeRequest) (faults : Faults) : Prop :=
  request.configured = true ∧ request.verified = true ∧ ∃ event, request.event = some event
    ∧ event.id ≠ "" ∧ webhook.keys event.id = false ∧ ¬ IsAdded webhook.log event.id
    ∧ faults.set.applied = true ∧ faults.forgets = false
    ∧ ¬ (faults.set = .done ∧ faults.xadd.applied = true)

/-- A restart finds Redis, and a delivery does not stop between its two calls. -/
def LosesNothing (webhook : StripeWebhook) : WebhookCall → Prop
  | .deliver request faults => ¬ Loses webhook request faults
  | .restart connected => connected = true
  | .expire _ => True

-- The parts of a delivery

variable {webhook : StripeWebhook} {event : StripeEvent} {faults : Faults}

theorem IsAdded.append {log : List WebhookEffect} {eventId : String} (added : IsAdded log eventId)
    (more : List WebhookEffect)
    : IsAdded (log ++ more) eventId := by
  obtain ⟨event, member, same⟩ := added
  exact ⟨event, List.mem_append_left _ member, same⟩

theorem isAdded_concat_iff {log : List WebhookEffect} {eventId : String}
    : IsAdded (log ++ [.added event]) eventId ↔ IsAdded log eventId ∨ event.id = eventId := by
  constructor
  · rintro ⟨other, member, same⟩
    rcases List.mem_append.mp member with old | new
    · exact Or.inl ⟨other, old, same⟩
    · rw [List.mem_singleton, WebhookEffect.added.injEq] at new
      exact Or.inr (new ▸ same)
  · rintro (old | rfl)
    · exact old.append _
    · exact ⟨event, List.mem_append_right _ List.mem_cons_self, rfl⟩

theorem isAdded_finish_iff {eventId : String}
    : IsAdded (webhook.finish event faults).2.log eventId ↔ IsAdded webhook.log eventId := by
  unfold StripeWebhook.finish
  cases tenantSync event with
  | none => rfl
  | some tenantId =>
      constructor
      · rintro ⟨other, member, same⟩
        rcases List.mem_append.mp member with old | new
        · exact ⟨other, old, same⟩
        · cases List.mem_singleton.mp new
      · exact fun added => added.append _

theorem finish_fields
    : (webhook.finish event faults).2.keys = webhook.keys
      ∧ (webhook.finish event faults).2.addsSince = webhook.addsSince
      ∧ (webhook.finish event faults).2.redis = webhook.redis := by
  unfold StripeWebhook.finish
  cases tenantSync event <;> exact ⟨rfl, rfl, rfl⟩

/-- The delivery gets past the dedup key. -/
def ReachesStream (webhook : StripeWebhook) (event : StripeEvent) (faults : Faults) : Prop :=
  event.id ≠ "" → webhook.keys event.id = false ∧ faults.set = .done

theorem stops_eq_none_iff (outcome : RedisOutcome) : outcome.stops = none ↔ outcome = .done := by
  cases outcome <;> simp [RedisOutcome.stops]

theorem not_accepted_of_stops {outcome : RedisOutcome} {reply : WebhookReply}
    (stops : outcome.stops = some reply)
    : reply.accepted = false := by
  cases outcome <;> simp only [RedisOutcome.stops, Option.some.injEq, reduceCtorEq] at stops
  · rw [← stops]
    rfl
  · rw [← stops]
    rfl

theorem claim_eq_none_iff (connected : webhook.redis = true)
    : (webhook.claim event faults).1 = none ↔ ReachesStream webhook event faults := by
  unfold StripeWebhook.claim ReachesStream
  by_cases unnamed : event.id = ""
  · simp [unnamed]
  · cases live : webhook.keys event.id with
    | true => simp [connected, unnamed]
    | false => simp [connected, unnamed, stops_eq_none_iff]

theorem claim_fields
    : (webhook.claim event faults).2.log = webhook.log
      ∧ (webhook.claim event faults).2.redis = webhook.redis := by
  unfold StripeWebhook.claim
  split
  · split
    · exact ⟨rfl, rfl⟩
    · split
      · exact ⟨rfl, rfl⟩
      · exact ⟨rfl, rfl⟩
  · exact ⟨rfl, rfl⟩

theorem claim_cases (connected : webhook.redis = true)
    : ((event.id = "" ∨ webhook.keys event.id = true ∨ faults.set.applied = false)
        ∧ (webhook.claim event faults).2 = webhook)
      ∨ (event.id ≠ "" ∧ webhook.keys event.id = false ∧ faults.set.applied = true
        ∧ (webhook.claim event faults).2.keys
          = Function.update webhook.keys event.id (!faults.forgets)
        ∧ (webhook.claim event faults).2.addsSince
          = Function.update webhook.addsSince event.id 0) := by
  unfold StripeWebhook.claim
  by_cases unnamed : event.id = ""
  · simp [unnamed]
  · cases live : webhook.keys event.id with
    | true => simp [connected, unnamed]
    | false =>
        cases applied : faults.set.applied with
        | true => simp [connected, unnamed]
        | false => simp [connected, unnamed]

theorem claim_reply {reply : WebhookReply} (claimed : (webhook.claim event faults).1 = some reply)
    : (event.id ≠ "" ∧ webhook.keys event.id = true ∧ reply = .response false)
      ∨ reply.accepted = false := by
  unfold StripeWebhook.claim at claimed
  split at claimed
  · rename_i named
    simp only [Bool.and_eq_true, decide_eq_true_eq] at named
    split at claimed
    · rename_i live
      cases stop : faults.set.stops with
      | none =>
          simp only [stop, Option.getD_none, Option.some.injEq] at claimed
          exact Or.inl ⟨named.2, live, claimed.symm⟩
      | some error =>
          simp only [stop, Option.getD_some, Option.some.injEq] at claimed
          rw [← claimed]
          exact Or.inr (not_accepted_of_stops stop)
    · exact Or.inr (not_accepted_of_stops claimed)
  · cases claimed

theorem enqueueEvent_connected (connected : webhook.redis = true)
    : webhook.enqueueEvent event faults = (faults.xadd.stops,
        if faults.xadd.applied then
          { webhook with
            log := webhook.log ++ [.added event]
            addsSince := Function.update webhook.addsSince event.id
              (webhook.addsSince event.id + 1) }
        else
          webhook) := by
  simp [StripeWebhook.enqueueEvent, connected]

/-- A delivery is a claim that stops it, an entry that stops it, or all parts. -/
theorem handle_cases (connected : webhook.redis = true)
    : (¬ ReachesStream webhook event faults
        ∧ (webhook.claim event faults).1 = some (webhook.handle event faults).1
        ∧ (webhook.handle event faults).2 = (webhook.claim event faults).2)
      ∨ (ReachesStream webhook event faults ∧ faults.xadd ≠ .done
        ∧ (webhook.handle event faults).1.accepted = false
        ∧ (webhook.handle event faults).2
          = ((webhook.claim event faults).2.enqueueEvent event faults).2)
      ∨ (ReachesStream webhook event faults ∧ faults.xadd = .done
        ∧ webhook.handle event faults
          = ((webhook.claim event faults).2.enqueueEvent event faults).2.finish event faults) := by
  have reaches_iff : (webhook.claim event faults).1 = none ↔ ReachesStream webhook event faults :=
    claim_eq_none_iff connected
  have redis : (webhook.claim event faults).2.redis = true := claim_fields.2.trans connected
  unfold StripeWebhook.handle
  generalize webhook.claim event faults = claimed at reaches_iff redis ⊢
  obtain ⟨reply, claim⟩ := claimed
  cases reply with
  | some reply =>
      refine Or.inl ⟨fun reaches => ?_, rfl, rfl⟩
      cases reaches_iff.mpr reaches
  | none =>
      have reaches := reaches_iff.mp rfl
      dsimp only at redis ⊢
      rw [enqueueEvent_connected redis]
      cases stop : faults.xadd.stops with
      | some reply =>
          refine Or.inr (Or.inl ⟨reaches, ?_, not_accepted_of_stops stop, rfl⟩)
          intro done
          rw [done] at stop
          cases stop
      | none => exact Or.inr (Or.inr ⟨reaches, (stops_eq_none_iff _).mp stop, rfl⟩)

-- Deliveries

theorem isAdded_handle_iff (connected : webhook.redis = true) {eventId : String}
    : IsAdded (webhook.handle event faults).2.log eventId
      ↔ IsAdded webhook.log eventId
        ∨ event.id = eventId ∧ ReachesStream webhook event faults ∧ faults.xadd.applied = true := by
  have log : (webhook.claim event faults).2.log = webhook.log := claim_fields.1
  have redis : (webhook.claim event faults).2.redis = true := claim_fields.2.trans connected
  rcases @handle_cases webhook event faults connected with
    ⟨stopped, -, after⟩ | ⟨reaches, -, -, after⟩ | ⟨reaches, done, whole⟩
  · rw [after, log]
    simp [stopped]
  · rw [after, enqueueEvent_connected redis]
    cases applied : faults.xadd.applied with
    | true => simp [isAdded_concat_iff, log, reaches]
    | false => simp [log]
  · rw [whole, isAdded_finish_iff, enqueueEvent_connected redis]
    simp [isAdded_concat_iff, log, reaches, done, RedisOutcome.applied]

theorem redis_handle (connected : webhook.redis = true)
    : (webhook.handle event faults).2.redis = true := by
  have redis : (webhook.claim event faults).2.redis = true := claim_fields.2.trans connected
  have entry : ((webhook.claim event faults).2.enqueueEvent event faults).2.redis = true := by
    rw [enqueueEvent_connected redis]
    cases faults.xadd.applied <;> exact redis
  rcases @handle_cases webhook event faults connected with
    ⟨-, -, after⟩ | ⟨-, -, -, after⟩ | ⟨-, -, whole⟩
  · rw [after, redis]
  · rw [after, entry]
  · rw [whole, finish_fields.2.2, entry]

theorem keys_handle (connected : webhook.redis = true)
    : (webhook.handle event faults).2.keys = (webhook.claim event faults).2.keys := by
  have redis : (webhook.claim event faults).2.redis = true := claim_fields.2.trans connected
  have entry : ((webhook.claim event faults).2.enqueueEvent event faults).2.keys
      = (webhook.claim event faults).2.keys := by
    rw [enqueueEvent_connected redis]
    cases faults.xadd.applied <;> rfl
  rcases @handle_cases webhook event faults connected with
    ⟨-, -, after⟩ | ⟨-, -, -, after⟩ | ⟨-, -, whole⟩
  · rw [after]
  · rw [after, entry]
  · rw [whole, finish_fields.1, entry]

/-- A delivery by a connected process that loses nothing is answered for. -/
theorem NoEventLost.answersFor (kept : NoEventLost webhook) (event : StripeEvent) (faults : Faults)
    : AnswersEvent event webhook (webhook.handle event faults).1
      (webhook.handle event faults).2 := by
  have log : (webhook.claim event faults).2.log = webhook.log := claim_fields.1
  have redis : (webhook.claim event faults).2.redis = true := claim_fields.2.trans kept.connected
  rcases @handle_cases webhook event faults kept.connected with
    ⟨stopped, reply, after⟩ | ⟨-, -, refused, -⟩ | ⟨reaches, done, whole⟩
  · rcases claim_reply reply with ⟨named, live, duplicate⟩ | refused
    · refine ⟨fun _ => ?_, fun processed => ?_⟩
      · rw [after, log]
        exact kept.kept event.id named live
      · rw [duplicate] at processed
        cases processed
    · refine ⟨fun accepted => ?_, fun processed => ?_⟩
      · rw [refused] at accepted
        cases accepted
      · rw [processed] at refused
        cases refused
  · refine ⟨fun accepted => ?_, fun processed => ?_⟩
    · rw [refused] at accepted
      cases accepted
    · rw [processed] at refused
      cases refused
  · refine ⟨fun _ => (isAdded_handle_iff kept.connected).mpr (Or.inr ⟨rfl, reaches, ?_⟩),
      fun _ => ?_⟩
    · rw [done]
      rfl
    · rw [whole, enqueueEvent_connected redis, done]
      simp only [RedisOutcome.applied, if_true, StripeWebhook.finish, log]
      cases tenantSync event with
      | none => exact ⟨[], rfl, by simp⟩
      | some tenantId => exact ⟨[.syncTenant tenantId event.type], by simp, by simp⟩

/-- Everything that is delivered next is answered for exactly when Redis is connected and what has a
live key has been added.
-/
theorem answersRight_iff (webhook : StripeWebhook)
    : AnswersRight webhook ↔ NoEventLost webhook := by
  constructor
  · intro right
    have handled : ∀ event, AnswersEvent event webhook (webhook.handle event noFaults).1
        (webhook.handle event noFaults).2 :=
      fun event => right ⟨true, true, some event⟩ noFaults event rfl
    have connected : webhook.redis = true := by
      by_contra absent
      rw [Bool.not_eq_true] at absent
      have alone : webhook.handle ⟨"", "", none⟩ noFaults = (.response true, webhook) := by
        simp [StripeWebhook.handle, StripeWebhook.claim, StripeWebhook.enqueueEvent,
          StripeWebhook.finish, absent, noFaults, tenantSync, syncedTypes]
      obtain ⟨later, log, -⟩ := (handled ⟨"", "", none⟩).synced (by rw [alone])
      rw [alone] at log
      have lengths := congrArg List.length log
      simp at lengths
    refine ⟨connected, ?_⟩
    intro eventId named live
    have duplicate : webhook.handle ⟨eventId, "", none⟩ noFaults = (.response false, webhook) := by
      simp [StripeWebhook.handle, StripeWebhook.claim, connected, named, live, noFaults,
        RedisOutcome.stops]
    have added := (handled ⟨eventId, "", none⟩).added (by rw [duplicate]; rfl)
    rwa [duplicate] at added
  · intro kept request faults event body
    unfold StripeWebhook.stripeWebhook
    split
    · split
      · rw [body]
        exact kept.answersFor event faults
      · refine ⟨fun accepted => ?_, fun processed => ?_⟩
        · cases accepted
        · cases processed
    · refine ⟨fun accepted => ?_, fun processed => ?_⟩
      · cases accepted
      · cases processed

theorem noEventLost_handle_iff (kept : NoEventLost webhook)
    : NoEventLost (webhook.handle event faults).2
      ↔ ¬ (event.id ≠ "" ∧ webhook.keys event.id = false ∧ ¬ IsAdded webhook.log event.id
        ∧ faults.set.applied = true ∧ faults.forgets = false
        ∧ ¬ (faults.set = .done ∧ faults.xadd.applied = true)) := by
  have added_iff := @isAdded_handle_iff webhook event faults kept.connected
  have keys := @keys_handle webhook event faults kept.connected
  constructor
  · rintro later ⟨named, dead, new, applied, remembers, stopped⟩
    have live : (webhook.handle event faults).2.keys event.id = true := by
      rw [keys]
      rcases claim_cases kept.connected with ⟨(unnamed | live | skipped), -⟩ | ⟨-, -, -, updated, -⟩
      · exact absurd unnamed named
      · rw [dead] at live
        cases live
      · rw [applied] at skipped
        cases skipped
      · rw [updated, Function.update_self, remembers]
        rfl
    rcases added_iff.mp (later.kept event.id named live) with old | ⟨-, reaches, entered⟩
    · exact new old
    · exact stopped ⟨(reaches named).2, entered⟩
  · intro whole
    refine ⟨redis_handle kept.connected, ?_⟩
    intro eventId named live
    rw [keys] at live
    rw [added_iff]
    rcases claim_cases kept.connected with ⟨-, same⟩ | ⟨own, dead, applied, updated, -⟩
    · rw [same] at live
      exact Or.inl (kept.kept eventId named live)
    · rw [updated] at live
      by_cases itself : eventId = event.id
      · subst itself
        by_cases old : IsAdded webhook.log event.id
        · exact Or.inl old
        · rw [Function.update_self, Bool.not_eq_true'] at live
          by_contra lost
          refine whole ⟨own, dead, old, applied, live, ?_⟩
          rintro ⟨done, entered⟩
          exact lost (Or.inr ⟨rfl, fun _ => ⟨dead, done⟩, entered⟩)
      · rw [Function.update_of_ne itself] at live
        exact Or.inl (kept.kept eventId named live)

theorem noEventLost_step_iff (kept : NoEventLost webhook) (call : WebhookCall)
    : NoEventLost (webhookStep webhook call).2 ↔ LosesNothing webhook call := by
  cases call with
  | deliver request faults =>
      simp only [webhookStep, StripeWebhook.stripeWebhook, LosesNothing, Loses]
      cases configured : request.configured with
      | false => simpa using kept
      | true =>
          cases verified : request.verified with
          | false => simpa using kept
          | true =>
              cases body : request.event with
              | none => simpa using kept
              | some event =>
                  simp only [if_true, true_and, Option.some.injEq, exists_eq_left']
                  exact noEventLost_handle_iff kept
  | restart connected =>
      refine ⟨NoEventLost.connected, fun found => ⟨found, kept.kept⟩⟩
  | expire eventId =>
      refine iff_of_true ⟨kept.connected, ?_⟩ trivial
      intro other named live
      by_cases same : other = eventId
      · simp [webhookStep, same] at live
      · simp only [webhookStep, Function.update_of_ne same] at live
        exact kept.kept other named live

-- Entries

/-- The empty id is never claimed, and no id is added twice under one key. -/
def CountsKept (webhook : StripeWebhook) : Prop := webhook.keys "" = false ∧ AddedOnce webhook

theorem CountsKept.claim (counts : CountsKept webhook) (connected : webhook.redis = true)
    (event : StripeEvent) (faults : Faults)
    : CountsKept (webhook.claim event faults).2
      ∧ (ReachesStream webhook event faults → (webhook.claim event faults).2.keys event.id = true →
        (webhook.claim event faults).2.addsSince event.id = 0) := by
  rcases claim_cases connected with ⟨same, unchanged⟩ | ⟨named, dead, applied, keys, started⟩
  · rw [unchanged]
    refine ⟨counts, fun reaches live => ?_⟩
    by_cases unnamed : event.id = ""
    · rw [unnamed, counts.1] at live
      cases live
    · rw [(reaches unnamed).1] at live
      cases live
  · refine ⟨⟨?_, ?_⟩, fun _ _ => by rw [started, Function.update_self]⟩
    · rw [keys, Function.update_of_ne (Ne.symm named), counts.1]
    · intro eventId live
      rw [started]
      by_cases itself : eventId = event.id
      · rw [itself, Function.update_self]
        exact Nat.zero_le 1
      · rw [keys, Function.update_of_ne itself] at live
        rw [Function.update_of_ne itself]
        exact counts.2 eventId live

theorem CountsKept.enqueueEvent (counts : CountsKept webhook) (connected : webhook.redis = true)
    (first : webhook.keys event.id = true → webhook.addsSince event.id = 0) (faults : Faults)
    : CountsKept (webhook.enqueueEvent event faults).2 := by
  rw [enqueueEvent_connected connected]
  cases faults.xadd.applied with
  | false => exact counts
  | true =>
      refine ⟨counts.1, ?_⟩
      intro eventId live
      simp only [if_true] at live ⊢
      by_cases itself : eventId = event.id
      · rw [itself] at live ⊢
        rw [Function.update_self, first live]
      · rw [Function.update_of_ne itself]
        exact counts.2 eventId live

theorem CountsKept.handle (counts : CountsKept webhook) (event : StripeEvent) (faults : Faults)
    : CountsKept (webhook.handle event faults).2 := by
  have finished : ∀ {current : StripeWebhook}, CountsKept current →
      CountsKept (current.finish event faults).2 := by
    intro current kept
    obtain ⟨keys, adds, -⟩ := @finish_fields current event faults
    unfold CountsKept AddedOnce
    rw [keys, adds]
    exact kept
  cases connected : webhook.redis with
  | false =>
      have whole : webhook.handle event faults = webhook.finish event faults := by
        simp [StripeWebhook.handle, StripeWebhook.claim, StripeWebhook.enqueueEvent, connected]
      rw [whole]
      exact finished counts
  | true =>
      obtain ⟨claimed, first⟩ := counts.claim connected event faults
      have redis : (webhook.claim event faults).2.redis = true := claim_fields.2.trans connected
      rcases @handle_cases webhook event faults connected with
        ⟨-, -, after⟩ | ⟨reaches, -, -, after⟩ | ⟨reaches, -, whole⟩
      · rw [after]
        exact claimed
      · rw [after]
        exact claimed.enqueueEvent redis (first reaches) faults
      · rw [whole]
        exact finished (claimed.enqueueEvent redis (first reaches) faults)

/-- Every step adds no second entry under one key. One case per step. -/
theorem CountsKept.step (counts : CountsKept webhook) (call : WebhookCall)
    : CountsKept (webhookStep webhook call).2 := by
  cases call with
  | deliver request faults =>
      simp only [webhookStep, StripeWebhook.stripeWebhook]
      split
      · split
        · split
          · exact counts
          · exact counts.handle _ faults
        · exact counts
      · exact counts
  | restart connected => exact counts
  | expire eventId =>
      refine ⟨?_, ?_⟩
      · by_cases same : "" = eventId
        · simp [webhookStep, ← same]
        · simp [webhookStep, Function.update_of_ne same, counts.1]
      · intro other live
        by_cases same : other = eventId
        · simp [webhookStep, same] at live
        · simp only [webhookStep, Function.update_of_ne same] at live
          exact counts.2 other live

/-- In every sequence of deliveries, restarts and ends of dedup keys, wherever they fail: in every
state the next delivery is answered for and no id was added twice under its key, exactly when each
restart found Redis and no delivery stopped between its key and its entry.
-/
theorem stripeEvents_iff (calls : List WebhookCall)
    : (∀ visit ∈ visits webhookStep started calls,
        AnswersRight visit.after ∧ AddedOnce visit.after)
      ↔ ∀ visit ∈ visits webhookStep started calls, LosesNothing visit.before visit.call := by
  have exact_ : ∀ webhook call, NoEventLost webhook ∧ CountsKept webhook → True →
      ((AnswersRight (webhookStep webhook call).2 ∧ AddedOnce (webhookStep webhook call).2)
        ↔ LosesNothing webhook call) := by
    rintro webhook call ⟨kept, counts⟩ -
    rw [answersRight_iff, ← noEventLost_step_iff kept call]
    exact and_iff_left (counts.step call).2
  have preserved : ∀ webhook call, NoEventLost webhook ∧ CountsKept webhook → True →
      LosesNothing webhook call →
      NoEventLost (webhookStep webhook call).2 ∧ CountsKept (webhookStep webhook call).2 :=
    fun _ call good _ loses => ⟨(noEventLost_step_iff good.1 call).mpr loses, good.2.step call⟩
  have start : NoEventLost started ∧ CountsKept started := by
    refine ⟨⟨rfl, ?_⟩, rfl, ?_⟩
    · intro _ _ live
      cases live
    · intro _ live
      cases live
  exact throughout_iff exact_ preserved start (fun _ _ => trivial)

/-- `XADD` fails after the key was set: the redelivery is accepted as a duplicate, and the event was
never added.
-/
theorem failed_entry_loses_event
    : ∃ calls, ∃ visit ∈ visits webhookStep started calls, visit.reply = .response false
      ∧ ¬ IsAdded visit.after.log "evt_1" := by
  refine ⟨[.deliver ⟨true, true, some ⟨"evt_1", "invoice.paid", none⟩⟩
      { noFaults with xadd := .raised false },
    .deliver ⟨true, true, some ⟨"evt_1", "invoice.paid", none⟩⟩ noFaults],
    _, List.mem_of_getLast? rfl, rfl, ?_⟩
  rintro ⟨event, member, -⟩
  cases member

section WebhookQueue

open RomaBridge.Model.WebhookQueue

variable {π : Type} [DecidableEq π]

-- What `process_all` does

/-- The loop returns each unprocessed id of its entries once. Induction on the entries. -/
theorem processItems_ids (items : List (QueueItem π)) (webhooks : AsyncWebhookQueue π)
    : (webhooks.processItems items).1.Nodup
      ∧ ∀ id, id ∈ (webhooks.processItems items).1
        ↔ id ∈ items.map QueueItem.eventId ∧ id ∉ webhooks.processed := by
  induction items generalizing webhooks with
  | nil => simp [AsyncWebhookQueue.processItems]
  | cons item rest ih =>
      unfold AsyncWebhookQueue.processItems
      split
      · rename_i known
        obtain ⟨distinct, exact_⟩ := ih webhooks
        refine ⟨distinct, fun id => ?_⟩
        rw [exact_ id, List.map_cons, List.mem_cons]
        constructor
        · exact fun member => ⟨Or.inr member.1, member.2⟩
        · rintro ⟨rfl | member, absent⟩
          · exact absurd known absent
          · exact ⟨member, absent⟩
      · rename_i unknown
        obtain ⟨distinct, exact_⟩ := ih { webhooks with
          processed := item.eventId :: webhooks.processed
          queue := webhooks.queue.erase item }
        dsimp only
        refine ⟨List.nodup_cons.mpr ⟨?_, distinct⟩, fun id => ?_⟩
        · intro again
          exact ((exact_ _).mp again).2 List.mem_cons_self
        · rw [List.mem_cons, exact_ id, List.map_cons, List.mem_cons]
          by_cases same : id = item.eventId
          · subst same
            simp [unknown]
          · simp [same]

/-- The loop takes one entry off the queue for each id that it returns. Induction on the entries. -/
theorem processItems_length {items : List (QueueItem π)} {webhooks : AsyncWebhookQueue π}
    (present : items.Subperm webhooks.queue)
    : (webhooks.processItems items).1.length + (webhooks.processItems items).2.queue.length
      = webhooks.queue.length := by
  induction items generalizing webhooks with
  | nil => simp [AsyncWebhookQueue.processItems]
  | cons item rest ih =>
      unfold AsyncWebhookQueue.processItems
      split
      · exact ih ((List.sublist_cons_self item rest).subperm.trans present)
      · have queued : item ∈ webhooks.queue := present.subset List.mem_cons_self
        have others : rest.Subperm (webhooks.queue.erase item) := by
          simpa using present.erase item
        have counted := @ih { webhooks with
          processed := item.eventId :: webhooks.processed
          queue := webhooks.queue.erase item } others
        have shorter := List.length_erase_of_mem queued
        have nonempty := List.length_pos_of_mem queued
        dsimp only at counted ⊢
        rw [List.length_cons]
        omega

/-- The loop adds the ids that it returns to the processed ones. Induction on the entries. -/
theorem processItems_processed (items : List (QueueItem π)) (webhooks : AsyncWebhookQueue π)
    (id : String)
    : id ∈ (webhooks.processItems items).2.processed
      ↔ id ∈ (webhooks.processItems items).1 ∨ id ∈ webhooks.processed := by
  induction items generalizing webhooks with
  | nil => simp [AsyncWebhookQueue.processItems]
  | cons item rest ih =>
      unfold AsyncWebhookQueue.processItems
      split
      · exact ih webhooks
      · dsimp only
        rw [ih]
        simp only [List.mem_cons]
        tauto

theorem processAll_empties_iff {webhooks : AsyncWebhookQueue π}
    (unprocessed : ∀ id ∈ webhooks.pendingIds, id ∉ webhooks.processed)
    : webhooks.processAll.2.queue = [] ↔ webhooks.pendingIds.Nodup := by
  obtain ⟨distinct, exact_⟩ := processItems_ids webhooks.queue webhooks
  have counted := processItems_length (List.Subperm.refl webhooks.queue)
  have waiting : webhooks.pendingIds.length = webhooks.queue.length := by
    simp [AsyncWebhookQueue.pendingIds]
  change (webhooks.processItems webhooks.queue).2.queue = [] ↔ _
  rw [← List.length_eq_zero_iff]
  constructor
  · intro empty
    have returned : (webhooks.processItems webhooks.queue).1.Subperm webhooks.pendingIds :=
      List.subperm_of_subset distinct (fun id member => ((exact_ id).mp member).1)
    exact (returned.perm_of_length_le (by omega)).nodup_iff.mp distinct
  · intro once
    have all : webhooks.pendingIds.Subperm (webhooks.processItems webhooks.queue).1 :=
      List.subperm_of_subset once (fun id member => (exact_ id).mpr ⟨member, unprocessed id member⟩)
    have longer := all.length_le
    omega

-- Histories

/-- A `process_all` returns no id twice and none that was returned before, it returns every other id
that was enqueued, and it leaves an empty queue.
-/
def ProcessesOnce (visit : Visit (QueueHistory π) (QueueCall π) (List String)) : Prop :=
  visit.call = .processAll →
    visit.reply.Nodup ∧ (∀ id ∈ visit.reply, id ∉ visit.before.returned)
    ∧ (∀ id ∈ visit.before.enqueued, id ∉ visit.before.returned → id ∈ visit.reply)
    ∧ visit.after.webhooks.queue = []

/-- An id is enqueued that waits nowhere and was never returned, or that the process still knows to
be processed.
-/
def EnqueuesFresh (history : QueueHistory π) (call : QueueCall π) : Prop :=
  ∀ item, call = .enqueue item →
    item.eventId ∈ history.webhooks.processed
    ∨ item.eventId ∉ history.webhooks.pendingIds ∧ item.eventId ∉ history.returned

/-- What holds while every `process_all` has processed its events once. -/
structure EventsAccounted (history : QueueHistory π) : Prop where
  unprocessed : ∀ id ∈ history.webhooks.pendingIds, id ∉ history.webhooks.processed
  stored : history.webhooks.queueFile.getD [] = history.webhooks.queue
  known : ∀ id ∈ history.webhooks.processed, id ∈ history.returned
  enqueued : ∀ id ∈ history.enqueued, id ∈ history.returned ∨ id ∈ history.webhooks.pendingIds

def WaitsOnce (history : QueueHistory π) : Prop :=
  history.webhooks.pendingIds.Nodup ∧ ∀ id ∈ history.webhooks.pendingIds, id ∉ history.returned

omit [DecidableEq π] in
theorem enqueue_cases (webhooks : AsyncWebhookQueue π) (item : QueueItem π)
    : item.eventId ∈ webhooks.processed ∧ (webhooks.enqueue item).2 = webhooks
      ∨ item.eventId ∉ webhooks.processed ∧ (webhooks.enqueue item).2
        = { webhooks with
            queue := webhooks.queue ++ [item]
            queueFile := some (webhooks.queue ++ [item]) } := by
  unfold AsyncWebhookQueue.enqueue
  split
  · rename_i known
    exact Or.inl ⟨known, rfl⟩
  · rename_i unknown
    exact Or.inr ⟨unknown, rfl⟩

omit [DecidableEq π] in
theorem pendingIds_append (webhooks : AsyncWebhookQueue π) (item : QueueItem π)
    (file : Option (List (QueueItem π)))
    : AsyncWebhookQueue.pendingIds
        { webhooks with queue := webhooks.queue ++ [item], queueFile := file }
      = webhooks.pendingIds ++ [item.eventId] := by
  simp [AsyncWebhookQueue.pendingIds]

theorem EventsAccounted.enqueue {history : QueueHistory π} (accounted : EventsAccounted history)
    (item : QueueItem π)
    : EventsAccounted (queueStep history (.enqueue item)).2 := by
  simp only [queueStep]
  rcases enqueue_cases history.webhooks item with ⟨known, same⟩ | ⟨unknown, added⟩
  · rw [same]
    refine ⟨accounted.unprocessed, accounted.stored, accounted.known, ?_⟩
    intro id member
    rcases List.mem_cons.mp member with rfl | earlier
    · exact Or.inl (accounted.known _ known)
    · exact accounted.enqueued id earlier
  · rw [added]
    refine ⟨?_, rfl, accounted.known, ?_⟩
    · intro id member
      rw [pendingIds_append, List.mem_append, List.mem_singleton] at member
      rcases member with waiting | rfl
      · exact accounted.unprocessed id waiting
      · exact unknown
    · intro id member
      rw [pendingIds_append, List.mem_append, List.mem_singleton]
      rcases List.mem_cons.mp member with rfl | earlier
      · exact Or.inr (Or.inr rfl)
      · exact (accounted.enqueued id earlier).imp_right Or.inl

theorem EventsAccounted.processAll {history : QueueHistory π} (accounted : EventsAccounted history)
    (all : ∀ id ∈ history.enqueued, id ∉ history.returned → id ∈ history.webhooks.processAll.1)
    (empty : history.webhooks.processAll.2.queue = [])
    : EventsAccounted (queueStep history .processAll).2 := by
  have none_ : (queueStep history .processAll).2.webhooks.pendingIds = [] := by
    rw [AsyncWebhookQueue.pendingIds]
    exact congrArg (List.map QueueItem.eventId) empty
  refine ⟨?_, rfl, ?_, ?_⟩
  · rw [none_]
    intro id absent
    cases absent
  · intro id member
    have processed :=
      (processItems_processed history.webhooks.queue history.webhooks id).mp member
    exact List.mem_append.mpr (processed.imp_right (accounted.known id))
  · intro id member
    refine Or.inl (List.mem_append.mpr ?_)
    by_cases before : id ∈ history.returned
    · exact Or.inr before
    · exact Or.inl (all id member before)

theorem EventsAccounted.pendingIds_restart {history : QueueHistory π}
    (accounted : EventsAccounted history)
    : (queueStep history .restart).2.webhooks.pendingIds = history.webhooks.pendingIds := by
  simp only [queueStep, AsyncWebhookQueue.open_, AsyncWebhookQueue.pendingIds, accounted.stored]

theorem EventsAccounted.restart {history : QueueHistory π} (accounted : EventsAccounted history)
    : EventsAccounted (queueStep history .restart).2 := by
  refine ⟨?_, rfl, ?_, ?_⟩
  · intro id _ absent
    cases absent
  · intro id absent
    cases absent
  · rw [accounted.pendingIds_restart]
    exact accounted.enqueued

theorem EventsAccounted.step {history : QueueHistory π} (accounted : EventsAccounted history)
    {call : QueueCall π}
    (once : ProcessesOnce ⟨history, call, (queueStep history call).1, (queueStep history call).2⟩)
    : EventsAccounted (queueStep history call).2 := by
  cases call with
  | enqueue item => exact accounted.enqueue item
  | processAll =>
      obtain ⟨-, -, all, empty⟩ := once rfl
      exact accounted.processAll all empty
  | restart => exact accounted.restart

/-- With the accounts kept, a `process_all` is right exactly when no id waits twice or again. -/
theorem processesOnce_iff {history : QueueHistory π} (accounted : EventsAccounted history)
    : ProcessesOnce ⟨history, .processAll, (queueStep history .processAll).1,
        (queueStep history .processAll).2⟩
      ↔ WaitsOnce history := by
  obtain ⟨distinct, exact_⟩ := processItems_ids history.webhooks.queue history.webhooks
  have returns : ∀ id, id ∈ history.webhooks.processAll.1 ↔ id ∈ history.webhooks.pendingIds :=
    fun id => (exact_ id).trans ⟨And.left, fun waits => ⟨waits, accounted.unprocessed id waits⟩⟩
  have empties := processAll_empties_iff accounted.unprocessed
  constructor
  · intro once
    obtain ⟨-, new, -, empty⟩ := once rfl
    exact ⟨empties.mp empty, fun id waits => new id ((returns id).mpr waits)⟩
  · intro waits _
    refine ⟨distinct, ?_, ?_, empties.mpr waits.1⟩
    · exact fun id member => waits.2 id ((returns id).mp member)
    · intro id member unreturned
      exact (returns id).mpr ((accounted.enqueued id member).resolve_left unreturned)

theorem waitsOnce_enqueue_iff (history : QueueHistory π) (item : QueueItem π)
    : WaitsOnce (queueStep history (.enqueue item)).2
      ↔ WaitsOnce history ∧ EnqueuesFresh history (.enqueue item) := by
  have fresh_iff : EnqueuesFresh history (.enqueue item)
      ↔ item.eventId ∈ history.webhooks.processed
        ∨ item.eventId ∉ history.webhooks.pendingIds ∧ item.eventId ∉ history.returned := by
    constructor
    · exact fun fresh => fresh item rfl
    · intro fresh other same
      cases same
      exact fresh
  rw [fresh_iff]
  simp only [queueStep]
  rcases enqueue_cases history.webhooks item with ⟨known, same⟩ | ⟨unknown, added⟩
  · rw [same]
    exact ⟨fun waits => ⟨waits, Or.inl known⟩, And.left⟩
  · rw [added]
    simp only [WaitsOnce, pendingIds_append, List.nodup_append, List.nodup_singleton,
      List.mem_append, List.mem_singleton, unknown, false_or]
    constructor
    · rintro ⟨⟨once, -, apart⟩, new⟩
      refine ⟨⟨once, fun id waits => new id (Or.inl waits)⟩, ?_, new _ (Or.inr rfl)⟩
      exact fun waits => apart _ waits _ rfl rfl
    · rintro ⟨⟨once, new⟩, absent, unreturned⟩
      refine ⟨⟨once, trivial, ?_⟩, ?_⟩
      · rintro id waits _ rfl rfl
        exact absent waits
      · rintro id (waits | rfl)
        · exact new id waits
        · exact unreturned

omit [DecidableEq π] in
theorem newHistory_kept
    : EventsAccounted (newHistory (π := π)) ∧ WaitsOnce (newHistory (π := π)) := by
  refine ⟨⟨?_, rfl, ?_, ?_⟩, ?_, ?_⟩ <;>
    simp [newHistory, AsyncWebhookQueue.open_, AsyncWebhookQueue.pendingIds]

theorem accounted_of_once {calls : List (QueueCall π)}
    (once : ∀ visit ∈ visits queueStep newHistory calls, ProcessesOnce visit)
    : EventsAccounted (finalState queueStep newHistory calls) := by
  refine (invariant_of_allowed EventsAccounted
    (fun history call =>
      ProcessesOnce ⟨history, call, (queueStep history call).1, (queueStep history call).2⟩)
    (fun _ _ accounted once => accounted.step once) newHistory_kept.1 ?_).2
  intro visit member
  rw [step_of_mem_visits member]
  exact once visit member

theorem all_fresh_iff (calls : List (QueueCall π))
    : (∀ visit ∈ visits queueStep newHistory calls, EnqueuesFresh visit.before visit.call)
      ↔ (∀ visit ∈ visits queueStep newHistory calls, ProcessesOnce visit)
        ∧ WaitsOnce (finalState queueStep newHistory calls) := by
  induction calls using List.reverseRecOn with
  | nil =>
      refine iff_of_true (by simp [visits]) ⟨by simp [visits], ?_⟩
      exact newHistory_kept.2
  | append_singleton calls call ih =>
      rw [forall_visits_concat, forall_visits_concat, finalState_append, ih, and_assoc, and_assoc]
      refine and_congr_right (fun once => ?_)
      have accounted := accounted_of_once once
      change _ ↔ _ ∧ WaitsOnce (queueStep (finalState queueStep newHistory calls) call).2
      cases call with
      | enqueue item =>
          rw [waitsOnce_enqueue_iff]
          exact (and_iff_right (fun other => by cases other)).symm
      | processAll =>
          have exact_ := processesOnce_iff accounted
          constructor
          · rintro ⟨waits, -⟩
            have right := exact_.mpr waits
            have empty := (right rfl).2.2.2
            dsimp only at empty
            refine ⟨right, ?_⟩
            simp [WaitsOnce, AsyncWebhookQueue.pendingIds, empty]
          · rintro ⟨right, -⟩
            exact ⟨exact_.mp right, fun _ other => by cases other⟩
      | restart =>
          have same : WaitsOnce (queueStep (finalState queueStep newHistory calls) .restart).2
              ↔ WaitsOnce (finalState queueStep newHistory calls) := by
            unfold WaitsOnce
            rw [accounted.pendingIds_restart]
            rfl
          rw [same]
          constructor
          · exact fun waits => ⟨(fun other => by cases other), waits.1⟩
          · exact fun waits => ⟨waits.2, fun _ other => by cases other⟩

/-- In every history each event id is returned at most once and by the first `process_all` after it
was enqueued, and each `process_all` leaves an empty queue, exactly when every enqueue that a
`process_all` follows is of a fresh id.
-/
theorem processedOnce_iff (calls : List (QueueCall π))
    : (∀ visit ∈ visits queueStep newHistory calls, ProcessesOnce visit)
      ↔ ∀ past call future, calls = past ++ call :: future → .processAll ∈ future →
        EnqueuesFresh (finalState queueStep newHistory past) call := by
  induction calls using List.reverseRecOn with
  | nil => simp [visits]
  | append_singleton calls last ih =>
      rw [forall_visits_concat]
      by_cases final : last = .processAll
      · subst final
        have exact_ : _ ∧ _ ↔ _ :=
          and_congr_right (fun once => processesOnce_iff (@accounted_of_once π _ calls once))
        rw [exact_, ← all_fresh_iff, forall_visits_iff]
        constructor
        · intro fresh past call future split later
          rcases split_concat split with rfl | ⟨front, rfl, whole⟩
          · cases later
          · exact fresh past call front whole
        · rintro fresh past call future rfl
          exact fresh past call (future ++ [.processAll]) (by simp) (by simp)
      · have other : ProcessesOnce ⟨finalState queueStep newHistory calls, last,
            (queueStep (finalState queueStep newHistory calls) last).1,
            (queueStep (finalState queueStep newHistory calls) last).2⟩ :=
          fun same => absurd same final
        rw [ih, and_iff_left other]
        constructor
        · intro fresh past call future split later
          rcases split_concat split with rfl | ⟨front, rfl, whole⟩
          · cases later
          · have inFront := (List.mem_append.mp later).resolve_right
              (fun end_ => final (List.mem_singleton.mp end_).symm)
            exact fresh past call front whole inFront
        · rintro fresh past call future rfl later
          exact fresh past call (future ++ [last]) (by simp) (by simp [later])

/-- An event is delivered twice before it is processed, and the process restarts. -/
theorem processed_twice
    : ∃ calls : List (QueueCall Unit),
      ¬ ∀ visit ∈ visits queueStep newHistory calls, ProcessesOnce visit := by
  refine ⟨[.enqueue ⟨"evt_1", (), 0⟩, .enqueue ⟨"evt_1", (), 1⟩, .processAll, .restart,
    .processAll], ?_⟩
  intro once
  obtain ⟨-, new, -, -⟩ := once _ (List.mem_of_getLast? rfl) rfl
  exact absurd (by decide) (new "evt_1" (by decide))

end WebhookQueue

end RomaBridge.Properties
