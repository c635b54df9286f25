import RomaBridge.Foundation.Trace
import RomaBridge.Model.PyValues

/-! `deploy/stripe-webhook/app/main.py`: a Stripe event is claimed by a dedup key in Redis and then
added to a stream. The sender redelivers after the last delivery of an event has ended, and
deliveries of different events share nothing, so that a delivery is one step; the arguments of the
step say where Redis or the process fails in it.
-/

namespace RomaBridge.Model.StripeStream

open RomaBridge.Foundation

-- Events

/-- A Stripe event: its id, its type and its `data`, when it has one. -/
structure StripeEvent where
  id : String
  type : String
  data : Option JsonValue

/-- `value.get(key, default)`; `none` is the `AttributeError` of another value. -/
def getOr (value : JsonValue) (key : String) (default : JsonValue) : Option JsonValue :=
  match value with
  | .dict entries =>
      some (((entries.find? (fun entry => entry.1 = key)).map Prod.snd).getD default)
  | _ => none

/-- The tenant that an event names, when it names one and reading it raises nothing. -/
def tenantOf (event : StripeEvent) : Option JsonValue := do
  let obj ← getOr (event.data.getD (.dict [])) "object" (.dict [])
  let metadata ← getOr obj "metadata" (.dict [])
  let tenantId ← getOr metadata "tenant_id" (.str "")
  let tid ← if tenantId.truthy then some tenantId else getOr obj "customer_email" (.str "")
  if tid.truthy then some tid else none

/-- The event types whose tenant is synced. -/
def syncedTypes : List String :=
  ["checkout.session.completed", "customer.subscription.created", "invoice.paid",
    "customer.subscription.updated", "customer.subscription.deleted", "invoice.payment_failed"]

def tenantSync (event : StripeEvent) : Option JsonValue :=
  if event.type ∈ syncedTypes then tenantOf event else none

-- A delivery

/-- How a call of Redis ends: it returns, it raises, or the process dies, before or after it took
effect.
-/
inductive RedisOutcome where
  | done
  | raised (applied : Bool)
  | crashed (applied : Bool)
  deriving DecidableEq, Repr

/-- The call took effect. -/
def RedisOutcome.applied : RedisOutcome → Bool
  | .done => true
  | .raised applied | .crashed applied => applied

/-- The faults of a delivery. Redis may forget a key that it has set, and the process may die before
its answer is out.
-/
structure Faults where
  set : RedisOutcome
  forgets : Bool
  xadd : RedisOutcome
  dies : Bool
  deriving DecidableEq, Repr

def noFaults : Faults := ⟨.done, false, .done, false⟩

/-- What a delivery leaves outside of the process, besides the dedup key. -/
inductive WebhookEffect where
  | added (event : StripeEvent)
  | syncTenant (tenantId : JsonValue) (eventType : String)

/-- `_redis`, the live dedup keys, the effects so far, and the entries that were added for an id
since its dedup key was set last.
-/
structure StripeWebhook where
  redis : Bool
  keys : String → Bool
  log : List WebhookEffect
  addsSince : String → ℕ

def started : StripeWebhook := ⟨true, fun _ => false, [], fun _ => 0⟩

/-- What the sender receives: a `WebhookResponse`, an error, or nothing. -/
inductive WebhookReply where
  | response (processed : Bool)
  | httpError (statusCode : ℕ)
  | silent
  deriving DecidableEq, Repr

def WebhookReply.accepted : WebhookReply → Bool
  | .response _ => true
  | .httpError _ | .silent => false

/-- A delivery: whether a secret is configured, whether `_verify` accepts it, and its event, unless
the body is no JSON.
-/
structure StripeRequest where
  configured : Bool
  verified : Bool
  event : Option StripeEvent

/-- What ends a delivery at a call of Redis. -/
def RedisOutcome.stops : RedisOutcome → Option WebhookReply
  | .done => none
  | .raised _ => some (.httpError 500)
  | .crashed _ => some .silent

namespace StripeWebhook

/-- `SET key 1 NX EX`, with the reply that ends the delivery here. -/
def claim (webhook : StripeWebhook) (event : StripeEvent) (faults : Faults)
    : Option WebhookReply × StripeWebhook :=
  if webhook.redis && event.id ≠ "" then
    if webhook.keys event.id then
      (some (faults.set.stops.getD (.response false)), webhook)
    else
      (faults.set.stops,
        if faults.set.applied then
          { webhook with
            keys := Function.update webhook.keys event.id (!faults.forgets)
            addsSince := Function.update webhook.addsSince event.id 0 }
        else
          webhook)
  else
    (none, webhook)

/-- `_enqueue_event`, with the reply that ends the delivery here. -/
def enqueueEvent (webhook : StripeWebhook) (event : StripeEvent) (faults : Faults)
    : Option WebhookReply × StripeWebhook :=
  if webhook.redis then
    (faults.xadd.stops,
      if faults.xadd.applied then
        { webhook with
          log := webhook.log ++ [.added event]
          addsSince := Function.update webhook.addsSince event.id (webhook.addsSince event.id + 1) }
      else
        webhook)
  else
    (none, webhook)

/-- The last part of `stripe_webhook`; `_sync_tenant` raises nothing. -/
def finish (webhook : StripeWebhook) (event : StripeEvent) (faults : Faults)
    : WebhookReply × StripeWebhook :=
  (if faults.dies then .silent else .response true,
    match tenantSync event with
    | some tenantId => { webhook with log := webhook.log ++ [.syncTenant tenantId event.type] }
    | none => webhook)

/-- `stripe_webhook` after the event was read. -/
def handle (webhook : StripeWebhook) (event : StripeEvent) (faults : Faults)
    : WebhookReply × StripeWebhook :=
  match webhook.claim event faults with
  | (some reply, claimed) => (reply, claimed)
  | (none, claimed) =>
      match claimed.enqueueEvent event faults with
      | (some reply, enqueued) => (reply, enqueued)
      | (none, enqueued) => enqueued.finish event faults

def stripeWebhook (webhook : StripeWebhook) (request : StripeRequest) (faults : Faults)
    : WebhookReply × StripeWebhook :=
  if request.configured then
    if request.verified then
      match request.event with
      | none => (.httpError 400, webhook)
      | some event => webhook.handle event faults
    else
      (.httpError 400, webhook)
  else
    (.httpError 503, webhook)

end StripeWebhook

/-- A delivery, a restart of the process (`from_url` may raise, and the service then runs without
Redis), or the end of a dedup key.
-/
inductive WebhookCall where
  | deliver (request : StripeRequest) (faults : Faults)
  | restart (connected : Bool)
  | expire (eventId : String)

def webhookStep (webhook : StripeWebhook) : WebhookCall → WebhookReply × StripeWebhook
  | .deliver request faults => webhook.stripeWebhook request faults
  | .restart connected => (.silent, { webhook with redis := connected })
  | .expire eventId =>
      (.silent, { webhook with keys := Function.update webhook.keys eventId false })

end RomaBridge.Model.StripeStream
