import Mathlib.Data.Rat.Defs
import RomaBridge.Foundation.Trace

/-! `AsyncWebhookQueue` of `saas/webhooks/stripe_connect.py`: the pending events are kept in a file,
the processed ids in memory only.
-/

namespace RomaBridge.Model.WebhookQueue

open RomaBridge.Foundation

variable {π : Type} [DecidableEq π]

/-- An entry of the queue. The payload is a value that `json` reads back as it was. -/
structure QueueItem (π : Type) where
  eventId : String
  payload : π
  enqueuedAt : ℚ
  deriving DecidableEq, Repr

/-- The queue with its file; `none` is a file that `_load` cannot read. -/
structure AsyncWebhookQueue (π : Type) where
  queue : List (QueueItem π)
  processed : List String
  queueFile : Option (List (QueueItem π))

namespace AsyncWebhookQueue

/-- `AsyncWebhookQueue(queue_file)`, with `_load`. -/
def open_ (queueFile : Option (List (QueueItem π))) : AsyncWebhookQueue π :=
  ⟨queueFile.getD [], [], queueFile⟩

def save (webhooks : AsyncWebhookQueue π) : AsyncWebhookQueue π :=
  { webhooks with queueFile := some webhooks.queue }

def pendingIds (webhooks : AsyncWebhookQueue π) : List String :=
  webhooks.queue.map QueueItem.eventId

/-- `enqueue`, and whether it answers `queued`; the other answer is `already_queued`. -/
def enqueue (webhooks : AsyncWebhookQueue π) (item : QueueItem π) : Bool × AsyncWebhookQueue π :=
  if item.eventId ∈ webhooks.processed then
    (false, webhooks)
  else
    (true, { webhooks with queue := webhooks.queue ++ [item] }.save)

/-- The loop of `process_all` over a copy of the queue; `list.remove` takes the first equal entry.
-/
def processItems : List (QueueItem π) → AsyncWebhookQueue π → List String × AsyncWebhookQueue π
  | [], webhooks => ([], webhooks)
  | item :: rest, webhooks =>
      if item.eventId ∈ webhooks.processed then
        processItems rest webhooks
      else
        let (ids, after) := processItems rest { webhooks with
          processed := item.eventId :: webhooks.processed
          queue := webhooks.queue.erase item }
        (item.eventId :: ids, after)

def processAll (webhooks : AsyncWebhookQueue π) : List String × AsyncWebhookQueue π :=
  let (ids, after) := processItems webhooks.queue webhooks
  (ids, after.save)

end AsyncWebhookQueue

/-- The calls of a history. A restart opens the same file in a new process. -/
inductive QueueCall (π : Type) where
  | enqueue (item : QueueItem π)
  | processAll
  | restart

/-- A queue with the ids that were ever enqueued and those that `process_all` has returned. -/
structure QueueHistory (π : Type) where
  webhooks : AsyncWebhookQueue π
  enqueued : List String
  returned : List String

def newHistory : QueueHistory π := ⟨.open_ none, [], []⟩

def queueStep (history : QueueHistory π) : QueueCall π → List String × QueueHistory π
  | .enqueue item =>
      ([], { history with
        webhooks := (history.webhooks.enqueue item).2
        enqueued := item.eventId :: history.enqueued })
  | .processAll =>
      let (ids, after) := history.webhooks.processAll
      (ids, { history with webhooks := after, returned := ids ++ history.returned })
  | .restart => ([], { history with webhooks := .open_ history.webhooks.queueFile })

end RomaBridge.Model.WebhookQueue
