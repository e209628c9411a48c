import Promotion.Webhook.Delivery

/-!
# Telling Webhooks

An event goes to every webhook that subscribes to it, in the order of the
configuration, one after the other.

Events are told either while the caller waits or in the background. A
background task holds the webhooks that are still to be told. It starts when
somebody waits for it; it may have to wait itself; and if the dispatcher breaks
down, the webhooks it still holds are not told.

## Main definitions

* `Webhook.subscribers`: The webhooks that are told of an event.
* `Webhook.notify`: Tells them while the caller waits.
* `Webhook.Task`: What is told in the background.
* `Webhook.detach`: Starts a task.
* `Webhook.flush`: Waits for the tasks.
-/

namespace Promotion

namespace Webhook

variable {σ : Type}

/-- The webhooks that are told of an event. -/
def subscribers (webhooks : List Webhook) (event : Event) : List Webhook :=
  webhooks.filter fun w => w.subscribes event

/-- The state of a background task. -/
inductive Phase where
  | running
  | finished
  | aborted
  deriving DecidableEq, Repr

/-- What is told in the background. -/
structure Task where
  event : Event
  payload : Payload
  /-- The webhooks that are still to be told. -/
  remaining : List Webhook
  phase : Phase
  deriving DecidableEq

namespace Task

/-- The task has not come to its end. -/
def isRunning (t : Task) : Bool := t.phase = .running

/-- Tells webhooks until all are told, one has to wait, or the dispatcher breaks down. -/
def tell (dispatch : Dispatcher σ) (event : Event) (payload : Payload) :
    List Webhook → Run σ (List Webhook × Phase)
  | [] => return ([], .finished)
  | w :: rest => do
    match ← dispatch event payload w with
    | .done => tell dispatch event payload rest
    | .waiting => return (w :: rest, .running)
    | .aborted => return (rest, .aborted)

/-- The task after it went on as far as it can. -/
def advance (dispatch : Dispatcher σ) (t : Task) : Run σ Task :=
  match t.phase with
  | .running => do
    let (remaining, phase) ← tell dispatch t.event t.payload t.remaining
    return { t with remaining, phase }
  | _ => return t

end Task

/-- Tells the webhooks of an event while the caller waits. -/
def notify (dispatch : Dispatcher σ) (webhooks : List Webhook) (event : Event) (r : Record) :
    Run σ Phase := do
  let (_, phase) ← Task.tell dispatch event (.ofRecord event r) (subscribers webhooks event)
  return phase

/-- The tasks after one more was started for an event, if anybody subscribes to it. Those that
    came to their end are forgotten then. -/
def detach (webhooks : List Webhook) (event : Event) (r : Record) (pending : List Task) :
    List Task :=
  match subscribers webhooks event with
  | [] => pending
  | told =>
    pending.filter Task.isRunning ++ [⟨event, .ofRecord event r, told, .running⟩]

/-- The tasks that have not come to their end. -/
def inFlight (pending : List Task) : Nat :=
  (pending.filter Task.isRunning).length

/-- The event that is left for a task the dispatcher broke down on. -/
def abortedEvent : Log.Event :=
  .plain .warn "Webhook delivery task aborted" [("error", "the task broke down")]

/-- Lets every task go on as far as it can. -/
def advanceAll (dispatch : Dispatcher σ) : List Task → Run σ (List Task)
  | [] => return []
  | t :: rest => do
    let t ← t.advance dispatch
    let rest ← advanceAll dispatch rest
    return t :: rest

/-- Leaves an event for every task the dispatcher broke down on. -/
def reportAborted : List Task → Run σ Unit
  | [] => return ()
  | t :: rest => do
    if t.phase = .aborted then Run.emit abortedEvent
    reportAborted rest

/-- Waits for every task; none is left afterwards. -/
def flush (dispatch : Dispatcher σ) (pending : List Task) : Run σ (List Task) := do
  let ended ← advanceAll dispatch pending
  reportAborted ended
  return []

end Webhook

end Promotion
