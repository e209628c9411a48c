import Promotion.Webhook.Schedule

/-!
# A Turnstile for Deliveries

A dispatcher for rehearsals that takes what it is given and delivers nothing.

It can be held, and then every delivery needs a permit. Permits go to the tasks
that wait, in the order in which they came; what is left over is kept for those
that come later. A permit is used up by the delivery that took it. On some
addresses the dispatcher breaks down.

## Main definitions

* `Rehearsal.Turnstile`: The permits and the deliveries so far.
* `Rehearsal.Turnstile.dispatcher`: The dispatcher for a task.
* `Rehearsal.Turnstile.release`: Gives permits.
-/

namespace Promotion

namespace Rehearsal

/-- An event that was handed over for a webhook. -/
structure Delivery where
  event : Webhook.Event
  payload : Webhook.Payload
  url : String

/-- A dispatcher that lets deliveries wait for permits. -/
structure Turnstile where
  /-- Every delivery needs a permit. -/
  held : Bool
  /-- The addresses that the dispatcher breaks down on. -/
  breaksOn : List String
  /-- The permits that nobody waits for. -/
  permits : Nat
  /-- The tasks that were given a permit and have not used it. -/
  granted : List Nat
  /-- The tasks that wait, in order. -/
  waiting : List Nat
  delivered : List Delivery

namespace Turnstile

/-- Lets a task pass if it needs no permit or has one. Else the task waits. -/
def enter (task : Nat) (t : Turnstile) : Bool × Turnstile :=
  if !t.held then (true, t)
  else if t.granted.contains task then (true, { t with granted := t.granted.erase task })
  else if 0 < t.permits then (true, { t with permits := t.permits - 1 })
  else (false, { t with waiting := t.waiting ++ [task] })

/-- The dispatcher for a task. -/
def dispatcher (task : Nat) : Webhook.Dispatcher Turnstile := fun event payload w => do
  let admitted ← Run.ofWorld (enter task)
  if !admitted then return .waiting
  else if (← Run.ofWorld fun t => (t.breaksOn, t)).contains w.url then return .aborted
  else
    Run.ofWorld fun t =>
      (.done, { t with delivered := t.delivered ++ [⟨event, payload, w.url⟩] })

/-- Gives permits to the tasks that wait and keeps the others. The tasks that got one are told. -/
def release (count : Nat) (t : Turnstile) : List Nat × Turnstile :=
  let served := t.waiting.take count
  (served, { t with
    waiting := t.waiting.drop count
    granted := t.granted ++ served
    permits := t.permits + (count - served.length) })

end Turnstile

end Rehearsal

end Promotion
