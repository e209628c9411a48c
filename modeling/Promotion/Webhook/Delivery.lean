import Promotion.Action
import Promotion.Http.Header
import Promotion.Http.Url
import Promotion.Json.Printer
import Promotion.Record

/-!
# Delivering to Webhooks

How a payload is brought to a webhook: one request per attempt, the same each
time, until one succeeds or the attempts are used up.

The headers are looked at before the first attempt, since a header that is
wrong stays wrong. An attempt succeeds when the answer's status is in the two
hundreds; any other status fails it, and so does an address or a connection
that yields no answer. Whoever dispatches an event is told nothing of a
failure: it is logged.

## Main definitions

* `Http.Request`, `Http.Transport`: What is sent, and whoever sends it.
* `Webhook.request`: The request of every attempt.
* `Webhook.AttemptFailure`, `Webhook.DeliveryError`: What can go wrong.
* `Webhook.deliver`: Attempts until one succeeds.
* `Webhook.dispatch`: A delivery whose failure is logged.
-/

namespace Promotion

namespace Http

/-- A request that posts a text. -/
structure Request where
  url : String
  /-- The seconds until an answer is no longer waited for. -/
  timeoutSeconds : UInt64
  headers : SortedMap String
  body : String
  deriving DecidableEq, Inhabited

/-- Whoever sends requests: the status of the answer, or why there is none. -/
abbrev Transport (σ : Type) := Request → Url → Call σ String UInt32

end Http

namespace Webhook

/-- Why an attempt failed. -/
inductive AttemptFailure where
  | transport (url reason : String)
  | status (url : String) (code : UInt32)
  deriving DecidableEq, Repr

/-- The reason as people read it. -/
def AttemptFailure.message : AttemptFailure → String
  | transport url reason => "Request to " ++ url ++ " failed: " ++ reason
  | status url code =>
    "Endpoint " ++ url ++ " responded with status " ++ Decimal.text code.toNat

/-- Why a payload was not delivered. -/
inductive DeliveryError where
  | invalidHeader (name : String) (fault : Http.HeaderFault)
  | exhausted (url : String) (attempts : Nat) (last : String)
  deriving DecidableEq, Repr

/-- The reason as people read it. -/
def DeliveryError.message : DeliveryError → String
  | invalidHeader name fault => "Invalid header '" ++ name ++ "': " ++ fault.message
  | exhausted url attempts last =>
    "Gave up on " ++ url ++ " after " ++ Decimal.text attempts ++ " attempts: " ++ last

/-- The most attempts: one more than the configured ones, as far as 32 bits go. -/
def maxAttempts (w : Webhook) : Nat :=
  min (w.retryCount.toNat + 1) (UInt32.size - 1)

/-- How the sender names itself. -/
def userAgent : String := "ladder-webhook/0.1.0"

/-- The request of every attempt, with the webhook's own headers before the defaults. -/
def request (w : Webhook) (headers : SortedMap String) (payload : Payload) : Http.Request where
  url := w.url
  timeoutSeconds := w.timeoutSeconds
  headers := Http.withDefault (Http.withDefault headers "content-type" "application/json")
    "user-agent" userAgent
  body := (Payload.format.encode payload).compact

variable {σ : Type}

/-- The status of an answer, if it says that the request was taken. -/
def judgeStatus (url : String) (status : UInt32) : Except AttemptFailure Unit :=
  if 200 ≤ status ∧ status ≤ 299 then .ok () else .error (.status url status)

/-- The reason that an address cannot be requested. -/
def unrequestable : String := "the address cannot be requested"

/-- One attempt. -/
def attempt (send : Http.Transport σ) (r : Http.Request) : Call σ AttemptFailure Unit := fun w =>
  match Url.parse? r.url with
  | none => (.error (.transport r.url unrequestable), w)
  | some url =>
    match send r url w with
    | (.error reason, w) => (.error (.transport r.url reason), w)
    | (.ok status, w) => (judgeStatus r.url status, w)

/-- The event that a failed attempt leaves. -/
def attemptEvent (url : String) (attempt total : Nat) (failure : AttemptFailure) : Log.Event :=
  .plain .warn "Webhook delivery attempt failed"
    [("url", url), ("attempt", Decimal.text attempt), ("max_attempts", Decimal.text total),
      ("error", failure.message)]

/-- Attempts until one succeeds. `left` are left of `total`, and `last` is the latest failure. -/
def attempts (send : Http.Transport σ) (r : Http.Request) (total : Nat) :
    Nat → String → Action σ DeliveryError Nat
  | 0, last => throw (.exhausted r.url total last)
  | left + 1, _ => do
    let number := total - left
    match ← Action.ofWorld (attempt send r) with
    | .ok () => return number
    | .error failure =>
      Action.emit (attemptEvent r.url number total failure)
      attempts send r total left failure.message

/-- Attempts until one succeeds; the number of attempts it took. -/
def deliver (send : Http.Transport σ) (w : Webhook) (payload : Payload) :
    Action σ DeliveryError Nat :=
  match Http.headers w.headers.toList with
  | .error (name, fault) => throw (.invalidHeader name fault)
  | .ok headers => attempts send (w.request headers payload) w.maxAttempts w.maxAttempts ""

/-- What became of an event that was handed over for a webhook. -/
inductive Dispatched where
  /-- It was dealt with, delivered or not. -/
  | done
  /-- It cannot be dealt with yet. -/
  | waiting
  /-- Whoever dealt with it broke down. -/
  | aborted
  deriving DecidableEq, Repr

/-- Whoever takes events for webhooks. -/
abbrev Dispatcher (σ : Type) := Event → Payload → Webhook → Run σ Dispatched

/-- A delivery whose failure is logged and told nobody. -/
def dispatch (send : Http.Transport σ) : Dispatcher σ := fun event payload w => do
  match ← ExceptT.run (deliver send w payload) with
  | .ok _ => pure ()
  | .error e =>
    Run.emit <| .audited .error "webhook_delivery_failed" "Webhook delivery failed"
      [("webhook_event", event.name), ("promotion_id", payload.id.label), ("url", w.url),
        ("error", e.message)]
  return .done

end Webhook

end Promotion
