import Promotion.Format.Record

/-!
# Webhooks

An address that is told of promotions, and the events it is told of.
-/

namespace Promotion

namespace Webhook

/-- What a webhook can be told. -/
inductive Event where
  /-- A promotion took place. -/
  | promote
  /-- A required gate failed, so that a promotion did not take place. -/
  | gateFailed
  deriving DecidableEq, Repr, Inhabited

namespace Event

/-- The name of the event. -/
def name : Event → String
  | promote => "promote"
  | gateFailed => "gate_failed"

/-- The format of an event. -/
def format : Format Event := .oneOf [promote, gateFailed] name

end Event

end Webhook

/-- An address that is told of promotions. -/
structure Webhook where
  url : String
  events : List Webhook.Event
  /-- The seconds an attempt may take. -/
  timeoutSeconds : UInt64
  /-- The attempts after the first. -/
  retryCount : UInt32
  /-- The headers of every request. -/
  headers : SortedMap String
  deriving DecidableEq, Inhabited

namespace Webhook

/-- A webhook that is told of promotions, with three more attempts of ten seconds. -/
def ofUrl (url : String) : Webhook := ⟨url, [.promote], 10, 3, .empty⟩

/-- The webhook with other events. -/
def withEvents (w : Webhook) (events : List Event) : Webhook :=
  { w with events }

/-- The webhook with another number of further attempts. -/
def withRetries (w : Webhook) (retryCount : UInt32) : Webhook :=
  { w with retryCount }

/-- The webhook with another limit on its time. -/
def withTimeout (w : Webhook) (timeoutSeconds : UInt64) : Webhook :=
  { w with timeoutSeconds }

/-- The webhook with a header. -/
def withHeader (w : Webhook) (name value : String) : Webhook :=
  { w with headers := w.headers.insert name value }

/-- The webhook is told of an event. -/
def subscribes (w : Webhook) (event : Event) : Bool :=
  w.events.contains event

/-- The members of a webhook. -/
def members : Members Webhook
    (String → List Event → UInt64 → UInt32 → SortedMap String → Webhook) :=
  .cons (.required "url" .string) url <|
  .cons (.defaulted "events" (.list Event.format) [.promote]) events <|
  .cons (.defaulted "timeout_seconds" .uint64 10) timeoutSeconds <|
  .cons (.defaulted "retry_count" .uint32 3) retryCount <|
  .cons (.defaulted "headers" (.map .string) .empty) headers .nil

/-- The format of a webhook. -/
def format : Format Webhook := .record mk members

end Webhook

end Promotion
