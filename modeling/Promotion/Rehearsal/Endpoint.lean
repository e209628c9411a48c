import Promotion.Rehearsal.Script
import Promotion.Webhook.Delivery

/-!
# An Endpoint for Rehearsals

An endpoint for webhooks that answers by a script and remembers the requests.

It is the only address that can be reached, and only without encryption. A
status that ends no exchange, such as zero, stands for a connection that is
closed without an answer.

## Main definitions

* `Rehearsal.Endpoint`: The script and the requests so far.
* `Rehearsal.Endpoint.transport`: The endpoint as whoever sends requests.
-/

namespace Promotion

namespace Rehearsal

/-- An endpoint that answers by a script. -/
structure Endpoint where
  statuses : List Nat
  /-- The requests so far, with the addresses they were sent to. -/
  requests : List (Http.Request × Url)

namespace Endpoint

/-- The address of the endpoint. -/
def address : String := "http://127.0.0.1:65123"

/-- Why there is no answer. -/
def silence : String := "the endpoint did not answer"

/-- The address is the endpoint's, up to path and query. -/
def isAt (url : Url) : Bool :=
  match Url.parse? address with
  | some own => own.secure == url.secure && own.host == url.host && own.port == url.port
  | none => false

/-- The status ends an exchange. -/
def isFinal (status : Nat) : Bool :=
  status == 101 || (200 ≤ status && status ≤ 999)

/-- The endpoint as whoever sends requests. -/
def transport : Http.Transport Endpoint := fun request url e =>
  if isAt url then
    let (status, statuses) := next e.statuses
    let status := status.getD 200
    let answer := if isFinal status then .ok (UInt32.ofNat status) else .error silence
    (answer, ⟨statuses, e.requests ++ [(request, url)]⟩)
  else (.error silence, e)

end Endpoint

end Rehearsal

end Promotion
