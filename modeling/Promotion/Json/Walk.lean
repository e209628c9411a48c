import Promotion.Json

/-!
# Walking through JSON

Changes to a value that keep its shape: the members of its objects put in the
order of their names, and its leaves replaced one after another.

A leaf is everything but an array or an object. Leaves are met in the order in
which they are written, so a change can depend on those before.

## Main definitions

* `Json.sorted`: The value with the members of its objects in order.
* `Json.walk`: The value with its leaves replaced.
-/

namespace Promotion

namespace Json

mutual

/-- The value with the members of its objects in the order of their names. -/
def sorted : Json → Json
  | .array es => .array (sortedElements es)
  | .object ms => .object ((sortedMembers ms).mergeSort fun a b => a.1 ≤ b.1)
  | v => v

/-- Elements with the members of their objects in order. -/
def sortedElements : List Json → List Json
  | [] => []
  | v :: rest => sorted v :: sortedElements rest

/-- Members with the members of their objects in order. -/
def sortedMembers : List (String × Json) → List (String × Json)
  | [] => []
  | (k, v) :: rest => (k, sorted v) :: sortedMembers rest

end

variable {σ : Type} (change : String → Json → StateM σ Json)

mutual

/-- The value with its leaves replaced; each is told with the name of the member it belongs to. -/
def walk (name : String) : Json → StateM σ Json
  | .array es => return .array (← walkElements name es)
  | .object ms => return .object (← walkMembers ms)
  | v => change name v

/-- Elements with their leaves replaced. -/
def walkElements (name : String) : List Json → StateM σ (List Json)
  | [] => return []
  | v :: rest => do
    let v ← walk name v
    let rest ← walkElements name rest
    return v :: rest

/-- Members with their leaves replaced. -/
def walkMembers : List (String × Json) → StateM σ (List (String × Json))
  | [] => return []
  | (k, v) :: rest => do
    let v ← walk k v
    let rest ← walkMembers rest
    return (k, v) :: rest

end

end Json

end Promotion
