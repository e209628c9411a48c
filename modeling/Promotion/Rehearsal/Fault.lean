/-!
# Planned Faults

Failures that a rehearsal plans for a registry or a log.

A plan is a list. At each request it is looked through in order: a fault that
is about the request strikes, unless it lets some requests pass first or has
struck as often as it may.

## Main definitions

* `Rehearsal.Fault`: A planned failure.
* `Rehearsal.strike`: Whether a request fails.
-/

namespace Promotion

namespace Rehearsal

/-- What is asked of a registry or a log, as far as faults tell it apart. -/
inductive Request where
  | resolve
  | fetch
  | create
  | remove
  | append
  | query
  deriving DecidableEq, Repr

/-- A planned failure. -/
structure Fault where
  request : Request
  /-- The tag that requests have to be about; none for any. -/
  tag : Option String
  /-- The requests that pass first. -/
  skip : Nat
  /-- The requests that fail; none for all. -/
  times : Option Nat
  message : String
  deriving DecidableEq, Repr

/-- The fault is about a request. -/
def Fault.concerns (f : Fault) (request : Request) (tag : Option String) : Bool :=
  f.request = request && (f.tag.isNone || f.tag = tag)

/-- The message of the first fault that strikes a request, and the plan that is left. -/
def strike (request : Request) (tag : Option String) :
    List Fault → Option String × List Fault
  | [] => (none, [])
  | f :: rest =>
    match f.concerns request tag, f.skip, f.times with
    | true, 0, none => (some f.message, f :: rest)
    | true, 0, some (n + 1) => (some f.message, { f with times := some n } :: rest)
    | concerned, skip, _ =>
      let (message, rest) := strike request tag rest
      (message, { f with skip := if concerned then skip - 1 else skip } :: rest)

end Rehearsal

end Promotion
