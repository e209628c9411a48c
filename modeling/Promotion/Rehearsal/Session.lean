import Promotion.Rehearsal

/-!
# Sessions

A controller at work in a rehearsal, call after call.

Between calls the world may change: somebody publishes an artifact, or the plan
for the collaborators becomes another. And the controller may be started anew,
which keeps the world and forgets what the controller remembered.

## Main definitions

* `Rehearsal.Session`: A controller and its state.
* `Rehearsal.Session.perform`: A call of the controller.
* `Rehearsal.Session.restart`: The controller started anew.
-/

namespace Promotion

namespace Rehearsal

/-- A controller at work. -/
structure Session where
  controller : Controller (World Stage)
  state : Controller.State (World Stage)

namespace Session

/-- The world of the session. -/
def world (s : Session) : World Stage := s.state.world

/-- The session after its world changed. -/
def changed (s : Session) (f : World Stage → World Stage) : Session :=
  { s with state := { s.state with world := f s.world } }

/-- The session after its plan changed. -/
def planned (s : Session) (f : Stage → Stage) : Session :=
  s.changed fun w => { w with around := f w.around }

/-- A call of the controller: its answer, the session after it, and what it logged. -/
def perform {α : Type} (s : Session) (a : Action (Controller.State (World Stage)) Error α) :
    Except Error α × Session × List Log.Event :=
  let (answer, t) := a.start s.state
  (answer, { s with state := t.world }, t.log)

/-- The session after the webhooks were told, and what that logged. -/
def flushed (s : Session) : Session × List Log.Event :=
  let (_, t) := s.controller.flush.start s.state
  ({ s with state := t.world }, t.log)

/-- The controller started anew: the log is opened again, and nothing is remembered. -/
def restart (s : Session) : Except Audit.Error Session := do
  let audit ← s.world.audit.reopen
  return { s with state := .fresh { s.world with audit } }

end Session

end Rehearsal

end Promotion
