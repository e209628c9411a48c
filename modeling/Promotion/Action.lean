import Promotion.Log

/-!
# Actions

Steps that change a world outside the program, leave events in the log, and may
fail.

The world is any type. A step that fails keeps the changes and the events up to
its failure: nothing outside the program is undone by an error. Undoing is a
step of its own, and where it is called for it is written out.

## Main definitions

* `Traced`: A world and the events so far.
* `Run`: A step that cannot fail.
* `Action`: A step that may.
* `Call`: What somebody outside answers.
* `Action.perform`, `Action.emit`, `Action.observe`: Steps.
-/

namespace Promotion

/-- A world and the events so far. -/
structure Traced (σ : Type) where
  world : σ
  log : List Log.Event

/-- A step that changes the world and cannot fail. -/
abbrev Run (σ α : Type) := StateM (Traced σ) α

/-- A step that changes the world and may fail. -/
abbrev Action (σ ε α : Type) := ExceptT ε (StateM (Traced σ)) α

/-- What somebody outside answers, and the world afterwards. -/
abbrev Call (σ ε α : Type) := σ → Except ε α × σ

namespace Run

variable {σ α : Type}

/-- Leaves an event. -/
def emit (e : Log.Event) : Run σ Unit :=
  modify fun t => { t with log := t.log ++ [e] }

/-- A step of the world alone. -/
def ofWorld (step : σ → α × σ) : Run σ α := fun t =>
  let (a, w) := step t.world
  (a, { t with world := w })

/-- The result of a run from a world with nothing in the log. -/
def start (r : Run σ α) (world : σ) : α × Traced σ :=
  r ⟨world, []⟩

end Run

namespace Action

variable {σ ε α : Type}

/-- Leaves an event. -/
def emit (e : Log.Event) : Action σ ε Unit :=
  ExceptT.lift (Run.emit e)

/-- Asks somebody outside. -/
def perform (call : Call σ ε α) : Action σ ε α :=
  ExceptT.mk (Run.ofWorld call)

/-- A step of the world alone. -/
def ofWorld (step : σ → α × σ) : Action σ ε α :=
  ExceptT.lift (Run.ofWorld step)

/-- The outcome of a step, failure or not, as a value. -/
def observe {ε' : Type} (a : Action σ ε α) : Action σ ε' (Except ε α) :=
  ExceptT.lift (ExceptT.run a)

/-- The step with its failures told in other words. -/
def mapError {ε' : Type} (f : ε → ε') (a : Action σ ε α) : Action σ ε' α :=
  ExceptT.mk do
    let r ← ExceptT.run a
    return r.mapError f

/-- The result of an action from a world with nothing in the log. -/
def start (a : Action σ ε α) (world : σ) : Except ε α × Traced σ :=
  ExceptT.run a ⟨world, []⟩

end Action

end Promotion
