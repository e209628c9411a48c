import Promotion.Action
import Promotion.Artifact
import Promotion.Environment
import Promotion.Table

/-!
# Running Gates

Every gate of an environment runs, in order, whatever the ones before it did.
Whether the results keep a promotion from happening is decided later, when all
of them are there.

A gate's check belongs to somebody else, so what it reports is taken with care.
If it fails to report or takes longer than the gate allows, the run counts as
failed. And a report's word on which gate it is about, and whether that gate
blocks, is replaced by the configuration's.

## Main definitions

* `Gate.Error`: Why a check reported nothing.
* `Gate.Attempt`: One call of a check.
* `Gate.Runner`: Whoever runs the checks.
* `Gate.Attempt.result`: What is recorded of a call.
* `Gate.runAll`: Every gate of an environment, in order.
* `Gate.Checks`: A runner made of named checks.
-/

namespace Promotion

namespace Gate

/-- Why a check reported nothing. -/
inductive Error where
  | unregistered (name : String)
  | check (reason : String)
  | timeout (seconds : UInt64)
  deriving DecidableEq, Repr

/-- The reason as people read it. -/
def Error.message : Error → String
  | unregistered name => "no check registered for gate '" ++ name ++ "'"
  | check reason => reason
  | timeout seconds => "gate timed out after " ++ Decimal.text seconds.toNat ++ "s"

/-- One call of a check: what came of it and when. -/
structure Attempt where
  outcome : Except Error Result
  /-- The time until the outcome was there, on the clock that limits are kept by. -/
  tookMs : Nat
  /-- The duration that is recorded when the check reported nothing. -/
  measuredMs : UInt64

/-- What a check is told. -/
structure Subject where
  artifact : Artifact
  environment : Environment
  dryRun : Bool

/-- Whoever runs the check of a gate's name. -/
abbrev Runner (σ : Type) := String → Subject → σ → Attempt × σ

namespace Attempt

/-- The outcome, unless it came too late. -/
def outcomeWithin (a : Attempt) (limit : Option UInt64) : Except Error Result :=
  match limit with
  | none => a.outcome
  | some seconds =>
    if 1000 * seconds.toNat < a.tookMs then .error (.timeout seconds) else a.outcome

/-- What is recorded of a call for a gate. -/
def result (a : Attempt) (gate : Gate) : Result :=
  let reported := match a.outcomeWithin gate.timeoutSeconds with
    | .ok r => r
    | .error e => .failed gate.name e.message a.measuredMs
  { reported with gate := gate.name, required := gate.required }

/-- The event that a call leaves, if it reported nothing. -/
def event? (a : Attempt) (gate : Gate) (environment : String) : Option Log.Event :=
  match a.outcomeWithin gate.timeoutSeconds with
  | .ok _ => none
  | .error e => some <| .plain .warn "Gate errored"
      [("gate", gate.name), ("environment", environment), ("error", e.message)]

end Attempt

variable {σ : Type}

/-- Runs one gate. -/
def runOne (runner : Runner σ) (subject : Subject) (gate : Gate) : Run σ Result := do
  let attempt ← Run.ofWorld (runner gate.name subject)
  match attempt.event? gate subject.environment.name with
  | some event => Run.emit event
  | none => pure ()
  return attempt.result gate

/-- Runs some gates in order. -/
def runList (runner : Runner σ) (subject : Subject) : List Gate → Run σ (List Result)
  | [] => return []
  | gate :: rest => do
    let result ← runOne runner subject gate
    let results ← runList runner subject rest
    return result :: results

/-- Runs every gate of the environment, in order. -/
def runAll (runner : Runner σ) (subject : Subject) : Run σ (List Result) :=
  runList runner subject subject.environment.gates

/-- What a named check finds. -/
inductive Finding where
  | pass
  | fail (reason : String)
  | skip (reason : String)
  deriving DecidableEq, Repr

/-- The result of what a check found. -/
def Finding.result (gate : String) (durationMs : UInt64) : Finding → Result
  | pass => .passed gate durationMs
  | fail reason => .failed gate reason durationMs
  | skip reason => .skipped gate reason

/-- What one call of a named check answers. -/
structure Answer where
  outcome : Except Error Finding
  tookMs : Nat
  measuredMs : UInt64

/-- Checks under the names of their gates. -/
structure Checks (σ : Type) where
  table : Table String (Subject → σ → Answer × σ)

namespace Checks

/-- No checks. -/
def empty : Checks σ := ⟨.empty⟩

/-- One more check; it replaces the one of its name. -/
def withCheck (c : Checks σ) (name : String) (check : Subject → σ → Answer × σ) : Checks σ :=
  ⟨c.table.insert name check⟩

/-- There is a check of the name. -/
def isRegistered (c : Checks σ) (name : String) : Bool :=
  (c.table.find? name).isSome

/-- The checks as a runner: a gate without a check reports that it has none. -/
def runner (c : Checks σ) : Runner σ := fun name subject w =>
  match c.table.find? name with
  | none => (⟨.error (.unregistered name), 0, 0⟩, w)
  | some check =>
    let (answer, w) := check subject w
    (⟨answer.outcome.map (Finding.result name answer.measuredMs), answer.tookMs,
      answer.measuredMs⟩, w)

end Checks

end Gate

end Promotion
