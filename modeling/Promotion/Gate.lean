import Promotion.Format.Record

/-!
# Gates

A gate is a named check that runs before an artifact enters an environment. Its
configuration says whether a failure blocks the promotion and how long the
check may take; its result says how one run of it went.

## Main definitions

* `Gate`: The configuration of a gate.
* `Gate.Status`: How a run ended.
* `Gate.Result`: What is recorded of a run.
* `Gate.Result.blocks`: The run keeps the promotion from happening.
-/

namespace Promotion

/-- A gate as an environment configures it. -/
structure Gate where
  name : String
  /-- A failure blocks a promotion. -/
  required : Bool
  /-- The seconds a run may take. -/
  timeoutSeconds : Option UInt64
  deriving DecidableEq, Repr, Inhabited

namespace Gate

/-- A gate whose failure blocks. -/
def mandatory (name : String) : Gate := ⟨name, true, none⟩

/-- A gate whose failure is recorded and no more. -/
def advisory (name : String) : Gate := ⟨name, false, none⟩

/-- The gate with a limit on its time. -/
def withTimeout (g : Gate) (seconds : UInt64) : Gate :=
  { g with timeoutSeconds := some seconds }

/-- The members of a gate. -/
def members : Members Gate (String → Bool → Option UInt64 → Gate) :=
  .cons (.required "name" .string) name <|
  .cons (.defaulted "required" .bool true) required <|
  .cons (.defaulted "timeout_seconds" (.option .uint64) none) timeoutSeconds .nil

/-- The format of a gate. -/
def format : Format Gate := .record mk members

/-- How a run of a gate ended. -/
inductive Status where
  | passed
  | failed
  | skipped
  deriving DecidableEq, Repr, Inhabited

namespace Status

/-- The name of the status. -/
def name : Status → String
  | passed => "PASSED"
  | failed => "FAILED"
  | skipped => "SKIPPED"

/-- The format of a status. -/
def format : Format Status := .oneOf [passed, failed, skipped] name

end Status

/-- What is recorded of one run of a gate. -/
structure Result where
  gate : String
  status : Status
  durationMs : UInt64
  /-- Why the gate failed or was skipped. -/
  error : Option String
  /-- A failure blocks a promotion. -/
  required : Bool
  deriving DecidableEq, Repr, Inhabited

namespace Result

/-- A run that passed. -/
def passed (gate : String) (durationMs : UInt64) : Result :=
  ⟨gate, .passed, durationMs, none, false⟩

/-- A run that failed, with the reason. -/
def failed (gate reason : String) (durationMs : UInt64) : Result :=
  ⟨gate, .failed, durationMs, some reason, false⟩

/-- A run that did not take place, with the reason. -/
def skipped (gate reason : String) : Result :=
  ⟨gate, .skipped, 0, some reason, false⟩

/-- The result with the gate's own rule on blocking. -/
def withRequired (r : Result) (required : Bool) : Result :=
  { r with required }

/-- The run failed. -/
def hasFailed (r : Result) : Bool :=
  r.status = .failed

/-- The run failed and keeps the promotion from happening. -/
def blocks (r : Result) : Bool :=
  r.required && r.hasFailed

/-- The members of a result. -/
def members : Members Result (String → Status → UInt64 → Option String → Bool → Result) :=
  .cons (.required "gate" .string) gate <|
  .cons (.required "status" Status.format) status <|
  .cons (.required "duration_ms" .uint64) durationMs <|
  .cons (.whenPresent "error" .string) error <|
  .cons (.defaulted "required" .bool false) required .nil

/-- The format of a result. -/
def format : Format Result := .record mk members

end Result

end Gate

end Promotion
