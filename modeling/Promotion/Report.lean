import Promotion.Audit.Chain
import Promotion.Error
import Promotion.Gate.Run
import Promotion.Registry
import Promotion.Signature.Verifier

/-!
# Reports

Failures, verdicts and log events as data for other programs.

A failure is told as its kind and its text. The kinds are names that programs
may rely on. Of the texts, those of an operating system or a parser differ from
place to place, so a failure that has only such a text is told by its kind.

## Main definitions

* `Report.failure`: A failure with its text.
* `Error.report`, `Audit.Error.report`, `Registry.Error.report`, `Gate.Error.report`,
  `Signature.Failure.report`: The failures of each part.
* `Audit.Verdict.report`: What looking through a log found.
* `Log.Event.report`: An event of the log.
-/

namespace Promotion

namespace Report

/-- A failure with its text. -/
def failure (kind message : String) : Json :=
  .object [("error", .string kind), ("message", .string message)]

/-- A value that may be missing. -/
def optional {α : Type} (f : α → Json) (a : Option α) : Json :=
  (a.map f).getD .null

end Report

open Report

namespace Audit

namespace Error

/-- The kind of the failure. -/
def kind : Error → String
  | dryRunRecord _ => "DryRunRecord"
  | io _ => "Io"
  | malformedEntry => "Serialization"
  | integrityFailed _ => "IntegrityFailed"

/-- The text of the failure comes from an operating system or a parser. -/
def isForeign : Error → Bool
  | io (.reported _) => false
  | io _ | malformedEntry => true
  | dryRunRecord _ | integrityFailed _ => false

/-- The failure as data. -/
def report (e : Error) : Json :=
  if e.isForeign then .object [("error", .string e.kind)] else failure e.kind e.message

end Error

/-- The verdict as data. -/
def Verdict.report (v : Verdict) : Json :=
  .object [("valid", .bool v.valid), ("total", .nat v.total), ("verified", .nat v.verified),
    ("first_invalid", optional .nat v.firstInvalid), ("message", optional .string v.message?)]

end Audit

namespace Registry.Error

/-- The kind of the failure. -/
def kind : Error → String
  | notFound .. => "NotFound"
  | contentMissing _ => "ContentMissing"
  | unavailable _ => "Unavailable"

/-- The failure as data. -/
def report (e : Error) : Json := failure e.kind e.message

end Registry.Error

namespace Gate.Error

/-- The kind of the failure. -/
def kind : Error → String
  | unregistered _ => "Unregistered"
  | check _ => "Check"
  | timeout _ => "Timeout"

/-- The failure as data. -/
def report (e : Error) : Json := failure e.kind e.message

end Gate.Error

namespace Signature.Failure

/-- The kind of the failure. -/
def kind : Failure → String
  | invalid _ => "InvalidSignature"
  | unsigned _ => "Unsigned"
  | unavailable _ => "Unavailable"
  | content _ => "Content"

/-- The failure as data. -/
def report (e : Failure) : Json := failure e.kind e.message

end Signature.Failure

/-- The kind of what is wrong with a pipeline. -/
def Pipeline.Fault.kind : Fault → String
  | noEnvironments => "NoEnvironments"
  | blankName => "EmptyEnvironmentName"
  | duplicateEnvironment _ => "DuplicateEnvironment"
  | duplicateGate .. => "DuplicateGate"
  | blankUrl => "InvalidWebhook"
  | gateTimeout .. | webhookTimeout _ => "InvalidTimeout"

namespace Error

/-- The kind of the failure. -/
def kind : Error → String
  | illegalMove .. => "InvalidTransition"
  | artifactNotFound .. => "ArtifactNotFound"
  | gatesFailed .. => "GateValidation"
  | signatureRejected .. => "SignatureVerification"
  | notAuthorized .. => "Authorization"
  | registry _ => "Registry"
  | audit _ => "Audit"
  | settings _ => "Config"

/-- The failure comes without a text of this library. -/
def isForeign : Error → Bool
  | audit cause => cause.isForeign
  | settings .unreadable => true
  | _ => false

/-- What else is told of a failure: the log's own failure, or the results of the gates. -/
def details : Error → List (String × Json)
  | audit cause => [("cause", .string cause.kind)]
  | gatesFailed _ _ _ results =>
    [("gate_results", .array (results.map Gate.Result.format.encode))]
  | _ => []

/-- The failure as data. -/
def report (e : Error) : Json :=
  let message := if e.isForeign then [] else [("message", .string e.message)]
  .object (("error", .string e.kind) :: (message ++ e.details))

end Error

/-- The event as data. -/
def Log.Event.report (e : Log.Event) : Json :=
  .object [("level", .string e.level.name), ("audit", .bool e.audit),
    ("message", .string e.message),
    ("fields", .object (e.fields.map fun (name, value) => (name, .string value)))]

end Promotion
