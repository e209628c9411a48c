import Promotion.Environment
import Promotion.Text.Blank
import Promotion.Webhook

/-!
# Pipelines

The environments in the order artifacts go through them, and the webhooks that
are told.

The order is the only source of legal moves: an artifact goes from one
environment into the next, never past it and never back. A pipeline is checked
once, before anything is promoted with it, and the first thing wrong with it in
order of reading is what the check reports.

## Main definitions

* `Pipeline`: Environments and webhooks.
* `Pipeline.Fault`, `Pipeline.firstFault`: What is wrong with a pipeline.
* `Pipeline.move`: The places of a legal move.
* `Pipeline.Refusal`: Why a move is none.
-/

namespace Promotion

/-- The environments in order, and the webhooks that are told. -/
structure Pipeline where
  environments : List Environment
  webhooks : List Webhook
  deriving DecidableEq, Inhabited

namespace Pipeline

/-- The pipeline without environments or webhooks. -/
def empty : Pipeline := ⟨[], []⟩

/-- The pipeline with one more webhook. -/
def withWebhook (p : Pipeline) (w : Webhook) : Pipeline :=
  { p with webhooks := p.webhooks ++ [w] }

/-- The place of the first environment of a name. -/
def position? (p : Pipeline) (name : String) : Option Nat :=
  p.environments.findIdx? fun e => e.name = name

/-- The first environment of a name. -/
def environment? (p : Pipeline) (name : String) : Option Environment :=
  p.environments.find? fun e => e.name = name

/-- The names of the environments in order. -/
def names (p : Pipeline) : List String :=
  p.environments.map Environment.name

/-- The members of a pipeline. -/
def members : Members Pipeline (List Environment → List Webhook → Pipeline) :=
  .cons (.defaulted "environments" (.list Environment.format) []) environments <|
  .cons (.defaulted "webhooks" (.list Webhook.format) []) webhooks .nil

/-- The format of a pipeline. -/
def format : Format Pipeline := .record mk members

/-- What is wrong with a pipeline. -/
inductive Fault where
  | noEnvironments
  | blankName
  | duplicateEnvironment (name : String)
  | duplicateGate (environment gate : String)
  | blankUrl
  /-- A gate that may take no time. -/
  | gateTimeout (environment gate : String)
  /-- A webhook that may take no time. -/
  | webhookTimeout (url : String)
  deriving DecidableEq, Repr

/-- What is wrong, as people read it. -/
def Fault.message : Fault → String
  | noEnvironments => "At least one environment must be configured"
  | blankName => "Environment name must not be empty"
  | duplicateEnvironment name => "Duplicate environment: " ++ name
  | duplicateGate environment gate =>
    "Duplicate gate '" ++ gate ++ "' in environment '" ++ environment ++ "'"
  | blankUrl => "Invalid webhook: url must not be empty"
  | gateTimeout environment gate =>
    "Timeout must be greater than zero: gate '" ++ gate ++ "' in '" ++ environment ++ "'"
  | webhookTimeout url => "Timeout must be greater than zero: webhook " ++ url

/-- The first thing wrong with the gates of an environment, after gates with the names `seen`. -/
def gateFault (environment : String) (seen : List String) : List Gate → Option Fault
  | [] => none
  | g :: rest =>
    if seen.contains g.name then some (.duplicateGate environment g.name)
    else if g.timeoutSeconds = some 0 then some (.gateTimeout environment g.name)
    else gateFault environment (g.name :: seen) rest

/-- The first thing wrong with some environments, after environments with the names `seen`. -/
def environmentFault (seen : List String) : List Environment → Option Fault
  | [] => none
  | e :: rest =>
    if Text.allBlank e.name then some .blankName
    else if seen.contains e.name then some (.duplicateEnvironment e.name)
    else (gateFault e.name [] e.gates).or (environmentFault (e.name :: seen) rest)

/-- What is wrong with a webhook. -/
def webhookFault (w : Webhook) : Option Fault :=
  if Text.allBlank w.url then some .blankUrl
  else if w.timeoutSeconds = 0 then some (.webhookTimeout w.url)
  else none

/-- The first thing wrong with a pipeline in order of reading. -/
def firstFault (p : Pipeline) : Option Fault :=
  if p.environments.isEmpty then some .noEnvironments
  else (environmentFault [] p.environments).or (p.webhooks.findSome? webhookFault)

/-- Nothing is wrong with the pipeline. -/
def validate (p : Pipeline) : Except Fault Unit :=
  match p.firstFault with
  | some fault => .error fault
  | none => .ok ()

/-- Why a move is not legal. -/
inductive Refusal where
  | unknown (name : String)
  | same
  | skips
  | backwards
  deriving DecidableEq, Repr

/-- The reason as people read it. -/
def Refusal.message : Refusal → String
  | unknown name => "unknown environment '" ++ name ++ "'"
  | same => "source and target are the same environment"
  | skips => "cannot skip environments"
  | backwards => "cannot promote backwards"

/-- The places of the environments of a move, which has to lead into the next one. -/
def move (p : Pipeline) (source target : String) : Except Refusal (Nat × Nat) :=
  match p.position? source, p.position? target with
  | none, _ => .error (.unknown source)
  | some _, none => .error (.unknown target)
  | some i, some j =>
    if j = i + 1 then .ok (i, j)
    else if j = i then .error .same
    else if i < j then .error .skips
    else .error .backwards

end Pipeline

end Promotion
