import Promotion.Access
import Promotion.Gate.Run
import Promotion.Registry
import Promotion.Signature.Cache
import Promotion.Webhook.Notifier

/-!
# Promotions

One promotion of a tag from an environment into the next.

The move is checked, the tag is resolved to its digest, every gate of the
target runs, the signature is looked at as the target demands, and the operator
has to be let in. That much is done for a dry run too, and it writes nothing.
A promotion that is meant then stops at a required gate that failed. Else the
target's copy of the tag and its latest tag are pointed to the digest, and the
record is added to the audit log.

Tags and log are two places, so the three writes can fail in between. The tags
were looked up before, and on a failure they are put back, so that no promotion
is left without its record. Putting back can fail as well; then the failure
that led to it is still the one that is told.

Webhooks are told in the background, after the call has its result.

## Main definitions

* `Collaborators`: Everybody a controller works with.
* `Controller`: A pipeline, a registry's address and collaborators.
* `Controller.State`: The world, and what a controller remembers.
* `Controller.assess`: What a dry run and a promotion have in common.
* `Controller.land`: What only a promotion does.
* `Controller.promote`: A promotion or a dry run.
* `Controller.flush`: Waits until the webhooks are told.
-/

namespace Promotion

/-- Everybody a controller works with. -/
structure Collaborators (σ : Type) where
  registry : Registry.Client σ
  gates : Gate.Runner σ
  verifier : Signature.Verifier σ
  audit : Audit.Log σ
  dispatch : Webhook.Dispatcher σ
  clock : σ → Timestamp × σ
  freshId : σ → PromotionId × σ

/-- What a controller is made of. -/
structure Controller (σ : Type) where
  pipeline : Pipeline
  /-- The address of the registry. -/
  registryUri : String
  collaborators : Collaborators σ

namespace Controller

/-- The world, and what a controller remembers between calls. -/
structure State (σ : Type) where
  world : σ
  verifierBuilt : Bool
  cache : Signature.Cache
  /-- What is still being told in the background. -/
  pending : List Webhook.Task

/-- A controller that has done nothing yet. -/
def State.fresh {σ : Type} (world : σ) : State σ := ⟨world, false, .empty, []⟩

variable {σ : Type}

/-- A step of the world within a controller's. -/
def inWorld {α : Type} (r : Run σ α) : Run (State σ) α := fun t =>
  let (a, inner) := r ⟨t.world.world, t.log⟩
  (a, ⟨{ t.world with world := inner.world }, inner.log⟩)

/-- Asks a collaborator. -/
def ask {ε α : Type} (call : Call σ ε α) : Action (State σ) ε α :=
  Action.perform fun s =>
    let (answer, world) := call s.world
    (answer, { s with world })

/-- Reads a clock or the like. -/
def tell {ε α : Type} (step : σ → α × σ) : Action (State σ) ε α :=
  Action.ofWorld fun s =>
    let (a, world) := step s.world
    (a, { s with world })

/-- A registry's failure, told as a promotion's. -/
def registryError (e : Registry.Error) : Error := .registry e.message

/-- What is asked for: a tag, where from and where to, by whom, and whether it is meant. -/
structure Request where
  tag : String
  source : String
  target : String
  operator : Operator
  dryRun : Bool
  deriving DecidableEq, Repr

variable (c : Controller σ)

/-- The artifact a tag points to. -/
def resolve (tag : String) : Action (State σ) Error Artifact := do
  match ← Action.observe (ask (c.collaborators.registry.resolve c.registryUri tag)) with
  | .ok digest => return ⟨c.registryUri, tag, digest⟩
  | .error (.notFound ..) => throw (.artifactNotFound tag c.registryUri)
  | .error e => throw (registryError e)

/-- Builds the verifier if need be, fetches the content, and has it verified. -/
def callVerifier (artifact : Artifact) (policy : Signature.Policy) :
    Call (State σ) Signature.Failure Signature.Verdict := fun s =>
  match Signature.demand c.collaborators.verifier.build s.verifierBuilt s.world with
  | (.error e, verifierBuilt, world) => (.error e, { s with verifierBuilt, world })
  | (.ok (), verifierBuilt, world) =>
    match c.collaborators.registry.fetch artifact world with
    | (.error e, world) => (.error (.content e.message), { s with verifierBuilt, world })
    | (.ok content, world) =>
      let (answer, world) := c.collaborators.verifier.verify artifact content policy world
      (answer, { s with verifierBuilt, world })

/-- The clock of the world, as a controller reads it. -/
def clock : State σ → Timestamp × State σ := fun s =>
  let (now, world) := c.collaborators.clock s.world
  (now, { s with world })

/-- Remembers the verdicts of a cache. -/
def keepCache {ε : Type} (cache : Signature.Cache) : Action (State σ) ε Unit :=
  Action.ofWorld fun s => ((), { s with cache })

/-- Looks at an artifact's signature as an environment demands. A verdict that is remembered from
    a time when it was only asked for does not pass where it is enforced. -/
def checkSignature (artifact : Artifact) (target : Environment) :
    Action (State σ) Error Signature.Verdict := do
  let rule := target.signature
  if rule.enforcement = .off then
    ExceptT.lift (Signature.skip c.clock artifact)
  else
    let cache ← Action.ofWorld fun s => (s.cache, s)
    let (verdict, cache) ← cache.getOrTry artifact.digest rule.policy
      (Signature.apply c.clock rule.enforcement artifact (c.callVerifier artifact rule.policy))
    keepCache cache
    if rule.enforcement = .enforce ∧ ¬ verdict.isValid then
      throw (Signature.refusal artifact (verdict.reason.getD "signature not valid"))
    return verdict

/-- What a dry run and a promotion have in common: everything up to the record. -/
def assess (r : Request) : Action (State σ) Error (Artifact × Record) := do
  match c.pipeline.move r.source r.target, c.pipeline.environment? r.target with
  | .error refusal, _ => throw (.illegalMove r.source r.target refusal)
  | .ok _, none => throw (.illegalMove r.source r.target (.unknown r.target))
  | .ok _, some target =>
    let artifact ← c.resolve r.tag
    let gateResults ← ExceptT.lift <| inWorld <|
      Gate.runAll c.collaborators.gates ⟨artifact, target, r.dryRun⟩
    let verification ← c.checkSignature artifact target
    ask (authorize c.collaborators.audit r.operator r.tag r.source target)
    let id ← tell c.collaborators.freshId
    let timestamp ← tell c.collaborators.clock
    return (artifact,
      { id, tag := r.tag, digest := artifact.digest, fromEnv := r.source, toEnv := r.target
        operator := r.operator.name, dryRun := r.dryRun, gateResults
        signatureVerified := verification.isValid, verification, timestamp })

/-- Where a tag points to, if it is there. -/
def lookTag (name : String) : Action (State σ) Error (String × Option Digest) := do
  match ← Action.observe (ask (c.collaborators.registry.resolve c.registryUri name)) with
  | .ok digest => return (name, some digest)
  | .error (.notFound ..) => return (name, none)
  | .error e => throw (registryError e)

/-- Where the tags that a promotion moves point to before it. -/
def snapshot (record : Record) : Action (State σ) Error (List (String × Option Digest)) := do
  let copy ← c.lookTag (environmentTag record.toEnv record.tag)
  let latest ← c.lookTag (latestTag record.toEnv)
  return [copy, latest]

/-- Points the target's tags to the digest and adds the record to the log. -/
def commit (artifact : Artifact) (record : Record) : Action (State σ) Error Audit.Entry := do
  let registry := c.collaborators.registry
  Action.mapError registryError
    (ask (registry.createTag artifact (environmentTag record.toEnv record.tag)))
  Action.mapError registryError (ask (registry.updateLatest artifact record.toEnv))
  Action.mapError .audit (ask (c.collaborators.audit.append record))

/-- Puts one tag back to where it pointed. -/
def restoreTag (record : Record) (name : String) (previous : Option Digest) :
    Action (State σ) Error Unit := do
  let registry := c.collaborators.registry
  let call := match previous with
    | some digest => registry.createTag ⟨c.registryUri, name, digest⟩ name
    | none => registry.removeTag c.registryUri name
  match ← Action.observe (ask call) with
  | .ok () => return ()
  | .error e =>
    Action.emit <| .audited .error "tag_restore_failed" "Could not restore tag"
      [("promotion_id", record.id.label), ("tag", name), ("error", e.message)]

/-- Puts tags back one after the other. -/
def restoreTags (record : Record) : List (String × Option Digest) → Action (State σ) Error Unit
  | [] => return ()
  | (name, previous) :: rest => do
    c.restoreTag record name previous
    restoreTags record rest

/-- Tells the webhooks of an event in the background. -/
def notify (event : Webhook.Event) (record : Record) : Action (State σ) Error Unit :=
  Action.ofWorld fun s =>
    ((), { s with pending := Webhook.detach c.pipeline.webhooks event record s.pending })

/-- Leaves an event for every gate that failed without blocking. -/
def reportOptional : List Gate.Result → Action (State σ) Error Unit
  | [] => return ()
  | g :: rest => do
    if g.hasFailed && !g.required then
      Action.emit <| .plain .warn "Optional gate failed"
        [("gate", g.gate), ("error", g.error.getD "")]
    reportOptional rest

/-- The event of a dry run. -/
def dryRunEvent (record : Record) : Log.Event :=
  .plain .info "Dry run complete"
    [("promotion_id", record.id.label), ("digest", record.digest.text),
      ("would_block", Log.showBool record.isBlocked)]

/-- The event of a promotion that gates keep from happening. -/
def blockedEvent (record : Record) : Log.Event :=
  .plain .warn "Required gates failed, promotion rejected"
    [("promotion_id", record.id.label), ("digest", record.digest.text),
      ("failed", Decimal.text record.blockingFailures.length)]

/-- The event of a promotion that is undone. -/
def rolledBackEvent (record : Record) (cause : Error) : Log.Event :=
  .audited .error "promotion_rolled_back" "Promotion not recorded, restoring tags"
    [("promotion_id", record.id.label), ("tag", record.tag), ("digest", record.digest.text),
      ("to_env", record.toEnv), ("error", cause.message)]

/-- The event of a promotion that took place. -/
def recordedEvent (record : Record) (entry : Audit.Entry) : Log.Event :=
  .audited .info "promotion_recorded" "Promotion recorded"
    [("promotion_id", record.id.label), ("sequence", Decimal.text entry.sequence.toNat),
      ("tag", record.tag), ("digest", record.digest.text), ("from_env", record.fromEnv),
      ("to_env", record.toEnv), ("operator", record.operator),
      ("signature_verified", Log.showBool record.signatureVerified)]

/-- What only a promotion does: it stops at a gate, or it writes tags and record. -/
def land (artifact : Artifact) (record : Record) : Action (State σ) Error Record := do
  if record.isBlocked then
    Action.emit (blockedEvent record)
    c.notify .gateFailed record
    throw (.gatesFailed record.tag record.digest record.toEnv record.gateResults)
  reportOptional record.gateResults
  let before ← c.snapshot record
  match ← Action.observe (c.commit artifact record) with
  | .error cause =>
    Action.emit (rolledBackEvent record cause)
    c.restoreTags record before
    throw cause
  | .ok entry =>
    Action.emit (recordedEvent record entry)
    c.notify .promote record
    return record

/-- A promotion, or a dry run of one. -/
def promote (r : Request) : Action (State σ) Error Record := do
  let (artifact, record) ← c.assess r
  if r.dryRun then
    Action.emit (dryRunEvent record)
    return record
  else
    c.land artifact record

/-- Waits until the webhooks are told. -/
def flush : Run (State σ) Unit := fun t =>
  let (pending, inner) :=
    Webhook.flush c.collaborators.dispatch t.world.pending ⟨t.world.world, t.log⟩
  ((), ⟨{ t.world with world := inner.world, pending }, inner.log⟩)

end Controller

end Promotion
