import Promotion.Audit.Store
import Promotion.Controller

/-!
# A World for Controllers

A registry and an audit log that are really there, and surroundings that decide
all else: what the gates and the verifier answer, what the clock shows, and
whether the registry or the log can be reached at all.

The surroundings are any type with any behaviour, and they remember what they
like. But they cannot touch the registry or the log: those change only by what
is asked of them, and a request that is refused changes nothing. So what a
controller does to tags and records can be told from outside, whatever its
collaborators answer.

## Main definitions

* `Registry.Operation`, `Audit.Operation`: What can be refused.
* `Surroundings`: What decides all else.
* `World`: Registry, log and surroundings.
* `World.collaborators`: What a controller can ask of a world.
-/

namespace Promotion

/-- A request to a registry, with the tag it is about. -/
inductive Registry.Operation where
  | resolve (tag : String)
  | fetch (tag : String)
  | create (tag : String)
  | remove (tag : String)
  deriving DecidableEq, Repr

/-- A request to an audit log. -/
inductive Audit.Operation where
  | append (record : Record)
  | query (question : Audit.Query)

/-- What decides all that registry and log do not. -/
structure Surroundings (ε : Type) where
  /-- Why the registry refuses a request, if it does. -/
  registryRefuses : Registry.Operation → ε → Option Registry.Error × ε
  /-- Why the log refuses a request, if it does. -/
  auditRefuses : Audit.Operation → ε → Option Audit.Error × ε
  gates : Gate.Runner ε
  verifier : Signature.Verifier ε
  dispatch : Webhook.Dispatcher ε
  clock : ε → Timestamp × ε
  freshId : ε → PromotionId × ε

/-- A registry, a log, and what is around them. -/
structure World (ε : Type) where
  registry : Registry
  audit : Audit.Store
  around : ε

namespace World

variable {ε α : Type}

/-- A step of the surroundings. -/
def inAround (step : ε → α × ε) : World ε → α × World ε := fun w =>
  let (a, around) := step w.around
  (a, { w with around })

/-- A request that the surroundings may refuse. -/
def unlessRefused {φ : Type} (refuses : ε → Option φ × ε) (call : Call (World ε) φ α) :
    Call (World ε) φ α := fun w =>
  match w.inAround refuses with
  | (some failure, w) => (.error failure, w)
  | (none, w) => call w

/-- A request to the registry in memory. -/
def inRegistry {φ : Type} (call : Call Registry φ α) : Call (World ε) φ α := fun w =>
  let (answer, registry) := call w.registry
  (answer, { w with registry })

/-- A request to the registry, unless the surroundings refuse it. -/
def askRegistry (s : Surroundings ε) (operation : Registry.Operation)
    (call : Call Registry Registry.Error α) : Call (World ε) Registry.Error α :=
  unlessRefused (s.registryRefuses operation) (inRegistry call)

/-- The registry of a world. -/
def registryClient (s : Surroundings ε) : Registry.Client (World ε) where
  resolve uri tag := askRegistry s (.resolve tag) (Registry.client.resolve uri tag)
  fetch artifact := askRegistry s (.fetch artifact.tag) (Registry.client.fetch artifact)
  createTag artifact tag := askRegistry s (.create tag) (Registry.client.createTag artifact tag)
  removeTag uri tag := askRegistry s (.remove tag) (Registry.client.removeTag uri tag)

/-- The log of a world. An entry is sealed with the time of the surroundings' clock. -/
def auditLog (s : Surroundings ε) : Audit.Log (World ε) where
  append record :=
    unlessRefused (s.auditRefuses (.append record)) fun w =>
      let (now, w) := w.inAround s.clock
      let (answer, audit) := w.audit.append record now
      (answer, { w with audit })
  query question :=
    unlessRefused (s.auditRefuses (.query question)) fun w => (w.audit.query question, w)

/-- The dispatcher of the surroundings. -/
def dispatcher (s : Surroundings ε) : Webhook.Dispatcher (World ε) := fun event payload w t =>
  let (outcome, inner) := s.dispatch event payload w ⟨t.world.around, t.log⟩
  (outcome, ⟨{ t.world with around := inner.world }, inner.log⟩)

/-- What a controller can ask of a world. -/
def collaborators (s : Surroundings ε) : Collaborators (World ε) where
  registry := registryClient s
  gates name subject := inAround (s.gates name subject)
  verifier :=
    { build := inAround s.verifier.build
      verify := fun artifact content policy =>
        inAround (s.verifier.verify artifact content policy) }
  audit := auditLog s
  dispatch := dispatcher s
  clock := inAround s.clock
  freshId := inAround s.freshId

end World

end Promotion
