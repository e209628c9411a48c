import Promotion.Controller

/-!
# Putting a Controller Together

A controller needs a pipeline with nothing wrong with it, the address of a
registry, and its collaborators. The first thing missing is told. Without a
dispatcher for webhooks they are told over HTTP.
-/

namespace Promotion

namespace Controller

/-- What a controller is put together from. -/
structure Parts (σ : Type) where
  pipeline : Pipeline
  registryUri : String
  registry : Option (Registry.Client σ)
  gates : Option (Gate.Runner σ)
  verifier : Option (Signature.Verifier σ)
  audit : Option (Audit.Log σ)
  dispatch : Option (Webhook.Dispatcher σ)
  /-- Whoever sends requests where there is no dispatcher. -/
  transport : Http.Transport σ
  clock : σ → Timestamp × σ
  freshId : σ → PromotionId × σ

/-- A part that has to be there. -/
def demand {α : Type} (part : Part) (given : Option α) : Except Error α :=
  match given with
  | some a => .ok a
  | none => .error (.settings (.missing part))

/-- The controller of some parts. -/
def build {σ : Type} (p : Parts σ) : Except Error (Controller σ) := do
  p.pipeline.validate.mapError fun fault => .settings (.pipeline fault)
  if Text.allBlank p.registryUri then throw (.settings (.missing .registryUri))
  let registry ← demand .registry p.registry
  let gates ← demand .gateRunner p.gates
  let verifier ← demand .verifierProvider p.verifier
  let audit ← demand .auditStore p.audit
  let dispatch := p.dispatch.getD (Webhook.dispatch p.transport)
  return ⟨p.pipeline, p.registryUri,
    ⟨registry, gates, verifier, audit, dispatch, p.clock, p.freshId⟩⟩

end Controller

end Promotion
