import Promotion.Controller.Builder
import Promotion.Proofs.Controller.Ledger
import Promotion.Proofs.Gate
import Promotion.Proofs.Pipeline

/-!
# What a Record in the Log Has Passed

Every entry of the log is of a promotion that its pipeline allows.

The checks of a promotion are made one after the other, each by somebody else
and each at its own time. A record is only made behind all of them, so what each
of them leaves in the record can be read off the record: the places of the two
environments, one result for every gate of the target, what was found of the
signature, and the operator. `Allows` is that said of the record and the
pipeline alone. Neither the controller's state nor anybody's answers are in it,
so whoever has the log and the configuration can check it again.

The names in a record stand for environments only if no two environments have
the same. A controller is not put together from any other pipeline.

## Main definitions

* `Environment.Upheld`: A record of a request is by the rules of its target.
* `Pipeline.Allows`: A record of a request is by the rules of a pipeline.
* `World.parts`: What a controller in a world is put together from.

## Theorems

* `shutsOut_of_authorize`: Whoever is let in is not kept out by a list.
* `Assessed.allowed`: A promotion that passed its checks is by the rules.
* `runAll_allowed`: Every entry of the log is by the rules.
-/

namespace Promotion

variable {σ : Type}

/-- Whoever is let in is not kept out by a list. -/
theorem shutsOut_of_authorize {log : Audit.Log σ} {o : Operator} {tag source : String}
    {target : Environment} {w w' : σ} (h : authorize log o tag source target w = (.ok (), w'))
    {a : Authorization} (ha : target.authorization = some a) : a.shutsOut o = false := by
  cases hout : a.shutsOut o with
  | true => cases (authorize_of_shutsOut ha hout).symm.trans h
  | false => rfl

/-- A record of a request is by the rules of the environment it leads into. -/
structure Environment.Upheld (target : Environment) (r : Controller.Request) (record : Record) :
    Prop where
  meant : record.dryRun = false
  /-- Every gate has a result, in the order and by the rules of the configuration. -/
  gates : record.gateResults.map (fun g => (g.gate, g.required)) =
    target.gates.map fun g => (g.name, g.required)
  unblocked : ∀ g ∈ record.gateResults, ¬ (g.required = true ∧ g.status = .failed)
  verified : record.signatureVerified = true ↔ record.verification.status = .valid
  enforced : target.signature.enforcement = .enforce → record.verification.status = .valid
  operator : record.operator = r.operator.name
  /-- The operator is listed, if anybody is. -/
  admitted : ∀ a, target.authorization = some a →
    (a.allowedOperators = [] ∧ a.allowedGroups = []) ∨ r.operator.name ∈ a.allowedOperators ∨
      ∃ group ∈ a.allowedGroups, group ∈ r.operator.groups

/-- A record of a request is by the rules of a pipeline: it leads from one environment into the
    next, and its names stand for no others. -/
def Pipeline.Allows (p : Pipeline) (r : Controller.Request) (record : Record) : Prop :=
  ∃ i source target, p.environments[i]? = some source ∧ p.environments[i + 1]? = some target ∧
    (∀ e ∈ p.environments, e.name = record.fromEnv ↔ e = source) ∧
    (∀ e ∈ p.environments, e.name = record.toEnv ↔ e = target) ∧
    target.Upheld r record

namespace Controller

variable {c : Controller σ}

/-- A promotion that passed its checks, is meant and is not kept back by a gate is by the rules. -/
theorem Assessed.allowed {r : Request} {t t' : Traced (State σ)} {artifact : Artifact}
    {record : Record} (hvalid : c.pipeline.validate = .ok ())
    (h : c.Assessed r t artifact record t') (hreal : r.dryRun = false)
    (hfree : record.isBlocked = false) : c.pipeline.Allows r record := by
  cases h with
  | @passed places target artifact gateResults verification _ _ t₁ t₂ t₃ _ _ _ hmove hfound _
      hgates hcheck hauth _ _ =>
      rcases Pipeline.move_eq_ok hmove with ⟨hsource, htarget⟩
      rcases Pipeline.environment?_of_position? hsource with ⟨source, hsourceAt, hsourceName, -⟩
      rcases Pipeline.environment?_of_position? htarget with ⟨found, htargetAt, htargetName, hsame⟩
      -- The environment of the place is the one whose rules were looked up by name.
      cases hfound.symm.trans hsame
      have hfrom := Pipeline.name_eq_iff hvalid hsourceAt
      have hto := Pipeline.name_eq_iff hvalid htargetAt
      rw [hsourceName] at hfrom
      rw [htargetName] at hto
      refine ⟨places.1, source, target, hsourceAt, htargetAt, hfrom, hto, ?_⟩
      have hchecked := checked_checkSignature c artifact target t₂
      rw [hcheck] at hchecked
      exact {
        meant := hreal
        gates := by
          have hrules := Gate.outcome_runList_rules c.collaborators.gates
            ⟨artifact, target, r.dryRun⟩ target.gates ⟨t₁.world.world, t₁.log⟩
          cases hgates
          exact hrules
        unblocked := by
          intro g hg hfailed
          have hnot := List.any_eq_false.mp hfree g hg
          simp [Gate.Result.blocks, Gate.Result.hasFailed, hfailed] at hnot
        verified := decide_eq_true_iff
        enforced := fun henforce => of_decide_eq_true (hchecked.isValid henforce)
        operator := rfl
        admitted := fun a ha =>
          Authorization.shutsOut_eq_false_iff.mp (shutsOut_of_authorize hauth ha) }

/-- A controller is put together from a pipeline with nothing wrong with it. -/
theorem validate_of_build {p : Parts σ} (h : build p = .ok c) :
    c.pipeline.validate = .ok () := by
  unfold build at h
  rcases except_bind_eq_ok h with ⟨_, hvalid, h⟩
  simp only at h
  split at h
  · cases h
  -- Four parts have to be there, and none of them matters here.
  rcases except_bind_eq_ok h with ⟨_, -, h⟩
  rcases except_bind_eq_ok h with ⟨_, -, h⟩
  rcases except_bind_eq_ok h with ⟨_, -, h⟩
  rcases except_bind_eq_ok h with ⟨_, -, h⟩
  cases h
  cases hfault : p.pipeline.validate with
  | error fault =>
      rw [hfault] at hvalid
      cases hvalid
  | ok _ => rfl

/-- Every entry of the log is by the rules. After any run of a controller that was put together,
    from an empty log, the log has one entry for every promotion that took place, in order, and its
    record is the one that the promotion answered with and is by the rules of the pipeline. -/
theorem runAll_allowed {p : Parts σ} (hbuild : build p = .ok c) {log : σ → Audit.Store}
    (hlog : c.collaborators.Logs log) (rs : List Request) {t : Traced (State σ)}
    (hempty : (log t.world.world).Keeps []) :
    ∃ es, (log (c.runAll rs t).2.world.world).entries = .ok es ∧
      List.Forall₂ (fun p e => e.record = p.2 ∧ c.pipeline.Allows p.1 p.2)
        (landings rs (c.runAll rs t).1) es := by
  have hvalid := validate_of_build hbuild
  rcases runAll_logs hlog (fun hassessed => hassessed.allowed hvalid) rs hempty with
    ⟨es, hkept, hes⟩
  exact ⟨es, hkept.entries_eq, hes⟩

end Controller

/-- What a controller in a world is put together from. -/
def World.parts {ε : Type} (s : Surroundings ε) (pipeline : Pipeline) (registryUri : String) :
    Controller.Parts (World ε) where
  pipeline
  registryUri
  registry := some (registryClient s)
  gates := some (collaborators s).gates
  verifier := some (collaborators s).verifier
  audit := some (auditLog s)
  dispatch := some (dispatcher s)
  transport _ _ w := (.error "unused", w)
  clock := (collaborators s).clock
  freshId := (collaborators s).freshId

/-- In a world every checked pipeline gives a controller, with the address of some registry. -/
theorem World.build_parts {ε : Type} (s : Surroundings ε) {pipeline : Pipeline}
    (hvalid : pipeline.validate = .ok ()) {registryUri : String}
    (huri : Text.allBlank registryUri = false) :
    Controller.build (parts s pipeline registryUri) =
      .ok (World.controller s pipeline registryUri) := by
  simp only [Controller.build, parts, hvalid, huri, Bool.false_eq_true, if_false]
  rfl

/-- Production with a gate of either kind, one operator on its list, and signatures enforced. -/
def Environment.strict : Environment :=
  ((((named "prod").withGate (.mandatory "smoke")).withGate (.advisory "load")).withAuthorization
    (Authorization.anyone.allowOperator "ann")).withEnforcement .enforce

namespace Controller

/-- A dry run and then the promotion itself into a strict environment: one entry, by its rules. -/
theorem runAll_allowed_strict :
    ∃ c, build (World.parts .calm (World.ladder .strict) "registry") = .ok c ∧
      ∃ e, (c.runAll [World.climb true, World.climb false]
          World.start).2.world.world.audit.entries = .ok [e] ∧
        c.pipeline.Allows (World.climb false) e.record := by
  have hvalid : (World.ladder .strict).validate = .ok () := by decide +kernel
  have huri : Text.allBlank "registry" = false := by decide +kernel
  have hbuild := World.build_parts .calm hvalid huri
  have hlanded : (landings [World.climb true, World.climb false]
      ((World.controller .calm (World.ladder .strict) "registry").runAll
        [World.climb true, World.climb false] World.start).1).map Prod.fst =
          [World.climb false] := by
    decide +kernel
  have hempty : World.start.world.world.audit.Keeps [] := Audit.Store.keeps_new.1
  rcases runAll_allowed hbuild (World.logs .calm) [World.climb true, World.climb false] hempty with
    ⟨es, hentries, hall⟩
  rcases List.map_eq_singleton_iff.mp hlanded with ⟨⟨r, record⟩, hone, rfl⟩
  rw [hone] at hall
  rcases hall with _ | ⟨⟨hrecord, hallowed⟩, ⟨⟩⟩
  exact ⟨_, hbuild, _, hentries, hrecord ▸ hallowed⟩

end Controller

end Promotion
