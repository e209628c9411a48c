import Promotion.Controller
import Promotion.Proofs.Gate

/-!
# Controllers in Larger Worlds

A controller does nothing to its world but through its collaborators. So if the
collaborators of a larger world do there what others do in a part of it, a
promotion in the larger world is the other one's promotion, with the same answer
and the same log, and with a state that is the same but for what the part leaves
out. `promote_mirrors` says it, and it is one rule per step of a promotion.

A controller's state is more than its world, and only the look at a signature
has to do with the rest of it. The other steps mirror each other under every
`View`, also under one that shows the same world with something else remembered.
A call of the verifier asks whether there is one, so it needs a `Sight`, and
only what is done with the verdicts that are remembered needs `State.map`.

## Main definitions

* `State.View`: A view of states that goes with a view of worlds.
* `State.Sight`: A view that shows as well whether there is a verifier.
* `State.map`: A controller's state, seen in a part of the world.
* `Collaborators.Mirrors`: Collaborators that do the same in a part of the world.

## Theorems

* `promote_mirrors`: Then a promotion does the same.
-/

namespace Promotion

variable {σ τ ε α : Type}

/-- Collaborators that do in a larger world what others do in a part of it. -/
structure Collaborators.Mirrors (f : τ → σ) (larger : Collaborators τ) (k : Collaborators σ) :
    Prop where
  resolve : ∀ uri tag, Commutes f (larger.registry.resolve uri tag) (k.registry.resolve uri tag)
  fetch : ∀ artifact, Commutes f (larger.registry.fetch artifact) (k.registry.fetch artifact)
  createTag : ∀ artifact tag,
    Commutes f (larger.registry.createTag artifact tag) (k.registry.createTag artifact tag)
  removeTag : ∀ uri tag,
    Commutes f (larger.registry.removeTag uri tag) (k.registry.removeTag uri tag)
  gates : ∀ name subject, Commutes f (larger.gates name subject) (k.gates name subject)
  build : Commutes f larger.verifier.build k.verifier.build
  verify : ∀ artifact content policy, Commutes f (larger.verifier.verify artifact content policy)
    (k.verifier.verify artifact content policy)
  append : ∀ record, Commutes f (larger.audit.append record) (k.audit.append record)
  query : ∀ question, Commutes f (larger.audit.query question) (k.audit.query question)
  clock : Commutes f larger.clock k.clock
  freshId : Commutes f larger.freshId k.freshId

/-- Collaborators do in their own world what they do. -/
theorem Collaborators.mirrors_self (k : Collaborators σ) : k.Mirrors id k where
  resolve _ _ _ := rfl
  fetch _ _ := rfl
  createTag _ _ _ := rfl
  removeTag _ _ _ := rfl
  gates _ _ _ := rfl
  build _ := rfl
  verify _ _ _ _ := rfl
  append _ _ := rfl
  query _ _ := rfl
  clock _ := rfl
  freshId _ := rfl

namespace Controller

/-- A view of states that goes with a view of worlds, and shows all that is pending. -/
structure State.View (f : τ → σ) (g : State τ → State σ) : Prop where
  world : ∀ s, (g s).world = f s.world
  pending : ∀ s, (g s).pending = s.pending
  /-- A change of the world is seen as a change of the world alone. -/
  step : ∀ s w, g { s with world := w } = { g s with world := f w }
  detach : ∀ s pending, g { s with pending } = { g s with pending }

/-- A controller's state, seen in a part of the world. -/
def State.map (f : τ → σ) (s : State τ) : State σ :=
  ⟨f s.world, s.verifierBuilt, s.cache, s.pending⟩

theorem State.view_map (f : τ → σ) : State.View f (State.map f) where
  world _ := rfl
  pending _ := rfl
  step _ _ := rfl
  detach _ _ := rfl

/-- A view that shows as well whether there is a verifier. -/
structure State.Sight (f : τ → σ) (g : State τ → State σ) : Prop extends State.View f g where
  built : ∀ s, (g s).verifierBuilt = s.verifierBuilt
  build : ∀ s verifierBuilt, g { s with verifierBuilt } = { g s with verifierBuilt }

theorem State.sight_map (f : τ → σ) : State.Sight f (State.map f) where
  toView := State.view_map f
  built _ := rfl
  build _ _ := rfl

variable {f : τ → σ} {g : State τ → State σ} (hg : State.View f g)

include hg

/-- A step of the world is seen as the step that it mirrors. -/
theorem State.View.commutes {larger : τ → α × τ} {step : σ → α × σ} (h : Commutes f larger step) :
    Commutes g (fun s => ((larger s.world).1, { s with world := (larger s.world).2 }))
      (fun s => ((step s.world).1, { s with world := (step s.world).2 })) := by
  intro s
  have hstep : step (g s).world = ((larger s.world).1, f (larger s.world).2) := by
    rw [hg.world]
    exact h s.world
  simp only [hstep]
  exact Prod.ext rfl (hg.step s _).symm

theorem ask_mirrors {larger : Call τ ε α} {call : Call σ ε α} (h : Commutes f larger call) :
    (ask larger).Mirrors g (ask call) :=
  .perform (hg.commutes h)

theorem tell_mirrors {larger : τ → α × τ} {step : σ → α × σ} (h : Commutes f larger step) :
    (tell larger : Action (State τ) ε α).Mirrors g (tell step) :=
  .ofWorld (hg.commutes h)

variable {pipeline : Pipeline} {uri : String} {larger : Collaborators τ} {k : Collaborators σ}
  (h : larger.Mirrors f k)

include h

theorem resolve_mirrors (tag : String) :
    (resolve ⟨pipeline, uri, larger⟩ tag).Mirrors g (resolve ⟨pipeline, uri, k⟩ tag) := by
  refine .bind (.observe (ask_mirrors hg (h.resolve uri tag))) fun answer => ?_
  rcases answer with (_ | _ | _) | digest
  · exact .throw _
  · exact .throw _
  · exact .throw _
  · exact .pure _

omit h in
theorem inWorld_mirrors {larger : Run τ α} {r : Run σ α} (h : larger.Mirrors f r) :
    (inWorld larger).Mirrors g (inWorld r) := by
  intro t
  rcases hran : larger.outcome ⟨t.world.world, t.log⟩ with ⟨a, inner⟩
  have hin : r.outcome ⟨(g t.world).world, t.log⟩ = (a, inner.map f) := by
    rw [hg.world]
    have hseen := h ⟨t.world.world, t.log⟩
    rwa [hran] at hseen
  unfold Run.outcome at hran hin
  simp only [Run.outcome, inWorld, Traced.map, hin, hran]
  rw [hg.step t.world inner.world]

theorem clock_commutes :
    Commutes g (clock ⟨pipeline, uri, larger⟩) (clock ⟨pipeline, uri, k⟩) :=
  hg.commutes h.clock

theorem skip_mirrors (artifact : Artifact) :
    (Signature.skip (clock ⟨pipeline, uri, larger⟩) artifact).Mirrors g
      (Signature.skip (clock ⟨pipeline, uri, k⟩) artifact) :=
  .bind (.emit _) fun _ => .bind (.ofWorld (clock_commutes hg h)) fun _ => .pure _

theorem tolerate_mirrors (artifact : Artifact) (failure : Signature.Failure) :
    (Signature.tolerate (clock ⟨pipeline, uri, larger⟩) artifact failure).Mirrors g
      (Signature.tolerate (clock ⟨pipeline, uri, k⟩) artifact failure) :=
  .bind (.emit _) fun _ => .bind (.ofWorld (clock_commutes hg h)) fun _ => .pure _

theorem judge_mirrors (enforcement : Signature.Enforcement) (artifact : Artifact)
    (answer : Except Signature.Failure Signature.Verdict) :
    (Signature.judge (clock ⟨pipeline, uri, larger⟩) enforcement artifact answer).Mirrors g
      (Signature.judge (clock ⟨pipeline, uri, k⟩) enforcement artifact answer) := by
  unfold Signature.judge
  cases answer.bind Signature.Verdict.require with
  | ok verdict => exact .pure _
  | error failure =>
      cases enforcement with
      | enforce => exact .bind (.emit _) fun _ => .throw _
      | warn => exact .lift (tolerate_mirrors hg h artifact failure)
      | off => exact .lift (tolerate_mirrors hg h artifact failure)

omit hg

/-- A verifier is built, a content fetched and verified in the one world as in the other. -/
theorem callVerifier_commutes (hg : State.Sight f g) (artifact : Artifact)
    (policy : Signature.Policy) :
    Commutes g (callVerifier ⟨pipeline, uri, larger⟩ artifact policy)
      (callVerifier ⟨pipeline, uri, k⟩ artifact policy) := by
  intro s
  have hend : ∀ verifierBuilt w, g { s with verifierBuilt, world := w } =
      { g s with verifierBuilt, world := f w } := by
    intro verifierBuilt w
    rw [hg.step { s with verifierBuilt } w, hg.build s verifierBuilt]
  simp only [callVerifier, Signature.demand, hg.world, hg.built]
  by_cases hbuilt : s.verifierBuilt = true
  · simp only [hbuilt, if_true, h.fetch artifact s.world]
    rcases larger.registry.fetch artifact s.world with ⟨e | content, w⟩
    · exact Prod.ext rfl (hend true w).symm
    · simp only [h.verify artifact content policy w]
      exact Prod.ext rfl (hend true _).symm
  · simp only [hbuilt, Bool.false_eq_true, if_false, h.build s.world]
    rcases larger.verifier.build s.world with ⟨e | _, w⟩
    · exact Prod.ext rfl (hend false w).symm
    · simp only [h.fetch artifact w]
      rcases larger.registry.fetch artifact w with ⟨e | content, w₁⟩
      · exact Prod.ext rfl (hend true w₁).symm
      · simp only [h.verify artifact content policy w₁]
        exact Prod.ext rfl (hend true _).symm

theorem apply_mirrors (hg : State.Sight f g) (enforcement : Signature.Enforcement)
    (artifact : Artifact) (policy : Signature.Policy) :
    (Signature.apply (clock ⟨pipeline, uri, larger⟩) enforcement artifact
        (callVerifier ⟨pipeline, uri, larger⟩ artifact policy)).Mirrors g
      (Signature.apply (clock ⟨pipeline, uri, k⟩) enforcement artifact
        (callVerifier ⟨pipeline, uri, k⟩ artifact policy)) := by
  have hcall : Commutes g (callVerifier ⟨pipeline, uri, larger⟩ artifact policy)
      (callVerifier ⟨pipeline, uri, k⟩ artifact policy) := callVerifier_commutes h hg artifact policy
  cases enforcement with
  | off => exact .lift (skip_mirrors hg.toView h artifact)
  | warn => exact .bind (.ofWorld hcall) (judge_mirrors hg.toView h .warn artifact)
  | enforce => exact .bind (.ofWorld hcall) (judge_mirrors hg.toView h .enforce artifact)

theorem checkSignature_mirrors (artifact : Artifact) (target : Environment) :
    (checkSignature ⟨pipeline, uri, larger⟩ artifact target).Mirrors (State.map f)
      (checkSignature ⟨pipeline, uri, k⟩ artifact target) := by
  unfold checkSignature
  by_cases hoff : target.signature.enforcement = .off
  · simp only [hoff, if_true]
    exact .lift (skip_mirrors (State.view_map f) h artifact)
  simp only [hoff, if_false]
  refine .bind (.ofWorld fun _ => rfl) fun cache => ?_
  refine .bind ?_ fun found => .bind (.ofWorld fun _ => rfl) fun _ => ?_
  · unfold Signature.Cache.getOrTry
    cases cache.get? artifact.digest target.signature.policy with
    | some verdict => exact .pure _
    | none => exact .bind (apply_mirrors h (State.sight_map f) _ artifact _) fun _ => .pure _
  · split
    · exact .throw _
    · exact .pure _

theorem latestInto_commutes (tag environment : String) :
    Commutes f (larger.audit.latestInto tag environment)
      (k.audit.latestInto tag environment) := by
  intro w
  simp only [Audit.Log.latestInto, h.query _ w]

theorem authorize_commutes (o : Operator) (tag source : String) (target : Environment) :
    Commutes f (authorize larger.audit o tag source target)
      (authorize k.audit o tag source target) := by
  intro w
  unfold authorize
  cases target.authorization with
  | none => rfl
  | some a =>
      simp only
      by_cases hout : a.shutsOut o = true
      · simp only [hout, if_true]
      rw [if_neg hout, if_neg hout, latestInto_commutes h tag source w]
      rcases larger.audit.latestInto tag source w with ⟨_ | _ | previous, w₁⟩
      · split <;> rfl
      · split <;> rfl
      · simp only
        split
        · split <;> rfl
        · rfl

theorem assess_mirrors (r : Request) :
    (assess ⟨pipeline, uri, larger⟩ r).Mirrors (State.map f) (assess ⟨pipeline, uri, k⟩ r) := by
  unfold assess
  cases pipeline.move r.source r.target with
  | error refusal => exact .throw _
  | ok places =>
      cases pipeline.environment? r.target with
      | none => exact .throw _
      | some target =>
          have hmap := State.view_map f
          refine .bind (resolve_mirrors hmap h r.tag) fun artifact => ?_
          refine .bind (.lift (inWorld_mirrors hmap
            (Gate.runList_mirrors (fun name => h.gates name _) _))) fun gateResults => ?_
          refine .bind (checkSignature_mirrors h artifact target) fun verification => ?_
          refine .bind (ask_mirrors hmap (authorize_commutes h _ _ _ _)) fun _ => ?_
          refine .bind (tell_mirrors hmap h.freshId) fun id => ?_
          exact .bind (tell_mirrors hmap h.clock) fun timestamp => .pure _

include hg

theorem lookTag_mirrors (name : String) :
    (lookTag ⟨pipeline, uri, larger⟩ name).Mirrors g (lookTag ⟨pipeline, uri, k⟩ name) := by
  refine .bind (.observe (ask_mirrors hg (h.resolve uri name))) fun answer => ?_
  rcases answer with (_ | _ | _) | digest
  · exact .pure _
  · exact .throw _
  · exact .throw _
  · exact .pure _

theorem snapshot_mirrors (record : Record) :
    (snapshot ⟨pipeline, uri, larger⟩ record).Mirrors g (snapshot ⟨pipeline, uri, k⟩ record) :=
  .bind (lookTag_mirrors hg h _) fun _ => .bind (lookTag_mirrors hg h _) fun _ => .pure _

theorem commit_mirrors (artifact : Artifact) (record : Record) :
    (commit ⟨pipeline, uri, larger⟩ artifact record).Mirrors g
      (commit ⟨pipeline, uri, k⟩ artifact record) :=
  .bind (.mapError (ask_mirrors hg (h.createTag _ _))) fun _ =>
    .bind (.mapError (ask_mirrors hg (h.createTag _ _))) fun _ =>
      .mapError (ask_mirrors hg (h.append record))

theorem restoreTag_mirrors (record : Record) (name : String) (previous : Option Digest) :
    (restoreTag ⟨pipeline, uri, larger⟩ record name previous).Mirrors g
      (restoreTag ⟨pipeline, uri, k⟩ record name previous) := by
  refine .bind (.observe (ask_mirrors hg ?_)) fun answer => ?_
  · cases previous with
    | some digest => exact h.createTag _ _
    | none => exact h.removeTag _ _
  · rcases answer with e | _
    · exact .emit _
    · exact .pure _

theorem restoreTags_mirrors (record : Record) (before : List (String × Option Digest)) :
    (restoreTags ⟨pipeline, uri, larger⟩ record before).Mirrors g
      (restoreTags ⟨pipeline, uri, k⟩ record before) := by
  induction before with
  | nil => exact .pure _
  | cons tag rest ih =>
      exact .bind (restoreTag_mirrors hg h record tag.1 tag.2) fun _ => ih

omit hg h in
theorem reportOptional_mirrors (results : List Gate.Result) :
    (reportOptional results : Action (State τ) Error Unit).Mirrors g (reportOptional results) := by
  induction results with
  | nil => exact .pure _
  | cons result rest ih =>
      unfold reportOptional
      split
      · exact .bind (.emit _) fun _ => ih
      · exact ih

theorem land_mirrors (artifact : Artifact) (record : Record) :
    (land ⟨pipeline, uri, larger⟩ artifact record).Mirrors g
      (land ⟨pipeline, uri, k⟩ artifact record) := by
  have hnotify : ∀ event, (notify ⟨pipeline, uri, larger⟩ event record).Mirrors g
      (notify ⟨pipeline, uri, k⟩ event record) := by
    intro event
    refine .ofWorld fun s => Prod.ext rfl ?_
    have hdetach := hg.detach s (Webhook.detach pipeline.webhooks event record (g s).pending)
    exact hdetach.symm.trans (by rw [hg.pending s])
  unfold land
  split
  · exact .bind (.emit _) fun _ => .bind (hnotify _) fun _ => .throw _
  refine .bind (reportOptional_mirrors record.gateResults) fun _ => ?_
  refine .bind (snapshot_mirrors hg h record) fun before => ?_
  refine .bind (.observe (commit_mirrors hg h artifact record)) fun answer => ?_
  rcases answer with cause | entry
  · exact .bind (.emit _) fun _ => .bind (restoreTags_mirrors hg h record before) fun _ => .throw _
  · exact .bind (.emit _) fun _ => .bind (hnotify _) fun _ => .pure _

omit hg

/-- If the collaborators of a larger world do what others do in a part of it, so does a
    promotion. -/
theorem promote_mirrors (r : Request) :
    (promote ⟨pipeline, uri, larger⟩ r).Mirrors (State.map f)
      (promote ⟨pipeline, uri, k⟩ r) := by
  refine .bind (assess_mirrors h r) fun found => ?_
  rcases found with ⟨artifact, record⟩
  by_cases hdry : r.dryRun = true
  · simp only [hdry, if_true]
    exact .bind (.emit _) fun _ => .pure _
  · simp only [hdry]
    exact land_mirrors (State.view_map f) h artifact record

end Controller

end Promotion
