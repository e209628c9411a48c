import Promotion.Proofs.Controller.DryRun
import Promotion.Proofs.Controller.Mirror
import Promotion.Proofs.Gate.Calls
import Promotion.Proofs.World

/-!
# What Gates Keep Back

Which gates a promotion calls, and when they keep it from happening.

A promotion runs the gates of its target once, in the middle of its checks, and
looks at their results at the end. `attended` is the same controller in a world
that notes the calls of gates, so that the notes of a promotion are all the
calls that it makes from its first step to its last. Nothing but the run of the
gates calls one: with its own runner put aside, an attended controller is one
whose collaborators know only a part of the world, and those leave the notes
alone in every step.

So if the checks are passed, there is one call for every gate of the target, and
the results are recorded of them. What the promotion comes to is then told by
gates and calls: it is refused for its gates exactly if the call of a required
one failed.

## Main definitions

* `Collaborators.inPart`: Collaborators in a world of which they know a part.
* `Controller.attended`: A controller whose world notes the calls of gates.
* `Controller.gateCalls`: The calls of gates that a promotion makes.

## Theorems

* `promote_attended`: Taking notes changes nothing.
* `reported_gateCalls`: A promotion that passes its checks calls every gate once.
* `promote_of_blocked`, `promote_ne_gatesFailed`: A promotion is refused for gates that block.
* `promote_gatesFailed_iff`: When gates keep a promotion back, and what is told of it.
-/

namespace Promotion

variable {σ α : Type}

/-- A step of a part of the world. -/
def inPart {τ : Type} (step : σ → α × σ) : σ × τ → α × (σ × τ) := fun w =>
  let (a, world) := step w.1
  (a, world, w.2)

theorem inPart_eq {τ : Type} {step : σ → α × σ} {w w' : σ × τ} {a : α}
    (h : inPart step w = (a, w')) : w'.2 = w.2 :=
  (congrArg (fun r => r.2.2) h).symm

/-- The collaborators in a world of which they know a part. -/
def Collaborators.inPart (τ : Type) (k : Collaborators σ) : Collaborators (σ × τ) where
  registry :=
    { resolve := fun uri tag => Promotion.inPart (k.registry.resolve uri tag)
      fetch := fun artifact => Promotion.inPart (k.registry.fetch artifact)
      createTag := fun artifact tag => Promotion.inPart (k.registry.createTag artifact tag)
      removeTag := fun uri tag => Promotion.inPart (k.registry.removeTag uri tag) }
  gates name subject := Promotion.inPart (k.gates name subject)
  verifier :=
    { build := Promotion.inPart k.verifier.build
      verify := fun artifact content policy =>
        Promotion.inPart (k.verifier.verify artifact content policy) }
  audit :=
    { append := fun record => Promotion.inPart (k.audit.append record)
      query := fun question => Promotion.inPart (k.audit.query question) }
  dispatch event payload w t :=
    let (outcome, inner) := k.dispatch event payload w ⟨t.world.1, t.log⟩
    (outcome, ⟨(inner.world, t.world.2), inner.log⟩)
  clock := Promotion.inPart k.clock
  freshId := Promotion.inPart k.freshId

/-- The collaborators in a world that notes the calls of gates. -/
def Collaborators.attended (k : Collaborators σ) : Collaborators (σ × List Gate.Noted) :=
  { k.inPart (List Gate.Noted) with gates := Gate.Runner.noting k.gates }

theorem Collaborators.attended_mirrors (k : Collaborators σ) :
    k.attended.Mirrors Prod.fst k := by
  constructor <;> intros <;> intro w <;> rfl

namespace Controller

/-- The controller in a world that notes the calls of gates. -/
def attended (c : Controller σ) : Controller (σ × List Gate.Noted) :=
  ⟨c.pipeline, c.registryUri, c.collaborators.attended⟩

/-- A state of which no calls have been noted yet. -/
def State.unattended (s : State σ) : State (σ × List Gate.Noted) := s.map (·, [])

/-- The calls of gates that a promotion makes, in order. -/
def gateCalls (c : Controller σ) (r : Request) (t : Traced (State σ)) : List Gate.Noted :=
  ((c.attended.promote r).outcome (t.map State.unattended)).2.world.world.2

/-- Taking notes changes nothing. -/
theorem promote_attended (c : Controller σ) (r : Request) (t : Traced (State σ)) :
    (c.promote r).outcome t =
      (((c.attended.promote r).outcome (t.map State.unattended)).1,
        ((c.attended.promote r).outcome (t.map State.unattended)).2.map (State.map Prod.fst)) :=
  promote_mirrors c.collaborators.attended_mirrors r (t.map State.unattended)

/-- Collaborators that know a part of the world leave the rest as it is. -/
theorem looks_inPart (τ : Type) (c : Controller σ) (rest : τ) :
    Looks ⟨c.pipeline, c.registryUri, c.collaborators.inPart τ⟩ fun s => s.world.2 = rest where
  resolve _ _ hs := hs
  fetch _ _ hs := hs
  gates _ _ _ hs := hs
  build _ hs := hs
  verify _ _ _ _ hs := hs
  query _ _ hs := hs
  clock _ hs := hs
  freshId _ hs := hs
  remembers _ _ _ hs := hs

variable {c : Controller σ} {r : Request} {t t₁ : Traced (State σ)} {artifact : Artifact}
  {record : Record}

/-- Checks that are passed in a world that notes the calls of gates have one call noted for every gate
    of the target, and the results are recorded of them. -/
theorem Assessed.reported {t t' : Traced (State (σ × List Gate.Noted))}
    (h : c.attended.Assessed r t artifact record t') :
    ∃ target new, c.pipeline.environment? r.target = some target ∧
      t'.world.world.2 = t.world.world.2 ++ new ∧
      Gate.Reported ⟨artifact, target, r.dryRun⟩ target.gates new record.gateResults := by
  cases h with
  | @passed _ target _ results _ _ _ t₁ t₂ t₃ w₄ w₅ w₆ _ found resolved gates checked authorized
      identified stamped =>
      -- Whatever is asked but the gates, those who are asked know nothing of the notes.
      have hquiet := looks_inPart (List Gate.Noted) c
      have hresolved : ((c.attended.resolve r.tag).outcome t).2.world.world.2 = t.world.world.2 :=
        (hquiet _).toAsks.resolveTag r.tag t rfl
      have hchecked : ((c.attended.checkSignature artifact target).outcome t₂).2.world.world.2 =
          t₂.world.world.2 := (hquiet _).toSees.checkSignature artifact target t₂ rfl
      have hauthorized : (authorize c.attended.collaborators.audit r.operator r.tag r.source target
          t₃.world.world).2.2 = t₃.world.world.2 :=
        (hquiet _).toAsks.authorize r.operator r.tag r.source target t₃.world rfl
      rw [resolved] at hresolved
      rw [checked] at hchecked
      rw [authorized] at hauthorized
      rcases Gate.reported_of_noting c.collaborators.gates ⟨artifact, target, r.dryRun⟩
        target.gates ⟨t₁.world.world, t₁.log⟩ with ⟨new, hnoted, hreported⟩
      have hresults : ((Gate.runList c.attended.collaborators.gates ⟨artifact, target, r.dryRun⟩
          target.gates).outcome ⟨t₁.world.world, t₁.log⟩).1 = results := congrArg Prod.fst gates
      refine ⟨target, new, found, ?_, hresults ▸ hreported⟩
      calc w₆.2 = w₅.2 := inPart_eq stamped
        _ = w₄.2 := inPart_eq identified
        _ = t₃.world.world.2 := hauthorized
        _ = t₂.world.world.2 := hchecked
        _ = t₁.world.world.2 ++ new :=
          (congrArg (fun ran => ran.2.world.world.2) gates).symm.trans hnoted
        _ = t.world.world.2 ++ new := by rw [hresolved]

/-- What comes after the checks is the same whoever runs the gates. -/
theorem land_gates (pipeline : Pipeline) (uri : String) (k : Collaborators σ)
    (gates : Gate.Runner σ) (artifact : Artifact) (record : Record) :
    land ⟨pipeline, uri, { k with gates }⟩ artifact record =
      land ⟨pipeline, uri, k⟩ artifact record := by
  have hback : ∀ before, restoreTags ⟨pipeline, uri, { k with gates }⟩ record before =
      restoreTags ⟨pipeline, uri, k⟩ record before := by
    intro before
    induction before with
    | nil => rfl
    | cons tag rest ih =>
        unfold restoreTags
        rw [ih]
        rfl
  unfold land
  simp only [hback]
  rfl

/-- So it calls none. -/
theorem attended_land (c : Controller σ) (artifact : Artifact) (record : Record)
    (noted : List Gate.Noted) :
    (c.attended.land artifact record).Preserves fun s => s.world.2 = noted := by
  have hquiet := looks_inPart (List Gate.Noted) c noted
  unfold attended Collaborators.attended
  rw [land_gates]
  exact land_preserves hquiet.toAsks (fun _ _ _ hs => hs) (fun _ _ hs => hs) (fun _ _ hs => hs)
    (fun _ hs => hs) artifact

/-- A promotion that passes its checks calls every gate of its target once, and its record has the
    results. -/
theorem reported_gateCalls (hassess : (c.assess r).outcome t = (.ok (artifact, record), t₁)) :
    ∃ target, c.pipeline.environment? r.target = some target ∧
      Gate.Reported ⟨artifact, target, r.dryRun⟩ target.gates (c.gateCalls r t)
        record.gateResults := by
  have hseen : (c.assess r).outcome t = _ :=
    assess_mirrors c.collaborators.attended_mirrors r (t.map State.unattended)
  rw [hassess] at hseen
  rcases hattended : (c.attended.assess r).outcome (t.map State.unattended) with ⟨answer, t₂⟩
  have hanswer : answer = .ok (artifact, record) :=
    (congrArg Prod.fst hattended).symm.trans (congrArg Prod.fst hseen).symm
  rw [hanswer] at hattended
  rcases (assessed_of_outcome hattended).reported with ⟨target, new, hfound, hnoted, hreported⟩
  have hcalls : c.gateCalls r t = new := by
    unfold gateCalls promote
    rw [Action.outcome_bind, hattended]
    simp only
    split
    · exact hnoted
    · exact attended_land c artifact record new t₂ hnoted
  rw [hcalls]
  exact ⟨target, hfound, hreported⟩

/-- A promotion that a gate blocks is refused for its gates, with all results. -/
theorem promote_of_blocked (hassess : (c.assess r).outcome t = (.ok (artifact, record), t₁))
    (hreal : r.dryRun = false) (hblocked : record.isBlocked = true) :
    ((c.promote r).outcome t).1 =
      .error (.gatesFailed r.tag artifact.digest r.target record.gateResults) := by
  rcases (assessed_of_outcome hassess).of_request with ⟨-, hdigest, htag, htarget, -⟩
  rcases outcome_land_of_blocked c artifact hblocked t₁ with ⟨pending, log, hland⟩
  unfold promote
  rw [Action.outcome_bind, hassess]
  simp only
  rw [hreal, if_neg Bool.false_ne_true, hland, hdigest, htag, htarget]

/-- Any other is refused for something else, if it is. -/
theorem promote_ne_gatesFailed (hassess : (c.assess r).outcome t = (.ok (artifact, record), t₁))
    (hfree : record.isBlocked = false) (tag : String) (digest : Digest) (environment : String)
    (results : List Gate.Result) :
    ((c.promote r).outcome t).1 ≠ .error (.gatesFailed tag digest environment results) := by
  have hends := concluded_promote c r t
  generalize ((c.promote r).outcome t).1 = answer at hends ⊢
  generalize ((c.promote r).outcome t).2.world = after at hends
  -- Of the ways to end only one is a refusal for gates, and it is closed by the assessment.
  cases hends with
  | refused hrefused =>
      cases hassess.symm.trans hrefused
  | rehearsed _ _ => exact nofun
  | blocked hassess' _ hblocked =>
      cases hassess.symm.trans hassess'
      rw [hfree] at hblocked
      cases hblocked
  | unseen _ _ _ hsnap =>
      rcases snapshot_eq_error hsnap with ⟨reason, rfl⟩
      exact nofun
  | undone _ _ _ _ hcommit =>
      exact fun h => hcommit.ne_gatesFailed tag digest environment results (Except.error.inj h)
  | landed _ _ _ _ _ => exact nofun

/-- All gates run, and the configuration decides what blocks. A run of the gates of an environment
    calls each of them once and in order, whatever the runner reports of any, and records what came
    of every call; that calls are noted changes nothing. A promotion that passes its checks makes
    just these calls. If it is meant, it is refused for its gates exactly if the call of a required
    one took too long, reported nothing or reported a failure. The refusal has all results, and its
    message lists the names of those gates, in the order of the configuration. -/
theorem promote_gatesFailed_iff (c : Controller σ) :
    (∀ (subject : Gate.Subject) (t : Traced σ),
      let runner := c.collaborators.gates
      let run := (Gate.runAll runner subject).outcome t
      let noting := (Gate.runAll (Gate.Runner.noting runner) subject).outcome (t.map (·, []))
      run = (noting.1, noting.2.map Prod.fst) ∧
        Gate.Reported subject subject.environment.gates noting.2.world.2 run.1) ∧
    ∀ (r : Request) (t t₁ : Traced (State σ)) (artifact : Artifact) (record : Record),
      (c.assess r).outcome t = (.ok (artifact, record), t₁) →
      ∃ target, c.pipeline.environment? r.target = some target ∧
        let calls := c.gateCalls r t
        let answer := ((c.promote r).outcome t).1
        Gate.Reported ⟨artifact, target, r.dryRun⟩ target.gates calls record.gateResults ∧
        (r.dryRun = false →
          ((∃ tag digest environment results,
              answer = .error (.gatesFailed tag digest environment results)) ↔
            ∃ p ∈ target.gates.zip calls,
              p.1.required = true ∧ p.2.attempt.failed p.1 = true) ∧
          ∀ tag digest environment results,
            answer = .error (.gatesFailed tag digest environment results) →
              tag = r.tag ∧ digest = artifact.digest ∧ environment = r.target ∧
              results = record.gateResults ∧
              (Error.gatesFailed tag digest environment results).message =
                "Gate validation failed for " ++ r.tag ++ " (" ++ artifact.digest.text ++
                  ") into " ++ r.target ++ ": " ++
                  String.intercalate ", " (Gate.stopping target.gates calls)) := by
  refine ⟨fun subject t => ?_, fun r t t₁ artifact record hassess => ?_⟩
  · have hmirrors := Gate.runList_noting c.collaborators.gates subject subject.environment.gates
    exact ⟨hmirrors (t.map (·, [])), Gate.reported_runList _ subject _ t⟩
  rcases reported_gateCalls hassess with ⟨target, hfound, hreported⟩
  refine ⟨target, hfound, hreported, fun hreal => ?_⟩
  have hblocked : record.isBlocked = true ↔
      ∃ p ∈ target.gates.zip (c.gateCalls r t),
        p.1.required = true ∧ p.2.attempt.failed p.1 = true :=
    hreported.any_blocks_iff
  by_cases hblocks : record.isBlocked = true
  · have hanswer := promote_of_blocked hassess hreal hblocks
    rw [hanswer]
    refine ⟨iff_of_true ⟨_, _, _, _, rfl⟩ (hblocked.mp hblocks), ?_⟩
    rintro tag digest environment results ⟨⟩
    refine ⟨rfl, rfl, rfl, rfl, ?_⟩
    rw [← hreported.blockingNames_eq]
    rfl
  · have hne := promote_ne_gatesFailed hassess (Bool.eq_false_iff.mpr hblocks)
    refine ⟨iff_of_false ?_ (mt hblocked.mpr hblocks), ?_⟩
    · rintro ⟨tag, digest, environment, results, hanswer⟩
      exact hne tag digest environment results hanswer
    · intro tag digest environment results hanswer
      exact absurd hanswer (hne tag digest environment results)

end Controller

/-- Calm surroundings but for three checks: one cannot report, one takes a second and a half, and one
    reports a failure. No check knows its own name or whether it is required. -/
def Surroundings.strict : Surroundings Unit :=
  { calm with
    gates := fun name _ around =>
      (if name = "tests" then ⟨.error (.check "scanner unreachable"), 0, 7⟩
        else if name = "scan" then ⟨.ok (.passed "other" 1), 1500, 1500⟩
        else if name = "lint" then ⟨.ok (.failed "other" "style" 1), 1, 1⟩
        else ⟨.ok (.passed "other" 1), 1, 1⟩, around) }

namespace Controller

/-- A promotion past four gates. The one whose check cannot report and the one whose check takes too
    long keep it back; the one that reports a failure is not required. -/
theorem promote_gatesFailed_iff_strict :
    let target := ((((Environment.named "prod").withGate (.mandatory "policy")).withGate
      (.mandatory "tests")).withGate (.advisory "lint")).withGate
        ((Gate.mandatory "scan").withTimeout 1)
    let c := World.controller .strict (World.ladder target) "registry"
    let calls := c.gateCalls (World.climb false) World.start
    ∃ artifact record t₁ results,
      (c.assess (World.climb false)).outcome World.start = (.ok (artifact, record), t₁) ∧
      (World.climb false).dryRun = false ∧
      ((c.promote (World.climb false)).outcome World.start).1 =
        .error (.gatesFailed "v1" ⟨"sha256:a1"⟩ "prod" results) ∧
      results.map (fun g => (g.gate, g.status, g.required, g.error)) =
        [("policy", .passed, true, none), ("tests", .failed, true, some "scanner unreachable"),
          ("lint", .failed, false, some "style"),
          ("scan", .failed, true, some "gate timed out after 1s")] ∧
      (∃ p ∈ target.gates.zip calls, p.1.required = true ∧ p.2.attempt.failed p.1 = true) ∧
      Gate.stopping target.gates calls = ["tests", "scan"] := by
  intro target c calls
  have hanswer : ((c.promote (World.climb false)).outcome World.start).1 =
      .error (.gatesFailed "v1" ⟨"sha256:a1"⟩ "prod"
        [⟨"policy", .passed, 1, none, true⟩,
          ⟨"tests", .failed, 7, some "scanner unreachable", true⟩,
          ⟨"lint", .failed, 1, some "style", false⟩,
          ⟨"scan", .failed, 1500, some "gate timed out after 1s", true⟩]) := by
    decide +kernel
  have hpasses : ((c.assess (World.climb false)).outcome World.start).1.isOk = true := by
    decide +kernel
  rcases hassess : (c.assess (World.climb false)).outcome World.start with
    ⟨_ | ⟨artifact, record⟩, t₁⟩
  · rw [hassess] at hpasses
    cases hpasses
  rcases (promote_gatesFailed_iff c).2 _ _ _ _ _ hassess with ⟨target', hfound, -, hdecides⟩
  have htarget : c.pipeline.environment? (World.climb false).target = some target := by decide
  obtain rfl : target' = target := Option.some.inj (hfound.symm.trans htarget)
  rcases hdecides rfl with ⟨hiff, -⟩
  refine ⟨artifact, record, t₁, _, rfl, rfl, hanswer, rfl, hiff.mp ⟨_, _, _, _, hanswer⟩, ?_⟩
  decide +kernel

end Controller

end Promotion
