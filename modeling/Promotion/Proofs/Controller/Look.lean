import Promotion.Proofs.Controller.Conclusion
import Promotion.Proofs.Controller.Mirror

/-!
# The Look in a Promotion

A promotion in three parts: up to the look at the signature, the look, and all
that comes behind it.

A controller remembers two things, whether there is a verifier and what was
found of signatures, and only the look has to do with either. What comes before
and behind it does the same whatever is remembered, and leaves it as it is. That
is said by a view of states that puts another memory in the place of theirs, so
both halves of it follow from the rules for views.

A promotion need not come to a look. `look?` tells whether it does, and if so at
what and in which state. Then the promotion is the look and, if that ends with a
verdict, what `proceed` does with it. The answer heeds the look: a failure of it
is the answer, a verdict is in the record, and no other step refuses an artifact
for its signature.

## Main definitions

* `Look`, `look?`: The look that a promotion comes to.
* `proceed`: What a promotion does behind its look.
* `State.remembering`: A state with something else remembered.
* `Unrefused`: An answer that refuses no artifact for its signature.
* `Heeds`: An answer goes with what the look came to.

## Theorems

* `look?_eq_some`: What a promotion looks at.
* `outcome_promote`: A promotion with a look is the look and what comes behind.
* `look?_preserves`, `preserves_of_no_look`: What is preserved without a look.
* `unrefused_of_no_look`: Without a look nothing is refused for a signature.
* `heeds_of_look`: A promotion's answer heeds its look.
* `proceed_preserves`: What is preserved behind a look.
* `look?_map`, `proceed_mirrors`: Both parts go with every view.
* `memory_of_mirrors`: What does the same whatever is remembered does not change it.
-/

namespace Promotion

open Signature

namespace Controller

variable {σ τ ε α : Type}

/-- The look at a signature that a promotion comes to, with the results of the gates before it. -/
structure Look (σ : Type) where
  artifact : Artifact
  target : Environment
  gateResults : List Gate.Result
  /-- The state in which the signature is looked at. -/
  start : Traced (State σ)

namespace Look

/-- Under which key a verdict is remembered. -/
def key (l : Look σ) : Digest × Policy := (l.artifact.digest, l.target.signature.policy)

/-- What the target demands. -/
def enforcement (l : Look σ) : Enforcement := l.target.signature.enforcement

/-- A look, seen by a view of states. -/
def map (g : State τ → State σ) (l : Look τ) : Look σ :=
  ⟨l.artifact, l.target, l.gateResults, l.start.map g⟩

@[simp] theorem map_artifact (g : State τ → State σ) (l : Look τ) :
    (l.map g).artifact = l.artifact := rfl

@[simp] theorem map_target (g : State τ → State σ) (l : Look τ) :
    (l.map g).target = l.target := rfl

@[simp] theorem map_start (g : State τ → State σ) (l : Look τ) :
    (l.map g).start = l.start.map g := rfl

end Look

/-- The look that a promotion comes to. It comes to none if the move is not legal or the tag does
    not resolve; gates do not keep it from looking. -/
def look? (c : Controller σ) (r : Request) (t : Traced (State σ)) : Option (Look σ) :=
  match c.pipeline.move r.source r.target, c.pipeline.environment? r.target with
  | .ok _, some target =>
    match (c.resolve r.tag).outcome t with
    | (.ok artifact, t₁) =>
      let (gateResults, start) := (inWorld <|
        Gate.runAll c.collaborators.gates ⟨artifact, target, r.dryRun⟩).outcome t₁
      some ⟨artifact, target, gateResults, start⟩
    | (.error _, _) => none
  | _, _ => none

/-- What a promotion does once a look ended with a verdict. -/
def proceed (c : Controller σ) (r : Request) (l : Look σ) (verification : Verdict) :
    Action (State σ) Error Record := do
  ask (authorize c.collaborators.audit r.operator r.tag r.source l.target)
  let id ← tell c.collaborators.freshId
  let timestamp ← tell c.collaborators.clock
  let record : Record :=
    { id, tag := r.tag, digest := l.artifact.digest, fromEnv := r.source, toEnv := r.target
      operator := r.operator.name, dryRun := r.dryRun, gateResults := l.gateResults
      signatureVerified := verification.isValid, verification, timestamp }
  if r.dryRun then
    Action.emit (dryRunEvent record)
    return record
  else
    c.land l.artifact record

/-- An answer that refuses no artifact for its signature. -/
def Unrefused (answer : Except Error α) : Prop :=
  ∀ artifact reason, answer ≠ .error (.signatureRejected artifact reason)

/-- An answer goes with what the look at the signature came to. A failure is the answer. A verdict
    is in the record, and if there is no record that has nothing to do with the signature. -/
def Heeds (found : Except Error Verdict) (answer : Except Error Record) : Prop :=
  match found with
  | .error e => answer = .error e
  | .ok v => Unrefused answer ∧ ∀ record, answer = .ok record →
      record.verification = v ∧ record.signatureVerified = v.isValid

/-- The state with something else remembered. -/
def State.remembering (verifierBuilt : Bool) (cache : Cache) (s : State σ) : State σ :=
  { s with verifierBuilt, cache }

theorem State.view_remembering (verifierBuilt : Bool) (cache : Cache) :
    State.View (σ := σ) id (State.remembering verifierBuilt cache) where
  world _ := rfl
  pending _ := rfl
  step _ _ := rfl
  detach _ _ := rfl

/-! ### Up to the look -/

section Before

variable {c : Controller σ} {r : Request} {t : Traced (State σ)} {l : Look σ}

/-- What a promotion looks at: the artifact of its tag, for the environment it names. -/
theorem look?_eq_some (h : c.look? r t = some l) :
    ∃ places t₁, c.pipeline.move r.source r.target = .ok places ∧
      c.pipeline.environment? r.target = some l.target ∧
      (c.resolve r.tag).outcome t = (.ok l.artifact, t₁) ∧
      (inWorld (Gate.runAll c.collaborators.gates ⟨l.artifact, l.target, r.dryRun⟩)).outcome t₁ =
        (l.gateResults, l.start) := by
  unfold look? at h
  cases hmove : c.pipeline.move r.source r.target with
  | error refusal =>
      rw [hmove] at h
      cases h
  | ok places =>
      cases htarget : c.pipeline.environment? r.target with
      | none =>
          rw [hmove, htarget] at h
          cases h
      | some target =>
          rw [hmove, htarget] at h
          rcases hresolve : (c.resolve r.tag).outcome t with ⟨e | artifact, t₁⟩
          · rw [hresolve] at h
            cases h
          · rw [hresolve] at h
            cases h
            exact ⟨places, t₁, rfl, rfl, rfl, rfl⟩

/-- What is asked up to the look preserves a property, the look has not been made yet. -/
theorem look?_preserves {P : State σ → Prop} (hasks : Asks c P) (ht : P t.world)
    (h : c.look? r t = some l) : P l.start.world := by
  rcases look?_eq_some h with ⟨_, t₁, -, -, hresolve, hgates⟩
  have hresolved : P t₁.world := by
    have hkept := hasks.resolveTag r.tag t ht
    rwa [hresolve] at hkept
  have hran := hasks.runList ⟨l.artifact, l.target, r.dryRun⟩ l.target.gates t₁ hresolved
  unfold Gate.runAll at hgates
  rwa [hgates] at hran

/-- A promotion with a look is the look and what comes behind it. -/
theorem outcome_promote (h : c.look? r t = some l) :
    (c.promote r).outcome t =
      (c.checkSignature l.artifact l.target >>= c.proceed r l).outcome l.start := by
  rcases look?_eq_some h with ⟨_, _, hmove, htarget, hresolve, hgates⟩
  unfold promote assess proceed
  simp only [hmove, htarget, bind_assoc, pure_bind, Action.outcome_bind, hresolve,
    Action.outcome_lift, hgates]

/-- A promotion without a look fails where the move is checked or the tag is resolved. -/
theorem look?_eq_none (h : c.look? r t = none) :
    ∃ e t', (c.promote r).outcome t = (.error e, t') ∧
      ((∃ refusal, e = .illegalMove r.source r.target refusal ∧ t' = t) ∨
        (c.resolve r.tag).outcome t = (.error e, t')) := by
  unfold look? at h
  unfold promote assess
  cases hmove : c.pipeline.move r.source r.target with
  | error refusal => exact ⟨_, t, rfl, .inl ⟨_, rfl, rfl⟩⟩
  | ok places =>
      cases htarget : c.pipeline.environment? r.target with
      | none => exact ⟨_, t, rfl, .inl ⟨_, rfl, rfl⟩⟩
      | some target =>
          rw [hmove, htarget] at h
          rcases hresolve : (c.resolve r.tag).outcome t with ⟨e | artifact, t₁⟩
          · simp only [Action.outcome_bind, hresolve]
            exact ⟨e, t₁, rfl, .inr rfl⟩
          · rw [hresolve] at h
            cases h

/-- A promotion without a look does not fail for a signature. -/
theorem unrefused_of_no_look (h : c.look? r t = none) :
    Unrefused ((c.promote r).outcome t).1 := by
  rcases look?_eq_none h with ⟨e, t', houtcome, hcause⟩
  rw [houtcome]
  intro artifact reason he
  cases he
  rcases hcause with ⟨refusal, hmove, -⟩ | hresolve
  · cases hmove
  · rcases resolve_eq_error hresolve with hmissing | ⟨_, hregistry⟩
    · cases hmissing
    · cases hregistry

/-- A promotion without a look preserves what is preserved up to the look. -/
theorem preserves_of_no_look {P : State σ → Prop} (hasks : Asks c P) (ht : P t.world)
    (h : c.look? r t = none) : P ((c.promote r).outcome t).2.world := by
  rcases look?_eq_none h with ⟨e, t', houtcome, hcause⟩
  rw [houtcome]
  rcases hcause with ⟨_, -, rfl⟩ | hresolve
  · exact ht
  · have hkept := hasks.resolveTag r.tag t ht
    rwa [hresolve] at hkept

end Before

/-! ### Behind the look -/

theorem Unrefused.ok (x : α) : Unrefused (.ok x : Except Error α) := nofun

/-- A step that fails as another did refuses no artifact if that did not. -/
theorem Unrefused.error {β : Type} {e : Error} (h : Unrefused (.error e : Except Error α)) :
    Unrefused (.error e : Except Error β) := by
  intro artifact reason he
  cases he
  exact h artifact reason rfl

theorem authorize_unrefused (log : Audit.Log σ) (o : Operator) (tag source : String)
    (target : Environment) (w : σ) : Unrefused (authorize log o tag source target w).1 := by
  intro artifact reason he
  rcases hauth : authorize log o tag source target w with ⟨answer, w'⟩
  rw [hauth] at he
  subst he
  rcases authorize_eq_error hauth with ⟨denial, hdenied⟩ | ⟨failure, hfailed⟩
  · unfold denied at hdenied
    cases hdenied
  · cases hfailed

theorem lookTag_unrefused (c : Controller σ) (name : String) :
    (c.lookTag name).Ends Unrefused := by
  intro t
  unfold lookTag
  simp only [Action.outcome_bind, Action.outcome_observe, outcome_ask]
  rcases c.collaborators.registry.resolve c.registryUri name t.world.world with
    ⟨(_ | _ | _) | digest, w⟩
  all_goals exact nofun

theorem snapshot_unrefused (c : Controller σ) (record : Record) :
    (c.snapshot record).Ends Unrefused :=
  .bind (lookTag_unrefused c _) (fun _ h => h.error) fun _ _ =>
    .bind (lookTag_unrefused c _) (fun _ h => h.error) fun _ _ => .pure (.ok _)

theorem commit_unrefused (c : Controller σ) (artifact : Artifact) (record : Record) :
    (c.commit artifact record).Ends Unrefused := by
  have hwrite : ∀ call : Call σ Registry.Error Unit,
      (Action.mapError registryError (ask call)).Ends Unrefused := fun call =>
    .mapError (fun _ => .ok _) fun _ => nofun
  refine .bind (hwrite _) (fun _ h => h.error) fun _ _ => ?_
  refine .bind (hwrite _) (fun _ h => h.error) fun _ _ => ?_
  exact .mapError (fun _ => .ok _) fun _ => nofun

/-- Nothing that lands a promotion looks at the signature. -/
theorem land_unrefused (c : Controller σ) (artifact : Artifact) (record : Record) :
    (c.land artifact record).Ends Unrefused := by
  -- Reports, notices and putting back cannot fail at all.
  have hreport : (reportOptional record.gateResults : Action (State σ) Error Unit).Ends
      Unrefused := by
    intro t
    rcases outcome_reportOptional record.gateResults t with ⟨log, hlog⟩
    rw [hlog]
    exact .ok _
  have hnotify : ∀ event, (c.notify event record).Ends Unrefused := fun _ => .ofWorld fun _ => .ok _
  have hback : ∀ before, (c.restoreTags record before).Ends Unrefused := by
    intro before t
    rcases outcome_restoreTags c record before t with ⟨log, hlog⟩
    rw [hlog]
    exact .ok _
  have hemit : ∀ event, (Action.emit event : Action (State σ) Error Unit).Ends Unrefused :=
    fun event => .emit event (.ok _)
  unfold land
  split
  · refine .bind (hemit _) (fun _ h => h.error) fun _ _ => ?_
    exact .bind (hnotify _) (fun _ h => h.error) fun _ _ => .throw nofun
  refine .bind hreport (fun _ h => h.error) fun _ _ => ?_
  refine .bind (snapshot_unrefused c record) (fun _ h => h.error) fun before _ => ?_
  -- What the writes failed of is thrown again once the tags are put back.
  have hwrites : (Action.observe (c.commit artifact record) :
      Action (State σ) Error (Except Error Audit.Entry)).Ends
        (∃ answer, · = .ok answer ∧ Unrefused answer) :=
    .observe (commit_unrefused c artifact record) fun answer h => ⟨answer, rfl, h⟩
  refine .bind hwrites (fun e h => ?_) fun answer h => ?_
  · rcases h with ⟨_, h, -⟩
    cases h
  rcases h with ⟨_, ⟨⟩, hanswer⟩
  rcases answer with cause | entry
  · refine .bind (hemit _) (fun _ h => h.error) fun _ _ => ?_
    exact .bind (hback before) (fun _ h => h.error) fun _ _ => .throw hanswer.error
  · refine .bind (hemit _) (fun _ h => h.error) fun _ _ => ?_
    exact .bind (hnotify _) (fun _ h => h.error) fun _ _ => .pure (.ok _)

/-- What comes behind a look with a verdict puts that verdict into the record, and has no other
    cause to refuse the artifact for its signature. -/
theorem proceed_heeds (c : Controller σ) (r : Request) (l : Look σ) (verification : Verdict) :
    (c.proceed r l verification).Ends (Heeds (.ok verification)) := by
  have hfailed : ∀ e, Unrefused (.error e : Except Error Unit) →
      Heeds (.ok verification) (.error e) := by
    intro e h
    refine ⟨h.error, fun record he => ?_⟩
    cases he
  have hreading : ∀ {α : Type} (step : σ → α × σ),
      (tell step : Action (State σ) Error α).Ends Unrefused := fun _ => .ofWorld fun _ => .ok _
  unfold proceed
  refine .bind (fun t => authorize_unrefused _ _ _ _ _ t.world.world) hfailed fun _ _ => ?_
  refine .bind (hreading _) (fun e h => hfailed e h.error) fun id _ => ?_
  refine .bind (hreading _) (fun e h => hfailed e h.error) fun timestamp _ => ?_
  simp only
  split
  · refine .bind (.emit _ (Unrefused.ok ())) hfailed fun _ _ => .pure ?_
    exact ⟨.ok _, fun record he => by cases he; exact ⟨rfl, rfl⟩⟩
  · intro t
    refine ⟨land_unrefused c _ _ t, fun record he => ?_⟩
    have hland := land_eq_ok (Prod.ext he rfl)
    subst hland
    exact ⟨rfl, rfl⟩

/-- What comes behind a look preserves what its requests do. -/
theorem proceed_preserves {c : Controller σ} {P : State σ → Prop} (h : Asks c P)
    (hcreate : ∀ artifact tag, Keeps P (c.collaborators.registry.createTag artifact tag))
    (hremove : ∀ tag, Keeps P (c.collaborators.registry.removeTag c.registryUri tag))
    (hpending : ∀ s pending, P s → P { s with pending })
    (happend : ∀ record, Keeps P (c.collaborators.audit.append record)) (r : Request)
    (l : Look σ) (verification : Verdict) : (c.proceed r l verification).Preserves P := by
  unfold proceed
  refine .bind (ask_preserves (h.authorize _ _ _ _)) fun _ => ?_
  refine .bind (tell_preserves h.freshId) fun id => ?_
  refine .bind (tell_preserves h.clock) fun timestamp => ?_
  simp only
  split
  · exact .bind (.emit _) fun _ => .pure _
  · exact land_preserves h hcreate hremove hpending (happend _) _

/-- The answer of a promotion heeds what its look came to. -/
theorem heeds_of_look {c : Controller σ} {r : Request} {t : Traced (State σ)} {l : Look σ}
    (h : c.look? r t = some l) :
    Heeds ((c.checkSignature l.artifact l.target).outcome l.start).1
      ((c.promote r).outcome t).1 := by
  rw [outcome_promote h, Action.outcome_bind]
  rcases (c.checkSignature l.artifact l.target).outcome l.start with ⟨e | verification, t₁⟩
  · rfl
  · exact proceed_heeds c r l verification t₁

/-! ### With something else remembered -/

section Views

variable {f : τ → σ} {g : State τ → State σ} (hg : State.View f g) {pipeline : Pipeline}
  {uri : String} {larger : Collaborators τ} {k : Collaborators σ} (h : larger.Mirrors f k)

include hg h

/-- A promotion comes to the same look in every view. -/
theorem look?_map (r : Request) (t : Traced (State τ)) :
    look? ⟨pipeline, uri, k⟩ r (t.map g) = (look? ⟨pipeline, uri, larger⟩ r t).map (Look.map g) := by
  unfold look?
  cases pipeline.move r.source r.target with
  | error refusal => rfl
  | ok places =>
      cases pipeline.environment? r.target with
      | none => rfl
      | some target =>
          simp only [resolve_mirrors hg h r.tag t]
          rcases (resolve ⟨pipeline, uri, larger⟩ r.tag).outcome t with ⟨e | artifact, t₁⟩
          · rfl
          · have hgates := inWorld_mirrors hg
              (Gate.runList_mirrors (fun name => h.gates name ⟨artifact, target, r.dryRun⟩)
                target.gates) t₁
            unfold Gate.runAll
            simp only [hgates]
            rfl

/-- What comes behind a look does the same in every view. -/
theorem proceed_mirrors (r : Request) (l : Look τ) (verification : Verdict) :
    (proceed ⟨pipeline, uri, larger⟩ r l verification).Mirrors g
      (proceed ⟨pipeline, uri, k⟩ r (l.map g) verification) := by
  unfold proceed
  refine .bind (ask_mirrors hg (authorize_commutes h _ _ _ _)) fun _ => ?_
  refine .bind (tell_mirrors hg h.freshId) fun id => ?_
  refine .bind (tell_mirrors hg h.clock) fun timestamp => ?_
  simp only
  split
  · exact .bind (.emit _) fun _ => .pure _
  · exact land_mirrors hg h _ _

end Views

/-- What does the same whatever is remembered does not change it. -/
theorem memory_of_mirrors {a : Action (State σ) ε α}
    (h : ∀ verifierBuilt cache, a.Mirrors (State.remembering verifierBuilt cache) a)
    (t : Traced (State σ)) :
    (a.outcome t).2.world.verifierBuilt = t.world.verifierBuilt ∧
      (a.outcome t).2.world.cache = t.world.cache := by
  -- To remember what is remembered anyway is no change.
  have hsame := h t.world.verifierBuilt t.world.cache t
  have hworld : (a.outcome t).2 =
      (a.outcome t).2.map (State.remembering t.world.verifierBuilt t.world.cache) :=
    (Prod.ext_iff.mp hsame).2
  rw [hworld]
  exact ⟨rfl, rfl⟩

theorem proceed_memory (c : Controller σ) (r : Request) (l : Look σ) (verification : Verdict)
    (t : Traced (State σ)) :
    ((c.proceed r l verification).outcome t).2.world.verifierBuilt = t.world.verifierBuilt ∧
      ((c.proceed r l verification).outcome t).2.world.cache = t.world.cache :=
  memory_of_mirrors (fun verifierBuilt cache =>
    proceed_mirrors (State.view_remembering verifierBuilt cache) c.collaborators.mirrors_self r l
      verification) t

end Controller

end Promotion
