import Promotion.Proofs.Controller.Signature
import Promotion.Proofs.Gate

/-!
# Before the Writes

What an assessment does, for collaborators of any kind.

Up to the writes a controller only asks. `Asks` and `Sees` collect what it asks
and say of a property of its state that none of these requests ends it; an
assessment then preserves the property, whichever way it ends. What the requests
leave alone in a particular world is shown once for the requests, not again for
each step that makes them. The look at a signature stands apart, since it is the
one step after which a controller remembers something.

A promotion that gets as far as its record has passed every check on the way.
`Assessed` lists the checks in order with the states between them, and
`assessed_of_outcome` reads them off a successful outcome.

## Main definitions

* `Keeps`: A step of the world keeps a property of a controller's state.
* `Asks`: A property that no request before the writes ends, but for the signature.
* `Sees`: A property that does not end where a signature is looked at.
* `Looks`: A property that no request before the writes ends.
* `Assessed`: Every check passed, one after the other.

## Theorems

* `assess_preserves`: What the requests preserve, the assessment does.
* `Looks.assessed`, `Looks.sought`: What holds up to the writes.
* `assessed_of_outcome`: A successful assessment passed every check.
* `resolve_eq_error`, `authorize_eq_error`: How two of the checks fail.
* `assess_eq_error`: An assessment fails in one of its checks.
-/

namespace Promotion

namespace Controller

variable {σ ε α : Type}

@[simp] theorem outcome_inWorld (r : Run σ α) (t : Traced (State σ)) :
    (inWorld r).outcome t = ((r.outcome ⟨t.world.world, t.log⟩).1,
      ⟨{ t.world with world := (r.outcome ⟨t.world.world, t.log⟩).2.world },
        (r.outcome ⟨t.world.world, t.log⟩).2.log⟩) := rfl

/-- What a request answers, and what it leaves of a controller's state. -/
theorem ask_eq {call : Call σ ε α} {t t' : Traced (State σ)} {answer : Except ε α}
    (h : (ask call).outcome t = (answer, t')) :
    ∃ w, call t.world.world = (answer, w) ∧ t' = ⟨{ t.world with world := w }, t.log⟩ := by
  rw [outcome_ask] at h
  cases h
  exact ⟨_, rfl, rfl⟩

/-- What a reading shows, and what it leaves of a controller's state. -/
theorem tell_eq {step : σ → α × σ} {t t' : Traced (State σ)} {a : α}
    (h : (tell step : Action (State σ) ε α).outcome t = (.ok a, t')) :
    ∃ w, step t.world.world = (a, w) ∧ t' = ⟨{ t.world with world := w }, t.log⟩ := by
  rw [outcome_tell] at h
  cases h
  exact ⟨_, rfl, rfl⟩

/-- A step of the world keeps a property of a controller's state. -/
def Keeps (P : State σ → Prop) (step : σ → α × σ) : Prop :=
  ∀ s, P s → P { s with world := (step s.world).2 }

theorem ask_preserves {P : State σ → Prop} {call : Call σ ε α} (h : Keeps P call) :
    (ask call).Preserves P := fun t ht => h t.world ht

theorem tell_preserves {P : State σ → Prop} {step : σ → α × σ} (h : Keeps P step) :
    (tell step : Action (State σ) ε α).Preserves P := fun t ht => h t.world ht

/-- A property of a controller's state that nothing ends that is asked before the writes, but
    for the signature. -/
structure Asks (c : Controller σ) (P : State σ → Prop) : Prop where
  resolve : ∀ tag, Keeps P (c.collaborators.registry.resolve c.registryUri tag)
  gates : ∀ name subject, Keeps P (c.collaborators.gates name subject)
  query : ∀ question, Keeps P (c.collaborators.audit.query question)
  clock : Keeps P c.collaborators.clock
  freshId : Keeps P c.collaborators.freshId

/-- A property of a controller's state that does not end where a signature is looked at, nor with
    what is remembered of it. -/
structure Sees (c : Controller σ) (P : State σ → Prop) : Prop where
  clock : Keeps P c.collaborators.clock
  fetch : ∀ artifact, Keeps P (c.collaborators.registry.fetch artifact)
  build : Keeps P c.collaborators.verifier.build
  verify : ∀ artifact content policy,
    Keeps P (c.collaborators.verifier.verify artifact content policy)
  remembers : ∀ s verifierBuilt cache, P s → P { s with verifierBuilt, cache }

/-- A property that nothing ends that is asked before the writes. -/
structure Looks (c : Controller σ) (P : State σ → Prop) : Prop extends Asks c P, Sees c P

variable {c : Controller σ} {P : State σ → Prop}

namespace Asks

theorem resolveTag (h : Asks c P) (tag : String) : (c.resolve tag).Preserves P := by
  refine .bind (.observe (ask_preserves (h.resolve tag))) fun answer => ?_
  rcases answer with (_ | _ | _) | digest
  · exact .throw _
  · exact .throw _
  · exact .throw _
  · exact .pure _

theorem lookTag (h : Asks c P) (name : String) : (c.lookTag name).Preserves P := by
  refine .bind (.observe (ask_preserves (h.resolve name))) fun answer => ?_
  rcases answer with (_ | _ | _) | digest
  · exact .pure _
  · exact .throw _
  · exact .throw _
  · exact .pure _

theorem snapshot (h : Asks c P) (record : Record) : (c.snapshot record).Preserves P :=
  .bind (h.lookTag _) fun _ => .bind (h.lookTag _) fun _ => .pure _

/-- Gates are called one after the other, and nothing else happens to the world. -/
theorem runList (h : Asks c P) (subject : Gate.Subject) (gates : List Gate) :
    Run.Preserves P (inWorld (Gate.runList c.collaborators.gates subject gates)) := by
  induction gates with
  | nil => exact fun t ht => ht
  | cons gate rest ih =>
      intro t ht
      -- A gate changes the world whether or not it has something to report.
      have hone := h.gates gate.name subject t.world ht
      rcases Gate.outcome_runOne c.collaborators.gates subject gate ⟨t.world.world, t.log⟩ with
        ⟨log, hran⟩
      simp only [outcome_inWorld, Gate.runList, Run.outcome_bind, Run.outcome_pure, hran]
      exact ih ⟨_, log⟩ hone

/-- Whoever is let in or not, the log is asked for one thing at most. -/
theorem authorize (h : Asks c P) (o : Operator) (tag source : String) (target : Environment) :
    Keeps P (Promotion.authorize c.collaborators.audit o tag source target) := by
  intro s hs
  -- Asking for the newest promotion is a query like any other.
  have hworld : (c.collaborators.audit.latestInto tag source s.world).2 =
      (c.collaborators.audit.query (.latestInto tag source) s.world).2 := rfl
  have hquery := h.query (.latestInto tag source) s hs
  rw [← hworld] at hquery
  rcases authorize_cases c.collaborators.audit o tag source target s.world with
    ⟨r, hr, -⟩ | ⟨e, w, hlookup, hr⟩ | ⟨found, w, hlookup, hr⟩
  · rw [hr]
    exact hs
  · rw [hlookup] at hquery
    rw [hr]
    exact hquery
  · rw [hlookup] at hquery
    rw [hr]
    exact hquery

end Asks

namespace Sees

/-- Building a verifier, if that has to be done, is all there is to having one. -/
theorem ready (h : Sees c P) {s : State σ} (hs : P s) {w : σ} (hw : c.Ready s w) :
    P { s with world := w } := by
  cases hw with
  | before _ => exact hs
  | now _ hb =>
      have hbuild := h.build s hs
      rwa [hb] at hbuild

theorem called (h : Sees c P) {artifact : Artifact} {policy : Signature.Policy} {s : State σ}
    (hs : P s) {r : Except Signature.Failure Signature.Verdict × State σ}
    (hr : c.Called artifact policy s r) : P r.2 := by
  cases hr with
  | unbuilt _ hb =>
      have hbuild := h.build s hs
      rwa [hb] at hbuild
  | unfetched hw hf =>
      have hfetch := h.fetch artifact _ (h.ready hs hw)
      rw [hf] at hfetch
      exact h.remembers _ true s.cache hfetch
  | @answered w w₁ w₂ content answer hw hf hv =>
      have hfetch := h.fetch artifact _ (h.ready hs hw)
      rw [hf] at hfetch
      have hverify := h.verify artifact content policy _ hfetch
      rw [hv] at hverify
      exact h.remembers _ true s.cache hverify

theorem callVerifier (h : Sees c P) {artifact : Artifact} {policy : Signature.Policy}
    {s s₁ : State σ} {answer : Except Signature.Failure Signature.Verdict} (hs : P s)
    (hcall : c.callVerifier artifact policy s = (answer, s₁)) : P s₁ := by
  have hcalled := h.called hs (called_callVerifier c artifact policy s)
  rwa [hcall] at hcalled

theorem checkSignature (h : Sees c P) (artifact : Artifact) (target : Environment) :
    (c.checkSignature artifact target).Preserves P := by
  intro t ht
  have hchecked := checked_checkSignature c artifact target t
  -- Only the case matters from here, not the code that led to it.
  generalize ((c.checkSignature artifact target).outcome t).2.world = s at hchecked ⊢
  generalize ((c.checkSignature artifact target).outcome t).1 = r at hchecked
  cases hchecked with
  | skipped _ hnow =>
      have hclock := h.clock _ ht
      rwa [hnow] at hclock
  | remembered _ _ _ => exact ht
  | recalled _ _ _ => exact ht
  | verified _ _ hcall _ => exact h.remembers _ _ _ (h.callVerifier ht hcall)
  | tolerated _ _ hcall _ hnow =>
      have hclock := h.clock _ (h.callVerifier ht hcall)
      rw [hnow] at hclock
      exact h.remembers _ _ _ hclock
  | rejected _ _ hcall _ => exact h.callVerifier ht hcall

end Sees

/-- What the requests preserve, the assessment does. -/
theorem assess_preserves (h : Asks c P)
    (hcheck : ∀ artifact target, (c.checkSignature artifact target).Preserves P) (r : Request) :
    (c.assess r).Preserves P := by
  unfold assess
  cases c.pipeline.move r.source r.target with
  | error refusal => exact .throw _
  | ok places =>
      cases c.pipeline.environment? r.target with
      | none => exact .throw _
      | some target =>
          refine .bind (h.resolveTag r.tag) fun artifact => ?_
          refine .bind (.lift (h.runList _ _)) fun gateResults => ?_
          refine .bind (hcheck artifact target) fun verification => ?_
          refine .bind (ask_preserves (h.authorize _ _ _ _)) fun _ => ?_
          refine .bind (tell_preserves h.freshId) fun id => ?_
          exact .bind (tell_preserves h.clock) fun timestamp => .pure _

/-- A property that no request before the writes ends holds after an assessment. -/
theorem Looks.assessed (h : Looks c P) {r : Request} {t t' : Traced (State σ)}
    {answer : Except Error (Artifact × Record)} (hassess : (c.assess r).outcome t = (answer, t'))
    (ht : P t.world) : P t'.world := by
  have hkeep := assess_preserves h.toAsks h.toSees.checkSignature r t ht
  rwa [hassess] at hkeep

/-- It still holds after the snapshot, which is all that comes between assessment and writes. -/
theorem Looks.sought (h : Looks c P) {r : Request} {record : Record}
    {t t₁ t₂ : Traced (State σ)} {assessed : Except Error (Artifact × Record)}
    {log : List Log.Event} {answer : Except Error (List (String × Option Digest))}
    (hassess : (c.assess r).outcome t = (assessed, t₁))
    (hsnap : (c.snapshot record).outcome ⟨t₁.world, log⟩ = (answer, t₂)) (ht : P t.world) :
    P t₂.world := by
  have hafter := h.assessed hassess ht
  have hkeep := h.toAsks.snapshot record ⟨t₁.world, log⟩ hafter
  rwa [hsnap] at hkeep

/-- Every check of an assessment passed, one after the other, from a state up to the one in which
    the record is made. -/
inductive Assessed (c : Controller σ) (r : Request) (t : Traced (State σ)) :
    Artifact → Record → Traced (State σ) → Prop
  | passed {places : Nat × Nat} {target : Environment} {artifact : Artifact}
      {gateResults : List Gate.Result} {verification : Signature.Verdict} {id : PromotionId}
      {timestamp : Timestamp} {t₁ t₂ t₃ : Traced (State σ)} {w₄ w₅ w₆ : σ}
      (moved : c.pipeline.move r.source r.target = .ok places)
      (found : c.pipeline.environment? r.target = some target)
      (resolved : (c.resolve r.tag).outcome t = (.ok artifact, t₁))
      (gates : (inWorld (Gate.runAll c.collaborators.gates ⟨artifact, target, r.dryRun⟩)).outcome
        t₁ = (gateResults, t₂))
      (checked : (c.checkSignature artifact target).outcome t₂ = (.ok verification, t₃))
      (authorized : authorize c.collaborators.audit r.operator r.tag r.source target
        t₃.world.world = (.ok (), w₄))
      (identified : c.collaborators.freshId w₄ = (id, w₅))
      (stamped : c.collaborators.clock w₅ = (timestamp, w₆)) :
      Assessed c r t artifact
        { id, tag := r.tag, digest := artifact.digest, fromEnv := r.source, toEnv := r.target
          operator := r.operator.name, dryRun := r.dryRun, gateResults
          signatureVerified := verification.isValid, verification, timestamp }
        ⟨{ t₃.world with world := w₆ }, t₃.log⟩

/-- A successful assessment passed every check. -/
theorem assessed_of_outcome {r : Request} {t t' : Traced (State σ)} {artifact : Artifact}
    {record : Record} (h : (c.assess r).outcome t = (.ok (artifact, record), t')) :
    c.Assessed r t artifact record t' := by
  unfold assess at h
  cases hm : c.pipeline.move r.source r.target with
  | error refusal =>
      rw [hm] at h
      cases h
  | ok places =>
      cases hf : c.pipeline.environment? r.target with
      | none =>
          rw [hm, hf] at h
          cases h
      | some target =>
          rw [hm, hf] at h
          -- Six checks in a row, each of which succeeded if the whole did.
          rcases Action.bind_eq_ok.mp h with ⟨a, t₁, hresolve, h⟩
          rcases Action.bind_eq_ok.mp h with ⟨gateResults, t₂, hgates, h⟩
          rcases Action.bind_eq_ok.mp h with ⟨verification, t₃, hcheck, h⟩
          rcases Action.bind_eq_ok.mp h with ⟨_, t₄, hask, h⟩
          rcases Action.bind_eq_ok.mp h with ⟨id, t₅, hname, h⟩
          rcases Action.bind_eq_ok.mp h with ⟨timestamp, t₆, hread, h⟩
          cases h
          rcases ask_eq hask with ⟨w₄, hauth, rfl⟩
          rcases tell_eq hname with ⟨w₅, hid, rfl⟩
          rcases tell_eq hread with ⟨w₆, hstamp, rfl⟩
          rw [Action.outcome_lift] at hgates
          cases hgates
          have hpassed : c.Assessed r t artifact _ ⟨{ t₃.world with world := w₆ }, t₃.log⟩ :=
            .passed hm hf hresolve rfl hcheck hauth hid hstamp
          exact hpassed

/-- A tag does not resolve if there is none, or if the registry fails. -/
theorem resolve_eq_error {tag : String} {t t' : Traced (State σ)} {e : Error}
    (h : (c.resolve tag).outcome t = (.error e, t')) :
    e = .artifactNotFound tag c.registryUri ∨ ∃ reason, e = .registry reason := by
  unfold resolve at h
  simp only [Action.outcome_bind, Action.outcome_observe, outcome_ask] at h
  rcases hr : c.collaborators.registry.resolve c.registryUri tag t.world.world with
    ⟨(_ | _ | _) | digest, w⟩
  all_goals
    rw [hr] at h
    cases h
  · exact .inl rfl
  · exact .inr ⟨_, rfl⟩
  · exact .inr ⟨_, rfl⟩

/-- Whoever is not let in is told why, or the log has failed. -/
theorem authorize_eq_error {log : Audit.Log σ} {o : Operator} {tag source : String}
    {target : Environment} {w w' : σ} {e : Error}
    (h : authorize log o tag source target w = (.error e, w')) :
    (∃ denial, e = denied o target denial) ∨ ∃ failure, e = .audit failure := by
  rcases authorize_cases log o tag source target w with
    ⟨r, hr, rfl | rfl⟩ | ⟨failure, w₁, -, hr⟩ | ⟨found, w₁, -, hr⟩
  · cases hr.symm.trans h
  · cases hr.symm.trans h
    exact .inl ⟨_, rfl⟩
  · cases hr.symm.trans h
    exact .inr ⟨_, rfl⟩
  · split at hr
    · cases hr.symm.trans h
      exact .inl ⟨_, rfl⟩
    · cases hr.symm.trans h

/-- An assessment fails in one of four checks, and gates are none of them. -/
theorem assess_eq_error {r : Request} {t t' : Traced (State σ)} {e : Error}
    (h : (c.assess r).outcome t = (.error e, t')) :
    (∃ refusal, e = .illegalMove r.source r.target refusal) ∨
      (c.resolve r.tag).outcome t = (.error e, t') ∨
      (∃ artifact target t₁, (c.checkSignature artifact target).outcome t₁ = (.error e, t')) ∨
      ∃ target w w', authorize c.collaborators.audit r.operator r.tag r.source target w =
        (.error e, w') := by
  unfold assess at h
  cases hm : c.pipeline.move r.source r.target with
  | error refusal =>
      rw [hm] at h
      cases h
      exact .inl ⟨refusal, rfl⟩
  | ok places =>
      cases hf : c.pipeline.environment? r.target with
      | none =>
          rw [hm, hf] at h
          cases h
          exact .inl ⟨_, rfl⟩
      | some target =>
          rw [hm, hf] at h
          rcases Action.bind_eq_error h with h | ⟨artifact, t₁, -, h⟩
          · exact .inr (.inl h)
          rcases Action.bind_eq_error h with h | ⟨gateResults, t₂, -, h⟩
          · cases h
          rcases Action.bind_eq_error h with h | ⟨verification, t₃, -, h⟩
          · exact .inr (.inr (.inl ⟨artifact, target, t₂, h⟩))
          rcases Action.bind_eq_error h with h | ⟨_, t₄, -, h⟩
          · rcases ask_eq h with ⟨w, hauth, -⟩
            exact .inr (.inr (.inr ⟨target, _, w, hauth⟩))
          -- What is left only reads an identifier and a clock.
          rcases Action.bind_eq_error h with h | ⟨id, t₅, -, h⟩
          · cases h
          rcases Action.bind_eq_error h with h | ⟨timestamp, t₆, -, h⟩
          · cases h
          · cases h

end Controller

end Promotion
