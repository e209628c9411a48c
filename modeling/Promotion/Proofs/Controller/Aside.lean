import Promotion.Proofs.Controller.DryRun

/-!
# What a Promotion Does Not Read

A promotion does the same whatever is still to be told and whatever was logged.

What is told in the background stands in a controller's state beside all that a
promotion reads. It is added to and never looked at. So two states that differ
in nothing else are `Akin`, and from akin states a promotion gives one answer and
leaves akin states. The rules for actions that agree compare no logs, so the
same proof says that what was logged makes no difference either.

Those rules were made for runs with clocks of their own, where verdicts and
records differ by their times. Here both runs ask the same world, and values are
compared by equality. So the looks at a signature are put together once more,
and all else is what was shown there.

## Main definitions

* `State.Akin`: Two states that differ in what is still to be told at most.

## Theorems

* `Gate.runList_unlogged`: Gates do the same whatever was logged.
* `checkSignature_akin`, `assess_akin`, `land_akin`: So do the steps of a promotion.
* `promote_akin`: A promotion does not read what is still to be told.
-/

namespace Promotion

variable {σ ε α : Type}

/-- Gates do the same whatever was logged before. -/
theorem Gate.runList_unlogged (runner : Gate.Runner σ) (subject : Gate.Subject)
    (gates : List Gate) :
    Run.Agree Eq Eq (Gate.runList runner subject gates) (Gate.runList runner subject gates) := by
  have hone : ∀ gate, Run.Agree Eq Eq (Gate.runOne runner subject gate)
      (Gate.runOne runner subject gate) := by
    intro gate t t' hw
    rcases Gate.outcome_runOne runner subject gate t with ⟨log, hr⟩
    rcases Gate.outcome_runOne runner subject gate t' with ⟨log', hr'⟩
    rw [hr, hr', hw]
    exact ⟨rfl, rfl⟩
  induction gates with
  | nil => exact .pure rfl
  | cons gate rest ih =>
      refine .bind (hone gate) ?_
      rintro result _ rfl
      refine .bind ih ?_
      rintro results _ rfl
      exact .pure rfl

/-- Collaborators are like themselves, if both runs are dry or both are meant. -/
theorem Collaborators.asks_self (k : Collaborators σ) (dryRun : Bool) :
    k.AskAlike true dryRun dryRun Eq k where
  resolve _ _ := .of_eq (.of_eq fun _ => rfl) _
  gates _ _ _ := by
    have hsame : ∀ r, InvImage Eq Gate.Result.untimed r r := fun _ => rfl
    exact .of_eq (fun _ => ⟨.of_eq hsame _, fun _ _ => Iff.rfl⟩) _
  newest _ _ _ := .of_eq (.of_eq fun _ => rfl) _
  clock := .of_eq (fun _ => trivial) _
  freshId := .of_eq (fun _ => trivial) _

/-- A verdict is looked up or looked for in the same way, if it is looked for in the same way. -/
theorem Signature.Cache.getOrTry_self {S : σ → σ → Prop} {find : Action σ ε Signature.Verdict}
    (h : find.Agree S Eq find) (cache : Signature.Cache) (digest : Digest)
    (policy : Signature.Policy) :
    (cache.getOrTry digest policy find).Agree S Eq (cache.getOrTry digest policy find) := by
  unfold getOrTry
  cases cache.get? digest policy with
  | some verdict => exact .pure rfl
  | none =>
      refine .bind h ?_
      rintro verdict _ rfl
      exact .pure rfl

namespace Controller

/-- Two states that differ in what is still to be told at most. -/
structure State.Akin (s s' : State σ) : Prop where
  world : s.world = s'.world
  built : s.verifierBuilt = s'.verifierBuilt
  cache : s.cache = s'.cache

theorem State.Akin.follows : State.Follows Eq (State.Akin (σ := σ)) where
  worlds h := h.world
  step h hw := ⟨hw, h.built, h.cache⟩

theorem State.Akin.ignoresPending : State.IgnoresPending (State.Akin (σ := σ)) :=
  fun _ _ h => ⟨h.world, h.built, h.cache⟩

variable (c : Controller σ)

theorem ask_akin (call : Call σ ε α) : (ask call).Agree State.Akin Eq (ask call) :=
  ask_agree State.Akin.follows (.of_eq (.of_eq fun _ => rfl) call)

theorem tell_akin (step : σ → α × σ) :
    (tell step : Action (State σ) ε α).Agree State.Akin Eq (tell step) :=
  tell_agree State.Akin.follows (.of_eq (fun _ => rfl) step)

theorem clock_akin : Agrees State.Akin Eq c.clock c.clock := by
  intro s s' h
  unfold clock
  rw [h.world]
  exact ⟨rfl, rfl, h.built, h.cache⟩

theorem callVerifier_akin (artifact : Artifact) (policy : Signature.Policy) :
    Agrees State.Akin Eq (c.callVerifier artifact policy) (c.callVerifier artifact policy) := by
  intro s s' h
  unfold callVerifier
  rw [h.world, h.built]
  rcases Signature.demand c.collaborators.verifier.build s'.verifierBuilt s'.world with
    ⟨e | ⟨⟩, built, w⟩
  · exact ⟨rfl, rfl, rfl, h.cache⟩
  · rcases hfetch : c.collaborators.registry.fetch artifact w with ⟨e | content, w₁⟩
    · simp only [hfetch]
      exact ⟨trivial, rfl, rfl, h.cache⟩
    · simp only [hfetch]
      exact ⟨trivial, rfl, rfl, h.cache⟩

theorem skip_akin (artifact : Artifact) :
    (Signature.skip c.clock artifact).Agree State.Akin Eq (Signature.skip c.clock artifact) := by
  refine .bind (.emit _ _) fun _ _ _ => .bind (.ofWorld (clock_akin c)) ?_
  rintro now _ rfl
  exact .pure rfl

theorem tolerate_akin (artifact : Artifact) (failure : Signature.Failure) :
    (Signature.tolerate c.clock artifact failure).Agree State.Akin Eq
      (Signature.tolerate c.clock artifact failure) := by
  refine .bind (.emit _ _) fun _ _ _ => .bind (.ofWorld (clock_akin c)) ?_
  rintro now _ rfl
  exact .pure rfl

theorem judge_akin (enforcement : Signature.Enforcement) (artifact : Artifact)
    (answer : Except Signature.Failure Signature.Verdict) :
    (Signature.judge c.clock enforcement artifact answer).Agree State.Akin Eq
      (Signature.judge c.clock enforcement artifact answer) := by
  unfold Signature.judge
  cases answer.bind Signature.Verdict.require with
  | ok verdict => exact .pure rfl
  | error failure =>
      cases enforcement with
      | enforce => exact .bind (.emit _ _) fun _ _ _ => .throw _
      | warn => exact .lift (tolerate_akin c artifact failure)
      | off => exact .lift (tolerate_akin c artifact failure)

theorem apply_akin (enforcement : Signature.Enforcement) (artifact : Artifact)
    (policy : Signature.Policy) :
    (Signature.apply c.clock enforcement artifact (c.callVerifier artifact policy)).Agree
      State.Akin Eq
      (Signature.apply c.clock enforcement artifact (c.callVerifier artifact policy)) := by
  cases enforcement with
  | off => exact .lift (skip_akin c artifact)
  | warn =>
      refine .bind (.ofWorld (callVerifier_akin c artifact policy)) ?_
      rintro answer _ rfl
      exact judge_akin c .warn artifact answer
  | enforce =>
      refine .bind (.ofWorld (callVerifier_akin c artifact policy)) ?_
      rintro answer _ rfl
      exact judge_akin c .enforce artifact answer

/-- A look at a signature does not read what is still to be told. -/
theorem checkSignature_akin (artifact : Artifact) (target : Environment) :
    (c.checkSignature artifact target).Agree State.Akin Eq (c.checkSignature artifact target) := by
  unfold checkSignature
  by_cases hoff : target.signature.enforcement = .off
  · simp only [hoff, if_true]
    exact .lift (skip_akin c artifact)
  simp only [hoff, if_false]
  -- Both runs remember the same verdicts, so both have one or both look for it.
  refine .bind (V := Eq) (.ofWorld fun s s' h => ⟨h.cache, h⟩) ?_
  rintro cache _ rfl
  refine .bind (cache.getOrTry_self (apply_akin c _ artifact _) _ _) ?_
  rintro ⟨verdict, kept⟩ _ rfl
  refine .bind (V := Eq) (.ofWorld fun s s' h => ⟨rfl, h.world, h.built, rfl⟩) fun _ _ _ => ?_
  by_cases hrefused : target.signature.enforcement = .enforce ∧ ¬ verdict.isValid = true
  · simp only [if_pos hrefused]
    exact .bind (V := Eq) (.throw _) fun _ _ _ => .pure rfl
  · simp only [if_neg hrefused]
    exact .pure rfl

theorem assess_akin (r : Request) : (c.assess r).Agree State.Akin Eq (c.assess r) := by
  unfold assess
  have hasks := c.collaborators.asks_self r.dryRun
  cases c.pipeline.move r.source r.target with
  | error refusal => exact .throw _
  | ok places =>
      cases c.pipeline.environment? r.target with
      | none => exact .throw _
      | some target =>
          refine .bind (resolve_agree State.Akin.follows hasks r.tag) ?_
          rintro artifact _ rfl
          refine .bind (.lift (inWorld_agree State.Akin.follows
            (Gate.runList_unlogged c.collaborators.gates _ target.gates))) ?_
          rintro gateResults _ rfl
          refine .bind (checkSignature_akin c artifact target) ?_
          rintro verification _ rfl
          refine .bind (ask_akin _) fun _ _ _ => ?_
          refine .bind (tell_akin _) ?_
          rintro id _ rfl
          refine .bind (tell_akin _) ?_
          rintro timestamp _ rfl
          exact .pure rfl

theorem land_akin (artifact : Artifact) (record : Record) :
    (c.land artifact record).Agree State.Akin Eq (c.land artifact record) := by
  have htags := tagAlike_self c.collaborators
  have hnotify : ∀ event, (c.notify event record).Agree State.Akin Eq (c.notify event record) :=
    fun event => notify_agree State.Akin.ignoresPending event record record
  unfold land
  split
  · exact .bind (.emit _ _) fun _ _ _ => .bind (hnotify _) fun _ _ _ => .throw _
  refine .bind (reportOptional_agree _ _) fun _ _ _ => ?_
  refine .bind (snapshot_agree State.Akin.follows htags rfl rfl) ?_
  rintro before _ rfl
  have hcommit : (c.commit artifact record).Agree State.Akin Eq (c.commit artifact record) :=
    commit_agree State.Akin.follows htags rfl rfl (.of_eq (.of_eq fun _ => rfl) _) artifact
  refine .bind (.observe hcommit) ?_
  rintro answer _ hend
  cases hend.eq
  cases answer with
  | error cause =>
      exact .bind (.emit _ _) fun _ _ _ =>
        .bind (restoreTags_agree State.Akin.follows htags record record before) fun _ _ _ =>
          .throw _
  | ok entry =>
      exact .bind (.emit _ _) fun _ _ _ => .bind (hnotify _) fun _ _ _ => .pure rfl

/-- A promotion does not read what is still to be told, and not what was logged. -/
theorem promote_akin (r : Request) : (c.promote r).Agree State.Akin Eq (c.promote r) := by
  refine .bind (assess_akin c r) ?_
  rintro ⟨artifact, record⟩ _ rfl
  by_cases hdry : r.dryRun = true
  · simp only [hdry, if_true]
    exact .bind (.emit _ _) fun _ _ _ => .pure rfl
  · simp only [hdry]
    exact land_akin c artifact record

end Controller

end Promotion
