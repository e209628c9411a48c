import Promotion.Controller
import Promotion.Proofs.Action

/-!
# Looking at a Signature, Case by Case

Everything that can happen when a controller looks at an artifact's signature.

A verdict has three sources: nobody looks, it was found before, or the verifier
is called now. The call itself can end at three places, since a verifier has to
be built and a content fetched before there is anything to verify. `Called` and
`Checked` are these cases with the state after each, so that what holds of every
look is shown by going through them and never by opening the code again.

Only the state is followed here, not the log: nothing that is logged is ever
read by a controller.

## Main definitions

* `Ready`: The world once the verifier is built.
* `Called`: How a call of the verifier ends.
* `Checked`: How a look at a signature ends.

## Theorems

* `called_callVerifier`: A call of the verifier ends in one of its ways.
* `checked_checkSignature`: A look at a signature ends in one of its ways.
* `Checked.isValid`: Where signatures are enforced, only a valid one passes.
* `Checked.eq_refusal`: A look fails only to refuse the artifact.
-/

namespace Promotion

namespace Signature

/-- What a verdict is once it passed: itself, and valid. -/
theorem Verdict.require_eq_ok {v w : Verdict} (h : v.require = .ok w) :
    w = v ∧ v.isValid = true := by
  unfold Verdict.require at h
  unfold Verdict.isValid
  cases hs : v.status <;> simp_all

theorem Verdict.require_of_isValid {v : Verdict} (h : v.isValid = true) : v.require = .ok v := by
  unfold isValid at h
  unfold require
  rw [of_decide_eq_true h]

/-- An answer that passes is a valid verdict of the verifier. -/
theorem bind_require_eq_ok {answer : Except Failure Verdict} {v : Verdict}
    (h : answer.bind Verdict.require = .ok v) : answer = .ok v ∧ v.isValid = true := by
  cases answer with
  | error failure => cases h
  | ok w =>
      rcases Verdict.require_eq_ok h with ⟨rfl, hv⟩
      exact ⟨rfl, hv⟩

end Signature

namespace Controller

open Signature

variable {σ ε α : Type}

@[simp] theorem outcome_ask (call : Call σ ε α) (t : Traced (State σ)) :
    (ask call).outcome t =
      ((call t.world.world).1, ⟨{ t.world with world := (call t.world.world).2 }, t.log⟩) := rfl

@[simp] theorem outcome_tell (step : σ → α × σ) (t : Traced (State σ)) :
    (tell step : Action (State σ) ε α).outcome t =
      (.ok (step t.world.world).1, ⟨{ t.world with world := (step t.world.world).2 }, t.log⟩) := rfl

@[simp] theorem outcome_keepCache (cache : Cache) (t : Traced (State σ)) :
    (keepCache cache : Action (State σ) ε Unit).outcome t =
      (.ok (), ⟨{ t.world with cache }, t.log⟩) := rfl

variable (c : Controller σ)

/-- The world in which a verifier is there: it was built before, or it is built now. -/
inductive Ready (s : State σ) : σ → Prop
  | before : s.verifierBuilt = true → Ready s s.world
  | now {w : σ} : s.verifierBuilt = false →
      c.collaborators.verifier.build s.world = (.ok (), w) → Ready s w

/-- How a call of the verifier ends, with the state after it. -/
inductive Called (artifact : Artifact) (policy : Policy) (s : State σ) :
    Except Failure Verdict × State σ → Prop
  /-- There is no verifier. -/
  | unbuilt {failure : Failure} {w : σ} : s.verifierBuilt = false →
      c.collaborators.verifier.build s.world = (.error failure, w) →
      Called artifact policy s (.error failure, { s with world := w })
  /-- There is no content. -/
  | unfetched {w w₁ : σ} {e : Registry.Error} : c.Ready s w →
      c.collaborators.registry.fetch artifact w = (.error e, w₁) →
      Called artifact policy s
        (.error (.content e.message), { s with world := w₁, verifierBuilt := true })
  /-- The verifier answers. -/
  | answered {w w₁ w₂ : σ} {content : List UInt8} {answer : Except Failure Verdict} :
      c.Ready s w → c.collaborators.registry.fetch artifact w = (.ok content, w₁) →
      c.collaborators.verifier.verify artifact content policy w₁ = (answer, w₂) →
      Called artifact policy s (answer, { s with world := w₂, verifierBuilt := true })

variable {c}

/-- Once the verifier is there, a call fetches the content and has it verified. -/
theorem called_of_ready {artifact : Artifact} {policy : Policy} {s : State σ} {w : σ}
    (h : c.Ready s w) :
    c.Called artifact policy s
      (match c.collaborators.registry.fetch artifact w with
        | (.error e, w) => (.error (.content e.message), { s with verifierBuilt := true, world := w })
        | (.ok content, w) =>
          let (answer, w) := c.collaborators.verifier.verify artifact content policy w
          (answer, { s with verifierBuilt := true, world := w })) := by
  rcases hf : c.collaborators.registry.fetch artifact w with ⟨e | content, w₁⟩
  · exact .unfetched h hf
  · exact .answered h hf rfl

variable (c) in
/-- A call of the verifier ends in one of its ways. -/
theorem called_callVerifier (artifact : Artifact) (policy : Policy) (s : State σ) :
    c.Called artifact policy s (c.callVerifier artifact policy s) := by
  unfold callVerifier Signature.demand
  by_cases hbuilt : s.verifierBuilt = true
  · rw [if_pos hbuilt]
    exact called_of_ready (.before hbuilt)
  · rw [if_neg hbuilt]
    have hnot : s.verifierBuilt = false := Bool.eq_false_iff.mpr hbuilt
    rcases hb : c.collaborators.verifier.build s.world with ⟨failure | _, w⟩
    -- A verifier that could not be built is asked for again by the next call.
    · have h : c.Called artifact policy s _ := .unbuilt hnot hb
      rw [hnot] at h
      exact h
    · exact called_of_ready (.now hnot hb)

/-- How a look at a signature ends, with the state after it. -/
inductive Checked (c : Controller σ) (artifact : Artifact) (target : Environment) (s : State σ) :
    Except Error Verdict × State σ → Prop
  /-- Nobody looks. -/
  | skipped {now : Timestamp} {w : σ} : target.signature.enforcement = .off →
      c.collaborators.clock s.world = (now, w) →
      Checked c artifact target s (.ok (.unsigned disabledReason now), { s with world := w })
  /-- The verdict is remembered. -/
  | remembered {v : Verdict} : target.signature.enforcement ≠ .off →
      s.cache.get? artifact.digest target.signature.policy = some v →
      (target.signature.enforcement = .enforce → v.isValid = true) →
      Checked c artifact target s (.ok v, s)
  /-- A verdict is remembered, but it does not pass where it is enforced. -/
  | recalled {v : Verdict} : target.signature.enforcement = .enforce →
      s.cache.get? artifact.digest target.signature.policy = some v → v.isValid = false →
      Checked c artifact target s
        (.error (refusal artifact (v.reason.getD "signature not valid")), s)
  /-- The verifier finds the signature valid. -/
  | verified {s₁ : State σ} {v : Verdict} : target.signature.enforcement ≠ .off →
      s.cache.get? artifact.digest target.signature.policy = none →
      c.callVerifier artifact target.signature.policy s = (.ok v, s₁) → v.isValid = true →
      Checked c artifact target s
        (.ok v, { s₁ with cache := s.cache.insert (artifact.digest, target.signature.policy) v })
  /-- There is a failure, and it is put down as a verdict. -/
  | tolerated {s₁ : State σ} {answer : Except Failure Verdict} {failure : Failure}
      {now : Timestamp} {w : σ} : target.signature.enforcement = .warn →
      s.cache.get? artifact.digest target.signature.policy = none →
      c.callVerifier artifact target.signature.policy s = (answer, s₁) →
      answer.bind Verdict.require = .error failure →
      c.collaborators.clock s₁.world = (now, w) →
      Checked c artifact target s
        (.ok (.invalid failure.message now),
          { s₁ with
            world := w
            cache := s.cache.insert (artifact.digest, target.signature.policy)
              (.invalid failure.message now) })
  /-- There is a failure, and it refuses the artifact. -/
  | rejected {s₁ : State σ} {answer : Except Failure Verdict} {failure : Failure} :
      target.signature.enforcement = .enforce →
      s.cache.get? artifact.digest target.signature.policy = none →
      c.callVerifier artifact target.signature.policy s = (answer, s₁) →
      answer.bind Verdict.require = .error failure →
      Checked c artifact target s (.error (refusal artifact failure.message), s₁)

/-- Where somebody looks, the verifier's answer is judged. -/
theorem outcome_apply {enforcement : Enforcement} (hoff : enforcement ≠ .off)
    (artifact : Artifact) (call : Call (State σ) Failure Verdict) (t : Traced (State σ)) :
    (Signature.apply c.clock enforcement artifact call).outcome t =
      (judge c.clock enforcement artifact (call t.world).1).outcome
        ⟨(call t.world).2, t.log⟩ := by
  cases enforcement with
  | off => exact absurd rfl hoff
  | warn => rfl
  | enforce => rfl

/-- What the last check of a look lets through. -/
theorem outcome_lastCheck (target : Environment) (artifact : Artifact) (v : Verdict)
    (t : Traced (State σ)) :
    Action.outcome (do
      if target.signature.enforcement = .enforce ∧ ¬ v.isValid then
        throw (refusal artifact (v.reason.getD "signature not valid"))
      return v) t =
      if target.signature.enforcement = .enforce ∧ ¬ v.isValid then
        (.error (refusal artifact (v.reason.getD "signature not valid")), t)
      else (.ok v, t) := by
  split <;> rfl

/-- A look that has to call the verifier ends in one of its ways. -/
theorem checked_of_not_remembered {artifact : Artifact} {target : Environment}
    {t : Traced (State σ)} (hoff : target.signature.enforcement ≠ .off)
    (hget : t.world.cache.get? artifact.digest target.signature.policy = none) :
    c.Checked artifact target t.world
      (((c.checkSignature artifact target).outcome t).1,
        ((c.checkSignature artifact target).outcome t).2.world) := by
  -- The call is named first, so that unfolding stops there.
  rcases hcall : c.callVerifier artifact target.signature.policy t.world with ⟨answer, s₁⟩
  unfold checkSignature Cache.getOrTry
  simp only [hoff, if_neg, not_false_eq_true, Action.outcome_bind, Action.outcome_ofWorld,
    Action.outcome_pure, outcome_keepCache, hget, outcome_apply hoff, hcall, outcome_lastCheck,
    judge]
  cases hanswer : answer.bind Verdict.require with
  | ok v =>
      -- A verdict that passes is valid, so the last check lets it through as well.
      rcases bind_require_eq_ok hanswer with ⟨rfl, hv⟩
      have h := Checked.verified hoff hget hcall hv
      simpa only [Action.outcome_pure, hv, not_true_eq_false, and_false, if_false] using h
  | error failure =>
      cases henf : target.signature.enforcement with
      | off => exact absurd henf hoff
      | enforce => exact .rejected henf hget hcall hanswer
      | warn =>
          have h := Checked.tolerated henf hget hcall hanswer rfl
          simp only [Action.outcome_lift, reduceCtorEq, false_and, if_false]
          exact h

variable (c) in
/-- A look at a signature ends in one of its ways. -/
theorem checked_checkSignature (artifact : Artifact) (target : Environment)
    (t : Traced (State σ)) :
    c.Checked artifact target t.world
      (((c.checkSignature artifact target).outcome t).1,
        ((c.checkSignature artifact target).outcome t).2.world) := by
  by_cases hoff : target.signature.enforcement = .off
  · unfold checkSignature
    simp only [hoff, if_pos]
    exact .skipped hoff rfl
  cases hget : t.world.cache.get? artifact.digest target.signature.policy with
  | none => exact checked_of_not_remembered hoff hget
  | some v =>
      unfold checkSignature Cache.getOrTry
      simp only [hoff, if_neg, not_false_eq_true, Action.outcome_bind, Action.outcome_ofWorld,
        Action.outcome_pure, outcome_keepCache, hget, outcome_lastCheck]
      -- What is remembered may have been let pass elsewhere; it is judged again here.
      by_cases hrefused : target.signature.enforcement = .enforce ∧ ¬ v.isValid = true
      · rw [if_pos hrefused]
        exact .recalled hrefused.1 hget (Bool.eq_false_iff.mpr hrefused.2)
      · rw [if_neg hrefused]
        exact .remembered hoff hget fun he => Decidable.byContradiction fun hv => hrefused ⟨he, hv⟩

variable {artifact : Artifact} {target : Environment} {s s' : State σ}

/-- A look that does not refuse an artifact where signatures are enforced finds a valid one. -/
theorem Checked.isValid {v : Verdict} (h : c.Checked artifact target s (.ok v, s'))
    (henforce : target.signature.enforcement = .enforce) : v.isValid = true := by
  cases h with
  | skipped hoff _ => cases henforce.symm.trans hoff
  | remembered _ _ hvalid => exact hvalid henforce
  | verified _ _ _ hvalid => exact hvalid
  | tolerated hwarn _ _ _ _ => cases henforce.symm.trans hwarn

/-- A look fails only where signatures are enforced, and only to refuse the artifact. -/
theorem Checked.eq_refusal {e : Error} (h : c.Checked artifact target s (.error e, s')) :
    target.signature.enforcement = .enforce ∧ ∃ reason, e = refusal artifact reason := by
  cases h with
  | recalled henforce _ _ => exact ⟨henforce, _, rfl⟩
  | rejected henforce _ _ _ => exact ⟨henforce, _, rfl⟩

end Controller

end Promotion
