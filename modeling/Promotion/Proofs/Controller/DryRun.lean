import Promotion.Proofs.Controller.Landing
import Promotion.Proofs.Controller.Undo

/-!
# What a Dry Run Is Worth

A dry run writes nothing, and its answer tells what the promotion will come to.

The two have their assessment in common, so what the dry run says can only be
wrong where the collaborators answer it otherwise than they answer the
promotion. They may be asked at another time, so what they answer is compared
under some relation of the two worlds, as far as any check reads it. Then the
promotion fails where the dry run fails, and for the same reason. It is kept
back by a gate where the dry run has one that blocks. And where the dry run has
none, the only thing left that can fail is what a dry run leaves out: the looks
at the tags and the writes.

A dry run reports its gates instead of failing for them, so whatever fails it
is something else.

## Main definitions

* `settle`: What is left to do of a promotion that passed.
* `Foretells`: What a dry run's answer says of the promotion.

## Theorems

* `snapshot_agree_self`, `commit_agree_self`: Neither depends on what was logged.
* `land_eq_settle`: A promotion that passed answers as what is left of it.
* `foretells_of_alike`: A dry run foretells the promotion.
* `foretells_self`: So it does if both are made from one state.
* `dryRun_foretells`: It changes nothing, and foretells the promotion.
-/

namespace Promotion

namespace Controller

variable {σ τ ε α : Type}

-- With equality for both relations, to agree with itself is not to depend on the log.
theorem follows_eq : State.Follows (Eq : σ → σ → Prop) Eq where
  worlds h := congrArg State.world h
  step h hw := by rw [h, hw]

theorem tagAlike_self (k : Collaborators σ) : k.TagAlike Eq k where
  resolve _ _ := .of_eq (.of_eq fun _ => rfl) _
  createTag _ _ := .of_eq (.of_eq fun _ => rfl) _
  removeTag _ _ := .of_eq (.of_eq fun _ => rfl) _

theorem snapshot_agree_self (c : Controller σ) (record : Record) :
    (c.snapshot record).Agree Eq Eq (c.snapshot record) :=
  snapshot_agree follows_eq (tagAlike_self c.collaborators) rfl rfl

theorem commit_agree_self (c : Controller σ) (artifact : Artifact) (record : Record) :
    (c.commit artifact record).Agree Eq Eq (c.commit artifact record) :=
  commit_agree follows_eq (tagAlike_self c.collaborators) rfl rfl (.of_eq (.of_eq fun _ => rfl) _)
    artifact

variable (c : Controller σ)

/-- What is left to do of a promotion that passed. The tags are looked up and the writes are made,
    and if nothing of it fails the answer is the record. -/
def settle (artifact : Artifact) (record : Record) : Action (State σ) Error Record := do
  let _ ← c.snapshot record
  let _ ← c.commit artifact record
  return record

/-- A promotion that no gate keeps back answers as what is left of it. -/
theorem land_eq_settle {artifact : Artifact} {record : Record} (hfree : record.isBlocked = false)
    (t : Traced (State σ)) :
    ((c.land artifact record).outcome t).1 = ((c.settle artifact record).outcome t).1 := by
  unfold land settle
  rw [if_neg (Bool.eq_false_iff.mp hfree)]
  rcases outcome_reportOptional record.gateResults t with ⟨log, hreport⟩
  -- Reports come first, so both steps are made with another log than in what is left.
  have hsame : (⟨t.world, log⟩ : Traced (State σ)).world = t.world := rfl
  have hsnap := (snapshot_agree_self c record).outcome_eq hsame
  simp only [Action.outcome_bind, hreport]
  revert hsnap
  rcases (c.snapshot record).outcome ⟨t.world, log⟩ with ⟨e | before, t₁⟩ <;>
    rcases (c.snapshot record).outcome t with ⟨e' | before', t₁'⟩ <;>
    rintro ⟨⟨⟩, hw⟩
  · rfl
  have hcommit := (commit_agree_self c artifact record).outcome_eq hw
  simp only [Action.outcome_observe]
  revert hcommit
  rcases (c.commit artifact record).outcome t₁ with ⟨e | entry, t₂⟩ <;>
    rcases (c.commit artifact record).outcome t₁' with ⟨e' | entry', t₂'⟩ <;>
    rintro ⟨⟨⟩, -⟩
  -- A failure is the last word here too: putting back comes after it and cannot fail as a whole.
  · rcases outcome_restoreTags c record before
      ⟨t₂.world, t₂.log ++ [rolledBackEvent record e]⟩ with ⟨log', hback⟩
    simp only [Action.outcome_bind, Action.outcome_emit, hback]
    rfl
  · rfl

variable {c} in
/-- If nothing fails, what is left of a promotion answers with its record. -/
theorem settle_eq_ok {artifact : Artifact} {record answer : Record} {t : Traced (State σ)}
    (h : ((c.settle artifact record).outcome t).1 = .ok answer) : answer = record := by
  rcases hend : (c.settle artifact record).outcome t with ⟨_, t'⟩
  rw [hend] at h
  cases h
  rcases Action.bind_eq_ok.mp hend with ⟨_, _, -, hend⟩
  rcases Action.bind_eq_ok.mp hend with ⟨_, _, -, hend⟩
  cases hend
  rfl

/-- What the answer of a dry run says of the promotion, which is made from some state. -/
inductive Foretells (r : Request) (t : Traced (State σ)) : Except Error Record → Prop
  /-- The promotion fails for the same reason. -/
  | failure {e : Error} {t' : Traced (State σ)} :
      (c.promote r).outcome t = (.error e, t') → Foretells r t (.error e)
  /-- The promotion is kept back by its gates, with the same results but for their durations. -/
  | blocked {record : Record} {results : List Gate.Result} {t' : Traced (State σ)} :
      record.isBlocked = true →
      results.map Gate.Result.untimed = record.gateResults.map Gate.Result.untimed →
      (c.promote r).outcome t =
        (.error (.gatesFailed record.tag record.digest record.toEnv results), t') →
      Foretells r t (.ok record)
  /-- The promotion passes with the same record, but for what no check reads. What is left of it
      decides on its answer. -/
  | passed {record record' : Record} {artifact : Artifact} {t₁ : Traced (State σ)} :
      record.isBlocked = false → (c.assess r).outcome t = (.ok (artifact, record'), t₁) →
      record'.dryRun = false → record'.isBlocked = false → record'.bare = record.bare →
      ((c.promote r).outcome t).1 = ((c.settle artifact record').outcome t₁).1 →
      Foretells r t (.ok record)

variable {c}

/-- A dry run foretells the promotion that is made in a state like its own, by collaborators that
    answer alike. -/
theorem foretells_of_alike {R : σ → τ → Prop} {pipeline : Pipeline} {uri : String}
    {k : Collaborators σ} {k' : Collaborators τ} (h : k.Alike R k') (r : Request)
    {t : Traced (State σ)} {t' : Traced (State τ)} (hs : State.Alike R t.world t'.world) :
    Foretells ⟨pipeline, uri, k'⟩ { r with dryRun := false } t'
      ((promote ⟨pipeline, uri, k⟩ { r with dryRun := true }).outcome t).1 := by
  rcases assess_agree_of_alike pipeline uri h r true false t t' hs with ⟨hend, -⟩
  rcases hdry : (assess ⟨pipeline, uri, k⟩ { r with dryRun := true }).outcome t with
    ⟨e | ⟨artifact, record⟩, t₁⟩ <;>
    rcases hreal : (assess ⟨pipeline, uri, k'⟩ { r with dryRun := false }).outcome t' with
      ⟨e' | ⟨artifact', record'⟩, t₁'⟩ <;>
    rw [hdry, hreal] at hend
  -- Both assessments fail or neither does, and the two mixed cases are none.
  · cases hend
    simp only [promote, Action.outcome_bind, hdry]
    have hfails : (promote ⟨pipeline, uri, k'⟩ { r with dryRun := false }).outcome t' =
        (.error e, t₁') := by
      simp only [promote, Action.outcome_bind, hreal]
    exact .failure hfails
  · cases hend
  · cases hend
  rcases hend with _ | ⟨rfl, hbare⟩
  have hanswer : ((promote ⟨pipeline, uri, k⟩ { r with dryRun := true }).outcome t).1 =
      .ok record := by
    simp only [promote, Action.outcome_bind, hdry, if_true]
    rfl
  have hland : (promote ⟨pipeline, uri, k'⟩ { r with dryRun := false }).outcome t' =
      (land ⟨pipeline, uri, k'⟩ artifact record').outcome t₁' := by
    simp only [promote, Action.outcome_bind, hreal, Bool.false_eq_true, if_false]
  -- Whether gates block can be told from either record, and that decides how the promotion goes on.
  rcases eq_of_bare hbare with ⟨htag, hdigest, htarget, hgates⟩
  have hsame : record.isBlocked = record'.isBlocked := Gate.any_blocks_eq_of_untimed hgates
  rw [hanswer]
  by_cases hblocked : record.isBlocked = true
  · have hblocked' : record'.isBlocked = true := hsame.symm.trans hblocked
    rcases outcome_land_of_blocked ⟨pipeline, uri, k'⟩ artifact hblocked' t₁' with
      ⟨pending, log, hrefused⟩
    rw [← htag, ← hdigest, ← htarget] at hrefused
    exact .blocked hblocked hgates.symm (hland.trans hrefused)
  · have hfree : record.isBlocked = false := Bool.eq_false_iff.mpr hblocked
    rcases (assessed_of_outcome hreal).of_request with ⟨-, -, -, -, hmeant⟩
    refine .passed hfree hreal hmeant (hsame.symm.trans hfree) hbare.symm ?_
    rw [hland]
    exact land_eq_settle _ (hsame.symm.trans hfree) t₁'

/-- A dry run foretells the promotion from its own state, if no gate cares whether it is dry. -/
theorem foretells_self {c : Controller σ}
    (hgates : ∀ name artifact environment dryRun dryRun',
      c.collaborators.gates name ⟨artifact, environment, dryRun⟩ =
        c.collaborators.gates name ⟨artifact, environment, dryRun'⟩)
    (r : Request) (t : Traced (State σ)) :
    c.Foretells { r with dryRun := false } t
      ((c.promote { r with dryRun := true }).outcome t).1 :=
  foretells_of_alike (Collaborators.alike_self hgates) r ⟨rfl, rfl, fun _ _ => rfl⟩

/-- An assessment is never failed by a gate. -/
theorem assess_ne_gatesFailed {r : Request} {t t' : Traced (State σ)} {e : Error}
    (h : (c.assess r).outcome t = (.error e, t')) (tag : String) (digest : Digest)
    (environment : String) (results : List Gate.Result) :
    e ≠ .gatesFailed tag digest environment results := by
  rintro rfl
  rcases assess_eq_error h with ⟨refusal, h⟩ | h | ⟨artifact, target, t₁, h⟩ | ⟨target, w, w', h⟩
  · cases h
  · rcases resolve_eq_error h with h | ⟨reason, h⟩ <;> cases h
  · have hchecked := checked_checkSignature c artifact target t₁
    rw [h] at hchecked
    rcases hchecked.eq_refusal with ⟨-, reason, h⟩
    cases h
  · rcases authorize_eq_error h with ⟨denial, h⟩ | ⟨failure, h⟩ <;> cases h

/-- Nor is a write. -/
theorem Committed.ne_gatesFailed {artifact : Artifact} {record : Record} {w w' : σ} {e : Error}
    (h : c.Committed artifact record w (.error e, w')) (tag : String) (digest : Digest)
    (environment : String) (results : List Gate.Result) :
    e ≠ .gatesFailed tag digest environment results := by
  cases h with
  | uncopied _ => exact nofun
  | unpointed _ _ => exact nofun
  | unrecorded _ _ _ => exact nofun

/-- A dry run changes nothing and foretells the promotion. Whatever it answers, the tags, the number
    of their writes, the log and what webhooks are to be told are as they were, and the answer is
    never that gates failed. And from any state like its own, of a world in which collaborators
    answer alike, the promotion comes to what the dry run said. -/
theorem dryRun_foretells {ε : Type} (s : Surroundings ε) (pipeline : Pipeline)
    (registryUri : String) (r : Request) (t : Traced (State (World ε))) :
    let c := World.controller s pipeline registryUri
    let dry := (c.promote { r with dryRun := true }).outcome t
    State.Holds t.world.world.registry t.world.world.audit t.world.pending dry.2.world ∧
      (∀ tag digest environment results,
        dry.1 ≠ .error (.gatesFailed tag digest environment results)) ∧
      ∀ (R : World ε → World ε → Prop) (t' : Traced (State (World ε))),
        c.collaborators.Alike R c.collaborators → State.Alike R t.world t'.world →
          c.Foretells { r with dryRun := false } t' dry.1 := by
  intro c dry
  have hends := concluded_promote c { r with dryRun := true } t
  have hkept : State.Holds t.world.world.registry t.world.world.audit t.world.pending
        dry.2.world ∧
      ∀ tag digest environment results,
        dry.1 ≠ .error (.gatesFailed tag digest environment results) := by
    change c.Concluded _ t (dry.1, dry.2.world) at hends
    rcases hends.of_dryRun rfl with ⟨assessed, t₁, hassess, hanswer, hworld⟩
    rw [hanswer, hworld]
    refine ⟨assess_holds hassess, fun tag digest environment results h => ?_⟩
    cases assessed with
    | error e =>
        exact assess_ne_gatesFailed hassess tag digest environment results (Except.error.inj h)
    | ok found => cases h
  exact ⟨hkept.1, hkept.2, fun R t' halike hs => foretells_of_alike halike r hs⟩

end Controller

/-- Surroundings in which nothing is refused and every check passes, but time goes on: with every
    answer there is another time, another duration and another identifier. -/
def Surroundings.ticking : Surroundings Nat where
  registryRefuses _ n := (none, n + 1)
  auditRefuses _ n := (none, n + 1)
  gates name _ n := (⟨.ok (.passed name (.ofNat n)), 0, .ofNat n⟩, n + 1)
  verifier :=
    { build := fun n => (.ok (), n + 1)
      verify := fun _ _ _ n => (.ok (.valid "releases" none (moment n)), n + 1) }
  dispatch _ _ _ := pure .done
  clock n := (moment n, n + 1)
  freshId n := (⟨⟨.ofNat 128 n⟩⟩, n + 1)
where
  /-- The time some nanoseconds after the first instant. -/
  moment (n : Nat) : Timestamp := (Timestamp.ofFields? 1970 1 1 0 0 0 n).getD .epoch

namespace World

/-- A controller that has done nothing, some time after the first instant. -/
def startAt (n : Nat) : Traced (Controller.State (World Nat)) :=
  ⟨.fresh ⟨single.registry, single.audit, n⟩, []⟩

/-- Two worlds hold the same, at whatever times. -/
def HoldsSame (w w' : World Nat) : Prop :=
  w.registry = w'.registry ∧ w.audit = w'.audit

theorem HoldsSame.agrees {α β : Type} {V : α → β → Prop} {step : World Nat → α × World Nat}
    {step' : World Nat → β × World Nat}
    (h : ∀ registry audit n n',
      V (step ⟨registry, audit, n⟩).1 (step' ⟨registry, audit, n'⟩).1 ∧
        HoldsSame (step ⟨registry, audit, n⟩).2 (step' ⟨registry, audit, n'⟩).2) :
    Agrees HoldsSame V step step' := by
  rintro ⟨registry, audit, n⟩ ⟨_, _, n'⟩ ⟨rfl, rfl⟩
  exact h registry audit n n'

/-- Where only time goes on, worlds that hold the same answer alike. -/
theorem alike_ticking : (collaborators .ticking).Alike HoldsSame (collaborators .ticking) where
  resolve _ _ := HoldsSame.agrees fun _ _ _ _ => ⟨.of_eq (fun _ => rfl) _, rfl, rfl⟩
  fetch _ := HoldsSame.agrees fun _ _ _ _ => ⟨.of_eq (fun _ => rfl) _, rfl, rfl⟩
  gates _ _ _ _ _ := HoldsSame.agrees fun _ _ _ _ =>
    ⟨⟨.ok rfl, fun _ _ => Iff.rfl⟩, rfl, rfl⟩
  build := HoldsSame.agrees fun _ _ _ _ => ⟨.ok rfl, rfl, rfl⟩
  verify _ _ _ := HoldsSame.agrees fun _ _ _ _ => ⟨.ok rfl, rfl, rfl⟩
  query _ := HoldsSame.agrees fun _ _ _ _ =>
    ⟨SameEnd.of_eq (V := InvImage Eq (List.map Record.bare)) (fun _ => rfl) _, rfl, rfl⟩
  clock := HoldsSame.agrees fun _ _ _ _ => ⟨trivial, rfl, rfl⟩
  freshId := HoldsSame.agrees fun _ _ _ _ => ⟨trivial, rfl, rfl⟩

end World

namespace Controller

/-- A dry run and, from a state like its own but later, the promotion: both pass, with records that
    have other identifiers and durations, and differ in nothing that a check reads. -/
theorem dryRun_foretells_ticking :
    let c := World.controller .ticking
      (World.ladder ((Environment.named "prod").withGate (.mandatory "smoke"))) "registry"
    ∃ record record', ((c.promote (World.climb true)).outcome (World.startAt 0)).1 = .ok record ∧
      ((c.promote (World.climb false)).outcome (World.startAt 60)).1 = .ok record' ∧
      record'.id ≠ record.id ∧ record'.gateResults ≠ record.gateResults ∧
      record'.bare = record.bare := by
  intro c
  have hdry : (((c.promote (World.climb true)).outcome (World.startAt 0)).1.toOption.map
      fun r => (r.id, r.gateResults)) = some (⟨⟨5#128⟩⟩, [⟨"smoke", .passed, 1, none, true⟩]) := by
    decide +kernel
  have hreal : (((c.promote (World.climb false)).outcome (World.startAt 60)).1.toOption.map
      fun r => (r.id, r.gateResults)) = some (⟨⟨65#128⟩⟩, [⟨"smoke", .passed, 61, none, true⟩]) := by
    decide +kernel
  have halike : State.Alike World.HoldsSame (World.startAt 0).world (World.startAt 60).world :=
    ⟨⟨rfl, rfl⟩, rfl, fun _ _ => rfl⟩
  have hforetold : c.Foretells (World.climb false) (World.startAt 60)
      ((c.promote (World.climb true)).outcome (World.startAt 0)).1 :=
    (dryRun_foretells .ticking _ "registry" (World.climb true) (World.startAt 0)).2.2 _ _
      World.alike_ticking halike
  rcases hrecord : ((c.promote (World.climb true)).outcome (World.startAt 0)).1 with e | record
  · rw [hrecord] at hdry
    cases hdry
  rcases hrecord' : ((c.promote (World.climb false)).outcome (World.startAt 60)).1 with e | record'
  · rw [hrecord'] at hreal
    cases hreal
  rw [hrecord] at hdry hforetold
  rw [hrecord'] at hreal
  cases hforetold with
  | blocked _ _ hrefused =>
      rw [hrefused] at hrecord'
      cases hrecord'
  | @passed _ found artifact t₁ _ _ _ _ hbare hanswer =>
      rw [hrecord'] at hanswer
      rw [← settle_eq_ok hanswer.symm] at hbare
      simp only [Except.toOption, Option.map_some, Option.some.injEq, Prod.mk.injEq] at hdry hreal
      refine ⟨record, record', rfl, rfl, ?_, ?_, hbare⟩
      · rw [hreal.1, hdry.1]
        decide
      · rw [hreal.2, hdry.2]
        decide

end Controller

end Promotion
