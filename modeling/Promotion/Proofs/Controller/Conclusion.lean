import Promotion.Proofs.Controller.Assessment

/-!
# How a Promotion Ends

Every way a promotion can end, with the state it leaves.

After the assessment a dry run is over, and so is a promotion that a gate
blocks. Any other looks where two tags point, writes, and either told its
webhooks or has put the tags back. `Concluded` has one case for each, and
`concluded_promote` says there is no other. Whatever is proved of all promotions
is proved by going through these cases.

Putting tags back is a list of requests of which each may fail; the ones after
it are made all the same. `putBack` is the list of those that failed, with the
world after all of them.

## Main definitions

* `restoreCall`: The request that puts one tag back.
* `putBack`: The tags that could not be put back, and the world afterwards.
* `Concluded`: How a promotion ends.

## Theorems

* `outcome_restoreTags`: Putting back never fails as a whole.
* `resolve_eq_ok`: A tag that resolves is an artifact of the registry.
* `Assessed.of_request`: A record is about what was asked for.
* `lookTag_eq_ok`: What was found where a tag was looked up.
* `snapshot_eq_ok`: A snapshot lists the two tags of a promotion.
* `committed_commit`: The three writes end in one of their ways.
* `land_preserves`: What comes after an assessment preserves what its requests do.
* `promote_preserves`: So does a promotion, with what its looks preserve.
* `Concluded.of_dryRun`: A dry run is over with its assessment.
* `concluded_promote`: A promotion ends in one of its ways.
-/

namespace Promotion

namespace Controller

variable {σ : Type} (c : Controller σ)

/-- The request that puts a tag back to where it pointed. -/
def restoreCall (name : String) (previous : Option Digest) : Call σ Registry.Error Unit :=
  match previous with
  | some digest => c.collaborators.registry.createTag ⟨c.registryUri, name, digest⟩ name
  | none => c.collaborators.registry.removeTag c.registryUri name

/-- The tags that could not be put back, and the world after all requests were made. -/
def putBack : List (String × Option Digest) → σ → List String × σ
  | [], w => ([], w)
  | (name, previous) :: rest, w =>
    match c.restoreCall name previous w with
    | (.ok (), w) => putBack rest w
    | (.error _, w) => (name :: (putBack rest w).1, (putBack rest w).2)

variable {c}

variable (c) in
/-- Putting back one tag makes its request and ends well, whatever the answer is. -/
theorem outcome_restoreTag (record : Record) (name : String) (previous : Option Digest)
    (t : Traced (State σ)) :
    ∃ log, (c.restoreTag record name previous).outcome t =
      (.ok (), ⟨{ t.world with world := (c.restoreCall name previous t.world.world).2 }, log⟩) := by
  unfold restoreTag restoreCall
  simp only [Action.outcome_bind, Action.outcome_observe, outcome_ask]
  cases previous with
  | some digest =>
      simp only
      rcases c.collaborators.registry.createTag ⟨c.registryUri, name, digest⟩ name t.world.world
        with ⟨_ | _, w⟩ <;> exact ⟨_, rfl⟩
  | none =>
      simp only
      rcases c.collaborators.registry.removeTag c.registryUri name t.world.world
        with ⟨_ | _, w⟩ <;> exact ⟨_, rfl⟩

variable (c) in
/-- Putting back never fails as a whole. -/
theorem outcome_restoreTags (record : Record) (before : List (String × Option Digest))
    (t : Traced (State σ)) :
    ∃ log, (c.restoreTags record before).outcome t =
      (.ok (), ⟨{ t.world with world := (c.putBack before t.world.world).2 }, log⟩) := by
  induction before generalizing t with
  | nil => exact ⟨t.log, rfl⟩
  | cons tag rest ih =>
      rcases tag with ⟨name, previous⟩
      rcases outcome_restoreTag c record name previous t with ⟨log, hone⟩
      simp only [restoreTags, Action.outcome_bind, hone]
      unfold putBack
      rcases hc : c.restoreCall name previous t.world.world with ⟨_ | _, w⟩
      · exact ih _
      · exact ih _

/-- A tag that resolves is an artifact of the controller's registry. -/
theorem resolve_eq_ok {tag : String} {t t' : Traced (State σ)} {artifact : Artifact}
    (h : (c.resolve tag).outcome t = (.ok artifact, t')) :
    ∃ digest w, c.collaborators.registry.resolve c.registryUri tag t.world.world = (.ok digest, w) ∧
      artifact = ⟨c.registryUri, tag, digest⟩ ∧
      t' = ⟨{ t.world with world := w }, t.log⟩ := by
  unfold resolve at h
  simp only [Action.outcome_bind, Action.outcome_observe, outcome_ask] at h
  rcases hr : c.collaborators.registry.resolve c.registryUri tag t.world.world with
    ⟨(_ | _ | _) | digest, w⟩
  all_goals
    rw [hr] at h
    cases h
  exact ⟨digest, w, rfl, rfl, rfl⟩

/-- What an assessment says of the request, and of the artifact it is about. -/
theorem Assessed.of_request {r : Request} {t t' : Traced (State σ)} {artifact : Artifact}
    {record : Record} (h : c.Assessed r t artifact record t') :
    artifact.registry = c.registryUri ∧ record.digest = artifact.digest ∧ record.tag = r.tag ∧
      record.toEnv = r.target ∧ record.dryRun = r.dryRun := by
  cases h with
  | passed _ _ hresolve =>
      rcases resolve_eq_ok hresolve with ⟨digest, _, -, rfl, -⟩
      exact ⟨rfl, rfl, rfl, rfl, rfl⟩

/-- What was found where a tag was looked up: a digest, or that there is no such tag. -/
theorem lookTag_eq_ok {name : String} {t t' : Traced (State σ)} {found : String × Option Digest}
    (h : (c.lookTag name).outcome t = (.ok found, t')) :
    ∃ answer w, c.collaborators.registry.resolve c.registryUri name t.world.world = (answer, w) ∧
      t' = ⟨{ t.world with world := w }, t.log⟩ ∧
      ((∃ digest, answer = .ok digest ∧ found = (name, some digest)) ∨
        ∃ tag registry, answer = .error (.notFound tag registry) ∧ found = (name, none)) := by
  unfold lookTag at h
  simp only [Action.outcome_bind, Action.outcome_observe, outcome_ask] at h
  rcases hr : c.collaborators.registry.resolve c.registryUri name t.world.world with
    ⟨(⟨tag, registry⟩ | _ | _) | digest, w⟩
  all_goals
    rw [hr] at h
    cases h
  · exact ⟨_, w, rfl, rfl, .inr ⟨tag, registry, rfl, rfl⟩⟩
  · exact ⟨_, w, rfl, rfl, .inl ⟨digest, rfl, rfl⟩⟩

/-- A snapshot lists the two tags of a promotion, looked up one after the other. -/
theorem snapshot_eq_ok {record : Record} {t t' : Traced (State σ)}
    {before : List (String × Option Digest)}
    (h : (c.snapshot record).outcome t = (.ok before, t')) :
    ∃ copy latest t₁, before = [copy, latest] ∧
      (c.lookTag (environmentTag record.toEnv record.tag)).outcome t = (.ok copy, t₁) ∧
      (c.lookTag (latestTag record.toEnv)).outcome t₁ = (.ok latest, t') := by
  unfold snapshot at h
  rcases Action.bind_eq_ok.mp h with ⟨copy, t₁, hcopy, hrest⟩
  rcases Action.bind_eq_ok.mp hrest with ⟨latest, t₂, hlatest, hend⟩
  cases hend
  exact ⟨copy, latest, t₁, rfl, hcopy, hlatest⟩

/-- A snapshot fails as its registry does. -/
theorem snapshot_eq_error {record : Record} {t t' : Traced (State σ)} {e : Error}
    (h : (c.snapshot record).outcome t = (.error e, t')) : ∃ reason, e = .registry reason := by
  have hlook : ∀ {name : String} {t t' : Traced (State σ)},
      (c.lookTag name).outcome t = (.error e, t') → ∃ reason, e = .registry reason := by
    intro name t t' h
    unfold lookTag at h
    simp only [Action.outcome_bind, Action.outcome_observe, outcome_ask] at h
    rcases hr : c.collaborators.registry.resolve c.registryUri name t.world.world with
      ⟨(⟨tag, registry⟩ | _ | _) | digest, w⟩
    all_goals
      rw [hr] at h
      cases h
    · exact ⟨_, rfl⟩
    · exact ⟨_, rfl⟩
  unfold snapshot at h
  rcases Action.bind_eq_error h with hcopy | ⟨copy, t₁, -, h⟩
  · exact hlook hcopy
  rcases Action.bind_eq_error h with hlatest | ⟨latest, t₂, -, h⟩
  · exact hlook hlatest
  · cases h

/-- How the three writes of a promotion end, with the world after them. -/
inductive Committed (c : Controller σ) (artifact : Artifact) (record : Record) (w : σ) :
    Except Error Audit.Entry × σ → Prop
  /-- The environment's copy of the tag was not written. -/
  | uncopied {e : Registry.Error} {w₁ : σ} :
      c.collaborators.registry.createTag artifact (environmentTag record.toEnv record.tag) w =
        (.error e, w₁) →
      Committed c artifact record w (.error (registryError e), w₁)
  /-- The pointer to the latest artifact was not written. -/
  | unpointed {e : Registry.Error} {w₁ w₂ : σ} :
      c.collaborators.registry.createTag artifact (environmentTag record.toEnv record.tag) w =
        (.ok (), w₁) →
      c.collaborators.registry.updateLatest artifact record.toEnv w₁ = (.error e, w₂) →
      Committed c artifact record w (.error (registryError e), w₂)
  /-- The record was not added. -/
  | unrecorded {e : Audit.Error} {w₁ w₂ w₃ : σ} :
      c.collaborators.registry.createTag artifact (environmentTag record.toEnv record.tag) w =
        (.ok (), w₁) →
      c.collaborators.registry.updateLatest artifact record.toEnv w₁ = (.ok (), w₂) →
      c.collaborators.audit.append record w₂ = (.error e, w₃) →
      Committed c artifact record w (.error (.audit e), w₃)
  /-- All was written. -/
  | recorded {entry : Audit.Entry} {w₁ w₂ w₃ : σ} :
      c.collaborators.registry.createTag artifact (environmentTag record.toEnv record.tag) w =
        (.ok (), w₁) →
      c.collaborators.registry.updateLatest artifact record.toEnv w₁ = (.ok (), w₂) →
      c.collaborators.audit.append record w₂ = (.ok entry, w₃) →
      Committed c artifact record w (.ok entry, w₃)

variable (c) in
/-- The writes of a promotion end in one of their ways, and only the world changes. -/
theorem committed_commit (artifact : Artifact) (record : Record) (t : Traced (State σ)) :
    ∃ answer w, (c.commit artifact record).outcome t =
        (answer, ⟨{ t.world with world := w }, t.log⟩) ∧
      c.Committed artifact record t.world.world (answer, w) := by
  unfold commit
  simp only [Action.outcome_bind, Action.outcome_mapError, outcome_ask]
  rcases hcopy : c.collaborators.registry.createTag artifact
    (environmentTag record.toEnv record.tag) t.world.world with ⟨e | _, w₁⟩
  · exact ⟨_, w₁, rfl, .uncopied hcopy⟩
  rcases hlatest : c.collaborators.registry.updateLatest artifact record.toEnv w₁ with ⟨e | _, w₂⟩
  · simp only [mapError_ok, mapError_error, hlatest]
    exact ⟨_, w₂, rfl, .unpointed hcopy hlatest⟩
  rcases happend : c.collaborators.audit.append record w₂ with ⟨e | entry, w₃⟩
  · simp only [mapError_ok, mapError_error, hlatest, happend]
    exact ⟨_, w₃, rfl, .unrecorded hcopy hlatest happend⟩
  · simp only [mapError_ok, hlatest, happend]
    exact ⟨_, w₃, rfl, .recorded hcopy hlatest happend⟩

/-- How a promotion ends, with the state after it. -/
inductive Concluded (c : Controller σ) (r : Request) (t : Traced (State σ)) :
    Except Error Record × State σ → Prop
  /-- A check was not passed. -/
  | refused {e : Error} {t₁ : Traced (State σ)} :
      (c.assess r).outcome t = (.error e, t₁) → Concluded c r t (.error e, t₁.world)
  /-- It was a dry run. -/
  | rehearsed {artifact : Artifact} {record : Record} {t₁ : Traced (State σ)} :
      (c.assess r).outcome t = (.ok (artifact, record), t₁) → r.dryRun = true →
      Concluded c r t (.ok record, t₁.world)
  /-- A required gate failed. -/
  | blocked {artifact : Artifact} {record : Record} {t₁ : Traced (State σ)} :
      (c.assess r).outcome t = (.ok (artifact, record), t₁) → r.dryRun = false →
      record.isBlocked = true →
      Concluded c r t
        (.error (.gatesFailed record.tag record.digest record.toEnv record.gateResults),
          { t₁.world with
            pending :=
              Webhook.detach c.pipeline.webhooks .gateFailed record t₁.world.pending })
  /-- A tag could not be looked up. -/
  | unseen {artifact : Artifact} {record : Record} {e : Error} {t₁ t₂ : Traced (State σ)}
      {log : List Log.Event} :
      (c.assess r).outcome t = (.ok (artifact, record), t₁) → r.dryRun = false →
      record.isBlocked = false →
      (c.snapshot record).outcome ⟨t₁.world, log⟩ = (.error e, t₂) →
      Concluded c r t (.error e, t₂.world)
  /-- A write failed, and the tags were put back. -/
  | undone {artifact : Artifact} {record : Record} {before : List (String × Option Digest)}
      {e : Error} {t₁ t₂ : Traced (State σ)} {log : List Log.Event} {w : σ} :
      (c.assess r).outcome t = (.ok (artifact, record), t₁) → r.dryRun = false →
      record.isBlocked = false →
      (c.snapshot record).outcome ⟨t₁.world, log⟩ = (.ok before, t₂) →
      c.Committed artifact record t₂.world.world (.error e, w) →
      Concluded c r t (.error e, { t₂.world with world := (c.putBack before w).2 })
  /-- The promotion took place. -/
  | landed {artifact : Artifact} {record : Record} {before : List (String × Option Digest)}
      {entry : Audit.Entry} {t₁ t₂ : Traced (State σ)} {log : List Log.Event} {w : σ} :
      (c.assess r).outcome t = (.ok (artifact, record), t₁) → r.dryRun = false →
      record.isBlocked = false →
      (c.snapshot record).outcome ⟨t₁.world, log⟩ = (.ok before, t₂) →
      c.Committed artifact record t₂.world.world (.ok entry, w) →
      Concluded c r t
        (.ok record,
          { t₂.world with
            world := w
            pending := Webhook.detach c.pipeline.webhooks .promote record t₂.world.pending })

/-- Reporting gates changes nothing but the log. -/
theorem outcome_reportOptional (results : List Gate.Result) (t : Traced (State σ)) :
    ∃ log, (reportOptional results : Action (State σ) Error Unit).outcome t =
      (.ok (), ⟨t.world, log⟩) := by
  induction results generalizing t with
  | nil => exact ⟨t.log, rfl⟩
  | cons result rest ih =>
      unfold reportOptional
      split
      · exact ih _
      · exact ih t

/-- A promotion that was assessed and is meant ends in one of its ways. -/
theorem concluded_land {r : Request} {t t₁ : Traced (State σ)} {artifact : Artifact}
    {record : Record} (hassess : (c.assess r).outcome t = (.ok (artifact, record), t₁))
    (hreal : r.dryRun = false) :
    c.Concluded r t (((c.land artifact record).outcome t₁).1,
      ((c.land artifact record).outcome t₁).2.world) := by
  unfold land
  by_cases hblocked : record.isBlocked = true
  · rw [if_pos hblocked]
    have h : c.Concluded r t _ := .blocked hassess hreal hblocked
    exact h
  rw [if_neg hblocked]
  have hfree : record.isBlocked = false := Bool.eq_false_iff.mpr hblocked
  -- Reports come first, so the snapshot is taken with a longer log in the same world.
  rcases outcome_reportOptional record.gateResults t₁ with ⟨log, hreport⟩
  simp only [Action.outcome_bind, hreport]
  rcases hsnap : (c.snapshot record).outcome ⟨t₁.world, log⟩ with ⟨e | before, t₂⟩
  · exact .unseen hassess hreal hfree hsnap
  rcases committed_commit c artifact record t₂ with ⟨answer, w, hcommit, hends⟩
  simp only [Action.outcome_observe, hcommit]
  cases answer with
  | error e =>
      have h : c.Concluded r t _ := .undone hassess hreal hfree hsnap hends
      -- Putting back cannot end the promotion earlier, so its own error is the last word.
      rcases outcome_restoreTags c record before
        ⟨{ t₂.world with world := w }, t₂.log ++ [rolledBackEvent record e]⟩ with ⟨log', hback⟩
      simp only [Action.outcome_bind, Action.outcome_emit, hback]
      exact h
  | ok entry =>
      have h : c.Concluded r t _ := .landed hassess hreal hfree hsnap hends
      exact h

/-- What comes after an assessment preserves what its requests do. -/
theorem land_preserves {P : State σ → Prop} (h : Asks c P)
    (hcreate : ∀ artifact tag, Keeps P (c.collaborators.registry.createTag artifact tag))
    (hremove : ∀ tag, Keeps P (c.collaborators.registry.removeTag c.registryUri tag))
    (hpending : ∀ s pending, P s → P { s with pending }) {record : Record}
    (happend : Keeps P (c.collaborators.audit.append record)) (artifact : Artifact) :
    (c.land artifact record).Preserves P := by
  -- Putting back and the writes are requests of the same kind, so one hypothesis serves both.
  have hrestores : ∀ before, (c.restoreTags record before).Preserves P := by
    intro before
    induction before with
    | nil => exact .pure _
    | cons tag rest ih =>
        refine .bind (.bind (.observe (ask_preserves ?_)) fun answer => ?_) fun _ => ih
        · rcases tag with ⟨name, _ | digest⟩
          · exact hremove name
          · exact hcreate _ name
        · rcases answer with e | _
          · exact .emit _
          · exact .pure _
  have hnotify : ∀ event, (c.notify event record).Preserves P := fun event =>
    .ofWorld fun s hs => hpending s _ hs
  have hreports : ∀ results,
      (reportOptional results : Action (State σ) Error Unit).Preserves P := by
    intro results t ht
    rcases outcome_reportOptional results t with ⟨log, hlog⟩
    rw [hlog]
    exact ht
  unfold land
  split
  · exact .bind (.emit _) fun _ => .bind (hnotify _) fun _ => .throw _
  refine .bind (hreports _) fun _ => .bind (h.snapshot record) fun before => ?_
  refine .bind (.observe (.bind (.mapError (ask_preserves (hcreate _ _))) fun _ =>
    .bind (.mapError (ask_preserves (hcreate _ _))) fun _ =>
      .mapError (ask_preserves happend))) fun answer => ?_
  rcases answer with cause | entry
  · exact .bind (.emit _) fun _ => .bind (hrestores before) fun _ => .throw _
  · exact .bind (.emit _) fun _ => .bind (hnotify _) fun _ => .pure _

/-- A promotion preserves what its requests and its writes do. -/
theorem promote_preserves {P : State σ → Prop} (h : Looks c P)
    (hcreate : ∀ artifact tag, Keeps P (c.collaborators.registry.createTag artifact tag))
    (hremove : ∀ tag, Keeps P (c.collaborators.registry.removeTag c.registryUri tag))
    (hpending : ∀ s pending, P s → P { s with pending })
    (happend : ∀ record, Keeps P (c.collaborators.audit.append record)) (r : Request) :
    (c.promote r).Preserves P := by
  refine .bind (assess_preserves h.toAsks h.toSees.checkSignature r) fun found => ?_
  rcases found with ⟨artifact, record⟩
  simp only
  split
  · exact .bind (.emit _) fun _ => .pure _
  · exact land_preserves h.toAsks hcreate hremove hpending (happend _) artifact

/-- A promotion that lands answers with the record it was assessed with. -/
theorem land_eq_ok {artifact : Artifact} {record answer : Record} {t t' : Traced (State σ)}
    (h : (c.land artifact record).outcome t = (.ok answer, t')) : answer = record := by
  unfold land at h
  split at h
  · rcases Action.bind_eq_ok.mp h with ⟨_, _, -, h⟩
    rcases Action.bind_eq_ok.mp h with ⟨_, _, -, h⟩
    cases h
  rcases Action.bind_eq_ok.mp h with ⟨_, _, -, h⟩
  rcases Action.bind_eq_ok.mp h with ⟨before, _, -, h⟩
  -- If the writes failed, what follows ends with an error after two more steps.
  rcases Action.bind_eq_ok.mp h with ⟨cause | entry, _, -, h⟩
  all_goals
    rcases Action.bind_eq_ok.mp h with ⟨_, _, -, h⟩
    rcases Action.bind_eq_ok.mp h with ⟨_, _, -, h⟩
    cases h
  rfl

/-- A dry run is over with its assessment: it answers with the record, or as the check that was not
    passed, and there is no other way for it to end. -/
theorem Concluded.of_dryRun {r : Request} {t : Traced (State σ)} {answer : Except Error Record}
    {after : State σ} (h : c.Concluded r t (answer, after)) (hdry : r.dryRun = true) :
    ∃ assessed t₁, (c.assess r).outcome t = (assessed, t₁) ∧ answer = assessed.map Prod.snd ∧
      after = t₁.world := by
  cases h with
  | refused hassess => exact ⟨_, _, hassess, rfl, rfl⟩
  | rehearsed hassess _ => exact ⟨_, _, hassess, rfl, rfl⟩
  | blocked _ hreal _ => cases hdry.symm.trans hreal
  | unseen _ hreal _ _ => cases hdry.symm.trans hreal
  | undone _ hreal _ _ _ => cases hdry.symm.trans hreal
  | landed _ hreal _ _ _ => cases hdry.symm.trans hreal

variable (c) in
/-- A promotion ends in one of its ways. -/
theorem concluded_promote (r : Request) (t : Traced (State σ)) :
    c.Concluded r t (((c.promote r).outcome t).1, ((c.promote r).outcome t).2.world) := by
  rcases hassess : (c.assess r).outcome t with ⟨e | ⟨artifact, record⟩, t₁⟩
  · simp only [promote, Action.outcome_bind, hassess]
    exact .refused hassess
  simp only [promote, Action.outcome_bind, hassess]
  by_cases hdry : r.dryRun = true
  · rw [if_pos hdry]
    have h : c.Concluded r t (.ok record, t₁.world) := .rehearsed hassess hdry
    exact h
  · rw [if_neg hdry]
    exact concluded_land hassess (Bool.eq_false_iff.mpr hdry)

end Controller

end Promotion
