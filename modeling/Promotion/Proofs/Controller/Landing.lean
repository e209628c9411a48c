import Promotion.Proofs.Controller.Agree
import Promotion.Proofs.Controller.Conclusion

/-!
# Promotions That Agree

Two promotions of one request, by controllers whose collaborators answer alike.

What comes before the writes is left to the assessments. After them two records
stand side by side that differ in nothing that is ever asked for: identifiers,
times and durations are told to nobody but the log and the webhooks. So the same
tags are looked up and written, and put back if a write fails.

One answer shows durations, since a gate that keeps a promotion back is named
with all results. Answers are therefore compared without durations, and a
promotion that is kept back is no case of the rules for actions, which ask for
equal failures.

The log may be in a relation that adding a record does not keep, such as one
that speaks of times. So the relation of the states after the writes is another
one, and all that is asked of it is that it holds where the first one does.

## Main definitions

* `Error.untimed`: A failure without durations.
* `SameAnswer`: Two answers that differ in identifiers, times and durations at most.
* `Collaborators.TagAlike`: Collaborators that answer alike about tags.

## Theorems

* `snapshot_agree`, `commit_agree`, `restoreTags_agree`: The steps of a promotion agree.
* `land_agree`: So do two promotions that no gate keeps back.
* `outcome_land_of_blocked`: What a promotion comes to that a gate keeps back.
* `land_answers`: Kept back or not, the two give the same answer.
* `promote_agree`: Two promotions agree.
-/

namespace Promotion

variable {σ τ ε α β : Type}

/-- A failure without the durations of gates. -/
def Error.untimed : Error → Error
  | gatesFailed tag digest environment results =>
    gatesFailed tag digest environment (results.map Gate.Result.untimed)
  | e => e

/-- The same failure but for durations, or records that differ in identifiers and times at most. -/
def SameAnswer (answer answer' : Except Error Record) : Prop :=
  SameEnd (InvImage Eq Record.timeless) (answer.mapError Error.untimed)
    (answer'.mapError Error.untimed)

theorem SameAnswer.of_sameEnd {answer answer' : Except Error Record}
    (h : SameEnd (InvImage Eq Record.timeless) answer answer') : SameAnswer answer answer' :=
  h.mapError _

/-- Collaborators of two worlds that answer alike where tags are looked up, made and removed. -/
structure Collaborators.TagAlike (R : σ → τ → Prop) (k : Collaborators σ)
    (k' : Collaborators τ) : Prop where
  resolve : ∀ uri tag, Agrees R (SameEnd Eq) (k.registry.resolve uri tag)
    (k'.registry.resolve uri tag)
  createTag : ∀ artifact tag, Agrees R (SameEnd Eq) (k.registry.createTag artifact tag)
    (k'.registry.createTag artifact tag)
  removeTag : ∀ uri tag, Agrees R (SameEnd Eq) (k.registry.removeTag uri tag)
    (k'.registry.removeTag uri tag)

namespace Controller

variable {R : σ → τ → Prop} {S : State σ → State τ → Prop} {pipeline : Pipeline} {uri : String}
  {k : Collaborators σ} {k' : Collaborators τ}

section

variable (hS : State.Follows R S) (h : k.TagAlike R k')

include hS h

theorem lookTag_agree (name : String) :
    (lookTag ⟨pipeline, uri, k⟩ name).Agree S Eq (lookTag ⟨pipeline, uri, k'⟩ name) := by
  refine .bind (.observe (ask_agree hS (h.resolve uri name))) fun answer answer' hend => ?_
  cases hend with
  | error e => cases e <;> first | exact .pure rfl | exact .throw _
  | ok hdigest => exact .pure (by rw [hdigest])

/-- The same tags are looked up for records with one tag and one target. -/
theorem snapshot_agree {record record' : Record} (htag : record.tag = record'.tag)
    (htarget : record.toEnv = record'.toEnv) :
    (snapshot ⟨pipeline, uri, k⟩ record).Agree S Eq (snapshot ⟨pipeline, uri, k'⟩ record') := by
  unfold snapshot
  rw [htag, htarget]
  refine .bind (lookTag_agree hS h _) ?_
  rintro copy _ rfl
  refine .bind (lookTag_agree hS h _) ?_
  rintro latest _ rfl
  exact .pure rfl

/-- And the same tags are written, with whatever the log makes of the records. -/
theorem commit_agree {record record' : Record} (htag : record.tag = record'.tag)
    (htarget : record.toEnv = record'.toEnv) {W : Audit.Entry → Audit.Entry → Prop}
    (happend : Agrees R (SameEnd W) (k.audit.append record) (k'.audit.append record'))
    (artifact : Artifact) :
    (commit ⟨pipeline, uri, k⟩ artifact record).Agree S W
      (commit ⟨pipeline, uri, k'⟩ artifact record') := by
  unfold commit
  rw [htag, htarget]
  exact .bind (.mapError (ask_agree hS (h.createTag _ _))) fun _ _ _ =>
    .bind (.mapError (ask_agree hS (h.createTag _ _))) fun _ _ _ =>
      .mapError (ask_agree hS happend)

/-- What was looked up is put back. The records are only named in what is logged. -/
theorem restoreTags_agree (record record' : Record) (before : List (String × Option Digest)) :
    (restoreTags ⟨pipeline, uri, k⟩ record before).Agree S Eq
      (restoreTags ⟨pipeline, uri, k'⟩ record' before) := by
  induction before with
  | nil => exact .pure rfl
  | cons tag rest ih =>
      rcases tag with ⟨name, previous⟩
      refine .bind (V := Eq) (.bind (.observe (V := Eq) (ask_agree hS ?_))
        fun answer answer' hend => ?_) fun _ _ _ => ih
      · cases previous with
        | some digest => exact h.createTag _ name
        | none => exact h.removeTag uri name
      · cases hend with
        | error e => exact .emit _ _
        | ok _ => exact .pure rfl

end

theorem reportOptional_agree (results results' : List Gate.Result) :
    (reportOptional results : Action (State σ) Error Unit).Agree S Eq
      (reportOptional results' : Action (State τ) Error Unit) := by
  intro t t' hs
  rcases outcome_reportOptional results t with ⟨log, hr⟩
  rcases outcome_reportOptional results' t' with ⟨log', hr'⟩
  rw [hr, hr']
  exact ⟨.ok rfl, hs⟩

/-- A promotion that a gate keeps back is refused with all results, and only what is still to be
    told changes. -/
theorem outcome_land_of_blocked (c : Controller σ) (artifact : Artifact) {record : Record}
    (h : record.isBlocked = true) (t : Traced (State σ)) :
    ∃ pending log, (c.land artifact record).outcome t =
      (.error (.gatesFailed record.tag record.digest record.toEnv record.gateResults),
        ⟨{ t.world with pending }, log⟩) := by
  unfold land
  rw [if_pos h]
  exact ⟨_, _, rfl⟩

-- These four are what a refusal by gates tells of a record.
theorem eq_of_bare {record record' : Record} (h : record.bare = record'.bare) :
    record.tag = record'.tag ∧ record.digest = record'.digest ∧ record.toEnv = record'.toEnv ∧
      record.gateResults.map Gate.Result.untimed = record'.gateResults.map Gate.Result.untimed := by
  simp only [Record.bare, Record.mk.injEq] at h
  rcases h with ⟨-, htag, hdigest, -, htarget, -, -, hgates, -⟩
  exact ⟨htag, hdigest, htarget, hgates⟩

/-- Whatever is still to be told makes no difference to a relation of states. -/
def State.IgnoresPending (S : State σ → State τ → Prop) : Prop :=
  ∀ {s s'} pending pending', S s s' → S { s with pending } { s' with pending := pending' }

section

variable (hS : State.Follows R S) (hpending : State.IgnoresPending S) (h : k.TagAlike R k')
  {record record' : Record} (halike : record.timeless = record'.timeless)

include hpending in
theorem notify_agree (event : Webhook.Event) (record record' : Record) :
    (notify ⟨pipeline, uri, k⟩ event record).Agree S Eq
      (notify ⟨pipeline, uri, k'⟩ event record') :=
  .ofWorld fun _ _ hs => ⟨rfl, hpending _ _ hs⟩

include hS hpending h halike

/-- Two promotions agree that no gate keeps back, if the log takes the two records alike. -/
theorem land_agree (hfree : record.isBlocked = false) {W : Audit.Entry → Audit.Entry → Prop}
    (happend : Agrees R (SameEnd W) (k.audit.append record) (k'.audit.append record'))
    (artifact : Artifact) :
    (land ⟨pipeline, uri, k⟩ artifact record).Agree S (InvImage Eq Record.timeless)
      (land ⟨pipeline, uri, k'⟩ artifact record') := by
  rcases eq_of_bare (Record.bare_eq halike) with ⟨htag, -, htarget, hgates⟩
  have hfree' : record'.isBlocked = false := (Gate.any_blocks_eq_of_untimed hgates).symm.trans hfree
  unfold land
  rw [if_neg (Bool.eq_false_iff.mp hfree), if_neg (Bool.eq_false_iff.mp hfree')]
  refine .bind (reportOptional_agree _ _) fun _ _ _ => ?_
  refine .bind (snapshot_agree hS h htag htarget) ?_
  rintro before _ rfl
  refine .bind (.observe (commit_agree hS h htag htarget happend artifact)) ?_
  intro written written' hend
  cases hend with
  | error cause =>
      exact .bind (.emit _ _) fun _ _ _ =>
        .bind (restoreTags_agree hS h record record' before) fun _ _ _ => .throw _
  | ok _ =>
      exact .bind (.emit _ _) fun _ _ _ =>
        .bind (notify_agree hpending _ record record') fun _ _ _ => .pure halike

/-- Whether or not a gate keeps them back, two promotions give the same answer but for times. -/
theorem land_answers {W : Audit.Entry → Audit.Entry → Prop}
    (happend : Agrees R (SameEnd W) (k.audit.append record) (k'.audit.append record'))
    (artifact : Artifact) {t : Traced (State σ)} {t' : Traced (State τ)} (hs : S t.world t'.world) :
    SameAnswer ((land ⟨pipeline, uri, k⟩ artifact record).outcome t).1
        ((land ⟨pipeline, uri, k'⟩ artifact record').outcome t').1 ∧
      S ((land ⟨pipeline, uri, k⟩ artifact record).outcome t).2.world
        ((land ⟨pipeline, uri, k'⟩ artifact record').outcome t').2.world := by
  cases hblocked : record.isBlocked with
  | false =>
      rcases land_agree hS hpending h halike hblocked happend artifact t t' hs with ⟨hend, hs⟩
      exact ⟨.of_sameEnd hend, hs⟩
  | true =>
      rcases eq_of_bare (Record.bare_eq halike) with ⟨htag, hdigest, htarget, hgates⟩
      have hblocked' : record'.isBlocked = true :=
        (Gate.any_blocks_eq_of_untimed hgates).symm.trans hblocked
      rcases outcome_land_of_blocked ⟨pipeline, uri, k⟩ artifact hblocked t with
        ⟨pending, log, hland⟩
      rcases outcome_land_of_blocked ⟨pipeline, uri, k'⟩ artifact hblocked' t' with
        ⟨pending', log', hland'⟩
      rw [hland, hland']
      refine ⟨?_, hpending _ _ hs⟩
      simp only [SameAnswer, mapError_error, Error.untimed, htag, hdigest, htarget, hgates]
      exact .error _

end

/-- Two promotions of one request give the same answer but for times, if their looks at the
    signature agree and whatever else they ask for is answered alike. The states are related by one
    relation up to the writes, and by another one from there on. -/
theorem promote_agree {R' : σ → τ → Prop} {S' : State σ → State τ → Prop}
    (hS : State.Follows R S) (hS' : State.Follows R' S') (hsub : ∀ {s s'}, S s s' → S' s s')
    (hpending : State.IgnoresPending S') {r : Request}
    (hask : k.AskAlike (pipeline.asksNewest r.target) r.dryRun r.dryRun R k')
    (hcheck : ∀ artifact target,
      (checkSignature ⟨pipeline, uri, k⟩ artifact target).Agree S
        (InvImage Eq Signature.Verdict.undated)
        (checkSignature ⟨pipeline, uri, k'⟩ artifact target))
    (htags : k.TagAlike R' k') {W : Audit.Entry → Audit.Entry → Prop}
    (happend : ∀ {record record' : Record}, record.timeless = record'.timeless →
      record.dryRun = false →
      Agrees R' (SameEnd W) (k.audit.append record) (k'.audit.append record'))
    {t : Traced (State σ)} {t' : Traced (State τ)} (hs : S t.world t'.world) :
    SameAnswer ((promote ⟨pipeline, uri, k⟩ r).outcome t).1
        ((promote ⟨pipeline, uri, k'⟩ r).outcome t').1 ∧
      S' ((promote ⟨pipeline, uri, k⟩ r).outcome t).2.world
        ((promote ⟨pipeline, uri, k'⟩ r).outcome t').2.world := by
  rcases assess_agree hS hask r id hcheck t t' hs with ⟨hend, hs₁⟩
  rcases hassess : (assess ⟨pipeline, uri, k⟩ r).outcome t with ⟨e | ⟨artifact, record⟩, t₁⟩ <;>
    rcases hassess' : (assess ⟨pipeline, uri, k'⟩ r).outcome t' with
      ⟨e' | ⟨artifact', record'⟩, t₁'⟩ <;>
    rw [hassess, hassess'] at hend hs₁
  · cases hend
    simp only [promote, Action.outcome_bind, hassess, hassess']
    exact ⟨.of_sameEnd (.error _), hsub hs₁⟩
  · cases hend
  · cases hend
  rcases hend with _ | ⟨rfl, hbare⟩
  rcases (assessed_of_outcome hassess).of_request with ⟨-, -, -, -, hmeant⟩
  rcases (assessed_of_outcome hassess').of_request with ⟨-, -, -, -, hmeant'⟩
  have halike := Record.timeless_eq hbare (hmeant.trans hmeant'.symm)
  simp only [promote, Action.outcome_bind, hassess, hassess']
  by_cases hdry : r.dryRun = true
  · rw [if_pos hdry, if_pos hdry]
    exact ⟨.of_sameEnd (.ok halike), hsub hs₁⟩
  · rw [if_neg hdry, if_neg hdry]
    have hreal : record.dryRun = false := hmeant.trans (Bool.eq_false_iff.mpr hdry)
    exact land_answers hS' hpending htags halike (happend halike hreal) artifact (hsub hs₁)

end Controller

end Promotion
