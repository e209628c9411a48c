import Promotion.Proofs.Controller.Watch

/-!
# Asked Once

How often a signature is asked for.

A controller remembers a verdict by digest and policy, and the verifier itself
once it is built. Both are there to be asked for once, but they are filled in
different ways. A verdict is kept whether it is good or bad, unless it refused
the artifact; a verifier is kept as soon as there is one, whatever comes of the
attempt it was built for.

`Looked` has every way to change either, so what one promotion does to a key is
read off its cases. A run follows by induction. That a look for one key has
nothing to do with another takes more, since it says what would have happened
with another verdict under that key. It is a view of states again, now one that
only puts another cache in the place of theirs.

## Main definitions

* `Cache.SameBut`: Caches that differ at one key at most.
* `State.recalling`: A state with other verdicts remembered.
* `AskedOnce`: What is asked for under one key, from a state on.
* `Note.build?`: The answer when a verifier was to be built.

## Theorems

* `Looked.get?_of_some`: A verdict that is remembered stays as it is.
* `promote_unread`: A look for one key does not read another.
* `notesAll_builds`: A verifier is built once, after failures.
* `after_askedOnce`: Every key is asked for once, and a verifier is built once.
-/

namespace Promotion

open Signature

variable {σ : Type}

/-- The caches have the same verdicts under all keys but one. -/
def Signature.Cache.SameBut (key : Digest × Policy) (cache cache' : Cache) : Prop :=
  ∀ other, other ≠ key → cache.find? other = cache'.find? other

theorem Signature.Cache.SameBut.insert {key own : Digest × Policy} {cache cache' : Cache}
    (h : Cache.SameBut key cache cache') (v : Signature.Verdict) :
    Cache.SameBut key (cache.insert own v) (cache'.insert own v) := by
  intro other hother
  rw [Table.find?_insert, Table.find?_insert, h other hother]

/-- The answer of a verifier's build, if a note is of that. -/
def Note.build? : Note → Option (Except Failure Unit)
  | .built answer => some answer
  | _ => none

namespace Controller

/-- The state with other verdicts remembered. -/
def State.recalling (cache : Cache) (s : State σ) : State σ := { s with cache }

@[simp] theorem State.recalling_cache (cache : Cache) (s : State σ) :
    (s.recalling cache).cache = cache := rfl

theorem State.sight_recalling (cache : Cache) : State.Sight (σ := σ) id (State.recalling cache) where
  world _ := rfl
  pending _ := rfl
  step _ _ := rfl
  detach _ _ := rfl
  built _ := rfl
  build _ _ := rfl

variable {c : Controller σ}

/-! ### One key -/

section Key

variable {verifierBuilt builtNow : Bool} {cache cacheNow : Cache} {artifact : Artifact}
  {rule : Rule} {asked : List Note} {found : Except Error Signature.Verdict}

/-- A verdict that is remembered stays as it is. -/
theorem Looked.get?_of_some (h : Looked verifierBuilt cache artifact rule asked found builtNow
    cacheNow) {digest : Digest} {policy : Policy} {v : Signature.Verdict}
    (hget : cache.get? digest policy = some v) : cacheNow.get? digest policy = some v := by
  -- A look adds a verdict only where there is none.
  have hinsert : ∀ new, cache.get? artifact.digest rule.policy = none →
      Cache.get? (cache.insert (artifact.digest, rule.policy) new) digest policy = some v := by
    intro new hnone
    rw [Cache.get?_insert_of_ne _ _ ?_, hget]
    intro hsame
    cases hsame
    cases hnone.symm.trans hget
  cases h with
  | skipped _ _ => exact hget
  | remembered _ _ => exact hget
  | verified _ hnone _ _ => exact hinsert _ hnone
  | tolerated _ _ hnone _ _ => exact hinsert _ hnone
  | rejected _ _ _ _ => exact hget

/-- A verdict that is not looked up stays as it is, and none is added in its place. -/
theorem Looked.get?_other (h : Looked verifierBuilt cache artifact rule asked found builtNow
    cacheNow) {digest : Digest} {policy : Policy}
    (hother : rule.enforcement = .off ∨ (artifact.digest, rule.policy) ≠ (digest, policy)) :
    cacheNow.get? digest policy = cache.get? digest policy := by
  have hinsert : ∀ new, rule.enforcement ≠ .off →
      Cache.get? (cache.insert (artifact.digest, rule.policy) new) digest policy =
        cache.get? digest policy := by
    intro new hoff
    exact Cache.get?_insert_of_ne _ _ (hother.resolve_left hoff)
  cases h with
  | skipped _ _ => rfl
  | remembered _ _ => rfl
  | verified hoff _ _ _ => exact hinsert _ hoff
  | tolerated _ hwarn _ _ _ => exact hinsert _ (by rw [hwarn]; exact nofun)
  | rejected _ _ _ _ => rfl

/-- Without a verdict a look is one attempt. What it came to is remembered, unless it refuses the
    artifact. -/
theorem Looked.attempt (h : Looked verifierBuilt cache artifact rule asked found builtNow cacheNow)
    (hoff : rule.enforcement ≠ .off) (hnone : cache.get? artifact.digest rule.policy = none) :
    ∃ answer, Attempt verifierBuilt artifact rule.policy asked answer builtNow ∧
      ((∃ v, found = .ok v ∧ cacheNow.get? artifact.digest rule.policy = some v) ∨
        rule.enforcement = .enforce ∧ cacheNow = cache ∧
          ∃ failure, answer.bind Verdict.require = .error failure ∧
            found = .error (refusal artifact failure.message)) := by
  have hinserted := Cache.get?_insert_self cache artifact.digest rule.policy
  cases h with
  | skipped _ hskipped => exact absurd hskipped hoff
  | remembered _ hsome =>
      rw [hnone] at hsome
      cases hsome
  | verified _ _ hattempt _ => exact ⟨_, hattempt, .inl ⟨_, rfl, hinserted _⟩⟩
  | tolerated _ _ _ hattempt _ => exact ⟨_, hattempt, .inl ⟨_, rfl, hinserted _⟩⟩
  | rejected henforce _ hattempt hfailure =>
      exact ⟨_, hattempt, .inr ⟨henforce, rfl, _, hfailure, rfl⟩⟩

/-- With a verdict a look asks for nothing, and comes to what that verdict comes to. -/
theorem Looked.recalled {v : Signature.Verdict}
    (h : Looked verifierBuilt cache artifact rule asked found builtNow cacheNow)
    (hoff : rule.enforcement ≠ .off) (hsome : cache.get? artifact.digest rule.policy = some v) :
    asked = [] ∧ found = recollect rule.enforcement artifact v := by
  cases h with
  | skipped _ hskipped => exact absurd hskipped hoff
  | remembered _ hget =>
      rw [hsome] at hget
      cases hget
      exact ⟨rfl, rfl⟩
  | verified _ hnone _ _ =>
      rw [hsome] at hnone
      cases hnone
  | tolerated _ _ hnone _ _ =>
      rw [hsome] at hnone
      cases hnone
  | rejected _ hnone _ _ =>
      rw [hsome] at hnone
      cases hnone

/-- A look that refuses the artifact adds no verdict. -/
theorem Looked.cache_of_error {e : Error}
    (h : Looked verifierBuilt cache artifact rule asked (.error e) builtNow cacheNow) :
    cacheNow = cache := by
  generalize hfound : (Except.error e : Except Error Signature.Verdict) = found at h
  cases h with
  | skipped _ _ => cases hfound
  | remembered _ _ => rfl
  | verified _ _ _ _ => cases hfound
  | tolerated _ _ _ _ _ => cases hfound
  | rejected _ _ _ _ => rfl

end Key

/-- A promotion leaves a verdict that is remembered as it is. -/
theorem promote_get?_of_some {digest : Digest} {policy : Policy} {v : Signature.Verdict}
    {t : Traced (State σ)} (r : Request) (h : t.world.cache.get? digest policy = some v) :
    ((c.promote r).outcome t).2.world.cache.get? digest policy = some v := by
  cases hlook : c.look? r t with
  | none =>
      rcases notes_of_no_look hlook with ⟨-, -, hcache⟩
      rw [hcache]
      exact h
  | some l =>
      rcases looked_promote hlook with ⟨_, hlooked, -, -⟩
      exact hlooked.get?_of_some h

theorem runAll_get?_of_some {digest : Digest} {policy : Policy} {v : Signature.Verdict}
    {t : Traced (State σ)} (rs : List Request) (h : t.world.cache.get? digest policy = some v) :
    (c.runAll rs t).2.world.cache.get? digest policy = some v := by
  induction rs generalizing t with
  | nil => exact h
  | cons r rest ih => exact ih (promote_get?_of_some r h)

/-- A promotion that refuses an artifact for its signature adds no verdict. -/
theorem promote_cache_of_refusal {r : Request} {t : Traced (State σ)} {artifact reason : String}
    (h : ((c.promote r).outcome t).1 = .error (.signatureRejected artifact reason)) :
    ((c.promote r).outcome t).2.world.cache = t.world.cache := by
  cases hlook : c.look? r t with
  | none => exact absurd h (unrefused_of_no_look hlook artifact reason)
  | some l =>
      rcases looked_promote hlook with ⟨found, hlooked, hheeds, -⟩
      cases found with
      | error e => exact hlooked.cache_of_error
      | ok v => exact absurd h (hheeds.1 artifact reason)

/-! ### The verifier -/

/-- What was asked for to have a verifier: nothing if there was one before, and else a request for
    every failure, and one more if there is a verifier now. -/
def BuiltOnce (before : Bool) (builds : List (Except Failure Unit)) (now : Bool) : Prop :=
  ∃ failures : List Failure,
    builds = failures.map .error ++ (if before = now then [] else [.ok ()]) ∧
      (before = true → failures = [] ∧ now = true)

theorem BuiltOnce.refl (before : Bool) : BuiltOnce before [] before := by
  refine ⟨[], ?_, fun h => ⟨rfl, h⟩⟩
  rw [if_pos rfl]
  rfl

theorem BuiltOnce.trans {before now later : Bool} {builds more : List (Except Failure Unit)}
    (h : BuiltOnce before builds now) (h' : BuiltOnce now more later) :
    BuiltOnce before (builds ++ more) later := by
  rcases h with ⟨failures, hbuilds, hbefore⟩
  rcases h' with ⟨failures', hmore, hnow⟩
  by_cases hthere : now = true
  -- Once there is a verifier nothing more is asked for.
  · rcases hnow hthere with ⟨rfl, hlater⟩
    have hnothing : more = [] := by
      rw [hmore, hthere, hlater]
      rfl
    rw [hnothing, List.append_nil, hlater, ← hthere]
    exact ⟨failures, hbuilds, hbefore⟩
  · have hnot : before = false := by
      cases before with
      | false => rfl
      | true => exact absurd (hbefore rfl).2 hthere
    have hnow' : now = false := Bool.eq_false_iff.mpr hthere
    subst hnot hnow'
    refine ⟨failures ++ failures', ?_, nofun⟩
    rw [hbuilds, hmore, if_pos rfl, List.append_nil, List.map_append, List.append_assoc]

theorem Attempt.builds {verifierBuilt builtNow : Bool} {artifact : Artifact} {policy : Policy}
    {asked : List Note} {answer : Except Failure Signature.Verdict}
    (h : Attempt verifierBuilt artifact policy asked answer builtNow) :
    BuiltOnce verifierBuilt (asked.filterMap Note.build?) builtNow := by
  have hobtained : BuiltOnce verifierBuilt ((obtained verifierBuilt).filterMap Note.build?) true := by
    cases verifierBuilt with
    | true => exact .refl true
    | false => exact ⟨[], rfl, nofun⟩
  cases h with
  | unbuilt hnot =>
      subst hnot
      exact ⟨[_], rfl, nofun⟩
  | unfetched _ =>
      rw [List.filterMap_append]
      exact hobtained.trans (.refl true)
  | answered _ _ =>
      rw [List.filterMap_append]
      exact hobtained.trans (.refl true)

theorem Looked.builds {verifierBuilt builtNow : Bool} {cache cacheNow : Cache}
    {artifact : Artifact} {rule : Rule} {asked : List Note}
    {found : Except Error Signature.Verdict}
    (h : Looked verifierBuilt cache artifact rule asked found builtNow cacheNow) :
    BuiltOnce verifierBuilt (asked.filterMap Note.build?) builtNow := by
  cases h with
  | skipped _ _ => exact .refl _
  | remembered _ _ => exact .refl _
  | verified _ _ hattempt _ => exact hattempt.builds
  | tolerated _ _ _ hattempt _ => exact hattempt.builds
  | rejected _ _ hattempt _ => exact hattempt.builds

/-- A promotion builds no verifier if there is one, and else one at most. -/
theorem promote_builds (c : Controller σ) (r : Request) (t : Traced (State σ)) :
    BuiltOnce t.world.verifierBuilt ((c.notes r t).filterMap Note.build?)
      ((c.promote r).outcome t).2.world.verifierBuilt := by
  cases hlook : c.look? r t with
  | none =>
      rcases notes_of_no_look hlook with ⟨hnotes, hbuilt, -⟩
      rw [hnotes, hbuilt]
      exact .refl _
  | some l =>
      rcases looked_promote hlook with ⟨found, hlooked, -, -⟩
      -- To build is to inquire, so nothing is lost where only inquiries are counted.
      have hsame : (c.inquiries r t).filterMap Note.build? =
          (c.notes r t).filterMap Note.build? := by
        unfold inquiries
        rw [List.filterMap_filter]
        congr 1
        funext note
        cases note <;> rfl
      rw [← hsame]
      exact hlooked.builds

theorem notesAll_builds (c : Controller σ) (rs : List Request) (t : Traced (State σ)) :
    BuiltOnce t.world.verifierBuilt ((c.notesAll rs t).filterMap Note.build?)
      (c.runAll rs t).2.world.verifierBuilt := by
  induction rs generalizing t with
  | nil => exact .refl _
  | cons r rest ih =>
      simp only [notesAll, List.filterMap_append]
      exact (promote_builds c r t).trans (ih _)

/-! ### Other keys -/

/-- What does the same whatever verdicts are remembered does not change them. -/
theorem cache_of_mirrors {ε α : Type} {a : Action (State σ) ε α}
    (h : ∀ cache, a.Mirrors (State.recalling cache) a) (t : Traced (State σ)) :
    (a.outcome t).2.world.cache = t.world.cache := by
  -- To remember what is remembered anyway is no change.
  have hsame := h t.world.cache t
  have hworld : (a.outcome t).2 = (a.outcome t).2.map (State.recalling t.world.cache) :=
    (Prod.ext_iff.mp hsame).2
  rw [hworld]
  rfl

/-- A look without a verdict asks for one and remembers it. -/
theorem outcome_checkSignature_asked {artifact : Artifact} {target : Environment}
    {t : Traced (State σ)} (hoff : target.signature.enforcement ≠ .off)
    (hnone : t.world.cache.get? artifact.digest target.signature.policy = none) :
    (c.checkSignature artifact target).outcome t =
      match (Signature.apply c.clock target.signature.enforcement artifact
        (c.callVerifier artifact target.signature.policy)).outcome t with
      | (.error e, t₁) => (.error e, t₁)
      | (.ok v, t₁) => (recollect target.signature.enforcement artifact v,
          t₁.map (State.recalling
            (t.world.cache.insert (artifact.digest, target.signature.policy) v))) := by
  unfold checkSignature Cache.getOrTry recollect
  simp only [hoff, if_false, Action.outcome_bind, Action.outcome_ofWorld, hnone]
  rcases (Signature.apply c.clock target.signature.enforcement artifact
    (c.callVerifier artifact target.signature.policy)).outcome t with ⟨e | v, t₁⟩
  · rfl
  · simp only [Action.outcome_pure, outcome_keepCache, outcome_lastCheck]
    split
    · rfl
    · rfl

/-- A look does the same whatever is remembered under a key that it does not look up, and leaves
    that as it is. -/
theorem checkSignature_unread (c : Controller σ) {key : Digest × Policy} {artifact : Artifact}
    {target : Environment} {t : Traced (State σ)} {cache' : Cache}
    (h : Cache.SameBut key t.world.cache cache')
    (hother : target.signature.enforcement = .off ∨
      (artifact.digest, target.signature.policy) ≠ key) :
    ∃ cache'', (c.checkSignature artifact target).outcome (t.map (State.recalling cache')) =
        (((c.checkSignature artifact target).outcome t).1,
          ((c.checkSignature artifact target).outcome t).2.map (State.recalling cache'')) ∧
      Cache.SameBut key ((c.checkSignature artifact target).outcome t).2.world.cache cache'' ∧
      cache''.find? key = cache'.find? key := by
  have hself := c.collaborators.mirrors_self
  by_cases hoff : target.signature.enforcement = .off
  -- Nobody looks, so no verdict is read at all.
  · have hskip : (Signature.skip c.clock artifact).Mirrors (State.recalling cache')
        (Signature.skip c.clock artifact) :=
      skip_mirrors (State.sight_recalling cache').toView hself artifact
    unfold checkSignature
    simp only [hoff, if_true, Action.outcome_lift, hskip t]
    exact ⟨cache', rfl, h, rfl⟩
  have hkey := hother.resolve_left hoff
  have hget : cache'.get? artifact.digest target.signature.policy =
      t.world.cache.get? artifact.digest target.signature.policy := (h _ hkey).symm
  cases hfound : t.world.cache.get? artifact.digest target.signature.policy with
  | some v =>
      -- Both have the verdict that is looked up, and neither changes.
      rw [hfound] at hget
      unfold checkSignature Cache.getOrTry
      simp only [hoff, if_false, Action.outcome_bind, Action.outcome_ofWorld, Action.outcome_pure,
        outcome_keepCache, Traced.map_world, State.recalling_cache, hget, hfound, outcome_lastCheck]
      split
      · exact ⟨cache', rfl, h, rfl⟩
      · exact ⟨cache', rfl, h, rfl⟩
  | none =>
      -- Neither has it. The attempt does not read verdicts, so both get the same one.
      rw [hfound] at hget
      have hmirrors : ∀ cache, (Signature.apply c.clock target.signature.enforcement artifact
          (c.callVerifier artifact target.signature.policy)).Mirrors (State.recalling cache)
          (Signature.apply c.clock target.signature.enforcement artifact
            (c.callVerifier artifact target.signature.policy)) := fun cache =>
        apply_mirrors hself (State.sight_recalling cache) _ artifact _
      have hcache := cache_of_mirrors hmirrors t
      have happly := hmirrors cache' t
      rw [outcome_checkSignature_asked hoff hget, outcome_checkSignature_asked hoff hfound, happly]
      rcases happly : (Signature.apply c.clock target.signature.enforcement artifact
        (c.callVerifier artifact target.signature.policy)).outcome t with ⟨e | v, t₁⟩
      · rw [happly] at hcache
        rw [← hcache] at h
        exact ⟨cache', rfl, h, rfl⟩
      · refine ⟨_, rfl, h.insert v, ?_⟩
        exact (Table.find?_insert _ _ _ _).trans (if_neg hkey.symm)

/-- A promotion whose look is for another key does the same whatever is remembered under this one,
    and leaves that as it is. -/
theorem promote_unread {key : Digest × Policy} {r : Request} {t : Traced (State σ)} {l : Look σ}
    {cache' : Cache} (hlook : c.look? r t = some l) (hother : l.enforcement = .off ∨ l.key ≠ key)
    (h : Cache.SameBut key t.world.cache cache') :
    ∃ cache'', (c.promote r).outcome (t.map (State.recalling cache')) =
        (((c.promote r).outcome t).1,
          ((c.promote r).outcome t).2.map (State.recalling cache'')) ∧
      Cache.SameBut key ((c.promote r).outcome t).2.world.cache cache'' ∧
      cache''.find? key = cache'.find? key := by
  have hself := c.collaborators.mirrors_self
  have hview := (State.sight_recalling (σ := σ) cache').toView
  have hlook' : c.look? r (t.map (State.recalling cache')) =
      some (l.map (State.recalling cache')) := by
    have hmap : c.look? r (t.map (State.recalling cache')) =
        (c.look? r t).map (Look.map (State.recalling cache')) := look?_map hview hself r t
    rw [hmap, hlook]
    rfl
  -- What comes before the look leaves the verdicts alone.
  have hstart : l.start.world.cache = t.world.cache := by
    have hasks : c.Asks fun s => s.cache = t.world.cache :=
      ⟨fun _ _ h => h, fun _ _ _ h => h, fun _ _ h => h, fun _ h => h, fun _ h => h⟩
    exact look?_preserves hasks rfl hlook
  rw [← hstart] at h
  rcases checkSignature_unread c h hother with ⟨cache'', hcheck, hsame, hkey⟩
  rw [outcome_promote hlook, outcome_promote hlook']
  revert hsame
  simp only [Action.outcome_bind, Look.map_artifact, Look.map_target, Look.map_start, hcheck]
  rcases (c.checkSignature l.artifact l.target).outcome l.start with ⟨e | v, t₁⟩
  · intro hsame
    exact ⟨cache'', rfl, hsame, hkey⟩
  · intro hsame
    -- What comes behind the look leaves them alone as well.
    have hkept := (proceed_memory c r l v t₁).2
    rw [← hkept] at hsame
    have hproceed : (c.proceed r l v).Mirrors (State.recalling cache'')
        (c.proceed r (l.map (State.recalling cache'')) v) :=
      proceed_mirrors (State.sight_recalling cache'').toView hself r l v
    exact ⟨cache'', hproceed t₁, hsame, hkey⟩

/-- Nor does it ask for anything else. -/
theorem notes_unread {key : Digest × Policy} {r : Request} {t : Traced (State σ)} {l : Look σ}
    {cache' : Cache} (hlook : c.look? r t = some l) (hother : l.enforcement = .off ∨ l.key ≠ key)
    (h : Cache.SameBut key t.world.cache cache') :
    c.notes r (t.map (State.recalling cache')) = c.notes r t := by
  have hlooks := look?_watched c r t
  rw [hlook] at hlooks
  rcases hlook' : c.watched.look? r (t.map State.unwatched) with _ | l'
  · rw [hlook'] at hlooks
    cases hlooks
  rw [hlook'] at hlooks
  cases hlooks
  rcases promote_unread hlook' hother h with ⟨cache'', houtcome, -, -⟩
  unfold notes
  -- It is the same to put another cache in place before the notes are taken or after.
  change ((c.watched.promote r).outcome
    ((t.map State.unwatched).map (State.recalling cache'))).2.world.world.2 = _
  rw [houtcome]
  rfl

/-! ### All of it -/

/-- Whether a promotion looks up a verdict under a key. -/
def LooksUp (c : Controller σ) (r : Request) (t : Traced (State σ)) (digest : Digest)
    (policy : Policy) (l : Look σ) : Prop :=
  c.look? r t = some l ∧ l.enforcement ≠ .off ∧ l.key = (digest, policy)

theorem off_or_key_ne {r : Request} {t : Traced (State σ)} {digest : Digest} {policy : Policy}
    {l : Look σ} (hlook : c.look? r t = some l) (h : ¬ c.LooksUp r t digest policy l) :
    l.enforcement = .off ∨ l.key ≠ (digest, policy) := by
  by_cases hoff : l.enforcement = .off
  · exact .inl hoff
  · exact .inr fun hkey => h ⟨hlook, hoff, hkey⟩

/-- What is asked for under one key, from a state on. -/
structure AskedOnce (c : Controller σ) (digest : Digest) (policy : Policy)
    (t : Traced (State σ)) : Prop where
  /-- Without a verdict a promotion that looks one up makes one attempt. What it comes to is
      remembered and is in the record, unless the artifact is refused. -/
  attempts : t.world.cache.get? digest policy = none → ∀ r l, c.LooksUp r t digest policy l →
    let after := ((c.promote r).outcome t).2
    ∃ answer, Attempt t.world.verifierBuilt l.artifact policy (c.inquiries r t) answer
        after.world.verifierBuilt ∧
      ((∃ v, after.world.cache.get? digest policy = some v ∧
          Heeds (.ok v) ((c.promote r).outcome t).1) ∨
        l.enforcement = .enforce ∧ after.world.cache.get? digest policy = none ∧
          ∃ failure, answer.bind Verdict.require = .error failure ∧
            ((c.promote r).outcome t).1 = .error (refusal l.artifact failure.message))
  /-- A verdict stays as it is, whatever is promoted from then on. A promotion that looks it up
      comes to what the verdict comes to, and asks for nothing. -/
  recalls : ∀ v, t.world.cache.get? digest policy = some v → ∀ rs,
    let later := (c.runAll rs t).2
    later.world.cache.get? digest policy = some v ∧
      ∀ r l, c.LooksUp r later digest policy l → c.inquiries r later = [] ∧
        Heeds (recollect l.enforcement l.artifact v) ((c.promote r).outcome later).1
  /-- A promotion that looks up another does not change it, and would do and ask for the same with
      something else in its place. -/
  others : ∀ r l, c.look? r t = some l → ¬ c.LooksUp r t digest policy l →
    let after := ((c.promote r).outcome t).2
    after.world.cache.get? digest policy = t.world.cache.get? digest policy ∧
      ∀ cache', Cache.SameBut (digest, policy) t.world.cache cache' →
        c.notes r (t.map (State.recalling cache')) = c.notes r t ∧
        ∃ cache'', (c.promote r).outcome (t.map (State.recalling cache')) =
            (((c.promote r).outcome t).1, after.map (State.recalling cache'')) ∧
          Cache.SameBut (digest, policy) after.world.cache cache'' ∧
          cache''.get? digest policy = cache'.get? digest policy
  /-- A promotion that refuses an artifact for its signature remembers nothing of it. -/
  refusals : ∀ r artifact reason,
    ((c.promote r).outcome t).1 = .error (.signatureRejected artifact reason) →
      ((c.promote r).outcome t).2.world.cache = t.world.cache

theorem askedOnce (c : Controller σ) (digest : Digest) (policy : Policy) (t : Traced (State σ)) :
    c.AskedOnce digest policy t where
  attempts hnone r l h := by
    rcases h with ⟨hlook, hoff, hkey⟩
    cases hkey
    rcases looked_promote hlook with ⟨found, hlooked, hheeds, -⟩
    rcases hlooked.attempt hoff hnone with ⟨answer, hattempt, hfound⟩
    refine ⟨answer, hattempt, ?_⟩
    rcases hfound with ⟨v, rfl, hget⟩ | ⟨henforce, hcache, failure, hfailure, rfl⟩
    · exact .inl ⟨v, hget, hheeds⟩
    · refine .inr ⟨henforce, ?_, failure, hfailure, hheeds⟩
      rw [hcache]
      exact hnone
  recalls v hsome rs := by
    have hlater := runAll_get?_of_some (c := c) rs hsome
    refine ⟨hlater, fun r l h => ?_⟩
    rcases h with ⟨hlook, hoff, hkey⟩
    cases hkey
    rcases looked_promote hlook with ⟨found, hlooked, hheeds, -⟩
    rcases hlooked.recalled hoff hlater with ⟨hnothing, rfl⟩
    exact ⟨hnothing, hheeds⟩
  others r l hlook h := by
    have hother := off_or_key_ne hlook h
    rcases looked_promote hlook with ⟨_, hlooked, -, -⟩
    refine ⟨hlooked.get?_other hother, fun cache' hsame => ?_⟩
    exact ⟨notes_unread hlook hother hsame, promote_unread hlook hother hsame⟩
  refusals r artifact reason h := promote_cache_of_refusal h

/-- Whatever a new controller promoted, every key is asked for once from there on. The verifier was
    asked for until there was one, and not again. -/
theorem after_askedOnce (c : Controller σ) (w : σ) (rs : List Request) :
    (∀ digest policy, c.AskedOnce digest policy (c.after w rs)) ∧
      ∃ failures : List Failure, (c.notesAll rs ⟨.fresh w, []⟩).filterMap Note.build? =
        failures.map .error ++ if (c.after w rs).world.verifierBuilt then [.ok ()] else [] := by
  refine ⟨fun digest policy => askedOnce c digest policy _, ?_⟩
  rcases notesAll_builds c rs ⟨.fresh w, []⟩ with ⟨failures, hbuilds, -⟩
  refine ⟨failures, hbuilds.trans ?_⟩
  change _ ++ (if false = (c.after w rs).world.verifierBuilt then _ else _) = _
  cases (c.after w rs).world.verifierBuilt with
  | true => rfl
  | false => rfl

end Controller

end Promotion
