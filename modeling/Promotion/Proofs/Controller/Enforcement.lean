import Promotion.Proofs.Controller.Run
import Promotion.Proofs.World

/-!
# Enforcement through the Cache

Whatever a controller calls verified, the verifier has called so.

A verdict can be as old as the controller. It can have been found for another
tag, for another environment, and at a time when a failure would have been let
pass. What makes it good all the same is said of the cache as a whole: every
valid verdict in it is an answer of the verifier for its digest and its policy.

To say that, the verifier's answers have to be remembered, and a controller
does not. `recorded` is the same controller in a world that remembers them,
together with what was put into the log, and `history` is what that world
remembers after a run. `runAll_recorded` says that nothing else is different.

## Main definitions

* `Deed`: An answer of the verifier, or an addition to the log.
* `recorded`: A controller whose world remembers the deeds.
* `history`: The deeds of a run.
* `Vouched`: The verifier found what a record says of its signature.
* `Sound`: The cache and the log hold nothing that is not vouched for.

## Theorems

* `runAll_recorded`: Remembering the deeds changes nothing.
* `sound_promote`: A promotion adds nothing that is not vouched for.
* `promote_signature_sound`: What is called verified was verified.
-/

namespace Promotion

open Signature

variable {σ α : Type}

/-- What is remembered of a run: the verifier's answers and the additions to the log. -/
inductive Deed where
  | verified (artifact : Artifact) (policy : Policy) (answer : Except Failure Signature.Verdict)
  | appended (record : Record) (answer : Except Audit.Error Audit.Entry)

namespace Deed

/-- A step that nothing is remembered of. -/
def untold (step : σ → α × σ) : σ × List Deed → α × (σ × List Deed) := fun w =>
  let (a, world) := step w.1
  (a, world, w.2)

/-- A step that is remembered with its answer. -/
def told (deed : α → Deed) (step : σ → α × σ) : σ × List Deed → α × (σ × List Deed) := fun w =>
  let (a, world) := step w.1
  (a, world, w.2 ++ [deed a])

theorem untold_eq {step : σ → α × σ} {w w' : σ × List Deed} {a : α}
    (h : untold step w = (a, w')) : w'.2 = w.2 :=
  (congrArg (fun r => r.2.2) h).symm

theorem told_eq {deed : α → Deed} {step : σ → α × σ} {w w' : σ × List Deed} {a : α}
    (h : told deed step w = (a, w')) : w'.2 = w.2 ++ [deed a] := by
  have ha : (step w.1).1 = a := congrArg Prod.fst h
  rw [← ha]
  exact (congrArg (fun r => r.2.2) h).symm

end Deed

open Deed in
/-- The collaborators in a world that remembers their deeds. -/
def Collaborators.recorded (k : Collaborators σ) : Collaborators (σ × List Deed) where
  registry :=
    { resolve := fun uri tag => untold (k.registry.resolve uri tag)
      fetch := fun artifact => untold (k.registry.fetch artifact)
      createTag := fun artifact tag => untold (k.registry.createTag artifact tag)
      removeTag := fun uri tag => untold (k.registry.removeTag uri tag) }
  gates name subject := untold (k.gates name subject)
  verifier :=
    { build := untold k.verifier.build
      verify := fun artifact content policy =>
        told (.verified artifact policy) (k.verifier.verify artifact content policy) }
  audit :=
    { append := fun record => told (.appended record) (k.audit.append record)
      query := fun question => untold (k.audit.query question) }
  dispatch event payload w t :=
    let (outcome, inner) := k.dispatch event payload w ⟨t.world.1, t.log⟩
    (outcome, ⟨(inner.world, t.world.2), inner.log⟩)
  clock := untold k.clock
  freshId := untold k.freshId

theorem Collaborators.recorded_mirrors (k : Collaborators σ) :
    k.recorded.Mirrors Prod.fst k := by
  constructor <;> intros <;> intro w <;> rfl

namespace Controller

/-- The controller in a world that remembers deeds. -/
def recorded (c : Controller σ) : Controller (σ × List Deed) :=
  ⟨c.pipeline, c.registryUri, c.collaborators.recorded⟩

/-- The deeds of a new controller's run. -/
def history (c : Controller σ) (w : σ) (rs : List Request) : List Deed :=
  (c.recorded.after (w, []) rs).world.world.2

/-- Remembering the deeds changes nothing. -/
theorem runAll_recorded (c : Controller σ) (rs : List Request)
    (t : Traced (State (σ × List Deed))) :
    c.runAll rs (t.map (State.map Prod.fst)) =
      ((c.recorded.runAll rs t).1, (c.recorded.runAll rs t).2.map (State.map Prod.fst)) :=
  runAll_map c.collaborators.recorded_mirrors rs t

/-- The verifier found a verdict for a digest under a policy. -/
def Found (deeds : List Deed) (digest : Digest) (policy : Policy) (v : Signature.Verdict) : Prop :=
  ∃ artifact : Artifact, artifact.digest = digest ∧ .verified artifact policy (.ok v) ∈ deeds

theorem Found.mono {deeds deeds' : List Deed} {digest : Digest} {policy : Policy}
    {v : Signature.Verdict} (h : Found deeds digest policy v) (hsub : deeds ⊆ deeds') :
    Found deeds' digest policy v := by
  rcases h with ⟨artifact, hdigest, hin⟩
  exact ⟨artifact, hdigest, hsub hin⟩

/-- The verifier found the signature of a record valid, for its digest and under the policy of the
    environment it was promoted into. -/
def Vouched (c : Controller σ) (deeds : List Deed) (record : Record) : Prop :=
  record.verification.status = .valid ∧
    ∃ target, c.pipeline.environment? record.toEnv = some target ∧
      Found deeds record.digest target.signature.policy record.verification

/-- Neither the cache nor the log holds anything that is not vouched for. -/
structure Sound (c : Controller σ) (s : State (σ × List Deed)) : Prop where
  cached : ∀ digest policy v, s.cache.get? digest policy = some v → v.isValid = true →
    Found s.world.2 digest policy v
  appended : ∀ earlier record answer, earlier ++ [.appended record answer] <+: s.world.2 →
    record.signatureVerified = true → c.Vouched earlier record

variable {c : Controller σ}

/-- A new controller has nothing that would have to be vouched for. -/
theorem Sound.fresh (w : σ) : c.Sound (.fresh (w, [])) where
  cached _ _ _ hget := nomatch hget
  appended earlier record answer hprefix := by
    have hlength := hprefix.length_le
    simp [State.fresh] at hlength

/-- Another deed changes nothing for the deeds before it. -/
theorem Sound.concat {s s' : State (σ × List Deed)} {deed : Deed} (h : c.Sound s)
    (hcache : s'.cache = s.cache) (hdeeds : s'.world.2 = s.world.2 ++ [deed])
    (hdeed : ∀ record answer, deed = .appended record answer →
      record.signatureVerified = true → c.Vouched s.world.2 record) : c.Sound s' where
  cached digest policy v hget hv := by
    rw [hcache] at hget
    rw [hdeeds]
    exact (h.cached digest policy v hget hv).mono (List.subset_append_left _ _)
  appended earlier record answer hprefix hverified := by
    -- A beginning of the longer history ends with the new deed or is one of the shorter.
    rw [hdeeds, List.prefix_concat_iff] at hprefix
    rcases hprefix with hlast | hprefix
    · rcases List.append_inj' hlast rfl with ⟨rfl, hsame⟩
      exact hdeed record answer (List.cons.inj hsame).1.symm hverified
    · exact h.appended earlier record answer hprefix hverified

/-- The state is sound, and some deeds are not forgotten. -/
structure SoundSince (c : Controller σ) (deeds : List Deed) (s : State (σ × List Deed)) :
    Prop extends c.Sound s where
  since : deeds ⊆ s.world.2

theorem SoundSince.untold {deeds : List Deed} (step : σ → α × σ) :
    Keeps (c.SoundSince deeds) (Deed.untold step) := fun _ h =>
  ⟨⟨h.cached, h.appended⟩, h.since⟩

/-- Nothing but the verifier and the log does a deed. -/
theorem SoundSince.asks (c : Controller σ) (deeds : List Deed) :
    c.recorded.Asks (c.SoundSince deeds) where
  resolve _ := .untold _
  gates _ _ := .untold _
  query _ := .untold _
  clock := .untold _
  freshId := .untold _

/-- The verifier's answer is the one deed of a call, and a call that fails before does none. -/
theorem called_deeds {artifact : Artifact} {policy : Policy} {s : State (σ × List Deed)}
    {result : Except Failure Signature.Verdict × State (σ × List Deed)}
    (h : c.recorded.Called artifact policy s result) :
    result.2.cache = s.cache ∧
      (result.2.world.2 = s.world.2 ∧ (∃ failure, result.1 = .error failure) ∨
        result.2.world.2 = s.world.2 ++ [.verified artifact policy result.1]) := by
  have hready : ∀ {w}, c.recorded.Ready s w → w.2 = s.world.2 := by
    intro w hw
    cases hw with
    | before _ => rfl
    | now _ hbuild => exact Deed.untold_eq hbuild
  cases h with
  | unbuilt _ hbuild => exact ⟨rfl, .inl ⟨Deed.untold_eq hbuild, _, rfl⟩⟩
  | unfetched hw hfetch =>
      exact ⟨rfl, .inl ⟨(Deed.untold_eq hfetch).trans (hready hw), _, rfl⟩⟩
  | answered hw hfetch hverify =>
      refine ⟨rfl, .inr ?_⟩
      rw [← hready hw, ← Deed.untold_eq hfetch]
      exact Deed.told_eq hverify

/-- A call of the verifier leaves a sound state sound. -/
theorem Sound.callVerifier {artifact : Artifact} {policy : Policy}
    {s s₁ : State (σ × List Deed)} {answer : Except Failure Signature.Verdict} (h : c.Sound s)
    (hcall : c.recorded.callVerifier artifact policy s = (answer, s₁)) :
    c.Sound s₁ ∧ s₁.cache = s.cache ∧ s.world.2 ⊆ s₁.world.2 ∧
      ∀ v, answer = .ok v → Found s₁.world.2 artifact.digest policy v := by
  have hcalled := called_deeds (called_callVerifier c.recorded artifact policy s)
  rw [hcall] at hcalled
  rcases hcalled with ⟨hcache, ⟨hdeeds, failure, hfailure⟩ | hdeeds⟩
  -- No answer was given, so there is nothing that would have to be found.
  · refine ⟨⟨?_, ?_⟩, hcache, hdeeds ▸ List.Subset.refl _, ?_⟩
    · rw [hcache, hdeeds]
      exact h.cached
    · rw [hdeeds]
      exact h.appended
    · intro v hv
      cases hfailure.symm.trans hv
  · refine ⟨h.concat hcache hdeeds (fun _ _ hdeed => nomatch hdeed), hcache, ?_, ?_⟩
    · rw [hdeeds]
      exact List.subset_append_left _ _
    · rintro v rfl
      exact ⟨artifact, rfl, hdeeds ▸ List.mem_append_right _ List.mem_cons_self⟩

/-- Remembering one more verdict is sound if it is not valid or was found. -/
theorem Sound.remember {s s' : State (σ × List Deed)} {digest : Digest} {policy : Policy}
    {v : Signature.Verdict} (h : c.Sound s)
    (hcache : s'.cache = s.cache.insert (digest, policy) v) (hdeeds : s'.world.2 = s.world.2)
    (hfound : v.isValid = true → Found s.world.2 digest policy v) : c.Sound s' where
  cached digest' policy' v' hget hv := by
    rw [hcache, Cache.get?, Table.find?_insert] at hget
    rw [hdeeds]
    by_cases hsame : (digest', policy') = (digest, policy)
    · rw [if_pos hsame] at hget
      cases hsame
      cases hget
      exact hfound hv
    · rw [if_neg hsame] at hget
      exact h.cached digest' policy' v' hget hv
  appended := by
    rw [hdeeds]
    exact h.appended

/-- A look at a signature leaves a sound state sound. If it ends with a verdict, a valid one was
    found, and where signatures are enforced there is no other. -/
theorem Sound.checked {artifact : Artifact} {target : Environment} {s s' : State (σ × List Deed)}
    {answer : Except Error Signature.Verdict} (h : c.Sound s)
    (hchecked : c.recorded.Checked artifact target s (answer, s')) :
    c.Sound s' ∧ s.world.2 ⊆ s'.world.2 ∧ ∀ v, answer = .ok v →
      (target.signature.enforcement = .enforce → v.isValid = true) ∧
      (v.isValid = true → Found s'.world.2 artifact.digest target.signature.policy v) := by
  cases hchecked with
  | skipped hoff hnow =>
      have hdeeds := Deed.untold_eq hnow
      refine ⟨⟨?_, ?_⟩, hdeeds ▸ List.Subset.refl _, ?_⟩
      · exact hdeeds ▸ h.cached
      · exact hdeeds ▸ h.appended
      · rintro _ ⟨⟩
        rw [hoff]
        exact ⟨nofun, fun hv => absurd hv Bool.false_ne_true⟩
  | remembered _ hget hpasses =>
      refine ⟨h, List.Subset.refl _, ?_⟩
      rintro _ ⟨⟩
      exact ⟨hpasses, h.cached _ _ _ hget⟩
  | recalled _ _ _ =>
      refine ⟨h, List.Subset.refl _, ?_⟩
      rintro _ ⟨⟩
  | @verified s₁ v _ _ hcall hv =>
      -- The call leaves the cache as it was, so the new verdict is all that is added to it.
      rcases h.callVerifier hcall with ⟨hsound, hcache, hsub, hfound⟩
      have hnew := hfound v rfl
      rw [← hcache]
      refine ⟨hsound.remember rfl rfl fun _ => hnew, hsub, ?_⟩
      rintro _ ⟨⟩
      exact ⟨fun _ => hv, fun _ => hnew⟩
  | @tolerated s₁ _ failure now w hwarn _ hcall _ hnow =>
      rcases h.callVerifier hcall with ⟨hsound, hcache, hsub, -⟩
      -- What is put down for a failure is invalid, and nothing is claimed of such a verdict.
      have hdeeds : w.2 = s₁.world.2 := Deed.untold_eq hnow
      rw [← hcache]
      refine ⟨hsound.remember rfl hdeeds fun hv => absurd hv Bool.false_ne_true,
        hdeeds ▸ hsub, ?_⟩
      rintro _ ⟨⟩
      rw [hwarn]
      exact ⟨nofun, fun hv => absurd hv Bool.false_ne_true⟩
  | rejected _ _ hcall _ =>
      rcases h.callVerifier hcall with ⟨hsound, -, hsub, -⟩
      refine ⟨hsound, hsub, ?_⟩
      rintro _ ⟨⟩

theorem SoundSince.checkSignature (deeds : List Deed) (artifact : Artifact)
    (target : Environment) :
    (c.recorded.checkSignature artifact target).Preserves (c.SoundSince deeds) := by
  intro t ht
  rcases ht.toSound.checked (checked_checkSignature c.recorded artifact target t) with
    ⟨hsound, hsub, -⟩
  exact ⟨hsound, List.Subset.trans ht.since hsub⟩

/-- What an assessment says of a signature is vouched for, and where signatures are enforced it
    says that there is a valid one. -/
theorem Sound.assessed {r : Request} {t t' : Traced (State (σ × List Deed))} {artifact : Artifact}
    {record : Record} (h : c.Sound t.world)
    (hassessed : c.recorded.Assessed r t artifact record t') :
    (record.signatureVerified = true → c.Vouched t'.world.world.2 record) ∧
      ∃ target, c.pipeline.environment? r.target = some target ∧
        (target.signature.enforcement = .enforce → record.signatureVerified = true) := by
  cases hassessed with
  | @passed _ target artifact gateResults verification _ _ t₁ t₂ t₃ _ _ _ _ hfound hresolve hgates
      hcheck hauth hid hstamp =>
      have hasks := SoundSince.asks c []
      have hresolved := hasks.resolveTag r.tag t ⟨h, List.nil_subset _⟩
      rw [hresolve] at hresolved
      have hran := hasks.runList ⟨artifact, target, r.dryRun⟩ target.gates t₁ hresolved
      change (c.SoundSince []) ((inWorld (Gate.runAll _ _)).outcome t₁).2.world at hran
      rw [hgates] at hran
      have hchecked := checked_checkSignature c.recorded artifact target t₂
      rw [hcheck] at hchecked
      rcases hran.toSound.checked hchecked with ⟨hsound, -, hverdict⟩
      rcases hverdict verification rfl with ⟨henforced, hvalid⟩
      refine ⟨fun hv => ⟨of_decide_eq_true hv, target, hfound, ?_⟩, target, hfound, henforced⟩
      -- Nothing is forgotten between the look and the record.
      have hlater := (SoundSince.asks c t₃.world.world.2).authorize r.operator r.tag r.source
        target t₃.world ⟨hsound, List.Subset.refl _⟩
      rw [hauth] at hlater
      have hkept := hlater.since
      rw [← Deed.untold_eq hid, ← Deed.untold_eq hstamp] at hkept
      exact (hvalid hv).mono hkept

/-- A promotion adds nothing that is not vouched for, and answers with nothing else. -/
theorem sound_promote {r : Request} {t t' : Traced (State (σ × List Deed))}
    {answer : Except Error Record} (h : c.Sound t.world)
    (hrun : (c.recorded.promote r).outcome t = (answer, t')) :
    c.Sound t'.world ∧ ∀ record, answer = .ok record → record.toEnv = r.target ∧
      (record.signatureVerified = true → c.Vouched t'.world.world.2 record) ∧
      ∃ target, c.pipeline.environment? r.target = some target ∧
        (target.signature.enforcement = .enforce → record.signatureVerified = true) := by
  -- Soundness up to the record is an instance of what holds of all assessments.
  have hassess := assess_preserves (SoundSince.asks c [])
    (SoundSince.checkSignature []) r t ⟨h, List.nil_subset _⟩
  unfold promote at hrun
  rw [Action.outcome_bind] at hrun
  rcases hfirst : (c.recorded.assess r).outcome t with ⟨e | ⟨artifact, record⟩, t₁⟩
  · rw [hfirst] at hassess hrun
    cases hrun
    refine ⟨hassess.toSound, ?_⟩
    rintro _ ⟨⟩
  rw [hfirst] at hassess hrun
  rcases h.assessed (assessed_of_outcome hfirst) with ⟨hvouched, henforced⟩
  rcases (assessed_of_outcome hfirst).of_request with ⟨-, -, -, htarget, -⟩
  simp only at hrun
  by_cases hdry : r.dryRun = true
  · rw [if_pos hdry] at hrun
    cases hrun
    refine ⟨hassess.toSound, ?_⟩
    rintro _ ⟨⟩
    exact ⟨htarget, hvouched, henforced⟩
  · rw [if_neg hdry] at hrun
    -- The log gets the record that was assessed, which is vouched for by then.
    have happend : Keeps (c.SoundSince t₁.world.world.2)
        (c.recorded.collaborators.audit.append record) := fun s hs =>
      ⟨hs.toSound.concat rfl rfl fun record' answer' hdeed hv => by
          cases hdeed
          rcases hvouched hv with ⟨hstatus, target, hplace, hfound⟩
          exact ⟨hstatus, target, hplace, hfound.mono hs.since⟩,
        List.Subset.trans hs.since (List.subset_append_left _ _)⟩
    have hland := land_preserves (SoundSince.asks c t₁.world.world.2)
      (fun _ _ => .untold _) (fun _ => .untold _) (fun s pending hs => ⟨⟨hs.cached, hs.appended⟩,
        hs.since⟩) happend artifact t₁ ⟨hassess.toSound, List.Subset.refl _⟩
    rw [hrun] at hland
    refine ⟨hland.toSound, ?_⟩
    rintro answer rfl
    cases land_eq_ok hrun
    refine ⟨htarget, fun hv => ?_, henforced⟩
    rcases hvouched hv with ⟨hstatus, target, hplace, hfound⟩
    exact ⟨hstatus, target, hplace, hfound.mono hland.since⟩

/-- A run adds nothing that is not vouched for. -/
theorem sound_runAll (rs : List Request) {t : Traced (State (σ × List Deed))}
    (h : c.Sound t.world) : c.Sound (c.recorded.runAll rs t).2.world := by
  induction rs generalizing t with
  | nil => exact h
  | cons r rest ih => exact ih (sound_promote h rfl).1

/-- What is called verified was verified. Whatever was promoted before, by any collaborators: a
    record that is put into the log with a verified signature was vouched for before it was put
    there, one that a promotion answers with was vouched for by the end of that promotion, and a
    promotion into an environment that enforces signatures answers with no other. -/
theorem promote_signature_sound (c : Controller σ) (w : σ) (rs : List Request) :
    (∀ earlier record answer, earlier ++ [.appended record answer] <+: c.history w rs →
      record.signatureVerified = true → c.Vouched earlier record) ∧
    ∀ r record t', (c.promote r).outcome (c.after w rs) = (.ok record, t') →
      record.toEnv = r.target ∧
      (record.signatureVerified = true → c.Vouched (c.history w (rs ++ [r])) record) ∧
      ∃ target, c.pipeline.environment? r.target = some target ∧
        (target.signature.enforcement = .enforce → record.signatureVerified = true) := by
  have hsound : c.Sound (c.recorded.after (w, []) rs).world := sound_runAll rs (Sound.fresh w)
  refine ⟨hsound.appended, ?_⟩
  intro r record t' hrun
  have hsame : (c.recorded.promote r).Mirrors (State.map Prod.fst) (c.promote r) :=
    promote_mirrors c.collaborators.recorded_mirrors r
  have hmirrors := hsame (c.recorded.after (w, []) rs)
  have hafter : c.after w rs = (c.recorded.after (w, []) rs).map (State.map Prod.fst) :=
    congrArg Prod.snd (runAll_recorded c rs ⟨.fresh (w, []), []⟩)
  -- The answer is that of the controller that remembers, and of that one it is known.
  rw [hafter] at hrun
  have hanswer := (congrArg Prod.fst hmirrors).symm.trans (congrArg Prod.fst hrun)
  unfold history
  rw [after_concat]
  exact (sound_promote hsound rfl).2 record hanswer

/-- A dry run into an environment that enforces signatures, with a verifier that finds them valid:
    the record says so, and the verifier did. -/
theorem promote_signature_sound_calm :
    let c := World.controller .calm
      (World.ladder ((Environment.named "prod").withEnforcement .enforce)) "registry"
    ∃ record t', (c.promote (World.climb true)).outcome (c.after World.single []) =
        (.ok record, t') ∧
      record.signatureVerified = true ∧
      c.Vouched (c.history World.single [World.climb true]) record := by
  intro c
  have hcalm : (match ((c.promote (World.climb true)).outcome (c.after World.single [])).1 with
      | .ok record => record.signatureVerified
      | .error _ => false) = true := by
    decide +kernel
  rcases hrun : (c.promote (World.climb true)).outcome (c.after World.single []) with
    ⟨e | record, t'⟩
  · rw [hrun] at hcalm
    cases hcalm
  · rw [hrun] at hcalm
    rcases (promote_signature_sound c World.single []).2 _ record t' hrun with ⟨-, hvouched, -⟩
    exact ⟨record, t', rfl, hcalm, hvouched hcalm⟩

end Controller

end Promotion
