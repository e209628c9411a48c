import Promotion.Proofs.Controller.Once
import Promotion.Proofs.World

/-!
# Outages that Are Kept

What a verifier that could not be asked leaves behind.

An attempt to verify a signature can fail for the signature, and it can fail
because there was no verifier, no content or no answer. Only the first is
something that was found of the digest and could be kept for it. But where
signatures are only asked for, every failure is put down as a verdict, and that
verdict is remembered like any other. So an outage in one environment refuses
the digest in another, long after it is over, if that one enforces signatures
under the same policy.

It takes exactly that. `unrefused_iff` says of a digest that the verifier never
found anything against, and would find valid now: it is refused where signatures
are enforced if and only if an outage was kept. A run in which signatures are
enforced wherever the policy is asked for keeps none.

## Main definitions

* `Note.condemns`: The verifier found something against a digest.
* `Note.isOutage`: There was no verifier, no content or no answer.
* `KeptOutage`: A run in which an outage was put down as a verdict.

## Theorems

* `after_get?_origin`: Every verdict was put down by one promotion of the run.
* `unrefused_iff`: A digest with nothing against it is refused for kept outages alone.
* `kept_outage_refuses`: An outage in staging refuses a valid signature in production.
-/

namespace Promotion

open Signature

variable {σ : Type}

/-- It was found of the signature, and not of the way to it. -/
def Signature.Failure.isVerdict : Failure → Bool
  | .invalid _ | .unsigned _ => true
  | .unavailable _ | .content _ => false

namespace Note

/-- The verifier found a bad signature for a digest, or none. -/
def condemns (digest : Digest) : Note → Bool
  | .verified artifact _ _ answer =>
    artifact.digest = digest && match answer.bind Verdict.require with
      | .error failure => failure.isVerdict
      | .ok _ => false
  | _ => false

/-- There was no verifier, no content, or no answer that says something of the signature. -/
def isOutage : Note → Bool
  | .built (.error _) | .fetched _ (.error _) => true
  | .verified _ _ _ (.error failure) => !failure.isVerdict
  | _ => false

end Note

namespace Controller

variable {c : Controller σ}

/-- An attempt that failed was for the signature or for an outage. -/
theorem Attempt.failed {verifierBuilt builtNow : Bool} {artifact : Artifact} {policy : Policy}
    {asked : List Note} {answer : Except Failure Signature.Verdict} {failure : Failure}
    (h : Attempt verifierBuilt artifact policy asked answer builtNow)
    (hfailure : answer.bind Verdict.require = .error failure) :
    (∃ note ∈ asked, note.condemns artifact.digest = true) ∨
      ∃ note ∈ asked, note.isOutage = true := by
  cases h with
  | unbuilt _ => exact .inr ⟨_, List.mem_cons_self, rfl⟩
  | unfetched e => exact .inr ⟨.fetched artifact (.error e), by simp, rfl⟩
  | answered content answer =>
      have hin : Note.verified artifact content policy answer ∈ obtained verifierBuilt ++
          [.fetched artifact (.ok content), .verified artifact content policy answer] := by simp
      by_cases hverdict : failure.isVerdict = true
      · refine .inl ⟨_, hin, ?_⟩
        simp [Note.condemns, hfailure, hverdict]
      · refine .inr ⟨_, hin, ?_⟩
        -- An answer that is a verdict fails as one, so this was none.
        cases answer with
        | error e =>
            cases hfailure
            simpa [Note.isOutage] using hverdict
        | ok v =>
            exfalso
            change v.require = .error failure at hfailure
            unfold Verdict.require at hfailure
            cases hstatus : v.status <;> rw [hstatus] at hfailure <;> cases hfailure <;>
              exact hverdict rfl

/-- In an attempt that passed there was no outage. -/
theorem Attempt.passed {verifierBuilt builtNow : Bool} {artifact : Artifact} {policy : Policy}
    {asked : List Note} {v : Signature.Verdict}
    (h : Attempt verifierBuilt artifact policy asked (.ok v) builtNow) :
    ∀ note ∈ asked, note.isOutage = false := by
  generalize hanswer : (Except.ok v : Except Failure Signature.Verdict) = answer at h
  cases h with
  | unbuilt _ => cases hanswer
  | unfetched _ => cases hanswer
  | answered content answer =>
      subst hanswer
      cases verifierBuilt <;> simp [obtained, Note.isOutage]

section Looks

variable {verifierBuilt builtNow : Bool} {cache cacheNow : Cache} {artifact : Artifact}
  {rule : Rule} {asked : List Note}

/-- A look that met with an outage where signatures are only asked for puts it down. -/
theorem Looked.outage {found : Except Error Signature.Verdict}
    (h : Looked verifierBuilt cache artifact rule asked found builtNow cacheNow)
    (hwarn : rule.enforcement = .warn) {note : Note} (hin : note ∈ asked)
    (houtage : note.isOutage = true) :
    ∃ v, v.isValid = false ∧ cacheNow = cache.insert (artifact.digest, rule.policy) v := by
  cases h with
  | skipped _ _ => cases hin
  | remembered _ _ => cases hin
  | verified _ _ hattempt _ =>
      rw [hattempt.passed note hin] at houtage
      cases houtage
  | tolerated now _ _ _ _ => exact ⟨_, rfl, rfl⟩
  | rejected henforce _ _ _ => cases henforce.symm.trans hwarn

/-- A look that ended with a verdict found it valid, or it met with a failure where signatures are
    only asked for. -/
theorem Looked.valid_or_failed {v : Signature.Verdict}
    (h : Looked verifierBuilt cache artifact rule asked (.ok v) builtNow cacheNow)
    (hoff : rule.enforcement ≠ .off) (hnone : cache.get? artifact.digest rule.policy = none) :
    v.isValid = true ∨ rule.enforcement = .warn ∧
      ((∃ note ∈ asked, note.condemns artifact.digest = true) ∨
        ∃ note ∈ asked, note.isOutage = true) := by
  generalize hfound : (Except.ok v : Except Error Signature.Verdict) = found at h
  cases h with
  | skipped _ hskipped => exact absurd hskipped hoff
  | remembered _ hsome => cases hnone.symm.trans hsome
  | verified _ _ _ hvalid =>
      cases hfound
      exact .inl hvalid
  | tolerated _ hwarn _ hattempt hfailure => exact .inr ⟨hwarn, hattempt.failed hfailure⟩
  | rejected _ _ _ _ => cases hfound

end Looks

/-- What is remembered after a run was put down by one of its promotions, that looked for it where
    nothing was remembered yet. -/
theorem after_get?_origin (w : σ) (rs : List Request) {digest : Digest} {policy : Policy}
    {v : Signature.Verdict} (h : (c.after w rs).world.cache.get? digest policy = some v) :
    ∃ before r later l, rs = before ++ r :: later ∧ c.LooksUp r (c.after w before) digest policy l ∧
      (c.after w before).world.cache.get? digest policy = none ∧
      ∃ builtNow cacheNow, Looked (c.after w before).world.verifierBuilt
        (c.after w before).world.cache l.artifact l.target.signature
        (c.inquiries r (c.after w before)) (.ok v) builtNow cacheNow := by
  -- The last promotion put it down, or it was remembered before that.
  induction rs using List.reverseRecOn with
  | nil => cases h
  | append_singleton earlier r ih =>
      cases hearlier : (c.after w earlier).world.cache.get? digest policy with
      | some v' =>
          -- It was remembered before already, and it is the same verdict.
          have hkept := promote_get?_of_some (c := c) r hearlier
          rw [← after_concat, h] at hkept
          cases hkept
          rcases ih hearlier with ⟨before, r', later, l, rfl, horigin⟩
          exact ⟨before, r', later ++ [r], l, by simp, horigin⟩
      | none =>
          rw [after_concat] at h
          cases hlook : c.look? r (c.after w earlier) with
          | none =>
              rcases notes_of_no_look hlook with ⟨-, -, hcache⟩
              rw [hcache, hearlier] at h
              cases h
          | some l =>
              rcases looked_promote hlook with ⟨found, hlooked, -, -⟩
              by_cases hup : c.LooksUp r (c.after w earlier) digest policy l
              · rcases hup with ⟨-, hoff, hkey⟩
                cases hkey
                rcases hlooked.attempt hoff hearlier with
                  ⟨_, -, ⟨v', rfl, hget⟩ | ⟨-, hcache, -⟩⟩
                · rw [h] at hget
                  cases hget
                  exact ⟨earlier, r, [], l, rfl, ⟨hlook, hoff, rfl⟩, hearlier, _, _, hlooked⟩
                · rw [hcache, hearlier] at h
                  cases h
              -- A look for another verdict does not put this one down.
              · have hother := hlooked.get?_other (off_or_key_ne hlook hup)
                rw [h, hearlier] at hother
                cases hother

/-- In a run an outage was put down as a verdict: a promotion looked for one where signatures are
    only asked for and nothing was remembered yet, and met with the outage. -/
def KeptOutage (c : Controller σ) (w : σ) (rs : List Request) (digest : Digest)
    (policy : Policy) : Prop :=
  ∃ before r later l, rs = before ++ r :: later ∧ c.LooksUp r (c.after w before) digest policy l ∧
    l.enforcement = .warn ∧ (c.after w before).world.cache.get? digest policy = none ∧
    ∃ note ∈ c.inquiries r (c.after w before), note.isOutage = true

/-- The verifier would find the signature of an artifact valid now, if it were called. -/
def FoundValid (c : Controller σ) (l : Look σ) : Prop :=
  ∃ v, (c.callVerifier l.artifact l.target.signature.policy l.start.world).1.bind
    Verdict.require = .ok v

instance (c : Controller σ) (l : Look σ) : Decidable (c.FoundValid l) :=
  match h : (c.callVerifier l.artifact l.target.signature.policy l.start.world).1.bind
      Verdict.require with
  | .ok v => isTrue ⟨v, h⟩
  | .error _ => isFalse fun hvalid => by
      rcases hvalid with ⟨v, hv⟩
      cases h.symm.trans hv

theorem mem_notesAll_of_inquiries {w : σ} {before later : List Request} {r : Request} {note : Note}
    (h : note ∈ c.inquiries r (c.after w before)) :
    note ∈ c.notesAll (before ++ r :: later) ⟨.fresh w, []⟩ := by
  rw [notesAll_append]
  have hnote : note ∈ c.notes r (c.after w before) := List.mem_of_mem_filter h
  exact List.mem_append_right _ (List.mem_append_left _ hnote)

/-- An outage that was kept is remembered as a verdict that is not valid. -/
theorem KeptOutage.get? {w : σ} {rs : List Request} {digest : Digest} {policy : Policy}
    (h : c.KeptOutage w rs digest policy) :
    ∃ v, (c.after w rs).world.cache.get? digest policy = some v ∧ v.isValid = false := by
  rcases h with ⟨before, r, later, l, rfl, ⟨hlook, hoff, hkey⟩, hwarn, hnone, note, hin, houtage⟩
  cases hkey
  have hafter : c.after w (before ++ r :: later) =
      (c.runAll later ((c.promote r).outcome (c.after w before)).2).2 := by
    unfold after
    rw [runAll_append]
    rfl
  rcases looked_promote hlook with ⟨found, hlooked, -, -⟩
  -- What the promotion put down is what is remembered in the end.
  have hput : ∀ v, ((c.promote r).outcome (c.after w before)).2.world.cache =
      (c.after w before).world.cache.insert l.key v →
      (c.after w (before ++ r :: later)).world.cache.get? l.key.1 l.key.2 = some v := by
    intro v hcache
    rw [hafter]
    apply runAll_get?_of_some
    rw [hcache]
    exact Cache.get?_insert_self _ _ _ _
  rcases hlooked.outage hwarn hin houtage with ⟨v, hinvalid, hcache⟩
  exact ⟨v, hput v hcache, hinvalid⟩

/-- Without a verdict, a look finds what the verifier would find. -/
theorem unrefused_of_foundValid {r : Request} {t : Traced (State σ)} {l : Look σ}
    (hlook : c.look? r t = some l) (hnow : c.FoundValid l)
    (hnone : t.world.cache.get? l.artifact.digest l.target.signature.policy = none) :
    Unrefused ((c.promote r).outcome t).1 := by
  rcases hnow with ⟨v, hvalid⟩
  have hstart : l.start.world.cache = t.world.cache := by
    have hasks : c.Asks fun s => s.cache = t.world.cache :=
      ⟨fun _ _ h => h, fun _ _ _ h => h, fun _ _ h => h, fun _ h => h, fun _ h => h⟩
    exact look?_preserves hasks rfl hlook
  rw [← hstart] at hnone
  have hheeds := heeds_of_look hlook
  have hchecked := checked_checkSignature c l.artifact l.target l.start
  generalize ((c.checkSignature l.artifact l.target).outcome l.start).1 = found
    at hheeds hchecked
  generalize ((c.checkSignature l.artifact l.target).outcome l.start).2.world = s' at hchecked
  cases hchecked with
  | skipped _ _ => exact hheeds.1
  | remembered _ _ _ => exact hheeds.1
  | recalled _ hsome _ => cases hnone.symm.trans hsome
  | verified _ _ _ _ => exact hheeds.1
  | tolerated _ _ _ _ _ => exact hheeds.1
  | rejected _ _ hcall hfailure =>
      rw [hcall, hfailure] at hvalid
      cases hvalid

/-- A digest that the verifier never found anything against, and would find valid now, is refused
    where signatures are enforced if and only if an outage was kept. -/
theorem unrefused_iff (c : Controller σ) (w : σ) (rs : List Request) (r : Request) {l : Look σ}
    (hlook : c.look? r (c.after w rs) = some l) (henforce : l.enforcement = .enforce)
    (hgood : ∀ note ∈ c.notesAll rs ⟨.fresh w, []⟩, note.condemns l.artifact.digest = false)
    (hnow : c.FoundValid l) :
    Unrefused ((c.promote r).outcome (c.after w rs)).1 ↔
      ¬ c.KeptOutage w rs l.artifact.digest l.target.signature.policy := by
  have hoff : l.target.signature.enforcement ≠ .off := by
    change l.enforcement ≠ .off
    rw [henforce]
    exact nofun
  rcases looked_promote hlook with ⟨found, hlooked, hheeds, -⟩
  constructor
  · intro hunrefused hkept
    -- What was kept is recalled, and it is not valid.
    rcases hkept.get? with ⟨v, hsome, hinvalid⟩
    rcases hlooked.recalled hoff hsome with ⟨-, rfl⟩
    unfold recollect at hheeds
    rw [if_pos ⟨henforce, by rw [hinvalid]; exact Bool.false_ne_true⟩] at hheeds
    exact hunrefused _ _ hheeds
  · intro hnotKept
    cases hget : (c.after w rs).world.cache.get? l.artifact.digest l.target.signature.policy with
    | none => exact unrefused_of_foundValid hlook hnow hget
    | some v =>
        rcases hlooked.recalled hoff hget with ⟨-, rfl⟩
        -- The verdict is from an earlier promotion, where it was found or put down for a failure.
        rcases after_get?_origin w rs hget with
          ⟨before, r', later, l', rfl, hup, hnone, builtNow, cacheNow, horigin⟩
        have hkey : l'.artifact.digest = l.artifact.digest := congrArg Prod.fst hup.2.2
        have hpolicy : l'.target.signature.policy = l.target.signature.policy :=
          congrArg Prod.snd hup.2.2
        have hvalid : v.isValid = true := by
          rw [← hkey, ← hpolicy] at hnone
          rcases horigin.valid_or_failed hup.2.1 hnone with hvalid | ⟨hwarn, hfailed⟩
          · exact hvalid
          rcases hfailed with ⟨note, hin, hcondemns⟩ | houtage
          · rw [hkey, hgood note (mem_notesAll_of_inquiries hin)] at hcondemns
            cases hcondemns
          · rw [hkey, hpolicy] at hnone
            exact absurd ⟨before, r', later, l', rfl, hup, hwarn, hnone, houtage⟩ hnotKept
        unfold recollect at hheeds
        rw [if_neg fun hrefused => hrefused.2 hvalid] at hheeds
        exact hheeds.1

end Controller

/-- Calm surroundings but for a verifier that cannot be reached the first time. -/
def Surroundings.waking : Surroundings Nat where
  registryRefuses _ asked := (none, asked)
  auditRefuses _ asked := (none, asked)
  gates name _ asked := (⟨.ok (.passed name 0), 0, 0⟩, asked)
  verifier :=
    { build := fun asked => (.ok (), asked)
      verify := fun _ _ _ asked =>
        if asked = 0 then (.error (.unavailable "starting"), asked + 1)
        else (.ok (.valid "releases" none .epoch), asked + 1) }
  dispatch _ _ _ := pure .done
  clock asked := (.epoch, asked)
  freshId asked := (⟨⟨0⟩⟩, asked)

/-- A world with one artifact, whose verifier was not asked for anything yet. -/
def World.asleep : World Nat := ⟨single.registry, single.audit, 0⟩

/-- Staging, where signatures are only asked for, and production, where they are enforced. -/
def Pipeline.staged : Pipeline :=
  ⟨[.named "dev", .named "staging", (Environment.named "prod").withEnforcement .enforce], []⟩

namespace Controller

/-- An outage where signatures are enforced refuses one promotion. It is not kept, so the next one
    is not refused. -/
theorem unrefused_iff_enforced :
    let c := World.controller .waking
      (World.ladder ((Environment.named "prod").withEnforcement .enforce)) "registry"
    let climb := World.climb false
    ¬ Unrefused ((c.promote climb).outcome (c.after World.asleep [])).1 ∧
      Unrefused ((c.promote climb).outcome (c.after World.asleep [climb])).1 := by
  intro c climb
  have hrefused : (match ((c.promote climb).outcome (c.after World.asleep [])).1 with
      | .error (.signatureRejected label reason) => some (label, reason)
      | _ => none) = some ("registry:v1@sha256:a1", "verifier unavailable: starting") := by
    decide +kernel
  have hlooks : (c.look? climb (c.after World.asleep [climb])).any (fun l =>
      l.enforcement = .enforce ∧ c.FoundValid l ∧
        ∀ note ∈ c.notesAll [climb] ⟨.fresh World.asleep, []⟩,
          note.condemns l.artifact.digest = false) = true := by
    decide +kernel
  have hempty : (c.after World.asleep [climb]).world.cache.entries = [] := by decide +kernel
  refine ⟨fun hunrefused => ?_, ?_⟩
  · split at hrefused
    · rename_i label reason hanswer
      exact hunrefused label reason hanswer
    · cases hrefused
  rcases (Option.any_eq_true _ _).mp hlooks with ⟨l, hlook, hl⟩
  rcases of_decide_eq_true hl with ⟨henforce, hnow, hgood⟩
  refine (unrefused_iff c World.asleep [climb] climb hlook henforce hgood hnow).mpr fun hkept => ?_
  -- Nothing at all is remembered, so no outage was put down.
  rcases hkept.get? with ⟨v, hget, -⟩
  unfold Cache.get? Table.find? at hget
  rw [hempty] at hget
  cases hget

/-- An outage in staging refuses in production what the verifier never found anything against, and
    would find valid now. -/
theorem kept_outage_refuses :
    let c := World.controller .waking .staged "registry"
    let t := c.after World.asleep [World.step "dev" "staging"]
    ∃ l, c.look? (World.step "staging" "prod") t = some l ∧ l.enforcement = .enforce ∧
      (∀ note ∈ c.notesAll [World.step "dev" "staging"] ⟨.fresh World.asleep, []⟩,
        note.condemns l.artifact.digest = false) ∧
      c.FoundValid l ∧
      ((c.promote (World.step "staging" "prod")).outcome t).1 =
        .error (.signatureRejected "registry:v1@sha256:a1" "verifier unavailable: starting") := by
  intro c t
  have hlook : (c.look? (World.step "staging" "prod") t).any (fun l =>
      l.enforcement = .enforce ∧ c.FoundValid l ∧
        ∀ note ∈ c.notesAll [World.step "dev" "staging"] ⟨.fresh World.asleep, []⟩,
          note.condemns l.artifact.digest = false) = true := by
    decide +kernel
  have hanswer : ((c.promote (World.step "staging" "prod")).outcome t).1 =
      .error (.signatureRejected "registry:v1@sha256:a1" "verifier unavailable: starting") := by
    decide +kernel
  rcases (Option.any_eq_true _ _).mp hlook with ⟨l, hl, hchecks⟩
  rcases of_decide_eq_true hchecks with ⟨henforce, hnow, hgood⟩
  exact ⟨l, hl, henforce, hgood, hnow, hanswer⟩

end Controller

end Promotion
