import Promotion.Proofs.Controller.Watch

/-!
# What an Environment Can Rely on

The three ways to enforce signatures, each with what it promises.

All of them share one memory, so what one promises depends on what the others
put there. Where nobody looks nothing is put there and nothing is taken, not
even a verdict that would do. Where signatures are enforced, whatever is taken
is judged again. Only where they are asked for a verdict is passed on as it is
remembered, and then it has to be one that says what it found: valid, or invalid
with a reason. A look never remembers any other, so after any run there is no
other in the memory.

## Main definitions

* `Verdict.Explained`: A valid verdict, or an invalid one with a reason.
* `Look.finding`: What is known of a signature when it is looked at.
* `Promises`: What a promotion keeps to under each enforcement.

## Theorems

* `Looked.off`, `Looked.warn`, `Looked.enforce`: A look under each enforcement.
* `after_explained`: A memory has no verdict that is not explained.
* `promises_of_no_look`, `promises_of_look`: One promotion, with explained verdicts remembered.
* `after_promises`: After any run the next promotion keeps the promises.
-/

namespace Promotion

open Signature

variable {σ : Type}

/-- A verdict that says what was found: a valid signature, or a failure with its reason. -/
def Signature.Verdict.Explained (v : Verdict) : Prop :=
  v.status = .valid ∨ v.status = .invalid ∧ v.reason.isSome = true

/-- All verdicts that are remembered say what was found. -/
def Signature.Cache.Explained (cache : Cache) : Prop :=
  ∀ digest policy v, cache.get? digest policy = some v → v.Explained

theorem Signature.Cache.Explained.insert {cache : Cache} (h : cache.Explained)
    {key : Digest × Policy} {v : Verdict} (hv : v.Explained) :
    Cache.Explained (cache.insert key v) := by
  intro digest policy v' hget
  by_cases hsame : key = (digest, policy)
  · subst hsame
    rw [Cache.get?_insert_self] at hget
    cases hget
    exact hv
  · rw [Cache.get?_insert_of_ne _ _ hsame] at hget
    exact h digest policy v' hget

namespace Controller

variable {c : Controller σ}

section Looks

variable {verifierBuilt builtNow : Bool} {cache cacheNow : Cache} {artifact : Artifact}
  {rule : Rule} {asked : List Note} {found : Except Error Signature.Verdict}

/-- Where nobody looks, nothing is asked for, and nothing is remembered or recalled. -/
theorem Looked.off (h : Looked verifierBuilt cache artifact rule asked found builtNow cacheNow)
    (hoff : rule.enforcement = .off) :
    asked = [] ∧ builtNow = verifierBuilt ∧ cacheNow = cache ∧
      ∃ now, found = .ok (.unsigned disabledReason now) := by
  cases h with
  | skipped now _ => exact ⟨rfl, rfl, rfl, now, rfl⟩
  | remembered hlooks _ => exact absurd hoff hlooks
  | verified hlooks _ _ _ => exact absurd hoff hlooks
  | tolerated _ hwarn _ _ _ => cases hoff.symm.trans hwarn
  | rejected henforce _ _ _ => cases hoff.symm.trans henforce

/-- What a look adds to a memory is explained. -/
theorem Looked.explained
    (h : Looked verifierBuilt cache artifact rule asked found builtNow cacheNow)
    (hcache : cache.Explained) : cacheNow.Explained := by
  cases h with
  | skipped _ _ => exact hcache
  | remembered _ _ => exact hcache
  | verified _ _ _ hvalid => exact hcache.insert (.inl (of_decide_eq_true hvalid))
  | tolerated _ _ _ _ _ => exact hcache.insert (.inr ⟨rfl, rfl⟩)
  | rejected _ _ _ _ => exact hcache

/-- Where signatures are only asked for, a look ends with a verdict that says what was found. -/
theorem Looked.warn (h : Looked verifierBuilt cache artifact rule asked found builtNow cacheNow)
    (hwarn : rule.enforcement = .warn) (hcache : cache.Explained) :
    ∃ v, found = .ok v ∧ v.Explained := by
  cases h with
  | skipped _ hoff => cases hwarn.symm.trans hoff
  | remembered _ hget =>
      refine ⟨_, ?_, hcache _ _ _ hget⟩
      unfold recollect
      rw [hwarn, if_neg fun hrefused => nomatch hrefused.1]
  | verified _ _ _ hvalid => exact ⟨_, rfl, .inl (of_decide_eq_true hvalid)⟩
  | tolerated _ _ _ _ _ => exact ⟨_, rfl, .inr ⟨rfl, rfl⟩⟩
  | rejected henforce _ _ _ => cases hwarn.symm.trans henforce

/-- A look fails only where signatures are enforced, and only to refuse the artifact. -/
theorem Looked.eq_refusal {e : Error}
    (h : Looked verifierBuilt cache artifact rule asked (.error e) builtNow cacheNow) :
    rule.enforcement = .enforce ∧ ∃ reason, e = refusal artifact reason := by
  generalize hfound : (Except.error e : Except Error Signature.Verdict) = found at h
  cases h with
  | skipped _ _ => cases hfound
  | @remembered v _ _ =>
      unfold recollect at hfound
      by_cases hrefused : rule.enforcement = .enforce ∧ ¬ v.isValid = true
      · rw [if_pos hrefused] at hfound
        cases hfound
        exact ⟨hrefused.1, _, rfl⟩
      · rw [if_neg hrefused] at hfound
        cases hfound
  | verified _ _ _ _ => cases hfound
  | tolerated _ _ _ _ _ => cases hfound
  | rejected henforce _ _ _ =>
      cases hfound
      exact ⟨henforce, _, rfl⟩

/-- Where signatures are enforced, a look that ends with a verdict found a valid one. -/
theorem Looked.enforce {v : Signature.Verdict}
    (h : Looked verifierBuilt cache artifact rule asked (.ok v) builtNow cacheNow)
    (henforce : rule.enforcement = .enforce) : v.isValid = true := by
  generalize hfound : (Except.ok v : Except Error Signature.Verdict) = found at h
  cases h with
  | skipped _ hoff => cases henforce.symm.trans hoff
  | @remembered v' _ _ =>
      -- A verdict that is not valid would have refused the artifact.
      unfold recollect at hfound
      by_cases hvalid : v'.isValid = true
      · rw [if_neg fun hrefused => hrefused.2 hvalid] at hfound
        cases hfound
        exact hvalid
      · rw [if_pos ⟨henforce, hvalid⟩] at hfound
        cases hfound
  | verified _ _ _ hvalid =>
      cases hfound
      exact hvalid
  | tolerated _ hwarn _ _ _ => cases henforce.symm.trans hwarn
  | rejected _ _ _ _ => cases hfound

end Looks

/-- A promotion adds no verdict that is not explained. -/
theorem promote_explained {r : Request} {t : Traced (State σ)} (h : t.world.cache.Explained) :
    ((c.promote r).outcome t).2.world.cache.Explained := by
  cases hlook : c.look? r t with
  | none =>
      rcases notes_of_no_look hlook with ⟨-, -, hcache⟩
      rw [hcache]
      exact h
  | some l =>
      rcases looked_promote hlook with ⟨_, hlooked, -, -⟩
      exact hlooked.explained h

theorem runAll_explained {rs : List Request} {t : Traced (State σ)}
    (h : t.world.cache.Explained) : (c.runAll rs t).2.world.cache.Explained := by
  induction rs generalizing t with
  | nil => exact h
  | cons r rest ih => exact ih (promote_explained h)

/-- Whatever was promoted, no verdict is remembered that is not explained. -/
theorem after_explained (c : Controller σ) (w : σ) (rs : List Request) :
    (c.after w rs).world.cache.Explained := by
  have hempty : Cache.Explained .empty := by
    intro digest policy v hget
    cases hget
  exact runAll_explained hempty

/-- What is known of a signature when it is looked at: the verdict that is remembered, or else what
    the verifier answers. -/
def Look.finding (c : Controller σ) (l : Look σ) : Except Failure Signature.Verdict :=
  match l.start.world.cache.get? l.artifact.digest l.target.signature.policy with
  | some v => .ok v
  | none => (c.callVerifier l.artifact l.target.signature.policy l.start.world).1

/-- Where signatures are enforced, a finding that does not pass refuses the artifact. -/
theorem refused_of_finding {r : Request} {t : Traced (State σ)} {l : Look σ} {failure : Failure}
    (hlook : c.look? r t = some l) (henforce : l.enforcement = .enforce)
    (hfailure : (l.finding c).bind Verdict.require = .error failure) :
    ∃ reason, ((c.promote r).outcome t).1 = .error (refusal l.artifact reason) := by
  have hheeds := heeds_of_look hlook
  have hchecked := checked_checkSignature c l.artifact l.target l.start
  unfold Look.finding at hfailure
  generalize ((c.checkSignature l.artifact l.target).outcome l.start).1 = found
    at hheeds hchecked
  generalize ((c.checkSignature l.artifact l.target).outcome l.start).2.world = s' at hchecked
  cases hchecked with
  | skipped hoff _ => cases henforce.symm.trans hoff
  | remembered _ hget hpasses =>
      rw [hget] at hfailure
      have hpassed := Verdict.require_of_isValid (hpasses henforce)
      cases hpassed.symm.trans hfailure
  | recalled _ _ _ => exact ⟨_, hheeds⟩
  | verified _ hget hcall hvalid =>
      rw [hget] at hfailure
      simp only [hcall] at hfailure
      have hpassed := Verdict.require_of_isValid hvalid
      cases hpassed.symm.trans hfailure
  | tolerated hwarn _ _ _ _ => cases henforce.symm.trans hwarn
  | rejected _ _ _ _ => exact ⟨_, hheeds⟩

/-- What a promotion keeps to, by what its target demands. -/
structure Promises (c : Controller σ) (r : Request) (t : Traced (State σ)) : Prop where
  /-- Where nobody looks, nothing is asked for and nothing is remembered, and the record says so,
      whatever is remembered already. -/
  off : ∀ target, c.pipeline.environment? r.target = some target →
    target.signature.enforcement = .off →
    let after := ((c.promote r).outcome t).2
    c.inquiries r t = [] ∧ after.world.verifierBuilt = t.world.verifierBuilt ∧
      after.world.cache = t.world.cache ∧
      ∀ record, ((c.promote r).outcome t).1 = .ok record → record.signatureVerified = false ∧
        ∃ now, record.verification = .unsigned disabledReason now
  /-- Where signatures are only asked for, none refuses a promotion, and the record says what was
      found. -/
  warn : ∀ target, c.pipeline.environment? r.target = some target →
    target.signature.enforcement = .warn →
    Unrefused ((c.promote r).outcome t).1 ∧
      ∀ record, ((c.promote r).outcome t).1 = .ok record → record.verification.Explained
  /-- Where signatures are enforced, a record says that there is a valid one. -/
  enforce : ∀ target, c.pipeline.environment? r.target = some target →
    target.signature.enforcement = .enforce →
    (∀ record, ((c.promote r).outcome t).1 = .ok record → record.verification.status = .valid) ∧
      ∀ l failure, c.look? r t = some l → (l.finding c).bind Verdict.require = .error failure →
        ∃ reason, ((c.promote r).outcome t).1 = .error (refusal l.artifact reason)
  /-- A promotion that is refused for a signature names the artifact that it looked at, and has
      written nothing. -/
  refusals : ∀ label reason,
    ((c.promote r).outcome t).1 = .error (.signatureRejected label reason) →
    ∃ l, c.look? r t = some l ∧ l.enforcement = .enforce ∧ l.artifact.registry = c.registryUri ∧
      l.artifact.tag = r.tag ∧ label = l.artifact.label ∧
      ∀ note ∈ c.notes r t, note.isInquiry = true

/-- Without a look a promotion fails, and not for a signature, so there is nothing to break. -/
theorem promises_of_no_look {r : Request} {t : Traced (State σ)} (h : c.look? r t = none) :
    c.Promises r t := by
  rcases notes_of_no_look h with ⟨hnotes, hbuilt, hcache⟩
  rcases look?_eq_none h with ⟨e, t', hfailed, -⟩
  have hno : ∀ record, ((c.promote r).outcome t).1 ≠ .ok record := by
    intro record hok
    rw [hfailed] at hok
    cases hok
  have hinquiries : c.inquiries r t = [] := by
    unfold inquiries
    rw [hnotes]
    rfl
  have hunrefused := unrefused_of_no_look h
  exact {
    off := fun _ _ _ => ⟨hinquiries, hbuilt, hcache, fun record hok => absurd hok (hno record)⟩
    warn := fun _ _ _ => ⟨hunrefused, fun record hok => absurd hok (hno record)⟩
    enforce := fun _ _ _ =>
      ⟨fun record hok => absurd hok (hno record), fun _ _ hsome => nomatch h.symm.trans hsome⟩
    refusals := fun label reason hrefused => absurd hrefused (hunrefused label reason) }

/-- With a look it keeps what the look does, if all that is remembered is explained. -/
theorem promises_of_look {r : Request} {t : Traced (State σ)} {l : Look σ}
    (hexplained : t.world.cache.Explained) (hlook : c.look? r t = some l) : c.Promises r t := by
  rcases looked_promote hlook with ⟨found, hlooked, hheeds, hunwritten⟩
  rcases look?_eq_some hlook with ⟨_, _, -, htarget, hresolve, -⟩
  have hsame : ∀ target, c.pipeline.environment? r.target = some target → target = l.target := by
    intro target h
    rw [htarget] at h
    exact (Option.some.inj h).symm
  refine ⟨?off, ?warn, ?enforce, ?refusals⟩
  case off =>
    intro target h hoff
    cases hsame target h
    rcases hlooked.off hoff with ⟨hnothing, hbuilt, hcache, now, rfl⟩
    refine ⟨hnothing, hbuilt, hcache, fun record hok => ?_⟩
    rcases hheeds.2 record hok with ⟨hverification, hverified⟩
    exact ⟨hverified, now, hverification⟩
  case warn =>
    intro target h hwarn
    cases hsame target h
    rcases hlooked.warn hwarn hexplained with ⟨v, rfl, hv⟩
    refine ⟨hheeds.1, fun record hok => ?_⟩
    rw [(hheeds.2 record hok).1]
    exact hv
  case enforce =>
    intro target h henforce
    cases hsame target h
    refine ⟨fun record hok => ?_, fun l' failure hl' hfailure => ?_⟩
    · cases found with
      | error e =>
          rw [hheeds] at hok
          cases hok
      | ok v =>
          rw [(hheeds.2 record hok).1]
          exact of_decide_eq_true (hlooked.enforce henforce)
    · cases hlook.symm.trans hl'
      exact refused_of_finding hlook henforce hfailure
  case refusals =>
    intro label reason hrefused
    cases found with
    | ok v => exact absurd hrefused (hheeds.1 label reason)
    | error e =>
        rcases hlooked.eq_refusal with ⟨henforce, reason', rfl⟩
        rcases resolve_eq_ok hresolve with ⟨digest, _, -, hartifact, -⟩
        cases hheeds.symm.trans hrefused
        refine ⟨l, hlook, henforce, congrArg Artifact.registry hartifact,
          congrArg Artifact.tag hartifact, rfl, fun note hin => ?_⟩
        rw [hunwritten _ rfl] at hin
        exact (List.mem_filter.mp hin).2

/-- After any run of a new controller, whatever its collaborators answer, the next promotion keeps
    to what its target demands. -/
theorem after_promises (c : Controller σ) (w : σ) (rs : List Request) (r : Request) :
    c.Promises r (c.after w rs) := by
  cases hlook : c.look? r (c.after w rs) with
  | none => exact promises_of_no_look hlook
  | some l => exact promises_of_look (after_explained c w rs) hlook

end Controller

end Promotion
