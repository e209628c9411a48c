import Promotion.Controller
import Promotion.Proofs.Gate

/-!
# Controllers Whose Collaborators Agree

Two controllers with one pipeline, asking collaborators that answer both alike.

What may differ between the answers is what no check reads: the time, the
identifiers, how long a gate took and when a signature was verified. And one of
the two may ask its gates for a dry run and the other for a promotion, if the
gates do not care. `Alike` says so of all collaborators at once, for some
relation of the two worlds.

Then the two assessments fail alike, or make records that differ in nothing but
that. The relation of the two states is left open as far as that goes: it has to
follow the worlds, and the look at a signature, which is the only step that
reads or writes anything else, has to agree under it. For two controllers that
remember the same verdicts it does.

## Main definitions

* `Record.bare`: What is left of a record without what no check reads.
* `Record.timeless`: What is left of it without identifier, times and durations.
* `Collaborators.Alike`: Collaborators that answer alike.
* `Environment.asksNewest`: An environment for which the newest promotion is asked for.
* `Collaborators.AskAlike`: Those that do so before the writes, but for the signature.
* `State.Follows`: A relation of states that follows the worlds.
* `State.Alike`: Two controllers that remember the same.

## Theorems

* `Collaborators.alike_self`: Collaborators answer like themselves.
* `assess_agree`: Assessments agree if the looks at the signature do.
* `checkSignature_agree`: The looks agree if the same is remembered.
* `assess_agree_of_alike`: And so do the assessments.
-/

namespace Promotion

variable {σ τ ε α β : Type}

/-- A verdict without its date. -/
def Signature.Verdict.undated (v : Verdict) : Verdict :=
  { v with verifiedAt := .epoch }

/-- Whether a verdict passes, and why it does not, has nothing to do with its date. -/
theorem Signature.Verdict.eq_of_undated {v v' : Verdict} (h : v.undated = v'.undated) :
    v.status = v'.status ∧ v.isValid = v'.isValid ∧ v.reason = v'.reason := by
  simp only [undated, Verdict.mk.injEq] at h
  rcases h with ⟨hstatus, -, -, -, hreason, -⟩
  exact ⟨hstatus, by rw [isValid, isValid, hstatus], hreason⟩

/-- The same verdicts are remembered, but for their dates. -/
def Signature.Cache.Alike (cache cache' : Cache) : Prop :=
  ∀ digest policy,
    (cache.get? digest policy).map Verdict.undated = (cache'.get? digest policy).map Verdict.undated

theorem Signature.Cache.Alike.insert {cache cache' : Cache} (h : cache.Alike cache')
    {v v' : Verdict} (hv : v.undated = v'.undated) (digest : Digest) (policy : Policy) :
    Alike (Table.insert cache (digest, policy) v) (Table.insert cache' (digest, policy) v') := by
  intro digest' policy'
  unfold get?
  rw [Table.find?_insert, Table.find?_insert]
  split
  · exact congrArg some hv
  · exact h digest' policy'

/-- A verdict that is found in one of the caches is found in the other, and else it is looked for. -/
theorem Signature.Cache.Alike.getOrTry_agree {cache cache' : Cache} (h : cache.Alike cache')
    {S : σ → τ → Prop} {find : Action σ ε Verdict} {find' : Action τ ε Verdict}
    (hfind : find.Agree S (InvImage Eq Verdict.undated) find') (digest : Digest)
    (policy : Policy) :
    (cache.getOrTry digest policy find).Agree S
      (fun found found' => found.1.undated = found'.1.undated ∧ found.2.Alike found'.2)
      (cache'.getOrTry digest policy find') := by
  unfold getOrTry
  have hget := h digest policy
  revert hget
  rcases cache.get? digest policy with _ | v <;> rcases cache'.get? digest policy with _ | v'
  · exact fun _ => .bind hfind fun _ _ hv => .pure ⟨hv, h.insert hv digest policy⟩
  · exact nofun
  · exact nofun
  · exact fun hget => .pure ⟨Option.some.inj hget, h⟩

/-- What is left of a record without its identifier, whether it was meant, and all times. -/
def Record.bare (r : Record) : Record :=
  { r with
    id := default
    dryRun := false
    gateResults := r.gateResults.map Gate.Result.untimed
    verification := r.verification.undated
    timestamp := .epoch }

/-- A record without its identifier, times and durations. -/
def Record.timeless (r : Record) : Record :=
  { r.bare with dryRun := r.dryRun }

/-- Records that differ in nothing that a check reads differ in nothing but times and the like, if
    both are meant or neither is. -/
theorem Record.timeless_eq {r r' : Record} (hbare : r.bare = r'.bare)
    (hdryRun : r.dryRun = r'.dryRun) : r.timeless = r'.timeless := by
  rw [timeless, timeless, hbare, hdryRun]

theorem Record.bare_eq {r r' : Record} (h : r.timeless = r'.timeless) : r.bare = r'.bare := by
  have hbare : ∀ r : Record, { r.timeless with dryRun := false } = r.bare := fun _ => rfl
  rw [← hbare, h, hbare]

/-- Collaborators of two worlds that answer alike. Gates do so whether or not they are told that a
    run is dry. -/
structure Collaborators.Alike (R : σ → τ → Prop) (k : Collaborators σ) (k' : Collaborators τ) :
    Prop where
  resolve : ∀ uri tag, Agrees R (SameEnd Eq) (k.registry.resolve uri tag)
    (k'.registry.resolve uri tag)
  fetch : ∀ artifact, Agrees R (SameEnd Eq) (k.registry.fetch artifact)
    (k'.registry.fetch artifact)
  gates : ∀ (gate : Gate) artifact environment dryRun dryRun',
    Agrees R (Gate.Attempt.Alike gate.timeoutSeconds)
      (k.gates gate.name ⟨artifact, environment, dryRun⟩)
      (k'.gates gate.name ⟨artifact, environment, dryRun'⟩)
  build : Agrees R (SameEnd Eq) k.verifier.build k'.verifier.build
  verify : ∀ artifact content policy, Agrees R (SameEnd (InvImage Eq Signature.Verdict.undated))
    (k.verifier.verify artifact content policy) (k'.verifier.verify artifact content policy)
  query : ∀ question, Agrees R (SameEnd (InvImage Eq (List.map Record.bare)))
    (k.audit.query question) (k'.audit.query question)
  clock : Agrees R (fun _ _ => True) k.clock k'.clock
  freshId : Agrees R (fun _ _ => True) k.freshId k'.freshId

/-- Collaborators answer like themselves, if no gate cares whether a run is dry. -/
theorem Collaborators.alike_self {k : Collaborators σ}
    (hgates : ∀ name artifact environment dryRun dryRun',
      k.gates name ⟨artifact, environment, dryRun⟩ = k.gates name ⟨artifact, environment, dryRun'⟩) :
    k.Alike Eq k where
  resolve _ _ := .of_eq (.of_eq fun _ => rfl) _
  fetch _ := .of_eq (.of_eq fun _ => rfl) _
  gates gate artifact environment dryRun dryRun' := by
    rw [hgates gate.name artifact environment dryRun dryRun']
    have hsame : ∀ r, InvImage Eq Gate.Result.untimed r r := fun _ => rfl
    exact .of_eq (fun attempt => ⟨.of_eq hsame _, fun _ _ => Iff.rfl⟩) _
  build := .of_eq (.of_eq fun _ => rfl) _
  verify _ _ _ := .of_eq (.of_eq fun _ => rfl) _
  query _ := .of_eq (.of_eq fun _ => rfl) _
  clock := .of_eq (fun _ => trivial) _
  freshId := .of_eq (fun _ => trivial) _

/-- Who may promote into the environment depends on the newest promotion into another one. -/
def Environment.asksNewest (e : Environment) : Bool :=
  e.authorization.any Authorization.separationOfDuties

/-- It does for the environment of a name. -/
def Pipeline.asksNewest (p : Pipeline) (name : String) : Bool :=
  (p.environment? name).any Environment.asksNewest

/-- Collaborators of two worlds that answer alike whatever is asked before the writes, but for the
    signature. The gates of either world are told whether its run is dry, and the newest promotion
    may be asked for or not. -/
structure Collaborators.AskAlike (asks dryRun dryRun' : Bool) (R : σ → τ → Prop)
    (k : Collaborators σ) (k' : Collaborators τ) : Prop where
  resolve : ∀ uri tag, Agrees R (SameEnd Eq) (k.registry.resolve uri tag)
    (k'.registry.resolve uri tag)
  gates : ∀ (gate : Gate) artifact environment, Agrees R (Gate.Attempt.Alike gate.timeoutSeconds)
    (k.gates gate.name ⟨artifact, environment, dryRun⟩)
    (k'.gates gate.name ⟨artifact, environment, dryRun'⟩)
  /-- Of the newest promotion only the operator matters. -/
  newest : asks = true → ∀ tag environment,
    Agrees R (SameEnd (InvImage Eq (Option.map Record.operator)))
      (k.audit.latestInto tag environment) (k'.audit.latestInto tag environment)
  clock : Agrees R (fun _ _ => True) k.clock k'.clock
  freshId : Agrees R (fun _ _ => True) k.freshId k'.freshId

/-- Collaborators that answer alike do so before the writes. -/
theorem Collaborators.Alike.asks {R : σ → τ → Prop} {k : Collaborators σ} {k' : Collaborators τ}
    (h : k.Alike R k') (asks dryRun dryRun' : Bool) : k.AskAlike asks dryRun dryRun' R k' where
  resolve := h.resolve
  gates gate artifact environment := h.gates gate artifact environment dryRun dryRun'
  newest _ tag environment w w' hw := by
    rcases h.query (.latestInto tag environment) w w' hw with ⟨hend, hw⟩
    refine ⟨hend.map fun {records records'} hrecords => ?_, hw⟩
    have hoperators := congrArg (List.map Record.operator) hrecords
    rw [List.map_map, List.map_map] at hoperators
    have hhead := congrArg List.head? hoperators
    rwa [List.head?_map, List.head?_map] at hhead
  clock := h.clock
  freshId := h.freshId

namespace Controller

/-- A relation of states that follows a relation of worlds. -/
structure State.Follows (R : σ → τ → Prop) (S : State σ → State τ → Prop) : Prop where
  worlds : ∀ {s s'}, S s s' → R s.world s'.world
  step : ∀ {s s' w w'}, S s s' → R w w' → S { s with world := w } { s' with world := w' }

section

variable {R : σ → τ → Prop} {S : State σ → State τ → Prop} {V : α → β → Prop}
  (hS : State.Follows R S)

include hS

theorem ask_agree {call : Call σ ε α} {call' : Call τ ε β} (h : Agrees R (SameEnd V) call call') :
    (ask call).Agree S V (ask call') :=
  .perform fun s s' hs => by
    rcases h s.world s'.world (hS.worlds hs) with ⟨hend, hw⟩
    exact ⟨hend, hS.step hs hw⟩

theorem tell_agree {step : σ → α × σ} {step' : τ → β × τ} (h : Agrees R V step step') :
    (tell step : Action (State σ) ε α).Agree S V (tell step' : Action (State τ) ε β) :=
  .ofWorld fun s s' hs => by
    rcases h s.world s'.world (hS.worlds hs) with ⟨hx, hw⟩
    exact ⟨hx, hS.step hs hw⟩

theorem inWorld_agree {r : Run σ α} {r' : Run τ β} (h : r.Agree R V r') :
    (inWorld r).Agree S V (inWorld r') := by
  intro t t' hs
  rcases h ⟨t.world.world, t.log⟩ ⟨t'.world.world, t'.log⟩ (hS.worlds hs) with ⟨hx, hw⟩
  exact ⟨hx, hS.step hs hw⟩

variable {pipeline : Pipeline} {uri : String} {k : Collaborators σ} {k' : Collaborators τ}
  {asks dryRun dryRun' : Bool} (h : k.AskAlike asks dryRun dryRun' R k')

include h

theorem resolve_agree (tag : String) :
    (resolve ⟨pipeline, uri, k⟩ tag).Agree S Eq (resolve ⟨pipeline, uri, k'⟩ tag) := by
  refine .bind (.observe (ask_agree hS (h.resolve uri tag))) fun answer answer' hend => ?_
  cases hend with
  | error e => cases e <;> exact .throw _
  | ok hdigest => exact .pure (by rw [hdigest])

omit hS in
/-- Whoever is let in by the one is let in by the other, and the refusals are the same. -/
theorem authorize_agrees (o : Operator) (tag source : String) {target : Environment}
    (hasks : target.asksNewest = true → asks = true) :
    Agrees R (SameEnd Eq) (authorize k.audit o tag source target)
      (authorize k'.audit o tag source target) := by
  intro w w' hw
  unfold authorize
  cases ha : target.authorization with
  | none => exact ⟨.ok rfl, hw⟩
  | some a =>
      simp only
      by_cases hout : a.shutsOut o = true
      · rw [if_pos hout, if_pos hout]
        exact ⟨.error _, hw⟩
      rw [if_neg hout, if_neg hout]
      by_cases hduty : a.separationOfDuties = true
      · rw [if_pos hduty, if_pos hduty]
        have hneeded : target.asksNewest = true := by
          rw [Environment.asksNewest, ha]
          exact hduty
        rcases h.newest (hasks hneeded) tag source w w' hw with ⟨hend, hw⟩
        revert hend hw
        rcases k.audit.latestInto tag source w with ⟨answer, w₁⟩
        rcases k'.audit.latestInto tag source w' with ⟨answer', w₁'⟩
        intro hend hw
        cases hend with
        | error e => exact ⟨.error _, hw⟩
        | @ok previous previous' hsame =>
            rcases previous with _ | previous <;> rcases previous' with _ | previous'
            · exact ⟨.ok rfl, hw⟩
            · cases hsame
            · cases hsame
            · have hoperator : previous.operator = previous'.operator := Option.some.inj hsame
              simp only [hoperator]
              split
              · exact ⟨.error _, hw⟩
              · exact ⟨.ok rfl, hw⟩
      · rw [if_neg hduty, if_neg hduty]
        exact ⟨.ok rfl, hw⟩

/-- Two assessments agree if their looks at the signature do. The records differ in what no check
    reads, and in whether they are meant. -/
theorem assess_agree (r : Request) (hasks : pipeline.asksNewest r.target = true → asks = true)
    (hcheck : ∀ artifact target,
      (checkSignature ⟨pipeline, uri, k⟩ artifact target).Agree S
        (InvImage Eq Signature.Verdict.undated)
        (checkSignature ⟨pipeline, uri, k'⟩ artifact target)) :
    (assess ⟨pipeline, uri, k⟩ { r with dryRun }).Agree S
      (fun found found' => found.1 = found'.1 ∧ found.2.bare = found'.2.bare)
      (assess ⟨pipeline, uri, k'⟩ { r with dryRun := dryRun' }) := by
  unfold assess
  cases pipeline.move r.source r.target with
  | error refusal => exact .throw _
  | ok places =>
      cases htarget : pipeline.environment? r.target with
      | none => exact .throw _
      | some target =>
          have hasks : target.asksNewest = true → asks = true := by
            rwa [Pipeline.asksNewest, htarget] at hasks
          refine .bind (resolve_agree hS h r.tag) ?_
          rintro artifact _ rfl
          refine .bind (.lift (inWorld_agree hS (Gate.runList_agree fun gate =>
            h.gates gate artifact target))) fun gateResults gateResults' hgates => ?_
          refine .bind (hcheck artifact target) fun verification verification' hverified => ?_
          refine .bind (ask_agree hS (authorize_agrees h _ _ _ hasks)) fun _ _ _ => ?_
          refine .bind (tell_agree hS h.freshId) fun id id' _ => ?_
          refine .bind (tell_agree hS h.clock) fun timestamp timestamp' _ => .pure ⟨rfl, ?_⟩
          rcases Signature.Verdict.eq_of_undated hverified with ⟨-, hvalid, -⟩
          simp only [InvImage] at hgates hverified
          simp only [Record.bare, hgates, hverified, hvalid]

end

/-- Two controllers in related worlds that have built a verifier or not, and remember the same
    verdicts. -/
structure State.Alike (R : σ → τ → Prop) (s : State σ) (s' : State τ) : Prop where
  world : R s.world s'.world
  built : s.verifierBuilt = s'.verifierBuilt
  cache : s.cache.Alike s'.cache

variable {R : σ → τ → Prop}

theorem State.Alike.follows : State.Follows R (State.Alike R) where
  worlds h := h.world
  step h hw := ⟨hw, h.built, h.cache⟩

variable {pipeline : Pipeline} {uri : String} {k : Collaborators σ} {k' : Collaborators τ}
  (h : k.Alike R k')

include h

theorem clock_agrees :
    Agrees (State.Alike R) (fun _ _ => True) (clock ⟨pipeline, uri, k⟩)
      (clock ⟨pipeline, uri, k'⟩) := by
  intro s s' hs
  exact ⟨trivial, (h.clock s.world s'.world hs.world).2, hs.built, hs.cache⟩

theorem demand_agrees {s : State σ} {s' : State τ} (hs : State.Alike R s s') :
    SameEnd Eq (Signature.demand k.verifier.build s.verifierBuilt s.world).1
        (Signature.demand k'.verifier.build s'.verifierBuilt s'.world).1 ∧
      (Signature.demand k.verifier.build s.verifierBuilt s.world).2.1 =
        (Signature.demand k'.verifier.build s'.verifierBuilt s'.world).2.1 ∧
      R (Signature.demand k.verifier.build s.verifierBuilt s.world).2.2
        (Signature.demand k'.verifier.build s'.verifierBuilt s'.world).2.2 := by
  unfold Signature.demand
  rw [hs.built]
  by_cases hbuilt : s'.verifierBuilt = true
  · rw [if_pos hbuilt, if_pos hbuilt]
    exact ⟨.ok rfl, rfl, hs.world⟩
  · rw [if_neg hbuilt, if_neg hbuilt]
    have hbuild := h.build s.world s'.world hs.world
    revert hbuild
    rcases k.verifier.build s.world with ⟨answer, w⟩
    rcases k'.verifier.build s'.world with ⟨answer', w'⟩
    rintro ⟨hend, hw⟩
    cases hend with
    | error e => exact ⟨.error e, rfl, hw⟩
    | ok _ => exact ⟨.ok rfl, rfl, hw⟩

theorem callVerifier_agrees (artifact : Artifact) (policy : Signature.Policy) :
    Agrees (State.Alike R) (SameEnd (InvImage Eq Signature.Verdict.undated))
      (callVerifier ⟨pipeline, uri, k⟩ artifact policy)
      (callVerifier ⟨pipeline, uri, k'⟩ artifact policy) := by
  intro s s' hs
  have hdemand := demand_agrees h hs
  revert hdemand
  simp only [callVerifier]
  rcases Signature.demand k.verifier.build s.verifierBuilt s.world with ⟨ready, built, w⟩
  rcases Signature.demand k'.verifier.build s'.verifierBuilt s'.world with ⟨ready', built', w'⟩
  rintro ⟨hend, rfl, hw⟩
  -- First there is a verifier or not, then a content or not, and only then anything is verified.
  rcases hend with e | @⟨⟨⟩, ⟨⟩, -⟩
  · exact ⟨.error e, hw, rfl, hs.cache⟩
  simp only
  have hfetch := h.fetch artifact w w' hw
  revert hfetch
  rcases k.registry.fetch artifact w with ⟨content, w₁⟩
  rcases k'.registry.fetch artifact w' with ⟨content', w₁'⟩
  rintro ⟨hend, hw₁⟩
  rcases hend with e | @⟨content, _, ⟨⟩⟩
  · exact ⟨.error _, hw₁, rfl, hs.cache⟩
  rcases h.verify artifact content policy w₁ w₁' hw₁ with ⟨hverdict, hw₂⟩
  exact ⟨hverdict, hw₂, rfl, hs.cache⟩

theorem skip_agree (artifact : Artifact) :
    (Signature.skip (clock ⟨pipeline, uri, k⟩) artifact).Agree (State.Alike R)
      (InvImage Eq Signature.Verdict.undated)
      (Signature.skip (clock ⟨pipeline, uri, k'⟩) artifact) :=
  .bind (.emit _ _) fun _ _ _ => .bind (.ofWorld (clock_agrees h)) fun _ _ _ => .pure rfl

theorem tolerate_agree (artifact : Artifact) (failure : Signature.Failure) :
    (Signature.tolerate (clock ⟨pipeline, uri, k⟩) artifact failure).Agree (State.Alike R)
      (InvImage Eq Signature.Verdict.undated)
      (Signature.tolerate (clock ⟨pipeline, uri, k'⟩) artifact failure) :=
  .bind (.emit _ _) fun _ _ _ => .bind (.ofWorld (clock_agrees h)) fun _ _ _ => .pure rfl

theorem judge_agree (enforcement : Signature.Enforcement) (artifact : Artifact)
    {answer answer' : Except Signature.Failure Signature.Verdict}
    (hend : SameEnd (InvImage Eq Signature.Verdict.undated) answer answer') :
    (Signature.judge (clock ⟨pipeline, uri, k⟩) enforcement artifact answer).Agree (State.Alike R)
      (InvImage Eq Signature.Verdict.undated)
      (Signature.judge (clock ⟨pipeline, uri, k'⟩) enforcement artifact answer') := by
  -- What passes, and why something does not, are read off everything but the date.
  have hrequire : SameEnd (InvImage Eq Signature.Verdict.undated)
      (answer.bind Signature.Verdict.require) (answer'.bind Signature.Verdict.require) := by
    cases hend with
    | error e => exact .error e
    | @ok v v' hv =>
        rcases Signature.Verdict.eq_of_undated hv with ⟨hstatus, -, hreason⟩
        simp only [Except.bind, Signature.Verdict.require, hstatus, hreason]
        cases v'.status with
        | valid => exact .ok hv
        | invalid => exact .error _
        | unsigned => exact .error _
  unfold Signature.judge
  revert hrequire
  generalize answer.bind Signature.Verdict.require = verdict
  generalize answer'.bind Signature.Verdict.require = verdict'
  intro hrequire
  cases hrequire with
  | ok hv => exact .pure hv
  | error failure =>
      cases enforcement with
      | enforce => exact .bind (.emit _ _) fun _ _ _ => .throw _
      | warn => exact .lift (tolerate_agree h artifact failure)
      | off => exact .lift (tolerate_agree h artifact failure)

theorem apply_agree (enforcement : Signature.Enforcement) (artifact : Artifact)
    (policy : Signature.Policy) :
    (Signature.apply (clock ⟨pipeline, uri, k⟩) enforcement artifact
        (callVerifier ⟨pipeline, uri, k⟩ artifact policy)).Agree (State.Alike R)
      (InvImage Eq Signature.Verdict.undated)
      (Signature.apply (clock ⟨pipeline, uri, k'⟩) enforcement artifact
        (callVerifier ⟨pipeline, uri, k'⟩ artifact policy)) := by
  have hcall : Agrees (State.Alike R) (SameEnd (InvImage Eq Signature.Verdict.undated))
      (callVerifier ⟨pipeline, uri, k⟩ artifact policy)
      (callVerifier ⟨pipeline, uri, k'⟩ artifact policy) := callVerifier_agrees h artifact policy
  cases enforcement with
  | off => exact .lift (skip_agree h artifact)
  | warn => exact .bind (.ofWorld hcall) fun _ _ hend => judge_agree h .warn artifact hend
  | enforce => exact .bind (.ofWorld hcall) fun _ _ hend => judge_agree h .enforce artifact hend

/-- Two looks at a signature agree if the same is remembered. -/
theorem checkSignature_agree (artifact : Artifact) (target : Environment) :
    (checkSignature ⟨pipeline, uri, k⟩ artifact target).Agree (State.Alike R)
      (InvImage Eq Signature.Verdict.undated)
      (checkSignature ⟨pipeline, uri, k'⟩ artifact target) := by
  unfold checkSignature
  by_cases hoff : target.signature.enforcement = .off
  · simp only [hoff, if_true]
    exact .lift (skip_agree h artifact)
  simp only [hoff, if_false]
  refine .bind (.ofWorld fun s s' hs => ⟨hs.cache, hs⟩) fun cache cache' hcache => ?_
  refine .bind (hcache.getOrTry_agree (apply_agree h _ artifact _) _ _) fun found found' hfound => ?_
  rcases hfound with ⟨hv, hkept⟩
  refine .bind (.ofWorld fun s s' hs => ⟨rfl, hs.world, hs.built, hkept⟩) fun _ _ _ => ?_
  rcases Signature.Verdict.eq_of_undated hv with ⟨-, hvalid, hreason⟩
  simp only [hvalid, hreason]
  by_cases hrefused : target.signature.enforcement = .enforce ∧ ¬ found'.1.isValid = true
  · rw [if_pos hrefused, if_pos hrefused]
    exact .bind (V := Eq) (.throw _) fun _ _ _ => .pure hv
  · rw [if_neg hrefused, if_neg hrefused]
    exact .pure hv

variable (pipeline uri) in
/-- Two assessments agree if the same is remembered. -/
theorem assess_agree_of_alike (r : Request) (dryRun dryRun' : Bool) :
    (assess ⟨pipeline, uri, k⟩ { r with dryRun }).Agree (State.Alike R)
      (fun found found' => found.1 = found'.1 ∧ found.2.bare = found'.2.bare)
      (assess ⟨pipeline, uri, k'⟩ { r with dryRun := dryRun' }) :=
  assess_agree State.Alike.follows (h.asks true dryRun dryRun') r (fun _ => rfl)
    (checkSignature_agree h)

end Controller

end Promotion
