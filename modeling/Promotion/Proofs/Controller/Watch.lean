import Promotion.Proofs.Controller.Look
import Promotion.Proofs.Controller.Run

/-!
# What a Promotion Asks for

A promotion, with everything it asked a verifier or told a registry and a log.

The answer of a promotion does not show what it took to get there. `watched` is
the same controller in a world that takes notes, and the notes of a promotion
are what that world has taken down when it is over. `promote_watched` says that
nothing else is different.

Building a verifier, fetching a content and having it verified are inquiries,
and only a look makes them. `Attempt` is the one way they are made: the verifier
is obtained, the content is fetched, the verifier answers, and the first of
these to fail is the last to be asked for. `Looked` is every way a look can end,
told by the notes alone, and `looked_promote` finds the look of a promotion to
be one of them.

## Main definitions

* `Note`: A request with its answer, or a write.
* `watched`: A controller whose world takes notes.
* `notes`, `inquiries`, `notesAll`: The notes of a promotion and of a run.
* `Attempt`: One attempt to have an artifact verified.
* `Looked`: How a look ends, with what was asked for.

## Theorems

* `promote_watched`: Taking notes changes nothing.
* `looked_promote`: A promotion asks for what its look asks for.
* `notes_of_no_look`: A promotion without a look does nothing of note.
-/

namespace Promotion

open Signature

variable {σ α : Type}

/-- What is noted of a run: what was asked for to verify a signature, with the answer, and every
    write that a registry or a log was asked for. -/
inductive Note where
  | built (answer : Except Failure Unit)
  | fetched (artifact : Artifact) (answer : Except Registry.Error (List UInt8))
  | verified (artifact : Artifact) (content : List UInt8) (policy : Policy)
      (answer : Except Failure Signature.Verdict)
  | tagged (artifact : Artifact) (tag : String)
  | untagged (registry tag : String)
  | appended (record : Record)

namespace Note

/-- It was asked for to verify a signature. -/
def isInquiry : Note → Bool
  | built _ | fetched _ _ | verified _ _ _ _ => true
  | tagged _ _ | untagged _ _ | appended _ => false

/-- A step that nothing is noted of. -/
def unnoted (step : σ → α × σ) : σ × List Note → α × (σ × List Note) := fun w =>
  let (a, world) := step w.1
  (a, world, w.2)

/-- A step that is noted with its answer. -/
def noted (note : α → Note) (step : σ → α × σ) : σ × List Note → α × (σ × List Note) := fun w =>
  let (a, world) := step w.1
  (a, world, w.2 ++ [note a])

theorem unnoted_eq {step : σ → α × σ} {w w' : σ × List Note} {a : α}
    (h : unnoted step w = (a, w')) : w'.2 = w.2 :=
  (congrArg (fun r => r.2.2) h).symm

theorem noted_eq {note : α → Note} {step : σ → α × σ} {w w' : σ × List Note} {a : α}
    (h : noted note step w = (a, w')) : w'.2 = w.2 ++ [note a] := by
  have ha : (step w.1).1 = a := congrArg Prod.fst h
  rw [← ha]
  exact (congrArg (fun r => r.2.2) h).symm

end Note

open Note in
/-- The collaborators in a world that takes notes. -/
def Collaborators.watched (k : Collaborators σ) : Collaborators (σ × List Note) where
  registry :=
    { resolve := fun uri tag => unnoted (k.registry.resolve uri tag)
      fetch := fun artifact => noted (.fetched artifact) (k.registry.fetch artifact)
      createTag := fun artifact tag =>
        noted (fun _ => .tagged artifact tag) (k.registry.createTag artifact tag)
      removeTag := fun uri tag => noted (fun _ => .untagged uri tag) (k.registry.removeTag uri tag) }
  gates name subject := unnoted (k.gates name subject)
  verifier :=
    { build := noted .built k.verifier.build
      verify := fun artifact content policy =>
        noted (.verified artifact content policy) (k.verifier.verify artifact content policy) }
  audit :=
    { append := fun record => noted (fun _ => .appended record) (k.audit.append record)
      query := fun question => unnoted (k.audit.query question) }
  dispatch event payload w t :=
    let (outcome, inner) := k.dispatch event payload w ⟨t.world.1, t.log⟩
    (outcome, ⟨(inner.world, t.world.2), inner.log⟩)
  clock := unnoted k.clock
  freshId := unnoted k.freshId

theorem Collaborators.watched_mirrors (k : Collaborators σ) : k.watched.Mirrors Prod.fst k := by
  constructor <;> intros <;> intro w <;> rfl

namespace Controller

/-- The controller in a world that takes notes. -/
def watched (c : Controller σ) : Controller (σ × List Note) :=
  ⟨c.pipeline, c.registryUri, c.collaborators.watched⟩

/-- A state of which nothing has been noted yet. -/
def State.unwatched (s : State σ) : State (σ × List Note) := s.map (·, [])

/-- What is noted of a promotion. -/
def notes (c : Controller σ) (r : Request) (t : Traced (State σ)) : List Note :=
  ((c.watched.promote r).outcome (t.map State.unwatched)).2.world.world.2

/-- What a promotion asks for to verify a signature. -/
def inquiries (c : Controller σ) (r : Request) (t : Traced (State σ)) : List Note :=
  (c.notes r t).filter Note.isInquiry

/-- What is noted of a run. -/
def notesAll (c : Controller σ) : List Request → Traced (State σ) → List Note
  | [], _ => []
  | r :: rest, t => c.notes r t ++ notesAll c rest ((c.promote r).outcome t).2

theorem notesAll_append (c : Controller σ) (rs rs' : List Request) (t : Traced (State σ)) :
    c.notesAll (rs ++ rs') t = c.notesAll rs t ++ c.notesAll rs' (c.runAll rs t).2 := by
  induction rs generalizing t with
  | nil => rfl
  | cons r rest ih => simp only [List.cons_append, notesAll, runAll, ih, List.append_assoc]

/-- Taking notes changes nothing. -/
theorem promote_watched (c : Controller σ) (r : Request) (t : Traced (State σ)) :
    (c.promote r).outcome t =
      (((c.watched.promote r).outcome (t.map State.unwatched)).1,
        ((c.watched.promote r).outcome (t.map State.unwatched)).2.map (State.map Prod.fst)) :=
  promote_mirrors c.collaborators.watched_mirrors r (t.map State.unwatched)

/-- The controller that is watched comes to the same look. -/
theorem look?_watched (c : Controller σ) (r : Request) (t : Traced (State σ)) :
    c.look? r t =
      (c.watched.look? r (t.map State.unwatched)).map (Look.map (State.map Prod.fst)) := by
  have hmirrors : (watched c).collaborators.Mirrors Prod.fst c.collaborators :=
    c.collaborators.watched_mirrors
  exact look?_map (State.view_map Prod.fst) hmirrors r (t.map State.unwatched)

/-! ### What is asked for in a look -/

/-- How a verifier is obtained: it is there, or it is built. -/
def obtained (verifierBuilt : Bool) : List Note :=
  if verifierBuilt then [] else [.built (.ok ())]

/-- One attempt to have an artifact verified: what is asked for, what comes of it, and whether
    there is a verifier afterwards. -/
inductive Attempt (verifierBuilt : Bool) (artifact : Artifact) (policy : Policy) :
    List Note → Except Failure Signature.Verdict → Bool → Prop
  /-- There is no verifier. -/
  | unbuilt {failure : Failure} : verifierBuilt = false →
      Attempt verifierBuilt artifact policy [.built (.error failure)] (.error failure) false
  /-- There is no content. -/
  | unfetched (e : Registry.Error) :
      Attempt verifierBuilt artifact policy
        (obtained verifierBuilt ++ [.fetched artifact (.error e)]) (.error (.content e.message)) true
  /-- The verifier answers. -/
  | answered (content : List UInt8) (answer : Except Failure Signature.Verdict) :
      Attempt verifierBuilt artifact policy
        (obtained verifierBuilt ++
          [.fetched artifact (.ok content), .verified artifact content policy answer])
        answer true

/-- What a remembered verdict comes to where it is looked up. -/
def recollect (enforcement : Enforcement) (artifact : Artifact) (v : Signature.Verdict) :
    Except Error Signature.Verdict :=
  if enforcement = .enforce ∧ ¬ v.isValid then
    .error (refusal artifact (v.reason.getD "signature not valid"))
  else .ok v

/-- How a look at an artifact ends under a rule, with what is asked for, and what is remembered
    afterwards. -/
inductive Looked (verifierBuilt : Bool) (cache : Cache) (artifact : Artifact) (rule : Rule) :
    List Note → Except Error Signature.Verdict → Bool → Cache → Prop
  /-- Nobody looks. -/
  | skipped (now : Timestamp) : rule.enforcement = .off →
      Looked verifierBuilt cache artifact rule [] (.ok (.unsigned disabledReason now))
        verifierBuilt cache
  /-- The verdict is remembered. -/
  | remembered {v : Signature.Verdict} : rule.enforcement ≠ .off →
      cache.get? artifact.digest rule.policy = some v →
      Looked verifierBuilt cache artifact rule [] (recollect rule.enforcement artifact v)
        verifierBuilt cache
  /-- The verifier finds the signature valid. -/
  | verified {notes : List Note} {v : Signature.Verdict} {builtNow : Bool} :
      rule.enforcement ≠ .off → cache.get? artifact.digest rule.policy = none →
      Attempt verifierBuilt artifact rule.policy notes (.ok v) builtNow → v.isValid = true →
      Looked verifierBuilt cache artifact rule notes (.ok v) builtNow
        (cache.insert (artifact.digest, rule.policy) v)
  /-- There is a failure, and it is put down as a verdict. -/
  | tolerated {notes : List Note} {answer : Except Failure Signature.Verdict} {failure : Failure}
      {builtNow : Bool} (now : Timestamp) :
      rule.enforcement = .warn → cache.get? artifact.digest rule.policy = none →
      Attempt verifierBuilt artifact rule.policy notes answer builtNow →
      answer.bind Verdict.require = .error failure →
      Looked verifierBuilt cache artifact rule notes (.ok (.invalid failure.message now)) builtNow
        (cache.insert (artifact.digest, rule.policy) (.invalid failure.message now))
  /-- There is a failure, and it refuses the artifact. -/
  | rejected {notes : List Note} {answer : Except Failure Signature.Verdict} {failure : Failure}
      {builtNow : Bool} :
      rule.enforcement = .enforce → cache.get? artifact.digest rule.policy = none →
      Attempt verifierBuilt artifact rule.policy notes answer builtNow →
      answer.bind Verdict.require = .error failure →
      Looked verifierBuilt cache artifact rule notes (.error (refusal artifact failure.message))
        builtNow cache

variable {c : Controller σ}

/-- A call of the verifier is an attempt. -/
theorem attempt_of_called {artifact : Artifact} {policy : Policy} {s s' : State (σ × List Note)}
    {answer : Except Failure Signature.Verdict}
    (h : c.watched.Called artifact policy s (answer, s')) :
    s'.cache = s.cache ∧ ∃ asked, s'.world.2 = s.world.2 ++ asked ∧
      Attempt s.verifierBuilt artifact policy asked answer s'.verifierBuilt := by
  have hready : ∀ {w}, c.watched.Ready s w → w.2 = s.world.2 ++ obtained s.verifierBuilt := by
    intro w hw
    unfold obtained
    cases hw with
    | before hbuilt => simp only [hbuilt, if_true, List.append_nil]
    | now hnot hbuild =>
        rw [hnot]
        exact Note.noted_eq hbuild
  cases h with
  | unbuilt hnot hbuild =>
      refine ⟨rfl, _, Note.noted_eq hbuild, ?_⟩
      rw [hnot]
      exact .unbuilt rfl
  | unfetched hw hfetch =>
      refine ⟨rfl, _, ?_, .unfetched _⟩
      rw [← List.append_assoc, ← hready hw]
      exact Note.noted_eq hfetch
  | @answered _ _ _ content _ hw hfetch hverify =>
      refine ⟨rfl, _, ?_, .answered content answer⟩
      rw [← List.append_assoc, ← hready hw]
      have hfetched := Note.noted_eq hfetch
      have hverified := Note.noted_eq hverify
      rw [hverified, hfetched, List.append_assoc]
      rfl

/-- A look makes one attempt, or it asks for nothing. -/
theorem looked_of_checked {artifact : Artifact} {target : Environment}
    {s s' : State (σ × List Note)} {found : Except Error Signature.Verdict}
    (h : c.watched.Checked artifact target s (found, s')) :
    ∃ asked, s'.world.2 = s.world.2 ++ asked ∧
      Looked s.verifierBuilt s.cache artifact target.signature asked found s'.verifierBuilt
        s'.cache := by
  have hcalled : ∀ {answer s₁}, c.watched.callVerifier artifact target.signature.policy s =
      (answer, s₁) → c.watched.Called artifact target.signature.policy s (answer, s₁) := by
    intro answer s₁ hcall
    rw [← hcall]
    exact called_callVerifier c.watched artifact target.signature.policy s
  have hrecollect : ∀ {v : Signature.Verdict},
      (target.signature.enforcement = .enforce → v.isValid = true) →
      recollect target.signature.enforcement artifact v = .ok v := by
    intro v hpasses
    unfold recollect
    rw [if_neg fun hrefused => hrefused.2 (hpasses hrefused.1)]
  cases h with
  | skipped hoff hnow =>
      refine ⟨[], ?_, .skipped _ hoff⟩
      rw [List.append_nil]
      exact Note.unnoted_eq hnow
  | remembered hoff hget hpasses =>
      refine ⟨[], (List.append_nil _).symm, ?_⟩
      rw [← hrecollect hpasses]
      exact .remembered hoff hget
  | @recalled v henforce hget hinvalid =>
      refine ⟨[], (List.append_nil _).symm, ?_⟩
      have hrefused : recollect target.signature.enforcement artifact v =
          .error (refusal artifact (v.reason.getD "signature not valid")) := by
        unfold recollect
        rw [if_pos ⟨henforce, by rw [hinvalid]; exact Bool.false_ne_true⟩]
      rw [← hrefused]
      exact .remembered (by rw [henforce]; exact nofun) hget
  | verified hoff hget hcall hvalid =>
      rcases attempt_of_called (hcalled hcall) with ⟨-, asked, hnotes, hattempt⟩
      exact ⟨asked, hnotes, .verified hoff hget hattempt hvalid⟩
  | tolerated hwarn hget hcall hfailure hnow =>
      rcases attempt_of_called (hcalled hcall) with ⟨-, asked, hnotes, hattempt⟩
      refine ⟨asked, ?_, .tolerated _ hwarn hget hattempt hfailure⟩
      rw [← hnotes]
      exact Note.unnoted_eq hnow
  | rejected henforce hget hcall hfailure =>
      rcases attempt_of_called (hcalled hcall) with ⟨hcache, asked, hnotes, hattempt⟩
      refine ⟨asked, hnotes, ?_⟩
      rw [hcache]
      exact .rejected henforce hget hattempt hfailure

theorem Attempt.isInquiry {verifierBuilt builtNow : Bool} {artifact : Artifact} {policy : Policy}
    {asked : List Note} {answer : Except Failure Signature.Verdict}
    (h : Attempt verifierBuilt artifact policy asked answer builtNow) :
    ∀ note ∈ asked, note.isInquiry = true := by
  cases h with
  | unbuilt _ => simp [Note.isInquiry]
  | unfetched _ => cases verifierBuilt <;> simp [obtained, Note.isInquiry]
  | answered _ _ => cases verifierBuilt <;> simp [obtained, Note.isInquiry]

theorem Looked.isInquiry {verifierBuilt builtNow : Bool} {cache cacheNow : Cache}
    {artifact : Artifact} {rule : Rule} {asked : List Note}
    {found : Except Error Signature.Verdict}
    (h : Looked verifierBuilt cache artifact rule asked found builtNow cacheNow) :
    ∀ note ∈ asked, note.isInquiry = true := by
  cases h with
  | skipped _ _ => simp
  | remembered _ _ => simp
  | verified _ _ hattempt _ => exact hattempt.isInquiry
  | tolerated _ _ _ hattempt _ => exact hattempt.isInquiry
  | rejected _ _ hattempt _ => exact hattempt.isInquiry

/-! ### What is asked for in a promotion -/

/-- A state of which only so much is noted, with a given memory. -/
def Unasked (verifierBuilt : Bool) (cache : Cache) (asked : List Note)
    (s : State (σ × List Note)) : Prop :=
  s.world.2 = asked ∧ s.verifierBuilt = verifierBuilt ∧ s.cache = cache

/-- Nothing is noted of what is asked before the writes, but for the signature. -/
theorem unasked_asks (c : Controller σ) (verifierBuilt : Bool) (cache : Cache)
    (asked : List Note) : c.watched.Asks (Unasked verifierBuilt cache asked) where
  resolve _ _ h := h
  gates _ _ _ h := h
  query _ _ h := h
  clock _ h := h
  freshId _ h := h

/-- What was asked for to verify a signature, if nothing more of that is asked for. -/
def Asked (asked : List Note) (s : State (σ × List Note)) : Prop :=
  s.world.2.filter Note.isInquiry = asked

theorem asked_asks (c : Controller σ) (asked : List Note) : c.watched.Asks (Asked asked) where
  resolve _ _ h := h
  gates _ _ _ h := h
  query _ _ h := h
  clock _ h := h
  freshId _ h := h

/-- A write is noted, but it does not ask for anything. -/
theorem Asked.noted {asked : List Note} (note : α → Note) (hnote : ∀ a, (note a).isInquiry = false)
    (step : σ → α × σ) : Keeps (Asked asked) (Note.noted note step) := by
  intro s h
  have hnotes : (Note.noted note step s.world).2.2 = s.world.2 ++ [note (step s.world.1).1] := rfl
  unfold Asked at h ⊢
  rw [hnotes, List.filter_append, h, List.filter_cons_of_neg (by simp [hnote]), List.filter_nil,
    List.append_nil]

/-- Only the look of a promotion asks for anything to verify a signature. -/
theorem proceed_asked (c : Controller σ) (asked : List Note) (r : Request)
    (l : Look (σ × List Note)) (verification : Signature.Verdict) :
    (c.watched.proceed r l verification).Preserves (Asked asked) :=
  proceed_preserves (asked_asks c asked) (fun _ _ => .noted _ (fun _ => rfl) _)
    (fun _ => .noted _ (fun _ => rfl) _) (fun _ _ h => h) (fun _ => .noted _ (fun _ => rfl) _)
    r l verification

/-- A promotion asks for what its look asks for, remembers what that remembers, and heeds it. If
    the look ends the promotion, nothing was written. -/
theorem looked_promote {r : Request} {t : Traced (State σ)} {l : Look σ}
    (h : c.look? r t = some l) :
    ∃ found, Looked t.world.verifierBuilt t.world.cache l.artifact l.target.signature
        (c.inquiries r t) found ((c.promote r).outcome t).2.world.verifierBuilt
        ((c.promote r).outcome t).2.world.cache ∧
      Heeds found ((c.promote r).outcome t).1 ∧
      ∀ e, found = .error e → c.notes r t = c.inquiries r t := by
  have hsame := promote_watched c r t
  have hlooks := look?_watched c r t
  rw [h] at hlooks
  rcases hlook : c.watched.look? r (t.map State.unwatched) with _ | l'
  · rw [hlook] at hlooks
    cases hlooks
  rw [hlook] at hlooks
  cases hlooks
  -- Up to the look nothing of note is done, so its notes are the first.
  have hstart := look?_preserves (unasked_asks c t.world.verifierBuilt t.world.cache [])
    ⟨rfl, rfl, rfl⟩ hlook
  rcases hstart with ⟨hnotes, hbuilt, hcache⟩
  have houtcome := outcome_promote hlook
  have hheeds := heeds_of_look hlook
  have hchecked := checked_checkSignature c.watched l'.artifact l'.target l'.start
  rw [Action.outcome_bind] at houtcome
  rcases hcheck : (c.watched.checkSignature l'.artifact l'.target).outcome l'.start with
    ⟨found, t₁⟩
  rw [hcheck] at hchecked houtcome hheeds
  rcases looked_of_checked hchecked with ⟨asked, hasked, hlooked⟩
  rw [hnotes, List.nil_append] at hasked
  rw [hbuilt, hcache] at hlooked
  have hinquiries : t₁.world.world.2.filter Note.isInquiry = asked := by
    rw [hasked, List.filter_eq_self]
    exact hlooked.isInquiry
  cases found with
  | error e =>
      unfold inquiries notes
      simp only [hsame, houtcome, Traced.map_world]
      refine ⟨.error e, ?_, ?_, ?_⟩
      · rw [hinquiries]
        exact hlooked
      · rfl
      · intro _ _
        rw [hinquiries, hasked]
  | ok v =>
      -- What comes behind the look may write, but it asks for nothing more.
      have hkept := proceed_asked c asked r l' v t₁ hinquiries
      rcases proceed_memory c.watched r l' v t₁ with ⟨hbuiltNow, hcacheNow⟩
      unfold inquiries notes
      simp only [hsame, houtcome, Traced.map_world] at hheeds ⊢
      refine ⟨.ok v, ?_, hheeds, nofun⟩
      unfold Asked at hkept
      rw [hkept]
      simp only [State.map, hbuiltNow, hcacheNow]
      exact hlooked

/-- A promotion without a look does nothing of note, and remembers what it did. -/
theorem notes_of_no_look {r : Request} {t : Traced (State σ)} (h : c.look? r t = none) :
    c.notes r t = [] ∧
      ((c.promote r).outcome t).2.world.verifierBuilt = t.world.verifierBuilt ∧
      ((c.promote r).outcome t).2.world.cache = t.world.cache := by
  have hsame := promote_watched c r t
  have hlooks := look?_watched c r t
  rw [h, eq_comm, Option.map_eq_none_iff] at hlooks
  have hkept := preserves_of_no_look (unasked_asks c t.world.verifierBuilt t.world.cache [])
    ⟨rfl, rfl, rfl⟩ hlooks
  rw [hsame]
  exact hkept

end Controller

end Promotion
