import Promotion.Proofs.Controller.DryRun
import Promotion.Proofs.Controller.Forward
import Promotion.Proofs.World.Alike

/-!
# Remembering Makes No Difference

A controller that forgets its verdicts between promotions answers like one that
remembers them.

What is remembered depends on who asked first. Where signatures are only asked
for, a failure is kept as a verdict with the failure's text; where they are
enforced, it is not kept at all. The same text is then told by two ways: read
off the verdict that was kept, or off the verifier's answer. `ruling` is what a
look comes to whichever way it goes, as a function of the verifier's answer and
of nothing else. A look at any faithful memory comes to it, and leaves the memory
faithful.

So two controllers that have faithful memories agree about signatures, be one of
them empty. They agree about the rest as worlds that are alike do. Verifying once
more takes other readings of the clock, though, and separated duties are a matter
of time: the newest promotion of a tag is the one with the latest record.
`SameOrderAlong` is that both logs are in one order whenever that is asked. It is
left to whoever knows the clock: where it goes forward they are.

## Main definitions

* `Collaborators.examine`: Fetches an artifact's content and has it verified.
* `Collaborators.Settled`: What a verifier answers depends on digest and policy alone.
* `Signature.ruling`: What a look comes to.
* `State.Faithful`: A memory of what would be found again.
* `promoteAfresh`, `runAllAfresh`: Promotions that begin with nothing remembered.
* `SameOrderAlong`: Along two runs, both logs are in one order when that is asked.

## Theorems

* `checkSignature_settled`: A look at a faithful memory comes to the ruling.
* `checkSignature_of_empty`: With nothing remembered, a look has the artifact verified.
* `promote_afresh_agree`: A promotion comes to the same with or without a memory.
* `sameOrderAlong_of_forward`: With a clock that goes forward both logs are in one order.
* `runAll_afresh_agree`: So do any promotions in a row.
-/

namespace Promotion

variable {σ ε : Type}

namespace Signature

/-- What is found of a signature, by what building a verifier and asking it come to. -/
def sought (built : Except Failure Unit) (answer : Except Failure Verdict) :
    Except Failure Verdict :=
  (built.bind fun _ => answer).bind Verdict.require

/-- The verdict that stands for what was found where signatures are only asked for. -/
def recalled : Except Failure Verdict → Verdict
  | .ok v => v
  | .error failure => .invalid failure.message .epoch

/-- What a look comes to, but for dates. -/
def ruling (enforcement : Enforcement) (artifact : Artifact) (found : Except Failure Verdict) :
    Except Promotion.Error Verdict :=
  match enforcement with
  | .off => .ok (.unsigned disabledReason .epoch)
  | .warn => .ok (recalled found)
  | .enforce => found.mapError fun failure => refusal artifact failure.message

theorem Verdict.require_undated (v : Verdict) :
    v.undated.require = v.require.map Verdict.undated := by
  have hstatus : v.undated.status = v.status := rfl
  unfold require
  rw [hstatus]
  cases v.status <;> rfl

/-- Why an answer does not pass has nothing to do with its date. -/
theorem sought_eq {built : Except Failure Unit} {answer found : Except Failure Verdict}
    (h : found.map Verdict.undated = built.bind fun _ => answer) :
    sought built answer = (found.bind Verdict.require).map Verdict.undated := by
  rw [sought, ← h]
  cases found with
  | error failure => rfl
  | ok v => exact v.require_undated

/-- What passes is valid. -/
theorem isValid_of_sought {built : Except Failure Unit} {answer : Except Failure Verdict}
    {v : Verdict} (h : sought built answer = .ok v) : v.isValid = true :=
  (bind_require_eq_ok h).2

/-- A verdict that is remembered and valid is what was found. -/
theorem eq_ok_of_recalled {v : Verdict} {found : Except Failure Verdict}
    (h : v.undated = recalled found) (hvalid : v.isValid = true) : found = .ok v.undated := by
  have hstatus : v.undated.isValid = true := hvalid
  rw [h] at hstatus ⊢
  cases found with
  | ok u => rfl
  | error failure => cases hstatus

/-- A verdict that is remembered and not valid has the text of a failure for its reason. -/
theorem eq_error_of_recalled {v : Verdict} {found : Except Failure Verdict}
    (h : v.undated = recalled found) (hfound : ∀ {u}, found = .ok u → u.isValid = true)
    (hinvalid : v.isValid = false) :
    ∃ failure, found = .error failure ∧ v.reason = some failure.message := by
  have hstatus : v.undated.isValid = false := hinvalid
  have hreason : v.undated.reason = v.reason := rfl
  rw [h] at hstatus hreason
  cases found with
  | ok u => cases hstatus.symm.trans (hfound rfl)
  | error failure => exact ⟨failure, rfl, hreason.symm⟩

/-- Every verdict of a cache is what would be found again. -/
def Cache.Faithful (found : Digest → Policy → Except Failure Verdict) (cache : Cache) : Prop :=
  ∀ digest policy v, cache.get? digest policy = some v →
    v.undated = recalled (found digest policy)

namespace Cache.Faithful

variable {found : Digest → Policy → Except Failure Verdict}

theorem empty : Faithful found .empty := fun _ _ _ => nofun

theorem insert {cache : Cache} (h : cache.Faithful found) {digest : Digest} {policy : Policy}
    {v : Verdict} (hv : v.undated = recalled (found digest policy)) :
    Faithful found (Table.insert cache (digest, policy) v) := by
  intro digest' policy' v' hget
  unfold get? at hget
  rw [Table.find?_insert] at hget
  split at hget
  · rename_i hsame
    cases hsame
    cases hget
    exact hv
  · exact h digest' policy' v' hget

end Cache.Faithful

end Signature

open Signature

/-- Fetches an artifact's content and has it verified. -/
def Collaborators.examine (k : Collaborators σ) (artifact : Artifact) (policy : Policy) :
    Call σ Failure Verdict := fun w =>
  match k.registry.fetch artifact w with
  | (.error e, w) => (.error (.content e.message), w)
  | (.ok content, w) => k.verifier.verify artifact content policy w

/-- In some worlds building a verifier always comes to one thing, and what an examination comes to
    depends on digest and policy alone, but for its date. -/
structure Collaborators.Settled (k : Collaborators σ) (I : σ → Prop)
    (built : Except Failure Unit) (answer : Digest → Policy → Except Failure Verdict) : Prop where
  build : ∀ w, I w → (k.verifier.build w).1 = built
  examine : ∀ artifact policy w, I w →
    (k.examine artifact policy w).1.map Verdict.undated = answer artifact.digest policy

theorem Collaborators.Settled.mono {k : Collaborators σ} {I J : σ → Prop}
    {built : Except Failure Unit} {answer : Digest → Policy → Except Failure Verdict}
    (h : k.Settled I built answer) (hsub : ∀ w, J w → I w) : k.Settled J built answer where
  build w hw := h.build w (hsub w hw)
  examine artifact policy w hw := h.examine artifact policy w (hsub w hw)

namespace Controller

variable {c : Controller σ} {built : Except Failure Unit}
  {answer : Digest → Policy → Except Failure Verdict}

/-- A memory of what would be found again: of a verifier only if there can be one, and of verdicts
    that would be the same. -/
structure State.Faithful (built : Except Failure Unit)
    (answer : Digest → Policy → Except Failure Verdict) (s : State σ) : Prop where
  verifier : s.verifierBuilt = true → built = .ok ()
  cache : s.cache.Faithful fun digest policy => sought built (answer digest policy)

theorem State.Faithful.recalled {s : State σ} (h : s.Faithful built answer) {digest : Digest}
    {policy : Policy} {v : Verdict} (hget : s.cache.get? digest policy = some v) :
    v.undated = Signature.recalled (sought built (answer digest policy)) :=
  h.cache digest policy v hget

section

variable {I : σ → Prop} (hsettled : c.collaborators.Settled I built answer)
  (hsees : c.Sees fun s => I s.world) {s : State σ}

include hsettled hsees

/-- A world with a verifier is one in which building it comes to that. -/
theorem Ready.settled (hI : I s.world) (hs : s.Faithful built answer) {w : σ} (hw : c.Ready s w) :
    built = .ok () ∧ I w := by
  refine ⟨?_, hsees.ready hI hw⟩
  cases hw with
  | before hbuilt => exact hs.verifier hbuilt
  | now _ hb => rw [← hsettled.build s.world hI, hb]

/-- A call of the verifier comes to what is settled. -/
theorem callVerifier_settled {artifact : Artifact} {policy : Policy} (hI : I s.world)
    (hs : s.Faithful built answer) {s' : State σ} {found : Except Failure Verdict}
    (h : c.callVerifier artifact policy s = (found, s')) :
    found.map Verdict.undated = (built.bind fun _ => answer artifact.digest policy) ∧
      s'.Faithful built answer := by
  have hcalled := called_callVerifier c artifact policy s
  rw [h] at hcalled
  cases hcalled with
  | unbuilt hnot hb =>
      have hbuild := hsettled.build s.world hI
      rw [hb] at hbuild
      exact ⟨by rw [← hbuild]; rfl, hs.verifier, hs.cache⟩
  -- Once there is a verifier a call is an examination, whichever of the two steps ends it.
  | @unfetched w w₁ e hready hf =>
      rcases Ready.settled hsettled hsees hI hs hready with ⟨hbuilt, hw⟩
      have hexamine := hsettled.examine artifact policy w hw
      rw [Collaborators.examine, hf] at hexamine
      exact ⟨by rw [hbuilt]; exact hexamine, fun _ => hbuilt, hs.cache⟩
  | @answered w w₁ w₂ content _ hready hf hv =>
      rcases Ready.settled hsettled hsees hI hs hready with ⟨hbuilt, hw⟩
      have hexamine := hsettled.examine artifact policy w hw
      simp only [Collaborators.examine, hf, hv] at hexamine
      exact ⟨by rw [hbuilt]; exact hexamine, fun _ => hbuilt, hs.cache⟩

/-- Whether its answer passes, and why not, is what is found of the signature. -/
theorem sought_of_callVerifier {artifact : Artifact} {policy : Policy} (hI : I s.world)
    (hs : s.Faithful built answer) {s' : State σ} {found : Except Failure Verdict}
    (h : c.callVerifier artifact policy s = (found, s')) :
    sought built (answer artifact.digest policy) =
        (found.bind Verdict.require).map Verdict.undated ∧
      s'.Faithful built answer :=
  (callVerifier_settled hsettled hsees hI hs h).imp_left sought_eq

/-- A look at a faithful memory comes to the ruling, and the memory stays faithful. -/
theorem checkSignature_settled (artifact : Artifact) (target : Environment)
    {t : Traced (State σ)} (hI : I t.world.world)
    (hs : t.world.Faithful built answer) :
    ((c.checkSignature artifact target).outcome t).1.map Verdict.undated =
        ruling target.signature.enforcement artifact
          (sought built (answer artifact.digest target.signature.policy)) ∧
      ((c.checkSignature artifact target).outcome t).2.world.Faithful built answer := by
  have hchecked := checked_checkSignature c artifact target t
  generalize ((c.checkSignature artifact target).outcome t).2.world = s at hchecked ⊢
  generalize ((c.checkSignature artifact target).outcome t).1 = r at hchecked ⊢
  cases hchecked with
  | skipped hoff _ =>
      rw [hoff]
      exact ⟨rfl, hs.verifier, hs.cache⟩
  -- What is remembered passes or is refused as what was found when it was put there.
  | @remembered v hoff hget hvalid =>
      have hv := hs.recalled hget
      refine ⟨?_, hs⟩
      cases henforcement : target.signature.enforcement with
      | off => exact absurd henforcement hoff
      | warn => exact congrArg Except.ok hv
      | enforce =>
          rw [eq_ok_of_recalled hv (hvalid henforcement)]
          rfl
  | @recalled v henforce hget hinvalid =>
      rcases eq_error_of_recalled (hs.recalled hget) isValid_of_sought hinvalid with
        ⟨failure, hfound, hreason⟩
      rw [hfound, henforce, hreason]
      exact ⟨rfl, hs⟩
  -- What is found now is remembered as such, but for a failure that refuses the artifact.
  | @verified s₁ v hoff hget hcall hvalid =>
      rcases sought_of_callVerifier hsettled hsees hI hs hcall with ⟨hfound, hs₁⟩
      rw [Except.bind, Verdict.require_of_isValid hvalid] at hfound
      refine ⟨?_, hs₁.verifier, hs.cache.insert (by rw [hfound]; rfl)⟩
      rw [hfound]
      cases henforcement : target.signature.enforcement with
      | off => exact absurd henforcement hoff
      | warn => rfl
      | enforce => rfl
  | tolerated hwarn hget hcall hfails _ =>
      rcases sought_of_callVerifier hsettled hsees hI hs hcall with ⟨hfound, hs₁⟩
      rw [hfails] at hfound
      refine ⟨?_, hs₁.verifier, hs.cache.insert (by rw [hfound]; rfl)⟩
      rw [hfound, hwarn]
      rfl
  | rejected henforce hget hcall hfails =>
      rcases sought_of_callVerifier hsettled hsees hI hs hcall with ⟨hfound, hs₁⟩
      rw [hfails] at hfound
      refine ⟨?_, hs₁⟩
      rw [hfound, henforce]
      rfl

end

/-- With nothing remembered, a look has the artifact verified and says what comes of it. -/
theorem checkSignature_of_empty {t : Traced (State σ)} (hempty : t.world.cache = .empty)
    (artifact : Artifact) (target : Environment) :
    ((c.checkSignature artifact target).outcome t).1 =
      ((Signature.apply c.clock target.signature.enforcement artifact
        (c.callVerifier artifact target.signature.policy)).outcome t).1 := by
  by_cases hoff : target.signature.enforcement = .off
  · unfold checkSignature
    simp only [hoff, if_pos, Signature.apply]
  have hget : t.world.cache.get? artifact.digest target.signature.policy = none := by
    rw [hempty]
    rfl
  unfold checkSignature Cache.getOrTry
  simp only [hoff, if_neg, not_false_eq_true, Action.outcome_bind, Action.outcome_ofWorld,
    Action.outcome_pure, outcome_keepCache, hget, outcome_apply hoff, outcome_lastCheck, judge]
  generalize c.callVerifier artifact target.signature.policy t.world = called
  cases hfound : called.1.bind Verdict.require with
  | ok v =>
      -- What passed is valid, so it passes once more.
      simp only [Action.outcome_pure, (bind_require_eq_ok hfound).2, not_true_eq_false, and_false,
        if_false]
  | error failure =>
      cases henforcement : target.signature.enforcement with
      | off => exact absurd henforcement hoff
      | enforce => rfl
      | warn =>
          simp only [Action.outcome_lift, reduceCtorEq, false_and, if_false]

/-- A promotion that begins with nothing remembered. -/
def promoteAfresh (c : Controller σ) (r : Request) (t : Traced (State σ)) :
    Except Error Record × Traced (State σ) :=
  (c.promote r).outcome ⟨{ t.world with cache := .empty }, t.log⟩

/-- The answers to some requests in order, and the state after them, if nothing is remembered from
    one to the next. -/
def runAllAfresh (c : Controller σ) :
    List Request → Traced (State σ) → List (Except Error Record) × Traced (State σ)
  | [], t => ([], t)
  | r :: rest, t =>
    let (answer, t) := c.promoteAfresh r t
    let (answers, t) := runAllAfresh c rest t
    (answer :: answers, t)

/-- Along two runs, one with a memory and one without, both logs are in one order whenever the
    newest promotion is asked for. -/
def SameOrderAlong (c : Controller (World ε)) :
    List Request → Traced (State (World ε)) → Traced (State (World ε)) → Prop
  | [], _, _ => True
  | r :: rest, t, t' =>
    (c.pipeline.asksNewest r.target = true →
      Audit.SameOrder t.world.world.audit.entries t'.world.world.audit.entries) ∧
      SameOrderAlong c rest ((c.promote r).outcome t).2 (c.promoteAfresh r t').2

/-- Two controllers with faithful memories in worlds that match. -/
structure State.Matches (contents : Table Digest (List UInt8))
    (A : Audit.Store → Audit.Store → Prop) (R : ε → ε → Prop) (built : Except Failure Unit)
    (answer : Digest → Policy → Except Failure Verdict) (s s' : State (World ε)) : Prop where
  worlds : World.Match contents A R s.world s'.world
  first : s.Faithful built answer
  second : s'.Faithful built answer

section

variable {contents : Table Digest (List UInt8)} {A : Audit.Store → Audit.Store → Prop}
  {R : ε → ε → Prop}

theorem State.Matches.follows :
    State.Follows (World.Match contents A R) (State.Matches contents A R built answer) where
  worlds h := h.worlds
  step h hw := ⟨hw, ⟨h.first.verifier, h.first.cache⟩, ⟨h.second.verifier, h.second.cache⟩⟩

/-- Two new controllers in one world match, if its log can be read. -/
theorem State.Matches.fresh (hR : Equivalence R) {w : World ε} {es : List Audit.Entry}
    (hreadable : w.audit.entries = .ok es) :
    State.Matches w.registry.contents Audit.Store.Alike R built answer (.fresh w) (.fresh w) :=
  have hfaithful : (State.fresh w).Faithful built answer := ⟨nofun, .empty⟩
  ⟨⟨rfl, rfl, Audit.Store.alike_self hreadable, hR.refl _⟩, hfaithful, hfaithful⟩

theorem State.Matches.ignoresPending :
    State.IgnoresPending (State.Matches contents A R built answer) :=
  fun _ _ h => ⟨h.worlds, ⟨h.first.verifier, h.first.cache⟩, ⟨h.second.verifier, h.second.cache⟩⟩

variable {s : Surroundings ε} (hR : s.Indifferent R)
  (hsettled : (World.collaborators s).Settled (fun w => w.registry.contents = contents) built
    answer) (pipeline : Pipeline) (registryUri : String)

include hR hsettled

/-- In a world a look at a faithful memory changes no more than the surroundings and the memory. -/
theorem checkSignature_beside (artifact : Artifact) (target : Environment)
    {t : Traced (State (World ε))} (hcontents : t.world.world.registry.contents = contents)
    (hs : t.world.Faithful built answer) :
    (((World.controller s pipeline registryUri).checkSignature artifact target).outcome t).1.map
        Verdict.undated = ruling target.signature.enforcement artifact
          (sought built (answer artifact.digest target.signature.policy)) ∧
      (((World.controller s pipeline registryUri).checkSignature artifact target).outcome
        t).2.world.Faithful built answer ∧
      t.world.world.Beside R (((World.controller s pipeline registryUri).checkSignature artifact
        target).outcome t).2.world.world := by
  have hsees := World.beside_sees hR pipeline registryUri t.world.world
  have hself : t.world.world.Beside R t.world.world := ⟨rfl, rfl, hR.equivalence.refl _⟩
  have hhere := hsettled.mono (J := t.world.world.Beside R) fun w hw =>
    (congrArg Registry.contents hw.registry_eq).trans hcontents
  rcases checkSignature_settled hhere hsees artifact target hself hs with
    ⟨hruling, hfaithful⟩
  exact ⟨hruling, hfaithful, hsees.checkSignature artifact target t hself⟩

/-- Looks at a signature agree if the memories are faithful, whatever either of them has. -/
theorem checkSignature_matches (artifact : Artifact) (target : Environment) :
    ((World.controller s pipeline registryUri).checkSignature artifact target).Agree
      (State.Matches contents A R built answer) (InvImage Eq Verdict.undated)
      ((World.controller s pipeline registryUri).checkSignature artifact target) := by
  intro t t' hs
  have hcontents' : t'.world.world.registry.contents = contents := by
    rw [← hs.worlds.registry_eq]
    exact hs.worlds.contents_eq
  rcases checkSignature_beside hR hsettled pipeline registryUri artifact target
    hs.worlds.contents_eq hs.first with ⟨hruling, hfirst, hbeside⟩
  rcases checkSignature_beside hR hsettled pipeline registryUri artifact target hcontents'
    hs.second with ⟨hruling', hsecond, hbeside'⟩
  exact ⟨.of_map_eq (hruling.trans hruling'.symm),
    hs.worlds.beside hR.equivalence hbeside hbeside', hfirst, hsecond⟩

/-- A promotion comes to the same whether or not anything is remembered. -/
theorem promote_afresh_agree (r : Request) {t t' : Traced (State (World ε))}
    (hs : State.Matches contents Audit.Store.Alike R built answer t.world t'.world)
    (horder : pipeline.asksNewest r.target = true →
      Audit.SameOrder t.world.world.audit.entries t'.world.world.audit.entries) :
    SameAnswer (((World.controller s pipeline registryUri).promote r).outcome t).1
        ((World.controller s pipeline registryUri).promoteAfresh r t').1 ∧
      State.Matches contents Audit.Store.Alike R built answer
        (((World.controller s pipeline registryUri).promote r).outcome t).2.world
        ((World.controller s pipeline registryUri).promoteAfresh r t').2.world := by
  have hforgotten : State.Matches contents (World.Ordered (pipeline.asksNewest r.target)) R built
      answer t.world { t'.world with cache := .empty } :=
    ⟨⟨hs.worlds.registry_eq, hs.worlds.contents_eq, ⟨hs.worlds.audit, horder⟩, hs.worlds.around⟩,
      hs.first, hs.second.verifier, .empty⟩
  -- The logs are in one order up to the writes, and after them they are alike.
  refine promote_agree State.Matches.follows State.Matches.follows (fun h => ?_)
    State.Matches.ignoresPending (World.askAlike hR _ _)
    (checkSignature_matches hR hsettled pipeline registryUri) (World.tagAlike hR)
    (World.append_agrees hR) hforgotten
  exact ⟨⟨h.worlds.registry_eq, h.worlds.contents_eq, h.worlds.audit.1, h.worlds.around⟩,
    h.first, h.second⟩

/-- With a clock that goes forward, logs that are in time stay in one order along two runs. -/
theorem sameOrderAlong_of_inTime {reached : World ε → Int}
    (hforward : (World.collaborators s).Forward reached) {base : List Audit.Entry}
    (rs : List Request) {t t' : Traced (State (World ε))}
    (hs : State.Matches contents Audit.Store.Alike R built answer t.world t'.world)
    (ht : t.world.InTime World.audit reached base rs.length)
    (ht' : t'.world.InTime World.audit reached base rs.length) :
    (World.controller s pipeline registryUri).SameOrderAlong rs t t' := by
  induction rs generalizing t t' with
  | nil => trivial
  | cons r rest ih =>
      have hnow := ht.sameOrder ht' hs.worlds.audit
      rcases promote_afresh_agree hR hsettled pipeline registryUri r hs fun _ => hnow with ⟨-, hs₁⟩
      exact ⟨fun _ => hnow, ih hs₁ (promote_inTime hforward (World.logs s) r ht)
        (promote_inTime hforward (World.logs s) r ht')⟩

/-- And so do promotions in a row, from states that match. -/
theorem runAll_matches (rs : List Request) {t t' : Traced (State (World ε))}
    (hs : State.Matches contents Audit.Store.Alike R built answer t.world t'.world)
    (horder : (World.controller s pipeline registryUri).SameOrderAlong rs t t') :
    List.Forall₂ SameAnswer ((World.controller s pipeline registryUri).runAll rs t).1
        ((World.controller s pipeline registryUri).runAllAfresh rs t').1 ∧
      State.Matches contents Audit.Store.Alike R built answer
        ((World.controller s pipeline registryUri).runAll rs t).2.world
        ((World.controller s pipeline registryUri).runAllAfresh rs t').2.world := by
  induction rs generalizing t t' with
  | nil => exact ⟨.nil, hs⟩
  | cons r rest ih =>
      rcases horder with ⟨hnow, hrest⟩
      rcases promote_afresh_agree hR hsettled pipeline registryUri r hs hnow with ⟨hanswer, hs₁⟩
      rcases ih hs₁ hrest with ⟨hanswers, hs₂⟩
      exact ⟨.cons hanswer hanswers, hs₂⟩

end

/-- With a clock that goes forward and a log that is not ahead of it and has numbers left, the logs
    of two runs are in one order all along, one with a memory of verdicts and one without. -/
theorem sameOrderAlong_of_forward {s : Surroundings ε} {R : ε → ε → Prop} (hR : s.Indifferent R)
    {w : World ε} (hsettled : (World.collaborators s).Settled
      (fun w' => w'.registry.contents = w.registry.contents) built answer)
    {reached : World ε → Int} (hforward : (World.collaborators s).Forward reached)
    {base : List Audit.Entry} (hkeeps : w.audit.Keeps base)
    (hpast : ∀ e ∈ base, e.record.timestamp.rank ≤ reached w ∧ e.sequence < w.audit.count)
    (pipeline : Pipeline) (registryUri : String) (rs : List Request)
    (hroom : w.audit.count.toNat + rs.length < UInt64.size) :
    (World.controller s pipeline registryUri).SameOrderAlong rs ⟨.fresh w, []⟩ ⟨.fresh w, []⟩ :=
  have hstart : (State.fresh w).InTime World.audit reached base rs.length :=
    ⟨base, hkeeps, .start, hpast, hroom⟩
  sameOrderAlong_of_inTime hR hsettled pipeline registryUri hforward rs
    (.fresh hR.equivalence hkeeps.entries_eq) hstart hstart

/-- The memory of verdicts cannot be told from its absence. A new controller makes any promotions in
    a row, and another one makes them in the same world with nothing remembered in between. The
    verifier can always be built or never, and what it answers depends on digest and policy alone.
    Then both give the same answers, text for text, and leave the same tags and the same entries in
    the log, but for identifiers, times and hashes. All that is asked of the clock is that both logs
    are in one order when the newest promotion has to be known. -/
theorem runAll_afresh_agree {s : Surroundings ε} {R : ε → ε → Prop} (hR : s.Indifferent R)
    {w : World ε} {es : List Audit.Entry} (hreadable : w.audit.entries = .ok es)
    (hsettled : (World.collaborators s).Settled
      (fun w' => w'.registry.contents = w.registry.contents) built answer)
    (pipeline : Pipeline) (registryUri : String) (rs : List Request)
    (horder : (World.controller s pipeline registryUri).SameOrderAlong rs ⟨.fresh w, []⟩
      ⟨.fresh w, []⟩) :
    let remembering := (World.controller s pipeline registryUri).runAll rs ⟨.fresh w, []⟩
    let forgetting := (World.controller s pipeline registryUri).runAllAfresh rs ⟨.fresh w, []⟩
    List.Forall₂ SameAnswer remembering.1 forgetting.1 ∧
      remembering.2.world.world.registry = forgetting.2.world.world.registry ∧
      SameEnd (List.Forall₂ Audit.Entry.Alike) remembering.2.world.world.audit.entries
        forgetting.2.world.world.audit.entries := by
  intro remembering forgetting
  rcases runAll_matches hR hsettled pipeline registryUri rs (.fresh hR.equivalence hreadable) horder
    with ⟨hanswers, hend⟩
  exact ⟨hanswers, hend.worlds.registry_eq, hend.worlds.audit.entries⟩

end Controller

/-- Surroundings in which time goes on up to the end of a second, and no signature can be verified. -/
def Surroundings.wary : Surroundings Nat :=
  { ticking with
    verifier :=
      { build := fun n => (.ok (), n + 1)
        verify := fun _ _ _ n => (.error (.invalid "no trusted key"), n + 1) }
    clock := fun n => (ticking.moment (min n 999999999), n + 1) }

-- All they keep is the time, and nobody but the clock tells it.
theorem Surroundings.indifferent_wary : wary.Indifferent fun _ _ => True where
  equivalence := ⟨fun _ => trivial, fun _ => trivial, fun _ _ => trivial⟩
  fetch _ _ := trivial
  build _ := trivial
  verify _ _ _ _ := trivial
  clock _ := trivial
  resolve _ _ _ _ := ⟨rfl, trivial⟩
  create _ _ _ _ := ⟨rfl, trivial⟩
  remove _ _ _ _ := ⟨rfl, trivial⟩
  query _ _ _ _ := ⟨rfl, trivial⟩
  append _ _ _ _ := ⟨rfl, trivial⟩
  gates _ _ _ _ _ := ⟨⟨.ok rfl, fun _ _ => Iff.rfl⟩, trivial⟩
  freshId _ _ _ := ⟨trivial, trivial⟩

theorem Surroundings.rank_moment {n : Nat} (h : n < 1000000000) :
    (ticking.moment n).rank = Timestamp.epoch.rank + n := by
  have hvalid : Timestamp.Valid 1970 1 1 0 0 0 n := by
    refine ⟨?_, ?_, ?_, ?_, ?_, ?_, ?_, ?_, ?_, h⟩ <;> decide
  rw [ticking.moment, Timestamp.ofFields?, dif_pos hvalid]
  simp only [Option.getD_some, Timestamp.rank, Timestamp.epoch, Int.natCast_zero, Int.add_zero]

/-- Every request takes a moment, and the clock stops before the second is over. -/
theorem World.forward_wary :
    (collaborators .wary).Forward
      fun w => (Surroundings.ticking.moment (min w.around 999999999)).rank := by
  have hmono : ∀ {n n' : Nat}, n ≤ n' → (Surroundings.ticking.moment (min n 999999999)).rank ≤
      (Surroundings.ticking.moment (min n' 999999999)).rank := by
    intro n n' hle
    rw [Surroundings.rank_moment (by omega), Surroundings.rank_moment (by omega)]
    omega
  exact
    { resolve := fun _ _ w => hmono (Nat.le_add_right w.around 1)
      fetch := fun _ w => hmono (Nat.le_add_right w.around 1)
      createTag := fun _ _ w => hmono (Nat.le_add_right w.around 1)
      removeTag := fun _ _ w => hmono (Nat.le_add_right w.around 1)
      gates := fun _ _ w => hmono (Nat.le_add_right w.around 1)
      build := fun w => hmono (Nat.le_add_right w.around 1)
      verify := fun _ _ _ w => hmono (Nat.le_add_right w.around 1)
      -- The clock is read for the entry as well.
      append := fun _ w => hmono (Nat.le_add_right w.around 2)
      query := fun _ w => hmono (Nat.le_add_right w.around 1)
      freshId := fun w => hmono (Nat.le_add_right w.around 1)
      later := fun _ => Int.le_refl _
      shown := fun w => hmono (Nat.le_add_right w.around 1) }

/-- A content that is there cannot be verified, and nothing else can go wrong. -/
theorem World.settled_wary (contents : Table Digest (List UInt8)) :
    (collaborators .wary).Settled (fun w => w.registry.contents = contents) (.ok ())
      fun digest _ =>
        if (contents.find? digest).isSome then .error (.invalid "no trusted key")
        else .error (.content (Registry.Error.contentMissing digest).message) where
  build _ _ := rfl
  examine artifact policy w hw := by
    have hfetch : (collaborators .wary).registry.fetch artifact w =
      (w.registry.fetch artifact, { w with around := w.around + 1 }) := rfl
    unfold Collaborators.examine
    rw [hfetch, Registry.fetch, hw]
    cases contents.find? artifact.digest <;> rfl

/-- A world with one artifact, at the first instant. -/
def World.early : World Nat := ⟨single.registry, single.audit, 0⟩

/-- Staging, where signatures are only asked for, and production, where they are enforced and duties
    are separated. -/
def Pipeline.guarded : Pipeline :=
  ⟨[.named "dev", .named "staging",
    ((Environment.named "prod").withEnforcement .enforce).withAuthorization
      Authorization.anyone.separateDuties], []⟩

namespace Controller

/-- A tag is brought to staging, on to production, and to staging again. -/
def guarded : List Request :=
  [⟨"v1", "dev", "staging", .named "ann", false⟩, ⟨"v1", "staging", "prod", .named "ann", false⟩,
    ⟨"v1", "dev", "staging", .named "ann", false⟩]

/-- Three answers by the identifiers of their records, the second of them a failure. -/
theorem answers_eq {answers : List (Except Error Record)} {id id' : PromotionId} {e : Error}
    (h : answers.map (Except.map Record.id) = [.ok id, .error e, .ok id']) :
    ∃ first second, answers = [.ok first, .error e, .ok second] ∧ first.id = id ∧
      second.id = id' := by
  rcases List.map_eq_cons_iff.mp h with ⟨_ | first, _, rfl, hfirst, h⟩
  · cases hfirst
  rcases List.map_eq_cons_iff.mp h with ⟨_ | _, _, rfl, hfailure, h⟩
  · rcases List.map_eq_cons_iff.mp h with ⟨_ | second, _, rfl, hsecond, h⟩
    · cases hsecond
    cases List.map_eq_nil_iff.mp h
    cases hfailure
    exact ⟨first, second, rfl, Except.ok.inj hfirst, Except.ok.inj hsecond⟩
  · cases hfailure

/-- Production refuses what staging let pass, once by the verdict that was kept and once by the
    verifier, and for one reason. The second record of staging is made at two times. -/
theorem runAll_afresh_agree_wary :
    ∃ first second first' second' e t t',
      (World.controller .wary .guarded "registry").runAll guarded
        ⟨.fresh World.early, []⟩ = ([.ok first, .error e, .ok second], t) ∧
      (World.controller .wary .guarded "registry").runAllAfresh guarded
        ⟨.fresh World.early, []⟩ = ([.ok first', .error e, .ok second'], t') ∧
      e = .signatureRejected "registry:v1@sha256:a1" "invalid signature: no trusted key" ∧
      first.timeless = first'.timeless ∧ second.timeless = second'.timeless ∧
      second.id ≠ second'.id ∧ t.world.world.registry = t'.world.world.registry := by
  have hreadable : World.early.audit.entries = .ok [] := rfl
  have hkeeps : World.early.audit.Keeps [] := Audit.Store.keeps_new.1
  have hsettled := World.settled_wary World.early.registry.contents
  have hsame := sameOrderAlong_of_forward Surroundings.indifferent_wary hsettled
    World.forward_wary hkeeps (List.forall_mem_nil _) .guarded "registry" guarded (by decide)
  have hagree := runAll_afresh_agree Surroundings.indifferent_wary hreadable hsettled .guarded
    "registry" guarded hsame
  have hids : ((World.controller .wary .guarded "registry").runAll guarded
      ⟨.fresh World.early, []⟩).1.map (Except.map Record.id) = [.ok ⟨⟨5#128⟩⟩, .error
        (.signatureRejected "registry:v1@sha256:a1" "invalid signature: no trusted key"),
        .ok ⟨⟨15#128⟩⟩] := by
    decide +kernel
  have hids' : ((World.controller .wary .guarded "registry").runAllAfresh guarded
      ⟨.fresh World.early, []⟩).1.map (Except.map Record.id) = [.ok ⟨⟨5#128⟩⟩, .error
        (.signatureRejected "registry:v1@sha256:a1" "invalid signature: no trusted key"),
        .ok ⟨⟨20#128⟩⟩] := by
    decide +kernel
  rcases hrun : (World.controller .wary .guarded "registry").runAll guarded
    ⟨.fresh World.early, []⟩ with ⟨answers, t⟩
  rcases hrun' : (World.controller .wary .guarded "registry").runAllAfresh guarded
    ⟨.fresh World.early, []⟩ with ⟨answers', t'⟩
  rw [hrun] at hids hagree
  rw [hrun'] at hids' hagree
  rcases hagree with ⟨hanswers, hregistry, -⟩
  rcases answers_eq hids with ⟨first, second, rfl, -, hid⟩
  rcases answers_eq hids' with ⟨first', second', rfl, -, hid'⟩
  rcases hanswers with _ | ⟨_ | hfirst, _ | ⟨-, _ | ⟨_ | hsecond, -⟩⟩⟩
  refine ⟨first, second, first', second', _, t, t', rfl, rfl, rfl, hfirst, hsecond, ?_, hregistry⟩
  rw [hid, hid']
  decide

end Controller

end Promotion
