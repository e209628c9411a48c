import Promotion.Proofs.Audit.Alike
import Promotion.Proofs.Controller.Landing
import Promotion.Proofs.World

/-!
# Worlds That Are Alike

Two worlds with one registry, whose logs grew from one, and whose surroundings
cannot be told apart but by the clock.

Whether a signature was looked at leaves no trace in a registry or a log, and
hardly any in the surroundings: a verifier was built or asked, a content was
fetched, a clock was read. `Indifferent` surroundings take no notice of that.
What they answer about anything else is the same before and after, and so two
worlds that match still do when only one of them was asked for a verdict.

The two logs are in any relation as long as nobody asks or writes them. For a
question about the newest promotion they have to be alike and in one order. To
write a record on each, it is enough that they are alike.

## Main definitions

* `Surroundings.Indifferent`: Surroundings that take no notice of looks at signatures.
* `World.Match`: Two worlds with one registry, and logs and surroundings in a relation.
* `World.Beside`: What a look at a signature leaves of a world.

## Theorems

* `World.askAlike`: Worlds that match answer alike before the writes.
* `World.tagAlike`: So they do about tags.
* `World.append_agrees`: And when a record is added.
* `World.beside_sees`: A look at a signature leaves all but the surroundings.
* `World.Match.beside`: Worlds that match do so after looks at signatures.
-/

namespace Promotion

variable {ε α β : Type}

/-- Surroundings that take no notice of looks at signatures. States that are related differ in
    nothing but what the clock shows and which identifiers are left, and whatever is done to look at
    a signature leads to a related state. -/
structure Surroundings.Indifferent (s : Surroundings ε) (R : ε → ε → Prop) : Prop where
  equivalence : Equivalence R
  fetch : ∀ tag around, R around (s.registryRefuses (.fetch tag) around).2
  build : ∀ around, R around (s.verifier.build around).2
  verify : ∀ artifact content policy around,
    R around (s.verifier.verify artifact content policy around).2
  clock : ∀ around, R around (s.clock around).2
  resolve : ∀ tag, Agrees R Eq (s.registryRefuses (.resolve tag)) (s.registryRefuses (.resolve tag))
  create : ∀ tag, Agrees R Eq (s.registryRefuses (.create tag)) (s.registryRefuses (.create tag))
  remove : ∀ tag, Agrees R Eq (s.registryRefuses (.remove tag)) (s.registryRefuses (.remove tag))
  query : ∀ question,
    Agrees R Eq (s.auditRefuses (.query question)) (s.auditRefuses (.query question))
  append : ∀ {record record' : Record}, record.timeless = record'.timeless →
    Agrees R Eq (s.auditRefuses (.append record)) (s.auditRefuses (.append record'))
  gates : ∀ (gate : Gate) subject, Agrees R (Gate.Attempt.Alike gate.timeoutSeconds)
    (s.gates gate.name subject) (s.gates gate.name subject)
  freshId : Agrees R (fun _ _ => True) s.freshId s.freshId

/-- A clock that may have been read in between is a clock all the same. -/
theorem Surroundings.Indifferent.clock_agrees {s : Surroundings ε} {R : ε → ε → Prop}
    (h : s.Indifferent R) : Agrees R (fun _ _ => True) s.clock s.clock := fun around around' hR =>
  ⟨trivial, h.equivalence.trans (h.equivalence.symm (h.clock around))
    (h.equivalence.trans hR (h.clock around'))⟩

namespace World

/-- Two worlds with one registry, which has these contents. -/
structure Match (contents : Table Digest (List UInt8)) (A : Audit.Store → Audit.Store → Prop)
    (R : ε → ε → Prop) (w w' : World ε) : Prop where
  registry_eq : w.registry = w'.registry
  contents_eq : w.registry.contents = contents
  audit : A w.audit w'.audit
  around : R w.around w'.around

/-- Logs that are alike, and in one order if that is asked for. -/
def Ordered (asks : Bool) (audit audit' : Audit.Store) : Prop :=
  audit.Alike audit' ∧ (asks = true → Audit.SameOrder audit.entries audit'.entries)

variable {contents : Table Digest (List UInt8)} {A : Audit.Store → Audit.Store → Prop}
  {R : ε → ε → Prop}

theorem inAround_agrees {V : α → β → Prop} {step : ε → α × ε} {step' : ε → β × ε}
    (h : Agrees R V step step') :
    Agrees (Match contents A R) V (inAround step) (inAround step') := by
  intro w w' hw
  rcases h w.around w'.around hw.around with ⟨hx, haround⟩
  exact ⟨hx, hw.registry_eq, hw.contents_eq, hw.audit, haround⟩

/-- Two requests agree if both are refused alike, and those that are not refused agree. -/
theorem unlessRefused_agrees {φ : Type} {V : α → β → Prop} {refuses refuses' : ε → Option φ × ε}
    (h : Agrees R Eq refuses refuses') {call : Call (World ε) φ α} {call' : Call (World ε) φ β}
    (hcall : Agrees (Match contents A R) (SameEnd V) call call') :
    Agrees (Match contents A R) (SameEnd V) (unlessRefused refuses call)
      (unlessRefused refuses' call') := by
  intro w w' hw
  have hrefuse := inAround_agrees h w w' hw
  unfold unlessRefused
  revert hrefuse
  rcases inAround refuses w with ⟨_ | e, w₁⟩ <;> rcases inAround refuses' w' with ⟨_ | e', w₁'⟩
  · exact fun hrefuse => hcall w₁ w₁' hrefuse.2
  · exact fun hrefuse => nomatch hrefuse.1
  · exact fun hrefuse => nomatch hrefuse.1
  · rintro ⟨⟨⟩, hw₁⟩
    exact ⟨.error _, hw₁⟩

variable {s : Surroundings ε}

/-- One registry answers both worlds alike, and stays one. -/
theorem askRegistry_agrees {operation : Registry.Operation}
    (h : Agrees R Eq (s.registryRefuses operation) (s.registryRefuses operation))
    {call : Call Registry Registry.Error α}
    (hcontents : ∀ registry, (call registry).2.contents = registry.contents) :
    Agrees (Match contents A R) (SameEnd Eq) (askRegistry s operation call)
      (askRegistry s operation call) := by
  refine unlessRefused_agrees h fun w w' hw => ?_
  unfold inRegistry
  rw [← hw.registry_eq]
  exact ⟨.of_eq (fun _ => rfl) _, rfl, (hcontents _).trans hw.contents_eq, hw.audit, hw.around⟩

section

variable (h : s.Indifferent R)

include h

/-- Worlds that match answer alike what is asked before the writes. -/
theorem askAlike (asks dryRun : Bool) :
    (collaborators s).AskAlike asks dryRun dryRun (Match contents (Ordered asks) R)
      (collaborators s) where
  resolve _ tag := askRegistry_agrees (h.resolve tag) fun _ => rfl
  gates gate artifact environment := inAround_agrees (h.gates gate ⟨artifact, environment, dryRun⟩)
  newest hasks tag environment := by
    intro w w' hw
    have hquery : Agrees (Match contents (Ordered asks) R)
        (SameEnd fun records records' =>
          InvImage Eq (Option.map Record.operator) records.head? records'.head?)
        ((auditLog s).query (.latestInto tag environment))
        ((auditLog s).query (.latestInto tag environment)) := by
      refine unlessRefused_agrees (h.query _) fun w w' hw => ⟨?_, hw⟩
      have hnewest := hw.audit.1.newest (hw.audit.2 hasks) tag environment
      revert hnewest
      rcases w.audit.query (.latestInto tag environment) with e | records <;>
        rcases w'.audit.query (.latestInto tag environment) with e' | records'
      · rintro ⟨⟩
        exact .error e
      · rintro ⟨⟩
      · rintro ⟨⟩
      · rintro (_ | hsame)
        exact .ok hsame
    rcases hquery w w' hw with ⟨hend, hw⟩
    exact ⟨hend.map id, hw⟩
  clock := inAround_agrees h.clock_agrees
  freshId := inAround_agrees h.freshId

/-- And about tags, whatever their logs are. -/
theorem tagAlike : (collaborators s).TagAlike (Match contents A R) (collaborators s) where
  resolve _ tag := askRegistry_agrees (h.resolve tag) fun _ => rfl
  createTag _ tag := askRegistry_agrees (h.create tag) fun _ => rfl
  removeTag _ tag := askRegistry_agrees (h.remove tag) fun _ => rfl

/-- Records that differ in times and the like are added to both logs, or to neither. -/
theorem append_agrees {record record' : Record} (halike : record.timeless = record'.timeless)
    (hreal : record.dryRun = false) :
    Agrees (Match contents Audit.Store.Alike R) (SameEnd Audit.Entry.Alike)
      ((collaborators s).audit.append record) ((collaborators s).audit.append record') := by
  refine unlessRefused_agrees (h.append halike) fun w w' hw => ?_
  rcases inAround_agrees h.clock_agrees w w' hw with ⟨-, hread⟩
  rcases hread.audit.append halike hreal (s.clock w.around).1 (s.clock w'.around).1 with
    ⟨hend, hgrown⟩
  exact ⟨hend, hread.registry_eq, hread.contents_eq, hgrown, hread.around⟩

end

/-- A world with the registry and the log of another one, and related surroundings. -/
structure Beside (R : ε → ε → Prop) (w w' : World ε) : Prop where
  registry_eq : w'.registry = w.registry
  audit_eq : w'.audit = w.audit
  around : R w.around w'.around

/-- Nothing that is done to look at a signature changes more than the surroundings. -/
theorem beside_sees (h : s.Indifferent R) (pipeline : Pipeline) (registryUri : String)
    (w : World ε) :
    (World.controller s pipeline registryUri).Sees fun state => w.Beside R state.world where
  clock _ hs := ⟨hs.1, hs.2, h.equivalence.trans hs.3 (h.clock _)⟩
  fetch artifact state hs := by
    have haround := h.equivalence.trans hs.around (h.fetch artifact.tag state.world.around)
    change w.Beside R (World.askRegistry s (.fetch artifact.tag) (Registry.client.fetch artifact)
      state.world).2
    unfold askRegistry unlessRefused inAround
    rcases hrefused : s.registryRefuses (.fetch artifact.tag) state.world.around with ⟨_ | e, around⟩
    all_goals
      rw [hrefused] at haround
      exact ⟨hs.1, hs.2, haround⟩
  build _ hs := ⟨hs.1, hs.2, h.equivalence.trans hs.3 (h.build _)⟩
  verify artifact content policy _ hs :=
    ⟨hs.1, hs.2, h.equivalence.trans hs.3 (h.verify artifact content policy _)⟩
  remembers _ _ _ hs := hs

/-- Worlds that match still do after looks at signatures in either of them. -/
theorem Match.beside (hR : Equivalence R) {w w' w₁ w₁' : World ε} (h : Match contents A R w w')
    (hw : w.Beside R w₁) (hw' : w'.Beside R w₁') : Match contents A R w₁ w₁' where
  registry_eq := hw.registry_eq.trans (h.registry_eq.trans hw'.registry_eq.symm)
  contents_eq := (congrArg Registry.contents hw.registry_eq).trans h.contents_eq
  audit := by
    rw [hw.audit_eq, hw'.audit_eq]
    exact h.audit
  around := hR.trans (hR.symm hw.around) (hR.trans h.around hw'.around)

end World

end Promotion
