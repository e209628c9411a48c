import Promotion.Proofs.Audit.Store
import Promotion.Proofs.Controller.Conclusion
import Promotion.World

/-!
# Requests in a World

What the requests of a controller do to the registry and the log of a world.

A request to the registry or the log is refused by the surroundings or answered
by what is there, and a refusal changes neither. Gates, verifier, clock and
identifiers are the surroundings' alone. So of all requests only three change
what a world holds, each in one way, and everything else leaves it as it was.

A refusal can carry any failure. That a tag is not there is an answer, though,
and a controller acts on it: it takes the tag away again when it undoes a
promotion. `Truthful` surroundings do not say it of a tag they refuse to look
up.

## Main definitions

* `World.controller`: The controller of a pipeline in a world.
* `Surroundings.Truthful`: A refusal is not the answer that a tag is missing.
* `Controller.State.Holds`: What a world holds and what is to be told.

## Theorems

* `World.createTag_cases`, `World.removeTag_cases`: A write to the registry.
* `World.resolve_cases`: A look at the registry.
* `World.append_cases`: A write to the log.
* `World.looks_holds`: Nothing else changes what a world holds.
-/

namespace Promotion

variable {ε : Type}

/-- The controller of a pipeline in a world. -/
def World.controller (s : Surroundings ε) (pipeline : Pipeline) (registryUri : String) :
    Controller (World ε) :=
  ⟨pipeline, registryUri, World.collaborators s⟩

/-- Whoever refuses to look up a tag does not say that there is no such tag. -/
def Surroundings.Truthful (s : Surroundings ε) : Prop :=
  ∀ name around tag registry,
    (s.registryRefuses (.resolve name) around).1 ≠ some (.notFound tag registry)

namespace World

variable {α : Type} (s : Surroundings ε)

omit s in
/-- A request is refused, or it is answered after the surroundings let it pass. -/
theorem unlessRefused_cases {φ : Type} (refuses : ε → Option φ × ε) (call : Call (World ε) φ α)
    (w : World ε) :
    (∃ e around, (refuses w.around).1 = some e ∧
      unlessRefused refuses call w = (.error e, { w with around })) ∨
    ∃ around, unlessRefused refuses call w = call { w with around } := by
  unfold unlessRefused inAround
  rcases refuses w.around with ⟨_ | e, around⟩
  · exact .inr ⟨around, rfl⟩
  · exact .inl ⟨e, around, rfl, rfl⟩

/-- A request to the registry is refused, or the registry in memory answers it. -/
theorem askRegistry_cases (operation : Registry.Operation)
    (call : Call Registry Registry.Error α) (w : World ε) :
    (∃ e around, (s.registryRefuses operation w.around).1 = some e ∧
      askRegistry s operation call w = (.error e, { w with around })) ∨
    ∃ around, askRegistry s operation call w =
      ((call w.registry).1, { w with registry := (call w.registry).2, around }) := by
  rcases unlessRefused_cases (s.registryRefuses operation) (inRegistry call) w with h | ⟨around, h⟩
  · exact .inl h
  · exact .inr ⟨around, h⟩

/-- A tag is written, or nothing changes. -/
theorem createTag_cases (artifact : Artifact) (tag : String) (w : World ε) :
    (∃ e around, (registryClient s).createTag artifact tag w = (.error e, { w with around })) ∨
    ∃ around, (registryClient s).createTag artifact tag w =
      (.ok (), { w with registry := w.registry.createTag artifact tag, around }) := by
  rcases askRegistry_cases s (.create tag) (Registry.client.createTag artifact tag) w with
    ⟨e, around, -, h⟩ | ⟨around, h⟩
  · exact .inl ⟨e, around, h⟩
  · exact .inr ⟨around, h⟩

variable {s} in
/-- A tag that was written is all that changed of the registry. -/
theorem createTag_eq_ok {artifact : Artifact} {tag : String} {w w' : World ε}
    (h : (registryClient s).createTag artifact tag w = (.ok (), w')) :
    w'.registry = w.registry.createTag artifact tag ∧ w'.audit = w.audit := by
  rcases createTag_cases s artifact tag w with ⟨e, around, he⟩ | ⟨around, hok⟩
  · cases he.symm.trans h
  · cases hok.symm.trans h
    exact ⟨rfl, rfl⟩

variable {s} in
/-- A tag that was not written changed nothing. -/
theorem createTag_eq_error {artifact : Artifact} {tag : String} {w w' : World ε}
    {e : Registry.Error} (h : (registryClient s).createTag artifact tag w = (.error e, w')) :
    w'.registry = w.registry ∧ w'.audit = w.audit := by
  rcases createTag_cases s artifact tag w with ⟨e, around, he⟩ | ⟨around, hok⟩
  · cases he.symm.trans h
    exact ⟨rfl, rfl⟩
  · cases hok.symm.trans h

/-- A tag is removed, or nothing changes. -/
theorem removeTag_cases (uri tag : String) (w : World ε) :
    (∃ e around, (registryClient s).removeTag uri tag w = (.error e, { w with around })) ∨
    ∃ around, (registryClient s).removeTag uri tag w =
      (.ok (), { w with registry := w.registry.removeTag uri tag, around }) := by
  rcases askRegistry_cases s (.remove tag) (Registry.client.removeTag uri tag) w with
    ⟨e, around, -, h⟩ | ⟨around, h⟩
  · exact .inl ⟨e, around, h⟩
  · exact .inr ⟨around, h⟩

/-- A tag that is looked up is refused, or told as the registry has it. -/
theorem resolve_cases (uri tag : String) (w : World ε) :
    (∃ e around, (s.registryRefuses (.resolve tag) w.around).1 = some e ∧
      (registryClient s).resolve uri tag w = (.error e, { w with around })) ∨
    ∃ around, (registryClient s).resolve uri tag w =
      (w.registry.resolve uri tag, { w with around }) :=
  askRegistry_cases s (.resolve tag) (Registry.client.resolve uri tag) w

/-- A record is sealed onto the log, or nothing changes. -/
theorem append_cases (record : Record) (w : World ε) :
    (∃ e around, (auditLog s).append record w = (.error e, { w with around })) ∨
    ∃ entry now audit around, w.audit.append record now = (.ok entry, audit) ∧
      (auditLog s).append record w = (.ok entry, { w with audit, around }) := by
  rcases unlessRefused_cases (s.auditRefuses (.append record)) _ w with
    ⟨e, around, -, h⟩ | ⟨around, h⟩
  · exact .inl ⟨e, around, h⟩
  · simp only [inAround] at h
    rcases ha : w.audit.append record (s.clock around).1 with ⟨e | entry, audit⟩
    · -- The log itself refuses: then it is the log it was.
      rw [ha, Audit.Store.append_eq_error ha] at h
      exact .inl ⟨e, (s.clock around).2, h⟩
    · rw [ha] at h
      exact .inr ⟨entry, _, audit, (s.clock around).2, ha, h⟩

variable {s} in
/-- A record that was added is sealed onto the log. -/
theorem append_eq_ok {record : Record} {w w' : World ε} {entry : Audit.Entry}
    (h : (auditLog s).append record w = (.ok entry, w')) :
    w'.registry = w.registry ∧ ∃ now, w.audit.append record now = (.ok entry, w'.audit) := by
  rcases append_cases s record w with ⟨e, around, he⟩ | ⟨entry, now, audit, around, ha, hok⟩
  · cases he.symm.trans h
  · cases hok.symm.trans h
    exact ⟨rfl, now, ha⟩

variable {s} in
/-- A record that was not added changed nothing. -/
theorem append_eq_error {record : Record} {w w' : World ε} {e : Audit.Error}
    (h : (auditLog s).append record w = (.error e, w')) :
    w'.registry = w.registry ∧ w'.audit = w.audit := by
  rcases append_cases s record w with ⟨e, around, he⟩ | ⟨entry, now, audit, around, ha, hok⟩
  · cases he.symm.trans h
    exact ⟨rfl, rfl⟩
  · cases hok.symm.trans h

/-- Only the surroundings change when the log is asked. -/
theorem query_cases (question : Audit.Query) (w : World ε) :
    ∃ answer around, (auditLog s).query question w = (answer, { w with around }) := by
  rcases unlessRefused_cases (s.auditRefuses (.query question))
      (fun w => (w.audit.query question, w)) w with ⟨e, around, -, h⟩ | ⟨around, h⟩
  · exact ⟨.error e, around, h⟩
  · exact ⟨w.audit.query question, around, h⟩

end World

namespace Controller

/-- What the world of a controller holds, and what its webhooks are still to be told. -/
structure State.Holds (registry : Registry) (audit : Audit.Store) (pending : List Webhook.Task)
    (s : State (World ε)) : Prop where
  registry_eq : s.world.registry = registry
  audit_eq : s.world.audit = audit
  pending_eq : s.pending = pending

end Controller

/-- Nothing that is asked before the writes changes what a world holds. -/
theorem World.looks_holds (s : Surroundings ε) (pipeline : Pipeline) (registryUri : String)
    (registry : Registry) (audit : Audit.Store) (pending : List Webhook.Task) :
    (World.controller s pipeline registryUri).Looks
      (Controller.State.Holds registry audit pending) where
  resolve tag t h := by
    rcases World.resolve_cases s registryUri tag t.world with ⟨e, around, -, he⟩ | ⟨around, he⟩
    all_goals
      change Controller.State.Holds _ _ _
        { t with world := ((World.registryClient s).resolve registryUri tag t.world).2 }
      rw [he]
      exact ⟨h.1, h.2, h.3⟩
  fetch artifact t h := by
    rcases World.askRegistry_cases s (.fetch artifact.tag) (Registry.client.fetch artifact)
      t.world with ⟨e, around, -, he⟩ | ⟨around, he⟩
    all_goals
      change Controller.State.Holds _ _ _ { t with world := (World.askRegistry s
        (.fetch artifact.tag) (Registry.client.fetch artifact) t.world).2 }
      rw [he]
      exact ⟨h.1, h.2, h.3⟩
  gates name subject t h := ⟨h.1, h.2, h.3⟩
  build t h := ⟨h.1, h.2, h.3⟩
  verify artifact content policy t h := ⟨h.1, h.2, h.3⟩
  query question t h := by
    rcases World.query_cases s question t.world with ⟨answer, around, he⟩
    change Controller.State.Holds _ _ _
      { t with world := ((World.auditLog s).query question t.world).2 }
    rw [he]
    exact ⟨h.1, h.2, h.3⟩
  clock t h := ⟨h.1, h.2, h.3⟩
  freshId t h := ⟨h.1, h.2, h.3⟩
  remembers t verifierBuilt cache h := ⟨h.1, h.2, h.3⟩

/-- Surroundings in which nothing is refused, every check passes and time stands still. -/
def Surroundings.calm : Surroundings Unit where
  registryRefuses _ around := (none, around)
  auditRefuses _ around := (none, around)
  gates name _ around := (⟨.ok (.passed name 0), 0, 0⟩, around)
  verifier :=
    { build := fun around => (.ok (), around)
      verify := fun _ _ _ around => (.ok (.valid "releases" none .epoch), around) }
  dispatch _ _ _ := pure .done
  clock around := (.epoch, around)
  freshId around := (⟨⟨0⟩⟩, around)

/-- Calm surroundings but for a disk without room for another record. -/
def Surroundings.fullDisk : Surroundings Unit :=
  { calm with
    auditRefuses := fun operation around =>
      match operation with
      | .append _ => (some (.io (.reported "no space left on device")), around)
      | .query _ => (none, around) }

namespace World

/-- A world with one artifact, and nothing promoted yet. -/
def single : World Unit :=
  ⟨Registry.empty.push ⟨"registry", "v1", ⟨"sha256:a1"⟩⟩ [], .memory .empty, ()⟩

/-- A controller that has done nothing in a world with one artifact. -/
def start : Traced (Controller.State (World Unit)) := ⟨.fresh single, []⟩

/-- One step of an artifact's way. -/
def ladder (target : Environment) : Pipeline := ⟨[.named "dev", target], []⟩

/-- The one artifact is to take the one step. -/
def climb (dryRun : Bool) : Controller.Request := ⟨"v1", "dev", "prod", .named "ann", dryRun⟩

/-- The one artifact is to take a step of a longer way. -/
def step (source target : String) : Controller.Request :=
  ⟨"v1", source, target, .named "ann", false⟩

end World

end Promotion
