import Promotion.Controller.Standing
import Promotion.Proofs.Audit.Answer
import Promotion.Proofs.World

/-!
# Where a Tag Stands, Exactly

What a standing says, as far as nobody refuses to say it.

A standing is put together from questions: where the tag points to, what was
recorded of it, and for each environment where its latest tag points to. Each
is answered by what is there or refused by the surroundings, and the
surroundings may mind what they were asked before. `Grants` is that they refuse
none of some questions asked in a row. Then the standing is a plain function of
tags and entries, and `Tells` says which one of each environment, without the
order in which the records are searched.

Asking changes nothing but the surroundings, however it ends.

## Main definitions

* `Question`, `Surroundings.Grants`: What is asked in a row, and that it is answered.
* `lookups`: What is asked for a standing.
* `Controller.State.under`, `Controller.State.Unmoved`: A state in other surroundings.
* `EnvironmentStanding.ofRecords`: How a digest stands, as a function.
* `EnvironmentStanding.Tells`: What it means.

## Theorems

* `standing_preserves`: A standing changes what its questions change.
* `standing_granted`: A standing, if no question is refused.
* `standing_tells`: A standing is what registry and log say.
-/

namespace Promotion

variable {ε σ : Type}

/-- What is asked of registry or log for a standing. -/
inductive Question where
  /-- Where a tag points to. -/
  | tag (name : String)
  | records (question : Audit.Query)

/-- Whether the surroundings let a question pass, and what becomes of them. -/
def Surroundings.hear (s : Surroundings ε) : Question → ε → Bool × ε
  | .tag name, around => (s.registryRefuses (.resolve name) around).map Option.isNone id
  | .records question, around => (s.auditRefuses (.query question) around).map Option.isNone id

/-- The surroundings let questions pass, one asked after another. -/
def Surroundings.Grants (s : Surroundings ε) : List Question → ε → Prop
  | [], _ => True
  | q :: rest, around => (s.hear q around).1 = true ∧ s.Grants rest (s.hear q around).2

/-- What is asked for the standing of a tag in some environments. -/
def lookups (tag : String) (names : List String) : List Question :=
  .tag tag :: .records { Audit.Query.all with tag := some tag } ::
    names.map fun name => .tag (latestTag name)

namespace World

variable {s : Surroundings ε} {w : World ε} {rest : List Question}

/-- A tag that may be looked up is told as the registry has it. -/
theorem resolve_granted {tag : String} (uri : String)
    (h : s.Grants (.tag tag :: rest) w.around) :
    ∃ around, (registryClient s).resolve uri tag w =
        (w.registry.resolve uri tag, { w with around }) ∧ s.Grants rest around := by
  rcases hrefuse : s.registryRefuses (.resolve tag) w.around with ⟨_ | e, around⟩
  · simp only [Surroundings.Grants, Surroundings.hear, hrefuse] at h
    refine ⟨around, ?_, h.2⟩
    simp only [registryClient, askRegistry, unlessRefused, inAround, hrefuse]
    rfl
  · simp only [Surroundings.Grants, Surroundings.hear, hrefuse] at h
    cases h.1

/-- A log that may be asked answers by its entries. -/
theorem query_granted {question : Audit.Query} {es : List Audit.Entry}
    (hes : w.audit.entries = .ok es) (h : s.Grants (.records question :: rest) w.around) :
    ∃ around, (auditLog s).query question w = (.ok (question.apply es), { w with around }) ∧
      s.Grants rest around := by
  rcases hrefuse : s.auditRefuses (.query question) w.around with ⟨_ | e, around⟩
  · simp only [Surroundings.Grants, Surroundings.hear, hrefuse] at h
    refine ⟨around, ?_, h.2⟩
    simp only [auditLog, unlessRefused, inAround, hrefuse, Audit.Store.query_of_entries hes]
  · simp only [Surroundings.Grants, Surroundings.hear, hrefuse] at h
    cases h.1

end World

/-- How a digest stands in an environment, by the records of its tag, the newest first, and by
    what the environment's latest tag points to. -/
def EnvironmentStanding.ofRecords (records : List Record) (digest : Digest) (name : String)
    (latest : Option Digest) : EnvironmentStanding :=
  let newest := records.find? fun r => r.toEnv = name && r.digest = digest
  ⟨newest.isSome, newest.map Record.timestamp, latest = some digest, newest.map Record.operator⟩

/-- How a digest stands in some environments, by what their latest tags point to. -/
def EnvironmentStanding.table (records : List Record) (digest : Digest)
    (latest : String → Option Digest) (names : List String) : SortedMap EnvironmentStanding :=
  .ofList (names.map fun name => (name, ofRecords records digest name (latest name)))

theorem EnvironmentStanding.table_get? (records : List Record) (digest : Digest)
    (latest : String → Option Digest) (names : List String) (name : String) :
    (table records digest latest names).get? name =
      if name ∈ names then some (ofRecords records digest name (latest name)) else none :=
  SortedMap.get?_ofList_map names _ name

/-- An entry says that a digest was brought into an environment under a tag. -/
def Audit.Entry.Brings (e : Audit.Entry) (tag name : String) (digest : Digest) : Prop :=
  e.record.tag = tag ∧ e.record.toEnv = name ∧ e.record.digest = digest

/-- A standing of a tag's digest in an environment tells what the entries of a log say, and where
    the latest tag of the environment points to. -/
structure EnvironmentStanding.Tells (standing : EnvironmentStanding) (es : List Audit.Entry)
    (tag name : String) (digest : Digest) (latest : Option Digest) : Prop where
  promoted_iff : standing.promoted = true ↔ ∃ e ∈ es, e.Brings tag name digest
  /-- Time and operator are those of the latest entry that brings the digest there. -/
  newest : standing.promoted = true → ∃ e ∈ es, e.Brings tag name digest ∧
    (∀ e' ∈ es, e'.Brings tag name digest → e' = e ∨ e.Later e') ∧
    standing.promotedAt = some e.record.timestamp ∧ standing.operator = some e.record.operator
  absent : standing.promoted = false → standing.promotedAt = none ∧ standing.operator = none
  isLatest_iff : standing.isLatest = true ↔ latest = some digest

/-- A standing that is found in the answer for a tag tells what the log says. -/
theorem EnvironmentStanding.ofRecords_tells {es : List Audit.Entry}
    (hdistinct : (es.map Audit.Entry.sequence).Nodup) (tag name : String) (digest : Digest)
    (latest : Option Digest) :
    (ofRecords ((Audit.history es tag).map Audit.Entry.record) digest name latest).Tells es tag
      name digest latest := by
  have hfind : ((Audit.history es tag).map Audit.Entry.record).find?
      (fun r => r.toEnv = name && r.digest = digest) =
      ((Audit.history es tag).find? fun e => e.record.toEnv = name && e.record.digest = digest).map
        Audit.Entry.record := List.find?_map
  have hfits : ∀ e ∈ Audit.history es tag,
      (e.record.toEnv = name && e.record.digest = digest) = true ↔ e.Brings tag name digest := by
    intro e he
    rw [Bool.and_eq_true, decide_eq_true_eq, decide_eq_true_eq]
    exact ⟨fun h => ⟨(Audit.mem_history.mp he).2, h⟩, fun h => h.2⟩
  unfold ofRecords
  rw [hfind]
  cases hfound : (Audit.history es tag).find?
      (fun e => e.record.toEnv = name && e.record.digest = digest) with
  | none =>
      refine ⟨⟨nofun, ?_⟩, nofun, fun _ => ⟨rfl, rfl⟩, decide_eq_true_iff⟩
      rintro ⟨e, he, hbrings⟩
      have hin := Audit.mem_history.mpr ⟨he, hbrings.1⟩
      exact absurd ((hfits e hin).mpr hbrings) (List.find?_eq_none.mp hfound e hin)
  | some e =>
      rcases Audit.find?_eq_some_of_pairwise (Audit.history_later hdistinct tag) hfound with
        ⟨hin, hp, hfirst⟩
      have he := (Audit.mem_history.mp hin).1
      have hbrings := (hfits e hin).mp hp
      refine ⟨⟨fun _ => ⟨e, he, hbrings⟩, fun _ => rfl⟩, fun _ => ?_, nofun, decide_eq_true_iff⟩
      refine ⟨e, he, hbrings, fun e' he' hbrings' => ?_, rfl, rfl⟩
      have hin' := Audit.mem_history.mpr ⟨he', hbrings'.1⟩
      exact hfirst e' hin' ((hfits e' hin').mpr hbrings')

namespace Controller

/-- The state in other surroundings. -/
def State.under (t : State (World ε)) (around : ε) : State (World ε) :=
  { t with world := { t.world with around } }

@[simp] theorem State.under_under (t : State (World ε)) (around around' : ε) :
    (t.under around).under around' = t.under around' := rfl

/-- One state is another in other surroundings. -/
def State.Unmoved (before after : State (World ε)) : Prop :=
  ∃ around, after = before.under around

section Preserves

variable {c : Controller σ} {P : State σ → Prop}

theorem Asks.standingsIn (h : Asks c P) (records : List Record) (digest : Digest)
    (names : List String) : (c.standingsIn records digest names).Preserves P := by
  induction names with
  | nil => exact .pure _
  | cons name rest ih =>
      have hone : (c.standingIn records digest name).Preserves P :=
        .bind (.bind (h.lookTag _) fun _ => .pure _) fun _ => .pure _
      exact .bind hone fun _ => .bind ih fun _ => .pure _

/-- A standing preserves what its questions do. -/
theorem standing_preserves (h : Asks c P) (tag : String) (environment : Option String) (n : Nat) :
    (c.standing tag environment n).Preserves P := by
  refine .bind (h.resolveTag tag) fun artifact => ?_
  split
  · exact .throw _
  · refine .bind (.mapError (ask_preserves (h.query _))) fun records => ?_
    refine .bind (h.standingsIn _ _ _) fun _ => ?_
    exact .bind (tell_preserves h.clock) fun _ => .pure _

end Preserves

end Controller

/-- Nothing that is asked before the writes changes more than the surroundings. -/
theorem World.asks_unmoved (s : Surroundings ε) (pipeline : Pipeline) (uri : String)
    (before : Controller.State (World ε)) :
    (World.controller s pipeline uri).Asks before.Unmoved where
  resolve tag t h := by
    rcases h with ⟨around, rfl⟩
    rcases World.resolve_cases s uri tag (before.under around).world with
      ⟨e, around', -, he⟩ | ⟨around', he⟩
    all_goals exact ⟨around', congrArg (fun w => { before with world := w.2 }) he⟩
  gates name subject t h := by
    rcases h with ⟨around, rfl⟩
    exact ⟨_, rfl⟩
  query question t h := by
    rcases h with ⟨around, rfl⟩
    rcases World.query_cases s question (before.under around).world with ⟨answer, around', he⟩
    exact ⟨around', congrArg (fun w => { before with world := w.2 }) he⟩
  clock t h := by
    rcases h with ⟨around, rfl⟩
    exact ⟨_, rfl⟩
  freshId t h := by
    rcases h with ⟨around, rfl⟩
    exact ⟨_, rfl⟩

namespace Controller

variable {s : Surroundings ε} (pipeline : Pipeline) (uri : String) {t : Traced (State (World ε))}

/-- A tag that may be looked up is found where the registry has it. -/
theorem lookTag_granted {name : String} {rest : List Question}
    (h : s.Grants (.tag name :: rest) t.world.world.around) :
    ∃ around, ((World.controller s pipeline uri).lookTag name).outcome t =
        (.ok (name, t.world.world.registry.digestOf uri name), ⟨t.world.under around, t.log⟩) ∧
      s.Grants rest around := by
  rcases World.resolve_granted uri h with ⟨around, hresolve, hrest⟩
  have hcall : (World.controller s pipeline uri).collaborators.registry.resolve uri name
      t.world.world = (t.world.world.registry.resolve uri name, _) := hresolve
  refine ⟨around, ?_, hrest⟩
  unfold lookTag
  have huri : (World.controller s pipeline uri).registryUri = uri := rfl
  simp only [Action.outcome_bind, Action.outcome_observe, outcome_ask, huri, hcall,
    Registry.resolve]
  cases t.world.world.registry.digestOf uri name <;> rfl

/-- A tag that may be looked up is resolved if it is there. -/
theorem resolve_granted {tag : String} {rest : List Question}
    (h : s.Grants (.tag tag :: rest) t.world.world.around) :
    ∃ around, ((World.controller s pipeline uri).resolve tag).outcome t =
        ((t.world.world.registry.digestOf uri tag).elim (.error (.artifactNotFound tag uri))
          fun digest => .ok ⟨uri, tag, digest⟩, ⟨t.world.under around, t.log⟩) ∧
      s.Grants rest around := by
  rcases World.resolve_granted uri h with ⟨around, hresolve, hrest⟩
  have hcall : (World.controller s pipeline uri).collaborators.registry.resolve uri tag
      t.world.world = (t.world.world.registry.resolve uri tag, _) := hresolve
  refine ⟨around, ?_, hrest⟩
  unfold resolve
  have huri : (World.controller s pipeline uri).registryUri = uri := rfl
  simp only [Action.outcome_bind, Action.outcome_observe, outcome_ask, huri, hcall,
    Registry.resolve]
  cases t.world.world.registry.digestOf uri tag <;> rfl

/-- A log that may be asked answers a controller by its entries. -/
theorem records_granted {es : List Audit.Entry} (hes : t.world.world.audit.entries = .ok es)
    {question : Audit.Query} {rest : List Question}
    (h : s.Grants (.records question :: rest) t.world.world.around) :
    ∃ around, (Action.mapError Error.audit
        (ask ((World.controller s pipeline uri).collaborators.audit.query question))).outcome t =
        (.ok (question.apply es), ⟨t.world.under around, t.log⟩) ∧ s.Grants rest around := by
  rcases World.query_granted hes h with ⟨around, hquery, hrest⟩
  have hcall : (World.controller s pipeline uri).collaborators.audit.query question
      t.world.world = (.ok (question.apply es), _) := hquery
  refine ⟨around, ?_, hrest⟩
  simp only [Action.outcome_mapError, outcome_ask, hcall, mapError_ok]
  rfl

/-- How a digest stands in an environment, if its latest tag may be looked up. -/
theorem standingIn_granted (records : List Record) (digest : Digest) {name : String}
    {rest : List Question} (h : s.Grants (.tag (latestTag name) :: rest) t.world.world.around) :
    ∃ around, ((World.controller s pipeline uri).standingIn records digest name).outcome t =
        (.ok (.ofRecords records digest name
          (t.world.world.registry.digestOf uri (latestTag name))),
          ⟨t.world.under around, t.log⟩) ∧
      s.Grants rest around := by
  rcases lookTag_granted pipeline uri h with ⟨around, hlook, hrest⟩
  refine ⟨around, ?_, hrest⟩
  simp only [standingIn, isLatest, Action.outcome_bind, hlook, Action.outcome_pure]
  rfl

/-- How a digest stands in some environments, if their latest tags may be looked up. -/
theorem standingsIn_granted (records : List Record) (digest : Digest) {names : List String}
    (h : s.Grants (names.map fun name => .tag (latestTag name)) t.world.world.around) :
    ∃ around, ((World.controller s pipeline uri).standingsIn records digest names).outcome t =
      (.ok (names.map fun name => (name, .ofRecords records digest name
        (t.world.world.registry.digestOf uri (latestTag name)))),
        ⟨t.world.under around, t.log⟩) := by
  induction names generalizing t with
  | nil => exact ⟨t.world.world.around, rfl⟩
  | cons name rest ih =>
      rcases standingIn_granted pipeline uri records digest h with
        ⟨around, hone, hrest⟩
      rcases ih (t := ⟨t.world.under around, t.log⟩) hrest with ⟨around', hothers⟩
      refine ⟨around', ?_⟩
      simp only [standingsIn, Action.outcome_bind, hone, hothers]
      rfl

variable {pipeline uri}

/-- A question about an environment of the pipeline is about that one. -/
theorem asked_of_mem {name : String} (h : name ∈ pipeline.names) :
    (World.controller s pipeline uri).asked (some name) = .ok [name] := by
  rcases List.mem_map.mp h with ⟨e, he, rfl⟩
  cases hfound : pipeline.environment? e.name with
  | none => exact absurd (decide_eq_true rfl) (List.find?_eq_none.mp hfound e he)
  | some found =>
      have hname := List.find?_some hfound
      rw [decide_eq_true_eq] at hname
      simp only [asked, World.controller, hfound, hname]

/-- A question is about the environment it names, if it is one of the pipeline, or else about all. -/
theorem asked_of_forall {environment : Option String}
    (h : ∀ name, environment = some name → name ∈ pipeline.names) :
    (World.controller s pipeline uri).asked environment =
      .ok (environment.elim pipeline.names fun name => [name]) := by
  cases environment with
  | none => rfl
  | some name => exact asked_of_mem (h name rfl)

/-- A question about any other environment is not answered. -/
theorem asked_of_not_mem {name : String} (h : name ∉ pipeline.names) :
    (World.controller s pipeline uri).asked (some name) =
      .error (.settings (.unknownEnvironment name)) := by
  have hnone : pipeline.environment? name = none := by
    refine List.find?_eq_none.mpr fun e he hname => h ?_
    rw [← of_decide_eq_true hname]
    exact List.mem_map_of_mem he
  simp only [asked, World.controller, hnone]

/-- A standing, if none of its questions is refused. Only its history depends on how much of it is
    wanted. -/
theorem standing_granted {es : List Audit.Entry} (hes : t.world.world.audit.entries = .ok es)
    {tag : String} {digest : Digest}
    (hdigest : t.world.world.registry.digestOf uri tag = some digest)
    {environment : Option String} {names : List String}
    (hasked : (World.controller s pipeline uri).asked environment = .ok names)
    (h : s.Grants (lookups tag names) t.world.world.around) :
    ∃ queriedAt around, ∀ n,
      ((World.controller s pipeline uri).standing tag environment n).outcome t =
        (.ok ⟨tag, digest,
          EnvironmentStanding.table ((Audit.history es tag).map Audit.Entry.record) digest
            (fun name => t.world.world.registry.digestOf uri (latestTag name)) names,
          (((Audit.history es tag).map Audit.Entry.record).take n).map History.Entry.ofRecord,
          queriedAt⟩, ⟨t.world.under around, t.log⟩) := by
  rcases resolve_granted pipeline uri h with ⟨around, hresolve, hrest⟩
  rw [hdigest] at hresolve
  rcases records_granted pipeline uri (t := ⟨t.world.under around, t.log⟩)
    hes hrest with ⟨around', hrecords, hrest'⟩
  rw [Audit.apply_ofTag] at hrecords
  rcases standingsIn_granted pipeline uri (t := ⟨t.world.under around', t.log⟩)
    ((Audit.history es tag).map Audit.Entry.record) digest hrest' with ⟨around'', hstandings⟩
  -- Each question is asked in the surroundings that the one before it left.
  refine ⟨(s.clock around'').1, (s.clock around'').2, fun n => ?_⟩
  simp only [standing, Action.outcome_bind, hresolve, Option.elim_some, hasked]
  rw [hrecords]
  simp only [State.under_under]
  rw [hstandings]
  rfl

/-- A standing is what registry and log say, and it changes neither. A tag that is not there has
    none, and neither has an environment that is not of the pipeline. Any other has one, if none of
    its questions is refused: for each environment that is asked for, and no other, whether the
    digest that the tag points to was promoted there under this tag, when and by whom it was last,
    and whether the latest tag points to it. The history is the beginning of all the tag's records
    in the order of time and number, and how long it is makes no difference to the rest. -/
theorem standing_tells {es : List Audit.Entry} (hes : t.world.world.audit.entries = .ok es)
    (hdistinct : (es.map Audit.Entry.sequence).Nodup) (tag : String)
    (environment : Option String) :
    let c := World.controller s pipeline uri
    let names := environment.elim pipeline.names fun name => [name]
    let tags := t.world.world.registry.digestOf uri
    (∀ n, t.world.Unmoved ((c.standing tag environment n).outcome t).2.world) ∧
    (s.Grants [.tag tag] t.world.world.around → tags tag = none → ∀ n,
      ((c.standing tag environment n).outcome t).1 = .error (.artifactNotFound tag uri)) ∧
    (∀ name digest, s.Grants [.tag tag] t.world.world.around → tags tag = some digest →
      environment = some name → name ∉ pipeline.names → ∀ n,
      ((c.standing tag environment n).outcome t).1 =
        .error (.settings (.unknownEnvironment name))) ∧
    (∀ digest, s.Grants (lookups tag names) t.world.world.around → tags tag = some digest →
      (∀ name ∈ names, name ∈ pipeline.names) →
      ∃ environments queriedAt t', ∃ answers : List Audit.Entry,
        (∀ n, (c.standing tag environment n).outcome t = (.ok ⟨tag, digest, environments,
          (answers.take n).map fun e => .ofRecord e.record, queriedAt⟩, t')) ∧
        (∀ name, (environments.get? name).isSome = true ↔ name ∈ names) ∧
        (∀ name standing, environments.get? name = some standing →
          standing.Tells es tag name digest (tags (latestTag name))) ∧
        answers.Perm (es.filter fun e => e.record.tag = tag) ∧
        answers.Pairwise Audit.Entry.Later) := by
  intro c names tags
  refine ⟨fun n => ?_, fun h hmissing n => ?_, fun name digest h hdigest henv hunknown n => ?_,
    fun digest h hdigest hknown => ?_⟩
  · exact standing_preserves (World.asks_unmoved s pipeline uri t.world) tag environment n t
      ⟨t.world.world.around, rfl⟩
  · rcases resolve_granted pipeline uri h with ⟨around, hresolve, -⟩
    rw [show t.world.world.registry.digestOf uri tag = none from hmissing] at hresolve
    simp only [c, standing, Action.outcome_bind, hresolve, Option.elim_none]
  · rcases resolve_granted pipeline uri h with ⟨around, hresolve, -⟩
    rw [show t.world.world.registry.digestOf uri tag = some digest from hdigest] at hresolve
    simp only [c, standing, Action.outcome_bind, hresolve, Option.elim_some, henv,
      asked_of_not_mem hunknown, Action.outcome_throw]
  · have hasked : c.asked environment = .ok names := by
      refine asked_of_forall fun name hname => hknown name ?_
      rw [show names = [name] by simp only [names, hname, Option.elim_some]]
      exact List.mem_cons_self
    rcases standing_granted hes hdigest hasked h with ⟨queriedAt, around, hstanding⟩
    refine ⟨EnvironmentStanding.table ((Audit.history es tag).map Audit.Entry.record) digest
      (fun name => tags (latestTag name)) names, queriedAt, ⟨t.world.under around, t.log⟩,
      Audit.history es tag, fun n => ?_, fun name => ?_, fun name standing hfound => ?_,
      Audit.history_perm es tag, Audit.history_later hdistinct tag⟩
    · rw [hstanding, ← List.map_take, List.map_map]
      rfl
    · rw [EnvironmentStanding.table_get?]
      by_cases hname : name ∈ names <;> simp [hname]
    · rw [EnvironmentStanding.table_get?] at hfound
      split at hfound
      · cases hfound
        exact EnvironmentStanding.ofRecords_tells hdistinct tag name digest _
      · cases hfound

end Controller

/-- Three promotions of one tag into one environment, made at one time: the first and the last of
    the digest that the tag points to, the one between of another. -/
def World.thrice : List Audit.Entry :=
  [("sha256:a1", "ann"), ("sha256:b2", "bob"), ("sha256:a1", "cleo")].zipIdx.map fun
    ((digest, operator), i) =>
      ⟨.ofNat i, .epoch, { (default : Record) with
        tag := "v1", toEnv := "prod", digest := ⟨digest⟩, operator }, none, ""⟩

namespace Controller

/-- The last of the three is the one that is told, and the digest is not the latest there. -/
theorem standing_tells_thrice :
    let t : Traced (State (World Unit)) :=
      ⟨.fresh { World.single with audit := .memory ⟨World.thrice, .empty⟩ }, []⟩
    (World.thrice.map Audit.Entry.sequence).Nodup ∧
    ∃ st t', ((World.controller .calm (World.ladder (.named "prod")) "registry").standing
        "v1" none 1).outcome t = (.ok st, t') ∧ st.history.length = 1 ∧
      ∃ standing, st.environments.get? "prod" = some standing ∧
        standing.Tells World.thrice "v1" "prod" ⟨"sha256:a1"⟩ none ∧ standing.promoted = true := by
  intro t
  have hdistinct : (World.thrice.map Audit.Entry.sequence).Nodup := by decide +kernel
  have hgrants : Surroundings.calm.Grants (lookups "v1" ["dev", "prod"]) () :=
    ⟨rfl, rfl, rfl, rfl, trivial⟩
  have htells := @standing_tells Unit .calm (World.ladder (.named "prod")) "registry" t
    World.thrice rfl hdistinct "v1" none
  rcases htells.2.2.2 ⟨"sha256:a1"⟩ hgrants (by decide +kernel) fun _ h => h with
    ⟨environments, queriedAt, t', answers, hstanding, hnames, htold, hperm, -⟩
  refine ⟨hdistinct, _, t', hstanding 1, ?_, ?_⟩
  · have hlength : answers.length = 3 := hperm.length_eq.trans (by decide +kernel)
    rw [List.length_map, List.length_take, hlength]
    rfl
  · rcases Option.isSome_iff_exists.mp ((hnames "prod").mpr (by decide)) with ⟨standing, hfound⟩
    have hlatest : t.world.world.registry.digestOf "registry" (latestTag "prod") = none := by
      decide +kernel
    have hstands := htold "prod" standing hfound
    rw [hlatest] at hstands
    refine ⟨standing, hfound, hstands, hstands.promoted_iff.mpr ⟨World.thrice[0], ?_, ?_⟩⟩
    · exact List.getElem_mem _
    · exact ⟨rfl, rfl, rfl⟩

end Controller

end Promotion
