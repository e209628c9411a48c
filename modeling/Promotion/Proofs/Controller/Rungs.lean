import Promotion.Proofs.Controller.Policy

/-!
# One Rung at a Time

How an artifact gets to the environment that a record says it got to.

A promotion is checked against the chain of environments, and only against that.
The chain says which environment comes after the one that the caller names as
the source. Whether the artifact ever got to that source is nowhere asked, so a
single call can put it anywhere but into the first environment, and
`climbs_unminded` is such a call.

What is left to the caller is one question per call, and it can be answered
before: is there a record that brings this digest into the source? If every call
of a run minds that, every record stands at the end of a climb: before it there
are records of its digest into all environments that come before its own, in the
order of the chain.

## Main definitions

* `Record.Steps`: A record leads from one place of a pipeline into the next.
* `MindsSource`: A call names a source that its artifact has been promoted into.
* `Climbed`: The records of a digest before another, one for each rung.

## Theorems

* `Assessed.steps`: A promotion steps from the source that its call names into the target.
* `Assessed.minded`: A promotion that minds its source steps from where the digest is.
* `climbed_of_minded`: Steps from where the digest is add up to a climb.
* `runAll_climbs`: Every record is the step that its call asked for, and the end of a climb if calls
  mind it.
* `climbs_unminded`: A call that does not mind it puts an artifact into production at once.
-/

namespace Promotion

variable {σ : Type}

/-- A record leads from the environment at one place of a pipeline into the one at the next. -/
def Record.Steps (p : Pipeline) (record : Record) : Prop :=
  ∃ place, p.position? record.fromEnv = some place ∧ p.position? record.toEnv = some (place + 1)

namespace Pipeline

/-- Only the first environment has the first place. -/
theorem head?_ne_of_position? {p : Pipeline} {name : String} {place : Nat}
    (h : p.position? name = some place) (hplace : place ≠ 0) : p.names.head? ≠ some name := by
  intro hhead
  unfold names at hhead
  unfold position? at h
  cases henvironments : p.environments with
  | nil =>
      rw [henvironments] at h
      cases h
  | cons first rest =>
      rw [henvironments] at h hhead
      have hname : first.name = name := Option.some.inj hhead
      rw [List.findIdx?_cons, if_pos (decide_eq_true hname)] at h
      exact hplace (Option.some.inj h).symm

/-- The names of the environments between the first and a place. -/
def rungs (p : Pipeline) (place : Nat) : List String :=
  (p.names.take place).drop 1

theorem rungs_succ {p : Pipeline} {name : String} {place : Nat}
    (h : p.position? name = some (place + 1)) : p.rungs (place + 2) = p.rungs (place + 1) ++ [name] := by
  have hname := names_of_position? h
  have hlength : place + 1 < p.names.length := (List.getElem?_eq_some_iff.mp hname).1
  unfold rungs
  rw [List.take_add_one, hname, Option.toList_some, List.drop_append_of_le_length]
  rw [List.length_take]
  omega

end Pipeline

namespace Controller

variable {c : Controller σ} {log : σ → Audit.Store}

/-- Some entries have a record that brings a digest into an environment. -/
def Brought (es : List Audit.Entry) (digest : Digest) (environment : String) : Prop :=
  ∃ e ∈ es, e.record.digest = digest ∧ e.record.toEnv = environment

/-- A call that is meant names the first environment as its source, or one that the artifact of its
    tag has been promoted into. -/
def MindsSource (c : Controller σ) (log : σ → Audit.Store) (r : Request)
    (t : Traced (State σ)) : Prop :=
  r.dryRun = false → c.pipeline.names.head? ≠ some r.source →
    ∀ artifact t', (c.resolve r.tag).outcome t = (.ok artifact, t') →
      ∀ es, (log t.world.world).entries = .ok es → Brought es artifact.digest r.source

/-- A record leads one step on, and unless it starts at the first environment there is one before
    that brings its digest to where it starts. -/
def Minded (p : Pipeline) (before : List Audit.Entry) (record : Record) : Prop :=
  ∃ place, p.position? record.fromEnv = some place ∧
    p.position? record.toEnv = some (place + 1) ∧
    (place ≠ 0 → Brought before record.digest record.fromEnv)

/-- Before a record there are records of its digest into every environment from the second up to
    the one that it starts from, in the order of the pipeline. -/
def Climbed (p : Pipeline) (before : List Audit.Entry) (record : Record) : Prop :=
  ∃ (place : Nat) (climb : List Audit.Entry), p.position? record.toEnv = some (place + 1) ∧ climb.Sublist before ∧
    (∀ e ∈ climb, e.record.digest = record.digest) ∧
    climb.map (fun e => e.record.toEnv) = p.rungs (place + 1)

/-- A promotion that passed its checks leads one step on, from the source that its call names into
    the target that it names. -/
theorem Assessed.steps {r : Request} {t t' : Traced (State σ)} {artifact : Artifact}
    {record : Record} (h : c.Assessed r t artifact record t') :
    record.fromEnv = r.source ∧ record.toEnv = r.target ∧ record.Steps c.pipeline := by
  cases h with
  | passed hmove _ _ _ _ _ _ _ => exact ⟨rfl, rfl, _, Pipeline.move_eq_ok hmove⟩

/-- If its call minds the source, it starts where the digest has been brought to. -/
theorem Assessed.minded {r : Request} {t t' : Traced (State σ)} {artifact : Artifact}
    {record : Record} {es : List Audit.Entry} (hminds : c.MindsSource log r t)
    (hes : (log t.world.world).Keeps es) (h : c.Assessed r t artifact record t')
    (hreal : r.dryRun = false) : Minded c.pipeline es record := by
  cases h with
  | passed hmove _ hresolve _ _ _ _ _ =>
      rcases Pipeline.move_eq_ok hmove with ⟨hsource, htarget⟩
      refine ⟨_, hsource, htarget, fun hplace => ?_⟩
      have hlater := Pipeline.head?_ne_of_position? hsource hplace
      exact hminds hreal hlater _ _ hresolve es hes.entries_eq

/-- If every record starts where its digest has been brought to, every record is the end of a climb.
    The induction is on the height of the record, and a rung lower there is the record that brought
    the digest there. -/
theorem climbed_of_minded {p : Pipeline} {es : List Audit.Entry}
    (h : ∀ before e behind, es = before ++ e :: behind → Minded p before e.record) :
    ∀ before e behind, es = before ++ e :: behind → Climbed p before e.record := by
  have hclimb : ∀ place before e behind, es = before ++ e :: behind →
      p.position? e.record.toEnv = some (place + 1) → Climbed p before e.record := by
    intro place
    induction place with
    | zero =>
        -- There is no rung before the second environment.
        intro before e behind _ htarget
        refine ⟨0, [], htarget, List.nil_sublist _, ?_, ?_⟩
        · intro rung hrung
          cases hrung
        · unfold Pipeline.rungs
          rw [List.map_nil, eq_comm, List.drop_eq_nil_iff, List.length_take]
          omega
    | succ place ih =>
        intro before e behind hcut htarget
        rcases h before e behind hcut with ⟨place', hsource, htarget', hbrought⟩
        have hplace : place' = place + 1 := by
          have hsame := Option.some.inj (htarget'.symm.trans htarget)
          omega
        subst hplace
        -- The record that brought the digest one rung lower is the end of a climb itself.
        rcases hbrought (Nat.succ_ne_zero place) with ⟨lower, hin, hdigest, hlower⟩
        rcases List.append_of_mem hin with ⟨start, rest, hbefore⟩
        have hlowerAt : p.position? lower.record.toEnv = some (place + 1) := by rwa [hlower]
        have hcutLower : es = start ++ lower :: (rest ++ e :: behind) := by
          rw [hcut, hbefore, List.append_assoc, List.cons_append]
        rcases ih start lower _ hcutLower hlowerAt with
          ⟨place', climb, hat, hsub, hdigests, hrungs⟩
        have hsame : place' = place := by
          have hsame := Option.some.inj (hat.symm.trans hlowerAt)
          omega
        subst hsame
        refine ⟨place' + 1, climb ++ [lower], htarget, ?_, ?_, ?_⟩
        · rw [hbefore]
          exact hsub.append (List.Sublist.cons_cons lower (List.nil_sublist rest))
        · intro rung hrung
          rcases List.mem_append.mp hrung with hrung | hrung
          · rw [hdigests rung hrung, hdigest]
          · rw [List.mem_singleton.mp hrung, hdigest]
        · rw [List.map_append, hrungs, List.map_singleton, Pipeline.rungs_succ hlowerAt]
  intro before e behind hcut
  rcases h before e behind hcut with ⟨place, -, htarget, -⟩
  exact hclimb place before e behind hcut htarget

/-- After any run, from an empty log, the log has the record of every promotion that took place, in
    order. Each leads from the source that its call named into the target that it named, from one
    place of the pipeline into the next. If every call of the run minds its source, every record is
    the end of a climb. -/
theorem runAll_climbs (hlog : c.collaborators.Logs log) (rs : List Request)
    {t : Traced (State σ)} (hempty : (log t.world.world).Keeps []) :
    ∃ es, (log (c.runAll rs t).2.world.world).entries = .ok es ∧
      List.Forall₂ (fun p e => e.record = p.2 ∧ p.2.fromEnv = p.1.source ∧
          p.2.toEnv = p.1.target ∧ p.2.Steps c.pipeline)
        (landings rs (c.runAll rs t).1) es ∧
      (c.Along (c.MindsSource log) rs t →
        ∀ before e behind, es = before ++ e :: behind → Climbed c.pipeline before e.record) := by
  rcases runAll_logs hlog (fun hassessed _ _ => hassessed.steps) rs hempty with
    ⟨es, hkept, hsteps⟩
  refine ⟨es, hkept.entries_eq, hsteps, fun hminds => ?_⟩
  -- The entries are those of one log, so they are also the ones that calls with care have added.
  rcases runAll_adds_along hlog (P := fun before _ record => Minded c.pipeline before record)
    (fun hnow hes hassessed hreal _ => hassessed.minded hnow hes hreal) rs hempty hminds with
    ⟨es', hkept', hadded'⟩
  have hsame : es' = es := Except.ok.inj (hkept'.entries_eq.symm.trans hkept.entries_eq)
  subst hsame
  refine climbed_of_minded fun before e behind hcut => ?_
  rw [hcut] at hadded'
  rcases hadded'.at_cut with ⟨_, hminded⟩
  exact hminded

end Controller

/-- Staging and production, with nothing asked of what gets there. -/
def Pipeline.stairs : Pipeline := ⟨[.named "dev", .named "staging", .named "prod"], []⟩

namespace Controller

/-- From the first environment to production in two calls that mind their sources. -/
theorem runAll_climbs_stairs :
    let c := World.controller .calm .stairs "registry"
    let rs := [World.step "dev" "staging", World.step "staging" "prod"]
    World.start.world.world.audit.Keeps [] ∧ c.Along (c.MindsSource World.audit) rs World.start ∧
      ∃ e₁ e₂, (c.runAll rs World.start).2.world.world.audit.entries = .ok [e₁, e₂] ∧
        e₂.record.toEnv = "prod" ∧ Climbed c.pipeline [e₁] e₂.record := by
  intro c rs
  have hempty : World.start.world.world.audit.Keeps [] := Audit.Store.keeps_new.1
  have hresolved : ((c.resolve "v1").outcome
      ((c.promote (World.step "dev" "staging")).outcome World.start).2).1.toOption.map
        Artifact.digest = some ⟨"sha256:a1"⟩ := by
    decide +kernel
  have hone : ((c.promote (World.step "dev" "staging")).outcome
      World.start).2.world.world.audit.entries.toOption.map (List.map fun e =>
        (e.record.digest, e.record.toEnv)) = some [(⟨"sha256:a1"⟩, "staging")] := by
    decide +kernel
  have htwo : (c.runAll rs World.start).2.world.world.audit.entries.toOption.map (List.map fun e =>
        e.record.toEnv) = some ["staging", "prod"] := by
    decide +kernel
  have hminds : c.Along (c.MindsSource World.audit) rs World.start := by
    refine ⟨fun _ hlater => (hlater rfl).elim, fun _ _ artifact t' hresolve es hes => ?_, trivial⟩
    change (c.resolve "v1").outcome _ = _ at hresolve
    rw [hresolve] at hresolved
    rw [hes] at hone
    rcases List.map_eq_cons_iff.mp (Option.some.inj hone) with ⟨e, rest, rfl, hfields, -⟩
    rcases Prod.mk.inj hfields with ⟨hdigest, hinto⟩
    exact ⟨e, List.mem_cons_self, hdigest.trans (Option.some.inj hresolved).symm, hinto⟩
  rcases runAll_climbs (c := c) (World.logs .calm) rs hempty with ⟨es, hentries, -, hclimbs⟩
  rw [hentries] at htwo
  rcases List.map_eq_cons_iff.mp (Option.some.inj htwo) with ⟨e₁, rest, rfl, -, hrest⟩
  rcases List.map_eq_cons_iff.mp hrest with ⟨e₂, rest, rfl, hprod, hnone⟩
  cases List.map_eq_nil_iff.mp hnone
  exact ⟨hempty, hminds, e₁, e₂, hentries, hprod, hclimbs hminds [e₁] e₂ [] rfl⟩

/-- One call takes an artifact into production that no record has brought to staging. -/
theorem climbs_unminded :
    let c := World.controller .calm .stairs "registry"
    build (World.parts .calm .stairs "registry") = .ok c ∧
      World.start.world.world.audit.Keeps [] ∧
      ∃ e, (c.runAll [World.step "staging" "prod"] World.start).2.world.world.audit.entries =
          .ok [e] ∧
        c.pipeline.position? e.record.toEnv = some 2 ∧ ¬ Brought [] e.record.digest "staging" := by
  intro c
  have hone : (c.runAll [World.step "staging" "prod"]
      World.start).2.world.world.audit.entries.toOption.map (List.map fun e =>
        c.pipeline.position? e.record.toEnv) = some [some 2] := by
    decide +kernel
  have hvalid : Pipeline.stairs.validate = .ok () := by decide +kernel
  have huri : Text.allBlank "registry" = false := by decide +kernel
  refine ⟨World.build_parts .calm hvalid huri, Audit.Store.keeps_new.1, ?_⟩
  rcases hentries : (c.runAll [World.step "staging" "prod"]
      World.start).2.world.world.audit.entries with _ | es
  · rw [hentries] at hone
    cases hone
  · rw [hentries] at hone
    rcases List.map_eq_cons_iff.mp (Option.some.inj hone) with ⟨e, rest, rfl, hplace, hnone⟩
    cases List.map_eq_nil_iff.mp hnone
    refine ⟨e, rfl, hplace, ?_⟩
    rintro ⟨lower, hin, -⟩
    cases hin

end Controller

end Promotion
