import Promotion.Proofs.World

/-!
# A Promotion that Fails

What a failed promotion leaves behind: nothing but what could not be put back.

A promotion writes two tags and a record, and any of the writes can fail. The
tags were looked up before, so what is undone is known. Undoing is a list of
requests again, and these can fail too; then the tag they are about keeps what
was written to it, and no other tag does. `DiffersAt` is that said of two
registries, and `putBack_differsAt` is the induction over the requests: it
carries the tags that are still to be put back together with those that were
lost.

The two tags can have the same name. Then the snapshot lists it twice with the
same digest, and putting it back twice is as good as once. The induction does
not notice, since it never assumes that names differ.

## Main definitions

* `Registry.DiffersAt`: Two registries agree on all tags but some.
* `Webhook.promotions`: The background tasks that tell of a promotion.
* `Controller.Stops`: Where a promotion that is meant stops, and what is owed.

## Theorems

* `lookTag_digest`: A tag is found where the registry has it.
* `putBack_differsAt`: Only the tags that were lost differ in the end.
* `Stops.owes`: What is owed where a promotion stops.
* `Concluded.stops`: A promotion that fails has stopped somewhere.
* `promote_error_undone`: A promotion that fails is undone.
-/

namespace Promotion

variable {ε : Type}

namespace Registry

theorem digestOf_createTag (g : Registry) (a : Artifact) (name uri tag : String) :
    (g.createTag a name).digestOf uri tag =
      if uri = a.registry ∧ tag = name then some a.digest else g.digestOf uri tag := by
  simp only [createTag, digestOf, Table.find?_insert, Prod.mk.injEq]

theorem digestOf_removeTag (g : Registry) (place name uri tag : String) :
    (g.removeTag place name).digestOf uri tag =
      if uri = place ∧ tag = name then none else g.digestOf uri tag := by
  simp only [removeTag, digestOf, Table.find?_erase, Prod.mk.injEq]

/-- Two registries agree on all tags but some of one place. -/
def DiffersAt (uri : String) (names : List String) (g g' : Registry) : Prop :=
  ∀ place tag, (place = uri → tag ∉ names) → g'.digestOf place tag = g.digestOf place tag

namespace DiffersAt

variable {uri : String} {names : List String} {g g' : Registry}

theorem refl (uri : String) (names : List String) (g : Registry) : DiffersAt uri names g g :=
  fun _ _ _ => rfl

theorem mono {names' : List String} (h : DiffersAt uri names g g')
    (hsub : ∀ name ∈ names, name ∈ names') : DiffersAt uri names' g g' := by
  intro place tag hout
  exact h place tag fun hplace hin => hout hplace (hsub tag hin)

/-- Writing a tag that may differ adds no difference. -/
theorem createTag (h : DiffersAt uri names g g') {a : Artifact} {name : String}
    (ha : a.registry = uri) (hname : name ∈ names) :
    DiffersAt uri names g (g'.createTag a name) := by
  intro place tag hout
  rw [digestOf_createTag, if_neg, h place tag hout]
  rintro ⟨hplace, rfl⟩
  exact hout (hplace.trans ha) hname

/-- A tag that is as it was differs no more, if nothing else changed. -/
theorem restored {g'' : Registry} {name : String} (h : DiffersAt uri (name :: names) g g')
    (hname : g''.digestOf uri name = g.digestOf uri name)
    (hothers : ∀ place tag, ¬ (place = uri ∧ tag = name) →
      g''.digestOf place tag = g'.digestOf place tag) : DiffersAt uri names g g'' := by
  intro place tag hout
  by_cases hsame : place = uri ∧ tag = name
  · rcases hsame with ⟨rfl, rfl⟩
    exact hname
  · rw [hothers place tag hsame]
    refine h place tag fun hplace hin => ?_
    -- Any other tag was outside of the list before.
    rcases List.mem_cons.mp hin with htag | hin
    · exact hsame ⟨hplace, htag⟩
    · exact hout hplace hin

theorem createTag_restored {name : String} {digest : Digest}
    (h : DiffersAt uri (name :: names) g g') (hold : g.digestOf uri name = some digest) :
    DiffersAt uri names g (g'.createTag ⟨uri, name, digest⟩ name) := by
  refine h.restored ?_ fun place tag hother => ?_
  · rw [digestOf_createTag, if_pos ⟨rfl, rfl⟩, hold]
  · rw [digestOf_createTag, if_neg hother]

theorem removeTag_restored {name : String} (h : DiffersAt uri (name :: names) g g')
    (hold : g.digestOf uri name = none) : DiffersAt uri names g (g'.removeTag uri name) := by
  refine h.restored ?_ fun place tag hother => ?_
  · rw [digestOf_removeTag, if_pos ⟨rfl, rfl⟩, hold]
  · rw [digestOf_removeTag, if_neg hother]

end DiffersAt

end Registry

namespace Webhook

/-- The background tasks that are telling, or are still to tell, of a promotion. -/
def promotions (pending : List Task) : List Task :=
  pending.filter fun t => t.isRunning && t.event = .promote

/-- Telling of a failed gate starts no task that tells of a promotion, and ends none. -/
theorem promotions_detach_gateFailed (webhooks : List Webhook) (record : Record)
    (pending : List Task) :
    promotions (detach webhooks .gateFailed record pending) = promotions pending := by
  unfold promotions detach
  cases subscribers webhooks .gateFailed with
  | nil => rfl
  | cons w rest =>
      rw [List.filter_append, List.filter_filter]
      have hnew : ∀ task : Task, task.event = .gateFailed →
          [task].filter (fun t => t.isRunning && t.event = .promote) = [] := by
        intro task hevent
        simp [hevent]
      rw [hnew _ rfl, List.append_nil]
      congr 1
      funext t
      cases t.isRunning <;> simp

end Webhook

namespace Controller

/-- Where a promotion that is meant stops: the failure that stops it, the tags that are then owed
    with where they pointed, and the world at that moment. Nothing has been undone yet. -/
inductive Stops {σ : Type} (c : Controller σ) (r : Request) (t : Traced (State σ)) :
    Error → List (String × Option Digest) → σ → Prop
  /-- A check was not passed, or the collaborator that was to answer it failed. -/
  | checking {e : Error} {t₁ : Traced (State σ)} :
      (c.assess r).outcome t = (.error e, t₁) → Stops c r t e [] t₁.world.world
  /-- A required gate failed. -/
  | gated {artifact : Artifact} {record : Record} {t₁ : Traced (State σ)} :
      (c.assess r).outcome t = (.ok (artifact, record), t₁) → record.isBlocked = true →
      Stops c r t (.gatesFailed record.tag record.digest record.toEnv record.gateResults) []
        t₁.world.world
  /-- One of the two tags could not be looked up. -/
  | looking {artifact : Artifact} {record : Record} {e : Error} {t₁ t₂ : Traced (State σ)}
      {log : List Log.Event} :
      (c.assess r).outcome t = (.ok (artifact, record), t₁) → record.isBlocked = false →
      (c.snapshot record).outcome ⟨t₁.world, log⟩ = (.error e, t₂) →
      Stops c r t e [] t₂.world.world
  /-- One of the three writes failed. -/
  | writing {artifact : Artifact} {record : Record} {before : List (String × Option Digest)}
      {e : Error} {t₁ t₂ : Traced (State σ)} {log : List Log.Event} {w : σ} :
      (c.assess r).outcome t = (.ok (artifact, record), t₁) → record.isBlocked = false →
      (c.snapshot record).outcome ⟨t₁.world, log⟩ = (.ok before, t₂) →
      c.Committed artifact record t₂.world.world (.error e, w) →
      Stops c r t e before w

variable {s : Surroundings ε} {pipeline : Pipeline} {registryUri : String}

/-- A tag is found where the registry has it. -/
theorem lookTag_digest (hs : s.Truthful) {name : String} {t t' : Traced (State (World ε))}
    {found : String × Option Digest}
    (h : ((World.controller s pipeline registryUri).lookTag name).outcome t = (.ok found, t')) :
    found = (name, t.world.world.registry.digestOf registryUri name) := by
  rcases lookTag_eq_ok h with ⟨answer, w, hask, -, hfound⟩
  change (World.registryClient s).resolve registryUri name t.world.world = _ at hask
  rcases World.resolve_cases s registryUri name t.world.world with ⟨e, around, he, hr⟩ | ⟨around, hr⟩
  · -- A refusal is no answer that the controller takes for one.
    rw [hr] at hask
    cases hask
    rcases hfound with ⟨digest, hanswer, -⟩ | ⟨tag, registry, hanswer, -⟩
    · cases hanswer
    · cases hanswer
      exact absurd he (hs name _ tag registry)
  · rw [hr] at hask
    cases hask
    unfold Registry.resolve at hfound
    cases hd : t.world.world.registry.digestOf registryUri name with
    | some digest =>
        rw [hd] at hfound
        rcases hfound with ⟨digest', hanswer, rfl⟩ | ⟨tag, registry, hanswer, -⟩
        · cases hanswer
          rfl
        · cases hanswer
    | none =>
        rw [hd] at hfound
        rcases hfound with ⟨digest', hanswer, -⟩ | ⟨tag, registry, -, rfl⟩
        · cases hanswer
        · rfl

variable (s pipeline registryUri) in
/-- A tag is put back to where it pointed, or nothing changes. -/
theorem restoreCall_cases (name : String) (previous : Option Digest) (w : World ε) :
    (∃ e around, (World.controller s pipeline registryUri).restoreCall name previous w =
      (.error e, { w with around })) ∨
    ∃ around, (World.controller s pipeline registryUri).restoreCall name previous w =
      (.ok (), { w with around, registry := match previous with
        | some digest => w.registry.createTag ⟨registryUri, name, digest⟩ name
        | none => w.registry.removeTag registryUri name }) := by
  cases previous with
  | some digest => exact World.createTag_cases s ⟨registryUri, name, digest⟩ name w
  | none => exact World.removeTag_cases s registryUri name w

/-- Only the tags that were lost differ in the end, if the tags that are put back are put back to
    where they were. -/
theorem putBack_differsAt {g : Registry} {before : List (String × Option Digest)}
    (hbefore : ∀ tag ∈ before, tag.2 = g.digestOf registryUri tag.1) (lost : List String)
    (w : World ε)
    (hw : g.DiffersAt registryUri (before.map Prod.fst ++ lost) w.registry) :
    g.DiffersAt registryUri
        (((World.controller s pipeline registryUri).putBack before w).1 ++ lost)
        ((World.controller s pipeline registryUri).putBack before w).2.registry ∧
      ((World.controller s pipeline registryUri).putBack before w).2.audit = w.audit := by
  -- The induction carries the tags that are still to be put back in front of the lost ones.
  induction before generalizing lost w with
  | nil => exact ⟨hw, rfl⟩
  | cons tag rest ih =>
      rcases tag with ⟨name, previous⟩
      have hrest : ∀ tag ∈ rest, tag.2 = g.digestOf registryUri tag.1 := fun tag htag =>
        hbefore tag (List.mem_cons_of_mem _ htag)
      have hname : previous = g.digestOf registryUri name :=
        hbefore (name, previous) List.mem_cons_self
      rcases restoreCall_cases s pipeline registryUri name previous w with
        ⟨e, around, he⟩ | ⟨around, hok⟩
      · -- The tag is lost, and the rest is put back all the same.
        have hlost : g.DiffersAt registryUri (rest.map Prod.fst ++ name :: lost) w.registry :=
          hw.mono fun tag htag => by
            rw [List.map_cons, List.cons_append, List.mem_cons, List.mem_append] at htag
            rw [List.mem_append, List.mem_cons]
            rcases htag with htag | htag | htag
            · exact .inr (.inl htag)
            · exact .inl htag
            · exact .inr (.inr htag)
        rcases ih hrest (name :: lost) { w with around } hlost with ⟨hdiffers, haudit⟩
        simp only [putBack, he]
        exact ⟨hdiffers.mono fun tag htag => List.perm_middle.mem_iff.mp htag, haudit⟩
      · rw [List.map_cons, List.cons_append] at hw
        simp only [putBack, hok]
        refine ih hrest lost _ ?_
        cases previous with
        | some digest => exact hw.createTag_restored hname.symm
        | none => exact hw.removeTag_restored hname.symm

variable (pipeline registryUri) in
/-- A write that fails leaves the two tags of a promotion open, and nothing else. -/
theorem Committed.differsAt {artifact : Artifact} (hplace : artifact.registry = registryUri)
    {record : Record} {w w' : World ε} {e : Error}
    (h : (World.controller s pipeline registryUri).Committed artifact record w (.error e, w')) :
    w.registry.DiffersAt registryUri
        [environmentTag record.toEnv record.tag, latestTag record.toEnv] w'.registry ∧
      w'.audit = w.audit := by
  have hsame := Registry.DiffersAt.refl registryUri
    [environmentTag record.toEnv record.tag, latestTag record.toEnv] w.registry
  -- After the first write one tag may differ, and after the second the other as well.
  have hcopied := hsame.createTag hplace (List.mem_cons_self)
  have hpointed := hcopied.createTag hplace (List.mem_cons_of_mem _ List.mem_cons_self)
  cases h with
  | uncopied hcopy =>
      rcases World.createTag_eq_error hcopy with ⟨hregistry, haudit⟩
      rw [hregistry]
      exact ⟨hsame, haudit⟩
  | unpointed hcopy hlatest =>
      rcases World.createTag_eq_ok hcopy with ⟨hregistry, haudit⟩
      rcases World.createTag_eq_error hlatest with ⟨hregistry', haudit'⟩
      rw [hregistry', hregistry]
      exact ⟨hcopied, haudit'.trans haudit⟩
  | unrecorded hcopy hlatest happend =>
      rcases World.createTag_eq_ok hcopy with ⟨hregistry, haudit⟩
      rcases World.createTag_eq_ok hlatest with ⟨hregistry', haudit'⟩
      rcases World.append_eq_error happend with ⟨hregistry'', haudit''⟩
      rw [hregistry'', hregistry', hregistry]
      exact ⟨hpointed, haudit''.trans (haudit'.trans haudit)⟩

/-- A snapshot shows where the two tags of a promotion point. -/
theorem snapshot_digest (hs : s.Truthful) {record : Record}
    {t t' : Traced (State (World ε))} {before : List (String × Option Digest)}
    (h : ((World.controller s pipeline registryUri).snapshot record).outcome t =
      (.ok before, t')) :
    before = [environmentTag record.toEnv record.tag, latestTag record.toEnv].map fun name =>
      (name, t.world.world.registry.digestOf registryUri name) := by
  rcases snapshot_eq_ok h with ⟨copy, latest, t₁, rfl, hcopy, hlatest⟩
  -- The second look finds the registry that the first one saw.
  have hkeep := (World.looks_holds s pipeline registryUri t.world.world.registry
    t.world.world.audit t.world.pending).toAsks.lookTag (environmentTag record.toEnv record.tag) t
    ⟨rfl, rfl, rfl⟩
  rw [hcopy] at hkeep
  rw [lookTag_digest hs hcopy, lookTag_digest hs hlatest, hkeep.registry_eq]
  rfl

/-- Only a tag that was to be put back can be lost. -/
theorem mem_of_mem_putBack {σ : Type} {c : Controller σ} {name : String}
    {before : List (String × Option Digest)} {w : σ} (h : name ∈ (c.putBack before w).1) :
    name ∈ before.map Prod.fst := by
  induction before generalizing w with
  | nil => cases h
  | cons tag rest ih =>
      unfold putBack at h
      rcases hc : c.restoreCall tag.1 tag.2 w with ⟨_ | _, w'⟩
      all_goals rw [hc] at h
      · rcases List.mem_cons.mp h with rfl | h
        · exact List.mem_cons_self
        · exact List.mem_cons_of_mem _ (ih h)
      · exact List.mem_cons_of_mem _ (ih h)

/-- What is looked at before the writes changes nothing of what a world holds. -/
theorem assess_holds {r : Request} {t t₁ : Traced (State (World ε))}
    {answer : Except Error (Artifact × Record)}
    (h : ((World.controller s pipeline registryUri).assess r).outcome t = (answer, t₁)) :
    State.Holds t.world.world.registry t.world.world.audit t.world.pending t₁.world :=
  (World.looks_holds s pipeline registryUri _ _ _).assessed h ⟨rfl, rfl, rfl⟩

/-- Up to the writes, nothing of what a world holds has changed. -/
theorem sought_holds {r : Request} {record : Record} {t t₁ t₂ : Traced (State (World ε))}
    {assessed : Except Error (Artifact × Record)} {log : List Log.Event}
    {answer : Except Error (List (String × Option Digest))}
    (hassess : ((World.controller s pipeline registryUri).assess r).outcome t = (assessed, t₁))
    (hsnap : ((World.controller s pipeline registryUri).snapshot record).outcome ⟨t₁.world, log⟩ =
      (answer, t₂)) :
    State.Holds t.world.world.registry t.world.world.audit t.world.pending t₂.world :=
  (World.looks_holds s pipeline registryUri _ _ _).sought hassess hsnap ⟨rfl, rfl, rfl⟩

/-- Where a promotion stops only the tags that are owed can differ, and what is owed is where they
    pointed before. -/
theorem Stops.owes (hs : s.Truthful) {r : Request} {t : Traced (State (World ε))} {e : Error}
    {before : List (String × Option Digest)} {w : World ε}
    (h : (World.controller s pipeline registryUri).Stops r t e before w) :
    t.world.world.registry.DiffersAt registryUri (before.map Prod.fst) w.registry ∧
      w.audit = t.world.world.audit ∧
      (∀ tag ∈ before, tag.2 = t.world.world.registry.digestOf registryUri tag.1) ∧
      ∀ name ∈ before.map Prod.fst,
        name = environmentTag r.target r.tag ∨ name = latestTag r.target := by
  -- Only the last of the four comes after a write, and only there anything is owed.
  have hsame := Registry.DiffersAt.refl registryUri [] t.world.world.registry
  cases h with
  | checking hassess =>
      have hkeep := assess_holds hassess
      rw [hkeep.registry_eq]
      exact ⟨hsame, hkeep.audit_eq, nofun, nofun⟩
  | gated hassess _ =>
      have hkeep := assess_holds hassess
      rw [hkeep.registry_eq]
      exact ⟨hsame, hkeep.audit_eq, nofun, nofun⟩
  | looking hassess _ hsnap =>
      have hkeep := sought_holds hassess hsnap
      rw [hkeep.registry_eq]
      exact ⟨hsame, hkeep.audit_eq, nofun, nofun⟩
  | @writing artifact record _ _ t₁ t₂ log _ hassess _ hsnap hcommit =>
      have hkeep := sought_holds hassess hsnap
      have hbefore : before = [environmentTag record.toEnv record.tag, latestTag record.toEnv].map
          fun name => (name, t₁.world.world.registry.digestOf registryUri name) :=
        snapshot_digest (t := ⟨t₁.world, log⟩) hs hsnap
      rw [(assess_holds hassess).registry_eq] at hbefore
      rcases (assessed_of_outcome hassess).of_request with ⟨hplace, -, htag, htarget, -⟩
      rcases Committed.differsAt pipeline registryUri hplace hcommit with ⟨hopen, hkept⟩
      -- The record is about what was asked for, so its two tags are those of the request.
      have hnames : before.map Prod.fst = [environmentTag r.target r.tag, latestTag r.target] := by
        rw [hbefore, htag, htarget]
        rfl
      refine ⟨?_, hkept.trans hkeep.audit_eq, ?_, ?_⟩
      · rwa [hnames, ← htag, ← htarget, ← hkeep.registry_eq]
      · intro tag hin
        rw [hbefore] at hin
        rcases List.mem_map.mp hin with ⟨name, -, rfl⟩
        rfl
      · intro name hin
        rw [hnames] at hin
        simpa using hin

/-- A promotion that fails has stopped somewhere for that reason, and then put back what was owed.
    No webhook is to tell of a promotion. -/
theorem Concluded.stops {r : Request} {t : Traced (State (World ε))} {e : Error}
    {after : State (World ε)}
    (h : (World.controller s pipeline registryUri).Concluded r t (.error e, after)) :
    ∃ before w, (World.controller s pipeline registryUri).Stops r t e before w ∧
      after.world = ((World.controller s pipeline registryUri).putBack before w).2 ∧
      Webhook.promotions after.pending = Webhook.promotions t.world.pending := by
  cases h with
  | refused hassess =>
      refine ⟨[], _, .checking hassess, rfl, ?_⟩
      rw [(assess_holds hassess).pending_eq]
  | blocked hassess _ hblocked =>
      refine ⟨[], _, .gated hassess hblocked, rfl, ?_⟩
      rw [Webhook.promotions_detach_gateFailed, (assess_holds hassess).pending_eq]
  | unseen hassess _ hfree hsnap =>
      refine ⟨[], _, .looking hassess hfree hsnap, rfl, ?_⟩
      rw [(sought_holds hassess hsnap).pending_eq]
  | undone hassess _ hfree hsnap hcommit =>
      refine ⟨_, _, .writing hassess hfree hsnap hcommit, rfl, ?_⟩
      rw [(sought_holds hassess hsnap).pending_eq]

/-- What is owed is put back, but for the tags that are lost. -/
theorem Stops.undone (hs : s.Truthful) {r : Request} {t : Traced (State (World ε))} {e : Error}
    {before : List (String × Option Digest)} {w : World ε}
    (h : (World.controller s pipeline registryUri).Stops r t e before w) :
    t.world.world.registry.DiffersAt registryUri
        ((World.controller s pipeline registryUri).putBack before w).1
        ((World.controller s pipeline registryUri).putBack before w).2.registry ∧
      ((World.controller s pipeline registryUri).putBack before w).2.audit =
        t.world.world.audit := by
  rcases h.owes hs with ⟨hopen, hkept, hfound, -⟩
  rw [← List.append_nil (before.map Prod.fst)] at hopen
  rcases putBack_differsAt hfound [] w hopen with ⟨hdiffers, hback⟩
  rw [List.append_nil] at hdiffers
  exact ⟨hdiffers, hback.trans hkept⟩

/-- A promotion that fails is undone. It fails for the reason it stopped for, which is found before
    anything is put back. The log is as it was, no webhook is to tell of a promotion, and all tags
    are as they were but those that could not be put back, which can only be the two it moves. -/
theorem promote_error_undone (hs : s.Truthful) {r : Request}
    {t t' : Traced (State (World ε))} {e : Error}
    (h : ((World.controller s pipeline registryUri).promote r).outcome t = (.error e, t')) :
    ∃ before w, (World.controller s pipeline registryUri).Stops r t e before w ∧
      t'.world.world = ((World.controller s pipeline registryUri).putBack before w).2 ∧
      t'.world.world.audit = t.world.world.audit ∧
      Webhook.promotions t'.world.pending = Webhook.promotions t.world.pending ∧
      t.world.world.registry.DiffersAt registryUri
        ((World.controller s pipeline registryUri).putBack before w).1
        t'.world.world.registry ∧
      ∀ name ∈ ((World.controller s pipeline registryUri).putBack before w).1,
        name = environmentTag r.target r.tag ∨ name = latestTag r.target := by
  have hends := concluded_promote (World.controller s pipeline registryUri) r t
  rw [h] at hends
  rcases hends.stops with ⟨before, w, hstops, hworld, hpending⟩
  rcases hstops.undone hs with ⟨hdiffers, haudit⟩
  rcases hstops.owes hs with ⟨-, -, -, hnames⟩
  have hback : t'.world.world = ((World.controller s pipeline registryUri).putBack before w).2 :=
    hworld
  refine ⟨before, w, hstops, hback, ?_, hpending, ?_, fun name hlost => ?_⟩
  · rw [hback, haudit]
  · rwa [hback]
  · exact hnames name (mem_of_mem_putBack hlost)

/-- On a full disk both tags are written, the record is not, and the promotion is undone. -/
theorem promote_error_undone_fullDisk :
    Surroundings.fullDisk.Truthful ∧
    ∃ t', ((World.controller .fullDisk (World.ladder (.named "prod")) "registry").promote
        (World.climb false)).outcome World.start =
          (.error (.audit (.io (.reported "no space left on device"))), t') ∧
      ∃ before w, (World.controller .fullDisk (World.ladder (.named "prod")) "registry").Stops
          (World.climb false) World.start
          (.audit (.io (.reported "no space left on device"))) before w ∧
        t'.world.world = ((World.controller .fullDisk (World.ladder (.named "prod"))
          "registry").putBack before w).2 := by
  have htruthful : Surroundings.fullDisk.Truthful := fun _ _ _ _ => nofun
  have hfails : (((World.controller .fullDisk (World.ladder (.named "prod")) "registry").promote
      (World.climb false)).outcome World.start).1 =
        .error (.audit (.io (.reported "no space left on device"))) := by
    decide +kernel
  rcases hrun : ((World.controller .fullDisk (World.ladder (.named "prod")) "registry").promote
    (World.climb false)).outcome World.start with ⟨answer, t'⟩
  rw [hrun] at hfails
  change answer = _ at hfails
  subst hfails
  rcases promote_error_undone htruthful hrun with ⟨before, w, hstops, hworld, -⟩
  exact ⟨htruthful, t', rfl, before, w, hstops, hworld⟩

end Controller

end Promotion
