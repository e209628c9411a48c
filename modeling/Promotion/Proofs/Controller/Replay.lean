import Promotion.Proofs.Controller.Run
import Promotion.Proofs.Controller.Undo

/-!
# The Registry as the Replay of the Log

What a controller has made of a registry is what its log says.

A promotion that lands moves two tags and adds one record; any other moves none
and adds none. So the tags after a run can be told from the tags before it and
the records alone: `replay` makes the moves of the records once more, on nothing
but the tags. Two of the names can be the same, within one promotion or between
two, and then the later move counts, in the registry as in the replay.

The one thing that comes between the two is a tag that is owed and cannot be put
back. `RestoresAll` is that there is none along a run. A dry run writes nothing
and owes nothing, so it may be made while the registry takes no writes at all.

## Main definitions

* `moved`, `replay`: Tags after the moves of a record, and of some records.
* `landed`, `landedAll`: The records of the promotions that took place.
* `RestoresAll`: Along a run, whatever a promotion that is meant owes can be put back.

## Theorems

* `promote_eq_ok`: What a promotion that succeeds has written.
* `promote_keeps`: One promotion keeps registry and log together.
* `runAll_keeps`: So does a run.
* `runAll_replay`: The registry is the replay of the log.
-/

namespace Promotion

namespace Controller

/-- The tags after a record's two moves. -/
def moved (uri : String) (tags : String → String → Option Digest) (record : Record) :
    String → String → Option Digest := fun place tag =>
  if place = uri ∧
      (tag = environmentTag record.toEnv record.tag ∨ tag = latestTag record.toEnv) then
    some record.digest
  else tags place tag

/-- The tags after the moves of some records, one record after the other. -/
def replay (uri : String) (tags : String → String → Option Digest) (records : List Record) :
    String → String → Option Digest :=
  records.foldl (moved uri) tags

theorem replay_append (uri : String) (tags : String → String → Option Digest)
    (records records' : List Record) :
    replay uri tags (records ++ records') = replay uri (replay uri tags records) records' :=
  List.foldl_append

/-- The record of a promotion that took place: it was meant, and it succeeded. -/
def landed (r : Request) (answer : Except Error Record) : List Record :=
  match answer with
  | .ok record => if r.dryRun then [] else [record]
  | .error _ => []

/-- The records of the promotions that took place, in order. -/
def landedAll (rs : List Request) (answers : List (Except Error Record)) : List Record :=
  (rs.zip answers).flatMap fun p => landed p.1 p.2

/-- Along a run, whatever is owed where a promotion stops can be put back. A dry run owes nothing, so
    nothing is asked of it. -/
def RestoresAll {σ : Type} (c : Controller σ) : List Request → Traced (State σ) → Prop
  | [], _ => True
  | r :: rest, t =>
    (r.dryRun = false → ∀ e before w, c.Stops r t e before w → (c.putBack before w).1 = []) ∧
      RestoresAll c rest ((c.promote r).outcome t).2

variable {ε : Type} {s : Surroundings ε} {pipeline : Pipeline} {registryUri : String}

/-- The three writes together make the moves of the record that they add. -/
theorem Committed.moved {artifact : Artifact} (hplace : artifact.registry = registryUri)
    {record : Record} (hdigest : record.digest = artifact.digest) {w w' : World ε}
    {entry : Audit.Entry}
    (h : (World.controller s pipeline registryUri).Committed artifact record w (.ok entry, w')) :
    w'.registry.digestOf = Controller.moved registryUri w.registry.digestOf record ∧
      ∃ now, w.audit.append record now = (.ok entry, w'.audit) := by
  cases h with
  | recorded hcopy hlatest happend =>
      rcases World.createTag_eq_ok hcopy with ⟨hregistry, haudit⟩
      rcases World.createTag_eq_ok hlatest with ⟨hregistry', haudit'⟩
      rcases World.append_eq_ok happend with ⟨hregistry'', now, happended⟩
      rw [haudit', haudit] at happended
      refine ⟨?_, now, happended⟩
      rw [hregistry'', hregistry', hregistry]
      -- If both names are the same the second write hides the first, with the same digest.
      funext place tag
      rw [Registry.digestOf_createTag, Registry.digestOf_createTag, Controller.moved, hplace,
        ← hdigest]
      by_cases huri : place = registryUri
      · by_cases hlast : tag = latestTag record.toEnv
        · simp only [huri, hlast, and_self, or_true, if_true]
        · by_cases hcopied : tag = environmentTag record.toEnv record.tag
          · simp only [huri, hcopied, true_and, true_or, if_true, ite_self]
          · simp only [huri, hlast, hcopied, or_self, and_false, if_false]
      · simp only [huri, false_and, if_false]

/-- A promotion that succeeds makes the moves of its record and adds it to the log, if it is
    meant; a dry run does neither. The record is about what was asked for. -/
theorem promote_eq_ok {r : Request} {t t' : Traced (State (World ε))} {record : Record}
    (h : ((World.controller s pipeline registryUri).promote r).outcome t = (.ok record, t')) :
    record.tag = r.tag ∧ record.toEnv = r.target ∧
      t'.world.world.registry.digestOf =
        replay registryUri t.world.world.registry.digestOf (landed r (.ok record)) ∧
      (r.dryRun = true ∧ t'.world.world.audit = t.world.world.audit ∨
        r.dryRun = false ∧ ∃ entry now,
          t.world.world.audit.append record now = (.ok entry, t'.world.world.audit)) := by
  have hends := concluded_promote (World.controller s pipeline registryUri) r t
  rw [h] at hends
  change Concluded _ r t (.ok record, t'.world) at hends
  generalize t'.world = after at hends ⊢
  cases hends with
  | rehearsed hassess hdry =>
      rcases (assessed_of_outcome hassess).of_request with ⟨-, -, htag, htarget, -⟩
      have hkeep := assess_holds hassess
      refine ⟨htag, htarget, ?_, .inl ⟨hdry, hkeep.audit_eq⟩⟩
      simp only [landed, hdry, if_true, hkeep.registry_eq, replay, List.foldl_nil]
  | @landed artifact _ before entry t₁ t₂ log w hassess hreal _ hsnap hcommit =>
      have hkeep := sought_holds hassess hsnap
      rcases (assessed_of_outcome hassess).of_request with ⟨hplace, hdigest, htag, htarget, -⟩
      -- Nothing before the writes changed registry or log, so they start from the old ones.
      rcases hcommit.moved hplace hdigest with ⟨hregistry, now, happend⟩
      rw [hkeep.audit_eq] at happend
      rw [hkeep.registry_eq] at hregistry
      refine ⟨htag, htarget, ?_, .inr ⟨hreal, entry, now, happend⟩⟩
      simp only [Controller.landed, hreal, Bool.false_eq_true, if_false, replay,
        List.foldl_cons, List.foldl_nil]
      exact hregistry

/-- One promotion keeps registry and log together: both gain what landed, or neither does. -/
theorem promote_keeps (hs : s.Truthful) {r : Request} {t t' : Traced (State (World ε))}
    {answer : Except Error Record}
    (h : ((World.controller s pipeline registryUri).promote r).outcome t = (answer, t'))
    (hrestores : r.dryRun = false →
      ∀ e before w, (World.controller s pipeline registryUri).Stops r t e before w →
        ((World.controller s pipeline registryUri).putBack before w).1 = [])
    {es : List Audit.Entry} (hes : t.world.world.audit.Keeps es) :
    ∃ es', t'.world.world.audit.Keeps (es ++ es') ∧
      es'.map Audit.Entry.record = landed r answer ∧
      t'.world.world.registry.digestOf =
        replay registryUri t.world.world.registry.digestOf (landed r answer) := by
  cases answer with
  | error e =>
      have hends := concluded_promote (World.controller s pipeline registryUri) r t
      rw [h] at hends
      change Concluded _ r t (.error e, t'.world) at hends
      have hsame : t'.world.world.audit = t.world.world.audit ∧
          t'.world.world.registry.digestOf = t.world.world.registry.digestOf := by
        cases hdry : r.dryRun with
        | true =>
            -- The checks only look, and nothing comes after them.
            rcases hends.of_dryRun hdry with ⟨assessed, t₁, hassess, -, hworld⟩
            have hkeep := assess_holds hassess
            rw [hworld]
            exact ⟨hkeep.audit_eq, congrArg Registry.digestOf hkeep.registry_eq⟩
        | false =>
            -- Nothing is lost, so the two registries differ at no tag at all.
            rcases hends.stops with ⟨before, w, hstops, hworld, -⟩
            rcases hstops.undone hs with ⟨hdiffers, haudit⟩
            rw [hrestores hdry e before w hstops] at hdiffers
            rw [hworld]
            refine ⟨haudit, ?_⟩
            funext place tag
            exact hdiffers place tag fun _ => List.not_mem_nil
      rcases hsame with ⟨haudit, hregistry⟩
      refine ⟨[], ?_, rfl, hregistry⟩
      rw [haudit, List.append_nil]
      exact hes
  | ok record =>
      rcases promote_eq_ok h with
        ⟨-, -, hregistry, ⟨hdry, haudit⟩ | ⟨hreal, entry, now, happend⟩⟩
      · refine ⟨[], ?_, ?_, hregistry⟩
        · rw [haudit, List.append_nil]
          exact hes
        · simp only [landed, hdry, if_true, List.map_nil]
      · rcases hes.append happend with ⟨hkept, hrecord⟩
        refine ⟨[entry], hkept, ?_, hregistry⟩
        simp only [landed, hreal, Bool.false_eq_true, if_false, List.map_cons, List.map_nil, hrecord]

/-- A run keeps registry and log together. -/
theorem runAll_keeps (hs : s.Truthful) {rs : List Request} {t : Traced (State (World ε))}
    (hrestores : (World.controller s pipeline registryUri).RestoresAll rs t)
    {es : List Audit.Entry} (hes : t.world.world.audit.Keeps es) :
    ∃ es',
      ((World.controller s pipeline registryUri).runAll rs t).2.world.world.audit.Keeps
        (es ++ es') ∧
      es'.map Audit.Entry.record =
        landedAll rs ((World.controller s pipeline registryUri).runAll rs t).1 ∧
      ((World.controller s pipeline registryUri).runAll rs t).2.world.world.registry.digestOf =
        replay registryUri t.world.world.registry.digestOf (es'.map Audit.Entry.record) := by
  induction rs generalizing t es with
  | nil => exact ⟨[], by rwa [List.append_nil], rfl, rfl⟩
  | cons r rest ih =>
      rcases hrestores with ⟨hnow, hrest⟩
      rcases hrun : ((World.controller s pipeline registryUri).promote r).outcome t with
        ⟨answer, t₁⟩
      rw [hrun] at hrest
      -- What is kept so far grows along the run: `ih` is used with one entry more or none.
      rcases promote_keeps hs hrun hnow hes with ⟨new, hkept, hnew, hregistry⟩
      rcases ih hrest hkept with ⟨later, hkept', hlater, hregistry'⟩
      simp only [runAll, hrun]
      refine ⟨new ++ later, ?_, ?_, ?_⟩
      · rwa [← List.append_assoc]
      · rw [List.map_append, hnew, hlater]
        rfl
      · rw [hregistry', hregistry, List.map_append, replay_append, hnew]

/-- The registry is the replay of the log. After any run that starts with an empty log and restores
    whatever is owed, the log has the records of the promotions that took place, in order, and the
    tags are those from before with the moves of these records made on them. -/
theorem runAll_replay (hs : s.Truthful) {rs : List Request} {t : Traced (State (World ε))}
    (hempty : t.world.world.audit.Keeps [])
    (hrestores : (World.controller s pipeline registryUri).RestoresAll rs t) :
    ∃ es,
      ((World.controller s pipeline registryUri).runAll rs t).2.world.world.audit.entries =
        .ok es ∧
      es.map Audit.Entry.record =
        landedAll rs ((World.controller s pipeline registryUri).runAll rs t).1 ∧
      ((World.controller s pipeline registryUri).runAll rs t).2.world.world.registry.digestOf =
        replay registryUri t.world.world.registry.digestOf (es.map Audit.Entry.record) := by
  rcases runAll_keeps hs hrestores hempty with ⟨es, hkept, hrecords, hregistry⟩
  exact ⟨es, hkept.entries_eq, hrecords, hregistry⟩

/-- A registry that refuses no write puts back whatever is owed. -/
theorem putBack_of_unrefused
    (hcreate : ∀ name around, (s.registryRefuses (.create name) around).1 = none)
    (hremove : ∀ name around, (s.registryRefuses (.remove name) around).1 = none)
    (before : List (String × Option Digest)) (w : World ε) :
    ((World.controller s pipeline registryUri).putBack before w).1 = [] := by
  induction before generalizing w with
  | nil => rfl
  | cons tag rest ih =>
      rcases tag with ⟨name, _ | digest⟩
      · rcases World.askRegistry_cases s (.remove name)
          (Registry.client.removeTag registryUri name) w with ⟨e, around, he, -⟩ | ⟨around, hok⟩
        · rw [hremove] at he
          cases he
        · have hcall : (World.controller s pipeline registryUri).restoreCall name none w =
            (.ok (), _) := hok
          simp only [putBack, hcall, ih]
      · rcases World.askRegistry_cases s (.create name)
          (Registry.client.createTag ⟨registryUri, name, digest⟩ name) w with
          ⟨e, around, he, -⟩ | ⟨around, hok⟩
        · rw [hcreate] at he
          cases he
        · have hcall : (World.controller s pipeline registryUri).restoreCall name (some digest) w =
            (.ok (), _) := hok
          simp only [putBack, hcall, ih]

/-- With a registry that refuses no write, a run restores whatever is owed. -/
theorem restoresAll_of_unrefused
    (hcreate : ∀ name around, (s.registryRefuses (.create name) around).1 = none)
    (hremove : ∀ name around, (s.registryRefuses (.remove name) around).1 = none)
    (rs : List Request) (t : Traced (State (World ε))) :
    (World.controller s pipeline registryUri).RestoresAll rs t := by
  induction rs generalizing t with
  | nil => trivial
  | cons r rest ih =>
      exact ⟨fun _ _ before w _ => putBack_of_unrefused hcreate hremove before w, ih _⟩

/-- A dry run and then the promotion itself: one record, and its two moves. -/
theorem runAll_replay_calm :
    ∃ answers t', (World.controller .calm (World.ladder (.named "prod")) "registry").runAll
        [World.climb true, World.climb false] World.start = (answers, t') ∧
      ∃ e, t'.world.world.audit.entries = .ok [e] ∧
        t'.world.world.registry.digestOf =
          moved "registry" World.start.world.world.registry.digestOf e.record := by
  have htruthful : Surroundings.calm.Truthful := fun _ _ _ _ => nofun
  have hempty : World.start.world.world.audit.Keeps [] := Audit.Store.keeps_new.1
  have hrestores : (World.controller .calm (World.ladder (.named "prod")) "registry").RestoresAll
      [World.climb true, World.climb false] World.start :=
    restoresAll_of_unrefused (fun _ _ => rfl) (fun _ _ => rfl) _ _
  have hone : (landedAll [World.climb true, World.climb false]
      ((World.controller .calm (World.ladder (.named "prod")) "registry").runAll
        [World.climb true, World.climb false] World.start).1).length = 1 := by
    decide +kernel
  have hreplay := runAll_replay htruthful hempty hrestores
  rcases hrun : (World.controller .calm (World.ladder (.named "prod")) "registry").runAll
    [World.climb true, World.climb false] World.start with ⟨answers, t'⟩
  rw [hrun] at hone hreplay
  rcases hreplay with ⟨es, hes, hrecords, hregistry⟩
  rw [← hrecords, List.length_map] at hone
  rcases List.length_eq_one_iff.mp hone with ⟨e, rfl⟩
  exact ⟨answers, t', rfl, e, hes, hregistry⟩

end Controller

end Promotion
