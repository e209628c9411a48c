import Mathlib.Data.List.Forall2
import Promotion.Proofs.Controller.Replay

/-!
# What Reaches the Log

The log by the promotions that took place, for collaborators of any kind.

A controller knows its log only by what it asks of it. `Logs` says that behind
the requests there is a log after all: it is somewhere in the world, a record
that is added is sealed onto it, and no other request touches it. Nothing is
said of the registry, so what is shown here holds of one that answers at random.

Whatever a promotion has to pass before its record is made, a record in the log
has passed, since no other record gets there. `promote_logs` is that of one
promotion, and `runAll_adds` of a run, for any property that follows from an
assessment and the log that the assessment found.

## Main definitions

* `Collaborators.Logs`: There is a log behind the requests.
* `landings`: The promotions that took place, each with its record.
* `Added`: Entries from some promotions, each with a property of the log before it.

## Theorems

* `Collaborators.Logs.looks`: Nothing before the writes touches the log.
* `Collaborators.Logs.putBack`: Putting tags back does not touch it.
* `Collaborators.Logs.committed`: The writes add the record, or nothing.
* `promote_logs`: A promotion adds the record that it was assessed with, or nothing.
* `runAll_adds_along`, `runAll_adds`, `runAll_logs`: Every entry is from a promotion that took place.
* `runAll_records`: What is added are the records of the promotions that took place.
* `Added.at_cut`: What an entry has in common with all that are before it.
* `World.logs`: In a world there is a log.
-/

namespace Promotion

variable {σ : Type}

/-- There is a log behind the requests. -/
structure Collaborators.Logs (k : Collaborators σ) (log : σ → Audit.Store) : Prop where
  resolve : ∀ uri tag w, log (k.registry.resolve uri tag w).2 = log w
  fetch : ∀ artifact w, log (k.registry.fetch artifact w).2 = log w
  createTag : ∀ artifact tag w, log (k.registry.createTag artifact tag w).2 = log w
  removeTag : ∀ uri tag w, log (k.registry.removeTag uri tag w).2 = log w
  gates : ∀ name subject w, log (k.gates name subject w).2 = log w
  build : ∀ w, log (k.verifier.build w).2 = log w
  verify : ∀ artifact content policy w,
    log (k.verifier.verify artifact content policy w).2 = log w
  query : ∀ question w, log (k.audit.query question w).2 = log w
  clock : ∀ w, log (k.clock w).2 = log w
  freshId : ∀ w, log (k.freshId w).2 = log w
  /-- A record that is not added changes nothing. -/
  refused : ∀ {record w e w'}, k.audit.append record w = (.error e, w') → log w' = log w
  /-- A record that is added is sealed onto the log, whatever the time is. -/
  sealed : ∀ {record w entry w'}, k.audit.append record w = (.ok entry, w') →
    ∃ now, (log w).append record now = (.ok entry, log w')

namespace Collaborators.Logs

variable {c : Controller σ} {log : σ → Audit.Store}

/-- Nothing that is asked before the writes touches the log. -/
theorem looks (h : c.collaborators.Logs log) (store : Audit.Store) :
    c.Looks fun s => log s.world = store where
  resolve _ _ hs := (h.resolve _ _ _).trans hs
  fetch _ _ hs := (h.fetch _ _).trans hs
  gates _ _ _ hs := (h.gates _ _ _).trans hs
  build _ hs := (h.build _).trans hs
  verify _ _ _ _ hs := (h.verify _ _ _ _).trans hs
  query _ _ hs := (h.query _ _).trans hs
  clock _ hs := (h.clock _).trans hs
  freshId _ hs := (h.freshId _).trans hs
  remembers _ _ _ hs := hs

/-- Putting tags back does not touch the log. -/
theorem putBack (h : c.collaborators.Logs log) (before : List (String × Option Digest)) (w : σ) :
    log (c.putBack before w).2 = log w := by
  induction before generalizing w with
  | nil => rfl
  | cons tag rest ih =>
      rcases tag with ⟨name, previous⟩
      have hone : log (c.restoreCall name previous w).2 = log w := by
        cases previous with
        | some digest => exact h.createTag _ _ _
        | none => exact h.removeTag _ _ _
      unfold Controller.putBack
      rcases hcall : c.restoreCall name previous w with ⟨_ | _, w'⟩
      all_goals
        rw [hcall] at hone
        exact (ih w').trans hone

/-- The three writes add the record, or they add nothing. -/
theorem committed (h : c.collaborators.Logs log) {artifact : Artifact} {record : Record} {w w' : σ}
    {answer : Except Error Audit.Entry} (hcommit : c.Committed artifact record w (answer, w')) :
    (∃ e, answer = .error e ∧ log w' = log w) ∨
      ∃ entry now, answer = .ok entry ∧ (log w).append record now = (.ok entry, log w') := by
  -- A tag that is written, or not, is nothing to the log.
  have hcreate : ∀ {tag w w'} {answer : Except Registry.Error Unit},
      c.collaborators.registry.createTag artifact tag w = (answer, w') → log w' = log w := by
    intro tag w w' answer hcall
    rw [← h.createTag artifact tag w, hcall]
  cases hcommit with
  | uncopied hcopy => exact .inl ⟨_, rfl, hcreate hcopy⟩
  | unpointed hcopy hlatest => exact .inl ⟨_, rfl, (hcreate hlatest).trans (hcreate hcopy)⟩
  | unrecorded hcopy hlatest happend =>
      exact .inl ⟨_, rfl, (h.refused happend).trans ((hcreate hlatest).trans (hcreate hcopy))⟩
  | recorded hcopy hlatest happend =>
      rcases h.sealed happend with ⟨now, hsealed⟩
      rw [hcreate hlatest, hcreate hcopy] at hsealed
      exact .inr ⟨_, now, rfl, hsealed⟩

end Collaborators.Logs

namespace Controller

variable {c : Controller σ} {log : σ → Audit.Store}

/-- A promotion adds to the log the record that it was assessed with and answers with, if it is
    meant and no gate keeps it back. Else it adds nothing. -/
theorem promote_logs (h : c.collaborators.Logs log) {r : Request} {t t' : Traced (State σ)}
    {answer : Except Error Record} (hrun : (c.promote r).outcome t = (answer, t')) :
    (landed r answer = [] ∧ log t'.world.world = log t.world.world) ∨
      ∃ artifact record t₁ entry now, landed r answer = [record] ∧
        c.Assessed r t artifact record t₁ ∧ r.dryRun = false ∧ record.isBlocked = false ∧
        (log t.world.world).append record now = (.ok entry, log t'.world.world) := by
  have hends := concluded_promote c r t
  rw [hrun] at hends
  change c.Concluded r t (answer, t'.world) at hends
  generalize t'.world = after at hends
  have hlooks := h.looks (log t.world.world)
  cases hends with
  | refused hassess => exact .inl ⟨rfl, hlooks.assessed hassess rfl⟩
  | rehearsed hassess hdry => exact .inl ⟨if_pos hdry, hlooks.assessed hassess rfl⟩
  | blocked hassess _ _ => exact .inl ⟨rfl, hlooks.assessed hassess rfl⟩
  | unseen hassess _ _ hsnap => exact .inl ⟨rfl, hlooks.sought hassess hsnap rfl⟩
  | undone hassess _ _ hsnap hcommit =>
      refine .inl ⟨rfl, (h.putBack _ _).trans ?_⟩
      rcases h.committed hcommit with ⟨_, -, hkept⟩ | ⟨_, _, hanswer, -⟩
      · exact hkept.trans (hlooks.sought hassess hsnap rfl)
      · cases hanswer
  | landed hassess hreal hfree hsnap hcommit =>
      rcases h.committed hcommit with ⟨_, hanswer, -⟩ | ⟨entry, now, -, happend⟩
      · cases hanswer
      · rw [hlooks.sought hassess hsnap rfl] at happend
        refine .inr ⟨_, _, _, entry, now, ?_, assessed_of_outcome hassess, hreal, hfree, happend⟩
        simp only [landed, hreal, Bool.false_eq_true, if_false]

/-- The promotions that took place, in order, each with the record it answered with. -/
def landings (rs : List Request) (answers : List (Except Error Record)) :
    List (Request × Record) :=
  (rs.zip answers).flatMap fun p => (landed p.1 p.2).map (p.1, ·)

/-- Some entries that were added to a log are from some promotions, in order, and each has a property
    of its promotion and of the log before it. -/
inductive Added (P : List Audit.Entry → Request → Record → Prop) :
    List Audit.Entry → List (Request × Record) → List Audit.Entry → Prop
  | nil {es : List Audit.Entry} : Added P es [] []
  | cons {es : List Audit.Entry} {r : Request} {record : Record} {e : Audit.Entry}
      {ps : List (Request × Record)} {new : List Audit.Entry} : e.record = record →
      P es r record → Added P (es ++ [e]) ps new → Added P es ((r, record) :: ps) (e :: new)

namespace Added

variable {P : List Audit.Entry → Request → Record → Prop} {es new : List Audit.Entry}
  {ps : List (Request × Record)}

/-- What does not depend on the log before can be said entry by entry. -/
theorem forall₂ {Q : Request → Record → Prop} (hQ : ∀ {es r record}, P es r record → Q r record)
    (h : Added P es ps new) : List.Forall₂ (fun p e => e.record = p.2 ∧ Q p.1 p.2) ps new := by
  induction h with
  | nil => exact .nil
  | cons hrecord hfirst _ ih => exact .cons ⟨hrecord, hQ hfirst⟩ ih

/-- Wherever the new entries are cut, the next one has the property of all that are before it. -/
theorem at_cut {before behind : List Audit.Entry} {k : Audit.Entry}
    (h : Added P es ps (before ++ k :: behind)) : ∃ r, P (es ++ before) r k.record := by
  induction before generalizing es ps with
  | nil =>
      rcases h with _ | ⟨hrecord, hfirst, -⟩
      rw [List.append_nil, hrecord]
      exact ⟨_, hfirst⟩
  | cons e before ih =>
      rcases h with _ | ⟨-, -, hrest⟩
      rw [List.append_cons]
      exact ih hrest

end Added

/-- Every entry that a run adds is from a promotion that took place, in order, and has whatever
    follows from the assessment of a promotion that is meant and not kept back. What follows may
    depend on the log that the assessment found, and on what holds of the requests along the run. -/
theorem runAll_adds_along (h : c.collaborators.Logs log) {P : List Audit.Entry → Request → Record → Prop}
    {Q : Request → Traced (State σ) → Prop}
    (hP : ∀ {es r t artifact record t₁}, Q r t → (log t.world.world).Keeps es →
      c.Assessed r t artifact record t₁ → r.dryRun = false → record.isBlocked = false →
      P es r record)
    (rs : List Request) {t : Traced (State σ)} {es : List Audit.Entry}
    (hes : (log t.world.world).Keeps es) (hQ : c.Along Q rs t) :
    ∃ new, (log (c.runAll rs t).2.world.world).Keeps (es ++ new) ∧
      Added P es (landings rs (c.runAll rs t).1) new := by
  induction rs generalizing t es with
  | nil => exact ⟨[], by rwa [List.append_nil], .nil⟩
  | cons r rest ih =>
      rcases hQ with ⟨hnow, hlater⟩
      rcases hrun : (c.promote r).outcome t with ⟨answer, t₁⟩
      rw [hrun] at hlater
      simp only [runAll, hrun]
      rcases promote_logs h hrun with
        ⟨hnone, hsame⟩ | ⟨artifact, record, t₂, entry, now, hone, hassessed, hreal, hfree, happend⟩
      · rw [← hsame] at hes
        rcases ih hes hlater with ⟨new, hkept, hnew⟩
        exact ⟨new, hkept, by simpa only [landings, List.zip_cons_cons, List.flatMap_cons, hnone]⟩
      · -- The entry comes first, and the run goes on with a log that is longer by it.
        rcases hes.append happend with ⟨hlonger, hrecord⟩
        rcases ih hlonger hlater with ⟨new, hkept, hnew⟩
        refine ⟨entry :: new, by rwa [List.append_cons], ?_⟩
        have hfirst : landings (r :: rest) (answer :: (c.runAll rest t₁).1) =
            (r, record) :: landings rest (c.runAll rest t₁).1 := by
          simp only [landings, List.zip_cons_cons, List.flatMap_cons, hone, List.map_cons,
            List.map_nil, List.singleton_append]
        rw [hfirst]
        exact .cons hrecord (hP hnow hes hassessed hreal hfree) hnew

/-- The same where nothing need hold of the requests. -/
theorem runAll_adds (h : c.collaborators.Logs log) {P : List Audit.Entry → Request → Record → Prop}
    (hP : ∀ {es r t artifact record t₁}, (log t.world.world).Keeps es →
      c.Assessed r t artifact record t₁ → r.dryRun = false → record.isBlocked = false →
      P es r record)
    (rs : List Request) {t : Traced (State σ)} {es : List Audit.Entry}
    (hes : (log t.world.world).Keeps es) :
    ∃ new, (log (c.runAll rs t).2.world.world).Keeps (es ++ new) ∧
      Added P es (landings rs (c.runAll rs t).1) new :=
  runAll_adds_along h (fun _ => hP) rs hes (along_of_forall (fun _ _ => trivial) rs t)

/-- Every entry that a run adds is from a promotion that took place, in order, and has whatever
    follows from the assessment alone. -/
theorem runAll_logs (h : c.collaborators.Logs log) {P : Request → Record → Prop}
    (hP : ∀ {r t artifact record t₁}, c.Assessed r t artifact record t₁ → r.dryRun = false →
      record.isBlocked = false → P r record)
    (rs : List Request) {t : Traced (State σ)} {es : List Audit.Entry}
    (hes : (log t.world.world).Keeps es) :
    ∃ new, (log (c.runAll rs t).2.world.world).Keeps (es ++ new) ∧
      List.Forall₂ (fun p e => e.record = p.2 ∧ P p.1 p.2) (landings rs (c.runAll rs t).1) new := by
  have hadds := runAll_adds h (P := fun _ => P) (fun _ hassessed => hP hassessed) rs hes
  rcases hadds with ⟨new, hkept, hadded⟩
  exact ⟨new, hkept, hadded.forall₂ fun hfirst => hfirst⟩

/-- A run adds the records of the promotions that took place, in order. -/
theorem runAll_records (h : c.collaborators.Logs log) (rs : List Request)
    {t : Traced (State σ)} {es : List Audit.Entry} (hes : (log t.world.world).Keeps es) :
    ∃ new, (log (c.runAll rs t).2.world.world).Keeps (es ++ new) ∧
      new.map Audit.Entry.record = landedAll rs (c.runAll rs t).1 := by
  rcases runAll_logs h (P := fun _ _ => True) (fun _ _ _ => trivial) rs hes with
    ⟨new, hkept, hnew⟩
  have hsame : List.Forall₂ Eq ((landings rs (c.runAll rs t).1).map Prod.snd)
      (new.map Audit.Entry.record) :=
    List.forall₂_map_left_iff.mpr
      (List.forall₂_map_right_iff.mpr (hnew.imp fun _ _ hrecord => hrecord.1.symm))
  rw [List.forall₂_eq_eq_eq] at hsame
  refine ⟨new, hkept, ?_⟩
  rw [← hsame]
  simp only [landings, landedAll, List.map_flatMap, List.map_map, Function.comp_def, List.map_id']

end Controller

/-- In a world there is a log, and nobody else writes to it. -/
theorem World.logs {ε : Type} (s : Surroundings ε) : (collaborators s).Logs World.audit where
  resolve uri tag w := by
    rcases resolve_cases s uri tag w with ⟨e, around, -, he⟩ | ⟨around, hok⟩
    · exact congrArg (World.audit ∘ Prod.snd) he
    · exact congrArg (World.audit ∘ Prod.snd) hok
  fetch artifact w := by
    rcases askRegistry_cases s (.fetch artifact.tag) (Registry.client.fetch artifact) w with
      ⟨e, around, -, he⟩ | ⟨around, hok⟩
    · exact congrArg (World.audit ∘ Prod.snd) he
    · exact congrArg (World.audit ∘ Prod.snd) hok
  createTag artifact tag w := by
    rcases createTag_cases s artifact tag w with ⟨e, around, he⟩ | ⟨around, hok⟩
    · exact congrArg (World.audit ∘ Prod.snd) he
    · exact congrArg (World.audit ∘ Prod.snd) hok
  removeTag uri tag w := by
    rcases removeTag_cases s uri tag w with ⟨e, around, he⟩ | ⟨around, hok⟩
    · exact congrArg (World.audit ∘ Prod.snd) he
    · exact congrArg (World.audit ∘ Prod.snd) hok
  gates _ _ _ := rfl
  build _ := rfl
  verify _ _ _ _ := rfl
  query question w := by
    rcases query_cases s question w with ⟨answer, around, he⟩
    exact congrArg (World.audit ∘ Prod.snd) he
  clock _ := rfl
  freshId _ := rfl
  refused h := (append_eq_error h).2
  sealed h := (append_eq_ok h).2

end Promotion
