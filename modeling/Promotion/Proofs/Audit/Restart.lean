import Promotion.Proofs.Audit.Store

/-!
# A File Like Memory

A log in a file that only its stores have written answers like a log in memory,
however often it is closed and opened again.

The two are built differently. In memory the entries are there. From a file they
are read anew for every question, and a store that opens the file has to find
out where the chain stands. `InStep` is what makes up for that: the place holds
the text of the entries that memory has, and both chains are the chain of these
entries. Each request keeps it, opening again included, and under it the two
answer alike.

## Main definitions

* `Audit.Step`, `Audit.Answer`: What can be done with a log, and what comes of it.
* `Audit.Store.runAll`: The answers of a log to some requests in order.
* `Audit.logText`: The text of some entries, each on its line.
* `Audit.InStep`: A log in a file that holds what a log in memory has.

## Theorems

* `Place.entries_placeOf`: The entries of a log's text are read back.
* `InStep.step`: A request is answered alike and keeps the two in step.
* `Store.runAll_file`: A log in a file is a log in memory.
-/

namespace Promotion

namespace Audit

open Text

/-- What can be done with a log. -/
inductive Step where
  | append (record : Record) (now : Timestamp)
  | query (question : Query)
  | latestInto (tag environment : String)
  | entries
  /-- The log is closed and opened again. -/
  | reopen

/-- What comes of it. -/
inductive Answer where
  | appended (entry : Except Error Entry)
  | found (records : Except Error (List Record))
  | newest (record : Except Error (Option Record))
  | listed (entries : Except Error (List Entry))
  | reopened (done : Except Error Unit)

namespace Store

/-- The newest promotion of a tag into an environment. -/
def latestInto (s : Store) (tag environment : String) : Except Error (Option Record) :=
  match s with
  | memory store => .ok (store.latestInto tag environment)
  | file _ place => FileStore.latestInto place tag environment

/-- The answer of a log to a request, and the log afterwards. A log that cannot be opened again
    stays as it was. -/
def step (s : Store) : Step → Answer × Store
  | .append record now =>
    let (entry, s) := s.append record now
    (.appended entry, s)
  | .query question => (.found (s.query question), s)
  | .latestInto tag environment => (.newest (s.latestInto tag environment), s)
  | .entries => (.listed s.entries, s)
  | .reopen =>
    match s.reopen with
    | .ok s => (.reopened (.ok ()), s)
    | .error e => (.reopened (.error e), s)

/-- The answers of a log to some requests in order, and the log afterwards. -/
def runAll (s : Store) : List Step → List Answer × Store
  | [] => ([], s)
  | request :: rest =>
    let (answer, s) := s.step request
    let (answers, s) := s.runAll rest
    (answer :: answers, s)

end Store

/-- The text of some entries: the compact text of each, and a line feed behind it. -/
def logText (entries : List Entry) : String :=
  String.join (entries.map fun e => Json.compact (Entry.format.encode e) ++ "\n")

/-- The place of a log of some entries. Before the first one there is no file. -/
def placeOf : List Entry → Place
  | [] => .vacant
  | e :: rest => .file (logText (e :: rest)).toUTF8.toList

theorem toList_logText (entries : List Entry) :
    (logText entries).toList = entries.flatMap fun e => e.line ++ ['\n'] := by
  simp only [logText, String.toList_join, List.flatMap_map, String.toList_append,
    Json.compact, String.toList_ofList]
  rfl

/-- The bytes of a log's text are its entries, each on its line. -/
theorem toUTF8_logText (entries : List Entry) :
    (logText entries).toUTF8.toList = written entries := by
  rw [← String.ofList_toList (s := logText entries), toList_toUTF8, toList_logText, bytesOf,
    List.flatMap_assoc]
  refine congrArg (entries.flatMap ·) (funext fun e => ?_)
  exact bytesOf_append e.line ['\n']

theorem content?_placeOf (entries : List Entry) :
    (placeOf entries).content? = some (written entries) := by
  cases entries with
  | nil => rfl
  | cons e rest => exact congrArg some (toUTF8_logText (e :: rest))

/-- The entries of a log's text are read back. -/
theorem Place.entries_placeOf (es : List Entry) : (placeOf es).entries = .ok es := by
  have hempty : (file []).entries = .ok [] := rfl
  have hwritten := entries_written hempty es
  rw [if_pos (.inr nofun), List.nil_append, List.nil_append] at hwritten
  rw [entries_of_content? (content?_placeOf es), hwritten]

/-- One more entry behind a log's text makes the text of the longer log. -/
theorem file_written_concat (es : List Entry) (e : Entry) :
    Place.file (written es ++ lineBytes e) = placeOf (es ++ [e]) := by
  have hbytes : written es ++ lineBytes e = (logText (es ++ [e])).toUTF8.toList := by
    rw [toUTF8_logText, written, written, List.flatMap_append, List.flatMap_singleton]
  rw [hbytes]
  cases es <;> rfl

/-- A log in a file that holds what a log in memory has. -/
structure InStep (f : FileStore) (place : Place) (m : MemoryStore) : Prop where
  place_eq : place = placeOf m.entries
  linked : Linked none m.entries
  resumed : f.chain = .ofEntries m.entries
  chain_eq : m.chain = .ofEntries m.entries

namespace InStep

variable {f : FileStore} {place : Place} {m : MemoryStore}

theorem entries_eq (h : InStep f place m) : place.entries = .ok m.entries := by
  rw [h.place_eq, Place.entries_placeOf]

/-- Where there is no file yet, a log that is opened has nothing, like a new one in memory. -/
theorem new : FileStore.openAt .vacant = .ok ⟨.empty⟩ ∧ InStep ⟨.empty⟩ .vacant .empty :=
  ⟨rfl, rfl, trivial, rfl, rfl⟩

/-- A record is sealed onto both alike, or refused by both. -/
theorem append (h : InStep f place m) (record : Record) (now : Timestamp) :
    (f.append place record now).1 = (m.append record now).1 ∧
      InStep (f.append place record now).2.1 (f.append place record now).2.2
        (m.append record now).2 := by
  cases hdry : record.dryRun with
  | true =>
      simp only [FileStore.append, MemoryStore.append, hdry, if_true]
      exact ⟨trivial, h⟩
  | false =>
      have hchain : f.chain = m.chain := h.resumed.trans h.chain_eq.symm
      have hcontent : place.content? = some (written m.entries) := by
        rw [h.place_eq, content?_placeOf]
      rw [FileStore.append_real hcontent hdry]
      simp only [MemoryStore.append, hdry, Bool.false_eq_true, if_false, hchain]
      -- The entry is what sealing the one record onto the chain makes of it.
      have hpush : m.chain.push (m.chain.nextEntry record now) =
          .ofEntries (m.entries ++ [m.chain.nextEntry record now]) := by
        rw [Chain.ofEntries_append, ← h.chain_eq]
        rfl
      refine ⟨trivial, ⟨file_written_concat _ _, ?_, hpush, hpush⟩⟩
      have hlinked := Chain.linked_append_sealAll h.linked [(record, now)]
      rw [← h.chain_eq] at hlinked
      exact hlinked

/-- A file that is opened again is linked, and its chain goes on where it was. -/
theorem openAt_eq (h : InStep f place m) : FileStore.openAt place = .ok f := by
  have hf : f = ⟨.ofEntries m.entries⟩ := congrArg FileStore.mk h.resumed
  exact FileStore.openAt_eq_ok.mpr ⟨m.entries, h.entries_eq, h.linked, hf⟩

/-- A request is answered alike and keeps the two in step. -/
theorem step (h : InStep f place m) (request : Step) :
    ((Store.file f place).step request).1 = ((Store.memory m).step request).1 ∧
      ∃ f' place' m', ((Store.file f place).step request).2 = .file f' place' ∧
        ((Store.memory m).step request).2 = .memory m' ∧ InStep f' place' m' := by
  cases request with
  | append record now =>
      rcases h.append record now with ⟨hanswer, hafter⟩
      exact ⟨congrArg Answer.appended hanswer, _, _, _, rfl, rfl, hafter⟩
  | query question =>
      refine ⟨congrArg Answer.found ?_, f, place, m, rfl, rfl, h⟩
      change FileStore.query place question = _
      rw [FileStore.query, h.entries_eq]
      rfl
  | latestInto tag environment =>
      refine ⟨congrArg Answer.newest ?_, f, place, m, rfl, rfl, h⟩
      change FileStore.latestInto place tag environment = _
      rw [FileStore.latestInto, FileStore.query, h.entries_eq]
      rfl
  | entries => exact ⟨congrArg Answer.listed h.entries_eq, f, place, m, rfl, rfl, h⟩
  | reopen =>
      simp only [Store.step, Store.reopen, h.openAt_eq]
      exact ⟨rfl, f, place, m, rfl, rfl, h⟩

end InStep

namespace Store

/-- Requests are answered alike as long as the two are in step. -/
theorem runAll_inStep (requests : List Step) {f : FileStore} {place : Place} {m : MemoryStore}
    (h : InStep f place m) :
    ((file f place).runAll requests).1 = ((memory m).runAll requests).1 ∧
      ∃ f' place' m', ((file f place).runAll requests).2 = file f' place' ∧
        ((memory m).runAll requests).2 = memory m' ∧ InStep f' place' m' := by
  induction requests generalizing f place m with
  | nil => exact ⟨rfl, f, place, m, rfl, rfl, h⟩
  | cons request rest ih =>
      rcases h.step request with ⟨hanswer, f₁, place₁, m₁, hfile, hmemory, hstep⟩
      rcases ih hstep with ⟨hanswers, hafter⟩
      simp only [runAll, hfile, hmemory, hanswer, hanswers]
      exact ⟨trivial, hafter⟩

/-- In memory opening again never fails. -/
theorem reopened_memory {requests : List Step} {m : MemoryStore} {done : Except Error Unit}
    (h : .reopened done ∈ ((memory m).runAll requests).1) : done = .ok () := by
  induction requests generalizing m with
  | nil => cases h
  | cons request rest ih =>
      rcases List.mem_cons.mp h with hfirst | hrest
      · cases request <;> cases hfirst
        rfl
      · -- Whatever is asked of a log in memory, it stays one.
        cases request <;> exact ih hrest

/-- A log in a file is a log in memory. -/
theorem runAll_file (requests : List Step) :
    ∃ f, FileStore.openAt .vacant = .ok f ∧
      ((file f .vacant).runAll requests).1 = ((memory .empty).runAll requests).1 ∧
      (∀ done, .reopened done ∈ ((file f .vacant).runAll requests).1 → done = .ok ()) ∧
      ∃ f' m, ((file f .vacant).runAll requests).2 = file f' (placeOf m.entries) ∧
        ((memory .empty).runAll requests).2 = memory m := by
  rcases InStep.new with ⟨hopen, hnew⟩
  rcases runAll_inStep requests hnew with ⟨hanswers, f', place', m, hfile, hmemory, hstep⟩
  refine ⟨_, hopen, hanswers, ?_, f', m, ?_, hmemory⟩
  · intro done hdone
    rw [hanswers] at hdone
    exact reopened_memory hdone
  · rw [hfile, hstep.place_eq]

end Store

end Audit

end Promotion
