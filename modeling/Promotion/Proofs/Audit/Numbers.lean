import Promotion.Proofs.Audit.Commitment
import Promotion.Proofs.Audit.Query
import Promotion.Proofs.Audit.Restart

/-!
# The Numbers of a Log

Whether the number of an entry is its place in the log.

A store numbers what it appends by counting what is there, so a log that only
its stores have written is numbered by place from its first entry on. Looking
through a log does not count, though. It compares hashes, and a hash commits to
whatever number it was taken over: there is a sound log for any numbers at all,
and a store that opens one goes on with the places. So what is read back from a
file is numbered by place exactly if what was there at first is.

Where it is not, an answer that is sorted by the numbers is not sorted by the
places. The newest promotion of a tag can then be one that a later entry has
already replaced.

## Main definitions

* `Audit.sealNumbered`: Entries that are sealed in a chain, under any numbers.
* `Audit.appended`: The entries that appends were answered with.
* `Audit.Place.Grown`: A place with some entries written behind what was there.
* `Audit.Resumed`: A store that resumed the entries of a place and went on.

## Theorems

* `Numbered.pairwise`: Where numbers are places, the order of one is the order of the other.
* `openAt_sealNumbered`: A file opens whatever the numbers in it are.
* `Resumed.step`, `Resumed.runAll`: What is appended is numbered from the end of what was there.
* `Store.runAll_numbered`: When what is read back is numbered by place.
-/

namespace Promotion

namespace Audit

/-- Where numbers are places, the order of one is the order of the other. -/
theorem Numbered.pairwise {es : List Entry} (h : Numbered es) (hsize : es.length ≤ UInt64.size) :
    es.Pairwise fun a b => a.sequence < b.sequence := by
  rw [List.pairwise_iff_getElem]
  intro i j hi hj hlt
  have hsmall : j < UInt64.size := Nat.lt_of_lt_of_le hj hsize
  rw [h i _ (List.getElem?_eq_getElem hi), h j _ (List.getElem?_eq_getElem hj),
    UInt64.ofNat_lt_iff_lt (Nat.lt_trans hlt hsmall) hsmall]
  exact hlt

/-- Entries that are sealed in a chain, each under the number that it is given. -/
def sealNumbered (previous : Option String) : List (UInt64 × Record × Timestamp) → List Entry
  | [] => []
  | (number, record, now) :: rest =>
    let e := Entry.ofRecord record number previous now
    e :: sealNumbered (some e.hash) rest

theorem sealNumbered_map (previous : Option String) (work : List (UInt64 × Record × Timestamp)) :
    (sealNumbered previous work).map (fun e => (e.sequence, e.record, e.recordedAt)) = work := by
  induction work generalizing previous with
  | nil => rfl
  | cons w rest ih => exact congrArg (w :: ·) (ih _)

/-- They are linked, whatever the numbers are. -/
theorem linked_sealNumbered (previous : Option String)
    (work : List (UInt64 × Record × Timestamp)) : Linked previous (sealNumbered previous work) := by
  induction work generalizing previous with
  | nil => trivial
  | cons w rest ih => exact ⟨Entry.sound_ofRecord .., rfl, ih _⟩

/-- A file opens whatever the numbers in it are. -/
theorem openAt_sealNumbered (work : List (UInt64 × Record × Timestamp)) :
    let es := sealNumbered none work
    es.map (fun e => (e.sequence, e.record, e.recordedAt)) = work ∧
      (verify es).valid = true ∧ FileStore.openAt (placeOf es) = .ok ⟨.ofEntries es⟩ := by
  intro es
  have hlinked := linked_sealNumbered none work
  exact ⟨sealNumbered_map none work, verify_valid_iff.mpr hlinked,
    FileStore.openAt_eq_ok.mpr ⟨es, Place.entries_placeOf es, hlinked, rfl⟩⟩

/-- The entry that an append was answered with. -/
def Answer.entry? : Answer → Option Entry
  | appended (.ok e) => some e
  | _ => none

/-- The entries that appends were answered with. -/
def appended (answers : List Answer) : List Entry :=
  answers.filterMap Answer.entry?

/-- Nothing but blanks follows the last line feed at the place, if there is a file. -/
def Place.EndsClean (place : Place) : Prop :=
  ∀ content, place.content? = some content → Audit.EndsClean content

/-- A place with some entries written behind what was there, or as it was where there are none. -/
def Place.Grown (place : Place) (new : List Entry) (place' : Place) : Prop :=
  new = [] ∧ place' = place ∨
    ∃ content, place.content? = some content ∧ place' = file (content ++ written new)

namespace Place.Grown

variable {place place' : Place} {new : List Entry}

/-- One more entry is written where a file can be. -/
theorem write (h : place.Grown new place') {content : List UInt8}
    (hcontent : place'.content? = some content) (e : Entry) :
    place.Grown (new ++ [e]) (file (content ++ lineBytes e)) := by
  refine .inr ?_
  rcases h with ⟨rfl, rfl⟩ | ⟨before, hbefore, rfl⟩
  · exact ⟨content, hcontent, by rw [List.nil_append, written, List.flatMap_singleton]⟩
  · cases hcontent
    refine ⟨before, hbefore, ?_⟩
    rw [List.append_assoc, written, written, List.flatMap_append, List.flatMap_singleton]

/-- What can be read there: everything, unless something was written onto an unfinished line. -/
theorem entries_eq (h : place.Grown new place') {es : List Entry} (hes : place.entries = .ok es) :
    place'.entries = .ok (es ++ new) ∨
      new ≠ [] ∧ ¬ place.EndsClean ∧ place'.entries = .error .malformedEntry := by
  rcases h with ⟨rfl, rfl⟩ | ⟨content, hcontent, rfl⟩
  · rw [List.append_nil]
    exact .inl hes
  · rw [Place.entries_written ((Place.entries_of_content? hcontent).symm.trans hes)]
    by_cases hread : new = [] ∨ Audit.EndsClean content
    · rw [if_pos hread]
      exact .inl rfl
    · rw [if_neg hread]
      rw [not_or] at hread
      exact .inr ⟨hread.1, fun hclean => hread.2 (hclean content hcontent), rfl⟩

end Place.Grown

/-- A store that resumed the entries of a place and has appended some since. -/
structure Resumed (place : Place) (es : List Entry) (f : FileStore) (place' : Place)
    (new : List Entry) : Prop where
  grown : place.Grown new place'
  chain_eq : f.chain = .ofEntries (es ++ new)
  linked : Linked none (es ++ new)
  numbered : NumberedFrom es.length new

namespace Resumed

variable {place place' : Place} {es new : List Entry} {f : FileStore}

/-- A store that opens has resumed what is there and appended nothing. -/
theorem openAt (hes : place.entries = .ok es) (h : FileStore.openAt place = .ok f) :
    Resumed place es f place [] := by
  rcases FileStore.openAt_eq_ok.mp h with ⟨es', hes', hlinked, rfl⟩
  obtain rfl : es = es' := Except.ok.inj (hes.symm.trans hes')
  refine ⟨.inl ⟨rfl, rfl⟩, ?_, ?_, numberedFrom_nil _⟩
  · rw [List.append_nil]
  · rwa [List.append_nil]

/-- An entry that is written goes on with the number that its place calls for. -/
theorem write (h : Resumed place es f place' new) {content : List UInt8}
    (hcontent : place'.content? = some content) (record : Record) (now : Timestamp) :
    Resumed place es ⟨f.chain.push (f.chain.nextEntry record now)⟩
      (.file (content ++ lineBytes (f.chain.nextEntry record now)))
      (new ++ [f.chain.nextEntry record now]) := by
  rcases h with ⟨hgrown, hchain, hlinked, hnumbered⟩
  rw [hchain]
  refine ⟨hgrown.write hcontent _, ?_, ?_, ?_⟩
  · rw [← List.append_assoc, Chain.ofEntries_append (es ++ new)]
    rfl
  · rw [← List.append_assoc]
    exact Chain.linked_append_sealAll hlinked [(record, now)]
  · refine numberedFrom_append.mpr ⟨hnumbered, ?_⟩
    rw [← List.length_append]
    exact Chain.numberedFrom_sealAll rfl [(record, now)]

/-- Whatever a store is asked for, only an append that is answered with an entry adds one. -/
theorem step (hes : place.entries = .ok es) (h : Resumed place es f place' new) (request : Step) :
    ∃ f' place'', ((Store.file f place').step request).2 = .file f' place'' ∧
      Resumed place es f' place''
        (new ++ appended [((Store.file f place').step request).1]) := by
  have hsame : Resumed place es f place' (new ++ []) := by rwa [List.append_nil]
  cases request with
  | append record now =>
      rcases f.append_cases place' record now with ⟨e, hrefused⟩ | ⟨content, hcontent, hkept⟩
      · simp only [Store.step, Store.append, hrefused]
        exact ⟨f, place', rfl, hsame⟩
      · simp only [Store.step, Store.append, hkept]
        exact ⟨_, _, rfl, h.write hcontent record now⟩
  | query question => exact ⟨f, place', rfl, hsame⟩
  | latestInto tag environment => exact ⟨f, place', rfl, hsame⟩
  | entries => exact ⟨f, place', rfl, hsame⟩
  | reopen =>
      -- What can be read is what the store knows the end of, so it resumes where it was.
      rcases h.grown.entries_eq hes with hread | ⟨-, -, hspoiled⟩
      · have hopen : FileStore.openAt place' = .ok f :=
          FileStore.openAt_eq_ok.mpr ⟨_, hread, h.linked, congrArg FileStore.mk h.chain_eq⟩
        simp only [Store.step, Store.reopen, hopen]
        exact ⟨f, place', rfl, hsame⟩
      · simp only [Store.step, Store.reopen, FileStore.openAt_of_error hspoiled]
        exact ⟨f, place', rfl, hsame⟩

/-- So do any number of requests. -/
theorem runAll (hes : place.entries = .ok es) (h : Resumed place es f place' new)
    (requests : List Step) :
    ∃ f' place'', ((Store.file f place').runAll requests).2 = .file f' place'' ∧
      Resumed place es f' place''
        (new ++ appended ((Store.file f place').runAll requests).1) := by
  induction requests generalizing f place' new with
  | nil => exact ⟨f, place', rfl, by rwa [Store.runAll, appended, List.filterMap_nil, List.append_nil]⟩
  | cons request rest ih =>
      rcases h.step hes request with ⟨f₁, place₁, hstore, hstep⟩
      rcases ih hstep with ⟨f₂, place₂, hafter, hrest⟩
      simp only [Store.runAll, hstore]
      refine ⟨f₂, place₂, hafter, ?_⟩
      rwa [List.append_assoc, appended, appended, ← List.filterMap_append,
        List.singleton_append] at hrest

end Resumed

/-- When the numbers of what is read back are places. Whatever a store is asked for after it has
    opened a file, what the file then holds is what it held and what was appended, and is found
    valid; it cannot be read only if something was appended onto an unfinished line. What was
    appended is numbered from the end of what was there, so all of it is numbered by place exactly if
    what was there is. -/
theorem Store.runAll_numbered {place : Place} {f : FileStore} {es : List Entry}
    (hopen : FileStore.openAt place = .ok f) (hes : place.entries = .ok es)
    (requests : List Step) :
    let all := es ++ appended ((file f place).runAll requests).1
    ((((file f place).runAll requests).2.entries = .ok all) ∨
      appended ((file f place).runAll requests).1 ≠ [] ∧ ¬ place.EndsClean ∧
        ((file f place).runAll requests).2.entries = .error .malformedEntry) ∧
    (verify all).valid = true ∧
    NumberedFrom es.length (appended ((file f place).runAll requests).1) ∧
    (Numbered all ↔ Numbered es) ∧
    (Numbered es → all.length ≤ UInt64.size →
      all.Pairwise fun a b => a.sequence < b.sequence) := by
  intro all
  rcases (Resumed.openAt hes hopen).runAll hes requests with ⟨f', place', hafter, hgoes⟩
  rw [List.nil_append] at hgoes
  have hiff : Numbered all ↔ Numbered es :=
    numbered_append.trans (and_iff_left hgoes.numbered)
  refine ⟨?_, verify_valid_iff.mpr hgoes.linked, hgoes.numbered, hiff, ?_⟩
  · rw [hafter]
    exact hgoes.grown.entries_eq hes
  · exact fun hnumbered => (hiff.mpr hnumbered).pairwise

/-- Such a run: onto an entry of a store's own, with the file opened again between two others. -/
theorem Store.runAll_numbered_reopened :
    let first := Chain.empty.nextEntry default .epoch
    let place := placeOf [first]
    let requests := [.append default .epoch, .reopen, .append default .epoch]
    FileStore.openAt place = .ok ⟨.ofEntries [first]⟩ ∧ place.entries = .ok [first] ∧
      Numbered ([first] ++ appended ((file ⟨.ofEntries [first]⟩ place).runAll requests).1) := by
  intro first place requests
  have hes : place.entries = .ok [first] := Place.entries_placeOf [first]
  have hopen : FileStore.openAt place = .ok ⟨.ofEntries [first]⟩ :=
    FileStore.openAt_eq_ok.mpr ⟨_, hes, ⟨Entry.sound_ofRecord .., rfl, trivial⟩, rfl⟩
  have hfirst : Numbered [first] :=
    numberedFrom_zero.mp (Chain.numberedFrom_sealAll (c := .empty) rfl [(default, .epoch)])
  rcases runAll_numbered hopen hes requests with ⟨-, -, -, hnumbered, -⟩
  exact ⟨hopen, hes, hnumbered.mpr hfirst⟩

/-- A file of one entry with the number seven is found valid and opens. The next entry has the number
    one, and although it is about the same tag and environment at the same time, the first one
    remains the newest. -/
theorem openAt_append_misnumbered :
    let first := Entry.ofRecord default 7 none .epoch
    let other : Record := { (default : Record) with operator := "bob" }
    let second := (Chain.ofEntries [first]).nextEntry other .epoch
    let place := placeOf [first]
    let after := ((Store.file ⟨.ofEntries [first]⟩ place).step (.append other .epoch)).2
    (verify [first]).valid = true ∧ FileStore.openAt place = .ok ⟨.ofEntries [first]⟩ ∧
      after.entries = .ok [first, second] ∧ first.sequence = 7 ∧ second.sequence = 1 ∧
      after.latestInto other.tag other.toEnv = .ok (some first.record) ∧
      first.record ≠ second.record := by
  intro first other second place after
  have hes : place.entries = .ok [first] := Place.entries_placeOf [first]
  have hlinked : Linked none [first] := ⟨Entry.sound_ofRecord .., rfl, trivial⟩
  have hopen : FileStore.openAt place = .ok ⟨.ofEntries [first]⟩ :=
    FileStore.openAt_eq_ok.mpr ⟨_, hes, hlinked, rfl⟩
  have hafter : after = .file ⟨(Chain.ofEntries [first]).push second⟩ (placeOf [first, second]) := by
    simp only [after, Store.step, Store.append]
    rw [FileStore.append_real (content?_placeOf [first]) rfl, file_written_concat]
    rfl
  have hboth : after.entries = .ok [first, second] := by
    rw [hafter]
    exact Place.entries_placeOf [first, second]
  refine ⟨verify_valid_iff.mpr hlinked, hopen, hboth, rfl, rfl, ?_, by decide⟩
  have hquery : after.query (.latestInto other.tag other.toEnv) = .ok [first.record] := by
    rw [Store.query_of_limit after rfl, hboth]
    rfl
  rw [hafter] at hquery ⊢
  simp only [Store.query] at hquery
  rw [Store.latestInto, FileStore.latestInto, hquery]
  rfl

end Audit

end Promotion
