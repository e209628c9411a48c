import Promotion.Proofs.Audit.Chain
import Promotion.Proofs.Audit.Lines

/-!
# Reading On After Appending

Whether a log in a file can still be read when its own store has written to it.

A store that opens knows the end of a chain that is linked, and what it appends
is sealed onto that end. So the entries it writes are always the right ones.
Where it writes them is another matter: behind whatever the file ends with.
`openAt_appendAll` says what comes of that. If nothing but blanks follows the
last line feed, everything appended is read back behind what was there, and the
store can be opened again and goes on where it was. Otherwise the first record
that is appended makes a line of two, and neither the entries nor the store can
be had again, although every append answered with its entry.

Nobody sees this with files that only a store wrote. Every entry is written with
a line feed behind it, so nothing at all follows the last one.

## Main definitions

* `Audit.Place.content?`: The bytes at a place that can be written.
* `Audit.FileStore.appendAll`: Seals records onto the end of the file, one after another.

## Theorems

* `openAt_eq_ok`: A store opens if the entries are linked, and knows their end.
* `append_cases`: What appending a record does.
* `appendAll_real`: Everything that is no dry run is appended.
* `openAt_appendAll`: When a log that opens stays readable, and what becomes of it if not.
-/

namespace Promotion

namespace Audit

open Text

/-- The bytes at a place that can be written. -/
def Place.content? : Place → Option (List UInt8)
  | vacant => some []
  | file content => some content
  | barred | directory => none

theorem Place.entries_of_content? {place : Place} {content : List UInt8}
    (h : place.content? = some content) : place.entries = (file content).entries := by
  cases place with
  | vacant =>
      cases h
      exact (congrArg entriesOf (linesOf_unfinished List.not_mem_nil)).symm
  | barred => cases h
  | directory => cases h
  | file content' =>
      cases h
      rfl

/-- A line that can be written is written behind what stands there. -/
theorem Place.write_line {place : Place} {content : List UInt8}
    (h : place.content? = some content) (e : Entry) :
    place.write (e.line ++ ['\n']) = .ok (file (content ++ lineBytes e)) := by
  have hbytes : (String.ofList (e.line ++ ['\n'])).toUTF8.toList = lineBytes e := by
    rw [toList_toUTF8, bytesOf_append]
    rfl
  cases place with
  | vacant =>
      cases h
      rw [write, hbytes, List.nil_append]
  | barred => cases h
  | directory => cases h
  | file content' =>
      cases h
      rw [write, hbytes]

namespace FileStore

/-- A store opens exactly if the entries are linked, and it knows their end. -/
theorem openAt_eq_ok {place : Place} {s : FileStore} :
    openAt place = .ok s ↔ ∃ es, place.entries = .ok es ∧ Linked none es ∧ s = ⟨.ofEntries es⟩ := by
  unfold openAt
  cases place.entries with
  | error f => simp [bind, Except.bind]
  | ok es =>
      simp only [bind, Except.bind, Except.ok.injEq, exists_eq_left']
      rw [← verify_message?_eq_none]
      cases (verify es).message? with
      | none => simp [pure, Except.pure, eq_comm]
      | some reason => simp [throw, throwThe, MonadExceptOf.throw]

theorem openAt_of_error {place : Place} {f : Error} (h : place.entries = .error f) :
    openAt place = .error f := by
  rw [openAt, h]
  rfl

/-- What is no dry run is appended wherever a file can be written. -/
theorem append_real {place : Place} {content : List UInt8} (h : place.content? = some content)
    {record : Record} (hreal : record.dryRun = false) (s : FileStore) (now : Timestamp) :
    s.append place record now =
      (.ok (s.chain.nextEntry record now), ⟨s.chain.push (s.chain.nextEntry record now)⟩,
        .file (content ++ lineBytes (s.chain.nextEntry record now))) := by
  simp only [append, hreal, Bool.false_eq_true, if_false, Place.write_line h]

/-- A record is refused and nothing changes, or it is written where a file can be. -/
theorem append_cases (s : FileStore) (place : Place) (record : Record) (now : Timestamp) :
    (∃ e, s.append place record now = (.error e, s, place)) ∨
      ∃ content, place.content? = some content ∧ s.append place record now =
        (.ok (s.chain.nextEntry record now), ⟨s.chain.push (s.chain.nextEntry record now)⟩,
          .file (content ++ lineBytes (s.chain.nextEntry record now))) := by
  cases hdry : record.dryRun with
  | true =>
      refine .inl ⟨.dryRunRecord record.id, ?_⟩
      simp only [append, hdry, if_true]
  | false =>
      cases place with
      | vacant => exact .inr ⟨[], rfl, append_real rfl hdry s now⟩
      | file content => exact .inr ⟨content, rfl, append_real rfl hdry s now⟩
      | barred => exact .inl ⟨_, by simp only [append, hdry, Bool.false_eq_true, if_false]; rfl⟩
      | directory => exact .inl ⟨_, by simp only [append, hdry, Bool.false_eq_true, if_false]; rfl⟩

/-- Seals records onto the end of the file, one after another, up to the first that fails. -/
def appendAll (s : FileStore) (place : Place) :
    List (Record × Timestamp) → Except Error (List Entry) × FileStore × Place
  | [] => (.ok [], s, place)
  | (record, now) :: rest =>
    match s.append place record now with
    | (.error f, s, place) => (.error f, s, place)
    | (.ok e, s, place) =>
      let (answer, s, place) := s.appendAll place rest
      (answer.map (e :: ·), s, place)

/-- Everything that is no dry run is appended. -/
theorem appendAll_real {place : Place} {content : List UInt8} (h : place.content? = some content)
    {work : List (Record × Timestamp)} (hreal : ∀ w ∈ work, w.1.dryRun = false) (s : FileStore) :
    ∃ place', s.appendAll place work =
        (.ok (s.chain.sealAll work), ⟨s.chain.pushAll (s.chain.sealAll work)⟩, place') ∧
      place'.content? = some (content ++ written (s.chain.sealAll work)) := by
  induction work generalizing s place content with
  | nil => exact ⟨place, rfl, by rw [h, Chain.sealAll, written, List.flatMap_nil, List.append_nil]⟩
  | cons w rest ih =>
      have hfirst := append_real h (hreal w List.mem_cons_self) s w.2
      have hplace : (Place.file (content ++ lineBytes (s.chain.nextEntry w.1 w.2))).content? =
        some (content ++ lineBytes (s.chain.nextEntry w.1 w.2)) := rfl
      rcases ih hplace
        (fun w' hw' => hreal w' (List.mem_cons_of_mem _ hw'))
        ⟨s.chain.push (s.chain.nextEntry w.1 w.2)⟩ with ⟨place', hrest, hcontent⟩
      refine ⟨place', ?_, ?_⟩
      · rw [appendAll, hfirst]
        simp only [hrest]
        rfl
      · rw [hcontent, List.append_assoc]
        rfl

/-- When a log that opens stays readable through its own store, and what becomes of it if not. -/
theorem openAt_appendAll {place : Place} {content : List UInt8} {store : FileStore}
    {es : List Entry} (hplace : place.content? = some content) (hopen : openAt place = .ok store)
    (hes : place.entries = .ok es) {work : List (Record × Timestamp)}
    (hreal : ∀ w ∈ work, w.1.dryRun = false) :
    ∃ new after place', store.appendAll place work = (.ok new, after, place') ∧
      new.map Entry.record = work.map Prod.fst ∧
      (work = [] ∨ EndsClean content →
        place'.entries = .ok (es ++ new) ∧ openAt place' = .ok after ∧
          after.chain = ⟨(es ++ new).getLast?.map Entry.hash,
            UInt64.ofNat (es.length + work.length)⟩) ∧
      (work ≠ [] ∧ ¬ EndsClean content →
        place'.entries = .error .malformedEntry ∧ openAt place' = .error .malformedEntry) := by
  rcases openAt_eq_ok.mp hopen with ⟨es', hes', hlinked, rfl⟩
  -- The store that opened knows the end of these entries and nothing else.
  obtain rfl : es = es' := Except.ok.inj (hes.symm.trans hes')
  rcases appendAll_real hplace hreal ⟨.ofEntries es⟩ with ⟨place', happend, hplace'⟩
  have hrecords := Chain.sealAll_record (.ofEntries es) work
  have hlength : ((Chain.ofEntries es).sealAll work).length = work.length := by
    simpa only [List.length_map] using congrArg List.length hrecords
  have hnil : (Chain.ofEntries es).sealAll work = [] ↔ work = [] := by
    rw [← List.length_eq_zero_iff, hlength, List.length_eq_zero_iff]
  -- What can be read is a matter of bytes; that it is a chain does not depend on them.
  have hentries : place'.entries = _ := Place.entries_of_content? hplace'
  rw [Place.entries_written ((Place.entries_of_content? hplace).symm.trans hes)] at hentries
  refine ⟨_, _, place', happend, hrecords, fun hclean => ?_, fun hunclean => ?_⟩
  · rw [if_pos (hclean.imp_left hnil.mpr)] at hentries
    refine ⟨hentries, ?_, ?_⟩
    · rw [← Chain.ofEntries_append]
      exact openAt_eq_ok.mpr ⟨_, hentries, Chain.linked_append_sealAll hlinked work, rfl⟩
    · rw [← Chain.ofEntries_append, Chain.ofEntries, List.length_append, hlength]
  · rw [if_neg (not_or.mpr (hunclean.imp_left (mt hnil.mp)))] at hentries
    exact ⟨hentries, openAt_of_error hentries⟩

/-- Such a file: blanks, a line end with a carriage return, and an entry behind a blank. -/
theorem openAt_appendAll_blank :
    let first := Chain.empty.nextEntry default .epoch
    let place := Place.file ([32, 13, 10, 32] ++ lineBytes first)
    openAt place = .ok ⟨.ofEntries [first]⟩ ∧
      ∃ new after place',
        (FileStore.mk (.ofEntries [first])).appendAll place [(default, .epoch)] =
          (.ok new, after, place') ∧
        new.map Entry.record = [default] ∧ place'.entries = .ok (first :: new) ∧
        openAt place' = .ok after := by
  intro first place
  have hblank : (Place.file [32, 13, 10, 32]).entries = .ok [] := by decide +kernel
  have hblankEnd : EndsClean [32, 13, 10, 32] := by decide +kernel
  have hes : place.entries = .ok [first] :=
    (Place.entries_write hblank first).trans (if_pos hblankEnd)
  have hopen : openAt place = .ok ⟨.ofEntries [first]⟩ :=
    openAt_eq_ok.mpr ⟨_, hes, ⟨Entry.sound_ofRecord .., rfl, trivial⟩, rfl⟩
  have hreal : ∀ w ∈ [((default : Record), Timestamp.epoch)], w.1.dryRun = false := by
    simp only [List.mem_singleton, forall_eq]
    rfl
  have hclean : EndsClean ([32, 13, 10, 32] ++ lineBytes first) := by
    rw [lineBytes, ← List.append_assoc]
    exact endsClean_concat _
  rcases openAt_appendAll rfl hopen hes hreal with ⟨new, after, place', happend, hrecords, hread, -⟩
  rcases hread (.inr hclean) with ⟨hentries, hagain, -⟩
  exact ⟨hopen, new, after, place', happend, hrecords, hentries, hagain⟩

/-- A file of one entry without a line feed opens, and cannot be read after the next append. -/
theorem append_unfinished_line :
    let first := Chain.empty.nextEntry default .epoch
    let place := Place.file (bytesOf first.line)
    place.entries = .ok [first] ∧ openAt place = .ok ⟨.ofEntries [first]⟩ ∧
      ∃ second after place',
        (FileStore.mk (.ofEntries [first])).append place default .epoch =
          (.ok second, after, place') ∧
        place'.entries ≠ .ok [first, second] ∧ ∀ s, openAt place' ≠ .ok s := by
  intro first place
  have hes : place.entries = .ok [first] := Place.entries_line first
  have hopen : openAt place = .ok ⟨.ofEntries [first]⟩ :=
    openAt_eq_ok.mpr ⟨_, hes, ⟨Entry.sound_ofRecord .., rfl, trivial⟩, rfl⟩
  -- Both entries stand on one line now, and no line holds two.
  have hwritten := Place.entries_write hes
  refine ⟨hes, hopen, _, _, _, append_real rfl rfl _ _, ?_, ?_⟩
  · rw [hwritten, if_neg (not_endsClean_line first)]
    exact nofun
  · intro s
    rw [openAt_of_error ((hwritten _).trans (if_neg (not_endsClean_line first)))]
    exact nofun

end FileStore

end Audit

end Promotion
