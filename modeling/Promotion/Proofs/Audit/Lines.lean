import Mathlib.Data.List.DropRight
import Promotion.Proofs.Audit.Entry
import Promotion.Proofs.Json.Extension
import Promotion.Proofs.Text.Utf8

/-!
# Writing Behind a File

What becomes of a file's entries when a line is written at its end.

A writer does not look at the file, so its line starts wherever the file ends.
Everything up to the last line feed stays as it was. What follows the last line
feed, here the `unfinished` line, becomes the start of the new line. If that
start is blank, in the narrow sense of the values' grammar, the new line reads
as its entry. If it is anything else, the new line is no entry: a value cannot
be followed by another, and the blanks that only the wider sense knows cannot
stand before one.

`EndsClean` is the first case, and `entries_write` is both of them.

## Main definitions

* `Audit.unfinished`: What follows the last line feed of a file.
* `Audit.EndsClean`: Nothing but blanks does.
* `Audit.written`: The bytes of some entries, each on its line.

## Theorems

* `linesOf_append_lineFeed`: Lines are read one by one.
* `entriesOf_append`: So are their entries.
* `entryOf_blank`, `entryOf_unfinished`: An entry behind what a line already holds.
* `Place.entries_write`: The entries of a file after one more was written.
* `Place.entries_written`: The same after some more.
-/

namespace Promotion

namespace Audit

open Text

/-- What follows the last line feed of a file. -/
def unfinished (content : List UInt8) : List UInt8 :=
  content.rtakeWhile (· != lineFeed)

/-- Nothing but blanks follows the last line feed of a file. -/
def EndsClean (content : List UInt8) : Prop :=
  ∀ b ∈ unfinished content, isSpaceByte b = true

instance (content : List UInt8) : Decidable (EndsClean content) :=
  inferInstanceAs (Decidable (∀ b ∈ unfinished content, isSpaceByte b = true))

theorem lineFeed_not_mem_unfinished (content : List UInt8) : lineFeed ∉ unfinished content := by
  intro h
  have hne := List.mem_rtakeWhile_imp h
  simp at hne

theorem unfinished_concat (content : List UInt8) : unfinished (content ++ [lineFeed]) = [] := by
  unfold unfinished
  exact List.rtakeWhile_concat_neg _ _ _ (by simp)

theorem endsClean_concat (content : List UInt8) : EndsClean (content ++ [lineFeed]) := by
  unfold EndsClean
  rw [unfinished_concat]
  exact nofun

/-- A file is whole lines and one that is unfinished. -/
theorem exists_append_unfinished (content : List UInt8) :
    content = unfinished content ∨
      ∃ whole, content = whole ++ lineFeed :: unfinished content := by
  have hsplit : content.rdropWhile (· != lineFeed) ++ unfinished content = content :=
    List.rdropWhile_append_rtakeWhile
  rcases List.eq_nil_or_concat (content.rdropWhile (· != lineFeed)) with hnil | ⟨whole, b, hwhole⟩
  · rw [hnil, List.nil_append] at hsplit
    exact .inl hsplit.symm
  -- What is dropped from the end stops at a line feed.
  · have hlast := List.rdropWhile_last_not (· != lineFeed) content (by rw [hwhole]; simp)
    simp only [hwhole, List.concat_eq_append, List.getLast_append_singleton, bne_iff_ne, ne_eq,
      not_not] at hlast
    rw [hwhole, List.concat_eq_append, hlast, List.append_assoc, List.singleton_append] at hsplit
    exact .inr ⟨whole, hsplit.symm⟩

/-- The text of a finished line: a carriage return belongs to the line's end. -/
def stripReturn (line : List UInt8) : List UInt8 :=
  if line.getLast? = some 13 then line.dropLast else line

/-- A line that is not finished is a line if there is anything of it. -/
theorem linesOf_unfinished {line : List UInt8} (h : lineFeed ∉ line) :
    linesOf line = if line = [] then [] else [line] := by
  unfold linesOf
  rw [List.splitOn_eq_singleton h]
  cases line <;> rfl

/-- Lines are read one by one. -/
theorem linesOf_append_lineFeed (whole rest : List UInt8) :
    linesOf (whole ++ lineFeed :: rest) =
      (whole.splitOn lineFeed).map stripReturn ++ linesOf rest := by
  rcases List.exists_cons_of_ne_nil (List.splitOn_ne_nil lineFeed whole) with ⟨p, ps, hp⟩
  rcases List.exists_cons_of_ne_nil (List.splitOn_ne_nil lineFeed rest) with ⟨q, qs, hq⟩
  unfold linesOf
  -- No split is empty, so the last piece of the whole is that of the rest.
  rw [List.splitOn_append_cons_self, hp, hq]
  simp only [List.cons_append]
  rw [← List.cons_append, List.dropLast_append_cons, List.map_append,
    List.getLast?_append_cons]
  cases (q :: qs).getLast? with
  | none => rfl
  | some last =>
      cases last with
      | nil => rfl
      | cons b bs => exact List.append_assoc ..

/-- Whatever is written behind a file meets its unfinished line only. -/
theorem exists_linesOf_append (content : List UInt8) :
    ∃ lines, ∀ rest, linesOf (content ++ rest) = lines ++ linesOf (unfinished content ++ rest) := by
  rcases exists_append_unfinished content with h | ⟨whole, h⟩
  · exact ⟨[], fun rest => by rw [← h, List.nil_append]⟩
  · refine ⟨(whole.splitOn lineFeed).map stripReturn, fun rest => ?_⟩
    rw [← linesOf_append_lineFeed, ← List.cons_append, ← List.append_assoc, ← h]

/-- The entries of lines are read one line after another. -/
theorem entriesOf_append (lines lines' : List (List UInt8)) :
    entriesOf (lines ++ lines') = do
      let es ← entriesOf lines
      let es' ← entriesOf lines'
      return es ++ es' := by
  induction lines with
  | nil =>
      rw [List.nil_append]
      cases entriesOf lines' <;> rfl
  | cons line rest ih =>
      rw [List.cons_append, entriesOf, entriesOf, ih]
      cases entryOf line with
      | error f => rfl
      | ok entry =>
          cases entriesOf rest with
          | error f => rfl
          | ok es =>
              cases entriesOf lines' with
              | error f => rfl
              | ok es' => exact congrArg Except.ok (List.append_assoc ..).symm

theorem entriesOf_append_of_ok {lines : List (List UInt8)} {es : List Entry}
    (h : entriesOf lines = .ok es) (lines' : List (List UInt8)) :
    entriesOf (lines ++ lines') = (entriesOf lines').map (es ++ ·) := by
  rw [entriesOf_append, h]
  cases entriesOf lines' <;> rfl

theorem entriesOf_append_of_error {lines : List (List UInt8)} {f : Error}
    (h : entriesOf lines = .error f) (lines' : List (List UInt8)) :
    entriesOf (lines ++ lines') = .error f := by
  rw [entriesOf_append, h]
  rfl

theorem entriesOf_append_eq_ok {lines lines' : List (List UInt8)} {es : List Entry}
    (h : entriesOf (lines ++ lines') = .ok es) :
    ∃ es₁ es₂, entriesOf lines = .ok es₁ ∧ entriesOf lines' = .ok es₂ ∧ es = es₁ ++ es₂ := by
  cases hlines : entriesOf lines with
  | error f =>
      rw [entriesOf_append_of_error hlines] at h
      cases h
  | ok es₁ =>
      rw [entriesOf_append_of_ok hlines] at h
      cases hlines' : entriesOf lines' with
      | error f =>
          rw [hlines'] at h
          cases h
      | ok es₂ =>
          rw [hlines'] at h
          cases h
          exact ⟨es₁, es₂, rfl, rfl, rfl⟩

/-- A line that is read at all is the bytes of a text. -/
theorem exists_bytesOf_of_entryOf {line : List UInt8} {entry : Option Entry}
    (h : entryOf line = .ok entry) : ∃ cs, line = bytesOf cs := by
  unfold entryOf at h
  cases htext : textOf line with
  | error f => simp only [htext, bind, Except.bind, reduceCtorEq] at h
  | ok s => exact ⟨s.toList, textOf_eq_ok.mp htext⟩

/-- The entry of a line, by the line's text. -/
theorem entryOf_bytesOf (cs : List Char) :
    entryOf (bytesOf cs) =
      if cs.all Text.isBlank then .ok none
      else
        match (Json.readChars cs).bind Entry.format.decode with
        | some entry => .ok (some entry)
        | none => .error .malformedEntry := by
  have htext : textOf (bytesOf cs) = .ok (String.ofList cs) := by
    rw [textOf_eq_ok, String.toList_ofList]
  unfold entryOf Json.read Text.allBlank
  rw [htext]
  simp only [bind, Except.bind, String.toList_ofList]
  by_cases hblank : cs.all Text.isBlank = true
  · rw [if_pos hblank, if_pos hblank]
    rfl
  · rw [if_neg hblank, if_neg hblank]
    cases (Json.readChars cs).bind Entry.format.decode <;> rfl

/-- No text that ends in the line of an entry is blank. -/
theorem all_isBlank_line (before : List Char) (e : Entry) :
    (before ++ e.line).all Text.isBlank = false := by
  rcases e.line_eq_cons with ⟨cs, hcs⟩
  rw [hcs, List.all_append, List.all_cons]
  exact Bool.and_false _

/-- An entry is read from behind blanks. -/
theorem entryOf_blank {blanks : List Char} (h : ∀ c ∈ blanks, Json.isSpace c = true) (e : Entry) :
    entryOf (bytesOf blanks ++ bytesOf e.line) = .ok (some e) := by
  rw [← bytesOf_append, entryOf_bytesOf, all_isBlank_line, Entry.read_line e h]
  rfl

/-- No entry is read from behind anything else that could stand on a line. -/
theorem entryOf_unfinished {cs : List Char} {entry : Option Entry}
    (hread : entryOf (bytesOf cs) = .ok entry) (hcs : ¬ ∀ c ∈ cs, Json.isSpace c = true)
    (e : Entry) : entryOf (bytesOf cs ++ bytesOf e.line) = .error .malformedEntry := by
  have hnone : (Json.readChars (cs ++ e.line)).bind Entry.format.decode = none := by
    rw [entryOf_bytesOf] at hread
    -- What could be read is blank in the wide sense or an entry; each has its own reason.
    by_cases hblank : cs.all Text.isBlank = true
    · -- all blanks, so the first that is no blank of the grammar stops the reader
      rcases Json.exists_blanks_append hcs with ⟨blanks, c, rest, rfl, hblanks, hspace⟩
      have hc : Text.isBlank c = true :=
        List.all_eq_true.mp hblank c (List.mem_append_right _ List.mem_cons_self)
      rw [List.append_assoc, List.cons_append, Json.readChars_blank hblanks hspace hc]
      rfl
    · rw [if_neg hblank] at hread
      cases hvalue : Json.readChars cs with
      | none => simp [hvalue] at hread
      | some v =>
          cases hdecode : Entry.format.decode v with
          | none => simp [hvalue, hdecode] at hread
          | some e' =>
              rcases e.line_eq_cons with ⟨rest, hrest⟩
              rw [hrest, Json.readChars_append hvalue (Entry.ne_number_of_decode hdecode) rfl]
              rfl
  rw [← bytesOf_append, entryOf_bytesOf, all_isBlank_line, hnone]
  rfl

/-- The line feed behind an entry's line takes no carriage return with it. -/
theorem stripReturn_line (before : List UInt8) (e : Entry) :
    stripReturn (before ++ bytesOf e.line) = before ++ bytesOf e.line := by
  rcases e.line_eq_concat with ⟨cs, hcs⟩
  unfold stripReturn
  rw [hcs, bytesOf_append, ← List.append_assoc]
  exact if_neg (by simp [bytesOf, String.utf8EncodeChar])

/-- What follows the last line feed is one line, read as such. -/
theorem entriesOf_unfinished {line : List UInt8} (h : lineFeed ∉ line) :
    entriesOf (linesOf line) = (entryOf line).map Option.toList := by
  rw [linesOf_unfinished h]
  by_cases hnil : line = []
  · rw [if_pos hnil, hnil]
    exact (congrArg (Except.map Option.toList) (entryOf_bytesOf [])).symm
  · rw [if_neg hnil, entriesOf]
    cases entryOf line with
    | error f => rfl
    | ok entry => exact congrArg Except.ok (List.append_nil _)

/-- The bytes of an entry on its line. -/
def lineBytes (e : Entry) : List UInt8 :=
  bytesOf e.line ++ [lineFeed]

/-- The bytes of some entries, each on its line. -/
def written (entries : List Entry) : List UInt8 :=
  entries.flatMap lineBytes

/-- An entry that is written behind an unfinished line ends that line. -/
theorem entriesOf_lineBytes {line : List UInt8} (h : lineFeed ∉ line) (e : Entry) :
    entriesOf (linesOf (line ++ lineBytes e)) =
      (entryOf (line ++ bytesOf e.line)).map Option.toList := by
  have hfeed : lineFeed ∉ line ++ bytesOf e.line := by
    rw [List.mem_append, lineFeed_mem_bytesOf]
    exact fun hmem => hmem.elim h e.lineFeed_not_mem_line
  rw [lineBytes, ← List.append_assoc, linesOf_append_lineFeed, List.splitOn_eq_singleton hfeed,
    List.map_singleton, stripReturn_line, linesOf_unfinished List.not_mem_nil, if_pos rfl,
    List.append_nil, entriesOf]
  cases entryOf (line ++ bytesOf e.line) with
  | error f => rfl
  | ok entry => exact congrArg Except.ok (List.append_nil _)

/-- A file that ends with an entry does not end clean. -/
theorem not_endsClean_line (e : Entry) : ¬ EndsClean (bytesOf e.line) := by
  have hself : unfinished (bytesOf e.line) = bytesOf e.line := by
    refine List.rtakeWhile_eq_self_iff.mpr fun b hb => ?_
    rw [bne_iff_ne]
    rintro rfl
    exact e.lineFeed_not_mem_line (lineFeed_mem_bytesOf.mp hb)
  rcases e.line_eq_cons with ⟨cs, hcs⟩
  have hbrace : 123 ∈ bytesOf e.line :=
    (mem_bytesOf (by decide)).mpr ⟨'{', by rw [hcs]; exact List.mem_cons_self, rfl⟩
  intro h
  have hspace := h 123 (by rwa [hself])
  exact absurd hspace (by decide)

namespace Place

/-- A line is a file of its own, finished or not. -/
theorem entries_line (e : Entry) : (file (bytesOf e.line)).entries = .ok [e] := by
  have hfeed : lineFeed ∉ bytesOf e.line := fun h =>
    e.lineFeed_not_mem_line (lineFeed_mem_bytesOf.mp h)
  have hread : entryOf (bytesOf e.line) = .ok (some e) :=
    entryOf_blank (List.forall_mem_nil fun c => Json.isSpace c = true) e
  rw [entries, entriesOf_unfinished hfeed, hread]
  rfl

/-- The entries of a file after one more was written at its end. -/
theorem entries_write {content : List UInt8} {es : List Entry}
    (hes : (file content).entries = .ok es) (e : Entry) :
    (file (content ++ lineBytes e)).entries =
      if EndsClean content then .ok (es ++ [e]) else .error .malformedEntry := by
  have hfeed := lineFeed_not_mem_unfinished content
  -- The lines before the unfinished one are read as before and can be set aside.
  rcases exists_linesOf_append content with ⟨lines, hlines⟩
  rw [entries, ← List.append_nil content, hlines, List.append_nil] at hes
  rcases entriesOf_append_eq_ok hes with ⟨es₁, es₂, hes₁, hes₂, rfl⟩
  rw [entriesOf_unfinished hfeed] at hes₂
  cases hentry : entryOf (unfinished content) with
  | error f =>
      rw [hentry] at hes₂
      cases hes₂
  | ok entry =>
      rw [hentry] at hes₂
      cases hes₂
      rcases exists_bytesOf_of_entryOf hentry with ⟨cs, hcs⟩
      have hends : EndsClean content ↔ ∀ c ∈ cs, Json.isSpace c = true := by
        rw [EndsClean, hcs, isSpaceByte_bytesOf]
      rw [hcs] at hentry
      rw [entries, hlines, entriesOf_append_of_ok hes₁, entriesOf_lineBytes hfeed, hcs]
      by_cases hclean : EndsClean content
      · have hblank : cs.all Text.isBlank = true :=
          List.all_eq_true.mpr fun c hc => Json.isBlank_of_isSpace (hends.mp hclean c hc)
        rw [entryOf_bytesOf, if_pos hblank] at hentry
        cases hentry
        rw [if_pos hclean, entryOf_blank (hends.mp hclean), Option.toList_none, List.append_nil]
        rfl
      · rw [if_neg hclean, entryOf_unfinished hentry (mt hends.mpr hclean)]
        rfl

/-- What makes a finished file unreadable stays in it. -/
theorem entries_append_of_error {content : List UInt8} {f : Error}
    (h : (file (content ++ [lineFeed])).entries = .error f) (rest : List UInt8) :
    (file (content ++ [lineFeed] ++ rest)).entries = .error f := by
  rw [entries, linesOf_append_lineFeed, linesOf_unfinished List.not_mem_nil, if_pos rfl,
    List.append_nil] at h
  rw [List.append_assoc, List.singleton_append, entries, linesOf_append_lineFeed]
  exact entriesOf_append_of_error h _

/-- The entries of a file after some more were written at its end. -/
theorem entries_written {content : List UInt8} {es : List Entry}
    (hes : (file content).entries = .ok es) (new : List Entry) :
    (file (content ++ written new)).entries =
      if new = [] ∨ EndsClean content then .ok (es ++ new) else .error .malformedEntry := by
  induction new generalizing content es with
  | nil => rw [if_pos (.inl rfl), written, List.flatMap_nil, List.append_nil, List.append_nil, hes]
  | cons e rest ih =>
      have hend : content ++ lineBytes e = content ++ bytesOf e.line ++ [lineFeed] := by
        rw [lineBytes, List.append_assoc]
      have hfirst := entries_write hes e
      rw [written, List.flatMap_cons, ← List.append_assoc]
      -- After the first entry the file ends with a line feed, and the rest is the clean case.
      by_cases hclean : EndsClean content
      · rw [if_pos hclean] at hfirst
        rw [if_pos (.inr hclean), ← written, ih hfirst, hend,
          if_pos (.inr (endsClean_concat _)), List.append_assoc, List.singleton_append]
      · rw [if_neg hclean] at hfirst
        rw [if_neg (by simp [hclean]), hend]
        rw [hend] at hfirst
        exact entries_append_of_error hfirst _

end Place

end Audit

end Promotion
