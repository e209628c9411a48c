import Mathlib.Data.List.Forall2
import Promotion.Proofs.Audit.Query
import Promotion.Proofs.Controller.Agree

/-!
# Logs That Are Alike

Two logs that grew from one by the same records, taken at different times.

Two runs of the same promotions seal the same records into their logs, but for
identifiers and times, and so with other hashes. Nothing of that changes how
many entries there are or whether a file can be read: a line that is written
behind the same bytes is read or not, whatever it says of the time. So files
that were one file are alike after as many lines, and stay so.

One question depends on times after all, which of two entries is the newer one.
`SameOrder` is that two logs agree on it, and then they agree on the newest
promotion of a tag into an environment.

## Main definitions

* `Entry.Alike`: Entries that differ in times, identifiers and hashes.
* `SameOrder`: Two logs agree on which of two entries is the newer one.
* `Place.Alike`, `Store.Alike`: Two logs that grew from one.

## Theorems

* `Store.Alike.entries`: They have the same entries, but for times and the like.
* `Store.Alike.append`: They are alike again after one more record.
* `Store.Alike.newest`: They give the same newest promotion, if their order is the same.
-/

namespace Promotion

namespace Audit

/-- Entries with one number, of records that differ in identifiers and times at most. -/
structure Entry.Alike (e e' : Entry) : Prop where
  sequence : e.sequence = e'.sequence
  record : e.record.timeless = e'.record.timeless

theorem Entry.alike_self (e : Entry) : e.Alike e := ⟨rfl, rfl⟩

/-- The next entries of two chains of one length. -/
theorem Chain.nextEntry_alike {c c' : Chain} (hcount : c.count = c'.count)
    {record record' : Record} (halike : record.timeless = record'.timeless) (now now' : Timestamp) :
    (c.nextEntry record now).Alike (c'.nextEntry record' now') := ⟨hcount, halike⟩

/-- As far as two logs can be read, they agree on which of two entries is the newer one. -/
def SameOrder : Except Error (List Entry) → Except Error (List Entry) → Prop
  | .ok es, .ok es' =>
    ∀ p ∈ es.zip es', ∀ q ∈ es.zip es', newerOrSame p.1 q.1 = newerOrSame p.2 q.2
  | _, _ => True

instance SameOrder.decidable : ∀ r r', Decidable (SameOrder r r')
  | .ok es, .ok es' => inferInstanceAs (Decidable
      (∀ p ∈ es.zip es', ∀ q ∈ es.zip es', newerOrSame p.1 q.1 = newerOrSame p.2 q.2))
  | .error _, .ok _ => isTrue trivial
  | .ok _, .error _ => isTrue trivial
  | .error _, .error _ => isTrue trivial

/-- Of pairs in one order, the newest of the one side belongs to the newest of the other. -/
theorem newest?_pairs {ps : List (Entry × Entry)}
    (h : ∀ p ∈ ps, ∀ q ∈ ps, newerOrSame p.1 q.1 = newerOrSame p.2 q.2) :
    (newest? (ps.map Prod.fst) = none ∧ newest? (ps.map Prod.snd) = none) ∨
      ∃ p ∈ ps, newest? (ps.map Prod.fst) = some p.1 ∧ newest? (ps.map Prod.snd) = some p.2 := by
  induction ps with
  | nil => exact .inl ⟨rfl, rfl⟩
  | cons first rest ih =>
      have hrest : ∀ p ∈ rest, ∀ q ∈ rest, newerOrSame p.1 q.1 = newerOrSame p.2 q.2 :=
        fun p hp q hq => h p (List.mem_cons_of_mem _ hp) q (List.mem_cons_of_mem _ hq)
      refine .inr ?_
      simp only [List.map_cons, newest?]
      rcases ih hrest with ⟨hnone, hnone'⟩ | ⟨p, hp, hsome, hsome'⟩
      · rw [hnone, hnone']
        exact ⟨first, List.mem_cons_self, rfl, rfl⟩
      · have hsame := h first List.mem_cons_self p (List.mem_cons_of_mem _ hp)
        simp only [hsome, hsome', hsame]
        -- The first pair comes out on both sides, or the newest of the rest does.
        split
        · exact ⟨first, List.mem_cons_self, rfl, rfl⟩
        · exact ⟨p, List.mem_cons_of_mem _ hp, rfl, rfl⟩

/-- The newest entry that a question accepts is at one place in entries that are alike and in the
    same order, if it accepts any. -/
theorem newest?_filter_alike {es es' : List Entry} (hall : List.Forall₂ Entry.Alike es es')
    (hsame : SameOrder (.ok es) (.ok es')) (q : Query) :
    (newest? (es.filter fun e => q.accepts e.record) = none ∧
        newest? (es'.filter fun e => q.accepts e.record) = none) ∨
      ∃ e e', newest? (es.filter fun e => q.accepts e.record) = some e ∧
        newest? (es'.filter fun e => q.accepts e.record) = some e' ∧ e.Alike e' := by
  rcases List.forall₂_iff_zip.mp hall with ⟨hlength, hpairs⟩
  -- Both sides are read off the pairs of entries that the question accepts.
  have hfirst : es.filter (fun e => q.accepts e.record) =
      ((es.zip es').filter fun p => q.accepts p.1.record).map Prod.fst := by
    conv_lhs => rw [← List.map_fst_zip hlength.le]
    exact List.filter_map
  have hsecond : es'.filter (fun e => q.accepts e.record) =
      ((es.zip es').filter fun p => q.accepts p.1.record).map Prod.snd := by
    conv_lhs => rw [← List.map_snd_zip hlength.ge]
    rw [List.filter_map]
    refine congrArg (List.map Prod.snd) (List.filter_congr fun p hp => ?_)
    -- No question is about what the two records differ in.
    have haccepts : q.accepts p.2.record.timeless = q.accepts p.1.record.timeless := by
      rw [(hpairs hp).record]
    exact haccepts
  rw [hfirst, hsecond]
  rcases newest?_pairs fun p hp q hq =>
    hsame p (List.mem_of_mem_filter hp) q (List.mem_of_mem_filter hq) with hnone | ⟨p, hp, hsome⟩
  · exact .inl hnone
  · exact .inr ⟨p.1, p.2, hsome.1, hsome.2, hpairs (List.mem_of_mem_filter hp)⟩

/-- Places with one file, or with two files that grew from one. -/
inductive Place.Alike : Place → Place → Prop
  | same {place : Place} {es : List Entry} : place.entries = .ok es → Alike place place
  | grown {content content' : List UInt8} :
      SameEnd (List.Forall₂ Entry.Alike) (file (content ++ [lineFeed])).entries
        (file (content' ++ [lineFeed])).entries →
      Alike (file (content ++ [lineFeed])) (file (content' ++ [lineFeed]))

theorem Place.Alike.entries {place place' : Place} (h : place.Alike place') :
    SameEnd (List.Forall₂ Entry.Alike) place.entries place'.entries := by
  cases h with
  | same hes => exact .of_eq (fun es => List.forall₂_same.mpr fun e _ => e.alike_self) _
  | grown hend => exact hend

/-- A line of either of two entries is written behind places that are alike, or behind neither. -/
theorem Place.Alike.content? {place place' : Place} (h : place.Alike place') :
    place.content?.isSome = place'.content?.isSome := by
  cases h with
  | same _ => rfl
  | grown _ => rfl

/-- Two files are alike that have a line more than places that are alike. -/
theorem Place.Alike.write {place place' : Place} (h : place.Alike place')
    {content content' : List UInt8} (hcontent : place.content? = some content)
    (hcontent' : place'.content? = some content') {e e' : Entry} (he : e.Alike e') :
    (file (content ++ lineBytes e)).Alike (file (content' ++ lineBytes e')) := by
  have hread : SameEnd (List.Forall₂ Entry.Alike) (file (content ++ lineBytes e)).entries
      (file (content' ++ lineBytes e')).entries := by
    cases h with
    | @same _ es hes =>
        -- One file, so its last line was finished before both lines or before neither.
        cases hcontent.symm.trans hcontent'
        rw [Place.entries_of_content? hcontent] at hes
        rw [Place.entries_write hes, Place.entries_write hes]
        split
        · exact .ok (List.rel_append (List.forall₂_same.mpr fun e _ => e.alike_self)
            (.cons he .nil))
        · exact .error _
    | @grown before before' hend =>
        cases hcontent
        cases hcontent'
        -- Two finished files: what can be read is followed by the line, what cannot stays so.
        generalize hes : (file (before ++ [lineFeed])).entries = read at hend
        generalize hes' : (file (before' ++ [lineFeed])).entries = read' at hend
        cases hend with
        | error f =>
            rw [Place.entries_append_of_error hes, Place.entries_append_of_error hes']
            exact .error f
        | ok hall =>
            rw [Place.entries_write hes, Place.entries_write hes',
              if_pos (endsClean_concat _), if_pos (endsClean_concat _)]
            exact .ok (List.rel_append hall (.cons he .nil))
  have hline : ∀ (content : List UInt8) (e : Entry),
      content ++ lineBytes e = content ++ Text.bytesOf e.line ++ [lineFeed] := by
    intro content e
    rw [lineBytes, List.append_assoc]
  rw [hline, hline] at hread ⊢
  exact .grown hread

/-- Logs that grew from one. -/
inductive Store.Alike : Store → Store → Prop
  | memory {m m' : MemoryStore} : List.Forall₂ Entry.Alike m.entries m'.entries →
      m.chain.count = m'.chain.count → Alike (memory m) (memory m')
  | file {f f' : FileStore} {place place' : Place} : f.chain.count = f'.chain.count →
      place.Alike place' → Alike (file f place) (file f' place')

namespace Store

/-- A log that can be read is alike itself. -/
theorem alike_self {store : Store} {es : List Entry} (hes : store.entries = .ok es) :
    store.Alike store := by
  cases store with
  | memory m => exact .memory (List.forall₂_same.mpr fun e _ => e.alike_self) rfl
  | file f place => exact .file rfl (.same hes)

namespace Alike

variable {store store' : Store}

/-- Logs that are alike have the same entries, but for times and the like. -/
theorem entries (h : store.Alike store') :
    SameEnd (List.Forall₂ Entry.Alike) store.entries store'.entries := by
  cases h with
  | memory hentries _ => exact .ok hentries
  | file _ hplace => exact hplace.entries

/-- And still do after one more record each, if the records differ in times and the like only. -/
theorem append (h : store.Alike store') {record record' : Record}
    (halike : record.timeless = record'.timeless) (hreal : record.dryRun = false)
    (now now' : Timestamp) :
    SameEnd Entry.Alike (store.append record now).1 (store'.append record' now').1 ∧
      (store.append record now).2.Alike (store'.append record' now').2 := by
  have hreal' : record'.dryRun = false := (congrArg Record.dryRun halike).symm.trans hreal
  cases h with
  | memory hentries hcount =>
      have hnext := Chain.nextEntry_alike hcount halike now now'
      simp only [Store.append, MemoryStore.append, hreal, hreal', Bool.false_eq_true, if_false]
      exact ⟨.ok hnext, .memory (List.rel_append hentries (.cons hnext .nil))
        (congrArg (· + 1) hcount)⟩
  | @file f f' place place' hcount hplace =>
      have hnext := Chain.nextEntry_alike hcount halike now now'
      have hsome := hplace.content?
      cases hcontent : place.content? with
      | none =>
          -- Where no file can be written both places are the same.
          cases hplace with
          | grown _ => cases hcontent
          | same hes =>
              simp only [Store.append, FileStore.append, hreal, hreal', Bool.false_eq_true, if_false]
              cases place with
              | vacant => cases hcontent
              | file _ => cases hcontent
              | barred => exact ⟨.error _, .file hcount (.same hes)⟩
              | directory => exact ⟨.error _, .file hcount (.same hes)⟩
      | some content =>
          rw [hcontent] at hsome
          rcases Option.isSome_iff_exists.mp hsome.symm with ⟨content', hcontent'⟩
          simp only [Store.append, FileStore.append_real hcontent hreal,
            FileStore.append_real hcontent' hreal']
          exact ⟨.ok hnext, .file (congrArg (· + 1) hcount)
            (hplace.write hcontent hcontent' hnext)⟩

/-- Logs that are alike and in the same order give the same newest promotion of a tag into an
    environment. -/
theorem newest (h : store.Alike store') (hsame : SameOrder store.entries store'.entries)
    (tag environment : String) :
    SameEnd (InvImage Eq (Option.map Record.operator))
      ((store.query (.latestInto tag environment)).map List.head?)
      ((store'.query (.latestInto tag environment)).map List.head?) := by
  rw [query_of_limit store rfl, query_of_limit store' rfl]
  have hend := h.entries
  generalize store.entries = read at hend hsame
  generalize store'.entries = read' at hend hsame
  cases hend with
  | error f => exact .error f
  | @ok es es' hall =>
      simp only [Except.map]
      rcases newest?_filter_alike hall hsame (.latestInto tag environment) with
        ⟨hnone, hnone'⟩ | ⟨e, e', hsome, hsome', halike⟩
      · rw [hnone, hnone']
        exact .ok rfl
      · rw [hsome, hsome']
        have hoperator : e.record.timeless.operator = e'.record.timeless.operator := by
          rw [halike.record]
        exact .ok (congrArg some hoperator)

end Alike

end Store

end Audit

end Promotion
