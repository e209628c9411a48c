import Promotion.Proofs.Audit.Store
import Promotion.Proofs.Timestamp

/-!
# The Newest Entry

Which entry a question for the newest promotion is answered with.

Answers are sorted by the time of the record, and by the number of the entry
where times are the same, the greatest first. Clocks go back, so this is not the
order of the log. `Newest` says which entry of some comes out first without
saying how they are sorted: none before it in the log is as new, and none behind
it is newer. Sorting is stable, so of entries with one time and one number it is
the first, and there is just one such entry of any that there are.

## Main definitions

* `Newest`: The entry of some that an answer starts with.
* `newest?`: The newest entry, if there are any.
* `arrivals`: The entries of a tag into an environment.

## Theorems

* `newerOrSame_iff`: The order of answers, spelled out.
* `newest_unique`, `exists_newest`: There is just one newest entry, if there are any.
* `head?_mergeSort`: Sorted, some entries start with it.
* `Query.apply_of_limit`: The question for one record is answered with the newest.
* `apply_latestInto`: So is that for a tag into an environment.
* `Store.Keeps.query_eq`: A log answers by the entries it keeps.
-/

namespace Promotion

namespace Audit

/-- The order of answers: by time, and then by number, the greatest first. -/
theorem newerOrSame_iff {a b : Entry} :
    newerOrSame a b = true ↔ b.record.timestamp < a.record.timestamp ∨
      a.record.timestamp = b.record.timestamp ∧ b.sequence ≤ a.sequence := by
  unfold newerOrSame
  by_cases hsame : a.record.timestamp = b.record.timestamp
  · have hnot : ¬ b.record.timestamp < b.record.timestamp := Int.lt_irrefl _
    simp only [hsame, if_true, decide_eq_true_eq, hnot, true_and, false_or]
  · simp only [hsame, if_false, decide_eq_true_eq, false_and, or_false]

theorem newerOrSame_trans (a b c : Entry) (hab : newerOrSame a b = true)
    (hbc : newerOrSame b c = true) : newerOrSame a c = true := by
  rw [newerOrSame_iff] at hab hbc ⊢
  rcases hab with hab | ⟨hab, hle⟩
  · rcases hbc with hbc | ⟨hbc, -⟩
    · exact .inl (Int.lt_trans hbc hab)
    · rw [hbc] at hab
      exact .inl hab
  · rw [hab]
    rcases hbc with hbc | ⟨hbc, hle'⟩
    · exact .inl hbc
    · exact .inr ⟨hbc, UInt64.le_trans hle' hle⟩

theorem newerOrSame_total (a b : Entry) : (newerOrSame a b || newerOrSame b a) = true := by
  rw [Bool.or_eq_true, newerOrSame_iff, newerOrSame_iff]
  rcases Int.lt_trichotomy a.record.timestamp.rank b.record.timestamp.rank with h | h | h
  · exact .inr (.inl h)
  · -- One rank is one time, and then the numbers decide.
    have hsame := Timestamp.rank_inj h
    rcases UInt64.le_total b.sequence a.sequence with hle | hle
    · exact .inl (.inr ⟨hsame, hle⟩)
    · exact .inr (.inr ⟨hsame.symm, hle⟩)
  · exact .inl (.inl h)

/-- The entry of some that an answer starts with: it is newer than all before it, and as new as all
    behind it. -/
def Newest (es : List Entry) (e : Entry) : Prop :=
  ∃ before behind, es = before ++ e :: behind ∧
    (∀ e' ∈ before, newerOrSame e' e = false) ∧ ∀ e' ∈ behind, newerOrSame e e' = true

theorem Newest.mem {es : List Entry} {e : Entry} (h : Newest es e) : e ∈ es := by
  rcases h with ⟨before, behind, rfl, -, -⟩
  exact List.mem_append_right _ List.mem_cons_self

/-- The newest is the first entry if none behind it is newer. Else it is the newest of the rest. -/
theorem newest_cons {first : Entry} {rest : List Entry} {e : Entry} :
    Newest (first :: rest) e ↔
      (e = first ∧ ∀ e' ∈ rest, newerOrSame first e' = true) ∨
        newerOrSame first e = false ∧ Newest rest e := by
  constructor
  · rintro ⟨before, behind, hes, hbefore, hbehind⟩
    cases before with
    | nil =>
        cases hes
        exact .inl ⟨rfl, hbehind⟩
    | cons x before =>
        cases hes
        rcases List.forall_mem_cons.mp hbefore with ⟨hfirst, hbefore⟩
        exact .inr ⟨hfirst, before, behind, rfl, hbefore, hbehind⟩
  · rintro (⟨rfl, hbehind⟩ | ⟨hfirst, before, behind, rfl, hbefore, hbehind⟩)
    · exact ⟨[], rest, rfl, List.forall_mem_nil _, hbehind⟩
    · exact ⟨first :: before, behind, rfl, List.forall_mem_cons.mpr ⟨hfirst, hbefore⟩, hbehind⟩

/-- The newest of some entries, found without sorting them. -/
def newest? : List Entry → Option Entry
  | [] => none
  | first :: rest =>
    match newest? rest with
    | none => some first
    | some e => if newerOrSame first e then some first else some e

theorem mem_of_newest? {es : List Entry} {e : Entry} (h : newest? es = some e) : e ∈ es := by
  induction es generalizing e with
  | nil => cases h
  | cons first rest ih =>
      unfold newest? at h
      cases hfound : newest? rest with
      | none =>
          rw [hfound] at h
          cases h
          exact List.mem_cons_self
      | some e' =>
          simp only [hfound] at h
          split at h
          all_goals cases h
          · exact List.mem_cons_self
          · exact List.mem_cons_of_mem _ (ih hfound)

theorem Newest.newest?_eq {es : List Entry} {e : Entry} (h : Newest es e) :
    newest? es = some e := by
  induction es generalizing e with
  | nil => cases h.mem
  | cons first rest ih =>
      unfold newest?
      rcases newest_cons.mp h with ⟨rfl, hbehind⟩ | ⟨hfirst, hrest⟩
      · cases hfound : newest? rest with
        | none => rfl
        | some e' => exact if_pos (hbehind e' (mem_of_newest? hfound))
      · rw [ih hrest]
        exact if_neg (Bool.eq_false_iff.mp hfirst)

/-- There is just one newest entry. -/
theorem newest_unique {es : List Entry} {e e' : Entry} (h : Newest es e) (h' : Newest es e') :
    e = e' :=
  Option.some.inj (h.newest?_eq.symm.trans h'.newest?_eq)

/-- Sorted, some entries start with the newest of them. -/
theorem newest_head_mergeSort {es : List Entry} {e : Entry} {others : List Entry}
    (h : es.mergeSort newerOrSame = e :: others) : Newest es e := by
  induction es generalizing e others with
  | nil =>
      rw [List.mergeSort_nil] at h
      cases h
  | cons first rest ih =>
      rw [newest_cons]
      rcases List.mergeSort_cons newerOrSame_trans newerOrSame_total first rest with
        ⟨newer, older, hsorted, hrest, hnewer⟩
      cases newer with
      | nil =>
          -- The first entry stays in front, so all others come after it in the answer.
          have hordered := List.pairwise_mergeSort newerOrSame_trans newerOrSame_total
            (first :: rest)
          rw [hsorted] at h hordered
          cases h
          refine .inl ⟨rfl, fun e' he' => List.rel_of_pairwise_cons hordered ?_⟩
          have hmem : e' ∈ rest.mergeSort newerOrSame := List.mem_mergeSort.mpr he'
          rwa [hrest] at hmem
      | cons newest newer =>
          -- What comes out in front of the first entry came out in front of the rest before.
          rw [hsorted] at h
          cases h
          have hfirst := hnewer e List.mem_cons_self
          rw [Bool.not_eq_true'] at hfirst
          exact .inr ⟨hfirst, ih hrest⟩

theorem eq_nil_of_mergeSort {es : List Entry} (h : es.mergeSort newerOrSame = []) : es = [] := by
  have hlength : (es.mergeSort newerOrSame).length = es.length := List.length_mergeSort es
  rw [h] at hlength
  exact List.length_eq_zero_iff.mp hlength.symm

/-- An answer starts with the newest entry. -/
theorem head?_mergeSort (es : List Entry) : (es.mergeSort newerOrSame).head? = newest? es := by
  rcases hsorted : es.mergeSort newerOrSame with _ | ⟨newest, others⟩
  · rw [eq_nil_of_mergeSort hsorted]
    rfl
  · exact (newest_head_mergeSort hsorted).newest?_eq.symm

/-- Of any entries there is a newest. -/
theorem exists_newest {es : List Entry} (h : es ≠ []) : ∃ e, Newest es e := by
  rcases hsorted : es.mergeSort newerOrSame with _ | ⟨newest, others⟩
  · exact absurd (eq_nil_of_mergeSort hsorted) h
  · exact ⟨newest, newest_head_mergeSort hsorted⟩

/-- The question for one record is answered with the newest that it accepts. -/
theorem Query.apply_of_limit {q : Query} (h : q.limit = some 1) (es : List Entry) :
    q.apply es =
      ((newest? (es.filter fun e => q.accepts e.record)).map Entry.record).toList := by
  unfold Query.apply Query.cut
  rw [h, ← head?_mergeSort]
  cases (es.filter fun e => q.accepts e.record).mergeSort newerOrSame with
  | nil => rfl
  | cons e others => rfl

/-- The entries of a tag into an environment. -/
def arrivals (es : List Entry) (tag environment : String) : List Entry :=
  es.filter fun e => e.record.tag = tag ∧ e.record.toEnv = environment

/-- The answer to the question for the newest promotion of a tag into an environment. -/
theorem apply_latestInto (es : List Entry) (tag environment : String) :
    (Query.latestInto tag environment).apply es =
      ((newest? (arrivals es tag environment)).map Entry.record).toList := by
  have hfilter : (fun e : Entry => (Query.latestInto tag environment).accepts e.record) =
      fun e => decide (e.record.tag = tag ∧ e.record.toEnv = environment) := by
    funext e
    simp [Query.accepts, Query.latestInto, Query.all, Query.admits, eq_comm]
  rw [Query.apply_of_limit rfl, hfilter, arrivals]

/-- Where a log is kept makes no difference to that, if its entries can be had. -/
theorem Store.query_of_limit (store : Store) {q : Query} (h : q.limit = some 1) :
    store.query q = store.entries.map fun es =>
      ((newest? (es.filter fun e => q.accepts e.record)).map Entry.record).toList := by
  have happly : q.apply = fun es =>
      ((newest? (es.filter fun e => q.accepts e.record)).map Entry.record).toList :=
    funext (Query.apply_of_limit h)
  rw [← happly]
  cases store with
  | memory m => rfl
  | file f place =>
      unfold Store.query FileStore.query Store.entries
      cases place.entries <;> rfl

/-- A log answers by the entries it keeps. -/
theorem Store.Keeps.query_eq {store : Store} {es : List Entry} (h : store.Keeps es)
    (question : Query) : store.query question = .ok (question.apply es) := by
  cases store with
  | memory m => exact congrArg (fun es => Except.ok (question.apply es)) h
  | file f place =>
      simp only [Store.query, FileStore.query, h.1]
      rfl

end Audit

end Promotion
