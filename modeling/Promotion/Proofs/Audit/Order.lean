import Promotion.Proofs.Audit.Answer
import Promotion.Proofs.Audit.Restart

/-!
# The Order of Answers

Which records a question is answered with, and in which order.

An answer has the records that fit, all of them and no others, down the order of
time and number. Where two entries agree in both, that order says nothing, and
they follow each other as in the log. `Lists` says these three things without
saying how a log is looked through or how entries are sorted. Nothing is left
open by them: for every log and every question there is just one such list, and
a limit cuts it off behind its first records.

How entries follow each other in the log only matters where they agree in time
and number. A log whose entries have different numbers can be put into any other
order, and the answers are the same.

## Main definitions

* `Query.Fits`: A record has what is asked for.
* `Query.Lists`: Some entries are those that fit, in the order of answers.
* `Query.listing`: The entries that an answer is made of.

## Theorems

* `newerOrSame_iff_not_later`: The order of answers, said by what is later.
* `ties_mergeSort`: Sorting keeps entries of one time and number as they were.
* `eq_of_ordered`: Entries in the order of answers are in just one order.
* `Query.lists_iff`: The one list of the entries that fit.
* `mergeSort_eq_of_perm`: Where numbers differ, the order of the log does not matter.
* `newest?_eq_some_iff`: The newest entry is later than all before it.
* `Store.latestInto_eq`: The answer to the question for a tag into an environment.
* `Query.apply_exact`: Answers have exactly the records that fit, the newest first.
-/

namespace Promotion

namespace Audit

/-- One entry is as new as another unless the other is later. -/
theorem newerOrSame_iff_not_later {a b : Entry} : newerOrSame a b = true ↔ ¬ b.Later a := by
  rw [newerOrSame_iff, Entry.Later, not_or, not_and]
  constructor
  · rintro (hlt | ⟨hsame, hle⟩)
    · exact ⟨Int.lt_asymm hlt, fun hsame => absurd (hsame ▸ hlt) (Int.lt_irrefl _)⟩
    · refine ⟨fun hlt => absurd (hsame ▸ hlt) (Int.lt_irrefl _), fun _ => ?_⟩
      exact UInt64.not_lt.mpr hle
  · rintro ⟨hnot, hnumber⟩
    rcases Int.lt_or_eq_of_le (Int.not_lt.mp hnot) with hlt | hsame
    · exact .inl hlt
    · -- One rank is one time, and then the numbers decide.
      have htime := Timestamp.rank_inj hsame
      exact .inr ⟨htime.symm, UInt64.not_lt.mp (hnumber htime)⟩

theorem newerOrSame_eq_false_iff {a b : Entry} : newerOrSame a b = false ↔ b.Later a := by
  rw [← Bool.not_eq_true, newerOrSame_iff_not_later, not_not]

theorem Entry.Later.asymm {a b : Entry} (h : a.Later b) : ¬ b.Later a := by
  rcases h with hlt | ⟨hsame, hlt⟩
  · rintro (hgt | ⟨hsame, -⟩)
    · exact Int.lt_asymm hlt hgt
    · exact absurd (hsame ▸ hlt) (Int.lt_irrefl _)
  · rintro (hgt | ⟨-, hgt⟩)
    · exact absurd (hsame ▸ hgt) (Int.lt_irrefl _)
    · exact UInt64.lt_asymm hlt hgt

/-- Of two entries of which neither is later, both have one time and one number. -/
theorem eq_of_not_later {a b : Entry} (hab : ¬ a.Later b) (hba : ¬ b.Later a) :
    a.record.timestamp = b.record.timestamp ∧ a.sequence = b.sequence := by
  rw [← newerOrSame_iff_not_later, newerOrSame_iff] at hab hba
  rcases hab with hlt | ⟨hsame, hle⟩
  · rcases hba with hgt | ⟨hsame, -⟩
    · exact absurd hgt (Int.lt_asymm hlt)
    · exact absurd (hsame ▸ hlt) (Int.lt_irrefl _)
  · rcases hba with hgt | ⟨-, hge⟩
    · exact absurd (hsame ▸ hgt) (Int.lt_irrefl _)
    · exact ⟨hsame.symm, UInt64.le_antisymm hle hge⟩

/-- The entries of some that have one time and one number. -/
def ties (es : List Entry) (time : Timestamp) (number : UInt64) : List Entry :=
  es.filter fun e => e.record.timestamp = time ∧ e.sequence = number

theorem ties_cons_of_eq {e : Entry} {time : Timestamp} {number : UInt64}
    (h : e.record.timestamp = time ∧ e.sequence = number) (es : List Entry) :
    ties (e :: es) time number = e :: ties es time number :=
  List.filter_cons_of_pos (decide_eq_true h)

/-- Sorting keeps entries of one time and number as they were. -/
theorem ties_mergeSort (es : List Entry) (time : Timestamp) (number : UInt64) :
    ties (es.mergeSort newerOrSame) time number = ties es time number := by
  -- Entries that agree are in order as they are, so they come out of the sorting in this order.
  have hordered : (ties es time number).Pairwise fun a b => newerOrSame a b = true := by
    refine List.pairwise_of_forall_mem_list fun a ha b hb => newerOrSame_iff.mpr (.inr ?_)
    have hta := of_decide_eq_true (List.mem_filter.mp ha).2
    have htb := of_decide_eq_true (List.mem_filter.mp hb).2
    exact ⟨hta.1.trans htb.1.symm, UInt64.le_of_eq (htb.2.trans hta.2.symm)⟩
  have hkept : (ties es time number).Sublist (es.mergeSort newerOrSame) :=
    List.sublist_mergeSort newerOrSame_trans newerOrSame_total hordered List.filter_sublist
  have hties : (ties es time number).Sublist (ties (es.mergeSort newerOrSame) time number) := by
    have hfiltered := hkept.filter fun e => e.record.timestamp = time ∧ e.sequence = number
    simpa only [ties, List.filter_filter, Bool.and_self] using hfiltered
  exact (hties.eq_of_length ((List.mergeSort_perm es newerOrSame).filter _).length_eq.symm).symm

/-- Entries in the order of answers are in just one order, if those that agree in time and number
    are. -/
theorem eq_of_ordered {l l' : List Entry} (hperm : l.Perm l')
    (h : l.Pairwise fun a b => ¬ b.Later a) (h' : l'.Pairwise fun a b => ¬ b.Later a)
    (hties : ∀ time number, ties l time number = ties l' time number) : l = l' := by
  induction l generalizing l' with
  | nil => exact hperm.nil_eq
  | cons a rest ih =>
      cases l' with
      | nil => exact absurd hperm.eq_nil (List.cons_ne_nil _ _)
      | cons b rest' =>
          -- Both heads are in both lists, so neither is later, and the ties have them in front.
          have hagree : b.record.timestamp = a.record.timestamp ∧ b.sequence = a.sequence := by
            rcases List.mem_cons.mp (hperm.mem_iff.mp List.mem_cons_self) with heq | ha
            · rw [heq]
              exact ⟨rfl, rfl⟩
            rcases List.mem_cons.mp (hperm.mem_iff.mpr List.mem_cons_self) with heq | hb
            · rw [heq]
              exact ⟨rfl, rfl⟩
            exact eq_of_not_later (List.rel_of_pairwise_cons h hb)
              (List.rel_of_pairwise_cons h' ha)
          have hheads := hties a.record.timestamp a.sequence
          rw [ties_cons_of_eq ⟨rfl, rfl⟩, ties_cons_of_eq hagree] at hheads
          obtain rfl : a = b := (List.cons.inj hheads).1
          refine congrArg (a :: ·) (ih hperm.cons_inv h.of_cons h'.of_cons fun time number => ?_)
          have htails := hties time number
          by_cases hhead : a.record.timestamp = time ∧ a.sequence = number
          · rw [ties_cons_of_eq hhead, ties_cons_of_eq hhead] at htails
            exact (List.cons.inj htails).2
          · have hskip : ∀ es, ties (a :: es) time number = ties es time number :=
              fun es => List.filter_cons_of_neg (by rwa [decide_eq_true_eq])
            rwa [hskip, hskip] at htails

/-- Where numbers differ, the order of the log does not matter. -/
theorem mergeSort_eq_of_perm {es es' : List Entry} (h : es.Perm es')
    (hdistinct : (es.map Entry.sequence).Nodup) :
    es.mergeSort newerOrSame = es'.mergeSort newerOrSame := by
  have hdistinct' : (es'.map Entry.sequence).Nodup :=
    (h.map Entry.sequence).nodup_iff.mp hdistinct
  have hperm : (es.mergeSort newerOrSame).Perm (es'.mergeSort newerOrSame) :=
    (List.mergeSort_perm es _).trans (h.trans (List.mergeSort_perm es' _).symm)
  exact hperm.eq_of_pairwise (fun _ _ _ _ hab hba => absurd hba hab.asymm)
    (later_mergeSort hdistinct) (later_mergeSort hdistinct')

namespace Query

/-- A record has what is asked for, in each respect in which something is. -/
structure Fits (q : Query) (r : Record) : Prop where
  tag : ∀ tag, q.tag = some tag → r.tag = tag
  digest : ∀ digest, q.digest = some digest → r.digest = digest
  environment : ∀ environment, q.environment = some environment → r.toEnv = environment
  operator : ∀ operator, q.operator = some operator → r.operator = operator

theorem admits_iff {α : Type} [DecidableEq α] {filter : Option α} {value : α} :
    admits filter value = true ↔ ∀ wanted, filter = some wanted → value = wanted := by
  cases filter with
  | none => simp [admits]
  | some wanted => simp [admits]

theorem accepts_iff {q : Query} {r : Record} : q.accepts r = true ↔ q.Fits r := by
  simp only [accepts, Bool.and_eq_true, admits_iff]
  constructor
  · rintro ⟨⟨⟨htag, hdigest⟩, henvironment⟩, hoperator⟩
    exact ⟨htag, hdigest, henvironment, hoperator⟩
  · rintro ⟨htag, hdigest, henvironment, hoperator⟩
    exact ⟨⟨⟨htag, hdigest⟩, henvironment⟩, hoperator⟩

instance (q : Query) (r : Record) : Decidable (q.Fits r) :=
  decidable_of_iff (q.accepts r = true) accepts_iff

/-- The entries of a log that fit a question, as the log has them. -/
def fitting (q : Query) (es : List Entry) : List Entry :=
  es.filter fun e => q.Fits e.record

theorem fitting_eq (q : Query) (es : List Entry) :
    q.fitting es = es.filter fun e => q.accepts e.record :=
  List.filter_congr fun _ _ => Bool.eq_iff_iff.mpr (decide_eq_true_iff.trans accepts_iff.symm)

/-- Some entries are those of a log that fit a question, in the order of answers. -/
structure Lists (q : Query) (es found : List Entry) : Prop where
  /-- They are all that fit, each as often as in the log. -/
  perm : found.Perm (q.fitting es)
  ordered : found.Pairwise fun a b => ¬ b.Later a
  /-- What the order leaves open is as in the log. -/
  ties_eq : ∀ time number, ties found time number = ties (q.fitting es) time number

/-- The entries that an answer is made of. -/
def listing (q : Query) (es : List Entry) : List Entry :=
  (q.fitting es).mergeSort newerOrSame

theorem lists_listing (q : Query) (es : List Entry) : q.Lists es (q.listing es) where
  perm := List.mergeSort_perm _ _
  ordered := (List.pairwise_mergeSort newerOrSame_trans newerOrSame_total (q.fitting es)).imp
    newerOrSame_iff_not_later.mp
  ties_eq := ties_mergeSort (q.fitting es)

/-- The one list of the entries that fit. -/
theorem lists_iff {q : Query} {es found : List Entry} :
    q.Lists es found ↔ found = q.listing es := by
  constructor
  · intro h
    have hlisted := lists_listing q es
    exact eq_of_ordered (h.perm.trans hlisted.perm.symm) h.ordered hlisted.ordered
      fun time number => (h.ties_eq time number).trans (hlisted.ties_eq time number).symm
  · rintro rfl
    exact lists_listing q es

theorem apply_eq (q : Query) (es : List Entry) :
    q.apply es = q.cut ((q.listing es).map Entry.record) := by
  rw [listing, fitting_eq]
  rfl

/-- How many records are wanted does not matter for that. -/
theorem listing_limit (q : Query) (limit : Option Nat) (es : List Entry) :
    ({ q with limit } : Query).listing es = q.listing es := by
  rw [listing, listing, fitting_eq, fitting_eq]
  rfl

end Query

/-- The newest entry is later than all before it in the log, and none behind it is later. -/
theorem newest?_eq_some_iff {es : List Entry} {e : Entry} :
    newest? es = some e ↔ ∃ before behind, es = before ++ e :: behind ∧
      (∀ e' ∈ before, e.Later e') ∧ ∀ e' ∈ behind, ¬ e'.Later e := by
  have hnewest : newest? es = some e ↔ Newest es e := by
    constructor
    · intro h
      rcases exists_newest (List.ne_nil_of_mem (mem_of_newest? h)) with ⟨e', hnewest⟩
      rwa [Option.some.inj (h.symm.trans hnewest.newest?_eq)]
    · exact Newest.newest?_eq
  simp only [hnewest, Newest, newerOrSame_eq_false_iff, newerOrSame_iff_not_later]

theorem newest?_eq_none_iff {es : List Entry} : newest? es = none ↔ es = [] := by
  constructor
  · intro h
    by_contra hsome
    rcases exists_newest hsome with ⟨e, hnewest⟩
    cases h.symm.trans hnewest.newest?_eq
  · rintro rfl
    rfl

/-- The answer to the question for a tag into an environment, wherever the log is kept. -/
theorem Store.latestInto_eq (store : Store) (tag environment : String) :
    store.latestInto tag environment =
      store.entries.map fun es => (newest? (arrivals es tag environment)).map Entry.record := by
  have hanswer : ∀ es, ((Query.latestInto tag environment).apply es).head? =
      (newest? (arrivals es tag environment)).map Entry.record := by
    intro es
    rw [apply_latestInto, Option.head?_toList]
  cases store with
  | memory m => exact congrArg Except.ok (hanswer m.entries)
  | file f place =>
      simp only [Store.latestInto, FileStore.latestInto, FileStore.query, Store.entries]
      cases place.entries with
      | error e => rfl
      | ok es => exact congrArg Except.ok (hanswer es)

/-- Answers have exactly the records that fit, the newest first. For any log and any question there
    is one list of the entries that fit, down the order of time and number and as in the log where
    that is open; their records are the answer without a limit, and the first of them, as many as the
    limit says, the answer with one. If all numbers are different, the log can be in any order. A
    store that has the log knows of a promotion of a tag into an environment if there is one, and
    then it is the latest and of several latest the first. -/
theorem Query.apply_exact (q : Query) (es : List Entry) :
    (∃ found, (∀ l, q.Lists es l ↔ l = found) ∧
      ({ q with limit := none } : Query).apply es = found.map Entry.record ∧
      ∀ n, ({ q with limit := some n } : Query).apply es = (found.map Entry.record).take n) ∧
    ((es.map Entry.sequence).Nodup → ∀ es', es.Perm es' → q.apply es' = q.apply es) ∧
    ∀ store : Store, store.entries = .ok es → ∀ tag environment,
      (store.latestInto tag environment = .ok none ↔
        ∀ e ∈ es, ¬ (e.record.tag = tag ∧ e.record.toEnv = environment)) ∧
      ∀ r, store.latestInto tag environment = .ok (some r) ↔
        ∃ before e behind, arrivals es tag environment = before ++ e :: behind ∧ e.record = r ∧
          (∀ e' ∈ before, e.Later e') ∧ ∀ e' ∈ behind, ¬ e'.Later e := by
  -- The limit cuts the records of one list, so the list comes first and the limits after it.
  refine ⟨⟨q.listing es, fun l => lists_iff, ?_, fun n => ?_⟩, ?_, ?_⟩
  · rw [apply_eq, listing_limit]
    rfl
  · rw [apply_eq, listing_limit]
    rfl
  · intro hdistinct es' hperm
    have hsame : q.listing es = q.listing es' :=
      mergeSort_eq_of_perm (hperm.filter _) (nodup_filter hdistinct _)
    rw [apply_eq, apply_eq, hsame]
  · intro store hstore tag environment
    -- Both stores answer from their entries, and of these it is the newest arrival.
    have hlatest : store.latestInto tag environment =
        .ok ((newest? (arrivals es tag environment)).map Entry.record) := by
      rw [Store.latestInto_eq, hstore]
      rfl
    rw [hlatest]
    constructor
    · rw [Except.ok.injEq, Option.map_eq_none_iff, newest?_eq_none_iff, arrivals,
        List.filter_eq_nil_iff]
      simp only [decide_eq_true_eq]
    · intro r
      rw [Except.ok.injEq, Option.map_eq_some_iff]
      constructor
      · rintro ⟨e, hnewest, rfl⟩
        rcases newest?_eq_some_iff.mp hnewest with ⟨before, behind, hes, hbefore, hbehind⟩
        exact ⟨before, e, behind, hes, rfl, hbefore, hbehind⟩
      · rintro ⟨before, e, behind, hes, rfl, hbefore, hbehind⟩
        exact ⟨e, newest?_eq_some_iff.mpr ⟨before, behind, hes, hbefore, hbehind⟩, rfl⟩

/-- Two entries of one time, answered alike in either order. The one with the greater number is the
    latest. -/
theorem Query.apply_exact_turned :
    let first := Entry.ofRecord default 0 none .epoch
    let second := Entry.ofRecord { (default : Record) with operator := "bob" } 1 none .epoch
    let store := Store.memory ⟨[first, second], .empty⟩
    Query.all.apply [second, first] = Query.all.apply [first, second] ∧
      store.latestInto first.record.tag first.record.toEnv = .ok (some second.record) := by
  intro first second store
  rcases apply_exact .all [first, second] with ⟨-, hturned, hlatest⟩
  have hdistinct : ([first, second].map Entry.sequence).Nodup := by decide
  have hlater : ∀ e ∈ [first], second.Later e :=
    List.forall_mem_singleton.mpr (.inr ⟨rfl, by decide⟩)
  refine ⟨hturned hdistinct [second, first] (.swap second first []), ?_⟩
  exact ((hlatest store rfl _ _).2 second.record).mpr
    ⟨[first], second, [], rfl, rfl, hlater, List.forall_mem_nil _⟩

end Audit

end Promotion
