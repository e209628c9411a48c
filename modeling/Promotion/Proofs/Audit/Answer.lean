import Promotion.Proofs.Audit.Query

/-!
# All Promotions of a Tag

The answer to the question for everything that was recorded of a tag.

Sorting leaves open how entries of one time and one number follow each other.
Where the numbers differ, as in a log that numbers its entries, nothing is open:
of two entries one is `Later`, and the answer goes down this order strictly. So
whatever is looked for from the front of the answer, what is found first is
later than all else that fits.

## Main definitions

* `Entry.Later`: The order by time and number, without ties.
* `history`: The entries of a tag in the order of the answer.

## Theorems

* `apply_ofTag`: The answer to the question for a tag.
* `history_perm`: It has all entries of the tag.
* `later_mergeSort`: Where numbers differ, sorting leaves no ties.
* `history_later`: It goes down strictly where numbers differ.
* `find?_eq_some_of_pairwise`: What is found first comes before all else that fits.
* `Store.query_of_entries`: A log answers by its entries.
-/

namespace Promotion

namespace Audit

/-- One entry is later than another, by time and then by number. -/
def Entry.Later (a b : Entry) : Prop :=
  b.record.timestamp < a.record.timestamp ∨
    a.record.timestamp = b.record.timestamp ∧ b.sequence < a.sequence

theorem later_of_newerOrSame {a b : Entry} (h : newerOrSame a b = true)
    (hdiffer : a.sequence ≠ b.sequence) : a.Later b := by
  rcases newerOrSame_iff.mp h with hlater | ⟨hsame, hle⟩
  · exact .inl hlater
  · exact .inr ⟨hsame, UInt64.lt_of_le_of_ne hle hdiffer.symm⟩

/-- The entries of a tag, the newest first. -/
def history (es : List Entry) (tag : String) : List Entry :=
  (es.filter fun e => e.record.tag = tag).mergeSort newerOrSame

/-- The answer to the question for a tag. -/
theorem apply_ofTag (es : List Entry) (tag : String) :
    ({ Query.all with tag := some tag } : Query).apply es =
      (history es tag).map Entry.record := by
  have hfilter :
      (fun e : Entry => ({ Query.all with tag := some tag } : Query).accepts e.record) =
        fun e => decide (e.record.tag = tag) := by
    funext e
    simp [Query.accepts, Query.all, Query.admits, eq_comm]
  unfold Query.apply history
  rw [hfilter]
  rfl

/-- The answer has all entries of the tag. -/
theorem history_perm (es : List Entry) (tag : String) :
    (history es tag).Perm (es.filter fun e => e.record.tag = tag) :=
  List.mergeSort_perm _ _

theorem mem_history {es : List Entry} {tag : String} {e : Entry} :
    e ∈ history es tag ↔ e ∈ es ∧ e.record.tag = tag := by
  rw [(history_perm es tag).mem_iff, List.mem_filter, decide_eq_true_eq]

/-- Sorted, entries with different numbers go down strictly. -/
theorem later_mergeSort {es : List Entry} (h : (es.map Entry.sequence).Nodup) :
    (es.mergeSort newerOrSame).Pairwise Entry.Later := by
  have hsorted : (es.mergeSort newerOrSame).Pairwise fun a b => newerOrSame a b = true :=
    List.pairwise_mergeSort newerOrSame_trans newerOrSame_total es
  -- Sorting settles the order up to ties, and different numbers leave no ties.
  have hdiffer : (es.mergeSort newerOrSame).Pairwise fun a b => a.sequence ≠ b.sequence :=
    List.pairwise_map.mp
      (((List.mergeSort_perm es newerOrSame).map Entry.sequence).nodup_iff.mpr h)
  exact (hsorted.and hdiffer).imp fun hpair => later_of_newerOrSame hpair.1 hpair.2

theorem nodup_filter {es : List Entry} (h : (es.map Entry.sequence).Nodup) (p : Entry → Bool) :
    ((es.filter p).map Entry.sequence).Nodup :=
  (List.filter_sublist.map Entry.sequence).nodup h

/-- The answer goes down strictly in a log whose entries have different numbers. -/
theorem history_later {es : List Entry} (h : (es.map Entry.sequence).Nodup) (tag : String) :
    (history es tag).Pairwise Entry.Later :=
  later_mergeSort (nodup_filter h _)

/-- What is found first in a list comes before all else in it that fits. -/
theorem find?_eq_some_of_pairwise {α : Type} {R : α → α → Prop} {p : α → Bool} {l : List α}
    (h : l.Pairwise R) {a : α} (hfound : l.find? p = some a) :
    a ∈ l ∧ p a = true ∧ ∀ b ∈ l, p b = true → b = a ∨ R a b := by
  rcases List.find?_eq_some_iff_append.mp hfound with ⟨hfits, before, behind, rfl, hbefore⟩
  refine ⟨List.mem_append_right _ List.mem_cons_self, hfits, fun b hb hp => ?_⟩
  rcases List.mem_append.mp hb with hb | hb
  · have hnot := hbefore b hb
    rw [hp] at hnot
    cases hnot
  · rcases List.mem_cons.mp hb with rfl | hb
    · exact .inl rfl
    · exact .inr (List.rel_of_pairwise_cons (List.pairwise_append.mp h).2.1 hb)

/-- A log answers by its entries, if they can be had. -/
theorem Store.query_of_entries {store : Store} {es : List Entry} (h : store.entries = .ok es)
    (question : Query) : store.query question = .ok (question.apply es) := by
  cases store with
  | memory m =>
      cases h
      rfl
  | file f place =>
      have hplace : place.entries = .ok es := h
      simp only [Store.query, FileStore.query, hplace]
      rfl

end Audit

end Promotion
