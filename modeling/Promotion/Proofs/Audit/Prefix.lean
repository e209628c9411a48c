import Mathlib.Order.Bounds.Basic
import Promotion.Proofs.Audit.Commitment

/-!
# How Far a Log Is Sound

What looking through a log tells, where it does not find the whole of it valid.

A look goes from the first entry to the first that is wrong, and it carries along
only the hash that the next entry has to name. Whether an entry is right is a
matter of the entry and its place, though: its own hash has to be the one that
its contents call for, and it has to name the hash of the entry that stands
before it. `Fits` is that, said of the list and the place alone. A look stops at
the end of the longest prefix in which everything fits, and names what does not
fit behind it.

## Main definitions

* `Audit.hashBefore`: The hash that the entry at a place has to name.
* `Audit.Fits`: An entry fits the place.
* `Audit.SoundUpTo`: All entries before a place fit theirs.

## Theorems

* `lastHash_take`: The hash that a look carries along is the one before the place.
* `firstFault_eq_some`: Where a look stops, and why.
* `isGreatest_verified`: A look stops at the end of the longest prefix that is sound.
* `verify_longest`: Everything that a look tells.
-/

namespace Promotion

namespace Audit

/-- The hash that the entry at a place has to name: none for the first, and then that of the entry
    before it. -/
def hashBefore (entries : List Entry) : Nat → Option String
  | 0 => none
  | i + 1 => entries[i]?.map Entry.hash

/-- An entry fits a place of a log. -/
def Fits (entries : List Entry) (i : Nat) (e : Entry) : Prop :=
  e.computedHash = e.hash ∧ e.previousHash = hashBefore entries i

/-- There are so many entries, and each of them fits its place. -/
def SoundUpTo (entries : List Entry) (k : Nat) : Prop :=
  k ≤ entries.length ∧ ∀ i e, i < k → entries[i]? = some e → Fits entries i e

/-- The last hash of what is before a place is the hash that stands before it. -/
theorem lastHash_take {es : List Entry} {i : Nat} (h : i ≤ es.length) :
    lastHash none (es.take i) = hashBefore es i := by
  cases i with
  | zero => rfl
  | succ i =>
      rw [lastHash_none, List.take_add_one, List.getElem?_eq_getElem h, Option.toList_some,
        List.getLast?_concat, hashBefore, List.getElem?_eq_getElem h]

/-- The entries before a place fit theirs exactly if they are linked. -/
theorem soundUpTo_iff {es : List Entry} {k : Nat} :
    SoundUpTo es k ↔ k ≤ es.length ∧ Linked none (es.take k) := by
  refine and_congr_right fun hk => ?_
  rw [linked_iff_getElem?]
  -- What is taken of the list has the same entries at the same places, and the same before them.
  have htaken : ∀ i e, i < k →
      (Fits es i e ↔ e.sound = true ∧ e.previousHash = lastHash none ((es.take k).take i)) := by
    intro i e hi
    rw [List.take_take, Nat.min_eq_left (Nat.le_of_lt hi), lastHash_take (by omega),
      Entry.sound_iff, Fits]
  constructor
  · intro h i e he
    rw [List.getElem?_take] at he
    split at he
    · rename_i hi
      exact (htaken i e hi).mp (h i e hi he)
    · cases he
  · intro h i e hi he
    exact (htaken i e hi).mpr (h i e ((List.getElem?_take_of_lt hi).trans he))

/-- Nothing is wrong with an entry that is sound and names the hash before it. -/
theorem Entry.fault?_eq_none {previous : Option String} {e : Entry} :
    e.fault? previous = none ↔ e.sound = true ∧ e.previousHash = previous := by
  unfold fault?
  by_cases hsound : e.sound = true
  · by_cases hprevious : e.previousHash = previous
    · simp [hsound, hprevious]
    · simp [hsound, hprevious]
  · simp [hsound]

/-- What is wrong with an entry is its hash or, if that is right, the hash that it names. -/
theorem Entry.fault?_eq_some {previous : Option String} {e : Entry} {fault : Fault}
    (h : e.fault? previous = some fault) :
    (e.computedHash ≠ e.hash ∧ fault = .wrongHash e.record.id) ∨
      (e.computedHash = e.hash ∧ e.previousHash ≠ previous ∧
        fault = .brokenLink e.record.id previous e.previousHash) := by
  unfold fault? at h
  by_cases hhash : e.computedHash = e.hash
  · rw [Entry.sound_iff.mpr hhash] at h
    by_cases hprevious : e.previousHash = previous
    · simp [hprevious] at h
    · simp only [Bool.not_true, Bool.false_eq_true, if_false, ne_eq, hprevious, not_false_eq_true,
        if_true, Option.some.injEq] at h
      exact .inr ⟨hhash, hprevious, h.symm⟩
  · rw [Bool.eq_false_iff.mpr (mt Entry.sound_iff.mp hhash)] at h
    cases h
    exact .inl ⟨hhash, rfl⟩

/-- A look stops behind the entries that are linked, at the first with which something is wrong. -/
theorem firstFault_eq_some {previous : Option String} {index i : Nat} {es : List Entry}
    {fault : Fault} (h : firstFault previous index es = some (i, fault)) :
    ∃ before e after, es = before ++ e :: after ∧ Linked previous before ∧
      i = index + before.length ∧ e.fault? (lastHash previous before) = some fault := by
  induction es generalizing previous index with
  | nil => cases h
  | cons e rest ih =>
      rw [firstFault] at h
      cases hfault : e.fault? previous with
      | some found =>
          rw [hfault] at h
          cases h
          exact ⟨[], e, rest, rfl, trivial, rfl, hfault⟩
      | none =>
          rw [hfault] at h
          rcases ih h with ⟨before, e', after, rfl, hlinked, rfl, hstop⟩
          rcases Entry.fault?_eq_none.mp hfault with ⟨hsound, hprevious⟩
          refine ⟨e :: before, e', after, rfl, ⟨hsound, hprevious, hlinked⟩, ?_, ?_⟩
          · rw [List.length_cons]
            omega
          · rw [lastHash_cons]
            exact hstop

/-- Behind a linked list there is nothing to find, or there is the first entry that does not fit. -/
theorem verify_cases (es : List Entry) :
    (verify es = ⟨es.length, none⟩ ∧ Linked none es) ∨
    ∃ e fault, es[(verify es).verified]? = some e ∧ (verify es).verified < es.length ∧
      SoundUpTo es (verify es).verified ∧
      e.fault? (hashBefore es (verify es).verified) = some fault ∧
      verify es = ⟨es.length, some ((verify es).verified, fault)⟩ := by
  cases hfault : firstFault none 0 es with
  | none =>
      have hverify : verify es = ⟨es.length, none⟩ := congrArg (Verdict.mk es.length) hfault
      exact .inl ⟨hverify, firstFault_eq_none_iff.mp hfault⟩
  | some found =>
      rcases found with ⟨i, fault⟩
      have hverify : verify es = ⟨es.length, some (i, fault)⟩ :=
        congrArg (Verdict.mk es.length) hfault
      have hi : (verify es).verified = i := by rw [hverify]; rfl
      rcases firstFault_eq_some hfault with ⟨before, e, after, hes, hlinked, hplace, hstop⟩
      rw [Nat.zero_add] at hplace
      have htake : es.take i = before := by rw [hes, hplace, List.take_left]
      have hlt : i < es.length := by
        rw [hes, hplace, List.length_append, List.length_cons]
        omega
      rw [hi]
      refine .inr ⟨e, fault, ?_, hlt, ?_, ?_, hverify⟩
      · rw [hes, hplace]
        simp
      · rw [soundUpTo_iff, htake]
        exact ⟨Nat.le_of_lt hlt, hlinked⟩
      · rw [← lastHash_take (Nat.le_of_lt hlt), htake]
        exact hstop

/-- A look stops at the end of the longest prefix in which every entry fits its place. -/
theorem isGreatest_verified (es : List Entry) :
    IsGreatest {k | SoundUpTo es k} (verify es).verified := by
  rcases verify_cases es with ⟨hverify, hlinked⟩ | ⟨e, fault, he, hlt, hsound, hfault, -⟩
  · have hall : (verify es).verified = es.length := congrArg Verdict.verified hverify
    rw [hall]
    refine ⟨soundUpTo_iff.mpr ⟨Nat.le_refl _, ?_⟩, fun k hk => hk.1⟩
    rwa [List.take_length]
  · refine ⟨hsound, fun k hk => Nat.le_of_not_lt fun hbeyond => ?_⟩
    -- A longer prefix would hold the entry that the look stopped at.
    rcases hk.2 _ e hbeyond he with ⟨hhash, hprevious⟩
    rw [Entry.fault?_eq_none.mpr ⟨Entry.sound_iff.mpr hhash, hprevious⟩] at hfault
    cases hfault

/-- Everything that a look through a log tells. It stops at the end of the longest prefix in which
    every entry fits its place. It finds the log valid exactly if that is all of it, and otherwise it
    tells the place behind the prefix, and whether the entry there has a wrong hash or, if not, which
    hash it should name and which it does. So a part of a valid log from its start is valid, and a
    log is valid that goes on behind a valid one with entries linked to its last hash. -/
theorem verify_longest (es : List Entry) :
    let v := verify es
    IsGreatest {k | SoundUpTo es k} v.verified ∧ v.total = es.length ∧
    (v.valid = true ↔ v.verified = es.length) ∧
    v.firstInvalid = (if v.verified < es.length then some v.verified else none) ∧
    (v.message? = none ↔ v.verified = es.length) ∧
    (∀ e, es[v.verified]? = some e →
      (e.computedHash ≠ e.hash →
        v.message? = some ("Entry " ++ e.record.id.label ++ " has invalid hash")) ∧
      (e.computedHash = e.hash → e.previousHash ≠ hashBefore es v.verified ∧
        v.message? = some ("Entry " ++ e.record.id.label ++
          " has broken chain link (expected prev: " ++ Fault.showHash (hashBefore es v.verified) ++
          ", got: " ++ Fault.showHash e.previousHash ++ ")"))) ∧
    (v.valid = true → ∀ n, (verify (es.take n)).valid = true) ∧
    ∀ es', (verify (es ++ es')).valid = true ↔
      v.valid = true ∧ Linked (es.getLast?.map Entry.hash) es' := by
  intro v
  have hprefix : v.valid = true → ∀ n, (verify (es.take n)).valid = true := by
    intro hvalid n
    have hlinked := verify_valid_iff.mp hvalid
    rw [← List.take_append_drop n es, linked_append] at hlinked
    exact verify_valid_iff.mpr hlinked.1
  have hextend : ∀ es', (verify (es ++ es')).valid = true ↔
      v.valid = true ∧ Linked (es.getLast?.map Entry.hash) es' := by
    intro es'
    rw [verify_valid_iff, verify_valid_iff, linked_append, lastHash_none]
  refine ⟨isGreatest_verified es, rfl, ?_⟩
  rcases verify_cases es with ⟨hverify, -⟩ | ⟨e, fault, he, hlt, -, hfault, hverify⟩
  · -- All of it is valid, and there is no entry behind it.
    have hall : v.verified = es.length := congrArg Verdict.verified hverify
    have hmessage : v.message? = none := congrArg Verdict.message? hverify
    refine ⟨?_, ?_, ?_, ?_, hprefix, hextend⟩
    · exact iff_of_true (congrArg Verdict.valid hverify) hall
    · rw [hall, if_neg (Nat.lt_irrefl _)]
      exact congrArg Verdict.firstInvalid hverify
    · exact iff_of_true hmessage hall
    · intro e he
      rw [hall, List.getElem?_eq_none (Nat.le_refl _)] at he
      cases he
  · have hsome : v.message? = some fault.message := congrArg Verdict.message? hverify
    have hpart : ¬ v.verified = es.length := Nat.ne_of_lt hlt
    refine ⟨?_, ?_, ?_, ?_, hprefix, hextend⟩
    · refine iff_of_false ?_ hpart
      rw [show v.valid = false from congrArg Verdict.valid hverify]
      exact Bool.false_ne_true
    · rw [if_pos hlt]
      exact congrArg Verdict.firstInvalid hverify
    · rw [hsome]
      exact iff_of_false nofun hpart
    · intro e' he'
      cases he.symm.trans he'
      rw [hsome]
      rcases Entry.fault?_eq_some hfault with ⟨hwrong, rfl⟩ | ⟨hright, hprevious, rfl⟩
      · exact ⟨fun _ => rfl, fun hhash => absurd hhash hwrong⟩
      · exact ⟨fun hhash => absurd hright hhash, fun _ => ⟨hprevious, rfl⟩⟩

end Audit

end Promotion
