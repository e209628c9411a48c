import Mathlib.Data.List.Induction
import Promotion.Proofs.Audit.Chain
import Promotion.Proofs.Audit.Entry
import Promotion.Proofs.Json.Extension
import Promotion.Proofs.Sha256
import Promotion.Proofs.Text.Utf8

/-!
# The Last Hash

The hash of a log's last entry fixes the whole log.

An entry's hash is taken over four things that stand behind one another with
nothing between them. `hashInput_inj` says that they can be told apart all the
same: the number ends four digits before the first mark of the timestamp, or at
its sign; the timestamp has its own end, and so has the record, which is an
object; and the hash of the entry before is whatever is left. Only no hash and
an empty one look alike there, and a log that was looked through has no empty
ones.

So as long as the hash function does not give two of the texts one hash, the
last hash gives the last entry, and with it the hash before it. The induction
goes backwards along both logs at once and does not know their lengths: one of
them ends where there is no hash before, and there the other ends too.

## Main definitions

* `Audit.Entry.hashBytes`: The bytes that an entry's hash is taken over.
* `Audit.NoCollision`: No two of some entries have one hash for different bytes.

## Theorems

* `hashInput_inj`: The parts of a hashed text can be told apart.
* `linked_eq_of_lastHash`: Linked lists with one last hash are one list.
* `verify_valid_iff_eq`: Only one log with a given last hash is found valid.
-/

namespace Promotion

namespace Audit

open Text

/-- The parts of a hashed text can be told apart, but for no hash and an empty one. -/
theorem hashInput_inj {sequence sequence' : UInt64} {recordedAt recordedAt' : Timestamp}
    {record record' : Record} {previousHash previousHash' : Option String}
    (h : hashInput sequence recordedAt record previousHash =
      hashInput sequence' recordedAt' record' previousHash') :
    sequence = sequence' ∧ recordedAt = recordedAt' ∧ record = record' ∧
      previousHash.getD "" = previousHash'.getD "" := by
  have hobject : ∀ r n, Record.format.encode r ≠ .number n := fun _ _ => nofun
  rcases Timestamp.numeral_chars_inj .offset h with ⟨hsequence, hrecordedAt, hrest⟩
  rcases Json.print_append_inj (hobject _) (hobject _) hrest with ⟨hrecord, hprevious⟩
  exact ⟨UInt64.toNat_inj.mp hsequence, hrecordedAt, Record.format_lawful.encode_inj hrecord,
    String.toList_inj.mp hprevious⟩

/-- The text that an entry's hash is taken over. -/
def Entry.hashText (e : Entry) : String :=
  String.ofList (hashInput e.sequence e.recordedAt e.record e.previousHash)

/-- The bytes that an entry's hash is taken over. -/
def Entry.hashBytes (e : Entry) : List UInt8 :=
  e.hashText.toUTF8.toList

/-- No two of some entries have one hash for different bytes. -/
def NoCollision (entries : List Entry) : Prop :=
  ∀ e ∈ entries, ∀ e' ∈ entries,
    Sha256.hash e.hashBytes = Sha256.hash e'.hashBytes → e.hashBytes = e'.hashBytes

/-- Entries over the same bytes say the same, but for no hash before and an empty one. -/
theorem Entry.hashBytes_inj {e e' : Entry} (h : e.hashBytes = e'.hashBytes) :
    e.sequence = e'.sequence ∧ e.recordedAt = e'.recordedAt ∧ e.record = e'.record ∧
      e.previousHash.getD "" = e'.previousHash.getD "" := by
  unfold hashBytes hashText at h
  rw [toList_toUTF8, toList_toUTF8] at h
  exact hashInput_inj (bytesOf_inj h)

theorem Entry.sound_iff {e : Entry} : e.sound = true ↔ e.computedHash = e.hash :=
  decide_eq_true_iff

/-- Two sound entries of one hash say the same, but for no hash before and an empty one. -/
theorem Entry.eq_of_hash {e e' : Entry} (hsound : e.sound = true) (hsound' : e'.sound = true)
    (hcollision : Sha256.hash e.hashBytes = Sha256.hash e'.hashBytes → e.hashBytes = e'.hashBytes)
    (hhash : e.hash = e'.hash) :
    e.sequence = e'.sequence ∧ e.recordedAt = e'.recordedAt ∧ e.record = e'.record ∧
      e.previousHash.getD "" = e'.previousHash.getD "" := by
  rw [← sound_iff.mp hsound, ← sound_iff.mp hsound'] at hhash
  exact hashBytes_inj (hcollision (Sha256.hash_eq_of_hexOfText hhash))

theorem Entry.hash_ne_empty {e : Entry} (hsound : e.sound = true) : e.hash ≠ "" := by
  rw [← sound_iff.mp hsound]
  exact Sha256.hexOfText_ne_empty _

/-- The hash before the next entry of a linked list is none or no empty one. -/
theorem lastHash_ne_empty {es : List Entry} (h : Linked none es) : lastHash none es ≠ some "" := by
  rcases List.eq_nil_or_concat es with rfl | ⟨before, e, rfl⟩
  · exact nofun
  · rw [List.concat_eq_append, linked_append] at h
    rw [List.concat_eq_append, lastHash_none, List.getLast?_concat]
    exact fun hempty => Entry.hash_ne_empty h.2.1 (Option.some.inj hempty)

/-- What stands for the hash before is the same exactly if the hash is, or if neither names any: no
    hash and an empty one look alike. -/
theorem getD_empty_iff {p p' : Option String} :
    p.getD "" = p'.getD "" ↔
      p = p' ∨ (p = none ∨ p = some "") ∧ (p' = none ∨ p' = some "") := by
  cases p with
  | none =>
      cases p' with
      | none => simp
      | some s' => simp [eq_comm]
  | some s =>
      cases p' with
      | none => simp
      | some s' =>
          simp only [Option.getD_some, Option.some.injEq, reduceCtorEq, false_or]
          refine ⟨.inl, ?_⟩
          rintro (h | ⟨rfl, rfl⟩)
          · exact h
          · rfl

/-- Where neither is empty, no hash and some hash do not look alike. -/
theorem eq_of_getD_empty {p p' : Option String} (hp : p ≠ some "") (hp' : p' ≠ some "")
    (h : p.getD "" = p'.getD "") : p = p' := by
  rcases getD_empty_iff.mp h with h | ⟨rfl | rfl, rfl | rfl⟩
  · exact h
  · rfl
  · exact absurd rfl hp'
  · exact absurd rfl hp
  · exact absurd rfl hp

/-- Linked lists with one last hash are one list, unless two of their entries have one hash for
    different bytes. -/
theorem linked_eq_of_lastHash {A B : List Entry} (hcollision : NoCollision (A ++ B))
    (hA : Linked none A) (hB : Linked none B) (hlast : lastHash none A = lastHash none B) :
    A = B := by
  induction A using List.reverseRecOn generalizing B with
  | nil =>
      rw [lastHash_nil, lastHash_none, eq_comm, Option.map_eq_none_iff,
        List.getLast?_eq_none_iff] at hlast
      exact hlast.symm
  | append_singleton A a ih =>
      rcases List.eq_nil_or_concat B with rfl | ⟨B, b, rfl⟩
      · rw [lastHash_none, List.getLast?_concat] at hlast
        cases hlast
      rw [List.concat_eq_append] at hcollision hB hlast ⊢
      have hmember : ∀ e, e ∈ A ++ B → e ∈ A ++ [a] ++ (B ++ [b]) := by
        intro e he
        simp only [List.mem_append] at he ⊢
        rcases he with he | he
        · exact .inl (.inl he)
        · exact .inr (.inl he)
      rw [lastHash_none, lastHash_none, List.getLast?_concat, List.getLast?_concat] at hlast
      rcases linked_append.mp hA with ⟨hA, hsound, hprevious, -⟩
      rcases linked_append.mp hB with ⟨hB, hsound', hprevious', -⟩
      have hhash : a.hash = b.hash := Option.some.inj hlast
      rcases Entry.eq_of_hash hsound hsound' (hcollision a (by simp) b (by simp)) hhash with
        ⟨hsequence, hrecordedAt, hrecord, hempty⟩
      -- Neither of the hashes before is empty, so they are both there or both not.
      have hbefore : a.previousHash = b.previousHash := by
        have hne := lastHash_ne_empty hA
        have hne' := lastHash_ne_empty hB
        rw [← hprevious] at hne
        rw [← hprevious'] at hne'
        exact eq_of_getD_empty hne hne' hempty
      have hlist : A = B := ih (fun e he e' he' => hcollision e (hmember e he) e' (hmember e' he'))
        hA hB (hprevious.symm.trans (hbefore.trans hprevious'))
      have hentry : a = b := by
        cases a
        cases b
        simp only at hsequence hrecordedAt hrecord hbefore hhash
        rw [hsequence, hrecordedAt, hrecord, hbefore, hhash]
      rw [hlist, hentry]

theorem verify_valid_iff {es : List Entry} : (verify es).valid = true ↔ Linked none es := by
  rw [← verify_message?_eq_none]
  unfold Verdict.valid Verdict.message?
  rw [Option.map_eq_none_iff, Option.isNone_iff_eq_none]

/-- The last hash commits to the whole log. Of all lists of entries with the last hash of a log
    that is found valid, only that log itself is: whatever is edited in any field of any entry,
    left out, put in or reordered, it is found as long as the last hash is kept. -/
theorem verify_valid_iff_eq {A B : List Entry} (hcollision : NoCollision (A ++ B))
    (hA : (verify A).valid = true)
    (hlast : A.getLast?.map Entry.hash = B.getLast?.map Entry.hash) :
    (verify B).valid = true ↔ B = A := by
  constructor
  · intro hB
    rw [← lastHash_none, ← lastHash_none] at hlast
    exact (linked_eq_of_lastHash hcollision (verify_valid_iff.mp hA) (verify_valid_iff.mp hB)
      hlast).symm
  · rintro rfl
    exact hA

/-- An edit that no hash shows: where there was no hash before, an empty one is put in. Both entries
    are sound and have the same hash, and still the edited log is not found valid. -/
theorem verify_valid_iff_eq_empty :
    let e := Chain.empty.nextEntry default .epoch
    let edited := { e with previousHash := some "" }
    NoCollision ([e] ++ [edited]) ∧ edited.sound = true ∧ edited.hash = e.hash ∧
      (verify [e]).valid = true ∧ (verify [edited]).valid = false := by
  intro e edited
  have hsame : ∀ x ∈ [e] ++ [edited], x.hashBytes = e.hashBytes := by
    intro x hx
    rcases List.mem_cons.mp hx with rfl | hx
    · rfl
    · rw [List.eq_of_mem_singleton hx]
      rfl
  have hcollision : NoCollision ([e] ++ [edited]) := fun x hx x' hx' _ =>
    (hsame x hx).trans (hsame x' hx').symm
  have hsound : e.sound = true := Entry.sound_ofRecord ..
  have hvalid : (verify [e]).valid = true := verify_valid_iff.mpr ⟨hsound, rfl, trivial⟩
  refine ⟨hcollision, hsound, rfl, hvalid, ?_⟩
  rw [Bool.eq_false_iff, ne_eq, verify_valid_iff_eq hcollision hvalid rfl]
  intro h
  cases congrArg Entry.previousHash (List.cons.inj h).1

end Audit

end Promotion
