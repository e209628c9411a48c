import Promotion.Audit.MemoryStore
import Promotion.Proofs.Audit.Commitment

/-!
# A Log in Memory as It Grows

A log in memory is its entries and the chain that the next entry is sealed with.

The two are changed side by side, and nothing in their types ties the one to the
other. `Grown` says what does: the chain is that of the entries, the entries are
linked, and each has its place for a number. An empty log is so, and a record
that is appended or refused leaves it so, whatever the record is and whatever
the clock shows. Then it is so after any number of them.

## Main definitions

* `MemoryStore.appendAll`: The log after some records were appended.
* `MemoryStore.Grown`: Entries and chain are in step.

## Theorems

* `MemoryStore.Grown.append`: One record keeps entries and chain in step.
* `MemoryStore.grown_appendAll`: So do any records onto an empty log.
* `MemoryStore.appendAll_chained`: A log in memory is a chain, and only grows.
-/

namespace Promotion

namespace Audit

@[simp] theorem Chain.nextEntry_record (c : Chain) (record : Record) (now : Timestamp) :
    (c.nextEntry record now).record = record := rfl

@[simp] theorem Chain.nextEntry_sequence (c : Chain) (record : Record) (now : Timestamp) :
    (c.nextEntry record now).sequence = c.count := rfl

namespace MemoryStore

/-- The log after some records were appended one after another, each at its time. -/
def appendAll (s : MemoryStore) (work : List (Record × Timestamp)) : MemoryStore :=
  work.foldl (fun s w => (s.append w.1 w.2).2) s

/-- Entries and chain are in step, and every entry fits its place. -/
structure Grown (s : MemoryStore) : Prop where
  chain_eq : s.chain = .ofEntries s.entries
  linked : Linked none s.entries
  numbered : ∀ i e, s.entries[i]? = some e → e.sequence = UInt64.ofNat i

theorem grown_empty : empty.Grown where
  chain_eq := rfl
  linked := trivial
  numbered _ _ := nofun

/-- A dry run is refused and changes nothing. -/
theorem append_of_dryRun (s : MemoryStore) {record : Record} (h : record.dryRun = true)
    (now : Timestamp) : s.append record now = (.error (.dryRunRecord record.id), s) :=
  if_pos h

/-- Any other record is sealed onto the end. -/
theorem append_of_real (s : MemoryStore) {record : Record} (h : record.dryRun = false)
    (now : Timestamp) :
    s.append record now = (.ok (s.chain.nextEntry record now),
      ⟨s.entries ++ [s.chain.nextEntry record now],
        s.chain.push (s.chain.nextEntry record now)⟩) :=
  if_neg (Bool.eq_false_iff.mp h)

/-- One record more keeps entries and chain in step. -/
theorem Grown.append {s : MemoryStore} (h : s.Grown) (record : Record) (now : Timestamp) :
    (s.append record now).2.Grown := by
  cases hdry : record.dryRun with
  | true =>
      rw [append_of_dryRun s hdry]
      exact h
  | false =>
      rw [append_of_real s hdry]
      rcases h with ⟨hchain, hlinked, hnumbered⟩
      refine ⟨?_, ?_, ?_⟩
      · rw [hchain, Chain.ofEntries_append]
        rfl
      · rw [hchain]
        exact Chain.linked_append_sealAll hlinked [(record, now)]
      · rw [hchain]
        exact numbered_append.mpr ⟨hnumbered, Chain.numberedFrom_sealAll rfl [(record, now)]⟩

/-- Any records keep entries and chain in step. -/
theorem Grown.appendAll {s : MemoryStore} (h : s.Grown) (work : List (Record × Timestamp)) :
    (s.appendAll work).Grown := by
  induction work generalizing s with
  | nil => exact h
  | cons w rest ih => exact ih (h.append w.1 w.2)

theorem grown_appendAll (work : List (Record × Timestamp)) : (empty.appendAll work).Grown :=
  grown_empty.appendAll work

/-- An entry is sound, and its number and the hash before it are those of its place. -/
theorem Grown.getElem? {s : MemoryStore} (h : s.Grown) {i : Nat} {e : Entry}
    (he : s.entries[i]? = some e) :
    e.sequence = UInt64.ofNat i ∧ e.computedHash = e.hash ∧ (i = 0 → e.previousHash = none) ∧
      ∀ j before, i = j + 1 → s.entries[j]? = some before →
        e.previousHash = some before.hash := by
  rcases linked_iff_getElem?.mp h.linked i e he with ⟨hsound, hprevious⟩
  refine ⟨h.numbered i e he, Entry.sound_iff.mp hsound, ?_, ?_⟩
  · rintro rfl
    exact hprevious
  · rintro j before rfl hbefore
    rw [hprevious, lastHash_none, List.take_add_one, hbefore, Option.toList_some,
      List.getLast?_concat, Option.map_some]

theorem Grown.verify {s : MemoryStore} (h : s.Grown) : Audit.verify s.entries =
    ⟨s.entries.length, none⟩ := by
  unfold Audit.verify
  rw [firstFault_eq_none_iff.mpr h.linked]

/-- A log in memory is a chain, and only grows. Whatever records were appended to an empty log, at
    whatever times, the next is refused if it is a dry run, and changes nothing, and else it is the
    one entry that comes behind all others. Each entry is sound, numbered by its place, and names
    the hash of the entry before it; looking through the log finds it valid to the last entry; and
    the chain that is remembered is the last hash and the number of the entries. -/
theorem appendAll_chained (work : List (Record × Timestamp)) :
    let s := empty.appendAll work
    (∀ record now, record.dryRun = true →
      s.append record now = (.error (.dryRunRecord record.id), s)) ∧
    (∀ record now, record.dryRun = false → ∃ e s', s.append record now = (.ok e, s') ∧
      s'.entries = s.entries ++ [e] ∧ e.record = record ∧ e.recordedAt = now) ∧
    (∀ i e, s.entries[i]? = some e → e.sequence = UInt64.ofNat i ∧ e.computedHash = e.hash ∧
      (i = 0 → e.previousHash = none) ∧
      ∀ j before, i = j + 1 → s.entries[j]? = some before →
        e.previousHash = some before.hash) ∧
    (verify s.entries).valid = true ∧ (verify s.entries).verified = s.entries.length ∧
    s.chain = ⟨s.entries.getLast?.map Entry.hash, UInt64.ofNat s.entries.length⟩ := by
  intro s
  have hgrown : s.Grown := grown_appendAll work
  refine ⟨fun record now hdry => append_of_dryRun s hdry now, ?_, ?_, ?_, ?_, hgrown.chain_eq⟩
  · intro record now hreal
    exact ⟨_, _, append_of_real s hreal now, rfl, rfl, rfl⟩
  · intro i e he
    exact hgrown.getElem? he
  · rw [hgrown.verify]
    rfl
  · rw [hgrown.verify]
    rfl

end MemoryStore

end Audit

end Promotion
