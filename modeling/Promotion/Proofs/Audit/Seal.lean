import Promotion.Proofs.Audit.Commitment

/-!
# What a Seal Commits to

The hash of an entry fixes what the entry says.

Nothing divides the four things that the hash is taken over, but each of them
can be told from what follows it, so only one entry can be behind the text. The
hash before is the exception, and the only one: it stands last, and where there
is none nothing stands, as if it were the empty text. An entry that names an
empty hash and one that names none are sealed alike. No hash is empty, so no
store writes the first kind, and in a chain it does not name what is before it.

## Main definitions

* `Audit.Entry.Unlinked`: An entry names no hash before it, or an empty one.
* `Audit.Entry.SameContents`: Two entries say the same, but for that.
* `Audit.Entry.behindEmpty`: An entry that names an empty hash.

## Theorems

* `Entry.SameContents.hashText_eq`: Entries that say the same are hashed alike.
* `Entry.computedHash_eq_iff`: Entries with one seal say the same.
* `Entry.computedHash_behindEmpty`: Naming no hash and an empty one makes no difference.
-/

namespace Promotion

namespace Audit

namespace Entry

/-- The entry names no hash before it, or an empty one. -/
def Unlinked (e : Entry) : Prop :=
  e.previousHash = none ∨ e.previousHash = some ""

/-- Two entries say the same, and name the same hash before them or neither names any. -/
structure SameContents (e e' : Entry) : Prop where
  sequence : e.sequence = e'.sequence
  recordedAt : e.recordedAt = e'.recordedAt
  record : e.record = e'.record
  previousHash : e.previousHash = e'.previousHash ∨ e.Unlinked ∧ e'.Unlinked

/-- Entries that say the same are hashed alike. -/
theorem SameContents.hashText_eq {e e' : Entry} (h : e.SameContents e') :
    e.hashText = e'.hashText := by
  have hprevious : e.previousHash.getD "" = e'.previousHash.getD "" :=
    getD_empty_iff.mpr h.previousHash
  unfold hashText hashInput
  rw [h.sequence, h.recordedAt, h.record, hprevious]

/-- A seal commits to all that an entry says. Unless the hash function gives two texts one hash,
    entries have one seal exactly if they say the same, and naming no hash before is the same as
    naming an empty one. So an entry that is edited and keeps the hash it was sealed with is only
    sound if it still says the same. -/
theorem computedHash_eq_iff {e e' : Entry}
    (hcollision : Sha256.hash e.hashBytes = Sha256.hash e'.hashBytes →
      e.hashBytes = e'.hashBytes) :
    (e.computedHash = e'.computedHash ↔ e.SameContents e') ∧
      (e.sound = true → e'.hash = e.hash → (e'.sound = true ↔ e.SameContents e')) := by
  have hsame : e.computedHash = e'.computedHash ↔ e.SameContents e' := by
    constructor
    · intro h
      rcases hashBytes_inj (hcollision (Sha256.hash_eq_of_hexOfText h)) with
        ⟨hsequence, hrecordedAt, hrecord, hprevious⟩
      exact ⟨hsequence, hrecordedAt, hrecord, getD_empty_iff.mp hprevious⟩
    · intro h
      exact congrArg Sha256.hexOfText h.hashText_eq
  refine ⟨hsame, fun hsound hhash => ?_⟩
  rw [sound_iff, hhash, ← sound_iff.mp hsound, eq_comm]
  exact hsame

/-- The entry, put behind an empty hash. -/
def behindEmpty (e : Entry) : Entry :=
  { e with previousHash := some "" }

/-- A first entry that is put behind an empty hash says the same, and so it is sound. -/
theorem computedHash_eq_iff_behindEmpty :
    let e := Chain.empty.nextEntry default .epoch
    (Sha256.hash e.hashBytes = Sha256.hash e.behindEmpty.hashBytes →
      e.hashBytes = e.behindEmpty.hashBytes) ∧
    e.sound = true ∧ e.behindEmpty.hash = e.hash ∧ e.SameContents e.behindEmpty ∧
    e.behindEmpty.sound = true := by
  intro e
  have hsound : e.sound = true := sound_ofRecord ..
  have hsame : e.SameContents e.behindEmpty := ⟨rfl, rfl, rfl, .inr ⟨.inl rfl, .inr rfl⟩⟩
  have hcollision : Sha256.hash e.hashBytes = Sha256.hash e.behindEmpty.hashBytes →
      e.hashBytes = e.behindEmpty.hashBytes := fun _ => rfl
  exact ⟨hcollision, hsound, rfl, hsame, ((computedHash_eq_iff hcollision).2 hsound rfl).mpr hsame⟩

/-- The one edit that no seal shows. The two entries name different hashes before them, but both are
    sound under one hash, and there is only one text, so no collision is to blame. -/
theorem computedHash_behindEmpty :
    let e := Chain.empty.nextEntry default .epoch
    e.behindEmpty.previousHash ≠ e.previousHash ∧ e.behindEmpty.hashBytes = e.hashBytes ∧
      e.behindEmpty.computedHash = e.computedHash ∧ e.sound = true ∧
      e.behindEmpty.hash = e.hash ∧ e.behindEmpty.sound = true := by
  intro e
  have hsound : e.sound = true := sound_ofRecord ..
  exact ⟨nofun, rfl, rfl, hsound, rfl, hsound⟩

end Entry

end Audit

end Promotion
