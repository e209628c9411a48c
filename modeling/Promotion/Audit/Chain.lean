import Promotion.Audit.Entry
import Promotion.Text.Printable

/-!
# The Hash Chain

Each entry of a log names the hash of the one before, so a log is a chain: the
last hash fixes everything before it.

`Chain` is what a store has to remember to seal the next entry. `verify` looks
through a whole log for the first entry that does not fit, either because its
own hash is wrong or because it does not name its predecessor's. `Linked` says
the same thing of a list without an order of search: every entry is sound and
names the hash before it.

## Main definitions

* `Audit.Chain`: What the next entry is sealed with.
* `Audit.Linked`: Every entry is sound and names the hash before it.
* `Audit.Fault`: What is wrong with an entry in its place.
* `Audit.firstFault`: The first entry that is wrong, with its place.
* `Audit.Verdict`, `Audit.verify`: What looking through a log finds.
-/

namespace Promotion

namespace Audit

/-- What the next entry of a log is sealed with. -/
structure Chain where
  lastHash : Option String
  count : UInt64
  deriving DecidableEq, Repr, Inhabited

namespace Chain

/-- The chain of an empty log. -/
def empty : Chain := ⟨none, 0⟩

/-- The chain after one more entry. -/
def push (c : Chain) (e : Entry) : Chain :=
  ⟨some e.hash, c.count + 1⟩

/-- The entry that a record becomes at the end of the chain. -/
def nextEntry (c : Chain) (record : Record) (now : Timestamp) : Entry :=
  .ofRecord record c.count c.lastHash now

/-- The chain of a log. -/
def ofEntries (entries : List Entry) : Chain :=
  ⟨entries.getLast?.map Entry.hash, UInt64.ofNat entries.length⟩

end Chain

/-- Every entry is sound and names the hash before it; `previous` is the hash before the first. -/
def Linked (previous : Option String) : List Entry → Prop
  | [] => True
  | e :: rest => e.sound = true ∧ e.previousHash = previous ∧ Linked (some e.hash) rest

/-- What is wrong with an entry in its place. -/
inductive Fault where
  /-- The hash is not the one that the contents call for. -/
  | wrongHash (id : PromotionId)
  /-- The entry does not name the hash before it. -/
  | brokenLink (id : PromotionId) (expected found : Option String)
  deriving DecidableEq, Repr

namespace Fault

/-- A hash as a message shows it. -/
def showHash : Option String → String
  | some h => "Some(" ++ Text.shown h ++ ")"
  | none => "None"

/-- The message of a fault. -/
def message : Fault → String
  | wrongHash id => "Entry " ++ id.label ++ " has invalid hash"
  | brokenLink id expected found =>
    "Entry " ++ id.label ++ " has broken chain link (expected prev: " ++ showHash expected ++
      ", got: " ++ showHash found ++ ")"

end Fault

/-- What is wrong with an entry, if the hash before it is `previous`. -/
def Entry.fault? (previous : Option String) (e : Entry) : Option Fault :=
  if !e.sound then some (.wrongHash e.record.id)
  else if e.previousHash ≠ previous then
    some (.brokenLink e.record.id previous e.previousHash)
  else none

/-- The first entry that is wrong, with its place counted from `index`. -/
def firstFault (previous : Option String) (index : Nat) : List Entry → Option (Nat × Fault)
  | [] => none
  | e :: rest =>
    match e.fault? previous with
    | some fault => some (index, fault)
    | none => firstFault (some e.hash) (index + 1) rest

/-- What looking through a log finds. -/
structure Verdict where
  /-- The entries of the log. -/
  total : Nat
  /-- The first entry that is wrong. -/
  fault : Option (Nat × Fault)
  deriving DecidableEq, Repr

namespace Verdict

/-- Nothing is wrong. -/
def valid (v : Verdict) : Bool := v.fault.isNone

/-- The entries before the first that is wrong. -/
def verified (v : Verdict) : Nat := (v.fault.map Prod.fst).getD v.total

/-- The place of the first entry that is wrong. -/
def firstInvalid (v : Verdict) : Option Nat := v.fault.map Prod.fst

/-- What is wrong. -/
def message? (v : Verdict) : Option String := v.fault.map fun f => f.2.message

end Verdict

/-- Looks through a log from its first entry. -/
def verify (entries : List Entry) : Verdict :=
  ⟨entries.length, firstFault none 0 entries⟩

/-- Looking finds nothing exactly in a linked list. -/
theorem firstFault_eq_none_iff {previous : Option String} {index : Nat} {entries : List Entry} :
    firstFault previous index entries = none ↔ Linked previous entries := by
  induction entries generalizing previous index with
  | nil => simp [firstFault, Linked]
  | cons e rest ih =>
    rw [firstFault, Linked, Entry.fault?]
    by_cases hs : e.sound = true
    · by_cases hp : e.previousHash = previous
      · simp [hs, hp, ih]
      · simp [hs, hp]
    · simp [hs]

end Audit

end Promotion
