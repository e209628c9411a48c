import Promotion.Json.Printer
import Promotion.Json.Reader
import Promotion.Record
import Promotion.Sha256

/-!
# Audit Entries

A record sealed into the audit log.

The seal is a hash over the entry's place in the log, the time it was taken in,
the record's compact JSON and the hash of the entry before. The four stand
behind one another without separators. The order and the shapes keep them
apart: a timestamp starts with its year, the JSON with its brace, and the last
hash is whatever follows the JSON.

## Main definitions

* `Audit.Entry`: A record sealed into the log.
* `Audit.hashInput`: The text a seal is taken over.
* `Audit.Entry.ofRecord`: The entry that a record becomes.
* `Audit.Entry.sound`: The entry's hash is the one its contents call for.
-/

namespace Promotion

namespace Audit

/-- A record sealed into the audit log. -/
structure Entry where
  /-- The place in the log, from zero. -/
  sequence : UInt64
  recordedAt : Timestamp
  record : Record
  /-- The hash of the entry before. -/
  previousHash : Option String
  hash : String
  deriving DecidableEq, Inhabited

/-- The text a seal is taken over. -/
def hashInput (sequence : UInt64) (recordedAt : Timestamp) (record : Record)
    (previousHash : Option String) : List Char :=
  Decimal.numeral sequence.toNat ++ (recordedAt.chars .offset ++
    ((Record.format.encode record).print ++ (previousHash.getD "").toList))

/-- The hash that an entry's contents call for. -/
def sealHash (sequence : UInt64) (recordedAt : Timestamp) (record : Record)
    (previousHash : Option String) : String :=
  Sha256.hexOfText (String.ofList (hashInput sequence recordedAt record previousHash))

namespace Entry

/-- The entry that a record becomes at a place in the log. -/
def ofRecord (record : Record) (sequence : UInt64) (previousHash : Option String)
    (now : Timestamp) : Entry :=
  ⟨sequence, now, record, previousHash, sealHash sequence now record previousHash⟩

/-- The hash that the entry's contents call for. -/
def computedHash (e : Entry) : String :=
  sealHash e.sequence e.recordedAt e.record e.previousHash

/-- The entry's hash is the one its contents call for. -/
def sound (e : Entry) : Bool :=
  e.computedHash = e.hash

/-- The members of an entry. -/
def members : Members Entry
    (UInt64 → Timestamp → Record → Option String → String → Entry) :=
  .cons (.required "sequence" .uint64) sequence <|
  .cons (.required "recorded_at" Timestamp.format) recordedAt <|
  .cons (.required "record" Record.format) record <|
  .cons (.optional "previous_hash" .string) previousHash <|
  .cons (.required "entry_hash" .string) hash .nil

/-- The format of an entry. -/
def format : Format Entry := .record mk members

/-- The characters of an entry's line in a log. -/
def line (e : Entry) : List Char :=
  (format.encode e).print

/-- A sealed entry is sound. -/
theorem sound_ofRecord (record : Record) (sequence : UInt64) (previousHash : Option String)
    (now : Timestamp) : (ofRecord record sequence previousHash now).sound = true := by
  simp [sound, computedHash, ofRecord]

end Entry

end Audit

end Promotion
