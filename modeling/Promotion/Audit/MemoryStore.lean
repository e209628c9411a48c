import Promotion.Audit.Chain
import Promotion.Audit.Error
import Promotion.Audit.Query

/-!
# The Log in Memory

A log that lives as long as the process: its entries, and the chain that the
next one is sealed with.

## Main definitions

* `Audit.MemoryStore`: The log.
* `Audit.MemoryStore.append`: Seals a record onto the end.
-/

namespace Promotion

namespace Audit

/-- A log in memory. -/
structure MemoryStore where
  entries : List Entry
  chain : Chain
  deriving DecidableEq

namespace MemoryStore

/-- The log without entries. -/
def empty : MemoryStore := ⟨[], .empty⟩

instance : Inhabited MemoryStore := ⟨empty⟩

/-- Seals a record onto the end. A dry run is refused and changes nothing. -/
def append (s : MemoryStore) (record : Record) (now : Timestamp) :
    Except Error Entry × MemoryStore :=
  if record.dryRun then (.error (.dryRunRecord record.id), s)
  else
    let entry := s.chain.nextEntry record now
    (.ok entry, ⟨s.entries ++ [entry], s.chain.push entry⟩)

/-- The records that answer a question. -/
def query (s : MemoryStore) (q : Query) : List Record :=
  q.apply s.entries

/-- The newest promotion of a tag into an environment. -/
def latestInto (s : MemoryStore) (tag environment : String) : Option Record :=
  (s.query (.latestInto tag environment)).head?

end MemoryStore

end Audit

end Promotion
