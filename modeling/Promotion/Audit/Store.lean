import Promotion.Action
import Promotion.Audit.FileStore
import Promotion.Audit.MemoryStore

/-!
# Where the Log Is Kept

A promotion needs two things of the audit log: to add a record, and to find
records. `Audit.Log` is that, asked of anybody. `Audit.Store` is a log in memory
or in a file, with the file's place in the second case, so that everything a
log depends on is one value.

## Main definitions

* `Audit.Log`: What can be asked of a log.
* `Audit.Store`: A log in memory or in a file.
* `Audit.Store.append`, `Audit.Store.query`, `Audit.Store.entries`: Its answers.
* `Audit.Store.reopen`: The store after a restart.
-/

namespace Promotion

namespace Audit

/-- What can be asked of a log. -/
structure Log (σ : Type) where
  append (record : Record) : Call σ Error Entry
  query (question : Query) : Call σ Error (List Record)

/-- The newest promotion of a tag into an environment. -/
def Log.latestInto {σ : Type} (l : Log σ) (tag environment : String) :
    Call σ Error (Option Record) := fun w =>
  let (answer, w) := l.query (.latestInto tag environment) w
  (answer.map List.head?, w)

/-- A log in memory, or in a file at a place. -/
inductive Store where
  | memory (store : MemoryStore)
  | file (store : FileStore) (place : Place)

namespace Store

instance : Inhabited Store := ⟨.memory .empty⟩

/-- Seals a record onto the end. -/
def append (s : Store) (record : Record) (now : Timestamp) : Except Error Entry × Store :=
  match s with
  | memory store =>
    let (answer, store) := store.append record now
    (answer, memory store)
  | file store place =>
    let (answer, store, place) := store.append place record now
    (answer, file store place)

/-- The records that answer a question. -/
def query (s : Store) (question : Query) : Except Error (List Record) :=
  match s with
  | memory store => .ok (store.query question)
  | file _ place => FileStore.query place question

/-- The entries in order. -/
def entries (s : Store) : Except Error (List Entry) :=
  match s with
  | memory store => .ok store.entries
  | file _ place => place.entries

/-- The store after a restart: a file is opened again, and memory is as it was. -/
def reopen (s : Store) : Except Error Store :=
  match s with
  | memory store => .ok (memory store)
  | file _ place => (FileStore.openAt place).map (file · place)

end Store

end Audit

end Promotion
