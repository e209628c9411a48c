import Promotion.Audit.Chain
import Promotion.Audit.Error
import Promotion.Audit.Query
import Promotion.Text.Blank

/-!
# The Log in a File

A log kept as a file with one entry per line, each the entry's compact JSON.

The file outlives the store. Opening a store reads the whole file and resumes
its chain, if it is one; appending writes one line at the end of the file,
whatever stands there; asking reads the file again. A line of blanks is no
entry, and a carriage return before a line's end belongs to the line end.

What stands at the place of the file is a value here, and every operation takes
it and gives it back. So what is said of a store and its file can be said of
files that somebody else wrote.

## Main definitions

* `Audit.Place`: What stands where the file is expected.
* `Audit.Place.entries`: The entries of the file.
* `Audit.FileStore`: An open store.
* `Audit.FileStore.openAt`: Opens the store at a place.
* `Audit.FileStore.append`: Seals a record onto the end of the file.
-/

namespace Promotion

namespace Audit

/-- What stands where the file is expected. -/
inductive Place where
  /-- Nothing, where a file can be made. -/
  | vacant
  /-- Nothing, where no file can be made. -/
  | barred
  | directory
  | file (content : List UInt8)
  deriving DecidableEq, Repr, Inhabited

/-- The byte that ends a line. -/
def lineFeed : UInt8 := 10

/-- The lines of a file: each up to its line feed, and what follows the last one if anything
    does. -/
def linesOf (content : List UInt8) : List (List UInt8) :=
  match content.splitOn lineFeed with
  | [] => []
  | pieces =>
    let whole := pieces.dropLast.map fun l => if l.getLast? = some 13 then l.dropLast else l
    match pieces.getLast? with
    | some (b :: rest) => whole ++ [b :: rest]
    | _ => whole

/-- The text of a line. -/
def textOf (line : List UInt8) : Except Error String :=
  match String.fromUTF8? ⟨line.toArray⟩ with
  | some s => .ok s
  | none => .error (.io .notText)

/-- The entry of a line, if the line is not blank. -/
def entryOf (line : List UInt8) : Except Error (Option Entry) := do
  let text ← textOf line
  if Text.allBlank text then return none
  match (Json.read text).bind Entry.format.decode with
  | some entry => return some entry
  | none => throw .malformedEntry

/-- The entries of some lines. The first line that is none decides the failure. -/
def entriesOf : List (List UInt8) → Except Error (List Entry)
  | [] => .ok []
  | line :: rest => do
    let entry ← entryOf line
    let entries ← entriesOf rest
    return entry.toList ++ entries

/-- The entries of the file at a place; there are none where there is no file. -/
def Place.entries : Place → Except Error (List Entry)
  | vacant | barred => .ok []
  | directory => .error (.io .directory)
  | file content => entriesOf (linesOf content)

/-- The place after a text was written at the end of its file. -/
def Place.write (text : List Char) : Place → Except Error Place
  | vacant => .ok (file (String.ofList text).toUTF8.toList)
  | file content => .ok (file (content ++ (String.ofList text).toUTF8.toList))
  | barred => .error (.io .noSuchPlace)
  | directory => .error (.io .directory)

/-- An open store. It remembers the chain, not the entries. -/
structure FileStore where
  chain : Chain
  deriving DecidableEq, Repr, Inhabited

namespace FileStore

/-- Opens the store at a place: the entries there have to be a chain, which is resumed. -/
def openAt (place : Place) : Except Error FileStore := do
  let entries ← place.entries
  match (verify entries).message? with
  | some reason => throw (.integrityFailed reason)
  | none => return ⟨.ofEntries entries⟩

/-- Seals a record onto the end of the file. Nothing changes unless the line was written. -/
def append (s : FileStore) (place : Place) (record : Record) (now : Timestamp) :
    Except Error Entry × FileStore × Place :=
  if record.dryRun then (.error (.dryRunRecord record.id), s, place)
  else
    let entry := s.chain.nextEntry record now
    match place.write (entry.line ++ ['\n']) with
    | .error e => (.error e, s, place)
    | .ok place => (.ok entry, ⟨s.chain.push entry⟩, place)

/-- The records in the file that answer a question. -/
def query (place : Place) (q : Query) : Except Error (List Record) := do
  return q.apply (← place.entries)

/-- The newest promotion of a tag into an environment. -/
def latestInto (place : Place) (tag environment : String) : Except Error (Option Record) := do
  return (← query place (.latestInto tag environment)).head?

end FileStore

end Audit

end Promotion
