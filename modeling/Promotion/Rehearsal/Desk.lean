import Promotion.Audit.Store

/-!
# A Log on the Desk

The file of a log in the hands of somebody who may write into it, put something
in its place or take it away, while a store is open.

The store can also be opened where no file can be. Then the file on the desk is
another one, and the store never touches it.

## Main definitions

* `Rehearsal.Desk`: The file and the store that was opened last.
* `Rehearsal.Desk.openStore`: Opens a store.
* `Rehearsal.Desk.store?`: The open store with its file as it is now.
* `Rehearsal.Desk.used`: The desk after the store was used.
-/

namespace Promotion

namespace Rehearsal

/-- The file of a log and the store that was opened last. -/
structure Desk where
  place : Audit.Place
  store : Option Audit.FileStore
  /-- The store was opened where no file can be. -/
  bare : Bool

namespace Desk

/-- The desk with neither file nor store. -/
def empty : Desk := ⟨.vacant, none, false⟩

instance : Inhabited Desk := ⟨empty⟩

/-- Where a store finds its file. -/
def placeFor (d : Desk) (bare : Bool) : Audit.Place :=
  if bare then .barred else d.place

/-- Opens a store. One that cannot be opened leaves the open one as it is. -/
def openStore (d : Desk) (bare : Bool) : Except Audit.Error Desk := do
  let store ← Audit.FileStore.openAt (d.placeFor bare)
  return { d with store := some store, bare }

/-- The open store with its file as it is now. -/
def store? (d : Desk) : Option Audit.Store :=
  d.store.map fun store => .file store (d.placeFor d.bare)

/-- The desk after the open store was used. -/
def used (d : Desk) : Audit.Store → Desk
  | .file store place => { d with store := some store, place := if d.bare then d.place else place }
  | .memory _ => d

/-- The bytes of the file; none where there is no file. -/
def content (d : Desk) : List UInt8 :=
  match d.place with
  | .file content => content
  | _ => []

/-- The desk with another content of the file. -/
def write (d : Desk) (content : List UInt8) : Desk :=
  { d with place := .file content }

/-- A text with the first occurrence of another replaced. -/
def replaceFirst (find put : List Char) : List Char → List Char
  | [] => if find.isEmpty then put else []
  | c :: rest =>
    if find.isPrefixOf (c :: rest) then put ++ (c :: rest).drop find.length
    else c :: replaceFirst find put rest

/-- The desk with the first occurrence of a text in the file replaced. -/
def replace (d : Desk) (find put : String) : Desk :=
  match String.fromUTF8? ⟨d.content.toArray⟩ with
  | some s =>
    d.write (String.ofList (replaceFirst find.toList put.toList s.toList)).toUTF8.toList
  | none => d

end Desk

end Rehearsal

end Promotion
