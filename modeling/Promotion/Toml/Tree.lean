import Promotion.Setting

/-!
# Building TOML Tables

The tree that the statements of a TOML text build, one after another.

A table may come into being in three ways: by a header of its own, on the way
to a table that a header names, or on the way to a key with points in it. How
it came about decides who may still add to it. A header may give a table its
entries once; keys with points may add only to tables that keys with points
made. An array of tables grows by a table whenever its header comes again, and
what follows belongs to the last one.

## Main definitions

* `Toml.Node`: A value, a table or an array of tables.
* `Toml.openTable?`: The tree after a header.
* `Toml.openElement?`: The tree after the header of an array of tables.
* `Toml.assign?`: The tree after a key and its value.
-/

namespace Promotion

namespace Toml

/-- How a table came into being. -/
inductive Origin where
  /-- By a header of its own. -/
  | header
  /-- On the way to a table that a header names. -/
  | passage
  /-- On the way to a key with points in it. -/
  | dotted
  deriving DecidableEq, Repr

/-- A part of the tree. -/
inductive Node where
  | value (v : Setting)
  | table (origin : Origin) (entries : List (String × Node))
  /-- An array of tables. -/
  | tables (elements : List (List (String × Node)))

/-- The entries of a table under their keys. -/
abbrev Entries := List (String × Node)

/-- Puts an entry among others; it replaces the one of its key. -/
def put (key : String) (node : Node) : Entries → Entries
  | [] => [(key, node)]
  | (k, n) :: rest => if k = key then (k, node) :: rest else (k, n) :: put key node rest

/-- Changes the last of some elements. -/
def changeLast? {α : Type} (f : α → Option α) : List α → Option (List α)
  | [] => none
  | [a] => (f a).map ([·])
  | a :: rest => (changeLast? f rest).map (a :: ·)

/-- Changes the table that some keys lead to from a header's point of view. Tables on the way that
    are not there come into being; of an array of tables the last one is meant. -/
def within (change : Entries → Option Entries) : List String → Entries → Option Entries
  | [], es => change es
  | key :: rest, es =>
    match es.lookup key with
    | none => (within change rest []).map fun below => put key (.table .passage below) es
    | some (.value _) => none
    | some (.table origin below) =>
      (within change rest below).map fun below => put key (.table origin below) es
    | some (.tables elements) =>
      (changeLast? (within change rest) elements).map fun elements => put key (.tables elements) es

/-- The tree after a header: the table must not have one yet, nor come from a key with points. -/
def openTable? (path : List String) (key : String) (root : Entries) : Option Entries :=
  root |> within (fun es =>
    match es.lookup key with
    | none => some (put key (.table .header []) es)
    | some (.table .passage below) => some (put key (.table .header below) es)
    | some _ => none) path

/-- The tree after the header of an array of tables: the array grows by a table. -/
def openElement? (path : List String) (key : String) (root : Entries) : Option Entries :=
  root |> within (fun es =>
    match es.lookup key with
    | none => some (put key (.tables [[]]) es)
    | some (.tables elements) => some (put key (.tables (elements ++ [[]])) es)
    | some _ => none) path

/-- A table after a key and its value, where `path` is the key up to its last point. A table on the
    way must not have a header, and the last one must come from a key with points. -/
def assignBelow? (key : String) (v : Setting) (last : Bool) :
    List String → Entries → Option Entries
  | [], es =>
    match es.lookup key with
    | none => if last then some (put key (.value v) es) else none
    | some _ => none
  | k :: rest, es =>
    match es.lookup k with
    | none =>
      (assignBelow? key v true rest []).map fun below => put k (.table .dotted below) es
    | some (.value _) => none
    | some (.table .header _) => none
    | some (.table origin below) =>
      (assignBelow? key v (origin = .dotted) rest below).map fun below =>
        put k (.table origin below) es
    | some (.tables elements) =>
      (changeLast? (assignBelow? key v false rest) elements).map fun elements =>
        put k (.tables elements) es

/-- The tree after a key and its value in the table that `header` names. -/
def assign? (header path : List String) (key : String) (v : Setting) (root : Entries) :
    Option Entries :=
  root |> within (assignBelow? key v true path) header

mutual

/-- The value of a part of the tree. -/
def Node.toSetting : Node → Setting
  | .value v => v
  | .table _ es => .table (entriesToSettings es)
  | .tables elements => .list (elementsToSettings elements)

/-- The values of some entries. -/
def entriesToSettings : List (String × Node) → List (String × Setting)
  | [] => []
  | (key, node) :: rest => (key, node.toSetting) :: entriesToSettings rest

/-- The values of the tables of an array. -/
def elementsToSettings : List (List (String × Node)) → List Setting
  | [] => []
  | es :: rest => .table (entriesToSettings es) :: elementsToSettings rest

end

end Toml

end Promotion
