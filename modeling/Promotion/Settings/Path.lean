import Promotion.Setting
import Promotion.Text.Number

/-!
# Paths into Settings

Where in a tree of settings a value goes.

A path starts at an entry of the root and goes down by entries and places:
`logging.level`, `promotion.webhooks[0].url`. Keys are met in any case, so
whatever is put into a table is put under its key in lower case.

A value is laid over what is there. Tables are merged entry by entry, so that a
later layer of settings can change one entry and leave its neighbours; every
other value takes the place of what was there. Lists are values like others:
they are replaced, never merged, and the keys of the tables in them stay as
they are written.

## Main definitions

* `Setting.put`: Puts an entry into a table.
* `Setting.overlay`: Lays a value over the entry of a key.
* `Settings.Path`: Where a value goes.
* `Settings.Path.read?`: The path that a text stands for.
* `Settings.Path.assign`: Puts a value where a path leads.
-/

namespace Promotion

namespace Setting

/-- The entries of a table; a value of another kind has none. -/
def entries : Setting → List (String × Setting)
  | .table es => es
  | _ => []

/-- The elements of a list; a value of another kind has none. -/
def elements : Setting → List Setting
  | .list ss => ss
  | _ => []

/-- Puts an entry among others; it replaces the one of its key. -/
def put (key : String) (value : Setting) : List (String × Setting) → List (String × Setting)
  | [] => [(key, value)]
  | (k, v) :: rest => if k = key then (k, value) :: rest else (k, v) :: put key value rest

mutual

/-- Lays a value over the entry of a key. -/
def overlay (root : Setting) (key : String) : Setting → Setting
  | .table incoming =>
    let below := (root.entries.lookup key.toLower).getD (.table [])
    .table (put key.toLower (overlayAll below incoming) root.entries)
  | value => .table (put key.toLower value root.entries)

/-- Lays some entries over those of a table. -/
def overlayAll (root : Setting) : List (String × Setting) → Setting
  | [] => root
  | (key, value) :: rest => overlayAll (overlay root key value) rest

end

end Setting

namespace Settings

/-- One step down. -/
inductive Step where
  /-- To the entry of a key. -/
  | entry (key : String)
  /-- To the element of a list at a place; a negative place counts from the end. -/
  | element (place : Int)
  deriving DecidableEq, Repr

/-- Where a value goes: an entry of the root, and steps down from it. -/
structure Path where
  root : String
  steps : List Step
  deriving DecidableEq, Repr

namespace Path

/-- The characters of a key in a path. -/
def isKeyChar (c : Char) : Bool :=
  c.isAlphanum || c == '_' || c == '-' || c == ' '

/-- The steps that the rest of a path is, with a budget for their number. -/
def readSteps : Nat → List Char → Option (List Step)
  | _, [] => some []
  | 0, _ => none
  | budget + 1, '.' :: rest =>
    match rest.span isKeyChar with
    | ([], _) => none
    | (key, rest) => (readSteps budget rest).map (.entry (String.ofList key) :: ·)
  | budget + 1, '[' :: rest =>
    match rest.span fun c => c.isDigit || c == '-' with
    | (place, ']' :: rest) => do
      let place ← Text.integer? place
      let steps ← readSteps budget rest
      return .element place :: steps
    | _ => none
  | _, _ => none

/-- The path that a text stands for. Every step takes up a character, so their number is
    bounded. -/
def read? (s : String) : Option Path :=
  match s.toList.span isKeyChar with
  | ([], _) => none
  | (root, rest) => (readSteps rest.length rest).map fun steps => ⟨String.ofList root, steps⟩

/-- The place of an element in a list of a length. -/
def placeIn (place : Int) (length : Nat) : Nat :=
  if 0 ≤ place then place.toNat else length - place.natAbs

/-- A value put where some steps lead. A value of the wrong kind on the way gives place to one of
    the right kind. -/
def descend (value : Setting) : List Step → Setting → Setting
  | [], _ => value
  | .entry key :: rest, s =>
    let below := (s.entries.lookup key.toLower).getD .nothing
    .table (Setting.put key.toLower (descend value rest below) s.entries)
  | .element place :: rest, s =>
    let n := placeIn place s.elements.length
    let longer := s.elements ++ List.replicate (n + 1 - s.elements.length) .nothing
    .list (longer.set n (descend value rest (s.elements.getD n .nothing)))

/-- Puts a value where a path leads: laid over an entry of the root, in place of anything below. -/
def assign (path : Path) (value root : Setting) : Setting :=
  match path.steps with
  | [] => root.overlay path.root value
  | steps =>
    let key := path.root.toLower
    let below := (root.entries.lookup key).getD .nothing
    .table (Setting.put key (descend value steps below) root.entries)

end Path

end Settings

end Promotion
