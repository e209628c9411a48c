import Promotion.Settings
import Promotion.Settings.Path

/-!
# Layers of Settings

Settings come in layers: what stands when nothing is set, then a file, then the
variables of the process. A later layer is laid over the earlier ones.

A layer is a list of entries whose keys are read as paths, so a variable can
reach into a table that a file wrote.

## Main definitions

* `Settings.Layer`: Values with where they go.
* `Settings.Layer.ofVariables`: The layer of a process's variables.
* `Settings.ofLayers?`: The settings that layers add up to.
-/

namespace Promotion

namespace Settings

/-- Values with the text of where they go. -/
abbrev Layer := List (String × Setting)

namespace Layer

/-- Lays a layer over settings. A key that is no path is a key all the same. -/
def apply (root : Setting) (layer : Layer) : Setting :=
  layer.foldl (fun root (key, value) => ((Path.read? key).getD ⟨key, []⟩).assign value root) root

/-- What a variable's text stands for: a truth value, a number, or the text. -/
def ofText (s : String) : Setting :=
  if s.toLower = "true" then .bool true
  else if s.toLower = "false" then .bool false
  else
    match Text.integer? s.toList, Text.real? s.toList with
    | some i, _ => .integer i
    | none, some x => .real x
    | none, none => .text s

/-- A name with a point for every two underscores, from the left. -/
def points : List Char → List Char
  | '_' :: '_' :: rest => '.' :: points rest
  | c :: rest => c :: points rest
  | [] => []

/-- What every variable for this library starts with, in lower case. -/
def leader : List Char := ['l', 'a', 'd', 'd', 'e', 'r', '_']

/-- Where the value of a variable goes, if it is one for this library. -/
def target? (name : String) : Option String :=
  let cs := name.toLower.toList
  if leader.isPrefixOf cs then some (String.ofList (points (cs.drop leader.length))) else none

/-- The layer of a process's variables. -/
def ofVariables (given : List (String × String)) : Layer :=
  given.filterMap fun (name, value) => (target? name).map (·, ofText value)

/-- What stands when nothing is set. Lists are left out, since they are empty by default: where a
    later layer has a table in the place of a list, there is no list it could be laid over. -/
def defaults : Layer := [
  ("registry", .text ""),
  ("audit", .table [("type", .text "memory")]),
  ("logging", .table [("level", .text "info"), ("json", .bool false), ("timestamps", .bool true)])]

end Layer

/-- The settings that layers add up to. -/
def ofLayers? (layers : List Layer) : Option Settings :=
  format.adopt (layers.foldl Layer.apply (.table []))

end Settings

end Promotion
