import Promotion.Json.Reader
import Promotion.Settings.Path
import Promotion.Toml.Reader
import Promotion.Yaml.Reader

/-!
# Settings Files

The table that a settings file holds, in whichever of three languages it is
written.

The extension of the name says the language. A name without one that is known
is tried with each of them, unless a file of just that name is there: then that
file is meant, and nobody can tell what language it is in.

## Main definitions

* `Settings.Language`: What a settings file is written in.
* `Settings.Language.read?`: The table that a text in a language holds.
* `Settings.locate?`: The file that a name means.
-/

namespace Promotion

namespace Settings

/-- What a settings file is written in. -/
inductive Language where
  | toml
  | json
  | yaml
  deriving DecidableEq, Repr

/-- A number as settings have it: an integer if it fits 64 bits, else a double. -/
def ofNumber : Json.Number → Setting
  | .natural n =>
    if n < 1 <<< 63 then .integer n else .real (Shortest.nearest false n 0)
  | .negated n =>
    if 0 < n ∧ n ≤ 1 <<< 63 then .integer (-(n : Int)) else .real (Shortest.nearest true n 0)
  | .scaled negative mantissa exponent => .real (Shortest.nearest negative mantissa exponent)

mutual

/-- A JSON value as a setting. -/
def ofJson : Json → Setting
  | .null => .nothing
  | .bool b => .bool b
  | .number n => ofNumber n
  | .string s => .text s
  | .array elements => .list (ofElements elements)
  | .object members => .table (ofMembers [] members)
  | .unreadable => .nothing

/-- JSON values as settings. -/
def ofElements : List Json → List Setting
  | [] => []
  | v :: rest => ofJson v :: ofElements rest

/-- The members of an object after some entries; a later member replaces one of its name. -/
def ofMembers (entries : List (String × Setting)) :
    List (String × Json) → List (String × Setting)
  | [] => entries
  | (key, v) :: rest => ofMembers (Setting.put key (ofJson v) entries) rest

end

/-- The value of a JSON text, all of which must be readable and not nested too deep. -/
def readJson? (text : String) : Option Setting :=
  (Json.read text).bind fun j =>
    if j.readable && j.depth ≤ Json.nestingLimit then some (ofJson j) else none

namespace Language

/-- The languages in the order in which they are tried. -/
def all : List Language := [toml, json, yaml]

/-- The extensions of a language's files. -/
def extensions : Language → List String
  | toml => ["toml"]
  | json => ["json"]
  | yaml => ["yaml", "yml"]

/-- The language of an extension. -/
def ofExtension? (extension : String) : Option Language :=
  all.find? fun l => l.extensions.contains extension

/-- The table that a text in a language holds. A mark of the byte order may stand before it. -/
def read? (l : Language) (text : String) : Option (List (String × Setting)) :=
  let text := match text.toList with
    | '\ufeff' :: cs => String.ofList cs
    | _ => text
  let value := match l with
    | toml => Toml.read? text
    | json => readJson? text
    | yaml => Yaml.read? text
  value.bind Setting.asTable?

end Language

/-- The extension of a file's name: what is behind its last point, unless the point is the first
    character of the name. -/
def extension? (path : String) : Option String :=
  let name := (path.toList.reverse.takeWhile (· != '/'))
  match name.span (· != '.') with
  | (extension, '.' :: _ :: _) => some (String.ofList extension.reverse)
  | _ => none

/-- The file that a name means among those of a directory, with its language. -/
def locate? (directory : String → Option String) (path : String) : Option (Language × String) :=
  match directory path with
  | some text => ((extension? path).bind Language.ofExtension?).map (·, text)
  | none =>
    Language.all.findSome? fun l =>
      l.extensions.findSome? fun e => (directory (path ++ "." ++ e)).map (l, ·)

end Settings

end Promotion
