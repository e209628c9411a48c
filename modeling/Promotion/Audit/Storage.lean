import Promotion.Format

/-!
# Audit Storage

Where the audit log is kept, as the settings say it.

The kind of storage is a member `type` that stands beside the members of that
kind. A reader meets them in any order, so it has to take in the whole object
before it knows what any of it means. That is why everything in the object must
be readable and not nested too deep, even the members that are then ignored.

## Main definitions

* `Audit.Storage`: Where the audit log is kept.
* `Audit.Storage.formatWithin`: Its format under a limit on nesting.
-/

namespace Promotion

namespace Audit

/-- Where the audit log is kept. -/
inductive Storage where
  /-- Nowhere beyond the run. -/
  | memory
  /-- A file that grows by a line per record. -/
  | file (path : String)
  deriving DecidableEq, Repr, Inhabited

namespace Storage

/-- The storage of a kind, from whatever stands beside the kind. -/
def ofKind? (kind : String) (path : Option String) : Option Storage :=
  if kind = "memory" then some .memory
  else if kind = "file" then path.map .file
  else none

/-- The one text under a key of some members. -/
def textMember? (key : String) (members : List (String × Json)) : Option String :=
  match members.filter fun e => e.1 = key with
  | [(_, .string s)] => some s
  | _ => none

/-- The storage that the members of an object describe. -/
def ofMembers? (members : List (String × Json)) : Option Storage :=
  (textMember? "type" members).bind fun kind => ofKind? kind (textMember? "path" members)

/-- The storage that the elements of an array describe: the kind and what belongs to it. -/
def ofElements? : List Json → Option Storage
  | [.string kind] => ofKind? kind none
  | [.string "file", .string path] => some (.file path)
  | _ => none

/-- The storage that the entries of a table describe. -/
def ofEntries? (entries : List (String × Setting)) : Option Storage :=
  match entries.lookup "type", entries.lookup "path" with
  | some (.text kind), some (.text path) => ofKind? kind (some path)
  | some (.text kind), _ => ofKind? kind none
  | _, _ => none

/-- The storage that a list of settings describes. -/
def ofSettings? : List Setting → Option Storage
  | [.text kind] => ofKind? kind none
  | [.text "file", .text path] => some (.file path)
  | _ => none

/-- The format of a storage that may nest no deeper than a limit. -/
def formatWithin (limit : Nat) : Format Storage where
  encode
    | .memory => .object [("type", .string "memory")]
    | .file path => .object [("type", .string "file"), ("path", .string path)]
  decode j :=
    if j.depth ≤ limit && j.readable then
      match j with
      | .object members => ofMembers? members
      | .array elements => ofElements? elements
      | _ => none
    else none
  adopt
    | .table entries => ofEntries? entries
    | .list settings => ofSettings? settings
    | _ => none

/-- The format of a storage that is a text of its own. -/
def format : Format Storage := formatWithin Json.nestingLimit

end Storage

end Audit

end Promotion
