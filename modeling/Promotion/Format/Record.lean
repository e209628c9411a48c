import Promotion.Format

/-!
# Formats of Records

The format of a record, from a list of its members.

Written, a record is an object with its members in the order of the list. Read,
it is an object with the members in any order, unknown ones ignored and known
ones given once; or an array with the members in the order of the list, of
which the last ones may be missing if they have a default. A member's entry in
the list says what stands for it when it is missing.

The list is typed by what is still needed to build the record: a constructor
waiting for its arguments. `rebuild` applies the constructor to the members of
a record, and the format is right when that gives the record back.

## Main definitions

* `Member`: One member of a record.
* `Members`: The members of a record in order.
* `Format.record`: The format of a record.
-/

namespace Promotion

/-- One member of a record: its name, its format, and what stands for it when it is missing. -/
structure Member (γ : Type) where
  key : String
  format : Format γ
  /-- The value of a member that an object does not have. -/
  absent : Option γ
  /-- The value of a member that an array is too short for. -/
  ended : Option γ
  /-- The values that are not written. -/
  silent : γ → Bool

namespace Member

variable {γ : Type}

/-- A member that has to be there. -/
def required (key : String) (format : Format γ) : Member γ :=
  ⟨key, format, none, none, fun _ => false⟩

/-- A member that a default stands for. -/
def defaulted (key : String) (format : Format γ) (value : γ) : Member γ :=
  ⟨key, format, some value, some value, fun _ => false⟩

/-- A member that an object may do without, though not an array. -/
def optional (key : String) (format : Format γ) : Member (Option γ) :=
  ⟨key, format.option, some none, none, fun _ => false⟩

/-- A member that is written only when there is a value. -/
def whenPresent (key : String) (format : Format γ) : Member (Option γ) :=
  ⟨key, format.option, some none, some none, Option.isNone⟩

/-- The value of the member among the members of an object; none if it is there twice. -/
def ofObject (m : Member γ) (members : List (String × Json)) : Option γ :=
  match members.filter fun e => e.1 = m.key with
  | [] => m.absent
  | [(_, j)] => m.format.decode j
  | _ => none

/-- The value of the member among the entries of a table. -/
def ofTable (m : Member γ) (entries : List (String × Setting)) : Option γ :=
  match entries.lookup m.key with
  | none => m.absent
  | some s => m.format.adopt s

/-- The member as it is written, if it is. -/
def toObject (m : Member γ) (value : γ) : List (String × Json) :=
  if m.silent value then [] else [(m.key, m.format.encode value)]

end Member

/-- The members of a record `ρ` in order. The index is a constructor that waits for them. -/
inductive Members (ρ : Type) : Type → Type 1 where
  | nil : Members ρ ρ
  | cons {γ β : Type} (member : Member γ) (get : ρ → γ) (rest : Members ρ β) : Members ρ (γ → β)

namespace Members

variable {ρ : Type}

/-- The members of a record as they are written. -/
def toObject {β : Type} : Members ρ β → ρ → List (String × Json)
  | .nil, _ => []
  | .cons m get rest, r => m.toObject (get r) ++ rest.toObject r

/-- The record of an object's members. -/
def ofObject {β : Type} : Members ρ β → β → List (String × Json) → Option ρ
  | .nil, r, _ => some r
  | .cons m _ rest, build, members =>
    match m.ofObject members with
    | none => none
    | some value => rest.ofObject (build value) members

/-- The record of an array's elements. -/
def ofArray {β : Type} : Members ρ β → β → List Json → Option ρ
  | .nil, r, [] => some r
  | .nil, _, _ :: _ => none
  | .cons m _ rest, build, [] =>
    match m.ended with
    | none => none
    | some value => rest.ofArray (build value) []
  | .cons m _ rest, build, j :: js =>
    match m.format.decode j with
    | none => none
    | some value => rest.ofArray (build value) js

/-- The record of a table's entries. -/
def ofTable {β : Type} : Members ρ β → β → List (String × Setting) → Option ρ
  | .nil, r, _ => some r
  | .cons m _ rest, build, entries =>
    match m.ofTable entries with
    | none => none
    | some value => rest.ofTable (build value) entries

/-- The record of a list of settings; those past the last member are ignored. -/
def ofList {β : Type} : Members ρ β → β → List Setting → Option ρ
  | .nil, r, _ => some r
  | .cons m _ rest, build, [] =>
    match m.ended with
    | none => none
    | some value => rest.ofList (build value) []
  | .cons m _ rest, build, s :: ss =>
    match m.format.adopt s with
    | none => none
    | some value => rest.ofList (build value) ss

/-- The constructor applied to the members of a record. -/
def rebuild {β : Type} : Members ρ β → β → ρ → ρ
  | .nil, build, _ => build
  | .cons _ get rest, build, r => rest.rebuild (build (get r)) r

/-- The names of the members. -/
def keys {β : Type} : Members ρ β → List String
  | .nil => []
  | .cons m _ rest => m.key :: rest.keys

end Members

/-- The format of a record with these members and this constructor. -/
def Format.record {ρ β : Type} (build : β) (members : Members ρ β) : Format ρ where
  encode r := .object (members.toObject r)
  decode
    | .object ms => members.ofObject build ms
    | .array js => members.ofArray build js
    | _ => none
  adopt
    | .table es => members.ofTable build es
    | .list ss => members.ofList build ss
    | _ => none

end Promotion
