import Promotion.Json
import Promotion.Setting
import Promotion.SortedMap

/-!
# Formats

How the values of a type are written as JSON, read back from JSON, and taken
from a settings file or variable.

A format is three functions kept together, because a type's shape has to be
said only once: a record lists its members, and writing, strict reading and
lenient reading all follow the list. Reading JSON is strict, since the texts
come from machines and one of them is the audit log; taking settings is
lenient, since people write them.

A format is `Lawful` when reading gives back what was written. That is a fact
about single formats here and is carried through every way to combine them.

## Main definitions

* `Format`: Writing and the two ways of reading.
* `Format.Lawful`: Reading gives back what was written.
* `Format.string`, `Format.bool`, `Format.uint64`, `Format.uint32`: The scalars.
* `Format.ofText`: A type with a text of its own.
* `Format.option`, `Format.list`, `Format.map`: Containers.
* `Format.oneOf`: A type with finitely many named values.
* `Format.convert`: A type that wraps another.
-/

namespace Promotion

/-- How the values of a type are written and read. -/
structure Format (α : Type) where
  /-- Writing. -/
  encode : α → Json
  /-- Reading what a machine wrote. -/
  decode : Json → Option α
  /-- Taking what a person set. -/
  adopt : Setting → Option α

namespace Format

variable {α β : Type}

/-- Reading gives back what was written. -/
def Lawful (f : Format α) : Prop :=
  ∀ a, f.decode (f.encode a) = some a

/-- Text. -/
def string : Format String where
  encode s := .string s
  decode
    | .string s => some s
    | _ => none
  adopt := Setting.asText?

/-- Truth values. -/
def bool : Format Bool where
  encode b := .bool b
  decode
    | .bool b => some b
    | _ => none
  adopt := Setting.asBool?

/-- Numbers of 64 bits, written as digits alone. -/
def uint64 : Format UInt64 where
  encode n := .nat n.toNat
  decode
    | .number (.natural n) => if n < UInt64.size then some (UInt64.ofNat n) else none
    | _ => none
  adopt := Setting.asNatural?

/-- Numbers of 32 bits, written as digits alone. A setting keeps its low 32 bits. -/
def uint32 : Format UInt32 where
  encode n := .nat n.toNat
  decode
    | .number (.natural n) => if n < UInt32.size then some (UInt32.ofNat n) else none
    | _ => none
  adopt s := s.asNatural?.map UInt64.toUInt32

/-- A type whose values have a text of their own. -/
def ofText (print : α → String) (parse : String → Option α) : Format α where
  encode a := .string (print a)
  decode j := (string.decode j).bind parse
  adopt s := (string.adopt s).bind parse

/-- A value that may be missing; null stands for it. -/
def option (f : Format α) : Format (Option α) where
  encode
    | none => .null
    | some a => f.encode a
  decode
    | .null => some none
    | j => (f.decode j).map some
  adopt
    | .nothing => some none
    | s => (f.adopt s).map some

/-- Values one after another. -/
def list (f : Format α) : Format (List α) where
  encode as := .array (as.map f.encode)
  decode
    | .array js => js.mapM f.decode
    | _ => none
  adopt s := s.asList?.bind fun ss => ss.mapM f.adopt

/-- Values under keys of any kind. -/
def map (f : Format α) : Format (SortedMap α) where
  encode m := .object (m.toList.map fun (k, a) => (k, f.encode a))
  decode
    | .object ms => (ms.mapM fun e => (f.decode e.2).map (e.1, ·)).map SortedMap.ofList
    | _ => none
  adopt s := s.asTable?.bind fun es =>
    (es.mapM fun e => (f.adopt e.2).map (e.1, ·)).map SortedMap.ofList

/-- A type with finitely many named values. A value is its name, or an object whose one member is
    named so and null; a setting may have the name in any case. -/
def oneOf (values : List α) (name : α → String) : Format α where
  encode a := .string (name a)
  decode
    | .string s => values.find? fun a => name a = s
    | .object [(s, .null)] => values.find? fun a => name a = s
    | _ => none
  adopt
    | .text s => values.find? fun a => (name a).toLower = s.toLower
    | .table [(s, _)] => values.find? fun a => (name a).toLower = s.toLower
    | _ => none

/-- A type that wraps another. -/
def convert (f : Format α) (unwrap : β → α) (wrap : α → β) : Format β where
  encode b := f.encode (unwrap b)
  decode j := (f.decode j).map wrap
  adopt s := (f.adopt s).map wrap

end Format

end Promotion
