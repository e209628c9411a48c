import Promotion.SortedMap

/-!
# HTTP Headers

Which names and values a request's headers may have, and how a set of headers
is made of them.

A name is a token of the protocol, of limited length, and means the same in
every case, so a set keeps names in lower case, and of two names that differ in
case only the later replaces the earlier. A value may have any character but
the control characters, of which the tab is allowed.

## Main definitions

* `Http.isTokenChar`, `Http.isValueChar`: The characters of names and of values.
* `Http.HeaderFault`: What is wrong with a header.
* `Http.headers`: The set of some headers.
-/

namespace Promotion

namespace Http

/-- The characters of a header's name. -/
def isTokenChar (c : Char) : Bool :=
  c.isAlphanum || "!#$%&'*+-.^_\x60|~".toList.contains c

/-- The characters of a header's value. -/
def isValueChar (c : Char) : Bool :=
  c = '\t' || (0x20 ≤ c.toNat && c.toNat ≠ 0x7F)

/-- The most characters of a header's name. -/
def maxNameLength : Nat := 65535

/-- What is wrong with a header. -/
inductive HeaderFault where
  | name
  | value
  deriving DecidableEq, Repr

/-- What is wrong, as people read it. -/
def HeaderFault.message : HeaderFault → String
  | name => "invalid HTTP header name"
  | value => "failed to parse header value"

/-- What is wrong with a header of this name and value. -/
def headerFault? (name value : String) : Option HeaderFault :=
  if name.isEmpty || maxNameLength < name.length || !name.toList.all isTokenChar then some .name
  else if !value.toList.all isValueChar then some .value
  else none

/-- The set of some headers, put into another set one by one. The first header with something
    wrong is the failure. -/
def addHeaders (set : SortedMap String) :
    List (String × String) → Except (String × HeaderFault) (SortedMap String)
  | [] => .ok set
  | (name, value) :: rest =>
    match headerFault? name value with
    | some fault => .error (name, fault)
    | none => addHeaders (set.insert name.toLower value) rest

/-- The set of some headers. -/
def headers (given : List (String × String)) : Except (String × HeaderFault) (SortedMap String) :=
  addHeaders .empty given

/-- Adds a header unless the set has one of its name. -/
def withDefault (set : SortedMap String) (name value : String) : SortedMap String :=
  if (set.get? name).isSome then set else set.insert name value

end Http

end Promotion
