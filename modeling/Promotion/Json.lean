/-!
# JSON Values

A JSON text as data, close enough to the text that every rule of reading can be
stated on it.

Three things that a looser reading would lose are kept. An object keeps its
members in their order and with their repetitions, because a member given twice
is an error where the member is known and nothing where it is not. A number
keeps its spelling apart from its value, because `1` is an integer and `1.0` is
not. A text with a surrogate that has no partner is no text at all, yet it is
well formed and may stand where nobody reads it: that is `unreadable`.

## Main definitions

* `Json.Number`: A number as it is spelt.
* `Json`: A value.
* `Json.depth`: How deep arrays and objects nest.
* `Json.readable`: All of the value can be read, not only skipped.
-/

namespace Promotion

namespace Json

/-- A number as it is spelt. -/
inductive Number where
  /-- Digits alone. -/
  | natural (n : Nat)
  /-- A minus sign and digits alone. -/
  | negated (n : Nat)
  /-- A number with a fraction or an exponent: `mantissa · 10 ^ exponent`, negated if so marked. -/
  | scaled (negative : Bool) (mantissa : Nat) (exponent : Int)
  deriving DecidableEq, Repr

end Json

/-- A JSON value. -/
inductive Json where
  | null
  | bool (b : Bool)
  | number (n : Json.Number)
  | string (s : String)
  | array (elements : List Json)
  | object (members : List (String × Json))
  /-- A text, or an object with a member name, that holds a surrogate without its partner. -/
  | unreadable
  deriving Repr

namespace Json

instance : Inhabited Json := ⟨.null⟩

/-- A natural number. -/
def nat (n : Nat) : Json := .number (.natural n)

mutual

/-- How deep arrays and objects nest. -/
def depth : Json → Nat
  | .array elements => depthElements elements + 1
  | .object members => depthMembers members + 1
  | _ => 0

/-- The deepest of some elements. -/
def depthElements : List Json → Nat
  | [] => 0
  | v :: rest => max (depth v) (depthElements rest)

/-- The deepest of some members. -/
def depthMembers : List (String × Json) → Nat
  | [] => 0
  | (_, v) :: rest => max (depth v) (depthMembers rest)

end

/-- How deep a value may nest where all of it is taken in. What is skipped has no limit. -/
def nestingLimit : Nat := 127

/-- The least number that does not round to a finite double: half a step above the greatest. -/
def overflow : Nat := (1 <<< 1024) - (1 <<< 970)

/-- A number that rounds to a finite double. -/
def Number.finite : Number → Bool
  | .scaled _ mantissa exponent =>
    -- A mantissa of d digits with this exponent lies below 10 ^ (d + exponent).
    if 400 < ((Nat.toDigits 10 mantissa).length : Int) + exponent then mantissa == 0
    else if exponent < 0 then mantissa < overflow * Nat.pow 10 exponent.natAbs
    else mantissa * Nat.pow 10 exponent.natAbs < overflow
  | .natural n | .negated n => n < overflow

mutual

/-- All of the value can be read, not only skipped: it has no unreadable part, and no number
    beyond the range of a double. -/
def readable : Json → Bool
  | .array elements => readableElements elements
  | .object members => readableMembers members
  | .number n => n.finite
  | .unreadable => false
  | _ => true

/-- All of some elements can be read. -/
def readableElements : List Json → Bool
  | [] => true
  | v :: rest => readable v && readableElements rest

/-- All of some members can be read. -/
def readableMembers : List (String × Json) → Bool
  | [] => true
  | (_, v) :: rest => readable v && readableMembers rest

end

end Json

end Promotion
