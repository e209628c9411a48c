import Promotion.Text.Decimal
import Promotion.Text.Shortest

/-!
# Setting Values

What a settings file or a variable of the process can say, and how one kind of
value is taken for another.

A setting is written in whatever form its medium has: a variable is all text,
and a file may quote a number or not. So a scalar is taken for the kind that is
asked for whenever it can be: the text `yes` for a truth value, a number for a
text, `30` in quotes for a number. Lists and tables are never taken for scalars
nor the reverse.

## Main definitions

* `Setting`: A value of a settings file or variable.
* `Setting.asText?`, `Setting.asBool?`, `Setting.asNatural?`: A scalar taken for each kind.
-/

namespace Promotion

/-- A value of a settings file or variable. -/
inductive Setting where
  /-- Given, but with nothing in it. -/
  | nothing
  | bool (b : Bool)
  | integer (i : Int)
  | real (x : Float)
  | text (s : String)
  | list (elements : List Setting)
  | table (entries : List (String × Setting))

namespace Setting

instance : Inhabited Setting := ⟨.nothing⟩

/-- The text of a scalar. -/
def asText? : Setting → Option String
  | .text s => some s
  | .bool b => some (if b then "true" else "false")
  | .integer i => some (if i < 0 then "-" ++ Decimal.text i.natAbs else Decimal.text i.natAbs)
  | .real x => some (Shortest.text x)
  | _ => none

/-- The truth value that a word stands for, in any case. -/
def wordTruth? (s : String) : Option Bool :=
  let word := s.toLower
  if word = "true" ∨ word = "on" ∨ word = "yes" then some true
  else if word = "false" ∨ word = "off" ∨ word = "no" then some false
  else none

/-- The truth value of a scalar: a word, or whether a number is other than zero. -/
def asBool? : Setting → Option Bool
  | .bool b => some b
  | .integer i => some (i != 0)
  | .real x => some (x != 0)
  | .text "1" => some true
  | .text "0" => some false
  | .text s => wordTruth? s
  | _ => none

/-- The number of a run of digits, with a plus sign or without, if it is below the bound. -/
def digitsBelow? (bound : Nat) (cs : List Char) : Option Nat :=
  let digits := match cs with
    | '+' :: rest => rest
    | cs => cs
  if digits.isEmpty || !digits.all Char.isDigit then none
  else
    let n := Decimal.value digits
    if n < bound then some n else none

/-- The natural number below `2 ^ 64` of a scalar: a fraction is rounded, a truth value counts as
    one or zero. -/
def asNatural? : Setting → Option UInt64
  | .integer i => if 0 ≤ i ∧ i.toNat < UInt64.size then some (UInt64.ofNat i.toNat) else none
  | .bool b => some (if b then 1 else 0)
  | .real x => some x.round.toUInt64
  | .text s =>
    match wordTruth? s with
    | some b => some (if b then 1 else 0)
    | none => (digitsBelow? UInt64.size s.toList).map UInt64.ofNat
  | _ => none

/-- The elements of a list. -/
def asList? : Setting → Option (List Setting)
  | .list elements => some elements
  | _ => none

/-- The entries of a table. -/
def asTable? : Setting → Option (List (String × Setting))
  | .table entries => some entries
  | _ => none

end Setting

end Promotion
