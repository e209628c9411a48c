import Promotion.Text.Shortest

/-!
# Numbers People Write

A bare word taken for a number: an integer of 64 bits, or a double.

Settings files and variables have no type for a word that stands without
quotes. It is a number exactly if all of it is one: blanks, separators between
digits and other bases are left to whoever knows the medium.

## Main definitions

* `Text.integer?`: The integer of 64 bits that a word stands for.
* `Text.real?`: The double that a word stands for.
-/

namespace Promotion

namespace Text

/-- The sign a word starts with, and the rest. The sign is true for a minus. -/
def splitSign : List Char → Bool × List Char
  | '-' :: rest => (true, rest)
  | '+' :: rest => (false, rest)
  | cs => (false, cs)

/-- A number with its sign, if it fits 64 bits. -/
def fitInteger? (negative : Bool) (n : Nat) : Option Int :=
  if negative then (if n ≤ 1 <<< 63 then some (-(n : Int)) else none)
  else if n < 1 <<< 63 then some (n : Int)
  else none

/-- The integer of 64 bits that a word stands for. -/
def integer? (cs : List Char) : Option Int :=
  let (negative, digits) := splitSign cs
  if digits.isEmpty || !digits.all Char.isDigit then none
  else fitInteger? negative (Decimal.value digits)

/-- The exponent that the rest of a number is: nothing, or a letter and an integer. -/
def exponent? : List Char → Option Int
  | [] => some 0
  | c :: rest =>
    if c = 'e' ∨ c = 'E' then
      let (negative, digits) := splitSign rest
      if digits.isEmpty || !digits.all Char.isDigit then none
      else
        let n : Int := Decimal.value digits
        some (if negative then -n else n)
    else none

/-- The double that digits around an optional point and an optional exponent stand for. -/
def scaled? (negative : Bool) (cs : List Char) : Option Float :=
  let (whole, rest) := Decimal.splitDigits cs
  let (fraction, rest) :=
    match rest with
    | '.' :: rest => Decimal.splitDigits rest
    | rest => ([], rest)
  if whole.isEmpty && fraction.isEmpty then none
  else
    (exponent? rest).map fun e =>
      Shortest.nearest negative (Decimal.value (whole ++ fraction)) (e - fraction.length)

/-- The double that a word stands for: a decimal, or a name of infinity or of no number. -/
def real? (cs : List Char) : Option Float :=
  let (negative, rest) := splitSign cs
  let name := (String.ofList rest).toLower
  let infinity : Float := 1.0 / 0.0
  if name = "inf" ∨ name = "infinity" then some (if negative then -infinity else infinity)
  else if name = "nan" then some (0.0 / 0.0)
  else scaled? negative rest

end Text

end Promotion
