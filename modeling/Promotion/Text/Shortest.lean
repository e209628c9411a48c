import Promotion.Text.Decimal

/-!
# Shortest Decimals

The shortest decimal that reads back as a given double, and the double nearest
to a given decimal.

A double is `mantissa · 2 ^ exponent`, and a decimal reads back as it when it
lies in the interval of reals that round to it. For one digit, two digits and
so on, the two neighbours of the double on the grid of decimals with that many
digits are tried in exact arithmetic. The first grid with a hit wins, and of
two hits the nearer one.

## Main definitions

* `Shortest.Scaled`: Digits and a power of ten.
* `Shortest.find`: The shortest decimal that reads back as a positive double.
* `Shortest.text`: A double written with it, never with an exponent.
* `Shortest.nearest`: The double nearest to a decimal.
-/

namespace Promotion

namespace Shortest

/-- The decimal `digits · 10 ^ exponent`. -/
structure Scaled where
  digits : Nat
  exponent : Int
  deriving DecidableEq, Repr

/-- The interval of reals that round to a double, over a common denominator. -/
structure Interval where
  low : Nat
  value : Nat
  high : Nat
  denominator : Nat
  /-- The ends round to the double too. -/
  closed : Bool

/-- The highest bit of a mantissa, which a double does not store. -/
def hiddenBit : Nat := 1 <<< 52

/-- The interval of the double `mantissa · 2 ^ exponent`. Below a power of two the neighbours are
    twice as close, except at the bottom of the range. -/
def Interval.ofDouble (mantissa : Nat) (exponent : Int) : Interval :=
  let narrow := mantissa == hiddenBit && exponent != -1074
  let up : Nat := 1 <<< exponent.toNat
  let down : Nat := 1 <<< (-exponent).toNat
  { low := (4 * mantissa - if narrow then 1 else 2) * up
    value := 4 * mantissa * up
    high := (4 * mantissa + 2) * up
    denominator := 4 * down
    closed := mantissa % 2 == 0 }

/-- The decimal lies in the interval. -/
def Interval.contains (i : Interval) (d : Scaled) : Bool :=
  let scaled : Nat := d.digits * Decimal.tenTo d.exponent.toNat * i.denominator
  let unit : Nat := Decimal.tenTo (-d.exponent).toNat
  if i.closed then i.low * unit ≤ scaled && scaled ≤ i.high * unit
  else i.low * unit < scaled && scaled < i.high * unit

/-- The place of the interval's value: it lies below ten to this power and not below a tenth of
    that. -/
def Interval.place (i : Interval) : Int :=
  if i.denominator ≤ i.value then (Decimal.numeral (i.value / i.denominator)).length
  else
    match (List.range 400).find? fun k => i.denominator ≤ i.value * Decimal.tenTo (k + 1) with
    | some k => -(k : Int)
    | none => 0

/-- The shortest decimal in the interval with at most `count` digits more than those tried. -/
def Interval.search (i : Interval) (place : Int) : Nat → Nat → Scaled
  | 0, n =>
    let exponent := place - n
    ⟨i.value * Decimal.tenTo (-exponent).toNat / (i.denominator * Decimal.tenTo exponent.toNat),
      exponent⟩
  | count + 1, n =>
    let exponent := place - n
    let unit := i.denominator * Decimal.tenTo exponent.toNat
    let scaled := i.value * Decimal.tenTo (-exponent).toNat
    let below : Scaled := ⟨scaled / unit, exponent⟩
    let above : Scaled := ⟨scaled / unit + 1, exponent⟩
    match i.contains below, i.contains above with
    | true, true => if 2 * (scaled % unit) ≤ unit then below else above
    | true, false => below
    | false, true => above
    | false, false => i.search place count (n + 1)

/-- The shortest decimal that reads back as a positive double. -/
def find (mantissa : Nat) (exponent : Int) : Scaled :=
  let i := Interval.ofDouble mantissa exponent
  i.search i.place 17 1

/-- A decimal written out in full. -/
def Scaled.chars (d : Scaled) : List Char :=
  let digits := Decimal.numeral d.digits
  if 0 ≤ d.exponent then digits ++ List.replicate d.exponent.toNat '0'
  else
    let places := d.exponent.natAbs
    let padded := Decimal.padded (places + 1) d.digits
    let whole := padded.take (padded.length - places)
    -- A trailing zero after the point is never shortest.
    let fraction := ((padded.drop (padded.length - places)).reverse.dropWhile (· == '0')).reverse
    if fraction.isEmpty then whole else whole ++ '.' :: fraction

/-- A double written with the fewest digits that read back, never with an exponent. -/
def text (x : Float) : String :=
  if x.isNaN then "NaN"
  else
    let bits := x.toBits.toNat
    let sign := if bits >>> 63 = 1 then "-" else ""
    let biased : Nat := (bits >>> 52) % 2048
    let fraction : Nat := bits % hiddenBit
    if biased = 2047 then sign ++ "inf"
    else if biased = 0 ∧ fraction = 0 then sign ++ "0"
    else
      let d := if biased = 0 then find fraction (-1074)
        else find (fraction + hiddenBit) ((biased : Int) - 1075)
      sign ++ String.ofList d.chars

/-- The double nearest to `mantissa · 10 ^ exponent`. -/
def nearest (negative : Bool) (mantissa : Nat) (exponent : Int) : Float :=
  let magnitude : Int := (Decimal.numeral mantissa).length + exponent
  -- Beyond these bounds every decimal rounds to infinity or to zero.
  let x : Float :=
    if mantissa = 0 ∨ magnitude < -400 then 0.0
    else if 400 < magnitude then 1.0 / 0.0
    else if exponent < 0 then Float.ofScientific mantissa true exponent.natAbs
    else Float.ofScientific mantissa false exponent.natAbs
  if negative then -x else x

end Shortest

end Promotion
