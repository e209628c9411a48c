import Promotion.Timestamp
import Promotion.Text.Blank
import Promotion.Text.Decimal

/-!
# Timestamps as Text

The RFC 3339 text of a timestamp, and the more tolerant form in which one is
read.

Written, a timestamp has two digits per field and four for the year; a year
outside 0 to 9999 has its sign and at least four digits. The fraction of a
second is left out when it is zero and else has three, six or nine digits, the
fewest that hold it. Universal time is marked by `Z`, or by `+00:00` where a
hash is taken.

Read, a field may have fewer digits, blanks may stand before a field or around
a separator, the `T` may be small or a blank, a fraction may have any number of
digits of which nine count, and the offset may be `Z`, `UTC` in any case, or
hours and minutes with or without a colon. The result is moved to universal
time.

## Main definitions

* `Timestamp.Zone`: The two ways to mark universal time.
* `Timestamp.text`: The text of a timestamp.
* `Timestamp.read?`: The timestamp of a text.
-/

namespace Promotion

namespace Timestamp

/-- How universal time is marked. -/
inductive Zone where
  /-- By the letter `Z`. -/
  | letter
  /-- By an offset of nothing. -/
  | offset

/-- The mark itself. -/
def Zone.mark : Zone → List Char
  | .letter => ['Z']
  | .offset => ['+', '0', '0', ':', '0', '0']

/-- A year: four digits, with its sign if it is outside 0 to 9999. -/
def yearText (year : Int) : List Char :=
  if 0 ≤ year ∧ year ≤ 9999 then Decimal.padded 4 year.natAbs
  else (if year < 0 then '-' else '+') :: Decimal.padded 4 year.natAbs

/-- The fraction of a second, to milli-, micro- or nanoseconds. -/
def fractionText (nanosecond : Nat) : List Char :=
  if nanosecond = 0 then []
  else if nanosecond % 1000000 = 0 then '.' :: Decimal.padded 3 (nanosecond / 1000000)
  else if nanosecond % 1000 = 0 then '.' :: Decimal.padded 6 (nanosecond / 1000)
  else '.' :: Decimal.padded 9 nanosecond

/-- The characters of a timestamp. -/
def chars (zone : Zone) (t : Timestamp) : List Char :=
  yearText t.year ++ '-' :: (Decimal.padded 2 t.month ++ '-' :: (Decimal.padded 2 t.day ++
    'T' :: (Decimal.padded 2 t.hour ++ ':' :: (Decimal.padded 2 t.minute ++
      ':' :: (Decimal.padded 2 t.second ++ (fractionText t.nanosecond ++ zone.mark))))))

/-- The text of a timestamp. -/
def text (t : Timestamp) : String :=
  String.ofList (t.chars .letter)

/-- An unsigned field: blanks, then one to `width` digits. -/
def readField (width : Nat) (cs : List Char) : Option (Nat × List Char) :=
  let cs := Text.skipBlank cs
  let digits := (cs.take width).takeWhile Char.isDigit
  if digits.isEmpty then none else some (Decimal.value digits, cs.drop digits.length)

/-- The year: at most four digits, or a sign and any number of them. -/
def readYear (cs : List Char) : Option (Int × List Char) :=
  match Text.skipBlank cs with
  | '-' :: rest => if (rest.head?.map Char.isDigit).getD false then
      (readField rest.length rest).map fun (n, rest) => (-(n : Int), rest)
    else none
  | '+' :: rest => if (rest.head?.map Char.isDigit).getD false then
      (readField rest.length rest).map fun (n, rest) => ((n : Int), rest)
    else none
  | cs => (readField 4 cs).map fun (n, rest) => ((n : Int), rest)

/-- A separator; blanks may stand before it. -/
def readMark (mark : Char) (cs : List Char) : Option (List Char) :=
  match Text.skipBlank cs with
  | c :: rest => if c = mark then some rest else none
  | [] => none

/-- The mark between date and time. -/
def readTimeMark : List Char → Option (List Char)
  | 'T' :: rest | 't' :: rest | ' ' :: rest => some rest
  | _ => none

/-- The nanoseconds of a fraction, if there is one. Digits after the ninth do not count. -/
def readFraction : List Char → Option (Nat × List Char)
  | '.' :: rest =>
    match Decimal.splitDigits rest with
    | ([], _) => none
    | (digits, rest) =>
      let kept := digits.take 9
      some (Decimal.value kept * Decimal.tenTo (9 - kept.length), rest)
  | cs => some (0, cs)

/-- The minutes of an offset, after its sign: two digits each for hours and minutes. -/
def readOffset : List Char → Option (Nat × List Char)
  | h :: h' :: rest =>
    match rest.dropWhile fun c => c == ':' || Text.isBlank c with
    | m :: m' :: rest =>
      if h.isDigit && h'.isDigit && m.isDigit && m'.isDigit && m.toNat < '6'.toNat then
        some (60 * Decimal.value [h, h'] + Decimal.value [m, m'], rest)
      else none
    | _ => none
  | _ => none

/-- The offset from universal time, in minutes; less than a day. -/
def readZone (cs : List Char) : Option (Int × List Char) :=
  let signed (negative : Bool) (rest : List Char) : Option (Int × List Char) :=
    match readOffset rest with
    | some (n, rest) => if n < 1440 then some (if negative then -(n : Int) else n, rest) else none
    | none => none
  match cs with
  | 'Z' :: rest | 'z' :: rest => some (0, rest)
  | '+' :: rest => signed false rest
  | '-' :: rest => signed true rest
  -- The minus sign of typography stands for a hyphen.
  | '\u2212' :: rest => signed true rest
  | u :: t :: c :: rest =>
    if u.toUpper = 'U' ∧ t.toUpper = 'T' ∧ c.toUpper = 'C' then some (0, rest) else none
  | _ => none

/-- The timestamp of some characters. -/
def ofChars? (cs : List Char) : Option Timestamp := do
  let (year, cs) ← readYear cs
  let cs ← readMark '-' cs
  let (month, cs) ← readField 2 cs
  let cs ← readMark '-' cs
  let (day, cs) ← readField 2 cs
  let cs ← readTimeMark cs
  let (hour, cs) ← readField 2 cs
  let cs ← readMark ':' cs
  let (minute, cs) ← readField 2 cs
  let cs ← readMark ':' cs
  let (second, cs) ← readField 2 cs
  let (nanosecond, cs) ← readFraction cs
  let (offset, cs) ← readZone (Text.skipBlank cs)
  if (Text.skipBlank cs).isEmpty then
    ofLocal? year month day hour minute second nanosecond offset
  else none

/-- The timestamp of a text. -/
def read? (s : String) : Option Timestamp :=
  ofChars? s.toList

end Timestamp

end Promotion
