/-!
# Timestamps

Points of the calendar in universal time, to the nanosecond.

A timestamp is kept as its calendar fields. It is read from such fields and
written as such fields, so keeping them makes a timestamp and its text the same
thing in two shapes; the only arithmetic is the step over midnight when a local
time is moved to universal time.

A minute may have a sixty-first second: the second field runs to 60. Years are
bounded on both sides, at about a quarter of a million, so a text whose year is
longer than that is no timestamp.

## Main definitions

* `Timestamp`: A point of the calendar.
* `Timestamp.ofFields?`: The timestamp of some fields, if they are one.
* `Timestamp.rank`: The fields as one number; the order of timestamps is that of their ranks.
* `Timestamp.ofLocal?`: The timestamp of a local time and its offset.
-/

namespace Promotion

namespace Timestamp

/-- A year of 366 days. -/
def isLeapYear (year : Int) : Bool :=
  year % 4 == 0 && (year % 100 != 0 || year % 400 == 0)

/-- The days of a month. -/
def daysIn (year : Int) (month : Nat) : Nat :=
  match month with
  | 2 => if isLeapYear year then 29 else 28
  | 4 | 6 | 9 | 11 => 30
  | _ => 31

/-- The first year. -/
def minYear : Int := -262143

/-- The last year. -/
def maxYear : Int := 262142

/-- The fields are a point of the calendar. -/
structure Valid (year : Int) (month day hour minute second nanosecond : Nat) : Prop where
  year_ge : minYear ≤ year
  year_le : year ≤ maxYear
  month_ge : 1 ≤ month
  month_le : month ≤ 12
  day_ge : 1 ≤ day
  day_le : day ≤ daysIn year month
  hour_lt : hour < 24
  minute_lt : minute < 60
  second_le : second ≤ 60
  nanosecond_lt : nanosecond < 1000000000

instance (year : Int) (month day hour minute second nanosecond : Nat) :
    Decidable (Valid year month day hour minute second nanosecond) :=
  decidable_of_iff
    (minYear ≤ year ∧ year ≤ maxYear ∧ 1 ≤ month ∧ month ≤ 12 ∧ 1 ≤ day ∧
      day ≤ daysIn year month ∧ hour < 24 ∧ minute < 60 ∧ second ≤ 60 ∧ nanosecond < 1000000000)
    ⟨fun ⟨a, b, c, d, e, f, g, h, i, j⟩ => ⟨a, b, c, d, e, f, g, h, i, j⟩,
      fun ⟨a, b, c, d, e, f, g, h, i, j⟩ => ⟨a, b, c, d, e, f, g, h, i, j⟩⟩

end Timestamp

/-- A point of the calendar in universal time. -/
structure Timestamp where
  year : Int
  month : Nat
  day : Nat
  hour : Nat
  minute : Nat
  second : Nat
  nanosecond : Nat
  valid : Timestamp.Valid year month day hour minute second nanosecond
  deriving DecidableEq

namespace Timestamp

/-- The timestamp of some fields, if they are one. -/
def ofFields? (year : Int) (month day hour minute second nanosecond : Nat) : Option Timestamp :=
  if h : Valid year month day hour minute second nanosecond then
    some ⟨year, month, day, hour, minute, second, nanosecond, h⟩
  else none

/-- The first instant of 1970. -/
def epoch : Timestamp :=
  ⟨1970, 1, 1, 0, 0, 0, 0, by decide⟩

instance : Inhabited Timestamp := ⟨epoch⟩

/-- The fields read as the digits of one number, each with its own base. -/
def rank (t : Timestamp) : Int :=
  (((((t.year * 12 + (t.month - 1 : Nat)) * 31 + (t.day - 1 : Nat)) * 24 + t.hour) * 60
    + t.minute) * 61 + t.second) * 1000000000 + t.nanosecond

/-- Timestamps are ordered as their ranks: by year, then month, and so on. -/
instance : LE Timestamp := ⟨fun t u => t.rank ≤ u.rank⟩

instance : LT Timestamp := ⟨fun t u => t.rank < u.rank⟩

instance : DecidableLE Timestamp := fun t u => inferInstanceAs (Decidable (t.rank ≤ u.rank))

instance : DecidableLT Timestamp := fun t u => inferInstanceAs (Decidable (t.rank < u.rank))

/-- The day after a day. -/
def nextDay (year : Int) (month day : Nat) : Int × Nat × Nat :=
  if day < daysIn year month then (year, month, day + 1)
  else if month < 12 then (year, month + 1, 1)
  else (year + 1, 1, 1)

/-- The day before a day. -/
def previousDay (year : Int) (month day : Nat) : Int × Nat × Nat :=
  if 1 < day then (year, month, day - 1)
  else if 1 < month then (year, month - 1, daysIn year (month - 1))
  else (year - 1, 12, 31)

/-- The timestamp of a local time that is `offset` minutes ahead of universal time. -/
def ofLocal? (year : Int) (month day hour minute second nanosecond : Nat) (offset : Int) :
    Option Timestamp := do
  let t ← ofFields? year month day hour minute second nanosecond
  let minutes : Int := t.hour * 60 + t.minute - offset
  let (year, month, day) :=
    if minutes < 0 then previousDay t.year t.month t.day
    else if 1440 ≤ minutes then nextDay t.year t.month t.day
    else (t.year, t.month, t.day)
  let ofDay := (minutes % 1440).toNat
  ofFields? year month day (ofDay / 60) (ofDay % 60) t.second t.nanosecond

end Timestamp

end Promotion
