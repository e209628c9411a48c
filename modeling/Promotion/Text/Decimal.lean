/-!
# Decimal Numerals

Natural numbers as runs of decimal digits.

Every format in this library that holds a number holds it in decimal, and all
of them write it the same way: no sign, no leading zeros unless the field has a
fixed width. Reading takes any run of digits; `value_numeral` is the fact the
readers rest on.

## Main definitions

* `numeral`: The digits of a number, without leading zeros.
* `padded`: The digits of a number, with leading zeros up to a width.
* `value`: The number that a run of digits stands for.
* `splitDigits`: The digits a text starts with, and what follows them.
* `tenTo`: Ten to a power.

## Theorems

* `value_numeral`: A numeral stands for the number it was written from.
-/

namespace Promotion

namespace Decimal

/-- The digits of a number, without leading zeros. -/
def numeral (n : Nat) : List Char :=
  Nat.toDigits 10 n

/-- The digits of a number, with leading zeros up to a width. -/
def padded (width n : Nat) : List Char :=
  List.replicate (width - (numeral n).length) '0' ++ numeral n

/-- The number that a run of digits stands for. -/
def value (digits : List Char) : Nat :=
  Nat.ofDigitChars 10 digits 0

/-- The digits a text starts with, and what follows them. -/
def splitDigits (cs : List Char) : List Char × List Char :=
  (cs.takeWhile Char.isDigit, cs.dropWhile Char.isDigit)

/-- The text of a number. -/
def text (n : Nat) : String :=
  String.ofList (numeral n)

/-- Ten to a power. -/
def tenTo (k : Nat) : Nat :=
  Nat.pow 10 k

/-- A numeral stands for the number it was written from. -/
theorem value_numeral (n : Nat) : value (numeral n) = n :=
  Nat.ofDigitChars_toDigits (by decide) (by decide)

/-- A numeral has digits only. -/
theorem isDigit_of_mem_numeral {n : Nat} {c : Char} (h : c ∈ numeral n) : c.isDigit = true :=
  Nat.isDigit_of_mem_toDigits (by decide) (by decide) h

end Decimal

end Promotion
