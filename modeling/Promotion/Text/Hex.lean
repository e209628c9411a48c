/-!
# Hexadecimal Text

Bytes and numbers as hexadecimal digits. Writing is in lower case; reading takes
either case.

## Main definitions

* `Hex.digit`: The digit of a number below sixteen.
* `Hex.value?`: The number that a digit of either case stands for.
* `Hex.ofByte`, `Hex.ofBytes`: Two digits per byte.
* `Hex.number?`: The number that a run of digits stands for.
-/

namespace Promotion

namespace Hex

/-- The digit of a number below sixteen. -/
def digit (n : Nat) : Char :=
  if n < 10 then Char.ofNat (48 + n) else Char.ofNat (87 + n)

/-- The number that a digit of either case stands for. -/
def value? (c : Char) : Option Nat :=
  if '0' ≤ c ∧ c ≤ '9' then some (c.toNat - 48)
  else if 'a' ≤ c ∧ c ≤ 'f' then some (c.toNat - 87)
  else if 'A' ≤ c ∧ c ≤ 'F' then some (c.toNat - 55)
  else none

/-- The two digits of a byte. -/
def ofByte (b : UInt8) : List Char :=
  [digit (b.toNat / 16), digit (b.toNat % 16)]

/-- Two digits per byte. -/
def ofBytes (bytes : List UInt8) : String :=
  String.ofList (bytes.flatMap ofByte)

/-- The number that a run of digits stands for; none if any is no digit. -/
def number? (cs : List Char) : Option Nat :=
  cs.foldlM (fun n c => (value? c).map (16 * n + ·)) 0

/-- The bytes that pairs of digits stand for. -/
def bytes? : List Char → Option (List UInt8)
  | [] => some []
  | [_] => none
  | a :: b :: r => do
    let n ← number? [a, b]
    let rest ← bytes? r
    return UInt8.ofNat n :: rest

end Hex

end Promotion
