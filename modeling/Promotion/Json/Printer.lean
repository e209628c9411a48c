import Promotion.Json
import Promotion.Text.Decimal
import Promotion.Text.Hex

/-!
# Writing JSON

The compact text of a value: no blanks between tokens, members in their order.

In a text, the quote and the backslash are escaped, the control characters with
an escape of their own have it, the other control characters below the space
are written as `\u00xx`, and every other character stands as it is. An audit
entry's hash is taken over such a text, so the choice of escapes is part of
what the hash commits to.

## Main definitions

* `Json.escape`: A character as it stands between quotes.
* `Json.quoted`: A text between quotes.
* `Json.print`: The characters of a value's compact text.
* `Json.compact`: The compact text of a value.
* `Json.ascii`: The same with all characters beyond ASCII escaped.
-/

namespace Promotion

namespace Json

/-- A character as it stands between quotes. -/
def escape (c : Char) : List Char :=
  if c = '"' then ['\\', '"']
  else if c = '\\' then ['\\', '\\']
  else if c = '\x08' then ['\\', 'b']
  else if c = '\x0c' then ['\\', 'f']
  else if c = '\n' then ['\\', 'n']
  else if c = '\r' then ['\\', 'r']
  else if c = '\t' then ['\\', 't']
  else if c.toNat < 0x20 then
    ['\\', 'u', '0', '0', Hex.digit (c.toNat / 16), Hex.digit (c.toNat % 16)]
  else [c]

/-- A text between quotes. -/
def quoted (s : String) : List Char :=
  '"' :: s.toList.flatMap escape ++ ['"']

/-- A number as it is spelt. A scaled number is written with an exponent. -/
def Number.print : Number → List Char
  | .natural n => Decimal.numeral n
  | .negated n => '-' :: Decimal.numeral n
  | .scaled negative mantissa exponent =>
    (if negative then ['-'] else []) ++ Decimal.numeral mantissa ++
      'e' :: (if exponent < 0 then '-' :: Decimal.numeral exponent.natAbs
        else Decimal.numeral exponent.natAbs)

mutual

/-- The characters of a value's compact text. -/
def print : Json → List Char
  | .null => ['n', 'u', 'l', 'l']
  | .bool true => ['t', 'r', 'u', 'e']
  | .bool false => ['f', 'a', 'l', 's', 'e']
  | .number n => n.print
  | .string s => quoted s
  | .array [] => ['[', ']']
  | .array (v :: rest) => '[' :: (print v ++ printElements rest)
  | .object [] => ['{', '}']
  | .object ((k, v) :: rest) => '{' :: (quoted k ++ ':' :: (print v ++ printMembers rest))
  -- No library value is written with an unreadable part; a lone surrogate stands for it.
  | .unreadable => ['"', '\\', 'u', 'd', '8', '0', '0', '"']

/-- The elements after the first, each behind its comma, and the closing bracket. -/
def printElements : List Json → List Char
  | [] => [']']
  | v :: rest => ',' :: (print v ++ printElements rest)

/-- The members after the first, each behind its comma, and the closing brace. -/
def printMembers : List (String × Json) → List Char
  | [] => ['}']
  | (k, v) :: rest => ',' :: (quoted k ++ ':' :: (print v ++ printMembers rest))

end

/-- The compact text of a value. -/
def compact (v : Json) : String :=
  String.ofList v.print

/-- The escape of a number of 16 bits. -/
def escapeUnit (n : Nat) : List Char :=
  '\\' :: 'u' :: (Hex.ofByte (UInt8.ofNat (n / 256)) ++ Hex.ofByte (UInt8.ofNat (n % 256)))

/-- A character as it is, or its escape if it is beyond ASCII. -/
def escapeWide (c : Char) : List Char :=
  let n := c.toNat
  if n < 0x80 then [c]
  else if n < 0x10000 then escapeUnit n
  else escapeUnit (0xD800 + (n - 0x10000) / 1024) ++ escapeUnit (0xDC00 + (n - 0x10000) % 1024)

/-- The compact text of a value in ASCII, for channels that carry nothing else. Characters beyond
    it stand between quotes only, so each can be escaped where it stands. -/
def ascii (v : Json) : String :=
  String.ofList (v.print.flatMap escapeWide)

end Json

end Promotion
