import Promotion.Json
import Promotion.Text.Decimal
import Promotion.Text.Hex

/-!
# Reading JSON

The value of a JSON text, or none if the text is no single JSON value.

The grammar is that of the standard and no more: no comments, no trailing
commas, no leading zeros, no control characters between quotes. Blanks are the
four of the grammar. A surrogate escape stands for a character only together
with its partner; alone it makes the value unreadable but not ill formed.

Nesting is followed with a budget. Every call consumes a character or hands its
text on to one that does, so twice the length of the text is enough, and `read`
shows no budget.

## Main definitions

* `Json.skipSpace`: A text without the blanks it starts with.
* `Json.readText`: The rest of a text after its opening quote.
* `Json.readNumber`: A number at the start of a text.
* `Json.readValue`: A value at the start of a text.
* `Json.read`: The value of a whole text.
-/

namespace Promotion

namespace Json

/-- The blanks of the grammar. -/
def isSpace (c : Char) : Bool :=
  c == ' ' || c == '\n' || c == '\r' || c == '\t'

/-- A text without the blanks it starts with. -/
def skipSpace (cs : List Char) : List Char :=
  cs.dropWhile isSpace

/-- The character that a one-letter escape stands for. -/
def unescape? (c : Char) : Option Char :=
  match c with
  | '"' => some '"'
  | '\\' => some '\\'
  | '/' => some '/'
  | 'b' => some '\x08'
  | 'f' => some '\x0c'
  | 'n' => some '\n'
  | 'r' => some '\r'
  | 't' => some '\t'
  | _ => none

/-- The first half of a surrogate pair. -/
def isHighSurrogate (n : Nat) : Bool := 0xD800 ≤ n && n ≤ 0xDBFF

/-- The second half of a surrogate pair. -/
def isLowSurrogate (n : Nat) : Bool := 0xDC00 ≤ n && n ≤ 0xDFFF

/-- The character of a surrogate pair. -/
def joinSurrogates (high low : Nat) : Char :=
  Char.ofNat (0x10000 + (high - 0xD800) * 0x400 + (low - 0xDC00))

/-- What one step through a text yields: a character, or half of one. -/
inductive TextUnit where
  | char (c : Char)
  | half (surrogate : Nat)

/-- The unit that a numeric escape stands for. -/
def TextUnit.ofNat (n : Nat) : TextUnit :=
  if isHighSurrogate n || isLowSurrogate n then .half n else .char (Char.ofNat n)

/-- The text of some units; none if a half lacks its partner. -/
def joinUnits : List TextUnit → Option (List Char)
  | [] => some []
  | .char c :: rest => (joinUnits rest).map (c :: ·)
  | .half high :: .half low :: rest =>
    if isHighSurrogate high && isLowSurrogate low then
      (joinUnits rest).map (joinSurrogates high low :: ·)
    else none
  | .half _ :: _ => none

/-- Puts a unit in front of those read after it. -/
def consUnit (u : TextUnit) (r : List TextUnit × List Char) : List TextUnit × List Char :=
  (u :: r.1, r.2)

/-- The units of a text after its opening quote, and what follows the closing one. -/
def readUnits : List Char → Option (List TextUnit × List Char)
  | [] => none
  | '"' :: rest => some ([], rest)
  | '\\' :: 'u' :: a :: b :: c :: d :: rest =>
    match Hex.number? [a, b, c, d] with
    | none => none
    | some n => (readUnits rest).map (consUnit (.ofNat n))
  | '\\' :: c :: rest =>
    match unescape? c with
    | none => none
    | some e => (readUnits rest).map (consUnit (.char e))
  | c :: rest =>
    if c.toNat < 0x20 ∨ c = '\\' then none else (readUnits rest).map (consUnit (.char c))

/-- The rest of a text after its opening quote, and what follows the closing one. The text is
    none if a surrogate in it lacks its partner. -/
def readText (cs : List Char) : Option (Option (List Char) × List Char) :=
  (readUnits cs).map fun (units, rest) => (joinUnits units, rest)

/-- The exponent after its letter, and what follows. -/
def readExponent (cs : List Char) : Option (Int × List Char) :=
  let (negative, cs) : Bool × List Char :=
    match cs with
    | '-' :: rest => (true, rest)
    | '+' :: rest => (false, rest)
    | _ => (false, cs)
  match Decimal.splitDigits cs with
  | ([], _) => none
  | (digits, rest) =>
    let n : Int := Decimal.value digits
    some (if negative then -n else n, rest)

/-- What may follow the digits before the point: a fraction, an exponent, both or neither. -/
def readScale (negative : Bool) (digits rest : List Char) : Option (Number × List Char) :=
  match rest with
  | '.' :: rest =>
    match Decimal.splitDigits rest with
    | ([], _) => none
    | (fraction, rest) =>
      let mantissa := Decimal.value (digits ++ fraction)
      let places : Int := fraction.length
      match rest with
      | 'e' :: rest | 'E' :: rest =>
        (readExponent rest).map fun (e, rest) => (.scaled negative mantissa (e - places), rest)
      | rest => some (.scaled negative mantissa (-places), rest)
  | 'e' :: rest | 'E' :: rest =>
    (readExponent rest).map fun (e, rest) => (.scaled negative (Decimal.value digits) e, rest)
  | rest =>
    let n := Decimal.value digits
    some (if negative then .negated n else .natural n, rest)

/-- A number at the start of a text, and what follows. -/
def readNumber (cs : List Char) : Option (Number × List Char) :=
  let (negative, cs) : Bool × List Char :=
    match cs with
    | '-' :: rest => (true, rest)
    | _ => (false, cs)
  match Decimal.splitDigits cs with
  | ([], _) => none
  | ('0' :: _ :: _, _) => none
  | (digits, rest) => readScale negative digits rest

/-- An object of its members; unreadable if the name of one is. -/
def ofMembers (members : List (Option String × Json)) : Json :=
  match members.mapM fun (k, v) => k.map (·, v) with
  | some members => .object members
  | none => .unreadable

mutual

/-- A value at the start of a text, and what follows. -/
def readValue : Nat → List Char → Option (Json × List Char)
  | 0, _ => none
  | budget + 1, cs =>
    match skipSpace cs with
    | 'n' :: 'u' :: 'l' :: 'l' :: rest => some (.null, rest)
    | 't' :: 'r' :: 'u' :: 'e' :: rest => some (.bool true, rest)
    | 'f' :: 'a' :: 'l' :: 's' :: 'e' :: rest => some (.bool false, rest)
    | '"' :: rest =>
      (readText rest).map fun (text, rest) =>
        (text.elim .unreadable fun cs => .string (String.ofList cs), rest)
    | '[' :: rest =>
      match skipSpace rest with
      | ']' :: rest => some (.array [], rest)
      | rest => (readElements budget rest).map fun (vs, rest) => (.array vs, rest)
    | '{' :: rest =>
      match skipSpace rest with
      | '}' :: rest => some (.object [], rest)
      | rest => (readMembers budget rest).map fun (ms, rest) => (ofMembers ms, rest)
    | cs => (readNumber cs).map fun (n, rest) => (.number n, rest)

/-- The elements of an array up to its closing bracket, at least one. -/
def readElements : Nat → List Char → Option (List Json × List Char)
  | 0, _ => none
  | budget + 1, cs =>
    match readValue budget cs with
    | none => none
    | some (v, rest) =>
      match skipSpace rest with
      | ',' :: rest => (readElements budget rest).map fun (vs, rest) => (v :: vs, rest)
      | ']' :: rest => some ([v], rest)
      | _ => none

/-- The members of an object up to its closing brace, at least one. -/
def readMembers : Nat → List Char → Option (List (Option String × Json) × List Char)
  | 0, _ => none
  | budget + 1, cs =>
    match skipSpace cs with
    | '"' :: rest =>
      match readText rest with
      | none => none
      | some (key, rest) =>
        match skipSpace rest with
        | ':' :: rest =>
          match readValue budget rest with
          | none => none
          | some (v, rest) =>
            let member := (key.map String.ofList, v)
            match skipSpace rest with
            | ',' :: rest => (readMembers budget rest).map fun (ms, rest) => (member :: ms, rest)
            | '}' :: rest => some ([member], rest)
            | _ => none
        | _ => none
    | _ => none

end

/-- The value of a whole text; blanks may stand around it. -/
def readChars (cs : List Char) : Option Json :=
  match readValue (2 * cs.length + 2) cs with
  | some (v, rest) => if (skipSpace rest).isEmpty then some v else none
  | none => none

/-- The value of a whole text. -/
def read (s : String) : Option Json :=
  readChars s.toList

end Json

end Promotion
