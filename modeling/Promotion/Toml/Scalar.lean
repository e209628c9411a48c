import Promotion.Setting
import Promotion.Text.Hex
import Promotion.Text.Number

/-!
# TOML Scalars

The keys, texts and numbers of a TOML text.

A number may have underscores between its digits, never at an end of them. An
integer has no leading zeros and fits 64 bits; one in another base has a mark
and no sign. Texts come with escapes or without, on one line or on several.

## Main definitions

* `Toml.readText`: A text in quotes of any kind.
* `Toml.readKey`: A key with or without points.
* `Toml.readWord`: A truth value or a number.
-/

namespace Promotion

namespace Toml

/-- The blanks within a line. -/
def isSpace (c : Char) : Bool := c == ' ' || c == '\t'

/-- A text without the blanks it starts with. -/
def skipSpace (cs : List Char) : List Char := cs.dropWhile isSpace

/-- The characters that may not stand in a text or a comment. -/
def isControl (c : Char) : Bool := (c.toNat < 0x20 && c != '\t') || c.toNat == 0x7F

/-- The character of an escape after its backslash, and what follows. -/
def readEscape : List Char → Option (Char × List Char)
  | 'b' :: rest => some ('\x08', rest)
  | 't' :: rest => some ('\t', rest)
  | 'n' :: rest => some ('\n', rest)
  | 'f' :: rest => some ('\x0c', rest)
  | 'r' :: rest => some ('\r', rest)
  | '"' :: rest => some ('"', rest)
  | '\\' :: rest => some ('\\', rest)
  | 'u' :: rest => numeric 4 rest
  | 'U' :: rest => numeric 8 rest
  | _ => none
where
  /-- The character of a code point with so many digits. -/
  numeric (width : Nat) (rest : List Char) : Option (Char × List Char) := do
    let digits := rest.take width
    if digits.length < width then none
    let n ← Hex.number? digits
    if n.isValidChar then some (Char.ofNat n, rest.drop width) else none

/-- The rest of a text on one line after its opening quote, and what follows the closing one. Every
    call takes up a character. -/
def readLine (quote : Char) : Nat → List Char → Option (List Char × List Char)
  | 0, _ => none
  | _, [] => none
  | budget + 1, c :: rest =>
    if c = quote then some ([], rest)
    else if c = '\\' ∧ quote = '"' then
      (readEscape rest).bind fun (e, rest) =>
        (readLine quote budget rest).map fun (cs, rest) => (e :: cs, rest)
    else if isControl c then none
    else (readLine quote budget rest).map fun (cs, rest) => (c :: cs, rest)

/-- A line goes on behind a backslash: the text behind it has blanks and at least one break. -/
def continues? (rest : List Char) : Option (List Char) :=
  match skipSpace rest with
  | '\n' :: rest => some (rest.dropWhile fun c => isSpace c || c == '\n')
  | _ => none

/-- The rest of a text on several lines after its opening quotes, and what follows the closing
    ones. Up to two quotes may stand before the closing three. -/
def readLines (quote : Char) : Nat → List Char → Option (List Char × List Char)
  | 0, _ => none
  | _, [] => none
  | budget + 1, c :: rest =>
    let quotes := ((c :: rest).takeWhile (· == quote)).length
    if 3 ≤ quotes then
      if 5 < quotes then none
      else some (List.replicate (quotes - 3) quote, (c :: rest).drop quotes)
    else if c = '\\' ∧ quote = '"' then
      match continues? rest with
      | some rest => readLines quote budget rest
      | none =>
        (readEscape rest).bind fun (e, rest) =>
          (readLines quote budget rest).map fun (cs, rest) => (e :: cs, rest)
    else if isControl c && c != '\n' then none
    else (readLines quote budget rest).map fun (cs, rest) => (c :: cs, rest)

/-- A text in quotes of any kind, and what follows. A break right behind three quotes is dropped. -/
def readText (cs : List Char) : Option (List Char × List Char) :=
  let budget := cs.length + 1
  match cs with
  | '"' :: '"' :: '"' :: '\n' :: rest => readLines '"' budget rest
  | '"' :: '"' :: '"' :: rest => readLines '"' budget rest
  | '\'' :: '\'' :: '\'' :: '\n' :: rest => readLines '\'' budget rest
  | '\'' :: '\'' :: '\'' :: rest => readLines '\'' budget rest
  | '"' :: rest => readLine '"' budget rest
  | '\'' :: rest => readLine '\'' budget rest
  | _ => none

/-- The characters of a key without quotes. -/
def isKeyChar (c : Char) : Bool := c.isAlphanum || c == '_' || c == '-'

/-- A key up to the next point. -/
def readSimpleKey (cs : List Char) : Option (String × List Char) :=
  match cs with
  | '"' :: rest => (readLine '"' cs.length rest).map fun (key, rest) => (String.ofList key, rest)
  | '\'' :: rest => (readLine '\'' cs.length rest).map fun (key, rest) => (String.ofList key, rest)
  | _ =>
    match cs.span isKeyChar with
    | ([], _) => none
    | (key, rest) => some (String.ofList key, rest)

/-- The parts of a key, with a budget for their number: those before the last, the last, and what
    follows. Blanks may stand around the key and its points. -/
def readKeyParts : Nat → List Char → Option (List String × String × List Char)
  | 0, _ => none
  | budget + 1, cs => do
    let (key, rest) ← readSimpleKey (skipSpace cs)
    match skipSpace rest with
    | '.' :: rest =>
      let (path, last, rest) ← readKeyParts budget rest
      return (key :: path, last, rest)
    | rest => return ([], key, rest)

/-- A key with or without points: its parts before the last, the last, and what follows. -/
def readKey (cs : List Char) : Option (List String × String × List Char) :=
  readKeyParts cs.length cs

/-- The digits of a number without the underscores between them. -/
def plainDigits? (isDigit : Char → Bool) : List Char → Option (List Char)
  | [] => none
  | [c] => if isDigit c then some [c] else none
  | c :: '_' :: rest => if isDigit c then (plainDigits? isDigit rest).map (c :: ·) else none
  | c :: rest => if isDigit c then (plainDigits? isDigit rest).map (c :: ·) else none

/-- The digits do not start with a zero that could be left out. -/
def isMinimal : List Char → Bool
  | '0' :: _ :: _ => false
  | _ => true

/-- The integer that digits behind the mark of a base stand for. -/
def based? (base : Nat) (cs : List Char) : Option Int := do
  let isDigit (c : Char) : Bool := ((Hex.value? c).map fun d => decide (d < base)).getD false
  let digits ← plainDigits? isDigit cs
  let n := digits.foldl (fun n c => base * n + (Hex.value? c).getD 0) 0
  Text.fitInteger? false n

/-- The integer that a word stands for. -/
def integer? (cs : List Char) : Option Int :=
  match cs with
  | '0' :: 'x' :: digits => based? 16 digits
  | '0' :: 'o' :: digits => based? 8 digits
  | '0' :: 'b' :: digits => based? 2 digits
  | _ =>
    let (negative, digits) := Text.splitSign cs
    (plainDigits? Char.isDigit digits).bind fun digits =>
      if isMinimal digits then Text.fitInteger? negative (Decimal.value digits) else none

/-- The digits with their underscores that a text starts with, and what follows. -/
def spanDigits (cs : List Char) : List Char × List Char :=
  cs.span fun c => c.isDigit || c == '_'

/-- The double that a word stands for: with a point between digits, an exponent, or both; or a name
    of infinity or of no number. -/
def real? (cs : List Char) : Option Float := do
  let (negative, rest) := Text.splitSign cs
  match rest with
  | ['i', 'n', 'f'] | ['n', 'a', 'n'] => Text.real? cs
  | _ =>
    let (whole, rest) := spanDigits rest
    let whole ← plainDigits? Char.isDigit whole
    if !isMinimal whole || rest.isEmpty then none
    let (fraction, rest) ← match rest with
      | '.' :: rest =>
        let (fraction, rest) := spanDigits rest
        (plainDigits? Char.isDigit fraction).map fun fraction => ('.' :: fraction, rest)
      | rest => some ([], rest)
    let exponent ← match rest with
      | [] => some []
      | c :: rest =>
        if c = 'e' ∨ c = 'E' then
          let (minus, digits) := Text.splitSign rest
          (plainDigits? Char.isDigit digits).map fun digits =>
            'e' :: (if minus then '-' :: digits else digits)
        else none
    let x ← Text.scaled? negative (whole ++ fraction ++ exponent)
    if x.isInf then none else some x

/-- The characters of a truth value or a number. -/
def isWordChar (c : Char) : Bool :=
  c.isAlphanum || c == '_' || c == '-' || c == '+' || c == '.'

/-- A truth value or a number, and what follows. -/
def readWord (cs : List Char) : Option (Setting × List Char) :=
  let (word, rest) := cs.span isWordChar
  let value : Option Setting := match word with
    | ['t', 'r', 'u', 'e'] => some (.bool true)
    | ['f', 'a', 'l', 's', 'e'] => some (.bool false)
    | word => (integer? word).map Setting.integer <|> (real? word).map Setting.real
  value.map (·, rest)

end Toml

end Promotion
