import Promotion.Setting
import Promotion.Text.Hex
import Promotion.Text.Number

/-!
# YAML Scalars

What the scalars of a YAML text stand for.

A scalar without quotes is whatever its word looks like: nothing, a truth
value, a number, or else a text. A scalar with quotes, or one written as a
block, is a text whatever it looks like. A tag can ask for a kind; a word that
is not of that kind then stands for nothing.

A text that goes over several lines is folded: a single line break is a space,
and of several the first is dropped.

## Main definitions

* `Yaml.resolve`: What a word without quotes stands for.
* `Yaml.Tag`: The kind that is asked for.
* `Yaml.readQuoted`: The rest of a quoted scalar after its opening quote.
* `Yaml.Chomp`, `Yaml.joinLines`: The text of a scalar written as a block.
-/

namespace Promotion

namespace Yaml

/-- The blanks within a line. -/
def isSpace (c : Char) : Bool := c == ' ' || c == '\t'

/-- The blanks within a line and the line break. -/
def isGap (c : Char) : Bool := isSpace c || c == '\n'

/-- The number of a run of digits in a base of at most sixteen, with a sign or without. -/
def based? (base : Nat) (cs : List Char) : Option Int :=
  let (negative, digits) := Text.splitSign cs
  if digits.isEmpty then none
  else
    let n? := digits.foldlM (fun n c =>
      (Hex.value? c).bind fun d => if d < base then some (base * n + d) else none) 0
    n?.bind (Text.fitInteger? negative)

/-- The double that a word with a digit in it stands for, or that a name of YAML's own does. -/
def real? (cs : List Char) : Option Float :=
  if cs.any Char.isDigit then Text.real? cs else none

/-- A name of an infinity or of no number. Settings have no such numbers. -/
def isUnbounded (s : String) : Bool :=
  [".inf", ".Inf", ".INF", "+.inf", "+.Inf", "+.INF", "-.inf", "-.Inf", "-.INF",
    ".nan", ".NAN"].contains s

/-- The integer that a word stands for: a decimal, or sixteens or eights behind their mark. -/
def integer? : List Char → Option Int
  | '0' :: 'x' :: digits => based? 16 digits
  | '0' :: 'o' :: digits => based? 8 digits
  | cs => Text.integer? cs

/-- What a word without quotes stands for; none if it is a number that settings cannot have. -/
def resolve (s : String) : Option Setting :=
  if s = "~" ∨ s = "null" then some .nothing
  else if s = "true" then some (.bool true)
  else if s = "false" then some (.bool false)
  else
    match integer? s.toList, real? s.toList with
    | some i, _ => some (.integer i)
    | none, some x => some (.real x)
    | none, none =>
      if isUnbounded s then none
      -- The name without a point is read as no number wherever doubles are read.
      else if s = "NaN" then some (.real (0.0 / 0.0))
      else some (.text s)

/-- The kind that a tag asks for. -/
inductive Tag where
  | bool
  | integer
  | real
  | nothing
  /-- Any other tag: the word stays a text. -/
  | other
  deriving DecidableEq, Repr

/-- The kind that the characters of a tag after its first mark ask for. -/
def Tag.ofChars (cs : List Char) : Tag :=
  match String.ofList cs with
  | "!bool" => .bool
  | "!int" => .integer
  | "!float" => .real
  | "!null" => .nothing
  | _ => .other

/-- What a word without quotes stands for under a tag. -/
def Tag.resolve (tag : Tag) (s : String) : Option Setting :=
  match tag with
  | .bool =>
    some (if s = "true" then .bool true else if s = "false" then .bool false else .nothing)
  | .integer => some ((Text.integer? s.toList).elim .nothing .integer)
  | .real => if isUnbounded s then none else some ((Yaml.real? s.toList).elim .nothing .real)
  | .nothing => some .nothing
  | .other => some (.text s)

/-- What follows some blanks and line breaks: the number of breaks, the column, and the rest. -/
def skipBreaks : Nat → Nat → List Char → Nat × Nat × List Char
  | breaks, column, [] => (breaks, column, [])
  | breaks, column, c :: rest =>
    if c = '\n' then skipBreaks (breaks + 1) 0 rest
    else if isSpace c then skipBreaks breaks (column + 1) rest
    else (breaks, column, c :: rest)

/-- What some line breaks in a folded text stand for. -/
def foldBreaks (breaks : Nat) : List Char :=
  if breaks = 1 then [' '] else List.replicate (breaks - 1) '\n'

/-- The character that a one-letter escape stands for. -/
def unescape? (c : Char) : Option Char :=
  match c with
  | '0' => some '\x00'
  | 'a' => some '\x07'
  | 'b' => some '\x08'
  | 't' | '\t' => some '\t'
  | 'n' => some '\n'
  | 'v' => some '\x0b'
  | 'f' => some '\x0c'
  | 'r' => some '\r'
  | 'e' => some '\x1b'
  | ' ' => some ' '
  | '"' => some '"'
  | '/' => some '/'
  | '\\' => some '\\'
  | 'N' => some '\u0085'
  | '_' => some '\u00a0'
  | 'L' => some '\u2028'
  | 'P' => some '\u2029'
  | _ => none

/-- The number of digits of a numeric escape. -/
def escapeWidth? (c : Char) : Option Nat :=
  match c with
  | 'x' => some 2
  | 'u' => some 4
  | 'U' => some 8
  | _ => none

/-- The character of a code point, if there is one. -/
def charOf? (n : Nat) : Option Char :=
  if n.isValidChar then some (Char.ofNat n) else none

/-- The character of an escape after its backslash, and what follows. -/
def readEscape (cs : List Char) : Option (Char × List Char) :=
  match cs with
  | [] => none
  | c :: rest =>
    match escapeWidth? c with
    | some width => do
      let digits := rest.take width
      if digits.length < width then none
      let n ← Hex.number? digits
      let e ← charOf? n
      return (e, rest.drop width)
    | none => (unescape? c).map (·, rest)

/-- The rest of a quoted scalar after its opening quote, and what follows the closing one. A line
    that goes on has to start at the column `least` or after it. Every call takes up a character, so
    the length of the text is budget enough. -/
def readQuoted (double : Bool) (least : Nat) : Nat → List Char → Option (List Char × List Char)
  | 0, _ => none
  | _, [] => none
  | budget + 1, c :: rest =>
    let goOn (taken : List Char) (rest : List Char) : Option (List Char × List Char) :=
      (readQuoted double least budget rest).map fun (cs, rest) => (taken ++ cs, rest)
    if c = '"' ∧ double then some ([], rest)
    else if c = '\'' ∧ !double then
      match rest with
      | '\'' :: rest => goOn ['\''] rest
      | rest => some ([], rest)
    else if c = '\\' ∧ double then
      match rest with
      | '\n' :: rest =>
        let (breaks, column, rest) := skipBreaks 1 0 rest
        if column < least then none else goOn (List.replicate (breaks - 1) '\n') rest
      | rest => (readEscape rest).bind fun (e, rest) => goOn [e] rest
    else if isGap c then
      match skipBreaks 0 0 (c :: rest) with
      | (0, _, _) => goOn [c] rest
      | (breaks, column, rest) =>
        if column < least ∧ !rest.isEmpty then none else goOn (foldBreaks breaks) rest
    else goOn [c] rest

/-- What becomes of the line breaks at the end of a scalar written as a block. -/
inductive Chomp where
  /-- All are dropped. -/
  | strip
  /-- One is kept. -/
  | clip
  /-- All are kept. -/
  | keep
  deriving DecidableEq, Repr

/-- A line with nothing but blanks on it, or none. -/
def isBlankLine (line : List Char) : Bool := line.all (· == ' ')

/-- The line starts with a blank. -/
def isIndented : List Char → Bool
  | c :: _ => isSpace c
  | [] => false

/-- The lines of a block after the line `last`, with the empty lines since then. Where lines are
    folded, the break between two lines that do not start with a blank is a space. -/
def joinAfter (folded : Bool) (last : List Char) (breaks : Nat) : List (List Char) → List Char
  | [] => []
  | [] :: rest => joinAfter folded last (breaks + 1) rest
  | line :: rest =>
    let between :=
      if folded && !isIndented last && !isIndented line then
        (if breaks = 0 then [' '] else List.replicate breaks '\n')
      else List.replicate (breaks + 1) '\n'
    between ++ line ++ joinAfter folded line 0 rest

/-- The lines of a block up to its last one that is not empty. -/
def joinLines (folded : Bool) : List (List Char) → List Char
  | [] => []
  | [] :: rest => '\n' :: joinLines folded rest
  | line :: rest => line ++ joinAfter folded line 0 rest

/-- The text of a scalar written as a block, from its lines without their indentation. -/
def blockText (folded : Bool) (chomp : Chomp) (lines : List (List Char)) : List Char :=
  let trailing := (lines.reverse.takeWhile List.isEmpty).length
  let body := joinLines folded (lines.take (lines.length - trailing))
  match chomp with
  | .strip => body
  | .clip => if lines.length = trailing then body else body ++ ['\n']
  | .keep =>
    body ++ List.replicate (if lines.length = trailing then trailing else trailing + 1) '\n'

end Yaml

end Promotion
