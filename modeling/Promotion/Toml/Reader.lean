import Promotion.Toml.Scalar
import Promotion.Toml.Tree

/-!
# Reading TOML

The table of a TOML text.

The text is a run of statements, one a line: a header, or a key and its value.
Each is handed to the tree as it comes, so a text that says something twice is
refused at the place where it does. Dates and times are not among the values
that settings have.

Nesting is followed with a budget. Every call takes up a character or hands its
text on to one that does, so three times the length of the text is enough, and
`read?` shows no budget.

## Main definitions

* `Toml.readValue`: A value at the start of a text.
* `Toml.Statement`, `Toml.readStatement`: A header, or a key and its value.
* `Toml.read?`: The table of a whole text.
-/

namespace Promotion

namespace Toml

/-- Skips blanks, line breaks and comments; `comment` says that the text starts in a comment. None
    if a comment holds a character that may not stand in one. -/
def skipGap (comment : Bool) : List Char → Option (List Char)
  | [] => some []
  | c :: rest =>
    if c = '\n' then skipGap false rest
    else if comment then (if isControl c then none else skipGap true rest)
    else if c = '#' then skipGap true rest
    else if isSpace c then skipGap false rest
    else some (c :: rest)

/-- Skips the rest of a line, which has nothing but blanks and a comment. -/
def skipLine (cs : List Char) : Option (List Char) :=
  match skipSpace cs with
  | [] => some []
  | '\n' :: rest => some rest
  | '#' :: rest =>
    if (rest.takeWhile (· != '\n')).any isControl then none
    else some ((rest.dropWhile (· != '\n')).drop 1)
  | _ => none

mutual

/-- A value at the start of a text, and what follows. -/
def readValue : Nat → List Char → Option (Setting × List Char)
  | 0, _ => none
  | budget + 1, cs =>
    match cs with
    | '"' :: _ | '\'' :: _ =>
      (readText cs).map fun (text, rest) => (.text (String.ofList text), rest)
    | '[' :: rest =>
      (readElements budget rest).map fun (elements, rest) => (.list elements, rest)
    | '{' :: rest =>
      match skipSpace rest with
      | '}' :: rest => some (.table [], rest)
      | rest =>
        (readEntries [] budget rest).map fun (es, rest) => (.table (entriesToSettings es), rest)
    | cs => readWord cs

/-- The elements of an array up to its closing bracket. -/
def readElements : Nat → List Char → Option (List Setting × List Char)
  | 0, _ => none
  | budget + 1, cs => do
    match ← skipGap false cs with
    | ']' :: rest => return ([], rest)
    | cs =>
      let (value, rest) ← readValue budget cs
      match ← skipGap false rest with
      | ',' :: rest =>
        let (values, rest) ← readElements budget rest
        return (value :: values, rest)
      | ']' :: rest => return ([value], rest)
      | _ => none

/-- The entries of an inline table up to its closing brace, after those in `es`. -/
def readEntries (es : Entries) : Nat → List Char → Option (Entries × List Char)
  | 0, _ => none
  | budget + 1, cs => do
    let (path, key, rest) ← readKey cs
    match rest with
    | '=' :: rest =>
      let (value, rest) ← readValue budget (skipSpace rest)
      let es ← assign? [] path key value es
      match skipSpace rest with
      | ',' :: rest => readEntries es budget rest
      | '}' :: rest => return (es, rest)
      | _ => none
    | _ => none

end

/-- One statement. -/
inductive Statement where
  /-- What follows belongs to this table. -/
  | header (path : List String) (key : String)
  /-- What follows belongs to one more table of this array. -/
  | element (path : List String) (key : String)
  | entry (path : List String) (key : String) (value : Setting)

/-- A statement at the start of a text, and what follows its line. -/
def readStatement (cs : List Char) : Option (Statement × List Char) := do
  match cs with
  | '[' :: '[' :: rest =>
    let (path, key, rest) ← readKey rest
    match rest with
    | ']' :: ']' :: rest => return (.element path key, ← skipLine rest)
    | _ => none
  | '[' :: rest =>
    let (path, key, rest) ← readKey rest
    match rest with
    | ']' :: rest => return (.header path key, ← skipLine rest)
    | _ => none
  | _ =>
    let (path, key, rest) ← readKey cs
    match rest with
    | '=' :: rest =>
      let (value, rest) ← readValue (3 * rest.length + 3) (skipSpace rest)
      return (.entry path key value, ← skipLine rest)
    | _ => none

/-- The tree of the statements of a text after the tree `root`, where `header` is the table that
    entries belong to. Every statement takes up a character. -/
def build? : Nat → List String → Entries → List Char → Option Entries
  | 0, _, _, _ => none
  | budget + 1, header, root, cs => do
    match ← skipGap false cs with
    | [] => return root
    | cs =>
      let (statement, rest) ← readStatement cs
      match statement with
      | .header path key =>
        let root ← openTable? path key root
        build? budget (path ++ [key]) root rest
      | .element path key =>
        let root ← openElement? path key root
        build? budget (path ++ [key]) root rest
      | .entry path key value =>
        let root ← assign? header path key value root
        build? budget header root rest

/-- The text with one kind of line break. -/
def normalize : List Char → List Char
  | '\r' :: '\n' :: rest => '\n' :: normalize rest
  | c :: rest => c :: normalize rest
  | [] => []

/-- The table of a whole text. -/
def read? (text : String) : Option Setting :=
  let cs := normalize text.toList
  (build? (cs.length + 1) [] [] cs).map fun es => .table (entriesToSettings es)

end Toml

end Promotion
