import Promotion.Yaml.Scalar

/-!
# Reading YAML

The value of a YAML text with one document in it.

Structure is a matter of columns. The entries of a block stand in one column,
and what belongs to an entry stands to the right of it; only the list that is
the value of a key may stand in the column of the key. So a block is read as
long as the next token starts in its column, and whoever began an outer block
looks at the column after that. A token in nobody's column is left over at the
end, where it is an error.

A block can begin at the first token of a line or right behind the dash of a
list. Brackets and braces begin values that heed no columns but must not stand
left of the block they are in.

Nesting is followed with a budget. Between two calls that take up a character
there are fewer than eight others, so eight times the length of the text is
enough, and `read?` shows no budget.

## Main definitions

* `Yaml.State`: What is left to read, and where it stands.
* `Yaml.readNode`, `Yaml.readFlow`: A value outside brackets and inside them.
* `Yaml.read?`: The value of a whole text.
-/

namespace Promotion

namespace Yaml

/-- What is left to read, and where it stands. -/
structure State where
  rest : List Char
  /-- The characters before it on its line. -/
  column : Nat
  /-- Nothing but blanks is before it on its line. -/
  fresh : Bool
  /-- A tab is among the blanks before it. -/
  tabbed : Bool
  /-- The values that have been named so far, the latest first. -/
  anchors : List (String × Setting)

namespace State

/-- The state at the start of a text. -/
def start (cs : List Char) : State := ⟨cs, 0, true, false, []⟩

/-- The column after some characters. -/
def columnAfter (column : Nat) (cs : List Char) : Nat :=
  cs.foldl (fun n c => if c = '\n' then 0 else n + 1) column

/-- The state after some more characters of a token. -/
def advance (s : State) (count : Nat) : State :=
  { s with
    rest := s.rest.drop count
    column := columnAfter s.column (s.rest.take count)
    fresh := false
    tabbed := false }

/-- The state where a token has left `rest`. -/
def leave (s : State) (rest : List Char) : State :=
  s.advance (s.rest.length - rest.length)

/-- Skips blanks, line breaks and comments. A comment starts at the start of a line or behind a
    blank; `spaced` says that the text does, and `comment` that it starts in one. -/
def skipFrom (comment spaced : Bool) (s : State) : List Char → State
  | [] => { s with rest := [] }
  | c :: rest =>
    let next := { s with column := s.column + 1 }
    if c = '\n' then
      skipFrom false true { s with column := 0, fresh := true, tabbed := false } rest
    else if comment then skipFrom true true next rest
    else if c = '#' ∧ spaced then skipFrom true true next rest
    else if c = ' ' then skipFrom false true next rest
    else if c = '\t' then skipFrom false true { next with tabbed := true } rest
    else { s with rest := c :: rest }

/-- Skips blanks, line breaks and comments after a token. -/
def skip (s : State) : State := s.skipFrom false s.fresh s.rest

/-- The text starts with a mark that stands alone. -/
def startsWord (mark : List Char) (cs : List Char) : Bool :=
  mark.isPrefixOf cs && ((cs.drop mark.length).head?.elim true isGap)

/-- The state is where a document begins or ends. -/
def atMarker (s : State) : Bool :=
  s.column = 0 && (startsWord ['-', '-', '-'] s.rest || startsWord ['.', '.', '.'] s.rest)

/-- Nothing is left of the document. -/
def atEnd (s : State) : Bool := s.rest.isEmpty || s.atMarker

/-- The state is at the dash of a list. -/
def atDash (s : State) : Bool := startsWord ['-'] s.rest

/-- Remembers a value under a name. -/
def remember (s : State) (name : String) (value : Setting) : State :=
  { s with anchors := (name, value) :: s.anchors }

end State

/-- The marks of brackets and braces, which end a word inside them. -/
def isFlowMark (c : Char) : Bool :=
  c == ',' || c == '[' || c == ']' || c == '{' || c == '}'

/-- A colon before the text ends a word: the text starts with a gap, or with a mark inside
    brackets. -/
def endsKey (flow : Bool) : List Char → Bool
  | [] => true
  | c :: _ => isGap c || (flow && isFlowMark c)

/-- The characters of a word on its line; `spaced` says that a blank is before them. -/
def wordChars (flow spaced : Bool) : List Char → List Char
  | [] => []
  | c :: rest =>
    if c = '\n' then []
    else if c = ':' && endsKey flow rest then []
    else if c = '#' && spaced then []
    else if flow && isFlowMark c then []
    else c :: wordChars flow (isSpace c) rest

/-- A word on its line without the blanks after it. -/
def word (flow : Bool) (cs : List Char) : List Char :=
  ((wordChars flow false cs).reverse.dropWhile isSpace).reverse

/-- A word can start with the text. -/
def startsPlain (flow : Bool) : List Char → Bool
  | [] => false
  | c :: rest =>
    if c = '-' || c = '?' || c = ':' then !endsKey flow rest
    else !(isFlowMark c || ['#', '&', '*', '!', '|', '>', '\'', '"', '%', '@', '\x60'].contains c)

/-- The lines of a word after its first. They start at the column `least` or after it. -/
def readPlainRest (flow : Bool) (least : Nat) : Nat → State → List Char × State
  | 0, s => ([], s)
  | budget + 1, s =>
    match skipBreaks 0 s.column s.rest with
    | (0, _, _) => ([], s)
    | (breaks, column, rest) =>
      let next := { s with rest, column, fresh := true }
      let taken := if rest.head? = some '#' then [] else word flow rest
      if taken.isEmpty || column < least || next.atMarker then ([], s)
      else
        let (more, s) := readPlainRest flow least budget (next.advance taken.length)
        (foldBreaks breaks ++ taken ++ more, s)

/-- A word, over as many lines as it has. -/
def readPlain (flow : Bool) (least : Nat) (s : State) : Option (List Char × State) :=
  if startsPlain flow s.rest then
    let taken := word flow s.rest
    let (more, s) := readPlainRest flow least s.rest.length (s.advance taken.length)
    some (taken ++ more, s)
  else none

/-- The name after the mark of an anchor or an alias. -/
def readName (s : State) : Option (String × State) :=
  let name := s.rest.takeWhile fun c => !(isGap c || isFlowMark c)
  if name.isEmpty then none else some (String.ofList name, s.advance name.length)

/-- What stands before a value: the name it gets, and its tag. -/
structure Properties where
  anchor : Option String
  tag : Option Tag

/-- The properties before a value, and the state at the value. -/
def readProperties (s : State) : Option (Properties × State) :=
  let readOne (p : Properties) (s : State) : Option (Properties × State) :=
    match s.rest with
    | '&' :: _ => do
      let (name, s) ← readName (s.advance 1)
      if p.anchor.isSome then none
      return ({ p with anchor := some name }, s.skip)
    | '!' :: rest =>
      let tag := rest.takeWhile fun c => !(isGap c || isFlowMark c)
      if p.tag.isSome then none
      else some ({ p with tag := some (.ofChars tag) }, (s.advance (tag.length + 1)).skip)
    | _ => some (p, s)
  (readOne ⟨none, none⟩ s).bind fun (p, s) => readOne p s

/-- The header of a block scalar after its mark: what becomes of its end, and its indentation if
    it is given. -/
def readHeader : List Char → Chomp × Option Nat × List Char
  | cs =>
    let chomp? (c : Char) : Option Chomp :=
      if c = '-' then some .strip else if c = '+' then some .keep else none
    let digit? (c : Char) : Option Nat :=
      if '1' ≤ c ∧ c ≤ '9' then some (c.toNat - 48) else none
    match cs with
    | a :: b :: rest =>
      match chomp? a, digit? b, digit? a, chomp? b with
      | some chomp, some n, _, _ => (chomp, some n, rest)
      | _, _, some n, some chomp => (chomp, some n, rest)
      | some chomp, none, _, _ => (chomp, none, b :: rest)
      | _, _, some n, none => (.clip, some n, b :: rest)
      | _, _, _, _ => (.clip, none, cs)
    | [a] =>
      let known := (chomp? a).isSome || (digit? a).isSome
      ((chomp? a).getD .clip, digit? a, if known then [] else cs)
    | [] => (.clip, none, [])

/-- The lines of a block scalar without their indentation, and what follows. -/
def takeLines (indent : Nat) : Nat → List Char → List (List Char) × List Char
  | 0, cs => ([], cs)
  | _, [] => ([], [])
  | budget + 1, cs =>
    let line := cs.takeWhile (· != '\n')
    let rest := cs.drop (line.length + 1)
    let inside := (line.takeWhile (· == ' ')).length
    if isBlankLine line || indent ≤ inside then
      let (lines, rest) := takeLines indent budget rest
      (line.drop indent :: lines, rest)
    else ([], cs)

/-- The blanks that the first line with more than blanks starts with. -/
def firstIndent : Nat → List Char → Nat
  | 0, _ => 0
  | _, [] => 0
  | budget + 1, cs =>
    let line := cs.takeWhile (· != '\n')
    if isBlankLine line then firstIndent budget (cs.drop (line.length + 1))
    else (line.takeWhile (· == ' ')).length

/-- A block scalar after its mark. Its lines start at the column `least` or after it. -/
def readBlockScalar (folded : Bool) (least : Nat) (s : State) : Option (List Char × State) :=
  let (chomp, given, rest) := readHeader s.rest
  let afterHeader := (s.leave rest).skipFrom false false (rest.takeWhile (· != '\n'))
  -- Nothing but a comment may follow the header on its line.
  if !afterHeader.rest.isEmpty then none
  else
    let body := (rest.dropWhile (· != '\n')).drop 1
    let indent := match given with
      | some n => least - 1 + n
      | none => max (firstIndent body.length body) (max least 1)
    let (lines, rest) := takeLines indent (body.length + 1) body
    some (blockText folded chomp lines,
      { s with rest, column := 0, fresh := true, tabbed := false })

/-- The text of a scalar as the key of an entry. -/
def keyText? : Setting → Option String
  | .text s => some s
  | .integer i => (Setting.integer i).asText?
  | _ => none

/-- A table of its entries, whose keys must differ. -/
def tableOf? (entries : List (String × Setting)) : Option Setting :=
  if (entries.map Prod.fst).Nodup then some (.table entries) else none

/-- The colon after a key on its line: the state behind it. -/
def readColon (flow : Bool) (s : State) : Option State :=
  let blanks := (s.rest.takeWhile isSpace).length
  match s.rest.drop blanks with
  | ':' :: rest => if endsKey flow rest then some (s.advance (blanks + 1)) else none
  | _ => none

/-- A scalar that goes over no more than one line, as the key of an entry. -/
def readKey (s : State) : Option (String × State) :=
  match s.rest with
  | '"' :: rest => quoted true rest
  | '\'' :: rest => quoted false rest
  | cs =>
    if startsPlain false cs then
      let taken := word false cs
      ((resolve (String.ofList taken)).bind keyText?).map (·, s.advance taken.length)
    else none
where
  /-- A quoted key; `rest` is the text after its opening quote. -/
  quoted (double : Bool) (rest : List Char) : Option (String × State) := do
    let (text, after) ← readQuoted double 0 (rest.length + 1) rest
    if (s.rest.take (s.rest.length - after.length)).contains '\n' then none
    return (String.ofList text, s.leave after)

/-- The state is at the key of an entry. -/
def atKey (s : State) : Bool :=
  ((readKey s).bind fun (_, s) => readColon false s).isSome

/-- The value of a word, under its tag if it has one. -/
def plainValue (tag : Option Tag) (cs : List Char) : Option Setting :=
  let s := String.ofList cs
  tag.elim (resolve s) fun t => t.resolve s

/-- Gives a value the name that stands before it. -/
def named (anchor : Option String) (r : Setting × State) : Setting × State :=
  (r.1, anchor.elim r.2 fun name => r.2.remember name r.1)

/-- An alias after its mark: the value that has the name. -/
def readAlias (s : State) : Option (Setting × State) := do
  let (name, s) ← readName s
  let value ← s.anchors.lookup name
  return (value, s)

/-- A value that reads the same inside brackets and outside: an alias, or a scalar on one line or
    several. -/
def readScalar (flow : Bool) (least : Nat) (tag : Option Tag) (s : State) :
    Option (Setting × State) :=
  match s.rest with
  | '*' :: _ => if tag.isSome then none else readAlias (s.advance 1)
  | '"' :: rest =>
    (readQuoted true least (rest.length + 1) rest).map fun (cs, rest) =>
      (.text (String.ofList cs), s.leave rest)
  | '\'' :: rest =>
    (readQuoted false least (rest.length + 1) rest).map fun (cs, rest) =>
      (.text (String.ofList cs), s.leave rest)
  | _ => do
    let (cs, s) ← readPlain flow least s
    let value ← plainValue tag cs
    return (value, s)

/-- The state inside brackets after some gaps; it must not be left of the block it is in. -/
def skipInside (least : Nat) (s : State) : Option State :=
  let s := s.skip
  if s.atEnd || s.column + 1 < least then none else some s

mutual

/-- A value inside brackets. -/
def readFlow (least : Nat) : Nat → State → Option (Setting × State)
  | 0, _ => none
  | budget + 1, s => do
    let (p, s) ← readProperties s
    let r ← match s.rest with
      | '[' :: _ => do
        let s ← skipInside least (s.advance 1)
        let (elements, s) ← readFlowElements least budget s
        pure (Setting.list elements, s)
      | '{' :: _ => do
        let s ← skipInside least (s.advance 1)
        let (entries, s) ← readFlowEntries least budget s
        let t ← tableOf? entries
        pure (t, s)
      | c :: rest =>
        -- A value may be left out before a mark.
        if isFlowMark c || (c == ':' && endsKey true rest) then
          (plainValue p.tag ['~']).map (·, s)
        else readScalar true 0 p.tag s
      | [] => none
    return named p.anchor r

/-- The value behind the colon of an entry inside brackets, and the state after the gap that
    follows. -/
def readFlowValue (least : Nat) : Nat → State → Option (Setting × State)
  | 0, _ => none
  | budget + 1, s => do
    let s ← skipInside least s
    let (value, s) ← readFlow least budget s
    let s ← skipInside least s
    return (value, s)

/-- The elements of a list up to its closing bracket. An element that is an entry is a table. -/
def readFlowElements (least : Nat) : Nat → State → Option (List Setting × State)
  | 0, _ => none
  | budget + 1, s =>
    match s.rest with
    | ']' :: _ => some ([], s.advance 1)
    | ',' :: _ => none
    | _ => do
      let (value, s) ← readFlow least budget s
      let s ← skipInside least s
      let (value, s) ← match s.rest with
        | ':' :: _ => do
          let key ← keyText? value
          let (value, s) ← readFlowValue least budget (s.advance 1)
          pure (Setting.table [(key, value)], s)
        | _ => some (value, s)
      match s.rest with
      | ',' :: _ => do
        let s ← skipInside least (s.advance 1)
        let (rest, s) ← readFlowElements least budget s
        return (value :: rest, s)
      | ']' :: _ => some ([value], s.advance 1)
      | _ => none

/-- The entries of a table up to its closing brace. -/
def readFlowEntries (least : Nat) : Nat → State → Option (List (String × Setting) × State)
  | 0, _ => none
  | budget + 1, s =>
    match s.rest with
    | '}' :: _ => some ([], s.advance 1)
    | ',' :: _ => none
    | _ => do
      let (key, s) ← readFlow least budget s
      let key ← keyText? key
      let s ← skipInside least s
      let (value, s) ← match s.rest with
        | ':' :: _ => readFlowValue least budget (s.advance 1)
        | _ => some (.nothing, s)
      match s.rest with
      | ',' :: _ => do
        let s ← skipInside least (s.advance 1)
        let (rest, s) ← readFlowEntries least budget s
        return ((key, value) :: rest, s)
      | '}' :: _ => some ([(key, value)], s.advance 1)
      | _ => none

end

mutual

/-- A value outside brackets. It starts at the column `least` or after it, or is not there. A block
    may begin where the state is if `opens`. -/
def readNode (opens : Bool) (least : Nat) : Nat → State → Option (Setting × State)
  | 0, _ => none
  | budget + 1, s =>
    if s.atEnd || s.column < least then some (.nothing, s)
    else if s.fresh && s.tabbed then none
    else do
      let (p, t) ← readProperties s
      if p.anchor.isSome || p.tag.isSome then
        if t.atEnd || t.column < least then
          let value ← plainValue p.tag ['~']
          return named p.anchor (value, t)
        let r ← readContent (t.fresh || (opens && !atKey t)) least p.tag budget t
        return named p.anchor r
      else readContent opens least none budget s
termination_by structural budget => budget

/-- A value outside brackets without what stands before it. -/
def readContent (opens : Bool) (least : Nat) (tag : Option Tag) :
    Nat → State → Option (Setting × State)
  | 0, _ => none
  | budget + 1, s =>
    if s.atDash then
      if opens then do
        let (elements, s) ← readElements s.column budget s
        return (.list elements, s)
      else none
    else if atKey s then
      if opens then do
        let (entries, s) ← readEntries s.column budget s
        let t ← tableOf? entries
        return (t, s)
      else none
    else
      match s.rest with
      | '|' :: _ => (readBlockScalar false least (s.advance 1)).map fun (cs, s) =>
        (.text (String.ofList cs), s)
      | '>' :: _ => (readBlockScalar true least (s.advance 1)).map fun (cs, s) =>
        (.text (String.ofList cs), s)
      | '[' :: _ | '{' :: _ => readFlow least budget s
      | _ => readScalar false least tag s
termination_by structural budget => budget

/-- The elements of a list whose dashes stand in a column, from the first dash on. -/
def readElements (column : Nat) : Nat → State → Option (List Setting × State)
  | 0, _ => none
  | budget + 1, s => do
    let (value, s) ← readNode true (column + 1) budget (s.advance 1).skip
    let s := s.skip
    if s.fresh && s.column = column && !s.atEnd && s.atDash then
      let (rest, s) ← readElements column budget s
      return (value :: rest, s)
    else return ([value], s)
termination_by structural budget => budget

/-- The entries of a table whose keys stand in a column, from the first key on. -/
def readEntries (column : Nat) : Nat → State → Option (List (String × Setting) × State)
  | 0, _ => none
  | budget + 1, s => do
    let (key, s) ← readKey s
    let s ← readColon false s
    let s := s.skip
    let (value, s) ←
      if s.fresh && s.column = column && !s.atEnd && s.atDash then do
        let (elements, s) ← readElements column budget s
        pure (Setting.list elements, s)
      else readNode s.fresh (column + 1) budget s
    let s := s.skip
    if s.fresh && s.column = column && !s.atEnd && atKey s then
      if s.tabbed then none
      let (rest, s) ← readEntries column budget s
      return ((key, value) :: rest, s)
    else return ([(key, value)], s)
termination_by structural budget => budget

end

/-- The text with one kind of line break. -/
def normalize : List Char → List Char
  | '\r' :: '\n' :: rest => '\n' :: normalize rest
  | '\r' :: rest => '\n' :: normalize rest
  | c :: rest => c :: normalize rest
  | [] => []

/-- Skips the directives before a document; it must then have its mark. -/
def skipDirectives : Nat → State → Option State
  | 0, _ => none
  | budget + 1, s =>
    let s := s.skip
    match s.rest with
    | '%' :: _ =>
      if s.column = 0 then
        let line := s.rest.takeWhile (· != '\n')
        match skipDirectives budget (s.advance line.length) with
        | some s => if startsWord ['-', '-', '-'] s.rest then some s else none
        | none => none
      else none
    | _ => some s
where
  /-- The text starts with a mark that stands alone. -/
  startsWord := State.startsWord

/-- Skips the marks that end a document. -/
def skipEnds : Nat → State → State
  | 0, s => s
  | budget + 1, s =>
    let s := s.skip
    if s.column = 0 && State.startsWord ['.', '.', '.'] s.rest then skipEnds budget (s.advance 3)
    else s

/-- The value of a whole text, which must hold no more than one document. A text without any is a
    table without entries. -/
def read? (text : String) : Option Setting := do
  let cs := normalize text.toList
  let budget := 8 * cs.length + 8
  let s ← skipDirectives budget (skipEnds budget (.start cs))
  if s.rest.isEmpty then return .table []
  let s :=
    if s.column = 0 && State.startsWord ['-', '-', '-'] s.rest then (s.advance 3).skip else s
  let (value, s) ← readNode s.fresh 0 budget s
  let s := skipEnds budget s
  if s.rest.isEmpty then return value else none

end Yaml

end Promotion
