import Promotion.Log
import Promotion.Log.Options
import Promotion.Text.Blank

/-!
# Log Filters

Which events are written, from directives like `warn,audit=debug`.

A directive gives a level to the targets that start with a name, or to all if
it names none. It may be narrowed to events with certain fields, or to spans by
name. For an event the most specific directive decides: the one with the
longest name, then the one with the most fields. Of two that say the same of
the same targets the later holds. An event that no directive is about is not
written.

## Main definitions

* `Log.Directive`: A level for some targets.
* `Log.Directive.read?`: The directive of a text.
* `Log.Filter`: Directives.
* `Log.Filter.passes`: An event is written.
* `Log.Sink`: A filter and the form of the lines.
-/

namespace Promotion

namespace Log

/-- A level for some targets. -/
structure Directive where
  /-- What the targets start with. -/
  target : Option String
  /-- The span that events have to be in. -/
  span : Option String
  /-- The fields that are asked for. -/
  fields : List String
  /-- A field is asked for with a value, or the span by its name. -/
  narrow : Bool
  /-- The greatest verbosity that passes; 0 lets nothing pass. -/
  verbosity : Nat
  deriving DecidableEq, Repr

namespace Directive

/-- Errors of every target. -/
def default : Directive := ⟨none, none, [], false, 1⟩

instance : Inhabited Directive := ⟨default⟩

/-- The verbosity that a word stands for: a name in any case, or a number up to five. -/
def verbosity? (s : String) : Option Nat :=
  let digits := match s.toList with
    | '+' :: rest => rest
    | cs => cs
  if !digits.isEmpty && digits.all Char.isDigit then
    let n := Decimal.value digits
    if n ≤ 5 then some n else none
  else
    match s.toLower with
    | "off" => some 0
    | "" | "error" => some 1
    | "warn" => some 2
    | "info" => some 3
    | "debug" => some 4
    | "trace" => some 5
    | _ => none

/-- A directive's text can start with the character. -/
def startsName (c : Char) : Bool :=
  c.isAlphanum || c == '-' || c == ':' || c == '_' || 0x80 ≤ c.toNat

/-- The directive that is a bare word: a level, or a target with everything. -/
def ofWord (s : String) : Directive :=
  match verbosity? s with
  | some verbosity => { default with verbosity }
  | none => { default with target := some s, verbosity := 5 }

/-- The verbosity behind an equals sign; everything if there is nothing behind it. -/
def levelAfter? (cs : List Char) : Option Nat :=
  if cs.isEmpty then some 5 else verbosity? (String.ofList cs)

/-- The fields between braces: their names, and whether any is asked for with a value. -/
def readFields (cs : List Char) : Option (List String × Bool) :=
  let parts := cs.splitOn ','
  if parts.any List.isEmpty then none
  else
    some (parts.map fun f => String.ofList (f.takeWhile (· != '=')), parts.any (·.contains '='))

/-- The rest of a directive behind the opening bracket of a span, for a target. -/
def readSpan? (target : Option String) (cs : List Char) : Option Directive := do
  let isEnd (c : Char) : Bool := c == ']' || c == '\x7b'
  let name := cs.takeWhile (!isEnd ·)
  let span := if name.isEmpty then none else some (String.ofList name)
  let (fields, valued, rest) ← match cs.drop name.length with
    | '\x7b' :: rest =>
      match readFields (rest.takeWhile (· != '\x7d')), rest.dropWhile (· != '\x7d') with
      | some (fields, valued), '\x7d' :: ']' :: rest => some (fields, valued, rest)
      | _, _ => none
    | ']' :: rest => some ([], false, rest)
    | _ => none
  -- Brackets with nothing in them name a span without a name.
  let narrow := valued || span.isSome || fields.isEmpty
  match rest with
  | [] => return ⟨target, span, fields, narrow, 5⟩
  | '=' :: level => return ⟨target, span, fields, narrow, ← levelAfter? level⟩
  | _ => none

/-- A target ends before the character. -/
def endsName (c : Char) : Bool := c == '=' || c == '['

/-- The directive of a bare word behind blanks: the blanks are of the word, so that it is no level
    but a target. Nothing else can stand behind blanks. -/
def readBehindBlanks? (s : String) : Option Directive :=
  match Text.skipBlank s.toList with
  | [] => none
  | c :: rest => if startsName c && !rest.any endsName then some (ofWord s) else none

/-- The directive of a text. -/
def read? (s : String) : Option Directive :=
  match s.toList with
  | [] => none
  | '[' :: rest => readSpan? none rest
  | c :: _ =>
    if Text.isBlank c then readBehindBlanks? s
    else if !startsName c then none
    else
      let word := String.ofList (s.toList.takeWhile (!endsName ·))
      match s.toList.dropWhile (!endsName ·) with
      | '=' :: level =>
        (levelAfter? level).map fun verbosity =>
          { default with target := some word, verbosity }
      | '[' :: rest => readSpan? (some word) rest
      | _ => some (ofWord word)

/-- The directive is about an event of a target with some fields. -/
def concerns (d : Directive) (target : String) (fields : List String) : Bool :=
  (d.target.elim true fun t => t.toList.isPrefixOf target.toList) && d.fields.all fields.contains

/-- The first directive is more specific: it has a longer target, or as long a one and more
    fields. No target at all is shorter than any. -/
def moreSpecific (d e : Directive) : Bool :=
  let size (d : Directive) : Nat := d.target.elim 0 fun t => t.utf8ByteSize + 1
  size e < size d || (size e == size d && e.fields.length < d.fields.length)

/-- The directives say something of the same targets and fields. -/
def sameScope (d e : Directive) : Bool := d.target = e.target && d.fields = e.fields

end Directive

/-- Directives. -/
structure Filter where
  directives : List Directive
  deriving DecidableEq, Repr

namespace Filter

/-- The texts of a filter's directives. -/
def parts (s : String) : List String :=
  ((s.toList.splitOn ',').filter fun p => !p.isEmpty).map String.ofList

/-- The filter of some directives; without any, errors pass. -/
def ofDirectives (ds : List Directive) : Filter :=
  ⟨if ds.isEmpty then [.default] else ds⟩

/-- The filter of a text; none if any of its directives is wrong. -/
def read? (s : String) : Option Filter :=
  ((parts s).mapM Directive.read?).map ofDirectives

/-- The filter of a text without its wrong directives. -/
def readLenient (s : String) : Filter :=
  ofDirectives ((parts s).filterMap Directive.read?)

/-- The directive that decides on an event outside of spans: the most specific one that is about
    it, and of two with the same scope the later. -/
def deciding? (f : Filter) (target : String) (fields : List String) : Option Directive :=
  (f.directives.filter fun d => !d.narrow && d.concerns target fields).foldl
    (fun best d =>
      match best with
      | none => some d
      | some b => if d.moreSpecific b || d.sameScope b then some d else some b) none

/-- An event of a target outside of spans is written. -/
def passes (f : Filter) (target : String) (fields : List String) (level : Level) : Bool :=
  (f.deciding? target fields).elim false fun d => level.verbosity ≤ d.verbosity

end Filter

/-- Where the log goes: a filter and the form of the lines. -/
structure Sink where
  filter : Filter
  json : Bool
  timestamps : Bool
  deriving DecidableEq, Repr

namespace Sink

/-- The sink of some options. A variable of the process takes the place of their level if all of it
    can be read. -/
def ofOptions (o : Options) (setting : Option String) : Sink where
  filter := (setting.bind Filter.read?).getD (.readLenient o.level)
  json := o.json
  timestamps := o.json || o.timestamps

/-- Makes a sink the one of the process unless there is one already. The answer says whether it
    was made so. -/
def install (current : Option Sink) (s : Sink) : Bool × Option Sink :=
  match current with
  | none => (true, some s)
  | some c => (false, some c)

end Sink

end Log

end Promotion
