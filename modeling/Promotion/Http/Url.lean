import Promotion.Text.Decimal
import Promotion.Text.Hex

/-!
# Addresses

The addresses that can be requested, and what of them a request carries.

An address has to be absolute, with the scheme `http` or `https` and a host.
Blanks and control characters around it are cut off, tabs and line ends in it
are dropped, and a backslash counts as a slash. A request carries the path and
the query: the path without its single and double dots, both percent-encoded
where they have characters that must be, and never the fragment.

## Main definitions

* `Url`: An address that can be requested.
* `Url.parse?`: The address of a text.
* `Url.target`: What a request carries of it.
-/

namespace Promotion

/-- An address that can be requested. -/
structure Url where
  /-- The connection is encrypted. -/
  secure : Bool
  /-- Name and password, as they are given. -/
  userinfo : Option String
  host : String
  port : Option Nat
  /-- The path, encoded, from its first slash. -/
  path : String
  /-- The query, encoded, without its question mark. -/
  query : Option String
  deriving DecidableEq, Repr

namespace Url

/-- The percent-encoding of a byte, with capital digits. -/
def percent (b : UInt8) : List Char :=
  '%' :: (Hex.ofByte b).map Char.toUpper

/-- A character as it stands, or its UTF-8 bytes percent-encoded. -/
def encodeChar (keep : Char → Bool) (c : Char) : List Char :=
  if keep c then [c] else (String.ofList [c]).toUTF8.toList.flatMap percent

/-- A text with the characters to be kept as they are and the others percent-encoded. -/
def encode (keep : Char → Bool) (cs : List Char) : List Char :=
  cs.flatMap (encodeChar keep)

/-- The printing characters of ASCII. -/
def isPrinting (c : Char) : Bool := 0x20 < c.toNat && c.toNat < 0x7F

/-- The characters that a path keeps. -/
def keptInPath (c : Char) : Bool :=
  isPrinting c && !"\"#<>?^\x60\x7b\x7d".toList.contains c

/-- The characters that a query keeps. -/
def keptInQuery (c : Char) : Bool :=
  isPrinting c && !"\"#<>'".toList.contains c

/-- The text without blanks and control characters around it, and without tabs and line ends. -/
def clean (cs : List Char) : List Char :=
  let isOuter (c : Char) : Bool := c.toNat ≤ 0x20
  let inner := ((cs.dropWhile isOuter).reverse.dropWhile isOuter).reverse
  inner.filter fun c => !(c == '\t' || c == '\n' || c == '\r')

/-- The scheme before the first colon, in lower case, and what follows the colon. -/
def splitScheme (cs : List Char) : Option (String × List Char) :=
  let isSchemeChar (c : Char) : Bool := c.isAlphanum || c == '+' || c == '-' || c == '.'
  let scheme := cs.takeWhile isSchemeChar
  match scheme, cs.dropWhile isSchemeChar with
  | first :: _, ':' :: rest =>
    if first.isAlpha then some ((String.ofList scheme).toLower, rest) else none
  | _, _ => none

/-- A slash, or a backslash that counts as one. -/
def isSlash (c : Char) : Bool := c == '/' || c == '\\'

/-- The text up to the last `@` and the text after it. -/
def splitUserinfo (cs : List Char) : Option String × List Char :=
  if cs.contains '@' then
    let after := (cs.reverse.takeWhile (· != '@')).reverse
    (some (String.ofList (cs.take (cs.length - after.length - 1))), after)
  else (none, cs)

/-- The characters that no host name may have. -/
def isForbiddenInHost (c : Char) : Bool :=
  c.toNat ≤ 0x20 || c.toNat == 0x7F || "#/:<>?@[\\]^|%".toList.contains c

/-- A host with or without a port. A number in brackets may have colons. -/
def splitHost (cs : List Char) : Option (String × Option Nat) :=
  let (host, rest) := match cs with
    | '[' :: _ => (cs.takeWhile (· != ']') ++ [']'], (cs.dropWhile (· != ']')).drop 1)
    | _ => (cs.takeWhile (· != ':'), cs.dropWhile (· != ':'))
  let bracketed := host.head? == some '['
  if host.isEmpty || (!bracketed && host.any isForbiddenInHost) then none
  else
    let name := (String.ofList host).toLower
    match rest with
    | [] | [':'] => some (name, none)
    | ':' :: digits =>
      if digits.all Char.isDigit && Decimal.value digits < 65536 then
        some (name, some (Decimal.value digits))
      else none
    | _ => none

/-- The dots of a path segment, with their encodings taken for dots. -/
def dots (segment : List Char) : Option Nat :=
  match (String.ofList segment).toLower with
  | "." | "%2e" => some 1
  | ".." | ".%2e" | "%2e." | "%2e%2e" => some 2
  | _ => none

/-- The segments of a path after those before it, the last first. A single dot stands for nothing
    and a double dot takes a segment back; at the end of the path either leaves an empty one. -/
def resolve (before : List (List Char)) : List (List Char) → List (List Char)
  | [] => before
  | [s] =>
    match dots s with
    | some 1 => [] :: before
    | some _ => [] :: before.tail
    | none => s :: before
  | s :: rest =>
    match dots s with
    | some 1 => resolve before rest
    | some _ => resolve before.tail rest
    | none => resolve (s :: before) rest

/-- The path of some characters: from the first slash, dots resolved, encoded. -/
def normalize (cs : List Char) : String :=
  let segments := (cs.drop 1).splitOnP isSlash
  let resolved := (resolve [] segments).reverse.map (encode keptInPath)
  String.ofList (resolved.flatMap ('/' :: ·))

/-- The address of a text, if it can be requested. -/
def parse? (s : String) : Option Url := do
  let (scheme, rest) ← splitScheme (clean s.toList)
  let secure ← match scheme with
    | "http" => some false
    | "https" => some true
    | _ => none
  let rest := rest.dropWhile isSlash
  let isEnd (c : Char) : Bool := isSlash c || c == '?' || c == '#'
  let (userinfo, authority) := splitUserinfo (rest.takeWhile (!isEnd ·))
  let (host, port) ← splitHost authority
  let rest := (rest.dropWhile (!isEnd ·)).takeWhile (· != '#')
  let path := rest.takeWhile (· != '?')
  let query := match rest.dropWhile (· != '?') with
    | '?' :: q => some (String.ofList (encode keptInQuery q))
    | _ => none
  return ⟨secure, userinfo, host, port, normalize path, query⟩

/-- What a request carries of the address. -/
def target (u : Url) : String :=
  u.path ++ (u.query.map ("?" ++ ·)).getD ""

end Url

end Promotion
