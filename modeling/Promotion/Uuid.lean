import Promotion.Text.Hex

/-!
# Universally Unique Identifiers

Identifiers of 128 bits.

They are written as 32 hexadecimal digits in lower case with hyphens after the
8th, 12th, 16th and 20th. They are read in either case, and also without the
hyphens, with braces around, or with the prefix of their URN.

## Main definitions

* `Uuid`: An identifier.
* `Uuid.text`: The hyphenated text.
* `Uuid.read?`: The identifier of a text in any of its forms.
-/

namespace Promotion

/-- An identifier of 128 bits. -/
structure Uuid where
  bits : BitVec 128
  deriving DecidableEq, Repr

namespace Uuid

instance : Inhabited Uuid := ⟨⟨0#128⟩⟩

/-- The digits of the identifier's bits from digit `start` on, `count` of them. -/
def digits (u : Uuid) (start count : Nat) : List Char :=
  (List.range count).map fun i => Hex.digit ((u.bits.toNat >>> (4 * (31 - (start + i)))) % 16)

/-- The characters of the hyphenated text. -/
def chars (u : Uuid) : List Char :=
  u.digits 0 8 ++ '-' :: (u.digits 8 4 ++ '-' :: (u.digits 12 4 ++ '-' ::
    (u.digits 16 4 ++ '-' :: u.digits 20 12)))

/-- The hyphenated text. -/
def text (u : Uuid) : String :=
  String.ofList u.chars

/-- The identifier of 32 digits. -/
def ofDigits? (cs : List Char) : Option Uuid :=
  if cs.length = 32 then (Hex.number? cs).map fun n => ⟨BitVec.ofNat 128 n⟩ else none

/-- The identifier of a hyphenated text. -/
def ofHyphenated? (cs : List Char) : Option Uuid :=
  let hyphens := [8, 13, 18, 23]
  if cs.length = 36 ∧ hyphens.all (fun i => cs[i]? == some '-') then
    ofDigits? (cs.take 8 ++ (cs.drop 9).take 4 ++ (cs.drop 14).take 4 ++ (cs.drop 19).take 4 ++
      cs.drop 24)
  else none

/-- The identifier of some characters. -/
def ofChars? (cs : List Char) : Option Uuid :=
  if cs.length = 32 then ofDigits? cs
  else
    match cs with
    | '\x7b' :: rest => if rest.getLast? = some '\x7d' then ofHyphenated? rest.dropLast else none
    | 'u' :: 'r' :: 'n' :: ':' :: 'u' :: 'u' :: 'i' :: 'd' :: ':' :: rest => ofHyphenated? rest
    | cs => ofHyphenated? cs

/-- The identifier of a text in any of its forms. -/
def read? (s : String) : Option Uuid :=
  ofChars? s.toList

end Uuid

end Promotion
