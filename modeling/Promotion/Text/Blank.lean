/-!
# Blank Characters

The characters that count as blank, and text that has nothing else.

A name made of blanks alone is as good as no name, so the checks on names and
addresses ask whether there is anything but blanks. Blank means the White_Space
property of Unicode, not only the blanks of ASCII: a no-break space is as
invisible as a space.

## Main definitions

* `isBlank`: The characters with the White_Space property.
* `skipBlank`: A text without the blanks it starts with.
* `allBlank`: A text that has nothing but blanks.
-/

namespace Promotion

namespace Text

/-- The characters with the White_Space property. -/
def isBlank (c : Char) : Bool :=
  let n := c.toNat
  (0x9 ≤ n && n ≤ 0xD) || n == 0x20 || n == 0x85 || n == 0xA0 || n == 0x1680 ||
    (0x2000 ≤ n && n ≤ 0x200A) || n == 0x2028 || n == 0x2029 || n == 0x202F ||
    n == 0x205F || n == 0x3000

/-- A text without the blanks it starts with. -/
def skipBlank (cs : List Char) : List Char :=
  cs.dropWhile isBlank

/-- A text that has nothing but blanks. -/
def allBlank (s : String) : Bool :=
  s.toList.all isBlank

end Text

end Promotion
