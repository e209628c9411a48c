import Promotion.Json.Walk
import Promotion.Rehearsal

/-!
# Masks

Answers of a rehearsal without what is made in it.

The times and the identifiers that a rehearsal makes, and the hashes that depend
on them, say nothing but whether two of them are the same. A mask stands for
each: the same for all times, and a number for an identifier or a hash, counted
from the first that is met. So an answer can be compared with that of another
run, whose clock shows something else.

## Main definitions

* `Rehearsal.maskAnswer`: An answer with masks.
* `Rehearsal.madeHashes`: The hashes of entries that were sealed in a rehearsal.
-/

namespace Promotion

namespace Rehearsal

/-- What the text of every time of a rehearsal starts with. -/
def timeStart : List Char := "2026-03-14T15:09:26.535".toList

/-- What the text of every identifier of a rehearsal starts with. -/
def idStart : List Char := "1adde7ed-0000-4000-8000-".toList

/-- The length of the text of a time of a rehearsal. -/
def timeLength : Nat := 30

/-- The length of the text of an identifier. -/
def idLength : Nat := 36

/-- The text is the label of an identifier that was made in a rehearsal. -/
def isMadeLabel (s : String) : Bool :=
  ("promotion:".toList ++ idStart).isPrefixOf s.toList

/-- The entry was sealed in a rehearsal. -/
def isMade (e : Audit.Entry) : Bool :=
  timeStart.isPrefixOf (e.recordedAt.chars .letter)

/-- The hashes of the entries that were sealed in a rehearsal. -/
def madeHashes (entries : List Audit.Entry) : List String :=
  (entries.filter isMade).map Audit.Entry.hash

/-- The hashes to be masked, and the hashes and identifiers that were met, in order. -/
structure Masks where
  hashes : List String
  metHashes : List String
  metIds : List String

/-- The mask of a text with its number among those that were met. -/
def numbered (name : String) (met : List String) (s : String) : List Char × List String :=
  let met := if met.contains s then met else met ++ [s]
  ('<' :: (name.toList ++ (Decimal.numeral (met.idxOf s + 1) ++ ['>'])), met)

/-- The characters of a text with masks. The first `skip` are part of what the mask before them
    stands for. -/
def maskChars (m : Masks) (skip : Nat) : List Char → List Char × Masks
  | [] => ([], m)
  | c :: rest =>
    let before (mask : List Char) (r : List Char × Masks) : List Char × Masks := (mask ++ r.1, r.2)
    match skip with
    | n + 1 => maskChars m n rest
    | 0 =>
      let here := c :: rest
      if timeStart.isPrefixOf here then
        before "<now>".toList (maskChars m (timeLength - 1) rest)
      else if idStart.isPrefixOf here then
        let (mask, metIds) := numbered "id" m.metIds (String.ofList (here.take idLength))
        before mask (maskChars { m with metIds } (idLength - 1) rest)
      else
        match m.hashes.find? fun h => h.toList.isPrefixOf here with
        | some h =>
          let (mask, metHashes) := numbered "hash" m.metHashes h
          before mask (maskChars { m with metHashes } (h.length - 1) rest)
        | none => before [c] (maskChars m 0 rest)

/-- A leaf with masks. -/
def maskLeaf (_ : String) : Json → StateM Masks Json
  | .string s => fun m =>
    let (cs, m) := maskChars m 0 s.toList
    (.string (String.ofList cs), m)
  | v => pure v

/-- An answer with masks for times, identifiers and the given hashes. -/
def maskAnswer (hashes : List String) (answer : Json) : Json :=
  (answer.sorted.walk maskLeaf "" ⟨hashes, [], []⟩).1

end Rehearsal

end Promotion
