import Promotion.Format

/-!
# Digests

A digest is what an artifact is: tags move, digests do not. This library never
looks into one beyond the name of its algorithm, which stands before the first
colon.
-/

namespace Promotion

/-- The content digest of an artifact. -/
structure Digest where
  text : String
  deriving DecidableEq, Repr, Inhabited

namespace Digest

/-- The algorithm before the first colon, if there is a colon. -/
def algorithm? (d : Digest) : Option String :=
  let cs := d.text.toList
  if cs.contains ':' then some (String.ofList (cs.takeWhile (· != ':'))) else none

/-- Digests are ordered as their texts. -/
instance : Ord Digest := ⟨fun d e => compare d.text e.text⟩

/-- The text of the digest. -/
def format : Format Digest :=
  Format.string.convert text mk

end Digest

end Promotion
