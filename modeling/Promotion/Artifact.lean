import Promotion.Digest
import Promotion.Format.Record

/-!
# Artifacts

A tag of a registry together with the digest it pointed to when it was
resolved. The tag may move on; an artifact does not.

Two tags are made for every promotion. The environment's own copy of the tag
says which digest was promoted under that name, and the environment's pointer
to its latest artifact says what was promoted last.
-/

namespace Promotion

/-- A tag of a registry and the digest it was resolved to. -/
structure Artifact where
  registry : String
  tag : String
  digest : Digest
  deriving DecidableEq, Repr, Inhabited

namespace Artifact

/-- The reference with tag and digest. -/
def label (a : Artifact) : String :=
  a.registry ++ ":" ++ a.tag ++ "@" ++ a.digest.text

/-- The reference pinned by the digest alone. -/
def pinned (a : Artifact) : String :=
  a.registry ++ "@" ++ a.digest.text

/-- The members of an artifact. -/
def members : Members Artifact (String → String → Digest → Artifact) :=
  .cons (.required "registry_uri" .string) registry <|
  .cons (.required "tag" .string) tag <|
  .cons (.required "digest" Digest.format) digest .nil

/-- The format of an artifact. -/
def format : Format Artifact := .record mk members

end Artifact

/-- An environment's own copy of a tag. -/
def environmentTag (environment tag : String) : String :=
  environment ++ "-" ++ tag

/-- An environment's pointer to its latest artifact. -/
def latestTag (environment : String) : String :=
  environment ++ "-latest"

/-- The pointer to the latest artifact is the copy of the tag `latest`. -/
theorem environmentTag_latest (environment : String) :
    environmentTag environment "latest" = latestTag environment := by
  simp only [environmentTag, latestTag, String.append_assoc]
  rfl

end Promotion
