import Promotion.Action
import Promotion.Artifact
import Promotion.Table

/-!
# Registries

Where artifacts are kept: tags that point to digests, and the content of each
digest.

`Registry.Client` is what the rest of the library asks of a registry. `Registry`
is a registry in memory that answers it. It counts the tags it was told to move
or remove, so that "nothing was written" can be seen.

## Main definitions

* `Registry.Error`: Why a registry did not do what it was asked.
* `Registry.Client`: What can be asked of a registry.
* `Registry`: A registry in memory.
-/

namespace Promotion

namespace Registry

/-- Why a registry did not do what it was asked. -/
inductive Error where
  | notFound (tag registry : String)
  | contentMissing (digest : Digest)
  | unavailable (reason : String)
  deriving DecidableEq, Repr

/-- The reason as people read it. -/
def Error.message : Error → String
  | notFound tag registry => "tag '" ++ tag ++ "' not found in " ++ registry
  | contentMissing digest => "no content stored for " ++ digest.text
  | unavailable reason => "registry unavailable: " ++ reason

/-- What can be asked of a registry. -/
structure Client (σ : Type) where
  /-- The digest a tag points to. -/
  resolve (registry tag : String) : Call σ Error Digest
  /-- The content of an artifact. -/
  fetch (artifact : Artifact) : Call σ Error (List UInt8)
  /-- Points a tag to an artifact's digest. -/
  createTag (artifact : Artifact) (tag : String) : Call σ Error Unit
  /-- Removes a tag; one that is not there is removed already. -/
  removeTag (registry tag : String) : Call σ Error Unit

/-- Points an environment's latest tag to an artifact's digest. -/
def Client.updateLatest {σ : Type} (c : Client σ) (artifact : Artifact) (environment : String) :
    Call σ Error Unit :=
  c.createTag artifact (latestTag environment)

end Registry

/-- A registry in memory. -/
structure Registry where
  /-- The digest of each tag of each registry. -/
  tags : Table (String × String) Digest
  contents : Table Digest (List UInt8)
  /-- The tags that were moved or removed on demand. -/
  tagWrites : Nat
  deriving Inhabited

namespace Registry

/-- The registry without artifacts. -/
def empty : Registry := ⟨.empty, .empty, 0⟩

/-- The digest a tag points to. -/
def digestOf (r : Registry) (registry tag : String) : Option Digest :=
  r.tags.find? (registry, tag)

/-- Publishes an artifact. -/
def push (r : Registry) (a : Artifact) (content : List UInt8) : Registry :=
  { r with
    tags := r.tags.insert (a.registry, a.tag) a.digest
    contents := r.contents.insert a.digest content }

/-- The digest a tag points to, or the reason that there is none. -/
def resolve (r : Registry) (registry tag : String) : Except Error Digest :=
  match r.digestOf registry tag with
  | some digest => .ok digest
  | none => .error (.notFound tag registry)

/-- The content of an artifact. -/
def fetch (r : Registry) (a : Artifact) : Except Error (List UInt8) :=
  match r.contents.find? a.digest with
  | some content => .ok content
  | none => .error (.contentMissing a.digest)

/-- Points a tag to an artifact's digest. -/
def createTag (r : Registry) (a : Artifact) (tag : String) : Registry :=
  { r with tags := r.tags.insert (a.registry, tag) a.digest, tagWrites := r.tagWrites + 1 }

/-- Removes a tag. -/
def removeTag (r : Registry) (registry tag : String) : Registry :=
  { r with tags := r.tags.erase (registry, tag), tagWrites := r.tagWrites + 1 }

/-- Publishes an artifact. Without a content only its tag is pointed to its digest. -/
def publish (r : Registry) (a : Artifact) (content : Option (List UInt8)) : Registry :=
  match content with
  | some content => r.push a content
  | none => r.createTag a a.tag

/-- The registry in memory, asked directly. -/
def client : Client Registry where
  resolve registry tag r := (r.resolve registry tag, r)
  fetch a r := (r.fetch a, r)
  createTag a tag r := (.ok (), r.createTag a tag)
  removeTag registry tag r := (.ok (), r.removeTag registry tag)

end Registry

end Promotion
