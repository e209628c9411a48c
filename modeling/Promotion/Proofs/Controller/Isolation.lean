import Promotion.Proofs.Artifact
import Promotion.Proofs.Controller.Replay
import Promotion.Proofs.Pipeline

/-!
# Promotions into Other Environments

What a promotion does to the tags of the environments that it does not lead into.

It should do nothing to them, and that is so as long as names of tags do not
clash. A promotion moves two names, and both are the name of its target, a dash
and a tag. Where another environment's name is the target's with a dash and more
behind it, or the other way round, one of the two can be a name of the other
environment as well, and then it is moved for both.

`Disturbs` is exactly that. It takes nothing but names to tell, so it can be told
from a configuration and a request. The tag `eu-latest` promoted into `staging`
is the pointer to the latest artifact of `staging-eu`, though nothing was
promoted there.

## Main definitions

* `Disturbs`: A request moves the name of another environment's copy of a tag.

## Theorems

* `disturbs_latest_iff`: Which requests move another pointer to the latest artifact.
* `promote_resolve_other`: What other environments' tags resolve to after a promotion.
* `promote_moves_other_latest`: Another environment's pointer is moved.
-/

namespace Promotion

namespace Controller

/-- A request moves the name of another environment's copy of a tag. -/
def Disturbs (r : Request) (other tag : String) : Prop :=
  r.dryRun = false ∧ (Clashes r.target r.tag other tag ∨ Clashes r.target "latest" other tag)

/-- Another environment's pointer to its latest artifact is moved only by a tag with a name that
    ends in `-latest`. -/
theorem disturbs_latest_iff {r : Request} {other : String} :
    Disturbs r other "latest" ↔
      r.dryRun = false ∧ ∃ rest, other = environmentTag r.target rest ∧ r.tag = latestTag rest := by
  have hlatest : ¬ Clashes r.target "latest" other "latest" := by
    intro h
    rcases clashes_latest_iff.mp h with ⟨rest, -, h⟩
    exact environmentTag_ne_latest rest "latest" ((environmentTag_latest rest).trans h.symm)
  rw [Disturbs, or_iff_left hlatest, clashes_latest_iff]

/-- Environments that are apart do not disturb each other. -/
theorem not_disturbs_of_apart {r : Request} {other : String} (h : Apart r.target other)
    (tag : String) : ¬ Disturbs r other tag := by
  rintro ⟨-, hclash | hclash⟩
  · exact h.not_clashes _ _ hclash
  · exact h.not_clashes _ _ hclash

/-- A record's moves reach the name of another environment's copy of a tag just if it clashes. -/
theorem moved_environmentTag {uri : String} {tags : String → String → Option Digest}
    {record : Record} {other tag : String} (hne : record.toEnv ≠ other) :
    (Clashes record.toEnv record.tag other tag ∨ Clashes record.toEnv "latest" other tag →
      moved uri tags record uri (environmentTag other tag) = some record.digest) ∧
    (¬ (Clashes record.toEnv record.tag other tag ∨ Clashes record.toEnv "latest" other tag) →
      moved uri tags record uri (environmentTag other tag) = tags uri (environmentTag other tag)) := by
  -- The pointer to the latest artifact is a copy too, of the tag `latest`.
  rw [← environmentTag_eq_iff hne, ← environmentTag_eq_iff hne, environmentTag_latest,
    @eq_comm _ _ (environmentTag other tag), @eq_comm _ _ (environmentTag other tag)]
  constructor
  · intro h
    exact if_pos ⟨rfl, h⟩
  · intro h
    exact if_neg fun hmoved => h hmoved.2

variable {ε : Type} {s : Surroundings ε} {pipeline : Pipeline} {registryUri : String}

/-- What another environment's copy of a tag points to after a promotion: what it pointed to before,
    unless the promotion moves its name. -/
theorem promote_digestOf_other {r : Request} {t t' : Traced (State (World ε))} {record : Record}
    (h : ((World.controller s pipeline registryUri).promote r).outcome t = (.ok record, t'))
    {other : String} (hne : r.target ≠ other) (tag : String) :
    (Disturbs r other tag →
      t'.world.world.registry.digestOf registryUri (environmentTag other tag) =
        some record.digest) ∧
    (¬ Disturbs r other tag →
      t'.world.world.registry.digestOf registryUri (environmentTag other tag) =
        t.world.world.registry.digestOf registryUri (environmentTag other tag)) := by
  rcases promote_eq_ok h with ⟨htag, htarget, hregistry, -⟩
  rw [← htarget] at hne
  rw [hregistry, Disturbs, ← htag, ← htarget]
  cases hdry : r.dryRun with
  | true =>
      simp only [landed, hdry, if_true, replay, List.foldl_nil, Bool.true_eq_false, false_and,
        false_implies, not_false_eq_true, true_implies, and_self]
  | false =>
      simp only [landed, hdry, Bool.false_eq_true, if_false, replay, List.foldl_cons,
        List.foldl_nil, true_and]
      exact moved_environmentTag hne

/-- Environments do not disturb one another as far as their names are apart. After a promotion that
    succeeds, every copy of a tag and the pointer to the latest artifact of any other environment
    resolve as they did before, but for the names that the promotion moves for both: those resolve
    to what was promoted. No name is such a name if neither environment begins with the other and a
    dash, and the pointer is none unless the tag is called like it. -/
theorem promote_resolve_other (hvalid : pipeline.validate = .ok ()) {target other : Environment}
    (htarget : target ∈ pipeline.environments) (hother : other ∈ pipeline.environments)
    (hne : other ≠ target) {r : Request} (hname : r.target = target.name)
    {t t' : Traced (State (World ε))} {record : Record}
    (h : ((World.controller s pipeline registryUri).promote r).outcome t = (.ok record, t')) :
    let before := t.world.world.registry.resolve registryUri
    let after := t'.world.world.registry.resolve registryUri
    (∀ tag, ¬ Disturbs r other.name tag →
      after (environmentTag other.name tag) = before (environmentTag other.name tag)) ∧
    (∀ tag, Disturbs r other.name tag →
      after (environmentTag other.name tag) = .ok record.digest) ∧
    ((¬ ∃ rest, other.name = environmentTag target.name rest ∧ r.tag = latestTag rest) →
      after (latestTag other.name) = before (latestTag other.name)) ∧
    (Apart target.name other.name → ∀ tag, ¬ Disturbs r other.name tag) := by
  intro before after
  have hnames : r.target ≠ other.name := by
    intro hsame
    exact hne (Pipeline.eq_of_name_eq hvalid hother htarget (hsame.symm.trans hname))
  have hkept : ∀ tag, ¬ Disturbs r other.name tag →
      after (environmentTag other.name tag) = before (environmentTag other.name tag) := by
    intro tag hfree
    simp only [before, after, Registry.resolve,
      (promote_digestOf_other h hnames tag).2 hfree]
  refine ⟨hkept, ?_, ?_, ?_⟩
  · intro tag hdisturbs
    simp only [after, Registry.resolve, (promote_digestOf_other h hnames tag).1 hdisturbs]
  · intro hlatest
    rw [← environmentTag_latest]
    refine hkept "latest" fun hdisturbs => hlatest ?_
    rw [← hname]
    exact (disturbs_latest_iff.mp hdisturbs).2
  · intro hapart tag
    rw [← hname] at hapart
    exact not_disturbs_of_apart hapart tag

end Controller

namespace World

/-- Two artifacts in calm surroundings, the second with a tag that ends like a pointer to the latest
    artifact. -/
def double : World Unit :=
  ⟨(Registry.empty.push ⟨"registry", "v1", ⟨"sha256:a1"⟩⟩ []).push
    ⟨"registry", "eu-latest", ⟨"sha256:b2"⟩⟩ [], .memory .empty, ()⟩

end World

/-- Staging and production in one region. -/
def Pipeline.regional : Pipeline :=
  ⟨[.named "dev", .named "eu-staging", .named "eu-prod"], []⟩

/-- Staging everywhere, and then in one region. -/
def Pipeline.nested : Pipeline :=
  ⟨[.named "dev", .named "staging", .named "staging-eu"], []⟩

/-- Staging and production of one region are apart, though their names have much in common. -/
theorem regional_apart : Apart "eu-staging" "eu-prod" := by
  intro rest
  constructor
  all_goals
    intro h
    have hstart := congrArg (fun name => name.toList.take 4) h
    simp [toList_environmentTag] at hstart

namespace Controller

/-- A new controller in a world with two artifacts. -/
def beginning : Traced (State (World Unit)) := ⟨.fresh World.double, []⟩

/-- The first artifact reached production, and then the second one goes to staging: production's
    pointer stays where it was. -/
theorem promote_resolve_other_regional :
    let c := World.controller .calm .regional "registry"
    let t := (c.runAll [⟨"v1", "dev", "eu-staging", .named "ann", false⟩,
      ⟨"v1", "eu-staging", "eu-prod", .named "ann", false⟩] beginning).2
    let after := (c.promote ⟨"eu-latest", "dev", "eu-staging", .named "ann", false⟩).outcome t
    t.world.world.registry.resolve "registry" (latestTag "eu-prod") = .ok ⟨"sha256:a1"⟩ ∧
      (∃ record, after.1 = .ok record) ∧
      after.2.world.world.registry.resolve "registry" (latestTag "eu-prod") = .ok ⟨"sha256:a1"⟩ := by
  intro c t after
  have hvalid : Pipeline.regional.validate = .ok () := by decide +kernel
  have hbefore : t.world.world.registry.resolve "registry" (latestTag "eu-prod") =
      .ok ⟨"sha256:a1"⟩ := by
    decide +kernel
  have hsucceeds : after.1.isOk = true := by decide +kernel
  rcases hrun : after with ⟨e | record, t'⟩
  · rw [hrun] at hsucceeds
    cases hsucceeds
  have htarget : .named "eu-staging" ∈ Pipeline.regional.environments := by decide
  have hother : .named "eu-prod" ∈ Pipeline.regional.environments := by decide
  have hne : Environment.named "eu-prod" ≠ .named "eu-staging" := by decide
  rcases promote_resolve_other hvalid htarget hother hne rfl hrun with ⟨hkeeps, -, -, hfree⟩
  have hkept := hkeeps "latest" (hfree regional_apart "latest")
  rw [environmentTag_latest] at hkept
  exact ⟨hbefore, ⟨record, rfl⟩, hkept.trans hbefore⟩

/-- Of environments that are not apart one can disturb the other. A tag is promoted into one of
    them, and the other's pointer to its latest artifact moves from what was promoted into it to
    what never was. -/
theorem promote_moves_other_latest :
    let c := World.controller .calm .nested "registry"
    let t := (c.runAll [⟨"v1", "dev", "staging", .named "ann", false⟩,
      ⟨"v1", "staging", "staging-eu", .named "ann", false⟩] beginning).2
    let after := (c.promote ⟨"eu-latest", "dev", "staging", .named "ann", false⟩).outcome t
    Pipeline.nested.validate = .ok () ∧
      t.world.world.registry.resolve "registry" (latestTag "staging-eu") = .ok ⟨"sha256:a1"⟩ ∧
      after.1.isOk = true ∧
      after.2.world.world.registry.resolve "registry" (latestTag "staging-eu") =
        .ok ⟨"sha256:b2"⟩ := by
  decide +kernel

end Controller

end Promotion
