import Promotion.Artifact

/-!
# Names of Tags

When the tags of two environments have one name.

The name of an environment and the name of a tag are joined by a dash, and both
may have dashes of their own. So a name can be cut into environment and tag at
more than one place. `Clashes` says what the two cuts have to do with each
other: the longer environment begins with the shorter one and a dash, and what
is left of it begins the other tag.

Environments of which neither begins with the other and a dash have no name in
common.

## Main definitions

* `Clashes`: An environment's copy of a tag has the name of another's.
* `Apart`: Neither environment begins with the other and a dash.

## Theorems

* `environmentTag_eq_iff`: Two environments have a name in common if it clashes.
* `Apart.not_clashes`: Environments that are apart have none.
* `clashes_latest_iff`: Which tags have the name of another's latest artifact.
-/

namespace Promotion

/-- One environment's copy of a tag has the name of another's copy of another tag, since it can be
    cut after either environment. -/
def Clashes (environment tag other otherTag : String) : Prop :=
  (∃ rest, other = environmentTag environment rest ∧ tag = environmentTag rest otherTag) ∨
    ∃ rest, environment = environmentTag other rest ∧ otherTag = environmentTag rest tag

/-- Neither of two environments begins with the other and a dash. -/
def Apart (environment other : String) : Prop :=
  ∀ rest, other ≠ environmentTag environment rest ∧ environment ≠ environmentTag other rest

theorem toList_environmentTag (environment tag : String) :
    (environmentTag environment tag).toList = environment.toList ++ '-' :: tag.toList := by
  simp only [environmentTag, String.toList_append, List.append_assoc]
  rfl

/-- A dash after a dash: the copy of a copy is the copy of a longer tag. -/
theorem environmentTag_assoc (environment rest tag : String) :
    environmentTag (environmentTag environment rest) tag =
      environmentTag environment (environmentTag rest tag) := by
  simp only [environmentTag, String.append_assoc]

/-- If one environment is the shorter one of a common name, it begins the other. -/
theorem exists_of_append_eq {environment tag other otherTag : String} (hne : environment ≠ other)
    {rest : List Char} (hother : other.toList = environment.toList ++ rest)
    (htag : '-' :: tag.toList = rest ++ '-' :: otherTag.toList) :
    ∃ rest, other = environmentTag environment rest ∧ tag = environmentTag rest otherTag := by
  cases rest with
  | nil => exact absurd (String.toList_inj.mp (hother.trans (List.append_nil _))).symm hne
  | cons c cs =>
      -- The longer environment goes on with the dash at which the shorter one was cut off.
      rw [List.cons_append, List.cons.injEq] at htag
      rcases htag with ⟨rfl, htag⟩
      refine ⟨String.ofList cs, String.toList_inj.mp ?_, String.toList_inj.mp ?_⟩
      · rw [toList_environmentTag, String.toList_ofList, hother]
      · rw [toList_environmentTag, String.toList_ofList, htag]

/-- Two environments have a name in common just where it clashes. -/
theorem environmentTag_eq_iff {environment other : String} (hne : environment ≠ other)
    {tag otherTag : String} :
    environmentTag environment tag = environmentTag other otherTag ↔
      Clashes environment tag other otherTag := by
  constructor
  · intro hname
    have hlist := congrArg String.toList hname
    rw [toList_environmentTag, toList_environmentTag] at hlist
    rcases List.append_eq_append_iff.mp hlist with ⟨rest, hother, htag⟩ | ⟨rest, henv, htag⟩
    · exact .inl (exists_of_append_eq hne hother htag)
    · exact .inr (exists_of_append_eq hne.symm henv htag)
  · rintro (⟨rest, rfl, rfl⟩ | ⟨rest, rfl, rfl⟩)
    · exact (environmentTag_assoc _ _ _).symm
    · exact environmentTag_assoc _ _ _

/-- Environments that are apart have no name in common. -/
theorem Apart.not_clashes {environment other : String} (h : Apart environment other)
    (tag otherTag : String) : ¬ Clashes environment tag other otherTag := by
  rintro (⟨rest, hother, -⟩ | ⟨rest, henvironment, -⟩)
  · exact (h rest).1 hother
  · exact (h rest).2 henvironment

/-- There is no dash in `latest`, so no copy of a tag is called that. -/
theorem environmentTag_ne_latest (environment tag : String) :
    environmentTag environment tag ≠ "latest" := by
  intro h
  have hdash : '-' ∈ "latest".toList := by
    rw [← h, toList_environmentTag]
    exact List.mem_append_right _ List.mem_cons_self
  revert hdash
  decide

/-- A copy of a tag has the name of another environment's latest artifact only if the tag ends in
    `-latest`, and begins with what the other environment has more. -/
theorem clashes_latest_iff {environment tag other : String} :
    Clashes environment tag other "latest" ↔
      ∃ rest, other = environmentTag environment rest ∧ tag = latestTag rest := by
  constructor
  · rintro (⟨rest, hother, htag⟩ | ⟨rest, -, hlatest⟩)
    · exact ⟨rest, hother, htag.trans (environmentTag_latest rest)⟩
    · exact absurd hlatest.symm (environmentTag_ne_latest rest tag)
  · rintro ⟨rest, hother, htag⟩
    exact .inl ⟨rest, hother, htag.trans (environmentTag_latest rest).symm⟩

end Promotion
