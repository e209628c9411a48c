import Promotion.Http.Header

/-!
# What a Set of Headers Holds

Which headers make a set, and what is found in it.

Headers come one after the other, and the set is made in that order. The first
with something wrong ends it, so what is told is the first of all that is wrong.
If nothing is, the set has for each name the value that came last, in whatever
case the names were written. That is `lastValue`, which looks at the given
headers alone.

Configured headers come in the order of their names as they are written. There
`lastValue` is the value of the greatest of the names that differ in case only.

## Main definitions

* `Http.lastValue`: The value that some headers give a name last.

## Theorems

* `Http.addHeaders_cases`: Headers make a set, or the first fault among them is told.
* `Http.get?_headers`: What is found in a set of headers.
* `Http.lastValue_eq_some_iff`: The last value, where names come in their order.
-/

namespace Promotion

namespace Http

/-- The value that some headers give a name last, in whatever case they write the name. -/
def lastValue (given : List (String × String)) (name : String) : Option String :=
  (given.filter fun e => e.1.toLower = name).getLast?.map Prod.snd

/-- Headers make a set, or the first fault among them is told. -/
theorem addHeaders_cases (set : SortedMap String) (given : List (String × String)) :
    ((∀ e ∈ given, headerFault? e.1 e.2 = none) ∧ ∃ set', addHeaders set given = .ok set') ∨
    ∃ before name value behind fault, given = before ++ (name, value) :: behind ∧
      (∀ e ∈ before, headerFault? e.1 e.2 = none) ∧ headerFault? name value = some fault ∧
      addHeaders set given = .error (name, fault) := by
  induction given generalizing set with
  | nil => exact .inl ⟨nofun, set, rfl⟩
  | cons e rest ih =>
      cases hfault : headerFault? e.1 e.2 with
      | some fault =>
          refine .inr ⟨[], e.1, e.2, rest, fault, rfl, nofun, hfault, ?_⟩
          simp only [addHeaders, hfault]
      | none =>
          have hnext : addHeaders set (e :: rest) = addHeaders (set.insert e.1.toLower e.2) rest := by
            simp only [addHeaders, hfault]
          rw [hnext]
          rcases ih (set.insert e.1.toLower e.2) with ⟨hright, hset⟩ |
            ⟨before, name, value, behind, fault, rfl, hright, hwrong, herror⟩
          · exact .inl ⟨List.forall_mem_cons.mpr ⟨hfault, hright⟩, hset⟩
          · exact .inr ⟨e :: before, name, value, behind, fault, rfl,
              List.forall_mem_cons.mpr ⟨hfault, hright⟩, hwrong, herror⟩

theorem lastValue_cons (e : String × String) (rest : List (String × String)) (name : String) :
    lastValue (e :: rest) name =
      (lastValue rest name).or (if name = e.1.toLower then some e.2 else none) := by
  unfold lastValue
  by_cases hname : e.1.toLower = name
  · rw [List.filter_cons_of_pos (by simpa using hname), List.getLast?_cons, if_pos hname.symm]
    cases (rest.filter fun e => e.1.toLower = name).getLast? <;> rfl
  · rw [List.filter_cons_of_neg (by simpa using hname), if_neg (Ne.symm hname), Option.or_none]

/-- Headers that are added to a set stand before those it has. -/
theorem get?_addHeaders {set set' : SortedMap String} {given : List (String × String)}
    (h : addHeaders set given = .ok set') (name : String) :
    set'.get? name = (lastValue given name).or (set.get? name) := by
  induction given generalizing set with
  | nil =>
      cases h
      rfl
  | cons e rest ih =>
      unfold addHeaders at h
      split at h
      · cases h
      · rw [ih h, SortedMap.get?_insert, lastValue_cons, Option.or_assoc]
        split <;> rfl

/-- What is found in a set of headers is what came last under the name. -/
theorem get?_headers {given : List (String × String)} {set : SortedMap String}
    (h : headers given = .ok set) (name : String) : set.get? name = lastValue given name := by
  have hget := get?_addHeaders h name
  rwa [show SortedMap.empty.get? name = (none : Option String) from rfl, Option.or_none] at hget

/-- A default is what is found of its name if nothing else is. -/
theorem get?_withDefault (set : SortedMap String) (key value name : String) :
    (withDefault set key value).get? name =
      (set.get? name).or (if name = key then some value else none) := by
  unfold withDefault
  split
  · rename_i hsome
    rcases Option.isSome_iff_exists.mp hsome with ⟨given, hgiven⟩
    by_cases hname : name = key
    · rw [hname, hgiven, Option.some_or]
    · rw [if_neg hname, Option.or_none]
  · rename_i hnone
    rw [Bool.not_eq_true, Option.isSome_eq_false_iff, Option.isNone_iff_eq_none] at hnone
    rw [SortedMap.get?_insert]
    by_cases hname : name = key
    · rw [if_pos hname, if_pos hname, hname, hnone, Option.none_or]
    · rw [if_neg hname, if_neg hname, Option.or_none]

/-- Where names ascend, the last one is the greatest. -/
theorem getLast?_eq_some_iff_greatest {given : List (String × String)}
    (hordered : given.Pairwise fun a b => a.1 < b.1) {e : String × String} :
    given.getLast? = some e ↔ e ∈ given ∧ ∀ e' ∈ given, e'.1 ≤ e.1 := by
  have hlast : ∀ {before last}, given = before ++ [last] → ∀ e' ∈ before, e'.1 < last.1 := by
    rintro before last rfl e' he'
    exact (List.pairwise_append.mp hordered).2.2 e' he' last (List.mem_singleton_self last)
  rw [List.getLast?_eq_some_iff]
  constructor
  · rintro ⟨before, hgiven⟩
    refine ⟨hgiven ▸ List.mem_append_right _ (List.mem_singleton_self e), fun e' he' => ?_⟩
    rw [hgiven, List.mem_append, List.mem_singleton] at he'
    rcases he' with he' | rfl
    · exact Std.le_of_lt (hlast hgiven e' he')
    · exact Std.le_refl _
  · rintro ⟨he, hgreatest⟩
    rcases List.eq_nil_or_concat given with hnil | ⟨before, last, hgiven⟩
    · exact absurd (hnil ▸ he) List.not_mem_nil
    rw [List.concat_eq_append] at hgiven
    have hmem : last ∈ given := hgiven ▸ List.mem_append_right _ (List.mem_singleton_self last)
    -- Nothing before the last is as great as the last.
    rw [hgiven, List.mem_append, List.mem_singleton] at he
    rcases he with he | rfl
    · exact absurd (hlast hgiven e he) (Std.not_lt.mpr (hgreatest last hmem))
    · exact ⟨before, hgiven⟩

/-- Where names ascend as they are written, the last value of a name belongs to the greatest of
    those that differ from it in case only. -/
theorem lastValue_eq_some_iff {given : List (String × String)}
    (hordered : given.Pairwise fun a b => a.1 < b.1) {name value : String} :
    lastValue given name = some value ↔
      ∃ n, (n, value) ∈ given ∧ n.toLower = name ∧
        ∀ e ∈ given, e.1.toLower = name → e.1 ≤ n := by
  have hsame := hordered.filter fun e => e.1.toLower = name
  unfold lastValue
  rw [Option.map_eq_some_iff]
  simp only [getLast?_eq_some_iff_greatest hsame, List.mem_filter, decide_eq_true_eq, and_imp]
  constructor
  · rintro ⟨⟨n, v⟩, ⟨⟨hmem, hname⟩, hgreatest⟩, rfl⟩
    exact ⟨n, hmem, hname, hgreatest⟩
  · rintro ⟨n, hmem, hname, hgreatest⟩
    exact ⟨(n, value), ⟨⟨hmem, hname⟩, hgreatest⟩, rfl⟩

end Http

end Promotion
