import Promotion.Proofs.Pipeline.Faults

/-!
# Pipelines with Nothing Wrong

What a pipeline that passed its check can be relied on for.

An environment is looked up by its name in two ways, by its place and as itself,
and both find the first of the name. So a move that is legal leads into the
environment that is found under the target's name. That no other environment
has this name is what the check is for.

## Theorems

* `environment?_of_position?`: Place and environment of a name belong together.
* `move_eq_ok`: A legal move leads into the next place.
* `eq_of_name_eq`: A checked pipeline has one environment of a name.
* `environment?_name`: Each of them is found under its name.
-/

namespace Promotion

namespace Pipeline

/-- Place and environment of a name belong together. -/
theorem environment?_of_position? {p : Pipeline} {name : String} {i : Nat}
    (h : p.position? name = some i) :
    ∃ e, p.environments[i]? = some e ∧ e.name = name ∧ p.environment? name = some e := by
  rcases List.findIdx?_eq_some_iff_getElem.mp h with ⟨hi, hname, hbefore⟩
  refine ⟨p.environments[i], List.getElem?_eq_getElem hi, of_decide_eq_true hname, ?_⟩
  refine List.find?_eq_some_iff_getElem.mpr ⟨hname, i, hi, rfl, fun j hj => ?_⟩
  rw [Bool.not_eq_true', ← Bool.not_eq_true]
  exact hbefore j hj

theorem names_of_position? {p : Pipeline} {name : String} {i : Nat}
    (h : p.position? name = some i) : p.names[i]? = some name := by
  rcases environment?_of_position? h with ⟨e, hplace, hname, -⟩
  unfold names
  rw [List.getElem?_map, hplace, Option.map_some, hname]

/-- A legal move leads from the place of its source into the next, the place of its target. -/
theorem move_eq_ok {p : Pipeline} {source target : String} {places : Nat × Nat}
    (h : p.move source target = .ok places) :
    p.position? source = some places.1 ∧ p.position? target = some (places.1 + 1) := by
  unfold move at h
  cases hsource : p.position? source with
  | none =>
      rw [hsource] at h
      cases h
  | some i =>
      cases htarget : p.position? target with
      | none =>
          rw [hsource, htarget] at h
          cases h
      | some j =>
          rw [hsource, htarget] at h
          simp only at h
          by_cases hnext : j = i + 1
          · rw [if_pos hnext] at h
            cases h
            exact ⟨rfl, congrArg some hnext⟩
          · rw [if_neg hnext] at h
            split at h
            · cases h
            · split at h <;> cases h

/-- The environments of a checked pipeline have different names. -/
theorem names_nodup {p : Pipeline} (h : p.validate = .ok ()) : p.names.Nodup :=
  (validate_eq_ok_iff.mp h).distinct

/-- A checked pipeline has one environment of a name. -/
theorem eq_of_name_eq {p : Pipeline} (h : p.validate = .ok ()) {e e' : Environment}
    (he : e ∈ p.environments) (he' : e' ∈ p.environments) (hname : e.name = e'.name) : e = e' :=
  List.inj_on_of_nodup_map (names_nodup h) he he' hname

/-- An environment of a checked pipeline is found under its name. -/
theorem environment?_name {p : Pipeline} (h : p.validate = .ok ()) {e : Environment}
    (he : e ∈ p.environments) : p.environment? e.name = some e := by
  cases hfound : p.environment? e.name with
  | none =>
      have hnot := List.find?_eq_none.mp hfound e he
      exact absurd (decide_eq_true rfl) hnot
  | some found =>
      have hname := List.find?_some hfound
      rw [decide_eq_true_eq] at hname
      rw [eq_of_name_eq h (List.mem_of_find?_eq_some hfound) he hname]

/-- The environment at a place of a checked pipeline is the one of its name. -/
theorem name_eq_iff {p : Pipeline} (h : p.validate = .ok ()) {i : Nat} {e : Environment}
    (hplace : p.environments[i]? = some e) : ∀ e' ∈ p.environments, e'.name = e.name ↔ e' = e := by
  intro e' he'
  constructor
  · exact eq_of_name_eq h he' (List.mem_of_getElem? hplace)
  · rintro rfl
    rfl

end Pipeline

end Promotion
