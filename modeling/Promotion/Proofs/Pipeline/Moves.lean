import Promotion.Controller
import Promotion.Proofs.Action
import Promotion.Proofs.Pipeline

/-!
# Legal Moves

Which moves a checked pipeline allows, and what is told of the others.

A move is asked for by two names, and the pipeline looks each of them up twice:
as a place, and as an environment. In any pipeline both find the first of the
name. A checked pipeline uses no name twice, so there a name belongs to one
place, and the move can be judged by the places alone: it is legal if the
target's place is the next. `Refused` sorts all other moves by what is wrong with
them, in the order in which it is noticed.

That a move is refused is the end of a promotion, before anybody was asked for
anything.

## Main definitions

* `Pipeline.Refused`: Why a move is refused, said by the places of the two names.

## Theorems

* `Pipeline.position?_eq_some_iff`: In a checked pipeline a name is found at its only place.
* `Pipeline.move_eq_ok_iff`: A move is legal if it leads into the next place.
* `Pipeline.move_eq_error_iff`: Any other is refused for what is wrong with it.
* `Controller.promote_of_refused`: A promotion ends with the refusal and has changed nothing.
* `Pipeline.move_exact`: All of this in one.
-/

namespace Promotion

namespace Pipeline

variable {p : Pipeline} {source target : String}

/-- Why a move is refused, said by the places of the two names. -/
inductive Refused (p : Pipeline) (source target : String) : Refusal → Prop
  | unknownSource : source ∉ p.names → Refused p source target (.unknown source)
  | unknownTarget : source ∈ p.names → target ∉ p.names →
      Refused p source target (.unknown target)
  | same {i : Nat} : p.names[i]? = some source → p.names[i]? = some target →
      Refused p source target .same
  | skips {i j : Nat} : p.names[i]? = some source → p.names[j]? = some target → i + 1 < j →
      Refused p source target .skips
  | backwards {i j : Nat} : p.names[i]? = some source → p.names[j]? = some target → j < i →
      Refused p source target .backwards

theorem position?_eq_none_iff {name : String} : p.position? name = none ↔ name ∉ p.names := by
  unfold position? names
  simp only [List.findIdx?_eq_none_iff, decide_eq_false_iff_not, List.mem_map, not_exists, not_and]

/-- A name of a checked pipeline has one place. -/
theorem eq_of_names_eq (h : p.validate = .ok ()) {name : String} {i j : Nat}
    (hi : p.names[i]? = some name) (hj : p.names[j]? = some name) : i = j :=
  (List.getElem?_inj (List.getElem?_eq_some_iff.mp hi).1 (names_nodup h)).mp (hi.trans hj.symm)

/-- In a checked pipeline a name is found at its only place. -/
theorem position?_eq_some_iff (h : p.validate = .ok ()) {name : String} {i : Nat} :
    p.position? name = some i ↔ p.names[i]? = some name := by
  constructor
  · exact names_of_position?
  · intro hname
    cases hfound : p.position? name with
    | none => exact absurd (List.mem_of_getElem? hname) (position?_eq_none_iff.mp hfound)
    | some j => rw [eq_of_names_eq h (names_of_position? hfound) hname]

/-- A move leads into the next place, or there is a reason to refuse it. -/
theorem move_cases (p : Pipeline) (source target : String) :
    (∃ i, p.names[i]? = some source ∧ p.names[i + 1]? = some target ∧
      p.move source target = .ok (i, i + 1)) ∨
    ∃ refusal, p.Refused source target refusal ∧ p.move source target = .error refusal := by
  unfold move
  cases hi : p.position? source with
  | none => exact .inr ⟨_, .unknownSource (position?_eq_none_iff.mp hi), rfl⟩
  | some i =>
      have hsource := names_of_position? hi
      cases hj : p.position? target with
      | none =>
          exact .inr ⟨_, .unknownTarget (List.mem_of_getElem? hsource)
            (position?_eq_none_iff.mp hj), rfl⟩
      | some j =>
          have htarget := names_of_position? hj
          simp only
          split
          · rename_i hnext
            subst hnext
            exact .inl ⟨i, hsource, htarget, rfl⟩
          · refine .inr ?_
            split
            · rename_i hsame
              subst hsame
              exact ⟨_, .same hsource htarget, rfl⟩
            · split
              · exact ⟨_, .skips hsource htarget (by omega), rfl⟩
              · exact ⟨_, .backwards hsource htarget (by omega), rfl⟩

/-- A move is legal if it leads into the next place. -/
theorem move_eq_ok_iff (h : p.validate = .ok ()) {i j : Nat} :
    p.move source target = .ok (i, j) ↔
      p.names[i]? = some source ∧ p.names[j]? = some target ∧ j = i + 1 := by
  constructor
  · intro hok
    rcases p.move_cases source target with ⟨k, hsource, htarget, hmove⟩ | ⟨_, -, hmove⟩
    · cases hmove.symm.trans hok
      exact ⟨hsource, htarget, rfl⟩
    · cases hmove.symm.trans hok
  · rintro ⟨hsource, htarget, rfl⟩
    rw [← position?_eq_some_iff h] at hsource htarget
    simp only [move, hsource, htarget, if_true]

/-- A move that is not legal is refused for what is wrong with it. -/
theorem move_eq_error_iff (h : p.validate = .ok ()) {refusal : Refusal} :
    p.move source target = .error refusal ↔ p.Refused source target refusal := by
  constructor
  · intro herror
    rcases p.move_cases source target with ⟨_, -, -, hmove⟩ | ⟨_, hrefused, hmove⟩
    · cases hmove.symm.trans herror
    · cases hmove.symm.trans herror
      exact hrefused
  · intro hrefused
    cases hrefused with
    | unknownSource hsource =>
        rw [← position?_eq_none_iff] at hsource
        simp only [move, hsource]
    | unknownTarget hsource htarget =>
        rcases List.mem_iff_getElem?.mp hsource with ⟨i, hsource⟩
        rw [← position?_eq_some_iff h] at hsource
        rw [← position?_eq_none_iff] at htarget
        simp only [move, hsource, htarget]
    | same hsource htarget =>
        rw [← position?_eq_some_iff h] at hsource htarget
        simp [move, hsource, htarget]
    | skips hsource htarget hskips =>
        rw [← position?_eq_some_iff h] at hsource htarget
        simp only [move, hsource, htarget]
        rw [if_neg (by omega), if_neg (by omega), if_pos (by omega)]
    | backwards hsource htarget hback =>
        rw [← position?_eq_some_iff h] at hsource htarget
        simp only [move, hsource, htarget]
        rw [if_neg (by omega), if_neg (by omega), if_neg (by omega)]

end Pipeline

/-- A promotion whose move is refused ends with that, and has changed nothing. -/
theorem Controller.promote_of_refused {σ : Type} {c : Controller σ} {r : Controller.Request}
    {refusal : Pipeline.Refusal} (h : c.pipeline.move r.source r.target = .error refusal)
    (t : Traced (Controller.State σ)) :
    (c.promote r).outcome t = (.error (.illegalMove r.source r.target refusal), t) := by
  have hassess : (c.assess r).outcome t = (.error (.illegalMove r.source r.target refusal), t) := by
    simp only [assess, h]
    rfl
  rw [promote, Action.outcome_bind, hassess]

namespace Pipeline

variable {p : Pipeline}

/-- Only the next rung is a legal move. In a checked pipeline a move is legal if the target's place
    comes right after the source's, and then the environment found under the target's name is the
    one at that place. Any other move is refused, and so is a promotion that asks for it, with both
    names and with what is wrong. From one environment there is a move into at most one other, and
    from the last there is none. -/
theorem move_exact (h : p.validate = .ok ()) (source target : String) :
    (∀ i j, p.move source target = .ok (i, j) ↔
      p.names[i]? = some source ∧ p.names[j]? = some target ∧ j = i + 1) ∧
    (∀ i j, p.move source target = .ok (i, j) →
      ∃ e, p.environments[j]? = some e ∧ p.environment? target = some e) ∧
    (∀ refusal, p.move source target = .error refusal ↔ p.Refused source target refusal) ∧
    (∀ {σ : Type} (c : Controller σ) (r : Controller.Request) (t : Traced (Controller.State σ)),
      c.pipeline = p → r.source = source → r.target = target →
        ∀ refusal, p.Refused source target refusal →
          (c.promote r).outcome t = (.error (.illegalMove source target refusal), t)) ∧
    (∀ other places places', p.move source target = .ok places →
      p.move source other = .ok places' → target = other) ∧
    (p.names.getLast? = some source → ∀ places, p.move source target ≠ .ok places) := by
  refine ⟨fun i j => move_eq_ok_iff h, fun i j hmove => ?_, fun refusal => move_eq_error_iff h,
    ?_, ?_, ?_⟩
  · rcases (move_eq_ok_iff h).mp hmove with ⟨-, htarget, -⟩
    rcases environment?_of_position? ((position?_eq_some_iff h).mpr htarget) with
      ⟨e, hplace, -, hfound⟩
    exact ⟨e, hplace, hfound⟩
  · rintro σ c r t rfl rfl rfl refusal hrefused
    exact Controller.promote_of_refused ((move_eq_error_iff h).mpr hrefused) t
  · rintro other ⟨i, j⟩ ⟨i', j'⟩ hmove hmove'
    rcases (move_eq_ok_iff h).mp hmove with ⟨hsource, htarget, rfl⟩
    rcases (move_eq_ok_iff h).mp hmove' with ⟨hsource', hother, rfl⟩
    -- Both lead from the one place of the source.
    cases eq_of_names_eq h hsource hsource'
    exact Option.some.inj (htarget.symm.trans hother)
  · rintro hlast ⟨i, j⟩ hmove
    rcases (move_eq_ok_iff h).mp hmove with ⟨hsource, htarget, rfl⟩
    rw [List.getLast?_eq_getElem?] at hlast
    have hplace := eq_of_names_eq h hsource hlast
    have hbehind := (List.getElem?_eq_some_iff.mp htarget).1
    omega

/-- A pipeline of three environments. -/
def threeFloors : Pipeline := ⟨[.named "dev", .named "staging", .named "prod"], []⟩

/-- In a chain of three there is a move from the first into the second, no move past it, and none
    from the third. -/
theorem move_exact_threeFloors :
    threeFloors.validate = .ok () ∧ threeFloors.move "dev" "staging" = .ok (0, 1) ∧
      threeFloors.Refused "dev" "prod" .skips ∧ threeFloors.names.getLast? = some "prod" ∧
      ∀ places, threeFloors.move "prod" "dev" ≠ .ok places := by
  have hvalid : threeFloors.validate = .ok () := by decide
  rcases move_exact hvalid "dev" "staging" with ⟨hlegal, -, -, -, -, -⟩
  rcases move_exact hvalid "dev" "prod" with ⟨-, -, hrefused, -, -, -⟩
  rcases move_exact hvalid "prod" "dev" with ⟨-, -, -, -, -, hlast⟩
  exact ⟨hvalid, (hlegal 0 1).mpr ⟨rfl, rfl, rfl⟩, (hrefused .skips).mp (by decide), rfl,
    hlast rfl⟩

end Pipeline

end Promotion
