import Promotion.Audit.Store
import Promotion.Error
import Promotion.Operator

/-!
# Who May Promote

An environment without an authorization lets anyone in. With one, an operator
has to be listed by name or by a group, if anybody is listed; and where duties
are separated, whoever brought the tag into the source environment last may not
bring it on. Only the last question needs the log.

## Main definitions

* `Authorization.lists`: The operator is on the list.
* `authorize`: Lets an operator promote a tag, or says why not.

## Theorems

* `Authorization.shutsOut_eq_false_iff`: Whom a list lets in.
* `authorize_of_none`, `authorize_of_shutsOut`, `authorize_of_unseparated`: What is decided without
  the log.
* `authorize_of_failed`, `authorize_of_found`: What is decided by its answer.
* `authorize_cases`: An operator is judged without the log, or by what it answers.
-/

namespace Promotion

/-- The operator is listed by name or by a group. -/
def Authorization.lists (a : Authorization) (o : Operator) : Bool :=
  a.allowedOperators.contains o.name || a.allowedGroups.any o.inGroup

/-- The list keeps the operator out. -/
def Authorization.shutsOut (a : Authorization) (o : Operator) : Bool :=
  a.hasAllowList && !a.lists o

/-- The refusal of an operator. -/
def denied (o : Operator) (target : Environment) (denial : Denial) : Error :=
  .notAuthorized o.name target.name denial

/-- Lets an operator bring a tag from a source into a target environment, or says why not. -/
def authorize {σ : Type} (log : Audit.Log σ) (o : Operator) (tag source : String)
    (target : Environment) : Call σ Error Unit := fun w =>
  match target.authorization with
  | none => (.ok (), w)
  | some a =>
    if a.shutsOut o then (.error (denied o target .notListed), w)
    else if a.separationOfDuties then
      match log.latestInto tag source w with
      | (.error e, w) => (.error (.audit e), w)
      | (.ok none, w) => (.ok (), w)
      | (.ok (some previous), w) =>
        if previous.operator = o.name then
          (.error (denied o target (.sameDuty tag source)), w)
        else (.ok (), w)
    else (.ok (), w)

/-- A list lets in whom it names, by name or by a group, and everybody if it is empty. -/
theorem Authorization.shutsOut_eq_false_iff {a : Authorization} {o : Operator} :
    a.shutsOut o = false ↔
      (a.allowedOperators = [] ∧ a.allowedGroups = []) ∨ o.name ∈ a.allowedOperators ∨
        ∃ group ∈ a.allowedGroups, group ∈ o.groups := by
  have hempty : a.hasAllowList = false ↔ a.allowedOperators = [] ∧ a.allowedGroups = [] := by
    simp [hasAllowList]
  have hlisted : a.lists o = true ↔
      o.name ∈ a.allowedOperators ∨ ∃ group ∈ a.allowedGroups, group ∈ o.groups := by
    simp [lists, Operator.inGroup]
  rw [shutsOut, Bool.and_eq_false_iff, hempty, Bool.not_eq_false', hlisted]

section Decision

variable {σ : Type} {log : Audit.Log σ} {o : Operator} {tag source : String}
  {target : Environment} {a : Authorization} {w w' : σ}

/-- Without an authorization anyone is let in. -/
theorem authorize_of_none (h : target.authorization = none) :
    authorize log o tag source target w = (.ok (), w) := by
  simp only [authorize, h]

/-- Whom the list shuts out is told so. -/
theorem authorize_of_shutsOut (ha : target.authorization = some a) (hout : a.shutsOut o = true) :
    authorize log o tag source target w = (.error (denied o target .notListed), w) := by
  simp only [authorize, ha, if_pos hout]

/-- All others are let in if duties are not separated. -/
theorem authorize_of_unseparated (ha : target.authorization = some a) (hin : a.shutsOut o = false)
    (hduty : a.separationOfDuties = false) :
    authorize log o tag source target w = (.ok (), w) := by
  simp only [authorize, ha, hin, hduty, Bool.false_eq_true, if_false]

/-- If they are, a failure of the log is told. -/
theorem authorize_of_failed (ha : target.authorization = some a) (hin : a.shutsOut o = false)
    (hduty : a.separationOfDuties = true) {e : Audit.Error}
    (hlookup : log.latestInto tag source w = (.error e, w')) :
    authorize log o tag source target w = (.error (.audit e), w') := by
  simp only [authorize, ha, hin, hduty, hlookup, Bool.false_eq_true, if_false, if_true]

/-- And the operator of the record that the log knows of is kept out. -/
theorem authorize_of_found (ha : target.authorization = some a) (hin : a.shutsOut o = false)
    (hduty : a.separationOfDuties = true) {found : Option Record}
    (hlookup : log.latestInto tag source w = (.ok found, w')) :
    authorize log o tag source target w =
      (if ∃ previous ∈ found, previous.operator = o.name then
        .error (denied o target (.sameDuty tag source)) else .ok (), w') := by
  simp only [authorize, ha, hin, hduty, hlookup, Bool.false_eq_true, if_false, if_true]
  cases found with
  | none => simp
  | some previous =>
      by_cases hsame : previous.operator = o.name <;> simp [hsame]

/-- An operator is judged without the log, or by what it answers. -/
theorem authorize_cases (log : Audit.Log σ) (o : Operator) (tag source : String)
    (target : Environment) (w : σ) :
    (∃ r, authorize log o tag source target w = (r, w) ∧
      (r = .ok () ∨ r = .error (denied o target .notListed))) ∨
    (∃ e w', log.latestInto tag source w = (.error e, w') ∧
      authorize log o tag source target w = (.error (.audit e), w')) ∨
    ∃ found w', log.latestInto tag source w = (.ok found, w') ∧
      authorize log o tag source target w =
        (if ∃ previous ∈ found, previous.operator = o.name then
          .error (denied o target (.sameDuty tag source)) else .ok (), w') := by
  cases ha : target.authorization with
  | none => exact .inl ⟨_, authorize_of_none ha, .inl rfl⟩
  | some a =>
      cases hout : a.shutsOut o with
      | true => exact .inl ⟨_, authorize_of_shutsOut ha hout, .inr rfl⟩
      | false =>
          cases hduty : a.separationOfDuties with
          | false => exact .inl ⟨_, authorize_of_unseparated ha hout hduty, .inl rfl⟩
          | true =>
              rcases hlookup : log.latestInto tag source w with ⟨e | found, w'⟩
              · exact .inr (.inl ⟨e, w', rfl, authorize_of_failed ha hout hduty hlookup⟩)
              · exact .inr (.inr ⟨found, w', rfl, authorize_of_found ha hout hduty hlookup⟩)

end Decision

end Promotion
