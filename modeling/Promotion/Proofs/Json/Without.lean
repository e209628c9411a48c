import Promotion.Json

/-!
# Leaving Members Out

A value without some of the members of its objects.

Which members go is said by their places, so one may go from one object and stay
in the next. A member that goes takes with it whatever is in it. Elements of an
array never go: what a place chooses besides is left alone, and every value
keeps its kind.

## Main definitions

* `Json.Place`: The steps from a value to a part of it.
* `Json.without`: The value without the members at chosen places.

## Theorems

* `Json.without_false`: A value from which nothing goes is itself.
* `Json.mapM_withoutElements`, `Json.mapM_withoutMembers`: What is read from the
  parts that are left.
-/

namespace Promotion

namespace Json

/-- One step into a value. -/
inductive Step where
  | element (index : Nat)
  | member (key : String)
  deriving DecidableEq, Repr

/-- A place in a value: the steps that lead to it. -/
abbrev Place := List Step

mutual

/-- The value without the members at chosen places. -/
def without (chosen : Place → Bool) : Json → Json
  | .array js => .array (withoutElements chosen 0 js)
  | .object ms => .object (withoutMembers chosen ms)
  | j => j

/-- Elements, counted from an index, without the members at chosen places. -/
def withoutElements (chosen : Place → Bool) (index : Nat) : List Json → List Json
  | [] => []
  | j :: rest =>
    j.without (fun p => chosen (.element index :: p)) :: withoutElements chosen (index + 1) rest

/-- Members without those at chosen places. -/
def withoutMembers (chosen : Place → Bool) : List (String × Json) → List (String × Json)
  | [] => []
  | (k, j) :: rest =>
    if chosen [.member k] then withoutMembers chosen rest
    else (k, j.without fun p => chosen (.member k :: p)) :: withoutMembers chosen rest

end

mutual

/-- A value from which nothing goes is itself. -/
theorem without_false : ∀ j : Json, j.without (fun _ => false) = j
  | .array js => by rw [without, withoutElements_false]
  | .object ms => by rw [without, withoutMembers_false]
  | .null | .bool _ | .number _ | .string _ | .unreadable => by rw [without] <;> nofun

theorem withoutElements_false : ∀ (index : Nat) (js : List Json),
    withoutElements (fun _ => false) index js = js
  | _, [] => rfl
  | index, j :: rest => by
      rw [withoutElements, without_false j, withoutElements_false (index + 1) rest]

theorem withoutMembers_false : ∀ ms : List (String × Json),
    withoutMembers (fun _ => false) ms = ms
  | [] => rfl
  | (k, j) :: rest => by
      rw [withoutMembers, if_neg Bool.false_ne_true, without_false j, withoutMembers_false rest]

end

theorem without_ne_null {j : Json} (h : j ≠ .null) (chosen : Place → Bool) :
    j.without chosen ≠ .null := by
  cases j with
  | null => exact absurd rfl h
  | _ => rw [without] <;> nofun

theorem withoutMembers_append (chosen : Place → Bool) (ms ms' : List (String × Json)) :
    withoutMembers chosen (ms ++ ms') = withoutMembers chosen ms ++ withoutMembers chosen ms' := by
  induction ms with
  | nil => rfl
  | cons e ms ih =>
      rw [List.cons_append, withoutMembers, withoutMembers, ih]
      split
      · rfl
      · rw [List.cons_append]

/-- Only names that were there are left. -/
theorem exists_mem_of_mem_withoutMembers {chosen : Place → Bool} {ms : List (String × Json)}
    {e : String × Json} (h : e ∈ withoutMembers chosen ms) : ∃ j, (e.1, j) ∈ ms := by
  induction ms with
  | nil => cases h
  | cons e' ms ih =>
      rw [withoutMembers] at h
      split at h
      · exact (ih h).imp fun _ hj => List.mem_cons_of_mem _ hj
      · rcases List.mem_cons.mp h with rfl | h
        · exact ⟨e'.2, List.mem_cons_self⟩
        · exact (ih h).imp fun _ hj => List.mem_cons_of_mem _ hj

variable {α : Type} {encode : α → Json} {decode : Json → Option α}

/-- Elements are read back if each is, without what goes from it. -/
theorem mapM_withoutElements {chosen : Place → Bool} {as : List α} {index : Nat}
    (h : ∀ i a, as[i]? = some a →
      decode ((encode a).without fun p => chosen (.element (index + i) :: p)) = some a) :
    (withoutElements chosen index (as.map encode)).mapM decode = some as := by
  induction as generalizing index with
  | nil => rfl
  | cons a as ih =>
      have hfirst := h 0 a rfl
      have hrest : (withoutElements chosen (index + 1) (as.map encode)).mapM decode = some as := by
        refine ih fun i b hb => ?_
        have hread := h (i + 1) b hb
        rwa [Nat.add_comm i 1, ← Nat.add_assoc] at hread
      rw [Nat.add_zero] at hfirst
      rw [List.map_cons, withoutElements, List.mapM_cons, hfirst, hrest]
      rfl

/-- Members are read back if none goes and each is read, without what goes from it. -/
theorem mapM_withoutMembers {chosen : Place → Bool} {es : List (String × α)}
    (hstay : ∀ e ∈ es, chosen [.member e.1] = false)
    (h : ∀ e ∈ es, decode ((encode e.2).without fun p => chosen (.member e.1 :: p)) = some e.2) :
    (withoutMembers chosen (es.map fun e => (e.1, encode e.2))).mapM
      (fun e => (decode e.2).map (e.1, ·)) = some es := by
  induction es with
  | nil => rfl
  | cons e es ih =>
      have hrest := ih (fun e' he' => hstay e' (List.mem_cons_of_mem _ he'))
        fun e' he' => h e' (List.mem_cons_of_mem _ he')
      have hfirst := hstay e List.mem_cons_self
      rw [List.map_cons, withoutMembers, hfirst, if_neg Bool.false_ne_true, List.mapM_cons,
        h e List.mem_cons_self, hrest]
      rfl

end Json

end Promotion
