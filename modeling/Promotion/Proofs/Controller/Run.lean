import Promotion.Proofs.Controller.Mirror

/-!
# Runs of a Controller

Promotions one after the other, of one controller.

## Main definitions

* `runAll`: The answers to some requests, and the state after them.
* `after`: The state of a new controller after some requests.
* `Along`: What holds of every request of a run when it is made.

## Theorems

* `runAll_append`: A run is cut in two anywhere.
* `runAll_map`: A run in a larger world is the run in a part of it.
-/

namespace Promotion

namespace Controller

variable {σ τ : Type}

/-- The answers to some requests in order, and the state after them. -/
def runAll (c : Controller σ) :
    List Request → Traced (State σ) → List (Except Error Record) × Traced (State σ)
  | [], t => ([], t)
  | r :: rest, t =>
    let (answer, t) := (c.promote r).outcome t
    let (answers, t) := runAll c rest t
    (answer :: answers, t)

/-- The state of a new controller after some requests. -/
def after (c : Controller σ) (w : σ) (rs : List Request) : Traced (State σ) :=
  (c.runAll rs ⟨.fresh w, []⟩).2

/-- Along a run, something holds of every request and the state that it is made in. -/
def Along (c : Controller σ) (Q : Request → Traced (State σ) → Prop) :
    List Request → Traced (State σ) → Prop
  | [], _ => True
  | r :: rest, t => Q r t ∧ Along c Q rest ((c.promote r).outcome t).2

theorem along_of_forall {c : Controller σ} {Q : Request → Traced (State σ) → Prop}
    (h : ∀ r t, Q r t) (rs : List Request) (t : Traced (State σ)) : c.Along Q rs t := by
  induction rs generalizing t with
  | nil => trivial
  | cons r rest ih => exact ⟨h r t, ih _⟩

/-- A run is cut in two anywhere. -/
theorem runAll_append (c : Controller σ) (rs rs' : List Request) (t : Traced (State σ)) :
    c.runAll (rs ++ rs') t = ((c.runAll rs t).1 ++ (c.runAll rs' (c.runAll rs t).2).1,
      (c.runAll rs' (c.runAll rs t).2).2) := by
  induction rs generalizing t with
  | nil => rfl
  | cons r rest ih => simp only [List.cons_append, runAll, ih]

theorem after_concat (c : Controller σ) (w : σ) (rs : List Request) (r : Request) :
    c.after w (rs ++ [r]) = ((c.promote r).outcome (c.after w rs)).2 := by
  unfold after
  rw [runAll_append]
  rfl

/-- A run in a larger world is the run in a part of it. -/
theorem runAll_map {f : τ → σ} {pipeline : Pipeline} {uri : String} {larger : Collaborators τ}
    {k : Collaborators σ} (h : larger.Mirrors f k) (rs : List Request) (t : Traced (State τ)) :
    runAll ⟨pipeline, uri, k⟩ rs (t.map (State.map f)) =
      ((runAll ⟨pipeline, uri, larger⟩ rs t).1,
        (runAll ⟨pipeline, uri, larger⟩ rs t).2.map (State.map f)) := by
  induction rs generalizing t with
  | nil => rfl
  | cons r rest ih => simp only [runAll, promote_mirrors h r t, ih]

end Controller

end Promotion
