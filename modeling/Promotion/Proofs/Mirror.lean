import Promotion.Proofs.Action

/-!
# Actions in Larger Worlds

An action that does in a larger world what another does in a part of it.

To say what a run did one wants to see more of it than its end. A world can be
made to remember more, and then the run in it is another run. `Mirrors` says
that it is the same one but for what is remembered: it has the same result and
the same log, and forgetting commutes with it. A sequence mirrors a sequence
when its steps do, so this too is shown once for each way to build an action.

## Main definitions

* `Traced.map`: A world and a log, seen in a part of the world.
* `Commutes`: A step of the larger world, seen in the part, is the other's step.
* `Run.Mirrors`, `Action.Mirrors`: The same of runs and actions.

## Theorems

* `Action.Mirrors.bind`: A sequence mirrors what its steps mirror.
-/

namespace Promotion

variable {σ τ ε ε' α β : Type}

/-- A world and a log, seen in a part of the world. -/
def Traced.map (f : τ → σ) (t : Traced τ) : Traced σ := ⟨f t.world, t.log⟩

@[simp] theorem Traced.map_world (f : τ → σ) (t : Traced τ) : (t.map f).world = f t.world := rfl

/-- A step of the larger world, seen in the part, is the other's step. -/
def Commutes (f : τ → σ) (larger : τ → α × τ) (step : σ → α × σ) : Prop :=
  ∀ w, step (f w) = ((larger w).1, f (larger w).2)

/-- A run in the larger world, seen in the part, is the other run. -/
def Run.Mirrors (f : τ → σ) (larger : Run τ α) (r : Run σ α) : Prop :=
  ∀ t, r.outcome (t.map f) = ((larger.outcome t).1, (larger.outcome t).2.map f)

/-- An action in the larger world, seen in the part, is the other action. -/
def Action.Mirrors (f : τ → σ) (larger : Action τ ε α) (a : Action σ ε α) : Prop :=
  ∀ t, a.outcome (t.map f) = ((larger.outcome t).1, (larger.outcome t).2.map f)

variable {f : τ → σ}

namespace Run.Mirrors

theorem pure (x : α) : Mirrors f (Pure.pure x : Run τ α) (Pure.pure x) := fun _ => rfl

theorem emit (e : Log.Event) : Mirrors f (Run.emit e) (Run.emit e) := fun _ => rfl

theorem ofWorld {larger : τ → α × τ} {step : σ → α × σ} (h : Commutes f larger step) :
    Mirrors f (Run.ofWorld larger) (Run.ofWorld step) := by
  intro t
  simp only [outcome_ofWorld, Traced.map_world, h t.world]
  rfl

theorem bind {larger : Run τ α} {r : Run σ α} {g' : α → Run τ β} {g : α → Run σ β}
    (hr : Mirrors f larger r) (hg : ∀ x, Mirrors f (g' x) (g x)) :
    Mirrors f (larger >>= g') (r >>= g) := by
  intro t
  simp only [outcome_bind, hr t]
  exact hg _ _

end Run.Mirrors

namespace Action.Mirrors

theorem pure (x : α) : Mirrors f (Pure.pure x : Action τ ε α) (Pure.pure x) := fun _ => rfl

theorem throw (e : ε) :
    Mirrors f (MonadExcept.throw e : Action τ ε α) (MonadExcept.throw e) := fun _ => rfl

theorem emit (e : Log.Event) :
    Mirrors f (Action.emit e : Action τ ε Unit) (Action.emit e) := fun _ => rfl

theorem perform {larger : Call τ ε α} {call : Call σ ε α} (h : Commutes f larger call) :
    Mirrors f (Action.perform larger) (Action.perform call) := by
  intro t
  simp only [outcome_perform, Traced.map_world, h t.world]
  rfl

theorem ofWorld {larger : τ → α × τ} {step : σ → α × σ} (h : Commutes f larger step) :
    Mirrors f (Action.ofWorld larger : Action τ ε α) (Action.ofWorld step) := by
  intro t
  simp only [outcome_ofWorld, Traced.map_world, h t.world]
  rfl

theorem lift {larger : Run τ α} {r : Run σ α} (h : Run.Mirrors f larger r) :
    Mirrors f (ExceptT.lift larger : Action τ ε α) (ExceptT.lift r) := by
  intro t
  simp only [outcome_lift, h t]

theorem observe {larger : Action τ ε α} {a : Action σ ε α} (h : Mirrors f larger a) :
    Mirrors f (Action.observe larger : Action τ ε' (Except ε α)) (Action.observe a) := by
  intro t
  simp only [outcome_observe, h t]

theorem mapError {g : ε → ε'} {larger : Action τ ε α} {a : Action σ ε α}
    (h : Mirrors f larger a) : Mirrors f (Action.mapError g larger) (Action.mapError g a) := by
  intro t
  simp only [outcome_mapError, h t]

/-- A sequence mirrors what its steps mirror. -/
theorem bind {larger : Action τ ε α} {a : Action σ ε α} {g' : α → Action τ ε β}
    {g : α → Action σ ε β} (ha : Mirrors f larger a) (hg : ∀ x, Mirrors f (g' x) (g x)) :
    Mirrors f (larger >>= g') (a >>= g) := by
  intro t
  rw [outcome_bind, outcome_bind, ha t]
  rcases larger.outcome t with ⟨e | x, t₁⟩
  · rfl
  · exact hg x t₁

end Action.Mirrors

end Promotion
