import Promotion.Action

/-!
# Running Actions

What an action does, taken apart into what its steps do.

An action is a function from a world and a log, hidden behind two monad
transformers. `outcome` applies it, and the equations below say what each way
to build an action does to its outcome. Everything that is proved of a
controller goes through them, so no proof has to open the transformers.

An action that is a sequence has an outcome only through the outcome of its
first step. `bind_eq_ok` and `bind_eq_error` read that backwards: from how the
sequence ended they give back the step it ended in.

Most steps of a controller leave most of the world alone. `Preserves` is that
said of a property of the world, and it holds of a sequence when it holds of
each step, whatever the step answers. `Ends` is the same of what is answered.

## Main definitions

* `Run.outcome`, `Action.outcome`: The result, and world and log afterwards.
* `Run.Preserves`, `Action.Preserves`: A property of the world that stays true.
* `Action.Ends`: A property of what an action answers.

## Theorems

* `Action.outcome_bind`: A sequence goes on where its first step succeeded.
* `Action.bind_eq_ok`: A sequence succeeds in its last step.
* `Action.bind_eq_error`: A sequence fails in one of its steps.
* `Action.Preserves.bind`: A sequence preserves what its steps preserve.
* `Action.Ends.bind`: A sequence answers as its last step does, or its first failure.
-/

namespace Promotion

variable {σ ε ε' α β : Type}

instance decidableEqExcept [DecidableEq ε] [DecidableEq α] : DecidableEq (Except ε α)
  | .ok x, .ok y => decidable_of_iff (x = y) ⟨fun h => h ▸ rfl, fun h => Except.ok.inj h⟩
  | .error d, .error e => decidable_of_iff (d = e) ⟨fun h => h ▸ rfl, fun h => Except.error.inj h⟩
  | .ok _, .error _ => isFalse nofun
  | .error _, .ok _ => isFalse nofun

@[simp] theorem mapError_ok (f : ε → ε') (a : α) :
    Except.mapError f (Except.ok a : Except ε α) = .ok a := rfl

@[simp] theorem mapError_error (f : ε → ε') (e : ε) :
    Except.mapError f (Except.error e : Except ε α) = .error (f e) := rfl

theorem except_bind_eq_ok {x : Except ε α} {f : α → Except ε β} {b : β} (h : x >>= f = .ok b) :
    ∃ a, x = .ok a ∧ f a = .ok b := by
  cases x with
  | error e => cases h
  | ok a => exact ⟨a, rfl, h⟩

namespace Run

/-- The result of a run from a world and a log. -/
def outcome (r : Run σ α) (t : Traced σ) : α × Traced σ :=
  r t

@[simp] theorem outcome_pure (a : α) (t : Traced σ) : outcome (pure a) t = (a, t) := rfl

@[simp] theorem outcome_bind (r : Run σ α) (f : α → Run σ β) (t : Traced σ) :
    outcome (r >>= f) t = outcome (f (r.outcome t).1) (r.outcome t).2 := rfl

@[simp] theorem outcome_emit (e : Log.Event) (t : Traced σ) :
    outcome (emit e) t = ((), ⟨t.world, t.log ++ [e]⟩) := rfl

@[simp] theorem outcome_ofWorld (step : σ → α × σ) (t : Traced σ) :
    outcome (ofWorld step) t = ((step t.world).1, ⟨(step t.world).2, t.log⟩) := rfl

/-- A property of the world that a run does not end. -/
def Preserves (P : σ → Prop) (r : Run σ α) : Prop :=
  ∀ t, P t.world → P (r.outcome t).2.world

namespace Preserves

variable {P : σ → Prop}

theorem pure (a : α) : Preserves P (Pure.pure a : Run σ α) := fun _ h => h

theorem emit (e : Log.Event) : Preserves P (Run.emit e : Run σ Unit) := fun _ h => h

theorem ofWorld {step : σ → α × σ} (hstep : ∀ w, P w → P (step w).2) :
    Preserves P (Run.ofWorld step) := fun t h => hstep t.world h

theorem bind {r : Run σ α} {f : α → Run σ β} (hr : Preserves P r)
    (hf : ∀ a, Preserves P (f a)) : Preserves P (r >>= f) := fun t h =>
  hf (r.outcome t).1 (r.outcome t).2 (hr t h)

end Preserves

end Run

namespace Action

/-- The result of an action from a world and a log. -/
def outcome (a : Action σ ε α) (t : Traced σ) : Except ε α × Traced σ :=
  a t

@[simp] theorem outcome_pure (x : α) (t : Traced σ) :
    outcome (pure x : Action σ ε α) t = (.ok x, t) := rfl

@[simp] theorem outcome_throw (e : ε) (t : Traced σ) :
    outcome (throw e : Action σ ε α) t = (.error e, t) := rfl

@[simp] theorem outcome_emit (e : Log.Event) (t : Traced σ) :
    outcome (emit e : Action σ ε Unit) t = (.ok (), ⟨t.world, t.log ++ [e]⟩) := rfl

@[simp] theorem outcome_perform (call : Call σ ε α) (t : Traced σ) :
    outcome (perform call) t = ((call t.world).1, ⟨(call t.world).2, t.log⟩) := rfl

@[simp] theorem outcome_ofWorld (step : σ → α × σ) (t : Traced σ) :
    outcome (ofWorld step : Action σ ε α) t =
      (.ok (step t.world).1, ⟨(step t.world).2, t.log⟩) := rfl

@[simp] theorem outcome_lift (r : Run σ α) (t : Traced σ) :
    outcome (ExceptT.lift r : Action σ ε α) t = (.ok (r.outcome t).1, (r.outcome t).2) := rfl

@[simp] theorem outcome_observe (a : Action σ ε α) (t : Traced σ) :
    outcome (observe a : Action σ ε' (Except ε α)) t =
      (.ok (a.outcome t).1, (a.outcome t).2) := rfl

@[simp] theorem outcome_mapError (f : ε → ε') (a : Action σ ε α) (t : Traced σ) :
    outcome (mapError f a) t = ((a.outcome t).1.mapError f, (a.outcome t).2) := rfl

/-- A sequence goes on where its first step succeeded. -/
theorem outcome_bind (a : Action σ ε α) (f : α → Action σ ε β) (t : Traced σ) :
    outcome (a >>= f) t = match a.outcome t with
      | (.ok x, t₁) => (f x).outcome t₁
      | (.error e, t₁) => (.error e, t₁) := by
  cases h : a.outcome t with
  | mk r t₁ =>
      -- The transformers run the first step and match on its result.
      have hb : outcome (a >>= f) t = ExceptT.bindCont f (a.outcome t).1 (a.outcome t).2 := rfl
      rw [hb, h]
      cases r <;> rfl

/-- A sequence succeeds in its last step. -/
theorem bind_eq_ok {a : Action σ ε α} {f : α → Action σ ε β} {t t₂ : Traced σ} {y : β} :
    outcome (a >>= f) t = (.ok y, t₂) ↔
      ∃ x t₁, a.outcome t = (.ok x, t₁) ∧ (f x).outcome t₁ = (.ok y, t₂) := by
  rw [outcome_bind]
  rcases a.outcome t with ⟨e | x, t₁⟩
  · simp
  · constructor
    · intro h
      exact ⟨x, t₁, rfl, h⟩
    · rintro ⟨_, _, h, hf⟩
      cases h
      exact hf

/-- A sequence fails in its first step, or in its last step after the first succeeded. -/
theorem bind_eq_error {a : Action σ ε α} {f : α → Action σ ε β} {t t₂ : Traced σ} {e : ε}
    (h : outcome (a >>= f) t = (.error e, t₂)) :
    a.outcome t = (.error e, t₂) ∨
      ∃ x t₁, a.outcome t = (.ok x, t₁) ∧ (f x).outcome t₁ = (.error e, t₂) := by
  rw [outcome_bind] at h
  rcases hfirst : a.outcome t with ⟨d | x, t₁⟩
  · rw [hfirst] at h
    cases h
    exact .inl rfl
  · rw [hfirst] at h
    exact .inr ⟨x, t₁, rfl, h⟩

/-- A property of the world that an action does not end, whether it succeeds or fails. -/
def Preserves (P : σ → Prop) (a : Action σ ε α) : Prop :=
  ∀ t, P t.world → P (a.outcome t).2.world

namespace Preserves

variable {P : σ → Prop}

theorem pure (x : α) : Preserves P (Pure.pure x : Action σ ε α) := fun _ h => h

theorem throw (e : ε) : Preserves P (MonadExcept.throw e : Action σ ε α) := fun _ h => h

theorem emit (e : Log.Event) : Preserves P (Action.emit e : Action σ ε Unit) := fun _ h => h

theorem perform {call : Call σ ε α} (hcall : ∀ w, P w → P (call w).2) :
    Preserves P (Action.perform call) := fun t h => hcall t.world h

theorem ofWorld {step : σ → α × σ} (hstep : ∀ w, P w → P (step w).2) :
    Preserves P (Action.ofWorld step : Action σ ε α) := fun t h => hstep t.world h

theorem lift {r : Run σ α} (hr : Run.Preserves P r) :
    Preserves P (ExceptT.lift r : Action σ ε α) := hr

theorem observe {a : Action σ ε α} (ha : Preserves P a) :
    Preserves P (Action.observe a : Action σ ε' (Except ε α)) := ha

theorem mapError {f : ε → ε'} {a : Action σ ε α} (ha : Preserves P a) :
    Preserves P (Action.mapError f a) := ha

/-- A sequence preserves what its steps preserve. -/
theorem bind {a : Action σ ε α} {f : α → Action σ ε β} (ha : Preserves P a)
    (hf : ∀ x, Preserves P (f x)) : Preserves P (a >>= f) := by
  intro t h
  have h₁ := ha t h
  rw [outcome_bind]
  revert h₁
  rcases a.outcome t with ⟨e | x, t₁⟩ <;> intro h₁
  · exact h₁
  · exact hf x t₁ h₁

end Preserves

/-- A property of what an action answers, from whatever world it starts. -/
def Ends (Q : Except ε α → Prop) (a : Action σ ε α) : Prop :=
  ∀ t, Q (a.outcome t).1

namespace Ends

theorem pure {Q : Except ε α → Prop} {x : α} (h : Q (.ok x)) :
    Ends Q (Pure.pure x : Action σ ε α) := fun _ => h

theorem throw {Q : Except ε α → Prop} {e : ε} (h : Q (.error e)) :
    Ends Q (MonadExcept.throw e : Action σ ε α) := fun _ => h

theorem emit {Q : Except ε Unit → Prop} (e : Log.Event) (h : Q (.ok ())) :
    Ends Q (Action.emit e : Action σ ε Unit) := fun _ => h

theorem ofWorld {Q : Except ε α → Prop} {step : σ → α × σ} (h : ∀ x, Q (.ok x)) :
    Ends Q (Action.ofWorld step : Action σ ε α) := fun _ => h _

/-- An outcome that is observed is a value, and the property is one of that value. -/
theorem observe {Q : Except ε α → Prop} {Q' : Except ε' (Except ε α) → Prop} {a : Action σ ε α}
    (ha : Ends Q a) (h : ∀ x, Q x → Q' (.ok x)) :
    Ends Q' (Action.observe a : Action σ ε' (Except ε α)) := fun t => h _ (ha t)

theorem mapError {Q : Except ε' α → Prop} {f : ε → ε'} {a : Action σ ε α} (hok : ∀ x, Q (.ok x))
    (herror : ∀ e, Q (.error (f e))) : Ends Q (Action.mapError f a) := by
  intro t
  rw [outcome_mapError]
  cases (a.outcome t).1 with
  | ok x => exact hok x
  | error e => exact herror e

/-- A sequence answers as its last step does, or as its first step where that fails. -/
theorem bind {Q : Except ε α → Prop} {Q' : Except ε β → Prop} {a : Action σ ε α}
    {f : α → Action σ ε β} (ha : Ends Q a) (herror : ∀ e, Q (.error e) → Q' (.error e))
    (hf : ∀ x, Q (.ok x) → Ends Q' (f x)) : Ends Q' (a >>= f) := by
  intro t
  have hfirst := ha t
  rw [outcome_bind]
  revert hfirst
  rcases a.outcome t with ⟨e | x, t₁⟩ <;> intro hfirst
  · exact herror e hfirst
  · exact hf x hfirst t₁

end Ends

end Action

end Promotion
