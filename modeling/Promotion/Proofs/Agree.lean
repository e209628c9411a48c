import Promotion.Proofs.Action

/-!
# Actions That Agree

Two actions, each in a world of its own, that come to the same.

A claim about two runs, such as that one foretells the other, relates their
worlds and their results, but seldom by equality: clocks have gone on, and one
run has another identifier to give away. `Agree` leaves open what the relation
is. From related worlds both actions fail alike, or both succeed with related
values, and the worlds are related again. What is logged on the way is not
compared, since no action reads it.

Two sequences agree when their steps do, where the second steps may count on
what the first ones answered. That is shown once for each way to build an
action, and everything that is said of two runs of a controller is put together
from these rules. With equality on both places the rules say that an action does
not depend on the log.

## Main definitions

* `SameEnd`: The same failure, or related values.
* `Agrees`: Two steps of the world that agree.
* `Run.Agree`, `Action.Agree`: Two runs or actions that agree.

## Theorems

* `Action.Agree.bind`: Sequences agree when their steps do.
* `Action.Agree.outcome_eq`: What an action does, whatever was logged before.
-/

namespace Promotion

variable {σ τ ε ε' α β α' β' : Type}

/-- The same failure, or related values. -/
inductive SameEnd (V : α → β → Prop) : Except ε α → Except ε β → Prop
  | error (e : ε) : SameEnd V (.error e) (.error e)
  | ok {x : α} {y : β} : V x y → SameEnd V (.ok x) (.ok y)

theorem SameEnd.of_eq {V : α → α → Prop} (hV : ∀ x, V x x) (r : Except ε α) : SameEnd V r r := by
  cases r with
  | error e => exact .error e
  | ok x => exact .ok (hV x)

theorem SameEnd.eq {r r' : Except ε α} (h : SameEnd Eq r r') : r = r' := by
  cases h with
  | error e => rfl
  | ok h => rw [h]

theorem SameEnd.of_map_eq {f : α → α'} {g : β → α'} {r : Except ε α} {r' : Except ε β}
    (h : r.map f = r'.map g) : SameEnd (fun x y => f x = g y) r r' := by
  cases r with
  | error e =>
      cases r' with
      | error e' =>
          cases h
          exact .error e
      | ok y => cases h
  | ok x =>
      cases r' with
      | error e' => cases h
      | ok y => exact .ok (Except.ok.inj h)

theorem SameEnd.mapError {V : α → β → Prop} {r : Except ε α} {r' : Except ε β}
    (h : SameEnd V r r') (f : ε → ε') : SameEnd V (r.mapError f) (r'.mapError f) := by
  cases h with
  | error e => exact .error (f e)
  | ok h => exact .ok h

theorem SameEnd.map {V : α → β → Prop} {W : α' → β' → Prop} {r : Except ε α} {r' : Except ε β}
    (h : SameEnd V r r') {f : α → α'} {g : β → β'} (hfg : ∀ {x y}, V x y → W (f x) (g y)) :
    SameEnd W (r.map f) (r'.map g) := by
  cases h with
  | error e => exact .error e
  | ok h => exact .ok (hfg h)

/-- Two steps from related worlds have related answers and leave related worlds. -/
def Agrees (R : σ → τ → Prop) (V : α → β → Prop) (step : σ → α × σ) (step' : τ → β × τ) : Prop :=
  ∀ w w', R w w' → V (step w).1 (step' w').1 ∧ R (step w).2 (step' w').2

theorem Agrees.of_eq {V : α → α → Prop} (hV : ∀ x, V x x) (step : σ → α × σ) :
    Agrees Eq V step step := by
  rintro w _ rfl
  exact ⟨hV _, rfl⟩

/-- Two runs from related worlds have related results and leave related worlds. -/
def Run.Agree (R : σ → τ → Prop) (V : α → β → Prop) (r : Run σ α) (r' : Run τ β) : Prop :=
  ∀ t t', R t.world t'.world →
    V (r.outcome t).1 (r'.outcome t').1 ∧ R (r.outcome t).2.world (r'.outcome t').2.world

/-- Two actions from related worlds fail alike or have related results, and leave related worlds. -/
def Action.Agree (R : σ → τ → Prop) (V : α → β → Prop) (a : Action σ ε α) (a' : Action τ ε β) :
    Prop :=
  ∀ t t', R t.world t'.world →
    SameEnd V (a.outcome t).1 (a'.outcome t').1 ∧ R (a.outcome t).2.world (a'.outcome t').2.world

variable {R : σ → τ → Prop} {V : α → β → Prop} {W : α' → β' → Prop}

namespace Run.Agree

theorem pure {x : α} {y : β} (h : V x y) :
    Agree R V (Pure.pure x : Run σ α) (Pure.pure y : Run τ β) := fun _ _ hw => ⟨h, hw⟩

theorem emit (e e' : Log.Event) : Agree R Eq (Run.emit e) (Run.emit e') :=
  fun _ _ hw => ⟨rfl, hw⟩

theorem ofWorld {step : σ → α × σ} {step' : τ → β × τ} (h : Agrees R V step step') :
    Agree R V (Run.ofWorld step) (Run.ofWorld step') := fun t t' hw => h t.world t'.world hw

theorem bind {r : Run σ α} {r' : Run τ β} {f : α → Run σ α'} {f' : β → Run τ β'}
    (hr : Agree R V r r') (hf : ∀ x y, V x y → Agree R W (f x) (f' y)) :
    Agree R W (r >>= f) (r' >>= f') := by
  intro t t' hw
  rcases hr t t' hw with ⟨hx, hw⟩
  exact hf _ _ hx _ _ hw

end Run.Agree

namespace Action.Agree

theorem pure {x : α} {y : β} (h : V x y) :
    Agree R V (Pure.pure x : Action σ ε α) (Pure.pure y : Action τ ε β) :=
  fun _ _ hw => ⟨.ok h, hw⟩

theorem throw (e : ε) :
    Agree R V (MonadExcept.throw e : Action σ ε α) (MonadExcept.throw e : Action τ ε β) :=
  fun _ _ hw => ⟨.error e, hw⟩

theorem emit (e e' : Log.Event) :
    Agree R Eq (Action.emit e : Action σ ε Unit) (Action.emit e' : Action τ ε Unit) :=
  fun _ _ hw => ⟨.ok rfl, hw⟩

theorem perform {call : Call σ ε α} {call' : Call τ ε β} (h : Agrees R (SameEnd V) call call') :
    Agree R V (Action.perform call) (Action.perform call') :=
  fun t t' hw => h t.world t'.world hw

theorem ofWorld {step : σ → α × σ} {step' : τ → β × τ} (h : Agrees R V step step') :
    Agree R V (Action.ofWorld step : Action σ ε α) (Action.ofWorld step' : Action τ ε β) := by
  intro t t' hw
  rcases h t.world t'.world hw with ⟨hx, hw⟩
  exact ⟨.ok hx, hw⟩

theorem lift {r : Run σ α} {r' : Run τ β} (h : Run.Agree R V r r') :
    Agree R V (ExceptT.lift r : Action σ ε α) (ExceptT.lift r' : Action τ ε β) := by
  intro t t' hw
  rcases h t t' hw with ⟨hx, hw⟩
  exact ⟨.ok hx, hw⟩

theorem observe {a : Action σ ε α} {a' : Action τ ε β} (h : Agree R V a a') :
    Agree R (SameEnd V) (Action.observe a : Action σ ε' (Except ε α))
      (Action.observe a' : Action τ ε' (Except ε β)) := by
  intro t t' hw
  rcases h t t' hw with ⟨hx, hw⟩
  exact ⟨.ok hx, hw⟩

theorem mapError {f : ε → ε'} {a : Action σ ε α} {a' : Action τ ε β} (h : Agree R V a a') :
    Agree R V (Action.mapError f a) (Action.mapError f a') := by
  intro t t' hw
  rcases h t t' hw with ⟨hx, hw⟩
  exact ⟨hx.mapError f, hw⟩

/-- Sequences agree when their steps do, the second ones from related answers of the first. -/
theorem bind {a : Action σ ε α} {a' : Action τ ε β} {f : α → Action σ ε α'}
    {f' : β → Action τ ε β'} (ha : Agree R V a a')
    (hf : ∀ x y, V x y → Agree R W (f x) (f' y)) : Agree R W (a >>= f) (a' >>= f') := by
  intro t t' hw
  have hfirst := ha t t' hw
  rw [outcome_bind, outcome_bind]
  revert hfirst
  rcases a.outcome t with ⟨x, t₁⟩
  rcases a'.outcome t' with ⟨y, t₁'⟩
  rintro ⟨hend, hw⟩
  cases hend with
  | error e => exact ⟨.error e, hw⟩
  | ok hx => exact hf _ _ hx _ _ hw

/-- An action that agrees with itself does the same, whatever was logged before. -/
theorem outcome_eq {a : Action σ ε α} (h : Agree Eq Eq a a) {t t' : Traced σ}
    (hw : t.world = t'.world) : (a.outcome t).1 = (a.outcome t').1 ∧
      (a.outcome t).2.world = (a.outcome t').2.world := by
  rcases h t t' hw with ⟨hend, hw⟩
  exact ⟨hend.eq, hw⟩

end Action.Agree

end Promotion
