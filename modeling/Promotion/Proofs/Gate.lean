import Promotion.Gate.Run
import Promotion.Proofs.Agree
import Promotion.Proofs.Mirror

/-!
# Runs of Gates

What the gates of an environment leave behind when they have run.

A check belongs to somebody else, and so does the world it changes. Of a run
only two things are the library's own: that every gate is called, one after the
other, and that a result says what the configuration says of its gate. Both
hold whatever the checks do.

Two runs of the same gates hardly ever take the same time. If the checks report
the same in both, and come too late in both or in neither, the results are the
same but for how long each took.

## Main definitions

* `Gate.Result.untimed`: A result without its duration.
* `Gate.Attempt.Alike`: Two calls of a check that report the same.

## Theorems

* `Gate.outcome_runOne`: One gate is called, and what it reported is recorded.
* `Gate.outcome_runList_rules`: Every gate has its result, by its own rule.
* `Gate.runList_mirrors`: Checks of a larger world that do the same have the same results.
* `Gate.runList_agree`: Checks that report the same have the same results.
-/

namespace Promotion

namespace Gate

variable {σ : Type} (runner : Runner σ) (subject : Subject)

/-- One gate is called once. What it reported is recorded, and nothing else happens to the world,
    whether or not there is something to log. -/
theorem outcome_runOne (gate : Gate) (t : Traced σ) :
    ∃ log, (runOne runner subject gate).outcome t =
      ((runner gate.name subject t.world).1.result gate,
        ⟨(runner gate.name subject t.world).2, log⟩) := by
  simp only [runOne, Run.outcome_bind, Run.outcome_ofWorld]
  cases (runner gate.name subject t.world).1.event? gate subject.environment.name with
  | none => exact ⟨t.log, rfl⟩
  | some event => exact ⟨t.log ++ [event], rfl⟩

/-- Every gate has its result, in order, with the name and the rule that are configured. -/
theorem outcome_runList_rules (gates : List Gate) (t : Traced σ) :
    ((runList runner subject gates).outcome t).1.map (fun g => (g.gate, g.required)) =
      gates.map fun g => (g.name, g.required) := by
  induction gates generalizing t with
  | nil => rfl
  | cons gate rest ih =>
      rcases outcome_runOne runner subject gate t with ⟨log, hone⟩
      simp only [runList, Run.outcome_bind, Run.outcome_pure, hone, List.map_cons, ih]
      -- Whatever was reported, its name and rule were replaced by the gate's own.
      rfl

section Mirrors

variable {τ : Type} {f : τ → σ} {larger : Runner τ} {runner subject}
  (h : ∀ name, Commutes f (larger name subject) (runner name subject))

include h

theorem runOne_mirrors (gate : Gate) :
    (runOne larger subject gate).Mirrors f (runOne runner subject gate) := by
  refine .bind (.ofWorld (h gate.name)) fun attempt => ?_
  cases attempt.event? gate subject.environment.name with
  | none => exact .pure _
  | some event => exact .bind (.emit event) fun _ => .pure _

/-- Checks of a larger world that do the same in a part of it have the same results. -/
theorem runList_mirrors (gates : List Gate) :
    (runList larger subject gates).Mirrors f (runList runner subject gates) := by
  induction gates with
  | nil => exact .pure _
  | cons gate rest ih =>
      exact .bind (runOne_mirrors h gate) fun _ => .bind ih fun _ => .pure _

end Mirrors

/-- A result without its duration. -/
def Result.untimed (r : Result) : Result :=
  { r with durationMs := 0 }

/-- A result blocks or does not, however long it took. -/
theorem any_blocks_eq_of_untimed {results results' : List Result}
    (h : results.map Result.untimed = results'.map Result.untimed) :
    results.any Result.blocks = results'.any Result.blocks := by
  have hany : ∀ rs : List Result, rs.any Result.blocks = (rs.map Result.untimed).any Result.blocks := by
    intro rs
    rw [List.any_map]
    rfl
  rw [hany, h, ← hany]

/-- Two calls of a check report the same, and come too late for a limit both or neither. -/
structure Attempt.Alike (limit : Option UInt64) (a a' : Attempt) : Prop where
  outcome : SameEnd (InvImage Eq Result.untimed) a.outcome a'.outcome
  late : ∀ seconds, limit = some seconds →
    (1000 * seconds.toNat < a.tookMs ↔ 1000 * seconds.toNat < a'.tookMs)

theorem Attempt.Alike.outcomeWithin {limit : Option UInt64} {a a' : Attempt}
    (h : Alike limit a a') :
    SameEnd (InvImage Eq Result.untimed) (a.outcomeWithin limit) (a'.outcomeWithin limit) := by
  cases limit with
  | none => exact h.outcome
  | some seconds =>
      simp only [Attempt.outcomeWithin, h.late seconds rfl]
      split
      · exact .error _
      · exact h.outcome

/-- What is recorded of two calls that report the same differs in the durations only. -/
theorem Attempt.Alike.result {gate : Gate} {a a' : Attempt} (h : Alike gate.timeoutSeconds a a') :
    (a.result gate).untimed = (a'.result gate).untimed := by
  unfold Attempt.result
  have hend := h.outcomeWithin
  generalize a.outcomeWithin gate.timeoutSeconds = r at hend
  generalize a'.outcomeWithin gate.timeoutSeconds = r' at hend
  cases hend with
  | error e => rfl
  | @ok x y hxy =>
      -- Name and rule are overwritten on both sides, so only the rest has to be the same.
      simp only [InvImage, Result.untimed, Result.mk.injEq] at hxy ⊢
      rcases hxy with ⟨-, hstatus, -, herror, -⟩
      exact ⟨trivial, hstatus, trivial, herror, trivial⟩

/-- Gates whose checks report the same have the same results, but for the durations. -/
theorem runList_agree {τ : Type} {R : σ → τ → Prop} {runner : Runner σ} {runner' : Runner τ}
    {subject subject' : Subject} {gates : List Gate}
    (h : ∀ gate : Gate, Agrees R (Attempt.Alike gate.timeoutSeconds) (runner gate.name subject)
      (runner' gate.name subject')) :
    Run.Agree R (InvImage Eq (List.map Result.untimed)) (runList runner subject gates)
      (runList runner' subject' gates) := by
  have hone : ∀ gate : Gate, Run.Agree R (InvImage Eq Result.untimed) (runOne runner subject gate)
      (runOne runner' subject' gate) := by
    intro gate t t' hw
    rcases outcome_runOne runner subject gate t with ⟨log, hr⟩
    rcases outcome_runOne runner' subject' gate t' with ⟨log', hr'⟩
    rcases h gate t.world t'.world hw with ⟨halike, hw⟩
    rw [hr, hr']
    exact ⟨halike.result, hw⟩
  induction gates with
  | nil => exact .pure rfl
  | cons gate rest ih =>
      refine .bind (hone gate) fun x y hxy => .bind ih fun xs ys hxys => .pure ?_
      simp only [InvImage, List.map_cons] at hxy hxys ⊢
      rw [hxy, hxys]

end Gate

end Promotion
