import Promotion.Error
import Promotion.Proofs.Gate

/-!
# Calls of Checks

Which checks a run of gates calls, and what it makes of what they report.

The results of a run do not show the calls that led to them. `noting` is the
same runner in a world that takes the calls down, and the calls of a run are
what that world has taken down when it is over. `Reported` says how the three
lists belong together: there is one call and one result for each gate, and the
result is `Recorded` of the call.

A result is made of what was reported and of the configuration, and whether it
blocks is asked of the result later. `Recorded.blocks_eq` gives the answer from
the call and the gate alone: the gate is required, and the call failed in one of
the three ways in which it can. So the names of the gates that keep a promotion
back, too, are a matter of gates and calls.

## Main definitions

* `Gate.Noted`, `Gate.Runner.noting`: A call, and a runner whose world notes its calls.
* `Gate.calls`: The calls that a run of some gates makes.
* `Gate.Attempt.late`, `Gate.Attempt.failed`: A call took too long, or failed in any way.
* `Gate.Recorded`: What is recorded of a call.
* `Gate.Reported`: Every gate is called once and has its result.
* `Gate.stopping`: The required gates whose calls failed.

## Theorems

* `Gate.runList_noting`: Taking notes changes nothing.
* `Gate.reported_runList`: A run calls every gate once, and records what came of it.
* `Gate.Reported.blockingNames_eq`: The gates that block are those whose calls failed.
-/

namespace Promotion

namespace Gate

variable {σ : Type}

/-- One call of a check, with what came of it. -/
structure Noted where
  name : String
  subject : Subject
  attempt : Attempt

/-- The runner in a world that notes its calls. -/
def Runner.noting (runner : Runner σ) : Runner (σ × List Noted) := fun name subject w =>
  let (attempt, world) := runner name subject w.1
  (attempt, world, w.2 ++ [⟨name, subject, attempt⟩])

/-- The calls that a run of some gates makes, in order. -/
def calls (runner : Runner σ) (subject : Subject) (gates : List Gate) (t : Traced σ) :
    List Noted :=
  ((runList runner.noting subject gates).outcome (t.map (·, []))).2.world.2

/-- Taking notes changes nothing. -/
theorem runList_noting (runner : Runner σ) (subject : Subject) (gates : List Gate) :
    (runList runner.noting subject gates).Mirrors Prod.fst (runList runner subject gates) :=
  runList_mirrors (fun _ _ => rfl) gates

namespace Attempt

/-- The call took longer than the gate allows. -/
def late (a : Attempt) (gate : Gate) : Bool :=
  gate.timeoutSeconds.any fun seconds => 1000 * seconds.toNat < a.tookMs

/-- The call took too long, or nothing was reported, or a failure was. -/
def failed (a : Attempt) (gate : Gate) : Bool :=
  a.late gate || match a.outcome with
    | .error _ => true
    | .ok reported => reported.hasFailed

end Attempt

/-- What is recorded of a call for a gate. Name and rule are always the gate's own. -/
inductive Recorded (gate : Gate) (a : Attempt) : Result → Prop
  /-- The call took too long. -/
  | late {seconds : UInt64} : gate.timeoutSeconds = some seconds →
      1000 * seconds.toNat < a.tookMs →
      Recorded gate a
        { gate := gate.name, status := .failed, durationMs := a.measuredMs
          error := some ("gate timed out after " ++ Decimal.text seconds.toNat ++ "s")
          required := gate.required }
  /-- Nothing was reported. -/
  | erred {e : Error} : a.late gate = false → a.outcome = .error e →
      Recorded gate a
        { gate := gate.name, status := .failed, durationMs := a.measuredMs
          error := some e.message, required := gate.required }
  /-- A result was reported. -/
  | reported {reported : Result} : a.late gate = false → a.outcome = .ok reported →
      Recorded gate a
        { gate := gate.name, status := reported.status, durationMs := reported.durationMs
          error := reported.error, required := gate.required }

theorem Attempt.outcomeWithin_of_late {a : Attempt} {gate : Gate} (h : a.late gate = false) :
    a.outcomeWithin gate.timeoutSeconds = a.outcome := by
  unfold late at h
  unfold outcomeWithin
  cases hlimit : gate.timeoutSeconds with
  | none => rfl
  | some seconds =>
      rw [hlimit, Option.any_some, decide_eq_false_iff_not] at h
      exact if_neg h

/-- The result of a call is recorded of it. -/
theorem recorded_result (gate : Gate) (a : Attempt) : Recorded gate a (a.result gate) := by
  cases hlate : a.late gate with
  | true =>
      unfold Attempt.late at hlate
      cases hlimit : gate.timeoutSeconds with
      | none =>
          rw [hlimit] at hlate
          cases hlate
      | some seconds =>
          rw [hlimit, Option.any_some, decide_eq_true_iff] at hlate
          unfold Attempt.result Attempt.outcomeWithin
          simp only [hlimit, hlate, if_true]
          exact .late hlimit hlate
  | false =>
      unfold Attempt.result
      rw [Attempt.outcomeWithin_of_late hlate]
      cases houtcome : a.outcome with
      | error e => exact .erred hlate houtcome
      | ok reported => exact .reported hlate houtcome

/-- A result has its gate's name, and blocks if the gate is required and its call failed. -/
theorem Recorded.blocks_eq {gate : Gate} {a : Attempt} {result : Result}
    (h : Recorded gate a result) :
    result.gate = gate.name ∧ result.blocks = (gate.required && a.failed gate) := by
  cases h with
  | late hlimit htook =>
      have hlate : a.late gate = true := by
        rw [Attempt.late, hlimit, Option.any_some, decide_eq_true_iff]
        exact htook
      refine ⟨rfl, ?_⟩
      rw [Attempt.failed, hlate]
      rfl
  | erred hlate houtcome =>
      refine ⟨rfl, ?_⟩
      rw [Attempt.failed, hlate, houtcome]
      rfl
  | reported hlate houtcome =>
      refine ⟨rfl, ?_⟩
      rw [Attempt.failed, hlate, houtcome]
      rfl

/-- Every gate of a list is called once for a subject, in order, and has the result that is recorded
    of its call. -/
inductive Reported (subject : Subject) : List Gate → List Noted → List Result → Prop
  | nil : Reported subject [] [] []
  | cons {gate : Gate} {a : Attempt} {result : Result} {gates : List Gate} {calls : List Noted}
      {results : List Result} : Recorded gate a result → Reported subject gates calls results →
      Reported subject (gate :: gates) (⟨gate.name, subject, a⟩ :: calls) (result :: results)

/-- A run in a world that notes calls notes one for every gate, whatever the ones before it came
    to, and its results are recorded of them. -/
theorem reported_of_noting (runner : Runner σ) (subject : Subject) (gates : List Gate)
    (t : Traced (σ × List Noted)) :
    ∃ new, ((runList runner.noting subject gates).outcome t).2.world.2 = t.world.2 ++ new ∧
      Reported subject gates new ((runList runner.noting subject gates).outcome t).1 := by
  -- The rest of the gates is noted behind the first, so the notes to start with have to be any.
  induction gates generalizing t with
  | nil => exact ⟨[], (List.append_nil _).symm, .nil⟩
  | cons gate rest ih =>
      rcases outcome_runOne runner.noting subject gate t with ⟨log, hone⟩
      rcases ih ⟨(runner.noting gate.name subject t.world).2, log⟩ with ⟨new, hnotes, hrest⟩
      simp only [runList, Run.outcome_bind, Run.outcome_pure, hone]
      refine ⟨_ :: new, ?_, .cons (recorded_result gate _) hrest⟩
      rw [hnotes, Runner.noting, List.append_assoc]
      rfl

/-- A run calls every gate once, whatever the ones before it came to, and records what came of each
    call. -/
theorem reported_runList (runner : Runner σ) (subject : Subject) (gates : List Gate)
    (t : Traced σ) :
    Reported subject gates (calls runner subject gates t)
      ((runList runner subject gates).outcome t).1 := by
  rcases reported_of_noting runner subject gates (t.map (·, [])) with ⟨new, hnotes, hreported⟩
  rw [← congrArg Prod.fst (runList_noting runner subject gates (t.map (·, [])))] at hreported
  rw [calls, hnotes]
  exact hreported

/-- The names of the required gates whose calls failed, in order. -/
def stopping (gates : List Gate) (calls : List Noted) : List String :=
  ((gates.zip calls).filter fun p => p.1.required && p.2.attempt.failed p.1).map fun p => p.1.name

namespace Reported

variable {subject : Subject} {gates : List Gate} {noted : List Noted} {results : List Result}

/-- The gates that block are the required ones whose calls failed. -/
theorem blockingNames_eq (h : Reported subject gates noted results) :
    Promotion.Error.blockingNames results = stopping gates noted := by
  unfold Promotion.Error.blockingNames stopping
  induction h with
  | nil => rfl
  | cons hrecorded _ ih =>
      rcases hrecorded.blocks_eq with ⟨hname, hblocks⟩
      rw [List.zip_cons_cons, List.filter_cons, List.filter_cons, hblocks]
      split
      · rw [List.map_cons, List.map_cons, hname, ih]
      · exact ih

/-- Some result blocks exactly if there is such a gate. -/
theorem any_blocks_iff (h : Reported subject gates noted results) :
    results.any Result.blocks = true ↔
      ∃ p ∈ gates.zip noted, p.1.required = true ∧ p.2.attempt.failed p.1 = true := by
  induction h with
  | nil => simp
  | cons hrecorded _ ih =>
      rw [List.any_cons, Bool.or_eq_true, ih, hrecorded.blocks_eq.2, Bool.and_eq_true,
        List.zip_cons_cons]
      simp only [List.mem_cons, exists_eq_or_imp]

end Reported

end Gate

end Promotion
