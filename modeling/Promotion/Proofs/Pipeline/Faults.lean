import Mathlib.Data.List.Nodup
import Promotion.Pipeline

/-!
# Everything Wrong with a Pipeline

The check of a pipeline, beside the list of all that is wrong with it.

The check reads a pipeline from front to back, keeps the names that it has seen
and stops at the first thing wrong. `faults` does neither. It holds every
environment, gate and webhook against those before it and lists whatever is
wrong, in the order of reading, with all that comes behind the first. So the
check is right if what it stops at is the head of that list, and a pipeline
passes if the list is empty, which is what `Sound` says without any order.

Names are looked for twice in the same way, among the gates of an environment
and among the environments. Both scans are `head?_inOrder` with a check of their
own, so the names seen are dealt with once.

## Main definitions

* `Pipeline.inOrder`: What is found of some elements, each held against those before it.
* `Pipeline.faults`: Everything wrong with a pipeline, in order of reading.
* `Pipeline.Sound`: Nothing is wrong with a pipeline.

## Theorems

* `Pipeline.head?_inOrder`: A scan with the names seen stops at the first thing found.
* `Pipeline.inOrder_eq_nil_iff`: Nothing is found where names are new each time.
* `Pipeline.firstFault_eq`: The check stops at the head of the list.
* `Pipeline.faults_eq_nil_iff`: The list is empty for a sound pipeline.
* `Pipeline.validate_exact`: What the check accepts, and what it reports otherwise.
-/

namespace Promotion

namespace Pipeline

section Scan

variable {α : Type}

/-- What is found of some elements in order, each held against those before it. -/
def inOrder (check : List α → α → List Fault) (xs : List α) : List Fault :=
  xs.zipIdx.flatMap fun (x, i) => check (xs.take i) x

theorem inOrder_cons (check : List α → α → List Fault) (x : α) (rest : List α) :
    inOrder check (x :: rest) = check [] x ++ inOrder (fun before => check (x :: before)) rest := by
  rw [inOrder, List.zipIdx_cons', List.flatMap_cons, List.flatMap_map]
  rfl

variable {check : List α → α → List Fault}

/-- A scan that keeps the names seen, and of each element tells the first thing that a check finds
    against those before it, stops at the first thing found of all. -/
theorem head?_inOrder (name : α → String) {scan : List String → List α → Option Fault}
    (hnil : ∀ seen, scan seen [] = none)
    (hcons : ∀ seen before x rest, (∀ n, n ∈ seen ↔ n ∈ before.map name) →
      scan seen (x :: rest) = (check before x).head?.or (scan (name x :: seen) rest))
    (xs : List α) : scan [] xs = (inOrder check xs).head? := by
  -- The names seen are those of the elements before, whichever way round they are kept.
  have hfrom : ∀ xs seen before, (∀ n, n ∈ seen ↔ n ∈ before.map name) →
      scan seen xs = (inOrder (fun more => check (before ++ more)) xs).head? := by
    intro xs
    induction xs with
    | nil => exact fun seen before _ => hnil seen
    | cons x rest ih =>
        intro seen before hseen
        have hmore : ∀ n, n ∈ name x :: seen ↔ n ∈ (before ++ [x]).map name := by
          intro n
          rw [List.mem_cons, hseen, List.map_append, List.mem_append, List.map_singleton,
            List.mem_singleton, or_comm]
        rw [hcons seen before x rest hseen, ih _ _ hmore, inOrder_cons, List.head?_append,
          List.append_nil]
        simp only [List.append_assoc, List.singleton_append]
  exact hfrom xs [] [] fun n => Iff.rfl

/-- Nothing is found if every element is right in itself and no name is used again. -/
theorem inOrder_eq_nil_iff {name : α → String} {Right : α → Prop}
    (h : ∀ before x, check before x = [] ↔ Right x ∧ name x ∉ before.map name) (xs : List α) :
    inOrder check xs = [] ↔ (∀ x ∈ xs, Right x) ∧ (xs.map name).Nodup := by
  induction xs generalizing check Right with
  | nil => simp [inOrder]
  | cons x rest ih =>
      -- Behind an element its name is one that is not right any more.
      have hrest : ∀ before y, check (x :: before) y = [] ↔
          (Right y ∧ name y ≠ name x) ∧ name y ∉ before.map name := by
        intro before y
        rw [h, List.map_cons, List.mem_cons, not_or, and_assoc]
      rw [inOrder_cons, List.append_eq_nil_iff, h, ih hrest, List.forall_mem_cons, List.map_cons,
        List.nodup_cons]
      simp only [List.map_nil, List.not_mem_nil, not_false_eq_true, and_true, List.mem_map,
        not_exists, not_and, imp_and, forall_and, and_assoc]

end Scan

/-- What is wrong with a gate of an environment that has some gates before it. -/
def gateFaults (environment : String) (before : List Gate) (g : Gate) : List Fault :=
  (if g.name ∈ before.map Gate.name then [.duplicateGate environment g.name] else []) ++
    if g.timeoutSeconds = some 0 then [.gateTimeout environment g.name] else []

/-- What is wrong with an environment that has some environments before it. -/
def environmentFaults (before : List Environment) (e : Environment) : List Fault :=
  (if Text.allBlank e.name then [.blankName] else []) ++
    ((if e.name ∈ before.map Environment.name then [.duplicateEnvironment e.name] else []) ++
      inOrder (gateFaults e.name) e.gates)

/-- What is wrong with a webhook. -/
def webhookFaults (w : Webhook) : List Fault :=
  (if Text.allBlank w.url then [.blankUrl] else []) ++
    if w.timeoutSeconds = 0 then [.webhookTimeout w.url] else []

/-- Everything wrong with a pipeline, in order of reading. -/
def faults (p : Pipeline) : List Fault :=
  (if p.environments = [] then [.noEnvironments] else []) ++
    (inOrder environmentFaults p.environments ++ p.webhooks.flatMap webhookFaults)

/-- Nothing is wrong with a pipeline. -/
structure Sound (p : Pipeline) : Prop where
  some_environment : p.environments ≠ []
  /-- A name has a character that is not blank. -/
  named : ∀ e ∈ p.environments, ∃ c ∈ e.name.toList, Text.isBlank c = false
  distinct : (p.environments.map Environment.name).Nodup
  gates_distinct : ∀ e ∈ p.environments, (e.gates.map Gate.name).Nodup
  gates_timed : ∀ e ∈ p.environments, ∀ g ∈ e.gates, g.timeoutSeconds ≠ some 0
  addressed : ∀ w ∈ p.webhooks, ∃ c ∈ w.url.toList, Text.isBlank c = false
  webhooks_timed : ∀ w ∈ p.webhooks, 0 < w.timeoutSeconds

theorem gateFault_eq (environment : String) (gates : List Gate) :
    gateFault environment [] gates = (inOrder (gateFaults environment) gates).head? := by
  refine head?_inOrder Gate.name (fun _ => rfl) (fun seen before g rest hseen => ?_) gates
  simp only [gateFault, gateFaults, List.contains_eq_mem, decide_eq_true_eq, hseen]
  split
  · rfl
  · split <;> rfl

theorem environmentFault_eq (es : List Environment) :
    environmentFault [] es = (inOrder environmentFaults es).head? := by
  refine head?_inOrder Environment.name (fun _ => rfl) (fun seen before e rest hseen => ?_) es
  -- The names of gates are forgotten from one environment to the next.
  simp only [environmentFault, environmentFaults, List.contains_eq_mem, decide_eq_true_eq, hseen,
    gateFault_eq]
  split
  · rfl
  · split <;> rfl

theorem webhookFault_eq (w : Webhook) : webhookFault w = (webhookFaults w).head? := by
  rw [webhookFault, webhookFaults]
  split
  · rfl
  · split <;> rfl

/-- The check stops at the head of the list. -/
theorem firstFault_eq (p : Pipeline) : p.firstFault = p.faults.head? := by
  rw [firstFault, faults, environmentFault_eq, funext webhookFault_eq]
  simp only [List.isEmpty_iff]
  split
  · rfl
  · rw [List.nil_append, List.head?_append, List.head?_flatMap]

theorem allBlank_eq_false_iff {s : String} :
    Text.allBlank s = false ↔ ∃ c ∈ s.toList, Text.isBlank c = false := by
  simp only [Text.allBlank, List.all_eq_false, Bool.not_eq_true]

theorem gateFaults_eq_nil_iff {environment : String} (before : List Gate) (g : Gate) :
    gateFaults environment before g = [] ↔
      g.timeoutSeconds ≠ some 0 ∧ g.name ∉ before.map Gate.name := by
  simp [gateFaults, and_comm]

theorem environmentFaults_eq_nil_iff (before : List Environment) (e : Environment) :
    environmentFaults before e = [] ↔
      (Text.allBlank e.name = false ∧ (∀ g ∈ e.gates, g.timeoutSeconds ≠ some 0) ∧
        (e.gates.map Gate.name).Nodup) ∧ e.name ∉ before.map Environment.name := by
  rw [environmentFaults, List.append_eq_nil_iff, List.append_eq_nil_iff,
    inOrder_eq_nil_iff gateFaults_eq_nil_iff]
  simp [and_assoc, and_comm]

theorem webhookFaults_eq_nil_iff (w : Webhook) :
    webhookFaults w = [] ↔ Text.allBlank w.url = false ∧ 0 < w.timeoutSeconds := by
  simp [webhookFaults, UInt64.pos_iff_ne_zero]

/-- The list is empty for a sound pipeline. -/
theorem faults_eq_nil_iff {p : Pipeline} : p.faults = [] ↔ p.Sound := by
  rw [faults, List.append_eq_nil_iff, List.append_eq_nil_iff,
    inOrder_eq_nil_iff environmentFaults_eq_nil_iff, List.flatMap_eq_nil_iff]
  simp only [webhookFaults_eq_nil_iff, allBlank_eq_false_iff]
  constructor
  · rintro ⟨hsome, ⟨henvironments, hdistinct⟩, hwebhooks⟩
    exact {
      some_environment := fun hempty => by simp [hempty] at hsome
      named := fun e he => (henvironments e he).1
      distinct := hdistinct
      gates_distinct := fun e he => (henvironments e he).2.2
      gates_timed := fun e he => (henvironments e he).2.1
      addressed := fun w hw => (hwebhooks w hw).1
      webhooks_timed := fun w hw => (hwebhooks w hw).2 }
  · intro h
    exact ⟨if_neg h.some_environment,
      ⟨fun e he => ⟨h.named e he, h.gates_timed e he, h.gates_distinct e he⟩, h.distinct⟩,
      fun w hw => ⟨h.addressed w hw, h.webhooks_timed w hw⟩⟩

theorem validate_eq_error_iff {p : Pipeline} {fault : Fault} :
    p.validate = .error fault ↔ p.faults.head? = some fault := by
  rw [validate, firstFault_eq]
  cases p.faults.head? <;> simp

/-- A pipeline passes its check if nothing is wrong with it. -/
theorem validate_eq_ok_iff {p : Pipeline} : p.validate = .ok () ↔ p.Sound := by
  rw [← faults_eq_nil_iff, validate, firstFault_eq]
  cases p.faults <;> simp

/-- The check is exact. It accepts a pipeline if there is an environment, no name is blank or used
    twice, no gate of an environment has the name of another, and no time is zero and no address
    blank; and otherwise it reports the first of all that is wrong, in order of reading. -/
theorem validate_exact (p : Pipeline) :
    (p.validate = .ok () ↔ p.Sound) ∧
    ∀ fault, p.validate = .error fault ↔ p.faults.head? = some fault :=
  ⟨validate_eq_ok_iff, fun _ => validate_eq_error_iff⟩

/-- Of three things that are wrong, the one read first is reported: the gates of an environment are
    read before the name of the next. -/
example :
    let gate : Gate := { (default : Gate) with name := "lint" }
    let dev := { Environment.named "dev" with gates := [gate, { gate with timeoutSeconds := some 0 }] }
    let p : Pipeline := ⟨[dev, .named " "], []⟩
    p.faults = [.duplicateGate "dev" "lint", .gateTimeout "dev" "lint", .blankName] ∧
      p.validate = .error (.duplicateGate "dev" "lint") := by decide

end Pipeline

end Promotion
