import Promotion.Rehearsal.Fault
import Promotion.Rehearsal.Turnstile
import Promotion.Rehearsal.Script
import Promotion.World

/-!
# Rehearsals

Surroundings of a world that follow a plan and write down what is asked of
them.

A rehearsal shows what a controller does when its collaborators fail, differ or
change their minds. Everything that is left to chance elsewhere is settled
here: the clock moves on by a microsecond whenever it is read, identifiers are
counted, requests fail as planned, and gates and verifier answer by scripts.

## Main definitions

* `Rehearsal.timeAt`, `Rehearsal.idAt`: What clock and identifiers show.
* `Rehearsal.Stage`: The plan that is left, and what was asked.
* `Rehearsal.surroundings`: The surroundings that follow the plan.
-/

namespace Promotion

namespace Rehearsal

/-- The time that the clock shows when it is read after `reads` times. The second of the start is
    never left. -/
def timeAt (reads : Nat) : Timestamp :=
  (Timestamp.ofFields? 2026 3 14 15 9 26 (535000001 + 1000 * (reads % 400000))).getD .epoch

/-- The identifier that is made after `made` others. -/
def idAt (made : Nat) : PromotionId :=
  ⟨⟨BitVec.ofNat 128 (0x1adde7ed000040008000000000000001 + made)⟩⟩

/-- A call of a verifier. -/
structure VerifyCall where
  artifact : Artifact
  content : List UInt8
  policy : Signature.Policy

/-- The plan that is left, and what was asked. -/
structure Stage where
  /-- How often the clock was read. -/
  reads : Nat
  /-- How many identifiers were made. -/
  made : Nat
  registryFaults : List Fault
  auditFaults : List Fault
  gates : GateScript
  /-- What the verifier's builds come to. -/
  buildScript : List (Except Signature.Failure Unit)
  /-- What the verifier thinks of digests; the digest `*` is any other. -/
  opinions : List (String × List Opinion)
  builds : Nat
  verifies : Nat
  /-- The checks that were called, with their subjects. -/
  gateCalls : List (String × Gate.Subject)
  verifyCalls : List VerifyCall
  deliveries : List Delivery

namespace Stage

/-- Nothing is planned and nothing was asked. -/
def quiet : Stage := ⟨0, 0, [], [], .checks [], [], [], 0, 0, [], [], []⟩

instance : Inhabited Stage := ⟨quiet⟩

/-- The stage with nothing written down. What was counted stays. -/
def cleared (s : Stage) : Stage :=
  { s with gateCalls := [], verifyCalls := [], deliveries := [] }

/-- Reads the clock. -/
def clock (s : Stage) : Timestamp × Stage :=
  (timeAt s.reads, { s with reads := s.reads + 1 })

/-- Makes an identifier. -/
def freshId (s : Stage) : PromotionId × Stage :=
  (idAt s.made, { s with made := s.made + 1 })

/-- The stage after a check was called. -/
def called (name : String) (subject : Gate.Subject) (s : Stage) : Stage :=
  { s with gateCalls := s.gateCalls ++ [(name, subject)] }

/-- Builds the verifier. -/
def build : Call Stage Signature.Failure Unit := fun s =>
  let (answer, buildScript) := next s.buildScript
  (answer.getD (.ok ()), { s with buildScript, builds := s.builds + 1 })

/-- The verifier's next opinion of a digest. -/
def nextOpinion (digest : Digest) (s : Stage) : Option Opinion × Stage :=
  let own := (s.opinions.lookup digest.text).isSome
  let key := if own then digest.text else "*"
  let (opinion, rest) := next ((s.opinions.lookup key).getD [])
  (opinion, { s with
    opinions := s.opinions.map fun (k, script) => (k, if k = key then rest else script) })

/-- Verifies an artifact. A verifier without an opinion is not available. -/
def verify (artifact : Artifact) (content : List UInt8) (policy : Signature.Policy) :
    Call Stage Signature.Failure Signature.Verdict := fun s =>
  let (opinion, s) := s.nextOpinion artifact.digest
  let (now, s) := s.clock
  let text := (String.fromUTF8? ⟨content.toArray⟩).getD ""
  let answer := match opinion with
    | some o => o.answer text policy now
    | none => .error (.unavailable "no opinion")
  (answer, { s with
    verifies := s.verifies + 1
    verifyCalls := s.verifyCalls ++ [⟨artifact, content, policy⟩] })

/-- Takes an event for a webhook. -/
def dispatch : Webhook.Dispatcher Stage := fun event payload w =>
  Run.ofWorld fun s =>
    (.done, { s with deliveries := s.deliveries ++ [⟨event, payload, w.url⟩] })

end Stage

/-- The checks of a script. Each writes down that it was called. -/
def GateScript.table : GateScript → Gate.Checks Stage
  | .checks byName =>
    byName.foldl (fun checks (name, check) =>
      checks.withCheck name fun subject s => (check.answer subject, s.called name subject)) .empty
  | .results _ => .empty

/-- Runs the check of a gate. -/
def runGate : Gate.Runner Stage := fun name subject s =>
  match s.gates with
  | .checks _ => s.gates.table.runner name subject s
  | .results byName =>
    let outcome := match byName.lookup name with
      | some result => .ok result
      | none => .error (.unregistered name)
    (⟨outcome, 0, 0⟩, s.called name subject)

/-- What faults tell apart of a request to a registry, and the tag it is about. -/
def ofRegistry : Registry.Operation → Request × String
  | .resolve tag => (.resolve, tag)
  | .fetch tag => (.fetch, tag)
  | .create tag => (.create, tag)
  | .remove tag => (.remove, tag)

/-- What faults tell apart of a request to a log, and the tag it is about. -/
def ofAudit : Audit.Operation → Request × Option String
  | .append record => (.append, some record.tag)
  | .query question => (.query, question.tag)

/-- The surroundings that follow the plan. -/
def surroundings : Surroundings Stage where
  registryRefuses operation s :=
    let (request, tag) := ofRegistry operation
    let (message, registryFaults) := strike request (some tag) s.registryFaults
    (message.map .unavailable, { s with registryFaults })
  auditRefuses operation s :=
    let (request, tag) := ofAudit operation
    let (message, auditFaults) := strike request tag s.auditFaults
    (message.map fun m => .io (.reported m), { s with auditFaults })
  gates := runGate
  verifier := ⟨Stage.build, Stage.verify⟩
  dispatch := Stage.dispatch
  clock := Stage.clock
  freshId := Stage.freshId

end Rehearsal

end Promotion
