import Promotion.Gate.Run
import Promotion.Signature.Verifier

/-!
# Scripts

What gates and verifiers answer in a rehearsal.

A script is a list of answers. They are given one after the other, and the last
is given again and again.

## Main definitions

* `Rehearsal.next`: The next answer of a script.
* `Rehearsal.Opinion`: What a verifier answers.
* `Rehearsal.Check`: What the check of a gate answers.
* `Rehearsal.GateScript`: The checks, or the results that stand for them.
-/

namespace Promotion

namespace Rehearsal

/-- The next answer of a script, and the script after it. -/
def next {α : Type} : List α → Option α × List α
  | [] => (none, [])
  | [a] => (some a, [a])
  | a :: rest => (some a, rest)

/-- What a verifier answers. -/
inductive Opinion where
  | valid (signer : String) (issuer : Option String) (rekorVerified : Bool)
  | invalid (reason : String)
  | unsigned (reason : String)
  /-- This verdict, whatever the time. -/
  | verdict (v : Signature.Verdict)
  /-- The signature of somebody who may or may not be asked for. The content stands as issuer. -/
  | signedBy (signer : String)
  | failure (f : Signature.Failure)

namespace Opinion

/-- The answer for a content under a policy. -/
def answer (o : Opinion) (content : String) (policy : Signature.Policy) (now : Timestamp) :
    Except Signature.Failure Signature.Verdict :=
  match o with
  | valid signer issuer rekorVerified =>
    .ok ((Signature.Verdict.valid signer issuer now).withRekor rekorVerified)
  | invalid reason => .ok (.invalid reason now)
  | unsigned reason => .ok (.unsigned reason now)
  | verdict v => .ok v
  | failure f => .error f
  | signedBy signer =>
    let wanted := policy.identity.getD signer
    if wanted = signer then
      .ok ((Signature.Verdict.valid signer (some content) now).withRekor policy.requireRekor)
    else .error (.invalid ("signed by " ++ signer ++ ", expected " ++ wanted))

end Opinion

/-- What the check of a gate answers. -/
structure Check where
  outcome : Except Gate.Error Gate.Finding
  /-- The outcome of a dry run, if it is another. -/
  onDryRun : Option (Except Gate.Error Gate.Finding)
  tookMs : Nat

/-- The answer of the check to a subject. -/
def Check.answer (c : Check) (subject : Gate.Subject) : Gate.Answer :=
  ⟨if subject.dryRun then c.onDryRun.getD c.outcome else c.outcome, c.tookMs, 0⟩

/-- The checks of gates, or the results that stand for them, by name. -/
inductive GateScript where
  | checks (byName : List (String × Check))
  | results (byName : List (String × Gate.Result))

end Rehearsal

end Promotion
