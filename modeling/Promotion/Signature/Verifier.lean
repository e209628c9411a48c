import Promotion.Action
import Promotion.Artifact
import Promotion.Error
import Promotion.Signature

/-!
# Verifying Signatures

What is asked of a verifier, and what its answer means under each enforcement.

A verifier may fail to answer, and it may answer that the signature is not
valid. Both count as failures. Where signatures are enforced a failure refuses
the promotion; where they are only asked for, it is logged and becomes a
verdict that says so; where nobody looks, there is a verdict that says that.

## Main definitions

* `Signature.Failure`: Why there is no valid signature.
* `Signature.Verifier`: What can be asked of a verifier.
* `Signature.Verdict.require`: A verdict, if it is valid.
* `Signature.skip`: The verdict where nobody looks.
* `Signature.judge`: What a verifier's answer means under an enforcement.
* `Signature.apply`: Asks a verifier under an enforcement.
-/

namespace Promotion

namespace Signature

/-- Why there is no valid signature. -/
inductive Failure where
  | invalid (reason : String)
  | unsigned (reason : String)
  | unavailable (reason : String)
  /-- The content that was to be verified could not be had. -/
  | content (reason : String)
  deriving DecidableEq, Repr

/-- The reason as people read it. -/
def Failure.message : Failure → String
  | invalid reason => "invalid signature: " ++ reason
  | unsigned reason => "artifact is not signed: " ++ reason
  | unavailable reason => "verifier unavailable: " ++ reason
  | content reason => "could not fetch artifact content: " ++ reason

/-- What can be asked of a verifier. It has to be built before it can verify. -/
structure Verifier (σ : Type) where
  build : Call σ Failure Unit
  verify (artifact : Artifact) (content : List UInt8) (policy : Policy) : Call σ Failure Verdict

/-- The reason recorded where nobody looks. -/
def disabledReason : String := "verification disabled (enforcement=off)"

/-- The verdict, if it is valid; else the failure that it stands for. -/
def Verdict.require (v : Verdict) : Except Failure Verdict :=
  match v.status with
  | .valid => .ok v
  | .unsigned => .error (.unsigned (v.reason.getD "no signature found"))
  | .invalid => .error (.invalid (v.reason.getD "signature rejected"))

/-- The refusal of an artifact. -/
def refusal (artifact : Artifact) (reason : String) : Promotion.Error :=
  .signatureRejected artifact.label reason

variable {σ : Type}

/-- The verdict where nobody looks. -/
def skip (clock : σ → Timestamp × σ) (artifact : Artifact) : Run σ Verdict := do
  Run.emit <| .audited .info "verification_skipped" "Signature verification skipped"
    [("artifact", artifact.label)]
  let now ← Run.ofWorld clock
  return .unsigned disabledReason now

/-- What a failure means where signatures are only asked for: a verdict that says so. -/
def tolerate (clock : σ → Timestamp × σ) (artifact : Artifact) (failure : Failure) :
    Run σ Verdict := do
  Run.emit <| .audited .error "verification_failed" "Signature verification failed, continuing"
    [("artifact", artifact.label), ("enforcement", Enforcement.warn.name),
      ("error", failure.message)]
  let now ← Run.ofWorld clock
  return .invalid failure.message now

/-- What a verifier's answer means under an enforcement that looks. -/
def judge (clock : σ → Timestamp × σ) (enforcement : Enforcement) (artifact : Artifact)
    (answer : Except Failure Verdict) : Action σ Promotion.Error Verdict :=
  match answer.bind Verdict.require with
  | .ok verdict => return verdict
  | .error failure =>
    match enforcement with
    | .enforce => do
      Action.emit <| .plain .warn "Signature verification rejected artifact"
        [("artifact", artifact.label), ("error", failure.message)]
      throw (refusal artifact failure.message)
    | _ => ExceptT.lift (tolerate clock artifact failure)

/-- Asks a verifier under an enforcement. Where nobody looks it is not asked. -/
def apply (clock : σ → Timestamp × σ) (enforcement : Enforcement) (artifact : Artifact)
    (ask : Call σ Failure Verdict) : Action σ Promotion.Error Verdict :=
  match enforcement with
  | .off => ExceptT.lift (skip clock artifact)
  | _ => do
    let answer ← Action.ofWorld ask
    judge clock enforcement artifact answer

end Signature

end Promotion
