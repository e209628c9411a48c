import Promotion.Format.Record
import Promotion.Timestamp.Format

/-!
# Signatures

What a verifier can say of an artifact's signature, and what an environment
demands of it.

## Main definitions

* `Signature.Status`: A signature is valid, invalid or missing.
* `Signature.Verdict`: What verifying an artifact's signature found.
* `Signature.Policy`: Whose signature is asked for.
* `Signature.Enforcement`: What happens when it is not found.
* `Signature.Rule`: An environment's policy and enforcement.
-/

namespace Promotion

namespace Signature

/-- How a signature was found. -/
inductive Status where
  | valid
  | invalid
  | unsigned
  deriving DecidableEq, Repr, Inhabited

namespace Status

/-- The name of the status. -/
def name : Status → String
  | valid => "valid"
  | invalid => "invalid"
  | unsigned => "unsigned"

/-- The format of a status. -/
def format : Format Status := .oneOf [valid, invalid, unsigned] name

end Status

/-- What verifying an artifact's signature found. -/
structure Verdict where
  status : Status
  signer : Option String
  issuer : Option String
  /-- A proof of inclusion in the transparency log was checked. -/
  rekorVerified : Bool
  reason : Option String
  verifiedAt : Timestamp
  deriving DecidableEq, Inhabited

namespace Verdict

/-- A valid signature of a signer. -/
def valid (signer : String) (issuer : Option String) (verifiedAt : Timestamp) : Verdict :=
  ⟨.valid, some signer, issuer, false, none, verifiedAt⟩

/-- A signature that does not verify, with the reason. -/
def invalid (reason : String) (verifiedAt : Timestamp) : Verdict :=
  ⟨.invalid, none, none, false, some reason, verifiedAt⟩

/-- No signature, with the reason. -/
def unsigned (reason : String) (verifiedAt : Timestamp) : Verdict :=
  ⟨.unsigned, none, none, false, some reason, verifiedAt⟩

/-- The verdict with the answer of the transparency log. -/
def withRekor (v : Verdict) (rekorVerified : Bool) : Verdict :=
  { v with rekorVerified }

/-- The signature is valid. -/
def isValid (v : Verdict) : Bool :=
  v.status = .valid

/-- The members of a verdict. -/
def members : Members Verdict
    (Status → Option String → Option String → Bool → Option String → Timestamp → Verdict) :=
  .cons (.required "status" Status.format) status <|
  .cons (.defaulted "signer_identity" (.option .string) none) signer <|
  .cons (.defaulted "issuer" (.option .string) none) issuer <|
  .cons (.defaulted "rekor_verified" .bool false) rekorVerified <|
  .cons (.defaulted "failure_reason" (.option .string) none) reason <|
  .cons (.required "verified_at" Timestamp.format) verifiedAt .nil

/-- The format of a verdict. -/
def format : Format Verdict := .record mk members

end Verdict

/-- Whose signature is asked for. The verifier reads it; nothing else does. -/
structure Policy where
  identity : Option String
  issuer : Option String
  keyRef : Option String
  requireRekor : Bool
  deriving DecidableEq, Repr

namespace Policy

/-- Any signature. -/
def default : Policy := ⟨none, none, none, false⟩

instance : Inhabited Policy := ⟨default⟩

/-- The members of a policy. -/
def members : Members Policy
    (Option String → Option String → Option String → Bool → Policy) :=
  .cons (.defaulted "identity" (.option .string) none) identity <|
  .cons (.defaulted "issuer" (.option .string) none) issuer <|
  .cons (.defaulted "key_ref" (.option .string) none) keyRef <|
  .cons (.defaulted "require_rekor" .bool false) requireRekor .nil

/-- The format of a policy. -/
def format : Format Policy := .record mk members

end Policy

/-- What happens when the signature asked for is not found. -/
inductive Enforcement where
  /-- The promotion is refused. -/
  | enforce
  /-- The promotion goes on and its record says so. -/
  | warn
  /-- Nobody looks. -/
  | off
  deriving DecidableEq, Repr

namespace Enforcement

instance : Inhabited Enforcement := ⟨warn⟩

/-- The name of the enforcement. -/
def name : Enforcement → String
  | enforce => "enforce"
  | warn => "warn"
  | off => "off"

/-- The format of an enforcement. -/
def format : Format Enforcement := .oneOf [enforce, warn, off] name

end Enforcement

/-- An environment's demands on signatures. -/
structure Rule where
  enforcement : Enforcement
  policy : Policy
  deriving DecidableEq, Repr

namespace Rule

/-- A warning when there is no signature at all. -/
def default : Rule := ⟨.warn, .default⟩

instance : Inhabited Rule := ⟨default⟩

/-- The members of a rule. -/
def members : Members Rule (Enforcement → Policy → Rule) :=
  .cons (.defaulted "enforcement" Enforcement.format .warn) enforcement <|
  .cons (.defaulted "policy" Policy.format .default) policy .nil

/-- The format of a rule. -/
def format : Format Rule := .record mk members

end Rule

end Signature

end Promotion
