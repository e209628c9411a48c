import Promotion.Audit.Error
import Promotion.Digest
import Promotion.Gate
import Promotion.Pipeline

/-!
# Why a Promotion Fails

## Main definitions

* `Denial`: Why an operator may not promote.
* `SettingsFault`: Why settings cannot be used.
* `Error`: Why a promotion failed.
* `Error.message`: The reason as people read it.
-/

namespace Promotion

/-- Why an operator may not promote into an environment. -/
inductive Denial where
  /-- There is a list, and the operator is not on it. -/
  | notListed
  /-- The operator brought the tag into the source environment. -/
  | sameDuty (tag source : String)
  deriving DecidableEq, Repr

/-- The reason as people read it. -/
def Denial.message : Denial → String
  | notListed => "not in allowed operators or groups"
  | sameDuty tag source => "separation of duties: also promoted " ++ tag ++ " into " ++ source

/-- The parts a controller is made of. -/
inductive Part where
  | registryUri
  | registry
  | gateRunner
  | verifierProvider
  | auditStore
  deriving DecidableEq, Repr

/-- The name of the part. -/
def Part.name : Part → String
  | registryUri => "registry uri"
  | registry => "registry"
  | gateRunner => "gate_runner"
  | verifierProvider => "verifier_provider"
  | auditStore => "audit_store"

/-- Why settings cannot be used. -/
inductive SettingsFault where
  | pipeline (fault : Pipeline.Fault)
  | missing (part : Part)
  | unknownEnvironment (name : String)
  | noRegistry
  /-- The settings cannot be read at all. -/
  | unreadable
  deriving DecidableEq, Repr

/-- The reason as people read it. -/
def SettingsFault.message : SettingsFault → String
  | pipeline fault => fault.message
  | missing part => part.name ++ " required"
  | unknownEnvironment name => "unknown environment '" ++ name ++ "'"
  | noRegistry => "registry must be set"
  | unreadable => "settings cannot be read"

/-- Why a promotion failed. -/
inductive Error where
  | illegalMove (source target : String) (refusal : Pipeline.Refusal)
  | artifactNotFound (tag registry : String)
  /-- Required gates failed. All results are kept, not only theirs. -/
  | gatesFailed (tag : String) (digest : Digest) (environment : String)
      (results : List Gate.Result)
  | signatureRejected (artifact reason : String)
  | notAuthorized (operator environment : String) (denial : Denial)
  | registry (reason : String)
  | audit (error : Audit.Error)
  | settings (fault : SettingsFault)
  deriving DecidableEq, Repr

namespace Error

/-- The names of the gates that block, in order. -/
def blockingNames (results : List Gate.Result) : List String :=
  (results.filter Gate.Result.blocks).map Gate.Result.gate

/-- The reason as people read it. -/
def message : Error → String
  | illegalMove source target refusal =>
    "Invalid transition " ++ source ++ " -> " ++ target ++ ": " ++ refusal.message
  | artifactNotFound tag place =>
    "Artifact not found: tag '" ++ tag ++ "' does not resolve in " ++ place
  | gatesFailed tag digest environment results =>
    "Gate validation failed for " ++ tag ++ " (" ++ digest.text ++ ") into " ++ environment ++
      ": " ++ String.intercalate ", " (blockingNames results)
  | signatureRejected artifact reason =>
    "Signature verification failed for " ++ artifact ++ ": " ++ reason
  | notAuthorized operator environment denial =>
    "Operator '" ++ operator ++ "' is not authorized to promote into " ++ environment ++ ": " ++
      denial.message
  | registry reason => "Registry error: " ++ reason
  | audit error => "Audit store error: " ++ error.message
  | settings fault => "Configuration error: " ++ fault.message

end Error

end Promotion
