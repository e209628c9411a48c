import Promotion.PromotionId

/-!
# Failures of the Log

## Main definitions

* `Audit.IoFailure`: Why the place where a log is kept could not be used.
* `Audit.Error`: Why a log refused or failed.
* `Audit.Error.message`: The failure as people read it.
-/

namespace Promotion

namespace Audit

/-- Why the place where a log is kept could not be used. -/
inductive IoFailure where
  /-- There is a directory in the place of the file. -/
  | directory
  /-- There is no such place. -/
  | noSuchPlace
  /-- A line is no UTF-8. -/
  | notText
  /-- The storage gave a reason of its own. -/
  | reported (reason : String)
  deriving DecidableEq, Repr

/-- The reason as people read it. -/
def IoFailure.message : IoFailure → String
  | directory => "Is a directory (os error 21)"
  | noSuchPlace => "No such file or directory (os error 2)"
  | notText => "stream did not contain valid UTF-8"
  | reported reason => reason

/-- Why a log refused or failed. -/
inductive Error where
  /-- A dry run is never kept. -/
  | dryRunRecord (id : PromotionId)
  | io (failure : IoFailure)
  /-- A line is no entry. -/
  | malformedEntry
  /-- The entries are no chain. -/
  | integrityFailed (reason : String)
  deriving DecidableEq, Repr

/-- The failure as people read it. -/
def Error.message : Error → String
  | dryRunRecord id => "Refusing to persist dry-run record " ++ id.label
  | io failure => "IO error: " ++ failure.message
  | malformedEntry => "Serialization error: malformed entry"
  | integrityFailed reason => "Integrity verification failed: " ++ reason

end Audit

end Promotion
