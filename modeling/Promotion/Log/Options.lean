import Promotion.Format.Record

/-!
# Log Options

How much of the log is written, and in what form, as the settings say it.
-/

namespace Promotion

namespace Log

/-- How much of the log is written, and in what form. -/
structure Options where
  /-- The directives of the filter. -/
  level : String
  /-- Every line is a JSON object. -/
  json : Bool
  /-- Every line carries its time. JSON lines always do. -/
  timestamps : Bool
  deriving DecidableEq, Repr

namespace Options

/-- Everything from information up, as text with its time. -/
def default : Options := ⟨"info", false, true⟩

instance : Inhabited Options := ⟨default⟩

/-- The members of log options. -/
def members : Members Options (String → Bool → Bool → Options) :=
  .cons (.defaulted "level" .string "info") level <|
  .cons (.defaulted "json" .bool false) json <|
  .cons (.defaulted "timestamps" .bool true) timestamps .nil

/-- The format of log options. -/
def format : Format Options := .record mk members

end Options

end Log

end Promotion
