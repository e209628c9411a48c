import Promotion.Audit.Storage
import Promotion.Error
import Promotion.Log.Options

/-!
# Settings

Everything a person sets: where the artifacts are, the pipeline they go
through, where the audit log is kept, and what the log shows.

Whatever is left out has a default, but not every combination of defaults can
be run: a registry must be named and the pipeline must pass its own check.

## Main definitions

* `Settings`: Everything a person sets.
* `Settings.validate`: The settings can be run.
-/

namespace Promotion

/-- Everything a person sets. -/
structure Settings where
  /-- The address the artifacts live under. -/
  registry : String
  pipeline : Pipeline
  audit : Audit.Storage
  logging : Log.Options
  deriving DecidableEq

namespace Settings

/-- What stands when nothing is set. -/
def default : Settings := ⟨"", .empty, .memory, .default⟩

instance : Inhabited Settings := ⟨default⟩

/-- The members of settings. -/
def members : Members Settings
    (String → Pipeline → Audit.Storage → Log.Options → Settings) :=
  .cons (.defaulted "registry" .string "") registry <|
  .cons (.defaulted "promotion" Pipeline.format .empty) pipeline <|
  .cons (.defaulted "audit" (Audit.Storage.formatWithin (Json.nestingLimit - 1)) .memory) audit <|
  .cons (.defaulted "logging" Log.Options.format .default) logging .nil

/-- The format of settings. -/
def format : Format Settings := .record mk members

/-- The settings can be run: a registry is named and the pipeline passes its check. -/
def validate (s : Settings) : Except Error Unit :=
  if Text.allBlank s.registry then .error (.settings .noRegistry)
  else s.pipeline.validate.mapError fun fault => .settings (.pipeline fault)

end Settings

end Promotion
