import Promotion.Settings.File
import Promotion.Settings.Layer

/-!
# Loading Settings

The settings of a run, from a file that may be missing and the variables of the
process.

## Main definitions

* `Settings.load`: The settings, checked.
-/

namespace Promotion

namespace Settings

/-- The layer of a settings file; a file that is not there says nothing. None if it cannot be
    read. -/
def fileLayer? (directory : String → Option String) (path : Option String) : Option Layer :=
  match path.bind (locate? directory) with
  | none => some []
  | some (language, text) => language.read? text

/-- The settings of a run: what stands when nothing is set, then a file, then the variables of the
    process. They are checked before anybody sees them. -/
def load (directory : String → Option String) (path : Option String)
    (process : List (String × String)) : Except Error Settings := do
  let settings? := (fileLayer? directory path).bind fun file =>
    ofLayers? [.defaults, file, .ofVariables process]
  match settings? with
  | none => throw (.settings .unreadable)
  | some settings =>
    settings.validate
    return settings

end Settings

end Promotion
