/-
Why settings cannot be loaded, saved or replaced.

Main definitions:

* `FrameShader.SettingsError` — the causes;
* `FrameShader.SettingsError.message` — the text of a cause.
-/

import FrameShader.Session.FileSystem
import FrameShader.Spirv.DataType

set_option relaxedAutoImplicit false
set_option autoImplicit false

namespace FrameShader

/-- Why settings cannot be loaded, saved or replaced. -/
inductive SettingsError where
  /-- The file cannot be used. -/
  | file (cause : FileError)
  /-- The file holds no settings. -/
  | format
  /-- The path of the log file is no text. -/
  | pathNotText
  /-- The path of the log file has more quotes in a row than can be counted. -/
  | overflow (operation : Overflow)
  /-- The settings of a process have been read or given before. -/
  | alreadySet
  deriving DecidableEq, Repr

/-- The text of a cause; what is wrong with the format of a file is not told. -/
def SettingsError.message : SettingsError → String
  | .file cause => "Can't access the configuration file: " ++ cause.message
  | .format => "The file provided doesn't have the right format: "
  | .pathNotText =>
      "Can't serialize the configuration: path contains invalid UTF-8 characters"
  | .overflow operation => operation.message
  | .alreadySet => "Cannot set the global configuration multiple times"

end FrameShader
