/-
Records of what the library did, in the order it did it.

Main definitions:

* `FrameShader.LogLevel`, `FrameShader.LogRecord` — a record and its weight;
* `FrameShader.LogRecord.text` — a record on one line.
-/

set_option relaxedAutoImplicit false
set_option autoImplicit false

namespace FrameShader

/-- How much a record matters. -/
inductive LogLevel where
  | warn | info | debug | trace
  deriving DecidableEq, Repr

/-- The level in words. -/
def LogLevel.name : LogLevel → String
  | .warn => "WARN"
  | .info => "INFO"
  | .debug => "DEBUG"
  | .trace => "TRACE"

/-- One thing that happened. -/
structure LogRecord where
  level : LogLevel
  message : String
  deriving DecidableEq, Repr

/-- The level and the message. -/
def LogRecord.text (r : LogRecord) : String := r.level.name ++ " " ++ r.message

end FrameShader
