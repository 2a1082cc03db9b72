/-
Settings: what kernels are generated with by default, and where their text is logged.

Main definitions:

* `FrameShader.LogDetail`, `FrameShader.ForwardLevel`, `FrameShader.LogPath` — whether texts of
  kernels are logged, at which level, and into which file;
* `FrameShader.LogTargets` — the outputs of the log;
* `FrameShader.Settings` — all of it;
* `FrameShader.Settings.overriddenBy` — the settings after the environment has had its say.
-/

import FrameShader.Kernel.Options
import FrameShader.Log
import FrameShader.Text.Quoted

set_option relaxedAutoImplicit false
set_option autoImplicit false

namespace FrameShader

/-! ### Logging -/

/-- Whether the texts of generated kernels are logged. -/
inductive LogDetail where
  | disabled
  | full
  deriving DecidableEq, Repr

/-- The name of a detail. -/
def LogDetail.name : LogDetail → String
  | .disabled => "disabled"
  | .full => "full"

/-- Every detail. -/
def LogDetail.all : List LogDetail := [.disabled, .full]

/-- At which level texts are handed on to the log of the process. -/
inductive ForwardLevel where
  | info | debug | trace
  deriving DecidableEq, Repr

namespace ForwardLevel

/-- The name of a level. -/
def name : ForwardLevel → String
  | .info => "info"
  | .debug => "debug"
  | .trace => "trace"

/-- Every level. -/
def all : List ForwardLevel := [.info, .debug, .trace]

/-- The level of the records. -/
def level : ForwardLevel → LogLevel
  | .info => .info
  | .debug => .debug
  | .trace => .trace

end ForwardLevel

/-- The path of a file: a text, or bytes that are none. -/
inductive LogPath where
  | text (path : String)
  | undecodable (bytes : List UInt8)
  deriving DecidableEq, Repr

/-- Where the texts of kernels are logged.  Several outputs may be in use. -/
structure LogTargets where
  file : Option LogPath := none
  /-- Whether the file keeps what it held before. -/
  append : Bool := true
  stdout : Bool := false
  stderr : Bool := false
  forward : Option ForwardLevel := none
  detail : LogDetail := .disabled
  deriving DecidableEq, Repr

/-! ### Settings -/

/-- The settings of a process. -/
structure Settings where
  logger : LogTargets := {}
  debugSymbols : Bool := false
  precision : Precision := .single
  localSize : LocalSize := .one
  deriving DecidableEq, Repr

/-- The options of kernels that are generated by these settings. -/
def Settings.options (s : Settings) : KernelOptions :=
  ⟨s.precision, s.debugSymbols, s.localSize⟩

/-! ### The environment -/

/-- The variables that override settings.  A variable whose value is no text counts as unset. -/
structure Environment where
  /-- Where the texts of kernels are logged. -/
  debugLog : Option String := none
  /-- The precision of kernels. -/
  precision : Option String := none
  deriving DecidableEq, Repr

/-- The outputs after a value was given for them: any value turns logging on but `0` and `false`,
which turn it off, and one that names no output is the path of a file. -/
def LogTargets.overriddenBy (t : LogTargets) (value : String) : LogTargets :=
  if value = "stdout" then { t with detail := .full, stdout := true }
  else if value = "stderr" then { t with detail := .full, stderr := true }
  else if value = "1" ∨ value = "true" then { t with detail := .full, forward := some .info }
  else if value = "0" ∨ value = "false" then { t with detail := .disabled }
  else { t with detail := .full, file := some (.text value) }

/-- The precision that a value names. -/
def Precision.ofVariable? (value : String) : Option Precision :=
  if value = "f32" ∨ value = "32" then some .single
  else if value = "f64" ∨ value = "64" then some .double
  else none

namespace Settings

/-- The settings after the environment has had its say, and what is to be logged about it. -/
def overriddenBy (s : Settings) (e : Environment) : Settings × List LogRecord :=
  let s :=
    match e.debugLog with
    | some value => { s with logger := s.logger.overriddenBy value }
    | none => s
  match e.precision with
  | none => (s, [])
  | some value =>
      match Precision.ofVariable? value with
      | some p => ({ s with precision := p }, [])
      | none =>
          (s, [⟨.warn, "Ignoring unknown VISUALMESH_PRECISION value " ++ quoted value⟩])

end Settings

end FrameShader
