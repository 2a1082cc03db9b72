/-
Loggers of a session: the texts of kernels go to files, to the standard streams and to the log.

Main definitions:

* `FrameShader.Session.openLogger` — a logger by the settings of the session;
* `FrameShader.Session.writeLog` — a text to all outputs of a logger;
* `FrameShader.LoadFailure` — why there is no kernel;
* `FrameShader.Session.loadImage` — generates a kernel and logs its text.
-/

import FrameShader.Kernel.Basic
import FrameShader.Session.Basic

set_option relaxedAutoImplicit false
set_option autoImplicit false

namespace FrameShader

/-- The bytes of a path. -/
def LogPath.bytes : LogPath → List UInt8
  | .text path => utf8Bytes path
  | .undecodable bytes => bytes

/-- A path in messages. -/
def LogPath.shown (p : LogPath) : String := lossyText p.bytes

/-- The path that bytes are. -/
def LogPath.ofBytes (bytes : List UInt8) : LogPath :=
  match textOfUtf8? bytes with
  | some path => .text path
  | none => .undecodable bytes

/-- Why there is no kernel. -/
inductive LoadFailure where
  /-- No kernel has been generated. -/
  | generation (cause : Failure)
  /-- The text of the kernel was to be logged, but there is none. -/
  | listing (cause : ListingError)
  deriving DecidableEq, Repr

namespace Session

/-! ### Loggers -/

/-- The file of a logger, if there is one and it can be opened. -/
def openLogFile (t : LogTargets) : SessionM (List LogOutput) := do
  match t.file with
  | none => return []
  | some path =>
      let s ← get
      match s.fileSystem.openForWriting s.workingDirectory path.bytes t.append with
      | .ok (handle, fs) =>
          set { s with fileSystem := fs }
          return [.file handle]
      | .error cause =>
          warn ("Can't open log file " ++ path.shown ++ ": " ++ cause.message)
          return []

/-- The outputs of a logger besides its file. -/
def streamOutputs (t : LogTargets) : List LogOutput :=
  (if t.stdout then [.stdout] else []) ++ (if t.stderr then [.stderr] else [])
    ++ (t.forward.map LogOutput.forward).toList

/-- A logger by the settings of the session.  It has no outputs unless texts are logged. -/
def openLogger : SessionM Logger := do
  let settings ← settingsNow
  match settings.logger.detail with
  | .disabled => return ⟨settings, []⟩
  | .full =>
      let file ← openLogFile settings.logger
      return ⟨settings, file ++ streamOutputs settings.logger⟩

/-! ### Writing -/

/-- Writes a text to one output.  All outputs but the log end it with a new line. -/
def writeOutput (text : String) : LogOutput → SessionM LogOutput
  | .file handle => do
      let s ← get
      match s.fileSystem.write (utf8Bytes (text ++ "\n")) handle with
      | .ok (handle, fs) =>
          set { s with fileSystem := fs }
          return .file handle
      | .error cause =>
          warn ("Failed to write compilation log: " ++ cause.message)
          return .file handle
  | .stdout => do
      modify fun s => { s with stdout := s.stdout ++ utf8Bytes (text ++ "\n") }
      return .stdout
  | .stderr => do
      modify fun s => { s with stderr := s.stderr ++ utf8Bytes (text ++ "\n") }
      return .stderr
  | .forward level => do
      record [⟨level.level, text⟩]
      return .forward level

/-- Writes a text to several outputs in order. -/
def writeOutputs (text : String) : List LogOutput → SessionM (List LogOutput)
  | [] => return []
  | o :: os => do
      let o ← writeOutput text o
      let os ← writeOutputs text os
      return o :: os

/-- Writes a text to all outputs of a logger. -/
def writeLog (l : Logger) (text : String) : SessionM Logger := do
  return { l with outputs := ← writeOutputs text l.outputs }

/-! ### Kernels -/

/-- The options of the session. -/
def optionsNow : SessionM KernelOptions := do
  return (← settingsNow).options

/-- Logs the text of a kernel with a logger of its own. -/
def logKernel (k : Kernel) : SessionM (Except ListingError Unit) := do
  let l ← openLogger
  match l.settings.logger.detail with
  | .disabled => return .ok ()
  | .full =>
      match k.text with
      | .error cause => return .error cause
      | .ok text =>
          let _ ← writeLog l text
          return .ok ()

/-- Generates the kernel of a format, and logs its text if the settings say so. -/
def loadImage (format : SensorFormat) (options : KernelOptions) :
    SessionM (Except LoadFailure Kernel) := do
  let (result, records) := Kernel.generate format options
  record records
  match result with
  | .error cause => return .error (.generation cause)
  | .ok k =>
      match ← logKernel k with
      | .error cause => return .error (.listing cause)
      | .ok () => return .ok k

end Session

end FrameShader
