/-
Requests to a session as data, so that whole runs of them can be spoken about.

Main definitions:

* `FrameShader.Request` — one request with its arguments;
* `FrameShader.Reply` — what a request answers;
* `FrameShader.Request.run` — the request itself;
* `FrameShader.Session.replies`, `FrameShader.Session.after` — the answers to a list of requests,
  and the session they leave behind.
-/

import FrameShader.Session.Logging

set_option relaxedAutoImplicit false
set_option autoImplicit false

namespace FrameShader

/-- New values for some options. -/
structure OptionsChange where
  precision : Option Precision := none
  debugSymbols : Option Bool := none
  localSize : Option LocalSize := none
  deriving DecidableEq, Repr

/-- The options after a change. -/
def KernelOptions.change (o : KernelOptions) (c : OptionsChange) : KernelOptions :=
  ⟨c.precision.getD o.precision, c.debugSymbols.getD o.debugSymbols,
    c.localSize.getD o.localSize⟩

/-- One request to a session, with its arguments. -/
inductive Request where
  /-- Asks for the settings. -/
  | settings
  | giveSettings (settings : Settings)
  | setEnvironment (environment : Environment)
  | removeWorkingDirectory
  /-- Asks for the options by the settings. -/
  | options
  | loadSettings (path : String)
  | saveSettings (path : String)
  /-- Generates a kernel, by a change of the default options or by the settings. -/
  | loadImage (format : SensorFormat) (options : Option OptionsChange)
  /-- Makes a logger for messages. -/
  | openLogger
  | message (text : String)
  deriving DecidableEq, Repr

/-- What a request answers. -/
inductive Reply where
  | done
  | settings (settings : Settings)
  | options (options : KernelOptions)
  | kernel (kernel : Kernel)
  | logger (logger : Logger)
  | refused (cause : SettingsError)
  | failed (cause : LoadFailure)
  deriving Repr

namespace Reply

/-- The answer to a request that may be refused. -/
def ofResult {α : Type} (write : α → Reply) : Except SettingsError α → Reply
  | .ok a => write a
  | .error cause => .refused cause

end Reply

namespace Request

open Session

/-- The options that a request for a kernel names. -/
def optionsOf : Option OptionsChange → SessionM KernelOptions
  | some change => return KernelOptions.change {} change
  | none => optionsNow

/-- Sends a message to the logger of the session, if there is one. -/
def sendMessage (text : String) : SessionM Unit := do
  match (← get).logger with
  | none => return ()
  | some l =>
      let l ← writeLog l text
      modify fun s => { s with logger := some l }

/-- The request itself. -/
def run : Request → SessionM Reply
  | .settings => .settings <$> settingsNow
  | .giveSettings given => Reply.ofResult (fun _ => .done) <$> Session.giveSettings given
  | .setEnvironment environment => do
      modify fun s => { s with environment := environment }
      return .done
  | .removeWorkingDirectory => do
      modify fun s => { s with fileSystem := s.fileSystem.removeDirectory s.workingDirectory }
      return .done
  | .options => .options <$> optionsNow
  | .loadSettings path => Reply.ofResult .settings <$> Session.loadSettings path
  | .saveSettings path => Reply.ofResult (fun _ => .done) <$> Session.saveSettings path
  | .loadImage format change => do
      let chosen ← optionsOf change
      match ← Session.loadImage format chosen with
      | .ok k => return .kernel k
      | .error cause => return .failed cause
  | .openLogger => do
      let l ← Session.openLogger
      modify fun s => { s with logger := some l }
      return .logger l
  | .message text => do
      sendMessage text
      return .done

end Request

/-! ### Runs -/

namespace Session

/-- The answer to a request, and the session it leaves behind. -/
def answer (s : Session) (r : Request) : Reply × Session := r.run.run s

/-- The session that a list of requests leaves behind. -/
def after (s : Session) (rs : List Request) : Session := rs.foldl (fun s r => (s.answer r).2) s

/-- The answers to a list of requests. -/
def replies (s : Session) : List Request → List Reply
  | [] => []
  | r :: rs => (s.answer r).1 :: (s.answer r).2.replies rs

@[simp] theorem after_nil (s : Session) : s.after [] = s := rfl

@[simp] theorem after_cons (s : Session) (r : Request) (rs : List Request) :
    s.after (r :: rs) = (s.answer r).2.after rs := rfl

theorem after_append (s : Session) (rs ts : List Request) :
    s.after (rs ++ ts) = (s.after rs).after ts := List.foldl_append

end Session

end FrameShader
