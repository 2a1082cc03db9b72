/-
Sessions: a process that reads its settings once and generates kernels by them.

The settings of a session are given before anything asks for them, or else are found when something
asks for the first time: in a file of the working directory or of the nearest directory above that
has one, and then overridden by the environment.  After that they never change.

Main definitions:

* `FrameShader.Session` — the state of a process;
* `FrameShader.Session.settingsNow` — the settings, read if they have not been;
* `FrameShader.Session.giveSettings` — gives the settings;
* `FrameShader.Session.loadSettings`, `FrameShader.Session.saveSettings` — settings in files.
-/

import FrameShader.Session.FileSystem
import FrameShader.Settings.Error
import FrameShader.Settings.Toml
import FrameShader.Text.Utf8

set_option relaxedAutoImplicit false
set_option autoImplicit false

namespace FrameShader

/-- Where the texts of kernels go. -/
inductive LogOutput where
  | file (handle : WriteHandle)
  | stdout
  | stderr
  /-- The log of the session, at this level. -/
  | forward (level : ForwardLevel)
  deriving DecidableEq, Repr

/-- A logger: the settings it was made by, and its outputs in order. -/
structure Logger where
  settings : Settings
  outputs : List LogOutput
  deriving DecidableEq, Repr

/-- The state of a process. -/
structure Session where
  fileSystem : FileSystem := {}
  /-- The working directory, which may have been removed. -/
  workingDirectory : Location := []
  environment : Environment := {}
  /-- The settings, once they have been given or read. -/
  settings : Option Settings := none
  /-- The logger that messages go to. -/
  logger : Option Logger := none
  stdout : List UInt8 := []
  stderr : List UInt8 := []
  /-- What has happened, the oldest record first. -/
  log : List LogRecord := []
  deriving DecidableEq, Repr

/-- Steps of a session. -/
abbrev SessionM := StateM Session

namespace Session

/-! ### Small steps -/

/-- Adds records to the log. -/
def record (records : List LogRecord) : SessionM Unit :=
  modify fun s => { s with log := s.log ++ records }

/-- Adds a warning to the log. -/
def warn (message : String) : SessionM Unit := record [⟨.warn, message⟩]

/-! ### Finding settings -/

/-- The name of settings files. -/
def settingsFileName : FileName := utf8Bytes "visualmesh.toml"

/-- A location as a path from the root. -/
def locationText (l : Location) : String :=
  lossyText (l.flatMap fun name => 0x2F :: name)

/-- Directories from a location up to the root. -/
def directoriesAbove (l : Location) : List Location :=
  ((List.range (l.length + 1)).map fun n => l.take n).reverse

/-- The settings in a text. -/
def settingsOfText (text : String) : Except SettingsError Settings :=
  match Settings.ofToml? text with
  | some s => .ok s
  | none => .error .format

/-- The settings in a file. -/
def settingsOfFile (fs : FileSystem) (cwd : Location) (path : List UInt8) :
    Except SettingsError Settings :=
  match fs.readText cwd path with
  | .ok text => settingsOfText text
  | .error cause => .error (.file cause)

/-- The settings in a file at a location. -/
def settingsAt (fs : FileSystem) (l : Location) : Except SettingsError Settings :=
  settingsOfFile fs [] (l.flatMap fun name => 0x2F :: name)

/-- The settings of the nearest settings file, and what is to be logged about it.  A file that holds
no settings counts like none, and the search ends with it. -/
def discover (s : Session) : Settings × List LogRecord :=
  if !s.fileSystem.isDirectory s.workingDirectory then ({}, [])
  else
    let places := (directoriesAbove s.workingDirectory).map (· ++ [settingsFileName])
    match places.find? s.fileSystem.isFile with
    | none => ({}, [])
    | some place =>
        match settingsAt s.fileSystem place with
        | .ok settings => (settings, [])
        | .error cause =>
            ({}, [⟨.warn, "Ignoring " ++ locationText place ++ ": " ++ cause.message⟩])

/-- The settings of a session, which are read if they have neither been read nor given. -/
def settingsNow : SessionM Settings := do
  let s ← get
  match s.settings with
  | some settings => return settings
  | none =>
      let (found, findings) := s.discover
      let (settings, remarks) := found.overriddenBy s.environment
      record (findings ++ remarks)
      modify fun s => { s with settings := some settings }
      return settings

/-- Gives the settings of a session, which can be done once and before they are read. -/
def giveSettings (settings : Settings) : SessionM (Except SettingsError Unit) := do
  if (← get).settings.isSome then return .error .alreadySet
  else
    modify fun s => { s with settings := some settings }
    return .ok ()

/-! ### Settings in files -/

/-- Settings read from a file; those of the session stay as they are. -/
def loadSettings (path : String) : SessionM (Except SettingsError Settings) := do
  let s ← get
  return settingsOfFile s.fileSystem s.workingDirectory (utf8Bytes path)

/-- The file system where a file holds these settings. -/
def saved (fs : FileSystem) (cwd : Location) (path : String) (settings : Settings) :
    Except SettingsError FileSystem :=
  match settings.toToml? with
  | none => .error .pathNotText
  | some text =>
      if settings.isWritable then
        match fs.save cwd (utf8Bytes path) (utf8Bytes text) with
        | .ok fs => .ok fs
        | .error cause => .error (.file cause)
      else .error (.overflow .add)

/-- Writes the settings of the session into a file. -/
def saveSettings (path : String) : SessionM (Except SettingsError Unit) := do
  let settings ← settingsNow
  let s ← get
  match saved s.fileSystem s.workingDirectory path settings with
  | .ok fs =>
      set { s with fileSystem := fs }
      return .ok ()
  | .error cause => return .error cause

end Session

end FrameShader
