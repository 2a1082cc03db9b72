/-
Settings as documents.

Settings stand in two tables, one within the other, with a key for each field.  Every field may be
left out and then has its default.  A path that is no text cannot be written.

Main definitions:

* `FrameShader.SettingsKey` — the keys of a settings document;
* `FrameShader.SettingsKey.document` — the entries of a document, whose keys have these nodes;
* `FrameShader.Settings.valueNode?` — the node of a key;
* `FrameShader.Settings.toNode?`, `FrameShader.Settings.ofNode?` — settings as nodes, and read back.
-/

import FrameShader.Document.Node
import FrameShader.Kernel.Form
import FrameShader.Settings.Basic

set_option relaxedAutoImplicit false
set_option autoImplicit false

namespace FrameShader

/-! ### Logging -/

/-- A level by its name. -/
def ForwardLevel.toNode (l : ForwardLevel) : Node := .text l.name

/-- The level that a node names. -/
def ForwardLevel.ofNode? (d : Dialect) : Node → Option ForwardLevel :=
  Node.choice? d (ForwardLevel.all.map fun l => (l.name, l))

/-- A detail by its name. -/
def LogDetail.toNode (l : LogDetail) : Node := .text l.name

/-- The detail that a node names. -/
def LogDetail.ofNode? (d : Dialect) : Node → Option LogDetail :=
  Node.choice? d (LogDetail.all.map fun l => (l.name, l))

/-- The path as a text, if it is one. -/
def LogPath.text? : LogPath → Option String
  | .text path => some path
  | .undecodable _ => none

/-- The text of the log file's path, if there is a log file; no answer if the path is no text. -/
def LogTargets.fileText? (t : LogTargets) : Option (Option String) :=
  match t.file with
  | none => some none
  | some path => path.text?.map some

/-- The outputs of the log that a node describes. -/
def LogTargets.ofNode? (d : Dialect) (n : Node) : Option LogTargets := do
  match ← n.fields? d
      [{ name := "file" }, { name := "append" }, { name := "stdout" }, { name := "stderr" },
       { name := "log" }, { name := "level" }] with
  | [file, append, stdout, stderr, forward, detail] =>
      let file ← Node.defaulting? none (Node.orNull? Node.text?) file
      return {
        file := file.map .text
        append := ← Node.defaulting? true Node.bool? append
        stdout := ← Node.defaulting? false Node.bool? stdout
        stderr := ← Node.defaulting? false Node.bool? stderr
        forward := ← Node.defaulting? none (Node.orNull? (ForwardLevel.ofNode? d)) forward
        detail := ← Node.defaulting? .disabled (LogDetail.ofNode? d) detail }
  | _ => none

/-! ### Keys -/

/-- The keys of a settings document. -/
inductive SettingsKey where
  | debugSymbols | precision | localSize | file | append | stdout | stderr | forward | detail
  deriving DecidableEq, Repr

namespace SettingsKey

/-- The name of a key. -/
def name : SettingsKey → String
  | .debugSymbols => "debug_symbols"
  | .precision => "precision"
  | .localSize => "local_size"
  | .file => "file"
  | .append => "append"
  | .stdout => "stdout"
  | .stderr => "stderr"
  | .forward => "log"
  | .detail => "level"

/-- The keys that speak of generated kernels, in order. -/
def ofCompilation : List SettingsKey := [.debugSymbols, .precision, .localSize]

/-- The keys that speak of the outputs of the log, in order. -/
def ofLogger : List SettingsKey := [.file, .append, .stdout, .stderr, .forward, .detail]

variable (node? : SettingsKey → Option Node)

/-- The entries of some keys, with their nodes.  A key without a node has no entry. -/
def entries (keys : List SettingsKey) : List (String × Node) :=
  keys.filterMap fun k => (node? k).map fun node => (k.name, node)

/-- The entries of the part that speaks of generated kernels.  The outputs of the log have a table
of their own there. -/
def compilation : List (String × Node) :=
  ("logger", .table (entries node? ofLogger)) :: entries node? ofCompilation

/-- The entries of a whole document. -/
def document : List (String × Node) := [("compilation", .table (compilation node?))]

end SettingsKey

/-! ### Settings -/

namespace Settings

/-- The node of a key, if it has a value. -/
def valueNode? (s : Settings) : SettingsKey → Option Node
  | .debugSymbols => some (.bool s.debugSymbols)
  | .precision => some s.precision.toNode
  | .localSize => some s.localSize.toNode
  | .file => (s.logger.file.bind LogPath.text?).map Node.text
  | .append => some (.bool s.logger.append)
  | .stdout => some (.bool s.logger.stdout)
  | .stderr => some (.bool s.logger.stderr)
  | .forward => s.logger.forward.map ForwardLevel.toNode
  | .detail => some s.logger.detail.toNode

/-- The node of a key, which is null without a value. -/
def nodeOrNull (s : Settings) (k : SettingsKey) : Node := (s.valueNode? k).getD .null

/-- The part of a settings document that speaks of generated kernels.  There is none if the path of
the log file is no text. -/
def compilationNode? (s : Settings) : Option Node :=
  s.logger.fileText?.map fun _ => .table (SettingsKey.compilation fun k => some (s.nodeOrNull k))

/-- The settings that such a part describes. -/
def ofCompilationNode? (d : Dialect) (n : Node) : Option Settings := do
  match ← n.fields? d
      [{ name := "logger" }, { name := "debug_symbols" }, { name := "precision" },
       { name := "local_size" }] with
  | [logger, debugSymbols, precision, localSize] =>
      return {
        logger := ← Node.defaulting? {} (LogTargets.ofNode? d) logger
        debugSymbols := ← Node.defaulting? false Node.bool? debugSymbols
        precision := ← Node.defaulting? .single (Precision.ofNode? d) precision
        localSize := ← Node.defaulting? .one (LocalSize.ofNode? d) localSize }
  | _ => none

/-- Settings as a document. -/
def toNode? (s : Settings) : Option Node :=
  s.logger.fileText?.map fun _ => .table (SettingsKey.document fun k => some (s.nodeOrNull k))

/-- The settings that a document describes. -/
def ofNode? (d : Dialect) (n : Node) : Option Settings := do
  match ← n.fields? d [{ name := "compilation" }] with
  | [compilation] => Node.defaulting? {} (ofCompilationNode? d) compilation
  | _ => none

end Settings

end FrameShader
