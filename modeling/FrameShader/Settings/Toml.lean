/-
Settings as TOML documents.

A document has a header for each table, and under it the values of the table, one after another.
Tables that stand within a table follow it.  What has no value is left out.

Only such values can be written as settings have: truth values, texts, numbers that are not
negative, and lists of these.  Names are written as they are.

Main definitions:

* `FrameShader.Settings.valueText?` — a value in writing;
* `FrameShader.Settings.documentText` — tables in writing;
* `FrameShader.Settings.toTomlOf`, `FrameShader.Settings.toToml?` — a document with some keys, and
  with all of them;
* `FrameShader.Settings.isWritable` — whether a document can be written;
* `FrameShader.Settings.ofToml?` — the settings that a document holds.
-/

import FrameShader.Document.Toml.Reader
import FrameShader.Document.Toml.Text
import FrameShader.Settings.Form

set_option relaxedAutoImplicit false
set_option autoImplicit false

namespace FrameShader

namespace Settings

/-! ### Writing -/

/-- A value on one line, if it is one that settings have. -/
def scalarText? : Node → Option (List Char)
  | .bool value => some (if value then "true" else "false").toList
  | .int (.ofNat value) => some (Nat.toDigits 10 value)
  | .text value => some (Toml.writeText value.toList)
  | _ => none

/-- A list on several lines. -/
def listText (items : List (List Char)) : List Char :=
  "[\n".toList ++ items.flatMap (fun item => "    ".toList ++ item ++ ",\n".toList) ++ "]".toList

/-- A value in writing, if it is one that settings have. -/
def valueText? : Node → Option (List Char)
  | .list items => (items.mapM scalarText?).map listText
  | n => scalarText? n

/-- An entry in writing.  Nothing stands here for a table. -/
def entryText (e : String × Node) : List Char :=
  match valueText? e.2 with
  | some value => e.1.toList ++ " = ".toList ++ value ++ "\n".toList
  | none => []

/-- The header of the table that a path leads to. -/
def headerText (path : List String) : List Char :=
  "[".toList ++ ".".toList.intercalate (path.map String.toList) ++ "]\n".toList

/-- A table in writing. -/
def tableText (path : List String) (entries : List (String × Node)) : List Char :=
  headerText path ++ entries.flatMap entryText

mutual

/-- The table that a path leads to in writing, and then those within it. -/
def nodeTexts (path : List String) : Node → List (List Char)
  | .table entries => tableText path entries :: tableTexts path entries
  | _ => []

/-- The tables in writing that stand among the entries of a table. -/
def tableTexts (path : List String) : List (String × Node) → List (List Char)
  | [] => []
  | (name, node) :: rest => nodeTexts (path ++ [name]) node ++ tableTexts path rest

end

/-- A document of tables, with an empty line between them. -/
def documentText (entries : List (String × Node)) : List Char :=
  "\n".toList.intercalate (tableTexts [] entries)

/-- The node of a key, if it has a value and is kept. -/
def keptNode? (kept : SettingsKey → Bool) (s : Settings) (k : SettingsKey) : Option Node :=
  if kept k then s.valueNode? k else none

/-- The document that has those keys that satisfy `kept`. -/
def toTomlOf (kept : SettingsKey → Bool) (s : Settings) : String :=
  String.ofList (documentText (SettingsKey.document (s.keptNode? kept)))

/-- The document of settings.  There is none if the path of the log file is no text. -/
def toToml? (s : Settings) : Option String :=
  s.logger.fileText?.map fun _ => s.toTomlOf fun _ => true

/-- Whether the form of the log file's path can be chosen, so that the document can be written. -/
def isWritable (s : Settings) : Bool :=
  match s.logger.file.bind LogPath.text? with
  | some path => Toml.countable path.toList
  | none => true

/-! ### Reading -/

/-- The settings that a document holds. -/
def ofToml? (text : String) : Option Settings := (Toml.read? text).bind (ofNode? .toml)

end Settings

end FrameShader
