/-
Tables under construction, as a TOML document defines them piece by piece.

A table comes about in four ways: by its own header, as part of the path of another header or of a
dotted key, as an element of a list of tables, or as a value.  What comes later may go on with some
of them and not with others, so a table remembers how it came about.

Main definitions:

* `FrameShader.Toml.Item`, `FrameShader.Toml.Entries` — tables under construction;
* `FrameShader.Toml.descend` — changes the table at the end of a path;
* `FrameShader.Toml.assign` — gives a value to a key;
* `FrameShader.Toml.Entries.toNode` — the finished table;
* `FrameShader.Toml.Statement`, `FrameShader.Toml.Assembly` — documents, statement by statement.
-/

import FrameShader.Document.Node

set_option relaxedAutoImplicit false
set_option autoImplicit false

namespace FrameShader

namespace Toml

/-! ### Items -/

/-- What a name stands for. -/
inductive Item where
  | value (node : Node)
  /-- A table.  It is implicit if only paths have named it so far, and dotted if those were the
  paths of keys. -/
  | table (implicit dotted : Bool) (entries : List (String × Item))
  /-- A list of tables, each with its own header. -/
  | tables (elements : List (List (String × Item)))

/-- The entries of a table, in the order in which they were defined. -/
abbrev Entries := List (String × Item)

mutual

/-- The finished form of an item. -/
def Item.toNode : Item → Node
  | .value node => node
  | .table _ _ entries => .table (entriesToNodes entries)
  | .tables elements => .list (elementsToNodes elements)

/-- The finished form of the entries of a table. -/
def entriesToNodes : List (String × Item) → List (String × Node)
  | [] => []
  | (name, item) :: rest => (name, item.toNode) :: entriesToNodes rest

/-- The finished form of the tables of a list. -/
def elementsToNodes : List (List (String × Item)) → List Node
  | [] => []
  | entries :: rest => .table (entriesToNodes entries) :: elementsToNodes rest

end

/-- The finished table. -/
def Entries.toNode (es : Entries) : Node := .table (entriesToNodes es)

/-- The entries where `name` stands for another item; its place stays the same. -/
def replaceEntry (es : Entries) (name : String) (item : Item) : Entries :=
  es.map fun e => if e.1 == name then (name, item) else e

/-! ### Paths -/

/-- Changes the table at the end of a path; the change is told whether that table is dotted.  Tables
on the way that do not exist yet come about by the path.  The path of a key, unlike that of a
header, does not lead through tables with a header of their own. -/
def descend {α : Type} (ofKey : Bool) (change : Bool → StateT Entries Option α) :
    Bool → List String → StateT Entries Option α
  | dotted, [] => change dotted
  | _, name :: path => fun es =>
      match es.lookup name with
      | none => do
          let (a, inner) ← descend ofKey change ofKey path []
          return (a, es ++ [(name, .table true ofKey inner)])
      | some (.value _) => none
      | some (.table implicit dotted inner) =>
          if ofKey && !implicit then none
          else do
            let (a, inner) ← descend ofKey change dotted path inner
            return (a, replaceEntry es name (.table implicit dotted inner))
      | some (.tables elements) =>
          match elements.getLast? with
          | none => none
          | some last => do
              let (a, last) ← descend ofKey change false path last
              return (a, replaceEntry es name (.tables (elements.dropLast ++ [last])))

/-- A path and the name at its end, if it has one. -/
def splitPath? (path : List String) : Option (List String × String) :=
  path.getLast?.map fun name => (path.dropLast, name)

/-- Defines a name that is new to its table.  What a dotted key reaches has to be a dotted table,
and a plain key stands in a table that is not. -/
def define (fromPath : Bool) (name : String) (item : Item) (dotted : Bool) :
    StateT Entries Option Unit := fun es =>
  if dotted == fromPath ∧ (es.lookup name).isNone then some ((), es ++ [(name, item)]) else none

/-- Gives a value to a key. -/
def assign (key : List String) (node : Node) (es : Entries) : Option Entries := do
  let (path, name) ← splitPath? key
  let (_, es) ← descend true (define (!path.isEmpty) name (.value node)) false path es
  return es

/-- The table of a list of keys with their values. -/
def tableOf? (pairs : List (List String × Node)) : Option Node := do
  let es ← pairs.foldlM (fun es p => assign p.1 p.2 es) []
  return Entries.toNode es

/-! ### Documents -/

/-- One line of a document, as far as it says anything. -/
inductive Statement where
  /-- The header of a table. -/
  | header (path : List String)
  /-- The header of one more table of a list. -/
  | listHeader (path : List String)
  | assignment (key : List String) (value : Node)

/-- A document as far as it has been read. -/
structure Assembly where
  /-- Everything before the current header. -/
  root : Entries := []
  /-- What has been assigned since. -/
  current : Entries := []
  /-- The current header; before the first one it is empty. -/
  path : List String := []
  /-- Whether the current table is one of a list. -/
  ofList : Bool := false

namespace Assembly

/-- Puts the current table into its place. -/
def closeInto (current : Entries) (ofList : Bool) (name : String) (_ : Bool) :
    StateT Entries Option Unit := fun es =>
  if ofList then
    match es.lookup name with
    | some (.tables elements) =>
        some ((), replaceEntry es name (.tables (elements ++ [current])))
    | _ => none
  else
    match es.lookup name with
    | none => some ((), es ++ [(name, .table false false current)])
    | some _ => none

/-- Everything that has been read, in one table. -/
def close? (a : Assembly) : Option Entries :=
  match splitPath? a.path with
  | none => some a.current
  | some (path, name) => do
      let (_, es) ← descend false (closeInto a.current a.ofList name) false path a.root
      return es

/-- What a header finds under its name: nothing, or a table that only other headers have named,
which it takes over. -/
def openTable (name : String) (_ : Bool) : StateT Entries Option Entries := fun es =>
  match es.lookup name with
  | none => some ([], es)
  | some (.table true false inner) => some (inner, es.filter fun e => e.1 != name)
  | some _ => none

/-- Makes sure that a name stands for a list of tables. -/
def openList (name : String) (_ : Bool) : StateT Entries Option Unit := fun es =>
  match es.lookup name with
  | none => some ((), es ++ [(name, .tables [])])
  | some (.tables _) => some ((), es)
  | some _ => none

/-- The document after one more statement. -/
def add? (a : Assembly) : Statement → Option Assembly
  | .header header => do
      let root ← a.close?
      let (path, name) ← splitPath? header
      let (current, root) ← descend false (openTable name) false path root
      return ⟨root, current, header, false⟩
  | .listHeader header => do
      let root ← a.close?
      let (path, name) ← splitPath? header
      let (_, root) ← descend false (openList name) false path root
      return ⟨root, [], header, true⟩
  | .assignment key value => do
      let current ← assign key value a.current
      return { a with current := current }

end Assembly

/-- The table that a list of statements defines. -/
def assemble? (statements : List Statement) : Option Node := do
  let a ← statements.foldlM Assembly.add? {}
  let es ← a.close?
  return Entries.toNode es

end Toml

end FrameShader
