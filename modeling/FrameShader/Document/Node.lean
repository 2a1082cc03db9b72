/-
Documents as trees of nodes, and records read from them.

JSON and TOML documents are read into the same tree.  A record is a table with an entry for each
field, or a list with the fields in order.  The two notations differ in a few points, which a
dialect states.

Main definitions:

* `FrameShader.Node` — a tree;
* `FrameShader.Dialect` — where the notations differ;
* `FrameShader.Node.fields?` — the nodes at the fields of a record;
* `FrameShader.Node.choice?` — one of several names;
* `FrameShader.Node.word?`, `FrameShader.Node.bool?`, `FrameShader.Node.text?`,
  `FrameShader.Node.listOf?`, `FrameShader.Node.orNull?` — values of single nodes.
-/

import FrameShader.Word

set_option relaxedAutoImplicit false
set_option autoImplicit false

namespace FrameShader

/-! ### Trees -/

/-- A document, or a part of one. -/
inductive Node where
  | null
  | bool (value : Bool)
  | int (value : Int)
  | text (value : String)
  | list (items : List Node)
  /-- Named entries in order, where a name may come up again. -/
  | table (entries : List (String × Node))
  /-- Something that is well formed but no value of a record, such as a fraction. -/
  | other
  deriving Repr

/-- Where the notations differ. -/
structure Dialect where
  /-- Whether items after those that a list needs are left alone; otherwise they are errors. -/
  surplus : Bool
  /-- What stands beside a name that is written as a table of one entry. -/
  isUnit : Node → Bool

/-- JSON: lists have exactly the items they need, and null stands beside a name. -/
def Dialect.json : Dialect where
  surplus := false
  isUnit
    | .null => true
    | _ => false

/-- TOML: lists may be longer, and an empty table or list stands beside a name. -/
def Dialect.toml : Dialect where
  surplus := true
  isUnit
    | .list [] => true
    | .table [] => true
    | _ => false

/-! ### Records -/

/-- A field of a record. -/
structure Field where
  name : String
  /-- Whether a table without the field counts as one where it is null. -/
  nullable : Bool := false
  deriving DecidableEq, Repr

/-- The node that a table has at a field, if it has one.  Two of them are an error. -/
def entryAt? (entries : List (String × Node)) (f : Field) : Option (Option Node) :=
  match entries.filter fun e => e.1 == f.name with
  | [] => some (if f.nullable then some .null else none)
  | [e] => some (some e.2)
  | _ => none

namespace Node

/-- The nodes at the fields of a record: by name in a table, whose other entries are left alone, and
by position in a list. -/
def fields? (d : Dialect) (fields : List Field) : Node → Option (List (Option Node))
  | .table entries => fields.mapM (entryAt? entries)
  | .list items =>
      if d.surplus || items.length ≤ fields.length then
        some ((List.range fields.length).map fun i => items[i]?)
      else none
  | _ => none

/-! ### Values -/

/-- A truth value. -/
def bool? : Node → Option Bool
  | .bool value => some value
  | _ => none

/-- A number of one word. -/
def word? : Node → Option Word
  | .int value =>
      if 0 ≤ value ∧ value.toNat < UInt32.size then some (UInt32.ofNat value.toNat) else none
  | _ => none

/-- A text. -/
def text? : Node → Option String
  | .text value => some value
  | _ => none

/-- A list of values. -/
def listOf? {α : Type} (item? : Node → Option α) : Node → Option (List α)
  | .list items => items.mapM item?
  | _ => none

/-- A value or null. -/
def orNull? {α : Type} (value? : Node → Option α) : Node → Option (Option α)
  | .null => some none
  | n => (value? n).map some

/-- One of several names, as a text or as a table of one entry. -/
def choice? {α : Type} (d : Dialect) (named : List (String × α)) : Node → Option α
  | .text value => named.lookup value
  | .table [(name, beside)] => if d.isUnit beside then named.lookup name else none
  | _ => none

/-- A value that has to be there. -/
def required? {α : Type} (value? : Node → Option α) (n : Option Node) : Option α := n.bind value?

/-- A value that may be left out. -/
def defaulting? {α : Type} (default : α) (value? : Node → Option α) : Option Node → Option α
  | none => some default
  | some n => value? n

/-! ### Writing -/

/-- A word as a node. -/
def ofWord (w : Word) : Node := .int w.toNat

/-- A value or null as a node. -/
def ofOption {α : Type} (write : α → Node) : Option α → Node
  | some a => write a
  | none => .null

end Node

end FrameShader
