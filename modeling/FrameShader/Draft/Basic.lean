/-
Drafts: modules under construction.

A draft hands out ids in order, keeps the instructions of each section apart, and keeps tables to
find again what it has defined.  At most one function is open at a time.  A call on a draft answers
or fails, and leaves a draft behind in both cases: what it did before it failed stays done.

Main definitions:

* `FrameShader.ModuleSettings` — what a module is built with;
* `FrameShader.Sections`, `FrameShader.Tables`, `FrameShader.OpenFunction` — the parts of a draft;
* `FrameShader.Draft` — a draft, and `FrameShader.Draft.empty`;
* `FrameShader.Build` — calls on a draft;
* `FrameShader.Draft.typeOf?`, `FrameShader.Draft.check` — what can be seen from the current place,
  and whether a value is what it claims to be;
* `FrameShader.Build.freshId`, `FrameShader.Build.emitValue` — a new id, and a new instruction of
  the open function.
-/

import FrameShader.Draft.Error
import FrameShader.Log
import FrameShader.Spirv.Literal
import FrameShader.Spirv.ShaderModule

set_option relaxedAutoImplicit false
set_option autoImplicit false

namespace FrameShader

/-! ### The parts of a draft -/

/-- What a module is built with. -/
structure ModuleSettings where
  /-- The version of the format. -/
  major : UInt8 := 1
  minor : UInt8 := 0
  /-- The generator word of the header. -/
  generator : Word := 0
  /-- Whether the source and names are kept. -/
  debugSymbols : Bool := false
  addressingModel : AddressingModel := .logical
  memoryModel : MemoryModel := .glsl450
  deriving DecidableEq, Repr

/-- The type of a function, its result type and its parameter types. -/
structure Signature where
  type : Id
  result : Id
  parameters : List Id
  deriving DecidableEq, Repr

/-- What makes two constants the same. -/
inductive ConstantKey where
  | bool (value : Bool)
  | scalar (type : Id) (value : Literal)
  | composite (type : Id) (constituents : List Id)
  deriving DecidableEq, Repr

/-- The instructions of a draft, section by section, in the order they were added. -/
structure Sections where
  capabilities : List Instruction := []
  extensions : List Instruction := []
  imports : List Instruction := []
  entryPoints : List Instruction := []
  executionModes : List Instruction := []
  source : List Instruction := []
  names : List Instruction := []
  annotations : List Instruction := []
  globals : List Instruction := []
  functions : List Function := []
  deriving DecidableEq, Repr

/-- What a draft has defined, the latest entry of each table first. -/
structure Tables where
  /-- The id of each interned type. -/
  types : List (DataType × Id) := []
  /-- The structure behind each type id. -/
  dataTypes : List (Id × DataType) := []
  /-- The id of each interned constant. -/
  constants : List (ConstantKey × Id) := []
  /-- The bits of each scalar constant. -/
  literals : List (Id × Literal) := []
  /-- The type of each constant and module scope variable. -/
  globals : List (Id × Id) := []
  /-- The signature of each function that was begun. -/
  functions : List (Id × Signature) := []
  /-- The signature of each function that is declared and not yet begun. -/
  declared : List (Id × Signature) := []
  capabilities : List Capability := []
  extensions : List String := []
  /-- The id of each imported instruction set. -/
  imports : List (String × Id) := []
  /-- The function of each entry point. -/
  entryPoints : List (String × Id) := []
  /-- The variable of each built-in value in use. -/
  builtIns : List (BuiltIn × Value) := []
  /-- The variable in each descriptor slot, a set and a binding. -/
  slots : List ((Word × Word) × Id) := []
  /-- The words of each annotation. -/
  annotations : List (List Word) := []
  /-- What has a name: an id, or a member of a record. -/
  names : List (Id × Option Word) := []
  deriving DecidableEq

/-- The function that is being written: one block, without branches. -/
structure OpenFunction where
  id : Id
  /-- The type of its result. -/
  result : Id
  definition : Instruction
  parameters : List Instruction
  label : Instruction
  body : List Instruction := []
  /-- The types of its parameters and results, which only this function sees. -/
  locals : List (Id × Id)
  /-- Whether the return has been written. -/
  terminated : Bool := false
  deriving DecidableEq, Repr

/-- A module under construction. -/
structure Draft where
  settings : ModuleSettings := {}
  /-- The next id to hand out. -/
  nextId : Id := 1
  sections : Sections := {}
  tables : Tables := {}
  current : Option OpenFunction := none
  /-- What has happened, the oldest record first. -/
  log : List LogRecord := []
  deriving DecidableEq

/-- The draft of a module with these settings, before the first call. -/
def Draft.empty (settings : ModuleSettings) : Draft := { settings := settings }

/-- A call on a draft.  It leaves a draft behind also when it fails. -/
abbrev Build := ExceptT Failure (StateM Draft)

namespace Build

variable {α : Type}

/-- The answer of a call on `d`, and the draft it leaves behind. -/
def runOn (call : Build α) (d : Draft) : Except Failure α × Draft := call.run.run d

/-- The call that is rejected. -/
def reject (cause : BuildError) : Build α := throw (.rejected cause)

/-- An answer that may be a rejection. -/
def ofExcept (answer : Except BuildError α) : Build α :=
  match answer with
  | .ok a => pure a
  | .error cause => reject cause

/-- An answer that may be an overflow. -/
def ofArithmetic (answer : Except Overflow α) : Build α :=
  match answer with
  | .ok a => pure a
  | .error operation => throw (.overflow operation)

/-- Looks at the draft without changing it. -/
def inspect (view : Draft → Except BuildError α) : Build α := do
  ofExcept (view (← get))

end Build

/-! ### Looking at a draft -/

namespace Draft

/-- One more than the highest id that was handed out. -/
def bound (d : Draft) : Id := d.nextId

/-- The structure behind a type id. -/
def dataType (d : Draft) (type : Id) : Except BuildError DataType :=
  match d.tables.dataTypes.lookup type with
  | some t => .ok t
  | none => .error (.undefinedId type)

/-- The type of a constant, a module scope variable or a function. -/
def globalType? (d : Draft) (id : Id) : Option Id :=
  match d.tables.globals.lookup id with
  | some type => some type
  | none => (d.tables.functions.lookup id).map Signature.type

/-- The type of a parameter or result of the open function. -/
def localType? (d : Draft) (id : Id) : Option Id :=
  match d.current with
  | some f => f.locals.lookup id
  | none => none

/-- The type of an id that can be seen from the current place: what the open function defined
comes first, then what the module defined. -/
def typeOf? (d : Draft) (id : Id) : Option Id :=
  match d.localType? id with
  | some type => some type
  | none => d.globalType? id

/-- Whether the id names something of the module that can be annotated. -/
def isDefined (d : Draft) (id : Id) : Bool :=
  (d.tables.dataTypes.lookup id).isSome || (d.tables.globals.lookup id).isSome
    || (d.tables.functions.lookup id).isSome || d.tables.imports.any (·.2 == id)

/-- Whether the id names something that can be seen from the current place. -/
def isVisible (d : Draft) (id : Id) : Bool := d.isDefined id || (d.typeOf? id).isSome

/-- Whether the id is the function of an entry point. -/
def isEntryPoint (d : Draft) (id : Id) : Bool := d.tables.entryPoints.any (·.2 == id)

/-- The type of a value, provided that the value can be seen and has the type it claims. -/
def check (d : Draft) (opcode : Opcode) (v : Value) : Except BuildError DataType :=
  match d.typeOf? v.id with
  | none => .error (.undefinedId v.id)
  | some type =>
      if type = v.type then d.dataType type
      else do
        let expected ← d.dataType type
        let found ← d.dataType v.type
        throw (.typeMismatch opcode expected.text found.text)

/-- Every value has the type it claims. -/
def checkAll (d : Draft) (opcode : Opcode) : List Value → Except BuildError (List DataType)
  | [] => .ok []
  | v :: vs => do
      let t ← d.check opcode v
      let ts ← d.checkAll opcode vs
      return t :: ts

/-- The type of a value that is a floating-point scalar or vector. -/
def floatOperand (d : Draft) (opcode : Opcode) (v : Value) : Except BuildError DataType := do
  let t ← d.check opcode v
  if t.isFloat then return t
  else throw (.typeMismatch opcode "float scalar or vector" t.text)

/-- The open function, provided that it still takes instructions. -/
def writable (d : Draft) (opcode : Opcode) : Except BuildError OpenFunction :=
  match d.current with
  | none => .error (.noOpenFunction opcode)
  | some f => if f.terminated then .error (.blockTerminated opcode) else .ok f

/-- The bits of a scalar constant. -/
def literal? (d : Draft) (id : Id) : Option Literal := d.tables.literals.lookup id

/-! ### Changing a draft -/

/-- The draft after the next id has been handed out. -/
def takeId (d : Draft) : Draft := { d with nextId := d.nextId + 1 }

/-- The draft with one more record in its log. -/
def addRecord (d : Draft) (r : LogRecord) : Draft := { d with log := d.log ++ [r] }

/-- The draft with one more type, constant or variable. -/
def addGlobal (d : Draft) (i : Instruction) : Draft :=
  { d with sections := { d.sections with globals := d.sections.globals ++ [i] } }

/-- The draft that knows the type of one more constant or variable. -/
def addGlobalType (d : Draft) (id type : Id) : Draft :=
  { d with tables := { d.tables with globals := (id, type) :: d.tables.globals } }

/-- The draft with one more constant or variable, whose type it knows. -/
def addGlobalValue (d : Draft) (opcode : Opcode) (type id : Id) (operands : List Operand) : Draft :=
  (d.addGlobalType id type).addGlobal (.typed opcode type id operands)

/-- The draft with one more instruction in the open function; nothing changes if there is none. -/
def addToBody (d : Draft) (i : Instruction) : Draft :=
  { d with current := d.current.map fun f => { f with body := f.body ++ [i] } }

/-- The draft where the open function knows the type of one more id. -/
def addLocal (d : Draft) (id type : Id) : Draft :=
  { d with current := d.current.map fun f => { f with locals := (id, type) :: f.locals } }

/-- The draft with one more result in the open function, whose type the function knows. -/
def addResult (d : Draft) (opcode : Opcode) (type id : Id) (operands : List Operand) : Draft :=
  (d.addToBody (.typed opcode type id operands)).addLocal id type

end Draft

namespace Build

/-- Adds a record to the log. -/
def record (level : LogLevel) (message : String) : Build Unit :=
  modify (·.addRecord ⟨level, message⟩)

/-- Hands out a new id.  Ids are never used twice. -/
def freshId : Build Id := do
  let d ← get
  if d.nextId.toNat + 1 < UInt32.size then
    modify (·.takeId)
    record .trace ("allocated " ++ idText d.nextId)
    return d.nextId
  else throw (.overflow .increment)

/-- Adds a constant or a module scope variable of this type. -/
def defineGlobal (opcode : Opcode) (type : Id) (operands : List Operand) : Build Value := do
  let id ← freshId
  modify (·.addGlobalValue opcode type id operands)
  return ⟨id, type⟩

/-- Adds an instruction with a result to the open function. -/
def emitValue (opcode : Opcode) (type : Id) (operands : List Operand) : Build Value := do
  let _ ← inspect (·.writable opcode)
  let id ← freshId
  modify (·.addResult opcode type id operands)
  return ⟨id, type⟩

/-- Adds an instruction without a result to the open function. -/
def emitVoid (opcode : Opcode) (operands : List Operand) : Build Unit := do
  let _ ← inspect (·.writable opcode)
  modify (·.addToBody (.plain opcode operands))

end Build

end FrameShader
