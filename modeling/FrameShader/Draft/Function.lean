/-
Functions: opening, returning, closing, calling, and entry points.

A function has a single block.  Its parameters and results can be seen only while it is open.  A
function may be called before it is defined if it was declared.

Main definitions:

* `FrameShader.FunctionHandle` — what is known of a function that was begun;
* `FrameShader.Build.beginFunction`, `FrameShader.Build.declareFunction`,
  `FrameShader.Build.defineFunction`, `FrameShader.Build.beginEntryPoint` — opening functions;
* `FrameShader.Build.returnFunction`, `FrameShader.Build.endFunction` — closing them;
* `FrameShader.Build.callFunction` — calls;
* `FrameShader.Build.executionMode`, `FrameShader.Build.localSize` — how an entry point runs.
-/

import FrameShader.Draft.Types

set_option relaxedAutoImplicit false
set_option autoImplicit false

namespace FrameShader

/-- What is known of a function that was begun. -/
structure FunctionHandle where
  id : Id
  /-- The type of the function. -/
  type : Id
  /-- The type of its result. -/
  result : Id
  parameters : List Value
  deriving DecidableEq, Repr

/-- The function `id` before its first instruction, its parameters being `values`. -/
def OpenFunction.start (id : Id) (s : Signature) (control : FunctionControl) (values : List Value)
    (label : Id) : OpenFunction :=
  { id := id
    result := s.result
    definition := .typed .function s.result id [.functionControl control, .id s.type]
    parameters := values.map fun v => .typed .functionParameter v.type v.id []
    label := .defining .label label []
    locals := (values.map fun v => (v.id, v.type)).reverse }

/-- The function as it stands in a module once it is closed. -/
def OpenFunction.closed (f : OpenFunction) : Function := ⟨f.definition, f.parameters, f.label, f.body⟩

/-- A parameter by its position.  Id zero, which names nothing, stands for one that is not there. -/
def FunctionHandle.parameter (f : FunctionHandle) (position : Nat) : Value :=
  f.parameters.getD position ⟨0, 0⟩

/-! ### Checks -/

namespace Draft

/-- No function is open. -/
def noFunctionOpen (d : Draft) : Except BuildError Unit :=
  match d.current with
  | some f => .error (.nestedFunction f.id)
  | none => .ok ()

/-- Every value is a variable through which an entry point exchanges data. -/
def interface (d : Draft) : List Value → Except BuildError Unit
  | [] => .ok ()
  | v :: vs => do
      match ← d.check .entryPoint v with
      | .pointer .input _ | .pointer .output _ => d.interface vs
      | other => throw (.typeMismatch .entryPoint "Input or Output variable" other.text)

/-- The signature under which a function can be called. -/
def callable (d : Draft) (function : Id) : Except BuildError Signature :=
  if d.isEntryPoint function then .error (.entryPointCall function)
  else
    match d.tables.functions.lookup function with
    | some s => .ok s
    | none =>
        match d.tables.declared.lookup function with
        | some s => .ok s
        | none => .error (.undefinedId function)

/-- The arguments have the types of the parameters, one by one. -/
def arguments (d : Draft) : List Value → List Id → Except BuildError Unit
  | v :: vs, p :: ps => do
      let found ← d.check .functionCall v
      if v.type ≠ p then
        let expected ← d.dataType p
        throw (.typeMismatch .functionCall expected.text found.text)
      d.arguments vs ps
  | _, _ => .ok ()

/-- The signature of the called function, provided that the arguments suit it. -/
def callOf (d : Draft) (function : Id) (args : List Value) : Except BuildError Signature := do
  let s ← d.callable function
  if args.length ≠ s.parameters.length then
    throw (.typeMismatch .functionCall (toString s.parameters.length ++ " arguments")
      (toString args.length))
  d.arguments args s.parameters
  return s

/-- The operands of a return of `value` from a function whose result type is `result`, where `void`
is the id of no value. -/
def returnOperands (d : Draft) (result void : Id) (value : Option Value) :
    Except BuildError (List Operand) :=
  match value with
  | some v => do
      let _ ← d.check .returnValue v
      if v.type ≠ result || result == void then
        let expected ← d.dataType result
        let found ← d.dataType v.type
        throw (.typeMismatch .returnValue expected.text found.text)
      return [.id v.id]
  | none => do
      if result ≠ void then
        let expected ← d.dataType result
        throw (.typeMismatch .returnVoid expected.text DataType.void.text)
      return []

/-! ### Changing a draft -/

/-- The draft that reserves an id for a function with this signature. -/
def addDeclared (d : Draft) (id : Id) (s : Signature) : Draft :=
  { d with tables := { d.tables with declared := (id, s) :: d.tables.declared } }

/-- The draft where the id is no longer reserved. -/
def removeDeclared (d : Draft) (id : Id) : Draft :=
  { d with tables := { d.tables with declared := d.tables.declared.filter (·.1 != id) } }

/-- The draft where the function `f` with this signature is open. -/
def openBody (d : Draft) (f : OpenFunction) (s : Signature) : Draft :=
  { d with
    current := some f
    tables := { d.tables with functions := (f.id, s) :: d.tables.functions } }

/-- The draft whose open function has returned by the instruction `i`. -/
def addReturn (d : Draft) (i : Instruction) : Draft :=
  { d with current := d.current.map fun f => { f with body := f.body ++ [i], terminated := true } }

/-- The draft where the function `f` is closed. -/
def closeBody (d : Draft) (f : OpenFunction) : Draft :=
  { d with
    current := none
    sections := { d.sections with functions := d.sections.functions ++ [f.closed] } }

/-- The draft with one more compute entry point. -/
def addEntryPoint (d : Draft) (text : String) (function : Id) (interface : List Value) : Draft :=
  { d with
    tables := { d.tables with entryPoints := (text, function) :: d.tables.entryPoints }
    sections := { d.sections with
      entryPoints := d.sections.entryPoints ++
        [.plain .entryPoint
          (.executionModel .glCompute :: .id function :: .text text
            :: interface.map fun v => .id v.id)] } }

/-- The draft that states how an entry point runs. -/
def addExecutionMode (d : Draft) (entryPoint : Id) (mode : ExecutionMode) (literals : List Word) :
    Draft :=
  { d with sections := { d.sections with
      executionModes := d.sections.executionModes ++
        [.plain .executionMode
          (.id entryPoint :: .executionMode mode :: literals.map .literal)] } }

end Draft

namespace Build

/-! ### Opening functions -/

/-- New ids for parameters of these types. -/
def freshParameters : List Id → Build (List Value)
  | [] => return []
  | type :: types => do
      let id ← freshId
      let values ← freshParameters types
      return ⟨id, type⟩ :: values

/-- New ids for a function with parameters of these types: its parameters and its label. -/
def freshBody (types : List Id) : Build (List Value × Id) := do
  let values ← freshParameters types
  let label ← freshId
  return (values, label)

/-- Opens the function `id` with the signature `s`. -/
def enterFunction (id : Id) (text : String) (s : Signature) (control : FunctionControl) :
    Build FunctionHandle := do
  let (values, label) ← freshBody s.parameters
  modify (·.openBody (.start id s control values label) s)
  name id text
  record .trace ("begin function " ++ text ++ " (" ++ idText id ++ ")")
  return ⟨id, s.type, s.result, values⟩

/-- Opens the function `id`. -/
def openFunction (id : Id) (text : String) (result : DataType) (parameters : List DataType)
    (control : FunctionControl) : Build FunctionHandle := do
  let s ← signature result parameters
  enterFunction id text s control

/-- Opens a new function. -/
def beginFunction (text : String) (result : DataType) (parameters : List DataType)
    (control : FunctionControl) : Build FunctionHandle := do
  inspect (·.noFunctionOpen)
  let id ← freshId
  openFunction id text result parameters control

/-- Reserves the id of a function that is called before it is defined. -/
def declareFunction (result : DataType) (parameters : List DataType) : Build Id := do
  let s ← signature result parameters
  let id ← freshId
  modify (·.addDeclared id s)
  return id

/-- Opens a declared function, with the signature it was declared with. -/
def defineFunction (id : Id) (text : String) (result : DataType) (parameters : List DataType)
    (control : FunctionControl) : Build FunctionHandle := do
  inspect (·.noFunctionOpen)
  let declared ← inspect fun d =>
    match d.tables.declared.lookup id with
    | some s => .ok s
    | none => .error (.undefinedId id)
  let s ← signature result parameters
  if declared ≠ s then
    let expected ← inspect (·.dataType declared.type)
    let found ← inspect (·.dataType s.type)
    reject (.typeMismatch .function expected.text found.text)
  modify (·.removeDeclared id)
  openFunction id text result parameters control

/-- Opens the function of a compute entry point, which exchanges data through `interface`. -/
def beginEntryPoint (text : String) (interface : List Value) : Build FunctionHandle := do
  inspect fun d =>
    if (d.tables.entryPoints.lookup text).isSome then .error (.duplicateEntryPoint text)
    else d.interface interface
  let f ← beginFunction text .void [] .none
  modify (·.addEntryPoint text f.id interface)
  return f

/-! ### Entry points -/

/-- States how an entry point runs. -/
def executionMode (entryPoint : Id) (mode : ExecutionMode) (literals : List Word) :
    Build Unit := do
  inspect fun d =>
    if d.isEntryPoint entryPoint then .ok () else .error (.missingTarget entryPoint)
  modify (·.addExecutionMode entryPoint mode literals)

/-- States the size of the groups in which an entry point runs. -/
def localSize (entryPoint : Id) (x y z : Word) : Build Unit :=
  executionMode entryPoint .localSize [x, y, z]

/-! ### Closing functions -/

/-- The instruction that returns: with a value or without. -/
def returnOpcode (value : Option Value) : Opcode :=
  if value.isSome then .returnValue else .returnVoid

/-- Writes the return of the open function. -/
def returnFunction (value : Option Value) : Build Unit := do
  let f ← inspect (·.writable (returnOpcode value))
  let void ← typeId .void
  let operands ← inspect (·.returnOperands f.result void value)
  modify (·.addReturn (.plain (returnOpcode value) operands))

/-- Closes the open function; what it defined can no longer be seen. -/
def endFunction : Build Unit := do
  match (← get).current with
  | none => reject (.noOpenFunction .functionEnd)
  | some f =>
      if !f.terminated then reject (.missingReturn f.id)
      else
        record .trace ("end function " ++ idText f.id)
        modify (·.closeBody f)

/-! ### Calls -/

/-- Calls a function that is defined or declared. -/
def callFunction (function : Id) (args : List Value) : Build Value := do
  let s ← inspect (·.callOf function args)
  emitValue .functionCall s.result (.id function :: args.map fun v => .id v.id)

end Build

end FrameShader
