/-
Operations: the calls on a draft as data, so that whole runs of them can be spoken about.

Main definitions:

* `FrameShader.Operation` — one call with its arguments;
* `FrameShader.Answer` — what a call answers;
* `FrameShader.Operation.run` — the call itself;
* `FrameShader.Draft.after`, `FrameShader.Draft.Reachable` — the draft that a list of calls leaves
  behind, failed ones included.
-/

import FrameShader.Draft.Arithmetic
import FrameShader.Draft.Composite
import FrameShader.Draft.Finish
import FrameShader.Draft.Function
import FrameShader.Draft.Resource
import FrameShader.Draft.Sampling

set_option relaxedAutoImplicit false
set_option autoImplicit false

namespace FrameShader

/-- New values for some of the settings. -/
structure SettingsChange where
  version : Option (UInt8 × UInt8) := none
  generator : Option Word := none
  debugSymbols : Option Bool := none
  addressingModel : Option AddressingModel := none
  memoryModel : Option MemoryModel := none
  deriving DecidableEq, Repr

/-- The settings after a change. -/
def ModuleSettings.change (s : ModuleSettings) (c : SettingsChange) : ModuleSettings :=
  { major := (c.version.map Prod.fst).getD s.major
    minor := (c.version.map Prod.snd).getD s.minor
    generator := c.generator.getD s.generator
    debugSymbols := c.debugSymbols.getD s.debugSymbols
    addressingModel := c.addressingModel.getD s.addressingModel
    memoryModel := c.memoryModel.getD s.memoryModel }

/-- The draft with changed settings. -/
def Draft.configure (d : Draft) (c : SettingsChange) : Draft :=
  { d with settings := d.settings.change c }

/-- One call on a draft, with its arguments. -/
inductive Operation where
  /-- Hands out an id. -/
  | freshId
  | configure (change : SettingsChange)
  | capability (capability : Capability)
  | extension (text : String)
  | importSet (text : String)
  | typeId (type : DataType)
  | dataType (id : Id)
  | typeOf (id : Id)
  | check (opcode : Opcode) (value : Value)
  | literal (id : Id)
  | beginFunction (text : String) (result : DataType) (parameters : List DataType)
      (control : FunctionControl)
  | declareFunction (result : DataType) (parameters : List DataType)
  | defineFunction (id : Id) (text : String) (result : DataType) (parameters : List DataType)
      (control : FunctionControl)
  | beginEntryPoint (text : String) (interface : List Value)
  | executionMode (id : Id) (mode : ExecutionMode) (literals : List Word)
  | localSize (id : Id) (x y z : Word)
  | returnFunction (value : Option Value)
  | endFunction
  | callFunction (id : Id) (arguments : List Value)
  | fAdd (a b : Value)
  | fSub (a b : Value)
  | fMul (a b : Value)
  | fMod (a b : Value)
  | dot (a b : Value)
  | fOrdEqual (a b : Value)
  | vectorTimesScalar (vector scalar : Value)
  | extInst (set : String) (number : Word) (type : Id) (arguments : List Value)
  | floor (value : Value)
  | convertUToF (value : Value) (target : Scalar)
  | select (condition accept refuse : Value)
  | compositeConstruct (type : DataType) (parts : List Value)
  | splat (value : Value) (width : Word)
  | compositeExtract (value : Value) (index : Word)
  | vectorShuffle (a b : Value) (indices : List Word)
  | swizzle (value : Value) (indices : List Word)
  | constantBool (value : Bool)
  | constantScalar (type : DataType) (value : Literal)
  | constantComposite (type : DataType) (parts : List Value)
  | constUInt (value : Word)
  | constFloat (scalar : Scalar) (value : Float64Bits)
  | constVector (scalar : Scalar) (values : List Float64Bits)
  | sampledImage (image sampler : Value)
  | imageSampleExplicitLod (image coordinate lod : Value)
  | sampleImage (image sampler coordinate : Value)
  | decorate (id : Id) (decoration : Decoration) (operands : List Operand)
  | decorateMember (id : Id) (member : Word) (decoration : Decoration) (operands : List Operand)
  | descriptorBinding (value : Value) (set binding : Word)
  | storageBuffer (element : DataType) (access : Access)
  | uniformConstant (type : DataType)
  | builtInInput (builtIn : BuiltIn) (type : DataType)
  | globalVariable (storage : StorageClass) (type : DataType)
  | accessChain (base : Value) (indices : List Value)
  | load (pointer : Value)
  | store (pointer value : Value)
  | source (language : SourceLanguage) (version : Word)
  | name (id : Id) (text : String)
  | nameMember (id : Id) (member : Word) (text : String)

/-- What a call answers. -/
inductive Answer where
  | done
  | id (id : Id)
  | value (value : Value)
  | function (handle : FunctionHandle)
  | dataType (type : DataType)
  | typeOf (type : Option Id)
  | literal (value : Option Literal)
  deriving DecidableEq, Repr

namespace Answer

/-- The answer of a call that answers nothing. -/
def ofUnit (_ : Unit) : Answer := .done

end Answer

namespace Operation

/-- The call itself. -/
def run : Operation → Build Answer
  | .freshId => .id <$> Build.freshId
  | .configure change =>
      .ofUnit <$> (modify (·.configure change) : Build Unit)
  | .capability c => .ofUnit <$> Build.capability c
  | .extension text => .ofUnit <$> Build.extension text
  | .importSet text => .id <$> Build.importSet text
  | .typeId type => .id <$> Build.typeId type
  | .dataType id => .dataType <$> Build.inspect (·.dataType id)
  | .typeOf id => do return .typeOf ((← get).typeOf? id)
  | .check opcode value => .dataType <$> Build.inspect (·.check opcode value)
  | .literal id => do return .literal ((← get).literal? id)
  | .beginFunction text result parameters control =>
      .function <$> Build.beginFunction text result parameters control
  | .declareFunction result parameters => .id <$> Build.declareFunction result parameters
  | .defineFunction id text result parameters control =>
      .function <$> Build.defineFunction id text result parameters control
  | .beginEntryPoint text interface => .function <$> Build.beginEntryPoint text interface
  | .executionMode id mode literals => .ofUnit <$> Build.executionMode id mode literals
  | .localSize id x y z => .ofUnit <$> Build.localSize id x y z
  | .returnFunction value => .ofUnit <$> Build.returnFunction value
  | .endFunction => .ofUnit <$> Build.endFunction
  | .callFunction id arguments => .value <$> Build.callFunction id arguments
  | .fAdd a b => .value <$> Build.fAdd a b
  | .fSub a b => .value <$> Build.fSub a b
  | .fMul a b => .value <$> Build.fMul a b
  | .fMod a b => .value <$> Build.fMod a b
  | .dot a b => .value <$> Build.dot a b
  | .fOrdEqual a b => .value <$> Build.fOrdEqual a b
  | .vectorTimesScalar vector scalar => .value <$> Build.vectorTimesScalar vector scalar
  | .extInst set number type arguments => .value <$> Build.extInst set number type arguments
  | .floor value => .value <$> Build.floor value
  | .convertUToF value target => .value <$> Build.convertUToF value target
  | .select condition accept refuse => .value <$> Build.select condition accept refuse
  | .compositeConstruct type parts => .value <$> Build.compositeConstruct type parts
  | .splat value width => .value <$> Build.splat value width
  | .compositeExtract value index => .value <$> Build.compositeExtract value index
  | .vectorShuffle a b indices => .value <$> Build.vectorShuffle a b indices
  | .swizzle value indices => .value <$> Build.swizzle value indices
  | .constantBool value => .value <$> Build.constantBool value
  | .constantScalar type value => .value <$> Build.constantScalar type value
  | .constantComposite type parts => .value <$> Build.constantComposite type parts
  | .constUInt value => .value <$> Build.constUInt value
  | .constFloat scalar value => .value <$> Build.constFloat scalar value
  | .constVector scalar values => .value <$> Build.constVector scalar values
  | .sampledImage image sampler => .value <$> Build.sampledImage image sampler
  | .imageSampleExplicitLod image coordinate lod =>
      .value <$> Build.imageSampleExplicitLod image coordinate lod
  | .sampleImage image sampler coordinate => .value <$> Build.sampleImage image sampler coordinate
  | .decorate id decoration operands => .ofUnit <$> Build.decorate id decoration operands
  | .decorateMember id member decoration operands =>
      .ofUnit <$> Build.decorateMember id member decoration operands
  | .descriptorBinding value set binding => .ofUnit <$> Build.descriptorBinding value set binding
  | .storageBuffer element access => .value <$> Build.storageBuffer element access
  | .uniformConstant type => .value <$> Build.uniformConstant type
  | .builtInInput builtIn type => .value <$> Build.builtInInput builtIn type
  | .globalVariable storage type => .value <$> Build.globalVariable storage type
  | .accessChain base indices => .value <$> Build.accessChain base indices
  | .load pointer => .value <$> Build.load pointer
  | .store pointer value => .ofUnit <$> Build.store pointer value
  | .source language version => .ofUnit <$> Build.source language version
  | .name id text => .ofUnit <$> Build.name id text
  | .nameMember id member text => .ofUnit <$> Build.nameMember id member text

end Operation

/-! ### Runs -/

namespace Draft

/-- The draft that one call leaves behind, whether it succeeds or fails. -/
def step (d : Draft) (o : Operation) : Draft := (o.run.runOn d).2

/-- The draft that a list of calls leaves behind. -/
def after (d : Draft) (os : List Operation) : Draft := os.foldl step d

@[simp] theorem after_nil (d : Draft) : d.after [] = d := rfl

@[simp] theorem after_cons (d : Draft) (o : Operation) (os : List Operation) :
    d.after (o :: os) = (d.step o).after os := rfl

theorem after_append (d : Draft) (os ps : List Operation) :
    d.after (os ++ ps) = (d.after os).after ps := List.foldl_append

/-- The drafts that calls lead to, from any settings. -/
def Reachable (d : Draft) : Prop :=
  ∃ settings os, d = (Draft.empty settings).after os

end Draft

end FrameShader
