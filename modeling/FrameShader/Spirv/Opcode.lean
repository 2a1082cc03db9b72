/-
Opcodes: the first half word of an instruction, saying what it does.

Main definitions:

* `FrameShader.Opcode` — the opcodes of the modules built here;
* `FrameShader.Opcode.code`, `FrameShader.Opcode.name` — their numbers and names.
-/

import FrameShader.Spirv.Enumerant

set_option relaxedAutoImplicit false
set_option autoImplicit false

namespace FrameShader

/-! ### Opcodes -/

/-- What an instruction does. -/
inductive Opcode where
  | nop | source | debugName | debugMemberName | extension | extInstImport | extInst | memoryModel
  | entryPoint | executionMode | capability | typeVoid | typeBool | typeInt | typeFloat
  | typeVector | typeImage | typeSampler | typeSampledImage | typeRuntimeArray | typeStruct
  | typePointer | typeFunction | constantTrue | constantFalse | constant | constantComposite
  | function | functionParameter | functionEnd | functionCall | variable | load | store
  | accessChain | decorate | memberDecorate | vectorShuffle | compositeConstruct
  | compositeExtract | sampledImage | imageSampleExplicitLod | convertUToF | fAdd | fSub | fMul
  | fMod | vectorTimesScalar | dot | select | fOrdEqual | label | returnVoid | returnValue
  deriving DecidableEq, Repr

/-- The number that stands for it in a module. -/
def Opcode.code : Opcode → Word
  | .nop => 0
  | .source => 3
  | .debugName => 5
  | .debugMemberName => 6
  | .extension => 10
  | .extInstImport => 11
  | .extInst => 12
  | .memoryModel => 14
  | .entryPoint => 15
  | .executionMode => 16
  | .capability => 17
  | .typeVoid => 19
  | .typeBool => 20
  | .typeInt => 21
  | .typeFloat => 22
  | .typeVector => 23
  | .typeImage => 25
  | .typeSampler => 26
  | .typeSampledImage => 27
  | .typeRuntimeArray => 29
  | .typeStruct => 30
  | .typePointer => 32
  | .typeFunction => 33
  | .constantTrue => 41
  | .constantFalse => 42
  | .constant => 43
  | .constantComposite => 44
  | .function => 54
  | .functionParameter => 55
  | .functionEnd => 56
  | .functionCall => 57
  | .variable => 59
  | .load => 61
  | .store => 62
  | .accessChain => 65
  | .decorate => 71
  | .memberDecorate => 72
  | .vectorShuffle => 79
  | .compositeConstruct => 80
  | .compositeExtract => 81
  | .sampledImage => 86
  | .imageSampleExplicitLod => 88
  | .convertUToF => 112
  | .fAdd => 129
  | .fSub => 131
  | .fMul => 133
  | .fMod => 141
  | .vectorTimesScalar => 142
  | .dot => 148
  | .select => 169
  | .fOrdEqual => 180
  | .label => 248
  | .returnVoid => 253
  | .returnValue => 254

/-- Its name in the specification. -/
def Opcode.name : Opcode → String
  | .nop => "Nop"
  | .source => "Source"
  | .debugName => "Name"
  | .debugMemberName => "MemberName"
  | .extension => "Extension"
  | .extInstImport => "ExtInstImport"
  | .extInst => "ExtInst"
  | .memoryModel => "MemoryModel"
  | .entryPoint => "EntryPoint"
  | .executionMode => "ExecutionMode"
  | .capability => "Capability"
  | .typeVoid => "TypeVoid"
  | .typeBool => "TypeBool"
  | .typeInt => "TypeInt"
  | .typeFloat => "TypeFloat"
  | .typeVector => "TypeVector"
  | .typeImage => "TypeImage"
  | .typeSampler => "TypeSampler"
  | .typeSampledImage => "TypeSampledImage"
  | .typeRuntimeArray => "TypeRuntimeArray"
  | .typeStruct => "TypeStruct"
  | .typePointer => "TypePointer"
  | .typeFunction => "TypeFunction"
  | .constantTrue => "ConstantTrue"
  | .constantFalse => "ConstantFalse"
  | .constant => "Constant"
  | .constantComposite => "ConstantComposite"
  | .function => "Function"
  | .functionParameter => "FunctionParameter"
  | .functionEnd => "FunctionEnd"
  | .functionCall => "FunctionCall"
  | .variable => "Variable"
  | .load => "Load"
  | .store => "Store"
  | .accessChain => "AccessChain"
  | .decorate => "Decorate"
  | .memberDecorate => "MemberDecorate"
  | .vectorShuffle => "VectorShuffle"
  | .compositeConstruct => "CompositeConstruct"
  | .compositeExtract => "CompositeExtract"
  | .sampledImage => "SampledImage"
  | .imageSampleExplicitLod => "ImageSampleExplicitLod"
  | .convertUToF => "ConvertUToF"
  | .fAdd => "FAdd"
  | .fSub => "FSub"
  | .fMul => "FMul"
  | .fMod => "FMod"
  | .vectorTimesScalar => "VectorTimesScalar"
  | .dot => "Dot"
  | .select => "Select"
  | .fOrdEqual => "FOrdEqual"
  | .label => "Label"
  | .returnVoid => "Return"
  | .returnValue => "ReturnValue"

/-- Every one of them, by number. -/
def Opcode.all : List Opcode :=
  [.nop, .source, .debugName, .debugMemberName, .extension, .extInstImport, .extInst, .memoryModel,
   .entryPoint, .executionMode, .capability, .typeVoid, .typeBool, .typeInt, .typeFloat,
   .typeVector, .typeImage, .typeSampler, .typeSampledImage, .typeRuntimeArray, .typeStruct,
   .typePointer, .typeFunction, .constantTrue, .constantFalse, .constant, .constantComposite,
   .function, .functionParameter, .functionEnd, .functionCall, .variable, .load, .store,
   .accessChain, .decorate, .memberDecorate, .vectorShuffle, .compositeConstruct,
   .compositeExtract, .sampledImage, .imageSampleExplicitLod, .convertUToF, .fAdd, .fSub, .fMul,
   .fMod, .vectorTimesScalar, .dot, .select, .fOrdEqual, .label, .returnVoid, .returnValue]

instance : Enumerant Opcode where
  all := Opcode.all
  code := Opcode.code
  name := Opcode.name

end FrameShader
