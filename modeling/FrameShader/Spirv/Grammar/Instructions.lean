/-
The instructions of a module, by what they are about.

Main definitions:

* `FrameShader.InstructionForm.all` — every instruction;
* `FrameShader.InstructionForm.ofCode?` — the instruction with a number.
-/

import FrameShader.Spirv.Grammar.Basic

set_option relaxedAutoImplicit false
set_option autoImplicit false

namespace FrameShader

namespace InstructionForm

/-! ### Operands -/

/-- This many ids. -/
def manyIds (count : Nat) : List OperandForm := List.replicate count .id

/-- This many numbers of one word. -/
def manyLiterals (count : Nat) : List OperandForm := List.replicate count .literal

/-! ### Modules -/

/-- Capabilities, extensions, imports and modes.  Modes and decorations by ids stand in blocks. -/
def modes : List InstructionForm :=
  [standing (.inSection .capabilities) (actions 17 [.enumerant .capability] ["Capability"]),
   standing (.inSection .extensions) (actions 10 [.text] ["Extension"]),
   standing (.inSection .imports) (definitions 11 [.text] ["ExtInstImport"]),
   values 12 [.id, .literal, .ids] ["ExtInst"],
   standing (.inSection .memoryModel)
     (actions 14 [.enumerant .addressingModel, .enumerant .memoryModel] ["MemoryModel"]),
   standing (.inSection .entryPoints)
     (actions 15 [.enumerant .executionModel, .id, .text, .ids] ["EntryPoint"]),
   standing (.inSection .executionModes)
     (actions 16 [.id, .enumerant .executionMode] ["ExecutionMode"]),
   actions 331 [.id, .enumerant .executionMode] ["ExecutionModeId"],
   actions 332 [.id, .enumerant .decoration] ["DecorateId"]].flatten

/-- What helps to read a module and has no effect. -/
def remarks : List InstructionForm :=
  [actions 0 [] ["Nop"],
   standing (.inSection .source) (actions 2 [.text] ["SourceContinued"]),
   standing (.inSection .source)
     (actions 3 [.enumerant .sourceLanguage, .literal, .maybeId, .optional .text] ["Source"]),
   standing (.inSection .source) (actions 4 [.text] ["SourceExtension"]),
   standing (.inSection .source) (definitions 7 [.text] ["String"]),
   standing (.inSection .names) (actions 5 [.id, .text] ["Name"]),
   standing (.inSection .names) (actions 6 [.id, .literal, .text] ["MemberName"]),
   standing (.inSection .processes) (actions 330 [.text] ["ModuleProcessed"]),
   standing .anywhere (actions 8 [.id, .literal, .literal] ["Line"]),
   standing .anywhere (actions 317 [] ["NoLine"])].flatten

/-- Annotations of ids. -/
def annotations : List InstructionForm :=
  standing (.inSection .annotations)
    [actions 71 [.id, .enumerant .decoration] ["Decorate"],
     actions 72 [.id, .literal, .enumerant .decoration] ["MemberDecorate"],
     definitions 73 [] ["DecorationGroup"],
     actions 74 [.id, .ids] ["GroupDecorate"],
     actions 75 [.id, ⟨.pair .id .literal, .repeated⟩] ["GroupMemberDecorate"],
     actions 5632 [.id, .enumerant .decoration] ["DecorateString"],
     actions 5633 [.id, .literal, .enumerant .decoration] ["MemberDecorateString"]].flatten

/-- Types. -/
def types : List InstructionForm :=
  standing (.inSection .globals)
    [definitions 19 [] ["TypeVoid", "TypeBool"],
     definitions 21 [.literal, .literal] ["TypeInt"],
     definitions 22 [.literal] ["TypeFloat"],
     definitions 23 [.id, .literal] ["TypeVector", "TypeMatrix"],
     definitions 25
       [.id, .enumerant .dim, .literal, .literal, .literal, .literal, .enumerant .imageFormat,
        .optional (.enumerant .access)] ["TypeImage"],
     definitions 26 [] ["TypeSampler"],
     definitions 27 [.id] ["TypeSampledImage"],
     definitions 28 [.id, .id] ["TypeArray"],
     definitions 29 [.id] ["TypeRuntimeArray"],
     definitions 30 [.ids] ["TypeStruct"],
     definitions 31 [.text] ["TypeOpaque"],
     definitions 32 [.enumerant .storageClass, .id] ["TypePointer"],
     definitions 33 [.id, .ids] ["TypeFunction"],
     definitions 34 [] ["TypeEvent", "TypeDeviceEvent", "TypeReserveId", "TypeQueue"],
     definitions 38 [.enumerant .access] ["TypePipe"],
     actions 39 [.id, .enumerant .storageClass] ["TypeForwardPointer"],
     definitions 4472 [] ["TypeRayQueryKHR"],
     definitions 5341 [] ["TypeAccelerationStructureKHR"]].flatten

/-- Types that stand in blocks. -/
def typesInBlocks : List InstructionForm :=
  [definitions 322 [] ["TypePipeStorage"],
   definitions 327 [] ["TypeNamedBarrier"],
   definitions 4456 [.id, .scope, .id, .id, .id] ["TypeCooperativeMatrixKHR"],
   definitions 5281 [] ["TypeHitObjectNV"],
   definitions 5358 [.id, .scope, .id, .id] ["TypeCooperativeMatrixNV"],
   definitions 6086 [.enumerant .access] ["TypeBufferSurfaceINTEL"],
   actions 6090 [.ids] ["TypeStructContinuedINTEL"]].flatten

/-- Constants. -/
def constants : List InstructionForm :=
  standing (.inSection .globals)
    [values 41 [] ["ConstantTrue", "ConstantFalse"],
     values 43 [⟨.number, .once⟩] ["Constant"],
     values 44 [.ids] ["ConstantComposite"],
     values 45 [.enumerant .samplerAddressing, .literal, .enumerant .samplerFilter]
       ["ConstantSampler"],
     values 46 [] ["ConstantNull"],
     values 48 [] ["SpecConstantTrue", "SpecConstantFalse"],
     values 50 [⟨.number, .once⟩] ["SpecConstant"],
     values 51 [.ids] ["SpecConstantComposite"],
     values 52 [⟨.operation, .once⟩] ["SpecConstantOp"],
     actions 6091 [.ids] ["ConstantCompositeContinuedINTEL", "SpecConstantCompositeContinuedINTEL"]
    ].flatten

/-! ### Functions -/

/-- Functions and their blocks. -/
def functions : List InstructionForm :=
  [standing .startOfFunction (values 54 [.bits .functionControl, .id] ["Function"]),
   standing .parameterOfFunction (values 55 [] ["FunctionParameter"]),
   standing .endOfFunction (actions 56 [] ["FunctionEnd"]),
   values 57 [.id, .ids] ["FunctionCall"],
   values 245 [⟨.pair .id .id, .repeated⟩] ["Phi"],
   actions 246 [.id, .id, .bits .loopControl] ["LoopMerge"],
   actions 247 [.id, .bits .selectionControl] ["SelectionMerge"],
   standing .startOfBlock (definitions 248 [] ["Label"]),
   standing .endOfBlock (actions 249 [.id] ["Branch"]),
   standing .endOfBlock (actions 250 [.id, .id, .id, .literals] ["BranchConditional"]),
   standing .endOfBlock (actions 251 [.id, .id, ⟨.branch, .repeated⟩] ["Switch"]),
   standing .endOfBlock (actions 252 [] ["Kill", "Return"]),
   standing .endOfBlock (actions 254 [.id] ["ReturnValue"]),
   standing .endOfBlock (actions 255 [] ["Unreachable"]),
   actions 256 [.id, .literal] ["LifetimeStart", "LifetimeStop"],
   standing .endOfBlock (actions 4416 [] ["TerminateInvocation"]),
   standing .endOfBlock (actions 4448 [] ["IgnoreIntersectionKHR", "TerminateRayKHR"]),
   standing .endOfBlock (actions 5294 [.id, .id, .id, .maybeId] ["EmitMeshTasksEXT"]),
   actions 5380 [] ["DemoteToHelperInvocation"],
   values 5381 [] ["IsHelperInvocationEXT"],
   values 5600 [.id] ["ConstantFunctionPointerINTEL"],
   values 5601 [.ids] ["FunctionPointerCallINTEL"],
   values 5609 [.text] ["AsmTargetINTEL"],
   values 5610 [.id, .id, .text, .text] ["AsmINTEL"],
   values 5611 [.id, .ids] ["AsmCallINTEL"],
   actions 5630 [.id] ["AssumeTrueKHR"],
   values 5631 [.id, .id] ["ExpectKHR"],
   actions 5887 [.literals] ["LoopControlINTEL"]].flatten

/-- Storage. -/
def storage : List InstructionForm :=
  [standing .inBlockOrGlobal (values 1 [] ["Undef"]),
   standing .inBlockOrGlobal (values 59 [.enumerant .storageClass, .maybeId] ["Variable"]),
   values 60 [.id, .id, .id] ["ImageTexelPointer"],
   values 61 [.id, .maybeBits .memoryAccess] ["Load"],
   actions 62 [.id, .id, .maybeBits .memoryAccess] ["Store"],
   actions 63 [.id, .id, .maybeBits .memoryAccess, .maybeBits .memoryAccess] ["CopyMemory"],
   actions 64 [.id, .id, .id, .maybeBits .memoryAccess, .maybeBits .memoryAccess]
     ["CopyMemorySized"],
   values 65 [.id, .ids] ["AccessChain", "InBoundsAccessChain"],
   values 67 [.id, .id, .ids] ["PtrAccessChain"],
   values 68 [.id, .literal] ["ArrayLength"],
   values 69 [.id] ["GenericPtrMemSemantics"],
   values 70 [.id, .id, .ids] ["InBoundsPtrAccessChain"],
   values 321 [.id] ["SizeOf"],
   values 401 [.id, .id] ["PtrEqual", "PtrNotEqual", "PtrDiff"],
   values 5818 [.id] ["VariableLengthArrayINTEL"],
   values 5819 [] ["SaveMemoryINTEL"],
   actions 5820 [.id] ["RestoreMemoryINTEL"],
   definitions 5911 [.maybeId] ["AliasDomainDeclINTEL"],
   definitions 5912 [.id, .maybeId] ["AliasScopeDeclINTEL"],
   definitions 5913 [.ids] ["AliasScopeListDeclINTEL"],
   values 5934 [.id] ["PtrCastToCrossWorkgroupINTEL"],
   values 5938 [.id] ["CrossWorkgroupCastToPtrINTEL"],
   values 5949 [.id, .id] ["FPGARegINTEL"]].flatten

/-! ### Values -/

/-- Parts and wholes. -/
def composites : List InstructionForm :=
  [values 77 [.id, .id] ["VectorExtractDynamic"],
   values 78 [.id, .id, .id] ["VectorInsertDynamic"],
   values 79 [.id, .id, .literals] ["VectorShuffle"],
   values 80 [.ids] ["CompositeConstruct"],
   values 81 [.id, .literals] ["CompositeExtract"],
   values 82 [.id, .id, .literals] ["CompositeInsert"],
   values 83 [.id] ["CopyObject", "Transpose"],
   values 400 [.id] ["CopyLogical"]].flatten

/-- Images. -/
def images : List InstructionForm :=
  [values 86 [.id, .id] ["SampledImage"],
   values 87 [.id, .id, .maybeBits .imageOperands] ["ImageSampleImplicitLod"],
   values 88 [.id, .id, .bits .imageOperands] ["ImageSampleExplicitLod"],
   values 89 [.id, .id, .id, .maybeBits .imageOperands] ["ImageSampleDrefImplicitLod"],
   values 90 [.id, .id, .id, .bits .imageOperands] ["ImageSampleDrefExplicitLod"],
   values 91 [.id, .id, .maybeBits .imageOperands] ["ImageSampleProjImplicitLod"],
   values 92 [.id, .id, .bits .imageOperands] ["ImageSampleProjExplicitLod"],
   values 93 [.id, .id, .id, .maybeBits .imageOperands] ["ImageSampleProjDrefImplicitLod"],
   values 94 [.id, .id, .id, .bits .imageOperands] ["ImageSampleProjDrefExplicitLod"],
   values 95 [.id, .id, .maybeBits .imageOperands] ["ImageFetch"],
   values 96 [.id, .id, .id, .maybeBits .imageOperands] ["ImageGather", "ImageDrefGather"],
   values 98 [.id, .id, .maybeBits .imageOperands] ["ImageRead"],
   actions 99 [.id, .id, .id, .maybeBits .imageOperands] ["ImageWrite"],
   values 100 [.id] ["Image", "ImageQueryFormat", "ImageQueryOrder"],
   values 103 [.id, .id] ["ImageQuerySizeLod"],
   values 104 [.id] ["ImageQuerySize"],
   values 105 [.id, .id] ["ImageQueryLod"],
   values 106 [.id] ["ImageQueryLevels", "ImageQuerySamples"],
   values 305 [.id, .id, .maybeBits .imageOperands] ["ImageSparseSampleImplicitLod"],
   values 306 [.id, .id, .bits .imageOperands] ["ImageSparseSampleExplicitLod"],
   values 307 [.id, .id, .id, .maybeBits .imageOperands] ["ImageSparseSampleDrefImplicitLod"],
   values 308 [.id, .id, .id, .bits .imageOperands] ["ImageSparseSampleDrefExplicitLod"],
   values 309 [.id, .id, .maybeBits .imageOperands] ["ImageSparseSampleProjImplicitLod"],
   values 310 [.id, .id, .bits .imageOperands] ["ImageSparseSampleProjExplicitLod"],
   values 311 [.id, .id, .id, .maybeBits .imageOperands]
     ["ImageSparseSampleProjDrefImplicitLod"],
   values 312 [.id, .id, .id, .bits .imageOperands] ["ImageSparseSampleProjDrefExplicitLod"],
   values 313 [.id, .id, .maybeBits .imageOperands] ["ImageSparseFetch"],
   values 314 [.id, .id, .id, .maybeBits .imageOperands]
     ["ImageSparseGather", "ImageSparseDrefGather"],
   values 316 [.id] ["ImageSparseTexelsResident"],
   values 320 [.id, .id, .maybeBits .imageOperands] ["ImageSparseRead"],
   values 4160 [.id, .maybeId] ["ColorAttachmentReadEXT"],
   values 4161 [.maybeId] ["DepthAttachmentReadEXT", "StencilAttachmentReadEXT"],
   values 4480 [.id, .id, .id] ["ImageSampleWeightedQCOM", "ImageBoxFilterQCOM"],
   values 4482 [.id, .id, .id, .id, .id] ["ImageBlockMatchSSDQCOM", "ImageBlockMatchSADQCOM"],
   values 5011 [.id, .id] ["FragmentMaskFetchAMD"],
   values 5012 [.id, .id, .id] ["FragmentFetchAMD"],
   values 5283 [.id, .id, .id, .id, .maybeBits .imageOperands] ["ImageSampleFootprintNV"],
   values 5391 [.id]
     ["ConvertUToImageNV", "ConvertUToSamplerNV", "ConvertImageToUNV", "ConvertSamplerToUNV",
      "ConvertUToSampledImageNV", "ConvertSampledImageToUNV"],
   actions 5397 [.literal] ["SamplerImageAddressingModeNV"]].flatten

/-- Conversions. -/
def conversions : List InstructionForm :=
  [values 109 [.id]
     ["ConvertFToU", "ConvertFToS", "ConvertSToF", "ConvertUToF", "UConvert", "SConvert",
      "FConvert", "QuantizeToF16", "ConvertPtrToU", "SatConvertSToU", "SatConvertUToS",
      "ConvertUToPtr", "PtrCastToGeneric", "GenericCastToPtr"],
   values 123 [.id, .enumerant .storageClass] ["GenericCastToPtrExplicit"],
   values 124 [.id] ["Bitcast"],
   values 4447 [.id] ["ConvertUToAccelerationStructureKHR"],
   values 6116 [.id] ["ConvertFToBF16INTEL", "ConvertBF16ToFINTEL"]].flatten

/-- Arithmetic. -/
def arithmetic : List InstructionForm :=
  [values 126 [.id] ["SNegate", "FNegate"],
   values 128 [.id, .id]
     ["IAdd", "FAdd", "ISub", "FSub", "IMul", "FMul", "UDiv", "SDiv", "FDiv", "UMod", "SRem",
      "SMod", "FRem", "FMod", "VectorTimesScalar", "MatrixTimesScalar", "VectorTimesMatrix",
      "MatrixTimesVector", "MatrixTimesMatrix", "OuterProduct", "Dot", "IAddCarry", "ISubBorrow",
      "UMulExtended", "SMulExtended"],
   values 4450 [.id, .id, .optional (.enumerant .packedVectorFormat)] ["SDot", "UDot", "SUDot"],
   values 4453 [.id, .id, .id, .optional (.enumerant .packedVectorFormat)]
     ["SDotAccSat", "UDotAccSat", "SUDotAccSat"],
   values 5585 [.id] ["UCountLeadingZerosINTEL", "UCountTrailingZerosINTEL"],
   values 5587 [.id, .id]
     ["AbsISubINTEL", "AbsUSubINTEL", "IAddSatINTEL", "UAddSatINTEL", "IAverageINTEL",
      "UAverageINTEL", "IAverageRoundedINTEL", "UAverageRoundedINTEL", "ISubSatINTEL",
      "USubSatINTEL", "IMul32x16INTEL", "UMul32x16INTEL"]].flatten

/-- Numbers of any precision. -/
def preciseNumbers : List InstructionForm :=
  [values 5840 (.id :: manyLiterals 6) ["ArbitraryFloatSinCosPiINTEL"],
   values 5841 (.id :: manyLiterals 5)
     ["ArbitraryFloatCastINTEL", "ArbitraryFloatCastFromIntINTEL"],
   values 5843 (.id :: manyLiterals 4) ["ArbitraryFloatCastToIntINTEL"],
   values 5846 (.id :: .literal :: .id :: manyLiterals 5)
     ["ArbitraryFloatAddINTEL", "ArbitraryFloatSubINTEL", "ArbitraryFloatMulINTEL",
      "ArbitraryFloatDivINTEL"],
   values 5850 [.id, .literal, .id, .literal]
     ["ArbitraryFloatGTINTEL", "ArbitraryFloatGEINTEL", "ArbitraryFloatLTINTEL",
      "ArbitraryFloatLEINTEL", "ArbitraryFloatEQINTEL"],
   values 5855 (.id :: manyLiterals 5)
     ["ArbitraryFloatRecipINTEL", "ArbitraryFloatRSqrtINTEL", "ArbitraryFloatCbrtINTEL"],
   values 5858 (.id :: .literal :: .id :: manyLiterals 5) ["ArbitraryFloatHypotINTEL"],
   values 5859 (.id :: manyLiterals 5)
     ["ArbitraryFloatSqrtINTEL", "ArbitraryFloatLogINTEL", "ArbitraryFloatLog2INTEL",
      "ArbitraryFloatLog10INTEL", "ArbitraryFloatLog1pINTEL", "ArbitraryFloatExpINTEL",
      "ArbitraryFloatExp2INTEL", "ArbitraryFloatExp10INTEL", "ArbitraryFloatExpm1INTEL",
      "ArbitraryFloatSinINTEL", "ArbitraryFloatCosINTEL", "ArbitraryFloatSinCosINTEL",
      "ArbitraryFloatSinPiINTEL", "ArbitraryFloatCosPiINTEL", "ArbitraryFloatASinINTEL",
      "ArbitraryFloatASinPiINTEL", "ArbitraryFloatACosINTEL", "ArbitraryFloatACosPiINTEL",
      "ArbitraryFloatATanINTEL", "ArbitraryFloatATanPiINTEL"],
   values 5879 (.id :: .literal :: .id :: manyLiterals 5)
     ["ArbitraryFloatATan2INTEL", "ArbitraryFloatPowINTEL", "ArbitraryFloatPowRINTEL"],
   values 5882 (.id :: .literal :: .id :: manyLiterals 4) ["ArbitraryFloatPowNINTEL"],
   values 5923 (.id :: .id :: manyLiterals 5)
     ["FixedSqrtINTEL", "FixedRecipINTEL", "FixedRsqrtINTEL", "FixedSinINTEL", "FixedCosINTEL",
      "FixedSinCosINTEL", "FixedSinPiINTEL", "FixedCosPiINTEL", "FixedSinCosPiINTEL",
      "FixedLogINTEL", "FixedExpINTEL"]].flatten

/-- Matrices that several invocations share. -/
def matrices : List InstructionForm :=
  [values 4457 [.id, .id, .maybeId, .maybeBits .memoryAccess] ["CooperativeMatrixLoadKHR"],
   actions 4458 [.id, .id, .id, .maybeId, .maybeBits .memoryAccess]
     ["CooperativeMatrixStoreKHR"],
   values 4459 [.id, .id, .id, .maybeBits .cooperativeMatrix] ["CooperativeMatrixMulAddKHR"],
   values 4460 [.id] ["CooperativeMatrixLengthKHR"],
   values 5359 [.id, .id, .id, .maybeBits .memoryAccess] ["CooperativeMatrixLoadNV"],
   actions 5360 [.id, .id, .id, .id, .maybeBits .memoryAccess] ["CooperativeMatrixStoreNV"],
   values 5361 [.id, .id, .id] ["CooperativeMatrixMulAddNV"],
   values 5362 [.id] ["CooperativeMatrixLengthNV"]].flatten

/-- Bits. -/
def bitwise : List InstructionForm :=
  [values 194 [.id, .id]
     ["ShiftRightLogical", "ShiftRightArithmetic", "ShiftLeftLogical", "BitwiseOr", "BitwiseXor",
      "BitwiseAnd"],
   values 200 [.id] ["Not"],
   values 201 [.id, .id, .id, .id] ["BitFieldInsert"],
   values 202 [.id, .id, .id] ["BitFieldSExtract", "BitFieldUExtract"],
   values 204 [.id] ["BitReverse", "BitCount"]].flatten

/-- Relations and truth. -/
def relations : List InstructionForm :=
  [values 154 [.id] ["Any", "All", "IsNan", "IsInf", "IsFinite", "IsNormal", "SignBitSet"],
   values 161 [.id, .id]
     ["LessOrGreater", "Ordered", "Unordered", "LogicalEqual", "LogicalNotEqual", "LogicalOr",
      "LogicalAnd"],
   values 168 [.id] ["LogicalNot"],
   values 169 [.id, .id, .id] ["Select"],
   values 170 [.id, .id]
     ["IEqual", "INotEqual", "UGreaterThan", "SGreaterThan", "UGreaterThanEqual",
      "SGreaterThanEqual", "ULessThan", "SLessThan", "ULessThanEqual", "SLessThanEqual",
      "FOrdEqual", "FUnordEqual", "FOrdNotEqual", "FUnordNotEqual", "FOrdLessThan",
      "FUnordLessThan", "FOrdGreaterThan", "FUnordGreaterThan", "FOrdLessThanEqual",
      "FUnordLessThanEqual", "FOrdGreaterThanEqual", "FUnordGreaterThanEqual"]].flatten

/-- Derivatives. -/
def derivatives : List InstructionForm :=
  values 207 [.id]
    ["DPdx", "DPdy", "Fwidth", "DPdxFine", "DPdyFine", "FwidthFine", "DPdxCoarse", "DPdyCoarse",
     "FwidthCoarse"]

/-! ### Invocations together -/

/-- Barriers and atomic steps. -/
def synchronisation : List InstructionForm :=
  [actions 224 [.scope, .scope, .semantics] ["ControlBarrier"],
   actions 225 [.scope, .semantics] ["MemoryBarrier"],
   values 227 [.id, .scope, .semantics] ["AtomicLoad"],
   actions 228 [.id, .scope, .semantics, .id] ["AtomicStore"],
   values 229 [.id, .scope, .semantics, .id] ["AtomicExchange"],
   values 230 [.id, .scope, .semantics, .semantics, .id, .id]
     ["AtomicCompareExchange", "AtomicCompareExchangeWeak"],
   values 232 [.id, .scope, .semantics] ["AtomicIIncrement", "AtomicIDecrement"],
   values 234 [.id, .scope, .semantics, .id]
     ["AtomicIAdd", "AtomicISub", "AtomicSMin", "AtomicUMin", "AtomicSMax", "AtomicUMax",
      "AtomicAnd", "AtomicOr", "AtomicXor"],
   values 318 [.id, .scope, .semantics] ["AtomicFlagTestAndSet"],
   actions 319 [.id, .scope, .semantics] ["AtomicFlagClear"],
   values 328 [.id] ["NamedBarrierInitialize"],
   actions 329 [.id, .scope, .semantics] ["MemoryNamedBarrier"],
   values 5056 [.scope] ["ReadClockKHR"],
   actions 5364 [] ["BeginInvocationInterlockEXT", "EndInvocationInterlockEXT"],
   values 5614 [.id, .scope, .semantics, .id] ["AtomicFMinEXT", "AtomicFMaxEXT"],
   values 6035 [.id, .scope, .semantics, .id] ["AtomicFAddEXT"],
   actions 6142 [.scope, .scope, .semantics]
     ["ControlBarrierArriveINTEL", "ControlBarrierWaitINTEL"]].flatten

/-- Groups. -/
def groups : List InstructionForm :=
  [values 259 [.scope, .id, .id, .id, .id, .id] ["GroupAsyncCopy"],
   actions 260 [.scope, .id, .id] ["GroupWaitEvents"],
   values 261 [.scope, .id] ["GroupAll", "GroupAny"],
   values 263 [.scope, .id, .id] ["GroupBroadcast"],
   values 264 [.scope, .enumerant .groupOperation, .id]
     ["GroupIAdd", "GroupFAdd", "GroupFMin", "GroupUMin", "GroupSMin", "GroupFMax", "GroupUMax",
      "GroupSMax"],
   values 4421 [.id] ["SubgroupBallotKHR", "SubgroupFirstInvocationKHR"],
   values 4428 [.id] ["SubgroupAllKHR", "SubgroupAnyKHR", "SubgroupAllEqualKHR"],
   values 4431 [.scope, .id, .id, .maybeId] ["GroupNonUniformRotateKHR"],
   values 4432 [.id, .id] ["SubgroupReadInvocationKHR"],
   values 5000 [.scope, .enumerant .groupOperation, .id]
     ["GroupIAddNonUniformAMD", "GroupFAddNonUniformAMD", "GroupFMinNonUniformAMD",
      "GroupUMinNonUniformAMD", "GroupSMinNonUniformAMD", "GroupFMaxNonUniformAMD",
      "GroupUMaxNonUniformAMD", "GroupSMaxNonUniformAMD"],
   values 5571 [.id, .id] ["SubgroupShuffleINTEL"],
   values 5572 [.id, .id, .id] ["SubgroupShuffleDownINTEL", "SubgroupShuffleUpINTEL"],
   values 5574 [.id, .id] ["SubgroupShuffleXorINTEL"],
   values 5575 [.id] ["SubgroupBlockReadINTEL"],
   actions 5576 [.id, .id] ["SubgroupBlockWriteINTEL"],
   values 5577 [.id, .id] ["SubgroupImageBlockReadINTEL"],
   actions 5578 [.id, .id, .id] ["SubgroupImageBlockWriteINTEL"],
   values 5580 [.id, .id, .id, .id] ["SubgroupImageMediaBlockReadINTEL"],
   actions 5581 [.id, .id, .id, .id, .id] ["SubgroupImageMediaBlockWriteINTEL"],
   values 6401 [.scope, .enumerant .groupOperation, .id]
     ["GroupIMulKHR", "GroupFMulKHR", "GroupBitwiseAndKHR", "GroupBitwiseOrKHR",
      "GroupBitwiseXorKHR", "GroupLogicalAndKHR", "GroupLogicalOrKHR",
      "GroupLogicalXorKHR"]].flatten

/-- Groups whose invocations may have parted. -/
def nonUniformGroups : List InstructionForm :=
  [values 333 [.scope] ["GroupNonUniformElect"],
   values 334 [.scope, .id]
     ["GroupNonUniformAll", "GroupNonUniformAny", "GroupNonUniformAllEqual"],
   values 337 [.scope, .id, .id] ["GroupNonUniformBroadcast"],
   values 338 [.scope, .id]
     ["GroupNonUniformBroadcastFirst", "GroupNonUniformBallot", "GroupNonUniformInverseBallot"],
   values 341 [.scope, .id, .id] ["GroupNonUniformBallotBitExtract"],
   values 342 [.scope, .enumerant .groupOperation, .id] ["GroupNonUniformBallotBitCount"],
   values 343 [.scope, .id] ["GroupNonUniformBallotFindLSB", "GroupNonUniformBallotFindMSB"],
   values 345 [.scope, .id, .id]
     ["GroupNonUniformShuffle", "GroupNonUniformShuffleXor", "GroupNonUniformShuffleUp",
      "GroupNonUniformShuffleDown"],
   values 349 [.scope, .enumerant .groupOperation, .id, .maybeId]
     ["GroupNonUniformIAdd", "GroupNonUniformFAdd", "GroupNonUniformIMul", "GroupNonUniformFMul",
      "GroupNonUniformSMin", "GroupNonUniformUMin", "GroupNonUniformFMin", "GroupNonUniformSMax",
      "GroupNonUniformUMax", "GroupNonUniformFMax", "GroupNonUniformBitwiseAnd",
      "GroupNonUniformBitwiseOr", "GroupNonUniformBitwiseXor", "GroupNonUniformLogicalAnd",
      "GroupNonUniformLogicalOr", "GroupNonUniformLogicalXor"],
   values 365 [.scope, .id, .id] ["GroupNonUniformQuadBroadcast", "GroupNonUniformQuadSwap"],
   values 5296 [.id] ["GroupNonUniformPartitionNV"]].flatten

/-- Primitives that a stage emits. -/
def primitives : List InstructionForm :=
  [actions 218 [] ["EmitVertex", "EndPrimitive"],
   actions 220 [.id] ["EmitStreamVertex", "EndStreamPrimitive"],
   actions 5295 [.id, .id] ["SetMeshOutputsEXT"],
   actions 5299 [.id, .id] ["WritePackedPrimitiveIndices4x8NV"],
   values 5300 [.id, .id, .id, .id, .id]
     ["FetchMicroTriangleVertexPositionNV", "FetchMicroTriangleVertexBarycentricNV"]].flatten

/-! ### Queues and pipes -/

/-- Pipes. -/
def pipes : List InstructionForm :=
  [values 274 [.id, .id, .id, .id] ["ReadPipe", "WritePipe"],
   values 276 [.id, .id, .id, .id, .id, .id] ["ReservedReadPipe", "ReservedWritePipe"],
   values 278 [.id, .id, .id, .id] ["ReserveReadPipePackets", "ReserveWritePipePackets"],
   actions 280 [.id, .id, .id, .id] ["CommitReadPipe", "CommitWritePipe"],
   values 282 [.id] ["IsValidReserveId"],
   values 283 [.id, .id, .id] ["GetNumPipePackets", "GetMaxPipePackets"],
   values 285 [.scope, .id, .id, .id, .id]
     ["GroupReserveReadPipePackets", "GroupReserveWritePipePackets"],
   actions 287 [.scope, .id, .id, .id, .id] ["GroupCommitReadPipe", "GroupCommitWritePipe"],
   values 323 [.literal, .literal, .literal] ["ConstantPipeStorage"],
   values 324 [.id] ["CreatePipeFromPipeStorage"],
   values 5946 [.id, .id] ["ReadPipeBlockingINTEL", "WritePipeBlockingINTEL"]].flatten

/-- Queues of kernels. -/
def queues : List InstructionForm :=
  [values 291 [.id, .id, .id, .id] ["EnqueueMarker"],
   values 292 [.id, .id, .id, .id, .id, .id, .id, .id, .id, .id, .ids] ["EnqueueKernel"],
   values 293 [.id, .id, .id, .id, .id]
     ["GetKernelNDrangeSubGroupCount", "GetKernelNDrangeMaxSubGroupSize"],
   values 295 [.id, .id, .id, .id]
     ["GetKernelWorkGroupSize", "GetKernelPreferredWorkGroupSizeMultiple"],
   actions 297 [.id] ["RetainEvent", "ReleaseEvent"],
   values 299 [] ["CreateUserEvent"],
   values 300 [.id] ["IsValidEvent"],
   actions 301 [.id, .id] ["SetUserEventStatus"],
   actions 302 [.id, .id, .id] ["CaptureEventProfilingInfo"],
   values 303 [] ["GetDefaultQueue"],
   values 304 [.id, .id, .id] ["BuildNDRange"],
   values 325 [.id, .id, .id, .id, .id] ["GetKernelLocalSizeForSubgroupCount"],
   values 326 [.id, .id, .id, .id] ["GetKernelMaxNumSubgroups"],
   actions 5075 [.id] ["FinalizeNodePayloadsAMDX"],
   values 5078 [.id] ["FinishWritingNodePayloadAMDX"],
   actions 5090 [.id, .scope, .id, .id] ["InitializeNodePayloadsAMDX"]].flatten

/-! ### Rays -/

/-- Rays and what they hit. -/
def rays : List InstructionForm :=
  [actions 4445 (manyIds 11) ["TraceRayKHR"],
   actions 4446 (manyIds 2) ["ExecuteCallableKHR"],
   values 5334 (manyIds 2) ["ReportIntersectionKHR"],
   actions 5335 [] ["IgnoreIntersectionNV", "TerminateRayNV"],
   actions 5337 (manyIds 11) ["TraceNV"],
   actions 5338 (manyIds 12) ["TraceMotionNV", "TraceRayMotionNV"],
   values 5340 (manyIds 2) ["RayQueryGetIntersectionTriangleVertexPositionsKHR"],
   actions 5344 (manyIds 2) ["ExecuteCallableNV"]].flatten

/-- Queries about rays. -/
def rayQueries : List InstructionForm :=
  [actions 4473 (manyIds 8) ["RayQueryInitializeKHR"],
   actions 4474 (manyIds 1) ["RayQueryTerminateKHR"],
   actions 4475 (manyIds 2) ["RayQueryGenerateIntersectionKHR"],
   actions 4476 (manyIds 1) ["RayQueryConfirmIntersectionKHR"],
   values 4477 (manyIds 1) ["RayQueryProceedKHR"],
   values 4479 (manyIds 2) ["RayQueryGetIntersectionTypeKHR"],
   values 6016 (manyIds 1) ["RayQueryGetRayTMinKHR", "RayQueryGetRayFlagsKHR"],
   values 6018 (manyIds 2)
     ["RayQueryGetIntersectionTKHR", "RayQueryGetIntersectionInstanceCustomIndexKHR",
      "RayQueryGetIntersectionInstanceIdKHR",
      "RayQueryGetIntersectionInstanceShaderBindingTableRecordOffsetKHR",
      "RayQueryGetIntersectionGeometryIndexKHR", "RayQueryGetIntersectionPrimitiveIndexKHR",
      "RayQueryGetIntersectionBarycentricsKHR", "RayQueryGetIntersectionFrontFaceKHR"],
   values 6026 (manyIds 1) ["RayQueryGetIntersectionCandidateAABBOpaqueKHR"],
   values 6027 (manyIds 2)
     ["RayQueryGetIntersectionObjectRayDirectionKHR",
      "RayQueryGetIntersectionObjectRayOriginKHR"],
   values 6029 (manyIds 1) ["RayQueryGetWorldRayDirectionKHR", "RayQueryGetWorldRayOriginKHR"],
   values 6031 (manyIds 2)
     ["RayQueryGetIntersectionObjectToWorldKHR",
      "RayQueryGetIntersectionWorldToObjectKHR"]].flatten

/-- Hits as values. -/
def hitObjects : List InstructionForm :=
  [actions 5249 (manyIds 14) ["HitObjectRecordHitMotionNV"],
   actions 5250 (manyIds 13) ["HitObjectRecordHitWithIndexMotionNV"],
   actions 5251 (manyIds 7) ["HitObjectRecordMissMotionNV"],
   values 5252 (manyIds 1)
     ["HitObjectGetWorldToObjectNV", "HitObjectGetObjectToWorldNV",
      "HitObjectGetObjectRayDirectionNV", "HitObjectGetObjectRayOriginNV"],
   actions 5256 (manyIds 13) ["HitObjectTraceRayMotionNV"],
   values 5257 (manyIds 1)
     ["HitObjectGetShaderRecordBufferHandleNV", "HitObjectGetShaderBindingTableRecordIndexNV"],
   actions 5259 (manyIds 1) ["HitObjectRecordEmptyNV"],
   actions 5260 (manyIds 12) ["HitObjectTraceRayNV"],
   actions 5261 (manyIds 13) ["HitObjectRecordHitNV"],
   actions 5262 (manyIds 12) ["HitObjectRecordHitWithIndexNV"],
   actions 5263 (manyIds 6) ["HitObjectRecordMissNV"],
   actions 5264 (manyIds 2) ["HitObjectExecuteShaderNV"],
   values 5265 (manyIds 1) ["HitObjectGetCurrentTimeNV"],
   actions 5266 (manyIds 2) ["HitObjectGetAttributesNV"],
   values 5267 (manyIds 1)
     ["HitObjectGetHitKindNV", "HitObjectGetPrimitiveIndexNV", "HitObjectGetGeometryIndexNV",
      "HitObjectGetInstanceIdNV", "HitObjectGetInstanceCustomIndexNV",
      "HitObjectGetWorldRayDirectionNV", "HitObjectGetWorldRayOriginNV",
      "HitObjectGetRayTMaxNV", "HitObjectGetRayTMinNV", "HitObjectIsEmptyNV",
      "HitObjectIsHitNV", "HitObjectIsMissNV"],
   actions 5279 [.id, .maybeId, .maybeId] ["ReorderThreadWithHitObjectNV"],
   actions 5280 (manyIds 2) ["ReorderThreadWithHintNV"]].flatten

/-! ### Motion estimation -/

/-- Types for the search for motion between images. -/
def motionTypes : List InstructionForm :=
  [definitions 5700 (manyIds 1) ["TypeVmeImageINTEL"],
   definitions 5701 (manyIds 0)
     ["TypeAvcImePayloadINTEL", "TypeAvcRefPayloadINTEL", "TypeAvcSicPayloadINTEL",
      "TypeAvcMcePayloadINTEL", "TypeAvcMceResultINTEL", "TypeAvcImeResultINTEL",
      "TypeAvcImeResultSingleReferenceStreamoutINTEL",
      "TypeAvcImeResultDualReferenceStreamoutINTEL", "TypeAvcImeSingleReferenceStreaminINTEL",
      "TypeAvcImeDualReferenceStreaminINTEL", "TypeAvcRefResultINTEL",
      "TypeAvcSicResultINTEL"]].flatten

/-- Penalties, costs and results of the search for motion. -/
def motionEstimation : List InstructionForm :=
  [values 5699 (manyIds 2) ["VmeImageINTEL"],
   values 5713 (manyIds 2)
     ["SubgroupAvcMceGetDefaultInterBaseMultiReferencePenaltyINTEL",
      "SubgroupAvcMceSetInterBaseMultiReferencePenaltyINTEL",
      "SubgroupAvcMceGetDefaultInterShapePenaltyINTEL", "SubgroupAvcMceSetInterShapePenaltyINTEL",
      "SubgroupAvcMceGetDefaultInterDirectionPenaltyINTEL",
      "SubgroupAvcMceSetInterDirectionPenaltyINTEL",
      "SubgroupAvcMceGetDefaultIntraLumaShapePenaltyINTEL",
      "SubgroupAvcMceGetDefaultInterMotionVectorCostTableINTEL"],
   values 5721 (manyIds 0)
     ["SubgroupAvcMceGetDefaultHighPenaltyCostTableINTEL",
      "SubgroupAvcMceGetDefaultMediumPenaltyCostTableINTEL",
      "SubgroupAvcMceGetDefaultLowPenaltyCostTableINTEL"],
   values 5724 (manyIds 4) ["SubgroupAvcMceSetMotionVectorCostFunctionINTEL"],
   values 5725 (manyIds 2) ["SubgroupAvcMceGetDefaultIntraLumaModePenaltyINTEL"],
   values 5726 (manyIds 0)
     ["SubgroupAvcMceGetDefaultNonDcLumaIntraPenaltyINTEL",
      "SubgroupAvcMceGetDefaultIntraChromaModeBasePenaltyINTEL"],
   values 5728 (manyIds 1) ["SubgroupAvcMceSetAcOnlyHaarINTEL"],
   values 5729 (manyIds 2)
     ["SubgroupAvcMceSetSourceInterlacedFieldPolarityINTEL",
      "SubgroupAvcMceSetSingleReferenceInterlacedFieldPolarityINTEL"],
   values 5731 (manyIds 3) ["SubgroupAvcMceSetDualReferenceInterlacedFieldPolaritiesINTEL"],
   values 5732 (manyIds 1)
     ["SubgroupAvcMceConvertToImePayloadINTEL", "SubgroupAvcMceConvertToImeResultINTEL",
      "SubgroupAvcMceConvertToRefPayloadINTEL", "SubgroupAvcMceConvertToRefResultINTEL",
      "SubgroupAvcMceConvertToSicPayloadINTEL", "SubgroupAvcMceConvertToSicResultINTEL",
      "SubgroupAvcMceGetMotionVectorsINTEL", "SubgroupAvcMceGetInterDistortionsINTEL",
      "SubgroupAvcMceGetBestInterDistortionsINTEL", "SubgroupAvcMceGetInterMajorShapeINTEL",
      "SubgroupAvcMceGetInterMinorShapeINTEL", "SubgroupAvcMceGetInterDirectionsINTEL",
      "SubgroupAvcMceGetInterMotionVectorCountINTEL", "SubgroupAvcMceGetInterReferenceIdsINTEL"],
   values 5746 (manyIds 3)
     ["SubgroupAvcMceGetInterReferenceInterlacedFieldPolaritiesINTEL"]].flatten

/-- The search for motion by whole pixels. -/
def integerMotion : List InstructionForm :=
  [values 5747 (manyIds 3)
     ["SubgroupAvcImeInitializeINTEL", "SubgroupAvcImeSetSingleReferenceINTEL"],
   values 5749 (manyIds 4) ["SubgroupAvcImeSetDualReferenceINTEL"],
   values 5750 (manyIds 2) ["SubgroupAvcImeRefWindowSizeINTEL"],
   values 5751 (manyIds 4) ["SubgroupAvcImeAdjustRefOffsetINTEL"],
   values 5752 (manyIds 1) ["SubgroupAvcImeConvertToMcePayloadINTEL"],
   values 5753 (manyIds 2) ["SubgroupAvcImeSetMaxMotionVectorCountINTEL"],
   values 5754 (manyIds 1) ["SubgroupAvcImeSetUnidirectionalMixDisableINTEL"],
   values 5755 (manyIds 2)
     ["SubgroupAvcImeSetEarlySearchTerminationThresholdINTEL",
      "SubgroupAvcImeSetWeightedSadINTEL"],
   values 5757 (manyIds 3) ["SubgroupAvcImeEvaluateWithSingleReferenceINTEL"],
   values 5758 (manyIds 4)
     ["SubgroupAvcImeEvaluateWithDualReferenceINTEL",
      "SubgroupAvcImeEvaluateWithSingleReferenceStreaminINTEL"],
   values 5760 (manyIds 5) ["SubgroupAvcImeEvaluateWithDualReferenceStreaminINTEL"],
   values 5761 (manyIds 3) ["SubgroupAvcImeEvaluateWithSingleReferenceStreamoutINTEL"],
   values 5762 (manyIds 4)
     ["SubgroupAvcImeEvaluateWithDualReferenceStreamoutINTEL",
      "SubgroupAvcImeEvaluateWithSingleReferenceStreaminoutINTEL"],
   values 5764 (manyIds 5) ["SubgroupAvcImeEvaluateWithDualReferenceStreaminoutINTEL"],
   values 5765 (manyIds 1)
     ["SubgroupAvcImeConvertToMceResultINTEL", "SubgroupAvcImeGetSingleReferenceStreaminINTEL",
      "SubgroupAvcImeGetDualReferenceStreaminINTEL",
      "SubgroupAvcImeStripSingleReferenceStreamoutINTEL",
      "SubgroupAvcImeStripDualReferenceStreamoutINTEL"],
   values 5770 (manyIds 2)
     ["SubgroupAvcImeGetStreamoutSingleReferenceMajorShapeMotionVectorsINTEL",
      "SubgroupAvcImeGetStreamoutSingleReferenceMajorShapeDistortionsINTEL",
      "SubgroupAvcImeGetStreamoutSingleReferenceMajorShapeReferenceIdsINTEL"],
   values 5773 (manyIds 3)
     ["SubgroupAvcImeGetStreamoutDualReferenceMajorShapeMotionVectorsINTEL",
      "SubgroupAvcImeGetStreamoutDualReferenceMajorShapeDistortionsINTEL",
      "SubgroupAvcImeGetStreamoutDualReferenceMajorShapeReferenceIdsINTEL"],
   values 5776 (manyIds 2) ["SubgroupAvcImeGetBorderReachedINTEL"],
   values 5777 (manyIds 1)
     ["SubgroupAvcImeGetTruncatedSearchIndicationINTEL",
      "SubgroupAvcImeGetUnidirectionalEarlySearchTerminationINTEL",
      "SubgroupAvcImeGetWeightingPatternMinimumMotionVectorINTEL",
      "SubgroupAvcImeGetWeightingPatternMinimumDistortionINTEL"]].flatten

/-- The refinement of motion, and the comparison with pixels that have not moved. -/
def motionRefinement : List InstructionForm :=
  [values 5781 (manyIds 7) ["SubgroupAvcFmeInitializeINTEL"],
   values 5782 (manyIds 8) ["SubgroupAvcBmeInitializeINTEL"],
   values 5783 (manyIds 1)
     ["SubgroupAvcRefConvertToMcePayloadINTEL", "SubgroupAvcRefSetBidirectionalMixDisableINTEL",
      "SubgroupAvcRefSetBilinearFilterEnableINTEL"],
   values 5786 (manyIds 3) ["SubgroupAvcRefEvaluateWithSingleReferenceINTEL"],
   values 5787 (manyIds 4) ["SubgroupAvcRefEvaluateWithDualReferenceINTEL"],
   values 5788 (manyIds 3) ["SubgroupAvcRefEvaluateWithMultiReferenceINTEL"],
   values 5789 (manyIds 4) ["SubgroupAvcRefEvaluateWithMultiReferenceInterlacedINTEL"],
   values 5790 (manyIds 1)
     ["SubgroupAvcRefConvertToMceResultINTEL", "SubgroupAvcSicInitializeINTEL"],
   values 5792 (manyIds 6) ["SubgroupAvcSicConfigureSkcINTEL"],
   values 5793 (manyIds 8) ["SubgroupAvcSicConfigureIpeLumaINTEL"],
   values 5794 (manyIds 11) ["SubgroupAvcSicConfigureIpeLumaChromaINTEL"],
   values 5795 (manyIds 2) ["SubgroupAvcSicGetMotionVectorMaskINTEL"],
   values 5796 (manyIds 1) ["SubgroupAvcSicConvertToMcePayloadINTEL"],
   values 5797 (manyIds 2) ["SubgroupAvcSicSetIntraLumaShapePenaltyINTEL"],
   values 5798 (manyIds 4) ["SubgroupAvcSicSetIntraLumaModeCostFunctionINTEL"],
   values 5799 (manyIds 2) ["SubgroupAvcSicSetIntraChromaModeCostFunctionINTEL"],
   values 5800 (manyIds 1) ["SubgroupAvcSicSetBilinearFilterEnableINTEL"],
   values 5801 (manyIds 2)
     ["SubgroupAvcSicSetSkcForwardTransformEnableINTEL",
      "SubgroupAvcSicSetBlockBasedRawSkipSadINTEL", "SubgroupAvcSicEvaluateIpeINTEL"],
   values 5804 (manyIds 3) ["SubgroupAvcSicEvaluateWithSingleReferenceINTEL"],
   values 5805 (manyIds 4) ["SubgroupAvcSicEvaluateWithDualReferenceINTEL"],
   values 5806 (manyIds 3) ["SubgroupAvcSicEvaluateWithMultiReferenceINTEL"],
   values 5807 (manyIds 4) ["SubgroupAvcSicEvaluateWithMultiReferenceInterlacedINTEL"],
   values 5808 (manyIds 1)
     ["SubgroupAvcSicConvertToMceResultINTEL", "SubgroupAvcSicGetIpeLumaShapeINTEL",
      "SubgroupAvcSicGetBestIpeLumaDistortionINTEL",
      "SubgroupAvcSicGetBestIpeChromaDistortionINTEL", "SubgroupAvcSicGetPackedIpeLumaModesINTEL",
      "SubgroupAvcSicGetIpeChromaModeINTEL", "SubgroupAvcSicGetPackedSkcLumaCountThresholdINTEL",
      "SubgroupAvcSicGetPackedSkcLumaSumThresholdINTEL",
      "SubgroupAvcSicGetInterRawSadsINTEL"]].flatten

/-! ### All -/

/-- Every instruction. -/
def all : List InstructionForm :=
  [modes, remarks, annotations, types, typesInBlocks, constants, functions, storage, composites,
   images, conversions, arithmetic, preciseNumbers, matrices, bitwise, relations, derivatives,
   synchronisation, groups, nonUniformGroups, primitives, pipes, queues, rays, rayQueries,
   hitObjects, motionTypes, motionEstimation, integerMotion, motionRefinement].flatten

/-- The instruction with this number. -/
def ofCode? (code : Word) : Option InstructionForm := all.find? fun f => f.code == code

end InstructionForm

end FrameShader
