/-
Enumerants and sets of bits that instructions take, and what follows them.

An enumerant that an extension introduced under a name of its own and that was renamed later goes by
the name that came first.  A bit goes by all of its names, and what follows it is stated with the
first.

Main definitions:

* `FrameShader.EnumerantKind.forms` — the enumerants of a kind;
* `FrameShader.BitSetKind.forms` — the bits of a set.
-/

import FrameShader.Spirv.Grammar.Basic

set_option relaxedAutoImplicit false
set_option autoImplicit false

namespace FrameShader

/-! ### Enumerants -/

namespace EnumerantForm

/-- Languages that a module may say it was written in. -/
def sourceLanguages : List EnumerantForm :=
  run 0 [] ["Unknown", "ESSL", "GLSL", "OpenCL_C", "OpenCL_CPP", "HLSL", "CPP_for_OpenCL", "SYCL",
    "HERO_C", "NZSL", "WGSL", "Slang"]

/-- Stages of a pipeline. -/
def executionModels : List EnumerantForm :=
  [run 0 [] ["Vertex", "TessellationControl", "TessellationEvaluation", "Geometry", "Fragment",
     "GLCompute", "Kernel"],
   run 5267 [] ["TaskNV", "MeshNV"],
   run 5313 [] ["RayGenerationNV", "IntersectionNV", "AnyHitNV", "ClosestHitNV", "MissNV",
     "CallableNV"],
   run 5364 [] ["TaskEXT", "MeshEXT"]].flatten

/-- Ways to address memory. -/
def addressingModels : List EnumerantForm :=
  [run 0 [] ["Logical", "Physical32", "Physical64"],
   run 5348 [] ["PhysicalStorageBuffer64"]].flatten

/-- Models of memory. -/
def memoryModels : List EnumerantForm :=
  run 0 [] ["Simple", "GLSL450", "OpenCL", "Vulkan"]

/-- Modes of an entry point. -/
def executionModes : List EnumerantForm :=
  [run 0 [.literal] ["Invocations"],
   run 1 [] ["SpacingEqual", "SpacingFractionalEven", "SpacingFractionalOdd", "VertexOrderCw",
     "VertexOrderCcw", "PixelCenterInteger", "OriginUpperLeft", "OriginLowerLeft",
     "EarlyFragmentTests", "PointMode", "Xfb", "DepthReplacing"],
   run 14 [] ["DepthGreater", "DepthLess", "DepthUnchanged"],
   run 17 [.literal, .literal, .literal] ["LocalSize", "LocalSizeHint"],
   run 19 [] ["InputPoints", "InputLines", "InputLinesAdjacency", "Triangles",
     "InputTrianglesAdjacency", "Quads", "Isolines"],
   run 26 [.literal] ["OutputVertices"],
   run 27 [] ["OutputPoints", "OutputLineStrip", "OutputTriangleStrip"],
   run 30 [.literal] ["VecTypeHint"],
   run 31 [] ["ContractionOff"],
   run 33 [] ["Initializer", "Finalizer"],
   run 35 [.literal] ["SubgroupSize", "SubgroupsPerWorkgroup"],
   run 37 [.id] ["SubgroupsPerWorkgroupId"],
   run 38 [.id, .id, .id] ["LocalSizeId", "LocalSizeHintId"],
   run 4169 [] ["NonCoherentColorAttachmentReadEXT", "NonCoherentDepthAttachmentReadEXT",
     "NonCoherentStencilAttachmentReadEXT"],
   run 4421 [] ["SubgroupUniformControlFlowKHR"],
   run 4446 [] ["PostDepthCoverage"],
   run 4459 [.literal] ["DenormPreserve", "DenormFlushToZero", "SignedZeroInfNanPreserve",
     "RoundingModeRTE", "RoundingModeRTZ"],
   run 5017 [] ["EarlyAndLateFragmentTestsAMD"],
   run 5027 [] ["StencilRefReplacingEXT"],
   run 5069 [] ["CoalescingAMDX"],
   run 5071 [.id] ["MaxNodeRecursionAMDX"],
   run 5072 [.id, .id, .id] ["StaticNumWorkgroupsAMDX"],
   run 5073 [.id] ["ShaderIndexAMDX"],
   run 5077 [.id, .id, .id] ["MaxNumWorkgroupsAMDX"],
   run 5079 [] ["StencilRefUnchangedFrontAMD", "StencilRefGreaterFrontAMD",
     "StencilRefLessFrontAMD", "StencilRefUnchangedBackAMD", "StencilRefGreaterBackAMD",
     "StencilRefLessBackAMD"],
   run 5269 [] ["OutputLinesNV"],
   run 5270 [.literal] ["OutputPrimitivesNV"],
   run 5289 [] ["DerivativeGroupQuadsNV", "DerivativeGroupLinearNV"],
   run 5298 [] ["OutputTrianglesNV"],
   run 5366 [] ["PixelInterlockOrderedEXT", "PixelInterlockUnorderedEXT",
     "SampleInterlockOrderedEXT", "SampleInterlockUnorderedEXT", "ShadingRateInterlockOrderedEXT",
     "ShadingRateInterlockUnorderedEXT"],
   run 5618 [.literal] ["SharedLocalMemorySizeINTEL"],
   run 5620 [.literal] ["RoundingModeRTPINTEL", "RoundingModeRTNINTEL", "FloatingPointModeALTINTEL",
     "FloatingPointModeIEEEINTEL"],
   run 5893 [.literal, .literal, .literal] ["MaxWorkgroupSizeINTEL"],
   run 5894 [.literal] ["MaxWorkDimINTEL"],
   run 5895 [] ["NoGlobalOffsetINTEL"],
   run 5896 [.literal] ["NumSIMDWorkitemsINTEL"],
   run 5903 [.literal] ["SchedulerTargetFmaxMhzINTEL"],
   run 6154 [.literal] ["StreamingInterfaceINTEL"],
   run 6160 [.literal] ["RegisterMapInterfaceINTEL"],
   run 6417 [.literal] ["NamedBarrierCountINTEL"]].flatten

/-- Classes of storage. -/
def storageClasses : List EnumerantForm :=
  [run 0 [] ["UniformConstant", "Input", "Uniform", "Output", "Workgroup", "CrossWorkgroup",
     "Private", "Function", "Generic", "PushConstant", "AtomicCounter", "Image", "StorageBuffer"],
   run 4172 [] ["TileImageEXT"],
   run 5068 [] ["NodePayloadAMDX"],
   run 5076 [] ["NodeOutputPayloadAMDX"],
   run 5328 [] ["CallableDataNV", "IncomingCallableDataNV"],
   run 5338 [] ["RayPayloadNV", "HitAttributeNV"],
   run 5342 [] ["IncomingRayPayloadNV", "ShaderRecordBufferNV"],
   run 5349 [] ["PhysicalStorageBuffer"],
   run 5385 [] ["HitObjectAttributeNV"],
   run 5402 [] ["TaskPayloadWorkgroupEXT"],
   run 5605 [] ["CodeSectionINTEL"],
   run 5936 [] ["DeviceOnlyINTEL", "HostOnlyINTEL"]].flatten

/-- Dimensions of an image. -/
def dims : List EnumerantForm :=
  [run 0 [] ["1D", "2D", "3D", "Cube", "Rect", "Buffer", "SubpassData"],
   run 4173 [] ["TileImageDataEXT"]].flatten

/-- What a sampler does with coordinates outside of the image. -/
def samplerAddressings : List EnumerantForm :=
  run 0 [] ["None", "ClampToEdge", "Clamp", "Repeat", "RepeatMirrored"]

/-- How a sampler filters. -/
def samplerFilters : List EnumerantForm :=
  run 0 [] ["Nearest", "Linear"]

/-- Formats of an image. -/
def imageFormats : List EnumerantForm :=
  run 0 [] ["Unknown", "Rgba32f", "Rgba16f", "R32f", "Rgba8", "Rgba8Snorm", "Rg32f", "Rg16f",
    "R11fG11fB10f", "R16f", "Rgba16", "Rgb10A2", "Rg16", "Rg8", "R16", "R8", "Rgba16Snorm",
    "Rg16Snorm", "Rg8Snorm", "R16Snorm", "R8Snorm", "Rgba32i", "Rgba16i", "Rgba8i", "R32i", "Rg32i",
    "Rg16i", "Rg8i", "R16i", "R8i", "Rgba32ui", "Rgba16ui", "Rgba8ui", "R32ui", "Rgb10a2ui",
    "Rg32ui", "Rg16ui", "Rg8ui", "R16ui", "R8ui", "R64ui", "R64i"]

/-- Rounding modes. -/
def roundings : List EnumerantForm :=
  run 0 [] ["RTE", "RTZ", "RTP", "RTN"]

/-- Treatments of denormal numbers. -/
def denormalModes : List EnumerantForm :=
  run 0 [] ["Preserve", "FlushToZero"]

/-- Modes of operations on floats. -/
def floatOperations : List EnumerantForm :=
  run 0 [] ["IEEE", "ALT"]

/-- Ways to link modules. -/
def linkages : List EnumerantForm :=
  run 0 [] ["Export", "Import", "LinkOnceODR"]

/-- Ways to access an image or a pipe. -/
def accesses : List EnumerantForm :=
  run 0 [] ["ReadOnly", "WriteOnly", "ReadWrite"]

/-- Ways in which the host accesses a variable. -/
def hostAccesses : List EnumerantForm :=
  run 0 [] ["NoneINTEL", "ReadINTEL", "WriteINTEL", "ReadWriteINTEL"]

/-- Times at which a variable is initialised. -/
def initializations : List EnumerantForm :=
  run 0 [] ["InitOnDeviceReprogramINTEL", "InitOnDeviceResetINTEL"]

/-- Cache controls of loads. -/
def loadCaches : List EnumerantForm :=
  run 0 [] ["UncachedINTEL", "CachedINTEL", "StreamingINTEL", "InvalidateAfterReadINTEL",
    "ConstCachedINTEL"]

/-- Cache controls of stores. -/
def storeCaches : List EnumerantForm :=
  run 0 [] ["UncachedINTEL", "WriteThroughINTEL", "WriteBackINTEL", "StreamingINTEL"]

/-- Attributes of parameters. -/
def parameterAttributes : List EnumerantForm :=
  [run 0 [] ["Zext", "Sext", "ByVal", "Sret", "NoAlias", "NoCapture", "NoWrite", "NoReadWrite"],
   run 5940 [] ["RuntimeAlignedINTEL"]].flatten

/-- Decorations. -/
def decorations : List EnumerantForm :=
  [run 0 [] ["RelaxedPrecision"],
   run 1 [.literal] ["SpecId"],
   run 2 [] ["Block", "BufferBlock", "RowMajor", "ColMajor"],
   run 6 [.literal] ["ArrayStride", "MatrixStride"],
   run 8 [] ["GLSLShared", "GLSLPacked", "CPacked"],
   run 11 [.enumerant .builtIn] ["BuiltIn"],
   run 13 [] ["NoPerspective", "Flat", "Patch", "Centroid", "Sample", "Invariant", "Restrict",
     "Aliased", "Volatile", "Constant", "Coherent", "NonWritable", "NonReadable", "Uniform"],
   run 27 [.scope] ["UniformId"],
   run 28 [] ["SaturatedConversion"],
   run 29 [.literal] ["Stream", "Location", "Component", "Index", "Binding", "DescriptorSet",
     "Offset", "XfbBuffer", "XfbStride"],
   run 38 [.enumerant .parameterAttribute] ["FuncParamAttr"],
   run 39 [.enumerant .rounding] ["FPRoundingMode"],
   run 40 [.bits .fastMath] ["FPFastMathMode"],
   run 41 [.text, .enumerant .linkage] ["LinkageAttributes"],
   run 42 [] ["NoContraction"],
   run 43 [.literal] ["InputAttachmentIndex", "Alignment", "MaxByteOffset"],
   run 46 [.id] ["AlignmentId", "MaxByteOffsetId"],
   run 4469 [] ["NoSignedWrap", "NoUnsignedWrap"],
   run 4487 [] ["WeightTextureQCOM", "BlockMatchTextureQCOM"],
   run 4999 [] ["ExplicitInterpAMD"],
   run 5019 [.id] ["NodeSharesPayloadLimitsWithAMDX", "NodeMaxPayloadsAMDX"],
   run 5078 [] ["TrackFinishWritingAMDX"],
   run 5091 [.text] ["PayloadNodeNameAMDX"],
   run 5248 [] ["OverrideCoverageNV"],
   run 5250 [] ["PassthroughNV"],
   run 5252 [] ["ViewportRelativeNV"],
   run 5256 [.literal] ["SecondaryViewportRelativeNV"],
   run 5271 [] ["PerPrimitiveNV", "PerViewNV", "PerTaskNV"],
   run 5285 [] ["PerVertexKHR"],
   run 5300 [] ["NonUniform"],
   run 5355 [] ["RestrictPointer", "AliasedPointer"],
   run 5386 [] ["HitObjectShaderRecordBufferNV"],
   run 5398 [] ["BindlessSamplerNV", "BindlessImageNV", "BoundSamplerNV", "BoundImageNV"],
   run 5599 [.literal] ["SIMTCallINTEL"],
   run 5602 [] ["ReferencedIndirectlyINTEL"],
   run 5607 [.text] ["ClobberINTEL"],
   run 5608 [] ["SideEffectsINTEL"],
   run 5624 [] ["VectorComputeVariableINTEL"],
   run 5625 [.literal] ["FuncParamIOKindINTEL"],
   run 5626 [] ["VectorComputeFunctionINTEL", "StackCallINTEL"],
   run 5628 [.literal] ["GlobalVariableOffsetINTEL"],
   run 5634 [.id] ["CounterBuffer"],
   run 5635 [.text] ["UserSemantic", "UserTypeGOOGLE"],
   run 5822 [.literal, .enumerant .rounding] ["FunctionRoundingModeINTEL"],
   run 5823 [.literal, .enumerant .denormals] ["FunctionDenormModeINTEL"],
   run 5825 [] ["RegisterINTEL"],
   run 5826 [.text] ["MemoryINTEL"],
   run 5827 [.literal] ["NumbanksINTEL", "BankwidthINTEL", "MaxPrivateCopiesINTEL"],
   run 5830 [] ["SinglepumpINTEL", "DoublepumpINTEL"],
   run 5832 [.literal] ["MaxReplicatesINTEL"],
   run 5833 [] ["SimpleDualPortINTEL"],
   run 5834 [.text, .text] ["MergeINTEL"],
   run 5835 [.literal] ["BankBitsINTEL", "ForcePow2DepthINTEL"],
   run 5899 [] ["BurstCoalesceINTEL"],
   run 5900 [.literal] ["CacheSizeINTEL"],
   run 5901 [] ["DontStaticallyCoalesceINTEL"],
   run 5902 [.literal] ["PrefetchINTEL"],
   run 5905 [] ["StallEnableINTEL"],
   run 5907 [] ["FuseLoopsInFunctionINTEL"],
   run 5909 [.literal, .literal] ["MathOpDSPModeINTEL"],
   run 5914 [.id] ["AliasScopeINTEL", "NoAliasINTEL"],
   run 5917 [.literal] ["InitiationIntervalINTEL", "MaxConcurrencyINTEL", "PipelineEnableINTEL"],
   run 5921 [.literal] ["BufferLocationINTEL"],
   run 5944 [.literal] ["IOPipeStorageINTEL"],
   run 6080 [.literal, .enumerant .floatOperation] ["FunctionFloatingPointModeINTEL"],
   run 6085 [] ["SingleElementVectorINTEL"],
   run 6087 [] ["VectorComputeCallableFunctionINTEL"],
   run 6140 [] ["MediaBlockIOINTEL"],
   run 6147 [.enumerant .initialization] ["InitModeINTEL"],
   run 6148 [.literal] ["ImplementInRegisterMapINTEL"],
   run 6168 [.enumerant .hostAccess, .text] ["HostAccessINTEL"],
   run 6170 [.literal] ["FPMaxErrorDecorationINTEL"],
   run 6172 [.literal] ["LatencyControlLabelINTEL"],
   run 6173 [.literal, .literal, .literal] ["LatencyControlConstraintINTEL"],
   run 6175 [] ["ConduitKernelArgumentINTEL", "RegisterMapKernelArgumentINTEL"],
   run 6177 [.literal] ["MMHostInterfaceAddressWidthINTEL", "MMHostInterfaceDataWidthINTEL",
     "MMHostInterfaceLatencyINTEL"],
   run 6180 [.enumerant .access] ["MMHostInterfaceReadWriteModeINTEL"],
   run 6181 [.literal] ["MMHostInterfaceMaxBurstINTEL", "MMHostInterfaceWaitRequestINTEL"],
   run 6183 [] ["StableKernelArgumentINTEL"],
   run 6442 [.literal, .enumerant .loadCache] ["CacheControlLoadINTEL"],
   run 6443 [.literal, .enumerant .storeCache] ["CacheControlStoreINTEL"]].flatten

/-- Variables that the pipeline provides. -/
def builtIns : List EnumerantForm :=
  [run 0 [] ["Position", "PointSize"],
   run 3 [] ["ClipDistance", "CullDistance", "VertexId", "InstanceId", "PrimitiveId",
     "InvocationId", "Layer", "ViewportIndex", "TessLevelOuter", "TessLevelInner", "TessCoord",
     "PatchVertices", "FragCoord", "PointCoord", "FrontFacing", "SampleId", "SamplePosition",
     "SampleMask"],
   run 22 [] ["FragDepth", "HelperInvocation", "NumWorkgroups", "WorkgroupSize", "WorkgroupId",
     "LocalInvocationId", "GlobalInvocationId", "LocalInvocationIndex", "WorkDim", "GlobalSize",
     "EnqueuedWorkgroupSize", "GlobalOffset", "GlobalLinearId"],
   run 36 [] ["SubgroupSize", "SubgroupMaxSize", "NumSubgroups", "NumEnqueuedSubgroups",
     "SubgroupId", "SubgroupLocalInvocationId", "VertexIndex", "InstanceIndex"],
   run 4160 [] ["CoreIDARM", "CoreCountARM", "CoreMaxIDARM", "WarpIDARM", "WarpMaxIDARM"],
   run 4416 [] ["SubgroupEqMask", "SubgroupGeMask", "SubgroupGtMask", "SubgroupLeMask",
     "SubgroupLtMask"],
   run 4424 [] ["BaseVertex", "BaseInstance", "DrawIndex"],
   run 4432 [] ["PrimitiveShadingRateKHR"],
   run 4438 [] ["DeviceIndex"],
   run 4440 [] ["ViewIndex"],
   run 4444 [] ["ShadingRateKHR"],
   run 4992 [] ["BaryCoordNoPerspAMD", "BaryCoordNoPerspCentroidAMD", "BaryCoordNoPerspSampleAMD",
     "BaryCoordSmoothAMD", "BaryCoordSmoothCentroidAMD", "BaryCoordSmoothSampleAMD",
     "BaryCoordPullModelAMD"],
   run 5014 [] ["FragStencilRefEXT"],
   run 5021 [] ["CoalescedInputCountAMDX"],
   run 5073 [] ["ShaderIndexAMDX"],
   run 5253 [] ["ViewportMaskNV"],
   run 5257 [] ["SecondaryPositionNV", "SecondaryViewportMaskNV"],
   run 5261 [] ["PositionPerViewNV", "ViewportMaskPerViewNV"],
   run 5264 [] ["FullyCoveredEXT"],
   run 5274 [] ["TaskCountNV", "PrimitiveCountNV", "PrimitiveIndicesNV", "ClipDistancePerViewNV",
     "CullDistancePerViewNV", "LayerPerViewNV", "MeshViewCountNV", "MeshViewIndicesNV"],
   run 5286 [] ["BaryCoordKHR", "BaryCoordNoPerspKHR"],
   run 5292 [] ["FragSizeEXT", "FragInvocationCountEXT", "PrimitivePointIndicesEXT",
     "PrimitiveLineIndicesEXT", "PrimitiveTriangleIndicesEXT"],
   run 5299 [] ["CullPrimitiveEXT"],
   run 5319 [] ["LaunchIdNV", "LaunchSizeNV", "WorldRayOriginNV", "WorldRayDirectionNV",
     "ObjectRayOriginNV", "ObjectRayDirectionNV", "RayTminNV", "RayTmaxNV",
     "InstanceCustomIndexNV"],
   run 5330 [] ["ObjectToWorldNV", "WorldToObjectNV", "HitTNV", "HitKindNV", "CurrentRayTimeNV",
     "HitTriangleVertexPositionsKHR"],
   run 5337 [] ["HitMicroTriangleVertexPositionsNV"],
   run 5344 [] ["HitMicroTriangleVertexBarycentricsNV"],
   run 5351 [] ["IncomingRayFlagsNV", "RayGeometryIndexKHR"],
   run 5374 [] ["WarpsPerSMNV", "SMCountNV", "WarpIDNV", "SMIDNV"],
   run 5405 [] ["HitKindFrontFacingMicroTriangleNV", "HitKindBackFacingMicroTriangleNV"],
   run 6021 [] ["CullMaskKHR"]].flatten

/-- Operations on a group. -/
def groupOperations : List EnumerantForm :=
  [run 0 [] ["Reduce", "InclusiveScan", "ExclusiveScan", "ClusteredReduce"],
   run 6 [] ["PartitionedReduceNV", "PartitionedInclusiveScanNV",
     "PartitionedExclusiveScanNV"]].flatten

/-- Formats of a packed vector. -/
def packedVectorFormats : List EnumerantForm :=
  run 0 [] ["PackedVectorFormat4x8Bit"]

/-- Capabilities that a module may ask for. -/
def capabilities : List EnumerantForm :=
  [run 0 [] ["Matrix", "Shader", "Geometry", "Tessellation", "Addresses", "Linkage", "Kernel",
     "Vector16", "Float16Buffer", "Float16", "Float64", "Int64", "Int64Atomics", "ImageBasic",
     "ImageReadWrite", "ImageMipmap"],
   run 17 [] ["Pipes", "Groups", "DeviceEnqueue", "LiteralSampler", "AtomicStorage", "Int16",
     "TessellationPointSize", "GeometryPointSize", "ImageGatherExtended"],
   run 27 [] ["StorageImageMultisample", "UniformBufferArrayDynamicIndexing",
     "SampledImageArrayDynamicIndexing", "StorageBufferArrayDynamicIndexing",
     "StorageImageArrayDynamicIndexing", "ClipDistance", "CullDistance", "ImageCubeArray",
     "SampleRateShading", "ImageRect", "SampledRect", "GenericPointer", "Int8", "InputAttachment",
     "SparseResidency", "MinLod", "Sampled1D", "Image1D", "SampledCubeArray", "SampledBuffer",
     "ImageBuffer", "ImageMSArray", "StorageImageExtendedFormats", "ImageQuery",
     "DerivativeControl", "InterpolationFunction", "TransformFeedback", "GeometryStreams",
     "StorageImageReadWithoutFormat", "StorageImageWriteWithoutFormat", "MultiViewport",
     "SubgroupDispatch", "NamedBarrier", "PipeStorage", "GroupNonUniform", "GroupNonUniformVote",
     "GroupNonUniformArithmetic", "GroupNonUniformBallot", "GroupNonUniformShuffle",
     "GroupNonUniformShuffleRelative", "GroupNonUniformClustered", "GroupNonUniformQuad",
     "ShaderLayer", "ShaderViewportIndex", "UniformDecoration"],
   run 4165 [] ["CoreBuiltinsARM", "TileImageColorReadAccessEXT", "TileImageDepthReadAccessEXT",
     "TileImageStencilReadAccessEXT"],
   run 4422 [] ["FragmentShadingRateKHR", "SubgroupBallotKHR"],
   run 4427 [] ["DrawParameters", "WorkgroupMemoryExplicitLayoutKHR",
     "WorkgroupMemoryExplicitLayout8BitAccessKHR", "WorkgroupMemoryExplicitLayout16BitAccessKHR",
     "SubgroupVoteKHR"],
   run 4433 [] ["StorageBuffer16BitAccess", "UniformAndStorageBuffer16BitAccess",
     "StoragePushConstant16", "StorageInputOutput16", "DeviceGroup"],
   run 4439 [] ["MultiView"],
   run 4441 [] ["VariablePointersStorageBuffer", "VariablePointers"],
   run 4445 [] ["AtomicStorageOps"],
   run 4447 [] ["SampleMaskPostDepthCoverage", "StorageBuffer8BitAccess",
     "UniformAndStorageBuffer8BitAccess", "StoragePushConstant8"],
   run 4464 [] ["DenormPreserve", "DenormFlushToZero", "SignedZeroInfNanPreserve",
     "RoundingModeRTE", "RoundingModeRTZ"],
   run 4471 [] ["RayQueryProvisionalKHR", "RayQueryKHR"],
   run 4478 [] ["RayTraversalPrimitiveCullingKHR", "RayTracingKHR"],
   run 4484 [] ["TextureSampleWeightedQCOM", "TextureBoxFilterQCOM", "TextureBlockMatchQCOM"],
   run 5008 [] ["Float16ImageAMD", "ImageGatherBiasLodAMD", "FragmentMaskAMD"],
   run 5013 [] ["StencilExportEXT"],
   run 5015 [] ["ImageReadWriteLodAMD", "Int64ImageEXT"],
   run 5055 [] ["ShaderClockKHR"],
   run 5067 [] ["ShaderEnqueueAMDX"],
   run 5249 [] ["SampleMaskOverrideCoverageNV"],
   run 5251 [] ["GeometryShaderPassthroughNV"],
   run 5254 [] ["ShaderViewportIndexLayerEXT", "ShaderViewportMaskNV"],
   run 5259 [] ["ShaderStereoViewNV", "PerViewAttributesNV"],
   run 5265 [] ["FragmentFullyCoveredEXT", "MeshShadingNV"],
   run 5282 [] ["ImageFootprintNV", "MeshShadingEXT", "FragmentBarycentricKHR"],
   run 5288 [] ["ComputeDerivativeGroupQuadsNV"],
   run 5291 [] ["FragmentDensityEXT"],
   run 5297 [] ["GroupNonUniformPartitionedNV"],
   run 5301 [] ["ShaderNonUniform", "RuntimeDescriptorArray", "InputAttachmentArrayDynamicIndexing",
     "UniformTexelBufferArrayDynamicIndexing", "StorageTexelBufferArrayDynamicIndexing",
     "UniformBufferArrayNonUniformIndexing", "SampledImageArrayNonUniformIndexing",
     "StorageBufferArrayNonUniformIndexing", "StorageImageArrayNonUniformIndexing",
     "InputAttachmentArrayNonUniformIndexing", "UniformTexelBufferArrayNonUniformIndexing",
     "StorageTexelBufferArrayNonUniformIndexing"],
   run 5336 [] ["RayTracingPositionFetchKHR"],
   run 5340 [] ["RayTracingNV", "RayTracingMotionBlurNV"],
   run 5345 [] ["VulkanMemoryModel", "VulkanMemoryModelDeviceScope",
     "PhysicalStorageBufferAddresses"],
   run 5350 [] ["ComputeDerivativeGroupLinearNV"],
   run 5353 [] ["RayTracingProvisionalKHR"],
   run 5357 [] ["CooperativeMatrixNV"],
   run 5363 [] ["FragmentShaderSampleInterlockEXT"],
   run 5372 [] ["FragmentShaderShadingRateInterlockEXT", "ShaderSMBuiltinsNV"],
   run 5378 [] ["FragmentShaderPixelInterlockEXT", "DemoteToHelperInvocation",
     "DisplacementMicromapNV", "RayTracingOpacityMicromapEXT"],
   run 5383 [] ["ShaderInvocationReorderNV"],
   run 5390 [] ["BindlessTextureNV", "RayQueryPositionFetchKHR"],
   run 5409 [] ["RayTracingDisplacementMicromapNV"],
   run 5568 [] ["SubgroupShuffleINTEL", "SubgroupBufferBlockIOINTEL", "SubgroupImageBlockIOINTEL"],
   run 5579 [] ["SubgroupImageMediaBlockIOINTEL"],
   run 5582 [] ["RoundToInfinityINTEL", "FloatingPointModeINTEL", "IntegerFunctions2INTEL"],
   run 5603 [] ["FunctionPointersINTEL", "IndirectReferencesINTEL"],
   run 5606 [] ["AsmINTEL"],
   run 5612 [] ["AtomicFloat32MinMaxEXT", "AtomicFloat64MinMaxEXT"],
   run 5616 [] ["AtomicFloat16MinMaxEXT", "VectorComputeINTEL"],
   run 5619 [] ["VectorAnyINTEL"],
   run 5629 [] ["ExpectAssumeKHR"],
   run 5696 [] ["SubgroupAvcMotionEstimationINTEL", "SubgroupAvcMotionEstimationIntraINTEL",
     "SubgroupAvcMotionEstimationChromaINTEL"],
   run 5817 [] ["VariableLengthArrayINTEL"],
   run 5821 [] ["FunctionFloatControlINTEL"],
   run 5824 [] ["FPGAMemoryAttributesINTEL"],
   run 5837 [] ["FPFastMathModeINTEL"],
   run 5844 [] ["ArbitraryPrecisionIntegersINTEL", "ArbitraryPrecisionFloatingPointINTEL"],
   run 5886 [] ["UnstructuredLoopControlsINTEL"],
   run 5888 [] ["FPGALoopControlsINTEL"],
   run 5892 [] ["KernelAttributesINTEL"],
   run 5897 [] ["FPGAKernelAttributesINTEL", "FPGAMemoryAccessesINTEL"],
   run 5904 [] ["FPGAClusterAttributesINTEL"],
   run 5906 [] ["LoopFuseINTEL"],
   run 5908 [] ["FPGADSPControlINTEL"],
   run 5910 [] ["MemoryAccessAliasingINTEL"],
   run 5916 [] ["FPGAInvocationPipeliningAttributesINTEL"],
   run 5920 [] ["FPGABufferLocationINTEL"],
   run 5922 [] ["ArbitraryPrecisionFixedPointINTEL"],
   run 5935 [] ["USMStorageClassesINTEL"],
   run 5939 [] ["RuntimeAlignedAttributeINTEL"],
   run 5943 [] ["IOPipesINTEL"],
   run 5945 [] ["BlockingPipesINTEL"],
   run 5948 [] ["FPGARegINTEL"],
   run 6016 [] ["DotProductInputAll", "DotProductInput4x8Bit", "DotProductInput4x8BitPacked",
     "DotProduct", "RayCullMaskKHR"],
   run 6022 [] ["CooperativeMatrixKHR"],
   run 6025 [] ["BitInstructions", "GroupNonUniformRotateKHR"],
   run 6033 [] ["AtomicFloat32AddEXT", "AtomicFloat64AddEXT"],
   run 6089 [] ["LongConstantCompositeINTEL"],
   run 6094 [] ["OptNoneINTEL", "AtomicFloat16AddEXT"],
   run 6114 [] ["DebugInfoModuleINTEL", "BFloat16ConversionINTEL"],
   run 6141 [] ["SplitBarrierINTEL"],
   run 6146 [] ["GlobalVariableFPGADecorationsINTEL"],
   run 6161 [] ["FPGAKernelAttributesv2INTEL"],
   run 6167 [] ["GlobalVariableHostAccessINTEL"],
   run 6169 [] ["FPMaxErrorINTEL"],
   run 6171 [] ["FPGALatencyControlINTEL"],
   run 6174 [] ["FPGAArgumentInterfacesINTEL"],
   run 6400 [] ["GroupUniformArithmeticKHR"],
   run 6441 [] ["CacheControlsINTEL"]].flatten

/-! ### Sets of bits -/

/-- Optional arguments of an image instruction. -/
def imageOperandBits : List EnumerantForm :=
  [⟨1, "Bias", [.id]⟩, ⟨2, "Lod", [.id]⟩, ⟨4, "Grad", [.id, .id]⟩, ⟨8, "ConstOffset", [.id]⟩,
   ⟨0x10, "Offset", [.id]⟩, ⟨0x20, "ConstOffsets", [.id]⟩, ⟨0x40, "Sample", [.id]⟩,
   ⟨0x80, "MinLod", [.id]⟩, ⟨0x100, "MakeTexelAvailable", [.scope]⟩,
   ⟨0x100, "MakeTexelAvailableKHR", []⟩, ⟨0x200, "MakeTexelVisible", [.scope]⟩,
   ⟨0x200, "MakeTexelVisibleKHR", []⟩, ⟨0x400, "NonPrivateTexel", []⟩,
   ⟨0x400, "NonPrivateTexelKHR", []⟩, ⟨0x800, "VolatileTexel", []⟩, ⟨0x800, "VolatileTexelKHR", []⟩,
   ⟨0x1000, "SignExtend", []⟩, ⟨0x2000, "ZeroExtend", []⟩, ⟨0x4000, "Nontemporal", []⟩,
   ⟨0x10000, "Offsets", [.id]⟩]

/-- Liberties with floats. -/
def fastMathBits : List EnumerantForm :=
  [⟨1, "NotNaN", []⟩, ⟨2, "NotInf", []⟩, ⟨4, "NSZ", []⟩, ⟨8, "AllowRecip", []⟩, ⟨0x10, "Fast", []⟩,
   ⟨0x10000, "AllowContractFastINTEL", []⟩, ⟨0x20000, "AllowReassocINTEL", []⟩]

/-- Hints about a selection. -/
def selectionControlBits : List EnumerantForm :=
  [⟨1, "Flatten", []⟩, ⟨2, "DontFlatten", []⟩]

/-- Hints about a loop. -/
def loopControlBits : List EnumerantForm :=
  [⟨1, "Unroll", []⟩, ⟨2, "DontUnroll", []⟩, ⟨4, "DependencyInfinite", []⟩,
   ⟨8, "DependencyLength", [.literal]⟩, ⟨0x10, "MinIterations", [.literal]⟩,
   ⟨0x20, "MaxIterations", [.literal]⟩, ⟨0x40, "IterationMultiple", [.literal]⟩,
   ⟨0x80, "PeelCount", [.literal]⟩, ⟨0x100, "PartialCount", [.literal]⟩,
   ⟨0x10000, "InitiationIntervalINTEL", [.literal]⟩, ⟨0x20000, "MaxConcurrencyINTEL", [.literal]⟩,
   ⟨0x40000, "DependencyArrayINTEL", [.literal]⟩, ⟨0x80000, "PipelineEnableINTEL", [.literal]⟩,
   ⟨0x100000, "LoopCoalesceINTEL", [.literal]⟩, ⟨0x200000, "MaxInterleavingINTEL", [.literal]⟩,
   ⟨0x400000, "SpeculatedIterationsINTEL", [.literal]⟩, ⟨0x800000, "NoFusionINTEL", []⟩,
   ⟨0x1000000, "LoopCountINTEL", [.literal]⟩, ⟨0x2000000, "MaxReinvocationDelayINTEL", [.literal]⟩]

/-- Hints about a function. -/
def functionControlBits : List EnumerantForm :=
  [⟨1, "Inline", []⟩, ⟨2, "DontInline", []⟩, ⟨4, "Pure", []⟩, ⟨8, "Const", []⟩,
   ⟨0x10000, "OptNoneINTEL", []⟩]

/-- Treatments of memory. -/
def memoryAccessBits : List EnumerantForm :=
  [⟨1, "Volatile", []⟩, ⟨2, "Aligned", [.literal]⟩, ⟨4, "Nontemporal", []⟩,
   ⟨8, "MakePointerAvailable", [.scope]⟩, ⟨8, "MakePointerAvailableKHR", []⟩,
   ⟨0x10, "MakePointerVisible", [.scope]⟩, ⟨0x10, "MakePointerVisibleKHR", []⟩,
   ⟨0x20, "NonPrivatePointer", []⟩, ⟨0x20, "NonPrivatePointerKHR", []⟩,
   ⟨0x10000, "AliasScopeINTELMask", [.id]⟩, ⟨0x20000, "NoAliasINTELMask", [.id]⟩]

/-- Signs and saturation of a product of matrices. -/
def cooperativeMatrixBits : List EnumerantForm :=
  [⟨1, "MATRIX_A_SIGNED_COMPONENTS_KHR", []⟩, ⟨2, "MATRIX_B_SIGNED_COMPONENTS_KHR", []⟩,
   ⟨4, "MATRIX_C_SIGNED_COMPONENTS_KHR", []⟩, ⟨8, "MATRIX_RESULT_SIGNED_COMPONENTS_KHR", []⟩,
   ⟨0x10, "SATURATING_ACCUMULATION_KHR", []⟩]

end EnumerantForm

/-! ### Kinds -/

open EnumerantForm in
/-- The enumerants of a kind. -/
def EnumerantKind.forms : EnumerantKind → List EnumerantForm
  | .sourceLanguage => sourceLanguages
  | .executionModel => executionModels
  | .addressingModel => addressingModels
  | .memoryModel => memoryModels
  | .executionMode => executionModes
  | .storageClass => storageClasses
  | .dim => dims
  | .samplerAddressing => samplerAddressings
  | .samplerFilter => samplerFilters
  | .imageFormat => imageFormats
  | .rounding => roundings
  | .denormals => denormalModes
  | .floatOperation => floatOperations
  | .linkage => linkages
  | .access => accesses
  | .hostAccess => hostAccesses
  | .initialization => initializations
  | .loadCache => loadCaches
  | .storeCache => storeCaches
  | .parameterAttribute => parameterAttributes
  | .decoration => decorations
  | .builtIn => builtIns
  | .groupOperation => groupOperations
  | .packedVectorFormat => packedVectorFormats
  | .capability => capabilities

open EnumerantForm in
/-- The bits of a set. -/
def BitSetKind.forms : BitSetKind → List EnumerantForm
  | .imageOperands => imageOperandBits
  | .fastMath => fastMathBits
  | .selectionControl => selectionControlBits
  | .loopControl => loopControlBits
  | .functionControl => functionControlBits
  | .memoryAccess => memoryAccessBits
  | .cooperativeMatrix => cooperativeMatrixBits

/-- The enumerant with this number. -/
def EnumerantKind.ofCode? (kind : EnumerantKind) (code : Word) : Option EnumerantForm :=
  kind.forms.find? fun f => f.code == code

/-- The bits of a set that stand in a word, if all bits of the word are known. -/
def BitSetKind.ofWord? (kind : BitSetKind) (bits : Word) : Option (List EnumerantForm) :=
  let known := kind.forms.foldl (fun known f => known ||| f.code) 0
  if bits &&& known = bits then some (kind.forms.filter fun f => bits &&& f.code = f.code)
  else none

/-- A set as listings show it: the names of its bits, joined by bars.  The set of a product of
matrices is shown with the name of its kind. -/
def BitSetKind.text (kind : BitSetKind) (bits : List EnumerantForm) : String :=
  let names := bits.map EnumerantForm.name
  match kind with
  | .cooperativeMatrix =>
      "CooperativeMatrixOperands("
        ++ (if names.isEmpty then "0x0" else " | ".intercalate names) ++ ")"
  | _ => if names.isEmpty then "None" else "|".intercalate names

end FrameShader
