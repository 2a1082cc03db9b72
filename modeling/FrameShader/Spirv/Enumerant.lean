/-
The enumerants that drafts write: each is a name with a number.

There are more of them in the specification.  The kinds `StorageClass`, `ImageFormat`, `BuiltIn`,
`Decoration`, `Capability`, `AddressingModel`, `ExecutionModel` and `ExecutionMode` have here what
drafts write on their own and a selection of what they can be asked to write; `Dim`, `MemoryModel`
and `SourceLanguage` are complete.  Drafts tell few of the members apart: the storage class of a
variable decides whether it can be made, be in the interface of an entry point, and have a slot.
Otherwise members are compared for equality at most and handed on into the module as they are, so
those that are left out would be treated like those here that no decision names, such as
`Capability.kernel` or `Decoration.coherent`.  Modules from elsewhere, which may hold all of them,
are read by the tables below `FrameShader.Spirv.Grammar` and not by these types.

Main definitions:

* `FrameShader.Enumerant` — a finite type whose members have a number and a name;
* `FrameShader.Enumerant.ofName?` — the member with that name;
* one inductive type for each kind of enumerant, from `FrameShader.StorageClass` to
  `FrameShader.SourceLanguage`;
* `FrameShader.FunctionControl`, `FrameShader.ImageOperandSet` — the kinds that are sets of bits.
-/

import FrameShader.Word

set_option relaxedAutoImplicit false
set_option autoImplicit false

namespace FrameShader

/-- A finite type whose members have a number inside a module and a name outside of it. -/
class Enumerant (α : Type) where
  /-- Every member. -/
  all : List α
  /-- The number of a member. -/
  code : α → Word
  /-- The name of a member. -/
  name : α → String

/-- The member with this name. -/
def Enumerant.ofName? (α : Type) [Enumerant α] (s : String) : Option α :=
  (Enumerant.all : List α).find? fun a => Enumerant.name a == s

/-! ### Storage classes -/

/-- Where the storage behind a pointer lives. -/
inductive StorageClass where
  | uniformConstant | input | uniform | output | workgroup | crossWorkgroup | privateStore
  | function | generic | pushConstant | atomicCounter | image | storageBuffer
  deriving DecidableEq, Repr

/-- The number that stands for it in a module. -/
def StorageClass.code : StorageClass → Word
  | .uniformConstant => 0
  | .input => 1
  | .uniform => 2
  | .output => 3
  | .workgroup => 4
  | .crossWorkgroup => 5
  | .privateStore => 6
  | .function => 7
  | .generic => 8
  | .pushConstant => 9
  | .atomicCounter => 10
  | .image => 11
  | .storageBuffer => 12

/-- Its name in the specification. -/
def StorageClass.name : StorageClass → String
  | .uniformConstant => "UniformConstant"
  | .input => "Input"
  | .uniform => "Uniform"
  | .output => "Output"
  | .workgroup => "Workgroup"
  | .crossWorkgroup => "CrossWorkgroup"
  | .privateStore => "Private"
  | .function => "Function"
  | .generic => "Generic"
  | .pushConstant => "PushConstant"
  | .atomicCounter => "AtomicCounter"
  | .image => "Image"
  | .storageBuffer => "StorageBuffer"

/-- Every one of them, by number. -/
def StorageClass.all : List StorageClass :=
  [.uniformConstant, .input, .uniform, .output, .workgroup, .crossWorkgroup, .privateStore,
   .function, .generic, .pushConstant, .atomicCounter, .image, .storageBuffer]

instance : Enumerant StorageClass where
  all := StorageClass.all
  code := StorageClass.code
  name := StorageClass.name

/-! ### Image dimensions -/

/-- The dimensionality of an image. -/
inductive Dim where
  | oneD | twoD | threeD | cube | rect | buffer | subpassData | tileImageDataExt
  deriving DecidableEq, Repr

/-- The number that stands for it in a module. -/
def Dim.code : Dim → Word
  | .oneD => 0
  | .twoD => 1
  | .threeD => 2
  | .cube => 3
  | .rect => 4
  | .buffer => 5
  | .subpassData => 6
  | .tileImageDataExt => 4173

/-- Its name in full. -/
def Dim.name : Dim → String
  | .oneD => "Dim1D"
  | .twoD => "Dim2D"
  | .threeD => "Dim3D"
  | .cube => "DimCube"
  | .rect => "DimRect"
  | .buffer => "DimBuffer"
  | .subpassData => "DimSubpassData"
  | .tileImageDataExt => "DimTileImageDataEXT"

/-- Every one of them, by number. -/
def Dim.all : List Dim :=
  [.oneD, .twoD, .threeD, .cube, .rect, .buffer, .subpassData, .tileImageDataExt]

instance : Enumerant Dim where
  all := Dim.all
  code := Dim.code
  name := Dim.name

/-! ### Image formats -/

/-- The texel format of an image. -/
inductive ImageFormat where
  | unknown | rgba32f | r8 | rgba8ui | r32ui
  deriving DecidableEq, Repr

/-- The number that stands for it in a module. -/
def ImageFormat.code : ImageFormat → Word
  | .unknown => 0
  | .rgba32f => 1
  | .r8 => 15
  | .rgba8ui => 32
  | .r32ui => 33

/-- Its name in the specification. -/
def ImageFormat.name : ImageFormat → String
  | .unknown => "Unknown"
  | .rgba32f => "Rgba32f"
  | .r8 => "R8"
  | .rgba8ui => "Rgba8ui"
  | .r32ui => "R32ui"

/-- Every one of them, by number. -/
def ImageFormat.all : List ImageFormat :=
  [.unknown, .rgba32f, .r8, .rgba8ui, .r32ui]

instance : Enumerant ImageFormat where
  all := ImageFormat.all
  code := ImageFormat.code
  name := ImageFormat.name

/-! ### Built-in values -/

/-- A value that the pipeline provides. -/
inductive BuiltIn where
  | position | pointSize | numWorkgroups | workgroupSize | workgroupId | localInvocationId
  | globalInvocationId | localInvocationIndex | subgroupSize | vertexIndex
  deriving DecidableEq, Repr

/-- The number that stands for it in a module. -/
def BuiltIn.code : BuiltIn → Word
  | .position => 0
  | .pointSize => 1
  | .numWorkgroups => 24
  | .workgroupSize => 25
  | .workgroupId => 26
  | .localInvocationId => 27
  | .globalInvocationId => 28
  | .localInvocationIndex => 29
  | .subgroupSize => 36
  | .vertexIndex => 42

/-- Its name in the specification. -/
def BuiltIn.name : BuiltIn → String
  | .position => "Position"
  | .pointSize => "PointSize"
  | .numWorkgroups => "NumWorkgroups"
  | .workgroupSize => "WorkgroupSize"
  | .workgroupId => "WorkgroupId"
  | .localInvocationId => "LocalInvocationId"
  | .globalInvocationId => "GlobalInvocationId"
  | .localInvocationIndex => "LocalInvocationIndex"
  | .subgroupSize => "SubgroupSize"
  | .vertexIndex => "VertexIndex"

/-- Every one of them, by number. -/
def BuiltIn.all : List BuiltIn :=
  [.position, .pointSize, .numWorkgroups, .workgroupSize, .workgroupId, .localInvocationId,
   .globalInvocationId, .localInvocationIndex, .subgroupSize, .vertexIndex]

instance : Enumerant BuiltIn where
  all := BuiltIn.all
  code := BuiltIn.code
  name := BuiltIn.name

/-! ### Decorations -/

/-- A property attached to an id or to a member of a record. -/
inductive Decoration where
  | relaxedPrecision | specId | block | bufferBlock | arrayStride | builtIn | flat | restrict
  | aliased | volatile | coherent | nonWritable | nonReadable | uniform | uniformId | location
  | binding | descriptorSet | offset | userSemantic
  deriving DecidableEq, Repr

/-- The number that stands for it in a module. -/
def Decoration.code : Decoration → Word
  | .relaxedPrecision => 0
  | .specId => 1
  | .block => 2
  | .bufferBlock => 3
  | .arrayStride => 6
  | .builtIn => 11
  | .flat => 14
  | .restrict => 19
  | .aliased => 20
  | .volatile => 21
  | .coherent => 23
  | .nonWritable => 24
  | .nonReadable => 25
  | .uniform => 26
  | .uniformId => 27
  | .location => 30
  | .binding => 33
  | .descriptorSet => 34
  | .offset => 35
  | .userSemantic => 5635

/-- Its name in the specification. -/
def Decoration.name : Decoration → String
  | .relaxedPrecision => "RelaxedPrecision"
  | .specId => "SpecId"
  | .block => "Block"
  | .bufferBlock => "BufferBlock"
  | .arrayStride => "ArrayStride"
  | .builtIn => "BuiltIn"
  | .flat => "Flat"
  | .restrict => "Restrict"
  | .aliased => "Aliased"
  | .volatile => "Volatile"
  | .coherent => "Coherent"
  | .nonWritable => "NonWritable"
  | .nonReadable => "NonReadable"
  | .uniform => "Uniform"
  | .uniformId => "UniformId"
  | .location => "Location"
  | .binding => "Binding"
  | .descriptorSet => "DescriptorSet"
  | .offset => "Offset"
  | .userSemantic => "UserSemantic"

/-- Every one of them, by number. -/
def Decoration.all : List Decoration :=
  [.relaxedPrecision, .specId, .block, .bufferBlock, .arrayStride, .builtIn, .flat, .restrict,
   .aliased, .volatile, .coherent, .nonWritable, .nonReadable, .uniform, .uniformId, .location,
   .binding, .descriptorSet, .offset, .userSemantic]

instance : Enumerant Decoration where
  all := Decoration.all
  code := Decoration.code
  name := Decoration.name

/-! ### Capabilities -/

/-- A feature that a module declares to use. -/
inductive Capability where
  | shader | linkage | kernel | float16 | float64 | int64
  deriving DecidableEq, Repr

/-- The number that stands for it in a module. -/
def Capability.code : Capability → Word
  | .shader => 1
  | .linkage => 5
  | .kernel => 6
  | .float16 => 9
  | .float64 => 10
  | .int64 => 11

/-- Its name in the specification. -/
def Capability.name : Capability → String
  | .shader => "Shader"
  | .linkage => "Linkage"
  | .kernel => "Kernel"
  | .float16 => "Float16"
  | .float64 => "Float64"
  | .int64 => "Int64"

/-- Every one of them, by number. -/
def Capability.all : List Capability :=
  [.shader, .linkage, .kernel, .float16, .float64, .int64]

instance : Enumerant Capability where
  all := Capability.all
  code := Capability.code
  name := Capability.name

/-! ### Addressing models -/

/-- How a module addresses memory. -/
inductive AddressingModel where
  | logical | physical32 | physical64
  deriving DecidableEq, Repr

/-- The number that stands for it in a module. -/
def AddressingModel.code : AddressingModel → Word
  | .logical => 0
  | .physical32 => 1
  | .physical64 => 2

/-- Its name in the specification. -/
def AddressingModel.name : AddressingModel → String
  | .logical => "Logical"
  | .physical32 => "Physical32"
  | .physical64 => "Physical64"

/-- Every one of them, by number. -/
def AddressingModel.all : List AddressingModel :=
  [.logical, .physical32, .physical64]

instance : Enumerant AddressingModel where
  all := AddressingModel.all
  code := AddressingModel.code
  name := AddressingModel.name

/-! ### Memory models -/

/-- The memory model of a module. -/
inductive MemoryModel where
  | simple | glsl450 | opencl | vulkan
  deriving DecidableEq, Repr

/-- The number that stands for it in a module. -/
def MemoryModel.code : MemoryModel → Word
  | .simple => 0
  | .glsl450 => 1
  | .opencl => 2
  | .vulkan => 3

/-- Its name in the specification. -/
def MemoryModel.name : MemoryModel → String
  | .simple => "Simple"
  | .glsl450 => "GLSL450"
  | .opencl => "OpenCL"
  | .vulkan => "Vulkan"

/-- Every one of them, by number. -/
def MemoryModel.all : List MemoryModel :=
  [.simple, .glsl450, .opencl, .vulkan]

instance : Enumerant MemoryModel where
  all := MemoryModel.all
  code := MemoryModel.code
  name := MemoryModel.name

/-! ### Execution models -/

/-- The pipeline stage of an entry point. -/
inductive ExecutionModel where
  | glCompute
  deriving DecidableEq, Repr

/-- The number that stands for it in a module. -/
def ExecutionModel.code : ExecutionModel → Word
  | .glCompute => 5

/-- Its name in the specification. -/
def ExecutionModel.name : ExecutionModel → String
  | .glCompute => "GLCompute"

/-- Every one of them, by number. -/
def ExecutionModel.all : List ExecutionModel :=
  [.glCompute]

instance : Enumerant ExecutionModel where
  all := ExecutionModel.all
  code := ExecutionModel.code
  name := ExecutionModel.name

/-! ### Execution modes -/

/-- How an entry point runs. -/
inductive ExecutionMode where
  | invocations | originUpperLeft | localSize | localSizeHint | subgroupSize
  deriving DecidableEq, Repr

/-- The number that stands for it in a module. -/
def ExecutionMode.code : ExecutionMode → Word
  | .invocations => 0
  | .originUpperLeft => 7
  | .localSize => 17
  | .localSizeHint => 18
  | .subgroupSize => 35

/-- Its name in the specification. -/
def ExecutionMode.name : ExecutionMode → String
  | .invocations => "Invocations"
  | .originUpperLeft => "OriginUpperLeft"
  | .localSize => "LocalSize"
  | .localSizeHint => "LocalSizeHint"
  | .subgroupSize => "SubgroupSize"

/-- Every one of them, by number. -/
def ExecutionMode.all : List ExecutionMode :=
  [.invocations, .originUpperLeft, .localSize, .localSizeHint, .subgroupSize]

instance : Enumerant ExecutionMode where
  all := ExecutionMode.all
  code := ExecutionMode.code
  name := ExecutionMode.name

/-! ### Source languages -/

/-- The language that a module was written in. -/
inductive SourceLanguage where
  | unknown | essl | glsl | openclC | openclCpp | hlsl | cppForOpencl | sycl | heroC | nzsl
  | wgsl | slang
  deriving DecidableEq, Repr

/-- The number that stands for it in a module. -/
def SourceLanguage.code : SourceLanguage → Word
  | .unknown => 0
  | .essl => 1
  | .glsl => 2
  | .openclC => 3
  | .openclCpp => 4
  | .hlsl => 5
  | .cppForOpencl => 6
  | .sycl => 7
  | .heroC => 8
  | .nzsl => 9
  | .wgsl => 10
  | .slang => 11

/-- Its name in the specification. -/
def SourceLanguage.name : SourceLanguage → String
  | .unknown => "Unknown"
  | .essl => "ESSL"
  | .glsl => "GLSL"
  | .openclC => "OpenCL_C"
  | .openclCpp => "OpenCL_CPP"
  | .hlsl => "HLSL"
  | .cppForOpencl => "CPP_for_OpenCL"
  | .sycl => "SYCL"
  | .heroC => "HERO_C"
  | .nzsl => "NZSL"
  | .wgsl => "WGSL"
  | .slang => "Slang"

/-- Every one of them, by number. -/
def SourceLanguage.all : List SourceLanguage :=
  [.unknown, .essl, .glsl, .openclC, .openclCpp, .hlsl, .cppForOpencl, .sycl, .heroC, .nzsl,
   .wgsl, .slang]

instance : Enumerant SourceLanguage where
  all := SourceLanguage.all
  code := SourceLanguage.code
  name := SourceLanguage.name

/-! ### Sets of bits -/

/-- Hints about how a function may be called, one bit each. -/
structure FunctionControl where
  /-- The bits. -/
  bits : Word
  deriving DecidableEq, Repr

/-- No hint. -/
def FunctionControl.none : FunctionControl := ⟨0⟩

/-- The body is best copied to its calls. -/
def FunctionControl.inline : FunctionControl := ⟨1⟩

/-- The result depends on the arguments and on memory alone. -/
def FunctionControl.pure : FunctionControl := ⟨4⟩

/-- All hints of both. -/
def FunctionControl.union (a b : FunctionControl) : FunctionControl := ⟨a.bits ||| b.bits⟩

/-- Which optional arguments an image instruction takes, one bit each. -/
structure ImageOperandSet where
  /-- The bits. -/
  bits : Word
  deriving DecidableEq, Repr

/-- The level of detail is given. -/
def ImageOperandSet.lod : ImageOperandSet := ⟨2⟩

end FrameShader
