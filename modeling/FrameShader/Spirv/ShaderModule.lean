/-
Finished modules: a header and sections in a fixed order.

The order of the sections is part of the format: capabilities, extensions, imports, the memory
model, entry points, execution modes, the source, names, annotations, types with constants and
variables, and last the functions.  A module keeps its sections apart, so the order in which they
were filled does not show in its words.

Main definitions:

* `FrameShader.Header`, `FrameShader.versionWord` — the five leading words;
* `FrameShader.Function` — a function whose body is one block;
* `FrameShader.ShaderModule` — a finished module;
* `FrameShader.ShaderModule.instructions`, `FrameShader.ShaderModule.words` — all instructions in
  order, and the words of the module.
-/

import FrameShader.Spirv.Instruction

set_option relaxedAutoImplicit false
set_option autoImplicit false

namespace FrameShader

/-! ### Headers -/

/-- The first word of every module. -/
def magicNumber : Word := 0x07230203

/-- The leading words of a module, besides the fixed ones. -/
structure Header where
  /-- The version word. -/
  version : Word
  /-- Which tool made the module. -/
  generator : Word
  /-- One more than the highest id that was handed out. -/
  bound : Id
  deriving DecidableEq, Repr

/-- The five words of a header: the last is reserved and zero. -/
def Header.words (h : Header) : List Word := [magicNumber, h.version, h.generator, h.bound, 0]

/-- The version word of `major.minor`. -/
def versionWord (major minor : UInt8) : Word :=
  (major.toUInt32 <<< 16) ||| (minor.toUInt32 <<< 8)

/-! ### Functions -/

/-- A closed function.  Its body is a single block without branches. -/
structure Function where
  /-- The opening instruction, which defines the function's id. -/
  definition : Instruction
  /-- One instruction for each parameter. -/
  parameters : List Instruction
  /-- The label of the only block. -/
  label : Instruction
  /-- The block's instructions, the return included. -/
  body : List Instruction
  deriving DecidableEq, Repr

/-- The instruction that closes every function. -/
def Function.finish : Instruction := .plain .functionEnd []

/-- All instructions of a function, in order. -/
def Function.instructions (f : Function) : List Instruction :=
  f.definition :: (f.parameters ++ f.label :: (f.body ++ [Function.finish]))

/-! ### Modules -/

/-- A finished module. -/
structure ShaderModule where
  header : Header
  capabilities : List Instruction
  extensions : List Instruction
  imports : List Instruction
  memoryModel : Instruction
  entryPoints : List Instruction
  executionModes : List Instruction
  source : List Instruction
  names : List Instruction
  annotations : List Instruction
  /-- Types, constants and module scope variables. -/
  globals : List Instruction
  functions : List Function
  deriving DecidableEq, Repr

namespace ShaderModule

/-- The instructions outside of functions, in order. -/
def globalInstructions (m : ShaderModule) : List Instruction :=
  m.capabilities ++ m.extensions ++ m.imports ++ [m.memoryModel] ++ m.entryPoints
    ++ m.executionModes ++ m.source ++ m.names ++ m.annotations ++ m.globals

/-- Every instruction, in order. -/
def instructions (m : ShaderModule) : List Instruction :=
  m.globalInstructions ++ m.functions.flatMap Function.instructions

/-- The words of a module. -/
def words (m : ShaderModule) : List Word := m.header.words ++ encodeAll m.instructions

end ShaderModule

end FrameShader
