/-
Instructions and their words.

An instruction is an opcode, an optional result type, an optional result, and operands.  Its first
word holds the number of its words in the upper half and its opcode in the lower half; then come
the result type, the result and the operands.

Operands have the kinds that the instructions of drafts have.  Other kinds, such as the ids of
scopes and of memory semantics, belong to instructions that no draft writes.  Decorations take
further operands, which are handed on as they are; those of another kind have the words of an id or
of a number, and are given as such.

Main definitions:

* `FrameShader.Operand` — one operand, typed by what it means;
* `FrameShader.Operand.encode` — its words;
* `FrameShader.Instruction` — an instruction;
* `FrameShader.Instruction.encode` — its words;
* `FrameShader.encodeAll` — the words of a list of instructions.
-/

import FrameShader.Spirv.Opcode

set_option relaxedAutoImplicit false
set_option autoImplicit false

namespace FrameShader

/-- One operand of an instruction that drafts write. -/
inductive Operand where
  /-- A reference to a result. -/
  | id (target : Id)
  /-- A number of one word. -/
  | literal (value : Word)
  /-- A number of two words. -/
  | literal64 (value : UInt64)
  /-- A text. -/
  | text (value : String)
  /-- The number of an instruction inside an extended instruction set. -/
  | extInst (number : Word)
  | storageClass (value : StorageClass)
  | dim (value : Dim)
  | imageFormat (value : ImageFormat)
  | builtIn (value : BuiltIn)
  | decoration (value : Decoration)
  | capability (value : Capability)
  | addressingModel (value : AddressingModel)
  | memoryModel (value : MemoryModel)
  | executionModel (value : ExecutionModel)
  | executionMode (value : ExecutionMode)
  | sourceLanguage (value : SourceLanguage)
  | functionControl (value : FunctionControl)
  | imageOperands (value : ImageOperandSet)
  deriving DecidableEq, Repr

/-- The words of a number of two words, the lower one first. -/
def wordsOfUInt64 (v : UInt64) : List Word := [v.toUInt32, (v >>> 32).toUInt32]

/-- The words of an operand. -/
def Operand.encode : Operand → List Word
  | .id target => [target]
  | .literal value => [value]
  | .literal64 value => wordsOfUInt64 value
  | .text value => packText value
  | .extInst number => [number]
  | .storageClass value => [value.code]
  | .dim value => [value.code]
  | .imageFormat value => [value.code]
  | .builtIn value => [value.code]
  | .decoration value => [value.code]
  | .capability value => [value.code]
  | .addressingModel value => [value.code]
  | .memoryModel value => [value.code]
  | .executionModel value => [value.code]
  | .executionMode value => [value.code]
  | .sourceLanguage value => [value.code]
  | .functionControl value => [value.bits]
  | .imageOperands value => [value.bits]

/-- One instruction. -/
structure Instruction where
  /-- What it does. -/
  opcode : Opcode
  /-- The type of its result, if the result has one. -/
  resultType : Option Id
  /-- The id it defines, if any. -/
  result : Option Id
  /-- What it works on. -/
  operands : List Operand
  deriving DecidableEq, Repr

namespace Instruction

/-- An instruction that defines nothing. -/
def plain (opcode : Opcode) (operands : List Operand) : Instruction :=
  ⟨opcode, none, none, operands⟩

/-- An instruction that defines an id without a type. -/
def defining (opcode : Opcode) (result : Id) (operands : List Operand) : Instruction :=
  ⟨opcode, none, some result, operands⟩

/-- An instruction that defines an id of type `resultType`. -/
def typed (opcode : Opcode) (resultType result : Id) (operands : List Operand) : Instruction :=
  ⟨opcode, some resultType, some result, operands⟩

/-- The words after the first. -/
def tail (i : Instruction) : List Word :=
  i.resultType.toList ++ i.result.toList ++ i.operands.flatMap Operand.encode

/-- The first word of an instruction of `count` words. -/
def leadingWord (count : Nat) (opcode : Word) : Word := (UInt32.ofNat count <<< 16) ||| opcode

/-- The words of an instruction. -/
def encode (i : Instruction) : List Word :=
  leadingWord (i.tail.length + 1) i.opcode.code :: i.tail

@[simp] theorem length_encode (i : Instruction) : i.encode.length = i.tail.length + 1 := rfl

end Instruction

/-- The words of a list of instructions, one after the other. -/
def encodeAll (is : List Instruction) : List Word := is.flatMap Instruction.encode

@[simp] theorem encodeAll_nil : encodeAll [] = [] := rfl

@[simp] theorem encodeAll_cons (i : Instruction) (is : List Instruction) :
    encodeAll (i :: is) = i.encode ++ encodeAll is := rfl

@[simp] theorem encodeAll_append (is js : List Instruction) :
    encodeAll (is ++ js) = encodeAll is ++ encodeAll js := List.flatMap_append

end FrameShader
