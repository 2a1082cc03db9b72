/-
The grammar of modules: forms of operands, of enumerants and of instructions.

A form says what words mean.  An instruction is known by a number, and its form says which operands
follow.  An operand may be an enumerant, which is known by a number too and may itself be followed
by operands, or a set of bits, each of which may be followed by operands.

Main definitions:

* `FrameShader.Atom` — operands that stand for themselves;
* `FrameShader.EnumerantForm` — an enumerant, or a bit of a set, with what follows it;
* `FrameShader.OperandForm` — operands of an instruction, and how often they come;
* `FrameShader.Section`, `FrameShader.Place` — where an instruction stands in a module;
* `FrameShader.InstructionForm` — an instruction with what follows it.
-/

import FrameShader.Word

set_option relaxedAutoImplicit false
set_option autoImplicit false

namespace FrameShader

/-! ### Operands -/

/-- The kinds of enumerants.  One enumerant stands in a word. -/
inductive EnumerantKind where
  | sourceLanguage | executionModel | addressingModel | memoryModel | executionMode
  | storageClass | dim | samplerAddressing | samplerFilter | imageFormat | rounding | denormals
  | floatOperation | linkage | access | hostAccess | initialization | loadCache | storeCache
  | parameterAttribute | decoration | builtIn | groupOperation | packedVectorFormat | capability
  deriving DecidableEq, Repr

/-- The kinds of sets.  Any bits of a set stand in a word together. -/
inductive BitSetKind where
  | imageOperands | fastMath | selectionControl | loopControl | functionControl | memoryAccess
  | cooperativeMatrix
  deriving DecidableEq, Repr

/-- An operand that stands for itself. -/
inductive Atom where
  | id
  /-- The id of a constant that names a scope. -/
  | scope
  /-- The id of a constant that names an order of memory. -/
  | semantics
  | literal
  | text
  | enumerant (kind : EnumerantKind)
  | bits (kind : BitSetKind)
  deriving DecidableEq, Repr

/-- An enumerant, or a bit of a set. -/
structure EnumerantForm where
  code : Word
  name : String
  /-- What follows it. -/
  parameters : List Atom
  deriving DecidableEq, Repr

/-- Enumerants with consecutive numbers that are followed by the same operands. -/
def EnumerantForm.run (first : Nat) (parameters : List Atom) (names : List String) :
    List EnumerantForm :=
  names.mapIdx fun i name => ⟨UInt32.ofNat (first + i), name, parameters⟩

/-- What an operand of an instruction is. -/
inductive OperandKind where
  /-- An operand and, if it is an enumerant or a set, what follows that. -/
  | atom (atom : Atom)
  /-- One operand after the other. -/
  | pair (first second : Atom)
  /-- A number that is as wide as the type of the result. -/
  | number
  /-- A number that is as wide as the type of the first operand, and an id. -/
  | branch
  /-- The number of an instruction, and its operands, each of them once. -/
  | operation
  deriving DecidableEq, Repr

/-- How often an operand comes. -/
inductive Occurrence where
  | once | optional | repeated
  deriving DecidableEq, Repr

/-- An operand of an instruction, as often as it comes. -/
structure OperandForm where
  kind : OperandKind
  occurrence : Occurrence
  deriving DecidableEq, Repr

namespace OperandForm

/-- An operand that comes once. -/
def once (a : Atom) : OperandForm := ⟨.atom a, .once⟩

/-- An operand that may be left out. -/
def optional (a : Atom) : OperandForm := ⟨.atom a, .optional⟩

/-- An operand that comes any number of times. -/
def repeated (a : Atom) : OperandForm := ⟨.atom a, .repeated⟩

/-- An id. -/
def id : OperandForm := once .id

/-- An id that may be left out. -/
def maybeId : OperandForm := optional .id

/-- Any number of ids. -/
def ids : OperandForm := repeated .id

/-- A scope. -/
def scope : OperandForm := once .scope

/-- An order of memory. -/
def semantics : OperandForm := once .semantics

/-- A number of one word. -/
def literal : OperandForm := once .literal

/-- Any number of numbers. -/
def literals : OperandForm := repeated .literal

/-- A text. -/
def text : OperandForm := once .text

/-- An enumerant. -/
def enumerant (kind : EnumerantKind) : OperandForm := once (.enumerant kind)

/-- A set of bits. -/
def bits (kind : BitSetKind) : OperandForm := once (.bits kind)

/-- A set of bits that may be left out. -/
def maybeBits (kind : BitSetKind) : OperandForm := optional (.bits kind)

end OperandForm

/-! ### Instructions -/

/-- The sections of a module before its functions, in order. -/
inductive Section where
  | capabilities | extensions | imports | memoryModel | entryPoints | executionModes | source
  | names | processes | annotations | globals
  deriving DecidableEq, Repr

/-- The sections in the order in which they stand in a module. -/
def Section.all : List Section :=
  [.capabilities, .extensions, .imports, .memoryModel, .entryPoints, .executionModes, .source,
   .names, .processes, .annotations, .globals]

/-- Where an instruction stands in a module. -/
inductive Place where
  | inSection (s : Section)
  /-- In the block that is open. -/
  | inBlock
  /-- At the end of the block that is open. -/
  | endOfBlock
  /-- In the block that is open; among the globals if no function is. -/
  | inBlockOrGlobal
  /-- In the block that is open; among the globals if no block is. -/
  | anywhere
  | startOfFunction
  | parameterOfFunction
  | startOfBlock
  | endOfFunction
  deriving DecidableEq, Repr

/-- An instruction. -/
structure InstructionForm where
  code : Word
  name : String
  /-- Whether the result has a type. -/
  typed : Bool := false
  /-- Whether there is a result. -/
  defining : Bool := false
  operands : List OperandForm := []
  place : Place := .inBlock
  deriving DecidableEq, Repr

namespace InstructionForm

/-- Instructions with consecutive numbers that have no result. -/
def actions (first : Nat) (operands : List OperandForm) (names : List String) :
    List InstructionForm :=
  names.mapIdx fun i name => { code := UInt32.ofNat (first + i), name, operands }

/-- Instructions with consecutive numbers that have a result without a type. -/
def definitions (first : Nat) (operands : List OperandForm) (names : List String) :
    List InstructionForm :=
  (actions first operands names).map fun f => { f with defining := true }

/-- Instructions with consecutive numbers that have a result with a type. -/
def values (first : Nat) (operands : List OperandForm) (names : List String) :
    List InstructionForm :=
  (definitions first operands names).map fun f => { f with typed := true }

/-- Instructions that stand in some place. -/
def standing (place : Place) (forms : List InstructionForm) : List InstructionForm :=
  forms.map fun f => { f with place := place }

end InstructionForm

end FrameShader
