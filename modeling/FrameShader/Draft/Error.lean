/-
Why a module cannot be drafted further.

Main definitions:

* `FrameShader.BuildError` — the causes for which a call is rejected;
* `FrameShader.BuildError.message` — the text of a cause;
* `FrameShader.Failure` — a call either is rejected or runs out of words.
-/

import FrameShader.Spirv.DataType
import FrameShader.Spirv.Opcode

set_option relaxedAutoImplicit false
set_option autoImplicit false

namespace FrameShader

/-- The causes for which a call on a draft is rejected. -/
inductive BuildError where
  /-- A vector has fewer than two or more than four components. -/
  | invalidVectorWidth (width : Word)
  /-- A component or member does not exist in its source. -/
  | componentOutOfRange (index width : Word)
  /-- An operand is not of the type that the instruction takes. -/
  | typeMismatch (opcode : Opcode) (expected found : String)
  /-- An id names nothing that can be seen here. -/
  | undefinedId (id : Id)
  /-- A decoration or a name refers to nothing. -/
  | missingTarget (id : Id)
  /-- An instruction of a body stands outside of functions. -/
  | noOpenFunction (opcode : Opcode)
  /-- A function begins before another is closed. -/
  | nestedFunction (id : Id)
  /-- A function is closed without a return. -/
  | missingReturn (id : Id)
  /-- An instruction follows the return. -/
  | blockTerminated (opcode : Opcode)
  /-- Two resources share a slot. -/
  | duplicateBinding (set binding : Word) (existing : Id)
  /-- An entry point is called. -/
  | entryPointCall (id : Id)
  /-- Two entry points share a name. -/
  | duplicateEntryPoint (name : String)
  /-- An id is defined a second time. -/
  | redefinition (id : Id)
  deriving DecidableEq, Repr

/-- An id as messages write it. -/
def idText (id : Id) : String := "%" ++ toString id.toNat

/-- The text of a cause. -/
def BuildError.message : BuildError → String
  | .invalidVectorWidth width =>
      "Vector types must have 2, 3 or 4 components, got " ++ toString width.toNat
  | .componentOutOfRange index width =>
      "Component " ++ toString index.toNat ++ " is out of range for a source with "
        ++ toString width.toNat ++ " components"
  | .typeMismatch opcode expected found =>
      "Type mismatch in " ++ opcode.name ++ ": expected " ++ expected ++ ", found " ++ found
  | .undefinedId id => idText id ++ " is referenced but not defined"
  | .missingTarget id => "Annotation target " ++ idText id ++ " does not exist"
  | .noOpenFunction opcode => opcode.name ++ " must be emitted inside a function body"
  | .nestedFunction id =>
      "Function " ++ idText id ++ " must be closed before another one begins"
  | .missingReturn id => "Function " ++ idText id ++ " has no return instruction"
  | .blockTerminated opcode => opcode.name ++ " emitted after the block was terminated"
  | .duplicateBinding set binding existing =>
      "Binding " ++ toString binding.toNat ++ " of descriptor set " ++ toString set.toNat
        ++ " is already used by " ++ idText existing
  | .entryPointCall id => "Entry point " ++ idText id ++ " can't be called"
  | .duplicateEntryPoint name => "Entry point " ++ name ++ " is declared twice"
  | .redefinition id => idText id ++ " is already defined"

/-- How a call on a draft can end without an answer. -/
inductive Failure where
  /-- The call broke a rule of the draft. -/
  | rejected (cause : BuildError)
  /-- A size or an id did not fit a word. -/
  | overflow (operation : Overflow)
  deriving DecidableEq, Repr

/-- The text of a failure. -/
def Failure.message : Failure → String
  | .rejected cause => cause.message
  | .overflow operation => operation.message

/-- The vector type of this width, if modules admit it. -/
def DataType.vector? (component : Scalar) (width : Word) : Except BuildError DataType :=
  if isVectorWidth width then .ok (.vector component width)
  else .error (.invalidVectorWidth width)

end FrameShader
