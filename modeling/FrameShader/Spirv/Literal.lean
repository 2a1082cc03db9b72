/-
Scalar literals and typed values.

Main definitions:

* `FrameShader.Literal` — the bits of a scalar constant;
* `FrameShader.Literal.ofFloat`, `FrameShader.Literal.ofUInt` — the literal of a number at a given
  width;
* `FrameShader.Value` — a result together with its type.
-/

import FrameShader.Number.Binary
import FrameShader.Spirv.Instruction

set_option relaxedAutoImplicit false
set_option autoImplicit false

namespace FrameShader

/-- The bits of a scalar constant, in one word or in two. -/
inductive Literal where
  | bits32 (value : UInt32)
  | bits64 (value : UInt64)
  deriving DecidableEq, Repr

namespace Literal

/-- The bits as a number. -/
def toUInt64 : Literal → UInt64
  | .bits32 value => value.toUInt64
  | .bits64 value => value

/-- The floating-point number that the bits stand for. -/
def toFloat : Literal → Float64Bits
  | .bits32 value => (Float32Bits.mk value).toDouble
  | .bits64 value => ⟨value⟩

/-- A floating-point number at a width: two words at 64 bits, else rounded to 32. -/
def ofFloat (value : Float64Bits) (width : Word) : Literal :=
  if width = 64 then .bits64 value.bits else .bits32 value.toSingle.bits

/-- An unsigned number at a width: two words at 64 bits, else its lower half. -/
def ofUInt (value : UInt64) (width : Word) : Literal :=
  if width = 64 then .bits64 value else .bits32 value.toUInt32

/-- How many bits the literal takes. -/
def width : Literal → Nat
  | .bits32 _ => 32
  | .bits64 _ => 64

/-- The literal as an operand. -/
def operand : Literal → Operand
  | .bits32 value => .literal value
  | .bits64 value => .literal64 value

end Literal

/-- A result of an instruction, a constant or a variable, together with the id of its type. -/
structure Value where
  id : Id
  type : Id
  deriving DecidableEq, Repr

end FrameShader
