/-
What a kernel is generated with.

Main definitions:

* `FrameShader.Precision` — the width of every float of a kernel;
* `FrameShader.LocalSize` — the size of the groups in which invocations run;
* `FrameShader.KernelOptions` — precision, debug symbols and group size.
-/

import FrameShader.Spirv.DataType

set_option relaxedAutoImplicit false
set_option autoImplicit false

namespace FrameShader

/-- The precision shared by every float of a kernel. -/
inductive Precision where
  | single
  | double
  deriving DecidableEq, Repr

namespace Precision

/-- The width in bits. -/
def width : Precision → Word
  | .single => 32
  | .double => 64

/-- The floating-point scalar of this precision. -/
def scalar (p : Precision) : Scalar := .float p.width

/-- The name of a precision. -/
def name : Precision → String
  | .single => "f32"
  | .double => "f64"

/-- Every precision. -/
def all : List Precision := [.single, .double]

end Precision

/-- How many invocations run together, along three axes. -/
structure LocalSize where
  x : Word
  y : Word
  z : Word
  deriving DecidableEq, Repr

/-- Every invocation on its own. -/
def LocalSize.one : LocalSize := ⟨1, 1, 1⟩

/-- The three sizes in order. -/
def LocalSize.toList (s : LocalSize) : List Word := [s.x, s.y, s.z]

/-- The parameters of a kernel besides its format. -/
structure KernelOptions where
  precision : Precision := .single
  debugSymbols : Bool := false
  localSize : LocalSize := .one
  deriving DecidableEq, Repr

end FrameShader
