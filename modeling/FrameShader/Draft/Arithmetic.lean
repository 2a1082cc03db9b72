/-
Arithmetic on floating-point scalars and vectors, comparison and selection.

Main definitions:

* `FrameShader.Build.fAdd`, `FrameShader.Build.fSub`, `FrameShader.Build.fMul`,
  `FrameShader.Build.fMod` — operations on two operands of one type;
* `FrameShader.Build.vectorTimesScalar`, `FrameShader.Build.dot` — vectors with scalars and with
  each other;
* `FrameShader.Build.extInst`, `FrameShader.Build.floor` — instructions of imported sets;
* `FrameShader.Build.convertUToF` — from unsigned integers;
* `FrameShader.Build.fOrdEqual`, `FrameShader.Build.select` — comparison and selection.
-/

import FrameShader.Draft.Types

set_option relaxedAutoImplicit false
set_option autoImplicit false

namespace FrameShader

/-- The name of the standard set of mathematical instructions. -/
def mathSet : String := "GLSL.std.450"

/-- The number of the component-wise floor in that set. -/
def floorNumber : Word := 8

/-! ### Checks -/

namespace Draft

/-- The common type of two floating-point operands. -/
def floatPair (d : Draft) (opcode : Opcode) (a b : Value) : Except BuildError DataType := do
  let s ← d.floatOperand opcode a
  let t ← d.floatOperand opcode b
  if a.type ≠ b.type then throw (.typeMismatch opcode s.text t.text)
  return s

/-- The first operand is a floating-point vector and the second its component. -/
def scaling (d : Draft) (v s : Value) : Except BuildError Unit := do
  let t ← d.floatOperand .vectorTimesScalar v
  let u ← d.floatOperand .vectorTimesScalar s
  match t with
  | .vector component _ =>
      if u ≠ .scalar component then
        throw (.typeMismatch .vectorTimesScalar (t.text ++ " and " ++ t.scalarOf.text)
          (t.text ++ " and " ++ u.text))
  | _ =>
      throw (.typeMismatch .vectorTimesScalar (t.text ++ " and " ++ t.scalarOf.text)
        (t.text ++ " and " ++ u.text))

/-- The component of two floating-point vectors of one type. -/
def dotOf (d : Draft) (a b : Value) : Except BuildError Scalar := do
  let s ← d.floatOperand .dot a
  let t ← d.floatOperand .dot b
  match s with
  | .vector component _ =>
      if a.type ≠ b.type then throw (.typeMismatch .dot s.text t.text)
      return component
  | _ => throw (.typeMismatch .dot "float vector" s.text)

/-- The type into which an unsigned integer is converted. -/
def conversion (d : Draft) (v : Value) (target : Scalar) : Except BuildError DataType := do
  let t ← d.check .convertUToF v
  match t.scalarOf, target with
  | .int _ false, .float _ => return t.withScalar target
  | _, _ => throw (.typeMismatch .convertUToF "unsigned integer" t.text)

/-- The condition has one truth value for each component of the two alternatives. -/
def selection (d : Draft) (condition accept refuse : Value) : Except BuildError Unit := do
  let c ← d.check .select condition
  let t ← d.check .select accept
  let u ← d.check .select refuse
  if accept.type ≠ refuse.type then throw (.typeMismatch .select t.text u.text)
  let expected := t.withScalar .bool
  if t.components?.isNone || c ≠ expected then
    throw (.typeMismatch .select expected.text c.text)

end Draft

namespace Build

/-! ### Two operands of one type -/

/-- An instruction on two floating-point operands of one type, with a result of that type. -/
def floatBinary (opcode : Opcode) (a b : Value) : Build Value := do
  let _ ← inspect (·.floatPair opcode a b)
  emitValue opcode a.type [.id a.id, .id b.id]

/-- The sum. -/
def fAdd (a b : Value) : Build Value := floatBinary .fAdd a b

/-- The difference. -/
def fSub (a b : Value) : Build Value := floatBinary .fSub a b

/-- The product of each pair of components. -/
def fMul (a b : Value) : Build Value := floatBinary .fMul a b

/-- The floored remainder: the result takes the sign of `b`. -/
def fMod (a b : Value) : Build Value := floatBinary .fMod a b

/-! ### Vectors -/

/-- Every component of a vector times a scalar. -/
def vectorTimesScalar (vector scalar : Value) : Build Value := do
  inspect (·.scaling vector scalar)
  emitValue .vectorTimesScalar vector.type [.id vector.id, .id scalar.id]

/-- The dot product of two vectors. -/
def dot (a b : Value) : Build Value := do
  let component ← inspect (·.dotOf a b)
  let type ← typeId (.scalar component)
  emitValue .dot type [.id a.id, .id b.id]

/-! ### Imported instructions -/

/-- An instruction of an imported set, which is imported at the first use. -/
def extInst (setName : String) (number : Word) (type : Id) (args : List Value) :
    Build Value := do
  let _ ← inspect (·.dataType type)
  let _ ← inspect (·.checkAll .extInst args)
  let set ← importSet setName
  emitValue .extInst type (.id set :: .extInst number :: args.map fun v => .id v.id)

/-- The floor of each component. -/
def floor (v : Value) : Build Value := do
  let _ ← inspect (·.floatOperand .extInst v)
  extInst mathSet floorNumber v.type [v]

/-! ### Conversion -/

/-- An unsigned integer, or a vector of them, as floating-point numbers. -/
def convertUToF (v : Value) (target : Scalar) : Build Value := do
  let t ← inspect (·.conversion v target)
  let type ← typeId t
  emitValue .convertUToF type [.id v.id]

/-! ### Comparison and selection -/

/-- Whether each pair of components is equal; what is not a number equals nothing. -/
def fOrdEqual (a b : Value) : Build Value := do
  let t ← inspect (·.floatPair .fOrdEqual a b)
  let type ← typeId (t.withScalar .bool)
  emitValue .fOrdEqual type [.id a.id, .id b.id]

/-- Component by component, `accept` where `condition` holds and `refuse` where it does not. -/
def select (condition accept refuse : Value) : Build Value := do
  inspect (·.selection condition accept refuse)
  emitValue .select accept.type [.id condition.id, .id accept.id, .id refuse.id]

end Build

end FrameShader
