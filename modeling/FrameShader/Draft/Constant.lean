/-
Interning of constants: equal constants of one type share one id.

Two truth values are the same if they are equal, two scalars if their types and bits agree, and two
composites if their types and constituents agree.

Main definitions:

* `FrameShader.Build.internConstant` — the constant with a key, adding it the first time;
* `FrameShader.Build.constantBool`, `FrameShader.Build.constantScalar`,
  `FrameShader.Build.constantComposite` — the three kinds of constants;
* `FrameShader.Build.constUInt`, `FrameShader.Build.constFloat`, `FrameShader.Build.constVector` —
  constants by value.
-/

import FrameShader.Draft.Types

set_option relaxedAutoImplicit false
set_option autoImplicit false

namespace FrameShader

/-! ### Checks -/

/-- The literal has as many words as the type needs, which must be a numeric scalar. -/
def Literal.suits (t : DataType) (value : Literal) : Except BuildError Unit :=
  match t with
  | .scalar (.int width _) | .scalar (.float width) =>
      if (32 < width) = (32 < value.width) then .ok ()
      else
        .error (.typeMismatch .constant t.text (toString value.width ++ " bit literal"))
  | _ => .error (.typeMismatch .constant "numeric scalar" t.text)

namespace Draft

/-- Whether the id is an interned constant. -/
def isConstant (d : Draft) (id : Id) : Bool := d.tables.constants.any (·.2 == id)

/-- Every value is an interned constant of the scalar type `s`. -/
def constituents (d : Draft) (s : Scalar) : List Value → Except BuildError Unit
  | [] => .ok ()
  | v :: vs => do
      if !d.isConstant v.id then throw (.undefinedId v.id)
      let found ← d.check .constantComposite v
      if found ≠ .scalar s then
        throw (.typeMismatch .constantComposite s.text found.text)
      d.constituents s vs

/-- The component of the vector type `t`, provided that the values make up a constant of it. -/
def compositeOf (d : Draft) (t : DataType) (values : List Value) : Except BuildError Unit :=
  match t with
  | .vector s width =>
      if UInt32.ofNat values.length ≠ width then
        .error (.typeMismatch .constantComposite (toString width.toNat ++ " constituents")
          (toString values.length))
      else d.constituents s values
  | _ => .error (.typeMismatch .constantComposite "vector" t.text)

/-- The draft that knows the bits of one more constant, if the key is that of a scalar. -/
def addLiteral (d : Draft) (key : ConstantKey) (id : Id) : Draft :=
  match key with
  | .scalar _ value =>
      { d with tables := { d.tables with literals := (id, value) :: d.tables.literals } }
  | _ => d

/-- The draft that finds `id` again as the constant with this key. -/
def addConstant (d : Draft) (key : ConstantKey) (id : Id) : Draft :=
  { d with tables := { d.tables with constants := (key, id) :: d.tables.constants } }

/-- The draft with the definition of a constant, which it finds again by its key. -/
def addConstantDefinition (d : Draft) (key : ConstantKey) (opcode : Opcode) (type id : Id)
    (operands : List Operand) : Draft :=
  ((d.addGlobalValue opcode type id operands).addLiteral key id).addConstant key id

end Draft

namespace Build

/-! ### Interning -/

/-- The constant with this key; the first time, `definition` gives the opcode, the type and the
operands of the instruction that defines it. -/
def internConstant (key : ConstantKey) (definition : Build (Opcode × Id × List Operand)) :
    Build Value := do
  match (← get).tables.constants.lookup key with
  | some id =>
      match (← get).typeOf? id with
      | some type =>
          record .trace ("reusing constant " ++ idText id)
          return ⟨id, type⟩
      | none => reject (.undefinedId id)
  | none =>
      let (opcode, type, operands) ← definition
      let id ← freshId
      modify (·.addConstantDefinition key opcode type id operands)
      return ⟨id, type⟩

/-- A truth value. -/
def constantBool (value : Bool) : Build Value :=
  internConstant (.bool value) do
    let type ← typeId .bool
    return (if value then .constantTrue else .constantFalse, type, [])

/-- A number of a scalar type, given by its bits. -/
def constantScalar (t : DataType) (value : Literal) : Build Value := do
  ofExcept (value.suits t)
  let type ← typeId t
  internConstant (.scalar type value) (return (.constant, type, [value.operand]))

/-- A vector of scalar constants. -/
def constantComposite (t : DataType) (values : List Value) : Build Value := do
  inspect (·.compositeOf t values)
  let type ← typeId t
  let ids := values.map Value.id
  internConstant (.composite type ids) (return (.constantComposite, type, ids.map .id))

/-! ### Constants by value -/

/-- An unsigned number of 32 bits. -/
def constUInt (value : Word) : Build Value := constantScalar .uint32 (.bits32 value)

/-- A floating-point number of the given scalar type. -/
def constFloat (s : Scalar) (value : Float64Bits) : Build Value :=
  match s with
  | .float width => constantScalar (.scalar s) (.ofFloat value width)
  | _ => reject (.typeMismatch .constant "float" s.text)

/-- Floating-point numbers of the given scalar type, from the left. -/
def constFloats (s : Scalar) : List Float64Bits → Build (List Value)
  | [] => return []
  | x :: xs => do
      let v ← constFloat s x
      let vs ← constFloats s xs
      return v :: vs

/-- A vector of floating-point numbers, one for each component. -/
def constVector (s : Scalar) (values : List Float64Bits) : Build Value := do
  let t ← ofExcept (DataType.vector? s (UInt32.ofNat values.length))
  let constituents ← constFloats s values
  constantComposite t constituents

end Build

end FrameShader
