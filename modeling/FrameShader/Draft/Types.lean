/-
Interning of types: equal types share one id, which is defined at the first request.

A type is defined after the types it is made of, so the section of globals can be read from front
to back.  An array is decorated with its stride, the packed size of its element, as soon as it is
defined.

Main definitions:

* `FrameShader.Build.intern` — the id of a type, defining it the first time;
* `FrameShader.Build.typeId` — the id of any type;
* `FrameShader.Build.signature` — the ids of a function type, its result and its parameters.
-/

import FrameShader.Draft.Annotation

set_option relaxedAutoImplicit false
set_option autoImplicit false

namespace FrameShader

/-- The draft that knows `id` as the type `t`. -/
def Draft.addType (d : Draft) (id : Id) (t : DataType) : Draft :=
  { d with tables := { d.tables with
      types := (t, id) :: d.tables.types
      dataTypes := (id, t) :: d.tables.dataTypes } }

/-- The draft with the definition of the type `t`, which it knows by `id`. -/
def Draft.addTypeDefinition (d : Draft) (id : Id) (t : DataType) (opcode : Opcode)
    (operands : List Operand) : Draft :=
  (d.addType id t).addGlobal (.defining opcode id operands)

namespace Build

/-- The id of `t`.  The first time, `definition` gives the instruction that defines it, and
`complete` adds what has to be said about the new id. -/
def intern (t : DataType) (definition : Build (Opcode × List Operand))
    (complete : Id → Build Unit) : Build Id := do
  match (← get).tables.types.lookup t with
  | some id => return id
  | none =>
      let (opcode, operands) ← definition
      let id ← freshId
      modify (·.addTypeDefinition id t opcode operands)
      complete id
      if (← get).settings.debugSymbols then name id t.text
      return id

/-- Nothing more to say about a new type. -/
def complete (_ : Id) : Build Unit := return ()

/-- A truth value as a number. -/
def flag (b : Bool) : Operand := .literal (if b then 1 else 0)

/-- The id of a scalar type.  Wide floating-point numbers need a capability. -/
def scalarId (s : Scalar) : Build Id :=
  intern (.scalar s)
    (match s with
      | .void => return (.typeVoid, [])
      | .bool => return (.typeBool, [])
      | .int width signed => return (.typeInt, [.literal width, flag signed])
      | .float width => do
          if width = 64 then capability .float64
          return (.typeFloat, [.literal width]))
    complete

/-- The id of an image type. -/
def imageId (shape : ImageShape) : Build Id :=
  intern (.image shape)
    (do
      let sampledType ← scalarId shape.sampledType
      return (.typeImage,
        [.id sampledType, .dim shape.dim, .literal shape.depth, flag shape.arrayed,
          flag shape.multisampled, .literal shape.sampled, .imageFormat shape.format]))
    complete

mutual

/-- The id of a type. -/
def typeId : DataType → Build Id
  | .scalar s => scalarId s
  | .vector s width =>
      intern (.vector s width)
        (do
          let _ ← ofExcept (DataType.vector? s width)
          if s = .void then reject (.typeMismatch .typeVector "scalar component" s.text)
          let component ← scalarId s
          return (.typeVector, [.id component, .literal width]))
        complete
  | .runtimeArray element =>
      intern (.runtimeArray element)
        (do
          let elementId ← typeId element
          return (.typeRuntimeArray, [.id elementId]))
        (fun id => do
          let stride ← ofArithmetic element.size
          decorate id .arrayStride [.literal stride])
  | .record members =>
      intern (.record members)
        (do
          let ids ← typeIds members
          return (.typeStruct, ids.map .id))
        complete
  | .pointer storage pointee =>
      intern (.pointer storage pointee)
        (do
          let pointeeId ← typeId pointee
          return (.typePointer, [.storageClass storage, .id pointeeId]))
        complete
  | .image shape => imageId shape
  | .sampler => intern .sampler (return (.typeSampler, [])) complete
  | .sampledImage inner =>
      intern (.sampledImage inner)
        (match inner with
          | .image shape => do
              let image ← imageId shape
              return (.typeSampledImage, [.id image])
          | other => reject (.typeMismatch .typeSampledImage "image" other.text))
        complete
  | .function result parameters =>
      intern (.function result parameters)
        (do
          let resultId ← typeId result
          let ids ← typeIds parameters
          return (.typeFunction, .id resultId :: ids.map .id))
        complete

/-- The ids of types, from the left. -/
def typeIds : List DataType → Build (List Id)
  | [] => return []
  | t :: ts => do
      let id ← typeId t
      let ids ← typeIds ts
      return id :: ids

end

/-- The ids of a function type, of its result and of its parameters. -/
def signature (result : DataType) (parameters : List DataType) : Build Signature := do
  let type ← typeId (.function result parameters)
  let resultId ← typeId result
  let ids ← typeIds parameters
  return ⟨type, resultId, ids⟩

end Build

end FrameShader
