/-
Vectors: building them from parts, taking components out, and rearranging them.

Main definitions:

* `FrameShader.Build.compositeConstruct`, `FrameShader.Build.splat` — building vectors;
* `FrameShader.Build.compositeExtract` — one component;
* `FrameShader.Build.vectorShuffle`, `FrameShader.Build.swizzle` — rearranging components.
-/

import FrameShader.Draft.Types

set_option relaxedAutoImplicit false
set_option autoImplicit false

namespace FrameShader

/-! ### Checks -/

/-- The first index that is not below `width` is rejected. -/
def indicesBelow (width : Word) (indices : List Word) : Except BuildError Unit :=
  match indices.find? fun index => width ≤ index with
  | some index => .error (.componentOutOfRange index width)
  | none => .ok ()

namespace Draft

/-- How many components the parts have together, each of them a scalar or vector of `s`, added to
`count`.  No part is looked at once the sum is no word. -/
def countComponents (d : Draft) (s : Scalar) (count : Word) :
    List Value → Except BuildError (Except Overflow Word)
  | [] => .ok (.ok count)
  | v :: vs => do
      let t ← d.check .compositeConstruct v
      match t.components? with
      | some n =>
          if t.scalarOf = s then
            match count.add? n with
            | .ok sum => d.countComponents s sum vs
            | .error operation => return .error operation
          else
            throw (.typeMismatch .compositeConstruct (s.text ++ " scalar or vector") t.text)
      | none =>
          throw (.typeMismatch .compositeConstruct (s.text ++ " scalar or vector") t.text)

/-- The parts make up the vector type `t`. -/
def construction (d : Draft) (t : DataType) (parts : List Value) :
    Except BuildError (Except Overflow Unit) :=
  match t with
  | .vector s width => do
      let _ ← DataType.vector? s width
      match ← d.countComponents s 0 parts with
      | .ok count =>
          if count ≠ width then
            throw (.typeMismatch .compositeConstruct (toString width.toNat ++ " components")
              (toString count.toNat))
          return .ok ()
      | .error operation => return .error operation
  | _ => .error (.typeMismatch .compositeConstruct "vector" t.text)

/-- The component and the width of a value that must be a vector. -/
def vectorOperand (d : Draft) (opcode : Opcode) (v : Value) :
    Except BuildError (Scalar × Word) := do
  match ← d.check opcode v with
  | .vector s width => return (s, width)
  | other => throw (.typeMismatch opcode "vector" other.text)

/-- The component of a vector that has a component number `index`. -/
def extraction (d : Draft) (v : Value) (index : Word) : Except BuildError Scalar := do
  let (s, width) ← d.vectorOperand .compositeExtract v
  if width ≤ index then throw (.componentOutOfRange index width)
  return s

/-- The type of the components that `indices` pick from two vectors, laid end to end. -/
def shuffle (d : Draft) (a b : Value) (indices : List Word) : Except BuildError DataType := do
  let t ← d.check .vectorShuffle a
  let u ← d.check .vectorShuffle b
  match t, u with
  | .vector s m, .vector s' n =>
      if s ≠ s' then throw (.typeMismatch .vectorShuffle t.text u.text)
      indicesBelow (m + n) indices
      DataType.vector? s (UInt32.ofNat indices.length)
  | _, _ =>
      throw (.typeMismatch .vectorShuffle "two vectors" (t.text ++ " and " ++ u.text))

end Draft

namespace Build

/-! ### Building vectors -/

/-- A vector made of scalars and smaller vectors. -/
def compositeConstruct (t : DataType) (parts : List Value) : Build Value := do
  ofArithmetic (← inspect (·.construction t parts))
  let type ← typeId t
  emitValue .compositeConstruct type (parts.map fun v => .id v.id)

/-- A vector whose components are all the same scalar. -/
def splat (scalar : Value) (width : Word) : Build Value := do
  let t ← inspect (·.check .compositeConstruct scalar)
  match t with
  | .scalar s =>
      let vector ← ofExcept (DataType.vector? s width)
      compositeConstruct vector (List.replicate width.toNat scalar)
  | other => reject (.typeMismatch .compositeConstruct "scalar" other.text)

/-! ### Taking vectors apart -/

/-- One component of a vector. -/
def compositeExtract (vector : Value) (index : Word) : Build Value := do
  let s ← inspect (·.extraction vector index)
  let type ← typeId (.scalar s)
  emitValue .compositeExtract type [.id vector.id, .literal index]

/-- Components picked from two vectors, laid end to end. -/
def vectorShuffle (a b : Value) (indices : List Word) : Build Value := do
  let t ← inspect (·.shuffle a b indices)
  let type ← typeId t
  emitValue .vectorShuffle type (.id a.id :: .id b.id :: indices.map .literal)

/-- Components picked from one vector.  A single index gives a scalar. -/
def swizzle (vector : Value) (indices : List Word) : Build Value := do
  inspect fun d => do
    let (_, width) ← d.vectorOperand .vectorShuffle vector
    indicesBelow width indices
  match indices with
  | [index] => compositeExtract vector index
  | _ => vectorShuffle vector vector indices

end Build

end FrameShader
