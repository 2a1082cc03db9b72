/-
Memory: variables, pointers into composites, loads and stores.

Main definitions:

* `FrameShader.Build.globalVariable` — module scope variables;
* `FrameShader.Draft.stepInto`, `FrameShader.Draft.walk` — the part of a type that indices reach;
* `FrameShader.Build.accessChain`, `FrameShader.Build.load`, `FrameShader.Build.store` — pointers,
  reading and writing.
-/

import FrameShader.Draft.Types

set_option relaxedAutoImplicit false
set_option autoImplicit false

namespace FrameShader

/-! ### Checks -/

namespace Draft

/-- Where a pointer points to, and to what. -/
def pointerOperand (d : Draft) (opcode : Opcode) (v : Value) :
    Except BuildError (StorageClass × DataType) := do
  match ← d.check opcode v with
  | .pointer storage pointee => return (storage, pointee)
  | other => throw (.typeMismatch opcode "pointer" other.text)

/-- The member of a record that the constant `index` selects, its whole literal counting.  The
number of members is a word. -/
def selectedMember (d : Draft) (members : List DataType) (index : Id) :
    Except BuildError DataType :=
  match d.literal? index with
  | none =>
      .error (.typeMismatch .accessChain "constant struct member index" (idText index))
  | some literal =>
      let number := literal.toUInt64.toNat
      let width := UInt32.ofNat members.length
      if UInt32.size ≤ number then .error (.componentOutOfRange 0xFFFFFFFF width)
      else if h : number < width.toNat then
        .ok (members.get ⟨number, Nat.lt_of_lt_of_le h (Word.toNat_ofNat_le _)⟩)
      else .error (.componentOutOfRange (UInt32.ofNat number) width)

/-- The part of `t` that one index reaches. -/
def stepInto (d : Draft) (t : DataType) (index : Value) : Except BuildError DataType := do
  match ← d.check .accessChain index with
  | .scalar (.int _ _) =>
      match t with
      | .record members => d.selectedMember members index.id
      | .runtimeArray element => return element
      | .vector s _ => return .scalar s
      | other => throw (.typeMismatch .accessChain "composite" other.text)
  | other => throw (.typeMismatch .accessChain "integer index" other.text)

/-- The part of `t` that the indices reach, one level each. -/
def walk (d : Draft) (t : DataType) : List Value → Except BuildError DataType
  | [] => .ok t
  | index :: indices => do
      let part ← d.stepInto t index
      d.walk part indices

/-- The type of the pointer that the indices reach from `base`. -/
def access (d : Draft) (base : Value) (indices : List Value) : Except BuildError DataType := do
  let (storage, pointee) ← d.pointerOperand .accessChain base
  let part ← d.walk pointee indices
  return .pointer storage part

/-- The value has the type that the pointer points to. -/
def storing (d : Draft) (pointer value : Value) : Except BuildError Unit := do
  let (_, pointee) ← d.pointerOperand .store pointer
  let found ← d.check .store value
  if found ≠ pointee then throw (.typeMismatch .store pointee.text found.text)

end Draft

namespace Build

/-- A variable of the module; the answer is a pointer to it. -/
def globalVariable (storage : StorageClass) (t : DataType) : Build Value := do
  if storage = .function then
    reject (.typeMismatch .variable "module scope storage class" storage.name)
  let type ← typeId (.pointer storage t)
  defineGlobal .variable type [.storageClass storage]

/-- A pointer into what `base` points to.  Members of records are selected by constants. -/
def accessChain (base : Value) (indices : List Value) : Build Value := do
  let t ← inspect (·.access base indices)
  let type ← typeId t
  emitValue .accessChain type (.id base.id :: indices.map fun v => .id v.id)

/-- What a pointer points to. -/
def load (pointer : Value) : Build Value := do
  let (_, pointee) ← inspect (·.pointerOperand .load pointer)
  let type ← typeId pointee
  emitValue .load type [.id pointer.id]

/-- Writes a value to where a pointer points. -/
def store (pointer value : Value) : Build Unit := do
  inspect (·.storing pointer value)
  emitVoid .store [.id pointer.id, .id value.id]

end Build

end FrameShader
