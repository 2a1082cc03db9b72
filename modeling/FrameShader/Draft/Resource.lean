/-
Resources: what a module shares with the pipeline it runs in.

A resource is a module scope variable in a descriptor slot, a set and a binding; each slot is used
once.  A storage buffer is a record with one member, a runtime array, as the pipeline expects it.

Main definitions:

* `FrameShader.Build.descriptorBinding` — puts a variable into a slot;
* `FrameShader.Build.storageBuffer`, `FrameShader.Build.uniformConstant` — buffers and opaque
  resources;
* `FrameShader.Build.builtInInput` — values that the pipeline provides.
-/

import FrameShader.Draft.Memory

set_option relaxedAutoImplicit false
set_option autoImplicit false

namespace FrameShader

/-- The extension that provides storage buffers to early versions of the format. -/
def storageBufferExtension : String := "SPV_KHR_storage_buffer_storage_class"

/-- How a storage buffer is used. -/
inductive Access where
  | readOnly
  | readWrite
  deriving DecidableEq, Repr

/-- The value is a variable that may have a slot, and the slot is free. -/
def Draft.slotFor (d : Draft) (v : Value) (set binding : Word) : Except BuildError Unit := do
  match ← d.check .decorate v with
  | .pointer .uniformConstant _ | .pointer .uniform _ | .pointer .storageBuffer _ =>
      match d.tables.slots.lookup (set, binding) with
      | some existing => throw (.duplicateBinding set binding existing)
      | none => return ()
  | other => throw (.typeMismatch .decorate "resource variable" other.text)

/-- The draft where a variable takes a slot. -/
def Draft.addSlot (d : Draft) (set binding : Word) (id : Id) : Draft :=
  { d with tables := { d.tables with slots := ((set, binding), id) :: d.tables.slots } }

/-- The draft where a variable holds a built-in value. -/
def Draft.addBuiltIn (d : Draft) (builtIn : BuiltIn) (v : Value) : Draft :=
  { d with tables := { d.tables with builtIns := (builtIn, v) :: d.tables.builtIns } }

namespace Build

/-- Puts a resource into a slot.  Each slot takes one variable. -/
def descriptorBinding (v : Value) (set binding : Word) : Build Unit := do
  inspect (·.slotFor v set binding)
  modify (·.addSlot set binding v.id)
  decorate v.id .descriptorSet [.literal set]
  decorate v.id .binding [.literal binding]

/-- A buffer of `element`s whose number is known only when the module runs. -/
def storageBuffer (element : DataType) (access : Access) : Build Value := do
  extension storageBufferExtension
  let block : DataType := .record [.runtimeArray element]
  let blockId ← typeId block
  decorate blockId .block []
  decorateMember blockId 0 .offset [.literal 0]
  let v ← globalVariable .storageBuffer block
  if access = .readOnly then decorate v.id .nonWritable []
  return v

/-- An opaque resource, such as an image or a sampler. -/
def uniformConstant (t : DataType) : Build Value := globalVariable .uniformConstant t

/-- The variable that holds a built-in value; each of them has one. -/
def builtInInput (builtIn : BuiltIn) (t : DataType) : Build Value := do
  match (← get).tables.builtIns.lookup builtIn with
  | some existing =>
      let wanted ← typeId (.pointer .input t)
      if existing.type ≠ wanted then
        let expected ← inspect (·.dataType existing.type)
        let found ← inspect (·.dataType wanted)
        reject (.typeMismatch .variable expected.text found.text)
      return existing
  | none =>
      let v ← globalVariable .input t
      decorate v.id .builtIn [.builtIn builtIn]
      modify (·.addBuiltIn builtIn v)
      return v

end Build

end FrameShader
