/-
The resources that every kernel shares with its pipeline.

All of them live in one descriptor set at fixed slots, so a pipeline layout serves every format.

Main definitions:

* `FrameShader.Resource`, `FrameShader.Slot` — a resource and the slot it is bound to;
* `FrameShader.Slot.layout` — the slots of a kernel;
* `FrameShader.ResourceInterface` — the variables of a module in those slots;
* `FrameShader.ResourceInterface.declare` — declares them in a draft.
-/

import FrameShader.Draft.Resource
import FrameShader.Kernel.Options

set_option relaxedAutoImplicit false
set_option autoImplicit false

namespace FrameShader

/-! ### Slots -/

/-- What is bound to a slot. -/
inductive Resource where
  | sampler
  /-- The raw frame. -/
  | image
  /-- The coordinates to sample, one pair for each invocation. -/
  | coordinates
  /-- The colours that the invocations write, four channels each. -/
  | network
  deriving DecidableEq, Repr

namespace Resource

/-- The name of a resource. -/
def name : Resource → String
  | .sampler => "Sampler"
  | .image => "Image"
  | .coordinates => "Coordinates"
  | .network => "Network"

/-- Every resource, in the order of the slots. -/
def all : List Resource := [.sampler, .image, .coordinates, .network]

/-- The binding of a resource in the descriptor set. -/
def binding : Resource → Word
  | .sampler => 0
  | .image => 1
  | .coordinates => 2
  | .network => 3

end Resource

/-- A descriptor slot and what is bound to it. -/
structure Slot where
  set : Word
  binding : Word
  resource : Resource
  /-- The distance of the elements of a buffer, in bytes. -/
  arrayStride : Option Word
  deriving DecidableEq, Repr

/-- The descriptor set of every resource. -/
def descriptorSet : Word := 0

/-- The slot of a resource. -/
def Resource.slot (resource : Resource) (p : Precision) : Slot :=
  { set := descriptorSet
    binding := resource.binding
    resource := resource
    arrayStride :=
      match resource with
      | .sampler | .image => none
      | .coordinates => some (2 * (p.width / 8))
      | .network => some (4 * (p.width / 8)) }

/-- The slots of a kernel of this precision. -/
def Slot.layout (p : Precision) : List Slot := Resource.all.map (·.slot p)

/-! ### Variables -/

/-- The module scope variables of a kernel. -/
structure ResourceInterface where
  sampler : Value
  image : Value
  coordinates : Value
  network : Value
  /-- The index of the invocation along three axes. -/
  globalId : Value
  deriving DecidableEq, Repr

namespace ResourceInterface

open Build

/-- Puts a variable into the slot of a resource and names it. -/
def place (v : Value) (resource : Resource) (text : String) : Build Unit := do
  descriptorBinding v descriptorSet resource.binding
  Build.name v.id text

/-- Declares the resources of a kernel in a draft. -/
def declare (p : Precision) : Build ResourceInterface := do
  let sampler ← uniformConstant .sampler
  place sampler .sampler "sampler"
  let image ← uniformConstant (.image (.flat p.scalar))
  place image .image "image"
  let coordinates ← storageBuffer (.vector p.scalar 2) .readOnly
  place coordinates .coordinates "coordinates"
  let network ← storageBuffer (.vector p.scalar 4) .readWrite
  place network .network "network"
  let globalId ← builtInInput .globalInvocationId (.vector .uint32 3)
  Build.name globalId.id "global_id"
  record .trace ("Declared image loading interface (" ++ p.name ++ ")")
  return ⟨sampler, image, coordinates, network, globalId⟩

end ResourceInterface

end FrameShader
