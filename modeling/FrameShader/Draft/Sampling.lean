/-
Sampling: reading images through samplers.

Main definitions:

* `FrameShader.Build.sampledImage` — an image together with a sampler;
* `FrameShader.Build.imageSampleExplicitLod` — a texel at a given level of detail;
* `FrameShader.Build.sampleImage` — a texel of the base level.
-/

import FrameShader.Draft.Constant

set_option relaxedAutoImplicit false
set_option autoImplicit false

namespace FrameShader

/-! ### Checks -/

namespace Draft

/-- The type of an image that is read through a sampler, which the second operand must be. -/
def combination (d : Draft) (image sampler : Value) : Except BuildError DataType := do
  let t ← d.check .sampledImage image
  let u ← d.check .sampledImage sampler
  let mismatch : BuildError :=
    .typeMismatch .sampledImage "sampled image and sampler" (t.text ++ " and " ++ u.text)
  match t, u with
  | .image shape, .sampler => if shape.sampled ≠ 2 then return t else throw mismatch
  | _, _ => throw mismatch

/-- The component of the texels of a sampled image, provided that the coordinate and the level of
detail suit it. -/
def sampling (d : Draft) (image coordinate lod : Value) : Except BuildError Scalar := do
  let opcode : Opcode := .imageSampleExplicitLod
  match ← d.check opcode image with
  | .sampledImage (.image shape) =>
      let t ← d.floatOperand opcode coordinate
      if t.components? ≠ some shape.coordinateWidth then
        throw (.typeMismatch opcode
          (toString shape.coordinateWidth.toNat ++ " coordinate components") t.text)
      match ← d.floatOperand opcode lod with
      | .scalar (.float _) => return shape.sampledType
      | other => throw (.typeMismatch opcode "float scalar" other.text)
  | .sampledImage inner => throw (.typeMismatch opcode "image" inner.text)
  | other => throw (.typeMismatch opcode "sampled image" other.text)

end Draft

namespace Build

/-- An image together with the sampler it is read through. -/
def sampledImage (image sampler : Value) : Build Value := do
  let t ← inspect (·.combination image sampler)
  let type ← typeId (.sampledImage t)
  emitValue .sampledImage type [.id image.id, .id sampler.id]

/-- The texel at a coordinate and a level of detail, always of four components. -/
def imageSampleExplicitLod (image coordinate lod : Value) : Build Value := do
  let s ← inspect (·.sampling image coordinate lod)
  let t ← ofExcept (DataType.vector? s 4)
  let type ← typeId t
  emitValue .imageSampleExplicitLod type
    [.id image.id, .id coordinate.id, .imageOperands .lod, .id lod.id]

/-- The texel of the base level at a coordinate. -/
def sampleImage (image sampler coordinate : Value) : Build Value := do
  let t ← inspect (·.floatOperand .imageSampleExplicitLod coordinate)
  let sampled ← sampledImage image sampler
  let lod ← constFloat t.scalarOf (.ofInt 0)
  imageSampleExplicitLod sampled coordinate lod

end Build

end FrameShader
