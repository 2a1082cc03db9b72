/-
Kernels: shaders that load camera frames.

Each invocation of a kernel reads one coordinate, samples the frame there, reconstructing the colour
of a Bayer frame, and writes the colour at the same index of the network buffer.

Main definitions:

* `FrameShader.Kernel` — a generated kernel; two kernels are equal if their words are;
* `FrameShader.Build.loadingModule`, `FrameShader.Build.loadingKernel` — the module of a kernel,
  written into a draft, and its words;
* `FrameShader.Kernel.generate` — the kernel of a format.
-/

import FrameShader.Draft.Finish
import FrameShader.Kernel.Demosaic
import FrameShader.Kernel.Format
import FrameShader.Kernel.Interface
import FrameShader.Spirv.Listing

set_option relaxedAutoImplicit false
set_option autoImplicit false

namespace FrameShader

/-- A kernel, ready for a pipeline. -/
structure Kernel where
  /-- The entry point by which a pipeline calls the kernel. -/
  entryPoint : String
  format : SensorFormat
  precision : Precision
  /-- The words of the module. -/
  words : List Word
  slots : List Slot
  deriving Repr

/-- Kernels are compared by their words alone. -/
instance : BEq Kernel := ⟨fun a b => a.words == b.words⟩

/-- The bytes of the module, as a pipeline expects them. -/
def Kernel.bytes (k : Kernel) : List UInt8 := bytesOfWords k.words

/-- The listing of the module. -/
def Kernel.text (k : Kernel) : Except ListingError String := listingOfWords k.words

/-! ### Generation -/

namespace Build

/-- The colour of the frame at a coordinate: reconstructed by `demosaic` if the frame is a mosaic,
else the texel as it is. -/
def frameColour (p : Precision) (demosaic : Option (Id × Nat × Nat))
    (image sampler coordinate : Value) : Build Value :=
  match demosaic with
  | some (function, column, row) => do
      let firstRed ← Demosaic.wholeVector p.scalar [column, row]
      callFunction function [image, sampler, coordinate, firstRed]
  | none => sampleImage image sampler coordinate

/-- The body of the entry point. -/
def loadPixel (p : Precision) (demosaic : Option (Id × Nat × Nat)) (r : ResourceInterface) :
    Build Unit := do
  let zero ← constUInt 0
  let index ← accessChain r.globalId [zero]
  let index ← load index
  name index.id "index"
  let coordinate ← accessChain r.coordinates [zero, index]
  let coordinate ← load coordinate
  let image ← load r.image
  let sampler ← load r.sampler
  let colour ← frameColour p demosaic image sampler coordinate
  let output ← accessChain r.network [zero, index]
  store output colour

/-- Writes the kernel of a format into a draft and gives the module. -/
def loadingModule (format : SensorFormat) (options : KernelOptions) : Build ShaderModule := do
  let p := options.precision
  capability .shader
  source .unknown 0
  let r ← ResourceInterface.declare p
  let demosaic ←
    match format.firstRed with
    | some place => (fun function => some (function, place)) <$> Demosaic.define p
    | none => pure none
  let entry ← beginEntryPoint format.entryPoint [r.globalId]
  localSize entry.id options.localSize.x options.localSize.y options.localSize.z
  loadPixel p demosaic r
  returnFunction none
  endFunction
  finish

/-- Writes the kernel of a format into a draft and gives the words of the module. -/
def loadingKernel (format : SensorFormat) (options : KernelOptions) : Build (List Word) := do
  let m ← loadingModule format options
  return m.words

end Build

namespace Kernel

/-- The draft that a kernel is written into. -/
def draft (options : KernelOptions) : Draft := .empty { debugSymbols := options.debugSymbols }

/-- A kernel on one line, for the log. -/
def summary (k : Kernel) : String :=
  "Generated " ++ k.entryPoint ++ " (" ++ k.precision.name ++ ") in "
    ++ toString k.words.length ++ " words"

/-- The kernel of a format, and what is to be logged. -/
def generate (format : SensorFormat) (options : KernelOptions) :
    Except Failure Kernel × List LogRecord :=
  match (Build.loadingKernel format options).runOn (draft options) with
  | (.error cause, d) => (.error cause, d.log)
  | (.ok words, d) =>
      let k : Kernel :=
        { entryPoint := format.entryPoint
          format := format
          precision := options.precision
          words := words
          slots := Slot.layout options.precision }
      (.ok k, d.log ++ [⟨.debug, k.summary⟩])

/-- The kernels of all formats; the first failure ends the list. -/
def generateAll (options : KernelOptions) : Except Failure (List Kernel) :=
  SensorFormat.all.mapM fun format => (generate format options).1

end Kernel

end FrameShader
