/-
Reconstruction of colours from a Bayer mosaic, as functions of a module.

The reconstruction is linear: each missing channel is a weighted sum over a neighbourhood of five
by five texels.  Texels with equal weights are added up first, which leaves six sums:

* `C`, the texel itself; `D`, its four diagonal neighbours;
* `A` and `B`, the texels two and one away in the column; `E` and `F`, the same in the row.

Weighting the sums gives a vector `pattern` with every channel that could be missing: the green of
a red or blue texel, the colour found on the diagonals, the colour found in the row, and the colour
found in the column.  The parity of the coordinate picks which of them are red, green and blue.

Main definitions:

* `FrameShader.Demosaic.weightsA` to `FrameShader.Demosaic.weightsF` — the weights of the sums;
* `FrameShader.Demosaic.fetch` — the function that reads one texel of the mosaic;
* `FrameShader.Demosaic.bayerToRgb` — the function that reconstructs a colour;
* `FrameShader.Demosaic.define` — defines both in a draft.
-/

import FrameShader.Draft.Arithmetic
import FrameShader.Draft.Composite
import FrameShader.Draft.Function
import FrameShader.Draft.Sampling
import FrameShader.Kernel.Options

set_option relaxedAutoImplicit false
set_option autoImplicit false

namespace FrameShader

namespace Demosaic

open Build

/-! ### Numbers -/

/-- How far the sampled texels are from the centre, on each axis. -/
def offsets : List Int := [-2, -1, 1, 2]

/-- The weights of `A` in the four channels of the pattern, in sixteenths. -/
def weightsA : List Int := [-2, -3, 1, -2]

/-- The weights of `B`, in sixteenths. -/
def weightsB : List Int := [4, 0, 0, 8]

/-- The weights of `C`, in sixteenths. -/
def weightsC : List Int := [8, 12, 10, 10]

/-- The weights of `D`, in sixteenths. -/
def weightsD : List Int := [0, 4, -2, -2]

/-- The weights of `E`, in sixteenths. -/
def weightsE : List Int := [-2, -3, -2, 1]

/-- The weights of `F`, in sixteenths. -/
def weightsF : List Int := [4, 0, 8, 0]

/-- A vector of whole numbers. -/
def wholeVector (s : Scalar) (values : List Int) : Build Value :=
  constVector s (values.map Float64Bits.ofInt)

/-- A vector of sixteenths. -/
def sixteenths (s : Scalar) (values : List Int) : Build Value :=
  constVector s (values.map fun n => Float64Bits.ofDyadic n 4)

/-! ### Reading the mosaic -/

/-- The type of the frames. -/
def frameType (s : Scalar) : DataType := .image (.flat s)

/-- Defines the function that reads the first channel of the texel at a coordinate. -/
def fetch (p : Precision) : Build Id := do
  let s := p.scalar
  let f ← beginFunction "fetch" (.scalar s) [frameType s, .sampler, .vector s 2]
    (FunctionControl.pure.union .inline)
  let texel ← sampleImage (f.parameter 0) (f.parameter 1) (f.parameter 2)
  let value ← compositeExtract texel 0
  returnFunction (some value)
  endFunction
  return f.id

/-- What is needed to read texels inside the reconstruction. -/
structure Mosaic where
  scalar : Scalar
  /-- The function that reads one texel. -/
  fetch : Id
  image : Value
  sampler : Value

namespace Mosaic

/-- The texel in column `x` and row `y`. -/
def tap (m : Mosaic) (x y : Value) : Build Value := do
  let coordinate ← compositeConstruct (.vector m.scalar 2) [x, y]
  callFunction m.fetch [m.image, m.sampler, coordinate]

/-- The texels at these columns and rows, one after the other. -/
def tapEach (m : Mosaic) : List (Value × Value) → Build (List Value)
  | [] => return []
  | (x, y) :: rest => do
      let texel ← m.tap x y
      let texels ← m.tapEach rest
      return texel :: texels

/-- Four texels as a vector. -/
def taps (m : Mosaic) (at4 : List (Value × Value)) : Build Value := do
  let texels ← m.tapEach at4
  compositeConstruct (.vector m.scalar 4) texels

end Mosaic

/-! ### Steps of the reconstruction -/

/-- The weights of the channels `chosen`, times a sum, spread out by `layout`. -/
def weigh (s : Scalar) (weights : List Int) (chosen : List Word) (sum : Value)
    (layout : List Word) : Build Value := do
  let all ← sixteenths s weights
  let some ← swizzle all chosen
  let weighted ← vectorTimesScalar some sum
  swizzle weighted layout

/-- The shuffle of a vector and an update that replaces `lanes` by the components of the update and
keeps the others. -/
def replacing (lanes : List Word) : List Word :=
  let all : List Word := [0, 1, 2, 3]
  all.map fun lane =>
    match lanes.idxOf? lane with
    | some i => 4 + UInt32.ofNat i
    | none => lane

/-- Adds a value to some lanes of a vector and keeps the others. -/
def accumulate (target : Value) (lanes : List Word) (value : Value) : Build Value := do
  let current ← swizzle target lanes
  let sum ← fAdd current value
  vectorShuffle target sum (replacing lanes)

/-- An opaque colour. -/
def opaqueColour (s : Scalar) (red green blue : Value) : Build Value := do
  let one ← constFloat s (.ofInt 1)
  compositeConstruct (.vector s 4) [red, green, blue, one]

/-- Whether a number is zero, once for each channel of a colour. -/
def isZero (s : Scalar) (value : Value) : Build Value := do
  let zero ← constFloat s (.ofInt 0)
  let condition ← fOrdEqual value zero
  splat condition 4

/-- The coordinates of the sampled texels on one axis. -/
structure Axis where
  centre : Value
  twoBefore : Value
  before : Value
  after : Value
  twoAfter : Value

/-- The coordinates on both axes, given as two vectors without the centres. -/
def axes (x y columns rows : Value) : Build (Axis × Axis) := do
  let x0 ← compositeExtract columns 0
  let y0 ← compositeExtract rows 0
  let x1 ← compositeExtract columns 1
  let y1 ← compositeExtract rows 1
  let x2 ← compositeExtract columns 2
  let y2 ← compositeExtract rows 2
  let x3 ← compositeExtract columns 3
  let y3 ← compositeExtract rows 3
  return (⟨x, x0, x1, x2, x3⟩, ⟨y, y0, y1, y2, y3⟩)

/-- The six sums around a coordinate. -/
structure Sums where
  a : Value
  b : Value
  c : Value
  d : Value
  e : Value
  f : Value

/-- Reads the neighbourhood of the texel `c` and adds up what has equal weights. -/
def sums (m : Mosaic) (x y : Axis) (c : Value) : Build Sums := do
  let diagonals ← m.taps
    [(x.before, y.before), (x.before, y.after), (x.after, y.before), (x.after, y.after)]
  let ones ← wholeVector m.scalar [1, 1, 1, 1]
  let d ← dot diagonals ones
  Build.name d.id "D"
  let before ← m.taps
    [(x.centre, y.twoBefore), (x.centre, y.before), (x.twoBefore, y.centre),
     (x.before, y.centre)]
  let after ← m.taps
    [(x.centre, y.twoAfter), (x.centre, y.after), (x.twoAfter, y.centre), (x.after, y.centre)]
  let total ← fAdd before after
  let a ← compositeExtract total 0
  let b ← compositeExtract total 1
  let e ← compositeExtract total 2
  let f ← compositeExtract total 3
  Build.name a.id "A"
  Build.name b.id "B"
  Build.name e.id "E"
  Build.name f.id "F"
  return ⟨a, b, c, d, e, f⟩

/-- Weights the sums into the four channels that could be missing. -/
def pattern (s : Scalar) (t : Sums) : Build Value := do
  let channels ← weigh s weightsC [0, 1, 2] t.c [0, 1, 2, 2]
  let diagonal ← weigh s weightsD [1, 2] t.d [0, 1, 1]
  let channels ← accumulate channels [1, 2, 3] diagonal
  let column ← weigh s weightsA [0, 1, 2] t.a [0, 1, 2, 0]
  let row ← weigh s weightsE [0, 1, 3] t.e [0, 1, 0, 2]
  let both ← fAdd column row
  let channels ← fAdd channels both
  let column ← weigh s weightsB [0, 3] t.b [0, 1]
  let channels ← accumulate channels [0, 3] column
  let row ← weigh s weightsF [0, 2] t.f [0, 1]
  accumulate channels [0, 2] row

/-- Picks the colour of a texel by the parity of its column and row, counted from a red texel. -/
def colourByParity (s : Scalar) (c channels parity : Value) : Build Value := do
  let green ← compositeExtract channels 0
  let diagonal ← compositeExtract channels 1
  let row ← compositeExtract channels 2
  let column ← compositeExtract channels 3
  let atRed ← opaqueColour s c green diagonal
  let atGreenInRedRow ← opaqueColour s row c column
  let atGreenInBlueRow ← opaqueColour s column c row
  let atBlue ← opaqueColour s diagonal green c
  let parityX ← compositeExtract parity 0
  let parityY ← compositeExtract parity 1
  let evenColumn ← isZero s parityX
  let evenRow ← isZero s parityY
  let redRow ← select evenColumn atRed atGreenInRedRow
  let blueRow ← select evenColumn atGreenInBlueRow atBlue
  select evenRow redRow blueRow

/-! ### The reconstruction -/

/-- The colour of the mosaic at a coordinate, the body of the reconstruction. -/
def colourAt (m : Mosaic) (coordinate firstRed : Value) : Build Value := do
  let s := m.scalar
  Build.name coordinate.id "coord"
  Build.name firstRed.id "first_red"
  let x ← compositeExtract coordinate 0
  let y ← compositeExtract coordinate 1
  let away ← wholeVector s offsets
  let wideX ← splat x 4
  let columns ← fAdd wideX away
  let wideY ← splat y 4
  let rows ← fAdd wideY away
  let (columnAxis, rowAxis) ← axes x y columns rows
  let place ← fAdd coordinate firstRed
  let place ← floor place
  let two ← wholeVector s [2, 2]
  let parity ← fMod place two
  Build.name parity.id "alternate"
  let c ← m.tap x y
  Build.name c.id "C"
  let t ← sums m columnAxis rowAxis c
  let channels ← pattern s t
  Build.name channels.id "pattern"
  colourByParity s c channels parity

/-- Defines the function that reconstructs the colour at a coordinate, given where the red texel
lies in the pattern of the mosaic. -/
def bayerToRgb (p : Precision) (fetch : Id) : Build Id := do
  let s := p.scalar
  let f ← beginFunction "bayer_to_rgb" (.vector s 4)
    [frameType s, .sampler, .vector s 2, .vector s 2] .pure
  let m : Mosaic := ⟨s, fetch, f.parameter 0, f.parameter 1⟩
  let colour ← colourAt m (f.parameter 2) (f.parameter 3)
  returnFunction (some colour)
  endFunction
  return f.id

/-- Defines the reconstruction and what it needs; the answer is the function to call. -/
def define (p : Precision) : Build Id := do
  let fetchId ← fetch p
  bayerToRgb p fetchId

end Demosaic

end FrameShader
