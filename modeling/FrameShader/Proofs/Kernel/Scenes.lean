/-
Scenes: what the reconstruction gets right without any error.

In an affine scene the brightness rises evenly along rows and columns, and every channel is off it by
a constant.  A mosaic shows one channel of such a scene at each texel, by the letters that name its
format.  The weights of each filter add up to one, and those of a channel that is not looked for
cancel; so the kernel finds every channel exactly, wherever the texel lies in the pattern.

Main definitions:

* `FrameShader.SensorFormat.letterAt` — the channel that a texel shows;
* `FrameShader.Scene`, `FrameShader.Scene.mosaic` — affine scenes, and what a sensor sees of them;
* `FrameShader.Host.Captures` — a frame that shows a scene, sampled at the nearest texel.

Main results:

* `FrameShader.Scene.offset_letterAt` — the names of the formats and the places of their red texels
  tell the same pattern;
* `FrameShader.Scene.Surrounds.colour_eq` — the filters find the colour of an affine scene;
* `FrameShader.Kernel.affine_scenes_reconstructed` — **and so does every kernel of a mosaic format**.
-/

import FrameShader.Proofs.Kernel.Generation
import Mathlib.Tactic.LinearCombination

set_option relaxedAutoImplicit false
set_option autoImplicit false

namespace FrameShader

/-- The letter of the channel at a texel of a mosaic.  The name of the format spells the pattern of
two by two texels row by row, from the top left texel of the frame. -/
def SensorFormat.letterAt (f : SensorFormat) (x y : ℤ) : Char :=
  f.name.toList.getD (2 * (y % 2) + x % 2).toNat ' '

/-- A scene whose brightness is an affine function of the place, with each channel off it by a
constant. -/
structure Scene where
  base : ℚ
  slopeX : ℚ
  slopeY : ℚ
  red : ℚ
  green : ℚ
  blue : ℚ

namespace Scene

variable (s : Scene)

/-- The brightness at a texel. -/
def luminance (x y : ℤ) : ℚ := s.base + s.slopeX * x + s.slopeY * y

/-- How far the channel with this letter is off the brightness. -/
def offset : Char → ℚ
  | 'R' => s.red
  | 'G' => s.green
  | 'B' => s.blue
  | _ => 0

/-- What a sensor of this format sees of the scene. -/
def mosaic (f : SensorFormat) (x y : ℤ) : ℚ := s.luminance x y + s.offset (f.letterAt x y)

/-- The opaque colour of the scene at a texel. -/
def colour (x y : ℤ) : List ℚ :=
  [s.luminance x y + s.red, s.luminance x y + s.green, s.luminance x y + s.blue, 1]

end Scene

/-- The frame is the mosaic of a scene without bounds, and every place shows the texel it lies in. -/
structure Host.Captures (host : Host) (f : SensorFormat) (s : Scene) : Prop where
  texel_eq : ∀ u v, host.texel u v 0 = s.mosaic f ⌊u⌋ ⌊v⌋

namespace Scene

variable (s : Scene)

/-! ### The pattern, counted from a red texel -/

/-- How far the channel of a texel is off the brightness, where column and row are counted from a red
texel. -/
def offsetFromRed (i j : ℤ) : ℚ :=
  match i % 2, j % 2 with
  | 0, 0 => s.red
  | 1, 1 => s.blue
  | _, _ => s.green

/-- **The names of the formats and the places of their red texels tell the same pattern.** -/
theorem offset_letterAt {f : SensorFormat} {column row : Nat}
    (hplace : f.firstRed = some (column, row)) (x y : ℤ) :
    s.offset (f.letterAt x y) = s.offsetFromRed (x + column) (y + row) := by
  unfold offsetFromRed SensorFormat.letterAt
  rcases Int.emod_two_eq_zero_or_one x with hx | hx <;>
    rcases Int.emod_two_eq_zero_or_one y with hy | hy <;>
    cases f <;> cases hplace <;> simp [Int.add_emod, hx, hy, SensorFormat.name, offset]

/-- The pattern repeats after two columns and after two rows. -/
theorem offsetFromRed_congr {i i' j j' : ℤ} (hi : i % 2 = i' % 2) (hj : j % 2 = j' % 2) :
    s.offsetFromRed i j = s.offsetFromRed i' j' := by
  simp only [offsetFromRed, hi, hj]

/-! ### What the filters find -/

variable {s} {n : Filters.Neighbourhood} {x y i j : ℤ}

/-- The neighbourhood of a texel in the mosaic, where `i` and `j` are its column and row counted from
a red texel. -/
def Surrounds (s : Scene) (n : Filters.Neighbourhood) (x y i j : ℤ) : Prop :=
  ∀ dx dy : ℤ, n dx dy =
    s.luminance x y + s.slopeX * dx + s.slopeY * dy + s.offsetFromRed (i + dx) (j + dy)

namespace Surrounds

open Filters

theorem centre (h : s.Surrounds n x y i j) : n 0 0 = s.luminance x y + s.offsetFromRed i j := by
  simpa using h 0 0

/-- Two texels on opposite sides: the slopes cancel. -/
theorem opposite (h : s.Surrounds n x y i j) (dx dy : ℤ) :
    n (-dx) (-dy) + n dx dy =
      2 * (s.luminance x y + s.offsetFromRed (i + dx) (j + dy)) := by
  have hbefore := h (-dx) (-dy)
  rw [s.offsetFromRed_congr (show (i + -dx) % 2 = (i + dx) % 2 by omega)
    (show (j + -dy) % 2 = (j + dy) % 2 by omega)] at hbefore
  push_cast at hbefore
  rw [hbefore, h dx dy]
  ring

theorem inRow_eq (h : s.Surrounds n x y i j) :
    inRow n 1 = 2 * (s.luminance x y + s.offsetFromRed (i + 1) j) ∧
      inRow n 2 = 2 * (s.luminance x y + s.offsetFromRed i j) := by
  have hone := h.opposite 1 0
  have htwo := h.opposite 2 0
  rw [s.offsetFromRed_congr (show (i + 2) % 2 = i % 2 by omega) rfl] at htwo
  exact ⟨by simpa [inRow] using hone, by simpa [inRow] using htwo⟩

theorem inColumn_eq (h : s.Surrounds n x y i j) :
    inColumn n 1 = 2 * (s.luminance x y + s.offsetFromRed i (j + 1)) ∧
      inColumn n 2 = 2 * (s.luminance x y + s.offsetFromRed i j) := by
  have hone := h.opposite 0 1
  have htwo := h.opposite 0 2
  rw [s.offsetFromRed_congr rfl (show (j + 2) % 2 = j % 2 by omega)] at htwo
  exact ⟨by simpa [inColumn] using hone, by simpa [inColumn] using htwo⟩

theorem diagonals_eq (h : s.Surrounds n x y i j) :
    diagonals n = 4 * (s.luminance x y + s.offsetFromRed (i + 1) (j + 1)) := by
  have hdown := h.opposite 1 1
  have hup := h.opposite 1 (-1)
  rw [s.offsetFromRed_congr rfl (show (j + -1) % 2 = (j + 1) % 2 by omega)] at hup
  push_cast at hdown hup
  rw [neg_neg] at hup
  rw [diagonals]
  linear_combination hdown + hup

/-- **The filters find the brightness, and the offsets of the neighbours they look at**: the offset of
the texel itself cancels or is made up for. -/
theorem convolve_eq (h : s.Surrounds n x y i j) :
    let own := s.offsetFromRed i j
    let beside := s.offsetFromRed (i + 1) j
    let below := s.offsetFromRed i (j + 1)
    let diagonal := s.offsetFromRed (i + 1) (j + 1)
    convolve greenAtRedOrBlue n = s.luminance x y + (beside + below) / 2 ∧
      convolve fromDiagonals n = s.luminance x y + diagonal ∧
      convolve fromRow n = s.luminance x y + beside + (own - diagonal) / 2 ∧
      convolve fromColumn n = s.luminance x y + below + (own - diagonal) / 2 := by
  have hfound := found_eq n
  rw [h.inRow_eq.1, h.inRow_eq.2, h.inColumn_eq.1, h.inColumn_eq.2, h.diagonals_eq, h.centre] at hfound
  simp only [found, List.cons.injEq, and_true] at hfound
  obtain ⟨hgreen, hdiagonals, hrow, hcolumn⟩ := hfound
  refine ⟨hgreen.symm.trans ?_, hdiagonals.symm.trans ?_, hrow.symm.trans ?_, hcolumn.symm.trans ?_⟩ <;>
    ring

/-- **The filters find the colour of the scene**, wherever the texel lies in the pattern. -/
theorem colour_eq (h : s.Surrounds n x y i j) : Filters.colour n i j = s.colour x y := by
  obtain ⟨hgreen, hdiagonals, hrow, hcolumn⟩ := h.convolve_eq
  rw [Filters.colour, h.centre, hgreen, hdiagonals, hrow, hcolumn]
  -- In every place of the pattern the offsets that are not looked for are equal, so they cancel.
  rcases Int.emod_two_eq_zero_or_one i with hi | hi <;>
    rcases Int.emod_two_eq_zero_or_one j with hj | hj <;>
    simp [arrange, offsetFromRed, Int.add_emod, hi, hj, Scene.colour]

end Surrounds

end Scene

/-! ### Kernels -/

/-- The centre of a texel lies in the texel, and as many texels further in another one. -/
theorem floor_centre_add (x k : ℤ) : ⌊(x : ℚ) + 1 / 2 + k⌋ = x + k := by
  rw [Int.floor_add_intCast, Int.floor_intCast_add]
  norm_num

namespace Kernel

open Build

/-- Around the centre of a texel the frame shows the neighbourhood of the texel in the mosaic. -/
theorem surrounds_neighbourhood {host : Host} {f : SensorFormat} {s : Scene} {column row : Nat}
    (hplace : f.firstRed = some (column, row)) (h : host.Captures f s) (x y : ℤ) :
    s.Surrounds (Activation.neighbourhood host (x + 1 / 2) (y + 1 / 2)) x y (x + column)
      (y + row) := by
  intro dx dy
  rw [Activation.neighbourhood, h.texel_eq, floor_centre_add, floor_centre_add, Scene.mosaic,
    s.offset_letterAt hplace, Scene.luminance, Scene.luminance, add_right_comm x, add_right_comm y]
  push_cast
  ring

/-- **Affine scenes are reconstructed exactly.**  The kernel of every mosaic format is generated,
whatever precision, group size and debug symbols it is asked for; and for every affine scene whose
mosaic the frame shows, an invocation that reads the centre of a texel writes the colour of the scene
there. -/
theorem affine_scenes_reconstructed (format : SensorFormat) (hbayer : format.isBayer = true)
    (options : KernelOptions) :
    ∃ m d k, (loadingModule format options).runOn (Kernel.draft options) = (.ok m, d) ∧
      (generate format options).1 = .ok k ∧ k.words = m.words ∧
      ∀ (s : Scene) (host : Host), host.Captures format s → ∀ x y : ℤ,
        host.coordinates (host.invocation 0) = ((x : ℚ) + 1 / 2, (y : ℚ) + 1 / 2) →
        m.execute host k.entryPoint = some [⟨host.invocation 0, s.colour x y⟩] := by
  obtain ⟨⟨column, row⟩, hplace⟩ := Option.isSome_iff_exists.1 hbayer
  obtain ⟨m, d, hrun⟩ := exists_loadingModule format options
  refine ⟨m, d, _, hrun, generate_of_loadingModule hrun, rfl, fun s host hcaptures x y hcentre => ?_⟩
  have hcolumn := floor_centre_add x column
  have hrow := floor_centre_add y row
  rw [Int.cast_natCast] at hcolumn hrow
  have hcolour : reconstructedColour host column row = s.colour x y := by
    rw [reconstructedColour, hcentre]
    dsimp only
    rw [hcolumn, hrow]
    exact (surrounds_neighbourhood hplace hcaptures x y).colour_eq
  rw [loadingModule_writes hplace hrun host, hcolour]

/-- A scene that darkens downwards, in three different channels. -/
def rampScene : Scene where
  base := 5
  slopeX := 1 / 3
  slopeY := -2
  red := 10
  green := 20
  blue := 30

/-- A frame that shows the scene, read at a texel above and to the left of the first one. -/
def rampHost : Host where
  texel u v _ := rampScene.mosaic .bggr ⌊u⌋ ⌊v⌋
  coordinates _ := (-3 + 1 / 2, -1 + 1 / 2)
  invocation _ := 7

/-- The kernel finds the three channels of the scene. -/
theorem affine_scenes_reconstructed_ramp :
    SensorFormat.bggr.isBayer = true ∧ rampHost.Captures .bggr rampScene ∧
      ∃ m d k, (loadingModule .bggr {}).runOn (Kernel.draft {}) = (.ok m, d) ∧
        (generate .bggr {}).1 = .ok k ∧ k.words = m.words ∧
        m.execute rampHost k.entryPoint = some [⟨7, [16, 26, 36, 1]⟩] := by
  have hcaptures : rampHost.Captures .bggr rampScene := ⟨fun _ _ => rfl⟩
  obtain ⟨m, d, k, hrun, hgenerate, hwords, hwrites⟩ := affine_scenes_reconstructed .bggr rfl {}
  have hcentre : rampHost.coordinates (rampHost.invocation 0) =
      (((-3 : ℤ) : ℚ) + 1 / 2, ((-1 : ℤ) : ℚ) + 1 / 2) := by
    simp [rampHost]
  refine ⟨rfl, hcaptures, m, d, k, hrun, hgenerate, hwords,
    (hwrites rampScene rampHost hcaptures (-3) (-1) hcentre).trans ?_⟩
  norm_num [Scene.colour, Scene.luminance, rampScene, rampHost]

end Kernel

end FrameShader
