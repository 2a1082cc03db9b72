/-
The Malvar-He-Cutler filters: what the reconstruction of a mosaic is to compute.

A filter is a table of weights for five by five texels.  At every texel one channel is there and two
are missing; which filter finds a missing channel depends on where the texel lies in the pattern of
the mosaic, that is, on the parity of its column and row counted from a red texel.

Main definitions:

* `FrameShader.Filters.convolve` — a filter applied to a neighbourhood;
* `FrameShader.Filters.greenAtRedOrBlue`, `FrameShader.Filters.fromDiagonals`,
  `FrameShader.Filters.fromRow`, `FrameShader.Filters.fromColumn` — the four filters;
* `FrameShader.Filters.colour` — the colour of a texel.

Main results:

* `FrameShader.Filters.found_eq` — the filters weight six sums of texels;
* `FrameShader.flooredMod_two` — the floored remainder by two tells the parity of a whole number.
-/

import FrameShader.Proofs.Execution.Meaning
import Mathlib.Tactic.Ring

set_option relaxedAutoImplicit false
set_option autoImplicit false

namespace FrameShader

namespace Filters

/-- The texels of a mosaic around a place: so many columns and so many rows away. -/
abbrev Neighbourhood := ℚ → ℚ → ℚ

/-- Weights in eighths: the rows from two above to two below, and in each row the columns from two
before to two after. -/
abbrev Weights := List (List ℚ)

/-! ### The filters -/

/-- The green of a red or blue texel. -/
def greenAtRedOrBlue : Weights :=
  [[0, 0, -1, 0, 0],
   [0, 0, 2, 0, 0],
   [-1, 2, 4, 2, -1],
   [0, 0, 2, 0, 0],
   [0, 0, -1, 0, 0]]

/-- The colour of the neighbours in the row, at a green texel. -/
def fromRow : Weights :=
  [[0, 0, 1 / 2, 0, 0],
   [0, -1, 0, -1, 0],
   [-1, 4, 5, 4, -1],
   [0, -1, 0, -1, 0],
   [0, 0, 1 / 2, 0, 0]]

/-- The colour of the neighbours in the column, at a green texel. -/
def fromColumn : Weights :=
  [[0, 0, -1, 0, 0],
   [0, -1, 4, -1, 0],
   [1 / 2, 0, 5, 0, 1 / 2],
   [0, -1, 4, -1, 0],
   [0, 0, -1, 0, 0]]

/-- The blue of a red texel and the red of a blue one. -/
def fromDiagonals : Weights :=
  [[0, 0, -3 / 2, 0, 0],
   [0, 2, 0, 2, 0],
   [-3 / 2, 0, 6, 0, -3 / 2],
   [0, 2, 0, 2, 0],
   [0, 0, -3 / 2, 0, 0]]

/-- How far the texels of a neighbourhood are from its centre, on each axis. -/
def steps : List ℚ := [-2, -1, 0, 1, 2]

/-- A filter applied to a neighbourhood. -/
def convolve (weights : Weights) (s : Neighbourhood) : ℚ :=
  (List.zipWith (fun dy row => (List.zipWith (fun dx weight => weight * s dx dy) steps row).sum)
    steps weights).sum / 8

/-! ### Colours -/

/-- The opaque colour of a texel whose column and row are counted from a red texel: its own channel
`c`, and what the filters find. -/
def arrange (c green diagonal row column : ℚ) (i j : ℤ) : List ℚ :=
  match i % 2, j % 2 with
  | 0, 0 => [c, green, diagonal, 1]
  | 1, 0 => [row, c, column, 1]
  | 0, 1 => [column, c, row, 1]
  | _, _ => [diagonal, green, c, 1]

/-- The colour at the centre of a neighbourhood. -/
def colour (s : Neighbourhood) : ℤ → ℤ → List ℚ :=
  arrange (s 0 0) (convolve greenAtRedOrBlue s) (convolve fromDiagonals s) (convolve fromRow s)
    (convolve fromColumn s)

/-! ### Sums of texels -/

/-- The four diagonal neighbours. -/
def diagonals (s : Neighbourhood) : ℚ := s (-1) (-1) + s (-1) 1 + s 1 (-1) + s 1 1

/-- The texels so far away in the column. -/
def inColumn (s : Neighbourhood) (distance : ℚ) : ℚ := s 0 (-distance) + s 0 distance

/-- The texels so far away in the row. -/
def inRow (s : Neighbourhood) (distance : ℚ) : ℚ := s (-distance) 0 + s distance 0

/-- What the filters find, with the weights of the six sums in sixteenths: green, and the colours on
the diagonals, in the row and in the column. -/
def found (a b c d e f : ℚ) : List ℚ :=
  [(-2 * a + 4 * b + 8 * c - 2 * e + 4 * f) / 16,
   (-3 * a + 12 * c + 4 * d - 3 * e) / 16,
   (a + 10 * c - 2 * d - 2 * e + 8 * f) / 16,
   (-2 * a + 8 * b + 10 * c - 2 * d + e) / 16]

/-- **The filters weight six sums of texels.** -/
theorem found_eq (s : Neighbourhood) :
    found (inColumn s 2) (inColumn s 1) (s 0 0) (diagonals s) (inRow s 2) (inRow s 1) =
      [convolve greenAtRedOrBlue s, convolve fromDiagonals s, convolve fromRow s,
        convolve fromColumn s] := by
  simp only [found, inColumn, inRow, diagonals, convolve, greenAtRedOrBlue, fromDiagonals, fromRow,
    fromColumn, steps, List.zipWith_cons_cons, List.zipWith_nil_left, List.sum_cons, List.sum_nil,
    List.cons.injEq, and_true]
  refine ⟨?_, ?_, ?_, ?_⟩ <;> ring

end Filters

/-! ### Parity -/

/-- The floored remainder of a whole number by two is its remainder. -/
theorem flooredMod_two (n : ℤ) : flooredMod n 2 = ((n % 2 : ℤ) : ℚ) := by
  have hfloor : ⌊(n : ℚ) / 2⌋ = n / 2 := by
    have h := Rat.floor_intCast_div_natCast n 2
    rwa [Nat.cast_ofNat, Nat.cast_ofNat] at h
  have hsplit : n = 2 * (n / 2) + n % 2 := (Int.mul_ediv_add_emod n 2).symm
  have hsplit' : (n : ℚ) = 2 * ((n / 2 : ℤ) : ℚ) + ((n % 2 : ℤ) : ℚ) := by exact_mod_cast hsplit
  rw [flooredMod, hfloor, sub_eq_iff_eq_add, add_comm]
  exact hsplit'

end FrameShader
