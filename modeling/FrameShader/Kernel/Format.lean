/-
The formats of raw camera frames.

A Bayer frame has one channel at each texel, in a repeating pattern of two by two texels; the name
of the format spells the pattern from the top left texel, row by row.

Main definitions:

* `FrameShader.SensorFormat` — the formats;
* `FrameShader.SensorFormat.entryPoint` — the entry point that loads frames of a format;
* `FrameShader.SensorFormat.firstRed` — where the red texel of the pattern lies;
* `FrameShader.SensorFormat.ofText` — the format that a text names.
-/

import FrameShader.Text.Quoted

set_option relaxedAutoImplicit false
set_option autoImplicit false

namespace FrameShader

/-- How the texels of a raw frame are laid out. -/
inductive SensorFormat where
  | grbg | rggb | gbrg | bggr
  /-- Four channels at each texel. -/
  | rgba
  deriving DecidableEq, Repr

/-- A text that names no format. -/
structure UnknownFormat where
  text : String
  deriving DecidableEq, Repr

/-- The message about such a text. -/
def UnknownFormat.message (e : UnknownFormat) : String :=
  "Unknown sensor format " ++ quoted e.text

namespace SensorFormat

/-- Every format, the Bayer formats first. -/
def all : List SensorFormat := [.grbg, .rggb, .gbrg, .bggr, .rgba]

/-- The name of a format. -/
def name : SensorFormat → String
  | .grbg => "GRBG"
  | .rggb => "RGGB"
  | .gbrg => "GBRG"
  | .bggr => "BGGR"
  | .rgba => "RGBA"

/-- The entry point that loads frames of this format. -/
def entryPoint (f : SensorFormat) : String := "load_" ++ f.name ++ "_image"

/-- The column and the row of the red texel in the pattern of a Bayer format. -/
def firstRed : SensorFormat → Option (Nat × Nat)
  | .grbg => some (1, 0)
  | .rggb => some (0, 0)
  | .gbrg => some (0, 1)
  | .bggr => some (1, 1)
  | .rgba => none

/-- **The four Bayer formats**, each with its red texel. -/
theorem firstRed_eq_some_iff {f : SensorFormat} {place : Nat × Nat} :
    f.firstRed = some place ↔
      (f, place) ∈ [(grbg, 1, 0), (rggb, 0, 0), (gbrg, 0, 1), (bggr, 1, 1)] := by
  cases f <;> simp [firstRed, eq_comm]

/-- Whether the channels of a frame have to be reconstructed. -/
def isBayer (f : SensorFormat) : Bool := f.firstRed.isSome

/-- Two texts are the same up to the case of their Latin letters without diacritics. -/
def sameLetters (s t : String) : Bool :=
  s.toList.map Char.toLower == t.toList.map Char.toLower

/-- The format with this name, in any case. -/
def ofText (s : String) : Except UnknownFormat SensorFormat :=
  match all.find? fun f => sameLetters f.name s with
  | some f => .ok f
  | none => .error ⟨s⟩

end SensorFormat

end FrameShader
