/-
The shortest decimal text of a binary number.

Every number of a binary format stands for an interval of reals, those that round to it.  The text
of a number has the fewest digits with which a decimal lies in that interval, and of the decimals
with so few digits it is the one nearest to the number.  Texts are positional: there is never an
exponent, and an integer has no point.

Main definitions:

* `FrameShader.Decimal` — a natural number times a power of ten;
* `FrameShader.RoundingInterval` — a positive number and the reals that round to it;
* `FrameShader.RoundingInterval.onGrid?` — its nearest multiple of a power of ten, if one of them
  rounds to it;
* `FrameShader.RoundingInterval.shortest` — the decimal on the coarsest such grid;
* `FrameShader.Float32Bits.text`, `FrameShader.Float64Bits.text` — the text of a number.
-/

import FrameShader.Number.Binary

set_option relaxedAutoImplicit false
set_option autoImplicit false

namespace FrameShader

/-! ### Decimals -/

/-- The number `digits * 10 ^ exponent`. -/
structure Decimal where
  digits : Nat
  exponent : Int
  deriving DecidableEq, Repr

/-- A decimal in positional notation. -/
def Decimal.text (d : Decimal) : String :=
  let ds := Nat.toDigits 10 d.digits
  if 0 ≤ d.exponent then String.ofList (ds ++ List.replicate d.exponent.toNat '0')
  else
    let places := (-d.exponent).toNat
    let padded := List.replicate (places + 1 - ds.length) '0' ++ ds
    String.ofList
      (padded.take (padded.length - places) ++ '.' :: padded.drop (padded.length - places))

/-! ### Intervals -/

/-- A positive number `value * 2 ^ exponent` with the reals between `low * 2 ^ exponent` and
`high * 2 ^ exponent`, which round to it.  The ends belong to them if `closed`. -/
structure RoundingInterval where
  low : Nat
  value : Nat
  high : Nat
  exponent : Int
  closed : Bool
  deriving DecidableEq, Repr

namespace RoundingInterval

/-- The reals that round to `significand * 2 ^ exponent`.  They reach half way to the neighbours,
and the lower neighbour of a power of two is half as far away as the upper one. -/
def ofFinite (f : BinaryFormat) (significand : Nat) (exponent : Int) : RoundingInterval :=
  { low := 4 * significand - (if significand = 1 <<< f.precision then 1 else 2)
    value := 4 * significand
    high := 4 * significand + 2
    exponent := exponent - 2
    closed := significand % 2 == 0 }

/-- The multiple of `10 ^ power` that is nearest to the number, a tie going up, among those of its
two neighbours on that grid that round to the number. -/
def onGrid? (r : RoundingInterval) (power : Int) : Option Decimal :=
  let scale := Nat.pow 10 (-power).toNat <<< r.exponent.toNat
  let step := Nat.pow 10 power.toNat <<< (-r.exponent).toNat
  let below := r.value * scale / step
  let above := below + 1
  let roundsTo (n : Nat) : Bool :=
    if r.closed then r.low * scale ≤ n * step && n * step ≤ r.high * scale
    else r.low * scale < n * step && n * step < r.high * scale
  let nearer := if 2 * (r.value * scale - below * step) < step then below else above
  if roundsTo below && roundsTo above then some ⟨nearer, power⟩
  else if roundsTo below then some ⟨below, power⟩
  else if roundsTo above then some ⟨above, power⟩
  else none

/-- A power of ten above the number: `30103 / 100000` is a little more than the decimal logarithm
of two. -/
def topPower (r : RoundingInterval) : Int := (r.exponent + r.value.log2 + 1) * 30103 / 100000 + 1

/-- How many grids below the top one are looked at, enough for any number of 64 bits. -/
def gridCount : Nat := 24

/-- The decimal of fewest digits that rounds to the number. -/
def shortest (r : RoundingInterval) : Decimal :=
  ((List.range gridCount).findSome? fun (k : Nat) => r.onGrid? (r.topPower - k)).getD ⟨0, 0⟩

end RoundingInterval

/-! ### Texts -/

/-- A sign in front of a text. -/
def signedText (negative : Bool) (text : String) : String := if negative then "-" ++ text else text

/-- The text of a number of this format. -/
def Datum.text (f : BinaryFormat) : Datum → String
  | .finite negative significand exponent =>
      signedText negative
        (if significand = 0 then "0"
         else (RoundingInterval.ofFinite f significand exponent).shortest.text)
  | .infinite negative => signedText negative "inf"
  | .notNumber _ _ => "NaN"

/-- The text of a number of 32 bits. -/
def Float32Bits.text (x : Float32Bits) : String := x.datum.text .single

/-- The text of a number of 64 bits. -/
def Float64Bits.text (x : Float64Bits) : String := x.datum.text .double

end FrameShader
