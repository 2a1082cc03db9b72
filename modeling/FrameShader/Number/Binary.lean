/-
Binary floating-point numbers, as bits.

A format is given by the number of its stored significand bits and of its exponent bits.  Every
finite number of a format is a natural number times a power of two, up to a sign; rounding takes
such a product to the nearest number of the format, a tie to the even one, and to infinity beyond
the largest.  All of it is exact arithmetic on natural numbers and integers.

Main definitions:

* `FrameShader.BinaryFormat` — a format; `FrameShader.BinaryFormat.single` and
  `FrameShader.BinaryFormat.double` are the two in use;
* `FrameShader.Datum` — what bits stand for: a finite number, an infinity, or no number;
* `FrameShader.BinaryFormat.decode`, `FrameShader.BinaryFormat.round` — from bits and to bits;
* `FrameShader.Float32Bits`, `FrameShader.Float64Bits` — the bits of the two formats;
* `FrameShader.Float64Bits.toSingle`, `FrameShader.Float32Bits.toDouble` — between the two.
-/

set_option relaxedAutoImplicit false
set_option autoImplicit false

namespace FrameShader

/-! ### Formats -/

/-- The layout of a binary format: a sign bit, exponent bits, significand bits. -/
structure BinaryFormat where
  /-- The stored bits of the significand. -/
  precision : Nat
  /-- The bits of the exponent. -/
  exponentBits : Nat
  deriving DecidableEq, Repr

/-- The format of 32 bits. -/
def BinaryFormat.single : BinaryFormat := ⟨23, 8⟩

/-- The format of 64 bits. -/
def BinaryFormat.double : BinaryFormat := ⟨52, 11⟩

/-- What the bits of a format stand for. -/
inductive Datum where
  /-- The number `significand * 2 ^ exponent`, negated if `negative`. -/
  | finite (negative : Bool) (significand : Nat) (exponent : Int)
  /-- Infinity, negative if `negative`. -/
  | infinite (negative : Bool)
  /-- Not a number; `payload` is its stored significand. -/
  | notNumber (negative : Bool) (payload : Nat)
  deriving DecidableEq, Repr

/-- `n / 2 ^ k` rounded to the nearest natural number, a tie to the even one. -/
def roundShift (n k : Nat) : Nat :=
  let quotient := n >>> k
  let twiceRest := 2 * (n % (1 <<< k))
  if twiceRest < 1 <<< k then quotient
  else if twiceRest = 1 <<< k then quotient + quotient % 2
  else quotient + 1

@[simp] theorem roundShift_zero (n : Nat) : roundShift n 0 = n := by
  simp [roundShift, Nat.mod_one]

namespace BinaryFormat

/-- The largest exponent field, which marks infinities and what is not a number. -/
def topField (f : BinaryFormat) : Nat := (1 <<< f.exponentBits) - 1

/-- The exponent of the last significand bit of the smallest numbers. -/
def minExponent (f : BinaryFormat) : Int := 2 - (1 <<< (f.exponentBits - 1) : Nat) - f.precision

/-- The bits of a sign and a magnitude. -/
def withSign (f : BinaryFormat) (negative : Bool) (magnitude : Nat) : Nat :=
  if negative then (1 <<< (f.exponentBits + f.precision)) + magnitude else magnitude

/-- The bits of infinity, without the sign. -/
def infinityBits (f : BinaryFormat) : Nat := f.topField <<< f.precision

/-- What these bits stand for. -/
def decode (f : BinaryFormat) (bits : Nat) : Datum :=
  let significand := bits % (1 <<< f.precision)
  let field := (bits >>> f.precision) % (1 <<< f.exponentBits)
  let negative := (bits >>> (f.precision + f.exponentBits)) % 2 == 1
  if field = f.topField then
    if significand = 0 then .infinite negative else .notNumber negative significand
  else if field = 0 then .finite negative significand f.minExponent
  else .finite negative ((1 <<< f.precision) + significand) (f.minExponent + (field - 1 : Nat))

/-- The bits, without the sign, of the number nearest to `significand * 2 ^ exponent`: the last
bit of the result weighs as much as the precision or the smallest exponent demands, and a carry
out of the significand moves on into the exponent. -/
def roundMagnitude (f : BinaryFormat) (significand : Nat) (exponent : Int) : Nat :=
  if significand = 0 then 0
  else
    let last := max (exponent + significand.log2 - f.precision) f.minExponent
    let kept :=
      if exponent < last then roundShift significand (last - exponent).toNat
      else significand <<< (exponent - last).toNat
    min (((last - f.minExponent).toNat <<< f.precision) + kept) f.infinityBits

/-- The bits of the number nearest to what `d` stands for.  What is not a number keeps its sign
and the leading bits of its payload, `shift` bits of it being dropped, and is marked quiet. -/
def round (f : BinaryFormat) (shift : Int) : Datum → Nat
  | .finite negative significand exponent =>
      f.withSign negative (f.roundMagnitude significand exponent)
  | .infinite negative => f.withSign negative f.infinityBits
  | .notNumber negative payload =>
      let kept := if 0 ≤ shift then payload >>> shift.toNat else payload <<< (-shift).toNat
      f.withSign negative (f.infinityBits + (kept ||| 1 <<< (f.precision - 1)))

end BinaryFormat

/-! ### The two formats in use -/

/-- A number of 32 bits. -/
structure Float32Bits where
  bits : UInt32
  deriving DecidableEq, Repr

/-- A number of 64 bits. -/
structure Float64Bits where
  bits : UInt64
  deriving DecidableEq, Repr

/-- What the bits stand for. -/
def Float32Bits.datum (x : Float32Bits) : Datum := BinaryFormat.single.decode x.bits.toNat

/-- What the bits stand for. -/
def Float64Bits.datum (x : Float64Bits) : Datum := BinaryFormat.double.decode x.bits.toNat

/-- The nearest number of 32 bits. -/
def Float64Bits.toSingle (x : Float64Bits) : Float32Bits :=
  ⟨UInt32.ofNat (BinaryFormat.single.round 29 x.datum)⟩

/-- The same number in 64 bits. -/
def Float32Bits.toDouble (x : Float32Bits) : Float64Bits :=
  ⟨UInt64.ofNat (BinaryFormat.double.round (-29) x.datum)⟩

/-- The number of 64 bits nearest to `numerator / 2 ^ places`. -/
def Float64Bits.ofDyadic (numerator : Int) (places : Nat) : Float64Bits :=
  ⟨UInt64.ofNat (BinaryFormat.double.round 0
    (.finite (decide (numerator < 0)) numerator.natAbs (-(places : Int))))⟩

/-- The number of 64 bits nearest to an integer. -/
def Float64Bits.ofInt (n : Int) : Float64Bits := .ofDyadic n 0

end FrameShader
