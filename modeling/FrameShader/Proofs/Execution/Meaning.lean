/-
Meanings: what the ids of a module stand for while it runs.

Numbers are rational and exact: nothing is rounded, and a literal is the number that its bits stand
for.  Scalars and vectors are both lists of components, their lanes.  An operation on meanings that
do not fit it has no answer.

Main definitions:

* `FrameShader.Literal.rational?` — the number that the bits of a literal stand for;
* `FrameShader.Meaning` — what an id stands for;
* `FrameShader.Meaning.concat?`, `FrameShader.Meaning.pick?`, `FrameShader.Meaning.shuffle?`,
  `FrameShader.Meaning.choose?` — operations on lanes of any kind;
* `FrameShader.combine?`, `FrameShader.flooredMod` — arithmetic;
* `FrameShader.Host`, `FrameShader.Write` — what surrounds an invocation, and what it leaves behind.
-/

import FrameShader.Draft.Operation
import Mathlib.Algebra.Order.Floor.Ring
import Mathlib.Data.Rat.Floor

set_option relaxedAutoImplicit false
set_option autoImplicit false

namespace FrameShader

/-! ### Literals -/

/-- The number that bits stand for, unless they stand for an infinity or for no number. -/
def Datum.rational? : Datum → Option ℚ
  | .finite negative significand exponent =>
      some ((if negative then -1 else 1) * significand * 2 ^ exponent)
  | .infinite _ => none
  | .notNumber _ _ => none

/-- The number that the bits of a literal stand for. -/
def Literal.rational? : Literal → Option ℚ
  | .bits32 value => (Float32Bits.mk value).datum.rational?
  | .bits64 value => (Float64Bits.mk value).datum.rational?

/-! ### Meanings -/

/-- What an id stands for while a module runs. -/
inductive Meaning where
  | numbers (lanes : List ℚ)
  | truths (lanes : List Bool)
  | integers (lanes : List Word)
  /-- A place inside a variable, reached by these indices. -/
  | pointer (target : Id) (path : List Word)
  | image
  | sampler
  | sampledImage
  deriving DecidableEq

namespace Meaning

/-- The integer that a scalar is. -/
def integer? : Meaning → Option Word
  | .integers [value] => some value
  | _ => none

/-- The lanes of two meanings of one kind, one after the other. -/
def append? : Meaning → Meaning → Option Meaning
  | .numbers xs, .numbers ys => some (.numbers (xs ++ ys))
  | .truths xs, .truths ys => some (.truths (xs ++ ys))
  | .integers xs, .integers ys => some (.integers (xs ++ ys))
  | _, _ => none

/-- The lanes of several meanings of one kind, one after the other. -/
def concat? : List Meaning → Option Meaning
  | [] => none
  | x :: xs => xs.foldlM append? x

/-- One lane. -/
def pick? : Meaning → Word → Option Meaning
  | .numbers lanes, index => lanes[index.toNat]?.map fun lane => .numbers [lane]
  | .truths lanes, index => lanes[index.toNat]?.map fun lane => .truths [lane]
  | .integers lanes, index => lanes[index.toNat]?.map fun lane => .integers [lane]
  | _, _ => none

/-- Lanes picked from two meanings, laid end to end. -/
def shuffle? (x y : Meaning) (indices : List Word) : Option Meaning := do
  let all ← x.append? y
  let picked ← indices.mapM all.pick?
  concat? picked

/-- Lane by lane, that of `xs` where the condition holds and that of `ys` where it does not. -/
def chooseLanes {α : Type} : List Bool → List α → List α → List α
  | c :: cs, x :: xs, y :: ys => (if c then x else y) :: chooseLanes cs xs ys
  | _, _, _ => []

/-- Chooses lane by lane between two meanings of one kind and length. -/
def choose? (cs : List Bool) : Meaning → Meaning → Option Meaning
  | .numbers xs, .numbers ys =>
      if cs.length = xs.length ∧ xs.length = ys.length then some (.numbers (chooseLanes cs xs ys))
      else none
  | .truths xs, .truths ys =>
      if cs.length = xs.length ∧ xs.length = ys.length then some (.truths (chooseLanes cs xs ys))
      else none
  | .integers xs, .integers ys =>
      if cs.length = xs.length ∧ xs.length = ys.length then
        some (.integers (chooseLanes cs xs ys))
      else none
  | _, _ => none

end Meaning

/-! ### Arithmetic -/

/-- An operation on two vectors of one length, lane by lane. -/
def combine? {α : Type} (f : ℚ → ℚ → α) (xs ys : List ℚ) : Option (List α) :=
  if xs.length = ys.length then some (List.zipWith f xs ys) else none

/-- The floored remainder: it has the sign of `b`. -/
def flooredMod (a b : ℚ) : ℚ := a - b * ⌊a / b⌋

/-! ### Surroundings -/

/-- What surrounds one invocation. -/
structure Host where
  /-- The four channels of the frame at a coordinate, as the sampler reads them. -/
  texel : ℚ → ℚ → Fin 4 → ℚ
  /-- The coordinates to sample. -/
  coordinates : Word → ℚ × ℚ
  /-- The index of the invocation along three axes. -/
  invocation : Fin 3 → Word

/-- What an invocation writes to the network buffer: a colour, and where. -/
structure Write where
  index : Word
  lanes : List ℚ
  deriving DecidableEq

end FrameShader
