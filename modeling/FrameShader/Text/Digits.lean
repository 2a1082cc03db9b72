/-
Digits: numbers as text and back.

Main definitions:

* `FrameShader.digitValue?` — the value of a digit of any base up to sixteen;
* `FrameShader.isDigit` — whether a character is a digit of a base;
* `FrameShader.numberOfDigits` — the number that digits stand for;
* `FrameShader.hexDigits` — a number in lower case hexadecimal digits.
-/

set_option relaxedAutoImplicit false
set_option autoImplicit false

namespace FrameShader

/-- The value of a digit, where letters of both cases continue after nine. -/
def digitValue? (c : Char) : Option Nat :=
  if '0' ≤ c ∧ c ≤ '9' then some (c.toNat - '0'.toNat)
  else if 'a' ≤ c ∧ c ≤ 'f' then some (c.toNat - 'a'.toNat + 10)
  else if 'A' ≤ c ∧ c ≤ 'F' then some (c.toNat - 'A'.toNat + 10)
  else none

/-- Whether a character is a digit of a base. -/
def isDigit (base : Nat) (c : Char) : Bool :=
  match digitValue? c with
  | some n => n < base
  | none => false

/-- The number that digits stand for, the most significant first. -/
def numberOfDigits (base : Nat) (ds : List Char) : Nat :=
  ds.foldl (fun n d => base * n + (digitValue? d).getD 0) 0

/-- A number in lower case hexadecimal digits, without leading zeros. -/
def hexDigits (n : Nat) : List Char := Nat.toDigits 16 n

end FrameShader
