/-
Bytes as text, where not all of them have to be UTF-8.

Main definitions:

* `FrameShader.Utf8.Pending` — a character of which some bytes are still to come;
* `FrameShader.Utf8.step` — what one more byte says;
* `FrameShader.lossyText` — bytes as text, with a mark where they are none.
-/

import FrameShader.Word

set_option relaxedAutoImplicit false
set_option autoImplicit false

namespace FrameShader

namespace Utf8

/-- A character of which `missing` bytes are still to come.  The next of them has to lie between
`low` and `high`; `code` is what the bytes so far contribute. -/
structure Pending where
  missing : Nat
  low : UInt8 := 0x80
  high : UInt8 := 0xBF
  code : Nat
  deriving DecidableEq, Repr

/-- What stands where bytes are no text. -/
def mark : Char := '\ufffd'

/-- What the first byte of a character says: it is the character, or more bytes are to come, or it
starts no character. -/
def lead (b : UInt8) : List Char × Option Pending :=
  if b < 0x80 then ([Char.ofNat b.toNat], none)
  else if b < 0xC2 then ([mark], none)
  else if b < 0xE0 then ([], some { missing := 1, code := b.toNat - 0xC0 })
  else if b = 0xE0 then ([], some { missing := 2, low := 0xA0, code := 0 })
  else if b = 0xED then ([], some { missing := 2, high := 0x9F, code := 0xD })
  else if b < 0xF0 then ([], some { missing := 2, code := b.toNat - 0xE0 })
  else if b = 0xF0 then ([], some { missing := 3, low := 0x90, code := 0 })
  else if b < 0xF4 then ([], some { missing := 3, code := b.toNat - 0xF0 })
  else if b = 0xF4 then ([], some { missing := 3, high := 0x8F, code := 4 })
  else ([mark], none)

/-- What one more byte says.  A character that breaks off gives a mark, and the byte at which it
does may start another one. -/
def step (p : Option Pending) (b : UInt8) : List Char × Option Pending :=
  match p with
  | none => lead b
  | some p =>
      if p.low ≤ b ∧ b ≤ p.high then
        let code := p.code * 64 + (b.toNat - 0x80)
        if p.missing = 1 then ([Char.ofNat code], none)
        else ([], some { missing := p.missing - 1, code := code })
      else (mark :: (lead b).1, (lead b).2)

/-- The characters of bytes, one of which may be pending. -/
def lossy : Option Pending → List UInt8 → List Char
  | none, [] => []
  | some _, [] => [mark]
  | p, b :: rest => (step p b).1 ++ lossy (step p b).2 rest

end Utf8

/-- Bytes as text, with a mark for each sequence of bytes that breaks off. -/
def lossyText (bytes : List UInt8) : String := String.ofList (Utf8.lossy none bytes)

end FrameShader
