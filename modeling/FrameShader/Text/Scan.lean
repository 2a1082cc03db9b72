/-
Scanners: reading a text from its head.

A scanner either reads something and leaves the rest of the text, or finds the text malformed.

Main definitions:

* `FrameShader.Scan` — scanners;
* `FrameShader.Scan.next`, `FrameShader.Scan.accept`, `FrameShader.Scan.expect`,
  `FrameShader.Scan.takeWhile` — characters;
* `FrameShader.Scan.collect` — repeats a scanner until it is done;
* `FrameShader.Scan.all?` — what a scanner reads from a text, of which nothing may be left.
-/

set_option relaxedAutoImplicit false
set_option autoImplicit false

namespace FrameShader

/-- Reads something from the head of a text. -/
abbrev Scan := StateT (List Char) Option

namespace Scan

variable {α : Type}

/-- Finds the text malformed. -/
def malformed : Scan α := fun _ => none

/-- The next character, which stays in the text. -/
def peek : Scan (Option Char) := fun cs => some (cs.head?, cs)

/-- The next character. -/
def next : Scan Char
  | [] => none
  | c :: cs => some (c, cs)

/-- Whether nothing is left. -/
def atEnd : Scan Bool := fun cs => some (cs.isEmpty, cs)

/-- Reads a character if it comes next, and says whether it did. -/
def accept (c : Char) : Scan Bool
  | [] => some (false, [])
  | d :: cs => if d = c then some (true, cs) else some (false, d :: cs)

/-- Reads these characters if they come next, and says whether they did. -/
def acceptAll (expected : List Char) : Scan Bool := fun cs =>
  if expected.isPrefixOf cs then some (true, cs.drop expected.length) else some (false, cs)

/-- Reads these characters. -/
def expect (expected : List Char) : Scan Unit := do
  if ← acceptAll expected then return () else malformed

/-- Reads a character that satisfies `p`. -/
def satisfy (p : Char → Bool) : Scan Char := do
  let c ← next
  if p c then return c else malformed

/-- Reads characters as long as they satisfy `p`. -/
def takeWhile (p : Char → Bool) : Scan (List Char) := fun cs =>
  some (cs.takeWhile p, cs.dropWhile p)

/-- Reads characters that satisfy `p`, at least one. -/
def takeWhile1 (p : Char → Bool) : Scan (List Char) := do
  let cs ← takeWhile p
  if cs.isEmpty then malformed else return cs

/-- Reads exactly `n` characters that satisfy `p`. -/
def takeExactly (p : Char → Bool) : Nat → Scan (List Char)
  | 0 => return []
  | n + 1 => do
      let c ← satisfy p
      let cs ← takeExactly p n
      return c :: cs

/-- Passes over characters that satisfy `p`. -/
def skipWhile (p : Char → Bool) : Scan Unit := fun cs => some ((), cs.dropWhile p)

/-- What `step` reads, again and again until it has no more to give.  A step that gives something
has to read something. -/
def collect (step : Scan (Option α)) (cs : List Char) : Option (List α × List Char) :=
  match step cs with
  | none => none
  | some (none, rest) => some ([], rest)
  | some (some a, rest) =>
      if rest.length < cs.length then
        (collect step rest).map fun found => (a :: found.1, found.2)
      else none
termination_by cs.length

/-- What a scanner reads from a text, of which nothing may be left. -/
def all? (scan : Scan α) (cs : List Char) : Option α :=
  match scan cs with
  | some (a, []) => some a
  | _ => none

end Scan

end FrameShader
