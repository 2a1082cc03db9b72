/-
Writing texts for TOML documents.

A text is written in the plainest form that can hold it: on one line without escapes if possible,
then on several lines without escapes, and with escapes at last.  A tab counts as plain, although
between double quotes it is written as an escape.

To choose the form, the quotes in a row are counted in a byte.  Where that does not do, nothing is
written.

Main definitions:

* `FrameShader.Toml.needsEscape` — controls that no form without escapes can hold;
* `FrameShader.Toml.longestRun` — how often a quote stands in a row;
* `FrameShader.Toml.writeText` — a text in its written form;
* `FrameShader.Toml.countable` — whether the form of a text can be chosen.
-/

import FrameShader.Text.Digits

set_option relaxedAutoImplicit false
set_option autoImplicit false

namespace FrameShader

namespace Toml

/-- Whether a character is a control other than the tab and the end of a line. -/
def needsEscape (c : Char) : Bool :=
  c != '\n' && c != '\t' && (c.toNat < 0x20 || c.toNat == 0x7F)

/-- How often a character stands in a row at most, where `run` of them have just been passed. -/
def longestRunFrom (c : Char) (run : Nat) : List Char → Nat
  | [] => run
  | d :: rest =>
      if d = c then longestRunFrom c (run + 1) rest else max run (longestRunFrom c 0 rest)

/-- How often a character stands in a row at most. -/
def longestRun (c : Char) (cs : List Char) : Nat := longestRunFrom c 0 cs

/-- Whether no quote stands in a row more often than a byte can count. -/
def countable (cs : List Char) : Bool := longestRun '"' cs < 256 && longestRun '\'' cs < 256

/-- A digit of base sixteen in upper case. -/
def upperHexDigit (n : Nat) : Char := (Nat.digitChar (n % 16)).toUpper

/-- A backslash, a tab or another control, escaped; other characters stand for themselves. -/
def escapeControl (c : Char) : List Char :=
  if c = '\\' then ['\\', '\\']
  else if c = '\x08' then ['\\', 'b']
  else if c = '\t' then ['\\', 't']
  else if c = '\x0c' then ['\\', 'f']
  else if c = '\r' then ['\\', 'r']
  else if needsEscape c then
    ['\\', 'u', '0', '0', upperHexDigit (c.toNat / 16), upperHexDigit c.toNat]
  else [c]

/-- The escaped form of a character on a single line. -/
def escapeShort (c : Char) : List Char :=
  if c = '"' then ['\\', '"'] else if c = '\n' then ['\\', 'n'] else escapeControl c

/-- The escaped form of a text with several lines, where `run` quotes have just been written: every
third quote in a row is escaped. -/
def escapeLong (run : Nat) : List Char → List Char
  | [] => []
  | c :: rest =>
      if c = '"' then
        if run = 2 then '\\' :: '"' :: escapeLong 0 rest else '"' :: escapeLong (run + 1) rest
      else if c = '\n' then '\n' :: escapeLong 0 rest
      else escapeControl c ++ escapeLong 0 rest

/-- A text between quotes. -/
def between (quote : Char) (cs : List Char) : List Char := quote :: (cs ++ [quote])

/-- A text between three quotes on each side.  If it has several lines it starts on a line of its
own. -/
def betweenLong (quote : Char) (hasLines : Bool) (cs : List Char) : List Char :=
  [quote, quote, quote] ++ (if hasLines then ['\n'] else []) ++ cs ++ [quote, quote, quote]

/-- A text in its written form. -/
def writeText (cs : List Char) : List Char :=
  let escapes := cs.any needsEscape
  let backslash := cs.contains '\\'
  let hasLines := cs.contains '\n'
  if !escapes && !backslash && !cs.contains '"' && !hasLines then
    between '"' (cs.flatMap escapeShort)
  else if !escapes && !cs.contains '\'' && !hasLines then between '\'' cs
  else if !escapes && !backslash && longestRun '"' cs ≤ 2 then
    betweenLong '"' hasLines (escapeLong 0 cs)
  else if !escapes && longestRun '\'' cs ≤ 2 then betweenLong '\'' hasLines cs
  else if hasLines then betweenLong '"' true (escapeLong 0 cs)
  else between '"' (cs.flatMap escapeShort)

end Toml

end FrameShader
