/-
Quoted text: a text between double quotes, in which everything that could be misread is escaped.

Main definitions:

* `FrameShader.escaped` — how one character is written inside quotes;
* `FrameShader.quoted` — a text in quotes.
-/

import FrameShader.Text.Digits
import FrameShader.Text.Hidden

set_option relaxedAutoImplicit false
set_option autoImplicit false

namespace FrameShader

/-- How a character is written inside quotes: quotes and backslashes take a backslash, the common
controls have a letter, hidden characters are named by their code point, and everything else stands
for itself. -/
def escaped (c : Char) : List Char :=
  if c = '\x00' then ['\\', '0']
  else if c = '\t' then ['\\', 't']
  else if c = '\n' then ['\\', 'n']
  else if c = '\r' then ['\\', 'r']
  else if c = '"' then ['\\', '"']
  else if c = '\\' then ['\\', '\\']
  else if isHidden c then ['\\', 'u', '\x7b'] ++ hexDigits c.toNat ++ ['\x7d']
  else [c]

/-- A text in double quotes. -/
def quoted (s : String) : String :=
  String.ofList ('"' :: (s.toList.flatMap escaped ++ ['"']))

end FrameShader
