/-
Reading JSON documents.

Every text is read by the full grammar.  What no record can use is read as well and told apart from
the rest: numbers with a fraction or an exponent, the negative zero, and texts with a surrogate
that has no partner, together with the tables they name something in.

Main definitions:

* `FrameShader.Json.text` — a text, given its opening quote;
* `FrameShader.Json.number` — a number;
* `FrameShader.Json.value` — any value up to a depth of nesting;
* `FrameShader.Json.read?` — the document that a text is.
-/

import FrameShader.Document.Node
import FrameShader.Text.Digits
import FrameShader.Text.Scan

set_option relaxedAutoImplicit false
set_option autoImplicit false

namespace FrameShader

namespace Json

open Scan

/-! ### Blanks -/

/-- Whether a character may stand between the parts of a document. -/
def isBlank (c : Char) : Bool := c == ' ' || c == '\t' || c == '\n' || c == '\r'

/-- Passes over blanks. -/
def blanks : Scan Unit := skipWhile isBlank

/-! ### Texts -/

/-- The code unit of an escape, given the character after the backslash. -/
def escapedUnit (c : Char) : Scan Nat :=
  match c with
  | '"' => return 0x22
  | '\\' => return 0x5C
  | '/' => return 0x2F
  | 'b' => return 0x08
  | 'f' => return 0x0C
  | 'n' => return 0x0A
  | 'r' => return 0x0D
  | 't' => return 0x09
  | 'u' => numberOfDigits 16 <$> takeExactly (isDigit 16) 4
  | _ => malformed

/-- The next code unit of a text, or nothing at its closing quote. -/
def nextUnit : Scan (Option Nat) := do
  let c ← next
  if c = '"' then return none
  else if c = '\\' then some <$> (escapedUnit (← next))
  else if c.toNat < 0x20 then malformed
  else return some c.toNat

/-- The text of code units, where two surrogates stand for one character. -/
def joinUnits? : List Nat → Option (List Char)
  | [] => some []
  | high :: low :: rest =>
      if 0xD800 ≤ high ∧ high < 0xDC00 then
        if 0xDC00 ≤ low ∧ low < 0xE000 then
          (joinUnits? rest).map
            (Char.ofNat (0x10000 + (high - 0xD800) * 0x400 + (low - 0xDC00)) :: ·)
        else none
      else if 0xDC00 ≤ high ∧ high < 0xE000 then none
      else (joinUnits? (low :: rest)).map (Char.ofNat high :: ·)
  | [unit] => if 0xD800 ≤ unit ∧ unit < 0xE000 then none else some [Char.ofNat unit]

/-- The rest of a text after its opening quote; no answer is a text with a lone surrogate. -/
def text : Scan (Option String) := do
  let units ← collect nextUnit
  return (joinUnits? units).map String.ofList

/-! ### Numbers -/

/-- An integer without a sign: a zero, or digits that do not start with one. -/
def naturalDigits : Scan (List Char) := do
  let ds ← takeWhile1 (isDigit 10)
  match ds with
  | '0' :: _ :: _ => malformed
  | _ => return ds

/-- A fraction, if there is one. -/
def fraction : Scan Bool := do
  if ← accept '.' then
    let _ ← takeWhile1 (isDigit 10)
    return true
  else return false

/-- An exponent, if there is one. -/
def exponent : Scan Bool := do
  let lower ← accept 'e'
  let scaled ← if lower then pure true else accept 'E'
  if scaled then
    let positive ← accept '+'
    let _ ← if positive then pure true else accept '-'
    let _ ← takeWhile1 (isDigit 10)
  return scaled

/-- A number. -/
def number : Scan Node := do
  let negative ← accept '-'
  let ds ← naturalDigits
  let fractional ← fraction
  let scaled ← exponent
  let n := numberOfDigits 10 ds
  if fractional || scaled || (negative && n == 0) then return .other
  else return .int (if negative then -(n : Int) else n)

/-! ### Values -/

/-- The items of a list after its opening bracket. -/
def items (value : Scan Node) : Scan (List Node) := do
  blanks
  if ← accept ']' then return []
  else
    let first ← value
    let rest ← collect do
      blanks
      if ← accept ']' then return none
      else
        expect [',']
        some <$> value
    return first :: rest

/-- An entry of a table. -/
def entry (value : Scan Node) : Scan (Option String × Node) := do
  blanks
  expect ['"']
  let name ← text
  blanks
  expect [':']
  let v ← value
  return (name, v)

/-- The entries of a table after its opening brace. -/
def entries (value : Scan Node) : Scan (List (Option String × Node)) := do
  blanks
  if ← accept '\x7d' then return []
  else
    let first ← entry value
    let rest ← collect do
      blanks
      if ← accept '\x7d' then return none
      else
        expect [',']
        some <$> entry value
    return first :: rest

/-- A table, unless one of its names is no text. -/
def tableOf (es : List (Option String × Node)) : Node :=
  match es.mapM fun e => e.1.map (·, e.2) with
  | some named => .table named
  | none => .other

/-- A value that starts with this character, which stays in the text for numbers. -/
def valueFrom (value : Scan Node) (c : Char) : Scan Node :=
  match c with
  | '\x7b' => do
      let _ ← next
      tableOf <$> entries value
  | '[' => do
      let _ ← next
      .list <$> items value
  | '"' => do
      let _ ← next
      match ← text with
      | some s => return .text s
      | none => return .other
  | 't' => do
      expect ['t', 'r', 'u', 'e']
      return .bool true
  | 'f' => do
      expect ['f', 'a', 'l', 's', 'e']
      return .bool false
  | 'n' => do
      expect ['n', 'u', 'l', 'l']
      return .null
  | _ => number

/-- A value in which lists and tables nest up to a depth. -/
def value : Nat → Scan Node
  | 0 => malformed
  | depth + 1 => do
      blanks
      match ← peek with
      | some c => valueFrom (value depth) c
      | none => malformed

/-- A document: a value with blanks around it. -/
def document (depth : Nat) : Scan Node := do
  let v ← value depth
  blanks
  return v

/-- The document that a text is. -/
def read? (s : String) : Option Node :=
  let cs := s.toList
  (document (cs.length + 1)).all? cs

end Json

end FrameShader
