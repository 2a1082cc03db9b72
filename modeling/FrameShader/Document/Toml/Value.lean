/-
Reading the values of TOML documents.

Main definitions:

* `FrameShader.Toml.blanks`, `FrameShader.Toml.newline`, `FrameShader.Toml.comment` — what stands
  between the parts of a document;
* `FrameShader.Toml.text` — a text in one of its four forms;
* `FrameShader.Toml.scalarOf?` — a number, a truth value or a point in time;
* `FrameShader.Toml.key` — a key, dotted or not;
* `FrameShader.Toml.value` — any value up to a depth of nesting.
-/

import FrameShader.Document.Toml.Table
import FrameShader.Text.Digits
import FrameShader.Text.Scan

set_option relaxedAutoImplicit false
set_option autoImplicit false

namespace FrameShader

namespace Toml

open Scan

/-! ### Between the parts -/

/-- Whether a character is a blank inside a line. -/
def isBlank (c : Char) : Bool := c == ' ' || c == '\t'

/-- Passes over blanks. -/
def blanks : Scan Unit := skipWhile isBlank

/-- Reads the end of a line if it comes next, and says whether it did. -/
def newline : Scan Bool := do
  let bare ← accept '\n'
  if bare then return true else acceptAll ['\r', '\n']

/-- Whether a character may stand in a comment: controls but the tab may not. -/
def isPrintable (c : Char) : Bool := c == '\t' || (0x20 ≤ c.toNat && c.toNat != 0x7F)

/-- Reads a comment if it comes next, and says whether it did. -/
def comment : Scan Bool := do
  let started ← accept '#'
  if started then skipWhile isPrintable
  return started

/-- Reads blanks, ends of lines and comments, which may stand between the items of a list. -/
def gap : Scan Unit := do
  let _ ← collect do
    blanks
    let commented ← comment
    let ended ← newline
    if ended then return some ()
    else if commented then malformed
    else return none
  return ()

/-! ### Texts -/

/-- The character with this code point. -/
def codePoint (n : Nat) : Scan Char :=
  if n < 0xD800 ∨ (0xDFFF < n ∧ n < 0x110000) then return Char.ofNat n else malformed

/-- The character of an escape, after its backslash. -/
def escape : Scan Char := do
  match ← next with
  | 'b' => return '\x08'
  | 'f' => return '\x0c'
  | 'n' => return '\n'
  | 'r' => return '\r'
  | 't' => return '\t'
  | '"' => return '"'
  | '\\' => return '\\'
  | 'u' => codePoint (numberOfDigits 16 (← takeExactly (isDigit 16) 4))
  | 'U' => codePoint (numberOfDigits 16 (← takeExactly (isDigit 16) 8))
  | _ => malformed

/-- The next character of a basic text, or nothing at its closing quote. -/
def basicChar : Scan (Option Char) := do
  let c ← next
  if c = '"' then return none
  else if c = '\\' then some <$> escape
  else if isPrintable c then return some c
  else malformed

/-- The next character of a literal text, or nothing at its closing quote. -/
def literalChar : Scan (Option Char) := do
  let c ← next
  if c = '\'' then return none else if isPrintable c then return some c else malformed

/-- The next quotes of a text with several lines, of which the last three close it: there may be one
or two more before them, and one or two inside of the text. -/
def quotes (quote : Char) (run : Nat) : Scan (Option (List Char)) := do
  if run = 3 then
    expect [quote, quote, quote]
    return none
  else if run < 3 then some <$> takeExactly (· == quote) run
  else if run ≤ 5 then some <$> takeExactly (· == quote) (run - 3)
  else malformed

/-- How many times a character comes next. -/
def runOf (c : Char) : Scan Nat := fun cs => some ((cs.takeWhile (· == c)).length, cs)

/-- A character that stands for itself in a text with several lines, or the end of a line. -/
def plainChar : Scan (Option (List Char)) := do
  let ended ← newline
  if ended then return some ['\n']
  else
    let c ← satisfy isPrintable
    return some [c]

/-- Whether a line ends after some blanks. -/
def lineEndsHere : Scan Bool := fun cs =>
  match cs.dropWhile isBlank with
  | '\n' :: _ => some (true, cs)
  | '\r' :: '\n' :: _ => some (true, cs)
  | _ => some (false, cs)

/-- Passes over blanks and ends of lines. -/
def whiteSpace : Scan Unit := do
  let _ ← collect do
    blanks
    let ended ← newline
    return if ended then some () else none
  return ()

/-- The next part of a basic text with several lines, or nothing at its closing quotes. -/
def longBasicPart : Scan (Option (List Char)) := do
  let run ← runOf '"'
  if run ≠ 0 then quotes '"' run
  else
    let escaped ← accept '\\'
    if escaped then
      let ends ← lineEndsHere
      if ends then
        whiteSpace
        return some []
      else
        let c ← escape
        return some [c]
    else plainChar

/-- The next part of a literal text with several lines, or nothing at its closing quotes. -/
def longLiteralPart : Scan (Option (List Char)) := do
  let run ← runOf '\''
  if run ≠ 0 then quotes '\'' run else plainChar

/-- A text with several lines after its opening quotes, where the end of the first line does not
count if it comes at once. -/
def longText (part : Scan (Option (List Char))) : Scan (List Char) := do
  let _ ← newline
  let parts ← collect part
  return parts.flatten

/-- A text, whose form its quotes tell. -/
def text : Scan (List Char) := do
  let longBasic ← acceptAll ['"', '"', '"']
  if longBasic then longText longBasicPart
  else
    let basic ← accept '"'
    if basic then collect basicChar
    else
      let longLiteral ← acceptAll ['\'', '\'', '\'']
      if longLiteral then longText longLiteralPart
      else
        expect ['\'']
        collect literalChar

/-! ### Numbers -/

/-- Digits where an underscore may stand between any two. -/
def groupedDigits (base : Nat) : Scan (List Char) := do
  let first ← satisfy (isDigit base)
  let rest ← collect do
    let grouped ← accept '_'
    if grouped then some <$> satisfy (isDigit base)
    else
      match ← peek with
      | some c => if isDigit base c then some <$> next else return none
      | none => return none
  return first :: rest

/-- Reads a sign if there is one, and says whether it is negative. -/
def sign : Scan Bool := do
  let negative ← accept '-'
  if negative then return true
  else
    let _ ← accept '+'
    return false

/-- A sign and decimal digits, of which the first is a zero only if it is alone. -/
def decimalDigits : Scan (Bool × List Char) := do
  let negative ← sign
  match ← groupedDigits 10 with
  | '0' :: _ :: _ => malformed
  | ds => return (negative, ds)

/-- An integer after the mark of its base. -/
def basedInteger (mark : Char) (base : Nat) : Scan Int := do
  expect ['0', mark]
  let ds ← groupedDigits base
  return (numberOfDigits base ds : Nat)

/-- A decimal integer. -/
def decimalInteger : Scan Int := do
  let (negative, ds) ← decimalDigits
  let n := numberOfDigits 10 ds
  return if negative then -(n : Int) else n

/-- The integer that a token is, if it has at most 64 bits. -/
def integer? (token : List Char) : Option Int := do
  let n ←
    match token with
    | '0' :: 'x' :: _ => (basedInteger 'x' 16).all? token
    | '0' :: 'o' :: _ => (basedInteger 'o' 8).all? token
    | '0' :: 'b' :: _ => (basedInteger 'b' 2).all? token
    | _ => decimalInteger.all? token
  if Int64.minValue.toInt ≤ n ∧ n ≤ Int64.maxValue.toInt then return n else none

/-- A decimal exponent, if there is one. -/
def exponent : Scan (Option Int) := do
  let lower ← accept 'e'
  let scaled ← if lower then pure true else accept 'E'
  if scaled then
    let negative ← sign
    let n := numberOfDigits 10 (← groupedDigits 10)
    return some (if negative then -(n : Int) else n)
  else return none

/-- Digits after a point, if there is one. -/
def fraction : Scan (Option (List Char)) := do
  let pointed ← accept '.'
  if pointed then some <$> groupedDigits 10 else return none

/-- A float as its sign, all of its digits, and the power of ten of the last of them. -/
def decimalFloat : Scan (Bool × Nat × Int) := do
  let (negative, whole) ← decimalDigits
  let places ← fraction
  let scale ← exponent
  match places, scale with
  | none, none => malformed
  | _, _ =>
      let places := places.getD []
      return (negative, numberOfDigits 10 (whole ++ places), scale.getD 0 - places.length)

/-- Whether `n * 10 ^ power` is nearer to infinity than to the greatest number of 64 bits. -/
def isHuge (n : Nat) (power : Int) : Bool :=
  let size := (Nat.toDigits 10 n).length + power
  if n = 0 ∨ size < 300 then false
  else if 310 < size then true
  else
    let limit : Nat := (1 <<< 1024) - (1 <<< 970)
    limit * Nat.pow 10 (-power).toNat ≤ n * Nat.pow 10 power.toNat

/-- Whether a token is a float.  One that is too large is none, unless it is negative. -/
def isFloat (token : List Char) : Bool :=
  match decimalFloat.all? token with
  | some (negative, n, power) => negative || !isHuge n power
  | none =>
      let special : Scan Unit := do
        let _ ← sign
        let infinite ← acceptAll ['i', 'n', 'f']
        if infinite then return () else expect ['n', 'a', 'n']
      (special.all? token).isSome

/-! ### Points in time -/

/-- A number of exactly `width` digits between two bounds. -/
def paddedNumber (width low high : Nat) : Scan Nat := do
  let n := numberOfDigits 10 (← takeExactly (isDigit 10) width)
  if low ≤ n ∧ n ≤ high then return n else malformed

/-- How many days a month has. -/
def daysIn (year month : Nat) : Nat :=
  if month = 2 then
    if year % 4 = 0 ∧ (year % 100 ≠ 0 ∨ year % 400 = 0) then 29 else 28
  else if month = 4 ∨ month = 6 ∨ month = 9 ∨ month = 11 then 30
  else 31

/-- A date. -/
def date : Scan Unit := do
  let year ← paddedNumber 4 0 9999
  expect ['-']
  let month ← paddedNumber 2 1 12
  expect ['-']
  let _ ← paddedNumber 2 1 (daysIn year month)
  return ()

/-- A time of day. -/
def time : Scan Unit := do
  let _ ← paddedNumber 2 0 23
  expect [':']
  let _ ← paddedNumber 2 0 59
  expect [':']
  let _ ← paddedNumber 2 0 60
  let fractional ← accept '.'
  if fractional then
    let _ ← takeWhile1 (isDigit 10)
    return ()
  else return ()

/-- A time of day with an offset, which may be left out. -/
def zonedTime : Scan Unit := do
  time
  match ← peek with
  | some 'Z' | some 'z' =>
      let _ ← next
      return ()
  | some '+' | some '-' =>
      let _ ← next
      let _ ← paddedNumber 2 0 23
      expect [':']
      let _ ← paddedNumber 2 0 59
      return ()
  | _ => return ()

/-- A date with a time of day. -/
def dateTime : Scan Unit := do
  date
  let _ ← satisfy fun c => c == 'T' || c == 't'
  zonedTime

/-- A point in time reads like a table with an entry that no record knows. -/
def moment : Node := .table [("$moment", .other)]

/-- A time of day that follows a date after a single blank, if there is one. -/
def timeAfterDate : Scan Unit := fun cs =>
  match cs with
  | ' ' :: c :: rest => if isDigit 10 c then zonedTime (c :: rest) else some ((), cs)
  | _ => some ((), cs)

/-! ### Scalars -/

/-- Whether a character may stand in a number, a truth value or a point in time. -/
def isTokenChar (c : Char) : Bool :=
  c.isAlphanum || c == '_' || c == '+' || c == '-' || c == '.' || c == ':'

/-- The scalar that a token is. -/
def scalarOf? (token : List Char) : Option Node :=
  if token = ['t', 'r', 'u', 'e'] then some (.bool true)
  else if token = ['f', 'a', 'l', 's', 'e'] then some (.bool false)
  else
    match integer? token with
    | some n => some (.int n)
    | none =>
        if isFloat token then some .other
        else if (dateTime.all? token).isSome || (time.all? token).isSome then some moment
        else none

/-- A number, a truth value or a point in time. -/
def scalar : Scan Node := do
  let token ← takeWhile1 isTokenChar
  if (date.all? token).isSome then
    timeAfterDate
    return moment
  else
    match scalarOf? token with
    | some n => return n
    | none => malformed

/-! ### Keys -/

/-- How many parts a key may have, and how deep values may nest, both less one. -/
def depthLimit : Nat := 79

/-- Whether a character may stand in a key without quotes. -/
def isBareChar (c : Char) : Bool := c.isAlphanum || c == '_' || c == '-'

/-- One part of a key. -/
def keyPart : Scan String := do
  blanks
  let basic ← accept '"'
  let part ←
    if basic then collect basicChar
    else
      let literal ← accept '\''
      if literal then collect literalChar else takeWhile1 isBareChar
  blanks
  return String.ofList part

/-- A key, whose parts are separated by dots. -/
def key : Scan (List String) := do
  let first ← keyPart
  let rest ← collect do
    let dotted ← accept '.'
    if dotted then some <$> keyPart else return none
  if rest.length < depthLimit then return first :: rest else malformed

/-! ### Values -/

/-- The items of a list after its opening bracket. -/
def items (value : Scan Node) : Scan (List Node) := do
  gap
  if ← accept ']' then return []
  else
    let first ← value
    let rest ← collect do
      gap
      if ← accept ']' then return none
      else
        expect [',']
        gap
        if ← accept ']' then return none else some <$> value
    return first :: rest

/-- A key and its value. -/
def assignment (value : Scan Node) : Scan (List String × Node) := do
  let k ← key
  expect ['=']
  blanks
  let v ← value
  return (k, v)

/-- The entries of a table on one line after its opening brace. -/
def pairs (value : Scan Node) : Scan (List (List String × Node)) := do
  blanks
  if ← accept '\x7d' then return []
  else
    let first ← assignment value
    let rest ← collect do
      blanks
      if ← accept '\x7d' then return none
      else
        expect [',']
        some <$> assignment value
    return first :: rest

/-- A table on one line after its opening brace. -/
def inlineTable (value : Scan Node) : Scan Node := do
  match tableOf? (← pairs value) with
  | some n => return n
  | none => malformed

/-- A value, where `list` and `table` read what follows an opening bracket or brace. -/
def valueOf (list table : Scan Node) : Scan Node := do
  match ← peek with
  | some '"' | some '\'' => do
      let cs ← text
      return .text (String.ofList cs)
  | some '[' => do
      let _ ← next
      list
  | some '\x7b' => do
      let _ ← next
      table
  | _ => scalar

/-- A value in which lists and tables nest up to a depth. -/
def value : Nat → Scan Node
  | 0 => valueOf malformed malformed
  | depth + 1 => valueOf (.list <$> items (value depth)) (inlineTable (value depth))

end Toml

end FrameShader
