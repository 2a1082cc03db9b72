/-
Reading TOML documents.

A document is a sequence of lines: headers, assignments, and lines that say nothing.  The lines are
read first, each on its own, and then assembled into one table.

Main definitions:

* `FrameShader.Toml.line` — one line;
* `FrameShader.Toml.lines` — the statements of a document;
* `FrameShader.Toml.read?` — the table that a text defines.
-/

import FrameShader.Document.Toml.Value

set_option relaxedAutoImplicit false
set_option autoImplicit false

namespace FrameShader

namespace Toml

open Scan

/-! ### Lines -/

/-- The end of a line, or of the document, after blanks and a comment. -/
def lineEnd : Scan Unit := do
  blanks
  let _ ← comment
  let ended ← newline
  if ended then return ()
  else
    let done ← atEnd
    if done then return () else malformed

/-- A header. -/
def header : Scan Statement := do
  let ofList ← acceptAll ['[', '[']
  if ofList then
    let path ← key
    expect [']', ']']
    return .listHeader path
  else
    expect ['[']
    let path ← key
    expect [']']
    return .header path

/-- A line, which may say nothing; no answer at the end of the document. -/
def line : Scan (Option (Option Statement)) := do
  blanks
  let done ← atEnd
  if done then return none
  else
    match ← peek with
    | some '#' | some '\n' | some '\r' => do
        lineEnd
        return some none
    | some '[' => do
        let s ← header
        lineEnd
        return some (some s)
    | _ => do
        let (k, v) ← assignment (value depthLimit)
        lineEnd
        return some (some (.assignment k v))

/-- The statements of a document. -/
def lines : Scan (List Statement) := do
  let found ← collect line
  return found.filterMap id

/-! ### Documents -/

/-- The mark that may stand before a document and says how it is encoded. -/
def byteOrderMark : Char := '\ufeff'

/-- A document without the mark. -/
def withoutMark : List Char → List Char
  | [] => []
  | c :: cs => if c = byteOrderMark then cs else c :: cs

/-- The table that a text defines. -/
def read? (s : String) : Option Node := do
  let statements ← lines.all? (withoutMark s.toList)
  assemble? statements

end Toml

end FrameShader
