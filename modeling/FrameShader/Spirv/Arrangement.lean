/-
Arrangements: the instructions of a stream, sorted into the sections of a module.

The sections may come in any order and may be mixed, but functions have to be well formed: each has
its blocks, and each block ends with a return, a branch or another instruction that ends blocks.

Main definitions:

* `FrameShader.Arrangement` — instructions sorted into sections and functions;
* `FrameShader.Arrangement.add?` — one more instruction;
* `FrameShader.Arrangement.ofReading` — what has been read from words, arranged;
* `FrameShader.Arrangement.phrases` — the order of a module.
-/

import FrameShader.Spirv.Reader

set_option relaxedAutoImplicit false
set_option autoImplicit false

namespace FrameShader

/-- A function whose end has not been seen. -/
structure PartialFunction where
  definition : Phrase
  parameters : List Phrase := []
  /-- The instructions of all blocks. -/
  blocks : List Phrase := []
  /-- Whether the last block is still without its end. -/
  blockOpen : Bool := false

/-- Instructions sorted by where they belong. -/
structure Arrangement where
  /-- What stands outside of functions with its section, in the order of the stream. -/
  outside : List (Section × Phrase) := []
  /-- The instructions of all closed functions. -/
  functions : List Phrase := []
  current : Option PartialFunction := none

namespace Arrangement

/-- The arrangement with one more instruction in a section. -/
def addToSection (a : Arrangement) (s : Section) (p : Phrase) : Arrangement :=
  { a with outside := a.outside ++ [(s, p)] }

/-- Whether the open function has an open block. -/
def blockOpen (a : Arrangement) : Bool := a.current.any PartialFunction.blockOpen

/-- The arrangement with one more instruction in the open block of the open function. -/
def addToBlock? (a : Arrangement) (p : Phrase) (closing : Bool) : Option Arrangement :=
  match a.current with
  | none => none
  | some f =>
      if f.blockOpen then
        some { a with current := some { f with blocks := f.blocks ++ [p], blockOpen := !closing } }
      else none

/-- The arrangement with one more instruction, if it may stand there. -/
def add? (a : Arrangement) (p : Phrase) : Option Arrangement :=
  match p.form.place, a.current with
  | .inSection s, _ => some (a.addToSection s p)
  | .inBlock, _ => a.addToBlock? p false
  | .endOfBlock, _ => a.addToBlock? p true
  | .inBlockOrGlobal, none => some (a.addToSection .globals p)
  | .inBlockOrGlobal, some _ => a.addToBlock? p false
  | .anywhere, _ =>
      if a.blockOpen then a.addToBlock? p false else some (a.addToSection .globals p)
  | .startOfFunction, none => some { a with current := some { definition := p } }
  | .startOfFunction, some _ => none
  | .parameterOfFunction, some f =>
      some { a with current := some { f with parameters := f.parameters ++ [p] } }
  | .startOfBlock, some f =>
      if f.blockOpen then none
      else some { a with current := some { f with blocks := f.blocks ++ [p], blockOpen := true } }
  | .endOfFunction, some f =>
      if f.blockOpen then none
      else
        some
          { a with
            functions := a.functions ++ f.definition :: (f.parameters ++ f.blocks ++ [p])
            current := none }
  | .parameterOfFunction, none | .startOfBlock, none | .endOfFunction, none => none

/-- The arrangement of what has been read.  The earliest reason against it counts: an instruction
that may not stand where it stands, then the words that could not be read, then a function without
an end. -/
def ofReading (r : Reading) : Except ReadError Arrangement :=
  match r.phrases.foldlM add? {}, r.failure with
  | none, _ => .error .malformed
  | some _, some cause => .error cause
  | some a, none => if a.current.isSome then .error .malformed else .ok a

/-- The instructions of a section.  There is one memory model, the last. -/
def inSection (a : Arrangement) (s : Section) : List Phrase :=
  let found := (a.outside.filter fun x => x.1 == s).map Prod.snd
  if s = .memoryModel then found.getLast?.toList else found

/-- All instructions in the order of a module. -/
def phrases (a : Arrangement) : List Phrase := Section.all.flatMap a.inSection ++ a.functions

end Arrangement

end FrameShader
