/-
Reading phrases of the grammar from words.

A phrase is an instruction with its arguments, each of them as a listing shows it.  Every word of an
instruction has to be accounted for: an instruction with too few or too many words is refused, and
so are numbers and bits that the grammar does not name.  The width of a number is that of a type; a
type that has not come yet is taken to be one word wide.

An instruction may stand among the operands of another.  Then every operand that it may have is
taken to be there once, and one whose width depends on what stands around it cannot be read.

An instruction may promise more words than the stream has.  It is refused like others, except if a
text is read in it: that its end lies outside of the stream is told apart.

Main definitions:

* `FrameShader.Argument`, `FrameShader.Phrase` — what instructions are read as;
* `FrameShader.ReadError` — why words are no instruction;
* `FrameShader.NumberTypes` — the number types and the values of such types seen so far;
* `FrameShader.InstructionForm.read` — one instruction from its words;
* `FrameShader.Reading`, `FrameShader.readStream` — the instructions of a stream of words, as far as
  they can be read.
-/

import FrameShader.Spirv.DataType
import FrameShader.Spirv.Grammar.Enumerants
import FrameShader.Spirv.Grammar.Instructions
import FrameShader.Spirv.Opcode

set_option relaxedAutoImplicit false
set_option autoImplicit false

namespace FrameShader

/-! ### Phrases -/

/-- What an instruction works on. -/
inductive Argument where
  | id (target : Id)
  /-- A number of one word. -/
  | word (value : Word)
  /-- A number of two words. -/
  | wide (value : UInt64)
  | text (value : String)
  /-- An enumerant, a set of bits or an instruction, by name. -/
  | name (value : String)
  deriving DecidableEq, Repr

/-- An instruction as the grammar reads it. -/
structure Phrase where
  form : InstructionForm
  resultType : Option Id
  result : Option Id
  arguments : List Argument
  deriving DecidableEq, Repr

/-- Whether a phrase is an instruction of this opcode. -/
def Phrase.has (p : Phrase) (opcode : Opcode) : Bool := p.form.code == opcode.code

/-! ### Errors -/

/-- Why words are no instruction. -/
inductive ReadError where
  /-- The words do not follow the grammar. -/
  | malformed
  /-- A text is read in an instruction of which `missing` words lie after the end of the stream. -/
  | textPastEnd (missing : Nat)
  /-- An instruction among operands takes an operand that depends on what stands around it. -/
  | dependentOperand
  deriving DecidableEq, Repr

/-- An answer, provided that there is one. -/
def wellFormed {α : Type} : Option α → Except ReadError α
  | some a => .ok a
  | none => .error .malformed

/-- Reads from the words of an instruction, given how many more of them lie after the end of the
stream, and leaves the words that it has not used. -/
abbrev WordReader (α : Type) := Nat → List Word → Except ReadError (α × List Word)

/-- A word. -/
def readWord : WordReader Word
  | _, w :: ws => .ok (w, ws)
  | _, [] => .error .malformed

/-- A text. -/
def readText : WordReader String := fun missing ws =>
  if missing = 0 then wellFormed (unpackText? ws) else .error (.textPastEnd missing)

/-- A word that is there if it has to be. -/
def readLeading (present : Bool) : WordReader (Option Word) := fun missing ws =>
  if present then do
    let (w, ws) ← readWord missing ws
    return (some w, ws)
  else .ok (none, ws)

/-! ### Number types -/

/-- The number type that a phrase defines. -/
def Phrase.numberType? (p : Phrase) : Option Scalar :=
  match p.arguments with
  | [.word width, .word sign] => if p.has .typeInt then some (.int width (sign == 1)) else none
  | [.word width] => if p.has .typeFloat then some (.float width) else none
  | _ => none

/-- The number types and the values of such types seen so far, the latest first. -/
abbrev NumberTypes := List (Id × Scalar)

namespace NumberTypes

/-- The number types after one more phrase. -/
def track (types : NumberTypes) (p : Phrase) : NumberTypes :=
  match p.result, p.numberType?.or (p.resultType.bind (types.lookup ·)) with
  | some id, some type => (id, type) :: types
  | _, _ => types

/-- How many words a number of a type takes, for the widths that numbers have.  It takes one word if
the type is none of those seen so far. -/
def numberWords? (types : NumberTypes) (type : Id) : Option Nat :=
  match types.lookup type with
  | some (.int width _) =>
      if width = 8 ∨ width = 16 ∨ width = 32 then some 1
      else if width = 64 then some 2
      else none
  | some (.float width) =>
      if width = 16 ∨ width = 32 then some 1 else if width = 64 then some 2 else none
  | some _ => none
  | none => some 1

/-- A number as wide as a type, or as a value of a type. -/
def readNumber (types : NumberTypes) (type : Id) : WordReader Argument := fun missing ws =>
  match types.numberWords? type with
  | some 1 => do
      let (w, ws) ← readWord missing ws
      return (.word w, ws)
  | some 2 => do
      let (low, ws) ← readWord missing ws
      let (high, ws) ← readWord missing ws
      return (.wide (low.toUInt64 ||| (high.toUInt64 <<< 32)), ws)
  | _ => .error .malformed

end NumberTypes

/-! ### Operands -/

/-- What one word stands for, and what follows it. -/
def Atom.ofWord? (a : Atom) (w : Word) : Option (Argument × List Atom) :=
  match a with
  | .id | .scope | .semantics => some (.id w, [])
  | .literal => some (.word w, [])
  | .text => none
  | .enumerant kind => (kind.ofCode? w).map fun f => (.name f.name, f.parameters)
  | .bits kind =>
      (kind.ofWord? w).map fun fs =>
        (.name (kind.text fs), fs.flatMap EnumerantForm.parameters)

/-- An operand without what follows it. -/
def Atom.readAlone (a : Atom) : WordReader (Argument × List Atom) := fun missing ws =>
  match a with
  | .text => do
      let (s, ws) ← readText missing ws
      return ((.text s, []), ws)
  | a => do
      let (w, ws) ← readWord missing ws
      let found ← wellFormed (a.ofWord? w)
      return (found, ws)

/-- What follows an enumerant.  Nothing follows in turn. -/
def readParameters : List Atom → WordReader (List Argument)
  | [] => fun _ ws => .ok ([], ws)
  | a :: as => fun missing ws => do
      let ((argument, _), ws) ← a.readAlone missing ws
      let (rest, ws) ← readParameters as missing ws
      return (argument :: rest, ws)

/-- An operand and what follows it. -/
def Atom.read (a : Atom) : WordReader (List Argument) := fun missing ws => do
  let ((argument, parameters), ws) ← a.readAlone missing ws
  let (rest, ws) ← readParameters parameters missing ws
  return (argument :: rest, ws)

/-- Operands one after the other, with what follows each. -/
def readAtoms : List Atom → WordReader (List Argument)
  | [] => fun _ ws => .ok ([], ws)
  | a :: as => fun missing ws => do
      let (xs, ws) ← a.read missing ws
      let (ys, ws) ← readAtoms as missing ws
      return (xs ++ ys, ws)

/-- What an operand of this kind consists of, if that does not depend on what stands around it. -/
def OperandKind.atoms? : OperandKind → Option (List Atom)
  | .atom a => some [a]
  | .pair first second => some [first, second]
  | .number | .branch | .operation => none

/-- Operands of an instruction among operands, each of them once. -/
def readEachOnce : List OperandForm → WordReader (List Argument)
  | [] => fun _ ws => .ok ([], ws)
  | f :: fs => fun missing ws =>
      match f.kind.atoms? with
      | none => .error .dependentOperand
      | some as => do
          let (xs, ws) ← readAtoms as missing ws
          let (ys, ws) ← readEachOnce fs missing ws
          return (xs ++ ys, ws)

/-- The first id among arguments. -/
def firstId? : List Argument → Option Id
  | .id target :: _ => some target
  | _ => none

/-- What a reader of operands knows of the instruction that they belong to. -/
structure OperandContext where
  types : NumberTypes
  resultType : Option Id
  /-- The operands that have been read. -/
  before : List Argument

/-- An operand of this kind. -/
def OperandKind.read (c : OperandContext) (kind : OperandKind) : WordReader (List Argument) :=
  fun missing ws =>
    match kind with
    | .atom a => a.read missing ws
    | .pair first second => readAtoms [first, second] missing ws
    | .number => do
        let type ← wellFormed c.resultType
        let (value, ws) ← c.types.readNumber type missing ws
        return ([value], ws)
    | .branch => do
        let selector ← wellFormed (firstId? c.before)
        let (value, ws) ← c.types.readNumber selector missing ws
        let (target, ws) ← readWord missing ws
        return ([value, .id target], ws)
    | .operation => do
        let (w, ws) ← readWord missing ws
        let form ← wellFormed (InstructionForm.ofCode? (w &&& 0xFFFF))
        let (arguments, ws) ← readEachOnce form.operands missing ws
        return (.name form.name :: arguments, ws)

/-- Operands of one kind, until the words end.  As each of them takes a word, there are at most as
many as there are words. -/
def OperandKind.readAll (c : OperandContext) (kind : OperandKind) :
    Nat → WordReader (List Argument)
  | 0 => fun _ ws => .ok ([], ws)
  | most + 1 => fun missing ws =>
      if ws.isEmpty && missing == 0 then .ok ([], ws)
      else do
        let (xs, ws) ← kind.read c missing ws
        let (ys, ws) ← kind.readAll c most missing ws
        return (xs ++ ys, ws)

/-- An operand, as often as it comes. -/
def OperandForm.read (c : OperandContext) (f : OperandForm) : WordReader (List Argument) :=
  fun missing ws =>
    match f.occurrence with
    | .once => f.kind.read c missing ws
    | .optional => f.kind.readAll c 1 missing ws
    | .repeated => f.kind.readAll c (ws.length + 1) missing ws

/-- Operands of these forms, one after the other, behind those that have been read. -/
def readOperands (c : OperandContext) : List OperandForm → WordReader (List Argument)
  | [] => fun _ ws => .ok (c.before, ws)
  | f :: fs => fun missing ws => do
      let (arguments, ws) ← f.read c missing ws
      readOperands { c with before := c.before ++ arguments } fs missing ws

/-! ### Instructions -/

/-- An instruction of this form, from the words after its first. -/
def InstructionForm.read (types : NumberTypes) (form : InstructionForm) (missing : Nat)
    (ws : List Word) : Except ReadError Phrase := do
  let (resultType, ws) ← readLeading form.typed missing ws
  let (result, ws) ← readLeading form.defining missing ws
  let (arguments, ws) ← readOperands ⟨types, resultType, []⟩ form.operands missing ws
  if ws.isEmpty && missing == 0 then return ⟨form, resultType, result, arguments⟩
  else .error .malformed

/-! ### Streams -/

/-- The instructions of a stream as far as they can be read, and why they end before the stream. -/
structure Reading where
  phrases : List Phrase
  failure : Option ReadError
  deriving DecidableEq, Repr

/-- The reading of a stream that starts with one more instruction. -/
def Reading.cons (p : Phrase) (r : Reading) : Reading := { r with phrases := p :: r.phrases }

/-- The instructions of a stream of words.  The upper half of the first word of each says how many
words it has. -/
def readStream (types : NumberTypes) (ws : List Word) : Reading :=
  match ws with
  | [] => ⟨[], none⟩
  | first :: rest =>
      let count := (first >>> 16).toNat
      if count = 0 then ⟨[], some .malformed⟩
      else
        match InstructionForm.ofCode? (first &&& 0xFFFF) with
        | none => ⟨[], some .malformed⟩
        | some form =>
            let missing := count - 1 - rest.length
            match form.read types missing (rest.take (count - 1)) with
            | .error cause => ⟨[], some cause⟩
            | .ok p => (readStream (types.track p) (rest.drop (count - 1))).cons p
termination_by ws.length
decreasing_by simp only [List.length_drop, List.length_cons]; omega

end FrameShader
