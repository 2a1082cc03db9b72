/-
Listings: modules as text, one instruction a line.

A listing is made from words alone.  The number of a constant is written by its type, which may come
after the constant; the types are those that stand outside of functions.

Main definitions:

* `FrameShader.Listing`, `FrameShader.Listing.ofWords` — what a listing shows of a module;
* `FrameShader.ListingError` — why there is no text;
* `FrameShader.Phrase.line`, `FrameShader.Listing.text` — the text;
* `FrameShader.listingOfWords` — the text of any words, module or not.
-/

import FrameShader.Number.Shortest
import FrameShader.Spirv.Arrangement
import FrameShader.Spirv.InstructionSet
import FrameShader.Spirv.ShaderModule
import FrameShader.Text.Quoted

set_option relaxedAutoImplicit false
set_option autoImplicit false

namespace FrameShader

/-! ### Listings -/

/-- What a listing shows of a module. -/
structure Listing where
  version : Word
  bound : Word
  arrangement : Arrangement

/-- What a listing shows of the module that these words are. -/
def Listing.ofWords : List Word → Except ReadError Listing
  | magic :: version :: _ :: bound :: _ :: rest =>
      if magic = magicNumber then do
        let a ← Arrangement.ofReading (readStream [] rest)
        return ⟨version, bound, a⟩
      else .error .malformed
  | _ => .error .malformed

/-! ### Errors -/

/-- Why words have no listing. -/
inductive ListingError where
  /-- A text ends `needed` bytes after the start of the words, which have `available` bytes. -/
  | textPastEnd (needed available : Nat)
  /-- An instruction among operands takes an operand that depends on what stands around it. -/
  | dependentOperand
  /-- A constant has a type of which it is not known what its numbers are. -/
  | constantWithoutType
  deriving DecidableEq, Repr

/-! ### Text -/

/-- A word in decimal digits. -/
def wordText (w : Word) : String := toString w.toNat

/-- An argument as listings show it. -/
def Argument.listing : Argument → String
  | .id target => "%" ++ wordText target
  | .word value => wordText value
  | .wide value => toString value.toNat
  | .text value => quoted value
  | .name value => value

/-- The number that the bits of a constant stand for. -/
def constantText (type : Scalar) (value : Argument) : String :=
  match type, value with
  | .int _ true, .word bits => toString bits.toInt32.toInt
  | .int _ true, .wide bits => toString bits.toInt64.toInt
  | .float _, .word bits => (Float32Bits.mk bits).text
  | .float _, .wide bits => (Float64Bits.mk bits).text
  | _, value => value.listing

/-- What the text of an instruction depends on. -/
structure ListingContext where
  /-- The imports of the sets that are known, the latest first. -/
  sets : List (Id × InstructionSet)
  types : NumberTypes

namespace ListingContext

/-- The set that an instruction imports, with the id for it. -/
def import? (p : Phrase) : Option (Id × InstructionSet) :=
  match p.result, p.arguments with
  | some id, [.text name] => (InstructionSet.ofName? name).map (id, ·)
  | _, _ => none

/-- What the texts of a module depend on. -/
def ofArrangement (a : Arrangement) : ListingContext :=
  { sets := ((a.inSection .imports).filterMap import?).reverse
    types := (a.inSection .globals).foldl NumberTypes.track [] }

/-- The number of a constant, written by its type. -/
def constant (c : ListingContext) (p : Phrase) : Except ListingError (List String) :=
  match p.resultType.bind (c.types.lookup ·) with
  | some type => .ok (p.arguments.map (constantText type))
  | none => .error .constantWithoutType

/-- The arguments of an instruction of a set, which go after its name. -/
def setInstruction (c : ListingContext) : List Argument → List String
  | .id set :: .word number :: rest =>
      let shown := ((c.sets.lookup set).bind (·.instructionName? number)).getD (wordText number)
      (Argument.id set).listing :: shown :: rest.map Argument.listing
  | arguments => arguments.map Argument.listing

/-- The arguments of an instruction as listings show them. -/
def arguments (c : ListingContext) (p : Phrase) : Except ListingError (List String) :=
  if p.has .constant then c.constant p
  else if p.has .extInst then .ok (c.setInstruction p.arguments)
  else .ok (p.arguments.map Argument.listing)

end ListingContext

/-- An instruction on a line: the result, the name, the type of the result and the arguments. -/
def Phrase.line (c : ListingContext) (p : Phrase) : Except ListingError String := do
  let arguments ← c.arguments p
  let result :=
    match p.result with
    | some id => "%" ++ wordText id ++ " = "
    | none => ""
  let type :=
    match p.resultType with
    | some id => "  %" ++ wordText id
    | none => ""
  let gap := if p.arguments.isEmpty then "" else if p.resultType.isSome then "  " else " "
  return result ++ "Op" ++ p.form.name ++ type ++ gap ++ " ".intercalate arguments

/-- The lines of a listing before its instructions. -/
def Listing.header (l : Listing) : List String :=
  let major := (l.version >>> 16).toUInt8.toNat
  let minor := (l.version >>> 8).toUInt8.toNat
  ["; SPIR-V", "; Version: " ++ toString major ++ "." ++ toString minor, "; Generator: rspirv",
    "; Bound: " ++ wordText l.bound]

/-- The text of a listing. -/
def Listing.text (l : Listing) : Except ListingError String := do
  let lines ← l.arrangement.phrases.mapM
    (Phrase.line (ListingContext.ofArrangement l.arrangement))
  return "\n".intercalate (l.header ++ lines)

/-- The listing of a module, and a remark on words that are no module. -/
def listingOfWords (ws : List Word) : Except ListingError String :=
  match Listing.ofWords ws with
  | .ok l => l.text
  | .error .malformed => .ok ("SPIR-V (" ++ toString ws.length ++ " words)")
  | .error (.textPastEnd missing) =>
      .error (.textPastEnd (4 * (ws.length + missing)) (4 * ws.length))
  | .error .dependentOperand => .error .dependentOperand

end FrameShader
