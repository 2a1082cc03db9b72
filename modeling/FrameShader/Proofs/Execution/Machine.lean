/-
Running modules: the straight-line meaning of instructions.

A function runs its block from front to back, and every instruction gives a meaning to its result,
writes to a buffer, or returns.  What an instruction does is told from the meanings of its arguments,
so an instruction whose arguments mean nothing is stuck, and so is the run.  A variable is known by
its decorations: the built-in value it holds, or the slot in which the pipeline has put a resource.

Main definitions:

* `FrameShader.Program` — the parts of a module that matter when it runs;
* `FrameShader.globalMeanings` — what constants and variables stand for;
* `FrameShader.Program.apply` — the value of an instruction;
* `FrameShader.Program.step`, `FrameShader.Program.call` — one instruction, and a whole function;
* `FrameShader.ShaderModule.execute` — what one invocation of an entry point writes.
-/

import FrameShader.Kernel.Interface
import FrameShader.Proofs.Draft.Reading
import FrameShader.Proofs.Execution.Meaning

set_option relaxedAutoImplicit false
set_option autoImplicit false

namespace FrameShader

/-! ### Programs -/

/-- The parts of a module that matter when it runs. -/
structure Program where
  imports : List Instruction
  entryPoints : List Instruction
  annotations : List Instruction
  globals : List Instruction
  functions : List Function

/-- The program of a finished module. -/
def ShaderModule.program (m : ShaderModule) : Program :=
  ⟨m.imports, m.entryPoints, m.annotations, m.globals, m.functions⟩

/-- The program of a draft: the functions that are closed. -/
def Draft.program (d : Draft) : Program :=
  ⟨d.sections.imports, d.sections.entryPoints, d.sections.annotations, d.sections.globals,
    d.sections.functions⟩

/-! ### Variables -/

/-- What a variable is for: it holds a built-in value, or a resource is bound to it. -/
inductive Role where
  | builtIn (builtIn : BuiltIn)
  | bound (binding : Word)

/-- What an annotation says about the role of a variable. -/
def Instruction.role? (v : Id) (i : Instruction) : Option Role :=
  match i.opcode, i.operands with
  | .decorate, [.id target, .decoration .builtIn, .builtIn builtIn] =>
      if target = v then some (.builtIn builtIn) else none
  | .decorate, [.id target, .decoration .binding, .literal binding] =>
      if target = v then some (.bound binding) else none
  | _, _ => none

/-- What an annotation says about the descriptor set of a variable. -/
def Instruction.descriptorSet? (v : Id) (i : Instruction) : Option Word :=
  match i.opcode, i.operands with
  | .decorate, [.id target, .decoration .descriptorSet, .literal set] =>
      if target = v then some set else none
  | _, _ => none

namespace Program

/-- The built-in value that a variable holds. -/
def builtIn? (p : Program) (v : Id) : Option BuiltIn := do
  let .builtIn builtIn ← p.annotations.findSome? (·.role? v) | none
  return builtIn

/-- The resource that the pipeline binds to a variable. -/
def resource? (p : Program) (v : Id) : Option Resource := do
  let .bound binding ← p.annotations.findSome? (·.role? v) | none
  let set ← p.annotations.findSome? (·.descriptorSet? v)
  if set = descriptorSet then Resource.all.find? (·.binding = binding) else none

/-- What is read from a place inside a variable. -/
def load? (p : Program) (host : Host) (v : Id) (path : List Word) : Option Meaning :=
  match p.builtIn? v, p.resource? v, path with
  | some .globalInvocationId, _, [] => some (.integers (List.ofFn host.invocation))
  | some .globalInvocationId, _, [axis] =>
      (Meaning.integers (List.ofFn host.invocation)).pick? axis
  | _, some .sampler, [] => some .sampler
  | _, some .image, [] => some .image
  | _, some .coordinates, [0, index] =>
      some (.numbers [(host.coordinates index).1, (host.coordinates index).2])
  | _, _, _ => none

/-- What is written to a place inside a variable. -/
def store? (p : Program) (v : Id) (path : List Word) (lanes : List ℚ) : Option Write :=
  match p.resource? v, path with
  | some .network, [0, index] => some ⟨index, lanes⟩
  | _, _ => none

end Program

/-! ### Constants -/

/-- The meaning of a literal of this type. -/
def literalMeaning? : DataType → Literal → Option Meaning
  | .scalar (.float _), value => value.rational?.map fun x => .numbers [x]
  | .scalar (.int _ _), .bits32 value => some (.integers [value])
  | _, _ => none

/-- The meaning of a constant or a variable, given the types and the meanings defined before. -/
def globalMeaning? (types : List (Id × DataType)) (known : List (Id × Meaning)) (i : Instruction) :
    Option Meaning :=
  match i.opcode, i.resultType, i.operands with
  | .constantTrue, _, [] => some (.truths [true])
  | .constantFalse, _, [] => some (.truths [false])
  | .constant, some type, [operand] =>
      (types.lookup type).bind fun t => (Instruction.literalOf? operand).bind (literalMeaning? t)
  | .constantComposite, _, operands =>
      ((operands.filterMap Operand.id?).mapM fun id => known.lookup id).bind Meaning.concat?
  | .variable, _, _ => i.result.map fun v => .pointer v []
  | _, _, _ => none

/-- The types and the meanings known after one more instruction. -/
def readGlobal (known : List (Id × DataType) × List (Id × Meaning)) (i : Instruction) :
    List (Id × DataType) × List (Id × Meaning) :=
  (readType known.1 i,
    known.2 ++ (i.result.bind fun id => (globalMeaning? known.1 known.2 i).map (id, ·)).toList)

/-- The meanings of constants and variables, read from front to back. -/
def globalMeanings (is : List Instruction) : List (Id × Meaning) := (is.foldl readGlobal ([], [])).2

/-! ### Instructions -/

namespace Instruction

/-- The ids whose meanings an instruction works on. -/
def arguments (i : Instruction) : List Id :=
  match i.opcode, i.operands with
  | .extInst, _ :: operands => operands.filterMap Operand.id?
  | .functionCall, _ :: operands => operands.filterMap Operand.id?
  | _, operands => operands.filterMap Operand.id?

/-- The literal operands of an instruction. -/
def literals (i : Instruction) : List Word :=
  i.operands.filterMap fun
    | .literal value => some value
    | _ => none

end Instruction

namespace Program

/-- Whether an instruction is the floor of the imported set. -/
def isFloor (p : Program) (i : Instruction) : Bool :=
  match i.operands with
  | .id set :: .extInst number :: _ =>
      number == floorNumber && p.imports.any fun j => j.importRow? == some (mathSet, set)
  | _ => false

/-- The value of an instruction, from the meanings of its arguments. -/
def apply (p : Program) (host : Host) (i : Instruction) (xs : List Meaning) : Option Meaning :=
  match i.opcode, xs with
  | .load, [.pointer v path] => p.load? host v path
  | .accessChain, .pointer v path :: indices =>
      (indices.mapM Meaning.integer?).map fun further => .pointer v (path ++ further)
  | .compositeConstruct, parts => Meaning.concat? parts
  | .compositeExtract, [x] =>
      match i.literals with
      | [index] => x.pick? index
      | _ => none
  | .vectorShuffle, [x, y] => x.shuffle? y i.literals
  | .fAdd, [.numbers xs, .numbers ys] => (combine? (· + ·) xs ys).map .numbers
  | .fSub, [.numbers xs, .numbers ys] => (combine? (· - ·) xs ys).map .numbers
  | .fMul, [.numbers xs, .numbers ys] => (combine? (· * ·) xs ys).map .numbers
  | .fMod, [.numbers xs, .numbers ys] =>
      if 0 ∈ ys then none else (combine? flooredMod xs ys).map .numbers
  | .vectorTimesScalar, [.numbers xs, .numbers [y]] => some (.numbers (xs.map (· * y)))
  | .dot, [.numbers xs, .numbers ys] =>
      (combine? (· * ·) xs ys).map fun products => .numbers [products.sum]
  | .extInst, [.numbers xs] =>
      if p.isFloor i then some (.numbers (xs.map fun x => (⌊x⌋ : ℚ))) else none
  | .fOrdEqual, [.numbers xs, .numbers ys] =>
      (combine? (fun x y => decide (x = y)) xs ys).map .truths
  | .select, [.truths cs, x, y] => Meaning.choose? cs x y
  | .sampledImage, [.image, .sampler] => some .sampledImage
  | .imageSampleExplicitLod, [.sampledImage, .numbers [x, y], .numbers [lod]] =>
      if lod = 0 then some (.numbers (List.ofFn (host.texel x y))) else none
  | _, _ => none

/-! ### Functions -/

/-- What an instruction does. -/
inductive Effect where
  /-- Its result means this, and a function that was called has written something. -/
  | value (x : Meaning) (writes : List Write)
  | write (w : Write)
  /-- The function returns, perhaps with a value. -/
  | answer (x : Option Meaning)

/-- How far a function has run. -/
structure Progress where
  /-- What its parameters and the results so far stand for, the latest first. -/
  locals : List (Id × Meaning)
  writes : List Write
  /-- What it has returned. -/
  answer : Option (Option Meaning)

/-- What an id stands for inside a function. -/
def lookup? (p : Program) (s : Progress) (id : Id) : Option Meaning :=
  (s.locals.lookup id).or ((globalMeanings p.globals).lookup id)

/-- What a called function answers and writes, if it is not stuck. -/
abbrev Calls := Id → List Meaning → Option (Option Meaning × List Write)

/-- What an instruction does, from the meanings of its arguments. -/
def effect (p : Program) (host : Host) (calls : Calls) (i : Instruction) (xs : List Meaning) :
    Option Effect :=
  match i.opcode, xs with
  | .store, [.pointer v path, .numbers lanes] => (p.store? v path lanes).map .write
  | .returnVoid, [] => some (.answer none)
  | .returnValue, [x] => some (.answer (some x))
  | .functionCall, xs => do
      let function ← i.callee?
      let (some x, writes) ← calls function xs | none
      return .value x writes
  | _, xs => (p.apply host i xs).map fun x => .value x []

/-- How far the function has run after an instruction with this effect. -/
def Progress.after (s : Progress) (i : Instruction) : Effect → Option Progress
  | .value x writes => i.result.map fun id =>
      { s with locals := (id, x) :: s.locals, writes := s.writes ++ writes }
  | .write w => some { s with writes := s.writes ++ [w] }
  | .answer x => some { s with answer := some x }

/-- Runs one instruction.  Nothing runs after a return. -/
def step (p : Program) (host : Host) (calls : Calls) (s : Progress) (i : Instruction) :
    Option Progress :=
  if s.answer.isSome then none
  else do
    let xs ← i.arguments.mapM (p.lookup? s)
    let effect ← p.effect host calls i xs
    s.after i effect

/-- An instruction whose arguments are found goes on to its effect. -/
theorem step_of_effect {p : Program} {host : Host} {calls : Calls} {s : Progress} {i : Instruction}
    {xs : List Meaning} {e : Effect} (hanswer : s.answer = none)
    (hxs : i.arguments.mapM (p.lookup? s) = some xs) (he : p.effect host calls i xs = some e) :
    p.step host calls s i = s.after i e := by
  simp only [step, hanswer, Option.isSome_none, Bool.false_eq_true, if_false, hxs,
    Option.bind_eq_bind, Option.bind_some, he]

/-- A function whose parameters have been given these meanings. -/
def Progress.start? (parameters : List Instruction) (args : List Meaning) : Option Progress :=
  if parameters.length = args.length then
    some ⟨(resultsOf parameters).zip args, [], none⟩
  else none

/-- Runs a function; `depth` bounds how deep calls are nested. -/
def call (p : Program) (host : Host) : Nat → Calls
  | 0, _, _ => none
  | depth + 1, function, args => do
      let f ← p.functions.find? fun f => f.definition.result == some function
      let start ← Progress.start? f.parameters args
      let s ← f.body.foldlM (p.step host (p.call host depth)) start
      let answer ← s.answer
      return (answer, s.writes)

end Program

/-! ### Entry points -/

/-- The function of an entry point, if this is its statement. -/
def Instruction.entryFunction? (text : String) (i : Instruction) : Option Id :=
  match i.opcode, i.operands with
  | .entryPoint, _ :: .id function :: .text name :: _ => if name = text then some function else none
  | _, _ => none

/-- What one invocation of an entry point writes.  No function calls itself, so calls are nested at
most as deep as there are functions. -/
def Program.execute (p : Program) (host : Host) (text : String) : Option (List Write) := do
  let function ← p.entryPoints.findSome? (·.entryFunction? text)
  let (_, writes) ← p.call host p.functions.length function []
  return writes

/-- What one invocation of an entry point of a module writes. -/
def ShaderModule.execute (m : ShaderModule) (host : Host) (text : String) : Option (List Write) :=
  m.program.execute host text

end FrameShader
