/-
How the module of a kernel begins.

Before anything that depends on how the colour is found, a module says what it needs, how its entry
point is called and how it runs.  In a kernel these instructions tell the format, the precision and
the group size, and they are few and known, up to the ids that they mention.

Main definitions:

* `FrameShader.ShaderModule.opening`, `FrameShader.ShaderModule.closing` — the instructions up to the
  execution modes, and the others;
* `FrameShader.ShaderModule.Opens` — the opening of a kernel.

Main results:

* `FrameShader.Kernel.exists_opening` — **the kernels of single invocations without debug symbols are
  generated**, and open like this;
* `FrameShader.Kernel.opening_unique` — **openings tell the kernels apart**.
-/

import FrameShader.Kernel.Basic
import FrameShader.Proofs.Draft.Reading
import FrameShader.Proofs.Spirv.Stream

set_option relaxedAutoImplicit false
set_option autoImplicit false

namespace FrameShader

/-! ### Openings -/

namespace ShaderModule

/-- The instructions of a module up to its execution modes. -/
def opening (m : ShaderModule) : List Instruction :=
  m.capabilities ++ m.extensions ++ m.imports ++ [m.memoryModel] ++ m.entryPoints ++ m.executionModes

/-- The instructions of a module behind its execution modes. -/
def closing (m : ShaderModule) : List Instruction :=
  m.source ++ m.names ++ m.annotations ++ m.globals ++ m.functions.flatMap Function.instructions

theorem instructions_eq_opening (m : ShaderModule) : m.instructions = m.opening ++ m.closing := by
  simp [instructions, globalInstructions, opening, closing]

end ShaderModule

namespace Kernel

/-- What a kernel of this precision needs. -/
def capabilityRows : Precision → List Instruction
  | .single => [.plain .capability [.capability .shader]]
  | .double => [.plain .capability [.capability .shader], .plain .capability [.capability .float64]]

/-- The instruction set that is used to reconstruct colours. -/
def importRows (format : SensorFormat) (set : Id) : List Instruction :=
  if format.isBayer then [.defining .extInstImport set [.text "GLSL.std.450"]] else []

/-- The entry point of a kernel. -/
def entryRow (format : SensorFormat) (entry globalId : Id) : Instruction :=
  .plain .entryPoint [.executionModel .glCompute, .id entry, .text format.entryPoint, .id globalId]

/-- The group size of an entry point. -/
def sizeRow (entry : Id) (s : LocalSize) : Instruction :=
  .plain .executionMode
    [.id entry, .executionMode .localSize, .literal s.x, .literal s.y, .literal s.z]

end Kernel

open Kernel

/-- The module opens like the kernel of this format, precision and group size. -/
structure ShaderModule.Opens (m : ShaderModule) (format : SensorFormat) (p : Precision)
    (s : LocalSize) (set entry globalId : Id) : Prop where
  capabilities : m.capabilities = capabilityRows p
  extensions : m.extensions = [.plain .extension [.text storageBufferExtension]]
  imports : m.imports = importRows format set
  memoryModel : m.memoryModel =
    .plain .memoryModel [.addressingModel .logical, .memoryModel .glsl450]
  entryPoints : m.entryPoints = [entryRow format entry globalId]
  executionModes : m.executionModes = [sizeRow entry s]

instance (m : ShaderModule) (format : SensorFormat) (p : Precision) (s : LocalSize)
    (set entry globalId : Id) : Decidable (m.Opens format p s set entry globalId) :=
  decidable_of_iff
    (m.capabilities = capabilityRows p ∧
      m.extensions = [.plain .extension [.text storageBufferExtension]] ∧
      m.imports = importRows format set ∧
      m.memoryModel = .plain .memoryModel [.addressingModel .logical, .memoryModel .glsl450] ∧
      m.entryPoints = [entryRow format entry globalId] ∧ m.executionModes = [sizeRow entry s])
    ⟨fun ⟨hc, he, hi, hm, hp, hs⟩ => ⟨hc, he, hi, hm, hp, hs⟩,
      fun ⟨hc, he, hi, hm, hp, hs⟩ => ⟨hc, he, hi, hm, hp, hs⟩⟩

namespace Kernel

open Build

/-- The name of an entry point stands between its id and its interface. -/
theorem entryRow_tail (format : SensorFormat) (entry globalId : Id) :
    (entryRow format entry globalId).tail =
      ExecutionModel.glCompute.code :: entry :: (packText format.entryPoint ++ [globalId]) := by
  simp [entryRow, Instruction.tail, Instruction.plain, Operand.encode]

/-- A group size ends with the three sizes in order. -/
theorem sizeRow_tail (entry : Id) (s : LocalSize) :
    (sizeRow entry s).tail = entry :: ExecutionMode.localSize.code :: s.toList := by
  simp [sizeRow, Instruction.tail, Instruction.plain, Operand.encode, LocalSize.toList]

/-- The instructions before the entry point of a kernel. -/
def preambleRows (format : SensorFormat) (p : Precision) (set : Id) : List Instruction :=
  capabilityRows p ++ [.plain .extension [.text storageBufferExtension]] ++ importRows format set ++
    [.plain .memoryModel [.addressingModel .logical, .memoryModel .glsl450]]

/-- The instructions that a kernel opens with. -/
def openingRows (format : SensorFormat) (p : Precision) (s : LocalSize) (set entry globalId : Id) :
    List Instruction :=
  preambleRows format p set ++ [entryRow format entry globalId, sizeRow entry s]

end Kernel

section opens

variable {m : ShaderModule} {format : SensorFormat} {p : Precision} {s : LocalSize}
  {set entry globalId : Id}

theorem ShaderModule.Opens.opening_eq (h : m.Opens format p s set entry globalId) :
    m.opening = openingRows format p s set entry globalId := by
  rw [opening, h.capabilities, h.extensions, h.imports, h.memoryModel, h.entryPoints,
    h.executionModes, List.append_assoc]
  rfl

end opens

namespace Kernel

open Build

/-! ### Openings of kernels -/

/-- The module opens like the kernel of single invocations, with the ids that it mentions. -/
def opensSingly (format : SensorFormat) (p : Precision) (m : ShaderModule) : Bool :=
  match m.entryPoints.flatMap (·.operands.filterMap Operand.id?) with
  | [entry, globalId] =>
      decide (m.Opens format p .one ((m.imports.filterMap (·.result)).headD 0) entry globalId)
  | _ => false

theorem opensSingly_of_loadingModule (format : SensorFormat) (p : Precision) :
    (match ((loadingModule format { precision := p }).runOn (Kernel.draft { precision := p })).1 with
      | .ok m => opensSingly format p m
      | .error _ => false) = true := by
  cases format <;> cases p <;> decide +kernel

/-- **The kernels of single invocations without debug symbols are generated**, and open as they
should. -/
theorem exists_opening (format : SensorFormat) (p : Precision) : ∃ m d set entry globalId,
    (loadingModule format ⟨p, false, .one⟩).runOn (Kernel.draft ⟨p, false, .one⟩) = (.ok m, d) ∧
      m.Opens format p .one set entry globalId := by
  have hopens := opensSingly_of_loadingModule format p
  generalize hrun : (loadingModule format ⟨p, false, .one⟩).runOn (Kernel.draft ⟨p, false, .one⟩) = r
    at hopens ⊢
  rcases r with ⟨e | m, d⟩
  · cases hopens
  · unfold opensSingly at hopens
    dsimp only at hopens
    split at hopens
    · exact ⟨m, d, _, _, _, rfl, of_decide_eq_true hopens⟩
    · cases hopens

/-! ### Telling openings apart -/

/-- How many words the instructions of an opening have. -/
def openingLengths (p : Precision) (isBayer : Bool) : List Nat :=
  (match p with
    | .single => [2]
    | .double => [2, 2]) ++ [11] ++ (if isBayer then [6] else []) ++ [3, 8, 6]

theorem length_openingRows (format : SensorFormat) (p : Precision) (s : LocalSize)
    (set entry globalId : Id) : (openingRows format p s set entry globalId).map
      (fun i => i.encode.length) = openingLengths p format.isBayer := by
  cases format <;> cases p <;> rfl

theorem openingLengths_inj {p p' : Precision} {isBayer isBayer' : Bool}
    (h : openingLengths p isBayer <+: openingLengths p' isBayer') : p = p' ∧ isBayer = isBayer' := by
  revert h
  cases p <;> cases p' <;> cases isBayer <;> cases isBayer' <;> decide

/-- The instructions of an opening are short enough for their counts. -/
theorem openingRows_short {format : SensorFormat} {p : Precision} {s : LocalSize}
    {set entry globalId : Id} : ∀ i ∈ openingRows format p s set entry globalId,
      i.encode.length < 2 ^ 16 := by
  intro i hi
  have hmem := List.mem_map_of_mem (f := fun i : Instruction => i.encode.length) hi
  rw [length_openingRows] at hmem
  have hall : ∀ n ∈ openingLengths p format.isBayer, n < 2 ^ 16 := by
    cases p <;> cases format.isBayer <;> decide
  exact hall _ hmem

/-- The name of the entry point tells the format. -/
theorem entryPoint_inj {format format' : SensorFormat}
    (h : packText format.entryPoint = packText format'.entryPoint) : format = format' := by
  revert h
  cases format <;> cases format' <;> decide +kernel

/-- **Openings tell the kernels apart.** -/
theorem opening_unique {format format' : SensorFormat} {p p' : Precision} {s s' : LocalSize}
    {set entry globalId set' entry' globalId' : Id}
    (h : (openingRows format p s set entry globalId).map Instruction.encode <+:
      (openingRows format' p' s' set' entry' globalId').map Instruction.encode) :
    format = format' ∧ p = p' ∧ s = s' := by
  -- the lengths of the instructions tell the precision, and whether there is an import
  have hlengths := h.map List.length
  rw [List.map_map, List.map_map] at hlengths
  have hsame : openingLengths p format.isBayer <+: openingLengths p' format'.isBayer := by
    rw [← length_openingRows format p s set entry globalId,
      ← length_openingRows format' p' s' set' entry' globalId']
    exact hlengths
  obtain ⟨hprecision, hbayer⟩ := openingLengths_inj hsame
  -- so there are as many instructions, and the last two are the same
  have hcount : (openingRows format p s set entry globalId).length =
      (openingRows format' p' s' set' entry' globalId').length := by
    have hfirst := congrArg List.length (length_openingRows format p s set entry globalId)
    have hsecond := congrArg List.length (length_openingRows format' p' s' set' entry' globalId')
    rw [List.length_map] at hfirst hsecond
    rw [hfirst, hsecond, hprecision, hbayer]
  have hall := h.eq_of_length (by simpa using hcount)
  rw [openingRows, openingRows, List.map_append, List.map_append] at hall
  have hlast := (List.append_inj' hall (by simp only [List.length_map, List.length_cons])).2
  rw [List.map_cons, List.map_cons] at hlast
  obtain ⟨hentry, hlast⟩ := List.cons.inj hlast
  obtain ⟨hsize, -⟩ := List.cons.inj hlast
  replace hentry := (List.cons.inj hentry).2
  replace hsize := (List.cons.inj hsize).2
  rw [entryRow_tail, entryRow_tail] at hentry
  rw [sizeRow_tail, sizeRow_tail] at hsize
  obtain ⟨-, hentry⟩ := List.cons.inj hentry
  obtain ⟨-, hname⟩ := List.cons.inj hentry
  refine ⟨entryPoint_inj (List.append_inj' hname rfl).1, hprecision, ?_⟩
  obtain ⟨-, hsizes⟩ := List.cons.inj (List.cons.inj hsize).2
  obtain ⟨x, y, z⟩ := s
  obtain ⟨x', y', z'⟩ := s'
  simpa [LocalSize.toList] using hsizes

end Kernel

end FrameShader
