/-
Resizing: nothing in a module depends on the size of its groups but the three numbers that state it.

No call looks at how an entry point runs.  So calls on a draft whose group sizes have been replaced
answer the same, and leave behind what replacing them in the result gives.

Main definitions:

* `FrameShader.Draft.resize`, `FrameShader.ShaderModule.resize` — drafts and modules with another group
  size.

Main results:

* `FrameShader.Build.Composed.agree_resize` — **no composed call notices the group size**;
* `FrameShader.Build.localSize_resize`, `FrameShader.Build.finish_resize` — the group size is stated,
  and comes out, as it is.
-/

import FrameShader.Kernel.Options
import FrameShader.Proofs.Draft.Composing
import FrameShader.Proofs.Draft.Statements

set_option relaxedAutoImplicit false
set_option autoImplicit false

namespace FrameShader

/-- The execution mode with another group size. -/
def Instruction.resize (s : LocalSize) (i : Instruction) : Instruction :=
  { i with operands := i.operands.take 2 ++ s.toList.map .literal }

/-- The draft with another group size. -/
def Draft.resize (s : LocalSize) (d : Draft) : Draft :=
  { d with sections := { d.sections with
      executionModes := d.sections.executionModes.map (·.resize s) } }

/-- The module with another group size. -/
def ShaderModule.resize (s : LocalSize) (m : ShaderModule) : ShaderModule :=
  { m with executionModes := m.executionModes.map (·.resize s) }

namespace Draft

variable (s : LocalSize) (d : Draft)

theorem addCapability_resize (c : Capability) :
    (d.resize s).addCapability c = (d.addCapability c).resize s := by
  have hsame : (d.resize s).tables = d.tables := rfl
  unfold addCapability
  rw [hsame]
  split <;> rfl

theorem addExtension_resize (text : String) :
    (d.resize s).addExtension text = (d.addExtension text).resize s := by
  have hsame : (d.resize s).tables = d.tables := rfl
  unfold addExtension
  rw [hsame]
  split <;> rfl

theorem addToAnnotations_resize (i : Instruction) :
    (d.resize s).addToAnnotations i = (d.addToAnnotations i).resize s := by
  have hsame : (d.resize s).tables = d.tables := rfl
  unfold addToAnnotations
  rw [hsame]
  split <;> rfl

theorem addName_resize (target : Id) (member : Option Word) (i : Instruction) :
    (d.resize s).addName target member i = (d.addName target member i).resize s := by
  have hsame : (d.resize s).tables = d.tables := rfl
  have hsettings : (d.resize s).settings = d.settings := rfl
  unfold addName
  rw [hsame, hsettings]
  split <;> rfl

theorem addSource_resize (language : SourceLanguage) (version : Word) :
    (d.resize s).addSource language version = (d.addSource language version).resize s := by
  have hsource : (d.resize s).sections.source = d.sections.source := rfl
  have hsettings : (d.resize s).settings = d.settings := rfl
  unfold addSource
  rw [hsource, hsettings]
  split <;> rfl

/-- **No step that calls have in common notices the group size.** -/
instance lasting_resize : Lasting fun d d' => d' = d.resize s where
  sight := by
    rintro d _ rfl
    rfl
  step := by
    rintro d _ f hf rfl
    cases hf with
    | capability c => exact d.addCapability_resize s c
    | name target member i => exact d.addName_resize s target member i
    | defineArray id opcode operands =>
        exact (d.addTypeDefinition id _ opcode operands).addToAnnotations_resize s _
    | defineConstant key => cases key <;> rfl
    | _ => rfl

end Draft

/-- Nor does a step of a plain call. -/
theorem Operation.respects_resize (s : LocalSize) {o : Operation} (h : o.isPlain = true) :
    o.Respects fun d d' => d' = d.resize s := by
  rintro f hf d _ rfl
  cases hf with
  | configure | executionMode | localSize => cases h
  | extension text | bufferExtension => exact d.addExtension_resize s _
  | source => exact d.addSource_resize s _ _
  | decorate | decorateMember | set | binding | block | offset | nonWritable =>
      exact d.addToAnnotations_resize s _
  | builtIn builtIn t type id =>
      show (((d.addGlobalValue .variable type id _).resize s).addToAnnotations _).addBuiltIn _ _ = _
      rw [Draft.addToAnnotations_resize]
      rfl
  | declare | define | entryPoint | close | slot => rfl

namespace Build

/-- **No composed call notices the group size.** -/
theorem Composed.agree_resize {α : Type} {call : Build α} (h : Composed call) (s : LocalSize) :
    Agree (fun d d' => d' = d.resize s) Eq call call :=
  h.agrees fun _ hplain => Operation.respects_resize s hplain

/-- The group size is stated as it is. -/
theorem localSize_resize (id : Id) (s s' : LocalSize) : Agree (fun d d' => d' = d.resize s') Eq
    (localSize id s.x s.y s.z) (localSize id s'.x s'.y s'.z) := by
  refine .after (Agrees.inspect fun _ => rfl) fun _ => .modify ?_
  rintro d _ rfl
  simp [Draft.addExecutionMode, Draft.resize, Instruction.resize, Instruction.plain,
    LocalSize.toList]

/-- The group size comes out as it is. -/
theorem finish_resize (s : LocalSize) :
    Agree (fun d d' => d' = d.resize s) (fun m m' => m' = m.resize s) finish finish := by
  rintro d _ rfl
  have hfinished : (d.resize s).finished = d.finished.map (ShaderModule.resize s) := by
    have hcurrent : (d.resize s).current = d.current := rfl
    have hdeclared : (d.resize s).tables.declared = d.tables.declared := rfl
    unfold Draft.finished
    rw [hcurrent, hdeclared]
    split <;> rfl
  rw [runOn_finish, runOn_finish, hfinished]
  cases d.finished with
  | ok m => exact ⟨.ok rfl, rfl⟩
  | error cause => exact ⟨.error _, rfl⟩

end Build

end FrameShader
