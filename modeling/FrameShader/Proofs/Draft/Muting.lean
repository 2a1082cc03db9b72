/-
Muting: debug symbols change nothing but themselves.

No call looks at the source statement, at names, or at how an entry point runs.  So a call on a draft
from which they have been taken away answers the same, and leaves behind what taking them away from
the result gives.

Main definitions:

* `FrameShader.Draft.overlook` — a draft without debug symbols, with its execution modes stripped;
* `FrameShader.Operation.isPlain` — a call that neither changes settings nor states execution modes.

Main results:

* `FrameShader.Draft.lasting_overlook` — no step notices what is overlooked;
* `FrameShader.Operation.run_commutes` — **nor does any plain call**.
-/

import FrameShader.Proofs.Draft.Agreeing

set_option relaxedAutoImplicit false
set_option autoImplicit false

namespace FrameShader

/-! ### What is overlooked -/

/-- The draft without debug symbols; `strip` says what is left of its execution modes. -/
def Draft.overlook (strip : Instruction → Instruction) (d : Draft) : Draft :=
  { d with
    settings := { d.settings with debugSymbols := false }
    sections := { d.sections with
      source := []
      names := []
      executionModes := d.sections.executionModes.map strip }
    tables := { d.tables with names := [] } }

/-- The call neither changes settings nor states how an entry point runs. -/
def Operation.isPlain : Operation → Bool
  | .configure _ => false
  | .executionMode _ _ _ => false
  | .localSize _ _ _ _ => false
  | _ => true

namespace Draft

variable (strip : Instruction → Instruction) (d : Draft)

theorem overlook_addName (target : Id) (member : Option Word) (i : Instruction) :
    (d.addName target member i).overlook strip = d.overlook strip := by
  unfold addName
  split <;> rfl

theorem addName_overlook (target : Id) (member : Option Word) (i : Instruction) :
    (d.overlook strip).addName target member i = d.overlook strip := rfl

theorem overlook_addSource (language : SourceLanguage) (version : Word) :
    (d.addSource language version).overlook strip = d.overlook strip := by
  unfold addSource
  split <;> rfl

theorem addToAnnotations_overlook (i : Instruction) :
    (d.overlook strip).addToAnnotations i = (d.addToAnnotations i).overlook strip := by
  have hsame : (d.overlook strip).tables.annotations = d.tables.annotations := rfl
  unfold addToAnnotations
  rw [hsame]
  split <;> rfl

theorem addCapability_overlook (c : Capability) :
    (d.overlook strip).addCapability c = (d.addCapability c).overlook strip := by
  have hsame : (d.overlook strip).tables.capabilities = d.tables.capabilities := rfl
  unfold addCapability
  rw [hsame]
  split <;> rfl

theorem addExtension_overlook (text : String) :
    (d.overlook strip).addExtension text = (d.addExtension text).overlook strip := by
  have hsame : (d.overlook strip).tables.extensions = d.tables.extensions := rfl
  unfold addExtension
  rw [hsame]
  split <;> rfl

theorem addConstantDefinition_overlook (key : ConstantKey) (opcode : Opcode) (type id : Id)
    (operands : List Operand) :
    (d.overlook strip).addConstantDefinition key opcode type id operands =
      (d.addConstantDefinition key opcode type id operands).overlook strip := by
  cases key <;> rfl

/-- An entry point runs as it is stated to. -/
theorem addExecutionMode_overlook (entryPoint : Id) (mode : ExecutionMode) (literals : List Word) :
    (d.addExecutionMode entryPoint mode literals).overlook strip =
      { d.overlook strip with sections := { (d.overlook strip).sections with
        executionModes := (d.overlook strip).sections.executionModes ++
          [strip (.plain .executionMode
            (.id entryPoint :: .executionMode mode :: literals.map .literal))] } } := by
  simp [addExecutionMode, overlook]

end Draft

/-! ### Calls do not notice -/

open Build

variable {strip : Instruction → Instruction}

/-- **No step that calls have in common notices what is overlooked.** -/
instance Draft.lasting_overlook : Draft.Lasting fun d d' => d' = d.overlook strip where
  sight := by
    rintro d _ rfl
    rfl
  step := by
    rintro d _ f hf rfl
    cases hf with
    | capability c => exact d.addCapability_overlook strip c
    | name target member i =>
        exact (d.addName_overlook strip _ _ _).trans (d.overlook_addName strip _ _ _).symm
    | defineArray id opcode operands =>
        exact (d.addTypeDefinition id _ opcode operands).addToAnnotations_overlook strip _
    | defineConstant key => exact d.addConstantDefinition_overlook strip _ _ _ _ _
    | _ => rfl

/-- Nor does a step of a plain call. -/
theorem Operation.respects_overlook {o : Operation} (h : o.isPlain = true) :
    o.Respects fun d d' => d' = d.overlook strip := by
  rintro f hf d _ rfl
  cases hf with
  | configure | executionMode | localSize => cases h
  | extension text | bufferExtension => exact d.addExtension_overlook strip _
  | source => exact (d.overlook_addSource strip _ _).symm
  | decorate | decorateMember | set | binding | block | offset | nonWritable =>
      exact d.addToAnnotations_overlook strip _
  | builtIn builtIn t type id =>
      show (((d.addGlobalValue .variable type id _).overlook strip).addToAnnotations _).addBuiltIn _ _ = _
      rw [Draft.addToAnnotations_overlook]
      rfl
  | declare | define | entryPoint | close | slot => rfl

/-- **No plain call notices what is overlooked.** -/
theorem Operation.run_commutes (strip : Instruction → Instruction) (o : Operation)
    (h : o.isPlain = true) : Commutes (Draft.overlook strip) o.run :=
  (o.run_agrees (respects_overlook h)).commutes

end FrameShader
