/-
Definitions: what is written into the sections that define ids.

An import, a global, an instruction of a body, or the beginning of a function with its parameters
and its label: what is written has been checked against what is known.

Main definitions:

* `FrameShader.Draft.Definition` — what may be written;
* `FrameShader.Opcode.isCode` — the opcodes of what is written, imports apart.

Main results:

* `FrameShader.Draft.Definition.import_or_isCode` — **what is written is an import or code**.
-/

import FrameShader.Proofs.Draft.Growth

set_option relaxedAutoImplicit false
set_option autoImplicit false

namespace FrameShader

namespace Draft

/-- What may be written where ids are defined, each with what is known of it. -/
inductive Definition (short : Prop) (d : Draft) : Instruction → Prop
  | importSet (text : String) (id : Id) :
      Definition short d (.defining .extInstImport id [.text text])
  | type {t : DataType} {opcode : Opcode} {operands : List Operand}
      (ht : d.TypeDefinition t opcode operands) (id : Id) :
      Definition short d (.defining opcode id operands)
  | constant {key : ConstantKey} {opcode : Opcode} {type : Id} {operands : List Operand}
      (hk : d.ConstantDefinition key opcode type operands) (id : Id) :
      Definition short d (.typed opcode type id operands)
  | global {storage : StorageClass} {t : DataType} {type : Id} (hs : storage ≠ .function)
      (ht : d.Interned (.pointer storage t) type) (id : Id) :
      Definition short d (.typed .variable type id [.storageClass storage])
  /-- The beginning and the end of a function. -/
  | start {id label : Id} {s : Signature} {values : List Value} {control : FunctionControl}
      {i : Instruction} (hs : d.HasSignature s) (hv : values.map Value.type = s.parameters)
      (hi : i ∈ (OpenFunction.start id s control values label).closed.instructions) :
      Definition short d i
  | emit {opcode : Opcode} {type : Id} {operands : List Operand}
      (he : d.Emission short opcode type operands) (id : Id) :
      Definition short d (.typed opcode type id operands)
  | store {pointer value : Value} {storage : StorageClass} {pointee : DataType}
      (hp : d.Sees pointer (.pointer storage pointee)) (hv : d.Sees value pointee) :
      Definition short d (.plain .store [.id pointer.id, .id value.id])
  | leave {value : Option Value} {result void : Id} {operands : List Operand}
      (h : d.returnOperands result void value = .ok operands) :
      Definition short d (.plain (Build.returnOpcode value) operands)

end Draft

/-- Whether types, constants, variables and functions are made of such instructions. -/
def Opcode.isCode : Opcode → Bool
  | .nop | .memoryModel | .extInstImport => false
  | .capability | .extension | .entryPoint | .executionMode => false
  | .source | .debugName | .debugMemberName | .decorate | .memberDecorate => false
  | _ => true

namespace Draft

variable {d : Draft} {i : Instruction}

theorem TypeDefinition.isCode {t : DataType} {opcode : Opcode} {operands : List Operand}
    (h : d.TypeDefinition t opcode operands) : opcode.isCode = true := by
  cases h <;> rfl

theorem ConstantDefinition.isCode {key : ConstantKey} {opcode : Opcode} {type : Id}
    {operands : List Operand} (h : d.ConstantDefinition key opcode type operands) :
    opcode.isCode = true := by
  cases h with
  | @bool value => cases value <;> rfl
  | scalar | composite => rfl

theorem Emission.isCode {short : Prop} {opcode : Opcode} {type : Id} {operands : List Operand}
    (h : d.Emission short opcode type operands) : opcode.isCode = true := by
  cases h with
  | arithmetic ho =>
      rcases isArithmetic_iff.1 ho with rfl | rfl | rfl | rfl <;> rfl
  | _ => rfl

/-- **What is written where ids are defined is an import or code.** -/
theorem Definition.import_or_isCode {short : Prop} (h : d.Definition short i) :
    (∃ text id, i = .defining .extInstImport id [.text text]) ∨ i.opcode.isCode = true := by
  cases h with
  | importSet text id => exact Or.inl ⟨text, id, rfl⟩
  | type ht => exact Or.inr ht.isCode
  | constant hk => exact Or.inr hk.isCode
  | emit he => exact Or.inr he.isCode
  | start _ _ hi =>
      rcases OpenFunction.mem_start.1 hi with rfl | ⟨v, -, rfl⟩ | rfl | rfl <;> exact Or.inr rfl
  | @leave value => cases value <;> exact Or.inr rfl
  | global | store => exact Or.inr rfl

theorem mem_definitions : i ∈ d.definitions ↔
    i ∈ d.sections.imports ∨ i ∈ d.sections.globals ∨ ∃ f ∈ d.bodies, i ∈ f.instructions := by
  simp [definitions]

end Draft

end FrameShader
