/-
Consistency: the tables of a draft mirror its instructions, and all its ids are accounted for.

Every id that was handed out is at exactly one place: an instruction defines it, it is reserved for
a function, or it is spare.  Everything that the tables say can be read off the instructions.  Both
hold before the first call, and every change keeps them.

Main definitions:

* `FrameShader.idsBefore` — the ids below a word, from one on;
* `FrameShader.Constant` — what a constant is, and the instruction that defines it;
* `FrameShader.Draft.core` — a draft without what consistency is not about;
* `FrameShader.OpenFunction.Kept` — the open function agrees with its instructions;
* `FrameShader.Account.Consistent` — the invariant.

Main results:

* `FrameShader.Account.Consistent.empty`, `FrameShader.Account.Consistent.step`,
  `FrameShader.Account.Consistent.after` — **consistency is an invariant**;
* `FrameShader.Account.Consistent.lookup_dataTypes` — an interned type is found again by its id;
* `FrameShader.Account.Consistent.nodup` — no id is at two places.
-/

import FrameShader.Proofs.Draft.Changing
import FrameShader.Proofs.Draft.Reading
import Mathlib.Data.List.Nodup
import Mathlib.Data.List.Perm.Basic
import Mathlib.Data.List.Range

set_option relaxedAutoImplicit false
set_option autoImplicit false

namespace FrameShader

/-! ### Ids below a bound -/

/-- The ids below `bound`, from one on. -/
def idsBefore (bound : Id) : List Id := (List.range' 1 (bound.toNat - 1)).map UInt32.ofNat

/-- A number below a bound is that of a word. -/
theorem toNat_ofNat_of_lt_bound (bound : Id) {n : Nat} (h : n < bound.toNat) :
    (UInt32.ofNat n).toNat = n := by
  have hbound : bound.toNat < UInt32.size := bound.toNat_lt
  exact UInt32.toNat_ofNat_of_lt' (by omega)

theorem mem_idsBefore {bound id : Id} : id ∈ idsBefore bound ↔ 1 ≤ id ∧ id < bound := by
  have hone : (1 : UInt32).toNat = 1 := rfl
  rw [UInt32.le_iff_toNat_le, UInt32.lt_iff_toNat_lt, idsBefore, List.mem_map]
  constructor
  · rintro ⟨n, hn, rfl⟩
    rw [List.mem_range'_1] at hn
    rw [toNat_ofNat_of_lt_bound bound (by omega)]
    exact ⟨by omega, by omega⟩
  · rintro ⟨h₁, h₂⟩
    exact ⟨id.toNat, List.mem_range'_1.2 ⟨by omega, by omega⟩, UInt32.ofNat_toNat⟩

theorem nodup_idsBefore (bound : Id) : (idsBefore bound).Nodup := by
  refine List.Nodup.map_on ?_ List.nodup_range'
  intro m hm n hn h
  rw [List.mem_range'_1] at hm hn
  have h' := congrArg UInt32.toNat h
  rwa [toNat_ofNat_of_lt_bound bound (by omega),
    toNat_ofNat_of_lt_bound bound (by omega)] at h'

/-- The ids below the next bound. -/
theorem idsBefore_succ {bound : Id} (hpos : 1 ≤ bound.toNat) (h : bound.toNat + 1 < UInt32.size) :
    idsBefore (bound + 1) = idsBefore bound ++ [bound] := by
  have hone : (1 : UInt32).toNat = 1 := rfl
  have hsucc : (bound + 1).toNat = bound.toNat + 1 := by
    rw [UInt32.toNat_add, hone]
    exact Nat.mod_eq_of_lt h
  have hrange : List.range' 1 (bound.toNat + 1 - 1) =
      List.range' 1 (bound.toNat - 1) ++ [bound.toNat] := by
    obtain ⟨n, hn⟩ : ∃ n, bound.toNat = n + 1 := ⟨bound.toNat - 1, by omega⟩
    rw [hn, Nat.add_sub_cancel, Nat.add_sub_cancel, List.range'_1_concat, Nat.add_comm 1 n]
  rw [idsBefore, idsBefore, hsucc, hrange, List.map_append]
  simp

/-! ### What consistency is about -/

namespace Draft

/-- The draft without its settings and log, and without what states something about ids: entry
points, annotations, names, slots and the like. -/
def core (d : Draft) : Draft :=
  { nextId := d.nextId
    current := d.current
    sections :=
      { imports := d.sections.imports
        globals := d.sections.globals
        functions := d.sections.functions }
    tables :=
      { types := d.tables.types
        dataTypes := d.tables.dataTypes
        constants := d.tables.constants
        literals := d.tables.literals
        globals := d.tables.globals
        functions := d.tables.functions
        declared := d.tables.declared
        imports := d.tables.imports } }

/-- **A note leaves the core alone.** -/
theorem Note.core {d d' : Draft} (h : d.Note d') : d'.core = d.core := by
  cases h with
  | capability c => exact view_eq (d.bare_addCapability c) Draft.core fun _ => rfl
  | extension text => exact view_eq (d.bare_addExtension text) Draft.core fun _ => rfl
  | source language version =>
      exact view_eq (d.bare_addSource language version) Draft.core fun _ => rfl
  | decorate | decorateMember =>
      exact view_eq (d.unannotated_addToAnnotations _) Draft.core fun _ => rfl
  | name | nameMember => exact view_eq (d.bare_addName _ _ _) Draft.core fun _ => rfl
  | record | configure | entryPoint | executionMode | slot | builtIn => rfl

/-- What is read off the core is not changed by a note. -/
theorem Note.unseen {d d' : Draft} (h : d.Note d') {α : Type} (view : Draft → α)
    (hview : ∀ d, view d.core = view d) : view d' = view d :=
  view_eq h.core view hview

end Draft

/-! ### Constants -/

/-- What a constant is: a truth value, a number of some type by its bits, or a composite of other
constants. -/
inductive Constant where
  | bool (value : Bool)
  | scalar (type : DataType) (value : Literal)
  | composite (type : DataType) (parts : List Id)
  deriving DecidableEq

namespace Constant

/-- The type of a constant. -/
def type : Constant → DataType
  | .bool _ => .bool
  | .scalar type _ => type
  | .composite type _ => type

/-- The key under which a constant is interned, given the id of its type. -/
def key : Constant → Id → ConstantKey
  | .bool value, _ => .bool value
  | .scalar _ value, type => .scalar type value
  | .composite _ parts, type => .composite type parts

/-- The opcode of the instruction that defines a constant. -/
def opcode : Constant → Opcode
  | .bool true => .constantTrue
  | .bool false => .constantFalse
  | .scalar _ _ => .constant
  | .composite _ _ => .constantComposite

/-- The operands of the instruction that defines a constant. -/
def operands : Constant → List Operand
  | .bool _ => []
  | .scalar _ value => [value.operand]
  | .composite _ parts => parts.map .id

/-- The instruction that defines a constant. -/
def definition (c : Constant) (type id : Id) : Instruction := .typed c.opcode type id c.operands

variable (c : Constant) (type id : Id)

theorem valueRow?_definition : (c.definition type id).valueRow? = some (id, type) := by
  cases c with
  | bool value => cases value <;> rfl
  | scalar | composite => rfl

theorem constantRow?_definition : (c.definition type id).constantRow? = some (c.key type, id) := by
  cases c with
  | bool value => cases value <;> rfl
  | scalar _ value => cases value <;> rfl
  | composite _ parts =>
      show some (ConstantKey.composite type ((parts.map Operand.id).filterMap Operand.id?), id) = _
      rw [List.filterMap_map]
      show some (ConstantKey.composite type (parts.filterMap some), id) = _
      rw [List.filterMap_some]
      rfl

/-- A constant does not define a type. -/
theorem dataType?_definition (known : List (Id × DataType)) :
    (c.definition type id).dataType? known = none := by
  cases c with
  | bool value => cases value <;> rfl
  | scalar | composite => rfl

/-- A constant is known by its type and its instruction. -/
theorem eq_of_definition {c c' : Constant} (htype : c.type = c'.type) (hopcode : c.opcode = c'.opcode)
    (hoperands : c.operands = c'.operands) : c = c' := by
  cases c with
  | bool value =>
      cases c' with
      | bool value' => cases value <;> cases value' <;> first | rfl | cases hopcode
      | scalar | composite => cases value <;> cases hopcode
  | scalar t value =>
      cases c' with
      | scalar t' value' =>
          obtain rfl : t = t' := htype
          cases value <;> cases value' <;> cases hoperands <;> rfl
      | bool value' => cases value' <;> cases hopcode
      | composite => cases hopcode
  | composite t parts =>
      cases c' with
      | composite t' parts' =>
          obtain rfl : t = t' := htype
          have hparts : parts = parts' :=
            List.map_injective_iff.2 (fun _ _ h => Operand.id.inj h) hoperands
          rw [hparts]
      | bool value' => cases value' <;> cases hopcode
      | scalar => cases hopcode

end Constant

/-- What is defined is a constant of its type. -/
theorem Draft.ConstantDefinition.exists_constant {d : Draft} {key : ConstantKey} {opcode : Opcode}
    {type : Id} {operands : List Operand} (h : d.ConstantDefinition key opcode type operands) :
    ∃ c : Constant, key = c.key type ∧ opcode = c.opcode ∧ operands = c.operands ∧
      d.Interned c.type type := by
  cases h with
  | @bool value _ ht => cases value <;> exact ⟨.bool _, rfl, rfl, rfl, ht⟩
  | @scalar t _ value _ ht => exact ⟨.scalar t value, rfl, rfl, rfl, ht⟩
  | @composite s _ values _ ht => exact ⟨.composite _ (values.map Value.id), rfl, rfl, rfl, ht⟩

/-! ### What definitions say -/

section reading

variable {d : Draft}

/-- The definition of a type is not mistaken for a value. -/
theorem Draft.TypeDefinition.valueRow? {t : DataType} {opcode : Opcode} {operands : List Operand}
    (h : d.TypeDefinition t opcode operands) (id : Id) :
    (Instruction.defining opcode id operands).valueRow? = none := by
  cases h <;> rfl

theorem Draft.TypeDefinition.constantRow? {t : DataType} {opcode : Opcode}
    {operands : List Operand} (h : d.TypeDefinition t opcode operands) (id : Id) :
    (Instruction.defining opcode id operands).constantRow? = none := by
  cases h <;> rfl

theorem Draft.TypeDefinition.literalRow? {t : DataType} {opcode : Opcode}
    {operands : List Operand} (h : d.TypeDefinition t opcode operands) (id : Id) :
    (Instruction.defining opcode id operands).literalRow? = none := by
  cases h <;> rfl

/-- The bits of a constant, if its key is that of a scalar. -/
def ConstantKey.literal? : ConstantKey → Option Literal
  | .scalar _ value => some value
  | _ => none

variable {key : ConstantKey} {opcode : Opcode} {type : Id} {operands : List Operand}

theorem Draft.ConstantDefinition.valueRow? (h : d.ConstantDefinition key opcode type operands)
    (id : Id) : (Instruction.typed opcode type id operands).valueRow? = some (id, type) := by
  obtain ⟨c, rfl, rfl, rfl, -⟩ := h.exists_constant
  exact c.valueRow?_definition type id

theorem Draft.ConstantDefinition.constantRow? (h : d.ConstantDefinition key opcode type operands)
    (id : Id) : (Instruction.typed opcode type id operands).constantRow? = some (key, id) := by
  obtain ⟨c, rfl, rfl, rfl, -⟩ := h.exists_constant
  exact c.constantRow?_definition type id

theorem Draft.ConstantDefinition.literalRow? (h : d.ConstantDefinition key opcode type operands)
    (id : Id) : (Instruction.typed opcode type id operands).literalRow? =
      key.literal?.map (id, ·) := by
  cases h with
  | @bool value => cases value <;> rfl
  | @scalar _ _ value => cases value <;> rfl
  | composite => rfl

/-- A constant does not define a type. -/
theorem Draft.ConstantDefinition.dataType? (h : d.ConstantDefinition key opcode type operands)
    (id : Id) (known : List (Id × DataType)) :
    (Instruction.typed opcode type id operands).dataType? known = none := by
  obtain ⟨c, rfl, rfl, rfl, -⟩ := h.exists_constant
  exact c.dataType?_definition type id known

/-- The value of an instruction of a body has the type of the instruction. -/
theorem Draft.Emission.valueRow? {short : Prop} (h : d.Emission short opcode type operands)
    (id : Id) : (Instruction.typed opcode type id operands).valueRow? = some (id, type) := by
  cases h with
  | arithmetic ho =>
      rcases isArithmetic_iff.1 ho with rfl | rfl | rfl | rfl <;> rfl
  | _ => rfl

end reading

/-! ### What globals are -/

/-- What stands among the globals: types, constants and variables. -/
inductive Draft.Entry (d : Draft) : Instruction → Prop
  | type {t : DataType} {id : Id} {opcode : Opcode} {operands : List Operand}
      (ht : d.TypeDefinition t opcode operands) (hid : d.Interned t id) :
      Entry d (.defining opcode id operands)
  | constant {c : Constant} {type : Id} (ht : d.Interned c.type type) (id : Id) :
      Entry d (c.definition type id)
  | variable (storage : StorageClass) (type id : Id) :
      Entry d (.typed .variable type id [.storageClass storage])

/-- While types stay interned, globals are what they are. -/
theorem Draft.Entry.mono {d d' : Draft}
    (h : ∀ {t : DataType} {id : Id}, d.Interned t id → d'.Interned t id) {i : Instruction}
    (hi : d.Entry i) : d'.Entry i := by
  cases hi with
  | type ht hid => exact .type (ht.mono h) (h hid)
  | constant ht id => exact .constant (h ht) id
  | «variable» storage type id => exact .variable storage type id

/-- A draft that knows nothing but the types. -/
def Draft.lexicon (d : Draft) : Draft := { tables := { types := d.tables.types } }

/-- What a global is depends on nothing but the types. -/
theorem Draft.entry_lexicon {d : Draft} {i : Instruction} : d.lexicon.Entry i ↔ d.Entry i := by
  have hknown {t : DataType} {id : Id} (ht : d.lexicon.Interned t id) : d.Interned t id := ht
  have hknown' {t : DataType} {id : Id} (ht : d.Interned t id) : d.lexicon.Interned t id := ht
  exact ⟨.mono hknown, .mono hknown'⟩

/-- A type that is interned stays interned when a new one is defined. -/
theorem Draft.Interned.addTypeDefinition {d : Draft} {t u : DataType} {id target : Id}
    (hnew : d.tables.types.lookup t = none) (hu : d.Interned u target) (opcode : Opcode)
    (operands : List Operand) : (d.addTypeDefinition id t opcode operands).Interned u target := by
  refine (lookup_cons_of_ne ?_).trans hu
  rintro rfl
  have hsome : d.tables.types.lookup u = some target := hu
  rw [hnew] at hsome
  cases hsome

/-- Types are known by ids that their definitions define. -/
theorem keys_readTypes_sublist (is : List Instruction) :
    ((readTypes is).map Prod.fst).Sublist (resultsOf is).reverse := by
  induction is using List.reverseRecOn with
  | nil => exact List.Sublist.refl []
  | append_singleton is i ih =>
      rw [readTypes_append_singleton, readType, resultsOf_append, List.reverse_append]
      cases hresult : i.result with
      | none => simpa [hresult] using ih
      | some id =>
          cases i.dataType? (readTypes is) with
          | none => simpa [hresult] using ih.cons id
          | some t => simpa [hresult] using ih.cons_cons id

/-- Values are known by ids that their definitions define. -/
theorem keys_valueRows_sublist (is : List Instruction) :
    ((is.filterMap Instruction.valueRow?).map Prod.fst).Sublist (resultsOf is) := by
  induction is with
  | nil => exact List.Sublist.refl []
  | cons i is ih =>
      rw [resultsOf_cons]
      cases hrow : i.valueRow? with
      | none =>
          rw [List.filterMap_cons_none hrow]
          exact ih.trans (List.sublist_append_right _ _)
      | some row =>
          rw [List.filterMap_cons_some hrow, (Instruction.valueRow?_eq_some.1 hrow).1]
          exact ih.cons_cons row.1

/-! ### The invariant -/

/-- The open function agrees with its instructions. -/
structure OpenFunction.Kept (f : OpenFunction) : Prop where
  /-- Its first instruction defines it. -/
  definition : ∃ control type,
    f.definition = .typed .function f.result f.id [.functionControl control, .id type]
  /-- Its parameters are instructions without operands. -/
  parameters : ∀ p ∈ f.parameters, ∃ type id, p = .typed .functionParameter type id []
  label : ∃ id, f.label = .defining .label id []
  /-- It knows its parameters and results with their types. -/
  locals : f.locals = rowsOf Instruction.valueRow? (f.parameters ++ f.body)

namespace Account

/-- The tables of a draft mirror its instructions, and all its ids are accounted for. -/
structure Consistent (a : Account) : Prop where
  positive : 1 ≤ a.draft.nextId.toNat
  /-- Every id that was handed out is at exactly one place. -/
  ids : (a.draft.definedIds ++ (a.draft.declaredIds ++ a.spare)).Perm
    (idsBefore a.draft.nextId)
  types : a.draft.tables.dataTypes = readTypes a.draft.sections.globals
  interned : a.draft.tables.types = a.draft.tables.dataTypes.map Prod.swap
  values : a.draft.tables.globals = rowsOf Instruction.valueRow? a.draft.sections.globals
  constants :
    a.draft.tables.constants = rowsOf Instruction.constantRow? a.draft.sections.globals
  literals : a.draft.tables.literals = rowsOf Instruction.literalRow? a.draft.sections.globals
  /-- Globals refer to nothing but types. -/
  entries : ∀ i ∈ a.draft.sections.globals, a.draft.lexicon.Entry i
  imports : a.draft.tables.imports = rowsOf Instruction.importRow? a.draft.sections.imports
  functions : a.draft.tables.functions = rowsOf Function.signatureRow? a.draft.bodies
  current : ∀ f, a.draft.current = some f → f.Kept

namespace Consistent

/-- Only the core of a draft matters. -/
theorem congr {d d' : Draft} {ids : List Id} (hcore : d'.core = d.core)
    (h : Consistent ⟨d, ids⟩) : Consistent ⟨d', ids⟩ := by
  have h' : Consistent ⟨d.core, ids⟩ :=
    ⟨h.positive, h.ids, h.types, h.interned, h.values, h.constants, h.literals, h.entries,
      h.imports, h.functions, h.current⟩
  rw [← hcore] at h'
  exact ⟨h'.positive, h'.ids, h'.types, h'.interned, h'.values, h'.constants, h'.literals,
    h'.entries, h'.imports, h'.functions, h'.current⟩

/-- Before the first call nothing is defined. -/
theorem empty (settings : ModuleSettings) : Consistent ⟨Draft.empty settings, []⟩ where
  positive := Nat.le_refl 1
  ids := List.Perm.refl []
  types := rfl
  interned := rfl
  values := rfl
  constants := rfl
  literals := rfl
  entries := fun _ hi => nomatch hi
  imports := rfl
  functions := rfl
  current _ h := by simp [Draft.empty] at h

section facts

variable {a : Account}

/-- No id is at two places. -/
theorem nodup (h : a.Consistent) :
    (a.draft.definedIds ++ (a.draft.declaredIds ++ a.spare)).Nodup :=
  h.ids.nodup_iff.2 (nodup_idsBefore a.draft.nextId)

theorem nodup_definedIds (h : a.Consistent) : a.draft.definedIds.Nodup :=
  (List.nodup_append.1 h.nodup).1

/-- The ids of the globals are different. -/
theorem nodup_globals (h : a.Consistent) : (resultsOf a.draft.sections.globals).Nodup := by
  have hall := h.nodup_definedIds
  rw [Draft.definedIds, Draft.definitions, resultsOf_append, resultsOf_append] at hall
  exact (List.nodup_append.1 (List.nodup_append.1 hall).1).2.1

/-- The values of globals have different ids. -/
theorem nodup_values (h : a.Consistent) : (a.draft.tables.globals.map Prod.fst).Nodup := by
  rw [h.values, rowsOf, List.map_reverse, List.nodup_reverse]
  exact h.nodup_globals.sublist (keys_valueRows_sublist _)

/-- Each type id stands for one type. -/
theorem nodup_dataTypes (h : a.Consistent) : (a.draft.tables.dataTypes.map Prod.fst).Nodup := by
  rw [h.types]
  exact (keys_readTypes_sublist _).nodup (List.nodup_reverse.2 h.nodup_globals)

/-- An interned type is found again by its id. -/
theorem lookup_dataTypes (h : a.Consistent) {t : DataType} {id : Id} (ht : a.draft.Interned t id) :
    a.draft.tables.dataTypes.lookup id = some t := by
  have hmem := mem_of_lookup_eq_some ht
  rw [h.interned, List.mem_map] at hmem
  obtain ⟨⟨id', t'⟩, hmem, heq⟩ := hmem
  cases heq
  exact lookup_eq_some_of_mem h.nodup_dataTypes hmem

/-- Interned types, one by one, are found again by their ids. -/
theorem operandTypes?_eq (h : a.Consistent) {ts : List DataType} {ids : List Id}
    (hts : List.Forall₂ a.draft.Interned ts ids) :
    operandTypes? a.draft.tables.dataTypes (ids.map .id) = some ts := by
  induction hts with
  | nil => rfl
  | cons ht _ ih =>
      rw [operandTypes?] at ih ⊢
      rw [List.map_cons, List.mapM_cons, ih]
      simp [h.lookup_dataTypes ht]

/-- The definition of a type is read back. -/
theorem dataType?_eq (h : a.Consistent) {t : DataType} {opcode : Opcode} {operands : List Operand}
    (ht : a.draft.TypeDefinition t opcode operands) (id : Id) :
    (Instruction.defining opcode id operands).dataType? a.draft.tables.dataTypes = some t := by
  -- flags are written as words and read as truth values
  have hflag : ∀ b : Bool, ((if b then 1 else 0 : Word) != 0) = b := by decide
  cases ht with
  | void | bool | float | sampler => rfl
  | int width signed =>
      show some (DataType.scalar (.int width (_ != 0))) = _
      rw [hflag]
  | @vector _ width _ _ _ hc => exact scalarPart_eq (.vector · width) (h.lookup_dataTypes hc)
  | runtimeArray he =>
      show (a.draft.tables.dataTypes.lookup _).map DataType.runtimeArray = _
      rw [h.lookup_dataTypes he]
      rfl
  | record hm =>
      show (operandTypes? _ (List.map Operand.id _)).map DataType.record = _
      rw [h.operandTypes?_eq hm]
      rfl
  | pointer hp =>
      show (a.draft.tables.dataTypes.lookup _).map (DataType.pointer _) = _
      rw [h.lookup_dataTypes hp]
      rfl
  | @image shape _ hc =>
      refine (scalarPart_eq (fun s => .image { shape with
        sampledType := s, arrayed := _, multisampled := _ }) (h.lookup_dataTypes hc)).trans ?_
      simp only [hflag]
  | sampledImage hi =>
      show (a.draft.tables.dataTypes.lookup _).map DataType.sampledImage = _
      rw [h.lookup_dataTypes hi]
      rfl
  | function hr hp =>
      show (a.draft.tables.dataTypes.lookup _).bind _ = _
      rw [h.lookup_dataTypes hr, Option.bind_some, h.operandTypes?_eq hp]
      rfl

end facts

/-! ### What the tables know is written -/

section known

variable {d : Draft} {ids : List Id} {id : Id}

/-- The id of a known type is defined by a global. -/
theorem mem_globals_of_dataTypes (h : Consistent ⟨d, ids⟩) {t : DataType}
    (ht : d.tables.dataTypes.lookup id = some t) : id ∈ resultsOf d.sections.globals := by
  have hkey : id ∈ d.tables.dataTypes.map Prod.fst :=
    List.mem_map.2 ⟨_, mem_of_lookup_eq_some ht, rfl⟩
  have htypes : d.tables.dataTypes = readTypes d.sections.globals := h.types
  rw [htypes] at hkey
  exact List.mem_reverse.1 ((keys_readTypes_sublist _).subset hkey)

theorem mem_globals_of_interned (h : Consistent ⟨d, ids⟩) {t : DataType} (ht : d.Interned t id) :
    id ∈ resultsOf d.sections.globals :=
  h.mem_globals_of_dataTypes (h.lookup_dataTypes ht)

/-- A known constant or variable is a global. -/
theorem exists_global (h : Consistent ⟨d, ids⟩) {type : Id}
    (ht : d.tables.globals.lookup id = some type) :
    ∃ i ∈ d.sections.globals, i.result = some id ∧ i.valueType? = some type := by
  have hmem := mem_of_lookup_eq_some ht
  have hvalues : d.tables.globals = rowsOf Instruction.valueRow? d.sections.globals := h.values
  rw [hvalues, mem_rowsOf] at hmem
  obtain ⟨i, hi, hrow⟩ := hmem
  exact ⟨i, hi, Instruction.valueRow?_eq_some.1 hrow⟩

/-- A known function is written. -/
theorem exists_function (h : Consistent ⟨d, ids⟩) {s : Signature}
    (hs : d.tables.functions.lookup id = some s) :
    ∃ f ∈ d.bodies, f.signatureRow? = some (id, s) := by
  have hmem := mem_of_lookup_eq_some hs
  have hfunctions : d.tables.functions = rowsOf Function.signatureRow? d.bodies := h.functions
  rwa [hfunctions, mem_rowsOf] at hmem

/-- Two types are not interned under one id. -/
theorem eq_of_interned (h : Consistent ⟨d, ids⟩) {t u : DataType} (ht : d.Interned t id)
    (hu : d.Interned u id) : t = u :=
  Option.some.inj ((h.lookup_dataTypes ht).symm.trans (h.lookup_dataTypes hu))

/-- What only the open function sees is one of its parameters or results. -/
theorem exists_local (h : Consistent ⟨d, ids⟩) {f : OpenFunction} {type : Id}
    (hf : d.current = some f) (ht : f.locals.lookup id = some type) :
    ∃ i ∈ f.parameters ++ f.body, i.result = some id ∧ i.valueType? = some type := by
  have hmem := mem_of_lookup_eq_some ht
  rw [(h.current f hf).locals, mem_rowsOf] at hmem
  obtain ⟨i, hi, hrow⟩ := hmem
  exact ⟨i, hi, Instruction.valueRow?_eq_some.1 hrow⟩

/-- A global is not hidden by the open function. -/
theorem localType?_eq_none (h : Consistent ⟨d, ids⟩) (hid : id ∈ resultsOf d.sections.globals) :
    d.localType? id = none := by
  unfold Draft.localType?
  cases hf : d.current with
  | none => rfl
  | some f =>
      cases ht : f.locals.lookup id with
      | none => exact ht
      | some type =>
          exfalso
          obtain ⟨i, hi, hresult, -⟩ := h.exists_local hf ht
          have hclosed : f.closed ∈ d.bodies := by
            rw [Draft.bodies_of_some hf]
            exact List.mem_append_right _ List.mem_cons_self
          have hbody : id ∈ d.bodies.flatMap fun f => resultsOf f.instructions :=
            List.mem_flatMap.2 ⟨f.closed, hclosed,
              mem_resultsOf.2 ⟨i, f.closed.mem_instructions hi, hresult⟩⟩
          have hnodup := h.nodup_definedIds
          rw [Draft.definedIds_eq] at hnodup
          exact (List.nodup_append.1 hnodup).2.2 id (List.mem_append_right _ hid) id hbody rfl

/-- A global is one of these. -/
theorem entry (h : Consistent ⟨d, ids⟩) {i : Instruction} (hi : i ∈ d.sections.globals) :
    d.Entry i := Draft.entry_lexicon.1 (h.entries i hi)

/-- What a global says about its value is known. -/
theorem typeOf?_of_mem (h : Consistent ⟨d, ids⟩) {i : Instruction} {type : Id}
    (hi : i ∈ d.sections.globals) (hrow : i.valueRow? = some (id, type)) :
    d.typeOf? id = some type := by
  have hresult : i.result = some id := (Instruction.valueRow?_eq_some.1 hrow).1
  have hlocal : d.localType? id = none :=
    h.localType?_eq_none (mem_resultsOf.2 ⟨i, hi, hresult⟩)
  have hvalues : d.tables.globals = rowsOf Instruction.valueRow? d.sections.globals := h.values
  have hmem : (id, type) ∈ d.tables.globals := by
    rw [hvalues, mem_rowsOf]
    exact ⟨i, hi, hrow⟩
  have hlookup : d.tables.globals.lookup id = some type :=
    lookup_eq_some_of_mem h.nodup_values hmem
  simp [Draft.typeOf?, hlocal, Draft.globalType?, hlookup]

/-- **A known constant is defined by its instruction.** -/
theorem exists_constant (h : Consistent ⟨d, ids⟩) {key : ConstantKey}
    (hk : d.tables.constants.lookup key = some id) :
    ∃ (c : Constant) (type : Id), d.Interned c.type type ∧ key = c.key type ∧
      c.definition type id ∈ d.sections.globals := by
  have hmem := mem_of_lookup_eq_some hk
  have hconstants : d.tables.constants = rowsOf Instruction.constantRow? d.sections.globals :=
    h.constants
  rw [hconstants, mem_rowsOf] at hmem
  obtain ⟨i, hi, hrow⟩ := hmem
  cases h.entry hi with
  | type ht =>
      rw [ht.constantRow?] at hrow
      cases hrow
  | @constant c type ht target =>
      rw [c.constantRow?_definition] at hrow
      cases hrow
      exact ⟨c, type, ht, rfl, hi⟩
  | «variable» => cases hrow

/-- A spare id is not that of a type. -/
theorem ne_of_lookup {target : Id} {t : DataType} (h : Consistent ⟨d, id :: ids⟩)
    (ht : d.tables.dataTypes.lookup target = some t) : target ≠ id := by
  rintro rfl
  have hdefined : target ∈ d.definedIds := by
    rw [Draft.definedIds_eq]
    exact List.mem_append_left _ (List.mem_append_right _ (h.mem_globals_of_dataTypes ht))
  have hdisjoint := (List.nodup_append.1 h.nodup).2.2
  exact hdisjoint target hdefined target (List.mem_append_right _ List.mem_cons_self) rfl

/-- A spare id is not that of a function. -/
theorem lookup_functions (h : Consistent ⟨d, id :: ids⟩) :
    d.tables.functions.lookup id = none := by
  cases hlookup : d.tables.functions.lookup id with
  | none => rfl
  | some s =>
      exfalso
      obtain ⟨f, hf, hrow⟩ := h.exists_function hlookup
      have hresult : id ∈ resultsOf f.instructions := by
        rw [resultsOf_instructions, (Function.definition_of_signatureRow? hrow).1]
        exact List.mem_cons_self
      have hdefined : id ∈ d.definedIds := by
        rw [Draft.definedIds_eq]
        exact List.mem_append_right _ (List.mem_flatMap.2 ⟨f, hf, hresult⟩)
      have hdisjoint := (List.nodup_append.1 h.nodup).2.2
      exact hdisjoint id hdefined id (List.mem_append_right _ List.mem_cons_self) rfl

end known

/-! ### Every change keeps it -/

section step

variable {d : Draft} {id : Id} {ids : List Id}

/-- The order of the spare ids does not matter. -/
theorem perm {ids' : List Id} (h : Consistent ⟨d, ids⟩) (hids : ids.Perm ids') :
    Consistent ⟨d, ids'⟩ :=
  { h with ids := ((hids.symm.append_left _).append_left _).trans h.ids }

theorem take (h : Consistent ⟨d, ids⟩) (hroom : d.nextId.toNat + 1 < UInt32.size) :
    Consistent ⟨d.takeId, d.nextId :: ids⟩ :=
  { h with
    positive := by
      show 1 ≤ (d.nextId + 1).toNat
      have hone : (1 : UInt32).toNat = 1 := rfl
      rw [UInt32.toNat_add, hone, Nat.mod_eq_of_lt hroom]
      omega
    ids := by
      show (d.definedIds ++ (d.declaredIds ++ d.nextId :: ids)).Perm (idsBefore (d.nextId + 1))
      rw [idsBefore_succ h.positive hroom]
      refine List.Perm.trans ?_ (h.ids.append_right [d.nextId])
      rw [List.perm_iff_count]
      intro x
      simp only [List.count_append, List.count_cons, List.count_nil]
      omega }

/-- A spare id that a new global defines. -/
theorem perm_addGlobal {i : Instruction} (hi : i.result = some id) :
    ((d.addGlobal i).definedIds ++ (d.declaredIds ++ ids)).Perm
      (d.definedIds ++ (d.declaredIds ++ id :: ids)) := by
  rw [List.perm_iff_count]
  intro x
  simp only [Draft.definedIds_eq, Draft.addGlobal, Draft.bodies, resultsOf_append, resultsOf_cons,
    resultsOf_nil, hi, Option.toList_some, List.count_append, List.count_cons, List.count_nil]
  omega

theorem importSet {text : String} (h : Consistent ⟨d, id :: ids⟩) :
    Consistent ⟨d.addImport text id, ids⟩ :=
  { h with
    ids := by
      refine List.Perm.trans ?_ h.ids
      rw [List.perm_iff_count]
      intro x
      simp only [Draft.definedIds_eq, Draft.addImport, Draft.bodies, Draft.declaredIds,
        resultsOf_append, resultsOf_cons, resultsOf_nil, Instruction.defining,
        Option.toList_some, List.count_append, List.count_cons, List.count_nil]
      omega
    imports := by
      show (text, id) :: d.tables.imports = rowsOf _ (d.sections.imports ++ [_])
      rw [h.imports, rowsOf_append]
      rfl }

theorem defineType {t : DataType} {opcode : Opcode} {operands : List Operand}
    (h : Consistent ⟨d, id :: ids⟩) (hnew : d.tables.types.lookup t = none)
    (ht : d.TypeDefinition t opcode operands) :
    Consistent ⟨d.addTypeDefinition id t opcode operands, ids⟩ :=
  { h with
    ids := (perm_addGlobal rfl).trans h.ids
    types := by
      show (id, t) :: d.tables.dataTypes = readTypes (d.sections.globals ++ [_])
      have hread := h.dataType?_eq ht id
      rw [h.types] at hread
      rw [h.types, readTypes_append_singleton, readType, hread]
      rfl
    interned := by
      show (t, id) :: d.tables.types = ((id, t) :: d.tables.dataTypes).map Prod.swap
      rw [h.interned]
      rfl
    values := by
      show d.tables.globals = rowsOf _ (d.sections.globals ++ [_])
      rw [h.values, rowsOf_append, rowsOf_singleton, ht.valueRow?]
      rfl
    constants := by
      show d.tables.constants = rowsOf _ (d.sections.globals ++ [_])
      rw [h.constants, rowsOf_append, rowsOf_singleton, ht.constantRow?]
      rfl
    literals := by
      show d.tables.literals = rowsOf _ (d.sections.globals ++ [_])
      rw [h.literals, rowsOf_append, rowsOf_singleton, ht.literalRow?]
      rfl
    entries := by
      have hkeep {u : DataType} {target : Id} (hu : d.Interned u target) :
          (d.addTypeDefinition id t opcode operands).Interned u target :=
        hu.addTypeDefinition hnew opcode operands
      refine fun i hi => Draft.entry_lexicon.2 ?_
      rcases List.mem_append.1 hi with hi | hi
      · exact (Draft.entry_lexicon.1 (h.entries i hi)).mono hkeep
      · rw [List.mem_singleton.1 hi]
        exact .type (ht.mono hkeep) List.lookup_cons_self }

theorem defineConstant {key : ConstantKey} {opcode : Opcode} {type : Id} {operands : List Operand}
    (h : Consistent ⟨d, id :: ids⟩) (hk : d.ConstantDefinition key opcode type operands) :
    Consistent ⟨d.addConstantDefinition key opcode type id operands, ids⟩ := by
  have hliterals : (d.addConstantDefinition key opcode type id operands).tables.literals =
      (key.literal?.map (id, ·)).toList ++ d.tables.literals := by
    cases key <;> rfl
  -- the key decides only which literals are known, so all the rest is said of any key
  have hrest : ∃ literals, d.addConstantDefinition key opcode type id operands =
      { d with
        sections := { d.sections with
          globals := d.sections.globals ++ [.typed opcode type id operands] }
        tables := { d.tables with
          globals := (id, type) :: d.tables.globals
          constants := (key, id) :: d.tables.constants
          literals := literals } } := by
    cases key <;> exact ⟨_, rfl⟩
  obtain ⟨literals, hrest⟩ := hrest
  rw [hrest] at hliterals ⊢
  exact
    { h with
      ids := (perm_addGlobal rfl).trans h.ids
      types := by
        show d.tables.dataTypes = readTypes (d.sections.globals ++ [_])
        rw [h.types, readTypes_append_singleton, readType, hk.dataType?]
        rfl
      values := by
        show (id, type) :: d.tables.globals = rowsOf _ (d.sections.globals ++ [_])
        rw [h.values, rowsOf_append, rowsOf_singleton, hk.valueRow?]
        rfl
      constants := by
        show (key, id) :: d.tables.constants = rowsOf _ (d.sections.globals ++ [_])
        rw [h.constants, rowsOf_append, rowsOf_singleton, hk.constantRow?]
        rfl
      literals := by
        show literals = rowsOf _ (d.sections.globals ++ [_])
        rw [rowsOf_append, rowsOf_singleton, hk.literalRow?, ← h.literals]
        exact hliterals
      entries := by
        intro i hi
        rcases List.mem_append.1 hi with hi | hi
        · exact h.entries i hi
        · obtain rfl := List.mem_singleton.1 hi
          obtain ⟨c, -, rfl, rfl, ht⟩ := hk.exists_constant
          have hentry : d.lexicon.Entry (c.definition type id) :=
            Draft.entry_lexicon.2 (.constant ht id)
          exact hentry }

theorem defineVariable {storage : StorageClass} {type : Id} (h : Consistent ⟨d, id :: ids⟩) :
    Consistent ⟨d.addGlobalValue .variable type id [.storageClass storage], ids⟩ :=
  { h with
    ids := (perm_addGlobal rfl).trans h.ids
    types := by
      show d.tables.dataTypes = readTypes (d.sections.globals ++ [_])
      rw [h.types, readTypes_append_singleton]
      rfl
    values := by
      show (id, type) :: d.tables.globals = rowsOf _ (d.sections.globals ++ [_])
      rw [h.values, rowsOf_append]
      rfl
    constants := by
      show d.tables.constants = rowsOf _ (d.sections.globals ++ [_])
      rw [h.constants, rowsOf_append]
      rfl
    literals := by
      show d.tables.literals = rowsOf _ (d.sections.globals ++ [_])
      rw [h.literals, rowsOf_append]
      rfl
    entries := by
      intro i hi
      rcases List.mem_append.1 hi with hi | hi
      · exact h.entries i hi
      · rw [List.mem_singleton.1 hi]
        exact .variable storage type id }

theorem declare {s : Signature} (h : Consistent ⟨d, id :: ids⟩) :
    Consistent ⟨d.addDeclared id s, ids⟩ :=
  { h with
    ids := by
      refine List.Perm.trans ?_ h.ids
      show (d.definedIds ++ (id :: d.declaredIds ++ ids)).Perm _
      exact (List.perm_middle.symm).append_left _ }

/-- A reserved id that is no longer reserved. -/
theorem perm_removeDeclared {s : Signature} (h : Consistent ⟨d, ids⟩)
    (hd : d.tables.declared.lookup id = some s) :
    d.declaredIds.Perm (id :: (d.removeDeclared id).declaredIds) := by
  have hnodup : d.declaredIds.Nodup := (List.nodup_append.1 (List.nodup_append.1 h.nodup).2.1).1
  have hmem : id ∈ d.declaredIds := List.mem_map.2 ⟨_, mem_of_lookup_eq_some hd, rfl⟩
  have hrest : (d.removeDeclared id).declaredIds = d.declaredIds.erase id := by
    rw [hnodup.erase_eq_filter]
    exact (List.filter_map (p := (· != id))).symm
  rw [hrest]
  exact List.perm_cons_erase hmem

theorem removeDeclared {s : Signature} (h : Consistent ⟨d, ids⟩)
    (hd : d.tables.declared.lookup id = some s) : Consistent ⟨d.removeDeclared id, id :: ids⟩ :=
  { h with
    ids := by
      refine List.Perm.trans ?_ h.ids
      show (d.definedIds ++ ((d.removeDeclared id).declaredIds ++ id :: ids)).Perm _
      exact (List.perm_middle.trans ((h.perm_removeDeclared hd).symm.append_right ids)).append_left _ }

/-- The function that a draft opens agrees with its instructions. -/
theorem start_kept (id : Id) (s : Signature) (control : FunctionControl) (values : List Value)
    (label : Id) : (OpenFunction.start id s control values label).Kept where
  definition := ⟨control, s.type, rfl⟩
  parameters := by
    rintro p hp
    obtain ⟨v, -, rfl⟩ := List.mem_map.1 hp
    exact ⟨v.type, v.id, rfl⟩
  label := ⟨label, rfl⟩
  locals := by
    show (values.map fun v => (v.id, v.type)).reverse = rowsOf _ (values.map _ ++ [])
    rw [List.append_nil, rowsOf, List.filterMap_map]
    exact congrArg List.reverse
      (congrFun (List.filterMap_eq_map' (f := fun v : Value => (v.id, v.type))) values).symm

/-- The results of a function that a draft opens. -/
theorem resultsOf_start (id : Id) (s : Signature) (control : FunctionControl) (values : List Value)
    (label : Id) : resultsOf (OpenFunction.start id s control values label).closed.instructions =
      id :: (values.map Value.id ++ [label]) := by
  have hparameters : resultsOf (values.map fun v =>
      Instruction.typed .functionParameter v.type v.id []) = values.map Value.id := by
    rw [resultsOf, List.filterMap_map]
    exact congrFun (List.filterMap_eq_map' (f := Value.id)) values
  rw [resultsOf_instructions]
  show [id] ++ (resultsOf (values.map _) ++ ([label] ++ [])) = _
  rw [hparameters]
  rfl

theorem openBody {label : Id} {s : Signature} {values : List Value} {control : FunctionControl}
    (h : Consistent ⟨d, label :: ((values.map Value.id).reverse ++ id :: ids)⟩)
    (hc : d.current = none) (hv : values.map Value.type = s.parameters) :
    Consistent ⟨d.openBody (.start id s control values label) s, ids⟩ :=
  { h with
    ids := by
      -- the ids that were spare are now those of the definition, the parameters and the label
      refine List.Perm.trans ?_ h.ids
      rw [List.perm_iff_count]
      intro x
      have hbodies : (d.openBody (.start id s control values label) s).bodies =
          d.bodies ++ [(OpenFunction.start id s control values label).closed] := by
        rw [Draft.bodies_of_none hc]
        rfl
      rw [Draft.definedIds_eq, Draft.definedIds_eq, hbodies]
      simp only [List.flatMap_append, List.flatMap_cons, List.flatMap_nil, resultsOf_start,
        Draft.openBody, Draft.declaredIds, List.count_append, List.count_cons, List.count_nil,
        List.count_reverse]
      omega
    functions := by
      have hparameters : (values.map fun v =>
          Instruction.typed .functionParameter v.type v.id []).filterMap Instruction.resultType =
            s.parameters := by
        rw [← hv, List.filterMap_map]
        exact congrFun (List.filterMap_eq_map' (f := Value.type)) values
      show (id, s) :: d.tables.functions = rowsOf _ (d.sections.functions ++ [_])
      have hfunctions : d.tables.functions = rowsOf _ d.bodies := h.functions
      rw [hfunctions, Draft.bodies_of_none hc, rowsOf_append, rowsOf_singleton]
      show _ = [(id, (⟨s.type, s.result, List.filterMap _ (values.map _)⟩ : Signature))] ++ _
      rw [hparameters]
      rfl
    current := by
      intro f hf
      obtain rfl : OpenFunction.start id s control values label = f := Option.some.inj hf
      exact start_kept id s control values label }

variable {f : OpenFunction}

/-- A longer body of the open function. -/
theorem body (is : List Instruction) {locals : List (Id × Id)} {terminated : Bool}
    (h : Consistent ⟨d, resultsOf is ++ ids⟩) (hf : d.current = some f)
    (hlocals : locals = rowsOf Instruction.valueRow? is ++ f.locals) :
    Consistent ⟨{ d with current := some { f with
      body := f.body ++ is, locals := locals, terminated := terminated } }, ids⟩ :=
  { h with
    ids := by
      refine List.Perm.trans ?_ h.ids
      rw [List.perm_iff_count]
      intro x
      rw [Draft.definedIds_eq, Draft.definedIds_eq, Draft.bodies_of_some hf]
      simp only [Draft.bodies, Option.toList_some, List.map_cons, List.map_nil,
        OpenFunction.closed, List.flatMap_append, List.flatMap_cons, List.flatMap_nil,
        resultsOf_instructions, resultsOf_append, Draft.declaredIds, List.count_append,
        List.count_nil]
      omega
    functions := by
      show d.tables.functions = rowsOf _ (d.sections.functions ++ [_])
      have hfunctions : d.tables.functions = rowsOf _ d.bodies := h.functions
      rw [hfunctions, Draft.bodies_of_some hf, rowsOf_append, rowsOf_append]
      rfl
    current := by
      intro g hg
      obtain rfl := Option.some.inj hg
      have hkept := h.current f hf
      refine ⟨hkept.definition, hkept.parameters, hkept.label, ?_⟩
      show locals = rowsOf _ (f.parameters ++ (f.body ++ is))
      rw [hlocals, hkept.locals, ← List.append_assoc, rowsOf_append _ _ is] }

theorem emit {short : Prop} {opcode : Opcode} {type : Id} {operands : List Operand}
    (h : Consistent ⟨d, id :: ids⟩) (hf : d.current = some f)
    (he : d.Emission short opcode type operands) :
    Consistent ⟨d.addResult opcode type id operands, ids⟩ := by
  rw [Draft.addResult_eq hf]
  refine body [.typed opcode type id operands] h hf ?_
  rw [rowsOf_singleton, he.valueRow?]
  rfl

theorem store {operands : List Operand} (h : Consistent ⟨d, ids⟩) (hf : d.current = some f) :
    Consistent ⟨d.addToBody (.plain .store operands), ids⟩ := by
  rw [Draft.addToBody_eq hf]
  exact body [.plain .store operands] h hf rfl

theorem leave {opcode : Opcode} {operands : List Operand} (h : Consistent ⟨d, ids⟩)
    (hf : d.current = some f) : Consistent ⟨d.addReturn (.plain opcode operands), ids⟩ := by
  rw [Draft.addReturn_eq hf]
  exact body [.plain opcode operands] h hf rfl

theorem close (h : Consistent ⟨d, ids⟩) (hf : d.current = some f) :
    Consistent ⟨d.closeBody f, ids⟩ := by
  have hbodies : (d.closeBody f).bodies = d.bodies := by
    rw [Draft.bodies_of_some hf, Draft.bodies_of_none rfl]
    rfl
  exact
    { h with
      ids := by
        have hdefined : (d.closeBody f).definedIds = d.definedIds := by
          rw [Draft.definedIds_eq, Draft.definedIds_eq, hbodies]
          rfl
        show ((d.closeBody f).definedIds ++ _).Perm _
        rw [hdefined]
        exact h.ids
      functions := by
        show d.tables.functions = rowsOf _ (d.closeBody f).bodies
        rw [hbodies]
        exact h.functions
      current := fun g hg => nomatch hg }

end step

variable {short exhausted : Prop} {a b : Account}

/-- **Every change keeps a draft consistent.** -/
theorem step (hstep : Change short exhausted a b) (h : a.Consistent) : b.Consistent := by
  cases hstep with
  | take hroom => exact h.take hroom
  | importSet => exact h.importSet
  | defineType hnew ht => exact h.defineType hnew ht
  | defineConstant _ hk => exact h.defineConstant hk
  | defineVariable => exact h.defineVariable
  | declare => exact h.declare
  | forget _ hd => exact h.removeDeclared hd
  | begin hc _ hv => exact h.openBody hc hv
  | define hc hd _ hv =>
      refine openBody ((h.removeDeclared hd).perm ?_) hc hv
      exact (List.Perm.swap _ _ _).trans (List.perm_middle.symm.cons _)
  | emit hf _ he => exact h.emit hf he
  | store hf => exact h.store hf
  | leave hf => exact h.leave hf
  | close hf => exact h.close hf
  | note hnote => exact h.congr hnote.core

/-- **Several changes keep a draft consistent.** -/
theorem after (hsteps : Changes short exhausted a b) (h : a.Consistent) : b.Consistent :=
  hsteps.preserves step h

end Consistent

/-- A property that every change of a consistent draft keeps. -/
theorem Changes.preserves_of_consistent {short exhausted : Prop} {a b : Account} {P : Account → Prop}
    (hstep : ∀ {b c : Account}, b.Consistent → Change short exhausted b c → P b → P c)
    (h : Changes short exhausted a b) (ha : a.Consistent) (hP : P a) : P b := by
  have hboth : b.Consistent ∧ P b := by
    refine h.preserves (P := fun b => b.Consistent ∧ P b) ?_ ⟨ha, hP⟩
    rintro b c hchange ⟨hb, hPb⟩
    exact ⟨hb.step hchange, hstep hb hchange hPb⟩
  exact hboth.2

end Account

end FrameShader
