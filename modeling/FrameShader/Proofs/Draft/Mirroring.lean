/-
Mirroring: the tables of a draft say just what its instructions say.

Consistency computes each table from the instructions, as a list.  Here the same is said of one id
at a time: what a table knows about an id is what the instruction with this result says, and the
table knows nothing else.  An instruction stands for one kind of thing, which its opcode tells, and no
two instructions have the same result, so an id stands for one thing only.

Main definitions:

* `FrameShader.Domain`, `FrameShader.Opcode.domain`, `FrameShader.Draft.idsOf` — what an id may stand
  for, what the result of an instruction stands for, and the ids in the tables;
* `FrameShader.DataType.constituents` — the types that a type is made of;
* `FrameShader.Function.Bears` — the signature that the instructions of a function show;
* `FrameShader.Draft.Mirrored` — what the tables know is what the instructions say.

Main results:

* `FrameShader.lookup_rowsOf` — what is looked up in a table is what its reader finds;
* `FrameShader.Draft.exists_definition` — the ids of a table are results of instructions of its kind;
* `FrameShader.Draft.tables_mirrored` — **the tables mirror the instructions after every run**.
-/

import FrameShader.Proofs.Draft.Linking
import Mathlib.Data.List.Flatten

set_option relaxedAutoImplicit false
set_option autoImplicit false

namespace FrameShader

/-! ### What ids stand for -/

/-- What an id may stand for. -/
inductive Domain where
  | types
  /-- Constants and variables of the module. -/
  | globals
  /-- Functions that are written, the open one included. -/
  | functions
  /-- Functions that are declared and not written yet. -/
  | declared
  | imports
  /-- Parameters and results of the open function. -/
  | locals
  | labels
  deriving DecidableEq

/-- What the result of an instruction stands for.  No instruction stands for a declared function. -/
def Opcode.domain : Opcode → Domain
  | .typeVoid | .typeBool | .typeInt | .typeFloat | .typeVector | .typeImage => .types
  | .typeSampler | .typeSampledImage | .typeRuntimeArray | .typeStruct => .types
  | .typePointer | .typeFunction => .types
  | .constantTrue | .constantFalse | .constant | .constantComposite | .variable => .globals
  | .function => .functions
  | .extInstImport => .imports
  | .label => .labels
  | _ => .locals

/-- Whether the instructions of the opcode define constants. -/
def Opcode.definesConstant : Opcode → Bool
  | .constantTrue | .constantFalse | .constant | .constantComposite => true
  | _ => false

/-- What stands inside a block or ends it is local to its function. -/
theorem Opcode.domain_of_place {o : Opcode} (h : o.place = .inBlock ∨ o.place = .endOfBlock) :
    o.domain = .locals := by
  cases o <;> first | rfl | (rcases h with h | h <;> cases h)

/-- The types that a type is made of. -/
def DataType.constituents : DataType → List DataType
  | .scalar _ | .sampler => []
  | .vector s _ => [.scalar s]
  | .runtimeArray t | .pointer _ t | .sampledImage t => [t]
  | .record ts => ts
  | .image shape => [.scalar shape.sampledType]
  | .function t ts => t :: ts

/-- The function shows this id and this signature: its definition names its type and its result type,
and its parameters have the types of the signature, one by one. -/
structure Function.Bears (f : Function) (id : Id) (s : Signature) : Prop where
  definition : ∃ control,
    f.definition = .typed .function s.result id [.functionControl control, .id s.type]
  parameters : f.parameters.map Instruction.resultType = s.parameters.map some

/-- The ids that the tables of a draft know as one kind of thing.  Labels are in no table. -/
def Draft.idsOf (d : Draft) : Domain → List Id
  | .types => d.tables.dataTypes.map Prod.fst
  | .globals => d.tables.globals.map Prod.fst
  | .functions => d.tables.functions.map Prod.fst
  | .declared => d.declaredIds
  | .imports => d.tables.imports.map Prod.snd
  | .locals => d.current.toList.flatMap fun f => f.locals.map Prod.fst
  | .labels => resultsOf (d.bodies.map Function.label)

/-- What the tables of a draft know is what its instructions say. -/
structure Draft.Mirrored (d : Draft) : Prop where
  /-- A type and its id are found from each other. -/
  inverse : ∀ t id, d.tables.types.lookup t = some id ↔ d.tables.dataTypes.lookup id = some t
  /-- The ids of types are those that definitions of types define. -/
  types : ∀ id, (∃ t, d.tables.dataTypes.lookup id = some t) ↔
    ∃ i ∈ d.sections.globals, i.opcode.domain = .types ∧ i.result = some id
  /-- The definition of a type stands for it. -/
  typeAt : ∀ id t, d.tables.dataTypes.lookup id = some t → typeAt? d.sections.globals id = some t
  /-- Every type that an interned type is made of, however deep, is interned. -/
  parts : ∀ t id, d.tables.types.lookup t = some id →
    ∀ p, Relation.TransGen (fun p t => p ∈ DataType.constituents t) p t →
      ∃ id', d.tables.types.lookup p = some id'
  globals : ∀ id type, d.tables.globals.lookup id = some type ↔
    ∃ i ∈ d.sections.globals,
      i.opcode.domain = .globals ∧ i.result = some id ∧ i.resultType = some type
  literals : ∀ id value, d.tables.literals.lookup id = some value ↔
    ∃ i ∈ d.sections.globals,
      i.opcode = .constant ∧ i.result = some id ∧ i.operands = [value.operand]
  constants : ∀ id, id ∈ d.tables.constants.map Prod.snd ↔
    ∃ i ∈ d.sections.globals, i.opcode.definesConstant = true ∧ i.result = some id
  /-- The functions are the closed ones and the open one. -/
  functions : ∀ id s, d.tables.functions.lookup id = some s ↔ ∃ f ∈ d.bodies, f.Bears id s
  locals : ∀ f, d.current = some f → ∀ id type, f.locals.lookup id = some type ↔
    ∃ i ∈ f.parameters ++ f.body, i.result = some id ∧ i.resultType = some type
  /-- An id stands for one kind of thing. -/
  apart : ∀ k l id, id ∈ d.idsOf k → id ∈ d.idsOf l → k = l
  below : ∀ k, ∀ id ∈ d.idsOf k, 1 ≤ id ∧ id < d.bound

/-! ### Looking up what a reader finds -/

/-- **What is looked up in a table is what its reader finds**, if the reader enters each thing under
its own id. -/
theorem lookup_rowsOf {α β : Type} {reader : α → Option (Id × β)} {k : α → Option Id}
    (hkey : ∀ x row, reader x = some row → k x = some row.1) {xs : List α}
    (h : (xs.filterMap k).Nodup) {id : Id} {b : β} :
    (rowsOf reader xs).lookup id = some b ↔ ∃ x ∈ xs, reader x = some (id, b) := by
  have hkeys : ((xs.filterMap reader).map Prod.fst).Sublist (xs.filterMap k) := by
    clear h
    induction xs with
    | nil => exact .refl []
    | cons x xs ih =>
        cases hrow : reader x with
        | none =>
            rw [List.filterMap_cons_none hrow]
            exact ih.trans ((List.sublist_cons_self x xs).filterMap k)
        | some row =>
            rw [List.filterMap_cons_some hrow, List.filterMap_cons_some (hkey x row hrow)]
            exact ih.cons_cons row.1
  have hnodup : ((rowsOf reader xs).map Prod.fst).Nodup := by
    rw [rowsOf, List.map_reverse, List.nodup_reverse]
    exact hkeys.nodup h
  rw [← mem_rowsOf]
  exact ⟨mem_of_lookup_eq_some, lookup_eq_some_of_mem hnodup⟩

/-- A key of a table is what something is looked up by. -/
theorem mem_keys_iff {α β : Type} [BEq α] [LawfulBEq α] {table : List (α × β)}
    (h : (table.map Prod.fst).Nodup) {a : α} :
    a ∈ table.map Prod.fst ↔ ∃ b, table.lookup a = some b := by
  constructor
  · intro ha
    obtain ⟨⟨a, b⟩, hmem, rfl⟩ := List.mem_map.1 ha
    exact ⟨b, lookup_eq_some_of_mem h hmem⟩
  · rintro ⟨b, hb⟩
    exact List.mem_map_of_mem (f := Prod.fst) (mem_of_lookup_eq_some hb)

namespace Instruction

/-- Only a function has another type as a value than its instruction. -/
theorem valueType?_of_ne {i : Instruction} (h : i.opcode ≠ .function) :
    i.valueType? = i.resultType := by
  unfold valueType?
  split
  · next hopcode _ => exact absurd hopcode h
  · rfl

theorem literalOf?_eq_some {operand : Operand} {value : Literal} :
    literalOf? operand = some value ↔ operand = value.operand := by
  cases operand <;> cases value <;> simp [literalOf?, Literal.operand]

/-- The bits of a scalar constant are read off its only operand. -/
theorem literalRow?_eq_some {i : Instruction} {id : Id} {value : Literal} :
    i.literalRow? = some (id, value) ↔
      i.opcode = .constant ∧ i.result = some id ∧ i.operands = [value.operand] := by
  constructor
  · intro h
    unfold literalRow? at h
    split at h
    · next hopcode hresult hoperands =>
        obtain ⟨value, hvalue, hrow⟩ := Option.map_eq_some_iff.1 h
        cases hrow
        exact ⟨hopcode, hresult, by rw [hoperands, literalOf?_eq_some.1 hvalue]⟩
    · cases h
  · rintro ⟨hopcode, hresult, hoperands⟩
    rw [literalRow?, hopcode, hresult, hoperands]
    exact Option.map_eq_some_iff.2 ⟨value, literalOf?_eq_some.2 rfl, rfl⟩

theorem opcode_of_importRow? {i : Instruction} {text : String} {id : Id}
    (h : i.importRow? = some (text, id)) : i.opcode = .extInstImport ∧ i.result = some id := by
  unfold importRow? at h
  split at h
  · next hopcode hresult _ =>
      cases h
      exact ⟨hopcode, hresult⟩
  · cases h

end Instruction

/-! ### What globals say -/

namespace Draft

variable {d : Draft}

theorem TypeDefinition.domain {t : DataType} {opcode : Opcode} {operands : List Operand}
    (h : d.TypeDefinition t opcode operands) : opcode.domain = .types := by
  cases h <;> rfl

/-- The parts of a type are interned before it is defined. -/
theorem TypeDefinition.constituents {t : DataType} {opcode : Opcode} {operands : List Operand}
    (h : d.TypeDefinition t opcode operands) : ∀ p ∈ t.constituents, ∃ id, d.Interned p id := by
  have hall {ts : List DataType} {ids : List Id} (hts : List.Forall₂ d.Interned ts ids) :
      ∀ p ∈ ts, ∃ id, d.Interned p id := by
    intro p hp
    obtain ⟨id, -, hid⟩ := exists_of_mem_left hts hp
    exact ⟨id, hid⟩
  cases h with
  | void | bool | int | float | sampler => exact fun _ hp => absurd hp List.not_mem_nil
  | vector _ _ hpart | image hpart => exact List.forall_mem_singleton.2 ⟨_, hpart⟩
  | runtimeArray hpart | pointer hpart | sampledImage hpart =>
      exact List.forall_mem_singleton.2 ⟨_, hpart⟩
  | record hts => exact hall hts
  | function hresult hts => exact List.forall_mem_cons.2 ⟨⟨_, hresult⟩, hall hts⟩

end Draft

namespace Constant

theorem domain_opcode (c : Constant) : c.opcode.domain = .globals := by
  cases c with
  | bool value => cases value <;> rfl
  | scalar | composite => rfl

theorem definesConstant_opcode (c : Constant) : c.opcode.definesConstant = true := by
  cases c with
  | bool value => cases value <;> rfl
  | scalar | composite => rfl

end Constant

namespace Draft.Entry

variable {d : Draft} {i : Instruction} {id : Id}

/-- The globals with a value are the constants and the variables. -/
theorem valueRow?_eq_some (h : d.Entry i) {type : Id} : i.valueRow? = some (id, type) ↔
    i.opcode.domain = .globals ∧ i.result = some id ∧ i.resultType = some type := by
  cases h with
  | type ht =>
      rw [ht.valueRow?]
      exact iff_of_false (by simp) fun h => absurd (ht.domain.symm.trans h.1) (by decide)
  | @constant c =>
      rw [c.valueRow?_definition]
      simp [Constant.definition, Instruction.typed, c.domain_opcode]
  | «variable» =>
      rw [Instruction.valueRow?_eq_some]
      exact (and_iff_right rfl).symm

/-- The globals that are interned as constants are the constants. -/
theorem constantRow?_eq_some (h : d.Entry i) : (∃ key, i.constantRow? = some (key, id)) ↔
    i.opcode.definesConstant = true ∧ i.result = some id := by
  cases h with
  | type ht =>
      rw [ht.constantRow?]
      refine iff_of_false (by simp) fun h => ?_
      cases ht <;> cases h.1
  | @constant c =>
      rw [c.constantRow?_definition]
      simp [Constant.definition, Instruction.typed, c.definesConstant_opcode]
  | «variable» =>
      refine iff_of_false ?_ fun h => ?_
      · rintro ⟨key, hkey⟩
        cases hkey
      · cases h.1

end Draft.Entry

/-! ### What functions say -/

namespace Function

variable {f : Function} {globals : List Instruction} {result : Id}

/-- A function that begins as it should shows the signature that is read off it. -/
theorem Heads.signatureRow?_eq_some (h : f.Heads globals result) {id : Id} {s : Signature} :
    f.signatureRow? = some (id, s) ↔ f.Bears id s := by
  obtain ⟨target, control, type, parameters, hdefinition, -, hparameters⟩ := h.signature
  have htypes : f.parameters.map Instruction.resultType = parameters.map some := by
    refine List.forall₂_eq_eq_eq ▸ List.forall₂_map_left_iff.2 (List.forall₂_map_right_iff.2 ?_)
    refine hparameters.imp ?_
    rintro p t ⟨q, rfl⟩
    rfl
  have hread : f.parameters.filterMap Instruction.resultType = parameters := by
    have hvalues := congrArg (List.filterMap fun type => type) htypes
    rw [List.filterMap_map, List.filterMap_map] at hvalues
    exact hvalues.trans List.filterMap_some
  have hrow : f.signatureRow? = some (target, ⟨type, result, parameters⟩) := by
    rw [signatureRow?, hdefinition, hread]
    rfl
  rw [hrow]
  constructor
  · rintro ⟨⟩
    exact ⟨⟨control, hdefinition⟩, htypes⟩
  · rintro ⟨⟨control', hdefinition'⟩, htypes'⟩
    rw [hdefinition] at hdefinition'
    cases hdefinition'
    rw [htypes] at htypes'
    rw [List.map_injective_iff.2 (Option.some_injective Id) htypes']

end Function

namespace Draft

variable {d : Draft} {ids : List Id}

/-- What the open function has written so far is local to it. -/
theorem Shaped.domain_of_local (h : d.Shaped) {f : OpenFunction} (hf : d.current = some f)
    {i : Instruction} (hi : i ∈ f.parameters ++ f.body) : i.opcode.domain = .locals := by
  rcases List.mem_append.1 hi with hi | hi
  · obtain ⟨_, _, _, _, -, -, hparameters⟩ := (h.begun f hf).signature
    obtain ⟨t, -, q, rfl⟩ := exists_of_mem_left hparameters hi
    rfl
  · refine Opcode.domain_of_place ?_
    cases hterminated : f.terminated with
    | false => exact .inl (h.unfinished f hf hterminated i hi)
    | true =>
        obtain ⟨steps, last, hbody, hsteps, hlast⟩ := h.returned f hf hterminated
        rw [show f.body = steps ++ [last] from hbody, List.mem_append, List.mem_singleton] at hi
        rcases hi with hi | rfl
        · exact .inl (hsteps i hi)
        · cases hlast <;> exact .inr rfl

/-- The ids of functions are different. -/
theorem nodup_functions (h : Account.Consistent ⟨d, ids⟩) :
    (d.bodies.filterMap fun f => f.definition.result).Nodup := by
  have hall := h.nodup_definedIds
  rw [definedIds_eq] at hall
  refine ((List.nodup_append.1 hall).2.1).sublist ?_
  rw [List.filterMap_eq_flatMap_toList]
  refine List.Sublist.flatMap_right _ fun f _ => ?_
  rw [resultsOf_instructions]
  exact List.sublist_append_left _ _

/-- The ids that the open function defines are different. -/
theorem nodup_locals (h : Account.Consistent ⟨d, ids⟩) {f : OpenFunction} (hf : d.current = some f) :
    (resultsOf (f.parameters ++ f.body)).Nodup := by
  have hall := h.nodup_definedIds
  rw [definedIds_eq, bodies_of_some hf, List.flatMap_append, List.flatMap_singleton,
    resultsOf_instructions] at hall
  have hclosed := (List.nodup_append.1 (List.nodup_append.1 hall).2.1).2.1
  refine (List.nodup_append.1 hclosed).2.1.sublist ?_
  rw [resultsOf_append]
  exact (List.Sublist.refl _).append (List.sublist_append_right _ _)

/-! ### Looking up ids -/

section lookup

variable {id : Id}

/-- The types of constants and variables are read off their instructions. -/
theorem lookup_globals (h : Account.Consistent ⟨d, ids⟩) {type : Id} :
    d.tables.globals.lookup id = some type ↔ ∃ i ∈ d.sections.globals,
      i.opcode.domain = .globals ∧ i.result = some id ∧ i.resultType = some type := by
  rw [show d.tables.globals = rowsOf Instruction.valueRow? d.sections.globals from h.values,
    lookup_rowsOf (fun i row hrow => (Instruction.valueRow?_eq_some.1 hrow).1) h.nodup_globals]
  exact exists_congr fun i => and_congr_right fun hi => (h.entry hi).valueRow?_eq_some

/-- The bits of scalar constants are read off their instructions. -/
theorem lookup_literals (h : Account.Consistent ⟨d, ids⟩) {value : Literal} :
    d.tables.literals.lookup id = some value ↔ ∃ i ∈ d.sections.globals,
      i.opcode = .constant ∧ i.result = some id ∧ i.operands = [value.operand] := by
  rw [show d.tables.literals = rowsOf Instruction.literalRow? d.sections.globals from h.literals,
    lookup_rowsOf (fun i row hrow => (Instruction.literalRow?_eq_some.1 hrow).2.1) h.nodup_globals]
  exact exists_congr fun i => and_congr_right fun _ => Instruction.literalRow?_eq_some

/-- The ids of interned constants are the results of their instructions. -/
theorem mem_constants (h : Account.Consistent ⟨d, ids⟩) :
    id ∈ d.tables.constants.map Prod.snd ↔
      ∃ i ∈ d.sections.globals, i.opcode.definesConstant = true ∧ i.result = some id := by
  have hconstants : d.tables.constants = rowsOf Instruction.constantRow? d.sections.globals :=
    h.constants
  have hrow : id ∈ d.tables.constants.map Prod.snd ↔
      ∃ i ∈ d.sections.globals, ∃ key, i.constantRow? = some (key, id) := by
    simp only [hconstants, List.mem_map, mem_rowsOf, Prod.exists, exists_eq_right]
    exact exists_comm.trans (exists_congr fun i => exists_and_left)
  rw [hrow]
  exact exists_congr fun i => and_congr_right fun hi => (h.entry hi).constantRow?_eq_some

/-- The ids of types are those that definitions of types define. -/
theorem exists_dataType (h : Account.Consistent ⟨d, ids⟩) :
    (∃ t, d.tables.dataTypes.lookup id = some t) ↔
      ∃ i ∈ d.sections.globals, i.opcode.domain = .types ∧ i.result = some id := by
  constructor
  · rintro ⟨t, ht⟩
    rw [h.types] at ht
    obtain ⟨init, i, hprefix, hresult, hread⟩ := exists_of_lookup_readTypes ht
    have hi : i ∈ d.sections.globals := hprefix.subset (List.mem_append_right _ List.mem_cons_self)
    refine ⟨i, hi, ?_, hresult⟩
    cases h.entry hi with
    | type hdefinition => exact hdefinition.domain
    | @constant c =>
        rw [c.dataType?_definition] at hread
        cases hread
    | «variable» => cases hread
  · rintro ⟨i, hi, hdomain, hresult⟩
    cases h.entry hi with
    | type _ hid =>
        obtain rfl := Option.some.inj hresult
        exact ⟨_, h.lookup_dataTypes hid⟩
    | @constant c => cases c.domain_opcode.symm.trans hdomain
    | «variable» => cases hdomain

/-- The signatures of functions are read off their instructions. -/
theorem lookup_functions (h : Account.Consistent ⟨d, ids⟩) (hshaped : d.Shaped) {s : Signature} :
    d.tables.functions.lookup id = some s ↔ ∃ f ∈ d.bodies, f.Bears id s := by
  rw [show d.tables.functions = rowsOf Function.signatureRow? d.bodies from h.functions,
    lookup_rowsOf (k := fun f => f.definition.result)
      (fun f row hrow => (Function.definition_of_signatureRow? hrow).1) (nodup_functions h)]
  refine exists_congr fun f => and_congr_right fun hf => ?_
  obtain ⟨result, hhead⟩ := hshaped.heads hf
  exact hhead.signatureRow?_eq_some

/-- The types of parameters and results are read off their instructions. -/
theorem lookup_locals (h : Account.Consistent ⟨d, ids⟩) (hshaped : d.Shaped) {f : OpenFunction}
    (hf : d.current = some f) {type : Id} : f.locals.lookup id = some type ↔
      ∃ i ∈ f.parameters ++ f.body, i.result = some id ∧ i.resultType = some type := by
  rw [(h.current f hf).locals, lookup_rowsOf
    (fun i row hrow => (Instruction.valueRow?_eq_some.1 hrow).1) (nodup_locals h hf)]
  refine exists_congr fun i => and_congr_right fun hi => ?_
  have hopcode : i.opcode ≠ .function := by
    intro hfunction
    have hlocal := hshaped.domain_of_local hf hi
    rw [hfunction] at hlocal
    cases hlocal
  rw [Instruction.valueRow?_eq_some, Instruction.valueType?_of_ne hopcode]

end lookup

/-! ### One thing for each id -/

/-- **The ids of a table are results of instructions of its kind**, unless they are reserved. -/
theorem exists_definition (h : Account.Consistent ⟨d, ids⟩) (hshaped : d.Shaped) {k : Domain}
    (hk : k ≠ .declared) {id : Id} (hid : id ∈ d.idsOf k) :
    ∃ i ∈ d.definitions, i.result = some id ∧ i.opcode.domain = k := by
  cases k with
  | declared => exact absurd rfl hk
  | types =>
      obtain ⟨i, hi, hdomain, hresult⟩ :=
        (exists_dataType h).1 ((mem_keys_iff h.nodup_dataTypes).1 hid)
      exact ⟨i, mem_definitions.2 (.inr (.inl hi)), hresult, hdomain⟩
  | globals =>
      obtain ⟨type, htype⟩ := (mem_keys_iff h.nodup_values).1 hid
      obtain ⟨i, hi, hdomain, hresult, -⟩ := (lookup_globals h).1 htype
      exact ⟨i, mem_definitions.2 (.inr (.inl hi)), hresult, hdomain⟩
  | functions =>
      obtain ⟨⟨_, s⟩, hmem, rfl⟩ := List.mem_map.1 hid
      rw [show d.tables.functions = rowsOf Function.signatureRow? d.bodies from h.functions,
        mem_rowsOf] at hmem
      obtain ⟨f, hf, hrow⟩ := hmem
      -- by its shape, what the row was read off is the definition of a function
      obtain ⟨result, hhead⟩ := hshaped.heads hf
      obtain ⟨control, hdefinition⟩ := (hhead.signatureRow?_eq_some.1 hrow).definition
      refine ⟨f.definition, mem_definitions.2 (.inr (.inr ⟨f, hf, List.mem_cons_self⟩)), ?_, ?_⟩
      · rw [hdefinition]
        rfl
      · rw [hdefinition]
        rfl
  | imports =>
      obtain ⟨⟨text, _⟩, hmem, rfl⟩ := List.mem_map.1 hid
      rw [show d.tables.imports = rowsOf Instruction.importRow? d.sections.imports from h.imports,
        mem_rowsOf] at hmem
      obtain ⟨i, hi, hrow⟩ := hmem
      obtain ⟨hopcode, hresult⟩ := Instruction.opcode_of_importRow? hrow
      exact ⟨i, mem_definitions.2 (.inl hi), hresult, by rw [hopcode]; rfl⟩
  | locals =>
      obtain ⟨f, hf, hid⟩ := List.mem_flatMap.1 hid
      rw [Option.mem_toList] at hf
      obtain ⟨⟨_, type⟩, hmem, rfl⟩ := List.mem_map.1 hid
      rw [(h.current f hf).locals, mem_rowsOf] at hmem
      obtain ⟨i, hi, hrow⟩ := hmem
      -- the open function counts as a body, closed as it stands
      have hclosed : f.closed ∈ d.bodies :=
        List.mem_append_right _ (List.mem_map_of_mem (Option.mem_toList.2 hf))
      exact ⟨i, mem_definitions.2 (.inr (.inr ⟨f.closed, hclosed, f.closed.mem_instructions hi⟩)),
        (Instruction.valueRow?_eq_some.1 hrow).1, hshaped.domain_of_local hf hi⟩
  | labels =>
      obtain ⟨i, hi, hresult⟩ := mem_resultsOf.1 hid
      obtain ⟨f, hf, rfl⟩ := List.mem_map.1 hi
      obtain ⟨result, hhead⟩ := hshaped.heads hf
      obtain ⟨label, hlabel⟩ := hhead.label
      refine ⟨f.label, mem_definitions.2 (.inr (.inr ⟨f, hf, ?_⟩)), hresult, by rw [hlabel]; rfl⟩
      simp [Function.instructions]

/-- An id that a table knows is defined or reserved, and not both. -/
theorem eq_of_mem_idsOf (h : Account.Consistent ⟨d, ids⟩) (hshaped : d.Shaped) {k l : Domain}
    {id : Id} (hk : id ∈ d.idsOf k) (hl : id ∈ d.idsOf l) : k = l := by
  have hapart {k : Domain} (hne : k ≠ .declared) (hk : id ∈ d.idsOf k) :
      id ∉ d.idsOf .declared := by
    intro hdeclared
    obtain ⟨i, hi, hresult, -⟩ := exists_definition h hshaped hne hk
    exact (List.nodup_append.1 h.nodup).2.2 id (mem_resultsOf.2 ⟨i, hi, hresult⟩) id
      (List.mem_append_left _ hdeclared) rfl
  by_cases hkd : k = .declared
  · by_cases hld : l = .declared
    · rw [hkd, hld]
    · exact absurd (hkd ▸ hk) (hapart hld hl)
  · by_cases hld : l = .declared
    · exact absurd (hld ▸ hl) (hapart hkd hk)
    · obtain ⟨i, hi, hid, rfl⟩ := exists_definition h hshaped hkd hk
      obtain ⟨j, hj, hjd, rfl⟩ := exists_definition h hshaped hld hl
      rw [eq_of_results h.nodup_definedIds hi hj hid hjd]

/-- The ids of the tables have been handed out. -/
theorem lt_bound_of_mem_idsOf (h : Account.Consistent ⟨d, ids⟩) (hshaped : d.Shaped) {k : Domain}
    {id : Id} (hid : id ∈ d.idsOf k) : 1 ≤ id ∧ id < d.bound := by
  refine mem_idsBefore.1 (h.ids.subset ?_)
  by_cases hk : k = .declared
  · subst hk
    exact List.mem_append_right _ (List.mem_append_left _ hid)
  · obtain ⟨i, hi, hresult, -⟩ := exists_definition h hshaped hk hid
    exact List.mem_append_left _ (mem_resultsOf.2 ⟨i, hi, hresult⟩)

/-! ### All tables -/

/-- The parts of an interned type are interned. -/
theorem interned_constituents (h : Account.Consistent ⟨d, ids⟩) {t p : DataType} {id : Id}
    (ht : d.Interned t id) (hp : Relation.TransGen (fun p t => p ∈ DataType.constituents t) p t) :
    ∃ id', d.Interned p id' := by
  induction hp generalizing id with
  | single hp =>
      obtain ⟨opcode, operands, hdefinition, -⟩ := h.exists_type ht
      exact hdefinition.constituents _ hp
  | tail _ hp ih =>
      obtain ⟨opcode, operands, hdefinition, -⟩ := h.exists_type ht
      obtain ⟨id', hid'⟩ := hdefinition.constituents _ hp
      exact ih hid'

/-- **The tables of a draft mirror its instructions**, if it is consistent, interns everything once,
and its functions have their shape. -/
theorem Mirrored.intro (h : Account.Consistent ⟨d, ids⟩) (hunique : Account.Unique ⟨d, ids⟩)
    (hshaped : d.Shaped) : d.Mirrored where
  inverse _ _ := ⟨h.lookup_dataTypes, hunique.interned h⟩
  types _ := exists_dataType h
  typeAt _ _ ht := h.typeAt?_eq (hunique.interned h ht)
  parts _ _ ht _ := interned_constituents h ht
  globals _ _ := lookup_globals h
  literals _ _ := lookup_literals h
  constants _ := mem_constants h
  functions _ _ := lookup_functions h hshaped
  locals _ hf _ _ := lookup_locals h hshaped hf
  apart _ _ _ := eq_of_mem_idsOf h hshaped
  below _ _ := lt_bound_of_mem_idsOf h hshaped

end Draft

/-! ### Reserved ids -/

/-- Whether the call was to open the function for which this id was reserved, and found the ids used
up. -/
def hasLost (id : Id) : Operation × Except Failure Answer → Bool
  | (.defineFunction target _ _ _ _, .error (.overflow .increment)) => target == id
  | _ => false

namespace Build

variable {α β : Type} {R : Draft → Prop} {L d : Draft}

/-- If the call fails, then the links that it leaves behind satisfy `R`. -/
def Fails (R : Draft → Prop) (call : Build α) (d : Draft) : Prop :=
  ∀ e d', call.runOn d = (.error e, d') → R d'.linkage

namespace Fails

/-- A call that keeps the links does so when it fails. -/
theorem of_keeps {call : Build α} [hcall : Keeps call] (hL : d.linkage = L) (hR : R L) :
    Fails R call d := by
  intro e d' hrun
  have hsame := hcall.linkage d
  rw [hrun, hL] at hsame
  exact hsame ▸ hR

/-- Going on after a call that keeps the links. -/
theorem keeps {call : Build α} [hcall : Keeps call] {next : α → Build β} (hL : d.linkage = L)
    (hR : R L) (h : ∀ v d', d'.linkage = L → Fails R (next v) d') : Fails R (call >>= next) d := by
  intro e d' hrun
  have hsame := (hcall.linkage d).trans hL
  rw [runOn_bind] at hrun
  rcases hfirst : call.runOn d with ⟨e' | v, d₁⟩
  · rw [hfirst] at hrun hsame
    cases hrun
    exact hsame ▸ hR
  · rw [hfirst] at hrun hsame
    exact h v d₁ hsame e d' hrun

theorem reject {cause : BuildError} {next : α → Build β} (hL : d.linkage = L) (hR : R L) :
    Fails R (Build.reject cause >>= next) d := by
  rintro e d' ⟨⟩
  exact hL ▸ hR

theorem pure (v : α) : Fails R (Pure.pure v) d := fun _ _ hrun => nomatch hrun

/-- Changing the draft and going on. -/
theorem modify {f : Draft → Draft} {next : PUnit → Build β} (h : Fails R (next ⟨⟩) (f d)) :
    Fails R ((modify f : Build PUnit) >>= next) d := h

/-- Rephrasing the answer. -/
theorem map {f : α → β} {call : Build α} (h : Fails R call d) : Fails R (f <$> call) d := by
  intro e d' hrun
  rw [runOn_map] at hrun
  rcases hfirst : call.runOn d with ⟨e' | v, d₁⟩
  · rw [hfirst] at hrun
    cases hrun
    exact h e _ hfirst
  · rw [hfirst] at hrun
    cases hrun

end Fails

variable (result : DataType) (parameters : List DataType) (text : String)

theorem declareFunction_fails (hR : R d.linkage) :
    Fails R (declareFunction result parameters) d :=
  .keeps rfl hR fun _ _ hd => .keeps hd hR fun id _ _ => .modify (.pure id)

theorem beginEntryPoint_fails (interface : List Value) (hR : R d.linkage) :
    Fails R (beginEntryPoint text interface) d :=
  .keeps rfl hR fun _ _ hd => .keeps hd hR fun f _ _ => .modify (.pure f)

theorem endFunction_fails (hR : R d.linkage) : Fails R endFunction d := by
  intro e d' hrun
  rw [endFunction, runOn_bind_of_ok (runOn_get d)] at hrun
  split at hrun
  · cases hrun
    exact hR
  · split at hrun
    · cases hrun
      exact hR
    · cases hrun

/-- What was reserved is no longer so once the signature has turned out to be the promised one. -/
theorem defineFunction_fails (id : Id) (control : FunctionControl) (hR : R d.linkage)
    (hremoved : R (d.removeDeclared id).linkage) :
    Fails R (defineFunction id text result parameters control) d := by
  refine .keeps rfl hR fun _ _ hd => .keeps hd hR fun declared _ hd => .keeps hd hR fun s d' hd => ?_
  by_cases hdiffers : declared ≠ s
  · simp only [if_pos hdiffers]
    exact .keeps hd hR fun _ _ hd => .keeps hd hR fun _ _ hd => .reject hd hR
  · simp only [if_neg hdiffers]
    have hlinkage : (d'.removeDeclared id).linkage = (d.removeDeclared id).linkage := by
      show (d'.linkage.removeDeclared id).linkage = (d.linkage.removeDeclared id).linkage
      rw [hd]
    exact .modify (.keeps hlinkage hremoved fun _ _ hd => .of_keeps hd hremoved)

end Build

namespace Draft

variable {d : Draft}

/-- **A call that fails reserves nothing**, and only a call that was to open a declared function takes
back what was reserved. -/
theorem declared_of_error (o : Operation) {e : Failure} (h : (o.run.runOn d).1 = .error e) :
    (d.step o).tables.declared = d.tables.declared ∨
      ∃ id text result parameters control, o = .defineFunction id text result parameters control ∧
        (d.step o).tables.declared = (d.removeDeclared id).tables.declared := by
  have hfails : Build.Fails (fun l => l.tables.declared = d.tables.declared ∨
      ∃ id text result parameters control, o = .defineFunction id text result parameters control ∧
        l.tables.declared = (d.removeDeclared id).tables.declared) o.run d := by
    cases hlink : o.isLink with
    | false =>
        have hkeeps := o.run_keeps hlink
        exact .of_keeps rfl (.inl rfl)
    | true =>
        cases o with
        | declareFunction result parameters =>
            exact .map (Build.declareFunction_fails result parameters (.inl rfl))
        | defineFunction id text result parameters control =>
            exact .map (Build.defineFunction_fails result parameters text id control (.inl rfl)
              (.inr ⟨id, text, result, parameters, control, rfl, rfl⟩))
        | beginEntryPoint text interface =>
            exact .map (Build.beginEntryPoint_fails text interface (.inl rfl))
        | endFunction => exact .map (Build.endFunction_fails (.inl rfl))
        | _ => cases hlink
  exact hfails e _ (Prod.ext h rfl)

section steps

variable {a b : Account} {o : Operation}

/-- What is reserved was reserved before or by the call. -/
theorem mem_declaredIds_of_step (ha : a.Consistent) (hb : b.draft = a.draft.step o) {id : Id}
    (hid : id ∈ b.draft.declaredIds) :
    id ∈ a.draft.declaredIds ∨ hasReserved id (o, (o.run.runOn a.draft).1) = true := by
  have hlinks := o.run_links ha
  rw [← hb] at hlinks
  have hsame (h : b.draft.tables.declared = a.draft.tables.declared) :
      id ∈ a.draft.declaredIds := by
    rwa [declaredIds, h] at hid
  have hfewer {target : Id}
      (h : b.draft.tables.declared = (a.draft.removeDeclared target).tables.declared) :
      id ∈ a.draft.declaredIds := by
    rw [declaredIds, h] at hid
    exact List.map_subset _ (List.filter_subset_self _) hid
  generalize hanswer : (o.run.runOn a.draft).1 = answer at hlinks
  cases hlinks with
  | same hlinkage | entryPoint _ _ hlinkage | close _ _ _ hlinkage =>
      exact .inl (hsame (eq_of_linkage hlinkage).2.1)
  | exhausted =>
      -- without ids a call reserves nothing, and it drops one reserved id at most
      rcases declared_of_error o hanswer with hdeclared | ⟨target, _, _, _, _, -, hdeclared⟩
      · exact .inl (hsame (hb ▸ hdeclared))
      · exact .inl (hfewer (hb ▸ hdeclared))
  | define _ _ _ hlinkage => exact .inl (hfewer (eq_of_linkage hlinkage).2.1)
  | @declare _ _ target s hlinkage =>
      have hdeclared : b.draft.declaredIds = target :: a.draft.declaredIds :=
        congrArg (·.map Prod.fst) (eq_of_linkage hlinkage).2.1
      rw [hdeclared, List.mem_cons] at hid
      exact hid.symm.imp_right fun heq => beq_iff_eq.2 heq.symm

/-- What may be called, or has been reserved by the call, may be called afterwards, or the call has lost
it. -/
theorem mem_callees_of_step (ha : a.Consistent) (hb : b.draft = a.draft.step o)
    (hstep : a.Changes False ((o.run.runOn a.draft).1 = .error (.overflow .increment)) b) {id : Id}
    (hid : id ∈ a.draft.callees ∨ hasReserved id (o, (o.run.runOn a.draft).1) = true) :
    id ∈ b.draft.callees ∨ hasLost id (o, (o.run.runOn a.draft).1) = true := by
  have hlinks := o.run_links ha
  rw [← hb] at hlinks
  -- a call that runs out of ids may have dropped the reserved id that it was to define
  by_cases hexhausted : (o.run.runOn a.draft).1 = .error (.overflow .increment)
  · have hreserved : hasReserved id (o, (o.run.runOn a.draft).1) = false := by
      rw [hexhausted]
      cases o <;> rfl
    rw [hreserved] at hid
    rcases List.mem_append.1 (hid.resolve_right Bool.false_ne_true) with hid | hid
    · exact .inl (List.mem_append_left _ ((hstep.extends ha).functionIds hid))
    rcases declared_of_error o hexhausted with hdeclared | ⟨target, _, _, _, _, ho, hdeclared⟩
    · rw [← hb] at hdeclared
      refine .inl (List.mem_append_right _ ?_)
      rwa [declaredIds, hdeclared]
    · rw [← hb] at hdeclared
      by_cases heq : target = id
      · rw [hexhausted, ho]
        exact .inr (beq_iff_eq.2 heq)
      · refine .inl (List.mem_append_right _ ?_)
        obtain ⟨⟨_, s⟩, hmem, rfl⟩ := List.mem_map.1 hid
        rw [declaredIds, hdeclared]
        exact List.mem_map_of_mem (f := Prod.fst)
          (List.mem_filter.2 ⟨hmem, bne_iff_ne.2 (Ne.symm heq)⟩)
  · rcases hid with hid | hid
    · exact .inl ((hstep.mono hexhausted).callees ha hid)
    · generalize (o.run.runOn a.draft).1 = answer at hlinks hid
      cases hlinks with
      | same _ hfails =>
          rw [(hasReserved_eq_false hfails id).1] at hid
          cases hid
      | @declare _ _ target s hlinkage =>
          obtain rfl : target = id := beq_iff_eq.1 hid
          have hdeclared : b.draft.declaredIds = target :: a.draft.declaredIds :=
            congrArg (·.map Prod.fst) (eq_of_linkage hlinkage).2.1
          refine .inl (List.mem_append_right _ ?_)
          rw [hdeclared]
          exact List.mem_cons_self
      | @exhausted o => cases o <;> cases hid
      | define | entryPoint | close => cases hid

end steps

/-- What is reserved after a run was reserved before or by a call of the run. -/
theorem mem_declaredIds_of_after (os : List Operation) {a : Account} (ha : a.Consistent) {id : Id}
    (hid : id ∈ (a.draft.after os).declaredIds) : id ∈ a.draft.declaredIds ∨
      ∃ call ∈ a.draft.transcript os, hasReserved id call = true := by
  induction os generalizing a with
  | nil => exact .inl hid
  | cons o os ih =>
      obtain ⟨b, hb, hstep, -⟩ := step_changes False o ha False.elim
      rw [after_cons, ← hb] at hid
      rw [transcript, ← hb]
      rcases ih (ha.after hstep) hid with hid | ⟨call, hcall, hreserved⟩
      · exact (mem_declaredIds_of_step ha hb hid).imp_right fun h => ⟨_, List.mem_cons_self, h⟩
      · exact .inr ⟨call, List.mem_cons_of_mem _ hcall, hreserved⟩

/-- What may be called, or has been reserved by a call of a run, may be called after the run, or a call
of the run has lost it. -/
theorem mem_callees_of_after (os : List Operation) {a : Account} (ha : a.Consistent) {id : Id}
    (hid : id ∈ a.draft.callees ∨ ∃ call ∈ a.draft.transcript os, hasReserved id call = true) :
    id ∈ (a.draft.after os).callees ∨ ∃ call ∈ a.draft.transcript os, hasLost id call = true := by
  induction os generalizing a with
  | nil => exact .inl (hid.resolve_right fun h => by simp [transcript] at h)
  | cons o os ih =>
      obtain ⟨b, hb, hstep, -⟩ := step_changes False o ha False.elim
      simp only [transcript, List.exists_mem_cons_iff, after_cons, ← hb] at hid ⊢
      rw [← or_assoc] at hid
      rcases hid with hid | hid
      · rcases mem_callees_of_step ha hb hstep hid with hid | hlost
        · exact (ih (ha.after hstep) (.inl hid)).imp_right .inr
        · exact .inr (.inl hlost)
      · exact (ih (ha.after hstep) (.inr hid)).imp_right .inr

/-- **The tables mirror the instructions after every run**, failed calls included.  What is reserved
has been reserved by a call of the run, and no function has been written for it.  Conversely, what has
been reserved and not been written is still reserved; only a call that finds the ids used up while it
opens the function loses it, which is no answer but the end of the run. -/
theorem tables_mirrored (settings : ModuleSettings) (os : List Operation) :
    let d := (empty settings).after os
    let calls := (empty settings).transcript os
    d.Mirrored ∧
      (∀ id ∈ d.declaredIds,
        (∃ call ∈ calls, hasReserved id call = true) ∧ id ∉ d.functionIds) ∧
      ∀ id, (∃ call ∈ calls, hasReserved id call = true) → id ∉ d.functionIds →
        id ∈ d.declaredIds ∨ ∃ call ∈ calls, hasLost id call = true := by
  obtain ⟨a, ha, hchanges, hconsistent⟩ := run_account False settings os False.elim
  have hunique := hchanges.unique (.empty settings)
  have hshaped := Shaped.after hchanges
  have hempty := Account.Consistent.empty settings
  intro d calls
  refine ⟨?mirrored, fun id hid => ⟨?reserved, ?unwritten⟩, fun id hreserved hnone => ?kept⟩
  case mirrored =>
    rw [show d = a.draft from ha.symm]
    exact .intro hconsistent hunique hshaped
  case reserved =>
    exact (mem_declaredIds_of_after os hempty hid).resolve_left List.not_mem_nil
  case unwritten =>
    rw [show d = a.draft from ha.symm] at hid ⊢
    intro hfunction
    exact (List.nodup_append.1 hconsistent.nodup).2.2 id (functionIds_subset_definedIds hfunction)
      id (List.mem_append_left _ hid) rfl
  case kept =>
    refine (mem_callees_of_after os hempty (.inr hreserved)).imp_left fun hid => ?_
    exact (List.mem_append.1 hid).resolve_left hnone

/-- After the first calls of the sample, the function that is called and not written yet is reserved,
and the first type is found from its id. -/
theorem tables_mirrored_of_sample :
    let os := sampleCalls.take 7
    let d := (empty {}).after os
    let calls := (empty {}).transcript os
    (∃ call ∈ calls, hasReserved 4 call = true) ∧ 4 ∉ d.functionIds ∧ 4 ∈ d.declaredIds ∧
      typeAt? d.sections.globals 1 = some (.float 32) := by
  intro os d calls
  have hreserved : ∃ call ∈ calls, hasReserved 4 call = true := by decide +kernel
  have hlost : ¬ ∃ call ∈ calls, hasLost 4 call = true := by decide +kernel
  have hnone : 4 ∉ d.functionIds := by decide +kernel
  have htype : d.tables.dataTypes.lookup 1 = some (.float 32) := by decide +kernel
  obtain ⟨hmirrored, -, hkept⟩ := tables_mirrored {} os
  exact ⟨hreserved, hnone, (hkept 4 hreserved hnone).resolve_right hlost, hmirrored.typeAt 1 _ htype⟩

end Draft

end FrameShader
