/-
Scoping: a draft refers only to what it has defined before, or to what it has reserved.

While a draft is written, a called function may still be missing, but then its id is reserved.  The
invariant says so, and it holds as long as no reserved id is lost.

Main definitions:

* `FrameShader.Instruction.targets` — what a statement is about;
* `FrameShader.Draft.Sound` — a statement about things that are defined;
* `FrameShader.Draft.Scoped` — the invariant.

Main results:

* `FrameShader.Draft.Scoped.step` — **the invariant is kept by every change**, as long as there are
  ids.
-/

import FrameShader.Proofs.Draft.Appending
import FrameShader.Proofs.Draft.Visibility

set_option relaxedAutoImplicit false
set_option autoImplicit false

namespace FrameShader

/-! ### What a statement is about -/

/-- The ids a statement is about: the function and the interface of an entry point, and the target
of an execution mode, a name or a decoration. -/
def Instruction.targets (i : Instruction) : List Id :=
  match i.opcode, i.operands with
  | .entryPoint, operands => operands.filterMap Operand.id?
  | .executionMode, .id target :: _ => [target]
  | .debugName, .id target :: _ => [target]
  | .debugMemberName, .id target :: _ => [target]
  | .decorate, .id target :: _ => [target]
  | .memberDecorate, .id target :: _ => [target]
  | _, _ => []

/-- A variable through which data comes in or goes out. -/
def Instruction.IsInterface (v : Instruction) : Prop :=
  v.opcode = .variable ∧
    (v.operands = [.storageClass .input] ∨ v.operands = [.storageClass .output])

namespace Draft

/-- An instruction that, if it states something, does so about what is defined. -/
structure Sound (d : Draft) (i : Instruction) : Prop where
  targets : ∀ id ∈ i.targets, id ∈ d.definedIds
  /-- An entry point has a function, and its interface is made of variables. -/
  entryPoint : i.opcode = .entryPoint → ∃ function interface,
    i.targets = function :: interface ∧ function ∈ d.functionIds ∧
      ∀ id ∈ interface, ∃ v ∈ d.sections.globals, v.IsInterface ∧ v.result = some id

/-- A global that is a variable, or whose type is not that of a pointer. -/
def Plain (d : Draft) (i : Instruction) : Prop :=
  (∃ storage t type id, i = .typed .variable type id [.storageClass storage] ∧
      d.tables.dataTypes.lookup type = some (.pointer storage t)) ∨
    ∀ type, i.valueType? = some type →
      ∃ t, d.tables.dataTypes.lookup type = some t ∧ ∀ storage u, t ≠ .pointer storage u

/-- Everything in the draft refers to what it has defined before, or to what is reserved. -/
structure Scoped (d : Draft) : Prop where
  globals : InOrder [] [] d.sections.globals
  bodies : FunctionsInOrder d.callees
    (resultsOf d.sections.imports ++ resultsOf d.sections.globals) d.bodies
  functions : ∀ f ∈ d.bodies, f.definition.opcode = .function
  plain : ∀ i ∈ d.sections.globals, d.Plain i
  signatures : ∀ e ∈ d.tables.functions ++ d.tables.declared, d.HasSignature e.2
  entryPoints : ∀ e ∈ d.tables.entryPoints, e.2 ∈ d.functionIds
  sound : ∀ i ∈ d.statements ++ d.definitions, d.Sound i

variable {d d' : Draft} {i : Instruction}

/-- Nothing more is asked of what is not an entry point. -/
theorem Sound.of_defined (h : ∀ id ∈ i.targets, id ∈ d.definedIds)
    (hopcode : (i.opcode == .entryPoint) = false) : d.Sound i where
  targets := h
  entryPoint hentry := absurd (beq_iff_eq.2 hentry) (by rw [hopcode]; decide)

namespace Extends

theorem sound (h : d.Extends d') (hi : d.Sound i) : d'.Sound i where
  targets id hid := h.definedIds (hi.targets id hid)
  entryPoint hopcode := by
    obtain ⟨function, interface, htargets, hfunction, hinterface⟩ := hi.entryPoint hopcode
    refine ⟨function, interface, htargets, h.functionIds hfunction, fun id hid => ?_⟩
    obtain ⟨v, hv, hvariable⟩ := hinterface id hid
    exact ⟨v, h.globals.subset hv, hvariable⟩

theorem plain (h : d.Extends d') (hi : d.Plain i) : d'.Plain i := by
  refine hi.imp ?_ fun hi type htype => ?_
  · rintro ⟨storage, t, type, id, rfl, ht⟩
    exact ⟨storage, t, type, id, rfl, h.dataTypes ht⟩
  · obtain ⟨t, ht, hpointer⟩ := hi type htype
    exact ⟨t, h.dataTypes ht, hpointer⟩

end Extends

/-! ### What may be stated is sound -/

section statements

variable {ids : List Id}

/-- The id of an open function is that of a function. -/
theorem mem_functionIds_of_current (h : Account.Consistent ⟨d, ids⟩) {f : OpenFunction}
    (hf : d.current = some f) : f.id ∈ d.functionIds := by
  obtain ⟨control, type, hdefinition⟩ := (h.current f hf).definition
  refine mem_resultsOf.2 ⟨f.definition, List.mem_map.2 ⟨f.closed, ?_, rfl⟩, by rw [hdefinition]; rfl⟩
  rw [bodies_of_some hf]
  exact List.mem_append_right _ List.mem_cons_self

/-- A pointer that belongs to the module is a variable of its storage class. -/
theorem variable_mem (h : Account.Consistent ⟨d, ids⟩) (hplain : ∀ i ∈ d.sections.globals, d.Plain i)
    (hsignatures : ∀ e ∈ d.tables.functions ++ d.tables.declared, d.HasSignature e.2) {v : Value}
    {storage : StorageClass} {t : DataType} (htype : d.globalType? v.id = some v.type)
    (ht : d.tables.dataTypes.lookup v.type = some (.pointer storage t)) :
    d.tables.globals.lookup v.id = some v.type ∧
      .typed .variable v.type v.id [.storageClass storage] ∈ d.sections.globals := by
  unfold globalType? at htype
  split at htype
  · next type hglobal =>
      obtain rfl := Option.some.inj htype
      obtain ⟨i, hi, hresult, hvalue⟩ := h.exists_global hglobal
      refine ⟨hglobal, ?_⟩
      rcases hplain i hi with ⟨storage', u, type, id, rfl, hu⟩ | hother
      · obtain rfl : type = v.type := Option.some.inj hvalue
        obtain rfl : id = v.id := Option.some.inj hresult
        rw [ht] at hu
        obtain ⟨rfl, -⟩ := DataType.pointer.inj (Option.some.inj hu)
        exact hi
      · obtain ⟨u, hu, hne⟩ := hother _ hvalue
        exact absurd (Option.some.inj (hu.symm.trans ht)) (hne storage t)
  · -- the type of a function is not that of a pointer
    exfalso
    obtain ⟨s, hlookup, htype⟩ := Option.map_eq_some_iff.1 htype
    obtain ⟨result, parameters, hsigns⟩ :=
      hsignatures _ (List.mem_append_left _ (mem_of_lookup_eq_some hlookup))
    have hfunction := h.lookup_dataTypes hsigns.type
    rw [htype, ht] at hfunction
    cases hfunction

/-- What is exposed is a variable of an interface. -/
theorem Exposes.isInterface (h : Account.Consistent ⟨d, ids⟩) (hs : d.Scoped) {v : Value}
    (hv : d.Exposes v) :
    ∃ i ∈ d.sections.globals, i.IsInterface ∧ i.result = some v.id := by
  obtain ⟨htype, t, ht | ht⟩ := hv
  · obtain ⟨-, hvariable⟩ := variable_mem h hs.plain hs.signatures htype ht
    exact ⟨_, hvariable, ⟨rfl, Or.inl rfl⟩, rfl⟩
  · obtain ⟨-, hvariable⟩ := variable_mem h hs.plain hs.signatures htype ht
    exact ⟨_, hvariable, ⟨rfl, Or.inr rfl⟩, rfl⟩

/-- **What may be stated is sound.** -/
theorem Statement.sound (h : Account.Consistent ⟨d, ids⟩) (hs : d.Scoped) (hi : d.Statement i) :
    d.Sound i := by
  cases hi with
  | capability | extension | source => exact .of_defined (List.forall_mem_nil _) rfl
  | @entryPoint text f interface hf hinterface =>
      have hvariables : ∀ id ∈ interface.map Value.id,
          ∃ v ∈ d.sections.globals, v.IsInterface ∧ v.result = some id := by
        intro id hid
        obtain ⟨v, hv, rfl⟩ := List.mem_map.1 hid
        exact (hinterface v hv).isInterface h hs
      have hfunction := mem_functionIds_of_current h hf
      have htargets : (Instruction.plain .entryPoint (.executionModel .glCompute :: .id f.id ::
          .text text :: interface.map fun v => .id v.id)).targets =
            f.id :: interface.map Value.id :=
        congrArg (f.id :: ·) (filterMap_ids Value.id interface)
      refine ⟨?_, fun _ => ⟨_, _, htargets, hfunction, hvariables⟩⟩
      rw [htargets]
      refine List.forall_mem_cons.2 ⟨functionIds_subset_definedIds hfunction, fun id hid => ?_⟩
      obtain ⟨v, hv, -, hresult⟩ := hvariables id hid
      exact mem_definedIds_of_globals (mem_resultsOf.2 ⟨v, hv, hresult⟩)
  | executionMode hentryPoint =>
      refine .of_defined (List.forall_mem_singleton.2 ?_) rfl
      simp only [isEntryPoint, List.any_eq_true, beq_iff_eq] at hentryPoint
      obtain ⟨e, he, rfl⟩ := hentryPoint
      exact functionIds_subset_definedIds (hs.entryPoints e he)
  | decorate hdefined | decorateMember hdefined =>
      exact .of_defined (List.forall_mem_singleton.2 (h.mem_definedIds_of_isDefined hdefined)) rfl
  | name hvisible =>
      exact .of_defined (List.forall_mem_singleton.2 (h.mem_definedIds_of_isVisible hvisible)) rfl
  | nameMember hmember =>
      refine .of_defined (List.forall_mem_singleton.2 ?_) rfl
      unfold recordMember at hmember
      split at hmember
      · next ht => exact mem_definedIds_of_globals (h.mem_globals_of_dataTypes ht)
      · cases hmember

/-- What defines something states nothing. -/
theorem Definition.sound {short : Prop} (hi : d.Definition short i) : d.Sound i := by
  cases hi with
  | importSet | global | store => exact .of_defined (List.forall_mem_nil _) rfl
  | type ht => cases ht <;> exact .of_defined (List.forall_mem_nil _) rfl
  | constant hk =>
      cases hk with
      | @bool value => cases value <;> exact .of_defined (List.forall_mem_nil _) rfl
      | scalar | composite => exact .of_defined (List.forall_mem_nil _) rfl
  | start _ _ hi =>
      rcases OpenFunction.mem_start.1 hi with rfl | ⟨v, -, rfl⟩ | rfl | rfl <;>
        exact .of_defined (List.forall_mem_nil _) rfl
  | emit he =>
      cases he with
      | arithmetic ho =>
          rcases isArithmetic_iff.1 ho with rfl | rfl | rfl | rfl <;>
            exact .of_defined (List.forall_mem_nil _) rfl
      | _ => exact .of_defined (List.forall_mem_nil _) rfl
  | @leave value => cases value <;> exact .of_defined (List.forall_mem_nil _) rfl

end statements

/-! ### Every change keeps the order -/

/-- A longer body of the open function. -/
theorem functionsInOrder_body {f : OpenFunction} {callees : List Id} {is : List Instruction}
    (hf : d.current = some f)
    (h : FunctionsInOrder callees (resultsOf d.sections.imports ++ resultsOf d.sections.globals)
      d.bodies)
    (his : InOrder callees (d.visibleIds f) is) :
    FunctionsInOrder callees (resultsOf d.sections.imports ++ resultsOf d.sections.globals)
      (d.sections.functions ++ [⟨f.definition, f.parameters, f.label, f.body ++ is⟩]) := by
  rw [bodies_of_some hf, functionsInOrder_append] at h
  refine functionsInOrder_append.2 ⟨h.1, ?_, trivial⟩
  have hopening := h.2.1
  rw [Function.instructions_eq, inOrder_append] at hopening
  have hlonger : Function.instructions ⟨f.definition, f.parameters, f.label, f.body ++ is⟩ =
      (f.definition :: (f.parameters ++ f.label :: f.body)) ++ is ++ [Function.finish] := by
    simp [Function.instructions]
  rw [hlonger, inOrder_append, inOrder_append]
  refine ⟨⟨hopening.1, his.mono (List.Subset.refl _) ?_⟩,
    inOrder_singleton (by decide) (List.forall_mem_nil _)⟩
  intro id hid
  simp only [visibleIds, functionIds, bodies_of_some hf, List.map_append, List.map_cons,
    List.map_nil, resultsOf_append, resultsOf_cons, resultsOf_nil, OpenFunction.closed,
    List.mem_append, List.not_mem_nil, or_false] at hid ⊢
  tauto

/-- The type of a constant is not that of a pointer. -/
theorem ConstantDefinition.type_interned {key : ConstantKey} {opcode : Opcode}
    {type : Id} {operands : List Operand} (hk : d.ConstantDefinition key opcode type operands) :
    ∃ t, d.Interned t type ∧ ∀ storage u, t ≠ .pointer storage u := by
  cases hk with
  | bool ht => exact ⟨_, ht, nofun⟩
  | @scalar t _ value hv ht =>
      refine ⟨t, ht, ?_⟩
      rintro storage u rfl
      cases hv
  | composite _ ht => exact ⟨_, ht, nofun⟩

end Draft

namespace Account.Change

variable {short exhausted : Prop} {a b : Account}

/-- While there are ids, what may be called may still be called. -/
theorem callees (h : Change short False a b) (ha : a.Consistent) :
    a.draft.callees ⊆ b.draft.callees := by
  have hfunctions := (h.extends ha).functionIds
  intro id hid
  rcases List.mem_append.1 hid with hid | hid
  · exact List.mem_append_left _ (hfunctions hid)
  cases h with
  | declare => exact List.mem_append_right _ (List.mem_cons_of_mem _ hid)
  | forget he => exact he.elim
  | @define d target label ids s values control hc =>
      by_cases heq : id = target
      · refine List.mem_append_left _ ?_
        rw [heq]
        exact mem_resultsOf.2
          ⟨_, List.mem_map_of_mem (List.mem_append_right _ List.mem_cons_self), rfl⟩
      · refine List.mem_append_right _ ?_
        obtain ⟨e, he, rfl⟩ := List.mem_map.1 hid
        refine List.mem_map_of_mem (List.mem_filter.2 ⟨he, ?_⟩)
        simpa using heq
  | note hnote =>
      exact List.mem_append_right _ (hnote.unseen Draft.declaredIds (fun _ => rfl) ▸ hid)
  | @defineConstant d id ids key => cases key <;> exact List.mem_append_right _ hid
  | _ => exact List.mem_append_right _ hid

/-- What may be called has a signature. -/
theorem signatures (h : Change short exhausted a b) (ha : a.Consistent)
    (hs : ∀ e ∈ a.draft.tables.functions ++ a.draft.tables.declared, a.draft.HasSignature e.2) :
    ∀ e ∈ b.draft.tables.functions ++ b.draft.tables.declared, b.draft.HasSignature e.2 := by
  have hextends := h.extends ha
  have hkept : ∀ e ∈ a.draft.tables.functions ++ a.draft.tables.declared,
      b.draft.HasSignature e.2 := fun e he => hextends.hasSignature (hs e he)
  obtain ⟨hfunctions, hdeclared⟩ := List.forall_mem_append.1 hkept
  cases h with
  | declare hsignature =>
      refine List.forall_mem_append.2 ⟨hfunctions, List.forall_mem_cons.2 ⟨?_, hdeclared⟩⟩
      exact hextends.hasSignature hsignature
  | forget =>
      refine List.forall_mem_append.2 ⟨hfunctions, fun e he => ?_⟩
      exact hdeclared e (List.mem_of_mem_filter he)
  | begin _ hsignature =>
      refine List.forall_mem_append.2 ⟨List.forall_mem_cons.2 ⟨?_, hfunctions⟩, hdeclared⟩
      exact hextends.hasSignature hsignature
  | define _ _ hsignature =>
      refine List.forall_mem_append.2 ⟨List.forall_mem_cons.2 ⟨?_, hfunctions⟩, ?_⟩
      · exact hextends.hasSignature hsignature
      · exact fun e he => hdeclared e (List.mem_of_mem_filter he)
  | note hnote =>
      rw [hnote.unseen (·.tables.functions) fun _ => rfl,
        hnote.unseen (·.tables.declared) fun _ => rfl]
      exact hkept
  | @defineConstant d id ids key => cases key <;> exact hkept
  | _ => exact hkept

/-- Every global that is added is a variable or has no pointer type. -/
theorem plain (h : Change short exhausted a b) (ha : a.Consistent)
    (hs : ∀ i ∈ a.draft.sections.globals, a.draft.Plain i) :
    ∀ i ∈ b.draft.sections.globals, b.draft.Plain i := by
  have hextends := h.extends ha
  have hkept : ∀ i ∈ a.draft.sections.globals, b.draft.Plain i :=
    fun i hi => hextends.plain (hs i hi)
  cases h with
  | @defineType d id ids t opcode operands _ ht =>
      refine List.forall_mem_append.2 ⟨hkept, List.forall_mem_singleton.2 (Or.inr ?_)⟩
      -- a type has no type itself
      intro type htype
      have hrow := Instruction.valueRow?_eq_some.2 ⟨rfl, htype⟩
      rw [ht.valueRow? id] at hrow
      cases hrow
  | @defineConstant d id ids key opcode type operands _ hk =>
      have hglobals : (d.addConstantDefinition key opcode type id operands).sections.globals =
          d.sections.globals ++ [.typed opcode type id operands] := by
        cases key <;> rfl
      show ∀ i ∈ (d.addConstantDefinition key opcode type id operands).sections.globals, _
      rw [hglobals]
      refine List.forall_mem_append.2 ⟨hkept, List.forall_mem_singleton.2 (Or.inr ?_)⟩
      -- a constant has a type, but that is no pointer
      intro type' htype
      have hrow := (Instruction.valueRow?_eq_some.1 (hk.valueRow? id)).2
      obtain rfl := Option.some.inj (hrow.symm.trans htype)
      obtain ⟨t, ht, hpointer⟩ := hk.type_interned
      exact ⟨t, hextends.dataTypes (ha.lookup_dataTypes ht), hpointer⟩
  | defineVariable _ ht =>
      refine List.forall_mem_append.2 ⟨hkept, List.forall_mem_singleton.2 (Or.inl ?_)⟩
      exact ⟨_, _, _, _, rfl, hextends.dataTypes (ha.lookup_dataTypes ht)⟩
  | note hnote =>
      rw [hnote.unseen (·.sections.globals) fun _ => rfl]
      exact hkept
  | _ => exact hkept

/-- Every entry point has a function. -/
theorem entryPoints (h : Change short exhausted a b) (ha : a.Consistent)
    (hs : ∀ e ∈ a.draft.tables.entryPoints, e.2 ∈ a.draft.functionIds) :
    ∀ e ∈ b.draft.tables.entryPoints, e.2 ∈ b.draft.functionIds := by
  have hextends := h.extends ha
  have hkept : ∀ e ∈ a.draft.tables.entryPoints, e.2 ∈ b.draft.functionIds :=
    fun e he => hextends.functionIds (hs e he)
  cases h with
  | note hnote =>
      rcases hnote.entryPoints with ⟨hsame, -⟩ | ⟨text, f, interface, hf, rfl⟩
      · rw [hsame]
        exact hkept
      · refine List.forall_mem_cons.2 ⟨?_, hkept⟩
        exact hextends.functionIds (Draft.mem_functionIds_of_current ha hf)
  | @defineConstant d id ids key => cases key <;> exact hkept
  | _ => exact hkept

end Account.Change

namespace Draft.Scoped

variable {short : Prop} {a b : Account}

/-- Every change adds globals in order. -/
theorem step_globals (h : Account.Change short False a b) (ha : a.Consistent)
    (hs : a.draft.Scoped) : InOrder [] [] b.draft.sections.globals := by
  cases h with
  | @defineType d id ids t opcode operands _ ht =>
      exact inOrder_append.2 ⟨hs.globals, ht.inOrder ha id⟩
  | @defineConstant d id ids key opcode type operands _ hk =>
      have hglobals : (d.addConstantDefinition key opcode type id operands).sections.globals =
          d.sections.globals ++ [.typed opcode type id operands] := by
        cases key <;> rfl
      show InOrder [] [] (d.addConstantDefinition key opcode type id operands).sections.globals
      rw [hglobals]
      exact inOrder_append.2 ⟨hs.globals, hk.inOrder ha id⟩
  | @defineVariable d id ids storage t type _ ht =>
      refine inOrder_append.2 ⟨hs.globals, inOrder_singleton nofun ?_⟩
      exact List.forall_mem_singleton.2 (ha.mem_globals_of_interned ht)
  | note hnote => exact hnote.unseen (·.sections.globals) (fun _ => rfl) ▸ hs.globals
  | emit hf =>
      rw [Draft.addResult_eq hf]
      exact hs.globals
  | _ => exact hs.globals

/-- Every change adds to functions in order. -/
theorem step_bodies (h : Account.Change short False a b) (ha : a.Consistent)
    (hs : a.draft.Scoped) :
    FunctionsInOrder b.draft.callees
      (resultsOf b.draft.sections.imports ++ resultsOf b.draft.sections.globals)
      b.draft.bodies := by
  have hextends := h.extends ha
  have hcallees := h.callees ha
  have hknown : resultsOf a.draft.sections.imports ++ resultsOf a.draft.sections.globals ⊆
      resultsOf b.draft.sections.imports ++ resultsOf b.draft.sections.globals := by
    refine List.append_subset.2 ⟨?_, ?_⟩
    · exact List.Subset.trans (hextends.imports.filterMap _).subset (List.subset_append_left _ _)
    · exact List.Subset.trans (hextends.globals.filterMap _).subset (List.subset_append_right _ _)
  have hkept := hs.bodies.mono hcallees hknown
  -- what was in order stays so when more is known, so only what is written now is to be looked at
  cases h with
  | @begin d id label ids s values control hc hsignature hv =>
      rw [Draft.bodies_of_none hc] at hkept
      refine functionsInOrder_append.2 ⟨hkept, Draft.start_inOrder ha hsignature hv ?_, trivial⟩
      exact List.Subset.trans (List.subset_append_right _ _) (List.subset_append_left _ _)
  | @define d id label ids s values control hc hd hsignature hv =>
      rw [Draft.bodies_of_none hc] at hkept
      refine functionsInOrder_append.2 ⟨hkept, Draft.start_inOrder ha hsignature hv ?_, trivial⟩
      exact List.Subset.trans (List.subset_append_right _ _) (List.subset_append_left _ _)
  | @emit d id ids f opcode type operands hf ht he =>
      rw [Draft.addResult_eq hf] at hcallees hkept ⊢
      exact Draft.functionsInOrder_body hf hkept
        ((he.inOrder ha hf (fun hs' => hs.signatures _ (Draft.callable_ok hs').2) id).mono hcallees
          (List.Subset.refl _))
  | @store d ids f pointer value storage pointee hf ht hp hv =>
      rw [Draft.addToBody_eq hf] at hcallees hkept ⊢
      refine Draft.functionsInOrder_body hf hkept (inOrder_singleton nofun ?_)
      exact List.forall_mem_cons.2 ⟨ha.sees_visible hf hp,
        List.forall_mem_singleton.2 (ha.sees_visible hf hv)⟩
  | @leave d ids f value void operands hf ht hv hreturn =>
      rw [Draft.addReturn_eq hf] at hcallees hkept ⊢
      exact Draft.functionsInOrder_body hf hkept
        ((Draft.returnOperands_inOrder ha hf hreturn).mono hcallees (List.Subset.refl _))
  | @close d ids f hf ht =>
      rw [Draft.bodies_of_some hf] at hkept
      rw [Draft.bodies_of_none rfl]
      exact hkept
  | note hnote =>
      rw [hnote.unseen Draft.callees fun _ => rfl, hnote.unseen (·.sections.imports) fun _ => rfl,
        hnote.unseen (·.sections.globals) fun _ => rfl, hnote.unseen Draft.bodies fun _ => rfl]
      exact hs.bodies
  | @defineConstant d id ids key => cases key <;> exact hkept
  | _ => exact hkept

/-- Every function that is added begins as a function. -/
theorem step_functions (h : Account.Change short False a b) (hs : a.draft.Scoped) :
    ∀ f ∈ b.draft.bodies, f.definition.opcode = .function := by
  intro g hg
  rcases h.bodies hg with ⟨f, hf, hfg⟩ | ⟨id, s, control, values, label, rfl⟩
  · rw [hfg.definition]
    exact hs.functions f hf
  · rfl

/-- Every statement that is added is sound. -/
theorem step_sound (h : Account.Change short False a b) (ha : a.Consistent)
    (hs : a.draft.Scoped) : ∀ i ∈ b.draft.statements ++ b.draft.definitions, b.draft.Sound i := by
  have hextends := h.extends ha
  intro i hi
  refine hextends.sound ?_
  rcases List.mem_append.1 hi with hi | hi
  · rcases h.statements hi with hi | hi
    · exact hs.sound i (List.mem_append_left _ hi)
    · exact hi.sound ha hs
  · rcases h.definitions hi with hi | hi
    · exact hs.sound i (List.mem_append_right _ hi)
    · exact hi.sound

/-- **While there are ids, every change keeps a draft scoped.** -/
theorem step (h : Account.Change short False a b) (ha : a.Consistent) (hs : a.draft.Scoped) :
    b.draft.Scoped :=
  ⟨step_globals h ha hs, step_bodies h ha hs, step_functions h hs, h.plain ha hs.plain,
    h.signatures ha hs.signatures, h.entryPoints ha hs.entryPoints, step_sound h ha hs⟩

/-- Before the first call nothing refers to anything. -/
theorem empty (settings : ModuleSettings) : (Draft.empty settings).Scoped where
  globals := trivial
  bodies := trivial
  functions _ hf := absurd hf List.not_mem_nil
  plain _ hi := absurd hi List.not_mem_nil
  signatures _ he := absurd he List.not_mem_nil
  entryPoints _ he := absurd he List.not_mem_nil
  sound _ hi := absurd hi List.not_mem_nil

/-- **While there are ids, every run keeps a draft scoped.** -/
theorem after {settings : ModuleSettings}
    (h : Account.Changes short False ⟨Draft.empty settings, []⟩ b) : b.draft.Scoped := by
  exact h.preserves_of_consistent (P := fun b => b.draft.Scoped)
    (fun hb hstep => step hstep hb) (.empty settings) (empty settings)

end Draft.Scoped

end FrameShader
