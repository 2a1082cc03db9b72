/-
Visibility: what an instruction may refer to.

A global refers to globals before it.  An instruction of a function refers to imports, globals, what
stands before it in its function, and functions up to its own; only a call may name a function that
comes later.

Main definitions:

* `FrameShader.InOrder`, `FrameShader.FunctionsInOrder` — instructions and functions that refer to
  what is known or stands before them;
* `FrameShader.Draft.visibleIds`, `FrameShader.Draft.callees` — what can be seen in the open
  function and what can be called.

Main results:

* `FrameShader.InOrder.split`, `FrameShader.FunctionsInOrder.split` — what an instruction in the
  middle refers to;
* `FrameShader.Account.Consistent.mem_visibleIds`, `FrameShader.Account.Consistent.mem_callees` —
  what a draft looks up can be seen;
* `FrameShader.Draft.Emission.visible`, `FrameShader.Draft.Emission.inOrder` and the like — **what
  is added refers to what can be seen**.
-/

import FrameShader.Proofs.Draft.Consistency
import FrameShader.Proofs.Draft.Checks

set_option relaxedAutoImplicit false
set_option autoImplicit false

namespace FrameShader

/-! ### References in order -/

/-- Each instruction uses only what is known or stands before it, and calls only `callees`. -/
def InOrder (callees : List Id) : List Id → List Instruction → Prop
  | _, [] => True
  | known, i :: is =>
      (∀ id ∈ i.uses, id ∈ known) ∧ (∀ id ∈ i.callee?, id ∈ callees) ∧
        InOrder callees (known ++ i.result.toList) is

/-- Each function uses only what is known, its own instructions and the functions before it. -/
def FunctionsInOrder (callees : List Id) : List Id → List Function → Prop
  | _, [] => True
  | known, f :: fs =>
      InOrder callees known f.instructions ∧
        FunctionsInOrder callees (known ++ f.definition.result.toList) fs

section order

variable {callees callees' known known' : List Id}

theorem InOrder.mono {is : List Instruction} (hc : callees ⊆ callees') (hk : known ⊆ known')
    (h : InOrder callees known is) : InOrder callees' known' is := by
  induction is generalizing known known' with
  | nil => trivial
  | cons i is ih =>
      obtain ⟨huses, hcallee, hrest⟩ := h
      refine ⟨fun id hid => hk (huses id hid), fun id hid => hc (hcallee id hid), ih ?_ hrest⟩
      exact List.append_subset.2
        ⟨List.Subset.trans hk (List.subset_append_left _ _), List.subset_append_right _ _⟩

theorem inOrder_append {is js : List Instruction} :
    InOrder callees known (is ++ js) ↔
      InOrder callees known is ∧ InOrder callees (known ++ resultsOf is) js := by
  induction is generalizing known with
  | nil => simp [InOrder]
  | cons i is ih =>
      rw [List.cons_append, InOrder, InOrder, ih, resultsOf_cons, List.append_assoc, and_assoc,
        and_assoc]

/-- What an instruction in the middle refers to. -/
theorem InOrder.split {before after : List Instruction} {i : Instruction}
    (h : InOrder callees known (before ++ i :: after)) :
    (∀ id ∈ i.uses, id ∈ known ++ resultsOf before) ∧ ∀ id ∈ i.callee?, id ∈ callees := by
  obtain ⟨huses, hcallee, -⟩ := (inOrder_append.1 h).2
  exact ⟨huses, hcallee⟩

theorem FunctionsInOrder.mono {fs : List Function} (hc : callees ⊆ callees')
    (hk : known ⊆ known') (h : FunctionsInOrder callees known fs) :
    FunctionsInOrder callees' known' fs := by
  induction fs generalizing known known' with
  | nil => trivial
  | cons f fs ih =>
      refine ⟨h.1.mono hc hk, ih ?_ h.2⟩
      exact List.append_subset.2
        ⟨List.Subset.trans hk (List.subset_append_left _ _), List.subset_append_right _ _⟩

theorem functionsInOrder_append {fs gs : List Function} :
    FunctionsInOrder callees known (fs ++ gs) ↔
      FunctionsInOrder callees known fs ∧
        FunctionsInOrder callees (known ++ resultsOf (fs.map Function.definition)) gs := by
  induction fs generalizing known with
  | nil => simp [FunctionsInOrder]
  | cons f fs ih =>
      rw [List.cons_append, FunctionsInOrder, FunctionsInOrder, ih, List.map_cons, resultsOf_cons,
        List.append_assoc, and_assoc]

/-- A function in the middle. -/
theorem FunctionsInOrder.split {fs gs : List Function} {f : Function}
    (h : FunctionsInOrder callees known (fs ++ f :: gs)) :
    InOrder callees (known ++ resultsOf (fs.map Function.definition)) f.instructions :=
  (functionsInOrder_append.1 h).2.1

end order

/-! ### What an instruction refers to -/

section uses

variable {callees known : List Id}

theorem uses_eq_references {i : Instruction} (h : i.opcode ≠ .functionCall) :
    i.uses = i.references := by
  unfold Instruction.uses
  split
  · next hopcode _ => exact absurd hopcode h
  · rfl

theorem callee?_eq_none {i : Instruction} (h : i.opcode ≠ .functionCall) : i.callee? = none := by
  unfold Instruction.callee?
  split
  · next hopcode _ => exact absurd hopcode h
  · rfl

/-- An instruction that calls nothing. -/
theorem inOrder_singleton {i : Instruction} (hopcode : i.opcode ≠ .functionCall)
    (h : ∀ id ∈ i.references, id ∈ known) : InOrder callees known [i] := by
  refine ⟨?_, ?_, trivial⟩
  · rwa [uses_eq_references hopcode]
  · rw [callee?_eq_none hopcode]
    exact fun _ hid => nomatch hid

/-- Instructions that refer only to what is known, and call nothing. -/
theorem inOrder_of_known {is : List Instruction}
    (h : ∀ i ∈ is, i.opcode ≠ .functionCall ∧ ∀ id ∈ i.references, id ∈ known) :
    InOrder callees known is := by
  induction is generalizing known with
  | nil => trivial
  | cons i is ih =>
      obtain ⟨⟨hopcode, hi⟩, hrest⟩ := List.forall_mem_cons.1 h
      refine inOrder_append.2 ⟨inOrder_singleton hopcode hi, ih fun j hj => ?_⟩
      obtain ⟨hopcode, hj⟩ := hrest j hj
      exact ⟨hopcode, fun id hid => List.mem_append_left _ (hj id hid)⟩

/-- Operands that are the ids of some things. -/
theorem filterMap_ids {α : Type} (f : α → Id) (xs : List α) :
    (xs.map fun x => Operand.id (f x)).filterMap Operand.id? = xs.map f := by
  rw [List.filterMap_map]
  exact congrFun (List.filterMap_eq_map' (f := f)) xs

/-- Operands that are numbers refer to nothing. -/
theorem filterMap_literals (xs : List Word) :
    (xs.map Operand.literal).filterMap Operand.id? = [] := by
  rw [List.filterMap_map]
  exact List.filterMap_eq_nil_iff.2 fun _ _ => rfl

end uses

/-! ### What can be seen -/

namespace Draft

/-- The ids that can be seen in the open function `f`, its own among them. -/
def visibleIds (d : Draft) (f : OpenFunction) : List Id :=
  resultsOf d.sections.imports ++ resultsOf d.sections.globals ++ d.functionIds ++
    resultsOf (f.parameters ++ f.body)

/-- The ids of functions that may be called. -/
def callees (d : Draft) : List Id := d.functionIds ++ d.declaredIds

variable {d : Draft} {ids : List Id} {id : Id} {f : OpenFunction}

theorem mem_definedIds_of_globals (h : id ∈ resultsOf d.sections.globals) :
    id ∈ d.definedIds := by
  rw [definedIds_eq]
  exact List.mem_append_left _ (List.mem_append_right _ h)

theorem mem_definedIds_of_bodies {i : Instruction} {g : Function} (hg : g ∈ d.bodies)
    (hi : i ∈ g.instructions) (hid : i.result = some id) : id ∈ d.definedIds := by
  rw [definedIds_eq]
  exact List.mem_append_right _ (List.mem_flatMap.2 ⟨g, hg, mem_resultsOf.2 ⟨i, hi, hid⟩⟩)

theorem mem_functionIds {s : Signature} {g : Function} (hg : g ∈ d.bodies)
    (hs : g.signatureRow? = some (id, s)) : id ∈ d.functionIds :=
  mem_resultsOf.2 ⟨g.definition, List.mem_map_of_mem hg,
    (Function.definition_of_signatureRow? hs).1⟩

theorem functionIds_subset_definedIds : d.functionIds ⊆ d.definedIds := by
  intro id hid
  obtain ⟨i, hi, hresult⟩ := mem_resultsOf.1 hid
  obtain ⟨g, hg, rfl⟩ := List.mem_map.1 hi
  exact mem_definedIds_of_bodies hg List.mem_cons_self hresult

/-- What may be called is not an entry point, and it has a signature. -/
theorem callable_ok {s : Signature} (h : d.callable id = .ok s) :
    d.isEntryPoint id = false ∧ (id, s) ∈ d.tables.functions ++ d.tables.declared := by
  unfold callable at h
  split at h
  · cases h
  · next hentry =>
      refine ⟨Bool.eq_false_iff.2 hentry, ?_⟩
      split at h
      · next hlookup =>
          cases h
          exact List.mem_append_left _ (mem_of_lookup_eq_some hlookup)
      · split at h
        · next hlookup =>
            cases h
            exact List.mem_append_right _ (mem_of_lookup_eq_some hlookup)
        · cases h

theorem isVisible_of_typeOf? {type : Id} (h : d.typeOf? id = some type) :
    d.isVisible id = true := by
  simp [isVisible, h]

theorem isVisible_of_dataTypes {t : DataType} (h : d.tables.dataTypes.lookup id = some t) :
    d.isVisible id = true := by
  simp [isVisible, isDefined, h]

theorem isVisible_of_imports {text : String} (h : (text, id) ∈ d.tables.imports) :
    d.isVisible id = true := by
  have himports : d.tables.imports.any (·.2 == id) = true :=
    List.any_eq_true.2 ⟨_, h, beq_self_eq_true id⟩
  simp [isVisible, isDefined, himports]

theorem Sees.isVisible {v : Value} {t : DataType} (hv : d.Sees v t) : d.isVisible v.id = true :=
  isVisible_of_typeOf? hv.1

theorem Sees.type_isVisible {v : Value} {t : DataType} (hv : d.Sees v t) :
    d.isVisible v.type = true :=
  isVisible_of_dataTypes hv.2

/-- Operands that are the ids of values that are seen. -/
theorem isVisible_of_operands {vs : List Value} (hvs : ∀ v ∈ vs, ∃ t, d.Sees v t) :
    ∀ target ∈ (vs.map fun v => Operand.id v.id).filterMap Operand.id?,
      d.isVisible target = true := by
  rw [filterMap_ids]
  intro target htarget
  obtain ⟨v, hv, rfl⟩ := List.mem_map.1 htarget
  obtain ⟨t, ht⟩ := hvs v hv
  exact ht.isVisible

end Draft

namespace Account.Consistent

variable {d : Draft} {ids : List Id} {id : Id} {f : OpenFunction}

theorem interned_isVisible (h : Consistent ⟨d, ids⟩) {t : DataType} (ht : d.Interned t id) :
    d.isVisible id = true :=
  Draft.isVisible_of_dataTypes (h.lookup_dataTypes ht)

/-- An imported set is defined by an import. -/
theorem mem_imports (h : Consistent ⟨d, ids⟩) {text : String}
    (hmem : (text, id) ∈ d.tables.imports) : id ∈ resultsOf d.sections.imports := by
  have himports : d.tables.imports = rowsOf Instruction.importRow? d.sections.imports := h.imports
  rw [himports, mem_rowsOf] at hmem
  obtain ⟨i, hi, hrow⟩ := hmem
  refine mem_resultsOf.2 ⟨i, hi, ?_⟩
  unfold Instruction.importRow? at hrow
  split at hrow
  · next hresult _ =>
      cases hrow
      exact hresult
  · cases hrow

/-- A function with a signature is written or reserved. -/
theorem mem_callees_of_mem (h : Consistent ⟨d, ids⟩) {s : Signature}
    (hs : (id, s) ∈ d.tables.functions ++ d.tables.declared) : id ∈ d.callees := by
  rcases List.mem_append.1 hs with hs | hs
  · have hfunctions : d.tables.functions = rowsOf Function.signatureRow? d.bodies := h.functions
    rw [hfunctions, mem_rowsOf] at hs
    obtain ⟨g, hg, hrow⟩ := hs
    exact List.mem_append_left _ (Draft.mem_functionIds hg hrow)
  · exact List.mem_append_right _ (List.mem_map.2 ⟨_, hs, rfl⟩)

/-- A function that may be called is written or reserved. -/
theorem mem_callees (h : Consistent ⟨d, ids⟩) {s : Signature} (hs : d.callable id = .ok s) :
    id ∈ d.callees :=
  h.mem_callees_of_mem (Draft.callable_ok hs).2

/-- What belongs to the module is defined outside of functions, or it is a function. -/
theorem mem_of_isDefined (h : Consistent ⟨d, ids⟩) (hid : d.isDefined id = true) :
    id ∈ resultsOf d.sections.imports ++ resultsOf d.sections.globals ++ d.functionIds := by
  simp only [Draft.isDefined, Bool.or_eq_true, Option.isSome_iff_exists, List.any_eq_true,
    beq_iff_eq] at hid
  rcases hid with ((⟨t, ht⟩ | ⟨type, htype⟩) | ⟨s, hs⟩) | ⟨⟨text, target⟩, hmem, rfl⟩
  · exact List.mem_append_left _ (List.mem_append_right _ (h.mem_globals_of_dataTypes ht))
  · obtain ⟨i, hi, hresult, -⟩ := h.exists_global htype
    exact List.mem_append_left _ (List.mem_append_right _ (mem_resultsOf.2 ⟨i, hi, hresult⟩))
  · obtain ⟨g, hg, hrow⟩ := h.exists_function hs
    exact List.mem_append_right _ (Draft.mem_functionIds hg hrow)
  · exact List.mem_append_left _ (List.mem_append_left _ (h.mem_imports hmem))

/-- What is visible is defined outside of functions, or it is a function, or the open function has
defined it. -/
theorem exists_of_isVisible (h : Consistent ⟨d, ids⟩) (hid : d.isVisible id = true) :
    id ∈ resultsOf d.sections.imports ++ resultsOf d.sections.globals ++ d.functionIds ∨
      ∃ f, d.current = some f ∧ id ∈ resultsOf (f.parameters ++ f.body) := by
  rcases Bool.or_eq_true_iff.1 hid with hdefined | hseen
  · exact Or.inl (h.mem_of_isDefined hdefined)
  · obtain ⟨type, htype⟩ := Option.isSome_iff_exists.1 hseen
    rcases Draft.typeOf?_eq_some htype with ⟨f, hf, hlocal⟩ | hglobal | ⟨s, hs, -⟩
    · obtain ⟨i, hi, hresult, -⟩ := h.exists_local hf hlocal
      exact Or.inr ⟨f, hf, mem_resultsOf.2 ⟨i, hi, hresult⟩⟩
    · exact Or.inl (h.mem_of_isDefined (by simp [Draft.isDefined, hglobal]))
    · exact Or.inl (h.mem_of_isDefined (by simp [Draft.isDefined, hs]))

/-- What is visible can be seen in the open function. -/
theorem mem_visibleIds (h : Consistent ⟨d, ids⟩) (hf : d.current = some f)
    (hid : d.isVisible id = true) : id ∈ d.visibleIds f := by
  rcases h.exists_of_isVisible hid with hid | ⟨g, hg, hid⟩
  · exact List.mem_append_left _ hid
  · obtain rfl := Option.some.inj (hf.symm.trans hg)
    exact List.mem_append_right _ hid

theorem sees_visible (h : Consistent ⟨d, ids⟩) (hf : d.current = some f) {v : Value}
    {t : DataType} (hv : d.Sees v t) : v.id ∈ d.visibleIds f :=
  h.mem_visibleIds hf hv.isVisible

/-- What is visible is defined by an instruction. -/
theorem mem_definedIds_of_isVisible (h : Consistent ⟨d, ids⟩) (hid : d.isVisible id = true) :
    id ∈ d.definedIds := by
  rcases h.exists_of_isVisible hid with hid | ⟨f, hf, hid⟩
  · rcases List.mem_append.1 hid with hid | hid
    · rw [Draft.definedIds_eq]
      exact List.mem_append_left _ hid
    · exact Draft.functionIds_subset_definedIds hid
  · obtain ⟨i, hi, hresult⟩ := mem_resultsOf.1 hid
    refine Draft.mem_definedIds_of_bodies (g := f.closed) ?_ (f.closed.mem_instructions hi) hresult
    rw [Draft.bodies_of_some hf]
    exact List.mem_append_right _ List.mem_cons_self

/-- What is defined is defined by an instruction. -/
theorem mem_definedIds_of_isDefined (h : Consistent ⟨d, ids⟩) (hid : d.isDefined id = true) :
    id ∈ d.definedIds :=
  h.mem_definedIds_of_isVisible (Bool.or_eq_true_iff.2 (Or.inl hid))

/-- A constant is a global. -/
theorem mem_globals_of_isConstant (h : Consistent ⟨d, ids⟩) (hid : d.isConstant id = true) :
    id ∈ resultsOf d.sections.globals := by
  simp only [Draft.isConstant, List.any_eq_true, beq_iff_eq] at hid
  obtain ⟨⟨key, target⟩, hmem, rfl⟩ := hid
  have hconstants : d.tables.constants = rowsOf Instruction.constantRow? d.sections.globals :=
    h.constants
  rw [hconstants, mem_rowsOf] at hmem
  obtain ⟨i, hi, hrow⟩ := hmem
  exact mem_resultsOf.2 ⟨i, hi, Instruction.result_of_constantRow? hrow⟩

end Account.Consistent

/-! ### What is added refers to what can be seen -/

namespace Draft

variable {d : Draft} {ids : List Id} {opcode : Opcode} {operands : List Operand}

/-- The definition of a type refers to types. -/
theorem TypeDefinition.interned {t : DataType} (ht : d.TypeDefinition t opcode operands) (id : Id)
    {target : Id} (htarget : target ∈ (Instruction.defining opcode id operands).references) :
    ∃ u, d.Interned u target := by
  have hparts {us : List DataType} {parts : List Id} (hp : List.Forall₂ d.Interned us parts)
      (hmem : target ∈ parts) : ∃ u, d.Interned u target := by
    obtain ⟨u, -, hu⟩ := exists_of_mem_right hp hmem
    exact ⟨u, hu⟩
  cases ht with
  | void | bool | int | float | sampler => exact nomatch htarget
  | vector _ _ hc =>
      obtain rfl := List.mem_singleton.1 htarget
      exact ⟨_, hc⟩
  | runtimeArray he =>
      obtain rfl := List.mem_singleton.1 htarget
      exact ⟨_, he⟩
  | @record ts members hm =>
      have hmem : target ∈ (members.map Operand.id).filterMap Operand.id? := htarget
      rw [filterMap_ids (fun id => id), List.map_id'] at hmem
      exact hparts hm hmem
  | pointer hp =>
      obtain rfl := List.mem_singleton.1 htarget
      exact ⟨_, hp⟩
  | image hc =>
      obtain rfl := List.mem_singleton.1 htarget
      exact ⟨_, hc⟩
  | sampledImage hi =>
      obtain rfl := List.mem_singleton.1 htarget
      exact ⟨_, hi⟩
  | @function t ts result parameters hr hp =>
      have hmem : target ∈ result :: (parameters.map Operand.id).filterMap Operand.id? := htarget
      rw [filterMap_ids (fun id => id), List.map_id', List.mem_cons] at hmem
      rcases hmem with rfl | hmem
      · exact ⟨_, hr⟩
      · exact hparts hp hmem

theorem TypeDefinition.inOrder (h : Account.Consistent ⟨d, ids⟩) {t : DataType}
    (ht : d.TypeDefinition t opcode operands) (id : Id) :
    InOrder [] (resultsOf d.sections.globals) [.defining opcode id operands] := by
  have hopcode : opcode ≠ .functionCall := by cases ht <;> decide
  refine inOrder_singleton hopcode fun target htarget => ?_
  obtain ⟨u, hu⟩ := ht.interned id htarget
  exact h.mem_globals_of_interned hu

/-- The definition of a constant refers to its type and to constants. -/
theorem ConstantDefinition.known {key : ConstantKey} {type : Id}
    (hk : d.ConstantDefinition key opcode type operands) (id : Id) {target : Id}
    (htarget : target ∈ (Instruction.typed opcode type id operands).references) :
    (∃ t, d.Interned t target) ∨
      d.isConstant target = true ∧ ∃ type, d.typeOf? target = some type := by
  rcases List.mem_cons.1 htarget with rfl | hmem
  · cases hk with
    | bool ht | scalar _ ht | composite _ ht => exact Or.inl ⟨_, ht⟩
  · cases hk with
    | bool => exact nomatch hmem
    | @scalar _ _ value => cases value <;> exact nomatch hmem
    | @composite _ _ values hv =>
        have hmem' : target ∈ ((values.map Value.id).map Operand.id).filterMap Operand.id? := hmem
        rw [filterMap_ids (fun id => id), List.map_id'] at hmem'
        obtain ⟨v, hv', rfl⟩ := List.mem_map.1 hmem'
        exact Or.inr ⟨(hv v hv').1, _, (hv v hv').2.1⟩

/-- The definition of a constant refers to globals. -/
theorem ConstantDefinition.inOrder (h : Account.Consistent ⟨d, ids⟩) {key : ConstantKey}
    {type : Id} (hk : d.ConstantDefinition key opcode type operands) (id : Id) :
    InOrder [] (resultsOf d.sections.globals) [.typed opcode type id operands] := by
  have hopcode : opcode ≠ .functionCall := by
    cases hk with
    | @bool value => cases value <;> decide
    | scalar | composite => decide
  refine inOrder_singleton hopcode fun target htarget => ?_
  rcases hk.known id htarget with ⟨t, ht⟩ | ⟨hconstant, -⟩
  · exact h.mem_globals_of_interned ht
  · exact h.mem_globals_of_isConstant hconstant

variable {f : OpenFunction} {type : Id} {short : Prop}

theorem isVisible_one {v : Value} {t : DataType} (hv : d.Sees v t) :
    ∀ target ∈ [v.id], d.isVisible target = true :=
  List.forall_mem_singleton.2 hv.isVisible

theorem isVisible_two {v w : Value} {t u : DataType} (hv : d.Sees v t) (hw : d.Sees w u) :
    ∀ target ∈ [v.id, w.id], d.isVisible target = true :=
  List.forall_mem_cons.2 ⟨hv.isVisible, isVisible_one hw⟩

/-- **An instruction of a body refers to what is visible**, the function that it calls apart. -/
theorem Emission.visible (h : Account.Consistent ⟨d, ids⟩)
    (hsignatures : ∀ {id : Id} {s : Signature}, d.callable id = .ok s → d.HasSignature s)
    (he : d.Emission short opcode type operands) (id : Id) :
    ∀ target ∈ (Instruction.typed opcode type id operands).uses, d.isVisible target = true := by
  -- an instruction other than a call uses its type and all of its operands
  have typed (hopcode : opcode ≠ .functionCall) (htype : d.isVisible type = true)
      (hoperands : ∀ target ∈ operands.filterMap Operand.id?, d.isVisible target = true) :
      ∀ target ∈ (Instruction.typed opcode type id operands).uses, d.isVisible target = true := by
    rw [uses_eq_references hopcode]
    exact List.forall_mem_cons.2 ⟨htype, hoperands⟩
  cases he with
  | arithmetic ho ha hb =>
      refine typed ?_ ha.type_isVisible (isVisible_two ha hb)
      rintro rfl
      simp [isArithmetic] at ho
  | vectorTimesScalar hv hx => exact typed (by decide) hv.type_isVisible (isVisible_two hv hx)
  | dot ha hb _ _ htype =>
      exact typed (by decide) (h.interned_isVisible htype) (isVisible_two ha hb)
  | extInst htype hargs hset =>
      exact typed (by decide) (isVisible_of_dataTypes htype)
        (List.forall_mem_cons.2 ⟨isVisible_of_imports hset, isVisible_of_operands hargs⟩)
  | convertUToF hv _ htype =>
      exact typed (by decide) (h.interned_isVisible htype) (isVisible_one hv)
  | fOrdEqual ha hb _ _ htype =>
      exact typed (by decide) (h.interned_isVisible htype) (isVisible_two ha hb)
  | select hc ha hr =>
      exact typed (by decide) ha.type_isVisible
        (List.forall_mem_cons.2 ⟨hc.isVisible, isVisible_two ha hr⟩)
  | compositeConstruct hparts _ _ _ htype =>
      refine typed (by decide) (h.interned_isVisible htype) (isVisible_of_operands fun v hv => ?_)
      obtain ⟨t, -, ht⟩ := exists_of_mem_left hparts hv
      exact ⟨t, ht⟩
  | compositeExtract hv _ htype =>
      exact typed (by decide) (h.interned_isVisible htype) (isVisible_one hv)
  | @vectorShuffle a b _ _ _ indices _ ha hb _ _ htype =>
      refine typed (by decide) (h.interned_isVisible htype) ?_
      show ∀ target ∈ a.id :: b.id :: (indices.map Operand.literal).filterMap Operand.id?, _
      rw [filterMap_literals]
      exact isVisible_two ha hb
  | sampledImage hi hs _ htype =>
      exact typed (by decide) (h.interned_isVisible htype) (isVisible_two hi hs)
  | imageSampleExplicitLod hi hc _ _ hl htype =>
      exact typed (by decide) (h.interned_isVisible htype)
        (List.forall_mem_cons.2 ⟨hi.isVisible, isVisible_two hc hl⟩)
  | accessChain hb hw htype =>
      exact typed (by decide) (h.interned_isVisible htype)
        (List.forall_mem_cons.2 ⟨hb.isVisible, isVisible_of_operands (walk_ok hw)⟩)
  | load hp htype => exact typed (by decide) (h.interned_isVisible htype) (isVisible_one hp)
  | functionCall hs hargs =>
      -- the function that is called counts as no use, so only the type and the arguments are left
      obtain ⟨_, _, hsigns⟩ := hsignatures hs
      refine List.forall_mem_cons.2 ⟨h.interned_isVisible hsigns.result, ?_⟩
      refine isVisible_of_operands fun v hv => ?_
      obtain ⟨_, -, -, ht⟩ := exists_of_mem_left hargs hv
      exact ht

/-- A function that an instruction of a body calls may be called. -/
theorem Emission.callable (he : d.Emission short opcode type operands) (id : Id) {target : Id}
    (htarget : target ∈ (Instruction.typed opcode type id operands).callee?) :
    ∃ s, d.callable target = .ok s := by
  cases he with
  | functionCall hs =>
      obtain rfl := Option.some.inj htarget
      exact ⟨_, hs⟩
  | arithmetic ho =>
      rw [callee?_eq_none] at htarget
      · cases htarget
      · rintro (rfl : opcode = .functionCall)
        simp [isArithmetic] at ho
  | _ => cases htarget

/-- An instruction of a body refers to what can be seen. -/
theorem Emission.inOrder (h : Account.Consistent ⟨d, ids⟩) (hf : d.current = some f)
    (hsignatures : ∀ {id : Id} {s : Signature}, d.callable id = .ok s → d.HasSignature s)
    (he : d.Emission short opcode type operands) (id : Id) :
    InOrder d.callees (d.visibleIds f) [.typed opcode type id operands] := by
  refine ⟨fun target htarget => ?_, fun target htarget => ?_, trivial⟩
  · exact h.mem_visibleIds hf (he.visible h hsignatures id target htarget)
  · obtain ⟨s, hs⟩ := he.callable id htarget
    exact h.mem_callees hs

/-- A return refers to what it returns. -/
theorem returnOperands_visible {result void : Id} {value : Option Value}
    (hreturn : d.returnOperands result void value = .ok operands) :
    ∀ target ∈ operands.filterMap Operand.id?, d.isVisible target = true := by
  rcases returnOperands_ok hreturn with ⟨v, t, rfl, hv, -, -, rfl⟩ | ⟨rfl, -, rfl⟩
  · exact List.forall_mem_singleton.2 hv.isVisible
  · exact List.forall_mem_nil _

/-- A return refers to what can be seen. -/
theorem returnOperands_inOrder (h : Account.Consistent ⟨d, ids⟩) (hf : d.current = some f)
    {result void : Id} {value : Option Value}
    (hreturn : d.returnOperands result void value = .ok operands) :
    InOrder d.callees (d.visibleIds f) [.plain (Build.returnOpcode value) operands] := by
  refine inOrder_singleton ?_ fun target htarget => ?_
  · cases value <;> exact nofun
  · exact h.mem_visibleIds hf (returnOperands_visible hreturn target htarget)

/-- A new function refers to types, and calls nothing. -/
theorem start_interned {id label : Id} {s : Signature} {values : List Value}
    {control : FunctionControl} (hs : d.HasSignature s) (hv : values.map Value.type = s.parameters)
    {i : Instruction}
    (hi : i ∈ (OpenFunction.start id s control values label).closed.instructions) :
    i.opcode ≠ .functionCall ∧ ∀ target ∈ i.references, ∃ t, d.Interned t target := by
  obtain ⟨result, parameters, hsigns⟩ := hs
  rcases OpenFunction.mem_start.1 hi with rfl | ⟨v, hmem, rfl⟩ | rfl | rfl
  · exact ⟨by simp [Instruction.typed], List.forall_mem_cons.2 ⟨⟨_, hsigns.result⟩,
      List.forall_mem_singleton.2 ⟨_, hsigns.type⟩⟩⟩
  · have htype : v.type ∈ s.parameters := hv ▸ List.mem_map_of_mem hmem
    obtain ⟨t, -, ht⟩ := exists_of_mem_right hsigns.parameters htype
    exact ⟨by simp [Instruction.typed], List.forall_mem_singleton.2 ⟨t, ht⟩⟩
  · exact ⟨by simp [Instruction.defining], List.forall_mem_nil _⟩
  · exact ⟨by simp [Function.finish, Instruction.plain], List.forall_mem_nil _⟩

/-- A new function refers to globals. -/
theorem start_inOrder (h : Account.Consistent ⟨d, ids⟩) {id label : Id} {s : Signature}
    {values : List Value} {control : FunctionControl} {callees known : List Id}
    (hs : d.HasSignature s) (hv : values.map Value.type = s.parameters)
    (hknown : resultsOf d.sections.globals ⊆ known) :
    InOrder callees known (OpenFunction.start id s control values label).closed.instructions := by
  refine inOrder_of_known fun i hi => ?_
  obtain ⟨hopcode, hinterned⟩ := start_interned hs hv hi
  refine ⟨hopcode, fun target htarget => ?_⟩
  obtain ⟨t, ht⟩ := hinterned target htarget
  exact hknown (h.mem_globals_of_interned ht)

end Draft

end FrameShader
