/-
Confinement: what a function has defined inside is of no use once it is closed.

The parameters and results of a function are known while it is open.  Their ids are never handed out
again, and no other instruction defines them, so once the function is closed no table of the draft
finds them.  A call that is given one of them fails, whatever type is claimed for it, and nothing
that is written afterwards refers to one.  The operands of a decoration are the exception: they are
written as they are given, and only what is decorated is looked up.

Main definitions:

* `FrameShader.Draft.Encloses` — an id that a closed function has defined inside;
* `FrameShader.Draft.Finds` — an id that a call may use;
* `FrameShader.Build.Needs` — a call that succeeds only if something holds;
* `FrameShader.Operation.arguments` — the ids that an operation looks up.

Main results:

* `FrameShader.Draft.Encloses.not_finds` — **a draft finds no id that a closed function encloses**;
* `FrameShader.Draft.Addition.finds` — what is added refers to what is found;
* `FrameShader.Operation.run_needs` — **a call that succeeds has found its arguments**;
* `FrameShader.Draft.locals_confined` — what a closed function has defined inside is refused ever
  after.
-/

import FrameShader.Proofs.Draft.References
import FrameShader.Proofs.Draft.Shape

set_option relaxedAutoImplicit false
set_option autoImplicit false

namespace FrameShader

namespace Draft

/-! ### What closed functions enclose -/

/-- A closed function has defined this id inside: it is one of its parameters, its label or a
result. -/
def Encloses (d : Draft) (id : Id) : Prop := ∃ f ∈ d.sections.functions, id ∈ f.locals

/-- A call may use this id: it is visible, or that of a function that may be called. -/
def Finds (d : Draft) (id : Id) : Prop := d.isVisible id = true ∨ id ∈ d.callees

variable {d d' : Draft} {ids : List Id} {id : Id}

/-- **A draft finds no id that a closed function encloses.** -/
theorem Encloses.not_finds (hid : d.Encloses id) (h : Account.Consistent ⟨d, ids⟩) :
    ¬d.Finds id := by
  obtain ⟨f, hf, hlocal⟩ := hid
  have hbody : f ∈ d.bodies := List.mem_append_left _ hf
  have hown : id ∈ resultsOf f.instructions := by
    rw [Function.results_eq]
    exact List.mem_append_right _ hlocal
  have hdefined : id ∈ d.definedIds := by
    rw [definedIds_eq]
    exact List.mem_append_right _ (List.mem_flatMap.2 ⟨f, hbody, hown⟩)
  have hnodup := h.nodup_definedIds
  rw [definedIds_eq] at hnodup
  obtain ⟨hknown, hfunctions, -⟩ := not_mem_of_mem_locals hnodup hbody hlocal
  rintro (hvisible | hcallee)
  · rcases h.exists_of_isVisible hvisible with hmem | ⟨g, hg, hmem⟩
    · exact (List.mem_append.1 hmem).elim hknown hfunctions
    · -- the open function stands behind the closed ones
      rw [bodies_of_some hg, List.flatMap_append, List.flatMap_singleton] at hnodup
      obtain ⟨i, hi, hresult⟩ := mem_resultsOf.1 hmem
      have hopen : id ∈ resultsOf g.closed.instructions :=
        mem_resultsOf.2 ⟨i, g.closed.mem_instructions hi, hresult⟩
      have hclosed : id ∈ d.sections.functions.flatMap fun f => resultsOf f.instructions :=
        List.mem_flatMap.2 ⟨f, hf, hown⟩
      exact (List.nodup_append.1 (List.nodup_append.1 hnodup).2.1).2.2 id hclosed id hopen rfl
  -- what may be called is the id of a function or reserved, and neither is defined inside of one
  · rcases List.mem_append.1 hcallee with hmem | hmem
    · exact hfunctions hmem
    · exact (List.nodup_append.1 h.nodup).2.2 id hdefined id (List.mem_append_left _ hmem) rfl

/-- What a closed function encloses stays enclosed. -/
theorem Encloses.mono (hid : d.Encloses id)
    (h : d.sections.functions <+: d'.sections.functions) : d'.Encloses id := by
  obtain ⟨f, hf, hlocal⟩ := hid
  exact ⟨f, h.subset hf, hlocal⟩

/-! ### What is added refers to what is found -/

/-- The functions that may be called have signatures, and those of entry points are written. -/
structure Grounded (d : Draft) : Prop where
  signatures : ∀ e ∈ d.tables.functions ++ d.tables.declared, d.HasSignature e.2
  entryPoints : ∀ e ∈ d.tables.entryPoints, e.2 ∈ d.functionIds

/-- The function of an entry point is found. -/
theorem Grounded.finds (hd : d.Grounded) (hid : d.isEntryPoint id = true) : d.Finds id := by
  simp only [isEntryPoint, List.any_eq_true, beq_iff_eq] at hid
  obtain ⟨e, he, rfl⟩ := hid
  exact Or.inr (List.mem_append_left _ (hd.entryPoints e he))

end Draft

theorem Account.Changes.grounded {short exhausted : Prop} {settings : ModuleSettings} {b : Account}
    (h : Account.Changes short exhausted ⟨Draft.empty settings, []⟩ b) : b.draft.Grounded := by
  have hempty : (Draft.empty settings).Grounded :=
    ⟨fun _ he => absurd he List.not_mem_nil, fun _ he => absurd he List.not_mem_nil⟩
  refine h.preserves_of_consistent (P := fun b => b.draft.Grounded) ?_ (.empty settings) hempty
  intro b c hb hstep hgrounded
  exact ⟨hstep.signatures hb hgrounded.signatures, hstep.entryPoints hb hgrounded.entryPoints⟩

/-- What a statement is about is among its references. -/
theorem Instruction.targets_subset_references (i : Instruction) : i.targets ⊆ i.references := by
  have hoperands : i.targets ⊆ i.operands.filterMap Operand.id? := by
    unfold targets
    split
    · exact List.Subset.refl _
    case h_7 => exact List.nil_subset _
    all_goals
      next heq =>
        rw [heq]
        exact List.cons_subset.2 ⟨List.mem_cons_self, List.nil_subset _⟩
  exact List.Subset.trans hoperands (List.subset_append_right _ _)

namespace Draft

section additions

variable {d : Draft} {ids : List Id} {i : Instruction} {short : Prop}

/-- **What is written where ids are defined refers to what is found.** -/
theorem Definition.finds (hi : d.Definition short i) (h : Account.Consistent ⟨d, ids⟩)
    (hd : d.Grounded) : ∀ target ∈ i.references, d.Finds target := by
  have hinterned {target : Id} (ht : ∃ t, d.Interned t target) : d.Finds target := by
    obtain ⟨t, ht⟩ := ht
    exact Or.inl (h.interned_isVisible ht)
  intro target htarget
  cases hi with
  | importSet => exact absurd htarget List.not_mem_nil
  | type ht id => exact hinterned (ht.interned id htarget)
  | constant hk id =>
      rcases hk.known id htarget with ht | ⟨-, type, htype⟩
      · exact hinterned ht
      · exact Or.inl (isVisible_of_typeOf? htype)
  | global _ ht id =>
      obtain rfl := List.mem_singleton.1 htarget
      exact hinterned ⟨_, ht⟩
  | start hs hv hi => exact hinterned ((start_interned hs hv hi).2 target htarget)
  | emit he id =>
      rcases (Instruction.mem_references_iff _ _).1 htarget with hcallee | huse
      · obtain ⟨s, hs⟩ := he.callable id hcallee
        exact Or.inr (h.mem_callees hs)
      · exact Or.inl (he.visible h (fun hs => hd.signatures _ (callable_ok hs).2) id target huse)
  | store hp hv =>
      have hboth : ∀ target ∈ _, d.Finds target :=
        List.forall_mem_cons.2 ⟨Or.inl hp.isVisible,
          List.forall_mem_singleton.2 (Or.inl hv.isVisible)⟩
      exact hboth target htarget
  | leave hreturn => exact Or.inl (returnOperands_visible hreturn target htarget)

/-- **What is stated refers to what is found**, the operands of decorations apart. -/
theorem Statement.finds (hi : d.Statement i) (h : Account.Consistent ⟨d, ids⟩) (hd : d.Grounded) :
    (∀ target ∈ i.targets, d.Finds target) ∧
      (i.opcode.place ≠ .inSection .annotations → ∀ target ∈ i.references, d.Finds target) := by
  have of_references (hrefs : ∀ target ∈ i.references, d.Finds target) :
      (∀ target ∈ i.targets, d.Finds target) ∧
        (i.opcode.place ≠ .inSection .annotations → ∀ target ∈ i.references, d.Finds target) :=
    ⟨fun target htarget => hrefs target (i.targets_subset_references htarget), fun _ => hrefs⟩
  have hdefined {target : Id} (htarget : d.isDefined target = true) : d.Finds target :=
    Or.inl (Bool.or_eq_true_iff.2 (Or.inl htarget))
  cases hi with
  | capability | extension | source => exact of_references (List.forall_mem_nil _)
  | @entryPoint text f interface hf hinterface =>
      -- an entry point refers to its function and to the variables of its interface
      refine of_references (List.forall_mem_cons.2 ⟨?_, fun target htarget => ?_⟩)
      · exact Or.inr (List.mem_append_left _ (mem_functionIds_of_current h hf))
      · have hmem : target ∈ (interface.map fun v => Operand.id v.id).filterMap Operand.id? :=
          htarget
        rw [filterMap_ids] at hmem
        obtain ⟨v, hv, rfl⟩ := List.mem_map.1 hmem
        have hglobal := (hinterface v hv).1
        unfold globalType? at hglobal
        refine hdefined ?_
        split at hglobal
        · next hlookup => simp [isDefined, hlookup]
        · obtain ⟨s, hlookup, -⟩ := Option.map_eq_some_iff.1 hglobal
          simp [isDefined, hlookup]
  | @executionMode entryPoint mode literals hentry =>
      refine of_references (List.forall_mem_cons.2 ⟨hd.finds hentry, ?_⟩)
      show ∀ target ∈ (literals.map Operand.literal).filterMap Operand.id?, _
      rw [filterMap_literals]
      exact List.forall_mem_nil _
  | decorate htarget | decorateMember htarget =>
      exact ⟨List.forall_mem_singleton.2 (hdefined htarget), fun hplace => absurd rfl hplace⟩
  | name hvisible => exact of_references (List.forall_mem_singleton.2 (Or.inl hvisible))
  | nameMember hmember =>
      refine of_references (List.forall_mem_singleton.2 (Or.inl ?_))
      unfold recordMember at hmember
      split at hmember
      · next ht => exact isVisible_of_dataTypes ht
      · cases hmember

/-- What is added refers to what is found, the operands of decorations apart. -/
theorem Addition.finds (hi : d.Addition short i) (h : Account.Consistent ⟨d, ids⟩)
    (hd : d.Grounded) : (∀ target ∈ i.targets, d.Finds target) ∧
      (i.opcode.place ≠ .inSection .annotations → ∀ target ∈ i.references, d.Finds target) := by
  rcases hi with hi | hi
  · exact hi.finds h hd
  · have hrefs := hi.finds h hd
    exact ⟨fun target htarget => hrefs target (i.targets_subset_references htarget), fun _ => hrefs⟩

end additions

end Draft

/-! ### Calls that look something up -/

namespace Build

variable {α β : Type} {call : Build α} {d : Draft} {p : Prop}

/-- The call succeeds only if `p` holds. -/
def Needs (call : Build α) (d : Draft) (p : Prop) : Prop :=
  ∀ v d', call.runOn d = (.ok v, d') → p

namespace Needs

/-- A call that looks at the draft and stops if something is wrong. -/
theorem inspect {view : Draft → Except BuildError α} (h : ∀ v, view d = .ok v → p) :
    Needs (Build.inspect view) d p := by
  intro v d' hrun
  rw [runOn_inspect, Prod.mk.injEq] at hrun
  cases hview : view d with
  | error cause =>
      rw [hview] at hrun
      cases hrun.1
  | ok w => exact h w hview

/-- What the first of two calls needs. -/
theorem ofArithmetic {answer : Except Overflow α} (h : ∀ v, answer = .ok v → p) :
    Needs (Build.ofArithmetic answer) d p := by
  cases answer with
  | error operation => exact fun _ _ hrun => nomatch hrun
  | ok v => exact fun _ _ _ => h v rfl

theorem first (h : Needs call d p) {next : α → Build β} : Needs (call >>= next) d p := by
  intro w d' hrun
  obtain ⟨v, e, hcall, -⟩ := exists_of_bind hrun
  exact h v e hcall

/-- Going on with what the draft shows. -/
theorem look {view : Draft → Except BuildError α} {next : α → Build β}
    (h : ∀ v, view d = .ok v → Needs (next v) d p) : Needs (Build.inspect view >>= next) d p := by
  intro w d' hrun
  obtain ⟨v, hview, hrun⟩ := exists_of_inspect hrun
  exact h v hview w d' hrun

theorem map (h : Needs call d p) {f : α → β} : Needs (f <$> call) d p := by
  rw [← bind_pure_comp]
  exact h.first

end Needs

end Build

namespace Operation

/-- The ids that an operation looks up.  Asking for the type or the literal of an id is answered in
any case. -/
def arguments : Operation → List Id
  | .dataType id => [id]
  | .check _ v => [v.id]
  | .defineFunction id _ _ _ _ => [id]
  | .beginEntryPoint _ interface => interface.map Value.id
  | .executionMode id _ _ | .localSize id _ _ _ => [id]
  | .returnFunction value => value.toList.map Value.id
  | .callFunction id args => id :: args.map Value.id
  | .fAdd a b | .fSub a b | .fMul a b | .fMod a b | .dot a b | .fOrdEqual a b => [a.id, b.id]
  | .vectorTimesScalar vector scalar => [vector.id, scalar.id]
  | .extInst _ _ type args => type :: args.map Value.id
  | .floor v | .convertUToF v _ | .splat v _ | .compositeExtract v _ | .swizzle v _ => [v.id]
  | .select condition accept refuse => [condition.id, accept.id, refuse.id]
  | .compositeConstruct _ parts | .constantComposite _ parts => parts.map Value.id
  | .vectorShuffle a b _ => [a.id, b.id]
  | .sampledImage image sampler => [image.id, sampler.id]
  | .imageSampleExplicitLod image coordinate lod => [image.id, coordinate.id, lod.id]
  | .sampleImage image sampler coordinate => [image.id, sampler.id, coordinate.id]
  | .decorate id _ _ | .decorateMember id _ _ _ | .name id _ | .nameMember id _ _ => [id]
  | .descriptorBinding v _ _ => [v.id]
  | .accessChain base indices => base.id :: indices.map Value.id
  | .load pointer => [pointer.id]
  | .store pointer value => [pointer.id, value.id]
  | _ => []

/-- What an operation names or decorates. -/
def target? : Operation → Option Id
  | .decorate id _ _ | .decorateMember id _ _ _ | .name id _ | .nameMember id _ _ => some id
  | _ => none

section run

variable {d : Draft}

open Build Draft

theorem finds_all {vs : List Value} (h : ∀ v ∈ vs, ∃ t, d.Sees v t) :
    ∀ id ∈ vs.map Value.id, d.Finds id := by
  intro id hid
  obtain ⟨v, hv, rfl⟩ := List.mem_map.1 hid
  obtain ⟨t, ht⟩ := h v hv
  exact Or.inl ht.isVisible

theorem finds_visible {id : Id} (hid : d.isVisible id = true) : ∀ target ∈ [id], d.Finds target :=
  List.forall_mem_singleton.2 (Or.inl hid)

theorem finds_one {v : Value} {t : DataType} (hv : d.Sees v t) : ∀ id ∈ [v.id], d.Finds id :=
  fun id hid => Or.inl (isVisible_one hv id hid)

theorem finds_two {v w : Value} {t u : DataType} (hv : d.Sees v t) (hw : d.Sees w u) :
    ∀ id ∈ [v.id, w.id], d.Finds id :=
  fun id hid => Or.inl (isVisible_two hv hw id hid)

theorem floatBinary_needs (opcode : Opcode) (v w : Value) :
    Needs (floatBinary opcode v w) d (∀ id ∈ [v.id, w.id], d.Finds id) :=
  .first (.inspect fun _ ht => finds_two (floatPair_ok ht).1 (floatPair_ok ht).2.1)

/-- A member is that of a type that is known. -/
theorem recordMember_needs (id : Id) (member : Word) :
    Needs (Build.inspect (·.recordMember id member)) d (∀ target ∈ [id], d.Finds target) := by
  refine .inspect fun _ h => finds_visible ?_
  unfold recordMember at h
  split at h
  · next ht => exact isVisible_of_dataTypes ht
  · cases h

/-- A mode is that of an entry point, and so of a function. -/
theorem executionMode_needs (hd : d.Grounded) (id : Id) (mode : ExecutionMode)
    (literals : List Word) :
    Needs (Build.executionMode id mode literals) d (∀ target ∈ [id], d.Finds target) := by
  refine .first (.inspect fun _ h => List.forall_mem_singleton.2 ?_)
  split at h
  · next hentry => exact hd.finds hentry
  · cases h

/-- A function that is defined later was declared. -/
theorem defineFunction_needs (id : Id) (text : String) (result : DataType)
    (parameters : List DataType) (control : FunctionControl) :
    Needs (Build.defineFunction id text result parameters control) d
      (∀ target ∈ [id], d.Finds target) := by
  refine .look fun _ _ => .first (.inspect fun s hs => List.forall_mem_singleton.2 ?_)
  split at hs
  · next hlookup =>
      exact Or.inr (List.mem_append_right _
        (List.mem_map.2 ⟨_, mem_of_lookup_eq_some hlookup, rfl⟩))
  · cases hs

theorem beginEntryPoint_needs (text : String) (interface : List Value) :
    Needs (Build.beginEntryPoint text interface) d (∀ id ∈ interface.map Value.id, d.Finds id) := by
  refine .first (.inspect fun _ h => finds_all fun v hv => ?_)
  split at h
  · cases h
  · obtain ⟨t, ht | ht⟩ := interface_ok h v hv
    · exact ⟨_, ht⟩
    · exact ⟨_, ht⟩

/-- A call finds the function as well as what it is called with. -/
theorem callFunction_needs {a : Account} (ha : a.Consistent) (id : Id) (args : List Value) :
    Needs (Build.callFunction id args) a.draft
      (∀ target ∈ id :: args.map Value.id, a.draft.Finds target) := by
  refine .first (.inspect fun s h => ?_)
  obtain ⟨hs, hargs⟩ := callOf_ok h
  refine List.forall_mem_cons.2 ⟨Or.inr (ha.mem_callees hs), finds_all fun v hv => ?_⟩
  obtain ⟨_, -, -, ht⟩ := exists_of_mem_left hargs hv
  exact ht

/-- A return that succeeds has found its value: interning a type before hides and shows no value. -/
theorem returnFunction_needs {a : Account} (ha : a.Consistent) (value : Option Value) :
    Needs (Build.returnFunction value) a.draft
      (∀ id ∈ (Operation.returnFunction value).arguments, a.draft.Finds id) := by
  refine .look fun f _ => ?_
  intro w d' hrun
  rw [runOn_bind] at hrun
  rcases hvoid : (Build.typeId .void).runOn a.draft with ⟨e | void, d''⟩
  · rw [hvoid] at hrun
    cases hrun
  rw [hvoid] at hrun
  obtain ⟨b, rfl, -, -, hlearns⟩ :=
    (typeId_does .void ha : Does False _ a _).exists_of_ok hvoid
  have hneeds : Needs (Build.inspect (·.returnOperands f.result void value)) b.draft
      (∀ id ∈ value.toList.map Value.id, a.draft.Finds id) := by
    refine .inspect fun operands hreturn => ?_
    rcases returnOperands_ok hreturn with ⟨v, t, rfl, hv, -⟩ | ⟨rfl, -⟩
    · have hseen : a.draft.typeOf? v.id = some v.type := by
        rw [← hlearns.grows.typeOf?]
        exact hv.1
      exact List.forall_mem_singleton.2 (Or.inl (isVisible_of_typeOf? hseen))
    · exact List.forall_mem_nil _
  exact hneeds.first w d' hrun

/-- **A call that succeeds has found its arguments.** -/
theorem run_needs (o : Operation) {a : Account} (ha : a.Consistent) (hd : a.draft.Grounded) :
    Needs o.run a.draft (∀ id ∈ o.arguments, a.draft.Finds id) := by
  cases o with
  | dataType id =>
      exact .map (.inspect fun t ht => finds_visible (isVisible_of_dataTypes (dataType_eq_ok.1 ht)))
  | check opcode v => exact .map (.inspect fun t ht => finds_one (check_eq_ok.1 ht))
  | defineFunction id text result parameters control =>
      exact .map (defineFunction_needs id text result parameters control)
  | beginEntryPoint text interface => exact .map (beginEntryPoint_needs text interface)
  | executionMode id mode literals => exact .map (executionMode_needs hd id mode literals)
  | localSize id x y z => exact .map (executionMode_needs hd id .localSize [x, y, z])
  | returnFunction value => exact .map (returnFunction_needs ha value)
  | callFunction id args => exact .map (callFunction_needs ha id args)
  | fAdd v w => exact .map (floatBinary_needs .fAdd v w)
  | fSub v w => exact .map (floatBinary_needs .fSub v w)
  | fMul v w => exact .map (floatBinary_needs .fMul v w)
  | fMod v w => exact .map (floatBinary_needs .fMod v w)
  | dot v w =>
      refine .map (.first (.inspect fun s h => ?_))
      obtain ⟨width, hv, hw, -⟩ := dotOf_ok h
      exact finds_two hv hw
  | fOrdEqual v w =>
      exact .map (.first (.inspect fun t h => finds_two (floatPair_ok h).1 (floatPair_ok h).2.1))
  | vectorTimesScalar v x =>
      refine .map (.first (.inspect fun _ h => ?_))
      obtain ⟨s, width, hv, hx, -⟩ := scaling_ok h
      exact finds_two hv hx
  | extInst text number type args =>
      refine .map (.look fun t ht => .first (.inspect fun ts hts => ?_))
      refine List.forall_mem_cons.2 ⟨Or.inl ?_, finds_all (checkAll_ok hts)⟩
      exact isVisible_of_dataTypes (dataType_eq_ok.1 ht)
  | floor v => exact .map (.first (.inspect fun t h => finds_one (floatOperand_ok h).1))
  | convertUToF v target =>
      refine .map (.first (.inspect fun t h => ?_))
      obtain ⟨u, source, width, hv, -⟩ := conversion_ok h
      exact finds_one hv
  | select condition accept refuse =>
      refine .map (.first (.inspect fun _ h => ?_))
      obtain ⟨t, count, hc, ha, hr, -⟩ := selection_ok h
      exact List.forall_mem_cons.2 ⟨Or.inl hc.isVisible, finds_two ha hr⟩
  | compositeConstruct t parts =>
      refine .map (.look fun answer h => .first (.ofArithmetic fun _ hanswer => ?_))
      obtain ⟨s, ts, counts, -, hparts, -⟩ := construction_ok (hanswer ▸ h)
      refine finds_all fun v hv => ?_
      obtain ⟨u, -, hu⟩ := exists_of_mem_left hparts hv
      exact ⟨u, hu⟩
  | splat v width => exact .map (.first (.inspect fun t ht => finds_one (check_eq_ok.1 ht)))
  | compositeExtract v index =>
      refine .map (.first (.inspect fun s h => ?_))
      obtain ⟨width, hv, -⟩ := extraction_ok h
      exact finds_one hv
  | vectorShuffle v w indices =>
      refine .map (.first (.inspect fun t h => ?_))
      obtain ⟨s, m, n, hv, hw, -⟩ := shuffle_ok h
      exact finds_two hv hw
  | swizzle v indices =>
      refine .map (.first (.inspect fun _ h => ?_))
      obtain ⟨⟨s, width⟩, hv, -⟩ := bind_eq_ok.1 h
      exact finds_one (vectorOperand_ok hv)
  | constantComposite t parts =>
      refine .map (.first (.inspect fun _ h => finds_all fun v hv => ?_))
      obtain ⟨s, -, hparts⟩ := compositeOf_ok h
      exact ⟨_, (hparts v hv).2⟩
  | sampledImage image sampler =>
      refine .map (.first (.inspect fun t h => ?_))
      obtain ⟨shape, -, hi, hs, -⟩ := combination_ok h
      exact finds_two hi hs
  | imageSampleExplicitLod image coordinate lod =>
      refine .map (.first (.inspect fun s h => ?_))
      obtain ⟨shape, t, width, -, hi, hc, -, -, hl⟩ := sampling_ok h
      exact List.forall_mem_cons.2 ⟨Or.inl hi.isVisible, finds_two hc hl⟩
  | sampleImage image sampler coordinate =>
      refine .map (.look fun t ht => .first (.first (.inspect fun u h => ?_)))
      obtain ⟨shape, -, hi, hs, -⟩ := combination_ok h
      exact List.forall_mem_cons.2 ⟨Or.inl hi.isVisible, finds_two hs (floatOperand_ok ht).1⟩
  | decorate id decoration operands =>
      refine .map (.first (.inspect fun _ h => finds_visible ?_))
      split at h
      · next hdefined => exact Bool.or_eq_true_iff.2 (Or.inl hdefined)
      · cases h
  | decorateMember id m decoration operands => exact .map (.first (recordMember_needs id m))
  | descriptorBinding v set binding =>
      refine .map (.first (.inspect fun _ h => ?_))
      obtain ⟨t, ht, -⟩ := bind_eq_ok.1 h
      exact finds_one (check_eq_ok.1 ht)
  | accessChain base indices =>
      refine .map (.first (.inspect fun t h => ?_))
      obtain ⟨storage, pointee, part, hbase, hwalk, -⟩ := access_ok h
      exact List.forall_mem_cons.2 ⟨Or.inl hbase.isVisible, finds_all (walk_ok hwalk)⟩
  | load pointer => exact .map (.first (.inspect fun t h => finds_one (pointerOperand_ok h)))
  | store pointer value =>
      refine .map (.first (.inspect fun _ h => ?_))
      obtain ⟨storage, pointee, hp, hv⟩ := storing_ok h
      exact finds_two hp hv
  | name id text =>
      refine .map (.first (.inspect fun _ h => finds_visible ?_))
      split at h
      · assumption
      · cases h
  | nameMember id m text => exact .map (.first (recordMember_needs id m))
  | _ => exact fun _ _ _ => List.forall_mem_nil _

end run

end Operation

/-! ### Runs after a function was closed -/

namespace Draft

variable {d : Draft} {id : Id}

/-- What a draft does not find, it does not show. -/
theorem not_visible (h : ¬d.Finds id) : d.isVisible id = false :=
  Bool.eq_false_iff.2 fun hvisible => h (Or.inl hvisible)

theorem typeOf?_of_not_finds (h : ¬d.Finds id) : d.typeOf? id = none := by
  have hvisible := (Bool.or_eq_false_iff.1 (not_visible h)).2
  rwa [Option.isSome_eq_false_iff, Option.isNone_iff_eq_none] at hvisible

/-- A value that is not found does not pass a check. -/
theorem check_of_not_finds (h : ¬d.Finds id) (opcode : Opcode) (type : Id) :
    d.check opcode ⟨id, type⟩ = .error (.undefinedId id) := by
  simp only [check, typeOf?_of_not_finds h]

/-- What is not found can neither be named nor decorated. -/
theorem target_of_not_finds (h : ¬d.Finds id) {o : Operation} (ho : o.target? = some id) :
    (o.run.runOn d).1 = .error (.rejected (.missingTarget id)) := by
  have hvisible := not_visible h
  have hdefined : d.isDefined id = false := (Bool.or_eq_false_iff.1 hvisible).1
  have hmember (member : Word) : d.recordMember id member = .error (.missingTarget id) := by
    unfold recordMember
    split
    · next ht => exact absurd (Or.inl (isVisible_of_dataTypes ht)) h
    · rfl
  cases o with
  | decorate target decoration operands =>
      obtain rfl := Option.some.inj ho
      rw [Operation.run, Build.runOn_map, Build.decorate, Build.annotate, Build.runOn_bind,
        Build.runOn_inspect, hdefined]
      rfl
  | decorateMember target member decoration operands =>
      obtain rfl := Option.some.inj ho
      rw [Operation.run, Build.runOn_map, Build.decorateMember, Build.runOn_bind,
        Build.runOn_inspect, hmember]
      rfl
  | name target text =>
      obtain rfl := Option.some.inj ho
      rw [Operation.run, Build.runOn_map, Build.name, Build.runOn_bind, Build.runOn_inspect,
        hvisible]
      rfl
  | nameMember target member text =>
      obtain rfl := Option.some.inj ho
      rw [Operation.run, Build.runOn_map, Build.nameMember, Build.runOn_bind,
        Build.runOn_inspect, hmember]
      rfl
  | _ => cases ho

/-- **What a function has defined inside is refused ever after it was closed.**  Whatever has been
called before, and whatever is called afterwards:

* the id has no type, and it does not pass a check, whatever type is claimed for it;
* every operation that looks it up fails;
* it can neither be named nor decorated;
* no instruction that is added is about it, and none refers to it but the free operands of
  decorations. -/
theorem locals_confined {d : Draft} (h : d.Reachable) {f : Function} (hf : f ∈ d.sections.functions)
    {id : Id} (hid : id ∈ f.locals) (os : List Operation) :
    (d.after os).typeOf? id = none ∧
    (∀ opcode type, ((Operation.check opcode ⟨id, type⟩).run.runOn (d.after os)).1 =
      .error (.rejected (.undefinedId id))) ∧
    (∀ o : Operation, id ∈ o.arguments → ∃ e, (o.run.runOn (d.after os)).1 = .error e) ∧
    (∀ o : Operation, o.target? = some id →
      (o.run.runOn (d.after os)).1 = .error (.rejected (.missingTarget id))) ∧
    d.Appends (fun i => id ∉ i.targets ∧
      (i.opcode.place ≠ .inSection .annotations → id ∉ i.references)) (d.after os) := by
  obtain ⟨settings, a, rfl, ha, hchanges⟩ := h.exists_account
  obtain ⟨b, hb, hafter⟩ := after_changes False os ha False.elim
  have hafter : Account.Changes False True a b := hafter.mono fun _ => trivial
  rw [← hb]
  have hconsistent : b.Consistent := ha.after hafter
  have hnot : ¬b.draft.Finds id := by
    have hencloses : a.draft.Encloses id := ⟨f, hf, hid⟩
    exact (hencloses.mono hafter.appends_any.closed).not_finds hconsistent
  refine ⟨typeOf?_of_not_finds hnot, fun opcode type => ?_, fun o ho => ?_,
    fun o ho => target_of_not_finds hnot ho, ?_⟩
  · rw [Operation.run, Build.runOn_map, Build.runOn_inspect, check_of_not_finds hnot]
    rfl
  · rcases hrun : o.run.runOn b.draft with ⟨e | answer, d⟩
    · exact ⟨e, rfl⟩
    · have hneeds := o.run_needs hconsistent (hchanges.trans hafter).grounded
      exact absurd (hneeds answer d hrun id ho) hnot
  -- every draft on the way encloses the id, so nothing that it adds refers to it
  · refine hafter.appends (I := fun c => Account.Changes False True ⟨empty settings, []⟩ c ∧
      c.draft.Encloses id) ?_ ?_ ⟨hchanges, f, hf, hid⟩
    · rintro c e hstep ⟨hc, hencloses⟩
      exact ⟨hc.trans (.single hstep), hencloses.mono hstep.appends.closed⟩
    · rintro c ⟨hc, hencloses⟩ i hi
      have hconsistent : c.Consistent := (Account.Consistent.empty settings).after hc
      have hnot := hencloses.not_finds hconsistent
      obtain ⟨htargets, hreferences⟩ := hi.finds hconsistent hc.grounded
      exact ⟨fun hmem => hnot (htargets id hmem),
        fun hplace hmem => hnot (hreferences hplace id hmem)⟩

/-- The parameter of the last function of the sample is refused by a function opened later. -/
theorem locals_confined_of_sample : ((empty {}).after sampleCalls).Reachable ∧
    (∃ f ∈ ((empty {}).after sampleCalls).sections.functions, (11 : Id) ∈ f.locals) ∧
    ∃ e, ((Operation.fAdd ⟨11, 1⟩ ⟨2, 1⟩).run.runOn (((empty {}).after sampleCalls).after
      [.beginFunction "triple" (.float 32) [.float 32] .none])).1 = .error e := by
  have hreachable : ((empty {}).after sampleCalls).Reachable := ⟨{}, sampleCalls, rfl⟩
  have hlocal : ∃ f ∈ ((empty {}).after sampleCalls).sections.functions, (11 : Id) ∈ f.locals := by
    decide +kernel
  refine ⟨hreachable, hlocal, ?_⟩
  obtain ⟨f, hf, hid⟩ := hlocal
  obtain ⟨-, -, hfails, -⟩ := locals_confined hreachable hf hid
    [.beginFunction "triple" (.float 32) [.float 32] .none]
  exact hfails (.fAdd ⟨11, 1⟩ ⟨2, 1⟩) List.mem_cons_self

end Draft

end FrameShader
