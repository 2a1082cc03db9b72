/-
Providing: variables that a pipeline binds to, and what is written about them.

A new variable is decorated as soon as it is there.  Its type may be known already, and so may the
built-in value that it would hold.  But an array has its stride, and a built-in value its variable, from
the moment on when it was first asked for.  So what a pipeline looks for is found in either case.

Annotations are compared by their words, because that is how a draft tells whether it has one.

Main definitions:

* `FrameShader.Instruction.StatedIn` — an annotation that is there, word for word;
* `FrameShader.Draft.IsBlock` — the contents of a buffer, laid out;
* `FrameShader.Draft.Furnished` — arrays have their strides, and built-in values their variables.

Main results:

* `FrameShader.Draft.Furnished.of_step`, `FrameShader.Draft.Furnished.of_effect` — **every call keeps a
  draft furnished**;
* `FrameShader.Build.descriptorBinding_provides`, `FrameShader.Build.storageBuffer_provides`,
  `FrameShader.Build.builtInInput_provides` — what calls for resources leave behind;
* `FrameShader.Build.storageBuffer_affords`, `FrameShader.Build.builtInInput_affords` — when they
  succeed.
-/

import FrameShader.Proofs.Draft.Affording
import FrameShader.Proofs.Draft.Annotating

set_option relaxedAutoImplicit false
set_option autoImplicit false

namespace FrameShader

/-! ### Annotations by their words -/

/-- One of the instructions has the words of this one. -/
def Instruction.StatedIn (i : Instruction) (is : List Instruction) : Prop :=
  i.encode ∈ is.map Instruction.encode

theorem Instruction.StatedIn.mono {i : Instruction} {is js : List Instruction}
    (h : i.StatedIn is) (hsub : is ⊆ js) : i.StatedIn js :=
  List.map_subset _ hsub h

namespace Draft

open Build

variable {d d' : Draft}

/-- The table of annotations tells what is stated. -/
theorem Annotated.statedIn_iff (h : d.Annotated) {i : Instruction} :
    i.StatedIn d.sections.annotations ↔ i.encode ∈ d.tables.annotations := by
  rw [h.words, List.mem_reverse]
  rfl

/-- What is stated stays stated. -/
theorem Outgrows.stated {i : Instruction} (hgrows : d.Outgrows d')
    (h : i.StatedIn d.sections.annotations) : i.StatedIn d'.sections.annotations :=
  h.mono (hgrows.parts .annotations).subset

/-- The type is interned, and said to be a block whose first member stands where it begins. -/
structure IsBlock (d : Draft) (t : DataType) (block : Id) : Prop where
  type : d.Interned t block
  stated : (blockRow block).StatedIn d.sections.annotations
  begins : (offsetRow block).StatedIn d.sections.annotations

theorem IsBlock.outgrows {t : DataType} {block : Id} (h : d.IsBlock t block)
    (hgrows : d.Outgrows d') : d'.IsBlock t block :=
  ⟨hgrows.tables.types _ _ h.type, hgrows.stated h.stated, hgrows.stated h.begins⟩

/-- An annotation is known as soon as it was added. -/
theorem encode_mem_addToAnnotations (d : Draft) (i : Instruction) :
    i.encode ∈ (d.addToAnnotations i).tables.annotations := by
  unfold addToAnnotations
  split
  · next hknown => exact List.contains_iff_mem.1 hknown
  · exact List.mem_cons_self

/-- Annotations that are known stay known. -/
theorem annotations_subset_addToAnnotations (d : Draft) (i : Instruction) :
    d.tables.annotations ⊆ (d.addToAnnotations i).tables.annotations := by
  unfold addToAnnotations
  split
  · exact List.Subset.refl _
  · exact List.subset_cons_self _ _

/-! ### Variables of the module -/

namespace Declares

variable {storage : StorageClass} {t : DataType} {v : Value}

theorem outgrows (h : d.Declares storage t v) (hgrows : d.Outgrows d') : d'.Declares storage t v :=
  ⟨(hgrows.parts .globals).subset h.written, hgrows.tables.globals _ _ h.known,
    hgrows.tables.types _ _ h.type⟩

theorem isDefined (h : d.Declares storage t v) : d.isDefined v.id = true := by
  simp [Draft.isDefined, h.known]

/-- Nothing hides a variable of the module. -/
theorem sees {ids : List Id} (h : d.Declares storage t v) (hd : Account.Consistent ⟨d, ids⟩) :
    d.Sees v (.pointer storage t) := by
  refine ⟨hd.typeOf?_of_globalType? ?_, hd.lookup_dataTypes h.type⟩
  rw [globalType?, h.known]

end Declares

/-! ### Arrays and built-in values -/

/-- The draft has the stride of every array that has one, and the variable of every built-in value
that is in use. -/
structure Furnished (d : Draft) : Prop where
  strides : ∀ element id stride, d.Interned (.runtimeArray element) id → element.size = .ok stride →
    (strideRow id stride).encode ∈ d.tables.annotations
  builtIns : ∀ builtIn v, d.tables.builtIns.lookup builtIn = some v →
    .typed .variable v.type v.id [.storageClass .input] ∈ d.sections.globals ∧
      (builtInRow v.id builtIn).encode ∈ d.tables.annotations

namespace Furnished

/-- Nothing that has to be said is new. -/
theorem of_kept (h : d.Furnished) (htypes : d'.tables.types = d.tables.types)
    (hbuiltIns : d'.tables.builtIns = d.tables.builtIns)
    (hglobals : d.sections.globals ⊆ d'.sections.globals)
    (hannotations : d.tables.annotations ⊆ d'.tables.annotations) : d'.Furnished where
  strides element id stride hid hsize := by
    unfold Interned at hid
    rw [htypes] at hid
    exact hannotations (h.strides element id stride hid hsize)
  builtIns builtIn v hv := by
    rw [hbuiltIns] at hv
    obtain ⟨hvariable, hrow⟩ := h.builtIns builtIn v hv
    exact ⟨hglobals hvariable, hannotations hrow⟩

theorem of_bare (h : d.Furnished) (hsame : d'.bare = d.bare) : d'.Furnished := by
  refine h.of_kept (view_eq hsame (·.tables.types) fun _ => rfl)
    (view_eq hsame (·.tables.builtIns) fun _ => rfl) ?_ ?_
  · rw [view_eq hsame (·.sections.globals) fun _ => rfl]
    exact List.Subset.refl _
  · rw [view_eq hsame (·.tables.annotations) fun _ => rfl]
    exact List.Subset.refl _

theorem addToAnnotations (h : d.Furnished) (i : Instruction) : (d.addToAnnotations i).Furnished := by
  have hsame := d.unannotated_addToAnnotations i
  refine h.of_kept (view_eq hsame (·.tables.types) fun _ => rfl)
    (view_eq hsame (·.tables.builtIns) fun _ => rfl) ?_
    (d.annotations_subset_addToAnnotations i)
  rw [view_eq hsame (·.sections.globals) fun _ => rfl]
  exact List.Subset.refl _

/-- A new type leaves the arrays that are known as they are. -/
theorem strides_addTypeDefinition (h : d.Furnished) {t : DataType} (id : Id) (opcode : Opcode)
    (operands : List Operand) {element : DataType} {array : Id} {stride : Word}
    (hne : t ≠ .runtimeArray element)
    (harray : (d.addTypeDefinition id t opcode operands).Interned (.runtimeArray element) array)
    (hsize : element.size = .ok stride) :
    (strideRow array stride).encode ∈ d.tables.annotations :=
  h.strides element array stride ((lookup_cons_of_ne hne.symm).symm.trans harray) hsize

/-- A new type that is no array, or has no stride. -/
theorem addTypeDefinition (h : d.Furnished) {t : DataType} (id : Id) (opcode : Opcode)
    (operands : List Operand)
    (hnone : ∀ element stride, t = .runtimeArray element → element.size ≠ .ok stride) :
    (d.addTypeDefinition id t opcode operands).Furnished where
  strides element array stride harray hsize :=
    h.strides_addTypeDefinition id opcode operands (fun ht => hnone element stride ht hsize) harray
      hsize
  builtIns builtIn v hv := by
    obtain ⟨hvariable, hrow⟩ := h.builtIns builtIn v hv
    exact ⟨List.mem_append_left _ hvariable, hrow⟩

/-- A new array with its stride. -/
theorem addArray (h : d.Furnished) {element : DataType} {stride : Word} (id : Id) (opcode : Opcode)
    (operands : List Operand) (hsize : element.size = .ok stride) :
    ((d.addTypeDefinition id (.runtimeArray element) opcode operands).addToAnnotations
      (strideRow id stride)).Furnished := by
  have hsame := unannotated_addToAnnotations
    (d.addTypeDefinition id (.runtimeArray element) opcode operands) (strideRow id stride)
  have hkept := annotations_subset_addToAnnotations
    (d.addTypeDefinition id (.runtimeArray element) opcode operands) (strideRow id stride)
  refine ⟨fun other array stride' harray hsize' => ?_, fun builtIn v hv => ?_⟩
  · unfold Interned at harray
    rw [view_eq hsame (·.tables.types) fun _ => rfl] at harray
    by_cases hother : other = element
    · -- it is this array
      subst hother
      obtain rfl : array = id := (Option.some.inj (harray.symm.trans List.lookup_cons_self))
      obtain rfl : stride' = stride := Except.ok.inj (hsize'.symm.trans hsize)
      exact encode_mem_addToAnnotations _ _
    · refine hkept (h.strides_addTypeDefinition id opcode operands (fun heq => hother ?_) harray
        hsize')
      exact (DataType.runtimeArray.inj heq).symm
  · rw [view_eq hsame (·.tables.builtIns) fun _ => rfl] at hv
    rw [view_eq hsame (·.sections.globals) fun _ => rfl]
    obtain ⟨hvariable, hrow⟩ := h.builtIns builtIn v hv
    exact ⟨List.mem_append_left _ hvariable, hkept hrow⟩

/-- A new variable that holds a built-in value. -/
theorem addBuiltInVariable (h : d.Furnished) (builtIn : BuiltIn) (type id : Id) :
    (d.addBuiltInVariable builtIn type id).Furnished := by
  have hglobal : (d.addGlobalValue .variable type id [.storageClass .input]).Furnished :=
    h.of_kept rfl rfl (List.subset_append_left _ _) (List.Subset.refl _)
  have hvariable := hglobal.addToAnnotations (builtInRow id builtIn)
  have hglobals : ((d.addGlobalValue .variable type id [.storageClass .input]).addToAnnotations
      (builtInRow id builtIn)).sections.globals =
        d.sections.globals ++ [.typed .variable type id [.storageClass .input]] :=
    view_eq (unannotated_addToAnnotations _ _) (·.sections.globals) fun _ => rfl
  refine ⟨hvariable.strides, fun other v hv => ?_⟩
  by_cases hother : other = builtIn
  · subst hother
    obtain rfl : v = ⟨id, type⟩ := Option.some.inj (hv.symm.trans List.lookup_cons_self)
    refine ⟨?_, encode_mem_addToAnnotations _ _⟩
    show _ ∈ ((d.addGlobalValue .variable type id [.storageClass .input]).addToAnnotations
      (builtInRow id other)).sections.globals
    rw [hglobals]
    exact List.mem_append_right _ List.mem_cons_self
  · exact hvariable.builtIns other v ((lookup_cons_of_ne hother).symm.trans hv)

/-- **The steps that calls have in common keep a draft furnished.** -/
theorem of_step {f : Draft → Draft} (hf : Step f) (h : d.Furnished) : (f d).Furnished := by
  have hrefl := List.Subset.refl d.tables.annotations
  cases hf with
  | defineType id opcode operands hnone => exact h.addTypeDefinition id opcode operands hnone
  | defineArray id opcode operands hsize => exact h.addArray id opcode operands hsize
  | capability c => exact h.of_bare (d.bare_addCapability c)
  | name target member i => exact h.of_bare (d.bare_addName target member i)
  | defineConstant key =>
      cases key <;> exact h.of_kept rfl rfl (List.subset_append_left _ _) hrefl
  | defineVariable => exact h.of_kept rfl rfl (List.subset_append_left _ _) hrefl
  | _ => exact h.of_kept rfl rfl (List.Subset.refl _) hrefl

/-- **So do the steps of single operations.** -/
theorem of_effect {o : Operation} {f : Draft → Draft} (hf : o.Effect f) (h : d.Furnished) :
    (f d).Furnished := by
  have hrefl := List.Subset.refl d.tables.annotations
  cases hf with
  | decorate | decorateMember | set | binding | block | offset | nonWritable =>
      exact h.addToAnnotations _
  | builtIn builtIn t type id => exact h.addBuiltInVariable builtIn type id
  | extension | bufferExtension => exact h.of_bare (d.bare_addExtension _)
  | source language version => exact h.of_bare (d.bare_addSource language version)
  | _ => exact h.of_kept rfl rfl (List.Subset.refl _) hrefl

end Furnished

/-- Every built-in value in use is a variable of the module, and its type is interned. -/
def KnowsBuiltIns (d : Draft) : Prop :=
  ∀ builtIn v, d.tables.builtIns.lookup builtIn = some v →
    d.tables.globals.lookup v.id = some v.type ∧ ∃ t, d.Interned (.pointer .input t) v.type

end Draft

namespace Account

variable {short exhausted : Prop} {a b : Account}

/-- Changes keep what is known of built-in values. -/
theorem Changes.knowsBuiltIns (h : Changes short exhausted a b) (ha : a.Consistent)
    (hknows : a.draft.KnowsBuiltIns) : b.draft.KnowsBuiltIns := by
  refine h.preserves_of_consistent (P := fun b => b.draft.KnowsBuiltIns)
    (fun {b c} hb hstep hknows builtIn v hv => ?_) ha hknows
  have hkept := hstep.tables hb
  have hsame (hv' : b.draft.tables.builtIns.lookup builtIn = some v) :
      c.draft.tables.globals.lookup v.id = some v.type ∧
        ∃ t, c.draft.Interned (.pointer .input t) v.type := by
    obtain ⟨hglobal, t, ht⟩ := hknows builtIn v hv'
    exact ⟨hkept.globals _ _ hglobal, t, hkept.types _ _ ht⟩
  have hunseen {part : Draft → Draft} (hpart : part c.draft = part b.draft)
      (hview : ∀ d, (part d).tables.builtIns = d.tables.builtIns) :
      c.draft.tables.globals.lookup v.id = some v.type ∧
        ∃ t, c.draft.Interned (.pointer .input t) v.type :=
    hsame ((Draft.view_eq hpart (·.tables.builtIns) hview) ▸ hv)
  cases hstep with
  | note hnote =>
      cases hnote with
      | @builtIn other w t _ hglobal ht =>
          by_cases hother : builtIn = other
          · subst hother
            obtain rfl : v = w := Option.some.inj (hv.symm.trans List.lookup_cons_self)
            exact ⟨hkept.globals _ _ hglobal, t, hkept.types _ _ ht⟩
          · exact hsame ((lookup_cons_of_ne hother).symm.trans hv)
      | capability c => exact hunseen (Draft.bare_addCapability _ c) fun _ => rfl
      | extension text => exact hunseen (Draft.bare_addExtension _ text) fun _ => rfl
      | source language version =>
          exact hunseen (Draft.bare_addSource _ language version) fun _ => rfl
      | decorate | decorateMember =>
          exact hunseen (Draft.unannotated_addToAnnotations _ _) fun _ => rfl
      | name | nameMember => exact hunseen (Draft.bare_addName _ _ _ _) fun _ => rfl
      | record | configure | entryPoint | executionMode | slot => exact hsame hv
  | @defineConstant d id ids key => cases key <;> exact hsame hv
  | _ => exact hsame hv

end Account

/-- Annotations leave records as they are. -/
theorem Draft.recordMember_addToAnnotations (d : Draft) (i : Instruction) (target : Id)
    (member : Word) :
    (d.addToAnnotations i).recordMember target member = d.recordMember target member :=
  view_eq (d.unannotated_addToAnnotations i) (·.recordMember target member) fun _ => rfl

/-! ### What calls for resources leave behind -/

namespace Build

variable {α : Type} {short : Prop} {a : Account}

/-- What is known of a call includes where it leads. -/
theorem Does.tracked {call : Build α} {P : α → Account → Prop} (h : Does short call a P) :
    Does short call a fun v b =>
      P v b ∧ a.Changes short False b ∧ call.runOn a.draft = (.ok v, b.draft) := by
  unfold Does at h ⊢
  generalize call.runOn a.draft = r at h ⊢
  rcases r with ⟨e | v, d⟩
  · exact h
  · obtain ⟨b, rfl, hchanges, hP⟩ := h
    exact ⟨b, rfl, hchanges, hP, hchanges, rfl⟩

/-- What was decorated is stated. -/
theorem decorate_provides (hannotated : a.draft.Annotated) (target : Id) (decoration : Decoration)
    (operands : List Operand) :
    Does short (decorate target decoration operands) a fun _ b => a.Alike b ∧
      Instruction.StatedIn (.plain .decorate (.id target :: .decoration decoration :: operands))
        b.draft.sections.annotations := by
  refine (decorate_does target decoration operands).tracked.mono ?_
  rintro u b - ⟨halike, hchanges, hrun⟩
  refine ⟨halike, (hchanges.annotated hannotated).statedIn_iff.2 ?_⟩
  rw [runOn_decorate] at hrun
  split at hrun
  · rw [← (Prod.mk.inj hrun).2]
    exact Draft.encode_mem_addToAnnotations _ _
  · cases hrun

theorem decorateMember_provides (hannotated : a.draft.Annotated) (target : Id) (member : Word)
    (decoration : Decoration) (operands : List Operand) :
    Does short (decorateMember target member decoration operands) a fun _ b => a.Alike b ∧
      Instruction.StatedIn (.plain .memberDecorate
        (.id target :: .literal member :: .decoration decoration :: operands))
        b.draft.sections.annotations := by
  refine (decorateMember_does target member decoration operands).tracked.mono ?_
  rintro u b - ⟨halike, hchanges, hrun⟩
  refine ⟨halike, (hchanges.annotated hannotated).statedIn_iff.2 ?_⟩
  rw [Draft.runOn_decorateMember] at hrun
  split at hrun
  · cases hrun
  · split at hrun
    · rw [← (Prod.mk.inj hrun).2]
      exact Draft.encode_mem_addToAnnotations _ _
    · cases hrun

/-- The slot was free, and the resource is found there from now on. -/
theorem descriptorBinding_provides (ha : a.Consistent) (hannotated : a.draft.Annotated) (v : Value)
    (set binding : Word) : Does short (descriptorBinding v set binding) a fun _ b =>
      a.draft.tables.slots.lookup (set, binding) = none ∧
      b.draft.tables.slots = ((set, binding), v.id) :: a.draft.tables.slots ∧
      b.draft.tables.builtIns = a.draft.tables.builtIns ∧
      (setRow v.id set).StatedIn b.draft.sections.annotations ∧
      (bindingRow v.id binding).StatedIn b.draft.sections.annotations := by
  refine .inspect fun _ h => .change ha (.note (.slot h)) fun ha' => ?_
  have hannotated' : (a.draft.addSlot set binding v.id).Annotated := hannotated.of_eq rfl rfl
  refine .bind ha' (decorate_provides hannotated' _ _ _).tracked ?_
  rintro u b hb ⟨⟨halike, hset⟩, hchanges, -⟩
  refine (decorate_provides (hchanges.annotated hannotated') _ _ _).mono ?_
  rintro u c hchanges' ⟨halike', hbinding⟩
  refine ⟨(Draft.slotFor_eq_ok_iff.1 h).free, halike'.grows.slots.trans halike.grows.slots,
    halike'.grows.builtIns.trans halike.grows.builtIns, ?_, hbinding⟩
  exact (hchanges'.outgrows hb).stated hset

/-- The type of the contents of a buffer: a record of one array. -/
def bufferType (element : DataType) : DataType := .record [.runtimeArray element]

/-- A buffer is a variable of the module, and its contents are laid out. -/
theorem storageBuffer_provides (ha : a.Consistent) (hannotated : a.draft.Annotated)
    (element : DataType) (access : Access) :
    Does short (storageBuffer element access) a fun v b =>
      b.draft.Declares .storageBuffer (bufferType element) v ∧
      (∃ block, b.draft.IsBlock (bufferType element) block) ∧
      (access = .readOnly → (nonWritableRow v.id).StatedIn b.draft.sections.annotations) ∧
      b.draft.tables.builtIns = a.draft.tables.builtIns ∧
      b.draft.tables.slots = a.draft.tables.slots := by
  refine .bind ha (extension_does _).tracked ?_
  rintro u a₁ ha₁ ⟨h₁, hchanges₁, -⟩
  have hannotated₁ := hchanges₁.annotated hannotated
  refine .bind ha₁ (typeId_does (bufferType element) ha₁).tracked ?_
  rintro block a₂ ha₂ ⟨⟨hblock, h₂⟩, hchanges₂, -⟩
  have hannotated₂ := hchanges₂.annotated hannotated₁
  refine .bind ha₂ (decorate_provides hannotated₂ block .block []).tracked ?_
  rintro u a₃ ha₃ ⟨⟨h₃, hrow⟩, hchanges₃, -⟩
  have hannotated₃ := hchanges₃.annotated hannotated₂
  refine .bind ha₃ (decorateMember_provides hannotated₃ block 0 .offset [.literal 0]).tracked ?_
  rintro u a₄ ha₄ ⟨⟨h₄, hoffset⟩, hchanges₄, -⟩
  have hannotated₄ := hchanges₄.annotated hannotated₃
  refine .bind ha₄ (globalVariable_does ha₄ .storageBuffer (bufferType element)).tracked ?_
  rintro v a₅ ha₅ ⟨⟨-, hvariable, hbuiltIns, hslots⟩, hchanges₅, -⟩
  -- what was said of the contents is still said
  have hblock₅ : a₅.draft.IsBlock (bufferType element) block := by
    have hlater₄ := hchanges₅.outgrows ha₄
    have hlater₃ := (hchanges₄.outgrows ha₃).trans hlater₄
    have hlater₂ := (hchanges₃.outgrows ha₂).trans hlater₃
    exact ⟨hlater₂.tables.types _ _ hblock, hlater₃.stated hrow, hlater₄.stated hoffset⟩
  have hgrows := ((h₁.grows.trans h₂.grows).trans h₃.grows).trans h₄.grows
  have hbuiltIns' : a₅.draft.tables.builtIns = a.draft.tables.builtIns :=
    hbuiltIns.trans hgrows.builtIns
  have hslots' : a₅.draft.tables.slots = a.draft.tables.slots := hslots.trans hgrows.slots
  by_cases haccess : access = .readOnly
  · rw [if_pos haccess]
    have hannotated₅ := hchanges₅.annotated hannotated₄
    refine .bind ha₅ (decorate_provides hannotated₅ v.id .nonWritable []).tracked ?_
    rintro u a₆ - ⟨⟨h₆, hreadOnly⟩, hchanges₆, -⟩
    have hgrows₆ := hchanges₆.outgrows ha₅
    exact .pure ⟨hvariable.outgrows hgrows₆, ⟨block, hblock₅.outgrows hgrows₆⟩,
      fun _ => hreadOnly, h₆.grows.builtIns.trans hbuiltIns', h₆.grows.slots.trans hslots'⟩
  · rw [if_neg haccess]
    exact .pure ⟨hvariable, ⟨block, hblock₅⟩, fun h => absurd h haccess, hbuiltIns', hslots'⟩

/-- The built-in value is in use from now on, and if it was before, then with the same type. -/
theorem builtInInput_provides (ha : a.Consistent) (hknows : a.draft.KnowsBuiltIns)
    (builtIn : BuiltIn) (t : DataType) : Does short (builtInInput builtIn t) a fun v b =>
      (∀ w, a.draft.tables.builtIns.lookup builtIn = some w →
        a.draft.tables.dataTypes.lookup w.type = some (.pointer .input t)) ∧
      b.draft.tables.builtIns.lookup builtIn = some v ∧
      b.draft.Interned (.pointer .input t) v.type ∧
      b.draft.tables.slots = a.draft.tables.slots := by
  unfold builtInInput
  refine .get ?_
  cases hknown : a.draft.tables.builtIns.lookup builtIn with
  | some existing =>
      refine .bind ha (typeId_does (.pointer .input t) ha) fun wanted b hb htype => ?_
      by_cases hsame : existing.type ≠ wanted
      · simp only [if_pos hsame]
        exact .inspect fun _ _ => .inspect fun _ _ => ⟨b, rfl, .refl b⟩
      · simp only [if_neg hsame]
        obtain rfl := not_not.1 hsame
        refine .pure ⟨fun w hw => ?_, ?_, htype.1, htype.2.grows.slots⟩
        · -- its type has been interned all the time
          obtain rfl := Option.some.inj hw
          obtain ⟨-, u, hu⟩ := hknows builtIn existing hknown
          have hsame := hb.lookup_dataTypes (htype.2.grows.types hu)
          rw [hb.lookup_dataTypes htype.1] at hsame
          rw [ha.lookup_dataTypes hu, ← Option.some.inj hsame]
        · rw [htype.2.grows.builtIns]
          exact hknown
  | none =>
      refine .bind ha (globalVariable_does ha .input t) ?_
      rintro v b hb ⟨-, hvariable, hbuiltIns, hslots⟩
      refine .bind hb (decorate_does _ _ _) fun _ c hc hbc => ?_
      have hnew : c.draft.tables.builtIns.lookup builtIn = none := by
        rw [hbc.grows.builtIns, hbuiltIns]
        exact hknown
      have hglobal : c.draft.tables.globals.lookup v.id = some v.type := by
        rw [hbc.grows.globals]
        exact hvariable.known
      have htype := hbc.grows.types hvariable.type
      refine .change hc (.note (.builtIn hnew hglobal htype)) fun _ => .pure ⟨?_, ?_, htype, ?_⟩
      · exact fun _ hw => nomatch hw
      · exact List.lookup_cons_self
      · exact hbc.grows.slots.trans hslots

/-! ### When they succeed -/

/-- A new variable is defined. -/
theorem isDefined_of_globalVariable {storage : StorageClass} {t : DataType} {d d' : Draft} {v : Value}
    (h : (globalVariable storage t).runOn d = (.ok v, d')) : d'.isDefined v.id = true := by
  obtain ⟨type, e, -, rfl, rfl⟩ := runOn_globalVariable_ok h
  simp [Draft.isDefined, Draft.addGlobalValue, Draft.addGlobalType, Draft.addGlobal]

/-- A resource can be put into a slot that is free. -/
theorem slotFor_eq_ok {d : Draft} {v : Value} {storage : StorageClass} {t : DataType}
    {set binding : Word} (hv : d.Sees v (.pointer storage t))
    (hstorage : storage = .uniformConstant ∨ storage = .storageBuffer) :
    d.slotFor v set binding = match d.tables.slots.lookup (set, binding) with
      | some existing => .error (.duplicateBinding set binding existing)
      | none => .ok () := by
  rw [Draft.slotFor, Draft.check_eq_ok.2 hv]
  rcases hstorage with rfl | rfl
  · show (match d.tables.slots.lookup (set, binding) with | some _ => _ | none => _) = _
    cases d.tables.slots.lookup (set, binding) <;> rfl
  · show (match d.tables.slots.lookup (set, binding) with | some _ => _ | none => _) = _
    cases d.tables.slots.lookup (set, binding) <;> rfl

section slots

variable {v : Value} {storage : StorageClass} {t : DataType} {set binding : Word}
  (ha : a.Consistent) (hv : a.draft.Declares storage t v)
  (hstorage : storage = .uniformConstant ∨ storage = .storageBuffer)

include ha hv hstorage

/-- A variable of the module takes a slot that is free. -/
theorem descriptorBinding_affords {n : Nat}
    (hfree : a.draft.tables.slots.lookup (set, binding) = none) :
    Affords n (descriptorBinding v set binding) a.draft := by
  have hslot : a.draft.slotFor v set binding = .ok () := by
    rw [slotFor_eq_ok (hv.sees ha) hstorage, hfree]
  have hrun : (descriptorBinding v set binding).runOn a.draft =
      (.ok (), ((a.draft.addSlot set binding v.id).addToAnnotations
        (setRow v.id set)).addToAnnotations (bindingRow v.id binding)) := by
    simp only [Draft.runOn_descriptorBinding, hslot, if_pos hv.isDefined]
  refine .of_ok hrun ?_
  rw [Draft.nextId_addToAnnotations, Draft.nextId_addToAnnotations]
  rfl

/-- A slot that is taken is refused, with what has taken it. -/
theorem descriptorBinding_taken {existing : Id}
    (htaken : a.draft.tables.slots.lookup (set, binding) = some existing) :
    (descriptorBinding v set binding).runOn a.draft =
      (.error (.rejected (.duplicateBinding set binding existing)), a.draft) := by
  have hslot : a.draft.slotFor v set binding =
      .error (.duplicateBinding set binding existing) := by
    rw [slotFor_eq_ok (hv.sees ha) hstorage, htaken]
  simp only [Draft.runOn_descriptorBinding, hslot]

end slots

/-- A buffer of elements that have a size can be had: its contents are defined, and then a variable
for them. -/
theorem storageBuffer_affords (ha : a.Consistent) {element : DataType} (access : Access)
    (helement : element.isDefinable = true) (hsize : element.size.isOk = true) :
    Affords (2 * element.parts + 6) (storageBuffer element access) a.draft := by
  have hdefinable : (bufferType element).isDefinable = true := by
    simp [bufferType, DataType.isDefinable, DataType.areDefinable, helement, hsize]
  have hparts : (bufferType element).parts = element.parts + 2 := rfl
  have hcount : 2 * element.parts + 6 =
      (bufferType element).parts + ((bufferType element).parts + 2) := by omega
  rw [hcount]
  let a₁ : Account := ⟨a.draft.addExtension storageBufferExtension, a.spare⟩
  have hstep : a.Change False False a₁ := .note (.extension _)
  have hids : a₁.draft.nextId = a.draft.nextId :=
    Draft.view_eq (a.draft.bare_addExtension storageBufferExtension) Draft.nextId fun _ => rfl
  have hrun₁ : (extension storageBufferExtension).runOn a.draft = (.ok (), a₁.draft) := rfl
  refine .step hrun₁ hids ?_
  refine .bind (typeId_affords (bufferType element) hdefinable) fun block d₂ hrun₂ => ?_
  have htype : Does False (typeId (bufferType element)) a₁ _ := typeId_does _ (ha.step hstep)
  obtain ⟨a₂, rfl, hchanges₂, hblock, -⟩ := htype.exists_of_ok hrun₂
  have hlookup := ((ha.step hstep).after hchanges₂).lookup_dataTypes hblock
  -- the contents have been defined, so they can be decorated, and so can their member
  have hdefined : a₂.draft.isDefined block = true := by
    simp [Draft.isDefined, hlookup]
  have hmember : a₂.draft.recordMember block 0 = .ok () := by
    rw [Draft.recordMember, hlookup]
    rfl
  refine .step (runOn_decorate_of_defined hdefined _ _) (Draft.nextId_addToAnnotations _ _) ?_
  have hrun₃ : (decorateMember block 0 .offset [.literal 0]).runOn
      (a₂.draft.addToAnnotations (blockRow block)) =
        (.ok (), (a₂.draft.addToAnnotations (blockRow block)).addToAnnotations
          (offsetRow block)) := by
    simp only [Draft.runOn_decorateMember, Draft.recordMember_addToAnnotations, hmember,
      Draft.isDefined_addToAnnotations, hdefined, if_true]
    rfl
  refine .step hrun₃ (Draft.nextId_addToAnnotations _ _) ?_
  refine .bind (n := 0) (globalVariable_affords (by decide) hdefinable) fun v d₄ hrun₄ => ?_
  by_cases haccess : access = .readOnly
  · rw [if_pos haccess]
    exact .bind (m := 0) (n := 0) (decorate_affords (isDefined_of_globalVariable hrun₄) _ _)
      fun _ _ _ => .pure
  · rw [if_neg haccess]
    exact .pure

/-- A built-in value can be had if it is not in use, or has this type. -/
theorem builtInInput_affords (ha : a.Consistent) (hknows : a.draft.KnowsBuiltIns)
    {builtIn : BuiltIn} {t : DataType} (ht : t.isDefinable = true)
    (hknown : ∀ w, a.draft.tables.builtIns.lookup builtIn = some w →
      a.draft.tables.dataTypes.lookup w.type = some (.pointer .input t)) :
    Affords (t.parts + 2) (builtInInput builtIn t) a.draft := by
  unfold builtInInput
  refine .get ?_
  cases hlookup : a.draft.tables.builtIns.lookup builtIn with
  | some existing =>
      -- the type is interned, so it is answered
      have htype : a.draft.Interned (.pointer .input t) existing.type := by
        obtain ⟨-, u, hu⟩ := hknows builtIn existing hlookup
        have hsame := (ha.lookup_dataTypes hu).symm.trans (hknown existing hlookup)
        exact Option.some.inj hsame ▸ hu
      refine .step (typeId_of_interned htype) rfl ?_
      simp only [ne_eq, not_true_eq_false, if_false]
      exact .pure
  | none =>
      refine .bind (n := 0) (globalVariable_affords (by decide) ht) fun v d₁ hrun => ?_
      exact .bind (m := 0) (n := 0) (decorate_affords (isDefined_of_globalVariable hrun) _ _)
        fun _ _ _ => .change .pure rfl

end Build

end FrameShader
