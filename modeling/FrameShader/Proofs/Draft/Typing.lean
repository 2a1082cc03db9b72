/-
Typing: the instructions of a body fit the types of their operands.

A call claims a type for every value that it is given, and the claim may be false.  Each call checks
the claim against its tables, and the tables agree with what is written.  So the types of operands
can be read off the instructions that define them, and they obey a rule for each opcode.

Main definitions:

* `FrameShader.Draft.definitionOf?`, `FrameShader.Draft.valueTypeOf?`,
  `FrameShader.Draft.structureOf?` — the instruction that defines an id, the type of the value it
  defines, and the structure of a type;
* `FrameShader.Draft.WellTyped` — the typing rules;
* `FrameShader.Draft.Typed` — the invariant.

Main results:

* `FrameShader.Draft.Definition.wellTyped` — what is written obeys the rules;
* `FrameShader.Draft.after_wellTyped` — **every instruction of a body is well typed after any run**.
-/

import FrameShader.Proofs.Draft.Appending

set_option relaxedAutoImplicit false
set_option autoImplicit false

namespace FrameShader

/-! ### Reading types off instructions -/

namespace Draft

/-- The instruction that defines an id. -/
def definitionOf? (d : Draft) (id : Id) : Option Instruction :=
  d.definitions.find? fun i => i.result == some id

/-- The type of a value, as the instruction says that defines it. -/
def valueTypeOf? (d : Draft) (id : Id) : Option Id := (d.definitionOf? id).bind (·.valueType?)

/-- The structure of a type, as the instructions say that define it and its parts. -/
def structureOf? (d : Draft) (type : Id) : Option DataType :=
  (readTypes d.sections.globals).lookup type

/-- The value has this type, and the type has this structure. -/
structure Reads (d : Draft) (id type : Id) (t : DataType) : Prop where
  value : d.valueTypeOf? id = some type
  type : d.structureOf? type = some t

variable {d d' : Draft} {id type : Id} {i : Instruction}

theorem definitionOf?_eq_some (h : d.definedIds.Nodup) :
    d.definitionOf? id = some i ↔ i ∈ d.definitions ∧ i.result = some id :=
  definitionIn?_eq_some h

theorem valueTypeOf?_eq_some (h : d.definedIds.Nodup) :
    d.valueTypeOf? id = some type ↔
      ∃ i ∈ d.definitions, i.result = some id ∧ i.valueType? = some type := by
  simp only [valueTypeOf?, Option.bind_eq_some_iff, definitionOf?_eq_some h, and_assoc]

end Draft

/-! ### The typing rules -/

/-- Whether there is a typing rule for an instruction. -/
def Opcode.hasRule : Opcode → Bool
  | .fAdd | .fSub | .fMul | .fMod | .vectorTimesScalar | .dot | .fOrdEqual | .select => true
  | .compositeConstruct | .compositeExtract | .vectorShuffle => true
  | .sampledImage | .imageSampleExplicitLod | .load | .store => true
  | _ => false

namespace Draft

/-- The typing rules.  An instruction has the right operands, and their types fit each other and the
type of the result. -/
inductive WellTyped (d : Draft) : Instruction → Prop
  | arithmetic {opcode : Opcode} {type id a b : Id} {t : DataType} (ho : isArithmetic opcode)
      (ha : d.Reads a type t) (hb : d.Reads b type t) (ht : t.isFloat = true) :
      WellTyped d (.typed opcode type id [.id a, .id b])
  | vectorTimesScalar {type scalarType id v x : Id} {s : Scalar} {width : Word}
      (hv : d.Reads v type (.vector s width)) (hx : d.Reads x scalarType (.scalar s))
      (hs : s.isFloat = true) :
      WellTyped d (.typed .vectorTimesScalar type id [.id v, .id x])
  | dot {type vectorType id a b : Id} {s : Scalar} {width : Word}
      (ha : d.Reads a vectorType (.vector s width)) (hb : d.Reads b vectorType (.vector s width))
      (hs : s.isFloat = true) (htype : d.structureOf? type = some (.scalar s)) :
      WellTyped d (.typed .dot type id [.id a, .id b])
  | fOrdEqual {type operandType id a b : Id} {t u : DataType} (ha : d.Reads a operandType t)
      (hb : d.Reads b operandType t) (ht : t.isFloat = true)
      (htype : d.structureOf? type = some u) (hu : u.isBool = true)
      (hcount : u.components? = t.components?) :
      WellTyped d (.typed .fOrdEqual type id [.id a, .id b])
  | select {type conditionType id condition accept refuse : Id} {t u : DataType} {count : Word}
      (hc : d.Reads condition conditionType u) (ha : d.Reads accept type t)
      (hr : d.Reads refuse type t) (hu : u.isBool = true) (ht : t.components? = some count)
      (hcount : u.components? = some count) :
      WellTyped d (.typed .select type id [.id condition, .id accept, .id refuse])
  | compositeConstruct {type id : Id} {s : Scalar} {width : Word} {parts : List Id}
      {counts : List Word}
      (hparts : List.Forall₂ (fun part count => ∃ partType t, d.Reads part partType t ∧
        t.scalarOf = s ∧ t.components? = some count) parts counts)
      (hsum : (counts.map UInt32.toNat).sum = width.toNat)
      (htype : d.structureOf? type = some (.vector s width)) :
      WellTyped d (.typed .compositeConstruct type id (parts.map .id))
  | compositeExtract {type vectorType id v : Id} {s : Scalar} {width index : Word}
      (hv : d.Reads v vectorType (.vector s width)) (hi : index < width)
      (htype : d.structureOf? type = some (.scalar s)) :
      WellTyped d (.typed .compositeExtract type id [.id v, .literal index])
  | vectorShuffle {type aType bType id a b : Id} {s : Scalar} {m n width : Word}
      {indices : List Word} (ha : d.Reads a aType (.vector s m))
      (hb : d.Reads b bType (.vector s n)) (hi : ∀ i ∈ indices, i.toNat < m.toNat + n.toNat)
      (htype : d.structureOf? type = some (.vector s width))
      (hwidth : width.toNat = indices.length) :
      WellTyped d (.typed .vectorShuffle type id (.id a :: .id b :: indices.map .literal))
  | sampledImage {type imageType samplerType id image sampler : Id} {shape : ImageShape}
      (hi : d.Reads image imageType (.image shape)) (hs : d.Reads sampler samplerType .sampler)
      (hn : shape.sampled ≠ 2)
      (htype : d.structureOf? type = some (.sampledImage (.image shape))) :
      WellTyped d (.typed .sampledImage type id [.id image, .id sampler])
  | imageSampleExplicitLod {type imageType coordinateType lodType id image coordinate lod : Id}
      {shape : ImageShape} {t : DataType} {width : Word}
      (hi : d.Reads image imageType (.sampledImage (.image shape)))
      (hc : d.Reads coordinate coordinateType t) (ht : t.isFloat = true)
      (hcount : t.components? = some shape.coordinateWidth)
      (hl : d.Reads lod lodType (.float width))
      (htype : d.structureOf? type = some (.vector shape.sampledType 4)) :
      WellTyped d (.typed .imageSampleExplicitLod type id
        [.id image, .id coordinate, .imageOperands .lod, .id lod])
  | load {type pointerType id pointer : Id} {storage : StorageClass} {t : DataType}
      (hp : d.Reads pointer pointerType (.pointer storage t))
      (htype : d.structureOf? type = some t) :
      WellTyped d (.typed .load type id [.id pointer])
  | store {pointerType valueType pointer value : Id} {storage : StorageClass} {t : DataType}
      (hp : d.Reads pointer pointerType (.pointer storage t)) (hv : d.Reads value valueType t) :
      WellTyped d (.plain .store [.id pointer, .id value])
  | other {i : Instruction} (h : i.opcode.hasRule = false) : WellTyped d i

/-- Every type of vectors has a width that a module admits. -/
def HasWidths (d : Draft) : Prop :=
  ∀ e ∈ d.tables.dataTypes, ∀ s width, e.2 = .vector s width → isVectorWidth width = true

/-- Everything that is written obeys the rules. -/
structure Typed (d : Draft) : Prop where
  widths : d.HasWidths
  definitions : ∀ i ∈ d.definitions, d.WellTyped i

/-! ### Types stay what they are -/

variable {d d' : Draft} {id type : Id} {i : Instruction}

section extension

variable {ids ids' : List Id} {t : DataType}

theorem structureOf?_eq (h : Account.Consistent ⟨d, ids⟩) :
    d.structureOf? type = d.tables.dataTypes.lookup type := by
  have htypes : d.tables.dataTypes = readTypes d.sections.globals := h.types
  rw [structureOf?, htypes]

theorem Extends.structureOf? (hd : d.Extends d') (h : Account.Consistent ⟨d, ids⟩)
    (h' : Account.Consistent ⟨d', ids'⟩) (ht : d.structureOf? type = some t) :
    d'.structureOf? type = some t := by
  rw [structureOf?_eq h] at ht
  rw [structureOf?_eq h']
  exact hd.dataTypes ht

theorem Extends.reads (hd : d.Extends d') (h : Account.Consistent ⟨d, ids⟩)
    (h' : Account.Consistent ⟨d', ids'⟩) (hr : d.Reads id type t) : d'.Reads id type t := by
  refine ⟨?_, hd.structureOf? h h' hr.type⟩
  obtain ⟨i, hi, hvalue⟩ := (valueTypeOf?_eq_some h.nodup_definedIds).1 hr.value
  exact (valueTypeOf?_eq_some h'.nodup_definedIds).2 ⟨i, hd.definitions hi, hvalue⟩

/-- What is well typed stays so. -/
theorem Extends.wellTyped (hd : d.Extends d') (h : Account.Consistent ⟨d, ids⟩)
    (h' : Account.Consistent ⟨d', ids'⟩) (hi : d.WellTyped i) : d'.WellTyped i := by
  have hreads {id type : Id} {t : DataType} (hr : d.Reads id type t) : d'.Reads id type t :=
    hd.reads h h' hr
  have hstructure {type : Id} {t : DataType} (ht : d.structureOf? type = some t) :
      d'.structureOf? type = some t :=
    hd.structureOf? h h' ht
  cases hi with
  | arithmetic ho ha hb ht => exact .arithmetic ho (hreads ha) (hreads hb) ht
  | vectorTimesScalar hv hx hs => exact .vectorTimesScalar (hreads hv) (hreads hx) hs
  | dot ha hb hs htype => exact .dot (hreads ha) (hreads hb) hs (hstructure htype)
  | fOrdEqual ha hb ht htype hu hcount =>
      exact .fOrdEqual (hreads ha) (hreads hb) ht (hstructure htype) hu hcount
  | select hc ha hr hu ht hcount =>
      exact .select (hreads hc) (hreads ha) (hreads hr) hu ht hcount
  | compositeConstruct hparts hsum htype =>
      refine .compositeConstruct (hparts.imp fun part count hpart => ?_) hsum (hstructure htype)
      obtain ⟨partType, t, hr, hpart⟩ := hpart
      exact ⟨partType, t, hreads hr, hpart⟩
  | compositeExtract hv hi htype => exact .compositeExtract (hreads hv) hi (hstructure htype)
  | vectorShuffle ha hb hi htype hwidth =>
      exact .vectorShuffle (hreads ha) (hreads hb) hi (hstructure htype) hwidth
  | sampledImage hi hs hn htype =>
      exact .sampledImage (hreads hi) (hreads hs) hn (hstructure htype)
  | imageSampleExplicitLod hi hc ht hcount hl htype =>
      exact .imageSampleExplicitLod (hreads hi) (hreads hc) ht hcount (hreads hl)
        (hstructure htype)
  | load hp htype => exact .load (hreads hp) (hstructure htype)
  | store hp hv => exact .store (hreads hp) (hreads hv)
  | other h => exact .other h

end extension

/-! ### What a draft knows is written -/

section seen

variable {ids : List Id} {t : DataType} {v : Value}

/-- What can be seen has the type that is written. -/
theorem Sees.reads (hv : d.Sees v t) (h : Account.Consistent ⟨d, ids⟩) :
    d.Reads v.id v.type t := by
  obtain ⟨hvalue, ht⟩ := hv
  refine ⟨(valueTypeOf?_eq_some h.nodup_definedIds).2 ?_, (structureOf?_eq h).trans ht⟩
  rcases typeOf?_eq_some hvalue with ⟨f, hf, hlocal⟩ | hglobal | ⟨s, hs, htype⟩
  · obtain ⟨i, hi, hrow⟩ := h.exists_local hf hlocal
    refine ⟨i, mem_definitions.2 (Or.inr (Or.inr ⟨f.closed, ?_, ?_⟩)), hrow⟩
    · rw [bodies_of_some hf]
      exact List.mem_append_right _ List.mem_cons_self
    · exact Function.mem_instructions f.closed hi
  · obtain ⟨i, hi, hrow⟩ := h.exists_global hglobal
    exact ⟨i, mem_definitions.2 (Or.inr (Or.inl hi)), hrow⟩
  · obtain ⟨f, hf, hrow⟩ := h.exists_function hs
    have hresult := (Function.definition_of_signatureRow? hrow).1
    have hvalueType := Function.valueType?_of_signatureRow? hrow
    exact ⟨f.definition, mem_definitions.2 (Or.inr (Or.inr ⟨f, hf, List.mem_cons_self⟩)), hresult,
      htype ▸ hvalueType⟩

theorem Interned.structureOf? (ht : d.Interned t type) (h : Account.Consistent ⟨d, ids⟩) :
    d.structureOf? type = some t :=
  (structureOf?_eq h).trans (h.lookup_dataTypes ht)

/-- A known type of vectors has two to four components. -/
theorem HasWidths.width {s : Scalar} {width : Word} (hd : d.HasWidths)
    (h : d.tables.dataTypes.lookup type = some (.vector s width)) :
    2 ≤ width.toNat ∧ width.toNat ≤ 4 := by
  have hwidth := hd _ (mem_of_lookup_eq_some h) s width rfl
  simpa [isVectorWidth, UInt32.le_iff_toNat_le] using hwidth

/-- A known type has at most four components. -/
theorem HasWidths.components {count : Word} (hd : d.HasWidths)
    (h : d.tables.dataTypes.lookup type = some t) (ht : t.components? = some count) :
    count.toNat ≤ 4 := by
  unfold DataType.components? at ht
  split at ht
  · cases ht
  · cases ht
    decide
  · cases ht
    exact (hd.width h).2
  · cases ht

end seen

/-! ### What is written obeys the rules -/

/-- Few small numbers have a sum that is a word. -/
theorem sum_lt {counts : List Word} (h : ∀ count ∈ counts, count.toNat ≤ 4)
    (hlength : counts.length < 2 ^ 30) : (counts.map UInt32.toNat).sum < 2 ^ 32 := by
  have hsum : (counts.map UInt32.toNat).sum ≤ 4 * counts.length := by
    clear hlength
    induction counts with
    | nil => exact Nat.le_refl 0
    | cons count counts ih =>
        obtain ⟨hhead, hrest⟩ := List.forall_mem_cons.1 h
        have hcounts := ih hrest
        rw [List.map_cons, List.sum_cons, List.length_cons]
        omega
  omega

theorem isBool_withScalar (t : DataType) : (t.withScalar .bool).isBool = true := by
  cases t <;> rfl

theorem components?_withScalar {t : DataType} {count : Word} (h : t.components? = some count) :
    (t.withScalar .bool).components? = some count := by
  cases t with
  | scalar s => cases s <;> cases h <;> rfl
  | vector => exact h
  | _ => cases h

theorem components?_of_isFloat {t : DataType} (h : t.isFloat = true) :
    ∃ count, t.components? = some count := by
  cases t with
  | scalar s =>
      cases s with
      | float => exact ⟨1, rfl⟩
      | _ => cases h
  | vector s width => exact ⟨width, rfl⟩
  | _ => cases h

section rules

variable {ids : List Id} {short : Prop}

/-- The parts of a composite, with the number of their components. -/
theorem forall₂_parts (h : Account.Consistent ⟨d, ids⟩) {s : Scalar} {parts : List Value}
    {ts : List DataType} {counts : List Word} (hparts : List.Forall₂ d.Sees parts ts)
    (hs : ∀ t ∈ ts, t.scalarOf = s) (hcounts : ts.map DataType.components? = counts.map some) :
    List.Forall₂ (fun part count => ∃ partType t, d.Reads part partType t ∧ t.scalarOf = s ∧
      t.components? = some count) (parts.map Value.id) counts := by
  induction hparts generalizing counts with
  | nil =>
      obtain rfl := List.map_eq_nil_iff.1 hcounts.symm
      exact .nil
  | @cons v t parts ts hv _ ih =>
      cases counts with
      | nil => cases hcounts
      | cons count counts =>
          obtain ⟨hcount, hrest⟩ := List.cons.inj hcounts
          obtain ⟨hhead, hts⟩ := List.forall_mem_cons.1 hs
          exact .cons ⟨v.type, t, hv.reads h, hhead, hcount⟩ (ih hts hrest)

/-- **What is emitted obeys the rules.** -/
theorem Emission.wellTyped {opcode : Opcode} {operands : List Operand}
    (he : d.Emission short opcode type operands) (hshort : short)
    (h : Account.Consistent ⟨d, ids⟩) (hd : d.HasWidths) (id : Id) :
    d.WellTyped (.typed opcode type id operands) := by
  cases he with
  | arithmetic ho ha hb hab ht => exact .arithmetic ho (ha.reads h) (hab ▸ hb.reads h) ht
  | vectorTimesScalar hv hx hs => exact .vectorTimesScalar (hv.reads h) (hx.reads h) hs
  | dot ha hb hab hs htype =>
      exact .dot (ha.reads h) (hab ▸ hb.reads h) hs (htype.structureOf? h)
  | @fOrdEqual a b t type ha hb hab ht htype =>
      obtain ⟨count, hcount⟩ := components?_of_isFloat ht
      exact .fOrdEqual (ha.reads h) (hab ▸ hb.reads h) ht (htype.structureOf? h)
        (isBool_withScalar t) ((components?_withScalar hcount).trans hcount.symm)
  | @select condition accept refuse t count hc ha hr har ht =>
      exact .select (hc.reads h) (ha.reads h) (har ▸ hr.reads h) (isBool_withScalar t) ht
        (components?_withScalar ht)
  | @compositeConstruct s parts ts counts type hparts hs hcounts hlength htype =>
      have hforall := forall₂_parts h hparts hs hcounts
      -- the sum of so few small counts is a word, so it has not wrapped around
      have hsmall : ∀ count ∈ counts, count.toNat ≤ 4 := by
        intro count hcount
        obtain ⟨part, -, partType, t, hr, -, ht⟩ := exists_of_mem_right hforall hcount
        exact hd.components ((structureOf?_eq h).symm.trans hr.type) ht
      have hcount : counts.length < 2 ^ 30 := by
        rw [← hforall.length_eq, List.length_map]
        exact hlength hshort
      have hoperands : (parts.map fun v => Operand.id v.id) = (parts.map Value.id).map .id := by
        rw [List.map_map]
        rfl
      rw [hoperands]
      exact .compositeConstruct hforall (toNat_sum (sum_lt hsmall hcount)).symm
        (htype.structureOf? h)
  | compositeExtract hv hi htype => exact .compositeExtract (hv.reads h) hi (htype.structureOf? h)
  | @vectorShuffle a b s m n indices type ha hb hi hlength htype =>
      have hm := (hd.width ha.2).2
      have hn := (hd.width hb.2).2
      have hlength := hlength hshort
      -- vectors are narrow, so the sum of two widths does not wrap around either
      refine .vectorShuffle (ha.reads h) (hb.reads h) (fun i hmem => ?_) (htype.structureOf? h) ?_
      · have hlt := UInt32.lt_iff_toNat_lt.1 (hi i hmem)
        rw [UInt32.toNat_add] at hlt
        omega
      · exact UInt32.toNat_ofNat_of_lt' (show indices.length < 2 ^ 32 by omega)
  | sampledImage hi hs hn htype =>
      exact .sampledImage (hi.reads h) (hs.reads h) hn (htype.structureOf? h)
  | imageSampleExplicitLod hi hc ht hcount hl htype =>
      exact .imageSampleExplicitLod (hi.reads h) (hc.reads h) ht hcount (hl.reads h)
        (htype.structureOf? h)
  | load hp htype => exact .load (hp.reads h) (htype.structureOf? h)
  | extInst | convertUToF | accessChain | functionCall => exact .other rfl

/-- **What is written obeys the rules.** -/
theorem Definition.wellTyped (hi : d.Definition short i) (hshort : short)
    (h : Account.Consistent ⟨d, ids⟩) (hd : d.HasWidths) : d.WellTyped i := by
  cases hi with
  | importSet | global => exact .other rfl
  | type ht => cases ht <;> exact .other rfl
  | constant hk =>
      cases hk with
      | @bool value => cases value <;> exact .other rfl
      | scalar | composite => exact .other rfl
  | start _ _ hi =>
      rcases OpenFunction.mem_start.1 hi with rfl | ⟨v, -, rfl⟩ | rfl | rfl <;> exact .other rfl
  | emit he id => exact he.wellTyped hshort h hd id
  | store hp hv => exact .store (hp.reads h) (hv.reads h)
  | @leave value => cases value <;> exact .other rfl

end rules

end Draft

/-! ### Every run obeys the rules -/

namespace Account

variable {short exhausted : Prop} {a b : Account}

/-- Every type of vectors that is added has a width that a module admits. -/
theorem Change.widths (h : Change short exhausted a b) (ha : a.draft.HasWidths) :
    b.draft.HasWidths := by
  cases h with
  | @defineType d id ids t opcode operands _ ht =>
      refine List.forall_mem_cons.2 ⟨?_, ha⟩
      rintro s width rfl
      cases ht with
      | vector hwidth => exact hwidth
  | note hnote => exact (hnote.unseen Draft.HasWidths fun _ => rfl).mpr ha
  | @defineConstant d id ids key => cases key <;> exact ha
  | _ => exact ha

/-- **Every change keeps a draft typed.** -/
theorem Change.typed (h : Change short exhausted a b) (hshort : short) (ha : a.Consistent)
    (hd : a.draft.Typed) : b.draft.Typed := by
  refine ⟨h.widths hd.widths, fun i hi => ?_⟩
  refine (h.extends ha).wellTyped ha (ha.step h) ?_
  rcases h.definitions hi with hi | hi
  · exact hd.definitions i hi
  · exact hi.wellTyped hshort ha hd.widths

/-- Every run keeps a draft typed. -/
theorem Changes.typed {settings : ModuleSettings} (hshort : short)
    (h : Changes short exhausted ⟨Draft.empty settings, []⟩ b) : b.draft.Typed := by
  have hempty : (Draft.empty settings).Typed :=
    ⟨fun _ he => absurd he List.not_mem_nil, fun _ hi => absurd hi List.not_mem_nil⟩
  exact h.preserves_of_consistent (P := fun b => b.draft.Typed)
    (fun hb hstep => hstep.typed hshort hb) (.empty settings) hempty

end Account

namespace Draft

/-- **Every instruction of a body is well typed after any run.** -/
theorem after_wellTyped (settings : ModuleSettings) (os : List Operation)
    (hshort : ∀ o ∈ os, o.argumentCount < 2 ^ 30) :
    ∀ f ∈ ((empty settings).after os).bodies, ∀ i ∈ f.instructions,
      ((empty settings).after os).WellTyped i := by
  obtain ⟨b, hb, hchanges, -⟩ := run_account True settings os fun _ => hshort
  rw [← hb]
  intro f hf i hi
  exact (hchanges.typed trivial).definitions i (mem_definitions.2 (Or.inr (Or.inr ⟨f, hf, hi⟩)))

/-- The functions of the sample are well typed, and there is one that adds. -/
theorem after_wellTyped_of_sample :
    (∃ f ∈ ((empty {}).after sampleCalls).bodies, ∃ i ∈ f.instructions, i.opcode = .fAdd) ∧
      ∀ f ∈ ((empty {}).after sampleCalls).bodies, ∀ i ∈ f.instructions,
        ((empty {}).after sampleCalls).WellTyped i :=
  ⟨by decide +kernel, after_wellTyped {} sampleCalls (by decide)⟩

end Draft

end FrameShader
