/-
Emitting: the calls that add instructions and variables.

Each of them looks at its operands first and asks for the type of its result.  Asking for types
changes nothing that was looked at, so when the instruction is added, all that was checked before
still holds.

Main definitions:

* `FrameShader.Draft.Declares` — a variable of the module.

Main results:

* `FrameShader.Build.emitValue_does`, `FrameShader.Build.emitTyped_does` — **an instruction with a
  result is only added as its opcode allows**;
* `FrameShader.Build.globalVariable_does`, `FrameShader.Build.builtInInput_does` — variables of the
  module;
* the lemmas `…_does` — one for each call.
-/

import FrameShader.Proofs.Draft.Interning

set_option relaxedAutoImplicit false
set_option autoImplicit false

namespace FrameShader

/-- The value is a variable of the module, and points to something of type `t`. -/
structure Draft.Declares (d : Draft) (storage : StorageClass) (t : DataType) (v : Value) : Prop where
  written : .typed .variable v.type v.id [.storageClass storage] ∈ d.sections.globals
  known : d.tables.globals.lookup v.id = some v.type
  type : d.Interned (.pointer storage t) v.type

namespace Build

variable {short : Prop} {a : Account}

/-! ### Instructions of a body -/

theorem emitValue_does {opcode : Opcode} {type : Id} {operands : List Operand} (ha : a.Consistent)
    (h : a.draft.Emission short opcode type operands) :
    Does short (emitValue opcode type operands) a fun _ b => b.spare = a.spare := by
  refine .inspect fun f hf => .freshId ha fun ha' => ?_
  obtain ⟨hcurrent, hopen⟩ := Draft.writable_eq_ok.1 hf
  exact .change ha' (.emit hcurrent hopen ((Draft.Grows.take a).emission h)) fun _ => .pure rfl

/-- An instruction whose result type is asked for first. -/
theorem emitTyped_does {opcode : Opcode} {operands : List Operand} (ha : a.Consistent)
    (t : DataType)
    (h : ∀ type d, a.draft.Grows d → d.Interned t type → d.Emission short opcode type operands) :
    Does short (typeId t >>= fun type => emitValue opcode type operands) a
      fun _ b => b.spare = a.spare := by
  refine .bind ha (typeId_does t ha) fun type b hb htype => ?_
  refine (emitValue_does hb (h type b.draft htype.2.grows htype.1)).mono ?_
  exact fun _ c _ hbc => hbc.trans htype.2.spare

/-! ### Arithmetic -/

theorem floatBinary_does {opcode : Opcode} (ha : a.Consistent) (ho : Draft.isArithmetic opcode)
    (v w : Value) : Does short (floatBinary opcode v w) a fun _ b => b.spare = a.spare := by
  refine .inspect fun t h => ?_
  obtain ⟨hv, hw, hvw, ht⟩ := Draft.floatPair_ok h
  exact emitValue_does ha (.arithmetic ho hv hw hvw ht)

theorem vectorTimesScalar_does (ha : a.Consistent) (v x : Value) :
    Does short (vectorTimesScalar v x) a fun _ b => b.spare = a.spare := by
  refine .inspect fun _ h => ?_
  obtain ⟨s, width, hv, hx, hs⟩ := Draft.scaling_ok h
  exact emitValue_does ha (.vectorTimesScalar hv hx hs)

theorem dot_does (ha : a.Consistent) (v w : Value) :
    Does short (dot v w) a fun _ b => b.spare = a.spare := by
  refine .inspect fun s h => ?_
  obtain ⟨width, hv, hw, hvw, hs⟩ := Draft.dotOf_ok h
  refine emitTyped_does ha _ fun type d hgrows htype => ?_
  exact .dot (hgrows.sees hv) (hgrows.sees hw) hvw hs htype

theorem extInst_does (ha : a.Consistent) (text : String) (number : Word) (type : Id)
    (args : List Value) :
    Does short (extInst text number type args) a fun _ b => b.spare = a.spare := by
  refine .inspect fun t ht => .inspect fun ts hts => ?_
  rw [Draft.dataType_eq_ok] at ht
  refine .bind ha (importSet_does ha text) ?_
  rintro set b hb ⟨hset, hspare, hgrows⟩
  have hargs : ∀ v ∈ args, ∃ u, b.draft.Sees v u := by
    intro v hv
    obtain ⟨u, hu⟩ := Draft.checkAll_ok hts v hv
    exact ⟨u, hgrows.sees hu⟩
  refine (emitValue_does hb (.extInst (hgrows.dataTypes ht) hargs hset)).mono ?_
  exact fun _ c _ hbc => hbc.trans hspare

theorem floor_does (ha : a.Consistent) (v : Value) :
    Does short (floor v) a fun _ b => b.spare = a.spare :=
  .inspect fun _ _ => extInst_does ha _ _ _ _

theorem convertUToF_does (ha : a.Consistent) (v : Value) (target : Scalar) :
    Does short (convertUToF v target) a fun _ b => b.spare = a.spare := by
  refine .inspect fun t h => ?_
  obtain ⟨u, source, width, hv, hs, rfl, rfl⟩ := Draft.conversion_ok h
  exact emitTyped_does ha _ fun type d hgrows htype => .convertUToF (hgrows.sees hv) hs htype

theorem fOrdEqual_does (ha : a.Consistent) (v w : Value) :
    Does short (fOrdEqual v w) a fun _ b => b.spare = a.spare := by
  refine .inspect fun t h => ?_
  obtain ⟨hv, hw, hvw, ht⟩ := Draft.floatPair_ok h
  refine emitTyped_does ha _ fun type d hgrows htype => ?_
  exact .fOrdEqual (hgrows.sees hv) (hgrows.sees hw) hvw ht htype

theorem select_does (ha : a.Consistent) (condition accept refuse : Value) :
    Does short (select condition accept refuse) a fun _ b => b.spare = a.spare := by
  refine .inspect fun _ h => ?_
  obtain ⟨t, count, hc, haccept, hrefuse, hsame, hcount⟩ := Draft.selection_ok h
  exact emitValue_does ha (.select hc haccept hrefuse hsame hcount)

/-! ### Vectors -/

theorem compositeConstruct_does (ha : a.Consistent) (t : DataType) (parts : List Value)
    (hshort : short → parts.length < 2 ^ 30) :
    Does short (compositeConstruct t parts) a fun _ b => b.spare = a.spare := by
  refine .inspect fun answer h => .ofArithmetic fun _ hanswer => ?_
  obtain ⟨s, ts, counts, rfl, hparts, hs, hcounts⟩ := Draft.construction_ok (hanswer ▸ h)
  refine emitTyped_does ha _ fun type d hgrows htype => ?_
  exact .compositeConstruct (hparts.imp fun _ _ => hgrows.sees) hs hcounts hshort htype

theorem splat_does (ha : a.Consistent) (scalar : Value) (width : Word) :
    Does short (splat scalar width) a fun _ b => b.spare = a.spare := by
  refine .inspect fun t _ => ?_
  cases t with
  | scalar s =>
      refine .ofExcept fun t ht => compositeConstruct_does ha t _ fun _ => ?_
      have hwidth := toNat_of_isVectorWidth (Draft.vector?_eq_ok ht).1
      rw [List.length_replicate]
      omega
  | _ => exact .reject

theorem compositeExtract_does (ha : a.Consistent) (v : Value) (index : Word) :
    Does short (compositeExtract v index) a fun _ b => b.spare = a.spare := by
  refine .inspect fun s h => ?_
  obtain ⟨width, hv, hindex⟩ := Draft.extraction_ok h
  exact emitTyped_does ha _ fun type d hgrows htype =>
    .compositeExtract (hgrows.sees hv) hindex htype

theorem vectorShuffle_does (ha : a.Consistent) (v w : Value) (indices : List Word)
    (hshort : short → indices.length < 2 ^ 30) :
    Does short (vectorShuffle v w indices) a fun _ b => b.spare = a.spare := by
  refine .inspect fun t h => ?_
  obtain ⟨s, m, n, hv, hw, hindices, rfl⟩ := Draft.shuffle_ok h
  exact emitTyped_does ha _ fun type d hgrows htype =>
    .vectorShuffle (hgrows.sees hv) (hgrows.sees hw) hindices hshort htype

theorem swizzle_does (ha : a.Consistent) (v : Value) (indices : List Word)
    (hshort : short → indices.length < 2 ^ 30) :
    Does short (swizzle v indices) a fun _ b => b.spare = a.spare := by
  refine .inspect fun _ _ => ?_
  split
  · exact compositeExtract_does ha v _
  · exact vectorShuffle_does ha v v indices hshort

/-! ### Images -/

theorem sampledImage_does (ha : a.Consistent) (image sampler : Value) :
    Does short (sampledImage image sampler) a fun _ b => b.spare = a.spare := by
  refine .inspect fun t h => ?_
  obtain ⟨shape, rfl, himage, hsampler, hsampled⟩ := Draft.combination_ok h
  exact emitTyped_does ha _ fun type d hgrows htype =>
    .sampledImage (hgrows.sees himage) (hgrows.sees hsampler) hsampled htype

theorem imageSampleExplicitLod_does (ha : a.Consistent) (image coordinate lod : Value) :
    Does short (imageSampleExplicitLod image coordinate lod) a fun _ b => b.spare = a.spare := by
  refine .inspect fun s h => .ofExcept fun t ht => ?_
  obtain ⟨shape, u, width, rfl, himage, hcoordinate, hfloat, hcount, hlod⟩ := Draft.sampling_ok h
  obtain ⟨-, rfl⟩ := Draft.vector?_eq_ok ht
  exact emitTyped_does ha _ fun type d hgrows htype =>
    .imageSampleExplicitLod (hgrows.sees himage) (hgrows.sees hcoordinate) hfloat hcount
      (hgrows.sees hlod) htype

theorem sampleImage_does (ha : a.Consistent) (image sampler coordinate : Value) :
    Does short (sampleImage image sampler coordinate) a fun _ b => b.spare = a.spare := by
  refine .inspect fun t _ => .bind ha (sampledImage_does ha image sampler) fun v b hb hab => ?_
  refine .bind hb (constFloat_does hb _ _) fun lod c hc hbc => ?_
  exact (imageSampleExplicitLod_does hc v coordinate lod).mono
    fun _ e _ hce => hce.trans (hbc.1.spare.trans hab)

/-! ### Memory -/

theorem accessChain_does (ha : a.Consistent) (base : Value) (indices : List Value) :
    Does short (accessChain base indices) a fun _ b => b.spare = a.spare := by
  refine .inspect fun t h => ?_
  obtain ⟨storage, pointee, part, hbase, hwalk, rfl⟩ := Draft.access_ok h
  exact emitTyped_does ha _ fun type d hgrows htype =>
    .accessChain (hgrows.sees hbase) (hgrows.walk hwalk) htype

theorem load_does (ha : a.Consistent) (pointer : Value) :
    Does short (load pointer) a fun _ b => b.spare = a.spare := by
  refine .inspect fun x h => ?_
  obtain ⟨storage, pointee⟩ := x
  have hpointer := Draft.pointerOperand_ok h
  exact emitTyped_does ha _ fun type d hgrows htype => .load (hgrows.sees hpointer) htype

theorem store_does (pointer value : Value) :
    Does short (store pointer value) a fun _ b => b.spare = a.spare := by
  refine .inspect fun _ h => .inspect fun f hf => ?_
  obtain ⟨storage, pointee, hpointer, hvalue⟩ := Draft.storing_ok h
  obtain ⟨hcurrent, hopen⟩ := Draft.writable_eq_ok.1 hf
  exact .of_change (.store hcurrent hopen hpointer hvalue) rfl

/-! ### Calls and entry points -/

theorem executionMode_does (entryPoint : Id) (mode : ExecutionMode) (literals : List Word) :
    Does short (executionMode entryPoint mode literals) a fun _ b => b.spare = a.spare := by
  refine .inspect fun _ h => ?_
  have hentryPoint : a.draft.isEntryPoint entryPoint = true := by
    by_contra hnot
    rw [if_neg hnot] at h
    cases h
  exact .of_change (.note (.executionMode hentryPoint)) rfl

theorem callFunction_does (ha : a.Consistent) (function : Id) (args : List Value) :
    Does short (callFunction function args) a fun _ b => b.spare = a.spare := by
  refine .inspect fun s h => ?_
  obtain ⟨hs, hargs⟩ := Draft.callOf_ok h
  exact emitValue_does ha (.functionCall hs hargs)

/-! ### Variables of the module -/

theorem decorateMember_does (target : Id) (member : Word) (decoration : Decoration)
    (operands : List Operand) :
    Does short (decorateMember target member decoration operands) a fun _ b => a.Alike b := by
  refine .inspect fun _ hmember => .inspect fun _ h => ?_
  have hdefined : a.draft.isDefined target = true := by
    by_contra hnot
    rw [if_neg hnot] at h
    cases h
  exact .of_change (.note (.decorateMember hdefined hmember))
    ⟨rfl, (Draft.Note.decorateMember hdefined hmember).core,
      Draft.view_eq (a.draft.unannotated_addToAnnotations _) Draft.frame fun _ => rfl⟩

theorem nameMember_does (target : Id) (member : Word) (text : String) :
    Does short (nameMember target member text) a fun _ b => b.spare = a.spare :=
  .inspect fun _ hmember => .of_change (.note (.nameMember hmember)) rfl

theorem descriptorBinding_does (ha : a.Consistent) (v : Value) (set binding : Word) :
    Does short (descriptorBinding v set binding) a fun _ b => b.spare = a.spare := by
  refine .inspect fun _ h => .change ha (.note (.slot h)) fun ha' => ?_
  refine .bind ha' (decorate_does _ _ _) fun _ b _ hb => ?_
  exact (decorate_does _ _ _).mono fun _ c _ hc => hc.spare.trans hb.spare

/-- A new variable of the module is a pointer of the type that was asked for. -/
theorem globalVariable_does (ha : a.Consistent) (storage : StorageClass) (t : DataType) :
    Does short (globalVariable storage t) a fun v b =>
      b.spare = a.spare ∧ b.draft.Declares storage t v ∧
        b.draft.tables.builtIns = a.draft.tables.builtIns ∧
        b.draft.tables.slots = a.draft.tables.slots := by
  unfold globalVariable
  refine .guard fun hstorage => ?_
  refine .bind ha (typeId_does _ ha) fun type b hb htype => ?_
  refine .freshId hb fun hb' => .change hb' (.defineVariable hstorage htype.1) fun _ => .pure ?_
  refine ⟨htype.2.spare, ⟨?_, List.lookup_cons_self, htype.1⟩, htype.2.grows.builtIns,
    htype.2.grows.slots⟩
  exact List.mem_append_right _ List.mem_cons_self

theorem storageBuffer_does (ha : a.Consistent) (element : DataType) (access : Access) :
    Does short (storageBuffer element access) a fun _ b => b.spare = a.spare := by
  refine .bind ha (extension_does _) fun _ a' ha' haa' => ?_
  refine .bind ha' (typeId_does _ ha') fun blockId b hb htype => ?_
  refine .bind hb (decorate_does _ _ _) fun _ c hc hbc => ?_
  refine .bind hc (decorateMember_does _ _ _ _) fun _ e he hce => ?_
  refine .bind he (globalVariable_does he _ _) fun v f hf hef => ?_
  have hspare : f.spare = a.spare :=
    hef.1.trans (hce.spare.trans (hbc.spare.trans (htype.2.spare.trans haa'.spare)))
  by_cases haccess : access = .readOnly
  · rw [if_pos haccess]
    exact .bind hf (decorate_does _ _ _) fun _ g _ hfg => .pure (hfg.spare.trans hspare)
  · rw [if_neg haccess]
    exact .pure hspare

theorem builtInInput_does (ha : a.Consistent) (builtIn : BuiltIn) (t : DataType) :
    Does short (builtInInput builtIn t) a fun _ b => b.spare = a.spare := by
  unfold builtInInput
  refine .get ?_
  cases hknown : a.draft.tables.builtIns.lookup builtIn with
  | some existing =>
      refine .bind ha (typeId_does _ ha) fun wanted b hb htype => ?_
      by_cases hsame : existing.type ≠ wanted
      · simp only [if_pos hsame]
        exact .inspect fun _ _ => .inspect fun _ _ => ⟨b, rfl, .refl b⟩
      · simp only [if_neg hsame]
        exact .pure htype.2.spare
  | none =>
      refine .bind ha (globalVariable_does ha _ _) ?_
      rintro v b hb ⟨hspare, hvariable, hbuiltIns, -⟩
      refine .bind hb (decorate_does _ _ _) fun _ c hc hbc => ?_
      have hnew : c.draft.tables.builtIns.lookup builtIn = none := by
        rw [hbc.grows.builtIns, hbuiltIns]
        exact hknown
      have hglobal' : c.draft.tables.globals.lookup v.id = some v.type := by
        rw [hbc.grows.globals]
        exact hvariable.known
      exact .change hc (.note (.builtIn hnew hglobal' (hbc.grows.types hvariable.type))) fun _ =>
        .pure (hbc.spare.trans hspare)

end Build

end FrameShader
