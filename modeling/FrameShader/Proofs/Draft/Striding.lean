/-
Striding: how far apart the elements of arrays stand.

An array is decorated with the distance of its elements as soon as it is defined, unless this is no
word.  So whether an array is asked for on its own, inside of another type or as the contents of a
buffer, it is decorated once.  What is said of it is its own size, as nobody says so but the draft,
if only callers leave this decoration alone.  In the same way, the contents of a buffer are laid out
once, however many buffers have them.

Main definitions:

* `FrameShader.Draft.written` — the module that a draft has come to;
* `FrameShader.Draft.Spaced` — the distances that are stated are sizes;
* `FrameShader.Draft.Strided` — all arrays have a distance;
* `FrameShader.ShaderModule.LaidOutOnce` — a record is laid out once.

Main results:

* `FrameShader.Draft.decorations_of_array` — what is said of an array;
* `FrameShader.Draft.Strided.run` — **all arrays have a distance if no size was too large**;
* `FrameShader.Draft.strides_exact` — **the distances of a module are the sizes of the elements**.
-/

import FrameShader.Proofs.Draft.Attempting
import FrameShader.Proofs.Draft.Decoding
import FrameShader.Proofs.Draft.Providing

set_option relaxedAutoImplicit false
set_option autoImplicit false

namespace FrameShader

open Build

/-! ### The module that a draft has come to -/

namespace Draft

/-- The module that the draft has come to, whatever is still open. -/
def written (d : Draft) : ShaderModule where
  header := d.header
  capabilities := d.sections.capabilities
  extensions := d.sections.extensions
  imports := d.sections.imports
  memoryModel :=
    .plain .memoryModel
      [.addressingModel d.settings.addressingModel, .memoryModel d.settings.memoryModel]
  entryPoints := d.sections.entryPoints
  executionModes := d.sections.executionModes
  source := d.sections.source
  names := d.sections.names
  annotations := d.sections.annotations
  globals := d.sections.globals
  functions := d.sections.functions

/-- This is the module that finishing the draft gives. -/
theorem eq_written_of_finished {d : Draft} {m : ShaderModule} (hm : d.finished = .ok m) :
    m = d.written := by
  unfold finished at hm
  split at hm
  · cases hm
  · cases hm
  · exact (Except.ok.inj hm).symm

end Draft

/-! ### The parts of types in the globals -/

namespace Account.Consistent

variable {d : Draft} {ids : List Id} {id : Id} (h : Consistent ⟨d, ids⟩)

include h

theorem pointer_mem {storage : StorageClass} {t : DataType} (ht : d.Interned (.pointer storage t) id) :
    ∃ pointee, d.Interned t pointee ∧
      .defining .typePointer id [.storageClass storage, .id pointee] ∈ d.sections.globals := by
  obtain ⟨_, _, hdefinition, hmem⟩ := h.exists_type ht
  cases hdefinition with
  | pointer hpointee => exact ⟨_, hpointee, hmem⟩

theorem bufferType_mem {element : DataType} (ht : d.Interned (bufferType element) id) :
    ∃ array, d.Interned (.runtimeArray element) array ∧
      .defining .typeStruct id [.id array] ∈ d.sections.globals := by
  obtain ⟨_, _, hdefinition, hmem⟩ := h.exists_type ht
  cases hdefinition with
  | record hmembers =>
      obtain ⟨array, members, harray, hnone, rfl⟩ := List.forall₂_cons_left_iff.1 hmembers
      obtain rfl := List.forall₂_nil_left_iff.1 hnone
      exact ⟨array, harray, hmem⟩

theorem runtimeArray_mem {element : DataType} (ht : d.Interned (.runtimeArray element) id) :
    ∃ part, .defining .typeRuntimeArray id [.id part] ∈ d.sections.globals := by
  obtain ⟨_, _, hdefinition, hmem⟩ := h.exists_type ht
  cases hdefinition with
  | runtimeArray => exact ⟨_, hmem⟩

/-- A global that defines an array defines an interned one. -/
theorem exists_runtimeArray {i : Instruction} (hi : i ∈ d.sections.globals)
    (hopcode : i.opcode = .typeRuntimeArray) :
    ∃ array element, i.result = some array ∧ d.Interned (.runtimeArray element) array := by
  cases h.entry hi with
  | type ht hid =>
      obtain rfl : _ = Opcode.typeRuntimeArray := hopcode
      cases ht with
      | runtimeArray => exact ⟨_, _, rfl, hid⟩
  | @constant c =>
      cases c with
      | bool value => cases value <;> cases hopcode
      | scalar | composite => cases hopcode
  | «variable» => cases hopcode

end Account.Consistent

/-! ### The distances that are stated -/

/-- An annotation with the words of a stride is a stride, of the same array. -/
theorem Instruction.Annotates.eq_of_strideRow {i : Instruction} (hi : i.Annotates) {array : Id}
    {stride : Word} (h : i.encode = (strideRow array stride).encode) :
    ∃ operands, i = .plain .decorate (.id array :: .decoration .arrayStride :: operands) ∧
      operands.flatMap Operand.encode = [stride] := by
  obtain ⟨kind, operands, rfl, hcode, hoperands⟩ := hi.of_encode rfl h
  have hkind : kind = .arrayStride := by
    revert hcode
    cases kind <;> decide
  rw [hkind]
  exact ⟨operands, rfl, hoperands⟩

namespace Draft

/-- The distances that are stated are the sizes of what the arrays hold. -/
def Spaced (d : Draft) : Prop :=
  ∀ array operands,
    .plain .decorate (.id array :: .decoration .arrayStride :: operands) ∈ d.sections.annotations →
    ∃ element stride, (array, .runtimeArray element) ∈ d.tables.dataTypes ∧
      element.size = .ok stride ∧ operands = [.literal stride]

namespace Spaced

variable {d : Draft} {ids : List Id} {m : ShaderModule} {array : Id} (h : d.Spaced)
  (hd : Account.Consistent ⟨d, ids⟩) (hannotated : d.Annotated)
  (hm : m.annotations = d.sections.annotations)

include h hd hannotated hm

/-- What is said of an array is the size of what it holds. -/
theorem exists_size {operands : List Operand} (hmem : operands ∈ m.decorations array .arrayStride) :
    ∃ element stride, d.tables.dataTypes.lookup array = some (.runtimeArray element) ∧
      element.size = .ok stride ∧ operands = [.literal stride] := by
  obtain ⟨i, hi, hread⟩ := List.mem_filterMap.1 hmem
  rw [hm] at hi
  obtain rfl := (hannotated.shape i hi).eq_of_decoration? hread
  obtain ⟨element, stride, helement, hsize, rfl⟩ := h array operands hi
  exact ⟨element, stride, lookup_eq_some_of_mem hd.nodup_dataTypes helement, hsize, rfl⟩

/-- A distance that is stated is the only one that is stated of the array. -/
theorem decorations_eq {stride : Word} (hstated : (strideRow array stride).StatedIn m.annotations) :
    m.decorations array .arrayStride = [[.literal stride]] := by
  -- one of them has the words of this stride
  obtain ⟨i, hi, hwords⟩ := List.mem_map.1 hstated
  rw [hm] at hi
  obtain ⟨operands, rfl, hoperands⟩ := (hannotated.shape i hi).eq_of_strideRow hwords
  have hmem : operands ∈ m.decorations array .arrayStride := by
    rw [← hm] at hi
    exact List.mem_filterMap.2 ⟨_, hi, if_pos ⟨rfl, rfl⟩⟩
  obtain ⟨element, size, htype, hsize, rfl⟩ := h.exists_size hd hannotated hm hmem
  obtain rfl : size = stride := (List.cons.inj hoperands).1
  -- the others are the size of the same element
  refine hannotated.decorations_eq hm fun other => ⟨fun hother => ?_, ?_⟩
  · obtain ⟨element', size', htype', hsize', rfl⟩ := h.exists_size hd hannotated hm hother
    obtain rfl := DataType.runtimeArray.inj (Option.some.inj (htype.symm.trans htype'))
    obtain rfl := Except.ok.inj (hsize.symm.trans hsize')
    rfl
  · rintro rfl
    exact hmem

end Spaced

/-! ### Distances that callers leave alone -/

variable {d d' : Draft} {settings : ModuleSettings} {os : List Operation}

/-- The distances are sizes as long as nobody else states any. -/
theorem spaced_after (settings : ModuleSettings)
    (hdirect : ∀ o ∈ os, o.decorates .arrayStride = false) :
    ((empty settings).after os).Spaced := by
  intro array operands hi
  have hown := own_of_decoration hdirect hi
  generalize hrow : Instruction.plain _ _ = i at hown
  cases hown with
  | stride ht hsize =>
      cases hrow
      exact ⟨_, _, ht, hsize, rfl⟩
  | _ => cases hrow

/-- Arrays have their strides and built-in values their variables after every run. -/
theorem furnished_after (settings : ModuleSettings) (os : List Operation) :
    ((empty settings).after os).Furnished :=
  after_keeps Furnished.of_step (fun _ _ _ _ => Furnished.of_effect)
    ⟨fun _ _ _ h => (nomatch h), fun _ _ h => (nomatch h)⟩

/-- **What is said of an array**: the size of what it holds, once, if this is a word; and nothing if
it is not. -/
theorem decorations_of_array (settings : ModuleSettings)
    (hdirect : ∀ o ∈ os, o.decorates .arrayStride = false) {array : Id} {element : DataType}
    (harray : ((empty settings).after os).Interned (.runtimeArray element) array) :
    (∀ stride, element.size = .ok stride →
      ((empty settings).after os).written.decorations array .arrayStride = [[.literal stride]]) ∧
    (∀ operation, element.size = .error operation →
      ((empty settings).after os).written.decorations array .arrayStride = []) := by
  obtain ⟨a, ha, hchanges, hconsistent⟩ := run_account False settings os False.elim
  have hspaced := spaced_after settings hdirect
  have hfurnished := furnished_after settings os
  rw [← ha] at harray hspaced hfurnished ⊢
  have hannotated := hchanges.annotated (.empty settings)
  refine ⟨fun stride hsize => ?_, fun operation hsize => ?_⟩
  · exact hspaced.decorations_eq hconsistent hannotated rfl
      (hannotated.statedIn_iff.2 (hfurnished.strides element array stride harray hsize))
  · refine List.eq_nil_iff_forall_not_mem.2 fun operands hmem => ?_
    obtain ⟨other, stride, htype, hstride, -⟩ := hspaced.exists_size hconsistent hannotated rfl hmem
    rw [hconsistent.lookup_dataTypes harray] at htype
    obtain rfl := DataType.runtimeArray.inj (Option.some.inj htype)
    cases hsize.symm.trans hstride

end Draft

/-! ### Runs in which no size is too large -/

/-- The call has ended because a size or an id is no word. -/
def overflows : Operation × Except Failure Answer → Bool
  | (_, .error (.overflow _)) => true
  | _ => false

namespace Draft

variable {d d' : Draft} {settings : ModuleSettings} {os : List Operation}

/-- All arrays that the draft knows have strides. -/
def Strided (d : Draft) : Prop := ∀ t, d.knows t = true → t.hasStride = true

theorem Strided.of_types (h : d'.tables.types = d.tables.types)
    (hd : d.Thorough ∧ d.Strided) : d'.Thorough ∧ d'.Strided := by
  have hknows (t : DataType) : d'.knows t = d.knows t := by rw [knows, h, knows]
  refine ⟨fun t ht => ?_, fun t ht => ?_⟩
  · have hsettled := hd.1 t (hknows t ▸ ht)
    exact ⟨hsettled.admissible, fun u hu => (hknows u).trans (hsettled.pieces u hu)⟩
  · exact hd.2 t (hknows t ▸ ht)

/-- Asking for a type defines no array without a stride, or it ends there. -/
theorem Strided.typeId (t : DataType) (hd : d.Thorough ∧ d.Strided) :
    Overflows (typeId t) d ∨
      ((typeId t).runOn d).2.Thorough ∧ ((typeId t).runOn d).2.Strided := by
  obtain ⟨new, hdefines, -, hends⟩ := typeId_attempts t hd.1
  have hdone (hnew : ∀ u ∈ new, u.hasStride = true) :
      ((Build.typeId t).runOn d).2.Thorough ∧ ((Build.typeId t).runOn d).2.Strided :=
    ⟨hdefines.thorough hd.1, fun u hu => ((hdefines.knows_iff u).1 hu).elim (hd.2 u) (hnew u)⟩
  unfold Overflows
  generalize ((Build.typeId t).runOn d).1 = answer at hends ⊢
  cases hends with
  | found _ _ hnew | refused _ hnew => exact .inr (hdone hnew)
  | exhausted | oversized => exact .inl ⟨_, rfl⟩

/-- **A call defines no array without a stride**, or it ends there. -/
theorem Strided.step (o : Operation) (hanswer : overflows (o, (o.run.runOn d).1) = false)
    (hd : d.Thorough ∧ d.Strided) : (d.step o).Thorough ∧ (d.step o).Strided := by
  have hkept : Overflows o.run d ∨ (d.step o).Thorough ∧ (d.step o).Strided :=
    o.run_made.keeps_types (P := fun d => d.Thorough ∧ d.Strided) Strided.of_types
      (fun hf => Naming.types (fun heffect => heffect.types) hf) (fun t _ => Strided.typeId t) hd
  refine hkept.resolve_left ?_
  rintro ⟨operation, herror⟩
  rw [herror] at hanswer
  cases hanswer

/-- **All arrays have strides after a run in which no size was too large.** -/
theorem Strided.run (hanswers : ∀ call ∈ d.transcript os, overflows call = false)
    (hd : d.Thorough ∧ d.Strided) : (d.after os).Strided := by
  induction os generalizing d with
  | nil => exact hd.2
  | cons o os ih =>
      obtain ⟨hanswer, hrest⟩ := List.forall_mem_cons.1 hanswers
      exact ih hrest (Strided.step o hanswer hd)

theorem strided_after (settings : ModuleSettings)
    (hanswers : ∀ call ∈ (empty settings).transcript os, overflows call = false) :
    ((empty settings).after os).Strided :=
  Strided.run hanswers ⟨fun _ ht => (nomatch ht), fun _ ht => (nomatch ht)⟩

/-! ### Buffers -/

end Draft

/-- The id is said to be a block once, and its first member to begin where it does once.  If anything
else is said of these things, then it is among `rows`. -/
structure ShaderModule.LaidOutOnce (m : ShaderModule) (rows : List Instruction) (block : Id) :
    Prop where
  isBlock : (m.annotations.map Instruction.encode).count (blockRow block).encode = 1
  begins : (m.annotations.map Instruction.encode).count (offsetRow block).encode = 1
  blocks : ∀ operands ∈ m.decorations block .block, operands = [] ∨
    .plain .decorate (.id block :: .decoration .block :: operands) ∈ rows
  offsets : ∀ member operands,
    .plain .memberDecorate (.id block :: .literal member :: .decoration .offset :: operands) ∈
      m.annotations → member = 0 ∧ operands = [.literal 0] ∨
    .plain .memberDecorate (.id block :: .literal member :: .decoration .offset :: operands) ∈ rows

namespace Draft

variable {d : Draft} {settings : ModuleSettings} {os : List Operation} {t : DataType} {block : Id}

/-- What is laid out is laid out once. -/
theorem IsBlock.laidOutOnce (h : d.IsBlock t block) (hannotated : d.Annotated)
    {rows : List Instruction} (hrows : d.Attributed rows) : d.written.LaidOutOnce rows block where
  isBlock := List.count_eq_one_of_mem hannotated.nodup h.stated
  begins := List.count_eq_one_of_mem hannotated.nodup h.begins
  blocks operands hmem := by
    obtain ⟨i, hi, hread⟩ := List.mem_filterMap.1 hmem
    obtain rfl := (hannotated.shape i hi).eq_of_decoration? hread
    refine (hrows _ hi).imp_left fun hown => ?_
    generalize hrow : Instruction.plain _ _ = i at hown
    cases hown with
    | block =>
        cases hrow
        rfl
    | _ => cases hrow
  offsets member operands hi := by
    refine (hrows _ hi).imp_left fun hown => ?_
    generalize hrow : Instruction.plain _ _ = i at hown
    cases hown with
    | offset =>
        cases hrow
        exact ⟨rfl, rfl⟩
    | _ => cases hrow

/-- A buffer that was made points to a block in the end. -/
theorem exists_block (settings : ModuleSettings) {element : DataType} {access : Access} {v : Value}
    (h : (.storageBuffer element access, .ok (.value v)) ∈ (empty settings).transcript os) :
    ((empty settings).after os).Declares .storageBuffer (bufferType element) v ∧
      ∃ block, ((empty settings).after os).IsBlock (bufferType element) block := by
  obtain ⟨a, b, c, ⟨hdeclares, ⟨block, hblock⟩, -⟩, hb, hbc, hc⟩ :=
    exists_of_transcript h rfl fun ha hchanges =>
      storageBuffer_provides ha (hchanges.annotated (.empty settings)) element access
  have hgrows := hbc.outgrows hb
  rw [← hc]
  exact ⟨hdeclares.outgrows hgrows, block, hblock.outgrows hgrows⟩

/-! ### All distances of a module -/

/-- **The strides of arrays are exact.**  After any run in which no size or id was too large, and in
which no caller has stated a distance by hand:

* every array is decorated with one distance, which is the packed size of what it holds, as a number;
* nothing else has a distance;
* every buffer that was made points to a record of one array, and this is laid out once. -/
theorem strides_exact (settings : ModuleSettings) (os : List Operation)
    (hanswers : ∀ call ∈ (empty settings).transcript os, overflows call = false)
    (hdirect : ∀ o ∈ os, o.decorates .arrayStride = false) :
    let m := ((empty settings).after os).written
    (∀ i ∈ m.globals, i.opcode = .typeRuntimeArray → ∃ array element stride,
      i.result = some array ∧ typeAt? m.globals array = some (.runtimeArray element) ∧
      m.decorations array .arrayStride = [[.literal stride]] ∧
      stride.toNat = element.packedSize) ∧
    (∀ id, m.decorations id .arrayStride ≠ [] →
      ∃ i ∈ m.globals, i.opcode = .typeRuntimeArray ∧ i.result = some id) ∧
    ∀ element access v,
      (.storageBuffer element access, .ok (.value v)) ∈ (empty settings).transcript os →
      ∃ block, .defining .typePointer v.type [.storageClass .storageBuffer, .id block] ∈ m.globals ∧
        typeAt? m.globals block = some (bufferType element) ∧
        m.LaidOutOnce ((empty settings).said os) block := by
  intro m
  obtain ⟨a, ha, hchanges, hconsistent⟩ := run_account False settings os False.elim
  have hannotated := hchanges.annotated (.empty settings)
  have hspaced := spaced_after settings hdirect
  have hglobals : m.globals = a.draft.sections.globals := by rw [ha]; rfl
  have hannotations : m.annotations = a.draft.sections.annotations := by rw [ha]; rfl
  refine ⟨fun i hi hopcode => ?_, fun id hid => ?_, fun element access v hcall => ?_⟩
  · rw [hglobals] at hi ⊢
    obtain ⟨array, element, hresult, harray⟩ := hconsistent.exists_runtimeArray hi hopcode
    -- no call has overflowed, so every array that is known has a stride
    have hstride := strided_after settings hanswers (.runtimeArray element) (ha ▸ harray).knows
    obtain ⟨stride, hsize⟩ := DataType.hasStride_runtimeArray.1 hstride
    exact ⟨array, element, stride, hresult, hconsistent.typeAt?_eq harray,
      (decorations_of_array settings hdirect (ha ▸ harray)).1 stride hsize,
      DataType.size_eq_ok_iff.1 hsize⟩
  · rw [← ha] at hspaced
    obtain ⟨operands, hmem⟩ := List.exists_mem_of_ne_nil _ hid
    obtain ⟨element, stride, htype, -⟩ := hspaced.exists_size hconsistent hannotated hannotations hmem
    have harray := (hchanges.unique (.empty settings)).interned hconsistent htype
    obtain ⟨part, hdefining⟩ := hconsistent.runtimeArray_mem harray
    exact ⟨_, hglobals ▸ hdefining, rfl, rfl⟩
  · obtain ⟨hdeclares, block, hblock⟩ := exists_block settings hcall
    have honce := hblock.laidOutOnce (ha ▸ hannotated) (attributed_after settings os)
    rw [← ha] at hdeclares hblock
    obtain ⟨pointee, hpointee, hpointer⟩ := hconsistent.pointer_mem hdeclares.type
    obtain rfl := Option.some.inj (hpointee.symm.trans hblock.type)
    exact ⟨pointee, hglobals ▸ hpointer, hglobals ▸ hconsistent.typeAt?_eq hpointee, honce⟩

/-- Calls that ask for an array on its own, and for two buffers that hold it. -/
def threeComponentCalls : List Operation :=
  [.typeId (.runtimeArray (.vector (.float 32) 3)),
    .storageBuffer (.vector (.float 32) 3) .readOnly,
    .storageBuffer (.vector (.float 32) 3) .readWrite]

/-- The elements of the array are twelve bytes apart, and the contents of the second buffer, which are
those of the first, are laid out once. -/
theorem strides_exact_of_components :
    (∀ call ∈ (empty {}).transcript threeComponentCalls, overflows call = false) ∧
    (∀ o ∈ threeComponentCalls, o.decorates .arrayStride = false) ∧
    ((empty {}).after threeComponentCalls).written.decorations 3 .arrayStride = [[.literal 12]] ∧
    ∃ block, ((empty {}).after threeComponentCalls).written.LaidOutOnce [] block := by
  have hanswers : ∀ call ∈ (empty {}).transcript threeComponentCalls, overflows call = false := by
    decide +kernel
  have hdirect : ∀ o ∈ threeComponentCalls, o.decorates .arrayStride = false := by decide
  obtain ⟨harrays, -, hbuffers⟩ := strides_exact {} threeComponentCalls hanswers hdirect
  have hdefined : .defining .typeRuntimeArray 3 [.id 2] ∈
      ((empty {}).after threeComponentCalls).written.globals := by decide +kernel
  have htype : typeAt? ((empty {}).after threeComponentCalls).written.globals 3 =
      some (.runtimeArray (.vector (.float 32) 3)) := by decide +kernel
  have hsecond : (.storageBuffer (.vector (.float 32) 3) .readWrite, .ok (.value ⟨7, 5⟩)) ∈
      (empty {}).transcript threeComponentCalls :=
    mem_transcript.2 ⟨threeComponentCalls.take 2, [], rfl, by decide +kernel⟩
  have hsaid : (empty {}).said threeComponentCalls = [] := by decide +kernel
  obtain ⟨array, element, stride, hresult, htype', hstride, hsize⟩ := harrays _ hdefined rfl
  obtain rfl := Option.some.inj hresult
  obtain rfl := DataType.runtimeArray.inj (Option.some.inj (htype.symm.trans htype'))
  obtain rfl : stride = 12 := UInt32.toNat_inj.1 hsize
  obtain ⟨block, -, -, honce⟩ := hbuffers _ _ _ hsecond
  rw [hsaid] at honce
  exact ⟨hanswers, hdirect, hstride, block, honce⟩

end Draft

end FrameShader
