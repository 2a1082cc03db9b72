/-
Missing: what asking for a type adds to a module.

A type needs one definition for each of its pieces that is not known yet, however often the piece
occurs in it, and one id for each definition.  So whether asking for a type succeeds can be told
beforehand, and what it adds to the globals is known up to the order in which the pieces come.

Main definitions:

* `FrameShader.Draft.missing`, `FrameShader.Draft.HasRoomFor` — the pieces that are still to be
  defined, and ids for them;
* `FrameShader.Draft.Adds` — the globals get longer by the definitions of these types.

Main results:

* `FrameShader.Draft.Defines.adds` — types that are defined one after another are added to the globals;
* `FrameShader.Draft.typeId_isOk_iff` — **when asking for a type succeeds**;
* `FrameShader.Draft.typeId_exact` — **what it adds**, and that it fails alike in every draft.
-/

import FrameShader.Proofs.Draft.Attempting
import Mathlib.Data.List.Dedup

set_option relaxedAutoImplicit false
set_option autoImplicit false

namespace FrameShader

/-! ### What is missing -/

namespace Draft

open Build

variable {d d' : Draft} {t u : DataType} {new : List DataType}

/-- The pieces of a type that the draft does not know yet, each of them once. -/
def missing (d : Draft) (t : DataType) : List DataType := (t.pieces.filter fun u => !d.knows u).dedup

/-- There are ids for all that is missing. -/
def HasRoomFor (d : Draft) (t : DataType) : Prop :=
  d.nextId.toNat + (d.missing t).length < UInt32.size

instance (d : Draft) (t : DataType) : Decidable (d.HasRoomFor t) :=
  inferInstanceAs (Decidable (_ < _))

theorem mem_missing : u ∈ d.missing t ↔ u ∈ t.pieces ∧ d.knows u = false := by
  simp [missing]

/-- The instruction defines the type under its id. -/
def DefinedBy (d : Draft) (t : DataType) (i : Instruction) : Prop :=
  ∃ id opcode operands, i = .defining opcode id operands ∧ d.TypeDefinition t opcode operands ∧
    d.Interned t id

/-- The globals get longer by the definitions of the types `new`, which were unknown.  There is one
for each of them, behind those of its pieces. -/
structure Adds (d : Draft) (new : List DataType) (d' : Draft) : Prop where
  fresh : ∀ u ∈ new, d.knows u = false
  once : new.Nodup
  ordered : ∀ before u after, new = before ++ u :: after →
    ∀ v ∈ u.inner, d.knows v = true ∨ v ∈ before
  written : ∃ is, d'.sections.globals = d.sections.globals ++ is ∧
    List.Forall₂ d'.DefinedBy new is
  known : ∀ u, d'.knows u = true ↔ d.knows u = true ∨ u ∈ new

namespace Defines

/-- Each new type takes one id. -/
theorem nextId (h : d.Defines new d') : d'.nextId.toNat = d.nextId.toNat + new.length := by
  induction h with
  | none h => rw [view_eq h Draft.nextId fun _ => rfl, List.length_nil, Nat.add_zero]
  | @snoc new e e' _ _ _ _ _ _ hroom h' ih =>
      have hone : (e.nextId + 1).toNat = e.nextId.toNat + 1 :=
        (UInt32.toNat_add _ _).trans (Nat.mod_eq_of_lt hroom)
      rw [view_eq h' Draft.nextId fun _ => rfl, List.length_append, List.length_singleton,
        ← Nat.add_assoc, ← ih]
      exact hone

theorem fresh (h : d.Defines new d') : ∀ u ∈ new, d.knows u = false := by
  induction h with
  | none => exact fun _ hu => absurd hu List.not_mem_nil
  | snoc h hnew _ _ _ ih =>
      refine List.forall_mem_append.2 ⟨ih, List.forall_mem_singleton.2 ?_⟩
      exact Bool.eq_false_iff.2 fun hknows => Bool.eq_false_iff.1 hnew (h.knows hknows)

theorem once (h : d.Defines new d') : new.Nodup := by
  induction h with
  | none => exact List.nodup_nil
  | snoc h hnew _ _ _ ih =>
      rw [← List.concat_eq_append, List.nodup_concat]
      exact ⟨fun hmem => Bool.eq_false_iff.1 hnew ((h.knows_iff _).2 (.inr hmem)), ih⟩

theorem ordered (h : d.Defines new d') (hd : d.Thorough) (before : List DataType) (u : DataType)
    (after : List DataType) (hsplit : new = before ++ u :: after) :
    ∀ v ∈ u.inner, d.knows v = true ∨ v ∈ before := by
  induction h generalizing after with
  | none => simp at hsplit
  | snoc h _ ht _ _ ih =>
      rcases eq_or_exists_of_snoc hsplit with ⟨rfl, rfl⟩ | ⟨init, hinit⟩
      · exact fun v hv => (h.knows_iff v).1 ((ht.settled fun w _ => h.thorough hd w).pieces v hv)
      · exact ih init hinit

theorem written (h : d.Defines new d') : ∃ is, d'.sections.globals = d.sections.globals ++ is ∧
    List.Forall₂ d'.DefinedBy new is := by
  induction h with
  | none h =>
      have hsame := view_eq h (·.sections.globals) fun _ => rfl
      exact ⟨[], hsame.trans (List.append_nil _).symm, .nil⟩
  | @snoc new e e' t opcode operands h hnew ht hroom h' ih =>
      obtain ⟨is, hglobals, his⟩ := ih
      have hone : e.Defines [t] e' := .snoc (.none rfl) hnew ht hroom h'
      refine ⟨is ++ [.defining opcode e.nextId operands], ?_, ?_⟩
      · rw [view_eq h' (·.sections.globals) fun _ => rfl, ← List.append_assoc, ← hglobals]
        rfl
      · refine List.rel_append (his.imp ?_) (.cons ?_ .nil)
        · rintro u i ⟨id, opcode, operands, rfl, hu, hid⟩
          exact ⟨id, opcode, operands, rfl, hu.mono hone.interned, hone.interned hid⟩
        · refine ⟨e.nextId, opcode, operands, rfl, ht.mono hone.interned, ?_⟩
          exact Interned.of_vocabulary h' (d := e.takeId.addTypeDefinition e.nextId t opcode operands)
            List.lookup_cons_self

theorem adds (h : d.Defines new d') (hd : d.Thorough) : d.Adds new d' :=
  ⟨h.fresh, h.once, h.ordered hd, h.written, h.knows_iff⟩

/-- New pieces were missing. -/
theorem mem_missing (h : d.Defines new d') (hpieces : new ⊆ t.pieces) (hu : u ∈ new) :
    u ∈ d.missing t := Draft.mem_missing.2 ⟨hpieces hu, h.fresh u hu⟩

/-- If the type is known now, then everything that was missing is new. -/
theorem mem_iff_missing (h : d.Defines new d') (hd : d.Thorough) (hpieces : new ⊆ t.pieces)
    (ht : d'.knows t = true) : u ∈ new ↔ u ∈ d.missing t := by
  refine ⟨h.mem_missing hpieces, fun hu => ?_⟩
  obtain ⟨hpiece, hunknown⟩ := Draft.mem_missing.1 hu
  refine ((h.knows_iff u).1 ((h.thorough hd).pieces ht u hpiece)).resolve_left ?_
  exact Bool.eq_false_iff.1 hunknown

/-- As the ids have run out, there were not enough of them. -/
theorem not_hasRoomFor (h : d.Defines new d') (hpieces : new ⊆ t.pieces) (hu : u ∈ t.pieces)
    (hunknown : d'.knows u = false) (hroom : UInt32.size ≤ d'.nextId.toNat + 1) :
    ¬d.HasRoomFor t := by
  have hnot : ¬(d.knows u = true ∨ u ∈ new) := by
    rw [← h.knows_iff]
    exact Bool.eq_false_iff.1 hunknown
  obtain ⟨hold, hnew⟩ := not_or.1 hnot
  have hmissing : u ∈ d.missing t := Draft.mem_missing.2 ⟨hu, Bool.eq_false_iff.2 hold⟩
  have hlength : (u :: new).length ≤ (d.missing t).length :=
    (List.subperm_of_subset (List.nodup_cons.2 ⟨hnew, h.once⟩)
      (List.cons_subset.2 ⟨hmissing, fun v => h.mem_missing hpieces⟩)).length_le
  rw [h.nextId] at hroom
  rw [List.length_cons] at hlength
  unfold HasRoomFor
  omega

/-- The type itself comes last. -/
theorem getLast? (h : d.Defines new d') (hd : d.Thorough) (hpieces : new ⊆ t.pieces) (ht : t ∈ new) :
    new.getLast? = some t := by
  obtain ⟨before, after, rfl⟩ := List.append_of_mem ht
  have hordered := h.ordered hd before t after rfl
  -- whatever comes later is a piece, but pieces come earlier
  have hafter : after = [] := by
    refine List.eq_nil_iff_forall_not_mem.2 fun v hv => ?_
    have hmem : v ∈ before ++ t :: after :=
      List.mem_append_right _ (List.mem_cons_of_mem t hv)
    obtain ⟨-, htail, hapart⟩ := List.nodup_append.1 h.once
    rcases DataType.mem_pieces.1 (hpieces hmem) with hinner | rfl
    · rcases hordered v hinner with hknown | hbefore
      · exact Bool.eq_false_iff.1 (h.fresh v hmem) hknown
      · exact hapart v hbefore v (List.mem_cons_of_mem t hv) rfl
    · exact (List.nodup_cons.1 htail).1 hv
  rw [hafter, List.getLast?_append]
  rfl

end Defines

/-! ### When asking for a type succeeds -/

/-- **When asking for a type succeeds**: nothing is wrong with it, its arrays have strides or are known
in spite of that, and there are ids for all that is missing. -/
theorem typeId_isOk_iff (hd : d.Thorough) (t : DataType) :
    ((typeId t).runOn d).1.isOk = true ↔ t.isWellFormed = true ∧
      (∀ u ∈ t.pieces, u.hasStride = true ∨ d.knows u = true) ∧ d.HasRoomFor t := by
  obtain ⟨new, hdefines, hpieces, hends⟩ := typeId_attempts t hd
  generalize ((typeId t).runOn d).1 = answer at hends ⊢
  generalize ((typeId t).runOn d).2 = d' at hdefines hends
  constructor
  · intro hok
    cases hends with
    | found hfault hid hstrides =>
        have hknown := hid.knows
        refine ⟨(DataType.fault?_eq_none_iff t).1 hfault, fun u hu => ?_, ?_⟩
        · have hu := (hdefines.knows_iff u).1 ((hdefines.thorough hd).pieces hknown u hu)
          exact hu.symm.imp_left (hstrides u)
        · have hlength : (d.missing t).length ≤ new.length :=
            (List.subperm_of_subset (List.nodup_dedup _)
              fun u => (hdefines.mem_iff_missing hd hpieces hknown).2).length_le
          have hids := hdefines.nextId
          have hbound : d'.nextId.toNat < UInt32.size := d'.nextId.toNat_lt
          unfold HasRoomFor
          omega
    | _ => cases hok
  · rintro ⟨hwell, hstrides, hroom⟩
    cases hends with
    | found => rfl
    | refused hfault =>
        rw [(DataType.fault?_eq_none_iff t).2 hwell] at hfault
        cases hfault
    | exhausted hu hunknown hfull =>
        exact absurd hroom (hdefines.not_hasRoomFor hpieces hu hunknown hfull)
    | @oversized init element operation hlast hsize =>
        have hmem : .runtimeArray element ∈ new :=
          hlast ▸ List.mem_append_right _ List.mem_cons_self
        rcases hstrides _ (hpieces hmem) with hstride | hknown
        · cases (DataType.hasStride_of_error hsize).symm.trans hstride
        · exact absurd hknown (Bool.eq_false_iff.1 (hdefines.fresh _ hmem))

/-- What a call adds that succeeds: all that was missing, the type itself at the end. -/
theorem typeId_of_ok (hd : d.Thorough) {id : Id} (hrun : (typeId t).runOn d = (.ok id, d')) :
    d'.Interned t id ∧ ∃ new, d.Adds new d' ∧ (∀ u, u ∈ new ↔ u ∈ d.missing t) ∧
      (d.knows t = false → new.getLast? = some t) := by
  obtain ⟨new, hdefines, hpieces, hends⟩ := typeId_attempts t hd
  rw [hrun] at hdefines hends
  cases hends with
  | found _ hid _ =>
      have hiff {u : DataType} : u ∈ new ↔ u ∈ d.missing t :=
        hdefines.mem_iff_missing hd hpieces hid.knows
      refine ⟨hid, new, hdefines.adds hd, fun u => hiff, fun hunknown => ?_⟩
      exact hdefines.getLast? hd hpieces (hiff.2 (mem_missing.2 ⟨t.self_mem_pieces, hunknown⟩))

/-- What a call adds that fails: pieces that were missing and have nothing wrong with them. -/
theorem typeId_of_error (hd : d.Thorough) {failure : Failure}
    (hrun : (typeId t).runOn d = (.error failure, d')) :
    ∃ new, d.Adds new d' ∧ ∀ u ∈ new, u ∈ d.missing t ∧ u.isWellFormed = true := by
  obtain ⟨new, hdefines, hpieces, -⟩ := typeId_attempts t hd
  rw [hrun] at hdefines
  refine ⟨new, hdefines.adds hd, fun u hu => ⟨hdefines.mem_missing hpieces hu, ?_⟩⟩
  exact (hdefines.thorough hd).isWellFormed ((hdefines.knows_iff u).2 (.inr hu))

/-- Why a call fails that has come upon no array without a stride.  The type stays unknown. -/
theorem exists_reason_of_error (hd : d.Thorough) (hstrides : ∀ u ∈ t.pieces, u.hasStride = true)
    {failure : Failure} (hrun : (typeId t).runOn d = (.error failure, d')) :
    d'.knows t = false ∧ (failure = .overflow .increment ∧ ¬d.HasRoomFor t ∨
      ∃ cause, failure = .rejected cause ∧ t.fault? = some cause) := by
  obtain ⟨new, hdefines, hpieces, hends⟩ := typeId_attempts t hd
  rw [hrun] at hdefines hends
  have hthorough := hdefines.thorough hd
  cases hends with
  | @refused cause hfault =>
      refine ⟨Bool.eq_false_iff.2 fun hknown => ?_, .inr ⟨cause, rfl, hfault⟩⟩
      cases hfault.symm.trans (hthorough.fault? hknown)
  | exhausted hu hunknown hfull =>
      refine ⟨Bool.eq_false_iff.2 fun hknown => ?_,
        .inl ⟨rfl, hdefines.not_hasRoomFor hpieces hu hunknown hfull⟩⟩
      exact Bool.eq_false_iff.1 hunknown (hthorough.pieces hknown _ hu)
  | oversized hlast hsize =>
      have hmem := hpieces (hlast ▸ List.mem_append_right _ List.mem_cons_self)
      cases (DataType.hasStride_of_error hsize).symm.trans (hstrides _ hmem)

/-- What is found to be wrong with a type is the answer in every draft, unless the ids run out. -/
theorem typeId_of_fault (hd : d.Thorough) {cause : BuildError} (hfault : t.fault? = some cause)
    (hstrides : ∀ u ∈ t.pieces, u.hasStride = true) :
    ((typeId t).runOn d).1 = .error (.rejected cause) ∨
      ((typeId t).runOn d).1 = .error (.overflow .increment) ∧ ¬d.HasRoomFor t := by
  have hok := (typeId_isOk_iff hd t).1
  rcases hrun : (typeId t).runOn d with ⟨failure | id, d'⟩
  · obtain ⟨-, ⟨rfl, hfull⟩ | ⟨other, rfl, hother⟩⟩ := exists_reason_of_error hd hstrides hrun
    · exact .inr ⟨rfl, hfull⟩
    · exact .inl (by rw [Option.some.inj (hfault.symm.trans hother)])
  · rw [hrun] at hok
    cases hfault.symm.trans ((DataType.fault?_eq_none_iff t).2 (hok rfl).1)

/-- **What asking for a type does.**  On any draft that calls lead to, if every array inside of the type
has a stride:

* the call succeeds just if the type is well formed and there are ids for what is missing;
* then the globals get longer by one definition for each piece that was missing, each behind those of
  its own pieces, and the last of them defines the type, unless it was known;
* if the call fails, the type stays unknown, and no other pieces have been defined but well-formed ones
  that were missing; and unless the ids have run out, the call fails for the same reason on every draft
  that calls lead to, where again the ids may run out before. -/
theorem typeId_exact (hd : d.Reachable) (hstrides : ∀ u ∈ t.pieces, u.hasStride = true) :
    (((typeId t).runOn d).1.isOk = true ↔ t.isWellFormed = true ∧ d.HasRoomFor t) ∧
    (∀ id d', (typeId t).runOn d = (.ok id, d') → d'.Interned t id ∧
      ∃ new, d.Adds new d' ∧ (∀ u, u ∈ new ↔ u ∈ d.missing t) ∧
        (d.knows t = false → new.getLast? = some t)) ∧
    (∀ failure d', (typeId t).runOn d = (.error failure, d') → d'.knows t = false ∧
      (∃ new, d.Adds new d' ∧ ∀ u ∈ new, u ∈ d.missing t ∧ u.isWellFormed = true) ∧
      (failure = .overflow .increment ∧ ¬d.HasRoomFor t ∨
        ∃ cause, failure = .rejected cause ∧ t.isWellFormed = false ∧ ∀ e : Draft, e.Reachable →
          ((typeId t).runOn e).1 = .error (.rejected cause) ∨
            ((typeId t).runOn e).1 = .error (.overflow .increment) ∧ ¬e.HasRoomFor t)) := by
  refine ⟨?_, fun id d' hrun => typeId_of_ok hd.thorough hrun, fun failure d' hrun => ?_⟩
  · rw [typeId_isOk_iff hd.thorough]
    exact ⟨fun h => ⟨h.1, h.2.2⟩, fun h => ⟨h.1, fun u hu => .inl (hstrides u hu), h.2⟩⟩
  · obtain ⟨hunknown, hreason⟩ := exists_reason_of_error hd.thorough hstrides hrun
    refine ⟨hunknown, typeId_of_error hd.thorough hrun, hreason.imp_right ?_⟩
    rintro ⟨cause, rfl, hfault⟩
    refine ⟨cause, rfl, Bool.eq_false_iff.2 fun hwell => ?_, fun e he =>
      typeId_of_fault he.thorough hfault hstrides⟩
    cases hfault.symm.trans ((DataType.fault?_eq_none_iff t).2 hwell)

/-- An array of records that share their pieces. -/
def pairs : DataType :=
  .runtimeArray (.record [.vector (.float 32) 2, .float 32, .vector (.float 32) 2])

/-- A record whose second member has too many components. -/
def wideRecord : DataType := .record [.bool, .vector (.float 32) 5, .uint32]

/-- The array can be defined when its vectors are known already.  The record cannot, but its first
member stays. -/
theorem typeId_exact_of_pairs :
    ((empty {}).after [.typeId (.vector (.float 32) 2), .typeId wideRecord]).Reachable ∧
    (∀ u ∈ pairs.pieces, u.hasStride = true) ∧ (∀ u ∈ wideRecord.pieces, u.hasStride = true) ∧
    ((typeId pairs).runOn
      ((empty {}).after [.typeId (.vector (.float 32) 2), .typeId wideRecord])).1.isOk = true ∧
    ¬((typeId wideRecord).runOn
      ((empty {}).after [.typeId (.vector (.float 32) 2), .typeId wideRecord])).1.isOk = true := by
  have hd : ((empty {}).after [.typeId (.vector (.float 32) 2), .typeId wideRecord]).Reachable :=
    ⟨{}, _, rfl⟩
  have hpairs : ∀ u ∈ pairs.pieces, u.hasStride = true := by decide
  have hwide : ∀ u ∈ wideRecord.pieces, u.hasStride = true := by decide
  refine ⟨hd, hpairs, hwide, (typeId_exact hd hpairs).1.2 ⟨by decide, by decide +kernel⟩, ?_⟩
  exact fun hok => absurd ((typeId_exact hd hwide).1.1 hok).1 (by decide)

end Draft

end FrameShader
