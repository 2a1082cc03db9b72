/-
Unfinished: arrays whose elements are too large to be laid out.

An array is entered into the tables before the size of its elements is known.  If this is no word,
then the call ends there, and the array stays behind: defined and interned, but without a distance of
its elements.  So whoever asks for it a second time gets it.  Nothing else is left unfinished.  A type
that was refused once is refused in every draft, and an array whose elements have a size is never
without its distance.

Main results:

* `FrameShader.Draft.exists_unfinished` — what is left behind when a size is too large;
* `FrameShader.Draft.typeId_outcomes` — **what is handed out, and which arrays have no distance**;
* `FrameShader.Draft.not_withheld` — an array may be handed out after its definition has failed.
-/

import FrameShader.Proofs.Draft.Missing
import FrameShader.Proofs.Draft.Striding

set_option relaxedAutoImplicit false
set_option autoImplicit false

namespace FrameShader

namespace Draft

open Build

variable {d d' : Draft} {t : DataType}

/-- The array is defined last among the globals, without any distance, and whoever asks for it gets
it. -/
structure LeavesUnfinished (d : Draft) (element : DataType) (array : Id) : Prop where
  defined : ∃ part, d.sections.globals.getLast? = some (.defining .typeRuntimeArray array [.id part])
  bare : d.written.decorations array .arrayStride = []
  handedOut : (typeId (.runtimeArray element)).runOn d = (.ok array, d)

/-- The type that was defined last is defined by the last global. -/
theorem Defines.getLast?_globals {init : List DataType} (h : d.Defines (init ++ [t]) d') :
    ∃ i, d'.sections.globals.getLast? = some i ∧ d'.DefinedBy t i := by
  obtain ⟨is, hglobals, his⟩ := h.written
  have hreversed := List.rel_reverse his
  rw [List.reverse_append] at hreversed
  obtain ⟨i, rest, hi, -, hrest⟩ := List.forall₂_cons_left_iff.1 hreversed
  refine ⟨i, ?_, hi⟩
  rw [hglobals, ← List.reverse_reverse is, hrest, List.reverse_cons, ← List.append_assoc,
    List.getLast?_concat]

/-- **What is left behind when a size is too large**: the array that has no distance, as the last
thing that was defined. -/
theorem exists_unfinished (settings : ModuleSettings) {os : List Operation}
    (hdirect : ∀ o ∈ os, o.decorates .arrayStride = false) {operation : Overflow}
    (hrun : (typeId t).runOn ((empty settings).after os) = (.error (.overflow operation), d')) :
    operation = .increment ∧ ¬((empty settings).after os).HasRoomFor t ∨
      ∃ element array, .runtimeArray element ∈ ((empty settings).after os).missing t ∧
        element.size = .error operation ∧ d'.LeavesUnfinished element array := by
  have hreachable : ((empty settings).after os).Reachable := ⟨settings, os, rfl⟩
  obtain ⟨new, hdefines, hpieces, hends⟩ := typeId_attempts t hreachable.thorough
  rw [hrun] at hdefines hends
  cases hends with
  | exhausted hu hunknown hfull =>
      exact .inl ⟨rfl, hdefines.not_hasRoomFor hpieces hu hunknown hfull⟩
  | @oversized init element _ hlast hsize =>
      right
      subst hlast
      obtain ⟨i, hi, array, opcode, operands, rfl, hdefinition, harray⟩ :=
        hdefines.getLast?_globals
      -- this is the draft after one more call
      have hafter : d' = (empty settings).after (os ++ [.typeId t]) := by
        rw [after_append, after_cons, after_nil, Draft.step, Operation.run, runOn_map, hrun]
      have hdirect' : ∀ o ∈ os ++ [.typeId t], o.decorates .arrayStride = false :=
        List.forall_mem_append.2 ⟨hdirect, List.forall_mem_singleton.2 rfl⟩
      have hmem : .runtimeArray element ∈ init ++ [.runtimeArray element] :=
        List.mem_append_right _ List.mem_cons_self
      refine ⟨element, array, hdefines.mem_missing hpieces hmem, hsize, ?_, ?_,
        typeId_of_interned harray⟩
      · cases hdefinition with
        | runtimeArray => exact ⟨_, hi⟩
      · rw [hafter] at harray ⊢
        exact (decorations_of_array settings hdirect' harray).2 operation hsize

/-- **What is handed out, and which arrays have no distance.**  After any run in which no caller has
stated a distance by hand, whether its calls have succeeded or not:

* asking for a type succeeds just if it is well formed, there are ids for what is missing, and every
  array inside of it has a distance or is there without one;
* a type that is rejected is handed out by no draft;
* if the call ends because a number is no word, then either the ids have run out, or an array whose
  elements are too large is left unfinished, and is handed out from now on;
* an array that is defined is decorated with its distance if the size of its elements is a word, and
  with none if it is not. -/
theorem typeId_outcomes (settings : ModuleSettings) (os : List Operation)
    (hdirect : ∀ o ∈ os, o.decorates .arrayStride = false) (t : DataType) :
    let d := (empty settings).after os
    (((typeId t).runOn d).1.isOk = true ↔ t.isWellFormed = true ∧ d.HasRoomFor t ∧
      ∀ u ∈ t.pieces, u.hasStride = true ∨ d.knows u = true) ∧
    (∀ cause d', (typeId t).runOn d = (.error (.rejected cause), d') →
      ∀ e : Draft, e.Reachable → ((typeId t).runOn e).1.isOk = false) ∧
    (∀ operation d', (typeId t).runOn d = (.error (.overflow operation), d') →
      operation = .increment ∧ ¬d.HasRoomFor t ∨
        ∃ element array, .runtimeArray element ∈ d.missing t ∧ element.size = .error operation ∧
          d'.LeavesUnfinished element array) ∧
    ∀ i ∈ d.sections.globals, i.opcode = .typeRuntimeArray → ∃ array element,
      i.result = some array ∧ typeAt? d.sections.globals array = some (.runtimeArray element) ∧
      d.written.decorations array .arrayStride =
        if element.packedSize < UInt32.size then [[.literal (UInt32.ofNat element.packedSize)]]
        else [] := by
  intro d
  have hreachable : d.Reachable := ⟨settings, os, rfl⟩
  refine ⟨?_, fun cause d' hrun e he => ?_, fun operation d' hrun =>
    exists_unfinished settings hdirect hrun, fun i hi hopcode => ?_⟩
  · rw [typeId_isOk_iff hreachable.thorough]
    tauto
  · obtain ⟨new, -, -, hends⟩ := typeId_attempts t hreachable.thorough
    rw [hrun] at hends
    cases hends with
    | refused hfault =>
        -- what is wrong with a type is wrong with it in every draft
        refine Bool.eq_false_iff.2 fun hok => ?_
        obtain ⟨hwell, -⟩ := (typeId_isOk_iff he.thorough t).1 hok
        rw [(DataType.fault?_eq_none_iff t).2 hwell] at hfault
        cases hfault
  · obtain ⟨a, ha, -, hconsistent⟩ := run_account False settings os False.elim
    have hd : a.draft = d := ha
    rw [← hd] at hi ⊢
    obtain ⟨array, element, hresult, harray⟩ := hconsistent.exists_runtimeArray hi hopcode
    obtain ⟨hstride, hnone⟩ := decorations_of_array settings hdirect (ha ▸ harray)
    refine ⟨array, element, hresult, hconsistent.typeAt?_eq harray, ?_⟩
    rw [hd]
    split
    · next hsmall =>
        exact hstride _ (DataType.size_eq_ok_iff.2 (UInt32.toNat_ofNat_of_lt' hsmall))
    · next hlarge =>
        cases hsize : element.size with
        | ok n => exact absurd (DataType.exists_size_iff.1 ⟨n, hsize⟩) hlarge
        | error operation => exact hnone operation hsize

/-- An array of records of three vectors.  Two of them fit into the largest size, but not the third. -/
def oversized : DataType :=
  .runtimeArray (.record [.vector (.float 4294967295) 4, .vector (.float 4294967295) 4,
    .vector (.float 4294967295) 4])

/-- The array fails to be defined and is left unfinished, so it is handed out the second time. -/
theorem typeId_outcomes_of_oversized :
    (∀ o ∈ [Operation.typeId oversized], o.decorates .arrayStride = false) ∧
    (∃ element array, .runtimeArray element ∈ (empty {}).missing oversized ∧
      ((typeId oversized).runOn (empty {})).2.LeavesUnfinished element array) ∧
    ((typeId oversized).runOn ((empty {}).after [.typeId oversized])).1.isOk = true := by
  have hdirect : ∀ o ∈ [Operation.typeId oversized], o.decorates .arrayStride = false := by decide
  have hfails : ((typeId oversized).runOn (empty {})).1 = .error (.overflow .add) := by
    decide +kernel
  obtain ⟨-, -, hunfinished, -⟩ := typeId_outcomes {} [] (fun _ ho => nomatch ho) oversized
  obtain ⟨hok, -⟩ := typeId_outcomes {} [.typeId oversized] hdirect oversized
  refine ⟨hdirect, ?_, hok.2 ⟨by decide +kernel, by decide +kernel, by decide +kernel⟩⟩
  rcases hunfinished .add _ (Prod.ext hfails rfl) with ⟨hnever, -⟩ | ⟨element, array, hmem, -, hleft⟩
  · cases hnever
  · exact ⟨element, array, hmem, hleft⟩

/-- **An array may be handed out after its definition has failed**, and arrays may be without any
distance. -/
theorem not_withheld :
    (¬ ∀ (settings : ModuleSettings) (os later : List Operation) (t : DataType),
      ((typeId t).runOn ((empty settings).after os)).1.isOk = false →
      ((typeId t).runOn ((empty settings).after (os ++ .typeId t :: later))).1.isOk = false) ∧
    ¬ ∀ (settings : ModuleSettings) (os : List Operation),
      ∀ i ∈ ((empty settings).after os).sections.globals, i.opcode = .typeRuntimeArray →
        ∃ array operands, i.result = some array ∧
          operands ∈ ((empty settings).after os).written.decorations array .arrayStride := by
  refine ⟨fun hall => ?_, fun hall => ?_⟩
  · have hagain := hall {} [] [] oversized (by decide +kernel)
    exact absurd hagain (by decide +kernel)
  · have hdefined : .defining .typeRuntimeArray 4 [.id 3] ∈
        ((empty {}).after [.typeId oversized]).sections.globals := by decide +kernel
    obtain ⟨array, operands, hresult, hmem⟩ := hall {} [.typeId oversized] _ hdefined rfl
    obtain rfl := Option.some.inj hresult
    have hnone : ((empty {}).after [.typeId oversized]).written.decorations 4 .arrayStride = [] := by
      decide +kernel
    rw [hnone] at hmem
    exact absurd hmem List.not_mem_nil

end Draft

end FrameShader
