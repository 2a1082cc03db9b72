/-
What constants stand for.

The globals of a program are read from front to back.  As each of them refers to globals before it
and no id is defined twice, the order can be forgotten afterwards: an id stands for what its
instruction says, given what all the others stand for.

Main results:

* `FrameShader.lookup_globalMeanings` — **an id stands for what its instruction says**;
* `FrameShader.Account.Orderly.scalar`, `FrameShader.Account.Orderly.composite` — what the constants
  of a draft stand for.
-/

import FrameShader.Proofs.Execution.Order

set_option relaxedAutoImplicit false
set_option autoImplicit false

namespace FrameShader

/-! ### Reading globals in any order -/

theorem mapM_congr_mem {α β : Type} {f g : α → Option β} {xs : List α}
    (h : ∀ a ∈ xs, f a = g a) : xs.mapM f = xs.mapM g := by
  induction xs with
  | nil => rfl
  | cons x xs ih =>
      rw [List.mapM_cons, List.mapM_cons, h x List.mem_cons_self,
        ih fun a ha => h a (List.mem_cons_of_mem x ha)]

/-- The meaning of a global depends on what it refers to, and on nothing else. -/
theorem globalMeaning?_congr {types types' : List (Id × DataType)}
    {known known' : List (Id × Meaning)} {i : Instruction}
    (htypes : ∀ id ∈ i.references, types.lookup id = types'.lookup id)
    (hknown : ∀ id ∈ i.references, known.lookup id = known'.lookup id) :
    globalMeaning? types known i = globalMeaning? types' known' i := by
  unfold globalMeaning?
  split
  case h_3 htype hoperands =>
    rw [htypes _ ?_]
    rw [Instruction.references, htype]
    exact List.mem_append_left _ (Option.mem_toList.2 rfl)
  case h_4 hoperands =>
    rw [mapM_congr_mem fun id hid => hknown id ?_]
    rw [Instruction.references]
    exact List.mem_append_right _ hid
  all_goals rfl

theorem lookup_readTypes_append (is : List Instruction) {i : Instruction} {id : Id}
    (h : i.result ≠ some id) : (readTypes (is ++ [i])).lookup id = (readTypes is).lookup id := by
  rw [readTypes_append_singleton]
  unfold readType
  split
  · next hresult _ =>
      refine lookup_cons_of_ne ?_
      rintro rfl
      exact h hresult
  · rfl

theorem lookup_globalMeanings_append (is : List Instruction) {i : Instruction} {id : Id}
    (h : i.result ≠ some id) :
    (globalMeanings (is ++ [i])).lookup id = (globalMeanings is).lookup id := by
  rw [globalMeanings_append_singleton, List.lookup_append]
  cases hresult : i.result with
  | none => simp
  | some id' =>
      have hne : id ≠ id' := by
        rintro rfl
        exact h hresult
      cases globalMeaning? (readTypes is) (globalMeanings is) i with
      | none => simp
      | some x => simp [List.lookup_cons, beq_eq_false_iff_ne.2 hne]

theorem lookup_eq_none {is : List Instruction} {id : Id} (h : id ∉ resultsOf is) :
    (globalMeanings is).lookup id = none := by
  cases hlookup : (globalMeanings is).lookup id with
  | none => rfl
  | some x => exact absurd (mem_resultsOf_of_globalMeanings (mem_of_lookup_eq_some hlookup)) h

/-- **An id stands for what its instruction says.** -/
theorem lookup_globalMeanings {is : List Instruction} (horder : InOrder [] [] is)
    (hnodup : (resultsOf is).Nodup) {i : Instruction} {id : Id} (hi : i ∈ is)
    (hid : i.result = some id) :
    (globalMeanings is).lookup id = globalMeaning? (readTypes is) (globalMeanings is) i := by
  induction is using List.reverseRecOn with
  | nil => cases hi
  | append_singleton is j ih =>
      obtain ⟨hbefore, hlast⟩ := inOrder_append.1 horder
      rw [resultsOf_append] at hnodup
      obtain ⟨hnodup, -, hapart⟩ := List.nodup_append.1 hnodup
      -- The last global defines nothing that is known or referred to before.
      have hfresh : ∀ k ∈ resultsOf is, j.result ≠ some k := fun k hk hj =>
        hapart k hk k (mem_resultsOf.2 ⟨j, List.mem_singleton_self j, hj⟩) rfl
      have hstable : ∀ k : Instruction, (∀ r ∈ k.references, r ∈ resultsOf is) →
          globalMeaning? (readTypes is) (globalMeanings is) k =
            globalMeaning? (readTypes (is ++ [j])) (globalMeanings (is ++ [j])) k := fun k hk =>
        globalMeaning?_congr
          (fun r hr => (lookup_readTypes_append is (hfresh r (hk r hr))).symm)
          (fun r hr => (lookup_globalMeanings_append is (hfresh r (hk r hr))).symm)
      have hreferences : ∀ {k : Instruction} {known : List Id},
          (∀ r ∈ k.uses, r ∈ known) → (∀ r ∈ k.callee?, r ∈ ([] : List Id)) →
            ∀ r ∈ k.references, r ∈ known := fun huses hcallee r hr =>
        ((Instruction.mem_references_iff _ r).1 hr).elim
          (fun h => absurd (hcallee r h) List.not_mem_nil) (huses r)
      rcases List.mem_append.1 hi with hi | hi
      · have hknown : id ∈ resultsOf is := mem_resultsOf.2 ⟨i, hi, hid⟩
        obtain ⟨before, after, hsplit⟩ := List.append_of_mem hi
        rw [hsplit] at hbefore
        obtain ⟨huses, hcallee⟩ := hbefore.split
        rw [lookup_globalMeanings_append is (hfresh id hknown), ← hstable i fun r hr => ?_]
        · exact ih (inOrder_append.1 horder).1 hnodup hi
        · rw [hsplit, resultsOf_append]
          exact List.mem_append_left _ (hreferences huses hcallee r hr)
      · obtain rfl := List.mem_singleton.1 hi
        have hnew : id ∉ resultsOf is := fun h => hfresh id h hid
        rw [← hstable i (hreferences hlast.1 hlast.2.1), globalMeanings_append_singleton,
          List.lookup_append, lookup_eq_none hnew, hid]
        cases globalMeaning? (readTypes is) (globalMeanings is) i with
        | none => rfl
        | some x => simp

/-! ### Constants of a draft -/

namespace Account.Orderly

variable {a : Account}

/-- A global stands for what its instruction says. -/
theorem lookup_globals (ha : a.Orderly) {i : Instruction} {id : Id}
    (hi : i ∈ a.draft.sections.globals) (hid : i.result = some id) :
    (globalMeanings a.draft.sections.globals).lookup id =
      globalMeaning? a.draft.tables.dataTypes (globalMeanings a.draft.sections.globals) i := by
  rw [ha.consistent.types]
  exact lookup_globalMeanings ha.scope.globals ha.consistent.nodup_globals hi hid

/-- A known constant is defined by an instruction. -/
theorem exists_constant (ha : a.Orderly) {key : ConstantKey} {id : Id}
    (h : a.draft.tables.constants.lookup key = some id) :
    ∃ i ∈ a.draft.sections.globals, i.constantRow? = some (key, id) := by
  have hmem := mem_of_lookup_eq_some h
  rwa [ha.consistent.constants, mem_rowsOf] at hmem

/-- **A scalar constant stands for the number of its bits.** -/
theorem scalar (ha : a.Orderly) {t : DataType} {value : Literal} {v : Value} {x : Meaning}
    (h : a.draft.Holds (.scalar t value) v) (hx : literalMeaning? t value = some x) :
    (globalMeanings a.draft.sections.globals).lookup v.id = some x := by
  have ht : a.draft.Interned t v.type := h.type
  have hk : a.draft.tables.constants.lookup (.scalar v.type value) = some v.id := h.key
  obtain ⟨i, hi, hrow⟩ := ha.exists_constant hk
  rw [ha.lookup_globals hi (Instruction.result_of_constantRow? hrow)]
  have hlookup := ha.consistent.lookup_dataTypes ht
  unfold Instruction.constantRow? at hrow
  split at hrow
  · cases hrow
  · cases hrow
  · next hopcode htype _ hoperands =>
      obtain ⟨literal, hliteral, hrow⟩ := Option.map_eq_some_iff.1 hrow
      cases hrow
      simp only [globalMeaning?, hopcode, htype, hoperands, hlookup, hliteral,
        Option.bind_some, hx]
  · cases hrow
  · cases hrow

/-- **A vector of constants has the lanes of its constants.** -/
theorem composite (ha : a.Orderly) {t : DataType} {parts : List Id} {v : Value} {xs : List Meaning}
    {x : Meaning} (h : a.draft.Holds (.composite t parts) v)
    (hxs : (parts.mapM fun part =>
      (globalMeanings a.draft.sections.globals).lookup part) = some xs)
    (hx : Meaning.concat? xs = some x) :
    (globalMeanings a.draft.sections.globals).lookup v.id = some x := by
  have hk : a.draft.tables.constants.lookup (.composite v.type parts) = some v.id := h.key
  obtain ⟨i, hi, hrow⟩ := ha.exists_constant hk
  rw [ha.lookup_globals hi (Instruction.result_of_constantRow? hrow)]
  unfold Instruction.constantRow? at hrow
  split at hrow
  · cases hrow
  · cases hrow
  · obtain ⟨literal, -, hrow⟩ := Option.map_eq_some_iff.1 hrow
    cases hrow
  · next hopcode _ _ =>
      cases hrow
      simp only [globalMeaning?, hopcode, hxs, Option.bind_some, hx]
  · cases hrow

end Account.Orderly

end FrameShader
