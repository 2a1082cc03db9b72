/-
Order: what holds of a draft that is being written, as far as running it is concerned.

Besides the tables, the ids and the references, this is about entry points and annotations: they are
found again by what the tables say.

Main definitions:

* `FrameShader.Draft.KnowsEntryPoints`, `FrameShader.Draft.KnowsAnnotations` — what the tables say
  about entry points and annotations;
* `FrameShader.Account.Orderly` — a draft in order.

Main results:

* `FrameShader.Account.Orderly.step`, `FrameShader.Account.Orderly.after` — **changes keep a draft in
  order**, as long as there are ids.
-/

import FrameShader.Proofs.Draft.Scoping
import FrameShader.Proofs.Execution.Growing

set_option relaxedAutoImplicit false
set_option autoImplicit false

namespace FrameShader

namespace Draft

/-! ### Entry points -/

/-- The entry points that are stated are known by name. -/
def KnowsEntryPoints (d : Draft) : Prop :=
  ∀ i ∈ d.sections.entryPoints, ∀ text, (i.entryFunction? text).isSome →
    (d.tables.entryPoints.lookup text).isSome

/-! ### Annotations -/

/-- The annotation is about one id, which is its first word but one. -/
structure IsAbout (i : Instruction) (target : Id) : Prop where
  targets : i.targets = [target]
  word : i.tail.head? = some target

/-- The annotations that are stated are known by their words, and each is about something that is
defined. -/
structure KnowsAnnotations (d : Draft) : Prop where
  words : d.tables.annotations = (d.sections.annotations.map Instruction.encode).reverse
  targets : ∀ i ∈ d.sections.annotations, ∃ target ∈ d.definedIds, IsAbout i target

namespace KnowsAnnotations

variable {d d' : Draft}

/-- More may be defined. -/
theorem of_extends (h : d.KnowsAnnotations) (hextends : d.Extends d')
    (htable : d'.tables.annotations = d.tables.annotations)
    (hsection : d'.sections.annotations = d.sections.annotations) : d'.KnowsAnnotations := by
  refine ⟨by rw [htable, hsection, h.words], ?_⟩
  rw [hsection]
  intro i hi
  obtain ⟨target, htarget, habout⟩ := h.targets i hi
  exact ⟨target, hextends.definedIds htarget, habout⟩

/-- One more annotation. -/
theorem add (h : d.KnowsAnnotations) {i : Instruction} {target : Id} (htarget : target ∈ d.definedIds)
    (habout : IsAbout i target) : (d.addToAnnotations i).KnowsAnnotations := by
  unfold addToAnnotations
  split
  · exact h
  · refine ⟨?_, List.forall_mem_append.2 ⟨h.targets, List.forall_mem_singleton.2 ?_⟩⟩
    · simp only [List.map_append, List.map_cons, List.map_nil, List.reverse_append,
        List.reverse_cons, List.reverse_nil, List.nil_append, List.singleton_append, h.words]
    · exact ⟨target, htarget, habout⟩

/-- An annotation that is known has the words of one that is stated. -/
theorem exists_of_contains (h : d.KnowsAnnotations) {i : Instruction}
    (hi : d.tables.annotations.contains i.encode = true) :
    ∃ j ∈ d.sections.annotations, j.encode = i.encode := by
  have hmem := List.contains_iff_mem.1 hi
  rw [h.words, List.mem_reverse] at hmem
  exact List.mem_map.1 hmem

end KnowsAnnotations

end Draft

/-! ### The invariant -/

/-- A draft whose tables, ids, references, entry points and annotations are in order. -/
structure Account.Orderly (a : Account) : Prop where
  consistent : a.Consistent
  scope : a.draft.Scoped
  entryPoints : a.draft.KnowsEntryPoints
  annotations : a.draft.KnowsAnnotations

namespace Account.Orderly

variable {short : Prop} {a b : Account}

theorem step_entryPoints (ha : a.draft.KnowsEntryPoints) (h : Change short False a b) :
    b.draft.KnowsEntryPoints := by
  cases h with
  | note hnote =>
      rcases hnote.entryPoints with ⟨htables, hsections⟩ | ⟨text, f, interface, -, rfl⟩
      · unfold Draft.KnowsEntryPoints
        rw [htables, hsections]
        exact ha
      · intro i hi name hname
        show (((text, f.id) :: _).lookup name).isSome
        by_cases hsame : name = text
        · rw [hsame, List.lookup_cons_self]
          rfl
        · rw [lookup_cons_of_ne hsame]
          rcases List.mem_append.1 hi with hi | hi
          · exact ha i hi name hname
          · obtain rfl := List.mem_singleton.1 hi
            simp [Instruction.entryFunction?, Instruction.plain, Ne.symm hsame] at hname
  | @defineConstant d id ids key => cases key <;> exact ha
  | _ => exact ha

/-- A note is an annotation of something that is defined, or leaves annotations alone. -/
theorem note_annotations {d d' : Draft} {ids : List Id} (ha : Consistent ⟨d, ids⟩)
    (h : d.KnowsAnnotations) (hnote : d.Note d') : d'.KnowsAnnotations := by
  have hextends : d.Extends d' := .of_core hnote.core
  have hbare (hsame : d'.bare = d.bare) : d'.KnowsAnnotations :=
    h.of_extends hextends (Draft.view_eq hsame (·.tables.annotations) fun _ => rfl)
      (Draft.view_eq hsame (·.sections.annotations) fun _ => rfl)
  cases hnote with
  | decorate hdefined | decorateMember hdefined =>
      exact h.add (ha.mem_definedIds_of_isDefined hdefined) ⟨rfl, rfl⟩
  | capability c => exact hbare (d.bare_addCapability c)
  | extension text => exact hbare (d.bare_addExtension text)
  | source language version => exact hbare (d.bare_addSource language version)
  | name | nameMember => exact hbare (d.bare_addName _ _ _)
  | record | configure | entryPoint | executionMode | slot | builtIn =>
      exact h.of_extends hextends rfl rfl

theorem step_annotations (hconsistent : a.Consistent) (ha : a.draft.KnowsAnnotations)
    (h : Change short False a b) : b.draft.KnowsAnnotations := by
  have hextends := h.extends hconsistent
  cases h with
  | note hnote => exact note_annotations hconsistent ha hnote
  | @defineConstant d id ids key => cases key <;> exact ha.of_extends hextends rfl rfl
  | _ => exact ha.of_extends hextends rfl rfl

/-- **While there are ids, every change keeps a draft in order.** -/
theorem step (ha : a.Orderly) (h : Change short False a b) : b.Orderly :=
  ⟨ha.consistent.step h, ha.scope.step h ha.consistent, step_entryPoints ha.entryPoints h,
    step_annotations ha.consistent ha.annotations h⟩

/-- While there are ids, all changes keep a draft in order. -/
theorem after (ha : a.Orderly) (h : a.Changes short False b) : b.Orderly :=
  h.preserves (P := Orderly) (fun hstep hb => hb.step hstep) ha

theorem empty (settings : ModuleSettings) : Orderly ⟨Draft.empty settings, []⟩ :=
  ⟨.empty settings, .empty settings, fun _ hi => absurd hi List.not_mem_nil,
    ⟨rfl, fun _ hi => absurd hi List.not_mem_nil⟩⟩

end Account.Orderly

end FrameShader
