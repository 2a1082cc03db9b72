/-
Layout: the words of a module do not show in which order it was built.

A draft keeps its sections apart, and each of them is only added to at its end.  So the words of the
finished module have the sections in the order of the format, whatever the order of the calls was,
and within a section what was written first stands first.

Main definitions:

* `FrameShader.Function.Whole` — a function from its definition to the end of its only block;
* `FrameShader.ShaderModule.LaidOut` — what stands in the sections and functions of a module.

Main results:

* `FrameShader.Account.Change.source` — the source is stated at most once;
* `FrameShader.Draft.finished_laidOut` — **the words of a finished module are its header, its
  sections and its functions, and what was written first stands first**.
-/

import FrameShader.Proofs.Draft.Shape

set_option relaxedAutoImplicit false
set_option autoImplicit false

namespace FrameShader

/-! ### Layouts -/

/-- The function consists of its definition, its parameters, a label, the instructions of a block
and the one that ends it. -/
structure Function.Whole (f : Function) : Prop where
  definition : f.definition.opcode = .function
  parameters : ∀ p ∈ f.parameters, p.opcode = .functionParameter
  label : f.label.opcode = .label
  body : ∃ steps last, f.body = steps ++ [last] ∧ (∀ i ∈ steps, i.opcode.place = .inBlock) ∧
    last.opcode.place = .endOfBlock

/-- Everything in the module stands where it belongs: in its section, or in a whole function. -/
structure ShaderModule.LaidOut (m : ShaderModule) : Prop where
  parts : ∀ k, ∀ i ∈ m.part k, i.opcode.place = .inSection k
  memoryModel : (m.part .memoryModel).length = 1
  source : (m.part .source).length ≤ 1
  functions : ∀ f ∈ m.functions, f.Whole
  /-- What belongs to a section does not stand in a function. -/
  apart : ∀ f ∈ m.functions, ∀ i ∈ f.instructions, ∀ k, i.opcode.place ≠ .inSection k

namespace Function

variable {f : Function}

/-- A function of the right shape is whole. -/
theorem Shaped.whole {globals : List Instruction} {fs : List Function} (h : f.Shaped globals fs) :
    f.Whole := by
  obtain ⟨result, hhead, steps, last, hbody, hsteps, hlast⟩ := h
  obtain ⟨id, control, type, parameters, hdefinition, -, hparameters⟩ := hhead.signature
  obtain ⟨label, hlabel⟩ := hhead.label
  refine ⟨by rw [hdefinition]; rfl, fun p hp => ?_, by rw [hlabel]; rfl,
    steps, last, hbody, hsteps, ?_⟩
  · obtain ⟨t, -, q, rfl⟩ := exists_of_mem_left hparameters hp
    rfl
  · cases hlast <;> rfl

/-- Nothing of a whole function belongs to a section. -/
theorem Whole.apart (h : f.Whole) {i : Instruction} (hi : i ∈ f.instructions) (k : Section) :
    i.opcode.place ≠ .inSection k := by
  intro hplace
  obtain ⟨steps, last, hbody, hsteps, hlast⟩ := h.body
  simp only [Function.instructions, hbody, List.mem_cons, List.mem_append, List.not_mem_nil,
    or_false] at hi
  rcases hi with rfl | hi | rfl | (hi | rfl) | rfl
  · rw [h.definition] at hplace
    cases hplace
  · rw [h.parameters i hi] at hplace
    cases hplace
  · rw [h.label] at hplace
    cases hplace
  · rw [hsteps i hi] at hplace
    cases hplace
  · rw [hlast] at hplace
    cases hplace
  · cases hplace

end Function

/-- In a module that is laid out, an instruction stands in the section it belongs to, or it belongs
to none and stands in a function. -/
theorem ShaderModule.LaidOut.part_or_function {m : ShaderModule} (h : m.LaidOut) {i : Instruction}
    (hi : i ∈ m.instructions) : (∃ k, i ∈ m.part k ∧ i.opcode.place = .inSection k) ∨
      ∃ f ∈ m.functions, i ∈ f.instructions ∧ ∀ k, i.opcode.place ≠ .inSection k := by
  rw [ShaderModule.instructions, m.globalInstructions_eq, List.mem_append] at hi
  rcases hi with hi | hi
  · obtain ⟨k, -, hi⟩ := List.mem_flatMap.1 hi
    exact Or.inl ⟨k, hi, h.parts k i hi⟩
  · obtain ⟨f, hf, hi⟩ := List.mem_flatMap.1 hi
    exact Or.inr ⟨f, hf, hi, h.apart f hf i hi⟩

/-- An instruction that belongs to a section stands there. -/
theorem ShaderModule.LaidOut.mem_part {m : ShaderModule} (h : m.LaidOut) {i : Instruction}
    (hi : i ∈ m.instructions) {k : Section} (hplace : i.opcode.place = .inSection k) :
    i ∈ m.part k := by
  rcases h.part_or_function hi with ⟨l, hpart, hl⟩ | ⟨f, -, -, hnone⟩
  · obtain rfl := Place.inSection.inj (hplace.symm.trans hl)
    exact hpart
  · exact absurd hplace (hnone k)

/-! ### The source -/

/-- A note states the source at most once. -/
theorem Draft.Note.sections_source {d d' : Draft} (h : d.Note d') :
    d'.sections.source = d.sections.source ∨ d'.sections.source.length = 1 := by
  cases h with
  | source language version =>
      unfold addSource
      split
      · exact Or.inl rfl
      · exact Or.inr rfl
  | capability =>
      unfold addCapability
      split <;> exact Or.inl rfl
  | extension =>
      unfold addExtension
      split <;> exact Or.inl rfl
  | decorate | decorateMember =>
      unfold addToAnnotations
      split <;> exact Or.inl rfl
  | name | nameMember =>
      unfold addName
      split <;> exact Or.inl rfl
  | record | configure | entryPoint | executionMode | slot | builtIn => exact Or.inl rfl

namespace Account

variable {short exhausted : Prop} {a b : Account}

/-- **The source is stated at most once.** -/
theorem Change.source (h : Change short exhausted a b) (ha : a.draft.sections.source.length ≤ 1) :
    b.draft.sections.source.length ≤ 1 := by
  cases h with
  | note hnote =>
      rcases hnote.sections_source with hsame | hone
      · exact hsame ▸ ha
      · exact Nat.le_of_eq hone
  | @defineConstant d id ids key => cases key <;> exact ha
  | _ => exact ha

theorem Changes.source {settings : ModuleSettings}
    (h : Changes short exhausted ⟨Draft.empty settings, []⟩ b) :
    b.draft.sections.source.length ≤ 1 :=
  h.preserves (P := fun b => b.draft.sections.source.length ≤ 1) Change.source (Nat.zero_le 1)

/-- What stands in a section belongs there. -/
theorem Changes.place_of_part {settings : ModuleSettings}
    (h : Changes short exhausted ⟨Draft.empty settings, []⟩ b) {k : Section} {i : Instruction}
    (hi : i ∈ b.draft.sections.part k) : i.opcode.place = .inSection k := by
  have hnone : (Draft.empty settings).sections.part k = [] := by cases k <;> rfl
  rcases (h.appends_any.parts k).mem hi with hi | hi
  · exact absurd (hnone ▸ hi) List.not_mem_nil
  · exact hi.1

end Account

/-! ### Finished modules -/

/-- The words of a module are its header, its sections and its functions. -/
theorem ShaderModule.words_eq (m : ShaderModule) :
    m.words = m.header.words ++ Section.all.flatMap (fun k => encodeAll (m.part k)) ++
      m.functions.flatMap fun f => encodeAll f.instructions := by
  rw [ShaderModule.words, ShaderModule.instructions, m.globalInstructions_eq, encodeAll_append,
    List.append_assoc]
  simp only [encodeAll, List.flatMap_assoc]

/-- A module that can be finished can be assembled. -/
theorem Build.assemble_of_finish {d : Draft} {m : ShaderModule}
    (h : (Build.finish.runOn d).1 = .ok m) : (Build.assemble.runOn d).1 = .ok m.words := by
  rw [Build.assemble, Build.runOn_bind]
  rcases hrun : Build.finish.runOn d with ⟨e | m', d'⟩
  · rw [hrun] at h
    cases h
  · rw [hrun] at h
    obtain rfl := Except.ok.inj h
    rfl

namespace Draft

variable {d : Draft} {m : ShaderModule}

/-- A finished module has the sections of its draft, and a memory model. -/
theorem part_of_finished (h : d.finished = .ok m) {k : Section} (hk : k ≠ .memoryModel) :
    m.part k = d.sections.part k := by
  unfold finished at h
  split at h
  · cases h
  · cases h
  · cases h
    cases k with
    | memoryModel => exact absurd rfl hk
    | _ => rfl

theorem memoryModel_of_finished (h : d.finished = .ok m) : m.memoryModel.opcode = .memoryModel := by
  unfold finished at h
  split at h
  · cases h
  · cases h
  · cases h
    rfl

/-- The module of a run is laid out. -/
theorem laidOut_of_changes {short exhausted : Prop} {settings : ModuleSettings} {a : Account}
    (h : Account.Changes short exhausted ⟨empty settings, []⟩ a) (hm : a.draft.finished = .ok m) :
    m.LaidOut := by
  obtain ⟨hcurrent, -, -, -, -, hfunctions⟩ := finished_eq_ok hm
  rw [bodies_of_none hcurrent] at hfunctions
  -- no function is open, so all of them are closed and have their shapes
  have hwhole : ∀ f ∈ m.functions, f.Whole := by
    intro f hf
    rw [hfunctions] at hf
    obtain ⟨fs, gs, hsplit⟩ := List.append_of_mem hf
    exact ((Shaped.after h).closed fs f gs hsplit).whole
  refine ⟨fun k i hi => ?_, rfl, ?_, hwhole, fun f hf i hi => (hwhole f hf).apart hi⟩
  · by_cases hk : k = .memoryModel
    · subst hk
      obtain rfl := List.mem_singleton.1 hi
      rw [memoryModel_of_finished hm]
      rfl
    · rw [part_of_finished hm hk] at hi
      exact h.place_of_part hi
  · rw [part_of_finished hm (k := .source) (by decide)]
    exact h.source

/-- **The words of a finished module are its header, its sections in the order of the format and its
functions.**  This does not depend on the order of the calls, of which some may have failed.  Within
a section, and among the functions, what was written first stands first: what was there after the
first calls stands at the beginning. -/
theorem finished_laidOut (settings : ModuleSettings) (os : List Operation) (m : ShaderModule)
    (h : (Build.finish.runOn ((empty settings).after os)).1 = .ok m) :
    (Build.assemble.runOn ((empty settings).after os)).1 =
        .ok (m.header.words ++ Section.all.flatMap (fun k => encodeAll (m.part k)) ++
          m.functions.flatMap fun f => encodeAll f.instructions) ∧
      m.LaidOut ∧
      ∀ before after, os = before ++ after →
        (∀ k, k ≠ .memoryModel → ((empty settings).after before).sections.part k <+: m.part k) ∧
        ∀ (n : Nat) (f : Function), ((empty settings).after before).bodies[n]? = some f →
          ∃ g, m.functions[n]? = some g ∧ f.Within g := by
  have hfinished := finished_of_finish h
  obtain ⟨a, ha, hchanges, -⟩ := run_account False settings os False.elim
  refine ⟨?_, laidOut_of_changes hchanges (ha ▸ hfinished), ?_⟩
  · rw [Build.assemble_of_finish h, m.words_eq]
  rintro before after rfl
  -- what the rest of the run appends stands behind what the first calls have written
  obtain ⟨b, hb, -, hconsistent⟩ := run_account False settings before False.elim
  obtain ⟨c, hc, hrest⟩ := after_changes False after hconsistent False.elim
  have happends := hrest.appends_any
  rw [hb] at happends hc
  rw [after_append] at hfinished
  rw [← hc] at hfinished
  refine ⟨fun k hk => ?_, fun n f hf => ?_⟩
  · rw [part_of_finished hfinished hk]
    exact (happends.parts k).isPrefix
  · obtain ⟨g, hg, hfg⟩ := happends.bodies n f hf
    obtain ⟨-, -, -, -, -, hfunctions⟩ := finished_eq_ok hfinished
    exact ⟨g, hfunctions ▸ hg, hfg.within⟩

/-- The module whose function is called before it is defined is laid out. -/
theorem finished_laidOut_of_sample :
    ∃ m, (Build.finish.runOn ((empty {}).after sampleCalls)).1 = .ok m ∧
      (Build.assemble.runOn ((empty {}).after sampleCalls)).1 =
        .ok (m.header.words ++ Section.all.flatMap (fun k => encodeAll (m.part k)) ++
          m.functions.flatMap fun f => encodeAll f.instructions) ∧ m.LaidOut := by
  obtain ⟨m, h⟩ := exists_sampleModule
  have hlaidOut := finished_laidOut {} sampleCalls m h
  exact ⟨m, h, hlaidOut.1, hlaidOut.2.1⟩

end Draft

end FrameShader
