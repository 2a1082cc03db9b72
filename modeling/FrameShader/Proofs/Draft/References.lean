/-
References of finished modules: everything refers to what is defined before it.

When a module is finished, no id is reserved any more, so every function that is called is there.
That a function does not look into another one follows from the order of its references, since no id
is defined twice.

Main definitions:

* `FrameShader.ShaderModule.WellScoped` — a module that refers only to what it has defined.

Main results:

* `FrameShader.Draft.finished_wellScoped` — **a finished module refers only to what it has defined**.
-/

import FrameShader.Proofs.Draft.Scoping

set_option relaxedAutoImplicit false
set_option autoImplicit false

namespace FrameShader

/-! ### Functions apart -/

/-- What is defined inside of a function: its parameters, its label and its results. -/
def Function.locals (f : Function) : List Id :=
  resultsOf (f.parameters ++ f.label :: f.body)

theorem Function.results_eq (f : Function) :
    resultsOf f.instructions = f.definition.result.toList ++ f.locals := by
  simp [Function.instructions, Function.locals, Function.finish, Instruction.plain]

section apart

variable {known : List Id} {fs : List Function} {f g : Function} {id : Id}

/-- What a function defines inside is not known from elsewhere. -/
theorem not_mem_of_mem_locals
    (h : (known ++ fs.flatMap fun f => resultsOf f.instructions).Nodup) (hg : g ∈ fs)
    (hid : id ∈ g.locals) :
    id ∉ known ∧ id ∉ resultsOf (fs.map Function.definition) ∧
      ∀ f ∈ fs, f ≠ g → id ∉ resultsOf f.instructions := by
  obtain ⟨-, hfunctions, hknown⟩ := List.nodup_append.1 h
  obtain ⟨hnodup, hapart⟩ := List.nodup_flatMap.1 hfunctions
  have hown : id ∈ resultsOf g.instructions := by
    rw [Function.results_eq]
    exact List.mem_append_right _ hid
  have hother : ∀ f ∈ fs, f ≠ g → id ∉ resultsOf f.instructions := by
    intro f hf hne hmem
    have : Std.Symm fun f g : Function =>
        List.Disjoint (resultsOf f.instructions) (resultsOf g.instructions) :=
      ⟨fun _ _ => List.disjoint_symm⟩
    exact List.Pairwise.forall hapart hf hg hne hmem hown
  refine ⟨fun hmem => ?_, fun hmem => ?_, hother⟩
  · exact hknown id hmem id (List.mem_flatMap.2 ⟨g, hg, hown⟩) rfl
  · obtain ⟨i, hi, hresult⟩ := mem_resultsOf.1 hmem
    obtain ⟨f, hf, rfl⟩ := List.mem_map.1 hi
    by_cases hfg : f = g
    · have honce := hnodup g hg
      rw [Function.results_eq, ← hfg, hresult] at honce
      exact (List.nodup_cons.1 honce).1 (hfg ▸ hid)
    · exact hother f hf hfg (mem_resultsOf.2 ⟨_, List.mem_cons_self, hresult⟩)

end apart

/-! ### Finished modules -/

/-- A module that refers only to what it has defined. -/
structure ShaderModule.WellScoped (m : ShaderModule) : Prop where
  /-- A global refers to globals before it. -/
  globals : ∀ before i after, m.globals = before ++ i :: after →
    ∀ id ∈ i.references, id ∈ resultsOf before
  /-- A function refers to imports, globals, what stands before in it, and functions up to it, and
  calls functions of the module. -/
  functions : ∀ fs f gs, m.functions = fs ++ f :: gs → ∀ before i after,
    f.instructions = before ++ i :: after →
      (∀ id ∈ i.uses,
        id ∈ resultsOf m.imports ∨ id ∈ resultsOf m.globals ∨ id ∈ resultsOf before ∨
          ∃ g ∈ fs ++ [f], g.definition.opcode = .function ∧ g.definition.result = some id) ∧
      ∀ id ∈ i.callee?,
        ∃ g ∈ m.functions, g.definition.opcode = .function ∧ g.definition.result = some id
  /-- A function does not look into another one. -/
  locals : ∀ f ∈ m.functions, ∀ g ∈ m.functions, f ≠ g → ∀ i ∈ f.instructions,
    ∀ id ∈ i.references, id ∉ g.locals
  /-- Entry points, execution modes, names and decorations are about what is defined. -/
  targets : ∀ i ∈ m.instructions, ∀ id ∈ i.targets, id ∈ m.results
  /-- An entry point has a function, and its interface is made of variables. -/
  entryPoints : ∀ i ∈ m.instructions, i.opcode = .entryPoint → ∃ function interface,
    i.targets = function :: interface ∧
      (∃ g ∈ m.functions, g.definition.opcode = .function ∧
        g.definition.result = some function) ∧
      ∀ id ∈ interface, ∃ v ∈ m.globals, v.IsInterface ∧ v.result = some id

namespace Draft

variable {d : Draft} {m : ShaderModule}

/-- An instruction of a finished module is written in its draft, or it is the memory model. -/
theorem mem_of_finished (h : d.finished = .ok m) {i : Instruction} (hi : i ∈ m.instructions) :
    i ∈ d.statements ++ d.definitions ∨ i.opcode = .memoryModel := by
  unfold finished at h
  split at h
  · cases h
  · cases h
  · next hcurrent _ =>
      cases h
      simp only [ShaderModule.instructions, ShaderModule.globalInstructions, statements,
        definitions, bodies_of_none hcurrent, List.mem_append, List.mem_singleton] at hi ⊢
      by_cases hmodel : i.opcode = .memoryModel
      · exact Or.inr hmodel
      · refine Or.inl ?_
        have hne : i ≠ .plain .memoryModel
            [.addressingModel d.settings.addressingModel, .memoryModel d.settings.memoryModel] :=
          fun heq => hmodel (heq ▸ rfl)
        tauto

/-- An id of a function is the result of a function. -/
theorem Scoped.exists_function (hs : d.Scoped) {fs : List Function} (hfs : fs ⊆ d.bodies) {id : Id}
    (hid : id ∈ resultsOf (fs.map Function.definition)) :
    ∃ g ∈ fs, g.definition.opcode = .function ∧ g.definition.result = some id := by
  obtain ⟨i, hi, hresult⟩ := mem_resultsOf.1 hid
  obtain ⟨g, hg, rfl⟩ := List.mem_map.1 hi
  exact ⟨g, hg, hs.functions g (hfs hg), hresult⟩

/-- In a scoped draft, a function refers to what it knows, to itself and to functions. -/
theorem Scoped.references (hs : d.Scoped) (hdeclared : d.tables.declared = []) {f : Function}
    (hf : f ∈ d.bodies) {i : Instruction} (hi : i ∈ f.instructions) {id : Id}
    (hid : id ∈ i.references) :
    id ∈ resultsOf d.sections.imports ++ resultsOf d.sections.globals ∨
      id ∈ resultsOf f.instructions ∨ id ∈ d.functionIds := by
  obtain ⟨fs, gs, hbodies⟩ := List.append_of_mem hf
  obtain ⟨before, after, hsplit⟩ := List.append_of_mem hi
  have hordered := hs.bodies
  rw [hbodies] at hordered
  have hown := hordered.split
  rw [hsplit] at hown
  obtain ⟨huses, hcallee⟩ := hown.split
  rcases (i.mem_references_iff id).1 hid with hid | hid
  · have hcallees := hcallee id hid
    rw [callees, declaredIds, hdeclared, List.map_nil, List.append_nil] at hcallees
    exact Or.inr (Or.inr hcallees)
  · rcases List.mem_append.1 (huses id hid) with hid | hid
    · rcases List.mem_append.1 hid with hid | hid
      · exact Or.inl hid
      · refine Or.inr (Or.inr ?_)
        rw [functionIds, hbodies, List.map_append, resultsOf_append]
        exact List.mem_append_left _ hid
    · refine Or.inr (Or.inl ?_)
      rw [hsplit, resultsOf_append]
      exact List.mem_append_left _ hid

/-- In a scoped draft, a global refers to globals before it. -/
theorem Scoped.references_global (hs : d.Scoped) {before after : List Instruction} {i : Instruction}
    (hsplit : d.sections.globals = before ++ i :: after) :
    ∀ id ∈ i.references, id ∈ resultsOf before := by
  have hordered := hs.globals
  rw [hsplit] at hordered
  obtain ⟨huses, hcallee⟩ := hordered.split
  intro id hid
  rcases (i.mem_references_iff id).1 hid with hid | hid
  · exact absurd (hcallee id hid) List.not_mem_nil
  · exact huses id hid

/-- In a scoped draft, a function uses what stands before, and calls functions. -/
theorem Scoped.uses_and_callee (hs : d.Scoped) (hdeclared : d.tables.declared = [])
    {fs gs : List Function} {f : Function} (hsplit : d.bodies = fs ++ f :: gs)
    {before after : List Instruction} {i : Instruction}
    (hinstructions : f.instructions = before ++ i :: after) :
    (∀ id ∈ i.uses, id ∈ resultsOf d.sections.imports ∨ id ∈ resultsOf d.sections.globals ∨
      id ∈ resultsOf before ∨
        ∃ g ∈ fs ++ [f], g.definition.opcode = .function ∧ g.definition.result = some id) ∧
    ∀ id ∈ i.callee?,
      ∃ g ∈ d.bodies, g.definition.opcode = .function ∧ g.definition.result = some id := by
  have hordered := hs.bodies
  rw [hsplit] at hordered
  have hown := hordered.split
  rw [hinstructions] at hown
  obtain ⟨huses, hcallee⟩ := hown.split
  refine ⟨fun id hid => ?_, fun id hid => ?_⟩
  · have hknown := huses id hid
    simp only [List.mem_append, or_assoc] at hknown
    refine hknown.imp_right (Or.imp_right ?_)
    rintro (hbefore | hbefore)
    · have hfs : fs ⊆ d.bodies := hsplit ▸ List.subset_append_left _ _
      obtain ⟨g, hg, hresult⟩ := hs.exists_function hfs hbefore
      exact Or.inr ⟨g, List.mem_append_left _ hg, hresult⟩
    · exact Or.inl hbefore
  · have hmem := hcallee id hid
    rw [callees, declaredIds, hdeclared, List.map_nil, List.append_nil] at hmem
    exact hs.exists_function (List.Subset.refl _) hmem

/-- In a scoped draft, a function does not refer to what is local to another one. -/
theorem Scoped.not_mem_locals (hs : d.Scoped) (hdeclared : d.tables.declared = [])
    (hnodup : d.definedIds.Nodup) {f g : Function} (hf : f ∈ d.bodies) (hg : g ∈ d.bodies)
    (hne : f ≠ g) {i : Instruction} (hi : i ∈ f.instructions) {id : Id} (hid : id ∈ i.references) :
    id ∉ g.locals := by
  intro hlocal
  rw [definedIds_eq] at hnodup
  obtain ⟨hknown, hids, hother⟩ := not_mem_of_mem_locals hnodup hg hlocal
  rcases hs.references hdeclared hf hi hid with hid | hid | hid
  · exact hknown hid
  · exact hother f hf hne hid
  · exact hids hid

/-- **A module refers only to what it has defined** if its draft is scoped. -/
theorem Scoped.wellScoped (hs : d.Scoped) (hnodup : d.definedIds.Nodup)
    (hresults : m.results = d.definedIds) (h : d.finished = .ok m) : m.WellScoped := by
  obtain ⟨-, hdeclared, -, himports, hglobals, hfunctions⟩ := finished_eq_ok h
  have hsound : ∀ i ∈ m.instructions, i.opcode ≠ .memoryModel → d.Sound i := fun i hi hmodel =>
    hs.sound i ((mem_of_finished h hi).resolve_right hmodel)
  refine ⟨?globals, ?functions, ?locals, ?targets, ?entryPoints⟩
  case globals =>
    intro before i after hsplit
    exact hs.references_global (hglobals ▸ hsplit)
  case functions =>
    intro fs f gs hsplit before i after hinstructions
    rw [himports, hglobals, hfunctions]
    exact hs.uses_and_callee hdeclared (hfunctions ▸ hsplit) hinstructions
  case locals =>
    intro f hf g hg hne i hi id hid
    rw [hfunctions] at hf hg
    exact hs.not_mem_locals hdeclared hnodup hf hg hne hi hid
  case targets =>
    intro i hi id hid
    rw [hresults]
    by_cases hmodel : i.opcode = .memoryModel
    · simp [Instruction.targets, hmodel] at hid
    · exact (hsound i hi hmodel).targets id hid
  case entryPoints =>
    intro i hi hopcode
    have hmodel : i.opcode ≠ .memoryModel := by
      rw [hopcode]
      decide
    obtain ⟨function, interface, htargets, hfunction, hinterface⟩ :=
      (hsound i hi hmodel).entryPoint hopcode
    rw [hfunctions, hglobals]
    exact ⟨function, interface, htargets, hs.exists_function (List.Subset.refl _) hfunction,
      hinterface⟩

/-- **A finished module refers only to what it has defined.** -/
theorem finished_wellScoped (settings : ModuleSettings) (os : List Operation) (m : ShaderModule)
    (hids : (empty settings).HasIds os)
    (h : (Build.finish.runOn ((empty settings).after os)).1 = .ok m) : m.WellScoped := by
  obtain ⟨b, -, hchanges, hconsistent, hfinished, hresults⟩ := account_of_finish settings os h
  have hscoped := Scoped.after (hchanges.mono fun hnot => hnot hids)
  exact hscoped.wellScoped hconsistent.nodup_definedIds hresults hfinished

/-- The module whose function is called before it is defined refers to what it has defined. -/
theorem finished_wellScoped_of_sample :
    (empty {}).HasIds sampleCalls ∧
      ∃ m, (Build.finish.runOn ((empty {}).after sampleCalls)).1 = .ok m ∧ m.WellScoped := by
  have hids : (empty {}).HasIds sampleCalls := by decide +kernel
  obtain ⟨m, h⟩ := exists_sampleModule
  exact ⟨hids, m, h, finished_wellScoped {} sampleCalls m hids h⟩

end Draft

end FrameShader
