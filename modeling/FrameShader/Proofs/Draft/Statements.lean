/-
Statements: the sections of a draft that say something about ids and define none.

Capabilities, extensions, entry points, execution modes, the source, names and annotations are
statements, and what a statement is about has been looked up before.

Main definitions:

* `FrameShader.Draft.statements` — the statements of a draft;
* `FrameShader.Draft.Statement` — what may be stated.

Main results:

* `FrameShader.Draft.Note.entryPoints` — a note adds at most one entry point;
* `FrameShader.Draft.results_of_finished` — what a finished module defines.
-/

import FrameShader.Proofs.Draft.Runs

set_option relaxedAutoImplicit false
set_option autoImplicit false

namespace FrameShader

namespace Draft

/-- The statements of a draft: the sections that define nothing. -/
def statements (d : Draft) : List Instruction :=
  d.sections.capabilities ++ d.sections.extensions ++ d.sections.entryPoints ++
    d.sections.executionModes ++ d.sections.source ++ d.sections.names ++ d.sections.annotations

/-- What may be stated, each with what is known of its ids. -/
inductive Statement (d : Draft) : Instruction → Prop
  | capability (c : Capability) : Statement d (.plain .capability [.capability c])
  | extension (text : String) : Statement d (.plain .extension [.text text])
  | source (language : SourceLanguage) (version : Word) :
      Statement d (.plain .source [.sourceLanguage language, .literal version])
  | entryPoint {text : String} {f : OpenFunction} {interface : List Value}
      (hf : d.current = some f) (hi : ∀ v ∈ interface, d.Exposes v) :
      Statement d (.plain .entryPoint (.executionModel .glCompute :: .id f.id :: .text text ::
        interface.map fun v => .id v.id))
  | executionMode {entryPoint : Id} {mode : ExecutionMode} {literals : List Word}
      (h : d.isEntryPoint entryPoint = true) :
      Statement d (.plain .executionMode
        (.id entryPoint :: .executionMode mode :: literals.map .literal))
  | decorate {target : Id} {decoration : Decoration} {operands : List Operand}
      (h : d.isDefined target = true) :
      Statement d (.plain .decorate (.id target :: .decoration decoration :: operands))
  | decorateMember {target : Id} {member : Word} {decoration : Decoration}
      {operands : List Operand} (h : d.isDefined target = true)
      (hm : d.recordMember target member = .ok ()) :
      Statement d (.plain .memberDecorate
        (.id target :: .literal member :: .decoration decoration :: operands))
  | name {target : Id} {text : String} (h : d.isVisible target = true) :
      Statement d (.plain .debugName [.id target, .text text])
  | nameMember {target : Id} {member : Word} {text : String}
      (hm : d.recordMember target member = .ok ()) :
      Statement d (.plain .debugMemberName [.id target, .literal member, .text text])

/-- A statement defines nothing. -/
theorem Statement.result {d : Draft} {i : Instruction} (h : d.Statement i) : i.result = none := by
  cases h <;> rfl

/-- A note adds at most one entry point, that of the open function. -/
theorem Note.entryPoints {d d' : Draft} (h : d.Note d') :
    (d'.tables.entryPoints = d.tables.entryPoints ∧
      d'.sections.entryPoints = d.sections.entryPoints) ∨
      ∃ text f interface, d.current = some f ∧ d' = d.addEntryPoint text f.id interface := by
  let points (e : Draft) := (e.tables.entryPoints, e.sections.entryPoints)
  have hsame (h : points d' = points d) : d'.tables.entryPoints = d.tables.entryPoints ∧
      d'.sections.entryPoints = d.sections.entryPoints := Prod.mk.inj h
  cases h with
  | entryPoint _ hf => exact Or.inr ⟨_, _, _, hf, rfl⟩
  | capability c => exact Or.inl (hsame (view_eq (d.bare_addCapability c) points fun _ => rfl))
  | extension text => exact Or.inl (hsame (view_eq (d.bare_addExtension text) points fun _ => rfl))
  | source language version =>
      exact Or.inl (hsame (view_eq (d.bare_addSource language version) points fun _ => rfl))
  | decorate | decorateMember =>
      exact Or.inl (hsame (view_eq (d.unannotated_addToAnnotations _) points fun _ => rfl))
  | name | nameMember => exact Or.inl (hsame (view_eq (d.bare_addName _ _ _) points fun _ => rfl))
  | record | configure | executionMode | slot | builtIn => exact Or.inl ⟨rfl, rfl⟩

end Draft

/-! ### Finished modules -/

/-- The ids that the instructions of a module define. -/
def ShaderModule.results (m : ShaderModule) : List Id := resultsOf m.instructions

/-- What finishing answers and leaves behind. -/
theorem Build.runOn_finish (d : Draft) :
    Build.finish.runOn d =
      match d.finished with
      | .ok m => (.ok m, d.addRecord ⟨.debug, "Finished module with " ++ toString m.functions.length
          ++ " functions, bound " ++ toString m.header.bound.toNat⟩)
      | .error cause => (.error (.rejected cause), d) := by
  rw [Build.finish, Build.runOn_bind, Build.runOn_inspect]
  cases d.finished <;> rfl

namespace Draft

variable {d : Draft} {m : ShaderModule}

/-- A draft is finished if nothing is left open. -/
theorem finished_eq_ok (h : d.finished = .ok m) :
    d.current = none ∧ d.tables.declared = [] ∧ m.header.bound = d.nextId ∧
      m.imports = d.sections.imports ∧ m.globals = d.sections.globals ∧
      m.functions = d.bodies := by
  unfold finished at h
  split at h
  · cases h
  · cases h
  · next hcurrent hdeclared =>
      cases h
      exact ⟨hcurrent, hdeclared, rfl, rfl, rfl, (bodies_of_none hcurrent).symm⟩

/-- Finishing answers with the finished module. -/
theorem finished_of_finish (h : (Build.finish.runOn d).1 = .ok m) : d.finished = .ok m := by
  unfold Build.finish at h
  rw [Build.runOn_bind, Build.runOn_inspect] at h
  cases hm : d.finished with
  | error cause =>
      rw [hm] at h
      cases h
  | ok m' =>
      rw [hm] at h
      exact congrArg Except.ok (Except.ok.inj h)

/-- Finishing a draft that is finished again gives the same module. -/
theorem finished_after_finish {d' : Draft} (h : Build.finish.runOn d = (.ok m, d')) :
    d'.finished = .ok m := by
  rw [Build.runOn_finish] at h
  cases hm : d.finished with
  | error cause =>
      rw [hm] at h
      cases h
  | ok m' =>
      rw [hm] at h
      cases h
      exact hm

/-- **A finished module defines what its draft defines.** -/
theorem results_of_finished (hstatements : ∀ i ∈ d.statements, i.result = none)
    (h : d.finished = .ok m) : m.results = d.definedIds := by
  have hnone : resultsOf d.statements = [] := List.filterMap_eq_nil_iff.2 hstatements
  simp only [statements, resultsOf_append, List.append_eq_nil_iff] at hnone
  unfold finished at h
  split at h
  · cases h
  · cases h
  · next hcurrent _ =>
      cases h
      obtain ⟨⟨⟨⟨⟨⟨hcapabilities, hextensions⟩, hentryPoints⟩, hmodes⟩, hsource⟩, hnames⟩,
        hannotations⟩ := hnone
      simp only [ShaderModule.results, ShaderModule.instructions, ShaderModule.globalInstructions,
        resultsOf_append, hcapabilities, hextensions, hentryPoints, hmodes, hsource, hnames,
        hannotations, definedIds_eq, bodies_of_none hcurrent, resultsOf_flatMap]
      simp [Instruction.plain]

end Draft

end FrameShader
