/-
Finishing a draft: from the sections of a draft to a module and its words.

Main definitions:

* `FrameShader.Draft.finished` — the module of a draft, if nothing is left open;
* `FrameShader.Build.finish`, `FrameShader.Build.assemble` — the module, and its words.
-/

import FrameShader.Draft.Basic

set_option relaxedAutoImplicit false
set_option autoImplicit false

namespace FrameShader

/-- The header of the module of a draft. -/
def Draft.header (d : Draft) : Header :=
  ⟨versionWord d.settings.major d.settings.minor, d.settings.generator, d.bound⟩

/-- The module of a draft: no function is open, and every declared function has been defined.  If
several have not, the error names any one of them: which one it is has no meaning, and nothing is to
be concluded from it.  Here it is the one that was declared last. -/
def Draft.finished (d : Draft) : Except BuildError ShaderModule :=
  match d.current, d.tables.declared with
  | some f, _ => .error (.nestedFunction f.id)
  | none, (id, _) :: _ => .error (.undefinedId id)
  | none, [] =>
      .ok
        { header := d.header
          capabilities := d.sections.capabilities
          extensions := d.sections.extensions
          imports := d.sections.imports
          memoryModel :=
            .plain .memoryModel
              [.addressingModel d.settings.addressingModel, .memoryModel d.settings.memoryModel]
          entryPoints := d.sections.entryPoints
          executionModes := d.sections.executionModes
          source := d.sections.source
          names := d.sections.names
          annotations := d.sections.annotations
          globals := d.sections.globals
          functions := d.sections.functions }

namespace Build

/-- Finishes the draft. -/
def finish : Build ShaderModule := do
  let m ← inspect (·.finished)
  record .debug ("Finished module with " ++ toString m.functions.length ++ " functions, bound "
    ++ toString m.header.bound.toNat)
  return m

/-- Finishes the draft and gives the words of the module. -/
def assemble : Build (List Word) := do
  let m ← finish
  return m.words

end Build

end FrameShader
