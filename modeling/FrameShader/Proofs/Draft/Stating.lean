/-
Stating: a module says everything once.

Most sections of a module are sets: what is asked of the consumer, what is decorated and what is named.
A draft keeps a table beside each of them, and looks into it before it writes.  So nothing is said
twice, whatever is called and whether it succeeds.

Main results:

* `FrameShader.Draft.float64_mem_of_typeFloat` — wide numbers come with their capability;
* `FrameShader.Draft.step_of_statedIn` — to decorate something again changes nothing;
* `FrameShader.Draft.stated_once` — **a module says everything once**.
-/

import FrameShader.Proofs.Draft.Holding
import FrameShader.Proofs.Draft.Naming

set_option relaxedAutoImplicit false
set_option autoImplicit false

namespace FrameShader

namespace Draft

variable {d : Draft} {settings : ModuleSettings} {os : List Operation}

/-- A wide floating-point type is defined behind the declaration of its capability. -/
theorem float64_mem_of_typeFloat {ids : List Id} (hd : Account.Consistent ⟨d, ids⟩)
    (hwidens : d.Widens) (hdeclared : d.Declared) {i : Instruction} (hi : i ∈ d.sections.globals)
    (hopcode : i.opcode = .typeFloat) (hwidth : i.operands = [.literal 64]) :
    capabilityRow .float64 ∈ d.sections.capabilities := by
  have hknows : d.knows (.float 64) = true := by
    cases hd.entry hi with
    | type ht hid =>
        obtain rfl : _ = Opcode.typeFloat := hopcode
        cases ht with
        | float =>
            cases hwidth
            exact hid.knows
    | @constant c =>
        cases c with
        | bool value => cases value <;> cases hopcode
        | scalar | composite => cases hopcode
    | «variable» => cases hopcode
  obtain ⟨c, rfl, hc⟩ := hdeclared.capabilities.exists_of_mem (hwidens hknows)
  exact hc

/-- To decorate something in a way in which it is decorated already changes nothing. -/
theorem step_of_statedIn (hannotated : d.Annotated) {o : Operation} {i : Instruction}
    (ho : o.annotation? = some i) (hstated : i.StatedIn d.sections.annotations) : d.step o = d := by
  rcases run_annotation ho d with hrun | ⟨e, hrun⟩ <;> rw [Draft.step, hrun]
  exact if_pos (List.contains_iff_mem.2 (hannotated.statedIn_iff.1 hstated))

/-- **A module says everything once.**  After any run, whether its calls have succeeded or not:

* no capability is declared twice, and no two extensions, imported sets or entry points have the same
  name;
* the capability of wide floating-point numbers is declared if such a type is defined;
* no two annotations have the same words, and to decorate something in a way in which it is decorated
  already changes nothing;
* the names are the first that the ids and members were given while symbols were asked for;
* if no caller has said so by hand, then a built-in value has at most one holder.  This is a variable,
  and whoever has asked for the value was answered with it. -/
theorem stated_once (settings : ModuleSettings) (os : List Operation) :
    let d := (empty settings).after os
    let m := d.written
    ListsOnce id capabilityRow m.capabilities ∧
    ListsOnce id extensionRow m.extensions ∧
    ListsOnce Prod.fst importRow m.imports ∧
    ListsOnce Prod.fst entryPointRow m.entryPoints ∧
    (∀ i ∈ m.globals, i.opcode = .typeFloat → i.operands = [.literal 64] →
      capabilityRow .float64 ∈ m.capabilities) ∧
    (m.annotations.map Instruction.encode).Nodup ∧
    (∀ o i, o.annotation? = some i → i.StatedIn m.annotations → d.step o = d) ∧
    (∃ kept, Firsts ((empty settings).accepted os) kept ∧ m.names = kept.map GivenName.row) ∧
    ((∀ o ∈ os, o.decorates .builtIn = false) →
      (∀ builtIn, (m.holders builtIn).length ≤ 1) ∧
      (∀ builtIn, ∀ v ∈ m.holders builtIn, ∃ type,
        .typed .variable type v [.storageClass .input] ∈ m.globals) ∧
      ∀ builtIn t v, (.builtInInput builtIn t, .ok (.value v)) ∈ (empty settings).transcript os →
        m.holders builtIn = [v.id]) := by
  intro d m
  obtain ⟨⟨_, ids⟩, rfl, hchanges, hconsistent⟩ := run_account False settings os False.elim
  have hannotated : d.Annotated := hchanges.annotated (.empty settings)
  have hdeclared : d.Declared := hchanges.declared (.empty settings)
  obtain ⟨kept, hfirsts, hnames, -⟩ := named_after settings os
  refine ⟨hdeclared.capabilities.listsOnce, hdeclared.extensions.listsOnce,
    hdeclared.imports.listsOnce, hdeclared.entryPoints.listsOnce, fun i hi => ?_,
    hannotated.nodup, fun o i => step_of_statedIn hannotated, ⟨kept, hfirsts, hnames⟩,
    fun hdirect => ?_⟩
  · exact float64_mem_of_typeFloat hconsistent (widens_after settings os) hdeclared hi
  · have hfurnished := furnished_after settings os
    have hholders := (holding_after settings hdirect).holders_eq hannotated hfurnished
      hdeclared.builtIns (m := m) rfl
    refine ⟨fun builtIn => ?_, fun builtIn v hv => ?_, fun builtIn t v hcall => ?_⟩
    · rw [hholders]
      cases (d.tables.builtIns.lookup builtIn).map Value.id <;> simp
    · obtain ⟨type, hknown⟩ := ((holding_after settings hdirect).mem_holders hannotated hfurnished
        hdeclared.builtIns (m := m) rfl).1 hv
      exact ⟨type, (hfurnished.builtIns builtIn _ hknown).1⟩
    · rw [hholders, lookup_of_transcript hcall]
      rfl

/-- Calls that ask for some things twice.  The last one fails, since the value has another type. -/
def repeatingCalls : List Operation :=
  [.typeId (.float 64), .name 1 "wide", .decorate 1 .relaxedPrecision [],
    .builtInInput .vertexIndex .uint32, .builtInInput .vertexIndex .uint32,
    .builtInInput .vertexIndex (.float 64)]

/-- The capability of the wide type is declared, to decorate it again changes nothing, and the vertex
index has the variable that was answered. -/
theorem stated_once_of_repeating :
    let d := (empty { debugSymbols := true }).after repeatingCalls
    (∀ o ∈ repeatingCalls, o.decorates .builtIn = false) ∧
    (.builtInInput .vertexIndex .uint32, .ok (.value ⟨4, 3⟩)) ∈
      (empty { debugSymbols := true }).transcript repeatingCalls ∧
    capabilityRow .float64 ∈ d.written.capabilities ∧
    d.step (.decorate 1 .relaxedPrecision []) = d ∧
    d.written.holders .vertexIndex = [4] := by
  intro d
  obtain ⟨-, -, -, -, hwide, -, hagain, -, hbuiltIn⟩ :=
    stated_once { debugSymbols := true } repeatingCalls
  have hdirect : ∀ o ∈ repeatingCalls, o.decorates .builtIn = false := by decide
  have hcall : (.builtInInput .vertexIndex .uint32, .ok (.value ⟨4, 3⟩)) ∈
      (empty { debugSymbols := true }).transcript repeatingCalls :=
    mem_transcript.2 ⟨repeatingCalls.take 3, repeatingCalls.drop 4, rfl, by decide +kernel⟩
  have hdefined : .defining .typeFloat 1 [.literal 64] ∈ d.written.globals := by decide +kernel
  have hstated : Instruction.StatedIn (.plain .decorate [.id 1, .decoration .relaxedPrecision])
      d.written.annotations := List.mem_map.2 ⟨_, by decide +kernel, rfl⟩
  exact ⟨hdirect, hcall, hwide _ hdefined rfl rfl, hagain _ _ rfl hstated,
    (hbuiltIn hdirect).2.2 _ _ _ hcall⟩

end Draft

end FrameShader
