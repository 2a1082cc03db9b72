/-
Silence: runs with and without debug symbols, side by side.

Two runs of the same calls are compared by what is left of their drafts when debug symbols are taken
away.  Neither the answers nor the rest of the drafts can tell them apart, so the module that is
finished without debug symbols is the one that is finished with them, less the instructions that only
serve a debugger.  These instructions stand in sections of their own, and nowhere else.

Main definitions:

* `FrameShader.Draft.mute`, `FrameShader.ShaderModule.mute` — drafts and modules without debug symbols;
* `FrameShader.Operation.keepsSymbols` — a call that does not ask for debug symbols or decline them;
* `FrameShader.Draft.answers` — the answers of a run;
* `FrameShader.Instruction.isSymbol` — the instruction only serves a debugger.

Main results:

* `FrameShader.Draft.after_mute`, `FrameShader.Draft.answers_mute` — **runs without debug symbols
  answer the same**, and lead to the same draft without them;
* `FrameShader.Build.finish_mute` — finishing does not notice them either;
* `FrameShader.Draft.Apart.words_mute` — **taking them away takes their instructions out of the
  stream**.
-/

import FrameShader.Proofs.Draft.Appending
import FrameShader.Proofs.Draft.Composing

set_option relaxedAutoImplicit false
set_option autoImplicit false

namespace FrameShader

/-! ### Finishing -/

/-- The module without debug symbols; `strip` says what is left of its execution modes. -/
def ShaderModule.overlook (strip : Instruction → Instruction) (m : ShaderModule) : ShaderModule :=
  { m with source := [], names := [], executionModes := m.executionModes.map strip }

theorem Draft.finished_overlook (strip : Instruction → Instruction) (d : Draft) :
    (d.overlook strip).finished = d.finished.map (ShaderModule.overlook strip) := by
  have hcurrent : (d.overlook strip).current = d.current := rfl
  have hdeclared : (d.overlook strip).tables.declared = d.tables.declared := rfl
  unfold Draft.finished
  rw [hcurrent, hdeclared]
  split <;> rfl

namespace Build

variable {strip : Instruction → Instruction}

/-- **Finishing only notices what is overlooked in the module it answers.** -/
theorem finish_overlook (strip : Instruction → Instruction) (d : Draft) :
    finish.runOn (d.overlook strip) =
      ((finish.runOn d).1.map (ShaderModule.overlook strip), (finish.runOn d).2.overlook strip) := by
  rw [runOn_finish, runOn_finish, Draft.finished_overlook]
  cases d.finished <;> rfl

/-- Finishing succeeds or fails alike on drafts that differ in what is overlooked. -/
theorem finish_agree_of_eq : Agree (fun d d' => d.overlook strip = d'.overlook strip)
    (fun m m' => m.overlook strip = m'.overlook strip) finish finish := by
  intro d d' hsame
  have hrun := finish_overlook strip d
  rw [hsame, finish_overlook, Prod.mk.injEq] at hrun
  obtain ⟨hanswer, hleft⟩ := hrun
  refine ⟨?_, hleft.symm⟩
  generalize (finish.runOn d).1 = answer at hanswer ⊢
  generalize (finish.runOn d').1 = answer' at hanswer ⊢
  cases answer with
  | ok m =>
      cases answer' with
      | ok m' => exact .ok (Except.ok.inj hanswer).symm
      | error e' => nomatch hanswer
  | error e =>
      cases answer' with
      | ok m' => nomatch hanswer
      | error e' =>
          obtain rfl := Except.error.inj hanswer
          exact .error _

end Build

/-! ### Runs without debug symbols -/

/-- The draft without debug symbols. -/
def Draft.mute (d : Draft) : Draft :=
  { d with
    settings := { d.settings with debugSymbols := false }
    sections := { d.sections with source := [], names := [] }
    tables := { d.tables with names := [] } }

/-- The module without debug symbols. -/
def ShaderModule.mute (m : ShaderModule) : ShaderModule := { m with source := [], names := [] }

theorem Draft.overlook_id : Draft.overlook id = Draft.mute := by
  funext d
  simp [Draft.overlook, Draft.mute]

theorem ShaderModule.overlook_id : ShaderModule.overlook id = ShaderModule.mute := by
  funext m
  simp [ShaderModule.overlook, ShaderModule.mute]

/-- The call neither asks for debug symbols nor declines them. -/
def Operation.keepsSymbols : Operation → Bool
  | .configure c => c.debugSymbols.isNone
  | _ => true

namespace Build

theorem executionMode_commutes (entryPoint : Id) (mode : ExecutionMode) (literals : List Word) :
    Commutes Draft.mute (executionMode entryPoint mode literals) :=
  .bind (.inspect fun _ => rfl) fun _ => .modify fun _ => rfl

/-- **Finishing only notices debug symbols in the module it answers.** -/
theorem finish_mute (d : Draft) :
    finish.runOn d.mute = ((finish.runOn d).1.map ShaderModule.mute, (finish.runOn d).2.mute) := by
  rw [← Draft.overlook_id, ← ShaderModule.overlook_id]
  exact finish_overlook id d

/-- Finishing a draft, and finishing it without debug symbols. -/
theorem finish_agree :
    Agree (fun d d' => d' = d.mute) (fun m m' => m' = m.mute) finish finish := by
  rintro d _ rfl
  rw [finish_mute]
  refine ⟨?_, rfl⟩
  cases (finish.runOn d).1 with
  | ok m => exact .ok rfl
  | error e => exact .error e

end Build

/-- **No call notices debug symbols** unless it asks for them. -/
theorem Operation.run_mute (o : Operation) (h : o.keepsSymbols = true) :
    Build.Commutes Draft.mute o.run := by
  by_cases hplain : o.isPlain = true
  · rw [← Draft.overlook_id]
    exact o.run_commutes id hplain
  · cases o with
    | configure c =>
        refine .map (.modify fun d => ?_) _
        have hnone : c.debugSymbols = none := Option.isNone_iff_eq_none.1 h
        simp [Draft.mute, Draft.configure, ModuleSettings.change, hnone]
    | executionMode id mode literals => exact .map (Build.executionMode_commutes id mode literals) _
    | localSize id x y z => exact .map (Build.executionMode_commutes id .localSize [x, y, z]) _
    | _ => exact absurd rfl hplain

namespace Draft

/-- What the calls of a run answer, one after the other. -/
def answers (d : Draft) : List Operation → List (Except Failure Answer)
  | [] => []
  | o :: os => (o.run.runOn d).1 :: (d.step o).answers os

theorem step_mute {o : Operation} (h : o.keepsSymbols = true) (d : Draft) :
    d.mute.step o = (d.step o).mute := congrArg Prod.snd (o.run_mute h d)

/-- **A run without debug symbols answers the same.** -/
theorem answers_mute {os : List Operation} (h : ∀ o ∈ os, o.keepsSymbols = true) (d : Draft) :
    d.mute.answers os = d.answers os := by
  induction os generalizing d with
  | nil => rfl
  | cons o os ih =>
      have ho := h o List.mem_cons_self
      have hanswer : (o.run.runOn d.mute).1 = (o.run.runOn d).1 :=
        by rw [o.run_mute ho d]
      rw [answers, answers, hanswer, step_mute ho, ih fun p hp => h p (List.mem_cons_of_mem o hp)]

/-- **A run without debug symbols leads to the same draft**, less the debug symbols. -/
theorem after_mute {os : List Operation} (h : ∀ o ∈ os, o.keepsSymbols = true) (d : Draft) :
    d.mute.after os = (d.after os).mute := by
  induction os generalizing d with
  | nil => rfl
  | cons o os ih =>
      rw [after_cons, after_cons, step_mute (h o List.mem_cons_self)]
      exact ih (fun p hp => h p (List.mem_cons_of_mem o hp)) (d.step o)

end Draft

/-! ### Instructions that only serve a debugger -/

/-- The instruction states the source language or a name. -/
def Instruction.isSymbol (i : Instruction) : Bool :=
  match i.opcode with
  | .source | .debugName | .debugMemberName => true
  | _ => false

/-- The instructions that only serve a debugger stand in their own two sections. -/
structure Sections.Apart (s : Sections) : Prop where
  capabilities : ∀ i ∈ s.capabilities, i.isSymbol = false
  extensions : ∀ i ∈ s.extensions, i.isSymbol = false
  entryPoints : ∀ i ∈ s.entryPoints, i.isSymbol = false
  executionModes : ∀ i ∈ s.executionModes, i.isSymbol = false
  source : ∀ i ∈ s.source, i.isSymbol = true
  names : ∀ i ∈ s.names, i.isSymbol = true
  annotations : ∀ i ∈ s.annotations, i.isSymbol = false

namespace Draft

variable {d d' : Draft}

/-- **Nothing that is written where ids are defined only serves a debugger.** -/
theorem Definition.isSymbol {short : Prop} {i : Instruction} (h : d.Definition short i) :
    i.isSymbol = false := by
  rcases h.import_or_isCode with ⟨text, id, rfl⟩ | hcode
  · rfl
  · unfold Instruction.isSymbol
    cases hopcode : i.opcode <;> first | rfl | (rw [hopcode] at hcode; cases hcode)

/-- Notes put symbols where they belong. -/
theorem Note.apart (hnote : d.Note d') (h : d.sections.Apart) : d'.sections.Apart := by
  have hgrow {s : List Instruction} {j : Instruction} {b : Bool}
      (hs : ∀ i ∈ s, i.isSymbol = b) (hj : j.isSymbol = b) : ∀ i ∈ s ++ [j], i.isSymbol = b := by
    intro i hi
    rcases List.mem_append.1 hi with hi | hi
    · exact hs i hi
    · rw [List.mem_singleton.1 hi, hj]
  cases hnote with
  | capability c =>
      unfold addCapability
      split
      · exact h
      · exact { h with capabilities := hgrow h.capabilities rfl }
  | extension text =>
      unfold addExtension
      split
      · exact h
      · exact { h with extensions := hgrow h.extensions rfl }
  | entryPoint => exact { h with entryPoints := hgrow h.entryPoints rfl }
  | executionMode => exact { h with executionModes := hgrow h.executionModes rfl }
  | decorate | decorateMember =>
      unfold addToAnnotations
      split
      · exact h
      · exact { h with annotations := hgrow h.annotations rfl }
  | source language version =>
      unfold addSource
      split
      · exact h
      · exact { h with source := hgrow (s := []) (fun _ hi => nomatch hi) rfl }
  | name | nameMember =>
      unfold addName
      split
      · exact h
      · exact { h with names := hgrow h.names rfl }
  | record | configure | slot | builtIn => exact h

/-- Debug symbols stand in their own sections, and no function holds any. -/
structure Apart (d : Draft) : Prop where
  sections : d.sections.Apart
  definitions : ∀ i ∈ d.definitions, i.isSymbol = false

theorem Apart.empty (settings : ModuleSettings) : (Draft.empty settings).Apart where
  sections := by constructor <;> exact fun _ hi => nomatch hi
  definitions := fun _ hi => nomatch hi

end Draft

namespace Account

variable {short exhausted : Prop} {a b : Account}

/-- **Every change keeps debug symbols apart.** -/
theorem Change.apart (h : Change short exhausted a b) (ha : a.draft.Apart) : b.draft.Apart := by
  refine ⟨?_, fun i hi => ?_⟩
  · have hsections := ha.sections
    cases h with
    | note hnote => exact hnote.apart hsections
    | @defineConstant d id ids key => cases key <;> exact { hsections with }
    | _ => exact { hsections with }
  · exact (h.definitions hi).elim (ha.definitions i) fun h => h.isSymbol

theorem Changes.apart (h : Changes short exhausted a b) (ha : a.draft.Apart) : b.draft.Apart :=
  h.preserves (P := fun a => a.draft.Apart) Change.apart ha

end Account

/-! ### Taking debug symbols out of a stream -/

/-- **A module without debug symbols has the same instructions**, less those that only serve a
debugger. -/
theorem Draft.Apart.instructions_mute {d : Draft} {m : ShaderModule} (h : d.Apart)
    (hm : d.finished = .ok m) : m.mute.instructions = m.instructions.filter (!·.isSymbol) := by
  have hkeep {is : List Instruction} (his : ∀ i ∈ is, i.isSymbol = false) :
      is.filter (!·.isSymbol) = is := List.filter_eq_self.2 fun i hi => by simp [his i hi]
  have hdrop {is : List Instruction} (his : ∀ i ∈ is, i.isSymbol = true) :
      is.filter (!·.isSymbol) = [] := List.filter_eq_nil_iff.2 fun i hi => by simp [his i hi]
  have hs := h.sections
  unfold finished at hm
  split at hm
  · cases hm
  · cases hm
  · next hcurrent _ =>
      cases hm
      -- what defines an id is no symbol, so only the source and the names are dropped
      have hdefined : ∀ i, (i ∈ d.sections.imports ∨ i ∈ d.sections.globals ∨
          ∃ f ∈ d.sections.functions, i ∈ f.instructions) → i.isSymbol = false := by
        intro i hi
        rw [← bodies_of_none hcurrent, ← mem_definitions] at hi
        exact h.definitions i hi
      have himports : ∀ i ∈ d.sections.imports, i.isSymbol = false := fun i hi =>
        hdefined i (Or.inl hi)
      have hglobals : ∀ i ∈ d.sections.globals, i.isSymbol = false := fun i hi =>
        hdefined i (Or.inr (Or.inl hi))
      have hfunctions : ∀ i ∈ d.sections.functions.flatMap Function.instructions,
          i.isSymbol = false := fun i hi =>
        hdefined i (Or.inr (Or.inr (List.mem_flatMap.1 hi)))
      simp only [ShaderModule.mute, ShaderModule.instructions, ShaderModule.globalInstructions,
        List.filter_append, hkeep hs.capabilities, hkeep hs.extensions, hkeep himports,
        hkeep hs.entryPoints, hkeep hs.executionModes, hdrop hs.source, hdrop hs.names,
        hkeep hs.annotations, hkeep hglobals, hkeep hfunctions]
      rfl

/-- **Taking debug symbols away takes their instructions out of the stream.** -/
theorem Draft.Apart.words_mute {d : Draft} {m : ShaderModule} (h : d.Apart)
    (hm : d.finished = .ok m) :
    m.mute.words = m.header.words ++ encodeAll (m.instructions.filter (!·.isSymbol)) := by
  rw [ShaderModule.words, h.instructions_mute hm]
  rfl

end FrameShader
