/-
Debug symbols: they change nothing else, in any run and in every kernel.

Main results:

* `FrameShader.Draft.symbols_change_nothing_else` — **two runs that differ in debug symbols** answer
  the same, lead to the same draft less the symbols, and finish modules that are the same less the
  instructions that only serve a debugger; in particular every kernel is generated with and without
  them.
-/

import FrameShader.Proofs.Kernel.Generation

set_option relaxedAutoImplicit false
set_option autoImplicit false

namespace FrameShader

namespace Kernel

open Build

/-- The draft of a kernel keeps debug symbols apart. -/
theorem apart_of_loadingModule {format : SensorFormat} {options : KernelOptions} {m : ShaderModule}
    {d : Draft} (h : (loadingModule format options).runOn (Kernel.draft options) = (.ok m, d)) :
    d.Apart := by
  have hdoes : Does False (loadingModule format options) ⟨Kernel.draft options, []⟩ _ :=
    Regular.does _ (.empty _)
  obtain ⟨a, rfl, hchanges, -⟩ := hdoes.exists_of_ok h
  exact hchanges.apart (.empty _)

/-- **A kernel without debug symbols** is the kernel with them, less the symbols. -/
theorem loadingModule_mute {format : SensorFormat} {p : Precision} {size : LocalSize}
    {m : ShaderModule} {d : Draft}
    (h : (loadingModule format ⟨p, true, size⟩).runOn (Kernel.draft ⟨p, true, size⟩) = (.ok m, d)) :
    (loadingModule format ⟨p, false, size⟩).runOn (Kernel.draft ⟨p, false, size⟩) =
      (.ok m.mute, d.mute) := by
  have hmute {α : Type} {call : Build α} (hcall : Composed call) :
      Agree (fun d d' => d' = d.mute) Eq call call := by
    rw [← Draft.overlook_id]
    exact (hcall.commutes id).agree
  obtain ⟨hanswer, hleft⟩ := loadingModule_agree format p true false hmute
    (fun id => (executionMode_commutes id .localSize [size.x, size.y, size.z]).agree) finish_agree
    (Kernel.draft ⟨p, true, size⟩) (Kernel.draft ⟨p, false, size⟩) rfl
  rw [h] at hanswer hleft
  refine Prod.ext ?_ hleft
  generalize ((loadingModule format ⟨p, false, size⟩).runOn (Kernel.draft ⟨p, false, size⟩)).1 =
    answer at hanswer ⊢
  cases hanswer with
  | ok hm => rw [hm]

end Kernel

namespace Draft

open Build

/-- **Debug symbols change nothing else.**  Two runs of the same calls, from settings that differ in
nothing but debug symbols, answer the same at every step; the draft without symbols is the other one
with its source statement, its names and its table of names taken away; finishing fails alike or
gives the same module without these instructions, and taking them out of the stream gives the other
stream.  The same holds for the kernel of every format, precision and group size. -/
theorem symbols_change_nothing_else :
    (∀ (settings : ModuleSettings) (os : List Operation), (∀ o ∈ os, o.keepsSymbols = true) →
      let loud := Draft.empty { settings with debugSymbols := true }
      let silent := Draft.empty { settings with debugSymbols := false }
      silent.answers os = loud.answers os ∧ silent.after os = (loud.after os).mute ∧
        finish.runOn (silent.after os) =
          ((finish.runOn (loud.after os)).1.map ShaderModule.mute,
            (finish.runOn (loud.after os)).2.mute) ∧
        ∀ m, (finish.runOn (loud.after os)).1 = .ok m →
          m.mute.words = m.header.words ++ encodeAll (m.instructions.filter (!·.isSymbol))) ∧
    ∀ (format : SensorFormat) (p : Precision) (size : LocalSize), ∃ m d k k',
      (loadingModule format ⟨p, true, size⟩).runOn (Kernel.draft ⟨p, true, size⟩) = (.ok m, d) ∧
      (loadingModule format ⟨p, false, size⟩).runOn (Kernel.draft ⟨p, false, size⟩) =
        (.ok m.mute, d.mute) ∧
      (Kernel.generate format ⟨p, true, size⟩).1 = .ok k ∧ k.words = m.words ∧
      (Kernel.generate format ⟨p, false, size⟩).1 = .ok k' ∧
      k'.words = m.header.words ++ encodeAll (m.instructions.filter (!·.isSymbol)) := by
  constructor
  · intro settings os hos loud silent
    have hafter : silent.after os = (loud.after os).mute := after_mute hos loud
    refine ⟨answers_mute hos loud, hafter, ?_, fun m hm => ?_⟩
    · rw [hafter, finish_mute]
    · obtain ⟨a, ha, hchanges, -⟩ :=
        run_account False { settings with debugSymbols := true } os False.elim
      have hapart : (loud.after os).Apart := by
        rw [← ha]
        exact hchanges.apart (.empty _)
      exact hapart.words_mute (finished_of_finish hm)
  · intro format p size
    obtain ⟨m, d, hloud⟩ := Kernel.exists_loadingModule format ⟨p, true, size⟩
    have hsilent := Kernel.loadingModule_mute hloud
    refine ⟨m, d, _, _, hloud, hsilent, Kernel.generate_of_loadingModule hloud, rfl,
      Kernel.generate_of_loadingModule hsilent, ?_⟩
    exact (Kernel.apart_of_loadingModule hloud).words_mute (finished_of_loadingModule hloud)

/-- Calls that name a type, its function and a parameter, and state the source language. -/
def namingCalls : List Operation :=
  [.source .unknown 0,
    .beginFunction "identity" (.float 32) [.float 32] .none,
    .name 4 "x",
    .returnFunction (some ⟨4, 2⟩),
    .endFunction]

/-- The sample keeps the source statement and its names only if it is to. -/
theorem symbols_change_nothing_else_of_sample :
    (∀ o ∈ namingCalls, o.keepsSymbols = true) ∧
      (empty { debugSymbols := true }).Succeeds namingCalls ∧
      ((empty { debugSymbols := true }).after namingCalls).sections.names.length = 5 ∧
      (empty { debugSymbols := false }).answers namingCalls =
        (empty { debugSymbols := true }).answers namingCalls ∧
      (empty { debugSymbols := false }).after namingCalls =
        ((empty { debugSymbols := true }).after namingCalls).mute := by
  have hkeeps : ∀ o ∈ namingCalls, o.keepsSymbols = true := by decide
  obtain ⟨hanswers, hafter, -, -⟩ := symbols_change_nothing_else.1 {} namingCalls hkeeps
  exact ⟨hkeeps, by decide +kernel, by decide +kernel, hanswers, hafter⟩

end Draft

end FrameShader
