/-
Generation: every kernel is generated, and a kernel of a mosaic format reconstructs the colour.

The group size and the debug symbols of a kernel are looked at by no call, so whether generation
succeeds does not depend on them.  What is left are the formats and precisions, and those few kernels
are simply generated.

Main results:

* `FrameShader.Build.loadingModule_agree` — kernels of one format and precision, side by side;
* `FrameShader.Kernel.exists_loadingModule` — **every kernel is generated**;
* `FrameShader.Kernel.generate_reconstructs` — **a kernel of a mosaic format writes the colours that
  the filters find**.
-/

import FrameShader.Proofs.Draft.Silence
import FrameShader.Proofs.Kernel.Loading
import FrameShader.Proofs.Kernel.Outline
import Mathlib.Tactic.NormNum

set_option relaxedAutoImplicit false
set_option autoImplicit false

namespace FrameShader

namespace Build

/-! ### Kernels side by side -/

variable {Q : Draft → Draft → Prop} {R : ShaderModule → ShaderModule → Prop}

/-- **Kernels of one format and precision**: they are told apart by nothing but how entry points run
and how modules are finished. -/
theorem loadingModule_agree (format : SensorFormat) (p : Precision) (symbols symbols' : Bool)
    {s s' : LocalSize}
    (hcomposed : ∀ {α : Type} {call : Build α}, Composed call → Agree Q Eq call call)
    (hsize : ∀ id, Agree Q Eq (localSize id s.x s.y s.z) (localSize id s'.x s'.y s'.z))
    (hfinish : Agree Q R finish finish) :
    Agree Q R (loadingModule format ⟨p, symbols, s⟩) (loadingModule format ⟨p, symbols', s'⟩) := by
  have hcall {α : Type} {call : Build α} [h : Composed call] : Agree Q Eq call call := hcomposed h
  unfold loadingModule
  refine .after hcall fun _ => .after hcall fun _ => .after hcall fun r => ?_
  -- With and without reconstruction, only the group size differs.
  cases format.firstRed
  all_goals
    refine .after hcall fun demosaic => .after hcall fun entry => ?_
    refine .bind (hsize entry.id) fun _ _ _ => ?_
    exact .after hcall fun _ => .after hcall fun _ => .after hcall fun _ => hfinish

/-- Group sizes differ only in the operands of execution modes. -/
theorem localSize_agree (c : Instruction) (id : Id) (s s' : LocalSize) :
    Agree (fun d d' => d.overlook (fun _ => c) = d'.overlook fun _ => c) Eq
      (localSize id s.x s.y s.z) (localSize id s'.x s'.y s'.z) := by
  refine .after (Commutes.agree_of_eq (.inspect fun _ => rfl)) fun _ => .modify fun d d' hsame => ?_
  rw [Draft.addExecutionMode_overlook, Draft.addExecutionMode_overlook, hsame]

end Build

/-! ### Every kernel is generated -/

namespace Kernel

open Build

/-- **Every kernel is generated**, whatever it is asked for. -/
theorem exists_loadingModule (format : SensorFormat) (options : KernelOptions) :
    ∃ m d, (loadingModule format options).runOn (Kernel.draft options) = (.ok m, d) := by
  obtain ⟨p, symbols, size⟩ := options
  obtain ⟨hanswer, -⟩ := loadingModule_agree format p false symbols
    (fun h => (h.commutes fun _ => Function.finish).agree_of_eq)
    (fun id => localSize_agree Function.finish id .one size) finish_agree_of_eq
    (Kernel.draft ⟨p, false, .one⟩) (Kernel.draft ⟨p, symbols, size⟩) rfl
  obtain ⟨m₀, d₀, _, _, _, hplain, -⟩ := exists_opening format p
  rcases hrun : (loadingModule format ⟨p, symbols, size⟩).runOn (Kernel.draft ⟨p, symbols, size⟩) with
    ⟨e | m, d⟩
  · rw [hplain, hrun] at hanswer
    cases hanswer
  · exact ⟨m, d, rfl⟩

/-- A kernel has the words of its module. -/
theorem generate_of_loadingModule {format : SensorFormat} {options : KernelOptions}
    {m : ShaderModule} {d : Draft}
    (h : (loadingModule format options).runOn (Kernel.draft options) = (.ok m, d)) :
    (generate format options).1 =
      .ok ⟨format.entryPoint, format, options.precision, m.words, Slot.layout options.precision⟩ := by
  have hwords : (loadingKernel format options).runOn (Kernel.draft options) = (.ok m.words, d) := by
    rw [loadingKernel, runOn_bind_of_ok h]
    rfl
  rw [generate, hwords]

/-! ### What a kernel writes -/

/-- **A kernel of a mosaic format reconstructs the colour.**  The formats with a red texel are the
four of `SensorFormat.firstRed_eq_some_iff`.  The kernel is generated for every precision, group size
and choice of debug symbols, and each invocation writes one colour at its own index: the one that the
filters find around the coordinate it reads, by the parity of the column and the row counted from a
red texel. -/
theorem generate_reconstructs (format : SensorFormat) (options : KernelOptions) {column row : Nat}
    (hplace : format.firstRed = some (column, row)) :
    ∃ m d k, (loadingModule format options).runOn (Kernel.draft options) = (.ok m, d) ∧
      (generate format options).1 = .ok k ∧ k.words = m.words ∧
      ∀ host : Host, let place := host.coordinates (host.invocation 0)
        m.execute host k.entryPoint =
          some [⟨host.invocation 0,
            Filters.colour (fun dx dy => host.texel (place.1 + dx) (place.2 + dy) 0)
              ⌊place.1 + column⌋ ⌊place.2 + row⌋⟩] := by
  obtain ⟨m, d, hrun⟩ := exists_loadingModule format options
  exact ⟨m, d, _, hrun, generate_of_loadingModule hrun, rfl, loadingModule_writes hplace hrun⟩

/-- A frame whose brightness rises evenly, read at a red texel. -/
def gradientHost : Host where
  texel x y _ := x + 10 * y
  coordinates _ := (3, 2)
  invocation _ := 7

/-- The kernel finds the brightness of the texel for every channel. -/
theorem generate_reconstructs_gradient :
    SensorFormat.grbg.firstRed = some (1, 0) ∧
      ∃ m d k, (loadingModule .grbg { precision := .double }).runOn
          (Kernel.draft { precision := .double }) = (.ok m, d) ∧
        (generate .grbg { precision := .double }).1 = .ok k ∧ k.words = m.words ∧
          m.execute gradientHost k.entryPoint = some [⟨7, [23, 23, 23, 1]⟩] := by
  have hplace : SensorFormat.grbg.firstRed = some (1, 0) :=
    SensorFormat.firstRed_eq_some_iff.2 (by decide)
  obtain ⟨m, d, k, hrun, hgenerate, hwords, hwrites⟩ :=
    generate_reconstructs .grbg { precision := .double } hplace
  refine ⟨hplace, m, d, k, hrun, hgenerate, hwords, (hwrites gradientHost).trans ?_⟩
  have hcolumn : ⌊(3 : ℚ) + (1 : ℕ)⌋ = 4 := by norm_num
  have hrow : ⌊(2 : ℚ) + (0 : ℕ)⌋ = 2 := by norm_num
  simp only [gradientHost, hcolumn, hrow, Filters.colour, Filters.convolve,
    Filters.greenAtRedOrBlue, Filters.fromDiagonals, Filters.fromRow, Filters.fromColumn,
    Filters.steps, Filters.arrange]
  norm_num

end Kernel

end FrameShader
