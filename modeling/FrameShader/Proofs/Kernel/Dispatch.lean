/-
Dispatches: the invocations of a kernel, one after the other.

A dispatch runs many invocations over one frame, one buffer of coordinates and one network buffer, and
nobody says in which order.  Each invocation loads its own coordinate and no other one, and writes its
own colour and no other one.  So what a dispatch leaves behind is told by the set of its invocations:
their order does not matter, nor does running some of them again.

Main definitions:

* `FrameShader.Write.applied` — the network buffer after a write;
* `FrameShader.ShaderModule.invoke` — one invocation, run on a network buffer;
* `FrameShader.ShaderModule.dispatch` — many of them, one after the other;
* `FrameShader.Host.shaded` — the network buffer in which the colours at some indices are written.

Main results:

* `FrameShader.Kernel.invoke_eq` — an invocation overwrites its own colour;
* `FrameShader.Kernel.dispatch_eq` — what a dispatch leaves behind;
* `FrameShader.Kernel.invocations_confined` — **each invocation keeps to its own index, and the order
  of a dispatch does not matter**.
-/

import FrameShader.Proofs.Kernel.Generation

set_option relaxedAutoImplicit false
set_option autoImplicit false

namespace FrameShader

/-! ### Running invocations -/

/-- The index of an invocation along three axes. -/
abbrev Invocation := Fin 3 → Word

/-- The colours in the network buffer. -/
abbrev NetworkBuffer := Word → List ℚ

/-- The network buffer after a write. -/
def Write.applied (output : NetworkBuffer) (w : Write) : NetworkBuffer :=
  Function.update output w.index w.lanes

/-- The surroundings of another invocation: the frame and the coordinates are the same. -/
def Host.invoking (host : Host) (g : Invocation) : Host := { host with invocation := g }

namespace ShaderModule

/-- What is in the network buffer after one invocation, if it is not stuck. -/
def invoke (m : ShaderModule) (host : Host) (text : String) (output : NetworkBuffer)
    (g : Invocation) : Option NetworkBuffer :=
  (m.execute (host.invoking g) text).map fun writes => writes.foldl Write.applied output

/-- What is in the network buffer after these invocations, one after the other. -/
def dispatch (m : ShaderModule) (host : Host) (text : String) (gs : List Invocation)
    (output : NetworkBuffer) : Option NetworkBuffer :=
  gs.foldlM (m.invoke host text) output

end ShaderModule

namespace Host

/-- The colour that belongs at an index: that of the frame at the coordinate with this index. -/
def colourFor (host : Host) (format : SensorFormat) (index : Word) : List ℚ :=
  host.frameColour format (host.coordinates index)

/-- The network buffer in which the colours at these indices are written. -/
def shaded (host : Host) (format : SensorFormat) (indices : List Word) (output : NetworkBuffer) :
    NetworkBuffer := fun index =>
  if index ∈ indices then host.colourFor format index else output index

variable {host : Host} {format : SensorFormat}

@[simp] theorem shaded_nil (output : NetworkBuffer) : host.shaded format [] output = output := by
  funext index
  rw [shaded, if_neg List.not_mem_nil]

/-- One colour more, before the others. -/
theorem shaded_update (own : Word) (indices : List Word) (output : NetworkBuffer) :
    host.shaded format indices (Function.update output own (host.colourFor format own)) =
      host.shaded format (own :: indices) output := by
  funext index
  by_cases hown : index = own
  · subst hown
    simp [shaded]
  · simp [shaded, hown]

/-- Only the set of the indices matters. -/
theorem shaded_congr {indices indices' : List Word} (h : ∀ i, i ∈ indices ↔ i ∈ indices') :
    host.shaded format indices = host.shaded format indices' := by
  funext output index
  simp only [shaded, h]

end Host

/-! ### Kernels -/

namespace Kernel

open Build

section

variable {format : SensorFormat} {options : KernelOptions} {m : ShaderModule} {d : Draft}

/-- **An invocation overwrites its own colour**, and leaves all the others as they are. -/
theorem invoke_eq (hrun : (loadingModule format options).runOn (Kernel.draft options) = (.ok m, d))
    (host : Host) (output : NetworkBuffer) (g : Invocation) :
    m.invoke host format.entryPoint output g =
      some (Function.update output (g 0) (host.colourFor format (g 0))) := by
  have hwrites := Program.execute_of_executeWithin
    (loadingModule_writesWithin hrun (host.invoking g))
  rw [ShaderModule.invoke, ShaderModule.execute, hwrites]
  rfl

/-- **What a dispatch leaves behind**: the colours of its invocations, and elsewhere what was there
before. -/
theorem dispatch_eq
    (hrun : (loadingModule format options).runOn (Kernel.draft options) = (.ok m, d)) (host : Host)
    (gs : List Invocation) (output : NetworkBuffer) :
    m.dispatch host format.entryPoint gs output =
      some (host.shaded format (gs.map fun g => g 0) output) := by
  -- For every buffer at once, as each invocation hands on another one.
  induction gs generalizing output with
  | nil =>
      rw [List.map_nil, Host.shaded_nil]
      rfl
  | cons g gs ih =>
      rw [ShaderModule.dispatch, List.foldlM_cons, invoke_eq hrun]
      exact (ih _).trans (congrArg some (Host.shaded_update (g 0) _ output))

end

/-- **Each invocation keeps to its own index, and the order of a dispatch does not matter.**  The
kernel of every format is generated, whatever precision, group size and debug symbols it is asked
for.  An invocation writes one colour, at its own index, and is not stuck when it may load no
coordinate but its own; for frames that are no mosaic the colour is the texel as it is.  So it
leaves the other colours in the network buffer as they are, and dispatches of the same invocations
leave the same buffer behind, in whatever order and how often these are run. -/
theorem invocations_confined (format : SensorFormat) (options : KernelOptions) :
    ∃ m d k, (loadingModule format options).runOn (Kernel.draft options) = (.ok m, d) ∧
      (generate format options).1 = .ok k ∧ k.words = m.words ∧
      ∀ host : Host, let own := host.invocation 0
        m.execute host k.entryPoint = some [⟨own, host.colourFor format own⟩] ∧
        m.executeWithin (m.program.ownPlaces own) host k.entryPoint =
          some [⟨own, host.colourFor format own⟩] ∧
        (format = .rgba → host.colourFor format own =
          List.ofFn (host.texel (host.coordinates own).1 (host.coordinates own).2)) ∧
        ∀ output : NetworkBuffer,
          (∀ g, m.invoke host k.entryPoint output g =
            some (Function.update output (g 0) (host.colourFor format (g 0)))) ∧
          ∀ gs gs' : List Invocation, (∀ g, g ∈ gs ↔ g ∈ gs') →
            let result := host.shaded format (gs.map fun g => g 0) output
            m.dispatch host k.entryPoint gs output = some result ∧
              m.dispatch host k.entryPoint gs' output = some result := by
  obtain ⟨m, d, hrun⟩ := exists_loadingModule format options
  refine ⟨m, d, _, hrun, generate_of_loadingModule hrun, rfl, fun host => ?_⟩
  have hwithin := loadingModule_writesWithin hrun host
  refine ⟨Program.execute_of_executeWithin hwithin, hwithin, ?_, fun output => ⟨?_, ?_⟩⟩
  · rintro rfl
    rfl
  · exact invoke_eq hrun host output
  · intro gs gs' hsame
    have hindices : ∀ i, i ∈ gs.map (fun g => g 0) ↔ i ∈ gs'.map fun g => g 0 := by
      simp only [List.mem_map, hsame, implies_true]
    refine ⟨dispatch_eq hrun host gs output, ?_⟩
    rw [Host.shaded_congr hindices]
    exact dispatch_eq hrun host gs' output

/-- A frame of four channels, read at texels in a row. -/
def rowHost : Host where
  texel x y channel := x + 10 * y + 100 * channel.val
  coordinates index := (index.toNat, 1 / 2)
  invocation _ := 3

/-- Two invocations, in either order and one of them twice, write the channels of two texels. -/
theorem invocations_confined_row :
    ∃ m d k, (loadingModule .rgba {}).runOn (Kernel.draft {}) = (.ok m, d) ∧
      (generate .rgba {}).1 = .ok k ∧ k.words = m.words ∧
      m.executeWithin (m.program.ownPlaces 3) rowHost k.entryPoint =
        some [⟨3, [8, 108, 208, 308]⟩] ∧
      (∀ g : Invocation, g ∈ [fun _ => 3, fun _ => 5] ↔
        g ∈ [fun _ => 5, fun _ => 3, fun _ => 5]) ∧
      ∃ output : NetworkBuffer,
        m.dispatch rowHost k.entryPoint [fun _ => 3, fun _ => 5] (fun _ => []) = some output ∧
        m.dispatch rowHost k.entryPoint [fun _ => 5, fun _ => 3, fun _ => 5] (fun _ => []) =
          some output ∧
        output 3 = [8, 108, 208, 308] ∧ output 5 = [10, 110, 210, 310] ∧ output 4 = [] := by
  obtain ⟨m, d, k, hrun, hgenerate, hwords, hconfined⟩ := invocations_confined .rgba {}
  obtain ⟨-, hwithin, -, hdispatch⟩ := hconfined rowHost
  have htwice (g h : Invocation) : ∀ f, f ∈ [g, h] ↔ f ∈ [h, g, h] := by
    intro f
    simp only [List.mem_cons, List.not_mem_nil, or_false]
    exact ⟨.inr, fun hf => hf.elim .inr id⟩
  have hsame := htwice (fun _ => 3) fun _ => 5
  obtain ⟨hinorder, hagain⟩ := (hdispatch fun _ => []).2 _ _ hsame
  have hthree : rowHost.colourFor .rgba 3 = [8, 108, 208, 308] := by decide +kernel
  have hfive : rowHost.colourFor .rgba 5 = [10, 110, 210, 310] := by decide +kernel
  refine ⟨m, d, k, hrun, hgenerate, hwords, ?_, hsame, _, hinorder, hagain, ?_, ?_, ?_⟩
  · rw [← hthree]
    exact hwithin
  · simp [Host.shaded, hthree]
  · simp [Host.shaded, hfive]
  · simp [Host.shaded]

end Kernel

end FrameShader
