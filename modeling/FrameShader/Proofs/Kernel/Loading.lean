/-
Loading: what one invocation of a kernel writes, and where it looks.

The functions of a kernel are followed in the order in which they are written.  For a mosaic the
first reads a texel and the second reconstructs a colour by calling the first; the entry point calls
the second and writes what it answers.  Other frames are sampled by the entry point itself.  Each
function is complete once it is closed, and stays as it is.  The runs are watched: of all
coordinates they load only the one of the invocation.

Main definitions:

* `FrameShader.Program.Interface` — the variables of a kernel are where the pipeline looks for them;
* `FrameShader.Activation.Reconstructs` — a function that reconstructs a colour;
* `FrameShader.Host.frameColour` — the colour of the frame at a place.

Main results:

* `FrameShader.ResourceInterface.declare_ensures` — every resource is found in its slot;
* `FrameShader.Demosaic.fetch_ensures`, `FrameShader.Demosaic.bayerToRgb_ensures` — the functions;
* `FrameShader.Activation.loadPixel_ensures` — the body of the entry point;
* `FrameShader.Build.loadingModule_writesWithin` — **what an invocation writes, and that it loads
  from no place but its own**;
* `FrameShader.Build.loadingModule_writes` — what an invocation of a kernel for a mosaic writes.
-/

import FrameShader.Kernel.Basic
import FrameShader.Proofs.Execution.Resources
import FrameShader.Proofs.Kernel.Building
import FrameShader.Proofs.Kernel.Reconstruction

set_option relaxedAutoImplicit false
set_option autoImplicit false

-- The calls below are long, and every step of them has to be seen to be regular.
set_option synthInstance.maxSize 50000

namespace FrameShader

/-! ### Variables -/

/-- The variables of a kernel are where the pipeline looks for them. -/
structure Program.Interface (p : Program) (r : ResourceInterface) : Prop where
  sampler : p.Binds r.sampler.id .sampler
  image : p.Binds r.image.id .image
  coordinates : p.Binds r.coordinates.id .coordinates
  network : p.Binds r.network.id .network
  globalId : p.Holds r.globalId.id .globalInvocationId

namespace Program

variable {p : Program} {host : Host} {v : Id}

theorem load?_sampler (h : p.Binds v .sampler) : p.load? host v [] = some .sampler := by
  unfold load?
  rw [builtIn?_eq_none h.resource, h.resource]

theorem load?_image (h : p.Binds v .image) : p.load? host v [] = some .image := by
  unfold load?
  rw [builtIn?_eq_none h.resource, h.resource]

theorem load?_coordinates (h : p.Binds v .coordinates) (index : Word) :
    p.load? host v [0, index] =
      some (.numbers [(host.coordinates index).1, (host.coordinates index).2]) := by
  unfold load?
  rw [builtIn?_eq_none h.resource, h.resource]
  rfl

theorem load?_globalId (h : p.Holds v .globalInvocationId) :
    p.load? host v [0] = some (.integers [host.invocation 0]) := by
  unfold load?
  rw [h.builtIn]
  rfl

theorem store?_network (h : p.Binds v .network) (index : Word) (lanes : List ℚ) :
    p.store? v [0, index] lanes = some ⟨index, lanes⟩ := by
  unfold store?
  rw [h.resource]
  rfl

/-! ### The places of an invocation -/

variable {index : Word}

theorem ownPlaces_resource {resource : Resource} (h : p.Binds v resource)
    (hne : resource ≠ .coordinates) (path : List Word) : p.ownPlaces index v path = true := by
  rw [ownPlaces, h.resource]
  exact Bool.or_eq_true_iff.2 (.inl (bne_iff_ne.2 fun heq => hne (Option.some.inj heq)))

theorem ownPlaces_builtIn {builtIn : BuiltIn} (h : p.Holds v builtIn) (path : List Word) :
    p.ownPlaces index v path = true := by
  rw [ownPlaces, resource?_eq_none h.builtIn]
  rfl

/-- An invocation may load its own coordinate. -/
theorem ownPlaces_own : p.ownPlaces index v [0, index] = true :=
  Bool.or_eq_true_iff.2 (.inr (beq_self_eq_true _))

end Program

namespace Build

namespace Composed

instance fetch (p : Precision) : Composed (Demosaic.fetch p) := by
  unfold Demosaic.fetch
  infer_instance

instance bayerToRgb (p : Precision) (function : Id) : Composed (Demosaic.bayerToRgb p function) := by
  show Composed (Build.beginFunction _ _ _ _ >>= _)
  infer_instance

instance define (p : Precision) : Composed (Demosaic.define p) := by
  unfold Demosaic.define
  infer_instance

instance frameColour (p : Precision) (demosaic : Option (Id × Nat × Nat))
    (image sampler coordinate : Value) :
    Composed (Build.frameColour p demosaic image sampler coordinate) := by
  obtain _ | ⟨function, column, row⟩ := demosaic <;> unfold Build.frameColour <;> infer_instance

instance loadPixel (p : Precision) (demosaic : Option (Id × Nat × Nat)) (r : ResourceInterface) :
    Composed (Build.loadPixel p demosaic r) := by
  unfold Build.loadPixel
  infer_instance

end Composed

namespace Regular

instance finish : Regular Build.finish :=
  ⟨fun _ ha => .inspect fun _ _ => .record ha fun _ => .pure trivial⟩

instance loadingModule (format : SensorFormat) (options : KernelOptions) :
    Regular (Build.loadingModule format options) := by
  unfold Build.loadingModule
  iterate 3 refine @Regular.bind _ _ _ _ inferInstance fun _ => ?_
  dsimp only
  split <;> infer_instance

end Regular

end Build

namespace Build.Ensures

variable {α : Type} {c : Draft} {S : Draft → Prop} {T : α → Draft → Prop}

/-- Several claims about one answer. -/
theorem all {ι : Type} [Nonempty ι] {call : Build α} {P : ι → α → Prop}
    (h : ∀ i, Ensures c S call (P i) T) : Ensures c S call (fun v => ∀ i, P i v) T := by
  intro a v d ha hrun hreach hS
  obtain ⟨i⟩ := ‹Nonempty ι›
  exact ⟨fun i => (h i a v d ha hrun hreach hS).1, (h i a v d ha hrun hreach hS).2⟩

/-- Rephrasing an answer. -/
theorem map {β : Type} {call : Build α} {P : α → Prop} {f : α → β} {U : Draft → Prop}
    [Regular call] (h : Ensures c S call P fun _ => U) :
    Ensures c S (f <$> call) (fun w => ∃ v, w = f v ∧ P v) fun _ => U := by
  rw [← bind_pure_comp]
  exact .bind h fun v hv => .pure ⟨v, rfl, hv⟩ fun _ => id

/-- A call that leaves the open function alone leaves none open. -/
theorem closed {call : Build α}
    (h : ∀ a : Account, a.Consistent → Does False call a fun _ b =>
      b.draft.current = a.draft.current) :
    Ensures c Draft.Closed call (fun _ => True) fun _ => Draft.Closed :=
  .of_does h fun _ _ _ _ _ _ hcurrent hclosed => ⟨trivial, hcurrent.trans hclosed⟩

end Build.Ensures

namespace ResourceInterface

open Build

variable {c : Account}

/-- **Every resource is found in its slot**, and the index of the invocation in its variable. -/
theorem declare_ensures (p : Precision) :
    Ensures c.draft Draft.Idle (declare p) c.draft.program.Interface fun _ => Draft.Closed := by
  refine .bind (uniformConstant_ensures _) fun sampler hsampler => ?_
  refine .bind (place_ensures sampler .sampler _) fun _ hsampler' => ?_
  refine .bind (uniformConstant_ensures _) fun image himage => ?_
  refine .bind (place_ensures image .image _) fun _ himage' => ?_
  refine .bind (storageBuffer_ensures _ _) fun coordinates hcoordinates => ?_
  refine .bind (place_ensures coordinates .coordinates _) fun _ hcoordinates' => ?_
  refine .bind (storageBuffer_ensures _ _) fun network hnetwork => ?_
  refine .bind (place_ensures network .network _) fun _ hnetwork' => ?_
  refine .bind (builtInInput_ensures _ _) fun globalId hglobalId => ?_
  refine .bind (.closed fun a _ => (name_does _ _).mono fun _ _ _ h => h.grows.current) fun _ _ => ?_
  refine .bind (T := fun _ => Draft.Closed) (.closed fun _ _ => .of_change (.note (.record _)) rfl)
    fun _ _ => .pure ?_ fun _ => id
  exact ⟨⟨hsampler, hsampler'⟩, ⟨himage, himage'⟩, ⟨hcoordinates, hcoordinates'⟩,
    ⟨hnetwork, hnetwork'⟩, hglobalId⟩

end ResourceInterface

/-! ### Functions -/

namespace Activation

open Build

variable {A : Activation}

/-- Calling the function gives the reconstructed colour at a coordinate, where the last argument
tells the place of a red texel. -/
def Reconstructs (calls : Program.Calls) (host : Host) (function : Id) : Prop :=
  ∀ x y ox oy, calls function [.image, .sampler, .numbers [x, y], .numbers [ox, oy]] =
    some (some (.numbers (Filters.colour (neighbourhood host x y) ⌊x + ox⌋ ⌊y + oy⌋)), [])

/-- **A function that returns and is closed answers and writes this when it is called.** -/
theorem finish_ensures {α : Type} {next : Build α} {P : α → Prop} {U : α → Draft → Prop}
    {f : FunctionHandle} {depth : Nat} {value : Option Value} {answer : Option Meaning}
    {writes : List Write} [Regular next] (hf : A.account.Becomes f A.function)
    (hcalls : A.calls = A.program.callWithin A.watch A.host depth)
    (hlength : f.parameters.length = A.args.length)
    (h : Option.Rel (fun v x => A.Means v.id x) value answer)
    (hnext : A.program.callWithin A.watch A.host (depth + 1) f.id A.args = some (answer, writes) →
      Ensures A.account.draft Draft.Closed next P U) :
    Ensures A.account.draft (A.Open writes) (do
        returnFunction value
        endFunction
        next) P U := by
  refine .bind (returnFunction_ensures h) fun _ _ => ?_
  refine .bind endFunction_ensures fun _ hperforms => hnext ?_
  exact call_eq hcalls hf.id (hf.length.trans hlength) hperforms

end Activation

namespace Demosaic

open Build Activation

variable {c : Account} (watch : Program.Watch) (host : Host)

/-- **The first function reads a texel.** -/
theorem fetch_ensures (hc : c.Complete) (p : Precision) :
    Ensures c.draft Draft.Closed (fetch p)
      (fun id => Fetches (c.draft.program.callWithin watch host 1) host id ∧
        ∃ F ∈ c.draft.sections.functions, F.parameters.length = 3)
      fun _ => Draft.Closed := by
  have hcall (at2 : ℚ × ℚ) : Ensures c.draft Draft.Closed (fetch p)
      (fun id => c.draft.program.callWithin watch host 1 id
          [.image, .sampler, .numbers [at2.1, at2.2]] =
            some (some (.numbers [host.texel at2.1 at2.2 0]), []) ∧
        ∃ F ∈ c.draft.sections.functions, F.parameters.length = 3)
      fun _ => Draft.Closed := by
    refine .bind (beginFunction_ensures hc _ _ _ _) ?_
    rintro f ⟨hlength, F, hF⟩
    let A : Activation := ⟨c, hc.orderly, watch, host, c.draft.program.callWithin watch host 0, F,
      hF.isClosed, [.image, .sampler, .numbers [at2.1, at2.2]]⟩
    have hparameters := A.meansAll_parameters hF hlength
    obtain ⟨id, type, result, parameters⟩ := f
    obtain _ | ⟨himage, _ | ⟨hsampler, _ | ⟨hcoordinate, -⟩⟩⟩ := hparameters
    refine .assuming (S := A.Open []) ?_ fun d hd => A.open_of_begun hF.id hd
    refine .bind (sampleImage_gives himage hsampler hcoordinate []) fun texel htexel => ?_
    refine .bind (compositeExtract_gives htexel rfl []) fun value hvalue => ?_
    exact A.finish_ensures hF rfl hlength (.some hvalue) fun hid =>
      .pure ⟨hid, F, hF.isClosed, hF.length.trans hlength⟩ fun _ h => h
  refine (Ensures.all hcall).mono fun id d _ hid hd => ⟨⟨fun x y => (hid (x, y)).1, ?_⟩, hd⟩
  exact (hid (0, 0)).2

/-- **The second function reconstructs a colour.** -/
theorem bayerToRgb_ensures (hc : c.Complete) (p : Precision) {function : Id}
    (hfetch : Fetches (c.draft.program.callWithin watch host 1) host function) :
    Ensures c.draft Draft.Closed (bayerToRgb p function)
      (fun id => Reconstructs (c.draft.program.callWithin watch host 2) host id ∧
        ∃ F ∈ c.draft.sections.functions, F.parameters.length = 4)
      fun _ => Draft.Closed := by
  have hcall (at4 : (ℚ × ℚ) × (ℚ × ℚ)) : Ensures c.draft Draft.Closed (bayerToRgb p function)
      (fun id => c.draft.program.callWithin watch host 2 id
          [.image, .sampler, .numbers [at4.1.1, at4.1.2], .numbers [at4.2.1, at4.2.2]] =
        some (some (.numbers (Filters.colour (neighbourhood host at4.1.1 at4.1.2)
          ⌊at4.1.1 + at4.2.1⌋ ⌊at4.1.2 + at4.2.2⌋)), []) ∧
        ∃ F ∈ c.draft.sections.functions, F.parameters.length = 4)
      fun _ => Draft.Closed := by
    refine .bind (beginFunction_ensures hc _ _ _ _) ?_
    rintro f ⟨hlength, F, hF⟩
    let A : Activation := ⟨c, hc.orderly, watch, host, c.draft.program.callWithin watch host 1, F,
      hF.isClosed, [.image, .sampler, .numbers [at4.1.1, at4.1.2], .numbers [at4.2.1, at4.2.2]]⟩
    have hparameters := A.meansAll_parameters hF hlength
    obtain ⟨id, type, result, parameters⟩ := f
    obtain _ | ⟨himage, _ | ⟨hsampler, _ | ⟨hcoordinate, _ | ⟨hfirstRed, -⟩⟩⟩⟩ := hparameters
    refine .assuming (S := A.Open []) ?_ fun d hd => A.open_of_begun hF.id hd
    have hmosaic : A.Sees ⟨p.scalar, function, _, _⟩ := ⟨himage, hsampler, hfetch⟩
    refine .bind (colourAt_gives hmosaic hcoordinate hfirstRed []) fun colour hcolour => ?_
    exact A.finish_ensures hF rfl hlength (.some hcolour) fun hid =>
      .pure ⟨hid, F, hF.isClosed, hF.length.trans hlength⟩ fun _ h => h
  refine (Ensures.all hcall).mono fun id d _ hid hd =>
    ⟨⟨fun x y ox oy => (hid ((x, y), (ox, oy))).1, ?_⟩, hd⟩
  exact (hid ((0, 0), (0, 0))).2

/-- Both functions, one after the other. -/
theorem define_ensures (hc : c.Complete) (p : Precision) :
    Ensures c.draft Draft.Closed (define p)
      (fun id => Reconstructs (c.draft.program.callWithin watch host 2) host id ∧
        (∃ F ∈ c.draft.sections.functions, F.parameters.length = 3) ∧
          ∃ F ∈ c.draft.sections.functions, F.parameters.length = 4)
      fun _ => Draft.Closed := by
  refine .bind (fetch_ensures watch host hc p) fun function hfetch => ?_
  refine (bayerToRgb_ensures watch host hc p hfetch.1).mono fun id d _ hid hd => ?_
  exact ⟨⟨hid.1, hfetch.2, hid.2⟩, hd⟩

end Demosaic

/-! ### The entry point -/

/-- The colour that an invocation is to write, where the pattern has a red texel at this place. -/
def reconstructedColour (host : Host) (column row : Nat) : List ℚ :=
  let (x, y) := host.coordinates (host.invocation 0)
  Filters.colour (Activation.neighbourhood host x y) ⌊x + column⌋ ⌊y + row⌋

/-- The colour of the frame at a place: what the filters find if the frame is a mosaic, else the
texel as it is. -/
def Host.frameColour (host : Host) (format : SensorFormat) (place : ℚ × ℚ) : List ℚ :=
  match format.firstRed with
  | some (column, row) =>
      Filters.colour (Activation.neighbourhood host place.1 place.2) ⌊place.1 + column⌋
        ⌊place.2 + row⌋
  | none => List.ofFn (host.texel place.1 place.2)

/-- What an invocation is to write: one colour, at its own index. -/
def Host.ownWrite (host : Host) (format : SensorFormat) : Write :=
  ⟨host.invocation 0, host.frameColour format (host.coordinates (host.invocation 0))⟩

namespace Activation

open Build

variable {A : Activation}

/-- A variable stands for a pointer to itself. -/
theorem means_variable {v : Id} (h : A.program.HasVariable v) : A.Means v (.pointer v []) := .global h

/-- What the entry point of a kernel is given to find colours with: a function that reconstructs
them, and the place of a red texel, if the frame is a mosaic. -/
def Serves (calls : Program.Calls) (host : Host) (format : SensorFormat) :
    Option (Id × Nat × Nat) → Prop
  | some (function, place) => format.firstRed = some place ∧ Reconstructs calls host function
  | none => format.firstRed = none

/-- The colour of the frame, reconstructed if it has to be. -/
theorem frameColour_gives {format : SensorFormat} {p : Precision}
    {demosaic : Option (Id × Nat × Nat)} {image sampler coordinate : Value} {place : ℚ × ℚ}
    (hdemosaic : Serves A.calls A.host format demosaic) (hi : A.Means image.id .image)
    (hs : A.Means sampler.id .sampler)
    (hc : A.Means coordinate.id (.numbers [place.1, place.2])) :
    A.Gives (frameColour p demosaic image sampler coordinate) fun colour =>
      A.Means colour.id (.numbers (A.host.frameColour format place)) := by
  obtain _ | ⟨function, column, row⟩ := demosaic
  · have hcolour : A.host.frameColour format place = List.ofFn (A.host.texel place.1 place.2) := by
      rw [Host.frameColour, show format.firstRed = none from hdemosaic]
    rw [hcolour]
    exact sampleImage_gives hi hs hc
  · obtain ⟨hplace, hreconstructs⟩ := hdemosaic
    have hcolour : A.host.frameColour format place =
        Filters.colour (neighbourhood A.host place.1 place.2) ⌊place.1 + column⌋
          ⌊place.2 + row⌋ := by
      rw [Host.frameColour, hplace]
    have hsmall : ∀ k ∈ [(column : ℤ), (row : ℤ)], k ∈ Finset.Icc (-16 : ℤ) 16 := by
      cases format <;> cases hplace <;> decide
    refine .bind (wholeVector_gives hsmall) fun firstRed hfirstRed => ?_
    rw [hcolour]
    have harguments : A.MeansAll [image, sampler, coordinate, firstRed] [.image, .sampler,
        .numbers [place.1, place.2], .numbers [(column : ℚ), (row : ℚ)]] :=
      .cons hi (.cons hs (.cons hc (.cons hfirstRed .nil)))
    exact callFunction_gives harguments (hreconstructs _ _ _ _)

/-- **The body of the entry point writes the colour of the frame**, and loads from no place but
those of the invocation. -/
theorem loadPixel_ensures {format : SensorFormat} {p : Precision}
    {demosaic : Option (Id × Nat × Nat)} {r : ResourceInterface}
    (hwatch : A.watch = A.program.ownPlaces (A.host.invocation 0)) (hr : A.program.Interface r)
    (hdemosaic : Serves A.calls A.host format demosaic) :
    Ensures A.account.draft (A.Open []) (loadPixel p demosaic r) (fun _ => True)
      fun _ => A.Open [A.host.ownWrite format] := by
  -- Every place that is loaded from is one of the invocation.
  have hglobalId : A.watch r.globalId.id [0] = true := by
    rw [hwatch]
    exact Program.ownPlaces_builtIn hr.globalId _
  have hcoordinates : A.watch r.coordinates.id [0, A.host.invocation 0] = true := by
    rw [hwatch]
    exact Program.ownPlaces_own
  have himage : A.watch r.image.id [] = true := by
    rw [hwatch]
    exact Program.ownPlaces_resource hr.image (by decide) _
  have hsampler : A.watch r.sampler.id [] = true := by
    rw [hwatch]
    exact Program.ownPlaces_resource hr.sampler (by decide) _
  refine .bind (constUInt_gives 0 []) fun zero hzero => ?_
  have hindices {index : Value} (hindex : A.Means index.id (.integers [A.host.invocation 0])) :
      A.MeansAll [zero, index]
        ([0, A.host.invocation 0].map fun index => .integers [index]) :=
    .cons hzero (.cons hindex .nil)
  have hfirst : A.MeansAll [zero] ([0].map fun index => .integers [index]) := .cons hzero .nil
  refine .bind (accessChain_gives (means_variable hr.globalId.variableOf) hfirst [])
    fun _ hplace => ?_
  refine .bind (load_gives hplace hglobalId (Program.load?_globalId hr.globalId) [])
    fun index hindex => ?_
  refine .bind (name_gives _ _ []) fun _ _ => ?_
  refine .bind (accessChain_gives (means_variable hr.coordinates.variableOf) (hindices hindex) [])
    fun _ hplace => ?_
  refine .bind (load_gives hplace hcoordinates (Program.load?_coordinates hr.coordinates _) [])
    fun coordinate hcoordinate => ?_
  refine .bind (load_gives (means_variable hr.image.variableOf) himage
    (Program.load?_image hr.image) []) fun image himage => ?_
  refine .bind (load_gives (means_variable hr.sampler.variableOf) hsampler
    (Program.load?_sampler hr.sampler) []) fun sampler hsampler => ?_
  refine .bind (frameColour_gives hdemosaic himage hsampler hcoordinate []) fun colour hcolour => ?_
  refine .bind (accessChain_gives (means_variable hr.network.variableOf) (hindices hindex) [])
    fun output houtput => ?_
  exact store_ensures houtput hcolour (Program.store?_network hr.network _ _)

end Activation

namespace Build

variable {c : Account} (host : Host)

/-! ### The whole kernel -/

theorem source_ensures (language : SourceLanguage) (version : Word) :
    Ensures c.draft Draft.Idle (source language version) (fun _ => True) fun _ => Draft.Idle := by
  rintro a ⟨⟩ d - hrun - hidle
  cases hrun
  show True ∧ (a.draft.addSource language version).Idle
  unfold Draft.addSource
  split <;> exact ⟨trivial, hidle⟩

theorem localSize_ensures {entry id : Id} (x y z : Word) :
    Ensures c.draft (Draft.Begun entry) (localSize id x y z) (fun _ => True)
      fun _ => Draft.Begun entry := by
  refine .inspect fun _ => ?_
  rintro a ⟨⟩ d - hrun - hbegun
  cases hrun
  exact ⟨trivial, hbegun⟩

/-- Three functions with different numbers of parameters are three functions. -/
theorem three_le_length {functions : List Function} {f g h : Function} (hf : f ∈ functions)
    (hg : g ∈ functions) (hh : h ∈ functions) (hf' : f.parameters.length = 3)
    (hg' : g.parameters.length = 4) (hh' : h.parameters.length = 0) : 3 ≤ functions.length := by
  have hnodup : [f, g, h].Nodup := by
    simp only [List.nodup_cons, List.mem_cons, List.not_mem_nil, or_false, not_or, List.nodup_nil,
      not_false_eq_true, and_true]
    refine ⟨⟨?_, ?_⟩, ?_⟩ <;> rintro rfl <;> omega
  have hsubset : [f, g, h] ⊆ functions := by
    simp [hf, hg, hh]
  exact (hnodup.subperm hsubset).length_le

/-- A kernel begins with its resources. -/
theorem declared_ensures {next : ResourceInterface → Build ShaderModule} [∀ r, Regular (next r)]
    {P : ShaderModule → Prop} (p : Precision)
    (hnext : ∀ r, c.draft.program.Interface r →
      Ensures c.draft Draft.Closed (next r) P fun _ _ => True) :
    Ensures c.draft Draft.Idle (do
        capability .shader
        source .unknown 0
        let r ← ResourceInterface.declare p
        next r) P fun _ _ => True := by
  refine .bind (.idle fun a _ => (capability_does _).mono fun _ _ _ h => h.grows) fun _ _ => ?_
  exact .bind (source_ensures _ _) fun _ _ => .bind (ResourceInterface.declare_ensures _) hnext

/-- The last function of a kernel is its entry point, which calls the others. -/
theorem entryPoint_ensures (hc : c.Complete) {format : SensorFormat} {p : Precision}
    {size : LocalSize} {r : ResourceInterface} {demosaic : Option (Id × Nat × Nat)} {depth : Nat}
    (hr : c.draft.program.Interface r)
    (hdemosaic : Activation.Serves (c.draft.program.callWithin
      (c.draft.program.ownPlaces (host.invocation 0)) host depth) host format demosaic)
    (hdepth : ∀ F ∈ c.draft.sections.functions, F.parameters.length = 0 →
      depth + 1 ≤ c.draft.sections.functions.length) :
    Ensures c.draft Draft.Closed (do
        let entry ← beginEntryPoint format.entryPoint [r.globalId]
        localSize entry.id size.x size.y size.z
        loadPixel p demosaic r
        returnFunction none
        endFunction
        finish)
      (fun _ => c.draft.program.executeWithin (c.draft.program.ownPlaces (host.invocation 0))
        host format.entryPoint = some [host.ownWrite format])
      fun _ _ => True := by
  refine .bind (beginEntryPoint_ensures hc _ _) ?_
  rintro f ⟨hparameters, ⟨F, hF⟩, hentry⟩
  have hlength : f.parameters.length = 0 := by rw [hparameters]; rfl
  let A : Activation := ⟨c, hc.orderly, c.draft.program.ownPlaces (host.invocation 0), host,
    c.draft.program.callWithin (c.draft.program.ownPlaces (host.invocation 0)) host depth, F,
    hF.isClosed, []⟩
  refine .bind (localSize_ensures _ _ _) fun _ _ => ?_
  refine .assuming (S := A.Open []) ?_ fun d hd => A.open_of_begun hF.id hd
  refine .bind (A.loadPixel_ensures rfl hr hdemosaic) fun _ _ => ?_
  refine A.finish_ensures hF rfl hlength .none fun hcall => ?_
  -- The machine allows calls to be nested as deep as there are functions.
  have hdeep := Program.callWithin_mono (.refl _) (fun _ _ h => h)
    (hdepth F hF.isClosed (hF.length.trans hlength)) hcall
  have hexecute : c.draft.program.executeWithin (c.draft.program.ownPlaces (host.invocation 0))
      host format.entryPoint = some [host.ownWrite format] := by
    rw [Program.executeWithin, hentry]
    exact congrArg (Option.bind · fun r => some r.2) hdeep
  exact .of_does (R := fun _ _ _ => True) (fun a ha => Regular.does a ha)
    fun _ _ _ _ _ _ _ _ => ⟨hexecute, trivial⟩

/-- **The calls that write a kernel make it write the colour of the frame.** -/
theorem loadingModule_ensures (hc : c.Complete) (format : SensorFormat) (options : KernelOptions) :
    Ensures c.draft Draft.Idle (loadingModule format options)
      (fun _ => c.draft.program.executeWithin (c.draft.program.ownPlaces (host.invocation 0))
        host format.entryPoint = some [host.ownWrite format])
      fun _ _ => True := by
  unfold loadingModule
  cases hplace : format.firstRed with
  | none =>
      refine declared_ensures _ fun r hr => ?_
      -- The entry point is the only function.
      have hdepth : ∀ F ∈ c.draft.sections.functions, F.parameters.length = 0 →
          0 + 1 ≤ c.draft.sections.functions.length := fun F hF _ => List.length_pos_of_mem hF
      exact entryPoint_ensures host hc hr hplace hdepth
  | some place =>
      refine declared_ensures _ fun r hr => ?_
      refine .bind (.map (Demosaic.define_ensures
        (c.draft.program.ownPlaces (host.invocation 0)) host hc _)) ?_
      rintro _ ⟨function, rfl, hfunction, ⟨F, hF, hF'⟩, G, hG, hG'⟩
      exact entryPoint_ensures host hc hr ⟨hplace, hfunction⟩ fun H hH hH' =>
        three_le_length hF hG hH hF' hG' hH'

/-- The module of a kernel is that of the draft it leaves behind. -/
theorem finished_of_loadingModule {format : SensorFormat} {options : KernelOptions} {d d' : Draft}
    {m : ShaderModule} (h : (loadingModule format options).runOn d = (.ok m, d')) :
    d'.finished = .ok m := by
  unfold loadingModule at h
  iterate 3 obtain ⟨_, _, -, h⟩ := exists_of_bind h
  dsimp only at h
  split at h
  · iterate 6 obtain ⟨_, _, -, h⟩ := exists_of_bind h
    exact Draft.finished_after_finish h
  · iterate 6 obtain ⟨_, _, -, h⟩ := exists_of_bind h
    exact Draft.finished_after_finish h

/-- A finished module has the program of its draft. -/
theorem program_of_finished {d : Draft} {m : ShaderModule} (h : d.finished = .ok m) :
    m.program = d.program ∧ d.current = none := by
  unfold Draft.finished at h
  split at h
  · cases h
  · cases h
  · next hcurrent _ =>
      cases h
      exact ⟨rfl, hcurrent⟩

/-- **What an invocation writes, and that it loads from no place but its own.** -/
theorem loadingModule_writesWithin {format : SensorFormat} {options : KernelOptions}
    {m : ShaderModule} {d : Draft}
    (hrun : (loadingModule format options).runOn (Kernel.draft options) = (.ok m, d)) (host : Host) :
    m.executeWithin (m.program.ownPlaces (host.invocation 0)) host format.entryPoint =
      some [host.ownWrite format] := by
  have hempty : Account.Orderly ⟨Kernel.draft options, []⟩ := .empty _
  obtain ⟨c, rfl, hc, -, -⟩ :=
    ((Regular.loadingModule format options).does _ hempty.consistent).of_ok hempty hrun
  obtain ⟨hprogram, hcurrent⟩ := program_of_finished (finished_of_loadingModule hrun)
  have hwrites := (loadingModule_ensures host ⟨hc, hcurrent⟩ format options _ m c.draft hempty
    hrun (.refl _) ⟨rfl, rfl⟩).1
  rw [ShaderModule.executeWithin, hprogram]
  exact hwrites

/-- **What an invocation of a kernel for a mosaic writes**: one colour, at its own index, and the
colour is the reconstructed one. -/
theorem loadingModule_writes {format : SensorFormat} {options : KernelOptions} {column row : Nat}
    (hplace : format.firstRed = some (column, row)) {m : ShaderModule} {d : Draft}
    (hrun : (loadingModule format options).runOn (Kernel.draft options) = (.ok m, d)) (host : Host) :
    m.execute host format.entryPoint =
      some [⟨host.invocation 0, reconstructedColour host column row⟩] := by
  have hwrites := Program.execute_of_executeWithin (loadingModule_writesWithin hrun host)
  rw [Host.ownWrite, Host.frameColour, hplace] at hwrites
  exact hwrites

end Build

end FrameShader
