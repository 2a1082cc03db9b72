/-
Operations: what the results of the calls inside a function stand for.

One lemma for each call: if its operands stand for this, then its result stands for that.  Types do
not matter here; what the calls check about them has been used when the order of the function was
established.

Main results:

* `FrameShader.Activation.constVector_gives` and its neighbours — constants;
* `FrameShader.Activation.fAdd_gives`, `FrameShader.Activation.select_gives` and so on — one for
  each call;
* `FrameShader.Activation.callFunction_gives` — calls of functions.
-/

import FrameShader.Proofs.Execution.Ensuring
import FrameShader.Proofs.Execution.Lanes

set_option relaxedAutoImplicit false
set_option autoImplicit false

namespace FrameShader

/-- The bits stand for this number, at every width. -/
def Float64Bits.Stands (value : Float64Bits) (x : ℚ) : Prop :=
  ∀ width, (Literal.ofFloat value width).rational? = some x

/-- Only two widths matter. -/
theorem Float64Bits.stands_iff {value : Float64Bits} {x : ℚ} :
    value.Stands x ↔ (Literal.bits64 value.bits).rational? = some x ∧
      (Literal.bits32 value.toSingle.bits).rational? = some x := by
  refine ⟨fun h => ⟨h 64, h 32⟩, fun h width => ?_⟩
  unfold Literal.ofFloat
  split
  · exact h.1
  · exact h.2

theorem Float64Bits.stands_zero : (Float64Bits.ofInt 0).Stands 0 := by
  rw [stands_iff]
  decide +kernel

/-! ### Lanes -/

/-- Scalars side by side. -/
theorem Meaning.concat?_scalars (x : ℚ) (xs : List ℚ) :
    concat? ((x :: xs).map fun y => .numbers [y]) = some (.numbers (x :: xs)) :=
  laneKind_numbers.concat?_lanes x xs

/-- Scalars as indices. -/
theorem Meaning.mapM_integer? (indices : List Word) :
    (indices.map fun index => Meaning.integers [index]).mapM integer? = some indices := by
  induction indices with
  | nil => rfl
  | cons index indices ih =>
      rw [List.map_cons, List.mapM_cons, ih]
      rfl

/-- An operation on lanes has a result when there are as many on either side. -/
theorem combine?_eq_some {α : Type} {f : ℚ → ℚ → α} {xs ys : List ℚ} (h : xs.length = ys.length) :
    combine? f xs ys = some (List.zipWith f xs ys) :=
  if_pos h

namespace Activation

open Build

variable {A : Activation}

/-- Several values stand for these meanings, one by one. -/
def MeansAll (A : Activation) (vs : List Value) (xs : List Meaning) : Prop :=
  List.Forall₂ (fun v x => A.Means v.id x) vs xs

theorem MeansAll.ids {vs : List Value} {xs : List Meaning} (h : A.MeansAll vs xs) :
    List.Forall₂ A.Means ((vs.map fun v => Operand.id v.id).filterMap Operand.id?) xs := by
  rw [filterMap_ids Value.id vs]
  exact List.forall₂_map_left_iff.2 h

/-! ### Names and constants -/

theorem name_gives (id : Id) (text : String) : A.Gives (name id text) fun _ => True :=
  .of_does (R := fun _ _ => True)
    (fun _ _ => (name_does id text).mono fun _ _ _ h => ⟨h.grows.current, trivial⟩)
    fun _ _ _ _ _ => trivial

theorem constUInt_gives (value : Word) :
    A.Gives (constUInt value) fun v => A.Means v.id (.integers [value]) := by
  refine .of_does (R := fun v b => b.draft.Holds (.scalar .uint32 (.bits32 value)) v) ?_ ?_
  · exact fun a ha => (constantScalar_does ha _ _).mono fun v b _ h => ⟨h.1.current, h.2⟩
  · exact fun v b hb hreach h => .global (hreach.lookup_globals (hb.scalar h rfl))

theorem constFloat_gives {s : Scalar} {value : Float64Bits} {x : ℚ} (hx : value.Stands x) :
    A.Gives (constFloat s value) fun v => A.Means v.id (.numbers [x]) := by
  refine .of_does
    (R := fun v b => b.draft.HoldsFloat s value v) ?_ ?_
  · exact fun a ha => (constFloat_does ha s value).mono fun v b _ h => ⟨h.1.current, h.2⟩
  · rintro v b hb hreach ⟨width, -, h⟩
    refine .global (hreach.lookup_globals (hb.scalar h ?_))
    exact Option.map_eq_some_iff.2 ⟨x, hx width, rfl⟩

/-- Scalar constants stand for their numbers, one by one. -/
theorem lookup_scalars {a : Account} (ha : a.Orderly) {s : Scalar} {values : List Float64Bits} {vs : List Value}
    {xs : List ℚ} (hxs : List.Forall₂ Float64Bits.Stands values xs)
    (hvs : List.Forall₂ (a.draft.HoldsFloat s) values vs) :
    ((vs.map Value.id).mapM fun id => (globalMeanings a.draft.sections.globals).lookup id) =
      some (xs.map fun x => .numbers [x]) := by
  induction hxs generalizing vs with
  | nil =>
      cases hvs
      rfl
  | @cons value x values xs hx _ ih =>
      cases hvs with
      | @cons _ v _ vs hv hvs =>
          obtain ⟨width, -, hv⟩ := hv
          have hscalar := ha.scalar hv (Option.map_eq_some_iff.2 ⟨x, hx width, rfl⟩)
          rw [List.map_cons, List.mapM_cons, hscalar, ih hvs]
          rfl

/-- The components of a vector of constants are its lanes. -/
theorem constVector_gives {s : Scalar} {values : List Float64Bits} {x : ℚ} {xs : List ℚ}
    (h : List.Forall₂ Float64Bits.Stands values (x :: xs)) :
    A.Gives (constVector s values) fun v => A.Means v.id (.numbers (x :: xs)) := by
  refine .of_does (R := fun v b => ∃ vs, List.Forall₂ (b.draft.HoldsFloat s) values vs ∧
    b.draft.Holds (.composite (.vector s (UInt32.ofNat values.length)) (vs.map Value.id)) v) ?_ ?_
  · exact fun a ha => (constVector_does ha s values).mono fun v b _ h => ⟨h.1.current, h.2⟩
  · rintro v b hb hreach ⟨vs, hscalars, hcomposite⟩
    exact .global (hreach.lookup_globals
      (hb.composite hcomposite (lookup_scalars hb h hscalars) (Meaning.concat?_scalars x xs)))

/-! ### Vectors -/

theorem compositeConstruct_gives {t : DataType} {parts : List Value} {xs : List Meaning} {x : Meaning}
    (hparts : A.MeansAll parts xs) (hx : Meaning.concat? xs = some x) :
    A.Gives (compositeConstruct t parts) fun v => A.Means v.id x :=
  .inspect fun _ => .ofArithmetic fun _ => .emitTyped (fun _ _ => hparts.ids) fun _ _ => by
    show (Meaning.concat? xs).map _ = _
    rw [hx]
    rfl

/-- Scalars make up a vector. -/
theorem vector_gives {t : DataType} {parts : List Value} {x : ℚ} {xs : List ℚ}
    (hparts : A.MeansAll parts ((x :: xs).map fun y => .numbers [y])) :
    A.Gives (compositeConstruct t parts) fun v => A.Means v.id (.numbers (x :: xs)) :=
  compositeConstruct_gives hparts (Meaning.concat?_scalars x xs)

theorem splat_gives {v : Value} {width : Word} {x y : Meaning} (hv : A.Means v.id x)
    (hy : Meaning.concat? (List.replicate width.toNat x) = some y) :
    A.Gives (splat v width) fun w => A.Means w.id y := by
  refine .inspect fun t => ?_
  cases t with
  | scalar s =>
      refine .ofExcept fun t => compositeConstruct_gives ?_ hy
      generalize width.toNat = n
      induction n with
      | zero => exact .nil
      | succ n ih => exact .cons hv ih
  | _ => exact fun _ => .reject

theorem compositeExtract_gives {v : Value} {index : Word} {x y : Meaning} (hv : A.Means v.id x)
    (hy : x.pick? index = some y) :
    A.Gives (compositeExtract v index) fun w => A.Means w.id y :=
  .inspect fun _ => .emitTyped (fun _ _ => .cons hv .nil) fun type id =>
    show A.program.effect A.host A.calls _ _ = _ from
      Program.effect_compositeExtract hy type id v.id

theorem vectorShuffle_gives {v w : Value} {indices : List Word} {x y z : Meaning}
    (hv : A.Means v.id x) (hw : A.Means w.id y) (hz : x.shuffle? y indices = some z) :
    A.Gives (vectorShuffle v w indices) fun u => A.Means u.id z := by
  refine .inspect fun _ => .emitTyped (fun type id => ?_) fun type id =>
    show A.program.effect A.host A.calls _ _ = _ from
      Program.effect_vectorShuffle hz type id v.id w.id
  rw [Program.arguments_vectorShuffle]
  exact .cons hv (.cons hw .nil)

theorem swizzle_gives {v : Value} {indices : List Word} {x y : Meaning} (hv : A.Means v.id x)
    (hy : x.shuffle? x indices = some y) (hlong : 2 ≤ indices.length) :
    A.Gives (swizzle v indices) fun w => A.Means w.id y := by
  refine .inspect fun _ => ?_
  split
  · exact absurd hlong (Nat.lt_irrefl 1)
  · exact vectorShuffle_gives hv hv hy

/-! ### Arithmetic -/

theorem vectorTimesScalar_gives {v w : Value} {xs : List ℚ} {y : ℚ}
    (hv : A.Means v.id (.numbers xs)) (hw : A.Means w.id (.numbers [y])) :
    A.Gives (vectorTimesScalar v w) fun u => A.Means u.id (.numbers (xs.map (· * y))) :=
  .inspect fun _ => .emit (fun _ => .cons hv (.cons hw .nil)) fun _ => rfl

theorem dot_gives {v w : Value} {xs ys : List ℚ} (hv : A.Means v.id (.numbers xs))
    (hw : A.Means w.id (.numbers ys)) (hlength : xs.length = ys.length) :
    A.Gives (dot v w) fun u => A.Means u.id (.numbers [(List.zipWith (· * ·) xs ys).sum]) :=
  .inspect fun _ => .emitTyped (fun _ _ => .cons hv (.cons hw .nil)) fun _ _ => by
    show ((combine? (· * ·) xs ys).map _).map _ = _
    rw [combine?_eq_some hlength]
    rfl

theorem fAdd_gives {v w : Value} {xs ys : List ℚ} (hv : A.Means v.id (.numbers xs))
    (hw : A.Means w.id (.numbers ys)) (hlength : xs.length = ys.length) :
    A.Gives (fAdd v w) fun u => A.Means u.id (.numbers (List.zipWith (· + ·) xs ys)) :=
  .inspect fun _ => .emit (fun _ => .cons hv (.cons hw .nil)) fun _ => by
    show ((combine? (· + ·) xs ys).map _).map _ = _
    rw [combine?_eq_some hlength]
    rfl

theorem fMod_gives {v w : Value} {xs ys : List ℚ} (hv : A.Means v.id (.numbers xs))
    (hw : A.Means w.id (.numbers ys)) (hlength : xs.length = ys.length) (hys : 0 ∉ ys) :
    A.Gives (fMod v w) fun u => A.Means u.id (.numbers (List.zipWith flooredMod xs ys)) :=
  .inspect fun _ => .emit (fun _ => .cons hv (.cons hw .nil)) fun _ => by
    show (if 0 ∈ ys then none else (combine? flooredMod xs ys).map _).map _ = _
    rw [if_neg hys, combine?_eq_some hlength]
    rfl

theorem fOrdEqual_gives {v w : Value} {xs ys : List ℚ} (hv : A.Means v.id (.numbers xs))
    (hw : A.Means w.id (.numbers ys)) (hlength : xs.length = ys.length) :
    A.Gives (fOrdEqual v w) fun u =>
      A.Means u.id (.truths (List.zipWith (fun x y => decide (x = y)) xs ys)) :=
  .inspect fun _ => .emitTyped (fun _ _ => .cons hv (.cons hw .nil)) fun _ _ => by
    show ((combine? (fun x y => decide (x = y)) xs ys).map _).map _ = _
    rw [combine?_eq_some hlength]
    rfl

theorem select_gives {c v w : Value} {cs : List Bool} {x y z : Meaning}
    (hc : A.Means c.id (.truths cs)) (hv : A.Means v.id x) (hw : A.Means w.id y)
    (hz : Meaning.choose? cs x y = some z) : A.Gives (select c v w) fun u => A.Means u.id z :=
  .inspect fun _ => .emit (fun _ => .cons hc (.cons hv (.cons hw .nil))) fun _ => by
    show (Meaning.choose? cs x y).map _ = _
    rw [hz]
    rfl

/-! ### Images and memory -/

theorem sampledImage_gives {image sampler : Value} (hi : A.Means image.id .image)
    (hs : A.Means sampler.id .sampler) :
    A.Gives (sampledImage image sampler) fun u => A.Means u.id .sampledImage :=
  .inspect fun _ => .emitTyped (fun _ _ => .cons hi (.cons hs .nil)) fun _ _ => rfl

theorem imageSampleExplicitLod_gives {image coordinate lod : Value} {x y : ℚ}
    (hi : A.Means image.id .sampledImage) (hc : A.Means coordinate.id (.numbers [x, y]))
    (hl : A.Means lod.id (.numbers [0])) :
    A.Gives (imageSampleExplicitLod image coordinate lod) fun u =>
      A.Means u.id (.numbers (List.ofFn (A.host.texel x y))) :=
  .inspect fun _ => .ofExcept fun _ =>
    .emitTyped (fun _ _ => .cons hi (.cons hc (.cons hl .nil))) fun _ _ => rfl

/-- What is loaded from a place that is allowed. -/
theorem load_gives {pointer : Value} {v : Id} {path : List Word} {x : Meaning}
    (hp : A.Means pointer.id (.pointer v path)) (hwatch : A.watch v path = true)
    (hx : A.program.load? A.host v path = some x) :
    A.Gives (load pointer) fun u => A.Means u.id x :=
  .inspect fun _ => .emitTyped (fun _ _ => .cons hp .nil) fun _ _ => by
    show (if A.watch v path = true then (A.program.load? A.host v path).map _ else none) = _
    rw [if_pos hwatch, hx]
    rfl

/-- The texel of the base level, whose number is zero. -/
theorem sampleImage_gives {image sampler coordinate : Value} {x y : ℚ}
    (hi : A.Means image.id .image) (hs : A.Means sampler.id .sampler)
    (hc : A.Means coordinate.id (.numbers [x, y])) :
    A.Gives (sampleImage image sampler coordinate) fun u =>
      A.Means u.id (.numbers (List.ofFn (A.host.texel x y))) :=
  .inspect fun _ => .bind (sampledImage_gives hi hs) fun _ himage =>
    .bind (constFloat_gives Float64Bits.stands_zero) fun _ hlod =>
      imageSampleExplicitLod_gives himage hc hlod

theorem accessChain_gives {base : Value} {indices : List Value} {v : Id} {path further : List Word}
    (hb : A.Means base.id (.pointer v path))
    (hi : A.MeansAll indices (further.map fun index => .integers [index])) :
    A.Gives (accessChain base indices) fun u => A.Means u.id (.pointer v (path ++ further)) := by
  refine .inspect fun _ => .emitTyped (fun _ _ => .cons hb hi.ids) fun _ _ => ?_
  show (((further.map fun index => Meaning.integers [index]).mapM Meaning.integer?).map _).map _ = _
  rw [Meaning.mapM_integer?]
  rfl

/-- What is stored is written. -/
theorem store_ensures {pointer value : Value} {v : Id} {path : List Word} {lanes : List ℚ} {w : Write}
    {writes : List Write} (hp : A.Means pointer.id (.pointer v path))
    (hv : A.Means value.id (.numbers lanes)) (hw : A.program.store? v path lanes = some w) :
    Ensures A.account.draft (A.Open writes) (store pointer value) (fun _ => True)
      fun _ => A.Open (writes ++ [w]) := by
  refine .inspect fun _ => .inspect fun f => ?_
  rintro a ⟨⟩ d ha hrun hreach ⟨f, hf, hdefinition, hperforms⟩
  cases hrun
  refine ⟨trivial, _, congrArg Draft.current (Draft.addToBody_eq hf _), hdefinition,
    hperforms.write rfl (.cons hp (.cons hv .nil)) ?_⟩
  show (A.program.store? v path lanes).map _ = _
  rw [hw]
  rfl

/-! ### Calls -/

/-- The draft imports the mathematical instructions under this id. -/
def ImportsMath (d : Draft) (set : Id) : Prop :=
  ∃ i ∈ d.sections.imports, i.importRow? = some (mathSet, set)

theorem floor_gives {v : Value} {xs : List ℚ} (hv : A.Means v.id (.numbers xs)) :
    A.Gives (floor v) fun u => A.Means u.id (.numbers (xs.map fun x => (⌊x⌋ : ℚ))) := by
  refine .inspect fun _ => .inspect fun _ => .inspect fun _ => fun writes => ?_
  refine Gives.quietly (R := fun set d => ImportsMath d set) (fun a ha => ?_) fun set => ?_
  · refine (importSet_does ha mathSet).mono ?_
    rintro set b hchanges ⟨hmem, -, hgrows⟩
    rw [(ha.after hchanges).imports, mem_rowsOf] at hmem
    exact ⟨hgrows.current, hmem⟩
  · refine Gives.emit_of (fun _ => .cons hv .nil) fun id d himported hreach => ?_
    obtain ⟨i, hi, hrow⟩ := himported
    have hany : (A.program.imports.any fun j => j.importRow? == some (mathSet, set)) = true :=
      List.any_eq_true.2 ⟨i, hreach.definitions.imports.subset hi, by rw [hrow]; exact beq_self_eq_true _⟩
    have hfloor : A.program.isFloor
        (.typed .extInst v.type id (.id set :: .extInst floorNumber :: [v].map fun v => .id v.id)) = true := hany
    show (if A.program.isFloor _ = true then some (Meaning.numbers _) else none).map _ = _
    rw [if_pos hfloor]
    rfl

/-! ### Calls -/

theorem callFunction_gives {function : Id} {args : List Value} {xs : List Meaning} {x : Meaning}
    (hargs : A.MeansAll args xs) (hx : A.calls function xs = some (some x, [])) :
    A.Gives (callFunction function args) fun u => A.Means u.id x :=
  .inspect fun _ => .emit (fun _ => hargs.ids) fun _ => by
    show (A.calls function xs).bind _ = _
    rw [hx]
    rfl

end Activation

end FrameShader
