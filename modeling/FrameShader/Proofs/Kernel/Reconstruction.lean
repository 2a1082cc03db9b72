/-
Reconstruction: what the calls that reconstruct a colour stand for.

The reconstruction is followed from step to step: coordinates, texels, sums, weighted sums, and at
last the choice by parity.  The numbers are those of the filters.

Main definitions:

* `FrameShader.Activation.Fetches` — a function that reads texels;
* `FrameShader.Activation.Sees` — a mosaic that can be read;
* `FrameShader.Activation.Along`, `FrameShader.Activation.Adds` — coordinates on an axis, and sums.

Main results:

* `FrameShader.Activation.sums_gives` — the six sums around a coordinate;
* `FrameShader.Activation.pattern_gives` — **the weighted sums are what the filters find**;
* `FrameShader.Activation.colourByParity_gives` — **the parity picks the colour**;
* `FrameShader.Activation.colourAt_gives` — the reconstructed colour.
-/

import FrameShader.Kernel.Demosaic
import FrameShader.Proofs.Execution.Functions
import FrameShader.Proofs.Kernel.Filters
import Mathlib.Data.Int.ConditionallyCompleteOrder
import Mathlib.Data.Int.Interval

set_option relaxedAutoImplicit false
set_option autoImplicit false

-- The calls below are long, and every step of them has to be seen to be regular.
set_option synthInstance.maxSize 50000

namespace FrameShader

open Demosaic

/-! ### Numbers -/

namespace Float64Bits

instance (value : Float64Bits) (x : ℚ) : Decidable (value.Stands x) :=
  decidable_of_iff _ stands_iff.symm

/-- Small whole numbers are exact. -/
theorem stands_ofInt : ∀ n ∈ Finset.Icc (-16 : ℤ) 16, (ofInt n).Stands n := by
  decide +kernel

/-- Small sixteenths are exact. -/
theorem stands_sixteenths : ∀ n ∈ Finset.Icc (-16 : ℤ) 16, (ofDyadic n 4).Stands (n / 16) := by
  decide +kernel

end Float64Bits

/-! ### Composed calls -/

namespace Build.Composed

instance wholeVector (s : Scalar) (values : List Int) : Composed (Demosaic.wholeVector s values) := by
  unfold Demosaic.wholeVector
  infer_instance

instance sixteenths (s : Scalar) (values : List Int) : Composed (Demosaic.sixteenths s values) := by
  unfold Demosaic.sixteenths
  infer_instance

instance tap (m : Mosaic) (x y : Value) : Composed (m.tap x y) := by
  unfold Mosaic.tap
  infer_instance

instance tapEach (m : Mosaic) (places : List (Value × Value)) : Composed (m.tapEach places) := by
  induction places with
  | nil => exact .pure _
  | cons place places ih =>
      unfold Mosaic.tapEach
      infer_instance

instance taps (m : Mosaic) (at4 : List (Value × Value)) : Composed (m.taps at4) := by
  unfold Mosaic.taps
  infer_instance

instance weigh (s : Scalar) (weights : List Int) (chosen : List Word) (sum : Value)
    (layout : List Word) : Composed (Demosaic.weigh s weights chosen sum layout) := by
  unfold Demosaic.weigh
  infer_instance

instance accumulate (target : Value) (lanes : List Word) (value : Value) :
    Composed (Demosaic.accumulate target lanes value) := by
  unfold Demosaic.accumulate
  infer_instance

instance opaqueColour (s : Scalar) (red green blue : Value) :
    Composed (Demosaic.opaqueColour s red green blue) := by
  unfold Demosaic.opaqueColour
  infer_instance

instance isZero (s : Scalar) (value : Value) : Composed (Demosaic.isZero s value) := by
  unfold Demosaic.isZero
  infer_instance

instance axes (x y columns rows : Value) : Composed (Demosaic.axes x y columns rows) := by
  unfold Demosaic.axes
  infer_instance

instance sums (m : Mosaic) (x y : Axis) (c : Value) : Composed (Demosaic.sums m x y c) := by
  unfold Demosaic.sums
  infer_instance

instance pattern (s : Scalar) (t : Sums) : Composed (Demosaic.pattern s t) := by
  unfold Demosaic.pattern
  infer_instance

instance colourByParity (s : Scalar) (c channels parity : Value) :
    Composed (Demosaic.colourByParity s c channels parity) := by
  unfold Demosaic.colourByParity
  infer_instance

instance colourAt (m : Mosaic) (coordinate firstRed : Value) :
    Composed (Demosaic.colourAt m coordinate firstRed) := by
  show Composed (Build.name coordinate.id "coord" >>= _)
  infer_instance

end Build.Composed

namespace Activation

open Build

variable {A : Activation}

theorem Means.of_eq {id : Id} {xs ys : List ℚ} (h : A.Means id (.numbers xs)) (heq : xs = ys) :
    A.Means id (.numbers ys) := heq ▸ h

/-! ### Vectors of numbers -/

/-- Literals stand for numbers, one by one. -/
theorem forall₂_stands {values : List Int} {encode : Int → Float64Bits} {x : Int → ℚ}
    (hsmall : ∀ n ∈ values, (encode n).Stands (x n)) :
    List.Forall₂ Float64Bits.Stands (values.map encode) (values.map x) := by
  rw [List.forall₂_map_left_iff, List.forall₂_map_right_iff]
  exact List.forall₂_same.2 hsmall

theorem wholeVector_gives {s : Scalar} {n : ℤ} {ns : List ℤ}
    (hsmall : ∀ k ∈ n :: ns, k ∈ Finset.Icc (-16 : ℤ) 16) :
    A.Gives (wholeVector s (n :: ns)) fun v =>
      A.Means v.id (.numbers ((n :: ns).map fun k : ℤ => (k : ℚ))) :=
  constVector_gives (forall₂_stands fun k hk => Float64Bits.stands_ofInt k (hsmall k hk))

theorem sixteenths_gives {s : Scalar} {n : ℤ} {ns : List ℤ}
    (hsmall : ∀ k ∈ n :: ns, k ∈ Finset.Icc (-16 : ℤ) 16) :
    A.Gives (sixteenths s (n :: ns)) fun v =>
      A.Means v.id (.numbers ((n :: ns).map fun k : ℤ => (k : ℚ) / 16)) :=
  constVector_gives (forall₂_stands fun k hk => Float64Bits.stands_sixteenths k (hsmall k hk))

/-! ### Reading texels -/

/-- Calling the function gives the first channel of the texel at a coordinate. -/
def Fetches (calls : Program.Calls) (host : Host) (function : Id) : Prop :=
  ∀ x y, calls function [.image, .sampler, .numbers [x, y]] =
    some (some (.numbers [host.texel x y 0]), [])

/-- The mosaic can be read: its image and sampler are those of the pipeline, and its function fetches
texels. -/
structure Sees (A : Activation) (m : Mosaic) : Prop where
  image : A.Means m.image.id .image
  sampler : A.Means m.sampler.id .sampler
  fetch : Fetches A.calls A.host m.fetch

/-- Two values stand for the column and the row of a place. -/
def MeansPlace (A : Activation) (place : Value × Value) (at2 : ℚ × ℚ) : Prop :=
  A.Means place.1.id (.numbers [at2.1]) ∧ A.Means place.2.id (.numbers [at2.2])

variable {m : Mosaic}

theorem tap_gives (hm : A.Sees m) {x y : Value} (place : ℚ × ℚ)
    (hplace : A.MeansPlace (x, y) place) :
    A.Gives (m.tap x y) fun v => A.Means v.id (.numbers [A.host.texel place.1 place.2 0]) := by
  have hboth : A.MeansAll [x, y] ([place.1, place.2].map fun c => .numbers [c]) :=
    .cons hplace.1 (.cons hplace.2 .nil)
  refine .bind (vector_gives hboth) fun coordinate hcoordinate => ?_
  exact callFunction_gives (.cons hm.image (.cons hm.sampler (.cons hcoordinate .nil)))
    (hm.fetch place.1 place.2)

theorem tapEach_gives (hm : A.Sees m) {values : List (Value × Value)} {places : List (ℚ × ℚ)}
    (hplaces : List.Forall₂ A.MeansPlace values places) :
    A.Gives (m.tapEach values) fun vs =>
      A.MeansAll vs (places.map fun place => .numbers [A.host.texel place.1 place.2 0]) := by
  induction hplaces with
  | nil => exact .pure .nil
  | cons hplace _ ih =>
      exact .bind (tap_gives hm _ hplace) fun _ hv => .bind ih fun _ hvs => .pure (.cons hv hvs)

theorem taps_gives (hm : A.Sees m) {values : List (Value × Value)} (place : ℚ × ℚ)
    (places : List (ℚ × ℚ)) (hplaces : List.Forall₂ A.MeansPlace values (place :: places)) :
    A.Gives (m.taps values) fun v =>
      A.Means v.id (.numbers ((place :: places).map fun p => A.host.texel p.1 p.2 0)) := by
  refine .bind (tapEach_gives hm hplaces) fun vs hvs => vector_gives ?_
  rw [← List.map_cons (f := fun p : ℚ × ℚ => A.host.texel p.1 p.2 0), List.map_map]
  exact hvs

/-! ### Coordinates -/

/-- The values on an axis stand for the coordinates around `x`. -/
structure Along (A : Activation) (axis : Axis) (x : ℚ) : Prop where
  centre : A.Means axis.centre.id (.numbers [x])
  twoBefore : A.Means axis.twoBefore.id (.numbers [x + -2])
  before : A.Means axis.before.id (.numbers [x + -1])
  after : A.Means axis.after.id (.numbers [x + 1])
  twoAfter : A.Means axis.twoAfter.id (.numbers [x + 2])

/-- The coordinates around `x`, without it. -/
def around (x : ℚ) : List ℚ := [x + -2, x + -1, x + 1, x + 2]

theorem axes_gives {x y columns rows : Value} {cx cy : ℚ} (hx : A.Means x.id (.numbers [cx]))
    (hy : A.Means y.id (.numbers [cy])) (hcolumns : A.Means columns.id (.numbers (around cx)))
    (hrows : A.Means rows.id (.numbers (around cy))) :
    A.Gives (axes x y columns rows) fun both => A.Along both.1 cx ∧ A.Along both.2 cy := by
  refine .bind (compositeExtract_gives hcolumns rfl) fun _ hx0 => ?_
  refine .bind (compositeExtract_gives hrows rfl) fun _ hy0 => ?_
  refine .bind (compositeExtract_gives hcolumns rfl) fun _ hx1 => ?_
  refine .bind (compositeExtract_gives hrows rfl) fun _ hy1 => ?_
  refine .bind (compositeExtract_gives hcolumns rfl) fun _ hx2 => ?_
  refine .bind (compositeExtract_gives hrows rfl) fun _ hy2 => ?_
  refine .bind (compositeExtract_gives hcolumns rfl) fun _ hx3 => ?_
  refine .bind (compositeExtract_gives hrows rfl) fun _ hy3 => ?_
  exact .pure ⟨⟨hx, hx0, hx1, hx2, hx3⟩, ⟨hy, hy0, hy1, hy2, hy3⟩⟩

/-! ### Sums -/

/-- The six sums stand for those of a neighbourhood. -/
structure Adds (A : Activation) (t : Sums) (s : Filters.Neighbourhood) : Prop where
  a : A.Means t.a.id (.numbers [Filters.inColumn s 2])
  b : A.Means t.b.id (.numbers [Filters.inColumn s 1])
  c : A.Means t.c.id (.numbers [s 0 0])
  d : A.Means t.d.id (.numbers [Filters.diagonals s])
  e : A.Means t.e.id (.numbers [Filters.inRow s 2])
  f : A.Means t.f.id (.numbers [Filters.inRow s 1])

/-- The first channel of the frame around a coordinate. -/
def neighbourhood (host : Host) (x y : ℚ) : Filters.Neighbourhood :=
  fun dx dy => host.texel (x + dx) (y + dy) 0

theorem sums_gives (hm : A.Sees m) {x y : Axis} {c : Value} {cx cy : ℚ} (hx : A.Along x cx)
    (hy : A.Along y cy) (hc : A.Means c.id (.numbers [A.host.texel cx cy 0])) :
    A.Gives (sums m x y c) fun t => A.Adds t (neighbourhood A.host cx cy) := by
  refine .bind (taps_gives hm (cx + -1, cy + -1) [(cx + -1, cy + 1), (cx + 1, cy + -1),
    (cx + 1, cy + 1)] (.cons ⟨hx.before, hy.before⟩ (.cons ⟨hx.before, hy.after⟩
      (.cons ⟨hx.after, hy.before⟩ (.cons ⟨hx.after, hy.after⟩ .nil)))))
    fun diagonals hdiagonals => ?_
  refine .bind (wholeVector_gives (by decide)) fun ones hones => ?_
  refine .bind (dot_gives hdiagonals hones rfl) fun d hd => ?_
  refine .bind (name_gives _ _) fun _ _ => ?_
  refine .bind (taps_gives hm (cx, cy + -2) [(cx, cy + -1), (cx + -2, cy), (cx + -1, cy)]
    (.cons ⟨hx.centre, hy.twoBefore⟩ (.cons ⟨hx.centre, hy.before⟩
      (.cons ⟨hx.twoBefore, hy.centre⟩ (.cons ⟨hx.before, hy.centre⟩ .nil)))))
    fun before hbefore => ?_
  refine .bind (taps_gives hm (cx, cy + 2) [(cx, cy + 1), (cx + 2, cy), (cx + 1, cy)]
    (.cons ⟨hx.centre, hy.twoAfter⟩ (.cons ⟨hx.centre, hy.after⟩
      (.cons ⟨hx.twoAfter, hy.centre⟩ (.cons ⟨hx.after, hy.centre⟩ .nil)))))
    fun after hafter => ?_
  refine .bind (fAdd_gives hbefore hafter rfl) fun total htotal => ?_
  refine .bind (compositeExtract_gives htotal rfl) fun a ha => ?_
  refine .bind (compositeExtract_gives htotal rfl) fun b hb => ?_
  refine .bind (compositeExtract_gives htotal rfl) fun e he => ?_
  refine .bind (compositeExtract_gives htotal rfl) fun f hf => ?_
  iterate 4 refine .bind (name_gives _ _) fun _ _ => ?_
  refine .pure ⟨ha.of_eq ?_, hb.of_eq ?_, hc.of_eq ?_, hd.of_eq ?_, he.of_eq ?_, hf.of_eq ?_⟩
  all_goals
    simp [neighbourhood, Filters.inColumn, Filters.inRow, Filters.diagonals]
  ring

/-! ### The weighted sums -/

/-- Weights that are chosen, multiplied by a sum, and spread out. -/
theorem weigh_gives {s : Scalar} {weight : ℤ} {weights : List ℤ} {chosen layout : List Word}
    {sum : Value} {total : ℚ} {xs ys : List ℚ} (hsum : A.Means sum.id (.numbers [total]))
    (hsmall : ∀ k ∈ weight :: weights, k ∈ Finset.Icc (-16 : ℤ) 16)
    (hchosen : (Meaning.numbers ((weight :: weights).map fun k : ℤ => (k : ℚ) / 16)).shuffle?
      (.numbers ((weight :: weights).map fun k : ℤ => (k : ℚ) / 16)) chosen = some (.numbers xs))
    (hlayout : (Meaning.numbers (xs.map (· * total))).shuffle? (.numbers (xs.map (· * total))) layout =
      some (.numbers ys)) (hlong : 2 ≤ chosen.length ∧ 2 ≤ layout.length) :
    A.Gives (weigh s (weight :: weights) chosen sum layout) fun v => A.Means v.id (.numbers ys) := by
  refine .bind (sixteenths_gives hsmall) fun all hall => ?_
  refine .bind (swizzle_gives hall hchosen hlong.1) fun some hsome => ?_
  refine .bind (vectorTimesScalar_gives hsome hsum) fun weighted hweighted => ?_
  exact swizzle_gives hweighted hlayout hlong.2

/-- Some lanes of a vector grow, and the others stay. -/
theorem accumulate_gives {target value : Value} {xs ys zs out : List ℚ} (lanes : List Word)
    (htarget : A.Means target.id (.numbers xs)) (hvalue : A.Means value.id (.numbers ys))
    (hlanes : (Meaning.numbers xs).shuffle? (.numbers xs) lanes = some (.numbers zs))
    (hout : (Meaning.numbers xs).shuffle? (.numbers (List.zipWith (· + ·) zs ys)) (replacing lanes) =
      some (.numbers out)) (hlength : zs.length = ys.length) (hlong : 2 ≤ lanes.length) :
    A.Gives (accumulate target lanes value) fun v => A.Means v.id (.numbers out) := by
  refine .bind (swizzle_gives htarget hlanes hlong) fun current hcurrent => ?_
  refine .bind (fAdd_gives hcurrent hvalue hlength) fun sum hsum => ?_
  exact vectorShuffle_gives htarget hsum hout

/-- **The weighted sums are what the filters find.** -/
theorem pattern_gives {s : Scalar} {t : Sums} {n : Filters.Neighbourhood} (ht : A.Adds t n) :
    A.Gives (pattern s t) fun v => A.Means v.id (.numbers (Filters.found (Filters.inColumn n 2)
      (Filters.inColumn n 1) (n 0 0) (Filters.diagonals n) (Filters.inRow n 2)
      (Filters.inRow n 1))) := by
  obtain ⟨ha, hb, hc, hd, he, hf⟩ := ht
  -- from here on the sums are any numbers, and the rest is linear in them
  generalize Filters.inColumn n 2 = a at *
  generalize Filters.inColumn n 1 = b at *
  generalize n 0 0 = c at *
  generalize Filters.diagonals n = d at *
  generalize Filters.inRow n 2 = e at *
  generalize Filters.inRow n 1 = f at *
  refine .bind (weigh_gives hc (by decide) rfl rfl (by decide)) fun _ hchannels => ?_
  refine .bind (weigh_gives hd (by decide) rfl rfl (by decide)) fun _ hdiagonal => ?_
  refine .bind (accumulate_gives [1, 2, 3] hchannels hdiagonal rfl rfl rfl (by decide))
    fun _ hchannels => ?_
  refine .bind (weigh_gives ha (by decide) rfl rfl (by decide)) fun _ hcolumn => ?_
  refine .bind (weigh_gives he (by decide) rfl rfl (by decide)) fun _ hrow => ?_
  refine .bind (fAdd_gives hcolumn hrow rfl) fun _ hboth => ?_
  refine .bind (fAdd_gives hchannels hboth rfl) fun _ hchannels => ?_
  refine .bind (weigh_gives hb (by decide) rfl rfl (by decide)) fun _ hcolumn => ?_
  refine .bind (accumulate_gives [0, 3] hchannels hcolumn rfl rfl rfl (by decide))
    fun _ hchannels => ?_
  refine .bind (weigh_gives hf (by decide) rfl rfl (by decide)) fun _ hrow => ?_
  refine (accumulate_gives [0, 2] hchannels hrow rfl rfl rfl (by decide)).mono fun _ hchannels => ?_
  refine hchannels.of_eq ?_
  show [_, _, _, _] = Filters.found a b c d e f
  simp only [Filters.found, List.cons.injEq, and_true]
  refine ⟨?_, ?_, ?_, ?_⟩ <;> ring

/-! ### The choice by parity -/

theorem opaqueColour_gives {s : Scalar} {red green blue : Value} {r g b : ℚ}
    (hr : A.Means red.id (.numbers [r])) (hg : A.Means green.id (.numbers [g]))
    (hb : A.Means blue.id (.numbers [b])) :
    A.Gives (opaqueColour s red green blue) fun v => A.Means v.id (.numbers [r, g, b, 1]) := by
  have hone : (Float64Bits.ofInt 1).Stands ((1 : ℤ) : ℚ) :=
    Float64Bits.stands_ofInt 1 (by decide)
  rw [Int.cast_one] at hone
  refine .bind (constFloat_gives hone) fun one hone => ?_
  have hparts : A.MeansAll [red, green, blue, one] ([r, g, b, 1].map fun x => .numbers [x]) :=
    .cons hr (.cons hg (.cons hb (.cons hone .nil)))
  exact vector_gives hparts

theorem isZero_gives {s : Scalar} {value : Value} {x : ℚ} (h : A.Means value.id (.numbers [x])) :
    A.Gives (isZero s value) fun v =>
      A.Means v.id (.truths (List.replicate 4 (decide (x = 0)))) := by
  refine .bind (constFloat_gives Float64Bits.stands_zero) fun zero hzero => ?_
  refine .bind (fOrdEqual_gives h hzero rfl) fun condition hcondition => ?_
  exact splat_gives hcondition rfl

/-- One condition for all lanes chooses a whole vector. -/
theorem select_whole_gives {c v w : Value} {p : Prop} [Decidable p] {xs ys : List ℚ}
    (hc : A.Means c.id (.truths (List.replicate 4 (decide p)))) (hv : A.Means v.id (.numbers xs))
    (hw : A.Means w.id (.numbers ys)) (hxs : xs.length = 4) (hys : ys.length = 4) :
    A.Gives (select c v w) fun u => A.Means u.id (.numbers (if p then xs else ys)) := by
  refine select_gives hc hv hw ?_
  match xs, ys, hxs, hys with
  | [_, _, _, _], [_, _, _, _], _, _ => by_cases hp : p <;> simp [hp, Meaning.choose?, Meaning.chooseLanes]

/-- A parity is zero for the even numbers. -/
theorem parity_eq_zero {i : ℤ} : ((i % 2 : ℤ) : ℚ) = 0 ↔ i % 2 = 0 := by
  rw [Int.cast_eq_zero]

/-- **The parity picks the colour.** -/
theorem colourByParity_gives {s : Scalar} {center channels parity : Value}
    {c green diagonal row column : ℚ} {i j : ℤ} (hc : A.Means center.id (.numbers [c]))
    (hchannels : A.Means channels.id (.numbers [green, diagonal, row, column]))
    (hparity : A.Means parity.id (.numbers [((i % 2 : ℤ) : ℚ), ((j % 2 : ℤ) : ℚ)])) :
    A.Gives (colourByParity s center channels parity) fun v =>
      A.Means v.id (.numbers (Filters.arrange c green diagonal row column i j)) := by
  refine .bind (compositeExtract_gives hchannels rfl) fun _ hgreen => ?_
  refine .bind (compositeExtract_gives hchannels rfl) fun _ hdiagonal => ?_
  refine .bind (compositeExtract_gives hchannels rfl) fun _ hrow => ?_
  refine .bind (compositeExtract_gives hchannels rfl) fun _ hcolumn => ?_
  refine .bind (opaqueColour_gives hc hgreen hdiagonal) fun _ hatRed => ?_
  refine .bind (opaqueColour_gives hrow hc hcolumn) fun _ hatGreenInRedRow => ?_
  refine .bind (opaqueColour_gives hcolumn hc hrow) fun _ hatGreenInBlueRow => ?_
  refine .bind (opaqueColour_gives hdiagonal hgreen hc) fun _ hatBlue => ?_
  refine .bind (compositeExtract_gives hparity rfl) fun _ hx => ?_
  refine .bind (compositeExtract_gives hparity rfl) fun _ hy => ?_
  refine .bind (isZero_gives hx) fun _ hevenColumn => ?_
  refine .bind (isZero_gives hy) fun _ hevenRow => ?_
  refine .bind (select_whole_gives hevenColumn hatRed hatGreenInRedRow rfl rfl) fun _ hredRow => ?_
  refine .bind (select_whole_gives hevenColumn hatGreenInBlueRow hatBlue rfl rfl) fun _ hblueRow => ?_
  refine (select_whole_gives hevenRow hredRow hblueRow ?_ ?_).mono fun _ hcolour => ?_
  · split <;> rfl
  · split <;> rfl
  · refine hcolour.of_eq ?_
    simp only [parity_eq_zero, Filters.arrange]
    rcases Int.emod_two_eq_zero_or_one i with hi | hi <;>
      rcases Int.emod_two_eq_zero_or_one j with hj | hj <;> simp [hi, hj]

/-! ### The reconstruction -/

/-- **The reconstructed colour is what the filters say**, wherever the coordinate lies. -/
theorem colourAt_gives (hm : A.Sees m) {coordinate firstRed : Value} {x y ox oy : ℚ}
    (hcoordinate : A.Means coordinate.id (.numbers [x, y]))
    (hfirstRed : A.Means firstRed.id (.numbers [ox, oy])) :
    A.Gives (colourAt m coordinate firstRed) fun v => A.Means v.id
      (.numbers (Filters.colour (neighbourhood A.host x y) ⌊x + ox⌋ ⌊y + oy⌋)) := by
  refine .bind (name_gives _ _) fun _ _ => .bind (name_gives _ _) fun _ _ => ?_
  refine .bind (compositeExtract_gives hcoordinate rfl) fun xs hx => ?_
  refine .bind (compositeExtract_gives hcoordinate rfl) fun ys hy => ?_
  refine .bind (wholeVector_gives (by decide)) fun away haway => ?_
  refine .bind (splat_gives hx rfl) fun wideX hwideX => ?_
  refine .bind (fAdd_gives hwideX haway rfl) fun columns hcolumns => ?_
  refine .bind (splat_gives hy rfl) fun wideY hwideY => ?_
  refine .bind (fAdd_gives hwideY haway rfl) fun rows hrows => ?_
  -- the coordinates of the four columns and of the four rows beside the pixel
  have haround (c : ℚ) : List.zipWith (· + ·) [c, c, c, c]
      ([-2, -1, 1, 2].map fun k : ℤ => (k : ℚ)) = around c := by
    simp [around]
  refine .bind (axes_gives hx hy (hcolumns.of_eq (haround x)) (hrows.of_eq (haround y))) ?_
  rintro ⟨columnAxis, rowAxis⟩ ⟨hcolumnAxis, hrowAxis⟩
  -- where the pixel lies in the pattern of the mosaic
  refine .bind (fAdd_gives hcoordinate hfirstRed rfl) fun place hplace => ?_
  refine .bind (floor_gives hplace) fun place hplace => ?_
  refine .bind (wholeVector_gives (by decide)) fun two htwo => ?_
  refine .bind (fMod_gives hplace htwo rfl (by simp)) fun parity hparity => ?_
  have hparity' : A.Means parity.id
      (.numbers [((⌊x + ox⌋ % 2 : ℤ) : ℚ), ((⌊y + oy⌋ % 2 : ℤ) : ℚ)]) := by
    refine hparity.of_eq ?_
    simp [flooredMod_two]
  refine .bind (name_gives _ _) fun _ _ => ?_
  refine .bind (tap_gives hm (x, y) ⟨hx, hy⟩) fun c hc => ?_
  refine .bind (name_gives _ _) fun _ _ => ?_
  refine .bind (sums_gives hm hcolumnAxis hrowAxis hc) fun t ht => ?_
  refine .bind (pattern_gives ht) fun channels hchannels => ?_
  refine .bind (name_gives _ _) fun _ _ => ?_
  rw [Filters.found_eq] at hchannels
  refine colourByParity_gives (hc.of_eq ?_) hchannels hparity'
  simp [neighbourhood]

end Activation

end FrameShader
