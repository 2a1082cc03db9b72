/-
Lanes: what picking components does to the meaning of a vector.

Numbers, truth values and integers have lanes of different types, but whatever is done to lanes is
done to all of them in the same way.  So the facts below are shown of a kind of lanes, and there are
three of these.

Main definitions:

* `FrameShader.Meaning.width` — how many lanes a meaning has;
* `FrameShader.Meaning.LaneKind` — a kind of lanes;
* `FrameShader.Meaning.Rearranges` — the lanes of one meaning are lanes of another, in a given order.

Main results:

* `FrameShader.Meaning.exists_pick?` — **one lane** that is taken out;
* `FrameShader.Meaning.exists_shuffle?` — **several lanes**, picked from the same meaning twice;
* `FrameShader.Program.effect_compositeExtract`, `FrameShader.Program.effect_vectorShuffle` — the
  instructions that pick lanes.
-/

import FrameShader.Proofs.Draft.Visibility
import FrameShader.Proofs.Execution.Machine
import Mathlib.Data.List.Forall2

set_option relaxedAutoImplicit false
set_option autoImplicit false

namespace FrameShader.Meaning

/-! ### Kinds of lanes -/

/-- How many lanes there are. -/
def width : Meaning → Nat
  | .numbers lanes => lanes.length
  | .truths lanes => lanes.length
  | .integers lanes => lanes.length
  | _ => 0

/-- Meanings of this kind are made of lanes, which can be laid end to end and taken out. -/
structure LaneKind {α : Type} (kind : List α → Meaning) : Prop where
  width (lanes : List α) : (kind lanes).width = lanes.length
  append (xs ys : List α) : (kind xs).append? (kind ys) = some (kind (xs ++ ys))
  pick (lanes : List α) (index : Word) :
    (kind lanes).pick? index = lanes[index.toNat]?.map fun lane => kind [lane]

theorem laneKind_numbers : LaneKind numbers := ⟨fun _ => rfl, fun _ _ => rfl, fun _ _ => rfl⟩

theorem laneKind_truths : LaneKind truths := ⟨fun _ => rfl, fun _ _ => rfl, fun _ _ => rfl⟩

theorem laneKind_integers : LaneKind integers := ⟨fun _ => rfl, fun _ _ => rfl, fun _ _ => rfl⟩

/-- What has lanes has lanes of one of these kinds. -/
theorem exists_laneKind {x : Meaning} (h : 0 < x.width) :
    ∃ (α : Type) (kind : List α → Meaning) (lanes : List α), LaneKind kind ∧ x = kind lanes := by
  cases x with
  | numbers lanes => exact ⟨ℚ, numbers, lanes, laneKind_numbers, rfl⟩
  | truths lanes => exact ⟨Bool, truths, lanes, laneKind_truths, rfl⟩
  | integers lanes => exact ⟨Word, integers, lanes, laneKind_integers, rfl⟩
  | _ => exact absurd h (Nat.lt_irrefl 0)

/-! ### Picking lanes -/

/-- The lanes of `y` are those of `x` with these numbers, in this order. -/
structure Rearranges (x : Meaning) (indices : List Word) (y : Meaning) : Prop where
  width : y.width = indices.length
  lane (k : Nat) (index : Word) (hk : indices[k]? = some index) :
    ∃ lane, x.pick? index = some lane ∧ y.pick? (UInt32.ofNat k) = some lane

namespace LaneKind

variable {α : Type} {kind : List α → Meaning} {lanes picked : List α} {indices : List Word}

/-- Single lanes, one after the other. -/
theorem concat?_lanes (h : LaneKind kind) (x : α) (xs : List α) :
    concat? ((x :: xs).map fun lane => kind [lane]) = some (kind (x :: xs)) := by
  have happend (before : List α) : (xs.map fun lane => kind [lane]).foldlM append? (kind before) =
      some (kind (before ++ xs)) := by
    induction xs generalizing before with
    | nil => simp
    | cons y ys ih =>
        rw [List.map_cons, List.foldlM_cons, h.append]
        show (some (kind (before ++ [y]))).bind _ = _
        rw [Option.bind_some, ih, List.append_assoc, List.singleton_append]
  exact happend [x]

/-- Numbers below the number of lanes pick lanes. -/
theorem exists_picked (hbelow : ∀ index ∈ indices, index.toNat < lanes.length) :
    ∃ picked, List.Forall₂ (fun index lane => lanes[index.toNat]? = some lane) indices picked := by
  induction indices with
  | nil => exact ⟨[], .nil⟩
  | cons index indices ih =>
      obtain ⟨hindex, hrest⟩ := List.forall_mem_cons.1 hbelow
      obtain ⟨picked, hpicked⟩ := ih hrest
      exact ⟨_, .cons (List.getElem?_eq_getElem hindex) hpicked⟩

/-- Lanes are picked one by one, also if more lanes follow. -/
theorem mapM_pick? (h : LaneKind kind) (more : List α)
    (hpicked : List.Forall₂ (fun index lane => lanes[index.toNat]? = some lane) indices picked) :
    indices.mapM (kind (lanes ++ more)).pick? = some (picked.map fun lane => kind [lane]) := by
  induction hpicked with
  | nil => rfl
  | @cons index lane indices picked hlane _ ih =>
      have hindex := (List.getElem?_eq_some_iff.1 hlane).1
      have hpick : (kind (lanes ++ more)).pick? index = some (kind [lane]) := by
        rw [h.pick, List.getElem?_append_left hindex, hlane]
        rfl
      rw [List.mapM_cons, hpick, ih]
      rfl

/-- What has been picked, lane by lane. -/
theorem rearranges (h : LaneKind kind) (hshort : indices.length < 2 ^ 32)
    (hpicked : List.Forall₂ (fun index lane => lanes[index.toNat]? = some lane) indices picked) :
    (kind lanes).Rearranges indices (kind picked) where
  width := (h.width picked).trans hpicked.length_eq.symm
  lane k index hk := by
    obtain ⟨hlt, rfl⟩ := List.getElem?_eq_some_iff.1 hk
    have hlt' : k < picked.length := hpicked.length_eq ▸ hlt
    have hlane := hpicked.get hlt hlt'
    have hword : (UInt32.ofNat k).toNat = k :=
      UInt32.toNat_ofNat_of_lt' (Nat.lt_trans hlt hshort)
    refine ⟨kind [picked[k]], ?_, ?_⟩
    · rw [h.pick, show lanes[indices[k].toNat]? = some picked[k] from hlane]
      rfl
    · rw [h.pick, hword, List.getElem?_eq_getElem hlt']
      rfl

end LaneKind

/-- **A lane that is taken out.** -/
theorem exists_pick? {x : Meaning} {index : Word} (h : index.toNat < x.width) :
    ∃ y, x.pick? index = some y ∧ x.Rearranges [index] y := by
  obtain ⟨α, kind, lanes, hkind, rfl⟩ := exists_laneKind (Nat.zero_lt_of_lt h)
  rw [hkind.width] at h
  have hlane := List.getElem?_eq_getElem h
  refine ⟨kind [lanes[index.toNat]], ?_, hkind.rearranges (by simp) (.cons hlane .nil)⟩
  rw [hkind.pick, hlane]
  rfl

/-- **Lanes that are picked from the same meaning twice** are lanes of this meaning. -/
theorem exists_shuffle? {x : Meaning} {indices : List Word} (hsome : indices ≠ [])
    (hshort : indices.length < 2 ^ 32) (hbelow : ∀ index ∈ indices, index.toNat < x.width) :
    ∃ y, x.shuffle? x indices = some y ∧ x.Rearranges indices y := by
  obtain ⟨first, hfirst⟩ := List.exists_mem_of_ne_nil indices hsome
  obtain ⟨α, kind, lanes, hkind, rfl⟩ := exists_laneKind (Nat.zero_lt_of_lt (hbelow first hfirst))
  rw [hkind.width] at hbelow
  obtain ⟨picked, hpicked⟩ := LaneKind.exists_picked hbelow
  refine ⟨kind picked, ?_, hkind.rearranges hshort hpicked⟩
  rw [shuffle?, hkind.append, Option.bind_eq_bind, Option.bind_some, hkind.mapM_pick? lanes hpicked,
    Option.bind_eq_bind, Option.bind_some]
  cases picked with
  | nil =>
      cases hpicked
      exact absurd rfl hsome
  | cons lane picked => exact hkind.concat?_lanes lane picked

end FrameShader.Meaning

namespace FrameShader.Program

/-! ### Instructions that pick lanes -/

variable {p : Program} {host : Host} {calls : Calls} {x y z : Meaning} {indices : List Word}

/-- A lane that is taken out is a value. -/
theorem effect_compositeExtract {index : Word} (hy : x.pick? index = some y) (type id v : Id) :
    p.effect host calls (.typed .compositeExtract type id [.id v, .literal index]) [x] =
      some (.value y []) := by
  show (x.pick? index).map _ = _
  rw [hy]
  rfl

/-- The indices of a shuffle are no arguments. -/
theorem arguments_vectorShuffle (type id v w : Id) (indices : List Word) :
    (Instruction.typed .vectorShuffle type id
      (.id v :: .id w :: indices.map .literal)).arguments = [v, w] := by
  show (Operand.id v :: .id w :: indices.map .literal).filterMap Operand.id? = _
  rw [List.filterMap_cons, List.filterMap_cons, filterMap_literals]
  rfl

/-- What is picked from two vectors is a value. -/
theorem effect_vectorShuffle (hz : x.shuffle? y indices = some z) (type id v w : Id) :
    p.effect host calls
        (.typed .vectorShuffle type id (.id v :: .id w :: indices.map .literal)) [x, y] =
      some (.value z []) := by
  have hliterals : (Instruction.typed .vectorShuffle type id
      (.id v :: .id w :: indices.map .literal)).literals = indices := by
    simp [Instruction.literals, Instruction.typed, List.filterMap_map]
  have happly : p.apply host
      (.typed .vectorShuffle type id (.id v :: .id w :: indices.map .literal)) [x, y] =
        x.shuffle? y indices := congrArg (x.shuffle? y) hliterals
  show (p.apply host _ [x, y]).map _ = _
  rw [happly, hz]
  rfl

end FrameShader.Program
