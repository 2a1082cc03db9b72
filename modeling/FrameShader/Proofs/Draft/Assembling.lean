/-
Assembling: which parts a vector is made of.

A vector is made of scalars and vectors that supply its components, in order.  What is compared is
only how many components they supply together.  So there are two ways to make a vector: of at least
two parts, each of them smaller than the vector, or of a single one, which has the type of the
vector already.  The second is an instruction that copies a vector, and it is accepted.

Main results:

* `FrameShader.Draft.Supplies.scalar_or_vector` — what supplies components;
* `FrameShader.Draft.compositeConstruct_outcomes` — when parts are put together;
* `FrameShader.Draft.parts_of_vector` — **what a vector is made of**;
* `FrameShader.Draft.not_all_smaller` — a part need not be smaller than the vector.
-/

import FrameShader.Proofs.Draft.Components
import Mathlib.Algebra.Order.BigOperators.Group.List
import Mathlib.Algebra.Order.Group.Nat

set_option relaxedAutoImplicit false
set_option autoImplicit false

namespace FrameShader

open Build

/-! ### Sums of positive numbers -/

/-- Positive numbers that add up to something: there is only one of them, or each is smaller. -/
theorem single_or_smaller {ns : List Nat} (h : ∀ n ∈ ns, 0 < n) (hsum : 0 < ns.sum) :
    ns = [ns.sum] ∨ 2 ≤ ns.length ∧ ∀ n ∈ ns, n < ns.sum := by
  match ns with
  | [] => exact absurd hsum (Nat.lt_irrefl 0)
  | [n] => exact .inl (by simp)
  | m :: n :: ns =>
      obtain ⟨hm, hrest⟩ := List.forall_mem_cons.1 h
      have hn : 0 < n := hrest n List.mem_cons_self
      refine .inr ⟨by simp, List.forall_mem_cons.2 ⟨?_, fun k hk => ?_⟩⟩
      · rw [List.sum_cons, List.sum_cons]
        omega
      · have hk := List.le_sum_of_mem hk
        rw [List.sum_cons]
        omega

namespace Draft

variable {d d' : Draft} {t : DataType} {s : Scalar} {v : Value} {width count : Word}
  {parts : List Value} {counts : List Word}

/-! ### Parts -/

/-- A value that supplies components is a scalar, or a vector of as many. -/
theorem Supplies.scalar_or_vector (h : d.Supplies s v count) :
    d.Sees v (.scalar s) ∧ count = 1 ∨ d.Sees v (.vector s count) := by
  obtain ⟨t, ht, hs, hcount⟩ := h
  cases t with
  | scalar c =>
      obtain rfl : c = s := hs
      cases c with
      | void => cases hcount
      | _ => exact .inl ⟨ht, (Option.some.inj hcount).symm⟩
  | vector c n =>
      obtain rfl : c = s := hs
      obtain rfl : n = count := Option.some.inj hcount
      exact .inr ht
  | _ => cases hcount

/-- The components of a part have a type that is known. -/
theorem Supplies.knows (hd : d.Reachable) (h : d.Supplies s v count) :
    d.knows (.scalar s) = true := by
  rcases h.scalar_or_vector with ⟨hv, -⟩ | hv
  · exact (hd.interned hv.2).knows
  · exact (hd.thorough _ (hd.interned hv.2).knows).pieces _ List.mem_cons_self

theorem Supplies.ne_void (hd : d.Reachable) (h : d.Supplies s v count) : s ≠ .void := by
  rintro rfl
  rcases h.scalar_or_vector with ⟨hv, -⟩ | hv
  · obtain ⟨t, ht, -, hcount⟩ := h
    obtain rfl : DataType.scalar .void = t := hv.unique_of_type ht rfl
    cases hcount
  · exact (hd.vector hv).2 rfl

/-- Every part supplies at least one component. -/
theorem Supplies.positive (hd : d.Reachable) (h : d.Supplies s v count) : 0 < count.toNat := by
  rcases h.scalar_or_vector with ⟨-, rfl⟩ | hv
  · exact Nat.one_pos
  · exact Nat.lt_of_lt_of_le Nat.two_pos (toNat_of_isVectorWidth (hd.vector hv).1).1

/-- The parts supply `width` components of `s` together. -/
def MakeUp (d : Draft) (s : Scalar) (width : Word) (parts : List Value) : Prop :=
  ∃ counts, List.Forall₂ (d.Supplies s) parts counts ∧
    (counts.map UInt32.toNat).sum = width.toNat

/-- **Parts are a single one of the same width, or they are smaller.** -/
theorem single_or_smaller_parts (hd : d.Reachable) (hwidth : 0 < width.toNat)
    (hparts : List.Forall₂ (d.Supplies s) parts counts)
    (hsum : (counts.map UInt32.toNat).sum = width.toNat) :
    (∃ part, parts = [part] ∧ d.Supplies s part width) ∨
      2 ≤ parts.length ∧ ∀ count ∈ counts, count < width := by
  have hpositive : ∀ n ∈ counts.map UInt32.toNat, 0 < n := by
    rw [List.forall_mem_map]
    intro count hcount
    obtain ⟨part, -, hpart⟩ := exists_of_mem_right hparts hcount
    exact hpart.positive hd
  rcases single_or_smaller hpositive (hsum ▸ hwidth) with hsingle | ⟨hlength, hsmaller⟩
  · rw [hsum] at hsingle
    obtain ⟨count, rfl, hcount⟩ := List.map_eq_singleton_iff.1 hsingle
    obtain rfl := UInt32.toNat_inj.1 hcount
    cases hparts with
    | cons hpart hrest =>
        cases hrest
        exact .inl ⟨_, rfl, hpart⟩
  · rw [List.length_map, ← hparts.length_eq] at hlength
    rw [hsum, List.forall_mem_map] at hsmaller
    exact .inr ⟨hlength, fun count hcount => UInt32.lt_iff_toNat_lt.2 (hsmaller count hcount)⟩

/-! ### Putting parts together -/

/-- A vector whose components have a type that is known can be asked for. -/
theorem MakeUp.settled (hd : d.Reachable) (hwidth : isVectorWidth width = true)
    (hparts : d.MakeUp s width parts) : d.Settled (.vector s width) := by
  obtain ⟨counts, hparts, hsum⟩ := hparts
  cases hparts with
  | nil =>
      have hpositive := (toNat_of_isVectorWidth hwidth).1
      rw [← hsum] at hpositive
      cases hpositive
  | cons hpart _ =>
      have hadmissible : (DataType.vector s width).isAdmissible = true := by
        simp [DataType.isAdmissible, hwidth, hpart.ne_void hd]
      exact ⟨hadmissible, List.forall_mem_singleton.2 (hpart.knows hd)⟩

theorem runOn_compositeConstruct (hwidth : isVectorWidth width = true)
    (hparts : d.MakeUp s width parts) :
    (compositeConstruct (.vector s width) parts).runOn d =
      (typeId (.vector s width) >>= fun type =>
        emitValue .compositeConstruct type (parts.map fun part => .id part.id)).runOn d := by
  obtain ⟨counts, hparts, hsum⟩ := hparts
  have hview : d.construction (.vector s width) parts = .ok (.ok ()) :=
    construction_eq_ok.2 ⟨s, width, counts, rfl, hwidth, hparts, hsum⟩
  rw [compositeConstruct, runOn_inspect_bind, hview]
  rfl

/-- A call that succeeds was given parts of a vector. -/
theorem exists_of_compositeConstruct
    (hrun : (compositeConstruct t parts).runOn d = (.ok v, d')) :
    ∃ s width, t = .vector s width ∧ isVectorWidth width = true ∧ d.MakeUp s width parts := by
  obtain ⟨answer, hview, hrun⟩ := exists_of_inspect hrun
  cases answer with
  | error operation => cases hrun
  | ok =>
      obtain ⟨s, width, counts, rfl, hwidth, hparts, hsum⟩ := construction_eq_ok.1 hview
      exact ⟨s, width, rfl, hwidth, counts, hparts, hsum⟩

section compositeConstruct

variable {f : OpenFunction}

/-- **When parts are put together**: always, if there are ids. -/
theorem compositeConstruct_outcomes (hd : d.Reachable) (hf : d.current = some f)
    (hopen : f.terminated = false) (hwidth : isVectorWidth width = true)
    (hparts : d.MakeUp s width parts) :
    (((compositeConstruct (.vector s width) parts).runOn d).1.isOk = true ∧
        d.HasRoomForResult (.vector s width)) ∨
      ((compositeConstruct (.vector s width) parts).runOn d).1 = .error (.overflow .increment) ∧
        ¬d.HasRoomForResult (.vector s width) := by
  rw [runOn_compositeConstruct hwidth hparts]
  exact emitTyped_outcomes hd (hparts.settled hd hwidth) rfl (writable_eq_ok.2 ⟨hf, hopen⟩)

theorem compositeConstruct_isOk_iff (hd : d.Reachable) (hf : d.current = some f)
    (hopen : f.terminated = false) :
    ((compositeConstruct t parts).runOn d).1.isOk = true ↔
      ∃ s width, t = .vector s width ∧ isVectorWidth width = true ∧ d.MakeUp s width parts ∧
        d.HasRoomForResult t := by
  constructor
  · intro hok
    obtain ⟨v, d', hrun⟩ := exists_of_isOk hok
    obtain ⟨s, width, rfl, hwidth, hparts⟩ := exists_of_compositeConstruct hrun
    refine ⟨s, width, rfl, hwidth, hparts, ?_⟩
    rcases compositeConstruct_outcomes hd hf hopen hwidth hparts with ⟨-, hroom⟩ | ⟨herror, -⟩
    · exact hroom
    · rw [herror] at hok
      cases hok
  · rintro ⟨s, width, rfl, hwidth, hparts, hroom⟩
    exact ((compositeConstruct_outcomes hd hf hopen hwidth hparts).resolve_right
      fun hfull => hfull.2 hroom).1

end compositeConstruct

/-- Copies of a scalar are put together. -/
theorem exists_of_splat {scalar : Value}
    (hrun : (splat scalar width).runOn d = (.ok v, d')) :
    ∃ s, d.Sees scalar (.scalar s) ∧ (compositeConstruct (.vector s width)
      (List.replicate width.toNat scalar)).runOn d = (.ok v, d') := by
  obtain ⟨t, hcheck, hrun⟩ := exists_of_inspect hrun
  cases t with
  | scalar s =>
      obtain ⟨u, e, hvector, hrun⟩ := exists_of_bind hrun
      rw [runOn_ofExcept, Prod.mk.injEq] at hvector
      obtain ⟨hvector, rfl⟩ := hvector
      unfold DataType.vector? at hvector
      split at hvector
      · cases hvector
        exact ⟨s, check_eq_ok.1 hcheck, hrun⟩
      · cases hvector
  | _ => cases hrun

/-- **What a vector is made of.**  On any draft that calls lead to:

* if parts are put together, then they are scalars and vectors of the same component as the vector,
  and the numbers of their components add up to its width; either there are at least two of them,
  and each has fewer components than the vector, or there is a single one, and it has the type of
  the vector;
* if a scalar is copied, then there are at least two copies, which are put together;
* if a function is open and has not returned, nothing else is asked of the parts: they are put
  together if their components add up to a width that modules admit, and if there are ids. -/
theorem parts_of_vector (hd : d.Reachable) :
    (∀ t parts v d', (compositeConstruct t parts).runOn d = (.ok v, d') →
      ∃ s width counts, t = .vector s width ∧ List.Forall₂ (d.Supplies s) parts counts ∧
        (counts.map UInt32.toNat).sum = width.toNat ∧
          ((∃ part, parts = [part] ∧ d.Sees part t) ∨
            2 ≤ parts.length ∧ ∀ count ∈ counts, count < width)) ∧
    (∀ scalar width v d', (splat scalar width).runOn d = (.ok v, d') →
      ∃ s, d.Sees scalar (.scalar s) ∧ 2 ≤ width.toNat ∧
        (compositeConstruct (.vector s width) (List.replicate width.toNat scalar)).runOn d =
          (.ok v, d')) ∧
    (∀ f, d.current = some f → f.terminated = false → ∀ t parts,
      (((compositeConstruct t parts).runOn d).1.isOk = true ↔
        ∃ s width, t = .vector s width ∧ isVectorWidth width = true ∧ d.MakeUp s width parts ∧
          d.HasRoomForResult t)) := by
  refine ⟨fun t parts v d' hrun => ?_, fun scalar width v d' hrun => ?_,
    fun f hf hopen t parts => compositeConstruct_isOk_iff hd hf hopen⟩
  · obtain ⟨s, width, rfl, hwidth, counts, hparts, hsum⟩ := exists_of_compositeConstruct hrun
    have htwo := (toNat_of_isVectorWidth hwidth).1
    refine ⟨s, width, counts, rfl, hparts, hsum, ?_⟩
    refine (single_or_smaller_parts hd (by omega) hparts hsum).imp_left ?_
    rintro ⟨part, hsingle, hpart⟩
    rcases hpart.scalar_or_vector with ⟨-, rfl⟩ | hpart
    · exact absurd htwo (by decide)
    · exact ⟨part, hsingle, hpart⟩
  · obtain ⟨s, hscalar, hrun⟩ := exists_of_splat hrun
    obtain ⟨_, _, ⟨⟩, hwidth, -⟩ := exists_of_compositeConstruct hrun
    exact ⟨s, hscalar, (toNat_of_isVectorWidth hwidth).1, hrun⟩

/-- A draft with a function of a pair of numbers and a number. -/
def pairDraft : Draft :=
  (empty {}).after [.beginFunction "f" .void [.vector (.float 32) 2, .float 32] .none]

/-- The pair and the number make up three components.  The pair alone makes up two. -/
theorem parts_of_vector_of_pair : pairDraft.Reachable ∧
    (∃ v d', (compositeConstruct (.vector (.float 32) 3) [⟨6, 4⟩, ⟨7, 3⟩]).runOn pairDraft =
      (.ok v, d')) ∧
    ∃ v d', (compositeConstruct (.vector (.float 32) 2) [⟨6, 4⟩]).runOn pairDraft = (.ok v, d') := by
  have hd : pairDraft.Reachable := ⟨{}, _, rfl⟩
  have hterminated : pairDraft.current.map (·.terminated) = some false := by decide +kernel
  obtain ⟨f, hf, hopen⟩ := Option.map_eq_some_iff.1 hterminated
  have hpair : pairDraft.Supplies (.float 32) ⟨6, 4⟩ 2 :=
    ⟨.vector (.float 32) 2, ⟨by decide +kernel, by decide +kernel⟩, rfl, rfl⟩
  have hnumber : pairDraft.Supplies (.float 32) ⟨7, 3⟩ 1 :=
    ⟨.float 32, ⟨by decide +kernel, by decide +kernel⟩, rfl, rfl⟩
  obtain ⟨-, -, hok⟩ := parts_of_vector hd
  exact ⟨hd,
    exists_of_isOk ((hok f hf hopen _ _).2
      ⟨_, 3, rfl, rfl, ⟨[2, 1], .cons hpair (.cons hnumber .nil), rfl⟩, by decide +kernel⟩),
    exists_of_isOk ((hok f hf hopen _ _).2
      ⟨_, 2, rfl, rfl, ⟨[2], .cons hpair .nil, rfl⟩, by decide +kernel⟩)⟩

/-- **A part need not be smaller than the vector.** -/
theorem not_all_smaller : ¬ ∀ d : Draft, d.Reachable → ∀ (t : DataType) (parts : List Value)
    (v : Value) (d' : Draft), (compositeConstruct t parts).runOn d = (.ok v, d') →
      2 ≤ parts.length ∧ ∀ part ∈ parts, ∀ s count width, d.Supplies s part count →
        t.components? = some width → count < width := by
  intro hall
  have hok : ((compositeConstruct (.vector (.float 32) 2) [⟨6, 4⟩]).runOn pairDraft).1.isOk =
      true := by
    decide +kernel
  obtain ⟨v, d', hrun⟩ := exists_of_isOk hok
  obtain ⟨hlength, -⟩ := hall pairDraft ⟨{}, _, rfl⟩ _ _ v d' hrun
  exact absurd hlength (by decide)

end Draft

end FrameShader
