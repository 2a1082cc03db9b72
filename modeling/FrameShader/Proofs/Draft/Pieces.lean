/-
Pieces: what a type is made of, what is wrong with it, and how large it is.

A type is defined after its pieces, and each piece after those that it is made of itself.  Whether a
type can be defined depends on its pieces alone: a vector has an admissible width and a component, only
images are sampled, and the elements of an array have a size.  Sizes are words, so they may be too
large, but as long as they are not, they are what one would compute with numbers of any size.

Main definitions:

* `FrameShader.DataType.inner`, `FrameShader.DataType.pieces` — what a type is made of;
* `FrameShader.DataType.isWellFormed`, `FrameShader.DataType.fault?` — whether something is wrong with
  a type, and what is found first;
* `FrameShader.DataType.packedSize`, `FrameShader.DataType.hasStride` — how large a type is, and
  whether its elements can be laid out.

Main results:

* `FrameShader.DataType.ne_of_mem_inner` — a type is not made of itself;
* `FrameShader.DataType.fault?_eq_none_iff` — **something is wrong with a type just if it is not well
  formed**;
* `FrameShader.DataType.size_eq_ok_iff` — **a size is never wrapped**.
-/

import FrameShader.Draft.Error

set_option relaxedAutoImplicit false
set_option autoImplicit false

namespace FrameShader

namespace DataType

/-! ### Pieces -/

mutual

/-- What a type is made of, without the type itself.  Every piece stands behind its own pieces. -/
def inner : DataType → List DataType
  | .scalar _ | .sampler => []
  | .vector s _ => [.scalar s]
  | .image shape => [.scalar shape.sampledType]
  | .runtimeArray t | .pointer _ t | .sampledImage t => inner t ++ [t]
  | .record ts => innerOfAll ts
  | .function t ts => inner t ++ t :: innerOfAll ts

/-- What several types are made of, themselves included. -/
def innerOfAll : List DataType → List DataType
  | [] => []
  | t :: ts => inner t ++ t :: innerOfAll ts

end

/-- What a type is made of, with the type itself at the end. -/
def pieces (t : DataType) : List DataType := t.inner ++ [t]

theorem mem_pieces {t u : DataType} : u ∈ t.pieces ↔ u ∈ t.inner ∨ u = t := by
  simp [pieces]

theorem self_mem_pieces (t : DataType) : t ∈ t.pieces := mem_pieces.2 (.inr rfl)

theorem inner_subset_pieces (t : DataType) : t.inner ⊆ t.pieces := List.subset_append_left _ _

theorem mem_innerOfAll {ts : List DataType} {u : DataType} :
    u ∈ innerOfAll ts ↔ ∃ t ∈ ts, u ∈ t.pieces := by
  induction ts with
  | nil => simp [innerOfAll]
  | cons t ts ih => simp [innerOfAll, ih, mem_pieces, or_assoc]

/-- If a type is larger than what it is made of, then no piece of it is larger than the type. -/
theorem sizeOf_le_of_mem_pieces {t u : DataType}
    (h : ∀ {v : DataType}, v ∈ t.inner → sizeOf v < sizeOf t) (hu : u ∈ t.pieces) :
    sizeOf u ≤ sizeOf t := by
  rcases mem_pieces.1 hu with hu | rfl
  · exact Nat.le_of_lt (h hu)
  · exact Nat.le_refl _

mutual

/-- A type is larger than what it is made of. -/
theorem sizeOf_lt_of_mem_inner : ∀ {t u : DataType}, u ∈ t.inner → sizeOf u < sizeOf t
  | .scalar _, u, h | .sampler, u, h => absurd h List.not_mem_nil
  | .vector s width, u, h => by
      obtain rfl := List.mem_singleton.1 h
      simp
  | .image shape, u, h => by
      obtain rfl := List.mem_singleton.1 h
      cases shape
      simp
      omega
  | .runtimeArray t, u, h => by
      have hu := sizeOf_le_of_mem_pieces (t := t) sizeOf_lt_of_mem_inner h
      simp only [runtimeArray.sizeOf_spec]
      omega
  | .pointer _ t, u, h => by
      have hu := sizeOf_le_of_mem_pieces (t := t) sizeOf_lt_of_mem_inner h
      simp only [pointer.sizeOf_spec]
      omega
  | .sampledImage t, u, h => by
      have hu := sizeOf_le_of_mem_pieces (t := t) sizeOf_lt_of_mem_inner h
      simp only [sampledImage.sizeOf_spec]
      omega
  | .record ts, u, h => by
      have hu := sizeOf_lt_of_mem_innerOfAll h
      simp only [record.sizeOf_spec]
      omega
  | .function t ts, u, h => by
      simp only [function.sizeOf_spec]
      rcases List.mem_append.1 h with h | h
      · have hu := sizeOf_lt_of_mem_inner h
        omega
      · rcases List.mem_cons.1 h with rfl | h
        · omega
        · have hu := sizeOf_lt_of_mem_innerOfAll h
          omega

theorem sizeOf_lt_of_mem_innerOfAll : ∀ {ts : List DataType} {u : DataType}, u ∈ innerOfAll ts →
    sizeOf u < sizeOf ts
  | [], u, h => absurd h List.not_mem_nil
  | t :: ts, u, h => by
      simp only [List.cons.sizeOf_spec]
      rcases List.mem_append.1 h with h | h
      · have hu := sizeOf_lt_of_mem_inner h
        omega
      · rcases List.mem_cons.1 h with rfl | h
        · omega
        · have hu := sizeOf_lt_of_mem_innerOfAll h
          omega

end

/-- A type is not made of itself. -/
theorem ne_of_mem_inner {t u : DataType} (h : u ∈ t.inner) : u ≠ t := by
  rintro rfl
  exact Nat.lt_irrefl _ (sizeOf_lt_of_mem_inner h)

/-! ### What may be wrong with a type -/

/-- Nothing is wrong with the type, its pieces aside: a vector has two to four components, and they
are something; only images are sampled. -/
def isAdmissible : DataType → Bool
  | .vector s width => isVectorWidth width && s != .void
  | .sampledImage (.image _) => true
  | .sampledImage _ => false
  | _ => true

/-- Nothing is wrong with the type or with any of its pieces. -/
def isWellFormed (t : DataType) : Bool := t.pieces.all isAdmissible

theorem isWellFormed_iff {t : DataType} :
    t.isWellFormed = true ↔ (∀ u ∈ t.inner, u.isAdmissible = true) ∧ t.isAdmissible = true := by
  simp [isWellFormed, pieces]

theorem forall_mem_pieces {t : DataType} :
    (∀ u ∈ t.pieces, u.isAdmissible = true) ↔ t.isWellFormed = true := List.all_eq_true.symm

mutual

/-- What is found to be wrong with a type first. -/
def fault? : DataType → Option BuildError
  | .scalar _ | .sampler | .image _ | .sampledImage (.image _) => none
  | .vector s width =>
      if isVectorWidth width then
        if s = .void then some (.typeMismatch .typeVector "scalar component" s.text) else none
      else some (.invalidVectorWidth width)
  | .runtimeArray t | .pointer _ t => fault? t
  | .record ts => faultOfAll? ts
  | .sampledImage other => some (.typeMismatch .typeSampledImage "image" other.text)
  | .function t ts => (fault? t).or (faultOfAll? ts)

/-- What is found to be wrong with several types first. -/
def faultOfAll? : List DataType → Option BuildError
  | [] => none
  | t :: ts => (fault? t).or (faultOfAll? ts)

end

mutual

/-- **Something is wrong with a type just if it is not well formed.** -/
theorem fault?_eq_none_iff : ∀ t : DataType, t.fault? = none ↔ t.isWellFormed = true
  | .scalar _ | .sampler | .image _ => by simp [fault?, isWellFormed, pieces, inner, isAdmissible]
  | .vector s width => by
      by_cases hwidth : isVectorWidth width = true <;> by_cases hs : s = .void <;>
        simp [fault?, isWellFormed, pieces, inner, isAdmissible, hwidth, hs]
  | .runtimeArray t => by
      rw [fault?, fault?_eq_none_iff t, isWellFormed_iff (t := .runtimeArray t)]
      exact ⟨fun h => ⟨forall_mem_pieces.2 h, rfl⟩, fun h => forall_mem_pieces.1 h.1⟩
  | .pointer storage t => by
      rw [fault?, fault?_eq_none_iff t, isWellFormed_iff (t := .pointer storage t)]
      exact ⟨fun h => ⟨forall_mem_pieces.2 h, rfl⟩, fun h => forall_mem_pieces.1 h.1⟩
  | .record ts => by
      rw [fault?, faultOfAll?_eq_none_iff ts, isWellFormed_iff]
      simp [inner, isAdmissible]
  | .sampledImage t => by
      cases t <;> simp [fault?, isWellFormed, pieces, inner, isAdmissible]
  | .function t ts => by
      rw [fault?, Option.or_eq_none_iff, fault?_eq_none_iff t, faultOfAll?_eq_none_iff ts,
        isWellFormed_iff (t := .function t ts), isWellFormed_iff]
      simp [inner, isAdmissible, or_imp, forall_and, and_assoc]

theorem faultOfAll?_eq_none_iff : ∀ ts : List DataType,
    faultOfAll? ts = none ↔ ∀ u ∈ innerOfAll ts, u.isAdmissible = true
  | [] => by simp [faultOfAll?, innerOfAll]
  | t :: ts => by
      rw [faultOfAll?, Option.or_eq_none_iff, fault?_eq_none_iff t, faultOfAll?_eq_none_iff ts,
        isWellFormed_iff]
      simp [innerOfAll, or_imp, forall_and, and_assoc]

end

end DataType

/-! ### Sizes -/

/-- The size in whole bytes, as a number. -/
def Scalar.packedSize : Scalar → Nat
  | .void => 0
  | .bool => 1
  | .int width _ => width.toNat / 8
  | .float width => width.toNat / 8

theorem Scalar.toNat_size (s : Scalar) : s.size.toNat = s.packedSize := by
  cases s with
  | void | bool => rfl
  | int width | float width => exact UInt32.toNat_div width 8

namespace DataType

mutual

/-- The packed size in bytes, as a number.  Pointers and arrays have the size of what they hold;
images, samplers and functions have none. -/
def packedSize : DataType → Nat
  | .scalar s => s.packedSize
  | .vector s width => width.toNat * s.packedSize
  | .runtimeArray t | .pointer _ t => packedSize t
  | .record ts => packedSizeOfAll ts
  | .image _ | .sampler | .sampledImage _ | .function _ _ => 0

/-- The packed sizes of several types, added up. -/
def packedSizeOfAll : List DataType → Nat
  | [] => 0
  | t :: ts => packedSize t + packedSizeOfAll ts

end

/-- The answer is the number, unless this is no word. -/
def Fits (n : Nat) : Except Overflow Word → Prop
  | .ok w => w.toNat = n
  | .error _ => UInt32.size ≤ n

theorem fits_add (a b : Word) : Fits (a.toNat + b.toNat) (Word.add? a b) := by
  unfold Word.add?
  split
  · next hlt => exact (UInt32.toNat_add a b).trans (Nat.mod_eq_of_lt hlt)
  · next hge => exact Nat.le_of_not_lt hge

theorem fits_mul (a b : Word) : Fits (a.toNat * b.toNat) (Word.mul? a b) := by
  unfold Word.mul?
  split
  · next hlt => exact (UInt32.toNat_mul a b).trans (Nat.mod_eq_of_lt hlt)
  · next hge => exact Nat.le_of_not_lt hge

mutual

theorem size_fits : ∀ t : DataType, Fits t.packedSize t.size
  | .scalar s => s.toNat_size
  | .vector s width => by
      have h := fits_mul s.size width
      rwa [s.toNat_size, Nat.mul_comm] at h
  | .runtimeArray t | .pointer _ t => size_fits t
  | .record ts => by
      have h := sizeFrom_fits 0 ts
      rwa [show (0 : Word).toNat = 0 from rfl, Nat.zero_add] at h
  | .image _ | .sampler | .sampledImage _ | .function _ _ => rfl

/-- The sizes of members are added to what came before them. -/
theorem sizeFrom_fits : ∀ (sum : Word) (ts : List DataType),
    Fits (sum.toNat + packedSizeOfAll ts) (sizeFrom sum ts)
  | sum, [] => rfl
  | sum, t :: ts => by
      have ht := size_fits t
      rw [sizeFrom, packedSizeOfAll]
      cases hsize : t.size with
      | error e =>
          rw [hsize] at ht
          exact Nat.le_trans ht (by omega)
      | ok n =>
          rw [hsize] at ht
          have hadd := fits_add sum n
          simp only
          cases hsum : sum.add? n with
          | error e =>
              rw [hsum] at hadd
              have ht : n.toNat = t.packedSize := ht
              exact Nat.le_trans hadd (by omega)
          | ok next =>
              rw [hsum] at hadd
              have hrest := sizeFrom_fits next ts
              rwa [show next.toNat = sum.toNat + t.packedSize from hadd.trans (congrArg _ ht),
                Nat.add_assoc] at hrest

end

/-- **A size is never wrapped**: it is the number, and there is one whenever the number is a word. -/
theorem size_eq_ok_iff {t : DataType} {n : Word} : t.size = .ok n ↔ n.toNat = t.packedSize := by
  have hfits := size_fits t
  cases hsize : t.size with
  | ok w =>
      rw [hsize] at hfits
      have hw : w.toNat = t.packedSize := hfits
      rw [← hw, Except.ok.injEq, ← UInt32.toNat_inj]
      exact eq_comm
  | error e =>
      rw [hsize] at hfits
      have hlarge : UInt32.size ≤ t.packedSize := hfits
      have hn : n.toNat < UInt32.size := n.toNat_lt
      exact ⟨nofun, fun h => absurd h (by omega)⟩

/-- There is a size just if the number is a word. -/
theorem exists_size_iff {t : DataType} : (∃ n, t.size = .ok n) ↔ t.packedSize < UInt32.size := by
  constructor
  · rintro ⟨n, hn⟩
    rw [← size_eq_ok_iff.1 hn]
    exact n.toNat_lt
  · exact fun h => ⟨UInt32.ofNat t.packedSize, size_eq_ok_iff.2 (UInt32.toNat_ofNat_of_lt' h)⟩

/-- The type is no array, or its elements have a size that is a word. -/
def hasStride : DataType → Bool
  | .runtimeArray t => t.packedSize < UInt32.size
  | _ => true

theorem hasStride_runtimeArray {t : DataType} :
    (runtimeArray t).hasStride = true ↔ ∃ n, t.size = .ok n :=
  decide_eq_true_iff.trans exists_size_iff.symm

theorem hasStride_of_error {t : DataType} {e : Overflow} (h : t.size = .error e) :
    (runtimeArray t).hasStride = false := by
  refine Bool.eq_false_iff.2 fun hstride => ?_
  obtain ⟨n, hn⟩ := hasStride_runtimeArray.1 hstride
  cases h.symm.trans hn

end DataType

end FrameShader
