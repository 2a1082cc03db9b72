/-
Checks: what is known once a call has looked at its operands.

A call compares its operands with what the draft knows before it changes anything.  Each lemma below
says what a check that passes establishes, in terms of the values that can be seen and of their
types.

Main results:

* `FrameShader.Draft.check_eq_ok` — a value that passes is seen with its type;
* `FrameShader.Draft.checkAll_eq_ok` — so is each of several values;
* `FrameShader.Draft.writable_eq_ok` — the open function takes instructions;
* `FrameShader.Draft.MayTake`, `FrameShader.Draft.slotFor_eq_ok_iff` — what may be put into a slot;
* the lemmas `…_ok` — what the check of each call establishes.
-/

import FrameShader.Proofs.Draft.Changing

set_option relaxedAutoImplicit false
set_option autoImplicit false

namespace FrameShader

/-! ### Answers -/

section answers

variable {ε α β : Type}

theorem bind_eq_ok {x : Except ε α} {f : α → Except ε β} {b : β} :
    (x >>= f) = .ok b ↔ ∃ a, x = .ok a ∧ f a = .ok b := by
  cases x <;> simp [Bind.bind, Except.bind]

theorem pure_eq_ok {a b : α} : (pure a : Except ε α) = .ok b ↔ a = b := by
  simp [Pure.pure, Except.pure]

theorem throw_eq_ok {e : ε} {b : α} : (throw e : Except ε α) = .ok b ↔ False := by
  simp [throw, throwThe, MonadExceptOf.throw]

/-- A condition that must hold for the rest to be reached. -/
theorem guard_eq_ok {p : Prop} [Decidable p] {e : ε} {x : Except ε α} {b : α} :
    (if p then throw e else x) = .ok b ↔ ¬p ∧ x = .ok b := by
  by_cases h : p <;> simp [h, throw_eq_ok]

/-- The same where the rest is shared by both branches. -/
theorem guard_bind_eq_ok {p : Prop} [Decidable p] {e : ε} {f : PUnit → Except ε α} {b : α} :
    (if p then throw e >>= f else f ⟨⟩) = .ok b ↔ ¬p ∧ f ⟨⟩ = .ok b := by
  by_cases h : p <;> simp [h, bind_eq_ok, throw_eq_ok]

end answers

/-! ### Words -/

theorem Word.add?_eq_ok {a b c : Word} (h : a.add? b = .ok c) : a.toNat + b.toNat = c.toNat := by
  unfold Word.add? at h
  split at h
  · next hlt =>
      rw [← Except.ok.inj h, UInt32.toNat_add]
      exact (Nat.mod_eq_of_lt hlt).symm
  · cases h

/-- Words whose sum is a word. -/
theorem toNat_sum {counts : List Word} (h : (counts.map UInt32.toNat).sum < 2 ^ 32) :
    counts.sum.toNat = (counts.map UInt32.toNat).sum := by
  induction counts with
  | nil => rfl
  | cons count counts ih =>
      rw [List.map_cons, List.sum_cons] at h ⊢
      rw [List.sum_cons, UInt32.toNat_add, ih (by omega), Nat.mod_eq_of_lt h]

theorem toNat_of_isVectorWidth {width : Word} (h : isVectorWidth width = true) :
    2 ≤ width.toNat ∧ width.toNat ≤ 4 := by
  rw [isVectorWidth, Bool.and_eq_true, decide_eq_true_eq, decide_eq_true_eq] at h
  exact ⟨UInt32.le_iff_toNat_le.1 h.1, UInt32.le_iff_toNat_le.1 h.2⟩

namespace Draft

variable {d : Draft} {opcode : Opcode} {v : Value}

/-! ### Values -/

theorem dataType_eq_ok {type : Id} {t : DataType} :
    d.dataType type = .ok t ↔ d.tables.dataTypes.lookup type = some t := by
  unfold dataType
  cases d.tables.dataTypes.lookup type <;> simp

/-- What can be seen is known to the open function, or a global, or a function. -/
theorem typeOf?_eq_some {id type : Id} (h : d.typeOf? id = some type) :
    (∃ f, d.current = some f ∧ f.locals.lookup id = some type) ∨
      d.tables.globals.lookup id = some type ∨
        ∃ s, d.tables.functions.lookup id = some s ∧ s.type = type := by
  unfold typeOf? at h
  cases hlocal : d.localType? id with
  | some type' =>
      rw [hlocal] at h
      unfold localType? at hlocal
      cases hcurrent : d.current with
      | none =>
          rw [hcurrent] at hlocal
          cases hlocal
      | some f =>
          rw [hcurrent] at hlocal
          exact Or.inl ⟨f, rfl, hlocal.trans h⟩
  | none =>
      rw [hlocal] at h
      have hglobal : d.globalType? id = some type := h
      unfold globalType? at hglobal
      split at hglobal
      · next htype => exact Or.inr (Or.inl (htype.trans hglobal))
      · exact Or.inr (Or.inr (Option.map_eq_some_iff.1 hglobal))

/-- A value that passes is seen with its type. -/
theorem check_eq_ok {t : DataType} : d.check opcode v = .ok t ↔ d.Sees v t := by
  unfold check Sees
  cases hseen : d.typeOf? v.id with
  | none => simp
  | some type =>
      by_cases h : type = v.type
      · simp [h, dataType_eq_ok]
      · simp [h, bind_eq_ok, throw_eq_ok]

theorem checkAll_eq_ok {vs : List Value} {ts : List DataType} :
    d.checkAll opcode vs = .ok ts ↔ List.Forall₂ d.Sees vs ts := by
  induction vs generalizing ts with
  | nil => simp [checkAll, eq_comm]
  | cons v vs ih =>
      simp only [checkAll, bind_eq_ok, pure_eq_ok, check_eq_ok, ih]
      constructor
      · rintro ⟨t, ht, ts, hts, rfl⟩
        exact .cons ht hts
      · rintro (_ | ⟨ht, hts⟩)
        exact ⟨_, ht, _, hts, rfl⟩

/-- Each of several values that pass is seen. -/
theorem checkAll_ok {vs : List Value} {ts : List DataType} (h : d.checkAll opcode vs = .ok ts) :
    ∀ v ∈ vs, ∃ t, d.Sees v t := by
  have hall := checkAll_eq_ok.1 h
  clear h
  induction hall with
  | nil => simp
  | cons ht _ ih =>
      rintro v (_ | ⟨_, hv⟩)
      · exact ⟨_, ht⟩
      · exact ih v hv

/-- Two values of one type id have one type. -/
theorem Sees.unique_of_type {w : Value} {t u : DataType} (ht : d.Sees v t) (hu : d.Sees w u)
    (hvw : v.type = w.type) : t = u := by
  have h := ht.2
  rw [hvw, hu.2] at h
  exact (Option.some.inj h).symm

theorem floatOperand_ok {t : DataType} (h : d.floatOperand opcode v = .ok t) :
    d.Sees v t ∧ t.isFloat = true := by
  unfold floatOperand at h
  obtain ⟨u, hu, h⟩ := bind_eq_ok.1 h
  rw [check_eq_ok] at hu
  by_cases hfloat : u.isFloat = true
  · rw [if_pos hfloat, pure_eq_ok] at h
    subst h
    exact ⟨hu, hfloat⟩
  · rw [if_neg hfloat] at h
    exact (throw_eq_ok.1 h).elim

/-- The open function takes instructions. -/
theorem writable_eq_ok {f : OpenFunction} :
    d.writable opcode = .ok f ↔ d.current = some f ∧ f.terminated = false := by
  unfold writable
  cases d.current with
  | none => simp
  | some g => by_cases h : g.terminated = true <;> simp [h] <;> rintro rfl <;> simp_all

/-! ### Arithmetic -/

theorem floatPair_ok {a b : Value} {t : DataType} (h : d.floatPair opcode a b = .ok t) :
    d.Sees a t ∧ d.Sees b t ∧ a.type = b.type ∧ t.isFloat = true := by
  unfold floatPair at h
  obtain ⟨s, hs, h⟩ := bind_eq_ok.1 h
  obtain ⟨u, hu, h⟩ := bind_eq_ok.1 h
  obtain ⟨hs, hfloat⟩ := floatOperand_ok hs
  obtain ⟨hu, -⟩ := floatOperand_ok hu
  obtain ⟨hab, h⟩ := guard_bind_eq_ok.1 h
  rw [pure_eq_ok] at h
  subst h
  have hab : a.type = b.type := not_not.1 hab
  have hsu := hs.unique_of_type hu hab
  subst hsu
  exact ⟨hs, hu, hab, hfloat⟩

theorem scaling_ok {x : Value} (h : d.scaling v x = .ok ()) :
    ∃ s width, d.Sees v (.vector s width) ∧ d.Sees x (.scalar s) ∧ s.isFloat = true := by
  unfold scaling at h
  obtain ⟨t, ht, h⟩ := bind_eq_ok.1 h
  obtain ⟨u, hu, h⟩ := bind_eq_ok.1 h
  obtain ⟨ht, hfloat⟩ := floatOperand_ok ht
  obtain ⟨hu, -⟩ := floatOperand_ok hu
  cases t with
  | vector s width =>
      obtain ⟨hscalar, -⟩ := guard_eq_ok.1 h
      rw [not_not.1 hscalar] at hu
      exact ⟨s, width, ht, hu, hfloat⟩
  | _ => exact (throw_eq_ok.1 h).elim

theorem dotOf_ok {a b : Value} {s : Scalar} (h : d.dotOf a b = .ok s) :
    ∃ width, d.Sees a (.vector s width) ∧ d.Sees b (.vector s width) ∧ a.type = b.type ∧
      s.isFloat = true := by
  unfold dotOf at h
  obtain ⟨t, ht, h⟩ := bind_eq_ok.1 h
  obtain ⟨u, hu, h⟩ := bind_eq_ok.1 h
  obtain ⟨ht, hfloat⟩ := floatOperand_ok ht
  obtain ⟨hu, -⟩ := floatOperand_ok hu
  cases t with
  | vector s' width =>
      obtain ⟨hab, h⟩ := guard_bind_eq_ok.1 h
      obtain rfl := pure_eq_ok.1 h
      have hab : a.type = b.type := not_not.1 hab
      have htu := ht.unique_of_type hu hab
      subst htu
      exact ⟨width, ht, hu, hab, hfloat⟩
  | _ => exact (throw_eq_ok.1 h).elim

theorem conversion_ok {target : Scalar} {t : DataType} (h : d.conversion v target = .ok t) :
    ∃ u source width, d.Sees v u ∧ u.scalarOf = .int source false ∧ target = .float width ∧
      t = u.withScalar (.float width) := by
  simp only [conversion, bind_eq_ok, check_eq_ok] at h
  obtain ⟨u, hu, h⟩ := h
  split at h
  · next hscalar =>
      rw [pure_eq_ok] at h
      exact ⟨u, _, _, hu, hscalar, rfl, h.symm⟩
  · exact (throw_eq_ok.1 h).elim

theorem selection_ok {condition accept refuse : Value}
    (h : d.selection condition accept refuse = .ok ()) :
    ∃ t count, d.Sees condition (t.withScalar .bool) ∧ d.Sees accept t ∧ d.Sees refuse t ∧
      accept.type = refuse.type ∧ t.components? = some count := by
  unfold selection at h
  obtain ⟨c, hc, h⟩ := bind_eq_ok.1 h
  obtain ⟨t, ht, h⟩ := bind_eq_ok.1 h
  obtain ⟨u, hu, h⟩ := bind_eq_ok.1 h
  rw [check_eq_ok] at hc ht hu
  obtain ⟨har, hmatch⟩ := guard_bind_eq_ok.1 h
  have har : accept.type = refuse.type := not_not.1 har
  have htu := ht.unique_of_type hu har
  subst htu
  replace hmatch := (guard_eq_ok.1 hmatch).1
  rw [Bool.or_eq_true, not_or, decide_eq_true_eq, not_not] at hmatch
  obtain ⟨hcount, rfl⟩ := hmatch
  cases hcomponents : t.components? with
  | none => simp [hcomponents] at hcount
  | some count => exact ⟨t, count, hc, ht, hu, har, hcomponents⟩

/-! ### Vectors -/

/-- The value can be seen, and it is a scalar or a vector of `s` with `count` components. -/
def Supplies (d : Draft) (s : Scalar) (v : Value) (count : Word) : Prop :=
  ∃ t, d.Sees v t ∧ t.scalarOf = s ∧ t.components? = some count

/-- The types of values that supply components. -/
theorem exists_types {s : Scalar} {parts : List Value} {counts : List Word}
    (h : List.Forall₂ (d.Supplies s) parts counts) :
    ∃ ts, List.Forall₂ d.Sees parts ts ∧ (∀ t ∈ ts, t.scalarOf = s) ∧
      ts.map DataType.components? = counts.map some := by
  induction h with
  | nil => exact ⟨[], .nil, by simp, rfl⟩
  | cons hv _ ih =>
      obtain ⟨t, ht, hs, hn⟩ := hv
      obtain ⟨ts, hparts, hscalars, hcounts⟩ := ih
      refine ⟨t :: ts, .cons ht hparts, List.forall_mem_cons.2 ⟨hs, hscalars⟩, ?_⟩
      rw [List.map_cons, List.map_cons, hn, hcounts]

/-- **Parts are counted when each of them supplies components and the sum is a word.** -/
theorem countComponents_eq_ok {s : Scalar} {parts : List Value} {start count : Word} :
    d.countComponents s start parts = .ok (.ok count) ↔
      ∃ counts, List.Forall₂ (d.Supplies s) parts counts ∧
        start.toNat + (counts.map UInt32.toNat).sum = count.toNat := by
  induction parts generalizing start with
  | nil =>
      rw [countComponents, Except.ok.injEq, Except.ok.injEq]
      refine ⟨fun h => ⟨[], .nil, congrArg UInt32.toNat h⟩, fun ⟨counts, hparts, hsum⟩ => ?_⟩
      cases hparts
      exact UInt32.toNat_inj.1 hsum
  | cons v parts ih =>
      rw [countComponents]
      constructor
      · intro h
        obtain ⟨t, ht, h⟩ := bind_eq_ok.1 h
        rw [check_eq_ok] at ht
        split at h
        · next n hn =>
            by_cases hs : t.scalarOf = s
            · rw [if_pos hs] at h
              split at h
              · next sum hsum =>
                  obtain ⟨counts, hparts, hcounts⟩ := ih.1 h
                  refine ⟨n :: counts, .cons ⟨t, ht, hs, hn⟩ hparts, ?_⟩
                  rw [← hcounts, ← Word.add?_eq_ok hsum, List.map_cons, List.sum_cons,
                    Nat.add_assoc]
              · cases Except.ok.inj h
            · rw [if_neg hs] at h
              exact (throw_eq_ok.1 h).elim
        · exact (throw_eq_ok.1 h).elim
      · rintro ⟨counts, hparts, hsum⟩
        cases hparts with
        | @cons _ n _ counts hv hparts =>
            obtain ⟨t, ht, hs, hn⟩ := hv
            rw [List.map_cons, List.sum_cons] at hsum
            -- no partial sum exceeds the whole one, which is a word
            have hfits : start.toNat + n.toNat < UInt32.size := by
              have := count.toNat_lt_size
              omega
            have hadd : start.add? n = .ok (start + n) := if_pos hfits
            refine bind_eq_ok.2 ⟨t, check_eq_ok.2 ht, ?_⟩
            rw [hn]
            simp only [if_pos hs, hadd]
            exact ih.2 ⟨counts, hparts, by rw [← Word.add?_eq_ok hadd, Nat.add_assoc, hsum]⟩

theorem vector?_eq_ok {s : Scalar} {width : Word} {t : DataType}
    (h : DataType.vector? s width = .ok t) : isVectorWidth width = true ∧ t = .vector s width := by
  unfold DataType.vector? at h
  split at h
  · next hwidth => exact ⟨hwidth, (Except.ok.inj h).symm⟩
  · cases h

/-- **What a vector can be made of**: parts that supply as many components as it has. -/
theorem construction_eq_ok {t : DataType} {parts : List Value} :
    d.construction t parts = .ok (.ok ()) ↔
      ∃ s width counts, t = .vector s width ∧ isVectorWidth width = true ∧
        List.Forall₂ (d.Supplies s) parts counts ∧
        (counts.map UInt32.toNat).sum = width.toNat := by
  constructor
  · intro h
    unfold construction at h
    split at h
    · next s width =>
        obtain ⟨_, hvector, h⟩ := bind_eq_ok.1 h
        obtain ⟨sum, hsum, h⟩ := bind_eq_ok.1 h
        split at h
        · next count =>
            obtain ⟨hwidth, -⟩ := guard_bind_eq_ok.1 h
            obtain ⟨counts, hparts, hcount⟩ := countComponents_eq_ok.1 hsum
            rw [not_not.1 hwidth, UInt32.toNat_zero, Nat.zero_add] at hcount
            exact ⟨s, width, counts, rfl, (vector?_eq_ok hvector).1, hparts, hcount⟩
        · cases Except.ok.inj h
    · cases h
  · rintro ⟨s, width, counts, rfl, hwidth, hparts, hsum⟩
    have hcount : d.countComponents s 0 parts = .ok (.ok width) :=
      countComponents_eq_ok.2 ⟨counts, hparts, by rw [UInt32.toNat_zero, Nat.zero_add, hsum]⟩
    refine bind_eq_ok.2 ⟨_, if_pos hwidth, bind_eq_ok.2 ⟨_, hcount, ?_⟩⟩
    exact guard_bind_eq_ok.2 ⟨fun h => h rfl, rfl⟩

theorem construction_ok {t : DataType} {parts : List Value}
    (h : d.construction t parts = .ok (.ok ())) :
    ∃ (s : Scalar) (ts : List DataType) (counts : List Word), t = .vector s counts.sum ∧
      List.Forall₂ d.Sees parts ts ∧ (∀ t ∈ ts, t.scalarOf = s) ∧
      ts.map DataType.components? = counts.map some := by
  obtain ⟨s, width, counts, rfl, -, hparts, hsum⟩ := construction_eq_ok.1 h
  have hlt : (counts.map UInt32.toNat).sum < 2 ^ 32 := hsum ▸ width.toNat_lt
  obtain rfl : counts.sum = width := UInt32.toNat_inj.1 ((toNat_sum hlt).trans hsum)
  obtain ⟨ts, hsees, hs, hcounts⟩ := exists_types hparts
  exact ⟨s, ts, counts, rfl, hsees, hs, hcounts⟩

theorem vectorOperand_ok {s : Scalar} {width : Word}
    (h : d.vectorOperand opcode v = .ok (s, width)) : d.Sees v (.vector s width) := by
  unfold vectorOperand at h
  obtain ⟨t, ht, h⟩ := bind_eq_ok.1 h
  rw [check_eq_ok] at ht
  split at h
  · rw [pure_eq_ok] at h
    cases h
    exact ht
  · exact (throw_eq_ok.1 h).elim

theorem extraction_ok {index : Word} {s : Scalar} (h : d.extraction v index = .ok s) :
    ∃ width, d.Sees v (.vector s width) ∧ index < width := by
  unfold extraction at h
  obtain ⟨⟨s', width⟩, hv, h⟩ := bind_eq_ok.1 h
  obtain ⟨hindex, h⟩ := guard_bind_eq_ok.1 h
  rw [pure_eq_ok] at h
  subst h
  exact ⟨width, vectorOperand_ok hv, UInt32.not_le.1 hindex⟩

theorem indicesBelow_ok {width : Word} {indices : List Word} (h : indicesBelow width indices = .ok ()) :
    ∀ i ∈ indices, i < width := by
  unfold indicesBelow at h
  split at h
  · cases h
  · next hfind =>
      intro i hi
      have hnot := List.find?_eq_none.1 hfind i hi
      exact UInt32.not_le.1 (by simpa using hnot)

theorem shuffle_ok {a b : Value} {indices : List Word} {t : DataType}
    (h : d.shuffle a b indices = .ok t) :
    ∃ s m n, d.Sees a (.vector s m) ∧ d.Sees b (.vector s n) ∧ (∀ i ∈ indices, i < m + n) ∧
      t = .vector s (UInt32.ofNat indices.length) := by
  unfold shuffle at h
  rw [bind_eq_ok] at h
  obtain ⟨t', ht, h⟩ := h
  rw [bind_eq_ok] at h
  obtain ⟨u, hu, h⟩ := h
  rw [check_eq_ok] at ht hu
  split at h
  · next s m s' n =>
      obtain ⟨hs, hrest⟩ := guard_bind_eq_ok.1 h
      rw [bind_eq_ok] at hrest
      obtain ⟨⟨⟩, hindices, hvector⟩ := hrest
      rw [← not_not.1 hs] at hu
      exact ⟨s, m, n, ht, hu, indicesBelow_ok hindices, (vector?_eq_ok hvector).2⟩
  · exact (throw_eq_ok.1 h).elim

/-! ### Constants -/

theorem constituents_ok {s : Scalar} {values : List Value} (h : d.constituents s values = .ok ()) :
    ∀ v ∈ values, d.isConstant v.id = true ∧ d.Sees v (.scalar s) := by
  induction values with
  | nil => simp
  | cons w values ih =>
      unfold constituents at h
      obtain ⟨hconstant, h⟩ := guard_bind_eq_ok.1 h
      rw [bind_eq_ok] at h
      obtain ⟨t, ht, h⟩ := h
      obtain ⟨hs, h⟩ := guard_bind_eq_ok.1 h
      rw [check_eq_ok, not_not.1 hs] at ht
      rintro v (_ | ⟨_, hv⟩)
      · exact ⟨by simpa using hconstant, ht⟩
      · exact ih h v hv

theorem compositeOf_ok {t : DataType} {values : List Value} (h : d.compositeOf t values = .ok ()) :
    ∃ s, t = .vector s (UInt32.ofNat values.length) ∧
      ∀ v ∈ values, d.isConstant v.id = true ∧ d.Sees v (.scalar s) := by
  unfold compositeOf at h
  split at h
  · next s width =>
      by_cases hwidth : UInt32.ofNat values.length = width
      · rw [if_neg (not_not.2 hwidth)] at h
        exact ⟨s, by rw [hwidth], constituents_ok h⟩
      · rw [if_pos hwidth] at h
        cases h
  · cases h

/-! ### Memory -/

theorem pointerOperand_ok {storage : StorageClass} {pointee : DataType}
    (h : d.pointerOperand opcode v = .ok (storage, pointee)) :
    d.Sees v (.pointer storage pointee) := by
  unfold pointerOperand at h
  obtain ⟨t, ht, h⟩ := bind_eq_ok.1 h
  rw [check_eq_ok] at ht
  split at h
  · rw [pure_eq_ok] at h
    cases h
    exact ht
  · exact (throw_eq_ok.1 h).elim

/-- Each index that reaches something is seen. -/
theorem walk_ok {indices : List Value} {t part : DataType} (h : d.walk t indices = .ok part) :
    ∀ v ∈ indices, ∃ u, d.Sees v u := by
  induction indices generalizing t with
  | nil => simp
  | cons index indices ih =>
      rw [walk, bind_eq_ok] at h
      obtain ⟨u, hu, h⟩ := h
      unfold stepInto at hu
      rw [bind_eq_ok] at hu
      obtain ⟨indexType, hindex, -⟩ := hu
      rw [check_eq_ok] at hindex
      rintro v (_ | ⟨_, hv⟩)
      · exact ⟨_, hindex⟩
      · exact ih h v hv

theorem access_ok {indices : List Value} {t : DataType} (h : d.access v indices = .ok t) :
    ∃ storage pointee part, d.Sees v (.pointer storage pointee) ∧
      d.walk pointee indices = .ok part ∧ t = .pointer storage part := by
  unfold access at h
  obtain ⟨⟨storage, pointee⟩, hv, h⟩ := bind_eq_ok.1 h
  obtain ⟨part, hpart, h⟩ := bind_eq_ok.1 h
  rw [pure_eq_ok] at h
  exact ⟨storage, pointee, part, pointerOperand_ok hv, hpart, h.symm⟩

theorem storing_ok {pointer value : Value} (h : d.storing pointer value = .ok ()) :
    ∃ storage pointee, d.Sees pointer (.pointer storage pointee) ∧ d.Sees value pointee := by
  unfold storing at h
  obtain ⟨⟨storage, pointee⟩, hpointer, h⟩ := bind_eq_ok.1 h
  obtain ⟨found, hfound, h⟩ := bind_eq_ok.1 h
  rw [check_eq_ok] at hfound
  obtain ⟨hsame, -⟩ := guard_eq_ok.1 h
  rw [not_not.1 hsame] at hfound
  exact ⟨storage, pointee, pointerOperand_ok hpointer, hfound⟩

/-! ### Images -/

theorem combination_ok {image sampler : Value} {t : DataType}
    (h : d.combination image sampler = .ok t) :
    ∃ shape, t = .image shape ∧ d.Sees image (.image shape) ∧ d.Sees sampler .sampler ∧
      shape.sampled ≠ 2 := by
  simp only [combination, bind_eq_ok, check_eq_ok] at h
  obtain ⟨t', ht, u, hu, h⟩ := h
  split at h
  · next shape =>
      by_cases hsampled : shape.sampled ≠ 2
      · rw [if_pos hsampled, pure_eq_ok] at h
        exact ⟨shape, h.symm, ht, hu, hsampled⟩
      · rw [if_neg hsampled] at h
        exact (throw_eq_ok.1 h).elim
  · exact (throw_eq_ok.1 h).elim

theorem sampling_ok {image coordinate lod : Value} {s : Scalar}
    (h : d.sampling image coordinate lod = .ok s) :
    ∃ shape t width, s = shape.sampledType ∧ d.Sees image (.sampledImage (.image shape)) ∧
      d.Sees coordinate t ∧ t.isFloat = true ∧ t.components? = some shape.coordinateWidth ∧
      d.Sees lod (.float width) := by
  unfold sampling at h
  obtain ⟨t, ht, h⟩ := bind_eq_ok.1 h
  rw [check_eq_ok] at ht
  split at h
  · next shape =>
      obtain ⟨u, hu, h⟩ := bind_eq_ok.1 h
      obtain ⟨hu, hfloat⟩ := floatOperand_ok hu
      obtain ⟨hcount, h⟩ := guard_bind_eq_ok.1 h
      obtain ⟨w, hw, h⟩ := bind_eq_ok.1 h
      obtain ⟨hw, -⟩ := floatOperand_ok hw
      split at h
      · rw [pure_eq_ok] at h
        exact ⟨shape, u, _, h.symm, ht, hu, hfloat, not_not.1 hcount, hw⟩
      · exact (throw_eq_ok.1 h).elim
  · exact (throw_eq_ok.1 h).elim
  · exact (throw_eq_ok.1 h).elim

/-! ### Functions -/

theorem noFunctionOpen_ok (h : d.noFunctionOpen = .ok ()) : d.current = none := by
  unfold noFunctionOpen at h
  split at h
  · cases h
  · assumption

/-- The variables of an interface are pointers through which data comes in or goes out. -/
theorem interface_ok {vs : List Value} (h : d.interface vs = .ok ()) :
    ∀ v ∈ vs, ∃ t, d.Sees v (.pointer .input t) ∨ d.Sees v (.pointer .output t) := by
  induction vs with
  | nil => simp
  | cons w vs ih =>
      rw [interface, bind_eq_ok] at h
      obtain ⟨t, ht, h⟩ := h
      rw [check_eq_ok] at ht
      rintro v (_ | ⟨_, hv⟩)
      · split at h
        · exact ⟨_, Or.inl ht⟩
        · exact ⟨_, Or.inr ht⟩
        · exact (throw_eq_ok.1 h).elim
      · split at h
        · exact ih h v hv
        · exact ih h v hv
        · exact (throw_eq_ok.1 h).elim

theorem arguments_ok {args : List Value} {parameters : List Id}
    (hlength : args.length = parameters.length) (h : d.arguments args parameters = .ok ()) :
    List.Forall₂ (fun v p => v.type = p ∧ ∃ t, d.Sees v t) args parameters := by
  induction args generalizing parameters with
  | nil =>
      cases parameters with
      | nil => exact .nil
      | cons p ps => cases hlength
  | cons v vs ih =>
      cases parameters with
      | nil => cases hlength
      | cons p ps =>
          rw [arguments, bind_eq_ok] at h
          obtain ⟨t, ht, h⟩ := h
          rw [check_eq_ok] at ht
          by_cases hp : v.type = p
          · rw [if_neg (not_not.2 hp)] at h
            exact .cons ⟨hp, t, ht⟩ (ih (Nat.succ.inj hlength) h)
          · rw [if_pos hp] at h
            simp only [bind_eq_ok, throw_eq_ok, false_and, exists_false, and_false] at h

theorem callOf_ok {function : Id} {args : List Value} {s : Signature}
    (h : d.callOf function args = .ok s) :
    d.callable function = .ok s ∧
      List.Forall₂ (fun v p => v.type = p ∧ ∃ t, d.Sees v t) args s.parameters := by
  unfold callOf at h
  rw [bind_eq_ok] at h
  obtain ⟨s', hs, h⟩ := h
  obtain ⟨hlength, h⟩ := guard_bind_eq_ok.1 h
  rw [bind_eq_ok] at h
  obtain ⟨⟨⟩, hargs, h⟩ := h
  obtain rfl := pure_eq_ok.1 h
  exact ⟨hs, arguments_ok (not_not.1 hlength) hargs⟩

/-- A return with a value has the type of the function, and one without returns from a function
that has no value. -/
theorem returnOperands_ok {result void : Id} {value : Option Value} {operands : List Operand}
    (h : d.returnOperands result void value = .ok operands) :
    (∃ v t, value = some v ∧ d.Sees v t ∧ v.type = result ∧ result ≠ void ∧
        operands = [.id v.id]) ∨
      value = none ∧ result = void ∧ operands = [] := by
  unfold returnOperands at h
  cases value with
  | some v =>
      rw [bind_eq_ok] at h
      obtain ⟨t, ht, h⟩ := h
      rw [check_eq_ok] at ht
      by_cases hmatch : (decide (v.type ≠ result) || result == void) = true
      · simp only [if_pos hmatch, bind_eq_ok, throw_eq_ok, false_and, exists_false,
          and_false] at h
      · simp only [if_neg hmatch, pure_eq_ok] at h
        rw [Bool.or_eq_true, not_or, decide_eq_true_eq, not_not, beq_iff_eq] at hmatch
        exact Or.inl ⟨v, t, rfl, ht, hmatch.1, hmatch.2, h.symm⟩
  | none =>
      by_cases hvoid : result ≠ void
      · simp only [if_pos hvoid, bind_eq_ok, throw_eq_ok, false_and, exists_false,
          and_false] at h
      · simp only [if_neg hvoid, pure_eq_ok] at h
        exact Or.inr ⟨rfl, not_not.1 hvoid, h.symm⟩

end Draft

/-- Resources are pointed to in these storage classes. -/
def StorageClass.holdsResources : StorageClass → Bool
  | .uniformConstant | .uniform | .storageBuffer => true
  | _ => false

/-- The value points to a resource, and nothing is in the slot. -/
structure Draft.MayTake (d : Draft) (v : Value) (set binding : Word) : Prop where
  points : ∃ storage t, storage.holdsResources = true ∧ d.Sees v (.pointer storage t)
  free : d.tables.slots.lookup (set, binding) = none

/-- What is put into a slot points to a resource, and the slot is free. -/
theorem Draft.slotFor_eq_ok_iff {d : Draft} {v : Value} {set binding : Word} :
    d.slotFor v set binding = .ok () ↔ d.MayTake v set binding := by
  unfold slotFor
  rw [bind_eq_ok]
  constructor
  · rintro ⟨t, ht, h⟩
    rw [check_eq_ok] at ht
    split at h
    case h_4 => exact (throw_eq_ok.1 h).elim
    all_goals
      refine ⟨⟨_, _, rfl, ht⟩, ?_⟩
      split at h
      · exact (throw_eq_ok.1 h).elim
      · assumption
  · rintro ⟨⟨storage, t, hstorage, hv⟩, hfree⟩
    refine ⟨_, check_eq_ok.2 hv, ?_⟩
    cases storage with
    | uniformConstant | uniform | storageBuffer =>
        dsimp only
        rw [hfree]
        rfl
    | _ => cases hstorage

end FrameShader
