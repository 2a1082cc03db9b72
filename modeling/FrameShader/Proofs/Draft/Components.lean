/-
Components: which of the indices into vectors and records are compared with how many there are.

A component that is taken out of a vector has a number below the width of the vector, and so have
the components of two vectors that are picked together.  The number of a member of a record is below
the number of its members.  But where an access chain goes into a vector, its index is not compared
with anything.  Whatever integer it is, and even if it is a constant, the answer is the same.

Main results:

* `FrameShader.Draft.WalksTo.append_iff` — a walk is two walks, one after the other;
* `FrameShader.Draft.accessChain_component` — **any integer is as good as another** behind a vector;
* `FrameShader.Draft.components_compared` — **which indices are compared**;
* `FrameShader.Draft.not_below_width` — those of access chains into vectors are not.
-/

import FrameShader.Proofs.Draft.Walking

set_option relaxedAutoImplicit false
set_option autoImplicit false

namespace FrameShader

open Build

namespace Draft

variable {d d' : Draft} {t u part : DataType} {v index : Value}
  {indices before after : List Value}

/-! ### Walks in two parts -/

/-- A walk is two walks, one after the other. -/
theorem WalksTo.append_iff : d.WalksTo t (before ++ after) part ↔
    ∃ u, d.WalksTo t before u ∧ d.WalksTo u after part := by
  induction before generalizing t with
  | nil =>
      refine ⟨fun h => ⟨t, .here t, h⟩, ?_⟩
      rintro ⟨u, _ | _, h⟩
      exact h
  | cons index before ih =>
      constructor
      · rintro (_ | ⟨hindex, hrest⟩)
        obtain ⟨u, hbefore, hafter⟩ := ih.1 hrest
        exact ⟨u, .step hindex hbefore, hafter⟩
      · rintro ⟨u, _ | ⟨hindex, hbefore⟩, hafter⟩
        exact .step hindex (ih.2 ⟨u, hbefore, hafter⟩)

/-- How a walk goes on from where its first indices lead. -/
theorem WalksTo.rest (hd : d.Reachable) (h : d.WalksTo t (before ++ after) part)
    (hbefore : d.WalksTo t before u) : d.WalksTo u after part := by
  obtain ⟨w, hw, hafter⟩ := WalksTo.append_iff.1 h
  obtain rfl := hw.unique hd hbefore
  exact hafter

/-- Nothing is reached from a number but the number. -/
theorem WalksTo.of_scalar {s : Scalar} (h : d.WalksTo (.scalar s) indices part) :
    indices = [] ∧ part = .scalar s := by
  cases h with
  | here => exact ⟨rfl, rfl⟩
  | step hindex => cases hindex

/-- A constant that selects a member of a record is below the number of its members. -/
theorem Enters.exists_number {members : List DataType} (h : d.Enters (.record members) index part) :
    ∃ value, d.HoldsBits value index ∧ value.number < members.length := by
  cases h with
  | member hvalue _ hpart => exact ⟨_, hvalue, (List.getElem?_eq_some_iff.1 hpart).1⟩

/-! ### Access chains -/

section accessChain

variable {base : Value} {storage : StorageClass} {pointee : DataType}

/-- A chain that succeeds has walked. -/
theorem exists_walksTo_of_accessChain (hd : d.Reachable)
    (hrun : (accessChain base indices).runOn d = (.ok v, d')) :
    ∃ storage pointee part, d.Sees base (.pointer storage pointee) ∧
      (∀ v ∈ indices, d.SeesInteger v) ∧ d.WalksTo pointee indices part := by
  obtain ⟨t, haccess, -⟩ := exists_of_inspect hrun
  obtain ⟨storage, pointee, part, hbase, hwalk, -⟩ := access_ok haccess
  obtain ⟨hindices, hwalks⟩ := hd.walk_eq_ok_iff.1 hwalk
  exact ⟨storage, pointee, part, hbase, hindices, hwalks⟩

/-- The answer of an instruction does not depend on its operands. -/
theorem exists_emitTyped {opcode : Opcode} {operands : List Operand}
    (hrun : (typeId t >>= fun type => emitValue opcode type operands).runOn d = (.ok v, d'))
    (operands' : List Operand) :
    ∃ e, (typeId t >>= fun type => emitValue opcode type operands').runOn d = (.ok v, e) := by
  obtain ⟨type, e, htype, hemit⟩ := exists_of_bind hrun
  obtain ⟨⟨f, hf⟩, -, -⟩ := runOn_emitValue_ok hemit
  rw [runOn_bind_of_ok htype, runOn_emitValue hf]
  rw [runOn_emitValue hf] at hemit
  by_cases hroom : e.nextId.toNat + 1 < UInt32.size
  · rw [if_pos hroom] at hemit ⊢
    cases hemit
    exact ⟨_, rfl⟩
  · rw [if_neg hroom] at hemit
    cases hemit

/-- The answer of a chain depends on the part that is reached, and not on the way. -/
theorem exists_accessChain (hd : d.Reachable) {others : List Value}
    (hbase : d.Sees base (.pointer storage pointee)) (hindices : ∀ v ∈ indices, d.SeesInteger v)
    (hwalks : d.WalksTo pointee indices part) (hothers : ∀ v ∈ others, d.SeesInteger v)
    (hwalks' : d.WalksTo pointee others part)
    (hrun : (accessChain base indices).runOn d = (.ok v, d')) :
    ∃ e, (accessChain base others).runOn d = (.ok v, e) := by
  rw [runOn_accessChain_of_ok hbase (hd.walk_of_walksTo hindices hwalks)] at hrun
  rw [runOn_accessChain_of_ok hbase (hd.walk_of_walksTo hothers hwalks')]
  exact exists_emitTyped hrun _

/-- **Any integer is as good as another** behind a vector, and the walk ends there. -/
theorem accessChain_component (hd : d.Reachable) {s : Scalar} {width : Word}
    (hbase : d.Sees base (.pointer storage pointee)) (hindices : ∀ v ∈ indices, d.SeesInteger v)
    (hwalks : d.WalksTo pointee indices part) (hsplit : indices = before ++ index :: after)
    (hbefore : d.WalksTo pointee before (.vector s width))
    (hrun : (accessChain base indices).runOn d = (.ok v, d')) :
    after = [] ∧ part = .scalar s ∧ ∀ other, d.SeesInteger other →
      ∃ e, (accessChain base (before ++ [other])).runOn d = (.ok v, e) := by
  have hrest : d.WalksTo (.vector s width) (index :: after) part :=
    WalksTo.rest hd (hsplit ▸ hwalks) hbefore
  cases hrest with
  | step hcomponent hafter =>
      cases hcomponent
      obtain ⟨rfl, rfl⟩ := hafter.of_scalar
      refine ⟨rfl, rfl, fun other hother => ?_⟩
      have hothers : ∀ v ∈ before ++ [other], d.SeesInteger v := by
        rw [hsplit] at hindices
        exact List.forall_mem_append.2
          ⟨(List.forall_mem_append.1 hindices).1, List.forall_mem_singleton.2 hother⟩
      have hwalks' : d.WalksTo pointee (before ++ [other]) (.scalar s) :=
        WalksTo.append_iff.2 ⟨_, hbefore, .step (.component s width other) (.here _)⟩
      exact exists_accessChain hd hbase hindices hwalks hothers hwalks' hrun

end accessChain

/-! ### What is compared -/

/-- A vector that can be seen is one that modules admit. -/
theorem Reachable.vector (hd : d.Reachable) {s : Scalar} {width : Word}
    (hv : d.Sees v (.vector s width)) : isVectorWidth width = true ∧ s ≠ .void := by
  have hadmissible := (hd.thorough _ (hd.interned hv.2).knows).admissible
  simpa [DataType.isAdmissible] using hadmissible

/-- The width of a vector that can be seen. -/
theorem Reachable.width_le (hd : d.Reachable) {s : Scalar} {width : Word}
    (hv : d.Sees v (.vector s width)) : width.toNat ≤ 4 :=
  (toNat_of_isVectorWidth (hd.vector hv).1).2

/-- The number of a component that is taken out. -/
theorem compositeExtract_compared {i : Word}
    (hrun : (compositeExtract v i).runOn d = (.ok index, d')) :
    ∃ s width, d.Sees v (.vector s width) ∧ i < width := by
  obtain ⟨s, hcheck, -⟩ := exists_of_inspect hrun
  obtain ⟨width, hv, hi⟩ := extraction_ok hcheck
  exact ⟨s, width, hv, hi⟩

/-- The numbers of components that are picked from two vectors. -/
theorem vectorShuffle_compared (hd : d.Reachable) {a b : Value} {is : List Word}
    (hrun : (vectorShuffle a b is).runOn d = (.ok v, d')) :
    ∃ s m n, d.Sees a (.vector s m) ∧ d.Sees b (.vector s n) ∧
      ∀ i ∈ is, i.toNat < m.toNat + n.toNat := by
  obtain ⟨t, hcheck, -⟩ := exists_of_inspect hrun
  obtain ⟨s, m, n, ha, hb, hbelow, -⟩ := shuffle_ok hcheck
  refine ⟨s, m, n, ha, hb, fun i hi => ?_⟩
  have hsum : (m + n).toNat = m.toNat + n.toNat := by
    have hm := hd.width_le ha
    have hn := hd.width_le hb
    rw [UInt32.toNat_add]
    omega
  exact hsum ▸ UInt32.lt_iff_toNat_lt.1 (hbelow i hi)

/-- **Which indices are compared** with how many components or members there are.  On any draft that
calls lead to:

* if an access chain succeeds, then wherever it goes into a record, the index is a constant below
  the number of members; wherever it goes into a vector, the walk ends, and with any other integer
  in this place the answer is the same;
* if a component is taken out of a vector, its number is below the width of the vector;
* if components are picked from two vectors, their numbers are below both widths together. -/
theorem components_compared (hd : d.Reachable) :
    (∀ base indices v d', (accessChain base indices).runOn d = (.ok v, d') →
      ∃ storage pointee part, d.Sees base (.pointer storage pointee) ∧
        d.WalksTo pointee indices part ∧ ∀ before index after, indices = before ++ index :: after →
          (∀ members, d.WalksTo pointee before (.record members) →
            ∃ value, d.HoldsBits value index ∧ value.number < members.length) ∧
          ∀ s width, d.WalksTo pointee before (.vector s width) →
            after = [] ∧ part = .scalar s ∧ ∀ other, d.SeesInteger other →
              ∃ e, (accessChain base (before ++ [other])).runOn d = (.ok v, e)) ∧
    (∀ vector i v d', (compositeExtract vector i).runOn d = (.ok v, d') →
      ∃ s width, d.Sees vector (.vector s width) ∧ i < width) ∧
    (∀ a b is v d', (vectorShuffle a b is).runOn d = (.ok v, d') →
      ∃ s m n, d.Sees a (.vector s m) ∧ d.Sees b (.vector s n) ∧
        ∀ i ∈ is, i.toNat < m.toNat + n.toNat) := by
  refine ⟨fun base indices v d' hrun => ?_, fun vector i v d' => compositeExtract_compared,
    fun a b is v d' => vectorShuffle_compared hd⟩
  obtain ⟨storage, pointee, part, hbase, hindices, hwalks⟩ := exists_walksTo_of_accessChain hd hrun
  refine ⟨storage, pointee, part, hbase, hwalks, fun before index after hsplit =>
    ⟨fun members hbefore => ?_, fun s width hbefore => ?_⟩⟩
  · have hrest : d.WalksTo (.record members) (index :: after) part :=
      WalksTo.rest hd (hsplit ▸ hwalks) hbefore
    cases hrest with
    | step hmember _ => exact hmember.exists_number
  · exact accessChain_component hd hbase hindices hwalks hsplit hbefore hrun

/-- A draft with a vector in a variable, a constant that is larger than its width, a smaller one,
and a function. -/
def vectorDraft : Draft :=
  (empty {}).after
    [.globalVariable .privateStore (.vector (.float 32) 4), .constUInt 7, .constUInt 0,
      .beginFunction "f" .void [] .none]

/-- Behind the vector, both constants give the same answer. -/
theorem components_compared_of_vector :
    vectorDraft.Reachable ∧ ∃ v e e',
      (accessChain ⟨4, 3⟩ [⟨6, 5⟩]).runOn vectorDraft = (.ok v, e) ∧
      (accessChain ⟨4, 3⟩ [⟨7, 5⟩]).runOn vectorDraft = (.ok v, e') := by
  have hd : vectorDraft.Reachable := ⟨{}, _, rfl⟩
  have hok : ((accessChain ⟨4, 3⟩ [⟨6, 5⟩]).runOn vectorDraft).1.isOk = true := by
    decide +kernel
  have hvector : vectorDraft.tables.dataTypes.lookup 3 =
      some (.pointer .privateStore (.vector (.float 32) 4)) := by
    decide +kernel
  have hzero : vectorDraft.SeesInteger ⟨7, 5⟩ :=
    ⟨.uint32, ⟨by decide +kernel, by decide +kernel⟩, rfl⟩
  obtain ⟨v, e, hrun⟩ := exists_of_isOk hok
  obtain ⟨storage, pointee, part, hbase, -, hall⟩ := (components_compared hd).1 _ _ v e hrun
  obtain ⟨-, rfl⟩ := DataType.pointer.inj (Option.some.inj (hbase.2.symm.trans hvector))
  obtain ⟨-, -, hother⟩ := (hall [] _ [] rfl).2 _ _ (.here _)
  obtain ⟨e', hrun'⟩ := hother ⟨7, 5⟩ hzero
  exact ⟨hd, v, e, e', hrun, hrun'⟩

/-- **The index of an access chain into a vector may be a constant that is too large.** -/
theorem not_below_width : ¬ ∀ d : Draft, d.Reachable → ∀ (base : Value) (indices : List Value)
    (v : Value) (d' : Draft), (accessChain base indices).runOn d = (.ok v, d') →
      ∀ storage pointee, d.Sees base (.pointer storage pointee) →
        ∀ before index after s width value, indices = before ++ index :: after →
          d.WalksTo pointee before (.vector s width) → d.HoldsBits value index →
            value.number < width.toNat := by
  intro hall
  have hd : vectorDraft.Reachable := ⟨{}, _, rfl⟩
  have hok : ((accessChain ⟨4, 3⟩ [⟨6, 5⟩]).runOn vectorDraft).1.isOk = true := by
    decide +kernel
  have hbase : vectorDraft.Sees ⟨4, 3⟩ (.pointer .privateStore (.vector (.float 32) 4)) :=
    ⟨by decide +kernel, by decide +kernel⟩
  have hseven : vectorDraft.Sees ⟨6, 5⟩ .uint32 := ⟨by decide +kernel, by decide +kernel⟩
  have hvalue : vectorDraft.HoldsBits (.bits32 7) ⟨6, 5⟩ :=
    (hd.literal?_eq_some_iff hseven).1 (by decide +kernel)
  obtain ⟨v, d', hrun⟩ := exists_of_isOk hok
  have hbelow := hall _ hd _ _ v d' hrun _ _ hbase [] _ [] _ _ _ rfl (.here _) hvalue
  exact absurd hbelow (by decide)

end Draft

end FrameShader
