/-
Swizzling: picking components of one vector, in any order.

One index takes a component out, and several make a vector of what they pick.  These are different
instructions with different checks, the second of which would admit indices up to twice the width.
But all indices are compared with the width before, so both follow the same rule.

Main definitions:

* `FrameShader.Draft.pickedType`, `FrameShader.Draft.pickingOf` — the type of what is picked, and the
  instruction that picks it.

Main results:

* `FrameShader.Draft.swizzle_refused_index`, `FrameShader.Draft.swizzle_refused_width` — when nothing
  is picked;
* `FrameShader.Draft.step_pickingOf` — what the instruction computes;
* `FrameShader.Draft.swizzle_exact` — **what picking components does**.
-/

import FrameShader.Proofs.Draft.Components
import FrameShader.Proofs.Draft.Visibility
import FrameShader.Proofs.Execution.Lanes
import FrameShader.Proofs.Execution.Machine

set_option relaxedAutoImplicit false
set_option autoImplicit false

namespace FrameShader

open Build

/-! ### Indices -/

/-- All indices are below the width, or there is a first one that is not. -/
theorem below_or_first (width : Word) (indices : List Word) :
    (∀ i ∈ indices, i < width) ∨ ∃ before index after, indices = before ++ index :: after ∧
      (∀ i ∈ before, i < width) ∧ width ≤ index := by
  cases hfind : indices.find? (fun index => width ≤ index) with
  | none =>
      refine .inl fun i hi => UInt32.not_le.1 ?_
      simpa using List.find?_eq_none.1 hfind i hi
  | some index =>
      obtain ⟨hindex, before, after, rfl, hbefore⟩ := List.find?_eq_some_iff_append.1 hfind
      refine .inr ⟨before, index, after, rfl, fun i hi => UInt32.not_le.1 ?_, by simpa using hindex⟩
      simpa using hbefore i hi

theorem indicesBelow_of_below {width : Word} {indices : List Word}
    (h : ∀ i ∈ indices, i < width) : indicesBelow width indices = .ok () := by
  have hfind : indices.find? (fun index => width ≤ index) = none := by
    rw [List.find?_eq_none]
    intro i hi
    simpa using UInt32.not_le.2 (h i hi)
  rw [indicesBelow, hfind]

theorem indicesBelow_of_first {width index : Word} {before after : List Word}
    (hbefore : ∀ i ∈ before, i < width) (hindex : width ≤ index) :
    indicesBelow width (before ++ index :: after) = .error (.componentOutOfRange index width) := by
  have hfind : (before ++ index :: after).find? (fun index => width ≤ index) = some index := by
    refine List.find?_eq_some_iff_append.2 ⟨by simpa using hindex, before, after, rfl, fun i hi => ?_⟩
    simpa using UInt32.not_le.2 (hbefore i hi)
  rw [indicesBelow, hfind]

/-- Between two and four indices have a width that modules admit. -/
theorem isVectorWidth_length {indices : List Word} (hsome : 2 ≤ indices.length)
    (hfew : indices.length ≤ 4) : isVectorWidth (UInt32.ofNat indices.length) = true := by
  have hword : (UInt32.ofNat indices.length).toNat = indices.length :=
    UInt32.toNat_ofNat_of_lt' (Nat.lt_of_le_of_lt hfew (by decide))
  rw [isVectorWidth, Bool.and_eq_true, decide_eq_true_eq, decide_eq_true_eq,
    UInt32.le_iff_toNat_le, UInt32.le_iff_toNat_le, hword]
  exact ⟨hsome, hfew⟩

/-- An instruction with a value adds it to what has been computed. -/
theorem Program.step_value {p : Program} {host : Host} {calls : Calls} {state : Progress}
    {i : Instruction} {xs : List Meaning} {y : Meaning} {id : Id} (hanswer : state.answer = none)
    (hxs : i.arguments.mapM (p.lookup? state) = some xs)
    (heffect : p.effect host calls i xs = some (.value y [])) (hid : i.result = some id) :
    p.step host calls state i = some { state with locals := (id, y) :: state.locals } := by
  rw [step_of_effect hanswer hxs heffect]
  simp [Progress.after, hid]

namespace Draft

variable {d d' : Draft} {s : Scalar} {width : Word} {v u : Value} {indices : List Word}

/-! ### What is picked -/

/-- The type of what is picked: a scalar, or a vector. -/
def pickedType (s : Scalar) : List Word → DataType
  | [_] => .scalar s
  | indices => .vector s (UInt32.ofNat indices.length)

/-- The instruction that picks: one component, or several from the same vector twice. -/
def pickingOf (v : Value) (indices : List Word) (u : Value) : Instruction :=
  match indices with
  | [index] => .typed .compositeExtract u.type u.id [.id v.id, .literal index]
  | _ => .typed .vectorShuffle u.type u.id (.id v.id :: .id v.id :: indices.map .literal)

theorem vectorOperand_of_sees {opcode : Opcode} (hv : d.Sees v (.vector s width)) :
    d.vectorOperand opcode v = .ok (s, width) := by
  rw [vectorOperand, check_eq_ok.2 hv]
  rfl

/-- Picking goes on once all indices are found to be below the width. -/
theorem runOn_swizzle (hv : d.Sees v (.vector s width)) :
    (swizzle v indices).runOn d = (ofExcept (indicesBelow width indices) >>= fun _ =>
      match indices with
      | [index] => compositeExtract v index
      | _ => vectorShuffle v v indices).runOn d := by
  unfold swizzle
  rw [runOn_inspect_bind, vectorOperand_of_sees hv]
  rfl

/-- The first index that is not below the width is refused. -/
theorem swizzle_refused_index (hv : d.Sees v (.vector s width)) {before after : List Word}
    {index : Word} (hbefore : ∀ i ∈ before, i < width) (hindex : width ≤ index) :
    (swizzle v (before ++ index :: after)).runOn d =
      (.error (.rejected (.componentOutOfRange index width)), d) := by
  rw [runOn_swizzle hv, indicesBelow_of_first hbefore hindex]
  rfl

theorem runOn_compositeExtract (hv : d.Sees v (.vector s width)) {index : Word}
    (hindex : index < width) :
    (compositeExtract v index).runOn d = (typeId (.scalar s) >>= fun type =>
      emitValue .compositeExtract type [.id v.id, .literal index]).runOn d := by
  have hview : d.extraction v index = .ok s := by
    rw [extraction, vectorOperand_of_sees hv]
    show (if width ≤ index then _ else _) = _
    rw [if_neg (UInt32.not_le.2 hindex)]
    rfl
  rw [compositeExtract, runOn_inspect_bind, hview]
  rfl

/-- The components of one vector, picked from it twice. -/
theorem runOn_vectorShuffle (hd : d.Reachable) (hv : d.Sees v (.vector s width))
    (hbelow : ∀ i ∈ indices, i < width) :
    (vectorShuffle v v indices).runOn d =
      (ofExcept (DataType.vector? s (UInt32.ofNat indices.length)) >>= fun t =>
        typeId t >>= fun type => emitValue .vectorShuffle type
          (.id v.id :: .id v.id :: indices.map .literal)).runOn d := by
  have hfour := hd.width_le hv
  have hbelow' : ∀ i ∈ indices, i < width + width := by
    intro i hi
    have hi := UInt32.lt_iff_toNat_lt.1 (hbelow i hi)
    rw [UInt32.lt_iff_toNat_lt, UInt32.toNat_add]
    omega
  have hview : d.shuffle v v indices = DataType.vector? s (UInt32.ofNat indices.length) := by
    rw [shuffle, check_eq_ok.2 hv]
    show (if s ≠ s then _ else _) = _
    rw [if_neg (not_not.2 rfl), indicesBelow_of_below hbelow']
    rfl
  rw [vectorShuffle, runOn_inspect_bind, hview]

/-- Too few or too many indices are refused. -/
theorem swizzle_refused_width (hd : d.Reachable) (hv : d.Sees v (.vector s width))
    (hshort : indices.length < 2 ^ 32) (hbelow : ∀ i ∈ indices, i < width)
    (hlength : ¬(1 ≤ indices.length ∧ indices.length ≤ 4)) :
    (swizzle v indices).runOn d =
      (.error (.rejected (.invalidVectorWidth (UInt32.ofNat indices.length))), d) := by
  have hwidth : ¬isVectorWidth (UInt32.ofNat indices.length) = true := by
    intro hwidth
    have hword : (UInt32.ofNat indices.length).toNat = indices.length :=
      UInt32.toNat_ofNat_of_lt' hshort
    have hbetween := toNat_of_isVectorWidth hwidth
    omega
  rw [runOn_swizzle hv, indicesBelow_of_below hbelow]
  show Build.runOn (match indices with | [index] => _ | _ => _) d = _
  split
  · exact absurd (by simp) hlength
  · rw [runOn_vectorShuffle hd hv hbelow, DataType.vector?, if_neg hwidth]
    rfl

/-- **Picking components** is asking for the type of what is picked, and adding one instruction. -/
theorem exists_swizzle (hd : d.Reachable) (hv : d.Sees v (.vector s width))
    (hbelow : ∀ i ∈ indices, i < width) (hsome : 1 ≤ indices.length) (hfew : indices.length ≤ 4) :
    ∃ opcode operands, (∀ u : Value, pickingOf v indices u = .typed opcode u.type u.id operands) ∧
      (swizzle v indices).runOn d = (typeId (pickedType s indices) >>= fun type =>
        emitValue opcode type operands).runOn d := by
  rw [runOn_swizzle hv, indicesBelow_of_below hbelow]
  match indices with
  | [] => exact absurd hsome (Nat.not_succ_le_zero 0)
  | [index] =>
      exact ⟨_, _, fun u => rfl, runOn_compositeExtract hv (hbelow index List.mem_cons_self)⟩
  | first :: second :: rest =>
      refine ⟨_, _, fun u => rfl, (runOn_vectorShuffle hd hv hbelow).trans ?_⟩
      rw [DataType.vector?, if_pos (isVectorWidth_length (by simp) hfew)]
      rfl

/-- What is picked can be asked for. -/
theorem settled_pickedType (hd : d.Reachable) (hv : d.Sees v (.vector s width))
    (hsome : 1 ≤ indices.length) (hfew : indices.length ≤ 4) : d.Settled (pickedType s indices) := by
  have hvector := hd.thorough _ (hd.interned hv.2).knows
  have hscalar := hvector.pieces _ List.mem_cons_self
  match indices with
  | [] => exact absurd hsome (Nat.not_succ_le_zero 0)
  | [_] => exact hd.thorough _ hscalar
  | first :: second :: rest =>
      have hadmissible : (pickedType s (first :: second :: rest)).isAdmissible = true := by
        show (isVectorWidth (UInt32.ofNat (first :: second :: rest).length) && s != .void) = true
        rw [isVectorWidth_length (by simp) hfew]
        simpa using (hd.vector hv).2
      exact ⟨hadmissible, List.forall_mem_singleton.2 hscalar⟩

section swizzle

variable {f : OpenFunction}

/-- When all indices are below the width and there is a right number of them, picking succeeds if
there are ids. -/
theorem swizzle_outcomes (hd : d.Reachable) (hf : d.current = some f) (hopen : f.terminated = false)
    (hv : d.Sees v (.vector s width)) (hbelow : ∀ i ∈ indices, i < width)
    (hsome : 1 ≤ indices.length) (hfew : indices.length ≤ 4) :
    (((swizzle v indices).runOn d).1.isOk = true ∧ d.HasRoomForResult (pickedType s indices)) ∨
      ((swizzle v indices).runOn d).1 = .error (.overflow .increment) ∧
        ¬d.HasRoomForResult (pickedType s indices) := by
  obtain ⟨opcode, operands, -, hrun⟩ := exists_swizzle hd hv hbelow hsome hfew
  have hstride : (pickedType s indices).hasStride = true := by
    unfold pickedType
    split <;> rfl
  rw [hrun]
  exact emitTyped_outcomes hd (settled_pickedType hd hv hsome hfew) hstride
    (writable_eq_ok.2 ⟨hf, hopen⟩)

/-- A call that succeeds has picked between one and four components of the vector. -/
theorem of_swizzle (hd : d.Reachable) (hv : d.Sees v (.vector s width))
    (hshort : indices.length < 2 ^ 32) (hrun : (swizzle v indices).runOn d = (.ok u, d')) :
    (1 ≤ indices.length ∧ indices.length ≤ 4) ∧ ∀ i ∈ indices, i < width := by
  rcases below_or_first width indices with hbelow | ⟨before, index, after, rfl, hbefore, hindex⟩
  · refine ⟨?_, hbelow⟩
    by_contra hlength
    cases (swizzle_refused_width hd hv hshort hbelow hlength).symm.trans hrun
  · cases (swizzle_refused_index hv hbefore hindex).symm.trans hrun

/-- **One instruction is added**, next to what asking for the type adds. -/
theorem swizzle_adds (hd : d.Reachable) (hf : d.current = some f)
    (hv : d.Sees v (.vector s width)) (hshort : indices.length < 2 ^ 32)
    (hrun : (swizzle v indices).runOn d = (.ok u, d')) :
    d'.Sees u (pickedType s indices) ∧
      (∃ e, (typeId (pickedType s indices)).runOn d = (.ok u.type, e) ∧
        d'.sections = e.sections) ∧
      ∃ g, d'.current = some g ∧ g.body = f.body ++ [pickingOf v indices u] := by
  obtain ⟨⟨hsome, hfew⟩, hbelow⟩ := of_swizzle hd hv hshort hrun
  obtain ⟨opcode, operands, hpicking, heq⟩ := exists_swizzle hd hv hbelow hsome hfew
  rw [heq] at hrun
  obtain ⟨hsees, hbody⟩ := emitTyped_of_ok hd hf hrun
  obtain ⟨type, e, htype, hemit⟩ := exists_of_bind hrun
  obtain ⟨-, rfl, rfl⟩ := runOn_emitValue_ok hemit
  exact ⟨hsees, ⟨e, htype, rfl⟩, hpicking _ ▸ hbody⟩

end swizzle

/-! ### What is computed -/

/-- **What the instruction computes**: the components of the vector with the given numbers, in the
given order. -/
theorem step_pickingOf {p : Program} {host : Host} {calls : Program.Calls} {state : Program.Progress}
    {x : Meaning} (hanswer : state.answer = none) (hx : p.lookup? state v.id = some x)
    (hsome : 1 ≤ indices.length) (hshort : indices.length < 2 ^ 32)
    (hbelow : ∀ i ∈ indices, i.toNat < x.width) :
    ∃ y, x.Rearranges indices y ∧ p.step host calls state (pickingOf v indices u) =
      some { state with locals := (u.id, y) :: state.locals } := by
  match indices with
  | [] => exact absurd hsome (Nat.not_succ_le_zero 0)
  | [index] =>
      obtain ⟨y, hy, hlanes⟩ := Meaning.exists_pick? (hbelow index List.mem_cons_self)
      have harguments : (pickingOf v [index] u).arguments.mapM (p.lookup? state) = some [x] := by
        show [v.id].mapM _ = _
        rw [List.mapM_cons, hx]
        rfl
      exact ⟨y, hlanes, Program.step_value hanswer harguments
        (Program.effect_compositeExtract hy u.type u.id v.id) rfl⟩
  | first :: second :: rest =>
      obtain ⟨y, hy, hlanes⟩ := Meaning.exists_shuffle? (List.cons_ne_nil _ _) hshort hbelow
      have harguments : (pickingOf v (first :: second :: rest) u).arguments.mapM
          (p.lookup? state) = some [x, x] := by
        rw [pickingOf, Program.arguments_vectorShuffle, List.mapM_cons, List.mapM_cons, hx]
        · rfl
        · nofun
      exact ⟨y, hlanes, Program.step_value hanswer harguments
        (Program.effect_vectorShuffle hy u.type u.id v.id v.id) rfl⟩

/-! ### What picking does -/

/-- **What picking components does.**  On any draft that calls lead to, if a function is open and has
not returned, and if the vector can be seen:

* it succeeds just if there are between one and four indices, all of them below the width of the
  vector, and there are ids for the type of what is picked and for the result;
* the first index that is not below the width is refused, and nothing has changed;
* if all indices are below the width, too few or too many of them are refused as a width that no
  vector has, and nothing has changed;
* it does not fail in any other way, unless the ids run out;
* if it succeeds, then the result is a scalar for one index, and for more a vector with as many
  components; one instruction is added to the function, and nothing else but what asking for the
  type adds; and wherever the vector stands for something with as many lanes as it has components,
  running this instruction gives the result its lanes with these numbers, in this order. -/
theorem swizzle_exact {f : OpenFunction} (hd : d.Reachable) (hf : d.current = some f)
    (hopen : f.terminated = false) (hv : d.Sees v (.vector s width))
    (hshort : indices.length < 2 ^ 32) :
    (((swizzle v indices).runOn d).1.isOk = true ↔ (1 ≤ indices.length ∧ indices.length ≤ 4) ∧
      (∀ i ∈ indices, i < width) ∧ d.HasRoomForResult (pickedType s indices)) ∧
    (∀ before index after, indices = before ++ index :: after → (∀ i ∈ before, i < width) →
      width ≤ index → (swizzle v indices).runOn d =
        (.error (.rejected (.componentOutOfRange index width)), d)) ∧
    ((∀ i ∈ indices, i < width) → ¬(1 ≤ indices.length ∧ indices.length ≤ 4) →
      (swizzle v indices).runOn d =
        (.error (.rejected (.invalidVectorWidth (UInt32.ofNat indices.length))), d)) ∧
    ((∀ i ∈ indices, i < width) → 1 ≤ indices.length ∧ indices.length ≤ 4 →
      ¬d.HasRoomForResult (pickedType s indices) →
        ((swizzle v indices).runOn d).1 = .error (.overflow .increment)) ∧
    (∀ u d', (swizzle v indices).runOn d = (.ok u, d') →
      d'.Sees u (pickedType s indices) ∧
      (∃ e, (typeId (pickedType s indices)).runOn d = (.ok u.type, e) ∧ d'.sections = e.sections) ∧
      (∃ g, d'.current = some g ∧ g.body = f.body ++ [pickingOf v indices u]) ∧
      ∀ (p : Program) (host : Host) (calls : Program.Calls) (state : Program.Progress) (x : Meaning),
        state.answer = none → p.lookup? state v.id = some x → x.width = width.toNat →
          ∃ y, x.Rearranges indices y ∧ p.step host calls state (pickingOf v indices u) =
            some { state with locals := (u.id, y) :: state.locals }) := by
  refine ⟨⟨fun hok => ?_, ?_⟩, ?_, swizzle_refused_width hd hv hshort, fun hbelow hlength hfull => ?_,
    fun u d' hrun => ?_⟩
  · obtain ⟨u, d', hrun⟩ := exists_of_isOk hok
    obtain ⟨hlength, hbelow⟩ := of_swizzle hd hv hshort hrun
    refine ⟨hlength, hbelow, ?_⟩
    rcases swizzle_outcomes hd hf hopen hv hbelow hlength.1 hlength.2 with ⟨-, hroom⟩ | ⟨herror, -⟩
    · exact hroom
    · rw [herror] at hok
      cases hok
  · rintro ⟨⟨hsome, hfew⟩, hbelow, hroom⟩
    exact ((swizzle_outcomes hd hf hopen hv hbelow hsome hfew).resolve_right
      fun hfull => hfull.2 hroom).1
  · rintro before index after rfl hbefore hindex
    exact swizzle_refused_index hv hbefore hindex
  · exact ((swizzle_outcomes hd hf hopen hv hbelow hlength.1 hlength.2).resolve_left
      fun hok => hfull hok.2).1
  · obtain ⟨hsees, htype, hbody⟩ := swizzle_adds hd hf hv hshort hrun
    obtain ⟨⟨hsome, -⟩, hbelow⟩ := of_swizzle hd hv hshort hrun
    refine ⟨hsees, htype, hbody, fun p host calls state x hanswer hx hwidth => ?_⟩
    exact step_pickingOf hanswer hx hsome hshort fun i hi =>
      hwidth ▸ UInt32.lt_iff_toNat_lt.1 (hbelow i hi)

/-- A draft with a function of four numbers. -/
def rowDraft : Draft :=
  (empty {}).after [.beginFunction "f" .void [.vector (.float 32) 4] .none]

/-- Three of the numbers are picked in reverse.  Of two indices that are too large, the first is
refused. -/
theorem swizzle_exact_of_row : rowDraft.Reachable ∧
    (∃ u d', (swizzle ⟨6, 4⟩ [2, 1, 0]).runOn rowDraft = (.ok u, d') ∧
      d'.Sees u (.vector (.float 32) 3)) ∧
    (swizzle ⟨6, 4⟩ [0, 7, 9]).runOn rowDraft =
      (.error (.rejected (.componentOutOfRange 7 4)), rowDraft) := by
  have hd : rowDraft.Reachable := ⟨{}, _, rfl⟩
  have hterminated : rowDraft.current.map (·.terminated) = some false := by decide +kernel
  obtain ⟨f, hf, hopen⟩ := Option.map_eq_some_iff.1 hterminated
  have hv : rowDraft.Sees ⟨6, 4⟩ (.vector (.float 32) 4) := ⟨by decide +kernel, by decide +kernel⟩
  obtain ⟨hok, -, -, -, hanswer⟩ :=
    swizzle_exact hd hf hopen hv (show ([2, 1, 0] : List Word).length < 2 ^ 32 by decide)
  obtain ⟨u, d', hrun⟩ := exists_of_isOk (hok.2 ⟨by decide, by simp, by decide +kernel⟩)
  obtain ⟨-, hrefused, -⟩ :=
    swizzle_exact hd hf hopen hv (show ([0, 7, 9] : List Word).length < 2 ^ 32 by decide)
  exact ⟨hd, ⟨u, d', hrun, (hanswer u d' hrun).1⟩,
    hrefused [0] 7 [9] rfl (by simp) (by decide)⟩

end Draft

end FrameShader
