/-
Walking: which part of a type the indices of an access chain reach.

Every index goes one level down.  A vector and an array have components and elements of one type, so
any integer will do.  The members of a record have different types, so there the index has to be a
constant, and all of its bits count as the number of the member.  How many members there are is
counted in a word, so of a record with more members than that only some can be reached.  The walk
goes on from the member that was found, or it stops, and then the index at which it stops tells what
is wrong.

Main definitions:

* `FrameShader.Draft.HoldsBits` — a value that is a scalar constant with these bits;
* `FrameShader.Draft.Enters`, `FrameShader.Draft.WalksTo` — one index, and several;
* `FrameShader.Draft.Stops`, `FrameShader.Draft.StopsAlong` — what is wrong with an index, and
  where;
* `FrameShader.Draft.HasRoomForResult` — there are ids for an instruction and for the type of its
  result.

Main results:

* `FrameShader.Draft.Reachable.literal?_eq_some_iff` — the bits that are found are those of a
  constant;
* `FrameShader.Draft.Reachable.walk_eq_ok_iff`, `FrameShader.Draft.Reachable.walk_eq_error_iff` —
  **where a walk leads, and where it stops**;
* `FrameShader.Draft.emitTyped_outcomes` — when an instruction is added whose type is made of known
  types;
* `FrameShader.Draft.accessChain_exact` — **what an access chain does**.
-/

import FrameShader.Proofs.Draft.Conversion
import FrameShader.Proofs.Draft.Missing
import FrameShader.Proofs.Draft.Refusing

set_option relaxedAutoImplicit false
set_option autoImplicit false

namespace FrameShader

open Build

/-- The type of integers of some width. -/
def DataType.isInteger : DataType → Bool
  | .scalar (.int _ _) => true
  | _ => false

/-- An index reaches a part of such a type. -/
def DataType.isComposite : DataType → Bool
  | .record _ | .runtimeArray _ | .vector _ _ => true
  | _ => false

/-- The bits as an unsigned number, all of them. -/
def Literal.number (value : Literal) : Nat := value.toUInt64.toNat

/-- The number as a word; the largest word stands for the numbers that are too large. -/
def Literal.clamped (value : Literal) : Word :=
  if value.number < UInt32.size then UInt32.ofNat value.number else 0xFFFFFFFF

namespace Draft

variable {d d' : Draft} {t u part : DataType} {v index : Value} {value : Literal}

/-! ### Where an index leads -/

/-- The value can be seen and is an integer. -/
def SeesInteger (d : Draft) (v : Value) : Prop := ∃ t, d.Sees v t ∧ t.isInteger = true

/-- The value is a scalar constant with these bits. -/
def HoldsBits (d : Draft) (value : Literal) (v : Value) : Prop := ∃ t, d.Holds (.scalar t value) v

/-- The index reaches this part of a type.  It selects the member of a record by its number, which
is below the number of members, as a word. -/
inductive Enters (d : Draft) : DataType → Value → DataType → Prop
  | member {members : List DataType} {index : Value} {value : Literal} {part : DataType}
      (hvalue : d.HoldsBits value index)
      (hcount : value.number < (UInt32.ofNat members.length).toNat)
      (hpart : members[value.number]? = some part) : Enters d (.record members) index part
  | element (element : DataType) (index : Value) : Enters d (.runtimeArray element) index element
  | component (s : Scalar) (width : Word) (index : Value) :
      Enters d (.vector s width) index (.scalar s)

/-- The indices reach this part of a type, one level each. -/
inductive WalksTo (d : Draft) : DataType → List Value → DataType → Prop
  | here (t : DataType) : WalksTo d t [] t
  | step {t u part : DataType} {index : Value} {indices : List Value} (h : d.Enters t index u)
      (h' : WalksTo d u indices part) : WalksTo d t (index :: indices) part

/-- What is wrong with an index that reaches no part of the type. -/
inductive Stops (d : Draft) (t : DataType) (index : Value) : BuildError → Prop
  | notInteger {u : DataType} (hindex : d.Sees index u) (hu : u.isInteger = false) :
      Stops d t index (.typeMismatch .accessChain "integer index" u.text)
  | notConstant {members : List DataType} (hindex : d.SeesInteger index) (ht : t = .record members)
      (hvalue : ∀ value, ¬d.HoldsBits value index) :
      Stops d t index (.typeMismatch .accessChain "constant struct member index" (idText index.id))
  | outOfRange {members : List DataType} {value : Literal} (hindex : d.SeesInteger index)
      (ht : t = .record members) (hvalue : d.HoldsBits value index)
      (hrange : (UInt32.ofNat members.length).toNat ≤ value.number) :
      Stops d t index (.componentOutOfRange value.clamped (UInt32.ofNat members.length))
  | notComposite (hindex : d.SeesInteger index) (ht : t.isComposite = false) :
      Stops d t index (.typeMismatch .accessChain "composite" t.text)

/-- Some indices reach a part of the type, and the next one reaches nothing from there. -/
def StopsAlong (d : Draft) (t : DataType) (indices : List Value) (cause : BuildError) : Prop :=
  ∃ before index after u, indices = before ++ index :: after ∧ (∀ v ∈ before, d.SeesInteger v) ∧
    d.WalksTo t before u ∧ d.Stops u index cause

/-! ### Constants and their bits -/

/-- What stands among the globals is a constant that is found again. -/
theorem holds_of_mem {ids : List Id} (hunique : Account.Unique ⟨d, ids⟩)
    (ha : Account.Consistent ⟨d, ids⟩) {c : Constant} {type id : Id}
    (htype : d.Interned c.type type) (hmem : c.definition type id ∈ d.sections.globals) :
    d.Holds c ⟨id, type⟩ := by
  have hconstants : d.tables.constants = rowsOf Instruction.constantRow? d.sections.globals :=
    ha.constants
  refine ⟨htype, lookup_eq_some_of_mem hunique.constants ?_⟩
  rw [hconstants, mem_rowsOf]
  exact ⟨_, hmem, c.constantRow?_definition type id⟩

/-- Bits that are found are those of a constant. -/
theorem holdsBits_of_literal? {ids : List Id} (hunique : Account.Unique ⟨d, ids⟩)
    (ha : Account.Consistent ⟨d, ids⟩) (hv : d.Sees v t) (h : d.literal? v.id = some value) :
    d.HoldsBits value v := by
  have hliterals : d.tables.literals = rowsOf Instruction.literalRow? d.sections.globals :=
    ha.literals
  have hrow := mem_of_lookup_eq_some h
  rw [hliterals, mem_rowsOf] at hrow
  obtain ⟨i, hi, hrow⟩ := hrow
  cases ha.entry hi with
  | type ht =>
      rw [ht.literalRow?] at hrow
      cases hrow
  | «variable» => cases hrow
  | @constant c type htype id =>
      cases c with
      | bool b => cases b <;> cases hrow
      | composite => cases hrow
      | scalar t bits =>
          have hbits : (id, bits) = (v.id, value) := by
            cases bits <;> exact Option.some.inj hrow
          obtain ⟨rfl, rfl⟩ := Prod.mk.inj hbits
          have hseen :=
            ha.typeOf?_of_mem hi ((Constant.scalar t bits).valueRow?_definition type v.id)
          obtain rfl := Option.some.inj (hseen.symm.trans hv.1)
          exact ⟨t, holds_of_mem hunique ha htype hi⟩

/-- **The bits that are found are those of a constant.** -/
theorem Reachable.literal?_eq_some_iff (hd : d.Reachable) (hv : d.Sees v t) :
    d.literal? v.id = some value ↔ d.HoldsBits value v := by
  obtain ⟨settings, ⟨d, ids⟩, rfl, ha, hchanges⟩ := hd.exists_account
  have hunique : Account.Unique ⟨d, ids⟩ := hchanges.unique (.empty settings)
  refine ⟨holdsBits_of_literal? hunique ha hv, ?_⟩
  rintro ⟨u, hu⟩
  have hliterals : d.tables.literals = rowsOf Instruction.literalRow? d.sections.globals :=
    ha.literals
  have hrow : (v.id, value) ∈ d.tables.literals := by
    rw [hliterals, mem_rowsOf]
    refine ⟨_, ha.definition_mem hu, ?_⟩
    cases value <;> rfl
  cases hfound : d.literal? v.id with
  | none => exact absurd rfl (bne_iff_ne.1 (List.lookup_eq_none_iff.1 hfound _ hrow))
  | some other =>
      obtain ⟨w, hw⟩ := holdsBits_of_literal? hunique ha hv hfound
      cases (ha.holds_inj hu hw).1 rfl
      rfl

/-- A value has the bits of one constant. -/
theorem Reachable.holdsBits_unique (hd : d.Reachable) {other : Literal} (h : d.HoldsBits value v)
    (h' : d.HoldsBits other v) : value = other := by
  obtain ⟨settings, ⟨d, ids⟩, rfl, ha, -⟩ := hd.exists_account
  obtain ⟨t, ht⟩ := h
  obtain ⟨u, hu⟩ := h'
  cases (ha.holds_inj ht hu).1 rfl
  rfl

/-! ### One index -/

section selectedMember

variable {members : List DataType} {id : Id}

/-- A number below the number of members selects one of them. -/
theorem selectedMember_of_lt (h : d.literal? id = some value)
    (hcount : value.number < (UInt32.ofNat members.length).toNat)
    (hpart : members[value.number]? = some part) : d.selectedMember members id = .ok part := by
  have hword : ¬UInt32.size ≤ value.toUInt64.toNat :=
    Nat.not_le.2 (Nat.lt_trans hcount (UInt32.toNat_lt _))
  obtain ⟨hlength, rfl⟩ := List.getElem?_eq_some_iff.1 hpart
  unfold selectedMember
  rw [h]
  exact (if_neg hword).trans (dif_pos hcount)

/-- Any other number is out of range. -/
theorem selectedMember_of_le (h : d.literal? id = some value)
    (hrange : (UInt32.ofNat members.length).toNat ≤ value.number) :
    d.selectedMember members id =
      .error (.componentOutOfRange value.clamped (UInt32.ofNat members.length)) := by
  unfold selectedMember
  rw [h, Literal.clamped]
  by_cases hword : value.number < UInt32.size
  · rw [if_pos hword]
    exact (if_neg (Nat.not_le.2 hword)).trans (dif_neg (Nat.not_lt.2 hrange))
  · rw [if_neg hword]
    exact if_pos (Nat.not_lt.1 hword)

end selectedMember

/-- An index that is an integer is not looked at any further, unless it selects a member. -/
theorem stepInto_eq (h : d.SeesInteger index) : d.stepInto t index =
    match t with
    | .record members => d.selectedMember members index.id
    | .runtimeArray element => .ok element
    | .vector s _ => .ok (.scalar s)
    | other => .error (.typeMismatch .accessChain "composite" other.text) := by
  obtain ⟨u, hu, hinteger⟩ := h
  have hcheck : d.check .accessChain index = .ok u := check_eq_ok.2 hu
  cases u with
  | scalar s =>
      cases s with
      | int width signed =>
          unfold stepInto
          rw [hcheck]
          cases t <;> rfl
      | _ => cases hinteger
  | _ => cases hinteger

namespace Reachable

theorem stepInto_of_enters (hd : d.Reachable) (hindex : d.SeesInteger index)
    (h : d.Enters t index part) : d.stepInto t index = .ok part := by
  rw [stepInto_eq hindex]
  cases h with
  | element | component => rfl
  | member hvalue hcount hpart =>
      obtain ⟨u, hu, -⟩ := hindex
      exact selectedMember_of_lt ((hd.literal?_eq_some_iff hu).2 hvalue) hcount hpart

theorem stepInto_of_stops (hd : d.Reachable) {cause : BuildError} (h : d.Stops t index cause) :
    d.stepInto t index = .error cause := by
  cases h with
  | @notInteger u hindex hu =>
      have hcheck : d.check .accessChain index = .ok u := check_eq_ok.2 hindex
      unfold stepInto
      rw [hcheck]
      cases u with
      | scalar s =>
          cases s with
          | int => cases hu
          | _ => rfl
      | _ => rfl
  | @notConstant members hindex ht hvalue =>
      subst ht
      rw [stepInto_eq hindex]
      obtain ⟨u, hu, -⟩ := hindex
      have hnone : d.literal? index.id = none := by
        cases hfound : d.literal? index.id with
        | none => rfl
        | some value => exact absurd ((hd.literal?_eq_some_iff hu).1 hfound) (hvalue value)
      show d.selectedMember members index.id = _
      rw [selectedMember, hnone]
  | @outOfRange members value hindex ht hvalue hrange =>
      subst ht
      rw [stepInto_eq hindex]
      obtain ⟨u, hu, -⟩ := hindex
      exact selectedMember_of_le ((hd.literal?_eq_some_iff hu).2 hvalue) hrange
  | notComposite hindex ht =>
      rw [stepInto_eq hindex]
      cases t with
      | record | runtimeArray | vector => cases ht
      | _ => rfl

end Reachable

/-- **An index reaches a part, or something is wrong with it.** -/
theorem exists_enters_or_stops (t : DataType) (hindex : d.Sees index u) :
    (d.SeesInteger index ∧ ∃ part, d.Enters t index part) ∨ ∃ cause, d.Stops t index cause := by
  by_cases hinteger : u.isInteger = true
  · have hsees : d.SeesInteger index := ⟨u, hindex, hinteger⟩
    cases t with
    | runtimeArray element => exact .inl ⟨hsees, element, .element element index⟩
    | vector s width => exact .inl ⟨hsees, .scalar s, .component s width index⟩
    | record members =>
        by_cases hconstant : ∃ value, d.HoldsBits value index
        · obtain ⟨value, hvalue⟩ := hconstant
          by_cases hcount : value.number < (UInt32.ofNat members.length).toNat
          · have hlength : value.number < members.length :=
              Nat.lt_of_lt_of_le hcount (Word.toNat_ofNat_le _)
            have hpart := List.getElem?_eq_getElem hlength
            exact .inl ⟨hsees, _, .member hvalue hcount hpart⟩
          · exact .inr ⟨_, .outOfRange hsees rfl hvalue (Nat.not_lt.1 hcount)⟩
        · exact .inr ⟨_, .notConstant hsees rfl (not_exists.1 hconstant)⟩
    | _ => exact .inr ⟨_, .notComposite hsees rfl⟩
  · exact .inr ⟨_, .notInteger hindex (Bool.eq_false_iff.2 hinteger)⟩

/-! ### Several indices -/

variable {indices : List Value} {cause : BuildError}

namespace Reachable

theorem walk_of_walksTo (hd : d.Reachable) (hindices : ∀ v ∈ indices, d.SeesInteger v)
    (h : d.WalksTo t indices part) : d.walk t indices = .ok part := by
  induction h with
  | here => rfl
  | step h _ ih =>
      obtain ⟨hindex, hindices⟩ := List.forall_mem_cons.1 hindices
      rw [walk, hd.stepInto_of_enters hindex h]
      exact ih hindices

theorem walk_of_stops (hd : d.Reachable) (h : d.StopsAlong t indices cause) :
    d.walk t indices = .error cause := by
  obtain ⟨before, index, after, u, rfl, hbefore, hwalks, hstops⟩ := h
  induction hwalks with
  | here =>
      rw [List.nil_append, walk, hd.stepInto_of_stops hstops]
      rfl
  | step h _ ih =>
      obtain ⟨hindex, hbefore⟩ := List.forall_mem_cons.1 hbefore
      rw [List.cons_append, walk, hd.stepInto_of_enters hindex h]
      exact ih hbefore hstops

end Reachable

/-- **A walk reaches a part, or it stops at some index.** -/
theorem exists_walksTo_or_stops (t : DataType) (hindices : ∀ v ∈ indices, ∃ u, d.Sees v u) :
    ((∀ v ∈ indices, d.SeesInteger v) ∧ ∃ part, d.WalksTo t indices part) ∨
      ∃ cause, d.StopsAlong t indices cause := by
  induction indices generalizing t with
  | nil => exact .inl ⟨fun _ hv => absurd hv List.not_mem_nil, t, .here t⟩
  | cons index indices ih =>
      obtain ⟨⟨u, hu⟩, hindices⟩ := List.forall_mem_cons.1 hindices
      rcases exists_enters_or_stops t hu with ⟨hinteger, next, henters⟩ | ⟨cause, hstops⟩
      · rcases ih next hindices with ⟨hall, part, hwalks⟩ | ⟨cause, hstops⟩
        · exact .inl ⟨List.forall_mem_cons.2 ⟨hinteger, hall⟩, part, .step henters hwalks⟩
        · obtain ⟨before, i, after, w, rfl, hbefore, hwalks, hstops⟩ := hstops
          exact .inr ⟨cause, index :: before, i, after, w, rfl,
            List.forall_mem_cons.2 ⟨hinteger, hbefore⟩, .step henters hwalks, hstops⟩
      · exact .inr ⟨cause, [], index, indices, t, rfl, nofun, .here t, hstops⟩

namespace Reachable

/-- **Where a walk leads.** -/
theorem walk_eq_ok_iff (hd : d.Reachable) : d.walk t indices = .ok part ↔
    (∀ v ∈ indices, d.SeesInteger v) ∧ d.WalksTo t indices part := by
  refine ⟨fun h => ?_, fun h => hd.walk_of_walksTo h.1 h.2⟩
  rcases exists_walksTo_or_stops t (walk_ok h) with ⟨hall, other, hwalks⟩ | ⟨cause, hstops⟩
  · obtain rfl := Except.ok.inj ((hd.walk_of_walksTo hall hwalks).symm.trans h)
    exact ⟨hall, hwalks⟩
  · cases (hd.walk_of_stops hstops).symm.trans h

/-- **Where a walk stops**, if all indices can be seen. -/
theorem walk_eq_error_iff (hd : d.Reachable) (hindices : ∀ v ∈ indices, ∃ u, d.Sees v u) :
    d.walk t indices = .error cause ↔ d.StopsAlong t indices cause := by
  refine ⟨fun h => ?_, hd.walk_of_stops⟩
  rcases exists_walksTo_or_stops t hindices with ⟨hall, part, hwalks⟩ | ⟨other, hstops⟩
  · cases (hd.walk_of_walksTo hall hwalks).symm.trans h
  · obtain rfl := Except.error.inj ((hd.walk_of_stops hstops).symm.trans h)
    exact hstops

end Reachable

/-! ### Parts of what is known -/

theorem Enters.unique (hd : d.Reachable) {other : DataType} (h : d.Enters t index part)
    (h' : d.Enters t index other) : part = other := by
  cases h with
  | element | component =>
      cases h'
      rfl
  | member hvalue _ hpart =>
      cases h' with
      | member hvalue' _ hpart' =>
          obtain rfl := hd.holdsBits_unique hvalue hvalue'
          exact Option.some.inj (hpart.symm.trans hpart')

/-- **Indices reach one part at most.** -/
theorem WalksTo.unique (hd : d.Reachable) {other : DataType} (h : d.WalksTo t indices part)
    (h' : d.WalksTo t indices other) : part = other := by
  induction h with
  | here =>
      cases h'
      rfl
  | step h _ ih =>
      cases h' with
      | step h' hrest =>
          obtain rfl := h.unique hd h'
          exact ih hrest

/-- If a word can count the members of a record, the index selects any of them. -/
theorem enters_record_iff {members : List DataType} (hlength : members.length < UInt32.size) :
    d.Enters (.record members) index part ↔
      ∃ value, d.HoldsBits value index ∧ members[value.number]? = some part := by
  have hwidth : (UInt32.ofNat members.length).toNat = members.length :=
    UInt32.toNat_ofNat_of_lt' hlength
  constructor
  · rintro (⟨hvalue, -, hpart⟩ | _ | _)
    exact ⟨_, hvalue, hpart⟩
  · rintro ⟨value, hvalue, hpart⟩
    have hbelow := (List.getElem?_eq_some_iff.1 hpart).1
    exact .member hvalue (hwidth.symm ▸ hbelow) hpart

theorem Enters.mem_pieces (h : d.Enters t index part) : part ∈ t.pieces := by
  cases h with
  | @member members _ _ _ _ _ hpart =>
      have hmem : part ∈ members := List.mem_of_getElem? hpart
      exact List.mem_append_left _ (DataType.mem_innerOfAll.2 ⟨part, hmem, part.self_mem_pieces⟩)
  | element => exact List.mem_append_left _ part.self_mem_pieces
  | component s => exact List.mem_append_left _ List.mem_cons_self

/-- What is reached from a known type is known. -/
theorem WalksTo.knows (h : d.WalksTo t indices part) (hd : d.Thorough) (ht : d.knows t = true) :
    d.knows part = true := by
  induction h with
  | here => exact ht
  | step h _ ih => exact ih (hd.pieces ht _ h.mem_pieces)

/-- A pointer to what is known can be asked for. -/
theorem Thorough.settled_pointer (hd : d.Thorough) (storage : StorageClass)
    (ht : d.knows t = true) : d.Settled (.pointer storage t) := ⟨rfl, hd.pieces ht⟩

/-! ### Instructions whose result has a new type -/

/-- There are ids for an instruction and for what is missing of the type of its result. -/
def HasRoomForResult (d : Draft) (t : DataType) : Prop :=
  d.nextId.toNat + (d.missing t).length + 1 < UInt32.size

instance (d : Draft) (t : DataType) : Decidable (d.HasRoomForResult t) :=
  inferInstanceAs (Decidable (_ < _))

/-- Asking for a type whose pieces are known: it is found, or the ids run out. -/
theorem typeId_of_settled (hd : d.Thorough) (ht : d.Settled t) (hstride : t.hasStride = true) :
    (∃ id d', (typeId t).runOn d = (.ok id, d') ∧
        d'.nextId.toNat = d.nextId.toNat + (d.missing t).length) ∨
      ((typeId t).runOn d).1 = .error (.overflow .increment) ∧ ¬d.HasRoomFor t := by
  obtain ⟨new, hdefines, hpieces, hends⟩ := typeId_attempts t hd
  rcases hrun : (typeId t).runOn d with ⟨answer, e⟩
  rw [hrun] at hdefines hends
  cases hends with
  | @found id _ hid _ =>
      refine .inl ⟨id, e, rfl, ?_⟩
      have hmissing (u : DataType) : u ∈ new ↔ u ∈ d.missing t :=
        hdefines.mem_iff_missing hd hpieces hid.knows
      have hperm : new.Perm (d.missing t) :=
        (List.perm_ext_iff_of_nodup hdefines.once (List.nodup_dedup _)).2 hmissing
      rw [hdefines.nextId, hperm.length_eq]
  | refused hfault =>
      have hwell : t.isWellFormed = true := DataType.forall_mem_pieces.1 <|
        List.forall_mem_append.2 ⟨fun u hu => (hd u (ht.pieces u hu)).admissible,
          List.forall_mem_singleton.2 ht.admissible⟩
      cases hfault.symm.trans ((DataType.fault?_eq_none_iff t).2 hwell)
  | exhausted hu hunknown hfull =>
      exact .inr ⟨rfl, hdefines.not_hasRoomFor hpieces hu hunknown hfull⟩
  | @oversized init element operation hlast hsize =>
      have hmem : .runtimeArray element ∈ new := hlast ▸ List.mem_append_right _ List.mem_cons_self
      rcases DataType.mem_pieces.1 (hpieces hmem) with hinner | rfl
      · exact absurd (ht.pieces _ hinner) (Bool.eq_false_iff.1 (hdefines.fresh _ hmem))
      · cases (DataType.hasStride_of_error hsize).symm.trans hstride

section emitTyped

variable {opcode : Opcode} {operands : List Operand} {f : OpenFunction} {id type : Id}

/-- Asking for a type changes nothing about the open function. -/
theorem Reachable.typeId_ok (hd : d.Reachable) (hrun : (typeId t).runOn d = (.ok id, d')) :
    d'.current = d.current ∧ d'.tables.dataTypes.lookup id = some t := by
  obtain ⟨settings, a, rfl, ha, -⟩ := hd.exists_account
  have hdoes : Does False (typeId t) a _ := typeId_does t ha
  obtain ⟨b, rfl, hchanges, hinterned, hlearns⟩ := hdoes.exists_of_ok hrun
  exact ⟨hlearns.grows.current, (ha.after hchanges).lookup_dataTypes hinterned⟩

/-- An open function takes an instruction if there is an id for its result. -/
theorem runOn_emitValue (hf : d.writable opcode = .ok f) :
    (emitValue opcode type operands).runOn d =
      if d.nextId.toNat + 1 < UInt32.size then
        (.ok ⟨d.nextId, type⟩,
          (d.takeId.addRecord (idRecord d.nextId)).addResult opcode type d.nextId operands)
      else (.error (.overflow .increment), d) := by
  have hlook : (inspect (·.writable opcode)).runOn d = (.ok f, d) := by rw [runOn_inspect, hf]; rfl
  rw [emitValue, runOn_bind_of_ok hlook, runOn_bind, runOn_freshId]
  by_cases hroom : d.nextId.toNat + 1 < UInt32.size
  · rw [if_pos hroom, if_pos hroom]
    rfl
  · rw [if_neg hroom, if_neg hroom]

/-- **When an instruction is added** whose type is made of known types: just if there are ids. -/
theorem emitTyped_outcomes (hd : d.Reachable) (ht : d.Settled t) (hstride : t.hasStride = true)
    (hf : d.writable opcode = .ok f) :
    (((typeId t >>= fun type => emitValue opcode type operands).runOn d).1.isOk = true ∧
        d.HasRoomForResult t) ∨
      ((typeId t >>= fun type => emitValue opcode type operands).runOn d).1 =
          .error (.overflow .increment) ∧ ¬d.HasRoomForResult t := by
  rcases typeId_of_settled hd.thorough ht hstride with ⟨id, e, hrun, hids⟩ | ⟨herror, hfull⟩
  · have hwritable : e.writable opcode = .ok f := by
      rw [writable_eq_ok, (hd.typeId_ok hrun).1]
      exact writable_eq_ok.1 hf
    rw [runOn_bind_of_ok hrun, runOn_emitValue hwritable, HasRoomForResult, ← hids]
    by_cases hroom : e.nextId.toNat + 1 < UInt32.size
    · rw [if_pos hroom]
      exact .inl ⟨rfl, hroom⟩
    · rw [if_neg hroom]
      exact .inr ⟨rfl, hroom⟩
  · have hrun : (typeId t).runOn d = (.error (.overflow .increment), ((typeId t).runOn d).2) :=
      Prod.ext herror rfl
    refine .inr ⟨by rw [runOn_bind, hrun], fun hroom => hfull ?_⟩
    exact Nat.lt_of_succ_lt hroom

/-- What becomes of the open function. -/
theorem emitTyped_of_ok (hd : d.Reachable) (hf : d.current = some f)
    (hrun : (typeId t >>= fun type => emitValue opcode type operands).runOn d = (.ok v, d')) :
    d'.Sees v t ∧ ∃ g, d'.current = some g ∧
      g.body = f.body ++ [.typed opcode v.type v.id operands] := by
  obtain ⟨type, e, htype, hemit⟩ := exists_of_bind hrun
  obtain ⟨-, rfl, rfl⟩ := runOn_emitValue_ok hemit
  obtain ⟨hcurrent, hlookup⟩ := hd.typeId_ok htype
  have hcurrent : e.current = some f := hcurrent.trans hf
  refine ⟨sees_addResult opcode _ operands hcurrent hlookup, ?_⟩
  simp [addResult, addToBody, addLocal, takeId, addRecord, hcurrent]

end emitTyped

/-! ### Access chains -/

section accessChain

variable {base : Value} {storage : StorageClass} {pointee : DataType} {f : OpenFunction}

/-- The instruction that computes the pointer. -/
def accessChainOf (base : Value) (indices : List Value) (v : Value) : Instruction :=
  .typed .accessChain v.type v.id (.id base.id :: indices.map fun i => .id i.id)

theorem access_eq (hbase : d.Sees base (.pointer storage pointee)) :
    d.access base indices = (d.walk pointee indices).map (.pointer storage) := by
  have hpointer : d.pointerOperand .accessChain base = .ok (storage, pointee) := by
    unfold pointerOperand
    rw [check_eq_ok.2 hbase]
    rfl
  rw [access, hpointer]
  show (d.walk pointee indices >>= fun part => Except.ok (DataType.pointer storage part)) = _
  cases d.walk pointee indices <;> rfl

theorem runOn_accessChain_of_error (hbase : d.Sees base (.pointer storage pointee))
    (hwalk : d.walk pointee indices = .error cause) :
    (accessChain base indices).runOn d = (.error (.rejected cause), d) := by
  rw [accessChain, runOn_bind, runOn_inspect, access_eq hbase, hwalk]
  rfl

theorem runOn_accessChain_of_ok (hbase : d.Sees base (.pointer storage pointee))
    (hwalk : d.walk pointee indices = .ok part) :
    (accessChain base indices).runOn d =
      (typeId (.pointer storage part) >>= fun type =>
        emitValue .accessChain type (.id base.id :: indices.map fun v => .id v.id)).runOn d := by
  rw [accessChain, runOn_bind, runOn_inspect, access_eq hbase, hwalk]
  rfl

/-- A chain that reaches something fails only if the ids run out. -/
theorem accessChain_of_walksTo (hd : d.Reachable) (hf : d.current = some f)
    (hopen : f.terminated = false) (hbase : d.Sees base (.pointer storage pointee))
    (hindices : ∀ v ∈ indices, d.SeesInteger v) (hwalks : d.WalksTo pointee indices part) :
    (((accessChain base indices).runOn d).1.isOk = true ∧
        d.HasRoomForResult (.pointer storage part)) ∨
      ((accessChain base indices).runOn d).1 = .error (.overflow .increment) ∧
        ¬d.HasRoomForResult (.pointer storage part) := by
  rw [runOn_accessChain_of_ok hbase (hd.walk_of_walksTo hindices hwalks)]
  have hpointee : d.knows pointee = true := hd.thorough.pieces (hd.interned hbase.2).knows _
    (List.mem_append_left _ pointee.self_mem_pieces)
  have hpart := hwalks.knows hd.thorough hpointee
  exact emitTyped_outcomes hd (hd.thorough.settled_pointer storage hpart) rfl
    (writable_eq_ok.2 ⟨hf, hopen⟩)

/-- **What an access chain does.**  On any draft that calls lead to, if a function is open and has
not returned, if the base is a pointer, and if all indices can be seen:

* the chain succeeds just if the indices are integers and reach a part of what the base points to,
  and there are ids for the type of the pointer to it and for the pointer; a member of a record is
  reached if its number is below the number of members, as a word;
* then the answer points to this part, in the storage class of the base, and nothing but the chain
  is added to the function;
* if the walk stops at an index, the chain is refused for what is wrong with this index, and nothing
  has changed;
* a chain does not fail in any other way, unless the ids run out. -/
theorem accessChain_exact (hd : d.Reachable) (hf : d.current = some f)
    (hopen : f.terminated = false) (hbase : d.Sees base (.pointer storage pointee))
    (hindices : ∀ v ∈ indices, ∃ t, d.Sees v t) :
    (((accessChain base indices).runOn d).1.isOk = true ↔ (∀ v ∈ indices, d.SeesInteger v) ∧
      ∃ part, d.WalksTo pointee indices part ∧ d.HasRoomForResult (.pointer storage part)) ∧
    (∀ v d', (accessChain base indices).runOn d = (.ok v, d') →
      ∃ part, d.WalksTo pointee indices part ∧ d'.Sees v (.pointer storage part) ∧
        ∃ g, d'.current = some g ∧ g.body = f.body ++ [accessChainOf base indices v]) ∧
    (∀ cause, d.StopsAlong pointee indices cause →
      (accessChain base indices).runOn d = (.error (.rejected cause), d)) ∧
    (∀ failure d', (accessChain base indices).runOn d = (.error failure, d') →
      (∃ cause, failure = .rejected cause ∧ d.StopsAlong pointee indices cause) ∨
        failure = .overflow .increment ∧ ∃ part, d.WalksTo pointee indices part ∧
          ¬d.HasRoomForResult (.pointer storage part)) := by
  have hrefused {cause : BuildError} (hstops : d.StopsAlong pointee indices cause) :
      (accessChain base indices).runOn d = (.error (.rejected cause), d) :=
    runOn_accessChain_of_error hbase (hd.walk_of_stops hstops)
  refine ⟨⟨fun hok => ?_, ?_⟩, fun v d' hrun => ?_, fun cause => hrefused,
    fun failure d' hrun => ?_⟩
  · rcases exists_walksTo_or_stops pointee hindices with ⟨hall, part, hwalks⟩ | ⟨cause, hstops⟩
    · rcases accessChain_of_walksTo hd hf hopen hbase hall hwalks with ⟨-, hroom⟩ | ⟨herror, -⟩
      · exact ⟨hall, part, hwalks, hroom⟩
      · rw [herror] at hok
        cases hok
    · rw [hrefused hstops] at hok
      cases hok
  · rintro ⟨hall, part, hwalks, hroom⟩
    exact ((accessChain_of_walksTo hd hf hopen hbase hall hwalks).resolve_right
      fun hfull => hfull.2 hroom).1
  · rcases exists_walksTo_or_stops pointee hindices with ⟨hall, part, hwalks⟩ | ⟨cause, hstops⟩
    · rw [runOn_accessChain_of_ok hbase (hd.walk_of_walksTo hall hwalks)] at hrun
      exact ⟨part, hwalks, emitTyped_of_ok hd hf hrun⟩
    · cases (hrefused hstops).symm.trans hrun
  · rcases exists_walksTo_or_stops pointee hindices with ⟨hall, part, hwalks⟩ | ⟨cause, hstops⟩
    · refine .inr ?_
      rcases accessChain_of_walksTo hd hf hopen hbase hall hwalks with ⟨hok, -⟩ | ⟨herror, hfull⟩
      · rw [hrun] at hok
        cases hok
      · rw [hrun] at herror
        exact ⟨Except.error.inj herror, part, hwalks, hfull⟩
    · cases (hrefused hstops).symm.trans hrun
      exact .inl ⟨cause, rfl, hstops⟩

/-- The members of the elements of a buffer. -/
def bufferElement : List DataType := [.float 32, .vector (.float 32) 4]

/-- What a buffer holds: a number, and an array of records. -/
def bufferMembers : List DataType := [.uint32, .runtimeArray (.record bufferElement)]

/-- A draft with such a buffer, three constants, two of them wide, and a function of an integer. -/
def bufferDraft : Draft :=
  (empty {}).after
    [.globalVariable .storageBuffer (.record bufferMembers), .constUInt 1,
      .constantScalar (.scalar (.int 64 false)) (.bits64 1),
      .constantScalar (.scalar (.int 64 false)) (.bits64 4294967297),
      .beginFunction "f" .void [.uint32] .none]

/-- A chain reaches a component in the array.  A number that is too wide by one bit is out of range,
although its lower half is not. -/
theorem accessChain_exact_of_buffer : bufferDraft.Reachable ∧
    (∃ v d', (accessChain ⟨8, 7⟩ [⟨9, 1⟩, ⟨16, 1⟩, ⟨11, 10⟩, ⟨16, 1⟩]).runOn bufferDraft =
      (.ok v, d') ∧ d'.Sees v (.pointer .storageBuffer (.float 32))) ∧
    (accessChain ⟨8, 7⟩ [⟨12, 10⟩]).runOn bufferDraft =
      (.error (.rejected (.componentOutOfRange 0xFFFFFFFF 2)), bufferDraft) := by
  have hd : bufferDraft.Reachable := ⟨{}, _, rfl⟩
  have hterminated : bufferDraft.current.map (·.terminated) = some false := by decide +kernel
  obtain ⟨f, hf, hopen⟩ := Option.map_eq_some_iff.1 hterminated
  have hbase : bufferDraft.Sees ⟨8, 7⟩ (.pointer .storageBuffer (.record bufferMembers)) :=
    ⟨by decide +kernel, by decide +kernel⟩
  have hone : bufferDraft.Sees ⟨9, 1⟩ .uint32 := ⟨by decide +kernel, by decide +kernel⟩
  have hposition : bufferDraft.Sees ⟨16, 1⟩ .uint32 := ⟨by decide +kernel, by decide +kernel⟩
  have hwide : bufferDraft.Sees ⟨11, 10⟩ (.scalar (.int 64 false)) :=
    ⟨by decide +kernel, by decide +kernel⟩
  have hwider : bufferDraft.Sees ⟨12, 10⟩ (.scalar (.int 64 false)) :=
    ⟨by decide +kernel, by decide +kernel⟩
  have hfirst : bufferDraft.HoldsBits (.bits32 1) ⟨9, 1⟩ :=
    (hd.literal?_eq_some_iff hone).1 (by decide +kernel)
  have hthird : bufferDraft.HoldsBits (.bits64 1) ⟨11, 10⟩ :=
    (hd.literal?_eq_some_iff hwide).1 (by decide +kernel)
  have hwalks : bufferDraft.WalksTo (.record bufferMembers)
      [⟨9, 1⟩, ⟨16, 1⟩, ⟨11, 10⟩, ⟨16, 1⟩] (.float 32) :=
    .step ((enters_record_iff (by decide)).2 ⟨_, hfirst, rfl⟩) <| .step (.element _ _) <|
      .step ((enters_record_iff (by decide)).2 ⟨_, hthird, rfl⟩) <|
      .step (.component _ _ _) (.here _)
  have hintegers : ∀ v ∈ [(⟨9, 1⟩ : Value), ⟨16, 1⟩, ⟨11, 10⟩, ⟨16, 1⟩],
      bufferDraft.SeesInteger v := by
    simp only [List.forall_mem_cons]
    exact ⟨⟨_, hone, rfl⟩, ⟨_, hposition, rfl⟩, ⟨_, hwide, rfl⟩, ⟨_, hposition, rfl⟩, nofun⟩
  have hindices (v : Value) (hv : v ∈ [(⟨9, 1⟩ : Value), ⟨16, 1⟩, ⟨11, 10⟩, ⟨16, 1⟩]) :
      ∃ t, bufferDraft.Sees v t := (hintegers v hv).imp fun _ ht => ht.1
  obtain ⟨hok, hanswer, -, -⟩ := accessChain_exact hd hf hopen hbase hindices
  obtain ⟨v, d', hrun⟩ := exists_of_isOk (hok.2 ⟨hintegers, _, hwalks, by decide +kernel⟩)
  obtain ⟨part, hpart, hv, -⟩ := hanswer v d' hrun
  obtain rfl := hwalks.unique hd hpart
  -- the lower half of the constant selects the array
  have hindex : ∀ v ∈ [(⟨12, 10⟩ : Value)], ∃ t, bufferDraft.Sees v t :=
    List.forall_mem_singleton.2 ⟨_, hwider⟩
  obtain ⟨-, -, hrefused, -⟩ := accessChain_exact hd hf hopen hbase hindex
  have hvalue : bufferDraft.HoldsBits (.bits64 4294967297) ⟨12, 10⟩ :=
    (hd.literal?_eq_some_iff hwider).1 (by decide +kernel)
  have hstops : bufferDraft.Stops (.record bufferMembers) ⟨12, 10⟩
      (.componentOutOfRange 0xFFFFFFFF 2) :=
    .outOfRange ⟨_, hwider, rfl⟩ rfl hvalue (by decide)
  exact ⟨hd, ⟨v, d', hrun, hv⟩, hrefused _ ⟨[], ⟨12, 10⟩, [], _, rfl, nofun, .here _, hstops⟩⟩

end accessChain

end Draft

end FrameShader
