/-
Literals: how many words the bits of a constant have, and whether they fit its type.

A literal comes in two forms, of one word and of two.  The form is only compared with whether the
type has more than 32 bits, and the bits are written as they are given.  So types of up to 64 bits
get as many words as they need, and wider ones do not; and a type of less than 32 bits may get a
number that it cannot hold.  A floating-point number of less than 32 bits always gets the bits of
one that has 32.

Main definitions:

* `FrameShader.Literal.Fits` — the literal is as long as the type needs, and the type can hold it;
* `FrameShader.Draft.Suited` — the form of every literal has been compared with its type;
* `FrameShader.Draft.Writes`, `FrameShader.Draft.WritesFloat` — the instruction that defines a
  constant.

Main results:

* `FrameShader.Account.Change.suited`, `FrameShader.Draft.Reachable.suited` — **forms have been
  compared**, change by change and run by run;
* `FrameShader.Draft.constantScalar_refused_iff` — nothing else is compared;
* `FrameShader.Draft.literals_fit_iff` — **which literals fit their types**;
* `FrameShader.Draft.not_all_fit` — not all of them do.
-/

import FrameShader.Proofs.Draft.Refusing

set_option relaxedAutoImplicit false
set_option autoImplicit false

namespace FrameShader

open Build

/-! ### Literals that fit -/

/-- How many bits a number of this type has. -/
def Scalar.width? : Scalar → Option Word
  | .int width _ | .float width => some width
  | _ => none

/-- Bits beyond the width of the type are zeros.  Those of signed integers repeat the sign. -/
def Scalar.zeroExtends : Scalar → Bool
  | .float _ | .int _ false => true
  | _ => false

namespace Literal

variable {s : Scalar} {t : DataType} {value : Literal} {width : Word}

/-- The literal is as long as a type of this width needs, and the type can hold it. -/
structure Fits (value : Literal) (s : Scalar) (width : Word) : Prop where
  words : value.operand.encode.length = (width.toNat + 31) / 32
  bits : width.toNat < 32 → s.zeroExtends = true → value.toUInt64.toNat < 2 ^ width.toNat

theorem length_encode_operand (value : Literal) :
    value.operand.encode.length = if value.width = 64 then 2 else 1 := by
  cases value <;> rfl

/-- The form of a literal suits a numeric type whose width is on the same side of 32. -/
theorem suits_scalar_iff (h : s.width? = some width) :
    value.suits (.scalar s) = .ok () ↔ (32 < width.toNat ↔ value.width = 64) := by
  have hsuits : value.suits (.scalar s) =
      if (32 < width) = (32 < value.width) then .ok ()
      else .error (.typeMismatch .constant (DataType.scalar s).text
        (toString value.width ++ " bit literal")) := by
    cases s with
    | int | float =>
        obtain rfl := Option.some.inj h
        rfl
    | void | bool => cases h
  have hlong : 32 < value.width ↔ value.width = 64 := by cases value <;> simp [Literal.width]
  have hwide : 32 < width ↔ 32 < width.toNat := UInt32.lt_iff_toNat_lt
  rw [hsuits, ← hlong, ← hwide]
  by_cases hsame : (32 < width) = (32 < value.width)
  · rw [if_pos hsame]
    exact ⟨fun _ => iff_of_eq hsame, fun _ => rfl⟩
  · rw [if_neg hsame]
    exact ⟨fun h => (nomatch h), fun hiff => absurd (propext hiff) hsame⟩

/-- Nothing but numbers has literals. -/
theorem exists_width_of_suits (h : value.suits t = .ok ()) :
    ∃ s width, t = .scalar s ∧ s.width? = some width := by
  unfold suits at h
  split at h
  · exact ⟨_, _, rfl, rfl⟩
  · exact ⟨_, _, rfl, rfl⟩
  · cases h

/-- **When a literal of the right form fits**: the type has no more than 64 bits and can hold it. -/
theorem fits_iff (hwidth : 1 ≤ width.toNat) (hform : 32 < width.toNat ↔ value.width = 64) :
    value.Fits s width ↔ width.toNat ≤ 64 ∧
      (width.toNat < 32 → s.zeroExtends = true → value.toUInt64.toNat < 2 ^ width.toNat) := by
  have hwords : value.operand.encode.length = (width.toNat + 31) / 32 ↔ width.toNat ≤ 64 := by
    rw [length_encode_operand]
    by_cases hlong : value.width = 64
    · have hwide := hform.2 hlong
      rw [if_pos hlong]
      omega
    · have hnarrow := mt hform.1 hlong
      rw [if_neg hlong]
      omega
  exact ⟨fun h => ⟨hwords.1 h.words, h.bits⟩, fun h => ⟨hwords.2 h.1, h.2⟩⟩

/-- A floating-point number has two words at 64 bits, and else one word. -/
theorem width_ofFloat (x : Float64Bits) (width : Word) :
    (ofFloat x width).width = 64 ↔ width = 64 := by
  unfold ofFloat
  by_cases h : width = 64 <;> simp [h, Literal.width]

/-- **When a floating-point number fits**: the type has at least 32 bits, or else the bits of the
number in 32 bits happen to be few enough. -/
theorem ofFloat_fits_iff {x : Float64Bits} (hwidth : 1 ≤ width.toNat)
    (hform : 32 < width.toNat ↔ (ofFloat x width).width = 64) :
    (ofFloat x width).Fits (.float width) width ↔
      (width.toNat < 32 → x.toSingle.bits.toNat < 2 ^ width.toNat) := by
  rw [fits_iff hwidth hform]
  rw [width_ofFloat] at hform
  by_cases hwide : width = 64
  · subst hwide
    simp
  · have hnarrow := mt hform.1 hwide
    have hbits : (ofFloat x width).toUInt64.toNat = x.toSingle.bits.toNat := by
      rw [ofFloat, if_neg hwide]
      exact UInt32.toNat_toUInt64 _
    rw [hbits]
    exact ⟨fun h hshort => h.2 hshort rfl, fun h => ⟨by omega, fun hshort _ => h hshort⟩⟩

end Literal

/-! ### Forms have been compared -/

namespace Draft

/-- The form of every literal has been compared with its type. -/
def Suited (d : Draft) : Prop :=
  ∀ type id value, .typed .constant type id [Literal.operand value] ∈ d.sections.globals →
    ∃ t, d.Interned t type ∧ value.suits t = .ok ()

namespace Suited

variable {d d' : Draft}

theorem of_same (h : d.Suited) (hglobals : d'.sections.globals = d.sections.globals)
    (htypes : d'.tables.types = d.tables.types) : d'.Suited := by
  intro type id value hmem
  obtain ⟨t, ht, hsuits⟩ := h type id value (hglobals ▸ hmem)
  exact ⟨t, by rw [Interned, htypes]; exact ht, hsuits⟩

/-- One more global. -/
theorem add (h : d.Suited) {i : Instruction}
    (hglobals : d'.sections.globals = d.sections.globals ++ [i])
    (htypes : ∀ {t : DataType} {id : Id}, d.Interned t id → d'.Interned t id)
    (hi : ∀ type id value, i = .typed .constant type id [Literal.operand value] →
      ∃ t, d'.Interned t type ∧ value.suits t = .ok ()) : d'.Suited := by
  intro type id value hmem
  rw [hglobals, List.mem_append, List.mem_singleton] at hmem
  rcases hmem with hmem | hlast
  · obtain ⟨t, ht, hsuits⟩ := h type id value hmem
    exact ⟨t, htypes ht, hsuits⟩
  · exact hi type id value hlast.symm

end Suited

end Draft

namespace Account

variable {short exhausted : Prop} {a b : Account}

/-- **Every change keeps to the comparison.** -/
theorem Change.suited (hstep : Change short exhausted a b) (h : a.draft.Suited) :
    b.draft.Suited := by
  cases hstep with
  | note hnote =>
      exact h.of_same (hnote.unseen (·.sections.globals) fun _ => rfl)
        (hnote.unseen (·.tables.types) fun _ => rfl)
  | defineType hnew ht =>
      exact h.add rfl (fun hu => hu.addTypeDefinition hnew _ _) fun _ _ _ hi => nomatch hi
  | defineVariable => exact h.add rfl id fun _ _ _ hi => nomatch hi
  | @defineConstant d id ids key opcode type operands hnew hdefinition =>
      have hkept {t : DataType} {target : Id} (ht : d.Interned t target) :
          (d.addConstantDefinition key opcode type id operands).Interned t target := by
        cases key <;> exact ht
      refine h.add (by cases key <;> rfl) hkept fun type' id' value hi => ?_
      cases hdefinition with
      | @bool b => cases b <;> cases hi
      | composite => cases hi
      | @scalar t _ bits hbits ht =>
          obtain ⟨rfl, -, rfl⟩ : type = type' ∧ id = id' ∧ bits = value := by
            cases bits <;> cases value <;> cases hi <;> exact ⟨rfl, rfl, rfl⟩
          exact ⟨t, hkept ht, hbits⟩
  | _ => exact h.of_same rfl rfl

theorem Changes.suited (hsteps : Changes short exhausted a b) (h : a.draft.Suited) :
    b.draft.Suited :=
  hsteps.preserves (P := fun a => a.draft.Suited) (fun hstep => hstep.suited) h

end Account

namespace Draft

variable {d d' : Draft} {s : Scalar} {value : Literal} {v : Value} {x : Float64Bits}

/-- **The form of every literal has been compared with its type**, in any draft that calls lead to.
-/
theorem Reachable.suited (hd : d.Reachable) : d.Suited := by
  obtain ⟨settings, a, rfl, -, hchanges⟩ := hd.exists_account
  exact hchanges.suited fun _ _ _ hmem => absurd hmem List.not_mem_nil

/-! ### Instructions that define constants -/

/-- The value is of this scalar type, and it is defined by these bits. -/
structure Writes (d : Draft) (s : Scalar) (value : Literal) (v : Value) : Prop where
  type : d.Interned (.scalar s) v.type
  mem : .typed .constant v.type v.id [value.operand] ∈ d.sections.globals

/-- The value is a floating-point number of this width, and it is defined by the bits that stand for
it in 64 bits or in 32. -/
structure WritesFloat (d : Draft) (width : Word) (x : Float64Bits) (v : Value) : Prop where
  written : d.Writes (.float width) (.ofFloat x width) v
  form : width.toNat ≤ 32 ∨ width = 64
  fits_iff : 1 ≤ width.toNat → ((Literal.ofFloat x width).Fits (.float width) width ↔
    (width.toNat < 32 → x.toSingle.bits.toNat < 2 ^ width.toNat))

/-- The value is defined as a vector of these constants. -/
def WritesComposite (d : Draft) (parts : List Value) (v : Value) : Prop :=
  .typed .constantComposite v.type v.id ((parts.map Value.id).map .id) ∈ d.sections.globals

namespace Reachable

/-- A constant that is found again stands among the globals. -/
theorem definition_mem (hd : d.Reachable) {c : Constant} (hc : d.Holds c v) :
    c.definition v.type v.id ∈ d.sections.globals := by
  obtain ⟨settings, a, rfl, ha, -⟩ := hd.exists_account
  exact ha.definition_mem hc

/-- The form of its literal suits the type of a constant. -/
theorem suits_of_holds (hd : d.Reachable) {t : DataType} (h : d.Holds (.scalar t value) v) :
    value.suits t = .ok () := by
  obtain ⟨u, hu, hsuits⟩ := hd.suited _ _ _ (hd.definition_mem h)
  obtain ⟨settings, a, rfl, ha, -⟩ := hd.exists_account
  obtain rfl := ha.eq_of_interned hu h.type
  exact hsuits

theorem writes_of_holds (hd : d.Reachable) (h : d.Holds (.scalar (.scalar s) value) v) :
    d.Writes s value v := ⟨h.type, hd.definition_mem h⟩

theorem writesFloat_of_holds (hd : d.Reachable) {width : Word}
    (h : d.HoldsFloat (.float width) x v) : d.WritesFloat width x v := by
  obtain ⟨_, hwidth, h⟩ := h
  obtain rfl := Scalar.float.inj hwidth
  have hform := (Literal.suits_scalar_iff rfl).1 (hd.suits_of_holds h)
  refine ⟨hd.writes_of_holds h, ?_, fun hwidth => Literal.ofFloat_fits_iff hwidth hform⟩
  rw [Literal.width_ofFloat] at hform
  by_cases hwide : width = 64
  · exact .inr hwide
  · exact .inl (Nat.not_lt.1 (mt hform.1 hwide))

end Reachable

/-! ### Calls for constants -/

/-- **Nothing but the form of the literal is compared**: the call is refused just if it does not
suit the type. -/
theorem constantScalar_refused_iff (hd : d.Reachable) {t : DataType} {cause : BuildError} :
    ((constantScalar t value).runOn d).1 = .error (.rejected cause) ↔
      value.suits t = .error cause := by
  cases hsuits : value.suits t with
  | ok =>
      refine ⟨fun herror => ?_, fun h => nomatch h⟩
      have hrun : (constantScalar t value).runOn d =
          (.error (.rejected cause), ((constantScalar t value).runOn d).2) := Prod.ext herror rfl
      exact absurd hrun (constantScalar_affords hd hsuits).not_rejected
  | error other =>
      have hrun : (constantScalar t value).runOn d = (.error (.rejected other), d) := by
        unfold constantScalar
        rw [hsuits]
        rfl
      rw [hrun]
      exact ⟨fun h => by cases h; rfl, fun h => by cases h; rfl⟩

/-- What a number of a scalar type is written as. -/
theorem constantScalar_writes (hd : d.Reachable) {t : DataType}
    (hrun : (constantScalar t value).runOn d = (.ok v, d')) :
    ∃ s width, t = .scalar s ∧ s.width? = some width ∧ (32 < width.toNat ↔ value.width = 64) ∧
      d'.Writes s value v := by
  have hd' : d'.Reachable := hd.of_run (o := .constantScalar t value) (f := .value) rfl hrun
  obtain ⟨settings, a, rfl, ha, -⟩ := hd.exists_account
  have hdoes : Does False (constantScalar t value) a _ := constantScalar_does ha t value
  obtain ⟨b, rfl, -, -, hholds⟩ := hdoes.exists_of_ok hrun
  have hsuits := hd'.suits_of_holds hholds
  obtain ⟨s, width, rfl, hwidth⟩ := Literal.exists_width_of_suits hsuits
  have hform := (Literal.suits_scalar_iff hwidth).1 hsuits
  exact ⟨s, width, rfl, hwidth, hform, hd'.writes_of_holds hholds⟩

/-- What a floating-point number is written as. -/
theorem constFloat_writes (hd : d.Reachable) (hrun : (constFloat s x).runOn d = (.ok v, d')) :
    ∃ width, s = .float width ∧ d'.WritesFloat width x v := by
  have hd' : d'.Reachable := hd.of_run (o := .constFloat s x) (f := .value) rfl hrun
  obtain ⟨settings, a, rfl, ha, -⟩ := hd.exists_account
  have hdoes : Does False (constFloat s x) a _ := constFloat_does ha s x
  obtain ⟨b, rfl, -, -, hholds⟩ := hdoes.exists_of_ok hrun
  obtain ⟨width, rfl, -⟩ := id hholds
  exact ⟨width, rfl, hd'.writesFloat_of_holds hholds⟩

/-- What a vector of floating-point numbers is written as. -/
theorem constVector_writes (hd : d.Reachable) {xs : List Float64Bits}
    (hrun : (constVector s xs).runOn d = (.ok v, d')) :
    ∃ width parts, s = .float width ∧ List.Forall₂ (d'.WritesFloat width) xs parts ∧
      d'.WritesComposite parts v := by
  have hd' : d'.Reachable := hd.of_run (o := .constVector s xs) (f := .value) rfl hrun
  obtain ⟨settings, a, rfl, ha, -⟩ := hd.exists_account
  have hdoes : Does False (constVector s xs) a _ := constVector_does ha s xs
  obtain ⟨b, rfl, -, -, parts, hparts, hholds⟩ := hdoes.exists_of_ok hrun
  have hmem := hd'.definition_mem hholds
  have hadmissible := (hd'.thorough _ hholds.type.knows).admissible
  cases hparts with
  | nil => cases hadmissible
  | @cons x p xs ps hp hps =>
      obtain ⟨width, rfl, -⟩ := id hp
      have hall := (List.Forall₂.cons hp hps).imp fun _ _ => hd'.writesFloat_of_holds
      exact ⟨width, p :: ps, rfl, hall, hmem⟩

/-- **Which literals fit their types.**  On any draft that calls lead to:

* if a number is given by its bits, then these are the bits that are written, and they are as many
  as its type needs just if this has no more than 64 bits, and the type can hold them just if it can
  hold the bits that were given;
* a literal is refused for nothing but its form;
* a floating-point number has up to 32 bits or 64, and its literal is as long as its type needs, but
  if the type has less than 32 bits, it is the literal for 32 of them;
* the same is true of all components of a vector. -/
theorem literals_fit_iff (hd : d.Reachable) :
    (∀ t value v d', (constantScalar t value).runOn d = (.ok v, d') →
      ∃ s width, t = .scalar s ∧ s.width? = some width ∧ d'.Writes s value v ∧
        (1 ≤ width.toNat → (value.Fits s width ↔ width.toNat ≤ 64 ∧
          (width.toNat < 32 → s.zeroExtends = true → value.toUInt64.toNat < 2 ^ width.toNat)))) ∧
    (∀ s width value, s.width? = some width → (32 < width.toNat ↔ value.width = 64) →
      ∀ cause, ((constantScalar (.scalar s) value).runOn d).1 ≠ .error (.rejected cause)) ∧
    (∀ s x v d', (constFloat s x).runOn d = (.ok v, d') →
      ∃ width, s = .float width ∧ d'.WritesFloat width x v) ∧
    (∀ s xs v d', (constVector s xs).runOn d = (.ok v, d') →
      ∃ width parts, s = .float width ∧ List.Forall₂ (d'.WritesFloat width) xs parts ∧
        d'.WritesComposite parts v) := by
  refine ⟨fun t value v d' hrun => ?_, fun s width value hwidth hform cause hrefused => ?_,
    fun s x v d' => constFloat_writes hd, fun s xs v d' => constVector_writes hd⟩
  · obtain ⟨s, width, rfl, hwidth, hform, hwrites⟩ := constantScalar_writes hd hrun
    exact ⟨s, width, rfl, hwidth, hwrites, fun hpositive => Literal.fits_iff hpositive hform⟩
  · have hsuits := (Literal.suits_scalar_iff hwidth).2 hform
    cases hsuits.symm.trans ((constantScalar_refused_iff hd).1 hrefused)

/-- A byte gets a literal of one word, which fits. -/
theorem literals_fit_iff_of_byte : (empty {}).Reachable ∧
    ∃ v d', (constantScalar (.scalar (.int 8 false)) (.bits32 200)).runOn (empty {}) = (.ok v, d') ∧
      d'.Writes (.int 8 false) (.bits32 200) v ∧ (Literal.bits32 200).Fits (.int 8 false) 8 := by
  have hd : (empty {}).Reachable := ⟨{}, [], rfl⟩
  have hok : ((constantScalar (.scalar (.int 8 false)) (.bits32 200)).runOn
      (empty {})).1.isOk = true := by
    decide +kernel
  obtain ⟨v, d', hrun⟩ := exists_of_isOk hok
  obtain ⟨s, width, hs, hwidth, hwrites, hfits⟩ := (literals_fit_iff hd).1 _ _ v d' hrun
  obtain rfl := DataType.scalar.inj hs
  obtain rfl := Option.some.inj hwidth
  exact ⟨hd, v, d', hrun, hwrites, (hfits (by decide)).2 ⟨by decide, fun _ _ => by decide⟩⟩

/-- **Not all literals fit their types**: a number of 96 bits gets two words, and a floating-point
number of 16 bits gets the literal of one that has 32. -/
theorem not_all_fit :
    (¬ ∀ d : Draft, d.Reachable → ∀ (s : Scalar) (width : Word) (value : Literal) (v : Value)
      (d' : Draft), s.width? = some width → 1 ≤ width.toNat →
        (constantScalar (.scalar s) value).runOn d = (.ok v, d') →
          ∀ written, d'.Writes s written v → written.Fits s width) ∧
    ¬ ∀ d : Draft, d.Reachable → ∀ (width : Word) (x : Float64Bits) (v : Value) (d' : Draft),
      1 ≤ width.toNat → (constFloat (.float width) x).runOn d = (.ok v, d') →
        ∀ written, d'.Writes (.float width) written v → written.Fits (.float width) width := by
  have hd : (empty {}).Reachable := ⟨{}, [], rfl⟩
  constructor
  · intro hall
    have hok : ((constantScalar (.scalar (.int 96 false)) (.bits64 0)).runOn
        (empty {})).1.isOk = true := by
      decide +kernel
    obtain ⟨v, d', hrun⟩ := exists_of_isOk hok
    obtain ⟨s, width, hs, -, -, hwrites⟩ := constantScalar_writes hd hrun
    obtain rfl := DataType.scalar.inj hs
    exact absurd (hall _ hd _ _ _ v d' rfl (by decide) hrun _ hwrites).words (by decide)
  · intro hall
    have hok : ((constFloat (.float 16) ⟨0x3FF0000000000000⟩).runOn (empty {})).1.isOk = true := by
      decide +kernel
    obtain ⟨v, d', hrun⟩ := exists_of_isOk hok
    obtain ⟨width, hwidth, hwrites⟩ := constFloat_writes hd hrun
    obtain rfl := Scalar.float.inj hwidth
    have hbits := (hall _ hd _ _ v d' (by decide) hrun _ hwrites.written).bits (by decide) rfl
    exact absurd hbits (by decide +kernel)

end Draft

end FrameShader
