/-
Interning: asking for types, imports and constants.

Asking for a type defines it and its parts unless they are known, so the draft only learns of types.
No part is larger than the type, which is why the type is still unknown when its parts have been
defined.  Asking for a constant defines its type and the constant.

Main definitions:

* `FrameShader.Account.Alike` — two accounts that no check tells apart;
* `FrameShader.Account.Learns` — an account that only learns of types below some size;
* `FrameShader.Account.Gains` — an account that only learns of types and constants.

Main results:

* `FrameShader.Build.typeId_does` — **a type is interned under its id**;
* `FrameShader.Build.typeId_of_interned` — asking again changes nothing;
* `FrameShader.Build.signature_does`, `FrameShader.Build.importSet_does`,
  `FrameShader.Build.internConstant_does` — signatures, imports and constants.
-/

import FrameShader.Proofs.Draft.Calls

set_option relaxedAutoImplicit false
set_option autoImplicit false

namespace FrameShader

/-! ### Learning of types -/

namespace Account

/-- Two accounts that no check tells apart. -/
structure Alike (a b : Account) : Prop where
  spare : b.spare = a.spare
  core : b.draft.core = a.draft.core
  frame : b.draft.frame = a.draft.frame

/-- The account only learns of types, each of them smaller than `size`, and of imports. -/
structure Learns (size : Nat) (a b : Account) : Prop where
  spare : b.spare = a.spare
  grows : a.draft.Grows b.draft
  /-- What is known of large types stays the same. -/
  large : ∀ t, size ≤ sizeOf t →
    b.draft.tables.types.lookup t = a.draft.tables.types.lookup t

variable {a b c : Account} {m n : Nat}

theorem Alike.refl (a : Account) : a.Alike a := ⟨rfl, rfl, rfl⟩

theorem Alike.trans (h : a.Alike b) (h' : b.Alike c) : a.Alike c :=
  ⟨h'.spare.trans h.spare, h'.core.trans h.core, h'.frame.trans h.frame⟩

theorem Alike.grows (h : a.Alike b) : a.draft.Grows b.draft := .of_core h.core h.frame

theorem Alike.types (h : a.Alike b) : b.draft.tables.types = a.draft.tables.types := by
  show b.draft.core.tables.types = a.draft.core.tables.types
  rw [h.core]

theorem Alike.learns (h : a.Alike b) : a.Learns n b :=
  ⟨h.spare, h.grows, fun t _ => by rw [h.types]⟩

namespace Learns

theorem refl (a : Account) : a.Learns n a := (Alike.refl a).learns

theorem mono (hmn : m ≤ n) (h : a.Learns m b) : a.Learns n b :=
  ⟨h.spare, h.grows, fun t ht => h.large t (Nat.le_trans hmn ht)⟩

theorem trans (h : a.Learns n b) (h' : b.Learns n c) : a.Learns n c :=
  ⟨h'.spare.trans h.spare, h.grows.trans h'.grows,
    fun t ht => (h'.large t ht).trans (h.large t ht)⟩

end Learns

/-- What asking for the type `t` leads to: it is interned under the answer. -/
def Interns (a : Account) (t : DataType) (id : Id) (b : Account) : Prop :=
  b.draft.Interned t id ∧ a.Learns (sizeOf t + 1) b

end Account

namespace Draft

/-- The value is this constant: its type is interned, and it is found again. -/
structure Holds (d : Draft) (c : Constant) (v : Value) : Prop where
  type : d.Interned c.type v.type
  key : d.tables.constants.lookup (c.key v.type) = some v.id

/-- The value is the floating-point number, as a constant of the scalar type `s`. -/
def HoldsFloat (d : Draft) (s : Scalar) (value : Float64Bits) (v : Value) : Prop :=
  ∃ width, s = .float width ∧ d.Holds (.scalar (.float width) (.ofFloat value width)) v

end Draft

namespace Account

/-- The account only learns of types and constants. -/
structure Gains (a b : Account) : Prop where
  spare : b.spare = a.spare
  current : b.draft.current = a.draft.current
  types : ∀ {t : DataType} {id : Id}, a.draft.Interned t id → b.draft.Interned t id
  constants : ∀ {key : ConstantKey} {id : Id}, a.draft.tables.constants.lookup key = some id →
    b.draft.tables.constants.lookup key = some id

namespace Gains

variable {a b c : Account}

theorem refl (a : Account) : a.Gains a := ⟨rfl, rfl, id, id⟩

theorem trans (h : a.Gains b) (h' : b.Gains c) : a.Gains c :=
  ⟨h'.spare.trans h.spare, h'.current.trans h.current, fun ht => h'.types (h.types ht),
    fun hk => h'.constants (h.constants hk)⟩

theorem of_grows (hspare : b.spare = a.spare) (h : a.draft.Grows b.draft) : a.Gains b :=
  ⟨hspare, h.current, h.types, fun hk => by rwa [h.constants]⟩

/-- A constant stays what it is. -/
theorem holds (h : a.Gains b) {c : Constant} {v : Value} (hv : a.draft.Holds c v) :
    b.draft.Holds c v := ⟨h.types hv.type, h.constants hv.key⟩

theorem holdsFloat (h : a.Gains b) {s : Scalar} {value : Float64Bits} {v : Value}
    (hv : a.draft.HoldsFloat s value v) : b.draft.HoldsFloat s value v := by
  obtain ⟨width, rfl, hv⟩ := hv
  exact ⟨width, rfl, h.holds hv⟩

/-- What a new constant needs is learned before it. -/
theorem define (h : a.Gains b) {key : ConstantKey}
    (hnew : b.draft.tables.constants.lookup key = none) (opcode : Opcode) (type : Id)
    (operands : List Operand) :
    a.Gains ⟨b.take.draft.addConstantDefinition key opcode type b.draft.nextId operands, b.spare⟩ ∧
      (b.take.draft.addConstantDefinition key opcode type b.draft.nextId
        operands).tables.constants.lookup key = some b.draft.nextId := by
  have hconstants : (b.take.draft.addConstantDefinition key opcode type b.draft.nextId
      operands).tables.constants = (key, b.draft.nextId) :: b.draft.tables.constants := by
    cases key <;> rfl
  have hkept : b.Gains
      ⟨b.take.draft.addConstantDefinition key opcode type b.draft.nextId operands, b.spare⟩ := by
    refine ⟨rfl, ?_, fun {t id} ht => ?_, fun {other id} hother => ?_⟩
    · cases key <;> rfl
    · cases key <;> exact ht
    · show List.lookup other (b.take.draft.addConstantDefinition key opcode type b.draft.nextId
        operands).tables.constants = some id
      rw [hconstants]
      refine (lookup_cons_of_ne ?_).trans hother
      rintro rfl
      rw [hnew] at hother
      cases hother
  refine ⟨h.trans hkept, ?_⟩
  rw [hconstants]
  exact List.lookup_cons_self

end Gains

theorem Learns.gains {a b : Account} {n : Nat} (h : a.Learns n b) : a.Gains b :=
  .of_grows h.spare h.grows

end Account

namespace Draft

variable {d d' : Draft}

namespace Grows

/-- What defines a type still defines it later. -/
theorem typeDefinition (h : d.Grows d') {t : DataType} {opcode : Opcode} {operands : List Operand}
    (ht : d.TypeDefinition t opcode operands) : d'.TypeDefinition t opcode operands :=
  ht.mono h.types

/-- What defines a constant still defines it later. -/
theorem constantDefinition (h : d.Grows d') {key : ConstantKey} {opcode : Opcode} {type : Id}
    {operands : List Operand} (hk : d.ConstantDefinition key opcode type operands) :
    d'.ConstantDefinition key opcode type operands := by
  cases hk with
  | bool ht => exact .bool (h.types ht)
  | scalar hv ht => exact .scalar hv (h.types ht)
  | composite hv ht =>
      refine .composite (fun v hmem => ?_) (h.types ht)
      obtain ⟨hconstant, hsees⟩ := hv v hmem
      exact ⟨(h.isConstant v.id).trans hconstant, h.sees hsees⟩

end Grows

end Draft

theorem Account.Interns.alike {a b c : Account} {t : DataType} {id : Id} (h : a.Interns t id b)
    (hbc : b.Alike c) : a.Interns t id c :=
  ⟨hbc.grows.types h.1, h.2.trans hbc.learns⟩

/-- After its parts a type is learned by a new id. -/
theorem Account.Learns.define {a b : Account} {t : DataType} (h : a.Learns (sizeOf t) b)
    (hb : b.take.Consistent) (hnew : b.draft.tables.types.lookup t = none) (opcode : Opcode)
    (operands : List Operand) :
    a.Interns t b.draft.nextId
      ⟨b.take.draft.addTypeDefinition b.draft.nextId t opcode operands, b.spare⟩ := by
  have hother {u : DataType} (hu : u ≠ t) :
      ((t, b.draft.nextId) :: b.draft.tables.types).lookup u = b.draft.tables.types.lookup u :=
    lookup_cons_of_ne hu
  refine ⟨List.lookup_cons_self, (h.mono (Nat.le_succ _)).trans ⟨rfl, ⟨rfl, ?_, ?_, ?_⟩, ?_⟩⟩
  · intro u id hu
    refine (hother ?_).trans hu
    rintro rfl
    rw [Draft.Interned, hnew] at hu
    cases hu
  · intro id u hu
    exact (lookup_cons_of_ne (hb.ne_of_lookup hu)).trans hu
  · exact fun _ hmem => hmem
  · intro u hu
    refine hother ?_
    rintro rfl
    exact Nat.not_succ_le_self _ hu

namespace Build

variable {short : Prop} {a : Account}

/-! ### Calls without consequences -/

theorem capability_does (c : Capability) :
    Does short (capability c) a fun _ b => a.Alike b := by
  exact .of_change (.note (.capability c)) ⟨rfl, (Draft.Note.capability c).core,
    Draft.view_eq (a.draft.bare_addCapability c) Draft.frame fun _ => rfl⟩

theorem extension_does (text : String) :
    Does short (extension text) a fun _ b => a.Alike b := by
  exact .of_change (.note (.extension text)) ⟨rfl, (Draft.Note.extension text).core,
    Draft.view_eq (a.draft.bare_addExtension text) Draft.frame fun _ => rfl⟩

theorem decorate_does (target : Id) (decoration : Decoration) (operands : List Operand) :
    Does short (decorate target decoration operands) a fun _ b => a.Alike b := by
  refine .inspect fun _ h => ?_
  have hdefined : a.draft.isDefined target = true := by
    by_contra hnot
    rw [if_neg hnot] at h
    cases h
  exact .of_change (.note (.decorate hdefined)) ⟨rfl, (Draft.Note.decorate hdefined).core,
    Draft.view_eq (a.draft.unannotated_addToAnnotations _) Draft.frame fun _ => rfl⟩

theorem name_does (target : Id) (text : String) :
    Does short (name target text) a fun _ b => a.Alike b := by
  refine .inspect fun _ h => ?_
  have hvisible : a.draft.isVisible target = true := by
    by_contra hnot
    rw [if_neg hnot] at h
    cases h
  exact .of_change (.note (.name hvisible)) ⟨rfl, (Draft.Note.name hvisible).core,
    Draft.view_eq (a.draft.bare_addName _ _ _) Draft.frame fun _ => rfl⟩

/-! ### Types -/

theorem intern_does {t : DataType} {definition : Build (Opcode × List Operand)}
    {complete : Id → Build Unit} (ha : a.Consistent)
    (hdefinition : Does short definition a fun x b =>
      b.draft.TypeDefinition t x.1 x.2 ∧ a.Learns (sizeOf t) b)
    (hcomplete : ∀ id b, b.Consistent → Does short (complete id) b fun _ c => b.Alike c) :
    Does short (intern t definition complete) a (a.Interns t) := by
  unfold intern
  refine .get ?_
  cases hknown : a.draft.tables.types.lookup t with
  | some id => exact .pure ⟨hknown, .refl a⟩
  | none =>
      refine .bind ha hdefinition ?_
      rintro ⟨opcode, operands⟩ b hb ⟨ht, hlearns⟩
      refine .freshId hb fun hb' => ?_
      have hnew : b.draft.tables.types.lookup t = none :=
        (hlearns.large t (Nat.le_refl _)).trans hknown
      refine .change hb' (.defineType hnew ((Draft.Grows.take b).typeDefinition ht)) fun hc => ?_
      have hdefined := hlearns.define hb' hnew opcode operands
      refine .bind hc (hcomplete _ _ hc) fun _ e he hce => .get ?_
      by_cases hsymbols : e.draft.settings.debugSymbols = true
      · rw [if_pos hsymbols]
        refine .bind he (name_does _ _) fun _ f _ hef => .pure ?_
        exact hdefined.alike (hce.trans hef)
      · rw [if_neg hsymbols]
        exact .pure (hdefined.alike hce)

/-- A known type is answered without any change. -/
theorem intern_of_interned {t : DataType} {id : Id} {d : Draft} (h : d.Interned t id)
    (definition : Build (Opcode × List Operand)) (complete : Id → Build Unit) :
    (intern t definition complete).runOn d = (.ok id, d) := by
  rw [intern, runOn_bind_of_ok (runOn_get d), h]
  rfl

theorem scalarId_does (ha : a.Consistent) (s : Scalar) :
    Does short (scalarId s) a (a.Interns (.scalar s)) := by
  refine intern_does ha ?_ fun _ b _ => .pure (.refl b)
  cases s with
  | void => exact .pure ⟨.void, .refl a⟩
  | bool => exact .pure ⟨.bool, .refl a⟩
  | int width signed => exact .pure ⟨.int width signed, .refl a⟩
  | float width =>
      by_cases hwide : width = 64
      · simp only [if_pos hwide]
        exact .bind ha (capability_does _) fun _ b _ hab => .pure ⟨.float width, hab.learns⟩
      · simp only [if_neg hwide]
        exact .pure ⟨.float width, .refl a⟩

theorem imageId_does (ha : a.Consistent) (shape : ImageShape) :
    Does short (imageId shape) a (a.Interns (.image shape)) := by
  refine intern_does ha ?_ fun _ b _ => .pure (.refl b)
  refine .bind ha (scalarId_does ha shape.sampledType) fun component b _ hb => .pure ?_
  refine ⟨.image hb.1, hb.2.mono ?_⟩
  cases shape
  simp
  omega

mutual

/-- **A type is interned under its id.** -/
theorem typeId_does : ∀ (t : DataType) {a : Account}, a.Consistent →
    Does short (typeId t) a (a.Interns t)
  | .scalar s, _, ha => scalarId_does ha s
  | .vector s width, a, ha => by
      refine intern_does ha ?_ fun _ b _ => .pure (.refl b)
      refine .ofExcept fun _ hwidth => .guard fun hs => ?_
      refine .bind ha (scalarId_does ha s) fun component b _ hb => .pure ?_
      refine ⟨.vector (Draft.vector?_eq_ok hwidth).1 hs hb.1, hb.2.mono ?_⟩
      simp
  | .runtimeArray element, a, ha => by
      refine intern_does ha ?_ fun id b hb => .ofArithmetic fun _ _ => decorate_does _ _ _
      refine .bind ha (typeId_does element ha) fun id b _ hb => .pure ⟨.runtimeArray hb.1, hb.2.mono ?_⟩
      simp only [DataType.runtimeArray.sizeOf_spec]
      omega
  | .record members, a, ha => by
      refine intern_does ha ?_ fun _ b _ => .pure (.refl b)
      refine .bind ha (typeIds_does members ha) fun ids b _ hb => .pure ⟨.record hb.1, hb.2.mono ?_⟩
      simp
  | .pointer storage pointee, a, ha => by
      refine intern_does ha ?_ fun _ b _ => .pure (.refl b)
      refine .bind ha (typeId_does pointee ha) fun id b _ hb => .pure ⟨.pointer hb.1, hb.2.mono ?_⟩
      simp only [DataType.pointer.sizeOf_spec]
      omega
  | .image shape, _, ha => imageId_does ha shape
  | .sampler, a, ha => intern_does ha (.pure ⟨.sampler, .refl a⟩) fun _ b _ => .pure (.refl b)
  | .sampledImage inner, a, ha => by
      refine intern_does ha ?_ fun _ b _ => .pure (.refl b)
      cases inner with
      | image shape =>
          refine .bind ha (imageId_does ha shape) fun id b _ hb =>
            .pure ⟨.sampledImage hb.1, hb.2.mono ?_⟩
          simp only [DataType.sampledImage.sizeOf_spec]
          omega
      | _ => exact .reject
  | .function result parameters, a, ha => by
      refine intern_does ha ?_ fun _ b _ => .pure (.refl b)
      refine .bind ha (typeId_does result ha) fun id b hb hresult => ?_
      refine .bind hb (typeIds_does parameters hb) fun ids c _ hc => ?_
      refine .pure ⟨.function (hc.2.grows.types hresult.1) hc.1, ?_⟩
      refine (hresult.2.mono ?_).trans (hc.2.mono ?_)
      · simp only [DataType.function.sizeOf_spec]
        omega
      · simp

/-- Types are interned under their ids, one by one. -/
theorem typeIds_does : ∀ (ts : List DataType) {a : Account}, a.Consistent →
    Does short (typeIds ts) a fun ids b =>
      List.Forall₂ b.draft.Interned ts ids ∧ a.Learns (sizeOf ts) b
  | [], a, _ => .pure ⟨.nil, .refl a⟩
  | t :: ts, a, ha => by
      refine .bind ha (typeId_does t ha) fun id b hb ht => ?_
      refine .bind hb (typeIds_does ts hb) fun ids c _ hc => .pure ⟨?_, ?_⟩
      · exact .cons (hc.2.grows.types ht.1) hc.1
      · refine (ht.2.mono ?_).trans (hc.2.mono ?_)
        · simp only [List.cons.sizeOf_spec]
          omega
        · simp

end

/-- A type that is known is answered without any change. -/
theorem typeId_of_interned {t : DataType} {id : Id} {d : Draft} (h : d.Interned t id) :
    (typeId t).runOn d = (.ok id, d) := by
  cases t <;> exact intern_of_interned h _ _

theorem typeIds_of_interned {ts : List DataType} {ids : List Id} {d : Draft}
    (h : List.Forall₂ d.Interned ts ids) : (typeIds ts).runOn d = (.ok ids, d) := by
  induction h with
  | nil => rfl
  | cons ht _ ih =>
      rw [typeIds, runOn_bind_of_ok (typeId_of_interned ht), runOn_bind_of_ok ih]
      rfl

/-! ### Signatures -/

theorem signature_does (ha : a.Consistent) (result : DataType) (parameters : List DataType) :
    Does short (signature result parameters) a fun s b =>
      b.draft.Signs result parameters s ∧ b.spare = a.spare ∧ a.draft.Grows b.draft := by
  refine .bind ha (typeId_does (.function result parameters) ha) fun type b hb htype => ?_
  refine .bind hb (typeId_does result hb) fun resultId c hc hresult => ?_
  refine .bind hc (typeIds_does parameters hc) fun ids e _ hids => .pure ?_
  have hgrows := hresult.2.grows.trans hids.2.grows
  exact ⟨⟨hgrows.types htype.1, hids.2.grows.types hresult.1, hids.1⟩,
    hids.2.spare.trans (hresult.2.spare.trans htype.2.spare), htype.2.grows.trans hgrows⟩

/-- A signature that is known is answered without any change. -/
theorem signature_of_signs {result : DataType} {parameters : List DataType} {s : Signature}
    {d : Draft} (h : d.Signs result parameters s) :
    (signature result parameters).runOn d = (.ok s, d) := by
  rw [signature, runOn_bind_of_ok (typeId_of_interned h.type),
    runOn_bind_of_ok (typeId_of_interned h.result),
    runOn_bind_of_ok (typeIds_of_interned h.parameters)]
  rfl

/-! ### Imports -/

theorem importSet_does (ha : a.Consistent) (text : String) :
    Does short (importSet text) a fun id b =>
      (text, id) ∈ b.draft.tables.imports ∧ b.spare = a.spare ∧ a.draft.Grows b.draft := by
  unfold importSet
  refine .get ?_
  cases hknown : a.draft.tables.imports.lookup text with
  | some id => exact .pure ⟨mem_of_lookup_eq_some hknown, rfl, .refl _⟩
  | none =>
      refine .freshId ha fun ha' => .change ha' (.importSet hknown) fun _ => .pure ?_
      exact ⟨List.mem_cons_self, rfl, rfl, id, id, fun _ => List.mem_cons_of_mem _⟩

/-! ### Constants -/

/-- The answer of a call for a constant is that constant.  If it is known by its key, then no other
constant may have this key. -/
theorem internConstant_does {c : Constant} {key : ConstantKey}
    {definition : Build (Opcode × Id × List Operand)} (ha : a.Consistent)
    (hkey : ∀ (other : Constant) (type : Id), a.draft.Interned other.type type →
      other.key type = key → other = c)
    (hdefinition : Does short definition a fun x b =>
      b.draft.ConstantDefinition key x.1 x.2.1 x.2.2 ∧ b.draft.Interned c.type x.2.1 ∧
        c.key x.2.1 = key ∧ b.spare = a.spare ∧ a.draft.Grows b.draft) :
    Does short (internConstant key definition) a fun v b => a.Gains b ∧ b.draft.Holds c v := by
  unfold internConstant
  refine .get ?_
  cases hknown : a.draft.tables.constants.lookup key with
  | some id =>
      refine .get ?_
      obtain ⟨other, type, hother, rfl, hmem⟩ := ha.exists_constant hknown
      obtain rfl := hkey other type hother rfl
      simp only [ha.typeOf?_of_mem hmem (other.valueRow?_definition type id)]
      exact .record ha fun _ => .pure ⟨⟨rfl, rfl, fun h => h, fun h => h⟩, hother, hknown⟩
  | none =>
      refine .bind ha hdefinition ?_
      rintro ⟨opcode, type, operands⟩ b hb ⟨hk, htype, rfl, hspare, hgrows⟩
      have hnew : b.draft.tables.constants.lookup (c.key type) = none := by
        rw [hgrows.constants]
        exact hknown
      refine .freshId hb fun hb' => .change hb'
        (.defineConstant hnew ((Draft.Grows.take b).constantDefinition hk)) fun _ => .pure ?_
      obtain ⟨hgains, hfound⟩ :=
        (Account.Gains.of_grows hspare hgrows).define hnew opcode type operands
      refine ⟨hgains, ?_, hfound⟩
      cases c <;> exact htype

theorem constantBool_does (ha : a.Consistent) (value : Bool) :
    Does short (constantBool value) a fun v b =>
      a.Gains b ∧ b.draft.Holds (.bool value) v := by
  refine internConstant_does ha (fun other _ _ hsame => ?_) ?_
  · cases other with
    | bool value => exact congrArg Constant.bool (ConstantKey.bool.inj hsame)
    | scalar | composite => cases hsame
  · refine .bind ha (typeId_does .bool ha) fun type b _ hb => .pure ?_
    exact ⟨.bool hb.1, hb.1, rfl, hb.2.spare, hb.2.grows⟩

theorem constantScalar_does (ha : a.Consistent) (t : DataType) (value : Literal) :
    Does short (constantScalar t value) a fun v b =>
      a.Gains b ∧ b.draft.Holds (.scalar t value) v := by
  refine .ofExcept fun _ hsuits => .bind ha (typeId_does t ha) fun type b hb htype => ?_
  refine (internConstant_does (c := .scalar t value) hb (fun other _ hother hsame => ?_) ?_).mono ?_
  · cases other with
    | scalar t' value' =>
        obtain ⟨rfl, rfl⟩ := ConstantKey.scalar.inj hsame
        obtain rfl : t' = t := hb.eq_of_interned hother htype.1
        rfl
    | bool | composite => cases hsame
  · exact .pure ⟨.scalar hsuits htype.1, htype.1, rfl, rfl, .refl _⟩
  · exact fun v c _ hc => ⟨htype.2.gains.trans hc.1, hc.2⟩

theorem constantComposite_does (ha : a.Consistent) (t : DataType) (values : List Value) :
    Does short (constantComposite t values) a fun v b =>
      a.draft.compositeOf t values = .ok () ∧ a.Gains b ∧
        b.draft.Holds (.composite t (values.map Value.id)) v := by
  refine .inspect fun _ hcheck => .bind ha (typeId_does t ha) fun type b hb htype => ?_
  obtain ⟨s, rfl, hvalues⟩ := Draft.compositeOf_ok hcheck
  have hdefinition : b.draft.ConstantDefinition (.composite type (values.map Value.id))
      .constantComposite type ((values.map Value.id).map .id) := by
    refine .composite (fun v hv => ?_) htype.1
    obtain ⟨hconstant, hsees⟩ := hvalues v hv
    exact ⟨(htype.2.grows.isConstant v.id).trans hconstant, htype.2.grows.sees hsees⟩
  let c : Constant := .composite (.vector s (UInt32.ofNat values.length)) (values.map Value.id)
  refine (internConstant_does (c := c) hb (fun other _ hother hsame => ?_) ?_).mono ?_
  · cases other with
    | composite t' parts =>
        obtain ⟨rfl, rfl⟩ := ConstantKey.composite.inj hsame
        obtain rfl := hb.eq_of_interned hother htype.1
        rfl
    | bool | scalar => cases hsame
  · exact .pure ⟨hdefinition, htype.1, rfl, rfl, .refl _⟩
  · exact fun v c _ hc => ⟨hcheck, htype.2.gains.trans hc.1, hc.2⟩

theorem constFloat_does (ha : a.Consistent) (s : Scalar) (value : Float64Bits) :
    Does short (constFloat s value) a fun v b =>
      a.Gains b ∧ b.draft.HoldsFloat s value v := by
  cases s with
  | float width => exact (constantScalar_does ha _ _).mono fun v b _ hb => ⟨hb.1, width, rfl, hb.2⟩
  | _ => exact .reject

theorem constFloats_does (s : Scalar) (values : List Float64Bits) {a : Account}
    (ha : a.Consistent) : Does short (constFloats s values) a fun vs b =>
      a.Gains b ∧ List.Forall₂ (b.draft.HoldsFloat s) values vs := by
  induction values generalizing a with
  | nil => exact .pure ⟨.refl a, .nil⟩
  | cons x xs ih =>
      refine .bind ha (constFloat_does ha s x) ?_
      rintro v b hb ⟨hab, hv⟩
      refine .bind hb (ih hb) ?_
      rintro vs c - ⟨hbc, hvs⟩
      exact .pure ⟨hab.trans hbc, .cons (hbc.holdsFloat hv) hvs⟩

theorem constVector_does (ha : a.Consistent) (s : Scalar) (values : List Float64Bits) :
    Does short (constVector s values) a fun v b =>
      a.Gains b ∧ ∃ vs, List.Forall₂ (b.draft.HoldsFloat s) values vs ∧
        b.draft.Holds (.composite (.vector s (UInt32.ofNat values.length)) (vs.map Value.id)) v := by
  refine .ofExcept fun t ht => .bind ha (constFloats_does s values ha) ?_
  obtain rfl := (Draft.vector?_eq_ok ht).2
  rintro vs b hb ⟨hab, hvs⟩
  refine (constantComposite_does hb _ vs).mono ?_
  rintro v c - ⟨-, hbc, hv⟩
  exact ⟨hab.trans hbc, vs, hvs.imp fun _ _ => hbc.holdsFloat, hv⟩

end Build

end FrameShader
