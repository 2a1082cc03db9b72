/-
Decoding: the globals say what was asked for.

From an id, the type that it stands for is found by following the instructions that define it and its
parts.  Nothing keeps an instruction from referring to itself, so the depth is bounded, and what has
to be shown is that the number of globals is deep enough: a definition only refers to what stands
before it.  A constant is decoded in the same way, with its type and its bits or its parts.

Main definitions:

* `FrameShader.followType`, `FrameShader.typeAt?` — the type that an id stands for;
* `FrameShader.constantAt?` — the constant that an id stands for.

Main results:

* `FrameShader.followType_of_lookup` — what is read from front to back is found by following;
* `FrameShader.Account.Consistent.followType_eq` — an interned type is found from its id;
* `FrameShader.Account.Consistent.constantAt?_eq` — a known constant is found from its value;
* `FrameShader.Draft.globals_decode` — **the globals decode to what was asked for**.
-/

import FrameShader.Proofs.Draft.Uniqueness

set_option relaxedAutoImplicit false
set_option autoImplicit false

namespace FrameShader

/-! ### Following definitions -/

/-- The types of what an instruction refers to. -/
def Instruction.partTypes (i : Instruction) (types : Id → Option DataType) : List (Id × DataType) :=
  i.references.filterMap fun part => (types part).map (part, ·)

/-- The type that an id stands for, following definitions no deeper than `depth`. -/
def followType (is : List Instruction) : Nat → Id → Option DataType
  | 0, _ => none
  | depth + 1, id => (definitionIn? is id).bind fun i => i.dataType? (i.partTypes (followType is depth))

theorem followType_succ (is : List Instruction) (depth : Nat) (id : Id) :
    followType is (depth + 1) id =
      (definitionIn? is id).bind fun i => i.dataType? (i.partTypes (followType is depth)) := rfl

/-- The type that an id stands for. -/
def typeAt? (is : List Instruction) (id : Id) : Option DataType := followType is is.length id

/-- The constant that an instruction defines, given the types that ids stand for. -/
def Instruction.constant? (types : Id → Option DataType) (i : Instruction) : Option Constant :=
  match i.opcode, i.resultType.bind types, i.operands with
  | .constantTrue, some (.scalar .bool), [] => some (.bool true)
  | .constantFalse, some (.scalar .bool), [] => some (.bool false)
  | .constant, some t, [operand] => (literalOf? operand).map (.scalar t)
  | .constantComposite, some t, parts => (parts.mapM Operand.id?).map (.composite t)
  | _, _, _ => none

/-- The constant that an id stands for. -/
def constantAt? (is : List Instruction) (id : Id) : Option Constant :=
  (definitionIn? is id).bind fun i => i.constant? (typeAt? is)

/-! ### Reading with more known -/

section known

variable {known known' : List (Id × DataType)}

theorem operandTypes?_mono {operands : List Operand}
    (h : ∀ id ∈ operands.filterMap Operand.id?, ∀ t, known.lookup id = some t →
      known'.lookup id = some t) {ts : List DataType} (hts : operandTypes? known operands = some ts) :
    operandTypes? known' operands = some ts := by
  unfold operandTypes? at hts ⊢
  induction operands generalizing ts with
  | nil => exact hts
  | cons operand operands ih =>
      simp only [List.mapM_cons, Option.bind_eq_bind, Option.bind_eq_some_iff] at hts ⊢
      obtain ⟨t, ⟨id, hid, ht⟩, us, hus, hts⟩ := hts
      rw [List.filterMap_cons_some hid] at h
      refine ⟨t, ⟨id, hid, h id List.mem_cons_self t ht⟩, us, ih (fun part hpart => ?_) hus, hts⟩
      exact h part (List.mem_cons_of_mem _ hpart)

/-- What is made of a scalar part. -/
theorem scalarPart_mono {part : Id} {f : Scalar → DataType} {t : DataType}
    (h : ∀ u, known.lookup part = some u → known'.lookup part = some u)
    (ht : (match known.lookup part with | some (.scalar s) => some (f s) | _ => none) = some t) :
    (match known'.lookup part with | some (.scalar s) => some (f s) | _ => none) = some t := by
  cases hpart : known.lookup part with
  | none =>
      rw [hpart] at ht
      cases ht
  | some u =>
      rw [hpart] at ht
      rw [h u hpart]
      exact ht

/-- The definition of a type says the same if its parts are known to be the same. -/
theorem Draft.TypeDefinition.dataType?_mono {d : Draft} {t u : DataType} {opcode : Opcode}
    {operands : List Operand} (hi : d.TypeDefinition t opcode operands) (id : Id)
    (h : ∀ part ∈ operands.filterMap Operand.id?, ∀ v, known.lookup part = some v →
      known'.lookup part = some v)
    (hu : (Instruction.defining opcode id operands).dataType? known = some u) :
    (Instruction.defining opcode id operands).dataType? known' = some u := by
  cases hi with
  | void | bool | int | float | sampler => exact hu
  | @vector _ width =>
      exact scalarPart_mono (f := fun s => .vector s width) (h _ List.mem_cons_self) hu
  | @image shape =>
      exact scalarPart_mono (f := fun s =>
          .image { shape with sampledType := s, arrayed := _, multisampled := _ })
        (h _ List.mem_cons_self) hu
  | runtimeArray | pointer | sampledImage =>
      obtain ⟨v, hv, rfl⟩ := Option.map_eq_some_iff.1 hu
      exact Option.map_eq_some_iff.2 ⟨v, h _ List.mem_cons_self v hv, rfl⟩
  | record =>
      obtain ⟨ts, hts, rfl⟩ := Option.map_eq_some_iff.1 hu
      exact Option.map_eq_some_iff.2 ⟨ts, operandTypes?_mono h hts, rfl⟩
  | function =>
      obtain ⟨v, hv, hu⟩ := Option.bind_eq_some_iff.1 hu
      obtain ⟨ts, hts, rfl⟩ := Option.map_eq_some_iff.1 hu
      refine Option.bind_eq_some_iff.2 ⟨v, h _ List.mem_cons_self v hv, ?_⟩
      refine Option.map_eq_some_iff.2 ⟨ts, operandTypes?_mono (fun part hpart => ?_) hts, rfl⟩
      exact h part (List.mem_cons_of_mem _ hpart)

/-- A global says the same of the type that it defines if the parts are known to be the same. -/
theorem Draft.Entry.dataType?_mono {d : Draft} {i : Instruction} (hi : d.Entry i)
    (h : ∀ part ∈ i.references, ∀ u, known.lookup part = some u → known'.lookup part = some u)
    {t : DataType} (ht : i.dataType? known = some t) : i.dataType? known' = some t := by
  cases hi with
  | type hi => exact hi.dataType?_mono _ h ht
  | @constant c =>
      rw [c.dataType?_definition] at ht
      cases ht
  | «variable» => cases ht

end known

/-! ### What is read is found -/

/-- The type of a part is where it came from. -/
theorem Instruction.lookup_partTypes {i : Instruction} {types : Id → Option DataType} {part : Id}
    {t : DataType} (hpart : part ∈ i.references) (ht : types part = some t) :
    (i.partTypes types).lookup part = some t := by
  unfold partTypes
  generalize i.references = parts at hpart
  induction parts with
  | nil => cases hpart
  | cons id ids ih =>
      by_cases hid : part = id
      · subst hid
        rw [List.filterMap_cons_some (by rw [ht]; rfl)]
        exact List.lookup_cons_self
      · have hmem : part ∈ ids := (List.mem_cons.1 hpart).resolve_left hid
        cases hother : types id with
        | none =>
            rw [List.filterMap_cons_none (by rw [hother]; rfl)]
            exact ih hmem
        | some u =>
            rw [List.filterMap_cons_some (by rw [hother]; rfl), lookup_cons_of_ne hid]
            exact ih hmem

/-- What is read was defined by an instruction, from what was read before it. -/
theorem exists_of_lookup_readTypes {is : List Instruction} {id : Id} {t : DataType}
    (ht : (readTypes is).lookup id = some t) :
    ∃ init i, init ++ [i] <+: is ∧ i.result = some id ∧ i.dataType? (readTypes init) = some t := by
  -- induction from the end: the last instruction is the one, or it has changed nothing
  induction is using List.reverseRecOn with
  | nil => cases ht
  | append_singleton is i ih =>
      rw [readTypes_append_singleton, readType] at ht
      have hearlier (h : (readTypes is).lookup id = some t) :
          ∃ init j, init ++ [j] <+: is ++ [i] ∧ j.result = some id ∧
            j.dataType? (readTypes init) = some t := by
        obtain ⟨init, j, hprefix, hj⟩ := ih h
        exact ⟨init, j, hprefix.trans (List.prefix_append is [i]), hj⟩
      cases hresult : i.result with
      | none =>
          rw [hresult] at ht
          exact hearlier ht
      | some target =>
          cases hread : i.dataType? (readTypes is) with
          | none =>
              rw [hresult, hread] at ht
              exact hearlier ht
          | some u =>
              rw [hresult, hread] at ht
              by_cases hid : id = target
              · subst hid
                rw [List.lookup_cons_self] at ht
                cases ht
                exact ⟨is, i, List.prefix_rfl, hresult, hread⟩
              · rw [lookup_cons_of_ne hid] at ht
                exact hearlier ht

/-- **What is read from front to back is found by following**, no deeper than there are
instructions. -/
theorem followType_of_lookup {d : Draft} {is : List Instruction} (hentries : ∀ i ∈ is, d.Entry i)
    (h : (resultsOf is).Nodup) (depth : Nat) {before : List Instruction} (hbefore : before <+: is)
    (hdepth : before.length ≤ depth) {id : Id} {t : DataType}
    (ht : (readTypes before).lookup id = some t) : followType is depth id = some t := by
  -- The parts of a definition were read before it, so from a shorter list.
  induction depth generalizing before id t with
  | zero =>
      rw [List.length_eq_zero_iff.1 (Nat.le_zero.1 hdepth)] at ht
      cases ht
  | succ depth ih =>
      obtain ⟨init, i, hi, hid, hread⟩ := exists_of_lookup_readTypes ht
      have hmem : i ∈ is :=
        (hi.trans hbefore).subset (List.mem_append_right _ List.mem_cons_self)
      have hinit : init <+: is := (List.prefix_append init [i]).trans (hi.trans hbefore)
      have hshorter : init.length ≤ depth := by
        have hlength := hi.length_le
        rw [List.length_append, List.length_singleton] at hlength
        omega
      rw [followType_succ, (definitionIn?_eq_some h).2 ⟨hmem, hid⟩, Option.bind_some]
      refine (hentries i hmem).dataType?_mono (fun part hpart u hu => ?_) hread
      exact Instruction.lookup_partTypes hpart (ih hinit hshorter hu)

/-! ### What is known is found -/

/-- References to ids are read back. -/
theorem mapM_id?_ids (ids : List Id) : (ids.map Operand.id).mapM Operand.id? = some ids := by
  induction ids with
  | nil => rfl
  | cons id ids ih =>
      rw [List.map_cons, List.mapM_cons, ih]
      rfl

/-- The instruction of a constant says which constant it is. -/
theorem Constant.constant?_definition {c : Constant} {types : Id → Option DataType} {type : Id}
    (ht : types type = some c.type) (id : Id) :
    (c.definition type id).constant? types = some c := by
  cases c with
  | bool value =>
      cases value <;>
        simp [definition, Instruction.typed, Instruction.constant?, opcode, operands, ht,
          Constant.type, DataType.bool]
  | scalar t value =>
      cases value <;>
        simp [definition, Instruction.typed, Instruction.constant?, opcode, operands, ht,
          Constant.type, Literal.operand, Instruction.literalOf?]
  | composite t parts =>
      simp only [definition, Instruction.typed, Instruction.constant?, opcode, operands,
        Option.bind_some, ht, Constant.type, mapM_id?_ids, Option.map_some]

namespace Account.Consistent

variable {d : Draft} {ids : List Id}

/-- **An interned type is found from its id**, and following deeper changes nothing. -/
theorem followType_eq (h : Consistent ⟨d, ids⟩) {t : DataType} {id : Id} (ht : d.Interned t id)
    {depth : Nat} (hdepth : d.sections.globals.length ≤ depth) :
    followType d.sections.globals depth id = some t := by
  refine followType_of_lookup (fun i => h.entry) h.nodup_globals depth List.prefix_rfl hdepth ?_
  have htypes : d.tables.dataTypes = readTypes d.sections.globals := h.types
  rw [← htypes]
  exact h.lookup_dataTypes ht

theorem typeAt?_eq (h : Consistent ⟨d, ids⟩) {t : DataType} {id : Id} (ht : d.Interned t id) :
    typeAt? d.sections.globals id = some t := h.followType_eq ht (Nat.le_refl _)

/-- **A known constant is found from its value.** -/
theorem constantAt?_eq (h : Consistent ⟨d, ids⟩) {c : Constant} {v : Value} (hc : d.Holds c v) :
    constantAt? d.sections.globals v.id = some c := by
  have hdefinition : definitionIn? d.sections.globals v.id = some (c.definition v.type v.id) :=
    (definitionIn?_eq_some h.nodup_globals).2 ⟨h.definition_mem hc, rfl⟩
  rw [constantAt?, hdefinition, Option.bind_some]
  exact Constant.constant?_definition (h.typeAt?_eq hc.type) v.id

end Account.Consistent

/-! ### Parts of composites -/

namespace Account.Consistent

open Build

variable {a : Account}

/-- The parts of a composite are constants of its component type, and they stay what they are. -/
theorem parts_after (ha : a.Consistent) (hunique : a.Unique) (ps : List Operation) {t : DataType}
    {values : List Value} {v : Value} {e : Draft}
    (hrun : (constantComposite t values).runOn a.draft = (.ok v, e)) :
    ∃ b, a.Changes False True b ∧ b.draft = e.after ps ∧
      ∃ s, t = .vector s (UInt32.ofNat values.length) ∧
        ∀ part ∈ values, ∃ c : Constant, c.type = .scalar s ∧ b.draft.Holds c part := by
  have hdoes : Does False (constantComposite t values) a _ := constantComposite_does ha t values
  obtain ⟨b, c, ⟨hcheck, -⟩, -, -, hac, hc⟩ := hdoes.exists_after ha ps hrun
  obtain ⟨s, ht, hvalues⟩ := Draft.compositeOf_ok hcheck
  refine ⟨c, hac, hc, s, ht, fun part hpart => ?_⟩
  obtain ⟨hconstant, hsees⟩ := hvalues part hpart
  obtain ⟨k, hk, hholds⟩ := hunique.exists_holds ha hconstant hsees
  exact ⟨k, hk, hac.holds ha hholds⟩

/-- The components of a vector are the numbers that were asked for, in their order, and they stay
what they are. -/
theorem components_after (ha : a.Consistent) (ps : List Operation) {s : Scalar}
    {values : List Float64Bits} {v : Value} {e : Draft}
    (hrun : (constVector s values).runOn a.draft = (.ok v, e)) :
    ∃ b, a.Changes False True b ∧ b.draft = e.after ps ∧
      ∃ vs, List.Forall₂ (b.draft.HoldsFloat s) values vs ∧
        b.draft.Holds (.composite (.vector s (UInt32.ofNat values.length)) (vs.map Value.id)) v := by
  have hdoes : Does False (constVector s values) a _ := constVector_does ha s values
  obtain ⟨b, c, ⟨-, vs, hvs, hv⟩, hb, hbc, hac, hc⟩ := hdoes.exists_after ha ps hrun
  refine ⟨c, hac, hc, vs, hvs.imp fun value w hw => ?_, hbc.holds hb hv⟩
  obtain ⟨width, rfl, hw⟩ := hw
  exact ⟨width, rfl, hbc.holds hb hw⟩

end Account.Consistent

/-! ### Decoding over whole runs -/

namespace Draft

open Build

/-- **The globals decode to what was asked for.**  On any draft that calls lead to, and after any
further calls, failed ones included:

* the definition of a type that was answered is followed to its end, however deep one may go, and
  that gives the type;
* the definition of a constant that was answered gives its type with its truth value, its bits or its
  parts in their order;
* the parts of a composite are constants of its component type;
* the components of a vector of numbers are these numbers, in their order. -/
theorem globals_decode (settings : ModuleSettings) (os ps : List Operation) :
    let d := (Draft.empty settings).after os
    (∀ (t : DataType) (id : Id) (e : Draft), (typeId t).runOn d = (.ok id, e) →
      ∀ depth, (e.after ps).sections.globals.length ≤ depth →
        followType (e.after ps).sections.globals depth id = some t) ∧
    (∀ (o : Operation) (answer : Answer) (e : Draft), o.isConstant = true →
      o.run.runOn d = (.ok answer, e) →
      ∃ v c, answer = .value v ∧ d.asked? o = some c ∧
        constantAt? (e.after ps).sections.globals v.id = some c ∧
        typeAt? (e.after ps).sections.globals v.type = some c.type) ∧
    (∀ (t : DataType) (values : List Value) (v : Value) (e : Draft),
      (constantComposite t values).runOn d = (.ok v, e) →
      ∃ s, t = .vector s (UInt32.ofNat values.length) ∧
        ∀ part ∈ values, ∃ c : Constant, c.type = .scalar s ∧
          constantAt? (e.after ps).sections.globals part.id = some c) ∧
    (∀ (s : Scalar) (values : List Float64Bits) (v : Value) (e : Draft),
      (constVector s values).runOn d = (.ok v, e) →
      ∃ parts, constantAt? (e.after ps).sections.globals v.id =
          some (.composite (.vector s (UInt32.ofNat values.length)) parts) ∧
        List.Forall₂ (fun value part => ∃ width, s = .float width ∧
          constantAt? (e.after ps).sections.globals part =
            some (.scalar (.float width) (.ofFloat value width))) values parts) := by
  obtain ⟨a, ha, hchanges, hconsistent⟩ := run_account False settings os False.elim
  have hunique := hchanges.unique (.empty settings)
  rw [← ha]
  refine ⟨fun t id e hrun => ?types, fun o answer e ho hrun => ?constants,
    fun t values v e hrun => ?parts, fun s values v e hrun => ?components⟩
  case types =>
    obtain ⟨b, hab, hb, ht⟩ := hconsistent.typeId_after ps hrun
    rw [← hb]
    exact fun depth => (hconsistent.after hab).followType_eq ht
  case constants =>
    obtain ⟨b, v, c, hab, hb, hanswer, hasked, hv⟩ := hconsistent.run_holds_after ps ho hrun
    have hconsistent' := hconsistent.after hab
    rw [← hb]
    exact ⟨v, c, hanswer, hasked, hconsistent'.constantAt?_eq hv, hconsistent'.typeAt?_eq hv.type⟩
  case parts =>
    obtain ⟨b, hab, hb, s, ht, hparts⟩ := hconsistent.parts_after hunique ps hrun
    rw [← hb]
    refine ⟨s, ht, fun part hpart => ?_⟩
    obtain ⟨c, hc, hholds⟩ := hparts part hpart
    exact ⟨c, hc, (hconsistent.after hab).constantAt?_eq hholds⟩
  case components =>
    obtain ⟨b, hab, hb, vs, hvs, hv⟩ := hconsistent.components_after ps hrun
    have hconsistent' := hconsistent.after hab
    rw [← hb]
    refine ⟨vs.map Value.id, hconsistent'.constantAt?_eq hv, ?_⟩
    refine List.forall₂_map_right_iff.2 (hvs.imp fun value w hw => ?_)
    obtain ⟨width, rfl, hw⟩ := hw
    exact ⟨width, rfl, hconsistent'.constantAt?_eq hw⟩

/-- After the sample, a function on a pointer to a record and a vector of two numbers decode, with a
rejected call and the sample itself after them. -/
theorem globals_decode_of_sample :
    let d := (Draft.empty {}).after sampleCalls
    let t := DataType.function (.vector (.float 32) 2)
      [.pointer .uniform (.record [.float 64, .runtimeArray .uint32])]
    let ps := Operation.typeId (.vector (.float 32) 7) :: sampleCalls
    (∃ id e, (typeId t).runOn d = (.ok id, e) ∧ typeAt? (e.after ps).sections.globals id = some t) ∧
    ∃ v e parts, (constVector (.float 32) [.ofInt 1, .ofInt 2]).runOn d = (.ok v, e) ∧
      constantAt? (e.after ps).sections.globals v.id =
        some (.composite (.vector (.float 32) 2) parts) := by
  intro d t ps
  obtain ⟨htypes, -, -, hcomponents⟩ := globals_decode {} sampleCalls ps
  constructor
  · obtain ⟨id, e, hrun⟩ : ∃ id e, (typeId t).runOn d = (.ok id, e) :=
      exists_of_isOk (by decide +kernel)
    exact ⟨id, e, hrun, htypes t id e hrun _ (Nat.le_refl _)⟩
  · obtain ⟨v, e, hrun⟩ : ∃ v e,
        (constVector (.float 32) [.ofInt 1, .ofInt 2]).runOn d = (.ok v, e) :=
      exists_of_isOk (by decide +kernel)
    obtain ⟨parts, hparts, -⟩ := hcomponents _ _ v e hrun
    exact ⟨v, e, parts, hrun, hparts⟩

end Draft

end FrameShader
