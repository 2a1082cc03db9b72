/-
Uniqueness: interning is a bijection, over whole runs.

A type that was answered stays interned under its id, and so does a constant, whatever is called in
between and whether it succeeds.  So two requests, however far apart, get the same answer exactly if
they ask for the same thing.  The instructions tell the same: apart from variables, no two globals say
the same, because each of them is the definition of a type or a constant that was not known.

Main definitions:

* `FrameShader.Operation.isConstant`, `FrameShader.Draft.asked?` — calls for constants, and what they
  ask for;
* `FrameShader.Account.Unique` — every type and every constant is interned once.

Main results:

* `FrameShader.Operation.run_holds` — a call for a constant answers with the constant it asks for;
* `FrameShader.Account.Changes.holds` — a constant stays what it is;
* `FrameShader.Draft.interning_bijective` — **interning is a bijection**.
-/

import FrameShader.Proofs.Draft.Growth
import FrameShader.Proofs.Draft.Runs

set_option relaxedAutoImplicit false
set_option autoImplicit false

namespace FrameShader

/-! ### Calls for constants -/

/-- The call asks for a constant. -/
def Operation.isConstant : Operation → Bool
  | .constantBool _ | .constantScalar _ _ | .constantComposite _ _ => true
  | .constUInt _ | .constFloat _ _ | .constVector _ _ => true
  | _ => false

/-- The constant that a call asks for.  A vector is asked for by the constants of its components. -/
def Draft.asked? (d : Draft) : Operation → Option Constant
  | .constantBool value => some (.bool value)
  | .constantScalar t value => some (.scalar t value)
  | .constantComposite t parts => some (.composite t (parts.map Value.id))
  | .constUInt value => some (.scalar .uint32 (.bits32 value))
  | .constFloat (.float width) value => some (.scalar (.float width) (.ofFloat value width))
  | .constVector s values =>
      match DataType.vector? s (UInt32.ofNat values.length),
        ((Build.constFloats s values).runOn d).1 with
      | .ok t, .ok parts => some (.composite t (parts.map Value.id))
      | _, _ => none
  | _ => none

section calls

open Build

variable {a : Account}

/-- A vector is made of the constants of its components. -/
theorem constVector_holds (ha : a.Consistent) (s : Scalar) (values : List Float64Bits) :
    Does False (constVector s values) a fun v b =>
      ∃ c, a.draft.asked? (.constVector s values) = some c ∧ b.draft.Holds c v := by
  rw [constVector, Draft.asked?]
  refine .ofExcept fun t ht => ?_
  rw [ht]
  have hdoes := (constFloats_does s values ha : Does False (constFloats s values) a _)
  unfold Does at hdoes
  rcases hrun : (constFloats s values).runOn a.draft with ⟨e | parts, d⟩
  · unfold Does
    rw [hrun] at hdoes
    rw [runOn_bind, hrun]
    exact hdoes
  · rw [hrun] at hdoes
    obtain ⟨b, rfl, hchanges, -⟩ := hdoes
    refine .of_changes hchanges (runOn_bind_of_ok hrun) ?_
    exact (constantComposite_does (ha.after hchanges) t parts).mono fun v c _ hc => ⟨_, rfl, hc.2.2⟩

/-- **A call for a constant answers with the constant it asks for.** -/
theorem Operation.run_holds (o : Operation) (ho : o.isConstant = true) (ha : a.Consistent) :
    Does False o.run a fun answer b =>
      ∃ v c, answer = .value v ∧ a.draft.asked? o = some c ∧ b.draft.Holds c v := by
  cases o with
  | constantBool value =>
      exact .map (constantBool_does ha value) fun v _ h => ⟨v, _, rfl, rfl, h.2⟩
  | constantScalar t value =>
      exact .map (constantScalar_does ha t value) fun v _ h => ⟨v, _, rfl, rfl, h.2⟩
  | constantComposite t parts =>
      exact .map (constantComposite_does ha t parts) fun v _ h => ⟨v, _, rfl, rfl, h.2.2⟩
  | constUInt value =>
      exact .map (constantScalar_does ha _ _) fun v _ h => ⟨v, _, rfl, rfl, h.2⟩
  | constFloat s value =>
      refine .map (constFloat_does ha s value) ?_
      rintro v b ⟨-, width, rfl, hv⟩
      exact ⟨v, _, rfl, rfl, hv⟩
  | constVector s values =>
      refine .map (constVector_holds ha s values) ?_
      rintro v b ⟨c, hc, hv⟩
      exact ⟨v, c, rfl, hc, hv⟩
  | _ => cases ho

end calls

/-! ### What is interned stays interned -/

namespace Account

variable {short exhausted : Prop} {a b : Account}

/-- A constant that is known stays known. -/
theorem Change.constants (h : Change short exhausted a b) {key : ConstantKey} {id : Id}
    (hk : a.draft.tables.constants.lookup key = some id) :
    b.draft.tables.constants.lookup key = some id := by
  cases h with
  | @defineConstant d target ids new opcode type operands hnew _ =>
      have hconstants : (d.addConstantDefinition new opcode type target operands).tables.constants =
          (new, target) :: d.tables.constants := by
        cases new <;> rfl
      show List.lookup key (d.addConstantDefinition new opcode type target operands).tables.constants
        = some id
      rw [hconstants]
      refine (lookup_cons_of_ne ?_).trans hk
      rintro rfl
      rw [show d.tables.constants.lookup key = some id from hk] at hnew
      cases hnew
  | note hnote => exact (hnote.unseen (·.tables.constants.lookup key) fun _ => rfl).trans hk
  | _ => exact hk

/-- **A constant stays what it is.** -/
theorem Changes.holds (h : Changes short exhausted a b) (ha : a.Consistent) {c : Constant}
    {v : Value} (hc : a.draft.Holds c v) : b.draft.Holds c v where
  type := (h.extends ha).types hc.type
  key := h.preserves (P := fun a => a.draft.tables.constants.lookup (c.key v.type) = some v.id)
    (fun hstep hk => hstep.constants hk) hc.key

namespace Consistent

variable {d : Draft} {ids : List Id}

/-- One id for each type, and one type for each id. -/
theorem interned_inj (h : Consistent ⟨d, ids⟩) {t u : DataType} {id id' : Id} (ht : d.Interned t id)
    (hu : d.Interned u id') : id = id' ↔ t = u := by
  constructor
  · rintro rfl
    exact h.eq_of_interned ht hu
  · rintro rfl
    exact Option.some.inj (ht.symm.trans hu)

/-- Constants that are known by different keys have different ids. -/
theorem eq_of_constants (h : Consistent ⟨d, ids⟩) {key key' : ConstantKey} {id : Id}
    (hk : d.tables.constants.lookup key = some id)
    (hk' : d.tables.constants.lookup key' = some id) : key = key' := by
  have hmem := mem_of_lookup_eq_some hk
  have hmem' := mem_of_lookup_eq_some hk'
  have hconstants : d.tables.constants = rowsOf Instruction.constantRow? d.sections.globals :=
    h.constants
  rw [hconstants, mem_rowsOf] at hmem hmem'
  obtain ⟨i, hi, hrow⟩ := hmem
  obtain ⟨j, hj, hrow'⟩ := hmem'
  obtain rfl := eq_of_results h.nodup_globals hi hj (Instruction.result_of_constantRow? hrow)
    (Instruction.result_of_constantRow? hrow')
  rw [hrow] at hrow'
  cases hrow'
  rfl

/-- A key belongs to one constant. -/
theorem eq_of_key (h : Consistent ⟨d, ids⟩) {c c' : Constant} {type type' : Id}
    (ht : d.Interned c.type type) (ht' : d.Interned c'.type type')
    (hkey : c.key type = c'.key type') : c = c' ∧ type = type' := by
  cases c with
  | bool value =>
      cases c' with
      | bool value' =>
          obtain rfl : value = value' := ConstantKey.bool.inj hkey
          exact ⟨rfl, (h.interned_inj ht ht').2 rfl⟩
      | scalar | composite => cases hkey
  | scalar t value =>
      cases c' with
      | scalar t' value' =>
          obtain ⟨rfl, rfl⟩ := ConstantKey.scalar.inj hkey
          obtain rfl : t = t' := h.eq_of_interned ht ht'
          exact ⟨rfl, rfl⟩
      | bool | composite => cases hkey
  | composite t parts =>
      cases c' with
      | composite t' parts' =>
          obtain ⟨rfl, rfl⟩ := ConstantKey.composite.inj hkey
          obtain rfl : t = t' := h.eq_of_interned ht ht'
          exact ⟨rfl, rfl⟩
      | bool | scalar => cases hkey

/-- **One value for each constant, and one constant for each value.** -/
theorem holds_inj (h : Consistent ⟨d, ids⟩) {c c' : Constant} {v v' : Value} (hc : d.Holds c v)
    (hc' : d.Holds c' v') : v = v' ↔ c = c' := by
  constructor
  · rintro rfl
    exact (h.eq_of_key hc.type hc'.type (h.eq_of_constants hc.key hc'.key)).1
  · rintro rfl
    have htype : v.type = v'.type := (h.interned_inj hc.type hc'.type).2 rfl
    have hid : v.id = v'.id := by
      have hkey := hc.key
      rw [htype, hc'.key] at hkey
      exact (Option.some.inj hkey).symm
    cases v
    cases v'
    exact congrArg₂ Value.mk hid htype

/-- The constant that a value is stands among the globals. -/
theorem definition_mem (h : Consistent ⟨d, ids⟩) {c : Constant} {v : Value} (hc : d.Holds c v) :
    c.definition v.type v.id ∈ d.sections.globals := by
  obtain ⟨c', type, ht, hkey, hmem⟩ := h.exists_constant hc.key
  obtain ⟨rfl, rfl⟩ := h.eq_of_key hc.type ht hkey
  exact hmem

end Consistent

/-! ### No global is written twice -/

/-- Every type and every constant is interned once. -/
structure Unique (a : Account) : Prop where
  types : (a.draft.tables.types.map Prod.fst).Nodup
  constants : (a.draft.tables.constants.map Prod.fst).Nodup

theorem Unique.empty (settings : ModuleSettings) : Unique ⟨Draft.empty settings, []⟩ :=
  ⟨List.nodup_nil, List.nodup_nil⟩

/-- A new key keeps the keys of a table different. -/
theorem nodup_keys_cons {α β : Type} [BEq α] [LawfulBEq α] {table : List (α × β)} {k : α} (v : β)
    (hnew : table.lookup k = none) (h : (table.map Prod.fst).Nodup) :
    (((k, v) :: table).map Prod.fst).Nodup := by
  refine List.nodup_cons.2 ⟨fun hmem => ?_, h⟩
  obtain ⟨⟨_, w⟩, hentry, rfl⟩ := List.mem_map.1 hmem
  rw [lookup_eq_some_of_mem h hentry] at hnew
  cases hnew

/-- **Only what is not known is defined.** -/
theorem Change.unique (hstep : Change short exhausted a b) (h : a.Unique) : b.Unique := by
  cases hstep with
  | defineType hnew => exact ⟨nodup_keys_cons _ hnew h.types, h.constants⟩
  | @defineConstant d id ids key _ _ _ hnew _ =>
      have hconstants := nodup_keys_cons id hnew h.constants
      cases key <;> exact ⟨h.types, hconstants⟩
  | note hnote =>
      exact ⟨hnote.unseen (·.tables.types) (fun _ => rfl) ▸ h.types,
        hnote.unseen (·.tables.constants) (fun _ => rfl) ▸ h.constants⟩
  | _ => exact ⟨h.types, h.constants⟩

theorem Changes.unique (hsteps : Changes short exhausted a b) (h : a.Unique) : b.Unique :=
  hsteps.preserves (fun hstep => hstep.unique) h

/-- A constant that has a type is a constant of this type. -/
theorem Unique.exists_holds {d : Draft} {ids : List Id} (hu : Unique ⟨d, ids⟩)
    (h : Consistent ⟨d, ids⟩) {v : Value} {t : DataType} (hconstant : d.isConstant v.id = true)
    (hv : d.Sees v t) : ∃ c : Constant, c.type = t ∧ d.Holds c v := by
  obtain ⟨id, type⟩ := v
  simp only [Draft.isConstant, List.any_eq_true, beq_iff_eq] at hconstant
  obtain ⟨⟨key, target⟩, hmem, rfl⟩ := hconstant
  have hkey : d.tables.constants.lookup key = some target := lookup_eq_some_of_mem hu.constants hmem
  obtain ⟨c, type', htype, rfl, hdefinition⟩ := h.exists_constant hkey
  have hseen := h.typeOf?_of_mem hdefinition (c.valueRow?_definition type' target)
  obtain rfl : type' = type := Option.some.inj (hseen.symm.trans hv.1)
  exact ⟨c, Option.some.inj ((h.lookup_dataTypes htype).symm.trans hv.2), htype, hkey⟩

end Account

/-- Every global defines an id. -/
theorem Draft.Entry.result {d : Draft} {i : Instruction} (h : d.Entry i) :
    ∃ id, i.result = some id := by
  cases h <;> exact ⟨_, rfl⟩

namespace Account

variable {d : Draft} {ids : List Id}

/-- Globals that say the same define the same, unless they are variables. -/
theorem Unique.result_eq (hu : Unique ⟨d, ids⟩) (h : Consistent ⟨d, ids⟩) {i j : Instruction}
    (hi : i ∈ d.sections.globals) (hj : j ∈ d.sections.globals) (hvariable : i.opcode ≠ .variable)
    (hsame : (i.opcode, i.resultType, i.operands) = (j.opcode, j.resultType, j.operands)) :
    i.result = j.result := by
  cases h.entry hi with
  | @type t id opcode operands ht hid =>
      cases h.entry hj with
      | @type u id' opcode' operands' hu hid' =>
          obtain ⟨rfl, rfl⟩ : opcode = opcode' ∧ operands = operands' := by
            simpa [Instruction.defining] using hsame
          have hread := h.dataType?_eq ht id
          have hread' : (Instruction.defining opcode id operands).dataType? d.tables.dataTypes =
              some u := h.dataType?_eq hu id'
          have htypes : t = u := Option.some.inj (hread.symm.trans hread')
          exact congrArg some ((h.interned_inj hid hid').2 htypes)
      | constant | «variable» => cases hsame
  | @constant c type ht id =>
      cases h.entry hj with
      | @constant c' type' ht' id' =>
          obtain ⟨hopcode, rfl, hoperands⟩ :
              c.opcode = c'.opcode ∧ type = type' ∧ c.operands = c'.operands := by
            simpa [Constant.definition, Instruction.typed] using hsame
          obtain rfl := Constant.eq_of_definition (h.eq_of_interned ht ht') hopcode hoperands
          have hmem {id : Id} (hi : c.definition type id ∈ d.sections.globals) :
              d.tables.constants.lookup (c.key type) = some id := by
            refine lookup_eq_some_of_mem hu.constants ?_
            rw [h.constants, mem_rowsOf]
            exact ⟨_, hi, c.constantRow?_definition type id⟩
          exact (hmem hi).symm.trans (hmem hj)
      | type => cases hsame
      | «variable» => exact absurd (congrArg Prod.fst hsame) hvariable
  | «variable» => exact absurd rfl hvariable

/-- **No two globals say the same**, apart from variables. -/
theorem Unique.nodup_globals (hu : Unique ⟨d, ids⟩) (h : Consistent ⟨d, ids⟩) :
    ((d.sections.globals.filter (·.opcode ≠ .variable)).map fun i =>
      (i.opcode, i.resultType, i.operands)).Nodup := by
  have hresults : d.sections.globals.Pairwise fun i j =>
      ∀ x, i.result = some x → ∀ y, j.result = some y → x ≠ y := by
    have hnodup := h.nodup_globals
    rwa [resultsOf, List.Nodup, List.pairwise_filterMap] at hnodup
  rw [List.Nodup, List.pairwise_map, List.pairwise_filter]
  refine hresults.imp_of_mem fun {i j} hi hj hne hvariable _ hsame => ?_
  obtain ⟨id, hid⟩ := (h.entry hi).result
  have hresult := hu.result_eq h hi hj (by simpa using hvariable) hsame
  exact hne id hid id (hresult ▸ hid) rfl

end Account

/-! ### Interning over whole runs -/

namespace Account.Consistent

open Build

variable {a : Account}

/-- **A type that was answered stays interned under its id**, whatever is called after that. -/
theorem typeId_after (ha : a.Consistent) (ps : List Operation) {t : DataType}
    {id : Id} {e : Draft} (hrun : (typeId t).runOn a.draft = (.ok id, e)) :
    ∃ b, a.Changes False True b ∧ b.draft = e.after ps ∧ b.draft.Interned t id := by
  have hdoes : Does False (typeId t) a (a.Interns t) := typeId_does t ha
  obtain ⟨b, c, ⟨ht, -⟩, hb, hbc, hac, hc⟩ := hdoes.exists_after ha ps hrun
  exact ⟨c, hac, hc, (hbc.extends hb).types ht⟩

/-- **A constant that was answered stays the constant that was asked for**, whatever is called after
that. -/
theorem run_holds_after (ha : a.Consistent) (ps : List Operation)
    {o : Operation} (ho : o.isConstant = true) {answer : Answer} {e : Draft}
    (hrun : o.run.runOn a.draft = (.ok answer, e)) :
    ∃ b v c, a.Changes False True b ∧ b.draft = e.after ps ∧ answer = .value v ∧
      a.draft.asked? o = some c ∧ b.draft.Holds c v := by
  obtain ⟨b, c, ⟨v, k, rfl, hk, hv⟩, hb, hbc, hac, hc⟩ :=
    (o.run_holds ho ha).exists_after ha ps hrun
  exact ⟨c, v, k, hac, hc, rfl, hk, hbc.holds hb hv⟩

end Account.Consistent

namespace Draft

open Build

/-- **Interning is a bijection.**  From any draft that calls lead to, and with any calls in between,
failed ones included, two requests for types are answered with the same id exactly if the types are
equal, and two requests for constants with the same value exactly if they ask for the same constant.
Apart from variables, no two globals agree in opcode, result type and operands. -/
theorem interning_bijective (settings : ModuleSettings) (os ps : List Operation) :
    let d := (Draft.empty settings).after os
    (∀ (t u : DataType) (id id' : Id) (e e' : Draft), (typeId t).runOn d = (.ok id, e) →
      (typeId u).runOn (e.after ps) = (.ok id', e') → (id = id' ↔ t = u)) ∧
    (∀ (o o' : Operation) (answer answer' : Answer) (e e' : Draft), o.isConstant = true →
      o'.isConstant = true → o.run.runOn d = (.ok answer, e) →
      o'.run.runOn (e.after ps) = (.ok answer', e') →
      (answer = answer' ↔ d.asked? o = (e.after ps).asked? o')) ∧
    ((d.sections.globals.filter (·.opcode ≠ .variable)).map fun i =>
      (i.opcode, i.resultType, i.operands)).Nodup := by
  obtain ⟨a, ha, hchanges, hconsistent⟩ := run_account False settings os False.elim
  have hunique := hchanges.unique (.empty settings)
  rw [← ha]
  refine ⟨fun t u id id' e e' hrun hrun' => ?_, fun o o' answer answer' e e' ho ho' hrun hrun' => ?_,
    hunique.nodup_globals hconsistent⟩
  · obtain ⟨b, hab, hb, ht⟩ := hconsistent.typeId_after ps hrun
    have hconsistent' := hconsistent.after hab
    rw [← hb] at hrun'
    obtain ⟨c, hbc, -, hu⟩ := hconsistent'.typeId_after [] hrun'
    have ht' := (hbc.extends hconsistent').types ht
    exact (hconsistent'.after hbc).interned_inj ht' hu
  · obtain ⟨b, v, k, hab, hb, rfl, hk, hv⟩ := hconsistent.run_holds_after ps ho hrun
    have hconsistent' := hconsistent.after hab
    rw [← hb] at hrun' ⊢
    obtain ⟨c, v', k', hbc, -, rfl, hk', hv'⟩ := hconsistent'.run_holds_after [] ho' hrun'
    rw [hk, hk', Answer.value.injEq, Option.some.injEq]
    exact (hconsistent'.after hbc).holds_inj (hbc.holds hconsistent' hv) hv'

/-- After the sample, vectors of two and of three components are different types, and one and two are
different constants, with a rejected call and the sample itself in between. -/
theorem interning_bijective_of_sample :
    let d := (Draft.empty {}).after sampleCalls
    let ps := Operation.typeId (.vector (.float 32) 7) :: sampleCalls
    (∃ id id' e e', (typeId (.vector (.float 32) 2)).runOn d = (.ok id, e) ∧
      (typeId (.vector (.float 32) 3)).runOn (e.after ps) = (.ok id', e') ∧ id ≠ id') ∧
    ∃ answer answer' e e',
      (Operation.constFloat (.float 32) (.ofInt 1)).run.runOn d = (.ok answer, e) ∧
      (Operation.constFloat (.float 32) (.ofInt 2)).run.runOn (e.after ps) = (.ok answer', e') ∧
      answer ≠ answer' := by
  intro d ps
  obtain ⟨htypes, hconstants, -⟩ := interning_bijective {} sampleCalls ps
  constructor
  · have hfirst : ((typeId (.vector (.float 32) 2)).runOn d).1.isOk = true := by decide +kernel
    obtain ⟨id, e, hrun⟩ := exists_of_isOk hfirst
    have hok : ((typeId (.vector (.float 32) 3)).runOn
        ((d.step (.typeId (.vector (.float 32) 2))).after ps)).1.isOk = true := by
      decide +kernel
    have he : d.step (.typeId (.vector (.float 32) 2)) = e := by
      simp [step, Operation.run, hrun]
    rw [he] at hok
    obtain ⟨id', e', hrun'⟩ := exists_of_isOk hok
    refine ⟨id, id', e, e', hrun, hrun', fun hsame => ?_⟩
    exact absurd ((htypes _ _ id id' e e' hrun hrun').1 hsame) (by decide)
  · have hok : ((Operation.constFloat (.float 32) (.ofInt 1)).run.runOn d).1.isOk = true := by
      decide +kernel
    obtain ⟨answer, e, hrun⟩ := exists_of_isOk hok
    have hok' : ((Operation.constFloat (.float 32) (.ofInt 2)).run.runOn
        ((d.step (.constFloat (.float 32) (.ofInt 1))).after ps)).1.isOk = true := by
      decide +kernel
    rw [step, hrun] at hok'
    obtain ⟨answer', e', hrun'⟩ := exists_of_isOk hok'
    refine ⟨answer, answer', e, e', hrun, hrun', fun hsame => ?_⟩
    have hasked := (hconstants _ _ answer answer' e e' rfl rfl hrun hrun').1 hsame
    exact absurd (Option.some.inj hasked) (by decide +kernel)

end Draft

end FrameShader
