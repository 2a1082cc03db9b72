/-
Permanence: what a draft has written and what it knows is never taken back.

The sections of a draft only get longer at their ends.  Its tables are maps, so adding an entry could
hide another one; it never does, because every entry has a key of its own.  What is interned, named
or put into a slot is looked up before it is added, and an id is handed out only once.

Main definitions:

* `FrameShader.Kept` — a table with all that another one has;
* `FrameShader.Tables.Within` — the tables of a draft have all that they had before;
* `FrameShader.Draft.Outgrows` — a draft with all that another one has written and knows.

Main results:

* `FrameShader.Account.Change.outgrows`, `FrameShader.Account.Changes.outgrows` — **changes take
  nothing back**;
* `FrameShader.Account.Consistent.typeOf?_of_globalType?` — nothing hides what belongs to the module;
* `FrameShader.Draft.nothing_taken_back` — **no call takes anything back**, whether it succeeds or
  fails.
-/

import FrameShader.Proofs.Draft.References
import FrameShader.Proofs.Draft.Shape

set_option relaxedAutoImplicit false
set_option autoImplicit false

namespace FrameShader

/-! ### Tables that get longer -/

/-- What the table `xs` has for a key, the table `ys` has for it as well. -/
def Kept {α β : Type} [BEq α] (xs ys : List (α × β)) : Prop :=
  ∀ k v, xs.lookup k = some v → ys.lookup k = some v

namespace Kept

variable {α β : Type} [BEq α] {xs ys zs : List (α × β)}

theorem refl (xs : List (α × β)) : Kept xs xs := fun _ _ h => h

theorem trans (h : Kept xs ys) (h' : Kept ys zs) : Kept xs zs :=
  fun k v hk => h' k v (h k v hk)

/-- An entry with a new key hides no other. -/
theorem cons [LawfulBEq α] {k : α} (hnew : xs.lookup k = none) (v : β) : Kept xs ((k, v) :: xs) := by
  intro l w hl
  refine (lookup_cons_of_ne ?_).trans hl
  rintro rfl
  rw [hnew] at hl
  cases hl

end Kept

/-- The tables `t'` have all that the tables `t` have, with the same values. -/
structure Tables.Within (t t' : Tables) : Prop where
  types : Kept t.types t'.types
  dataTypes : Kept t.dataTypes t'.dataTypes
  constants : Kept t.constants t'.constants
  literals : Kept t.literals t'.literals
  globals : Kept t.globals t'.globals
  functions : Kept t.functions t'.functions
  imports : Kept t.imports t'.imports
  entryPoints : Kept t.entryPoints t'.entryPoints
  builtIns : Kept t.builtIns t'.builtIns
  slots : Kept t.slots t'.slots

namespace Tables.Within

variable {t t' t'' : Tables}

theorem refl (t : Tables) : t.Within t :=
  ⟨.refl _, .refl _, .refl _, .refl _, .refl _, .refl _, .refl _, .refl _, .refl _, .refl _⟩

theorem trans (h : t.Within t') (h' : t'.Within t'') : t.Within t'' where
  types := h.types.trans h'.types
  dataTypes := h.dataTypes.trans h'.dataTypes
  constants := h.constants.trans h'.constants
  literals := h.literals.trans h'.literals
  globals := h.globals.trans h'.globals
  functions := h.functions.trans h'.functions
  imports := h.imports.trans h'.imports
  entryPoints := h.entryPoints.trans h'.entryPoints
  builtIns := h.builtIns.trans h'.builtIns
  slots := h.slots.trans h'.slots

end Tables.Within

/-! ### New ids -/

namespace Account.Consistent

variable {d : Draft} {id : Id} {ids : List Id}

/-- A spare id is not that of a global. -/
theorem not_mem_globals (h : Consistent ⟨d, id :: ids⟩) : id ∉ resultsOf d.sections.globals := by
  intro hmem
  exact (List.nodup_append.1 h.nodup).2.2 id (Draft.mem_definedIds_of_globals hmem) id
    (List.mem_append_right _ List.mem_cons_self) rfl

/-- A spare id has no entry as a type. -/
theorem lookup_dataTypes_eq_none (h : Consistent ⟨d, id :: ids⟩) :
    d.tables.dataTypes.lookup id = none := by
  cases hlookup : d.tables.dataTypes.lookup id with
  | none => rfl
  | some t => exact absurd (h.mem_globals_of_dataTypes hlookup) h.not_mem_globals

/-- A spare id has no entry as a constant or a variable. -/
theorem lookup_globals_eq_none (h : Consistent ⟨d, id :: ids⟩) :
    d.tables.globals.lookup id = none := by
  cases hlookup : d.tables.globals.lookup id with
  | none => rfl
  | some type =>
      obtain ⟨i, hi, hresult, -⟩ := h.exists_global hlookup
      exact absurd (mem_resultsOf.2 ⟨i, hi, hresult⟩) h.not_mem_globals

/-- A spare id has no entry as a number. -/
theorem lookup_literals_eq_none (h : Consistent ⟨d, id :: ids⟩) :
    d.tables.literals.lookup id = none := by
  cases hlookup : d.tables.literals.lookup id with
  | none => rfl
  | some value =>
      have hmem := mem_of_lookup_eq_some hlookup
      have hliterals : d.tables.literals = rowsOf Instruction.literalRow? d.sections.globals :=
        h.literals
      rw [hliterals, mem_rowsOf] at hmem
      obtain ⟨i, hi, hrow⟩ := hmem
      exact absurd (mem_resultsOf.2 ⟨i, hi, Instruction.result_of_literalRow? hrow⟩)
        h.not_mem_globals

end Account.Consistent

/-! ### Drafts that have everything -/

/-- The draft `d'` has all that `d` has written and knows, and has handed out no fewer ids. -/
structure Draft.Outgrows (d d' : Draft) : Prop where
  parts : ∀ k, d.sections.part k <+: d'.sections.part k
  functions : d.sections.functions <+: d'.sections.functions
  tables : d.tables.Within d'.tables
  bound : d.bound ≤ d'.bound

namespace Draft

theorem Outgrows.trans {d d' d'' : Draft} (h : d.Outgrows d') (h' : d'.Outgrows d'') :
    d.Outgrows d'' where
  parts k := (h.parts k).trans (h'.parts k)
  functions := h.functions.trans h'.functions
  tables := h.tables.trans h'.tables
  bound := UInt32.le_trans h.bound h'.bound

/-- **A note hides nothing.** -/
theorem Note.tables {d d' : Draft} (h : d.Note d') : d.tables.Within d'.tables := by
  have hsame := Tables.Within.refl d.tables
  -- what is said only once is not found in these tables
  let found (e : Draft) : Tables :=
    { e.tables with capabilities := [], extensions := [], names := [], annotations := [] }
  have hkept {d' : Draft} (h : found d' = found d) : d.tables.Within d'.tables := by
    have hwithin : (found d).Within (found d') := h ▸ Tables.Within.refl (found d)
    exact { hwithin with }
  cases h with
  | capability c => exact hkept (view_eq (d.bare_addCapability c) found fun _ => rfl)
  | extension text => exact hkept (view_eq (d.bare_addExtension text) found fun _ => rfl)
  | source language version =>
      exact hkept (view_eq (d.bare_addSource language version) found fun _ => rfl)
  | decorate | decorateMember =>
      exact hkept (view_eq (d.unannotated_addToAnnotations _) found fun _ => rfl)
  | name | nameMember => exact hkept (view_eq (d.bare_addName _ _ _) found fun _ => rfl)
  | entryPoint hnew => exact { hsame with entryPoints := .cons hnew _ }
  | slot h => exact { hsame with slots := .cons (slotFor_eq_ok_iff.1 h).free _ }
  | builtIn hnew => exact { hsame with builtIns := .cons hnew _ }
  | record | configure | executionMode => exact hsame

end Draft

namespace Account

variable {short exhausted : Prop} {a b : Account}

/-- **A change of a consistent draft hides nothing.** -/
theorem Change.tables (h : Change short exhausted a b) (ha : a.Consistent) :
    a.draft.tables.Within b.draft.tables := by
  have hsame := Tables.Within.refl a.draft.tables
  cases h with
  | importSet hnew => exact { hsame with imports := .cons hnew _ }
  | defineType hnew =>
      exact { hsame with
        types := .cons hnew _
        dataTypes := .cons ha.lookup_dataTypes_eq_none _ }
  | @defineConstant d id ids key _ _ _ hnew =>
      have hglobals (type : Id) : Kept d.tables.globals ((id, type) :: d.tables.globals) :=
        .cons ha.lookup_globals_eq_none type
      have hconstants : Kept d.tables.constants ((key, id) :: d.tables.constants) :=
        .cons hnew id
      cases key with
      | scalar =>
          exact { hsame with
            constants := hconstants
            globals := hglobals _
            literals := .cons ha.lookup_literals_eq_none _ }
      | bool | composite => exact { hsame with constants := hconstants, globals := hglobals _ }
  | defineVariable => exact { hsame with globals := .cons ha.lookup_globals_eq_none _ }
  | begin =>
      -- The id of the function is spare, behind those of its label and of its parameters.
      have hfirst := ha.perm ((List.perm_middle.cons _).trans (List.Perm.swap _ _ _))
      exact { hsame with functions := .cons hfirst.lookup_functions _ }
  | define _ hd =>
      exact { hsame with functions := .cons (ha.removeDeclared hd).lookup_functions _ }
  | note hnote => exact hnote.tables
  | _ => exact { hsame with }

/-- No change hands out fewer ids. -/
theorem Change.bound (h : Change short exhausted a b) : a.draft.bound ≤ b.draft.bound := by
  cases h with
  | @take d ids hroom =>
      have hone : (1 : UInt32).toNat = 1 := rfl
      show d.nextId ≤ d.nextId + 1
      rw [UInt32.le_iff_toNat_le, UInt32.toNat_add, hone, Nat.mod_eq_of_lt hroom]
      omega
  | note hnote => exact (hnote.unseen Draft.bound fun _ => rfl).symm ▸ UInt32.le_refl _
  | @defineConstant d id ids key => cases key <;> exact UInt32.le_refl _
  | _ => exact UInt32.le_refl _

/-- **Changes take nothing back.** -/
theorem Changes.outgrows (h : Changes short exhausted a b) (ha : a.Consistent) :
    a.draft.Outgrows b.draft := by
  have hboth : a.draft.tables.Within b.draft.tables ∧ a.draft.bound ≤ b.draft.bound := by
    refine h.preserves_of_consistent
      (P := fun b => a.draft.tables.Within b.draft.tables ∧ a.draft.bound ≤ b.draft.bound) ?_ ha
      ⟨.refl _, UInt32.le_refl _⟩
    rintro b c hb hstep ⟨htables, hbound⟩
    exact ⟨htables.trans (hstep.tables hb), UInt32.le_trans hbound hstep.bound⟩
  exact ⟨fun k => (h.appends_any.parts k).isPrefix, h.appends_any.closed, hboth.1, hboth.2⟩

/-! ### What belongs to the module -/

namespace Consistent

variable {d : Draft} {ids : List Id} {id type : Id}

/-- What the open function has defined does not belong to the module. -/
theorem isDefined_of_localType? (h : Consistent ⟨d, ids⟩) (ht : d.localType? id = some type) :
    d.isDefined id = false := by
  unfold Draft.localType? at ht
  split at ht
  case h_2 => cases ht
  next f hf =>
  obtain ⟨i, hi, hresult, -⟩ := h.exists_local hf ht
  have hinside : id ∈ f.closed.locals := by
    refine mem_resultsOf.2 ⟨i, ?_, hresult⟩
    rcases List.mem_append.1 hi with hi | hi
    · exact List.mem_append_left _ hi
    · exact List.mem_append_right _ (List.mem_cons_of_mem _ hi)
  have hbody : f.closed ∈ d.bodies := by
    rw [Draft.bodies_of_some hf]
    exact List.mem_append_right _ List.mem_cons_self
  have hnodup := h.nodup_definedIds
  rw [Draft.definedIds_eq] at hnodup
  -- what is defined inside a function is neither a global nor a function
  obtain ⟨hknown, hfunctions, -⟩ := not_mem_of_mem_locals hnodup hbody hinside
  refine Bool.eq_false_iff.2 fun hdefined => ?_
  exact (List.mem_append.1 (h.mem_of_isDefined hdefined)).elim hknown hfunctions

/-- The open function hides nothing that belongs to the module. -/
theorem localType?_of_globalType? (h : Consistent ⟨d, ids⟩) (ht : d.globalType? id = some type) :
    d.localType? id = none := by
  cases hlocal : d.localType? id with
  | none => rfl
  | some type' =>
      have hdefined : d.isDefined id = true := by
        unfold Draft.globalType? at ht
        split at ht
        · next hglobal => simp [Draft.isDefined, hglobal]
        · obtain ⟨s, hs, -⟩ := Option.map_eq_some_iff.1 ht
          simp [Draft.isDefined, hs]
      rw [h.isDefined_of_localType? hlocal] at hdefined
      cases hdefined

/-- **Nothing hides what belongs to the module.** -/
theorem typeOf?_of_globalType? (h : Consistent ⟨d, ids⟩) (ht : d.globalType? id = some type) :
    d.typeOf? id = some type := by
  rw [Draft.typeOf?, h.localType?_of_globalType? ht]
  exact ht

/-- A function is neither a constant nor a variable. -/
theorem lookup_globals_of_functions (h : Consistent ⟨d, ids⟩) {s : Signature}
    (hs : d.tables.functions.lookup id = some s) : d.tables.globals.lookup id = none := by
  cases hglobal : d.tables.globals.lookup id with
  | none => rfl
  | some type' =>
      exfalso
      obtain ⟨i, hi, hiresult, -⟩ := h.exists_global hglobal
      obtain ⟨g, hg, hrow⟩ := h.exists_function hs
      have hresult := (Function.definition_of_signatureRow? hrow).1
      have hnodup := h.nodup_definedIds
      rw [Draft.definedIds_eq] at hnodup
      exact (List.nodup_append.1 hnodup).2.2 id
        (List.mem_append_right _ (mem_resultsOf.2 ⟨i, hi, hiresult⟩)) id
        (List.mem_flatMap.2 ⟨g, hg, mem_resultsOf.2 ⟨_, List.mem_cons_self, hresult⟩⟩) rfl

/-- What belongs to the module keeps its type. -/
theorem globalType?_of_outgrows {d' : Draft} {ids' : List Id} (h' : Consistent ⟨d', ids'⟩)
    (hgrows : d.Outgrows d') (ht : d.globalType? id = some type) :
    d'.globalType? id = some type := by
  unfold Draft.globalType? at ht ⊢
  split at ht
  · next hglobal =>
      cases ht
      rw [hgrows.tables.globals _ _ hglobal]
  · obtain ⟨s, hs, rfl⟩ := Option.map_eq_some_iff.1 ht
    have hs' := hgrows.tables.functions _ _ hs
    rw [h'.lookup_globals_of_functions hs', hs']
    rfl

end Consistent

end Account

namespace Draft

/-- **No call takes anything back.**  Whatever has been called, and whether the calls that follow
succeed or fail:

* every section is a prefix of the later one, every entry of a table keeps its value, and no fewer
  ids are handed out;
* one call either adds to the end of the open function, or moves it as it is behind the functions
  that are closed;
* the structure of a type stays the same, and so does the type of what belongs to the module, which
  nothing hides. -/
theorem nothing_taken_back {d : Draft} (h : d.Reachable) :
    (∀ os, d.Outgrows (d.after os)) ∧
    (∀ o f, d.current = some f →
      (∃ g, (d.step o).current = some g ∧ f.closed.Within g.closed ∧
        (d.step o).sections.functions = d.sections.functions) ∨
      ((d.step o).current = none ∧
        (d.step o).sections.functions = d.sections.functions ++ [f.closed])) ∧
    (∀ os type t, d.dataType type = .ok t → (d.after os).dataType type = .ok t) ∧
    ∀ os id type, d.globalType? id = some type →
      (d.after os).globalType? id = some type ∧ (d.after os).typeOf? id = some type := by
  obtain ⟨settings, a, rfl, ha, -⟩ := h.exists_account
  have hgrows (os : List Operation) :
      ∃ b : Account, b.draft = a.draft.after os ∧ b.Consistent ∧ a.draft.Outgrows b.draft := by
    obtain ⟨b, hb, hchanges⟩ := after_changes False os ha False.elim
    exact ⟨b, hb, ha.after hchanges, hchanges.outgrows ha⟩
  refine ⟨fun os => ?_, fun o f hf => ?_, fun os type t ht => ?_, fun os id type ht => ?_⟩
  · obtain ⟨b, hb, -, houtgrows⟩ := hgrows os
    exact hb ▸ houtgrows
  · exact (o.current_of_open ha hf).imp_right fun hclosed => hclosed.2.2
  · obtain ⟨b, hb, -, houtgrows⟩ := hgrows os
    rw [← hb]
    exact dataType_eq_ok.2 (houtgrows.tables.dataTypes _ _ (dataType_eq_ok.1 ht))
  · obtain ⟨b, hb, hconsistent, houtgrows⟩ := hgrows os
    have hkept := hconsistent.globalType?_of_outgrows houtgrows ht
    rw [← hb]
    exact ⟨hkept, hconsistent.typeOf?_of_globalType? hkept⟩

/-- In the middle of the sample, where a reserved function is being written, its id keeps its type
while the function is completed and closed. -/
theorem nothing_taken_back_of_sample :
    ((empty {}).after (sampleCalls.take 9)).Reachable ∧
      ((empty {}).after (sampleCalls.take 9)).globalType? 4 = some 3 ∧
      ((empty {}).after sampleCalls).typeOf? 4 = some 3 := by
  have hreachable : ((empty {}).after (sampleCalls.take 9)).Reachable := ⟨{}, sampleCalls.take 9, rfl⟩
  have htype : ((empty {}).after (sampleCalls.take 9)).globalType? 4 = some 3 := by decide +kernel
  have hrest := (nothing_taken_back hreachable).2.2.2 (sampleCalls.drop 9) 4 3 htype
  rw [← after_append, List.take_append_drop] at hrest
  exact ⟨hreachable, htype, hrest.2⟩

end Draft

end FrameShader
