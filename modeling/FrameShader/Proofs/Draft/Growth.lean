/-
Growth: what is written stays written, and what is known stays known.

A change adds to the sections of a draft and never takes anything away: imports, globals and
functions stay, bodies only get longer, and types keep their ids.

Main definitions:

* `FrameShader.Function.Within` — a function of which another one is a longer version;
* `FrameShader.Draft.Extends` — a draft that has all that another one has.

Main results:

* `FrameShader.Account.Change.extends`, `FrameShader.Account.Changes.extends` — **changes only add**;
* `FrameShader.Draft.Extends.definedIds`, `FrameShader.Draft.Extends.functionIds` — what is defined
  stays defined.
-/

import FrameShader.Proofs.Draft.Interning

set_option relaxedAutoImplicit false
set_option autoImplicit false

namespace FrameShader

/-- The function `g` is `f` with a body that may be longer. -/
structure Function.Within (f g : Function) : Prop where
  definition : g.definition = f.definition
  parameters : g.parameters = f.parameters
  label : g.label = f.label
  body : f.body <+: g.body

namespace Function.Within

variable {f g h : Function}

theorem refl (f : Function) : f.Within f := ⟨rfl, rfl, rfl, List.prefix_rfl⟩

theorem trans (hfg : f.Within g) (hgh : g.Within h) : f.Within h :=
  ⟨hgh.definition.trans hfg.definition, hgh.parameters.trans hfg.parameters,
    hgh.label.trans hfg.label, hfg.body.trans hgh.body⟩

theorem instructions (h : f.Within g) : f.instructions ⊆ g.instructions := by
  intro i hi
  simp only [Function.instructions, List.mem_cons, List.mem_append,
    h.definition, h.parameters, h.label] at hi ⊢
  rcases hi with hi | hi | hi | hi | hi
  · exact Or.inl hi
  · exact Or.inr (Or.inl hi)
  · exact Or.inr (Or.inr (Or.inl hi))
  · exact Or.inr (Or.inr (Or.inr (Or.inl (h.body.subset hi))))
  · exact Or.inr (Or.inr (Or.inr (Or.inr hi)))

end Function.Within

namespace Draft

/-- The draft `d'` has all that `d` has. -/
structure Extends (d d' : Draft) : Prop where
  types : ∀ {t : DataType} {id : Id}, d.Interned t id → d'.Interned t id
  dataTypes : ∀ {id : Id} {t : DataType},
    d.tables.dataTypes.lookup id = some t → d'.tables.dataTypes.lookup id = some t
  imports : d.sections.imports <+: d'.sections.imports
  globals : d.sections.globals <+: d'.sections.globals
  bodies : ∀ f ∈ d.bodies, ∃ g ∈ d'.bodies, f.Within g

variable {d d' d'' : Draft}

namespace Extends

theorem refl (d : Draft) : d.Extends d :=
  ⟨id, id, List.prefix_rfl, List.prefix_rfl, fun f hf => ⟨f, hf, .refl f⟩⟩

theorem trans (h : d.Extends d') (h' : d'.Extends d'') : d.Extends d'' where
  types ht := h'.types (h.types ht)
  dataTypes ht := h'.dataTypes (h.dataTypes ht)
  imports := h.imports.trans h'.imports
  globals := h.globals.trans h'.globals
  bodies f hf := by
    obtain ⟨g, hg, hfg⟩ := h.bodies f hf
    obtain ⟨k, hk, hgk⟩ := h'.bodies g hg
    exact ⟨k, hk, hfg.trans hgk⟩

/-- Only the core of a draft matters. -/
theorem of_core (hcore : d'.core = d.core) : d.Extends d' := by
  have h : d.core.Extends d'.core := hcore ▸ .refl d.core
  exact ⟨h.types, h.dataTypes, h.imports, h.globals, h.bodies⟩

theorem of_removeDeclared (d : Draft) (id : Id) : d.Extends (d.removeDeclared id) :=
  ⟨fun h => h, fun h => h, List.prefix_rfl, List.prefix_rfl, fun f hf => ⟨f, hf, .refl f⟩⟩

/-- A draft that opens a function. -/
theorem of_openBody (hc : d.current = none) (f : OpenFunction) (s : Signature) :
    d.Extends (d.openBody f s) := by
  refine ⟨id, id, List.prefix_rfl, List.prefix_rfl, fun g hg => ⟨g, ?_, .refl g⟩⟩
  rw [bodies_of_none hc] at hg
  exact List.mem_append_left _ hg

/-- A draft whose open function has a longer body. -/
theorem of_body {f : OpenFunction} (hf : d.current = some f) (is : List Instruction)
    (locals : List (Id × Id)) (terminated : Bool) :
    d.Extends { d with current := some { f with
      body := f.body ++ is, locals := locals, terminated := terminated } } := by
  refine ⟨id, id, List.prefix_rfl, List.prefix_rfl, fun g hg => ?_⟩
  rw [bodies_of_some hf, List.mem_append, List.mem_singleton] at hg
  rcases hg with hg | rfl
  · exact ⟨g, List.mem_append_left _ hg, .refl g⟩
  · exact ⟨_, List.mem_append_right _ List.mem_cons_self, rfl, rfl, rfl, List.prefix_append _ _⟩

theorem of_closeBody {f : OpenFunction} (hf : d.current = some f) : d.Extends (d.closeBody f) := by
  refine ⟨id, id, List.prefix_rfl, List.prefix_rfl, fun g hg => ⟨g, ?_, .refl g⟩⟩
  rw [bodies_of_some hf] at hg
  exact List.mem_append_left _ hg

theorem definitions (h : d.Extends d') : d.definitions ⊆ d'.definitions := by
  intro i hi
  simp only [Draft.definitions, List.mem_append, List.mem_flatMap] at hi ⊢
  rcases hi with (hi | hi) | ⟨f, hf, hi⟩
  · exact Or.inl (Or.inl (h.imports.subset hi))
  · exact Or.inl (Or.inr (h.globals.subset hi))
  · obtain ⟨g, hg, hfg⟩ := h.bodies f hf
    exact Or.inr ⟨g, hg, hfg.instructions hi⟩

/-- What is defined stays defined. -/
theorem definedIds (h : d.Extends d') : d.definedIds ⊆ d'.definedIds := by
  intro id hid
  obtain ⟨i, hi, hresult⟩ := mem_resultsOf.1 hid
  exact mem_resultsOf.2 ⟨i, h.definitions hi, hresult⟩

/-- Functions keep their ids. -/
theorem functionIds (h : d.Extends d') : d.functionIds ⊆ d'.functionIds := by
  intro id hid
  obtain ⟨i, hi, hresult⟩ := mem_resultsOf.1 hid
  obtain ⟨f, hf, rfl⟩ := List.mem_map.1 hi
  obtain ⟨g, hg, hfg⟩ := h.bodies f hf
  exact mem_resultsOf.2 ⟨g.definition, List.mem_map_of_mem hg, by rw [hfg.definition, hresult]⟩

theorem hasSignature (h : d.Extends d') {s : Signature} (hs : d.HasSignature s) :
    d'.HasSignature s := by
  obtain ⟨result, parameters, hs⟩ := hs
  exact ⟨result, parameters, h.types hs.type, h.types hs.result,
    hs.parameters.imp fun _ _ => h.types⟩

end Extends

end Draft

namespace Account

variable {short exhausted : Prop} {a b : Account}

/-- **A change only adds.** -/
theorem Change.extends (h : Change short exhausted a b) (ha : a.Consistent) :
    a.draft.Extends b.draft := by
  cases h with
  | importSet =>
      exact ⟨id, id, List.prefix_append _ _, List.prefix_rfl, fun f hf => ⟨f, hf, .refl f⟩⟩
  | @defineType d id ids t opcode operands hnew =>
      refine ⟨?_, ?_, List.prefix_rfl, List.prefix_append _ _, fun f hf => ⟨f, hf, .refl f⟩⟩
      · exact fun hu => hu.addTypeDefinition hnew opcode operands
      · -- nothing is known of the new id, so its type hides no other
        intro target u hu
        exact (lookup_cons_of_ne (ha.ne_of_lookup hu)).trans hu
  | @defineConstant d id ids key =>
      cases key <;>
        exact ⟨fun h => h, fun h => h, List.prefix_rfl, List.prefix_append _ _,
          fun f hf => ⟨f, hf, .refl f⟩⟩
  | defineVariable =>
      exact ⟨fun h => h, fun h => h, List.prefix_rfl, List.prefix_append _ _,
        fun f hf => ⟨f, hf, .refl f⟩⟩
  | begin hc => exact .of_openBody hc _ _
  | @define d id label ids s values control hc =>
      have hc' : (d.removeDeclared id).current = none := hc
      exact (Draft.Extends.of_removeDeclared d id).trans (.of_openBody hc' _ _)
  | @emit d id ids f opcode type operands hf =>
      rw [Draft.addResult_eq hf]
      exact .of_body hf _ _ _
  | store hf =>
      rw [Draft.addToBody_eq hf]
      exact .of_body hf _ _ _
  | leave hf =>
      rw [Draft.addReturn_eq hf]
      exact .of_body hf _ _ _
  | close hf => exact .of_closeBody hf
  | note hnote => exact .of_core hnote.core
  | _ => exact ⟨fun h => h, fun h => h, List.prefix_rfl, List.prefix_rfl,
      fun f hf => ⟨f, hf, .refl f⟩⟩

/-- A function is a longer version of one that was there, or new. -/
theorem Change.bodies (h : Change short exhausted a b) {g : Function} (hg : g ∈ b.draft.bodies) :
    (∃ f ∈ a.draft.bodies, f.Within g) ∨
      ∃ id s control values label, g = (OpenFunction.start id s control values label).closed := by
  -- a new function stands behind the others, and the open one is continued at its end
  have hopened {d : Draft} {f : OpenFunction} {s : Signature} (hc : d.current = none)
      (hg : g ∈ (d.openBody f s).bodies) : g ∈ d.bodies ∨ g = f.closed := by
    rw [Draft.bodies_of_none hc]
    exact (List.mem_append.1 hg).imp_right List.mem_singleton.1
  have hlonger {d : Draft} {f : OpenFunction} {is : List Instruction} (hf : d.current = some f)
      (hg : g ∈ d.sections.functions ++ [⟨f.definition, f.parameters, f.label, f.body ++ is⟩]) :
      ∃ f ∈ d.bodies, f.Within g := by
    rw [Draft.bodies_of_some hf]
    rcases List.mem_append.1 hg with hg | hg
    · exact ⟨g, List.mem_append_left _ hg, .refl g⟩
    · obtain rfl := List.mem_singleton.1 hg
      exact ⟨f.closed, List.mem_append_right _ List.mem_cons_self, rfl, rfl, rfl,
        List.prefix_append _ _⟩
  cases h with
  | begin hc =>
      refine (hopened hc hg).imp (fun hg => ⟨g, hg, .refl g⟩) ?_
      rintro rfl
      exact ⟨_, _, _, _, _, rfl⟩
  | @define d id label ids s values control hc =>
      have hc' : (d.removeDeclared id).current = none := hc
      refine (hopened hc' hg).imp (fun hg => ⟨g, hg, .refl g⟩) ?_
      rintro rfl
      exact ⟨_, _, _, _, _, rfl⟩
  | emit hf =>
      rw [Draft.addResult_eq hf] at hg
      exact Or.inl (hlonger hf hg)
  | store hf =>
      rw [Draft.addToBody_eq hf] at hg
      exact Or.inl (hlonger hf hg)
  | leave hf =>
      rw [Draft.addReturn_eq hf] at hg
      exact Or.inl (hlonger hf hg)
  | close hf =>
      refine Or.inl ⟨g, ?_, .refl g⟩
      rw [Draft.bodies_of_some hf]
      rwa [Draft.bodies_of_none rfl] at hg
  | note hnote => exact Or.inl ⟨g, hnote.unseen Draft.bodies (fun _ => rfl) ▸ hg, .refl g⟩
  | @defineConstant d id ids key => cases key <;> exact Or.inl ⟨g, hg, .refl g⟩
  | _ => exact Or.inl ⟨g, hg, .refl g⟩

/-- **Changes only add.** -/
theorem Changes.extends (h : Changes short exhausted a b) (ha : a.Consistent) :
    a.draft.Extends b.draft := by
  refine h.preserves_of_consistent (P := fun b => a.draft.Extends b.draft) ?_ ha (.refl _)
  intro b c hb hstep hextends
  exact hextends.trans (hstep.extends hb)

end Account

end FrameShader
