/-
Appending: a draft is written at the ends of its lists and nowhere else.

Each section of a draft is a list, and so is the body of each function.  A change adds to the end of
one of these lists, or it opens a function behind the others; what is written already is not
touched, and a closed function stays as it is.  What is added to a section has an opcode that
belongs there.

This is stated once, with a property of what is added, so that later modules only have to say which
property they are after.

Main definitions:

* `FrameShader.Opcode.place` — where the instructions of an opcode stand;
* `FrameShader.Sections.part`, `FrameShader.ShaderModule.part` — what stands in a section;
* `FrameShader.Section.states` — the sections that hold statements;
* `FrameShader.Appended`, `FrameShader.Function.Continued` — longer lists and longer bodies;
* `FrameShader.Draft.Appends` — a draft that is another one with something added.

Main results:

* `FrameShader.Account.Change.note_or_appends` — **a change is a note, or it appends what may be
  written**;
* `FrameShader.Account.Change.statements`, `FrameShader.Account.Change.definitions` — a change only
  states what may be stated and only writes what may be written;
* `FrameShader.Account.Changes.appends` — so do several changes, and an invariant of the drafts in
  between bounds what they append;
* `FrameShader.Draft.account_of_finish` — what a run that finishes a module leads to.
-/

import FrameShader.Proofs.Draft.Definitions
import FrameShader.Proofs.Draft.Statements
import FrameShader.Spirv.Grammar.Basic

set_option relaxedAutoImplicit false
set_option autoImplicit false

namespace FrameShader

/-! ### Where instructions stand -/

/-- Where the instructions of an opcode stand in the modules built here.  Variables belong to the
module, since no function has its own. -/
def Opcode.place : Opcode → Place
  | .capability => .inSection .capabilities
  | .extension => .inSection .extensions
  | .extInstImport => .inSection .imports
  | .memoryModel => .inSection .memoryModel
  | .entryPoint => .inSection .entryPoints
  | .executionMode => .inSection .executionModes
  | .source => .inSection .source
  | .debugName | .debugMemberName => .inSection .names
  | .decorate | .memberDecorate => .inSection .annotations
  | .typeVoid | .typeBool | .typeInt | .typeFloat | .typeVector | .typeImage => .inSection .globals
  | .typeSampler | .typeSampledImage | .typeRuntimeArray | .typeStruct => .inSection .globals
  | .typePointer | .typeFunction => .inSection .globals
  | .constantTrue | .constantFalse | .constant | .constantComposite => .inSection .globals
  | .variable => .inSection .globals
  | .function => .startOfFunction
  | .functionParameter => .parameterOfFunction
  | .label => .startOfBlock
  | .returnVoid | .returnValue => .endOfBlock
  | .functionEnd => .endOfFunction
  | .nop => .anywhere
  | .extInst | .functionCall | .load | .store | .accessChain => .inBlock
  | .vectorShuffle | .compositeConstruct | .compositeExtract => .inBlock
  | .sampledImage | .imageSampleExplicitLod | .convertUToF => .inBlock
  | .fAdd | .fSub | .fMul | .fMod | .vectorTimesScalar | .dot | .select | .fOrdEqual => .inBlock

/-- What stands in a section.  A draft keeps no memory model, which its settings give, and it knows
no processes. -/
def Sections.part (s : Sections) : Section → List Instruction
  | .capabilities => s.capabilities
  | .extensions => s.extensions
  | .imports => s.imports
  | .memoryModel => []
  | .entryPoints => s.entryPoints
  | .executionModes => s.executionModes
  | .source => s.source
  | .names => s.names
  | .processes => []
  | .annotations => s.annotations
  | .globals => s.globals

/-- What stands in a section of a finished module. -/
def ShaderModule.part (m : ShaderModule) : Section → List Instruction
  | .capabilities => m.capabilities
  | .extensions => m.extensions
  | .imports => m.imports
  | .memoryModel => [m.memoryModel]
  | .entryPoints => m.entryPoints
  | .executionModes => m.executionModes
  | .source => m.source
  | .names => m.names
  | .processes => []
  | .annotations => m.annotations
  | .globals => m.globals

/-- Whether what stands in the section defines nothing. -/
def Section.states : Section → Bool
  | .imports | .globals => false
  | _ => true

/-- The statements of a draft are its sections in order, those apart that define something. -/
theorem Draft.statements_eq (d : Draft) :
    d.statements = (Section.all.filter Section.states).flatMap d.sections.part := by
  have hsections : Section.all.filter Section.states = [.capabilities, .extensions, .memoryModel,
      .entryPoints, .executionModes, .source, .names, .processes, .annotations] := rfl
  simp [Draft.statements, hsections, Sections.part]

/-- What stands outside of functions are the sections in order. -/
theorem ShaderModule.globalInstructions_eq (m : ShaderModule) :
    m.globalInstructions = Section.all.flatMap m.part := by
  simp [ShaderModule.globalInstructions, Section.all, ShaderModule.part]

namespace Draft

variable {d : Draft} {i : Instruction}

theorem TypeDefinition.place {t : DataType} {opcode : Opcode} {operands : List Operand}
    (h : d.TypeDefinition t opcode operands) : opcode.place = .inSection .globals := by
  cases h <;> rfl

theorem ConstantDefinition.place {key : ConstantKey} {opcode : Opcode} {type : Id}
    {operands : List Operand} (h : d.ConstantDefinition key opcode type operands) :
    opcode.place = .inSection .globals := by
  cases h with
  | @bool value => cases value <;> rfl
  | scalar | composite => rfl

theorem Emission.place {short : Prop} {opcode : Opcode} {type : Id} {operands : List Operand}
    (h : d.Emission short opcode type operands) : opcode.place = .inBlock := by
  cases h with
  | arithmetic ho =>
      rcases isArithmetic_iff.1 ho with rfl | rfl | rfl | rfl <;> rfl
  | _ => rfl

/-- What is written where ids are defined stands in no section of statements. -/
theorem Definition.states {short : Prop} (h : d.Definition short i) {k : Section}
    (hplace : i.opcode.place = .inSection k) : k.states = false := by
  cases h with
  | importSet | global =>
      obtain rfl := Place.inSection.inj hplace
      rfl
  | type ht =>
      obtain rfl := Place.inSection.inj (ht.place.symm.trans hplace)
      rfl
  | constant hk =>
      obtain rfl := Place.inSection.inj (hk.place.symm.trans hplace)
      rfl
  | start _ _ hi =>
      rcases OpenFunction.mem_start.1 hi with rfl | ⟨v, -, rfl⟩ | rfl | rfl <;> cases hplace
  | emit he => cases he.place.symm.trans hplace
  | store => cases hplace
  | @leave value => cases value <;> cases hplace

end Draft

/-! ### Lists that get longer -/

/-- The list `ys` is `xs` with more entries at its end, all of which satisfy `P`. -/
def Appended {α : Type} (P : α → Prop) (xs ys : List α) : Prop :=
  ∃ zs, ys = xs ++ zs ∧ ∀ z ∈ zs, P z

namespace Appended

variable {α : Type} {P Q : α → Prop} {xs ys zs : List α} {x : α}

theorem refl (xs : List α) : Appended P xs xs :=
  ⟨[], (List.append_nil xs).symm, List.forall_mem_nil P⟩

theorem snoc (h : P x) : Appended P xs (xs ++ [x]) := ⟨[x], rfl, List.forall_mem_singleton.2 h⟩

theorem trans (h : Appended P xs ys) (h' : Appended P ys zs) : Appended P xs zs := by
  obtain ⟨us, rfl, hus⟩ := h
  obtain ⟨vs, rfl, hvs⟩ := h'
  exact ⟨us ++ vs, List.append_assoc xs us vs, List.forall_mem_append.2 ⟨hus, hvs⟩⟩

theorem mono (himp : ∀ x, P x → Q x) (h : Appended P xs ys) : Appended Q xs ys := by
  obtain ⟨us, rfl, hus⟩ := h
  exact ⟨us, rfl, fun u hu => himp u (hus u hu)⟩

theorem isPrefix (h : Appended P xs ys) : xs <+: ys := by
  obtain ⟨us, rfl, -⟩ := h
  exact List.prefix_append xs us

/-- What is in the longer list was there or was added. -/
theorem mem (h : Appended P xs ys) (hx : x ∈ ys) : x ∈ xs ∨ P x := by
  obtain ⟨us, rfl, hus⟩ := h
  exact (List.mem_append.1 hx).imp_right (hus x)

end Appended

/-! ### Functions that get longer -/

/-- The function `g` is `f` with more instructions at the end of its body, all of which satisfy
`P`. -/
structure Function.Continued (P : Instruction → Prop) (f g : Function) : Prop where
  definition : g.definition = f.definition
  parameters : g.parameters = f.parameters
  label : g.label = f.label
  body : Appended P f.body g.body

namespace Function.Continued

variable {P Q : Instruction → Prop} {f g h : Function}

theorem refl (f : Function) : f.Continued P f := ⟨rfl, rfl, rfl, .refl f.body⟩

theorem trans (hfg : f.Continued P g) (hgh : g.Continued P h) : f.Continued P h :=
  ⟨hgh.definition.trans hfg.definition, hgh.parameters.trans hfg.parameters,
    hgh.label.trans hfg.label, hfg.body.trans hgh.body⟩

theorem mono (himp : ∀ i, P i → Q i) (h : f.Continued P g) : f.Continued Q g :=
  ⟨h.definition, h.parameters, h.label, h.body.mono himp⟩

theorem within (h : f.Continued P g) : f.Within g :=
  ⟨h.definition, h.parameters, h.label, h.body.isPrefix⟩

/-- What is in the longer function was there or was added. -/
theorem mem (h : f.Continued P g) {i : Instruction} (hi : i ∈ g.instructions) :
    i ∈ f.instructions ∨ P i := by
  simp only [Function.instructions, List.mem_cons, List.mem_append, h.definition, h.parameters,
    h.label] at hi ⊢
  rcases hi with hi | hi | hi | hi | hi
  · exact Or.inl (Or.inl hi)
  · exact Or.inl (Or.inr (Or.inl hi))
  · exact Or.inl (Or.inr (Or.inr (Or.inl hi)))
  · exact (h.body.mem hi).imp_left fun hi => Or.inr (Or.inr (Or.inr (Or.inl hi)))
  · exact Or.inl (Or.inr (Or.inr (Or.inr (Or.inr hi))))

end Function.Continued

/-! ### Drafts that get longer -/

namespace Draft

/-- The draft `d'` is `d` with more instructions, all of which satisfy `P`.  The functions keep
their positions, and those that are closed stay as they are. -/
structure Appends (P : Instruction → Prop) (d d' : Draft) : Prop where
  parts : ∀ k, Appended (fun i => i.opcode.place = .inSection k ∧ P i) (d.sections.part k)
    (d'.sections.part k)
  closed : d.sections.functions <+: d'.sections.functions
  bodies : ∀ (n : Nat) (f : Function), d.bodies[n]? = some f →
    ∃ g, d'.bodies[n]? = some g ∧ f.Continued P g
  opened : ∀ (n : Nat) (g : Function), d.bodies[n]? = none → d'.bodies[n]? = some g →
    ∀ i ∈ g.instructions, P i

namespace Appends

variable {P Q : Instruction → Prop} {d d' d'' : Draft}

/-- A draft that adds only to its sections. -/
theorem of_parts (hparts : ∀ k, Appended (fun i => i.opcode.place = .inSection k ∧ P i)
      (d.sections.part k) (d'.sections.part k))
    (hfunctions : d'.sections.functions = d.sections.functions)
    (hcurrent : d'.current = d.current) : d.Appends P d' := by
  have hbodies : d'.bodies = d.bodies := by rw [Draft.bodies, Draft.bodies, hfunctions, hcurrent]
  refine ⟨hparts, hfunctions ▸ List.prefix_rfl, fun n f hf => ⟨f, hbodies ▸ hf, .refl f⟩, ?_⟩
  intro n g hnone hg
  rw [hbodies, hnone] at hg
  cases hg

theorem refl (d : Draft) : d.Appends P d := .of_parts (fun _ => .refl _) rfl rfl

theorem mono (himp : ∀ i, P i → Q i) (h : d.Appends P d') : d.Appends Q d' where
  parts k := (h.parts k).mono fun i hi => ⟨hi.1, himp i hi.2⟩
  closed := h.closed
  bodies n f hf := by
    obtain ⟨g, hg, hfg⟩ := h.bodies n f hf
    exact ⟨g, hg, hfg.mono himp⟩
  opened n g hnone hg i hi := himp i (h.opened n g hnone hg i hi)

theorem trans (h : d.Appends P d') (h' : d'.Appends P d'') : d.Appends P d'' where
  parts k := (h.parts k).trans (h'.parts k)
  closed := h.closed.trans h'.closed
  bodies n f hf := by
    obtain ⟨g, hg, hfg⟩ := h.bodies n f hf
    obtain ⟨k, hk, hgk⟩ := h'.bodies n g hg
    exact ⟨k, hk, hfg.trans hgk⟩
  -- a function that is new in the last draft was opened in the first step or in the second
  opened n k hnone hk i hi := by
    cases hg : d'.bodies[n]? with
    | none => exact h'.opened n k hg hk i hi
    | some g =>
        obtain ⟨k', hk', hgk⟩ := h'.bodies n g hg
        obtain rfl := Option.some.inj (hk.symm.trans hk')
        exact (hgk.mem hi).elim (h.opened n g hnone hg i) id

/-- What is stated was stated before or was added to a section of statements. -/
theorem mem_statements (h : d.Appends P d') {i : Instruction} (hi : i ∈ d'.statements) :
    i ∈ d.statements ∨ P i ∧ ∃ k : Section, k.states = true ∧ i.opcode.place = .inSection k := by
  rw [statements_eq] at hi ⊢
  obtain ⟨k, hk, hi⟩ := List.mem_flatMap.1 hi
  rcases (h.parts k).mem hi with hi | ⟨hplace, hi⟩
  · exact Or.inl (List.mem_flatMap.2 ⟨k, hk, hi⟩)
  · exact Or.inr ⟨hi, k, (List.mem_filter.1 hk).2, hplace⟩

/-- What is defined was defined before or was added. -/
theorem mem_definitions (h : d.Appends P d') {i : Instruction} (hi : i ∈ d'.definitions) :
    i ∈ d.definitions ∨ P i := by
  rw [Draft.mem_definitions] at hi ⊢
  rcases hi with hi | hi | ⟨g, hg, hi⟩
  · exact ((h.parts .imports).mem hi).imp Or.inl And.right
  · exact ((h.parts .globals).mem hi).imp (fun hi => Or.inr (Or.inl hi)) And.right
  · obtain ⟨n, hn⟩ := List.mem_iff_getElem?.1 hg
    cases hf : d.bodies[n]? with
    | none => exact Or.inr (h.opened n g hf hn i hi)
    | some f =>
        obtain ⟨g', hg', hfg⟩ := h.bodies n f hf
        obtain rfl := Option.some.inj (hn.symm.trans hg')
        exact (hfg.mem hi).imp_left fun hi => Or.inr (Or.inr ⟨f, List.mem_of_getElem? hf, hi⟩)

/-- A draft that adds to one of its sections. -/
theorem of_line {i : Instruction} (k : Section)
    (hparts : ∀ l, d'.sections.part l =
      if l = k then d.sections.part l ++ [i] else d.sections.part l)
    (hfunctions : d'.sections.functions = d.sections.functions) (hcurrent : d'.current = d.current)
    (hplace : i.opcode.place = .inSection k) (hi : P i) : d.Appends P d' := by
  refine .of_parts (fun l => ?_) hfunctions hcurrent
  rw [hparts l]
  split
  · next hl => exact .snoc ⟨hl ▸ hplace, hi⟩
  · exact .refl _

/-- A draft with one more global. -/
theorem of_addGlobal {i : Instruction} (hplace : i.opcode.place = .inSection .globals) (hi : P i) :
    d.Appends P (d.addGlobal i) :=
  .of_line .globals (fun l => by cases l <;> rfl) rfl rfl hplace hi

/-- A draft that opens a function. -/
theorem of_openBody {f : OpenFunction} {s : Signature} (hc : d.current = none)
    (hi : ∀ i ∈ f.closed.instructions, P i) : d.Appends P (d.openBody f s) := by
  have hbodies : (d.openBody f s).bodies = d.bodies ++ [f.closed] := by
    rw [bodies_of_some (f := f) rfl, bodies_of_none hc]
    rfl
  refine ⟨fun _ => .refl _, List.prefix_rfl, fun n g hg => ⟨g, ?_, .refl g⟩, fun n g hnone hg => ?_⟩
  · rw [hbodies, List.getElem?_append_left (List.getElem?_eq_some_iff.1 hg).1]
    exact hg
  · rw [hbodies, List.getElem?_append_right (List.getElem?_eq_none_iff.1 hnone)] at hg
    obtain rfl := List.mem_singleton.1 (List.mem_of_getElem? hg)
    exact hi

/-- A draft whose open function gets longer. -/
theorem of_body {f g : OpenFunction} (hf : d.current = some f)
    (hfg : f.closed.Continued P g.closed) : d.Appends P { d with current := some g } := by
  have hbodies : Draft.bodies { d with current := some g } = d.sections.functions ++ [g.closed] :=
    rfl
  refine ⟨fun _ => .refl _, List.prefix_rfl, fun n k hk => ?_, fun n k hnone hk => ?_⟩
  -- the open function stands behind the closed ones, at the position of their number
  · rw [bodies_of_some hf] at hk
    rw [hbodies]
    rcases Nat.lt_or_ge n d.sections.functions.length with hn | hn
    · rw [List.getElem?_append_left hn] at hk ⊢
      exact ⟨k, hk, .refl k⟩
    · rw [List.getElem?_append_right hn] at hk ⊢
      cases hlast : n - d.sections.functions.length with
      | zero =>
          rw [hlast] at hk
          obtain rfl := Option.some.inj hk
          exact ⟨g.closed, rfl, hfg⟩
      | succ m =>
          rw [hlast] at hk
          cases hk
  · have hlength : (d.sections.functions ++ [g.closed]).length ≤ n := by
      have hle := List.getElem?_eq_none_iff.1 hnone
      rw [bodies_of_some hf] at hle
      simpa using hle
    rw [hbodies, List.getElem?_eq_none_iff.2 hlength] at hk
    cases hk

/-- A draft that closes its function. -/
theorem of_closeBody {f : OpenFunction} (hf : d.current = some f) :
    d.Appends P (d.closeBody f) := by
  have hbodies : (d.closeBody f).bodies = d.bodies := by
    rw [bodies_of_none rfl, bodies_of_some hf]
    rfl
  refine ⟨fun _ => .refl _, List.prefix_append _ _, fun n g hg => ⟨g, hbodies ▸ hg, .refl g⟩, ?_⟩
  intro n g hnone hg
  rw [hbodies, hnone] at hg
  cases hg

/-- Only what is written matters. -/
theorem of_written (hsections : d'.sections = d.sections) (hcurrent : d'.current = d.current) :
    d.Appends P d' :=
  .of_parts (fun k => hsections ▸ .refl _) (by rw [hsections]) hcurrent

end Appends

/-! ### Notes -/

section notes

variable {d d' : Draft} {i : Instruction} {P : Instruction → Prop}

theorem Appends.of_addToAnnotations (hplace : i.opcode.place = .inSection .annotations) (hi : P i) :
    d.Appends P (d.addToAnnotations i) := by
  unfold addToAnnotations
  split
  · exact .refl d
  · exact .of_line .annotations (fun l => by cases l <;> rfl) rfl rfl hplace hi

theorem Appends.of_addName {target : Id} {member : Option Word}
    (hplace : i.opcode.place = .inSection .names) (hi : P i) :
    d.Appends P (d.addName target member i) := by
  unfold addName
  split
  · exact .refl d
  · exact .of_line .names (fun l => by cases l <;> rfl) rfl rfl hplace hi

/-- **A note appends what may be stated.** -/
theorem Note.appends (h : d.Note d') : d.Appends d.Statement d' := by
  cases h with
  | capability c =>
      unfold addCapability
      split
      · exact .refl d
      · exact .of_line .capabilities (fun l => by cases l <;> rfl) rfl rfl rfl (.capability c)
  | extension text =>
      unfold addExtension
      split
      · exact .refl d
      · exact .of_line .extensions (fun l => by cases l <;> rfl) rfl rfl rfl (.extension text)
  | source language version =>
      unfold addSource
      split
      · exact .refl d
      -- the source is written over what was there, which is nothing
      · next hnone =>
          have hempty : d.sections.source = [] := by
            simp only [Bool.or_eq_true, not_or, Bool.not_eq_true', Bool.not_eq_false,
              List.isEmpty_iff] at hnone
            exact hnone.2
          refine .of_line .source (fun l => ?_) rfl rfl rfl (.source language version)
          cases l with
          | source =>
              show _ = d.sections.source ++ _
              rw [hempty]
              rfl
          | _ => rfl
  | entryPoint _ hf hinterface =>
      exact .of_line .entryPoints (fun l => by cases l <;> rfl) rfl rfl rfl
        (.entryPoint hf hinterface)
  | executionMode hentryPoint =>
      exact .of_line .executionModes (fun l => by cases l <;> rfl) rfl rfl rfl
        (.executionMode hentryPoint)
  | decorate hdefined => exact .of_addToAnnotations rfl (.decorate hdefined)
  | decorateMember hdefined hmember =>
      exact .of_addToAnnotations rfl (.decorateMember hdefined hmember)
  | name hvisible => exact .of_addName rfl (.name hvisible)
  | nameMember hmember => exact .of_addName rfl (.nameMember hmember)
  | record | configure | slot | builtIn => exact .of_written rfl rfl

end notes

end Draft

/-! ### Changes -/

/-- What may be added to a draft: a statement or a definition. -/
def Draft.Addition (short : Prop) (d : Draft) (i : Instruction) : Prop :=
  d.Statement i ∨ d.Definition short i

namespace Account

variable {short exhausted : Prop} {a b : Account}

/-- **A change is a note, or it appends what may be written.** -/
theorem Change.note_or_appends (h : Change short exhausted a b) :
    a.draft.Note b.draft ∨ a.draft.Appends (a.draft.Definition short) b.draft := by
  cases h with
  | note hnote => exact Or.inl hnote
  | take | declare | forget => exact Or.inr (.of_written rfl rfl)
  | @importSet d id ids text =>
      exact Or.inr (.of_line .imports (fun l => by cases l <;> rfl) rfl rfl rfl (.importSet text id))
  | @defineType d id ids t opcode operands _ ht =>
      have happends := Draft.Appends.of_addGlobal (d := d) (i := .defining opcode id operands)
        ht.place (P := d.Definition short) (.type ht id)
      exact Or.inr (happends.trans (.of_written rfl rfl))
  | @defineConstant d id ids key opcode type operands _ hk =>
      have happends := Draft.Appends.of_addGlobal (d := d) (i := .typed opcode type id operands)
        hk.place (P := d.Definition short) (.constant hk id)
      refine Or.inr (happends.trans ?_)
      cases key <;> exact .of_written rfl rfl
  | @defineVariable d id ids storage t type hs ht =>
      have happends := Draft.Appends.of_addGlobal (d := d)
        (i := .typed .variable type id [.storageClass storage]) rfl
        (P := d.Definition short) (.global hs ht id)
      exact Or.inr (happends.trans (.of_written rfl rfl))
  | begin hc hs hv => exact Or.inr (.of_openBody hc fun i hi => .start hs hv hi)
  | @define d id label ids s values control hc _ hs hv =>
      have hwritten : d.Appends (d.Definition short) (d.removeDeclared id) := .of_written rfl rfl
      exact Or.inr (hwritten.trans (.of_openBody hc fun i hi => .start hs hv hi))
  | @emit d id ids f opcode type operands hf _ he =>
      rw [Draft.addResult_eq hf]
      exact Or.inr (.of_body hf ⟨rfl, rfl, rfl, .snoc (.emit he id)⟩)
  | store hf _ hp hv =>
      rw [Draft.addToBody_eq hf]
      exact Or.inr (.of_body hf ⟨rfl, rfl, rfl, .snoc (.store hp hv)⟩)
  | leave hf _ _ hreturn =>
      rw [Draft.addReturn_eq hf]
      exact Or.inr (.of_body hf ⟨rfl, rfl, rfl, .snoc (.leave hreturn)⟩)
  | close hf => exact Or.inr (.of_closeBody hf)

/-- A change appends what may be stated or written. -/
theorem Change.appends (h : Change short exhausted a b) :
    a.draft.Appends (a.draft.Addition short) b.draft :=
  h.note_or_appends.elim (fun hnote => hnote.appends.mono fun _ => Or.inl)
    fun happends => happends.mono fun _ => Or.inr

/-- **A change only states what may be stated.** -/
theorem Change.statements (h : Change short exhausted a b) {i : Instruction}
    (hi : i ∈ b.draft.statements) : i ∈ a.draft.statements ∨ a.draft.Statement i := by
  rcases h.note_or_appends with hnote | happends
  · exact (hnote.appends.mem_statements hi).imp_right And.left
  · refine (happends.mem_statements hi).imp_right ?_
    rintro ⟨hi, k, hk, hplace⟩
    rw [hi.states hplace] at hk
    cases hk

/-- **A change only writes what may be written.** -/
theorem Change.definitions (h : Change short exhausted a b) {i : Instruction}
    (hi : i ∈ b.draft.definitions) : i ∈ a.draft.definitions ∨ a.draft.Definition short i := by
  rcases h.note_or_appends with hnote | happends
  · exact Or.inl (hnote.unseen Draft.definitions (fun _ => rfl) ▸ hi)
  · exact happends.mem_definitions hi

/-- Statements define nothing. -/
theorem Changes.statements_result {settings : ModuleSettings}
    (h : Changes short exhausted ⟨Draft.empty settings, []⟩ b) :
    ∀ i ∈ b.draft.statements, i.result = none := by
  refine h.preserves (P := fun a => ∀ i ∈ a.draft.statements, i.result = none) ?_ ?_
  · intro a b hstep ha i hi
    exact (hstep.statements hi).elim (ha i) fun h => h.result
  · exact fun _ hi => nomatch hi

/-- **Several changes append what an invariant of the drafts in between allows.** -/
theorem Changes.appends {I : Account → Prop} {P : Instruction → Prop}
    (step : ∀ {b c : Account}, Change short exhausted b c → I b → I c)
    (himp : ∀ b, I b → ∀ i, b.draft.Addition short i → P i) (h : Changes short exhausted a b)
    (ha : I a) : a.draft.Appends P b.draft := by
  have hboth : I b ∧ a.draft.Appends P b.draft := by
    refine h.preserves (P := fun b => I b ∧ a.draft.Appends P b.draft) ?_ ⟨ha, .refl _⟩
    intro b c hstep hb
    exact ⟨step hstep hb.1, hb.2.trans (hstep.appends.mono (himp b hb.1))⟩
  exact hboth.2

/-- What several changes append, whatever it is. -/
theorem Changes.appends_any (h : Changes short exhausted a b) :
    a.draft.Appends (fun _ => True) b.draft :=
  h.appends (I := fun _ => True) (fun _ _ => trivial) (fun _ _ _ _ => trivial) trivial

end Account

/-! ### Finished modules -/

namespace Draft

/-- A run that finishes a module accounts for all that the module defines. -/
theorem account_of_finish (settings : ModuleSettings) (os : List Operation) {m : ShaderModule}
    (h : (Build.finish.runOn ((empty settings).after os)).1 = .ok m) :
    ∃ b : Account, b.draft = (empty settings).after os ∧
      Account.Changes False (¬ (empty settings).HasIds os) ⟨empty settings, []⟩ b ∧
        b.Consistent ∧ b.draft.finished = .ok m ∧ m.results = b.draft.definedIds := by
  obtain ⟨b, hb, hchanges, hconsistent⟩ := run_account False settings os False.elim
  have hfinished : b.draft.finished = .ok m := by
    rw [hb]
    exact finished_of_finish h
  exact ⟨b, hb, hchanges, hconsistent, hfinished,
    results_of_finished hchanges.statements_result hfinished⟩

end Draft

end FrameShader
