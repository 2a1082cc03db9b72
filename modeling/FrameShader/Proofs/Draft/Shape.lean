/-
Shape: what a closed function looks like, and that it stays so.

A function is written in one go: it is opened with its parameters and its label, its body gets
longer one instruction at a time, a return ends the body, and only then can it be closed.  What has
been written of the open function is part of the invariant, since the shape of a closed function is
that of the open one a moment earlier.

Main definitions:

* `FrameShader.Function.Heads` — how a function begins;
* `FrameShader.Returns`, `FrameShader.Function.Ends` — how a function returns, and how its body
  ends;
* `FrameShader.Function.Shaped` — the shape of a closed function;
* `FrameShader.Draft.Shaped` — the invariant.

Main results:

* `FrameShader.Draft.Shaped.step` — **the invariant is kept by every change**;
* `FrameShader.Operation.current_of_function`, `FrameShader.Operation.current_of_open` — one
  function is open at a time, until it is closed;
* `FrameShader.Draft.functions_shaped` — **every closed function has its shape and is never
  changed**.
-/

import FrameShader.Proofs.Draft.Appending
import FrameShader.Proofs.Draft.Decoding
import FrameShader.Proofs.Draft.Keeping
import FrameShader.Proofs.Draft.Typing

set_option relaxedAutoImplicit false
set_option autoImplicit false

namespace FrameShader

/-! ### Shapes -/

/-- The function begins as one with this result type: its parameters are those of its function
type, and its only block has a label. -/
structure Function.Heads (globals : List Instruction) (f : Function) (result : Id) : Prop where
  signature : ∃ id control type parameters,
    f.definition = .typed .function result id [.functionControl control, .id type] ∧
      .defining .typeFunction type (.id result :: parameters.map .id) ∈ globals ∧
      List.Forall₂ (fun p t => ∃ q, p = .typed .functionParameter t q []) f.parameters parameters
  label : ∃ id, f.label = .defining .label id []

/-- How a function with this result type returns.  A value that it returns is defined by an
instruction that is `visible` where it does. -/
inductive Returns (globals visible : List Instruction) (result : Id) : Instruction → Prop
  | void (h : (readTypes globals).lookup result = some .void) :
      Returns globals visible result (.plain .returnVoid [])
  | value {t : DataType} {i : Instruction} {id : Id}
      (h : (readTypes globals).lookup result = some t) (hvoid : t ≠ .void) (hi : i ∈ visible)
      (hid : i.result = some id) (htype : i.valueType? = some result) :
      Returns globals visible result (.plain .returnValue [.id id])

/-- The body of the function ends with its only return.  What is visible there are the globals, the
functions opened before it, which are `fs`, itself, its parameters and its results. -/
def Function.Ends (globals : List Instruction) (fs : List Function) (f : Function) (result : Id) :
    Prop :=
  ∃ steps last, f.body = steps ++ [last] ∧ (∀ i ∈ steps, i.opcode.place = .inBlock) ∧
    Returns globals
      (globals ++ (fs.map Function.definition ++ f.definition :: (f.parameters ++ steps))) result last

/-- The shape of a closed function, where `fs` are the functions opened before it. -/
def Function.Shaped (globals : List Instruction) (fs : List Function) (f : Function) : Prop :=
  ∃ result, f.Heads globals result ∧ f.Ends globals fs result

/-- Every closed function has its shape, and so has the open one as far as it is written. -/
structure Draft.Shaped (d : Draft) : Prop where
  closed : ∀ fs f gs, d.sections.functions = fs ++ f :: gs → f.Shaped d.sections.globals fs
  begun : ∀ f, d.current = some f → f.closed.Heads d.sections.globals f.result
  unfinished : ∀ f, d.current = some f → f.terminated = false →
    ∀ i ∈ f.body, i.opcode.place = .inBlock
  returned : ∀ f, d.current = some f → f.terminated = true →
    f.closed.Ends d.sections.globals d.sections.functions f.result

/-- Every function begins as it should, the open one included. -/
theorem Draft.Shaped.heads {d : Draft} (h : d.Shaped) {f : Function} (hf : f ∈ d.bodies) :
    ∃ result, f.Heads d.sections.globals result := by
  rcases List.mem_append.1 hf with hf | hf
  · obtain ⟨fs, gs, hsplit⟩ := List.append_of_mem hf
    obtain ⟨result, hhead, -⟩ := h.closed fs f gs hsplit
    exact ⟨result, hhead⟩
  · obtain ⟨g, hg, rfl⟩ := List.mem_map.1 hf
    exact ⟨g.result, h.begun g (Option.mem_toList.1 hg)⟩

/-- Every parameter has a type. -/
theorem Function.Heads.exists_resultType {globals : List Instruction} {f : Function} {result : Id}
    (h : f.Heads globals result) {p : Instruction} (hp : p ∈ f.parameters) :
    ∃ type, p.resultType = some type := by
  obtain ⟨_, _, _, _, -, -, hparameters⟩ := h.signature
  obtain ⟨t, -, q, rfl⟩ := exists_of_mem_left hparameters hp
  exact ⟨t, rfl⟩

/-! ### Shapes stay what they are -/

section extension

variable {globals globals' : List Instruction} {fs : List Function} {f : Function} {result : Id}

theorem Function.Heads.mono (h : globals ⊆ globals') (hf : f.Heads globals result) :
    f.Heads globals' result := by
  obtain ⟨id, control, type, parameters, hdefinition, htype, hparameters⟩ := hf.signature
  exact ⟨⟨id, control, type, parameters, hdefinition, h htype, hparameters⟩, hf.label⟩

theorem Function.Ends.mono (h : globals ⊆ globals')
    (htypes : ∀ id t, (readTypes globals).lookup id = some t →
      (readTypes globals').lookup id = some t)
    (hf : f.Ends globals fs result) : f.Ends globals' fs result := by
  obtain ⟨steps, last, hbody, hsteps, hlast⟩ := hf
  refine ⟨steps, last, hbody, hsteps, ?_⟩
  cases hlast with
  | void hvoid => exact .void (htypes _ _ hvoid)
  | value ht hvoid hi hid htype =>
      refine .value (htypes _ _ ht) hvoid ?_ hid htype
      exact (List.mem_append.1 hi).elim (fun hi => List.mem_append_left _ (h hi))
        fun hi => List.mem_append_right _ hi

theorem Function.Shaped.mono (h : globals ⊆ globals')
    (htypes : ∀ id t, (readTypes globals).lookup id = some t →
      (readTypes globals').lookup id = some t)
    (hf : f.Shaped globals fs) : f.Shaped globals' fs := by
  obtain ⟨result, hhead, hend⟩ := hf
  exact ⟨result, hhead.mono h, hend.mono h htypes⟩

end extension

/-- The last entry of a list is the one where it is taken apart, or it comes later. -/
theorem eq_or_exists_of_snoc {α : Type} {xs before after : List α} {x y : α}
    (h : xs ++ [x] = before ++ y :: after) :
    (before = xs ∧ y = x) ∨ ∃ init, xs = before ++ y :: init := by
  rcases List.eq_nil_or_concat after with rfl | ⟨init, z, rfl⟩
  · obtain ⟨hbefore, hlast⟩ := List.append_inj' h rfl
    exact Or.inl ⟨hbefore.symm, (List.cons.inj hlast).1.symm⟩
  · rw [List.concat_eq_append, ← List.cons_append, ← List.append_assoc] at h
    exact Or.inr ⟨init, (List.append_inj' h rfl).1⟩

/-! ### How functions begin -/

namespace Account.Consistent

variable {d : Draft} {ids : List Id}

/-- An interned type is defined among the globals. -/
theorem exists_type (h : Consistent ⟨d, ids⟩) {t : DataType} {id : Id} (ht : d.Interned t id) :
    ∃ opcode operands, d.TypeDefinition t opcode operands ∧
      .defining opcode id operands ∈ d.sections.globals := by
  have hlookup := h.lookup_dataTypes ht
  rw [h.types] at hlookup
  obtain ⟨init, i, hprefix, hid, hread⟩ := exists_of_lookup_readTypes hlookup
  have hi : i ∈ d.sections.globals :=
    hprefix.subset (List.mem_append_right _ List.mem_cons_self)
  cases h.entry hi with
  | type hu hinterned =>
      obtain rfl := Option.some.inj hid
      obtain rfl := h.eq_of_interned ht hinterned
      exact ⟨_, _, hu, hi⟩
  | constant =>
      rw [Constant.dataType?_definition] at hread
      cases hread
  | «variable» => cases hread

/-- Types that are interned one by one have no other ids. -/
theorem eq_of_interned_all {ts : List DataType} {xs ys : List Id}
    (hx : List.Forall₂ d.Interned ts xs) (hy : List.Forall₂ d.Interned ts ys) : xs = ys := by
  induction hx generalizing ys with
  | nil =>
      cases hy
      rfl
  | cons hx _ ih =>
      obtain ⟨hy, hrest⟩ | ⟨hy, hrest⟩ := hy
      rw [Option.some.inj (hx.symm.trans hy), ih hrest]

/-- The function type of a signature says what its result and its parameters are. -/
theorem signature_mem (h : Consistent ⟨d, ids⟩) {s : Signature} (hs : d.HasSignature s) :
    .defining .typeFunction s.type (.id s.result :: s.parameters.map .id) ∈ d.sections.globals := by
  obtain ⟨result, parameters, hs⟩ := hs
  obtain ⟨opcode, operands, ht, hmem⟩ := h.exists_type hs.type
  cases ht with
  | function hr hp =>
      rw [Option.some.inj (hs.result.symm.trans hr), eq_of_interned_all hs.parameters hp]
      exact hmem

/-- A function begins as its signature says. -/
theorem heads_start (h : Consistent ⟨d, ids⟩) {s : Signature} (hs : d.HasSignature s)
    {values : List Value} (hv : values.map Value.type = s.parameters) (id : Id)
    (control : FunctionControl) (label : Id) :
    (OpenFunction.start id s control values label).closed.Heads d.sections.globals s.result where
  signature := by
    refine ⟨id, control, s.type, s.parameters, rfl, h.signature_mem hs, ?_⟩
    show List.Forall₂ _ (values.map _) s.parameters
    rw [← hv, List.forall₂_map_left_iff, List.forall₂_map_right_iff]
    exact List.forall₂_same.2 fun v _ => ⟨v.id, rfl⟩
  label := ⟨label, rfl⟩

end Account.Consistent

/-! ### How functions return -/

/-- A type that is known is interned. -/
theorem Account.Unique.interned {a : Account} (hunique : a.Unique) (ha : a.Consistent)
    {t : DataType} {id : Id} (ht : a.draft.tables.dataTypes.lookup id = some t) :
    a.draft.Interned t id := by
  refine lookup_eq_some_of_mem hunique.types ?_
  rw [ha.interned]
  exact List.mem_map.2 ⟨_, mem_of_lookup_eq_some ht, rfl⟩

namespace Draft

variable {d : Draft} {ids : List Id} {f : OpenFunction}

/-- What can be seen in the open function is defined by one of these instructions. -/
theorem exists_visible (h : Account.Consistent ⟨d, ids⟩) (hf : d.current = some f) {v : Value}
    {t : DataType} (hv : d.Sees v t) :
    ∃ i ∈ d.sections.globals ++ (d.sections.functions.map Function.definition ++
        f.definition :: (f.parameters ++ f.body)),
      i.result = some v.id ∧ i.valueType? = some v.type := by
  rcases typeOf?_eq_some hv.1 with ⟨g, hg, hlocal⟩ | hglobal | ⟨s, hs, htype⟩
  · obtain rfl := Option.some.inj (hf.symm.trans hg)
    obtain ⟨i, hi, hrow⟩ := h.exists_local hf hlocal
    exact ⟨i, List.mem_append_right _ (List.mem_append_right _ (List.mem_cons_of_mem _ hi)), hrow⟩
  · obtain ⟨i, hi, hrow⟩ := h.exists_global hglobal
    exact ⟨i, List.mem_append_left _ hi, hrow⟩
  · obtain ⟨g, hg, hrow⟩ := h.exists_function hs
    refine ⟨g.definition, List.mem_append_right _ ?_, (Function.definition_of_signatureRow? hrow).1,
      by rw [Function.valueType?_of_signatureRow? hrow, htype]⟩
    -- a function is written before the open one, or it is the open one
    rw [bodies_of_some hf] at hg
    rcases List.mem_append.1 hg with hg | hg
    · exact List.mem_append_left _ (List.mem_map_of_mem hg)
    · rw [List.mem_singleton.1 hg]
      exact List.mem_append_right _ List.mem_cons_self

/-- **A return fits the function it is written in.** -/
theorem returns_of_operands (h : Account.Consistent ⟨d, ids⟩) (hunique : Account.Unique ⟨d, ids⟩)
    (hf : d.current = some f) {value : Option Value} {void : Id} {operands : List Operand}
    (hvoid : d.Interned .void void)
    (hreturn : d.returnOperands f.result void value = .ok operands) :
    Returns d.sections.globals
      (d.sections.globals ++ (d.sections.functions.map Function.definition ++
        f.definition :: (f.parameters ++ f.body)))
      f.result (.plain (Build.returnOpcode value) operands) := by
  have htypes : d.tables.dataTypes = readTypes d.sections.globals := h.types
  rcases returnOperands_ok hreturn with ⟨v, t, rfl, hv, htype, hne, rfl⟩ | ⟨rfl, hresult, rfl⟩
  · obtain ⟨i, hi, hid, hvalue⟩ := exists_visible h hf hv
    have ht : d.tables.dataTypes.lookup f.result = some t := htype ▸ hv.2
    refine .value (htypes ▸ ht) ?_ hi hid (htype ▸ hvalue)
    -- if the result type were void, then the value would have the id of void as its type
    rintro rfl
    exact hne (Option.some.inj ((hunique.interned h ht).symm.trans hvoid))
  · refine .void ?_
    rw [← htypes, hresult]
    exact h.lookup_dataTypes hvoid

end Draft

/-! ### Every change keeps the shapes -/

namespace Draft.Shaped

variable {short exhausted : Prop} {a b : Account}

section extension

variable {d d' : Draft} {ids ids' : List Id}

/-- Types that are read stay what they are. -/
theorem types_mono (hd : d.Extends d') (h : Account.Consistent ⟨d, ids⟩)
    (h' : Account.Consistent ⟨d', ids'⟩) (id : Id) (t : DataType)
    (ht : (readTypes d.sections.globals).lookup id = some t) :
    (readTypes d'.sections.globals).lookup id = some t :=
  hd.structureOf? h h' ht

/-- The closed functions keep their shapes. -/
theorem closed_mono (hd : d.Extends d') (h : Account.Consistent ⟨d, ids⟩)
    (h' : Account.Consistent ⟨d', ids'⟩) (hs : d.Shaped) {fs gs : List Function} {f : Function}
    (hsplit : d.sections.functions = fs ++ f :: gs) : f.Shaped d'.sections.globals fs :=
  (hs.closed fs f gs hsplit).mono hd.globals.subset (types_mono hd h h')

/-- A draft that leaves the open function and the closed ones alone. -/
theorem of_same (hd : d.Extends d') (h : Account.Consistent ⟨d, ids⟩)
    (h' : Account.Consistent ⟨d', ids'⟩)
    (hfunctions : d'.sections.functions = d.sections.functions) (hcurrent : d'.current = d.current)
    (hs : d.Shaped) : d'.Shaped where
  closed fs f gs hsplit := hs.closed_mono hd h h' (hfunctions ▸ hsplit)
  begun f hf := (hs.begun f (hcurrent ▸ hf)).mono hd.globals.subset
  unfinished f hf := hs.unfinished f (hcurrent ▸ hf)
  returned f hf ht := by
    rw [hfunctions]
    exact (hs.returned f (hcurrent ▸ hf) ht).mono hd.globals.subset (types_mono hd h h')

/-- A draft that opens a function. -/
theorem of_start (hd : d.Extends d') (h : Account.Consistent ⟨d, ids⟩)
    (h' : Account.Consistent ⟨d', ids'⟩)
    (hfunctions : d'.sections.functions = d.sections.functions) {id label : Id} {s : Signature}
    {values : List Value} {control : FunctionControl}
    (hcurrent : d'.current = some (.start id s control values label))
    (hsignature : d.HasSignature s)
    (hv : values.map Value.type = s.parameters) (hs : d.Shaped) : d'.Shaped := by
  have honly {f : OpenFunction} (hf : d'.current = some f) : f = .start id s control values label :=
    Option.some.inj (hf.symm.trans hcurrent)
  refine ⟨fun fs f gs hsplit => hs.closed_mono hd h h' (hfunctions ▸ hsplit), ?_, ?_, ?_⟩
  · intro f hf
    rw [honly hf]
    exact (h.heads_start hsignature hv id control label).mono hd.globals.subset
  · intro f hf _ i hi
    rw [honly hf] at hi
    exact absurd hi List.not_mem_nil
  · intro f hf ht
    rw [honly hf] at ht
    cases ht

/-- A draft whose open function gets longer. -/
theorem of_body {f : OpenFunction} {is : List Instruction} {locals : List (Id × Id)}
    {terminated : Bool} (hf : d.current = some f) (hs : d.Shaped)
    (hopen : terminated = false → ∀ i ∈ f.body ++ is, i.opcode.place = .inBlock)
    (hreturned : terminated = true →
      Function.Ends d.sections.globals d.sections.functions
        ⟨f.definition, f.parameters, f.label, f.body ++ is⟩ f.result) :
    Shaped { d with current := some { f with
      body := f.body ++ is, locals := locals, terminated := terminated } } := by
  refine ⟨hs.closed, ?_, ?_, ?_⟩
  · rintro g hg
    obtain rfl := Option.some.inj hg
    exact ⟨(hs.begun f hf).signature, (hs.begun f hf).label⟩
  · rintro g hg ht
    obtain rfl := Option.some.inj hg
    exact hopen ht
  · rintro g hg ht
    obtain rfl := Option.some.inj hg
    exact hreturned ht

/-- A draft that closes its function. -/
theorem of_closeBody {f : OpenFunction} (hf : d.current = some f) (ht : f.terminated = true)
    (hs : d.Shaped) : (d.closeBody f).Shaped := by
  have hnone {g : OpenFunction} (hg : (d.closeBody f).current = some g) : False := by cases hg
  refine ⟨fun fs g gs hsplit => ?_, fun g hg => (hnone hg).elim, fun g hg => (hnone hg).elim,
    fun g hg => (hnone hg).elim⟩
  have hsplit' : d.sections.functions ++ [f.closed] = fs ++ g :: gs := hsplit
  -- the function that is closed is the last one; the others were closed before
  rcases eq_or_exists_of_snoc hsplit' with ⟨rfl, rfl⟩ | ⟨init, hinit⟩
  · exact ⟨f.result, hs.begun f hf, hs.returned f hf ht⟩
  · exact hs.closed fs g init hinit

end extension

/-- **Every change keeps the shapes.** -/
theorem step (hstep : Account.Change short exhausted a b) (ha : a.Consistent) (hunique : a.Unique)
    (hs : a.draft.Shaped) : b.draft.Shaped := by
  have hextends := hstep.extends ha
  have hb := ha.step hstep
  cases hstep with
  | begin hc hsignature hv => exact .of_start hextends ha hb rfl rfl hsignature hv hs
  | define hc hd hsignature hv => exact .of_start hextends ha hb rfl rfl hsignature hv hs
  | emit hf ht he =>
      rw [addResult_eq hf]
      -- the function has not returned yet, so nothing is written behind a return
      refine of_body hf hs (fun _ => ?_) fun hterminated => ?_
      · exact List.forall_mem_append.2
          ⟨hs.unfinished _ hf ht, List.forall_mem_singleton.2 he.place⟩
      · rw [ht] at hterminated
        cases hterminated
  | store hf ht =>
      rw [addToBody_eq hf]
      refine of_body hf hs (fun _ => ?_) fun hterminated => ?_
      · exact List.forall_mem_append.2 ⟨hs.unfinished _ hf ht, List.forall_mem_singleton.2 rfl⟩
      · rw [ht] at hterminated
        cases hterminated
  | leave hf ht hvoid hreturn =>
      rw [addReturn_eq hf]
      refine of_body hf hs (fun hterminated => nomatch hterminated) fun _ => ?_
      exact ⟨_, _, rfl, hs.unfinished _ hf ht, returns_of_operands ha hunique hf hvoid hreturn⟩
  | close hf ht => exact hs.of_closeBody hf ht
  | @defineConstant d id ids key =>
      refine .of_same hextends ha hb ?_ ?_ hs <;> cases key <;> rfl
  | note hnote =>
      exact .of_same hextends ha hb (hnote.unseen (·.sections.functions) fun _ => rfl)
        (hnote.unseen (·.current) fun _ => rfl) hs
  | _ => exact .of_same hextends ha hb rfl rfl hs

/-- Before the first call there is no function. -/
theorem empty (settings : ModuleSettings) : (Draft.empty settings).Shaped where
  closed fs f gs hsplit := by cases (List.append_eq_nil_iff.1 hsplit.symm).2
  begun f hf := by cases hf
  unfinished f hf := by cases hf
  returned f hf := by cases hf

/-- **Every run keeps the shapes.** -/
theorem after {settings : ModuleSettings}
    (h : Account.Changes short exhausted ⟨Draft.empty settings, []⟩ b) : b.draft.Shaped := by
  have hboth : b.Unique ∧ b.draft.Shaped := by
    refine h.preserves_of_consistent (P := fun b => b.Unique ∧ b.draft.Shaped) ?_ (.empty settings)
      ⟨.empty settings, empty settings⟩
    rintro b c hb hstep ⟨hunique, hshaped⟩
    exact ⟨hstep.unique hunique, step hstep hb hunique hshaped⟩
  exact hboth.2

end Draft.Shaped

/-! ### One open function at a time -/

namespace Draft

/-- What an operation does to the closed functions. -/
theorem Links.functions {d d' : Draft} {o : Operation} {answer : Except Failure Answer}
    (h : d.Links d' o answer) : d'.sections.functions = d.sections.functions ∨
      ∃ f, d.current = some f ∧ f.terminated = true ∧ o = .endFunction ∧ d'.current = none ∧
        d'.sections.functions = d.sections.functions ++ [f.closed] := by
  cases h with
  | same hsame | declare hsame | define _ _ _ hsame | entryPoint _ _ hsame =>
      obtain ⟨hfunctions, -⟩ := eq_of_linkage hsame
      exact Or.inl hfunctions
  | exhausted hfunctions => exact Or.inl hfunctions
  | close hf ht hc hsame => exact Or.inr ⟨_, hf, ht, rfl, hc, (eq_of_linkage hsame).1⟩

/-- A function that is not closed stays open. -/
theorem Appends.exists_current {P : Instruction → Prop} {d d' : Draft} (h : d.Appends P d')
    (hfunctions : d'.sections.functions = d.sections.functions) {f : OpenFunction}
    (hf : d.current = some f) : ∃ g, d'.current = some g ∧ f.closed.Continued P g.closed := by
  -- what stands at this position is open as long as no function is closed
  have hposition : d.bodies[d.sections.functions.length]? = some f.closed := by
    rw [bodies_of_some hf, List.getElem?_concat_length]
  obtain ⟨g, hg, hfg⟩ := h.bodies _ _ hposition
  cases hcurrent : d'.current with
  | none =>
      rw [bodies_of_none hcurrent, hfunctions, List.getElem?_eq_none_iff.2 (Nat.le_refl _)] at hg
      cases hg
  | some k =>
      rw [bodies_of_some hcurrent, hfunctions, List.getElem?_concat_length] at hg
      obtain rfl := Option.some.inj hg
      exact ⟨k, rfl, hfg⟩

end Draft

namespace Operation

variable (o : Operation) {a : Account}

/-- **An open function stays open until it is closed**, which it can be once it has returned. -/
theorem current_of_open (ha : a.Consistent) {f : OpenFunction} (hf : a.draft.current = some f) :
    (∃ g, (a.draft.step o).current = some g ∧ f.closed.Within g.closed ∧
      (a.draft.step o).sections.functions = a.draft.sections.functions) ∨
    (o = .endFunction ∧ f.terminated = true ∧ (a.draft.step o).current = none ∧
      (a.draft.step o).sections.functions = a.draft.sections.functions ++ [f.closed]) := by
  rcases (o.run_links ha).functions with hfunctions | ⟨g, hg, ht, ho, hc, hfunctions⟩
  · obtain ⟨b, hb, hchanges, -⟩ := Draft.step_changes False o ha False.elim
    rw [← hb] at hfunctions ⊢
    obtain ⟨g, hg, hfg⟩ := hchanges.appends_any.exists_current hfunctions hf
    exact Or.inl ⟨g, hg, hfg.within, hfunctions⟩
  · obtain rfl := Option.some.inj (hf.symm.trans hg)
    exact Or.inr ⟨ho, ht, hc, hfunctions⟩

end Operation

namespace Draft

/-- The draft that a run leads to, with its spare ids. -/
theorem Reachable.exists_account {d : Draft} (h : d.Reachable) :
    ∃ settings, ∃ a : Account, a.draft = d ∧ a.Consistent ∧
      Account.Changes False True ⟨empty settings, []⟩ a := by
  obtain ⟨settings, os, rfl⟩ := h
  obtain ⟨a, ha, hchanges, hconsistent⟩ := run_account False settings os False.elim
  exact ⟨settings, a, ha, hconsistent, hchanges.mono fun _ => trivial⟩

end Draft

end FrameShader
