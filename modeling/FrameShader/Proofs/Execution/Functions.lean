/-
Functions: from the first instruction to the last.

A function that is begun ends up among the functions of the finished draft.  While it is open, its
parameters stand for the arguments of a call; once it is closed, its body is complete, and calling it
does what its instructions do.

Main definitions:

* `FrameShader.Account.Complete` — a finished draft;
* `FrameShader.Account.Becomes` — what a function that was begun becomes.

Main results:

* `FrameShader.Build.beginFunction_ensures` — a function that is begun becomes a function of the
  finished draft;
* `FrameShader.Activation.open_of_begun`, `FrameShader.Activation.meansAll_parameters` — before its
  first instruction;
* `FrameShader.Activation.returnFunction_ensures`, `FrameShader.Activation.endFunction_ensures` —
  returning and closing;
* `FrameShader.Build.beginEntryPoint_ensures` — entry points.
-/

import FrameShader.Proofs.Execution.Operations

set_option relaxedAutoImplicit false
set_option autoImplicit false

namespace FrameShader

/-- A draft in order in which no function is open. -/
structure Account.Complete (c : Account) : Prop where
  orderly : c.Orderly
  closed : c.draft.current = none

/-- The function `F` of the draft has the id and the parameters of `f`. -/
structure Account.Becomes (c : Account) (f : FunctionHandle) (F : Function) : Prop where
  isClosed : F ∈ c.draft.sections.functions
  id : F.definition.result = some f.id
  parameters : resultsOf F.parameters = f.parameters.map Value.id
  length : F.parameters.length = f.parameters.length

/-- No function is open. -/
def Draft.Closed (d : Draft) : Prop := d.current = none

/-- The function with this id is open and has no instructions yet. -/
def Draft.Begun (id : Id) (d : Draft) : Prop :=
  ∃ f, d.current = some f ∧ f.definition.result = some id ∧ f.body = []

namespace Build

instance Regular.localSize (id : Id) (x y z : Word) : Regular (Build.localSize id x y z) :=
  ⟨fun _ ha => .of_operation (.localSize id x y z) rfl ha⟩

variable {c : Account}

/-- **A function that is begun becomes a function of the finished draft.** -/
theorem beginFunction_ensures (hc : c.Complete) (text : String) (result : DataType)
    (parameters : List DataType) (control : FunctionControl) :
    Ensures c.draft Draft.Closed (beginFunction text result parameters control)
      (fun f => f.parameters.length = parameters.length ∧ ∃ F, c.Becomes f F)
      fun f => Draft.Begun f.id := by
  refine .of_does (fun a ha => beginFunction_does ha text result parameters control) ?_
  rintro a b f - - hreach ⟨-, hlength, hopens⟩ -
  obtain ⟨s, control, label, hcurrent⟩ := hopens.current
  refine ⟨⟨hlength, ?_⟩, _, hcurrent, rfl, rfl⟩
  have hmem : (OpenFunction.start f.id s control f.parameters label).closed ∈ b.draft.bodies := by
    rw [Draft.bodies_of_some hcurrent]
    exact List.mem_append_right _ List.mem_cons_self
  obtain ⟨F, hF, hwithin⟩ := hreach.definitions.bodies _ hmem
  rw [Draft.bodies_of_none hc.closed] at hF
  refine ⟨F, hF, ?_, ?_, ?_⟩
  · rw [hwithin.definition]
    rfl
  · rw [hwithin.parameters]
    show resultsOf (f.parameters.map fun v => .typed .functionParameter v.type v.id []) = _
    simp [resultsOf, List.filterMap_map, Instruction.typed]
  · rw [hwithin.parameters]
    exact List.length_map _

end Build

namespace Activation

open Build

variable {A : Activation}

/-! ### Before the first instruction -/

/-- A function that is begun has no instructions that do not fit. -/
theorem open_of_begun {id : Id} {d : Draft} (hid : A.function.definition.result = some id)
    (h : d.Begun id) : A.Open [] d := by
  obtain ⟨f, hf, hdefinition, hbody⟩ := h
  refine ⟨f, hf, hdefinition.trans hid.symm, ?_⟩
  rw [hbody]
  exact .nil

/-- **The parameters stand for the arguments.** -/
theorem meansAll_parameters {f : FunctionHandle} (h : A.account.Becomes f A.function)
    (hlength : f.parameters.length = A.args.length) : A.MeansAll f.parameters A.args := by
  have hnodup := (List.nodup_append.1 (List.nodup_append.1 A.nodup).2.1).1
  have hlength' : (resultsOf A.function.parameters).length = A.args.length := by
    rw [h.parameters, List.length_map, hlength]
  have hkeys : ((resultsOf A.function.parameters).zip A.args).map Prod.fst =
      resultsOf A.function.parameters := List.map_fst_zip hlength'.le
  rw [← hkeys] at hnodup
  have hmeans : List.Forall₂ A.Means (resultsOf A.function.parameters) A.args :=
    List.forall₂_iff_zip.2 ⟨hlength', fun hmem => .parameter (lookup_eq_some_of_mem hnodup hmem)⟩
  rw [h.parameters] at hmeans
  exact List.forall₂_map_left_iff.1 hmeans

/-! ### Returning and closing -/

/-- The function is open in the draft and has returned; it fits, writes this and answers that. -/
def Returned (A : Activation) (writes : List Write) (answer : Option Meaning) (d : Draft) : Prop :=
  ∃ f, d.current = some f ∧ f.definition.result = A.function.definition.result ∧
    A.Performs f.body writes (some answer)

theorem returnFunction_ensures {value : Option Value} {answer : Option Meaning} {writes : List Write}
    (h : Option.Rel (fun v x => A.Means v.id x) value answer) :
    Ensures A.account.draft (A.Open writes) (returnFunction value) (fun _ => True)
      fun _ => A.Returned writes answer := by
  refine .inspect fun seen => Gives.quietly (R := fun _ _ => True) ?_ fun void => ?_
  · exact fun a ha => (typeId_does .void ha).mono fun _ b _ hb => ⟨hb.2.grows.current, trivial⟩
  · rintro a ⟨⟩ d ha hrun hreach ⟨⟨f, hf, hdefinition, hperforms⟩, -⟩
    obtain ⟨operands, hoperands, hrun⟩ := exists_of_inspect hrun
    cases hrun
    refine ⟨trivial, _, congrArg Draft.current (Draft.addReturn_eq hf _), hdefinition, ?_⟩
    rcases Draft.returnOperands_ok hoperands with ⟨v, t, rfl, -, -, -, rfl⟩ | ⟨rfl, -, rfl⟩
    · cases h with
      | some hv => exact hperforms.answer rfl (.cons hv .nil) rfl
    · cases h
      exact hperforms.answer rfl .nil rfl

/-- **A function that is closed is complete.** -/
theorem endFunction_ensures {writes : List Write} {answer : Option Meaning} :
    Ensures A.account.draft (A.Returned writes answer) endFunction
      (fun _ => A.Performs A.function.body writes (some answer)) fun _ => Draft.Closed := by
  rintro a ⟨⟩ d ha hrun hreach ⟨f, hf, hdefinition, hperforms⟩
  rw [endFunction, runOn_bind_of_ok (runOn_get a.draft), hf] at hrun
  cases hterminated : f.terminated with
  | false =>
      simp only [hterminated] at hrun
      cases hrun
  | true =>
      simp only [hterminated] at hrun
      cases hrun
      refine ⟨?_, rfl⟩
      obtain ⟨control, type', hkept⟩ := (ha.consistent.current f hf).definition
      have hid : f.definition.result = some f.id := by
        rw [hkept]
        rfl
      have hclosed : f.closed ∈ A.account.draft.bodies :=
        List.mem_append_left _ (hreach.program.functions.subset
          (List.mem_append_right _ List.mem_cons_self))
      have hsame := A.orderly.consistent.eq_of_function hclosed (List.mem_append_left _ A.isClosed)
        hid (hdefinition.symm.trans hid)
      rw [← hsame]
      exact hperforms

end Activation

/-! ### Entry points -/

namespace Build

/-- **An entry point that is begun is found by its name.** -/
theorem beginEntryPoint_ensures {c : Account} (hc : c.Complete) (text : String)
    (interface : List Value) :
    Ensures c.draft Draft.Closed (beginEntryPoint text interface)
      (fun f => f.parameters = [] ∧ (∃ F, c.Becomes f F) ∧
        c.draft.program.entryPoints.findSome? (·.entryFunction? text) = some f.id)
      fun f => Draft.Begun f.id := by
  intro a f d ha hrun hreach hclosed
  obtain ⟨⟨⟩, hlook, hrun⟩ := exists_of_inspect hrun
  cases hnew : a.draft.tables.entryPoints.lookup text with
  | some other =>
      simp only [hnew] at hlook
      cases hlook
  | none =>
      obtain ⟨g, d', hbegin, hrun⟩ := exists_of_bind hrun
      cases hrun
      obtain ⟨b, rfl, hb, -, -, -, hopens⟩ :=
        (beginFunction_does ha.consistent text .void [] .none).of_ok ha hbegin
      obtain ⟨himports, hentryPoints, hannotations, hglobals, hfunctions⟩ := hreach.program
      have hreach' : b.draft.Reaches c.draft :=
        ⟨⟨hreach.definitions.types, hreach.definitions.dataTypes, hreach.definitions.imports,
          hreach.definitions.globals, hreach.definitions.bodies⟩,
          himports, (List.prefix_append _ _).trans hentryPoints, hannotations, hglobals, hfunctions⟩
      obtain ⟨⟨hlength, hbecomes⟩, hbegun⟩ :=
        beginFunction_ensures hc text .void [] .none a f b.draft ha hbegin hreach' hclosed
      refine ⟨⟨List.eq_nil_of_length_eq_zero hlength, hbecomes, ?_⟩, hbegun⟩
      refine findSome?_of_isPrefix hentryPoints ?_
      -- No entry point before this one has its name.
      have hnone : b.draft.sections.entryPoints.findSome? (·.entryFunction? text) = none := by
        refine List.findSome?_eq_none_iff.2 fun i hi => ?_
        by_contra hsome
        have hknown := hb.entryPoints i hi text (Option.isSome_iff_ne_none.2 hsome)
        rw [hopens.entryPoints, hnew] at hknown
        cases hknown
      show (b.draft.sections.entryPoints ++ [_]).findSome? _ = _
      rw [List.findSome?_append, hnone]
      simp [Instruction.entryFunction?, Instruction.plain]

end Build

end FrameShader
