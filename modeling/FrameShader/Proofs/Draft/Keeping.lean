/-
Keeping: most calls leave the links between functions alone.

What a function may call, which functions are entry points, and whether a module can be finished
depend on three lists: the closed functions, the reserved ids and the entry points.  Only four
operations write to them; the steps that the others are made of do not reach them.

Main definitions:

* `FrameShader.Draft.linkage` — the three lists of a draft;
* `FrameShader.Build.Keeps` — a call that leaves them alone;
* `FrameShader.Draft.Links` — what one operation does to them.

Main results:

* `FrameShader.Operation.run_keeps` — **all but four operations leave them alone**;
* `FrameShader.Operation.run_links` — **what each operation does to them, and what it answers**.
-/

import FrameShader.Proofs.Draft.Preserving

set_option relaxedAutoImplicit false
set_option autoImplicit false

namespace FrameShader

namespace Draft

/-- The part of a draft that says how functions are linked: the closed functions, the reserved ids
and the entry points. -/
def linkage (d : Draft) : Draft :=
  { sections := { functions := d.sections.functions }
    tables := { declared := d.tables.declared, entryPoints := d.tables.entryPoints } }

/-- Drafts with the same linkage have the same closed functions, reserved ids and entry points. -/
theorem eq_of_linkage {d d' : Draft} (h : d'.linkage = d.linkage) :
    d'.sections.functions = d.sections.functions ∧ d'.tables.declared = d.tables.declared ∧
      d'.tables.entryPoints = d.tables.entryPoints :=
  ⟨congrArg (·.sections.functions) h, congrArg (·.tables.declared) h,
    congrArg (·.tables.entryPoints) h⟩

variable (d : Draft)

theorem linkage_addToAnnotations (i : Instruction) :
    (d.addToAnnotations i).linkage = d.linkage :=
  view_eq (d.unannotated_addToAnnotations i) linkage fun _ => rfl

end Draft

/-- The links are out of reach of the steps that calls have in common. -/
instance Draft.steady_linkage : Draft.Steady Draft.linkage where
  addRecord _ _ := rfl
  takeId _ := rfl
  configure _ _ := rfl
  addCapability d c := Draft.view_eq (d.bare_addCapability c) Draft.linkage fun _ => rfl
  addExtension d text := Draft.view_eq (d.bare_addExtension text) Draft.linkage fun _ => rfl
  addSource d language version :=
    Draft.view_eq (d.bare_addSource language version) Draft.linkage fun _ => rfl
  addName d target member i :=
    Draft.view_eq (d.bare_addName target member i) Draft.linkage fun _ => rfl
  addToAnnotations d i _ := d.linkage_addToAnnotations i
  addImport _ _ _ := rfl
  addTypeDefinition _ _ _ _ _ := rfl
  addConstantDefinition d key _ _ _ _ := by cases key <;> rfl
  addGlobalValue _ _ _ _ _ := rfl
  addSlot _ _ _ _ := rfl
  addBuiltIn _ _ _ := rfl
  addToBody _ _ := rfl
  addResult _ _ _ _ _ := rfl
  addReturn _ _ := rfl
  openBody _ _ _ := rfl
  addExecutionMode _ _ _ _ := rfl

namespace Build

/-- The call leaves the links between functions alone. -/
class Keeps {α : Type} (call : Build α) : Prop where
  linkage : ∀ d, (call.runOn d).2.linkage = d.linkage

/-- A call that preserves what linkage shows leaves it alone. -/
instance Keeps.of_preserves {α : Type} {call : Build α} [h : Preserves Draft.linkage call] :
    Keeps call := ⟨h.same⟩

end Build

/-! ### Operations -/

/-- **All but four operations leave the links alone.** -/
theorem Operation.run_keeps (o : Operation) (h : o.isLink = false) : Build.Keeps o.run := by
  have hsame : Build.Preserves Draft.linkage o.run := by
    cases hplaces : o.isPlacement with
    | false => exact o.run_preserves h hplaces
    -- placing a resource is no matter of functions either
    | true =>
        refine o.run_preserves_of fun hf d => ?_
        cases hf with
        | decorate | set | binding => exact d.linkage_addToAnnotations _
        | slot => rfl
        | _ => nomatch hplaces
  infer_instance

/-! ### The four others -/

namespace Build

variable {α β : Type} {L d : Draft}

/-- If the call succeeds, its answer and the draft it leaves behind satisfy `P`.  If it fails, then
it leaves the links as they are in `L`, unless the ids run out: then only the closed functions are
sure to be the same. -/
def Leaves (L : Draft) (call : Build α) (d : Draft) (P : α → Draft → Prop) : Prop :=
  match call.runOn d with
  | (.ok v, d') => P v d'
  | (.error e, d') => d'.linkage = L ∨
      e = .overflow .increment ∧ d'.sections.functions = L.sections.functions

namespace Leaves

variable {P : α → Draft → Prop} {Q : β → Draft → Prop}

theorem reject {cause : BuildError} (hL : d.linkage = L) :
    Leaves L (Build.reject cause) d P := Or.inl hL

/-- Going on after a call that keeps the links. -/
theorem keeps {call : Build α} [hcall : Keeps call] {next : α → Build β} (hL : d.linkage = L)
    (h : ∀ v d', call.runOn d = (.ok v, d') → d'.linkage = L → Leaves L (next v) d' Q) :
    Leaves L (call >>= next) d Q := by
  have hsame := (hcall.linkage d).trans hL
  unfold Leaves
  rw [runOn_bind]
  rcases hrun : call.runOn d with ⟨e | v, d'⟩
  · rw [hrun] at hsame
    exact Or.inl hsame
  · rw [hrun] at hsame
    exact h v d' hrun hsame

/-- Going on with what the draft shows. -/
theorem inspect {view : Draft → Except BuildError α} {next : α → Build β} (hL : d.linkage = L)
    (h : ∀ v, view d = .ok v → Leaves L (next v) d Q) :
    Leaves L (Build.inspect view >>= next) d Q := by
  refine keeps hL fun v d' hrun _ => ?_
  rw [runOn_inspect, Prod.mk.injEq] at hrun
  obtain ⟨hv, rfl⟩ := hrun
  cases hview : view d with
  | error cause =>
      rw [hview] at hv
      cases hv
  | ok w =>
      rw [hview] at hv
      exact h v (hview.trans (congrArg _ (Except.ok.inj hv)))

/-- Going on with the draft. -/
theorem get {next : Draft → Build β} (h : Leaves L (next d) d Q) :
    Leaves L (MonadState.get >>= next) d Q := h

/-- Changing the draft and going on. -/
theorem modify {f : Draft → Draft} {next : PUnit → Build β} (h : Leaves L (next ⟨⟩) (f d) Q) :
    Leaves L ((modify f : Build PUnit) >>= next) d Q := h

/-- A call that fails only if the ids run out. -/
theorem of_exhausts {call : Build α} [hkeeps : Keeps call] (hcall : Exhausts call)
    (hL : d.sections.functions = L.sections.functions)
    (h : ∀ v d', call.runOn d = (.ok v, d') → d'.linkage = d.linkage → P v d') :
    Leaves L call d P := by
  have hsame := hkeeps.linkage d
  unfold Leaves
  rcases hrun : call.runOn d with ⟨e | v, d'⟩
  · rw [hrun] at hsame
    have hfunctions : d'.linkage.sections.functions = d.linkage.sections.functions := by
      rw [hsame]
    exact Or.inr ⟨hcall _ _ _ hrun, hfunctions.trans hL⟩
  · rw [hrun] at hsame
    exact h v d' hrun hsame

end Leaves

theorem declareFunction_leaves (d : Draft) (result : DataType) (parameters : List DataType) :
    Leaves d.linkage (declareFunction result parameters) d fun id d' =>
      ∃ s, d'.linkage = (d.addDeclared id s).linkage := by
  refine .keeps rfl fun s d₁ _ hd₁ => .keeps hd₁ fun id d₂ _ hd₂ => ?_
  refine ⟨s, ?_⟩
  show (d₂.linkage.addDeclared id s).linkage = (d.linkage.addDeclared id s).linkage
  rw [hd₂]

/-- With ids for a function at hand, opening it does not fail. -/
theorem exists_opened (id : Id) (text : String) (s : Signature) (control : FunctionControl)
    (values : List Value) (label : Id) (d : Draft) :
    ∃ d', (modify (·.openBody (.start id s control values label) s) >>= fun _ =>
        announce ⟨id, s.type, s.result, values⟩ text).runOn d =
          (.ok ⟨id, s.type, s.result, values⟩, d') ∧
      d'.current = some (.start id s control values label) := by
  have hdefined :
      (d.openBody (.start id s control values label) s).isDefined id = true := by
    simp [Draft.isDefined, Draft.openBody, OpenFunction.start]
  rw [runOn_bind_of_ok (runOn_modify _ d), announce,
    runOn_bind_of_ok (runOn_name_of_isDefined hdefined text)]
  exact ⟨_, rfl, Draft.view_eq (Draft.bare_addName _ _ _ _) (·.current) fun _ => rfl⟩

theorem enterFunction_exhausts (id : Id) (text : String) (s : Signature)
    (control : FunctionControl) : Exhausts (enterFunction id text s control) := by
  refine .bind (freshBody_exhausts _) ?_
  rintro ⟨values, label⟩ d d' e h
  obtain ⟨d₁, hrun, -⟩ := exists_opened id text s control values label d
  cases hrun.symm.trans h

/-- A function that is entered is the open one. -/
theorem current_of_enterFunction {id : Id} {text : String} {s : Signature}
    {control : FunctionControl} {f : FunctionHandle} {d d' : Draft}
    (h : (enterFunction id text s control).runOn d = (.ok f, d')) :
    ∃ values label, d'.current = some (.start f.id s control values label) := by
  rw [enterFunction, runOn_bind] at h
  rcases hbody : (freshBody s.parameters).runOn d with ⟨e | ⟨values, label⟩, d₁⟩
  · rw [hbody] at h
    cases h
  · rw [hbody] at h
    obtain ⟨d₂, hrun, hcurrent⟩ := exists_opened id text s control values label d₁
    cases hrun.symm.trans h
    exact ⟨values, label, hcurrent⟩

theorem defineFunction_leaves {a : Account} (ha : a.Consistent) (id : Id) (text : String)
    (result : DataType) (parameters : List DataType) (control : FunctionControl) :
    Leaves a.draft.linkage (defineFunction id text result parameters control) a.draft fun f d' =>
      a.draft.current = none ∧ id ∈ a.draft.declaredIds ∧
        (∃ s control values label, d'.current = some (.start f.id s control values label)) ∧
        d'.linkage = (a.draft.removeDeclared id).linkage := by
  refine .inspect rfl fun _ hclosed => .inspect rfl fun declared hview => ?_
  refine .keeps rfl fun s d hrun hd => ?_
  have hdeclared : id ∈ a.draft.declaredIds := by
    split at hview
    · next hlookup => exact List.mem_map.2 ⟨_, mem_of_lookup_eq_some hlookup, rfl⟩
    · cases hview
  obtain ⟨b, rfl, -, hsigns, -⟩ :=
    (signature_does ha result parameters : Does False _ a _).exists_of_ok hrun
  by_cases hsame : declared ≠ s
  -- another signature than the promised one is refused while the id is still reserved
  · simp only [if_pos hsame]
    exact .keeps hd fun _ _ _ hd => .keeps hd fun _ _ _ hd => Or.inl hd
  · simp only [if_neg hsame]
    have hremoved : (b.draft.removeDeclared id).Signs result parameters s :=
      ⟨hsigns.type, hsigns.result, hsigns.parameters⟩
    have hfunctions : b.draft.linkage.sections.functions = a.draft.sections.functions := by
      rw [hd]
      rfl
    -- From here on the id is no longer reserved.  The signature is found again, and what is left can
    -- only fail for want of ids.
    refine .modify ?_
    unfold Leaves
    rw [openFunction, runOn_bind_of_ok (signature_of_signs hremoved)]
    refine Leaves.of_exhausts (enterFunction_exhausts id text s control) hfunctions
      fun f d' hrun hd' => ?_
    obtain ⟨values, label, hcurrent⟩ := current_of_enterFunction hrun
    refine ⟨Draft.noFunctionOpen_ok hclosed, hdeclared, ⟨s, control, values, label, hcurrent⟩,
      hd'.trans ?_⟩
    show (b.draft.linkage.removeDeclared id).linkage = (a.draft.linkage.removeDeclared id).linkage
    rw [hd]

theorem beginEntryPoint_leaves {a : Account} (ha : a.Consistent) (text : String)
    (interface : List Value) :
    Leaves a.draft.linkage (beginEntryPoint text interface) a.draft fun f d' =>
      a.draft.current = none ∧
        (∃ s control values label, d'.current = some (.start f.id s control values label)) ∧
        d'.linkage = (a.draft.addEntryPoint text f.id interface).linkage := by
  refine .inspect rfl fun _ _ => .keeps rfl fun f d hrun hd => ?_
  obtain ⟨b, rfl, -, -, -, hopens⟩ :=
    (beginFunction_does ha _ _ _ _ : Does False _ a _).exists_of_ok hrun
  obtain ⟨s, control, label, hcurrent⟩ := hopens.current
  refine ⟨hopens.closed, ⟨s, control, f.parameters, label, hcurrent⟩, ?_⟩
  show (b.draft.linkage.addEntryPoint text f.id interface).linkage =
    (a.draft.linkage.addEntryPoint text f.id interface).linkage
  rw [hd]

theorem endFunction_leaves (d : Draft) :
    Leaves d.linkage endFunction d fun _ d' => ∃ f, d.current = some f ∧ f.terminated = true ∧
      d'.current = none ∧ d'.linkage = (d.closeBody f).linkage := by
  unfold endFunction
  refine .get ?_
  cases hcurrent : d.current with
  | none => exact .reject rfl
  | some f =>
      by_cases hterminated : f.terminated = true
      · simp only [hterminated]
        exact ⟨f, rfl, hterminated, rfl, rfl⟩
      · simp only [hterminated]
        exact .reject rfl

end Build

/-- What an operation with this answer does to the links between functions. -/
inductive Draft.Links (d d' : Draft) : Operation → Except Failure Answer → Prop
  /-- It leaves them alone. -/
  | same {o : Operation} {answer : Except Failure Answer} (h : d'.linkage = d.linkage)
      (hfails : o.isLink = true → ∃ e, answer = .error e) : Links d d' o answer
  | exhausted {o : Operation} (h : d'.sections.functions = d.sections.functions) :
      Links d d' o (.error (.overflow .increment))
  | declare {result : DataType} {parameters : List DataType} {id : Id} {s : Signature}
      (h : d'.linkage = (d.addDeclared id s).linkage) :
      Links d d' (.declareFunction result parameters) (.ok (.id id))
  | define {id : Id} {text : String} {result : DataType} {parameters : List DataType}
      {control : FunctionControl} {f : FunctionHandle} (hc : d.current = none)
      (hd : id ∈ d.declaredIds)
      (hopen : ∃ s control values label, d'.current = some (.start f.id s control values label))
      (h : d'.linkage = (d.removeDeclared id).linkage) :
      Links d d' (.defineFunction id text result parameters control) (.ok (.function f))
  | entryPoint {text : String} {interface : List Value} {f : FunctionHandle}
      (hc : d.current = none)
      (hopen : ∃ s control values label, d'.current = some (.start f.id s control values label))
      (h : d'.linkage = (d.addEntryPoint text f.id interface).linkage) :
      Links d d' (.beginEntryPoint text interface) (.ok (.function f))
  | close {f : OpenFunction} (hf : d.current = some f) (ht : f.terminated = true)
      (hc : d'.current = none) (h : d'.linkage = (d.closeBody f).linkage) :
      Links d d' .endFunction (.ok .done)

/-- From what a call leaves behind to what an operation does. -/
theorem Build.Leaves.links {α : Type} {call : Build α} {d : Draft} {P : α → Draft → Prop}
    {o : Operation} {f : α → Answer} (h : Leaves d.linkage call d P) (ho : o.run = f <$> call)
    (hok : ∀ v d', P v d' → d.Links d' o (.ok (f v))) :
    d.Links (d.step o) o (o.run.runOn d).1 := by
  unfold Leaves at h
  unfold Draft.step
  rw [ho, runOn_map]
  generalize call.runOn d = r at h ⊢
  rcases r with ⟨e | v, d'⟩
  · rcases h with h | ⟨rfl, h⟩
    · exact .same h fun _ => ⟨e, rfl⟩
    · exact .exhausted h
  · exact hok v d' h

/-- **What each operation does to the links between functions, and what it answers.** -/
theorem Operation.run_links (o : Operation) {a : Account} (ha : a.Consistent) :
    a.draft.Links (a.draft.step o) o (o.run.runOn a.draft).1 := by
  cases o with
  | declareFunction result parameters =>
      refine (Build.declareFunction_leaves a.draft result parameters).links rfl ?_
      rintro id d' ⟨s, h⟩
      exact .declare h
  | defineFunction id text result parameters control =>
      refine (Build.defineFunction_leaves ha id text result parameters control).links rfl ?_
      rintro f d' ⟨hc, hd, hopen, h⟩
      exact .define hc hd hopen h
  | beginEntryPoint text interface =>
      refine (Build.beginEntryPoint_leaves ha text interface).links rfl ?_
      rintro f d' ⟨hc, hopen, h⟩
      exact .entryPoint hc hopen h
  | endFunction =>
      refine (Build.endFunction_leaves a.draft).links rfl ?_
      rintro _ d' ⟨f, hf, ht, hc, h⟩
      exact .close hf ht hc h
  | _ => exact .same ((Operation.run_keeps _ rfl).linkage a.draft) fun h => nomatch h

end FrameShader
