/-
Linking: the calls of a finished module fit the functions they call.

A function may be called before it is defined if its id was reserved.  The call is checked against
the signature that was promised then.  Later the id moves from the reserved functions to the written
ones and keeps its signature, so what was checked holds of the function in the module as well.  An
entry point has a new id, which nothing has called so far, and calling it fails from then on.

What a run has reserved and defined is counted along the run.  An id is reserved once, it is defined
once at most, and it stays in the table of reserved ids until it is.  So finishing succeeds just if
every reserved id has been defined and no function is open.

Main definitions:

* `FrameShader.ShaderModule.Linked` — a call that fits a function of the module;
* `FrameShader.Draft.transcript` — the calls of a run with their answers;
* `FrameShader.Draft.CallFits` — a call that fits the signature of a known function;
* `FrameShader.Draft.Ledger` — what was reserved and defined agrees with the reserved ids.

Main results:

* `FrameShader.Account.Changes.fitting` — **what is written and calls a function fits its
  signature**;
* `FrameShader.Draft.Ledger.step`, `FrameShader.Draft.uncalled_step` — what one call does to the
  reserved ids and to the entry points;
* `FrameShader.Draft.finished_linked` — **the calls of a finished module are linked, and finishing
  succeeds just if nothing is left open**.
-/

import FrameShader.Proofs.Draft.Layout
import FrameShader.Proofs.Draft.References

set_option relaxedAutoImplicit false
set_option autoImplicit false

namespace FrameShader

/-! ### Calls in modules -/

/-- The function of an entry point. -/
def Instruction.entry? (i : Instruction) : Option Id :=
  match i.opcode, i.operands with
  | .entryPoint, _ :: .id function :: _ => some function
  | _, _ => none

/-- The type of a value, as the instruction of the module says that defines it. -/
def ShaderModule.valueTypeOf? (m : ShaderModule) (id : Id) : Option Id :=
  (definitionIn? m.instructions id).bind (·.valueType?)

/-- The instruction calls a function of the module that is not the function of an entry point.  It
has the type of what the function returns, and its arguments have the types of the parameters, one
by one. -/
def ShaderModule.Linked (m : ShaderModule) (i : Instruction) : Prop :=
  ∃ callee args, i.operands = .id callee :: args.map .id ∧
    (∀ e ∈ m.instructions, e.entry? ≠ some callee) ∧
    ∃ g ∈ m.functions, g.definition.opcode = .function ∧ g.definition.result = some callee ∧
      (∃ type, i.resultType = some type ∧ g.definition.resultType = some type) ∧
      List.Forall₂ (fun arg p => ∃ type, m.valueTypeOf? arg = some type ∧ p.resultType = some type)
        args g.parameters

theorem Instruction.opcode_of_entry? {i : Instruction} {id : Id} (h : i.entry? = some id) :
    i.opcode = .entryPoint := by
  unfold entry? at h
  split at h
  · assumption
  · cases h

theorem Instruction.opcode_of_callee? {i : Instruction} {id : Id} (h : i.callee? = some id) :
    i.opcode = .functionCall := by
  unfold callee? at h
  split at h
  · assumption
  · cases h

/-- What holds of the types of parameters, one by one, holds of the parameters. -/
theorem forall₂_parameters {R : Id → Id → Prop} {args : List Id} {ps : List Instruction}
    (hps : ∀ p ∈ ps, ∃ type, p.resultType = some type)
    (h : List.Forall₂ R args (ps.filterMap Instruction.resultType)) :
    List.Forall₂ (fun arg p => ∃ type, R arg type ∧ p.resultType = some type) args ps := by
  induction ps generalizing args with
  | nil =>
      cases h
      exact .nil
  | cons p ps ih =>
      obtain ⟨⟨type, htype⟩, hrest⟩ := List.forall_mem_cons.1 hps
      rw [List.filterMap_cons_some htype] at h
      cases h with
      | cons hR hargs => exact .cons ⟨type, hR, htype⟩ (ih hrest hargs)

namespace Draft

/-! ### Calls in drafts -/

/-- The function with this id is known under this signature, be it written or reserved. -/
def Promises (d : Draft) (id : Id) (s : Signature) : Prop :=
  (id, s) ∈ d.tables.functions ++ d.tables.declared

/-- The instruction calls a function that is known, and fits its signature. -/
def CallFits (d : Draft) (i : Instruction) : Prop :=
  ∃ callee args s, i.operands = .id callee :: args.map .id ∧ i.resultType = some s.result ∧
    d.Promises callee s ∧ List.Forall₂ (fun arg p => d.valueTypeOf? arg = some p) args s.parameters

/-- The calls that are written fit, and the functions of entry points are in the table. -/
structure Fitting (d : Draft) : Prop where
  calls : ∀ i ∈ d.definitions, i.opcode = .functionCall → d.CallFits i
  entries : ∀ i ∈ d.sections.entryPoints, ∀ id ∈ i.entry?, d.isEntryPoint id = true

variable {d d' : Draft} {i : Instruction} {id : Id}

/-- **What is written and calls a function has been checked against it.** -/
theorem Definition.call {short : Prop} (h : d.Definition short i)
    (hi : i.opcode = .functionCall) :
    ∃ (function : Id) (args : List Value) (s : Signature) (id : Id),
      i = .typed .functionCall s.result id (.id function :: args.map fun v => .id v.id) ∧
        d.callable function = .ok s ∧
        List.Forall₂ (fun v p => v.type = p ∧ ∃ t, d.Sees v t) args s.parameters := by
  cases h with
  | importSet | global | store => cases hi
  | type ht => cases ht <;> cases hi
  | constant hk =>
      cases hk with
      | @bool value => cases value <;> cases hi
      | scalar | composite => cases hi
  | start _ _ hmem =>
      rcases OpenFunction.mem_start.1 hmem with rfl | ⟨v, -, rfl⟩ | rfl | rfl <;> cases hi
  | emit he id =>
      cases he with
      | arithmetic ho =>
          obtain rfl := hi
          simp [isArithmetic] at ho
      | functionCall hs hargs => exact ⟨_, _, _, id, rfl, hs, hargs⟩
      | _ => cases hi
  | @leave value => cases value <;> cases hi

theorem Definition.callFits {short : Prop} {ids : List Id} (h : d.Definition short i)
    (hd : Account.Consistent ⟨d, ids⟩) (hi : i.opcode = .functionCall) : d.CallFits i := by
  obtain ⟨function, args, s, id, rfl, hs, hargs⟩ := h.call hi
  refine ⟨function, args.map Value.id, s, ?_, rfl, (callable_ok hs).2, ?_⟩
  · rw [List.map_map]
    rfl
  · refine List.forall₂_map_left_iff.2 (hargs.imp fun v p hv => ?_)
    obtain ⟨rfl, t, ht⟩ := hv
    exact (ht.reads hd).value

end Draft

/-! ### Every change keeps calls fitting -/

namespace Account

variable {short exhausted : Prop} {a b : Account}

/-- **While there are ids, a promise is kept**: what is reserved is written with its signature. -/
theorem Change.promises (h : Change short False a b) (ha : a.Consistent) {id : Id} {s : Signature}
    (hs : a.draft.Promises id s) : b.draft.Promises id s := by
  cases h with
  | forget he => exact he.elim
  | declare =>
      rcases List.mem_append.1 hs with hs | hs
      · exact List.mem_append_left _ hs
      · exact List.mem_append_right _ (List.mem_cons_of_mem _ hs)
  | begin =>
      rcases List.mem_append.1 hs with hs | hs
      · exact List.mem_append_left _ (List.mem_cons_of_mem _ hs)
      · exact List.mem_append_right _ hs
  | @define d target label ids s' values control hc hd =>
      rcases List.mem_append.1 hs with hs | hs
      · exact List.mem_append_left _ (List.mem_cons_of_mem _ hs)
      -- the id is reserved once, so the signature that was looked up is the promised one
      by_cases heq : id = target
      · subst heq
        have hnodup : (d.tables.declared.map Prod.fst).Nodup :=
          (List.nodup_append.1 (List.nodup_append.1 ha.nodup).2.1).1
        obtain rfl := Option.some.inj (hd.symm.trans (lookup_eq_some_of_mem hnodup hs))
        exact List.mem_append_left _ List.mem_cons_self
      · refine List.mem_append_right _ (List.mem_filter.2 ⟨hs, ?_⟩)
        simpa using heq
  | note hnote => exact (hnote.unseen (·.Promises id s) fun _ => rfl).mpr hs
  | @defineConstant d target ids key => cases key <;> exact hs
  | _ => exact hs

/-- A call that fits goes on to fit. -/
theorem Change.callFits (h : Change short False a b) (ha : a.Consistent) {i : Instruction}
    (hi : a.draft.CallFits i) : b.draft.CallFits i := by
  obtain ⟨callee, args, s, hoperands, htype, hs, hargs⟩ := hi
  refine ⟨callee, args, s, hoperands, htype, h.promises ha hs, hargs.imp fun arg p harg => ?_⟩
  obtain ⟨j, hj, hvalue⟩ := (Draft.valueTypeOf?_eq_some ha.nodup_definedIds).1 harg
  exact (Draft.valueTypeOf?_eq_some (ha.step h).nodup_definedIds).2
    ⟨j, (h.extends ha).definitions hj, hvalue⟩

/-- Entry points stay what they are. -/
theorem Change.isEntryPoint (h : Change short exhausted a b) {id : Id}
    (hid : a.draft.isEntryPoint id = true) : b.draft.isEntryPoint id = true := by
  cases h with
  | note hnote =>
      rcases hnote.entryPoints with ⟨hsame, -⟩ | ⟨text, f, interface, -, rfl⟩
      · unfold Draft.isEntryPoint at hid ⊢
        rw [hsame]
        exact hid
      · simp only [Draft.isEntryPoint, Draft.addEntryPoint, List.any_cons, Bool.or_eq_true]
        exact Or.inr hid
  | @defineConstant d target ids key => cases key <;> exact hid
  | _ => exact hid

/-- The function of an entry point that is written is in the table. -/
theorem Change.entries (h : Change short exhausted a b)
    (ha : ∀ i ∈ a.draft.sections.entryPoints, ∀ id ∈ i.entry?, a.draft.isEntryPoint id = true) :
    ∀ i ∈ b.draft.sections.entryPoints, ∀ id ∈ i.entry?, b.draft.isEntryPoint id = true := by
  have hkept : ∀ i ∈ a.draft.sections.entryPoints, ∀ id ∈ i.entry?,
      b.draft.isEntryPoint id = true := fun i hi id hid => h.isEntryPoint (ha i hi id hid)
  cases h with
  | note hnote =>
      rcases hnote.entryPoints with ⟨-, hsame⟩ | ⟨text, f, interface, -, rfl⟩
      · rw [hsame]
        exact hkept
      · refine List.forall_mem_append.2 ⟨hkept, List.forall_mem_singleton.2 ?_⟩
        rintro id ⟨⟩
        simp [Draft.isEntryPoint, Draft.addEntryPoint]
  | @defineConstant d target ids key => cases key <;> exact hkept
  | _ => exact hkept

/-- **While there are ids, what is written and calls a function fits its signature.** -/
theorem Changes.fitting {settings : ModuleSettings}
    (h : Changes short False ⟨Draft.empty settings, []⟩ b) : b.draft.Fitting := by
  have hempty : (Draft.empty settings).Fitting :=
    ⟨fun _ hi => absurd hi List.not_mem_nil, fun _ hi => absurd hi List.not_mem_nil⟩
  refine h.preserves_of_consistent (P := fun b => b.draft.Fitting) ?_ (.empty settings) hempty
  intro b c hb hstep hfitting
  refine ⟨fun i hi hcall => hstep.callFits hb ?_, hstep.entries hfitting.entries⟩
  rcases hstep.definitions hi with hi | hi
  · exact hfitting.calls i hi hcall
  · exact hi.callFits hb hcall

/-- While there are ids, what may be called may be called later. -/
theorem Changes.callees (h : Changes short False a b) (ha : a.Consistent) :
    a.draft.callees ⊆ b.draft.callees := by
  refine h.preserves_of_consistent (P := fun b => a.draft.callees ⊆ b.draft.callees) ?_ ha
    (List.Subset.refl _)
  intro b c hb hstep hcallees
  exact List.Subset.trans hcallees (hstep.callees hb)

/-- What is written calls no entry point of before. -/
theorem Changes.uncalled (h : Changes short exhausted a b)
    (ha : ∀ i ∈ a.draft.definitions, ∀ id ∈ i.callee?, a.draft.isEntryPoint id = false) :
    ∀ i ∈ b.draft.definitions, ∀ id ∈ i.callee?, a.draft.isEntryPoint id = false := by
  have hboth : (∀ id, a.draft.isEntryPoint id = true → b.draft.isEntryPoint id = true) ∧
      ∀ i ∈ b.draft.definitions, ∀ id ∈ i.callee?, a.draft.isEntryPoint id = false := by
    refine h.preserves (P := fun b =>
      (∀ id, a.draft.isEntryPoint id = true → b.draft.isEntryPoint id = true) ∧
        ∀ i ∈ b.draft.definitions, ∀ id ∈ i.callee?, a.draft.isEntryPoint id = false) ?_
      ⟨fun _ => id, ha⟩
    rintro b c hstep ⟨hkept, hb⟩
    refine ⟨fun id hid => hstep.isEntryPoint (hkept id hid), fun i hi id hid => ?_⟩
    rcases hstep.definitions hi with hi | hi
    · exact hb i hi id hid
    obtain ⟨function, args, s, target, rfl, hs, -⟩ := hi.call (Instruction.opcode_of_callee? hid)
    obtain rfl := Option.some.inj hid
    have hfree := (Draft.callable_ok hs).1
    refine Bool.eq_false_iff.2 fun hentry => ?_
    rw [hkept function hentry] at hfree
    cases hfree
  exact hboth.2

end Account

namespace Draft

/-! ### Entry points are not called -/

/-- What is written calls no entry point. -/
def Uncalled (d : Draft) : Prop :=
  ∀ i ∈ d.definitions, ∀ id ∈ i.callee?, d.isEntryPoint id = false

variable {d d' : Draft} {id : Id}

/-- The id of a function that is opened behind the others has not been called. -/
theorem not_mem_callees {ids : List Id} (h : Account.Consistent ⟨d', ids⟩) {g : Function}
    (hbodies : d'.bodies = d.bodies ++ [g]) (hg : g.definition.result = some id)
    (hdeclared : d'.declaredIds = d.declaredIds) : id ∉ d.callees := by
  have hown : id ∈ resultsOf g.instructions :=
    mem_resultsOf.2 ⟨g.definition, List.mem_cons_self, hg⟩
  have hmem : g ∈ d'.bodies := by
    rw [hbodies]
    exact List.mem_append_right _ List.mem_cons_self
  intro hid
  rcases List.mem_append.1 hid with hid | hid
  · have hnodup := h.nodup_definedIds
    rw [definedIds_eq, hbodies, List.flatMap_append, List.flatMap_singleton] at hnodup
    obtain ⟨i, hi, hresult⟩ := mem_resultsOf.1 hid
    obtain ⟨f, hf, rfl⟩ := List.mem_map.1 hi
    have hother : id ∈ d.bodies.flatMap fun f => resultsOf f.instructions :=
      List.mem_flatMap.2 ⟨f, hf, mem_resultsOf.2 ⟨f.definition, List.mem_cons_self, hresult⟩⟩
    exact (List.nodup_append.1 (List.nodup_append.1 hnodup).2.1).2.2 id hother id hown rfl
  · have hdefined : id ∈ d'.definedIds := mem_definedIds_of_bodies hmem List.mem_cons_self hg
    rw [← hdeclared] at hid
    exact (List.nodup_append.1 h.nodup).2.2 id hdefined id (List.mem_append_left _ hid) rfl

/-- The called function of a call that fits is known. -/
theorem CallFits.mem_callees {ids : List Id} (h : Account.Consistent ⟨d, ids⟩) {i : Instruction}
    (hi : d.CallFits i) (hid : id ∈ i.callee?) : id ∈ d.callees := by
  obtain ⟨callee, args, s, hoperands, -, hs, -⟩ := hi
  unfold Instruction.callee? at hid
  rw [hoperands] at hid
  split at hid
  · next heq =>
      obtain ⟨heq, -⟩ := List.cons.inj heq
      obtain rfl := Operand.id.inj heq
      obtain rfl := Option.some.inj hid
      exact h.mem_callees_of_mem hs
  · cases hid

section steps

variable {settings : ModuleSettings} {a b : Account} {o : Operation}

/-- Calls stand in functions. -/
theorem exists_body_of_call (h : Account.Changes False False ⟨empty settings, []⟩ a)
    {i : Instruction} (hi : i ∈ a.draft.definitions) (hcall : i.opcode = .functionCall) :
    ∃ g ∈ a.draft.bodies, i ∈ g.instructions := by
  rcases mem_definitions.1 hi with hi | hi | hi
  · have hplace := h.place_of_part (k := .imports) hi
    rw [hcall] at hplace
    cases hplace
  · have hplace := h.place_of_part (k := .globals) hi
    rw [hcall] at hplace
    cases hplace
  · exact hi

/-- **A call leads to no call of an entry point.**  If the call begins an entry point, then no other
function has been opened by it, and nothing has called the new one. -/
theorem Uncalled.step (h : a.draft.Uncalled)
    (ha : Account.Changes False False ⟨empty settings, []⟩ a) (hb : b.draft = a.draft.step o)
    (hstep : Account.Changes False False a b)
    (hids : (o.run.runOn a.draft).1 ≠ .error (.overflow .increment)) : b.draft.Uncalled := by
  have hconsistent : a.Consistent := (Account.Consistent.empty settings).after ha
  have hlinks := o.run_links hconsistent
  have hbefore := hstep.uncalled h
  rw [← hb] at hlinks
  -- without a new entry point, what is written calls none of the old ones
  have hsame (hentryPoints : b.draft.tables.entryPoints = a.draft.tables.entryPoints) :
      b.draft.Uncalled := by
    intro i hi id hid
    unfold isEntryPoint
    rw [hentryPoints]
    exact hbefore i hi id hid
  generalize (o.run.runOn a.draft).1 = answer at hlinks hids
  cases hlinks with
  | same hlinkage | declare hlinkage | define _ _ _ hlinkage | close _ _ _ hlinkage =>
      exact hsame (eq_of_linkage hlinkage).2.2
  | exhausted => exact absurd rfl hids
  | @entryPoint text interface f hc hopen hlinkage =>
      obtain ⟨s, control, values, label, hcurrent⟩ := hopen
      obtain ⟨hfunctions, hdeclared, hentryPoints⟩ :
          b.draft.sections.functions = a.draft.sections.functions ∧
            b.draft.tables.declared = a.draft.tables.declared ∧
            b.draft.tables.entryPoints = (text, f.id) :: a.draft.tables.entryPoints :=
        eq_of_linkage hlinkage
      have hbodies : b.draft.bodies = a.draft.bodies ++
          [(OpenFunction.start f.id s control values label).closed] := by
        rw [bodies_of_some hcurrent, hfunctions, bodies_of_none hc]
      have hnew : f.id ∉ a.draft.callees :=
        not_mem_callees (hconsistent.after hstep) hbodies rfl (congrArg (·.map Prod.fst) hdeclared)
      intro i hi id hid
      have hcall := Instruction.opcode_of_callee? hid
      -- a call stands in a function, and the new one has none
      have hold : i ∈ a.draft.definitions := by
        obtain ⟨g, hg, hi⟩ := exists_body_of_call (ha.trans hstep) hi hcall
        rw [hbodies, List.mem_append, List.mem_singleton] at hg
        rcases hg with hg | rfl
        · exact mem_definitions.2 (Or.inr (Or.inr ⟨g, hg, hi⟩))
        · rcases OpenFunction.mem_start.1 hi with rfl | ⟨v, -, rfl⟩ | rfl | rfl <;> cases hcall
      have hknown := (ha.fitting.calls i hold hcall).mem_callees hconsistent hid
      have hne : f.id ≠ id := fun heq => hnew (heq ▸ hknown)
      have hentry : b.draft.isEntryPoint id = (f.id == id || a.draft.isEntryPoint id) := by
        rw [isEntryPoint, hentryPoints, List.any_cons]
        rfl
      rw [hentry, hbefore i hi id hid, Bool.or_false]
      exact beq_eq_false_iff_ne.2 hne

end steps

end Draft

/-! ### What a run reserves and defines -/

namespace Draft

/-- The calls of a run, each with its answer. -/
def transcript (d : Draft) : List Operation → List (Operation × Except Failure Answer)
  | [] => []
  | o :: os => (o, (o.run.runOn d).1) :: (d.step o).transcript os

/-- What a run leads to comes from its first call, and then from the others. -/
theorem filterMap_transcript_cons {α : Type} (f : Operation × Except Failure Answer → Option α)
    (d : Draft) (o : Operation) (os : List Operation) : (d.transcript (o :: os)).filterMap f =
      (f (o, (o.run.runOn d).1)).toList ++ ((d.step o).transcript os).filterMap f := by
  rw [transcript, List.filterMap_cons]
  cases f (o, (o.run.runOn d).1) <;> rfl

/-- The calls of a run answer as they do where they stand. -/
theorem mem_transcript {d : Draft} {os : List Operation}
    {call : Operation × Except Failure Answer} : call ∈ d.transcript os ↔
      ∃ earlier later, os = earlier ++ call.1 :: later ∧
        (call.1.run.runOn (d.after earlier)).1 = call.2 := by
  constructor
  · intro h
    induction os generalizing d with
    | nil => exact absurd h List.not_mem_nil
    | cons o os ih =>
        rcases List.mem_cons.1 h with rfl | h
        · exact ⟨[], os, rfl, rfl⟩
        · obtain ⟨earlier, later, rfl, hanswer⟩ := ih h
          exact ⟨o :: earlier, later, rfl, hanswer⟩
  · rintro ⟨earlier, later, rfl, hanswer⟩
    induction earlier generalizing d with
    | nil => exact List.mem_cons.2 (.inl (Prod.ext rfl hanswer.symm))
    | cons o earlier ih => exact List.mem_cons_of_mem _ (ih hanswer)

/-- Where a call of a run has led that was answered with a value, and where the run has led from
there. -/
theorem exists_of_transcript {settings : ModuleSettings} {os : List Operation} {o : Operation}
    {v : Value} (h : (o, .ok (.value v)) ∈ (empty settings).transcript os) {call : Build Value}
    (ho : o.run = .value <$> call) {P : Account → Value → Account → Prop}
    (hcall : ∀ {exhausted : Prop} {a : Account},
      a.Consistent → Account.Changes False exhausted ⟨empty settings, []⟩ a →
        Build.Does False call a (P a)) :
    ∃ a b c : Account, P a v b ∧ b.Consistent ∧ b.Changes False True c ∧
      c.draft = (empty settings).after os := by
  obtain ⟨earlier, later, rfl, hanswer⟩ := mem_transcript.1 h
  obtain ⟨a, ha, hchanges, hconsistent⟩ := run_account False settings earlier False.elim
  rw [← ha] at hanswer
  dsimp only at hanswer
  rw [ho, Build.runOn_map] at hanswer
  rcases hrun : call.runOn a.draft with ⟨e | w, d⟩
  · rw [hrun] at hanswer
    cases hanswer
  · rw [hrun] at hanswer
    cases hanswer
    obtain ⟨b, c, hP, hb, hbc, -, hc⟩ :=
      (hcall hconsistent hchanges).exists_after hconsistent later hrun
    refine ⟨a, b, c, hP, hb, hbc, ?_⟩
    rw [hc, after_append, after_cons, ← ha, Draft.step, ho, Build.runOn_map, hrun]

end Draft

/-- Whether the call has reserved this id for a function. -/
def hasReserved (id : Id) : Operation × Except Failure Answer → Bool
  | (.declareFunction _ _, .ok (.id answer)) => answer == id
  | _ => false

/-- Whether the call has opened the function for which this id was reserved. -/
def hasDefined (id : Id) : Operation × Except Failure Answer → Bool
  | (.defineFunction target _ _ _ _, .ok (.function _)) => target == id
  | _ => false

/-- A call that reserves and defines nothing, or fails, is not counted. -/
theorem hasReserved_eq_false {o : Operation} {answer : Except Failure Answer}
    (h : o.isLink = true → ∃ e, answer = .error e) (id : Id) :
    hasReserved id (o, answer) = false ∧ hasDefined id (o, answer) = false := by
  cases o with
  | declareFunction | defineFunction =>
      obtain ⟨e, rfl⟩ := h rfl
      exact ⟨rfl, rfl⟩
  | _ => exact ⟨rfl, rfl⟩

namespace Draft

/-- What was reserved and defined by these calls agrees with the ids that are reserved now. -/
structure Ledger (d : Draft) (calls : List (Operation × Except Failure Answer)) : Prop where
  /-- An id is reserved at most once. -/
  once : ∀ id, calls.countP (hasReserved id) ≤ 1
  /-- What was defined has been reserved before. -/
  defined : ∀ id, calls.countP (hasDefined id) ≤ calls.countP (hasReserved id)
  /-- What was not defined yet is reserved. -/
  pending : ∀ id,
    id ∈ d.declaredIds ↔ calls.countP (hasDefined id) < calls.countP (hasReserved id)
  /-- What was reserved can be called. -/
  known : ∀ id, 0 < calls.countP (hasReserved id) → id ∈ d.callees

namespace Ledger

variable {calls : List (Operation × Except Failure Answer)} {d d' : Draft}

theorem countP_snoc {p : Operation × Except Failure Answer → Bool}
    (call : Operation × Except Failure Answer) :
    (calls ++ [call]).countP p = calls.countP p + if p call then 1 else 0 := by
  rw [List.countP_append, List.countP_singleton]

section snoc

variable {call : Operation × Except Failure Answer} {id : Id}

/-- A call that is not counted. -/
theorem same (h : d.Ledger calls)
    (hnone : ∀ target, hasReserved target call = false ∧ hasDefined target call = false)
    (hdeclared : d'.declaredIds = d.declaredIds) (hcallees : d.callees ⊆ d'.callees) :
    d'.Ledger (calls ++ [call]) := by
  have hreserved (target : Id) :
      (calls ++ [call]).countP (hasReserved target) = calls.countP (hasReserved target) := by
    rw [countP_snoc, (hnone target).1]
    rfl
  have hdefined (target : Id) :
      (calls ++ [call]).countP (hasDefined target) = calls.countP (hasDefined target) := by
    rw [countP_snoc, (hnone target).2]
    rfl
  refine ⟨fun target => ?_, fun target => ?_, fun target => ?_, fun target htarget => ?_⟩
  · rw [hreserved]
    exact h.once target
  · rw [hreserved, hdefined]
    exact h.defined target
  · rw [hreserved, hdefined, hdeclared]
    exact h.pending target
  · rw [hreserved] at htarget
    exact hcallees (h.known target htarget)

/-- A call that reserves a new id. -/
theorem declare (h : d.Ledger calls) (hnew : id ∉ d.callees)
    (hcall : ∀ target, hasReserved target call = (id == target) ∧ hasDefined target call = false)
    (hdeclared : d'.declaredIds = id :: d.declaredIds) (hcallees : d.callees ⊆ d'.callees) :
    d'.Ledger (calls ++ [call]) := by
  have hreserved (target : Id) : (calls ++ [call]).countP (hasReserved target) =
      calls.countP (hasReserved target) + if id = target then 1 else 0 := by
    rw [countP_snoc, (hcall target).1]
    simp
  have hdefined (target : Id) :
      (calls ++ [call]).countP (hasDefined target) = calls.countP (hasDefined target) := by
    rw [countP_snoc, (hcall target).2]
    rfl
  -- the new id has not been reserved before, or it could be called
  have hnone : calls.countP (hasReserved id) = 0 :=
    Nat.eq_zero_of_not_pos fun hpos => hnew (h.known id hpos)
  refine ⟨fun target => ?_, fun target => ?_, fun target => ?_, fun target htarget => ?_⟩
  · rw [hreserved]
    by_cases heq : id = target
    · rw [if_pos heq, ← heq, hnone]
    · rw [if_neg heq]
      exact h.once target
  · rw [hreserved, hdefined]
    exact Nat.le_add_right_of_le (h.defined target)
  · rw [hreserved, hdefined, hdeclared, List.mem_cons, h.pending target]
    by_cases heq : id = target
    · rw [if_pos heq]
      exact iff_of_true (Or.inl heq.symm) (Nat.lt_succ_of_le (h.defined target))
    · rw [if_neg heq]
      exact or_iff_right (Ne.symm heq)
  · by_cases heq : id = target
    · refine List.mem_append_right _ ?_
      rw [hdeclared, heq]
      exact List.mem_cons_self
    · rw [hreserved, if_neg heq] at htarget
      exact hcallees (h.known target htarget)

/-- A call that defines a reserved function. -/
theorem define (h : d.Ledger calls) (hd : id ∈ d.declaredIds)
    (hcall : ∀ target, hasReserved target call = false ∧ hasDefined target call = (id == target))
    (hdeclared : d'.declaredIds = d.declaredIds.filter (· != id))
    (hcallees : d.callees ⊆ d'.callees) : d'.Ledger (calls ++ [call]) := by
  have hreserved (target : Id) :
      (calls ++ [call]).countP (hasReserved target) = calls.countP (hasReserved target) := by
    rw [countP_snoc, (hcall target).1]
    rfl
  have hdefined (target : Id) : (calls ++ [call]).countP (hasDefined target) =
      calls.countP (hasDefined target) + if id = target then 1 else 0 := by
    rw [countP_snoc, (hcall target).2]
    simp
  -- the id is still reserved, so it has been reserved more often than defined
  have hpending := (h.pending id).1 hd
  refine ⟨fun target => ?_, fun target => ?_, fun target => ?_, fun target htarget => ?_⟩
  · rw [hreserved]
    exact h.once target
  · rw [hreserved, hdefined]
    by_cases heq : id = target
    · rw [if_pos heq, ← heq]
      exact hpending
    · rw [if_neg heq]
      exact h.defined target
  · rw [hreserved, hdefined, hdeclared, List.mem_filter, h.pending target]
    by_cases heq : id = target
    · have honce := h.once target
      simp only [heq, bne_self_eq_false, Bool.false_eq_true, and_false, if_true, false_iff]
      omega
    · rw [if_neg heq]
      exact and_iff_left (bne_iff_ne.2 (Ne.symm heq))
  · rw [hreserved] at htarget
    exact hcallees (h.known target htarget)

end snoc

/-- **What one call does to the reserved ids.** -/
theorem step {a b : Account} {o : Operation} (h : a.draft.Ledger calls) (ha : a.Consistent)
    (hb : b.draft = a.draft.step o) (hstep : Account.Changes False False a b)
    (hids : (o.run.runOn a.draft).1 ≠ .error (.overflow .increment)) :
    b.draft.Ledger (calls ++ [(o, (o.run.runOn a.draft).1)]) := by
  have hcallees : a.draft.callees ⊆ b.draft.callees := hstep.callees ha
  have hlinks := o.run_links ha
  rw [← hb] at hlinks
  generalize (o.run.runOn a.draft).1 = answer at hlinks hids
  cases hlinks with
  | same hlinkage hfails =>
      obtain ⟨-, hdeclared, -⟩ := eq_of_linkage hlinkage
      exact h.same (hasReserved_eq_false hfails) (congrArg (·.map Prod.fst) hdeclared) hcallees
  | exhausted => exact absurd rfl hids
  | entryPoint _ _ hlinkage | close _ _ _ hlinkage =>
      obtain ⟨-, hdeclared, -⟩ := eq_of_linkage hlinkage
      exact h.same (fun _ => ⟨rfl, rfl⟩) (congrArg (·.map Prod.fst) hdeclared) hcallees
  | @declare result parameters id s hlinkage =>
      have hdeclared : b.draft.declaredIds = id :: a.draft.declaredIds :=
        congrArg (·.map Prod.fst) (eq_of_linkage hlinkage).2.1
      refine h.declare (fun hid => ?_) (fun _ => ⟨rfl, rfl⟩) hdeclared hcallees
      have hnodup := (ha.after hstep).nodup
      rw [hdeclared] at hnodup
      obtain ⟨-, hrest, hapart⟩ := List.nodup_append.1 hnodup
      rcases List.mem_append.1 hid with hid | hid
      · have hdefined := functionIds_subset_definedIds ((hstep.extends ha).functionIds hid)
        exact hapart id hdefined id List.mem_cons_self rfl
      · exact (List.nodup_cons.1 hrest).1 (List.mem_append_left _ hid)
  | @define id text result parameters control f _ hd _ hlinkage =>
      refine h.define hd (fun _ => ⟨rfl, rfl⟩) ?_ hcallees
      have hdeclared : b.draft.declaredIds = (a.draft.removeDeclared id).declaredIds :=
        congrArg (·.map Prod.fst) (eq_of_linkage hlinkage).2.1
      rw [hdeclared]
      exact (List.filter_map (p := (· != id))).symm

/-- No id is reserved any more just if all that were have been defined. -/
theorem declared_eq_nil_iff (h : d.Ledger calls) : d.tables.declared = [] ↔
    ∀ id, 0 < calls.countP (hasReserved id) → 0 < calls.countP (hasDefined id) := by
  constructor
  · intro hnone id hid
    have hpending := (not_congr (h.pending id)).1 (by simp [declaredIds, hnone])
    omega
  · intro hall
    have hnone : d.declaredIds = [] := by
      refine List.eq_nil_iff_forall_not_mem.2 fun id hid => ?_
      have hpending := (h.pending id).1 hid
      have honce := h.once id
      have hdefined := hall id (by omega)
      omega
    exact List.map_eq_nil_iff.1 hnone

/-- Once no id is reserved, an id that was has been defined once, and is that of a function. -/
theorem of_declared_eq_nil (h : d.Ledger calls) (hnone : d.tables.declared = []) {id : Id}
    (hid : 0 < calls.countP (hasReserved id)) :
    calls.countP (hasDefined id) = 1 ∧ id ∈ d.functionIds := by
  have hpos := h.declared_eq_nil_iff.1 hnone id hid
  have honce := h.once id
  have hdefined := h.defined id
  refine ⟨by omega, ?_⟩
  have hknown := h.known id hid
  rwa [callees, declaredIds, hnone, List.map_nil, List.append_nil] at hknown

end Ledger

/-! ### Finished modules -/

/-- A run calls no entry point, and it defines what it has reserved or still has it reserved. -/
theorem run_linked {settings : ModuleSettings} (os : List Operation) {a : Account}
    {calls : List (Operation × Except Failure Answer)}
    (ha : Account.Changes False False ⟨empty settings, []⟩ a) (huncalled : a.draft.Uncalled)
    (hledger : a.draft.Ledger calls) (hids : a.draft.HasIds os) :
    ∃ b : Account, b.draft = a.draft.after os ∧
      Account.Changes False False ⟨empty settings, []⟩ b ∧ b.draft.Uncalled ∧
        b.draft.Ledger (calls ++ a.draft.transcript os) := by
  induction os generalizing a calls with
  | nil => exact ⟨a, rfl, ha, huncalled, by rwa [transcript, List.append_nil]⟩
  | cons o os ih =>
      have hconsistent : a.Consistent := (Account.Consistent.empty settings).after ha
      obtain ⟨hids, hrest⟩ := hids
      obtain ⟨b, hb, hstep, -⟩ := step_changes False o hconsistent False.elim
      have hstep : Account.Changes False False a b := hstep.mono hids
      rw [← hb] at hrest
      obtain ⟨c, hc, hchanges, hfinal, hcalls⟩ := ih (ha.trans hstep)
        (huncalled.step ha hb hstep hids) (hledger.step hconsistent hb hstep hids) hrest
      refine ⟨c, by rw [hc, hb, after_cons], hchanges, hfinal, ?_⟩
      rwa [List.append_assoc, hb] at hcalls

variable {d : Draft} {m : ShaderModule}

/-- Finishing succeeds if nothing is left open. -/
theorem exists_finished_iff : (∃ m, (Build.finish.runOn d).1 = .ok m) ↔
    d.current = none ∧ d.tables.declared = [] := by
  constructor
  · rintro ⟨m, h⟩
    obtain ⟨hcurrent, hdeclared, -⟩ := finished_eq_ok (finished_of_finish h)
    exact ⟨hcurrent, hdeclared⟩
  · rintro ⟨hcurrent, hdeclared⟩
    rw [Build.runOn_finish, finished, hcurrent, hdeclared]
    exact ⟨_, rfl⟩

/-- What is defined in a draft stands in its module. -/
theorem definitions_subset_of_finished (hm : d.finished = .ok m) :
    d.definitions ⊆ m.instructions := by
  obtain ⟨-, -, -, himports, hglobals, hfunctions⟩ := finished_eq_ok hm
  intro i hi
  simp only [ShaderModule.instructions, ShaderModule.globalInstructions, himports, hglobals,
    hfunctions, List.mem_append]
  simp only [definitions, List.mem_append] at hi
  tauto

/-- A finished module gives a value the type that its draft gives it. -/
theorem valueTypeOf?_of_finished {ids : List Id} (h : Account.Consistent ⟨d, ids⟩)
    (hm : d.finished = .ok m) (hresults : m.results = d.definedIds) {id type : Id}
    (hid : d.valueTypeOf? id = some type) : m.valueTypeOf? id = some type := by
  obtain ⟨i, hi, hresult, htype⟩ := (valueTypeOf?_eq_some h.nodup_definedIds).1 hid
  have hnodup : m.results.Nodup := hresults ▸ h.nodup_definedIds
  exact Option.bind_eq_some_iff.2 ⟨i, (definitionIn?_eq_some hnodup).2
    ⟨definitions_subset_of_finished hm hi, hresult⟩, htype⟩

section finished

variable {settings : ModuleSettings} {b : Account}

/-- The calls of the module of a run are linked. -/
theorem linked_of_changes (h : Account.Changes False False ⟨empty settings, []⟩ b)
    (huncalled : b.draft.Uncalled) (hm : b.draft.finished = .ok m) :
    ∀ i ∈ m.instructions, i.opcode = .functionCall → m.Linked i := by
  intro i hi hcall
  have hconsistent : b.Consistent := (Account.Consistent.empty settings).after h
  have hlaidOut := laidOut_of_changes h hm
  have hresults := results_of_finished h.statements_result hm
  obtain ⟨-, hdeclared, -, -, -, hfunctions⟩ := finished_eq_ok hm
  have hdefinition : i ∈ b.draft.definitions := by
    rcases hlaidOut.part_or_function hi with ⟨k, -, hplace⟩ | ⟨f, hf, hi, -⟩
    · rw [hcall] at hplace
      cases hplace
    · exact mem_definitions.2 (Or.inr (Or.inr ⟨f, hfunctions ▸ hf, hi⟩))
  obtain ⟨callee, args, s, hoperands, htype, hs, hargs⟩ := h.fitting.calls i hdefinition hcall
  have hfree : b.draft.isEntryPoint callee = false := by
    refine huncalled i hdefinition callee ?_
    rw [Instruction.callee?, hcall, hoperands]
    rfl
  rw [Promises, hdeclared, List.append_nil, hconsistent.functions, mem_rowsOf] at hs
  obtain ⟨g, hg, hrow⟩ := hs
  obtain ⟨hresult, hresultType, hparameters⟩ := Function.definition_of_signatureRow? hrow
  obtain ⟨result, hhead⟩ := (Shaped.after h).heads hg
  refine ⟨callee, args, hoperands, fun e he hentry => ?_, g, hfunctions ▸ hg,
    (Scoped.after h).functions g hg, hresult, ⟨s.result, htype, hresultType⟩, ?_⟩
  -- an entry point stands in its own section, and its function is in the table
  · have hplace : e.opcode.place = .inSection .entryPoints := by
      rw [Instruction.opcode_of_entry? hentry]
      rfl
    have hpart := hlaidOut.mem_part he hplace
    rw [part_of_finished hm (by decide)] at hpart
    rw [h.fitting.entries e hpart callee hentry] at hfree
    cases hfree
  · -- the signature lists the types of the parameters, and by its shape every one has a type
    rw [hparameters] at hargs
    refine (forall₂_parameters (fun p => hhead.exists_resultType) hargs).imp ?_
    rintro arg p ⟨type, harg, hp⟩
    exact ⟨type, valueTypeOf?_of_finished hconsistent hm hresults harg, hp⟩

end finished

/-- **The calls of a finished module are linked, and finishing succeeds just if nothing is left
open.**  Some calls of the run may have failed, but none has found the ids used up, which is no
answer but the end of the run:

* finishing succeeds just if no function is open and every id that was reserved has been defined;
* every call in the module has the type and the arguments of a function of the module that is not an
  entry point;
* every id that was reserved has been defined once, by a call and by an instruction, which is that
  of a function. -/
theorem finished_linked (settings : ModuleSettings) (os : List Operation)
    (hids : (empty settings).HasIds os) :
    ((∃ m, (Build.finish.runOn ((empty settings).after os)).1 = .ok m) ↔
      ((empty settings).after os).current = none ∧
        ∀ id, (∃ call ∈ (empty settings).transcript os, hasReserved id call = true) →
          ∃ call ∈ (empty settings).transcript os, hasDefined id call = true) ∧
    ∀ m, (Build.finish.runOn ((empty settings).after os)).1 = .ok m →
      (∀ i ∈ m.instructions, i.opcode = .functionCall → m.Linked i) ∧
      ∀ id, (∃ call ∈ (empty settings).transcript os, hasReserved id call = true) →
        ((empty settings).transcript os).countP (hasDefined id) = 1 ∧ m.results.count id = 1 ∧
          ∃ g ∈ m.functions, g.definition.opcode = .function ∧ g.definition.result = some id := by
  have hnothing : (empty settings).Uncalled := fun _ hi => absurd hi List.not_mem_nil
  have hledger : (empty settings).Ledger [] :=
    ⟨fun _ => Nat.zero_le 1, fun _ => Nat.le_refl 0, fun _ => iff_of_false List.not_mem_nil
      (Nat.lt_irrefl 0), fun _ h => absurd h (Nat.lt_irrefl 0)⟩
  obtain ⟨b, hb, hchanges, huncalled, hcalls⟩ :=
    run_linked os (.refl ⟨empty settings, []⟩) hnothing hledger hids
  have hconsistent : b.Consistent := (Account.Consistent.empty settings).after hchanges
  rw [← hb]
  rw [List.nil_append] at hcalls
  simp only [← List.countP_pos_iff]
  refine ⟨exists_finished_iff.trans (and_congr_right fun _ => hcalls.declared_eq_nil_iff),
    fun m h => ?_⟩
  have hm := finished_of_finish h
  obtain ⟨-, hdeclared, -, -, -, hfunctions⟩ := finished_eq_ok hm
  have hresults := results_of_finished hchanges.statements_result hm
  refine ⟨linked_of_changes hchanges huncalled hm, fun id hid => ?_⟩
  obtain ⟨honce, hfunction⟩ := hcalls.of_declared_eq_nil hdeclared hid
  rw [hresults, hfunctions]
  exact ⟨honce, List.count_eq_one_of_mem hconsistent.nodup_definedIds
    (functionIds_subset_definedIds hfunction),
    (Scoped.after hchanges).exists_function (List.Subset.refl _) hfunction⟩

/-- The function of the sample that is called before it is defined is linked. -/
theorem finished_linked_of_sample :
    (empty {}).HasIds sampleCalls ∧
      (∃ call ∈ (empty {}).transcript sampleCalls, hasReserved 4 call = true) ∧
      ∃ m, (Build.finish.runOn ((empty {}).after sampleCalls)).1 = .ok m ∧
        (∀ i ∈ m.instructions, i.opcode = .functionCall → m.Linked i) ∧
        ∃ g ∈ m.functions, g.definition.opcode = .function ∧ g.definition.result = some 4 := by
  have hids : (empty {}).HasIds sampleCalls := by decide +kernel
  have hreserved : ∃ call ∈ (empty {}).transcript sampleCalls, hasReserved 4 call = true := by
    decide +kernel
  obtain ⟨m, h⟩ := exists_sampleModule
  obtain ⟨hcalls, hdefined⟩ := (finished_linked {} sampleCalls hids).2 m h
  exact ⟨hids, hreserved, m, h, hcalls, (hdefined 4 hreserved).2.2⟩

end Draft

end FrameShader
