/-
Annotating: where the annotations of a module come from, and what they refer to.

Some decorations are a draft's own, such as the strides of arrays; all others are asked for, word for
word.  A decoration is about a target, but its other operands may be ids too.  A call that decorates
looks up the target and takes the other operands as they come.  So the targets of a finished module
are defined, while a further id is whatever a caller has passed.  What a draft says of its own accord
has no further ids.

Main definitions:

* `FrameShader.Operation.annotation?` — the decoration that an operation asks for;
* `FrameShader.Draft.said` — the decorations that a run was asked for and has not refused;
* `FrameShader.Draft.Own`, `FrameShader.Draft.Attributed` — the other decorations are the draft's own;
* `FrameShader.Operation.decorates` — the operation asks for a decoration of this kind;
* `FrameShader.Draft.Quotes` — further ids come from what a run was asked for.

Main results:

* `FrameShader.Draft.Attributed.step`, `FrameShader.Draft.attributed_after` — **where annotations come
  from**;
* `FrameShader.Draft.own_of_decoration` — decorations that nobody asks for are the draft's own;
* `FrameShader.Draft.finished_annotations` — **targets are defined, and further ids are those that
  callers have passed**.
-/

import FrameShader.Proofs.Draft.Ids
import FrameShader.Proofs.Draft.Slots

set_option relaxedAutoImplicit false
set_option autoImplicit false

namespace FrameShader

open Build

/-- The decoration that the operation asks for, if it does nothing else. -/
def Operation.annotation? : Operation → Option Instruction
  | .decorate id decoration operands =>
      some (.plain .decorate (.id id :: .decoration decoration :: operands))
  | .decorateMember id member decoration operands =>
      some (.plain .memberDecorate
        (.id id :: .literal member :: .decoration decoration :: operands))
  | _ => none

/-- The operation decorates an id, and in this way. -/
def Operation.decorates (kind : Decoration) : Operation → Bool
  | .decorate _ decoration _ => decoration == kind
  | _ => false

/-- The decoration that the call has asked for, if it has succeeded. -/
def annotation? (call : Operation × Except Failure Answer) : Option Instruction :=
  if call.2.isOk then call.1.annotation? else none

/-- An annotation refers to its target before anything else. -/
theorem Instruction.Annotates.references {i : Instruction} (h : i.Annotates) :
    ∃ target further, i.targets = [target] ∧ i.references = target :: further := by
  cases h with
  | decorate target => exact ⟨target, _, rfl, rfl⟩
  | member target => exact ⟨target, _, rfl, rfl⟩

namespace Draft

variable {d : Draft} {rows : List Instruction}

/-- The decorations that a run was asked for and has not refused. -/
def said (d : Draft) (os : List Operation) : List Instruction :=
  (d.transcript os).filterMap annotation?

theorem said_cons (d : Draft) (o : Operation) (os : List Operation) : d.said (o :: os) =
    (annotation? (o, (o.run.runOn d).1)).toList ++ (d.step o).said os :=
  filterMap_transcript_cons annotation? d o os

/-! ### Where decorations come from -/

/-- The decorations that a draft writes of its own accord: the strides of arrays, the contents of
buffers, and what is said of variables.  The draft knows the variables that hold built-in values. -/
inductive Own (d : Draft) : Instruction → Prop
  | stride {id : Id} {element : DataType} {stride : Word}
      (ht : (id, .runtimeArray element) ∈ d.tables.dataTypes) (hsize : element.size = .ok stride) :
      Own d (strideRow id stride)
  | block (id : Id) : Own d (blockRow id)
  | offset (id : Id) : Own d (offsetRow id)
  | nonWritable (v : Id) : Own d (nonWritableRow v)
  | set (v : Id) (set : Word) : Own d (setRow v set)
  | binding (v : Id) (binding : Word) : Own d (bindingRow v binding)
  | builtIn {builtIn : BuiltIn} {v : Value} (hv : (builtIn, v) ∈ d.tables.builtIns) :
      Own d (builtInRow v.id builtIn)

/-- What a draft says of its own accord it says as long as it knows its arrays and its built-in
values. -/
theorem Own.mono {d' : Draft} (htypes : d.tables.dataTypes ⊆ d'.tables.dataTypes)
    (hbuiltIns : d.tables.builtIns ⊆ d'.tables.builtIns) {i : Instruction} (hi : d.Own i) :
    d'.Own i := by
  cases hi with
  | stride ht hsize => exact .stride (htypes ht) hsize
  | builtIn hv => exact .builtIn (hbuiltIns hv)
  | _ => constructor

/-- Nothing but the annotation is added. -/
theorem annotations_addToAnnotations_subset (d : Draft) (i : Instruction) :
    (d.addToAnnotations i).sections.annotations ⊆ d.sections.annotations ++ [i] := by
  unfold addToAnnotations
  split
  · exact List.subset_append_left _ _
  · exact List.Subset.refl _

/-- Annotations are the draft's own, unless they are among these. -/
def Attributed (rows : List Instruction) (d : Draft) : Prop :=
  ∀ i ∈ d.sections.annotations, d.Own i ∨ i ∈ rows

namespace Attributed

variable {d' : Draft}

theorem of_kept (h : d.Attributed rows) (htypes : d.tables.dataTypes ⊆ d'.tables.dataTypes)
    (hbuiltIns : d.tables.builtIns ⊆ d'.tables.builtIns)
    (hsame : d'.sections.annotations = d.sections.annotations) : d'.Attributed rows := by
  unfold Attributed
  rw [hsame]
  exact fun i hi => (h i hi).imp_left (Own.mono htypes hbuiltIns)

theorem of_bare (h : d.Attributed rows) (hsame : d'.bare = d.bare) : d'.Attributed rows := by
  refine h.of_kept ?_ ?_ (view_eq hsame (·.sections.annotations) fun _ => rfl)
  · rw [view_eq hsame (·.tables.dataTypes) fun _ => rfl]
    exact List.Subset.refl _
  · rw [view_eq hsame (·.tables.builtIns) fun _ => rfl]
    exact List.Subset.refl _

theorem mono (h : d.Attributed rows) {rows' : List Instruction} (hsub : rows ⊆ rows') :
    d.Attributed rows' :=
  fun i hi => (h i hi).imp_right (@hsub i)

/-- One more annotation. -/
theorem snoc (h : d.Attributed rows) {i : Instruction}
    (htypes : d.tables.dataTypes ⊆ d'.tables.dataTypes)
    (hbuiltIns : d.tables.builtIns ⊆ d'.tables.builtIns)
    (hsub : d'.sections.annotations ⊆ d.sections.annotations ++ [i]) (hi : d'.Own i ∨ i ∈ rows) :
    d'.Attributed rows := by
  intro j hj
  rcases List.mem_append.1 (hsub hj) with hj | hj
  · exact (h j hj).imp_left (Own.mono htypes hbuiltIns)
  · exact List.mem_singleton.1 hj ▸ hi

theorem add (h : d.Attributed rows) {i : Instruction} (hi : d.Own i ∨ i ∈ rows) :
    (d.addToAnnotations i).Attributed rows := by
  have hsame := d.unannotated_addToAnnotations i
  have htypes : d.tables.dataTypes ⊆ (d.addToAnnotations i).tables.dataTypes := by
    rw [view_eq hsame (·.tables.dataTypes) fun _ => rfl]
    exact List.Subset.refl _
  have hbuiltIns : d.tables.builtIns ⊆ (d.addToAnnotations i).tables.builtIns := by
    rw [view_eq hsame (·.tables.builtIns) fun _ => rfl]
    exact List.Subset.refl _
  exact h.snoc htypes hbuiltIns (d.annotations_addToAnnotations_subset i)
    (hi.imp_left (Own.mono htypes hbuiltIns))

/-- A variable that holds a built-in value, and is said to do so. -/
theorem addBuiltInVariable (h : d.Attributed rows) (builtIn : BuiltIn) (type id : Id) :
    (d.addBuiltInVariable builtIn type id).Attributed rows := by
  let holder := d.addGlobalValue .variable type id [.storageClass .input]
  have hsame := holder.unannotated_addToAnnotations (builtInRow id builtIn)
  refine h.snoc ?_ ?_ (holder.annotations_addToAnnotations_subset _)
    (.inl (.builtIn (v := ⟨id, type⟩) List.mem_cons_self))
  · show _ ⊆ (holder.addToAnnotations (builtInRow id builtIn)).tables.dataTypes
    rw [view_eq hsame (·.tables.dataTypes) fun _ => rfl]
    exact List.Subset.refl _
  · show _ ⊆ _ :: (holder.addToAnnotations (builtInRow id builtIn)).tables.builtIns
    rw [view_eq hsame (·.tables.builtIns) fun _ => rfl]
    exact List.subset_cons_self _ _

/-- The steps that calls have in common add to the draft's own annotations. -/
theorem of_step {f : Draft → Draft} (hf : Step f) (h : d.Attributed rows) :
    (f d).Attributed rows := by
  have hrefl := List.Subset.refl d.tables.dataTypes
  have hknown := List.Subset.refl d.tables.builtIns
  cases hf with
  | defineType => exact h.of_kept (List.subset_cons_self _ _) hknown rfl
  | @defineArray element stride id opcode operands hsize =>
      have hdefined :
          (d.addTypeDefinition id (.runtimeArray element) opcode operands).Attributed rows :=
        h.of_kept (List.subset_cons_self _ _) hknown rfl
      exact hdefined.add (.inl (.stride List.mem_cons_self hsize))
  | capability c => exact h.of_bare (d.bare_addCapability c)
  | name target member i => exact h.of_bare (d.bare_addName target member i)
  | defineConstant key => cases key <;> exact h.of_kept hrefl hknown rfl
  | _ => exact h.of_kept hrefl hknown rfl

/-- So do the steps of an operation that does not ask for a decoration. -/
theorem of_effect {o : Operation} (ho : o.annotation? = none) {f : Draft → Draft} (hf : o.Effect f)
    (h : d.Attributed rows) : (f d).Attributed rows := by
  have hrefl := List.Subset.refl d.tables.dataTypes
  have hknown := List.Subset.refl d.tables.builtIns
  cases hf with
  | decorate | decorateMember => cases ho
  | set => exact h.add (.inl (.set _ _))
  | binding => exact h.add (.inl (.binding _ _))
  | block => exact h.add (.inl (.block _))
  | offset => exact h.add (.inl (.offset _))
  | nonWritable => exact h.add (.inl (.nonWritable _))
  | builtIn builtIn t type id => exact h.addBuiltInVariable builtIn type id
  | extension | bufferExtension => exact h.of_bare (d.bare_addExtension _)
  | source language version => exact h.of_bare (d.bare_addSource language version)
  | _ => exact h.of_kept hrefl hknown rfl

end Attributed

/-- Decorating a member adds to the annotations, if there is such a member. -/
theorem runOn_decorateMember (id : Id) (member : Word) (decoration : Decoration)
    (operands : List Operand) (d : Draft) :
    (decorateMember id member decoration operands).runOn d =
      match d.recordMember id member with
      | .error cause => (.error (.rejected cause), d)
      | .ok _ =>
          if d.isDefined id then
            (.ok (), d.addToAnnotations (.plain .memberDecorate
              (.id id :: .literal member :: .decoration decoration :: operands)))
          else (.error (.rejected (.missingTarget id)), d) := by
  rw [decorateMember, runOn_bind, runOn_inspect]
  cases d.recordMember id member with
  | error cause => rfl
  | ok =>
      show (annotate id _).runOn d = _
      rw [annotate, runOn_bind, runOn_inspect]
      cases d.isDefined id <;> rfl

/-- A call that asks for a decoration writes it, or fails and leaves the draft alone. -/
theorem run_annotation {o : Operation} {i : Instruction} (ho : o.annotation? = some i) (d : Draft) :
    o.run.runOn d = (.ok .done, d.addToAnnotations i) ∨ ∃ e, o.run.runOn d = (.error e, d) := by
  cases o with
  | decorate id decoration operands =>
      obtain rfl := Option.some.inj ho
      rw [Operation.run, runOn_map, runOn_decorate]
      cases d.isDefined id
      · exact .inr ⟨_, rfl⟩
      · exact .inl rfl
  | decorateMember id member decoration operands =>
      obtain rfl := Option.some.inj ho
      rw [Operation.run, runOn_map, runOn_decorateMember]
      cases d.recordMember id member with
      | error e => exact .inr ⟨_, rfl⟩
      | ok =>
          cases d.isDefined id
          · exact .inr ⟨_, rfl⟩
          · exact .inl rfl
  | _ => cases ho

/-- **One call adds to the draft's own annotations, or writes the one that it was asked to write.** -/
theorem Attributed.step (h : d.Attributed rows) (o : Operation) :
    (d.step o).Attributed (rows ++ (annotation? (o, (o.run.runOn d).1)).toList) := by
  cases ho : o.annotation? with
  | none =>
      have hkept : (d.step o).Attributed rows :=
        step_keeps Attributed.of_step (Attributed.of_effect ho) h
      exact hkept.mono (List.subset_append_left _ _)
  | some i =>
      rcases run_annotation ho d with hrun | ⟨e, hrun⟩
      · have hsaid : annotation? (o, (o.run.runOn d).1) = some i := by
          rw [hrun]
          exact ho
        rw [hsaid, Draft.step, hrun]
        exact (h.mono (List.subset_append_left _ _)).add
          (.inr (List.mem_append_right _ List.mem_cons_self))
      · rw [Draft.step, hrun]
        exact h.mono (List.subset_append_left _ _)

/-- The annotations after a run are the draft's own, or the run was asked to write them. -/
theorem Attributed.run (os : List Operation) (h : d.Attributed rows) :
    (d.after os).Attributed (rows ++ d.said os) := by
  induction os generalizing d rows with
  | nil => exact (List.append_nil rows).symm ▸ h
  | cons o os ih =>
      rw [said_cons, ← List.append_assoc]
      exact ih (h.step o)

/-- **Where the annotations of a run come from.** -/
theorem attributed_after (settings : ModuleSettings) (os : List Operation) :
    ((empty settings).after os).Attributed ((empty settings).said os) := by
  have hempty : (empty settings).Attributed [] := fun _ hi => absurd hi List.not_mem_nil
  exact hempty.run os

/-- What a run was asked to write, one of its calls asks for. -/
theorem exists_of_mem_said {os : List Operation} {i : Instruction} (h : i ∈ d.said os) :
    ∃ o ∈ os, o.annotation? = some i := by
  obtain ⟨call, hcall, hasked⟩ := List.mem_filterMap.1 h
  obtain ⟨earlier, later, rfl, -⟩ := mem_transcript.1 hcall
  refine ⟨call.1, List.mem_append_right _ List.mem_cons_self, ?_⟩
  unfold annotation? at hasked
  split at hasked
  · exact hasked
  · cases hasked

/-- Decorations of a kind that no call asks for are the draft's own. -/
theorem own_of_decoration {settings : ModuleSettings} {os : List Operation} {kind : Decoration}
    (hdirect : ∀ o ∈ os, o.decorates kind = false) {v : Id} {operands : List Operand}
    (h : .plain .decorate (.id v :: .decoration kind :: operands) ∈
      ((empty settings).after os).sections.annotations) :
    ((empty settings).after os).Own
      (.plain .decorate (.id v :: .decoration kind :: operands)) := by
  refine (attributed_after settings os _ h).resolve_right fun hsaid => ?_
  obtain ⟨o, ho, hasked⟩ := exists_of_mem_said hsaid
  have hno := hdirect o ho
  cases o with
  | decorate =>
      cases Option.some.inj hasked
      simp [Operation.decorates] at hno
  | decorateMember => cases Option.some.inj hasked
  | _ => cases hasked

/-- Annotations refer to nothing but their targets, unless they are among these. -/
def Quotes (rows : List Instruction) (d : Draft) : Prop :=
  ∀ i ∈ d.sections.annotations, i.references.tail = [] ∨ i ∈ rows

/-- What a draft says of its own accord names no further ids. -/
theorem Attributed.quotes (h : d.Attributed rows) : d.Quotes rows := by
  refine fun i hi => (h i hi).imp_left fun hown => ?_
  cases hown <;> rfl

end Draft

/-! ### Targets -/

namespace Account

/-- Annotations are about what is defined. -/
theorem Changes.annotations_targets {short exhausted : Prop} {settings : ModuleSettings} {a : Account}
    (h : Changes short exhausted ⟨Draft.empty settings, []⟩ a) :
    ∀ i ∈ a.draft.statements, i.opcode.place = .inSection .annotations →
      ∀ id ∈ i.targets, id ∈ a.draft.definedIds := by
  refine h.preserves_of_consistent (P := fun a => ∀ i ∈ a.draft.statements,
    i.opcode.place = .inSection .annotations → ∀ id ∈ i.targets, id ∈ a.draft.definedIds)
    (fun {b c} hb hstep hdefined i hi hplace id hid => ?_) (.empty settings)
    fun _ hi => nomatch hi
  refine (hstep.extends hb).definedIds ?_
  rcases hstep.statements hi with hi | hi
  · exact hdefined i hi hplace id hid
  · cases hi with
    | decorate htarget | decorateMember htarget =>
        obtain rfl := List.mem_singleton.1 hid
        exact hb.mem_definedIds_of_isDefined htarget
    | _ => cases hplace

end Account

/-! ### Finished modules -/

namespace Draft

/-- **The targets of decorations are defined, and further ids are those that callers have passed.**
In any finished module, a decoration refers to its target first.  That is the result of some
instruction.  If the decoration refers to anything else, then it stands as a caller has asked for it.
So nothing in the decorations dangles if the callers have passed no id that stays undefined. -/
theorem finished_annotations (settings : ModuleSettings) (os : List Operation) (m : ShaderModule)
    (h : (Build.finish.runOn ((empty settings).after os)).1 = .ok m) :
    (∀ i ∈ m.instructions, i.opcode = .decorate ∨ i.opcode = .memberDecorate →
      ∃ target further, i.references = target :: further ∧ target ∈ m.results ∧
        (further = [] ∨ i ∈ (empty settings).said os)) ∧
    ((∀ i ∈ (empty settings).said os, ∀ id ∈ i.references, id ∈ m.results) →
      ∀ i ∈ m.instructions, i.opcode = .decorate ∨ i.opcode = .memberDecorate →
        ∀ id ∈ i.references, id ∈ m.results) := by
  obtain ⟨b, hb, hchanges, -, hm, hresults⟩ := account_of_finish settings os h
  have hquotes := (attributed_after settings os).quotes
  rw [← hb] at hquotes
  have hannotated := hchanges.annotated (.empty settings)
  have hfirst : ∀ i ∈ m.instructions, i.opcode = .decorate ∨ i.opcode = .memberDecorate →
      ∃ target further, i.references = target :: further ∧ target ∈ m.results ∧
        (further = [] ∨ i ∈ (empty settings).said os) := by
    intro i hi hopcode
    have hplace : i.opcode.place = .inSection .annotations := by
      rcases hopcode with hopcode | hopcode <;> rw [hopcode] <;> rfl
    have hpart := (laidOut_of_changes hchanges hm).mem_part hi hplace
    rw [part_of_finished hm (by decide)] at hpart
    obtain ⟨target, further, htargets, hreferences⟩ := (hannotated.shape i hpart).references
    refine ⟨target, further, hreferences, ?_, ?_⟩
    · rw [hresults]
      exact hchanges.annotations_targets i (List.mem_append_right _ hpart) hplace target
        (htargets ▸ List.mem_cons_self)
    · -- an annotation with further ids is one that was asked for, word for word
      have hfurther := hquotes i hpart
      rwa [hreferences] at hfurther
  refine ⟨hfirst, fun hsaid i hi hopcode id hid => ?_⟩
  obtain ⟨target, further, hreferences, htarget, hfurther⟩ := hfirst i hi hopcode
  rcases hfurther with rfl | hfurther
  · rw [hreferences] at hid
    exact List.mem_singleton.1 hid ▸ htarget
  · exact hsaid i hfurther id hid

/-- Calls that decorate a type, and name an id that is not there. -/
def danglingCalls : List Operation := [.typeId .uint32, .decorate 1 .uniformId [.id 99]]

/-- These calls finish a module with the decoration that they ask for. -/
theorem exists_danglingModule :
    ∃ m, (Build.finish.runOn ((empty {}).after danglingCalls)).1 = .ok m ∧
      .plain .decorate [.id 1, .decoration .uniformId, .id 99] ∈ m.instructions := by
  obtain ⟨m, h⟩ : ∃ m, (Build.finish.runOn ((empty {}).after danglingCalls)).1 = .ok m :=
    exists_finished_iff.2 (by decide +kernel)
  have hannotations : m.annotations = ((empty {}).after danglingCalls).sections.annotations :=
    part_of_finished (finished_of_finish h) (k := .annotations) (by decide)
  have hmem : .plain .decorate [.id 1, .decoration .uniformId, .id 99] ∈ m.annotations := by
    rw [hannotations]
    decide +kernel
  exact ⟨m, h, by simp [ShaderModule.instructions, ShaderModule.globalInstructions, hmem]⟩

/-- The decoration is about the type, and the further id is the one that the caller has passed. -/
theorem finished_annotations_of_dangling :
    ∃ m, (Build.finish.runOn ((empty {}).after danglingCalls)).1 = .ok m ∧
      ∃ i ∈ m.instructions, i.opcode = .decorate ∧
        ∃ target further, i.references = target :: further ∧ target ∈ m.results ∧
          (further = [] ∨ i ∈ (empty {}).said danglingCalls) := by
  obtain ⟨m, h, hmem⟩ := exists_danglingModule
  exact ⟨m, h, _, hmem, rfl, (finished_annotations {} danglingCalls m h).1 _ hmem (.inl rfl)⟩

/-- What a decoration refers to may be undefined: a further id is not looked up. -/
theorem not_all_defined_of_decorate : ¬ ∀ (settings : ModuleSettings) (os : List Operation)
    (m : ShaderModule), (Build.finish.runOn ((empty settings).after os)).1 = .ok m →
    ∀ i ∈ m.instructions, i.opcode = .decorate ∨ i.opcode = .memberDecorate →
      ∀ id ∈ i.references, id ∈ m.results := by
  intro hall
  obtain ⟨m, h, hmem⟩ := exists_danglingModule
  have hdefined : 99 ∈ m.results := hall {} danglingCalls m h _ hmem (.inl rfl) 99 (by decide)
  have hbound : m.header.bound = 2 := by
    obtain ⟨-, -, hbound, -⟩ := finished_eq_ok (finished_of_finish h)
    rw [hbound]
    decide +kernel
  have hless := (bounded_of_mem_results h hdefined).2
  rw [hbound] at hless
  exact absurd hless (by decide)

end Draft

end FrameShader
