/-
Building a module, and what stays so all the while.

A module is built by operations in any order, and by declaring the resources of a kernel in between,
which is a call made of operations.  What every single one of them keeps is kept until the module is
finished: the tables tell what is written, arrays have their strides, and the built-in values in use
have their variables.

Main definitions:

* `FrameShader.BuildStep`, `FrameShader.Draft.build` — an operation, or declaring the resources of a
  kernel, and the draft after some of them;
* `FrameShader.Account.Ready` — what is known of a draft at all times;
* `FrameShader.Draft.Packed` — strides and places are as the draft itself gives them.

Main results:

* `FrameShader.Account.Ready.build` — **building only makes changes**;
* `FrameShader.Draft.build_keeps` — **what the steps of all calls keep is kept while a module is
  built**;
* `FrameShader.Draft.furnished_build`, `FrameShader.Draft.packed_build` — strides are there, and no
  others.
-/

import FrameShader.Kernel.Interface
import FrameShader.Proofs.Draft.Composing
import FrameShader.Proofs.Draft.Decoding
import FrameShader.Proofs.Draft.Striding

set_option relaxedAutoImplicit false
set_option autoImplicit false

-- Declaring resources is a long call, and every step of it has to be seen to be composed.
set_option synthInstance.maxSize 50000

namespace FrameShader

open Build

/-! ### Building a module -/

/-- One step of building a module: an operation, or declaring the resources of a kernel. -/
inductive BuildStep where
  | operation (o : Operation)
  | resources (p : Precision)

/-- The operation says how far apart the elements of an array are, or where a member of a record is. -/
def Operation.laysOut : Operation → Bool
  | .decorate _ decoration _ => decoration == .arrayStride
  | .decorateMember _ _ decoration _ => decoration == .offset
  | _ => false

namespace Draft

/-- The draft after one step, whether it succeeds or fails. -/
def advance (d : Draft) : BuildStep → Draft
  | .operation o => d.step o
  | .resources p => ((ResourceInterface.declare p).runOn d).2

/-- The draft after some steps. -/
def build (d : Draft) (steps : List BuildStep) : Draft := steps.foldl advance d

@[simp] theorem build_nil (d : Draft) : d.build [] = d := rfl

@[simp] theorem build_cons (d : Draft) (step : BuildStep) (steps : List BuildStep) :
    d.build (step :: steps) = (d.advance step).build steps := rfl

theorem build_append (d : Draft) (steps later : List BuildStep) :
    d.build (steps ++ later) = (d.build steps).build later := List.foldl_append

end Draft

namespace Build

namespace Composed

instance place (v : Value) (resource : Resource) (text : String) :
    Composed (ResourceInterface.place v resource text) := by
  unfold ResourceInterface.place
  infer_instance

instance declare (p : Precision) : Composed (ResourceInterface.declare p) := by
  unfold ResourceInterface.declare
  infer_instance

end Composed

variable {α : Type} {a : Account}

/-- Where a call leads, whether it succeeds or fails. -/
theorem Does.exists_changes {short : Prop} {call : Build α} {P : α → Account → Prop}
    (h : Does short call a P) :
    ∃ b : Account, b.draft = (call.runOn a.draft).2 ∧ a.Changes short True b := by
  unfold Does at h
  generalize call.runOn a.draft = r at h ⊢
  rcases r with ⟨e | v, d⟩
  · obtain ⟨b, hb, hchanges⟩ := h
    exact ⟨b, hb, hchanges.mono fun _ => trivial⟩
  · obtain ⟨b, hb, hchanges, -⟩ := h
    exact ⟨b, hb, hchanges.mono False.elim⟩

end Build

/-! ### What every step keeps -/

/-- A draft that can be looked up in: its tables tell what is written, its annotations are told apart
by their words, and the built-in values in use are known. -/
structure Account.Ready (a : Account) : Prop where
  consistent : a.Consistent
  annotated : a.draft.Annotated
  knows : a.draft.KnowsBuiltIns

namespace Account.Ready

variable {a b : Account} {short exhausted : Prop}

theorem after (h : a.Ready) (hab : a.Changes short exhausted b) : b.Ready where
  consistent := h.consistent.after hab
  annotated := hab.annotated h.annotated
  knows := hab.knowsBuiltIns h.consistent h.knows

theorem empty (settings : ModuleSettings) : Account.Ready ⟨Draft.empty settings, []⟩ where
  consistent := .empty settings
  annotated := .empty settings
  knows := fun _ _ h => nomatch h

/-- **A step only makes changes.** -/
theorem advance (h : a.Ready) (step : BuildStep) :
    ∃ b : Account, b.draft = a.draft.advance step ∧ a.Changes False True b := by
  cases step with
  | operation o =>
      obtain ⟨b, hb, hchanges, -⟩ := Draft.step_changes False o h.consistent False.elim
      exact ⟨b, hb, hchanges.mono fun _ => trivial⟩
  | resources p => exact ((Composed.declare p).does a h.consistent).exists_changes

/-- **So do some steps, one after another.** -/
theorem build (h : a.Ready) (steps : List BuildStep) :
    ∃ b : Account, b.draft = a.draft.build steps ∧ a.Changes False True b := by
  induction steps generalizing a with
  | nil => exact ⟨a, rfl, .refl a⟩
  | cons step steps ih =>
      obtain ⟨b, hb, hab⟩ := h.advance step
      obtain ⟨c, hc, hbc⟩ := ih (h.after hab)
      rw [hb] at hc
      exact ⟨c, hc, hab.trans hbc⟩

end Account.Ready

namespace ResourceInterface

/-- Declaring resources keeps what the steps of the operations keep that it is made of. -/
theorem declare_agrees {Q : Draft → Draft → Prop} [Draft.Lasting Q] (p : Precision)
    (h : ∀ o : Operation, o.laysOut = false → o.Respects Q) : Agrees Q (declare p) := by
  have hbuffer (element : DataType) (access : Access) : Agrees Q (storageBuffer element access) :=
    (storageBuffer_made element access).agrees (h (.storageBuffer element access) rfl)
  have hplace (v : Value) (resource : Resource) (text : String) :
      Agrees Q (place v resource text) :=
    .bind ((descriptorBinding_made _ _ _).agrees (h (.descriptorBinding _ _ _) rfl)) fun _ =>
      (name_made _ _).agrees_of_steps
  have hvariable (storage : StorageClass) (t : DataType) : Agrees Q (globalVariable storage t) :=
    (globalVariable_made storage t).agrees_of_steps
  refine .bind (hvariable _ _) fun sampler => .bind (hplace _ _ _) fun _ => ?_
  refine .bind (hvariable _ _) fun image => .bind (hplace _ _ _) fun _ => ?_
  refine .bind (hbuffer _ _) fun coordinates => .bind (hplace _ _ _) fun _ => ?_
  refine .bind (hbuffer _ _) fun network => .bind (hplace _ _ _) fun _ => ?_
  refine .bind ((builtInInput_made _ _).agrees (h (.builtInInput _ _) rfl)) fun globalId => ?_
  exact .bind (name_made _ _).agrees_of_steps fun _ => .bind (record_agrees _ _) fun _ => .pure _

end ResourceInterface

namespace Draft

/-- **A property that the steps of all calls keep is kept while a module is built.**  Operations that
lay something out count only if they are among the steps. -/
theorem build_keeps {P : Draft → Prop}
    (hstep : ∀ {f : Draft → Draft} {d : Draft}, Step f → P d → P (f d)) {steps : List BuildStep}
    (heffect : ∀ o : Operation, o.laysOut = false ∨ .operation o ∈ steps →
      ∀ {f : Draft → Draft} {d : Draft}, o.Effect f → P d → P (f d))
    {d : Draft} (hd : P d) : P (d.build steps) := by
  have := Lasting.of_property (P := P) hstep
  induction steps generalizing d with
  | nil => exact hd
  | cons step steps ih =>
      refine ih (fun o ho => heffect o (ho.imp_right (List.mem_cons_of_mem step))) ?_
      cases step with
      | operation o => exact step_keeps hstep (heffect o (.inr List.mem_cons_self)) hd
      | resources p =>
          have hrespects (o : Operation) (ho : o.laysOut = false) :
              o.Respects fun d d' => d = d' ∧ P d := respects_of_property (heffect o (.inl ho))
          exact (ResourceInterface.declare_agrees p hrespects).keeps hd

/-- **Arrays have their strides and built-in values their variables**, however a module is built. -/
theorem furnished_build (settings : ModuleSettings) (steps : List BuildStep) :
    ((empty settings).build steps).Furnished := by
  have hempty : (empty settings).Furnished := ⟨fun _ _ _ h => (nomatch h), fun _ _ h => (nomatch h)⟩
  exact build_keeps Furnished.of_step (fun _ _ _ _ => Furnished.of_effect) hempty

/-! ### Layouts that nobody else has touched -/

/-- What is said of the strides of arrays and the places of members is what the draft says of its own
accord: the packed size of the elements, and the beginning of the record. -/
structure Packed (d : Draft) : Prop where
  strides : ∀ array operands,
    .plain .decorate (.id array :: .decoration .arrayStride :: operands) ∈ d.sections.annotations →
    ∃ element stride, (array, .runtimeArray element) ∈ d.tables.dataTypes ∧
      element.size = .ok stride ∧ operands = [.literal stride]
  offsets : ∀ block member operands,
    .plain .memberDecorate (.id block :: .literal member :: .decoration .offset :: operands) ∈
      d.sections.annotations → member = 0 ∧ operands = [.literal 0]

namespace Packed

variable {d d' : Draft}

/-- Nothing is said that was not said before. -/
theorem of_kept (h : d.Packed) (htypes : d.tables.dataTypes ⊆ d'.tables.dataTypes)
    (hannotations : d'.sections.annotations = d.sections.annotations) : d'.Packed where
  strides array operands hi := by
    rw [hannotations] at hi
    obtain ⟨element, stride, hmem, hsize, hoperands⟩ := h.strides array operands hi
    exact ⟨element, stride, htypes hmem, hsize, hoperands⟩
  offsets block member operands hi := by
    rw [hannotations] at hi
    exact h.offsets block member operands hi

theorem of_bare (h : d.Packed) (hsame : d'.bare = d.bare) : d'.Packed := by
  refine h.of_kept ?_ (view_eq hsame (·.sections.annotations) fun _ => rfl)
  rw [view_eq hsame (·.tables.dataTypes) fun _ => rfl]
  exact List.Subset.refl _

/-- One more annotation, which says something right if it says anything of these things. -/
theorem addToAnnotations (h : d.Packed) {i : Instruction}
    (hstrides : ∀ array operands,
      i = .plain .decorate (.id array :: .decoration .arrayStride :: operands) →
      ∃ element stride, (array, .runtimeArray element) ∈ d.tables.dataTypes ∧
        element.size = .ok stride ∧ operands = [.literal stride])
    (hoffsets : ∀ block member operands,
      i = .plain .memberDecorate (.id block :: .literal member :: .decoration .offset :: operands) →
      member = 0 ∧ operands = [.literal 0]) : (d.addToAnnotations i).Packed := by
  unfold Draft.addToAnnotations
  split
  · exact h
  · refine ⟨fun array operands hj => ?_, fun block member operands hj => ?_⟩
    · rcases List.mem_append.1 hj with hj | hj
      · exact h.strides array operands hj
      · exact hstrides array operands (List.mem_singleton.1 hj).symm
    · rcases List.mem_append.1 hj with hj | hj
      · exact h.offsets block member operands hj
      · exact hoffsets block member operands (List.mem_singleton.1 hj).symm

/-- An annotation that says nothing of these things. -/
theorem addOther (h : d.Packed) {i : Instruction}
    (hstrides : ∀ array operands,
      i ≠ .plain .decorate (.id array :: .decoration .arrayStride :: operands))
    (hoffsets : ∀ block member operands,
      i ≠ .plain .memberDecorate
        (.id block :: .literal member :: .decoration .offset :: operands)) :
    (d.addToAnnotations i).Packed :=
  h.addToAnnotations (fun array operands hi => absurd hi (hstrides array operands))
    fun block member operands hi => absurd hi (hoffsets block member operands)

/-- **The steps that calls have in common keep layouts packed.** -/
theorem of_step {f : Draft → Draft} (hf : Step f) (h : d.Packed) : (f d).Packed := by
  have hrefl := List.Subset.refl d.tables.dataTypes
  cases hf with
  | defineType id opcode operands => exact h.of_kept (List.subset_cons_self _ _) rfl
  | @defineArray element stride id opcode operands hsize =>
      have hdefined : (d.addTypeDefinition id (.runtimeArray element) opcode operands).Packed :=
        h.of_kept (List.subset_cons_self _ _) rfl
      refine hdefined.addToAnnotations (fun array operands hi => ?_) fun _ _ _ hi => nomatch hi
      cases hi
      exact ⟨element, stride, List.mem_cons_self, hsize, rfl⟩
  | capability c => exact h.of_bare (d.bare_addCapability c)
  | name target member i => exact h.of_bare (d.bare_addName target member i)
  | defineConstant key => cases key <;> exact h.of_kept hrefl rfl
  | _ => exact h.of_kept hrefl rfl

/-- **So do the steps of operations that lay nothing out.** -/
theorem of_effect {o : Operation} (ho : o.laysOut = false) {f : Draft → Draft} (hf : o.Effect f)
    (h : d.Packed) : (f d).Packed := by
  have hrefl := List.Subset.refl d.tables.dataTypes
  cases hf with
  | decorate id decoration operands =>
      refine h.addOther (fun array rest hi => ?_) fun _ _ _ hi => nomatch hi
      cases hi
      nomatch ho
  | decorateMember id member decoration operands =>
      refine h.addOther (fun _ _ hi => nomatch hi) fun block member rest hi => ?_
      cases hi
      nomatch ho
  | set | binding | block | nonWritable =>
      exact h.addOther (fun _ _ hi => nomatch hi) fun _ _ _ hi => nomatch hi
  | offset element access id =>
      refine h.addToAnnotations (fun _ _ hi => nomatch hi) fun block member operands hi => ?_
      cases hi
      exact ⟨rfl, rfl⟩
  | builtIn builtIn t type id =>
      have hvariable : (d.addGlobalValue .variable type id [.storageClass .input]).Packed :=
        h.of_kept hrefl rfl
      have hrow := hvariable.addOther (i := builtInRow id builtIn) (fun _ _ hi => nomatch hi)
        fun _ _ _ hi => nomatch hi
      exact hrow.of_kept (List.Subset.refl _) rfl
  | extension | bufferExtension => exact h.of_bare (d.bare_addExtension _)
  | source language version => exact h.of_bare (d.bare_addSource language version)
  | _ => exact h.of_kept hrefl rfl

end Packed

/-- **Layouts are packed** if none of the steps lays anything out by hand. -/
theorem packed_build (settings : ModuleSettings) {steps : List BuildStep}
    (hsteps : ∀ o, .operation o ∈ steps → o.laysOut = false) :
    ((empty settings).build steps).Packed := by
  have hempty : (empty settings).Packed :=
    ⟨fun _ _ h => absurd h List.not_mem_nil, fun _ _ _ h => absurd h List.not_mem_nil⟩
  exact build_keeps Packed.of_step
    (fun o ho _ _ => Packed.of_effect (ho.elim id (hsteps o))) hempty

end Draft

end FrameShader
