/-
Agreeing: calls on two drafts that look the same.

Whatever relates two drafts that look the same to calls, and is kept by the few steps that calls are
made of, is kept by every call, and the answers are the same.  Relating a draft to itself, a property
of drafts that the steps keep is kept by every call.

The one place where a call looks at settings is the naming of a new type, which is done only if names
are kept.  It cannot fail, because the type has just been defined, and it changes nothing but names.

Main definitions:

* `FrameShader.Build.Agree`, `FrameShader.Build.Agrees` — calls that cannot be told apart on related
  drafts;
* `FrameShader.Draft.Lasting`, `FrameShader.Operation.Respects` — a relation that is kept by steps.

Main results:

* `FrameShader.Build.intern_agrees` — naming a new type cannot be noticed;
* `FrameShader.Build.Made.agrees`, `FrameShader.Operation.run_agrees` — **every call keeps what its
  steps keep**;
* `FrameShader.Draft.step_keeps`, `FrameShader.Draft.after_keeps` — the same of a property of drafts.
-/

import FrameShader.Proofs.Draft.Making

set_option relaxedAutoImplicit false
set_option autoImplicit false

namespace FrameShader

/-! ### Calls that cannot be told apart -/

namespace Build

variable {α β γ δ : Type}

/-- Two calls fail alike, or both succeed with answers that are related by `R`. -/
inductive Alike (R : α → β → Prop) : Except Failure α → Except Failure β → Prop
  | ok {v : α} {w : β} (h : R v w) : Alike R (.ok v) (.ok w)
  | error (e : Failure) : Alike R (.error e) (.error e)

/-- On drafts that are related by `Q`, the calls answer alike, and what they leave behind is related
again. -/
def Agree (Q : Draft → Draft → Prop) (R : α → β → Prop) (call : Build α) (call' : Build β) : Prop :=
  ∀ d d', Q d d' →
    Alike R (call.runOn d).1 (call'.runOn d').1 ∧ Q (call.runOn d).2 (call'.runOn d').2

/-- The call answers the same on related drafts, and keeps them related. -/
def Agrees (Q : Draft → Draft → Prop) (call : Build α) : Prop := Agree Q Eq call call

theorem Alike.of_eq {answer answer' : Except Failure α} (h : answer = answer') :
    Alike Eq answer answer' := by
  subst h
  cases answer with
  | ok v => exact .ok rfl
  | error e => exact .error e

theorem Alike.eq {answer answer' : Except Failure α} (h : Alike Eq answer answer') :
    answer = answer' := by
  cases h with
  | ok h => rw [h]
  | error e => rfl

/-- A call that does not notice `f`, on a draft and on what `f` makes of it. -/
theorem Agrees.commutes {f : Draft → Draft} {call : Build α}
    (h : Agrees (fun d d' => d' = f d) call) : Commutes f call := by
  intro d
  obtain ⟨hanswer, hleft⟩ := h d (f d) rfl
  exact Prod.ext hanswer.eq.symm hleft

theorem Commutes.agree {f : Draft → Draft} {call : Build α} (h : Commutes f call) :
    Agree (fun d d' => d' = f d) Eq call call := by
  rintro d _ rfl
  rw [h d]
  exact ⟨.of_eq rfl, rfl⟩

/-- A call that does not notice `f`, on two drafts of which `f` makes the same. -/
theorem Commutes.agree_of_eq {f : Draft → Draft} {call : Build α} (h : Commutes f call) :
    Agree (fun d d' => f d = f d') Eq call call := by
  intro d d' hsame
  have hrun := h d
  rw [hsame, h d', Prod.mk.injEq] at hrun
  exact ⟨.of_eq hrun.1.symm, hrun.2.symm⟩

namespace Agree

variable {Q : Draft → Draft → Prop} {R : α → β → Prop} {S : γ → δ → Prop}

/-- One call after another. -/
theorem bind {call : Build α} {call' : Build β} {next : α → Build γ} {next' : β → Build δ}
    (h : Agree Q R call call') (hnext : ∀ v w, R v w → Agree Q S (next v) (next' w)) :
    Agree Q S (call >>= next) (call' >>= next') := by
  intro d d' hsame
  obtain ⟨hanswer, hleft⟩ := h d d' hsame
  rw [runOn_bind, runOn_bind]
  generalize call.runOn d = r at hanswer hleft ⊢
  generalize call'.runOn d' = r' at hanswer hleft ⊢
  rcases r with ⟨answer, e⟩
  rcases r' with ⟨answer', e'⟩
  cases hanswer with
  | ok hvw => exact hnext _ _ hvw e e' hleft
  | error cause => exact ⟨.error cause, hleft⟩

/-- A common first call. -/
theorem after {call : Build α} {next : α → Build γ} {next' : α → Build δ} (h : Agree Q Eq call call)
    (hnext : ∀ v, Agree Q S (next v) (next' v)) : Agree Q S (call >>= next) (call >>= next') := by
  refine .bind h ?_
  rintro v _ rfl
  exact hnext v

/-- Changes that keep drafts related. -/
theorem modify {g g' : Draft → Draft} (h : ∀ d d', Q d d' → Q (g d) (g' d')) :
    Agree Q Eq (modify g : Build PUnit) (modify g' : Build PUnit) :=
  fun d d' hsame => ⟨.ok rfl, h d d' hsame⟩

end Agree

end Build
/-! ### Relations that steps keep -/

/-- The two drafts look the same to every call, and the steps that calls have in common keep the
relation. -/
class Draft.Lasting (Q : Draft → Draft → Prop) : Prop where
  sight {d d' : Draft} (h : Q d d') : d.sight = d'.sight
  step {d d' : Draft} {f : Draft → Draft} (hf : Draft.Step f) (h : Q d d') : Q (f d) (f d')

/-- The steps of the operation keep the relation. -/
def Operation.Respects (Q : Draft → Draft → Prop) (o : Operation) : Prop :=
  ∀ {f : Draft → Draft}, o.Effect f → ∀ d d', Q d d' → Q (f d) (f d')

/-! ### Calls, step by step -/

namespace Build

variable {α β : Type} {Q : Draft → Draft → Prop}

namespace Agrees

theorem pure (a : α) : Agrees Q (Pure.pure a) := fun _ _ h => ⟨.ok rfl, h⟩

theorem reject (cause : BuildError) : Agrees Q (Build.reject cause : Build α) :=
  fun _ _ h => ⟨.error _, h⟩

theorem overflow (operation : Overflow) : Agrees Q (throw (.overflow operation) : Build α) :=
  fun _ _ h => ⟨.error _, h⟩

theorem ofExcept (answer : Except BuildError α) : Agrees Q (Build.ofExcept answer) := by
  cases answer with
  | ok a => exact pure a
  | error cause => exact reject cause

theorem change {f : Draft → Draft} (h : ∀ d d', Q d d' → Q (f d) (f d')) :
    Agrees Q (modify f : Build PUnit) := Agree.modify h

/-- One call after another. -/
theorem bind {call : Build α} {next : α → Build β} (hcall : Agrees Q call)
    (hnext : ∀ a, Agrees Q (next a)) : Agrees Q (call >>= next) := Agree.after hcall hnext

/-- Rejecting if something holds, and going on if not. -/
theorem guard {p : Prop} [Decidable p] {cause : BuildError} {next : PUnit → Build α}
    (h : Agrees Q (next ⟨⟩)) : Agrees Q (if p then Build.reject cause >>= next else next ⟨⟩) := by
  split
  · exact bind (reject cause) fun _ => h
  · exact h

section lasting

variable [hQ : Draft.Lasting Q]

theorem step {f : Draft → Draft} (hf : Draft.Step f) : Agrees Q (modify f : Build PUnit) :=
  change fun _ _ => hQ.step hf

/-- Looking at what calls may look at. -/
theorem inspect {view : Draft → Except BuildError α} (h : ∀ d, view d = view d.sight) :
    Agrees Q (Build.inspect view) := by
  intro d d' hsame
  rw [runOn_inspect, runOn_inspect, h d, h d', hQ.sight hsame]
  exact ⟨.of_eq rfl, hsame⟩

/-- Going on with what calls may look at. -/
theorem get {next : Draft → Build α} (hnext : ∀ d, Agrees Q (next d))
    (h : ∀ d, next d = next d.sight) : Agrees Q (MonadState.get >>= next) := by
  intro d d' hsame
  rw [runOn_bind_of_ok (runOn_get d), runOn_bind_of_ok (runOn_get d'), h d, h d',
    ← hQ.sight hsame]
  exact hnext d.sight d d' hsame

end lasting

end Agrees

section lasting

variable [hQ : Draft.Lasting Q]

theorem record_agrees (level : LogLevel) (message : String) : Agrees Q (record level message) :=
  .step (.record _)

theorem freshId_agrees : Agrees Q freshId := by
  intro d d' hsame
  have hnext := congrArg Draft.nextId (hQ.sight hsame)
  rw [runOn_freshId, runOn_freshId, show d.nextId = d'.nextId from hnext]
  split
  · exact ⟨.ok rfl, hQ.step (.record _) (hQ.step .take hsame)⟩
  · exact ⟨.error _, hsame⟩

theorem capability_agrees (c : Capability) : Agrees Q (capability c) := .step (.capability c)

/-! ### Types -/

/-- Naming what is defined succeeds. -/
theorem runOn_name_of_isDefined {d : Draft} {target : Id} (h : d.isDefined target = true)
    (text : String) : (name target text).runOn d =
      (.ok (), d.addName target none (.plain .debugName [.id target, .text text])) := by
  have hvisible : d.isVisible target = true := by simp [Draft.isVisible, h]
  rw [name, runOn_bind, runOn_inspect, if_pos hvisible]
  rfl

/-- What is left to do for a new type: it is named if names are kept. -/
def nameType (t : DataType) (id : Id) : Build Id := do
  if (← get).settings.debugSymbols then name id t.text
  return id

/-- Naming a type that is defined succeeds; it changes nothing if names are not kept. -/
theorem runOn_nameType {t : DataType} {id : Id} {d : Draft}
    (hid : d.tables.dataTypes.lookup id = some t) : (nameType t id).runOn d =
      (.ok id, d.addName id none (.plain .debugName [.id id, .text t.text])) := by
  rw [nameType, runOn_bind_of_ok (runOn_get d)]
  cases hsymbols : d.settings.debugSymbols with
  | false =>
      have hsame : d.addName id none (.plain .debugName [.id id, .text t.text]) = d := by
        simp [Draft.addName, hsymbols]
      rw [hsame]
      rfl
  | true =>
      have hdefined : d.isDefined id = true := by simp [Draft.isDefined, hid]
      rw [if_pos rfl, runOn_bind_of_ok (runOn_name_of_isDefined hdefined t.text)]
      rfl

/-- What is done to complete the definition of the type `t` does not depend on the draft. -/
def Completes (t : DataType) (complete : Id → Build Unit) : Prop :=
  ∀ id opcode operands, ∃ answer, ∃ f : Draft → Draft, Draft.Step f ∧ ∀ d,
    (complete id).runOn (d.addTypeDefinition id t opcode operands) = (answer, f d) ∧
      (f d).tables.dataTypes.lookup id = some t

theorem complete_completes {t : DataType}
    (h : ∀ element stride, t = .runtimeArray element → element.size ≠ .ok stride) :
    Completes t complete :=
  fun id opcode operands =>
    ⟨.ok (), _, .defineType id opcode operands h, fun _ => ⟨rfl, List.lookup_cons_self⟩⟩

/-- An array is decorated with its stride, unless the size of its elements is no word. -/
theorem stride_completes (element : DataType) : Completes (.runtimeArray element) (fun id => do
    let stride ← ofArithmetic element.size
    decorate id .arrayStride [.literal stride]) := by
  intro id opcode operands
  cases hsize : element.size with
  | error operation =>
      refine ⟨.error (.overflow operation), _, .defineType id opcode operands ?_, fun d => ⟨rfl, ?_⟩⟩
      · rintro _ stride ⟨rfl⟩ hstride
        cases hsize.symm.trans hstride
      · exact List.lookup_cons_self
  | ok stride =>
      refine ⟨.ok (), _, .defineArray id opcode operands hsize, fun d => ?_⟩
      have hlookup : (d.addTypeDefinition id (.runtimeArray element) opcode
          operands).tables.dataTypes.lookup id = some (.runtimeArray element) :=
        List.lookup_cons_self
      constructor
      · show (decorate id .arrayStride [.literal stride]).runOn _ = _
        rw [decorate, annotate, runOn_bind, runOn_inspect, if_pos (by simp [Draft.isDefined, hlookup])]
        rfl
      · rw [← hlookup]
        unfold Draft.addToAnnotations
        split <;> rfl

/-- **Naming a new type cannot be noticed**: the type is defined, so it can be named. -/
theorem intern_agrees {t : DataType} {definition : Build (Opcode × List Operand)}
    {complete : Id → Build Unit} (hdefinition : Agrees Q definition)
    (hcomplete : Completes t complete) : Agrees Q (intern t definition complete) := by
  refine .get (fun d => ?_) fun _ => rfl
  cases d.tables.types.lookup t with
  | some id => exact .pure id
  | none =>
      refine .bind hdefinition ?_
      rintro ⟨opcode, operands⟩
      refine .bind freshId_agrees fun id d d' hsame => ?_
      obtain ⟨answer, f, hf, hrun⟩ := hcomplete id opcode operands
      let g : Draft → Draft := (·.addTypeDefinition id t opcode operands)
      show Alike Eq ((complete id >>= fun _ => nameType t id).runOn (g d)).1
          ((complete id >>= fun _ => nameType t id).runOn (g d')).1 ∧
        Q ((complete id >>= fun _ => nameType t id).runOn (g d)).2
          ((complete id >>= fun _ => nameType t id).runOn (g d')).2
      rw [runOn_bind, runOn_bind, (hrun d).1, (hrun d').1]
      cases answer with
      | error e => exact ⟨.error e, hQ.step hf hsame⟩
      | ok u =>
          simp only [runOn_nameType (hrun d).2, runOn_nameType (hrun d').2]
          exact ⟨.ok rfl, hQ.step (.name _ _ _) (hQ.step hf hsame)⟩

theorem scalarId_agrees (s : Scalar) : Agrees Q (scalarId s) := by
  refine intern_agrees ?_ (complete_completes nofun)
  cases s with
  | float width =>
      show Agrees Q (if width = 64 then _ else _)
      split
      · exact .bind (capability_agrees _) fun _ => .pure _
      · exact .pure _
  | _ => exact .pure _

theorem imageId_agrees (shape : ImageShape) : Agrees Q (imageId shape) :=
  intern_agrees (.bind (scalarId_agrees _) fun _ => .pure _) (complete_completes nofun)

end lasting

mutual

theorem typeId_agrees [Draft.Lasting Q] : ∀ t : DataType, Agrees Q (typeId t)
  | .scalar s => scalarId_agrees s
  | .vector s width => by
      refine intern_agrees (.bind (.ofExcept _) fun _ => .guard ?_) (complete_completes nofun)
      exact .bind (scalarId_agrees s) fun _ => .pure _
  | .runtimeArray element =>
      intern_agrees (.bind (typeId_agrees element) fun _ => .pure _) (stride_completes element)
  | .record members =>
      intern_agrees (.bind (typeIds_agrees members) fun _ => .pure _) (complete_completes nofun)
  | .pointer _ pointee =>
      intern_agrees (.bind (typeId_agrees pointee) fun _ => .pure _) (complete_completes nofun)
  | .image shape => imageId_agrees shape
  | .sampler => intern_agrees (.pure _) (complete_completes nofun)
  | .sampledImage inner => by
      refine intern_agrees ?_ (complete_completes nofun)
      cases inner with
      | image shape => exact .bind (imageId_agrees shape) fun _ => .pure _
      | _ => exact .reject _
  | .function result parameters =>
      intern_agrees (.bind (typeId_agrees result) fun _ =>
        .bind (typeIds_agrees parameters) fun _ => .pure _) (complete_completes nofun)

theorem typeIds_agrees [Draft.Lasting Q] : ∀ ts : List DataType, Agrees Q (typeIds ts)
  | [] => .pure []
  | t :: ts => .bind (typeId_agrees t) fun _ => .bind (typeIds_agrees ts) fun _ => .pure _

end
/-! ### Calls that are made of steps -/

/-- **A call keeps what the steps keep that it is made of.** -/
theorem Made.agrees [hQ : Draft.Lasting Q] {E : (Draft → Draft) → Prop}
    (hE : ∀ {f : Draft → Draft}, E f → ∀ d d', Q d d' → Q (f d) (f d')) {call : Build α}
    (h : Made E call) : Agrees Q call := by
  induction h with
  | pure v => exact .pure v
  | reject cause => exact .reject cause
  | overflow operation => exact .overflow operation
  | inspect h => exact .inspect h
  | get _ h ih => exact .get ih h
  | bind _ _ ih ihnext => exact .bind ih ihnext
  | freshId => exact freshId_agrees
  | typeId t => exact typeId_agrees t
  | step hf => exact .step hf
  | effect hf => exact .change (hE hf)

/-- Names may be given as well. -/
theorem Made.agrees_of_naming [hQ : Draft.Lasting Q] {E : (Draft → Draft) → Prop}
    (hE : ∀ {f : Draft → Draft}, E f → ∀ d d', Q d d' → Q (f d) (f d')) {call : Build α}
    (h : Made (Naming E) call) : Agrees Q call := by
  refine h.agrees fun hf => ?_
  cases hf with
  | effect hf => exact hE hf
  | name target member i => exact fun _ _ => hQ.step (.name target member i)

/-- A call that is only made of the steps that calls have in common. -/
theorem Made.agrees_of_steps [Draft.Lasting Q] {call : Build α}
    (h : Made (Naming fun _ => False) call) : Agrees Q call := h.agrees_of_naming False.elim

end Build

open Build

/-- **Every call keeps what its steps keep.** -/
theorem Operation.run_agrees {Q : Draft → Draft → Prop} [Draft.Lasting Q] (o : Operation)
    (h : o.Respects Q) : Agrees Q o.run := o.run_made.agrees_of_naming h

/-! ### Properties of drafts -/

/-- A call that keeps a property leaves behind a draft that has it. -/
theorem Build.Agrees.keeps {α : Type} {P : Draft → Prop} {call : Build α}
    (h : Agrees (fun d d' => d = d' ∧ P d) call) {d : Draft} (hd : P d) : P (call.runOn d).2 :=
  (h d d ⟨rfl, hd⟩).2.2

namespace Draft

variable {P : Draft → Prop}

/-- A property that the steps of all calls keep relates each draft that has it to itself. -/
theorem Lasting.of_property (h : ∀ {f : Draft → Draft} {d : Draft}, Step f → P d → P (f d)) :
    Lasting fun d d' => d = d' ∧ P d where
  sight hsame := congrArg Draft.sight hsame.1
  step hf hsame := ⟨congrArg _ hsame.1, h hf hsame.2⟩

/-- The steps of the operation keep the property. -/
theorem respects_of_property {o : Operation}
    (h : ∀ {f : Draft → Draft} {d : Draft}, o.Effect f → P d → P (f d)) :
    o.Respects fun d d' => d = d' ∧ P d :=
  fun hf _ _ hsame => ⟨congrArg _ hsame.1, h hf hsame.2⟩

/-- **A property that the steps of a call keep is kept by the call.** -/
theorem step_keeps (hstep : ∀ {f : Draft → Draft} {d : Draft}, Step f → P d → P (f d))
    {o : Operation} (heffect : ∀ {f : Draft → Draft} {d : Draft}, o.Effect f → P d → P (f d))
    {d : Draft} (hd : P d) : P (d.step o) := by
  have := Lasting.of_property (P := P) hstep
  exact (o.run_agrees (respects_of_property (P := P) heffect)).keeps hd

/-- **So it is kept by every run.** -/
theorem after_keeps (hstep : ∀ {f : Draft → Draft} {d : Draft}, Step f → P d → P (f d))
    {os : List Operation} (heffect : ∀ o ∈ os, ∀ {f : Draft → Draft} {d : Draft},
      o.Effect f → P d → P (f d)) {d : Draft} (hd : P d) : P (d.after os) := by
  induction os generalizing d with
  | nil => exact hd
  | cons o os ih =>
      exact ih (fun p hp => heffect p (List.mem_cons_of_mem o hp))
        (step_keeps hstep (heffect o List.mem_cons_self) hd)

end Draft

end FrameShader
