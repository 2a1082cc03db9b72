/-
What calls ensure: the code that a call writes, and what it does when it runs in the end.

A call is described by what holds of the draft before and after it, and by what holds of its answer.
The latter is about the finished draft, in which everything that was written has its place: what an
id stands for there does not change while the draft is written.  So facts about answers need not be
carried along from call to call.

Main definitions:

* `FrameShader.Draft.Reaches` — a draft that a later one contains;
* `FrameShader.Build.Regular` — a call that only makes changes;
* `FrameShader.Build.Ensures` — what a call ensures about its answer and the draft;
* `FrameShader.Activation.Gives` — a call that adds instructions that fit to the body of a function.

Main results:

* `FrameShader.Build.Ensures.bind` — **one call after another**;
* `FrameShader.Activation.Gives.emit_of` — **a new result stands for the value of its instruction**.
-/

import FrameShader.Proofs.Draft.Composing
import FrameShader.Proofs.Execution.Activation

set_option relaxedAutoImplicit false
set_option autoImplicit false

namespace FrameShader

/-! ### Drafts on their way -/

/-- The draft `c` contains the definitions and the program of `d`. -/
structure Draft.Reaches (d c : Draft) : Prop where
  definitions : d.Extends c
  program : d.program.Within c.program

namespace Draft.Reaches

variable {d d' c : Draft}

theorem refl (d : Draft) : d.Reaches d := ⟨.refl d, .refl _⟩

theorem trans (h : d.Reaches d') (h' : d'.Reaches c) : d.Reaches c :=
  ⟨h.definitions.trans h'.definitions, h.program.trans h'.program⟩

/-- What a global stands for does not change. -/
theorem lookup_globals (h : d.Reaches c) {id : Id} {x : Meaning}
    (hx : (globalMeanings d.sections.globals).lookup id = some x) :
    (globalMeanings c.sections.globals).lookup id = some x :=
  lookup_of_isPrefix (globalMeanings_isPrefix h.definitions.globals) hx

end Draft.Reaches

namespace Build

variable {α β : Type}

/-! ### Regular calls -/

/-- A call that only makes changes. -/
class Regular (call : Build α) : Prop where
  does : ∀ a : Account, a.Consistent → Does False call a fun _ _ => True

namespace Regular

instance pure (v : α) : Regular (Pure.pure v) := ⟨fun _ _ => .pure trivial⟩

instance bind {call : Build α} {next : α → Build β} [h : Regular call]
    [hnext : ∀ v, Regular (next v)] : Regular (call >>= next) :=
  ⟨fun a ha => .bind ha (h.does a ha) fun v b hb _ => (hnext v).does b hb⟩

instance ite {p : Prop} [Decidable p] {call call' : Build α} [h : Regular call]
    [h' : Regular call'] : Regular (if p then call else call') := by
  split
  · exact h
  · exact h'

/-- What is made of operations only makes changes. -/
instance of_composed {call : Build α} [h : Composed call] : Regular call := ⟨h.does⟩

end Regular

/-- Where a regular call leads. -/
theorem Does.of_ok {call : Build α} {a : Account} {P : α → Account → Prop}
    (h : Does False call a P) (ha : a.Orderly) {v : α} {d : Draft}
    (hrun : call.runOn a.draft = (.ok v, d)) :
    ∃ b : Account, b.draft = d ∧ b.Orderly ∧ a.draft.Reaches d ∧ P v b := by
  unfold Does at h
  rw [hrun] at h
  obtain ⟨b, rfl, hchanges, hP⟩ := h
  exact ⟨b, rfl, ha.after hchanges,
    ⟨hchanges.extends ha.consistent, hchanges.program⟩, hP⟩

/-! ### Triples -/

/-- On a draft with `S` that ends up in the draft `c`, a call that succeeds answers something with
`P` and leaves behind a draft with `T`. -/
def Ensures (c : Draft) (S : Draft → Prop) (call : Build α) (P : α → Prop) (T : α → Draft → Prop) :
    Prop :=
  ∀ (a : Account) (v : α) (d : Draft), a.Orderly → call.runOn a.draft = (.ok v, d) →
    d.Reaches c → S a.draft → P v ∧ T v d

namespace Ensures

variable {c : Draft} {S : Draft → Prop} {P : α → Prop} {Q : β → Prop} {T : α → Draft → Prop}
  {U : β → Draft → Prop}

theorem pure {v : α} (h : P v) (hT : ∀ d, S d → T v d) : Ensures c S (Pure.pure v) P T := by
  intro a w d _ hrun _ hS
  cases hrun
  exact ⟨h, hT _ hS⟩

theorem reject {cause : BuildError} : Ensures c S (Build.reject cause) P T :=
  fun _ _ _ _ hrun => nomatch hrun

/-- Weaker claims, which may depend on where the draft ends up. -/
theorem mono {call : Build α} {P' : α → Prop} {T' : α → Draft → Prop} (h : Ensures c S call P T)
    (himp : ∀ v d, d.Reaches c → P v → T v d → P' v ∧ T' v d) : Ensures c S call P' T' := by
  intro a v d ha hrun hreach hS
  obtain ⟨hP, hT⟩ := h a v d ha hrun hreach hS
  exact himp v d hreach hP hT

/-- A stronger assumption. -/
theorem assuming {call : Build α} {S' : Draft → Prop} (h : Ensures c S call P T)
    (himp : ∀ d, S' d → S d) : Ensures c S' call P T :=
  fun a v d ha hrun hreach hS => h a v d ha hrun hreach (himp _ hS)

/-- **One call after another.** -/
theorem bind {call : Build α} {next : α → Build β} [hregular : Regular call]
    [hregular' : ∀ v, Regular (next v)] (h : Ensures c S call P T)
    (hnext : ∀ v, P v → Ensures c (T v) (next v) Q U) : Ensures c S (call >>= next) Q U := by
  intro a w d ha hrun hreach hS
  obtain ⟨v, d', hcall, hrun⟩ := exists_of_bind hrun
  obtain ⟨b, rfl, hb, -, -⟩ := (hregular.does a ha.consistent).of_ok ha hcall
  obtain ⟨-, -, -, hfurther, -⟩ := ((hregular' v).does b hb.consistent).of_ok hb hrun
  obtain ⟨hP, hT⟩ := h a v _ ha hcall (hfurther.trans hreach) hS
  exact hnext v hP b w d hb hrun hreach hT

/-- Going on with what the draft shows. -/
theorem inspect {view : Draft → Except BuildError α} {next : α → Build β}
    (h : ∀ v, Ensures c S (next v) Q U) : Ensures c S (Build.inspect view >>= next) Q U := by
  intro a w d ha hrun hreach hS
  obtain ⟨v, -, hrun⟩ := exists_of_inspect hrun
  exact h v a w d ha hrun hreach hS

/-- Going on with an answer that may be a rejection. -/
theorem ofExcept {answer : Except BuildError α} {next : α → Build β}
    (h : ∀ v, Ensures c S (next v) Q U) : Ensures c S (Build.ofExcept answer >>= next) Q U := by
  cases answer with
  | error cause => exact fun _ _ _ _ hrun => nomatch hrun
  | ok v => exact h v

/-- Going on with an answer that may be an overflow. -/
theorem ofArithmetic {answer : Except Overflow α} {next : α → Build β}
    (h : ∀ v, Ensures c S (next v) Q U) : Ensures c S (Build.ofArithmetic answer >>= next) Q U := by
  cases answer with
  | error operation => exact fun _ _ _ _ hrun => nomatch hrun
  | ok v => exact h v

/-- From what a call does. -/
theorem of_does {call : Build α} {R : Account → α → Account → Prop}
    (h : ∀ a : Account, a.Consistent → Does False call a (R a))
    (himp : ∀ a b v, a.Orderly → b.Orderly → b.draft.Reaches c → R a v b → S a.draft →
      P v ∧ T v b.draft) : Ensures c S call P T := by
  intro a v d ha hrun hreach hS
  obtain ⟨b, rfl, hb, -, hR⟩ := (h a ha.consistent).of_ok ha hrun
  exact himp a b v ha hb hreach hR hS

end Ensures

end Build

/-! ### Calls inside a function -/

namespace Activation

open Build

variable {α β : Type} {A : Activation}

/-- The function is open in the draft, and so far its instructions fit and write this. -/
def Open (A : Activation) (writes : List Write) (d : Draft) : Prop :=
  ∃ f, d.current = some f ∧ f.definition.result = A.function.definition.result ∧
    A.Performs f.body writes none

/-- What stands in the body so far stands in it in the end. -/
theorem within {d : Draft} {f : OpenFunction} {id : Id} (hreach : d.Reaches A.account.draft)
    (hf : d.current = some f) (hid : f.definition.result = some id)
    (hA : A.function.definition.result = some id) : f.closed.Within A.function := by
  have hmem : f.closed ∈ d.bodies := by
    rw [Draft.bodies_of_some hf]
    exact List.mem_append_right _ List.mem_cons_self
  obtain ⟨g, hg, hfg⟩ := hreach.definitions.bodies _ hmem
  have hgid : g.definition.result = some id := by rw [hfg.definition]; exact hid
  rw [← A.orderly.consistent.eq_of_function hg (List.mem_append_left _ A.isClosed) hgid hA]
  exact hfg

/-- Inside the function the call adds only instructions that fit and write nothing, and answers
something with `P`. -/
def Gives (A : Activation) (call : Build α) (P : α → Prop) : Prop :=
  ∀ writes, Ensures A.account.draft (A.Open writes) call P fun _ => A.Open writes

namespace Gives

variable {P : α → Prop} {Q : β → Prop}

theorem pure {v : α} (h : P v) : A.Gives (Pure.pure v) P := fun _ => .pure h fun _ hd => hd

theorem mono {call : Build α} {P' : α → Prop} (h : A.Gives call P) (hP : ∀ v, P v → P' v) :
    A.Gives call P' :=
  fun writes => (h writes).mono fun v _ _ hv hd => ⟨hP v hv, hd⟩

/-- One call after another. -/
theorem bind {call : Build α} {next : α → Build β} [Regular call] [∀ v, Regular (next v)]
    (h : A.Gives call P) (hnext : ∀ v, P v → A.Gives (next v) Q) : A.Gives (call >>= next) Q :=
  fun writes => .bind (h writes) fun v hv => hnext v hv writes

theorem inspect {view : Draft → Except BuildError α} {next : α → Build β}
    (h : ∀ v, A.Gives (next v) Q) : A.Gives (Build.inspect view >>= next) Q :=
  fun writes => .inspect fun v => h v writes

theorem ofExcept {answer : Except BuildError α} {next : α → Build β}
    (h : ∀ v, A.Gives (next v) Q) : A.Gives (Build.ofExcept answer >>= next) Q :=
  fun writes => .ofExcept fun v => h v writes

theorem ofArithmetic {answer : Except Overflow α} {next : α → Build β}
    (h : ∀ v, A.Gives (next v) Q) : A.Gives (Build.ofArithmetic answer >>= next) Q :=
  fun writes => .ofArithmetic fun v => h v writes

/-- A call that leaves the open function alone. -/
theorem of_does {call : Build α} {R : α → Account → Prop}
    (h : ∀ a : Account, a.Consistent → Does False call a fun v b =>
      b.draft.current = a.draft.current ∧ R v b)
    (hP : ∀ v b, b.Orderly → b.draft.Reaches A.account.draft → R v b → P v) : A.Gives call P := by
  intro writes
  refine .of_does h fun a b v _ hb hreach hR hopen => ⟨hP v b hb hreach hR.2, ?_⟩
  obtain ⟨f, hf, hrest⟩ := hopen
  exact ⟨f, hR.1.trans hf, hrest⟩

/-- Asking for something that leaves the open function alone, and going on. -/
theorem quietly {call : Build α} {next : α → Build β} {R : α → Draft → Prop} {P : β → Prop}
    {U : β → Draft → Prop} {writes : List Write}
    (h : ∀ a : Account, a.Consistent → Does False call a fun v b =>
      b.draft.current = a.draft.current ∧ R v b.draft)
    (hnext : ∀ v, Ensures A.account.draft (fun d => A.Open writes d ∧ R v d) (next v) P U) :
    Ensures A.account.draft (A.Open writes) (call >>= next) P U := by
  intro a w d ha hrun hreach hopen
  obtain ⟨v, d', hcall, hrun⟩ := exists_of_bind hrun
  obtain ⟨b, rfl, hb, -, hcurrent, hR⟩ := (h a ha.consistent).of_ok ha hcall
  obtain ⟨f, hf, hrest⟩ := hopen
  exact hnext v b w d hb hrun hreach ⟨⟨f, hcurrent.trans hf, hrest⟩, hR⟩

/-- **A new result stands for the value of its instruction**, which may depend on what the draft
has. -/
theorem emit_of {R : Draft → Prop} {opcode : Opcode} {type : Id} {operands : List Operand}
    {xs : List Meaning} {x : Meaning} {writes : List Write}
    (hxs : ∀ id, List.Forall₂ A.Means (Instruction.typed opcode type id operands).arguments xs)
    (hx : ∀ id d, R d → d.Reaches A.account.draft →
      A.effect (.typed opcode type id operands) xs = some (.value x [])) :
    Ensures A.account.draft (fun d => A.Open writes d ∧ R d) (emitValue opcode type operands)
      (fun v => A.Means v.id x) fun _ => A.Open writes := by
  intro a v d ha hrun hreach hboth
  obtain ⟨⟨f, hf, hdefinition, hperforms⟩, hR⟩ := hboth
  obtain ⟨-, rfl, rfl⟩ := runOn_emitValue_ok hrun
  have hf' : (a.draft.takeId.addRecord (idRecord a.draft.nextId)).current = some f := hf
  rw [Draft.addResult_eq hf'] at hreach ⊢
  -- the function may be continued later, but what it has by now stays
  have hlonger := (Draft.Extends.of_body hf' [.typed opcode type a.draft.nextId operands]
    ((a.draft.nextId, type) :: f.locals) f.terminated).trans hreach.definitions
  have hbefore : a.draft.Reaches A.account.draft :=
    ⟨⟨hlonger.types, hlonger.dataTypes, hlonger.imports, hlonger.globals, hlonger.bodies⟩,
      hreach.program⟩
  have hvalue := hx a.draft.nextId a.draft hR hbefore
  obtain ⟨control, type', hkept⟩ := (ha.consistent.current f hf).definition
  have hid : f.definition.result = some f.id := by
    rw [hkept]
    rfl
  have hwithin := within hreach rfl hid (hdefinition.symm.trans hid)
  have hmem := hwithin.body.subset (List.mem_append_right f.body List.mem_cons_self)
  have hmeans : A.Means a.draft.nextId x := .result hmem rfl (hxs _) hvalue
  refine ⟨hmeans, _, rfl, hdefinition, ?_⟩
  have hperforms' :=
    hperforms.value (i := .typed opcode type a.draft.nextId operands) rfl (hxs _) hvalue
  rwa [List.append_nil] at hperforms'

/-- A new result stands for the value of its instruction. -/
theorem emit {opcode : Opcode} {type : Id} {operands : List Operand} {xs : List Meaning} {x : Meaning}
    (hxs : ∀ id, List.Forall₂ A.Means (Instruction.typed opcode type id operands).arguments xs)
    (hx : ∀ id, A.effect (.typed opcode type id operands) xs = some (.value x [])) :
    A.Gives (emitValue opcode type operands) fun v => A.Means v.id x := by
  intro _ a v d ha hrun hreach hopen
  exact emit_of (R := fun _ => True) hxs (fun id _ _ _ => hx id) a v d ha hrun hreach ⟨hopen, trivial⟩

/-- A new result whose type is asked for first. -/
theorem emitTyped {opcode : Opcode} {t : DataType} {operands : List Operand} {xs : List Meaning}
    {x : Meaning}
    (hxs : ∀ type id, List.Forall₂ A.Means (Instruction.typed opcode type id operands).arguments xs)
    (hx : ∀ type id, A.effect (.typed opcode type id operands) xs = some (.value x [])) :
    A.Gives (typeId t >>= fun type => emitValue opcode type operands) fun v => A.Means v.id x := by
  intro writes
  refine quietly (R := fun _ _ => True) (fun a ha => ?_) fun type =>
    emit_of (hxs type) fun id _ _ _ => hx type id
  exact (typeId_does t ha).mono fun _ b _ hb => ⟨hb.2.grows.current, trivial⟩

end Gives

end Activation

end FrameShader
