/-
Resources: the variables of a module and what their decorations make of them.

A variable is new when it is decorated, so its first role is the one it is given here, and it keeps
it in the finished draft.

Main definitions:

* `FrameShader.Draft.Idle` — a draft between functions, with no built-in value in use;
* `FrameShader.Draft.Says` — the annotations about an id;
* `FrameShader.Program.Binds`, `FrameShader.Program.Holds` — variables with a role.

Main results:

* `FrameShader.Build.globalVariable_ensures` — a new variable is a pointer to itself;
* `FrameShader.Build.place_ensures` — **a resource is found in its slot**;
* `FrameShader.Build.builtInInput_ensures` — **a variable holds the built-in value it was made for**.
-/

import FrameShader.Proofs.Draft.Preserving
import FrameShader.Proofs.Execution.Functions

set_option relaxedAutoImplicit false
set_option autoImplicit false

namespace FrameShader

/-! ### Annotations about an id -/

/-- A role is given by an annotation about the variable. -/
theorem Instruction.mem_targets_of_role {v : Id} {i : Instruction} (h : i.role? v ≠ none) :
    v ∈ i.targets := by
  unfold role? at h
  split at h
  · next target builtIn hopcode hoperands =>
      have hsame : target = v := by
        by_contra hne
        exact h (if_neg hne)
      simp [targets, hopcode, hoperands, hsame]
  · next target binding hopcode hoperands =>
      have hsame : target = v := by
        by_contra hne
        exact h (if_neg hne)
      simp [targets, hopcode, hoperands, hsame]
  · exact absurd rfl h

/-- A descriptor set is given by an annotation about the variable. -/
theorem Instruction.mem_targets_of_descriptorSet {v : Id} {i : Instruction}
    (h : i.descriptorSet? v ≠ none) : v ∈ i.targets := by
  unfold descriptorSet? at h
  split at h
  · next target set hopcode hoperands =>
      have hsame : target = v := by
        by_contra hne
        exact h (if_neg hne)
      simp [targets, hopcode, hoperands, hsame]
  · exact absurd rfl h

/-- What is not picked does not matter if nothing is found in it. -/
theorem findSome?_filter {α β : Type} {f : α → Option β} {p : α → Bool} {xs : List α}
    (h : ∀ x, f x ≠ none → p x = true) : (xs.filter p).findSome? f = xs.findSome? f := by
  induction xs with
  | nil => rfl
  | cons x xs ih =>
      cases hp : p x with
      | true => rw [List.filter_cons_of_pos hp, List.findSome?_cons, List.findSome?_cons, ih]
      | false =>
          have hnone : f x = none := by
            by_contra hsome
            rw [h x hsome] at hp
            cases hp
          rw [List.filter_cons_of_neg (by rw [hp]; exact Bool.false_ne_true), List.findSome?_cons,
            hnone, ih]

namespace Draft

/-- No function is open, and no built-in value is in use. -/
def Idle (d : Draft) : Prop := d.current = none ∧ d.tables.builtIns = []

/-- These are the annotations about an id. -/
def Says (v : Id) (rows : List Instruction) (d : Draft) : Prop :=
  d.sections.annotations.filter (fun i => i.targets.contains v) = rows

variable {d : Draft} {v : Id} {rows : List Instruction}

theorem Idle.grows {d' : Draft} (h : d.Idle) (hgrows : d.Grows d') : d'.Idle :=
  ⟨hgrows.current.trans h.1, hgrows.builtIns.trans h.2⟩

/-- One more annotation about an id, with words of its own. -/
theorem Says.add (h : d.Says v rows) (hknows : d.KnowsAnnotations) {i : Instruction}
    (habout : IsAbout i v) (hnew : ∀ j ∈ rows, j.encode ≠ i.encode) :
    (d.addToAnnotations i).Says v (rows ++ [i]) := by
  unfold addToAnnotations
  split
  · next hcontains =>
      obtain ⟨j, hj, hsame⟩ := hknows.exists_of_contains hcontains
      obtain ⟨target, -, habout'⟩ := hknows.targets j hj
      have htail : j.tail = i.tail := (List.cons.inj hsame).2
      have htarget : target = v := by
        have hword := habout'.word
        rw [htail, habout.word] at hword
        exact (Option.some.inj hword).symm
      refine absurd hsame (hnew j ?_)
      rw [← show _ = rows from h, List.mem_filter]
      exact ⟨hj, by simp [habout'.targets, htarget]⟩
  · show (d.sections.annotations ++ [i]).filter _ = _
    rw [List.filter_append, show d.sections.annotations.filter _ = rows from h]
    simp [habout.targets]

/-- What the annotations about a variable make of it. -/
theorem Says.role (h : d.Says v rows) :
    d.sections.annotations.findSome? (·.role? v) = rows.findSome? (·.role? v) := by
  rw [← show _ = rows from h]
  refine (findSome?_filter fun i hi => ?_).symm
  simpa using Instruction.mem_targets_of_role hi

theorem Says.descriptorSet (h : d.Says v rows) :
    d.sections.annotations.findSome? (·.descriptorSet? v) = rows.findSome? (·.descriptorSet? v) := by
  rw [← show _ = rows from h]
  refine (findSome?_filter fun i hi => ?_).symm
  simpa using Instruction.mem_targets_of_descriptorSet hi

end Draft

namespace Program

/-- The variable is a pointer to itself. -/
def HasVariable (p : Program) (v : Id) : Prop :=
  (globalMeanings p.globals).lookup v = some (.pointer v [])

/-- The variable is bound to this resource. -/
structure Binds (p : Program) (v : Id) (resource : Resource) : Prop where
  variableOf : p.HasVariable v
  resource : p.resource? v = some resource

/-- The variable holds this built-in value. -/
structure Holds (p : Program) (v : Id) (builtIn : BuiltIn) : Prop where
  variableOf : p.HasVariable v
  builtIn : p.builtIn? v = some builtIn

end Program

namespace Build

variable {α : Type} {c : Account}

/-- A call that only learns of types leaves a draft idle. -/
theorem Ensures.idle {call : Build α}
    (h : ∀ a : Account, a.Consistent → Does False call a fun _ b => a.draft.Grows b.draft) :
    Ensures c.draft Draft.Idle call (fun _ => True) fun _ => Draft.Idle :=
  .of_does h fun _ _ _ _ _ _ hgrows hidle => ⟨trivial, hidle.grows hgrows⟩

/-! ### Variables -/

/-- **A new variable is a pointer to itself**, and nothing is said about it yet. -/
theorem globalVariable_ensures (storage : StorageClass) (t : DataType) :
    Ensures c.draft Draft.Idle (globalVariable storage t)
      (fun v => c.draft.program.HasVariable v.id) fun v d => d.Idle ∧ d.Says v.id [] := by
  intro a v d ha hrun hreach hidle
  obtain ⟨b, rfl, hb, -⟩ := (Regular.does a ha.consistent).of_ok ha hrun
  obtain ⟨type, e, htype, rfl, hd⟩ := runOn_globalVariable_ok hrun
  obtain ⟨b', rfl, hb', -, hinterns⟩ := (typeId_does _ ha.consistent).of_ok ha htype
  have hidle' := hidle.grows hinterns.2.grows
  have hmem : Instruction.typed .variable type b'.draft.nextId [.storageClass storage] ∈
      b.draft.sections.globals := by
    rw [hd]
    exact List.mem_append_right _ List.mem_cons_self
  refine ⟨hreach.lookup_globals ((hb.lookup_globals hmem rfl).trans rfl), ?_, ?_⟩
  · rw [hd]
    exact hidle'
  · rw [hd]
    refine List.filter_eq_nil_iff.2 fun i hi hcontains => ?_
    obtain ⟨target, htarget, habout⟩ := hb'.annotations.targets i hi
    have hsame : b'.draft.nextId = target := by simpa [habout.targets] using hcontains
    have hbefore := hb'.consistent.ids.subset (List.mem_append_left _ htarget)
    rw [← hsame] at hbefore
    exact absurd (mem_idsBefore.1 hbefore).2 (UInt32.lt_irrefl _)

/-! ### Decorations -/

/-- Adding a decoration. -/
theorem runOn_decorate_ok {target : Id} {decoration : Decoration} {operands : List Operand}
    {d d' : Draft} {v : Unit} (h : (decorate target decoration operands).runOn d = (.ok v, d')) :
    d' = d.addToAnnotations (.plain .decorate (.id target :: .decoration decoration :: operands)) := by
  rw [runOn_decorate] at h
  split at h <;> cases h
  rfl

/-- A decoration with words of its own is said about its target. -/
theorem decorate_ensures {v : Id} {rows : List Instruction} {decoration : Decoration}
    {operands : List Operand} (hnew : ∀ i ∈ rows,
      i.encode ≠ (Instruction.plain .decorate (.id v :: .decoration decoration :: operands)).encode) :
    Ensures c.draft (fun d => d.Idle ∧ d.Says v rows) (decorate v decoration operands)
      (fun _ => True) fun _ d => d.Idle ∧
        d.Says v (rows ++ [.plain .decorate (.id v :: .decoration decoration :: operands)]) := by
  intro a u d ha hrun hreach hboth
  obtain ⟨b, rfl, hb, -, halike⟩ := (decorate_does v decoration operands).of_ok ha hrun
  refine ⟨trivial, hboth.1.grows halike.grows, ?_⟩
  rw [runOn_decorate_ok hrun]
  exact hboth.2.add ha.annotations ⟨rfl, rfl⟩ hnew

/-- Annotations about a variable that do not put it into a slot; they are shorter than those that
do. -/
def Unplaced (v : Id) (rows : List Instruction) : Prop :=
  ∀ i ∈ rows, i.role? v = none ∧ i.descriptorSet? v = none ∧ i.tail.length < 3

/-- The draft is idle, and the variable is not in a slot yet. -/
def Awaits (v : Id) (d : Draft) : Prop := d.Idle ∧ ∃ rows, Unplaced v rows ∧ d.Says v rows

theorem descriptorBinding_ensures {v : Value} {rows : List Instruction} {set binding : Word}
    (hrows : Unplaced v.id rows) :
    Ensures c.draft (fun d => d.Idle ∧ d.Says v.id rows) (descriptorBinding v set binding)
      (fun _ => True) fun _ d => d.Idle ∧
        d.Says v.id (rows ++ [setRow v.id set] ++ [bindingRow v.id binding]) := by
  intro a u d ha hrun hreach hboth
  obtain ⟨⟨⟩, hslot, hrun⟩ := exists_of_inspect hrun
  have hstep : a.Change False False ⟨a.draft.addSlot set binding v.id, a.spare⟩ :=
    .note (.slot hslot)
  -- what was said before is of another length, so the rows of the slot are new
  have hlong : ∀ i ∈ rows, i.encode ≠ (setRow v.id set).encode ∧
      i.encode ≠ (bindingRow v.id binding).encode := by
    intro i hi
    obtain ⟨-, -, hshort⟩ := hrows i hi
    constructor <;>
      · intro hsame
        have hlength := congrArg List.length hsame
        rw [Instruction.length_encode, Instruction.length_encode] at hlength
        have hthree : i.tail.length = 3 := Nat.succ.inj hlength
        omega
  have hsecond : ∀ i ∈ rows ++ [setRow v.id set], i.encode ≠ (bindingRow v.id binding).encode := by
    refine List.forall_mem_append.2 ⟨fun i hi => (hlong i hi).2, List.forall_mem_singleton.2 ?_⟩
    intro hsame
    have htail := (List.cons.inj hsame).2
    have hcode := (List.cons.inj (List.cons.inj htail).2).1
    exact absurd hcode (by decide)
  have hcalls : Ensures c.draft (fun d => d.Idle ∧ d.Says v.id rows)
      (decorate v.id .descriptorSet [.literal set] >>= fun _ =>
        decorate v.id .binding [.literal binding]) (fun _ => True) _ :=
    .bind (decorate_ensures fun i hi => (hlong i hi).1) fun _ _ => decorate_ensures hsecond
  exact hcalls _ u d (ha.step hstep) hrun hreach hboth

/-- **A resource is found in its slot.** -/
theorem place_ensures (v : Value) (resource : Resource) (text : String) :
    Ensures c.draft (Awaits v.id) (ResourceInterface.place v resource text)
      (fun _ => c.draft.program.resource? v.id = some resource) fun _ => Draft.Idle := by
  rintro a u d ha hrun hreach ⟨hidle, rows, hrows, hsays⟩
  refine Ensures.bind ((descriptorBinding_ensures hrows).mono fun _ e he _ hboth => ⟨?_, hboth.1⟩)
    (fun _ hresource => Ensures.mono (.idle ?_) fun _ _ _ _ hd => ⟨hresource, hd⟩)
    a u d ha hrun hreach ⟨hidle, hsays⟩
  · refine Program.resource?_mono he.program ?_
    -- nothing said before gives the variable a role, so the two rows of its slot decide
    have hrole : rows.findSome? (·.role? v.id) = none :=
      List.findSome?_eq_none_iff.2 fun i hi => (hrows i hi).1
    have hset : rows.findSome? (·.descriptorSet? v.id) = none :=
      List.findSome?_eq_none_iff.2 fun i hi => (hrows i hi).2.1
    have hrole' := hboth.2.role
    have hset' := hboth.2.descriptorSet
    rw [List.findSome?_append, List.findSome?_append, hrole] at hrole'
    rw [List.findSome?_append, List.findSome?_append, hset] at hset'
    have hfind : Resource.all.find? (·.binding = resource.binding) = some resource := by
      cases resource <;> rfl
    have hrow : (setRow v.id descriptorSet).role? v.id = none := rfl
    have hrow' : (bindingRow v.id resource.binding).role? v.id = some (.bound resource.binding) :=
      if_pos rfl
    have hrow'' : (setRow v.id descriptorSet).descriptorSet? v.id = some descriptorSet := if_pos rfl
    simp only [List.findSome?_cons, hrow, hrow'] at hrole'
    simp only [List.findSome?_cons, hrow''] at hset'
    unfold Program.resource?
    rw [show e.program.annotations.findSome? (·.role? v.id) = _ from hrole',
      show e.program.annotations.findSome? (·.descriptorSet? v.id) = _ from hset']
    exact hfind
  · exact fun a _ => (name_does v.id text).mono fun _ _ _ halike => halike.grows

/-- A new variable for an opaque resource. -/
theorem uniformConstant_ensures (t : DataType) :
    Ensures c.draft Draft.Idle (uniformConstant t)
      (fun v => c.draft.program.HasVariable v.id) fun v => Awaits v.id :=
  (globalVariable_ensures .uniformConstant t).mono fun _ _ _ hv hd =>
    ⟨hv, hd.1, [], fun _ hi => absurd hi List.not_mem_nil, hd.2⟩

/-- A new buffer; that it is only read says nothing about its place. -/
theorem storageBuffer_ensures (element : DataType) (access : Access) :
    Ensures c.draft Draft.Idle (storageBuffer element access)
      (fun v => c.draft.program.HasVariable v.id) fun v => Awaits v.id := by
  show Ensures _ _ (do
    extension storageBufferExtension
    let blockId ← typeId (.record [.runtimeArray element])
    decorate blockId .block []
    decorateMember blockId 0 .offset [.literal 0]
    let v ← globalVariable .storageBuffer (.record [.runtimeArray element])
    if access = .readOnly then decorate v.id .nonWritable [] >>= fun _ => Pure.pure v
    else Pure.pure v) _ _
  refine .bind (.idle fun a _ => (extension_does _).mono fun _ _ _ h => h.grows) fun _ _ => ?_
  refine .bind (.idle fun a ha => (typeId_does _ ha).mono fun _ _ _ h => h.2.grows) fun block _ => ?_
  refine .bind (.idle fun a _ => (decorate_does _ _ _).mono fun _ _ _ h => h.grows) fun _ _ => ?_
  refine .bind (.idle fun a _ => (decorateMember_does _ _ _ _).mono fun _ _ _ h => h.grows)
    fun _ _ => ?_
  refine .bind (globalVariable_ensures .storageBuffer _) fun v hv => ?_
  by_cases haccess : access = .readOnly
  · rw [if_pos haccess]
    refine .bind (decorate_ensures fun _ hi => absurd hi List.not_mem_nil) fun _ _ =>
      .pure hv fun d hd => ⟨hd.1, _, ?_, hd.2⟩
    exact List.forall_mem_singleton.2 ⟨rfl, rfl, Nat.lt_succ_self 2⟩
  · rw [if_neg haccess]
    exact .pure hv fun d hd => ⟨hd.1, [], fun _ hi => absurd hi List.not_mem_nil, hd.2⟩

/-- A new variable that is decorated as a built-in value. -/
theorem decoratedInput_ensures (builtIn : BuiltIn) (t : DataType) :
    Ensures c.draft Draft.Idle (do
        let v ← globalVariable .input t
        decorate v.id .builtIn [.builtIn builtIn]
        return v)
      (fun v => c.draft.program.Holds v.id builtIn) fun _ => Draft.Closed := by
  refine .bind (globalVariable_ensures .input t) fun v hv => ?_
  refine .bind (T := fun _ => Draft.Idle) ((decorate_ensures fun _ hi => absurd hi List.not_mem_nil).mono
    fun _ d hreach _ hd => ⟨?_, hd.1⟩) fun _ hbuiltIn => .pure ⟨hv, hbuiltIn⟩ fun _ hd => hd.1
  refine Program.builtIn?_mono hreach.program ?_
  have hrole := hd.2.role
  unfold Program.builtIn?
  rw [show d.program.annotations.findSome? (·.role? v.id) = _ from hrole]
  simp [Instruction.role?, Instruction.plain]

/-- **A variable holds the built-in value it was made for.** -/
theorem builtInInput_ensures (builtIn : BuiltIn) (t : DataType) :
    Ensures c.draft Draft.Idle (builtInInput builtIn t)
      (fun v => c.draft.program.Holds v.id builtIn) fun _ => Draft.Closed := by
  intro a w d ha hrun hreach hidle
  have hnew : a.draft.tables.builtIns.lookup builtIn = none := by
    rw [hidle.2]
    rfl
  rw [builtInInput, runOn_bind_of_ok (runOn_get a.draft), hnew] at hrun
  have hrun' : (globalVariable .input t >>= fun v =>
      decorate v.id .builtIn [.builtIn builtIn] >>= fun _ =>
        modify (·.addBuiltIn builtIn v) >>= fun _ => Pure.pure v).runOn a.draft = (.ok w, d) := hrun
  obtain ⟨v, d₁, hvariable, hrun'⟩ := exists_of_bind hrun'
  obtain ⟨u, d₂, hdecorate, hrun'⟩ := exists_of_bind hrun'
  cases hrun'
  have hbefore : d₂.Reaches c.draft := ⟨⟨hreach.definitions.types, hreach.definitions.dataTypes,
    hreach.definitions.imports, hreach.definitions.globals, hreach.definitions.bodies⟩,
    hreach.program⟩
  refine decoratedInput_ensures builtIn t a w d₂ ha ?_ hbefore hidle
  rw [runOn_bind_of_ok hvariable, runOn_bind_of_ok hdecorate]
  rfl

end Build

end FrameShader
