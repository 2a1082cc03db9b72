/-
Refusing: calls that change nothing when they are refused.

A call that fails keeps what it did before it failed.  Many calls have done nothing by then: they
look at all of their operands first, and what they do afterwards cannot be refused, it can only run
out of ids.  Some of them ask for a type in between.  Where it is the type of a part of an operand,
the draft knows it already, because it knows all pieces of what it knows, and so asking changes
nothing.

Main definitions:

* `FrameShader.Build.RefusesFirst` — a call that, if it is refused, has changed nothing;
* `FrameShader.Operation.isAtomic` — the operations of which this is true;
* `FrameShader.Draft.effective` — a run without the calls of this kind that are refused.

Main results:

* `FrameShader.Draft.Reachable.exists_interned` — the pieces of what can be seen are known;
* `FrameShader.Operation.run_refusesFirst` — what each operation does before it can be refused;
* `FrameShader.Draft.rejected_unchanged` — **refused calls change nothing**;
* `FrameShader.Draft.after_effective` — they can be left out of a run.
-/

import FrameShader.Proofs.Draft.Affording
import FrameShader.Proofs.Draft.Attempting

set_option relaxedAutoImplicit false
set_option autoImplicit false

namespace FrameShader

open Build

/-! ### Drafts that calls lead to -/

namespace Draft.Reachable

variable {d d' : Draft}

theorem step (hd : d.Reachable) (o : Operation) : (d.step o).Reachable := by
  obtain ⟨settings, os, rfl⟩ := hd
  exact ⟨settings, os ++ [o], (after_append _ os [o]).symm⟩

theorem of_run (hd : d.Reachable) {α : Type} {call : Build α} {f : α → Answer} {o : Operation}
    {answer : Except Failure α} (ho : o.run = f <$> call) (hrun : call.runOn d = (answer, d')) :
    d'.Reachable := by
  have hstep : d.step o = d' := by rw [Draft.step, ho, runOn_map, hrun]
  exact hstep ▸ hd.step o

theorem of_typeId (hd : d.Reachable) {t : DataType} {answer : Except Failure Id}
    (hrun : (typeId t).runOn d = (answer, d')) : d'.Reachable :=
  hd.of_run (o := .typeId t) (f := .id) rfl hrun

/-- A type that is found by its id is found again by its structure. -/
theorem interned (hd : d.Reachable) {t : DataType} {type : Id}
    (ht : d.tables.dataTypes.lookup type = some t) : d.Interned t type := by
  obtain ⟨settings, a, rfl, ha, hchanges⟩ := hd.exists_account
  exact (hchanges.unique (.empty settings)).interned ha ht

/-- **The pieces of what can be seen are known.** -/
theorem exists_interned (hd : d.Reachable) {v : Value} {t u : DataType} (hv : d.Sees v t)
    (hu : u ∈ t.pieces) : ∃ id, d.Interned u id :=
  knows_iff.1 (hd.thorough.pieces (hd.interned hv.2).knows u hu)

/-- Asking for a piece of what can be seen changes nothing. -/
theorem exists_typeId (hd : d.Reachable) {v : Value} {t u : DataType} (hv : d.Sees v t)
    (hu : u ∈ t.pieces) : ∃ id, (typeId u).runOn d = (.ok id, d) := by
  obtain ⟨id, hid⟩ := hd.exists_interned hv hu
  exact ⟨id, typeId_of_interned hid⟩

/-- A constant that is found again can be seen. -/
theorem exists_typeOf? (hd : d.Reachable) {key : ConstantKey} {id : Id}
    (hkey : d.tables.constants.lookup key = some id) : ∃ type, d.typeOf? id = some type := by
  obtain ⟨settings, a, rfl, ha, -⟩ := hd.exists_account
  obtain ⟨c, type, -, -, hmem⟩ := ha.exists_constant hkey
  exact ⟨type, ha.typeOf?_of_mem hmem (c.valueRow?_definition type id)⟩

end Draft.Reachable

namespace Build

variable {α β : Type} {d d' : Draft} {n : Nat}

/-! ### Rules -/

/-- If the call is refused, then it has changed nothing. -/
def RefusesFirst (call : Build α) (d : Draft) : Prop :=
  ∀ cause d', call.runOn d = (.error (.rejected cause), d') → d' = d

theorem Affords.not_rejected {call : Build α} {cause : BuildError} (h : Affords n call d) :
    call.runOn d ≠ (.error (.rejected cause), d') := by
  intro hrun
  rcases h with ⟨v, e, hok, -⟩ | ⟨herror, -⟩
  · cases hok.symm.trans hrun
  · rw [hrun] at herror
    cases herror

namespace RefusesFirst

variable {call : Build α} {next : α → Build β}

/-- A call that fails for want of ids alone is never refused. -/
theorem of_affords (h : Affords n call d) : RefusesFirst call d :=
  fun _ _ hrun => absurd hrun h.not_rejected

theorem reject {cause : BuildError} : RefusesFirst (Build.reject cause : Build α) d := by
  intro _ d' hrun
  cases hrun
  rfl

/-- What comes after a refusal is not reached. -/
theorem of_refused {e : Failure} (hrun : call.runOn d = (.error e, d)) :
    RefusesFirst (call >>= next) d := by
  intro cause d' hbind
  rw [runOn_bind, hrun] at hbind
  exact (Prod.ext_iff.1 hbind).2.symm

/-- Going on after a call that changes nothing. -/
theorem after {v : α} (hrun : call.runOn d = (.ok v, d)) (h : RefusesFirst (next v) d) :
    RefusesFirst (call >>= next) d := by
  unfold RefusesFirst
  rwa [runOn_bind_of_ok hrun]

/-- Going on with the draft. -/
theorem get {next : Draft → Build β} (h : RefusesFirst (next d) d) :
    RefusesFirst (MonadState.get >>= next) d :=
  after (runOn_get d) h

/-- Going on with an answer that may be a rejection. -/
theorem ofExcept {answer : Except BuildError α}
    (h : ∀ v, answer = .ok v → RefusesFirst (next v) d) :
    RefusesFirst (Build.ofExcept answer >>= next) d := by
  cases answer with
  | error cause => exact reject
  | ok v => exact after rfl (h v rfl)

/-- Going on with what the draft shows. -/
theorem inspect {view : Draft → Except BuildError α}
    (h : ∀ v, view d = .ok v → RefusesFirst (next v) d) :
    RefusesFirst (Build.inspect view >>= next) d := by
  unfold RefusesFirst
  rw [runOn_inspect_bind]
  exact ofExcept h

/-- Going on with something that cannot be refused any more. -/
theorem bind (h : RefusesFirst call d)
    (hnext : ∀ v d', call.runOn d = (.ok v, d') → Affords n (next v) d') :
    RefusesFirst (call >>= next) d := by
  intro cause d' hrun
  rw [runOn_bind] at hrun
  rcases hcall : call.runOn d with ⟨e | v, e⟩
  · rw [hcall] at hrun
    cases hrun
    exact h cause _ hcall
  · rw [hcall] at hrun
    exact absurd hrun (hnext v e hcall).not_rejected

/-- Rephrasing an answer. -/
theorem map (h : RefusesFirst call d) (f : α → β) : RefusesFirst (f <$> call) d := by
  intro cause d' hrun
  rw [runOn_map] at hrun
  rcases hcall : call.runOn d with ⟨e | v, e⟩
  · rw [hcall] at hrun
    cases hrun
    exact h cause _ hcall
  · rw [hcall] at hrun
    cases hrun

end RefusesFirst

/-! ### Instructions -/

/-- Whether the open function takes an instruction is found out before the instruction is added. -/
theorem emitValue_refusesFirst (opcode : Opcode) (type : Id) (operands : List Operand) :
    RefusesFirst (emitValue opcode type operands) d :=
  .inspect fun _ _ => .of_affords (n := 1) (.freshId (n := 0) (.change .pure rfl))

theorem emitVoid_refusesFirst (opcode : Opcode) (operands : List Operand) :
    RefusesFirst (emitVoid opcode operands) d :=
  .inspect fun _ _ => .of_affords (n := 0) (.of_ok (runOn_modify _ d) rfl)

/-- An instruction whose result is of a known type. -/
theorem emitKnown_refusesFirst {v : Value} {t u : DataType} (hd : d.Reachable) (hv : d.Sees v t)
    (hu : u ∈ t.pieces) (opcode : Opcode) (operands : List Operand) :
    RefusesFirst (typeId u >>= fun type => emitValue opcode type operands) d := by
  obtain ⟨id, hrun⟩ := hd.exists_typeId hv hu
  exact .after hrun (emitValue_refusesFirst opcode id operands)

theorem floatBinary_refusesFirst (opcode : Opcode) (a b : Value) :
    RefusesFirst (floatBinary opcode a b) d :=
  .inspect fun _ _ => emitValue_refusesFirst _ _ _

theorem vectorTimesScalar_refusesFirst (vector scalar : Value) :
    RefusesFirst (vectorTimesScalar vector scalar) d :=
  .inspect fun _ _ => emitValue_refusesFirst _ _ _

/-- The component of a vector is one of its pieces. -/
theorem dot_refusesFirst (hd : d.Reachable) (a b : Value) : RefusesFirst (dot a b) d := by
  refine .inspect fun component hcheck => ?_
  obtain ⟨width, ha, -, -, -⟩ := Draft.dotOf_ok hcheck
  exact emitKnown_refusesFirst hd ha (by simp [DataType.pieces, DataType.inner]) _ _

theorem select_refusesFirst (condition accept refuse : Value) :
    RefusesFirst (select condition accept refuse) d :=
  .inspect fun _ _ => emitValue_refusesFirst _ _ _

theorem compositeExtract_refusesFirst (hd : d.Reachable) (vector : Value) (index : Word) :
    RefusesFirst (compositeExtract vector index) d := by
  refine .inspect fun component hcheck => ?_
  obtain ⟨width, hv, -⟩ := Draft.extraction_ok hcheck
  exact emitKnown_refusesFirst hd hv (by simp [DataType.pieces, DataType.inner]) _ _

/-- What a pointer points to is one of its pieces. -/
theorem load_refusesFirst (hd : d.Reachable) (pointer : Value) : RefusesFirst (load pointer) d := by
  refine .inspect fun (storage, pointee) hcheck => ?_
  have hpointer := Draft.pointerOperand_ok hcheck
  refine emitKnown_refusesFirst hd hpointer ?_ _ _
  exact List.mem_append_left _ pointee.self_mem_pieces

theorem store_refusesFirst (pointer value : Value) : RefusesFirst (store pointer value) d :=
  .inspect fun _ _ => emitVoid_refusesFirst _ _

theorem callFunction_refusesFirst (function : Id) (args : List Value) :
    RefusesFirst (callFunction function args) d :=
  .inspect fun _ _ => emitValue_refusesFirst _ _ _

/-! ### Constants -/

/-- A constant whose definition is at hand is found or added. -/
theorem internConstant_affords (hd : d.Reachable) (key : ConstantKey)
    (x : Opcode × Id × List Operand) : Affords 1 (internConstant key (return x)) d := by
  unfold internConstant
  refine .get ?_
  cases hknown : d.tables.constants.lookup key with
  | some id =>
      obtain ⟨type, htype⟩ := hd.exists_typeOf? hknown
      refine .get ?_
      rw [htype]
      exact .change .pure rfl
  | none =>
      refine .step rfl rfl (.freshId (n := 0) (.change .pure ?_))
      cases key <;> rfl

/-- A constant whose literal suits its type needs an id for the type and one for itself. -/
theorem constantScalar_affords (hd : d.Reachable) {t : DataType} {value : Literal}
    (hsuits : value.suits t = .ok ()) : Affords 2 (constantScalar t value) d := by
  obtain ⟨s, rfl⟩ : ∃ s, t = .scalar s := by
    cases t with
    | scalar s => exact ⟨s, rfl⟩
    | _ => cases hsuits
  unfold constantScalar
  rw [hsuits]
  have hpassed : (ofExcept (.ok ()) : Build Unit).runOn d = (.ok (), d) := rfl
  refine .step hpassed rfl (.bind (m := 1) (n := 1) (scalarId_affords s) ?_)
  intro type e hrun
  exact internConstant_affords (hd.of_typeId (t := .scalar s) hrun) _ _

theorem constantScalar_refusesFirst (hd : d.Reachable) (t : DataType) (value : Literal) :
    RefusesFirst (constantScalar t value) d := by
  cases hsuits : value.suits t with
  | ok => exact .of_affords (constantScalar_affords hd hsuits)
  | error cause =>
      unfold constantScalar
      rw [hsuits]
      exact .of_refused (e := .rejected cause) rfl

theorem constFloat_refusesFirst (hd : d.Reachable) (s : Scalar) (value : Float64Bits) :
    RefusesFirst (constFloat s value) d := by
  cases s with
  | float width => exact constantScalar_refusesFirst hd _ _
  | _ => exact .reject

/-- Whether there are such vectors is found out before their component is asked for. -/
theorem vectorId_refusesFirst (s : Scalar) (width : Word) :
    RefusesFirst (typeId (.vector s width)) d := by
  by_cases hdefinable : (DataType.vector s width).isDefinable = true
  · exact .of_affords (typeId_affords _ hdefinable)
  · refine .get ?_
    cases d.tables.types.lookup (.vector s width) with
    | some id => exact .of_affords (n := 0) .pure
    | none =>
        by_cases hwidth : isVectorWidth width = true
        · have hs : s = .void := by simpa [DataType.isDefinable, hwidth] using hdefinable
          refine .of_refused (e := .rejected
            (.typeMismatch .typeVector "scalar component" s.text)) ?_
          have hvector : DataType.vector? s width = .ok (.vector s width) := if_pos hwidth
          rw [hvector, runOn_bind_of_ok (runOn_ofExcept _ d), if_pos hs]
          rfl
        · have hvector : DataType.vector? s width = .error (.invalidVectorWidth width) :=
            if_neg hwidth
          refine .of_refused (e := .rejected (.invalidVectorWidth width)) ?_
          rw [hvector]
          rfl

theorem constantComposite_refusesFirst (hd : d.Reachable) (t : DataType) (values : List Value) :
    RefusesFirst (constantComposite t values) d := by
  refine .inspect fun _ hcheck => ?_
  obtain ⟨s, rfl, -⟩ := Draft.compositeOf_ok hcheck
  exact .bind (vectorId_refusesFirst s _) fun type e hrun =>
    internConstant_affords (hd.of_typeId hrun) _ _

/-! ### Functions -/

theorem freshParameters_affords : ∀ (types : List Id) {d : Draft},
    Affords types.length (freshParameters types) d
  | [], _ => .pure
  | type :: types, d => by
      rw [List.length_cons, Nat.add_comm]
      exact .freshId (.bind (n := 0) (freshParameters_affords types) fun _ _ _ => .pure)

theorem freshBody_affords (types : List Id) : Affords (types.length + 1) (freshBody types) d :=
  .bind (freshParameters_affords types) fun _ _ _ => .freshId (n := 0) .pure

theorem announce_affords (handle : FunctionHandle) (text : String)
    (h : d.isVisible handle.id = true) : Affords 0 (announce handle text) d :=
  .bind (m := 0) (n := 0) (name_affords h text) fun _ _ _ => .change .pure rfl

/-- A function with a known signature is opened. -/
theorem enterFunction_affords (id : Id) (text : String) (s : Signature)
    (control : FunctionControl) :
    Affords (s.parameters.length + 1) (enterFunction id text s control) d := by
  refine .bind (n := 0) (freshBody_affords _) ?_
  rintro ⟨values, label⟩ e -
  have hvisible : (e.openBody (.start id s control values label) s).isVisible id = true := by
    simp [Draft.isVisible, Draft.isDefined, Draft.openBody, OpenFunction.start]
  exact .change (announce_affords ⟨id, s.type, s.result, values⟩ text hvisible) rfl

/-- A function without parameters and without a result is opened. -/
theorem openFunction_affords (id : Id) (text : String) (control : FunctionControl) :
    Affords ((DataType.function .void []).parts + (DataType.void.parts + 1))
      (openFunction id text .void [] control) d := by
  have hunfold : openFunction id text .void [] control =
      typeId (.function .void []) >>= fun type => typeId .void >>= fun result =>
        enterFunction id text ⟨type, result, []⟩ control := by
    simp [openFunction, signature, typeIds]
  rw [hunfold]
  refine .bind (typeId_affords _ rfl) fun type _ _ =>
    .bind (typeId_affords .void rfl) fun result _ _ => ?_
  exact enterFunction_affords id text ⟨type, result, []⟩ control

theorem beginFunction_refusesFirst (text : String) (control : FunctionControl) :
    RefusesFirst (beginFunction text .void [] control) d :=
  .inspect fun _ _ => .of_affords (.freshId (openFunction_affords _ text control))

theorem beginEntryPoint_refusesFirst (text : String) (interface : List Value) :
    RefusesFirst (beginEntryPoint text interface) d :=
  .inspect fun _ _ => .bind (beginFunction_refusesFirst text .none) fun _ _ _ =>
    .change (n := 0) .pure rfl

theorem executionMode_refusesFirst (entryPoint : Id) (mode : ExecutionMode) (literals : List Word) :
    RefusesFirst (executionMode entryPoint mode literals) d :=
  .inspect fun _ _ => .of_affords (n := 0) (.of_ok (runOn_modify _ d) rfl)

theorem endFunction_refusesFirst : RefusesFirst endFunction d := by
  refine .get ?_
  cases d.current with
  | none => exact .reject
  | some f =>
      by_cases hterminated : f.terminated = true
      · simp only [hterminated]
        exact .of_affords (n := 0) (.change (.of_ok (runOn_modify _ _) rfl) rfl)
      · simp only [hterminated]
        exact .reject

/-! ### Annotations and names -/

theorem annotate_refusesFirst (target : Id) (i : Instruction) :
    RefusesFirst (annotate target i) d :=
  .inspect fun _ _ => .of_affords (n := 0) (.of_ok (runOn_modify _ d) (d.nextId_addToAnnotations i))

theorem decorateMember_refusesFirst (target : Id) (member : Word) (decoration : Decoration)
    (operands : List Operand) : RefusesFirst (decorateMember target member decoration operands) d :=
  .inspect fun _ _ => annotate_refusesFirst _ _

theorem addName_affords (target : Id) (member : Option Word) (i : Instruction) :
    Affords n (modify (·.addName target member i) : Build Unit) d :=
  .of_ok (runOn_modify _ d) (Draft.view_eq (d.bare_addName _ _ _) Draft.nextId fun _ => rfl)

theorem name_refusesFirst (target : Id) (text : String) : RefusesFirst (name target text) d :=
  .inspect fun _ _ => .of_affords (n := 0) (addName_affords _ _ _)

theorem nameMember_refusesFirst (target : Id) (member : Word) (text : String) :
    RefusesFirst (nameMember target member text) d :=
  .inspect fun _ _ => .of_affords (n := 0) (addName_affords _ _ _)

end Build

/-! ### Operations -/

/-- These calls look at everything before they do anything. -/
def Operation.isAtomic : Operation → Bool
  | .fAdd .. | .fSub .. | .fMul .. | .fMod .. | .vectorTimesScalar .. | .dot .. | .select ..
  | .compositeExtract .. | .load .. | .store .. | .callFunction ..
  | .constantScalar .. | .constFloat .. | .constantComposite ..
  | .beginEntryPoint .. | .executionMode .. | .localSize .. | .endFunction
  | .decorate .. | .decorateMember .. | .name .. | .nameMember .. => true
  | _ => false

/-- What each of these operations does before it can be refused. -/
theorem Operation.run_refusesFirst {d : Draft} (hd : d.Reachable) (o : Operation)
    (ho : o.isAtomic = true) : RefusesFirst o.run d := by
  cases o with
  | fAdd a b => exact .map (floatBinary_refusesFirst _ a b) _
  | fSub a b => exact .map (floatBinary_refusesFirst _ a b) _
  | fMul a b => exact .map (floatBinary_refusesFirst _ a b) _
  | fMod a b => exact .map (floatBinary_refusesFirst _ a b) _
  | vectorTimesScalar v s => exact .map (vectorTimesScalar_refusesFirst v s) _
  | dot a b => exact .map (dot_refusesFirst hd a b) _
  | select c a r => exact .map (select_refusesFirst c a r) _
  | compositeExtract v i => exact .map (compositeExtract_refusesFirst hd v i) _
  | load p => exact .map (load_refusesFirst hd p) _
  | store p v => exact .map (store_refusesFirst p v) _
  | callFunction f args => exact .map (callFunction_refusesFirst f args) _
  | constantScalar t x => exact .map (constantScalar_refusesFirst hd t x) _
  | constFloat s x => exact .map (constFloat_refusesFirst hd s x) _
  | constantComposite t vs => exact .map (constantComposite_refusesFirst hd t vs) _
  | beginEntryPoint text vs => exact .map (beginEntryPoint_refusesFirst text vs) _
  | executionMode id mode ws => exact .map (executionMode_refusesFirst id mode ws) _
  | localSize id x y z => exact .map (executionMode_refusesFirst id _ _) _
  | endFunction => exact .map endFunction_refusesFirst _
  | decorate id x ops => exact .map (annotate_refusesFirst id _) _
  | decorateMember id m x ops => exact .map (decorateMember_refusesFirst id m x ops) _
  | name id text => exact .map (name_refusesFirst id text) _
  | nameMember id m text => exact .map (nameMember_refusesFirst id m text) _
  | _ => cases ho

namespace Draft

variable {d : Draft} {o : Operation} {cause : BuildError}

/-- **Refused calls change nothing.**  On any draft that calls lead to, if one of these calls is
refused, whatever its arguments, then the draft is the one it was: no id is handed out, every
section and every table is the same, and so is the open function. -/
theorem rejected_unchanged (hd : d.Reachable) (ho : o.isAtomic = true)
    (hrun : (o.run.runOn d).1 = .error (.rejected cause)) : d.step o = d :=
  o.run_refusesFirst hd ho cause (d.step o) (Prod.ext hrun rfl)

/-- Calls that add a function of a vector, which has returned. -/
def returnedCalls : List Operation :=
  [.beginFunction "f" .void [.vector (.float 32) 3] .none, .returnFunction none]

/-- The product of the vector with itself is refused after its type was asked for. -/
theorem rejected_unchanged_of_dot :
    ((empty {}).after returnedCalls).Reachable ∧
    ((Operation.dot ⟨6, 4⟩ ⟨6, 4⟩).run.runOn ((empty {}).after returnedCalls)).1 =
      .error (.rejected (.blockTerminated .dot)) ∧
    ((empty {}).after returnedCalls).step (.dot ⟨6, 4⟩ ⟨6, 4⟩) =
      (empty {}).after returnedCalls := by
  have hd : ((empty {}).after returnedCalls).Reachable := ⟨{}, _, rfl⟩
  have hrun : ((Operation.dot ⟨6, 4⟩ ⟨6, 4⟩).run.runOn ((empty {}).after returnedCalls)).1 =
      .error (.rejected (.blockTerminated .dot)) := by
    decide +kernel
  exact ⟨hd, hrun, rejected_unchanged hd rfl hrun⟩

/-- A comparison is refused in the same place.  But truth values have become a type. -/
example : ((Operation.fOrdEqual ⟨6, 4⟩ ⟨6, 4⟩).run.runOn ((empty {}).after returnedCalls)).1 =
      .error (.rejected (.blockTerminated .fOrdEqual)) ∧
    ¬((empty {}).after returnedCalls).knows .bool = true ∧
    (((empty {}).after returnedCalls).step (.fOrdEqual ⟨6, 4⟩ ⟨6, 4⟩)).knows .bool = true := by
  decide +kernel

/-! ### Runs -/

/-- The call is refused. -/
def refuses (d : Draft) (o : Operation) : Bool :=
  match (o.run.runOn d).1 with
  | .error (.rejected _) => true
  | _ => false

/-- The calls of a run without those that change nothing because they are refused. -/
def effective (d : Draft) : List Operation → List Operation
  | [] => []
  | o :: os =>
      if o.isAtomic && d.refuses o then d.effective os else o :: (d.step o).effective os

theorem step_of_refuses (hd : d.Reachable) (ho : o.isAtomic = true)
    (hrefuses : d.refuses o = true) : d.step o = d := by
  unfold refuses at hrefuses
  split at hrefuses
  · next cause hrun => exact o.run_refusesFirst hd ho cause (d.step o) (Prod.ext hrun rfl)
  · cases hrefuses

/-- **Such calls can be left out of a run.** -/
theorem after_effective (hd : d.Reachable) (os : List Operation) :
    d.after (d.effective os) = d.after os := by
  induction os generalizing d with
  | nil => rfl
  | cons o os ih =>
      rw [effective, after_cons]
      by_cases hleft : (o.isAtomic && d.refuses o) = true
      · obtain ⟨ho, hrefuses⟩ := Bool.and_eq_true_iff.1 hleft
        rw [if_pos hleft, ih hd, step_of_refuses hd ho hrefuses]
      · rw [if_neg hleft, after_cons, ih (hd.step o)]

end Draft

end FrameShader
