/-
Attempting: asking for a type, and every way in which this can end.

Whatever a type is made of is asked for first, so a type is defined behind its pieces, and if
something is wrong with a piece, then the type itself is never defined.  But the pieces before that
one are, and they stay.  This does not matter for later calls.  A draft knows all pieces of what it
knows, nothing is wrong with them, and so what a call comes upon first is the same in every draft.

There are two other ends.  The ids may run out.  And an array may have no stride, because the size of
its elements is no word: this is found only after the array has been defined.

Main definitions:

* `FrameShader.Draft.knows`, `FrameShader.Draft.Thorough` — the types that a draft knows, together with
  their pieces;
* `FrameShader.Draft.Defines` — some types are defined, one after another, and nothing else;
* `FrameShader.Build.Attempts` — how a call that asks for types ends.

Main results:

* `FrameShader.Draft.Reachable.thorough` — every draft knows all pieces of what it knows;
* `FrameShader.Build.Attempts.bind` — what is wrong with the first pieces is found first;
* `FrameShader.Build.typeId_attempts` — **how asking for a type ends**.
-/

import FrameShader.Proofs.Draft.Agreeing
import FrameShader.Proofs.Draft.Pieces
import FrameShader.Proofs.Draft.Shape

set_option relaxedAutoImplicit false
set_option autoImplicit false

namespace FrameShader

namespace Draft

variable {d d' e e' : Draft} {t u : DataType} {new new' : List DataType}

/-! ### What a draft knows -/

/-- The type is interned. -/
def knows (d : Draft) (t : DataType) : Bool := (d.tables.types.lookup t).isSome

theorem knows_iff : d.knows t = true ↔ ∃ id, d.Interned t id := Option.isSome_iff_exists

theorem knows_eq_false : d.knows t = false ↔ d.tables.types.lookup t = none :=
  Option.isSome_eq_false_iff.trans Option.isNone_iff_eq_none

theorem Interned.knows {id : Id} (h : d.Interned t id) : d.knows t = true := knows_iff.2 ⟨id, h⟩

/-- Nothing is wrong with the type itself, and its pieces are known. -/
structure Settled (d : Draft) (t : DataType) : Prop where
  admissible : t.isAdmissible = true
  pieces : ∀ u ∈ t.inner, d.knows u = true

/-- Nothing is wrong with what the draft knows, and it knows all pieces of it. -/
def Thorough (d : Draft) : Prop := ∀ t, d.knows t = true → d.Settled t

theorem Settled.mem_pieces (h : d.Settled t) (ht : d.knows t = true) :
    ∀ u ∈ t.pieces, d.knows u = true :=
  List.forall_mem_append.2 ⟨h.pieces, List.forall_mem_singleton.2 ht⟩

namespace Thorough

theorem pieces (h : d.Thorough) (ht : d.knows t = true) : ∀ u ∈ t.pieces, d.knows u = true :=
  (h t ht).mem_pieces ht

theorem isWellFormed (h : d.Thorough) (ht : d.knows t = true) : t.isWellFormed = true :=
  DataType.forall_mem_pieces.1 fun u hu => (h u (h.pieces ht u hu)).admissible

theorem fault? (h : d.Thorough) (ht : d.knows t = true) : t.fault? = none :=
  (DataType.fault?_eq_none_iff t).2 (h.isWellFormed ht)

end Thorough

/-- What can be defined is settled if the types are that it refers to. -/
theorem TypeDefinition.settled {opcode : Opcode} {operands : List Operand}
    (h : d.TypeDefinition t opcode operands)
    (hparts : ∀ u, sizeOf u < sizeOf t → d.knows u = true → d.Settled u) : d.Settled t := by
  -- the parts are smaller than the type, so all that is inside of them is known
  have hall {ts : List DataType} {ids : List Id} (hts : List.Forall₂ d.Interned ts ids)
      (hsize : sizeOf ts < sizeOf t) : ∀ u ∈ DataType.innerOfAll ts, d.knows u = true := by
    intro u hu
    obtain ⟨v, hv, hu⟩ := DataType.mem_innerOfAll.1 hu
    obtain ⟨id, -, hid⟩ := exists_of_mem_left hts hv
    refine (hparts v ?_ hid.knows).mem_pieces hid.knows u hu
    exact Nat.lt_trans (List.sizeOf_lt_of_mem hv) hsize
  cases h with
  | void | bool | int | float | sampler => exact ⟨rfl, fun _ hu => absurd hu List.not_mem_nil⟩
  | vector hwidth hs hc =>
      exact ⟨by simp [DataType.isAdmissible, hwidth, hs], List.forall_mem_singleton.2 hc.knows⟩
  | image hc => exact ⟨rfl, List.forall_mem_singleton.2 hc.knows⟩
  | runtimeArray he => exact ⟨rfl, (hparts _ (by simp) he.knows).mem_pieces he.knows⟩
  | pointer hp =>
      refine ⟨rfl, (hparts _ ?_ hp.knows).mem_pieces hp.knows⟩
      simp only [DataType.pointer.sizeOf_spec]
      omega
  | sampledImage hi => exact ⟨rfl, (hparts _ (by simp) hi.knows).mem_pieces hi.knows⟩
  | record hm => exact ⟨rfl, hall hm (by simp)⟩
  | function hr hp =>
      refine ⟨rfl, List.forall_mem_append.2 ⟨?_, List.forall_mem_cons.2 ⟨hr.knows, ?_⟩⟩⟩
      · refine (hparts _ ?_ hr.knows).pieces
        simp only [DataType.function.sizeOf_spec]
        omega
      · refine hall hp ?_
        simp only [DataType.function.sizeOf_spec]
        omega

/-- **Every draft knows all pieces of what it knows.** -/
theorem Reachable.thorough (h : d.Reachable) : d.Thorough := by
  obtain ⟨settings, a, rfl, ha, -⟩ := h.exists_account
  -- by induction on the size of the type, as its definition refers to smaller types
  intro t
  induction hsize : sizeOf t using Nat.strong_induction_on generalizing t with
  | _ n ih =>
      intro ht
      obtain ⟨id, hid⟩ := knows_iff.1 ht
      obtain ⟨opcode, operands, hdefinition, -⟩ := ha.exists_type hid
      exact hdefinition.settled fun u hu => ih (sizeOf u) (hsize ▸ hu) u rfl

/-! ### Defining types -/

/-- The draft without anything but its types, their definitions and the counter of ids. -/
def vocabulary (d : Draft) : Draft :=
  { nextId := d.nextId
    sections := { globals := d.sections.globals }
    tables := { types := d.tables.types } }

theorem knows_of_vocabulary (h : d'.vocabulary = d.vocabulary) (t : DataType) :
    d'.knows t = d.knows t := view_eq h (·.knows t) fun _ => rfl

theorem Interned.of_vocabulary (h : d'.vocabulary = d.vocabulary) {id : Id}
    (ht : d.Interned t id) : d'.Interned t id :=
  (view_eq h (·.tables.types.lookup t) fun _ => rfl).trans ht

/-- The types `new` are defined one after another, each with the next id, and nothing else is. -/
inductive Defines (d : Draft) : List DataType → Draft → Prop
  | none {d' : Draft} (h : d'.vocabulary = d.vocabulary) : Defines d [] d'
  | snoc {new : List DataType} {e e' : Draft} {t : DataType} {opcode : Opcode}
      {operands : List Operand} (h : Defines d new e) (hnew : e.knows t = false)
      (ht : e.TypeDefinition t opcode operands) (hroom : e.nextId.toNat + 1 < UInt32.size)
      (h' : e'.vocabulary =
        (e.takeId.addTypeDefinition e.nextId t opcode operands).vocabulary) :
      Defines d (new ++ [t]) e'

/-- A type that is defined becomes known. -/
theorem knows_addTypeDefinition (d : Draft) (id : Id) (t u : DataType) (opcode : Opcode)
    (operands : List Operand) : (d.addTypeDefinition id t opcode operands).knows u = true ↔
      d.knows u = true ∨ u = t := by
  show (((t, id) :: d.tables.types).lookup u).isSome = true ↔ _
  by_cases h : u = t
  · subst h
    simp
  · rw [lookup_cons_of_ne h]
    exact (or_iff_left h).symm

namespace Defines

/-- What is only said of types does not matter. -/
theorem congr (h : d.Defines new e) (hsame : e'.vocabulary = e.vocabulary) : d.Defines new e' := by
  cases h with
  | none h => exact .none (hsame.trans h)
  | snoc h hnew ht hroom h' => exact .snoc h hnew ht hroom (hsame.trans h')

theorem trans (h : d.Defines new e) (h' : e.Defines new' e') : d.Defines (new ++ new') e' := by
  induction h' with
  | none hsame => exact (List.append_nil new).symm ▸ h.congr hsame
  | snoc _ hnew ht hroom hsame ih => exact List.append_assoc _ _ _ ▸ .snoc ih hnew ht hroom hsame

/-- What becomes known is what is defined. -/
theorem knows_iff (h : d.Defines new d') (u : DataType) :
    d'.knows u = true ↔ d.knows u = true ∨ u ∈ new := by
  induction h with
  | none h => simp [knows_of_vocabulary h]
  | @snoc new e e' t _ _ _ _ _ _ h' ih =>
      have hknown := e.takeId.knows_addTypeDefinition e.nextId t u
      rw [knows_of_vocabulary h', hknown, List.mem_append, List.mem_singleton, ← or_assoc, ← ih]
      rfl

/-- What is interned stays interned. -/
theorem interned (h : d.Defines new d') {id : Id} (hu : d.Interned u id) : d'.Interned u id := by
  induction h with
  | none h => exact hu.of_vocabulary h
  | @snoc _ e _ t _ _ _ hnew _ _ h' ih =>
      exact (ih.addTypeDefinition (d := e.takeId) (knows_eq_false.1 hnew) _ _).of_vocabulary h'

theorem knows (h : d.Defines new d') (hu : d.knows u = true) : d'.knows u = true :=
  (h.knows_iff u).2 (.inl hu)

theorem thorough (h : d.Defines new d') (hd : d.Thorough) : d'.Thorough := by
  induction h with
  | none h =>
      intro u hu
      rw [knows_of_vocabulary h] at hu
      exact ⟨(hd u hu).admissible, fun v hv => (knows_of_vocabulary h v).trans ((hd u hu).pieces v hv)⟩
  | @snoc new e e' t _ _ h hnew ht hroom h' ih =>
      have hone : e.Defines [t] e' := .snoc (.none rfl) hnew ht hroom h'
      intro u hu
      have hu : e.Settled u := by
        rcases (hone.knows_iff u).1 hu with hu | hu
        · exact ih u hu
        · rw [List.mem_singleton.1 hu]
          exact ht.settled fun v _ => ih v
      exact ⟨hu.admissible, fun v hv => hone.knows (hu.pieces v hv)⟩

end Defines

end Draft

/-! ### How calls end -/

namespace Build

open Draft

variable {α β : Type} {d : Draft} {pieces pieces' : List DataType} {fault fault' : Option BuildError}
  {P : α → Draft → Prop} {Q : β → Draft → Prop}

/-- How a call ends that is to define these pieces, of which something may be wrong.  It has defined
the types `new` and leaves the draft `d'` behind. -/
inductive Ends (pieces : List DataType) (fault : Option BuildError) (P : α → Draft → Prop)
    (new : List DataType) (d' : Draft) : Except Failure α → Prop
  /-- Nothing is wrong. -/
  | found {v : α} (hfault : fault = none) (hv : P v d') (hnew : ∀ u ∈ new, u.hasStride = true) :
      Ends pieces fault P new d' (.ok v)
  /-- What is wrong was found. -/
  | refused {cause : BuildError} (hfault : fault = some cause)
      (hnew : ∀ u ∈ new, u.hasStride = true) :
      Ends pieces fault P new d' (.error (.rejected cause))
  /-- The ids have run out before all pieces were defined. -/
  | exhausted {u : DataType} (hu : u ∈ pieces) (hunknown : d'.knows u = false)
      (hroom : UInt32.size ≤ d'.nextId.toNat + 1) (hnew : ∀ u ∈ new, u.hasStride = true) :
      Ends pieces fault P new d' (.error (.overflow .increment))
  /-- The array that was defined last has no stride. -/
  | oversized {init : List DataType} {element : DataType} {operation : Overflow}
      (hlast : new = init ++ [.runtimeArray element]) (hsize : element.size = .error operation)
      (hnew : ∀ u ∈ init, u.hasStride = true) :
      Ends pieces fault P new d' (.error (.overflow operation))

/-- The call defines some of these pieces, one after another, and ends. -/
def Attempts (pieces : List DataType) (fault : Option BuildError) (call : Build α) (d : Draft)
    (P : α → Draft → Prop) : Prop :=
  ∃ new, d.Defines new (call.runOn d).2 ∧ new ⊆ pieces ∧
    Ends pieces fault P new (call.runOn d).2 (call.runOn d).1

namespace Attempts

theorem of_ok {call : Build α} {v : α} {d' : Draft} (hrun : call.runOn d = (.ok v, d'))
    (hsame : d'.vocabulary = d.vocabulary) (hv : P v d') : Attempts pieces none call d P := by
  refine ⟨[], ?_, List.nil_subset _, ?_⟩
  · rw [hrun]
    exact .none hsame
  · rw [hrun]
    exact .found rfl hv (fun _ hu => absurd hu List.not_mem_nil)

theorem pure {v : α} (hv : P v d) : Attempts pieces none (Pure.pure v) d P := .of_ok rfl rfl hv

theorem of_rejected {call : Build α} {cause : BuildError}
    (hrun : call.runOn d = (.error (.rejected cause), d)) :
    Attempts pieces (some cause) call d P := by
  refine ⟨[], ?_, List.nil_subset _, ?_⟩
  · rw [hrun]
    exact .none rfl
  · rw [hrun]
    exact .refused rfl fun _ hu => absurd hu List.not_mem_nil

/-- A weaker claim about the answer, for which it may be used what was defined. -/
theorem imp {call : Build α} {P' : α → Draft → Prop} (h : Attempts pieces fault call d P)
    (himp : ∀ v d' new, d.Defines new d' → new ⊆ pieces → P v d' → P' v d') :
    Attempts pieces fault call d P' := by
  obtain ⟨new, hdefines, hpieces, hends⟩ := h
  refine ⟨new, hdefines, hpieces, ?_⟩
  generalize (call.runOn d).1 = answer at hends
  cases hends with
  | found hfault hv hnew => exact .found hfault (himp _ _ _ hdefines hpieces hv) hnew
  | refused hfault hnew => exact .refused hfault hnew
  | exhausted hu hunknown hroom hnew => exact .exhausted hu hunknown hroom hnew
  | oversized hlast hsize hnew => exact .oversized hlast hsize hnew

/-- What is interned before the call still is after it. -/
theorem keeping {call : Build α} {t : DataType} {id : Id} (h : Attempts pieces fault call d P)
    (hid : d.Interned t id) :
    Attempts pieces fault call d fun v e => e.Interned t id ∧ P v e :=
  h.imp fun _ _ _ hdefines _ hv => ⟨hdefines.interned hid, hv⟩

/-- More pieces than these. -/
theorem mono {call : Build α} (h : Attempts pieces fault call d P) (hsub : pieces ⊆ pieces') :
    Attempts pieces' fault call d P := by
  obtain ⟨new, hdefines, hpieces, hends⟩ := h
  refine ⟨new, hdefines, List.Subset.trans hpieces hsub, ?_⟩
  generalize (call.runOn d).1 = answer at hends
  cases hends with
  | found hfault hv hnew => exact .found hfault hv hnew
  | refused hfault hnew => exact .refused hfault hnew
  | exhausted hu hunknown hroom hnew => exact .exhausted (hsub hu) hunknown hroom hnew
  | oversized hlast hsize hnew => exact .oversized hlast hsize hnew

/-- One call after another: what is wrong with the first pieces is found first. -/
theorem bind {call : Build α} {next : α → Build β} (hd : d.Thorough)
    (h : Attempts pieces fault call d P)
    (hnext : ∀ v d', d'.Thorough → P v d' → Attempts pieces' fault' (next v) d' Q) :
    Attempts (pieces ++ pieces') (fault.or fault') (call >>= next) d Q := by
  obtain ⟨new, hdefines, hpieces, hends⟩ := h
  rw [Attempts, runOn_bind]
  rcases hrun : call.runOn d with ⟨answer, e⟩
  rw [hrun] at hdefines hends
  have hpieces := List.Subset.trans hpieces (List.subset_append_left pieces pieces')
  -- the second call runs only if the first one has found what it was asked for
  cases hends with
  | found hfault hv hnew =>
      obtain ⟨new', hdefines', hpieces', hends'⟩ := hnext _ _ (hdefines.thorough hd) hv
      have hpieces' := List.Subset.trans hpieces' (List.subset_append_right pieces pieces')
      refine ⟨new ++ new', hdefines.trans hdefines', List.append_subset.2 ⟨hpieces, hpieces'⟩, ?_⟩
      rw [hfault, Option.none_or]
      generalize ((next _).runOn e).1 = answer at hends'
      cases hends' with
      | found hfault' hv' hnew' =>
          exact .found hfault' hv' (List.forall_mem_append.2 ⟨hnew, hnew'⟩)
      | refused hfault' hnew' =>
          exact .refused hfault' (List.forall_mem_append.2 ⟨hnew, hnew'⟩)
      | exhausted hu hunknown hroom hnew' =>
          exact .exhausted (List.mem_append_right _ hu) hunknown hroom
            (List.forall_mem_append.2 ⟨hnew, hnew'⟩)
      | oversized hlast hsize hnew' =>
          refine .oversized ?_ hsize (List.forall_mem_append.2 ⟨hnew, hnew'⟩)
          rw [hlast, List.append_assoc]
  | refused hfault hnew =>
      exact ⟨new, hdefines, hpieces, .refused (by rw [hfault]; rfl) hnew⟩
  | exhausted hu hunknown hroom hnew =>
      exact ⟨new, hdefines, hpieces, .exhausted (List.mem_append_left _ hu) hunknown hroom hnew⟩
  | oversized hlast hsize hnew => exact ⟨new, hdefines, hpieces, .oversized hlast hsize hnew⟩

/-- Going on with an answer. -/
theorem map {call : Build α} {next : α → β} (hd : d.Thorough) (h : Attempts pieces fault call d P)
    (hnext : ∀ v d', P v d' → Q (next v) d') :
    Attempts pieces fault (call >>= fun v => Pure.pure (next v)) d Q := by
  have hpure (v : α) (d' : Draft) (_ : d'.Thorough) (hv : P v d') :
      Attempts [] none (Pure.pure (next v)) d' Q := pure (hnext v d' hv)
  have hbind := bind hd h hpure
  rwa [List.append_nil, Option.or_none] at hbind

end Attempts

/-! ### Types -/

/-- What is said of a new type to complete its definition.  This succeeds, unless the type is an array
without a stride. -/
def Finishes (t : DataType) (complete : Id → Build Unit) : Prop :=
  ∀ id d, d.tables.dataTypes.lookup id = some t → ∃ e, e.unannotated = d.unannotated ∧
    ((complete id).runOn d = (.ok (), e) ∧ t.hasStride = true ∨
      ∃ element operation, t = .runtimeArray element ∧ element.size = .error operation ∧
        (complete id).runOn d = (.error (.overflow operation), e))

theorem complete_finishes {t : DataType} (h : t.hasStride = true) : Finishes t complete :=
  fun _ d _ => ⟨d, rfl, .inl ⟨rfl, h⟩⟩

theorem stride_finishes (element : DataType) : Finishes (.runtimeArray element) (fun id => do
    let stride ← ofArithmetic element.size
    decorate id .arrayStride [.literal stride]) := by
  intro id d hid
  cases hsize : element.size with
  | error operation => exact ⟨d, rfl, .inr ⟨element, operation, rfl, hsize, rfl⟩⟩
  | ok stride =>
      have hdefined : d.isDefined id = true := by simp [Draft.isDefined, hid]
      refine ⟨d.addToAnnotations (strideRow id stride),
        d.unannotated_addToAnnotations (strideRow id stride), .inl ⟨?_, ?_⟩⟩
      · exact (runOn_decorate id .arrayStride [.literal stride] d).trans (if_pos hdefined)
      · exact DataType.hasStride_runtimeArray.2 ⟨stride, hsize⟩

/-- Defining one more type, for which there is an id. -/
theorem define_attempts {t : DataType} {opcode : Opcode} {operands : List Operand}
    {complete : Id → Build Unit} (hnew : d.knows t = false)
    (ht : d.TypeDefinition t opcode operands) (hcomplete : Finishes t complete) :
    Attempts t.pieces none (do
      let id ← freshId
      modify (·.addTypeDefinition id t opcode operands)
      complete id
      nameType t id) d fun id e => e.Interned t id := by
  rw [Attempts, runOn_bind, runOn_freshId]
  by_cases hroom : d.nextId.toNat + 1 < UInt32.size
  case neg =>
    rw [if_neg hroom]
    exact ⟨[], .none rfl, List.nil_subset _, .exhausted t.self_mem_pieces hnew
      (Nat.le_of_not_lt hroom) fun _ hu => absurd hu List.not_mem_nil⟩
  rw [if_pos hroom]
  let e := (d.takeId.addRecord (idRecord d.nextId)).addTypeDefinition d.nextId t opcode operands
  have hlookup : e.tables.dataTypes.lookup d.nextId = some t := List.lookup_cons_self
  have hone {e' : Draft} (h : e'.vocabulary = e.vocabulary) : d.Defines [t] e' :=
    .snoc (.none rfl) hnew ht hroom h
  have hpieces : [t] ⊆ t.pieces := List.cons_subset.2 ⟨t.self_mem_pieces, List.nil_subset _⟩
  show ∃ new, d.Defines new ((complete d.nextId >>= fun _ => nameType t d.nextId).runOn e).2 ∧
    new ⊆ t.pieces ∧ Ends t.pieces none _ new
      ((complete d.nextId >>= fun _ => nameType t d.nextId).runOn e).2
      ((complete d.nextId >>= fun _ => nameType t d.nextId).runOn e).1
  -- the definition stands already, so it stays even if the type cannot be completed
  obtain ⟨e', hfinished, ⟨hrun, hstride⟩ | ⟨element, operation, rfl, hsize, hrun⟩⟩ :=
    hcomplete d.nextId e hlookup
  all_goals have hsame := view_eq hfinished vocabulary fun _ => rfl
  · have htypes := view_eq hfinished (·.tables.dataTypes) fun _ => rfl
    rw [runOn_bind_of_ok hrun, runOn_nameType (htypes ▸ hlookup)]
    have hnamed := (view_eq (e'.bare_addName d.nextId none
      (.plain .debugName [.id d.nextId, .text t.text])) vocabulary fun _ => rfl).trans hsame
    refine ⟨[t], hone hnamed, hpieces, .found rfl ?_ (List.forall_mem_singleton.2 hstride)⟩
    exact Interned.of_vocabulary hnamed (d := e) List.lookup_cons_self
  · rw [runOn_bind, hrun]
    exact ⟨_, hone hsame, hpieces, .oversized (List.nil_append _).symm hsize
      fun _ hu => absurd hu List.not_mem_nil⟩

/-- A type is defined behind its pieces, unless it is known. -/
theorem intern_attempts {t : DataType} {definition : Build (Opcode × List Operand)}
    {complete : Id → Build Unit} (hd : d.Thorough)
    (hdefinition : Attempts t.inner t.fault? definition d
      fun x e => e.TypeDefinition t x.1 x.2)
    (hcomplete : Finishes t complete) :
    Attempts t.pieces t.fault? (intern t definition complete) d fun id e => e.Interned t id := by
  rw [intern, Attempts, runOn_bind_of_ok (runOn_get d)]
  cases hknown : d.tables.types.lookup t with
  | some id =>
      rw [hd.fault? (Interned.knows hknown)]
      exact Attempts.pure hknown
  | none =>
      -- the pieces do not include the type, so it is still unknown when they have been defined
      have hunknown : Attempts t.inner t.fault? definition d
          fun x e => e.TypeDefinition t x.1 x.2 ∧ e.knows t = false := by
        refine hdefinition.imp fun x e new hdefines hnew hx => ⟨hx, ?_⟩
        refine Bool.eq_false_iff.2 fun hknows => ?_
        rcases (hdefines.knows_iff t).1 hknows with hknows | hmem
        · rw [knows_eq_false.2 hknown] at hknows
          cases hknows
        · exact DataType.ne_of_mem_inner (hnew hmem) rfl
      have hbind := Attempts.bind hd hunknown fun x e _ hx =>
        define_attempts hx.2 hx.1 hcomplete
      rw [Option.or_none] at hbind
      exact hbind.mono (List.append_subset.2 ⟨t.inner_subset_pieces, List.Subset.refl _⟩)

/-- Capabilities do not matter to types. -/
theorem capability_attempts (c : Capability) :
    Attempts [] none (capability c) d fun _ _ => True :=
  .of_ok rfl (view_eq (d.bare_addCapability c) vocabulary fun _ => rfl) trivial

theorem scalarId_attempts (hd : d.Thorough) (s : Scalar) :
    Attempts [.scalar s] none (scalarId s) d fun id e => e.Interned (.scalar s) id := by
  refine intern_attempts (t := .scalar s) hd ?_ (complete_finishes rfl)
  cases s with
  | void => exact .pure .void
  | bool => exact .pure .bool
  | int width signed => exact .pure (.int width signed)
  | float width =>
      by_cases hwide : width = 64
      · simp only [if_pos hwide]
        exact .bind hd (capability_attempts _) fun _ _ _ _ => .pure (.float width)
      · simp only [if_neg hwide]
        exact .pure (.float width)

theorem imageId_attempts (hd : d.Thorough) (shape : ImageShape) :
    Attempts (DataType.image shape).pieces none (imageId shape) d
      fun id e => e.Interned (.image shape) id := by
  refine intern_attempts (t := .image shape) hd ?_ (complete_finishes rfl)
  exact .map hd (scalarId_attempts hd shape.sampledType) fun _ _ => .image

mutual

/-- **How asking for a type ends.** -/
theorem typeId_attempts : ∀ (t : DataType) {d : Draft}, d.Thorough →
    Attempts t.pieces t.fault? (typeId t) d fun id e => e.Interned t id
  | .scalar s, d, hd => scalarId_attempts hd s
  | .vector s width, d, hd => by
      refine intern_attempts hd ?_ (complete_finishes rfl)
      simp only [DataType.fault?, DataType.vector?]
      by_cases hwidth : isVectorWidth width = true
      · simp only [if_pos hwidth]
        show Attempts _ _ (if s = .void then _ else _) d _
        by_cases hs : s = .void
        · simp only [if_pos hs]
          exact .of_rejected rfl
        · simp only [if_neg hs]
          exact .map hd (scalarId_attempts hd s) fun _ _ => .vector hwidth hs
      · simp only [if_neg hwidth]
        exact .of_rejected rfl
  | .runtimeArray element, d, hd =>
      intern_attempts hd (.map hd (typeId_attempts element hd) fun _ _ => .runtimeArray)
        (stride_finishes element)
  | .record members, d, hd =>
      intern_attempts hd (.map hd (typeIds_attempts members hd) fun _ _ => .record)
        (complete_finishes rfl)
  | .pointer _ pointee, d, hd =>
      intern_attempts hd (.map hd (typeId_attempts pointee hd) fun _ _ => .pointer)
        (complete_finishes rfl)
  | .image shape, d, hd => imageId_attempts hd shape
  | .sampler, d, hd => intern_attempts hd (.pure .sampler) (complete_finishes rfl)
  | .sampledImage inner, d, hd => by
      refine intern_attempts hd ?_ (complete_finishes rfl)
      cases inner with
      | image shape => exact .map hd (imageId_attempts hd shape) fun _ _ => .sampledImage
      | _ => exact .of_rejected rfl
  | .function result parameters, d, hd => by
      refine intern_attempts hd ?_ (complete_finishes rfl)
      rw [DataType.inner, List.append_cons]
      refine .bind hd (typeId_attempts result hd) fun resultId e he hresult => ?_
      exact .map he ((typeIds_attempts parameters he).keeping hresult) fun _ _ h =>
        .function h.1 h.2

/-- Several types are asked for from the left. -/
theorem typeIds_attempts : ∀ (ts : List DataType) {d : Draft}, d.Thorough →
    Attempts (DataType.innerOfAll ts) (DataType.faultOfAll? ts) (typeIds ts) d
      fun ids e => List.Forall₂ e.Interned ts ids
  | [], d, hd => .pure .nil
  | t :: ts, d, hd => by
      rw [DataType.innerOfAll, List.append_cons]
      refine .bind hd (typeId_attempts t hd) fun id e he hid => ?_
      exact .map he ((typeIds_attempts ts he).keeping hid) fun _ _ h => .cons h.1 h.2

end

end Build

end FrameShader
