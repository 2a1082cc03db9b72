/-
Reserving: who holds the slots of a draft.

A slot is entered into the table before the variable that takes it is decorated.  The first of these
is open to whatever can be seen and points to a resource.  The second is refused unless the target
belongs to the module.  So a parameter of the open function, or one of its results, is refused, but
the slot stays with it, and nothing else can be put there any more.  In all other cases, putting
something into a slot either changes nothing or is done in full.

Main definitions:

* `FrameShader.Draft.Occupies` — a variable that is in a slot, and is said to be;
* `FrameShader.Draft.Reserved` — whatever holds a slot is such a variable, or stands inside a function.

Main results:

* `FrameShader.Build.descriptorBinding_places` — how putting a value into a slot ends;
* `FrameShader.Draft.Reserved.step`, `FrameShader.Draft.Reachable.reserved` — **who holds slots**, call
  by call and over a run;
* `FrameShader.Draft.descriptorBinding_outcomes` — **what each outcome leaves behind**;
* `FrameShader.Draft.not_all_or_nothing` — a slot may be taken by a call that fails.
-/

import FrameShader.Proofs.Draft.Providing
import FrameShader.Proofs.Draft.Scoping

set_option relaxedAutoImplicit false
set_option autoImplicit false

namespace FrameShader

open Build

/-! ### Variables of the module -/

namespace Account.Changes

variable {short exhausted : Prop} {a b : Account}

/-- Pointers among the globals stay variables. -/
theorem plain (h : Changes short exhausted a b) (ha : a.Consistent)
    (hplain : ∀ i ∈ a.draft.sections.globals, a.draft.Plain i) :
    ∀ i ∈ b.draft.sections.globals, b.draft.Plain i :=
  h.preserves_of_consistent (P := fun b => ∀ i ∈ b.draft.sections.globals, b.draft.Plain i)
    (fun hb hstep => hstep.plain hb) ha hplain

/-- Functions keep their signatures. -/
theorem signatures (h : Changes short exhausted a b) (ha : a.Consistent)
    (hsignatures : ∀ e ∈ a.draft.tables.functions ++ a.draft.tables.declared,
      a.draft.HasSignature e.2) :
    ∀ e ∈ b.draft.tables.functions ++ b.draft.tables.declared, b.draft.HasSignature e.2 :=
  h.preserves_of_consistent (P := fun b =>
      ∀ e ∈ b.draft.tables.functions ++ b.draft.tables.declared, b.draft.HasSignature e.2)
    (fun hb hstep => hstep.signatures hb) ha hsignatures

end Account.Changes

namespace Draft

variable {d d' : Draft} {v : Value} {set binding : Word}

/-- **A pointer that can be seen is a variable of the module**, unless the open function has defined
it. -/
theorem Reachable.declares (hd : d.Reachable) {storage : StorageClass} {t : DataType}
    (hv : d.Sees v (.pointer storage t)) (hlocal : d.localType? v.id = none) :
    d.Declares storage t v := by
  obtain ⟨settings, a, rfl, ha, hchanges⟩ := hd.exists_account
  have hempty := Account.Consistent.empty settings
  obtain ⟨htype, ht⟩ := hv
  rw [typeOf?, hlocal] at htype
  obtain ⟨hknown, hwritten⟩ := variable_mem ha
    (hchanges.plain hempty fun _ hi => absurd hi List.not_mem_nil)
    (hchanges.signatures hempty fun _ he => absurd he List.not_mem_nil) htype ht
  exact ⟨hwritten, hknown, (hchanges.unique (.empty settings)).interned ha ht⟩

/-! ### Putting values into slots -/

/-- How putting a value into a slot ends, and what draft this leaves behind. -/
inductive Places (d : Draft) (v : Value) (set binding : Word) : Except Failure Unit → Draft → Prop
  | placed {storage : StorageClass} {t : DataType} (h : d.MayTake v set binding)
      (hstorage : storage.holdsResources = true) (hv : d.Declares storage t v) :
      Places d v set binding (.ok ()) (((d.addSlot set binding v.id).addToAnnotations
        (setRow v.id set)).addToAnnotations (bindingRow v.id binding))
  | refused {cause : BuildError} (h : ¬d.MayTake v set binding) :
      Places d v set binding (.error (.rejected cause)) d
  /-- The slot is taken before it is found that the value cannot be decorated. -/
  | stranded (h : d.MayTake v set binding) (hlocal : d.localType? v.id = some v.type) :
      Places d v set binding (.error (.rejected (.missingTarget v.id))) (d.addSlot set binding v.id)

end Draft

/-- **How putting a value into a slot ends.** -/
theorem Build.descriptorBinding_places {d : Draft} (hd : d.Reachable) (v : Value)
    (set binding : Word) :
    d.Places v set binding ((descriptorBinding v set binding).runOn d).1
      ((descriptorBinding v set binding).runOn d).2 := by
  obtain ⟨settings, a, rfl, ha, -⟩ := hd.exists_account
  rw [Draft.runOn_descriptorBinding]
  cases hslot : a.draft.slotFor v set binding with
  | error cause =>
      refine .refused fun h => ?_
      rw [Draft.slotFor_eq_ok_iff.2 h] at hslot
      cases hslot
  | ok =>
      have hmay := Draft.slotFor_eq_ok_iff.1 hslot
      obtain ⟨storage, t, hstorage, hv⟩ := hmay.points
      -- a value of the open function passes the checks too, but it cannot be decorated
      cases hlocal : a.draft.localType? v.id with
      | none =>
          have hdeclares := hd.declares hv hlocal
          simp only [hdeclares.isDefined, if_true]
          exact .placed hmay hstorage hdeclares
      | some type =>
          have htype : type = v.type := by
            have hseen := hv.1
            rw [Draft.typeOf?, hlocal] at hseen
            exact Option.some.inj hseen
          simp only [ha.isDefined_of_localType? hlocal, Bool.false_eq_true, if_false]
          exact .stranded hmay (htype ▸ hlocal)

/-! ### Who holds slots -/

namespace Draft

variable {d d' : Draft} {v : Value} {set binding : Word} {slot : Word × Word} {id : Id}

/-- The id is that of a variable of the module for resources, and it is said to be in the slot. -/
structure Occupies (d : Draft) (slot : Word × Word) (id : Id) : Prop where
  «variable» : ∃ storage type, storage.holdsResources = true ∧
    .typed .variable type id [.storageClass storage] ∈ d.sections.globals
  set : (setRow id slot.1).StatedIn d.sections.annotations
  binding : (bindingRow id slot.2).StatedIn d.sections.annotations

/-- The id is that of a parameter of a function, or of a result inside of it. -/
def IsInner (d : Draft) (id : Id) : Prop :=
  ∃ f ∈ d.bodies, ∃ i ∈ f.parameters ++ f.body, i.result = some id

/-- Whatever holds a slot is said to be there, unless it stands inside a function. -/
def Reserved (d : Draft) : Prop :=
  ∀ slot id, d.tables.slots.lookup slot = some id → d.Occupies slot id ∨ d.IsInner id

theorem Occupies.outgrows (h : d.Occupies slot id) (hgrows : d.Outgrows d') :
    d'.Occupies slot id where
  «variable» := by
    obtain ⟨storage, type, hstorage, hmem⟩ := h.variable
    exact ⟨storage, type, hstorage, (hgrows.parts .globals).subset hmem⟩
  set := hgrows.stated h.set
  binding := hgrows.stated h.binding

theorem IsInner.extends (h : d.IsInner id) (hextends : d.Extends d') : d'.IsInner id := by
  obtain ⟨f, hf, i, hi, hresult⟩ := h
  obtain ⟨g, hg, hwithin⟩ := hextends.bodies f hf
  refine ⟨g, hg, i, ?_, hresult⟩
  rw [hwithin.parameters]
  exact (List.mem_append.1 hi).elim (List.mem_append_left _)
    fun hi => List.mem_append_right _ (hwithin.body.subset hi)

/-- What only the open function sees stands inside of it. -/
theorem isInner_of_localType? {ids : List Id} (h : Account.Consistent ⟨d, ids⟩) {type : Id}
    (ht : d.localType? id = some type) : d.IsInner id := by
  unfold localType? at ht
  split at ht
  · next f hf =>
      obtain ⟨i, hi, hresult, -⟩ := h.exists_local hf ht
      refine ⟨f.closed, ?_, i, hi, hresult⟩
      rw [bodies_of_some hf]
      exact List.mem_append_right _ List.mem_cons_self
  · cases ht

/-- A draft that has grown, and whose table of slots is the same. -/
theorem Reserved.of_kept (h : d.Reserved) (hslots : d'.tables.slots = d.tables.slots)
    (hgrows : d.Outgrows d') (hextends : d.Extends d') : d'.Reserved := by
  intro slot id hid
  rw [hslots] at hid
  exact (h slot id hid).imp (·.outgrows hgrows) (·.extends hextends)

/-- A draft that has grown, and has one more slot that is held. -/
theorem Reserved.of_cons (h : d.Reserved)
    (hslots : d'.tables.slots = ((set, binding), id) :: d.tables.slots)
    (hid : d'.Occupies (set, binding) id ∨ d'.IsInner id) (hgrows : d.Outgrows d')
    (hextends : d.Extends d') : d'.Reserved := by
  intro slot other hother
  rw [hslots] at hother
  by_cases hslot : slot = (set, binding)
  · subst hslot
    obtain rfl := Option.some.inj (List.lookup_cons_self.symm.trans hother)
    exact hid
  · rw [lookup_cons_of_ne hslot] at hother
    exact (h slot other hother).imp (·.outgrows hgrows) (·.extends hextends)

/-- Only one operation gives slots away. -/
theorem slots_step (o : Operation) (ho : ∀ v set binding, o ≠ .descriptorBinding v set binding)
    (d : Draft) : (d.step o).tables.slots = d.tables.slots := by
  refine step_keeps (P := fun e => e.tables.slots = d.tables.slots) ?_ ?_ rfl
  · rintro f e hf hsame
    refine Eq.trans ?_ hsame
    cases hf with
    | capability c => exact view_eq (e.bare_addCapability c) (·.tables.slots) fun _ => rfl
    | name target member i =>
        exact view_eq (e.bare_addName target member i) (·.tables.slots) fun _ => rfl
    | defineArray => exact slots_addToAnnotations _ _
    | defineConstant key => cases key <;> rfl
    | _ => rfl
  · rintro f e hf hsame
    refine Eq.trans ?_ hsame
    cases hf with
    | slot => exact absurd rfl (ho _ _ _)
    | decorate | decorateMember | set | binding | block | offset | nonWritable =>
        exact slots_addToAnnotations _ _
    | builtIn => exact slots_addToAnnotations _ _
    | extension | bufferExtension =>
        exact view_eq (e.bare_addExtension _) (·.tables.slots) fun _ => rfl
    | source language version =>
        exact view_eq (e.bare_addSource language version) (·.tables.slots) fun _ => rfl
    | _ => rfl

/-- A variable that was put into a slot is said to be there. -/
theorem Declares.occupies {storage : StorageClass} {t : DataType} (h : d.Declares storage t v)
    (hstorage : storage.holdsResources = true) (hannotated : d.Annotated) :
    (((d.addSlot set binding v.id).addToAnnotations (setRow v.id set)).addToAnnotations
      (bindingRow v.id binding)).Occupies (set, binding) v.id := by
  have hslot : (d.addSlot set binding v.id).Annotated := hannotated.of_eq rfl rfl
  have hset := hslot.add (.decorate v.id .descriptorSet [.literal set])
  have hboth := hset.add (.decorate v.id .binding [.literal binding])
  refine ⟨⟨storage, v.type, hstorage, ?_⟩, hboth.statedIn_iff.2 ?_, hboth.statedIn_iff.2 ?_⟩
  · rw [view_eq (unannotated_addToAnnotations _ _) (·.sections.globals) fun _ => rfl,
      view_eq (unannotated_addToAnnotations _ _) (·.sections.globals) fun _ => rfl]
    exact h.written
  · exact annotations_subset_addToAnnotations _ _ (encode_mem_addToAnnotations _ _)
  · exact encode_mem_addToAnnotations _ _

/-- **Every call keeps slots with those who hold them.** -/
theorem Reserved.step (h : d.Reserved) (hd : d.Reachable) (o : Operation) :
    (d.step o).Reserved := by
  have hplaces (v : Value) (set binding : Word) := descriptorBinding_places hd v set binding
  obtain ⟨settings, a, rfl, ha, hreached⟩ := hd.exists_account
  obtain ⟨b, hb, hchanges, -⟩ := step_changes False o ha False.elim
  have hgrows := hchanges.outgrows ha
  have hextends := hchanges.extends ha
  rw [hb] at hgrows hextends
  -- slots are given away by one operation only
  by_cases ho : ∃ v set binding, o = .descriptorBinding v set binding
  · obtain ⟨v, set, binding, rfl⟩ := ho
    have hplaces := hplaces v set binding
    have hstep : a.draft.step (.descriptorBinding v set binding) =
        ((descriptorBinding v set binding).runOn a.draft).2 := by
      rw [Draft.step, Operation.run, runOn_map]
    rw [hstep] at hgrows hextends ⊢
    generalize ((descriptorBinding v set binding).runOn a.draft).1 = answer at hplaces
    generalize ((descriptorBinding v set binding).runOn a.draft).2 = d' at hplaces hgrows hextends
    cases hplaces with
    | placed hmay hstorage hv =>
        refine h.of_cons ?_ (.inl (hv.occupies hstorage ?_)) hgrows hextends
        · rw [slots_addToAnnotations, slots_addToAnnotations]
          rfl
        · exact hreached.annotated (.empty settings)
    | refused => exact h
    | stranded hmay hlocal =>
        exact h.of_cons rfl (.inr ((isInner_of_localType? ha hlocal).extends hextends)) hgrows
          hextends
  · refine h.of_kept (slots_step o (fun v set binding hsame => ho ?_) _) hgrows hextends
    exact ⟨v, set, binding, hsame⟩

/-- **So does every run.** -/
theorem Reachable.reserved (hd : d.Reachable) : d.Reserved := by
  obtain ⟨settings, os, rfl⟩ := hd
  induction os using List.reverseRecOn with
  | nil => exact fun _ _ h => nomatch h
  | append_singleton os o ih =>
      rw [after_append]
      exact ih.step ⟨settings, os, rfl⟩ o

/-- **What putting a value into a slot leaves behind.**  On any draft that calls lead to:

* if the value points to a resource and the slot is free, then the slot is taken, and unless the open
  function has defined the value, it is a variable of the module that is decorated with both parts of
  the slot;
* if the open function has defined it, then the call fails, because it cannot be decorated;
* in all other cases the call fails and changes nothing;
* and so whatever holds a slot is a variable of the module that is decorated with both parts of it, or
  it stands inside a function. -/
theorem descriptorBinding_outcomes (hd : d.Reachable) (v : Value) (set binding : Word) :
    (d.MayTake v set binding → d.localType? v.id = none →
      ∃ d', (descriptorBinding v set binding).runOn d = (.ok (), d') ∧
        d'.tables.slots = ((set, binding), v.id) :: d.tables.slots ∧
        d'.Occupies (set, binding) v.id) ∧
    (d.MayTake v set binding → d.localType? v.id ≠ none →
      (descriptorBinding v set binding).runOn d =
        (.error (.rejected (.missingTarget v.id)), d.addSlot set binding v.id) ∧
      (d.addSlot set binding v.id).sections = d.sections) ∧
    (¬d.MayTake v set binding →
      ∃ cause, (descriptorBinding v set binding).runOn d = (.error (.rejected cause), d)) ∧
    ∀ slot id, d.tables.slots.lookup slot = some id → d.Occupies slot id ∨ d.IsInner id := by
  have hplaces := descriptorBinding_places hd v set binding
  rcases hrun : (descriptorBinding v set binding).runOn d with ⟨answer, d'⟩
  rw [hrun] at hplaces
  change d.Places v set binding answer d' at hplaces
  refine ⟨fun hmay hnone => ?_, fun hmay hsome => ?_, fun hnot => ?_, hd.reserved⟩
  · cases hplaces with
    | placed _ hstorage hv =>
        obtain ⟨settings, a, rfl, -, hchanges⟩ := hd.exists_account
        refine ⟨_, rfl, ?_, hv.occupies hstorage (hchanges.annotated (.empty settings))⟩
        rw [slots_addToAnnotations, slots_addToAnnotations]
        rfl
    | refused hnot => exact absurd hmay hnot
    | stranded _ hlocal => cases hnone.symm.trans hlocal
  · cases hplaces with
    | placed _ _ hv =>
        obtain ⟨settings, a, rfl, ha, -⟩ := hd.exists_account
        have hglobal : a.draft.globalType? v.id = some v.type := by rw [globalType?, hv.known]
        exact absurd (ha.localType?_of_globalType? hglobal) hsome
    | refused hnot => exact absurd hmay hnot
    | stranded => exact ⟨rfl, rfl⟩
  · cases hplaces with
    | placed hmay | stranded hmay => exact absurd hmay hnot
    | refused => exact ⟨_, rfl⟩

/-- Calls that open a function with a parameter that points to a resource. -/
def pointerParameterCalls : List Operation :=
  [.beginFunction "f" (.scalar .void) [.pointer .uniform .uint32] .none, .uniformConstant .sampler]

/-- The sampler is put into the slot, and the parameter takes it without being put there. -/
theorem descriptorBinding_outcomes_of_parameter :
    ((empty {}).after pointerParameterCalls).Reachable ∧
    (∃ d', (descriptorBinding ⟨10, 9⟩ 0 0).runOn ((empty {}).after pointerParameterCalls) =
      (.ok (), d') ∧ d'.Occupies (0, 0) 10) ∧
    (descriptorBinding ⟨6, 4⟩ 0 0).runOn ((empty {}).after pointerParameterCalls) =
      (.error (.rejected (.missingTarget 6)),
        ((empty {}).after pointerParameterCalls).addSlot 0 0 6) := by
  have hd : ((empty {}).after pointerParameterCalls).Reachable := ⟨{}, _, rfl⟩
  have hsampler : ((empty {}).after pointerParameterCalls).MayTake ⟨10, 9⟩ 0 0 :=
    slotFor_eq_ok_iff.1 (by decide +kernel)
  have hparameter : ((empty {}).after pointerParameterCalls).MayTake ⟨6, 4⟩ 0 0 :=
    slotFor_eq_ok_iff.1 (by decide +kernel)
  obtain ⟨hplaced, -, -, -⟩ := descriptorBinding_outcomes hd ⟨10, 9⟩ 0 0
  obtain ⟨-, hstranded, -, -⟩ := descriptorBinding_outcomes hd ⟨6, 4⟩ 0 0
  obtain ⟨d', hrun, -, hoccupies⟩ := hplaced hsampler (by decide +kernel)
  exact ⟨hd, ⟨d', hrun, hoccupies⟩, (hstranded hparameter (by decide +kernel)).1⟩

/-- **A slot may be taken by a call that fails**, and then by something that is not said to be there. -/
theorem not_all_or_nothing :
    (¬ ∀ d : Draft, d.Reachable → ∀ (v : Value) (set binding : Word) (failure : Failure) (d' : Draft),
      (descriptorBinding v set binding).runOn d = (.error failure, d') →
      d'.tables.slots = d.tables.slots ∧ d'.sections.annotations = d.sections.annotations) ∧
    ¬ ∀ d : Draft, d.Reachable → ∀ slot id, d.tables.slots.lookup slot = some id →
      d.Occupies slot id := by
  have hfails : ((descriptorBinding ⟨6, 4⟩ 0 0).runOn ((empty {}).after pointerParameterCalls)).1 =
      .error (.rejected (.missingTarget 6)) := by decide +kernel
  refine ⟨fun hall => ?_, fun hall => ?_⟩
  · obtain ⟨hslots, -⟩ := hall _ ⟨{}, _, rfl⟩ _ _ _ _ _ (Prod.ext hfails rfl)
    exact absurd hslots (by decide +kernel)
  · have htaken : ((empty {}).after
        (pointerParameterCalls ++ [.descriptorBinding ⟨6, 4⟩ 0 0])).tables.slots.lookup (0, 0) =
          some 6 := by decide +kernel
    have hoccupies := hall _ ⟨{}, _, rfl⟩ _ _ htaken
    have hnothing : ((empty {}).after
        (pointerParameterCalls ++ [.descriptorBinding ⟨6, 4⟩ 0 0])).sections.annotations = [] := by
      decide +kernel
    have hset := hoccupies.set
    rw [hnothing] at hset
    exact absurd hset List.not_mem_nil

end Draft

end FrameShader
