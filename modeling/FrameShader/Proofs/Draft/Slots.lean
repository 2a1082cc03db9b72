/-
Slots: where a module says that its resources are found.

A draft keeps a table of slots and gives each of them away once.  Whoever reads the module sees no
such table but two decorations of a variable, its set and its number in the set, and what is
decorated twice with the same words is decorated once.  So the two views agree for a variable that was
given one slot; of a variable with several the sets and the numbers are known, but not any more which
set goes with which number.

Main definitions:

* `FrameShader.ShaderModule.decorations` — what is said of an id by decorations of one kind;
* `FrameShader.ShaderModule.FoundAt` — an id with one set and one number;
* `FrameShader.Draft.given` — the slots that a run gives away;
* `FrameShader.Draft.Placed` — the table and the annotations tell the slots that were given away.

Main results:

* `FrameShader.Draft.Placed.step`, `FrameShader.Draft.run_placed` — **the table and the annotations
  keep telling them**, call by call and over a run;
* `FrameShader.Draft.finished_placed` — **what a reader of the module learns about slots**.
-/

import FrameShader.Proofs.Draft.Linking
import FrameShader.Proofs.Draft.Permanence

set_option relaxedAutoImplicit false
set_option autoImplicit false

namespace FrameShader

/-! ### Reading decorations -/

/-- The operands of the decoration, if it is of this kind and about this id. -/
def Instruction.decoration? (v : Id) (kind : Decoration) (i : Instruction) :
    Option (List Operand) :=
  match i.opcode, i.operands with
  | .decorate, .id target :: .decoration found :: operands =>
      if target = v ∧ found = kind then some operands else none
  | _, _ => none

namespace ShaderModule

/-- The operands of all decorations of this kind that are about this id. -/
def decorations (m : ShaderModule) (v : Id) (kind : Decoration) : List (List Operand) :=
  m.annotations.filterMap (·.decoration? v kind)

/-- The id is in one set and has one number in it. -/
def FoundAt (m : ShaderModule) (v : Id) (set binding : Word) : Prop :=
  m.decorations v .descriptorSet = [[.literal set]] ∧
    m.decorations v .binding = [[.literal binding]]

end ShaderModule

/-- A decoration is read as what it was written as. -/
theorem Instruction.decoration?_eq_some {v : Id} {kind : Decoration} {i : Instruction}
    {operands : List Operand} (h : i.decoration? v kind = some operands) :
    i.opcode = .decorate ∧ i.operands = .id v :: .decoration kind :: operands := by
  unfold decoration? at h
  split at h
  · next target found rest hopcode hoperands =>
      split at h
      · next hsame =>
          obtain ⟨rfl, rfl⟩ := hsame
          cases h
          exact ⟨hopcode, hoperands⟩
      · cases h
  · cases h

/-! ### Annotations and their words -/

/-- The instruction decorates an id or a member of a record. -/
inductive Instruction.Annotates : Instruction → Prop
  | decorate (target : Id) (kind : Decoration) (operands : List Operand) :
      Annotates (.plain .decorate (.id target :: .decoration kind :: operands))
  | member (target : Id) (member : Word) (kind : Decoration) (operands : List Operand) :
      Annotates (.plain .memberDecorate
        (.id target :: .literal member :: .decoration kind :: operands))

/-- What is read of a decoration is all there is to it. -/
theorem Instruction.Annotates.eq_of_decoration? {i : Instruction} {v : Id} {kind : Decoration}
    {operands : List Operand} (h : i.Annotates) (hread : i.decoration? v kind = some operands) :
    i = .plain .decorate (.id v :: .decoration kind :: operands) := by
  obtain ⟨hopcode, hoperands⟩ := decoration?_eq_some hread
  cases h with
  | decorate =>
      cases hoperands
      rfl
  | member => cases hopcode

/-- An annotation with the words of a decoration that has one further word decorates the same id in the
same way. -/
theorem Instruction.Annotates.of_encode {i : Instruction} (hi : i.Annotates) {v : Id}
    {kind : Decoration} {operand : Operand} {word : Word} (hword : operand.encode = [word])
    (h : i.encode = (Instruction.plain .decorate [.id v, .decoration kind, operand]).encode) :
    ∃ found operands, i = .plain .decorate (.id v :: .decoration found :: operands) ∧
      found.code = kind.code ∧ operands.flatMap Operand.encode = [word] := by
  have hrow : (Instruction.plain .decorate [.id v, .decoration kind, operand]).tail =
      [v, kind.code, word] := by
    show v :: kind.code :: (operand.encode ++ []) = _
    rw [hword]
    rfl
  obtain ⟨hhead, htail⟩ := List.cons.inj h
  rw [htail, hrow] at hhead
  rw [hrow] at htail
  cases hi with
  | decorate target found operands =>
      obtain ⟨htarget, hrest⟩ := List.cons.inj htail
      obtain ⟨hcode, hoperands⟩ := List.cons.inj hrest
      exact ⟨found, operands, by rw [htarget], hcode, hoperands⟩
  | member target member found operands =>
      -- it has as many words, so the first of them tells the opcodes apart
      have hopcodes : Instruction.leadingWord 4 Opcode.memberDecorate.code ≠
          Instruction.leadingWord 4 Opcode.decorate.code := by decide
      exact absurd hhead hopcodes

namespace Draft

/-- The annotations of a draft decorate something.  They are known by their words, and no two of
them have the same words. -/
structure Annotated (d : Draft) : Prop where
  shape : ∀ i ∈ d.sections.annotations, i.Annotates
  words : d.tables.annotations = (d.sections.annotations.map Instruction.encode).reverse
  nodup : (d.sections.annotations.map Instruction.encode).Nodup

namespace Annotated

variable {d d' : Draft}

/-- Other annotations are out of the question as long as both lists of them are the same. -/
theorem of_eq (h : d.Annotated) (htable : d'.tables.annotations = d.tables.annotations)
    (hsection : d'.sections.annotations = d.sections.annotations) : d'.Annotated :=
  ⟨hsection ▸ h.shape, by rw [htable, hsection, h.words], hsection ▸ h.nodup⟩

theorem of_bare (h : d.Annotated) (hsame : d'.bare = d.bare) : d'.Annotated :=
  h.of_eq (view_eq hsame (·.tables.annotations) fun _ => rfl)
    (view_eq hsame (·.sections.annotations) fun _ => rfl)

/-- Nothing is annotated before the first call. -/
theorem empty (settings : ModuleSettings) : (Draft.empty settings).Annotated :=
  ⟨fun _ hi => absurd hi List.not_mem_nil, rfl, List.nodup_nil⟩

/-- The words of an annotation are known just if an annotation with these words is stated. -/
theorem contains_iff (h : d.Annotated) {words : List Word} :
    d.tables.annotations.contains words = true ↔
      ∃ i ∈ d.sections.annotations, i.encode = words := by
  rw [List.contains_iff_mem, h.words, List.mem_reverse, List.mem_map]

/-- One more annotation. -/
theorem add (h : d.Annotated) {i : Instruction} (hi : i.Annotates) :
    (d.addToAnnotations i).Annotated := by
  unfold addToAnnotations
  split
  · exact h
  · next hnew =>
      refine ⟨List.forall_mem_append.2 ⟨h.shape, List.forall_mem_singleton.2 hi⟩, ?_, ?_⟩
      · simp only [List.map_append, List.map_cons, List.map_nil, List.reverse_append,
          List.reverse_cons, List.reverse_nil, List.nil_append, List.singleton_append, h.words]
      · rw [List.map_append, List.map_cons, List.map_nil, ← List.concat_eq_append,
          List.nodup_concat]
        exact ⟨fun hmem => hnew (h.contains_iff.2 (List.mem_map.1 hmem)), h.nodup⟩

end Annotated

/-- A note is an annotation, or leaves annotations alone. -/
theorem Note.annotated {d d' : Draft} (h : d.Note d') (hd : d.Annotated) : d'.Annotated := by
  cases h with
  | decorate => exact hd.add (.decorate _ _ _)
  | decorateMember => exact hd.add (.member _ _ _ _)
  | capability c => exact hd.of_bare (d.bare_addCapability c)
  | extension text => exact hd.of_bare (d.bare_addExtension text)
  | source language version => exact hd.of_bare (d.bare_addSource language version)
  | name | nameMember => exact hd.of_bare (d.bare_addName _ _ _)
  | record | configure | entryPoint | executionMode | slot | builtIn => exact hd.of_eq rfl rfl

end Draft

namespace Account

variable {short exhausted : Prop} {a b : Account}

theorem Change.annotated (h : Change short exhausted a b) (ha : a.draft.Annotated) :
    b.draft.Annotated := by
  cases h with
  | note hnote => exact hnote.annotated ha
  | @defineConstant d id ids key => cases key <;> exact ha.of_eq rfl rfl
  | _ => exact ha.of_eq rfl rfl

/-- **Changes keep the annotations apart.** -/
theorem Changes.annotated (h : Changes short exhausted a b) (ha : a.draft.Annotated) :
    b.draft.Annotated :=
  h.preserves (P := fun a => a.draft.Annotated) Change.annotated ha

end Account

/-! ### The two decorations of a slot -/

/-- The codes tell which decorations are about slots. -/
theorem Decoration.isPlacement_iff (kind : Decoration) : kind.isPlacement = true ↔
    kind.code = Decoration.descriptorSet.code ∨ kind.code = Decoration.binding.code := by
  cases kind <;> decide

namespace Build

/-- The instruction is one of the two that make up a slot. -/
def IsRow (i : Instruction) : Prop := ∃ v word, i = setRow v word ∨ i = bindingRow v word

theorem IsRow.annotates {i : Instruction} (h : IsRow i) : i.Annotates := by
  obtain ⟨v, word, rfl | rfl⟩ := h
  · exact .decorate v .descriptorSet [.literal word]
  · exact .decorate v .binding [.literal word]

/-- Such instructions are told apart by their words. -/
theorem IsRow.eq_of_encode {i j : Instruction} (hi : IsRow i) (hj : IsRow j)
    (h : j.encode = i.encode) : j = i := by
  have hcodes : Decoration.descriptorSet.code ≠ Decoration.binding.code := by decide
  obtain ⟨v, word, rfl | rfl⟩ := hi <;> obtain ⟨w, word', rfl | rfl⟩ := hj <;>
    obtain ⟨-, htail⟩ := List.cons.inj h <;>
    simp_all [setRow, bindingRow, Instruction.tail, Instruction.plain, Operand.encode]

/-- An annotation with the words of such an instruction is about slots. -/
theorem IsRow.isPlacement_of_encode {i j : Instruction} (hi : IsRow i) (hj : j.Annotates)
    (h : j.encode = i.encode) : j.isPlacement = true := by
  obtain ⟨v, word, rfl | rfl⟩ := hi
  · obtain ⟨kind, operands, rfl, hcode, -⟩ := hj.of_encode rfl h
    exact (Decoration.isPlacement_iff kind).2 (.inl hcode)
  · obtain ⟨kind, operands, rfl, hcode, -⟩ := hj.of_encode rfl h
    exact (Decoration.isPlacement_iff kind).2 (.inr hcode)

end Build

namespace Draft

open Build

/-- What the annotations say about slots. -/
def placements (d : Draft) : List Instruction :=
  d.sections.annotations.filter (·.isPlacement)

theorem placements_addToAnnotations {d : Draft} {i : Instruction} (h : i.isPlacement = false) :
    (d.addToAnnotations i).placements = d.placements := by
  unfold addToAnnotations
  split
  · rfl
  · simp [placements, h]

/-- What is said about slots is out of reach of the steps that calls have in common. -/
instance steady_placements : Steady placements where
  addRecord _ _ := rfl
  takeId _ := rfl
  configure _ _ := rfl
  addCapability d c := view_eq (d.bare_addCapability c) placements fun _ => rfl
  addExtension d text := view_eq (d.bare_addExtension text) placements fun _ => rfl
  addSource d language version :=
    view_eq (d.bare_addSource language version) placements fun _ => rfl
  addName d target member i := view_eq (d.bare_addName target member i) placements fun _ => rfl
  addToAnnotations d i h := placements_addToAnnotations h
  addImport _ _ _ := rfl
  addTypeDefinition _ _ _ _ _ := rfl
  addConstantDefinition d key _ _ _ _ := by cases key <;> rfl
  addGlobalValue _ _ _ _ _ := rfl
  addSlot _ _ _ _ := rfl
  addBuiltIn _ _ _ := rfl
  addToBody _ _ := rfl
  addResult _ _ _ _ _ := rfl
  addReturn _ _ := rfl
  openBody _ _ _ := rfl
  addExecutionMode _ _ _ _ := rfl

end Draft

/-! ### Calls that say nothing about slots -/

/-- Only two operations say anything about slots. -/
theorem Operation.run_placements (o : Operation) (h : o.isPlacement = false) :
    Build.Preserves Draft.placements o.run := by
  cases hlink : o.isLink with
  | false => exact o.run_preserves hlink h
  -- neither does linking functions
  | true =>
      refine o.run_preserves_of fun hf d => ?_
      cases hf with
      | declare | define | entryPoint | close => rfl
      | _ => nomatch hlink

/-! ### Giving slots away -/

/-- Whether the operation decorates an id with a set or a number without taking a slot. -/
def Operation.decoratesPlace : Operation → Bool
  | .decorate _ decoration _ => decoration.isPlacement
  | _ => false

/-- The slot that the call has given to an id, if it is such a call and has succeeded. -/
def givenSlot? : Operation × Except Failure Answer → Option ((Word × Word) × Id)
  | (.descriptorBinding v set binding, .ok _) => some ((set, binding), v.id)
  | _ => none

namespace Draft

open Build

/-- The slots that a run gives away, each with the id that it goes to. -/
def given (d : Draft) (os : List Operation) : List ((Word × Word) × Id) :=
  (d.transcript os).filterMap givenSlot?

theorem given_cons (d : Draft) (o : Operation) (os : List Operation) : d.given (o :: os) =
    (givenSlot? (o, (o.run.runOn d).1)).toList ++ (d.step o).given os :=
  filterMap_transcript_cons givenSlot? d o os

/-- What the draft says about slots, in its table and in its annotations, are the slots that were
given away, and none of them was given away twice. -/
structure Placed (slots : List ((Word × Word) × Id)) (d : Draft) : Prop where
  placements : ∀ i, i ∈ d.placements ↔
    ∃ slot v, (slot, v) ∈ slots ∧ (i = setRow v slot.1 ∨ i = bindingRow v slot.2)
  table : ∀ slot v, (slot, v) ∈ slots → d.tables.slots.lookup slot = some v
  once : (slots.map Prod.fst).Nodup

variable {d : Draft} {slots : List ((Word × Word) × Id)}

/-- All that is said about slots are decorations of the two kinds. -/
theorem Placed.isRow (h : d.Placed slots) {i : Instruction} (hi : i ∈ d.placements) : IsRow i := by
  obtain ⟨slot, v, -, hrow | hrow⟩ := (h.placements i).1 hi
  · exact ⟨v, slot.1, .inl hrow⟩
  · exact ⟨v, slot.2, .inr hrow⟩

/-- One more decoration of the two kinds is there afterwards, for the first time or not. -/
theorem mem_placements_addToAnnotations (hd : d.Annotated) (hrows : ∀ j ∈ d.placements, IsRow j)
    {i : Instruction} (hi : IsRow i) (j : Instruction) :
    j ∈ (d.addToAnnotations i).placements ↔ j ∈ d.placements ∨ j = i := by
  have hplacement : i.isPlacement = true := by
    obtain ⟨v, word, rfl | rfl⟩ := hi <;> rfl
  unfold addToAnnotations
  split
  · next hknown =>
      obtain ⟨k, hk, hwords⟩ := hd.contains_iff.1 hknown
      have hmem : k ∈ d.placements :=
        List.mem_filter.2 ⟨hk, hi.isPlacement_of_encode (hd.shape k hk) hwords⟩
      obtain rfl := hi.eq_of_encode (hrows k hmem) hwords
      exact ⟨.inl, fun h => h.elim id (· ▸ hmem)⟩
  · show j ∈ (d.sections.annotations ++ [i]).filter _ ↔ _
    rw [List.filter_append, List.mem_append, List.filter_cons_of_pos hplacement, List.filter_nil,
      List.mem_singleton]
    rfl

/-- Annotations leave the table of slots alone. -/
theorem slots_addToAnnotations (d : Draft) (i : Instruction) :
    (d.addToAnnotations i).tables.slots = d.tables.slots :=
  view_eq (d.unannotated_addToAnnotations i) (·.tables.slots) fun _ => rfl

/-- What giving a slot away does.  What is not defined in the module cannot be decorated, but then
the slot is taken already. -/
theorem runOn_descriptorBinding (v : Value) (set binding : Word) (d : Draft) :
    (descriptorBinding v set binding).runOn d =
      match d.slotFor v set binding with
      | .error cause => (.error (.rejected cause), d)
      | .ok _ =>
          if d.isDefined v.id then
            (.ok (), ((d.addSlot set binding v.id).addToAnnotations
              (setRow v.id set)).addToAnnotations (bindingRow v.id binding))
          else (.error (.rejected (.missingTarget v.id)), d.addSlot set binding v.id) := by
  rw [descriptorBinding, runOn_bind, runOn_inspect]
  cases d.slotFor v set binding with
  | error cause => rfl
  | ok =>
      have hslot : (d.addSlot set binding v.id).isDefined v.id = d.isDefined v.id := rfl
      show (decorate v.id .descriptorSet [.literal set] >>= fun _ =>
        decorate v.id .binding [.literal binding]).runOn (d.addSlot set binding v.id) = _
      rw [runOn_bind, runOn_decorate, hslot]
      cases hdefined : d.isDefined v.id with
      | false => rfl
      | true =>
          simp only [if_true]
          rw [runOn_decorate, isDefined_addToAnnotations, hslot, hdefined]
          rfl

/-- A slot that has been given away: both decorations are there. -/
theorem Placed.give (h : d.Placed slots) (hd : d.Annotated) {v : Value} {set binding : Word}
    (hslot : d.slotFor v set binding = .ok ()) :
    (((d.addSlot set binding v.id).addToAnnotations
      (setRow v.id set)).addToAnnotations (bindingRow v.id binding)).Placed
        (slots ++ [((set, binding), v.id)]) := by
  have hfree : d.tables.slots.lookup (set, binding) = none := (slotFor_eq_ok_iff.1 hslot).free
  have hset : IsRow (setRow v.id set) := ⟨v.id, set, .inl rfl⟩
  have hbinding : IsRow (bindingRow v.id binding) := ⟨v.id, binding, .inr rfl⟩
  have hd' : (d.addSlot set binding v.id).Annotated := hd.of_eq rfl rfl
  have hrows : ∀ j ∈ (d.addSlot set binding v.id).placements, IsRow j := fun _ hj => h.isRow hj
  have hfirst := mem_placements_addToAnnotations hd' hrows hset
  -- The number is added to a draft that has the set.
  have hrows' : ∀ j ∈ ((d.addSlot set binding v.id).addToAnnotations (setRow v.id set)).placements,
      IsRow j := by
    intro j hj
    rcases (hfirst j).1 hj with hj | rfl
    · exact hrows j hj
    · exact hset
  have hsecond := mem_placements_addToAnnotations (hd'.add hset.annotates) hrows' hbinding
  refine ⟨fun i => ?_, fun slot w hw => ?_, ?_⟩
  · rw [hsecond, hfirst, show i ∈ (d.addSlot set binding v.id).placements ↔ _ from h.placements i,
      or_assoc]
    constructor
    · rintro (⟨slot, w, hw, hi⟩ | hi)
      · exact ⟨slot, w, List.mem_append_left _ hw, hi⟩
      · exact ⟨(set, binding), v.id, List.mem_append_right _ List.mem_cons_self, hi⟩
    · rintro ⟨slot, w, hw, hi⟩
      rcases List.mem_append.1 hw with hw | hw
      · exact .inl ⟨slot, w, hw, hi⟩
      · cases List.mem_singleton.1 hw
        exact .inr hi
  · rw [slots_addToAnnotations, slots_addToAnnotations]
    rcases List.mem_append.1 hw with hw | hw
    · exact Kept.cons hfree v.id _ _ (h.table slot w hw)
    · cases List.mem_singleton.1 hw
      exact List.lookup_cons_self
  · rw [List.map_append, List.map_cons, List.map_nil, ← List.concat_eq_append, List.nodup_concat]
    refine ⟨fun hmem => ?_, h.once⟩
    obtain ⟨⟨slot, w⟩, hw, rfl⟩ := List.mem_map.1 hmem
    cases (h.table _ w hw).symm.trans hfree

/-- A draft that says the same about slots, and whose table has all that it had. -/
theorem Placed.of_kept {d' : Draft} (h : d.Placed slots) (hsame : d'.placements = d.placements)
    (hkept : Kept d.tables.slots d'.tables.slots) : d'.Placed slots :=
  ⟨fun i => hsame ▸ h.placements i, fun slot v hv => hkept slot v (h.table slot v hv), h.once⟩

/-- **Every call gives away what it says it gives.** -/
theorem Placed.step {a : Account} (h : a.draft.Placed slots) (ha : a.Consistent)
    (hannotated : a.draft.Annotated) (o : Operation)
    (hdirect : o.decoratesPlace = false) :
    (a.draft.step o).Placed (slots ++ (givenSlot? (o, (o.run.runOn a.draft).1)).toList) := by
  obtain ⟨b, hb, hchanges, -⟩ := step_changes False o ha False.elim
  have hkept : Kept a.draft.tables.slots (a.draft.step o).tables.slots :=
    hb ▸ (hchanges.outgrows ha).tables.slots
  cases hplaces : o.isPlacement with
  | false =>
      have hnone (answer : Except Failure Answer) : givenSlot? (o, answer) = none := by
        cases o with
        | descriptorBinding => nomatch hplaces
        | _ => rfl
      rw [hnone, Option.toList_none, List.append_nil]
      exact h.of_kept ((o.run_placements hplaces).same a.draft) hkept
  | true =>
      cases o with
      | decorate => cases hdirect.symm.trans hplaces
      | descriptorBinding v set binding =>
          -- The slot may be taken, and the id may be unknown: then nothing is given away.
          have hrun : (Operation.descriptorBinding v set binding).run.runOn a.draft = _ :=
            (runOn_map Answer.ofUnit _ _).trans (by rw [runOn_descriptorBinding])
          unfold Draft.step at hkept ⊢
          rw [hrun] at hkept ⊢
          cases hslot : a.draft.slotFor v set binding with
          | error cause =>
              rw [hslot] at hkept
              exact (List.append_nil slots).symm ▸ h
          | ok =>
              cases hdefined : a.draft.isDefined v.id with
              | false =>
                  simp only [hslot, hdefined] at hkept ⊢
                  exact (List.append_nil slots).symm ▸ h.of_kept rfl hkept
              | true => exact h.give hannotated hslot
      | _ => nomatch hplaces

/-- **Every run gives away what it says it gives.** -/
theorem run_placed (os : List Operation) {a : Account} (ha : a.Consistent)
    (hannotated : a.draft.Annotated) (h : a.draft.Placed slots)
    (hdirect : ∀ o ∈ os, o.decoratesPlace = false) :
    (a.draft.after os).Annotated ∧ (a.draft.after os).Placed (slots ++ a.draft.given os) := by
  induction os generalizing a slots with
  | nil => exact ⟨hannotated, (List.append_nil slots).symm ▸ h⟩
  | cons o os ih =>
      obtain ⟨b, hb, hchanges, -⟩ := step_changes False o ha False.elim
      have hstep := h.step ha hannotated o (hdirect o List.mem_cons_self)
      rw [← hb] at hstep
      have hrest := ih (ha.after hchanges) (hchanges.annotated hannotated) hstep
        fun p hp => hdirect p (List.mem_cons_of_mem o hp)
      rw [List.append_assoc, hb] at hrest
      rw [given_cons]
      exact hrest

/-! ### Reading slots back -/

section reading

variable {m : ShaderModule}

/-- No id is decorated twice in the same way. -/
theorem Annotated.nodup_decorations (h : d.Annotated)
    (hm : m.annotations = d.sections.annotations) (v : Id) (kind : Decoration) :
    (m.decorations v kind).Nodup := by
  unfold ShaderModule.decorations
  rw [hm]
  refine List.pairwise_filterMap.2 ((List.Nodup.of_map _ h.nodup).imp_of_mem ?_)
  rintro i j hi hj hne operands hiread operands' hjread rfl
  exact hne (((h.shape i hi).eq_of_decoration? hiread).trans
    ((h.shape j hj).eq_of_decoration? hjread).symm)

/-- A decoration that is like all others of its kind is the only one. -/
theorem Annotated.decorations_eq (h : d.Annotated) (hm : m.annotations = d.sections.annotations)
    {v : Id} {kind : Decoration} {operands : List Operand}
    (honly : ∀ other, other ∈ m.decorations v kind ↔ other = operands) :
    m.decorations v kind = [operands] :=
  List.perm_singleton.1 ((List.perm_ext_iff_of_nodup (h.nodup_decorations hm v kind)
    (List.nodup_singleton _)).2 fun other => (honly other).trans List.mem_singleton.symm)

variable (h : d.Placed slots) (hd : d.Annotated) (hm : m.annotations = d.sections.annotations)

include h hd hm

/-- What decorations of the two kinds say comes from slots that were given away. -/
theorem Placed.mem_decorations {v : Id} {kind : Decoration} (hkind : kind.isPlacement = true)
    {operands : List Operand} : operands ∈ m.decorations v kind ↔
      ∃ slot, (slot, v) ∈ slots ∧ (kind = .descriptorSet ∧ operands = [.literal slot.1] ∨
        kind = .binding ∧ operands = [.literal slot.2]) := by
  unfold ShaderModule.decorations
  rw [hm, List.mem_filterMap]
  constructor
  · rintro ⟨i, hi, hread⟩
    obtain rfl := (hd.shape i hi).eq_of_decoration? hread
    obtain ⟨slot, w, hw, hrow | hrow⟩ := (h.placements _).1 (List.mem_filter.2 ⟨hi, hkind⟩)
    · cases hrow
      exact ⟨slot, hw, .inl ⟨rfl, rfl⟩⟩
    · cases hrow
      exact ⟨slot, hw, .inr ⟨rfl, rfl⟩⟩
  · rintro ⟨slot, hv, ⟨rfl, rfl⟩ | ⟨rfl, rfl⟩⟩
    · have hrow := (h.placements (setRow v slot.1)).2 ⟨slot, v, hv, .inl rfl⟩
      exact ⟨_, (List.mem_filter.1 hrow).1, if_pos ⟨rfl, rfl⟩⟩
    · have hrow := (h.placements (bindingRow v slot.2)).2 ⟨slot, v, hv, .inr rfl⟩
      exact ⟨_, (List.mem_filter.1 hrow).1, if_pos ⟨rfl, rfl⟩⟩

theorem Placed.mem_descriptorSet {v : Id} {operands : List Operand} :
    operands ∈ m.decorations v .descriptorSet ↔
      ∃ slot, (slot, v) ∈ slots ∧ operands = [.literal slot.1] := by
  refine (h.mem_decorations hd hm rfl).trans (exists_congr fun slot => and_congr_right fun _ => ?_)
  simp

theorem Placed.mem_binding {v : Id} {operands : List Operand} :
    operands ∈ m.decorations v .binding ↔
      ∃ slot, (slot, v) ∈ slots ∧ operands = [.literal slot.2] := by
  refine (h.mem_decorations hd hm rfl).trans (exists_congr fun slot => and_congr_right fun _ => ?_)
  simp

/-- An id has one set and one number just if it was given one slot. -/
theorem Placed.foundAt_iff {v : Id} {set binding : Word} : m.FoundAt v set binding ↔
    ∀ slot, (slot, v) ∈ slots ↔ slot = (set, binding) := by
  constructor
  · rintro ⟨hset, hbinding⟩
    have honly {slot : Word × Word} (hslot : (slot, v) ∈ slots) : slot = (set, binding) := by
      have hfirst := (h.mem_descriptorSet hd hm).2 ⟨slot, hslot, rfl⟩
      have hsecond := (h.mem_binding hd hm).2 ⟨slot, hslot, rfl⟩
      rw [hset] at hfirst
      rw [hbinding] at hsecond
      simp only [List.mem_singleton, List.cons.injEq, Operand.literal.injEq, and_true]
        at hfirst hsecond
      exact Prod.ext hfirst hsecond
    refine fun slot => ⟨honly, ?_⟩
    rintro rfl
    obtain ⟨slot, hslot, -⟩ := (h.mem_descriptorSet hd hm).1 (hset ▸ List.mem_cons_self)
    exact honly hslot ▸ hslot
  · intro honly
    exact ⟨hd.decorations_eq hm fun other => by simp [h.mem_descriptorSet hd hm, honly],
      hd.decorations_eq hm fun other => by simp [h.mem_binding hd hm, honly]⟩

/-- No slot is found at two ids. -/
theorem Placed.foundAt_unique {v w : Id} {set binding : Word} (hv : m.FoundAt v set binding)
    (hw : m.FoundAt w set binding) : v = w := by
  have hv' := h.table _ v (((h.foundAt_iff hd hm).1 hv _).2 rfl)
  have hw' := h.table _ w (((h.foundAt_iff hd hm).1 hw _).2 rfl)
  exact Option.some.inj (hv'.symm.trans hw')

end reading

/-- **What a reader of the module learns about slots.**  In any run that decorates no id with a set
or a number but by giving it a slot:

* no slot is given away twice;
* the sets of an id are those of the slots that it was given, each once, and so are its numbers;
* an id has one set and one number just if it was given one slot, which they make up;
* no two such ids have the same. -/
theorem finished_placed (settings : ModuleSettings) (os : List Operation)
    (hdirect : ∀ o ∈ os, o.decoratesPlace = false) {m : ShaderModule}
    (hm : (Build.finish.runOn ((empty settings).after os)).1 = .ok m) :
    ((empty settings).given os |>.map Prod.fst).Nodup ∧
    (∀ v, (m.decorations v .descriptorSet).Nodup ∧ (m.decorations v .binding).Nodup) ∧
    (∀ v operands, operands ∈ m.decorations v .descriptorSet ↔
      ∃ slot, (slot, v) ∈ (empty settings).given os ∧ operands = [.literal slot.1]) ∧
    (∀ v operands, operands ∈ m.decorations v .binding ↔
      ∃ slot, (slot, v) ∈ (empty settings).given os ∧ operands = [.literal slot.2]) ∧
    (∀ v set binding, m.FoundAt v set binding ↔
      ∀ slot, (slot, v) ∈ (empty settings).given os ↔ slot = (set, binding)) ∧
    ∀ v w set binding, m.FoundAt v set binding → m.FoundAt w set binding → v = w := by
  have hnone : (empty settings).Placed [] :=
    ⟨fun i => by simp [placements, empty], fun _ _ h => absurd h List.not_mem_nil, List.nodup_nil⟩
  obtain ⟨hd, h⟩ := run_placed os (Account.Consistent.empty settings) (.empty settings) hnone hdirect
  rw [List.nil_append] at h
  have hannotations : m.annotations = ((empty settings).after os).sections.annotations :=
    part_of_finished (finished_of_finish hm) (k := .annotations) (by decide)
  have hnodup := hd.nodup_decorations hannotations
  exact ⟨h.once, fun v => ⟨hnodup v _, hnodup v _⟩, fun _ _ => h.mem_descriptorSet hd hannotations,
    fun _ _ => h.mem_binding hd hannotations, fun _ _ _ => h.foundAt_iff hd hannotations,
    fun _ _ _ _ => h.foundAt_unique hd hannotations⟩

/-- Calls that give two variables a slot each, in different sets. -/
def twoSamplersCalls : List Operation :=
  [.uniformConstant .sampler, .uniformConstant .sampler, .descriptorBinding ⟨3, 2⟩ 0 0,
    .descriptorBinding ⟨4, 2⟩ 1 0]

/-- Both samplers are found where they were put. -/
theorem finished_placed_of_samplers :
    (∀ o ∈ twoSamplersCalls, o.decoratesPlace = false) ∧
      ∃ m, (Build.finish.runOn ((empty {}).after twoSamplersCalls)).1 = .ok m ∧
        m.FoundAt 3 0 0 ∧ m.FoundAt 4 1 0 := by
  have hdirect : ∀ o ∈ twoSamplersCalls, o.decoratesPlace = false := by decide
  have hgiven : (empty {}).given twoSamplersCalls = [((0, 0), 3), ((1, 0), 4)] := by decide +kernel
  obtain ⟨m, hm⟩ : ∃ m, (Build.finish.runOn ((empty {}).after twoSamplersCalls)).1 = .ok m :=
    exists_finished_iff.2 (by decide +kernel)
  obtain ⟨-, -, -, -, hfound, -⟩ := finished_placed {} twoSamplersCalls hdirect hm
  rw [hgiven] at hfound
  exact ⟨hdirect, m, hm, (hfound 3 0 0).2 (by simp), (hfound 4 1 0).2 (by simp)⟩

/-- Calls that give one variable two slots in one set. -/
def twoSlotsCalls : List Operation :=
  [.uniformConstant .sampler, .descriptorBinding ⟨3, 2⟩ 0 0, .descriptorBinding ⟨3, 2⟩ 0 1]

/-- An id that was given two slots is found at neither of them. -/
theorem not_foundAt_of_two_slots : ¬ ∀ (settings : ModuleSettings) (os : List Operation)
    (m : ShaderModule), (∀ o ∈ os, o.decoratesPlace = false) →
    (Build.finish.runOn ((empty settings).after os)).1 = .ok m →
    (∀ v set binding, ((set, binding), v) ∈ (empty settings).given os → m.FoundAt v set binding) ∧
    ∀ v w set binding, [.literal set] ∈ m.decorations v .descriptorSet →
      [.literal binding] ∈ m.decorations v .binding →
      [.literal set] ∈ m.decorations w .descriptorSet →
      [.literal binding] ∈ m.decorations w .binding → v = w := by
  intro hall
  obtain ⟨m, hm⟩ : ∃ m, (Build.finish.runOn ((empty {}).after twoSlotsCalls)).1 = .ok m :=
    exists_finished_iff.2 (by decide +kernel)
  obtain ⟨hfound, -⟩ := hall {} twoSlotsCalls m (by decide) hm
  obtain ⟨-, hfirst⟩ := hfound 3 0 0 (by decide +kernel)
  obtain ⟨-, hsecond⟩ := hfound 3 0 1 (by decide +kernel)
  exact absurd (hfirst.symm.trans hsecond) (by decide)

end Draft

end FrameShader
