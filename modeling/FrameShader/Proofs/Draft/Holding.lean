/-
Holding: which variables hold built-in values.

A call for a built-in value makes a variable and says what it holds.  The draft remembers the variable,
and answers with it whenever the value is asked for again.  As nobody says so but the draft, if only
callers leave this decoration alone, a built-in value has one variable or none.

Main definitions:

* `FrameShader.ShaderModule.holders` — what is said to hold a built-in value;
* `FrameShader.Draft.Holding` — a draft says so of the variables that it remembers.

Main results:

* `FrameShader.Draft.lookup_of_transcript` — **a built-in value has one variable in a run**, whoever
  asks for it;
* `FrameShader.Draft.Holding.holders_eq` — this is the one that is said to hold it.
-/

import FrameShader.Proofs.Draft.Declaring
import FrameShader.Proofs.Draft.Striding

set_option relaxedAutoImplicit false
set_option autoImplicit false

namespace FrameShader

open Build

/-- What is said to hold the built-in value, if the instruction says so of anything. -/
def Instruction.holder? (builtIn : BuiltIn) (i : Instruction) : Option Id :=
  match i.opcode, i.operands with
  | .decorate, .id target :: .decoration .builtIn :: .builtIn found :: _ =>
      if found = builtIn then some target else none
  | _, _ => none

/-- All that is said to hold the built-in value. -/
def ShaderModule.holders (m : ShaderModule) (builtIn : BuiltIn) : List Id :=
  m.annotations.filterMap (·.holder? builtIn)

theorem Instruction.holder?_builtInRow (v : Id) (builtIn : BuiltIn) :
    (builtInRow v builtIn).holder? builtIn = some v :=
  if_pos rfl

/-- A holder is read off a decoration. -/
theorem Instruction.Annotates.exists_of_holder? {i : Instruction} (hi : i.Annotates)
    {builtIn : BuiltIn} {v : Id} (h : i.holder? builtIn = some v) :
    ∃ operands, i = .plain .decorate
      (.id v :: .decoration .builtIn :: .builtIn builtIn :: operands) := by
  unfold holder? at h
  split at h
  · next target found operands hopcode hoperands =>
      split at h
      · next hfound =>
          obtain rfl := Option.some.inj h
          cases hi with
          | decorate =>
              cases hoperands
              exact ⟨operands, by rw [hfound]⟩
          | member => cases hopcode
      · cases h
  · cases h

/-- Built-in values have different numbers. -/
theorem BuiltIn.code_injective {a b : BuiltIn} (h : a.code = b.code) : a = b := by
  cases a <;> cases b <;> first | rfl | cases h

/-- An annotation with the words that say what a variable holds says so of this variable. -/
theorem Instruction.Annotates.eq_of_builtInRow {i : Instruction} (hi : i.Annotates) {v : Id}
    {builtIn : BuiltIn} (h : i.encode = (builtInRow v builtIn).encode) :
    ∃ operands, i = .plain .decorate (.id v :: .decoration .builtIn :: operands) ∧
      operands.flatMap Operand.encode = [builtIn.code] := by
  obtain ⟨kind, operands, rfl, hcode, hoperands⟩ := hi.of_encode rfl h
  have hkind : kind = .builtIn := by
    revert hcode
    cases kind <;> decide
  rw [hkind]
  exact ⟨operands, rfl, hoperands⟩

namespace Draft

variable {d : Draft} {m : ShaderModule} {builtIn : BuiltIn} {v : Id}

/-- What is said to hold a built-in value is a variable that the draft remembers for it. -/
def Holding (d : Draft) : Prop :=
  ∀ v operands,
    .plain .decorate (.id v :: .decoration .builtIn :: operands) ∈ d.sections.annotations →
    ∃ builtIn type, (builtIn, ⟨v, type⟩) ∈ d.tables.builtIns ∧ operands = [.builtIn builtIn]

/-- The draft says so of its own variables, as long as nobody else says so. -/
theorem holding_after (settings : ModuleSettings) {os : List Operation}
    (hdirect : ∀ o ∈ os, o.decorates .builtIn = false) : ((empty settings).after os).Holding := by
  intro v operands hi
  have hown := own_of_decoration hdirect hi
  generalize hrow : Instruction.plain _ _ = i at hown
  cases hown with
  | builtIn hv =>
      cases hrow
      exact ⟨_, _, hv, rfl⟩
  | _ => cases hrow

namespace Holding

variable (h : d.Holding) (hannotated : d.Annotated) (hfurnished : d.Furnished)
  (hkeys : (d.tables.builtIns.map Prod.fst).Nodup) (hm : m.annotations = d.sections.annotations)

include h hannotated

/-- What is read as a holder is a variable that the draft remembers, and written as the draft writes
it. -/
theorem eq_builtInRow {i : Instruction} (hi : i ∈ d.sections.annotations)
    (hread : i.holder? builtIn = some v) :
    i = builtInRow v builtIn ∧ ∃ type, (builtIn, ⟨v, type⟩) ∈ d.tables.builtIns := by
  obtain ⟨operands, rfl⟩ := (hannotated.shape i hi).exists_of_holder? hread
  obtain ⟨other, type, hknown, hsame⟩ := h v _ hi
  cases hsame
  exact ⟨rfl, type, hknown⟩

include hm

/-- Nothing is said twice to hold a built-in value. -/
theorem nodup_holders (builtIn : BuiltIn) : (m.holders builtIn).Nodup := by
  unfold ShaderModule.holders
  rw [hm]
  refine List.pairwise_filterMap.2 ((List.Nodup.of_map _ hannotated.nodup).imp_of_mem ?_)
  rintro i j hi hj hne v hiread _ hjread rfl
  exact hne ((h.eq_builtInRow hannotated hi hiread).1.trans
    (h.eq_builtInRow hannotated hj hjread).1.symm)

include hfurnished hkeys

/-- The variables that the draft remembers are those that are said to hold something. -/
theorem mem_holders :
    v ∈ m.holders builtIn ↔ ∃ type, d.tables.builtIns.lookup builtIn = some ⟨v, type⟩ := by
  unfold ShaderModule.holders
  rw [hm, List.mem_filterMap]
  constructor
  · rintro ⟨i, hi, hread⟩
    obtain ⟨-, type, hknown⟩ := h.eq_builtInRow hannotated hi hread
    exact ⟨type, lookup_eq_some_of_mem hkeys hknown⟩
  · rintro ⟨type, hknown⟩
    -- some annotation has the words that say so, and there is only one way to write them
    have hstated := hannotated.statedIn_iff.2 (hfurnished.builtIns builtIn _ hknown).2
    obtain ⟨i, hi, hwords⟩ := List.mem_map.1 hstated
    obtain ⟨operands, rfl, hoperands⟩ := (hannotated.shape i hi).eq_of_builtInRow hwords
    obtain ⟨other, _, -, rfl⟩ := h v operands hi
    obtain rfl : other = builtIn := BuiltIn.code_injective (List.cons.inj hoperands).1
    exact ⟨_, hi, Instruction.holder?_builtInRow v other⟩

/-- A built-in value is held by the variable that the draft remembers, and by no other. -/
theorem holders_eq (builtIn : BuiltIn) :
    m.holders builtIn = ((d.tables.builtIns.lookup builtIn).map Value.id).toList := by
  cases hknown : d.tables.builtIns.lookup builtIn with
  | none =>
      refine List.eq_nil_iff_forall_not_mem.2 fun v hv => ?_
      obtain ⟨type, hv⟩ := (h.mem_holders hannotated hfurnished hkeys hm).1 hv
      cases hknown.symm.trans hv
  | some w =>
      refine List.perm_singleton.1 ((List.perm_ext_iff_of_nodup
        (h.nodup_holders hannotated hm builtIn) (List.nodup_singleton _)).2 fun v => ?_)
      rw [h.mem_holders hannotated hfurnished hkeys hm, hknown, List.mem_singleton]
      constructor
      · rintro ⟨type, hv⟩
        rw [Option.some.inj hv]
      · rintro rfl
        exact ⟨w.type, rfl⟩

end Holding

/-- **A built-in value has one variable in a run.**  Whoever has asked for it was answered with the
variable that the draft remembers in the end. -/
theorem lookup_of_transcript {settings : ModuleSettings} {os : List Operation} {t : DataType}
    {v : Value} (h : (.builtInInput builtIn t, .ok (.value v)) ∈ (empty settings).transcript os) :
    ((empty settings).after os).tables.builtIns.lookup builtIn = some v := by
  obtain ⟨a, b, c, ⟨-, hknown, -⟩, hb, hbc, hc⟩ :=
    exists_of_transcript h rfl fun ha hchanges =>
      builtInInput_provides ha
        (hchanges.knowsBuiltIns (.empty settings) fun _ _ hv => nomatch hv) builtIn t
  rw [← hc]
  exact (hbc.outgrows hb).tables.builtIns _ _ hknown

end Draft

end FrameShader
