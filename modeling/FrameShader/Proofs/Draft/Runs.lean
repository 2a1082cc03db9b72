/-
Runs: what any list of calls does to a draft.

Every call only makes changes, whether it succeeds or fails, so a run of calls only makes changes.
Two things depend on how the calls went.  As long as there are ids, no reserved id is lost.  And a
call that succeeds leaves no id unused, unless it was asked for the id itself.

Main definitions:

* `FrameShader.Operation.argumentCount` — how long the lists are that a call is given;
* `FrameShader.Draft.HasIds`, `FrameShader.Draft.Succeeds` — no call of a run finds the ids used up,
  and every call of a run succeeds.

Main results:

* `FrameShader.Operation.run_does` — **every call only makes changes**;
* `FrameShader.Draft.after_changes`, `FrameShader.Draft.Succeeds.changes` — so does every run.
-/

import FrameShader.Proofs.Draft.Emitting
import FrameShader.Proofs.Draft.Opening

set_option relaxedAutoImplicit false
set_option autoImplicit false

namespace FrameShader

/-! ### Calls as data -/

namespace Operation

/-- How many arguments the list has that a call is given, if it is given one. -/
def argumentCount : Operation → Nat
  | .beginFunction _ _ parameters _ => parameters.length
  | .declareFunction _ parameters => parameters.length
  | .defineFunction _ _ _ parameters _ => parameters.length
  | .beginEntryPoint _ interface => interface.length
  | .executionMode _ _ literals => literals.length
  | .callFunction _ arguments => arguments.length
  | .extInst _ _ _ arguments => arguments.length
  | .compositeConstruct _ parts => parts.length
  | .vectorShuffle _ _ indices => indices.length
  | .swizzle _ indices => indices.length
  | .constantComposite _ parts => parts.length
  | .constVector _ values => values.length
  | .decorate _ _ operands => operands.length
  | .decorateMember _ _ _ operands => operands.length
  | .accessChain _ indices => indices.length
  | _ => 0

/-- The spare ids after a call that succeeds: the id itself is spare if it is all the call was asked
for. -/
def spareAfter (a : Account) : Operation → List Id
  | .freshId => a.draft.nextId :: a.spare
  | _ => a.spare

end Operation

namespace Build

variable {short : Prop} {a : Account}

/-- Rephrasing the answer of a call. -/
theorem Does.map {α β : Type} {call : Build α} {P : α → Account → Prop}
    {Q : β → Account → Prop} {f : α → β} (h : Does short call a P)
    (himp : ∀ v b, P v b → Q (f v) b) : Does short (f <$> call) a Q := by
  unfold Does at h ⊢
  rw [runOn_map]
  generalize call.runOn a.draft = r at h ⊢
  rcases r with ⟨e | v, d⟩
  · exact h
  · obtain ⟨b, hb, hchanges, hP⟩ := h
    exact ⟨b, hb, hchanges, himp v b hP⟩

/-- Looking at the draft and doing nothing else. -/
theorem Does.look {α β : Type} {view : Draft → Except BuildError α} {f : α → β}
    {Q : β → Account → Prop} (h : ∀ v, Q v a) : Does short (f <$> Build.inspect view) a Q := by
  unfold Does
  rw [runOn_map, runOn_inspect]
  cases view a.draft with
  | error cause => exact ⟨a, rfl, .refl a⟩
  | ok v => exact ⟨a, rfl, .refl a, h (f v)⟩

theorem freshId_does (ha : a.Consistent) : Does short freshId a fun _ b => b = a.take := by
  rw [← bind_pure freshId]
  exact .freshId ha fun _ => .pure rfl

end Build

section run

variable {short : Prop} {a : Account}

open Build

/-- **Every call only makes changes.** -/
theorem Operation.run_does (o : Operation) (ha : a.Consistent)
    (hshort : short → o.argumentCount < 2 ^ 30) :
    Does short o.run a fun _ b => b.spare = o.spareAfter a := by
  cases o with
  | freshId =>
      refine .map (freshId_does ha) ?_
      rintro _ _ rfl
      rfl
  | configure c => exact .map (.of_change (.note (.configure c)) rfl) fun _ _ => id
  | capability c => exact .map (capability_does c) fun _ _ h => h.spare
  | extension text => exact .map (extension_does text) fun _ _ h => h.spare
  | importSet text => exact .map (importSet_does ha text) fun _ _ h => h.2.1
  | typeId t => exact .map (typeId_does t ha) fun _ _ h => h.2.spare
  | dataType id => exact .look fun _ => rfl
  | typeOf id => exact .get (.pure rfl)
  | check opcode v => exact .look fun _ => rfl
  | literal id => exact .get (.pure rfl)
  | beginFunction text result parameters control =>
      exact .map (beginFunction_does ha text result parameters control) fun _ _ h => h.1
  | declareFunction result parameters =>
      exact .map (declareFunction_does ha result parameters) fun _ _ => id
  | defineFunction id text result parameters control =>
      exact .map (defineFunction_does ha id text result parameters control) fun _ _ h => h
  | beginEntryPoint text interface =>
      exact .map (beginEntryPoint_does ha text interface) fun _ _ => id
  | executionMode id mode literals =>
      exact .map (executionMode_does id mode literals) fun _ _ h => h
  | localSize id x y z => exact .map (executionMode_does id _ _) fun _ _ h => h
  | returnFunction value => exact .map (returnFunction_does ha value) fun _ _ => id
  | endFunction => exact .map (endFunction_does ha) fun _ _ => id
  | callFunction id args => exact .map (callFunction_does ha id args) fun _ _ h => h
  | fAdd v w => exact .map (floatBinary_does ha (by simp [Draft.isArithmetic]) v w) fun _ _ => id
  | fSub v w => exact .map (floatBinary_does ha (by simp [Draft.isArithmetic]) v w) fun _ _ => id
  | fMul v w => exact .map (floatBinary_does ha (by simp [Draft.isArithmetic]) v w) fun _ _ => id
  | fMod v w => exact .map (floatBinary_does ha (by simp [Draft.isArithmetic]) v w) fun _ _ => id
  | dot v w => exact .map (dot_does ha v w) fun _ _ => id
  | fOrdEqual v w => exact .map (fOrdEqual_does ha v w) fun _ _ => id
  | vectorTimesScalar v x => exact .map (vectorTimesScalar_does ha v x) fun _ _ => id
  | extInst text number type args =>
      exact .map (extInst_does ha text number type args) fun _ _ => id
  | floor v => exact .map (floor_does ha v) fun _ _ => id
  | convertUToF v target => exact .map (convertUToF_does ha v target) fun _ _ => id
  | select condition accept refuse =>
      exact .map (select_does ha condition accept refuse) fun _ _ => id
  | compositeConstruct t parts =>
      exact .map (compositeConstruct_does ha t parts hshort) fun _ _ => id
  | splat v width => exact .map (splat_does ha v width) fun _ _ => id
  | compositeExtract v index => exact .map (compositeExtract_does ha v index) fun _ _ => id
  | vectorShuffle v w indices =>
      exact .map (vectorShuffle_does ha v w indices hshort) fun _ _ => id
  | swizzle v indices => exact .map (swizzle_does ha v indices hshort) fun _ _ => id
  | constantBool value => exact .map (constantBool_does ha value) fun _ _ h => h.1.spare
  | constantScalar t value => exact .map (constantScalar_does ha t value) fun _ _ h => h.1.spare
  | constantComposite t parts => exact .map (constantComposite_does ha t parts) fun _ _ h => h.2.1.spare
  | constUInt value => exact .map (constantScalar_does ha _ _) fun _ _ h => h.1.spare
  | constFloat s value => exact .map (constFloat_does ha s value) fun _ _ h => h.1.spare
  | constVector s values => exact .map (constVector_does ha s values) fun _ _ h => h.1.spare
  | sampledImage image sampler => exact .map (sampledImage_does ha image sampler) fun _ _ => id
  | imageSampleExplicitLod image coordinate lod =>
      exact .map (imageSampleExplicitLod_does ha image coordinate lod) fun _ _ => id
  | sampleImage image sampler coordinate =>
      exact .map (sampleImage_does ha image sampler coordinate) fun _ _ => id
  | decorate id decoration operands =>
      exact .map (decorate_does id decoration operands) fun _ _ h => h.spare
  | decorateMember id member decoration operands =>
      exact .map (decorateMember_does id member decoration operands) fun _ _ h => h.spare
  | descriptorBinding v set binding =>
      exact .map (descriptorBinding_does ha v set binding) fun _ _ => id
  | storageBuffer element access =>
      exact .map (storageBuffer_does ha element access) fun _ _ => id
  | uniformConstant t => exact .map (globalVariable_does ha _ t) fun _ _ h => h.1
  | builtInInput builtIn t => exact .map (builtInInput_does ha builtIn t) fun _ _ => id
  | globalVariable storage t => exact .map (globalVariable_does ha storage t) fun _ _ h => h.1
  | accessChain base indices => exact .map (accessChain_does ha base indices) fun _ _ => id
  | load pointer => exact .map (load_does ha pointer) fun _ _ => id
  | store pointer value => exact .map (store_does pointer value) fun _ _ => id
  | source language version =>
      exact .map (.of_change (.note (.source language version)) rfl) fun _ _ => id
  | name id text => exact .map (name_does id text) fun _ _ h => h.spare
  | nameMember id member text => exact .map (nameMember_does id member text) fun _ _ h => h

end run

/-! ### Runs -/

namespace Draft

/-- No call of a run finds the ids used up. -/
def HasIds (d : Draft) : List Operation → Prop
  | [] => True
  | o :: os => (o.run.runOn d).1 ≠ .error (.overflow .increment) ∧ (d.step o).HasIds os

/-- Every call of a run succeeds. -/
def Succeeds (d : Draft) : List Operation → Prop
  | [] => True
  | o :: os => (o.run.runOn d).1.isOk = true ∧ (d.step o).Succeeds os

instance decidableHasIds : (d : Draft) → (os : List Operation) → Decidable (d.HasIds os)
  | _, [] => .isTrue trivial
  | d, o :: os => @instDecidableAnd _ _ _ (decidableHasIds (d.step o) os)

instance decidableSucceeds : (d : Draft) → (os : List Operation) → Decidable (d.Succeeds os)
  | _, [] => .isTrue trivial
  | d, o :: os => @instDecidableAnd _ _ _ (decidableSucceeds (d.step o) os)

/-- One call only makes changes, and if it succeeds, no new id is spare. -/
theorem step_changes (short : Prop) (o : Operation) {a : Account} (ha : a.Consistent)
    (hshort : short → o.argumentCount < 2 ^ 30) :
    ∃ b : Account, b.draft = a.draft.step o ∧
      a.Changes short ((o.run.runOn a.draft).1 = .error (.overflow .increment)) b ∧
      ((o.run.runOn a.draft).1.isOk = true → b.spare = o.spareAfter a) := by
  have hdoes := o.run_does ha hshort
  unfold Build.Does at hdoes
  unfold step
  generalize o.run.runOn a.draft = r at hdoes ⊢
  rcases r with ⟨e | answer, d⟩
  · obtain ⟨b, hb, hchanges⟩ := hdoes
    exact ⟨b, hb, hchanges.mono (fun h => by rw [h]), fun h => nomatch h⟩
  · obtain ⟨b, hb, hchanges, hspare⟩ := hdoes
    exact ⟨b, hb, hchanges.mono False.elim, fun _ => hspare⟩

/-- **A run only makes changes**, and while there are ids, no reserved id is lost. -/
theorem after_changes (short : Prop) (os : List Operation) {a : Account} (ha : a.Consistent)
    (hshort : short → ∀ o ∈ os, o.argumentCount < 2 ^ 30) :
    ∃ b : Account, b.draft = a.draft.after os ∧ a.Changes short (¬ a.draft.HasIds os) b := by
  induction os generalizing a with
  | nil => exact ⟨a, rfl, .refl a⟩
  | cons o os ih =>
      obtain ⟨b, hb, hstep, -⟩ :=
        step_changes short o ha fun h => hshort h o List.mem_cons_self
      obtain ⟨c, hc, hrest⟩ :=
        ih (ha.after hstep) fun h p hp => hshort h p (List.mem_cons_of_mem o hp)
      rw [hb] at hc hrest
      refine ⟨c, hc, (hstep.mono ?_).trans (hrest.mono ?_)⟩
      · exact fun h hids => hids.1 h
      · exact fun h hids => h hids.2

/-- **A run in which every call succeeds leaves no id unused**, unless it asks for ids. -/
theorem Succeeds.changes {os : List Operation} {a : Account} (h : a.draft.Succeeds os)
    (ha : a.Consistent) (hnone : .freshId ∉ os) :
    ∃ b : Account, b.draft = a.draft.after os ∧ a.Changes False False b ∧ b.spare = a.spare := by
  induction os generalizing a with
  | nil => exact ⟨a, rfl, .refl a, rfl⟩
  | cons o os ih =>
      obtain ⟨hok, hrest⟩ := h
      obtain ⟨b, hb, hstep, hspare⟩ := step_changes False o ha False.elim
      have hstep' : a.Changes False False b :=
        hstep.mono fun herror => by
          rw [herror] at hok
          cases hok
      rw [← hb] at hrest
      obtain ⟨c, hc, hchanges, hspare'⟩ :=
        ih hrest (ha.after hstep) fun hmem => hnone (List.mem_cons_of_mem o hmem)
      refine ⟨c, by rw [hc, hb, after_cons], hstep'.trans hchanges, hspare'.trans ?_⟩
      rw [hspare hok]
      cases o with
      | freshId => exact absurd List.mem_cons_self hnone
      | _ => rfl

/-- Where a run from the start leads. -/
theorem run_account (short : Prop) (settings : ModuleSettings) (os : List Operation)
    (hshort : short → ∀ o ∈ os, o.argumentCount < 2 ^ 30) :
    ∃ b : Account, b.draft = (empty settings).after os ∧
      Account.Changes short (¬ (empty settings).HasIds os) ⟨empty settings, []⟩ b ∧
        b.Consistent := by
  obtain ⟨b, hb, hchanges⟩ := after_changes short os (Account.Consistent.empty settings) hshort
  exact ⟨b, hb, hchanges, (Account.Consistent.empty settings).after hchanges⟩

/-- Calls that declare a function, call it from an entry point, and define it at last. -/
def sampleCalls : List Operation :=
  [.constFloat (.float 32) (.ofInt 1),
    .declareFunction (.float 32) [.float 32],
    .beginEntryPoint "main" [],
    .callFunction 4 [⟨2, 1⟩],
    .fAdd ⟨9, 1⟩ ⟨2, 1⟩,
    .returnFunction none,
    .endFunction,
    .defineFunction 4 "double" (.float 32) [.float 32] .none,
    .fAdd ⟨11, 1⟩ ⟨11, 1⟩,
    .returnFunction (some ⟨13, 1⟩),
    .endFunction]

/-- The calls of the sample finish a module. -/
theorem exists_sampleModule :
    ∃ m, (Build.finish.runOn ((empty {}).after sampleCalls)).1 = .ok m := by
  have hok : (Build.finish.runOn ((empty {}).after sampleCalls)).1.isOk = true := by
    decide +kernel
  cases h : (Build.finish.runOn ((empty {}).after sampleCalls)).1 with
  | error e =>
      rw [h] at hok
      cases hok
  | ok m => exact ⟨m, rfl⟩

end Draft

/-- Where a call that succeeds leads, and where further calls lead from there. -/
theorem Build.Does.exists_after {α : Type} {call : Build α} {a : Account} {P : α → Account → Prop}
    (h : Does False call a P) (ha : a.Consistent) (os : List Operation) {v : α} {d : Draft}
    (hrun : call.runOn a.draft = (.ok v, d)) :
    ∃ b c : Account, P v b ∧ b.Consistent ∧ b.Changes False True c ∧ a.Changes False True c ∧
      c.draft = d.after os := by
  obtain ⟨b, rfl, hab, hP⟩ := h.exists_of_ok hrun
  obtain ⟨c, hc, hbc⟩ := Draft.after_changes False os (ha.after hab) False.elim
  have hbc' : b.Changes False True c := hbc.mono fun _ => trivial
  exact ⟨b, c, hP, ha.after hab, hbc', (Account.Changes.mono False.elim hab).trans hbc', hc⟩

end FrameShader
