/-
Affording: calls that succeed as long as there are ids.

A call fails for a reason that it finds in the draft, or because it asks for an id when there are no
more of them.  The calls below find no reason to fail, given what they are asked for.  So what is left
to tell is how many ids they may need.

Main definitions:

* `FrameShader.Build.Affords` — a call that succeeds unless the ids run out;
* `FrameShader.DataType.isDefinable`, `FrameShader.DataType.parts` — types that can be defined, and how
  many definitions this takes.

Main results:

* `FrameShader.Build.typeId_affords` — **the id of a type that can be defined is found**;
* `FrameShader.Build.globalVariable_affords` — so is a variable of such a type.
-/

import FrameShader.Proofs.Draft.Emitting
import FrameShader.Proofs.Draft.Preserving

set_option relaxedAutoImplicit false
set_option autoImplicit false

namespace FrameShader

/-! ### Types that can be defined -/

namespace DataType

mutual

/-- How many types a type is made of, itself included. -/
def parts : DataType → Nat
  | .scalar _ | .sampler => 1
  | .vector _ _ | .image _ => 2
  | .runtimeArray element => parts element + 1
  | .record members => partsOfAll members + 1
  | .pointer _ pointee => parts pointee + 1
  | .sampledImage inner => parts inner + 1
  | .function result parameters => parts result + partsOfAll parameters + 1

/-- How many types several types are made of. -/
def partsOfAll : List DataType → Nat
  | [] => 0
  | t :: ts => parts t + partsOfAll ts

end

mutual

/-- Nothing about the type keeps it from being defined: vectors have an admissible width, arrays
have a stride, and only images are sampled. -/
def isDefinable : DataType → Bool
  | .scalar _ | .sampler | .image _ => true
  | .vector s width => isVectorWidth width && s != .void
  | .runtimeArray element => isDefinable element && (size element).isOk
  | .record members => areDefinable members
  | .pointer _ pointee => isDefinable pointee
  | .sampledImage (.image _) => true
  | .sampledImage _ => false
  | .function result parameters => isDefinable result && areDefinable parameters

/-- All of the types can be defined. -/
def areDefinable : List DataType → Bool
  | [] => true
  | t :: ts => isDefinable t && areDefinable ts

end

end DataType

namespace Build

variable {α β : Type} {d d' : Draft} {m n : Nat} {target : Id}

/-! ### Rules -/

/-- The call succeeds and hands out no more than `n` ids, or else the ids run out, because no more
than `n` were left. -/
def Affords (n : Nat) (call : Build α) (d : Draft) : Prop :=
  (∃ v d', call.runOn d = (.ok v, d') ∧ d'.nextId.toNat ≤ d.nextId.toNat + n) ∨
    (call.runOn d).1 = .error (.overflow .increment) ∧ UInt32.size ≤ d.nextId.toNat + n

namespace Affords

variable {call : Build α} {next : α → Build β} {v : α}

/-- A call that succeeds without handing out an id. -/
theorem of_ok (hrun : call.runOn d = (.ok v, d')) (hids : d'.nextId = d.nextId) :
    Affords n call d :=
  .inl ⟨v, d', hrun, by rw [hids]; exact Nat.le_add_right _ _⟩

theorem pure : Affords n (Pure.pure v) d := .of_ok (runOn_pure v d) rfl

theorem mono (h : Affords m call d) (hmn : m ≤ n) : Affords n call d := by
  rcases h with ⟨v, d', hrun, hbound⟩ | ⟨herror, hbound⟩
  · exact .inl ⟨v, d', hrun, by omega⟩
  · exact .inr ⟨herror, by omega⟩

/-- Going on after a call that is known to succeed. -/
theorem after (hrun : call.runOn d = (.ok v, d')) (hids : d'.nextId.toNat ≤ d.nextId.toNat + m)
    (h : Affords n (next v) d') : Affords (m + n) (call >>= next) d := by
  unfold Affords
  rw [runOn_bind_of_ok hrun]
  rcases h with ⟨w, e, hnext, hbound⟩ | ⟨hnext, hbound⟩
  · exact .inl ⟨w, e, hnext, by omega⟩
  · exact .inr ⟨hnext, by omega⟩

/-- Going on after a call that succeeds without handing out an id. -/
theorem step (hrun : call.runOn d = (.ok v, d')) (hids : d'.nextId = d.nextId)
    (h : Affords n (next v) d') : Affords n (call >>= next) d :=
  Nat.zero_add n ▸ after (m := 0) hrun (by rw [hids]; exact Nat.le_refl _) h

/-- One call after another. -/
theorem bind (h : Affords m call d)
    (hnext : ∀ v d', call.runOn d = (.ok v, d') → Affords n (next v) d') :
    Affords (m + n) (call >>= next) d := by
  rcases h with ⟨v, d', hrun, hbound⟩ | ⟨herror, hbound⟩
  · exact after hrun hbound (hnext v d' hrun)
  · refine .inr ⟨?_, by omega⟩
    rcases hrun : call.runOn d with ⟨e | v, d'⟩ <;> rw [hrun] at herror
    · rw [runOn_bind, hrun]
      exact congrArg Except.error (Except.error.inj herror)
    · cases herror

/-- Going on with the draft. -/
theorem get {next : Draft → Build β} (h : Affords n (next d) d) :
    Affords n (MonadState.get >>= next) d :=
  step (runOn_get d) rfl h

/-- Going on after a step that hands out no id. -/
theorem change {f : Draft → Draft} {next : PUnit → Build β} (h : Affords n (next ⟨⟩) (f d))
    (hids : (f d).nextId = d.nextId) :
    Affords n ((modify f : Build PUnit) >>= next) d :=
  step (runOn_modify f d) hids h

/-- Going on with a new id. -/
theorem freshId {next : Id → Build β}
    (h : Affords n (next d.nextId) (d.takeId.addRecord (idRecord d.nextId))) :
    Affords (1 + n) (Build.freshId >>= next) d := by
  by_cases hroom : d.nextId.toNat + 1 < UInt32.size
  · have hrun : Build.freshId.runOn d =
        (.ok d.nextId, d.takeId.addRecord (idRecord d.nextId)) := by
      rw [runOn_freshId, if_pos hroom]
    refine after hrun ?_ h
    show (d.nextId + 1).toNat ≤ _
    rw [UInt32.toNat_add]
    exact Nat.mod_le _ _
  · refine .inr ⟨?_, by omega⟩
    rw [runOn_bind, runOn_freshId, if_neg hroom]

end Affords

/-! ### Annotations and names -/

/-- What is defined can be decorated. -/
theorem runOn_decorate_of_defined (h : d.isDefined target = true) (decoration : Decoration)
    (operands : List Operand) : (decorate target decoration operands).runOn d =
      (.ok (), d.addToAnnotations
        (.plain .decorate (.id target :: .decoration decoration :: operands))) := by
  rw [runOn_decorate, if_pos h]

theorem decorate_affords (h : d.isDefined target = true) (decoration : Decoration)
    (operands : List Operand) : Affords n (decorate target decoration operands) d :=
  .of_ok (runOn_decorate_of_defined h decoration operands) (d.nextId_addToAnnotations _)

/-- What can be seen can be named. -/
theorem name_affords (h : d.isVisible target = true) (text : String) :
    Affords n (name target text) d := by
  have hrun : (name target text).runOn d =
      (.ok (), d.addName target none (.plain .debugName [.id target, .text text])) := by
    rw [name, runOn_bind, runOn_inspect, if_pos h]
    rfl
  exact .of_ok hrun (Draft.view_eq (d.bare_addName _ _ _) Draft.nextId fun _ => rfl)

theorem capability_affords (c : Capability) : Affords n (capability c) d :=
  .of_ok (runOn_modify (·.addCapability c) d)
    (Draft.view_eq (d.bare_addCapability c) Draft.nextId fun _ => rfl)

/-! ### Types -/

/-- What has to be said about a new type can be said. -/
def Completing (complete : Id → Build Unit) : Prop :=
  ∀ id d, d.isDefined id = true →
    ∃ e, (complete id).runOn d = (.ok (), e) ∧ e.nextId = d.nextId ∧ e.isDefined id = true

theorem complete_completing : Completing complete := fun _ d hid => ⟨d, rfl, rfl, hid⟩

/-- A new type is defined once its parts are. -/
theorem intern_affords {t : DataType} {definition : Build (Opcode × List Operand)}
    {complete : Id → Build Unit} (hdefinition : Affords n definition d)
    (hcomplete : Completing complete) : Affords (n + 1) (intern t definition complete) d := by
  unfold intern
  refine .get ?_
  cases d.tables.types.lookup t with
  | some id => exact .pure
  | none =>
      refine .bind hdefinition ?_
      rintro ⟨opcode, operands⟩ e -
      refine .freshId (n := 0) (.change ?_ rfl)
      have hdefined : ((e.takeId.addRecord (idRecord e.nextId)).addTypeDefinition e.nextId t opcode
          operands).isDefined e.nextId = true := by
        simp [Draft.isDefined, Draft.addTypeDefinition, Draft.addType, Draft.addGlobal]
      obtain ⟨f, hrun, hids, hkept⟩ := hcomplete _ _ hdefined
      refine .step hrun hids (.get ?_)
      by_cases hsymbols : f.settings.debugSymbols = true
      · rw [if_pos hsymbols]
        have hvisible : f.isVisible e.nextId = true := Bool.or_eq_true_iff.2 (.inl hkept)
        exact .bind (m := 0) (n := 0) (name_affords hvisible _) fun _ _ _ => .pure
      · rw [if_neg hsymbols]
        exact .pure

theorem scalarId_affords (s : Scalar) : Affords 1 (scalarId s) d := by
  refine intern_affords (n := 0) ?_ complete_completing
  cases s with
  | float width =>
      by_cases hwide : width = 64
      · simp only [if_pos hwide]
        exact .bind (m := 0) (n := 0) (capability_affords _) fun _ _ _ => .pure
      · simp only [if_neg hwide]
        exact .pure
  | _ => exact .pure

theorem imageId_affords (shape : ImageShape) : Affords 2 (imageId shape) d :=
  intern_affords (n := 1) (.bind (n := 0) (scalarId_affords _) fun _ _ _ => .pure) complete_completing

mutual

/-- **The id of a type that can be defined is found**, and no more ids are needed than the type has
parts. -/
theorem typeId_affords : ∀ (t : DataType) {d : Draft}, t.isDefinable = true →
    Affords t.parts (typeId t) d
  | .scalar s, _, _ => scalarId_affords s
  | .vector s width, d, h => by
      obtain ⟨hwidth, hs⟩ := Bool.and_eq_true_iff.1 h
      refine intern_affords (n := 1) ?_ complete_completing
      have hvector : DataType.vector? s width = .ok (.vector s width) := if_pos hwidth
      rw [hvector]
      refine .step rfl rfl ?_
      rw [if_neg (bne_iff_ne.1 hs)]
      exact .bind (n := 0) (scalarId_affords s) fun _ _ _ => .pure
  | .runtimeArray element, d, h => by
      obtain ⟨helement, hsize⟩ := Bool.and_eq_true_iff.1 h
      refine intern_affords (n := element.parts)
        (.bind (n := 0) (typeId_affords element helement) fun _ _ _ => .pure) fun id e hid => ?_
      cases hstride : element.size with
      | error cause =>
          rw [hstride] at hsize
          cases hsize
      | ok stride =>
          refine ⟨_, runOn_decorate_of_defined hid _ _, e.nextId_addToAnnotations _, ?_⟩
          rw [e.isDefined_addToAnnotations]
          exact hid
  | .record members, d, h =>
      intern_affords (n := DataType.partsOfAll members)
        (.bind (n := 0) (typeIds_affords members h) fun _ _ _ => .pure) complete_completing
  | .pointer storage pointee, d, h =>
      intern_affords (n := pointee.parts)
        (.bind (n := 0) (typeId_affords pointee h) fun _ _ _ => .pure) complete_completing
  | .image shape, _, _ => imageId_affords shape
  | .sampler, _, _ => intern_affords (n := 0) .pure complete_completing
  | .sampledImage inner, d, h => by
      cases inner with
      | image shape =>
          exact intern_affords (n := 2)
            (.bind (n := 0) (imageId_affords shape) fun _ _ _ => .pure) complete_completing
      | _ => cases h
  | .function result parameters, d, h => by
      obtain ⟨hresult, hparameters⟩ := Bool.and_eq_true_iff.1 h
      exact intern_affords (n := result.parts + DataType.partsOfAll parameters)
        (.bind (typeId_affords result hresult) fun _ _ _ =>
          .bind (n := 0) (typeIds_affords parameters hparameters) fun _ _ _ => .pure)
        complete_completing

theorem typeIds_affords : ∀ (ts : List DataType) {d : Draft}, DataType.areDefinable ts = true →
    Affords (DataType.partsOfAll ts) (typeIds ts) d
  | [], _, _ => .pure
  | t :: ts, d, h => by
      obtain ⟨ht, hts⟩ := Bool.and_eq_true_iff.1 h
      exact .bind (typeId_affords t ht) fun _ _ _ =>
        .bind (n := 0) (typeIds_affords ts hts) fun _ _ _ => .pure

end

/-! ### Variables -/

/-- A variable needs a type and an id. -/
theorem globalVariable_affords {storage : StorageClass} {t : DataType} (hstorage : storage ≠ .function)
    (ht : t.isDefinable = true) : Affords (t.parts + 2) (globalVariable storage t) d := by
  unfold globalVariable
  rw [if_neg hstorage]
  exact .bind (m := t.parts + 1) (n := 1) (typeId_affords (.pointer storage t) ht) fun _ _ _ =>
    .freshId (n := 0) (.change .pure rfl)

end Build

end FrameShader
