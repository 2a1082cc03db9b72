/-
Running calls: what a call on a draft answers and leaves behind, step by step.

A call is built from few steps: answering, rejecting, looking at the draft, changing it, handing out
an id, and doing one thing after another.  The equations below say what each of them does, so that
no later proof has to open the monad in which calls are written.

Main definitions:

* `FrameShader.Build.Commutes` — a call that does not notice whether the draft was changed by `f`.

Main results:

* `FrameShader.Build.runOn_bind` — one call after another;
* `FrameShader.Build.exists_of_bind` — if they succeed, each of them does;
* `FrameShader.Build.runOn_freshId` — handing out an id;
* `FrameShader.Build.Commutes.bind` — two such calls, one after the other, do not notice either.
-/

import FrameShader.Draft.Operation
import Mathlib.Logic.Relation

set_option relaxedAutoImplicit false
set_option autoImplicit false

namespace FrameShader

namespace Build

variable {α β : Type}

/-! ### Equations -/

@[simp] theorem runOn_pure (a : α) (d : Draft) : (pure a : Build α).runOn d = (.ok a, d) := rfl

@[simp] theorem runOn_throw (e : Failure) (d : Draft) :
    (throw e : Build α).runOn d = (.error e, d) := rfl

@[simp] theorem runOn_reject (cause : BuildError) (d : Draft) :
    (reject cause : Build α).runOn d = (.error (.rejected cause), d) := rfl

@[simp] theorem runOn_get (d : Draft) : (get : Build Draft).runOn d = (.ok d, d) := rfl

@[simp] theorem runOn_modify (f : Draft → Draft) (d : Draft) :
    (modify f : Build PUnit).runOn d = (.ok ⟨⟩, f d) := rfl

/-- One call after another: the second runs on what the first leaves behind, if that succeeds. -/
theorem runOn_bind (call : Build α) (next : α → Build β) (d : Draft) :
    (call >>= next).runOn d =
      match call.runOn d with
      | (.ok a, d') => (next a).runOn d'
      | (.error e, d') => (.error e, d') := by
  simp only [runOn, ExceptT.run_bind, StateT.run_bind]
  show (match call.run.run d with | (answer, d') => _) = _
  rcases call.run.run d with ⟨answer, d'⟩
  cases answer <;> rfl

/-- A call that succeeds, and the rest of it. -/
theorem runOn_bind_of_ok {call : Build α} {next : α → Build β} {d d' : Draft} {a : α}
    (h : call.runOn d = (.ok a, d')) : (call >>= next).runOn d = (next a).runOn d' := by
  rw [runOn_bind, h]

/-- One call after another succeeds if each of them does. -/
theorem exists_of_bind {call : Build α} {next : α → Build β} {d d' : Draft} {w : β}
    (h : (call >>= next).runOn d = (.ok w, d')) :
    ∃ v e, call.runOn d = (.ok v, e) ∧ (next v).runOn e = (.ok w, d') := by
  rcases hcall : call.runOn d with ⟨cause | v, e⟩
  · rw [runOn_bind, hcall] at h
    cases h
  · exact ⟨v, e, rfl, runOn_bind_of_ok hcall ▸ h⟩

@[simp] theorem runOn_map (f : α → β) (call : Build α) (d : Draft) :
    (f <$> call).runOn d = ((call.runOn d).1.map f, (call.runOn d).2) := by
  rw [← bind_pure_comp, runOn_bind]
  rcases call.runOn d with ⟨answer, d'⟩
  cases answer <;> rfl

theorem runOn_ofExcept (answer : Except BuildError α) (d : Draft) :
    (ofExcept answer).runOn d = (answer.mapError .rejected, d) := by
  cases answer <;> rfl

theorem runOn_inspect (view : Draft → Except BuildError α) (d : Draft) :
    (inspect view).runOn d = ((view d).mapError .rejected, d) := by
  rw [inspect, runOn_bind, runOn_get]
  exact runOn_ofExcept (view d) d

theorem runOn_inspect_bind (view : Draft → Except BuildError α) (next : α → Build β) (d : Draft) :
    (inspect view >>= next).runOn d = (ofExcept (view d) >>= next).runOn d := by
  rw [runOn_bind, runOn_bind, runOn_inspect, runOn_ofExcept]

/-- What a call that succeeds has looked at. -/
theorem exists_of_inspect {view : Draft → Except BuildError α} {next : α → Build β} {d d' : Draft}
    {w : β} (h : (inspect view >>= next).runOn d = (.ok w, d')) :
    ∃ v, view d = .ok v ∧ (next v).runOn d = (.ok w, d') := by
  rw [runOn_inspect_bind] at h
  cases hview : view d with
  | error cause =>
      rw [hview] at h
      cases h
  | ok v =>
      rw [hview] at h
      exact ⟨v, rfl, h⟩

/-- What is written to the log about a new id. -/
def idRecord (id : Id) : LogRecord := ⟨.trace, "allocated " ++ idText id⟩

/-- Handing out an id: the next one, unless the counter is at its end. -/
theorem runOn_freshId (d : Draft) :
    freshId.runOn d =
      if d.nextId.toNat + 1 < UInt32.size then (.ok d.nextId, d.takeId.addRecord (idRecord d.nextId))
      else (.error (.overflow .increment), d) := by
  rw [freshId, runOn_bind, runOn_get]
  by_cases h : d.nextId.toNat + 1 < UInt32.size
  · simp only [if_pos h]
    rfl
  · simp only [if_neg h]
    rfl

/-- An id that was handed out. -/
theorem runOn_freshId_ok {d d' : Draft} {id : Id} (h : freshId.runOn d = (.ok id, d')) :
    id = d.nextId ∧ d' = d.takeId.addRecord (idRecord d.nextId) := by
  rw [runOn_freshId] at h
  by_cases hroom : d.nextId.toNat + 1 < UInt32.size
  · rw [if_pos hroom] at h
    cases h
    exact ⟨rfl, rfl⟩
  · rw [if_neg hroom] at h
    cases h

/-- A call that succeeds has an answer. -/
theorem exists_of_isOk {call : Build α} {d : Draft}
    (h : (call.runOn d).1.isOk = true) : ∃ v e, call.runOn d = (.ok v, e) := by
  rcases hrun : call.runOn d with ⟨e | v, e⟩
  · rw [hrun] at h
    cases h
  · exact ⟨v, e, rfl⟩

/-- Adding an instruction with a result: a function is open, and the result takes the next id. -/
theorem runOn_emitValue_ok {opcode : Opcode} {type : Id} {operands : List Operand} {d d' : Draft}
    {v : Value} (h : (emitValue opcode type operands).runOn d = (.ok v, d')) :
    (∃ f, d.writable opcode = .ok f) ∧ v = ⟨d.nextId, type⟩ ∧ d' =
      (d.takeId.addRecord (idRecord d.nextId)).addResult opcode type d.nextId operands := by
  obtain ⟨f, hwritable, h⟩ := exists_of_inspect h
  obtain ⟨id, e, hid, h⟩ := exists_of_bind h
  obtain ⟨rfl, rfl⟩ := runOn_freshId_ok hid
  cases h
  exact ⟨⟨f, hwritable⟩, rfl, rfl⟩

/-- Adding a variable: its type is asked for, and it takes the next id. -/
theorem runOn_globalVariable_ok {storage : StorageClass} {t : DataType} {d d' : Draft} {v : Value}
    (h : (globalVariable storage t).runOn d = (.ok v, d')) :
    ∃ type e, (typeId (.pointer storage t)).runOn d = (.ok type, e) ∧ v = ⟨e.nextId, type⟩ ∧
      d' = (e.takeId.addRecord (idRecord e.nextId)).addGlobalValue .variable type e.nextId
        [.storageClass storage] := by
  unfold globalVariable at h
  by_cases hstorage : storage = .function
  · rw [if_pos hstorage] at h
    cases h
  · rw [if_neg hstorage] at h
    obtain ⟨type, e, htype, h⟩ := exists_of_bind h
    obtain ⟨id, e', hid, h⟩ := exists_of_bind h
    obtain ⟨rfl, rfl⟩ := runOn_freshId_ok hid
    cases h
    exact ⟨type, e, htype, rfl, rfl⟩

/-! ### Calls that do not notice a change -/

/-- The call answers the same on `f d` as on `d`, and leaves behind what `f` makes of the draft it
leaves behind on `d`. -/
def Commutes (f : Draft → Draft) (call : Build α) : Prop :=
  ∀ d, call.runOn (f d) = ((call.runOn d).1, f (call.runOn d).2)

namespace Commutes

variable {f : Draft → Draft}

theorem pure (a : α) : Commutes f (Pure.pure a : Build α) := fun _ => rfl

/-- Looking does not notice the change if what is looked at does not depend on it. -/
theorem inspect {view : Draft → Except BuildError α} (h : ∀ d, view (f d) = view d) :
    Commutes f (Build.inspect view) := by
  intro d
  rw [runOn_inspect, runOn_inspect, h]

/-- Two changes in either order. -/
theorem modify {g : Draft → Draft} (h : ∀ d, g (f d) = f (g d)) :
    Commutes f (modify g : Build PUnit) := by
  intro d
  rw [runOn_modify, runOn_modify, h]

/-- One call after another. -/
theorem bind {call : Build α} {next : α → Build β} (hcall : Commutes f call)
    (hnext : ∀ a, Commutes f (next a)) : Commutes f (call >>= next) := by
  intro d
  rw [runOn_bind, runOn_bind, hcall d]
  rcases call.runOn d with ⟨answer, d'⟩
  cases answer with
  | ok a => exact hnext a d'
  | error e => rfl

/-- Rephrasing an answer. -/
theorem map {call : Build α} (h : Commutes f call) (g : α → β) : Commutes f (g <$> call) := by
  rw [← bind_pure_comp]
  exact bind h fun _ => pure _

/-- Handing out an id does not notice a change that keeps the counter. -/
theorem freshId (hnext : ∀ d, (f d).nextId = d.nextId)
    (htake : ∀ d r, (f d).takeId.addRecord r = f (d.takeId.addRecord r)) :
    Commutes f Build.freshId := by
  intro d
  rw [runOn_freshId, runOn_freshId, hnext]
  by_cases h : d.nextId.toNat + 1 < UInt32.size
  · rw [if_pos h, if_pos h, htake]
  · rw [if_neg h, if_neg h]

end Commutes

end Build

end FrameShader
