/-
Access: runs that load only from allowed places.

A run is watched for what it loads: it is stuck as soon as an instruction loads from a place that is
not allowed.  Apart from that a watched run is the run of the machine, so where a watched run is not
stuck, the machine finds the same and has loaded from no other place on the way.

Main definitions:

* `FrameShader.Program.Watch` — the places that may be loaded from;
* `FrameShader.Program.stepWithin`, `FrameShader.Program.callWithin` — an instruction, and a
  function;
* `FrameShader.ShaderModule.executeWithin` — one invocation of an entry point;
* `FrameShader.Program.ownPlaces` — of all coordinates, only the one at an index.

Main results:

* `FrameShader.Program.callWithin_all` — if every place is allowed, a watched run is the run of the
  machine;
* `FrameShader.Program.callWithin_congr` — **what may not be loaded does not matter**.
-/

import FrameShader.Proofs.Execution.Machine

set_option relaxedAutoImplicit false
set_option autoImplicit false

namespace FrameShader

/-- The places inside variables that may be loaded from. -/
abbrev Program.Watch := Id → List Word → Bool

/-- Whether an instruction loads from nothing but allowed places, if its arguments mean this. -/
def Instruction.keepsWithin (watch : Program.Watch) (i : Instruction) (xs : List Meaning) : Bool :=
  match i.opcode, xs with
  | .load, [.pointer v path] => watch v path
  | _, _ => true

namespace Program

/-! ### Watched runs -/

/-- Runs one instruction, unless it loads from a place that is not allowed. -/
def stepWithin (p : Program) (watch : Watch) (host : Host) (calls : Calls) (s : Progress)
    (i : Instruction) : Option Progress := do
  let xs ← i.arguments.mapM (p.lookup? s)
  if i.keepsWithin watch xs then p.step host calls s i else none

/-- Runs a function, and those it calls, unless they load from a place that is not allowed. -/
def callWithin (p : Program) (watch : Watch) (host : Host) : Nat → Calls
  | 0, _, _ => none
  | depth + 1, function, args => do
      let f ← p.functions.find? fun f => f.definition.result == some function
      let start ← Progress.start? f.parameters args
      let s ← f.body.foldlM (p.stepWithin watch host (p.callWithin watch host depth)) start
      let answer ← s.answer
      return (answer, s.writes)

/-- What one invocation of an entry point writes, unless it loads from a place that is not
allowed. -/
def executeWithin (p : Program) (watch : Watch) (host : Host) (text : String) :
    Option (List Write) := do
  let function ← p.entryPoints.findSome? (·.entryFunction? text)
  let (_, writes) ← p.callWithin watch host p.functions.length function []
  return writes

variable {p : Program} {watch : Watch} {host : Host} {calls : Calls}

/-! ### If every place is allowed -/

/-- A watched instruction that is not stuck does what it does otherwise. -/
theorem stepWithin_eq_some {s s' : Progress} {i : Instruction} :
    p.stepWithin watch host calls s i = some s' ↔
      (∃ xs, i.arguments.mapM (p.lookup? s) = some xs ∧ i.keepsWithin watch xs = true) ∧
        p.step host calls s i = some s' := by
  simp only [stepWithin, Option.bind_eq_bind, Option.bind_eq_some_iff, Option.ite_none_right_eq_some]
  constructor
  · rintro ⟨xs, hxs, hkeeps, hs⟩
    exact ⟨⟨xs, hxs, hkeeps⟩, hs⟩
  · rintro ⟨⟨xs, hxs, hkeeps⟩, hs⟩
    exact ⟨xs, hxs, hkeeps, hs⟩

theorem stepWithin_all : p.stepWithin (fun _ _ => true) = p.step := by
  funext host calls s i
  refine Option.ext fun s' => ?_
  rw [stepWithin_eq_some, and_iff_right_iff_imp]
  intro hs
  unfold step at hs
  split at hs
  · cases hs
  · obtain ⟨xs, hxs, -⟩ := Option.bind_eq_some_iff.1 hs
    refine ⟨xs, hxs, ?_⟩
    unfold Instruction.keepsWithin
    split <;> rfl

/-- **If every place is allowed, a watched run is the run of the machine.** -/
theorem callWithin_all (depth : Nat) :
    p.callWithin (fun _ _ => true) host depth = p.call host depth := by
  induction depth with
  | zero => rfl
  | succ depth ih =>
      funext function args
      rw [callWithin, call, stepWithin_all, ih]

/-! ### What may not be loaded -/

section congr

variable {host' : Host}

/-- An instruction that keeps within the allowed places does the same wherever these hold the same. -/
theorem effect_congr (htexel : host.texel = host'.texel)
    (hload : ∀ v path, watch v path = true → p.load? host v path = p.load? host' v path)
    {i : Instruction} {xs : List Meaning} (hkeeps : i.keepsWithin watch xs = true) :
    p.effect host calls i xs = p.effect host' calls i xs := by
  have happly : p.apply host i xs = p.apply host' i xs := by
    unfold apply
    split
    · next hopcode =>
        simp only [Instruction.keepsWithin, hopcode] at hkeeps
        exact hload _ _ hkeeps
    all_goals simp only [htexel]
  unfold effect
  split
  case h_5 => rw [happly]
  all_goals rfl

theorem stepWithin_congr (htexel : host.texel = host'.texel)
    (hload : ∀ v path, watch v path = true → p.load? host v path = p.load? host' v path) :
    p.stepWithin watch host calls = p.stepWithin watch host' calls := by
  funext s i
  cases hxs : i.arguments.mapM (p.lookup? s) with
  | none => simp only [stepWithin, hxs, Option.bind_eq_bind, Option.bind_none]
  | some xs =>
      simp only [stepWithin, step, hxs, Option.bind_eq_bind, Option.bind_some]
      by_cases hkeeps : i.keepsWithin watch xs = true
      · rw [effect_congr htexel hload hkeeps]
      · rw [if_neg hkeeps, if_neg hkeeps]

/-- **What may not be loaded does not matter**: a watched run is the same wherever the allowed places
hold the same. -/
theorem callWithin_congr (htexel : host.texel = host'.texel)
    (hload : ∀ v path, watch v path = true → p.load? host v path = p.load? host' v path)
    (depth : Nat) : p.callWithin watch host depth = p.callWithin watch host' depth := by
  induction depth with
  | zero => rfl
  | succ depth ih =>
      funext function args
      rw [callWithin, callWithin, ih, stepWithin_congr htexel hload]

end congr

end Program

/-- What one invocation of an entry point of a module writes, unless it loads from a place that is
not allowed. -/
def ShaderModule.executeWithin (m : ShaderModule) (watch : Program.Watch) (host : Host)
    (text : String) : Option (List Write) :=
  m.program.executeWithin watch host text

/-! ### The places of an invocation -/

namespace Program

/-- The places that are an invocation's own: of the coordinates only the one at its index, and all
that other variables hold. -/
def ownPlaces (p : Program) (index : Word) : Watch := fun v path =>
  p.resource? v != some .coordinates || path == [0, index]

end Program

end FrameShader
