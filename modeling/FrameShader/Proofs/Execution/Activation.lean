/-
Activations: a function of a draft while it runs on arguments.

While a module is written, the order in which its parts come about is not the order in which they
run.  So what the ids of a function stand for is first described without any order: parameters stand
for the arguments, globals for what they say, and a result for what its instruction makes of what its
arguments stand for.  A body all of whose instructions fit is then run from front to back, and as
nothing refers to what comes later, the run finds what the description says.  The run is watched for
what it loads: an instruction that loads from a place that is not allowed does not fit.

Main definitions:

* `FrameShader.Activation` — a function of a draft and the arguments it runs on;
* `FrameShader.Activation.Means` — what an id stands for, whatever the order;
* `FrameShader.Activation.Performs` — instructions that fit, with what they write and return.

Main results:

* `FrameShader.Activation.Means.of_body` — an id of the body stands for the value of its instruction;
* `FrameShader.Activation.Performs.run` — **running the body finds what its ids stand for**;
* `FrameShader.Activation.call_eq` — what a call of the function answers and writes.
-/

import FrameShader.Proofs.Execution.Constants
import Mathlib.Data.List.Pairwise

set_option relaxedAutoImplicit false
set_option autoImplicit false

namespace FrameShader

/-- Only arguments are looked up, and arguments are uses. -/
theorem Instruction.arguments_subset_uses (i : Instruction) : i.arguments ⊆ i.uses := by
  intro id hid
  unfold arguments at hid
  split at hid
  · next hopcode hoperands =>
      rw [uses_eq_references (by rw [hopcode]; nofun), references, hoperands, List.filterMap_cons]
      refine List.mem_append_right _ ?_
      split
      · exact hid
      · exact List.mem_cons_of_mem _ hid
  · next function operands hopcode hoperands =>
      cases function with
      | id target =>
          rw [uses, hopcode, hoperands]
          exact List.mem_append_right _ hid
      | _ =>
          unfold uses
          rw [hopcode, hoperands, references, hoperands]
          exact List.mem_append_right _ hid
  · next hextInst hcall =>
      unfold uses
      split
      · next hopcode hoperands => exact absurd hoperands (hcall _ _ hopcode)
      · exact List.mem_append_right _ hid

/-- Functions with the same id are the same. -/
theorem Account.Consistent.eq_of_function {a : Account} (h : a.Consistent) {f g : Function} {id : Id}
    (hf : f ∈ a.draft.bodies) (hg : g ∈ a.draft.bodies) (hfid : f.definition.result = some id)
    (hgid : g.definition.result = some id) : f = g := by
  have hnodup := h.nodup_definedIds
  rw [Draft.definedIds_eq] at hnodup
  have hapart := (List.nodup_flatMap.1 (List.nodup_append.1 hnodup).2.1).2
  have hsymm := Std.Symm.mk fun (f g : Function)
    (h : (resultsOf f.instructions).Disjoint (resultsOf g.instructions)) => List.disjoint_symm h
  by_contra hne
  exact hapart.forall hf hg hne (mem_resultsOf.2 ⟨_, List.mem_cons_self, hfid⟩)
    (mem_resultsOf.2 ⟨_, List.mem_cons_self, hgid⟩)

/-! ### What ids stand for -/

/-- A function of a draft, and the arguments it runs on.  The draft is in order. -/
structure Activation where
  account : Account
  orderly : account.Orderly
  /-- The places that the function may load from. -/
  watch : Program.Watch
  host : Host
  /-- What the functions do that this one calls. -/
  calls : Program.Calls
  function : Function
  isClosed : function ∈ account.draft.sections.functions
  args : List Meaning

namespace Activation

/-- The program that the function is a part of. -/
def program (A : Activation) : Program := A.account.draft.program

/-- What an instruction does, unless it loads from a place that is not allowed. -/
def effect (A : Activation) (i : Instruction) (xs : List Meaning) : Option Program.Effect :=
  if i.keepsWithin A.watch xs then A.program.effect A.host A.calls i xs else none

/-- What an id stands for in the function, wherever it is defined. -/
inductive Means (A : Activation) : Id → Meaning → Prop
  | parameter {id : Id} {x : Meaning}
      (h : ((resultsOf A.function.parameters).zip A.args).lookup id = some x) : Means A id x
  | global {id : Id} {x : Meaning} (h : (globalMeanings A.program.globals).lookup id = some x) :
      Means A id x
  | result {i : Instruction} {id : Id} {xs : List Meaning} {x : Meaning} {writes : List Write}
      (hi : i ∈ A.function.body) (hid : i.result = some id)
      (hxs : List.Forall₂ (Means A) i.arguments xs) (hx : A.effect i xs = some (.value x writes)) :
      Means A id x

/-- Instructions that fit, one after the other, with what they write and whether they return. -/
inductive Performs (A : Activation) : List Instruction → List Write → Option (Option Meaning) → Prop
  | nil : Performs A [] [] none
  | value {is : List Instruction} {i : Instruction} {id : Id} {xs : List Meaning} {x : Meaning}
      {before writes : List Write} (h : Performs A is before none) (hid : i.result = some id)
      (hxs : List.Forall₂ A.Means i.arguments xs) (hx : A.effect i xs = some (.value x writes)) :
      Performs A (is ++ [i]) (before ++ writes) none
  | write {is : List Instruction} {i : Instruction} {xs : List Meaning} {before : List Write}
      {w : Write} (h : Performs A is before none) (hid : i.result = none)
      (hxs : List.Forall₂ A.Means i.arguments xs) (hx : A.effect i xs = some (.write w)) :
      Performs A (is ++ [i]) (before ++ [w]) none
  | answer {is : List Instruction} {i : Instruction} {xs : List Meaning} {before : List Write}
      {x : Option Meaning} (h : Performs A is before none) (hid : i.result = none)
      (hxs : List.Forall₂ A.Means i.arguments xs) (hx : A.effect i xs = some (.answer x)) :
      Performs A (is ++ [i]) before (some x)

/-! ### The order of the function -/

section order

variable (A : Activation)

/-- The ids of the function, split at an instruction of its body, with the globals before them. -/
theorem exists_split {is rest : List Instruction} (hbody : A.function.body = is ++ rest) :
    ∃ before after : List Function, ∃ tail : List Id,
      A.account.draft.bodies = before ++ A.function :: after ∧
      A.account.draft.definedIds =
        (resultsOf A.account.draft.sections.imports ++ resultsOf A.account.draft.sections.globals ++
          before.flatMap (fun f => resultsOf f.instructions)) ++
        (resultsOf (A.function.definition :: (A.function.parameters ++ A.function.label :: is)) ++
          (resultsOf rest ++ tail)) := by
  have hmem : A.function ∈ A.account.draft.bodies := List.mem_append_left _ A.isClosed
  obtain ⟨before, after, hbodies⟩ := List.append_of_mem hmem
  refine ⟨before, after, after.flatMap fun f => resultsOf f.instructions, hbodies, ?_⟩
  rw [Draft.definedIds_eq, hbodies, List.flatMap_append, List.flatMap_cons,
    resultsOf_instructions, hbody]
  simp only [resultsOf_append, resultsOf_cons, List.append_assoc]

/-- No id of the function is defined twice, and none is that of a global. -/
theorem nodup : (resultsOf A.program.globals ++
    (resultsOf A.function.parameters ++ resultsOf A.function.body)).Nodup := by
  have hbody : A.function.body = [] ++ A.function.body := rfl
  obtain ⟨before, after, tail, -, hids⟩ := A.exists_split hbody
  have hnodup := A.orderly.consistent.nodup_definedIds
  rw [hids] at hnodup
  refine hnodup.sublist (List.Sublist.append ?_ ?_)
  · rw [List.append_assoc]
    exact (List.sublist_append_left _ _).trans (List.sublist_append_right _ _)
  · refine List.Sublist.append ?_ (List.sublist_append_left _ _)
    rw [resultsOf_cons, resultsOf_append]
    exact (List.sublist_append_left _ _).trans (List.sublist_append_right _ _)

/-- An instruction does not refer to what it defines, or to what is defined after it. -/
theorem not_mem_of_arguments {is rest : List Instruction} {i : Instruction}
    (hbody : A.function.body = is ++ i :: rest) {id : Id} (hid : id ∈ i.arguments) :
    id ∉ resultsOf (i :: rest) := by
  obtain ⟨before, after, tail, hbodies, hids⟩ := A.exists_split hbody
  have hnodup := A.orderly.consistent.nodup_definedIds
  have horder := A.orderly.scope.bodies
  rw [hbodies] at horder
  have hinstructions : A.function.instructions =
      (A.function.definition :: (A.function.parameters ++ A.function.label :: is)) ++
        i :: (rest ++ [Function.finish]) := by
    simp [Function.instructions, hbody]
  have hsplit := horder.split
  rw [hinstructions] at hsplit
  have hknown := hsplit.split.1 id (i.arguments_subset_uses hid)
  rw [hids, ← List.append_assoc, ← List.append_assoc] at hnodup
  -- What the instruction refers to stands before it, and nothing is defined twice.
  have hapart := (List.nodup_append.1 (List.nodup_append.1 hnodup).1).2.2
  intro hlater
  refine hapart id ?_ id hlater rfl
  have hdefinitions :
      resultsOf (before.map Function.definition) ⊆
        before.flatMap fun f => resultsOf f.instructions := by
    intro id hid
    obtain ⟨j, hj, hresult⟩ := mem_resultsOf.1 hid
    obtain ⟨f, hf, rfl⟩ := List.mem_map.1 hj
    exact List.mem_flatMap.2 ⟨f, hf, mem_resultsOf.2 ⟨_, List.mem_cons_self, hresult⟩⟩
  rcases List.mem_append.1 hknown with hknown | hknown
  · refine List.mem_append_left _ ?_
    rcases List.mem_append.1 hknown with hknown | hknown
    · exact List.mem_append_left _ hknown
    · exact List.mem_append_right _ (hdefinitions hknown)
  · exact List.mem_append_right _ hknown

end order

/-- Instructions that define the same id are the same. -/
theorem eq_of_result {is : List Instruction} (h : (resultsOf is).Nodup) {i j : Instruction} {id : Id}
    (hi : i ∈ is) (hj : j ∈ is) (hid : i.result = some id) (hjd : j.result = some id) : i = j := by
  induction is with
  | nil => cases hi
  | cons k is ih =>
      rw [resultsOf_cons, List.nodup_append] at h
      obtain ⟨-, hnodup, hapart⟩ := h
      have hfirst : ∀ {l : Instruction}, l ∈ is → k.result = some id → l.result ≠ some id := by
        intro l hl hk hl'
        exact hapart id (by rw [hk]; exact List.mem_cons_self) id (mem_resultsOf.2 ⟨l, hl, hl'⟩) rfl
      rcases List.mem_cons.1 hi with rfl | hi'
      · rcases List.mem_cons.1 hj with rfl | hj'
        · rfl
        · exact absurd hjd (hfirst hj' hid)
      · rcases List.mem_cons.1 hj with rfl | hj'
        · exact absurd hid (hfirst hi' hjd)
        · exact ih hnodup hi' hj'

/-! ### Running the body -/

variable {A : Activation}

/-- The arguments of an instruction, looked up one by one. -/
theorem mapM_lookup {f : Id → Option Meaning} {ids : List Id} {xs : List Meaning}
    (h : List.Forall₂ A.Means ids xs) (hf : ∀ id ∈ ids, ∀ x, A.Means id x → f id = some x) :
    ids.mapM f = some xs := by
  induction h with
  | nil => rfl
  | @cons id x ids xs hx _ ih =>
      rw [List.mapM_cons, hf id List.mem_cons_self x hx,
        ih fun id hid => hf id (List.mem_cons_of_mem _ hid)]
      rfl

/-- The function before its first instruction. -/
def start (A : Activation) : Program.Progress :=
  ⟨(resultsOf A.function.parameters).zip A.args, [], none⟩

/-- Before the body runs, what is not defined in it stands for what it means. -/
theorem lookup_start {id : Id} {x : Meaning} (hx : A.Means id x)
    (hid : id ∉ resultsOf A.function.body) : A.program.lookup? A.start id = some x := by
  rw [Program.lookup?, Option.or_eq_some_iff]
  cases hx with
  | parameter hx => exact Or.inl hx
  | global hx =>
      refine Or.inr ⟨?_, hx⟩
      cases hlookup : A.start.locals.lookup id with
      | none => rfl
      | some y =>
          have hparameter := (List.of_mem_zip (mem_of_lookup_eq_some hlookup)).1
          have hglobal := mem_resultsOf_of_globalMeanings (mem_of_lookup_eq_some hx)
          exact absurd rfl ((List.nodup_append.1 A.nodup).2.2 id hglobal id
            (List.mem_append_left _ hparameter))
  | result hi hresult => exact absurd (mem_resultsOf.2 ⟨_, hi, hresult⟩) hid

/-- What an instruction of the body defines stands for its value and for nothing else. -/
theorem Means.of_body {i : Instruction} {id : Id} {x : Meaning} (hx : A.Means id x)
    (hi : i ∈ A.function.body) (hid : i.result = some id) :
    ∃ xs writes, List.Forall₂ A.Means i.arguments xs ∧ A.effect i xs = some (.value x writes) := by
  have hmem : id ∈ resultsOf A.function.body := mem_resultsOf.2 ⟨i, hi, hid⟩
  obtain ⟨-, hinside, hapart⟩ := List.nodup_append.1 A.nodup
  obtain ⟨-, hbody, hparameters⟩ := List.nodup_append.1 hinside
  cases hx with
  | parameter hx =>
      have hparameter := (List.of_mem_zip (mem_of_lookup_eq_some hx)).1
      exact absurd rfl (hparameters id hparameter id hmem)
  | global hx =>
      have hglobal := mem_resultsOf_of_globalMeanings (mem_of_lookup_eq_some hx)
      exact absurd rfl (hapart id hglobal id (List.mem_append_right _ hmem))
  | result hj hjd hxs hx =>
      obtain rfl := eq_of_result hbody hi hj hid hjd
      exact ⟨_, _, hxs, hx⟩

/-- One instruction more, whose arguments have been looked up. -/
theorem run_append {is : List Instruction} {i : Instruction} {s s' : Program.Progress}
    {xs : List Meaning} {e : Program.Effect}
    (hrun : is.foldlM (A.program.stepWithin A.watch A.host A.calls) A.start = some s)
    (hanswer : s.answer = none) (hxs : i.arguments.mapM (A.program.lookup? s) = some xs)
    (he : A.effect i xs = some e) (hafter : s.after i e = some s') :
    (is ++ [i]).foldlM (A.program.stepWithin A.watch A.host A.calls) A.start = some s' := by
  obtain ⟨hkeeps, he⟩ := Option.ite_none_right_eq_some.1 he
  have hi : A.program.step A.host A.calls s i = some s' :=
    (Program.step_of_effect hanswer hxs he).trans hafter
  have hwithin : A.program.stepWithin A.watch A.host A.calls s i = some s' :=
    Program.stepWithin_eq_some.2 ⟨⟨xs, hxs, hkeeps⟩, hi⟩
  simp [List.foldlM_append, hrun, hwithin]

/-- The arguments of an instruction do not come after it, so they have been found before. -/
theorem mapM_arguments {is rest : List Instruction} {i : Instruction} {s : Program.Progress}
    {xs : List Meaning} (hbody : A.function.body = is ++ i :: rest)
    (hmeans : ∀ id x, A.Means id x → id ∉ resultsOf (i :: rest) →
      A.program.lookup? s id = some x)
    (hxs : List.Forall₂ A.Means i.arguments xs) :
    i.arguments.mapM (A.program.lookup? s) = some xs :=
  mapM_lookup hxs fun id hid x hx => hmeans id x hx (A.not_mem_of_arguments hbody hid)

/-- **Running the body finds what its ids stand for**, apart from those still to come. -/
theorem Performs.run {is : List Instruction} {writes : List Write} {answer : Option (Option Meaning)}
    (h : A.Performs is writes answer) {rest : List Instruction}
    (hbody : A.function.body = is ++ rest) :
    ∃ s, is.foldlM (A.program.stepWithin A.watch A.host A.calls) A.start = some s ∧
      s.writes = writes ∧ s.answer = answer ∧
        ∀ id x, A.Means id x → id ∉ resultsOf rest → A.program.lookup? s id = some x := by
  -- induction on what the body has done: what is not still to come has been found
  induction h generalizing rest with
  | nil =>
      rw [List.nil_append] at hbody
      subst hbody
      exact ⟨A.start, rfl, rfl, rfl, fun id x hx hid => lookup_start hx hid⟩
  | @value is i id xs x before writes _ hid hxs hx ih =>
      rw [List.append_assoc, List.singleton_append] at hbody
      obtain ⟨s, hrun, rfl, hanswer, hmeans⟩ := ih hbody
      refine ⟨{ s with locals := (id, x) :: s.locals, writes := s.writes ++ writes },
        run_append hrun hanswer (mapM_arguments hbody hmeans hxs) hx
          (by simp [Program.Progress.after, hid]), rfl, hanswer, ?_⟩
      intro id' x' hx' hid'
      by_cases hsame : id' = id
      · -- the new id stands for one value only, and it is the one that the instruction has given
        subst hsame
        have hi : i ∈ A.function.body := by
          rw [hbody]
          exact List.mem_append_right _ List.mem_cons_self
        obtain ⟨ys, writes', hys, hx'⟩ := hx'.of_body hi hid
        obtain rfl := Option.some.inj
          ((mapM_arguments hbody hmeans hxs).symm.trans (mapM_arguments hbody hmeans hys))
        obtain ⟨rfl, -⟩ := Program.Effect.value.inj (Option.some.inj (hx'.symm.trans hx))
        rw [Program.lookup?, List.lookup_cons_self]
        rfl
      · rw [Program.lookup?, lookup_cons_of_ne hsame]
        refine hmeans id' x' hx' ?_
        rw [resultsOf_cons, hid]
        exact fun h => (List.mem_append.1 h).elim (fun h => hsame (List.mem_singleton.1 h)) hid'
  | @write is i xs before w _ hid hxs hx ih =>
      rw [List.append_assoc, List.singleton_append] at hbody
      obtain ⟨s, hrun, rfl, hanswer, hmeans⟩ := ih hbody
      refine ⟨_, run_append hrun hanswer (mapM_arguments hbody hmeans hxs) hx rfl, rfl, hanswer,
        fun id' x' hx' hid' => hmeans id' x' hx' ?_⟩
      rwa [resultsOf_cons, hid]
  | @answer is i xs before x _ hid hxs hx ih =>
      rw [List.append_assoc, List.singleton_append] at hbody
      obtain ⟨s, hrun, rfl, hanswer, hmeans⟩ := ih hbody
      refine ⟨_, run_append hrun hanswer (mapM_arguments hbody hmeans hxs) hx rfl, rfl, rfl,
        fun id' x' hx' hid' => hmeans id' x' hx' ?_⟩
      rwa [resultsOf_cons, hid]

/-- **What a call of the function answers and writes.** -/
theorem call_eq {depth : Nat} {id : Id} {writes : List Write} {answer : Option Meaning}
    (hcalls : A.calls = A.program.callWithin A.watch A.host depth) (hid : A.function.definition.result = some id)
    (hargs : A.function.parameters.length = A.args.length)
    (h : A.Performs A.function.body writes (some answer)) :
    A.program.callWithin A.watch A.host (depth + 1) id A.args = some (answer, writes) := by
  obtain ⟨s, hrun, hwrites, hanswer, -⟩ := h.run (List.append_nil _).symm
  have hfind : A.program.functions.find? (fun f => f.definition.result == some id) =
      some A.function := by
    cases hfound : A.program.functions.find? (fun f => f.definition.result == some id) with
    | none =>
        have hnone := List.find?_eq_none.1 hfound A.function A.isClosed
        exact absurd (beq_iff_eq.2 hid) hnone
    | some f =>
        have hmem : f ∈ A.account.draft.bodies :=
          List.mem_append_left _ (List.mem_of_find?_eq_some hfound)
        have hfid : f.definition.result = some id := by simpa using List.find?_some hfound
        rw [A.orderly.consistent.eq_of_function hmem (List.mem_append_left _ A.isClosed) hfid hid]
  have hstart : Program.Progress.start? A.function.parameters A.args = some A.start := by
    rw [Program.Progress.start?, if_pos hargs, start]
  rw [hcalls] at hrun
  simp only [Program.callWithin, hfind, hstart, hrun, hanswer, hwrites, Option.bind_eq_bind,
    Option.bind_some, Option.pure_def]

end Activation

end FrameShader
