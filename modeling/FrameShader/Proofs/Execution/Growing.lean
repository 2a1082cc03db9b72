/-
Growing programs: what a program does it still does when it has grown.

While a module is written, imports, annotations, globals and functions are only added.  Whatever a
smaller program looks up first, a larger one looks up first as well, so an instruction that is not
stuck does the same in both.  That is how what is known of a function while it is written stays true
of the finished module.

Main definitions:

* `FrameShader.Program.Within` — a program that another one begins with.

Main results:

* `FrameShader.Program.step_mono`, `FrameShader.Program.callWithin_mono` — **instructions and functions
  do the same in a larger program**;
* `FrameShader.Program.execute_of_executeWithin` — what a watched run writes is what is written;
* `FrameShader.Account.Changes.program` — changes only let the program of a draft grow.
-/

import FrameShader.Proofs.Draft.Appending
import FrameShader.Proofs.Execution.Access

set_option relaxedAutoImplicit false
set_option autoImplicit false

namespace FrameShader

/-! ### Lists that begin with others -/

section lists

variable {α β : Type} {xs ys : List α}

theorem findSome?_of_isPrefix {f : α → Option β} {b : β} (h : xs <+: ys)
    (hx : xs.findSome? f = some b) : ys.findSome? f = some b := by
  obtain ⟨rest, rfl⟩ := h
  rw [List.findSome?_append, hx]
  rfl

theorem find?_of_isPrefix {f : α → Bool} {a : α} (h : xs <+: ys) (hx : xs.find? f = some a) :
    ys.find? f = some a := by
  obtain ⟨rest, rfl⟩ := h
  rw [List.find?_append, hx]
  rfl

theorem lookup_of_isPrefix [BEq α] {xs ys : List (α × β)} {a : α} {b : β} (h : xs <+: ys)
    (hx : xs.lookup a = some b) : ys.lookup a = some b := by
  obtain ⟨rest, rfl⟩ := h
  rw [List.lookup_append, hx]
  rfl

/-- Answers that are all kept. -/
theorem mapM_mono {f g : α → Option β} (h : ∀ a b, f a = some b → g a = some b) {bs : List β}
    (hx : xs.mapM f = some bs) : xs.mapM g = some bs := by
  induction xs generalizing bs with
  | nil => exact hx
  | cons x xs ih =>
      simp only [List.mapM_cons, Option.bind_eq_bind, Option.bind_eq_some_iff, Option.pure_def,
        Option.some.injEq] at hx ⊢
      obtain ⟨b, hb, bs, hbs, rfl⟩ := hx
      exact ⟨b, h x b hb, bs, ih hbs, rfl⟩

/-- Steps that are all kept. -/
theorem foldlM_mono {f g : β → α → Option β} (h : ∀ s a s', f s a = some s' → g s a = some s')
    {s s' : β} (hx : xs.foldlM f s = some s') : xs.foldlM g s = some s' := by
  induction xs generalizing s with
  | nil => exact hx
  | cons x xs ih =>
      simp only [List.foldlM_cons, Option.bind_eq_bind, Option.bind_eq_some_iff] at hx ⊢
      obtain ⟨t, ht, hx⟩ := hx
      exact ⟨t, h s x t ht, ih hx⟩

end lists

/-! ### Constants and variables -/

theorem foldl_readGlobal (is : List Instruction)
    (known : List (Id × DataType) × List (Id × Meaning)) :
    (is.foldl readGlobal known).1 = is.foldl readType known.1 ∧
      known.2 <+: (is.foldl readGlobal known).2 := by
  induction is generalizing known with
  | nil => exact ⟨rfl, List.prefix_rfl⟩
  | cons i is ih =>
      obtain ⟨htypes, hknown⟩ := ih (readGlobal known i)
      exact ⟨htypes, List.IsPrefix.trans (List.prefix_append _ _) hknown⟩

@[simp] theorem globalMeanings_nil : globalMeanings [] = [] := rfl

theorem globalMeanings_append_singleton (is : List Instruction) (i : Instruction) :
    globalMeanings (is ++ [i]) = globalMeanings is ++
      (i.result.bind fun id =>
        (globalMeaning? (readTypes is) (globalMeanings is) i).map (id, ·)).toList := by
  have htypes : (is.foldl readGlobal ([], [])).1 = readTypes is := (foldl_readGlobal is _).1
  rw [globalMeanings, List.foldl_append, List.foldl_cons, List.foldl_nil, readGlobal, htypes]
  rfl

/-- More globals do not change what is known. -/
theorem globalMeanings_isPrefix {is js : List Instruction} (h : is <+: js) :
    globalMeanings is <+: globalMeanings js := by
  obtain ⟨rest, rfl⟩ := h
  rw [globalMeanings, globalMeanings, List.foldl_append]
  exact (foldl_readGlobal rest _).2

/-- Only what is defined means something. -/
theorem mem_resultsOf_of_globalMeanings {is : List Instruction} {e : Id × Meaning}
    (h : e ∈ globalMeanings is) : e.1 ∈ resultsOf is := by
  induction is using List.reverseRecOn with
  | nil => cases h
  | append_singleton is i ih =>
      rw [globalMeanings_append_singleton, List.mem_append] at h
      rw [resultsOf_append, List.mem_append]
      refine h.imp ih fun h => ?_
      simp only [Option.mem_toList, Option.bind_eq_some_iff, Option.map_eq_some_iff] at h
      obtain ⟨id, hid, x, -, rfl⟩ := h
      exact mem_resultsOf.2 ⟨i, List.mem_singleton_self i, hid⟩

/-! ### Programs -/

namespace Program

/-- The program `q` begins with all that `p` has. -/
structure Within (p q : Program) : Prop where
  imports : p.imports <+: q.imports
  entryPoints : p.entryPoints <+: q.entryPoints
  annotations : p.annotations <+: q.annotations
  globals : p.globals <+: q.globals
  functions : p.functions <+: q.functions

variable {p q r : Program} {host : Host}

theorem Within.refl (p : Program) : p.Within p :=
  ⟨List.prefix_rfl, List.prefix_rfl, List.prefix_rfl, List.prefix_rfl, List.prefix_rfl⟩

theorem Within.trans (h : p.Within q) (h' : q.Within r) : p.Within r :=
  ⟨h.imports.trans h'.imports, h.entryPoints.trans h'.entryPoints,
    h.annotations.trans h'.annotations, h.globals.trans h'.globals, h.functions.trans h'.functions⟩

theorem builtIn?_mono (h : p.Within q) {v : Id} {builtIn : BuiltIn}
    (hv : p.builtIn? v = some builtIn) : q.builtIn? v = some builtIn := by
  obtain ⟨role, hrole, hv⟩ := Option.bind_eq_some_iff.1 hv
  exact Option.bind_eq_some_iff.2 ⟨role, findSome?_of_isPrefix h.annotations hrole, hv⟩

theorem resource?_mono (h : p.Within q) {v : Id} {resource : Resource}
    (hv : p.resource? v = some resource) : q.resource? v = some resource := by
  obtain ⟨role, hrole, hv⟩ := Option.bind_eq_some_iff.1 hv
  refine Option.bind_eq_some_iff.2 ⟨role, findSome?_of_isPrefix h.annotations hrole, ?_⟩
  cases role with
  | builtIn => cases hv
  | bound binding =>
      obtain ⟨set, hset, hv⟩ := Option.bind_eq_some_iff.1 hv
      exact Option.bind_eq_some_iff.2 ⟨set, findSome?_of_isPrefix h.annotations hset, hv⟩

/-- A variable has one role. -/
theorem resource?_eq_none {v : Id} {builtIn : BuiltIn} (hv : p.builtIn? v = some builtIn) :
    p.resource? v = none := by
  obtain ⟨role, hrole, hv⟩ := Option.bind_eq_some_iff.1 hv
  cases role with
  | builtIn => simp [resource?, hrole]
  | bound => cases hv

theorem builtIn?_eq_none {v : Id} {resource : Resource} (hv : p.resource? v = some resource) :
    p.builtIn? v = none := by
  cases hbuiltIn : p.builtIn? v with
  | none => rfl
  | some builtIn =>
      rw [resource?_eq_none hbuiltIn] at hv
      cases hv

theorem load?_mono (h : p.Within q) {v : Id} {path : List Word} {x : Meaning}
    (hx : p.load? host v path = some x) : q.load? host v path = some x := by
  unfold load? at hx ⊢
  cases hbuiltIn : p.builtIn? v with
  | some builtIn =>
      have hbuiltIn' := builtIn?_mono h hbuiltIn
      rw [hbuiltIn, resource?_eq_none hbuiltIn] at hx
      rwa [hbuiltIn', resource?_eq_none hbuiltIn']
  | none =>
      cases hresource : p.resource? v with
      | some resource =>
          have hresource' := resource?_mono h hresource
          rw [hbuiltIn, hresource] at hx
          rwa [builtIn?_eq_none hresource', hresource']
      | none => simp [hbuiltIn, hresource] at hx

theorem store?_mono (h : p.Within q) {v : Id} {path : List Word} {lanes : List ℚ} {w : Write}
    (hw : p.store? v path lanes = some w) : q.store? v path lanes = some w := by
  unfold store? at hw ⊢
  cases hresource : p.resource? v with
  | some resource =>
      rw [hresource] at hw
      rwa [resource?_mono h hresource]
  | none => simp [hresource] at hw

theorem isFloor_mono (h : p.Within q) {i : Instruction} (hi : p.isFloor i = true) :
    q.isFloor i = true := by
  unfold isFloor at hi ⊢
  split at hi
  · rw [Bool.and_eq_true, List.any_eq_true] at hi ⊢
    obtain ⟨hnumber, j, hj, himport⟩ := hi
    exact ⟨hnumber, j, h.imports.subset hj, himport⟩
  · exact hi

theorem lookup?_mono (h : p.Within q) {s : Progress} {id : Id} {x : Meaning}
    (hx : p.lookup? s id = some x) : q.lookup? s id = some x := by
  rw [lookup?, Option.or_eq_some_iff] at hx ⊢
  exact hx.imp_right (And.imp_right (lookup_of_isPrefix (globalMeanings_isPrefix h.globals)))

theorem apply_mono (h : p.Within q) {i : Instruction} {xs : List Meaning} {x : Meaning}
    (hx : p.apply host i xs = some x) : q.apply host i xs = some x := by
  unfold apply at hx ⊢
  split at hx
  case h_1 hload => exact load?_mono h hx
  case h_12 =>
    split at hx
    · next hfloor => rwa [if_pos (isFloor_mono h hfloor)]
    · cases hx
  all_goals exact hx

variable {calls calls' : Calls}

theorem effect_mono (h : p.Within q)
    (hcalls : ∀ function args r, calls function args = some r → calls' function args = some r)
    {i : Instruction} {xs : List Meaning} {e : Effect}
    (he : p.effect host calls i xs = some e) : q.effect host calls' i xs = some e := by
  unfold effect at he ⊢
  split at he
  case h_1 =>
    obtain ⟨w, hw, he⟩ := Option.map_eq_some_iff.1 he
    exact Option.map_eq_some_iff.2 ⟨w, store?_mono h hw, he⟩
  case h_4 =>
    obtain ⟨function, hfunction, he⟩ := Option.bind_eq_some_iff.1 he
    obtain ⟨r, hr, he⟩ := Option.bind_eq_some_iff.1 he
    exact Option.bind_eq_some_iff.2 ⟨function, hfunction,
      Option.bind_eq_some_iff.2 ⟨r, hcalls _ _ _ hr, he⟩⟩
  case h_5 =>
    obtain ⟨x, hx, he⟩ := Option.map_eq_some_iff.1 he
    exact Option.map_eq_some_iff.2 ⟨x, apply_mono h hx, he⟩
  all_goals exact he

/-- **An instruction does the same in a larger program.** -/
theorem step_mono (h : p.Within q)
    (hcalls : ∀ function args r, calls function args = some r → calls' function args = some r)
    {s s' : Progress} {i : Instruction} (hs : p.step host calls s i = some s') :
    q.step host calls' s i = some s' := by
  unfold step at hs ⊢
  split at hs
  · cases hs
  · next hanswer =>
      rw [if_neg hanswer]
      obtain ⟨xs, hxs, hs⟩ := Option.bind_eq_some_iff.1 hs
      obtain ⟨e, he, hs⟩ := Option.bind_eq_some_iff.1 hs
      exact Option.bind_eq_some_iff.2 ⟨xs, mapM_mono (fun _ _ => lookup?_mono h) hxs,
        Option.bind_eq_some_iff.2 ⟨e, effect_mono h hcalls he, hs⟩⟩

variable {watch watch' : Watch}

theorem keepsWithin_mono (hwatch : ∀ v path, watch v path = true → watch' v path = true)
    {i : Instruction} {xs : List Meaning} (h : i.keepsWithin watch xs = true) :
    i.keepsWithin watch' xs = true := by
  unfold Instruction.keepsWithin at h ⊢
  split
  · next hopcode =>
      rw [hopcode] at h
      exact hwatch _ _ h
  · rfl

theorem stepWithin_mono (h : p.Within q)
    (hwatch : ∀ v path, watch v path = true → watch' v path = true)
    (hcalls : ∀ function args r, calls function args = some r → calls' function args = some r)
    {s s' : Progress} {i : Instruction} (hs : p.stepWithin watch host calls s i = some s') :
    q.stepWithin watch' host calls' s i = some s' := by
  rw [stepWithin_eq_some] at hs ⊢
  obtain ⟨⟨xs, hxs, hkeeps⟩, hs⟩ := hs
  exact ⟨⟨xs, mapM_mono (fun _ _ => lookup?_mono h) hxs, keepsWithin_mono hwatch hkeeps⟩,
    step_mono h hcalls hs⟩

/-- **A function does the same in a larger program**, and if calls may be nested deeper and more
places loaded from. -/
theorem callWithin_mono (h : p.Within q)
    (hwatch : ∀ v path, watch v path = true → watch' v path = true) {m n : Nat} (hmn : m ≤ n)
    {function : Id} {args : List Meaning} {r : Option Meaning × List Write}
    (hr : p.callWithin watch host m function args = some r) :
    q.callWithin watch' host n function args = some r := by
  induction m generalizing n function args r with
  | zero => cases hr
  | succ m ih =>
      obtain ⟨n, rfl⟩ : ∃ k, n = k + 1 := ⟨n - 1, by omega⟩
      unfold callWithin at hr ⊢
      obtain ⟨f, hf, hr⟩ := Option.bind_eq_some_iff.1 hr
      obtain ⟨start, hstart, hr⟩ := Option.bind_eq_some_iff.1 hr
      obtain ⟨s, hs, hr⟩ := Option.bind_eq_some_iff.1 hr
      have hcalls : ∀ function args r, p.callWithin watch host m function args = some r →
          q.callWithin watch' host n function args = some r := fun _ _ _ => ih (by omega)
      have hsteps := foldlM_mono (fun _ _ _ => stepWithin_mono h hwatch hcalls) hs
      exact Option.bind_eq_some_iff.2 ⟨f, find?_of_isPrefix h.functions hf,
        Option.bind_eq_some_iff.2 ⟨start, hstart, Option.bind_eq_some_iff.2 ⟨s, hsteps, hr⟩⟩⟩

/-- **What a watched run writes is what is written.** -/
theorem execute_of_executeWithin {text : String} {writes : List Write}
    (h : p.executeWithin watch host text = some writes) : p.execute host text = some writes := by
  obtain ⟨function, hfunction, h⟩ := Option.bind_eq_some_iff.1 h
  obtain ⟨r, hr, h⟩ := Option.bind_eq_some_iff.1 h
  have hcall : p.callWithin (fun _ _ => true) host p.functions.length function [] = some r :=
    callWithin_mono (.refl p) (fun _ _ _ => rfl) le_rfl hr
  rw [callWithin_all] at hcall
  exact Option.bind_eq_some_iff.2 ⟨function, hfunction, Option.bind_eq_some_iff.2 ⟨r, hcall, h⟩⟩

end Program

/-! ### Drafts -/

/-- **Changes only let the program grow.** -/
theorem Account.Changes.program {short exhausted : Prop} {a b : Account}
    (h : Account.Changes short exhausted a b) : a.draft.program.Within b.draft.program where
  imports := (h.appends_any.parts .imports).isPrefix
  entryPoints := (h.appends_any.parts .entryPoints).isPrefix
  annotations := (h.appends_any.parts .annotations).isPrefix
  globals := (h.appends_any.parts .globals).isPrefix
  functions := h.appends_any.closed

end FrameShader
