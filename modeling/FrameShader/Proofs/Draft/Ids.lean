/-
Ids of finished modules: each is defined once, and the bound is tight.

Ids are taken in many places, sometimes long before the instruction that defines them.  What ties
them together is that a draft accounts for every id it has handed out: nothing is reserved once a
module is finished, and nothing is spare if every call succeeded and none asked for an id as such.

Main results:

* `FrameShader.Draft.finished_ids` — **the ids of a finished module are different and below its
  bound**, and if every call succeeded, they are all the ids below the bound.
-/

import FrameShader.Proofs.Draft.Appending

set_option relaxedAutoImplicit false
set_option autoImplicit false

namespace FrameShader

/-- The ids below a bound are the numbers below it. -/
theorem map_toNat_idsBefore (bound : Id) :
    (idsBefore bound).map UInt32.toNat = List.range' 1 (bound.toNat - 1) := by
  rw [idsBefore, List.map_map]
  refine (List.map_congr_left fun n hn => ?_).trans (List.map_id _)
  rw [List.mem_range'_1] at hn
  exact toNat_ofNat_of_lt_bound bound (by omega)

namespace Account.Consistent

variable {a : Account}

/-- Every id that an instruction defines was handed out. -/
theorem definedIds_bounded (h : a.Consistent) {id : Id} (hid : id ∈ a.draft.definedIds) :
    1 ≤ id ∧ id < a.draft.nextId :=
  mem_idsBefore.1 (h.ids.subset (List.mem_append_left _ hid))

/-- If no id is reserved or spare, instructions define all that were handed out. -/
theorem perm_definedIds (h : a.Consistent) (hdeclared : a.draft.tables.declared = [])
    (hspare : a.spare = []) : a.draft.definedIds.Perm (idsBefore a.draft.nextId) := by
  have hids := h.ids
  rwa [Draft.declaredIds, hdeclared, hspare, List.map_nil, List.nil_append, List.append_nil] at hids

end Account.Consistent

namespace Draft

/-- What a finished module defines is below its bound. -/
theorem bounded_of_mem_results {settings : ModuleSettings} {os : List Operation} {m : ShaderModule}
    (h : (Build.finish.runOn ((empty settings).after os)).1 = .ok m) {id : Id}
    (hid : id ∈ m.results) : 1 ≤ id ∧ id < m.header.bound := by
  obtain ⟨b, -, -, hconsistent, hfinished, hresults⟩ := account_of_finish settings os h
  obtain ⟨-, -, hbound, -⟩ := finished_eq_ok hfinished
  rw [hresults] at hid
  rw [hbound]
  exact hconsistent.definedIds_bounded hid

/-- **The ids of a finished module are different and below its bound.**  If every call succeeded
and none asked for an id as such, they are all the ids below the bound, each of them once. -/
theorem finished_ids (settings : ModuleSettings) (os : List Operation) (m : ShaderModule)
    (h : (Build.finish.runOn ((empty settings).after os)).1 = .ok m) :
    m.results.Nodup ∧ (∀ id ∈ m.results, 1 ≤ id ∧ id < m.header.bound) ∧
      ((empty settings).Succeeds os → .freshId ∉ os →
        (m.results.map UInt32.toNat).Perm (List.range' 1 (m.header.bound.toNat - 1))) := by
  obtain ⟨b, hb, -, hconsistent, hfinished, hresults⟩ := account_of_finish settings os h
  obtain ⟨-, hdeclared, hbound, -⟩ := finished_eq_ok hfinished
  refine ⟨hresults ▸ hconsistent.nodup_definedIds, fun id => bounded_of_mem_results h, ?_⟩
  intro hsucceeds hnone
  obtain ⟨c, hc, hchanges', hspare⟩ :=
    hsucceeds.changes (Account.Consistent.empty settings) hnone
  have hconsistent' := (Account.Consistent.empty settings).after hchanges'
  have hdraft : c.draft = b.draft := hc.trans hb.symm
  have hperm := hconsistent'.perm_definedIds (hdraft ▸ hdeclared) hspare
  rw [hdraft] at hperm
  rw [hresults, hbound, ← map_toNat_idsBefore]
  exact hperm.map UInt32.toNat

/-- The ids of a module whose function is called before it is defined are the first thirteen. -/
theorem finished_ids_of_sample :
    ∃ m, (Build.finish.runOn ((empty {}).after sampleCalls)).1 = .ok m ∧
      (m.results.map UInt32.toNat).Perm (List.range' 1 13) := by
  obtain ⟨m, h⟩ := exists_sampleModule
  have hids := (finished_ids {} sampleCalls m h).2.2 (by decide +kernel) (by simp [sampleCalls])
  have hbound : ((empty {}).after sampleCalls).nextId.toNat - 1 = 13 := by decide +kernel
  obtain ⟨-, -, hheader, -⟩ := finished_eq_ok (finished_of_finish h)
  rw [hheader, hbound] at hids
  exact ⟨m, h, hids⟩

end Draft

end FrameShader
