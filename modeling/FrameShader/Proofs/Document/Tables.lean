/-
Tables are made of assignments, and records are read from tables.

A table whose names are distinct has for each name the value that was assigned to it, so the fields of
a record are looked up in it.

Main definitions:

* `FrameShader.Toml.assignments` — the statements that give values to names.

Main results:

* `FrameShader.Toml.assemble?_table`, `FrameShader.Toml.assemble?_nested` — **the table of a document**
  with a header, or with a second one below it;
* `FrameShader.Node.fields?_table` — **the fields of a record** are looked up by name.
-/

import FrameShader.Document.Toml.Table
import FrameShader.Proofs.Draft.Reading

set_option relaxedAutoImplicit false
set_option autoImplicit false

namespace FrameShader

theorem lookup_eq_none_iff_notMem {α : Type} {entries : List (String × α)} {name : String} :
    entries.lookup name = none ↔ name ∉ entries.map Prod.fst := by
  simp only [List.lookup_eq_none_iff, List.mem_map, not_exists, not_and, bne_iff_ne]
  exact forall₂_congr fun e _ => ne_comm

namespace Toml

/-! ### Assignments -/

/-- The statements that give values to names. -/
def assignments (entries : List (String × Node)) : List Statement :=
  entries.map fun e => .assignment [e.1] e.2

/-- The entries of a table that assignments have made. -/
def assigned (entries : List (String × Node)) : Entries := entries.map fun e => (e.1, .value e.2)

@[simp] theorem names_assigned (entries : List (String × Node)) :
    (assigned entries).map Prod.fst = entries.map Prod.fst := by
  rw [assigned, List.map_map]
  rfl

theorem entriesToNodes_append (es es' : Entries) :
    entriesToNodes (es ++ es') = entriesToNodes es ++ entriesToNodes es' := by
  induction es with
  | nil => rfl
  | cons e es ih => simp [entriesToNodes, ih]

@[simp] theorem entriesToNodes_assigned (entries : List (String × Node)) :
    entriesToNodes (assigned entries) = entries := by
  induction entries with
  | nil => rfl
  | cons e entries ih => exact congrArg (e :: ·) ih

/-- A name that is new gets its value. -/
theorem assign_new {es : Entries} {name : String} (h : name ∉ es.map Prod.fst) (node : Node) :
    assign [name] node es = some (es ++ [(name, .value node)]) := by
  show (define false name (.value node) false es).bind _ = _
  rw [define, lookup_eq_none_iff_notMem.2 h]
  rfl

/-- **Assignments to distinct names**, all of them new. -/
theorem foldlM_assignments {entries : List (String × Node)} (a : Assembly)
    (hnodup : (entries.map Prod.fst).Nodup)
    (hnew : ∀ name ∈ entries.map Prod.fst, name ∉ a.current.map Prod.fst) :
    (assignments entries).foldlM Assembly.add? a =
      some { a with current := a.current ++ assigned entries } := by
  induction entries generalizing a with
  | nil => simp [assignments, assigned]
  | cons e entries ih =>
      rw [List.map_cons, List.nodup_cons] at hnodup
      rw [List.map_cons, List.forall_mem_cons] at hnew
      have hfirst : a.add? (.assignment [e.1] e.2) =
          some { a with current := a.current ++ [(e.1, .value e.2)] } := by
        rw [Assembly.add?, assign_new hnew.1]
        rfl
      have hrest := ih { a with current := a.current ++ [(e.1, .value e.2)] } hnodup.2 ?_
      · rw [assignments, List.map_cons, List.foldlM_cons, hfirst]
        refine hrest.trans ?_
        rw [List.append_assoc]
        rfl
      · intro name hname hmem
        rw [List.map_append, List.mem_append] at hmem
        rcases hmem with hmem | hmem
        · exact hnew.2 name hname hmem
        · rw [List.mem_singleton.1 hmem] at hname
          exact hnodup.1 hname

/-! ### Documents -/

variable {outer inner : String} {entries entries' : List (String × Node)}

theorem foldlM_header (hnodup : (entries.map Prod.fst).Nodup) :
    (.header [outer] :: assignments entries).foldlM Assembly.add? {} =
      some ⟨[], assigned entries, [outer], false⟩ :=
  foldlM_assignments ⟨[], [], [outer], false⟩ hnodup fun _ _ => List.not_mem_nil

/-- **A document with a header.** -/
theorem assemble?_table (hnodup : (entries.map Prod.fst).Nodup) :
    assemble? (.header [outer] :: assignments entries) = some (.table [(outer, .table entries)]) := by
  rw [assemble?, foldlM_header hnodup]
  show some (Entries.toNode [(outer, .table false false (assigned entries))]) = _
  rw [Entries.toNode, entriesToNodes, Item.toNode, entriesToNodes_assigned]
  rfl

/-- The second header goes on in the table of the first. -/
theorem add?_header (hinner : inner ∉ entries.map Prod.fst) :
    Assembly.add? ⟨[], assigned entries, [outer], false⟩ (.header [outer, inner]) =
      some ⟨[(outer, .table false false (assigned entries))], [], [outer, inner], false⟩ := by
  have hlookup : (assigned entries).lookup inner = none :=
    lookup_eq_none_iff_notMem.2 (by rwa [names_assigned])
  simp [Assembly.add?, Assembly.close?, splitPath?, descend, Assembly.closeInto,
    Assembly.openTable, hlookup, replaceEntry]

/-- What the second header has goes into the table of the first, which has nothing of this name. -/
theorem close?_header {es : Entries} (hinner : inner ∉ entries.map Prod.fst) :
    Assembly.close? ⟨[(outer, .table false false (assigned entries))], es, [outer, inner], false⟩ =
      some [(outer, .table false false (assigned entries ++ [(inner, .table false false es)]))] := by
  have hlookup : (assigned entries).lookup inner = none :=
    lookup_eq_none_iff_notMem.2 (by rwa [names_assigned])
  simp [Assembly.close?, splitPath?, descend, Assembly.closeInto, hlookup, replaceEntry]

/-- **A document with a header and another one below it.** -/
theorem assemble?_nested (hnodup : (entries.map Prod.fst).Nodup)
    (hnodup' : (entries'.map Prod.fst).Nodup) (hinner : inner ∉ entries.map Prod.fst) :
    assemble? (.header [outer] :: assignments entries ++ .header [outer, inner] ::
      assignments entries') =
      some (.table [(outer, .table (entries ++ [(inner, .table entries')]))]) := by
  have hrest := foldlM_assignments
    ⟨[(outer, .table false false (assigned entries))], [], [outer, inner], false⟩ hnodup'
    fun _ _ => List.not_mem_nil
  have hall : (.header [outer] :: assignments entries ++ .header [outer, inner] ::
      assignments entries').foldlM Assembly.add? {} =
      some ⟨[(outer, .table false false (assigned entries))], assigned entries', [outer, inner],
        false⟩ := by
    rw [List.foldlM_append, foldlM_header hnodup]
    exact (congrArg (Option.bind · _) (add?_header hinner)).trans hrest
  rw [assemble?, hall]
  show (Assembly.close? _).bind (fun es => some es.toNode) = _
  rw [close?_header hinner]
  simp [Entries.toNode, entriesToNodes, Item.toNode, entriesToNodes_append]

end Toml

/-! ### Records -/

theorem filter_name {α : Type} {entries : List (String × α)} (h : (entries.map Prod.fst).Nodup)
    (name : String) : entries.filter (fun e => e.1 == name) =
      ((entries.lookup name).map fun a => (name, a)).toList := by
  induction entries with
  | nil => rfl
  | cons e entries ih =>
      rw [List.map_cons, List.nodup_cons] at h
      by_cases hname : e.1 = name
      · subst hname
        have hrest : entries.filter (fun e' => e'.1 == e.1) = [] := by
          rw [ih h.2, lookup_eq_none_iff_notMem.2 h.1]
          rfl
        rw [List.filter_cons_of_pos (by simp), hrest, List.lookup_cons_self]
        rfl
      · rw [List.filter_cons_of_neg (by simpa using hname), ih h.2,
          lookup_cons_of_ne (Ne.symm hname)]

namespace Node

/-- **The fields of a record are looked up by name**, where each name comes up once. -/
theorem fields?_table (d : Dialect) {entries : List (String × Node)}
    (h : (entries.map Prod.fst).Nodup) {fields : List Field}
    (hfields : ∀ f ∈ fields, f.nullable = false) :
    (table entries).fields? d fields = some (fields.map fun f => entries.lookup f.name) := by
  have hentry (f : Field) (hf : f ∈ fields) : entryAt? entries f = some (entries.lookup f.name) := by
    rw [entryAt?, filter_name h, hfields f hf]
    cases entries.lookup f.name <;> rfl
  rw [fields?]
  clear hfields
  induction fields with
  | nil => rfl
  | cons f fields ih =>
      obtain ⟨hf, hfields⟩ := List.forall_mem_cons.1 hentry
      rw [List.mapM_cons, hf, ih hfields]
      rfl

end Node

end FrameShader
