/-
Declaring: what a module asks of its consumer is asked once.

Capabilities, extensions, imported sets and entry points each have a table beside their section, and a
call looks into the table before it writes.  The table and the section say the same, also after a call
that has failed in between.  So no section says anything twice.

Wide floating-point numbers need a capability, which is declared before the type is defined.

Main definitions:

* `FrameShader.ListsOnce` — a section lists something, and nothing twice;
* `FrameShader.Mirrors` — a table has what a section lists;
* `FrameShader.Draft.Declared` — the tables of a draft mirror its sections;
* `FrameShader.Draft.Widens` — wide numbers come with their capability.

Main results:

* `FrameShader.Account.Changes.declared` — **tables and sections stay in step**;
* `FrameShader.Draft.widens_after` — **wide numbers are defined only with their capability**.
-/

import FrameShader.Proofs.Draft.Asking
import FrameShader.Proofs.Draft.Uniqueness

set_option relaxedAutoImplicit false
set_option autoImplicit false

namespace FrameShader

/-! ### Lists without repetitions -/

variable {α κ τ : Type}

/-- The instructions list some things, no two of which have the same key. -/
def ListsOnce (key : α → κ) (row : α → Instruction) (is : List Instruction) : Prop :=
  ∃ xs : List α, (xs.map key).Nodup ∧ is = xs.map row

/-- The instructions list some things once, and the table has them, the latest first. -/
def Mirrors (key : α → κ) (row : α → Instruction) (entry : α → τ) (is : List Instruction)
    (table : List τ) : Prop :=
  ∃ xs : List α, (xs.map key).Nodup ∧ is = xs.map row ∧ table = (xs.map entry).reverse

namespace Mirrors

variable {key : α → κ} {row : α → Instruction} {entry : α → τ} {is : List Instruction}
  {table : List τ}

theorem nil : Mirrors key row entry [] [] := ⟨[], List.nodup_nil, rfl, rfl⟩

theorem listsOnce (h : Mirrors key row entry is table) : ListsOnce key row is := by
  obtain ⟨xs, hnodup, his, -⟩ := h
  exact ⟨xs, hnodup, his⟩

/-- What is in the table is listed. -/
theorem exists_of_mem (h : Mirrors key row entry is table) {e : τ} (he : e ∈ table) :
    ∃ x, entry x = e ∧ row x ∈ is := by
  obtain ⟨xs, -, rfl, rfl⟩ := h
  obtain ⟨x, hx, hentry⟩ := List.mem_map.1 (List.mem_reverse.1 he)
  exact ⟨x, hentry, List.mem_map.2 ⟨x, hx, rfl⟩⟩

/-- One more thing, whose key is not in the table. -/
theorem snoc (h : Mirrors key row entry is table) (x : α)
    (hnew : ∀ y, entry y ∈ table → key y ≠ key x) :
    Mirrors key row entry (is ++ [row x]) (entry x :: table) := by
  obtain ⟨xs, hnodup, rfl, rfl⟩ := h
  refine ⟨xs ++ [x], ?_, by rw [List.map_append, List.map_singleton], ?_⟩
  · rw [List.map_append]
    refine List.nodup_append.2 ⟨hnodup, List.nodup_singleton _, fun k hk l hl => ?_⟩
    obtain ⟨y, hy, rfl⟩ := List.mem_map.1 hk
    rw [List.mem_singleton.1 hl]
    exact hnew y (List.mem_reverse.2 (List.mem_map.2 ⟨y, hy, rfl⟩))
  · rw [List.map_append, List.reverse_append]
    rfl

end Mirrors

/-! ### Tables and sections -/

/-- The instruction that declares a capability. -/
def capabilityRow (c : Capability) : Instruction := .plain .capability [.capability c]

/-- The instruction that declares an extension. -/
def extensionRow (text : String) : Instruction := .plain .extension [.text text]

/-- The instruction that imports a set under an id. -/
def importRow (s : String × Id) : Instruction := .defining .extInstImport s.2 [.text s.1]

/-- The instruction that states an entry point: its name, its function and its interface. -/
def entryPointRow (p : String × Id × List Value) : Instruction :=
  .plain .entryPoint
    (.executionModel .glCompute :: .id p.2.1 :: .text p.1 :: p.2.2.map fun v => .id v.id)

namespace Draft

variable {d d' : Draft}

/-- The draft without anything but what it asks of its consumer, and its built-in values. -/
def declarations (d : Draft) : Draft :=
  { sections :=
      { capabilities := d.sections.capabilities
        extensions := d.sections.extensions
        imports := d.sections.imports
        entryPoints := d.sections.entryPoints }
    tables :=
      { capabilities := d.tables.capabilities
        extensions := d.tables.extensions
        imports := d.tables.imports
        entryPoints := d.tables.entryPoints
        builtIns := d.tables.builtIns } }

/-- The tables of a draft mirror its sections, and no built-in value has two variables. -/
structure Declared (d : Draft) : Prop where
  capabilities :
    Mirrors id capabilityRow id d.sections.capabilities d.tables.capabilities
  extensions : Mirrors id extensionRow id d.sections.extensions d.tables.extensions
  imports : Mirrors Prod.fst importRow id d.sections.imports d.tables.imports
  entryPoints : Mirrors Prod.fst entryPointRow (fun p => (p.1, p.2.1)) d.sections.entryPoints
    d.tables.entryPoints
  builtIns : (d.tables.builtIns.map Prod.fst).Nodup

theorem Declared.empty (settings : ModuleSettings) : (Draft.empty settings).Declared :=
  ⟨.nil, .nil, .nil, .nil, List.nodup_nil⟩

theorem Declared.congr (h : d.Declared) (hsame : d'.declarations = d.declarations) :
    d'.Declared := by
  have h' : d.declarations.Declared :=
    ⟨h.capabilities, h.extensions, h.imports, h.entryPoints, h.builtIns⟩
  rw [← hsame] at h'
  exact ⟨h'.capabilities, h'.extensions, h'.imports, h'.entryPoints, h'.builtIns⟩

/-- What is not found in a table is the key of none of its entries. -/
theorem key_ne_of_lookup {α β : Type} [BEq α] [LawfulBEq α] {table : List (α × β)} {k : α}
    (h : table.lookup k = none) {e : α × β} (he : e ∈ table) : e.1 ≠ k := by
  rintro rfl
  simpa using List.lookup_eq_none_iff.1 h e he

theorem declarations_addToAnnotations (d : Draft) (i : Instruction) :
    (d.addToAnnotations i).declarations = d.declarations :=
  view_eq (d.unannotated_addToAnnotations i) declarations fun _ => rfl

theorem declarations_addName (d : Draft) (target : Id) (member : Option Word) (i : Instruction) :
    (d.addName target member i).declarations = d.declarations := by
  unfold addName
  split <;> rfl

theorem declarations_addSource (d : Draft) (language : SourceLanguage) (version : Word) :
    (d.addSource language version).declarations = d.declarations := by
  unfold addSource
  split <;> rfl

/-- Notes keep tables and sections in step. -/
theorem Note.declared (hnote : d.Note d') (h : d.Declared) : d'.Declared := by
  cases hnote with
  | capability c =>
      unfold addCapability
      split
      case isTrue => exact h
      case isFalse hnew =>
        refine { h with capabilities := h.capabilities.snoc c ?_ }
        rintro e he rfl
        exact hnew (List.contains_iff_mem.2 he)
  | extension text =>
      unfold addExtension
      split
      case isTrue => exact h
      case isFalse hnew =>
        refine { h with extensions := h.extensions.snoc text ?_ }
        rintro e he rfl
        exact hnew (List.contains_iff_mem.2 he)
  | @entryPoint text f interface hnew =>
      have hpoints := h.entryPoints.snoc (text, f.id, interface) fun _ hp => key_ne_of_lookup hnew hp
      exact { h with entryPoints := hpoints }
  | builtIn hnew => exact { h with builtIns := Account.nodup_keys_cons _ hnew h.builtIns }
  | decorate | decorateMember => exact h.congr (d.declarations_addToAnnotations _)
  | name | nameMember => exact h.congr (d.declarations_addName _ _ _)
  | source language version => exact h.congr (d.declarations_addSource language version)
  | record | configure | executionMode | slot => exact h.congr rfl

end Draft

namespace Account

variable {short exhausted : Prop} {a b : Account}

theorem Change.declared (hstep : Change short exhausted a b) (h : a.draft.Declared) :
    b.draft.Declared := by
  cases hstep with
  | note hnote => exact hnote.declared h
  | @importSet d id ids text hnew =>
      have himports := h.imports.snoc (text, id) fun _ hs => Draft.key_ne_of_lookup hnew hs
      exact { h with imports := himports }
  | @defineConstant d id ids key => cases key <;> exact h.congr rfl
  | _ => exact h.congr rfl

/-- **Tables and sections stay in step.** -/
theorem Changes.declared (hsteps : Changes short exhausted a b) (h : a.draft.Declared) :
    b.draft.Declared :=
  hsteps.preserves (P := fun a => a.draft.Declared) Change.declared h

end Account

/-! ### Wide numbers -/

variable {d d' : Draft}

namespace Draft

/-- Wide floating-point numbers are known only if their capability is declared. -/
def Widens (d : Draft) : Prop := d.knows (.float 64) = true → .float64 ∈ d.tables.capabilities

theorem Widens.of_kept (h : d.Widens) (htypes : d'.tables.types = d.tables.types)
    (hcapabilities : d.tables.capabilities ⊆ d'.tables.capabilities) : d'.Widens := by
  intro hknows
  unfold knows at hknows
  rw [htypes] at hknows
  exact hcapabilities (h hknows)

theorem capabilities_subset_addCapability (d : Draft) (c : Capability) :
    d.tables.capabilities ⊆ (d.addCapability c).tables.capabilities := by
  unfold addCapability
  split
  · exact List.Subset.refl _
  · exact List.subset_cons_self _ _

theorem capabilities_addName (d : Draft) (target : Id) (member : Option Word) (i : Instruction) :
    (d.addName target member i).tables.capabilities = d.tables.capabilities :=
  view_eq (d.declarations_addName target member i) (·.tables.capabilities) fun _ => rfl

theorem capabilities_addToAnnotations (d : Draft) (i : Instruction) :
    (d.addToAnnotations i).tables.capabilities = d.tables.capabilities :=
  view_eq (d.declarations_addToAnnotations i) (·.tables.capabilities) fun _ => rfl

theorem capabilities_addExtension (d : Draft) (text : String) :
    (d.addExtension text).tables.capabilities = d.tables.capabilities := by
  unfold addExtension
  split <;> rfl

/-- Capabilities are never taken back. -/
theorem Step.capabilities {f : Draft → Draft} (hf : Step f) (d : Draft) :
    d.tables.capabilities ⊆ (f d).tables.capabilities := by
  cases hf with
  | capability c => exact d.capabilities_subset_addCapability c
  | name target member i => rw [capabilities_addName]; exact List.Subset.refl _
  | defineArray => rw [capabilities_addToAnnotations]; exact List.Subset.refl _
  | defineConstant key => cases key <;> exact List.Subset.refl _
  | _ => exact List.Subset.refl _

end Draft

/-- Nor do single operations take any back. -/
theorem Operation.Effect.capabilities {o : Operation} {f : Draft → Draft} (hf : o.Effect f)
    (d : Draft) : (f d).tables.capabilities = d.tables.capabilities := by
  cases hf with
  | decorate | decorateMember | set | binding | block | offset | nonWritable =>
      exact d.capabilities_addToAnnotations _
  | builtIn builtIn t type id =>
      exact Draft.capabilities_addToAnnotations _ (Build.builtInRow id builtIn)
  | extension | bufferExtension => exact d.capabilities_addExtension _
  | source language version =>
      exact Draft.view_eq (d.declarations_addSource language version) (·.tables.capabilities)
        fun _ => rfl
  | _ => rfl

namespace Draft

theorem Widens.addName (h : d.Widens) (target : Id) (member : Option Word) (i : Instruction) :
    (d.addName target member i).Widens :=
  h.of_kept (view_eq (d.bare_addName target member i) (·.tables.types) fun _ => rfl)
    (d.capabilities_addName target member i ▸ List.Subset.refl _)

/-- Asking for types keeps it so. -/
theorem keptByTypes_widens : KeptByTypes Widens where
  unannotated hsame h :=
    h.of_kept (view_eq hsame (·.tables.types) fun _ => rfl)
      ((view_eq hsame (·.tables.capabilities) fun _ => rfl) ▸ List.Subset.refl _)
  take h := h.of_kept rfl (List.Subset.refl _)
  capability h :=
    h.of_kept (types_of_terms (terms_addCapability _ _)) (capabilities_subset_addCapability _ _)
  define {d} id t opcode operands hwide h := by
    have hdefined : (d.addTypeDefinition id t opcode operands).Widens := fun hknows =>
      ((d.knows_addTypeDefinition id t (.float 64) opcode operands).1 hknows).elim h
        fun heq => hwide heq.symm
    unfold addNamedType
    split
    · exact hdefined.addName _ _ _
    · exact hdefined

/-- **Wide numbers are defined only with their capability**, whatever a call does. -/
theorem Widens.step (h : d.Widens) (o : Operation) : (d.step o).Widens := by
  refine o.run_made.keeps (fun hf hsame h => h.of_kept (types_of_terms hsame) (hf.capabilities _))
    (fun hf h => ?_) (fun t _ => Build.typeId_keeps keptByTypes_widens t) h
  cases hf with
  | effect hf => exact h.of_kept (hf.types _) (hf.capabilities _ ▸ List.Subset.refl _)
  | name target member i => exact h.addName target member i

theorem widens_after (settings : ModuleSettings) (os : List Operation) :
    ((empty settings).after os).Widens := by
  have hrun (os : List Operation) {d : Draft} (h : d.Widens) : (d.after os).Widens := by
    induction os generalizing d with
    | nil => exact h
    | cons o os ih => exact ih (h.step o)
  exact hrun os nofun

end Draft

end FrameShader
