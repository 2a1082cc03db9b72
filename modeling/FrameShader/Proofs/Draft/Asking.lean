/-
Asking: what is kept whenever a type is asked for.

Asking for a type changes a draft in five ways only.  Ids are handed out, a capability is declared, a
type is defined, an array is decorated with its stride, and a type is named if it is complete.  These
belong together: wide floating-point numbers are not defined before their capability is declared, and
a type is named as soon as it is defined.  A property that is kept by the five ways, taken together,
is kept by asking for any type.

Main definitions:

* `FrameShader.Draft.addNamedType` — a type is defined, and named if it is complete;
* `FrameShader.Draft.KeptByTypes` — a property that is kept by all that asking for types does.

Main results:

* `FrameShader.Build.intern_keeps` — interning keeps what is kept by giving definitions;
* `FrameShader.Build.typeId_keeps` — **asking for a type keeps what its steps keep**.
-/

import FrameShader.Proofs.Draft.Attempting

set_option relaxedAutoImplicit false
set_option autoImplicit false

namespace FrameShader

namespace Draft

/-- The name of a type. -/
def typeName (id : Id) (t : DataType) : Instruction :=
  .plain .debugName [.id id, .text t.text]

/-- The draft with one more type, which is named unless it is an array without a stride. -/
def addNamedType (d : Draft) (id : Id) (t : DataType) (opcode : Opcode) (operands : List Operand) :
    Draft :=
  if t.hasStride then
    (d.addTypeDefinition id t opcode operands).addName id none (typeName id t)
  else d.addTypeDefinition id t opcode operands

/-- Names are no annotations. -/
theorem unannotated_addName (d : Draft) (target : Id) (member : Option Word) (i : Instruction) :
    (d.addName target member i).unannotated = d.unannotated.addName target member i := by
  have hsettings : d.unannotated.settings = d.settings := rfl
  have hnames : d.unannotated.tables.names = d.tables.names := rfl
  simp only [addName, hsettings, hnames]
  cases (!d.settings.debugSymbols || d.tables.names.contains (target, member)) <;> rfl

theorem mem_addCapability (d : Draft) (c : Capability) :
    c ∈ (d.addCapability c).tables.capabilities := by
  unfold addCapability
  split
  case isTrue h => exact List.contains_iff_mem.1 h
  case isFalse => exact List.mem_cons_self

/-- The property is kept by all that asking for types does. -/
structure KeptByTypes (P : Draft → Prop) : Prop where
  /-- Annotations do not matter. -/
  unannotated : ∀ {d d' : Draft}, d'.unannotated = d.unannotated → P d → P d'
  take : ∀ {d : Draft}, P d → P (d.takeId.addRecord (Build.idRecord d.nextId))
  capability : ∀ {d : Draft}, P d → P (d.addCapability .float64)
  /-- Wide floating-point numbers are defined only behind their capability. -/
  define : ∀ {d : Draft} (id : Id) (t : DataType) (opcode : Opcode) (operands : List Operand),
    (t = .float 64 → .float64 ∈ d.tables.capabilities) → P d →
      P (d.addNamedType id t opcode operands)

end Draft

namespace Build

open Draft

variable {P : Draft → Prop} {d : Draft}

/-- The call gives a definition of the type, and keeps the property. -/
structure Defining (P : Draft → Prop) (t : DataType) (definition : Build (Opcode × List Operand)) :
    Prop where
  keeps : ∀ {d : Draft}, P d → P (definition.runOn d).2
  /-- For a wide floating-point number the capability is declared. -/
  wide : t = .float 64 → ∀ {d d' : Draft} {x : Opcode × List Operand},
    definition.runOn d = (.ok x, d') → .float64 ∈ d'.tables.capabilities

/-- The definitions of all types but wide numbers declare nothing. -/
theorem Defining.of_ne {t : DataType} {definition : Build (Opcode × List Operand)}
    (ht : t ≠ .float 64) (h : ∀ {d : Draft}, P d → P (definition.runOn d).2) :
    Defining P t definition :=
  ⟨h, fun heq => absurd heq ht⟩

/-- **Interning keeps what is kept by giving the definition.** -/
theorem intern_keeps (hP : KeptByTypes P) {t : DataType}
    {definition : Build (Opcode × List Operand)} {complete : Id → Build Unit}
    (hdefinition : Defining P t definition) (hcomplete : Finishes t complete) (hd : P d) :
    P ((intern t definition complete).runOn d).2 := by
  rw [intern, runOn_bind_of_ok (runOn_get d)]
  cases d.tables.types.lookup t with
  | some id => exact hd
  | none =>
      have hkept := hdefinition.keeps hd
      show P ((definition >>= _).runOn d).2
      rw [runOn_bind]
      rcases hrun : definition.runOn d with ⟨e | ⟨opcode, operands⟩, d'⟩
      · rw [hrun] at hkept
        exact hkept
      rw [hrun] at hkept
      show P ((freshId >>= _).runOn d').2
      rw [runOn_bind, runOn_freshId]
      by_cases hroom : d'.nextId.toNat + 1 < UInt32.size
      case neg =>
        rw [if_neg hroom]
        exact hkept
      rw [if_pos hroom]
      have hwide (ht : t = .float 64) : .float64 ∈ d'.tables.capabilities :=
        hdefinition.wide ht hrun
      have hdefined := hP.define d'.nextId t opcode operands
        (d := d'.takeId.addRecord (idRecord d'.nextId)) hwide (hP.take hkept)
      -- the type is defined by now: it is completed and named, or its size is no word
      obtain ⟨e, hsame, ⟨hfinish, hstride⟩ | ⟨element, operation, rfl, hsize, hfinish⟩⟩ :=
        hcomplete d'.nextId ((d'.takeId.addRecord (idRecord d'.nextId)).addTypeDefinition
          d'.nextId t opcode operands) List.lookup_cons_self
      · show P ((complete d'.nextId >>= fun _ => nameType t d'.nextId).runOn _).2
        rw [runOn_bind_of_ok hfinish, runOn_nameType
          ((view_eq hsame (·.tables.dataTypes) fun _ => rfl) ▸ List.lookup_cons_self)]
        refine hP.unannotated ?_ hdefined
        rw [addNamedType, if_pos hstride, typeName, unannotated_addName, unannotated_addName, hsame]
      · show P ((complete d'.nextId >>= fun _ => nameType _ d'.nextId).runOn _).2
        rw [runOn_bind, hfinish]
        refine hP.unannotated ?_ hdefined
        rw [addNamedType, DataType.hasStride_of_error hsize]
        exact hsame

/-- Going on with an answer. -/
theorem keeps_map {α β : Type} {call : Build α} {next : α → β} (h : P (call.runOn d).2) :
    P ((call >>= fun v => pure (next v)).runOn d).2 := by
  rw [runOn_bind]
  rcases hrun : call.runOn d with ⟨e | v, d'⟩ <;> (rw [hrun] at h; exact h)

/-- One call after another. -/
theorem keeps_bind {α β : Type} {call : Build α} {next : α → Build β} (h : P (call.runOn d).2)
    (hnext : ∀ v d', P d' → P ((next v).runOn d').2) : P ((call >>= next).runOn d).2 := by
  rw [runOn_bind]
  rcases hrun : call.runOn d with ⟨e | v, d'⟩
  · rw [hrun] at h
    exact h
  · rw [hrun] at h
    exact hnext v d' h

theorem scalarId_keeps (hP : KeptByTypes P) (s : Scalar) (hd : P d) :
    P ((scalarId s).runOn d).2 := by
  refine intern_keeps hP ?_ (complete_finishes rfl) hd
  cases s with
  | float width =>
      by_cases hwide : width = 64
      · simp only [if_pos hwide]
        refine ⟨hP.capability, fun _ d d' x hrun => ?_⟩
        cases hrun
        exact d.mem_addCapability .float64
      · simp only [if_neg hwide]
        refine Defining.of_ne (fun ht => hwide ?_) fun hd => hd
        injection ht with ht
        injection ht
  | _ => exact Defining.of_ne nofun fun hd => hd

theorem imageId_keeps (hP : KeptByTypes P) (shape : ImageShape) (hd : P d) :
    P ((imageId shape).runOn d).2 :=
  intern_keeps hP (Defining.of_ne nofun fun hd => keeps_map (scalarId_keeps hP _ hd)) (complete_finishes rfl) hd

mutual

/-- **Asking for a type keeps what its steps keep.** -/
theorem typeId_keeps (hP : KeptByTypes P) :
    ∀ (t : DataType) {d : Draft}, P d → P ((typeId t).runOn d).2
  | .scalar s, d, hd => scalarId_keeps hP s hd
  | .vector s width, d, hd => by
      refine intern_keeps hP (Defining.of_ne nofun fun {d} hd => ?_) (complete_finishes rfl) hd
      cases DataType.vector? s width with
      | error => exact hd
      | ok =>
          show P ((if s = .void then _ else _ : Build _).runOn d).2
          split
          · exact hd
          · exact keeps_map (scalarId_keeps hP s hd)
  | .runtimeArray element, d, hd =>
      intern_keeps hP (Defining.of_ne nofun fun hd => keeps_map (typeId_keeps hP element hd))
        (stride_finishes element) hd
  | .record members, d, hd =>
      intern_keeps hP (Defining.of_ne nofun fun hd => keeps_map (typeIds_keeps hP members hd))
        (complete_finishes rfl) hd
  | .pointer _ pointee, d, hd =>
      intern_keeps hP (Defining.of_ne nofun fun hd => keeps_map (typeId_keeps hP pointee hd))
        (complete_finishes rfl) hd
  | .image shape, d, hd => imageId_keeps hP shape hd
  | .sampler, d, hd => intern_keeps hP (Defining.of_ne nofun fun hd => hd) (complete_finishes rfl) hd
  | .sampledImage inner, d, hd => by
      refine intern_keeps hP (Defining.of_ne nofun fun {d} hd => ?_) (complete_finishes rfl) hd
      cases inner with
      | image shape => exact keeps_map (imageId_keeps hP shape hd)
      | _ => exact hd
  | .function result parameters, d, hd =>
      intern_keeps hP (Defining.of_ne nofun fun hd => keeps_bind (typeId_keeps hP result hd) fun _ _ hd =>
        keeps_map (typeIds_keeps hP parameters hd)) (complete_finishes rfl) hd

/-- So does asking for several. -/
theorem typeIds_keeps (hP : KeptByTypes P) :
    ∀ (ts : List DataType) {d : Draft}, P d → P ((typeIds ts).runOn d).2
  | [], _, hd => hd
  | t :: ts, _, hd => keeps_bind (typeId_keeps hP t hd) fun _ _ hd =>
      keeps_map (typeIds_keeps hP ts hd)

end

end Build

end FrameShader
