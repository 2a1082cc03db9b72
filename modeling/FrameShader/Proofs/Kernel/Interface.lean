/-
The interface of a kernel, and what a module says about it.

The pipeline is handed a list of slots, computed from the precision alone.  The module is decorated by
another computation, in a draft where types, arrays and the index of the invocation may be known and
decorated already.  The two agree whatever was done to the draft before, and whatever is done to it
afterwards.  The resources can be declared just as long as their slots are free and the index of the
invocation is not in use as something else, and not a second time.

Main definitions:

* `FrameShader.Draft.Vacant` — the resources of a kernel have a place in the draft;
* `FrameShader.Draft.Offers` — a resource is in its slot, with its contents laid out;
* `FrameShader.ResourceInterface.Matches` — a module says of the resources what their slots say.

Main results:

* `FrameShader.ResourceInterface.declare_provides` — what declaring resources leaves behind;
* `FrameShader.ResourceInterface.declare_affords` — **they can be declared if there is a place for
  them**;
* `FrameShader.ResourceInterface.declare_matches` — **the slots of a kernel and its module agree**.
-/

import FrameShader.Proofs.Kernel.Building

set_option relaxedAutoImplicit false
set_option autoImplicit false

namespace FrameShader

open Build

/-! ### Resources, one by one -/

namespace Resource

/-- The storage of the variable of a resource. -/
def storage : Resource → StorageClass
  | .sampler | .image => .uniformConstant
  | .coordinates | .network => .storageBuffer

/-- What the variable of a resource points to. -/
def contents (p : Precision) : Resource → DataType
  | .sampler => .sampler
  | .image => .image (.flat p.scalar)
  | .coordinates => bufferType (.vector p.scalar 2)
  | .network => bufferType (.vector p.scalar 4)

/-- Makes the variable of a resource. -/
def create (p : Precision) : Resource → Build Value
  | .sampler => uniformConstant .sampler
  | .image => uniformConstant (.image (.flat p.scalar))
  | .coordinates => storageBuffer (.vector p.scalar 2) .readOnly
  | .network => storageBuffer (.vector p.scalar 4) .readWrite

/-- Makes the variable of a resource and puts it into its slot. -/
def offer (p : Precision) (resource : Resource) (text : String) : Build Value := do
  let v ← resource.create p
  ResourceInterface.place v resource text
  return v

theorem storage_opaque_or_buffer (resource : Resource) :
    resource.storage = .uniformConstant ∨ resource.storage = .storageBuffer := by
  cases resource <;> simp [storage]

end Resource

/-- The variable that a resource has in an interface. -/
def ResourceInterface.variableOf (r : ResourceInterface) : Resource → Value
  | .sampler => r.sampler
  | .image => r.image
  | .coordinates => r.coordinates
  | .network => r.network

/-- The resources are made one after another, and then the index of the invocation is asked for. -/
theorem ResourceInterface.declare_eq (p : Precision) : declare p = (do
    let sampler ← Resource.sampler.offer p "sampler"
    let image ← Resource.image.offer p "image"
    let coordinates ← Resource.coordinates.offer p "coordinates"
    let network ← Resource.network.offer p "network"
    let globalId ← builtInInput .globalInvocationId (.vector .uint32 3)
    Build.name globalId.id "global_id"
    record .trace ("Declared image loading interface (" ++ p.name ++ ")")
    return ⟨sampler, image, coordinates, network, globalId⟩) := by
  simp only [Resource.offer, Resource.create, bind_assoc, pure_bind]
  rfl

namespace Draft

variable {d d' : Draft} {p : Precision} {resource : Resource} {v : Value}

/-- The variable of a resource is there, with its contents laid out. -/
structure Prepares (d : Draft) (p : Precision) (resource : Resource) (v : Value) : Prop where
  declares : d.Declares resource.storage (resource.contents p) v
  block : ∀ element, resource.contents p = bufferType element →
    ∃ block, d.IsBlock (bufferType element) block
  readOnly : resource = .coordinates → (nonWritableRow v.id).StatedIn d.sections.annotations

/-- The variable of a resource is there and in its slot. -/
structure Offers (d : Draft) (p : Precision) (resource : Resource) (v : Value) : Prop
    extends d.Prepares p resource v where
  set : (setRow v.id descriptorSet).StatedIn d.sections.annotations
  binding : (bindingRow v.id resource.binding).StatedIn d.sections.annotations

theorem outgrows_addRecord (d : Draft) (r : LogRecord) : d.Outgrows (d.addRecord r) :=
  ⟨fun _ => List.prefix_rfl, List.prefix_rfl, .refl _, UInt32.le_refl _⟩

theorem Prepares.outgrows (h : d.Prepares p resource v) (hgrows : d.Outgrows d') :
    d'.Prepares p resource v where
  declares := h.declares.outgrows hgrows
  block element helement := by
    obtain ⟨block, hblock⟩ := h.block element helement
    exact ⟨block, hblock.outgrows hgrows⟩
  readOnly hresource := hgrows.stated (h.readOnly hresource)

theorem Offers.outgrows (h : d.Offers p resource v) (hgrows : d.Outgrows d') :
    d'.Offers p resource v where
  toPrepares := h.toPrepares.outgrows hgrows
  set := hgrows.stated h.set
  binding := hgrows.stated h.binding

/-- Nothing is in the slot of the resource. -/
def Frees (d : Draft) (resource : Resource) : Prop :=
  d.tables.slots.lookup (descriptorSet, resource.binding) = none

/-- A slot that is free was free before. -/
theorem Frees.of_outgrows (h : d'.Frees resource) (hgrows : d.Outgrows d') : d.Frees resource := by
  unfold Frees at h ⊢
  cases hlookup : d.tables.slots.lookup (descriptorSet, resource.binding) with
  | none => rfl
  | some existing =>
      rw [hgrows.tables.slots _ _ hlookup] at h
      cases h

end Draft

/-! ### What the calls leave behind -/

namespace Build

variable {a : Account} {p : Precision} {resource : Resource} {v : Value}

/-- The resource was put into a slot that was free, and apart from that the draft only learns. -/
structure Offered (a : Account) (p : Precision) (resource : Resource) (v : Value) (b : Account) :
    Prop where
  ready : b.Ready
  outgrows : a.draft.Outgrows b.draft
  offers : b.draft.Offers p resource v
  free : a.draft.Frees resource
  slots : b.draft.tables.slots = ((descriptorSet, resource.binding), v.id) :: a.draft.tables.slots
  builtIns : b.draft.tables.builtIns = a.draft.tables.builtIns

/-- The slots of the other resources stay free. -/
theorem Offered.frees {b : Account} (h : Offered a p resource v b) {other : Resource}
    (hother : a.draft.Frees other) (hne : other.binding ≠ resource.binding) :
    b.draft.Frees other := by
  have hkeys : (descriptorSet, other.binding) ≠ (descriptorSet, resource.binding) := by
    simpa using hne
  unfold Draft.Frees at hother ⊢
  rw [h.slots, lookup_cons_of_ne hkeys]
  exact hother

theorem create_provides (ha : a.Ready) (p : Precision) (resource : Resource) :
    Does False (resource.create p) a fun v b => b.draft.Prepares p resource v ∧
      b.draft.tables.builtIns = a.draft.tables.builtIns ∧
      b.draft.tables.slots = a.draft.tables.slots := by
  -- opaque resources have no contents to be laid out
  have hopaque {t : DataType} (hcontents : resource.contents p = t)
      (hstorage : resource.storage = .uniformConstant) (hnone : ∀ element, t ≠ bufferType element) :
      Does False (uniformConstant t) a fun v b => b.draft.Prepares p resource v ∧
        b.draft.tables.builtIns = a.draft.tables.builtIns ∧
        b.draft.tables.slots = a.draft.tables.slots := by
    refine (globalVariable_does ha.consistent .uniformConstant t).mono ?_
    rintro v b - ⟨-, hvariable, hrest⟩
    refine ⟨⟨?_, fun element helement => ?_, fun hresource => ?_⟩, hrest⟩
    · rw [hstorage, hcontents]
      exact hvariable
    · exact absurd (hcontents.symm.trans helement) (hnone element)
    · rw [hresource] at hstorage
      cases hstorage
  have hbuffer {element : DataType} {access : Access}
      (hcontents : resource.contents p = bufferType element)
      (hstorage : resource.storage = .storageBuffer)
      (haccess : resource = .coordinates → access = .readOnly) :
      Does False (storageBuffer element access) a fun v b => b.draft.Prepares p resource v ∧
        b.draft.tables.builtIns = a.draft.tables.builtIns ∧
        b.draft.tables.slots = a.draft.tables.slots := by
    refine (storageBuffer_provides ha.consistent ha.annotated element access).mono ?_
    rintro v b - ⟨hvariable, hblock, hreadOnly, hrest⟩
    refine ⟨⟨?_, fun other hother => ?_, fun hresource => hreadOnly (haccess hresource)⟩, hrest⟩
    · rw [hstorage, hcontents]
      exact hvariable
    · rw [← hother, hcontents]
      exact hblock
  cases resource with
  | sampler => exact hopaque rfl rfl fun _ h => nomatch h
  | image => exact hopaque rfl rfl fun _ h => nomatch h
  | coordinates => exact hbuffer rfl rfl fun _ => rfl
  | network => exact hbuffer rfl rfl fun h => nomatch h

/-- **A resource that is offered is in its slot**, which was free. -/
theorem offer_provides (ha : a.Ready) (p : Precision) (resource : Resource) (text : String) :
    Does False (resource.offer p text) a fun v b => Offered a p resource v b := by
  refine .bind ha.consistent (create_provides ha p resource).tracked ?_
  rintro v b hb ⟨⟨hprepares, hbuiltIns, hslots⟩, hab, -⟩
  have hready := ha.after hab
  refine .bind hb (P := fun _ c => Offered a p resource v c) ?_ fun _ c _ hc => .pure hc
  refine .bind hb (descriptorBinding_provides hb hready.annotated v descriptorSet
    resource.binding).tracked ?_
  rintro _ c hc ⟨⟨hfree, hslots', hbuiltIns', hset, hbinding⟩, hbc, -⟩
  have hready' := hready.after hbc
  refine (name_does v.id text).mono fun _ e hce halike => ?_
  have hgrows := hce.outgrows hc
  have hgrows' := hbc.outgrows hb
  have hgrows'' := hab.outgrows ha.consistent
  refine ⟨hready'.after hce, ?_, ⟨(hprepares.outgrows hgrows').outgrows hgrows, hgrows.stated hset,
    hgrows.stated hbinding⟩, ?_, ?_, ?_⟩
  · exact (((hab.trans hbc).trans hce)).outgrows ha.consistent
  · exact Draft.Frees.of_outgrows hfree hgrows''
  · rw [halike.grows.slots, hslots', hslots]
  · rw [halike.grows.builtIns, hbuiltIns', hbuiltIns]

/-! ### When they succeed -/

theorem create_affords (ha : a.Ready) (p : Precision) (resource : Resource) :
    Affords 10 (resource.create p) a.draft := by
  have hopaque {t : DataType} (ht : t.isDefinable = true) (hparts : t.parts ≤ 2) :
      Affords 10 (uniformConstant t) a.draft :=
    (globalVariable_affords (by decide) ht).mono (by omega)
  have hbuffer (width : Word) (access : Access) (hwidth : isVectorWidth width = true)
      (hsize : (DataType.vector p.scalar width).size.isOk = true) :
      Affords 10 (storageBuffer (.vector p.scalar width) access) a.draft :=
    storageBuffer_affords ha.consistent access (by simp [DataType.isDefinable, hwidth,
      Precision.scalar]) hsize
  cases resource with
  | sampler => exact hopaque rfl (by decide)
  | image => exact hopaque rfl (Nat.le_refl _)
  | coordinates => exact hbuffer 2 .readOnly (by decide) (by cases p <;> decide)
  | network => exact hbuffer 4 .readWrite (by decide) (by cases p <;> decide)

/-- **A resource can be offered if its slot is free.** -/
theorem offer_affords (ha : a.Ready) (p : Precision) (text : String) (hfree : a.draft.Frees resource) :
    Affords 10 (resource.offer p text) a.draft := by
  refine .bind (n := 0) (create_affords ha p resource) fun v d hrun => ?_
  obtain ⟨b, rfl, hab, hprepares, -, hslots⟩ := (create_provides ha p resource).exists_of_ok hrun
  have hb := ha.after hab
  have hfree' : b.draft.tables.slots.lookup (descriptorSet, resource.binding) = none := by
    rw [hslots]
    exact hfree
  refine .bind (m := 0) (n := 0) ?_ fun _ _ _ => .pure
  refine .bind (m := 0) (n := 0) (descriptorBinding_affords hb.consistent hprepares.declares
    resource.storage_opaque_or_buffer hfree') fun _ d hrun' => ?_
  have hplaced : Does False (descriptorBinding v descriptorSet resource.binding) b _ :=
    descriptorBinding_does hb.consistent v descriptorSet resource.binding
  obtain ⟨c, rfl, hbc, -⟩ := hplaced.exists_of_ok hrun'
  have hdefined := (hprepares.declares.outgrows (hbc.outgrows hb.consistent)).isDefined
  exact name_affords (Bool.or_eq_true_iff.2 (.inl hdefined)) text

end Build

/-! ### Declaring all of them -/

/-- The resources of a kernel have a place in the draft: their slots are free, and if the index of the
invocation is in use, then as three integers. -/
structure Draft.Vacant (d : Draft) : Prop where
  slots : ∀ resource, d.Frees resource
  globalId : ∀ v, d.tables.builtIns.lookup .globalInvocationId = some v →
    d.tables.dataTypes.lookup v.type = some (.pointer .input (.vector .uint32 3))

namespace ResourceInterface

variable {a : Account} {p : Precision}

/-- **What declaring resources leaves behind**: there was a place for all of them, every resource is
in its slot, and the index of the invocation is in use. -/
theorem declare_provides (ha : a.Ready) (p : Precision) :
    Does False (declare p) a fun r b => a.draft.Vacant ∧
      (∀ resource, b.draft.Offers p resource (r.variableOf resource)) ∧
      b.draft.tables.slots.lookup (descriptorSet, Resource.sampler.binding) = some r.sampler.id ∧
      b.draft.tables.builtIns.lookup .globalInvocationId = some r.globalId ∧
      b.draft.Interned (.pointer .input (.vector .uint32 3)) r.globalId.type := by
  rw [declare_eq]
  refine .bind ha.consistent (offer_provides ha p .sampler _) fun sampler a₁ h₁ hsampler => ?_
  refine .bind h₁ (offer_provides hsampler.ready p .image _) fun image a₂ h₂ himage => ?_
  refine .bind h₂ (offer_provides himage.ready p .coordinates _) fun coordinates a₃ h₃ hcoordinates => ?_
  refine .bind h₃ (offer_provides hcoordinates.ready p .network _) fun network a₄ h₄ hnetwork => ?_
  have hready₄ := hnetwork.ready
  refine .bind h₄ (builtInInput_provides h₄ hready₄.knows .globalInvocationId
    (.vector .uint32 3)).tracked ?_
  rintro globalId a₅ h₅ ⟨⟨hunused, hknown, htype, -⟩, hchanges₅, -⟩
  refine .bind h₅ (name_does globalId.id _).tracked ?_
  rintro _ a₆ h₆ ⟨-, hchanges₆, -⟩
  -- how each draft came from the first one
  have hgrows₂ := hsampler.outgrows.trans himage.outgrows
  have hgrows₃ := hgrows₂.trans hcoordinates.outgrows
  have hgrows₄ := hgrows₃.trans hnetwork.outgrows
  -- and what comes of each in the end
  have hlater₅ := (hchanges₆.outgrows h₅).trans (a₆.draft.outgrows_addRecord ⟨.trace,
    "Declared image loading interface (" ++ p.name ++ ")"⟩)
  have hlater₄ := (hchanges₅.outgrows h₄).trans hlater₅
  have hlater₃ := hnetwork.outgrows.trans hlater₄
  have hlater₂ := hcoordinates.outgrows.trans hlater₃
  have hlater₁ := himage.outgrows.trans hlater₂
  refine .record h₆ fun _ => .pure ⟨⟨?_, ?_⟩, ?_, ?_, ?_, ?_⟩
  · -- a slot that is free later on has been free before
    rintro (_ | _ | _ | _)
    · exact hsampler.free
    · exact himage.free.of_outgrows hsampler.outgrows
    · exact hcoordinates.free.of_outgrows hgrows₂
    · exact hnetwork.free.of_outgrows hgrows₃
  · intro v hv
    obtain ⟨-, t, ht⟩ := ha.knows _ _ hv
    have htype := ha.consistent.lookup_dataTypes ht
    have hsame := hunused v (hgrows₄.tables.builtIns _ _ hv)
    rw [hgrows₄.tables.dataTypes _ _ htype] at hsame
    rw [htype, hsame]
  · rintro (_ | _ | _ | _)
    · exact hsampler.offers.outgrows hlater₁
    · exact himage.offers.outgrows hlater₂
    · exact hcoordinates.offers.outgrows hlater₃
    · exact hnetwork.offers.outgrows hlater₄
  · have htaken : a₁.draft.tables.slots.lookup (descriptorSet, Resource.sampler.binding) =
        some sampler.id := by
      rw [hsampler.slots]
      exact List.lookup_cons_self
    exact hlater₁.tables.slots _ _ htaken
  · exact hlater₅.tables.builtIns _ _ hknown
  · exact hlater₅.tables.types _ _ htype

/-- **The resources can be declared if there is a place for them**, and there are ids. -/
theorem declare_affords (ha : a.Ready) (p : Precision) (h : a.draft.Vacant) :
    Affords 44 (declare p) a.draft := by
  rw [declare_eq]
  refine .bind (n := 34) (offer_affords ha p _ (h.slots .sampler)) fun sampler d₁ hrun₁ => ?_
  obtain ⟨a₁, rfl, -, hsampler⟩ := (offer_provides ha p .sampler _).exists_of_ok hrun₁
  have himage₁ := hsampler.frees (h.slots .image) (by decide)
  refine .bind (n := 24) (offer_affords hsampler.ready p _ himage₁) fun image d₂ hrun₂ => ?_
  obtain ⟨a₂, rfl, -, himage⟩ := (offer_provides hsampler.ready p .image _).exists_of_ok hrun₂
  have hcoordinates₂ := himage.frees (hsampler.frees (h.slots .coordinates) (by decide)) (by decide)
  refine .bind (n := 14) (offer_affords himage.ready p _ hcoordinates₂) fun coordinates d₃ hrun₃ => ?_
  obtain ⟨a₃, rfl, -, hcoordinates⟩ :=
    (offer_provides himage.ready p .coordinates _).exists_of_ok hrun₃
  have hnetwork₃ := hcoordinates.frees (himage.frees (hsampler.frees (h.slots .network) (by decide))
    (by decide)) (by decide)
  refine .bind (n := 4) (offer_affords hcoordinates.ready p _ hnetwork₃) fun network d₄ hrun₄ => ?_
  obtain ⟨a₄, rfl, -, hnetwork⟩ :=
    (offer_provides hcoordinates.ready p .network _).exists_of_ok hrun₄
  have hready₄ := hnetwork.ready
  -- the index of the invocation is in use as it was before
  have hgrows₄ := ((hsampler.outgrows.trans himage.outgrows).trans hcoordinates.outgrows).trans
    hnetwork.outgrows
  have hsame : a₄.draft.tables.builtIns = a.draft.tables.builtIns :=
    hnetwork.builtIns.trans (hcoordinates.builtIns.trans (himage.builtIns.trans hsampler.builtIns))
  have hglobalId : ∀ v, a₄.draft.tables.builtIns.lookup .globalInvocationId = some v →
      a₄.draft.tables.dataTypes.lookup v.type = some (.pointer .input (.vector .uint32 3)) := by
    intro v hv
    rw [hsame] at hv
    exact hgrows₄.tables.dataTypes _ _ (h.globalId v hv)
  refine .bind (n := 0) (builtInInput_affords hready₄.consistent hready₄.knows rfl hglobalId)
    fun globalId d₅ hrun₅ => ?_
  have hindex : Does False (builtInInput .globalInvocationId (.vector .uint32 3)) a₄ _ :=
    builtInInput_provides hready₄.consistent hready₄.knows .globalInvocationId (.vector .uint32 3)
  obtain ⟨a₅, rfl, hchanges₅, -, hknown, -⟩ := hindex.exists_of_ok hrun₅
  -- it is a variable of the module, so it can be named
  have hready₅ := hready₄.after hchanges₅
  obtain ⟨hglobal, -⟩ := hready₅.knows _ _ hknown
  have hdefined : a₅.draft.isDefined globalId.id = true := by
    simp [Draft.isDefined, hglobal]
  have hvisible : a₅.draft.isVisible globalId.id = true := Bool.or_eq_true_iff.2 (.inl hdefined)
  refine .bind (m := 0) (n := 0) (name_affords hvisible _) fun _ d₆ _ => ?_
  exact .change .pure rfl

/-- **Resources are not declared twice**: the first of them finds its slot taken. -/
theorem declare_taken (ha : a.Ready) (p : Precision) {existing : Id}
    (htaken : a.draft.tables.slots.lookup (descriptorSet, Resource.sampler.binding) = some existing) :
    ((declare p).runOn a.draft).1 = .error (.rejected (.duplicateBinding descriptorSet
        Resource.sampler.binding existing)) ∨
      ((declare p).runOn a.draft).1 = .error (.overflow .increment) ∧
        UInt32.size ≤ a.draft.nextId.toNat + 10 := by
  rw [declare_eq, Resource.offer, bind_assoc]
  rcases create_affords ha p .sampler with ⟨v, d, hrun, -⟩ | ⟨herror, hids⟩
  · left
    obtain ⟨b, rfl, hab, hprepares, -, hslots⟩ := (create_provides ha p .sampler).exists_of_ok hrun
    rw [← hslots] at htaken
    have hrefused := descriptorBinding_taken (ha.after hab).consistent hprepares.declares (.inl rfl)
      htaken
    rw [runOn_bind_of_ok hrun, place, bind_assoc, bind_assoc, runOn_bind, hrefused]
  · refine .inr ⟨?_, hids⟩
    rw [runOn_bind]
    rcases hrun : (Resource.create p .sampler).runOn a.draft with ⟨e | v, d⟩ <;> rw [hrun] at herror
    · exact congrArg Except.error (Except.error.inj herror)
    · cases herror

end ResourceInterface

/-! ### What the module says of them -/

namespace ShaderModule

/-- The variable points to a block with one member, which begins where the block does and is an array
of this stride. -/
structure LaysOut (m : ShaderModule) (v : Value) (block array : Id) (stride : Word) : Prop where
  pointer : .defining .typePointer v.type [.storageClass .storageBuffer, .id block] ∈ m.globals
  record : .defining .typeStruct block [.id array] ∈ m.globals
  elements : ∃ element, .defining .typeRuntimeArray array [.id element] ∈ m.globals
  isBlock : (blockRow block).StatedIn m.annotations
  begins : (offsetRow block).StatedIn m.annotations
  strides : (strideRow array stride).StatedIn m.annotations

/-- The variable is in the slot, and if it is a buffer, then its elements have their distance. -/
structure Fills (m : ShaderModule) (p : Precision) (v : Value) (slot : Slot) : Prop where
  «variable» : .typed .variable v.type v.id [.storageClass slot.resource.storage] ∈ m.globals
  type : typeAt? m.globals v.type =
    some (.pointer slot.resource.storage (slot.resource.contents p))
  set : (setRow v.id slot.set).StatedIn m.annotations
  binding : (bindingRow v.id slot.binding).StatedIn m.annotations
  layout : ∀ stride, slot.arrayStride = some stride → ∃ block array, m.LaysOut v block array stride

end ShaderModule

namespace ResourceInterface

/-- The module says of the resources what the slots of a kernel say, and the index of the invocation is
an input. -/
structure Matches (r : ResourceInterface) (p : Precision) (m : ShaderModule) : Prop where
  slots : ∀ slot ∈ Slot.layout p, m.Fills p (r.variableOf slot.resource) slot
  readOnly : (nonWritableRow r.coordinates.id).StatedIn m.annotations
  globalId : .typed .variable r.globalId.type r.globalId.id [.storageClass .input] ∈ m.globals
  index : typeAt? m.globals r.globalId.type = some (.pointer .input (.vector .uint32 3))
  builtIn : (builtInRow r.globalId.id .globalInvocationId).StatedIn m.annotations

/-- The module says nothing else of how the buffers are laid out. -/
def Settles (r : ResourceInterface) (p : Precision) (m : ShaderModule) : Prop :=
  ∀ slot ∈ Slot.layout p, ∀ stride block array, slot.arrayStride = some stride →
    m.LaysOut (r.variableOf slot.resource) block array stride →
    m.decorations array .arrayStride = [[.literal stride]] ∧
    ∀ member operands,
      .plain .memberDecorate (.id block :: .literal member :: .decoration .offset :: operands) ∈
        m.annotations → member = 0 ∧ operands = [.literal 0]

namespace Matches

variable {r : ResourceInterface} {p : Precision} {m : ShaderModule}

/-- The variable of each resource is in its slot. -/
theorem fills (h : r.Matches p m) (resource : Resource) :
    m.Fills p (r.variableOf resource) (resource.slot p) :=
  h.slots _ (List.mem_map_of_mem (by cases resource <;> decide))

/-- **The sets and bindings as numbers.** -/
theorem places (h : r.Matches p m) :
    ∀ place ∈ [(r.sampler, (0 : Word)), (r.image, 1), (r.coordinates, 2), (r.network, 3)],
      (setRow place.1.id 0).StatedIn m.annotations ∧
      (bindingRow place.1.id place.2).StatedIn m.annotations := by
  have hstated (resource : Resource) :
      (setRow (r.variableOf resource).id 0).StatedIn m.annotations ∧
      (bindingRow (r.variableOf resource).id resource.binding).StatedIn m.annotations :=
    ⟨(h.fills resource).set, (h.fills resource).binding⟩
  simp only [List.forall_mem_cons]
  exact ⟨hstated .sampler, hstated .image, hstated .coordinates, hstated .network, nofun⟩

end Matches

end ResourceInterface

section reading

variable {a : Account} {m : ShaderModule} {p : Precision} {resource : Resource} {v : Value}
  (ha : a.Ready) (hglobals : m.globals = a.draft.sections.globals)
  (hannotations : m.annotations = a.draft.sections.annotations)

include ha hglobals hannotations

/-- A buffer that is offered is laid out. -/
theorem exists_laysOut (hfurnished : a.draft.Furnished) (h : a.draft.Offers p resource v)
    {element : DataType} (hstorage : resource.storage = .storageBuffer)
    (hcontents : resource.contents p = bufferType element) {stride : Word}
    (hsize : element.size = .ok stride) : ∃ block array, m.LaysOut v block array stride := by
  have hstated {i : Instruction} (hi : i.StatedIn a.draft.sections.annotations) :
      i.StatedIn m.annotations := by
    rw [hannotations]
    exact hi
  have htype := h.declares.type
  rw [hstorage, hcontents] at htype
  obtain ⟨block, hblock, hrow, hoffset⟩ := h.block element hcontents
  -- follow the type of the variable down to the elements
  obtain ⟨pointee, hpointee, hpointer⟩ := ha.consistent.pointer_mem htype
  obtain rfl := Option.some.inj (hblock.symm.trans hpointee)
  obtain ⟨array, harray, hrecord⟩ := ha.consistent.bufferType_mem hblock
  obtain ⟨part, hdefining⟩ := ha.consistent.runtimeArray_mem harray
  have hstride := hfurnished.strides element array stride harray hsize
  rw [← hglobals] at hpointer hrecord hdefining
  exact ⟨block, array, hpointer, hrecord, ⟨part, hdefining⟩, hstated hrow, hstated hoffset,
    hstated (ha.annotated.statedIn_iff.2 hstride)⟩

/-- A resource that is offered is in its slot. -/
theorem fills_of_offers (hfurnished : a.draft.Furnished) (h : a.draft.Offers p resource v) :
    m.Fills p v (resource.slot p) where
  «variable» := by
    rw [hglobals]
    exact h.declares.written
  type := by
    rw [hglobals]
    exact ha.consistent.typeAt?_eq h.declares.type
  set := by
    rw [hannotations]
    exact h.set
  binding := by
    rw [hannotations]
    exact h.binding
  layout stride hstride := by
    have hlaysOut {element : DataType} (hstorage : resource.storage = .storageBuffer)
        (hcontents : resource.contents p = bufferType element) (hsize : element.size = .ok stride) :
        ∃ block array, m.LaysOut v block array stride :=
      exists_laysOut ha hglobals hannotations hfurnished h hstorage hcontents hsize
    cases resource with
    | sampler => cases hstride
    | image => cases hstride
    | coordinates =>
        cases hstride
        exact hlaysOut rfl rfl (by cases p <;> decide)
    | network =>
        cases hstride
        exact hlaysOut rfl rfl (by cases p <;> decide)

/-- The resources that are offered are in their slots, and the index of the invocation is an input. -/
theorem matches_of_offers (hfurnished : a.draft.Furnished) {r : ResourceInterface}
    (h : ∀ resource, a.draft.Offers p resource (r.variableOf resource))
    (hknown : a.draft.tables.builtIns.lookup .globalInvocationId = some r.globalId)
    (htype : a.draft.Interned (.pointer .input (.vector .uint32 3)) r.globalId.type) :
    r.Matches p m := by
  obtain ⟨hvariable, hrow⟩ := hfurnished.builtIns _ _ hknown
  refine ⟨fun slot hslot => ?_, ?_, ?_, ?_, ?_⟩
  · obtain ⟨resource, -, rfl⟩ := List.mem_map.1 hslot
    exact fills_of_offers ha hglobals hannotations hfurnished (h resource)
  · rw [hannotations]
    exact (h .coordinates).readOnly rfl
  · rw [hglobals]
    exact hvariable
  · rw [hglobals]
    exact ha.consistent.typeAt?_eq htype
  · rw [hannotations]
    exact ha.annotated.statedIn_iff.2 hrow

end reading

namespace ResourceInterface

/-- **The slots of a kernel and its module agree.**  In any draft:

* resources are declared only if there is a place for them, and if there is one, then they are, unless
  the ids run out;
* then, whatever else is done, the module says of them what the slots say, and it says nothing else of
  their layout if nobody has laid anything out by hand;
* and they are not declared again, because the first of them finds its slot taken. -/
theorem declare_matches (settings : ModuleSettings) (steps : List BuildStep) (p : Precision) :
    let d := (Draft.empty settings).build steps
    ((declare p |>.runOn d).1.isOk = true → d.Vacant) ∧
    (d.Vacant → (declare p |>.runOn d).1.isOk = true ∨
      ((declare p).runOn d).1 = .error (.overflow .increment) ∧
        UInt32.size ≤ d.nextId.toNat + 44) ∧
    ∀ r d', (declare p).runOn d = (.ok r, d') → ∀ later : List BuildStep,
      (∀ m, (Build.finish.runOn (d'.build later)).1 = .ok m → r.Matches p m ∧
        ((∀ o, .operation o ∈ steps ++ later → o.laysOut = false) → r.Settles p m)) ∧
      ∀ q : Precision, ((declare q).runOn (d'.build later)).1 = .error (.rejected
          (.duplicateBinding descriptorSet Resource.sampler.binding r.sampler.id)) ∨
        ((declare q).runOn (d'.build later)).1 = .error (.overflow .increment) ∧
          UInt32.size ≤ (d'.build later).nextId.toNat + 10 := by
  intro d
  obtain ⟨a, ha, hchanges⟩ := (Account.Ready.empty settings).build steps
  have hready := (Account.Ready.empty settings).after hchanges
  have hdraft : a.draft = d := ha
  rw [← hdraft]
  refine ⟨fun hok => ?_, fun hvacant => ?_, fun r d' hrun later => ?_⟩
  · obtain ⟨r, e, hrun⟩ := exists_of_isOk hok
    obtain ⟨b, -, -, hvacant, -⟩ := (declare_provides hready p).exists_of_ok hrun
    exact hvacant
  · refine (declare_affords hready p hvacant).imp_left ?_
    rintro ⟨r, e, hrun, -⟩
    rw [hrun]
    rfl
  · obtain ⟨b, rfl, hab, -, hoffers, htaken, hknown, htype⟩ :=
      (declare_provides hready p).exists_of_ok hrun
    have hb := hready.after hab
    obtain ⟨c, hc, hbc⟩ := hb.build later
    have hready' := hb.after hbc
    have hgrows := hbc.outgrows hb.consistent
    rw [← hc]
    refine ⟨fun m hm => ?_, fun q => ?_⟩
    · -- the same draft, as the result of all the steps
      have hall : c.draft = (Draft.empty settings).build (steps ++ .resources p :: later) := by
        rw [Draft.build_append, Draft.build_cons, hc, ← ha]
        show _ = Draft.build ((declare p).runOn a.draft).2 later
        rw [hrun]
      have hfinished := Draft.finished_of_finish hm
      have hglobals : m.globals = c.draft.sections.globals :=
        Draft.part_of_finished hfinished (k := .globals) (by decide)
      have hannotations : m.annotations = c.draft.sections.annotations :=
        Draft.part_of_finished hfinished (k := .annotations) (by decide)
      have hfurnished : c.draft.Furnished := hall ▸ Draft.furnished_build settings _
      refine ⟨matches_of_offers hready' hglobals hannotations hfurnished
        (fun resource => (hoffers resource).outgrows hgrows)
        (hgrows.tables.builtIns _ _ hknown) (hgrows.tables.types _ _ htype), fun hsteps => ?_⟩
      have hpacked : c.draft.Packed := by
        rw [hall]
        refine Draft.packed_build settings fun o ho => hsteps o ?_
        simpa using ho
      intro slot _ stride block array _ hlayout
      refine ⟨Draft.Spaced.decorations_eq hpacked.strides hready'.consistent hready'.annotated
        hannotations hlayout.strides, ?_⟩
      rw [hannotations]
      exact hpacked.offsets block
    · exact declare_taken hready' q (hgrows.tables.slots _ _ htaken)

/-- The array of the coordinates is known already, and so is the index of the invocation. -/
def knownSteps : List BuildStep :=
  [.operation (.typeId (.runtimeArray (.vector (.float 32) 2))),
    .operation (.builtInInput .globalInvocationId (.vector .uint32 3))]

/-- The resources are declared then, and the module says of them what their slots say: four bindings
of the set zero, with eight bytes for each coordinate and sixteen for each colour.  They are not
declared a second time. -/
theorem declare_matches_of_known : let d := (Draft.empty {}).build knownSteps
    d.Vacant ∧ ∃ r d' m, (declare .single).runOn d = (.ok r, d') ∧
      (Build.finish.runOn d').1 = .ok m ∧ r.Matches .single m ∧ r.Settles .single m ∧
      (∀ place ∈ [(r.sampler, (0 : Word)), (r.image, 1), (r.coordinates, 2), (r.network, 3)],
        (setRow place.1.id 0).StatedIn m.annotations ∧
        (bindingRow place.1.id place.2).StatedIn m.annotations) ∧
      (∃ block array, m.LaysOut r.coordinates block array 8) ∧
      (∃ block array, m.LaysOut r.network block array 16) ∧
      ((declare .double).runOn d').1 = .error (.rejected (.duplicateBinding 0 0 r.sampler.id)) := by
  intro d
  obtain ⟨hvacant, -, hdeclared⟩ := declare_matches {} knownSteps .single
  have hok : ((declare .single).runOn d).1.isOk = true := by decide +kernel
  obtain ⟨r, d', hrun⟩ := exists_of_isOk hok
  have hd' : d' = ((declare .single).runOn d).2 := by rw [hrun]
  obtain ⟨m, hm⟩ : ∃ m, (Build.finish.runOn d').1 = .ok m := by
    rw [hd']
    exact Draft.exists_finished_iff.2 (by decide +kernel)
  have hids : d'.nextId.toNat + 10 < UInt32.size := by
    rw [hd']
    decide +kernel
  have hsteps : ∀ o, .operation o ∈ knownSteps ++ [] → o.laysOut = false := by
    simp [knownSteps, Operation.laysOut]
  obtain ⟨hmodule, hagain⟩ := hdeclared r d' hrun []
  obtain ⟨hmatches, hsettles⟩ := hmodule m hm
  refine ⟨hvacant hok, r, d', m, hrun, hm, hmatches, hsettles hsteps, hmatches.places,
    (hmatches.fills .coordinates).layout 8 rfl, (hmatches.fills .network).layout 16 rfl, ?_⟩
  exact (hagain .double).resolve_right fun h => absurd h.2 (Nat.not_le.2 hids)

end ResourceInterface

end FrameShader
