/-
Making: the steps that calls are made of.

A call looks at little of a draft: not at the log, nor at the settings, nor at what has been written.
And it changes a draft in few ways.  Many of these are common to calls, and some belong to a single
operation.  The inductive definition below says that a call is made of such steps, of asking for ids
and types, and of nothing else.  It is shown of every operation once, so that what holds of every step
is shown of every call by induction.

Main definitions:

* `FrameShader.Draft.sight` — what calls look at;
* `FrameShader.Draft.terms` — the types of a draft and its names, which few steps change;
* `FrameShader.Draft.Step`, `FrameShader.Operation.Effect` — the steps that calls have in common, and
  those of a single operation;
* `FrameShader.Build.Made` — a call that is made of steps;
* `FrameShader.Operation.isNaming` — the operations that give names, besides those of types.

Main results:

* `FrameShader.Operation.run_made` — **every operation is made of steps**;
* `FrameShader.Build.Made.keeps` — what is kept by the steps and by asking for types, every call keeps;
* `FrameShader.Build.Made.keeps_types` — what asking for types does to them, every call does.
-/

import FrameShader.Proofs.Draft.Changing
import FrameShader.Proofs.Draft.Running

set_option relaxedAutoImplicit false
set_option autoImplicit false

namespace FrameShader

/-! ### What calls look at -/

namespace Draft

/-- The draft without what no call looks at. -/
def sight (d : Draft) : Draft :=
  { nextId := d.nextId
    current := d.current
    tables := { d.tables with capabilities := [], extensions := [], annotations := [], names := [] } }

variable (d : Draft)

theorem checkAll_sight (opcode : Opcode) (values : List Value) :
    d.checkAll opcode values = d.sight.checkAll opcode values := by
  induction values with
  | nil => rfl
  | cons v vs ih =>
      have hcheck : d.check opcode v = d.sight.check opcode v := rfl
      simp only [checkAll, hcheck, ih]

theorem constituents_sight (s : Scalar) (values : List Value) :
    d.constituents s values = d.sight.constituents s values := by
  induction values with
  | nil => rfl
  | cons v vs ih =>
      have hconstant : d.isConstant v.id = d.sight.isConstant v.id := rfl
      have hcheck : d.check .constantComposite v = d.sight.check .constantComposite v := rfl
      simp only [constituents, hconstant, hcheck, ih]

theorem compositeOf_sight (t : DataType) (values : List Value) :
    d.compositeOf t values = d.sight.compositeOf t values := by
  cases t <;> simp only [compositeOf, d.constituents_sight]

theorem countComponents_sight (s : Scalar) (count : Word) (values : List Value) :
    d.countComponents s count values = d.sight.countComponents s count values := by
  induction values generalizing count with
  | nil => rfl
  | cons v vs ih =>
      have hcheck : d.check .compositeConstruct v = d.sight.check .compositeConstruct v := rfl
      simp only [countComponents, hcheck, ih]

theorem construction_sight (t : DataType) (parts : List Value) :
    d.construction t parts = d.sight.construction t parts := by
  cases t <;> simp only [construction, d.countComponents_sight]

theorem walk_sight (t : DataType) (indices : List Value) :
    d.walk t indices = d.sight.walk t indices := by
  induction indices generalizing t with
  | nil => rfl
  | cons index indices ih =>
      have hstep : d.stepInto t index = d.sight.stepInto t index := rfl
      simp only [walk, hstep, ih]

theorem access_sight (base : Value) (indices : List Value) :
    d.access base indices = d.sight.access base indices := by
  have hpointer :
      d.pointerOperand .accessChain base = d.sight.pointerOperand .accessChain base := rfl
  simp only [access, hpointer, d.walk_sight]

theorem arguments_sight (values : List Value) (types : List Id) :
    d.arguments values types = d.sight.arguments values types := by
  induction values generalizing types with
  | nil => rfl
  | cons v vs ih =>
      cases types with
      | nil => rfl
      | cons type types =>
          have hcheck : d.check .functionCall v = d.sight.check .functionCall v := rfl
          have htype : d.dataType type = d.sight.dataType type := rfl
          simp only [arguments, hcheck, htype, ih]

theorem callOf_sight (function : Id) (args : List Value) :
    d.callOf function args = d.sight.callOf function args := by
  have hcallable : d.callable function = d.sight.callable function := rfl
  simp only [callOf, hcallable, d.arguments_sight]

theorem interface_sight (values : List Value) : d.interface values = d.sight.interface values := by
  induction values with
  | nil => rfl
  | cons v vs ih =>
      have hcheck : d.check .entryPoint v = d.sight.check .entryPoint v := rfl
      simp only [interface, hcheck, ih]

end Draft

/-! ### Types and names -/

namespace Draft

/-- The draft without anything but its types and its names, and whether names are kept. -/
def terms (d : Draft) : Draft :=
  { settings := d.settings
    sections := { names := d.sections.names }
    tables :=
      { types := d.tables.types, dataTypes := d.tables.dataTypes, names := d.tables.names } }

theorem types_of_terms {d d' : Draft} (h : d'.terms = d.terms) :
    d'.tables.types = d.tables.types := view_eq h (·.tables.types) fun _ => rfl

variable (d : Draft)

theorem terms_addCapability (c : Capability) : (d.addCapability c).terms = d.terms := by
  unfold addCapability
  split <;> rfl

theorem terms_addExtension (text : String) : (d.addExtension text).terms = d.terms := by
  unfold addExtension
  split <;> rfl

theorem terms_addSource (language : SourceLanguage) (version : Word) :
    (d.addSource language version).terms = d.terms := by
  unfold addSource
  split <;> rfl

theorem terms_addToAnnotations (i : Instruction) : (d.addToAnnotations i).terms = d.terms :=
  view_eq (d.unannotated_addToAnnotations i) terms fun _ => rfl

end Draft

/-! ### The steps of calls -/

namespace Build

/-- The decoration of an array with the distance of its elements. -/
def strideRow (id : Id) (stride : Word) : Instruction :=
  .plain .decorate [.id id, .decoration .arrayStride, .literal stride]

/-- The decoration of a variable that holds a built-in value. -/
def builtInRow (v : Id) (builtIn : BuiltIn) : Instruction :=
  .plain .decorate [.id v, .decoration .builtIn, .builtIn builtIn]

/-- The decoration of a record as the contents of a buffer. -/
def blockRow (id : Id) : Instruction := .plain .decorate [.id id, .decoration .block]

/-- The decoration of the first member of a record with its place. -/
def offsetRow (id : Id) : Instruction :=
  .plain .memberDecorate [.id id, .literal 0, .decoration .offset, .literal 0]

/-- The decoration of a variable that is only read. -/
def nonWritableRow (v : Id) : Instruction := .plain .decorate [.id v, .decoration .nonWritable]

/-- The decoration that puts a variable into a descriptor set. -/
def setRow (v : Id) (set : Word) : Instruction :=
  .plain .decorate [.id v, .decoration .descriptorSet, .literal set]

/-- The decoration that gives a variable a binding. -/
def bindingRow (v : Id) (binding : Word) : Instruction :=
  .plain .decorate [.id v, .decoration .binding, .literal binding]

end Build

namespace Draft

open Build

/-- The steps that calls have in common. -/
inductive Step : (Draft → Draft) → Prop
  | record (r : LogRecord) : Step (·.addRecord r)
  | take : Step takeId
  | capability (c : Capability) : Step (·.addCapability c)
  | name (target : Id) (member : Option Word) (i : Instruction) : Step (·.addName target member i)
  | importSet (text : String) (id : Id) : Step (·.addImport text id)
  /-- Defines a type, but not an array that has a stride. -/
  | defineType {t : DataType} (id : Id) (opcode : Opcode) (operands : List Operand)
      (h : ∀ element stride, t = .runtimeArray element → element.size ≠ .ok stride) :
      Step (·.addTypeDefinition id t opcode operands)
  /-- Defines an array with its stride. -/
  | defineArray {element : DataType} {stride : Word} (id : Id) (opcode : Opcode)
      (operands : List Operand) (h : element.size = .ok stride) :
      Step fun d => (d.addTypeDefinition id (.runtimeArray element) opcode operands).addToAnnotations
        (strideRow id stride)
  | defineConstant (key : ConstantKey) (opcode : Opcode) (type id : Id) (operands : List Operand) :
      Step (·.addConstantDefinition key opcode type id operands)
  | defineVariable (type id : Id) (operands : List Operand) :
      Step (·.addGlobalValue .variable type id operands)
  | emit (opcode : Opcode) (type id : Id) (operands : List Operand) :
      Step (·.addResult opcode type id operands)
  | store (i : Instruction) : Step (·.addToBody i)
  | enter (f : OpenFunction) (s : Signature) : Step (·.openBody f s)
  | leave (i : Instruction) : Step (·.addReturn i)

/-- A variable of the module that is decorated and known as a built-in value. -/
def addBuiltInVariable (d : Draft) (builtIn : BuiltIn) (type id : Id) : Draft :=
  ((d.addGlobalValue .variable type id [.storageClass .input]).addToAnnotations
    (builtInRow id builtIn)).addBuiltIn builtIn ⟨id, type⟩

end Draft

namespace Operation

open Build

/-- The steps of single operations. -/
inductive Effect : Operation → (Draft → Draft) → Prop
  | configure (change : SettingsChange) : Effect (.configure change) (·.configure change)
  | extension (text : String) : Effect (.extension text) (·.addExtension text)
  | source (language : SourceLanguage) (version : Word) :
      Effect (.source language version) (·.addSource language version)
  | declare (result : DataType) (parameters : List DataType) (id : Id) (s : Signature) :
      Effect (.declareFunction result parameters) (·.addDeclared id s)
  | define (id : Id) (text : String) (result : DataType) (parameters : List DataType)
      (control : FunctionControl) :
      Effect (.defineFunction id text result parameters control) (·.removeDeclared id)
  | entryPoint (text : String) (interface : List Value) (id : Id) :
      Effect (.beginEntryPoint text interface) (·.addEntryPoint text id interface)
  | executionMode (id : Id) (mode : ExecutionMode) (literals : List Word) :
      Effect (.executionMode id mode literals) (·.addExecutionMode id mode literals)
  | localSize (id : Id) (x y z : Word) :
      Effect (.localSize id x y z) (·.addExecutionMode id .localSize [x, y, z])
  | close (f : OpenFunction) : Effect .endFunction (·.closeBody f)
  | decorate (id : Id) (decoration : Decoration) (operands : List Operand) :
      Effect (.decorate id decoration operands)
        (·.addToAnnotations (.plain .decorate (.id id :: .decoration decoration :: operands)))
  | decorateMember (id : Id) (member : Word) (decoration : Decoration) (operands : List Operand) :
      Effect (.decorateMember id member decoration operands)
        (·.addToAnnotations (.plain .memberDecorate
          (.id id :: .literal member :: .decoration decoration :: operands)))
  | slot (v : Value) (set binding : Word) :
      Effect (.descriptorBinding v set binding) (·.addSlot set binding v.id)
  | set (v : Value) (set binding : Word) :
      Effect (.descriptorBinding v set binding) (·.addToAnnotations (setRow v.id set))
  | binding (v : Value) (set binding : Word) :
      Effect (.descriptorBinding v set binding) (·.addToAnnotations (bindingRow v.id binding))
  | bufferExtension (element : DataType) (access : Access) :
      Effect (.storageBuffer element access) (·.addExtension storageBufferExtension)
  | block (element : DataType) (access : Access) (id : Id) :
      Effect (.storageBuffer element access) (·.addToAnnotations (blockRow id))
  | offset (element : DataType) (access : Access) (id : Id) :
      Effect (.storageBuffer element access) (·.addToAnnotations (offsetRow id))
  | nonWritable (element : DataType) (access : Access) (id : Id) :
      Effect (.storageBuffer element access) (·.addToAnnotations (nonWritableRow id))
  | builtIn (builtIn : BuiltIn) (t : DataType) (type id : Id) :
      Effect (.builtInInput builtIn t) (·.addBuiltInVariable builtIn type id)

end Operation

/-! ### Calls, step by step -/

namespace Build

/-- The call is made of steps that calls have in common and of the steps `E`.  It defines types only by
asking for them, and so it is with names, unless there are some among the steps `E`. -/
inductive Made (E : (Draft → Draft) → Prop) : {α : Type} → Build α → Prop
  | pure {α : Type} (v : α) : Made E (Pure.pure v)
  | reject {α : Type} (cause : BuildError) : Made E (Build.reject cause : Build α)
  | overflow {α : Type} (operation : Overflow) : Made E (throw (.overflow operation) : Build α)
  /-- Looking at what calls may look at. -/
  | inspect {α : Type} {view : Draft → Except BuildError α} (h : ∀ d, view d = view d.sight) :
      Made E (Build.inspect view)
  /-- Going on with what calls may look at. -/
  | get {α : Type} {next : Draft → Build α} (hnext : ∀ d, Made E (next d))
      (h : ∀ d, next d = next d.sight) : Made E (MonadState.get >>= next)
  /-- One call after another. -/
  | bind {α β : Type} {call : Build α} {next : α → Build β} (hcall : Made E call)
      (hnext : ∀ v, Made E (next v)) : Made E (call >>= next)
  | freshId : Made E freshId
  | typeId (t : DataType) : Made E (typeId t)
  | step {f : Draft → Draft} (hf : Draft.Step f) (h : ∀ d, (f d).terms = d.terms) :
      Made E (modify f : Build PUnit)
  | effect {f : Draft → Draft} (hf : E f) : Made E (modify f : Build PUnit)

/-- The steps `E`, and giving a name. -/
inductive Naming (E : (Draft → Draft) → Prop) : (Draft → Draft) → Prop
  | effect {f : Draft → Draft} (hf : E f) : Naming E f
  | name (target : Id) (member : Option Word) (i : Instruction) :
      Naming E (·.addName target member i)

variable {α β : Type} {E : (Draft → Draft) → Prop}

namespace Made

/-- More steps than these. -/
theorem mono {E' : (Draft → Draft) → Prop} (hsub : ∀ {f : Draft → Draft}, E f → E' f)
    {call : Build α} (h : Made E call) : Made E' call := by
  induction h with
  | pure v => exact pure v
  | reject cause => exact reject cause
  | overflow operation => exact overflow operation
  | inspect h => exact inspect h
  | get _ h ih => exact get ih h
  | bind _ _ ih ihnext => exact bind ih ihnext
  | freshId => exact freshId
  | typeId t => exact typeId t
  | step hf h => exact step hf h
  | effect hf => exact effect (hsub hf)

theorem naming {call : Build α} (h : Made E call) : Made (Naming E) call := h.mono .effect

theorem ofExcept (answer : Except BuildError α) : Made E (Build.ofExcept answer) := by
  cases answer with
  | ok v => exact pure v
  | error cause => exact reject cause

theorem ofArithmetic (answer : Except Overflow α) : Made E (Build.ofArithmetic answer) := by
  cases answer with
  | ok v => exact pure v
  | error operation => exact overflow operation

/-- Rephrasing an answer. -/
theorem map {call : Build α} (h : Made E call) (f : α → β) : Made E (f <$> call) := by
  rw [← bind_pure_comp]
  exact bind h fun _ => pure _

end Made

theorem record_made (level : LogLevel) (message : String) : Made E (record level message) :=
  .step (.record _) fun _ => rfl

/-! ### Annotations -/

theorem annotate_made (target : Id) {i : Instruction} (h : E (·.addToAnnotations i)) :
    Made E (annotate target i) :=
  .bind (.inspect fun _ => rfl) fun _ => .effect h

theorem name_made (target : Id) (text : String) : Made (Naming E) (name target text) :=
  .bind (.inspect fun _ => rfl) fun _ => .effect (.name _ _ _)

theorem nameMember_made (target : Id) (member : Word) (text : String) :
    Made (Naming E) (nameMember target member text) :=
  .bind (.inspect fun _ => rfl) fun _ => .effect (.name _ _ _)

theorem capability_made (c : Capability) : Made E (capability c) :=
  .step (.capability c) fun d => d.terms_addCapability c

theorem importSet_made (text : String) : Made E (importSet text) := by
  refine .get (fun d => ?_) fun _ => rfl
  cases d.tables.imports.lookup text with
  | some id => exact .pure id
  | none =>
      exact .bind .freshId fun id => .bind (.step (.importSet text id) fun _ => rfl) fun _ => .pure id

/-! ### Types -/

theorem typeIds_made (ts : List DataType) : Made E (typeIds ts) := by
  induction ts with
  | nil => exact .pure []
  | cons t ts ih => exact .bind (.typeId t) fun _ => .bind ih fun _ => .pure _

theorem signature_made (result : DataType) (parameters : List DataType) :
    Made E (signature result parameters) :=
  .bind (.typeId _) fun _ => .bind (.typeId _) fun _ =>
    .bind (typeIds_made _) fun _ => .pure _

/-! ### Constants -/

theorem internConstant_made (key : ConstantKey) {definition : Build (Opcode × Id × List Operand)}
    (h : Made E definition) :
    Made E (internConstant key definition) := by
  refine .get (fun d => ?_) fun _ => rfl
  cases d.tables.constants.lookup key with
  | some id =>
      refine .get (fun d => ?_) fun _ => rfl
      cases d.typeOf? id with
      | some type => exact .bind (record_made _ _) fun _ => .pure _
      | none => exact .reject _
  | none =>
      refine .bind h ?_
      rintro ⟨opcode, type, operands⟩
      exact .bind .freshId fun id =>
        .bind (.step (.defineConstant key opcode type id operands) fun _ => by cases key <;> rfl)
          fun _ => .pure _

theorem constantBool_made (value : Bool) :
    Made E (constantBool value) :=
  internConstant_made _ (.bind (.typeId _) fun _ => .pure _)

theorem constantScalar_made (t : DataType) (value : Literal) :
    Made E (constantScalar t value) :=
  .bind (.ofExcept _) fun _ => .bind (.typeId t) fun _ => internConstant_made _ (.pure _)

theorem constantComposite_made (t : DataType) (values : List Value) :
    Made E (constantComposite t values) :=
  .bind (.inspect fun d => d.compositeOf_sight t values) fun _ => .bind (.typeId t) fun _ =>
    internConstant_made _ (.pure _)

theorem constFloat_made (s : Scalar) (value : Float64Bits) :
    Made E (constFloat s value) := by
  cases s with
  | float width => exact constantScalar_made _ _
  | _ => exact .reject _

theorem constFloats_made (s : Scalar) (values : List Float64Bits) :
    Made E (constFloats s values) := by
  induction values with
  | nil => exact .pure []
  | cons x xs ih => exact .bind (constFloat_made s x) fun _ => .bind ih fun _ => .pure _

theorem constVector_made (s : Scalar) (values : List Float64Bits) :
    Made E (constVector s values) :=
  .bind (.ofExcept _) fun _ => .bind (constFloats_made s values) fun _ =>
    constantComposite_made _ _

/-! ### Instructions of a body -/

theorem emitValue_made (opcode : Opcode) (type : Id) (operands : List Operand) :
    Made E (emitValue opcode type operands) :=
  .bind (.inspect fun _ => rfl) fun _ => .bind .freshId fun id =>
    .bind (.step (.emit opcode type id operands) fun _ => rfl) fun _ => .pure _

theorem emitTyped_made (t : DataType) (opcode : Opcode) (operands : List Operand) :
    Made E (typeId t >>= fun type => emitValue opcode type operands) :=
  .bind (.typeId t) fun _ => emitValue_made _ _ _

theorem floatBinary_made (opcode : Opcode) (v w : Value) :
    Made E (floatBinary opcode v w) :=
  .bind (.inspect fun _ => rfl) fun _ => emitValue_made _ _ _

theorem vectorTimesScalar_made (v x : Value) :
    Made E (vectorTimesScalar v x) :=
  .bind (.inspect fun _ => rfl) fun _ => emitValue_made _ _ _

theorem dot_made (v w : Value) : Made E (dot v w) :=
  .bind (.inspect fun _ => rfl) fun _ => emitTyped_made _ _ _

theorem extInst_made (text : String) (number : Word) (type : Id) (args : List Value) :
    Made E (extInst text number type args) :=
  .bind (.inspect fun _ => rfl) fun _ => .bind (.inspect fun d => d.checkAll_sight _ args) fun _ =>
    .bind (importSet_made text) fun _ => emitValue_made _ _ _

theorem floor_made (v : Value) : Made E (floor v) :=
  .bind (.inspect fun _ => rfl) fun _ => extInst_made _ _ _ _

theorem convertUToF_made (v : Value) (target : Scalar) :
    Made E (convertUToF v target) :=
  .bind (.inspect fun _ => rfl) fun _ => emitTyped_made _ _ _

theorem fOrdEqual_made (v w : Value) : Made E (fOrdEqual v w) :=
  .bind (.inspect fun _ => rfl) fun _ => emitTyped_made _ _ _

theorem select_made (condition accept refuse : Value) :
    Made E (select condition accept refuse) :=
  .bind (.inspect fun _ => rfl) fun _ => emitValue_made _ _ _

theorem compositeConstruct_made (t : DataType) (parts : List Value) :
    Made E (compositeConstruct t parts) :=
  .bind (.inspect fun d => d.construction_sight t parts) fun _ => .bind (.ofArithmetic _) fun _ =>
    emitTyped_made _ _ _

theorem splat_made (v : Value) (width : Word) :
    Made E (splat v width) := by
  refine .bind (.inspect fun _ => rfl) fun t => ?_
  cases t with
  | scalar s => exact .bind (.ofExcept _) fun _ => compositeConstruct_made _ _
  | _ => exact .reject _

theorem compositeExtract_made (v : Value) (index : Word) :
    Made E (compositeExtract v index) :=
  .bind (.inspect fun _ => rfl) fun _ => emitTyped_made _ _ _

theorem vectorShuffle_made (v w : Value) (indices : List Word) :
    Made E (vectorShuffle v w indices) :=
  .bind (.inspect fun _ => rfl) fun _ => emitTyped_made _ _ _

theorem swizzle_made (v : Value) (indices : List Word) :
    Made E (swizzle v indices) := by
  refine .bind (.inspect fun _ => rfl) fun _ => ?_
  split
  · exact compositeExtract_made _ _
  · exact vectorShuffle_made _ _ _

theorem sampledImage_made (image sampler : Value) :
    Made E (sampledImage image sampler) :=
  .bind (.inspect fun _ => rfl) fun _ => emitTyped_made _ _ _

theorem imageSampleExplicitLod_made (image coordinate lod : Value) :
    Made E (imageSampleExplicitLod image coordinate lod) :=
  .bind (.inspect fun _ => rfl) fun _ => .bind (.ofExcept _) fun _ => emitTyped_made _ _ _

theorem sampleImage_made (image sampler coordinate : Value) :
    Made E (sampleImage image sampler coordinate) :=
  .bind (.inspect fun _ => rfl) fun _ => .bind (sampledImage_made _ _) fun _ =>
    .bind (constFloat_made _ _) fun _ => imageSampleExplicitLod_made _ _ _

theorem accessChain_made (base : Value) (indices : List Value) :
    Made E (accessChain base indices) :=
  .bind (.inspect fun d => d.access_sight base indices) fun _ => emitTyped_made _ _ _

theorem load_made (pointer : Value) : Made E (load pointer) :=
  .bind (.inspect fun _ => rfl) fun _ => emitTyped_made _ _ _

theorem store_made (pointer value : Value) :
    Made E (store pointer value) :=
  .bind (.inspect fun _ => rfl) fun _ => .bind (.inspect fun _ => rfl) fun _ =>
    .step (.store _) fun _ => rfl

theorem callFunction_made (function : Id) (args : List Value) :
    Made E (callFunction function args) :=
  .bind (.inspect fun d => d.callOf_sight function args) fun _ => emitValue_made _ _ _

/-! ### Functions -/

theorem freshParameters_made (types : List Id) :
    Made E (freshParameters types) := by
  induction types with
  | nil => exact .pure []
  | cons type types ih => exact .bind .freshId fun _ => .bind ih fun _ => .pure _

theorem freshBody_made (types : List Id) : Made E (freshBody types) :=
  .bind (freshParameters_made _) fun _ => .bind .freshId fun _ => .pure _

theorem enterFunction_made (id : Id) (text : String) (s : Signature) (control : FunctionControl) :
    Made (Naming E) (enterFunction id text s control) := by
  refine .bind (freshBody_made _) ?_
  rintro ⟨values, label⟩
  exact .bind (.step (.enter _ s) fun _ => rfl) fun _ => .bind (name_made _ _) fun _ =>
    .bind (record_made _ _) fun _ => .pure _

theorem openFunction_made (id : Id) (text : String) (result : DataType)
    (parameters : List DataType) (control : FunctionControl) :
    Made (Naming E) (openFunction id text result parameters control) :=
  .bind (signature_made _ _) fun _ => enterFunction_made _ _ _ _

theorem beginFunction_made (text : String) (result : DataType) (parameters : List DataType)
    (control : FunctionControl) :
    Made (Naming E) (beginFunction text result parameters control) :=
  .bind (.inspect fun _ => rfl) fun _ => .bind .freshId fun _ =>
    openFunction_made _ _ _ _ _

theorem declareFunction_made (result : DataType) (parameters : List DataType) :
    Made (Operation.declareFunction result parameters).Effect (declareFunction result parameters) :=
  .bind (signature_made _ _) fun s => .bind .freshId fun id =>
    .bind (.effect (.declare _ _ id s)) fun _ => .pure _

theorem defineFunction_made (id : Id) (text : String) (result : DataType)
    (parameters : List DataType) (control : FunctionControl) :
    Made (Naming (Operation.defineFunction id text result parameters control).Effect)
      (defineFunction id text result parameters control) := by
  refine .bind (.inspect fun _ => rfl) fun _ => .bind (.inspect fun _ => rfl) fun declared => ?_
  refine .bind (signature_made _ _) fun s => ?_
  have hopen : Made (Naming (Operation.defineFunction id text result parameters control).Effect) (do
      modify (·.removeDeclared id)
      openFunction id text result parameters control) :=
    .bind (.effect (.effect (.define _ _ _ _ _))) fun _ => openFunction_made _ _ _ _ _
  show Made _ (if declared ≠ s then _ else _)
  split
  · exact .bind (.inspect fun _ => rfl) fun _ => .bind (.inspect fun _ => rfl) fun _ =>
      .bind (.reject _) fun _ => hopen
  · exact hopen

theorem beginEntryPoint_made (text : String) (interface : List Value) :
    Made (Naming (Operation.beginEntryPoint text interface).Effect)
      (beginEntryPoint text interface) := by
  refine .bind (.inspect fun d => ?_) fun _ => .bind (beginFunction_made _ _ _ _) fun f =>
    .bind (.effect (.effect (.entryPoint _ _ f.id))) fun _ => .pure _
  rw [d.interface_sight]
  rfl

theorem executionMode_made (entryPoint : Id) (mode : ExecutionMode) (literals : List Word)
    (h : E (·.addExecutionMode entryPoint mode literals)) :
    Made E (executionMode entryPoint mode literals) :=
  .bind (.inspect fun _ => rfl) fun _ => .effect h

theorem returnFunction_made (value : Option Value) : Made E (returnFunction value) :=
  .bind (.inspect fun _ => rfl) fun _ => .bind (.typeId _) fun _ =>
    .bind (.inspect fun _ => rfl) fun _ => .step (.leave _) fun _ => rfl

theorem endFunction_made : Made Operation.endFunction.Effect endFunction := by
  refine .get (fun d => ?_) fun _ => rfl
  cases d.current with
  | none => exact .reject _
  | some f =>
      show Made _ (if (!f.terminated) = true then _ else _)
      split
      · exact .reject _
      · exact .bind (record_made _ _) fun _ => .effect (.close f)

/-! ### Resources -/

theorem globalVariable_made (storage : StorageClass) (t : DataType) :
    Made E (globalVariable storage t) := by
  have hvariable : Made E (typeId (.pointer storage t) >>= fun type =>
      defineGlobal .variable type [.storageClass storage]) :=
    .bind (.typeId _) fun _ => .bind .freshId fun id =>
      .bind (.step (.defineVariable _ id _) fun _ => rfl) fun _ => .pure _
  show Made E (if storage = .function then _ else _)
  split
  · exact .bind (.reject _) fun _ => hvariable
  · exact hvariable

theorem descriptorBinding_made (v : Value) (set binding : Word) :
    Made (Operation.descriptorBinding v set binding).Effect (descriptorBinding v set binding) :=
  .bind (.inspect fun _ => rfl) fun _ => .bind (.effect (.slot _ _ _)) fun _ =>
    .bind (annotate_made _ (.set _ _ _)) fun _ => annotate_made _ (.binding _ _ _)

theorem storageBuffer_made (element : DataType) (access : Access) :
    Made (Operation.storageBuffer element access).Effect (storageBuffer element access) := by
  refine .bind (.effect (.bufferExtension _ _)) fun _ => .bind (.typeId _) fun block => ?_
  refine .bind (annotate_made _ (.block _ _ block)) fun _ => ?_
  refine .bind (.bind (.inspect fun _ => rfl) fun _ =>
    annotate_made _ (.offset _ _ block)) fun _ => ?_
  refine .bind (globalVariable_made _ _) fun v => ?_
  show Made _ (if access = .readOnly then _ else _)
  split
  · exact .bind (annotate_made _ (.nonWritable _ _ v.id)) fun _ => .pure _
  · exact .pure _

/-- Calls that do the same on every draft. -/
theorem eq_of_runOn {call call' : Build α} (h : ∀ d, call.runOn d = call'.runOn d) : call = call' :=
  ExceptT.ext (StateT.ext h)

/-- A new variable can be decorated, so what makes it a built-in value is a single step. -/
theorem newBuiltIn_eq (builtIn : BuiltIn) (type id : Id) :
    (do
      modify (·.addGlobalValue .variable type id [.storageClass .input])
      decorate id .builtIn [.builtIn builtIn]
      modify (·.addBuiltIn builtIn ⟨id, type⟩)
      return (⟨id, type⟩ : Value) : Build Value) =
      (do
        modify (·.addBuiltInVariable builtIn type id)
        return ⟨id, type⟩) := by
  refine eq_of_runOn fun d => ?_
  have hdefined : (d.addGlobalValue .variable type id [.storageClass .input]).isDefined id = true := by
    simp [Draft.isDefined, Draft.addGlobalValue, Draft.addGlobal, Draft.addGlobalType]
  have hdecorate : (decorate id .builtIn [.builtIn builtIn]).runOn
      (d.addGlobalValue .variable type id [.storageClass .input]) =
        (.ok (), (d.addGlobalValue .variable type id [.storageClass .input]).addToAnnotations
          (builtInRow id builtIn)) := by
    rw [decorate, annotate, runOn_bind, runOn_inspect, if_pos hdefined]
    rfl
  rw [runOn_bind_of_ok (runOn_modify _ d), runOn_bind_of_ok hdecorate]
  rfl

theorem builtInInput_made (builtIn : BuiltIn) (t : DataType) :
    Made (Operation.builtInInput builtIn t).Effect (builtInInput builtIn t) := by
  refine .get (fun d => ?_) fun _ => rfl
  cases d.tables.builtIns.lookup builtIn with
  | some existing =>
      refine .bind (.typeId _) fun wanted => ?_
      show Made _ (if existing.type ≠ wanted then _ else _)
      split
      · exact .bind (.inspect fun _ => rfl) fun _ => .bind (.inspect fun _ => rfl) fun _ =>
          .bind (.reject _) fun _ => .pure _
      · exact .pure _
  | none =>
      have hvariable : globalVariable .input t = typeId (.pointer .input t) >>= fun type =>
        defineGlobal .variable type [.storageClass .input] := rfl
      simp only [hvariable, defineGlobal, bind_assoc, pure_bind]
      refine .bind (.typeId _) fun type => .bind .freshId fun id => ?_
      rw [newBuiltIn_eq]
      exact .bind (.effect (.builtIn _ _ type id)) fun _ => .pure _

end Build

open Build

/-- The operations that give names, besides those of new types. -/
def Operation.isNaming : Operation → Bool
  | .beginFunction .. | .defineFunction .. | .beginEntryPoint .. | .name .. | .nameMember .. => true
  | _ => false

/-- Operations that give no names are made of steps that give none. -/
theorem Operation.run_made_of_not_naming (o : Operation) (h : o.isNaming = false) :
    Made o.Effect o.run := by
  cases o with
  | freshId => exact .map .freshId _
  | configure c => exact .map (.effect (.configure c)) _
  | capability c => exact .map (capability_made c) _
  | extension text => exact .map (.effect (.extension text)) _
  | importSet text => exact .map (importSet_made text) _
  | typeId t => exact .map (.typeId t) _
  | dataType id => exact .map (Made.inspect fun _ => rfl) _
  | typeOf id => exact .get (fun _ => .pure _) fun _ => rfl
  | check opcode v => exact .map (Made.inspect fun _ => rfl) _
  | literal id => exact .get (fun _ => .pure _) fun _ => rfl
  | declareFunction => exact .map (declareFunction_made _ _) _
  | executionMode => exact .map (executionMode_made _ _ _ (.executionMode _ _ _)) _
  | localSize => exact .map (executionMode_made _ _ _ (.localSize _ _ _ _)) _
  | returnFunction => exact .map (returnFunction_made _) _
  | endFunction => exact .map endFunction_made _
  | callFunction => exact .map (callFunction_made _ _) _
  | fAdd | fSub | fMul | fMod => exact .map (floatBinary_made _ _ _) _
  | dot => exact .map (dot_made _ _) _
  | fOrdEqual => exact .map (fOrdEqual_made _ _) _
  | vectorTimesScalar => exact .map (vectorTimesScalar_made _ _) _
  | extInst => exact .map (extInst_made _ _ _ _) _
  | floor => exact .map (floor_made _) _
  | convertUToF => exact .map (convertUToF_made _ _) _
  | select => exact .map (select_made _ _ _) _
  | compositeConstruct => exact .map (compositeConstruct_made _ _) _
  | splat => exact .map (splat_made _ _) _
  | compositeExtract => exact .map (compositeExtract_made _ _) _
  | vectorShuffle => exact .map (vectorShuffle_made _ _ _) _
  | swizzle => exact .map (swizzle_made _ _) _
  | constantBool => exact .map (constantBool_made _) _
  | constantScalar => exact .map (constantScalar_made _ _) _
  | constantComposite => exact .map (constantComposite_made _ _) _
  | constUInt => exact .map (constantScalar_made _ _) _
  | constFloat => exact .map (constFloat_made _ _) _
  | constVector => exact .map (constVector_made _ _) _
  | sampledImage => exact .map (sampledImage_made _ _) _
  | imageSampleExplicitLod => exact .map (imageSampleExplicitLod_made _ _ _) _
  | sampleImage => exact .map (sampleImage_made _ _ _) _
  | decorate => exact .map (annotate_made _ (.decorate _ _ _)) _
  | decorateMember =>
      exact .map (.bind (.inspect fun _ => rfl) fun _ =>
        annotate_made _ (.decorateMember _ _ _ _)) _
  | descriptorBinding => exact .map (descriptorBinding_made _ _ _) _
  | storageBuffer => exact .map (storageBuffer_made _ _) _
  | uniformConstant => exact .map (globalVariable_made _ _) _
  | builtInInput => exact .map (builtInInput_made _ _) _
  | globalVariable => exact .map (globalVariable_made _ _) _
  | accessChain => exact .map (accessChain_made _ _) _
  | load => exact .map (load_made _) _
  | store => exact .map (store_made _ _) _
  | source => exact .map (.effect (.source _ _)) _
  | beginFunction | defineFunction | beginEntryPoint | name | nameMember => cases h

/-- **Every operation is made of steps.** -/
theorem Operation.run_made (o : Operation) : Made (Naming o.Effect) o.run := by
  by_cases h : o.isNaming
  · cases o with
    | beginFunction => exact .map (beginFunction_made _ _ _ _) _
    | defineFunction => exact .map (defineFunction_made _ _ _ _ _) _
    | beginEntryPoint => exact .map (beginEntryPoint_made _ _) _
    | name => exact .map (name_made _ _) _
    | nameMember => exact .map (nameMember_made _ _ _) _
    | _ => cases h
  · exact (o.run_made_of_not_naming (Bool.eq_false_iff.2 h)).naming

/-! ### What calls do to types -/

/-- The steps of single operations define no types and give no names, but one of them changes the
settings. -/
theorem Operation.Effect.terms {o : Operation} {f : Draft → Draft} (h : o.Effect f) (d : Draft) :
    (f d).terms = d.terms ∨ ∃ change, o = .configure change ∧ f d = d.configure change := by
  cases h with
  | configure change => exact .inr ⟨change, rfl, rfl⟩
  | decorate | decorateMember | set | binding | block | offset | nonWritable =>
      exact .inl (d.terms_addToAnnotations _)
  | builtIn builtIn t type id => exact .inl (Draft.terms_addToAnnotations _ (builtInRow id builtIn))
  | extension | bufferExtension => exact .inl (d.terms_addExtension _)
  | source language version => exact .inl (d.terms_addSource language version)
  | _ => exact .inl rfl

theorem Operation.Effect.types {o : Operation} {f : Draft → Draft} (h : o.Effect f) (d : Draft) :
    (f d).tables.types = d.tables.types := by
  rcases h.terms d with hsame | ⟨change, -, hf⟩
  · exact Draft.types_of_terms hsame
  · rw [hf]
    rfl

/-- Names are no types. -/
theorem Build.Naming.types {E : (Draft → Draft) → Prop}
    (hE : ∀ {f : Draft → Draft}, E f → ∀ d, (f d).tables.types = d.tables.types)
    {f : Draft → Draft} (h : Naming E f) (d : Draft) : (f d).tables.types = d.tables.types := by
  cases h with
  | effect hf => exact hE hf d
  | name target member i =>
      exact Draft.view_eq (d.bare_addName target member i) (·.tables.types) fun _ => rfl

namespace Build

variable {α : Type} {E : (Draft → Draft) → Prop}

/-- The call ends because a size or an id is no word. -/
def Overflows (call : Build α) (d : Draft) : Prop :=
  ∃ operation, (call.runOn d).1 = .error (.overflow operation)

/-- **What is kept by the steps that a call is made of, and by asking for types, the call keeps.** -/
theorem Made.keeps {P : Draft → Prop}
    (hstep : ∀ {f : Draft → Draft} {d : Draft}, Draft.Step f → (f d).terms = d.terms → P d → P (f d))
    (hE : ∀ {f : Draft → Draft} {d : Draft}, E f → P d → P (f d))
    (htype : ∀ t d, P d → P ((Build.typeId t).runOn d).2) {call : Build α} (h : Made E call)
    {d : Draft} (hd : P d) : P (call.runOn d).2 := by
  induction h generalizing d with
  | pure | reject | overflow => exact hd
  | inspect =>
      rw [runOn_inspect]
      exact hd
  | get _ _ ih => exact ih d hd
  | @bind _ _ call next _ _ ih ihnext =>
      have hcall := ih hd
      rw [runOn_bind]
      rcases hrun : call.runOn d with ⟨e | v, d'⟩
      · rw [hrun] at hcall
        exact hcall
      · rw [hrun] at hcall
        exact ihnext v hcall
  | freshId =>
      rw [runOn_freshId]
      split
      · exact hstep (.record _) rfl (hstep .take rfl hd)
      · exact hd
  | typeId t => exact htype t d hd
  | step hf h => exact hstep hf (h d) hd
  | effect hf => exact hE hf hd

/-- **What asking for types does to them, every call does**: if it keeps a property of the types unless
there is an overflow, then so does every call. -/
theorem Made.keeps_types {P : Draft → Prop}
    (hP : ∀ {d d' : Draft}, d'.tables.types = d.tables.types → P d → P d')
    (hE : ∀ {f : Draft → Draft}, E f → ∀ d, (f d).tables.types = d.tables.types)
    (htype : ∀ t d, P d → Overflows (Build.typeId t) d ∨ P ((Build.typeId t).runOn d).2)
    {call : Build α} (h : Made E call) {d : Draft} (hd : P d) :
    Overflows call d ∨ P (call.runOn d).2 := by
  induction h generalizing d with
  | pure | reject => exact .inr hd
  | overflow operation => exact .inl ⟨operation, rfl⟩
  | inspect =>
      rw [runOn_inspect]
      exact .inr hd
  | get _ _ ih => exact ih d hd
  | @bind _ _ call next _ _ ih ihnext =>
      have hcall := ih hd
      unfold Overflows at hcall ⊢
      rw [runOn_bind]
      rcases hrun : call.runOn d with ⟨e | v, d'⟩
      · rw [hrun] at hcall
        exact hcall.imp_left fun ⟨operation, h⟩ => ⟨operation, by rw [Except.error.inj h]⟩
      · rw [hrun] at hcall
        exact ihnext v (hcall.resolve_left fun ⟨_, h⟩ => nomatch h)
  | freshId =>
      rw [runOn_freshId]
      split
      · exact .inr (hP (d := d) rfl hd)
      · exact .inr hd
  | typeId t => exact htype t d hd
  | step _ h => exact .inr (hP (Draft.types_of_terms (h d)) hd)
  | effect hf => exact .inr (hP (hE hf d) hd)

end Build

end FrameShader
